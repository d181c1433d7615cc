import LogFollow.Source.Error

/-! # Failures of the program

A failure has a text and, behind it, the texts of its causes. -/

namespace LogFollow
set_option autoImplicit false

/-- A failure with its causes, the outermost first. -/
structure Failure where
  text : String
  causes : List String := []
  deriving DecidableEq, Repr

namespace Failure

def ofSource (e : SourceError) : Failure := ⟨e.message, e.chain.drop 1⟩

/-- A failure as the cause of another one. -/
def inContext (text : String) (f : Failure) : Failure := ⟨text, f.text :: f.causes⟩

def line (f : Failure) : String := String.intercalate ": " (f.text :: f.causes)

/-- The causes of a failure, numbered if there are several. -/
def causeLines : List String → List String
  | [] => []
  | [cause] => ["    " ++ cause]
  | causes => causes.zipIdx.map fun (cause, i) => s!"    {i}: {cause}"

def report (f : Failure) : String :=
  let head := "Error: " ++ f.text ++ "\n"
  if f.causes.isEmpty then head
  else head ++ "\nCaused by:\n" ++ String.intercalate "\n" (causeLines f.causes) ++ "\n"

end Failure
end LogFollow
