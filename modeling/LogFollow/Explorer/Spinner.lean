/-! # Spinners

A small picture that moves while a query is under way. -/

namespace LogFollow.Explorer
set_option autoImplicit false

/-- A spinner: its pictures, and the one that is shown. -/
structure Spinner where
  frames : List String
  place : Nat := 0
  deriving DecidableEq, Repr

namespace Spinner

def sets : List (List String) :=
  [["|", "/", "-", "\\"],
    ["⣾ ", "⣽ ", "⣻ ", "⢿ ", "⡿ ", "⣟ ", "⣯ ", "⣷ "],
    ["⠋", "⠙", "⠹", "⠸", "⠼", "⠴", "⠦", "⠧", "⠇", "⠏"],
    ["⢄", "⢂", "⢁", "⡁", "⡈", "⡐", "⡠"],
    ["█", "▓", "▒", "░"],
    ["∙∙∙", "●∙∙", "∙●∙", "∙∙●"],
    ["🌍", "🌎", "🌏"],
    ["🌑", "🌒", "🌓", "🌔", "🌕", "🌖", "🌗", "🌘"],
    ["🙈", "🙉", "🙊"]]

def ofSet (n : Nat) : Spinner := ⟨sets[n]?.getD [], 0⟩

def frame (s : Spinner) : String := s.frames[s.place]?.getD ""

/-- Goes to the next picture, and from the last to the first. -/
def tick (s : Spinner) : Spinner := { s with place := (s.place + 1) % s.frames.length }

end Spinner
end LogFollow.Explorer
