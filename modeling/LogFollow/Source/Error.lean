/-! # Failures of a log source -/

namespace LogFollow
set_option autoImplicit false

inductive SourceError
  /-- The source could not be reached; the causes go from the outermost to the innermost. -/
  | transport (causes : List String)
  | unauthorized (status : Nat) (message : String)
  | throttled (message : String)
  | rejected (status : Nat) (message : String)
  | invalidResponse (message : String)
  | unavailable (message : String)
  deriving DecidableEq, Repr

namespace SourceError

def message : SourceError → String
  | .transport causes => "transport failure talking to log source: " ++ causes.headD ""
  | .unauthorized status message => s!"log source rejected credentials ({status}): {message}"
  | .throttled message => s!"log source throttled the request: {message}"
  | .rejected status message => s!"log source rejected the request ({status}): {message}"
  | .invalidResponse message => s!"invalid response from log source: {message}"
  | .unavailable message => s!"log source unavailable: {message}"

def isTransient : SourceError → Bool
  | .transport _ | .throttled _ | .unavailable _ => true
  | _ => false

/-- The text of a failure and of its causes, from the outermost to the innermost. -/
def chain (e : SourceError) : List String :=
  e.message :: match e with
    | .transport causes => causes
    | _ => []

end SourceError
end LogFollow
