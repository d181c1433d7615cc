import LogFollow.Source.Page
import LogFollow.Source.Request
import LogFollow.Text.Blank
import LogFollow.Text.Infix
import LogFollow.Text.Lowercase

/-! # Log sources reached over HTTP

Each page request is one exchange: the request is posted to an endpoint, and the status of the
response tells whether its body is a page or a failure. -/

namespace LogFollow.Http
set_option autoImplicit false

open Json

inductive Reply
  /-- No response came; the causes go from the outermost to the innermost. -/
  | lost (causes : List String)
  | response (status : Nat) (body : String)
  deriving DecidableEq, Repr

/-- The standard reason of the statuses that mean an unavailable source. -/
def unavailableReason (status : Nat) : Option String :=
  if status == 502 then some "Bad Gateway"
  else if status == 503 then some "Service Unavailable"
  else if status == 504 then some "Gateway Timeout"
  else none

/-- An optional text of a failure's body. -/
def textOfRaw : Raw → Option (Option String)
  | .null => some none
  | .string pieces => (text? pieces).map some
  | _ => none

/-- A part of a failure's body, which may be missing. -/
def textPart (part : Option Raw) : Option (Option String) := (part.map textOfRaw).getD (some none)

/-- The parts of a failure's body: an object with a type and a message, or an array of the two. -/
def failureParts : Raw → Option (Option Raw × Option Raw)
  | .array items => if items.length ≤ 2 then some (items[0]?, items[1]?) else none
  | .object entries => do
    let named ← entries.mapM fun (key, value) => (text? key).map (·, value)
    let part := fun (keys : List String) =>
      Page.single? ((named.filter fun e => keys.contains e.1).map (·.2))
    some (← part ["__type"], ← part ["message", "Message"])
  | _ => none

/-- The type and the message of a failure's body, if it has that form. -/
def failureBody (body : String) : Option (Option String × Option String) := do
  let (type, message) ← failureParts (← Raw.read body)
  some (← textPart type, ← textPart message)

/-- The failure that a response without success stands for. -/
def failureOf (status : Nat) (body : String) : SourceError :=
  let (type, message) := (failureBody body).getD (none, none)
  let type := type.getD ""
  let message := message.getD (Text.trim body)
  if status == 429 || Text.occurs "ThrottlingException" type then .throttled message
  else if status == 401 || status == 403 then .unauthorized status message
  else match unavailableReason status with
    | some reason => .unavailable s!"{status} {reason}: {message}"
    | none => .rejected status message

def Reply.answer : Reply → Answer
  | .lost causes => .error (.transport causes)
  | .response status body =>
    if 200 ≤ status && status < 300 then Page.read body else .error (failureOf status body)

/-- Characters of header names besides letters and digits. -/
def tokenMarks : List Char := "!#$%&'*+-.^_`|~".toList

def isTokenChar (c : Char) : Bool :=
  ('a' ≤ c && c ≤ 'z') || ('A' ≤ c && c ≤ 'Z') || ('0' ≤ c && c ≤ '9') || tokenMarks.contains c

def isHeaderName (s : String) : Bool := !s.toList.isEmpty && s.toList.all isTokenChar

def isHeaderValue (s : String) : Bool :=
  s.toList.all fun c => c == '\t' || (0x20 ≤ c.toNat && c.toNat != 0x7f)

structure Client where
  endpoint : String
  /-- Headers sent with every request, by their names in lower case. -/
  headers : List (String × String) := []
  deriving DecidableEq, Repr

/-- Puts a header over an older one of that name. -/
def putHeader (name value : String) (headers : List (String × String)) : List (String × String) :=
  headers.filter (·.1 != name) ++ [(name, value)]

/-- The headers of a client, if all names and values are allowed. -/
def checkHeaders : List (String × String) → List (String × String) →
    Except SourceError (List (String × String))
  | [], checked => .ok checked
  | (name, value) :: rest, checked =>
    if !isHeaderName name then
      .error (.rejected 0 s!"invalid header name '{name}': invalid HTTP header name")
    else
      let name := Text.lowercase name
      if !isHeaderValue value then
        .error (.rejected 0 s!"invalid value for header '{name}': failed to parse header value")
      else checkHeaders rest (putHeader name value checked)

/-- A client that sends these headers with every request. -/
def Client.create (endpoint : String) (headers : List (String × String)) :
    Except SourceError Client :=
  (checkHeaders headers []).map fun checked => ⟨endpoint, checked⟩

def Client.entry (c : Client) (given : Nat) : Journal.Entry :=
  ⟨.info, .source, s!"HTTP_BACKEND: Created backend for endpoint {c.endpoint} with {given} extra headers"⟩

end LogFollow.Http
