import LogFollow.Event.Basic

/-! # Output formats

An event is printed on one line: as text, or as a JSON object whose keys are sorted. -/

namespace LogFollow.Output
set_option autoImplicit false

inductive Format
  | text
  | json
  deriving DecidableEq, Repr

def Format.name : Format → String
  | .text => "text"
  | .json => "json"

def Format.ofName? (name : String) : Option Format :=
  if name == "text" then some .text else if name == "json" then some .json else none

def unsupported (name : String) : String := s!"Unsupported output format: {name}"

/-- An event as a JSON value with sorted keys. -/
def jsonOf (e : Event) : Json.Value :=
  .object [("ingestionTime", .number (.int e.ingestion)), ("message", .string e.message),
    ("timestamp", .string e.iso), ("timestampMillis", .number (.int e.timestamp))]

/-- The line of an event, without its end. -/
def Format.line : Format → Event → String
  | .text, e => e.line
  | .json, e => (jsonOf e).text

end LogFollow.Output
