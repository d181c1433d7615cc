import LogFollow.Json.Printer
import LogFollow.Time.Iso

/-! # Log events

An event has the time that its source gave it, the time at which the source took it in, and a
message. Times are milliseconds since the start of 1970. -/

namespace LogFollow
set_option autoImplicit false

structure Event where
  timestamp : Int
  ingestion : Int
  message : String
  deriving DecidableEq, Repr

namespace Event

/-- The time of an event, to the second. -/
def iso (e : Event) : String := Time.isoText e.timestamp

/-- What stands before the message on a line: the time and two spaces. -/
def heading (e : Event) : String := e.iso ++ "  "

def line (e : Event) : String := e.heading ++ e.message

/-- An event as a JSON value with its fields in the order of their declaration. -/
def toJson (e : Event) : Json.Value :=
  .object [("timestamp", .number (.int e.timestamp)), ("ingestionTime", .number (.int e.ingestion)),
    ("message", .string e.message)]

def notLater (a b : Event) : Bool := a.timestamp ≤ b.timestamp

end Event
end LogFollow
