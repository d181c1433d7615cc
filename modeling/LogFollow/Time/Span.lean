import LogFollow.Number.Bounded

/-! # Spans of time

A span is given on the command line as a number and a unit, such as `5m`, and shown in messages in
the largest unit that keeps it at one or more. -/

namespace LogFollow.Time
set_option autoImplicit false

open Number

inductive SpanError
  | empty
  | missingNumber
  | invalidNumber
  | missingUnit
  | invalidUnit (unit : String)
  | tooLarge (text : String)
  deriving DecidableEq, Repr

def SpanError.message : SpanError → String
  | .empty => "Duration string cannot be empty"
  | .missingNumber => "Missing numeric value in duration string"
  | .invalidNumber => "Invalid number in duration string"
  | .missingUnit => "Missing time unit. Expected format like '5s', '2m', '3h'"
  | .invalidUnit unit => s!"Invalid time unit '{unit}'. Supported units: s, m, h, d"
  | .tooLarge text => s!"Duration '{text}' is too large"

def unitSeconds : List Char → Option Nat
  | ['s'] => some 1
  | ['m'] => some 60
  | ['h'] => some 3600
  | ['d'] => some 86400
  | _ => none

def readSpan (s : String) : Except SpanError Int :=
  let digits := s.toList.takeWhile isDigit
  let unit := s.toList.dropWhile isDigit
  let number : Int := digitsValue digits
  if s.toList.isEmpty then .error .empty
  else if digits.isEmpty then .error .missingNumber
  else if maxSigned < number then .error .invalidNumber
  else if unit.isEmpty then .error .missingUnit
  else match unitSeconds unit with
    | none => .error (.invalidUnit (String.ofList unit))
    | some seconds =>
      if maxSigned < number * seconds then .error (.tooLarge s) else .ok (number * seconds)

/-- A fraction of three digits without the zeros at its end. -/
def fractionText (thousandths : Nat) : String :=
  String.ofList ((padded 3 thousandths).toList.reverse.dropWhile (· == '0')).reverse

/-- A number of milliseconds in seconds or, below one second, in milliseconds. -/
def spanText (millis : Nat) : String :=
  if millis == 0 then "0ns"
  else if millis < 1000 then s!"{millis}ms"
  else if millis % 1000 == 0 then s!"{millis / 1000}s"
  else s!"{millis / 1000}.{fractionText (millis % 1000)}s"

end LogFollow.Time
