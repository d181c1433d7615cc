import LogFollow.Number.Bounded
import LogFollow.Time.Calendar

/-! # Times as text

Times are milliseconds since the start of 1970. They are written to the second in the form
`2024-01-31T12:00:00Z`, and read from such texts with fractions and zone offsets. -/

namespace LogFollow.Time
set_option autoImplicit false

open Number

/-- The first millisecond of the years that can be written, the year -262143. -/
def firstMillis : Int := DateTime.toSeconds ⟨⟨-262143, 1, 1⟩, 0, 0, 0⟩ * 1000

/-- The last millisecond of the years that can be written, the year 262142. -/
def lastMillis : Int := DateTime.toSeconds ⟨⟨262142, 12, 31⟩, 23, 59, 59⟩ * 1000 + 999

def isCalendarTime (millis : Int) : Bool := firstMillis ≤ millis && millis ≤ lastMillis

/-- A year: four digits, or a sign and at least four digits outside of the years 0 to 9999. -/
def yearText (year : Int) : String :=
  if 0 ≤ year ∧ year ≤ 9999 then padded 4 year.toNat
  else (if year < 0 then "-" else "+") ++ padded 4 year.natAbs

/-- A date and time of day, to the second. -/
def DateTime.isoText (t : DateTime) : String :=
  yearText t.date.year ++ "-" ++ padded 2 t.date.month ++ "-" ++ padded 2 t.date.day
    ++ "T" ++ padded 2 t.hour ++ ":" ++ padded 2 t.minute ++ ":" ++ padded 2 t.second ++ "Z"

/-- A time to the second, cut toward the past; a time that cannot be written is given by its
milliseconds. -/
def isoText (millis : Int) : String :=
  if isCalendarTime millis then (DateTime.ofSeconds (millis / 1000)).isoText else toString millis

/-- Reads exactly `n` digits. -/
def takeDigits (n : Nat) (cs : List Char) : Option (Nat × List Char) :=
  let digits := cs.take n
  if digits.length == n && digits.all isDigit then some (digitsValue digits, cs.drop n) else none

def takeChar (c : Char) : List Char → Option (List Char)
  | [] => none
  | d :: cs => if c == d then some cs else none

/-- Reads a fraction of a second and gives its whole milliseconds, zero if there is none. -/
def takeFraction : List Char → Option (Nat × List Char)
  | '.' :: cs =>
    let digits := cs.takeWhile isDigit
    if digits.isEmpty then none
    else some (digitsValue ((digits ++ ['0', '0']).take 3), cs.dropWhile isDigit)
  | cs => some (0, cs)

/-- Reads hours and minutes behind the sign of an offset, in seconds; an offset stays below a
day. -/
def takeOffset (cs : List Char) : Option (Nat × List Char) := do
  let (hours, cs) ← takeDigits 2 cs
  let cs ← takeChar ':' cs
  let (minutes, cs) ← takeDigits 2 cs
  if hours < 24 && minutes < 60 then some (hours * 3600 + minutes * 60, cs) else none

/-- Reads the zone of a time, the seconds by which it is ahead. -/
def takeZone : List Char → Option (Int × List Char)
  | 'Z' :: cs | 'z' :: cs => some (0, cs)
  | '+' :: cs => (takeOffset cs).map fun (n, cs) => ((n : Int), cs)
  | '-' :: cs | '\u2212' :: cs => (takeOffset cs).map fun (n, cs) => (-(n : Int), cs)
  | _ => none

/-- Reads a time with its zone and gives its milliseconds. Second 60 is the second after second
59. -/
def readIso (s : String) : Option Int := do
  let (year, cs) ← takeDigits 4 s.toList
  let cs ← takeChar '-' cs
  let (month, cs) ← takeDigits 2 cs
  let cs ← takeChar '-' cs
  let (day, cs) ← takeDigits 2 cs
  let cs ← (takeChar 'T' cs).or ((takeChar 't' cs).or (takeChar ' ' cs))
  let (hour, cs) ← takeDigits 2 cs
  let cs ← takeChar ':' cs
  let (minute, cs) ← takeDigits 2 cs
  let cs ← takeChar ':' cs
  let (second, cs) ← takeDigits 2 cs
  let (millis, cs) ← takeFraction cs
  let (offset, cs) ← takeZone cs
  let whole : DateTime := ⟨⟨year, month, day⟩, hour, minute, 0⟩
  if whole.isValid && second ≤ 60 && cs.isEmpty then
    some ((whole.toSeconds + (second : Int) - offset) * 1000 + (millis : Int))
  else none

end LogFollow.Time
