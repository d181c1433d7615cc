/-! # The Gregorian calendar

Days are counted from the first of January 1970, in the calendar extended to all years. A year
starts in March here, so that the leap day is its last day; 400 years make an era of 146097 days. -/

namespace LogFollow.Time
set_option autoImplicit false

structure Date where
  year : Int
  month : Nat
  day : Nat
  deriving DecidableEq, Repr

def isLeap (year : Int) : Bool := year % 4 == 0 && (year % 100 != 0 || year % 400 == 0)

def daysInMonth (year : Int) (month : Nat) : Nat :=
  if month == 2 then if isLeap year then 29 else 28
  else if month == 4 || month == 6 || month == 9 || month == 11 then 30
  else 31

def Date.isValid (d : Date) : Bool :=
  1 ≤ d.month && d.month ≤ 12 && 1 ≤ d.day && d.day ≤ daysInMonth d.year d.month

/-- The number of a day, zero for the first of January 1970. -/
def Date.toDays (d : Date) : Int :=
  let y := if d.month ≤ 2 then d.year - 1 else d.year
  let era := y / 400
  let yearOfEra := y % 400
  let monthOfYear : Int := ((d.month : Int) + 9) % 12
  let dayOfYear := (153 * monthOfYear + 2) / 5 + (d.day : Int) - 1
  let dayOfEra := yearOfEra * 365 + yearOfEra / 4 - yearOfEra / 100 + dayOfYear
  era * 146097 + dayOfEra - 719468

def Date.ofDays (n : Int) : Date :=
  let z := n + 719468
  let era := z / 146097
  let dayOfEra := z % 146097
  let yearOfEra := (dayOfEra - dayOfEra / 1460 + dayOfEra / 36524 - dayOfEra / 146096) / 365
  let dayOfYear := dayOfEra - (365 * yearOfEra + yearOfEra / 4 - yearOfEra / 100)
  let monthOfYear := (5 * dayOfYear + 2) / 153
  let day := dayOfYear - (153 * monthOfYear + 2) / 5 + 1
  let month := if monthOfYear < 10 then monthOfYear + 3 else monthOfYear - 9
  let year := yearOfEra + era * 400 + if month ≤ 2 then 1 else 0
  ⟨year, month.toNat, day.toNat⟩

structure DateTime where
  date : Date
  hour : Nat
  minute : Nat
  second : Nat
  deriving DecidableEq, Repr

def DateTime.isValid (t : DateTime) : Bool :=
  t.date.isValid && t.hour < 24 && t.minute < 60 && t.second < 60

/-- The number of a second, zero for the start of 1970. -/
def DateTime.toSeconds (t : DateTime) : Int :=
  t.date.toDays * 86400 + (t.hour : Int) * 3600 + (t.minute : Int) * 60 + (t.second : Int)

def DateTime.ofSeconds (n : Int) : DateTime :=
  let inDay := (n % 86400).toNat
  { date := Date.ofDays (n / 86400)
    hour := inDay / 3600
    minute := inDay / 60 % 60
    second := inDay % 60 }

end LogFollow.Time
