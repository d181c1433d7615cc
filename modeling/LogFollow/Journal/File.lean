import LogFollow.Time.Iso

/-! # The log file of the development mode -/

namespace LogFollow.Journal
set_option autoImplicit false

open Number (padded)

def fileName (t : Time.DateTime) : String :=
  "tailscope_dev_" ++ Time.yearText t.date.year ++ padded 2 t.date.month ++ padded 2 t.date.day
    ++ "_" ++ padded 2 t.hour ++ padded 2 t.minute ++ padded 2 t.second ++ ".log"

/-- The name of the log file of a program started at `t`, if there is such a time. -/
def fileNameAt? (t : Time.DateTime) : Option String :=
  if t.isValid && Time.isCalendarTime (t.toSeconds * 1000) then some (fileName t) else none

def announcement (name : String) : String :=
  s!"Development mode enabled. Logs will be written to: {name}\n"

end LogFollow.Journal
