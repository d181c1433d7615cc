/-! # Windows

A window says which events of a log group are wanted: a range of times, both ends included, the
number of latest events to keep, a filter that the source applies, and the streams to read. -/

namespace LogFollow
set_option autoImplicit false

structure Window where
  group : String
  /-- The first wanted millisecond, if there is one. -/
  start : Option Int := none
  /-- The last wanted millisecond, if there is one. -/
  stop : Option Int := none
  /-- How many of the latest events to keep; zero keeps all. -/
  limit : Nat := 0
  filter : Option String := none
  /-- The streams to read; none given means all of the group. -/
  streams : List String := []
  deriving DecidableEq, Repr

end LogFollow
