import LogFollow.Source.Window

/-! # The cursor of a stream

A stream is polled again and again. The cursor keeps the latest time among the events already
passed on, and each poll asks for what lies behind it. -/

namespace LogFollow.Stream
set_option autoImplicit false

/-- What a stream reads, and how. -/
structure Config where
  group : String
  start : Option Int := none
  /-- The last wanted millisecond; without it the stream has no end. -/
  stop : Option Int := none
  /-- How many of the latest events the first fetch keeps; zero keeps all. -/
  limit : Nat := 0
  filter : Option String := none
  streams : List String := []
  /-- The milliseconds between two polls. -/
  poll : Nat := 2000
  /-- How many events wait for a reader; at least one. -/
  capacity : Nat := 1024
  deriving DecidableEq, Repr

/-- The latest time among the events that were passed on. -/
structure Cursor where
  last : Option Int := none
  deriving DecidableEq, Repr

namespace Cursor

/-- Moves past an event; the cursor never moves back. -/
def advance (c : Cursor) (timestamp : Int) : Cursor :=
  match c.last with
  | some last => if timestamp ≤ last then c else ⟨some timestamp⟩
  | none => ⟨some timestamp⟩

/-- The first time to ask for: behind the cursor, or where the stream starts. Behind the last time
there is none, and the last time itself is asked for again. -/
def from? (c : Cursor) (config : Config) : Option Int :=
  match c.last with
  | some last => some (min (last + 1) 9223372036854775807)
  | none => config.start

/-- The window of the next poll; none if it would be empty. -/
def window (c : Cursor) (config : Config) (now : Int) : Option Window :=
  let stop := config.stop.getD now
  if (c.from? config).any (stop < ·) then none
  else some
    { group := config.group
      start := c.from? config
      stop := some stop
      limit := if c.last.isSome then 0 else config.limit
      filter := config.filter
      streams := config.streams }

end Cursor
end LogFollow.Stream
