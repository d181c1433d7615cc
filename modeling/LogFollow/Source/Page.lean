import LogFollow.Event.Decode
import LogFollow.Journal.Entry
import LogFollow.Source.Error

/-! # Pages

A page holds events and, unless it is the last, the token of the next page. Events of a page that
are malformed are dropped, so that one bad event does not spoil the others. -/

namespace LogFollow
set_option autoImplicit false

open Json

/-- One page of events, in the order of the source. -/
structure Page where
  events : List Event
  token : Option String := none
  /-- What was dropped because it is no event. -/
  dropped : List Event.Malformed := []
  deriving Repr

abbrev Answer := Except SourceError Page

namespace Page

def eventsOf (values : List Value) : List Event :=
  values.filterMap fun v => match Event.ofValue v with
    | .ok e => some e
    | .error _ => none

def droppedOf (values : List Value) : List Event.Malformed :=
  values.filterMap fun v => match Event.ofValue v with
    | .ok _ => none
    | .error m => some m

/-- The values listed under the events of a page. -/
def valuesOf : Raw → Option (List Value)
  | .array items => itemValues? (maxDepth - 2) items
  | _ => none

/-- The token of a page: none may be written as null or as the empty text. -/
def tokenOf : Raw → Option (Option String)
  | .null => some none
  | .string pieces => (text? pieces).map some
  | _ => none

/-- A part that may be missing but not repeated. -/
def single? {α : Type} : List α → Option (Option α)
  | [] => some none
  | [a] => some (some a)
  | _ => none

/-- The parts of a page: an object with the fields `events` and `nextToken`, or an array of the
two. Each part may be missing. -/
def parts : Raw → Option (Option Raw × Option Raw)
  | .array items => if items.length ≤ 2 then some (items[0]?, items[1]?) else none
  | .object entries => do
    let named ← entries.mapM fun (key, value) => (text? key).map (·, value)
    let part := fun key => single? ((named.filter (·.1 == key)).map (·.2))
    some (← part "events", ← part "nextToken")
  | _ => none

def ofRaw (raw : Raw) : Option Page := do
  let (events, token) ← parts raw
  let values ← (events.map valuesOf).getD (some [])
  let token ← (token.map tokenOf).getD (some none)
  some { events := eventsOf values, token := token.filter (· != ""), dropped := droppedOf values }

def read (body : String) : Answer :=
  match Raw.read body >>= ofRaw with
  | some page => .ok page
  | none => .error (.invalidResponse "undecodable page: not a page of events")

def entries (p : Page) : List Journal.Entry :=
  p.dropped.map fun m => ⟨.warn, .source, s!"HTTP_BACKEND: Dropping event: {m.message}"⟩

end Page
end LogFollow
