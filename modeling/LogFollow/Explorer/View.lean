import LogFollow.Event.Basic
import LogFollow.Explorer.Wrap
import LogFollow.Search.Query

/-! # The log view

A bounded list of events with their wrapped rows, and a window over the rows. The window follows
the last row until the reader scrolls up, and again once it is back at the bottom. -/

namespace LogFollow.Explorer
set_option autoImplicit false

structure Item where
  event : Event
  /-- The stretch of the message that is highlighted. -/
  highlight : Option Span
  /-- The line of the event, wrapped. -/
  rows : List (List Char)
  deriving DecidableEq, Repr

namespace Item

def of (width : Nat) (event : Event) (highlight : Option Span) : Item :=
  ⟨event, highlight, wrap width event.line.toList⟩

def rewrap (width : Nat) (i : Item) : Item := of width i.event i.highlight

/-- Rows with the number of characters before each, counted from `start`. -/
def placed (start : Nat) : List (List Char) → List (Nat × List Char)
  | [] => []
  | row :: rows => (start, row) :: placed (start + row.length) rows

end Item

def rowCount (items : List Item) : Nat := items.foldr (fun i n => i.rows.length + n) 0

structure View where
  /-- The events, the oldest first. -/
  items : List Item := []
  capacity : Nat
  total : Nat := 0
  width : Nat := 80
  height : Nat := 20
  /-- The first row in the window. -/
  offset : Nat := 0
  /-- Whether the window follows the last row. -/
  following : Bool := true
  deriving DecidableEq, Repr

namespace View

/-- An empty view; it holds at least one event. -/
def new (capacity : Nat) : View := { capacity := max capacity 1 }

def maxOffset (v : View) : Nat := v.total - v.height

/-- Goes to the last row and follows it. -/
def toBottom (v : View) : View := { v with offset := v.maxOffset, following := true }

/-- Keeps the window on the rows. -/
def settle (v : View) : View :=
  { v with offset := if v.following then v.maxOffset else min v.offset v.maxOffset }

/-- Gives the window a size. A new width wraps all events anew. -/
def resize (v : View) (width height : Nat) : View :=
  let width := max width 1
  let v :=
    if width = v.width then v
    else
      let items := v.items.map (Item.rewrap width)
      { v with items := items, total := rowCount items, width := width }
  { v with height := height }.settle

/-- Drops the oldest events over the capacity. The window stays on its rows unless it follows. -/
def evict (v : View) : View :=
  let surplus := v.items.length - v.capacity
  let removed := rowCount (v.items.take surplus)
  { v with
    items := v.items.drop surplus
    total := v.total - removed
    offset := if v.following then v.offset else v.offset - removed }

/-- Goes to the last row if the window follows it. -/
def follow (v : View) : View := if v.following then v.toBottom else v

def push (v : View) (event : Event) (highlight : Option Span) : View :=
  let item := Item.of v.width event highlight
  { v with items := v.items ++ [item], total := v.total + item.rows.length }.evict.follow

/-- Replaces all events by the last ones of a query's hits. -/
def replace (v : View) (hits : List Hit) : View :=
  let kept := hits.drop (hits.length - v.capacity)
  let items := kept.map fun h => Item.of v.width h.event h.highlight
  { v with items := items, total := rowCount items, offset := 0 }.follow

/-- Scrolls up and no longer follows. -/
def scrollUp (v : View) (n : Nat) : View := { v with offset := v.offset - n, following := false }

/-- Scrolls down; at the bottom the view follows again. -/
def scrollDown (v : View) (n : Nat) : View :=
  let offset := min (v.offset + n) v.maxOffset
  { v with offset := offset, following := v.maxOffset ≤ offset }

def page (v : View) : Nat := max v.height 1

def events (v : View) : List Event := v.items.map (·.event)

def lines (v : View) : List String := v.items.map (·.event.line)

/-- All rows, each with its item and its place in the item's line. -/
def allRows (v : View) : List (Item × Nat × List Char) :=
  v.items.flatMap fun i => (Item.placed 0 i.rows).map fun row => (i, row)

def visibleRows (v : View) : List (Item × Nat × List Char) :=
  (v.allRows.drop v.offset).take v.height

def visibleText (v : View) : List String :=
  v.visibleRows.map fun (_, _, row) => String.ofList (drawn row)

end View
end LogFollow.Explorer
