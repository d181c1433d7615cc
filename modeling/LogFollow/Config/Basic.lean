import LogFollow.Search.Query

/-! # Configuration

What the user has set once and for all: the stream, the queries, the explorer, its keys, and the
log source with the headers for it. -/

namespace LogFollow
set_option autoImplicit false

/-- The greatest number of events that one query may keep. -/
def maxQueryLimit : Nat := 10000

/-- The actions of the explorer that have a key of their own. -/
inductive Action
  | switchFocus | submit | quit | scrollUp | scrollDown | pageUp | pageDown
  deriving DecidableEq, Repr

/-- All actions, in their order in the configuration. -/
def Action.all : List Action :=
  [.switchFocus, .submit, .quit, .scrollUp, .scrollDown, .pageUp, .pageDown]

def Action.name : Action → String
  | .switchFocus => "switch_focus"
  | .submit => "submit"
  | .quit => "quit"
  | .scrollUp => "scroll_up"
  | .scrollDown => "scroll_down"
  | .pageUp => "page_up"
  | .pageDown => "page_down"

def Action.defaultKey : Action → String
  | .switchFocus => "tab"
  | .submit => "enter"
  | .quit => "q"
  | .scrollUp => "k"
  | .scrollDown => "j"
  | .pageUp => "h"
  | .pageDown => "l"

structure Config where
  logGroup : Option String := none
  /-- The milliseconds between two polls of a stream. -/
  pollInterval : Nat := 2000
  channelCapacity : Nat := 1024
  queryMode : String := "backend"
  queryLimit : Nat := maxQueryLimit
  /-- How many events the explorer holds. -/
  bufferSize : Nat := 10000
  theme : String := "auto"
  /-- The milliseconds between two frames of the spinner. -/
  tickRate : Nat := 100
  keys : Action → String := Action.defaultKey
  endpoint : String := "http://localhost:4566"
  /-- Headers for every request, in the order of their names. -/
  headers : List (String × String) := []

def Config.mode (c : Config) : QueryMode := if c.queryMode == "local" then .received else .source

end LogFollow
