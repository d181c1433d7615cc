import LogFollow.Explorer.Editor
import LogFollow.Explorer.Keymap
import LogFollow.Explorer.Layout
import LogFollow.Explorer.Spinner
import LogFollow.Explorer.View
import LogFollow.Failure

/-! # The session

The state of the explorer. All that happens reaches it as a message, one at a time; what is to be
done in return is a command. A closed session takes no further message. -/

namespace LogFollow.Explorer
set_option autoImplicit false

inductive Fatal
  | source (e : SourceError)
  | terminal (text : String)
  deriving DecidableEq, Repr

def Fatal.message : Fatal → String
  | .source e => s!"log source failed: {e.message}"
  | .terminal text => s!"terminal I/O failed: {text}"

def Fatal.failure (f : Fatal) : Failure :=
  ⟨f.message, match f with
    | .source e => e.chain
    | .terminal text => [text]⟩

inductive Closing
  | quit
  | fatal (f : Fatal)
  deriving DecidableEq, Repr

inductive Message
  | key (p : KeyPress)
  | resized (width height : Nat)
  | tick
  | arrived (e : Event)
  | sourceFailed (e : SourceError)
  | answered (result : Except QueryError QueryResult)
  | terminalFailed (text : String)

/-- What a session wants to be done. -/
inductive Command
  /-- Run a query; a local one looks at the given events. -/
  | ask (term : String) (mode : QueryMode) (corpus : List Event)
  | shutDown
  deriving DecidableEq, Repr

inductive Status
  | found (term : String) (count : Nat)
  | nothing (term : String)
  | failed (term text : String)
  deriving DecidableEq, Repr

def Status.message : Status → String
  | .found term count => s!"{count} matches for \"{term}\""
  | .nothing term => s!"No matches for \"{term}\""
  | .failed _ text => s!"Query failed: {text}"

def queryPrompt : String := "Query: "

structure Options where
  keymap : Keymap
  capacity : Nat
  mode : QueryMode
  /-- The spinner set for each query, counted from zero. -/
  spinnerSet : Nat → Nat

structure Session where
  options : Options
  focus : Focus := .log
  load : Load := .idle
  editor : Editor := { prompt := queryPrompt }
  view : View
  /-- The events received so far, as many as the session holds. -/
  corpus : List Event := []
  /-- The term that new events must match to be shown. -/
  filter : Option String := none
  /-- The number of queries so far. -/
  asked : Nat := 0
  spinner : Spinner := .ofSet 0
  status : Option Status := none
  closing : Option Closing := none

namespace Session

def new (options : Options) : Session := { options := options, view := .new options.capacity }

/-- The number of events that a session holds, at least one. -/
def capacity (s : Session) : Nat := max s.options.capacity 1

def isClosed (s : Session) : Bool := s.closing.isSome

def remembered (s : Session) (corpus : List Event) : List Event :=
  corpus.drop (corpus.length - s.capacity)

/-- Takes an event. It is shown if it matches the filter, or if there is none. -/
def receive (s : Session) (e : Event) : Session :=
  let s := { s with corpus := s.remembered (s.corpus ++ [e]) }
  match s.filter with
  | none => { s with view := s.view.push e none }
  | some term =>
    match Search.findMatch e.message term with
    | some span => { s with view := s.view.push e (some span) }
    | none => s

def receiveAll (s : Session) (events : List Event) : Session := events.foldl receive s

def initialEntry (events : List Event) : Journal.Entry :=
  ⟨.info, .session, s!"SESSION: Loading {events.length} initial events"⟩

def close (s : Session) (reason : Closing) : Session × Option Command :=
  ({ s with closing := some reason }, some .shutDown)

def ask (s : Session) : Session × Option Command :=
  let corpus := match s.options.mode with
    | .received => s.corpus
    | .source => []
  ({ s with
      editor := s.editor.submit
      focus := .log
      load := .querying
      asked := s.asked + 1
      spinner := .ofSet (s.options.spinnerSet s.asked)
      status := none },
    some (.ask s.editor.value s.options.mode corpus))

def logKey (s : Session) (p : KeyPress) : Session × Option Command :=
  let keymap := s.options.keymap
  if keymap.quit.accepts p then s.close .quit
  else if keymap.switchFocus.accepts p then
    (if s.load = .querying then s else { s with focus := .query }, none)
  else if keymap.scrollUp.accepts p then ({ s with view := s.view.scrollUp 1 }, none)
  else if keymap.scrollDown.accepts p then ({ s with view := s.view.scrollDown 1 }, none)
  else if keymap.pageUp.accepts p then ({ s with view := s.view.scrollUp s.view.page }, none)
  else if keymap.pageDown.accepts p then ({ s with view := s.view.scrollDown s.view.page }, none)
  else (s, none)

def queryKey (s : Session) (p : KeyPress) : Session × Option Command :=
  if s.options.keymap.switchFocus.accepts p then ({ s with focus := .log }, none)
  else if s.options.keymap.submit.accepts p then s.ask
  else ({ s with editor := (s.editor.press p).1 }, none)

/-- A key. Ctrl+C closes the session wherever the focus is. -/
def pressed (s : Session) (p : KeyPress) : Session × Option Command :=
  if p.key = .char 'c' ∧ p.ctrl = true then s.close .quit
  else match s.focus with
    | .log => s.logKey p
    | .query => s.queryKey p

def statusOf (r : QueryResult) : Status :=
  if r.hits.isEmpty then .nothing r.term else .found r.term r.hits.length

/-- The outcome of the query that is under way. A result replaces the view and its term is the new
filter; a failure leaves both as they are. -/
def conclude (s : Session) (result : Except QueryError QueryResult) : Session :=
  match s.load with
  | .idle => s
  | .querying =>
    let s := { s with load := .idle, focus := .log }
    match result with
    | .ok r =>
      { s with
        status := some (statusOf r)
        filter := if r.term == "" then none else some r.term
        view := s.view.replace r.hits }
    | .error e => { s with status := some (.failed s.editor.value e.message) }

def resized (s : Session) (area : Rect) : Session :=
  let (width, height) := logExtent area
  { s with view := s.view.resize width height }

/-- The spinner moves while a query is under way. -/
def ticked (s : Session) : Session :=
  if s.load = .querying then { s with spinner := s.spinner.tick } else s

/-- What a message makes of a session that is open. -/
def take (s : Session) : Message → Session × Option Command
  | .key p => s.pressed p
  | .resized width height => (s.resized (.of 0 0 width height), none)
  | .tick => (s.ticked, none)
  | .arrived e => (s.receive e, none)
  | .sourceFailed e => s.close (.fatal (.source e))
  | .answered result => (s.conclude result, none)
  | .terminalFailed text => s.close (.fatal (.terminal text))

def update (s : Session) (m : Message) : Session × Option Command :=
  if s.isClosed then (s, none) else s.take m

def updateAll (s : Session) : List Message → Session × List Command
  | [] => (s, [])
  | m :: ms =>
    let (s, command) := s.update m
    let (s, commands) := s.updateAll ms
    (s, command.toList ++ commands)

/-- Takes the reason of the closing away, which opens the session again. -/
def takeClosing (s : Session) : Session × Option Closing := ({ s with closing := none }, s.closing)

end Session
end LogFollow.Explorer
