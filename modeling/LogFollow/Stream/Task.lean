import LogFollow.Fetch
import LogFollow.Stream.Cursor
import LogFollow.Time.Span

/-! # The stream task

The task polls its source, passes the events on through a bounded queue, and rests until the next
poll. It stops when its window has an end and nothing is left before it, when a fetch fails, when
nobody reads the queue any more, or when it is cancelled. A state holds the task together with the
queue and the slot for its failure, and `step` says what each move of the task or of its
surroundings does; a move that is not possible gives none. -/

namespace LogFollow.Stream
set_option autoImplicit false

inductive Phase
  | polling
  | fetching (f : Fetch)
  /-- The events of the last fetch that are not in the queue yet. -/
  | sending (rest : List Event)
  | reporting (e : SourceError)
  | resting
  | stopped
  deriving Repr

/-- The task, its queue and its surroundings. -/
structure State where
  phase : Phase := .polling
  cursor : Cursor := {}
  cycles : Nat := 0
  emitted : Nat := 0
  queue : List Event := []
  /-- Whether somebody still reads the queue. -/
  receiving : Bool := true
  /-- The failure that was handed over and not yet taken. -/
  report : Option SourceError := none
  cancelled : Bool := false
  deriving Repr

def State.isStopped (s : State) : Bool :=
  match s.phase with
  | .stopped => true
  | _ => false

/-- A move: the first six are the task's, the others those of its reader and its owner. -/
inductive Move
  | poll (now : Int)
  | answer (a : Answer)
  | send
  | report
  | wake
  | halt
  | take
  | takeReport
  | leave
  | cancel

/-- What a move of the task does besides changing the state. -/
inductive Happening
  | polled (cycle : Nat) (w : Window)
  | skipped (cycle : Nat)
  | reachedEnd
  | requested (r : Request)
  | answered (f : Fetch) (a : Answer)
  | fetchFailed (cycle : Nat) (e : SourceError)
  | emitted (e : Event)
  | readerGone
  | reported (e : SourceError)
  | stopped (cycles emitted : Nat) (last : Option Int)
  deriving Repr

/-- The state of a task that has stopped, and what happened. -/
def State.stop (s : State) (happened : List Happening) : State × List Happening :=
  ({ s with phase := .stopped }, happened ++ [.stopped s.cycles s.emitted s.cursor.last])

/-- Whether the task waits at a place where it notices a cancellation. -/
def Phase.isWaiting : Phase → Bool
  | .fetching _ | .sending (_ :: _) | .reporting _ | .resting => true
  | _ => false

def State.poll (config : Config) (s : State) (now : Int) : State × List Happening :=
  let s := { s with cycles := s.cycles + 1 }
  match s.cursor.window config now with
  | none =>
    if config.stop.isSome then s.stop [.reachedEnd]
    else ({ s with phase := .resting }, [.skipped s.cycles])
  | some w =>
    if s.cancelled then s.stop [.polled s.cycles w]
    else
      let f : Fetch := { window := w }
      ({ s with phase := .fetching f }, [.polled s.cycles w, .requested f.request])

def State.answer (s : State) (f : Fetch) (a : Answer) : State × List Happening :=
  match f.receive a with
  | .more f' => ({ s with phase := .fetching f' }, [.answered f a, .requested f'.request])
  | .done events => ({ s with phase := .sending events }, [.answered f a])
  | .failed e => ({ s with phase := .reporting e }, [.answered f a, .fetchFailed s.cycles e])

def State.emit (s : State) (e : Event) (rest : List Event) : State × List Happening :=
  ({ s with
      phase := .sending rest
      cursor := s.cursor.advance e.timestamp
      emitted := s.emitted + 1
      queue := s.queue ++ [e] }, [.emitted e])

/-- What a move does; none if it is not possible. -/
def step (config : Config) (s : State) : Move → Option (State × List Happening)
  | .poll now =>
    match s.phase with
    | .polling => some (s.poll config now)
    | _ => none
  | .answer a =>
    match s.phase with
    | .fetching f => if s.cancelled then none else some (s.answer f a)
    | _ => none
  | .send =>
    match s.phase with
    | .sending [] => some ({ s with phase := .resting }, [])
    | .sending (e :: rest) =>
      if s.cancelled then none
      else if !s.receiving then some (s.stop [.readerGone])
      else if s.queue.length < max 1 config.capacity then some (s.emit e rest)
      else none
    | _ => none
  | .report =>
    match s.phase with
    | .reporting e =>
      if s.cancelled then none else some ({ s with report := some e }.stop [.reported e])
    | _ => none
  | .wake =>
    match s.phase with
    | .resting => if s.cancelled then none else some ({ s with phase := .polling }, [])
    | _ => none
  | .halt => if s.cancelled && s.phase.isWaiting then some (s.stop []) else none
  | .take =>
    match s.queue with
    | _ :: queue => if s.receiving then some ({ s with queue := queue }, []) else none
    | [] => none
  | .takeReport => if s.report.isSome then some ({ s with report := none }, []) else none
  | .leave => some ({ s with receiving := false, queue := [] }, [])
  | .cancel => some ({ s with cancelled := true }, [])

/-- A run of moves from a state: where it ends and what happened; none if a move is not possible. -/
def run (config : Config) (s : State) : List Move → Option (State × List Happening)
  | [] => some (s, [])
  | m :: moves => do
    let (s, happened) ← step config s m
    let (s, later) ← run config s moves
    some (s, happened ++ later)

def requests (happened : List Happening) : List Request :=
  happened.filterMap fun h => match h with
    | .requested r => some r
    | _ => none

/-- The events put into the queue among what happened. -/
def emissions (happened : List Happening) : List Event :=
  happened.filterMap fun h => match h with
    | .emitted e => some e
    | _ => none

/-- The failures handed over among what happened. -/
def reports (happened : List Happening) : List SourceError :=
  happened.filterMap fun h => match h with
    | .reported e => some e
    | _ => none

def startEntry (config : Config) : Journal.Entry :=
  ⟨.info, .stream, s!"STREAM_TASK: Tailing {config.group} every {Time.spanText config.poll}"⟩

def Happening.entries : Happening → List Journal.Entry
  | .polled n w =>
    [⟨.debug, .stream, s!"STREAM_TASK: Cycle {n} window start={Journal.optionText w.start} end={Journal.optionText w.stop}"⟩]
  | .skipped n =>
    [⟨.debug, .stream, s!"STREAM_TASK: Cursor is ahead of the clock, skipping cycle {n}"⟩]
  | .reachedEnd => [⟨.info, .stream, "STREAM_TASK: Reached the end of the window, stopping"⟩]
  | .requested r => [r.entry]
  | .answered f a => f.entries a
  | .fetchFailed n e =>
    [⟨.error, .stream, s!"STREAM_TASK: Fetch failed on cycle {n}, stopping: {e.message}"⟩]
  | .emitted _ => []
  | .readerGone => [⟨.info, .stream, "STREAM_TASK: Event receiver dropped, stopping"⟩]
  | .reported _ => []
  | .stopped cycles count last =>
    [⟨.info, .stream, s!"STREAM_TASK: Stopped after {cycles} cycles, {count} events emitted, cursor {Journal.optionText last}"⟩]

end LogFollow.Stream
