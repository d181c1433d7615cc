import LogFollow.Stream.Task

/-! # Streams on a clock of their own

Here a stream runs on virtual time: an answer comes after its delay, a rest lasts as long as the
poll interval, and time jumps to the next of these moments when nobody can go on. The task goes
first; its reader runs when the task has to wait. -/

namespace LogFollow.Stream
set_option autoImplicit false

structure Script where
  /-- The answers, each with its delay; behind the last one come empty pages at once. -/
  answers : List (Nat × Answer)
  /-- What the clock says at each poll; the last one is repeated, and an empty list means zero. -/
  clock : List Int
  cancelAt : Nat

/-- A reader of the queue: what it does when the task waits, none if there is nothing for it to do;
and whether it has given up. -/
structure Reader (σ : Type) where
  react : σ → State → Option (σ × State)
  gaveUp : σ → Bool

/-- A stream at a moment of virtual time. -/
structure Moment (σ : Type) where
  state : State := {}
  reader : σ
  time : Nat := 0
  /-- When the answer comes or the rest ends. -/
  due : Nat := 0
  answers : List (Nat × Answer)
  clock : List Int
  happened : List Happening := []

variable {σ : Type}

def Moment.now (m : Moment σ) : Int := m.clock.headD 0

def Moment.nextClock (m : Moment σ) : List Int :=
  match m.clock with
  | _ :: t :: rest => t :: rest
  | clock => clock

def Moment.nextAnswer (m : Moment σ) : Answer :=
  match m.answers with
  | [] => .ok { events := [] }
  | (_, a) :: _ => a

/-- The moment at which the task, now in this state, can go on by itself. -/
def Moment.dueIn (m : Moment σ) (config : Config) (answers : List (Nat × Answer)) (s : State) :
    Nat :=
  match s.phase with
  | .fetching _ => m.time + (answers.head?.map (·.1)).getD 0
  | .resting => m.time + config.poll
  | _ => m.time

/-- The move of the task at this moment, if it has one. -/
def Moment.move? (m : Moment σ) : Option Move :=
  if m.state.cancelled && m.state.phase.isWaiting then some .halt
  else match m.state.phase with
    | .polling => some (.poll m.now)
    | .fetching _ => if m.due ≤ m.time then some (.answer m.nextAnswer) else none
    | .sending _ => some .send
    | .reporting _ => some .report
    | .resting => if m.due ≤ m.time then some .wake else none
    | .stopped => none

def Moment.advance (config : Config) (m : Moment σ) : Option (Moment σ) := do
  let move ← m.move?
  let (s, happened) ← step config m.state move
  let answers := match move with
    | .answer _ => m.answers.drop 1
    | _ => m.answers
  let clock := match move with
    | .poll _ => m.nextClock
    | _ => m.clock
  some { m with
    state := s
    due := m.dueIn config answers s
    answers := answers
    clock := clock
    happened := m.happened ++ happened }

/-- Moves on to the next moment at which something is due; none if there is none. -/
def Moment.wait (script : Script) (m : Moment σ) : Option (Moment σ) :=
  let timed := match m.state.phase with
    | .fetching _ | .resting => true
    | _ => false
  if m.state.cancelled then
    if timed then some { m with time := max m.time m.due } else none
  else if timed && m.due < script.cancelAt then some { m with time := m.due }
  else
    some
      { m with
        time := max m.time script.cancelAt
        state := { m.state with cancelled := true } }

/-- Runs a stream until the task has stopped and its reader has nothing left to do, or until the
reader gives up. -/
def Moment.play (config : Config) (script : Script) (reader : Reader σ) :
    Nat → Moment σ → Moment σ
  | 0, m => m
  | fuel + 1, m =>
    if reader.gaveUp m.reader then m
    else match m.advance config with
      | some m => m.play config script reader fuel
      | none =>
        match reader.react m.reader m.state with
        | some (r, s) => { m with reader := r, state := s }.play config script reader fuel
        | none =>
          if m.state.isStopped then m
          else match m.wait script with
            | some m => m.play config script reader fuel
            | none => m

/-- A bound on the moves of a stream: as many polls as fit before the cancellation, and the moves
for all events. -/
def Script.fuel (script : Script) (config : Config) : Nat :=
  let events := script.answers.foldr (fun (_, a) n => match a with
    | .ok page => page.events.length + n
    | .error _ => n) 0
  8 * (script.cancelAt / max 1 config.poll + script.answers.length + 4) + 8 * events + 64

/-- Plays a script: the reader may act before the task first runs. -/
def play (config : Config) (script : Script) (reader : Reader σ) (start : σ) : Moment σ :=
  let m : Moment σ := { reader := start, answers := script.answers, clock := script.clock }
  let m := match reader.react m.reader m.state with
    | some (r, s) => { m with reader := r, state := s }
    | none => m
  m.play config script reader (script.fuel config)

/-- A reader that takes events as they come and leaves once it has `quota` of them. -/
def collector (quota : Option Nat) : Reader (List Event) where
  react got s :=
    if s.receiving && quota.any (· ≤ got.length) then
      some (got, { s with receiving := false, queue := [] })
    else match s.queue with
      | [] => none
      | e :: queue => if s.receiving then some (got ++ [e], { s with queue := queue }) else none
  gaveUp _ := false

/-- A reader that takes nothing until the task has stopped. -/
def staller : Reader (List Event) where
  react got s :=
    if s.isStopped && !s.queue.isEmpty then some (got ++ s.queue, { s with queue := [] }) else none
  gaveUp _ := false

end LogFollow.Stream
