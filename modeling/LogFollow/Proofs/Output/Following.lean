import LogFollow.Output.Follow
import LogFollow.Proofs.Output.Printing
import LogFollow.Proofs.Stream.Play
import Mathlib.Logic.Relation

/-!
# Following a stream

A follower reads the events of a stream and waits for its failure at once. Where both are there, or
the end of one of them, it may take either first; `Turn` lists all that it can do, and a played
stream takes its turns in one of these orders. What is written does not depend on them: the lines
written and the events still in the queue are together the events that the stream has emitted.
-/

namespace LogFollow.Output
set_option autoImplicit false

open LogFollow.Stream (State Move Happening Sound Step step emissions reports)

structure Following where
  state : State := {}
  follower : Follower := {}
  /-- Whether the follower still waits for a failure. -/
  listening : Bool := true
  record : List Happening := []

/-- A move that is the reader's, not the task's or its owner's. -/
def isReaders : Move → Bool
  | .take | .takeReport | .leave => true
  | _ => false

namespace Following

/-- What a follower can do next. While it reads, it takes an event, a failure, or the end of either,
as they are there; behind the end of the events it looks for a failure once more, unless the stream
was cancelled. Behind a failure it takes the events that are left. -/
inductive Turn (sink : Sink) (format : Format) (t : Following) : Following → Prop
  | prints (e : Event) (queue : List Event) (hm : t.follower.mode = .reading)
      (hq : t.state.queue = e :: queue) :
      Turn sink format t
        { t with
          follower := (t.follower.printEvent sink format e).1
          state :=
            if (t.follower.printEvent sink format e).2 then
              { Follower.abandon t.state with cancelled := true }
            else { t.state with queue := queue } }
  | hears (e : SourceError) (hm : t.follower.mode = .reading) (hl : t.listening = true)
      (hr : t.state.report = some e) :
      Turn sink format t
        { t with
          follower := { t.follower with mode := .draining e }
          state := { t.state with report := none } }
  | hearsNothing (hm : t.follower.mode = .reading) (hl : t.listening = true)
      (hs : t.state.isStopped = true) (hr : t.state.report = none) :
      Turn sink format t { t with listening := false }
  | finds (e : SourceError) (hm : t.follower.mode = .reading) (hq : t.state.queue = [])
      (hs : t.state.isStopped = true) (hc : t.state.cancelled = false)
      (hr : t.state.report = some e) :
      Turn sink format t
        { t with
          follower := { t.follower with mode := .draining e }
          state := { t.state with report := none } }
  | ends (hm : t.follower.mode = .reading) (hq : t.state.queue = [])
      (hs : t.state.isStopped = true) (hr : t.state.cancelled = true ∨ t.state.report = none) :
      Turn sink format t
        { t with follower := { t.follower with mode := .closing (.ok t.follower.count) } }
  | drains (f : SourceError) (e : Event) (queue : List Event)
      (hm : t.follower.mode = .draining f) (hq : t.state.queue = e :: queue) :
      Turn sink format t
        { t with
          follower := t.follower.drainEvent sink format f e
          state := { t.state with queue := queue } }
  | drained (f : SourceError) (hm : t.follower.mode = .draining f) (hq : t.state.queue = [])
      (hs : t.state.isStopped = true) :
      Turn sink format t
        { t with follower :=
            { t.follower with mode := .closing (.error (Follower.streamFailure f)) } }

/-- What can happen next: a move of the stream task, a cancellation, or a turn of the follower. -/
inductive Next (config : Stream.Config) (sink : Sink) (format : Format) (t : Following) :
    Following → Prop
  | moves (m : Move) (s : State) (new : List Happening) (hm : isReaders m = false)
      (hs : step config t.state m = some (s, new)) :
      Next config sink format t { t with state := s, record := t.record ++ new }
  | turns (t' : Following) (ht : Turn sink format t t') : Next config sink format t t'

/-- What the mode of the follower says about the stream. -/
def Agrees (t : Following) : FollowMode → Prop
  | .reading => reports t.record = t.state.report.toList
  | .draining e => t.state.isStopped = true ∧ reports t.record = [e] ∧ t.state.report = none
  | .closing (.ok n) => t.state.isStopped = true ∧ t.state.queue = [] ∧ n = t.follower.count ∧
      (t.state.cancelled = false → reports t.record = [])
  | .closing (.error f) => t.state.isStopped = true ∧ t.state.queue = [] ∧
      ∃ e, reports t.record = [e] ∧ f = Follower.streamFailure e
  | .aborted _ => False

/-- What holds of a stream with its follower. -/
structure Kept (format : Format) (t : Following) : Prop where
  sound : Sound t.state t.record
  receiving : t.state.receiving = true
  printed : ∃ events, emissions t.record = events ++ t.state.queue ∧
    t.follower.written.pieces = format.pieces events ∧ t.follower.count = events.length
  agrees : t.Agrees t.follower.mode

end Following

variable {sink : Sink} {format : Format} {config : Stream.Config} {f : Follower} {e : Event}
  {err : SourceError}

theorem Sink.Reliable.printEvent (hs : sink.Reliable) (f : Follower) (e : Event) :
    f.printEvent sink format e =
      ({ f with
          written := ⟨f.written.pieces ++ [format.line e, "\n"], f.written.flushes + 1⟩
          count := f.count + 1 }, false) := by
  simp [Follower.printEvent, hs.writeLine, hs.flush]

theorem Sink.Reliable.drainEvent (hs : sink.Reliable) (f : Follower) (err : SourceError)
    (e : Event) :
    f.drainEvent sink format err e =
      { f with
        written := ⟨f.written.pieces ++ [format.line e, "\n"], f.written.flushes⟩
        count := f.count + 1 } := by
  simp [Follower.drainEvent, hs.writeLine]

namespace Following

variable {t t' : Following} {s : State} {m : Move} {new : List Happening} {queue : List Event}

theorem kept_start (format : Format) : ({} : Following).Kept format where
  sound := Stream.sound_start
  receiving := rfl
  printed := ⟨[], rfl, rfl, rfl⟩
  agrees := rfl

theorem Turn.record (ht : Turn sink format t t') : t'.record = t.record := by
  cases ht <;> rfl

/-- As long as nothing was handed over the task may go on, behind a failure it has stopped. -/
theorem Kept.stopped_of_reports (k : t.Kept format) (hr : reports t.record = [err]) :
    t.state.isStopped = true := by
  apply Stream.isStopped_iff.mpr
  by_contra hrunning
  rw [k.sound.faultless.1 hrunning] at hr
  cases hr

theorem isTasks_of_not_isReaders (hm : isReaders m = false) : m.isTasks = true ∨ m = .cancel := by
  cases m <;> simp_all [isReaders, Move.isTasks]

theorem emissions_step (hs : Step config t.state m s new) (hm : isReaders m = false)
    (hreceiving : t.state.receiving = true) :
    s.receiving = true ∧ s.queue = t.state.queue ++ emissions new := by
  rcases isTasks_of_not_isReaders hm with htask | rfl
  · obtain ⟨hsame, -, hqueue⟩ := Stream.task_step hs htask
    exact ⟨hsame.trans hreceiving, hqueue⟩
  · cases hs
    exact ⟨hreceiving, by simp⟩

theorem reports_step (hs : Step config t.state m s new) (hm : isReaders m = false)
    (k : t.Kept format) (hmode : reports t.record = t.state.report.toList) :
    reports (t.record ++ new) = s.report.toList := by
  rcases isTasks_of_not_isReaders hm with htask | rfl
  · rcases Stream.report_step hs htask with ⟨hnew, hsame⟩ | ⟨e, hp, hnew, hreport⟩
    · rw [Stream.reports_append, hnew, hsame, hmode, List.append_nil]
    · have hnone : reports t.record = [] := k.sound.faultless.1 (by simp [hp])
      rw [Stream.reports_append, hnone, hnew, hreport]
      rfl
  · cases hs
    simpa using hmode

/-- Only a cancellation reaches a task that has stopped. -/
theorem stopped_moves (hs : Step config t.state m s new) (hm : isReaders m = false)
    (hstop : t.state.isStopped = true) :
    new = [] ∧ (s = t.state ∨ s = { t.state with cancelled := true }) := by
  have hp := Stream.isStopped_iff.mp hstop
  refine ⟨(Stream.stopped_step hp hs).2, ?_⟩
  cases hs with
  | cancelled => exact .inr rfl
  | taken | reportTaken | left => cases hm
  | halted hc hw => simp [hp, Stream.Phase.isWaiting] at hw
  | _ => simp_all

theorem Agrees.cancel {mode : FollowMode} (h : t.Agrees mode) :
    { t with state := { t.state with cancelled := true } }.Agrees mode := by
  cases mode with
  | reading | draining e => exact h
  | aborted failure => exact h
  | closing result =>
    cases result with
    | error f => exact h
    | ok n => exact ⟨h.1, h.2.1, h.2.2.1, fun hc => absurd hc (by simp)⟩

theorem Agrees.isStopped {mode : FollowMode} (h : t.Agrees mode) (hm : mode ≠ .reading) :
    t.state.isStopped = true := by
  cases mode with
  | reading => exact absurd rfl hm
  | draining e => exact h.1
  | aborted failure => exact h.elim
  | closing result => cases result <;> exact h.1

theorem Kept.moves (k : t.Kept format) (hs : Step config t.state m s new)
    (hm : isReaders m = false) :
    { t with state := s, record := t.record ++ new }.Kept format := by
  obtain ⟨events, hemitted, hpieces, hcount⟩ := k.printed
  obtain ⟨hreceiving, hqueue⟩ := emissions_step hs hm k.receiving
  refine ⟨Stream.sound_step k.sound hs, hreceiving, ⟨events, ?_, hpieces, hcount⟩, ?_⟩
  · rw [Stream.emissions_append, hemitted, hqueue, List.append_assoc]
  · by_cases hmode : t.follower.mode = .reading
    · have hagrees := k.agrees
      rw [hmode] at hagrees ⊢
      exact reports_step hs hm k hagrees
    · obtain ⟨rfl, rfl | rfl⟩ := stopped_moves hs hm (k.agrees.isStopped hmode)
      · simpa using k.agrees
      · simpa using k.agrees.cancel

theorem Kept.prints (k : t.Kept format) (hq : t.state.queue = e :: queue)
    (hpieces : f.written.pieces = t.follower.written.pieces ++ [format.line e, "\n"])
    (hcount : f.count = t.follower.count + 1)
    (ha : { t with follower := f, state := { t.state with queue := queue } }.Agrees f.mode) :
    { t with follower := f, state := { t.state with queue := queue } }.Kept format := by
  obtain ⟨events, hemitted, hprinted, hevents⟩ := k.printed
  refine ⟨k.sound.of_same rfl rfl, k.receiving, ⟨events ++ [e], ?_, ?_, ?_⟩, ha⟩
  · simp [hemitted, hq]
  · simp [hpieces, hprinted, Format.pieces]
  · simp [hcount, hevents]

theorem Kept.hears (k : t.Kept format) (hm : t.follower.mode = .reading)
    (hr : t.state.report = some err) :
    { t with
      follower := { t.follower with mode := .draining err }
      state := { t.state with report := none } }.Kept format := by
  have hreports : reports t.record = [err] := by
    have hagrees := k.agrees
    rw [hm, Agrees, hr] at hagrees
    exact hagrees
  exact ⟨k.sound.of_same rfl rfl, k.receiving, k.printed, k.stopped_of_reports hreports, hreports,
    rfl⟩

theorem Kept.ends (k : t.Kept format) (hm : t.follower.mode = .reading)
    (hq : t.state.queue = []) (hs : t.state.isStopped = true)
    (hr : t.state.cancelled = true ∨ t.state.report = none) :
    { t with follower :=
        { t.follower with mode := .closing (.ok t.follower.count) } }.Kept format := by
  refine ⟨k.sound, k.receiving, k.printed, hs, hq, rfl, ?_⟩
  intro hc
  have hagrees := k.agrees
  rw [hm, Agrees] at hagrees
  rcases hr with hcancelled | hnone
  · cases hc.symm.trans hcancelled
  · rw [hagrees, hnone]
    rfl

theorem Kept.turn (hsink : sink.Reliable) (k : t.Kept format) (ht : Turn sink format t t') :
    t'.Kept format := by
  have hagrees := k.agrees
  cases ht with
  | prints e queue hm hq =>
    rw [hm] at hagrees
    simp only [hsink.printEvent]
    exact k.prints hq rfl rfl (by simpa [Agrees, hm] using hagrees)
  | hears e hm hl hr => exact k.hears hm hr
  | hearsNothing hm hl hs hr => exact ⟨k.sound, k.receiving, k.printed, hagrees⟩
  | finds e hm hq hs hc hr => exact k.hears hm hr
  | ends hm hq hs hr => exact k.ends hm hq hs hr
  | drains f e queue hm hq =>
    rw [hm] at hagrees
    simp only [hsink.drainEvent]
    exact k.prints hq rfl rfl (by simpa [Agrees, hm, State.isStopped] using hagrees)
  | drained f hm hq hs =>
    rw [hm] at hagrees
    exact ⟨k.sound, k.receiving, k.printed, hs, hq, f, hagrees.2.1, rfl⟩

theorem Kept.next (hsink : sink.Reliable) (k : t.Kept format)
    (hn : Next config sink format t t') : t'.Kept format := by
  cases hn with
  | moves m s new hm hs => exact k.moves (Stream.step_cases hs) hm
  | turns t' ht => exact k.turn hsink ht

theorem kept_reached (hsink : sink.Reliable)
    (ht : Relation.ReflTransGen (Next config sink format) {} t) : t.Kept format := by
  induction ht with
  | refl => exact kept_start format
  | tail _ hn ih => exact ih.next hsink hn

/-- How many turns a follower can still take once the stream has stopped. -/
def turnsLeft (t : Following) : Nat :=
  t.state.queue.length + match t.follower.mode with
    | .reading => if t.listening then 3 else 2
    | .draining _ => 1
    | _ => 0

theorem turnsLeft_lt (hsink : sink.Reliable) (ht : Turn sink format t t') :
    t'.turnsLeft < t.turnsLeft := by
  cases ht with
  | prints e queue hm hq => simp [turnsLeft, hsink.printEvent, hm, hq]
  | hears e hm hl hr => simp [turnsLeft, hm, hl]
  | hearsNothing hm hl hs hr => simp [turnsLeft, hm, hl]
  | finds e hm hq hs hc hr =>
    simp only [turnsLeft, hm, hq]
    split <;> simp
  | ends hm hq hs hr =>
    simp only [turnsLeft, hm, hq]
    split <;> simp
  | drains f e queue hm hq => simp [turnsLeft, hsink.drainEvent, hm, hq]
  | drained f hm hq hs => simp [turnsLeft, hm, hq]

/-- Behind the end of the stream a follower that is not done can take a turn. -/
theorem Kept.done_or_turn (k : t.Kept format) (hs : t.state.isStopped = true) :
    (∃ result, t.follower.mode = .closing result) ∨ ∃ t', Turn sink format t t' := by
  have hagrees := k.agrees
  cases hm : t.follower.mode with
  | closing result => exact .inl ⟨result, rfl⟩
  | aborted failure =>
    rw [hm] at hagrees
    exact hagrees.elim
  | draining e =>
    cases hq : t.state.queue with
    | nil => exact .inr ⟨_, .drained e hm hq hs⟩
    | cons e' queue => exact .inr ⟨_, .drains e e' queue hm hq⟩
  | reading =>
    cases hq : t.state.queue with
    | cons e queue => exact .inr ⟨_, .prints e queue hm hq⟩
    | nil =>
      cases hr : t.state.report with
      | none => exact .inr ⟨_, .ends hm hq hs (.inr hr)⟩
      | some e =>
        cases hc : t.state.cancelled with
        | true => exact .inr ⟨_, .ends hm hq hs (.inl hc)⟩
        | false => exact .inr ⟨_, .finds e hm hq hs hc hr⟩

theorem Kept.lines (k : t.Kept format) : ∃ events,
    emissions t.record = events ++ t.state.queue ∧
      t.follower.written.text = format.lines events ∧ t.follower.count = events.length := by
  obtain ⟨events, hemitted, hpieces, hcount⟩ := k.printed
  refine ⟨events, hemitted, ?_, hcount⟩
  rw [Written.text, hpieces, format.text_pieces]

/-- What a follower that is done has written, and its result. -/
theorem Kept.result (k : t.Kept format) {result : Except Failure Nat}
    (hm : t.follower.mode = .closing result) :
    t.state.isStopped = true ∧
    t.follower.written.text = format.lines (emissions t.record) ∧
    (∀ n, result = .ok n → n = (emissions t.record).length) ∧
    (∀ failure, result = .error failure →
      ∃ e, reports t.record = [e] ∧ failure = Follower.streamFailure e) ∧
    (t.state.cancelled = false → ∀ e ∈ reports t.record,
      result = .error (Follower.streamFailure e)) := by
  have hagrees := k.agrees
  rw [hm] at hagrees
  obtain ⟨events, hemitted, htext, hcount⟩ := k.lines
  -- Nothing is left in the queue, so the lines are those of all events.
  have hall : t.state.queue = [] → emissions t.record = events := by
    intro hq
    rw [hemitted, hq, List.append_nil]
  cases result with
  | ok n =>
    obtain ⟨hs, hq, hn, hnone⟩ := hagrees
    refine ⟨hs, ?_, ?_, ?_, ?_⟩
    · rw [hall hq, htext]
    · intro n' h
      rw [← Except.ok.inj h, hn, hcount, hall hq]
    · intro failure h
      cases h
    · intro hc e he
      rw [hnone hc] at he
      exact absurd he List.not_mem_nil
  | error f =>
    obtain ⟨hs, hq, e, hreports, rfl⟩ := hagrees
    refine ⟨hs, ?_, ?_, ?_, ?_⟩
    · rw [hall hq, htext]
    · intro n h
      cases h
    · intro failure h
      exact ⟨e, hreports, (Except.error.inj h).symm⟩
    · intro _ e' he
      rw [hreports] at he
      rw [List.mem_singleton.mp he]

/-- What the follower of a played stream does is one of its turns. -/
theorem turn_of_react (hl : t.listening = true)
    (hr : Follower.react sink format t.follower t.state = some (f, s)) :
    Turn sink format t { t with follower := f, state := s } := by
  unfold Follower.react at hr
  split at hr
  · cases hr
  · cases hr
  · rename_i hm
    split at hr
    · rename_i e queue hq
      obtain ⟨rfl, rfl⟩ := Prod.mk.inj (Option.some.inj hr)
      exact .prints e queue hm hq
    · rename_i hq
      split at hr
      · rename_i e hreport
        obtain ⟨rfl, rfl⟩ := Prod.mk.inj (Option.some.inj hr)
        exact .hears e hm hl hreport
      · rename_i hreport
        split at hr
        · rename_i hs
          obtain ⟨rfl, rfl⟩ := Prod.mk.inj (Option.some.inj hr)
          exact .ends hm hq hs (.inr hreport)
        · cases hr
  · rename_i e hm
    split at hr
    · rename_i e' queue hq
      obtain ⟨rfl, rfl⟩ := Prod.mk.inj (Option.some.inj hr)
      exact .drains e e' queue hm hq
    · rename_i hq
      split at hr
      · rename_i hs
        obtain ⟨rfl, rfl⟩ := Prod.mk.inj (Option.some.inj hr)
        exact .drained e hm hq hs
      · cases hr

/-- A played stream at a moment. -/
def ofMoment (m : Stream.Moment Follower) : Following where
  state := m.state
  follower := m.reader
  record := m.happened

variable {n n' : Stream.Moment Follower}

theorem next_of_advance (ha : n.advance config = some n') :
    Next config sink format (ofMoment n) (ofMoment n') := by
  obtain ⟨move, new, -, htask, hs, hreader, hhappened, -⟩ := Stream.advance_cases ha
  have hmove : isReaders move = false := by cases move <;> simp_all [isReaders, Move.isTasks]
  have hnext : Next config sink format (ofMoment n) _ := .moves move n'.state new hmove hs
  simpa [ofMoment, hreader, hhappened] using hnext

/-- What is played comes about by moves of the stream, cancellations and turns of the follower. -/
theorem follow_reached (config : Stream.Config) (sink : Sink) (format : Format)
    (script : Stream.Script) : Relation.ReflTransGen (Next config sink format) {}
      (ofMoment (follow sink format config script)) := by
  refine Stream.play_keeps (P := fun n => Relation.ReflTransGen (Next config sink format) {}
    (ofMoment n)) config script {} ?_ ?_ ?_ .refl
  · intro n n' hn ha
    exact hn.tail (next_of_advance ha)
  · intro n f s hn hr
    exact hn.tail (.turns _ (turn_of_react (t := ofMoment n) rfl hr))
  · intro n n' hn hw
    obtain ⟨hreader, hrecord, hstate | hstate⟩ := Stream.wait_cases hw
    · have hsame : ofMoment n' = ofMoment n := by simp [ofMoment, hreader, hrecord, hstate]
      rwa [hsame]
    · have hcancel : Next config sink format (ofMoment n) (ofMoment n') := by
        have hmove : Next config sink format (ofMoment n) _ := .moves .cancel _ _ rfl rfl
        simpa [ofMoment, hreader, hrecord, hstate] using hmove
      exact hn.tail hcancel

end Following

/-- Following writes the events of the stream, all of them once and in their order, whatever the
follower takes first. At every moment the lines written and the queue together are the events that
the stream has emitted. Once the follower is done nothing is left in the queue, a count is that of
the events, and a failure is one that the stream handed over; a failure that was handed over is the
result unless the stream was cancelled. Once the stream has stopped the follower takes turns until it
is done, and only so many. A stream played on virtual time is one of these. -/
theorem follow_writes_emissions (config : Stream.Config) (sink : Sink) (format : Format)
    (hsink : sink.Reliable) :
    (∀ t, Relation.ReflTransGen (Following.Next config sink format) {} t →
      (∃ events, emissions t.record = events ++ t.state.queue ∧
        t.follower.written.text = format.lines events ∧ t.follower.count = events.length) ∧
      (∀ result, t.follower.mode = .closing result →
        t.state.isStopped = true ∧
        t.follower.written.text = format.lines (emissions t.record) ∧
        (∀ n, result = .ok n → n = (emissions t.record).length) ∧
        (∀ failure, result = .error failure →
          ∃ e, reports t.record = [e] ∧ failure = Follower.streamFailure e) ∧
        (t.state.cancelled = false → ∀ e ∈ reports t.record,
          result = .error (Follower.streamFailure e))) ∧
      (t.state.isStopped = true → (∃ result, t.follower.mode = .closing result) ∨
        ∃ t', Following.Turn sink format t t') ∧
      ∀ t', Following.Turn sink format t t' → t'.turnsLeft < t.turnsLeft) ∧
    ∀ script, Relation.ReflTransGen (Following.Next config sink format) {}
      (.ofMoment (follow sink format config script)) := by
  refine ⟨fun t ht => ?_, Following.follow_reached config sink format⟩
  have k := Following.kept_reached hsink ht
  exact ⟨k.lines, fun result hm => k.result hm, k.done_or_turn, fun t' => Following.turnsLeft_lt hsink⟩

/-- The failure of the second poll is taken before the events of the first one, which are still in the
queue: both are written, and the result is the failure. -/
theorem follow_writes_emissions_of_failure : ∃ t,
    Relation.ReflTransGen (Following.Next { group := "g", capacity := 2 } .open .text) {} t ∧
    emissions t.record = [⟨5000, 0, "a"⟩, ⟨7000, 0, "b"⟩] ∧
    t.follower.mode = .closing (.error (Follower.streamFailure (.throttled "slow"))) ∧
    t.follower.written.text = Format.lines .text [⟨5000, 0, "a"⟩, ⟨7000, 0, "b"⟩] ∧
    Format.lines .text [⟨5000, 0, "a"⟩, ⟨7000, 0, "b"⟩] =
      "1970-01-01T00:00:05Z  a\n1970-01-01T00:00:07Z  b\n" := by
  have hreached : ∃ t,
      Relation.ReflTransGen (Following.Next { group := "g", capacity := 2 } .open .text) {} t ∧
      emissions t.record = [⟨5000, 0, "a"⟩, ⟨7000, 0, "b"⟩] ∧
      t.follower.mode = .closing (.error (Follower.streamFailure (.throttled "slow"))) := by
    refine ⟨_, .head (.moves (.poll 9000) _ _ rfl (by cbv))
      <| .head (.moves (.answer (.ok ⟨[⟨7000, 0, "b"⟩, ⟨5000, 0, "a"⟩], none, []⟩)) _ _ rfl (by cbv))
      <| .head (.moves .send _ _ rfl (by cbv)) <| .head (.moves .send _ _ rfl (by cbv))
      <| .head (.moves .send _ _ rfl (by cbv)) <| .head (.moves .wake _ _ rfl (by cbv))
      <| .head (.moves (.poll 9000) _ _ rfl (by cbv))
      <| .head (.moves (.answer (.error (.throttled "slow"))) _ _ rfl (by cbv))
      <| .head (.moves .report _ _ rfl (by cbv))
      <| .head (.turns _ (.hears _ rfl rfl rfl)) <| .head (.turns _ (.drains _ _ _ rfl rfl))
      <| .head (.turns _ (.drains _ _ _ rfl rfl)) <| .single (.turns _ (.drained _ rfl rfl rfl)),
      ?_, ?_⟩
    all_goals rfl
  obtain ⟨t, ht, hemitted, hm⟩ := hreached
  have hsink : Sink.open.Reliable := ⟨fun _ => rfl, fun _ => rfl⟩
  obtain ⟨-, htext, -⟩ := ((follow_writes_emissions _ _ _ hsink).1 t ht).2.1 _ hm
  exact ⟨t, ht, hemitted, hm, hemitted ▸ htext, by decide +kernel⟩

end LogFollow.Output
