import LogFollow.Explorer.Forwarder
import LogFollow.Proofs.Stream.Safety
import Mathlib.Logic.Relation

/-!
# From a stream to the session

A stream, its forwarder and the reader of the session's queue go on by themselves, in any order,
and the two channels of the stream close behind its end, either one first. What the forwarder has put
into the queue, what it holds and what waits in the channels are together all that the stream has
given out: a message for every event, and behind them one for its failure.
-/

namespace LogFollow.Explorer
set_option autoImplicit false

open LogFollow.Stream (State Move Happening Sound Step emissions reports)

/-- A stream with its forwarder, and the messages that the session has taken. -/
structure Relay where
  state : State := {}
  closed : Closed := {}
  forwarder : Forwarder := {}
  taken : List Message := []
  record : List Happening := []

/-- The messages for some events, and behind them for some failures. -/
def messages (events : List Event) (failures : List SourceError) : List Message :=
  events.map .arrived ++ failures.map .sourceFailed

namespace Forwarding

def held : Forwarding → List Message
  | .carrying m => [m]
  | .parting e => [.sourceFailed e]
  | .choosing | .looking | .done => []

/-- The forwarder looks for a failure only behind the last event, and behind it nothing is left. -/
def Fits (s : State) : Forwarding → Prop
  | .choosing | .carrying _ => True
  | .looking => s.phase = .stopped ∧ s.queue = []
  | .parting _ | .done => s.phase = .stopped ∧ s.queue = [] ∧ s.report = none

end Forwarding

namespace Forwarder

/-- What a forwarder does while the session reads its queue and the stream is not cancelled. -/
inductive Forwards (capacity : Nat) (closed : Closed) (f : Forwarder) (s : State) :
    Forwarder → State → Prop
  | takes (e : Event) (queue : List Event) (hd : f.doing = .choosing) (hq : s.queue = e :: queue) :
      Forwards capacity closed f s { f with doing := .carrying (.arrived e) }
        { s with queue := queue }
  | hears (e : SourceError) (hd : f.doing = .choosing) (hq : s.queue = [])
      (hr : s.report = some e) :
      Forwards capacity closed f s { f with doing := .carrying (.sourceFailed e) }
        { s with report := none }
  | hearsNothing (hd : f.doing = .choosing) (hl : f.listening = true) :
      Forwards capacity closed f s { f with listening := false } s
  | ends (hd : f.doing = .choosing) (hq : s.queue = []) (he : closed.events = true) :
      Forwards capacity closed f s { f with doing := .looking } s
  | puts (m : Message) (hd : f.doing = .carrying m) (hroom : f.queue.length < max 1 capacity) :
      Forwards capacity closed f s
        { f with doing := .choosing, queue := f.queue ++ [m], moved := f.moved + 1 } s
  | finds (e : SourceError) (hd : f.doing = .looking) (hr : s.report = some e) :
      Forwards capacity closed f s { f with doing := .parting e } { s with report := none }
  | leaves (hd : f.doing = .looking) (hr : s.report = none) :
      Forwards capacity closed f s { f with doing := .done }
        { s with receiving := false, queue := [] }
  | parts (e : SourceError) (hd : f.doing = .parting e)
      (hroom : f.queue.length < max 1 capacity) :
      Forwards capacity closed f s
        { f with doing := .done, queue := f.queue ++ [.sourceFailed e] }
        { s with receiving := false, queue := [] }

variable {capacity : Nat} {closed : Closed} {f f' : Forwarder} {s s' : State}

theorem choose_cases (hc : s.cancelled = false) (hd : f.doing = .choosing)
    (h : f.choose closed s = some (f', s')) : Forwards capacity closed f s f' s' := by
  unfold choose at h
  rw [if_neg (by simp [hc])] at h
  split at h
  · rename_i e queue hq
    obtain ⟨rfl, rfl⟩ := Prod.mk.inj (Option.some.inj h)
    exact .takes e queue hd hq
  · rename_i hq
    split at h
    · rename_i he
      obtain ⟨rfl, rfl⟩ := Prod.mk.inj (Option.some.inj h)
      exact .ends hd hq he
    · split at h
      · rename_i hl
        split at h
        · rename_i e hr
          obtain ⟨rfl, rfl⟩ := Prod.mk.inj (Option.some.inj h)
          exact .hears e hd hq hr
        · split at h
          · obtain ⟨rfl, rfl⟩ := Prod.mk.inj (Option.some.inj h)
            exact .hearsNothing hd hl
          · cases h
      · cases h

theorem look_cases (hc : s.cancelled = false) (hd : f.doing = .looking)
    (h : f.look s = (f', s')) : Forwards capacity closed f s f' s' := by
  unfold look at h
  rw [if_neg (by simp [hc])] at h
  split at h
  · rename_i e hr
    obtain ⟨rfl, rfl⟩ := Prod.mk.inj h
    exact .finds e hd hr
  · rename_i hr
    obtain ⟨rfl, rfl⟩ := Prod.mk.inj h
    exact .leaves hd hr

theorem step_cases (hc : s.cancelled = false) (hreading : f.reading = true)
    (h : f.step capacity closed s = some (f', s')) : Forwards capacity closed f s f' s' := by
  unfold step at h
  split at h
  · rename_i hd
    exact choose_cases hc hd h
  · rename_i m hd
    rw [if_neg (by simp [hc, hreading])] at h
    split at h
    · rename_i hroom
      obtain ⟨rfl, rfl⟩ := Prod.mk.inj (Option.some.inj h)
      exact .puts m hd (of_decide_eq_true hroom)
    · cases h
  · rename_i hd
    exact look_cases hc hd (Option.some.inj h)
  · rename_i e hd
    rw [if_neg (by simp [hreading])] at h
    split at h
    · rename_i hroom
      obtain ⟨rfl, rfl⟩ := Prod.mk.inj (Option.some.inj h)
      exact .parts e hd (of_decide_eq_true hroom)
    · cases h
  · cases h

end Forwarder

namespace Relay

/-- What can happen next: a move of the stream task, which is not cancelled, the closing of one of
its channels behind its end, a step of the forwarder, or the session takes a message. -/
inductive Next (config : Stream.Config) (capacity : Nat) (r : Relay) : Relay → Prop
  | moves (m : Move) (s : State) (new : List Happening) (hm : m.isTasks = true)
      (hs : Stream.step config r.state m = some (s, new)) :
      Next config capacity r { r with state := s, record := r.record ++ new }
  | closesEvents (hs : r.state.isStopped = true) :
      Next config capacity r { r with closed := { r.closed with events := true } }
  | closesFailures (hs : r.state.isStopped = true) :
      Next config capacity r { r with closed := { r.closed with failures := true } }
  | forwards (f : Forwarder) (s : State)
      (hf : r.forwarder.step capacity r.closed r.state = some (f, s)) :
      Next config capacity r { r with forwarder := f, state := s }
  | reads (m : Message) (queue : List Message) (hq : r.forwarder.queue = m :: queue) :
      Next config capacity r
        { r with forwarder := { r.forwarder with queue := queue }, taken := r.taken ++ [m] }

def put (r : Relay) : List Message := r.taken ++ r.forwarder.queue

/-- The messages for what waits in the channels of the stream. -/
def waiting (s : State) : List Message := messages s.queue s.report.toList

/-- The messages for all that the stream has given out. -/
def given (record : List Happening) : List Message := messages (emissions record) (reports record)

structure Kept (capacity : Nat) (r : Relay) : Prop where
  sound : Sound r.state r.record
  running : r.state.cancelled = false
  reading : r.forwarder.reading = true
  closed : r.closed.events = true → r.state.phase = .stopped
  unreported : reports r.record = [] → r.state.report = none
  flow : r.put ++ r.forwarder.doing.held ++ waiting r.state = given r.record
  fits : r.forwarder.doing.Fits r.state
  room : r.forwarder.queue.length ≤ max 1 capacity

variable {config : Stream.Config} {capacity : Nat} {r r' : Relay} {f : Forwarder} {s : State}
  {m : Move} {new : List Happening}

theorem kept_start (capacity : Nat) : ({} : Relay).Kept capacity where
  sound := Stream.sound_start
  running := rfl
  reading := rfl
  closed h := absurd h Bool.false_ne_true
  unreported _ := rfl
  flow := rfl
  fits := trivial
  room := Nat.zero_le _

theorem given_append_of_none {record : List Happening} (hr : reports record = []) :
    given (record ++ new) = given record ++ given new := by
  simp [given, messages, hr]

/-- As long as nothing was handed over, what a task gives out comes to what waits. -/
theorem waiting_of_step (hs : Step config r.state m s new) (hm : m.isTasks = true)
    (hr : r.state.report = none) : waiting s = waiting r.state ++ given new := by
  obtain ⟨-, -, hqueue⟩ := Stream.task_step hs hm
  rcases Stream.report_step hs hm with ⟨hnew, hsame⟩ | ⟨e, -, hnew, hreport⟩
  · simp [waiting, given, messages, hqueue, hnew, hsame, hr]
  · simp [waiting, given, messages, hqueue, hnew, hreport, hr]

theorem Kept.moves (k : r.Kept capacity) (hs : Step config r.state m s new)
    (hm : m.isTasks = true) :
    { r with state := s, record := r.record ++ new }.Kept capacity := by
  have hsound := Stream.sound_step k.sound hs
  obtain ⟨-, hcancelled, hqueue⟩ := Stream.task_step hs hm
  have hrunning : s.cancelled = false := hcancelled.trans k.running
  by_cases hp : r.state.phase = .stopped
  · -- A task that has stopped gives nothing out, and nothing in the channels changes.
    obtain ⟨hstopped, rfl⟩ := Stream.stopped_step hp hs
    have hreport : s.report = r.state.report := by
      rcases Stream.report_step hs hm with ⟨-, hsame⟩ | ⟨e, hreporting, -⟩
      · exact hsame
      · rw [hp] at hreporting
        cases hreporting
    rw [Stream.emissions_nil, List.append_nil] at hqueue
    simp only [List.append_nil] at hsound ⊢
    refine ⟨hsound, hrunning, k.reading, fun _ => hstopped, ?_, ?_, ?_, k.room⟩
    · rw [hreport]
      exact k.unreported
    · have hsame : waiting s = waiting r.state := by simp only [waiting, hqueue, hreport]
      rw [hsame]
      exact k.flow
    · have hfits := k.fits
      revert hfits
      cases r.forwarder.doing <;> simp [Forwarding.Fits, hp, hstopped, hqueue, hreport]
  · -- Before the end no failure was handed over, so that whatever is new comes behind what waits.
    have hnone : reports r.record = [] := k.sound.faultless.1 hp
    refine ⟨hsound, hrunning, k.reading, fun h => absurd (k.closed h) hp, ?_, ?_, ?_, k.room⟩
    · intro hreports
      rw [Stream.reports_append, hnone, List.nil_append] at hreports
      rcases Stream.report_step hs hm with ⟨-, hsame⟩ | ⟨e, -, hnew, -⟩
      · exact hsame.trans (k.unreported hnone)
      · rw [hreports] at hnew
        cases hnew
    · rw [given_append_of_none hnone, ← k.flow, List.append_assoc _ (waiting r.state),
        ← waiting_of_step hs hm (k.unreported hnone)]
      rfl
    · have hfits := k.fits
      revert hfits
      cases r.forwarder.doing <;> simp [Forwarding.Fits, hp]

theorem Kept.closesEvents (k : r.Kept capacity) (hs : r.state.isStopped = true) :
    { r with closed := { r.closed with events := true } }.Kept capacity :=
  { k with closed := fun _ => Stream.isStopped_iff.mp hs }

theorem Kept.closesFailures (k : r.Kept capacity) :
    { r with closed := { r.closed with failures := true } }.Kept capacity :=
  { k with closed := k.closed }

/-- A step of the forwarder only moves a message on: from a channel into its hands, or from its hands
into the queue. -/
theorem Kept.forwards (k : r.Kept capacity)
    (hf : r.forwarder.step capacity r.closed r.state = some (f, s)) :
    { r with forwarder := f, state := s }.Kept capacity := by
  have hflow := k.flow
  have hfits := k.fits
  cases Forwarder.step_cases k.running k.reading hf with
  | takes e queue hd hq =>
    simp only [hd, hq, waiting, Forwarding.held] at hflow
    exact ⟨k.sound.of_same rfl rfl, k.running, k.reading, k.closed, k.unreported,
      by simpa [messages, waiting, put, Forwarding.held] using hflow, trivial, k.room⟩
  | hears e hd hq hr =>
    simp only [hd, hq, hr, waiting, Forwarding.held] at hflow
    exact ⟨k.sound.of_same rfl rfl, k.running, k.reading, k.closed, fun _ => rfl,
      by simpa [hq, messages, waiting, put, Forwarding.held] using hflow, trivial, k.room⟩
  | hearsNothing hd hl =>
    exact ⟨k.sound, k.running, k.reading, k.closed, k.unreported, hflow, hfits, k.room⟩
  | ends hd hq he =>
    rw [hd] at hflow
    exact ⟨k.sound, k.running, k.reading, k.closed, k.unreported, hflow, ⟨k.closed he, hq⟩, k.room⟩
  | puts m hd hroom =>
    simp only [hd, put, Forwarding.held] at hflow
    exact ⟨k.sound, k.running, k.reading, k.closed, k.unreported,
      by simpa [put, Forwarding.held] using hflow, trivial, by simpa using Nat.succ_le_of_lt hroom⟩
  | finds e hd hr =>
    rw [hd] at hfits
    obtain ⟨hp, hq⟩ := hfits
    simp only [hd, hq, hr, waiting, Forwarding.held] at hflow
    exact ⟨k.sound.of_same rfl rfl, k.running, k.reading, k.closed, fun _ => rfl,
      by simpa [hq, messages, waiting, put, Forwarding.held] using hflow, ⟨hp, hq, rfl⟩, k.room⟩
  | leaves hd hr =>
    rw [hd] at hfits
    obtain ⟨hp, hq⟩ := hfits
    simp only [hd, hq, waiting, Forwarding.held] at hflow
    exact ⟨k.sound.of_same rfl rfl, k.running, k.reading, k.closed, k.unreported, hflow,
      ⟨hp, rfl, hr⟩, k.room⟩
  | parts e hd hroom =>
    rw [hd] at hfits
    obtain ⟨hp, hq, hr⟩ := hfits
    simp only [hd, hq, hr, put, waiting, Forwarding.held] at hflow
    exact ⟨k.sound.of_same rfl rfl, k.running, k.reading, k.closed, k.unreported,
      by simpa [hr, waiting, put, Forwarding.held] using hflow, ⟨hp, rfl, hr⟩,
      by simpa using Nat.succ_le_of_lt hroom⟩

theorem Kept.reads {queue : List Message} {m : Message} (k : r.Kept capacity)
    (hq : r.forwarder.queue = m :: queue) :
    { r with
      forwarder := { r.forwarder with queue := queue }
      taken := r.taken ++ [m] }.Kept capacity := by
  have hflow := k.flow
  have hroom := k.room
  simp only [put, hq] at hflow
  rw [hq, List.length_cons] at hroom
  exact ⟨k.sound, k.running, k.reading, k.closed, k.unreported, by simpa [put] using hflow, k.fits,
    Nat.le_of_succ_le hroom⟩

theorem Kept.next (k : r.Kept capacity) (hn : Next config capacity r r') : r'.Kept capacity := by
  cases hn with
  | moves m s new hm hs => exact k.moves (Stream.step_cases hs) hm
  | closesEvents hs => exact k.closesEvents hs
  | closesFailures hs => exact k.closesFailures
  | forwards f s hf => exact k.forwards hf
  | reads m queue hq => exact k.reads hq

theorem kept_reached (hr : Relation.ReflTransGen (Next config capacity) {} r) :
    r.Kept capacity := by
  induction hr with
  | refl => exact kept_start capacity
  | tail _ hn ih => exact ih.next hn

/-- How many steps the forwarder can still take if nothing more comes out of the stream. -/
def stepsLeft (r : Relay) : Nat :=
  2 * (r.state.queue.length + r.state.report.toList.length) + r.forwarder.listening.toNat +
    match r.forwarder.doing with
    | .done => 0
    | .parting _ => 1
    | .looking => 2
    | .choosing => 3
    | .carrying _ => 4

theorem Kept.stepsLeft_lt (k : r.Kept capacity)
    (hf : r.forwarder.step capacity r.closed r.state = some (f, s)) :
    stepsLeft { r with forwarder := f, state := s } < r.stepsLeft := by
  cases Forwarder.step_cases k.running k.reading hf with
  | takes e queue hd hq =>
    simp only [stepsLeft, hd, hq, List.length_cons]
    omega
  | hears e hd hq hr =>
    simp only [stepsLeft, hd, hr, Option.toList, List.length_cons, List.length_nil]
    omega
  | hearsNothing hd hl => simp [stepsLeft, hl]
  | ends hd hq he => simp [stepsLeft, hd]
  | puts m hd hroom => simp [stepsLeft, hd]
  | finds e hd hr =>
    simp only [stepsLeft, hd, hr, Option.toList, List.length_cons, List.length_nil]
    omega
  | leaves hd hr =>
    simp only [stepsLeft, hd, List.length_nil]
    omega
  | parts e hd hroom =>
    simp only [stepsLeft, hd, List.length_nil]
    omega

/-- Behind the last event only a full queue makes the forwarder wait. -/
theorem Kept.done_or_full_or_step (k : r.Kept capacity) (he : r.closed.events = true) :
    r.forwarder.doing = .done ∨ r.forwarder.queue.length = max 1 capacity ∨
      (r.forwarder.step capacity r.closed r.state).isSome = true := by
  by_cases hroom : r.forwarder.hasRoom capacity = true
  · have hc := k.running
    have hreading := k.reading
    cases hd : r.forwarder.doing with
    | choosing =>
      cases hq : r.state.queue <;>
        exact .inr (.inr (by simp [Forwarder.step, Forwarder.choose, hd, hc, hq, he]))
    | carrying m => exact .inr (.inr (by simp [Forwarder.step, hd, hc, hreading, hroom]))
    | looking => exact .inr (.inr (by simp [Forwarder.step, hd]))
    | parting e => exact .inr (.inr (by simp [Forwarder.step, hd, hreading, hroom]))
    | done => exact .inl rfl
  · -- The queue never holds more than it has room for, so that without room it is just full.
    have hfull := k.room
    simp only [Forwarder.hasRoom, decide_eq_true_eq] at hroom
    exact .inr (.inl (by omega))

end Relay

/-- In whatever order the stream, its forwarder and the session go on, the messages put into the
queue are the first of those for the events emitted, in their order, and behind them for the failure,
if one was handed over. Once the forwarder is done the stream has stopped and all of them are put.
Behind the end of the events only a full queue can make it wait, and it has only so many steps
left. -/
theorem forwarder_keeps_order (config : Stream.Config) (capacity : Nat) {r : Relay}
    (hr : Relation.ReflTransGen (Relay.Next config capacity) {} r) :
    r.put <+: messages (emissions r.record) (reports r.record) ∧
    (reports r.record).length ≤ 1 ∧
    r.forwarder.queue.length ≤ max 1 capacity ∧
    (r.forwarder.doing = .done →
      r.state.isStopped = true ∧ r.put = messages (emissions r.record) (reports r.record)) ∧
    (r.closed.events = true →
      r.forwarder.doing = .done ∨ r.forwarder.queue.length = max 1 capacity ∨
        (r.forwarder.step capacity r.closed r.state).isSome = true) ∧
    ∀ f s, r.forwarder.step capacity r.closed r.state = some (f, s) →
      Relay.stepsLeft { r with forwarder := f, state := s } < r.stepsLeft := by
  have k := Relay.kept_reached hr
  refine ⟨?_, k.sound.faultless.2.length_reports, k.room, fun hd => ?_, k.done_or_full_or_step,
    fun f s hf => k.stepsLeft_lt hf⟩
  · exact ⟨r.forwarder.doing.held ++ Relay.waiting r.state, by
      rw [← List.append_assoc]
      exact k.flow⟩
  · have hflow := k.flow
    have hfits := k.fits
    rw [hd] at hfits hflow
    obtain ⟨hp, hqueue, hreport⟩ := hfits
    refine ⟨Stream.isStopped_iff.mpr hp, ?_⟩
    simpa [Relay.waiting, Relay.given, messages, Forwarding.held, hqueue, hreport] using hflow

/-- Both channels are closed before the forwarder looks, and its queue has room for one message. The
failure of the second poll is found behind the event of the first and waits until it is read. -/
theorem forwarder_keeps_order_of_race : ∃ r,
    Relation.ReflTransGen (Relay.Next { group := "g" } 1) {} r ∧
    r.forwarder.doing = .done ∧
    emissions r.record = [⟨1, 0, "last words"⟩] ∧
    reports r.record = [.throttled "slow"] ∧
    r.put = [.arrived ⟨1, 0, "last words"⟩, .sourceFailed (.throttled "slow")] := by
  have hreached : ∃ r,
      Relation.ReflTransGen (Relay.Next { group := "g" } 1) {} r ∧
      r.forwarder.doing = .done ∧
      emissions r.record = [⟨1, 0, "last words"⟩] ∧
      reports r.record = [.throttled "slow"] := by
    refine ⟨_, .head (.moves (.poll 9) _ _ rfl (by cbv))
      <| .head (.moves (.answer (.ok ⟨[⟨1, 0, "last words"⟩], none, []⟩)) _ _ rfl (by cbv))
      <| .head (.moves .send _ _ rfl (by cbv)) <| .head (.moves .send _ _ rfl (by cbv))
      <| .head (.moves .wake _ _ rfl (by cbv)) <| .head (.moves (.poll 9) _ _ rfl (by cbv))
      <| .head (.moves (.answer (.error (.throttled "slow"))) _ _ rfl (by cbv))
      <| .head (.moves .report _ _ rfl (by cbv))
      <| .head (.closesEvents (by rfl)) <| .head (.closesFailures (by rfl))
      <| .head (.forwards _ _ (by rfl)) <| .head (.forwards _ _ (by rfl))
      <| .head (.forwards _ _ (by rfl)) <| .head (.forwards _ _ (by rfl))
      <| .head (.reads _ _ (by rfl)) <| .single (.forwards _ _ (by rfl)), ?_, ?_, ?_⟩
    all_goals rfl
  obtain ⟨r, hr, hd, hemitted, hreported⟩ := hreached
  obtain ⟨-, hput⟩ := (forwarder_keeps_order _ _ hr).2.2.2.1 hd
  rw [hemitted, hreported] at hput
  exact ⟨r, hr, hd, hemitted, hreported, hput⟩

end LogFollow.Explorer
