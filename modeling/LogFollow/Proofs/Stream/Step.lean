import LogFollow.Stream.Task

/-!
# The steps of a stream

`Step` lists what a single move can do, one case for each thing that can happen, with the state
after it and what is recorded. What holds along a run is derived from these cases alone.
-/

namespace LogFollow.Stream
set_option autoImplicit false

variable {config : Config} {s s' : State} {new : List Happening} {m : Move}

/-- What a move can do in a state. The last four cases are moves of the surroundings. -/
inductive Step (config : Config) (s : State) : Move → State → List Happening → Prop
  | ended (now : Int) (hp : s.phase = .polling) (hw : s.cursor.window config now = none)
      (hstop : config.stop.isSome) :
      Step config s (.poll now) { s with phase := .stopped, cycles := s.cycles + 1 }
        [.reachedEnd, .stopped (s.cycles + 1) s.emitted s.cursor.last]
  | skipped (now : Int) (hp : s.phase = .polling) (hw : s.cursor.window config now = none)
      (hstop : config.stop = none) :
      Step config s (.poll now) { s with phase := .resting, cycles := s.cycles + 1 }
        [.skipped (s.cycles + 1)]
  | late (now : Int) (w : Window) (hp : s.phase = .polling)
      (hw : s.cursor.window config now = some w) (hc : s.cancelled = true) :
      Step config s (.poll now) { s with phase := .stopped, cycles := s.cycles + 1 }
        [.polled (s.cycles + 1) w, .stopped (s.cycles + 1) s.emitted s.cursor.last]
  | asked (now : Int) (w : Window) (hp : s.phase = .polling)
      (hw : s.cursor.window config now = some w) (hc : s.cancelled = false) :
      Step config s (.poll now)
        { s with phase := .fetching { window := w }, cycles := s.cycles + 1 }
        [.polled (s.cycles + 1) w, .requested (Fetch.request { window := w })]
  | more (f f' : Fetch) (a : Answer) (hp : s.phase = .fetching f) (hc : s.cancelled = false)
      (hf : f.receive a = .more f') :
      Step config s (.answer a) { s with phase := .fetching f' }
        [.answered f a, .requested f'.request]
  | fetched (f : Fetch) (a : Answer) (events : List Event) (hp : s.phase = .fetching f)
      (hc : s.cancelled = false) (hf : f.receive a = .done events) :
      Step config s (.answer a) { s with phase := .sending events } [.answered f a]
  | failed (f : Fetch) (a : Answer) (e : SourceError) (hp : s.phase = .fetching f)
      (hc : s.cancelled = false) (hf : f.receive a = .failed e) :
      Step config s (.answer a) { s with phase := .reporting e }
        [.answered f a, .fetchFailed s.cycles e]
  | delivered (hp : s.phase = .sending []) : Step config s .send { s with phase := .resting } []
  | deserted (e : Event) (rest : List Event) (hp : s.phase = .sending (e :: rest))
      (hc : s.cancelled = false) (hr : s.receiving = false) :
      Step config s .send { s with phase := .stopped }
        [.readerGone, .stopped s.cycles s.emitted s.cursor.last]
  | sent (e : Event) (rest : List Event) (hp : s.phase = .sending (e :: rest))
      (hc : s.cancelled = false) (hr : s.receiving = true)
      (hq : s.queue.length < max 1 config.capacity) :
      Step config s .send
        { s with
          phase := .sending rest
          cursor := s.cursor.advance e.timestamp
          emitted := s.emitted + 1
          queue := s.queue ++ [e] } [.emitted e]
  | reported (e : SourceError) (hp : s.phase = .reporting e) (hc : s.cancelled = false) :
      Step config s .report { s with report := some e, phase := .stopped }
        [.reported e, .stopped s.cycles s.emitted s.cursor.last]
  | woken (hp : s.phase = .resting) (hc : s.cancelled = false) :
      Step config s .wake { s with phase := .polling } []
  | halted (hc : s.cancelled = true) (hp : s.phase.isWaiting) :
      Step config s .halt { s with phase := .stopped }
        [.stopped s.cycles s.emitted s.cursor.last]
  | taken (e : Event) (queue : List Event) (hq : s.queue = e :: queue)
      (hr : s.receiving = true) : Step config s .take { s with queue := queue } []
  | reportTaken (hr : s.report.isSome) : Step config s .takeReport { s with report := none } []
  | left : Step config s .leave { s with receiving := false, queue := [] } []
  | cancelled : Step config s .cancel { s with cancelled := true } []

theorem isStopped_iff : s.isStopped = true ↔ s.phase = .stopped := by
  unfold State.isStopped
  cases s.phase <;> simp

/-- A move that is the task's own, not its reader's or its owner's. -/
def Move.isTasks : Move → Bool
  | .poll _ | .answer _ | .send | .report | .wake | .halt => true
  | .take | .takeReport | .leave | .cancel => false

theorem some_pair_inj {x y : State × List Happening} (h : some x = some y) :
    x.1 = y.1 ∧ x.2 = y.2 := by
  rw [Option.some.inj h]
  exact ⟨rfl, rfl⟩

theorem poll_cases {now : Int} (h : step config s (.poll now) = some (s', new)) :
    Step config s (.poll now) s' new := by
  simp only [step] at h
  split at h
  · rename_i hp
    obtain ⟨rfl, rfl⟩ := some_pair_inj h
    cases hw : s.cursor.window config now with
    | none =>
      cases hstop : config.stop with
      | none => simpa [State.poll, hw, hstop] using Step.skipped now hp hw hstop
      | some stop =>
        simpa [State.poll, State.stop, hw, hstop] using Step.ended now hp hw (by simp [hstop])
    | some w =>
      cases hc : s.cancelled with
      | true => simpa [State.poll, State.stop, hw, hc] using Step.late now w hp hw hc
      | false => simpa [State.poll, hw, hc] using Step.asked now w hp hw hc
  · simp at h

theorem answer_cases {a : Answer} (h : step config s (.answer a) = some (s', new)) :
    Step config s (.answer a) s' new := by
  simp only [step] at h
  split at h
  · rename_i f hp
    split at h
    · simp at h
    · rename_i hc
      obtain ⟨rfl, rfl⟩ := some_pair_inj h
      have hc : s.cancelled = false := by simpa using hc
      unfold State.answer
      split
      · exact .more f _ a hp hc (by assumption)
      · exact .fetched f a _ hp hc (by assumption)
      · exact .failed f a _ hp hc (by assumption)
  · simp at h

theorem send_cases (h : step config s .send = some (s', new)) : Step config s .send s' new := by
  simp only [step] at h
  split at h
  · obtain ⟨rfl, rfl⟩ := some_pair_inj h
    exact .delivered (by assumption)
  · rename_i e rest hp
    split at h
    · simp at h
    · rename_i hc
      have hc : s.cancelled = false := by simpa using hc
      split at h
      · rename_i hr
        obtain ⟨rfl, rfl⟩ := some_pair_inj h
        exact .deserted e rest hp hc (by simpa using hr)
      · rename_i hr
        split at h
        · rename_i hq
          obtain ⟨rfl, rfl⟩ := some_pair_inj h
          exact .sent e rest hp hc (by simpa using hr) hq
        · simp at h
  · simp at h

theorem report_cases (h : step config s .report = some (s', new)) :
    Step config s .report s' new := by
  simp only [step] at h
  split at h
  · rename_i e hp
    split at h
    · simp at h
    · rename_i hc
      obtain ⟨rfl, rfl⟩ := some_pair_inj h
      exact .reported e hp (by simpa using hc)
  · simp at h

theorem wake_cases (h : step config s .wake = some (s', new)) : Step config s .wake s' new := by
  simp only [step] at h
  split at h
  · rename_i hp
    split at h
    · simp at h
    · rename_i hc
      obtain ⟨rfl, rfl⟩ := some_pair_inj h
      exact .woken hp (by simpa using hc)
  · simp at h

theorem halt_cases (h : step config s .halt = some (s', new)) : Step config s .halt s' new := by
  simp only [step] at h
  split at h
  · rename_i hc
    obtain ⟨rfl, rfl⟩ := some_pair_inj h
    rw [Bool.and_eq_true] at hc
    exact .halted hc.1 hc.2
  · simp at h

theorem take_cases (h : step config s .take = some (s', new)) : Step config s .take s' new := by
  simp only [step] at h
  split at h
  · rename_i e queue hq
    split at h
    · rename_i hr
      obtain ⟨rfl, rfl⟩ := some_pair_inj h
      exact .taken e queue hq hr
    · simp at h
  · simp at h

theorem takeReport_cases (h : step config s .takeReport = some (s', new)) :
    Step config s .takeReport s' new := by
  simp only [step] at h
  split at h
  · rename_i hr
    obtain ⟨rfl, rfl⟩ := some_pair_inj h
    exact .reportTaken hr
  · simp at h

/-- A move that is possible is one of the steps. -/
theorem step_cases (h : step config s m = some (s', new)) : Step config s m s' new := by
  cases m with
  | poll now => exact poll_cases h
  | answer a => exact answer_cases h
  | send => exact send_cases h
  | report => exact report_cases h
  | wake => exact wake_cases h
  | halt => exact halt_cases h
  | take => exact take_cases h
  | takeReport => exact takeReport_cases h
  | leave =>
    obtain ⟨rfl, rfl⟩ := some_pair_inj h
    exact .left
  | cancel =>
    obtain ⟨rfl, rfl⟩ := some_pair_inj h
    exact .cancelled

/-- What every step keeps, of the moves so far as well, holds along a run. -/
theorem run_keeps_moves {P : List Move → State → List Happening → Prop}
    (keep : ∀ {before : List Move} {s s' : State} {h new : List Happening} {m : Move}, P before s h →
      Step config s m s' new → P (before ++ [m]) s' (h ++ new))
    (before : List Move) {moves : List Move} {h later : List Happening} (hp : P before s h)
    (hr : run config s moves = some (s', later)) : P (before ++ moves) s' (h ++ later) := by
  induction moves generalizing before s h later with
  | nil =>
    obtain ⟨rfl, rfl⟩ := Prod.mk.inj (Option.some.inj hr)
    simpa using hp
  | cons m moves ih =>
    simp only [run, Option.bind_eq_bind, Option.bind_eq_some_iff] at hr
    obtain ⟨⟨s₁, new⟩, hs, ⟨⟨s₂, later'⟩, hm, heq⟩⟩ := hr
    obtain ⟨rfl, rfl⟩ := Prod.mk.inj (Option.some.inj heq)
    rw [← List.append_assoc, ← List.singleton_append, ← List.append_assoc]
    exact ih _ (keep hp (step_cases hs)) hm

/-- What every step keeps holds along a run. -/
theorem run_keeps {P : State → List Happening → Prop}
    (keep : ∀ {s s' : State} {h new : List Happening} {m : Move}, P s h →
      Step config s m s' new → P s' (h ++ new))
    {moves : List Move} {h later : List Happening} (hp : P s h)
    (hr : run config s moves = some (s', later)) : P s' (h ++ later) :=
  run_keeps_moves (P := fun _ => P) keep [] hp hr

end LogFollow.Stream
