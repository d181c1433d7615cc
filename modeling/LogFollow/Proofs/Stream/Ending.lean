import LogFollow.Proofs.Stream.Reading

/-!
# Streams come to their end

A stream that rests between its polls has only so many of them before it is cancelled, and only so
many answers and events to deal with. A bound on all of this goes down with each move, and a script
is played long enough for it.
-/

namespace LogFollow.Stream
set_option autoImplicit false

variable {config : Config} {script : Script} {m m' : Moment (List Event)}

/-- Whether the task waits for something that comes at a known time. -/
def Phase.isTimed : Phase → Bool
  | .fetching _ | .resting => true
  | _ => false

/-- The events of the answers that are still to come. -/
def eventsIn (answers : List (Nat × Answer)) : Nat :=
  answers.foldr (fun (_, a) n => match a with
    | .ok page => page.events.length + n
    | .error _ => n) 0

/-- The polls that fit in from a time on. -/
def Script.pollsFrom (script : Script) (config : Config) (time : Nat) : Nat :=
  (script.cancelAt - time + (config.poll - 1)) / config.poll

theorem pollsFrom_le {t later : Nat} (h : t ≤ later) :
    script.pollsFrom config later ≤ script.pollsFrom config t :=
  Nat.div_le_div_right (by omega)

theorem pollsFrom_next (hpoll : 0 < config.poll) {t : Nat} (h : t < script.cancelAt) :
    script.pollsFrom config (t + config.poll) < script.pollsFrom config t := by
  have hone : script.pollsFrom config t = (script.cancelAt - t - 1) / config.poll + 1 := by
    rw [Script.pollsFrom, ← Nat.add_div_right _ hpoll]
    congr 1
    omega
  rw [hone, Nat.lt_succ_iff, Script.pollsFrom]
  by_cases hfits : t + config.poll < script.cancelAt
  · exact Nat.div_le_div_right (by omega)
  · rw [Nat.div_eq_of_lt (by omega)]
    exact Nat.zero_le _

namespace Moment

/-- A stream that can do nothing waits for an answer or for the end of its rest. -/
theorem waiting_of_advance (ha : m.advance config = none) (hq : m.state.queue = [])
    (hs : m.state.isStopped = false) :
    m.state.cancelled = false ∧ m.state.phase.isTimed = true ∧ m.time < m.due := by
  have hroom : 0 < max 1 config.capacity := by omega
  cases hc : m.state.cancelled with
  | true =>
    cases hp : m.state.phase with
    | sending rest => cases rest <;> simp [advance, move?, step, hp, hc, Phase.isWaiting] at ha
    | stopped => simp [State.isStopped, hp] at hs
    | _ => simp [advance, move?, step, hp, hc, Phase.isWaiting] at ha
  | false =>
    cases hp : m.state.phase with
    | polling => simp [advance, move?, step, hp, hc] at ha
    | fetching f =>
      by_cases hdue : m.due ≤ m.time
      · simp [advance, move?, step, hp, hc, hdue] at ha
      · exact ⟨rfl, rfl, by omega⟩
    | sending rest =>
      cases rest with
      | nil => simp [advance, move?, step, hp, hc] at ha
      | cons e rest =>
        cases hr : m.state.receiving <;> simp [advance, move?, step, hp, hc, hr, hq] at ha
    | reporting e => simp [advance, move?, step, hp, hc] at ha
    | resting =>
      by_cases hdue : m.due ≤ m.time
      · simp [advance, move?, step, hp, hc, hdue] at ha
      · exact ⟨rfl, rfl, by omega⟩
    | stopped => simp [State.isStopped, hp] at hs

/-- Time goes on to what is due, or to the cancellation if that comes first. -/
theorem wait_of_waiting (hc : m.state.cancelled = false) (hp : m.state.phase.isTimed = true) :
    m.wait script =
      if m.due < script.cancelAt then some { m with time := m.due }
      else some { m with
        time := max m.time script.cancelAt
        state := { m.state with cancelled := true } } := by
  cases hphase : m.state.phase <;> simp_all [wait, Phase.isTimed]

theorem exists_wait (script : Script) (ha : m.advance config = none) (hq : m.state.queue = [])
    (hs : m.state.isStopped = false) : ∃ m', m.wait script = some m' := by
  obtain ⟨hc, hp, -⟩ := waiting_of_advance ha hq hs
  rw [wait_of_waiting hc hp]
  split <;> exact ⟨_, rfl⟩

/-- What holds of a stream whose reader stays. -/
structure Kept (script : Script) (m : Moment (List Event)) : Prop where
  receiving : m.state.receiving = true
  /-- A cancellation comes while the task waits, and is the last that it sees. -/
  cancelled : m.state.cancelled = true → m.state.phase.isTimed = true ∨ m.state.isStopped = true
  rested : m.state.cancelled = false → m.state.phase = .resting → m.due ≤ m.time →
    m.due < script.cancelAt

theorem start_kept (script : Script) : Kept script (start script) :=
  ⟨rfl, by simp [start], by simp [start]⟩

theorem Kept.works (hpoll : 0 < config.poll) (hk : Kept script m)
    (ha : m.advance config = some m') : Kept script m' := by
  obtain ⟨move, new, -, htask, hs, -, -, htime, hdue, -⟩ := advance_cases ha
  refine ⟨(advance_extends ha).2.2.trans hk.receiving, ?_, ?_⟩
  · have hold := hk.cancelled
    generalize m'.state = s' at hs
    cases step_cases hs with
    | cancelled => cases htask
    | _ => simp_all [State.isStopped, Phase.isTimed]
  · intro _ hp hle
    rw [hdue, htime] at hle
    simp only [dueIn, hp] at hle
    omega

theorem Kept.waits (hk : Kept script m) (ha : m.advance config = none) (hq : m.state.queue = [])
    (hs : m.state.isStopped = false) (hw : m.wait script = some m') : Kept script m' := by
  obtain ⟨hc, hp, -⟩ := waiting_of_advance ha hq hs
  rw [wait_of_waiting hc hp] at hw
  split at hw
  · rename_i hdue
    obtain rfl := Option.some.inj hw
    exact ⟨hk.receiving, hk.cancelled, fun _ _ _ => hdue⟩
  · obtain rfl := Option.some.inj hw
    exact ⟨hk.receiving, fun _ => .inl hp, by simp⟩

theorem Kept.next (hpoll : 0 < config.poll) (hk : Kept script m) (h : Next config script m m') :
    Kept script m' := by
  cases h with
  | works _ ha => exact hk.works hpoll ha
  | reads e queue hq hr => exact ⟨hr, hk.cancelled, hk.rested⟩
  | waits _ ha hq hs hw => exact hk.waits ha hq hs hw

/-- One if there is something to wait for. -/
def pause (time due : Nat) : Nat := if time < due then 1 else 0

theorem pause_le (time due : Nat) : pause time due ≤ 1 := by
  unfold pause
  split <;> omega

/-- A bound on the steps of the task, the answers that are still to come aside. From one poll to the
next there are fewer than eight that neither an answer nor an event accounts for. -/
def load (config : Config) (script : Script) (m : Moment (List Event)) : Nat :=
  match m.state.phase with
  | .polling => 8 * script.pollsFrom config (m.time + config.poll) + 7
  | .fetching f =>
    8 * script.pollsFrom config (m.time + config.poll) + 2 * f.arrived.length + 5 +
      pause m.time m.due
  | .sending rest => 8 * script.pollsFrom config (m.time + config.poll) + 2 * rest.length + 4
  | .resting => 8 * script.pollsFrom config m.due + 2 + pause m.time m.due
  | .reporting _ | .stopped => 0

/-- A bound on what can still happen: each answer is waited for and taken, each event put into the
queue and taken. -/
def toGo (config : Config) (script : Script) (m : Moment (List Event)) : Nat :=
  m.state.queue.length +
    if m.state.isStopped then 0
    else if m.state.cancelled then 1
    else 2 + m.load config script + 2 * m.answers.length + 2 * eventsIn m.answers

/-- The answer that the task gets is the next one; behind the last one it is an empty page. -/
theorem answers_of_move? {a : Answer} (h : m.move? = some (.answer a)) :
    (a = .ok { events := [] } ∧ m.answers = []) ∨
      ∃ delay rest, m.answers = (delay, a) :: rest := by
  have ha : a = m.nextAnswer := by
    unfold move? at h
    grind
  unfold nextAnswer at ha
  cases hanswers : m.answers with
  | nil => exact .inl ⟨by simpa [hanswers] using ha, rfl⟩
  | cons next rest => exact .inr ⟨next.1, rest, by simp [ha, hanswers]⟩

theorem due_of_wake (h : m.move? = some .wake) : m.due ≤ m.time := by
  unfold move? at h
  grind

/-- After a cancellation the task only stops. -/
theorem toGo_halts (hk : Kept script m) (hc : m.state.cancelled = true)
    (ha : m.advance config = some m') : m'.toGo config script < m.toGo config script := by
  obtain ⟨move, new, -, htask, hs, -⟩ := advance_cases ha
  have hold := hk.cancelled hc
  unfold toGo
  generalize m'.state = s' at hs ⊢
  cases step_cases hs with
  | taken | reportTaken | left | cancelled => cases htask
  | halted _ hp =>
    have hgoing : m.state.isStopped = false := by
      cases hphase : m.state.phase <;> simp_all [State.isStopped, Phase.isWaiting]
    rw [hgoing, hc]
    exact Nat.lt_succ_self _
  | _ => simp_all [State.isStopped, Phase.isTimed]

theorem toGo_works (hpoll : 0 < config.poll) (hk : Kept script m) (hc : m.state.cancelled = false)
    (ha : m.advance config = some m') : m'.toGo config script < m.toGo config script := by
  obtain ⟨move, new, hmove, htask, hs, -, -, htime, hdue, hanswers⟩ := advance_cases ha
  have hpause := pause_le m.time m'.due
  unfold toGo load
  rw [htime]
  generalize m'.state = s', m'.answers = answers, m'.due = due at hs hdue hanswers hpause ⊢
  cases step_cases hs with
  | taken | reportTaken | left | cancelled => cases htask
  | late _ _ _ _ hcancelled | halted hcancelled => simp [hc] at hcancelled
  | deserted _ _ _ _ hr => simp [hk.receiving] at hr
  | ended now hp | reported e hp =>
    simp only [State.isStopped, hp, hc, Bool.false_eq_true, ↓reduceIte]
    omega
  | skipped now hp | delivered hp =>
    simp only [dueIn] at hdue
    simp only [State.isStopped, hp, hc, hanswers, hdue, List.length_nil, Bool.false_eq_true,
      ↓reduceIte] at hpause ⊢
    omega
  | asked now w hp =>
    simp only [State.isStopped, hp, hc, hanswers, List.length_nil, Bool.false_eq_true, ↓reduceIte]
    omega
  | more f f' a hp _ hf =>
    obtain ⟨page, token, rfl, ht, rfl⟩ := Fetch.receive_more hf
    rcases answers_of_move? hmove with ⟨hempty, -⟩ | ⟨delay, rest, hnext⟩
    · cases hempty
      simp at ht
    · simp only [State.isStopped, hp, hc, hanswers, hnext, eventsIn, List.drop_succ_cons,
        List.drop_zero, List.foldr_cons, List.length_append, List.length_cons, Bool.false_eq_true,
        ↓reduceIte]
      omega
  | fetched f a events hp _ hf =>
    obtain ⟨page, rfl, -, rfl⟩ := Fetch.receive_done hf
    have hlength := Fetch.length_result_le f.window (f.arrived ++ page.events)
    rw [List.length_append] at hlength
    rcases answers_of_move? hmove with ⟨hempty, hnext⟩ | ⟨delay, rest, hnext⟩
    · cases hempty
      simp only [State.isStopped, hp, hc, hanswers, hnext, List.drop_nil, List.append_nil,
        List.length_nil, Bool.false_eq_true, ↓reduceIte] at hlength ⊢
      omega
    · simp only [State.isStopped, hp, hc, hanswers, hnext, eventsIn, List.drop_succ_cons,
        List.drop_zero, List.foldr_cons, List.length_cons, Bool.false_eq_true, ↓reduceIte]
      omega
  | failed f a e hp _ hf =>
    obtain rfl := Fetch.receive_failed hf
    rcases answers_of_move? hmove with ⟨hempty, -⟩ | ⟨delay, rest, hnext⟩
    · cases hempty
    · simp only [State.isStopped, hp, hc, hanswers, hnext, eventsIn, List.drop_succ_cons,
        List.drop_zero, List.foldr_cons, List.length_cons, Bool.false_eq_true, ↓reduceIte]
      omega
  | sent e rest hp =>
    simp only [State.isStopped, hp, hc, hanswers, List.length_append, List.length_cons,
      List.length_nil, Bool.false_eq_true, ↓reduceIte]
    omega
  | woken hp =>
    -- The next rest ends a poll interval after this one at the earliest.
    have hwake := due_of_wake hmove
    have hnext := pollsFrom_next hpoll (hk.rested hc hp hwake)
    have hle : script.pollsFrom config (m.time + config.poll) ≤
        script.pollsFrom config (m.due + config.poll) := pollsFrom_le (by omega)
    simp only [State.isStopped, hp, hc, hanswers, Bool.false_eq_true, ↓reduceIte]
    omega

theorem toGo_waits (ha : m.advance config = none) (hq : m.state.queue = [])
    (hs : m.state.isStopped = false) (hw : m.wait script = some m') :
    m'.toGo config script < m.toGo config script := by
  obtain ⟨hc, hp, hdue⟩ := waiting_of_advance ha hq hs
  rw [wait_of_waiting hc hp] at hw
  split at hw
  · obtain rfl := Option.some.inj hw
    have hbefore : pause m.time m.due = 1 := if_pos hdue
    have hafter : pause m.due m.due = 0 := if_neg (Nat.lt_irrefl _)
    have hle : script.pollsFrom config (m.due + config.poll) ≤
        script.pollsFrom config (m.time + config.poll) := pollsFrom_le (by omega)
    cases hphase : m.state.phase with
    | fetching f | resting =>
      simp only [toGo, load, State.isStopped, hphase, hc, hbefore, hafter, Bool.false_eq_true,
        ↓reduceIte]
      omega
    | _ => simp [hphase, Phase.isTimed] at hp
  · obtain rfl := Option.some.inj hw
    have hgoing : State.isStopped { m.state with cancelled := true } = false := hs
    simp only [toGo, hs, hc, hgoing, Bool.false_eq_true, ↓reduceIte]
    omega

/-- Whatever comes next, less is still to come. -/
theorem toGo_next (hpoll : 0 < config.poll) (hk : Kept script m) (h : Next config script m m') :
    m'.toGo config script < m.toGo config script := by
  cases h with
  | works _ ha =>
    cases hc : m.state.cancelled with
    | true => exact toGo_halts hk hc ha
    | false => exact toGo_works hpoll hk hc ha
  | reads e queue hq hr =>
    have hlength : queue.length < m.state.queue.length := by simp [hq]
    exact Nat.add_lt_add_right hlength _
  | waits _ ha hq hs hw => exact toGo_waits ha hq hs hw

theorem done_of_toGo (h : m.toGo config script = 0) : m.Done := by
  unfold toGo at h
  split at h
  · rename_i hs
    exact ⟨hs, List.eq_nil_of_length_eq_zero h⟩
  · split at h <;> omega

/-- Playing is one way of taking turns, and with enough fuel it comes to the end. -/
theorem play_done (hpoll : 0 < config.poll) (hk : Kept script m) {fuel : Nat}
    (hfuel : m.toGo config script ≤ fuel) :
    Continues config script m (m.play config script (collector none) fuel) ∧
      (m.play config script (collector none) fuel).Done := by
  induction fuel generalizing m with
  | zero => exact ⟨.refl, done_of_toGo (Nat.le_zero.mp hfuel)⟩
  | succ fuel ih =>
    have goes {m' : Moment (List Event)} (hn : Next config script m m') :
        Continues config script m (m'.play config script (collector none) fuel) ∧
          (m'.play config script (collector none) fuel).Done := by
      have hless := toGo_next hpoll hk hn
      obtain ⟨hplay, hdone⟩ := ih (hk.next hpoll hn) (by omega)
      exact ⟨.head hn hplay, hdone⟩
    cases ha : m.advance config with
    | some m' => simpa [Moment.play, collector, ha] using goes (.works m' ha)
    | none =>
      cases hq : m.state.queue with
      | cons e queue =>
        simpa [Moment.play, collector, ha, hq, hk.receiving] using
          goes (.reads e queue hq hk.receiving)
      | nil =>
        cases hs : m.state.isStopped with
        | true => simpa [Moment.play, collector, ha, hq, hs] using ⟨.refl, hs, hq⟩
        | false =>
          obtain ⟨m', hw⟩ := exists_wait script ha hq hs
          simpa [Moment.play, collector, ha, hq, hs, hw] using goes (.waits m' ha hq hs hw)

theorem toGo_start (script : Script) (hpoll : 0 < config.poll) :
    (start script).toGo config script ≤ script.fuel config := by
  have hpolls : script.pollsFrom config config.poll ≤ script.cancelAt / config.poll := by
    unfold Script.pollsFrom
    by_cases hfits : config.poll ≤ script.cancelAt
    · exact Nat.div_le_div_right (by omega)
    · rw [Nat.div_eq_of_lt (by omega)]
      exact Nat.zero_le _
  have hmax : max 1 config.poll = config.poll := by omega
  have hfuel : script.fuel config =
      8 * (script.cancelAt / config.poll + script.answers.length + 4) +
        8 * eventsIn script.answers + 64 := by
    rw [Script.fuel, hmax]
    rfl
  rw [hfuel]
  simp only [toGo, load, start, State.isStopped, List.length_nil, Nat.zero_add, Bool.false_eq_true,
    ↓reduceIte]
  omega

end Moment

theorem play_collected (script : Script) (hpoll : 0 < config.poll) :
    Moment.Continues config script (Moment.start script)
        (play config script (collector none) []) ∧
      (play config script (collector none) []).Done :=
  Moment.play_done hpoll (Moment.start_kept script) (Moment.toGo_start script hpoll)

end LogFollow.Stream
