import LogFollow.Proofs.Stream.Safety
import LogFollow.Stream.Schedule

/-!
# Played streams are runs

A stream on virtual time makes the moves of its task, its reader and its owner in one of their
orders. What holds along every run therefore holds at every moment of a played stream.
-/

namespace LogFollow.Stream
set_option autoImplicit false

variable {σ : Type} {config : Config} {s s' : State} {h later : List Happening}
  {moves more : List Move} {m m' : Moment σ} {reader : Reader σ} {script : Script}

theorem run_append (hr : run config s moves = some (s', h)) :
    run config s (moves ++ more) = (run config s' more).map fun r => (r.1, h ++ r.2) := by
  induction moves generalizing s h with
  | nil =>
    obtain ⟨rfl, rfl⟩ := Prod.mk.inj (Option.some.inj hr)
    cases hm : run config s more <;> simp [hm]
  | cons m moves ih =>
    simp only [run, Option.bind_eq_bind, Option.bind_eq_some_iff] at hr
    obtain ⟨⟨s₁, new⟩, hs, ⟨⟨s₂, later⟩, hm, heq⟩⟩ := hr
    obtain ⟨rfl, rfl⟩ := Prod.mk.inj (Option.some.inj heq)
    have hrest := ih hm
    cases hmore : run config s₂ more <;> simp [run, hs, hrest, hmore]

theorem run_single {move : Move} : run config s [move] = step config s move := by
  cases hs : step config s move <;> simp [run, hs]

/-- A state that some run from the start comes to. -/
def Reached (config : Config) (s : State) (h : List Happening) : Prop :=
  ∃ moves, run config {} moves = some (s, h)

theorem reached_start : Reached config {} [] := ⟨[], rfl⟩

theorem Reached.run (hs : Reached config s h) (hr : run config s more = some (s', later)) :
    Reached config s' (h ++ later) := by
  obtain ⟨moves, hm⟩ := hs
  refine ⟨moves ++ more, ?_⟩
  rw [run_append hm, hr]
  rfl

theorem Reached.step {move : Move} (hs : Reached config s h)
    (hstep : step config s move = some (s', later)) : Reached config s' (h ++ later) :=
  hs.run (run_single.trans hstep)

theorem queue_of_left (hs : Reached config s h) (hleft : s.receiving = false) : s.queue = [] := by
  obtain ⟨moves, hr⟩ := hs
  have hkept := run_keeps (P := fun s _ => s.receiving = false → s.queue = [])
    (fun {s s' h new m} hq hstep => ?_) (h := []) (fun _ => rfl) hr
  · exact hkept hleft
  · intro hleft
    cases hstep with
    | sent e rest hp hc hr _ => simp [hr] at hleft
    | taken e queue _ hr => simp [hr] at hleft
    | left => rfl
    | _ => exact hq hleft

/-- What a reader does are moves of a reader. -/
def Reader.Moves (config : Config) (reader : Reader σ) : Prop :=
  ∀ r s r' s', (s.receiving = false → s.queue = []) → reader.react r s = some (r', s') →
    ∃ moves, run config s moves = some (s', [])

theorem collector_moves (quota : Option Nat) : (collector quota).Moves config := by
  intro got s got' s' _ hreact
  simp only [collector] at hreact
  split at hreact
  · obtain ⟨-, rfl⟩ := Prod.mk.inj (Option.some.inj hreact)
    exact ⟨[.leave], rfl⟩
  · split at hreact
    · simp at hreact
    · rename_i e queue hqueue
      split at hreact
      · rename_i hreceiving
        obtain ⟨-, rfl⟩ := Prod.mk.inj (Option.some.inj hreact)
        refine ⟨[.take], ?_⟩
        simp [run, step, hqueue, hreceiving]
      · simp at hreact

theorem run_takes (hr : s.receiving = true) :
    ∃ moves, run config s moves = some ({ s with queue := [] }, []) := by
  generalize hq : s.queue = queue
  induction queue generalizing s with
  | nil => exact ⟨[], by simp [run, ← hq]⟩
  | cons e queue ih =>
    obtain ⟨moves, hm⟩ := @ih { s with queue := queue } hr rfl
    have hstep : step config s .take = some ({ s with queue := queue }, []) := by
      simp [step, hq, hr]
    refine ⟨.take :: moves, ?_⟩
    simp only [run, hstep, hm, Option.bind_eq_bind, Option.bind_some, List.nil_append]

theorem staller_moves : staller.Moves config := by
  intro got s got' s' hleft hreact
  simp only [staller] at hreact
  split at hreact
  · rename_i hqueue
    obtain ⟨-, rfl⟩ := Prod.mk.inj (Option.some.inj hreact)
    apply run_takes
    by_contra hr
    simp [hleft (by simpa using hr)] at hqueue
  · simp at hreact

theorem isTasks_of_move? {move : Move} (h : m.move? = some move) : move.isTasks = true := by
  unfold Moment.move? at h
  grind [Move.isTasks]

/-- A move of the task at a moment, and what it does besides. -/
theorem advance_cases (ha : m.advance config = some m') :
    ∃ move new, m.move? = some move ∧ move.isTasks = true ∧
      step config m.state move = some (m'.state, new) ∧ m'.reader = m.reader ∧
      m'.happened = m.happened ++ new ∧ m'.time = m.time ∧
      m'.due = m.dueIn config m'.answers m'.state ∧
      m'.answers = match move with
        | .answer _ => m.answers.drop 1
        | _ => m.answers := by
  simp only [Moment.advance, Option.bind_eq_bind, Option.bind_eq_some_iff] at ha
  obtain ⟨move, hmove, ⟨s, new⟩, hs, heq⟩ := ha
  obtain rfl := Option.some.inj heq
  exact ⟨move, new, hmove, isTasks_of_move? hmove, hs, rfl, rfl, rfl, rfl, rfl⟩

theorem advance_reached (hm : Reached config m.state m.happened)
    (ha : m.advance config = some m') : Reached config m'.state m'.happened := by
  obtain ⟨move, new, -, -, hs, -, hhappened, -⟩ := advance_cases ha
  rw [hhappened]
  exact hm.step hs

theorem wait_cases (hw : m.wait script = some m') :
    m'.reader = m.reader ∧ m'.happened = m.happened ∧
      (m'.state = m.state ∨ m'.state = { m.state with cancelled := true }) := by
  unfold Moment.wait at hw
  grind

theorem wait_reached (hm : Reached config m.state m.happened) (hw : m.wait script = some m') :
    Reached config m'.state m'.happened := by
  obtain ⟨-, hhappened, hstate | hstate⟩ := wait_cases hw
  · rw [hhappened, hstate]
    exact hm
  · have hstep : step config m.state .cancel = some ({ m.state with cancelled := true }, []) := rfl
    rw [hhappened, hstate]
    simpa using hm.step hstep

theorem react_reached (hreader : reader.Moves config) (hm : Reached config m.state m.happened)
    {r : σ} (hreact : reader.react m.reader m.state = some (r, s)) :
    Reached config s m.happened := by
  obtain ⟨moves, hmoves⟩ := hreader _ _ _ _ (queue_of_left hm) hreact
  simpa using hm.run hmoves

theorem playing_keeps {P : Moment σ → Prop}
    (advances : ∀ {m m' : Moment σ}, P m → m.advance config = some m' → P m')
    (reacts : ∀ {m : Moment σ} {r : σ} {s : State}, P m →
      reader.react m.reader m.state = some (r, s) → P { m with reader := r, state := s })
    (waits : ∀ {m m' : Moment σ}, P m → m.wait script = some m' → P m')
    (fuel : Nat) (hm : P m) : P (m.play config script reader fuel) := by
  induction fuel generalizing m with
  | zero => exact hm
  | succ fuel ih =>
    unfold Moment.play
    split
    · exact hm
    · split
      · rename_i m' hadvance
        exact ih (advances hm hadvance)
      · split
        · rename_i r s hreact
          exact ih (reacts hm hreact)
        · split
          · exact hm
          · split
            · rename_i m' hwait
              exact ih (waits hm hwait)
            · exact hm

theorem play_keeps {P : Moment σ → Prop} (config : Config) (script : Script) (start : σ)
    (advances : ∀ {m m' : Moment σ}, P m → m.advance config = some m' → P m')
    (reacts : ∀ {m : Moment σ} {r : σ} {s : State}, P m →
      reader.react m.reader m.state = some (r, s) → P { m with reader := r, state := s })
    (waits : ∀ {m m' : Moment σ}, P m → m.wait script = some m' → P m')
    (hm : P { reader := start, answers := script.answers, clock := script.clock }) :
    P (play config script reader start) := by
  unfold play
  apply playing_keeps advances reacts waits
  split
  · rename_i r s hreact
    exact reacts hm hreact
  · exact hm

/-- A played stream comes to a state of a run, if its reader does nothing but take and leave. -/
theorem play_reached (config : Config) (script : Script) (hreader : reader.Moves config)
    (start : σ) : Reached config (play config script reader start).state
      (play config script reader start).happened := by
  refine play_keeps (P := fun m => Reached config m.state m.happened) config script start
    advance_reached ?_ wait_reached reached_start
  intro m r s hm hreact
  exact react_reached (m := m) hreader hm hreact

end LogFollow.Stream
