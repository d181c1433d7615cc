import Mathlib.Logic.Relation
import LogFollow.Proofs.Stream.Play
import LogFollow.Proofs.Stream.Record

/-!
# Streams that are read as they go

The task and a reader that takes events as they come may take turns in any way; time goes on when
neither can do anything. Their moves do not disturb each other, so that all ways of taking turns
come together again, and if one of them comes to an end, all come to the same end.
-/

namespace LogFollow.Stream
set_option autoImplicit false

variable {config : Config} {capacity : Nat} {script : Script} {s s' : State} {move : Move}
  {new : List Happening} {m m' a b : Moment (List Event)}

theorem poll_capacity (s : State) (now : Int) :
    s.poll { config with capacity := capacity } now = s.poll config now := rfl

/-- The task may make its move with another queue just as well, if there is room where it needs it. -/
theorem task_step_frame (hs : step config s move = some (s', new)) (hm : move.isTasks = true)
    {queue : List Event}
    (hroom : s.queue.length < max 1 config.capacity → queue.length < max 1 capacity) :
    step { config with capacity := capacity } { s with queue := queue } move =
      some ({ s' with queue := queue ++ emissions new }, new) := by
  cases step_cases hs with
  | taken | reportTaken | left | cancelled => cases hm
  | sent e rest hp hc hr hq => simp [step, State.emit, hp, hc, hr, emissions_cons, hroom hq]
  | halted hc hp => simp [step, State.stop, hc, hp, emissions_cons]
  | delivered hp => simp [step, hp]
  | _ =>
    simp only [step, poll_capacity]
    simp_all [State.poll, State.answer, State.stop, emissions_cons]

namespace Moment

/-- What comes next when a reader takes events as they come: a move of the task, an event taken or,
if there is neither, the next thing that is due. -/
inductive Next (config : Config) (script : Script) (m : Moment (List Event)) :
    Moment (List Event) → Prop
  | works (m' : Moment (List Event)) (ha : m.advance config = some m') : Next config script m m'
  | reads (e : Event) (queue : List Event) (hq : m.state.queue = e :: queue)
      (hr : m.state.receiving = true) :
      Next config script m
        { m with reader := m.reader ++ [e], state := { m.state with queue := queue } }
  | waits (m' : Moment (List Event)) (ha : m.advance config = none) (hq : m.state.queue = [])
      (hs : m.state.isStopped = false) (hw : m.wait script = some m') : Next config script m m'

/-- The moments that may come later, in whatever way task and reader take turns. -/
abbrev Continues (config : Config) (script : Script) :
    Moment (List Event) → Moment (List Event) → Prop :=
  Relation.ReflTransGen (Next config script)

/-- The task has stopped, and its reader has taken everything. -/
def Done (m : Moment (List Event)) : Prop := m.state.isStopped = true ∧ m.state.queue = []

theorem advance_extends (ha : m.advance config = some m') :
    m'.reader = m.reader ∧ m.happened <+: m'.happened ∧ m'.state.receiving = m.state.receiving := by
  obtain ⟨move, new, -, htask, hs, hreader, hhappened, -⟩ := advance_cases ha
  exact ⟨hreader, hhappened ▸ List.prefix_append _ _, (task_step (step_cases hs) htask).1⟩

/-- A move of the task with another queue, and with another past of its reader. -/
theorem advance_frame (capacity : Nat) (ha : m.advance config = some m') (got queue : List Event)
    (hroom : m.state.queue.length < max 1 config.capacity → queue.length < max 1 capacity) :
    ∃ sent, m'.state.queue = m.state.queue ++ sent ∧
      advance { config with capacity := capacity }
          { m with reader := got, state := { m.state with queue := queue } } =
        some { m' with reader := got, state := { m'.state with queue := queue ++ sent } } := by
  simp only [advance, Option.bind_eq_bind, Option.bind_eq_some_iff] at ha
  obtain ⟨move, hmove, ⟨s, new⟩, hs, heq⟩ := ha
  obtain rfl := Option.some.inj heq
  have htask := isTasks_of_move? hmove
  refine ⟨emissions new, (task_step (step_cases hs) htask).2.2, ?_⟩
  have hmove' : move? { m with reader := got, state := { m.state with queue := queue } } =
      some move := hmove
  simp only [advance, hmove', task_step_frame hs htask hroom, Option.bind_eq_bind,
    Option.bind_some]
  rfl

theorem next_extends (h : Next config script m m') :
    m.reader <+: m'.reader ∧ m.happened <+: m'.happened ∧
      m'.state.receiving = m.state.receiving := by
  cases h with
  | works m' ha =>
    obtain ⟨hreader, hhappened, hreceiving⟩ := advance_extends ha
    exact ⟨hreader ▸ List.prefix_refl _, hhappened, hreceiving⟩
  | reads e queue hq hr => exact ⟨List.prefix_append _ _, List.prefix_refl _, rfl⟩
  | waits m' ha hq hs hw =>
    obtain ⟨hreader, hhappened, hstate⟩ := wait_cases hw
    refine ⟨hreader ▸ List.prefix_refl _, hhappened ▸ List.prefix_refl _, ?_⟩
    rcases hstate with hstate | hstate <;> rw [hstate]

theorem continues_extends (h : Continues config script m m') :
    m.reader <+: m'.reader ∧ m.happened <+: m'.happened ∧
      m'.state.receiving = m.state.receiving := by
  induction h with
  | refl => exact ⟨List.prefix_refl _, List.prefix_refl _, rfl⟩
  | tail _ hn ih =>
    obtain ⟨hreader, hhappened, hreceiving⟩ := next_extends hn
    exact ⟨ih.1.trans hreader, ih.2.1.trans hhappened, hreceiving.trans ih.2.2⟩

theorem Done.not_next (hd : m.Done) : ¬ Next config script m m' := by
  obtain ⟨hstopped, hqueue⟩ := hd
  have hphase := isStopped_iff.mp hstopped
  intro h
  cases h with
  | works m' ha => simp [advance, move?, hphase, Phase.isWaiting] at ha
  | reads e queue hq hr => simp [hq] at hqueue
  | waits m' ha hq hs hw => simp [hs] at hstopped

theorem Done.eq_of_continues (hd : m.Done) (h : Continues config script m m') : m' = m := by
  rcases h.cases_head with rfl | ⟨a, hn, -⟩
  · rfl
  · exact absurd hn hd.not_next

/-- The reader may go before the task: it makes the same move afterwards. -/
theorem works_reads {e : Event} {queue : List Event} (ha : m.advance config = some m')
    (hq : m.state.queue = e :: queue) (hr : m.state.receiving = true) :
    ∃ d, Next config script m' d ∧
      Next config script
        { m with reader := m.reader ++ [e], state := { m.state with queue := queue } } d := by
  obtain ⟨hreader, -, hreceiving⟩ := advance_extends ha
  obtain ⟨sent, hsent, hframe⟩ :=
    advance_frame config.capacity ha (m.reader ++ [e]) queue (by
      rw [hq, List.length_cons]
      omega)
  have hread : Next config script m' _ :=
    .reads e (queue ++ sent) (by rw [hsent, hq, List.cons_append]) (hreceiving.trans hr)
  rw [hreader] at hread
  exact ⟨_, hread, .works _ hframe⟩

/-- Two moves that are possible at once are the same, or the other is still possible after each. -/
theorem next_diamond (ha : Next config script m a) (hb : Next config script m b) :
    a = b ∨ ∃ d, Next config script a d ∧ Next config script b d := by
  cases ha with
  | works _ ha =>
    cases hb with
    | works _ hb => exact .inl (Option.some.inj (ha.symm.trans hb))
    | reads e queue hq hr => exact .inr (works_reads ha hq hr)
    | waits _ hb => simp [ha] at hb
  | reads e queue hq hr =>
    cases hb with
    | works _ hb =>
      have hjoin : ∃ d, Next config script b d ∧ Next config script _ d := works_reads hb hq hr
      obtain ⟨d, hbd, had⟩ := hjoin
      exact .inr ⟨d, had, hbd⟩
    | reads e' queue' hq' =>
      obtain ⟨rfl, rfl⟩ := List.cons.inj (hq.symm.trans hq')
      exact .inl rfl
    | waits _ _ hq' => simp [hq] at hq'
  | waits _ ha hq hs hw =>
    cases hb with
    | works _ hb => simp [ha] at hb
    | reads e queue hq' => simp [hq] at hq'
    | waits _ _ _ _ hw' => exact .inl (Option.some.inj (hw.symm.trans hw'))

theorem continues_joins (ha : Continues config script m a) (hb : Continues config script m b) :
    ∃ d, Continues config script a d ∧ Continues config script b d := by
  refine Relation.church_rosser (fun m a b ha hb => ?_) ha hb
  rcases next_diamond ha hb with rfl | ⟨d, hd, hd'⟩
  · exact ⟨a, .refl, .refl⟩
  · exact ⟨d, .single hd, .single hd'⟩

/-- Task and reader come to an end, whatever turns they take. -/
abbrev Ends (config : Config) (script : Script) : Moment (List Event) → Prop :=
  Acc fun b a => Next config script a b

theorem Ends.of_next (ha : Ends config script a) (h : Next config script m a) :
    Ends config script m := by
  induction ha generalizing m with
  | intro a hafter ih =>
    -- What comes after `b` comes after `a` as well, or `b` is `a`.
    refine ⟨_, fun b hb => ?_⟩
    rcases next_diamond h hb with rfl | ⟨d, had, hbd⟩
    · exact ⟨_, hafter⟩
    · exact ih d had hbd

/-- If one way of taking turns comes to an end, all do. -/
theorem Done.ends (hd : m'.Done) (h : Continues config script m m') : Ends config script m := by
  induction h using Relation.ReflTransGen.head_induction_on with
  | refl => exact ⟨_, fun _ hn => absurd hn hd.not_next⟩
  | head hn _ ih => exact ih.of_next hn

/-- How a stream with a script begins. -/
def start (script : Script) : Moment (List Event) :=
  { reader := [], answers := script.answers, clock := script.clock }

end Moment
end LogFollow.Stream
