import LogFollow.Proofs.Stream.Ending

/-!
# The capacity of the queue does not show

A full queue keeps the task waiting until its reader has taken an event, and the reader takes events
as they come. What the task does before or after that is the same whatever fits into the queue.
-/

namespace LogFollow.Stream
set_option autoImplicit false

variable {config : Config} {script : Script} {m m' : Moment (List Event)}

namespace Moment

/-- The moment at which the reader has taken what is in the queue. -/
def drained (m : Moment (List Event)) : Moment (List Event) :=
  { m with reader := m.reader ++ m.state.queue, state := { m.state with queue := [] } }

theorem continues_drained (hr : m.state.receiving = true) :
    Continues config script m m.drained := by
  generalize hq : m.state.queue = queue
  induction queue generalizing m with
  | nil =>
    have hsame : m.drained = m := by
      rw [drained, hq, List.append_nil, ← hq]
    rw [hsame]
  | cons e queue ih =>
    have hsame : m.drained = drained
        { m with reader := m.reader ++ [e], state := { m.state with queue := queue } } := by
      simp [drained, hq]
    rw [hsame]
    exact .head (.reads e queue hq hr) (ih hr rfl)

/-- A move that a stream makes with one capacity is made up for with any other: once the queue is
empty, there is room for it. -/
theorem next_catches_up (capacity : Nat) (hr : m.state.receiving = true)
    (h : Next config script m m') :
    ∃ d, Continues { config with capacity := capacity } script m d ∧
      Continues { config with capacity := capacity } script m' d := by
  cases h with
  | works _ ha =>
    obtain ⟨hreader, -, hreceiving⟩ := advance_extends ha
    obtain ⟨sent, hsent, hframe⟩ :=
      advance_frame capacity ha (m.reader ++ m.state.queue) [] (by simp)
    refine ⟨m'.drained, ?_, continues_drained (hreceiving.trans hr)⟩
    have hsame : m'.drained = drained
        { m' with reader := m.reader ++ m.state.queue,
                  state := { m'.state with queue := [] ++ sent } } := by
      simp [drained, hsent, hreader]
    rw [hsame]
    exact (continues_drained hr).trans
      (.head (.works _ hframe) (continues_drained (hreceiving.trans hr)))
  | reads e queue hq hr => exact ⟨_, .single (.reads e queue hq hr), .refl⟩
  | waits _ ha hq hs hw =>
    refine ⟨m', .single (.waits _ ?_ hq hs hw), .refl⟩
    -- The queue is empty, so that no capacity keeps the task from its move.
    by_contra hb
    obtain ⟨b, hb⟩ := Option.ne_none_iff_exists'.mp hb
    obtain ⟨_, -, hframe⟩ :=
      advance_frame config.capacity hb m.reader m.state.queue (by simp [hq])
    have hnone : m.advance config = some _ := hframe
    simp [ha] at hnone

theorem continues_catches_up (capacity : Nat) (hr : m.state.receiving = true)
    (h : Continues config script m m') :
    ∃ d, Continues { config with capacity := capacity } script m d ∧
      Continues { config with capacity := capacity } script m' d := by
  induction h with
  | refl => exact ⟨m, .refl, .refl⟩
  | @tail a b ha hn ih =>
    obtain ⟨c, hc, hac⟩ := ih
    have hra := (continues_extends ha).2.2.trans hr
    obtain ⟨d, had, hbd⟩ := next_catches_up capacity hra hn
    obtain ⟨k, hck, hdk⟩ := continues_joins hac had
    exact ⟨k, hc.trans hck, hbd.trans hdk⟩

/-- From wherever streams with two capacities are, they can go on to the same with the second one. -/
theorem capacities_join (capacity : Nat) (hm : Continues config script (start script) m)
    (hm' : Continues { config with capacity := capacity } script (start script) m') :
    ∃ d, Continues { config with capacity := capacity } script m d ∧
      Continues { config with capacity := capacity } script m' d := by
  obtain ⟨a, hsa, hma⟩ := continues_catches_up capacity rfl hm
  obtain ⟨d, had, hd⟩ := continues_joins hsa hm'
  exact ⟨d, hma.trans had, hd⟩

theorem Done.capacities_meet (capacity : Nat) (hdone : m.Done)
    (hm : Continues config script (start script) m)
    (hm' : Continues { config with capacity := capacity } script (start script) m') :
    Continues { config with capacity := capacity } script m' m := by
  obtain ⟨d, hmd, hd⟩ := capacities_join capacity hm hm'
  rwa [hdone.eq_of_continues hmd] at hd

end Moment

open Moment

/-- The capacity of its queue never changes what a stream gives to a reader that takes events as they
come. Whatever it has come to with one capacity, it can go on to with any other from wherever it is:
to the same events for its reader, the same requests and the same failures. Once it has come to an
end with one capacity, it comes to the very same end with any other, whatever turns task and reader
take. It does come to an end if it rests between its polls, and playing it gives this end. -/
theorem capacity_unseen (config : Config) (capacity : Nat) (script : Script) :
    (∀ m m', Continues config script (start script) m →
      Continues { config with capacity := capacity } script (start script) m' →
      ∃ d, Continues { config with capacity := capacity } script m' d ∧
        m.reader <+: d.reader ∧ reports m.happened <+: reports d.happened ∧
        requests m.happened <+: requests d.happened) ∧
    (∀ m, Continues config script (start script) m → m.Done →
      Ends { config with capacity := capacity } script (start script) ∧
      ∀ m', Continues { config with capacity := capacity } script (start script) m' →
        Continues { config with capacity := capacity } script m' m ∧ (m'.Done → m' = m)) ∧
    (0 < config.poll →
      Continues config script (start script) (play config script (collector none) []) ∧
      (play config script (collector none) []).Done ∧
      play { config with capacity := capacity } script (collector none) [] =
        play config script (collector none) []) := by
  refine ⟨?_, ?_, ?_⟩
  · intro m m' hm hm'
    obtain ⟨d, hmd, hd⟩ := capacities_join capacity hm hm'
    obtain ⟨hreader, hhappened, -⟩ := continues_extends hmd
    exact ⟨d, hd, hreader, hhappened.filterMap _, hhappened.filterMap _⟩
  · intro m hm hdone
    refine ⟨hdone.ends (hdone.capacities_meet capacity hm .refl), fun m' hm' => ?_⟩
    have hmeet := hdone.capacities_meet capacity hm hm'
    exact ⟨hmeet, fun hdone' => (hdone'.eq_of_continues hmeet).symm⟩
  · intro hpoll
    obtain ⟨hplay, hdone⟩ := play_collected script hpoll
    have hother : 0 < { config with capacity := capacity }.poll := hpoll
    obtain ⟨hplay', hdone'⟩ := play_collected script hother
    have hmeet := hdone.capacities_meet capacity hplay hplay'
    exact ⟨hplay, hdone, (hdone'.eq_of_continues hmeet).symm⟩

/-- Three events of two pages go through a queue for one as through a queue for three, and then the
next fetch fails. -/
theorem capacity_unseen_of_small_queue :
    let script : Script :=
      { answers :=
          [(5, .ok ⟨[⟨7, 0, "b"⟩, ⟨5, 0, "a"⟩], some "more", []⟩), (3, .ok ⟨[⟨6, 0, "c"⟩], none, []⟩),
            (0, .error (.throttled "slow"))]
        clock := [100, 2000]
        cancelAt := 5000 }
    let wide := play { group := "g", poll := 1000, capacity := 3 } script (collector none) []
    let narrow := play { group := "g", poll := 1000, capacity := 1 } script (collector none) []
    wide.Done ∧ wide.reader = [⟨5, 0, "a"⟩, ⟨6, 0, "c"⟩, ⟨7, 0, "b"⟩] ∧
      reports wide.happened = [.throttled "slow"] ∧
      (requests wide.happened).map (·.token) = [none, some "more", none] ∧ narrow = wide ∧
      Ends { group := "g", poll := 1000, capacity := 1 } script (start script) := by
  intro script wide narrow
  obtain ⟨-, hends, hplayed⟩ :=
    capacity_unseen { group := "g", poll := 1000, capacity := 3 } 1 script
  obtain ⟨hplay, hdone, hsame⟩ := hplayed (by decide)
  refine ⟨hdone, ?_, ?_, ?_, hsame, (hends _ hplay hdone).1⟩
  all_goals
    simp only [wide, script]
    cbv

end LogFollow.Stream
