import LogFollow.Event.Basic
import Mathlib.Data.List.Permutation

/-!
# Events in the order of their times

Sorting by time is stable. To say which of several equal events is meant, an event is taken
together with its place among the arrivals; times and places then give a strict order.
-/

namespace LogFollow
set_option autoImplicit false

section
variable {α : Type} (time : α → Int)

theorem timeLE_trans (a b c : α) (hab : decide (time a ≤ time b) = true)
    (hbc : decide (time b ≤ time c) = true) : decide (time a ≤ time c) = true :=
  decide_eq_true (Int.le_trans (of_decide_eq_true hab) (of_decide_eq_true hbc))

theorem timeLE_total (a b : α) : (decide (time a ≤ time b) || decide (time b ≤ time a)) = true := by
  rw [Bool.or_eq_true, decide_eq_true_iff, decide_eq_true_iff]
  exact Int.le_total (time a) (time b)

theorem sorted_mergeSort_time (l : List α) :
    (l.mergeSort fun a b => decide (time a ≤ time b)).Pairwise fun a b => time a ≤ time b :=
  (List.pairwise_mergeSort (timeLE_trans time) (timeLE_total time) l).imp of_decide_eq_true

theorem filter_mergeSort_time (l : List α) (t : Int) :
    (l.mergeSort fun a b => decide (time a ≤ time b)).filter (time · = t) =
      l.filter (time · = t) := by
  let le : α → α → Bool := fun a b => decide (time a ≤ time b)
  have hperm := (List.mergeSort_perm l le).filter (time · = t)
  have hties : (l.filter (time · = t)).Pairwise fun a b => le a b = true := by
    refine List.pairwise_of_forall_mem_list fun a ha b hb => decide_eq_true ?_
    have hta := of_decide_eq_true (List.mem_filter.mp ha).2
    have htb := of_decide_eq_true (List.mem_filter.mp hb).2
    omega
  have hsub := List.sublist_mergeSort (timeLE_trans time) (timeLE_total time) hties
    List.filter_sublist
  have hkept := hsub.filter (time · = t)
  simp only [List.filter_filter, Bool.and_self] at hkept
  exact (hkept.eq_of_length hperm.length_eq.symm).symm

end

namespace Event

theorem notLater_iff {a b : Event} : a.notLater b = true ↔ a.timestamp ≤ b.timestamp := by
  simp [notLater]

theorem notLater_trans (a b c : Event) (hab : a.notLater b = true) (hbc : b.notLater c = true) :
    a.notLater c = true :=
  timeLE_trans Event.timestamp a b c hab hbc

theorem notLater_total (a b : Event) : (a.notLater b || b.notLater a) = true :=
  timeLE_total Event.timestamp a b

/-- `result` holds the events of `arrived` by time, and by arrival where times are equal. -/
structure InTimeOrder (arrived result : List Event) : Prop where
  perm : result.Perm arrived
  sorted : result.Pairwise fun a b => a.timestamp ≤ b.timestamp
  stable : ∀ t, result.filter (·.timestamp = t) = arrived.filter (·.timestamp = t)

theorem sorted_mergeSort (arrived : List Event) :
    (arrived.mergeSort notLater).Pairwise fun a b => a.timestamp ≤ b.timestamp :=
  sorted_mergeSort_time (·.timestamp) arrived

theorem filter_mergeSort (arrived : List Event) (t : Int) :
    (arrived.mergeSort notLater).filter (·.timestamp = t) = arrived.filter (·.timestamp = t) :=
  filter_mergeSort_time (·.timestamp) arrived t

theorem inTimeOrder_mergeSort (arrived : List Event) :
    InTimeOrder arrived (arrived.mergeSort notLater) :=
  ⟨List.mergeSort_perm arrived notLater, sorted_mergeSort arrived, filter_mergeSort arrived⟩

/-- An event with its place comes before another one: by time, equal times by place. -/
def Before (a b : Event × Nat) : Prop :=
  a.1.timestamp < b.1.timestamp ∨ (a.1.timestamp = b.1.timestamp ∧ a.2 < b.2)

/-- The arrivals with their places, in the order of their times. -/
def placed (arrived : List Event) : List (Event × Nat) :=
  arrived.zipIdx.mergeSort (List.zipIdxLE notLater)

theorem placed_perm (arrived : List Event) : (placed arrived).Perm arrived.zipIdx :=
  List.mergeSort_perm _ _

theorem map_fst_placed (arrived : List Event) :
    (placed arrived).map (·.1) = arrived.mergeSort notLater :=
  List.mergeSort_zipIdx

theorem before_of_zipIdxLE {a b : Event × Nat} (h : List.zipIdxLE notLater a b = true)
    (hne : a.2 ≠ b.2) : Before a b := by
  unfold Before
  simp only [List.zipIdxLE, notLater_iff] at h
  split at h
  · split at h
    · have := of_decide_eq_true h
      exact .inr ⟨by omega, by omega⟩
    · exact .inl (by omega)
  · simp at h

theorem placed_before (arrived : List Event) : (placed arrived).Pairwise Before := by
  have hle := List.pairwise_mergeSort (List.zipIdxLE_trans notLater_trans)
    (List.zipIdxLE_total notLater_total) arrived.zipIdx
  have hplaces : ((placed arrived).map (·.2)).Nodup := by
    rw [((placed_perm arrived).map (·.2)).nodup_iff, List.zipIdx_map_snd]
    exact List.nodup_range'
  exact hle.imp₂ (fun _ _ h hne => before_of_zipIdxLE h hne) (List.pairwise_map.mp hplaces)

end Event
end LogFollow
