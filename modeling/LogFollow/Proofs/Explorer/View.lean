import LogFollow.Explorer.View
import Mathlib.Data.List.DropRight

/-!
# What a view holds

A view holds the end of the hits of its last replacement and of the events pushed since. Scrolling
and a new size change neither the events nor their highlights.
-/

namespace LogFollow.Explorer
set_option autoImplicit false

variable {α : Type} {n : Nat} {xs ys : List α}

theorem length_rtake (n : Nat) (xs : List α) : (xs.rtake n).length = min n xs.length := by
  rw [List.rtake, List.length_drop]
  omega

theorem rtake_suffix (n : Nat) (xs : List α) : xs.rtake n <:+ xs := List.drop_suffix _ xs

theorem rtake_of_length_le (h : xs.length ≤ n) : xs.rtake n = xs := by
  rw [List.rtake, Nat.sub_eq_zero_of_le h, List.drop_zero]

theorem suffix_rtake (h : xs <:+ ys) (hn : xs.length ≤ n) : xs <:+ ys.rtake n := by
  apply List.suffix_of_suffix_length_le h (rtake_suffix n ys)
  rw [length_rtake]
  exact Nat.le_min.mpr ⟨hn, h.length_le⟩

theorem rtake_rtake_append (n : Nat) (xs ys : List α) :
    (xs.rtake n ++ ys).rtake n = (xs ++ ys).rtake n := by
  have hlength : ((xs.rtake n ++ ys).rtake n).length = ((xs ++ ys).rtake n).length := by
    simp only [length_rtake, List.length_append]
    omega
  have hsuffix : (xs.rtake n ++ ys).rtake n <:+ xs ++ ys := by
    obtain ⟨front, hfront⟩ := rtake_suffix n xs
    refine (rtake_suffix n _).trans ⟨front, ?_⟩
    rw [← List.append_assoc, hfront]
  apply (suffix_rtake hsuffix _).eq_of_length hlength
  rw [length_rtake]
  exact Nat.min_le_left n _

namespace View

/-- The events of a view with their highlights. -/
def hits (v : View) : List Hit := v.items.map fun i => ⟨i.event, i.highlight⟩

theorem map_event_hits (v : View) : v.hits.map (·.event) = v.events := by
  simp [hits, events]

@[simp] theorem follow_items (v : View) : v.follow.items = v.items := by
  unfold follow
  split <;> rfl

@[simp] theorem follow_capacity (v : View) : v.follow.capacity = v.capacity := by
  unfold follow
  split <;> rfl

theorem push_hits (v : View) (e : Event) (highlight : Option Span) :
    (v.push e highlight).hits = (v.hits ++ [(⟨e, highlight⟩ : Hit)]).rtake v.capacity := by
  simp [push, evict, hits, List.rtake, List.map_drop, Item.of]

theorem replace_hits (v : View) (found : List Hit) :
    (v.replace found).hits = found.rtake v.capacity := by
  simp [replace, hits, List.rtake, Item.of, Function.comp_def]

theorem resize_hits (v : View) (width height : Nat) : (v.resize width height).hits = v.hits := by
  by_cases hw : max width 1 = v.width
  · simp [resize, settle, hits, hw]
  · simp [resize, settle, hits, hw, Item.rewrap, Item.of]

theorem push_capacity (v : View) (e : Event) (highlight : Option Span) :
    (v.push e highlight).capacity = v.capacity := by
  simp [push, evict]

theorem replace_capacity (v : View) (found : List Hit) :
    (v.replace found).capacity = v.capacity := by
  simp [replace]

theorem resize_capacity (v : View) (width height : Nat) :
    (v.resize width height).capacity = v.capacity := by
  by_cases hw : max width 1 = v.width <;> simp [resize, settle, hw]

end View
end LogFollow.Explorer
