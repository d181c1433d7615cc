import LogFollow.Proofs.Explorer.Rows
import Mathlib.Data.List.Infix

/-!
# Arrivals leave the reader where they are

An event that comes adds its rows at the end of all rows, and the events over the capacity take theirs
from the front. A window that does not follow stays on its rows, as far as these are not taken; one
that follows shows the last rows again.
-/

namespace LogFollow.Explorer
set_option autoImplicit false

theorem drop_rowCount_rowsOf (n : Nat) (items : List Item) :
    (rowsOf items).drop (rowCount (items.take n)) = rowsOf (items.drop n) := by
  conv_lhs => rw [← List.take_append_drop n items, rowsOf_append, List.take_append_drop]
  rw [← length_rowsOf, List.drop_left]

namespace View

variable {v : View}

/-- The rows of the events that are pushed out when one more comes. -/
def rowsLost (v : View) (e : Event) (highlight : Option Span) : Nat :=
  rowCount (v.append e highlight).surplus

theorem allRows_push (v : View) (e : Event) (highlight : Option Span) :
    (v.push e highlight).allRows =
      (v.allRows ++ rowsOf [Item.of v.width e highlight]).drop (v.rowsLost e highlight) := by
  rw [push_eq, allRows_eq, follow_items, allRows_eq, ← rowsOf_append]
  exact (drop_rowCount_rowsOf _ _).symm

theorem push_following (v : View) (e : Event) (highlight : Option Span) :
    (v.push e highlight).following = v.following := by
  rw [push_eq, View.follow]
  cases hf : v.following <;> simp [evict, append, toBottom, hf]

theorem push_offset (hf : v.following = false) (e : Event) (highlight : Option Span) :
    (v.push e highlight).offset = v.offset - v.rowsLost e highlight := by
  rw [push_eq, View.follow]
  simp [evict, append, hf, rowsLost, surplus]

/-- A window that follows shows the last rows. -/
theorem visibleRows_bottom (hl : v.Laid) (ha : v.Anchored) (hf : v.following = true) :
    v.visibleRows = v.allRows.rtake (min v.height v.total) := by
  have hlength : v.allRows.length = v.total := (length_allRows v).trans hl.total.symm
  have hstart : v.total - min v.height v.total = v.total - v.height := by omega
  rw [visibleRows, ha.bottom hf, maxOffset, List.rtake, hlength, hstart]
  apply List.take_of_length_le
  rw [List.length_drop, hlength]
  omega

/-- A window that does not follow shows the rows behind its offset, or behind those that are gone. -/
theorem visibleRows_push (hf : v.following = false) (e : Event) (highlight : Option Span) :
    (v.push e highlight).visibleRows =
      ((v.allRows ++ rowsOf [Item.of v.width e highlight]).drop
        (max v.offset (v.rowsLost e highlight))).take v.height := by
  have hheight : (v.push e highlight).height = v.height := congrArg Prod.snd (v.push_size e highlight)
  have hmax : max v.offset (v.rowsLost e highlight) =
      v.rowsLost e highlight + (v.offset - v.rowsLost e highlight) := by omega
  rw [visibleRows, hheight, allRows_push, push_offset hf, List.drop_drop, hmax]

/-- Behind every run of a view that begins empty: when an event comes, the rows of the events over
the capacity go, and a window that does not follow shows the rows from its offset on, or from the
first that is left; unless that row was among those that went, every row in the window stays at its
place. A window that follows shows the last rows, as many as fit. -/
theorem arrival_keeps_window (capacity : Nat) (ops : List Op) (e : Event)
    (highlight : Option Span) :
    let v := after capacity ops
    let v' := v.push e highlight
    let rows := v.allRows ++ rowsOf [Item.of v.width e highlight]
    let lost := v.rowsLost e highlight
    v'.allRows = rows.drop lost ∧ v'.total = rows.length - lost ∧
    (v.following = false →
      v'.following = false ∧ v'.visibleRows = (rows.drop (max v.offset lost)).take v.height ∧
      (lost ≤ v.offset → v.visibleRows <+: v'.visibleRows)) ∧
    (v.following = true →
      v'.following = true ∧ v'.visibleRows = v'.allRows.rtake (min v.height v'.total)) := by
  intro v v' rows lost
  have hsound : v.Sound (max capacity 1) (given ops) := sound_after capacity ops
  have hlaid : v'.Laid := hsound.laid.push e highlight
  have hheight : v'.height = v.height := congrArg Prod.snd (v.push_size e highlight)
  have hrows : v'.allRows = rows.drop lost := v.allRows_push e highlight
  refine ⟨hrows, ?_, ?_, ?_⟩
  · rw [hlaid.total, ← length_allRows, hrows, List.length_drop]
  · intro hf
    have hvisible := visibleRows_push hf e highlight
    refine ⟨(v.push_following e highlight).trans hf, hvisible, ?_⟩
    intro hkept
    have hstart : max v.offset lost = v.offset := Nat.max_eq_left hkept
    rw [hvisible, hstart]
    exact List.IsPrefix.take (List.IsPrefix.drop (List.prefix_append v.allRows _) v.offset) v.height
  · intro hf
    have hf' : v'.following = true := (v.push_following e highlight).trans hf
    refine ⟨hf', ?_⟩
    rw [← hheight]
    exact visibleRows_bottom hlaid (hsound.anchored.push e highlight) hf'

/-- A window on both rows of an event, and an arrival that pushes out the row above it. -/
theorem arrival_keeps_window_of_eviction :
    let event := fun message => (⟨0, 0, message⟩ : Event)
    let v := after 3 [.resize 24 2, .push (event "a") none, .push (event "bcde") none,
      .push (event "f") none, .scrollUp 1]
    v.following = false ∧ v.offset = 1 ∧ v.rowsLost (event "g") none = 1 ∧
      v.visibleText = ["1970-01-01T00:00:00Z  bc", "de"] ∧
      v.visibleRows <+: (v.push (event "g") none).visibleRows := by
  intro event v
  have hf : v.following = false := by decide +kernel
  have hoffset : v.offset = 1 := by decide +kernel
  have hlost : v.rowsLost (event "g") none = 1 := by decide +kernel
  have htext : v.visibleText = ["1970-01-01T00:00:00Z  bc", "de"] := by decide +kernel
  have hkept := ((arrival_keeps_window 3 [.resize 24 2, .push (event "a") none,
    .push (event "bcde") none, .push (event "f") none, .scrollUp 1] (event "g") none).2.2.1 hf).2.2
  exact ⟨hf, hoffset, hlost, htext, hkept (hlost.trans_le hoffset.ge)⟩

end View
end LogFollow.Explorer
