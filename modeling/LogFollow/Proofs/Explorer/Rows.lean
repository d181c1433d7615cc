import LogFollow.Proofs.Explorer.View
import Mathlib.Algebra.GroupWithZero.Nat

/-!
# The rows of a view

A view counts its rows while events come and go, wraps them anew for another width, and keeps its
window on them. `Sound` says what the fields of a view have to do with the hits that it was given;
every operation keeps it, so that it holds of each view that begins empty.
-/

namespace LogFollow.Explorer
set_option autoImplicit false

theorem rowCount_eq_sum (items : List Item) : rowCount items = (items.map (·.rows.length)).sum := by
  induction items with
  | nil => rfl
  | cons i items ih =>
    rw [List.map_cons, List.sum_cons, ← ih]
    rfl

theorem rowCount_append (items items' : List Item) :
    rowCount (items ++ items') = rowCount items + rowCount items' := by
  simp only [rowCount_eq_sum, List.map_append, List.sum_append]

theorem rowCount_take_add_drop (n : Nat) (items : List Item) :
    rowCount (items.take n) + rowCount (items.drop n) = rowCount items := by
  rw [← rowCount_append, List.take_append_drop]

theorem length_placed (start : Nat) (rows : List (List Char)) :
    (Item.placed start rows).length = rows.length := by
  induction rows generalizing start with
  | nil => rfl
  | cons row rows ih => simp [Item.placed, ih]

/-- The rows of some events, each with its event and its place in the line of it. -/
def rowsOf (items : List Item) : List (Item × Nat × List Char) :=
  items.flatMap fun i => (Item.placed 0 i.rows).map fun row => (i, row)

theorem rowsOf_append (items items' : List Item) :
    rowsOf (items ++ items') = rowsOf items ++ rowsOf items' :=
  List.flatMap_append

theorem length_rowsOf (items : List Item) : (rowsOf items).length = rowCount items := by
  rw [rowCount_eq_sum, rowsOf, List.length_flatMap]
  simp only [List.length_map, length_placed]

namespace View

variable {v : View} {most : Nat} {shown : List Hit}

/-- The rows of every event are those of its line at the width of the view, and all are counted. -/
structure Laid (v : View) : Prop where
  wrapped : ∀ i ∈ v.items, i.rows = wrap v.width i.event.line.toList
  total : v.total = rowCount v.items

/-- The window lies on the rows, and on the last ones while it follows them. -/
structure Anchored (v : View) : Prop where
  offset : v.offset ≤ v.maxOffset
  bottom : v.following = true → v.offset = v.maxOffset

def append (v : View) (e : Event) (highlight : Option Span) : View :=
  let item := Item.of v.width e highlight
  { v with items := v.items ++ [item], total := v.total + item.rows.length }

/-- The events over the capacity, the oldest ones. -/
def surplus (v : View) : List Item := v.items.take (v.items.length - v.capacity)

theorem push_eq (v : View) (e : Event) (highlight : Option Span) :
    v.push e highlight = (v.append e highlight).evict.follow := rfl

def size (v : View) : Nat × Nat := (v.width, v.height)

theorem follow_size (v : View) : v.follow.size = v.size := by
  unfold follow
  split <;> rfl

theorem push_size (v : View) (e : Event) (highlight : Option Span) :
    (v.push e highlight).size = v.size := by
  rw [push_eq, follow_size]
  rfl

theorem replace_size (v : View) (hits : List Hit) : (v.replace hits).size = v.size := by
  unfold replace
  rw [follow_size]
  rfl

theorem resize_size (v : View) (width height : Nat) :
    (v.resize width height).size = (max width 1, height) := by
  by_cases hw : max width 1 = v.width <;> simp [resize, settle, size, hw]

theorem Laid.follow (h : v.Laid) : v.follow.Laid := by
  unfold View.follow
  split
  · exact ⟨h.wrapped, h.total⟩
  · exact h

theorem Laid.append (h : v.Laid) (e : Event) (highlight : Option Span) :
    (v.append e highlight).Laid := by
  constructor
  · intro i hi
    rcases List.mem_append.mp hi with hi | hi
    · exact h.wrapped i hi
    · rw [List.mem_singleton.mp hi]
      rfl
  · simp only [View.append, rowCount_append, h.total]
    simp [rowCount]

/-- The rows of the events over the capacity are counted, and are taken off the count with them. -/
theorem Laid.rowCount_surplus_le (h : v.Laid) : rowCount v.surplus ≤ v.total := by
  rw [h.total, ← rowCount_take_add_drop (v.items.length - v.capacity) v.items]
  exact Nat.le_add_right _ _

theorem Laid.evict (h : v.Laid) : v.evict.Laid := by
  constructor
  · intro i hi
    exact h.wrapped i (List.mem_of_mem_drop hi)
  · simp only [View.evict, h.total]
    rw [← rowCount_take_add_drop (v.items.length - v.capacity) v.items]
    exact Nat.add_sub_cancel_left _ _

theorem Laid.push (h : v.Laid) (e : Event) (highlight : Option Span) :
    (v.push e highlight).Laid := by
  rw [push_eq]
  exact (h.append e highlight).evict.follow

/-- Events wrapped to the width of a view make up its rows. -/
theorem laid_of_hits (v : View) (hits : List Hit)
    (hitems : v.items = hits.map fun h => Item.of v.width h.event h.highlight)
    (htotal : v.total = rowCount v.items) : v.Laid := by
  refine ⟨?_, htotal⟩
  rw [hitems]
  intro i hi
  obtain ⟨h, -, rfl⟩ := List.mem_map.mp hi
  rfl

theorem laid_replace (v : View) (hits : List Hit) : (v.replace hits).Laid := by
  unfold View.replace
  exact (laid_of_hits _ _ rfl rfl).follow

theorem Laid.resize (h : v.Laid) (width height : Nat) : (v.resize width height).Laid := by
  by_cases hw : max width 1 = v.width
  · simp only [View.resize, hw, if_true, View.settle]
    exact ⟨h.wrapped, h.total⟩
  · simp only [View.resize, hw, if_false, View.settle]
    refine ⟨?_, rfl⟩
    intro i hi
    obtain ⟨i, -, rfl⟩ := List.mem_map.mp hi
    rfl

theorem anchored_toBottom (v : View) : v.toBottom.Anchored := ⟨Nat.le_refl _, fun _ => rfl⟩

theorem anchored_settle (v : View) : v.settle.Anchored := by
  cases hf : v.following with
  | true => exact ⟨by simp [settle, hf, maxOffset], fun _ => by simp [settle, hf, maxOffset]⟩
  | false =>
    refine ⟨?_, fun h => by simp [settle, hf] at h⟩
    simp only [settle, hf, maxOffset, Bool.false_eq_true, if_false]
    exact Nat.min_le_right _ _

theorem anchored_follow (h : v.following = false → v.offset ≤ v.maxOffset) :
    v.follow.Anchored := by
  unfold View.follow
  cases hf : v.following with
  | true => exact anchored_toBottom v
  | false => exact ⟨h hf, fun htrue => by simp [hf] at htrue⟩

/-- What comes behind the window and what goes in front of it leave it on the rows. -/
theorem offset_evict (hf : v.following = false) (h : v.offset ≤ v.maxOffset) :
    v.evict.offset ≤ v.evict.maxOffset := by
  simp only [View.evict, maxOffset, hf, Bool.false_eq_true, if_false] at h ⊢
  omega

theorem Anchored.push (h : v.Anchored) (e : Event) (highlight : Option Span) :
    (v.push e highlight).Anchored := by
  rw [push_eq]
  refine anchored_follow fun hf => offset_evict hf ?_
  have hoffset := h.offset
  simp only [View.append, maxOffset] at hoffset ⊢
  omega

theorem anchored_replace (v : View) (hits : List Hit) : (v.replace hits).Anchored :=
  anchored_follow fun _ => Nat.zero_le _

theorem Anchored.scrollUp (h : v.Anchored) (n : Nat) : (v.scrollUp n).Anchored :=
  ⟨(Nat.sub_le _ _).trans h.offset, fun hf => absurd hf Bool.false_ne_true⟩

theorem anchored_scrollDown (v : View) (n : Nat) : (v.scrollDown n).Anchored := by
  refine ⟨Nat.min_le_right _ _, fun hf => ?_⟩
  exact Nat.le_antisymm (Nat.min_le_right _ _) (of_decide_eq_true hf)

theorem allRows_eq (v : View) : v.allRows = rowsOf v.items := rfl

theorem length_allRows (v : View) : v.allRows.length = rowCount v.items := length_rowsOf v.items

/-- A window on the rows is as full as it can be. -/
theorem length_visibleRows (hl : v.Laid) (ha : v.Anchored) :
    v.visibleRows.length = min v.height v.total := by
  have hoffset := ha.offset
  rw [visibleRows, List.length_take, List.length_drop, length_allRows, ← hl.total]
  simp only [maxOffset] at hoffset
  omega

inductive Op
  | push (e : Event) (highlight : Option Span)
  | replace (hits : List Hit)
  | resize (width height : Nat)
  | scrollUp (n : Nat)
  | scrollDown (n : Nat)
  | pageUp
  | pageDown
  | toBottom

def apply (v : View) : Op → View
  | .push e highlight => v.push e highlight
  | .replace hits => v.replace hits
  | .resize width height => v.resize width height
  | .scrollUp n => v.scrollUp n
  | .scrollDown n => v.scrollDown n
  | .pageUp => v.scrollUp v.page
  | .pageDown => v.scrollDown v.page
  | .toBottom => v.toBottom

/-- The hits of the last replacement and the events pushed since, with one more operation. -/
def note (shown : List Hit) : Op → List Hit
  | .push e highlight => shown ++ [⟨e, highlight⟩]
  | .replace hits => hits
  | _ => shown

/-- A size after one more operation: a resizing gives its own, with at least one column. -/
def resized (size : Nat × Nat) : Op → Nat × Nat
  | .resize width height => (max width 1, height)
  | _ => size

theorem apply_size (v : View) (op : Op) : (v.apply op).size = resized v.size op := by
  cases op with
  | push e highlight => exact v.push_size e highlight
  | replace hits => exact v.replace_size hits
  | resize width height => exact v.resize_size width height
  | _ => rfl

/-- What holds of a view that was given some hits to show: it holds the last of them, and the window
is on their rows. -/
structure Sound (most : Nat) (shown : List Hit) (v : View) : Prop where
  capacity : v.capacity = most
  hits : v.hits = shown.rtake most
  laid : v.Laid
  anchored : v.Anchored

theorem sound_new (capacity : Nat) : (new capacity).Sound (max capacity 1) [] where
  capacity := rfl
  hits := (List.rtake_nil _).symm
  laid := ⟨fun _ hi => absurd hi List.not_mem_nil, rfl⟩
  anchored := ⟨Nat.zero_le _, fun _ => rfl⟩

/-- Scrolling moves the window only. -/
theorem Sound.scroll (h : v.Sound most shown) {v' : View} (hcapacity : v'.capacity = v.capacity)
    (hitems : v'.items = v.items) (hwidth : v'.width = v.width) (htotal : v'.total = v.total)
    (ha : v'.Anchored) : v'.Sound most shown where
  capacity := hcapacity.trans h.capacity
  hits := by rw [View.hits, hitems, ← h.hits, View.hits]
  laid := by
    refine ⟨?_, ?_⟩
    · rw [hitems, hwidth]
      exact h.laid.wrapped
    · rw [htotal, hitems, h.laid.total]
  anchored := ha

theorem Sound.apply (h : v.Sound most shown) (op : Op) :
    (v.apply op).Sound most (note shown op) := by
  cases op with
  | push e highlight =>
    refine ⟨?_, ?_, h.laid.push e highlight, h.anchored.push e highlight⟩
    · exact (v.push_capacity e highlight).trans h.capacity
    · rw [View.apply, push_hits, h.capacity, h.hits]
      exact rtake_rtake_append _ _ _
  | replace hits =>
    refine ⟨?_, ?_, laid_replace v hits, anchored_replace v hits⟩
    · exact (v.replace_capacity hits).trans h.capacity
    · rw [View.apply, replace_hits, h.capacity]
      rfl
  | resize width height =>
    refine ⟨?_, ?_, h.laid.resize width height, anchored_settle _⟩
    · exact (v.resize_capacity width height).trans h.capacity
    · exact (v.resize_hits width height).trans h.hits
  | scrollUp n => exact h.scroll rfl rfl rfl rfl (h.anchored.scrollUp n)
  | scrollDown n => exact h.scroll rfl rfl rfl rfl (anchored_scrollDown v n)
  | pageUp => exact h.scroll rfl rfl rfl rfl (h.anchored.scrollUp v.page)
  | pageDown => exact h.scroll rfl rfl rfl rfl (anchored_scrollDown v v.page)
  | toBottom => exact h.scroll rfl rfl rfl rfl (anchored_toBottom v)

def after (capacity : Nat) (ops : List Op) : View := ops.foldl apply (new capacity)

def given (ops : List Op) : List Hit := ops.foldl note []

/-- The size of the last resizing; without any, a view has 80 columns and 20 rows. -/
def sized (ops : List Op) : Nat × Nat := ops.foldl resized (80, 20)

theorem foldl_apply_size (v : View) (ops : List Op) :
    (ops.foldl apply v).size = ops.foldl resized v.size := by
  induction ops generalizing v with
  | nil => rfl
  | cons op ops ih => rw [List.foldl_cons, ih, apply_size, List.foldl_cons]

theorem after_size (capacity : Nat) (ops : List Op) : (after capacity ops).size = sized ops :=
  foldl_apply_size (new capacity) ops

theorem Sound.foldl_apply (h : v.Sound most shown) (ops : List Op) :
    (ops.foldl View.apply v).Sound most (ops.foldl note shown) := by
  induction ops generalizing v shown with
  | nil => exact h
  | cons op ops ih => exact ih (h.apply op)

theorem sound_after (capacity : Nat) (ops : List Op) :
    (after capacity ops).Sound (max capacity 1) (given ops) :=
  (sound_new capacity).foldl_apply ops

/-- Whatever is done to a view that begins empty: it holds the last hits among those of its last
replacement and the events pushed since, as many as it has room for; its size is that of the last
resizing, and every event is wrapped to its width; all rows are counted, so that those of an event
that is pushed out never exceed the count; the window lies on the rows, on the last ones while it
follows them, and is as full as it can be. -/
theorem after_latest_rows (capacity : Nat) (ops : List Op) :
    let v := after capacity ops
    (v.hits = (given ops).rtake (max capacity 1) ∧
      v.items.length = min (max capacity 1) (given ops).length) ∧
    (v.width, v.height) = sized ops ∧
    (∀ i ∈ v.items, i.rows = wrap v.width i.event.line.toList) ∧
    v.total = (v.items.map (·.rows.length)).sum ∧
    (∀ e highlight, rowCount (v.append e highlight).surplus ≤ (v.append e highlight).total) ∧
    v.offset ≤ v.maxOffset ∧ (v.following = true → v.offset = v.maxOffset) ∧
    v.visibleRows.length = min v.height v.total := by
  intro v
  have hsound : v.Sound (max capacity 1) (given ops) := sound_after capacity ops
  have hcount : v.items.length = min (max capacity 1) (given ops).length := by
    rw [← length_rtake, ← hsound.hits, View.hits, List.length_map]
  refine ⟨⟨hsound.hits, hcount⟩, after_size capacity ops, hsound.laid.wrapped, ?_, ?_,
    hsound.anchored.offset, hsound.anchored.bottom,
    length_visibleRows hsound.laid hsound.anchored⟩
  · rw [hsound.laid.total, rowCount_eq_sum]
  · intro e highlight
    exact (hsound.laid.append e highlight).rowCount_surplus_le

/-- An event from before a resizing is wrapped anew, and one from behind it to the same width. -/
theorem after_latest_rows_of_resize :
    let ops : List Op := [.push ⟨0, 0, "first"⟩ none, .push ⟨0, 0, "second"⟩ none, .resize 12 3,
      .push ⟨1000, 0, "third"⟩ none]
    let v := after 2 ops
    (v.width, v.height) = (12, 3) ∧ v.total = 6 ∧ v.visibleRows.length = 3 ∧
      v.visibleText = ["1970-01-01T0", "0:00:01Z  th", "ird"] := by
  intro ops v
  obtain ⟨-, hsize, -, -, -, -, -, hvisible⟩ := after_latest_rows 2 ops
  have htotal : v.total = 6 := by
    decide +kernel
  refine ⟨hsize, htotal, ?_, ?_⟩
  · rw [hvisible, htotal]
    decide +kernel
  · decide +kernel

end View
end LogFollow.Explorer
