import LogFollow.Explorer.Wrap
import Mathlib.Algebra.GroupWithZero.Nat
import Mathlib.Data.List.Chain
import Mathlib.Data.List.Flatten

/-!
# Wrapping is the greedy split

The rows of a text make up the text, fit the width, and end only where they have to. There is one
such split of a text for each width, and wrapping finds it.
-/

namespace LogFollow.Explorer
set_option autoImplicit false

def rowWidth (row : List Char) : Nat := (row.map columns).sum

/-- Why a row ends before the next one: a newline ends it, or the next character has no room. -/
def EndsBefore (width : Nat) (row next : List Char) : Prop :=
  row.getLast? = some '\n' ∨ ∃ c ∈ next.head?, width < rowWidth row + columns c

/-- The rows are a split of the text that no row could take a character further. -/
structure Greedy (width : Nat) (text : List Char) (rows : List (List Char)) : Prop where
  flatten_eq : rows.flatten = text
  ne_nil : rows ≠ []
  filled : ∀ row ∈ rows, row = [] → text = []
  newline : ∀ row ∈ rows, '\n' ∉ row.dropLast
  narrow : ∀ row ∈ rows, rowWidth row ≤ width ∨ row.length = 1
  forced : rows.IsChain (EndsBefore width)

variable {width : Nat} {c : Char} {text row row' next below : List Char}
  {rows rows' : List (List Char)}

@[simp] theorem rowWidth_nil : rowWidth [] = 0 := rfl

@[simp] theorem rowWidth_cons : rowWidth (c :: row) = columns c + rowWidth row := by
  simp [rowWidth]

@[simp] theorem rowWidth_append : rowWidth (row ++ next) = rowWidth row + rowWidth next := by
  simp [rowWidth]

@[simp] theorem columns_newline : columns '\n' = 0 := rfl

namespace Greedy

theorem single (hnewline : '\n' ∉ row.dropLast) (hnarrow : rowWidth row ≤ width ∨ row.length = 1) :
    Greedy width row [row] where
  flatten_eq := List.flatten_singleton
  ne_nil := List.cons_ne_nil row []
  filled := by simp
  newline := by simpa using hnewline
  narrow := by simpa using hnarrow
  forced := List.isChain_singleton row

theorem cons (h : Greedy width text (next :: rows)) (hrow : row ≠ [])
    (hnewline : '\n' ∉ row.dropLast) (hnarrow : rowWidth row ≤ width ∨ row.length = 1)
    (hends : EndsBefore width row next) (hnext : next ≠ []) :
    Greedy width (row ++ text) (row :: next :: rows) where
  flatten_eq := by rw [List.flatten_cons, h.flatten_eq]
  ne_nil := List.cons_ne_nil row _
  filled := by
    intro r hr hempty
    rcases List.mem_cons.mp hr with rfl | hr
    · exact absurd hempty hrow
    · have htext := h.filled r hr hempty
      have hflat := h.flatten_eq
      rw [htext, List.flatten_cons] at hflat
      exact absurd (List.append_eq_nil_iff.mp hflat).1 hnext
  newline := List.forall_mem_cons.mpr ⟨hnewline, h.newline⟩
  narrow := List.forall_mem_cons.mpr ⟨hnarrow, h.narrow⟩
  forced := List.isChain_cons_cons.mpr ⟨hends, h.forced⟩

theorem next_ne_nil (h : Greedy width text (row :: next :: rows)) : next ≠ [] := by
  rintro rfl
  have htext : text = [] := h.filled [] (by simp) rfl
  have hrow : row = [] := by
    have hflat := h.flatten_eq
    rw [htext, List.flatten_cons] at hflat
    exact (List.append_eq_nil_iff.mp hflat).1
  rcases (List.isChain_cons_cons.mp h.forced).1 with hlast | ⟨c, hc, -⟩
  · simp [hrow] at hlast
  · simp at hc

theorem tail (h : Greedy width text (row :: next :: rows)) :
    Greedy width (next :: rows).flatten (next :: rows) where
  flatten_eq := rfl
  ne_nil := List.cons_ne_nil next rows
  filled := by
    intro r hr hempty
    have htext := h.filled r (List.mem_cons_of_mem row hr) hempty
    have hflat := h.flatten_eq
    rw [htext, List.flatten_cons] at hflat
    exact (List.append_eq_nil_iff.mp hflat).2
  newline := (List.forall_mem_cons.mp h.newline).2
  narrow := (List.forall_mem_cons.mp h.narrow).2
  forced := (List.isChain_cons_cons.mp h.forced).2

/-- A first row that another split goes beyond was not forced to end. -/
theorem length_head_le (h : Greedy width text (row :: rows))
    (h' : Greedy width text (row' :: rows')) : row'.length ≤ row.length := by
  by_contra hlt
  have hflat : row ++ rows.flatten = row' ++ rows'.flatten :=
    h.flatten_eq.trans h'.flatten_eq.symm
  rcases List.append_eq_append_iff.mp hflat with ⟨more, hmore, hrest⟩ | ⟨more, hmore, -⟩
  swap
  · rw [hmore, List.length_append] at hlt
    omega
  cases more with
  | nil =>
    rw [hmore, List.append_nil] at hlt
    omega
  | cons c more =>
    have hrow : row ≠ [] := by
      intro hempty
      have htext := h.filled row List.mem_cons_self hempty
      have hflat' := h'.flatten_eq
      rw [htext, List.flatten_cons, hmore] at hflat'
      simp at hflat'
    cases rows with
    | nil => simp at hrest
    | cons next rows =>
      have hnext : next.head? = some c := by
        cases hcons : next with
        | nil => exact absurd hcons h.next_ne_nil
        | cons x xs =>
          rw [hcons, List.flatten_cons, List.cons_append, List.cons_append] at hrest
          rw [(List.cons.inj hrest).1, List.head?_cons]
      rcases (List.isChain_cons_cons.mp h.forced).1 with hlast | ⟨x, hx, hwide⟩
      · have hmem : '\n' ∈ row'.dropLast := by
          rw [hmore, List.dropLast_append_cons]
          exact List.mem_append_left _ (List.mem_of_getLast? hlast)
        exact h'.newline row' List.mem_cons_self hmem
      · rw [hnext, Option.mem_some_iff] at hx
        subst hx
        have hpos := List.length_pos_iff.mpr hrow
        rcases h'.narrow row' List.mem_cons_self with hfits | hone
        · rw [hmore, rowWidth_append, rowWidth_cons] at hfits
          omega
        · rw [hmore, List.length_append, List.length_cons] at hone
          omega

theorem unique (h : Greedy width text rows) (h' : Greedy width text rows') : rows = rows' := by
  induction rows generalizing text rows' with
  | nil => exact absurd rfl h.ne_nil
  | cons row rows ih =>
    cases rows' with
    | nil => exact absurd rfl h'.ne_nil
    | cons row' rows' =>
      have hlen : row.length = row'.length :=
        Nat.le_antisymm (h'.length_head_le h) (h.length_head_le h')
      have hflat : row ++ rows.flatten = row' ++ rows'.flatten :=
        h.flatten_eq.trans h'.flatten_eq.symm
      obtain ⟨rfl, hrest⟩ := List.append_inj hflat hlen
      cases rows with
      | nil =>
        cases rows' with
        | nil => rfl
        | cons next' rows' =>
          rw [List.flatten_nil, List.flatten_cons, eq_comm, List.append_eq_nil_iff] at hrest
          exact absurd hrest.1 h'.next_ne_nil
      | cons next rows =>
        cases rows' with
        | nil =>
          rw [List.flatten_nil, List.flatten_cons, List.append_eq_nil_iff] at hrest
          exact absurd hrest.1 h.next_ne_nil
        | cons next' rows' => rw [ih h.tail (hrest ▸ h'.tail)]

end Greedy

/-- The rows below a newline; an end of the text has none. -/
def rowsBelow (width : Nat) (text : List Char) : List (List Char) :=
  if text.isEmpty then [] else
    let (row, below) := rowsFrom width false 0 text
    row :: below

theorem rowsFrom_taken (hc : c ≠ '\n') (hfits : row = [] ∨ rowWidth row + columns c ≤ width) :
    rowsFrom width (!row.isEmpty) (rowWidth row) (c :: text) =
      let found := rowsFrom width true (rowWidth row + columns c) text
      (c :: found.1, found.2) := by
  rcases hfits with rfl | hfits
  · simp [rowsFrom, hc]
  · simp [rowsFrom, hc, hfits]

theorem rowsFrom_pushed (hc : c ≠ '\n') (hrow : row ≠ [])
    (hwide : width < rowWidth row + columns c) :
    rowsFrom width (!row.isEmpty) (rowWidth row) (c :: text) =
      let found := rowsFrom width true (columns c) text
      ([], (c :: found.1) :: found.2) := by
  simp [rowsFrom, hc, hrow, Nat.not_le.mpr hwide]

/-- A row that begins takes its first character. -/
theorem rowsFrom_first (width : Nat) (c : Char) (text : List Char) :
    ∃ row below, rowsFrom width false 0 (c :: text) = (c :: row, below) := by
  rw [rowsFrom]
  exact ⟨_, _, rfl⟩

theorem rowsFrom_newline (row : List Char) :
    rowsFrom width (!row.isEmpty) (rowWidth row) ('\n' :: text) =
      if row = [] ∨ rowWidth row ≤ width then (['\n'], rowsBelow width text)
      else ([], ['\n'] :: rowsBelow width text) := by
  cases text with
  | nil =>
    by_cases hrow : row = [] <;> by_cases hfits : rowWidth row ≤ width <;>
      simp [rowsFrom, rowsBelow, hrow, hfits]
  | cons c text =>
    obtain ⟨next, below, hfirst⟩ := rowsFrom_first width c text
    by_cases hrow : row = [] <;> by_cases hfits : rowWidth row ≤ width <;>
      simp [rowsFrom.eq_2, rowsBelow, hfirst, hrow, hfits]

/-- What stands behind a newline is split by itself. -/
theorem Greedy.above (row : List Char)
    (h : text ≠ [] → Greedy width text (rowsBelow width text))
    (hnewline : '\n' ∉ row.dropLast) (hlast : row.getLast? = some '\n')
    (hnarrow : rowWidth row ≤ width ∨ row.length = 1) :
    Greedy width (row ++ text) (row :: rowsBelow width text) := by
  cases text with
  | nil => simpa [rowsBelow] using Greedy.single hnewline hnarrow
  | cons c text =>
    obtain ⟨next, below, hfirst⟩ := rowsFrom_first width c text
    have hbelow := h (List.cons_ne_nil c text)
    simp only [rowsBelow, hfirst, List.isEmpty_cons, Bool.false_eq_true, if_false] at hbelow ⊢
    have hrow : row ≠ [] := by
      rintro rfl
      simp at hlast
    exact hbelow.cons hrow hnewline hnarrow (.inl hlast) (List.cons_ne_nil c next)

/-- The rest of a row that begins with `row`, and the rows below: the induction is on what is left of
the text, with any beginning that may still go on. -/
theorem greedy_rowsFrom (width : Nat) (text row : List Char) (hnewline : '\n' ∉ row)
    (hnarrow : rowWidth row ≤ width ∨ row.length = 1) :
    Greedy width (row ++ text)
      ((row ++ (rowsFrom width (!row.isEmpty) (rowWidth row) text).1) ::
        (rowsFrom width (!row.isEmpty) (rowWidth row) text).2) := by
  have hdrop : '\n' ∉ row.dropLast := fun hmem => hnewline (List.dropLast_subset row hmem)
  induction text generalizing row with
  | nil =>
    simpa [rowsFrom] using Greedy.single hdrop hnarrow
  | cons c text ih =>
    by_cases hc : c = '\n'
    · subst hc
      have hbelow : text ≠ [] → Greedy width text (rowsBelow width text) := by
        intro htext
        have hih := ih [] (by simp) (by simp) (by simp)
        simpa [rowsBelow, htext] using hih
      rw [rowsFrom_newline]
      split
      · rename_i hfits
        have hends : rowWidth (row ++ ['\n']) ≤ width ∨ (row ++ ['\n']).length = 1 := by
          rcases hfits with rfl | hfits
          · exact .inr rfl
          · exact .inl (by simpa using hfits)
        have hlast := Greedy.above (row ++ ['\n']) hbelow (by simpa using hnewline) (by simp) hends
        simpa using hlast
      · rename_i hwide
        rw [not_or, Nat.not_le] at hwide
        have hline := Greedy.above ['\n'] hbelow (by simp) (by simp) (by simp)
        have hall := hline.cons hwide.1 hdrop hnarrow (.inr ⟨'\n', by simp, by simpa using hwide.2⟩)
          (by simp)
        simpa using hall
    · by_cases hfits : row = [] ∨ rowWidth row + columns c ≤ width
      · have hgoes : rowWidth (row ++ [c]) ≤ width ∨ (row ++ [c]).length = 1 := by
          rcases hfits with rfl | hfits
          · exact .inr rfl
          · exact .inl (by simpa using hfits)
        have hih := ih (row ++ [c]) (by simpa using ⟨hnewline, Ne.symm hc⟩) hgoes
          (by simpa using hnewline)
        have hstarted : (row ++ [c]).isEmpty = false := by simp
        rw [rowsFrom_taken hc hfits]
        simpa [hstarted] using hih
      · rw [not_or, Nat.not_le] at hfits
        rw [rowsFrom_pushed hc hfits.1 hfits.2]
        have hih := ih [c] (by simpa using Ne.symm hc) (by simp) (by simp)
        have hall := hih.cons hfits.1 hdrop hnarrow (.inr ⟨c, by simp, hfits.2⟩) (by simp)
        simpa using hall

theorem greedy_wrap (width : Nat) (text : List Char) :
    Greedy (max width 1) text (wrap width text) := by
  have hrow := greedy_rowsFrom (max width 1) text [] (by simp) (by simp)
  simpa [wrap] using hrow

/-- The rows of a text make it up, and there is at least one; a row is empty only if the text is; a
newline is only at the end of a row; a row fits the width or is a single character; and what ends a row
before the next is a newline, or that the next character has no room. Only the rows that wrapping gives
are such a split. -/
theorem greedy_iff_wrap (width : Nat) (text : List Char) (rows : List (List Char)) :
    Greedy (max width 1) text rows ↔ rows = wrap width text := by
  constructor
  · intro h
    exact h.unique (greedy_wrap width text)
  · rintro rfl
    exact greedy_wrap width text

end LogFollow.Explorer
