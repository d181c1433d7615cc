import LogFollow.Text.Blank

/-!
# Trimmed texts

Trimming takes the longest stretches off both ends: what is left begins and ends with a character
that stays, and there is only one way to cut a text like this.
-/

namespace LogFollow.Text
set_option autoImplicit false

/-- A text is its core between characters of one kind, none of which is the first or the last of
the core. -/
structure HasCore (p : Char → Bool) (cs core : List Char) : Prop where
  cut : ∃ before after, cs = before ++ (core ++ after) ∧ (∀ c ∈ before, p c = true) ∧
    ∀ c ∈ after, p c = true
  first : ∀ c ∈ core.head?, p c = false
  last : ∀ c ∈ core.getLast?, p c = false

variable {p : Char → Bool} {cs core before rest : List Char} {c : Char}

theorem dropWhile_before (hbefore : ∀ c ∈ before, p c = true)
    (hrest : ∀ c ∈ rest.head?, p c = false) : (before ++ rest).dropWhile p = rest := by
  rw [List.dropWhile_append_of_pos hbefore]
  cases rest with
  | nil => rfl
  | cons c rest => rw [List.dropWhile_cons_of_neg (by simp [hrest c rfl])]

theorem of_head?_dropWhile (h : c ∈ (cs.dropWhile p).head?) : p c = false := by
  have hfirst := List.head?_dropWhile_not p cs
  rw [Option.mem_def.mp h] at hfirst
  exact hfirst

theorem HasCore.trimList_eq (h : HasCore p cs core) : trimList p cs = core := by
  obtain ⟨⟨before, after, rfl, hbefore, hafter⟩, hfirst, hlast⟩ := h
  by_cases hcore : core = []
  · have hall : ∀ c ∈ before ++ after, p c = true := by
      intro c hc
      exact (List.mem_append.mp hc).elim (hbefore c) (hafter c)
    have hdrop := @dropWhile_before p (before ++ after) [] hall (by simp)
    rw [List.append_nil] at hdrop
    rw [hcore, List.nil_append, trimList, hdrop]
    rfl
  · have hhead : ∀ c ∈ (core ++ after).head?, p c = false := by
      obtain ⟨c, core, rfl⟩ := List.exists_cons_of_ne_nil hcore
      exact hfirst
    have hback : (after.reverse ++ core.reverse).dropWhile p = core.reverse := by
      refine dropWhile_before (by simpa using hafter) ?_
      rwa [List.head?_reverse]
    rw [trimList, dropWhile_before hbefore hhead, List.reverse_append, hback, List.reverse_reverse]

theorem trimList_append (p : Char → Bool) (cs : List Char) :
    trimList p cs ++ ((cs.dropWhile p).reverse.takeWhile p).reverse = cs.dropWhile p := by
  rw [trimList, ← List.reverse_append, List.takeWhile_append_dropWhile, List.reverse_reverse]

theorem hasCore_trimList (p : Char → Bool) (cs : List Char) : HasCore p cs (trimList p cs) where
  cut := by
    refine ⟨cs.takeWhile p, ((cs.dropWhile p).reverse.takeWhile p).reverse, ?_, ?_, ?_⟩
    · rw [trimList_append, List.takeWhile_append_dropWhile]
    · exact List.all_eq_true.mp List.all_takeWhile
    · simpa using List.all_eq_true.mp List.all_takeWhile
  first := by
    intro c hc
    have hhead : c ∈ (cs.dropWhile p).head? := by
      rw [← trimList_append, List.head?_append, Option.mem_def.mp hc]
      rfl
    exact of_head?_dropWhile hhead
  last := by
    intro c hc
    rw [trimList, List.getLast?_reverse] at hc
    exact of_head?_dropWhile hc

theorem trimList_eq_iff : trimList p cs = core ↔ HasCore p cs core := by
  constructor
  · rintro rfl
    exact hasCore_trimList p cs
  · exact HasCore.trimList_eq

end LogFollow.Text
