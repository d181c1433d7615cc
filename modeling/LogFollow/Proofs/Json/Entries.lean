import LogFollow.Json.Value

/-!
# Entries in order

Entries are kept in the strict order of their keys. Putting one in and taking some out keeps the
order, and entries that are in order already are left alone. What is found at a key changes only with
the entry at this key, and entries in order are the same if the same is found at every key.
-/

namespace LogFollow.Json
set_option autoImplicit false

/-- Entries in the order of their keys, each key once. -/
def InOrder {α : Type} (entries : List (String × α)) : Prop :=
  entries.Pairwise fun a b => a.1 < b.1

variable {α : Type} {key other : String} {value : α} {e : String × α}
variable {entries sorted : List (String × α)}

theorem InOrder.nodup (h : InOrder entries) : (entries.map (·.1)).Nodup := by
  rw [List.Nodup, List.pairwise_map]
  refine h.imp ?_
  intro a b hlt heq
  exact String.lt_irrefl b.1 (heq ▸ hlt)

theorem InOrder.filter (h : InOrder entries) (keep : String × α → Bool) :
    InOrder (entries.filter keep) := List.Pairwise.filter keep h

theorem mem_insertEntry (h : e ∈ insertEntry key value entries) :
    e = (key, value) ∨ e ∈ entries := by
  induction entries with
  | nil => simpa [insertEntry] using h
  | cons first rest ih =>
    rw [insertEntry] at h
    split at h
    · exact List.mem_cons.mp h
    · split at h
      · rcases List.mem_cons.mp h with h | h
        · exact .inl h
        · exact .inr (List.mem_cons_of_mem first h)
      · rcases List.mem_cons.mp h with h | h
        · exact .inr (h ▸ List.mem_cons_self)
        · exact (ih h).imp_right (List.mem_cons_of_mem first)

theorem InOrder.insertEntry (h : InOrder entries) : InOrder (insertEntry key value entries) := by
  induction entries with
  | nil => exact List.pairwise_singleton _ _
  | cons first rest ih =>
    obtain ⟨hfirst, hrest⟩ := List.pairwise_cons.mp h
    rw [Json.insertEntry]
    split
    · rename_i hlt
      refine List.pairwise_cons.mpr ⟨?_, h⟩
      intro e he
      rcases List.mem_cons.mp he with rfl | he
      · exact hlt
      · exact String.lt_trans hlt (hfirst e he)
    · rename_i hnot
      split
      · rename_i heq
        refine List.pairwise_cons.mpr ⟨?_, hrest⟩
        intro e he
        exact heq ▸ hfirst e he
      · rename_i hne
        have hlt : first.1 < key := Decidable.byContradiction fun hge =>
          hne (String.le_antisymm (String.not_lt.mp hge) (String.not_lt.mp hnot))
        refine List.pairwise_cons.mpr ⟨?_, ih hrest⟩
        intro e he
        rcases mem_insertEntry he with rfl | he
        · exact hlt
        · exact hfirst e he

theorem insertEntry_append (h : ∀ e ∈ entries, e.1 < key) :
    insertEntry key value entries = entries ++ [(key, value)] := by
  induction entries with
  | nil => rfl
  | cons first rest ih =>
    rw [List.forall_mem_cons] at h
    obtain ⟨hfirst, hrest⟩ := h
    have hnot : ¬ key < first.1 := fun hlt => String.lt_irrefl _ (String.lt_trans hfirst hlt)
    have hne : key ≠ first.1 := by
      rintro rfl
      exact String.lt_irrefl _ hfirst
    rw [insertEntry, if_neg hnot, if_neg hne, ih hrest, List.cons_append]

theorem foldl_insertEntry (h : InOrder (sorted ++ entries)) :
    entries.foldl (fun sorted (k, v) => insertEntry k v sorted) sorted = sorted ++ entries := by
  induction entries generalizing sorted with
  | nil => simp
  | cons first rest ih =>
    obtain ⟨k, v⟩ := first
    have hlast : ∀ e ∈ sorted, e.1 < k := by
      intro e he
      exact (List.pairwise_append.mp h).2.2 e he (k, v) List.mem_cons_self
    simp only [List.foldl_cons]
    rw [insertEntry_append hlast, ih (by simpa using h), List.append_assoc, List.singleton_append]

theorem sortEntries_of_inOrder (h : InOrder entries) : sortEntries entries = entries :=
  foldl_insertEntry h

theorem inOrder_foldl (h : InOrder sorted) :
    InOrder (entries.foldl (fun sorted (k, v) => Json.insertEntry k v sorted) sorted) := by
  induction entries generalizing sorted with
  | nil => exact h
  | cons first rest ih => exact ih h.insertEntry

theorem inOrder_sortEntries (entries : List (String × α)) : InOrder (sortEntries entries) :=
  inOrder_foldl List.Pairwise.nil

@[simp] theorem valueAt?_nil : valueAt? key ([] : List (String × α)) = none := rfl

@[simp] theorem valueAt?_cons {k : String} :
    valueAt? key ((k, value) :: entries) =
      if k = key then some value else valueAt? key entries := by
  unfold valueAt?
  by_cases hk : k = key <;> simp [hk]

theorem valueAt?_insertEntry : valueAt? key (insertEntry key value entries) = some value := by
  induction entries with
  | nil => simp [insertEntry]
  | cons first rest ih =>
    rw [insertEntry]
    split
    · simp
    · split
      · simp
      · rename_i hne
        rw [valueAt?_cons, if_neg (Ne.symm hne), ih]

theorem valueAt?_insertEntry_of_ne (h : other ≠ key) :
    valueAt? other (insertEntry key value entries) = valueAt? other entries := by
  induction entries with
  | nil => simp [insertEntry, h.symm]
  | cons first rest ih =>
    obtain ⟨k, v⟩ := first
    rw [insertEntry]
    split
    · rw [valueAt?_cons, if_neg h.symm]
    · split
      · rename_i heq
        rw [valueAt?_cons, valueAt?_cons, if_neg h.symm, if_neg (heq ▸ h.symm)]
      · rw [valueAt?_cons, valueAt?_cons, ih]

theorem valueAt?_filter : valueAt? key (entries.filter (·.1 != key)) = none := by
  unfold valueAt?
  simp

theorem valueAt?_filter_of_ne (h : other ≠ key) :
    valueAt? other (entries.filter (·.1 != key)) = valueAt? other entries := by
  induction entries with
  | nil => rfl
  | cons first rest ih =>
    obtain ⟨k, v⟩ := first
    by_cases hk : k = key
    · simp [hk, h.symm, ih]
    · simp [hk, ih]

theorem valueAt?_append {more : List (String × α)} :
    valueAt? key (entries ++ more) = Option.or (valueAt? key entries) (valueAt? key more) := by
  unfold valueAt?
  rw [List.find?_append, Option.map_or]

theorem InOrder.mem_iff (h : InOrder entries) :
    (key, value) ∈ entries ↔ valueAt? key entries = some value := by
  induction entries with
  | nil => simp
  | cons first rest ih =>
    obtain ⟨k, v⟩ := first
    obtain ⟨hfirst, hrest⟩ := List.pairwise_cons.mp h
    rw [valueAt?_cons, List.mem_cons, ih hrest]
    split
    · rename_i heq
      subst heq
      have hnone : (k, value) ∉ rest := fun hmem => String.lt_irrefl k (hfirst _ hmem)
      rw [← ih hrest, Prod.mk.injEq, Option.some.injEq]
      simp [hnone, eq_comm]
    · rename_i hne
      have hne' : (key, value) ≠ (k, v) := fun heq => hne (congrArg Prod.fst heq).symm
      simp [hne']

theorem InOrder.ext (h : InOrder entries) (hs : InOrder sorted)
    (hsame : ∀ key, valueAt? key entries = valueAt? key sorted) : entries = sorted := by
  have hnodup : ∀ {l : List (String × α)}, InOrder l → l.Nodup := by
    intro l hl
    refine hl.imp ?_
    rintro a b hlt rfl
    exact String.lt_irrefl _ hlt
  have hperm : entries.Perm sorted := by
    rw [List.perm_ext_iff_of_nodup (hnodup h) (hnodup hs)]
    rintro ⟨key, value⟩
    rw [h.mem_iff, hs.mem_iff, hsame]
  refine hperm.eq_of_pairwise ?_ h hs
  intro a b _ _ hab hba
  exact absurd (String.lt_trans hab hba) (String.lt_irrefl _)

theorem insertEntry_twice :
    insertEntry key value (insertEntry key value entries) = insertEntry key value entries := by
  induction entries with
  | nil => simp [insertEntry]
  | cons first rest ih =>
    obtain ⟨k, v⟩ := first
    rw [insertEntry]
    split
    · simp [insertEntry]
    · split
      · simp [insertEntry]
      · rename_i hlt hne
        rw [insertEntry, if_neg hlt, if_neg hne, ih]

end LogFollow.Json
