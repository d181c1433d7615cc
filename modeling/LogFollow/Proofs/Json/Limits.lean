import LogFollow.Proofs.Json.Magnitude

/-!
# Which trees have values

A tree has a value if its numbers are in range, its texts hold no half of a surrogate pair, and its
containers do not nest too deeply.
-/

namespace LogFollow.Json
set_option autoImplicit false

/-- Pieces without half of a surrogate pair. -/
inductive Paired : List Piece → Prop
  | nil : Paired []
  | char {c : Char} {rest : List Piece} (h : Paired rest) : Paired (.char c :: rest)
  | unit {n : Nat} {rest : List Piece} (hn : ¬ (0xd800 ≤ n ∧ n < 0xe000)) (h : Paired rest) :
      Paired (.unit n :: rest)
  | pair {high low : Nat} {rest : List Piece} (hhigh : 0xd800 ≤ high ∧ high < 0xdc00)
      (hlow : 0xdc00 ≤ low ∧ low < 0xe000) (h : Paired rest) :
      Paired (.unit high :: .unit low :: rest)

mutual

/-- The numbers are in range and the texts whole, those of the keys included. -/
def Raw.Sound : Raw → Prop
  | .null | .bool _ => True
  | .number n => n.Finite
  | .string pieces => Paired pieces
  | .array items => ItemsSound items
  | .object entries => EntriesSound entries

def ItemsSound : List Raw → Prop
  | [] => True
  | item :: rest => item.Sound ∧ ItemsSound rest

def EntriesSound : List (List Piece × Raw) → Prop
  | [] => True
  | (key, value) :: rest => Paired key ∧ value.Sound ∧ EntriesSound rest

end

mutual

/-- How many containers are inside each other. -/
def Raw.height : Raw → Nat
  | .null | .bool _ | .number _ | .string _ => 0
  | .array items => itemsHeight items + 1
  | .object entries => entriesHeight entries + 1

def itemsHeight : List Raw → Nat
  | [] => 0
  | item :: rest => max item.height (itemsHeight rest)

def entriesHeight : List (List Piece × Raw) → Nat
  | [] => 0
  | (_, value) :: rest => max value.height (entriesHeight rest)

end

variable {n depth : Nat} {cs : List Char} {pieces : List Piece} {raw : Raw} {items : List Raw}
  {entries : List (List Piece × Raw)} {values : List Value} {fields : List (String × Value)}

theorem textOf_plain (hn : ¬ (0xd800 ≤ n ∧ n < 0xe000)) (pieces : List Piece) :
    textOf (.unit n :: pieces) = (textOf pieces).map (Char.ofNat n :: ·) := by
  have hhigh : ¬ (0xd800 ≤ n ∧ n < 0xdc00) := by omega
  have hlow : ¬ (0xdc00 ≤ n ∧ n < 0xe000) := by omega
  rcases pieces with _ | ⟨_ | low, pieces⟩ <;> simp [textOf, hn, hhigh, hlow]

theorem Paired.textOf (h : Paired pieces) : ∃ cs, textOf pieces = some cs := by
  induction h with
  | nil => exact ⟨[], rfl⟩
  | char _ ih =>
    obtain ⟨cs, hcs⟩ := ih
    exact ⟨_, by rw [Json.textOf, hcs, Option.map_some]⟩
  | unit hn _ ih =>
    obtain ⟨cs, hcs⟩ := ih
    exact ⟨_, by rw [textOf_plain hn, hcs, Option.map_some]⟩
  | pair hhigh hlow _ ih =>
    obtain ⟨cs, hcs⟩ := ih
    exact ⟨_, by rw [Json.textOf, if_pos hhigh, if_pos hlow, hcs, Option.map_some]⟩

theorem paired_of_textOf (h : textOf pieces = some cs) : Paired pieces := by
  induction pieces using textOf.induct generalizing cs with
  | case1 => exact .nil
  | case2 c rest ih =>
    rw [textOf, Option.map_eq_some_iff] at h
    obtain ⟨cs, hcs, -⟩ := h
    exact .char (ih hcs)
  | case3 high low rest hhigh hlow ih =>
    rw [textOf, if_pos hhigh, if_pos hlow, Option.map_eq_some_iff] at h
    obtain ⟨cs, hcs, -⟩ := h
    exact .pair hhigh hlow (ih hcs)
  | case4 high low rest hhigh hlow =>
    rw [textOf, if_pos hhigh, if_neg hlow] at h
    cases h
  | case5 high low rest hhigh hlow =>
    rw [textOf, if_neg hhigh, if_pos hlow] at h
    cases h
  | case6 n low rest hhigh hlow ih =>
    rw [textOf, if_neg hhigh, if_neg hlow, Option.map_eq_some_iff] at h
    obtain ⟨cs, hcs, -⟩ := h
    exact .unit (by omega) (ih hcs)
  | case7 n rest halone hhalf =>
    rw [textOf.eq_4 _ _ halone, if_pos hhalf] at h
    cases h
  | case8 n rest halone hhalf ih =>
    rw [textOf_plain hhalf, Option.map_eq_some_iff] at h
    obtain ⟨cs, hcs, -⟩ := h
    exact .unit hhalf (ih hcs)

theorem isSome_text?_iff : (text? pieces).isSome = true ↔ Paired pieces := by
  rw [text?, Option.isSome_map]
  constructor
  · intro h
    obtain ⟨cs, hcs⟩ := Option.isSome_iff_exists.mp h
    exact paired_of_textOf hcs
  · intro h
    exact Option.isSome_iff_exists.mpr h.textOf

theorem itemValues?_cons_eq_some_iff : itemValues? depth (raw :: items) = some values ↔
    ∃ v vs, raw.value? depth = some v ∧ itemValues? depth items = some vs ∧ values = v :: vs := by
  simp only [itemValues?, Option.bind_eq_bind, Option.bind_eq_some_iff, Option.some.injEq]
  constructor
  · rintro ⟨v, hv, vs, hvs, rfl⟩
    exact ⟨v, vs, hv, hvs, rfl⟩
  · rintro ⟨v, vs, hv, hvs, rfl⟩
    exact ⟨v, hv, vs, hvs, rfl⟩

theorem entryValues?_cons_eq_some_iff :
    entryValues? depth ((pieces, raw) :: entries) = some fields ↔
      ∃ key v rest, text? pieces = some key ∧ raw.value? depth = some v ∧
        entryValues? depth entries = some rest ∧ fields = (key, v) :: rest := by
  simp only [entryValues?, Option.bind_eq_bind, Option.bind_eq_some_iff, Option.some.injEq]
  constructor
  · rintro ⟨key, hkey, v, hv, rest, hrest, rfl⟩
    exact ⟨key, v, rest, hkey, hv, hrest, rfl⟩
  · rintro ⟨key, v, rest, hkey, hv, hrest, rfl⟩
    exact ⟨key, hkey, v, hv, rest, hrest, rfl⟩

theorem isSome_itemValues?_cons (item : Raw) (rest : List Raw) :
    (itemValues? depth (item :: rest)).isSome = true ↔
      (item.value? depth).isSome = true ∧ (itemValues? depth rest).isSome = true := by
  cases hv : item.value? depth <;> cases hvs : itemValues? depth rest <;>
    simp [itemValues?, hv, hvs]

theorem isSome_entryValues?_cons (pieces : List Piece) (raw : Raw)
    (rest : List (List Piece × Raw)) :
    (entryValues? depth ((pieces, raw) :: rest)).isSome = true ↔ (text? pieces).isSome = true ∧
      (raw.value? depth).isSome = true ∧ (entryValues? depth rest).isSome = true := by
  cases hkey : text? pieces <;> cases hv : raw.value? depth <;>
    cases hvs : entryValues? depth rest <;> simp [entryValues?, hkey, hv, hvs]

mutual

theorem Raw.isSome_value?_iff : ∀ (raw : Raw) (depth : Nat),
    (raw.value? depth).isSome = true ↔ raw.Sound ∧ raw.height ≤ depth
  | .null, depth | .bool b, depth => by simp [Raw.value?, Raw.Sound, Raw.height]
  | .number n, depth => by simp [Raw.value?, Raw.Sound, Raw.height, ← n.isSome_num?_iff]
  | .string pieces, depth => by simp [Raw.value?, Raw.Sound, Raw.height, ← isSome_text?_iff]
  | .array items, 0 => by simp [Raw.value?, Raw.height]
  | .array items, depth + 1 => by
    simp [Raw.value?, Raw.Sound, Raw.height, ← isSome_itemValues?_iff items depth]
  | .object entries, 0 => by simp [Raw.value?, Raw.height]
  | .object entries, depth + 1 => by
    simp [Raw.value?, Raw.Sound, Raw.height, ← isSome_entryValues?_iff entries depth]

theorem isSome_itemValues?_iff : ∀ (items : List Raw) (depth : Nat),
    (itemValues? depth items).isSome = true ↔ ItemsSound items ∧ itemsHeight items ≤ depth
  | [], depth => by simp [itemValues?, ItemsSound, itemsHeight]
  | item :: rest, depth => by
    have hitem := item.isSome_value?_iff depth
    have hrest := isSome_itemValues?_iff rest depth
    rw [isSome_itemValues?_cons, hitem, hrest, ItemsSound, itemsHeight, Nat.max_le]
    exact and_and_and_comm

theorem isSome_entryValues?_iff : ∀ (entries : List (List Piece × Raw)) (depth : Nat),
    (entryValues? depth entries).isSome = true ↔
      EntriesSound entries ∧ entriesHeight entries ≤ depth
  | [], depth => by simp [entryValues?, EntriesSound, entriesHeight]
  | (key, value) :: rest, depth => by
    have hkey : (text? key).isSome = true ↔ Paired key := isSome_text?_iff
    have hvalue := value.isSome_value?_iff depth
    have hrest := isSome_entryValues?_iff rest depth
    rw [isSome_entryValues?_cons, hkey, hvalue, hrest, EntriesSound, entriesHeight, Nat.max_le,
      and_and_and_comm (a := value.Sound)]
    exact and_assoc.symm

end

theorem isSome_itemValues? : (itemValues? depth items).isSome = true ↔
    ∀ item ∈ items, item.Sound ∧ item.height ≤ depth := by
  induction items with
  | nil => simp [itemValues?]
  | cons item rest ih =>
    rw [isSome_itemValues?_cons, item.isSome_value?_iff, ih, List.forall_mem_cons]

end LogFollow.Json
