import LogFollow.Proofs.Json.Entries
import LogFollow.Proofs.Json.Limits
import Mathlib.Data.List.Forall2

/-!
# What stands at a key

A key may occur more than once in a tree, and it is compared as a text, whatever escapes it is written
with. Of the values at a key the last one counts in an object; what reads a tree can ask for one alone.
-/

namespace LogFollow.Json
set_option autoImplicit false

/-- What the entries of an object hold at a key, in their order. -/
def allAt {α : Type} (key : String) (entries : List (String × α)) : List α :=
  (entries.filter (·.1 == key)).map (·.2)

/-- What the entries of a tree hold at a key. -/
def rawsAt (key : String) (entries : List (List Piece × Raw)) : List Raw :=
  (entries.filter fun e => text? e.1 == some key).map (·.2)

/-- The entries of a tree by the texts of their keys. -/
def named? (entries : List (List Piece × Raw)) : Option (List (String × Raw)) :=
  entries.mapM fun (key, value) => (text? key).map (·, value)

variable {α : Type} {key name : String} {value : α} {depth : Nat} {raw : Raw} {pieces : List Piece}
  {sorted fields : List (String × α)} {entries : List (List Piece × Raw)} {v : Value}
  {values : List (String × Value)} {named : List (String × Raw)}

theorem allAt_cons : allAt key ((name, value) :: fields) =
    if name = key then value :: allAt key fields else allAt key fields := by
  by_cases h : name = key <;> simp [allAt, h]

theorem allAt_append (more : List (String × α)) :
    allAt key (fields ++ more) = allAt key fields ++ allAt key more := by
  simp [allAt]

theorem rawsAt_cons : rawsAt key ((pieces, raw) :: entries) =
    if text? pieces = some key then raw :: rawsAt key entries else rawsAt key entries := by
  by_cases h : text? pieces = some key <;> simp [rawsAt, h]

theorem rawsAt_append (more : List (List Piece × Raw)) :
    rawsAt key (entries ++ more) = rawsAt key entries ++ rawsAt key more := by
  simp [rawsAt]

theorem valueAt?_foldl : valueAt? key
    (fields.foldl (fun sorted (k, v) => insertEntry k v sorted) sorted) =
      Option.or (allAt key fields).getLast? (valueAt? key sorted) := by
  induction fields generalizing sorted with
  | nil => rfl
  | cons first rest ih =>
    obtain ⟨name, value⟩ := first
    rw [List.foldl_cons, ih, allAt_cons]
    by_cases hname : name = key
    · subst hname
      rw [if_pos rfl, valueAt?_insertEntry, List.getLast?_cons]
      cases (allAt name rest).getLast? <;> rfl
    · rw [if_neg hname, valueAt?_insertEntry_of_ne (Ne.symm hname)]

/-- The last value with a key counts. -/
theorem valueAt?_sortEntries : valueAt? key (sortEntries fields) = (allAt key fields).getLast? := by
  rw [sortEntries, valueAt?_foldl, valueAt?_nil, Option.or_none]

theorem forall₂_rawsAt (h : entryValues? depth entries = some values) (key : String) :
    List.Forall₂ (fun raw v => raw.value? depth = some v) (rawsAt key entries) (allAt key values) := by
  induction entries generalizing values with
  | nil =>
    cases h
    exact .nil
  | cons entry entries ih =>
    obtain ⟨pieces, raw⟩ := entry
    obtain ⟨name, v, values, hname, hv, hvalues, rfl⟩ := entryValues?_cons_eq_some_iff.mp h
    rw [rawsAt_cons, allAt_cons, hname]
    by_cases hkey : name = key
    · rw [if_pos (congrArg some hkey), if_pos hkey]
      exact .cons hv (ih hvalues)
    · rw [if_neg (fun heq => hkey (Option.some.inj heq)), if_neg hkey]
      exact ih hvalues

theorem named?_cons : named? ((pieces, raw) :: entries) =
    (text? pieces).bind fun name => (named? entries).map fun named => (name, raw) :: named := by
  cases htext : text? pieces <;> cases hnamed : named? entries <;>
    simp_all [named?, List.mapM_cons]

theorem allAt_named (h : named? entries = some named) (key : String) :
    allAt key named = rawsAt key entries := by
  induction entries generalizing named with
  | nil =>
    cases h
    rfl
  | cons entry entries ih =>
    obtain ⟨pieces, raw⟩ := entry
    rw [named?_cons, Option.bind_eq_some_iff] at h
    obtain ⟨name, hname, h⟩ := h
    obtain ⟨named, hnamed, rfl⟩ := Option.map_eq_some_iff.mp h
    rw [allAt_cons, rawsAt_cons, hname, ih hnamed]
    simp

theorem isSome_named?_iff : (named? entries).isSome = true ↔ ∀ e ∈ entries, Paired e.1 := by
  induction entries with
  | nil => simp [named?]
  | cons entry entries ih =>
    obtain ⟨pieces, raw⟩ := entry
    rw [List.forall_mem_cons, ← ih, ← isSome_text?_iff, named?_cons]
    cases text? pieces <;> simp

theorem named?_of_values (h : entryValues? depth entries = some values) :
    (named? entries).isSome = true := by
  induction entries generalizing values with
  | nil => rfl
  | cons entry entries ih =>
    obtain ⟨pieces, raw⟩ := entry
    obtain ⟨name, v, values, hname, hv, hvalues, rfl⟩ := entryValues?_cons_eq_some_iff.mp h
    have hnamed := ih hvalues
    rw [named?_cons, hname, Option.bind_some, Option.isSome_map]
    exact hnamed

end LogFollow.Json
