import LogFollow.Keys.Key
import LogFollow.Text.Blank
import LogFollow.Text.Lowercase

/-! # Names of chords

A chord is named by its key, with `ctrl+` and `alt+` in front in any order and case. A key that has
no name of its own is named by its character. -/

namespace LogFollow.Chord
set_option autoImplicit false

def asciiLower (c : Char) : Char := if 'A' ≤ c ∧ c ≤ 'Z' then Char.ofNat (c.toNat + 32) else c

inductive Modifier
  | ctrl
  | alt
  deriving DecidableEq, Repr

/-- Reads one modifier with its plus sign, in any case. -/
def takeModifier (cs : List Char) : Option (Modifier × List Char) :=
  if (cs.take 5).map asciiLower = ['c', 't', 'r', 'l', '+'] then some (.ctrl, cs.drop 5)
  else if (cs.take 4).map asciiLower = ['a', 'l', 't', '+'] then some (.alt, cs.drop 4)
  else none

/-- The number of characters goes down with each modifier. -/
theorem length_takeModifier {cs rest : List Char} {m : Modifier}
    (h : takeModifier cs = some (m, rest)) : rest.length < cs.length := by
  unfold takeModifier at h
  split at h
  · rename_i hc
    have := congrArg List.length hc
    simp only [Option.some.injEq, Prod.mk.injEq] at h
    obtain ⟨-, rfl⟩ := h
    simp at this ⊢
    omega
  · split at h
    · rename_i hc
      have := congrArg List.length hc
      simp only [Option.some.injEq, Prod.mk.injEq] at h
      obtain ⟨-, rfl⟩ := h
      simp at this ⊢
      omega
    · simp at h

def takeModifiers (cs : List Char) : List Modifier × List Char :=
  match _taken : takeModifier cs with
  | some (m, rest) =>
    let (ms, rest) := takeModifiers rest
    (m :: ms, rest)
  | none => ([], cs)
termination_by cs.length
decreasing_by exact length_takeModifier ‹_›

/-- The key of a name: a named key in any case, or the one character of the name. -/
def keyOf (cs : List Char) : Option Key :=
  match Key.ofName? (String.ofList (cs.flatMap Text.lower)) with
  | some key => some key
  | none =>
    match cs with
    | [c] => some (.char c)
    | _ => none

def ofName? (name : String) : Option Chord :=
  let (modifiers, rest) := takeModifiers (Text.trimList Text.isBlank name.toList)
  (keyOf rest).map fun key => ⟨key, modifiers.contains .ctrl, modifiers.contains .alt⟩

def unknown (name : String) : String := s!"Unknown key name: '{name}'"

end LogFollow.Chord
