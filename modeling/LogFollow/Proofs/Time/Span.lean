import LogFollow.Proofs.Number.Digits
import LogFollow.Time.Span

/-!
# Texts of spans

A span is read from digits with the letter of a unit behind them and from no other text, as long as
its number and its seconds fit 64 bits.
-/

namespace LogFollow.Time
set_option autoImplicit false

open Number

/-- The letters of the units with their seconds. -/
def spanUnits : List (Char × Nat) := [('s', 1), ('m', 60), ('h', 3600), ('d', 86400)]

inductive IsSpan : String → Int → Prop
  | intro {digits : List Char} {unit : Char} {seconds : Nat} (hne : digits ≠ [])
      (hdigits : ∀ c ∈ digits, c.isDigit = true) (hunit : (unit, seconds) ∈ spanUnits)
      (hnumber : isSigned (Nat.ofDigitChars 10 digits 0) = true)
      (hseconds : isSigned (Nat.ofDigitChars 10 digits 0 * seconds) = true) :
      IsSpan (String.ofList (digits ++ [unit])) (Nat.ofDigitChars 10 digits 0 * seconds)

variable {c : Char} {cs : List Char} {k : Nat} {n : Int} {s : String}

theorem unitSeconds_eq_some_iff :
    unitSeconds cs = some k ↔ ∃ c, cs = [c] ∧ (c, k) ∈ spanUnits := by
  constructor
  · intro h
    unfold unitSeconds at h
    split at h
    all_goals cases h
    all_goals exact ⟨_, rfl, by decide⟩
  · rintro ⟨c, rfl, h⟩
    simp only [spanUnits, List.mem_cons, Prod.mk.injEq, List.not_mem_nil, or_false] at h
    rcases h with ⟨rfl, rfl⟩ | ⟨rfl, rfl⟩ | ⟨rfl, rfl⟩ | ⟨rfl, rfl⟩ <;> rfl

theorem isDigit_of_spanUnits (h : (c, k) ∈ spanUnits) : isDigit c = false := by
  have hall : ∀ unit ∈ spanUnits, isDigit unit.1 = false := by decide
  exact hall (c, k) h

theorem isSigned_natCast (m : Nat) : isSigned m = true ↔ ¬ maxSigned < (m : Int) := by
  rw [isSigned_iff, maxSigned]
  omega

theorem takeWhile_unit (hdigits : ∀ c ∈ cs, isDigit c = true) (hc : isDigit c = false) :
    (cs ++ [c]).takeWhile isDigit = cs := by
  rw [List.takeWhile_append_of_pos hdigits, List.takeWhile_cons_of_neg (by simp [hc]),
    List.append_nil]

theorem dropWhile_unit (hdigits : ∀ c ∈ cs, isDigit c = true) (hc : isDigit c = false) :
    (cs ++ [c]).dropWhile isDigit = [c] := by
  rw [List.dropWhile_append_of_pos hdigits, List.dropWhile_cons_of_neg (by simp [hc])]

theorem readSpan_of_isSpan (h : IsSpan s n) : readSpan s = .ok n := by
  obtain @⟨digits, unit, seconds, hne, hdigits, hunit, hnumber, hseconds⟩ := h
  have hunit' := isDigit_of_spanUnits hunit
  rw [isSigned_natCast] at hnumber
  rw [← Nat.cast_mul, isSigned_natCast, Nat.cast_mul] at hseconds
  simp only [readSpan, String.toList_ofList, takeWhile_unit hdigits hunit',
    dropWhile_unit hdigits hunit', digitsValue_eq_ofDigitChars,
    unitSeconds_eq_some_iff.mpr ⟨unit, rfl, hunit⟩]
  simp [hne, hnumber, hseconds]

theorem isSpan_of_readSpan (h : readSpan s = .ok n) : IsSpan s n := by
  simp only [readSpan, digitsValue_eq_ofDigitChars] at h
  split_ifs at h with hempty hdigits hnumber hunit
  split at h
  · cases h
  · rename_i seconds hseconds
    split_ifs at h with hlarge
    cases h
    obtain ⟨c, hunit, hmem⟩ := unitSeconds_eq_some_iff.mp hseconds
    have htext : String.ofList (s.toList.takeWhile isDigit ++ [c]) = s := by
      rw [← hunit, List.takeWhile_append_dropWhile, String.ofList_toList]
    rw [← isSigned_natCast] at hnumber
    rw [← Nat.cast_mul, ← isSigned_natCast, Nat.cast_mul] at hlarge
    have hspan := @IsSpan.intro (s.toList.takeWhile isDigit) c seconds
      (mt List.isEmpty_iff.mpr hdigits) (List.all_eq_true.mp List.all_takeWhile) hmem hnumber hlarge
    rwa [htext] at hspan

theorem readSpan_eq_ok_iff : readSpan s = .ok n ↔ IsSpan s n :=
  ⟨isSpan_of_readSpan, readSpan_of_isSpan⟩

theorem IsSpan.nonneg (h : IsSpan s n) : 0 ≤ n := by
  obtain ⟨-, -, -, -, -⟩ := h
  exact Int.mul_nonneg (Int.natCast_nonneg _) (Int.natCast_nonneg _)

end LogFollow.Time
