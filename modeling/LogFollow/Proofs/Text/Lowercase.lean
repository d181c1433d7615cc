import LogFollow.Keys.Name
import Mathlib.Tactic.SplitIfs

/-!
# Lower case and ASCII

The lower case of an ASCII character is the one of ASCII. No other character has a lower case within
ASCII but the Kelvin sign, so a word of ASCII without the letter k is the lower case of its ASCII
spellings only.
-/

namespace LogFollow.Text
set_option autoImplicit false

/-- A run of characters of ASCII, the Kelvin sign, or a run whose lower cases are characters outside
of ASCII. -/
def LowersApart : Nat × Nat × Nat × Int → Prop
  | (first, last, _, shift) => last < 0x80 ∨ (first = last ∧ first + shift = 0x6b) ∨
    (0x80 ≤ first + shift ∧
      (last + shift < 0xd800 ∨ (0xe000 ≤ first + shift ∧ last + shift < 0x110000)))

instance : DecidablePred LowersApart := fun (_, _, _, _) => inferInstanceAs (Decidable (_ ∨ _))

variable {c : Char} {cs word : List Char}

theorem toLower_of_not_ascii (h : 0x80 ≤ c.toNat) : c.toLower = c := by
  refine dif_neg ?_
  rintro ⟨-, hz⟩
  have hle : c.toNat ≤ 90 := hz
  omega

theorem asciiLower_eq_toLower (c : Char) : Chord.asciiLower c = c.toLower := by
  by_cases h : c.toNat < 0x80
  · have hall : ∀ n : Fin 0x80, Chord.asciiLower (Char.ofNat n) = (Char.ofNat n).toLower := by
      decide
    have hc := hall ⟨c.toNat, h⟩
    rwa [Char.ofNat_toNat] at hc
  · rw [toLower_of_not_ascii (Nat.le_of_not_lt h), Chord.asciiLower, if_neg]
    rintro ⟨-, hz⟩
    have hle : c.toNat ≤ 90 := hz
    omega

theorem lower_of_ascii (h : c.toNat < 0x80) : lower c = [c.toLower] := by
  rw [lower, if_pos h, ← asciiLower_eq_toLower]
  rfl

theorem lowersApart_of_mem : ∀ run ∈ lowercaseRuns, LowersApart run := by
  decide +kernel

theorem lowercaseShift_cases (n : Nat) (runs : List (Nat × Nat × Nat × Int)) :
    lowercaseShift n runs = 0 ∨ ∃ first last step,
      (first, last, step, lowercaseShift n runs) ∈ runs ∧ first ≤ n ∧ n ≤ last := by
  induction runs with
  | nil => exact .inl rfl
  | cons run runs ih =>
    obtain ⟨first, last, step, shift⟩ := run
    rw [lowercaseShift]
    split_ifs with hfirst hlast
    · exact .inl rfl
    · rw [Bool.and_eq_true, decide_eq_true_eq] at hlast
      exact .inr ⟨first, last, step, List.mem_cons_self, Nat.le_of_not_lt hfirst, hlast.1⟩
    · exact ih.imp_right fun ⟨first, last, step, hmem, hn⟩ =>
        ⟨first, last, step, List.mem_cons_of_mem _ hmem, hn⟩

/-- Outside of ASCII, where a lower case is in ASCII it is the one of the Kelvin sign. -/
theorem exists_mem_lower (h : 0x80 ≤ c.toNat) : ∃ x ∈ lower c, 0x80 ≤ x.toNat ∨ x = 'k' := by
  rw [lower, if_neg (Nat.not_lt.mpr h)]
  split_ifs with hdotted
  · exact ⟨'\u0307', by decide, .inl (by decide)⟩
  · refine ⟨_, List.mem_singleton_self _, ?_⟩
    rcases lowercaseShift_cases c.toNat lowercaseRuns with hshift | ⟨first, last, step, hmem, hn⟩
    · rw [hshift, Int.add_zero, Int.toNat_natCast, Char.ofNat_toNat]
      exact .inl h
    · generalize lowercaseShift c.toNat lowercaseRuns = shift at hmem ⊢
      rcases lowersApart_of_mem _ hmem with hascii | ⟨rfl, hkelvin⟩ | ⟨hlow, hvalid⟩
      · omega
      · have hk : (c.toNat + shift).toNat = 0x6b := by omega
        rw [hk]
        exact .inr rfl
      · have hchar : (c.toNat + shift).toNat.isValidChar := by
          unfold Nat.isValidChar
          omega
        rw [Char.ofNat, dif_pos hchar]
        have hout : 0x80 ≤ (c.toNat + shift).toNat := by omega
        exact .inl hout

theorem ascii_of_flatMap_lower (hword : ∀ x ∈ word, x.toNat < 0x80 ∧ x ≠ 'k')
    (h : cs.flatMap lower = word) : ∀ c ∈ cs, c.toNat < 0x80 := by
  intro c hc
  refine Nat.lt_of_not_le fun hascii => ?_
  obtain ⟨x, hx, hout⟩ := exists_mem_lower hascii
  have hmem := hword x (h ▸ List.mem_flatMap.mpr ⟨c, hc, hx⟩)
  rcases hout with hout | rfl
  · omega
  · exact hmem.2 rfl

theorem ascii_of_map_toLower (hword : ∀ x ∈ word, x.toNat < 0x80)
    (h : cs.map Char.toLower = word) : ∀ c ∈ cs, c.toNat < 0x80 := by
  intro c hc
  have hlower := hword c.toLower (h ▸ List.mem_map_of_mem hc)
  refine Nat.lt_of_not_le fun hascii => ?_
  rw [toLower_of_not_ascii hascii] at hlower
  omega

theorem flatMap_lower_of_ascii (h : ∀ c ∈ cs, c.toNat < 0x80) :
    cs.flatMap lower = cs.map Char.toLower := by
  induction cs with
  | nil => rfl
  | cons c cs ih =>
    rw [List.forall_mem_cons] at h
    rw [List.flatMap_cons, lower_of_ascii h.1, ih h.2]
    rfl

/-- A word of ASCII without the letter k is the lower case of its ASCII spellings only. -/
theorem flatMap_lower_eq_iff (hword : ∀ x ∈ word, x.toNat < 0x80 ∧ x ≠ 'k') :
    cs.flatMap lower = word ↔ cs.map Char.toLower = word := by
  constructor
  · intro h
    rw [← flatMap_lower_of_ascii (ascii_of_flatMap_lower hword h), h]
  · intro h
    rw [flatMap_lower_of_ascii (ascii_of_map_toLower (fun x hx => (hword x hx).1) h), h]

end LogFollow.Text
