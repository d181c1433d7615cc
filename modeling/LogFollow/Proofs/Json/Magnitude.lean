import LogFollow.Json.Raw
import LogFollow.Proofs.Number.Digits
import LogFollow.Proofs.Number.Double
import Mathlib.Data.List.Infix

/-!
# Numerals in range

An integer of 64 bits has a value, and so has every other number below infinity: as many of its
digits as fit in 64 bits, times a power of ten. Both are brought to 53 bits before the product is.
-/

namespace LogFollow.Json
set_option autoImplicit false

open Number

/-- Below infinity, which begins half a unit above the largest float. -/
def InRange (m : Nat) (e : Int) : Prop :=
  nearest m * nearest (10 ^ e.toNat) + 2 ^ 970 < 2 ^ 1024

/-- An integer without a fraction and an exponent; minus zero is none. -/
structure Numeral.IsInteger (n : Numeral) : Prop where
  fraction : n.fraction = []
  exponent : n.exponent = none
  range : if n.negative then 0 < digitsValue n.whole ∧ digitsValue n.whole ≤ 9223372036854775808
    else digitsValue n.whole ≤ maxUnsigned

/-- The written power of ten. -/
def Numeral.power (n : Numeral) : Int :=
  match n.exponent with
  | none => 0
  | some (negative, digits) => if negative then -digitsValue digits else digitsValue digits

/-- The first digits, as many as make a number of 64 bits. -/
structure Numeral.Keeps (n : Numeral) (digits : List Char) : Prop where
  front : digits <+: n.whole ++ n.fraction
  fits : digitsValue digits ≤ maxUnsigned
  longest : ∀ more, more <+: n.whole ++ n.fraction → digitsValue more ≤ maxUnsigned →
    more.length ≤ digits.length

/-- What is kept of the digits makes a float with the power of ten. A power of more than 31 bits is
too large for any number but zero, and makes a zero if it is negative. -/
structure Numeral.Bounded (n : Numeral) (digits : List Char) : Prop where
  keeps : n.Keeps digits
  power : 0 < digitsValue digits → n.power ≤ 2147483647
  magnitude : -2147483647 ≤ n.power →
    InRange (digitsValue digits) (n.whole.length - digits.length + n.power)

/-- Integers of 64 bits are finite, and other numbers up to the largest float. -/
def Numeral.Finite (n : Numeral) : Prop := n.IsInteger ∨ ∃ digits, n.Bounded digits

variable {m : Nat} {e : Int} {n : Numeral} {digits rest more : List Char}

theorem inRange_zero (e : Int) : InRange 0 e := by
  rw [InRange, nearest_of_log2 (by decide), Nat.zero_mul, Nat.zero_add]
  exact pow_lt_pow_right₀ Nat.one_lt_two (by decide)

theorem not_inRange (hm : 0 < m) (he : 308 < e) : ¬ InRange m e := by
  have hone : 2 ^ 0 ≤ nearest m := pow_le_nearest hm
  have hpow : 2 ^ 1024 ≤ 10 ^ 309 := by decide +kernel
  have hmono : 10 ^ 309 ≤ 10 ^ e.toNat := pow_le_pow_right₀ (by decide) (by omega)
  have hten : 2 ^ 1024 ≤ nearest (10 ^ e.toNat) := pow_le_nearest (hpow.trans hmono)
  refine Nat.not_lt.mpr ?_
  calc 2 ^ 1024 ≤ nearest (10 ^ e.toNat) := hten
    _ ≤ nearest m * nearest (10 ^ e.toNat) := Nat.le_mul_of_pos_left _ hone
    _ ≤ nearest m * nearest (10 ^ e.toNat) + 2 ^ 970 := Nat.le_add_right _ _

theorem inRange_of_neg (hm : m ≤ maxUnsigned) (he : e < 0) : InRange m e := by
  have hexp : e.toNat = 0 := by omega
  have hnear : nearest m ≤ 2 ^ 64 := nearest_le_pow (Nat.lt_succ_of_le hm)
  have hone : nearest 1 = 1 := nearest_of_log2 (by decide)
  rw [InRange, hexp, Nat.pow_zero, hone, Nat.mul_one]
  refine (Nat.add_le_add_right hnear _).trans_lt ?_
  decide +kernel

theorem isSome_scaleFloat_iff (hm : m ≤ maxUnsigned) :
    (scaleFloat m e).isSome = true ↔ InRange m e := by
  rw [scaleFloat]
  dsimp only
  split_ifs with habove hzero hnonneg hinf
  · rw [beq_iff_eq.mp hzero]
    exact iff_of_true rfl (inRange_zero e)
  · have hpos : 0 < m := Nat.pos_of_ne_zero (by simpa using hzero)
    exact iff_of_false Bool.false_ne_true (not_inRange hpos habove)
  · have hiff := isInf_mul_pow_ten_iff (k := e.toNat) (Nat.lt_succ_of_le hm) (by omega)
    exact iff_of_false Bool.false_ne_true (Nat.not_lt.mpr (hiff.mp hinf))
  · have hiff := isInf_mul_pow_ten_iff (k := e.toNat) (Nat.lt_succ_of_le hm) (by omega)
    exact iff_of_true rfl (Nat.not_le.mp (hinf ∘ hiff.mpr))
  · exact iff_of_true rfl (inRange_of_neg hm (by omega))

/-- Digits are kept until the next one would leave the range. -/
theorem Numeral.keeps_of (hdigits : n.whole ++ n.fraction = digits ++ rest)
    (hfits : digitsValue digits ≤ maxUnsigned)
    (hstop : ∀ c ∈ rest.head?, maxUnsigned < digitsValue (digits ++ [c])) : n.Keeps digits := by
  refine ⟨hdigits ▸ List.prefix_append _ _, hfits, fun more hfront hmore => ?_⟩
  refine Nat.not_lt.mp fun hlonger => ?_
  obtain ⟨tail, rfl⟩ : digits <+: more :=
    List.prefix_of_prefix_length_le (hdigits ▸ List.prefix_append _ _) hfront hlonger.le
  rw [hdigits, List.prefix_append_right_inj] at hfront
  rcases tail with _ | ⟨c, tail⟩
  · simp at hlonger
  · obtain ⟨behind, rfl⟩ := hfront
    have hover := hstop c rfl
    have hle := digitsValue_le_append (digits ++ [c]) tail
    rw [List.append_assoc, List.singleton_append] at hle
    omega

theorem Numeral.Keeps.unique (h : n.Keeps digits) (h' : n.Keeps more) : digits = more := by
  have hlength : digits.length = more.length :=
    Nat.le_antisymm (h'.longest _ h.front h.fits) (h.longest _ h'.front h'.fits)
  exact (List.prefix_of_prefix_length_le h.front h'.front hlength.le).eq_of_length hlength

theorem exists_kept (front cs : List Char) (hfits : digitsValue front ≤ maxUnsigned) :
    ∃ kept rest, cs = kept ++ rest ∧
      significand.go (digitsValue front) cs = (digitsValue (front ++ kept), rest.length) ∧
      digitsValue (front ++ kept) ≤ maxUnsigned ∧
      ∀ c ∈ rest.head?, maxUnsigned < digitsValue (front ++ kept ++ [c]) := by
  induction cs generalizing front with
  | nil => exact ⟨[], [], rfl, by simp [significand.go], by simpa using hfits, by simp⟩
  | cons c cs ih =>
    rw [significand.go, ← digitsValue_concat]
    split_ifs with hover
    · refine ⟨[], c :: cs, rfl, by simp, by simpa using hfits, ?_⟩
      rintro x hx
      obtain rfl : c = x := Option.some.inj hx
      rwa [List.append_nil]
    · obtain ⟨kept, rest, rfl, hgo, hkept, hstop⟩ := ih (front ++ [c]) (Nat.not_lt.mp hover)
      rw [List.append_assoc, List.singleton_append] at hgo hkept hstop
      exact ⟨c :: kept, rest, rfl, hgo, hkept, hstop⟩

/-- The significand and the exponent that the kept digits leave. -/
theorem Numeral.exists_keeps (n : Numeral) : ∃ digits, n.Keeps digits ∧
    significand n.whole n.fraction =
      (digitsValue digits, (n.whole.length : Int) - digits.length) := by
  obtain ⟨whole, tail, hwhole, hgo, hfits, hstop⟩ := exists_kept [] n.whole (by decide)
  rw [List.nil_append] at hgo hfits hstop
  have hzero : digitsValue [] = 0 := rfl
  rw [hzero] at hgo
  simp only [significand, hgo]
  rcases tail with _ | ⟨c, tail⟩
  · obtain ⟨kept, rest, hfraction, hgo, hfits, hstop⟩ := exists_kept whole n.fraction hfits
    rw [List.append_nil] at hwhole
    refine ⟨whole ++ kept, Numeral.keeps_of ?_ hfits hstop, ?_⟩
    · rw [hwhole, hfraction, List.append_assoc]
    · have hlength : n.fraction.length = kept.length + rest.length := by
        rw [hfraction, List.length_append]
      simp [hgo, hwhole, hlength]
  · have hdigits : n.whole ++ n.fraction = whole ++ (c :: tail ++ n.fraction) := by
      rw [hwhole, List.append_assoc]
    exact ⟨whole, Numeral.keeps_of hdigits hfits hstop, by simp [hwhole]⟩

theorem Numeral.Keeps.exists_bounded_iff (h : n.Keeps digits) : (∃ digits, n.Bounded digits) ↔
    (0 < digitsValue digits → n.power ≤ 2147483647) ∧ (-2147483647 ≤ n.power →
      InRange (digitsValue digits) (n.whole.length - digits.length + n.power)) := by
  constructor
  · rintro ⟨more, hmore, hpower, hmagnitude⟩
    obtain rfl := h.unique hmore
    exact ⟨hpower, hmagnitude⟩
  · rintro ⟨hpower, hmagnitude⟩
    exact ⟨digits, h, hpower, hmagnitude⟩

theorem Numeral.isSome_float?_iff (n : Numeral) :
    n.float?.isSome = true ↔ ∃ digits, n.Bounded digits := by
  obtain ⟨digits, hkeeps, hsignificand⟩ := n.exists_keeps
  have hscale (e : Int) := isSome_scaleFloat_iff (e := e) hkeeps.fits
  have hbind (x : Option Float) (f : Float → Num) :
      (x >>= fun y => some (f y)).isSome = x.isSome := by cases x <;> rfl
  rw [hkeeps.exists_bounded_iff, Numeral.float?, hsignificand]
  generalize (n.whole.length : Int) - digits.length = e
  generalize digitsValue digits = m at hscale
  have hin (hlow : -2147483647 ≤ n.power) (hhigh : n.power ≤ 2147483647) :
      InRange m (e + n.power) ↔ (0 < m → n.power ≤ 2147483647) ∧
        (-2147483647 ≤ n.power → InRange m (e + n.power)) :=
    ⟨fun h => ⟨fun _ => hhigh, fun _ => h⟩, fun h => h.2 hlow⟩
  rcases hexponent : n.exponent with _ | ⟨_ | _, exponent⟩
  · have hpower : n.power = 0 := by rw [Numeral.power, hexponent]
    dsimp only
    rw [hbind, hscale, ← hin (by omega) (by omega), hpower, Int.add_zero]
  · have hpower : n.power = digitsValue exponent := by rw [Numeral.power, hexponent]; rfl
    dsimp only
    rcases Nat.lt_or_ge 2147483647 (digitsValue exponent) with hlarge | hsmall
    · -- only zero is below infinity with such a power
      rw [if_pos hlarge]
      rcases m with _ | m
      · exact iff_of_true rfl ⟨fun h => absurd h (Nat.lt_irrefl 0), fun _ => inRange_zero _⟩
      · exact iff_of_false Bool.false_ne_true fun h => absurd (h.1 m.succ_pos) (by omega)
    · rw [if_neg (Nat.not_lt.mpr hsmall), hbind, hscale, ← hin (by omega) (by omega), hpower]
      rfl
  · have hpower : n.power = -digitsValue exponent := by rw [Numeral.power, hexponent]; rfl
    dsimp only
    rcases Nat.lt_or_ge 2147483647 (digitsValue exponent) with hlarge | hsmall
    · rw [if_pos hlarge, Bool.or_true]
      exact iff_of_true rfl ⟨fun _ => by omega, fun h => absurd h (by omega)⟩
    · rw [if_neg (Nat.not_lt.mpr hsmall), hbind, hscale, ← hin (by omega) (by omega), hpower]
      rfl

theorem Numeral.IsInteger.isSome_num? (h : n.IsInteger) : n.num?.isSome = true := by
  have hrange := h.range
  rw [Numeral.num?, h.fraction, h.exponent]
  cases hnegative : n.negative with
  | false =>
    rw [hnegative] at hrange
    exact congrArg Option.isSome (if_pos hrange)
  | true =>
    rw [hnegative] at hrange
    have hin : (digitsValue n.whole != 0 && decide (digitsValue n.whole ≤ 9223372036854775808)) =
        true := Bool.and_eq_true_iff.mpr ⟨bne_iff_ne.mpr hrange.1.ne', decide_eq_true hrange.2⟩
    exact congrArg Option.isSome (if_pos hin)

theorem Numeral.num?_of_not_isInteger (h : ¬ n.IsInteger) : n.num? = n.float? := by
  have hplain : (n.fraction.isEmpty && n.exponent.isNone) = true →
      n.fraction = [] ∧ n.exponent = none := fun hplain =>
    (Bool.and_eq_true_iff.mp hplain).imp List.isEmpty_iff.mp Option.isNone_iff_eq_none.mp
  rw [Numeral.num?]
  split_ifs with hinteger hnegative hrange hrange
  · rw [Bool.and_eq_true, bne_iff_ne, decide_eq_true_iff] at hrange
    refine absurd ⟨(hplain hinteger).1, (hplain hinteger).2, ?_⟩ h
    rw [if_pos hnegative]
    exact ⟨Nat.pos_of_ne_zero hrange.1, hrange.2⟩
  · rfl
  · refine absurd ⟨(hplain hinteger).1, (hplain hinteger).2, ?_⟩ h
    rwa [if_neg hnegative]
  · rfl
  · rfl

theorem Numeral.isSome_num?_iff (n : Numeral) : n.num?.isSome = true ↔ n.Finite := by
  rw [Numeral.Finite, ← n.isSome_float?_iff]
  by_cases hinteger : n.IsInteger
  · exact iff_of_true hinteger.isSome_num? (.inl hinteger)
  · rw [Numeral.num?_of_not_isInteger hinteger]
    exact ⟨.inr, fun h => h.resolve_left hinteger⟩

end LogFollow.Json
