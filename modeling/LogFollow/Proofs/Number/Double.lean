import LogFollow.Proofs.Number.Nearest

/-!
# Whole numbers in double precision

A float from a whole number, or from a power of ten, is the nearest number with 53 leading bits, and
so is a product of two of them. Only what comes near to `2 ^ 1024` is infinite.
-/

namespace LogFollow.Number
set_option autoImplicit false

open Float.Model Float.Model.UnpackedFloat

/-- The float of a whole number, with 53 bits in its mantissa. -/
def Holds : UnpackedFloat → Nat → Prop
  | .finite _ m e _, n => 2 ^ 52 ≤ m ∧ m < 2 ^ 53 ∧ -52 ≤ e ∧ m * 2 ^ (e + 52).toNat = n * 2 ^ 52
  | _, _ => False

instance : ∀ (x : UnpackedFloat) (n : Nat), Decidable (Holds x n)
  | .finite .., _ => inferInstanceAs (Decidable (_ ∧ _))
  | .infinity _, _ | .notANumber, _ | .zero _, _ => inferInstanceAs (Decidable False)

/-- What a whole number becomes: the nearest float, or infinity. -/
def Rounds (x : UnpackedFloat) (n : Nat) : Prop :=
  nearest n < 2 ^ 1024 ∧ Holds x (nearest n) ∨ 2 ^ 1024 ≤ nearest n ∧ x.isInf = true

variable {n k : Nat} {e : Int} {s : Sign} {x y : UnpackedFloat} {a b : Nat}

/-- What is left of a number without its last `k` bits, and what its residual bits tell. -/
structure Cut (n k : Nat) (em : ExtendedMantissa) : Prop where
  mantissa : em.mantissa = n / 2 ^ k
  roundBit : em.roundBit = true ↔ 2 ^ k ≤ 2 * (n % 2 ^ k)
  stickyBit : em.stickyBit = true ↔ 2 * (n % 2 ^ k) ≠ 0 ∧ 2 * (n % 2 ^ k) ≠ 2 ^ k

theorem Cut.shiftRightOne {em : ExtendedMantissa} (h : Cut n k em) :
    Cut n (k + 1) em.shiftRightOne := by
  have hmod : n % 2 ^ (k + 1) = n % 2 ^ k + 2 ^ k * (n / 2 ^ k % 2) := Nat.mod_pow_succ
  have hlt : n % 2 ^ k < 2 ^ k := Nat.mod_lt _ (Nat.two_pow_pos k)
  have hunit : 2 ^ (k + 1) = 2 * 2 ^ k := Nat.pow_succ'
  refine ⟨?_, ?_, ?_⟩
  · show em.mantissa / 2 = _
    rw [h.mantissa, Nat.div_div_eq_div_mul, Nat.pow_succ]
  · show (em.mantissa % 2 != 0) = true ↔ _
    rw [h.mantissa, bne_iff_ne, hmod, hunit]
    rcases Nat.mod_two_eq_zero_or_one (n / 2 ^ k) with hbit | hbit <;> rw [hbit] <;> omega
  · show (em.roundBit || em.stickyBit) = true ↔ _
    rw [Bool.or_eq_true, h.roundBit, h.stickyBit, hmod, hunit]
    rcases Nat.mod_two_eq_zero_or_one (n / 2 ^ k) with hbit | hbit <;> rw [hbit] <;> omega

theorem cut_shiftRight (n k : Nat) :
    Cut n k ((⟨n, false, false⟩ : ExtendedMantissa) >>> k) := by
  induction k with
  | zero => refine ⟨?_, ?_, ?_⟩ <;> simp [HShiftRight.hShiftRight, Nat.repeat, Nat.mod_one]
  | succ k ih => exact ih.shiftRightOne

theorem Cut.roundedMantissa {em : ExtendedMantissa} (h : Cut n k em) :
    em.roundedMantissa = roundOff n k := by
  obtain ⟨m, half, more⟩ := em
  obtain ⟨hm, hhalf, hmore⟩ := h
  simp only at hm hhalf hmore
  rw [roundOff, ← hm]
  cases half <;> cases more <;>
    simp only [Bool.false_eq_true, false_iff, true_iff] at hhalf hmore
  · show m = _
    split_ifs <;> omega
  · show m = _
    split_ifs <;> omega
  · show m + m % 2 = _
    split_ifs <;> omega
  · show m + 1 = _
    split_ifs <;> omega

/-- A long mantissa is cut to 53 bits, and the exponent grows by the others. -/
theorem exists_shiftToTargetExponent (hn : 52 ≤ n.log2) (he : -1074 ≤ e) :
    ∃ em, shiftToTargetExponent .binary64 n e .exact = (em, e + (n.log2 - 52 : Nat)) ∧
      Cut n (n.log2 - 52) em := by
  have hshift : (max ((n.log2 : Int) + 1 + e - 53) (-1074) - e).toNat = n.log2 - 52 := by omega
  have heq : shiftToTargetExponent .binary64 n e .exact =
      ((⟨n, false, false⟩ : ExtendedMantissa) >>>
        (max ((n.log2 : Int) + 1 + e - 53) (-1074) - e).toNat,
        e + (max ((n.log2 : Int) + 1 + e - 53) (-1074) - e).toNat) := rfl
  rw [hshift] at heq
  exact ⟨_, heq, cut_shiftRight n _⟩

theorem roundWithAccuracy_of {e₁ e₂ : Int} {em₁ em₂ : ExtendedMantissa}
    (h₁ : shiftToTargetExponent .binary64 n e .exact = (em₁, e₁))
    (h₂ : shiftToTargetExponent .binary64 em₁.roundedMantissa e₁ .exact = (em₂, e₂))
    (hpos : 0 < em₂.mantissa) :
    roundWithAccuracy .binary64 s n e .exact = .finite s em₂.mantissa e₂ hpos := by
  have hlast : shiftToTargetExponent .binary64
      (shiftToTargetExponent .binary64 n e .exact).1.roundedMantissa
      (shiftToTargetExponent .binary64 n e .exact).2 .exact = (em₂, e₂) := by
    rw [h₁]
    exact h₂
  have hfinite (last : ExtendedMantissa × Int) (heq : last = (em₂, e₂)) :
      (if h : last.1.mantissa = 0 then UnpackedFloat.zero s
        else UnpackedFloat.finite s last.1.mantissa last.2 (Nat.pos_of_ne_zero h)) =
          .finite s em₂.mantissa e₂ hpos := by
    subst heq
    exact dif_neg hpos.ne'
  exact hfinite _ hlast

/-- A number of 53 bits needs no cut, and the next power of two leaves a zero behind. -/
theorem cut_exact {em : ExtendedMantissa} (hlow : 2 ^ 52 ≤ n) (hhigh : n ≤ 2 ^ 53)
    (h : Cut n (n.log2 - 52) em) :
    2 ^ 52 ≤ em.mantissa ∧ em.mantissa < 2 ^ 53 ∧ em.mantissa * 2 ^ (n.log2 - 52) = n := by
  rcases Nat.lt_or_eq_of_le hhigh with hlt | rfl
  · have hlog : n.log2 = 52 := (Nat.log2_eq_iff (by omega)).mpr ⟨hlow, hlt⟩
    have hmantissa : em.mantissa = n := by
      rw [h.mantissa, hlog, Nat.sub_self, Nat.pow_zero, Nat.div_one]
    rw [hlog, hmantissa]
    exact ⟨hlow, hlt, Nat.mul_one n⟩
  · rw [h.mantissa]
    decide

/-- Rounding keeps 53 bits of a long mantissa, and the exponent grows by the others. -/
theorem exists_roundWithAccuracy (hn : 52 ≤ n.log2) (he : -1074 ≤ e) :
    ∃ m e' hm, roundWithAccuracy .binary64 s n e .exact = .finite s m e' hm ∧
      2 ^ 52 ≤ m ∧ m < 2 ^ 53 ∧ e ≤ e' ∧ m * 2 ^ (e' - e).toNat = nearest n := by
  obtain ⟨em₁, h₁, hcut₁⟩ := exists_shiftToTargetExponent hn he
  obtain ⟨hlow, hhigh⟩ := roundOff_bounds hn
  rw [← hcut₁.roundedMantissa] at hlow hhigh
  have hlog : 52 ≤ em₁.roundedMantissa.log2 := (Nat.le_log2 (by omega)).mpr hlow
  obtain ⟨em₂, h₂, hcut₂⟩ :=
    exists_shiftToTargetExponent (e := e + (n.log2 - 52 : Nat)) hlog (by omega)
  obtain ⟨hlow₂, hhigh₂, hexact⟩ := cut_exact hlow hhigh hcut₂
  refine ⟨_, _, _, roundWithAccuracy_of h₁ h₂ (by omega), hlow₂, hhigh₂, by omega, ?_⟩
  rw [nearest, ← hcut₁.roundedMantissa]
  generalize n.log2 - 52 = k
  generalize em₁.roundedMantissa.log2 - 52 = j at hexact ⊢
  have hexp : (e + k + j - e).toNat = j + k := by omega
  rw [hexp, Nat.pow_add, ← Nat.mul_assoc, hexact]

theorem toNat_one_append (mantissa : BitVec 52) :
    (1#1 ++ mantissa).toNat = 2 ^ 52 + mantissa.toNat := by
  rw [BitVec.toNat_append, ← Nat.shiftLeft_add_eq_or_of_lt mantissa.isLt]
  rfl

theorem unpack_of_components {b : BitVec Format.binary64.numBits}
    (htop : unpackExponent b ≠ -1#11) (hbottom : unpackExponent b ≠ 0#11) :
    ∃ hm, UnpackedFloat.unpack .binary64 b = .finite (.ofBitVec (unpackSign b))
      (2 ^ 52 + (unpackMantissa b).toNat) ((unpackExponent b).toNat - 1075) hm := by
  refine ⟨Nat.add_pos_left (Nat.two_pow_pos 52) _, ?_⟩
  exact (if_neg htop).trans ((if_neg hbottom).trans
    ((UnpackedFloat.finite.injEq ..).mpr ⟨rfl, toNat_one_append _, rfl⟩))

theorem unpack_packComponents (s : Sign) {m k : Nat} (hlow : 2 ^ 52 ≤ m) (hhigh : m < 2 ^ 53)
    (hpos : 0 < k) (hlt : k < 2047) :
    ∃ s' hm, UnpackedFloat.unpack .binary64
      (packComponents .binary64 s (BitVec.ofNat 11 k) (BitVec.ofNat 52 m)) =
        .finite s' m (k - 1075) hm := by
  have hexponent : (BitVec.ofNat 11 k).toNat = k := by
    rw [BitVec.toNat_ofNat, Nat.mod_eq_of_lt (by omega)]
  have hmantissa : 2 ^ 52 + (BitVec.ofNat 52 m).toNat = m := by
    rw [BitVec.toNat_ofNat]
    omega
  have hne {v : BitVec 11} (hv : v.toNat ≠ k) : BitVec.ofNat 11 k ≠ v := by
    rintro rfl
    exact hv hexponent
  generalize hbits : packComponents .binary64 s (BitVec.ofNat 11 k) (BitVec.ofNat 52 m) = b
  have hk : unpackExponent b = BitVec.ofNat 11 k := hbits ▸ unpackExponent_packComponents
  have hm : unpackMantissa b = BitVec.ofNat 52 m := hbits ▸ unpackMantissa_packComponents
  obtain ⟨_, hunpack⟩ := unpack_of_components (b := b)
    (hk ▸ hne (v := -1#11) (by show 2047 ≠ k; omega)) (hk ▸ hne (v := 0#11) (by show 0 ≠ k; omega))
  refine ⟨_, by omega, hunpack.trans ((UnpackedFloat.finite.injEq ..).mpr ⟨rfl, ?_, ?_⟩)⟩
  · rw [hm, hmantissa]
  · rw [hk, hexponent]

/-- A mantissa of 53 bits and an exponent in range are packed as they are. -/
theorem unpack_pack (s : Sign) {m : Nat} (hm : 0 < m) (hlow : 2 ^ 52 ≤ m) (hhigh : m < 2 ^ 53)
    (he : -1074 ≤ e) (hle : e ≤ 971) :
    ∃ s', (Float.Model.pack (.finite s m e hm)).unpack = .finite s' m e hm := by
  obtain ⟨k, hk⟩ : ∃ k : Nat, e + 1023 + 52 = k := ⟨(e + 1023 + 52).toNat, by omega⟩
  have hlog : m.log2 = 52 := (Nat.log2_eq_iff hm.ne').mpr ⟨hlow, hhigh⟩
  have hpack : UnpackedFloat.pack .binary64 (.finite s m e hm) =
      packComponents .binary64 s (BitVec.ofNat 11 (e + 1023 + 52).toNat) (BitVec.ofNat 52 m) :=
    (if_neg (by show ¬ 2048 ≤ (e + 1023 + 52).toNat + 1; omega)).trans
      (if_pos (by show m.log2 + 1 = 53; omega))
  obtain ⟨s', _, hunpack⟩ := unpack_packComponents s hlow hhigh (k := k) (by omega) (by omega)
  rw [hk, Int.toNat_natCast] at hpack
  refine ⟨s', ?_⟩
  calc (Float.Model.pack (.finite s m e hm)).unpack
      = UnpackedFloat.unpack .binary64 (UnpackedFloat.pack .binary64 (.finite s m e hm)) := rfl
    _ = .finite s' m (k - 1075) _ := by rw [hpack, hunpack]
    _ = .finite s' m e hm := (UnpackedFloat.finite.injEq ..).mpr ⟨rfl, rfl, by omega⟩

theorem isInf_unpack_pack {m : Nat} {hm : 0 < m} (he : 972 ≤ e) :
    (Float.Model.pack (.finite s m e hm)).unpack.isInf = true := by
  have hpack : UnpackedFloat.pack .binary64 (.finite s m e hm) = packedInfinity .binary64 s :=
    if_pos (by show 2048 ≤ (e + 1023 + 52).toNat + 1; omega)
  show (UnpackedFloat.unpack .binary64 (UnpackedFloat.pack .binary64 _)).isInf = true
  rw [hpack]
  cases s <;> rfl

theorem Holds.isInf (h : Holds x n) : x.isInf = false := by
  cases x <;> first | rfl | exact h.elim

theorem Rounds.isInf_iff (h : Rounds x n) : x.isInf = true ↔ 2 ^ 1024 ≤ nearest n := by
  rcases h with ⟨hlt, hholds⟩ | ⟨hge, hinf⟩
  · rw [hholds.isInf]
    exact ⟨Bool.noConfusion, fun h => absurd hlt (Nat.not_lt.mpr h)⟩
  · exact ⟨fun _ => hge, fun _ => hinf⟩

theorem lt_two_pow_of_mul {m i j c : Nat} (h : m * 2 ^ i = n * 2 ^ j) (hm : m < 2 ^ 53)
    (hc : 53 + i ≤ c + j) : n < 2 ^ c := by
  refine Nat.lt_of_mul_lt_mul_right (a := 2 ^ j) ?_
  calc n * 2 ^ j = m * 2 ^ i := h.symm
    _ < 2 ^ 53 * 2 ^ i := Nat.mul_lt_mul_of_pos_right hm (Nat.two_pow_pos i)
    _ = 2 ^ (53 + i) := (Nat.pow_add _ _ _).symm
    _ ≤ 2 ^ (c + j) := Nat.pow_le_pow_right (by decide) hc
    _ = 2 ^ c * 2 ^ j := Nat.pow_add _ _ _

theorem two_pow_le_of_mul {m i j c : Nat} (h : m * 2 ^ i = n * 2 ^ j) (hm : 2 ^ 52 ≤ m)
    (hc : c + j ≤ 52 + i) : 2 ^ c ≤ n := by
  refine Nat.le_of_mul_le_mul_right (c := 2 ^ j) ?_ (Nat.two_pow_pos j)
  calc 2 ^ c * 2 ^ j = 2 ^ (c + j) := (Nat.pow_add _ _ _).symm
    _ ≤ 2 ^ (52 + i) := Nat.pow_le_pow_right (by decide) hc
    _ = 2 ^ 52 * 2 ^ i := Nat.pow_add _ _ _
    _ ≤ m * 2 ^ i := Nat.mul_le_mul_right _ hm
    _ = n * 2 ^ j := h

/-- A long mantissa with an exponent becomes the whole number that both stand for. -/
theorem rounds_roundWithAccuracy (hn : 52 ≤ n.log2) (he : -104 ≤ e)
    (ha : n * 2 ^ (e + 104).toNat = a * 2 ^ 104) :
    Rounds (Float.Model.pack (roundWithAccuracy .binary64 s n e .exact)).unpack a := by
  obtain ⟨m, e', hm, hround, hlow, hhigh, hle, hnear⟩ :=
    exists_roundWithAccuracy (s := s) (e := e) hn (by omega)
  have hvalue : m * 2 ^ (e' + 104).toNat = nearest a * 2 ^ 104 := by
    have hexp : (e' + 104).toNat = (e' - e).toNat + (e + 104).toNat := by omega
    rw [hexp, Nat.pow_add, ← Nat.mul_assoc, hnear, ← nearest_scaled, ha, nearest_scaled]
  rw [hround]
  by_cases hin : e' ≤ 971
  · obtain ⟨s', hunpack⟩ := unpack_pack s hm hlow hhigh (by omega) hin
    -- a whole number has no exponent below that of a one
    have hbig : -52 ≤ e' := by
      refine Int.not_lt.mp fun hsmall => ?_
      have hlt : nearest a < 2 ^ 0 := lt_two_pow_of_mul hvalue hhigh (by omega)
      rw [Nat.lt_one_iff.mp hlt, Nat.zero_mul] at hvalue
      exact (Nat.mul_pos hm (Nat.two_pow_pos _)).ne' hvalue
    rw [hunpack]
    refine .inl ⟨lt_two_pow_of_mul hvalue hhigh (by omega), hlow, hhigh, hbig, ?_⟩
    refine Nat.eq_of_mul_eq_mul_right (Nat.two_pow_pos 52) ?_
    have hexp : (e' + 104).toNat = (e' + 52).toNat + 52 := by omega
    rw [Nat.mul_assoc, ← Nat.pow_add, ← hexp, hvalue, Nat.mul_assoc, ← Nat.pow_add]
  · exact .inr ⟨two_pow_le_of_mul hvalue hlow (by omega), isInf_unpack_pack (by omega)⟩

/-- A product of two whole numbers, each with 53 bits, is rounded once more. -/
theorem Holds.rounds_mul (hx : Holds x a) (hy : Holds y b) :
    Rounds (Float.Model.pack (UnpackedFloat.mul .binary64 x y)).unpack (a * b) := by
  rcases x with _ | _ | _ | ⟨s₁, m₁, e₁, hm₁⟩ <;> try exact hx.elim
  rcases y with _ | _ | _ | ⟨s₂, m₂, e₂, hm₂⟩ <;> try exact hy.elim
  obtain ⟨hlow₁, hhigh₁, he₁, hvalue₁⟩ := hx
  obtain ⟨hlow₂, hhigh₂, he₂, hvalue₂⟩ := hy
  refine rounds_roundWithAccuracy (s := s₁ * s₂) (n := m₁ * m₂) (e := e₁ + e₂) ?_ (by omega) ?_
  · refine (Nat.le_log2 (Nat.mul_pos hm₁ hm₂).ne').mpr ?_
    calc 2 ^ 52 ≤ m₁ := hlow₁
      _ ≤ m₁ * m₂ := Nat.le_mul_of_pos_right _ hm₂
  · have hexp : (e₁ + e₂ + 104).toNat = (e₁ + 52).toNat + (e₂ + 52).toNat := by omega
    calc m₁ * m₂ * 2 ^ (e₁ + e₂ + 104).toNat
        = (m₁ * 2 ^ (e₁ + 52).toNat) * (m₂ * 2 ^ (e₂ + 52).toNat) := by
          rw [hexp, Nat.pow_add, Nat.mul_mul_mul_comm]
      _ = a * b * 2 ^ 104 := by rw [hvalue₁, hvalue₂, Nat.mul_mul_mul_comm, ← Nat.pow_add]

theorem Holds.isInf_zero_mul (hx : Holds x a) :
    (Float.Model.pack (UnpackedFloat.mul .binary64 (.zero .positive) x)).unpack.isInf = false := by
  rcases x with _ | _ | _ | ⟨s, m, e, hm⟩ <;> try exact hx.elim
  have hmul : UnpackedFloat.mul .binary64 (.zero .positive) (.finite s m e hm) =
      .zero (.positive * s) := rfl
  rw [hmul]
  cases s <;> decide +kernel

theorem rounds_round (hn : 0 < n) :
    Rounds (Float.Model.pack (UnpackedFloat.round .binary64 s n 0)).unpack n := by
  have hshift : (0 - max ((n.log2 : Int) + 1 + 0 - 53) (-1074)).toNat = 52 - n.log2 := by omega
  have hround : UnpackedFloat.round .binary64 s n 0 =
      roundWithAccuracy .binary64 s
        (n <<< (0 - max ((n.log2 : Int) + 1 + 0 - 53) (-1074)).toNat)
        (0 - (0 - max ((n.log2 : Int) + 1 + 0 - 53) (-1074)).toNat) .exact := rfl
  rw [hround, hshift, Nat.shiftLeft_eq]
  refine rounds_roundWithAccuracy ?_ (by omega) ?_
  · rw [log2_mul_two_pow hn.ne']
    omega
  · rw [Nat.mul_assoc, ← Nat.pow_add]
    congr 2
    omega

theorem Rounds.holds (h : Rounds x n) (hlt : nearest n < 2 ^ 1024) : Holds x (nearest n) :=
  h.elim And.right fun hover => absurd hlt (Nat.not_lt.mpr hover.1)

theorem normalize_succ (n : Nat) :
    UnpackedFloat.normalize .binary64 ((n + 1 : Nat) : Int) 0 .positive =
      UnpackedFloat.round .binary64 .positive (n + 1) 0 := rfl

theorem holds_toFloat (hn : 0 < n) (hle : n < 2 ^ 64) :
    Holds (UInt64.ofNat n).toFloat.toModel.unpack (nearest n) := by
  have hnear : nearest n < 2 ^ 1024 :=
    (nearest_le_pow hle).trans_lt (pow_lt_pow_right₀ Nat.one_lt_two (by decide))
  have hfloat : (UInt64.ofNat n).toFloat.toModel = Float.Model.pack
      (UnpackedFloat.normalize .binary64 ((UInt64.ofNat n).toNat : Int) 0 .positive) := rfl
  obtain ⟨i, rfl⟩ : ∃ i, n = i + 1 := ⟨n - 1, by omega⟩
  rw [hfloat, UInt64.toNat_ofNat_of_lt' hle, normalize_succ]
  exact (rounds_round hn).holds hnear

/-- Powers of ten that the table of exact ones does not hold are rounded. -/
theorem ofScientific_eq (hk : 23 ≤ k) (hle : k ≤ 2048) :
    (Float.ofScientific 1 false k).toModel =
      .pack (roundWithAccuracy .binary64 .positive (2 ^ 53 * 10 ^ k) (-53) .exact) := by
  have hslow : Float.ofScientific 1 false k = .ofModel (Float.Model.ofScientific 1 k) :=
    dif_neg fun h => absurd h.2 (by omega)
  have hround : UnpackedFloat.ofScientific .binary64 1 k =
      roundWithAccuracy .binary64 .positive (2 ^ 53 * 10 ^ k) (-53) .exact := by
    have hpos : ¬ (k : Int) > 2 ^ 11 := by omega
    have hneg : ¬ (k : Int) < -(2 ^ 11 + (Nat.log2 1 : Int)) := by omega
    exact (dif_neg Nat.one_ne_zero).trans
      ((if_neg hpos).trans ((if_neg hneg).trans (if_pos (Int.natCast_nonneg k))))
  rw [hslow, ← hround]
  rfl

theorem pow_ten_lt (hk : k ≤ 308) : nearest (10 ^ k) < 2 ^ 1024 := by
  refine Nat.not_le.mp fun hle => ?_
  have hhalf := (pow_le_nearest_iff (k := 970) (j := 1024) rfl).mp hle
  have hmono : 10 ^ k ≤ 10 ^ 308 := pow_le_pow_right₀ (by decide) hk
  have hlt : 10 ^ 308 + 2 ^ 970 < 2 ^ 1024 := by decide +kernel
  exact absurd hhalf (Nat.not_le.mpr ((Nat.add_le_add_right hmono _).trans_lt hlt))

theorem holds_pow_ten (hk : k ≤ 308) :
    Holds (Float.ofScientific 1 false k).toModel.unpack (nearest (10 ^ k)) := by
  rcases Nat.lt_or_ge k 23 with hshort | hlong
  · have hall : ∀ k : Fin 23, Holds (Float.ofScientific 1 false k).toModel.unpack
      (nearest (10 ^ k.val)) := by decide +kernel
    exact hall ⟨k, hshort⟩
  · rw [ofScientific_eq hlong (by omega)]
    refine Rounds.holds (rounds_roundWithAccuracy ?_ (by decide) ?_) (pow_ten_lt hk)
    · rw [Nat.mul_comm, log2_mul_two_pow (Nat.pow_pos (by decide)).ne']
      omega
    · rw [Nat.mul_comm (2 ^ 53), Nat.mul_assoc]
      rfl

/-- A whole number times a power of ten is infinite if the product of their floats comes within
half a unit of `2 ^ 1024`. -/
theorem isInf_mul_pow_ten_iff (hn : n < 2 ^ 64) (hk : k ≤ 308) :
    ((UInt64.ofNat n).toFloat * Float.ofScientific 1 false k).isInf = true ↔
      2 ^ 1024 ≤ nearest n * nearest (10 ^ k) + 2 ^ 970 := by
  have hmul (x y : Float) : (x * y).isInf = (Float.Model.pack
      (UnpackedFloat.mul .binary64 x.toModel.unpack y.toModel.unpack)).unpack.isInf := rfl
  have hten := holds_pow_ten hk
  rw [hmul]
  rcases Nat.eq_zero_or_pos n with rfl | hpos
  · have hzero : (UInt64.ofNat 0).toFloat.toModel.unpack = .zero .positive := rfl
    rw [hzero, hten.isInf_zero_mul, nearest_of_log2 (by decide), Nat.zero_mul, Nat.zero_add]
    exact iff_of_false Bool.false_ne_true
      (Nat.not_le.mpr (pow_lt_pow_right₀ Nat.one_lt_two (by decide)))
  · exact ((holds_toFloat hpos hn).rounds_mul hten).isInf_iff.trans
      (pow_le_nearest_iff (k := 970) (j := 1024) rfl)

end LogFollow.Number
