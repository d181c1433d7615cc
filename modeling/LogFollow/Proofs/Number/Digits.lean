import LogFollow.Number.Bounded
import Mathlib.Data.List.Basic
import Mathlib.Tactic.Ring

/-!
# Decimal digits

The numeral of a number is made of digits and has no zero in front, unless the number is zero. A
number that is read from a text is written as that text without its plus sign and its leading zeros.
-/

namespace LogFollow.Number
set_option autoImplicit false

/-- A numeral without a plus sign and without zeros in front. -/
def plainNumeral (text : String) : String :=
  String.ofList (text.toList.dropWhile fun c => c == '+' || c == '0')

variable {c : Char} {cs : List Char} {n value limit : Nat} {excess : NumeralError} {text : String}

theorem isDigit_iff : isDigit c = true ↔ 48 ≤ c.toNat ∧ c.toNat ≤ 57 := by
  simp only [isDigit, Bool.and_eq_true, decide_eq_true_eq]
  exact Iff.rfl

theorem ne_of_isDigit {x : Char} (h : isDigit c = true) (hx : isDigit x = false) : c ≠ x := by
  rintro rfl
  rw [h] at hx
  cases hx

theorem isDigit_of_mem_toDigits (h : c ∈ Nat.toDigits 10 n) : isDigit c = true := by
  have hdigit := Nat.isDigit_of_mem_toDigits (by decide) (by decide) h
  rw [Char.isDigit, Bool.and_eq_true, decide_eq_true_eq, decide_eq_true_eq] at hdigit
  exact isDigit_iff.mpr hdigit

theorem toDigits_ne_nil (n : Nat) : Nat.toDigits 10 n ≠ [] :=
  List.ne_nil_of_length_pos Nat.length_toDigits_pos

theorem toDigits_head (n : Nat) : ∃ x more, Nat.toDigits 10 n = x :: more ∧ isDigit x = true := by
  obtain ⟨x, more, hcons⟩ := List.exists_cons_of_ne_nil (toDigits_ne_nil n)
  exact ⟨x, more, hcons, isDigit_of_mem_toDigits (hcons ▸ List.mem_cons_self)⟩

theorem head_toDigits (hn : 0 < n) : (Nat.toDigits 10 n).head? ≠ some '0' := by
  induction n using Nat.strongRecOn with
  | ind n ih =>
    rw [Nat.toDigits_eq_if (by decide)]
    split_ifs with hlt
    · have hall : ∀ d : Fin 10, 0 < d.val → d.val.digitChar ≠ '0' := by decide
      simpa using hall ⟨n, hlt⟩ hn
    · have hdiv : 0 < n / 10 := by omega
      rw [List.head?_append_of_ne_nil _ (toDigits_ne_nil (n / 10))]
      exact ih (n / 10) (by omega) hdiv

theorem digitsValue_eq_ofDigitChars (cs : List Char) :
    digitsValue cs = Nat.ofDigitChars 10 cs 0 := by
  simp only [digitsValue, Nat.ofDigitChars, Nat.mul_comm]
  rfl

theorem digitsValue_toDigits (n : Nat) : digitsValue (Nat.toDigits 10 n) = n := by
  rw [digitsValue_eq_ofDigitChars, Nat.ofDigitChars_ten_toDigits]

theorem digitsValue_zeros_append (width : Nat) (cs : List Char) :
    digitsValue (List.replicate width '0' ++ cs) = digitsValue cs := by
  induction width with
  | zero => rfl
  | succ width ih => exact ih

theorem digitValue_lt (h : isDigit c = true) : digitValue c < 10 := by
  have hc := isDigit_iff.mp h
  rw [digitValue]
  omega

/-- The first digit counts for all the places behind it. -/
theorem digitsValue_cons (c : Char) (cs : List Char) :
    digitsValue (c :: cs) = digitValue c * 10 ^ cs.length + digitsValue cs := by
  have hfold : ∀ (cs : List Char) (acc : Nat),
      cs.foldl (fun n c => n * 10 + digitValue c) acc = acc * 10 ^ cs.length + digitsValue cs := by
    intro cs
    induction cs with
    | nil => intro acc; simp [digitsValue]
    | cons c cs ih =>
      intro acc
      rw [digitsValue, List.foldl_cons, List.foldl_cons, ih, ih, List.length_cons]
      ring
  rw [digitsValue, List.foldl_cons, hfold, Nat.zero_mul, Nat.zero_add]

theorem digitsValue_concat (cs : List Char) (c : Char) :
    digitsValue (cs ++ [c]) = digitsValue cs * 10 + digitValue c := by
  rw [digitsValue, List.foldl_append]
  rfl

theorem digitsValue_le_append (cs more : List Char) : digitsValue cs ≤ digitsValue (cs ++ more) := by
  induction more generalizing cs with
  | nil => rw [List.append_nil]
  | cons c more ih =>
    have hrest := ih (cs ++ [c])
    rw [digitsValue_concat, List.append_assoc, List.singleton_append] at hrest
    omega

theorem digitsValue_lt (h : ∀ c ∈ cs, isDigit c = true) : digitsValue cs < 10 ^ cs.length := by
  induction cs with
  | nil => decide
  | cons c cs ih =>
    rw [List.forall_mem_cons] at h
    have hfirst := Nat.mul_le_mul_right (10 ^ cs.length) (Nat.le_of_lt_succ (digitValue_lt h.1))
    have hrest := ih h.2
    rw [digitsValue_cons, List.length_cons, Nat.pow_succ]
    omega

theorem digitChar_digitValue (h : isDigit c = true) : (digitValue c).digitChar = c := by
  have hc := isDigit_iff.mp h
  have hall : ∀ d : Fin 10, d.val.digitChar = Char.ofNat (d.val + 48) := by decide
  have hd := hall ⟨digitValue c, digitValue_lt h⟩
  have hval : digitValue c + 48 = c.toNat := by
    rw [digitValue]
    omega
  rw [hd, hval, Char.ofNat_toNat]

theorem digitValue_lt_iff {d : Char} (h : isDigit c = true) :
    digitValue c < digitValue d ↔ c < d := by
  have hc := isDigit_iff.mp h
  have hlt : c < d ↔ c.toNat < d.toNat := Iff.rfl
  rw [hlt, digitValue, digitValue]
  omega

/-- Of two texts that begin with as many digits, the one with the smaller number is the smaller
text. -/
theorem append_lt_append_of_digitsValue {cs ds xs ys : List Char} (hl : cs.length = ds.length)
    (hc : ∀ c ∈ cs, isDigit c = true) (hd : ∀ d ∈ ds, isDigit d = true)
    (h : digitsValue cs < digitsValue ds ∨ digitsValue cs = digitsValue ds ∧ xs < ys) :
    cs ++ xs < ds ++ ys := by
  induction cs generalizing ds with
  | nil =>
    have hnil : ds = [] := List.length_eq_zero_iff.mp hl.symm
    subst hnil
    exact (h.resolve_left (Nat.lt_irrefl _)).2
  | cons c cs ih =>
    cases ds with
    | nil => cases hl
    | cons d ds =>
      rw [List.forall_mem_cons] at hc hd
      have hlen : cs.length = ds.length := Nat.succ.inj hl
      have hcs := digitsValue_lt hc.2
      have hds := digitsValue_lt hd.2
      rw [digitsValue_cons, digitsValue_cons, ← hlen] at h
      rw [← hlen] at hds
      refine List.cons_lt_cons_iff.mpr ?_
      rcases Nat.lt_trichotomy (digitValue c) (digitValue d) with hlt | heq | hgt
      · exact .inl ((digitValue_lt_iff hc.1).mp hlt)
      · have hchar : c = d := by rw [← digitChar_digitValue hc.1, heq, digitChar_digitValue hd.1]
        rw [heq] at h
        exact .inr ⟨hchar, ih hlen hc.2 hd.2
          (h.imp Nat.lt_of_add_lt_add_left (And.imp_left Nat.add_left_cancel))⟩
      · have hmul := Nat.mul_le_mul_right (10 ^ cs.length) hgt
        rw [Nat.succ_mul] at hmul
        omega

/-- A digit read behind a number that is not zero stands behind its numeral. -/
theorem toDigits_step (h : isDigit c = true) (hv : 0 < value) :
    Nat.toDigits 10 (value * 10 + digitValue c) = Nat.toDigits 10 value ++ [c] := by
  have happend := Nat.toDigits_append_toDigits (by decide : 1 < 10) hv (digitValue_lt h)
  rw [Nat.toDigits_of_lt_base (digitValue_lt h), digitChar_digitValue h] at happend
  rw [happend, Nat.mul_comm]

theorem readDigits_cons (h : readDigits limit excess value (c :: cs) = .ok n) :
    isDigit c = true ∧ readDigits limit excess (value * 10 + digitValue c) cs = .ok n := by
  rw [readDigits] at h
  split at h
  · cases h
  · split at h
    · cases h
    · rename_i hdigit hfit
      exact ⟨by simpa using hdigit, h⟩

theorem toDigits_readDigits (h : readDigits limit excess value cs = .ok n) (hv : 0 < value) :
    Nat.toDigits 10 n = Nat.toDigits 10 value ++ cs := by
  induction cs generalizing value with
  | nil =>
    cases h
    exact (List.append_nil _).symm
  | cons c cs ih =>
    obtain ⟨hdigit, hrest⟩ := readDigits_cons h
    rw [ih hrest (by omega), toDigits_step hdigit hv, List.append_assoc, List.singleton_append]

theorem toDigits_readDigits_zero (h : readDigits limit excess 0 cs = .ok n) (hn : 0 < n) :
    Nat.toDigits 10 n = cs.dropWhile fun c => c == '+' || c == '0' := by
  induction cs with
  | nil =>
    cases h
    exact absurd hn (Nat.lt_irrefl 0)
  | cons c cs ih =>
    obtain ⟨hdigit, hrest⟩ := readDigits_cons h
    rw [Nat.zero_mul, Nat.zero_add] at hrest
    have hplus : c ≠ '+' := by
      rintro rfl
      exact absurd hdigit (by decide)
    by_cases hzero : c = '0'
    · subst hzero
      exact ih hrest
    · have hpos : 0 < digitValue c := by
        have hc := isDigit_iff.mp hdigit
        have hne : c.toNat ≠ 48 := fun heq => hzero (Char.toNat_inj.mp heq)
        rw [digitValue]
        omega
      rw [toDigits_readDigits hrest hpos, Nat.toDigits_of_lt_base (digitValue_lt hdigit),
        digitChar_digitValue hdigit]
      simp [hplus, hzero]

theorem toString_of_readUnsigned (h : readUnsigned limit text = .ok n) (hn : 0 < n) :
    toString n = plainNumeral text := by
  rw [readUnsigned] at h
  split at h
  · cases h
  · rename_i c cs htext
    rw [plainNumeral, Nat.toString_eq_ofList_toDigits, toDigits_readDigits_zero h hn, htext]
    rfl
  · rw [plainNumeral, Nat.toString_eq_ofList_toDigits, toDigits_readDigits_zero h hn]

end LogFollow.Number
