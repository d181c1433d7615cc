/-! # Bounded whole numbers

Times are signed 64-bit numbers and counts unsigned ones. Sums that leave the signed range stop at
its ends, and decimal numerals are read only as far as their value fits. -/

namespace LogFollow.Number
set_option autoImplicit false

def minSigned : Int := -9223372036854775808

def maxSigned : Int := 9223372036854775807

def maxUnsigned : Nat := 18446744073709551615

def isSigned (n : Int) : Bool := minSigned ≤ n && n ≤ maxSigned

/-- The signed 64-bit number nearest to `n`. -/
def saturate (n : Int) : Int := max minSigned (min maxSigned n)

theorem isSigned_iff {n : Int} :
    isSigned n = true ↔ -9223372036854775808 ≤ n ∧ n ≤ 9223372036854775807 := by
  unfold isSigned minSigned maxSigned
  rw [Bool.and_eq_true, decide_eq_true_iff, decide_eq_true_iff]

theorem saturate_of_isSigned {n : Int} (h : isSigned n = true) : saturate n = n := by
  have := isSigned_iff.1 h
  simp only [saturate, minSigned, maxSigned]
  omega

theorem isSigned_saturate (n : Int) : isSigned (saturate n) = true := by
  rw [isSigned_iff]
  simp only [saturate, minSigned, maxSigned]
  omega

theorem saturate_nonneg {n : Int} (h : 0 ≤ n) : 0 ≤ saturate n := by
  simp only [saturate, minSigned, maxSigned]
  omega

theorem saturate_mono {m n : Int} (h : m ≤ n) : saturate m ≤ saturate n := by
  simp only [saturate]
  omega

def isDigit (c : Char) : Bool := '0' ≤ c && c ≤ '9'

def digitValue (c : Char) : Nat := c.toNat - 48

def digitsValue (cs : List Char) : Nat := cs.foldl (fun n c => n * 10 + digitValue c) 0

inductive NumeralError
  | empty
  | invalidDigit
  | tooLarge
  | tooSmall
  deriving DecidableEq, Repr

def NumeralError.message : NumeralError → String
  | .empty => "cannot parse integer from empty string"
  | .invalidDigit => "invalid digit found in string"
  | .tooLarge => "number too large to fit in target type"
  | .tooSmall => "number too small to fit in target type"

/-- The value of digits read behind `value`. The first digit that is no digit, or that brings the
value over `limit`, ends the reading with an error. -/
def readDigits (limit : Nat) (excess : NumeralError) (value : Nat) :
    List Char → Except NumeralError Nat
  | [] => .ok value
  | c :: cs =>
    if !isDigit c then .error .invalidDigit
    else if limit < value * 10 + digitValue c then .error excess
    else readDigits limit excess (value * 10 + digitValue c) cs

/-- Reads an unsigned number up to `limit`: digits, with a plus sign in front if one likes. -/
def readUnsigned (limit : Nat) (s : String) : Except NumeralError Nat :=
  match s.toList with
  | [] => .error .empty
  | '+' :: c :: cs => readDigits limit .tooLarge 0 (c :: cs)
  | cs => readDigits limit .tooLarge 0 cs

/-- Reads a signed number of the given magnitude: an optional sign and digits. -/
def readSigned (limit : Nat) (s : String) : Except NumeralError Int :=
  match s.toList with
  | [] => .error .empty
  | '-' :: c :: cs => (readDigits (limit + 1) .tooSmall 0 (c :: cs)).map fun n => -(n : Int)
  | '+' :: c :: cs => (readDigits limit .tooLarge 0 (c :: cs)).map fun n => (n : Int)
  | cs => (readDigits limit .tooLarge 0 cs).map fun n => (n : Int)

/-- The decimal digits of a number, with zeros in front up to a width. -/
def padded (width n : Nat) : String :=
  let digits := Nat.toDigits 10 n
  String.ofList (List.replicate (width - digits.length) '0' ++ digits)

end LogFollow.Number
