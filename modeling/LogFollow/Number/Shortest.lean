/-! # Shortest decimals

A finite binary number is `m · 2 ^ q`. The decimals that read back as it fill an interval around it,
whose ends belong to it when `m` is even. `shortest` gives the fewest digits of such a decimal and,
among those, the digits nearest to the number: for each count of digits it looks at the two
neighbours of the number on that decimal grid. -/

namespace LogFollow.Number
set_option autoImplicit false

/-- A positive finite binary number `m · 2 ^ q` of double precision. -/
structure Binary where
  m : Nat
  q : Int
  deriving DecidableEq, Repr

/-- The magnitude of the number that a bit pattern stands for. -/
def Binary.ofBits (bits : UInt64) : Binary :=
  let fraction : Nat := bits.toNat % Nat.pow 2 52
  let exponent : Nat := bits.toNat / Nat.pow 2 52 % Nat.pow 2 11
  if exponent == 0 then ⟨fraction, -1074⟩ else ⟨fraction + Nat.pow 2 52, (exponent : Int) - 1075⟩

/-- `n · 2 ^ a · 10 ^ b` without what has a negative power. -/
def scaled (n : Nat) (a b : Int) : Nat := n * Nat.pow 2 a.toNat * Nat.pow 10 b.toNat

/-- Decimal digits `digits` with the point behind the first one, times a power of ten. -/
structure Decimal where
  digits : Nat
  exponent : Int
  deriving DecidableEq, Repr

/-- The neighbours of `x` on the grid of multiples of `10 ^ k`, and whether the lower and the upper
one read back as `x`; last, whether the upper one is the nearer. The numbers are compared in
quarters of the last binary place. -/
def Binary.neighbours (x : Binary) (k : Int) : Nat × Bool × Bool × Bool :=
  let unit := scaled 1 (2 - x.q) k
  let level := fun quarters => scaled quarters (x.q - 2) (-k)
  let low := if x.m == Nat.pow 2 52 && x.q != -1074 then 4 * x.m - 1 else 4 * x.m - 2
  let inside := fun n =>
    if x.m % 2 == 0 then level low ≤ n && n ≤ level (4 * x.m + 2)
    else level low < n && n < level (4 * x.m + 2)
  let d := level (4 * x.m) / unit
  let rest := level (4 * x.m) - d * unit
  (d, inside (d * unit), inside ((d + 1) * unit),
    unit < 2 * rest || (unit == 2 * rest && d % 2 == 1))

/-- The shortest decimal on the grids from `10 ^ k` downwards, as a multiple of a power of ten. -/
def Binary.search (x : Binary) (k : Int) : Nat → Nat × Int
  | 0 => ((x.neighbours k).1, k)
  | fuel + 1 =>
    match x.neighbours k with
    | (d, true, true, upper) => (if upper then d + 1 else d, k)
    | (d, true, false, _) => (d, k)
    | (d, false, true, _) => (d + 1, k)
    | (_, false, false, _) => x.search (k - 1) fuel

/-- The decimal exponent of the leading digit is at most this. -/
def Binary.topExponent (x : Binary) : Int :=
  let bits : Int := (Nat.log2 x.m : Int) + x.q
  if 0 ≤ bits then bits.toNat * 30103 / 100000 + 1 else -((-bits).toNat * 30102 / 100000 : Nat)

/-- A multiple of a power of ten with no zeros at its end. -/
def stripZeros (d : Nat) (k : Int) : Nat → Nat × Int
  | 0 => (d, k)
  | fuel + 1 => if d != 0 && d % 10 == 0 then stripZeros (d / 10) (k + 1) fuel else (d, k)

/-- The shortest decimal that reads back as `x`: its digits and the power of ten of its first
digit. -/
def Binary.shortest (x : Binary) : Decimal :=
  let (d, k) := x.search x.topExponent 20
  let (d, k) := stripZeros d k 20
  ⟨d, k + ((Nat.toDigits 10 d).length : Int) - 1⟩

/-- The text of a decimal: positional from `10 ^ -5` below `10 ^ 16`, with at least one place, and
with a signed exponent outside of these. -/
def Decimal.text (x : Decimal) : List Char :=
  let digits := Nat.toDigits 10 x.digits
  if 0 ≤ x.exponent && x.exponent < 16 then
    let whole := x.exponent.toNat + 1
    let places := digits.drop whole
    digits.take whole ++ List.replicate (whole - digits.length) '0' ++ ['.']
      ++ (if places.isEmpty then ['0'] else places)
  else if -5 ≤ x.exponent && x.exponent < 0 then
    ['0', '.'] ++ List.replicate ((-x.exponent).toNat - 1) '0' ++ digits
  else
    let places := digits.drop 1
    digits.take 1 ++ (if places.isEmpty then [] else '.' :: places) ++ ['e']
      ++ [if x.exponent < 0 then '-' else '+'] ++ Nat.toDigits 10 x.exponent.natAbs

def floatText (bits : UInt64) : List Char :=
  let x := Binary.ofBits bits
  let sign := if bits.toNat / Nat.pow 2 63 == 1 then ['-'] else []
  sign ++ if x.m == 0 then ['0', '.', '0'] else x.shortest.text

end LogFollow.Number
