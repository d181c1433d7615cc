import LogFollow.Json.Value

/-! # Reading JSON

A text is first read into the tree that it spells. The tree keeps numerals and escapes as they are
written, so that a part nobody asks for may hold numbers out of range or halves of a surrogate pair,
at any depth. `value?` gives the value of a tree if it has one: texts must be Unicode, numbers in
range and containers not nested too deeply. -/

namespace LogFollow.Json
set_option autoImplicit false

open Number

structure Numeral where
  negative : Bool
  whole : List Char
  fraction : List Char
  /-- The exponent, if one is written: whether it is negative, and its digits. -/
  exponent : Option (Bool × List Char)
  deriving DecidableEq, Repr

/-- A piece of a written string: a character, or a UTF-16 unit given by its number. -/
inductive Piece
  | char (c : Char)
  | unit (n : Nat)
  deriving DecidableEq, Repr

inductive Raw
  | null
  | bool (b : Bool)
  | number (n : Numeral)
  | string (pieces : List Piece)
  | array (items : List Raw)
  | object (entries : List (List Piece × Raw))
  deriving Repr

/-- Whether a character may stand between the parts of a text. -/
def isSpace (c : Char) : Bool := c == ' ' || c == '\n' || c == '\t' || c == '\r'

def skipSpace (cs : List Char) : List Char := cs.dropWhile isSpace

def hexValue (c : Char) : Option Nat :=
  if '0' ≤ c ∧ c ≤ '9' then some (c.toNat - 48)
  else if 'a' ≤ c ∧ c ≤ 'f' then some (c.toNat - 87)
  else if 'A' ≤ c ∧ c ≤ 'F' then some (c.toNat - 55)
  else none

def hexQuad (a b c d : Char) : Option Nat := do
  some ((← hexValue a) * 4096 + (← hexValue b) * 256 + (← hexValue c) * 16 + (← hexValue d))

/-- The character that a letter stands for behind a backslash. -/
def simpleEscape (c : Char) : Option Char :=
  if c == '"' || c == '\\' || c == '/' then some c
  else if c == 'b' then some '\x08'
  else if c == 'f' then some '\x0c'
  else if c == 'n' then some '\n'
  else if c == 'r' then some '\r'
  else if c == 't' then some '\t'
  else none

/-- Reads the inside of a string and its closing quote. -/
def readPieces : List Char → Option (List Piece × List Char)
  | [] => none
  | '"' :: rest => some ([], rest)
  | '\\' :: 'u' :: a :: b :: c :: d :: rest => do
    let n ← hexQuad a b c d
    let (pieces, rest) ← readPieces rest
    some (.unit n :: pieces, rest)
  | '\\' :: e :: rest => do
    let c ← simpleEscape e
    let (pieces, rest) ← readPieces rest
    some (.char c :: pieces, rest)
  | c :: rest =>
    if c == '\\' || c.toNat < 0x20 then none
    else do
      let (pieces, rest) ← readPieces rest
      some (.char c :: pieces, rest)

/-- Reads the fraction of a numeral, if there is one. -/
def readFraction : List Char → Option (List Char × List Char)
  | '.' :: rest =>
    let digits := rest.takeWhile isDigit
    if digits.isEmpty then none else some (digits, rest.dropWhile isDigit)
  | rest => some ([], rest)

def readExponentDigits (negative : Bool) (cs : List Char) :
    Option (Option (Bool × List Char) × List Char) :=
  let digits := cs.takeWhile isDigit
  if digits.isEmpty then none else some (some (negative, digits), cs.dropWhile isDigit)

def readExponent : List Char → Option (Option (Bool × List Char) × List Char)
  | 'e' :: '-' :: rest | 'E' :: '-' :: rest => readExponentDigits true rest
  | 'e' :: '+' :: rest | 'E' :: '+' :: rest => readExponentDigits false rest
  | 'e' :: rest | 'E' :: rest => readExponentDigits false rest
  | rest => some (none, rest)

/-- Reads a numeral behind its sign; no zero stands before other digits. -/
def readNumeral (negative : Bool) (cs : List Char) : Option (Numeral × List Char) := do
  let whole := cs.takeWhile isDigit
  if whole.isEmpty || (whole.head? == some '0' && whole.length != 1) then none
  let (fraction, rest) ← readFraction (cs.dropWhile isDigit)
  let (exponent, rest) ← readExponent rest
  some (⟨negative, whole, fraction, exponent⟩, rest)

mutual

/-- Reads a value; the fuel bounds the number of steps. -/
def readRaw : Nat → List Char → Option (Raw × List Char)
  | 0, _ => none
  | fuel + 1, cs =>
    match skipSpace cs with
    | 'n' :: 'u' :: 'l' :: 'l' :: rest => some (.null, rest)
    | 't' :: 'r' :: 'u' :: 'e' :: rest => some (.bool true, rest)
    | 'f' :: 'a' :: 'l' :: 's' :: 'e' :: rest => some (.bool false, rest)
    | '"' :: rest => do
      let (pieces, rest) ← readPieces rest
      some (.string pieces, rest)
    | '[' :: rest =>
      match skipSpace rest with
      | ']' :: rest => some (.array [], rest)
      | _ => do
        let (items, rest) ← readItems fuel rest
        some (.array items, rest)
    | '\x7b' :: rest =>
      match skipSpace rest with
      | '\x7d' :: rest => some (.object [], rest)
      | _ => do
        let (entries, rest) ← readEntries fuel rest
        some (.object entries, rest)
    | '-' :: rest => do
      let (n, rest) ← readNumeral true rest
      some (.number n, rest)
    | cs => do
      let (n, rest) ← readNumeral false cs
      some (.number n, rest)

/-- Reads the items of an array that has some, and its closing bracket. -/
def readItems : Nat → List Char → Option (List Raw × List Char)
  | 0, _ => none
  | fuel + 1, cs => do
    let (item, rest) ← readRaw fuel cs
    match skipSpace rest with
    | ']' :: rest => some ([item], rest)
    | ',' :: rest => do
      let (items, rest) ← readItems fuel rest
      some (item :: items, rest)
    | _ => none

/-- Reads the entries of an object that has some, and its closing brace. -/
def readEntries : Nat → List Char → Option (List (List Piece × Raw) × List Char)
  | 0, _ => none
  | fuel + 1, cs =>
    match skipSpace cs with
    | '"' :: rest => do
      let (key, rest) ← readPieces rest
      match skipSpace rest with
      | ':' :: rest => do
        let (value, rest) ← readRaw fuel rest
        match skipSpace rest with
        | '\x7d' :: rest => some ([(key, value)], rest)
        | ',' :: rest => do
          let (entries, rest) ← readEntries fuel rest
          some ((key, value) :: entries, rest)
        | _ => none
      | _ => none
    | _ => none

end

def Raw.read (s : String) : Option Raw := do
  let (raw, rest) ← readRaw (2 * s.toList.length + 2) s.toList
  if (skipSpace rest).isEmpty then some raw else none

/-- The text of a written string, unless it holds half of a surrogate pair. -/
def textOf : List Piece → Option (List Char)
  | [] => some []
  | .char c :: rest => (textOf rest).map (c :: ·)
  | .unit hi :: .unit lo :: rest =>
    if 0xd800 ≤ hi ∧ hi < 0xdc00 then
      if 0xdc00 ≤ lo ∧ lo < 0xe000 then
        (textOf rest).map (Char.ofNat (0x10000 + (hi - 0xd800) * 0x400 + (lo - 0xdc00)) :: ·)
      else none
    else if 0xdc00 ≤ hi ∧ hi < 0xe000 then none
    else (textOf (.unit lo :: rest)).map (Char.ofNat hi :: ·)
  | .unit n :: rest =>
    if 0xd800 ≤ n ∧ n < 0xe000 then none else (textOf rest).map (Char.ofNat n :: ·)

def text? (pieces : List Piece) : Option String := (textOf pieces).map String.ofList

/-- The significand that the digits build and the exponent they leave: digits count as long as the
significand stays a 64-bit number, and those behind only move the exponent. -/
def significand (whole fraction : List Char) : Nat × Int :=
  let rec go (n : Nat) : List Char → Nat × Nat
    | [] => (n, 0)
    | c :: cs =>
      if maxUnsigned < n * 10 + digitValue c then (n, cs.length + 1)
      else go (n * 10 + digitValue c) cs
  let (n, dropped) := go 0 whole
  if dropped != 0 then (n, dropped)
  else
    let (n, left) := go n fraction
    (n, -((fraction.length - left : Nat) : Int))

/-- `n · 10 ^ e` in double precision, by one multiplication or by divisions by powers of ten; none
if it is too large. -/
def scaleFloat (n : Nat) (e : Int) : Option Float :=
  let f := (UInt64.ofNat n).toFloat
  if 308 < e then if n == 0 then some f else none
  else if 0 ≤ e then
    let product := f * Float.ofScientific 1 false e.toNat
    if product.isInf then none else some product
  else
    let rec go (f : Float) (k : Nat) : Nat → Float
      | 0 => f
      | fuel + 1 =>
        if k ≤ 308 then f / Float.ofScientific 1 false k
        else if f == 0.0 then f
        else go (f / Float.ofScientific 1 false 308) (k - 308) fuel
    some (go f (-e).toNat 8)

/-- The number that a numeral with a fraction or an exponent stands for, or an integer out of
range. -/
def Numeral.float? (n : Numeral) : Option Num := do
  let (m, e) := significand n.whole n.fraction
  let magnitude ← match n.exponent with
    | none => scaleFloat m e
    | some (negative, digits) =>
      let x := digitsValue digits
      if 2147483647 < x then if m == 0 || negative then some 0.0 else none
      else scaleFloat m (if negative then e - x else e + x)
  some (.float (if n.negative then -magnitude else magnitude).toBits)

/-- The number that a numeral stands for: an integer if it is written as one and in range. A minus
sign before a zero makes a float, as no integer has it. -/
def Numeral.num? (n : Numeral) : Option Num :=
  let whole := digitsValue n.whole
  if n.fraction.isEmpty && n.exponent.isNone then
    if n.negative then
      if whole != 0 && whole ≤ 9223372036854775808 then some (.int (-(whole : Int))) else n.float?
    else if whole ≤ maxUnsigned then some (.int whole)
    else n.float?
  else n.float?

/-- The nesting of containers that a text may have. -/
def maxDepth : Nat := 127

mutual

/-- The value of a tree with at most `depth` containers inside each other. -/
def Raw.value? (depth : Nat) : Raw → Option Value
  | .null => some .null
  | .bool b => some (.bool b)
  | .number n => n.num?.map .number
  | .string pieces => (text? pieces).map .string
  | .array items =>
    if depth == 0 then none else (itemValues? (depth - 1) items).map .array
  | .object entries =>
    if depth == 0 then none
    else (entryValues? (depth - 1) entries).map fun es => .object (sortEntries es)

def itemValues? (depth : Nat) : List Raw → Option (List Value)
  | [] => some []
  | item :: rest => do
    let v ← item.value? depth
    let vs ← itemValues? depth rest
    some (v :: vs)

def entryValues? (depth : Nat) : List (List Piece × Raw) → Option (List (String × Value))
  | [] => some []
  | (key, item) :: rest => do
    let k ← text? key
    let v ← item.value? depth
    let es ← entryValues? depth rest
    some ((k, v) :: es)

end

def Value.read (s : String) : Option Value := do
  (← Raw.read s).value? maxDepth

end LogFollow.Json
