import LogFollow.Time.Calendar
import LogFollow.Number.Bounded

/-! # TOML values

Numbers, texts, dates, arrays and tables, and the rules for the tokens that stand for numbers and
dates. -/

namespace LogFollow.Toml
set_option autoImplicit false

open Number

/-- A TOML value. A date or time is kept as its text; a float is only known to be one. -/
inductive Value
  | string (s : String)
  | integer (n : Int)
  | float
  | bool (b : Bool)
  | moment (text : String)
  | array (items : List Value)
  | table (entries : List (String × Value))
  deriving Repr

def isDigitOf (base : Nat) (c : Char) : Bool :=
  if base == 16 then isDigit c || ('a' ≤ c && c ≤ 'f') || ('A' ≤ c && c ≤ 'F')
  else isDigit c && digitValue c < base

def hexDigitValue (c : Char) : Nat :=
  if isDigit c then digitValue c else if 'a' ≤ c then c.toNat - 87 else c.toNat - 55

/-- The digits of a number whose underscores each stand between two digits. -/
def digitsOf (base : Nat) (afterDigit : Bool) : List Char → Option (List Char)
  | [] => if afterDigit then some [] else none
  | '_' :: cs => if afterDigit && !cs.isEmpty then digitsOf base false cs else none
  | c :: cs => if isDigitOf base c then (digitsOf base true cs).map (c :: ·) else none

def valueOf (base : Nat) (digits : List Char) : Nat :=
  digits.foldl (fun n c => n * base + hexDigitValue c) 0

def signed (n : Int) : Option Int := if isSigned n then some n else none

/-- A sign in front of a numeral, and the rest. -/
def splitSign : List Char → Int × List Char
  | '+' :: cs => (1, cs)
  | '-' :: cs => (-1, cs)
  | cs => (1, cs)

/-- The digits of a decimal numeral: no zero stands before other digits. -/
def decimalDigits (cs : List Char) : Option (List Char) := do
  let digits ← digitsOf 10 false cs
  if digits.head? == some '0' && digits.length != 1 then none else some digits

def integer? (cs : List Char) : Option Int :=
  match cs with
  | '0' :: 'x' :: digits => do signed (valueOf 16 (← digitsOf 16 false digits))
  | '0' :: 'o' :: digits => do signed (valueOf 8 (← digitsOf 8 false digits))
  | '0' :: 'b' :: digits => do signed (valueOf 2 (← digitsOf 2 false digits))
  | cs => do
    let (sign, digits) := splitSign cs
    signed (sign * valueOf 10 (← decimalDigits digits))

/-- Whether `digits · 10 ^ scale` is too great for a number of double precision: it rounds to the
next power of two after the greatest one. -/
def isOverlarge (digits : List Char) (scale : Int) : Bool :=
  let significant := digits.dropWhile (· == '0')
  let places := (significant.length : Int) + scale
  if significant.isEmpty || places < 309 then false
  else if 309 < places then true
  else
    let n := digitsValue significant * Nat.pow 10 scale.toNat
    (Nat.pow 2 1024 - Nat.pow 2 970) * Nat.pow 10 (-scale).toNat ≤ n

/-- Whether a token is a float. An infinite one is written as such, so a numeral above all finite
numbers is none. -/
def isFloat (cs : List Char) : Bool :=
  let (sign, unsigned) := splitSign cs
  if unsigned == ['i', 'n', 'f'] || unsigned == ['n', 'a', 'n'] then true
  else
    let isExponent := fun c => c == 'e' || c == 'E'
    let mantissa := unsigned.takeWhile (!isExponent ·)
    let exponent := unsigned.dropWhile (!isExponent ·)
    let whole := mantissa.takeWhile (· != '.')
    let fraction := mantissa.dropWhile (· != '.')
    let (tilt, power) := splitSign (exponent.drop 1)
    let numeral? := do
      if fraction.isEmpty && exponent.isEmpty then none
      let whole ← decimalDigits whole
      let places ← if fraction.isEmpty then some [] else digitsOf 10 false (fraction.drop 1)
      let power ← if exponent.isEmpty then some [] else digitsOf 10 false power
      some (whole ++ places, tilt * digitsValue power - places.length)
    match numeral? with
    | some (digits, scale) => !(sign == 1 && isOverlarge digits scale)
    | none => false

/-- Reads two digits of a value up to `most`. -/
def twoDigits (most : Nat) : List Char → Option (Nat × List Char)
  | a :: b :: cs =>
    let n := digitsValue [a, b]
    if isDigit a && isDigit b && n ≤ most then some (n, cs) else none
  | _ => none

def date? (cs : List Char) : Option (List Char × List Char) :=
  match cs with
  | a :: b :: c :: d :: '-' :: rest => do
    if !([a, b, c, d].all isDigit) then none
    match ← twoDigits 12 rest with
    | (month, '-' :: rest) =>
      let (day, rest) ← twoDigits 31 rest
      if (Time.Date.mk (digitsValue [a, b, c, d]) month day).isValid then
        some (cs.take 10, rest)
      else none
    | _ => none
  | _ => none

/-- Reads a time of day and gives its text; places behind the ninth are dropped, and so are zeros
at the end. -/
def clock? (cs : List Char) : Option (List Char × List Char) := do
  match ← twoDigits 23 cs with
  | (_, ':' :: rest) =>
    match ← twoDigits 59 rest with
    | (_, ':' :: rest) =>
      let (_, rest) ← twoDigits 60 rest
      match rest with
      | '.' :: rest =>
        let places := rest.takeWhile isDigit
        if places.isEmpty then none
        else
          let kept := ((places.take 9).reverse.dropWhile (· == '0')).reverse
          some (cs.take 8 ++ (if kept.isEmpty then [] else '.' :: kept), rest.dropWhile isDigit)
      | rest => some (cs.take 8, rest)
    | _ => none
  | _ => none

def zone? (cs : List Char) : Option (List Char) :=
  match cs with
  | [] => some []
  | ['Z'] | ['z'] => some ['Z']
  | sign :: rest => do
    if sign != '+' && sign != '-' then none
    match ← twoDigits 23 rest with
    | (_, ':' :: rest) =>
      let (_, rest) ← twoDigits 59 rest
      if !rest.isEmpty then none
      else some (if cs.all fun c => !isDigit c || c == '0' then '+' :: cs.drop 1 else cs)
    | _ => none

/-- The date, the time of day, or both, that a token stands for. -/
def moment? (cs : List Char) : Option String :=
  match date? cs with
  | some (date, []) => some (String.ofList date)
  | some (date, sep :: rest) => do
    if sep != 'T' && sep != 't' && sep != ' ' then none
    let (clock, rest) ← clock? rest
    some (String.ofList (date ++ 'T' :: clock ++ (← zone? rest)))
  | none => do
    let (clock, rest) ← clock? cs
    if rest.isEmpty then some (String.ofList clock) else none

def token? (cs : List Char) : Option Value :=
  if cs == ['t', 'r', 'u', 'e'] then some (.bool true)
  else if cs == ['f', 'a', 'l', 's', 'e'] then some (.bool false)
  else match moment? cs with
    | some text => some (.moment text)
    | none =>
      match integer? cs with
      | some n => some (.integer n)
      | none => if isFloat cs then some .float else none

end LogFollow.Toml
