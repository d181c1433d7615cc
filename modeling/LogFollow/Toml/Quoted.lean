import LogFollow.Toml.Value

/-! # Quoted texts of TOML

Four forms of text: on one line or on several, with escapes or taken as they stand. -/

namespace LogFollow.Toml
set_option autoImplicit false

/-- Whether a character may stand in a text, apart from quotes, backslashes and line ends. -/
def isTextChar (c : Char) : Bool := c == '\t' || (0x20 ≤ c.toNat && c.toNat != 0x7f)

/-- The character of a code point given by hexadecimal digits. -/
def codePoint? (digits : List Char) : Option Char :=
  let n := valueOf 16 digits
  if digits.all (isDigitOf 16) && n.isValidChar then some (Char.ofNat n) else none

/-- Reads what stands behind a backslash. -/
def escape? : List Char → Option (Char × List Char)
  | 'b' :: cs => some ('\x08', cs)
  | 't' :: cs => some ('\t', cs)
  | 'n' :: cs => some ('\n', cs)
  | 'f' :: cs => some ('\x0c', cs)
  | 'r' :: cs => some ('\r', cs)
  | '"' :: cs => some ('"', cs)
  | '\\' :: cs => some ('\\', cs)
  | 'u' :: a :: b :: c :: d :: cs => (codePoint? [a, b, c, d]).map (·, cs)
  | 'U' :: a :: b :: c :: d :: e :: f :: g :: h :: cs =>
    (codePoint? [a, b, c, d, e, f, g, h]).map (·, cs)
  | _ => none

/-- Reads the rest of a text with escapes on one line. -/
def readBasic : Nat → List Char → Option (List Char × List Char)
  | 0, _ => none
  | _ + 1, [] => none
  | _ + 1, '"' :: cs => some ([], cs)
  | fuel + 1, '\\' :: cs => do
    let (c, cs) ← escape? cs
    let (text, rest) ← readBasic fuel cs
    some (c :: text, rest)
  | fuel + 1, c :: cs =>
    if isTextChar c then do
      let (text, rest) ← readBasic fuel cs
      some (c :: text, rest)
    else none

/-- Reads the rest of a text without escapes on one line. -/
def readLiteral : List Char → Option (List Char × List Char)
  | [] => none
  | '\'' :: cs => some ([], cs)
  | c :: cs =>
    if isTextChar c then do
      let (text, rest) ← readLiteral cs
      some (c :: text, rest)
    else none

def dropNewline : List Char → Option (List Char)
  | '\n' :: cs => some cs
  | '\r' :: '\n' :: cs => some cs
  | _ => none

def dropLines : List Char → List Char
  | ' ' :: cs => dropLines cs
  | '\t' :: cs => dropLines cs
  | '\n' :: cs => dropLines cs
  | '\r' :: '\n' :: cs => dropLines cs
  | cs => cs

/-- The quotes at the end of a text of several lines: all but the last three belong to it. -/
def closing (quote : Char) (cs : List Char) : Option (List Char × List Char) :=
  let quotes := cs.takeWhile (· == quote)
  if quotes.length < 3 then none
  else
    let own := min 2 (quotes.length - 3)
    some (List.replicate own quote, cs.drop (own + 3))

/-- Reads the rest of a text of several lines, with escapes or without. -/
def readLines (quote : Char) : Nat → List Char → Option (List Char × List Char)
  | 0, _ => none
  | _ + 1, [] => none
  | fuel + 1, c :: cs =>
    if c == quote then
      match closing quote (c :: cs) with
      | some found => some found
      | none => do
        let (text, rest) ← readLines quote fuel cs
        some (c :: text, rest)
    else if c == '\\' && quote == '"' then
      match dropNewline (cs.dropWhile fun c => c == ' ' || c == '\t') with
      | some cs => readLines quote fuel (dropLines cs)
      | none => do
        let (c, cs) ← escape? cs
        let (text, rest) ← readLines quote fuel cs
        some (c :: text, rest)
    else
      match dropNewline (c :: cs) with
      | some cs => do
        let (text, rest) ← readLines quote fuel cs
        some ('\n' :: text, rest)
      | none =>
        if isTextChar c then do
          let (text, rest) ← readLines quote fuel cs
          some (c :: text, rest)
        else none

/-- Reads the rest of a text of several lines; a line end right behind the opening quotes is not
part of it. -/
def readBlock (quote : Char) (cs : List Char) : Option (List Char × List Char) :=
  let cs := (dropNewline cs).getD cs
  readLines quote (cs.length + 1) cs

def readText : List Char → Option (List Char × List Char)
  | '"' :: '"' :: '"' :: cs => readBlock '"' cs
  | '\'' :: '\'' :: '\'' :: cs => readBlock '\'' cs
  | '"' :: cs => readBasic (cs.length + 1) cs
  | '\'' :: cs => readLiteral cs
  | _ => none

end LogFollow.Toml
