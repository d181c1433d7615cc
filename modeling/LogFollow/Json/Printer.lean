import LogFollow.Json.Value
import LogFollow.Number.Shortest

/-! # JSON text

Values are written without blanks. In a string only quotes, backslashes and control characters
below the space are escaped. -/

namespace LogFollow.Json
set_option autoImplicit false

def hexDigit (n : Nat) : Char := Nat.digitChar n

def escapeChar (c : Char) : List Char :=
  if c == '"' then ['\\', '"']
  else if c == '\\' then ['\\', '\\']
  else if c == '\x08' then ['\\', 'b']
  else if c == '\x0c' then ['\\', 'f']
  else if c == '\n' then ['\\', 'n']
  else if c == '\r' then ['\\', 'r']
  else if c == '\t' then ['\\', 't']
  else if c.toNat < 0x20 then
    ['\\', 'u', '0', '0', hexDigit (c.toNat / 16), hexDigit (c.toNat % 16)]
  else [c]

def stringChars (s : String) : List Char := '"' :: s.toList.flatMap escapeChar ++ ['"']

def Num.chars : Num → List Char
  | .int n => (toString n).toList
  | .float bits => Number.floatText bits

mutual

def Value.chars : Value → List Char
  | .null => ['n', 'u', 'l', 'l']
  | .bool true => ['t', 'r', 'u', 'e']
  | .bool false => ['f', 'a', 'l', 's', 'e']
  | .number n => n.chars
  | .string s => stringChars s
  | .array items => '[' :: itemsChars items
  | .object entries => '\x7b' :: entriesChars entries

/-- The items of an array and its closing bracket. -/
def itemsChars : List Value → List Char
  | [] => [']']
  | [v] => v.chars ++ [']']
  | v :: w :: rest => v.chars ++ ',' :: itemsChars (w :: rest)

/-- The entries of an object and its closing brace. -/
def entriesChars : List (String × Value) → List Char
  | [] => ['\x7d']
  | [(k, v)] => stringChars k ++ ':' :: v.chars ++ ['\x7d']
  | (k, v) :: e :: rest => stringChars k ++ ':' :: v.chars ++ ',' :: entriesChars (e :: rest)

end

def Value.text (v : Value) : String := String.ofList v.chars

end LogFollow.Json
