import LogFollow.Text.CharSet

/-! # White space

The characters with the Unicode property of white space, and trimming of texts by it. -/

namespace LogFollow.Text
set_option autoImplicit false

/-- The characters with the property White_Space. -/
def whiteSpace : CharSet where
  toggles := #[
    0x9, 0xe, 0x20, 0x21, 0x85, 0x86, 0xa0, 0xa1, 0x1680, 0x1681,
    0x2000, 0x200b, 0x2028, 0x202a, 0x202f, 0x2030, 0x205f, 0x2060, 0x3000, 0x3001]

def isBlank (c : Char) : Bool := whiteSpace.contains c

/-- A list without the leading and trailing characters that satisfy `p`. -/
def trimList (p : Char → Bool) (cs : List Char) : List Char :=
  ((cs.dropWhile p).reverse.dropWhile p).reverse

def trim (s : String) : String := String.ofList (trimList isBlank s.toList)

def trimEnd (c : Char) (s : String) : String :=
  String.ofList (s.toList.reverse.dropWhile (· == c)).reverse

end LogFollow.Text
