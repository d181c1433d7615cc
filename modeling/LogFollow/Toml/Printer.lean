import LogFollow.Toml.Reader

/-! # Writing TOML

Texts are written in the first form that fits: in double quotes, in single quotes, in three double
quotes, in three single quotes, and else with escapes. -/

namespace LogFollow.Toml
set_option autoImplicit false

/-- Whether a character is a control character that only an escape can write. -/
def isHidden (c : Char) : Bool :=
  (c.toNat < 0x20 && c != '\t' && c != '\n') || c.toNat == 0x7f

/-- Whether a list holds three times the same character in a row. -/
def hasTriple (q : Char) : List Char → Bool
  | a :: b :: c :: rest => (a == q && b == q && c == q) || hasTriple q (b :: c :: rest)
  | _ => false

/-- A text of several lines starts on a line of its own. -/
def lead (cs : List Char) : List Char := if cs.contains '\n' then ['\n'] else []

def upperHex (n : Nat) : Char := Char.ofNat (if n < 10 then n + 48 else n + 55)

/-- A character with escapes, where line ends may stand as they are or not. -/
def escaped (lines : Bool) (c : Char) : List Char :=
  if c == '\\' then ['\\', '\\']
  else if c == '\x08' then ['\\', 'b']
  else if c == '\x0c' then ['\\', 'f']
  else if c == '\r' then ['\\', 'r']
  else if c == '\t' then ['\\', 't']
  else if c == '\n' then if lines then ['\n'] else ['\\', 'n']
  else if c == '"' && !lines then ['\\', '"']
  else if isHidden c then ['\\', 'u', '0', '0', upperHex (c.toNat / 16), upperHex (c.toNat % 16)]
  else [c]

/-- Characters between three double quotes, with every third quote of a run escaped; `run` counts
the quotes just before. -/
def escapedLines (run : Nat) : List Char → List Char
  | [] => []
  | c :: cs =>
    if c == '"' then
      if run == 2 then '\\' :: '"' :: escapedLines 0 cs else '"' :: escapedLines (run + 1) cs
    else escaped true c ++ escapedLines 0 cs

/-- A tab is written by an escape between double quotes. -/
def tabbed (cs : List Char) : List Char :=
  cs.flatMap fun c => if c == '\t' then ['\\', 't'] else [c]

/-- A text in the first form that fits. -/
def textChars (cs : List Char) : List Char :=
  let hidden := cs.any isHidden
  let has := fun c => cs.contains c
  let block := ['"', '"', '"']
  let literalBlock := ['\'', '\'', '\'']
  if !hidden && !has '\\' && !has '"' && !has '\n' then '"' :: tabbed cs ++ ['"']
  else if !hidden && !has '\'' && !has '\n' then '\'' :: cs ++ ['\'']
  else if !hidden && !has '\\' && !hasTriple '"' cs then block ++ lead cs ++ tabbed cs ++ block
  else if !hidden && !hasTriple '\'' cs then literalBlock ++ lead cs ++ cs ++ literalBlock
  else if has '\n' then block ++ lead cs ++ escapedLines 0 cs ++ block
  else '"' :: cs.flatMap (escaped false) ++ ['"']

/-- A key in the first form that fits. -/
def keyChars (cs : List Char) : List Char :=
  let plain := !cs.any fun c => isHidden c || c == '\n'
  if !cs.isEmpty && cs.all isBareKeyChar then cs
  else if plain && !cs.contains '\\' && !cs.contains '"' then '"' :: tabbed cs ++ ['"']
  else if plain && !cs.contains '\'' then '\'' :: cs ++ ['\'']
  else '"' :: cs.flatMap (escaped false) ++ ['"']

def quote (s : String) : String := String.ofList (textChars s.toList)

def textLine (key value : String) : String :=
  String.ofList (keyChars key.toList) ++ " = " ++ quote value ++ "\n"

def numberLine (key : String) (n : Nat) : String :=
  String.ofList (keyChars key.toList) ++ s!" = {n}" ++ "\n"

end LogFollow.Toml
