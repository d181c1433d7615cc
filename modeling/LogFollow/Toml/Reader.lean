import LogFollow.Toml.Quoted
import LogFollow.Toml.Tree

/-! # Reading TOML

A document is read line by line into a tree of tables. Where any line is wrong there is no
document. -/

namespace LogFollow.Toml
set_option autoImplicit false

open Number

def dropBlanks (cs : List Char) : List Char := cs.dropWhile fun c => c == ' ' || c == '\t'

def dropComment : List Char → List Char
  | '#' :: cs => cs.dropWhile fun c => c == '\t' || 0x20 ≤ c.toNat
  | cs => cs

/-- Drops the rest of a line, which holds no more than a comment. -/
def endLine (cs : List Char) : Option (List Char) :=
  match dropComment (dropBlanks cs) with
  | [] => some []
  | cs => dropNewline cs

/-- Drops blanks, comments and line ends between the items of an array. -/
def dropGap : Nat → List Char → List Char
  | 0, cs => cs
  | fuel + 1, cs =>
    let rest := dropComment (dropBlanks cs)
    match dropNewline rest with
    | some rest => dropGap fuel rest
    | none => rest

def isBareKeyChar (c : Char) : Bool :=
  ('a' ≤ c && c ≤ 'z') || ('A' ≤ c && c ≤ 'Z') || isDigit c || c == '_' || c == '-'

def readSimpleKey (cs : List Char) : Option (String × List Char) :=
  match cs with
  | '"' :: rest => (readBasic (rest.length + 1) rest).map fun (k, rest) => (String.ofList k, rest)
  | '\'' :: rest => (readLiteral rest).map fun (k, rest) => (String.ofList k, rest)
  | cs =>
    let key := cs.takeWhile isBareKeyChar
    if key.isEmpty then none else some (String.ofList key, cs.dropWhile isBareKeyChar)

/-- How many keys may be joined by dots. -/
def maxKeys : Nat := 80

/-- Reads up to a number of keys joined by dots: those before the last, and the last. -/
def readKeys : Nat → List Char → Option ((List String × String) × List Char)
  | 0, _ => none
  | most + 1, cs => do
    let (key, rest) ← readSimpleKey (dropBlanks cs)
    match dropBlanks rest with
    | '.' :: rest =>
      let ((path, last), rest) ← readKeys most rest
      some ((key :: path, last), rest)
    | rest => some (([], key), rest)

def readKey (cs : List Char) : Option ((List String × String) × List Char) := readKeys maxKeys cs

/-- Whether a character may stand in a number, a date or a word. -/
def isTokenChar (c : Char) : Bool :=
  isBareKeyChar c || c == '+' || c == '.' || c == ':'

/-- Reads a token; a date and a time of day behind one blank are one token. -/
def readToken (cs : List Char) : Option (Value × List Char) := do
  let token := cs.takeWhile isTokenChar
  let rest := cs.dropWhile isTokenChar
  match rest with
  | ' ' :: a :: b :: ':' :: more =>
    if (date? token).any (·.2.isEmpty) && isDigit a && isDigit b then
      let clock := (a :: b :: ':' :: more).takeWhile isTokenChar
      some (← token? (token ++ ' ' :: clock), (a :: b :: ':' :: more).dropWhile isTokenChar)
    else some (← token? token, rest)
  | _ => some (← token? token, rest)

/-- How deep arrays and tables may stand inside of each other within one value. -/
def maxNesting : Nat := 79

mutual

def readValue : Nat → Nat → List Char → Option (Value × List Char)
  | 0, _, _ => none
  | fuel + 1, depth, cs =>
    match cs with
    | '[' :: rest =>
      if depth == 0 then none
      else (readItems fuel (depth - 1) rest).map fun (items, rest) => (.array items, rest)
    | '\x7b' :: rest =>
      if depth == 0 then none
      else
        match dropBlanks rest with
        | '\x7d' :: rest => some (.table [], rest)
        | rest => (readInline fuel (depth - 1) [] rest).map fun (entries, rest) =>
            (.table (entryValues entries), rest)
    | '"' :: _ | '\'' :: _ => (readText cs).map fun (s, rest) => (.string (String.ofList s), rest)
    | cs => readToken cs

/-- Reads the items of an array and its closing bracket. -/
def readItems : Nat → Nat → List Char → Option (List Value × List Char)
  | 0, _, _ => none
  | fuel + 1, depth, cs =>
    match dropGap cs.length cs with
    | ']' :: rest => some ([], rest)
    | cs => do
      let (item, rest) ← readValue fuel depth cs
      match dropGap rest.length rest with
      | ']' :: rest => some ([item], rest)
      | ',' :: rest =>
        let (items, rest) ← readItems fuel depth rest
        some (item :: items, rest)
      | _ => none

/-- Reads the entries of a table within a value and its closing brace. -/
def readInline : Nat → Nat → Entries → List Char → Option (Entries × List Char)
  | 0, _, _, _ => none
  | fuel + 1, depth, entries, cs => do
    let ((path, key), rest) ← readKey cs
    match rest with
    | '=' :: rest =>
      let (v, rest) ← readValue fuel depth (dropBlanks rest)
      let entries ← addValue path key v .header entries
      match dropBlanks rest with
      | '\x7d' :: rest => some (entries, rest)
      | ',' :: rest => readInline fuel depth entries rest
      | _ => none
    | _ => none

end

/-- A document so far: its tables, and the path of the table that lines now add to. -/
structure Document where
  root : Entries := []
  current : List String := []

def readLine (d : Document) (cs : List Char) : Option (Document × List Char) :=
  match cs with
  | '[' :: '[' :: rest => do
    let ((path, key), rest) ← readKey rest
    match rest with
    | ']' :: ']' :: rest => some (⟨← openTables path key d.root, path ++ [key]⟩, ← endLine rest)
    | _ => none
  | '[' :: rest => do
    let ((path, key), rest) ← readKey rest
    match rest with
    | ']' :: rest => some (⟨← openTable path key d.root, path ++ [key]⟩, ← endLine rest)
    | _ => none
  | cs => do
    let ((path, key), rest) ← readKey cs
    match rest with
    | '=' :: rest =>
      let (v, rest) ← readValue (2 * rest.length + 2) maxNesting (dropBlanks rest)
      let root ← changeAt false (addValue path key v) d.current .header d.root
      some ({ d with root := root }, ← endLine rest)
    | _ => none

def readDocument : Nat → Document → List Char → Option Document
  | 0, _, _ => none
  | fuel + 1, d, cs =>
    match dropGap cs.length cs with
    | [] => some d
    | cs => do
      let (d, rest) ← readLine d cs
      readDocument fuel d rest

/-- Reads a TOML text; a byte order mark may stand in front. -/
def read (s : String) : Option (List (String × Value)) :=
  let cs := match s.toList with
    | '\ufeff' :: cs => cs
    | cs => cs
  (readDocument (cs.length + 1) {} cs).map fun d => entryValues d.root

end LogFollow.Toml
