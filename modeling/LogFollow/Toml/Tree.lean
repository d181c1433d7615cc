import LogFollow.Toml.Value

/-! # Tables under construction

The lines of a document add to a tree of tables. A table may be named once by a header, may be
implied by the headers of its parts, or may come from dotted keys, and each of these restricts what
later lines may add to it. -/

namespace LogFollow.Toml
set_option autoImplicit false

/-- How a table came about. -/
inductive Origin
  | header
  /-- Only as part of the path of another header. -/
  | implied
  | dotted
  deriving DecidableEq, Repr

inductive Node
  | leaf (v : Value)
  | table (origin : Origin) (entries : List (String × Node))
  /-- Tables that share a header in double brackets. -/
  | tables (items : List (List (String × Node)))

abbrev Entries := List (String × Node)

def node? (key : String) (entries : Entries) : Option Node :=
  (entries.find? (·.1 == key)).map (·.2)

def putNode (key : String) (n : Node) (entries : Entries) : Entries :=
  entries.filter (·.1 != key) ++ [(key, n)]

/-- Changes the table at the end of a path, making those on the way that are missing. Along a path
of dotted keys no table with a header is entered. -/
def changeAt (dotted : Bool) (change : Origin → Entries → Option Entries) :
    List String → Origin → Entries → Option Entries
  | [], origin, entries => change origin entries
  | key :: path, _, entries =>
    match node? key entries with
    | none => do
      let origin := if dotted then .dotted else .implied
      let inner ← changeAt dotted change path origin []
      some (putNode key (.table origin inner) entries)
    | some (.table origin inner) => do
      if dotted && origin == .header then none
      let inner ← changeAt dotted change path origin inner
      some (putNode key (.table origin inner) entries)
    | some (.tables items) => do
      let last ← items.getLast?
      let last ← changeAt dotted change path .header last
      some (putNode key (.tables (items.dropLast ++ [last])) entries)
    | some (.leaf _) => none

/-- Adds a value under dotted keys to a table. -/
def addValue (path : List String) (key : String) (v : Value) (origin : Origin)
    (entries : Entries) : Option Entries :=
  changeAt true (fun origin entries =>
    if (origin == .dotted) == path.isEmpty || (node? key entries).isSome then none
    else some (entries ++ [(key, .leaf v)])) path origin entries

def openTable (path : List String) (key : String) (root : Entries) : Option Entries :=
  changeAt false (fun _ entries =>
    match node? key entries with
    | none => some (entries ++ [(key, .table .header [])])
    | some (.table .implied inner) => some (putNode key (.table .header inner) entries)
    | _ => none) path .header root

def openTables (path : List String) (key : String) (root : Entries) : Option Entries :=
  changeAt false (fun _ entries =>
    match node? key entries with
    | none => some (entries ++ [(key, .tables [[]])])
    | some (.tables items) => some (putNode key (.tables (items ++ [[]])) entries)
    | _ => none) path .header root

mutual

def Node.value : Node → Value
  | .leaf v => v
  | .table _ entries => .table (entryValues entries)
  | .tables items => .array (tableValues items)

def entryValues : List (String × Node) → List (String × Value)
  | [] => []
  | (k, n) :: rest => (k, n.value) :: entryValues rest

def tableValues : List (List (String × Node)) → List Value
  | [] => []
  | entries :: rest => .table (entryValues entries) :: tableValues rest

end

end LogFollow.Toml
