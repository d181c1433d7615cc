import LogFollow.Number.Bounded

/-! # JSON values

A number is an integer of 64 bits, signed or unsigned, or else a finite number of double precision.
An object keeps its entries in increasing order of their keys, each key once. -/

namespace LogFollow.Json
set_option autoImplicit false

/-- A number: an integer, or the bit pattern of a finite number of double precision. -/
inductive Num
  | int (n : Int)
  | float (bits : UInt64)
  deriving DecidableEq, Repr

inductive Value
  | null
  | bool (b : Bool)
  | number (n : Num)
  | string (s : String)
  | array (items : List Value)
  | object (entries : List (String × Value))
  deriving Repr

/-- Puts an entry in its place among entries ordered by key, over an older one with that key. -/
def insertEntry {α : Type} (key : String) (value : α) : List (String × α) → List (String × α)
  | [] => [(key, value)]
  | (k, v) :: rest =>
    if key < k then (key, value) :: (k, v) :: rest
    else if key = k then (key, value) :: rest
    else (k, v) :: insertEntry key value rest

/-- The entries of an object, in order of their keys; the last one with a key counts. -/
def sortEntries {α : Type} (entries : List (String × α)) : List (String × α) :=
  entries.foldl (fun sorted (k, v) => insertEntry k v sorted) []

def valueAt? {α : Type} (key : String) (entries : List (String × α)) : Option α :=
  (entries.find? (·.1 == key)).map (·.2)

end LogFollow.Json
