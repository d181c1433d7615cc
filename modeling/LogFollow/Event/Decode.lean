import LogFollow.Event.Basic
import LogFollow.Json.Raw
import LogFollow.Text.Quoted

/-! # Reading events

An event comes as an object with the fields `timestamp`, `ingestionTime` and `message`, or as an
array of the three. From a JSON value it is read leniently: the ingestion time may be missing or
null, and other fields are passed over; what is wrong with a value is told by a `Defect`. From the
text of an event the three fields are all required. -/

namespace LogFollow.Event
set_option autoImplicit false

open Json

inductive Wanted
  | integer | text | event
  deriving DecidableEq, Repr

def Wanted.name : Wanted → String
  | .integer => "i64"
  | .text => "a string"
  | .event => "struct RawEvent"

/-- What is wrong with a value that is not an event. -/
inductive Defect
  | wrongType (found : Value) (wanted : Wanted)
  | outOfRange (n : Int)
  | missing (field : String)
  | tooShort (n : Nat)
  | tooLong (n : Nat)
  deriving Repr

def describe : Value → String
  | .null => "null"
  | .bool b => s!"boolean `{b}`"
  | .number (.int n) => s!"integer `{n}`"
  | .number (.float bits) => s!"floating point `{String.ofList (Number.floatText bits)}`"
  | .string s => s!"string {Text.quoted s}"
  | .array _ => "sequence"
  | .object _ => "map"

def Defect.reason : Defect → String
  | .wrongType found wanted => s!"invalid type: {describe found}, expected {wanted.name}"
  | .outOfRange n => s!"invalid value: integer `{n}`, expected {Wanted.integer.name}"
  | .missing field => s!"missing field `{field}`"
  | .tooShort n => s!"invalid length {n}, expected struct RawEvent with 3 elements"
  | .tooLong n => s!"invalid length {n}, expected fewer elements in array"

/-- A value that is not an event, and why. -/
structure Malformed where
  defect : Defect
  payload : Value
  deriving Repr

def Malformed.message (m : Malformed) : String :=
  s!"malformed log event ({m.defect.reason}): {m.payload.text}"

def integerOf : Value → Except Defect Int
  | .number (.int n) => if Number.isSigned n then .ok n else .error (.outOfRange n)
  | v => .error (.wrongType v .integer)

/-- A signed 64-bit number, zero for null. -/
def ingestionOf : Value → Except Defect Int
  | .null => .ok 0
  | v => integerOf v

def messageOf : Value → Except Defect String
  | .string s => .ok s
  | v => .error (.wrongType v .text)

def field? {α : Type} (read : Value → Except Defect α) (key : String)
    (entries : List (String × Value)) : Except Defect (Option α) :=
  match valueAt? key entries with
  | none => .ok none
  | some v => (read v).map some

/-- Reads an event from the entries of an object. The fields that are there are read in the order
of their keys before any is missed. -/
def ofEntries (entries : List (String × Value)) : Except Defect Event := do
  let ingestion ← field? ingestionOf "ingestionTime" entries
  let message ← field? messageOf "message" entries
  let timestamp ← field? integerOf "timestamp" entries
  match timestamp, message with
  | none, _ => .error (.missing "timestamp")
  | _, none => .error (.missing "message")
  | some t, some m => .ok ⟨t, ingestion.getD 0, m⟩

def ofItems : List Value → Except Defect Event
  | [] => .error (.tooShort 0)
  | t :: rest => do
    let timestamp ← integerOf t
    match rest with
    | [] => .error (.tooShort 2)
    | i :: rest => do
      let ingestion ← ingestionOf i
      match rest with
      | [] => .error (.tooShort 2)
      | m :: rest => do
        let message ← messageOf m
        if rest.isEmpty then .ok ⟨timestamp, ingestion, message⟩
        else .error (.tooLong (rest.length + 3))

def ofValue (v : Value) : Except Malformed Event :=
  let read := match v with
    | .object entries => ofEntries entries
    | .array items => ofItems items
    | v => .error (.wrongType v .event)
  read.mapError fun defect => ⟨defect, v⟩

def integerOfRaw : Raw → Option Int
  | .number n =>
    match n.num? with
    | some (.int n) => if Number.isSigned n then some n else none
    | _ => none
  | _ => none

def messageOfRaw : Raw → Option String
  | .string pieces => text? pieces
  | _ => none

/-- Reads an event from a tree: an object with each of the three fields once, or an array of the
three. -/
def ofRaw : Raw → Option Event
  | .array [t, i, m] => do some ⟨← integerOfRaw t, ← integerOfRaw i, ← messageOfRaw m⟩
  | .object entries => do
    let named ← entries.mapM fun (key, value) => (text? key).map (·, value)
    let single := fun key => match named.filter (·.1 == key) with
      | [(_, value)] => some value
      | _ => none
    some ⟨← integerOfRaw (← single "timestamp"), ← integerOfRaw (← single "ingestionTime"),
      ← messageOfRaw (← single "message")⟩
  | _ => none

def read (s : String) : Option Event := do ofRaw (← Raw.read s)

end LogFollow.Event
