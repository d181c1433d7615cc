import LogFollow.Config.Setting
import LogFollow.Failure
import LogFollow.Toml.Printer

/-! # The configuration file

The configuration is kept in a TOML file. A file that is not valid TOML, or that holds a value of a
wrong type, counts as empty; unknown keys are passed over, and values are not checked further. -/

namespace LogFollow
set_option autoImplicit false

/-- What is in the place of the configuration file. -/
inductive ConfigFile
  | absent
  | text (s : String)
  | undecodable
  deriving DecidableEq, Repr

/-- What the bytes of the file are read as; an absent file has none. -/
def ConfigFile.ofContents : Option ByteArray → ConfigFile
  | none => .absent
  | some bytes =>
    match String.fromUTF8? bytes with
    | some s => .text s
    | none => .undecodable

namespace Config

open Toml (Value)

/-- The fields of a table, in the order of their declaration; an array gives them by position, and
a date is a table with one field of its own. -/
def fields? (names : List String) : Value → Option (List (String × Value))
  | .table entries => some entries
  | .array items => some (names.zip items)
  | .moment _ => some []
  | _ => none

/-- The field of a table, read by `read`; a missing one has a default. -/
def field? {α : Type} (read : Value → Option α) (default : α) (key : String)
    (entries : List (String × Value)) : Option α :=
  match Json.valueAt? key entries with
  | none => some default
  | some v => read v

def natOf : Value → Option Nat
  | .integer n => if 0 ≤ n then some n.toNat else none
  | _ => none

def textOf : Value → Option String
  | .string s => some s
  | _ => none

def headersOf : Value → Option (List (String × String))
  | .table entries => do
    let texts ← entries.mapM fun (k, v) => (textOf v).map (k, ·)
    some (Json.sortEntries texts)
  | .moment text => some [("$__toml_private_datetime", text)]
  | _ => none

def keysOf (v : Value) : Option (Action → String) := do
  let entries ← fields? (Action.all.map Action.name) v
  let names ← Action.all.mapM fun a =>
    (field? textOf a.defaultKey a.name entries).map fun name => (a, name)
  some fun a => ((names.find? (·.1 == a)).map (·.2)).getD a.defaultKey

def ofTables (root : List (String × Value)) : Option Config := do
  let d : Config := {}
  let stream ← field? (fields? ["poll_interval_ms", "channel_capacity"]) [] "stream" root
  let query ← field? (fields? ["mode", "limit"]) [] "query" root
  let ui ← field? (fields? ["buffer_size", "theme", "tick_rate_ms"]) [] "ui" root
  let backend ← field? (fields? ["endpoint", "headers"]) [] "backend" root
  some
    { logGroup := ← field? (fun v => (textOf v).map some) none "log_group" root
      pollInterval := ← field? natOf d.pollInterval "poll_interval_ms" stream
      channelCapacity := ← field? natOf d.channelCapacity "channel_capacity" stream
      queryMode := ← field? textOf d.queryMode "mode" query
      queryLimit := ← field? natOf d.queryLimit "limit" query
      bufferSize := ← field? natOf d.bufferSize "buffer_size" ui
      theme := ← field? textOf d.theme "theme" ui
      tickRate := ← field? natOf d.tickRate "tick_rate_ms" ui
      keys := ← field? keysOf d.keys "keymap" root
      endpoint := ← field? textOf d.endpoint "endpoint" backend
      headers := ← field? headersOf [] "headers" backend }

def ofText? (s : String) : Option Config := Toml.read s >>= ofTables

def numbers (c : Config) : List Nat :=
  [c.pollInterval, c.channelCapacity, c.queryLimit, c.bufferSize, c.tickRate]

def fileText (c : Config) : String :=
  (match c.logGroup with
    | some group => Toml.textLine "log_group" group ++ "\n"
    | none => "")
    ++ "[stream]\n" ++ Toml.numberLine "poll_interval_ms" c.pollInterval
    ++ Toml.numberLine "channel_capacity" c.channelCapacity
    ++ "\n[query]\n" ++ Toml.textLine "mode" c.queryMode ++ Toml.numberLine "limit" c.queryLimit
    ++ "\n[ui]\n" ++ Toml.numberLine "buffer_size" c.bufferSize ++ Toml.textLine "theme" c.theme
    ++ Toml.numberLine "tick_rate_ms" c.tickRate
    ++ "\n[keymap]\n" ++ String.join (Action.all.map fun a => Toml.textLine a.name (c.keys a))
    ++ "\n[backend]\n" ++ Toml.textLine "endpoint" c.endpoint
    ++ "\n[backend.headers]\n" ++ String.join (c.headers.map fun h => Toml.textLine h.1 h.2)

/-- What reading the file gives: the configuration, or a failure, and whether a warning is due
because the text is no configuration. -/
def load : ConfigFile → Except Failure (Config × Bool)
  | .absent => .ok ({}, false)
  | .undecodable =>
    .error ⟨"Failed to read config file", ["stream did not contain valid UTF-8"]⟩
  | .text s =>
    match ofText? s with
    | some c => .ok (c, false)
    | none => .ok ({}, true)

/-- The file after saving a configuration. A TOML number is a signed one, so a greater number
cannot be saved. -/
def save (c : Config) : Except Failure ConfigFile :=
  if c.numbers.all fun n => (n : Int) ≤ Number.maxSigned then .ok (.text c.fileText)
  else .error ⟨"Failed to serialize config", ["out-of-range value for u64 type"]⟩

end Config
end LogFollow
