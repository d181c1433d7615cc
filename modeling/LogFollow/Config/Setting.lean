import LogFollow.Config.Basic
import LogFollow.Json.Value
import LogFollow.Keys.Name
import LogFollow.Text.Infix

/-! # Settings

Each part of the configuration is a setting with a name. A setting is read and changed as text;
a change is refused when the text does not fit, and then nothing changes. -/

namespace LogFollow
set_option autoImplicit false

inductive Setting
  | logGroup
  | pollInterval
  | channelCapacity
  | queryMode
  | queryLimit
  | bufferSize
  | theme
  | tickRate
  | key (a : Action)
  | endpoint
  | header (name : String)
  deriving DecidableEq, Repr

namespace Setting

/-- The settings that are always there, in the order in which they are shown. -/
def fixed : List Setting :=
  [.logGroup, .pollInterval, .channelCapacity, .queryMode, .queryLimit, .bufferSize, .theme,
    .tickRate] ++ Action.all.map .key ++ [.endpoint]

def headerStart : String := "backend.headers."

def name : Setting → String
  | .logGroup => "log_group"
  | .pollInterval => "stream.poll_interval_ms"
  | .channelCapacity => "stream.channel_capacity"
  | .queryMode => "query.mode"
  | .queryLimit => "query.limit"
  | .bufferSize => "ui.buffer_size"
  | .theme => "ui.theme"
  | .tickRate => "ui.tick_rate_ms"
  | .key a => "keymap." ++ a.name
  | .endpoint => "backend.endpoint"
  | .header h => headerStart ++ h

def ofName? (name : String) : Option Setting :=
  match fixed.find? (·.name == name) with
  | some s => some s
  | none => (Text.afterPrefix headerStart.toList name.toList).map fun h => .header (String.ofList h)

end Setting

inductive ConfigError
  | invalidPollInterval (text : String)
  | pollIntervalTooShort (n : Nat)
  | invalidCapacity (text : String)
  | zeroCapacity
  | invalidMode (text : String)
  | invalidLimit (text : String)
  | limitOutOfRange (n : Nat)
  | invalidBufferSize (text : String)
  | zeroBufferSize
  | invalidTheme (text : String)
  | invalidTickRate (text : String)
  | unknownKey (text : String)
  | invalidEndpoint (text : String)
  | unknownSetting (name : String) (known : List String)
  | notFound (name : String)
  deriving DecidableEq, Repr

def ConfigError.message : ConfigError → String
  | .invalidPollInterval s => s!"Invalid poll interval: '{s}'. Must be a positive integer (milliseconds)"
  | .pollIntervalTooShort n => s!"Poll interval must be at least 100ms (got: {n})"
  | .invalidCapacity s => s!"Invalid channel capacity: '{s}'. Must be a positive integer"
  | .zeroCapacity => "Channel capacity must be at least 1"
  | .invalidMode s => s!"Invalid query mode: '{s}'. Valid modes: backend, local"
  | .invalidLimit s => s!"Invalid query limit: '{s}'. Must be an integer"
  | .limitOutOfRange n => s!"Query limit must be between 1 and {maxQueryLimit} (got: {n})"
  | .invalidBufferSize s => s!"Invalid buffer_size value: '{s}'. Must be an integer."
  | .zeroBufferSize => "Buffer size must be at least 1"
  | .invalidTheme s => s!"Invalid theme: '{s}'. Valid themes: dark, light, auto"
  | .invalidTickRate s => s!"Invalid tick rate: '{s}'. Must be a positive integer"
  | .unknownKey s => Chord.unknown s
  | .invalidEndpoint s => s!"Invalid endpoint: '{s}'. Must be a valid HTTP/HTTPS URL"
  | .unknownSetting name known =>
    s!"Unknown configuration key: '{name}'. Available keys: " ++ String.intercalate ", " known
  | .notFound name => s!"Configuration key not found: {name}"

namespace Config

def settings (c : Config) : List Setting := Setting.fixed ++ c.headers.map fun h => .header h.1

def get (c : Config) : Setting → Except ConfigError String
  | .logGroup => .ok (c.logGroup.getD "<not-set>")
  | .pollInterval => .ok (toString c.pollInterval)
  | .channelCapacity => .ok (toString c.channelCapacity)
  | .queryMode => .ok c.queryMode
  | .queryLimit => .ok (toString c.queryLimit)
  | .bufferSize => .ok (toString c.bufferSize)
  | .theme => .ok c.theme
  | .tickRate => .ok (toString c.tickRate)
  | .key a => .ok (c.keys a)
  | .endpoint => .ok c.endpoint
  | .header h =>
    match Json.valueAt? h c.headers with
    | some v => .ok v
    | none => .error (.notFound (Setting.header h).name)

def getNamed (c : Config) (name : String) : Except ConfigError String :=
  match Setting.ofName? name with
  | some s => c.get s
  | none => .error (.notFound name)

def number (error : String → ConfigError) (text : String) : Except ConfigError Nat :=
  match Number.readUnsigned Number.maxUnsigned text with
  | .ok n => .ok n
  | .error _ => .error (error text)

/-- A word in lower case, if it is one of the allowed ones. -/
def word (error : String → ConfigError) (allowed : List String) (text : String) :
    Except ConfigError String :=
  let lower := Text.lowercase text
  if allowed.contains lower then .ok lower else .error (error text)

def set (c : Config) (s : Setting) (text : String) : Except ConfigError Config :=
  match s with
  | .logGroup => .ok { c with logGroup := if text == "" then none else some text }
  | .pollInterval => do
    let n ← number .invalidPollInterval text
    if n < 100 then .error (.pollIntervalTooShort n) else .ok { c with pollInterval := n }
  | .channelCapacity => do
    let n ← number .invalidCapacity text
    if n == 0 then .error .zeroCapacity else .ok { c with channelCapacity := n }
  | .queryMode => do
    let w ← word .invalidMode ["backend", "local"] text
    .ok { c with queryMode := w }
  | .queryLimit => do
    let n ← number .invalidLimit text
    if n == 0 || maxQueryLimit < n then .error (.limitOutOfRange n)
    else .ok { c with queryLimit := n }
  | .bufferSize => do
    let n ← number .invalidBufferSize text
    if n == 0 then .error .zeroBufferSize else .ok { c with bufferSize := n }
  | .theme => do
    let w ← word .invalidTheme ["dark", "light", "auto"] text
    .ok { c with theme := w }
  | .tickRate => do
    let n ← number .invalidTickRate text
    if n == 0 then .error (.invalidTickRate text) else .ok { c with tickRate := n }
  | .key a =>
    match Chord.ofName? text with
    | none => .error (.unknownKey text)
    | some _ => .ok { c with keys := fun b => if b = a then text else c.keys b }
  | .endpoint =>
    if "http://".toList.isPrefixOf text.toList || "https://".toList.isPrefixOf text.toList then
      .ok { c with endpoint := text }
    else .error (.invalidEndpoint text)
  | .header h =>
    .ok { c with
      headers := if text == "" then c.headers.filter (·.1 != h)
        else Json.insertEntry h text c.headers }

def setNamed (c : Config) (name text : String) : Except ConfigError Config :=
  match Setting.ofName? name with
  | some s => c.set s text
  | none => .error (.unknownSetting name (c.settings.map Setting.name))

/-- All names with their values, those without a value left out. -/
def pairs (c : Config) : List (String × String) :=
  c.settings.filterMap fun s => match c.get s with
    | .ok v => some (s.name, v)
    | .error _ => none

def padTo (width : Nat) (s : String) : String :=
  s ++ String.ofList (List.replicate (width - s.toList.length) ' ')

/-- The configuration as it is shown, one setting a line and then the place of its file. Names are
filled up to the bytes of the longest. -/
def display (c : Config) (path : String) : String :=
  let width := (c.settings.map fun s => s.name.utf8ByteSize).foldl max 0
  String.join (c.pairs.map fun (k, v) => padTo width k ++ " = " ++ v ++ "\n")
    ++ s!"\nConfig file: {path}\n"

end Config
end LogFollow
