import LogFollow.Config.Setting

/-! # Settings changed in place

A configuration in use is changed in place, one setting a call. Nothing is undone when a call
fails, so each call has to look at its text before it writes. -/

namespace LogFollow.Config
set_option autoImplicit false

/-- A change in place that may fail. What is written before a failure stays written. -/
abbrev Edit := EStateM ConfigError Config Unit

def assign (s : Setting) (text : String) : Edit :=
  match s with
  | .logGroup => modify fun c => { c with logGroup := if text == "" then none else some text }
  | .pollInterval => do
    let n ← ofExcept (number .invalidPollInterval text)
    if n < 100 then throw (.pollIntervalTooShort n)
    modify fun c => { c with pollInterval := n }
  | .channelCapacity => do
    let n ← ofExcept (number .invalidCapacity text)
    if n == 0 then throw .zeroCapacity
    modify fun c => { c with channelCapacity := n }
  | .queryMode => do
    let w ← ofExcept (word .invalidMode ["backend", "local"] text)
    modify fun c => { c with queryMode := w }
  | .queryLimit => do
    let n ← ofExcept (number .invalidLimit text)
    if n == 0 || maxQueryLimit < n then throw (.limitOutOfRange n)
    modify fun c => { c with queryLimit := n }
  | .bufferSize => do
    let n ← ofExcept (number .invalidBufferSize text)
    if n == 0 then throw .zeroBufferSize
    modify fun c => { c with bufferSize := n }
  | .theme => do
    let w ← ofExcept (word .invalidTheme ["dark", "light", "auto"] text)
    modify fun c => { c with theme := w }
  | .tickRate => do
    let n ← ofExcept (number .invalidTickRate text)
    if n == 0 then throw (.invalidTickRate text)
    modify fun c => { c with tickRate := n }
  | .key a => do
    if (Chord.ofName? text).isNone then throw (.unknownKey text)
    modify fun c => { c with keys := fun b => if b = a then text else c.keys b }
  | .endpoint => do
    if !"http://".toList.isPrefixOf text.toList && !"https://".toList.isPrefixOf text.toList then
      throw (.invalidEndpoint text)
    modify fun c => { c with endpoint := text }
  | .header h =>
    if text == "" then modify fun c => { c with headers := c.headers.filter (·.1 != h) }
    else modify fun c => { c with headers := Json.insertEntry h text c.headers }

def assignNamed (name text : String) : Edit :=
  match Setting.ofName? name with
  | some s => assign s text
  | none => do
    let c ← getThe Config
    throw (.unknownSetting name (c.settings.map Setting.name))

/-- What a call leaves behind, whether it failed or not. -/
def afterCall (c : Config) (call : String × String) : Config :=
  match (assignNamed call.1 call.2).run c with
  | .ok _ c => c
  | .error _ c => c

/-- The configuration after some calls, each with the name of a setting and a text. -/
def afterCalls (c : Config) (calls : List (String × String)) : Config := calls.foldl afterCall c

end LogFollow.Config
