import LogFollow.CommandLine.Arguments

/-! # Reading the command line

The words are read from left to right. The value of an option is looked at once the next option is
met or the words end, so that an unknown option behind it counts first. -/

namespace LogFollow.CommandLine
set_option autoImplicit false

inductive Word
  /-- Two dashes, behind which no word is an option. -/
  | escape
  | long (name : String) (value : Option String)
  | letters (cs : List Char)
  | plain (text : String)
  deriving DecidableEq, Repr

def Word.of (s : String) : Word :=
  match s.toList with
  | ['-', '-'] => .escape
  | '-' :: '-' :: cs =>
    let value := match cs.dropWhile (· != '=') with
      | _ :: value => some (String.ofList value)
      | [] => none
    .long (String.ofList (cs.takeWhile (· != '='))) value
  | '-' :: c :: cs => .letters (c :: cs)
  | _ => .plain s

/-- An option whose value is not yet taken. -/
inductive Pending
  | none
  | awaiting (v : Valued)
  | holding (v : Valued) (text : String)
  deriving DecidableEq, Repr

structure Reading where
  arguments : Arguments := {}
  pending : Pending := .none
  deriving DecidableEq, Repr

namespace Reading

def settle (r : Reading) : Except UsageError Arguments :=
  match r.pending with
  | .none => .ok r.arguments
  | .awaiting _ => .error .missingValue
  | .holding v text => r.arguments.give v text

def give (r : Reading) (v : Valued) (text : String) : Except UsageError Reading := do
  let a ← r.settle
  .ok { arguments := ← a.give v text }

/-- Reads an option whose value is the next word. -/
def await (r : Reading) (v : Valued) : Except UsageError Reading := do
  .ok { arguments := ← r.settle, pending := .awaiting v }

def raise (r : Reading) (s : Switch) : Except UsageError Reading := do
  let a ← r.settle
  .ok { arguments := ← a.raise s }

def long (r : Reading) (name : String) (value : Option String) : Except UsageError Reading :=
  match Flag.ofName? name, value with
  | none, _ => .error .unknownArgument
  | some (.valued v), some text => r.give v text
  | some (.valued v), none => r.await v
  | some (.switch _), some _ => .error .surplusValue
  | some (.switch s), none => r.raise s

/-- Reads options by their letters; what stands behind the letter of an option with a value, with
or without an equals sign, is the value. -/
def letters (r : Reading) : List Char → Except UsageError Reading
  | [] => .ok r
  | c :: cs =>
    match Flag.ofLetter? c, cs with
    | none, _ => .error .unknownArgument
    | some (.switch s), _ => do (← r.raise s).letters cs
    | some (.valued v), [] => r.await v
    | some (.valued v), '=' :: text => r.give v (String.ofList text)
    | some (.valued v), text => r.give v (String.ofList text)

end Reading

/-- The places of the command line at which commands are known. -/
inductive Place
  | program
  | config
  | leaf
  deriving DecidableEq, Repr

/-- The place behind a command; none if the command is not known. -/
def Place.enter? : Place → String → Option Place
  | .program, "config" => some .config
  | .program, "help" => some .leaf
  | .config, "set" => some .leaf
  | .config, "get" => some .leaf
  | .config, "help" => some .leaf
  | _, _ => none

def helpOn (p : Place) : List String → UsageError
  | [] => .help
  | word :: words =>
    match p.enter? word with
    | some p => helpOn p words
    | none => .unknownCommand

def escaped (p : Place) (word : String) : UsageError :=
  if (p.enter? word).isSome then .unknownArgument else .unknownCommand

/-- What an option gives where only help is an option. -/
def strayOption : Word → UsageError
  | .long name value =>
    if name == "help" then (if value.isSome then .surplusValue else .help) else .unknownArgument
  | .letters ('h' :: _) => .help
  | _ => .unknownArgument

/-- Reads up to `room` plain words; options are none among them unless they stand behind two
dashes. -/
def readPlain (room : Nat) (isEscaped : Bool) : List String → Except UsageError (List String)
  | [] => .ok []
  | word :: words =>
    let asText := fun (_ : Unit) => match room with
      | 0 => .error .unknownArgument
      | room + 1 => (readPlain room isEscaped words).map (word :: ·)
    if isEscaped then asText ()
    else match Word.of word with
      | .plain _ => asText ()
      | .escape => readPlain room true words
      | option => .error (strayOption option)

def readConfig : List String → Except UsageError Command
  | [] => .error .missingCommand
  | word :: words =>
    match Word.of word with
    | .plain "set" => do
      match ← readPlain 2 false words with
      | [key, value] => .ok (.set key value)
      | _ => .error .missingArgument
    | .plain "get" => do .ok (.get (← readPlain 1 false words).head?)
    | .plain "help" => .error (helpOn .config words)
    | .plain _ => .error .unknownCommand
    | .escape =>
      match words with
      | [] => .error .missingCommand
      | next :: _ => .error (escaped .config next)
    | option => .error (strayOption option)

def check (a : Arguments) : Except UsageError Arguments :=
  if a.since.isSome && a.startTime.isSome then .error .conflict else .ok a

def readWords (r : Reading) : List String → Except UsageError Arguments
  | [] => do check (← r.settle)
  | word :: words =>
    match Word.of word with
    | .long name value => do readWords (← r.long name value) words
    | .letters cs => do readWords (← r.letters cs) words
    | .escape =>
      match words with
      | [] => do check (← r.settle)
      | next :: _ => .error (escaped .program next)
    | .plain text =>
      match r.pending with
      | .awaiting v => readWords { r with pending := .holding v text } words
      | _ =>
        match text with
        | "config" => do
          let command ← readConfig words
          check { ← r.settle with command := some command }
        | "help" => .error (helpOn .program words)
        | _ => .error .unknownCommand

def readArguments (words : List String) : Except UsageError Arguments := readWords {} words

end LogFollow.CommandLine
