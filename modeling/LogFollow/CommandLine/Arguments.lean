import LogFollow.Config.Basic
import LogFollow.Output.Format
import LogFollow.Text.Blank
import LogFollow.Time.Span

/-! # Arguments

What the command line asks for. An option with a value takes the word behind it or the text behind
an equals sign; a switch takes none. Most may be given once only. -/

namespace LogFollow.CommandLine
set_option autoImplicit false

inductive Valued
  | logGroup | since | startTime | endTime | limit | taskId | streamPrefix | logStream | filter
  | endpoint | threads
  deriving DecidableEq, Repr

inductive Switch
  | follow | interactive | json | localQuery | dev | verbosity | help | version
  deriving DecidableEq, Repr

/-- The names of an option with a value: a long one and perhaps a letter. -/
def Valued.names : Valued → String × Option Char
  | .logGroup => ("log-group", some 'g')
  | .since => ("since", none)
  | .startTime => ("start-time", none)
  | .endTime => ("end-time", none)
  | .limit => ("limit", some 'n')
  | .taskId => ("task-id", none)
  | .streamPrefix => ("stream-prefix", none)
  | .logStream => ("log-stream", none)
  | .filter => ("filter", none)
  | .endpoint => ("endpoint", none)
  | .threads => ("threads", none)

def Switch.names : Switch → String × Option Char
  | .follow => ("follow", some 'f')
  | .interactive => ("interactive", some 'i')
  | .json => ("json", none)
  | .localQuery => ("local-query", none)
  | .dev => ("dev", none)
  | .verbosity => ("verbosity", some 'v')
  | .help => ("help", some 'h')
  | .version => ("version", some 'V')

inductive Flag
  | valued (v : Valued)
  | switch (s : Switch)
  deriving DecidableEq, Repr

namespace Flag

def names : Flag → String × Option Char
  | .valued v => v.names
  | .switch s => s.names

def all : List Flag :=
  ([.logGroup, .since, .startTime, .endTime, .limit, .taskId, .streamPrefix, .logStream, .filter,
      .endpoint, .threads] : List Valued).map .valued
    ++ ([.follow, .interactive, .json, .localQuery, .dev, .verbosity, .help, .version] :
      List Switch).map .switch

def ofName? (name : String) : Option Flag := all.find? (·.names.1 == name)

def ofLetter? (c : Char) : Option Flag := all.find? (·.names.2 == some c)

end Flag

inductive Command
  | set (key value : String)
  | get (key : Option String)
  deriving DecidableEq, Repr

structure Arguments where
  command : Option Command := none
  logGroup : Option String := none
  since : Option String := none
  /-- The first and the last wanted millisecond. -/
  startTime : Option Int := none
  endTime : Option Int := none
  limit : Option Nat := none
  follow : Bool := false
  taskIds : List String := []
  streamPrefix : Option String := none
  logStreams : List String := []
  filter : Option String := none
  interactive : Bool := false
  json : Bool := false
  localQuery : Bool := false
  endpoint : Option String := none
  threads : Option Nat := none
  dev : Bool := false
  verbosity : Nat := 0
  deriving DecidableEq, Repr

/-- Why a command line is not taken, or what it asks for instead of a run. -/
inductive UsageError
  | unknownArgument
  | unknownCommand
  /-- An option was given twice, or two options exclude each other. -/
  | conflict
  | missingValue
  | invalidValue (text : String)
  /-- A switch was given a value. -/
  | surplusValue
  | missingArgument
  | missingCommand
  | help
  | version
  deriving DecidableEq, Repr

def UsageError.message : UsageError → String
  | .unknownArgument => "unexpected argument found"
  | .unknownCommand => "unrecognized subcommand"
  | .conflict => "an argument cannot be used twice, or not together with another one"
  | .missingValue => "a value is required but none was supplied"
  | .invalidValue text => s!"invalid value: {text}"
  | .surplusValue => "unexpected value for an argument that takes none"
  | .missingArgument => "the required arguments were not provided"
  | .missingCommand => "a subcommand is required but one was not provided"
  | .help => "Usage: tailscope [OPTIONS] [COMMAND]"
  | .version => "tailscope 0.3.12"

def versionText : String := UsageError.version.message ++ "\n"

def maxVerbosity : Nat := 255

def expectedTime : String := "expected an RFC 3339 time like 2024-01-31T12:00:00Z"

def readTime (text : String) : Except UsageError Int :=
  match Time.readIso text with
  | some t => .ok t
  | none => .error (.invalidValue expectedTime)

def readLimit (text : String) : Except UsageError Nat :=
  match Number.readUnsigned Number.maxUnsigned text with
  | .error _ => .error (.invalidValue s!"'{text}' is not a whole number")
  | .ok n =>
    if n == 0 || maxQueryLimit < n then
      .error (.invalidValue s!"limit must be between 1 and {maxQueryLimit}")
    else .ok n

def readThreads (text : String) : Except UsageError Nat :=
  match Number.readUnsigned Number.maxUnsigned text with
  | .error e => .error (.invalidValue e.message)
  | .ok n => .ok n

namespace Arguments

/-- Goes on if something was not given before. -/
def once (given : Bool) (a : Except UsageError Arguments) : Except UsageError Arguments :=
  if given then .error .conflict else a

def give (a : Arguments) (v : Valued) (text : String) : Except UsageError Arguments :=
  match v with
  | .logGroup => once a.logGroup.isSome (.ok { a with logGroup := some text })
  | .since => once a.since.isSome (.ok { a with since := some text })
  | .startTime =>
    once a.startTime.isSome ((readTime text).map fun t => { a with startTime := some t })
  | .endTime => once a.endTime.isSome ((readTime text).map fun t => { a with endTime := some t })
  | .limit => once a.limit.isSome ((readLimit text).map fun n => { a with limit := some n })
  | .taskId => .ok { a with taskIds := a.taskIds ++ [text] }
  | .streamPrefix => once a.streamPrefix.isSome (.ok { a with streamPrefix := some text })
  | .logStream => .ok { a with logStreams := a.logStreams ++ [text] }
  | .filter => once a.filter.isSome (.ok { a with filter := some text })
  | .endpoint => once a.endpoint.isSome (.ok { a with endpoint := some text })
  | .threads => once a.threads.isSome ((readThreads text).map fun n => { a with threads := some n })

def raise (a : Arguments) (s : Switch) : Except UsageError Arguments :=
  match s with
  | .follow => once a.follow (.ok { a with follow := true })
  | .interactive => once a.interactive (.ok { a with interactive := true })
  | .json => once a.json (.ok { a with json := true })
  | .localQuery => once a.localQuery (.ok { a with localQuery := true })
  | .dev => once a.dev (.ok { a with dev := true })
  | .verbosity => .ok { a with verbosity := min (a.verbosity + 1) maxVerbosity }
  | .help => .error .help
  | .version => .error .version

/-- The first wanted millisecond, from the span before now or the given time. -/
def startMillis (a : Arguments) (now : Int) : Except Time.SpanError (Option Int) :=
  match a.since with
  | some text =>
    (Time.readSpan text).map fun seconds =>
      some (Number.saturate (now - Number.saturate (seconds * 1000)))
  | none => .ok a.startTime

def taskStream (start : Option String) (task : String) : String :=
  match start with
  | some s => Text.trimEnd '/' s ++ "/" ++ task
  | none => task

/-- The streams to read: the given ones, and one for each task that is not yet among them. -/
def streamNames (a : Arguments) : List String :=
  (a.taskIds.map (taskStream a.streamPrefix)).foldl
    (fun names name => if names.contains name then names else names ++ [name]) a.logStreams

def format (a : Arguments) : Output.Format := if a.json then .json else .text

def usesScreen (a : Arguments) : Bool := a.command.isNone && a.interactive

end Arguments
end LogFollow.CommandLine
