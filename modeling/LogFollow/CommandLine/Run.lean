import LogFollow.CommandLine.Plan
import LogFollow.Config.File
import LogFollow.Explorer.Loop
import LogFollow.Journal.File
import LogFollow.Output.Follow
import LogFollow.Output.Print

/-! # Runs

A run takes the command line and the configuration file, and gives its output, its log, its result
and the file as it leaves it. What the log source and the clock answer is given as a script. -/

namespace LogFollow.CommandLine
set_option autoImplicit false

structure Report where
  output : String := ""
  log : List Journal.Entry := []
  /-- Whether the configuration file was no configuration. -/
  warned : Bool := false
  result : Except Failure Unit := .ok ()
  file : ConfigFile
  requests : List Request := []

/-- The bytes of the configuration file behind a run. Nothing but a text is ever written. -/
def Report.contents (r : Report) (before : Option ByteArray) : Option ByteArray :=
  match r.file with
  | .text s => some s.toUTF8
  | _ => before

def warning : String := "⚠️  Warning: Failed to parse config file. Using defaults.\n"

def runCommand (command : Command) (file : ConfigFile) (path : String) : Report :=
  match Config.load file with
  | .error f => { result := .error f, file := file }
  | .ok (c, warned) =>
    let failed := fun (f : Failure) =>
      ({ warned := warned, result := .error f, file := file } : Report)
    match command with
    | .set key value =>
      match c.setNamed key value with
      | .error e => failed ⟨e.message, []⟩
      | .ok c =>
        match c.save with
        | .error f => failed f
        | .ok file =>
          { output := s!"✅ Set {key} = {value}\nConfig file: {path}\n"
            warned := warned
            file := file }
    | .get (some key) =>
      match c.getNamed key with
      | .error e => failed ⟨e.message, []⟩
      | .ok value => { output := s!"{key} = {value}\n", warned := warned, file := file }
    | .get none => { output := c.display path ++ "\n", warned := warned, file := file }

/-- The configuration of a run. A file that cannot be read counts as empty. -/
def configOf (file : ConfigFile) : Config × Bool × List Journal.Entry :=
  match Config.load file with
  | .ok (c, warned) => (c, warned, [])
  | .error f =>
    ({}, false, [⟨.warn, .commandLine, s!"Failed to load config, using defaults: {f.text}"⟩])

def writtenEntries : Except Failure Nat → List Journal.Entry
  | .ok n => [⟨.info, .commandLine, s!"Wrote {n} events"⟩]
  | .error _ => []

structure Opening where
  log : List Journal.Entry
  requests : List Request := []
  session : Except Failure Explorer.Session

/-- Starts an exploration: without a stream to follow, the window is loaded before the screen is
touched. -/
def Exploration.start (e : Exploration) (answers : List Answer) : Opening :=
  let session := Explorer.Session.new e.options
  let log := [⟨.info, .screen, "=== STARTING INTERACTIVE SESSION ==="⟩]
  if e.stream.isSome then { log := log, session := .ok session }
  else
    let fetched := fetchWindow e.window answers
    let log := log ++ ⟨.info, .screen, s!"SESSION: Loading {e.window.group} once"⟩ :: fetched.log
    match fetched.result with
    | .error err =>
      { log := log, requests := fetched.requests
        session := .error (Explorer.Fatal.source err).failure }
    | .ok events =>
      { log := log ++ [Explorer.Session.initialEntry events], requests := fetched.requests
        session := .ok (session.receiveAll events) }

/-- Carries out a task without a terminal; the explorer then fails with the text `fault` once it
needs one. -/
def Task.perform (t : Task) (sink : Output.Sink) (script : Stream.Script) (fault : String)
    (r : Report) : Report :=
  let answers := script.answers.map (·.2)
  match t with
  | .print w f =>
    let printed := Output.printOnce sink f w answers
    { r with
      output := printed.written.text
      log := r.log ++ printed.log ++ writtenEntries printed.result
      result := printed.result.map fun _ => ()
      requests := printed.requests }
  | .follow c f =>
    let m := Output.follow sink f c script
    { r with
      output := m.reader.written.text
      log := r.log ++ Stream.startEntry c :: m.happened.flatMap Stream.Happening.entries
        ++ m.reader.log ++ writtenEntries m.reader.result
      result := m.reader.result.map fun _ => ()
      requests := Stream.requests m.happened }
  | .explore e =>
    let opening := e.start answers
    { r with
      log := r.log ++ opening.log
      result := match opening.session with
        | .error f => .error f
        | .ok _ => .error (Explorer.Fatal.terminal fault).failure
      requests := opening.requests }

def run (a : Arguments) (file : ConfigFile) (path : String) (s : Surroundings) (sink : Output.Sink)
    (source : Http.Client → Stream.Script) (fault : String) : Report :=
  match a.command with
  | some command => runCommand command file path
  | none =>
    let (c, warned, log) := configOf file
    let (planned, p) := plan a c s
    let r : Report := { log := log ++ planned, warned := warned, file := file }
    match p with
    | .error f => { r with result := .error f }
    | .ok p => p.task.perform sink (source p.client) fault r

/-- The least grave entries that a run shows. A log file holds what is worth knowing in any case,
and the screen of the explorer only lets errors through. -/
def Arguments.logLevel (a : Arguments) : Journal.Level :=
  let level := Journal.Level.ofVerbosity a.verbosity
  if a.dev then level.widest .info else if a.usesScreen then .error else level

def Arguments.logLines (a : Arguments) (r : Report) : List String :=
  (Journal.shown a.logLevel r.log).map Journal.Entry.line

/-- What a run writes besides its output and its log; `logName` is the name of a log file. -/
def Arguments.notices (a : Arguments) (logName : String) (r : Report) : String :=
  (if a.dev then Journal.announcement logName else "") ++ (if r.warned then warning else "")
    ++ match r.result with
      | .ok _ => ""
      | .error f => f.report

def Report.status (r : Report) : Nat :=
  match r.result with
  | .ok _ => 0
  | .error _ => 1

def UsageError.status : UsageError → Nat
  | .help | .version => 0
  | _ => 2

end LogFollow.CommandLine
