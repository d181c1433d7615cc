import LogFollow.CommandLine.Window
import LogFollow.Explorer.Session
import LogFollow.Explorer.Theme
import LogFollow.Source.Http

/-! # Plans

Before anything is fetched, the command line and the configuration become a plan: the client of the
log source, and what is to be done with its events. -/

namespace LogFollow.CommandLine
set_option autoImplicit false

/-- What the explorer is to do. -/
structure Exploration where
  window : Window
  /-- The stream to follow, instead of loading the window once. -/
  stream : Option Stream.Config
  engine : Search.Engine
  options : Explorer.Options
  theme : Explorer.Theme

/-- What is to be done with the events. -/
inductive Task
  | print (w : Window) (f : Output.Format)
  | follow (c : Stream.Config) (f : Output.Format)
  | explore (e : Exploration)

/-- What a run does at its log source. -/
structure Plan where
  client : Http.Client
  task : Task

/-- What a run finds around it. -/
structure Surroundings where
  now : Int
  processors : Nat
  terminal : Explorer.Terminal := {}
  spinnerSet : Nat → Nat := fun _ => 0

/-- The number of search workers where the user gives none. -/
def Surroundings.workers (s : Surroundings) : Nat := max s.processors 2

def startEntry (w : Window) (endpoint : String) : Journal.Entry :=
  ⟨.info, .commandLine, s!"Reading {w.group} from {endpoint}"⟩

def planExploration (a : Arguments) (c : Config) (s : Surroundings) (w : Window) :
    Except Failure Exploration :=
  match Explorer.Keymap.ofNames c.keys with
  | .error e => .error ⟨"Invalid keymap in config", [e.message]⟩
  | .ok keymap => .ok
    { window := w
      stream := if a.follow then some (streamConfig w c) else none
      engine := ⟨{ w with limit := c.queryLimit }, a.threads.getD s.workers⟩
      options :=
        { keymap := keymap
          capacity := c.bufferSize
          mode := if a.localQuery then .received else c.mode
          spinnerSet := s.spinnerSet }
      theme := .ofName c.theme s.terminal }

def plan (a : Arguments) (c : Config) (s : Surroundings) :
    List Journal.Entry × Except Failure Plan :=
  match buildWindow a c s.now with
  | .error f => ([], .error f)
  | .ok w =>
    let endpoint := a.endpoint.getD c.endpoint
    let start := startEntry w endpoint
    match Http.Client.create endpoint c.headers with
    | .error e =>
      ([start], .error ((Failure.ofSource e).inContext "Failed to create log source client"))
    | .ok client =>
      let log := [start, client.entry c.headers.length]
      if a.interactive then
        let workers := a.threads.getD s.workers
        (log ++ [Search.Engine.entry ⟨w, workers⟩],
          (planExploration a c s w).map fun e => ⟨client, .explore e⟩)
      else if a.follow then (log, .ok ⟨client, .follow (streamConfig w c) a.format⟩)
      else (log, .ok ⟨client, .print w a.format⟩)

end LogFollow.CommandLine
