/-! # The program's own log

Each entry has a level, the part of the program that made it, and a text. Which levels are shown
depends on how often the user asked for more. -/

namespace LogFollow.Journal
set_option autoImplicit false

/-- How grave an entry is, the gravest first. -/
inductive Level
  | error | warn | info | debug | trace
  deriving DecidableEq, Repr

def Level.name : Level → String
  | .error => "ERROR"
  | .warn => "WARN"
  | .info => "INFO"
  | .debug => "DEBUG"
  | .trace => "TRACE"

/-- The place of a level in the order from the gravest. -/
def Level.rank : Level → Nat
  | .error => 0
  | .warn => 1
  | .info => 2
  | .debug => 3
  | .trace => 4

/-- The least grave level shown when the user asked `n` times for more. -/
def Level.ofVerbosity (n : Nat) : Level :=
  match n with
  | 0 => .error
  | 1 => .warn
  | 2 => .info
  | 3 => .debug
  | _ => .trace

def Level.widest (a b : Level) : Level := if a.rank < b.rank then b else a

/-- The part of the program that makes an entry. -/
inductive Origin
  | commandLine | source | fetch | stream | search | output | session | screen | journal
  deriving DecidableEq, Repr

def Origin.name : Origin → String
  | .commandLine => "tailscope::cli"
  | .source => "tailscope::logs::backend"
  | .fetch => "tailscope::logs::fetcher"
  | .stream => "tailscope::logs::stream"
  | .search => "tailscope::filtering"
  | .output => "tailscope::output"
  | .session => "tailscope::ui::session"
  | .screen => "tailscope::ui::app"
  | .journal => "tailscope::logging"

structure Entry where
  level : Level
  origin : Origin
  text : String
  deriving DecidableEq, Repr

def Entry.line (e : Entry) : String := s!"{e.level.name} {e.origin.name}: {e.text}"

/-- The line of an entry with its time in front, the level filled up to the longest one. -/
def Entry.stamped (time : String) (e : Entry) : String :=
  let room := String.ofList (List.replicate (5 - e.level.name.length) ' ')
  s!"{time} {room}{e.line}"

/-- The entries that are at least as grave as `level`. -/
def shown (level : Level) (entries : List Entry) : List Entry :=
  entries.filter (·.level.rank ≤ level.rank)

def optionText : Option Int → String
  | none => "None"
  | some n => s!"Some({n})"

end LogFollow.Journal
