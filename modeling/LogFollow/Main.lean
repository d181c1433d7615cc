import LogFollow.CommandLine.Reader
import LogFollow.CommandLine.Run
import Std.Time.DateTime.Timestamp

/-! # The program

The outer layer: it reads the command line, the configuration file and the clock, lets a run do its
work, and writes what it gives. It has no network of its own, so each request is lost, and no
control of the terminal. -/

namespace LogFollow.Main
set_option autoImplicit false

open CommandLine

def configDirectory : IO (Option String) := do
  match (← IO.getEnv "XDG_CONFIG_HOME").filter (·.startsWith "/"), ← IO.getEnv "HOME" with
  | some root, _ => return some (root ++ "/tailscope")
  | none, some home => return some (home ++ "/.config/tailscope")
  | none, none => return none

def readContents (path : String) : IO (Option ByteArray) := do
  return (← (IO.FS.readBinFile path).toBaseIO).toOption

/-- The reply to every request of a program without a network. -/
def noReply (client : Http.Client) : Http.Reply :=
  .lost [s!"error sending request for url ({client.endpoint}): no network", "no network"]

/-- What a stream meets: a single lost request. -/
def script (now : Int) (client : Http.Client) : Stream.Script :=
  { answers := [(0, (noReply client).answer)], clock := [now], cancelAt := 60000 }

/-- Writes the log of a run: to a file of its own in the development mode, else to `err`. -/
def writeLog (a : Arguments) (err : IO.FS.Stream) (now : Int) (name : String) (r : Report) :
    IO Unit := do
  let lines := (Journal.shown a.logLevel r.log).map (Journal.Entry.stamped (Time.isoText now))
  let text := String.join (lines.map (· ++ "\n"))
  if a.dev then
    let file ← IO.FS.Handle.mk name .append
    file.putStr text
  else err.putStr text

def perform (a : Arguments) : IO UInt32 := do
  let err ← IO.getStderr
  let some directory ← configDirectory
    | err.putStr (Failure.report ⟨"Unable to determine project directories", []⟩)
      return 1
  let path := directory ++ "/config.toml"
  let before ← readContents path
  let now := (← Std.Time.Timestamp.now).toMillisecondsSinceUnixEpoch.val
  let name := Journal.fileName (Time.DateTime.ofSeconds (now / 1000))
  let surroundings : Surroundings :=
    { now := now
      processors := 2
      terminal := ⟨← IO.getEnv "TERM_PROGRAM", ← IO.getEnv "COLORFGBG"⟩ }
  let r := run a (.ofContents before) path surroundings .open (script now) "the terminal cannot be controlled"
  writeLog a err now name r
  let after := r.contents before
  if after != before then
    if let some bytes := after then
      IO.FS.createDirAll directory
      IO.FS.writeBinFile path bytes
  (← IO.getStdout).putStr r.output
  err.putStr (a.notices name r)
  return UInt32.ofNat r.status

end LogFollow.Main

def main (words : List String) : IO UInt32 := do
  match LogFollow.CommandLine.readArguments words with
  | .ok a => LogFollow.Main.perform a
  | .error e =>
    if e.status = 0 then (← IO.getStdout).putStrLn e.message
    else (← IO.getStderr).putStrLn ("error: " ++ e.message)
    return UInt32.ofNat e.status
