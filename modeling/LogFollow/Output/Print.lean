import LogFollow.Fetch
import LogFollow.Output.Sink

/-! # Printing a window

The events of a window are fetched once and printed line by line, with one flush at the end. -/

namespace LogFollow.Output
set_option autoImplicit false

/-- What printing did: what the sink took, and the number of whole lines or the failure. -/
structure Printed where
  written : Written
  result : Except Failure Nat
  log : List Journal.Entry := []

/-- Writes the lines of events, counting on from `count`, and flushes at the end. -/
def printEvents (sink : Sink) (format : Format) (w : Written) (count : Nat) : List Event → Printed
  | [] => finish w count
  | e :: events =>
    match sink.writeLine w (format.line e) with
    | (w, .done) => printEvents sink format w (count + 1) events
    | (w, .closed) => { finish w count with log := sink.writeEntries .closed }
    | (w, .failed text) =>
      { written := w, result := .error ⟨text, []⟩, log := sink.writeEntries (.failed text) }
where
  /-- Flushes the sink; a reader that has gone away is no failure. -/
  finish (w : Written) (count : Nat) : Printed :=
    match sink.flush w with
    | (w, .failed text) => { written := w, result := .error ⟨text, []⟩ }
    | (w, _) => { written := w, result := .ok count }

/-- What printing a window did, with the requests for its events. -/
structure PrintReport extends Printed where
  requests : List Request

def printOnce (sink : Sink) (format : Format) (w : Window) (answers : List Answer) : PrintReport :=
  let fetched := fetchWindow w answers
  match fetched.result with
  | .error e =>
    { written := {}, result := .error (.ofSource e), log := fetched.log
      requests := fetched.requests }
  | .ok events =>
    let printed := printEvents sink format {} 0 events
    { printed with
      log := fetched.log
        ++ ⟨.info, .output, s!"Fetched {events.length} events from {w.group}"⟩ :: printed.log
      requests := fetched.requests }

end LogFollow.Output
