import LogFollow.Failure
import LogFollow.Journal.Entry
import LogFollow.Output.Format

/-! # Writing lines

A sink takes text in pieces until it fails; of the piece at which it fails it may still take a
beginning. A line goes out as two pieces, its text and its end. A sink whose reader has gone away
ends the output quietly, any other failure is an error. -/

namespace LogFollow.Output
set_option autoImplicit false

/-- How a sink behaves: which pieces it takes, given those it took before, which flushes succeed,
counted from one, and what its failures are. -/
structure Sink where
  takes : List String → Bool
  flushes : Nat → Bool
  /-- Whether a failure means that the reader has gone away. -/
  closes : Bool
  writeFault : String
  flushFault : String
  /-- The same for a failure to flush. -/
  flushCloses : Bool := closes
  /-- How many characters it takes of a piece that it does not take as a whole. -/
  room : List String → Nat := fun _ => 0

def Sink.open : Sink where
  takes _ := true
  flushes _ := true
  closes := true
  writeFault := ""
  flushFault := ""

/-- What a sink has taken so far, and how often it was flushed. -/
structure Written where
  pieces : List String := []
  flushes : Nat := 0
  deriving DecidableEq, Repr

def Written.text (w : Written) : String := String.join w.pieces

inductive Outcome
  | done
  | closed
  | failed (text : String)
  deriving DecidableEq, Repr

/-- The beginning of a piece that a sink takes before it fails, never all of it. -/
def Sink.partOf (sink : Sink) (w : Written) (piece : String) : String :=
  String.ofList (piece.toList.take (min (sink.room w.pieces) (piece.toList.length - 1)))

/-- Writes one piece; the flag tells whether the sink took it. -/
def Sink.put (sink : Sink) (w : Written) (piece : String) : Written × Bool :=
  if sink.takes w.pieces then ({ w with pieces := w.pieces ++ [piece] }, true)
  else ({ w with pieces := w.pieces ++ [sink.partOf w piece] }, false)

def Sink.writeLine (sink : Sink) (w : Written) (line : String) : Written × Outcome :=
  let fault := if sink.closes then .closed
    else .failed s!"Failed to write to output: {sink.writeFault}"
  match sink.put w line with
  | (w, false) => (w, fault)
  | (w, true) =>
    match sink.put w "\n" with
    | (w, false) => (w, fault)
    | (w, true) => (w, .done)

def Sink.flush (sink : Sink) (w : Written) : Written × Outcome :=
  let w := { w with flushes := w.flushes + 1 }
  if sink.flushes w.flushes then (w, .done)
  else if sink.flushCloses then (w, .closed)
  else (w, .failed s!"Failed to flush output: {sink.flushFault}")

def Sink.writeEntries (sink : Sink) : Outcome → List Journal.Entry
  | .done => []
  | .closed => [⟨.info, .output, "Output pipe closed, stopping"⟩]
  | .failed _ => [⟨.error, .output, s!"Failed to write to output: {sink.writeFault}"⟩]

end LogFollow.Output
