import LogFollow.Output.Sink
import LogFollow.Stream.Schedule

/-! # Following a stream

Events are printed as they come, each line flushed by itself, until the stream ends, its reader's
output closes, or the stream fails. What was emitted before a failure is still printed. -/

namespace LogFollow.Output
set_option autoImplicit false

inductive FollowMode
  | reading
  /-- The stream has failed; the events emitted before are printed. -/
  | draining (e : SourceError)
  /-- Nothing more is printed; the follower waits for the stream task to stop. -/
  | closing (result : Except Failure Nat)
  /-- A failure of the sink ends everything at once. -/
  | aborted (f : Failure)

/-- A follower: what was written, the number of lines, and what it is doing. -/
structure Follower where
  written : Written := {}
  count : Nat := 0
  mode : FollowMode := .reading
  log : List Journal.Entry := []

namespace Follower

def streamFailure (e : SourceError) : Failure := (Failure.ofSource e).inContext "log stream failed"

/-- Prints an event while the stream is read. The flag tells that the output has closed, so that
the stream is to be cancelled. -/
def printEvent (sink : Sink) (format : Format) (f : Follower) (e : Event) : Follower × Bool :=
  match sink.writeLine f.written (format.line e) with
  | (w, .failed text) =>
    ({ f with written := w, mode := .aborted ⟨text, []⟩
              log := f.log ++ sink.writeEntries (.failed text) }, false)
  | (w, .closed) =>
    ({ f with written := w, mode := .closing (.ok f.count)
              log := f.log ++ sink.writeEntries .closed }, true)
  | (w, .done) =>
    match sink.flush w with
    | (w, .failed text) =>
      ({ f with written := w, count := f.count + 1, mode := .aborted ⟨text, []⟩ }, false)
    | (w, .closed) =>
      ({ f with written := w, count := f.count + 1, mode := .closing (.ok (f.count + 1)) }, true)
    | (w, .done) => ({ f with written := w, count := f.count + 1 }, false)

/-- Prints an event after the stream has failed, without a flush. -/
def drainEvent (sink : Sink) (format : Format) (f : Follower) (err : SourceError) (e : Event) :
    Follower :=
  match sink.writeLine f.written (format.line e) with
  | (w, .failed text) =>
    { f with written := w, mode := .aborted ⟨text, []⟩
             log := f.log ++ sink.writeEntries (.failed text) }
  | (w, .closed) =>
    { f with written := w, mode := .closing (.error (streamFailure err))
             log := f.log ++ sink.writeEntries .closed }
  | (w, .done) => { f with written := w, count := f.count + 1 }

/-- The state of a stream whose queue nobody reads any more. -/
def abandon (s : Stream.State) : Stream.State := { s with receiving := false, queue := [] }

/-- Takes the first event of the queue, or once there is none a failure or the end. -/
def react (sink : Sink) (format : Format) (f : Follower) (s : Stream.State) :
    Option (Follower × Stream.State) :=
  match f.mode with
  | .closing _ | .aborted _ => none
  | .reading =>
    match s.queue with
    | e :: queue =>
      let (f, closed) := f.printEvent sink format e
      some (f, if closed then { abandon s with cancelled := true } else { s with queue := queue })
    | [] =>
      match s.report with
      | some err => some ({ f with mode := .draining err }, { s with report := none })
      | none =>
        if s.isStopped then some ({ f with mode := .closing (.ok f.count) }, s) else none
  | .draining err =>
    match s.queue with
    | e :: queue => some (f.drainEvent sink format err e, { s with queue := queue })
    | [] =>
      if s.isStopped then some ({ f with mode := .closing (.error (streamFailure err)) }, s)
      else none

def reader (sink : Sink) (format : Format) : Stream.Reader Follower where
  react := react sink format
  gaveUp f := match f.mode with
    | .aborted _ => true
    | _ => false

def result (f : Follower) : Except Failure Nat :=
  match f.mode with
  | .closing result => result
  | .aborted failure => .error failure
  | _ => .ok f.count

end Follower

def follow (sink : Sink) (format : Format) (config : Stream.Config) (script : Stream.Script) :
    Stream.Moment Follower :=
  Stream.play config script (Follower.reader sink format) {}

end LogFollow.Output
