import LogFollow.Explorer.Session
import LogFollow.Stream.Task

/-! # The forwarder

It moves what comes out of a stream into the session's queue, the events before the failure. The
queue is bounded; a full one makes the forwarder wait, and through it the stream. Each step takes one
thing out of the stream or puts one message into the queue. -/

namespace LogFollow.Explorer
set_option autoImplicit false

/-- Which channels of a stream are closed. Both close behind the end of its task, either one first;
what was put into a closed channel can still be taken. -/
structure Closed where
  events : Bool := false
  failures : Bool := false
  deriving DecidableEq, Repr

inductive Forwarding
  | choosing
  /-- A message waits for room in the queue. -/
  | carrying (m : Message)
  /-- Nothing more is taken but a failure that stands behind the last event. -/
  | looking
  | parting (e : SourceError)
  | done

structure Forwarder where
  doing : Forwarding := .choosing
  /-- The messages that the session has not taken yet. -/
  queue : List Message := []
  /-- Whether the session still takes messages. -/
  reading : Bool := true
  /-- Whether a failure may still come. -/
  listening : Bool := true
  /-- The number of messages moved before the stream ended. -/
  moved : Nat := 0

namespace Forwarder

def hasRoom (f : Forwarder) (capacity : Nat) : Bool := f.queue.length < max 1 capacity

/-- The forwarder at its end: nobody reads the stream any more. -/
def finish (f : Forwarder) (s : Stream.State) : Forwarder × Stream.State :=
  ({ f with doing := .done }, { s with receiving := false, queue := [] })

/-- Takes the next thing out of the stream: an event, the end of the events, or else a failure. -/
def choose (f : Forwarder) (closed : Closed) (s : Stream.State) :
    Option (Forwarder × Stream.State) :=
  if s.cancelled then some ({ f with doing := .looking }, s)
  else match s.queue with
    | e :: queue => some ({ f with doing := .carrying (.arrived e) }, { s with queue := queue })
    | [] =>
      if closed.events then some ({ f with doing := .looking }, s)
      else if f.listening then
        match s.report with
        | some e => some ({ f with doing := .carrying (.sourceFailed e) }, { s with report := none })
        | none => if closed.failures then some ({ f with listening := false }, s) else none
      else none

/-- Takes the failure that stands behind the last event, unless the stream was cancelled. -/
def look (f : Forwarder) (s : Stream.State) : Forwarder × Stream.State :=
  if s.cancelled then f.finish s
  else match s.report with
    | some e => ({ f with doing := .parting e }, { s with report := none })
    | none => f.finish s

/-- One step of the forwarder; none if it has to wait or is done. -/
def step (capacity : Nat) (f : Forwarder) (closed : Closed) (s : Stream.State) :
    Option (Forwarder × Stream.State) :=
  match f.doing with
  | .choosing => f.choose closed s
  | .carrying m =>
    if s.cancelled || !f.reading then some ({ f with doing := .looking }, s)
    else if f.hasRoom capacity then
      some ({ f with doing := .choosing, queue := f.queue ++ [m], moved := f.moved + 1 }, s)
    else none
  | .looking => some (f.look s)
  | .parting e =>
    if !f.reading then some (f.finish s)
    else if f.hasRoom capacity then some (finish { f with queue := f.queue ++ [.sourceFailed e] } s)
    else none
  | .done => none

def entry (f : Forwarder) : Journal.Entry :=
  ⟨.info, .screen, s!"SESSION: Stream forwarder stopped after {f.moved} messages"⟩

end Forwarder
end LogFollow.Explorer
