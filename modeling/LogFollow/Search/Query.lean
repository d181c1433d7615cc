import LogFollow.Fetch
import LogFollow.Search.Match
import LogFollow.Text.Quoted

/-! # Queries

A query asks for the events that match a term, either among those already received or at the log
source. A local query is cut into chunks, one worker each; the results are gathered in the order of
the chunks, whatever the order in which the workers finish. -/

namespace LogFollow
set_option autoImplicit false

/-- An event that a query found, with the stretch of its message that shows why. -/
structure Hit where
  event : Event
  highlight : Option Span
  deriving DecidableEq, Repr

structure QueryResult where
  term : String
  hits : List Hit
  deriving DecidableEq, Repr

inductive QueryError
  | source (e : SourceError)
  | worker (text : String)
  deriving DecidableEq, Repr

def QueryError.message : QueryError → String
  | .source e => e.message
  | .worker text => s!"local search worker failed: {text}"

/-- Where a query looks. -/
inductive QueryMode
  | source
  | received
  deriving DecidableEq, Repr

namespace Search

/-- The chunks of a corpus, each with the place of its first event. -/
def chunks (size offset : Nat) : List Event → List (Nat × List Event)
  | [] => []
  | e :: events =>
    (offset, (e :: events).take (size + 1))
      :: chunks size (offset + (size + 1)) (events.drop size)
termination_by events => events.length
decreasing_by
  rw [List.length_drop, List.length_cons]
  omega

def chunkSize (workers events : Nat) : Nat := max 1 ((events + (max 1 workers - 1)) / max 1 workers)

def work (workers : Nat) (corpus : List Event) : List (Nat × List Event) :=
  chunks (chunkSize workers corpus.length - 1) 0 corpus

/-- The slots in which the workers leave what they found, all empty. -/
def emptySlots (work : List (Nat × List Event)) : List (Option (List Found)) :=
  work.map fun _ => none

/-- The slots after the worker of chunk `i` has finished. -/
def finish (term : String) (work : List (Nat × List Event)) (i : Nat)
    (slots : List (Option (List Found))) : List (Option (List Found)) :=
  slots.set i ((work[i]?).map fun (offset, events) => collect term offset events)

/-- What the workers found, chunk by chunk; an empty slot is a worker that was lost. -/
def gather (i : Nat) : List (Option (List Found)) → Except QueryError (List Found)
  | [] => .ok []
  | none :: _ => .error (.worker s!"chunk {i} ended without a result")
  | some part :: rest => (gather (i + 1) rest).map (part ++ ·)

/-- The hits at some places of the corpus; an empty stretch highlights nothing. -/
def hitsOf (corpus : List Event) (found : List Found) : List Hit :=
  found.filterMap fun f => corpus[f.index]?.map fun e =>
    ⟨e, if f.span.start < f.span.stop then some f.span else none⟩

/-- The result of a local query from the slots of its workers. -/
def localResult (term : String) (corpus : List Event) (slots : List (Option (List Found))) :
    Except QueryError QueryResult :=
  (gather 0 slots).map fun found => ⟨term, hitsOf corpus (inOrder found)⟩

/-- Runs a local query with its workers finishing in the given order. -/
def runLocal (term : String) (corpus : List Event) (workers : Nat) (order : List Nat) :
    Except QueryError QueryResult :=
  let work := work workers corpus
  localResult term corpus (order.foldl (fun slots i => finish term work i slots) (emptySlots work))

/-- The order in which the workers of a query are started. -/
def startOrder (corpus : List Event) (workers : Nat) : List Nat :=
  List.range (work workers corpus).length

def sourceHits (term : String) (events : List Event) : List Hit :=
  events.map fun e => ⟨e, if term == "" then none else findMatch e.message term⟩

structure Engine where
  window : Window
  workers : Nat

def Engine.entry (engine : Engine) : Journal.Entry :=
  ⟨.info, .search, s!"QUERY: Created query engine with {max 1 engine.workers} worker threads"⟩

/-- What a query did: its requests, its result, the answers that it left, and its log. -/
structure Report where
  requests : List Request
  result : Except QueryError QueryResult
  rest : List Answer
  log : List Journal.Entry

/-- Runs a query at the log source: the term is the filter of the window. -/
def Engine.runSource (engine : Engine) (term : String) (answers : List Answer) : Report :=
  let fetched := fetchWindow { engine.window with filter := some term } answers
  { requests := fetched.requests
    result := match fetched.result with
      | .ok events => .ok ⟨term, sourceHits term events⟩
      | .error e => .error (.source e)
    rest := fetched.rest
    log := ⟨.info, .search, s!"QUERY: Running backend query {Text.quoted term} on {engine.window.group}"⟩
      :: fetched.log }

def Engine.runReceived (engine : Engine) (term : String) (corpus : List Event)
    (answers : List Answer) : Report :=
  let result := runLocal term corpus engine.workers (startOrder corpus engine.workers)
  let count := match result with
    | .ok r => [⟨.debug, .search, s!"QUERY: Local query {Text.quoted term} produced {r.hits.length} hits"⟩]
    | .error _ => []
  { requests := [], result := result, rest := answers
    log := ⟨.info, .search, s!"QUERY: Running local query {Text.quoted term} over {corpus.length} events in chunks of {chunkSize engine.workers corpus.length}"⟩
      :: count }

def Engine.run (engine : Engine) (term : String) (mode : QueryMode) (corpus : List Event)
    (answers : List Answer) : Report :=
  match mode with
  | .source => engine.runSource term answers
  | .received => engine.runReceived term corpus answers

end Search
end LogFollow
