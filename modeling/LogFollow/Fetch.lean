import LogFollow.Source.Page
import LogFollow.Source.Request

/-! # Fetching a window

A fetch asks for one page after the other, each with the token of the page before, until a page has
no token. The events are then put in the order of their times, equal times in the order of their
arrival, and the latest are kept. A page that fails fails the whole fetch. -/

namespace LogFollow
set_option autoImplicit false

/-- The latest `limit` of some events, all of them if `limit` is zero. -/
def keepLatest (events : List Event) (limit : Nat) : List Event :=
  if limit == 0 || events.length ≤ limit then events else events.drop (events.length - limit)

/-- A fetch that waits for a page. -/
structure Fetch where
  window : Window
  /-- The token that the last page gave. -/
  token : Option String := none
  /-- The events of the pages so far, in the order of arrival. -/
  arrived : List Event := []
  pages : Nat := 0
  deriving Repr

namespace Fetch

def request (f : Fetch) : Request := .ofWindow f.window f.token

/-- The result of a fetch whose events have all arrived. -/
def result (w : Window) (arrived : List Event) : List Event :=
  keepLatest (arrived.mergeSort Event.notLater) w.limit

inductive Outcome
  | more (f : Fetch)
  | done (events : List Event)
  | failed (e : SourceError)
  deriving Repr

def receive (f : Fetch) : Answer → Outcome
  | .error e => .failed e
  | .ok page =>
    let arrived := f.arrived ++ page.events
    match page.token with
    | some token => .more { f with token := some token, arrived := arrived, pages := f.pages + 1 }
    | none => .done (result f.window arrived)

def entries (f : Fetch) (answer : Answer) : List Journal.Entry :=
  match answer with
  | .error e =>
    [⟨.warn, .fetch, s!"FETCHER: Page {f.pages + 1} for {f.window.group} failed, discarding {f.arrived.length} events: {e.message}"⟩]
  | .ok page =>
    page.entries
      ++ [⟨.debug, .fetch, s!"FETCHER: Page {f.pages + 1} returned {page.events.length} events"⟩]
      ++ match f.receive answer with
        | .done events =>
          [⟨.info, .fetch, s!"FETCHER: Fetched {events.length} events from {f.window.group} in {f.pages + 1} pages (limit {f.window.limit})"⟩]
        | _ => []

/-- What a fetch did: its requests, its result, the answers that it left, and its log. -/
structure Report where
  requests : List Request
  result : Except SourceError (List Event)
  rest : List Answer
  log : List Journal.Entry

/-- Runs a fetch against a list of answers. A source whose answers have run out gives an empty last
page. -/
def run (f : Fetch) : List Answer → Report
  | [] =>
    { requests := [f.request], result := .ok (result f.window f.arrived), rest := []
      log := f.request.entry :: f.entries (.ok { events := [] }) }
  | answer :: rest =>
    let log := f.request.entry :: f.entries answer
    match f.receive answer with
    | .failed e => { requests := [f.request], result := .error e, rest := rest, log := log }
    | .done events => { requests := [f.request], result := .ok events, rest := rest, log := log }
    | .more f' =>
      let r := f'.run rest
      { r with requests := f.request :: r.requests, log := log ++ r.log }

end Fetch

def fetchWindow (w : Window) (answers : List Answer) : Fetch.Report :=
  Fetch.run { window := w } answers

end LogFollow
