import LogFollow.Proofs.Fetch
import LogFollow.Proofs.Stream.Step

/-!
# Reading the record of a stream

What happened along a run is a list. Here it is read as a sequence of polls, each with its window
and the answers that its fetch got.
-/

namespace LogFollow.Stream
set_option autoImplicit false

variable {config : Config} {s s' : State} {m : Move} {h h' : List Happening}

@[simp] theorem emissions_append : emissions (h ++ h') = emissions h ++ emissions h' :=
  List.filterMap_append

@[simp] theorem reports_append : reports (h ++ h') = reports h ++ reports h' :=
  List.filterMap_append

@[simp] theorem requests_append : requests (h ++ h') = requests h ++ requests h' :=
  List.filterMap_append

theorem emissions_cons (x : Happening) : emissions (x :: h) =
    (match x with | .emitted e => [e] | _ => []) ++ emissions h := by
  cases x <;> rfl

theorem reports_cons (x : Happening) : reports (x :: h) =
    (match x with | .reported e => [e] | _ => []) ++ reports h := by
  cases x <;> rfl

@[simp] theorem emissions_nil : emissions [] = [] := rfl

@[simp] theorem reports_nil : reports [] = [] := rfl

/-- The task itself only adds events to its queue. -/
theorem task_step (hs : Step config s m s' h) (hm : m.isTasks = true) :
    s'.receiving = s.receiving ∧ s'.cancelled = s.cancelled ∧
      s'.queue = s.queue ++ emissions h := by
  cases hs with
  | taken | reportTaken | left | cancelled => cases hm
  | _ => exact ⟨rfl, rfl, by simp [emissions_cons]⟩

/-- The task itself hands over one failure at most in a step. -/
theorem report_step (hs : Step config s m s' h) (hm : m.isTasks = true) :
    (reports h = [] ∧ s'.report = s.report) ∨
      ∃ e, s.phase = .reporting e ∧ reports h = [e] ∧ s'.report = some e := by
  cases hs with
  | taken | reportTaken | left | cancelled => cases hm
  | reported e hp hc => exact .inr ⟨e, hp, rfl, rfl⟩
  | _ => exact .inl ⟨by simp [reports_cons], rfl⟩

/-- Nothing was put into the queue, handed over as a failure, or asked of the source. -/
def Quiet (h : List Happening) : Prop := emissions h = [] ∧ reports h = [] ∧ requests h = []

theorem quiet_nil : Quiet [] := ⟨rfl, rfl, rfl⟩

theorem Quiet.append (hh : Quiet h) (hh' : Quiet h') : Quiet (h ++ h') := by
  obtain ⟨he, hr, hq⟩ := hh
  obtain ⟨he', hr', hq'⟩ := hh'
  exact ⟨by simp [he, he'], by simp [hr, hr'], by simp [hq, hq']⟩

theorem Quiet.stopped (cycles emitted : Nat) (last : Option Int) :
    Quiet [.stopped cycles emitted last] := ⟨rfl, rfl, rfl⟩

/-- A poll: its window, and the answers to its requests so far. -/
structure Poll where
  window : Window
  answers : List Answer := []

namespace Poll

/-- Whether no request follows an answer. -/
def isLast : Answer → Bool
  | .ok page => page.token.isNone
  | .error _ => true

/-- What the fetch of a poll came to; none as long as an answer is missing. -/
def outcome? (p : Poll) : Option (Except SourceError (List Event)) :=
  if p.answers.getLast?.any isLast then some (fetchWindow p.window p.answers).result else none

def events (p : Poll) : List Event :=
  match p.outcome? with
  | some (.ok events) => events
  | _ => []

/-- The events of the pages that a poll got, in the order of their arrival. -/
def arrived (p : Poll) : List Event := (p.answers.filterMap Except.toOption).flatMap (·.events)

def hear (p : Poll) (a : Answer) : Poll := { p with answers := p.answers ++ [a] }

theorem events_of_outcome {p : Poll} {events : List Event} (hp : p.outcome? = some (.ok events)) :
    p.events = events := by
  simp [Poll.events, hp]

theorem events_of_error {p : Poll} {e : SourceError} (hp : p.outcome? = some (.error e)) :
    p.events = [] := by
  simp [Poll.events, hp]

end Poll

/-- Adds a happening to the polls so far, the latest poll first. -/
def note (polls : List Poll) : Happening → List Poll
  | .polled _ w => { window := w } :: polls
  | .answered _ a =>
    match polls with
    | p :: earlier => p.hear a :: earlier
    | [] => []
  | _ => polls

def polls (h : List Happening) : List Poll := h.foldl note []

/-- The events that all polls gave, in order. -/
def gathered (polls : List Poll) : List Event := polls.reverse.flatMap Poll.events

theorem polls_append : polls (h ++ h') = h'.foldl note (polls h) := List.foldl_append

@[simp] theorem gathered_cons (p : Poll) (earlier : List Poll) :
    gathered (p :: earlier) = gathered earlier ++ p.events := by
  simp [gathered]

/-- A fetch under way has taken the answers of its poll and waits for another one. -/
structure Poll.Open (p : Poll) (f : Fetch) : Prop where
  window : f.window = p.window
  arrived : f.arrived = p.arrived
  result : ∀ more, (fetchWindow p.window (p.answers ++ more)).result = (f.run more).result
  waiting : p.answers.getLast?.any isLast = false

namespace Poll.Open

variable {p : Poll} {f f' : Fetch} {a : Answer}

theorem start (w : Window) : Poll.Open { window := w } { window := w } :=
  ⟨rfl, rfl, fun _ => rfl, rfl⟩

theorem hear_arrived (hp : p.Open f) (page : Page) :
    (p.hear (.ok page)).arrived = f.arrived ++ page.events := by
  simp [Poll.arrived, Poll.hear, hp.arrived, Except.toOption]

theorem events_nil (hp : p.Open f) : p.events = [] := by
  simp [Poll.events, Poll.outcome?, hp.waiting]

theorem hear_more (hp : p.Open f) (ha : f.receive a = .more f') : (p.hear a).Open f' := by
  have hres := fun more => hp.result (a :: more)
  simp only [Fetch.run, ha] at hres
  obtain ⟨page, token, rfl, ht, rfl⟩ := Fetch.receive_more ha
  refine ⟨hp.window, (hp.hear_arrived page).symm, ?_, ?_⟩
  · intro more
    rw [← hres more, Poll.hear, List.append_assoc, List.singleton_append]
  · simp [Poll.hear, isLast, ht]

/-- The last page brings the result of all pages of the poll. -/
theorem hear_done {events : List Event} (hp : p.Open f) (ha : f.receive a = .done events) :
    (p.hear a).outcome? = some (.ok events) ∧
      events = Fetch.result (p.hear a).window (p.hear a).arrived := by
  have hres := hp.result [a]
  simp only [Fetch.run, ha] at hres
  obtain ⟨page, rfl, ht, rfl⟩ := Fetch.receive_done ha
  refine ⟨?_, ?_⟩
  · simpa [Poll.outcome?, Poll.hear, isLast, ht] using hres
  · rw [hp.hear_arrived, Poll.hear, hp.window]

theorem hear_failed {e : SourceError} (hp : p.Open f) (ha : f.receive a = .failed e) :
    (p.hear a).outcome? = some (.error e) := by
  have hres := hp.result [a]
  simp only [Fetch.run, ha] at hres
  obtain rfl := Fetch.receive_failed ha
  simpa [Poll.outcome?, Poll.hear, isLast] using hres

end Poll.Open
end LogFollow.Stream
