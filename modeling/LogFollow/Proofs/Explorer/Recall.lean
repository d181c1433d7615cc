import LogFollow.Proofs.Explorer.Exchange

/-!
# What a query brings back

A query among the received events looks at the last of them and at nothing else. The queries before
it, what was answered to them and what the view has come to show leave no trace in its outcome, so
that two sessions which have received the same events show the same behind it.
-/

namespace LogFollow.Explorer
set_option autoImplicit false

/-- What comes to a session: the events that were there before it, or a message. -/
inductive Input
  | loads (events : List Event)
  | tells (m : Message)

def Input.events : Input → List Event
  | .loads events => events
  | .tells (.arrived e) => [e]
  | .tells _ => []

def received (inputs : List Input) : List Event := inputs.flatMap Input.events

theorem Input.events_tells {m : Message} (hm : ∀ e, m ≠ .arrived e) :
    (Input.tells m).events = [] := by
  cases m <;> first | rfl | exact absurd rfl (hm _)

namespace Session

def feed (s : Session) : Input → Session
  | .loads events => s.receiveAll events
  | .tells m => (s.update m).1

def feedAll (s : Session) (inputs : List Input) : Session := inputs.foldl feed s

/-- A query of a session: it is sent out, messages come that are neither events nor answers, and it
is answered by a local search all of whose workers have finished. -/
inductive Asks (s : Session) (term : String) : Session → Prop
  | answered (m : Message) (mode : QueryMode) (corpus : List Event) (between : List Message)
      (workers : Nat) (order : List Nat) (hm : (s.update m).2 = some (.ask term mode corpus))
      (hbetween : ∀ m ∈ between, (∀ e, m ≠ .arrived e) ∧ ∀ result, m ≠ .answered result)
      (hall : ∀ i < (Search.work workers corpus).length, i ∈ order) :
      Asks s term (((s.update m).1.updateAll between).1.update
        (.answered (Search.runLocal term corpus workers order))).1

/-- What an open session keeps of the events that it has received. -/
structure Retains (options : Options) (events : List Event) (s : Session) : Prop where
  options : s.options = options
  capacity : s.view.capacity = s.capacity
  corpus : s.corpus = events.rtake s.capacity
  watching : s.Watching

variable {options : Options} {events : List Event} {inputs : List Input} {s s' : Session}
  {m : Message} {c : Option Command} {e : Event} {term : String} {mode : QueryMode}
  {corpus : List Event}

theorem retains_new (options : Options) : (new options).Retains options [] where
  options := rfl
  capacity := rfl
  corpus := by simp [new]
  watching := watching_new options

theorem Retains.capacity_eq (r : s.Retains options events) :
    s.capacity = max options.capacity 1 := by
  rw [Session.capacity, r.options]

theorem Retains.corpus_eq (r : s.Retains options events) :
    s.corpus = events.rtake (max options.capacity 1) := by
  rw [r.corpus, r.capacity_eq]

theorem Retains.receive (r : s.Retains options events) (e : Event) :
    (s.receive e).Retains options (events ++ [e]) where
  options := (s.receive_options e).trans r.options
  capacity := by simpa using r.capacity
  corpus := by
    rw [receive_corpus, receive_capacity, r.corpus]
    exact rtake_rtake_append _ _ _
  watching := by simpa [Watching] using r.watching

theorem Retains.receiveAll (r : s.Retains options events) (more : List Event) :
    (s.receiveAll more).Retains options (events ++ more) := by
  induction more generalizing s events with
  | nil => simpa [Session.receiveAll] using r
  | cons e more ih =>
    have hrest := ih (r.receive e)
    rwa [List.append_assoc] at hrest

/-- Only an event changes what a session retains. -/
theorem Retains.takes (r : s.Retains options events) (ht : Takes s m s' c)
    (hm : ∀ e, m ≠ .arrived e) : s'.Retains options events := by
  have hwatching := r.watching.takes ht
  cases ht with
  | received e => exact absurd rfl (hm e)
  | concluded result =>
    have hcapacity := s.conclude_capacity result
    refine ⟨(s.conclude_options result).trans r.options, ?_, ?_, hwatching⟩
    · exact (s.conclude_view_capacity result).trans (r.capacity.trans hcapacity.symm)
    · rw [hcapacity]
      exact (s.conclude_corpus result).trans r.corpus
  | viewed m v hv => exact ⟨r.options, hv.capacity.trans r.capacity, r.corpus, hwatching⟩
  | asked | closed | focused | edited | ticked =>
    exact ⟨r.options, r.capacity, r.corpus, hwatching⟩

theorem closing_feed {i : Input} (hopen : (s.feed i).closing = none) : s.closing = none := by
  cases i with
  | loads events => exact (s.receiveAll_closing events).symm.trans hopen
  | tells m => exact closing_update hopen

theorem Retains.feed (r : s.Retains options events) (hopen : s.closing = none) (i : Input) :
    (s.feed i).Retains options (events ++ i.events) := by
  cases i with
  | loads more => exact r.receiveAll more
  | tells m =>
    rw [Session.feed, update_of_open hopen]
    by_cases hm : ∃ e, m = .arrived e
    · obtain ⟨e, rfl⟩ := hm
      exact r.receive e
    · have hm : ∀ e, m ≠ .arrived e := fun e he => hm ⟨e, he⟩
      rw [Input.events_tells hm, List.append_nil]
      exact r.takes (take_cases rfl) hm

/-- A session that is still open has received all events, whatever else has come. -/
theorem retains_feedAll (options : Options) (inputs : List Input)
    (hopen : ((new options).feedAll inputs).closing = none) :
    ((new options).feedAll inputs).Retains options (received inputs) := by
  induction inputs using List.reverseRecOn with
  | nil => exact retains_new options
  | append_singleton inputs i ih =>
    have hfed : (new options).feedAll (inputs ++ [i]) = ((new options).feedAll inputs).feed i := by
      simp [feedAll]
    have hreceived : received (inputs ++ [i]) = received inputs ++ i.events := by
      simp [received]
    rw [hfed] at hopen ⊢
    rw [hreceived]
    have hbefore := closing_feed hopen
    exact (ih hbefore).feed hbefore i

/-- A query is sent out from the query box only. -/
theorem ask_of_update (h : (s.update m).2 = some (.ask term mode corpus)) :
    s.closing = none ∧ (s.update m).1 = s.ask.1 ∧ s.ask.2 = some (.ask term mode corpus) := by
  obtain ⟨s', c, hs⟩ : ∃ s' c, s.update m = (s', c) := ⟨_, _, rfl⟩
  rw [hs] at h ⊢
  rcases update_cases hs with ⟨hopen, ht⟩ | ⟨-, -, hnone⟩
  · cases ht with
    | asked p hf hp => exact ⟨hopen, rfl, h⟩
    | _ => cases h
  · cases hnone.symm.trans h

/-- While a query is under way only its answer ends it. -/
theorem Watching.load_takes (hw : s.Watching) (ht : Takes s m s' c)
    (ha : ∀ result, m ≠ .answered result) (hload : s.load = .querying) : s'.load = .querying := by
  cases ht with
  | received e => exact (s.receive_load e).trans hload
  | concluded result => exact absurd rfl (ha result)
  | asked p hf hp =>
    cases (hw.idle hf).symm.trans hload
  | closed | viewed | focused | edited | ticked => exact hload

theorem Retains.updateAll (r : s.Retains options events) (hload : s.load = .querying)
    {between : List Message}
    (hbetween : ∀ m ∈ between, (∀ e, m ≠ .arrived e) ∧ ∀ result, m ≠ .answered result)
    (hopen : (s.updateAll between).1.closing = none) :
    (s.updateAll between).1.Retains options events ∧
      (s.updateAll between).1.load = .querying := by
  induction between generalizing s with
  | nil => exact ⟨r, hload⟩
  | cons m between ih =>
    obtain ⟨⟨hm, ha⟩, hrest⟩ := List.forall_mem_cons.mp hbetween
    obtain ⟨s', c, hs⟩ : ∃ s' c, s.update m = (s', c) := ⟨_, _, rfl⟩
    simp only [Session.updateAll, hs] at hopen ⊢
    rcases update_cases hs with ⟨-, ht⟩ | ⟨-, rfl, -⟩
    · exact ih (r.takes ht hm) (r.watching.load_takes ht ha hload) hrest hopen
    · exact ih r hload hrest hopen

/-- The answer shows what holds the term among the events that the session retains. -/
theorem Retains.answered (r : s.Retains options events) (hload : s.load = .querying)
    (hopen : s.closing = none) {workers : Nat} {order : List Nat}
    (hlength : corpus.length ≤ s.capacity)
    (hall : ∀ i < (Search.work workers corpus).length, i ∈ order) :
    (s.update (.answered (Search.runLocal term corpus workers order))).1.view.hits =
      ((corpus.filter (Search.holds term)).mergeSort Event.notLater).map (Search.hitOf term) := by
  rw [update_of_open hopen, Search.runLocal_complete hall]
  refine (conclude_hits hload _).trans ?_
  rw [r.capacity]
  apply rtake_of_length_le
  rw [List.length_map, List.length_mergeSort]
  exact (List.length_filter_le _ _).trans hlength

theorem Asks.outcome (hs : ((new options).feedAll inputs).Asks term s)
    (hmode : options.mode = .received) (hopen : s.closing = none) :
    s.corpus = (received inputs).rtake (max options.capacity 1) ∧
    s.view.hits = ((((received inputs).rtake (max options.capacity 1)).filter
      (Search.holds term)).mergeSort Event.notLater).map (Search.hitOf term) := by
  obtain ⟨m, mode, corpus, between, workers, order, hm, hbetween, hall⟩ := hs
  obtain ⟨hbefore, hasking, hask⟩ := ask_of_update hm
  rw [hasking] at hopen ⊢
  have r := retains_feedAll options inputs hbefore
  -- The query looks at what the session retains.
  obtain ⟨-, -, rfl⟩ : ((new options).feedAll inputs).editor.value = term ∧
      QueryMode.received = mode ∧ ((new options).feedAll inputs).corpus = corpus := by
    simpa [ask, r.options, hmode] using hask
  have hanswered := closing_update hopen
  obtain ⟨r', hload⟩ := Retains.updateAll (s := ((new options).feedAll inputs).ask.1)
    ⟨r.options, r.capacity, r.corpus, fun _ => rfl⟩ rfl hbetween hanswered
  refine ⟨?_, ?_⟩
  · rw [update_of_open hanswered]
    exact (r'.takes (.concluded _) (by simp)).corpus_eq
  · rw [r'.answered hload hanswered ?_ hall, r.corpus_eq]
    rw [r'.capacity_eq, r.corpus_eq, length_rtake]
    exact Nat.min_le_left _ _

end Session

/-- The outcome of a query does not depend on what was before it. Two sessions with room for the same
number of events that have received the same ones, and between them any queries, answers, failures,
keys and changes of size, show the same after a query for the same term: the events among the last
they received that hold it, in the order of their times, each highlighted where the term stands. The
empty term brings back all that is retained. -/
theorem query_independent_of_past {options options' : Options} {inputs inputs' : List Input}
    {term : String} {s s' : Session} (hmode : options.mode = .received)
    (hmode' : options'.mode = .received)
    (hcapacity : max options.capacity 1 = max options'.capacity 1)
    (hreceived : received inputs = received inputs')
    (hs : ((Session.new options).feedAll inputs).Asks term s)
    (hs' : ((Session.new options').feedAll inputs').Asks term s')
    (hopen : s.closing = none) (hopen' : s'.closing = none) :
    s.view.hits = s'.view.hits ∧
    s.view.hits = ((((received inputs).rtake (max options.capacity 1)).filter
      (Search.holds term)).mergeSort Event.notLater).map (Search.hitOf term) ∧
    s.corpus = (received inputs).rtake (max options.capacity 1) ∧
    (term = "" →
      s.view.events.Perm s.corpus ∧ ∀ hit ∈ s.view.hits, hit.highlight = none) := by
  obtain ⟨hcorpus, hhits⟩ := hs.outcome hmode hopen
  obtain ⟨-, hhits'⟩ := hs'.outcome hmode' hopen'
  rw [← hreceived, ← hcapacity] at hhits'
  refine ⟨hhits.trans hhits'.symm, hhits, hcorpus, ?_⟩
  rintro rfl
  constructor
  · rw [← View.map_event_hits, hhits, hcorpus, List.map_map]
    have hall : ((received inputs).rtake (max options.capacity 1)).filter (Search.holds "") =
        (received inputs).rtake (max options.capacity 1) :=
      List.filter_eq_self.mpr fun e _ => Search.holds_empty e
    rw [hall]
    simpa [Function.comp_def, Search.hitOf] using List.mergeSort_perm _ _
  · rw [hhits]
    intro hit hmem
    obtain ⟨e, -, rfl⟩ := List.mem_map.mp hmem
    rfl

/-- Of three events two are retained. In one session all three were there before it; in the other one
they arrived around a query for another term, which failed. -/
theorem query_independent_of_past_of_failure : ∃ inputs inputs' s s',
    received inputs = [⟨1, 0, "ab"⟩, ⟨9, 0, "b"⟩, ⟨5, 0, "cb"⟩] ∧
    ((Session.new ⟨.initial, 2, .received, fun _ => 0⟩).feedAll inputs).Asks "b" s ∧
    ((Session.new ⟨.initial, 2, .received, fun _ => 1⟩).feedAll inputs').Asks "b" s' ∧
    s.view.hits = s'.view.hits ∧
    s.view.hits = [⟨⟨5, 0, "cb"⟩, some ⟨1, 2⟩⟩, ⟨⟨9, 0, "b"⟩, some ⟨0, 1⟩⟩] := by
  have hasked : ∃ inputs inputs' s s',
      received inputs = [⟨1, 0, "ab"⟩, ⟨9, 0, "b"⟩, ⟨5, 0, "cb"⟩] ∧
      received inputs' = [⟨1, 0, "ab"⟩, ⟨9, 0, "b"⟩, ⟨5, 0, "cb"⟩] ∧
      ((Session.new ⟨.initial, 2, .received, fun _ => 0⟩).feedAll inputs).Asks "b" s ∧
      ((Session.new ⟨.initial, 2, .received, fun _ => 1⟩).feedAll inputs').Asks "b" s' ∧
      s.closing = none ∧ s'.closing = none := by
    refine ⟨[.loads [⟨1, 0, "ab"⟩, ⟨9, 0, "b"⟩, ⟨5, 0, "cb"⟩],
        .tells (.key ⟨.tab, false, false, false⟩), .tells (.key ⟨.char 'b', false, false, false⟩)],
      [.tells (.arrived ⟨1, 0, "ab"⟩), .tells (.key ⟨.tab, false, false, false⟩),
        .tells (.key ⟨.char 'x', false, false, false⟩),
        .tells (.key ⟨.enter, false, false, false⟩), .tells (.arrived ⟨9, 0, "b"⟩),
        .tells (.answered (.error (.worker "lost"))), .tells (.arrived ⟨5, 0, "cb"⟩),
        .tells (.key ⟨.tab, false, false, false⟩),
        .tells (.key ⟨.backspace, false, false, false⟩),
        .tells (.key ⟨.char 'b', false, false, false⟩)], _, _, rfl, rfl,
      .answered (.key ⟨.enter, false, false, false⟩) .received
        [⟨9, 0, "b"⟩, ⟨5, 0, "cb"⟩] [] 1 [0] (by decide +kernel) (by simp) (by decide +kernel),
      .answered (.key ⟨.enter, false, false, false⟩) .received
        [⟨9, 0, "b"⟩, ⟨5, 0, "cb"⟩] [.tick] 2 [1, 0] (by decide +kernel) (by simp) (by decide +kernel),
      ?_, ?_⟩
    all_goals decide +kernel
  obtain ⟨inputs, inputs', s, s', hreceived, hreceived', hs, hs', hopen, hopen'⟩ := hasked
  obtain ⟨hsame, hhits, -, -⟩ := query_independent_of_past (by rfl) (by rfl) (by rfl)
    (hreceived.trans hreceived'.symm) hs hs' hopen hopen'
  have hheld : ((received inputs).rtake 2).filter (Search.holds "b") =
      [⟨9, 0, "b"⟩, ⟨5, 0, "cb"⟩] := by
    rw [hreceived]
    rfl
  have hsorted : [⟨9, 0, "b"⟩, ⟨5, 0, "cb"⟩].mergeSort Event.notLater =
      [⟨5, 0, "cb"⟩, ⟨9, 0, "b"⟩] := by
    simp [List.mergeSort, List.MergeSort.Internal.splitInTwo, Event.notLater]
  simp only [Nat.reduceLeDiff, max_eq_left, hheld, hsorted] at hhits
  exact ⟨inputs, inputs', s, s', hreceived, hs, hs', hsame, hhits⟩

end LogFollow.Explorer
