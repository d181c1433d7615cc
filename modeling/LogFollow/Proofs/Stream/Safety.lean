import LogFollow.Proofs.Stream.Cursor

/-!
# What a stream never does

In every run, with every source, clock, reader and cancellation: the events put into the queue
follow the results of the fetches, a failure is handed over once and last, and nothing happens
behind a cancellation.
-/

namespace LogFollow.Stream
set_option autoImplicit false

variable {config : Config} {s s' : State} {m : Move} {h new later : List Happening}

/-- What the phase of the task says about the record: only while events are being sent, some of
those that the polls gave are missing. -/
def Phase.Accords (h : List Happening) : Phase → Prop
  | .polling | .resting => emissions h = gathered (polls h)
  | .fetching f => ∃ p earlier, polls h = p :: earlier ∧ p.Open f ∧ emissions h = gathered earlier
  | .sending rest => emissions h ++ rest = gathered (polls h)
  | .reporting e => (∃ p earlier, polls h = p :: earlier ∧ p.outcome? = some (.error e)) ∧
      emissions h = gathered (polls h)
  | .stopped => emissions h <+: gathered (polls h)

theorem Phase.Accords.beginning {p : Phase} (ha : p.Accords h) :
    emissions h <+: gathered (polls h) := by
  cases p with
  | polling | resting => exact ⟨[], by simpa [Phase.Accords] using ha⟩
  | fetching f =>
    obtain ⟨p, earlier, hp, hopen, he⟩ := ha
    exact ⟨[], by rw [hp, gathered_cons, hopen.events_nil, he]⟩
  | sending rest => exact ⟨rest, ha⟩
  | reporting e => exact ⟨[], by simpa using ha.2⟩
  | stopped => exact ha

theorem accords_step (ha : s.phase.Accords h) (hs : Step config s m s' new) :
    s'.phase.Accords (h ++ new) := by
  have hprefix := ha.beginning
  cases hs with
  | ended now hp hw hstop => simpa [Phase.Accords, polls_append, note, emissions_cons] using hprefix
  | skipped now hp hw hstop =>
    simpa [Phase.Accords, hp, polls_append, note, emissions_cons] using ha
  | late now w hp hw hc =>
    simp only [Phase.Accords, hp] at ha
    simp [Phase.Accords, polls_append, note, emissions_cons, ha]
  | asked now w hp hw hc =>
    simp only [Phase.Accords, hp] at ha
    refine ⟨{ window := w }, polls h, ?_, Poll.Open.start w, ?_⟩
    · simp [polls_append, note]
    · simpa [emissions_cons] using ha
  | more f f' a hp hc hf =>
    simp only [Phase.Accords, hp] at ha
    obtain ⟨p, earlier, hpolls, hopen, he⟩ := ha
    refine ⟨p.hear a, earlier, ?_, hopen.hear_more hf, ?_⟩
    · simp [polls_append, note, hpolls]
    · simpa [emissions_cons] using he
  | fetched f a events hp hc hf =>
    simp only [Phase.Accords, hp] at ha
    obtain ⟨p, earlier, hpolls, hopen, he⟩ := ha
    have hevents := Poll.events_of_outcome (hopen.hear_done hf).1
    simp [Phase.Accords, polls_append, note, hpolls, emissions_cons, he, hevents]
  | failed f a e hp hc hf =>
    simp only [Phase.Accords, hp] at ha
    obtain ⟨p, earlier, hpolls, hopen, he⟩ := ha
    have hfailed := hopen.hear_failed hf
    refine ⟨⟨p.hear a, earlier, ?_, hfailed⟩, ?_⟩
    · simp [polls_append, note, hpolls]
    · simp [polls_append, note, hpolls, emissions_cons, he, Poll.events_of_error hfailed]
  | delivered hp => simpa [Phase.Accords, hp] using ha
  | deserted e rest hp hc hr =>
    simpa [Phase.Accords, polls_append, note, emissions_cons] using hprefix
  | sent e rest hp hc hr hq =>
    simpa [Phase.Accords, hp, polls_append, note, emissions_cons] using ha
  | reported e hp hc => simpa [Phase.Accords, polls_append, note, emissions_cons] using hprefix
  | woken hp hc => simpa [Phase.Accords, hp] using ha
  | halted hc hp => simpa [Phase.Accords, polls_append, note, emissions_cons] using hprefix
  | taken e queue hq hr => simpa using ha
  | reportTaken hr => simpa using ha
  | left => simpa using ha
  | cancelled => simpa using ha

theorem stopped_step (hp : s.phase = .stopped) (hs : Step config s m s' new) :
    s'.phase = .stopped ∧ new = [] := by
  cases hs <;> simp_all [Phase.isWaiting]

/-- A task that is cancelled puts no event into the queue, hands over no failure and asks for
nothing, even if there is room in the queue. -/
theorem cancelled_step (hc : s.cancelled = true) (hs : Step config s m s' new) :
    s'.cancelled = true ∧ Quiet new := by
  cases hs <;> simp_all [Quiet, emissions, reports, requests]

/-- Nothing was handed over as a failure, or one failure was: it ended the fetch of the last poll,
all events of the polls had been put into the queue, and nothing followed. -/
def FailsLast (h : List Happening) : Prop :=
  reports h = [] ∨ ∃ before e after, h = before ++ .reported e :: after ∧ reports before = [] ∧
    (∃ p earlier, polls before = p :: earlier ∧ p.outcome? = some (.error e)) ∧
    emissions before = gathered (polls before) ∧ Quiet after

theorem FailsLast.length_reports (hf : FailsLast h) : (reports h).length ≤ 1 := by
  rcases hf with hf | ⟨before, e, after, rfl, hb, _, _, hq⟩
  · simp [hf]
  · simp [reports_cons, hb, hq.2.1]

/-- As long as a task has not stopped, it has handed over no failure. -/
def Faultless (s : State) (h : List Happening) : Prop :=
  (s.phase ≠ .stopped → reports h = []) ∧ FailsLast h

theorem faultless_step (hf : Faultless s h) (ha : s.phase.Accords h)
    (hs : Step config s m s' new) : Faultless s' (h ++ new) := by
  by_cases hstop : s.phase = .stopped
  · obtain ⟨hstop', rfl⟩ := stopped_step hstop hs
    simpa [Faultless, hstop'] using hf.2
  · have hnone := hf.1 hstop
    cases hs with
    | reported e hp hc =>
      simp only [Phase.Accords, hp] at ha
      exact ⟨fun hne => absurd rfl hne,
        .inr ⟨h, e, _, rfl, hnone, ha.1, ha.2, Quiet.stopped _ _ _⟩⟩
    | _ => exact ⟨fun _ => by simp [hnone, reports_cons], .inl (by simp [hnone, reports_cons])⟩

/-- The fetches that came to an end gave the results of their windows and arrivals. -/
def PollsGive (h : List Happening) : Prop :=
  ∀ p ∈ polls h, ∀ events, p.outcome? = some (.ok events) →
    events = Fetch.result p.window p.arrived

theorem pollsGive_step (hg : PollsGive h) (ha : s.phase.Accords h)
    (hs : Step config s m s' new) : PollsGive (h ++ new) := by
  unfold PollsGive at hg ⊢
  cases hs with
  | late now w hp hw hc | asked now w hp hw hc =>
    simpa [polls_append, note, Poll.outcome?] using hg
  | more f f' a hp hc hf =>
    simp only [Phase.Accords, hp] at ha
    obtain ⟨p, earlier, hpolls, hopen, _⟩ := ha
    have hwaiting := (hopen.hear_more hf).waiting
    simp only [polls_append, note, hpolls, List.foldl_cons, List.foldl_nil, List.forall_mem_cons]
    rw [hpolls, List.forall_mem_cons] at hg
    exact ⟨by simp [Poll.outcome?, hwaiting], hg.2⟩
  | fetched f a events hp hc hf =>
    simp only [Phase.Accords, hp] at ha
    obtain ⟨p, earlier, hpolls, hopen, _⟩ := ha
    obtain ⟨hdone, hevents⟩ := hopen.hear_done hf
    simp only [polls_append, note, hpolls, List.foldl_cons, List.foldl_nil, List.forall_mem_cons]
    rw [hpolls, List.forall_mem_cons] at hg
    refine ⟨?_, hg.2⟩
    intro events' hdone'
    rw [hdone] at hdone'
    cases hdone'
    exact hevents
  | failed f a e hp hc hf =>
    simp only [Phase.Accords, hp] at ha
    obtain ⟨p, earlier, hpolls, hopen, _⟩ := ha
    have hfailed := hopen.hear_failed hf
    simp only [polls_append, note, hpolls, List.foldl_cons, List.foldl_nil, List.forall_mem_cons]
    rw [hpolls, List.forall_mem_cons] at hg
    exact ⟨by simp [hfailed], hg.2⟩
  | _ => simpa [polls_append, note] using hg

/-- What holds after every run of a stream. -/
structure Sound (s : State) (h : List Happening) : Prop where
  accords : s.phase.Accords h
  given : PollsGive h
  follows : s.cursor.Follows h
  faultless : Faultless s h

theorem sound_start : Sound {} [] :=
  ⟨rfl, fun _ hp => absurd hp List.not_mem_nil, rfl, fun _ => rfl, .inl rfl⟩

theorem sound_step (hi : Sound s h) (hs : Step config s m s' new) : Sound s' (h ++ new) :=
  ⟨accords_step hi.accords hs, pollsGive_step hi.given hi.accords hs, follows_step hi.follows hs,
    faultless_step hi.faultless hi.accords hs⟩

/-- What is taken out of the queue or the slot of a failure concerns neither the task nor its
cursor. -/
theorem Sound.of_same (hi : Sound s h) (hp : s'.phase = s.phase) (hc : s'.cursor = s.cursor) :
    Sound s' h where
  accords := hp ▸ hi.accords
  given := hi.given
  follows := hc ▸ hi.follows
  faultless := ⟨hp ▸ hi.faultless.1, hi.faultless.2⟩

theorem sound_run {moves : List Move} (hr : run config {} moves = some (s, h)) : Sound s h := by
  have hsound := run_keeps (P := Sound) sound_step sound_start hr
  rwa [List.nil_append] at hsound

theorem quiet_run {moves : List Move} (hc : s.cancelled = true)
    (hr : run config s moves = some (s', later)) : Quiet later := by
  have hquiet := run_keeps (P := fun s h => s.cancelled = true ∧ Quiet h)
    (fun hi hs => ⟨(cancelled_step hi.1 hs).1, hi.2.append (cancelled_step hi.1 hs).2⟩)
    ⟨hc, quiet_nil⟩ hr
  exact hquiet.2

/-- Whatever a source answers, however the clock runs, whatever its reader does and whenever it is
cancelled: the events that a stream puts into its queue are a beginning of what its polls gave, and
the cursor is the latest of their times; a failure is handed over at most once, for the fetch of the
last poll, behind all events and before nothing else; and once the stream is cancelled, it puts no
event into the queue, hands over no failure and asks for no page. -/
theorem run_safe (config : Config) (moves : List Move) (s : State) (h : List Happening)
    (hr : run config {} moves = some (s, h)) :
    (emissions h <+: gathered (polls h) ∧
      s.cursor.last = ((emissions h).map (·.timestamp)).max?) ∧
    ((reports h).length ≤ 1 ∧ FailsLast h) ∧
    (s.cancelled = true → ∀ more s' later, run config s more = some (s', later) → Quiet later) := by
  have hsound := sound_run hr
  refine ⟨⟨hsound.accords.beginning, hsound.follows⟩, ⟨?_, hsound.faultless.2⟩, ?_⟩
  · exact hsound.faultless.2.length_reports
  · intro hc more s' later hmore
    exact quiet_run hc hmore

/-- A poll whose second page fails after a poll that gave two events: the failure is handed over
behind both. -/
theorem run_safe_of_failure : ∃ s h,
    run { group := "g", capacity := 1 } {}
      [.poll 10, .answer (.ok ⟨[⟨7, 0, "b"⟩, ⟨5, 0, "a"⟩], none, []⟩), .send, .take, .send, .send,
        .wake, .poll 9, .answer (.ok ⟨[⟨8, 0, "c"⟩], some "more", []⟩),
        .answer (.error (.throttled "slow")), .report, .cancel] = some (s, h) ∧
    emissions h = [⟨5, 0, "a"⟩, ⟨7, 0, "b"⟩] ∧ reports h = [.throttled "slow"] ∧
    emissions h <+: gathered (polls h) ∧ FailsLast h ∧
    ∀ more s' later, run { group := "g", capacity := 1 } s more = some (s', later) →
      Quiet later := by
  have hrun : ∃ s h, run { group := "g", capacity := 1 } {}
      [.poll 10, .answer (.ok ⟨[⟨7, 0, "b"⟩, ⟨5, 0, "a"⟩], none, []⟩), .send, .take, .send, .send,
        .wake, .poll 9, .answer (.ok ⟨[⟨8, 0, "c"⟩], some "more", []⟩),
        .answer (.error (.throttled "slow")), .report, .cancel] = some (s, h) ∧
      s.cancelled = true ∧ emissions h = [⟨5, 0, "a"⟩, ⟨7, 0, "b"⟩] ∧
      reports h = [.throttled "slow"] :=
    ⟨_, _, by cbv, rfl, rfl, rfl⟩
  obtain ⟨s, h, hrun, hc, he, hreports⟩ := hrun
  obtain ⟨⟨hgathered, -⟩, ⟨-, hfails⟩, hquiet⟩ := run_safe _ _ s h hrun
  exact ⟨s, h, hrun, he, hreports, hgathered, hfails, hquiet hc⟩

end LogFollow.Stream
