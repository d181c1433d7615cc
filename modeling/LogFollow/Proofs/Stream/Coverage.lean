import LogFollow.Proofs.Stream.Safety

/-!
# What a stream asks for

Every request of a stream belongs to the window that the cursor gave at the last poll. As the cursor
follows the events put into the queue, no time that they cover is asked for again. The one exception
is the last time of all: behind it there is no other, and a window that reaches it asks for it once
more.
-/

namespace LogFollow.Stream
set_option autoImplicit false

variable {config : Config} {before moves : List Move} {m : Move} {s s' : State}
  {h new : List Happening} {r : Request}

/-- What the clock says at a move, if the move reads it. -/
def Move.clock? : Move → Option Int
  | .poll now => some now
  | _ => none

/-- What the clock said at the last poll. -/
def lastClock (moves : List Move) : Option Int := (moves.filterMap Move.clock?).getLast?

theorem lastClock_concat (moves : List Move) (m : Move) :
    lastClock (moves ++ [m]) = m.clock?.or (lastClock moves) := by
  cases hm : m.clock? <;> simp [lastClock, hm]

/-- A request for a page of the window that the cursor gives at the last poll. -/
def Asks (config : Config) (moves : List Move) (c : Cursor) (w : Window) : Prop :=
  ∃ now, lastClock moves = some now ∧ c.window config now = some w

/-- A fetch under way is one for the window of the last poll. -/
def Asking (config : Config) (moves : List Move) (s : State) : Prop :=
  ∀ f, s.phase = .fetching f → Asks config moves s.cursor f.window

theorem asks_poll {now : Int} {w : Window} (hw : s.cursor.window config now = some w) :
    Asks config (moves ++ [.poll now]) s.cursor w :=
  ⟨now, by rw [lastClock_concat]; rfl, hw⟩

theorem Asks.concat {c : Cursor} {w : Window} (ha : Asks config moves c w) (hm : m.clock? = none) :
    Asks config (moves ++ [m]) c w := by
  obtain ⟨now, hclock, hw⟩ := ha
  exact ⟨now, by rw [lastClock_concat, hm, Option.none_or, hclock], hw⟩

theorem receive_more_window {f f' : Fetch} {a : Answer} (hf : f.receive a = .more f') :
    f'.window = f.window := by
  obtain ⟨page, token, -, -, rfl⟩ := Fetch.receive_more hf
  rfl

theorem asking_step (ha : Asking config moves s) (hs : Step config s m s' new) :
    Asking config (moves ++ [m]) s' := by
  intro f hf
  cases hs with
  | asked now w hp hw hc =>
    cases hf
    exact asks_poll hw
  | more f₀ f' a hp hc hmore =>
    cases hf
    rw [receive_more_window hmore]
    exact (ha f₀ hp).concat rfl
  | taken | reportTaken | left | cancelled => exact (ha f hf).concat rfl
  | _ => cases hf

theorem asking_run (hr : run config {} moves = some (s, h)) : Asking config moves s := by
  have hasking := run_keeps_moves (P := fun moves s _ => Asking config moves s)
    (fun ha hs => asking_step ha hs) [] (fun f hf => by cases hf) (h := []) hr
  simpa using hasking

/-- A request is made when a poll begins, and after a page that is not the last. -/
theorem requested_step (ha : Asking config moves s) (hs : Step config s m s' new)
    (hr : r ∈ requests new) :
    ∃ w token, r = .ofWindow w token ∧ Asks config (moves ++ [m]) s.cursor w := by
  cases hs with
  | asked now w hp hw hc =>
    obtain rfl : r = Fetch.request { window := w } := by simpa [requests] using hr
    exact ⟨w, none, rfl, asks_poll hw⟩
  | more f f' a hp hc hmore =>
    obtain rfl : r = f'.request := by simpa [requests] using hr
    refine ⟨f'.window, f'.token, rfl, ?_⟩
    rw [receive_more_window hmore]
    exact (ha f hp).concat rfl
  | _ => simp [requests] at hr

/-- No time is asked for again that is covered by the events so far, unless it is the last time of
all. Whatever a source answers and whatever the clock says: every request is for a window that ends
where the stream ends or else at the clock of its poll, and that does not start behind its end. Once
there are events the window has no limit, and it starts behind all of them exactly when none of them
has the last time; an event at its end or behind it has that time, and the window reaches it. -/
theorem requests_behind_events (config : Config) (moves : List Move) (m : Move) (s s' : State)
    (h new : List Happening) (hr : run config {} moves = some (s, h))
    (hs : step config s m = some (s', new)) (r : Request) (hreq : r ∈ requests new) :
    ∃ w token now stop, r = .ofWindow w token ∧ lastClock (moves ++ [m]) = some now ∧
      stop = config.stop.getD now ∧ w.stop = some stop ∧
      (∀ start, w.start = some start → start ≤ stop) ∧
      (emissions h ≠ [] → w.limit = 0 ∧ ∃ start, w.start = some start ∧
        ((∀ e ∈ emissions h, e.timestamp < start) ↔
          ∀ e ∈ emissions h, e.timestamp < Number.maxSigned)) ∧
      ∀ e ∈ emissions h, stop ≤ e.timestamp →
        Number.maxSigned ≤ e.timestamp ∧ Number.maxSigned ≤ stop := by
  have hfollows := (sound_run hr).follows
  obtain ⟨w, token, hw, now, hclock, hwindow⟩ := requested_step (asking_run hr) (step_cases hs) hreq
  obtain ⟨-, hstop, -, hrange⟩ := window_start hwindow
  exact ⟨w, token, now, _, hw, hclock, rfl, hstop, hrange, hfollows.start_behind_iff hwindow,
    fun e he hend => hfollows.maxSigned_le hwindow he hend⟩

/-- An event behind the end of its window, and one with the first time of all: the next window starts
behind both. -/
theorem requests_behind_events_of_stray : ∃ s h s' new r,
    run { group := "g", limit := 5 } {}
      [.poll 10, .answer (.ok ⟨[⟨40, 0, "b"⟩, ⟨Number.minSigned, 0, "a"⟩], none, []⟩), .send, .send,
        .send, .wake, .poll 40, .wake] = some (s, h) ∧
    step { group := "g", limit := 5 } s (.poll 60) = some (s', new) ∧
    requests new = [r] ∧ emissions h = [⟨Number.minSigned, 0, "a"⟩, ⟨40, 0, "b"⟩] ∧
    r.stop = some 60 ∧ r.limit = none ∧ r.start = some 41 ∧ ∀ e ∈ emissions h, e.timestamp < 41 := by
  have hrun : ∃ s h s' new r, run { group := "g", limit := 5 } {}
      [.poll 10, .answer (.ok ⟨[⟨40, 0, "b"⟩, ⟨Number.minSigned, 0, "a"⟩], none, []⟩), .send, .send,
        .send, .wake, .poll 40, .wake] = some (s, h) ∧
      step { group := "g", limit := 5 } s (.poll 60) = some (s', new) ∧ requests new = [r] ∧
      emissions h = [⟨Number.minSigned, 0, "a"⟩, ⟨40, 0, "b"⟩] ∧ r.start = some 41 :=
    ⟨_, _, _, _, _, by cbv, by cbv, by cbv, by cbv, by cbv⟩
  obtain ⟨s, h, s', new, r, hr, hs, hreq, he, hstart⟩ := hrun
  obtain ⟨w, token, now, stop, rfl, hclock, hstop, hwstop, -, hbehind, -⟩ :=
    requests_behind_events _ _ _ s s' h new hr hs r (by simp [hreq])
  have hnow : now = 60 := Option.some.inj (hclock.symm.trans (by cbv))
  obtain ⟨hlimit, start, hwstart, hiff⟩ := hbehind (by simp [he])
  obtain rfl : start = 41 := Option.some.inj (hwstart.symm.trans hstart)
  refine ⟨s, h, s', new, _, hr, hs, hreq, he, ?_, ?_, hstart, hiff.mpr ?_⟩
  · simpa [Request.ofWindow, hstop, hnow] using hwstop
  · simp [Request.ofWindow, hlimit]
  · rw [he]
    decide

/-- A source that has given an event at the last time of all is asked for that time again. -/
theorem last_time_asked_again : ∃ s h s' new r,
    run { group := "g", stop := some Number.maxSigned } {}
      [.poll 0, .answer (.ok ⟨[⟨Number.maxSigned, 0, "a"⟩], none, []⟩), .send, .send, .wake]
        = some (s, h) ∧
    step { group := "g", stop := some Number.maxSigned } s (.poll 0) = some (s', new) ∧
    requests new = [r] ∧ emissions h = [⟨Number.maxSigned, 0, "a"⟩] ∧
    r.start = some Number.maxSigned ∧ r.stop = some Number.maxSigned :=
  ⟨_, _, _, _, _, by cbv, by cbv, by cbv, by cbv, by cbv, by cbv⟩

end LogFollow.Stream
