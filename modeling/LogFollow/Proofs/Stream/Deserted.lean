import LogFollow.Proofs.Stream.Coverage
import LogFollow.Proofs.Stream.Play

/-!
# When nobody reads any more

A task notices that its reader has gone only when it has an event to put into the queue. With an
event at hand it stops, and until then it goes on as if somebody were reading: it rests, polls and
fetches as long as its source gives nothing.
-/

namespace LogFollow.Stream
set_option autoImplicit false

variable {config : Config} {s s' t : State} {m : Move} {moves : List Move}
  {h new later : List Happening} {c : Cursor}

/-- The task has nothing to pass on, so that it does not find out whether somebody reads. -/
def Phase.isFree : Phase → Bool
  | .polling | .resting | .sending [] => true
  | .fetching f => f.arrived.isEmpty
  | .sending (_ :: _) | .reporting _ | .stopped => false

/-- The end of the stream does not lie before the next time to ask for. -/
def Cursor.HasMore (c : Cursor) (config : Config) : Prop :=
  ∀ stop start, config.stop = some stop → c.from? config = some start → start ≤ stop

/-- A request for a page of the fetch that is under way in a state. -/
def State.Awaits (s : State) (r : Request) : Prop :=
  ∃ f token, s.phase = .fetching f ∧ r = .ofWindow f.window token

theorem unread_step (hleft : s.receiving = false) (hs : Step config s m s' new) :
    s'.receiving = false ∧ s'.cursor = s.cursor ∧ emissions new = [] := by
  cases hs with
  | sent e rest hp hc hr hq =>
    rw [hleft] at hr
    cases hr
  | left => exact ⟨rfl, rfl, rfl⟩
  | _ => exact ⟨hleft, rfl, by simp [emissions_cons]⟩

theorem unread_run (hleft : s.receiving = false) (hr : run config s moves = some (s', later)) :
    emissions later = [] ∧ s'.cursor = s.cursor := by
  have hkept := run_keeps
    (P := fun t h => t.receiving = false ∧ t.cursor = s.cursor ∧ emissions h = [])
    (fun {t t' h new m} hi hs => ?_) (h := []) ⟨hleft, rfl, rfl⟩ hr
  · exact ⟨hkept.2.2, hkept.2.1⟩
  · obtain ⟨hleft, hcursor, hnone⟩ := hi
    obtain ⟨hleft', hcursor', hnone'⟩ := unread_step hleft hs
    refine ⟨hleft', hcursor'.trans hcursor, ?_⟩
    rw [emissions_append, hnone, hnone', List.append_nil]

theorem cycles_step (hs : Step config s m s' new) : s.cycles ≤ s'.cycles := by
  cases hs <;> simp

/-- What was asked for since a state belongs to the fetch that was under way there. -/
def AsksOn (t s : State) (h : List Happening) : Prop :=
  (∀ f', s.phase = .fetching f' → ∃ f, t.phase = .fetching f ∧ f'.window = f.window) ∧
    ∀ r ∈ requests h, t.Awaits r

theorem asksOn_step (hi : AsksOn t s h) (hs : Step config s m s' new)
    (hsame : s'.cycles = s.cycles) : AsksOn t s' (h ++ new) := by
  obtain ⟨hphase, hrequests⟩ := hi
  cases hs with
  | asked now w hp hw hc => simp at hsame
  | more f f' a hp hc hf =>
    obtain ⟨f₀, hp₀, hwindow⟩ := hphase f hp
    have hwindow' : f'.window = f₀.window := (receive_more_window hf).trans hwindow
    constructor
    · intro f₁ hf₁
      cases hf₁
      exact ⟨f₀, hp₀, hwindow'⟩
    · intro r hr
      rw [requests_append, List.mem_append] at hr
      rcases hr with hr | hr
      · exact hrequests r hr
      · obtain rfl : r = f'.request := by simpa [requests] using hr
        exact ⟨f₀, f'.token, hp₀, by rw [Fetch.request, hwindow']⟩
  | taken | reportTaken | left | cancelled =>
    exact ⟨hphase, by simpa [requests] using hrequests⟩
  | _ =>
    constructor
    · intro f₁ hf₁
      cases hf₁
    · simpa [requests] using hrequests

theorem asksOn_run (hr : run config s moves = some (s', later)) (hsame : s'.cycles = s.cycles) :
    AsksOn s s' later := by
  -- Cycles never go back: a run that ends in the cycle it began in has been in no other.
  have hkept := run_keeps
    (P := fun t h => s.cycles ≤ t.cycles ∧ (t.cycles = s.cycles → AsksOn s t h))
    (fun {t t' h new m} hi hs => ?_) (h := [])
    ⟨Nat.le_refl _, fun _ => ⟨fun f hf => ⟨f, hf, rfl⟩, by simp [requests]⟩⟩ hr
  · exact hkept.2 hsame
  · obtain ⟨hle, hasks⟩ := hi
    have hstep := cycles_step hs
    refine ⟨hle.trans hstep, fun hsame => ?_⟩
    exact asksOn_step (hasks (by omega)) hs (by omega)

/-- With an event at hand the task stops before a further cycle. -/
theorem occupied_step (hleft : s.receiving = false) (ho : s.phase.isFree = false)
    (hs : Step config s m s' new) : s'.phase.isFree = false ∧ s'.cycles = s.cycles := by
  cases hs with
  | more f f' a hp hc hf =>
    obtain ⟨page, token, -, -, rfl⟩ := Fetch.receive_more hf
    simp_all [Phase.isFree]
  | fetched f a events hp hc hf =>
    obtain ⟨page, -, -, rfl⟩ := Fetch.receive_done hf
    have harrived : f.arrived ≠ [] := by simpa [hp, Phase.isFree] using ho
    have hgiven : Fetch.result f.window (f.arrived ++ page.events) ≠ [] :=
      Fetch.result_ne_nil (by simp [harrived])
    obtain ⟨e, rest, hevents⟩ := List.exists_cons_of_ne_nil hgiven
    exact ⟨by simp [hevents, Phase.isFree], rfl⟩
  | sent e rest hp hc hr hq =>
    rw [hleft] at hr
    cases hr
  | _ => simp_all [Phase.isFree]

theorem occupied_run (hleft : s.receiving = false) (ho : s.phase.isFree = false)
    (hr : run config s moves = some (s', later)) : s'.cycles = s.cycles := by
  have hkept := run_keeps
    (P := fun t _ => t.receiving = false ∧ t.phase.isFree = false ∧ t.cycles = s.cycles)
    (fun {t t' h new m} hi hs => ?_) (h := []) ⟨hleft, ho, rfl⟩ hr
  · exact hkept.2.2
  · obtain ⟨hleft, ho, hsame⟩ := hi
    obtain ⟨ho', hsame'⟩ := occupied_step hleft ho hs
    exact ⟨(unread_step hleft hs).1, ho', hsame'.trans hsame⟩

def Goes (config : Config) (s s' : State) (h : List Happening) : Prop :=
  ∃ moves, (∀ m ∈ moves, m.isTasks = true) ∧ run config s moves = some (s', h)

theorem Goes.refl (s : State) : Goes config s s [] := ⟨[], by simp, rfl⟩

theorem Goes.trans (h₁ : Goes config s t h) (h₂ : Goes config t s' later) :
    Goes config s s' (h ++ later) := by
  obtain ⟨moves, htasks, hr⟩ := h₁
  obtain ⟨moves', htasks', hr'⟩ := h₂
  refine ⟨moves ++ moves', ?_, ?_⟩
  · exact List.forall_mem_append.mpr ⟨htasks, htasks'⟩
  · rw [run_append hr, hr']
    rfl

theorem Goes.single (hm : m.isTasks = true) (hs : step config s m = some (s', h)) :
    Goes config s s' h :=
  ⟨[m], by simpa using hm, run_single.trans hs⟩

theorem goes_rested (hp : s.phase = .resting) (hc : s.cancelled = false) :
    Goes config s { s with phase := .polling } [] := by
  have hstep : step config s .wake = some ({ s with phase := .polling }, []) := by
    simp [step, hp, hc]
  exact .single rfl hstep

theorem goes_drained (hp : s.phase = .sending []) (hc : s.cancelled = false) :
    Goes config s { s with phase := .polling } [] := by
  have hstep : step config s .send = some ({ s with phase := .resting }, []) := by
    simp [step, hp]
  have hrest : Goes config s { s with phase := .resting } [] := .single rfl hstep
  exact hrest.trans (goes_rested (s := { s with phase := .resting }) rfl hc)

/-- With nothing to pass on the task comes to its next poll, if the source gives nothing more. -/
theorem goes_polling (config : Config) (hf : s.phase.isFree = true) (hc : s.cancelled = false) :
    ∃ h, Goes config s { s with phase := .polling } h ∧ requests h = [] := by
  cases hp : s.phase with
  | polling =>
    have hsame : { s with phase := .polling } = s := by rw [← hp]
    rw [hsame]
    exact ⟨[], .refl s, rfl⟩
  | resting => exact ⟨[], goes_rested hp hc, rfl⟩
  | sending rest =>
    cases rest with
    | nil => exact ⟨[], goes_drained hp hc, rfl⟩
    | cons e rest => simp [hp, Phase.isFree] at hf
  | fetching f =>
    -- An empty answer ends the fetch, which has got nothing so far.
    have harrived : f.arrived = [] := by simpa [hp, Phase.isFree] using hf
    have hanswer : step config s (.answer (.ok { events := [] })) =
        some ({ s with phase := .sending [] }, [.answered f (.ok { events := [] })]) := by
      simp [step, hp, hc, State.answer, Fetch.receive, harrived, Fetch.result, keepLatest]
    have hends : Goes config s { s with phase := .sending [] }
        [.answered f (.ok { events := [] })] := .single rfl hanswer
    exact ⟨_, hends.trans (goes_drained (s := { s with phase := .sending [] }) rfl hc), rfl⟩
  | reporting e => simp [hp, Phase.isFree] at hf
  | stopped => simp [hp, Phase.isFree] at hf

theorem poll_cycles (config : Config) (s : State) (now : Int) :
    (s.poll config now).1.cycles = s.cycles + 1 := by
  cases hw : s.cursor.window config now with
  | none => cases hstop : config.stop <;> simp [State.poll, State.stop, hw, hstop]
  | some w => cases hc : s.cancelled <;> simp [State.poll, State.stop, hw, hc]

/-- With nothing to pass on the task can begin a further cycle, if only to find that none is left. -/
theorem goes_next (config : Config) (hf : s.phase.isFree = true) (hc : s.cancelled = false) :
    ∃ s' h, Goes config s s' h ∧ s'.cycles = s.cycles + 1 := by
  obtain ⟨h, hgoes, -⟩ := goes_polling config hf hc
  let t : State := { s with phase := .polling }
  have hpoll : step config t (.poll 0) = some (t.poll config 0) := rfl
  exact ⟨_, _, hgoes.trans (.single rfl hpoll), poll_cycles config t 0⟩

theorem Cursor.HasMore.window (hm : c.HasMore config) :
    ∃ now w, c.window config now = some w := by
  refine ⟨(c.from? config).getD 0, Option.isSome_iff_exists.mp ?_⟩
  unfold Cursor.window
  cases hfrom : c.from? config with
  | none => simp
  | some start =>
    cases hstop : config.stop with
    | none => simp
    | some stop =>
      have hle : start ≤ stop := hm stop start hstop hfrom
      simp [Int.not_lt.mpr hle]

theorem goes_round (hp : s.phase = .polling) (hc : s.cancelled = false)
    (hm : s.cursor.HasMore config) :
    ∃ h, Goes config s { s with phase := .polling, cycles := s.cycles + 1 } h ∧
      (requests h).length = 1 := by
  obtain ⟨now, w, hw⟩ := hm.window
  let t : State := { s with phase := .fetching { window := w }, cycles := s.cycles + 1 }
  have hpoll : step config s (.poll now) = some (t, [.polled (s.cycles + 1) w,
      .requested (Fetch.request { window := w })]) := by
    simp [step, hp, State.poll, hw, hc, t]
  have hasks : Goes config s t [.polled (s.cycles + 1) w,
      .requested (Fetch.request { window := w })] := .single rfl hpoll
  obtain ⟨h, hback, hnone⟩ := goes_polling (s := t) config rfl hc
  refine ⟨_, hasks.trans hback, ?_⟩
  rw [requests_append, hnone]
  rfl

theorem goes_rounds (hp : s.phase = .polling) (hc : s.cancelled = false)
    (hm : s.cursor.HasMore config) (n : Nat) :
    ∃ h, Goes config s { s with phase := .polling, cycles := s.cycles + n } h ∧
      (requests h).length = n := by
  induction n with
  | zero =>
    have hsame : { s with phase := .polling, cycles := s.cycles + 0 } = s := by rw [← hp]; rfl
    rw [hsame]
    exact ⟨[], .refl s, rfl⟩
  | succ n ih =>
    -- A round leaves the state as it was but for the count, so that there is always one more.
    obtain ⟨h, hgoes, hcount⟩ := ih
    obtain ⟨h', hround, hone⟩ := goes_round
      (s := { s with phase := .polling, cycles := s.cycles + n }) rfl hc hm
    refine ⟨h ++ h', hgoes.trans hround, ?_⟩
    rw [requests_append, List.length_append, hcount, hone]

/-- Whether the task goes on polling for a reader that has gone depends on what it has at hand. From
any moment on at which nobody reads and the stream is not cancelled: nothing is put into the queue
and the cursor stays, and until the next cycle only the fetch under way asks for pages. With an event
at hand, a failure to report or nothing left to do, no further cycle begins in any run. Otherwise the
task may begin one by itself, and if there is time left to ask for, it may ask any number of
times. -/
theorem polls_unread_iff (config : Config) (s : State) (hleft : s.receiving = false)
    (hc : s.cancelled = false) :
    (∀ moves s' later, run config s moves = some (s', later) →
      emissions later = [] ∧ s'.cursor = s.cursor ∧
        (s'.cycles = s.cycles → ∀ r ∈ requests later, s.Awaits r)) ∧
    ((∀ moves s' later, run config s moves = some (s', later) → s'.cycles = s.cycles) ↔
      s.phase.isFree = false) ∧
    (s.phase.isFree = true → s.cursor.HasMore config → ∀ n, ∃ moves s' later,
      (∀ m ∈ moves, m.isTasks = true) ∧ run config s moves = some (s', later) ∧
        s'.cycles = s.cycles + n ∧ (requests later).length = n) := by
  refine ⟨fun moves s' later hr => ?_, ⟨fun hnever => ?_, fun ho moves s' later hr => ?_⟩, ?_⟩
  · obtain ⟨hnone, hcursor⟩ := unread_run hleft hr
    exact ⟨hnone, hcursor, fun hsame => (asksOn_run hr hsame).2⟩
  · by_contra hfree
    obtain ⟨s', h, ⟨moves, -, hr⟩, hnext⟩ :=
      goes_next config (Bool.eq_true_of_not_eq_false hfree) hc
    have hsame := hnever moves s' h hr
    omega
  · exact occupied_run hleft ho hr
  · intro hfree hmore n
    obtain ⟨h, hgoes, hnone⟩ := goes_polling config hfree hc
    obtain ⟨h', hrounds, hcount⟩ := goes_rounds
      (s := { s with phase := .polling }) rfl hc hmore n
    obtain ⟨moves, htasks, hr⟩ := hgoes.trans hrounds
    refine ⟨moves, _, _, htasks, hr, rfl, ?_⟩
    rw [requests_append, hnone, List.nil_append, hcount]

/-- The reader goes between the pages of a fetch, the first of which has an event: only this fetch
goes on. -/
theorem polls_unread_iff_of_page : ∃ s h,
    run { group := "g" } {} [.poll 10, .answer (.ok ⟨[⟨5, 0, "a"⟩], some "more", []⟩), .leave] =
      some (s, h) ∧
    s.receiving = false ∧ s.cancelled = false ∧ s.phase.isFree = false ∧
    ∀ moves s' later, run { group := "g" } s moves = some (s', later) →
      emissions later = [] ∧ s'.cycles = 1 ∧ ∀ r ∈ requests later, s.Awaits r := by
  have hrun : ∃ s h, run { group := "g" } {}
      [.poll 10, .answer (.ok ⟨[⟨5, 0, "a"⟩], some "more", []⟩), .leave] = some (s, h) ∧
      s.receiving = false ∧ s.cancelled = false ∧ s.phase.isFree = false ∧ s.cycles = 1 :=
    ⟨_, _, by cbv, rfl, rfl, rfl, rfl⟩
  obtain ⟨s, h, hr, hleft, hc, hheld, hone⟩ := hrun
  obtain ⟨hquiet, hnever, -⟩ := polls_unread_iff { group := "g" } s hleft hc
  refine ⟨s, h, hr, hleft, hc, hheld, fun moves s' later hlater => ?_⟩
  have hsame := hnever.mpr hheld moves s' later hlater
  obtain ⟨hnone, -, hasks⟩ := hquiet moves s' later hlater
  exact ⟨hnone, hsame.trans hone, hasks hsame⟩

/-- The reader goes once it has the only event. The source has nothing new, and the task polls it
again and again. -/
theorem polls_go_on_unread : ∃ s h s' later,
    run { group := "g" } {}
      [.poll 10, .answer (.ok ⟨[⟨5, 0, "a"⟩], none, []⟩), .send, .take, .leave] = some (s, h) ∧
    s.receiving = false ∧ s.cancelled = false ∧
    run { group := "g" } s
      [.send, .wake, .poll 20, .answer (.ok ⟨[], none, []⟩), .send, .wake, .poll 30] =
        some (s', later) ∧
    s.cycles = 1 ∧ s'.cycles = 3 ∧ (requests later).map (·.start) = [some 6, some 6] :=
  ⟨_, _, _, _, by cbv, rfl, rfl, by cbv, rfl, rfl, by cbv⟩

end LogFollow.Stream
