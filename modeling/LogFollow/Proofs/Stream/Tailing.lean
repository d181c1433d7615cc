import LogFollow.Number.Bounded
import LogFollow.Proofs.Fetch
import LogFollow.Proofs.Stream.Safety
import Mathlib.Logic.Relation

/-!
# Following a log that grows

The source of a stream is now a log: each poll is answered with exactly the events that the log
holds in the window, in any order and on any pages, and between two polls the log may grow behind
the cursor. Then every event is passed on once. The invariant is that the events passed on are those
up to the cursor; a poll adds those between the cursor and the end of its window.
-/

namespace LogFollow.Stream
set_option autoImplicit false

/-- Whether the time of an event lies in a window. -/
def asksFor (w : Window) (e : Event) : Bool :=
  w.start.all (· ≤ e.timestamp) && w.stop.all (e.timestamp ≤ ·)

/-- Whether an event is one that a stream has to pass on up to a time. -/
def Config.wants (config : Config) (stop : Int) (e : Event) : Bool :=
  config.start.all (· ≤ e.timestamp) && decide (e.timestamp ≤ stop)

/-- Pages that answer a window from a log: the events of the window in any order, cut into pages in
any way. -/
structure Covers (w : Window) (log : List Event) (pages : List Page) : Prop where
  ends : Page.Ends pages
  whole : Page.chain pages = pages
  exact : (pages.flatMap (·.events)).Perm (log.filter (asksFor w))

structure Tail where
  state : State := {}
  log : List Event
  /-- The pages that the source has still to give for the poll under way. -/
  pages : List Page := []
  /-- The window of the last poll, and the log at that moment. -/
  asked : Option (Window × List Event) := none
  record : List Happening := []

namespace Tail

def moved (t : Tail) (s : State) (new : List Happening) : Tail :=
  { t with state := s, record := t.record ++ new }

/-- What can happen to a stream and its log while nobody cancels the stream or stops reading. -/
inductive Next (config : Config) (t : Tail) : Tail → Prop
  | asks (now : Int) (w : Window) (pages : List Page) (s : State) (new : List Happening)
      (hw : t.state.cursor.window config now = some w)
      (hs : step config t.state (.poll now) = some (s, new)) (hp : Covers w t.log pages) :
      Next config t { t.moved s new with pages := pages, asked := some (w, t.log) }
  | skips (now : Int) (s : State) (new : List Happening)
      (hw : t.state.cursor.window config now = none)
      (hs : step config t.state (.poll now) = some (s, new)) : Next config t (t.moved s new)
  | gets (p : Page) (rest : List Page) (s : State) (new : List Happening)
      (hp : t.pages = p :: rest) (hs : step config t.state (.answer (.ok p)) = some (s, new)) :
      Next config t { t.moved s new with pages := rest }
  | goesOn (m : Move) (s : State) (new : List Happening) (hm : m = .send ∨ m = .wake ∨ m = .take)
      (hs : step config t.state m = some (s, new)) : Next config t (t.moved s new)
  | grows (e : Event) (hb : t.state.phase = .resting ∨ t.state.phase = .polling)
      (hmax : e.timestamp < Number.maxSigned)
      (hnew : ∀ last, t.state.cursor.last = some last → last < e.timestamp) :
      Next config t { t with log := t.log ++ [e] }

def passed (t : Tail) : List Event := emissions t.record

/-- The events passed on are those up to the cursor. -/
def UpToCursor (config : Config) (t : Tail) : Prop :=
  ∀ last, t.state.cursor.last = some last →
    t.passed.Perm (t.log.filter (config.wants last))

/-- All events of the last poll are passed on: those up to the end of its window. -/
def UpToStop (config : Config) (t : Tail) : Prop :=
  ∀ w log, t.asked = some (w, log) →
    ∃ stop, w.stop = some stop ∧ t.passed.Perm (log.filter (config.wants stop))

/-- A fetch under way will bring the events of its window. -/
structure Fetching (config : Config) (t : Tail) (f : Fetch) : Prop where
  upToCursor : t.UpToCursor config
  window : ∃ now, t.state.cursor.window config now = some f.window
  asked : t.asked = some (f.window, t.log)
  ends : Page.Ends t.pages
  whole : Page.chain t.pages = t.pages
  arriving : (f.arrived ++ t.pages.flatMap (·.events)).Perm (t.log.filter (asksFor f.window))

/-- The events that are not sent yet complete those up to the end of the window. -/
structure Sending (config : Config) (t : Tail) (rest : List Event) : Prop where
  upToStop : ∃ w stop, t.asked = some (w, t.log) ∧ w.stop = some stop ∧
    (t.passed ++ rest).Perm (t.log.filter (config.wants stop))
  sorted : (t.passed ++ rest).Pairwise fun a b => a.timestamp ≤ b.timestamp

/-- What the phase of the task says about the events passed on. -/
def Phased (config : Config) (t : Tail) : Phase → Prop
  | .fetching f => t.Fetching config f
  | .sending rest => t.Sending config rest
  | .reporting _ => False
  | .polling | .resting | .stopped => t.UpToCursor config ∧ t.UpToStop config

structure Kept (config : Config) (t : Tail) : Prop where
  sound : Sound t.state t.record
  running : t.state.cancelled = false ∧ t.state.receiving = true
  bounded : ∀ e ∈ t.log, e.timestamp < Number.maxSigned
  sorted : t.passed.Pairwise fun a b => a.timestamp ≤ b.timestamp
  unlimited : ∀ p ∈ polls t.record, p.window.limit = 0
  phased : t.Phased config t.state.phase

end Tail

variable {config : Config} {w : Window} {now last stop : Int} {log : List Event}

theorem wants_iff {e : Event} : config.wants stop e = true ↔
    (∀ start, config.start = some start → start ≤ e.timestamp) ∧ e.timestamp ≤ stop := by
  cases h : config.start <;> simp [Config.wants, h]

theorem asksFor_iff {e : Event} : asksFor w e = true ↔
    (∀ start, w.start = some start → start ≤ e.timestamp) ∧
      ∀ stop, w.stop = some stop → e.timestamp ≤ stop := by
  cases h : w.start <;> cases h' : w.stop <;> simp [asksFor, h, h']

theorem filter_perm_of_split {p q r : Event → Bool}
    (hr : ∀ e ∈ log, r e = true ↔ p e = true ∨ q e = true)
    (hpq : ∀ e ∈ log, p e = true → q e = false) :
    (log.filter p ++ log.filter q).Perm (log.filter r) := by
  have hsplit := List.filter_append_perm p (log.filter r)
  have hp : (log.filter r).filter p = log.filter p := by
    rw [List.filter_filter]
    refine List.filter_congr fun e he => ?_
    rw [Bool.eq_iff_iff, Bool.and_eq_true, hr e he]
    exact ⟨fun h => h.1, fun h => ⟨h, .inl h⟩⟩
  have hq : (log.filter r).filter (fun e => !p e) = log.filter q := by
    rw [List.filter_filter]
    refine List.filter_congr fun e he => ?_
    rw [Bool.eq_iff_iff, Bool.and_eq_true, hr e he, Bool.not_eq_true']
    refine ⟨fun h => h.2.resolve_left (by simp [h.1]), fun h => ⟨?_, .inr h⟩⟩
    by_contra hpe
    have hqe := hpq e he (by simpa using hpe)
    rw [h] at hqe
    exact absurd hqe (by simp)
  rwa [hp, hq] at hsplit

theorem asksFor_of_no_cursor {c : Cursor} (hw : c.window config now = some w)
    (hc : c.last = none) (hstop : w.stop = some stop) (e : Event) :
    asksFor w e = config.wants stop e := by
  have hstart : w.start = config.start := by
    simpa [Cursor.from?, hc] using (window_start hw).1
  rw [Bool.eq_iff_iff, asksFor_iff, wants_iff, hstart, hstop]
  simp

theorem asksFor_of_cursor {c : Cursor} (hw : c.window config now = some w)
    (hc : c.last = some last) (hmax : last < Number.maxSigned) (hstop : w.stop = some stop)
    (e : Event) : asksFor w e = true ↔ last < e.timestamp ∧ e.timestamp ≤ stop := by
  rw [asksFor_iff, (window_behind hw hc hmax).1, hstop]
  simp only [Option.some.injEq, forall_eq']
  omega

namespace Tail

variable {t t' : Tail} {s : State} {new : List Happening} {m : Move} {f : Fetch}
  {events rest : List Event}

/-- The cursor stands at an event of the log, behind which nothing was passed on. -/
theorem Kept.cursor_bounds (k : t.Kept config) (hu : t.UpToCursor config)
    (hc : t.state.cursor.last = some last) : last < Number.maxSigned ∧
      (∀ start, config.start = some start → start ≤ last) ∧
      ∀ e ∈ t.passed, e.timestamp ≤ last := by
  obtain ⟨⟨e, he, rfl⟩, hlatest⟩ := k.sound.follows.latest hc
  have hmem := List.mem_filter.mp ((hu e.timestamp hc).mem_iff.mp he)
  exact ⟨k.bounded e hmem.1, (wants_iff.mp hmem.2).1, hlatest⟩

/-- The events of a window complete those up to the cursor to those up to its end. -/
theorem Kept.passed_append_perm (k : t.Kept config) (hu : t.UpToCursor config)
    (hw : t.state.cursor.window config now = some w) (hstop : w.stop = some stop)
    (hp : events.Perm (t.log.filter (asksFor w))) :
    (t.passed ++ events).Perm (t.log.filter (config.wants stop)) := by
  cases hc : t.state.cursor.last with
  | none =>
    rw [passed, k.sound.follows.nothing hc, List.nil_append]
    rwa [List.filter_congr fun e _ => asksFor_of_no_cursor hw hc hstop e] at hp
  | some last =>
    obtain ⟨hmax, hfrom, -⟩ := k.cursor_bounds hu hc
    have hasks := asksFor_of_cursor hw hc hmax hstop
    have hle : last < stop := by
      have hend := (window_start hw).2.1.symm.trans hstop
      rw [← Option.some.inj hend]
      exact (window_behind hw hc hmax).2
    -- The window starts right behind the cursor: the two parts neither overlap nor leave a gap.
    refine ((hu last hc).append hp).trans (filter_perm_of_split ?_ ?_)
    · intro e _
      rw [hasks e, wants_iff, wants_iff]
      constructor
      · rintro ⟨hstart, hend⟩
        by_cases hbefore : e.timestamp ≤ last
        · exact .inl ⟨hstart, hbefore⟩
        · exact .inr ⟨by omega, hend⟩
      · rintro (⟨hstart, hend⟩ | ⟨hafter, hend⟩)
        · exact ⟨hstart, by omega⟩
        · refine ⟨fun start hs => ?_, hend⟩
          have := hfrom start hs
          omega
    · intro e _ he
      have hbefore := (wants_iff.mp he).2
      rw [← Bool.not_eq_true, hasks e]
      omega

theorem Kept.passed_append_sorted (k : t.Kept config)
    (hu : t.UpToCursor config) (hw : t.state.cursor.window config now = some w)
    (hp : events.Perm (t.log.filter (asksFor w)))
    (hsorted : events.Pairwise fun a b => a.timestamp ≤ b.timestamp) :
    (t.passed ++ events).Pairwise fun a b => a.timestamp ≤ b.timestamp := by
  refine List.pairwise_append.mpr ⟨k.sorted, hsorted, fun a ha b hb => ?_⟩
  cases hc : t.state.cursor.last with
  | none =>
    rw [passed, k.sound.follows.nothing hc] at ha
    exact absurd ha List.not_mem_nil
  | some last =>
    obtain ⟨hmax, -, hlatest⟩ := k.cursor_bounds hu hc
    have hstop := (window_start hw).2.1
    have hb' := (asksFor_of_cursor hw hc hmax hstop b).mp (List.mem_filter.mp (hp.mem_iff.mp hb)).2
    have ha' := hlatest a ha
    omega

/-- Behind a complete poll the events passed on are those up to the cursor. -/
theorem upToCursor_of_stop (hf : t.state.cursor.Follows t.record)
    (hp : t.passed.Perm (t.log.filter (config.wants stop))) : t.UpToCursor config := by
  intro last hc
  obtain ⟨⟨e₀, he₀, hlast⟩, hlatest⟩ := hf.latest hc
  have hle := (wants_iff.mp (List.mem_filter.mp (hp.mem_iff.mp he₀)).2).2
  -- The cursor is the latest time passed on, so the log has nothing between it and the end.
  refine hp.trans (.of_eq (List.filter_congr fun e he => ?_))
  rw [Bool.eq_iff_iff, wants_iff, wants_iff]
  constructor
  · intro hwant
    have hmem : e ∈ t.passed := hp.mem_iff.mpr (List.mem_filter.mpr ⟨he, wants_iff.mpr hwant⟩)
    exact ⟨hwant.1, hlatest e hmem⟩
  · rintro ⟨hstart, hend⟩
    exact ⟨hstart, by omega⟩

theorem step_running (hs : Step config t.state m s new) (hleave : m ≠ .leave)
    (hcancel : m ≠ .cancel) : s.cancelled = t.state.cancelled ∧ s.receiving = t.state.receiving := by
  cases hs with
  | left => exact absurd rfl hleave
  | cancelled => exact absurd rfl hcancel
  | _ => exact ⟨rfl, rfl⟩

theorem step_unlimited (hl : config.limit = 0) (hu : ∀ p ∈ polls t.record, p.window.limit = 0)
    (hs : Step config t.state m s new) : ∀ p ∈ polls (t.record ++ new), p.window.limit = 0 := by
  have hzero : ∀ {now w}, t.state.cursor.window config now = some w → w.limit = 0 := by
    intro now w hw
    have hlimit := (window_start hw).2.2.1
    split at hlimit <;> omega
  cases hs with
  | late now w hp hw hc | asked now w hp hw hc =>
    simpa [polls_append, note, hzero hw] using hu
  | more f f' a hp hc hf | fetched f a events hp hc hf | failed f a e hp hc hf =>
    cases hpolls : polls t.record with
    | nil => simp [polls_append, note, hpolls]
    | cons p earlier => simpa [polls_append, note, hpolls, Poll.hear] using hu
  | _ => simpa [polls_append, note] using hu

theorem Kept.of_step (hl : config.limit = 0) (k : t.Kept config) (hs : Step config t.state m s new)
    (hleave : m ≠ .leave) (hcancel : m ≠ .cancel) {pages : List Page}
    {asked : Option (Window × List Event)}
    (hsorted : (t.passed ++ emissions new).Pairwise fun a b => a.timestamp ≤ b.timestamp)
    (hphased : { t.moved s new with pages := pages, asked := asked }.Phased config s.phase) :
    { t.moved s new with pages := pages, asked := asked }.Kept config where
  sound := sound_step k.sound hs
  running := by
    obtain ⟨hc, hr⟩ := step_running hs hleave hcancel
    exact ⟨hc.trans k.running.1, hr.trans k.running.2⟩
  bounded := k.bounded
  sorted := by simpa [passed, moved] using hsorted
  unlimited := step_unlimited hl k.unlimited hs
  phased := hphased

theorem Kept.of_quiet_step (hl : config.limit = 0) (k : t.Kept config)
    (hs : Step config t.state m s new) (hleave : m ≠ .leave) (hcancel : m ≠ .cancel)
    (he : emissions new = []) {pages : List Page} {asked : Option (Window × List Event)}
    (hphased : { t.moved s new with pages := pages, asked := asked }.Phased config s.phase) :
    { t.moved s new with pages := pages, asked := asked }.Kept config := by
  refine k.of_step hl hs hleave hcancel ?_ hphased
  rw [he, List.append_nil]
  exact k.sorted

theorem UpToCursor.moved (hu : t.UpToCursor config) (hc : s.cursor = t.state.cursor)
    (he : emissions new = []) (pages : List Page) (asked : Option (Window × List Event)) :
    { t.moved s new with pages := pages, asked := asked }.UpToCursor config := by
  intro last hlast
  simpa [passed, Tail.moved, he] using hu last (hc ▸ hlast)

theorem Phased.moved {p : Phase} (hp : t.Phased config p) (hc : s.cursor = t.state.cursor)
    (he : emissions new = []) : (t.moved s new).Phased config p := by
  have hpassed : (t.moved s new).passed = t.passed := by simp [passed, Tail.moved, he]
  cases p with
  | fetching f =>
    exact ⟨hp.upToCursor.moved hc he _ _, hc ▸ hp.window, hp.asked, hp.ends, hp.whole, hp.arriving⟩
  | sending rest => exact ⟨hpassed ▸ hp.upToStop, hpassed ▸ hp.sorted⟩
  | reporting e => exact hp
  | polling | resting | stopped =>
    exact ⟨hp.1.moved hc he _ _, fun w log hw => hpassed ▸ hp.2 w log hw⟩

theorem Kept.asks (hl : config.limit = 0) (k : t.Kept config) {pages : List Page}
    (hw : t.state.cursor.window config now = some w)
    (hs : Step config t.state (.poll now) s new) (hp : Covers w t.log pages) :
    { t.moved s new with pages := pages, asked := some (w, t.log) }.Kept config := by
  have hphased := k.phased
  cases hs with
  | ended now hph hw' hstop | skipped now hph hw' hstop =>
    rw [hw] at hw'
    cases hw'
  | late now w' hph hw' hc =>
    rw [k.running.1] at hc
    cases hc
  | asked now w' hph hw' hc =>
    obtain rfl := Option.some.inj (hw.symm.trans hw')
    rw [hph] at hphased
    refine k.of_quiet_step hl (.asked now w hph hw' hc) (by simp) (by simp) rfl ?_
    have harriving : ([] ++ pages.flatMap Page.events).Perm (t.log.filter (asksFor w)) := by
      simpa using hp.exact
    exact ⟨hphased.1.moved rfl rfl pages (some (w, t.log)), ⟨now, hw⟩, rfl, hp.ends, hp.whole,
      harriving⟩

theorem Kept.skips (hl : config.limit = 0) (k : t.Kept config)
    (hw : t.state.cursor.window config now = none)
    (hs : Step config t.state (.poll now) s new) : (t.moved s new).Kept config := by
  have hphased := k.phased
  cases hs with
  | ended now hph hw' hstop =>
    rw [hph] at hphased
    refine k.of_quiet_step hl (.ended now hph hw' hstop) (by simp) (by simp) rfl ?_
    exact Phased.moved (p := .stopped) hphased rfl rfl
  | skipped now hph hw' hstop =>
    rw [hph] at hphased
    refine k.of_quiet_step hl (.skipped now hph hw' hstop) (by simp) (by simp) rfl ?_
    exact Phased.moved (p := .resting) hphased rfl rfl
  | late now w' hph hw' hc | asked now w' hph hw' hc =>
    rw [hw] at hw'
    cases hw'

theorem Fetching.more (hf : t.Fetching config f) {p : Page} {rest : List Page}
    (hpages : t.pages = p :: rest) {token : String} (ht : p.token = some token)
    (hc : s.cursor = t.state.cursor) (he : emissions new = []) :
    { t.moved s new with pages := rest }.Fetching config
      ⟨f.window, some token, f.arrived ++ p.events, f.pages + 1⟩ := by
  have hends := hf.ends
  have hwhole := hf.whole
  have harriving := hf.arriving
  rw [hpages] at hends hwhole harriving
  rw [Page.chain_more ht, List.cons.injEq] at hwhole
  refine ⟨hf.upToCursor.moved hc he _ _, hc ▸ hf.window, hf.asked, Page.ends_tail hends ht,
    hwhole.2, ?_⟩
  simpa [Tail.moved, List.append_assoc] using harriving

theorem Kept.lastPage (k : t.Kept config) (hf : t.Fetching config f) (hl : config.limit = 0)
    {p : Page} {rest : List Page} (hpages : t.pages = p :: rest) (ht : p.token = none)
    (he : emissions new = []) : { t.moved s new with pages := rest }.Sending config
      (Fetch.result f.window (f.arrived ++ p.events)) := by
  have hwhole := hf.whole
  have harriving := hf.arriving
  rw [hpages, Page.chain_last ht, List.cons.injEq] at hwhole
  rw [hpages, ← hwhole.2] at harriving
  obtain ⟨now, hw⟩ := hf.window
  obtain ⟨-, hstop, hlimit, -⟩ := window_start hw
  have hzero : f.window.limit = 0 := by split at hlimit <;> omega
  have hperm : (Fetch.result f.window (f.arrived ++ p.events)).Perm
      (t.log.filter (asksFor f.window)) := by
    rw [Fetch.result_of_limit_zero hzero]
    exact (List.mergeSort_perm _ _).trans (by simpa using harriving)
  have hpassed : { t.moved s new with pages := rest }.passed = t.passed := by
    simp [passed, moved, he]
  constructor
  · rw [hpassed]
    exact ⟨f.window, _, hf.asked, hstop, k.passed_append_perm hf.upToCursor hw hstop hperm⟩
  · rw [hpassed]
    exact k.passed_append_sorted hf.upToCursor hw hperm (Fetch.result_sorted _ _)

theorem Kept.gets (hl : config.limit = 0) (k : t.Kept config) {p : Page} {rest : List Page}
    (hpages : t.pages = p :: rest) (hs : Step config t.state (.answer (.ok p)) s new) :
    { t.moved s new with pages := rest }.Kept config := by
  have hphased := k.phased
  cases hs with
  | more f f' a hph hc hf =>
    rw [hph] at hphased
    refine k.of_quiet_step hl (.more f f' _ hph hc hf) (by simp) (by simp) rfl ?_
    obtain ⟨page, token, hpage, ht, rfl⟩ := Fetch.receive_more hf
    cases hpage
    exact Fetching.more hphased hpages ht rfl rfl
  | fetched f a events hph hc hf =>
    rw [hph] at hphased
    refine k.of_quiet_step hl (.fetched f _ events hph hc hf) (by simp) (by simp) rfl ?_
    obtain ⟨page, hpage, ht, rfl⟩ := Fetch.receive_done hf
    cases hpage
    exact k.lastPage hphased hl hpages ht rfl
  | failed f a e hph hc hf => cases Fetch.receive_failed hf

theorem Sending.sent {e : Event} (hs : t.Sending config (e :: rest))
    (he : emissions new = [e]) : (t.moved s new).Sending config rest := by
  have hpassed : (t.moved s new).passed ++ rest = t.passed ++ e :: rest := by
    simp [passed, moved, he]
  exact ⟨hpassed ▸ hs.upToStop, hpassed ▸ hs.sorted⟩

theorem Sending.upToStop_of_nil (hs : t.Sending config []) : t.UpToStop config := by
  obtain ⟨w, stop, hasked, hstop, hperm⟩ := hs.upToStop
  intro w' log' hasked'
  obtain ⟨rfl, rfl⟩ := Prod.mk.inj (Option.some.inj (hasked.symm.trans hasked'))
  exact ⟨stop, hstop, by simpa using hperm⟩

theorem Kept.delivers (k : t.Kept config) (hs : t.Sending config []) :
    t.UpToCursor config ∧ t.UpToStop config := by
  obtain ⟨w, stop, -, -, hperm⟩ := hs.upToStop
  exact ⟨upToCursor_of_stop k.sound.follows (by simpa using hperm), hs.upToStop_of_nil⟩

theorem Kept.goesOn (hl : config.limit = 0) (k : t.Kept config)
    (hm : m = .send ∨ m = .wake ∨ m = .take) (hs : Step config t.state m s new) :
    (t.moved s new).Kept config := by
  have hphased := k.phased
  cases hs with
  | delivered hph =>
    rw [hph] at hphased
    refine k.of_quiet_step hl (.delivered hph) (by simp) (by simp) rfl ?_
    exact Phased.moved (p := .resting) (k.delivers hphased) rfl rfl
  | deserted e rest hph hc hr =>
    rw [k.running.2] at hr
    cases hr
  | sent e rest hph hc hr hq =>
    rw [hph] at hphased
    refine k.of_step hl (.sent e rest hph hc hr hq) (by simp) (by simp) ?_ ?_
    · have hsorted := hphased.sorted
      rw [← List.singleton_append, ← List.append_assoc] at hsorted
      simpa [emissions_cons] using (List.pairwise_append.mp hsorted).1
    · exact Sending.sent hphased rfl
  | woken hph hc =>
    rw [hph] at hphased
    refine k.of_quiet_step hl (.woken hph hc) (by simp) (by simp) rfl ?_
    exact Phased.moved (p := .polling) hphased rfl rfl
  | taken e queue hq hr =>
    refine k.of_quiet_step hl (.taken e queue hq hr) (by simp) (by simp) rfl ?_
    exact hphased.moved rfl rfl
  | _ => simp at hm

theorem Kept.grows (k : t.Kept config) {e : Event}
    (hb : t.state.phase = .resting ∨ t.state.phase = .polling)
    (hmax : e.timestamp < Number.maxSigned)
    (hnew : ∀ last, t.state.cursor.last = some last → last < e.timestamp) :
    { t with log := t.log ++ [e] }.Kept config := by
  have hphased : t.UpToCursor config ∧ t.UpToStop config := by
    have := k.phased
    rcases hb with hb | hb <;> rwa [hb] at this
  have hu : { t with log := t.log ++ [e] }.UpToCursor config := by
    intro last hlast
    have hout : config.wants last e = false := by
      rw [← Bool.not_eq_true, wants_iff]
      have := hnew last hlast
      omega
    simpa [passed, List.filter_append, hout] using hphased.1 last hlast
  refine ⟨k.sound, k.running, ?_, k.sorted, k.unlimited, ?_⟩
  · intro e' he'
    rcases List.mem_append.mp he' with he' | he'
    · exact k.bounded e' he'
    · rwa [List.mem_singleton.mp he']
  · rcases hb with hb | hb <;> exact hb ▸ ⟨hu, hphased.2⟩

theorem Kept.next (hl : config.limit = 0) (k : t.Kept config) (hn : Next config t t') :
    t'.Kept config := by
  cases hn with
  | asks now w pages s new hw hs hp => exact k.asks hl hw (step_cases hs) hp
  | skips now s new hw hs => exact k.skips hl hw (step_cases hs)
  | gets p rest s new hp hs => exact k.gets hl hp (step_cases hs)
  | goesOn m s new hm hs => exact k.goesOn hl hm (step_cases hs)
  | grows e hb hmax hnew => exact k.grows hb hmax hnew

theorem kept_start (hlog : ∀ e ∈ log, e.timestamp < Number.maxSigned) :
    ({ log := log } : Tail).Kept config where
  sound := sound_start
  running := ⟨rfl, rfl⟩
  bounded := hlog
  sorted := .nil
  unlimited _ hp := absurd hp List.not_mem_nil
  phased := ⟨fun _ hc => absurd hc (Option.some_ne_none _).symm,
    fun _ _ hw => absurd hw (Option.some_ne_none _).symm⟩

theorem kept_reached (hl : config.limit = 0) (hlog : ∀ e ∈ log, e.timestamp < Number.maxSigned)
    (ht : Relation.ReflTransGen (Next config) { log := log } t) : t.Kept config := by
  induction ht with
  | refl => exact kept_start hlog
  | tail _ hn ih => exact ih.next hl hn

/-- No poll is under way, or all its events are passed on. -/
def Settled (t : Tail) : Prop :=
  match t.state.phase with
  | .fetching _ | .sending (_ :: _) | .reporting _ => False
  | _ => True

theorem Kept.settled (k : t.Kept config) (ht : t.Settled) : t.UpToStop config := by
  have hphased := k.phased
  cases hp : t.state.phase with
  | fetching f | reporting e => simp [Settled, hp] at ht
  | sending rest =>
    cases rest with
    | nil =>
      rw [hp] at hphased
      exact Sending.upToStop_of_nil hphased
    | cons e rest => simp [Settled, hp] at ht
  | polling | resting | stopped =>
    rw [hp] at hphased
    exact hphased.2

/-- One state leads to another one without another poll. -/
structure Leads (config : Config) (t t' : Tail) : Prop where
  reaches : Relation.ReflTransGen (Next config) t t'
  asked : t'.asked = t.asked
  cycles : t'.state.cycles = t.state.cycles

theorem Leads.refl (t : Tail) : Leads config t t := ⟨.refl, rfl, rfl⟩

theorem Leads.trans {u : Tail} (h : Leads config t t') (h' : Leads config t' u) :
    Leads config t u :=
  ⟨h.reaches.trans h'.reaches, h'.asked.trans h.asked, h'.cycles.trans h.cycles⟩

theorem drains (t : Tail) (hr : t.state.receiving = true) :
    Leads config t { t with state := { t.state with queue := [] } } := by
  generalize hq : t.state.queue = queue
  induction queue generalizing t with
  | nil =>
    have hsame : { t with state := { t.state with queue := [] } } = t := by rw [← hq]
    rw [hsame]
    exact .refl t
  | cons e queue ih =>
    let t₁ : Tail := t.moved { t.state with queue := queue } []
    have hstep : step config t.state .take = some (t₁.state, []) := by
      simp [step, hq, hr, t₁, moved]
    have htakes : Leads config t t₁ := ⟨.single (.goesOn .take _ _ (by simp) hstep), rfl, rfl⟩
    have hrest := htakes.trans (ih t₁ hr rfl)
    simpa [t₁, moved] using hrest

theorem sends (hp : t.state.phase = .sending rest) (hc : t.state.cancelled = false)
    (hr : t.state.receiving = true) : ∃ t', Leads config t t' ∧ t'.Settled := by
  induction rest generalizing t with
  | nil => exact ⟨t, .refl t, by simp [Settled, hp]⟩
  | cons e rest ih =>
    -- The queue is emptied first, so that there is room whatever its capacity.
    let s₁ : State := { t.state with queue := [] }
    let t₂ : Tail := { t with state := s₁ }.moved (s₁.emit e rest).1 [.emitted e]
    have hstep : step config s₁ .send = some (t₂.state, [.emitted e]) := by
      simp [step, s₁, t₂, hp, hc, hr, moved, State.emit]
    have hsent : Leads config { t with state := s₁ } t₂ :=
      ⟨.single (.goesOn .send _ _ (by simp) hstep), rfl, rfl⟩
    obtain ⟨t', hleads, hsettled⟩ := ih (t := t₂) rfl hc hr
    exact ⟨t', ((drains t hr).trans hsent).trans hleads, hsettled⟩

theorem fetches (hp : t.state.phase = .fetching f) (hends : Page.Ends t.pages)
    (hc : t.state.cancelled = false) (hr : t.state.receiving = true) :
    ∃ t', Leads config t t' ∧ t'.Settled := by
  generalize hpages : t.pages = pages at hends
  induction pages generalizing t f with
  | nil => exact absurd hends Page.not_ends_nil
  | cons p rest ih =>
    cases htoken : p.token with
    | none =>
      let events := Fetch.result f.window (f.arrived ++ p.events)
      let t₁ : Tail := { t.moved { t.state with phase := .sending events } [.answered f (.ok p)]
        with pages := rest }
      have hstep : step config t.state (.answer (.ok p)) =
          some (t₁.state, [.answered f (.ok p)]) := by
        simp [step, hp, hc, State.answer, Fetch.receive, htoken, t₁, moved, events]
      have hgets : Leads config t t₁ := ⟨.single (.gets p rest _ _ hpages hstep), rfl, rfl⟩
      have hsends : ∃ t', Leads config t₁ t' ∧ t'.Settled := sends rfl hc hr
      obtain ⟨t', hleads, hsettled⟩ := hsends
      exact ⟨t', hgets.trans hleads, hsettled⟩
    | some token =>
      let f₁ : Fetch := ⟨f.window, some token, f.arrived ++ p.events, f.pages + 1⟩
      let new : List Happening := [.answered f (.ok p), .requested f₁.request]
      let t₁ : Tail := { t.moved { t.state with phase := .fetching f₁ } new with pages := rest }
      have hstep : step config t.state (.answer (.ok p)) = some (t₁.state, new) := by
        simp [step, hp, hc, State.answer, Fetch.receive, htoken, t₁, f₁, new, moved]
      have hgets : Leads config t t₁ := ⟨.single (.gets p rest _ _ hpages hstep), rfl, rfl⟩
      obtain ⟨t', hleads, hsettled⟩ := ih (t := t₁) (f := f₁) rfl hc hr rfl
        (Page.ends_tail hends htoken)
      exact ⟨t', hgets.trans hleads, hsettled⟩

theorem Kept.settles (k : t.Kept config) : ∃ t', Leads config t t' ∧ t'.Settled := by
  obtain ⟨hc, hr⟩ := k.running
  have hphased := k.phased
  cases hp : t.state.phase with
  | fetching f =>
    rw [hp] at hphased
    exact fetches hp hphased.ends hc hr
  | sending rest => exact sends hp hc hr
  | reporting e =>
    rw [hp] at hphased
    exact hphased.elim
  | polling | resting | stopped => exact ⟨t, .refl t, by simp [Settled, hp]⟩

end Tail

/-- Every event is passed on exactly once. In a stream without a limit on its first fetch, whose
source answers from a log that grows behind the cursor between the polls, and whatever the clock
says: once the events of a poll are passed on, the events passed on so far are those of the log from
the start of the stream to the end of the window of that poll. They are in the order of their times,
those of one poll with equal times in the order of their arrival, and every poll can be brought to
its end. -/
theorem tail_exactly_once (config : Config) (log : List Event) (t : Tail)
    (hl : config.limit = 0) (hlog : ∀ e ∈ log, e.timestamp < Number.maxSigned)
    (ht : Relation.ReflTransGen (Tail.Next config) { log := log } t) :
    (t.Settled → ∀ w log', t.asked = some (w, log') → ∃ stop, w.stop = some stop ∧
      t.passed.Perm (log'.filter (config.wants stop))) ∧
    (t.passed.Pairwise fun a b => a.timestamp ≤ b.timestamp) ∧
    (t.passed <+: gathered (polls t.record) ∧ ∀ p ∈ polls t.record, ∀ events,
      p.outcome? = some (.ok events) → Event.InTimeOrder p.arrived events) ∧
    ∃ t', Tail.Leads config t t' ∧ t'.Settled := by
  have k := Tail.kept_reached hl hlog ht
  refine ⟨k.settled, k.sorted, ⟨k.sound.accords.beginning, ?_⟩, k.settles⟩
  intro p hp events hevents
  rw [k.sound.given p hp events hevents, Fetch.result_of_limit_zero (k.unlimited p hp)]
  exact Event.inTimeOrder_mergeSort p.arrived

/-- A stream that has passed on two events and rests. -/
def Tail.afterTwo (record : List Happening) : Tail where
  state := { phase := .resting, cursor := ⟨some 7⟩, cycles := 1, emitted := 2
             queue := [⟨5, 0, "a"⟩, ⟨7, 0, "b"⟩] }
  log := [⟨7, 0, "b"⟩, ⟨5, 0, "a"⟩]
  asked := some ({ group := "g", stop := some 10 }, [⟨7, 0, "b"⟩, ⟨5, 0, "a"⟩])
  record := record

/-- Two polls of a log that grows between them, with the clock running back as well. -/
theorem tail_exactly_once_of_growth : ∃ t,
    Relation.ReflTransGen (Tail.Next { group := "g" }) { log := [⟨7, 0, "b"⟩, ⟨5, 0, "a"⟩] } t ∧
      t.passed = [⟨5, 0, "a"⟩, ⟨7, 0, "b"⟩, ⟨9, 0, "c"⟩] ∧
      ∀ w log', t.asked = some (w, log') → ∃ stop, w.stop = some stop ∧
        t.passed.Perm (log'.filter (({ group := "g" } : Config).wants stop)) := by
  have hfirst : ∃ record, emissions record = [⟨5, 0, "a"⟩, ⟨7, 0, "b"⟩] ∧
      Relation.ReflTransGen (Tail.Next { group := "g" }) { log := [⟨7, 0, "b"⟩, ⟨5, 0, "a"⟩] }
        (.afterTwo record) := by
    refine ⟨_, ?_, .head (.asks 10 _ [⟨[⟨7, 0, "b"⟩], some "more", []⟩, ⟨[⟨5, 0, "a"⟩], none, []⟩]
      _ _ (by cbv) (by cbv) ⟨by simp [Page.Ends], by cbv, by cbv; exact .refl _⟩)
      <| .head (.gets _ _ _ _ rfl (by cbv)) <| .head (.gets _ _ _ _ rfl (by cbv))
      <| .head (.goesOn .send _ _ (.inl rfl) (by cbv))
      <| .head (.goesOn .send _ _ (.inl rfl) (by cbv))
      <| .single (.goesOn .send _ _ (.inl rfl) (by cbv))⟩
    cbv
  obtain ⟨record, hrecord, hfirst⟩ := hfirst
  have hthen : ∃ t, Relation.ReflTransGen (Tail.Next { group := "g" }) (.afterTwo record) t ∧
      t.Settled ∧ t.passed = emissions record ++ [⟨9, 0, "c"⟩] := by
    refine ⟨_, .head (.grows ⟨9, 0, "c"⟩ (.inl rfl) (by decide) (by simp [Tail.afterTwo]))
      <| .head (.goesOn .wake _ _ (by simp) (by cbv))
      <| .head (.skips 6 _ _ (by cbv) (by cbv))
      <| .head (.goesOn .wake _ _ (by simp) (by cbv))
      <| .head (.asks 12 _ [⟨[⟨9, 0, "c"⟩], none, []⟩] _ _ (by cbv) (by cbv)
        ⟨by simp [Page.Ends], by cbv, by cbv; exact .refl _⟩)
      <| .head (.gets _ _ _ _ rfl (by cbv))
      <| .single (.goesOn .send _ _ (.inl rfl) (by cbv)), ?_, ?_⟩
    · trivial
    · simp [Tail.passed, Tail.moved, Tail.afterTwo, emissions_cons]
  obtain ⟨t, hthen, hsettled, hpassed⟩ := hthen
  have ht := hfirst.trans hthen
  refine ⟨t, ht, by rw [hpassed, hrecord]; rfl, ?_⟩
  exact (tail_exactly_once _ _ t rfl (by decide) ht).1 hsettled
end LogFollow.Stream
