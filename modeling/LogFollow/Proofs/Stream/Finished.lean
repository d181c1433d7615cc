import LogFollow.Proofs.Stream.Tailing

/-!
# Polling a finished range

The log does not grow any more and the stream has an end. Every poll until the first one that gives
an event asks for the whole range, and so gives what a single fetch of the range gives. Those behind
it start behind the latest event of the range, whatever the limit has left out before it, and find
nothing.
-/

namespace LogFollow.Stream
set_option autoImplicit false

/-- A log that does not change, with the order in which its source gives the events of a window. -/
structure Store where
  events : List Event
  answer : Window → List Event
  exact : ∀ w, (answer w).Perm (events.filter (asksFor w))
  early : ∀ e ∈ events, e.timestamp < Number.maxSigned

/-- The whole range of a stream as one window. -/
def Config.range (config : Config) : Window where
  group := config.group
  start := config.start
  stop := config.stop
  limit := config.limit
  filter := config.filter
  streams := config.streams

/-- The cursor that has passed on some events. -/
def Cursor.behind (events : List Event) : Cursor := ⟨(events.map (·.timestamp)).max?⟩

/-- Each poll asks for the window behind the events of the polls before it. -/
def InTurn (config : Config) : List Poll → Prop
  | [] => True
  | p :: earlier =>
    (∃ now, (Cursor.behind (gathered earlier)).window config now = some p.window) ∧
      InTurn config earlier

namespace Store

/-- A log whose source gives the events of a window as they are stored. -/
def inOrder (events : List Event) (early : ∀ e ∈ events, e.timestamp < Number.maxSigned) :
    Store where
  events := events
  answer w := events.filter (asksFor w)
  exact _ := .refl _
  early := early

def result (store : Store) (w : Window) : List Event := Fetch.result w (store.answer w)

/-- The events of a window on pages, cut in any way. -/
structure Serves (store : Store) (w : Window) (pages : List Page) : Prop where
  ends : Page.Ends pages
  whole : Page.chain pages = pages
  exact : pages.flatMap (·.events) = store.answer w

/-- What a poll has heard so far are pages of its window. -/
def Answers (store : Store) (p : Poll) : Prop :=
  ∃ pages, store.Serves p.window pages ∧ p.answers <+: pages.map .ok

variable {store : Store} {w : Window} {pages : List Page} {p : Poll} {e : Event}

theorem mem_answer_iff : e ∈ store.answer w ↔ e ∈ store.events ∧ asksFor w e = true := by
  rw [(store.exact w).mem_iff, List.mem_filter]

theorem Serves.fetched (h : store.Serves w pages) :
    (fetchWindow w (pages.map .ok)).result = .ok (store.result w) := by
  rw [fetchWindow_pages w h.ends, Page.arrivals, h.whole, h.exact, result]

theorem Answers.arrived (h : store.Answers p) (hlast : p.answers.getLast?.any Poll.isLast = true) :
    p.arrived = store.answer p.window := by
  obtain ⟨pages, hserves, rest, hrest⟩ := h
  obtain ⟨heard, missing, rfl, hheard, -⟩ := List.map_eq_append_iff.mp hrest.symm
  rw [← hheard, List.getLast?_map] at hlast
  rcases List.eq_nil_or_concat heard with rfl | ⟨before, q, rfl⟩
  · cases hlast
  · have htoken : q.token = none := by simpa [Poll.isLast] using hlast
    have hwhole := hserves.whole
    rw [List.concat_eq_append, List.append_assoc, List.singleton_append] at hwhole
    have hexact := hserves.exact
    rw [Page.eq_nil_of_chain hwhole htoken, List.append_nil] at hexact
    rw [Poll.arrived, ← hheard, List.filterMap_map, ← hexact]
    simp [Function.comp_def, Except.toOption]

theorem Answers.events (h : store.Answers p)
    (hgiven : ∀ events, p.outcome? = some (.ok events) →
      events = Fetch.result p.window p.arrived) :
    p.events = [] ∨ p.events = store.result p.window := by
  cases ho : p.outcome? with
  | none => exact .inl (by simp [Poll.events, ho])
  | some outcome =>
    cases outcome with
    | error e => exact .inl (Poll.events_of_error ho)
    | ok events =>
      have hlast : p.answers.getLast?.any Poll.isLast = true := by
        by_contra hwaiting
        simp [Poll.outcome?, hwaiting] at ho
      refine .inr ?_
      rw [Poll.events_of_outcome ho, hgiven events ho, h.arrived hlast, result]

end Store

variable {config : Config} {store : Store} {s s' : State} {m : Move} {h new : List Happening}
  {w : Window} {now stop : Int} {c : Cursor}

theorem Cursor.Follows.eq_behind (hf : c.Follows h) : c = .behind (emissions h) :=
  congrArg Cursor.mk hf

theorem window_of_no_cursor (hstop : config.stop = some stop)
    (hw : (Cursor.behind []).window config now = some w) : w = config.range := by
  simp only [Cursor.window, Cursor.behind, Cursor.from?, List.map_nil, List.max?_nil, hstop] at hw
  split at hw
  · cases hw
  · simp [Config.range, hstop, ← Option.some.inj hw]

theorem inTurn_step (hi : Sound s h) (ht : InTurn config (polls h)) (hs : Step config s m s' new) :
    InTurn config (polls (h ++ new)) := by
  have haccords := hi.accords
  cases hs with
  | late now w hp hw hc | asked now w hp hw hc =>
    rw [hp] at haccords
    rw [hi.follows.eq_behind, haccords] at hw
    have hnext : InTurn config ({ window := w } :: polls h) := ⟨⟨now, hw⟩, ht⟩
    simpa [polls_append, note] using hnext
  | more f f' a hp hc hf | fetched f a events hp hc hf | failed f a e hp hc hf =>
    rw [polls_append]
    cases hpolls : polls h with
    | nil => trivial
    | cons p earlier =>
      rw [hpolls] at ht
      exact ht
  | _ => simpa [polls_append, note] using ht

/-- Behind what a fetch of the range gives, the log holds nothing more of it. -/
theorem answer_behind_result (hne : store.result config.range ≠ [])
    (hw : (Cursor.behind (store.result config.range)).window config now = some w) :
    store.answer w = [] := by
  obtain ⟨last, hlast⟩ : ∃ last, (Cursor.behind (store.result config.range)).last = some last := by
    apply Option.ne_none_iff_exists'.mp
    simpa [Cursor.behind] using hne
  obtain ⟨hmem, hlatest⟩ := List.max?_eq_some_iff.mp hlast
  obtain ⟨k, hk, hkt⟩ := List.mem_map.mp hmem
  obtain ⟨hkstored, hkasked⟩ := Store.mem_answer_iff.mp (Fetch.mem_of_mem_result hk)
  have hmax : last < Number.maxSigned := hkt ▸ store.early k hkstored
  have hasks := asksFor_of_cursor hw hlast hmax (window_start hw).2.1
  refine List.eq_nil_iff_forall_not_mem.mpr fun e he => ?_
  obtain ⟨hestored, hebehind⟩ := Store.mem_answer_iff.mp he
  obtain ⟨hafter, hbefore⟩ := (hasks e).mp hebehind
  -- The event lies in the range as well, so something that was given is not earlier.
  have heasked : asksFor config.range e = true := by
    refine asksFor_iff.mpr ⟨fun start hstart => ?_, fun end' hend => ?_⟩
    · have := (asksFor_iff.mp hkasked).1 start hstart
      omega
    · rwa [show config.stop = some end' from hend, Option.getD_some] at hbefore
  obtain ⟨r, hr, hle⟩ := Fetch.result_reaches hne (Store.mem_answer_iff.mpr ⟨hestored, heasked⟩)
  have := hlatest r.timestamp (List.mem_map_of_mem hr)
  omega

/-- Polls that a store answers give nothing, or what a single fetch of the range gives. -/
theorem gathered_of_answered (hstop : config.stop = some stop) {ps : List Poll}
    (ht : InTurn config ps)
    (hgiven : ∀ p ∈ ps, ∀ events, p.outcome? = some (.ok events) →
      events = Fetch.result p.window p.arrived)
    (hanswered : ∀ p ∈ ps, store.Answers p) :
    gathered ps = [] ∨ gathered ps = store.result config.range := by
  induction ps with
  | nil => exact .inl rfl
  | cons p earlier ih =>
    obtain ⟨⟨now, hw⟩, ht⟩ := ht
    rw [List.forall_mem_cons] at hgiven hanswered
    have hevents := hanswered.1.events hgiven.1
    rw [gathered_cons]
    by_cases hnone : gathered earlier = []
    · rw [hnone] at hw
      rwa [hnone, List.nil_append, ← window_of_no_cursor hstop hw]
    · have hall := (ih ht hgiven.2 hanswered.2).resolve_left hnone
      rw [hall] at hw hnone
      have hempty : store.result p.window = [] := by
        rw [Store.result, answer_behind_result hnone hw]
        exact List.eq_nil_iff_forall_not_mem.mpr fun e he =>
          List.not_mem_nil (Fetch.mem_of_mem_result he)
      rw [hempty, or_self] at hevents
      exact .inr (by rw [hall, hevents, List.append_nil])

end LogFollow.Stream
