import LogFollow.Proofs.Fetch
import LogFollow.Proofs.Search.Local

/-!
# A query at the log source

A source answers a query with the events that hold its term, cut into pages. The fetch puts them in
the order of their times, and each is highlighted by itself; a local query puts the places that its
workers found in that order and looks the events up. Both come to the same hits.
-/

namespace LogFollow
set_option autoImplicit false

namespace Page

/-- Pages that together give some events. Only the last one has no token. -/
structure Divides (pages : List Page) (events : List Event) : Prop where
  more : ∀ p ∈ pages.dropLast, p.token.isSome
  last : ∃ p ∈ pages.getLast?, p.token = none
  exact : pages.flatMap (·.events) = events

variable {pages : List Page} {events : List Event}

theorem Divides.ends (h : Divides pages events) : Ends pages := by
  obtain ⟨p, hp, ht⟩ := h.last
  exact ⟨p, List.mem_of_getLast? hp, ht⟩

theorem Divides.chain (h : Divides pages events) : chain pages = pages := chain_of_dropLast h.more

theorem Divides.fetched (h : Divides pages events) (w : Window) :
    (fetchWindow w (pages.map .ok)).result = .ok (Fetch.result w events) := by
  rw [fetchWindow_pages w h.ends, arrivals, h.chain, h.exact]

theorem Divides.requested (h : Divides pages events) (w : Window) :
    (fetchWindow w (pages.map .ok)).requests =
      (none :: pages.map (·.token)).dropLast.map (Request.ofWindow w) := by
  rw [fetchWindow, Fetch.run_requests _ _ h.ends, h.chain]

end Page

namespace Search

variable {engine : Engine} {term : String} {corpus events : List Event} {pages : List Page}

theorem runSource_result {w : Window} (hw : w = { engine.window with filter := some term })
    {answers : List Answer} (hok : (fetchWindow w answers).result = .ok events) :
    (engine.runSource term answers).result = .ok ⟨term, events.map (hitOf term)⟩ := by
  subst hw
  simp only [Engine.runSource, hok]
  rfl

theorem runReceived_result (engine : Engine) (term : String) (corpus : List Event)
    (answers : List Answer) : (engine.runReceived term corpus answers).result = .ok
      ⟨term, ((corpus.filter (holds term)).mergeSort Event.notLater).map (hitOf term)⟩ :=
  runLocal_complete fun _ hi => List.mem_range.mpr hi

theorem highlight_hitOf {e : Event} (he : holds term e = true) :
    (hitOf term e).highlight = none ↔ term = "" := by
  obtain ⟨span, hspan⟩ := Option.isSome_iff_exists.mp he
  by_cases hterm : term = "" <;> simp [hitOf, hterm, hspan]

/-- A query at a source that gives the events of a corpus that hold the term, in the order of the
corpus and on any pages, has the result of a local query of that corpus, whatever the number of its
workers and in whatever order they finish. A hit highlights nothing exactly if the term is empty.
The source is asked for each page once, with the term as the filter, and the limit must leave room
for all the events. -/
theorem runSource_eq_runLocal (engine : Engine) (term : String) (corpus : List Event)
    (pages : List Page) (hpages : Page.Divides pages (corpus.filter (holds term)))
    (hlimit : engine.window.limit = 0 ∨
      (corpus.filter (holds term)).length ≤ engine.window.limit) :
    ∃ hits, (engine.runSource term (pages.map .ok)).result = .ok ⟨term, hits⟩ ∧
      (∀ workers order, (∀ i < (work workers corpus).length, i ∈ order) →
        runLocal term corpus workers order = .ok ⟨term, hits⟩) ∧
      (∀ answers, (engine.runReceived term corpus answers).result = .ok ⟨term, hits⟩) ∧
      (∀ hit ∈ hits, hit.highlight = none ↔ term = "") ∧
      (engine.runSource term (pages.map .ok)).requests =
        (none :: pages.map (·.token)).dropLast.map
          (Request.ofWindow { engine.window with filter := some term }) := by
  let w : Window := { engine.window with filter := some term }
  have hfetched := hpages.fetched w
  rw [Fetch.result_of_room (w := w) hlimit] at hfetched
  refine ⟨_, runSource_result rfl hfetched, fun workers order hfinish => runLocal_complete hfinish,
    runReceived_result engine term corpus, ?_, hpages.requested w⟩
  intro hit hmem
  obtain ⟨e, he, rfl⟩ := List.mem_map.mp hmem
  exact highlight_hitOf (List.mem_filter.mp (List.mem_mergeSort.mp he)).2

/-- The events that hold the term come on two pages, two of them with the same time, and the limit is
just their number. -/
theorem runSource_eq_runLocal_of_ties : ∃ hits,
    (Engine.runSource ⟨{ group := "g", limit := 3 }, 2⟩ "b"
      ([⟨[⟨7, 0, "aB"⟩, ⟨5, 0, "b"⟩], some "more", []⟩, ⟨[⟨5, 0, "Bb"⟩], none, []⟩].map .ok)).result =
        .ok ⟨"b", hits⟩ ∧
    hits = [⟨⟨5, 0, "b"⟩, some ⟨0, 1⟩⟩, ⟨⟨5, 0, "Bb"⟩, some ⟨0, 1⟩⟩, ⟨⟨7, 0, "aB"⟩, some ⟨1, 2⟩⟩] ∧
    runLocal "b" [⟨7, 0, "aB"⟩, ⟨9, 0, "c"⟩, ⟨5, 0, "b"⟩, ⟨5, 0, "Bb"⟩] 2 [1, 0] =
      .ok ⟨"b", hits⟩ := by
  obtain ⟨hits, hresult, hlocal, -⟩ := runSource_eq_runLocal ⟨{ group := "g", limit := 3 }, 2⟩ "b"
    [⟨7, 0, "aB"⟩, ⟨9, 0, "c"⟩, ⟨5, 0, "b"⟩, ⟨5, 0, "Bb"⟩]
    [⟨[⟨7, 0, "aB"⟩, ⟨5, 0, "b"⟩], some "more", []⟩, ⟨[⟨5, 0, "Bb"⟩], none, []⟩]
    ⟨by decide, ⟨_, rfl, rfl⟩, by decide +kernel⟩ (.inr (by decide +kernel))
  have hall : ∀ i < (work 2 [⟨7, 0, "aB"⟩, ⟨9, 0, "c"⟩, ⟨5, 0, "b"⟩, ⟨5, 0, "Bb"⟩]).length,
      i ∈ [1, 0] := by decide +kernel
  refine ⟨hits, hresult, ?_, hlocal 2 [1, 0] hall⟩
  have hits_eq := congrArg (·.hits)
    (Except.ok.inj ((hlocal 2 [1, 0] hall).symm.trans (runLocal_complete hall)))
  have hholds : [⟨7, 0, "aB"⟩, ⟨9, 0, "c"⟩, ⟨5, 0, "b"⟩, ⟨5, 0, "Bb"⟩].filter (holds "b") =
      [⟨7, 0, "aB"⟩, ⟨5, 0, "b"⟩, ⟨5, 0, "Bb"⟩] := by rfl
  have hsorted : [⟨7, 0, "aB"⟩, ⟨5, 0, "b"⟩, ⟨5, 0, "Bb"⟩].mergeSort Event.notLater =
      [⟨5, 0, "b"⟩, ⟨5, 0, "Bb"⟩, ⟨7, 0, "aB"⟩] := by
    simp [List.mergeSort, List.MergeSort.Internal.splitInTwo, Event.notLater]
  simp only [hholds, hsorted] at hits_eq
  rw [hits_eq]
  rfl

end Search
end LogFollow
