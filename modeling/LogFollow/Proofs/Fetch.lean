import LogFollow.Fetch
import LogFollow.Proofs.TimeOrder

/-!
# What a fetch gives

A fetch asks for pages until one has no token, and its result depends only on the events that
arrived: they are put in the order of their times, and the end of that order is kept.
-/

namespace LogFollow
set_option autoImplicit false

namespace Page

/-- The pages up to the first one without a token, which is the last that a fetch asks for. -/
def chain : List Page → List Page
  | [] => []
  | p :: pages => if p.token.isSome then p :: chain pages else [p]

/-- The events of the pages that a fetch asks for, in the order of their arrival. -/
def arrivals (pages : List Page) : List Event := (chain pages).flatMap (·.events)

/-- Some page has no token, so that a fetch comes to its end. -/
def Ends (pages : List Page) : Prop := ∃ p ∈ pages, p.token = none

theorem chain_more {p : Page} {t : String} (ht : p.token = some t) (pages : List Page) :
    chain (p :: pages) = p :: chain pages := by
  simp [chain, ht]

theorem chain_last {p : Page} (ht : p.token = none) (pages : List Page) :
    chain (p :: pages) = [p] := by
  simp [chain, ht]

theorem not_ends_nil : ¬ Ends [] := fun ⟨_, hp, _⟩ => List.not_mem_nil hp

theorem ends_tail {p : Page} {pages : List Page} {t : String} (h : Ends (p :: pages))
    (ht : p.token = some t) : Ends pages := by
  obtain ⟨q, hq, hqt⟩ := h
  rcases List.mem_cons.mp hq with rfl | hq
  · rw [ht] at hqt
    exact absurd hqt (Option.some_ne_none t)
  · exact ⟨q, hq, hqt⟩

theorem chain_of_dropLast {pages : List Page} (hmore : ∀ p ∈ pages.dropLast, p.token.isSome) :
    chain pages = pages := by
  induction pages with
  | nil => rfl
  | cons p pages ih =>
    cases pages with
    | nil => simp [chain]
    | cons q pages =>
      rw [List.dropLast_cons_cons, List.forall_mem_cons] at hmore
      obtain ⟨t, ht⟩ := Option.isSome_iff_exists.mp hmore.1
      rw [chain_more ht, ih hmore.2]

theorem exists_chain {pages : List Page} (hend : Ends pages) :
    ∃ before p after, pages = before ++ p :: after ∧ chain pages = before ++ [p] ∧
      (∀ q ∈ before, q.token.isSome) ∧ p.token = none := by
  induction pages with
  | nil => exact absurd hend not_ends_nil
  | cons p pages ih =>
    cases ht : p.token with
    | none => exact ⟨[], p, pages, rfl, chain_last ht pages, by simp, ht⟩
    | some t =>
      obtain ⟨before, q, after, hpages, hchain, hmore, hlast⟩ := ih (ends_tail hend ht)
      refine ⟨p :: before, q, after, by rw [hpages, List.cons_append], ?_, ?_, hlast⟩
      · rw [chain_more ht, hchain, List.cons_append]
      · simpa [ht] using hmore

theorem eq_nil_of_chain {p : Page} {before after : List Page}
    (hw : chain (before ++ p :: after) = before ++ p :: after) (ht : p.token = none) :
    after = [] := by
  induction before with
  | nil =>
    rw [List.nil_append, chain_last ht, List.cons.injEq] at hw
    exact hw.2.symm
  | cons q before ih =>
    rw [List.cons_append] at hw
    cases hq : q.token with
    | none =>
      rw [chain_last hq, List.cons.injEq] at hw
      exact absurd hw.2 (by simp)
    | some token =>
      rw [chain_more hq, List.cons.injEq] at hw
      exact ih hw.2

end Page

def surplus (limit count : Nat) : Nat := if limit = 0 then 0 else count - limit

theorem keepLatest_eq_drop (events : List Event) (limit : Nat) :
    keepLatest events limit = events.drop (surplus limit events.length) := by
  unfold keepLatest surplus
  by_cases hz : limit = 0
  · simp [hz]
  · by_cases hl : events.length ≤ limit
    · simp [hz, hl, Nat.sub_eq_zero_of_le hl]
    · simp [hz, hl]

theorem surplus_anti {n m : Nat} (h : (0 < n ∧ n ≤ m) ∨ m = 0) (count : Nat) :
    surplus m count ≤ surplus n count := by
  unfold surplus
  split <;> split <;> omega

namespace Fetch

theorem result_eq_drop (w : Window) (arrived : List Event) :
    result w arrived = (arrived.mergeSort Event.notLater).drop (surplus w.limit arrived.length) := by
  rw [result, keepLatest_eq_drop, List.length_mergeSort]

theorem length_result_le (w : Window) (arrived : List Event) :
    (result w arrived).length ≤ arrived.length := by
  rw [result_eq_drop, List.length_drop, List.length_mergeSort]
  exact Nat.sub_le _ _

theorem result_of_room {w : Window} {arrived : List Event}
    (h : w.limit = 0 ∨ arrived.length ≤ w.limit) :
    result w arrived = arrived.mergeSort Event.notLater := by
  have hcut : surplus w.limit arrived.length = 0 := by
    unfold surplus
    split <;> omega
  rw [result_eq_drop, hcut, List.drop_zero]

theorem result_of_limit_zero {w : Window} (hw : w.limit = 0) (arrived : List Event) :
    result w arrived = arrived.mergeSort Event.notLater :=
  result_of_room (.inl hw)

theorem result_sorted (w : Window) (arrived : List Event) :
    (result w arrived).Pairwise fun a b => a.timestamp ≤ b.timestamp := by
  rw [result_eq_drop]
  exact (Event.sorted_mergeSort arrived).sublist (List.drop_sublist _ _)

theorem mem_of_mem_result {w : Window} {arrived : List Event} {e : Event}
    (he : e ∈ result w arrived) : e ∈ arrived := by
  rw [result_eq_drop] at he
  exact List.mem_mergeSort.mp (List.mem_of_mem_drop he)

theorem result_ne_nil {w : Window} {arrived : List Event} (h : arrived ≠ []) :
    result w arrived ≠ [] := by
  have hpos : 0 < arrived.length := List.length_pos_iff.mpr h
  have hcut : surplus w.limit arrived.length < arrived.length := by
    unfold surplus
    split <;> omega
  rw [result_eq_drop]
  apply List.ne_nil_of_length_pos
  rw [List.length_drop, List.length_mergeSort]
  omega

theorem result_reaches {w : Window} {arrived : List Event} {e : Event}
    (hne : result w arrived ≠ []) (he : e ∈ arrived) :
    ∃ k ∈ result w arrived, e.timestamp ≤ k.timestamp := by
  have hsorted := Event.sorted_mergeSort arrived
  have hmem : e ∈ arrived.mergeSort Event.notLater := List.mem_mergeSort.mpr he
  rw [← List.take_append_drop (surplus w.limit arrived.length) (arrived.mergeSort Event.notLater),
    ← result_eq_drop] at hsorted hmem
  rcases List.mem_append.mp hmem with hleft | hkept
  · obtain ⟨k, hk⟩ := List.exists_mem_of_ne_nil _ hne
    exact ⟨k, hk, (List.pairwise_append.mp hsorted).2.2 e hleft k hk⟩
  · exact ⟨e, hkept, Int.le_refl _⟩

theorem result_suffix {n m : Nat} (h : (0 < n ∧ n ≤ m) ∨ m = 0) (w : Window)
    (arrived : List Event) :
    result { w with limit := n } arrived <:+ result { w with limit := m } arrived := by
  rw [result_eq_drop, result_eq_drop]
  exact List.drop_suffix_drop_left _ (surplus_anti h arrived.length)

/-- What the limit of a fetch leaves of the events that arrived. Events are told apart by their
places, as equal ones may have arrived several times. -/
structure Latest (limit : Nat) (arrived result : List Event) : Prop where
  sorted : result.Pairwise fun a b => a.timestamp ≤ b.timestamp
  stable : ∀ t, result.filter (·.timestamp = t) <:+ arrived.filter (·.timestamp = t)
  all : limit = 0 ∨ arrived.length ≤ limit → result.Perm arrived
  exact : ¬ (limit = 0 ∨ arrived.length ≤ limit) → result.length = limit
  last : ∃ dropped kept : List (Event × Nat), (dropped ++ kept).Perm arrived.zipIdx ∧
    result = kept.map (·.1) ∧ kept.Pairwise Event.Before ∧
    ∀ d ∈ dropped, ∀ k ∈ kept, Event.Before d k

theorem result_latest (w : Window) (arrived : List Event) :
    Latest w.limit arrived (result w arrived) where
  sorted := result_sorted w arrived
  stable t := by
    rw [result_eq_drop, ← Event.filter_mergeSort arrived t]
    exact (List.drop_suffix _ _).filter _
  all h := by
    rw [result_of_room h]
    exact List.mergeSort_perm arrived Event.notLater
  exact h := by
    rw [result_eq_drop, List.length_drop, List.length_mergeSort, surplus, if_neg (by omega)]
    omega
  last := by
    have hsplit := List.take_append_drop (surplus w.limit arrived.length) (Event.placed arrived)
    have hbefore := Event.placed_before arrived
    rw [← hsplit, List.pairwise_append] at hbefore
    refine ⟨_, _, ?_, ?_, hbefore.2.1, hbefore.2.2⟩
    · rw [hsplit]
      exact Event.placed_perm arrived
    · rw [result_eq_drop, ← Event.map_fst_placed, List.map_drop]

theorem receive_more {f f' : Fetch} {a : Answer} (h : f.receive a = .more f') :
    ∃ page token, a = .ok page ∧ page.token = some token ∧
      f' = ⟨f.window, some token, f.arrived ++ page.events, f.pages + 1⟩ := by
  cases a with
  | error e => simp [receive] at h
  | ok page =>
    cases ht : page.token with
    | none => simp [receive, ht] at h
    | some token => exact ⟨page, token, rfl, ht, by simpa [receive, ht] using h.symm⟩

theorem receive_done {f : Fetch} {a : Answer} {events : List Event}
    (h : f.receive a = .done events) :
    ∃ page, a = .ok page ∧ page.token = none ∧
      events = result f.window (f.arrived ++ page.events) := by
  cases a with
  | error e => simp [receive] at h
  | ok page =>
    cases ht : page.token with
    | none => exact ⟨page, rfl, ht, by simpa [receive, ht] using h.symm⟩
    | some token => simp [receive, ht] at h

theorem receive_failed {f : Fetch} {a : Answer} {e : SourceError} (h : f.receive a = .failed e) :
    a = .error e := by
  cases a with
  | error e' => simpa [receive] using h
  | ok page => cases ht : page.token <;> simp [receive, ht] at h

/-- What a fetch asks for and what it gives, if its answers are pages with a token up to a last one
that is a failure or has none. -/
theorem run_takes (f : Fetch) {pages : List Page} {last : Answer}
    (hmore : ∀ p ∈ pages, p.token.isSome)
    (hlast : ∀ p, last = .ok p → p.token = none) (rest : List Answer) :
    (f.run (pages.map .ok ++ last :: rest)).requests =
        (f.token :: pages.map (·.token)).map (Request.ofWindow f.window) ∧
      (f.run (pages.map .ok ++ last :: rest)).result =
        last.map fun p => result f.window (f.arrived ++ (pages ++ [p]).flatMap (·.events)) := by
  induction pages generalizing f with
  | nil =>
    cases last with
    | error e => simp [run, receive, request, Except.map]
    | ok p => simp [run, receive, request, hlast p rfl, Except.map]
  | cons p pages ih =>
    rw [List.forall_mem_cons] at hmore
    obtain ⟨t, ht⟩ := Option.isSome_iff_exists.mp hmore.1
    obtain ⟨hrequests, hresult⟩ :=
      ih ⟨f.window, some t, f.arrived ++ p.events, f.pages + 1⟩ hmore.2
    simp only [List.map_cons, List.cons_append, run, receive, ht, hrequests, hresult, request]
    simp

/-- A fetch whose pages all come gives the result of what had arrived before and of its pages. -/
theorem run_pages (f : Fetch) (pages : List Page) (hend : Page.Ends pages) :
    (f.run (pages.map .ok)).result = .ok (result f.window (f.arrived ++ Page.arrivals pages)) := by
  obtain ⟨before, p, after, rfl, hchain, hmore, hlast⟩ := Page.exists_chain hend
  have hends : ∀ q, (.ok p : Answer) = .ok q → q.token = none := by simp [hlast]
  have hrun := (run_takes f hmore hends (after.map .ok)).2
  rw [Page.arrivals, hchain]
  simpa [Except.map] using hrun

/-- The first request of a fetch carries the token that it began with, each later one the token of
the page before. -/
theorem run_requests (f : Fetch) (pages : List Page) (hend : Page.Ends pages) :
    (f.run (pages.map .ok)).requests =
      (f.token :: (Page.chain pages).map (·.token)).dropLast.map (Request.ofWindow f.window) := by
  obtain ⟨before, p, after, rfl, hchain, hmore, hlast⟩ := Page.exists_chain hend
  have hends : ∀ q, (.ok p : Answer) = .ok q → q.token = none := by simp [hlast]
  have hrun := (run_takes f hmore hends (after.map .ok)).1
  have htokens : (f.token :: (before ++ [p]).map (·.token)).dropLast =
      f.token :: before.map (·.token) := by
    rw [List.map_append, List.map_singleton, ← List.cons_append, List.dropLast_concat]
  rw [hchain, htokens]
  simpa using hrun

end Fetch

theorem fetchWindow_pages (w : Window) {pages : List Page} (hend : Page.Ends pages) :
    (fetchWindow w (pages.map .ok)).result = .ok (Fetch.result w (Page.arrivals pages)) := by
  simpa [fetchWindow] using Fetch.run_pages { window := w } pages hend

/-- A fetch whose pages all come succeeds. It gives the latest events in the order of their times,
does not depend on how they are cut into pages, and a smaller limit gives the end of what a greater
one gives; a limit of zero is the greatest. The events that arrive are those of all pages if only the
last one has no token. -/
theorem fetchWindow_latest (w : Window) (pages : List Page) (hend : Page.Ends pages) :
    ((∀ p ∈ pages.dropLast, p.token.isSome) →
      Page.arrivals pages = pages.flatMap (·.events)) ∧
    (∃ events, (fetchWindow w (pages.map .ok)).result = .ok events ∧
      Fetch.Latest w.limit (Page.arrivals pages) events) ∧
    (∀ (v : Window) (others : List Page), Page.Ends others → v.limit = w.limit →
      Page.arrivals others = Page.arrivals pages →
      (fetchWindow v (others.map .ok)).result = (fetchWindow w (pages.map .ok)).result) ∧
    ∀ n m, (0 < n ∧ n ≤ m) ∨ m = 0 → ∃ fewer more,
      (fetchWindow { w with limit := n } (pages.map .ok)).result = .ok fewer ∧
      (fetchWindow { w with limit := m } (pages.map .ok)).result = .ok more ∧ fewer <:+ more := by
  refine ⟨?_, ⟨_, fetchWindow_pages w hend, Fetch.result_latest w _⟩, ?_, ?_⟩
  · intro hmore
    rw [Page.arrivals, Page.chain_of_dropLast hmore]
  · intro v others hothers hlimit harrivals
    rw [fetchWindow_pages v hothers, fetchWindow_pages w hend, harrivals, Fetch.result_eq_drop,
      Fetch.result_eq_drop, hlimit]
  · intro n m hnm
    exact ⟨_, _, fetchWindow_pages _ hend, fetchWindow_pages _ hend, Fetch.result_suffix hnm w _⟩

/-- Three of the events on two pages have the same time, and the limit leaves out one of them. -/
theorem fetchWindow_latest_of_ties : ∃ events,
    (fetchWindow { group := "g", limit := 3 }
      ([⟨[⟨5, 0, "a"⟩, ⟨7, 0, "b"⟩, ⟨5, 0, "c"⟩], some "more", []⟩,
        ⟨[⟨5, 0, "d"⟩, ⟨3, 0, "e"⟩], none, []⟩].map .ok)).result = .ok events ∧
    events = [⟨5, 0, "c"⟩, ⟨5, 0, "d"⟩, ⟨7, 0, "b"⟩] ∧
    Fetch.Latest 3 [⟨5, 0, "a"⟩, ⟨7, 0, "b"⟩, ⟨5, 0, "c"⟩, ⟨5, 0, "d"⟩, ⟨3, 0, "e"⟩] events := by
  obtain ⟨events, hevents, hlatest⟩ := (fetchWindow_latest { group := "g", limit := 3 }
    [⟨[⟨5, 0, "a"⟩, ⟨7, 0, "b"⟩, ⟨5, 0, "c"⟩], some "more", []⟩,
      ⟨[⟨5, 0, "d"⟩, ⟨3, 0, "e"⟩], none, []⟩] (by simp [Page.Ends])).2.1
  refine ⟨events, hevents, ?_, hlatest⟩
  have hresult := hevents.symm.trans
    (show _ = .ok [⟨5, 0, "c"⟩, ⟨5, 0, "d"⟩, ⟨7, 0, "b"⟩] by cbv)
  exact Except.ok.inj hresult

end LogFollow
