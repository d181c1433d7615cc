import LogFollow.Proofs.Explorer.Dialogue

/-!
# What a filtered view shows

A view gets its hits from two places, the answers to queries and the events that arrive, and each of
them finds the term of the filter in its own way. Whatever comes between a query and its answer, the
view shows received events only, each at most as often as it came, and each highlighted where the
term of the present filter stands.
-/

namespace LogFollow.Explorer
set_option autoImplicit false

/-- A hit that a filter lets through, highlighted where the term of the filter first stands. -/
def Admits (filter : Option String) (hit : Hit) : Prop :=
  match filter with
  | none => hit.highlight = none
  | some term => ∃ span, Search.findMatch hit.event.message term = some span ∧
      hit.highlight = some span

theorem admits_of_wants {s : Session} {e : Event} (hw : s.wants e = true) :
    Admits s.filter ⟨e, s.filter.bind (Search.findMatch e.message ·)⟩ := by
  cases hf : s.filter with
  | none => rfl
  | some term =>
    simp only [Session.wants, hf, Option.all_some, Search.holds] at hw
    obtain ⟨span, hspan⟩ := Option.isSome_iff_exists.mp hw
    exact ⟨span, hspan, by simpa using hspan⟩

/-- The hits of a search are those that the filter behind it lets through. -/
theorem admits_hitOf {term : String} {e : Event} (hh : Search.holds term e = true) :
    Admits (if term == "" then none else some term) (Search.hitOf term e) := by
  by_cases hterm : term = ""
  · subst hterm
    rfl
  · obtain ⟨span, hspan⟩ := Option.isSome_iff_exists.mp hh
    simp only [beq_iff_eq, hterm, if_false]
    refine ⟨span, hspan, ?_⟩
    simp [Search.hitOf, hterm, hspan]

namespace Dialogue

/-- A dialogue after some events have arrived, with anything between them. -/
inductive After (options : Options) : List Event → Dialogue → Prop
  | start : After options [] (.start options)
  | arrives {received : List Event} {t : Dialogue} (h : After options received t) (e : Event) :
      After options (received ++ [e]) (t.arrive e)
  | tells {received : List Event} {t : Dialogue} (h : After options received t) (m : Message)
      (hm : ∀ e, m ≠ .arrived e) (ha : ∀ result, m ≠ .answered result) :
      After options received (t.tell m)
  | answers {received : List Event} {t : Dialogue} (h : After options received t)
      (q : String × List Event) (workers : Nat) (order : List Nat) (hq : q ∈ t.pending) :
      After options received (t.answer q (Search.runLocal q.1 q.2 workers order))

/-- What the received events have to do with the view, the corpus and the queries under way. -/
structure Filtered (received : List Event) (t : Dialogue) : Prop where
  admitted : ∀ hit ∈ t.session.view.hits, Admits t.session.filter hit
  shown : t.session.view.events.Subperm received
  corpus : t.session.corpus.Subperm received
  pending : ∀ q ∈ t.pending, q.2.Subperm received

variable {options : Options} {received : List Event} {t : Dialogue} {s : Session} {m : Message}
  {e : Event} {q : String × List Event}

theorem filtered_start (options : Options) : (start options).Filtered [] where
  admitted _ hmem := absurd hmem List.not_mem_nil
  shown := List.Subperm.refl []
  corpus := List.Subperm.refl []
  pending _ hq := absurd hq List.not_mem_nil

theorem subperm_rtake_concat {xs : List Event} (h : xs.Subperm received) (n : Nat) (e : Event) :
    ((xs ++ [e]).rtake n).Subperm (received ++ [e]) :=
  (rtake_suffix n _).sublist.subperm.trans ((List.subperm_append_right [e]).mpr h)

theorem Filtered.arrive (hf : t.Filtered received) (e : Event) :
    (t.arrive e).Filtered (received ++ [e]) := by
  have hmore : received.Subperm (received ++ [e]) :=
    (List.sublist_append_left received [e]).subperm
  have hpending : ∀ q ∈ t.pending, q.2.Subperm (received ++ [e]) :=
    fun q hq => (hf.pending q hq).trans hmore
  rcases Session.update_cases (s := t.session) (m := .arrived e) rfl with ⟨hopen, -⟩ | ⟨-, hsame, -⟩
  · have hsession : (t.arrive e).session = t.session.receive e := by
      rw [Dialogue.arrive, Session.update_of_open hopen]
      rfl
    refine ⟨?_, ?_, ?_, hpending⟩
    · rw [hsession, Session.receive_hits, Session.receive_filter]
      intro hit hmem
      split at hmem
      · rename_i hw
        rcases List.mem_append.mp ((rtake_suffix _ _).mem hmem) with hold | hnew
        · exact hf.admitted hit hold
        · rw [List.mem_singleton.mp hnew]
          exact admits_of_wants hw
      · exact hf.admitted hit hmem
    · rw [hsession, ← View.map_event_hits, Session.receive_hits]
      split
      · rw [List.rtake, List.map_drop, List.map_append, View.map_event_hits]
        exact (List.drop_sublist _ _).subperm.trans
          ((List.subperm_append_right [e]).mpr hf.shown)
      · rw [View.map_event_hits]
        exact hf.shown.trans hmore
    · rw [hsession, Session.receive_corpus]
      exact subperm_rtake_concat hf.corpus _ e
  · have hsession : (t.arrive e).session = t.session := hsame
    refine ⟨?_, ?_, ?_, hpending⟩
    · rw [hsession]
      exact hf.admitted
    · rw [hsession]
      exact hf.shown.trans hmore
    · rw [hsession]
      exact hf.corpus.trans hmore

/-- A message that changes neither the hits nor the filter nor the corpus. -/
theorem Filtered.of_same (hf : t.Filtered received) (hv : s.view.hits = t.session.view.hits)
    (hfilter : s.filter = t.session.filter) (hc : s.corpus = t.session.corpus) :
    { t with session := s }.Filtered received := by
  refine ⟨?_, ?_, ?_, hf.pending⟩
  · rw [hv, hfilter]
    exact hf.admitted
  · rw [← View.map_event_hits, hv, View.map_event_hits]
    exact hf.shown
  · rw [hc]
    exact hf.corpus

theorem Filtered.ask (hf : t.Filtered received) (term : String) {corpus : List Event}
    (hc : corpus.Subperm received) :
    { t with
      session := t.session.ask.1
      pending := t.pending ++ [(term, corpus)]
      meanwhile := [] }.Filtered received := by
  refine ⟨hf.admitted, hf.shown, hf.corpus, ?_⟩
  intro q hq
  rcases List.mem_append.mp hq with hq | hq
  · exact hf.pending q hq
  · rw [List.mem_singleton.mp hq]
    exact hc

theorem Filtered.tell (hf : t.Filtered received) (hm : ∀ e, m ≠ .arrived e)
    (ha : ∀ result, m ≠ .answered result) : (t.tell m).Filtered received := by
  obtain ⟨s, c, hs⟩ : ∃ s c, t.session.update m = (s, c) := ⟨_, _, rfl⟩
  unfold Dialogue.tell
  rw [hs]
  rcases Session.update_cases hs with ⟨-, htakes⟩ | ⟨-, rfl, rfl⟩
  · cases htakes with
    | received e => exact absurd rfl (hm e)
    | concluded result => exact absurd rfl (ha result)
    | asked p hfocus hp =>
      apply hf.ask
      cases t.session.options.mode with
      | received => exact hf.corpus
      | source => exact List.nil_subperm
    | viewed m v hv => exact hf.of_same hv.hits rfl rfl
    | closed | focused | edited | ticked => exact hf.of_same rfl rfl rfl
  · exact hf

/-- A local search of received events shows some of them, with the filter of its term. -/
theorem Filtered.conclude (hf : t.Filtered received) (hq : q.2.Subperm received) (workers : Nat)
    (order : List Nat) :
    { t with session := t.session.conclude (Search.runLocal q.1 q.2 workers order) }.Filtered
      received := by
  have hcorpus := t.session.conclude_corpus (Search.runLocal q.1 q.2 workers order)
  rcases t.session.conclude_cases (Search.runLocal q.1 q.2 workers order) with
    ⟨hview, hfilter⟩ | ⟨r, hr, hview, hfilter⟩
  · exact hf.of_same (by rw [hview]) hfilter hcorpus
  · obtain rfl := Search.runLocal_ok hr
    have hhits := View.replace_hits t.session.view
      (((q.2.filter (Search.holds q.1)).mergeSort Event.notLater).map (Search.hitOf q.1))
    rw [← hview] at hhits
    refine ⟨?_, ?_, hcorpus ▸ hf.corpus, hf.pending⟩
    · rw [hhits, hfilter]
      intro hit hmem
      obtain ⟨e, he, rfl⟩ := List.mem_map.mp ((rtake_suffix _ _).mem hmem)
      exact admits_hitOf (List.mem_filter.mp (List.mem_mergeSort.mp he)).2
    · have hevents : (((q.2.filter (Search.holds q.1)).mergeSort Event.notLater).map
          (Search.hitOf q.1)).map (·.event) =
            (q.2.filter (Search.holds q.1)).mergeSort Event.notLater := by
        simp [Search.hitOf, Function.comp_def]
      rw [← View.map_event_hits, hhits, List.rtake, List.map_drop, hevents]
      exact (List.drop_sublist _ _).subperm.trans ((List.mergeSort_perm _ _).subperm.trans
        (List.filter_sublist.subperm.trans hq))

/-- An answer takes its query off the list, and changes nothing in a session that is closed. -/
theorem Filtered.answer (hf : t.Filtered received) (workers : Nat) (order : List Nat)
    (hq : q ∈ t.pending) :
    (t.answer q (Search.runLocal q.1 q.2 workers order)).Filtered received := by
  have hsession : { t with
      session := (t.session.update (.answered (Search.runLocal q.1 q.2 workers order))).1
      }.Filtered received := by
    unfold Session.update
    split
    · exact hf
    · exact hf.conclude (hf.pending q hq) workers order
  have hpending : ∀ q' ∈ t.pending.erase q, q'.2.Subperm received :=
    fun q' hq' => hf.pending q' (List.mem_of_mem_erase hq')
  unfold Dialogue.answer
  split
  · exact ⟨hsession.admitted, hsession.shown, hsession.corpus, hpending⟩
  · exact ⟨hsession.admitted, hsession.shown, hsession.corpus, hpending⟩

theorem filtered_after (h : After options received t) : t.Filtered received := by
  induction h with
  | start => exact filtered_start options
  | arrives _ e ih => exact ih.arrive e
  | tells _ m hm ha ih => exact ih.tell hm ha
  | answers _ q workers order hq ih => exact ih.answer workers order hq

end Dialogue

/-- The view shows received events through its filter. In a session whose queries are answered by
local searches, whatever comes between a query and its answer: every event in the view holds the term
of the filter and is highlighted where the term first stands in it, nothing is highlighted if there is
no filter, and an event is shown at most as often as it was received. -/
theorem filtered_view_sound (options : Options) (received : List Event) (t : Dialogue)
    (h : Dialogue.After options received t) :
    (∀ term, t.session.filter = some term → ∀ hit ∈ t.session.view.hits, ∃ span,
      Search.findMatch hit.event.message term = some span ∧ hit.highlight = some span) ∧
    (t.session.filter = none → ∀ hit ∈ t.session.view.hits, hit.highlight = none) ∧
    t.session.view.events.Subperm received ∧
    (received.Nodup → t.session.view.events.Nodup) := by
  have hf := Dialogue.filtered_after h
  refine ⟨?_, ?_, hf.shown, fun hreceived => ?_⟩
  · intro term hterm hit hmem
    simpa only [Admits, hterm] using hf.admitted hit hmem
  · intro hnone hit hmem
    simpa only [Admits, hnone] using hf.admitted hit hmem
  · obtain ⟨shown, hperm, hsub⟩ := hf.shown
    exact hperm.nodup_iff.mp (hreceived.sublist hsub)

/-- An event that arrives during a query is replaced by the hits, and of two that arrive behind the
answer the one that holds the term joins them. -/
theorem filtered_view_sound_of_arrivals : ∃ received t,
    Dialogue.After narrow received t ∧
    received = [⟨5, 0, "Ab"⟩, ⟨7, 0, "xb"⟩, ⟨9, 0, "c"⟩, ⟨8, 0, "bB"⟩] ∧
    t.session.filter = some "b" ∧
    t.session.view.hits = [⟨⟨5, 0, "Ab"⟩, some ⟨1, 2⟩⟩, ⟨⟨8, 0, "bB"⟩, some ⟨0, 1⟩⟩] ∧
    (∀ hit ∈ t.session.view.hits, ∃ span,
      Search.findMatch hit.event.message "b" = some span ∧ hit.highlight = some span) ∧
    t.session.view.events.Nodup := by
  have hreached : ∃ t, Dialogue.After narrow
      [⟨5, 0, "Ab"⟩, ⟨7, 0, "xb"⟩, ⟨9, 0, "c"⟩, ⟨8, 0, "bB"⟩] t ∧
      t.session.filter = some "b" ∧
      t.session.view.hits = [⟨⟨5, 0, "Ab"⟩, some ⟨1, 2⟩⟩, ⟨⟨8, 0, "bB"⟩, some ⟨0, 1⟩⟩] := by
    refine ⟨_, (((((((Dialogue.After.start.arrives ⟨5, 0, "Ab"⟩).tells
        (.key ⟨.tab, false, false, false⟩) (by simp) (by simp)).tells
        (.key ⟨.char 'b', false, false, false⟩) (by simp) (by simp)).tells
        (.key ⟨.enter, false, false, false⟩) (by simp) (by simp)).arrives ⟨7, 0, "xb"⟩).answers
        ("b", [⟨5, 0, "Ab"⟩]) 1 [0] (by decide +kernel)).arrives ⟨9, 0, "c"⟩).arrives
        ⟨8, 0, "bB"⟩, ?_, ?_⟩
    all_goals decide +kernel
  obtain ⟨t, ht, hfilter, hhits⟩ := hreached
  obtain ⟨hshown, -, -, hnodup⟩ := filtered_view_sound narrow _ t ht
  exact ⟨_, t, ht, rfl, hfilter, hhits, hshown "b" hfilter, hnodup (by decide)⟩

end LogFollow.Explorer
