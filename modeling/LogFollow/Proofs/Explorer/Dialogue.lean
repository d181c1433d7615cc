import LogFollow.Proofs.Explorer.Session
import Mathlib.Data.List.Perm.Subperm
import Mathlib.Logic.Relation

/-!
# Queries among the received events

A session is driven by messages, and every query that it sends out is answered by a local search of
the corpus sent along with it, while events may arrive at any moment. The corpus and the view are
two ends of two histories: the corpus drops what arrived first, the view what stands first in it,
and an answer puts the view back to the corpus of the query.
-/

namespace LogFollow.Explorer
set_option autoImplicit false

/-- A session with its queries under way and the history of what it shows. -/
structure Dialogue where
  session : Session
  /-- The terms of the queries without an answer, with the events that they look at. -/
  pending : List (String × List Event) := []
  /-- The events that the last answered query looked at. -/
  snapshot : List Event := []
  /-- The events that arrived between that query and its answer. -/
  between : List Event := []
  /-- The events that arrived since that answer. -/
  since : List Event := []
  /-- The events that arrived since the last query was sent out. -/
  meanwhile : List Event := []

namespace Dialogue

def start (options : Options) : Dialogue := { session := .new options }

def arrive (t : Dialogue) (e : Event) : Dialogue :=
  { t with
    session := (t.session.update (.arrived e)).1
    since := t.since ++ [e]
    meanwhile := t.meanwhile ++ [e] }

/-- A message that is neither an event nor an answer. -/
def tell (t : Dialogue) (m : Message) : Dialogue :=
  let (s, c) := t.session.update m
  match c with
  | some (.ask term _ corpus) =>
    { t with session := s, pending := t.pending ++ [(term, corpus)], meanwhile := [] }
  | _ => { t with session := s }

/-- The answer to a query. Only a result starts a new history. -/
def answer (t : Dialogue) (q : String × List Event) (result : Except QueryError QueryResult) :
    Dialogue :=
  let t' := { t with
    session := (t.session.update (.answered result)).1
    pending := t.pending.erase q }
  match result with
  | .ok _ => { t' with snapshot := q.2, between := t.meanwhile, since := [] }
  | .error _ => t'

/-- What can happen in a dialogue. The workers of a search finish in any order, and one that is lost
makes the search fail. -/
inductive Next (t : Dialogue) : Dialogue → Prop
  | arrives (e : Event) : Next t (t.arrive e)
  | answers (q : String × List Event) (workers : Nat) (order : List Nat) (hq : q ∈ t.pending) :
      Next t (t.answer q (Search.runLocal q.1 q.2 workers order))
  | strays (result : Except QueryError QueryResult) (hp : t.pending = []) :
      Next t { t with session := (t.session.update (.answered result)).1 }
  | tells (m : Message) (hm : ∀ e, m ≠ .arrived e) (ha : ∀ result, m ≠ .answered result) :
      Next t (t.tell m)

def found (t : Dialogue) : List Event :=
  (t.snapshot.filter t.session.wants).mergeSort Event.notLater

structure Kept (t : Dialogue) : Prop where
  mode : t.session.options.mode = .received
  capacity : t.session.view.capacity = t.session.capacity
  idle : t.session.load = .idle → t.pending = []
  querying : t.session.load = .querying → t.session.focus = .log ∧ ∃ q, t.pending = [q] ∧
    q.2.length ≤ t.session.capacity ∧
    t.session.corpus = (q.2 ++ t.meanwhile).rtake t.session.capacity
  fits : t.snapshot.length ≤ t.session.capacity
  corpus : t.session.corpus = (t.snapshot ++ t.between ++ t.since).rtake t.session.capacity
  view : t.session.view.events =
    (t.found ++ t.since.filter t.session.wants).rtake t.session.capacity

variable {options : Options} {t t' : Dialogue} {s : Session} {m : Message} {e : Event}
  {q : String × List Event} {result : Except QueryError QueryResult}

theorem kept_start (hmode : options.mode = .received) : (start options).Kept where
  mode := hmode
  capacity := rfl
  idle _ := rfl
  querying h := by simp [start, Session.new] at h
  fits := Nat.zero_le _
  corpus := by simp [start, Session.new]
  view := by simp [start, Session.new, View.new, View.events, found]

theorem Kept.arrive (k : t.Kept) (hopen : t.session.closing = none) (e : Event) :
    (t.arrive e).Kept := by
  have hsession : t.arrive e = { t with
      session := t.session.receive e
      since := t.since ++ [e]
      meanwhile := t.meanwhile ++ [e] } := by
    rw [Dialogue.arrive, Session.update_of_open hopen]
    rfl
  rw [hsession]
  refine ⟨?_, ?_, ?_, ?_, ?_, ?_, ?_⟩
  · simpa using k.mode
  · simpa using k.capacity
  · simpa using k.idle
  · intro hload
    obtain ⟨hfocus, q, hp, hlength, hcorpus⟩ := k.querying (by simpa using hload)
    refine ⟨by simpa using hfocus, q, hp, by simpa using hlength, ?_⟩
    simp only [Session.receive_corpus, Session.receive_capacity, hcorpus]
    rw [← List.append_assoc]
    exact rtake_rtake_append _ _ _
  · simpa using k.fits
  · simp only [Session.receive_corpus, Session.receive_capacity, k.corpus]
    rw [← List.append_assoc]
    exact rtake_rtake_append _ _ _
  · have hevents := t.session.receive_events e k.capacity
    simp only [hevents, found, Session.receive_wants, Session.receive_capacity]
    by_cases hw : t.session.wants e
    · rw [if_pos hw, k.view, List.filter_append, ← List.append_assoc]
      simp only [List.filter_cons, hw, if_true, List.filter_nil]
      exact rtake_rtake_append _ _ _
    · rw [if_neg hw, k.view, List.filter_append]
      simp [hw, found]

theorem Kept.of_same (k : t.Kept) (ho : s.options = t.session.options)
    (hf : s.filter = t.session.filter) (hc : s.corpus = t.session.corpus)
    (hl : s.load = t.session.load) (hfocus : s.load = .querying → s.focus = .log)
    (hv : s.view.events = t.session.view.events)
    (hcap : s.view.capacity = t.session.view.capacity) : { t with session := s }.Kept := by
  have hcapacity := Session.capacity_of_options ho
  have hwants := Session.wants_of_filter hf
  refine ⟨?_, ?_, ?_, ?_, ?_, ?_, ?_⟩
  · exact ho ▸ k.mode
  · exact hcap.trans (k.capacity.trans hcapacity.symm)
  · exact hl ▸ k.idle
  · intro hload
    obtain ⟨-, q, hp, hlength, hcorpus⟩ := k.querying (hl ▸ hload)
    refine ⟨hfocus hload, q, hp, ?_, ?_⟩
    · exact hcapacity ▸ hlength
    · simp only [hc, hcapacity, hcorpus]
  · exact hcapacity ▸ k.fits
  · simp only [hc, hcapacity, k.corpus]
  · simp only [hv, hcapacity, hwants, k.view, found]

theorem Kept.idle_iff (k : t.Kept) : t.session.load = .idle ↔ t.pending = [] := by
  refine ⟨k.idle, fun hp => ?_⟩
  cases hload : t.session.load with
  | idle => rfl
  | querying =>
    obtain ⟨-, q, hq, -⟩ := k.querying hload
    simp [hp] at hq

/-- A query looks at the corpus of its moment, and what arrives from then on is remembered. -/
theorem Kept.ask (k : t.Kept) (hfocus : t.session.focus = .query) :
    { t with
      session := t.session.ask.1
      pending := t.pending ++ [(t.session.editor.value, t.session.corpus)]
      meanwhile := [] }.Kept := by
  have hidle : t.session.load = .idle := by
    cases hload : t.session.load with
    | idle => rfl
    | querying =>
      have hlog := (k.querying hload).1
      rw [hfocus] at hlog
      cases hlog
  have hlength : t.session.corpus.length ≤ t.session.capacity := by
    rw [k.corpus, length_rtake]
    exact Nat.min_le_left _ _
  refine ⟨k.mode, k.capacity, ?_, ?_, k.fits, k.corpus, k.view⟩
  · intro hload
    simp [Session.ask] at hload
  · intro _
    refine ⟨rfl, _, by rw [k.idle hidle, List.nil_append], hlength, ?_⟩
    rw [List.append_nil]
    exact (rtake_of_length_le hlength).symm

theorem Kept.tell (k : t.Kept) (hopen : t.session.closing = none) (hm : ∀ e, m ≠ .arrived e)
    (ha : ∀ result, m ≠ .answered result) (hopen' : (t.tell m).session.closing = none) :
    (t.tell m).Kept := by
  unfold Dialogue.tell at hopen' ⊢
  obtain ⟨s, c, hs⟩ : ∃ s c, t.session.update m = (s, c) := ⟨_, _, rfl⟩
  rw [hs] at hopen' ⊢
  rcases Session.update_cases hs with ⟨-, htakes⟩ | ⟨hclosed, -⟩
  · have hlog := fun hload => (k.querying hload).1
    cases htakes with
    | received e => exact absurd rfl (hm e)
    | concluded result => exact absurd rfl (ha result)
    | asked p hf hp => simpa [Session.ask, k.mode] using k.ask hf
    | closed m reason => simp at hopen'
    | viewed m v hv =>
      refine k.of_same rfl rfl rfl rfl hlog ?_ hv.capacity
      rw [← View.map_event_hits, ← View.map_event_hits, hv.hits]
    | focused p f hf => exact k.of_same rfl rfl rfl rfl hf rfl rfl
    | edited p editor hf => exact k.of_same rfl rfl rfl rfl hlog rfl rfl
    | ticked spinner => exact k.of_same rfl rfl rfl rfl hlog rfl rfl
  · rw [hopen] at hclosed
    cases hclosed

/-- A result shows what its query found in the snapshot, and a failure shows what was there. -/
theorem Kept.answer (k : t.Kept) (hopen : t.session.closing = none) (workers : Nat)
    (order : List Nat) (hq : q ∈ t.pending) :
    (t.answer q (Search.runLocal q.1 q.2 workers order)).Kept := by
  have hload : t.session.load = .querying := by
    cases hload : t.session.load with
    | idle => simp [k.idle hload] at hq
    | querying => rfl
  obtain ⟨hfocus, q', hpending, hlength, hcorpus⟩ := k.querying hload
  have hsame : q = q' := by simpa [hpending] using hq
  subst hsame
  have hidle := t.session.conclude_load
  have hoptions := t.session.conclude_options
  have hcapacity := t.session.conclude_capacity
  unfold Dialogue.answer
  rw [Session.update_of_open hopen, hpending, List.erase_cons_head]
  cases hresult : Search.runLocal q.1 q.2 workers order with
  | error e =>
    simp only [Session.take, Session.conclude, hload]
    refine ⟨k.mode, k.capacity, fun _ => rfl, ?_, k.fits, k.corpus, k.view⟩
    intro hquerying
    cases hquerying
  | ok r =>
    obtain rfl := Search.runLocal_ok hresult
    refine ⟨?_, ?_, fun _ => rfl, ?_, ?_, ?_, ?_⟩
    · exact (congrArg Options.mode (hoptions _)).trans k.mode
    · exact (t.session.conclude_view_capacity _).trans (k.capacity.trans (hcapacity _).symm)
    · intro hquerying
      cases (hidle _).symm.trans hquerying
    · simpa [Session.take, hcapacity] using hlength
    · simpa [Session.take, hcapacity, t.session.conclude_corpus] using hcorpus
    · simp only [Session.take, found, hcapacity, Session.conclude_wants hload,
        Session.conclude_events hload, k.capacity, List.filter_nil, List.append_nil, List.map_map]
      simp [Search.hitOf, Function.comp_def]

theorem Kept.next (k : t.session.closing = none → t.Kept) (hn : Next t t')
    (hopen' : t'.session.closing = none) : t'.Kept := by
  -- A closed session stays closed, so that the invariant is never needed for one.
  have hopen : t.session.closing = none := by
    by_contra hclosed
    have hsame := Session.update_of_closed (Option.isSome_iff_ne_none.mpr hclosed)
    cases hn with
    | arrives e => simp [Dialogue.arrive, hsame, hclosed] at hopen'
    | answers q workers order hq =>
      unfold Dialogue.answer at hopen'
      split at hopen' <;> simp [hsame, hclosed] at hopen'
    | strays result hp => simp [hsame, hclosed] at hopen'
    | tells m hm ha => simp [Dialogue.tell, hsame, hclosed] at hopen'
  have k := k hopen
  cases hn with
  | arrives e => exact k.arrive hopen e
  | answers q workers order hq => exact k.answer hopen workers order hq
  | strays result hp =>
    have hload := k.idle_iff.mpr hp
    have hsession : (t.session.update (.answered result)).1 = t.session := by
      rw [Session.update_of_open hopen]
      simp [Session.take, Session.conclude, hload]
    rw [hsession]
    exact k
  | tells m hm ha => exact k.tell hopen hm ha hopen'

theorem kept_reached (hmode : options.mode = .received)
    (ht : Relation.ReflTransGen Next (start options) t) : t.session.closing = none → t.Kept := by
  induction ht with
  | refl => exact fun _ => kept_start hmode
  | tail _ hn ih => exact Kept.next ih hn

/-- The number of events that the corpus has dropped of the snapshot and of what came after it. -/
def dropped (t : Dialogue) : Nat :=
  (t.snapshot ++ t.between ++ t.since).length - t.session.capacity

/-- The hits of the last answered query that are no longer in the corpus. -/
def forgotten (t : Dialogue) : List Event :=
  (t.snapshot.take t.dropped).filter t.session.wants

/-- The events in the corpus that are to be shown and came between that query and its answer. -/
def late (t : Dialogue) : List Event :=
  (t.between.drop (t.dropped - t.snapshot.length)).filter t.session.wants

/-- The hits of that query that are no longer in the view. -/
def pushedOut (t : Dialogue) : List Event :=
  t.found.take (t.found.length + (t.since.filter t.session.wants).length - t.session.capacity)

theorem found_perm (t : Dialogue) : t.found.Perm (t.snapshot.filter t.session.wants) :=
  List.mergeSort_perm _ _

theorem Kept.length_corpus (k : t.Kept) : t.session.corpus.length ≤ t.session.capacity := by
  rw [k.corpus, length_rtake]
  exact Nat.min_le_left _ _

/-- Once the corpus holds only events that came after the answer, the view shows them. -/
theorem Kept.shown_of_full (k : t.Kept) (hfull : t.session.capacity ≤ t.since.length) :
    t.session.corpus.filter t.session.wants <:+ t.session.view.events := by
  have hsince : t.session.corpus <:+ t.since := by
    apply List.suffix_of_suffix_length_le _ (List.suffix_append (t.snapshot ++ t.between) t.since)
    · exact k.length_corpus.trans hfull
    · rw [k.corpus]
      exact rtake_suffix _ _
  rw [k.view]
  apply suffix_rtake ((hsince.filter _).trans (List.suffix_append _ _))
  exact (List.length_filter_le _ _).trans k.length_corpus

theorem late_of_full (hfull : t.session.capacity ≤ t.since.length) : t.late = [] := by
  have hdropped : t.between.length ≤ t.dropped - t.snapshot.length := by
    simp only [dropped, List.length_append]
    omega
  rw [late, List.drop_eq_nil_of_le hdropped, List.filter_nil]

theorem pushedOut_of_full (hfull : t.session.capacity ≤ t.since.length) :
    t.pushedOut.Subperm t.forgotten := by
  have hdropped : t.snapshot.length ≤ t.dropped := by
    simp only [dropped, List.length_append]
    omega
  rw [forgotten, List.take_of_length_le hdropped]
  exact (List.take_sublist _ _).subperm.trans t.found_perm.subperm

theorem Kept.filter_corpus (k : t.Kept) (hfull : t.since.length < t.session.capacity) :
    t.session.corpus.filter t.session.wants =
      (t.snapshot.drop t.dropped).filter t.session.wants ++ t.late ++
        t.since.filter t.session.wants := by
  have hdropped : t.dropped - (t.snapshot ++ t.between).length = 0 := by
    simp only [dropped, List.length_append]
    omega
  rw [k.corpus, List.rtake, ← dropped, List.drop_append, hdropped, List.drop_zero, List.drop_append,
    List.filter_append, List.filter_append, late]

theorem Kept.events_eq (k : t.Kept) (hfull : t.since.length < t.session.capacity) :
    ∃ kept, t.pushedOut ++ kept = t.found ∧
      t.session.view.events = kept ++ t.since.filter t.session.wants := by
  let n := t.found.length + (t.since.filter t.session.wants).length - t.session.capacity
  have hn : n - t.found.length = 0 := by
    have := List.length_filter_le t.session.wants t.since
    omega
  refine ⟨t.found.drop n, List.take_append_drop n t.found, ?_⟩
  rw [k.view, List.rtake, List.length_append, List.drop_append]
  change t.found.drop n ++ (t.since.filter t.session.wants).drop (n - t.found.length) = _
  rw [hn, List.drop_zero]

theorem forgotten_append_perm (t : Dialogue) :
    (t.forgotten ++ (t.snapshot.drop t.dropped).filter t.session.wants).Perm t.found := by
  rw [forgotten, ← List.filter_append, List.take_append_drop]
  exact t.found_perm.symm

theorem Kept.subperm_iff (k : t.Kept) :
    (t.session.corpus.filter t.session.wants).Subperm t.session.view.events ↔
      (t.late ++ t.pushedOut).Subperm t.forgotten := by
  by_cases hfull : t.session.capacity ≤ t.since.length
  · refine iff_of_true (k.shown_of_full hfull).sublist.subperm ?_
    rw [late_of_full hfull, List.nil_append]
    exact pushedOut_of_full hfull
  · have hfull : t.since.length < t.session.capacity := by omega
    obtain ⟨kept, hfound, hevents⟩ := k.events_eq hfull
    let left := (t.snapshot.drop t.dropped).filter t.session.wants
    have hcorpus : t.session.corpus.filter t.session.wants =
        left ++ t.late ++ t.since.filter t.session.wants := k.filter_corpus hfull
    have hperm : (t.pushedOut ++ kept).Perm (left ++ t.forgotten) := by
      rw [hfound]
      exact t.forgotten_append_perm.symm.trans List.perm_append_comm
    have hmove : (t.pushedOut ++ (left ++ t.late)).Perm (left ++ (t.late ++ t.pushedOut)) := by
      rw [← List.append_assoc left]
      exact List.perm_append_comm
    -- What the corpus and the view have in common is cancelled on both sides.
    rw [hcorpus, hevents, List.subperm_append_right, ← List.subperm_append_left t.pushedOut,
      hperm.subperm_left, hmove.subperm_right, List.subperm_append_left]

theorem Kept.late_or_pushedOut (k : t.Kept) (he : e ∈ t.session.corpus)
    (hw : t.session.wants e = true) (hview : e ∉ t.session.view.events) :
    e ∈ t.late ∨ e ∈ t.pushedOut := by
  have hmem : e ∈ t.session.corpus.filter t.session.wants := List.mem_filter.mpr ⟨he, hw⟩
  by_cases hfull : t.session.capacity ≤ t.since.length
  · exact absurd ((k.shown_of_full hfull).subset hmem) hview
  · have hfull : t.since.length < t.session.capacity := by omega
    obtain ⟨kept, hfound, hevents⟩ := k.events_eq hfull
    rw [hevents, List.mem_append, not_or] at hview
    rw [k.filter_corpus hfull, List.mem_append, List.mem_append] at hmem
    rcases hmem with (hleft | hlate) | hsince
    · have hin : e ∈ t.pushedOut ++ kept := by
        rw [hfound]
        exact t.forgotten_append_perm.mem_iff.mp (List.mem_append_right _ hleft)
      exact .inr ((List.mem_append.mp hin).resolve_right hview.1)
    · exact .inl hlate
    · exact absurd hsince hview.2

/-- Events in the order of their times, none of which comes between a query and its answer, are all
shown. -/
theorem Kept.shown_of_order (k : t.Kept) (hbetween : t.between = [])
    (horder : t.snapshot.Pairwise fun a b => a.timestamp ≤ b.timestamp) :
    t.session.corpus.filter t.session.wants <:+ t.session.view.events := by
  have hfound : t.found = t.snapshot.filter t.session.wants := by
    apply List.mergeSort_of_pairwise
    exact (horder.filter _).imp Event.notLater_iff.mpr
  rw [k.view, hfound, ← List.filter_append]
  apply suffix_rtake
  · rw [k.corpus, hbetween, List.append_nil]
    exact (rtake_suffix _ _).filter _
  · exact (List.length_filter_le _ _).trans k.length_corpus

theorem late_pushedOut_iff (hdistinct : (t.snapshot ++ t.between ++ t.since).Nodup) :
    (t.late ++ t.pushedOut).Subperm t.forgotten ↔ t.late = [] ∧ t.pushedOut ⊆ t.forgotten := by
  have hparts := (List.nodup_append.mp hdistinct).1
  obtain ⟨hsnapshot, -, hapart⟩ := List.nodup_append.mp hparts
  constructor
  · intro hsub
    obtain ⟨hlate, hpushed⟩ := List.append_subset.mp hsub.subset
    refine ⟨List.eq_nil_iff_forall_not_mem.mpr fun e he => ?_, hpushed⟩
    have hbetween : e ∈ t.between := List.mem_of_mem_drop (List.mem_filter.mp he).1
    have hin : e ∈ t.snapshot := List.mem_of_mem_take (List.mem_filter.mp (hlate he)).1
    exact hapart e hin e hbetween rfl
  · rintro ⟨hlate, hpushed⟩
    have hfound : t.found.Nodup := t.found_perm.nodup_iff.mpr (hsnapshot.filter _)
    rw [hlate, List.nil_append]
    exact List.Nodup.subperm (hfound.sublist (List.take_sublist _ _)) hpushed

theorem Kept.shown_iff (k : t.Kept) (hdistinct : (t.snapshot ++ t.between ++ t.since).Nodup) :
    (∀ e ∈ t.session.corpus, t.session.wants e = true → e ∈ t.session.view.events) ↔
      t.late = [] ∧ t.pushedOut ⊆ t.forgotten := by
  have hcorpus : (t.session.corpus.filter t.session.wants).Nodup := by
    rw [k.corpus]
    exact (hdistinct.sublist (rtake_suffix _ _).sublist).filter _
  rw [← late_pushedOut_iff hdistinct, ← k.subperm_iff]
  constructor
  · intro hshown
    apply hcorpus.subperm
    intro e he
    exact hshown e (List.mem_filter.mp he).1 (List.mem_filter.mp he).2
  · intro hsub e he hw
    exact hsub.subset (List.mem_filter.mpr ⟨he, hw⟩)

end Dialogue

/-- When an open session shows all events of its corpus that it is to show. The view is set back to
what the corpus was when the last answered query was sent out, so events that came between the query
and its answer are missing; and the view drops the earliest hit where the corpus drops the event that
arrived first, so hits pushed out of the view may still be in the corpus. Nothing else goes missing,
and nothing at all if events come in the order of their times and none of them during a query. -/
theorem view_complete_iff (options : Options) (hmode : options.mode = .received) (t : Dialogue)
    (ht : Relation.ReflTransGen Dialogue.Next (.start options) t)
    (hopen : t.session.closing = none) :
    ((t.session.corpus.filter t.session.wants).Subperm t.session.view.events ↔
      (t.late ++ t.pushedOut).Subperm t.forgotten) ∧
    ((t.snapshot ++ t.between ++ t.since).Nodup →
      ((∀ e ∈ t.session.corpus, t.session.wants e = true → e ∈ t.session.view.events) ↔
        t.late = [] ∧ t.pushedOut ⊆ t.forgotten)) ∧
    (∀ e ∈ t.session.corpus, t.session.wants e = true → e ∉ t.session.view.events →
      e ∈ t.late ∨ e ∈ t.pushedOut) ∧
    (t.between = [] → (t.snapshot.Pairwise fun a b => a.timestamp ≤ b.timestamp) →
      t.session.corpus.filter t.session.wants <:+ t.session.view.events) := by
  have k := Dialogue.kept_reached hmode ht hopen
  exact ⟨k.subperm_iff, k.shown_iff, fun e he => k.late_or_pushedOut he, k.shown_of_order⟩

/-- A session that searches what it has received, with room for two events. -/
def narrow : Options where
  keymap := .initial
  capacity := 2
  mode := .received
  spinnerSet _ := 0

/-- The later event that arrives first pushes the earlier one out of the view, but is itself what the
corpus drops. -/
theorem view_complete_iff_out_of_order : ∃ t,
    Relation.ReflTransGen Dialogue.Next (.start narrow) t ∧ t.session.closing = none ∧
      t.session.corpus = [⟨3, 0, "b"⟩, ⟨9, 0, "c"⟩] ∧
      t.session.view.events = [⟨5, 0, "a"⟩, ⟨9, 0, "c"⟩] ∧
      t.late = [] ∧ t.pushedOut = [⟨3, 0, "b"⟩] ∧ t.forgotten = [⟨5, 0, "a"⟩] ∧
      ((t.session.corpus.filter t.session.wants).Subperm t.session.view.events ↔
        (t.late ++ t.pushedOut).Subperm t.forgotten) := by
  have hreached : ∃ t, Relation.ReflTransGen Dialogue.Next (.start narrow) t ∧
      t.session.closing = none ∧ t.session.corpus = [⟨3, 0, "b"⟩, ⟨9, 0, "c"⟩] ∧
      t.session.view.events = [⟨5, 0, "a"⟩, ⟨9, 0, "c"⟩] ∧
      t.late = [] ∧ t.pushedOut = [⟨3, 0, "b"⟩] ∧ t.forgotten = [⟨5, 0, "a"⟩] := by
    have hlocal : Search.runLocal "" [⟨5, 0, "a"⟩, ⟨3, 0, "b"⟩] 1 [0] =
        .ok ⟨"", [⟨⟨3, 0, "b"⟩, none⟩, ⟨⟨5, 0, "a"⟩, none⟩]⟩ := by cbv
    have hfound : List.mergeSort [⟨5, 0, "a"⟩, ⟨3, 0, "b"⟩] Event.notLater =
        [⟨3, 0, "b"⟩, ⟨5, 0, "a"⟩] := by cbv
    refine ⟨_, .head (.arrives ⟨5, 0, "a"⟩) <| .head (.arrives ⟨3, 0, "b"⟩)
      <| .head (.tells (.key ⟨.tab, false, false, false⟩) (by simp) (by simp))
      <| .head (.tells (.key ⟨.enter, false, false, false⟩) (by simp) (by simp))
      <| .head (.answers ("", [⟨5, 0, "a"⟩, ⟨3, 0, "b"⟩]) 1 [0] (.head []))
      <| .single (.arrives ⟨9, 0, "c"⟩), ?_, ?_, ?_, ?_, ?_, ?_⟩ <;> rw [hlocal]
    case refine_5 =>
      show (List.mergeSort [⟨5, 0, "a"⟩, ⟨3, 0, "b"⟩] Event.notLater).take
        ((List.mergeSort [⟨5, 0, "a"⟩, ⟨3, 0, "b"⟩] Event.notLater).length + 1 - 2) = _
      rw [hfound]
      rfl
    all_goals rfl
  obtain ⟨t, ht, hopen, hcorpus, hevents, hlate, hpushed, hforgotten⟩ := hreached
  refine ⟨t, ht, hopen, hcorpus, hevents, hlate, hpushed, hforgotten, ?_⟩
  exact (view_complete_iff narrow rfl t ht hopen).1

/-- An event that arrives while an empty query is under way is in the corpus, but not in the view,
though the view has no filter. -/
theorem late_event_not_shown : ∃ t, Relation.ReflTransGen Dialogue.Next (.start narrow) t ∧
    t.session.closing = none ∧ t.session.load = .idle ∧ t.session.filter = none ∧
    ⟨5, 0, "a"⟩ ∈ t.session.corpus ∧ t.session.wants ⟨5, 0, "a"⟩ = true ∧
    ⟨5, 0, "a"⟩ ∉ t.session.view.events := by
  have hreached : ∃ t, Relation.ReflTransGen Dialogue.Next (.start narrow) t ∧
      t.session.closing = none ∧ t.session.load = .idle ∧ t.session.filter = none ∧
      t.session.corpus = [⟨5, 0, "a"⟩] ∧ t.session.view.events = [] := by
    have hlocal : Search.runLocal "" [] 1 [0] = .ok ⟨"", []⟩ := by cbv
    refine ⟨_, .head (.tells (.key ⟨.tab, false, false, false⟩) (by simp) (by simp))
      <| .head (.tells (.key ⟨.enter, false, false, false⟩) (by simp) (by simp))
      <| .head (.arrives ⟨5, 0, "a"⟩)
      <| .single (.answers ("", []) 1 [0] (.head [])), ?_, ?_, ?_, ?_, ?_⟩
    all_goals
      rw [hlocal]
      rfl
  obtain ⟨t, ht, hopen, hidle, hfilter, hcorpus, hevents⟩ := hreached
  refine ⟨t, ht, hopen, hidle, hfilter, ?_, ?_, ?_⟩
  · rw [hcorpus]
    exact List.mem_singleton.mpr rfl
  · rw [Session.wants, hfilter]
    rfl
  · rw [hevents]
    exact List.not_mem_nil

end LogFollow.Explorer
