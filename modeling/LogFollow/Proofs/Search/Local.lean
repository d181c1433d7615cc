import LogFollow.Proofs.TimeOrder
import LogFollow.Search.Query
import Mathlib.Data.List.Forall2

/-!
# What a local query finds

The workers of a query search the chunks of a corpus. However many there are and in whatever order
they finish, a query that has a result found the events that hold its term, in the order of their
times: the hits are those of a search of the whole corpus.
-/

namespace LogFollow.Search
set_option autoImplicit false

/-- Whether the message of an event holds a term. -/
def holds (term : String) (e : Event) : Bool := (findMatch e.message term).isSome

/-- The hit of an event that holds a term; the empty term highlights nothing. -/
def hitOf (term : String) (e : Event) : Hit :=
  ⟨e, if term == "" then none else findMatch e.message term⟩

/-- The events that a search collects, each with its event. -/
def sightings (term : String) (offset : Nat) (events : List Event) : List (Found × Event) :=
  (events.zipIdx offset).filterMap fun x =>
    (findMatch x.1.message term).map fun span => (⟨x.2, x.1.timestamp, span⟩, x.1)

variable {term : String} {offset size workers i j : Nat} {corpus events events' : List Event}
  {tasks : List (Nat × List Event)} {slots : List (Option (List Found))} {found : List Found}
  {order : List Nat}

theorem holds_empty (e : Event) : holds "" e = true := by
  have hfrom : ∀ (i : Nat) (text : List Char), findFrom [] i text = some i := by
    intro i text
    cases text <;> rfl
  simp [holds, findMatch, hfrom]

theorem findMatch_nonempty {message : String} {span : Span}
    (h : findMatch message term = some span) : span.start < span.stop ↔ term ≠ "" := by
  obtain ⟨i, -, rfl⟩ := Option.map_eq_some_iff.mp h
  have hlength : term.toList.length = 0 ↔ term = "" := by
    rw [List.length_eq_zero_iff, String.toList_eq_nil_iff]
  constructor
  · intro hlt hterm
    have := hlength.mpr hterm
    simp only at hlt
    omega
  · intro hterm
    have := mt hlength.mp hterm
    simp only
    omega

theorem collect_eq_sightings (term : String) (offset : Nat) (events : List Event) :
    collect term offset events = (sightings term offset events).map (·.1) := by
  induction events generalizing offset with
  | nil => rfl
  | cons e events ih =>
    cases hm : findMatch e.message term <;> simp [collect, sightings, hm, ih]

theorem map_snd_sightings (term : String) (offset : Nat) (events : List Event) :
    (sightings term offset events).map (·.2) = events.filter (holds term) := by
  induction events generalizing offset with
  | nil => rfl
  | cons e events ih =>
    have hrest := ih (offset + 1)
    simp only [sightings] at hrest
    cases hm : findMatch e.message term <;> simp [sightings, holds, hm, hrest]

theorem of_mem_sightings {x : Found × Event} (hx : x ∈ sightings term 0 corpus) :
    corpus[x.1.index]? = some x.2 ∧ x.1.timestamp = x.2.timestamp ∧
      findMatch x.2.message term = some x.1.span := by
  obtain ⟨⟨e, i⟩, hmem, hmap⟩ := List.mem_filterMap.mp hx
  obtain ⟨span, hspan, rfl⟩ := Option.map_eq_some_iff.mp hmap
  exact ⟨by simpa using List.mk_mem_zipIdx_iff_getElem?.mp hmem, rfl, hspan⟩

theorem hitsOf_sightings {seen : List (Found × Event)}
    (hseen : ∀ x ∈ seen, x ∈ sightings term 0 corpus) :
    hitsOf corpus (seen.map (·.1)) = (seen.map (·.2)).map (hitOf term) := by
  rw [hitsOf, List.filterMap_map, List.map_map, ← List.filterMap_eq_map]
  apply List.filterMap_congr
  intro x hx
  obtain ⟨hevent, -, hspan⟩ := of_mem_sightings (hseen x hx)
  have hempty := findMatch_nonempty hspan
  by_cases hterm : term = ""
  · simp [hevent, hitOf, hterm, mt hempty.mp (not_not.mpr hterm)]
  · simp [hevent, hitOf, hterm, hempty.mpr hterm, hspan]

/-- The sightings in the corpus, in the order of their times. -/
def seen (term : String) (corpus : List Event) : List (Found × Event) :=
  (sightings term 0 corpus).mergeSort fun x y => x.2.notLater y.2

theorem of_mem_seen {x : Found × Event} (hx : x ∈ seen term corpus) :
    corpus[x.1.index]? = some x.2 ∧ findMatch x.2.message term = some x.1.span := by
  obtain ⟨hevent, -, hspan⟩ := of_mem_sightings (List.mem_mergeSort.mp hx)
  exact ⟨hevent, hspan⟩

theorem search_eq_seen (term : String) (corpus : List Event) :
    search term corpus = (seen term corpus).map (·.1) := by
  rw [search, inOrder, collect_eq_sightings]
  refine (List.map_mergeSort ?_).symm
  intro x hx y hy
  simp only [Event.notLater, (of_mem_sightings hx).2.1, (of_mem_sightings hy).2.1]

theorem map_snd_seen (term : String) (corpus : List Event) :
    (seen term corpus).map (·.2) = (corpus.filter (holds term)).mergeSort Event.notLater := by
  rw [← map_snd_sightings term 0 corpus]
  exact List.map_mergeSort fun _ _ _ _ => rfl

theorem hitsOf_seen (term : String) (corpus : List Event) :
    hitsOf corpus (search term corpus) = (seen term corpus).map fun x => hitOf term x.2 := by
  rw [search_eq_seen]
  exact (hitsOf_sightings fun x hx => List.mem_mergeSort.mp hx).trans List.map_map

theorem hitsOf_search (term : String) (corpus : List Event) :
    hitsOf corpus (search term corpus) =
      ((corpus.filter (holds term)).mergeSort Event.notLater).map (hitOf term) := by
  rw [hitsOf_seen, ← map_snd_seen, List.map_map]
  rfl

/-- A hit shows the event that was found, and where the term stands in it unless the term is
empty. -/
def Shows (term : String) (corpus : List Event) (f : Found) (hit : Hit) : Prop :=
  corpus[f.index]? = some hit.event ∧ hit.highlight = if term = "" then none else some f.span

theorem shows_of_seen {x : Found × Event} (hx : x ∈ seen term corpus) :
    Shows term corpus x.1 (hitOf term x.2) := by
  obtain ⟨hevent, hspan⟩ := of_mem_seen hx
  refine ⟨hevent, ?_⟩
  by_cases hterm : term = "" <;> simp [hitOf, hterm, hspan]

theorem hitsOf_shows (term : String) (corpus : List Event) :
    List.Forall₂ (Shows term corpus) (search term corpus) (hitsOf corpus (search term corpus)) := by
  rw [hitsOf_seen, search_eq_seen, List.forall₂_map_left_iff, List.forall₂_map_right_iff,
    List.forall₂_same]
  exact fun x hx => shows_of_seen hx

/-- The chunks hold every event once, at its place in the corpus. -/
theorem flatMap_zipIdx_chunks (size offset : Nat) (events : List Event) :
    (chunks size offset events).flatMap (fun w => w.2.zipIdx w.1) = events.zipIdx offset := by
  fun_induction chunks size offset events with
  | case1 offset => rfl
  | case2 offset e events ih =>
    rw [List.flatMap_cons, ih]
    conv_rhs => rw [← List.take_append_drop (size + 1) (e :: events), List.zipIdx_append]
    by_cases hsize : size ≤ events.length
    · simp [hsize]
    · rw [List.drop_eq_nil_of_le (by omega), List.drop_succ_cons,
        List.drop_eq_nil_of_le (by omega)]
      rfl

theorem flatMap_chunks (term : String) (size offset : Nat) (events : List Event) :
    (chunks size offset events).flatMap (fun w => collect term w.1 w.2) =
      collect term offset events := by
  simp only [collect_eq_sightings, sightings]
  rw [← flatMap_zipIdx_chunks size offset events, List.filterMap_flatMap, List.map_flatMap]

theorem length_chunks (size offset : Nat) (events : List Event) :
    (chunks size offset events).length = (events.length + size) / (size + 1) := by
  fun_induction chunks size offset events with
  | case1 offset => exact (Nat.div_eq_of_lt (by simp)).symm
  | case2 offset e events ih =>
    rw [List.length_cons, ih, List.length_drop, List.length_cons]
    by_cases hsize : size ≤ events.length
    · rw [← Nat.add_div_right _ (Nat.succ_pos size)]
      congr 1
      omega
    · -- The last chunk is shorter than the others.
      rw [Nat.sub_eq_zero_of_le (by omega), Nat.zero_add, Nat.div_eq_of_lt (by omega)]
      symm
      apply Nat.div_eq_of_lt_le <;> omega

theorem le_mul_chunkSize (workers n : Nat) : n ≤ max 1 workers * chunkSize workers n := by
  have hpos : 0 < max 1 workers := by omega
  unfold chunkSize
  generalize max 1 workers = count at hpos
  have hceil := Nat.lt_mul_div_succ (n + (count - 1)) hpos
  rw [Nat.mul_add_one] at hceil
  calc n ≤ count * ((n + (count - 1)) / count) := by omega
    _ ≤ count * max 1 ((n + (count - 1)) / count) := Nat.mul_le_mul_left _ (Nat.le_max_right _ _)

theorem length_work_le (workers : Nat) (corpus : List Event) :
    (work workers corpus).length ≤ max 1 workers := by
  have hcover := le_mul_chunkSize workers corpus.length
  have hpos : 1 ≤ chunkSize workers corpus.length := Nat.le_max_left _ _
  rw [work, length_chunks, ← Nat.lt_succ_iff, Nat.div_lt_iff_lt_mul (by omega), Nat.succ_mul,
    Nat.sub_add_cancel hpos]
  omega

theorem length_finish : (finish term tasks i slots).length = slots.length := by
  simp [finish]

theorem getElem?_finished (hlength : slots.length = tasks.length) :
    (order.foldl (fun slots i => finish term tasks i slots) slots)[j]? =
      if j ∈ order then (tasks[j]?).map fun w => some (collect term w.1 w.2) else slots[j]? := by
  induction order generalizing slots with
  | nil => simp
  | cons i order ih =>
    rw [List.foldl_cons, ih (length_finish.trans hlength)]
    by_cases hmem : j ∈ order
    · simp [hmem]
    · by_cases hj : j = i
      · subst hj
        by_cases hlt : j < tasks.length
        · simp [hmem, finish, hlength, hlt]
        · simp [hmem, finish, hlength, hlt]
      · have hj' : i ≠ j := fun h => hj h.symm
        simp [hmem, hj, finish, List.getElem?_set_ne hj']

theorem gather_some (i : Nat) (parts : List (List Found)) :
    gather i (parts.map some) = .ok parts.flatten := by
  induction parts generalizing i with
  | nil => rfl
  | cons part parts ih => simp [gather, ih, Except.map]

theorem gather_ok (h : gather i slots = .ok found) :
    ∃ parts : List (List Found), slots = parts.map some := by
  induction slots generalizing i found with
  | nil => exact ⟨[], rfl⟩
  | cons slot slots ih =>
    cases slot with
    | none => simp [gather] at h
    | some part =>
      cases hrest : gather (i + 1) slots with
      | error e => simp [gather, hrest, Except.map] at h
      | ok rest =>
        obtain ⟨parts, rfl⟩ := ih hrest
        exact ⟨part :: parts, rfl⟩

theorem finished_eq (hall : ∀ i < tasks.length, i ∈ order) :
    order.foldl (fun slots i => finish term tasks i slots) (emptySlots tasks) =
      (tasks.map fun w => collect term w.1 w.2).map some := by
  apply List.ext_getElem?
  intro j
  rw [getElem?_finished (by simp [emptySlots])]
  by_cases hj : j < tasks.length
  · simp [hall j hj, Function.comp_def]
  · have hout : tasks.length ≤ j := by omega
    simp [emptySlots, hout]

theorem finished_all {parts : List (List Found)}
    (h : order.foldl (fun slots i => finish term tasks i slots) (emptySlots tasks) = parts.map some) :
    ∀ i < tasks.length, i ∈ order := by
  intro i hi
  by_contra hmem
  have hslot : (parts.map some)[i]? = some none := by
    rw [← h, getElem?_finished (by simp [emptySlots])]
    simp [hmem, emptySlots, hi]
  simp at hslot

theorem runLocal_finished (hall : ∀ i < (work workers corpus).length, i ∈ order) :
    runLocal term corpus workers order = .ok ⟨term, hitsOf corpus (search term corpus)⟩ := by
  have hfound : ((work workers corpus).map fun w => collect term w.1 w.2).flatten =
      collect term 0 corpus := by
    rw [← List.flatMap_def]
    exact flatMap_chunks term _ 0 corpus
  rw [runLocal, localResult, finished_eq hall, gather_some, hfound]
  rfl

theorem runLocal_complete (hall : ∀ i < (work workers corpus).length, i ∈ order) :
    runLocal term corpus workers order = .ok
      ⟨term, ((corpus.filter (holds term)).mergeSort Event.notLater).map (hitOf term)⟩ := by
  rw [runLocal_finished hall, hitsOf_search]

theorem runLocal_ok {r : QueryResult} (h : runLocal term corpus workers order = .ok r) :
    r = ⟨term, ((corpus.filter (holds term)).mergeSort Event.notLater).map (hitOf term)⟩ := by
  have hgather : ∃ found, gather 0 (order.foldl
      (fun slots i => finish term (work workers corpus) i slots)
      (emptySlots (work workers corpus))) = .ok found := by
    cases hg : gather 0 (order.foldl
      (fun slots i => finish term (work workers corpus) i slots)
      (emptySlots (work workers corpus))) with
    | error e => simp [runLocal, localResult, hg, Except.map] at h
    | ok found => exact ⟨found, rfl⟩
  obtain ⟨found, hgather⟩ := hgather
  obtain ⟨parts, hparts⟩ := gather_ok hgather
  rw [runLocal_complete (finished_all hparts)] at h
  exact (Except.ok.inj h).symm

/-- A search by many workers is a search of the whole corpus. Whatever the number of workers, of
which there is at least one, and in whatever order they finish: the hits are those of the search,
place by place, and the workers share out the corpus so that every event is searched once. -/
theorem runLocal_eq_search (term : String) (corpus : List Event) (workers : Nat)
    (order : List Nat) (hall : ∀ i < (work workers corpus).length, i ∈ order) :
    (∃ hits, runLocal term corpus workers order = .ok ⟨term, hits⟩ ∧
      List.Forall₂ (Shows term corpus) (search term corpus) hits) ∧
    (work workers corpus).flatMap (fun w => w.2.zipIdx w.1) = corpus.zipIdx ∧
    (work workers corpus).length ≤ max 1 workers :=
  ⟨⟨_, runLocal_finished hall, hitsOf_shows term corpus⟩, flatMap_zipIdx_chunks _ 0 corpus,
    length_work_le workers corpus⟩

/-- Three of five events have the same time and lie in different chunks; the second chunk, which is
the shorter one, is searched first. -/
theorem runLocal_eq_search_of_ties : ∃ corpus hits,
    corpus = [⟨7, 0, "GET"⟩, ⟨5, 0, "put"⟩, ⟨5, 0, "a get"⟩, ⟨3, 0, "Get"⟩, ⟨5, 0, "gEt"⟩] ∧
    (∀ i < (work 2 corpus).length, i ∈ [1, 0]) ∧
    runLocal "get" corpus 2 [1, 0] = .ok ⟨"get", hits⟩ ∧
    hits.map (·.event.message) = ["Get", "a get", "gEt", "GET"] ∧
    List.Forall₂ (Shows "get" corpus) (search "get" corpus) hits ∧
    (work 2 corpus).flatMap (fun w => w.2.zipIdx w.1) = corpus.zipIdx := by
  let corpus : List Event :=
    [⟨7, 0, "GET"⟩, ⟨5, 0, "put"⟩, ⟨5, 0, "a get"⟩, ⟨3, 0, "Get"⟩, ⟨5, 0, "gEt"⟩]
  have hall : ∀ i < (work 2 corpus).length, i ∈ [1, 0] := by decide +kernel
  obtain ⟨⟨hits, hresult, hshows⟩, hshared, -⟩ := runLocal_eq_search "get" corpus 2 [1, 0] hall
  refine ⟨corpus, hits, rfl, hall, hresult, ?_, hshows, hshared⟩
  have hholds : corpus.filter (holds "get") =
      [⟨7, 0, "GET"⟩, ⟨5, 0, "a get"⟩, ⟨3, 0, "Get"⟩, ⟨5, 0, "gEt"⟩] := by rfl
  have hits_eq := congrArg (·.hits) (Except.ok.inj (hresult.symm.trans (runLocal_complete hall)))
  simp only at hits_eq
  rw [hits_eq, hholds]
  simp [List.mergeSort, List.MergeSort.Internal.splitInTwo, Event.notLater, hitOf]

end LogFollow.Search
