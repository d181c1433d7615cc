import LogFollow.Proofs.Search.Local
import Mathlib.Order.Bounds.Basic

/-!
# What a search finds

A term stands in a message where the window of its length has the letters of the term, in either
case. A search lists the places of the events in which the term stands, by time and then by place,
each with the leftmost of these windows. Texts with the same letters cannot be told apart by it.
-/

namespace LogFollow
set_option autoImplicit false

namespace Text

/-- Two texts with the same letters, place by place. -/
def SameLetters : List Char → List Char → Prop := List.Forall₂ fun a b => sameLetter a b = true

variable {a b c : List Char}

theorem sameLetter_equivalence : Equivalence fun a b => sameLetter a b = true where
  refl _ := sameLetter_iff.mpr rfl
  symm h := sameLetter_iff.mpr (sameLetter_iff.mp h).symm
  trans h h' := sameLetter_iff.mpr ((sameLetter_iff.mp h).trans (sameLetter_iff.mp h'))

theorem sameLetters_iff : SameLetters a b ↔ a.map lower = b.map lower := by
  rw [SameLetters, ← List.forall₂_eq_eq_eq, List.forall₂_map_left_iff, List.forall₂_map_right_iff]
  simp only [sameLetter_iff]

theorem SameLetters.length_eq (h : SameLetters a b) : a.length = b.length :=
  List.Forall₂.length_eq h

end Text

namespace Search

open Text (SameLetters sameLetter lower)

/-- The term stands at a place of a text: the window of its length there has its letters. -/
structure StandsAt (term text : List Char) (place : Nat) : Prop where
  inside : place + term.length ≤ text.length
  same : SameLetters term ((text.drop place).take term.length)

/-- The order of a search: by time, and at equal times by the place in the corpus. -/
def Precedes (f g : Found) : Prop :=
  f.timestamp < g.timestamp ∨ (f.timestamp = g.timestamp ∧ f.index < g.index)

/-- Two events of the same time whose messages have the same letters. -/
def Alike (e e' : Event) : Prop :=
  e.timestamp = e'.timestamp ∧ SameLetters e.message.toList e'.message.toList

variable {term term' text text' : List Char} {place i j : Nat} {c : Char}
  {word word' message message' : String} {span : Span} {corpus corpus' : List Event} {f : Found}

theorem standsAt_iff : StandsAt term text place ↔
    place + term.length ≤ text.length ∧
      term.map lower = ((text.map lower).drop place).take term.length := by
  rw [← List.map_drop, ← List.map_take, ← Text.sameLetters_iff]
  exact ⟨fun h => ⟨h.inside, h.same⟩, fun h => ⟨h.1, h.2⟩⟩

theorem standsAt_nil : StandsAt term [] place ↔ term = [] ∧ place = 0 := by
  rw [standsAt_iff]
  cases term <;> simp

theorem standsAt_succ : StandsAt term (c :: text) (place + 1) ↔ StandsAt term text place := by
  rw [standsAt_iff, standsAt_iff, List.length_cons, List.map_cons, List.drop_succ_cons]
  constructor
  · rintro ⟨hinside, hsame⟩
    exact ⟨by omega, hsame⟩
  · rintro ⟨hinside, hsame⟩
    exact ⟨by omega, hsame⟩

theorem standsAt_congr (hterm : SameLetters term term') (htext : SameLetters text text') :
    StandsAt term text place ↔ StandsAt term' text' place := by
  rw [standsAt_iff, standsAt_iff, hterm.length_eq, htext.length_eq, Text.sameLetters_iff.mp hterm,
    Text.sameLetters_iff.mp htext]

theorem startsWith_iff : startsWith term text = true ↔ StandsAt term text 0 := by
  fun_induction startsWith term text with
  | case1 text => simp [standsAt_iff]
  | case2 a term => simp [standsAt_nil]
  | case3 a term b text ih =>
    rw [Bool.and_eq_true, Text.sameLetter_iff, ih, standsAt_iff, standsAt_iff]
    simp only [Nat.zero_add, List.drop_zero, List.length_cons, List.map_cons, List.take_succ_cons,
      List.cons.injEq, Nat.add_le_add_iff_right]
    tauto

theorem findFrom_eq_some (h : findFrom term i text = some j) :
    i ≤ j ∧ IsLeast {place | StandsAt term text place} (j - i) := by
  fun_induction findFrom term i text with
  | case1 i hstarts | case3 i c text hstarts =>
    obtain rfl := Option.some.inj h
    rw [Nat.sub_self]
    exact ⟨Nat.le_refl _, startsWith_iff.mp hstarts, fun _ _ => Nat.zero_le _⟩
  | case2 i hstarts => cases h
  | case4 i c text hstarts ih =>
    obtain ⟨hle, hstands, hleast⟩ := ih h
    have hstep : j - i = j - (i + 1) + 1 := by omega
    refine ⟨by omega, hstep ▸ standsAt_succ.mpr hstands, ?_⟩
    rintro (_ | place) hplace
    · exact absurd (startsWith_iff.mpr hplace) hstarts
    · have := hleast (standsAt_succ.mp hplace)
      omega

theorem findFrom_eq_none (h : findFrom term i text = none) : ¬ StandsAt term text place := by
  fun_induction findFrom term i text generalizing place with
  | case1 i hstarts | case3 i c text hstarts => cases h
  | case2 i hstarts =>
    intro hplace
    obtain rfl := (standsAt_nil.mp hplace).2
    exact hstarts (startsWith_iff.mpr hplace)
  | case4 i c text hstarts ih =>
    intro hplace
    cases place with
    | zero => exact hstarts (startsWith_iff.mpr hplace)
    | succ place => exact ih h (standsAt_succ.mp hplace)

/-- What is found is the leftmost window, and its end. -/
theorem findMatch_eq_some_iff : findMatch message word = some span ↔
    IsLeast {place | StandsAt word.toList message.toList place} span.start ∧
      span.stop = span.start + word.toList.length := by
  cases hfrom : findFrom word.toList 0 message.toList with
  | none =>
    simp only [findMatch, hfrom, Option.map_none, reduceCtorEq, false_iff]
    exact fun h => findFrom_eq_none hfrom h.1.1
  | some start =>
    have hleast := (findFrom_eq_some hfrom).2
    rw [Nat.sub_zero] at hleast
    simp only [findMatch, hfrom, Option.map_some, Option.some.injEq]
    constructor
    · rintro rfl
      exact ⟨hleast, rfl⟩
    · rintro ⟨hstart, hstop⟩
      cases span
      simp_all [hleast.unique hstart]

theorem exists_findMatch_iff : (∃ span, findMatch message word = some span) ↔
    ∃ place, StandsAt word.toList message.toList place := by
  constructor
  · rintro ⟨span, hspan⟩
    exact ⟨span.start, (findMatch_eq_some_iff.mp hspan).1.1⟩
  · rintro ⟨place, hplace⟩
    cases hfind : findMatch message word with
    | some span => exact ⟨span, rfl⟩
    | none => exact absurd hplace (findFrom_eq_none (Option.map_eq_none_iff.mp hfind))

theorem findMatch_congr (hword : SameLetters word.toList word'.toList)
    (hmessage : SameLetters message.toList message'.toList) :
    findMatch message word = findMatch message' word' := by
  apply Option.ext
  intro span
  rw [findMatch_eq_some_iff, findMatch_eq_some_iff, hword.length_eq]
  simp only [standsAt_congr hword hmessage]

theorem collect_congr (hword : SameLetters word.toList word'.toList)
    (hcorpus : List.Forall₂ Alike corpus corpus') :
    collect word i corpus = collect word' i corpus' := by
  induction hcorpus generalizing i with
  | nil => rfl
  | cons halike _ ih => simp only [collect, findMatch_congr hword halike.2, halike.1, ih]

theorem collect_increasing (word : String) (offset : Nat) (events : List Event) :
    (collect word offset events).Pairwise fun f g => f.index < g.index := by
  have hplaces : (events.zipIdx offset).Pairwise fun x y => x.2 < y.2 := by
    rw [← List.pairwise_map, List.zipIdx_map_snd]
    exact List.pairwise_lt_range'
  rw [collect_eq_sightings, List.pairwise_map, sightings, List.pairwise_filterMap]
  refine hplaces.imp fun hlt x hx y hy => ?_
  obtain ⟨_, -, rfl⟩ := Option.map_eq_some_iff.mp hx
  obtain ⟨_, -, rfl⟩ := Option.map_eq_some_iff.mp hy
  exact hlt

theorem mem_search_iff : f ∈ search word corpus ↔
    ∃ e, corpus[f.index]? = some e ∧ f.timestamp = e.timestamp ∧
      findMatch e.message word = some f.span := by
  rw [search, inOrder, List.mem_mergeSort, collect_eq_sightings, List.mem_map]
  constructor
  · rintro ⟨x, hx, rfl⟩
    exact ⟨x.2, of_mem_sightings hx⟩
  · rintro ⟨e, hevent, htime, hspan⟩
    refine ⟨(f, e), List.mem_filterMap.mpr ⟨(e, f.index), ?_, ?_⟩, rfl⟩
    · exact List.mk_mem_zipIdx_iff_getElem?.mpr hevent
    · simp [hspan, ← htime]

theorem search_precedes (word : String) (corpus : List Event) :
    (search word corpus).Pairwise Precedes := by
  have hsorted : (search word corpus).Pairwise fun f g => f.timestamp ≤ g.timestamp :=
    sorted_mergeSort_time Found.timestamp _
  rw [List.pairwise_iff_forall_sublist] at hsorted ⊢
  intro f g hsub
  rcases Int.lt_or_eq_of_le (hsorted hsub) with hlt | htie
  · exact .inl hlt
  · -- Sorting keeps found events of one time in the order in which they were collected.
    have hties := hsub.filter (·.timestamp = g.timestamp)
    rw [search, inOrder, filter_mergeSort_time] at hties
    have hkept := (collect_increasing word 0 corpus).sublist (hties.trans List.filter_sublist)
    simp only [htie, decide_true, List.filter_cons_of_pos, List.filter_nil] at hkept
    exact .inr ⟨htie, List.rel_of_pairwise_cons hkept List.mem_cons_self⟩

theorem search_index_nodup (word : String) (corpus : List Event) :
    ((search word corpus).map (·.index)).Nodup := by
  have hperm : ((search word corpus).map (·.index)).Perm ((collect word 0 corpus).map (·.index)) :=
    (List.mergeSort_perm _ _).map _
  rw [hperm.nodup_iff]
  exact List.pairwise_map.mpr ((collect_increasing word 0 corpus).imp fun hlt => Nat.ne_of_lt hlt)

theorem mem_search_index_iff : i ∈ (search word corpus).map (·.index) ↔
    ∃ e, corpus[i]? = some e ∧ ∃ place, StandsAt word.toList e.message.toList place := by
  rw [List.mem_map]
  constructor
  · rintro ⟨f, hf, rfl⟩
    obtain ⟨e, hevent, -, hspan⟩ := mem_search_iff.mp hf
    exact ⟨e, hevent, exists_findMatch_iff.mp ⟨_, hspan⟩⟩
  · rintro ⟨e, hevent, hplace⟩
    obtain ⟨span, hspan⟩ := exists_findMatch_iff.mpr hplace
    exact ⟨⟨i, e.timestamp, span⟩, mem_search_iff.mpr ⟨e, hevent, rfl, hspan⟩, rfl⟩

theorem standsAt_empty (text : List Char) : StandsAt [] text 0 := ⟨Nat.zero_le _, .nil⟩

/-- A search lists the place of each event in which the term stands once, and no other place; the
empty term stands in every event. The places are in the order of the times of their events and, where
times are equal, of the corpus. Each comes with the leftmost window that has the letters of the term,
which lies inside the message and is as long as the term. To have the same letter is an equivalence,
so that nothing changes if characters of the term or of the messages are replaced by others of the
same letter. -/
theorem search_finds_windows (term : String) (corpus : List Event) :
    ((search term corpus).map (·.index)).Nodup ∧
    (∀ i, i ∈ (search term corpus).map (·.index) ↔
      ∃ e, corpus[i]? = some e ∧ ∃ place, StandsAt term.toList e.message.toList place) ∧
    (term = "" → ∀ i, i ∈ (search term corpus).map (·.index) ↔ i < corpus.length) ∧
    (search term corpus).Pairwise Precedes ∧
    (∀ f ∈ search term corpus, ∃ e, corpus[f.index]? = some e ∧ f.timestamp = e.timestamp ∧
      IsLeast {place | StandsAt term.toList e.message.toList place} f.span.start ∧
      f.span.stop = f.span.start + term.toList.length ∧ f.span.stop ≤ e.message.toList.length) ∧
    Equivalence (fun a b => sameLetter a b = true) ∧
    ∀ (term' : String) (corpus' : List Event), SameLetters term.toList term'.toList →
      List.Forall₂ Alike corpus corpus' → search term' corpus' = search term corpus := by
  refine ⟨search_index_nodup term corpus, fun i => mem_search_index_iff, ?_,
    search_precedes term corpus, ?_, Text.sameLetter_equivalence, ?_⟩
  · rintro rfl i
    rw [mem_search_index_iff]
    constructor
    · rintro ⟨e, hevent, -⟩
      exact (List.getElem?_eq_some_iff.mp hevent).1
    · intro hi
      exact ⟨corpus[i], List.getElem?_eq_getElem hi, 0, standsAt_empty _⟩
  · intro f hf
    obtain ⟨e, hevent, htime, hspan⟩ := mem_search_iff.mp hf
    obtain ⟨hleast, hstop⟩ := findMatch_eq_some_iff.mp hspan
    exact ⟨e, hevent, htime, hleast, hstop, hstop ▸ hleast.1.inside⟩
  · intro term' corpus' hterm hcorpus
    rw [search, search, collect_congr hterm hcorpus]

/-- The Kelvin sign is the letter K, so it can stand for it in the term; the window found in the first
message is the last one that there is room for. -/
theorem search_finds_windows_of_kelvin_sign : ∃ corpus found,
    corpus = [⟨7, 0, "aaK"⟩, ⟨5, 0, "a k"⟩, ⟨7, 0, "ak ak"⟩, ⟨6, 0, "a"⟩, ⟨3, 0, "\u212aAk"⟩] ∧
    SameLetters "ak".toList "A\u212a".toList ∧
    search "ak" corpus = found ∧ search "A\u212a" corpus = found ∧
    found = [⟨4, 3, ⟨1, 3⟩⟩, ⟨0, 7, ⟨1, 3⟩⟩, ⟨2, 7, ⟨0, 2⟩⟩] := by
  let corpus : List Event :=
    [⟨7, 0, "aaK"⟩, ⟨5, 0, "a k"⟩, ⟨7, 0, "ak ak"⟩, ⟨6, 0, "a"⟩, ⟨3, 0, "\u212aAk"⟩]
  have hletters : SameLetters "ak".toList "A\u212a".toList :=
    Text.sameLetters_iff.mpr (by decide +kernel)
  have hsame : List.Forall₂ Alike corpus corpus :=
    List.forall₂_same.mpr fun e _ => ⟨rfl, Text.sameLetters_iff.mpr rfl⟩
  have hcollected : collect "ak" 0 corpus = [⟨0, 7, ⟨1, 3⟩⟩, ⟨2, 7, ⟨0, 2⟩⟩, ⟨4, 3, ⟨1, 3⟩⟩] := by
    decide +kernel
  obtain ⟨-, -, -, -, -, -, hreplaced⟩ := search_finds_windows "ak" corpus
  refine ⟨corpus, _, rfl, hletters, rfl, hreplaced _ corpus hletters hsame, ?_⟩
  rw [search, hcollected]
  cbv

end Search
end LogFollow
