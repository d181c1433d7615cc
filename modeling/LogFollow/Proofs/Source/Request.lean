import LogFollow.Proofs.Json.Keys
import LogFollow.Proofs.Json.Written
import LogFollow.Source.Request

/-!
# The body of a request determines the query

The body is read back as an object whose fields tell every part of the window and the token. A part
that is missing has no field, and so have a limit of zero and a list without streams; nothing else is
left out. Hence two queries with one body are the same query.
-/

namespace LogFollow.Request
set_option autoImplicit false

open Json

/-- The times of a window are signed 64-bit numbers and its limit is an unsigned one. -/
structure Sized (w : Window) : Prop where
  start : ∀ n ∈ w.start, Number.isSigned n = true
  stop : ∀ n ∈ w.stop, Number.isSigned n = true
  limit : w.limit ≤ Number.maxUnsigned

/-- What the fields of an object say about a window and a token. -/
structure Tells (fields : List (String × Value)) (w : Window) (token : Option String) : Prop where
  group : valueAt? "logGroupName" fields = some (.string w.group)
  start : valueAt? "startTime" fields = w.start.map fun n => .number (.int n)
  stop : valueAt? "endTime" fields = w.stop.map fun n => .number (.int n)
  limit : valueAt? "limit" fields = if w.limit = 0 then none else some (.number (.int w.limit))
  filter : valueAt? "filterPattern" fields = w.filter.map .string
  streams : valueAt? "logStreamNames" fields =
    if w.streams = [] then none else some (.array (w.streams.map .string))
  token : valueAt? "nextToken" fields = token.map .string

/-- The fields of a request in the order in which they are written, those without a value too. -/
def slots (w : Window) (token : Option String) : List (String × Option Value) :=
  [("logGroupName", some (.string w.group)),
    ("startTime", w.start.map fun n => .number (.int n)),
    ("endTime", w.stop.map fun n => .number (.int n)),
    ("limit", if w.limit = 0 then none else some (.number (.int w.limit))),
    ("filterPattern", w.filter.map .string),
    ("logStreamNames", if w.streams = [] then none else some (.array (w.streams.map .string))),
    ("nextToken", token.map .string)]

/-- The slots that have a value. -/
def filled (given : List (String × Option Value)) : List (String × Value) :=
  given.flatMap fun (key, value) => optional key id value

variable {key : String} {depth : Nat} {value : Option Value} {fields : List (String × Value)}
  {given : List (String × Option Value)} {w w' : Window} {token token' : Option String}

theorem optional_map {α : Type} (toValue : α → Value) (o : Option α) :
    optional key id (o.map toValue) = optional key toValue o := by
  cases o <;> rfl

theorem fields_ofWindow (w : Window) (token : Option String) :
    (ofWindow w token).fields = filled (slots w token) := by
  have hlimit : optional "limit" (fun n => Value.number (.int n))
      (do let n ← (ofWindow w token).limit; pure (n : Int)) =
      optional "limit" id (if w.limit = 0 then none else some (.number (.int w.limit))) := by
    by_cases hzero : w.limit = 0
    · simp [ofWindow, hzero, optional]
    · simp [ofWindow, hzero, optional, Nat.pos_iff_ne_zero]
  have hstreams : (if w.streams.isEmpty then [] else
      [("logStreamNames", Value.array (w.streams.map .string))]) = optional "logStreamNames" id
        (if w.streams = [] then none else some (.array (w.streams.map .string))) := by
    by_cases hnil : w.streams = []
    · simp [hnil, optional]
    · simp [hnil, optional]
  simp only [Request.fields, filled, slots, List.flatMap_cons, List.flatMap_nil,
    optional_map, List.append_nil, ← hlimit, ← hstreams, List.append_assoc]
  rfl

theorem filled_cons (name : String) :
    filled ((name, value) :: given) = optional name id value ++ filled given := rfl

theorem allAt_filled : allAt key (filled given) = (allAt key given).filterMap id := by
  induction given with
  | nil => rfl
  | cons slot given ih =>
    obtain ⟨name, value⟩ := slot
    rw [filled_cons, allAt_append, ih, allAt_cons]
    by_cases hname : name = key
    · cases value <;> simp [optional, allAt, hname]
    · cases value <;> simp [optional, allAt, hname]

theorem valueAt?_filled (h : allAt key given = [value]) :
    valueAt? key (sortEntries (filled given)) = value := by
  rw [valueAt?_sortEntries, allAt_filled, h]
  cases value <;> rfl

theorem tells_fields (w : Window) (token : Option String) :
    Tells (sortEntries (ofWindow w token).fields) w token := by
  rw [fields_ofWindow]
  exact ⟨valueAt?_filled rfl, valueAt?_filled rfl, valueAt?_filled rfl, valueAt?_filled rfl,
    valueAt?_filled rfl, valueAt?_filled rfl, valueAt?_filled rfl⟩

theorem entriesReadable_filled :
    EntriesReadable depth (filled given) ↔ ∀ slot ∈ given, ∀ v ∈ slot.2, v.Readable depth := by
  induction given with
  | nil => simp [filled, EntriesReadable]
  | cons slot given ih =>
    obtain ⟨name, value⟩ := slot
    rw [List.forall_mem_cons, ← ih, filled_cons]
    cases value <;> simp [optional, EntriesReadable]

theorem itemsReadable_strings (texts : List String) :
    ItemsReadable depth (texts.map .string) := by
  induction texts with
  | nil => trivial
  | cons text texts ih => exact ⟨trivial, ih⟩

theorem readable_limit (h : w.limit ≤ Number.maxUnsigned) (depth : Nat) :
    (Value.number (.int w.limit)).Readable depth := by
  have hmin : Number.minSigned ≤ (w.limit : Int) :=
    Int.le_trans (by decide) (Int.natCast_nonneg w.limit)
  exact ⟨hmin, Int.ofNat_le.mpr h⟩

theorem entriesReadable_fields (h : Sized w) (token : Option String) :
    EntriesReadable (maxDepth - 1) (ofWindow w token).fields := by
  have htime : ∀ o : Option Int, (∀ n ∈ o, Number.isSigned n = true) →
      ∀ v ∈ o.map fun n => Value.number (.int n), v.Readable (maxDepth - 1) := by
    intro o ho v hv
    obtain ⟨n, hn, rfl⟩ := Option.map_eq_some_iff.mp hv
    exact readable_of_isSigned (ho n hn) _
  have htext : ∀ o : Option String, ∀ v ∈ o.map Value.string, v.Readable (maxDepth - 1) := by
    intro o v hv
    obtain ⟨s, -, rfl⟩ := Option.map_eq_some_iff.mp hv
    trivial
  rw [fields_ofWindow, entriesReadable_filled]
  intro slot hslot v hv
  simp only [slots, List.mem_cons, List.not_mem_nil, or_false] at hslot
  rcases hslot with rfl | rfl | rfl | rfl | rfl | rfl | rfl
  · cases hv
    trivial
  · exact htime w.start h.start v hv
  · exact htime w.stop h.stop v hv
  · obtain ⟨-, hsome⟩ := Option.ite_none_left_eq_some.mp hv
    cases hsome
    exact readable_limit h.limit _
  · exact htext w.filter v hv
  · obtain ⟨-, hsome⟩ := Option.ite_none_left_eq_some.mp hv
    cases hsome
    exact ⟨by decide, itemsReadable_strings _⟩
  · exact htext token v hv

/-! The query in a body -/

theorem read_body (h : Sized w) (token : Option String) :
    Value.read (ofWindow w token).body =
      some (.object (sortEntries (ofWindow w token).fields)) :=
  (entriesReadable_fields h token).read

/-- Fields tell one window and one token alone. -/
theorem Tells.unique (h : Tells fields w token) (h' : Tells fields w' token') :
    w = w' ∧ token = token' := by
  have hinteger : Function.Injective fun n : Int => Value.number (.int n) := by
    intro m n hmn
    cases hmn
    rfl
  have hstring : Function.Injective Value.string := fun _ _ => Value.string.inj
  have hgroup : w.group = w'.group :=
    hstring (Option.some.inj (h.group.symm.trans h'.group))
  have hstart : w.start = w'.start :=
    Option.map_injective hinteger (h.start.symm.trans h'.start)
  have hstop : w.stop = w'.stop := Option.map_injective hinteger (h.stop.symm.trans h'.stop)
  have hlimit : w.limit = w'.limit := by
    have heq := h.limit.symm.trans h'.limit
    split_ifs at heq with hzero hzero'
    · rw [hzero, hzero']
    · exact Int.ofNat.inj (hinteger (Option.some.inj heq))
  have hfilter : w.filter = w'.filter :=
    Option.map_injective hstring (h.filter.symm.trans h'.filter)
  have hstreams : w.streams = w'.streams := by
    have heq := h.streams.symm.trans h'.streams
    split_ifs at heq with hnil hnil'
    · rw [hnil, hnil']
    · exact List.map_injective_iff.mpr hstring (Value.array.inj (Option.some.inj heq))
  have htoken : token = token' := Option.map_injective hstring (h.token.symm.trans h'.token)
  refine ⟨?_, htoken⟩
  cases w
  cases w'
  simp_all

/-- A body is an object that tells its window and its token, hence no other query has this body. -/
theorem body_determines_query (w w' : Window) (token token' : Option String) (h : Sized w)
    (h' : Sized w') :
    (∃ fields, Value.read (ofWindow w token).body = some (.object fields) ∧
      Tells fields w token) ∧
    ((ofWindow w token).body = (ofWindow w' token').body → w = w' ∧ token = token') := by
  refine ⟨⟨_, read_body h token, tells_fields w token⟩, ?_⟩
  intro hbody
  have hfields := read_body h' token'
  rw [← hbody, read_body h token, Option.some.injEq, Value.object.injEq] at hfields
  have htells := tells_fields w' token'
  rw [← hfields] at htells
  exact (tells_fields w token).unique htells

/-- An empty filter is not an absent one, and putting it back gives the query back. -/
theorem body_determines_empty_filter :
    let w : Window :=
      ⟨"/a\"b", some Number.minSigned, some 0, Number.maxUnsigned, some "", ["b", "a"]⟩
    let bare : Window := { w with filter := none }
    let again : Window := { bare with filter := some "" }
    (Sized w ∧ Sized bare ∧ Sized again) ∧
      (∃ fields, Value.read (ofWindow w (some "")).body = some (.object fields) ∧
        Tells fields w (some "")) ∧
      (ofWindow w (some "")).body ≠ (ofWindow bare (some "")).body ∧
      (ofWindow w (some "")).body = (ofWindow again (some "")).body ∧ w = again := by
  intro w bare again
  have hw : Sized w := ⟨by decide, by decide, by decide⟩
  have hbare : Sized bare := ⟨by decide, by decide, by decide⟩
  have hagain : Sized again := ⟨by decide, by decide, by decide⟩
  obtain ⟨htells, hbody⟩ := body_determines_query w bare (some "") (some "") hw hbare
  have hsame := (body_determines_query w again (some "") (some "") hw hagain).2 rfl
  refine ⟨⟨hw, hbare, hagain⟩, htells, ?_, rfl, hsame.1⟩
  intro heq
  exact absurd (congrArg Window.filter (hbody heq).1) (by decide)

end LogFollow.Request
