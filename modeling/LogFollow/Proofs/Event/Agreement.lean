import LogFollow.Event.Decode
import LogFollow.Proofs.Json.Keys
import LogFollow.Proofs.Json.Written

/-!
# Both readers of events agree

The strict reader takes an event from a text, the lenient one from a value. Each gives back an event
that was written, and where a text has a meaning for both they find the same event in it.
-/

namespace LogFollow.Event
set_option autoImplicit false

open Json

variable {depth : Nat} {n : Int} {s : String} {e : Event} {raw : Raw} {v : Value}
  {items : List Raw} {values : List Value} {entries : List (List Piece × Raw)}
  {fields : List (String × Value)}

/-! Fields of a tree and of its value -/

theorem integerOf_eq_ok_iff :
    integerOf v = .ok n ↔ v = .number (.int n) ∧ Number.isSigned n = true := by
  constructor
  · intro h
    unfold integerOf at h
    split at h
    · split_ifs at h with hsigned
      cases h
      exact ⟨rfl, hsigned⟩
    · cases h
  · rintro ⟨rfl, hsigned⟩
    rw [integerOf, if_pos hsigned]

theorem ingestionOf_of_integerOf (h : integerOf v = .ok n) : ingestionOf v = .ok n := by
  obtain ⟨rfl, -⟩ := integerOf_eq_ok_iff.mp h
  exact h

theorem messageOf_eq_ok_iff : messageOf v = .ok s ↔ v = .string s := by
  cases v <;> simp [messageOf]

theorem value?_eq_number_iff {x : Json.Num} :
    raw.value? depth = some (.number x) ↔ ∃ m, raw = .number m ∧ m.num? = some x := by
  constructor
  · intro h
    cases raw with
    | number m => exact ⟨m, rfl, by simpa [Raw.value?] using h⟩
    | _ => simp [Raw.value?] at h
  · rintro ⟨m, rfl, hm⟩
    rw [Raw.value?, hm, Option.map_some]

theorem integerOfRaw_eq_some_iff (depth : Nat) : integerOfRaw raw = some n ↔
    raw.value? depth = some (.number (.int n)) ∧ Number.isSigned n = true := by
  rw [value?_eq_number_iff]
  constructor
  · intro h
    unfold integerOfRaw at h
    split at h
    · split at h
      · split_ifs at h with hsigned
        cases h
        exact ⟨⟨_, rfl, ‹_›⟩, hsigned⟩
      · cases h
    · cases h
  · rintro ⟨⟨m, rfl, hm⟩, hsigned⟩
    simp [integerOfRaw, hm, hsigned]

theorem messageOfRaw_eq_some_iff (depth : Nat) :
    messageOfRaw raw = some s ↔ raw.value? depth = some (.string s) := by
  cases raw <;> simp [messageOfRaw, Raw.value?]

theorem integerOf_value (hv : raw.value? depth = some v) (h : integerOfRaw raw = some n) :
    integerOf v = .ok n := by
  obtain ⟨hn, hsigned⟩ := (integerOfRaw_eq_some_iff depth).mp h
  rw [hv, Option.some.injEq] at hn
  exact integerOf_eq_ok_iff.mpr ⟨hn, hsigned⟩

theorem messageOf_value (hv : raw.value? depth = some v) (h : messageOfRaw raw = some s) :
    messageOf v = .ok s := by
  have hs := (messageOfRaw_eq_some_iff depth).mp h
  rw [hv, Option.some.injEq] at hs
  exact messageOf_eq_ok_iff.mpr hs

/-- The value at a key that stands once. -/
def single? (key : String) (named : List (String × Raw)) : Option Raw :=
  match named.filter (·.1 == key) with
  | [(_, value)] => some value
  | _ => none

theorem single?_eq_some_iff {key : String} {named : List (String × Raw)} :
    single? key named = some raw ↔ allAt key named = [raw] := by
  unfold single? allAt
  generalize named.filter (·.1 == key) = found
  rcases found with _ | ⟨first, _ | ⟨second, rest⟩⟩ <;> simp

theorem ofRaw_object (entries : List (List Piece × Raw)) : ofRaw (.object entries) =
    (named? entries).bind fun named => (do
      some ⟨← integerOfRaw (← single? "timestamp" named),
        ← integerOfRaw (← single? "ingestionTime" named),
        ← messageOfRaw (← single? "message" named)⟩) := rfl

/-- A tree of an object is read as an event if each field stands in it once. -/
theorem ofRaw_object_iff : ofRaw (.object entries) = some e ↔
    (named? entries).isSome = true ∧ ∃ t i m, rawsAt "timestamp" entries = [t] ∧
      rawsAt "ingestionTime" entries = [i] ∧ rawsAt "message" entries = [m] ∧
      integerOfRaw t = some e.timestamp ∧ integerOfRaw i = some e.ingestion ∧
      messageOfRaw m = some e.message := by
  rw [ofRaw_object]
  cases hnamed : named? entries with
  | none => simp
  | some named =>
    simp only [Option.bind_some, Option.bind_eq_bind, Option.bind_eq_some_iff, Option.some.injEq,
      single?_eq_some_iff, allAt_named hnamed, Option.isSome_some, true_and]
    constructor
    · rintro ⟨t, htime, time, ht, i, hingestion, ingestion, hi, m, hmessage, message, hm, rfl⟩
      exact ⟨t, i, m, htime, hingestion, hmessage, ht, hi, hm⟩
    · rintro ⟨t, i, m, htime, hingestion, hmessage, ht, hi, hm⟩
      exact ⟨t, htime, _, ht, i, hingestion, _, hi, m, hmessage, _, hm, rfl⟩

theorem ofRaw_array_iff : ofRaw (.array items) = some e ↔ ∃ t i m, items = [t, i, m] ∧
    integerOfRaw t = some e.timestamp ∧ integerOfRaw i = some e.ingestion ∧
    messageOfRaw m = some e.message := by
  constructor
  · intro h
    unfold ofRaw at h
    split at h
    · rename_i t i m hitems
      cases hitems
      simp only [Option.bind_eq_bind, Option.bind_eq_some_iff, Option.some.injEq] at h
      obtain ⟨time, ht, ingestion, hi, message, hm, rfl⟩ := h
      exact ⟨t, i, m, rfl, ht, hi, hm⟩
    · cases ‹Raw.array items = Raw.object _›
    · cases h
  · rintro ⟨t, i, m, rfl, ht, hi, hm⟩
    simp [ofRaw, ht, hi, hm]

/-! Both readers -/

/-- What stands at a key that occurs once in a tree is found in its value. -/
theorem valueAt?_of_rawsAt {key : String} (hvalues : entryValues? depth entries = some fields)
    (h : rawsAt key entries = [raw]) :
    ∃ v, valueAt? key (sortEntries fields) = some v ∧ raw.value? depth = some v := by
  have hall := forall₂_rawsAt hvalues key
  rw [h] at hall
  obtain ⟨v, rest, hv, hrest, hfields⟩ := List.forall₂_cons_left_iff.mp hall
  rw [List.forall₂_nil_left_iff.mp hrest] at hfields
  exact ⟨v, by rw [valueAt?_sortEntries, hfields, List.getLast?_singleton], hv⟩

theorem field?_eq_ok {α : Type} {read : Value → Except Defect α} {key : String} {a : α}
    (hentry : valueAt? key fields = some v) (hread : read v = .ok a) :
    field? read key fields = .ok (some a) := by
  rw [field?, hentry]
  simp only [hread]
  rfl

theorem ofEntries_of_ofRaw (hvalues : entryValues? depth entries = some fields)
    (h : ofRaw (.object entries) = some e) : ofEntries (sortEntries fields) = .ok e := by
  obtain ⟨-, t, i, m, htime, hingestion, hmessage, ht, hi, hm⟩ := ofRaw_object_iff.mp h
  obtain ⟨vt, htime, hvt⟩ := valueAt?_of_rawsAt hvalues htime
  obtain ⟨vi, hingestion, hvi⟩ := valueAt?_of_rawsAt hvalues hingestion
  obtain ⟨vm, hmessage, hvm⟩ := valueAt?_of_rawsAt hvalues hmessage
  have htime := field?_eq_ok htime (integerOf_value hvt ht)
  have hingestion := field?_eq_ok hingestion (ingestionOf_of_integerOf (integerOf_value hvi hi))
  have hmessage := field?_eq_ok hmessage (messageOf_value hvm hm)
  rw [ofEntries, hingestion, hmessage, htime]
  rfl

theorem ofItems_of_ofRaw (hvalues : itemValues? depth items = some values)
    (h : ofRaw (.array items) = some e) : ofItems values = .ok e := by
  obtain ⟨t, i, m, rfl, ht, hi, hm⟩ := ofRaw_array_iff.mp h
  obtain ⟨vt, rest, hvt, hrest, rfl⟩ := itemValues?_cons_eq_some_iff.mp hvalues
  obtain ⟨vi, last, hvi, hlast, rfl⟩ := itemValues?_cons_eq_some_iff.mp hrest
  obtain ⟨vm, others, hvm, hothers, rfl⟩ := itemValues?_cons_eq_some_iff.mp hlast
  cases hothers
  have hingestion := ingestionOf_of_integerOf (integerOf_value hvi hi)
  simp only [ofItems, integerOf_value hvt ht, hingestion, messageOf_value hvm hm]
  rfl

theorem ofValue_of_ofRaw (hv : raw.value? depth = some v) (h : ofRaw raw = some e) :
    ofValue v = .ok e := by
  cases raw with
  | array items =>
    rw [Raw.value?] at hv
    split_ifs at hv
    obtain ⟨values, hvalues, rfl⟩ := Option.map_eq_some_iff.mp hv
    simp [ofValue, ofItems_of_ofRaw hvalues h, Except.mapError]
  | object entries =>
    rw [Raw.value?] at hv
    split_ifs at hv
    obtain ⟨fields, hvalues, rfl⟩ := Option.map_eq_some_iff.mp hv
    simp [ofValue, ofEntries_of_ofRaw hvalues h, Except.mapError]
  | _ => simp [ofRaw] at h

/-! What was written -/

theorem integerOfRaw_value (h : raw.value? depth = some (.number (.int n)))
    (hsigned : Number.isSigned n = true) : integerOfRaw raw = some n :=
  (integerOfRaw_eq_some_iff depth).mpr ⟨h, hsigned⟩

theorem rawsAt_of_allAt (key : String) (hvalues : entryValues? depth entries = some fields)
    (h : allAt key fields = [v]) :
    ∃ raw, rawsAt key entries = [raw] ∧ raw.value? depth = some v := by
  have hall := forall₂_rawsAt hvalues key
  rw [h] at hall
  obtain ⟨raw, rest, hraw, hrest, hraws⟩ := List.forall₂_cons_right_iff.mp hall
  rw [List.forall₂_nil_right_iff.mp hrest] at hraws
  exact ⟨raw, hraws, hraw⟩

theorem entriesReadable_toJson (ht : Number.isSigned e.timestamp = true)
    (hi : Number.isSigned e.ingestion = true) :
    EntriesReadable (maxDepth - 1) [("timestamp", .number (.int e.timestamp)),
      ("ingestionTime", .number (.int e.ingestion)), ("message", .string e.message)] :=
  ⟨readable_of_isSigned ht _, readable_of_isSigned hi _, trivial, trivial⟩

theorem read_toJson (ht : Number.isSigned e.timestamp = true)
    (hi : Number.isSigned e.ingestion = true) : Event.read e.toJson.text = some e := by
  obtain ⟨named, htree, hvalues⟩ := (entriesReadable_toJson ht hi).tree
  obtain ⟨t, htime, hvt⟩ := rawsAt_of_allAt "timestamp" hvalues rfl
  obtain ⟨i, hingestion, hvi⟩ := rawsAt_of_allAt "ingestionTime" hvalues rfl
  obtain ⟨m, hmessage, hvm⟩ := rawsAt_of_allAt "message" hvalues rfl
  have hraw : ofRaw (.object named) = some e :=
    ofRaw_object_iff.mpr ⟨named?_of_values hvalues, t, i, m, htime, hingestion, hmessage,
      integerOfRaw_value hvt ht, integerOfRaw_value hvi hi, (messageOfRaw_eq_some_iff _).mpr hvm⟩
  rw [Event.read, toJson, htree]
  exact hraw

theorem ofValue_of_read {v : Value} (he : Event.read s = some e) (hv : Value.read s = some v) :
    ofValue v = .ok e := by
  simp only [Event.read, Value.read, Option.bind_eq_bind, Option.bind_eq_some_iff] at he hv
  obtain ⟨raw, hraw, he⟩ := he
  obtain ⟨raw', hraw', hv⟩ := hv
  obtain rfl : raw = raw' := Option.some.inj (hraw.symm.trans hraw')
  exact ofValue_of_ofRaw hv he

/-- Both readers give back an event that was written, whatever its times and its message are, and a
text that both understand is the same event to them. -/
theorem readers_agree :
    (∀ e : Event, Number.isSigned e.timestamp = true → Number.isSigned e.ingestion = true →
      Event.read e.toJson.text = some e ∧
        ∃ v, Value.read e.toJson.text = some v ∧ ofValue v = .ok e) ∧
    ∀ (s : String) (e : Event) (v : Value),
      Event.read s = some e → Value.read s = some v → ofValue v = .ok e := by
  constructor
  · intro e ht hi
    have hread := read_toJson ht hi
    have hvalue := (entriesReadable_toJson ht hi).read
    exact ⟨hread, _, hvalue, ofValue_of_read hread hvalue⟩
  · intro s e v he hv
    exact ofValue_of_read he hv

/-- The extremes of the times are written and read, and so is a text with the fields in another
order, an escape that no event is written with, and a field that events do not have. -/
theorem readers_agree_on_foreign_text :
    let extreme : Event := ⟨Number.minSigned, Number.maxSigned, "\"\\\t\x01π\n"⟩
    let foreign := "\x7b\"message\":\"\\u0061\",\"x\":[[]],\"ingestionTime\":-1,\"timestamp\":5\x7d"
    (Number.isSigned extreme.timestamp = true ∧ Number.isSigned extreme.ingestion = true ∧
      Event.read extreme.toJson.text = some extreme ∧
        ∃ v, Value.read extreme.toJson.text = some v ∧ ofValue v = .ok extreme) ∧
    Event.read foreign = some ⟨5, -1, "a"⟩ ∧
      ∃ v, Value.read foreign = some v ∧ ofValue v = .ok ⟨5, -1, "a"⟩ := by
  intro extreme foreign
  have hmin : Number.isSigned extreme.timestamp = true := by decide
  have hmax : Number.isSigned extreme.ingestion = true := by decide
  have hread : Event.read foreign = some ⟨5, -1, "a"⟩ := by decide +kernel
  have hsome : (Value.read foreign).isSome = true := by decide +kernel
  obtain ⟨v, hv⟩ := Option.isSome_iff_exists.mp hsome
  obtain ⟨hwritten, hvalue⟩ := readers_agree.1 extreme hmin hmax
  exact ⟨⟨hmin, hmax, hwritten, hvalue⟩, hread, v, hv, readers_agree.2 foreign _ v hread hv⟩

end LogFollow.Event
