import LogFollow.Proofs.Event.Agreement
import LogFollow.Proofs.Result

/-!
# The form of an event

What values are events is said by their form alone, and what is wrong with an object that is no
event by its first bad field or its first missing one. The lenient reader accepts the one and reports
the other, and with every refusal it gives back the value that it refused.
-/

namespace LogFollow.Event
set_option autoImplicit false

open Json

/-! Events -/

inductive IsInteger : Value → Int → Prop
  | number {n : Int} (hmin : -2 ^ 63 ≤ n) (hmax : n < 2 ^ 63) : IsInteger (.number (.int n)) n

/-- The time at which the source took an event in, zero where it says none. -/
inductive IsIngestion : Option Value → Int → Prop
  | absent : IsIngestion none 0
  | null : IsIngestion (some .null) 0
  | given {v : Value} {n : Int} (h : IsInteger v n) : IsIngestion (some v) n

/-- An object with the fields of an event, among any others, or an array of the three. -/
inductive Means : Value → Event → Prop
  | object {entries : List (String × Value)} {t : Value} {e : Event}
      (htime : valueAt? "timestamp" entries = some t) (ht : IsInteger t e.timestamp)
      (hingestion : IsIngestion (valueAt? "ingestionTime" entries) e.ingestion)
      (hmessage : valueAt? "message" entries = some (.string e.message)) : Means (.object entries) e
  | array {t i : Value} {e : Event} (ht : IsInteger t e.timestamp)
      (hi : IsIngestion (some i) e.ingestion) : Means (.array [t, i, .string e.message]) e

/-! Faults -/

inductive IntegerFault : Value → Defect → Prop
  | type {v : Value} (h : ∀ n, v ≠ .number (.int n)) : IntegerFault v (.wrongType v .integer)
  | range {n : Int} (h : n < -2 ^ 63 ∨ 2 ^ 63 ≤ n) :
      IntegerFault (.number (.int n)) (.outOfRange n)

def IngestionFault (v : Value) (d : Defect) : Prop := v ≠ .null ∧ IntegerFault v d

inductive MessageFault : Value → Defect → Prop
  | type {v : Value} (h : ∀ s, v ≠ .string s) : MessageFault v (.wrongType v .text)

/-- The fields of an event with what can be wrong with them, in the order of their keys. -/
def fields : List (String × (Value → Defect → Prop)) :=
  [("ingestionTime", IngestionFault), ("message", MessageFault), ("timestamp", IntegerFault)]

/-- The fields without which there is no event, in the order in which they are missed. -/
def required : List String := ["timestamp", "message"]

/-- What is wrong with the first bad one of some fields; one that is absent is not bad. -/
inductive FirstFault (entries : List (String × Value)) :
    List (String × (Value → Defect → Prop)) → Defect → Prop
  | here {key : String} {Fault : Value → Defect → Prop}
      {rest : List (String × (Value → Defect → Prop))} {v : Value} {d : Defect}
      (hentry : valueAt? key entries = some v) (h : Fault v d) :
      FirstFault entries ((key, Fault) :: rest) d
  | later {key : String} {Fault : Value → Defect → Prop}
      {rest : List (String × (Value → Defect → Prop))} {d : Defect}
      (hgood : ∀ v, valueAt? key entries = some v → ∀ d, ¬ Fault v d)
      (h : FirstFault entries rest d) : FirstFault entries ((key, Fault) :: rest) d

inductive ObjectFault (entries : List (String × Value)) : Defect → Prop
  | bad {d : Defect} (h : FirstFault entries fields d) : ObjectFault entries d
  | missing {key : String} (hgood : ∀ d, ¬ FirstFault entries fields d)
      (h : required.find? (fun key => (valueAt? key entries).isNone) = some key) :
      ObjectFault entries (.missing key)

variable {α : Type} {read : Value → Except Defect α} {Fault : Value → Defect → Prop}
  {rest : List (String × (Value → Defect → Prop))} {entries : List (String × Value)}
  {key : String} {v : Value} {n : Int} {d : Defect} {e : Event} {a : α}

/-! The fields by themselves -/

theorem isInteger_iff : IsInteger v n ↔ integerOf v = .ok n := by
  rw [integerOf_eq_ok_iff]
  constructor
  · rintro ⟨hmin, hmax⟩
    exact ⟨rfl, Number.isSigned_iff.mpr ⟨hmin, Int.le_of_lt_add_one hmax⟩⟩
  · rintro ⟨rfl, hsigned⟩
    have hn := Number.isSigned_iff.mp hsigned
    exact .number hn.1 (Int.lt_add_one_of_le hn.2)

theorem integerFault_iff : IntegerFault v d ↔ integerOf v = .error d := by
  constructor
  · intro h
    cases h with
    | type h =>
      unfold integerOf
      split
      · exact absurd rfl (h _)
      · rfl
    | @range n h =>
      have hsigned : ¬ Number.isSigned n = true := by
        rw [Number.isSigned_iff]
        omega
      rw [integerOf, if_neg hsigned]
  · intro h
    unfold integerOf at h
    split at h
    · rename_i n
      split_ifs at h with hsigned
      cases h
      rw [Number.isSigned_iff] at hsigned
      exact .range (by omega)
    · rename_i h'
      cases h
      exact .type h'

theorem ingestionOf_of_ne_null (h : v ≠ .null) : ingestionOf v = integerOf v := by
  cases v with
  | null => exact absurd rfl h
  | _ => rfl

theorem isIngestion_some_iff : IsIngestion (some v) n ↔ ingestionOf v = .ok n := by
  by_cases hnull : v = .null
  · subst hnull
    constructor
    · rintro (_ | _ | ⟨⟨⟩⟩)
      rfl
    · rintro ⟨⟩
      exact .null
  · rw [ingestionOf_of_ne_null hnull, ← isInteger_iff]
    constructor
    · rintro (_ | _ | h)
      · exact absurd rfl hnull
      · exact h
    · exact .given

theorem ingestionFault_iff : IngestionFault v d ↔ ingestionOf v = .error d := by
  by_cases hnull : v = .null
  · subst hnull
    simp [IngestionFault, ingestionOf]
  · rw [ingestionOf_of_ne_null hnull, ← integerFault_iff]
    exact and_iff_right hnull

theorem messageFault_iff : MessageFault v d ↔ messageOf v = .error d := by
  constructor
  · rintro ⟨h⟩
    cases v with
    | string s => exact absurd rfl (h s)
    | _ => rfl
  · intro h
    cases v with
    | string s => cases h
    | _ =>
      cases h
      exact .type (by simp)

/-! The fields of an object -/

theorem field?_cases (read : Value → Except Defect α) (key : String)
    (entries : List (String × Value)) :
    valueAt? key entries = none ∧ field? read key entries = .ok none ∨
      ∃ v, valueAt? key entries = some v ∧ field? read key entries = (read v).map some := by
  unfold field?
  cases valueAt? key entries with
  | none => exact .inl ⟨rfl, rfl⟩
  | some v => exact .inr ⟨v, rfl, rfl⟩

theorem isNone_of_field? {o : Option α} (h : field? read key entries = .ok o) :
    (valueAt? key entries).isNone = o.isNone := by
  rcases field?_cases read key entries with ⟨hentry, hfield⟩ | ⟨v, hentry, hfield⟩
  · obtain rfl := Except.ok.inj (hfield.symm.trans h)
    exact congrArg Option.isNone hentry
  · rw [hfield] at h
    obtain ⟨a, -, rfl⟩ := map_eq_ok_iff.mp h
    rw [hentry]
    rfl

theorem valueAt?_of_field? (h : field? read key entries = .ok (some a)) :
    ∃ v, valueAt? key entries = some v ∧ read v = .ok a := by
  rcases field?_cases read key entries with ⟨-, hfield⟩ | ⟨v, hentry, hfield⟩
  · rw [hfield] at h
    cases h
  · rw [hfield] at h
    obtain ⟨_, hread, ⟨⟩⟩ := map_eq_ok_iff.mp h
    exact ⟨v, hentry, hread⟩

theorem field?_eq_error_iff :
    field? read key entries = .error d ↔
      ∃ v, valueAt? key entries = some v ∧ read v = .error d := by
  rcases field?_cases read key entries with ⟨hentry, hfield⟩ | ⟨v, hentry, hfield⟩
  · simp [hentry, hfield]
  · simp [hentry, hfield, map_eq_error_iff]

theorem firstFault_cons_iff (hfault : ∀ v d, Fault v d ↔ read v = .error d) :
    FirstFault entries ((key, Fault) :: rest) d ↔ field? read key entries = .error d ∨
      ∃ o, field? read key entries = .ok o ∧ FirstFault entries rest d := by
  constructor
  · intro h
    cases h with
    | here hentry hbad => exact .inl (field?_eq_error_iff.mpr ⟨_, hentry, (hfault _ d).mp hbad⟩)
    | later hgood hrest =>
      cases hfield : field? read key entries with
      | ok o => exact .inr ⟨o, rfl, hrest⟩
      | error d' =>
        obtain ⟨v, hentry, hread⟩ := field?_eq_error_iff.mp hfield
        exact absurd ((hfault v d').mpr hread) (hgood v hentry d')
  · rintro (hfield | ⟨o, hfield, hrest⟩)
    · obtain ⟨v, hentry, hread⟩ := field?_eq_error_iff.mp hfield
      exact .here hentry ((hfault v d).mpr hread)
    · refine .later ?_ hrest
      intro v hentry d' hbad
      have herror := field?_eq_error_iff.mpr ⟨v, hentry, (hfault v d').mp hbad⟩
      rw [hfield] at herror
      cases herror

theorem firstFault_fields_iff : FirstFault entries fields d ↔
    field? ingestionOf "ingestionTime" entries = .error d ∨
      ∃ i, field? ingestionOf "ingestionTime" entries = .ok i ∧
        (field? messageOf "message" entries = .error d ∨
          ∃ m, field? messageOf "message" entries = .ok m ∧
            field? integerOf "timestamp" entries = .error d) := by
  have hnil : ¬ FirstFault entries [] d := nofun
  rw [fields, firstFault_cons_iff @ingestionFault_iff, firstFault_cons_iff @messageFault_iff,
    firstFault_cons_iff @integerFault_iff]
  simp only [hnil, and_false, exists_false, or_false]

/-! Whole values -/

theorem ofEntries_of_firstFault (h : FirstFault entries fields d) :
    ofEntries entries = .error d := by
  rcases firstFault_fields_iff.mp h with hi | ⟨i, hi, hm | ⟨m, hm, ht⟩⟩
  · rw [ofEntries, hi]
    rfl
  · rw [ofEntries, hi, hm]
    rfl
  · rw [ofEntries, hi, hm, ht]
    rfl

theorem fields_of_good (h : ∀ d, ¬ FirstFault entries fields d) :
    ∃ i m t, field? ingestionOf "ingestionTime" entries = .ok i ∧
      field? messageOf "message" entries = .ok m ∧
      field? integerOf "timestamp" entries = .ok t := by
  simp only [firstFault_fields_iff, not_or, not_exists, not_and] at h
  cases hi : field? ingestionOf "ingestionTime" entries with
  | error d => exact absurd hi (h d).1
  | ok i =>
    cases hm : field? messageOf "message" entries with
    | error d => exact absurd hm ((h d).2 i hi).1
    | ok m =>
      cases ht : field? integerOf "timestamp" entries with
      | error d => exact absurd ht (((h d).2 i hi).2 m hm)
      | ok t => exact ⟨i, m, t, rfl, rfl, rfl⟩

theorem ofEntries_of_good (hgood : ∀ d, ¬ FirstFault entries fields d) :
    ofEntries entries = .error d ↔
      ∃ key, required.find? (fun key => (valueAt? key entries).isNone) = some key ∧
        d = .missing key := by
  obtain ⟨i, m, t, hi, hm, ht⟩ := fields_of_good hgood
  have htime := isNone_of_field? ht
  have hmessage := isNone_of_field? hm
  rw [ofEntries, hi, hm, ht]
  cases t with
  | none => simp [required, htime, bind, Except.bind, eq_comm]
  | some t => cases m <;> simp [required, htime, hmessage, bind, Except.bind, eq_comm]

theorem ofEntries_eq_error_iff : ofEntries entries = .error d ↔ ObjectFault entries d := by
  by_cases hgood : ∀ d, ¬ FirstFault entries fields d
  · rw [ofEntries_of_good hgood]
    constructor
    · rintro ⟨key, hkey, rfl⟩
      exact .missing hgood hkey
    · rintro (hfirst | ⟨-, hkey⟩)
      · exact absurd hfirst (hgood d)
      · exact ⟨_, hkey, rfl⟩
  · obtain ⟨d', hfirst⟩ := not_forall_not.mp hgood
    have hread := ofEntries_of_firstFault hfirst
    constructor
    · intro h
      obtain rfl := Except.error.inj (hread.symm.trans h)
      exact .bad hfirst
    · rintro (hfirst' | ⟨hgood', -⟩)
      · exact ofEntries_of_firstFault hfirst'
      · exact absurd hgood' hgood

theorem isIngestion_iff : IsIngestion (valueAt? "ingestionTime" entries) n ↔
    ∃ i, field? ingestionOf "ingestionTime" entries = .ok i ∧ i.getD 0 = n := by
  rcases field?_cases ingestionOf "ingestionTime" entries with
    ⟨hentry, hfield⟩ | ⟨v, hentry, hfield⟩
  · rw [hentry, hfield]
    constructor
    · rintro ⟨⟩
      exact ⟨none, rfl, rfl⟩
    · rintro ⟨i, ⟨⟩, rfl⟩
      exact .absent
  · rw [hentry, hfield, isIngestion_some_iff]
    constructor
    · intro h
      exact ⟨some n, by rw [h]; rfl, rfl⟩
    · rintro ⟨i, hi, rfl⟩
      obtain ⟨n, hread, rfl⟩ := map_eq_ok_iff.mp hi
      exact hread

theorem ofEntries_eq_ok_iff : ofEntries entries = .ok e ↔ Means (.object entries) e := by
  constructor
  · intro h
    have hgood : ∀ d, ¬ FirstFault entries fields d := by
      intro d hfirst
      rw [ofEntries_of_firstFault hfirst] at h
      cases h
    obtain ⟨i, m, t, hi, hm, ht⟩ := fields_of_good hgood
    rw [ofEntries, hi, hm, ht] at h
    rcases t with _ | t
    · cases h
    rcases m with _ | m
    · cases h
    cases h
    obtain ⟨v, htime, hv⟩ := valueAt?_of_field? ht
    obtain ⟨w, hmessage, hw⟩ := valueAt?_of_field? hm
    rw [messageOf_eq_ok_iff.mp hw] at hmessage
    exact .object htime (isInteger_iff.mpr hv) (isIngestion_iff.mpr ⟨i, hi, rfl⟩) hmessage
  · rintro ⟨htime, ht, hingestion, hmessage⟩
    obtain ⟨i, hi, hvalue⟩ := isIngestion_iff.mp hingestion
    have hm := field?_eq_ok hmessage (messageOf_eq_ok_iff.mpr rfl)
    have ht := field?_eq_ok htime (isInteger_iff.mp ht)
    rw [ofEntries, hi, hm, ht]
    change Except.ok (⟨e.timestamp, i.getD 0, e.message⟩ : Event) = .ok e
    rw [hvalue]

/-- The items are read one after another, so that a reading has three of them. -/
theorem exists_items {items : List Value} (h : ofItems items = .ok e) :
    ∃ t i m, items = [t, i, m] ∧ integerOf t = .ok e.timestamp ∧ ingestionOf i = .ok e.ingestion ∧
      messageOf m = .ok e.message := by
  cases items with
  | nil => cases h
  | cons t rest =>
    obtain ⟨time, ht, h⟩ := bind_eq_ok h
    cases rest with
    | nil => cases h
    | cons i rest =>
      obtain ⟨ingestion, hi, h⟩ := bind_eq_ok h
      cases rest with
      | nil => cases h
      | cons m rest =>
        obtain ⟨message, hm, h⟩ := bind_eq_ok h
        cases rest with
        | nil =>
          cases h
          exact ⟨t, i, m, rfl, ht, hi, hm⟩
        | cons _ _ => cases h

theorem ofItems_three (t i m : Value) : ofItems [t, i, m] = (do
    let timestamp ← integerOf t
    let ingestion ← ingestionOf i
    let message ← messageOf m
    .ok ⟨timestamp, ingestion, message⟩) := rfl

theorem ofItems_eq_ok_iff {items : List Value} :
    ofItems items = .ok e ↔ Means (.array items) e := by
  constructor
  · intro h
    obtain ⟨t, i, m, rfl, ht, hi, hm⟩ := exists_items h
    obtain rfl := messageOf_eq_ok_iff.mp hm
    exact .array (isInteger_iff.mpr ht) (isIngestion_some_iff.mpr hi)
  · rintro (- | ⟨ht, hi⟩)
    rw [ofItems_three, isInteger_iff.mp ht, isIngestion_some_iff.mp hi]
    rfl

theorem ofValue_eq_ok_iff : ofValue v = .ok e ↔ Means v e := by
  cases v with
  | object entries => rw [← ofEntries_eq_ok_iff, ofValue, mapError_eq_ok_iff]
  | array items => rw [← ofItems_eq_ok_iff, ofValue, mapError_eq_ok_iff]
  | _ =>
    constructor
    · intro h
      cases h
    · intro h
      cases h

theorem payload_of_error {m : Malformed} (h : ofValue v = .error m) : m.payload = v := by
  unfold ofValue at h
  obtain ⟨d, -, rfl⟩ := mapError_eq_error_iff.mp h
  rfl

theorem defect_of_error {m : Malformed} (h : ofValue (.object entries) = .error m) :
    ofEntries entries = .error m.defect := by
  obtain ⟨d, hread, rfl⟩ := mapError_eq_error_iff.mp h
  exact hread

/-- A value is read as an event if and only if it has the form of that event. Any other is refused
and given back, and of an object it is told what is wrong with its first bad field in the order of
the keys, or else which of the required ones is missing first. -/
theorem event_form (v : Value) :
    (∀ e, ofValue v = .ok e ↔ Means v e) ∧
      ((∀ e, ¬ Means v e) → ∃ m, ofValue v = .error m ∧ m.payload.text = v.text ∧
        ∀ entries, v = .object entries → ∀ d, ObjectFault entries d ↔ d = m.defect) := by
  refine ⟨fun e => ofValue_eq_ok_iff, ?_⟩
  intro hform
  cases hread : ofValue v with
  | ok e => exact absurd (ofValue_eq_ok_iff.mp hread) (hform e)
  | error m =>
    refine ⟨m, rfl, by rw [payload_of_error hread], ?_⟩
    rintro entries rfl d
    rw [← ofEntries_eq_error_iff, defect_of_error hread, Except.error.injEq, eq_comm]

/-- An ingestion time beyond 64 bits is told before the message that is no text and the timestamp
that is missing. -/
theorem event_form_of_faults :
    let v : Value := .object [("ingestionTime", .number (.int 9223372036854775808)),
      ("message", .number (.int 5)), ("x", .null)]
    (∀ e, ¬ Means v e) ∧ ∃ m, ofValue v = .error m ∧ m.payload.text = v.text ∧
      m.defect = .outOfRange 9223372036854775808 := by
  intro v
  have hform : ∀ e, ¬ Means v e := by
    intro e hmeans
    simp only [v] at hmeans
    cases hmeans with
    | object htime => cases htime
  obtain ⟨m, hread, hpayload, hdefect⟩ := (event_form v).2 hform
  refine ⟨hform, m, hread, hpayload, ?_⟩
  refine ((hdefect _ rfl _).mp ?_).symm
  exact .bad (.here rfl ⟨nofun, .range (.inr (by decide))⟩)

end LogFollow.Event
