import LogFollow.Proofs.Json.Keys
import LogFollow.Proofs.Json.Reading
import LogFollow.Source.Page

/-!
# Bad events spoil no page

What has the form of a page is said by the grammar of its text alone. A page of this form is decoded
unless one of its parts has no value, whatever its items are: those that are events are kept in their
order, and putting in or taking out others changes nothing.
-/

namespace LogFollow.Page
set_option autoImplicit false

open Json

/-! The form of a page -/

/-- The two parts of a page, each of which may be missing but not repeated. -/
inductive Parted : Raw → Option Raw → Option Raw → Prop
  | array {items : List Raw} (h : items.length ≤ 2) : Parted (.array items) items[0]? items[1]?
  | object {entries : List (List Piece × Raw)} {events next : Option Raw}
      (hevents : rawsAt "events" entries = events.toList)
      (hnext : rawsAt "nextToken" entries = next.toList) : Parted (.object entries) events next

inductive Lists : Option Raw → List Raw → Prop
  | absent : Lists none []
  | array (items : List Raw) : Lists (some (.array items)) items

inductive Names : Option Raw → Option (List Piece) → Prop
  | absent : Names none none
  | null : Names (some .null) none
  | string (pieces : List Piece) : Names (some (.string pieces)) (some pieces)

def Formed (raw : Raw) (items : List Raw) (token : Option (List Piece)) : Prop :=
  ∃ events next, Parted raw events next ∧ Lists events items ∧ Names next token

def keysOf : Raw → List (List Piece)
  | .object entries => entries.map (·.1)
  | _ => []

/-- An item stands in two containers already. -/
def Fits (item : Raw) : Prop := item.Sound ∧ item.height ≤ maxDepth - 2

/-- Half of a surrogate pair is allowed where it is passed over, in no key and in no token. -/
structure Decodable (raw : Raw) (items : List Raw) (token : Option (List Piece)) : Prop where
  formed : Formed raw items token
  keys : ∀ key ∈ keysOf raw, Paired key
  token : ∀ pieces ∈ token, Paired pieces
  items : ∀ item ∈ items, Fits item

def decoded (item : Raw) : Option Event :=
  (item.value? (maxDepth - 2)).bind fun v => (Event.ofValue v).toOption

/-- The token of a next page; the empty one stands for none. -/
def tokenText (token : Option (List Piece)) : Option String :=
  (token.bind text?).filter (· != "")

/-! Items that are no events -/

def Rejected (item : Raw) : Prop :=
  ∃ v malformed, item.value? (maxDepth - 2) = some v ∧ Event.ofValue v = .error malformed

/-- The items but for some that are no events, which are put in or taken out. -/
inductive Kept : List Raw → List Raw → Prop
  | nil : Kept [] []
  | same (item : Raw) {items items' : List Raw} (h : Kept items items') :
      Kept (item :: items) (item :: items')
  | inserted {bad : Raw} {items items' : List Raw} (hbad : Rejected bad) (h : Kept items items') :
      Kept items (bad :: items')
  | deleted {bad : Raw} {items items' : List Raw} (hbad : Rejected bad) (h : Kept items items') :
      Kept (bad :: items) items'

inductive SamePage : Raw → Raw → Prop
  | array {items items' : List Raw} (h : Kept items items') (rest : List Raw) :
      SamePage (.array (.array items :: rest)) (.array (.array items' :: rest))
  | object {items items' : List Raw} {key : List Piece} (hkey : text? key = some "events")
      (h : Kept items items') (before after : List (List Piece × Raw)) :
      SamePage (.object (before ++ (key, .array items) :: after))
        (.object (before ++ (key, .array items') :: after))

/-- What a page shows; what was dropped from it is only told to the journal. -/
def shown (p : Page) : List Event × Option String := (p.events, p.token)

variable {α : Type} {raw raw' : Raw} {events next : Option Raw} {items items' : List Raw}
  {token : Option (List Piece)} {values : List Value} {s : String}
  {x : List Event × Option String}

theorem single?_eq_some_iff {found : List α} {o : Option α} :
    single? found = some o ↔ found = o.toList := by
  rcases found with _ | ⟨first, _ | ⟨second, rest⟩⟩ <;> cases o <;> simp [single?]

theorem parts_object (entries : List (List Piece × Raw)) : parts (.object entries) =
    (named? entries).bind fun named => (do
      some (← single? (allAt "events" named), ← single? (allAt "nextToken" named))) := rfl

theorem parts_object_eq_some_iff {entries : List (List Piece × Raw)} :
    parts (.object entries) = some (events, next) ↔ (named? entries).isSome = true ∧
      rawsAt "events" entries = events.toList ∧ rawsAt "nextToken" entries = next.toList := by
  rw [parts_object]
  cases hnamed : named? entries with
  | none => simp
  | some named =>
    simp [Option.bind_eq_some_iff, single?_eq_some_iff, allAt_named hnamed]

theorem parts_eq_some_iff : parts raw = some (events, next) ↔
    Parted raw events next ∧ ∀ key ∈ keysOf raw, Paired key := by
  cases raw with
  | array items =>
    constructor
    · intro h
      rw [parts, Option.ite_none_right_eq_some] at h
      obtain ⟨hlen, hparts⟩ := h
      cases hparts
      exact ⟨.array hlen, by simp [keysOf]⟩
    · rintro ⟨⟨hlen⟩, -⟩
      rw [parts, if_pos hlen]
  | object entries =>
    rw [parts_object_eq_some_iff, isSome_named?_iff, keysOf, List.forall_mem_map]
    constructor
    · rintro ⟨hkeys, hevents, hnext⟩
      exact ⟨.object hevents hnext, hkeys⟩
    · rintro ⟨⟨⟩, hkeys⟩
      exact ⟨hkeys, ‹_›, ‹_›⟩
  | _ =>
    constructor
    · intro h
      cases h
    · rintro ⟨⟨⟩, -⟩

theorem valuesOf_eq_some_iff : (events.map valuesOf).getD (some []) = some values ↔
    ∃ items, Lists events items ∧ itemValues? (maxDepth - 2) items = some values := by
  constructor
  · intro h
    match events, h with
    | none, h => exact ⟨[], .absent, h⟩
    | some (.array items), h => exact ⟨items, .array items, h⟩
  · rintro ⟨items, ⟨⟩ | ⟨⟩, h⟩
    · exact h
    · exact h

theorem tokenOf_eq_some_iff {text : Option String} :
    (next.map tokenOf).getD (some none) = some text ↔
      ∃ token, Names next token ∧ (∀ pieces ∈ token, Paired pieces) ∧ text = token.bind text? := by
  constructor
  · intro h
    match next, h with
    | none, h => exact ⟨none, .absent, by simp, (Option.some.inj h).symm⟩
    | some .null, h => exact ⟨none, .null, by simp, (Option.some.inj h).symm⟩
    | some (.string pieces), h =>
      obtain ⟨s, hs, rfl⟩ := Option.map_eq_some_iff.mp h
      refine ⟨some pieces, .string pieces, ?_, hs.symm⟩
      intro _ hmem
      obtain rfl := Option.some.inj hmem
      exact isSome_text?_iff.mp (Option.isSome_of_eq_some hs)
  · rintro ⟨token, ⟨⟩ | ⟨⟩ | ⟨pieces⟩, hpaired, rfl⟩
    · rfl
    · rfl
    · obtain ⟨s, hs⟩ := Option.isSome_iff_exists.mp (isSome_text?_iff.mpr (hpaired pieces rfl))
      simp [tokenOf, hs]

/-! What is decoded -/

theorem decoded_of_value {item : Raw} {v : Value} (h : item.value? (maxDepth - 2) = some v) :
    decoded item = (Event.ofValue v).toOption := by
  rw [decoded, h, Option.bind_some]

theorem eventsOf_cons (v : Value) (values : List Value) :
    eventsOf (v :: values) = (Event.ofValue v).toOption.toList ++ eventsOf values := by
  rw [eventsOf, List.filterMap_cons]
  cases Event.ofValue v <;> rfl

theorem eventsOf_values (h : itemValues? (maxDepth - 2) items = some values) :
    eventsOf values = items.filterMap decoded := by
  induction items generalizing values with
  | nil =>
    cases h
    rfl
  | cons item items ih =>
    obtain ⟨v, rest, hv, hrest, rfl⟩ := itemValues?_cons_eq_some_iff.mp h
    rw [eventsOf_cons, ih hrest, List.filterMap_cons, decoded_of_value hv]
    cases (Event.ofValue v).toOption <;> rfl

theorem shown_ofRaw : (ofRaw raw).map shown = some x ↔
    ∃ items token, Decodable raw items token ∧ x = (items.filterMap decoded, tokenText token) := by
  constructor
  · intro h
    obtain ⟨page, hpage, rfl⟩ := Option.map_eq_some_iff.mp h
    simp only [ofRaw, Option.bind_eq_bind, Option.bind_eq_some_iff, Option.some.injEq,
      Prod.exists] at hpage
    obtain ⟨events, next, hparts, values, hvalues, text, htext, rfl⟩ := hpage
    obtain ⟨hparted, hkeys⟩ := parts_eq_some_iff.mp hparts
    obtain ⟨items, hlists, hitems⟩ := valuesOf_eq_some_iff.mp hvalues
    obtain ⟨token, hnames, hpaired, rfl⟩ := tokenOf_eq_some_iff.mp htext
    have hfits := isSome_itemValues?.mp (Option.isSome_of_eq_some hitems)
    refine ⟨items, token, ⟨⟨events, next, hparted, hlists, hnames⟩, hkeys, hpaired, hfits⟩, ?_⟩
    rw [shown, eventsOf_values hitems]
    rfl
  · rintro ⟨items, token, ⟨⟨events, next, hparted, hlists, hnames⟩, hkeys, hpaired, hfits⟩, rfl⟩
    have hparts := parts_eq_some_iff.mpr ⟨hparted, hkeys⟩
    obtain ⟨values, hitems⟩ := Option.isSome_iff_exists.mp (isSome_itemValues?.mpr hfits)
    have hvalues := valuesOf_eq_some_iff.mpr ⟨items, hlists, hitems⟩
    have htext := tokenOf_eq_some_iff.mpr ⟨token, hnames, hpaired, rfl⟩
    simp [ofRaw, hparts, hvalues, htext, shown, eventsOf_values hitems, tokenText]

def showing (body : String) : Option (List Event × Option String) :=
  (read body).toOption.map shown

theorem showing_eq_some : showing s = some x ↔ ∃ page, read s = .ok page ∧ shown page = x := by
  rw [showing]
  cases read s <;> simp [Except.toOption]

theorem read_eq_error {e : SourceError} (h : read s = .error e) :
    ∃ message, e = .invalidResponse message := by
  unfold read at h
  split at h
  · cases h
  · cases h
    exact ⟨_, rfl⟩

theorem showing_eq : showing s = (Raw.read s).bind fun raw => (ofRaw raw).map shown := by
  rw [showing, read]
  cases hraw : Raw.read s with
  | none => rfl
  | some raw => cases hpage : ofRaw raw <;> simp [hpage, Except.toOption]

theorem showing_eq_some_iff : showing s = some x ↔ ∃ raw items token,
    Spelled s raw ∧ Decodable raw items token ∧ x = (items.filterMap decoded, tokenText token) := by
  simp only [showing_eq, Option.bind_eq_some_iff, Raw.read_eq_some_iff, shown_ofRaw,
    exists_and_left]

theorem showing_of_spelled (h : Spelled s raw) : showing s = (ofRaw raw).map shown := by
  rw [showing_eq, Raw.read_eq_some_iff.mpr h, Option.bind_some]

theorem read_of_decodable (hspelled : Spelled s raw) (hdecodable : Decodable raw items token) :
    ∃ page, read s = .ok page ∧ page.events = items.filterMap decoded ∧
      page.token = tokenText token := by
  have hshowing := showing_eq_some_iff.mpr ⟨raw, items, token, hspelled, hdecodable, rfl⟩
  obtain ⟨page, hread, hshown⟩ := showing_eq_some.mp hshowing
  exact ⟨page, hread, congrArg Prod.fst hshown, congrArg Prod.snd hshown⟩

/-! Other items -/

theorem Rejected.decoded (h : Rejected raw) : decoded raw = none := by
  obtain ⟨v, malformed, hv, hbad⟩ := h
  rw [decoded_of_value hv, hbad]
  rfl

theorem Rejected.fits (h : Rejected raw) : Fits raw := by
  obtain ⟨v, malformed, hv, -⟩ := h
  exact (raw.isSome_value?_iff _).mp (Option.isSome_of_eq_some hv)

theorem Kept.filterMap (h : Kept items items') :
    items.filterMap Page.decoded = items'.filterMap Page.decoded := by
  induction h with
  | nil => rfl
  | same item _ ih => rw [List.filterMap_cons, List.filterMap_cons, ih]
  | inserted hbad _ ih => rw [List.filterMap_cons_none hbad.decoded, ih]
  | deleted hbad _ ih => rw [List.filterMap_cons_none hbad.decoded, ih]

theorem Kept.fits (h : Kept items items') (hfits : ∀ item ∈ items, Fits item) :
    ∀ item ∈ items', Fits item := by
  induction h with
  | nil => exact hfits
  | same item _ ih =>
    rw [List.forall_mem_cons] at hfits ⊢
    exact ⟨hfits.1, ih hfits.2⟩
  | inserted hbad _ ih => exact List.forall_mem_cons.mpr ⟨hbad.fits, ih hfits⟩
  | deleted _ _ ih => exact ih (List.forall_mem_cons.mp hfits).2

theorem Kept.symm (h : Kept items items') : Kept items' items := by
  induction h with
  | nil => exact .nil
  | same item _ ih => exact .same item ih
  | inserted hbad _ ih => exact .deleted hbad ih
  | deleted hbad _ ih => exact .inserted hbad ih

theorem SamePage.symm (h : SamePage raw raw') : SamePage raw' raw := by
  cases h with
  | array h rest => exact .array h.symm rest
  | object hkey h before after => exact .object hkey h.symm before after

theorem SamePage.formed (h : SamePage raw raw') {found : List Raw} (hformed : Formed raw found token) :
    ∃ found', Kept found found' ∧ Formed raw' found' token := by
  obtain ⟨events, next, hparted, hlists, hnames⟩ := hformed
  cases h with
  | @array _ items' h rest =>
    obtain ⟨hlen⟩ := hparted
    cases hlists
    exact ⟨items', h, _, _, .array hlen, .array items', hnames⟩
  | @object items items' key hkey h before after =>
    obtain - | ⟨hevents, hnext⟩ := hparted
    have hother : text? key ≠ some "nextToken" := by simp [hkey]
    rw [rawsAt_append, rawsAt_cons, if_neg hother] at hnext
    rw [rawsAt_append, rawsAt_cons, if_pos hkey] at hevents
    -- the array stands at its key alone
    obtain ⟨hbefore, hafter, hlisted⟩ : rawsAt "events" before = [] ∧
        rawsAt "events" after = [] ∧ events = some (.array items) := by
      cases events with
      | none => simp at hevents
      | some listed =>
        rcases List.append_eq_singleton_iff.mp hevents with ⟨hbefore, hrest⟩ | ⟨-, hrest⟩
        · obtain ⟨rfl, hafter⟩ := List.cons.inj hrest
          exact ⟨hbefore, hafter, rfl⟩
        · cases hrest
    subst hlisted
    cases hlists
    refine ⟨items', h, some (.array items'), next, .object ?_ ?_, .array items', hnames⟩
    · rw [rawsAt_append, rawsAt_cons, if_pos hkey, hbefore, hafter]
      rfl
    · rw [rawsAt_append, rawsAt_cons, if_neg hother, hnext]

theorem SamePage.decodable (h : SamePage raw raw') (hpage : Decodable raw items token) :
    ∃ items', Kept items items' ∧ Decodable raw' items' token := by
  obtain ⟨items', hkept, hformed⟩ := h.formed hpage.formed
  refine ⟨items', hkept, hformed, ?_, hpage.token, hkept.fits hpage.items⟩
  have hkeys : keysOf raw' = keysOf raw := by cases h <;> simp [keysOf]
  exact hkeys ▸ hpage.keys

theorem SamePage.showing_of_some {body body' : String} (h : SamePage raw raw')
    (hbody : Spelled body raw) (hbody' : Spelled body' raw') (hx : showing body = some x) :
    showing body' = some x := by
  rw [showing_of_spelled hbody, shown_ofRaw] at hx
  obtain ⟨items, token, hpage, rfl⟩ := hx
  obtain ⟨items', hkept, hpage'⟩ := h.decodable hpage
  rw [showing_of_spelled hbody', shown_ofRaw]
  exact ⟨items', token, hpage', by rw [hkept.filterMap]⟩

/-- A body is refused if and only if it is no page that has the values it needs. Any other body gives
the events among its items, in their order, and its token. Items that are no events may be put in
anywhere or taken out. -/
theorem bad_events_spoil_no_page (body : String) :
    ((∃ message, read body = .error (.invalidResponse message)) ↔
      ¬ ∃ raw items token, Spelled body raw ∧ Decodable raw items token) ∧
    (∀ raw items token, Spelled body raw → Decodable raw items token →
      ∃ page, read body = .ok page ∧ page.events = items.filterMap decoded ∧
        page.token = tokenText token) ∧
    ∀ body' raw raw', Spelled body raw → Spelled body' raw' → SamePage raw raw' →
      (read body).toOption.map shown = (read body').toOption.map shown := by
  refine ⟨⟨?_, ?_⟩, fun raw items token => read_of_decodable, ?_⟩
  · rintro ⟨message, herror⟩ ⟨raw, items, token, hspelled, hdecodable⟩
    obtain ⟨page, hread, -⟩ := read_of_decodable hspelled hdecodable
    cases hread.symm.trans herror
  · intro hnone
    cases hread : read body with
    | ok page =>
      obtain ⟨raw, items, token, hspelled, hdecodable, -⟩ :=
        showing_eq_some_iff.mp (showing_eq_some.mpr ⟨page, hread, rfl⟩)
      exact absurd ⟨raw, items, token, hspelled, hdecodable⟩ hnone
    | error e =>
      obtain ⟨message, rfl⟩ := read_eq_error hread
      exact ⟨message, rfl⟩
  · intro body' raw raw' hbody hbody' hsame
    refine Option.ext fun x => ?_
    exact ⟨hsame.showing_of_some hbody hbody', hsame.symm.showing_of_some hbody' hbody⟩

/-- A number in front of an event is taken out and an empty object is put in behind it. -/
theorem bad_events_spoil_no_page_around :
    let good : Raw := .array [.number ⟨false, ['7'], [], none⟩, .null, .string [.char 'a']]
    let five : Raw := .number ⟨false, ['5'], [], none⟩
    let page (items : List Raw) : Raw := .object [([.char 'x'], .string [.unit 0xd800]),
      ("events".toList.map .char, .array items), ("nextToken".toList.map .char, .string [])]
    let body := "\x7b\"x\":\"\\ud800\",\"events\":[5,[7,null,\"a\"]],\"nextToken\":\"\"\x7d"
    let body' := "\x7b\"x\":\"\\ud800\",\"events\":[[7,null,\"a\"],\x7b\x7d],\"nextToken\":\"\"\x7d"
    (Spelled body (page [five, good]) ∧ Spelled body' (page [good, .object []]) ∧
      Decodable (page [five, good]) [five, good] (some []) ∧
      SamePage (page [five, good]) (page [good, .object []])) ∧
    (∃ p, read body = .ok p ∧ p.events = [⟨7, 0, "a"⟩] ∧ p.token = none) ∧
    (read body).toOption.map shown = (read body').toOption.map shown := by
  intro good five page body body'
  have hbody : Spelled body (page [five, good]) := by
    rw [← Raw.read_eq_some_iff, Raw.read]
    simp [body]
    rfl
  have hbody' : Spelled body' (page [good, .object []]) := by
    rw [← Raw.read_eq_some_iff, Raw.read]
    simp [body']
    rfl
  have hbad : Rejected five := ⟨_, _, rfl, rfl⟩
  have hother : Rejected (.object []) := ⟨_, _, rfl, rfl⟩
  have hgood : Fits good := (good.isSome_value?_iff _).mp (by decide +kernel)
  have hformed : Formed (page [five, good]) [five, good] (some []) :=
    ⟨_, _, .object rfl rfl, .array _, .string []⟩
  have hdecodable : Decodable (page [five, good]) [five, good] (some []) := by
    refine ⟨hformed, ?_, ?_, ?_⟩
    · have hnames : ((keysOf (page [])).all fun key => (text? key).isSome) = true := by
        decide +kernel
      intro key hkey
      exact isSome_text?_iff.mp (List.all_eq_true.mp hnames key hkey)
    · intro pieces hpieces
      cases hpieces
      exact .nil
    · simp [hbad.fits, hgood]
  have hsame : SamePage (page [five, good]) (page [good, .object []]) :=
    .object (by decide +kernel) (.deleted hbad (.same good (.inserted hother .nil))) [_] [_]
  obtain ⟨-, hpage, hothers⟩ := bad_events_spoil_no_page body
  obtain ⟨p, hread, hevents, htoken⟩ := hpage _ _ _ hbody hdecodable
  have hdecoded : [five, good].filterMap decoded = [⟨7, 0, "a"⟩] := by decide +kernel
  refine ⟨⟨hbody, hbody', hdecodable, hsame⟩, ⟨p, hread, hevents.trans hdecoded, htoken⟩, ?_⟩
  exact hothers body' _ _ hbody hbody' hsame

/-- The limits hold for more than the items: a key that is half of a surrogate pair spoils the page,
although it is the key of no part. -/
theorem half_a_pair_as_key_spoils_page :
    let body := "\x7b\"\\ud800\":0\x7d"
    ¬ ((∃ e, read body = .error e) ↔ ¬ ∃ raw items token,
      Spelled body raw ∧ Formed raw items token ∧ ∀ item ∈ items, Fits item) := by
  intro body hclaim
  have hread : Raw.read body =
      some (.object [([.unit 0xd800], .number ⟨false, ['0'], [], none⟩)]) := by
    simp [body, Raw.read]
    rfl
  have herror : ∃ e, read body = .error e := by
    rw [read, hread]
    exact ⟨_, rfl⟩
  refine hclaim.mp herror ⟨_, [], none, Raw.read_eq_some_iff.mp hread, ?_, by simp⟩
  exact ⟨none, none, .object rfl rfl, .absent, .absent⟩

end LogFollow.Page
