import LogFollow.Json.Printer
import LogFollow.Json.Raw
import LogFollow.Proofs.Json.Entries
import LogFollow.Proofs.Json.Limits
import LogFollow.Proofs.Number.Digits

/-!
# Written values are read back

The text of a value is read as a tree that has this value, whatever stands behind the text, and there
is no control character in it. Floats are left out here, and so are integers that no 64 bits hold,
objects out of order and containers nested too deeply: they are not read as what was written.
-/

namespace LogFollow.Json
set_option autoImplicit false

open Number

/-- What may stand behind a value: nothing, or a sign that parts it from the next or closes around
it. -/
inductive Follows : List Char → Prop
  | nothing : Follows []
  | comma (rest : List Char) : Follows (',' :: rest)
  | bracket (rest : List Char) : Follows (']' :: rest)
  | brace (rest : List Char) : Follows ('\x7d' :: rest)

def Spells (text : List Char) (raw : Raw) : Prop :=
  ∀ fuel rest, text.length ≤ fuel → Follows rest →
    readRaw (fuel + 1) (text ++ rest) = some (raw, rest)

def SpellsItems (text : List Char) (raws : List Raw) : Prop :=
  ∀ fuel rest, text.length ≤ fuel → readItems (fuel + 1) (text ++ rest) = some (raws, rest)

def SpellsEntries (text : List Char) (raws : List (List Piece × Raw)) : Prop :=
  ∀ fuel rest, text.length ≤ fuel → readEntries (fuel + 1) (text ++ rest) = some (raws, rest)

/-- The pieces are what is inside the quotes around a string. -/
def SpellsInside (s : String) (pieces : List Piece) : Prop :=
  ∀ rest, readPieces (s.toList.flatMap escapeChar ++ '"' :: rest) = some (pieces, rest)

/-- A numeral without a fraction and an exponent. -/
def Numeral.ofNat (negative : Bool) (n : Nat) : Numeral := ⟨negative, Nat.toDigits 10 n, [], none⟩

/-- Without a control character. -/
def Printable (cs : List Char) : Prop := ∀ c ∈ cs, 0x20 ≤ c.toNat

mutual

/-- A value that is read back: its integers are in range, its entries in order, and it has at most
`depth` containers inside each other. -/
def Value.Readable (depth : Nat) : Value → Prop
  | .null | .bool _ | .string _ => True
  | .number (.int n) => minSigned ≤ n ∧ n ≤ maxUnsigned
  | .number (.float _) => False
  | .array items => 0 < depth ∧ ItemsReadable (depth - 1) items
  | .object entries => 0 < depth ∧ InOrder entries ∧ EntriesReadable (depth - 1) entries

def ItemsReadable (depth : Nat) : List Value → Prop
  | [] => True
  | v :: rest => v.Readable depth ∧ ItemsReadable depth rest

def EntriesReadable (depth : Nat) : List (String × Value) → Prop
  | [] => True
  | (_, v) :: rest => v.Readable depth ∧ EntriesReadable depth rest

end

variable {c x : Char} {n : Nat} {key s : String} {text more rest cs : List Char} {raw : Raw}
  {raws : List Raw} {pieces : List Piece} {named : List (List Piece × Raw)} {v : Value}

theorem skipSpace_cons (h : isSpace x = false) (rest : List Char) :
    skipSpace (x :: rest) = x :: rest := by
  rw [skipSpace, List.dropWhile_cons_of_neg]
  simp [h]

/-! Strings -/

theorem hexQuad_control : ∀ n : Fin 0x20,
    hexQuad '0' '0' (hexDigit (n.val / 16)) (hexDigit (n.val % 16)) = some n.val := by decide

theorem readPieces_plain (hquote : c ≠ '"') (hslash : c ≠ '\\') (hcontrol : ¬ c.toNat < 0x20)
    (rest : List Char) :
    readPieces (c :: rest) = (readPieces rest).map fun (pieces, rest) => (.char c :: pieces, rest) := by
  rw [readPieces]
  · cases readPieces rest <;> simp [hslash, hcontrol]
  all_goals grind

theorem escapeChar_read (c : Char) : ∃ p : Piece,
    (∀ rest, readPieces (escapeChar c ++ rest) =
      (readPieces rest).map fun (pieces, rest) => (p :: pieces, rest)) ∧
    ∀ pieces, textOf (p :: pieces) = (textOf pieces).map (c :: ·) := by
  unfold escapeChar
  split_ifs with hquote hslash hback hfeed hline hreturn htab hcontrol
  -- seven characters have a letter of their own behind the backslash
  iterate 7
    obtain rfl := eq_of_beq ‹_›
    refine ⟨.char _, fun rest => ?_, fun pieces => by rw [textOf]⟩
    cases hr : readPieces rest <;> simp [readPieces, simpleEscape, hr]
  · refine ⟨.unit c.toNat, fun rest => ?_, fun pieces => ?_⟩
    · have hquad := hexQuad_control ⟨c.toNat, hcontrol⟩
      cases hr : readPieces rest <;> simp [readPieces, hquad, hr]
    · rw [textOf_plain (by omega), Char.ofNat_toNat]
  · refine ⟨.char c, fun rest => ?_, fun pieces => by rw [textOf]⟩
    exact readPieces_plain (by simpa using hquote) (by simpa using hslash) hcontrol rest

theorem escaped_read (cs : List Char) : ∃ pieces,
    (∀ rest, readPieces (cs.flatMap escapeChar ++ '"' :: rest) = some (pieces, rest)) ∧
      textOf pieces = some cs := by
  induction cs with
  | nil => exact ⟨[], fun rest => rfl, rfl⟩
  | cons c cs ih =>
    obtain ⟨p, hread, htext⟩ := escapeChar_read c
    obtain ⟨pieces, hpieces, hcs⟩ := ih
    refine ⟨p :: pieces, fun rest => ?_, ?_⟩
    · rw [List.flatMap_cons, List.append_assoc, hread, hpieces]
      rfl
    · rw [htext, hcs]
      rfl

theorem string_spells (s : String) :
    ∃ pieces, SpellsInside s pieces ∧ text? pieces = some s := by
  obtain ⟨pieces, hread, htext⟩ := escaped_read s.toList
  exact ⟨pieces, hread, by rw [text?, htext, Option.map_some, String.ofList_toList]⟩

theorem SpellsInside.string (h : SpellsInside key pieces) :
    Spells (stringChars key) (.string pieces) := by
  intro fuel rest _ _
  have hread := h rest
  rw [stringChars, List.cons_append, List.cons_append, List.append_assoc, readRaw,
    skipSpace_cons (by decide)]
  simp [hread]

/-! Numbers -/

theorem readNumeral_toDigits (hf : Follows rest) (negative : Bool) (n : Nat) :
    readNumeral negative (Nat.toDigits 10 n ++ rest) = some (.ofNat negative n, rest) := by
  have hdigit : ∀ c ∈ Nat.toDigits 10 n, isDigit c = true := fun c => isDigit_of_mem_toDigits
  have hcut : rest.takeWhile isDigit = [] ∧ rest.dropWhile isDigit = rest := by
    cases hf <;> exact ⟨rfl, rfl⟩
  have htake : (Nat.toDigits 10 n ++ rest).takeWhile isDigit = Nat.toDigits 10 n := by
    rw [List.takeWhile_append_of_pos hdigit, hcut.1, List.append_nil]
  have hdrop : (Nat.toDigits 10 n ++ rest).dropWhile isDigit = rest := by
    rw [List.dropWhile_append_of_pos hdigit, hcut.2]
  have hzero : ((Nat.toDigits 10 n).head? == some '0' && (Nat.toDigits 10 n).length != 1) =
      false := by
    rcases Nat.eq_zero_or_pos n with rfl | hn
    · decide
    · simp [head_toDigits hn]
  have hfraction : readFraction rest = some ([], rest) := by cases hf <;> rfl
  have hexponent : readExponent rest = some (none, rest) := by cases hf <;> rfl
  simp [readNumeral, htake, hdrop, hzero, hfraction, hexponent, Numeral.ofNat]

theorem readRaw_digit (h : isDigit x = true) (fuel : Nat) (rest : List Char) :
    readRaw (fuel + 1) (x :: rest) =
      (readNumeral false (x :: rest)).map fun (n, rest) => (.number n, rest) := by
  have hne : ∀ y : Char, isDigit y = false → x ≠ y := fun y => ne_of_isDigit h
  have hspace : isSpace x = false := by
    simp only [isSpace, Bool.or_eq_false_iff, beq_eq_false_iff_ne]
    exact ⟨⟨⟨hne _ rfl, hne _ rfl⟩, hne _ rfl⟩, hne _ rfl⟩
  unfold readRaw
  rw [skipSpace_cons hspace]
  split
  case h_8 => cases readNumeral false (x :: rest) <;> rfl
  all_goals exact absurd (List.cons.inj ‹_›).1 (hne _ rfl)

theorem digits_spell (n : Nat) : Spells (Nat.toDigits 10 n) (.number (.ofNat false n)) := by
  intro fuel rest _ hf
  have hread := readNumeral_toDigits hf false n
  obtain ⟨x, more, hcons, hx⟩ := toDigits_head n
  rw [hcons, List.cons_append] at hread ⊢
  rw [readRaw_digit hx, hread, Option.map_some]

theorem minus_spells (n : Nat) : Spells ('-' :: Nat.toDigits 10 n) (.number (.ofNat true n)) := by
  intro fuel rest _ hf
  have hread := readNumeral_toDigits hf true n
  rw [List.cons_append, readRaw, skipSpace_cons (by decide)]
  simp [hread]

theorem chars_ofNat (n : Nat) : (Num.int (Int.ofNat n)).chars = Nat.toDigits 10 n := by
  have htext : (toString (Int.ofNat n)).toList = (toString n).toList := rfl
  rw [Num.chars, htext, Nat.toString_eq_ofList_toDigits, String.toList_ofList]

theorem chars_negSucc (n : Nat) :
    (Num.int (Int.negSucc n)).chars = '-' :: Nat.toDigits 10 (n + 1) := by
  have htext : (toString (Int.negSucc n)).toList = '-' :: (toString (n + 1)).toList :=
    String.toList_append
  rw [Num.chars, htext, Nat.toString_eq_ofList_toDigits, String.toList_ofList]

theorem int_spells {n : Int} (hmin : minSigned ≤ n) (hmax : n ≤ maxUnsigned) :
    ∃ m : Numeral, Spells (Num.int n).chars (.number m) ∧ m.num? = some (.int n) := by
  cases n with
  | ofNat k =>
    have hk : k ≤ maxUnsigned := Int.ofNat_le.mp hmax
    refine ⟨.ofNat false k, chars_ofNat k ▸ digits_spell k, ?_⟩
    simp [Numeral.num?, Numeral.ofNat, digitsValue_toDigits, hk]
  | negSucc k =>
    have hk : k + 1 ≤ 9223372036854775808 := by
      unfold minSigned at hmin
      omega
    refine ⟨.ofNat true (k + 1), chars_negSucc k ▸ minus_spells (k + 1), ?_⟩
    simp [Numeral.num?, Numeral.ofNat, digitsValue_toDigits, hk, Int.negSucc_eq]

theorem readable_of_isSigned {n : Int} (h : isSigned n = true) (depth : Nat) :
    (Value.number (.int n)).Readable depth := by
  have hrange := isSigned_iff.mp h
  rw [Value.Readable]
  unfold minSigned maxUnsigned
  omega

/-! Containers -/

theorem Spells.single (h : Spells text raw) : SpellsItems (text ++ [']']) [raw] := by
  intro fuel rest hfuel
  rw [List.length_append, List.length_singleton] at hfuel
  obtain ⟨fuel, rfl⟩ := Nat.exists_eq_add_one_of_ne_zero (by omega : fuel ≠ 0)
  have hread := h fuel (']' :: rest) (by omega) (.bracket rest)
  rw [List.append_assoc, List.singleton_append, readItems, hread]
  rfl

theorem Spells.item (h : Spells text raw) (hmore : SpellsItems more raws) :
    SpellsItems (text ++ ',' :: more) (raw :: raws) := by
  intro fuel rest hfuel
  rw [List.length_append, List.length_cons] at hfuel
  obtain ⟨fuel, rfl⟩ := Nat.exists_eq_add_one_of_ne_zero (by omega : fuel ≠ 0)
  have hread := h fuel (',' :: (more ++ rest)) (by omega) (.comma _)
  rw [List.append_assoc, List.cons_append, readItems, hread]
  simp [skipSpace_cons (show isSpace ',' = false by decide), hmore fuel rest (by omega)]

/-- No item starts with the bracket that closes an array. -/
theorem readItems_bracket (h : skipSpace cs = ']' :: rest) (fuel : Nat) :
    readItems fuel cs = none := by
  obtain _ | _ | fuel := fuel
  · rfl
  · rfl
  · rw [readItems, readRaw, h]
    rfl

theorem SpellsItems.array (h : SpellsItems text raws) : Spells ('[' :: text) (.array raws) := by
  intro fuel rest hfuel _
  rw [List.length_cons] at hfuel
  obtain ⟨fuel, rfl⟩ := Nat.exists_eq_add_one_of_ne_zero (by omega : fuel ≠ 0)
  have hread := h fuel rest (by omega)
  rw [List.cons_append, readRaw, skipSpace_cons (by decide)]
  simp only [hread]
  split
  · rename_i hclosed
    rw [readItems_bracket hclosed] at hread
    cases hread
  · rfl

theorem empty_array_spells : Spells ['[', ']'] (.array []) := by
  intro fuel rest _ _
  rw [List.cons_append, readRaw, skipSpace_cons (by decide)]
  rfl

theorem readEntries_entry {inside behind : List Char} (hquote : skipSpace cs = '"' :: inside)
    (hkey : readPieces inside = some (pieces, behind)) (hcolon : skipSpace behind = ':' :: rest)
    (fuel : Nat) :
    readEntries (fuel + 1) cs =
      (readRaw fuel rest).bind fun (raw, rest) =>
        match skipSpace rest with
        | '\x7d' :: rest => some ([(pieces, raw)], rest)
        | ',' :: rest =>
          (readEntries fuel rest).bind fun (named, rest) => some ((pieces, raw) :: named, rest)
        | _ => none := by
  rw [readEntries, hquote]
  simp only [hkey]
  rw [Option.bind_eq_bind, Option.bind_some, hcolon]
  rfl

theorem readEntries_key (hkey : SpellsInside key pieces) (fuel : Nat) (rest : List Char) :
    readEntries (fuel + 1) (stringChars key ++ ':' :: rest) =
      (readRaw fuel rest).bind fun (raw, rest) =>
        match skipSpace rest with
        | '\x7d' :: rest => some ([(pieces, raw)], rest)
        | ',' :: rest =>
          (readEntries fuel rest).bind fun (named, rest) => some ((pieces, raw) :: named, rest)
        | _ => none := by
  rw [stringChars, List.cons_append, List.cons_append, List.append_assoc, List.singleton_append]
  exact readEntries_entry (skipSpace_cons (by decide) _) (hkey _) (skipSpace_cons (by decide) _) fuel

theorem Spells.lastEntry (h : Spells text raw) (hkey : SpellsInside key pieces) :
    SpellsEntries (stringChars key ++ ':' :: text ++ ['\x7d']) [(pieces, raw)] := by
  intro fuel rest hfuel
  have hlen : text.length + 1 ≤ fuel := by
    simp only [List.length_append, List.length_cons, List.length_nil] at hfuel
    omega
  obtain ⟨fuel, rfl⟩ := Nat.exists_eq_add_one_of_ne_zero (by omega : fuel ≠ 0)
  have hread := h fuel ('\x7d' :: rest) (by omega) (.brace rest)
  rw [List.append_assoc, List.append_assoc, List.cons_append, List.singleton_append,
    readEntries_key hkey, hread]
  rfl

theorem Spells.entry (h : Spells text raw) (hkey : SpellsInside key pieces)
    (hmore : SpellsEntries more named) :
    SpellsEntries (stringChars key ++ ':' :: text ++ ',' :: more) ((pieces, raw) :: named) := by
  intro fuel rest hfuel
  have hlen : text.length + more.length + 2 ≤ fuel := by
    simp only [List.length_append, List.length_cons] at hfuel
    omega
  obtain ⟨fuel, rfl⟩ := Nat.exists_eq_add_one_of_ne_zero (by omega : fuel ≠ 0)
  have hread := h fuel (',' :: (more ++ rest)) (by omega) (.comma _)
  have hcomma := skipSpace_cons (x := ',') (by decide) (more ++ rest)
  rw [List.append_assoc, List.append_assoc, List.cons_append, List.cons_append,
    readEntries_key hkey, hread]
  simp only [Option.bind_some, hcomma, hmore fuel rest (by omega)]

theorem readEntries_brace (h : skipSpace cs = '\x7d' :: rest) (fuel : Nat) :
    readEntries fuel cs = none := by
  obtain _ | fuel := fuel
  · rfl
  · rw [readEntries, h]
    rfl

theorem SpellsEntries.object (h : SpellsEntries text named) :
    Spells ('\x7b' :: text) (.object named) := by
  intro fuel rest hfuel _
  rw [List.length_cons] at hfuel
  obtain ⟨fuel, rfl⟩ := Nat.exists_eq_add_one_of_ne_zero (by omega : fuel ≠ 0)
  have hread := h fuel rest (by omega)
  rw [List.cons_append, readRaw, skipSpace_cons (by decide)]
  simp only [hread]
  split
  · rename_i hclosed
    rw [readEntries_brace hclosed] at hread
    cases hread
  · rfl

theorem empty_object_spells : Spells ['\x7b', '\x7d'] (.object []) := by
  intro fuel rest _ _
  rw [List.cons_append, readRaw, skipSpace_cons (by decide)]
  rfl

-- The cases follow the printer, which writes the last item and the last entry in their own way.
mutual

theorem Value.Readable.spells : ∀ {v : Value} {depth : Nat}, v.Readable depth →
    ∃ raw, Spells v.chars raw ∧ raw.value? depth = some v
  | .null, _, _ => ⟨.null, fun _ _ _ _ => rfl, rfl⟩
  | .bool true, _, _ => ⟨.bool true, fun _ _ _ _ => rfl, rfl⟩
  | .bool false, _, _ => ⟨.bool false, fun _ _ _ _ => rfl, rfl⟩
  | .number (.int n), depth, ⟨hmin, hmax⟩ => by
    obtain ⟨m, hm, hnum⟩ := int_spells hmin hmax
    refine ⟨.number m, hm, ?_⟩
    rw [Raw.value?, hnum, Option.map_some]
  | .string s, depth, _ => by
    obtain ⟨pieces, hpieces, htext⟩ := string_spells s
    refine ⟨.string pieces, hpieces.string, ?_⟩
    rw [Raw.value?, htext, Option.map_some]
  | .array [], depth, ⟨hdepth, _⟩ => by
    refine ⟨.array [], empty_array_spells, ?_⟩
    simp [Raw.value?, Nat.ne_of_gt hdepth, itemValues?]
  | .array (v :: items), depth, ⟨hdepth, hitems⟩ => by
    obtain ⟨raws, hraws, hvalues⟩ := items_spell hitems
    refine ⟨.array raws, hraws.array, ?_⟩
    simp [Raw.value?, Nat.ne_of_gt hdepth, hvalues]
  | .object [], depth, ⟨hdepth, _, _⟩ => by
    refine ⟨.object [], empty_object_spells, ?_⟩
    simp [Raw.value?, Nat.ne_of_gt hdepth, entryValues?, sortEntries]
  | .object (e :: entries), depth, ⟨hdepth, horder, hentries⟩ => by
    obtain ⟨named, hnamed, hvalues⟩ := entries_spell hentries
    refine ⟨.object named, hnamed.object, ?_⟩
    simp [Raw.value?, Nat.ne_of_gt hdepth, hvalues, sortEntries_of_inOrder horder]

theorem items_spell : ∀ {v : Value} {items : List Value} {depth : Nat},
    ItemsReadable depth (v :: items) →
      ∃ raws, SpellsItems (itemsChars (v :: items)) raws ∧
        itemValues? depth raws = some (v :: items)
  | v, [], depth, ⟨hv, _⟩ => by
    obtain ⟨raw, hraw, hvalue⟩ := hv.spells
    refine ⟨[raw], hraw.single, ?_⟩
    simp [itemValues?, hvalue]
  | v, w :: items, depth, ⟨hv, hitems⟩ => by
    obtain ⟨raw, hraw, hvalue⟩ := hv.spells
    obtain ⟨raws, hraws, hvalues⟩ := items_spell hitems
    refine ⟨raw :: raws, hraw.item hraws, ?_⟩
    simp [itemValues?, hvalue, hvalues]

theorem entries_spell : ∀ {key : String} {v : Value} {entries : List (String × Value)} {depth : Nat},
    EntriesReadable depth ((key, v) :: entries) →
      ∃ named, SpellsEntries (entriesChars ((key, v) :: entries)) named ∧
        entryValues? depth named = some ((key, v) :: entries)
  | key, v, [], depth, ⟨hv, _⟩ => by
    obtain ⟨pieces, hpieces, htext⟩ := string_spells key
    obtain ⟨raw, hraw, hvalue⟩ := hv.spells
    refine ⟨[(pieces, raw)], hraw.lastEntry hpieces, ?_⟩
    simp [entryValues?, htext, hvalue]
  | key, v, (other, w) :: entries, depth, ⟨hv, hentries⟩ => by
    obtain ⟨pieces, hpieces, htext⟩ := string_spells key
    obtain ⟨raw, hraw, hvalue⟩ := hv.spells
    obtain ⟨named, hnamed, hvalues⟩ := entries_spell hentries
    refine ⟨(pieces, raw) :: named, hraw.entry hpieces hnamed, ?_⟩
    simp [entryValues?, htext, hvalue, hvalues]

end

theorem Spells.read (h : Spells s.toList raw) : Raw.read s = some raw := by
  have hread := h (2 * s.toList.length + 1) [] (by omega) .nothing
  rw [List.append_nil] at hread
  rw [Raw.read, hread]
  rfl

theorem Value.Readable.read (h : v.Readable maxDepth) : Value.read v.text = some v := by
  obtain ⟨raw, hraw, hvalue⟩ := h.spells
  have hread : Raw.read v.text = some raw := by
    apply Spells.read
    rwa [Value.text, String.toList_ofList]
  rw [Value.read, hread]
  exact hvalue

/-- An object is read back whatever the order of its entries is: as a tree it keeps the order, and as
a value it has them sorted. -/
theorem EntriesReadable.tree {entries : List (String × Value)} {depth : Nat}
    (h : EntriesReadable depth entries) :
    ∃ named, Raw.read (Value.object entries).text = some (.object named) ∧
      entryValues? depth named = some entries := by
  have hobject : ∃ named, Spells (Value.object entries).chars (.object named) ∧
      entryValues? depth named = some entries := by
    cases entries with
    | nil => exact ⟨[], empty_object_spells, rfl⟩
    | cons entry entries =>
      obtain ⟨named, hnamed, hvalues⟩ := entries_spell h
      exact ⟨named, hnamed.object, hvalues⟩
  obtain ⟨named, hspells, hvalues⟩ := hobject
  refine ⟨named, ?_, hvalues⟩
  apply Spells.read
  rwa [Value.text, String.toList_ofList]

theorem EntriesReadable.read {entries : List (String × Value)}
    (h : EntriesReadable (maxDepth - 1) entries) :
    Value.read (Value.object entries).text = some (.object (sortEntries entries)) := by
  obtain ⟨named, htree, hvalues⟩ := h.tree
  have hdepth : (maxDepth == 0) = false := rfl
  simp [Value.read, htree, Raw.value?, hdepth, hvalues]

/-! Control characters -/

@[simp] theorem printable_nil : Printable [] := by simp [Printable]

@[simp] theorem printable_cons : Printable (c :: cs) ↔ 0x20 ≤ c.toNat ∧ Printable cs :=
  List.forall_mem_cons

@[simp] theorem printable_append : Printable (cs ++ rest) ↔ Printable cs ∧ Printable rest :=
  List.forall_mem_append

theorem Printable.not_mem (h : Printable cs) (hc : c.toNat < 0x20) : c ∉ cs :=
  fun hmem => absurd (h c hmem) (Nat.not_le.mpr hc)

theorem printable_toDigits (n : Nat) : Printable (Nat.toDigits 10 n) := by
  intro c hc
  have hdigit := isDigit_iff.mp (isDigit_of_mem_toDigits hc)
  omega

theorem printable_decimal (d : Decimal) : Printable d.text := by
  have hdigits := printable_toDigits d.digits
  have htake : ∀ k, Printable ((Nat.toDigits 10 d.digits).take k) :=
    fun k c hc => hdigits c (List.mem_of_mem_take hc)
  have hdrop : ∀ k, Printable ((Nat.toDigits 10 d.digits).drop k) :=
    fun k c hc => hdigits c (List.mem_of_mem_drop hc)
  have hzeros : ∀ k, Printable (List.replicate k '0') := by
    intro k c hc
    rw [List.eq_of_mem_replicate hc]
    decide
  unfold Decimal.text
  dsimp only
  split_ifs <;> simp [hdigits, htake, hdrop, hzeros, printable_toDigits, -List.drop_one]

theorem printable_floatText (bits : UInt64) : Printable (floatText bits) := by
  unfold floatText
  dsimp only
  split_ifs <;> simp [printable_decimal]

theorem printable_escapeChar (c : Char) : Printable (escapeChar c) := by
  have hhex : ∀ n : Fin 0x20, 0x20 ≤ (hexDigit n.val).toNat := by decide
  unfold escapeChar
  split_ifs with _ _ _ _ _ _ _ hcontrol
  iterate 7 simp
  · have hhigh := hhex ⟨c.toNat / 16, Nat.lt_of_le_of_lt (Nat.div_le_self _ _) hcontrol⟩
    have hlow := hhex ⟨c.toNat % 16, Nat.lt_of_le_of_lt (Nat.mod_le _ _) hcontrol⟩
    simp [hhigh, hlow]
  · simpa using hcontrol

theorem printable_stringChars (s : String) : Printable (stringChars s) := by
  have hinside : Printable (s.toList.flatMap escapeChar) := by
    intro x hx
    obtain ⟨c, -, hc⟩ := List.mem_flatMap.mp hx
    exact printable_escapeChar c x hc
  simp [stringChars, hinside]

theorem printable_num (n : Num) : Printable n.chars := by
  rcases n with ⟨n | n⟩ | bits
  · rw [chars_ofNat]
    exact printable_toDigits n
  · rw [chars_negSucc]
    simp [printable_toDigits]
  · exact printable_floatText bits

mutual

theorem Value.printable : ∀ v : Value, Printable v.chars
  | .null | .bool true | .bool false => by simp [Value.chars]
  | .number n => printable_num n
  | .string s => printable_stringChars s
  | .array items => by simp [Value.chars, items_printable items]
  | .object entries => by simp [Value.chars, entries_printable entries]

theorem items_printable : ∀ items : List Value, Printable (itemsChars items)
  | [] => by simp [itemsChars]
  | [v] => by simp [itemsChars, v.printable]
  | v :: w :: items => by simp [itemsChars, v.printable, items_printable (w :: items)]

theorem entries_printable : ∀ entries : List (String × Value), Printable (entriesChars entries)
  | [] => by simp [entriesChars]
  | [(key, v)] => by simp [entriesChars, printable_stringChars, v.printable]
  | (key, v) :: e :: entries => by
    simp [entriesChars, printable_stringChars, v.printable, entries_printable (e :: entries)]

end

end LogFollow.Json
