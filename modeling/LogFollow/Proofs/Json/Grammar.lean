import LogFollow.Proofs.Json.Written

/-!
# The grammar of JSON

Which texts denote which trees, said without the reader: blanks may stand around every value, key and
sign, a numeral has no zero in front of other digits, and a string holds no control character, no
quote and no backslash that starts no escape. The parts of a text that hold no other value, its
strings and numerals, are read exactly when they follow the grammar.
-/

namespace LogFollow.Json
set_option autoImplicit false

open Number

def Blanks (cs : List Char) : Prop := ∀ c ∈ cs, c = ' ' ∨ c = '\n' ∨ c = '\t' ∨ c = '\r'

def Digits (cs : List Char) : Prop := cs ≠ [] ∧ ∀ c ∈ cs, isDigit c = true

/-- The letters that may stand behind a backslash, and what they stand for. -/
inductive Escape : Char → Char → Prop
  | quote : Escape '"' '"'
  | backslash : Escape '\\' '\\'
  | slash : Escape '/' '/'
  | backspace : Escape 'b' '\x08'
  | feed : Escape 'f' '\x0c'
  | line : Escape 'n' '\n'
  | carriage : Escape 'r' '\r'
  | tab : Escape 't' '\t'

/-- A hexadecimal digit in either case. -/
def HexDigit (c : Char) (n : Nat) : Prop :=
  n < 16 ∧ (c = hexDigit n ∨ c = (hexDigit n).toUpper)

/-- The inside of a string. -/
inductive DenotesPieces : List Char → List Piece → Prop
  | nil : DenotesPieces [] []
  | plain {c : Char} {text : List Char} {pieces : List Piece} (hquote : c ≠ '"')
      (hslash : c ≠ '\\') (hcontrol : 0x20 ≤ c.toNat) (rest : DenotesPieces text pieces) :
      DenotesPieces (c :: text) (.char c :: pieces)
  | escape {e c : Char} {text : List Char} {pieces : List Piece} (escaped : Escape e c)
      (rest : DenotesPieces text pieces) : DenotesPieces ('\\' :: e :: text) (.char c :: pieces)
  | unit {a b c d : Char} {k l m n : Nat} {text : List Char} {pieces : List Piece}
      (ha : HexDigit a k) (hb : HexDigit b l) (hc : HexDigit c m) (hd : HexDigit d n)
      (rest : DenotesPieces text pieces) :
      DenotesPieces ('\\' :: 'u' :: a :: b :: c :: d :: text)
        (.unit (k * 4096 + l * 256 + m * 16 + n) :: pieces)

inductive DenotesFraction : List Char → List Char → Prop
  | absent : DenotesFraction [] []
  | present {digits : List Char} (h : Digits digits) : DenotesFraction ('.' :: digits) digits

inductive DenotesExponent : List Char → Option (Bool × List Char) → Prop
  | absent : DenotesExponent [] none
  | bare {e : Char} {digits : List Char} (he : e = 'e' ∨ e = 'E') (h : Digits digits) :
      DenotesExponent (e :: digits) (some (false, digits))
  | plus {e : Char} {digits : List Char} (he : e = 'e' ∨ e = 'E') (h : Digits digits) :
      DenotesExponent (e :: '+' :: digits) (some (false, digits))
  | minus {e : Char} {digits : List Char} (he : e = 'e' ∨ e = 'E') (h : Digits digits) :
      DenotesExponent (e :: '-' :: digits) (some (true, digits))

/-- A numeral behind its sign. -/
inductive DenotesUnsigned : List Char → Numeral → Prop
  | mk {negative : Bool} {whole fraction digits exponent : List Char}
      {power : Option (Bool × List Char)} (hwhole : Digits whole)
      (hzero : whole.head? = some '0' → whole.length = 1)
      (hfraction : DenotesFraction fraction digits) (hexponent : DenotesExponent exponent power) :
      DenotesUnsigned (whole ++ fraction ++ exponent) ⟨negative, whole, digits, power⟩

mutual

inductive Denotes : List Char → Raw → Prop
  | null : Denotes ['n', 'u', 'l', 'l'] .null
  | boolTrue : Denotes ['t', 'r', 'u', 'e'] (.bool true)
  | boolFalse : Denotes ['f', 'a', 'l', 's', 'e'] (.bool false)
  | positive {text : List Char} {n : Numeral} (h : DenotesUnsigned text n)
      (hsign : n.negative = false) : Denotes text (.number n)
  | negative {text : List Char} {n : Numeral} (h : DenotesUnsigned text n)
      (hsign : n.negative = true) : Denotes ('-' :: text) (.number n)
  | string {text : List Char} {pieces : List Piece} (h : DenotesPieces text pieces) :
      Denotes ('"' :: text ++ ['"']) (.string pieces)
  | noItem {blank : List Char} (h : Blanks blank) : Denotes ('[' :: blank ++ [']']) (.array [])
  | array {text : List Char} {items : List Raw} (h : DenotesItems text items) :
      Denotes ('[' :: text ++ [']']) (.array items)
  | noEntry {blank : List Char} (h : Blanks blank) :
      Denotes ('\x7b' :: blank ++ ['\x7d']) (.object [])
  | object {text : List Char} {entries : List (List Piece × Raw)}
      (h : DenotesEntries text entries) : Denotes ('\x7b' :: text ++ ['\x7d']) (.object entries)

/-- A value with blanks around it. -/
inductive DenotesPadded : List Char → Raw → Prop
  | mk {before text after : List Char} {raw : Raw} (hbefore : Blanks before)
      (h : Denotes text raw) (hafter : Blanks after) : DenotesPadded (before ++ text ++ after) raw

/-- The items of an array that has some. -/
inductive DenotesItems : List Char → List Raw → Prop
  | last {text : List Char} {item : Raw} (h : DenotesPadded text item) : DenotesItems text [item]
  | more {text others : List Char} {item : Raw} {items : List Raw} (h : DenotesPadded text item)
      (hothers : DenotesItems others items) : DenotesItems (text ++ ',' :: others) (item :: items)

inductive DenotesEntry : List Char → List Piece × Raw → Prop
  | mk {before key after text : List Char} {pieces : List Piece} {value : Raw}
      (hbefore : Blanks before) (hkey : DenotesPieces key pieces) (hafter : Blanks after)
      (h : DenotesPadded text value) :
      DenotesEntry (before ++ '"' :: key ++ '"' :: after ++ ':' :: text) (pieces, value)

/-- The entries of an object that has some. -/
inductive DenotesEntries : List Char → List (List Piece × Raw) → Prop
  | last {text : List Char} {entry : List Piece × Raw} (h : DenotesEntry text entry) :
      DenotesEntries text [entry]
  | more {text others : List Char} {entry : List Piece × Raw} {entries : List (List Piece × Raw)}
      (h : DenotesEntry text entry) (hothers : DenotesEntries others entries) :
      DenotesEntries (text ++ ',' :: others) (entry :: entries)

end

/-- A whole text: one value with blanks around it. -/
def Spelled (s : String) (raw : Raw) : Prop := DenotesPadded s.toList raw

variable {a b c d e : Char} {k l m n : Nat} {cs text rest digits whole fraction : List Char}
  {pieces : List Piece} {negative : Bool} {numeral : Numeral} {power : Option (Bool × List Char)}

/-! Strings -/

theorem hexValue_eq_some_iff : hexValue c = some n ↔ HexDigit c n := by
  constructor
  · intro h
    have hall : ∀ i : Fin 128, ∀ n ∈ hexValue (Char.ofNat i.val),
        n < 16 ∧ (Char.ofNat i.val = hexDigit n ∨ Char.ofNat i.val = (hexDigit n).toUpper) := by
      decide
    have hsmall : c.toNat < 128 := by
      unfold hexValue at h
      split_ifs at h with hdigit hlower hupper
      · exact Nat.lt_of_le_of_lt hdigit.2 (by decide)
      · exact Nat.lt_of_le_of_lt hlower.2 (by decide)
      · exact Nat.lt_of_le_of_lt hupper.2 (by decide)
    have hc := hall ⟨c.toNat, hsmall⟩ n
    simp only [Char.ofNat_toNat] at hc
    exact hc h
  · rintro ⟨hn, hc⟩
    have hall : ∀ i : Fin 16, hexValue (hexDigit i.val) = some i.val ∧
        hexValue (hexDigit i.val).toUpper = some i.val := by decide
    rcases hc with rfl | rfl
    · exact (hall ⟨n, hn⟩).1
    · exact (hall ⟨n, hn⟩).2

theorem hexQuad_eq_some_iff : hexQuad a b c d = some n ↔
    ∃ k l m o, HexDigit a k ∧ HexDigit b l ∧ HexDigit c m ∧ HexDigit d o ∧
      k * 4096 + l * 256 + m * 16 + o = n := by
  simp only [hexQuad, Option.bind_eq_bind, Option.bind_eq_some_iff, Option.some.injEq,
    hexValue_eq_some_iff]
  constructor
  · rintro ⟨k, ha, l, hb, m, hc, o, hd, hn⟩
    exact ⟨k, l, m, o, ha, hb, hc, hd, hn⟩
  · rintro ⟨k, l, m, o, ha, hb, hc, hd, hn⟩
    exact ⟨k, ha, l, hb, m, hc, o, hd, hn⟩

theorem simpleEscape_eq_some_iff : simpleEscape e = some c ↔ Escape e c := by
  constructor
  · intro h
    unfold simpleEscape at h
    split_ifs at h with hself hb hf hn hr ht
    · simp only [Bool.or_eq_true, beq_iff_eq] at hself
      cases h
      rcases hself with (rfl | rfl) | rfl
      · exact .quote
      · exact .backslash
      · exact .slash
    all_goals
      cases h
      obtain rfl := eq_of_beq ‹_›
      constructor
  · rintro (_ | _ | _ | _ | _ | _ | _ | _) <;> rfl

theorem readPieces_sound (h : readPieces cs = some (pieces, rest)) :
    ∃ text, DenotesPieces text pieces ∧ cs = text ++ '"' :: rest := by
  induction cs using readPieces.induct generalizing pieces rest with
  | case1 => cases h
  | case2 cs =>
    cases h
    exact ⟨[], .nil, rfl⟩
  | case3 a b c d cs ih =>
    simp only [readPieces, Option.bind_eq_bind, Option.bind_eq_some_iff, Option.some.injEq,
      Prod.mk.injEq, Prod.exists] at h
    obtain ⟨n, hquad, pieces, rest, hread, rfl, rfl⟩ := h
    obtain ⟨k, l, m, o, ha, hb, hc, hd, rfl⟩ := hexQuad_eq_some_iff.mp hquad
    obtain ⟨text, htext, rfl⟩ := ih hread
    exact ⟨_, .unit ha hb hc hd htext, rfl⟩
  | case4 e cs hunit ih =>
    rw [readPieces.eq_4 _ _ hunit] at h
    simp only [Option.bind_eq_bind, Option.bind_eq_some_iff, Option.some.injEq,
      Prod.mk.injEq, Prod.exists] at h
    obtain ⟨c, hescape, pieces, rest, hread, rfl, rfl⟩ := h
    obtain ⟨text, htext, rfl⟩ := ih hread
    exact ⟨_, .escape (simpleEscape_eq_some_iff.mp hescape) htext, rfl⟩
  | case5 c cs hquote hunit hescape hbad =>
    rw [readPieces.eq_5 _ _ hquote hunit hescape, if_pos hbad] at h
    cases h
  | case6 c cs hquote hunit hescape hgood ih =>
    rw [readPieces.eq_5 _ _ hquote hunit hescape, if_neg hgood] at h
    simp only [Option.bind_eq_bind, Option.bind_eq_some_iff, Option.some.injEq,
      Prod.mk.injEq, Prod.exists] at h
    obtain ⟨pieces, rest, hread, rfl, rfl⟩ := h
    obtain ⟨text, htext, rfl⟩ := ih hread
    rw [Bool.or_eq_true, beq_iff_eq, decide_eq_true_iff, not_or, Nat.not_lt] at hgood
    exact ⟨c :: text, .plain hquote hgood.1 hgood.2 htext, rfl⟩

theorem readPieces_escape (h : Escape e c) (rest : List Char) :
    readPieces ('\\' :: e :: rest) =
      (readPieces rest).map fun (pieces, rest) => (.char c :: pieces, rest) := by
  rcases h <;> cases hread : readPieces rest <;> simp [readPieces, simpleEscape, hread]

theorem DenotesPieces.read (h : DenotesPieces text pieces) (rest : List Char) :
    readPieces (text ++ '"' :: rest) = some (pieces, rest) := by
  induction h with
  | nil => rfl
  | plain hquote hslash hcontrol _ ih =>
    rw [List.cons_append, readPieces_plain hquote hslash (Nat.not_lt.mpr hcontrol), ih]
    rfl
  | escape escaped _ ih =>
    rw [List.cons_append, List.cons_append, readPieces_escape escaped, ih]
    rfl
  | unit ha hb hc hd _ ih =>
    have hquad := hexQuad_eq_some_iff.mpr ⟨_, _, _, _, ha, hb, hc, hd, rfl⟩
    simp [readPieces, hquad, ih]

/-! Numerals -/

/-- What stands behind a numeral does not go on with it. -/
def EndsNumeral (rest : List Char) : Prop :=
  ∀ c ∈ rest.head?, isDigit c = false ∧ c ≠ '.' ∧ c ≠ 'e' ∧ c ≠ 'E'

theorem takeWhile_digits (hdigits : ∀ c ∈ digits, isDigit c = true)
    (hrest : ∀ c ∈ rest.head?, isDigit c = false) :
    (digits ++ rest).takeWhile isDigit = digits ∧ (digits ++ rest).dropWhile isDigit = rest := by
  rw [List.takeWhile_append_of_pos hdigits, List.dropWhile_append_of_pos hdigits]
  cases rest with
  | nil => simp
  | cons c rest =>
    have hc : isDigit c = false := hrest c rfl
    simp [hc]

theorem digits_takeWhile (h : (cs.takeWhile isDigit).isEmpty = false) :
    Digits (cs.takeWhile isDigit) := by
  refine ⟨List.isEmpty_eq_false_iff.mp h, ?_⟩
  exact List.all_eq_true.mp List.all_takeWhile

theorem readFraction_sound (h : readFraction cs = some (digits, rest)) :
    ∃ text, DenotesFraction text digits ∧ cs = text ++ rest := by
  unfold readFraction at h
  split at h
  · dsimp only at h
    split_ifs at h with hempty
    cases h
    refine ⟨_, .present (digits_takeWhile (by simpa using hempty)), ?_⟩
    rw [List.cons_append, List.takeWhile_append_dropWhile]
  · cases h
    exact ⟨[], .absent, rfl⟩

theorem DenotesFraction.read (h : DenotesFraction text digits)
    (hrest : ∀ c ∈ rest.head?, isDigit c = false ∧ c ≠ '.') :
    readFraction (text ++ rest) = some (digits, rest) := by
  cases h with
  | absent =>
    unfold readFraction
    split
    · exact absurd rfl (hrest '.' (by simp_all)).2
    · rfl
  | present h =>
    obtain ⟨htake, hdrop⟩ := takeWhile_digits h.2 fun c hc => (hrest c hc).1
    simp [readFraction, htake, hdrop, h.1]

theorem readExponentDigits_sound (h : readExponentDigits negative cs = some (power, rest)) :
    ∃ digits, Digits digits ∧ power = some (negative, digits) ∧ cs = digits ++ rest := by
  unfold readExponentDigits at h
  dsimp only at h
  split_ifs at h with hempty
  cases h
  exact ⟨_, digits_takeWhile (by simpa using hempty), rfl, List.takeWhile_append_dropWhile.symm⟩

theorem readExponent_sound (h : readExponent cs = some (power, rest)) :
    ∃ text, DenotesExponent text power ∧ cs = text ++ rest := by
  unfold readExponent at h
  split at h
  case h_7 =>
    cases h
    exact ⟨[], .absent, rfl⟩
  all_goals
    obtain ⟨digits, hdigits, rfl, rfl⟩ := readExponentDigits_sound h
  · exact ⟨_, .minus (.inl rfl) hdigits, rfl⟩
  · exact ⟨_, .minus (.inr rfl) hdigits, rfl⟩
  · exact ⟨_, .plus (.inl rfl) hdigits, rfl⟩
  · exact ⟨_, .plus (.inr rfl) hdigits, rfl⟩
  · exact ⟨_, .bare (.inl rfl) hdigits, rfl⟩
  · exact ⟨_, .bare (.inr rfl) hdigits, rfl⟩

theorem readExponentDigits_append (h : Digits digits) (hrest : EndsNumeral rest) :
    readExponentDigits negative (digits ++ rest) = some (some (negative, digits), rest) := by
  obtain ⟨htake, hdrop⟩ := takeWhile_digits h.2 fun c hc => (hrest c hc).1
  have hne := h.1
  simp [readExponentDigits, htake, hdrop, hne]

/-- An exponent without a sign starts with its digits. -/
theorem readExponent_bare (he : e = 'e' ∨ e = 'E') (h : Digits digits) :
    readExponent (e :: (digits ++ rest)) = readExponentDigits false (digits ++ rest) := by
  obtain ⟨x, more, rfl⟩ := List.exists_cons_of_ne_nil h.1
  have hx : isDigit x = true := h.2 x List.mem_cons_self
  have hminus : x ≠ '-' := ne_of_isDigit hx rfl
  have hplus : x ≠ '+' := ne_of_isDigit hx rfl
  rcases he with rfl | rfl <;> simp [readExponent, hminus, hplus]

theorem DenotesExponent.read (h : DenotesExponent text power) (hrest : EndsNumeral rest) :
    readExponent (text ++ rest) = some (power, rest) := by
  cases h with
  | absent =>
    unfold readExponent
    split
    case h_7 => rfl
    all_goals
      have hhead := hrest _ (congrArg List.head? ‹_›)
      simp at hhead
  | bare he h =>
    rw [List.cons_append, readExponent_bare he h]
    exact readExponentDigits_append h hrest
  | plus he h =>
    rcases he with rfl | rfl
    · exact readExponentDigits_append h hrest
    · exact readExponentDigits_append h hrest
  | minus he h =>
    rcases he with rfl | rfl
    · exact readExponentDigits_append h hrest
    · exact readExponentDigits_append h hrest

theorem DenotesExponent.head (h : DenotesExponent text power) (hrest : EndsNumeral rest) :
    ∀ c ∈ (text ++ rest).head?, isDigit c = false ∧ c ≠ '.' := by
  cases h with
  | absent => exact fun c hc => ⟨(hrest c hc).1, (hrest c hc).2.1⟩
  | bare he _ | plus he _ | minus he _ => rcases he with rfl | rfl <;> simp <;> decide

theorem DenotesFraction.head (h : DenotesFraction text digits)
    (hrest : ∀ c ∈ rest.head?, isDigit c = false ∧ c ≠ '.') :
    ∀ c ∈ (text ++ rest).head?, isDigit c = false := by
  cases h with
  | absent => exact fun c hc => (hrest c hc).1
  | present _ => simp; decide

theorem readNumeral_sound (h : readNumeral negative cs = some (numeral, rest)) :
    numeral.negative = negative ∧ ∃ text, DenotesUnsigned text numeral ∧ cs = text ++ rest := by
  unfold readNumeral at h
  dsimp only at h
  split_ifs at h with hwrong
  · simp at h
  · simp only [Option.bind_eq_bind, Option.bind_eq_some_iff, Option.some.injEq, Prod.mk.injEq,
      Prod.exists] at h
    obtain ⟨digits, middle, hdigits, power, rest, hpower, rfl, rfl⟩ := h
    obtain ⟨fraction, hfraction, hmiddle⟩ := readFraction_sound hdigits
    obtain ⟨exponent, hexponent, rfl⟩ := readExponent_sound hpower
    rw [Bool.or_eq_true, not_or, Bool.not_eq_true, Bool.and_eq_true, beq_iff_eq, bne_iff_ne,
      not_and, not_not] at hwrong
    refine ⟨rfl, _, .mk (digits_takeWhile hwrong.1) hwrong.2 hfraction hexponent, ?_⟩
    rw [List.append_assoc, List.append_assoc, ← hmiddle, List.takeWhile_append_dropWhile]

theorem DenotesUnsigned.read (h : DenotesUnsigned text numeral) (hrest : EndsNumeral rest) :
    readNumeral numeral.negative (text ++ rest) = some (numeral, rest) := by
  obtain ⟨hwhole, hzero, hfraction, hexponent⟩ := h
  rename_i negative whole fraction digits exponent power
  have hbehind := hexponent.head hrest
  obtain ⟨htake, hdrop⟩ := takeWhile_digits hwhole.2 (hfraction.head hbehind)
  have hright : (whole.isEmpty || (whole.head? == some '0' && whole.length != 1)) = false := by
    rw [Bool.or_eq_false_iff, List.isEmpty_eq_false_iff]
    refine ⟨hwhole.1, ?_⟩
    by_cases hhead : whole.head? = some '0'
    · simp [hzero hhead]
    · simp [hhead]
  rw [List.append_assoc, List.append_assoc, readNumeral, htake, hdrop, hright]
  simp [hfraction.read hbehind, hexponent.read hrest]

end LogFollow.Json
