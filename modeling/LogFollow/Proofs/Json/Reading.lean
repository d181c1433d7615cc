import LogFollow.Proofs.Json.Grammar

/-!
# Reading follows the grammar

A text is read as a tree exactly when it denotes this tree. The reader stops where a value ends, so
what stands behind the value must not go on with a numeral; and as many steps as the value has
characters are enough for it.
-/

namespace LogFollow.Json
set_option autoImplicit false

open Number

variable {c : Char} {fuel : Nat} {cs text before key back after rest : List Char}
  {pieces : List Piece} {raw : Raw} {items : List Raw} {entries : List (List Piece × Raw)} {s : String}

/-! Blanks -/

theorem isSpace_iff : isSpace c = true ↔ c = ' ' ∨ c = '\n' ∨ c = '\t' ∨ c = '\r' := by
  simp [isSpace, or_assoc]

theorem skipSpace_sound (h : skipSpace cs = text) : ∃ before, Blanks before ∧ cs = before ++ text := by
  refine ⟨cs.takeWhile isSpace, ?_, ?_⟩
  · intro c hc
    exact isSpace_iff.mp (List.all_eq_true.mp List.all_takeWhile c hc)
  · rw [← h, skipSpace, List.takeWhile_append_dropWhile]

theorem skipSpace_blanks (h : Blanks before) (cs : List Char) :
    skipSpace (before ++ cs) = skipSpace cs :=
  List.dropWhile_append_of_pos fun c hc => isSpace_iff.mpr (h c hc)

theorem readRaw_blanks (h : Blanks before) (fuel : Nat) (cs : List Char) :
    readRaw fuel (before ++ cs) = readRaw fuel cs := by
  cases fuel with
  | zero => rfl
  | succ fuel => rw [readRaw, readRaw, skipSpace_blanks h]

theorem endsNumeral_blanks (h : Blanks after) (hrest : EndsNumeral rest) :
    EndsNumeral (after ++ rest) := by
  cases after with
  | nil => exact hrest
  | cons x after =>
    intro c hc
    obtain rfl : x = c := by simpa using hc
    rcases h x List.mem_cons_self with rfl | rfl | rfl | rfl <;> decide

theorem endsNumeral_nil : EndsNumeral [] := by simp [EndsNumeral]

theorem endsNumeral_cons (h : c ∈ [',', ']', '\x7d']) (rest : List Char) :
    EndsNumeral (c :: rest) := by
  intro x hx
  obtain rfl : c = x := by simpa using hx
  simp only [List.mem_cons, List.not_mem_nil, or_false] at h
  rcases h with rfl | rfl | rfl <;> decide

mutual

theorem readRaw_sound : ∀ {fuel : Nat} {cs : List Char} {raw : Raw} {rest : List Char},
    readRaw fuel cs = some (raw, rest) →
      ∃ before text, Blanks before ∧ Denotes text raw ∧ cs = before ++ text ++ rest
  | 0, _, _, _, h => by cases h
  | fuel + 1, cs, raw, rest, h => by
    obtain ⟨before, hbefore, hcs⟩ := skipSpace_sound (rfl : skipSpace cs = skipSpace cs)
    suffices hmain : ∃ text, Denotes text raw ∧ skipSpace cs = text ++ rest by
      obtain ⟨text, htext, hskip⟩ := hmain
      exact ⟨before, text, hbefore, htext, by rw [List.append_assoc, ← hskip, ← hcs]⟩
    unfold readRaw at h
    split at h
    case h_1 heq =>
      cases h
      exact ⟨_, .null, heq⟩
    case h_2 heq =>
      cases h
      exact ⟨_, .boolTrue, heq⟩
    case h_3 heq =>
      cases h
      exact ⟨_, .boolFalse, heq⟩
    case h_4 heq =>
      simp only [Option.bind_eq_bind, Option.bind_eq_some_iff, Option.some.injEq, Prod.mk.injEq,
        Prod.exists] at h
      obtain ⟨pieces, rest, hread, rfl, rfl⟩ := h
      obtain ⟨text, htext, rfl⟩ := readPieces_sound hread
      exact ⟨_, .string htext, by simpa using heq⟩
    case h_5 heq =>
      split at h
      · rename_i hclosed
        cases h
        obtain ⟨blank, hblank, rfl⟩ := skipSpace_sound hclosed
        exact ⟨_, .noItem hblank, by simpa using heq⟩
      · simp only [Option.bind_eq_bind, Option.bind_eq_some_iff, Option.some.injEq, Prod.mk.injEq,
          Prod.exists] at h
        obtain ⟨items, rest, hread, rfl, rfl⟩ := h
        obtain ⟨text, htext, rfl⟩ := readItems_sound hread
        exact ⟨_, .array htext, by simpa using heq⟩
    case h_6 heq =>
      split at h
      · rename_i hclosed
        cases h
        obtain ⟨blank, hblank, rfl⟩ := skipSpace_sound hclosed
        exact ⟨_, .noEntry hblank, by simpa using heq⟩
      · simp only [Option.bind_eq_bind, Option.bind_eq_some_iff, Option.some.injEq, Prod.mk.injEq,
          Prod.exists] at h
        obtain ⟨entries, rest, hread, rfl, rfl⟩ := h
        obtain ⟨text, htext, rfl⟩ := readEntries_sound hread
        exact ⟨_, .object htext, by simpa using heq⟩
    case h_7 heq =>
      simp only [Option.bind_eq_bind, Option.bind_eq_some_iff, Option.some.injEq, Prod.mk.injEq,
        Prod.exists] at h
      obtain ⟨n, rest, hread, rfl, rfl⟩ := h
      obtain ⟨hsign, text, htext, rfl⟩ := readNumeral_sound hread
      exact ⟨_, .negative htext hsign, heq⟩
    case h_8 =>
      simp only [Option.bind_eq_bind, Option.bind_eq_some_iff, Option.some.injEq, Prod.mk.injEq,
        Prod.exists] at h
      obtain ⟨n, rest, hread, rfl, rfl⟩ := h
      obtain ⟨hsign, text, htext, hskip⟩ := readNumeral_sound hread
      exact ⟨_, .positive htext hsign, hskip⟩

theorem readItems_sound : ∀ {fuel : Nat} {cs : List Char} {items : List Raw} {rest : List Char},
    readItems fuel cs = some (items, rest) →
      ∃ text, DenotesItems text items ∧ cs = text ++ ']' :: rest
  | 0, _, _, _, h => by cases h
  | fuel + 1, cs, items, rest, h => by
    simp only [readItems, Option.bind_eq_bind, Option.bind_eq_some_iff, Prod.exists] at h
    obtain ⟨item, middle, hitem, h⟩ := h
    obtain ⟨before, text, hbefore, htext, rfl⟩ := readRaw_sound hitem
    split at h
    · rename_i hclosed
      cases h
      obtain ⟨after, hafter, rfl⟩ := skipSpace_sound hclosed
      exact ⟨_, .last (.mk hbefore htext hafter), by simp⟩
    · rename_i hcomma
      obtain ⟨after, hafter, rfl⟩ := skipSpace_sound hcomma
      simp only [Option.bind_eq_some_iff, Option.some.injEq, Prod.mk.injEq, Prod.exists] at h
      obtain ⟨items, rest, hitems, rfl, rfl⟩ := h
      obtain ⟨others, hothers, rfl⟩ := readItems_sound hitems
      exact ⟨_, .more (.mk hbefore htext hafter) hothers, by simp⟩
    · cases h

theorem readEntries_sound : ∀ {fuel : Nat} {cs : List Char} {entries : List (List Piece × Raw)}
    {rest : List Char}, readEntries fuel cs = some (entries, rest) →
      ∃ text, DenotesEntries text entries ∧ cs = text ++ '\x7d' :: rest
  | 0, _, _, _, h => by cases h
  | fuel + 1, cs, entries, rest, h => by
    rw [readEntries] at h
    split at h
    · rename_i hquote
      obtain ⟨front, hfront, rfl⟩ := skipSpace_sound hquote
      simp only [Option.bind_eq_bind, Option.bind_eq_some_iff, Prod.exists] at h
      obtain ⟨pieces, middle, hread, h⟩ := h
      obtain ⟨key, hkey, rfl⟩ := readPieces_sound hread
      split at h
      · rename_i hcolon
        obtain ⟨back, hback, rfl⟩ := skipSpace_sound hcolon
        simp only [Option.bind_eq_some_iff, Prod.exists] at h
        obtain ⟨value, middle, hvalue, h⟩ := h
        obtain ⟨before, text, hbefore, htext, rfl⟩ := readRaw_sound hvalue
        split at h
        · rename_i hclosed
          cases h
          obtain ⟨after, hafter, rfl⟩ := skipSpace_sound hclosed
          exact ⟨_, .last (.mk hfront hkey hback (.mk hbefore htext hafter)), by simp⟩
        · rename_i hcomma
          obtain ⟨after, hafter, rfl⟩ := skipSpace_sound hcomma
          simp only [Option.bind_eq_some_iff, Option.some.injEq, Prod.mk.injEq, Prod.exists] at h
          obtain ⟨entries, rest, hentries, rfl, rfl⟩ := h
          obtain ⟨others, hothers, rfl⟩ := readEntries_sound hentries
          exact ⟨_, .more (.mk hfront hkey hback (.mk hbefore htext hafter)) hothers, by simp⟩
        · cases h
      · cases h
    · cases h

end

/-! What the grammar derives is read -/

theorem readItems_last (hafter : Blanks after)
    (h : readRaw fuel cs = some (raw, after ++ ']' :: rest)) :
    readItems (fuel + 1) cs = some ([raw], rest) := by
  have hskip : skipSpace (after ++ ']' :: rest) = ']' :: rest := skipSpace_blanks hafter _
  simp [readItems, h, hskip]

theorem readItems_more (hafter : Blanks after)
    (h : readRaw fuel cs = some (raw, after ++ ',' :: text))
    (hmore : readItems fuel text = some (items, rest)) :
    readItems (fuel + 1) cs = some (raw :: items, rest) := by
  have hskip : skipSpace (after ++ ',' :: text) = ',' :: text := skipSpace_blanks hafter _
  simp [readItems, h, hskip, hmore]

theorem readEntries_spaced (hbefore : Blanks before) (hkey : DenotesPieces key pieces)
    (hback : Blanks back) (fuel : Nat) (cs : List Char) :
    readEntries (fuel + 1) (before ++ '"' :: key ++ '"' :: back ++ ':' :: cs) =
      (readRaw fuel cs).bind fun (raw, rest) =>
        match skipSpace rest with
        | '\x7d' :: rest => some ([(pieces, raw)], rest)
        | ',' :: rest =>
          (readEntries fuel rest).bind fun (named, rest) => some ((pieces, raw) :: named, rest)
        | _ => none := by
  rw [List.append_assoc, List.append_assoc, List.cons_append, List.cons_append]
  exact readEntries_entry (skipSpace_blanks hbefore _) (hkey.read _) (skipSpace_blanks hback _) fuel

theorem readEntries_last (hbefore : Blanks before) (hkey : DenotesPieces key pieces)
    (hback : Blanks back) (hafter : Blanks after)
    (h : readRaw fuel cs = some (raw, after ++ '\x7d' :: rest)) :
    readEntries (fuel + 1) (before ++ '"' :: key ++ '"' :: back ++ ':' :: cs) =
      some ([(pieces, raw)], rest) := by
  have hskip : skipSpace (after ++ '\x7d' :: rest) = '\x7d' :: rest := skipSpace_blanks hafter _
  rw [readEntries_spaced hbefore hkey hback, h]
  simp only [Option.bind_some, hskip]

theorem readEntries_more (hbefore : Blanks before) (hkey : DenotesPieces key pieces)
    (hback : Blanks back) (hafter : Blanks after)
    (h : readRaw fuel cs = some (raw, after ++ ',' :: text))
    (hmore : readEntries fuel text = some (entries, rest)) :
    readEntries (fuel + 1) (before ++ '"' :: key ++ '"' :: back ++ ':' :: cs) =
      some ((pieces, raw) :: entries, rest) := by
  have hskip : skipSpace (after ++ ',' :: text) = ',' :: text := skipSpace_blanks hafter _
  rw [readEntries_spaced hbefore hkey hback, h]
  simp only [Option.bind_some, hskip, hmore]

theorem DenotesUnsigned.head {n : Numeral} (h : DenotesUnsigned text n) :
    ∃ x more, text = x :: more ∧ isDigit x = true := by
  obtain ⟨hwhole, -, -, -⟩ := h
  obtain ⟨x, more, rfl⟩ := List.exists_cons_of_ne_nil hwhole.1
  exact ⟨x, _, rfl, hwhole.2 x List.mem_cons_self⟩

mutual

theorem Denotes.read : ∀ {text : List Char} {raw : Raw}, Denotes text raw →
    ∀ (fuel : Nat) (rest : List Char), text.length ≤ fuel → EndsNumeral rest →
      readRaw (fuel + 1) (text ++ rest) = some (raw, rest)
  | _, _, .null, _, _, _, _ => rfl
  | _, _, .boolTrue, _, _, _, _ => rfl
  | _, _, .boolFalse, _, _, _, _ => rfl
  | _, _, .positive h hsign, fuel, rest, _, hrest => by
    have hread := h.read hrest
    obtain ⟨x, more, rfl, hx⟩ := h.head
    rw [hsign] at hread
    rw [List.cons_append, readRaw_digit hx, ← List.cons_append, hread]
    rfl
  | _, _, .negative h hsign, fuel, rest, _, hrest => by
    have hread := h.read hrest
    rw [hsign] at hread
    rw [List.cons_append, readRaw, skipSpace_cons (by decide)]
    simp [hread]
  | _, _, .string h, fuel, rest, _, _ => by
    have hread := h.read rest
    rw [List.append_assoc, List.cons_append, readRaw, skipSpace_cons (by decide)]
    simp [hread]
  | _, _, .noItem h, fuel, rest, _, _ => by
    have hskip : skipSpace _ = ']' :: rest := (skipSpace_blanks h (']' :: rest)).trans rfl
    rw [List.append_assoc, List.cons_append, readRaw, skipSpace_cons (by decide)]
    simp [hskip]
  | _, _, @Denotes.array text _ h, fuel, rest, hfuel, _ => by
    have hlen : text.length + 2 ≤ fuel := by
      simp only [List.length_append, List.length_cons, List.length_nil] at hfuel
      omega
    obtain ⟨fuel, rfl⟩ := Nat.exists_eq_add_one_of_ne_zero (by omega : fuel ≠ 0)
    have hread := h.read fuel rest (by omega)
    rw [List.append_assoc, List.cons_append, readRaw, skipSpace_cons (by decide)]
    simp only [List.singleton_append, hread]
    split
    · rename_i hclosed
      rw [readItems_bracket hclosed] at hread
      cases hread
    · rfl
  | _, _, .noEntry h, fuel, rest, _, _ => by
    have hskip : skipSpace _ = '\x7d' :: rest := (skipSpace_blanks h ('\x7d' :: rest)).trans rfl
    rw [List.append_assoc, List.cons_append, readRaw, skipSpace_cons (by decide)]
    simp [hskip]
  | _, _, @Denotes.object text _ h, fuel, rest, hfuel, _ => by
    have hlen : text.length + 2 ≤ fuel := by
      simp only [List.length_append, List.length_cons, List.length_nil] at hfuel
      omega
    obtain ⟨fuel, rfl⟩ := Nat.exists_eq_add_one_of_ne_zero (by omega : fuel ≠ 0)
    have hread := h.read fuel rest (by omega)
    rw [List.append_assoc, List.cons_append, readRaw, skipSpace_cons (by decide)]
    simp only [List.singleton_append, hread]
    split
    · rename_i hclosed
      rw [readEntries_brace hclosed] at hread
      cases hread
    · rfl

/-- The blanks behind a value are left for what comes next. -/
theorem DenotesPadded.read : ∀ {text : List Char} {raw : Raw}, DenotesPadded text raw →
    ∃ after, Blanks after ∧ ∀ (fuel : Nat) (rest : List Char), text.length ≤ fuel →
      EndsNumeral rest → readRaw (fuel + 1) (text ++ rest) = some (raw, after ++ rest)
  | _, _, @DenotesPadded.mk before text after _ hbefore h hafter => by
    refine ⟨after, hafter, ?_⟩
    intro fuel rest hfuel hrest
    have hlen : text.length ≤ fuel := by
      simp only [List.length_append] at hfuel
      omega
    rw [List.append_assoc, List.append_assoc, readRaw_blanks hbefore]
    exact h.read fuel _ hlen (endsNumeral_blanks hafter hrest)

theorem DenotesItems.read : ∀ {text : List Char} {items : List Raw}, DenotesItems text items →
    ∀ (fuel : Nat) (rest : List Char), text.length + 1 ≤ fuel →
      readItems (fuel + 1) (text ++ ']' :: rest) = some (items, rest)
  | text, _, .last h, fuel, rest, hfuel => by
    obtain ⟨fuel, rfl⟩ := Nat.exists_eq_add_one_of_ne_zero (by omega : fuel ≠ 0)
    obtain ⟨after, hafter, hread⟩ := h.read
    exact readItems_last hafter (hread fuel _ (by omega) (endsNumeral_cons (by simp) _))
  | _, _, @DenotesItems.more text others _ _ h hothers, fuel, rest, hfuel => by
    rw [List.length_append, List.length_cons] at hfuel
    obtain ⟨fuel, rfl⟩ := Nat.exists_eq_add_one_of_ne_zero (by omega : fuel ≠ 0)
    obtain ⟨after, hafter, hread⟩ := h.read
    have hmore := hothers.read fuel rest (by omega)
    rw [List.append_assoc, List.cons_append]
    exact readItems_more hafter (hread fuel _ (by omega) (endsNumeral_cons (by simp) _)) hmore

theorem DenotesEntries.read : ∀ {text : List Char} {entries : List (List Piece × Raw)},
    DenotesEntries text entries → ∀ (fuel : Nat) (rest : List Char), text.length + 1 ≤ fuel →
      readEntries (fuel + 1) (text ++ '\x7d' :: rest) = some (entries, rest)
  | _, _, .last (.mk hbefore hkey hback h), fuel, rest, hfuel => by
    simp only [List.length_append, List.length_cons] at hfuel
    obtain ⟨fuel, rfl⟩ := Nat.exists_eq_add_one_of_ne_zero (by omega : fuel ≠ 0)
    obtain ⟨after, hafter, hread⟩ := h.read
    rw [List.append_assoc, List.cons_append]
    exact readEntries_last hbefore hkey hback hafter
      (hread fuel _ (by omega) (endsNumeral_cons (by simp) _))
  | _, _, .more (.mk hbefore hkey hback h) hothers, fuel, rest, hfuel => by
    simp only [List.length_append, List.length_cons] at hfuel
    obtain ⟨fuel, rfl⟩ := Nat.exists_eq_add_one_of_ne_zero (by omega : fuel ≠ 0)
    obtain ⟨after, hafter, hread⟩ := h.read
    have hmore := hothers.read fuel rest (by omega)
    rw [List.append_assoc, List.append_assoc, List.cons_append, List.cons_append]
    exact readEntries_more hbefore hkey hback hafter
      (hread fuel _ (by omega) (endsNumeral_cons (by simp) _)) hmore

end

/-- A text is read as a tree exactly if the grammar derives the tree from it. -/
theorem Raw.read_eq_some_iff : Raw.read s = some raw ↔ Spelled s raw := by
  constructor
  · intro h
    simp only [Raw.read, Option.bind_eq_bind, Option.bind_eq_some_iff, Prod.exists] at h
    obtain ⟨found, rest, hread, h⟩ := h
    split_ifs at h with hrest
    cases h
    obtain ⟨before, text, hbefore, htext, hcs⟩ := readRaw_sound hread
    obtain ⟨after, hafter, rfl⟩ := skipSpace_sound (List.isEmpty_iff.mp hrest)
    rw [Spelled, hcs, List.append_nil]
    exact .mk hbefore htext hafter
  · intro h
    obtain ⟨after, hafter, hread⟩ := h.read
    have hskip : skipSpace after = [] := by
      rw [← List.append_nil after, skipSpace_blanks hafter]
      rfl
    have hraw := hread (2 * s.toList.length + 1) [] (by omega) endsNumeral_nil
    rw [List.append_nil, List.append_nil] at hraw
    simp [Raw.read, hraw, hskip]

end LogFollow.Json
