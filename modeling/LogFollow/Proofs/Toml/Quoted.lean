import LogFollow.Toml.Printer
import Mathlib.Data.List.Basic

/-!
# Written texts are read back

`Spells` says how one character may be written on one line between double quotes, and `Body` how a
text may be written between three quotes, where no more than two quotes stand in a row. A reader
takes everything that is written so, and a text in any of its six forms is written so.
-/

namespace LogFollow.Toml
set_option autoImplicit false

/-- A character as it may be written on one line between double quotes. -/
inductive Spells : Char → List Char → Prop
  | plain {c : Char} (ht : isTextChar c = true) (hq : c ≠ '"') (hb : c ≠ '\\') : Spells c [c]
  | escape {c : Char} {code : List Char} (he : ∀ rest, escape? (code ++ rest) = some (c, rest)) :
      Spells c ('\\' :: code)

/-- A character other than the quote as it may be written between three quotes. -/
inductive LineSpells (q : Char) : Char → List Char → Prop
  | newline : LineSpells q '\n' ['\n']
  | literal {c : Char} (hq : q = '\'') (hc : c ≠ q) (ht : isTextChar c = true) :
      LineSpells q c [c]
  | basic {c : Char} {written : List Char} (hq : q = '"') (hs : Spells c written) :
      LineSpells q c written

/-- A text as it may be written between three quotes, behind a number of quotes that belong to it. -/
inductive Body (q : Char) : Nat → List Char → List Char → Prop
  | done {run : Nat} (hr : run ≤ 2) : Body q run [] []
  | quote {run : Nat} {raw text : List Char} (hr : run < 2) (hb : Body q (run + 1) raw text) :
      Body q run (q :: raw) (q :: text)
  | char {run : Nat} {c : Char} {written raw text : List Char} (hr : run ≤ 2)
      (hc : LineSpells q c written) (hb : Body q 0 raw text) :
      Body q run (written ++ raw) (c :: text)

variable {q c : Char} {cs raw text written rest : List Char} {f : Char → List Char} {run : Nat}

theorem dropNewline_of_ne (hn : c ≠ '\n') (hr : c ≠ '\r') : dropNewline (c :: cs) = none := by
  unfold dropNewline
  split
  · exact absurd (List.cons.inj ‹_›).1 hn
  · exact absurd (List.cons.inj ‹_›).1 hr
  · rfl

theorem ne_newline_of_isTextChar (ht : isTextChar c = true) : c ≠ '\n' ∧ c ≠ '\r' := by
  constructor
  all_goals
    rintro rfl
    exact absurd ht (by decide)

theorem Spells.exists_cons (h : Spells c written) :
    ∃ x more, written = x :: more ∧ x ≠ '"' ∧ x ≠ '\n' ∧ x ≠ '\r' := by
  cases h with
  | plain ht hq hb => exact ⟨c, [], rfl, hq, ne_newline_of_isTextChar ht⟩
  | escape he => exact ⟨'\\', _, rfl, by decide, by decide, by decide⟩

theorem LineSpells.exists_cons (hq : q = '"' ∨ q = '\'') (h : LineSpells q c written) :
    ∃ x more, written = x :: more ∧ x ≠ q := by
  cases h with
  | newline =>
    refine ⟨'\n', [], rfl, ?_⟩
    rcases hq with rfl | rfl <;> decide
  | literal hl hc ht => exact ⟨c, [], rfl, hc⟩
  | basic hb hs =>
    obtain ⟨x, more, rfl, hx, -⟩ := hs.exists_cons
    exact ⟨x, more, rfl, hb ▸ hx⟩

/-- Behind a backslash stands the code of an escape, not the end of the line. -/
theorem dropNewline_of_escape {p : Char × List Char} (h : escape? cs = some p) :
    dropNewline (cs.dropWhile fun c => c == ' ' || c == '\t') = none := by
  cases cs with
  | nil => cases h
  | cons x more =>
    by_cases hblank : (x == ' ' || x == '\t') = true
    · rw [Bool.or_eq_true, beq_iff_eq, beq_iff_eq] at hblank
      rcases hblank with rfl | rfl <;> cases h
    · rw [List.dropWhile_cons, if_neg hblank]
      apply dropNewline_of_ne
      all_goals
        rintro rfl
        simp [escape?] at h

theorem length_le_flatMap (h : ∀ c ∈ cs, f c ≠ []) : cs.length ≤ (cs.flatMap f).length := by
  induction cs with
  | nil => simp
  | cons c cs ih =>
    rw [List.forall_mem_cons] at h
    have hpos := List.length_pos_of_ne_nil h.1
    have hrest := ih h.2
    rw [List.flatMap_cons, List.length_append, List.length_cons]
    omega

theorem readBasic_spelled (hf : ∀ c ∈ cs, Spells c (f c)) {fuel : Nat} (hfuel : cs.length < fuel) :
    readBasic fuel (cs.flatMap f ++ '"' :: rest) = some (cs, rest) := by
  induction cs generalizing fuel with
  | nil =>
    obtain ⟨fuel, rfl⟩ := Nat.exists_eq_add_one_of_ne_zero (Nat.ne_of_gt hfuel)
    rfl
  | cons c cs ih =>
    rw [List.forall_mem_cons] at hf
    obtain ⟨fuel, rfl⟩ := Nat.exists_eq_add_one_of_ne_zero (Nat.ne_of_gt (Nat.zero_lt_of_lt hfuel))
    have hrest := ih hf.2 (Nat.lt_of_succ_lt_succ hfuel)
    have hc := hf.1
    rw [List.flatMap_cons, List.append_assoc]
    generalize f c = written at hc
    cases hc with
    | plain ht hq hb => simp [readBasic, ht, hrest]
    | escape he => simp [readBasic, he, hrest]

theorem readBasic_written (hf : ∀ c ∈ cs, Spells c (f c)) (rest : List Char) :
    readBasic ((cs.flatMap f ++ '"' :: rest).length + 1) (cs.flatMap f ++ '"' :: rest) =
      some (cs, rest) := by
  apply readBasic_spelled hf
  have hle : cs.length ≤ (cs.flatMap f).length := by
    apply length_le_flatMap
    intro c hc
    obtain ⟨x, more, hwritten, -⟩ := (hf c hc).exists_cons
    rw [hwritten]
    exact List.cons_ne_nil x more
  rw [List.length_append]
  omega

theorem readLiteral_written (ht : ∀ c ∈ cs, isTextChar c = true) (hq : '\'' ∉ cs)
    (rest : List Char) : readLiteral (cs ++ '\'' :: rest) = some (cs, rest) := by
  induction cs with
  | nil => rfl
  | cons c cs ih =>
    rw [List.forall_mem_cons] at ht
    rw [List.mem_cons, not_or] at hq
    have hc : c ≠ '\'' := Ne.symm hq.1
    simp [readLiteral, ht.1, ih ht.2 hq.2]

theorem closing_of_run {j : Nat} (hj : j ≤ 2) (hrest : rest.head? ≠ some q) :
    closing q (List.replicate j q ++ q :: q :: q :: rest) = some (List.replicate j q, rest) := by
  have htake : rest.takeWhile (· == q) = [] := by
    cases rest with
    | nil => rfl
    | cons x more =>
      have hx : x ≠ q := by simpa using hrest
      simp [hx]
  have hcase : j = 0 ∨ j = 1 ∨ j = 2 := by omega
  rcases hcase with rfl | rfl | rfl <;> simp [closing, List.replicate, htake]

theorem closing_of_short (h : (cs.takeWhile (· == q)).length ≤ 2) : closing q cs = none := by
  rw [closing, if_pos (by omega)]

/-- What is left of a text is nothing but quotes, or its first quotes are too few to close it. -/
theorem Body.leading (hq : q = '"' ∨ q = '\'') (hb : Body q run raw text)
    (rest : List Char) :
    (∃ j, run + j ≤ 2 ∧ raw = List.replicate j q ∧ text = List.replicate j q) ∨
      run + ((raw ++ rest).takeWhile (· == q)).length ≤ 2 := by
  induction hb with
  | done hr => exact .inl ⟨0, hr, rfl, rfl⟩
  | quote hr hb ih =>
    rcases ih with ⟨j, hj, rfl, rfl⟩ | hshort
    · exact .inl ⟨j + 1, by omega, rfl, rfl⟩
    · refine .inr ?_
      rw [List.cons_append, List.takeWhile_cons, if_pos (beq_self_eq_true q), List.length_cons]
      omega
  | char hr hc hb ih =>
    obtain ⟨x, more, rfl, hx⟩ := hc.exists_cons hq
    refine .inr ?_
    simpa [hx] using hr

theorem readLines_closing {fuel : Nat} {p : List Char × List Char}
    (h : closing q (q :: cs) = some p) : readLines q (fuel + 1) (q :: cs) = some p := by
  simp [readLines, h]

theorem readLines_char (hq : q = '"' ∨ q = '\'') {fuel : Nat} (hc : LineSpells q c written)
    (h : readLines q fuel cs = some (text, rest)) :
    readLines q (fuel + 1) (written ++ cs) = some (c :: text, rest) := by
  have hplain : ∀ {c}, isTextChar c = true → dropNewline (c :: cs) = none := by
    intro c ht
    obtain ⟨hn, hr⟩ := ne_newline_of_isTextChar ht
    exact dropNewline_of_ne hn hr
  cases hc with
  | newline => rcases hq with rfl | rfl <;> simp [readLines, dropNewline, h]
  | literal hl hc ht =>
    subst hl
    simp [readLines, hc, hplain ht, ht, h]
  | basic hb hs =>
    subst hb
    cases hs with
    | plain ht hq' hb => simp [readLines, hq', hb, hplain ht, ht, h]
    | escape he => simp [readLines, dropNewline_of_escape (he cs), he, h]

theorem readLines_body (hq : q = '"' ∨ q = '\'') (hrest : rest.head? ≠ some q)
    (hb : Body q run raw text) {fuel : Nat} (hfuel : text.length < fuel) :
    readLines q fuel (raw ++ q :: q :: q :: rest) = some (text, rest) := by
  induction hb generalizing fuel with
  | done hr =>
    obtain ⟨fuel, rfl⟩ := Nat.exists_eq_add_one_of_ne_zero (Nat.ne_of_gt hfuel)
    exact readLines_closing (closing_of_run (Nat.zero_le 2) hrest)
  | @quote run raw text hr hb ih =>
    obtain ⟨fuel, rfl⟩ := Nat.exists_eq_add_one_of_ne_zero (Nat.ne_of_gt (Nat.zero_lt_of_lt hfuel))
    have hleading := (Body.quote hr hb).leading hq (q :: q :: q :: rest)
    rcases hleading with ⟨j, hj, hraw, htext⟩ | hshort
    · have hclosed := closing_of_run (q := q) (show j ≤ 2 by omega) hrest
      rw [← hraw] at hclosed
      rw [htext, ← hraw]
      exact readLines_closing hclosed
    · have hopen : closing q (q :: (raw ++ q :: q :: q :: rest)) = none := by
        apply closing_of_short
        rw [List.cons_append] at hshort
        omega
      simp [readLines, hopen, ih (Nat.lt_of_succ_lt_succ hfuel)]
  | char hr hc hb ih =>
    obtain ⟨fuel, rfl⟩ := Nat.exists_eq_add_one_of_ne_zero (Nat.ne_of_gt (Nat.zero_lt_of_lt hfuel))
    rw [List.append_assoc]
    exact readLines_char hq hc (ih (Nat.lt_of_succ_lt_succ hfuel))

theorem Body.length_le (hq : q = '"' ∨ q = '\'') (hb : Body q run raw text) :
    text.length ≤ raw.length := by
  induction hb with
  | done => exact Nat.le_refl _
  | quote hr hb ih => exact Nat.succ_le_succ ih
  | char hr hc hb ih =>
    obtain ⟨x, more, rfl, -⟩ := hc.exists_cons hq
    rw [List.length_append, List.length_cons, List.length_cons]
    omega

/-- Only a text that starts with a line end is written so that one stands first. -/
theorem Body.dropNewline (hq : q = '"' ∨ q = '\'') (hb : Body q run raw text) (hn : '\n' ∉ text) :
    dropNewline (raw ++ q :: rest) = none := by
  have hquote : q ≠ '\n' ∧ q ≠ '\r' := by rcases hq with rfl | rfl <;> decide
  cases hb with
  | done | quote => exact dropNewline_of_ne hquote.1 hquote.2
  | char hr hc hb =>
    cases hc with
    | newline => simp at hn
    | literal hl hc ht =>
      obtain ⟨hn', hr'⟩ := ne_newline_of_isTextChar ht
      exact dropNewline_of_ne hn' hr'
    | basic hb hs =>
      obtain ⟨x, more, rfl, -, hx, hr⟩ := hs.exists_cons
      exact dropNewline_of_ne hx hr

theorem readBlock_body (hq : q = '"' ∨ q = '\'') (hrest : rest.head? ≠ some q)
    (hb : Body q 0 raw text) :
    readBlock q (lead text ++ (raw ++ q :: q :: q :: rest)) = some (text, rest) := by
  have hread : ∀ cs, cs = raw ++ q :: q :: q :: rest →
      readLines q (cs.length + 1) cs = some (text, rest) := by
    rintro _ rfl
    apply readLines_body hq hrest hb
    have hle := hb.length_le hq
    rw [List.length_append]
    omega
  by_cases hn : '\n' ∈ text
  · have hlead : lead text = ['\n'] := by simp [lead, hn]
    rw [hlead]
    exact hread _ rfl
  · have hlead : lead text = [] := by simp [lead, hn]
    rw [hlead, List.nil_append, readBlock, hb.dropNewline hq hn]
    exact hread _ rfl

theorem isTextChar_of_not_hidden (hh : isHidden c = false) (hn : c ≠ '\n') :
    isTextChar c = true := by
  simp only [isHidden, Bool.or_eq_false_iff, Bool.and_eq_false_iff, decide_eq_false_iff_not,
    bne_eq_false_iff_eq, beq_eq_false_iff_ne, Nat.not_lt] at hh
  simp only [isTextChar, Bool.or_eq_true, beq_iff_eq, Bool.and_eq_true, decide_eq_true_eq,
    bne_iff_ne]
  rcases hh with ⟨(hge | htab) | hline, hne⟩
  · exact .inr ⟨hge, hne⟩
  · exact .inl htab
  · exact absurd hline hn

theorem spells_tabbed (hh : isHidden c = false) (hb : c ≠ '\\') (hq : c ≠ '"') (hn : c ≠ '\n') :
    Spells c (if c == '\t' then ['\\', 't'] else [c]) := by
  by_cases htab : c = '\t'
  · subst htab
    exact .escape fun rest => rfl
  · rw [if_neg (by simpa using htab)]
    exact .plain (isTextChar_of_not_hidden hh hn) hq hb

theorem hexDigitValue_upperHex {d : Nat} (hd : d < 16) :
    hexDigitValue (upperHex d) = d ∧ isDigitOf 16 (upperHex d) = true := by
  have hall : ∀ d : Fin 16, hexDigitValue (upperHex d) = d ∧ isDigitOf 16 (upperHex d) = true := by
    decide
  exact hall ⟨d, hd⟩

theorem codePoint?_upperHex (hc : c.toNat < 256) :
    codePoint? ['0', '0', upperHex (c.toNat / 16), upperHex (c.toNat % 16)] = some c := by
  obtain ⟨hhigh, hhigh'⟩ := hexDigitValue_upperHex (d := c.toNat / 16) (by omega)
  obtain ⟨hlow, hlow'⟩ := hexDigitValue_upperHex (d := c.toNat % 16) (by omega)
  have hzero : hexDigitValue '0' = 0 ∧ isDigitOf 16 '0' = true := by decide
  have hvalue : valueOf 16 ['0', '0', upperHex (c.toNat / 16), upperHex (c.toNat % 16)] =
      c.toNat := by
    simp only [valueOf, List.foldl_cons, List.foldl_nil, hzero.1, hhigh, hlow]
    omega
  have hvalid : c.toNat.isValidChar := c.valid
  simp [codePoint?, hvalue, hhigh', hlow', hzero.2, hvalid, Char.ofNat_toNat]

theorem spells_hidden (hc : c.toNat < 256) :
    Spells c ['\\', 'u', '0', '0', upperHex (c.toNat / 16), upperHex (c.toNat % 16)] := by
  refine .escape fun rest => ?_
  simp [escape?, codePoint?_upperHex hc]

theorem lt_of_isHidden (h : isHidden c = true) : c.toNat < 256 := by
  simp only [isHidden, Bool.or_eq_true, Bool.and_eq_true, decide_eq_true_eq, beq_iff_eq] at h
  omega

theorem spells_escaped {lines : Bool} (hn : lines = true → c ≠ '\n' ∧ c ≠ '"') :
    Spells c (escaped lines c) := by
  unfold escaped
  split_ifs with hb h8 hc hr ht hnl hl hq hh
  · rw [beq_iff_eq.mp hb]
    exact .escape fun rest => rfl
  · rw [beq_iff_eq.mp h8]
    exact .escape fun rest => rfl
  · rw [beq_iff_eq.mp hc]
    exact .escape fun rest => rfl
  · rw [beq_iff_eq.mp hr]
    exact .escape fun rest => rfl
  · rw [beq_iff_eq.mp ht]
    exact .escape fun rest => rfl
  · exact absurd (beq_iff_eq.mp hnl) (hn hl).1
  · rw [beq_iff_eq.mp hnl]
    exact .escape fun rest => rfl
  · rw [Bool.and_eq_true, beq_iff_eq] at hq
    rw [hq.1]
    exact .escape fun rest => rfl
  · exact spells_hidden (lt_of_isHidden hh)
  · have hquote : c ≠ '"' := by
      cases lines with
      | true => exact (hn rfl).2
      | false => simpa using hq
    have hline : c ≠ '\n' := by simpa using hnl
    exact .plain (isTextChar_of_not_hidden (by simpa using hh) hline) hquote (by simpa using hb)

theorem hasTriple_cons (h : hasTriple q (c :: cs) = false) : hasTriple q cs = false := by
  cases cs with
  | nil => rfl
  | cons b cs =>
    cases cs with
    | nil => rfl
    | cons d cs =>
      rw [hasTriple, Bool.or_eq_false_iff] at h
      exact h.2

/-- A text without three quotes in a row, with its other characters written one by one. -/
theorem body_of_no_triple (hf : ∀ c ∈ cs, c ≠ q → LineSpells q c (f c)) (hq : f q = [q])
    (hr : run ≤ 2) (ht : hasTriple q (List.replicate run q ++ cs) = false) :
    Body q run (cs.flatMap f) cs := by
  induction cs generalizing run with
  | nil => exact .done hr
  | cons c cs ih =>
    rw [List.forall_mem_cons] at hf
    rw [List.flatMap_cons]
    by_cases hc : c = q
    · subst hc
      have hlt : run < 2 := by
        by_contra hge
        obtain rfl : run = 2 := by omega
        simp [hasTriple, List.replicate] at ht
      have hnext : List.replicate run c ++ c :: cs = List.replicate (run + 1) c ++ cs := by
        rw [List.replicate_succ', List.append_assoc, List.singleton_append]
      rw [hnext] at ht
      rw [hq]
      exact .quote hlt (ih hf.2 hlt ht)
    · have hrest : hasTriple q cs = false := by
        clear ih
        induction run with
        | zero => exact hasTriple_cons ht
        | succ run ih => exact ih (by omega) (hasTriple_cons ht)
      exact .char hr (hf.1 hc) (ih hf.2 (Nat.zero_le 2) hrest)

/-- Every third quote of a run is escaped. -/
theorem body_escapedLines (hr : run ≤ 2) (cs : List Char) :
    Body '"' run (escapedLines run cs) cs := by
  induction cs generalizing run with
  | nil => exact .done hr
  | cons c cs ih =>
    rw [escapedLines]
    split_ifs with hq hrun
    · rw [beq_iff_eq.mp hq]
      have hquote : Spells '"' ['\\', '"'] := .escape fun rest => rfl
      exact .char hr (.basic rfl hquote) (ih (Nat.zero_le 2))
    · rw [beq_iff_eq.mp hq]
      have hlt : run < 2 := by
        rw [beq_iff_eq] at hrun
        omega
      exact .quote hlt (ih hlt)
    · have hquote : c ≠ '"' := by simpa using hq
      refine .char hr ?_ (ih (Nat.zero_le 2))
      by_cases hn : c = '\n'
      · subst hn
        exact .newline
      · exact .basic rfl (spells_escaped fun _ => ⟨hn, hquote⟩)

/-- A text between double quotes is no text of several lines, as no quote stands first in it. -/
theorem readText_basic (hf : ∀ c ∈ cs, Spells c (f c)) (hrest : rest.head? ≠ some '"') :
    readText ('"' :: (cs.flatMap f ++ '"' :: rest)) = some (cs, rest) := by
  have hread := readBasic_written hf rest
  cases cs with
  | nil =>
    cases rest with
    | nil => exact hread
    | cons x more =>
      have hx : x ≠ '"' := by simpa using hrest
      simpa [readText, hx] using hread
  | cons c cs =>
    obtain ⟨x, more, hwritten, hx, -⟩ := (hf c List.mem_cons_self).exists_cons
    rw [List.flatMap_cons, hwritten] at hread ⊢
    simpa [readText, hx] using hread

theorem readText_literal (ht : ∀ c ∈ cs, isTextChar c = true) (hq : '\'' ∉ cs)
    (hrest : rest.head? ≠ some '\'') :
    readText ('\'' :: (cs ++ '\'' :: rest)) = some (cs, rest) := by
  have hread := readLiteral_written ht hq rest
  cases cs with
  | nil =>
    cases rest with
    | nil => exact hread
    | cons x more =>
      have hx : x ≠ '\'' := by simpa using hrest
      simpa [readText, hx] using hread
  | cons c cs =>
    have hc : c ≠ '\'' := fun h => hq (h ▸ List.mem_cons_self)
    simpa [readText, hc] using hread

theorem readText_block (hq : q = '"' ∨ q = '\'') (hrest : rest.head? ≠ some q)
    (hb : Body q 0 raw text) :
    readText (q :: q :: q :: (lead text ++ (raw ++ q :: q :: q :: rest))) = some (text, rest) := by
  have hread := readBlock_body hq hrest hb
  rcases hq with rfl | rfl <;> exact hread

theorem ne_of_not_mem {x : Char} (h : x ∉ cs) : ∀ c ∈ cs, c ≠ x := by
  rintro c hc rfl
  exact h hc

theorem readText_textChars (cs rest : List Char) :
    readText (textChars cs ++ '\n' :: rest) = some (cs, '\n' :: rest) := by
  have hdouble : ('\n' :: rest).head? ≠ some '"' := by simp
  have hsingle : ('\n' :: rest).head? ≠ some '\'' := by simp
  simp only [textChars, Bool.and_eq_true, Bool.not_eq_true', List.any_eq_false,
    Bool.not_eq_true, List.contains_eq_mem, decide_eq_false_iff_not, decide_eq_true_eq]
  split_ifs with hbasic hliteral hblock hliteralBlock hlines
  · obtain ⟨⟨⟨hh, hb⟩, hq⟩, hn⟩ := hbasic
    have hspelled : ∀ c ∈ cs, Spells c (if c == '\t' then ['\\', 't'] else [c]) := fun c hc =>
      spells_tabbed (hh c hc) (ne_of_not_mem hb c hc) (ne_of_not_mem hq c hc)
        (ne_of_not_mem hn c hc)
    simpa [tabbed] using readText_basic hspelled hdouble
  · obtain ⟨⟨hh, hq⟩, hn⟩ := hliteral
    have hplain : ∀ c ∈ cs, isTextChar c = true := fun c hc =>
      isTextChar_of_not_hidden (hh c hc) (ne_of_not_mem hn c hc)
    simpa using readText_literal hplain hq hsingle
  · obtain ⟨⟨hh, hb⟩, ht⟩ := hblock
    have hbody : Body '"' 0 (tabbed cs) cs := by
      refine body_of_no_triple (fun c hc hq => ?_) rfl (Nat.zero_le 2) ht
      by_cases hn : c = '\n'
      · subst hn
        exact .newline
      · exact .basic rfl (spells_tabbed (hh c hc) (ne_of_not_mem hb c hc) hq hn)
    simpa using readText_block (.inl rfl) hdouble hbody
  · obtain ⟨hh, ht⟩ := hliteralBlock
    have hbody : Body '\'' 0 (cs.flatMap fun c => [c]) cs := by
      refine body_of_no_triple (fun c hc hq => ?_) rfl (Nat.zero_le 2) ht
      by_cases hn : c = '\n'
      · subst hn
        exact .newline
      · exact .literal rfl hq (isTextChar_of_not_hidden (hh c hc) hn)
    rw [List.flatMap_singleton'] at hbody
    simpa using readText_block (.inr rfl) hsingle hbody
  · simpa using readText_block (.inl rfl) hdouble (body_escapedLines (Nat.zero_le 2) cs)
  · have hspelled : ∀ c ∈ cs, Spells c (escaped false c) := fun c _ => spells_escaped (by simp)
    simpa using readText_basic hspelled hdouble

theorem cut_of_all {p : Char → Bool} {x : Char} (hall : ∀ c ∈ cs, p c = true) (hx : p x = false)
    (rest : List Char) :
    (cs ++ x :: rest).takeWhile p = cs ∧ (cs ++ x :: rest).dropWhile p = x :: rest := by
  have hneg : ¬ p x = true := by simp [hx]
  constructor
  · rw [List.takeWhile_append_of_pos hall, List.takeWhile_cons_of_neg hneg, List.append_nil]
  · rw [List.dropWhile_append_of_pos hall, List.dropWhile_cons_of_neg hneg]

theorem readSimpleKey_bare {x : Char} (hne : cs ≠ []) (hb : ∀ c ∈ cs, isBareKeyChar c = true)
    (hx : isBareKeyChar x = false) (rest : List Char) :
    readSimpleKey (cs ++ x :: rest) = some (String.ofList cs, x :: rest) := by
  obtain ⟨htake, hdrop⟩ := cut_of_all hb hx rest
  obtain ⟨c, more, rfl⟩ := List.exists_cons_of_ne_nil hne
  have hc := hb c List.mem_cons_self
  unfold readSimpleKey
  split
  · rename_i heq
    rw [(List.cons.inj heq).1] at hc
    exact absurd hc (by decide)
  · rename_i heq
    rw [(List.cons.inj heq).1] at hc
    exact absurd hc (by decide)
  · rw [htake, hdrop]
    rfl

theorem readSimpleKey_basic (hf : ∀ c ∈ cs, Spells c (f c)) (rest : List Char) :
    readSimpleKey ('"' :: (cs.flatMap f ++ '"' :: rest)) = some (String.ofList cs, rest) := by
  rw [readSimpleKey, readBasic_written hf rest]
  rfl

theorem readSimpleKey_literal (ht : ∀ c ∈ cs, isTextChar c = true) (hq : '\'' ∉ cs)
    (rest : List Char) :
    readSimpleKey ('\'' :: (cs ++ '\'' :: rest)) = some (String.ofList cs, rest) := by
  rw [readSimpleKey, readLiteral_written ht hq rest]
  rfl

theorem readSimpleKey_keyChars {x : Char} (cs : List Char) (hx : isBareKeyChar x = false)
    (rest : List Char) :
    readSimpleKey (keyChars cs ++ x :: rest) = some (String.ofList cs, x :: rest) := by
  simp only [keyChars, Bool.and_eq_true, Bool.not_eq_true', List.any_eq_false, Bool.or_eq_true,
    not_or, Bool.not_eq_true, beq_iff_eq, List.contains_eq_mem, decide_eq_false_iff_not,
    List.isEmpty_eq_false_iff, List.all_eq_true]
  split_ifs with hbare hbasic hliteral
  · exact readSimpleKey_bare hbare.1 hbare.2 hx rest
  · obtain ⟨⟨hplain, hb⟩, hq⟩ := hbasic
    have hspelled : ∀ c ∈ cs, Spells c (if c == '\t' then ['\\', 't'] else [c]) := fun c hc =>
      spells_tabbed (hplain c hc).1 (ne_of_not_mem hb c hc) (ne_of_not_mem hq c hc) (hplain c hc).2
    simpa [tabbed] using readSimpleKey_basic hspelled (x :: rest)
  · obtain ⟨hplain, hq⟩ := hliteral
    have htext : ∀ c ∈ cs, isTextChar c = true := fun c hc =>
      isTextChar_of_not_hidden (hplain c hc).1 (hplain c hc).2
    simpa using readSimpleKey_literal htext hq (x :: rest)
  · have hspelled : ∀ c ∈ cs, Spells c (escaped false c) := fun c _ => spells_escaped (by simp)
    simpa using readSimpleKey_basic hspelled (x :: rest)

end LogFollow.Toml
