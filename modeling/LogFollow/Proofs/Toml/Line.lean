import LogFollow.Proofs.Number.Digits
import LogFollow.Proofs.Toml.Quoted

/-!
# Written lines are read back

A line holds a key with a text or a number, or the header of a table. Each is read back from what
the printer makes of it, whatever stands on the lines behind.
-/

namespace LogFollow.Toml
set_option autoImplicit false

open Number

/-- A value that is written on a line of its own. -/
inductive Scalar
  | text (s : String)
  | number (n : Nat)

namespace Scalar

def value : Scalar → Value
  | .text s => .string s
  | .number n => .integer n

def chars : Scalar → List Char
  | .text s => textChars s.toList
  | .number n => Nat.toDigits 10 n

def line (key : String) : Scalar → String
  | .text s => textLine key s
  | .number n => numberLine key n

/-- A number must be one of the signed ones to be read. -/
def Fits : Scalar → Prop
  | .text _ => True
  | .number n => (n : Int) ≤ maxSigned

end Scalar

def dotted : List String → String → List Char
  | [], key => key.toList
  | k :: path, key => k.toList ++ '.' :: dotted path key

/-- A key that needs no quotes. -/
structure Bare (key : String) : Prop where
  nonempty : key.toList ≠ []
  plain : ∀ c ∈ key.toList, isBareKeyChar c = true

theorem bare_iff {key : String} :
    (!key.toList.isEmpty && key.toList.all isBareKeyChar) = true ↔ Bare key := by
  rw [Bool.and_eq_true, Bool.not_eq_true', List.isEmpty_eq_false_iff, List.all_eq_true]
  exact ⟨fun h => ⟨h.1, h.2⟩, fun h => ⟨h.nonempty, h.plain⟩⟩

instance (key : String) : Decidable (Bare key) := decidable_of_iff _ bare_iff

variable {c x : Char} {cs rest more : List Char} {n : Nat} {v : Scalar} {key : String}
  {path : List String} {d : Document}

@[simp] theorem Scalar.fits_text (s : String) : (Scalar.text s).Fits := trivial

theorem not_mem_of_isDigit (h : ∀ c ∈ cs, isDigit c = true) (hx : isDigit x = false) : x ∉ cs := by
  intro hmem
  exact ne_of_isDigit (h x hmem) hx rfl

theorem date?_of_isDigit (h : ∀ c ∈ cs, isDigit c = true) : date? cs = none := by
  unfold date?
  split
  · rename_i a b c d rest
    exact absurd (h '-' (by simp)) (by decide)
  · rfl

theorem clock?_of_isDigit (h : ∀ c ∈ cs, isDigit c = true) : clock? cs = none := by
  have hcolon : ':' ∉ cs := not_mem_of_isDigit h (by decide)
  unfold clock? twoDigits
  grind

theorem moment?_of_isDigit (h : ∀ c ∈ cs, isDigit c = true) : moment? cs = none := by
  rw [moment?, date?_of_isDigit h]
  simp [clock?_of_isDigit h]

theorem digitsOf_of_isDigit (h : ∀ c ∈ cs, isDigit c = true) {behind : Bool}
    (hne : cs = [] → behind = true) : digitsOf 10 behind cs = some cs := by
  induction cs generalizing behind with
  | nil => simp [digitsOf, hne rfl]
  | cons c cs ih =>
    rw [List.forall_mem_cons] at h
    have hline : c ≠ '_' := by
      rintro rfl
      exact absurd h.1 (by decide)
    have hten : isDigitOf 10 c = true := by
      have hc := isDigit_iff.mp h.1
      have hlt : c.toNat - 48 < 10 := by omega
      simp [isDigitOf, digitValue, h.1, hlt]
    simp [digitsOf, hten, ih h.2 (fun _ => rfl)]

theorem decimalDigits_toDigits (n : Nat) :
    decimalDigits (Nat.toDigits 10 n) = some (Nat.toDigits 10 n) := by
  have hdigits : digitsOf 10 false (Nat.toDigits 10 n) = some (Nat.toDigits 10 n) :=
    digitsOf_of_isDigit (fun c => isDigit_of_mem_toDigits) (fun h => absurd h (toDigits_ne_nil n))
  rcases Nat.eq_zero_or_pos n with rfl | hn
  · rfl
  · simp [decimalDigits, hdigits, head_toDigits hn]

theorem valueOf_eq_ofDigitChars (h : ∀ c ∈ cs, isDigit c = true) :
    valueOf 10 cs = Nat.ofDigitChars 10 cs 0 := by
  have hfold : ∀ acc, cs.foldl (fun n c => n * 10 + hexDigitValue c) acc =
      Nat.ofDigitChars 10 cs acc := by
    induction cs with
    | nil => intro acc; rfl
    | cons c cs ih =>
      intro acc
      rw [List.forall_mem_cons] at h
      have hvalue : hexDigitValue c = c.toNat - '0'.toNat := by
        rw [hexDigitValue, if_pos h.1]
        rfl
      rw [List.foldl_cons, ih h.2, Nat.ofDigitChars_cons, hvalue, Nat.mul_comm]
  exact hfold 0

theorem integer?_toDigits (hn : (n : Int) ≤ maxSigned) :
    integer? (Nat.toDigits 10 n) = some (n : Int) := by
  have hdigit : ∀ c ∈ Nat.toDigits 10 n, isDigit c = true := fun c => isDigit_of_mem_toDigits
  have hsign : splitSign (Nat.toDigits 10 n) = (1, Nat.toDigits 10 n) := by
    unfold splitSign
    split
    · rename_i heq
      exact absurd (hdigit '+' (heq ▸ List.mem_cons_self)) (by decide)
    · rename_i heq
      exact absurd (hdigit '-' (heq ▸ List.mem_cons_self)) (by decide)
    · rfl
  have hvalue : valueOf 10 (Nat.toDigits 10 n) = n := by
    rw [valueOf_eq_ofDigitChars hdigit, Nat.ofDigitChars_ten_toDigits]
  have hsigned : signed (n : Int) = some (n : Int) := by
    have hge : minSigned ≤ (n : Int) := by
      unfold minSigned
      omega
    simp [signed, isSigned, hge, hn]
  unfold integer?
  split
  · rename_i heq
    exact absurd (hdigit 'x' (by simp [heq])) (by decide)
  · rename_i heq
    exact absurd (hdigit 'o' (by simp [heq])) (by decide)
  · rename_i heq
    exact absurd (hdigit 'b' (by simp [heq])) (by decide)
  · simp [hsign, decimalDigits_toDigits, hvalue, hsigned]

theorem token?_toDigits (hn : (n : Int) ≤ maxSigned) :
    token? (Nat.toDigits 10 n) = some (.integer n) := by
  have hdigit : ∀ c ∈ Nat.toDigits 10 n, isDigit c = true := fun c => isDigit_of_mem_toDigits
  have htrue : Nat.toDigits 10 n ≠ ['t', 'r', 'u', 'e'] := by
    intro heq
    exact absurd (hdigit 't' (by simp [heq])) (by decide)
  have hfalse : Nat.toDigits 10 n ≠ ['f', 'a', 'l', 's', 'e'] := by
    intro heq
    exact absurd (hdigit 'f' (by simp [heq])) (by decide)
  simp [token?, htrue, hfalse, moment?_of_isDigit hdigit, integer?_toDigits hn]

theorem readToken_toDigits (hn : (n : Int) ≤ maxSigned) (rest : List Char) :
    readToken (Nat.toDigits 10 n ++ '\n' :: rest) = some (.integer n, '\n' :: rest) := by
  have htoken : ∀ c ∈ Nat.toDigits 10 n, isTokenChar c = true := by
    intro c hc
    simp [isTokenChar, isBareKeyChar, isDigit_of_mem_toDigits hc]
  obtain ⟨htake, hdrop⟩ := cut_of_all htoken (show isTokenChar '\n' = false by decide) rest
  simp [readToken, htake, hdrop, token?_toDigits hn]

theorem textChars_head (cs : List Char) :
    ∃ x more, textChars cs = x :: more ∧ (x = '"' ∨ x = '\'') := by
  simp only [textChars]
  split_ifs
  all_goals simp

theorem keyChars_head (cs : List Char) :
    ∃ x more, keyChars cs = x :: more ∧ (isBareKeyChar x = true ∨ x = '"' ∨ x = '\'') := by
  simp only [keyChars]
  split_ifs with hbare
  · simp only [Bool.and_eq_true, Bool.not_eq_true', List.isEmpty_eq_false_iff,
      List.all_eq_true] at hbare
    obtain ⟨x, more, rfl⟩ := List.exists_cons_of_ne_nil hbare.1
    exact ⟨x, more, rfl, .inl (hbare.2 x List.mem_cons_self)⟩
  all_goals simp

theorem readValue_chars (hf : v.Fits) (fuel depth : Nat) (rest : List Char) :
    readValue (fuel + 1) depth (v.chars ++ '\n' :: rest) = some (v.value, '\n' :: rest) := by
  cases v with
  | text s =>
    have hread := readText_textChars s.toList rest
    obtain ⟨x, more, htext, hx⟩ := textChars_head s.toList
    rw [htext, List.cons_append] at hread
    rw [Scalar.chars, htext, List.cons_append]
    rcases hx with rfl | rfl <;> simp [readValue, hread, Scalar.value]
  | number n =>
    have hread := readToken_toDigits hf rest
    obtain ⟨x, more, hdigits, hx⟩ := toDigits_head n
    rw [hdigits, List.cons_append] at hread
    rw [Scalar.chars, hdigits, List.cons_append]
    have hne : ∀ {y : Char} {cs : List Char}, isDigit y = false →
        x :: (more ++ '\n' :: rest) ≠ y :: cs := by
      intro y cs hy heq
      rw [(List.cons.inj heq).1, hy] at hx
      cases hx
    unfold readValue
    split
    · exact absurd ‹_› (hne (by decide))
    · exact absurd ‹_› (hne (by decide))
    · exact absurd ‹_› (hne (by decide))
    · exact absurd ‹_› (hne (by decide))
    · exact hread

theorem dropBlanks_of_ne (hs : x ≠ ' ') (ht : x ≠ '\t') : dropBlanks (x :: more) = x :: more := by
  simp [dropBlanks, hs, ht]

theorem Bare.exists_cons (hkey : Bare key) :
    ∃ x more, key.toList = x :: more ∧ isBareKeyChar x = true := by
  obtain ⟨x, more, hcons⟩ := List.exists_cons_of_ne_nil hkey.nonempty
  exact ⟨x, more, hcons, hkey.plain x (hcons ▸ List.mem_cons_self)⟩

theorem dropBlanks_bare (hkey : Bare key) (rest : List Char) :
    dropBlanks (key.toList ++ rest) = key.toList ++ rest := by
  obtain ⟨x, more, hcons, hx⟩ := hkey.exists_cons
  rw [hcons, List.cons_append]
  apply dropBlanks_of_ne
  all_goals
    rintro rfl
    exact absurd hx (by decide)

theorem Bare.read (hkey : Bare key) (hx : isBareKeyChar x = false) (rest : List Char) :
    readSimpleKey (key.toList ++ x :: rest) = some (key, x :: rest) := by
  rw [readSimpleKey_bare hkey.nonempty hkey.plain hx, String.ofList_toList]

theorem readKeys_dotted (hpath : ∀ k ∈ path, Bare k) (hkey : Bare key) {most : Nat}
    (hlen : path.length < most) (rest : List Char) :
    readKeys most (dotted path key ++ ']' :: rest) = some ((path, key), ']' :: rest) := by
  induction path generalizing most with
  | nil =>
    obtain ⟨most, rfl⟩ := Nat.exists_eq_add_one_of_ne_zero (Nat.ne_of_gt hlen)
    have hread := hkey.read (x := ']') (by decide) rest
    simp [readKeys, dotted, dropBlanks_bare hkey, hread, dropBlanks_of_ne]
  | cons k path ih =>
    rw [List.forall_mem_cons] at hpath
    obtain ⟨most, rfl⟩ := Nat.exists_eq_add_one_of_ne_zero (Nat.ne_of_gt (Nat.zero_lt_of_lt hlen))
    have hread := hpath.1.read (x := '.') (by decide) (dotted path key ++ ']' :: rest)
    have hrest := ih hpath.2 (Nat.lt_of_succ_lt_succ hlen)
    simp [readKeys, dotted, dropBlanks_bare hpath.1, hread, dropBlanks_of_ne, hrest]

theorem dotted_head (hpath : ∀ k ∈ path, Bare k) (hkey : Bare key) :
    ∃ x more, dotted path key = x :: more ∧ isBareKeyChar x = true := by
  cases path with
  | nil => exact hkey.exists_cons
  | cons k path =>
    obtain ⟨x, more, hcons, hx⟩ := (hpath k List.mem_cons_self).exists_cons
    exact ⟨x, more ++ '.' :: dotted path key, by rw [dotted, hcons, List.cons_append], hx⟩

theorem readKeys_keyChars (key : String) (most : Nat) (rest : List Char) :
    readKeys (most + 1) (keyChars key.toList ++ ' ' :: '=' :: rest) =
      some (([], key), '=' :: rest) := by
  have hread := readSimpleKey_keyChars (x := ' ') key.toList (by decide) ('=' :: rest)
  obtain ⟨x, more, hkey, hx⟩ := keyChars_head key.toList
  have hblanks : dropBlanks (keyChars key.toList ++ ' ' :: '=' :: rest) =
      keyChars key.toList ++ ' ' :: '=' :: rest := by
    rw [hkey, List.cons_append]
    apply dropBlanks_of_ne
    all_goals
      rintro rfl
      exact absurd hx (by decide)
  have hequals : dropBlanks (' ' :: '=' :: rest) = '=' :: rest := rfl
  rw [String.ofList_toList] at hread
  simp [readKeys, hblanks, hread, hequals]

theorem dropBlanks_chars (v : Scalar) (rest : List Char) :
    dropBlanks (' ' :: (v.chars ++ rest)) = v.chars ++ rest := by
  have hhead : ∃ x more, v.chars = x :: more ∧ x ≠ ' ' ∧ x ≠ '\t' := by
    cases v with
    | text s =>
      obtain ⟨x, more, htext, hx⟩ := textChars_head s.toList
      refine ⟨x, more, htext, ?_⟩
      rcases hx with rfl | rfl <;> decide
    | number n =>
      obtain ⟨x, more, hdigits, hx⟩ := toDigits_head n
      refine ⟨x, more, hdigits, ?_, ?_⟩
      all_goals
        rintro rfl
        exact absurd hx (by decide)
  obtain ⟨x, more, hchars, hs, ht⟩ := hhead
  have hdrop : dropBlanks (' ' :: x :: (more ++ rest)) = dropBlanks (x :: (more ++ rest)) := rfl
  rw [hchars, List.cons_append, hdrop, dropBlanks_of_ne hs ht]

theorem endLine_newline (rest : List Char) : endLine ('\n' :: rest) = some rest := rfl

theorem line_toList (v : Scalar) (key : String) (rest : List Char) :
    (v.line key).toList ++ rest =
      keyChars key.toList ++ ' ' :: '=' :: ' ' :: (v.chars ++ '\n' :: rest) := by
  cases v with
  | text s => simp [Scalar.line, Scalar.chars, textLine, quote]
  | number n =>
    have hequals : (toString " = ").toList = [' ', '=', ' '] := by decide
    simp [Scalar.line, Scalar.chars, numberLine, hequals]

theorem readLine_entry (hf : v.Fits) (key : String) (d : Document) (rest : List Char) :
    readLine d ((v.line key).toList ++ rest) =
      (changeAt false (addValue [] key v.value) d.current .header d.root).map fun root =>
        ({ d with root := root }, rest) := by
  rw [line_toList]
  have hkey : readKey _ = _ := readKeys_keyChars key 79 (' ' :: (v.chars ++ '\n' :: rest))
  have hvalue := fun fuel => readValue_chars hf fuel maxNesting rest
  obtain ⟨x, more, hcons, hx⟩ := keyChars_head key.toList
  have hne : x ≠ '[' := by
    rintro rfl
    exact absurd hx (by decide)
  rw [hcons, List.cons_append] at hkey ⊢
  unfold readLine
  split
  · exact absurd (List.cons.inj ‹_›).1 hne
  · exact absurd (List.cons.inj ‹_›).1 hne
  · simp only [hkey, Option.bind_eq_bind, Option.bind_some, dropBlanks_chars, hvalue,
      endLine_newline]
    cases changeAt false (addValue [] key v.value) d.current .header d.root <;> rfl

theorem readLine_header (hpath : ∀ k ∈ path, Bare k) (hkey : Bare key) (hlen : path.length < maxKeys)
    (d : Document) (rest : List Char) :
    readLine d ('[' :: (dotted path key ++ ']' :: '\n' :: rest)) =
      (openTable path key d.root).map fun root => (⟨root, path ++ [key]⟩, rest) := by
  have hread : readKey (dotted path key ++ ']' :: '\n' :: rest) =
      some ((path, key), ']' :: '\n' :: rest) := readKeys_dotted hpath hkey hlen _
  obtain ⟨x, more, hcons, hx⟩ := dotted_head hpath hkey
  unfold readLine
  split
  · rename_i heq
    rw [hcons, List.cons_append, List.cons.injEq, List.cons.injEq] at heq
    rw [heq.2.1] at hx
    exact absurd hx (by decide)
  · rename_i heq
    obtain rfl := (List.cons.inj heq).2
    simp only [hread, Option.bind_eq_bind, Option.bind_some, endLine_newline]
    cases openTable path key d.root <;> rfl
  · rename_i hnone
    exact absurd rfl (hnone _)

end LogFollow.Toml
