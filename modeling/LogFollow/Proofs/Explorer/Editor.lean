import LogFollow.Explorer.Editor
import Mathlib.Data.List.Destutter

/-!
# The query box as an editor

The query box has its text in one piece with a number for the cursor, and its history in one piece
with a number for the place in it. The reference cuts both in two where the number points. They
stay the same under every key and every submission, and a text is only changed at bytes between
two of its characters.
-/

namespace LogFollow.Explorer
set_option autoImplicit false

/-- What is done with a query box. -/
inductive Call
  | press (p : KeyPress)
  | submit

/-- The characters on the two sides of the cursor, those next to it first; the texts called back,
the last one first, and those older than that; and everything that was submitted, the newest
first. -/
structure Sides where
  left : List Char := []
  right : List Char := []
  newer : List (List Char) := []
  older : List (List Char) := []
  submitted : List (List Char) := []

/-- What a history has of the texts submitted: the newest fifty, with no empty ones and one of
each stretch of equal ones. -/
def kept (submitted : List (List Char)) : List (List Char) :=
  ((submitted.filter (· ≠ [])).destutter (· ≠ ·)).take 50

namespace Sides

def text (s : Sides) : List Char := s.left.reverse ++ s.right

def put (s : Sides) (text : List Char) : Sides := { s with left := text.reverse, right := [] }

def home (s : Sides) : Sides := { s with left := [], right := s.text }

def goLeft (s : Sides) : Sides :=
  match s.left with
  | [] => s
  | c :: left => { s with left := left, right := c :: s.right }

def goRight (s : Sides) : Sides :=
  match s.right with
  | [] => s
  | c :: right => { s with left := c :: s.left, right := right }

def goBack (s : Sides) : Sides :=
  match s.older with
  | [] => s
  | text :: older => { s.put text with newer := text :: s.newer, older := older }

def goForth (s : Sides) : Sides :=
  match s.newer with
  | [] => s
  | [text] => { s.put [] with newer := [], older := text :: s.older }
  | text :: next :: newer => { s.put next with newer := next :: newer, older := text :: s.older }

def control (s : Sides) (c : Char) : Sides :=
  if c = 'u' then s.put []
  else if c = 'a' then s.home
  else if c = 'e' then s.put s.text
  else s

def press (s : Sides) (p : KeyPress) : Sides :=
  match p.key with
  | .char c =>
    if p.ctrl then s.control c
    else if p.alt then s
    else { s with left := c :: s.left }
  | .backspace => { s with left := s.left.tail }
  | .delete => { s with right := s.right.tail }
  | .left => s.goLeft
  | .right => s.goRight
  | .home => s.home
  | .atEnd => s.put s.text
  | .up => s.goBack
  | .down => s.goForth
  | _ => s

def submit (s : Sides) : Sides :=
  { s with newer := [], older := kept (s.text :: s.submitted),
           submitted := s.text :: s.submitted }

def call (s : Sides) : Call → Sides
  | .press p => s.press p
  | .submit => s.submit

def run (calls : List Call) : Sides := calls.foldl call {}

end Sides

namespace Editor

def call (e : Editor) : Call → Editor
  | .press p => (e.press p).1
  | .submit => e.submit

def run (prompt : String) (calls : List Call) : Editor := calls.foldl call { prompt := prompt }

/-- The place in the history of the text to call back next. -/
def nextPlace (e : Editor) : Nat := e.browsing.elim 0 (· + 1)

variable {e e' : Editor} {s : Sides}

theorem older_eq (e : Editor) : e.older = e.callBack e.nextPlace := by
  unfold older nextPlace
  cases e.browsing <;> rfl

theorem callBack_eq {place : Nat} {text : List Char} (h : e.history[place]? = some text) :
    e.callBack place = { e.put text with browsing := some place } := by
  rw [callBack, h]

theorem callBack_past {place : Nat} (h : e.history.length ≤ place) : e.callBack place = e := by
  rw [callBack, List.getElem?_eq_none h]

/-! ## The history -/

theorem head?_destutter {l : List (List Char)} :
    (l.destutter (· ≠ ·)).head? = l.head? := by
  cases l with
  | nil => rfl
  | cons a l =>
    induction l with
    | nil => rfl
    | cons b l ih =>
      rw [List.destutter_cons_cons]
      split
      · rfl
      · exact ih

theorem destutter_cons_eq (a : List Char) (l : List (List Char)) :
    (a :: l).destutter (· ≠ ·) =
      if l.head? = some a then l.destutter (· ≠ ·) else a :: l.destutter (· ≠ ·) := by
  cases l with
  | nil => rfl
  | cons b l =>
    rw [List.destutter_cons_cons]
    by_cases hab : a = b
    · subst hab
      simp [List.destutter_cons']
    · simp [List.destutter_cons', hab, Ne.symm hab]

theorem remember_destutter {text : List Char} (ht : text ≠ []) (l : List (List Char)) :
    remember text ((l.destutter (· ≠ ·)).take 50) = ((text :: l).destutter (· ≠ ·)).take 50 := by
  have hhead : ((l.destutter (· ≠ ·)).take 50).head? = l.head? := by
    rw [List.head?_take, if_neg (by decide), head?_destutter]
  rw [remember, hhead, destutter_cons_eq]
  by_cases hlast : l.head? = some text
  · simp [hlast]
  · simp [hlast, ht, historyLimit, List.take_take]

theorem remember_kept (text : List Char) (submitted : List (List Char)) :
    remember text (kept submitted) = kept (text :: submitted) := by
  by_cases ht : text = []
  · simp [remember, kept, ht]
  · rw [kept, kept, remember_destutter ht, List.filter_cons_of_pos (by simpa using ht)]

theorem kept_length_le (submitted : List (List Char)) : (kept submitted).length ≤ 50 :=
  List.length_take_le _ _

theorem ne_nil_of_mem_kept {submitted : List (List Char)} {text : List Char}
    (h : text ∈ kept submitted) : text ≠ [] := by
  have hmem := (List.destutter_sublist _ _).mem (List.mem_of_mem_take h)
  simpa using List.of_mem_filter hmem

theorem isChain_kept (submitted : List (List Char)) : (kept submitted).IsChain (· ≠ ·) :=
  (List.isChain_destutter _ _).take _

/-! ## The query box and the reference -/

/-- The query box holds what the reference holds. -/
structure Follows (e : Editor) (s : Sides) : Prop where
  text : e.text = s.text
  cursor : e.cursor = s.left.length
  history : e.history = s.newer.reverse ++ s.older
  place : e.nextPlace = s.newer.length
  kept : e.history = kept s.submitted

namespace Follows

theorem edited (h : Follows e s) (left right : List Char) (ht : e'.text = left.reverse ++ right)
    (hc : e'.cursor = left.length) (hh : e'.history = e.history) (hb : e'.browsing = e.browsing) :
    Follows e' { s with left := left, right := right } where
  text := ht
  cursor := hc
  history := hh.trans h.history
  place := by rw [nextPlace, hb]; exact h.place
  kept := hh.trans h.kept

theorem put (h : Follows e s) (text : List Char) : Follows (e.put text) (s.put text) :=
  h.edited _ _ (by simp [Editor.put]) (by simp [Editor.put]) rfl rfl

theorem moved (h : Follows e s) {left right : List Char} {place : Nat}
    (ht : left.reverse ++ right = s.text) (hp : place = left.length) :
    Follows (e.moveTo place) { s with left := left, right := right } :=
  h.edited _ _ (h.text.trans ht.symm) hp rfl rfl

theorem home (h : Follows e s) : Follows (e.moveTo 0) s.home :=
  h.moved (by simp) rfl

theorem atEnd (h : Follows e s) : Follows (e.moveTo e.text.length) (s.put s.text) :=
  h.moved (by simp) (by simp [h.text])

theorem insert (h : Follows e s) (c : Char) :
    Follows (e.insert c) { s with left := c :: s.left } := by
  refine h.edited _ _ ?_ ?_ rfl rfl
  · simp [Editor.insert, h.text, h.cursor, Sides.text]
  · simp [Editor.insert, h.cursor]

theorem backspace (h : Follows e s) : Follows e.backspace { s with left := s.left.tail } := by
  have hc := h.cursor
  cases hl : s.left with
  | nil =>
    have hzero : e.cursor = 0 := by simpa [hl] using hc
    refine h.edited _ _ ?_ ?_ ?_ ?_ <;>
      simp [Editor.backspace, hzero, h.text, Sides.text, hl]
  | cons c left =>
    have hsucc : e.cursor = left.length + 1 := by simpa [hl] using hc
    refine h.edited _ _ ?_ ?_ ?_ ?_ <;>
      simp [Editor.backspace, removeAt, hsucc, h.text, Sides.text, hl,
        List.eraseIdx_append_of_length_le]

theorem delete (h : Follows e s) :
    Follows (e.removeAt e.cursor) { s with right := s.right.tail } := by
  refine h.edited _ _ ?_ h.cursor rfl rfl
  rw [removeAt, h.text, h.cursor, Sides.text, List.eraseIdx_append_of_length_le (by simp)]
  simp

theorem goLeft (h : Follows e s) : Follows (e.moveTo (e.cursor - 1)) s.goLeft := by
  have hc := h.cursor
  cases hl : s.left with
  | nil =>
    rw [Sides.goLeft, hl]
    exact h.moved rfl (by simp [hc, hl])
  | cons c left =>
    rw [Sides.goLeft, hl]
    exact h.moved (by simp [Sides.text, hl]) (by simp [hc, hl])

theorem goRight (h : Follows e s) :
    Follows (e.moveTo (min (e.cursor + 1) e.text.length)) s.goRight := by
  have hc := h.cursor
  cases hr : s.right with
  | nil =>
    rw [Sides.goRight, hr]
    exact h.moved rfl (by simp [hc, h.text, Sides.text, hr])
  | cons c right =>
    rw [Sides.goRight, hr]
    exact h.moved (by simp [Sides.text, hr]) (by simp [hc, h.text, Sides.text, hr])

/-- A text called back moves the place in the history on both sides. -/
theorem browsed (h : Follows e s) {text : List Char} {place : Nat} {newer older : List (List Char)}
    (hh : s.newer.reverse ++ s.older = newer.reverse ++ older) (hp : newer.length = place + 1) :
    Follows { e.put text with browsing := some place }
      { s.put text with newer := newer, older := older } where
  text := (h.put text).text
  cursor := (h.put text).cursor
  history := h.history.trans hh
  place := hp.symm
  kept := h.kept

theorem older (h : Follows e s) : Follows e.older s.goBack := by
  have hplace := h.place
  rw [older_eq, Sides.goBack]
  cases ho : s.older with
  | nil =>
    rw [callBack_past (by simp [h.history, ho, hplace])]
    exact h
  | cons text older =>
    have htext : e.history[e.nextPlace]? = some text := by simp [h.history, ho, hplace]
    rw [callBack_eq htext]
    exact h.browsed (by simp [ho]) (by simp [hplace])

theorem newer (h : Follows e s) : Follows e.newer s.goForth := by
  have hplace := h.place
  have hh := h.history
  rw [Editor.newer, Sides.goForth]
  cases hb : e.browsing with
  | none =>
    have hn : s.newer = [] := by simpa [nextPlace, hb] using hplace.symm
    rw [hn]
    exact h
  | some place =>
    -- Each text called back was one step away, so the other two pairs cannot come together.
    have hlength : s.newer.length = place + 1 := by simpa [nextPlace, hb] using hplace.symm
    match hn : s.newer, place with
    | [], _ => simp [hn] at hlength
    | [text], 0 =>
      exact ⟨(h.put []).text, (h.put []).cursor, by simpa [hn, Editor.put] using hh, rfl, h.kept⟩
    | [text], place + 1 => simp [hn] at hlength
    | text :: next :: newer, 0 => simp [hn] at hlength
    | text :: next :: newer, place + 1 =>
      have hp : newer.length = place := by simpa [hn] using hlength
      have hnext : e.callBack place = { e.put next with browsing := some place } :=
        callBack_eq (by simp [hh, hn, ← hp])
      simp only [hnext]
      exact h.browsed (by simp [hn]) (by simp [hp])

theorem submit (h : Follows e s) : Follows e.submit s.submit where
  text := h.text
  cursor := h.cursor
  history := by
    rw [Editor.submit, Sides.submit, h.kept, h.text, remember_kept]
    rfl
  place := rfl
  kept := by rw [Editor.submit, Sides.submit, h.kept, h.text, remember_kept]

theorem typed (h : Follows e s) (p : KeyPress) {c : Char} (hk : p.key = .char c) :
    Follows (e.press p).1 (s.press p) := by
  simp only [Editor.press, edit?, Sides.press, hk]
  cases p.ctrl with
  | true =>
    simp only [Sides.control, Bool.true_and, beq_iff_eq, Bool.true_or, ↓reduceIte]
    split_ifs with hu ha he
    · exact h.put []
    · exact h.home
    · exact h.atEnd
    · exact h
  | false =>
    cases p.alt with
    | true => exact h
    | false => exact h.insert c

theorem press (h : Follows e s) (p : KeyPress) : Follows (e.press p).1 (s.press p) := by
  obtain ⟨key, ctrl, alt, shift⟩ := p
  cases key with
  | char c => exact h.typed _ rfl
  | backspace => exact h.backspace
  | delete => exact h.delete
  | left => exact h.goLeft
  | right => exact h.goRight
  | home => exact h.home
  | atEnd => exact h.atEnd
  | up => exact h.older
  | down => exact h.newer
  | _ => exact h

theorem call (h : Follows e s) (c : Call) : Follows (e.call c) (s.call c) := by
  cases c with
  | press p => exact h.press p
  | submit => exact h.submit

end Follows

theorem run_follows (prompt : String) (calls : List Call) :
    Follows (run prompt calls) (Sides.run calls) := by
  have hstart : Follows { prompt := prompt } {} := ⟨rfl, rfl, rfl, rfl, rfl⟩
  unfold run Sides.run
  generalize ({ prompt := prompt } : Editor) = e, ({} : Sides) = s at hstart
  induction calls generalizing e s with
  | nil => exact hstart
  | cons c calls ih => exact ih _ _ (hstart.call c)

theorem Follows.cursor_le (h : Follows e s) : e.cursor ≤ e.text.length := by
  simp [h.text, h.cursor, Sides.text]

theorem Follows.inside (h : Follows e s) {place : Nat} (hb : e.browsing = some place) :
    place < e.history.length := by
  have hplace : place + 1 = s.newer.length := by simpa [nextPlace, hb] using h.place
  simp only [h.history, List.length_append, List.length_reverse]
  omega

theorem press_of_refused (p : KeyPress) (h : (e.press p).2 = false) : (e.press p).1 = e := by
  unfold press at h ⊢
  split at h
  · cases h
  · rfl

/-! ## Bytes -/

/-- The characters of a text, each with the byte at which it begins. -/
def charIndices : Nat → List Char → List (Nat × Char)
  | _, [] => []
  | byte, c :: rest => (byte, c) :: charIndices (byte + c.utf8Size) rest

/-- The byte at which a character begins; behind the last one, the end of the text. -/
def byteOffset (text : List Char) (place : Nat) : Nat :=
  ((charIndices 0 text)[place]?.map Prod.fst).getD (String.ofList text).utf8ByteSize

/-- A character is put in at a byte, between the characters before and behind it. -/
def InsertedAt (text : String) (byte : Nat) (c : Char) (result : String) : Prop :=
  ∃ before behind, text = before ++ behind ∧ before.utf8ByteSize = byte ∧
    result = before ++ String.singleton c ++ behind

/-- The character that begins at a byte is taken out. -/
def RemovedAt (text : String) (byte : Nat) (result : String) : Prop :=
  ∃ before c behind, text = before ++ String.singleton c ++ behind ∧
    before.utf8ByteSize = byte ∧ result = before ++ behind

theorem getD_charIndices (byte : Nat) (text : List Char) (place : Nat) :
    ((charIndices byte text)[place]?.map Prod.fst).getD
        (byte + (String.ofList text).utf8ByteSize) =
      byte + (String.ofList (text.take place)).utf8ByteSize := by
  induction text generalizing byte place with
  | nil => simp [charIndices]
  | cons c rest ih =>
    cases place with
    | zero => simp [charIndices]
    | succ place =>
      have hrest := ih (byte + c.utf8Size) place
      simpa [charIndices, String.ofList_cons, Nat.add_assoc] using hrest

theorem byteOffset_eq (text : List Char) (place : Nat) :
    byteOffset text place = (String.ofList (text.take place)).utf8ByteSize := by
  simpa only [byteOffset, Nat.zero_add] using getD_charIndices 0 text place

theorem byteOffset_isValid (text : List Char) (place : Nat) :
    (⟨byteOffset text place⟩ : String.Pos.Raw).IsValid (String.ofList text) := by
  refine String.Pos.Raw.isValid_iff_exists_append.mpr
    ⟨String.ofList (text.take place), String.ofList (text.drop place), ?_, ?_⟩
  · rw [← String.ofList_append, List.take_append_drop]
  · rw [byteOffset_eq]
    rfl

theorem insert_insertedAt (e : Editor) (c : Char) :
    InsertedAt e.value (byteOffset e.text e.cursor) c (e.insert c).value := by
  refine ⟨String.ofList (e.text.take e.cursor), String.ofList (e.text.drop e.cursor),
    ?_, (byteOffset_eq _ _).symm, ?_⟩
  · rw [← String.ofList_append, List.take_append_drop, value]
  · rw [value, insert, String.ofList_append, String.ofList_cons, String.append_assoc]

theorem removeAt_removedAt (e : Editor) (place : Nat) (h : place < e.text.length) :
    RemovedAt e.value (byteOffset e.text place) (e.removeAt place).value := by
  refine ⟨String.ofList (e.text.take place), e.text.get ⟨place, h⟩,
    String.ofList (e.text.drop (place + 1)), ?_, (byteOffset_eq _ _).symm, ?_⟩
  · rw [value, String.append_assoc, ← String.ofList_cons, ← String.ofList_append]
    simp
  · rw [value, removeAt, List.eraseIdx_eq_take_drop_succ, String.ofList_append]

/-- Every change of the text is made at a byte between two of its characters: a character is typed
at the cursor, and one removed before it or behind it. -/
structure EditsAtBytes (e : Editor) : Prop where
  boundary (place : Nat) : (⟨byteOffset e.text place⟩ : String.Pos.Raw).IsValid e.value
  typed {p : KeyPress} {c : Char} (hk : p.key = .char c) (hctrl : p.ctrl = false)
    (halt : p.alt = false) :
    InsertedAt e.value (byteOffset e.text e.cursor) c (e.press p).1.value
  backspace {p : KeyPress} (hk : p.key = .backspace) (hc : 0 < e.cursor) :
    RemovedAt e.value (byteOffset e.text (e.cursor - 1)) (e.press p).1.value
  delete {p : KeyPress} (hk : p.key = .delete) (hc : e.cursor < e.text.length) :
    RemovedAt e.value (byteOffset e.text e.cursor) (e.press p).1.value

theorem editsAtBytes (hc : e.cursor ≤ e.text.length) : EditsAtBytes e where
  boundary := byteOffset_isValid e.text
  typed hk hctrl halt := by
    simpa [press, edit?, hk, hctrl, halt] using insert_insertedAt e _
  backspace hk hpos := by
    have hremoved := removeAt_removedAt e (e.cursor - 1) (by omega)
    simpa [press, edit?, hk, Editor.backspace, hpos.ne', value] using hremoved
  delete hk hlt := by
    simpa [press, edit?, hk] using removeAt_removedAt e _ hlt

/-! ## Up and down -/

/-- The place called back is one of the history. Up goes to the next older text and stays at the
oldest; Down goes to the next newer one, and from the newest to an empty box. -/
structure Browses (e : Editor) : Prop where
  inside {place : Nat} (hb : e.browsing = some place) : place < e.history.length
  up {p : KeyPress} (hk : p.key = .up) {text : List Char}
    (ht : e.history[e.nextPlace]? = some text) :
    (e.press p).1 =
      { e with text := text, cursor := text.length, browsing := some e.nextPlace }
  oldest {p : KeyPress} (hk : p.key = .up) (hp : e.history.length ≤ e.nextPlace) :
    (e.press p).1 = e
  down {p : KeyPress} (hk : p.key = .down) {place : Nat} (hb : e.browsing = some (place + 1))
    {text : List Char} (ht : e.history[place]? = some text) :
    (e.press p).1 = { e with text := text, cursor := text.length, browsing := some place }
  newest {p : KeyPress} (hk : p.key = .down) (hb : e.browsing = some 0) :
    (e.press p).1 = { e with text := [], cursor := 0, browsing := none }
  nowhere {p : KeyPress} (hk : p.key = .down) (hb : e.browsing = none) : (e.press p).1 = e

theorem Follows.browses (h : Follows e s) : Browses e where
  inside := h.inside
  up hk _ ht := by simp [Editor.press, edit?, hk, older_eq, callBack_eq ht, Editor.put]
  oldest hk hp := by simp [Editor.press, edit?, hk, older_eq, callBack_past hp]
  down hk _ hb _ ht := by
    simp [Editor.press, edit?, hk, Editor.newer, hb, callBack_eq ht, Editor.put]
  newest hk hb := by simp [Editor.press, edit?, hk, Editor.newer, hb, Editor.put]
  nowhere hk hb := by simp [Editor.press, edit?, hk, Editor.newer, hb]

/-- The query box is an editor with a history: whatever is pressed in it and submitted, its text
and cursor are those of the reference, and its history is what is kept of the texts submitted. -/
theorem editor_follows_sides (prompt : String) (calls : List Call) :
    let e := run prompt calls
    let s := Sides.run calls
    (e.text = s.text ∧ e.cursor = s.left.length ∧ e.cursor ≤ e.text.length) ∧
      EditsAtBytes e ∧
      (∀ p : KeyPress, (e.press p).2 = false → (e.press p).1 = e) ∧
      (e.history = kept s.submitted ∧ e.history.length ≤ 50 ∧ (∀ text ∈ e.history, text ≠ []) ∧
        e.history.IsChain (· ≠ ·)) ∧
      Browses e := by
  have h := run_follows prompt calls
  refine ⟨⟨h.text, h.cursor, h.cursor_le⟩, editsAtBytes h.cursor_le, press_of_refused,
    ⟨h.kept, ?_, ?_, ?_⟩, h.browses⟩ <;> rw [h.kept]
  · exact kept_length_le _
  · exact fun _ => ne_nil_of_mem_kept
  · exact isChain_kept _

theorem editor_follows_sides_between_kanji :
    RemovedAt "日本" 3 "日" ∧
      (run "" [.press { key := .char '日' }, .press { key := .char '本' }, .submit,
        .press { key := .left }, .press { key := .delete }, .press { key := .up }]).text =
        ['日', '本'] := by
  have hdelete := (editor_follows_sides "" [.press { key := .char '日' },
    .press { key := .char '本' }, .submit, .press { key := .left }]).2.1.delete
    (p := { key := .delete }) rfl (by decide)
  have hup := (editor_follows_sides "" [.press { key := .char '日' },
    .press { key := .char '本' }, .submit, .press { key := .left },
    .press { key := .delete }, .press { key := .up }]).1.1
  exact ⟨hdelete, hup⟩

end Editor
end LogFollow.Explorer
