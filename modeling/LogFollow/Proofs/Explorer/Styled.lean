import LogFollow.Explorer.Drawing
import LogFollow.Proofs.Explorer.Wrap
import LogFollow.Proofs.Number.Digits

/-!
# The styles of a row

Each piece of a row is the longest stretch of it in one style. A place in the line of an event belongs
to one part of it, and a newline that is not drawn is the last of its row, so that the places of what
is drawn before it are the same. All rows of an event together therefore show its time, the
highlighted stretch of its message and the rest of it, each in its own style.
-/

namespace LogFollow.Explorer
set_option autoImplicit false

def drawnChar (c : Char) : Char := if Text.isControl c then ' ' else c

/-- A text as it is drawn over several rows. -/
def legible (text : List Char) : List Char := (text.filter (· ≠ '\n')).map drawnChar

theorem legible_append (text text' : List Char) :
    legible (text ++ text') = legible text ++ legible text' := by
  simp [legible]

theorem legible_of_not_mem {text : List Char} (h : '\n' ∉ text) :
    legible text = text.map drawnChar := by
  rw [legible, List.filter_eq_self.mpr]
  intro c hc
  exact decide_eq_true fun heq => h (heq ▸ hc)

def highlighted (highlight : Option Span) (message : List Char) : List Char :=
  match highlight with
  | none => []
  | some h => (message.take h.stop).drop h.start

/-- The message without what is highlighted of it. -/
def unmarked (highlight : Option Span) (message : List Char) : List Char :=
  match highlight with
  | none => message
  | some h => message.take h.start ++ message.drop (max h.start h.stop)

def piecesText (pieces : List Piece) : List Char := pieces.flatMap (·.text)

/-- What all rows of an event show in a style. -/
def shownIn (t : Theme) (i : Item) (style : Style) : List Char :=
  (Item.placed 0 i.rows).flatMap fun (start, row) =>
    piecesText ((rowPieces t i start row).filter (·.style = style))

namespace Part

variable {part : Part} {tagged tagged' : List (Part × Char)}

theorem flatten_runs (tagged : List (Part × Char)) :
    ((runs tagged).flatMap fun r => r.2.map (r.1, ·)) = tagged := by
  induction tagged with
  | nil => rfl
  | cons x tagged ih =>
    obtain ⟨part, c⟩ := x
    rw [runs]
    split
    · rename_i next cs more hruns
      rw [hruns, List.flatMap_cons] at ih
      split
      · rename_i hpart
        subst hpart
        simp [← ih]
      · simp [← ih]
    · rename_i hruns
      rw [hruns] at ih
      simp [← ih]

theorem runs_chain (tagged : List (Part × Char)) :
    ((runs tagged).map (·.1)).IsChain (· ≠ ·) := by
  induction tagged with
  | nil => exact List.isChain_nil
  | cons x tagged ih =>
    obtain ⟨part, c⟩ := x
    rw [runs]
    split
    · rename_i next cs more hruns
      rw [hruns, List.map_cons] at ih
      split
      · rename_i hpart
        subst hpart
        exact ih
      · rename_i hpart
        exact List.isChain_cons_cons.mpr ⟨hpart, ih⟩
    · exact List.isChain_singleton _

theorem ne_nil_of_mem_runs {r : Part × List Char} (hr : r ∈ runs tagged) : r.2 ≠ [] := by
  induction tagged generalizing r with
  | nil => exact absurd hr List.not_mem_nil
  | cons x tagged ih =>
    obtain ⟨part, c⟩ := x
    rw [runs] at hr
    split at hr
    · rename_i next cs more hruns
      rw [hruns] at ih
      split at hr
      · rcases List.mem_cons.mp hr with rfl | hr
        · exact List.cons_ne_nil c cs
        · exact ih (List.mem_cons_of_mem _ hr)
      · rcases List.mem_cons.mp hr with rfl | hr
        · exact List.cons_ne_nil c []
        · exact ih hr
    · rw [List.mem_singleton.mp hr]
      exact List.cons_ne_nil c []

/-- The characters of a text in a part. -/
def select (part : Part) (tagged : List (Part × Char)) : List Char :=
  (tagged.filter (·.1 = part)).map (·.2)

theorem select_append : select part (tagged ++ tagged') =
    select part tagged ++ select part tagged' := by
  simp [select]

theorem select_runs (part : Part) (tagged : List (Part × Char)) :
    (((runs tagged).filter (·.1 = part)).flatMap (·.2)) = select part tagged := by
  conv_rhs => rw [← flatten_runs tagged]
  induction runs tagged with
  | nil => rfl
  | cons r more ih =>
    rw [List.flatMap_cons, select_append, ← ih]
    by_cases hpart : r.1 = part
    · simp [select, hpart, List.filter_map, Function.comp_def]
    · simp [select, hpart, List.filter_map, Function.comp_def]

theorem style_inj {scheme : Scheme} {part part' : Part}
    (h : part.style (.ofScheme scheme) = part'.style (.ofScheme scheme)) : part = part' := by
  revert h
  cases scheme <;> cases part <;> cases part' <;> decide

end Part

namespace Item

open Explorer.Part (atPlace select select_append)

/-- The characters of a text, each with the part at its place. -/
def tag (i : Item) (start : Nat) : List Char → List (Part × Char)
  | [] => []
  | c :: text => (atPlace i start, c) :: i.tag (start + 1) text

variable {i : Item} {start : Nat} {text text' : List Char} {part : Part}

theorem tag_append : i.tag start (text ++ text') =
    i.tag start text ++ i.tag (start + text.length) text' := by
  induction text generalizing start with
  | nil => rfl
  | cons c text ih =>
    rw [List.cons_append, tag, tag, ih, List.length_cons, Nat.add_assoc, Nat.add_comm 1,
      List.cons_append]

theorem map_zipIdx (n : Nat) :
    ((text.zipIdx n).map fun (c, n) => (atPlace i (start + n), c)) = i.tag (start + n) text := by
  induction text generalizing n with
  | nil => rfl
  | cons c text ih =>
    rw [List.zipIdx_cons, List.map_cons, ih, tag, Nat.add_assoc]

theorem tag_map (f : Char → Char) :
    i.tag start (text.map f) = (i.tag start text).map fun x => (x.1, f x.2) := by
  induction text generalizing start with
  | nil => rfl
  | cons c text ih => rw [List.map_cons, tag, tag, ih, List.map_cons]

theorem map_snd_tag : (i.tag start text).map (·.2) = text := by
  induction text generalizing start with
  | nil => rfl
  | cons c text ih => rw [tag, List.map_cons, ih]

theorem tag_of_same (h : ∀ n < text.length, atPlace i (start + n) = part) :
    i.tag start text = text.map (part, ·) := by
  induction text generalizing start with
  | nil => rfl
  | cons c text ih =>
    have hhere : atPlace i start = part := h 0 (Nat.succ_pos _)
    rw [tag, List.map_cons, hhere, ih]
    intro n hn
    rw [Nat.add_assoc, Nat.add_comm 1]
    exact h (n + 1) (Nat.succ_lt_succ hn)

theorem select_tag_map (f : Char → Char) :
    select part (i.tag start (text.map f)) = (select part (i.tag start text)).map f := by
  simp [tag_map, select, List.filter_map, Function.comp_def]

theorem select_tag_subset : select part (i.tag start text) ⊆ text := by
  intro c hc
  obtain ⟨x, hx, rfl⟩ := List.mem_map.mp hc
  have hmem : x.2 ∈ (i.tag start text).map (·.2) :=
    List.mem_map_of_mem (List.mem_of_mem_filter hx)
  rwa [map_snd_tag] at hmem

/-- The only newline of a row is its last character, which is not drawn: what is before it stays at
its place. -/
theorem select_tag_drawn (hnewline : '\n' ∉ text.dropLast) :
    select part (i.tag start (drawn text)) = legible (select part (i.tag start text)) := by
  by_cases hlast : text.getLast? = some '\n'
  · have hdrawn : drawn text = text.dropLast.map drawnChar := by
      rw [drawn, if_pos hlast]
      rfl
    have hrow : text = text.dropLast ++ ['\n'] := (List.dropLast_append_getLast? _ hlast).symm
    have hend : ∀ n, legible (select part (i.tag n ['\n'])) = [] := by
      intro n
      by_cases hpart : atPlace i n = part <;> simp [tag, select, hpart, legible]
    rw [hdrawn, select_tag_map]
    conv_rhs => rw [hrow, tag_append, select_append, legible_append, hend, List.append_nil]
    exact (legible_of_not_mem fun hmem => hnewline (select_tag_subset hmem)).symm
  · have hdrawn : drawn text = text.map drawnChar := by
      rw [drawn, if_neg hlast]
      rfl
    have hnone : '\n' ∉ text := by
      intro hmem
      rcases List.eq_nil_or_concat text with rfl | ⟨front, c, rfl⟩
      · exact absurd hmem List.not_mem_nil
      · rw [List.concat_eq_append] at hnewline hlast hmem
        rw [List.dropLast_concat] at hnewline
        rw [List.getLast?_concat, Option.some_inj] at hlast
        rcases List.mem_append.mp hmem with hmem | hmem
        · exact hnewline hmem
        · exact hlast (List.mem_singleton.mp hmem).symm
    rw [hdrawn, select_tag_map]
    exact (legible_of_not_mem fun hmem => hnone (select_tag_subset hmem)).symm

theorem select_placed {rows : List (List Char)} (hnewline : ∀ row ∈ rows, '\n' ∉ row.dropLast) :
    ((placed start rows).flatMap fun (n, row) => select part (i.tag n (drawn row))) =
      legible (select part (i.tag start rows.flatten)) := by
  induction rows generalizing start with
  | nil => rfl
  | cons row rows ih =>
    rw [List.forall_mem_cons] at hnewline
    rw [placed, List.flatMap_cons, ih hnewline.2, List.flatten_cons, tag_append, select_append,
      legible_append]
    exact congrArg (· ++ _) (select_tag_drawn hnewline.1)

theorem atPlace_heading {n : Nat} (hn : n < i.event.heading.toList.length) :
    atPlace i n = .heading := by
  simp only [atPlace, if_pos hn]

theorem atPlace_message (n : Nat) : atPlace i (i.event.heading.toList.length + n) =
    if i.highlight.any fun h => h.start ≤ n && n < h.stop then .highlight else .text := by
  have hmoved : ∀ h : Span, (h.start + i.event.heading.toList.length ≤
      i.event.heading.toList.length + n ↔ h.start ≤ n) ∧
      (i.event.heading.toList.length + n < h.stop + i.event.heading.toList.length ↔ n < h.stop) := by
    intro h
    omega
  simp only [atPlace, if_neg (Nat.not_lt.mpr (Nat.le_add_right _ n)), hmoved]

theorem tag_message (i : Item) (message : List Char) :
    i.tag i.event.heading.toList.length message =
      match i.highlight with
      | none => message.map (.text, ·)
      | some h => (message.take h.start).map (.text, ·) ++
          ((message.take h.stop).drop h.start).map (.highlight, ·) ++
          (message.drop (max h.start h.stop)).map (.text, ·) := by
  cases hhl : i.highlight with
  | none =>
    apply tag_of_same
    intro n _
    simp [atPlace_message, hhl]
  | some h =>
    have hcut : message = message.take h.start ++ (message.take h.stop).drop h.start ++
        message.drop (max h.start h.stop) := by
      have hmax : max h.start h.stop = h.start + (h.stop - h.start) := by omega
      rw [List.drop_take, hmax, ← List.drop_drop, List.append_assoc, List.take_append_drop,
        List.take_append_drop]
    conv_lhs => rw [hcut, tag_append, tag_append]
    congr 1
    · congr 1
      · apply tag_of_same
        intro n hn
        rw [List.length_take] at hn
        rw [atPlace_message, hhl, if_neg]
        simp only [Option.any_some, Bool.and_eq_true, decide_eq_true_eq]
        omega
      · apply tag_of_same
        intro n hn
        rw [List.length_drop, List.length_take] at hn
        rw [Nat.add_assoc, atPlace_message, hhl, if_pos]
        simp only [Option.any_some, Bool.and_eq_true, decide_eq_true_eq, List.length_take]
        omega
    · apply tag_of_same
      intro n hn
      rw [List.length_drop] at hn
      rw [Nat.add_assoc, atPlace_message, hhl, if_neg]
      simp only [Option.any_some, Bool.and_eq_true, decide_eq_true_eq, List.length_append,
        List.length_take, List.length_drop]
      omega

theorem select_same (part part' : Part) (text : List Char) :
    select part (text.map (part', ·)) = if part' = part then text else [] := by
  by_cases hpart : part' = part <;> simp [select, hpart, List.filter_map, Function.comp_def]

/-- What the parts of a line are. -/
theorem select_line (i : Item) : let tagged := i.tag 0 i.event.line.toList
    select .heading tagged = i.event.heading.toList ∧
      select .highlight tagged = highlighted i.highlight i.event.message.toList ∧
      select .text tagged = unmarked i.highlight i.event.message.toList := by
  intro tagged
  have htagged : tagged = i.event.heading.toList.map (.heading, ·) ++
      i.tag i.event.heading.toList.length i.event.message.toList := by
    have hheading : i.tag 0 i.event.heading.toList = i.event.heading.toList.map (.heading, ·) := by
      apply tag_of_same
      intro n hn
      rw [Nat.zero_add]
      exact atPlace_heading hn
    simp only [tagged, Event.line, String.toList_append, tag_append, hheading, Nat.zero_add]
  rw [htagged, tag_message]
  cases i.highlight with
  | none => simp [select_append, select_same, highlighted, unmarked]
  | some h =>
    simp [select_append, select_same, highlighted, unmarked, -List.map_take, -List.map_drop]

end Item

/-! ### The heading is drawn as it is -/

/-- A text without control characters. -/
def Printed (text : String) : Prop := ∀ c ∈ text.toList, Text.isControl c = false

instance (text : String) : Decidable (Printed text) :=
  decidable_of_iff (text.toList.all fun c => !Text.isControl c) (by simp [Printed])

theorem printed_append {s t : String} : Printed (s ++ t) ↔ Printed s ∧ Printed t := by
  simp only [Printed, String.toList_append, List.forall_mem_append]

theorem printed_of_isDigit {cs : List Char} (h : ∀ c ∈ cs, Number.isDigit c = true) :
    Printed (String.ofList cs) := by
  intro c hc
  rw [String.toList_ofList] at hc
  have hdigit := Number.isDigit_iff.mp (h c hc)
  simp only [Text.isControl, Bool.or_eq_false_iff, Bool.and_eq_false_iff, decide_eq_false_iff_not]
  omega

theorem printed_padded (width n : Nat) : Printed (Number.padded width n) := by
  apply printed_of_isDigit
  intro c hc
  rcases List.mem_append.mp hc with hc | hc
  · rw [List.eq_of_mem_replicate hc]
    rfl
  · exact Number.isDigit_of_mem_toDigits hc

theorem printed_toString (n : Int) : Printed (toString n) := by
  have hnat : ∀ n : Nat, Printed (toString n) := by
    intro n
    rw [Nat.toString_eq_ofList_toDigits]
    exact printed_of_isDigit fun c hc => Number.isDigit_of_mem_toDigits hc
  cases n with
  | ofNat n => exact hnat n
  | negSucc n => exact printed_append.mpr ⟨by decide, hnat (n + 1)⟩

theorem printed_yearText (year : Int) : Printed (Time.yearText year) := by
  unfold Time.yearText
  split_ifs
  · exact printed_padded 4 _
  · exact printed_append.mpr ⟨by decide, printed_padded 4 _⟩
  · exact printed_append.mpr ⟨by decide, printed_padded 4 _⟩

theorem printed_isoText (millis : Int) : Printed (Time.isoText millis) := by
  unfold Time.isoText
  split_ifs
  · simp only [Time.DateTime.isoText, printed_append, printed_padded, printed_yearText]
    decide
  · exact printed_toString millis

theorem legible_of_printed {text : String} (h : Printed text) :
    legible text.toList = text.toList := by
  have hnewline : '\n' ∉ text.toList := fun hmem => absurd (h _ hmem) (by decide)
  rw [legible_of_not_mem hnewline, List.map_congr_left (g := id), List.map_id]
  intro c hc
  rw [drawnChar, h c hc]
  rfl

theorem legible_heading (e : Event) : legible e.heading.toList = e.heading.toList :=
  legible_of_printed (printed_append.mpr ⟨printed_isoText e.timestamp, by decide⟩)

/-! ### The rows of an event -/

theorem rowParts_eq (i : Item) (start : Nat) (row : List Char) :
    rowParts i start row = Part.runs (i.tag start (drawn row)) :=
  congrArg Part.runs (Item.map_zipIdx 0)

theorem piecesText_rowPieces (t : Theme) (i : Item) (start : Nat) (row : List Char) :
    piecesText (rowPieces t i start row) = drawn row := by
  have hall := congrArg (List.map (·.2)) (Part.flatten_runs (i.tag start (drawn row)))
  rw [Item.map_snd_tag, List.map_flatMap] at hall
  rw [piecesText, rowPieces, rowParts_eq, List.flatMap_map]
  simpa [Function.comp_def] using hall

theorem piecesText_filter (scheme : Scheme) (part : Part) (i : Item) (start : Nat)
    (row : List Char) :
    piecesText ((rowPieces (.ofScheme scheme) i start row).filter
        (·.style = part.style (.ofScheme scheme))) =
      Part.select part (i.tag start (drawn row)) := by
  have hstyle : ∀ part', part'.style (.ofScheme scheme) = part.style (.ofScheme scheme) ↔
      part' = part := fun part' => ⟨Part.style_inj, fun h => by rw [h]⟩
  rw [← Part.select_runs, ← rowParts_eq, piecesText, rowPieces, List.filter_map, List.flatMap_map]
  simp only [Function.comp_def, hstyle]

theorem shownIn_of (scheme : Scheme) (part : Part) (width : Nat) (e : Event)
    (highlight : Option Span) : let i := Item.of width e highlight
    shownIn (.ofScheme scheme) i (part.style (.ofScheme scheme)) =
      legible (Part.select part (i.tag 0 e.line.toList)) := by
  intro i
  have hgreedy : Greedy (max width 1) e.line.toList i.rows := greedy_wrap width e.line.toList
  simp only [shownIn, piecesText_filter]
  rw [Item.select_placed hgreedy.newline, hgreedy.flatten_eq]

theorem rowPieces_chain (scheme : Scheme) (i : Item) (start : Nat) (row : List Char) :
    ((rowPieces (.ofScheme scheme) i start row).map (·.style)).IsChain (· ≠ ·) := by
  have hchain := Part.runs_chain (i.tag start (drawn row))
  have hstyles : (rowPieces (.ofScheme scheme) i start row).map (·.style) =
      ((Part.runs (i.tag start (drawn row))).map (·.1)).map (Part.style (.ofScheme scheme)) := by
    rw [rowPieces, rowParts_eq, List.map_map, List.map_map]
    rfl
  rw [hstyles, List.isChain_map]
  exact hchain.imp fun _ _ hne heq => hne (Part.style_inj heq)

theorem nil_not_mem_rowPieces (t : Theme) (i : Item) (start : Nat) (row : List Char) :
    [] ∉ (rowPieces t i start row).map (·.text) := by
  rw [rowPieces, rowParts_eq, List.map_map]
  intro hmem
  obtain ⟨r, hr, hnil⟩ := List.mem_map.mp hmem
  exact Part.ne_nil_of_mem_runs hr hnil

/-- The pieces of a row are its text, the one that a view gives for it; none is empty, and neighbours
differ in style. Over the rows of an event, for any width, the pieces in the style of times make up
the heading, those in the style of highlights the highlighted stretch of the message, and those in the
style of text the rest of the message, all without newlines and with spaces for other control
characters. -/
theorem styled_rows_show_event (scheme : Scheme) (width : Nat) (e : Event)
    (highlight : Option Span) :
    let t := Theme.ofScheme scheme
    let i := Item.of width e highlight
    let message := e.message.toList
    (∀ start row, piecesText (rowPieces t i start row) = drawn row ∧
      [] ∉ (rowPieces t i start row).map (·.text) ∧
      ((rowPieces t i start row).map (·.style)).IsChain (· ≠ ·)) ∧
    (∀ v : View, v.visibleText = v.visibleRows.map fun (i, start, row) =>
      String.ofList (piecesText (rowPieces t i start row))) ∧
    shownIn t i t.timestamp = e.heading.toList ∧
    shownIn t i t.highlight = legible (highlighted highlight message) ∧
    shownIn t i t.text = legible (unmarked highlight message) := by
  intro t i message
  obtain ⟨hheading, hhighlight, htext⟩ := Item.select_line i
  refine ⟨?_, ?_, ?_, ?_, ?_⟩
  · intro start row
    exact ⟨piecesText_rowPieces t i start row, nil_not_mem_rowPieces t i start row,
      rowPieces_chain scheme i start row⟩
  · intro v
    simp only [View.visibleText, piecesText_rowPieces]
  · exact (shownIn_of scheme .heading width e highlight).trans
      ((congrArg legible hheading).trans (legible_heading e))
  · exact (shownIn_of scheme .highlight width e highlight).trans (congrArg legible hhighlight)
  · exact (shownIn_of scheme .text width e highlight).trans (congrArg legible htext)

end LogFollow.Explorer
