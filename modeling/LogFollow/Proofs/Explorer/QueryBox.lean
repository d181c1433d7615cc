import LogFollow.Explorer.Drawing
import Mathlib.Order.Bounds.Basic
import Mathlib.Tactic.SplitIfs

/-!
# The cursor of the query box

The query box leaves out characters at the front of its text one after another until those before
the cursor fit beside the prompt and the cursor. So the cursor is drawn left of the right side of
the border, whatever the columns of the characters are.
-/

namespace LogFollow.Explorer
set_option autoImplicit false

open Text

namespace Editor

def promptWidth (e : Editor) : Nat := listWidth e.prompt.toList

/-- The columns of the characters from one of them up to the cursor. -/
def columnsFrom (e : Editor) (first : Nat) : Nat := listWidth ((e.text.take e.cursor).drop first)

/-- The first character from which the cursor is at most `room` columns away. -/
def IsFirst (e : Editor) (room first : Nat) : Prop :=
  IsLeast {k | k ≤ e.cursor ∧ e.columnsFrom k ≤ room} first

end Editor

variable {e : Editor} {r : Rect} {room width first n : Nat}

/-! Scrolling -/

theorem scrolled_eq (room : Nat) (before after : List Char) : ∃ first,
    IsLeast {k | k ≤ before.length ∧ listWidth (before.drop k) ≤ room} first ∧
      scrolled room before after = (before.drop first ++ after, listWidth (before.drop first)) := by
  induction before with
  | nil => exact ⟨0, ⟨⟨Nat.le_refl 0, Nat.zero_le room⟩, fun _ _ => Nat.zero_le _⟩, rfl⟩
  | cons c cs ih =>
    rw [scrolled]
    split_ifs with hfits
    · exact ⟨0, ⟨⟨Nat.zero_le _, hfits⟩, fun _ _ => Nat.zero_le _⟩, rfl⟩
    · -- without 0, the candidates are those of the shorter text moved by one
      obtain ⟨first, ⟨hmem, hleast⟩, heq⟩ := ih
      refine ⟨first + 1, ⟨⟨Nat.succ_le_succ hmem.1, hmem.2⟩, ?_⟩, heq⟩
      rintro (_ | k) ⟨hk, hroom⟩
      · exact absurd hroom hfits
      · exact Nat.succ_le_succ (hleast ⟨Nat.le_of_succ_le_succ hk, hroom⟩)

theorem Editor.isFirst_of_length
    (h : IsLeast {k | k ≤ (e.text.take e.cursor).length ∧ e.columnsFrom k ≤ room} first) :
    e.IsFirst room first := by
  obtain ⟨⟨hlength, hroom⟩, hleast⟩ := h
  refine ⟨⟨Nat.le_trans hlength (List.length_take_le _ _), hroom⟩, ?_⟩
  rintro k ⟨-, hk⟩
  rcases Nat.le_total k (e.text.take e.cursor).length with hinside | hbehind
  · exact hleast ⟨hinside, hk⟩
  · exact Nat.le_trans hlength hbehind

theorem boxText_eq (hwidth : e.promptWidth + 1 ≤ width) : ∃ first,
    e.IsFirst (width - e.promptWidth - 1) first ∧
      boxText e width = (e.text.drop first, e.promptWidth + e.columnsFrom first) := by
  obtain ⟨first, hfirst, heq⟩ :=
    scrolled_eq (width - (e.promptWidth + 1)) (e.text.take e.cursor) (e.text.drop e.cursor)
  have hroom : e.columnsFrom first ≤ width - (e.promptWidth + 1) := hfirst.1.2
  have hcolumn : e.promptWidth + e.columnsFrom first ≤ width := by omega
  refine ⟨first, Nat.sub_sub _ _ _ ▸ Editor.isFirst_of_length hfirst, ?_⟩
  rw [← List.drop_append_of_le_length hfirst.1.1, List.take_append_drop] at heq
  rw [boxText, ← Editor.promptWidth, heq]
  exact congrArg _ (Nat.min_eq_left hcolumn)

theorem Editor.IsFirst.columnsFrom_lt (h : e.IsFirst (width - e.promptWidth - 1) first)
    (hwidth : e.promptWidth + 1 ≤ width) : e.promptWidth + e.columnsFrom first < width := by
  have hroom := h.1.2
  omega

/-! Areas -/

/-- The right side of the border is the last column of the area. -/
theorem inside_lt_border (hright : r.x + r.width ≤ maxExtent) (hn : n < r.inside.width) :
    r.inside.x + n < r.right - 1 := by
  simp only [Rect.inside, Rect.right] at hn ⊢
  omega

/-! The box -/

/-- Wherever the columns of the area have numbers, the text is drawn from the first character on that
lets the cursor stay beside the prompt, and the cursor, behind the columns of the characters before
it, is left of the border. -/
theorem query_cursor_left_of_border (t : Theme) (s : Session) (area : Rect) (f : Frame)
    (hright : area.x + area.width ≤ maxExtent)
    (hwidth : s.editor.promptWidth + 1 ≤ area.inside.width) :
    ∃ first, s.editor.IsFirst (area.inside.width - s.editor.promptWidth - 1) first ∧
      drawQuery t s area f =
        { screen := (f.screen.drawBox area (t.border (s.focus == .query))).drawLines area.inside
            [[.of s.editor.prompt t.dimText.inBold,
              ⟨s.editor.text.drop first, if s.focus == .query then t.text else t.dimText⟩]]
          cursor :=
            if s.focus == .query then
              some (area.inside.x + (s.editor.promptWidth + s.editor.columnsFrom first),
                area.inside.y)
            else f.cursor } ∧
      area.inside.x + (s.editor.promptWidth + s.editor.columnsFrom first) < area.right - 1 := by
  obtain ⟨first, hfirst, heq⟩ := boxText_eq hwidth
  refine ⟨first, hfirst, ?_, inside_lt_border hright (hfirst.columnsFrom_lt hwidth)⟩
  rw [drawQuery, heq]

/-- Characters of two columns, of one and of none, and the cursor before the last one. -/
def mixedEditor : Editor where
  prompt := queryPrompt
  text := "日e\u0301本語ab".toList
  cursor := 6

def mixedSession : Session :=
  { Session.new { keymap := .initial, capacity := 1, mode := .received, spinnerSet := fun _ => 0 }
    with focus := .query, editor := mixedEditor }

/-- Five columns are left for the text before the cursor, so it begins with a combining mark. -/
theorem query_cursor_left_of_border_of_mixed :
    mixedSession.editor.promptWidth + 1 ≤ (Rect.mk 0 0 15 3).inside.width ∧
      (drawQuery (.ofScheme .dark) mixedSession ⟨0, 0, 15, 3⟩ ⟨.blank 15 3, none⟩).cursor =
        some (13, 1) ∧
      13 < (Rect.mk 0 0 15 3).right - 1 := by
  have hinside : (Rect.mk 0 0 15 3).inside = ⟨1, 1, 13, 1⟩ := by
    decide
  have hprompt : mixedSession.editor.promptWidth = 7 := by
    decide +kernel
  have htwo : mixedSession.editor.IsFirst 5 2 := by
    have hwide : ∀ k : Fin 2, ¬ mixedSession.editor.columnsFrom k ≤ 5 := by
      decide +kernel
    refine ⟨⟨by decide, by decide +kernel⟩, fun k hk => Nat.le_of_not_lt fun hlt => ?_⟩
    exact hwide ⟨k, hlt⟩ hk.2
  have hcolumns : mixedSession.editor.columnsFrom 2 = 5 := by
    decide +kernel
  have hwidth : mixedSession.editor.promptWidth + 1 ≤ (Rect.mk 0 0 15 3).inside.width := by
    rw [hprompt, hinside]
    decide
  obtain ⟨first, hfirst, heq, hlt⟩ := query_cursor_left_of_border (.ofScheme .dark) mixedSession
    ⟨0, 0, 15, 3⟩ ⟨.blank 15 3, none⟩ (by decide) hwidth
  rw [hinside, hprompt] at hfirst heq hlt
  obtain rfl : first = 2 := hfirst.unique htwo
  rw [hcolumns] at heq hlt
  exact ⟨hwidth, congrArg Frame.cursor heq, hlt⟩

end LogFollow.Explorer
