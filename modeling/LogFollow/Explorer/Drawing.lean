import LogFollow.Explorer.Screen
import LogFollow.Explorer.Session

/-! # Drawing

How a session looks: the query box with its cursor, the log pane, and the help line. Each row of a
line is cut into parts, and the part decides about the style. -/

namespace LogFollow.Explorer
set_option autoImplicit false

inductive Part
  | heading
  | text
  | highlight
  deriving DecidableEq, Repr

namespace Part

def style (t : Theme) : Part → Style
  | .heading => t.timestamp
  | .text => t.text
  | .highlight => t.highlight

def atPlace (i : Item) (place : Nat) : Part :=
  let heading := i.event.heading.toList.length
  if place < heading then .heading
  else if i.highlight.any fun h => h.start + heading ≤ place && place < h.stop + heading then
    .highlight
  else .text

/-- Joins neighbours of the same part. -/
def runs : List (Part × Char) → List (Part × List Char)
  | [] => []
  | (part, c) :: rest =>
    match runs rest with
    | (next, cs) :: more =>
      if part = next then (part, c :: cs) :: more else (part, [c]) :: (next, cs) :: more
    | [] => [(part, [c])]

end Part

def rowParts (i : Item) (start : Nat) (row : List Char) : List (Part × List Char) :=
  Part.runs ((drawn row).zipIdx.map fun (c, n) => (Part.atPlace i (start + n), c))

def rowPieces (t : Theme) (i : Item) (start : Nat) (row : List Char) : List Piece :=
  (rowParts i start row).map fun (part, text) => ⟨text, part.style t⟩

/-- The text of the query box from the first character on that lets the cursor stay within
`room` columns, with the columns before the cursor. -/
def scrolled (room : Nat) (before after : List Char) : List Char × Nat :=
  match before with
  | [] => (after, 0)
  | c :: cs =>
    if Text.listWidth (c :: cs) ≤ room then (c :: cs ++ after, Text.listWidth (c :: cs))
    else scrolled room cs after

def boxText (e : Editor) (width : Nat) : List Char × Nat :=
  let prompt := Text.listWidth e.prompt.toList
  let room := width - (prompt + 1)
  let (text, column) := scrolled room (e.text.take e.cursor) (e.text.drop e.cursor)
  (text, min (prompt + column) width)

/-- A screen, and where its cursor is if it shows one. -/
structure Frame where
  screen : Screen
  cursor : Option (Nat × Nat) := none
  deriving DecidableEq, Repr

def drawQuery (t : Theme) (s : Session) (area : Rect) (f : Frame) : Frame :=
  let focused := s.focus == .query
  let inner := area.inside
  let (text, column) := boxText s.editor inner.width
  let style := if focused then t.text else t.dimText
  let line := [.of s.editor.prompt t.dimText.inBold, ⟨text, style⟩]
  { screen := (f.screen.drawBox area (t.border focused)).drawLines inner [line]
    cursor := if focused then some (inner.x + column, inner.y) else f.cursor }

/-- The lines of the log pane: the rows of the view, or the spinner of a query under way. -/
def logLines (t : Theme) (s : Session) : List (List Piece) :=
  match s.load with
  | .querying => [[.of (s.spinner.frame ++ " ") t.timestamp, .of "Loading query..." t.text]]
  | .idle => s.view.visibleRows.map fun (i, start, row) => rowPieces t i start row

def drawLog (t : Theme) (s : Session) (area : Rect) (f : Frame) : Frame :=
  let screen := f.screen.drawBox area (t.border (s.focus == .log))
  { f with screen := screen.drawLines (area.inside.padded logPadding) (logLines t s) }

def statusPieces (t : Theme) : Option Status → List Piece
  | none => []
  | some status =>
    let style := match status with
      | .failed .. => t.failure
      | _ => t.status
    [.of (status.message ++ " ") style, .of "• " t.dimText]

def helpPieces (t : Theme) (s : Session) : List Piece :=
  let bindings := (s.options.keymap.help s.focus s.load).map fun b =>
    [.of b.label t.text.inBold, .of (" " ++ b.help) t.dimText]
  statusPieces t s.status ++ [Piece.of " • " t.dimText].intercalate bindings

def drawHelp (t : Theme) (s : Session) (area : Rect) (f : Frame) : Frame :=
  { f with screen := f.screen.drawLines area [helpPieces t s] }

/-- Draws a session on a screen; the view takes the size of its pane. -/
def draw (t : Theme) (s : Session) (width height : Nat) : Session × Frame :=
  let area := Rect.of 0 0 width height
  let s := s.resized area
  let panes := panes area
  let frame : Frame := { screen := .blank area.width area.height }
  (s, drawHelp t s panes.help (drawLog t s panes.log (drawQuery t s panes.query frame)))

end LogFollow.Explorer
