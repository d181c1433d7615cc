import LogFollow.Explorer.Layout
import LogFollow.Explorer.Theme
import LogFollow.Text.Cluster

/-! # The screen

A grid of cells, each with a cluster of characters and a style. A cluster of two columns hides the
cell to its right. -/

namespace LogFollow.Explorer
set_option autoImplicit false

structure Cell where
  cluster : List Char := [' ']
  style : Style := {}
  deriving DecidableEq, Repr, Inhabited

structure Piece where
  text : List Char
  style : Style
  deriving DecidableEq, Repr

def Piece.of (text : String) (style : Style) : Piece := ⟨text.toList, style⟩

/-- The clusters of a piece. A newline by itself is left out. -/
def Piece.cells (p : Piece) : List Cell :=
  ((Text.clusters p.text).filter (· != ['\n'])).map fun cluster => ⟨cluster, p.style⟩

/-- The cells of a line that fit into a width, with their columns: a cluster wider than the whole
line is passed over, and the first one that finds no room ends the line. -/
def fitting (width used : Nat) : List Cell → List (Nat × Cell)
  | [] => []
  | cell :: cells =>
    let n := Text.clusterWidth cell.cluster
    if width < n then fitting width used cells
    else if width < used + n then []
    else if n = 0 then fitting width used cells
    else (used, cell) :: fitting width (used + n) cells

structure Screen where
  width : Nat
  height : Nat
  /-- The cells, row by row. -/
  cells : Array Cell
  deriving DecidableEq, Repr

namespace Screen

def blank (width height : Nat) : Screen := ⟨width, height, .replicate (width * height) {}⟩

def put (s : Screen) (x y : Nat) (cell : Cell) : Screen :=
  if x < s.width then { s with cells := s.cells.setIfInBounds (y * s.width + x) cell } else s

def putAll (s : Screen) (places : List (Nat × Nat)) (c : Char) (style : Style) : Screen :=
  places.foldl (fun s (x, y) => s.put x y ⟨[c], style⟩) s

/-- Draws a border just inside of an area. Where it is too small for all of it, the upper side wins
over the lower one and the left side over the right one. -/
def drawBox (s : Screen) (r : Rect) (style : Style) : Screen :=
  if r.isEmpty then s
  else
    let right := r.right - 1
    let bottom := r.bottom - 1
    let columns := (List.range r.width).map (r.x + ·)
    let rows := (List.range r.height).map (r.y + ·)
    let s := s.putAll (rows.map (r.x, ·)) '│' style
    let s := s.putAll (columns.map (·, r.y)) '─' style
    let s := s.putAll (rows.map (right, ·)) '│' style
    let s := s.putAll (columns.map (·, bottom)) '─' style
    let s := s.put right bottom ⟨['┘'], style⟩
    let s := s.put right r.y ⟨['┐'], style⟩
    let s := s.put r.x bottom ⟨['└'], style⟩
    s.put r.x r.y ⟨['┌'], style⟩

def drawLine (s : Screen) (x y width : Nat) (pieces : List Piece) : Screen :=
  let cells := fitting width 0 (pieces.flatMap Piece.cells)
  cells.foldl (fun s (column, cell) => s.put (x + column) y cell) s

/-- Draws lines below each other, as many as there is room for. -/
def drawLines (s : Screen) (r : Rect) (lines : List (List Piece)) : Screen :=
  if r.isEmpty then s
  else
    (lines.take r.height).zipIdx.foldl
      (fun s (pieces, i) => s.drawLine r.x (r.y + i) r.width pieces) s

/-- A row as it shows: a cell that is hidden by a wide cluster to its left has no text and no
style. -/
def shown (hidden : Nat) : List Cell → List Cell
  | [] => []
  | cell :: cells =>
    if 0 < hidden then ⟨[], {}⟩ :: shown (hidden - 1) cells
    else cell :: shown (Text.clusterWidth cell.cluster - 1) cells

def row (s : Screen) (y : Nat) : List Cell :=
  shown 0 (s.cells.extract (y * s.width) ((y + 1) * s.width)).toList

def rows (s : Screen) : List (List Cell) := (List.range s.height).map s.row

end Screen

/-- The text of a row without the spaces at its end. -/
def rowText (row : List Cell) : String :=
  let text := row.flatMap (·.cluster)
  String.ofList (text.reverse.dropWhile (· == ' ')).reverse

end LogFollow.Explorer
