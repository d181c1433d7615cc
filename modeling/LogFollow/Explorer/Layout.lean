/-! # Layout

The screen is cut into the query box, the log pane and the help line, from top to bottom. -/

namespace LogFollow.Explorer
set_option autoImplicit false

structure Rect where
  x : Nat
  y : Nat
  width : Nat
  height : Nat
  deriving DecidableEq, Repr

/-- The greatest number of a column or row, and of the cells of an area. -/
def maxExtent : Nat := 65535

namespace Rect

/-- An area of a given size. One with too many cells is made smaller in its proportions. -/
def of (x y width height : Nat) : Rect :=
  if width * height ≤ maxExtent then ⟨x, y, width, height⟩
  else
    let aspect := Float.ofNat width / Float.ofNat height
    let h := (Float.ofNat maxExtent / aspect).sqrt
    ⟨x, y, (h * aspect).toUInt16.toNat, h.toUInt16.toNat⟩

def isEmpty (r : Rect) : Bool := r.width == 0 || r.height == 0

def right (r : Rect) : Nat := min (r.x + r.width) maxExtent

def bottom (r : Rect) : Nat := min (r.y + r.height) maxExtent

def inside (r : Rect) : Rect :=
  ⟨min (r.x + 1) r.right, min (r.y + 1) r.bottom, r.width - 2, r.height - 2⟩

/-- An area with `n` columns less on both sides. -/
def padded (r : Rect) (n : Nat) : Rect :=
  ⟨min (r.x + n) maxExtent, r.y, r.width - 2 * n, r.height⟩

end Rect

def queryHeight : Nat := 3

/-- The columns between the border of the log pane and its text. -/
def logPadding : Nat := 2

structure Panes where
  query : Rect
  log : Rect
  help : Rect
  deriving DecidableEq, Repr

/-- Cuts an area into its parts: one row for the help line, the query box above it as far as there
is room, and the log pane between them. -/
def panes (area : Rect) : Panes :=
  let height := area.bottom - area.y
  let help := min height 1
  let query := min (height - help) queryHeight
  let log := height - help - query
  { query := { area with height := query }
    log := { area with y := area.y + query, height := log }
    help := { area with y := area.y + query + log, height := help } }

/-- The columns and rows of log text on a screen, at least one column. -/
def logExtent (area : Rect) : Nat × Nat :=
  let log := (panes area).log
  (max (log.width - (2 + 2 * logPadding)) 1, log.height - 2)

end LogFollow.Explorer
