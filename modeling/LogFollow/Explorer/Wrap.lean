import LogFollow.Text.Width

/-! # Wrapping

A text is cut into rows that fit a width in columns: a row takes characters as long as they fit,
and at least one. A newline ends its row and is part of it. -/

namespace LogFollow.Explorer
set_option autoImplicit false

/-- The columns that a character takes once it is drawn: a newline takes none, and other control
characters are drawn as a space. -/
def columns (c : Char) : Nat :=
  if c = '\n' then 0 else if Text.isControl c then 1 else Text.charWidth c

/-- The rest of a row behind `used` columns, and the rows below it. The first character of a row is
always taken. -/
def rowsFrom (width : Nat) (started : Bool) (used : Nat) :
    List Char → List Char × List (List Char)
  | [] => ([], [])
  | c :: cs =>
    let fits := !started || used + columns c ≤ width
    let (row, below) :=
      if c = '\n' then
        match rowsFrom width false 0 cs with
        | ([], below) => ([], below)
        | (row, below) => ([], row :: below)
      else rowsFrom width true (if fits then used + columns c else columns c) cs
    if fits then (c :: row, below) else ([], (c :: row) :: below)

/-- The rows of a text for a width, of which there is at least one; width zero counts as one. -/
def wrap (width : Nat) (text : List Char) : List (List Char) :=
  let (row, below) := rowsFrom (max width 1) false 0 text
  row :: below

/-- A row as it is drawn: without its newline, and with spaces for control characters. -/
def drawn (row : List Char) : List Char :=
  let row := if row.getLast? = some '\n' then row.dropLast else row
  row.map fun c => if Text.isControl c then ' ' else c

end LogFollow.Explorer
