import LogFollow.Number.Bounded
import LogFollow.Text.Infix

/-! # Themes

A theme gives each part of the screen a style, for a dark or a light terminal. Where the user does
not say which, the terminal's environment tells. -/

namespace LogFollow.Explorer
set_option autoImplicit false

inductive Color
  | black
  | indexed (n : Nat)
  | rgb (red green blue : Nat)
  deriving DecidableEq, Repr

/-- How text is drawn; without a colour it has that of the terminal. -/
structure Style where
  front : Option Color := none
  back : Option Color := none
  bold : Bool := false
  italic : Bool := false
  deriving DecidableEq, Repr

def Style.colored (c : Color) : Style := { front := some c }

def Style.inBold (s : Style) : Style := { s with bold := true }

inductive Scheme
  | dark
  | light
  deriving DecidableEq, Repr

structure Terminal where
  program : Option String := none
  /-- The colours in use, by number: the front, a semicolon, the background. -/
  colors : Option String := none
  deriving DecidableEq, Repr

def Terminal.background (t : Terminal) : Option Int := do
  let colors ← t.colors
  let number ← (colors.splitOn ";")[1]?
  (Number.readSigned 2147483647 number).toOption

/-- The scheme of a terminal: editors are light, and so is a background from 7 on. -/
def Terminal.scheme (t : Terminal) : Scheme :=
  if t.program.any (Text.occurs "vscode" ·) then .light
  else if t.background.any (7 ≤ ·) then .light
  else .dark

/-- The scheme of a name; any other name leaves it to the terminal. -/
def Scheme.ofName (name : String) (t : Terminal) : Scheme :=
  match name with
  | "dark" => .dark
  | "light" => .light
  | _ => t.scheme

structure Theme where
  scheme : Scheme
  focusedBorder : Style
  blurredBorder : Style
  text : Style
  dimText : Style
  timestamp : Style
  highlight : Style
  failure : Style
  status : Style
  deriving DecidableEq, Repr

namespace Theme

def ofScheme (s : Scheme) : Theme :=
  let (text, dim, timestamp) : Color × Color × Color :=
    match s with
    | .dark => (.rgb 240 240 240, .indexed 240, .indexed 110)
    | .light => (.rgb 30 30 30, .indexed 245, .indexed 25)
  { scheme := s
    focusedBorder := .colored (.indexed 62)
    blurredBorder := .colored (.indexed 240)
    text := .colored text
    dimText := .colored dim
    timestamp := .colored timestamp
    highlight := { front := some .black, back := some (.indexed 214), bold := true }
    failure := { front := some (.indexed 196), bold := true }
    status := { front := some dim, italic := true } }

def ofName (name : String) (t : Terminal) : Theme := ofScheme (Scheme.ofName name t)

def border (t : Theme) (focused : Bool) : Style :=
  if focused then t.focusedBorder else t.blurredBorder

end Theme
end LogFollow.Explorer
