/-! # Keys

A key press is a key with the modifiers held. A chord is what a binding waits for: a key, and
whether Ctrl and Alt are held. Shift does not count, as it shows in the character itself. -/

namespace LogFollow
set_option autoImplicit false

inductive Key
  | char (c : Char)
  | tab | backTab | enter | esc
  | up | down | left | right
  | pageUp | pageDown | home | atEnd
  | backspace | delete | insert
  | function (n : Nat)
  | none
  deriving DecidableEq, Repr

structure KeyPress where
  key : Key
  ctrl : Bool := false
  alt : Bool := false
  shift : Bool := false
  deriving DecidableEq, Repr

/-- A key with the modifiers that must be held. -/
structure Chord where
  key : Key
  ctrl : Bool := false
  alt : Bool := false
  deriving DecidableEq, Repr

def Chord.accepts (c : Chord) (p : KeyPress) : Bool :=
  c.key == p.key && c.ctrl == p.ctrl && c.alt == p.alt

def Key.ofName? (name : String) : Option Key :=
  match name with
  | "tab" => some .tab
  | "enter" => some .enter
  | "return" => some .enter
  | "esc" => some .esc
  | "escape" => some .esc
  | "space" => some (.char ' ')
  | "up" => some .up
  | "down" => some .down
  | "left" => some .left
  | "right" => some .right
  | "pageup" => some .pageUp
  | "pagedown" => some .pageDown
  | "home" => some .home
  | "end" => some .atEnd
  | _ => Option.none

end LogFollow
