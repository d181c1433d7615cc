import LogFollow.Config.Setting

/-! # Keys of the explorer

Each action is bound to the chord that the user chose, and the movements also to their own keys.
The keys worth showing depend on where the focus is and on whether a query is under way. -/

namespace LogFollow.Explorer
set_option autoImplicit false

inductive Focus
  | log
  | query
  deriving DecidableEq, Repr

inductive Load
  | idle
  | querying
  deriving DecidableEq, Repr

structure Binding where
  chords : List Chord
  label : String
  help : String
  deriving DecidableEq, Repr

def Binding.accepts (b : Binding) (p : KeyPress) : Bool := b.chords.any (·.accepts p)

def helpText : Action → String
  | .switchFocus => "switch focus"
  | .submit => "run query"
  | .quit => "quit"
  | .scrollUp => "scroll up"
  | .scrollDown => "scroll down"
  | .pageUp => "prev page"
  | .pageDown => "next page"

/-- The key that an action keeps besides the chosen one. -/
def lastingKey : Action → Option Key
  | .scrollUp => some .up
  | .scrollDown => some .down
  | .pageUp => some .pageUp
  | .pageDown => some .pageDown
  | .switchFocus | .submit | .quit => none

def Binding.of (a : Action) (chord : Chord) (name : String) : Binding :=
  let lasting := ((lastingKey a).map fun key => (⟨key, false, false⟩ : Chord)).toList
  ⟨chord :: lasting.filter (· != chord), name, helpText a⟩

structure Keymap where
  switchFocus : Binding
  submit : Binding
  quit : Binding
  scrollUp : Binding
  scrollDown : Binding
  pageUp : Binding
  pageDown : Binding
  deriving DecidableEq, Repr

namespace Keymap

def binding (k : Keymap) : Action → Binding
  | .switchFocus => k.switchFocus
  | .submit => k.submit
  | .quit => k.quit
  | .scrollUp => k.scrollUp
  | .scrollDown => k.scrollDown
  | .pageUp => k.pageUp
  | .pageDown => k.pageDown

def initial : Keymap where
  switchFocus := .of .switchFocus ⟨.tab, false, false⟩ "tab"
  submit := .of .submit ⟨.enter, false, false⟩ "enter"
  quit := .of .quit ⟨.char 'q', false, false⟩ "q"
  scrollUp := .of .scrollUp ⟨.char 'k', false, false⟩ "k"
  scrollDown := .of .scrollDown ⟨.char 'j', false, false⟩ "j"
  pageUp := .of .pageUp ⟨.char 'h', false, false⟩ "h"
  pageDown := .of .pageDown ⟨.char 'l', false, false⟩ "l"

def bind (a : Action) (name : String) : Except ConfigError Binding :=
  match Chord.ofName? name with
  | some chord => .ok (.of a chord name)
  | none => .error (.unknownKey name)

/-- The bindings to chosen key names; the first unknown name is an error. -/
def ofNames (keys : Action → String) : Except ConfigError Keymap := do
  let bound := fun a => bind a (keys a)
  .ok
    { switchFocus := ← bound .switchFocus
      submit := ← bound .submit
      quit := ← bound .quit
      scrollUp := ← bound .scrollUp
      scrollDown := ← bound .scrollDown
      pageUp := ← bound .pageUp
      pageDown := ← bound .pageDown }

def shownActions : Focus → Load → List Action
  | .query, _ => [.switchFocus, .submit]
  | .log, .querying => [.quit]
  | .log, .idle => [.scrollDown, .scrollUp, .pageUp, .pageDown, .switchFocus, .quit]

def help (k : Keymap) (focus : Focus) (load : Load) : List Binding :=
  (shownActions focus load).map k.binding

end Keymap
end LogFollow.Explorer
