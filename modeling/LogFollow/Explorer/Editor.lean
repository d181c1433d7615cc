import LogFollow.Keys.Key

/-! # The query box

A line of text with a cursor between its characters, and the texts submitted before, the newest
first. Going back in them keeps a place until the next submission. -/

namespace LogFollow.Explorer
set_option autoImplicit false

def historyLimit : Nat := 50

structure Editor where
  prompt : String
  text : List Char := []
  /-- The number of characters before the cursor. -/
  cursor : Nat := 0
  /-- The texts submitted before, the newest first. -/
  history : List (List Char) := []
  /-- The place in the history of the text that was called back. -/
  browsing : Option Nat := none
  deriving DecidableEq, Repr

namespace Editor

def value (e : Editor) : String := String.ofList e.text

def put (e : Editor) (text : List Char) : Editor := { e with text := text, cursor := text.length }

/-- The history with one more text; an empty one, or the one submitted last, adds nothing. -/
def remember (text : List Char) (history : List (List Char)) : List (List Char) :=
  if text.isEmpty || history.head? == some text then history
  else (text :: history).take historyLimit

/-- Submits the text, which stays in the box. -/
def submit (e : Editor) : Editor :=
  { e with history := remember e.text e.history, browsing := none }

def callBack (e : Editor) (place : Nat) : Editor :=
  match e.history[place]? with
  | some text => { e.put text with browsing := some place }
  | none => e

def older (e : Editor) : Editor :=
  match e.browsing with
  | none => e.callBack 0
  | some place => e.callBack (place + 1)

/-- Goes to a newer text, and from the newest to an empty box. -/
def newer (e : Editor) : Editor :=
  match e.browsing with
  | none => e
  | some 0 => { e.put [] with browsing := none }
  | some (place + 1) => e.callBack place

def insert (e : Editor) (c : Char) : Editor :=
  { e with text := e.text.take e.cursor ++ c :: e.text.drop e.cursor, cursor := e.cursor + 1 }

def removeAt (e : Editor) (place : Nat) : Editor := { e with text := e.text.eraseIdx place }

def backspace (e : Editor) : Editor :=
  if e.cursor = 0 then e else { e.removeAt (e.cursor - 1) with cursor := e.cursor - 1 }

def moveTo (e : Editor) (place : Nat) : Editor := { e with cursor := place }

/-- What an editing key makes of the box; other keys are not for it. -/
def edit? (e : Editor) (p : KeyPress) : Option Editor :=
  match p.key with
  | .char c =>
    if p.ctrl && c == 'u' then some (e.put [])
    else if p.ctrl && c == 'a' then some (e.moveTo 0)
    else if p.ctrl && c == 'e' then some (e.moveTo e.text.length)
    else if p.ctrl || p.alt then none
    else some (e.insert c)
  | .backspace => some e.backspace
  | .delete => some (e.removeAt e.cursor)
  | .left => some (e.moveTo (e.cursor - 1))
  | .right => some (e.moveTo (min (e.cursor + 1) e.text.length))
  | .home => some (e.moveTo 0)
  | .atEnd => some (e.moveTo e.text.length)
  | .up => some e.older
  | .down => some e.newer
  | _ => none

/-- The box after a key press, and whether the key was an editing key. -/
def press (e : Editor) (p : KeyPress) : Editor × Bool :=
  match e.edit? p with
  | some e => (e, true)
  | none => (e, false)

end Editor
end LogFollow.Explorer
