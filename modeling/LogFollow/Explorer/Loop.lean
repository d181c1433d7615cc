import LogFollow.Explorer.Drawing

/-! # The loop of the explorer

Messages that wait are given to the session one by one, as many as a batch holds, and then it is
drawn once. A session that closes takes no message from then on and is not drawn again. -/

namespace LogFollow.Explorer
set_option autoImplicit false

def batchSize : Nat := 256

/-- The messages between two drawings, and the size of the screen at the second one. -/
structure Batch where
  messages : List Message
  width : Nat
  height : Nat
  nonempty : messages ≠ []
  fits : messages.length ≤ batchSize

structure Shown where
  session : Session
  commands : List Command := []
  /-- The messages that were given to the session. -/
  given : List Message := []
  /-- The drawings, the first one first. -/
  frames : List Frame := []

def Shown.show (t : Theme) (r : Shown) (width height : Nat) : Shown :=
  let (session, frame) := draw t r.session width height
  { r with session := session, frames := r.frames ++ [frame] }

def Shown.give (r : Shown) (m : Message) : Shown :=
  let (session, command) := r.session.update m
  { r with
    session := session
    commands := r.commands ++ command.toList
    given := r.given ++ [m] }

/-- Gives messages to the session until it closes. -/
def Shown.giveAll (r : Shown) : List Message → Shown
  | [] => r
  | m :: ms => if (r.give m).session.isClosed then r.give m else (r.give m).giveAll ms

def Shown.apply (t : Theme) (r : Shown) (b : Batch) : Shown :=
  let r := r.giveAll b.messages
  if r.session.isClosed then r else r.show t b.width b.height

/-- Opens the screen: the session learns its size and is drawn. -/
def openScreen (t : Theme) (s : Session) (width height : Nat) : Shown :=
  let (session, commands) := s.update (.resized width height)
  ({ session := session, commands := commands.toList } : Shown).show t width height

def runLoop (t : Theme) (r : Shown) (batches : List Batch) : Shown :=
  batches.foldl (fun r b => if r.session.isClosed then r else r.apply t b) r

/-- What is printed once the screen is given back: the lines of the view after a fatal error. -/
def farewell (s : Session) : String :=
  match s.closing with
  | some (.fatal _) => String.join (s.view.lines.map (· ++ "\n"))
  | _ => ""

def outcome (s : Session) : Except Failure Unit :=
  match s.closing with
  | some (.fatal f) => .error f.failure
  | _ => .ok ()

end LogFollow.Explorer
