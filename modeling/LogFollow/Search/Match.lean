import LogFollow.Event.Basic
import LogFollow.Text.Lowercase

/-! # Searching messages

A term is found in a message where it stands character by character, letters in either case. The
events found are listed in the order of their times, equal times in the order of the corpus. -/

namespace LogFollow
set_option autoImplicit false

/-- A stretch of characters, from `start` up to but without `stop`. -/
structure Span where
  start : Nat
  stop : Nat
  deriving DecidableEq, Repr

namespace Search

def startsWith : List Char → List Char → Bool
  | [], _ => true
  | _ :: _, [] => false
  | a :: term, b :: text => Text.sameLetter a b && startsWith term text

/-- The first place at which the term stands, counted from `i`. -/
def findFrom (term : List Char) (i : Nat) : List Char → Option Nat
  | [] => if startsWith term [] then some i else none
  | c :: text => if startsWith term (c :: text) then some i else findFrom term (i + 1) text

/-- The first stretch of a message that is the term. -/
def findMatch (message term : String) : Option Span :=
  (findFrom term.toList 0 message.toList).map fun i => ⟨i, i + term.toList.length⟩

/-- An event that was found: its place in the corpus, its time, and the stretch that is the
term. -/
structure Found where
  index : Nat
  timestamp : Int
  span : Span
  deriving DecidableEq, Repr

/-- The events that hold the term, with their places counted from `offset`. -/
def collect (term : String) (offset : Nat) : List Event → List Found
  | [] => []
  | e :: events =>
    match findMatch e.message term with
    | some span => ⟨offset, e.timestamp, span⟩ :: collect term (offset + 1) events
    | none => collect term (offset + 1) events

/-- Puts found events in the order of their times; equal times keep their order. -/
def inOrder (found : List Found) : List Found :=
  found.mergeSort fun a b => a.timestamp ≤ b.timestamp

def search (term : String) (corpus : List Event) : List Found := inOrder (collect term 0 corpus)

end Search
end LogFollow
