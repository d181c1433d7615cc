/-! # Sets of characters

A set of characters is kept as the increasing list of code points at which membership changes, the
first of them entering the set. A character belongs to the set when an odd number of these points
lie at or below it. -/

namespace LogFollow.Text
set_option autoImplicit false

/-- A set of characters, given by the code points at which membership changes. -/
structure CharSet where
  toggles : Array Nat

namespace CharSet

/-- The number of toggles at or below `c`, found by halving the stretch from `lo` to `hi`. -/
def rank (toggles : Array Nat) (c : Nat) : Nat → Nat → Nat → Nat
  | 0, lo, _ => lo
  | fuel + 1, lo, hi =>
    if lo < hi then
      let mid := (lo + hi) / 2
      if toggles.getD mid 0 ≤ c then rank toggles c fuel (mid + 1) hi
      else rank toggles c fuel lo mid
    else lo

def contains (s : CharSet) (c : Char) : Bool :=
  rank s.toggles c.toNat s.toggles.size 0 s.toggles.size % 2 == 1

end CharSet
end LogFollow.Text
