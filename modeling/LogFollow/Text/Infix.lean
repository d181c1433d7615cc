/-! # Parts of a text -/

namespace LogFollow.Text
set_option autoImplicit false

def occursIn (part : List Char) : List Char → Bool
  | [] => part.isEmpty
  | c :: cs => part.isPrefixOf (c :: cs) || occursIn part cs

def occurs (part s : String) : Bool := occursIn part.toList s.toList

/-- A list without what it should start with. -/
def afterPrefix (start : List Char) (cs : List Char) : Option (List Char) :=
  if start.isPrefixOf cs then some (cs.drop start.length) else none

theorem append_of_afterPrefix {start cs rest : List Char}
    (h : afterPrefix start cs = some rest) : start ++ rest = cs := by
  rw [afterPrefix] at h
  split at h
  · rename_i hstart
    obtain ⟨tail, rfl⟩ := List.isPrefixOf_iff_prefix.mp hstart
    rw [List.drop_left] at h
    rw [Option.some.inj h]
  · cases h

theorem afterPrefix_append (start rest : List Char) :
    afterPrefix start (start ++ rest) = some rest := by
  have hstart : start.isPrefixOf (start ++ rest) = true :=
    List.isPrefixOf_iff_prefix.mpr (List.prefix_append start rest)
  rw [afterPrefix, if_pos hstart, List.drop_left]

end LogFollow.Text
