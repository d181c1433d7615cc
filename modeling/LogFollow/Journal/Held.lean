/-! # Log output held back

While the screen belongs to the explorer, log output is held in memory and written afterwards. What
goes over the bound is dropped, and the writer is not told. -/

namespace LogFollow.Journal
set_option autoImplicit false

def heldBytes : Nat := 1048576

structure Held where
  bytes : ByteArray := ByteArray.empty
  fits : bytes.size ≤ heldBytes := by decide

namespace Held

theorem size_append_extract_le {bytes : ByteArray} (h : bytes.size ≤ heldBytes)
    (data : ByteArray) : (bytes ++ data.extract 0 (heldBytes - bytes.size)).size ≤ heldBytes := by
  rw [ByteArray.size_append, ByteArray.size_extract]
  omega

/-- Takes bytes as far as there is room. The writer is told that all were taken. -/
def write (h : Held) (data : ByteArray) : Held × Nat :=
  (⟨h.bytes ++ data.extract 0 (heldBytes - h.bytes.size), size_append_extract_le h.fits data⟩,
    data.size)

def flush (h : Held) : Held × ByteArray := ({}, h.bytes)

end Held
end LogFollow.Journal
