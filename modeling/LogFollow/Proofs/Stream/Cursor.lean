import LogFollow.Number.Bounded
import LogFollow.Proofs.Stream.Record

/-!
# What a cursor asks for

The cursor is the latest time among the events put into the queue. The next window begins behind it
and so asks for no time again, except that behind the last time of all there is none.
-/

namespace LogFollow.Stream
set_option autoImplicit false

variable {config : Config} {s s' : State} {m : Move} {h new : List Happening} {w : Window}
  {now last : Int} {c : Cursor} {e : Event}

theorem advance_last (c : Cursor) (t : Int) :
    (c.advance t).last = some (c.last.elim t (max · t)) := by
  unfold Cursor.advance
  split
  · rename_i last hlast
    split <;> simp [hlast] <;> omega
  · simp [*]

theorem max?_concat (xs : List Int) (x : Int) :
    (xs ++ [x]).max? = some (xs.max?.elim x (max · x)) := by
  cases xs with
  | nil => rfl
  | cons y ys =>
    rw [List.cons_append, List.max?_cons', List.max?_cons', List.foldl_append]
    rfl

/-- The cursor is the latest time among the events put into the queue. -/
def Cursor.Follows (c : Cursor) (h : List Happening) : Prop :=
  c.last = ((emissions h).map (·.timestamp)).max?

theorem follows_step (hf : s.cursor.Follows h) (hs : Step config s m s' new) :
    s'.cursor.Follows (h ++ new) := by
  unfold Cursor.Follows at hf ⊢
  cases hs with
  | sent e rest hp hc hr hq =>
    simp [emissions_cons, max?_concat, advance_last, hf]
  | _ => simpa [emissions_cons] using hf

theorem Cursor.Follows.latest (hf : c.Follows h) (hc : c.last = some last) :
    (∃ e ∈ emissions h, e.timestamp = last) ∧
      ∀ e ∈ emissions h, e.timestamp ≤ last := by
  obtain ⟨hmem, hmax⟩ := List.max?_eq_some_iff.mp (hf.symm.trans hc)
  exact ⟨by simpa using hmem, fun e he => hmax _ (List.mem_map_of_mem he)⟩

theorem Cursor.Follows.nothing (hf : c.Follows h) (hc : c.last = none) : emissions h = [] := by
  have hnil := List.max?_eq_none_iff.mp (hf.symm.trans hc)
  exact List.map_eq_nil_iff.mp hnil

theorem window_start (hw : c.window config now = some w) :
    w.start = c.from? config ∧ w.stop = some (config.stop.getD now) ∧
      w.limit = (if c.last.isSome then 0 else config.limit) ∧
      ∀ start, w.start = some start → start ≤ config.stop.getD now := by
  by_cases hrange : (c.from? config).any (config.stop.getD now < ·) = true
  · simp [Cursor.window, hrange] at hw
  · simp only [Cursor.window, hrange, Bool.false_eq_true, ↓reduceIte, Option.some.injEq] at hw
    subst hw
    refine ⟨rfl, rfl, rfl, ?_⟩
    intro start hstart
    simp only at hstart
    simp only [hstart, Option.any_some, decide_eq_true_eq] at hrange
    omega

theorem from?_of_last (config : Config) (hc : c.last = some last) :
    c.from? config = some (min (last + 1) Number.maxSigned) := by
  simp [Cursor.from?, hc, Number.maxSigned]

/-- Behind a cursor that is not at the last time of all the window starts at the next time. -/
theorem window_behind (hw : c.window config now = some w) (hc : c.last = some last)
    (hmax : last < Number.maxSigned) :
    w.start = some (last + 1) ∧ last < config.stop.getD now := by
  obtain ⟨hstart, -, -, hrange⟩ := window_start hw
  have hnext : w.start = some (last + 1) := by
    rw [hstart, from?_of_last config hc, min_eq_left (by omega)]
  have := hrange _ hnext
  exact ⟨hnext, by omega⟩

/-- Behind a cursor the window is without a limit and starts behind the events so far, unless one of
them has the last time of all. -/
theorem Cursor.Follows.start_behind_iff (hf : c.Follows h) (hw : c.window config now = some w)
    (hne : emissions h ≠ []) : w.limit = 0 ∧ ∃ start, w.start = some start ∧
      ((∀ e ∈ emissions h, e.timestamp < start) ↔
        ∀ e ∈ emissions h, e.timestamp < Number.maxSigned) := by
  obtain ⟨hstart, -, hlimit, -⟩ := window_start hw
  cases hc : c.last with
  | none => exact absurd (hf.nothing hc) hne
  | some last =>
    obtain ⟨⟨e₀, he₀, hlast⟩, hlatest⟩ := hf.latest hc
    refine ⟨by simpa [hc] using hlimit, _, hstart.trans (from?_of_last config hc), ?_, ?_⟩
    · intro hbehind e he
      have := hbehind e he
      omega
    · intro hmax e he
      have := hmax e₀ he₀
      have := hlatest e he
      omega

/-- An event at the end of a window or behind it is only asked past if it has the last time of
all. -/
theorem Cursor.Follows.maxSigned_le (hf : c.Follows h) (hw : c.window config now = some w)
    (he : e ∈ emissions h) (hend : config.stop.getD now ≤ e.timestamp) :
    Number.maxSigned ≤ e.timestamp ∧ Number.maxSigned ≤ config.stop.getD now := by
  obtain ⟨hstart, -, -, hrange⟩ := window_start hw
  cases hc : c.last with
  | none =>
    rw [hf.nothing hc] at he
    exact absurd he List.not_mem_nil
  | some last =>
    have hlatest := (hf.latest hc).2 e he
    have hle := hrange _ (hstart.trans (from?_of_last config hc))
    omega

end LogFollow.Stream
