import LogFollow.Explorer.Keymap
import LogFollow.Proofs.Config.Assign

/-!
# What can be set can be used

Whatever calls are made on the configuration that stands at first, its numbers are in their bounds,
its words are known ones, and every key has a name that names a chord, so that the explorer finds
all its bindings.
-/

namespace LogFollow
set_option autoImplicit false

namespace Explorer.Keymap

theorem bind_eq_ok {a : Action} {name : String} {chord : Chord}
    (h : Chord.ofName? name = some chord) : bind a name = .ok (.of a chord name) := by
  rw [bind, h]

theorem ofNames_of_chords {keys : Action → String} {chords : Action → Chord}
    (h : ∀ a, Chord.ofName? (keys a) = some (chords a)) :
    ∃ k, ofNames keys = .ok k ∧ ∀ a, k.binding a = .of a (chords a) (keys a) := by
  have hbind : ∀ a, bind a (keys a) = .ok (.of a (chords a) (keys a)) := fun a => bind_eq_ok (h a)
  let bound := fun a => Binding.of a (chords a) (keys a)
  refine ⟨⟨bound .switchFocus, bound .submit, bound .quit, bound .scrollUp, bound .scrollDown,
    bound .pageUp, bound .pageDown⟩, ?_, ?_⟩
  · simp only [ofNames, hbind]
    rfl
  · intro a
    cases a <;> rfl

end Explorer.Keymap

namespace Config

open Explorer (Keymap)

/-- A configuration that the stream and the explorer can work with. -/
structure Usable (c : Config) : Prop where
  pollInterval : 100 ≤ c.pollInterval
  channelCapacity : 1 ≤ c.channelCapacity
  queryLimit : 1 ≤ c.queryLimit ∧ c.queryLimit ≤ maxQueryLimit
  bufferSize : 1 ≤ c.bufferSize
  tickRate : 1 ≤ c.tickRate
  queryMode : c.queryMode = "backend" ∧ c.mode = .source ∨
    c.queryMode = "local" ∧ c.mode = .received
  theme : c.theme = "dark" ∨ c.theme = "light" ∨ c.theme = "auto"
  endpoint : "http://".toList <+: c.endpoint.toList ∨ "https://".toList <+: c.endpoint.toList
  keys : ∀ a, ∃ chord, Chord.ofName? (c.keys a) = some chord

variable {c c' : Config} {s : Setting} {text : String}

theorem usable_initial : Usable {} where
  pollInterval := by decide
  channelCapacity := by decide
  queryLimit := by decide
  bufferSize := by decide
  tickRate := by decide
  queryMode := .inl ⟨rfl, rfl⟩
  theme := .inr (.inr rfl)
  endpoint := .inl (by decide)
  keys a := by
    have hnamed : (Chord.ofName? a.defaultKey).isSome = true := by cases a <;> decide +kernel
    exact Option.isSome_iff_exists.mp hnamed

theorem Sets.usable (hsets : Sets c text s c') (h : c.Usable) : c'.Usable := by
  cases hsets with
  | logGroup | header name => exact { h with }
  | pollInterval hread hmin => exact { h with pollInterval := Nat.le_of_not_lt hmin }
  | channelCapacity hread hpos => exact { h with channelCapacity := Nat.pos_of_ne_zero hpos }
  | queryLimit hread hpos hmax => exact { h with queryLimit := ⟨Nat.pos_of_ne_zero hpos, hmax⟩ }
  | bufferSize hread hpos => exact { h with bufferSize := Nat.pos_of_ne_zero hpos }
  | tickRate hread hpos => exact { h with tickRate := Nat.pos_of_ne_zero hpos }
  | queryMode hword =>
    refine { h with queryMode := ?_ }
    simp only [List.mem_cons, List.not_mem_nil, or_false] at hword
    rcases hword with hword | hword
    · exact .inl ⟨hword, by simp [mode, hword]⟩
    · exact .inr ⟨hword, by simp [mode, hword]⟩
  | theme hword =>
    simp only [List.mem_cons, List.not_mem_nil, or_false] at hword
    exact { h with theme := hword }
  | endpoint hstart =>
    rw [Bool.or_eq_true, List.isPrefixOf_iff_prefix, List.isPrefixOf_iff_prefix] at hstart
    exact { h with endpoint := hstart }
  | key a hname =>
    refine { h with keys := ?_ }
    intro b
    by_cases hb : b = a
    · exact ⟨_, by simpa only [if_pos hb] using hname⟩
    · simpa only [if_neg hb] using h.keys b

/-- After any calls the configuration can be used: all its settings are in their bounds, and its
keys make up a keymap in which each action waits first for the chord that its key names, under the
name that was set. -/
theorem calls_leave_usable (calls : List (String × String)) :
    (afterCalls {} calls).Usable ∧
      ∃ k, Keymap.ofNames (afterCalls {} calls).keys = .ok k ∧
        ∀ a, ∃ chord, Chord.ofName? ((afterCalls {} calls).keys a) = some chord ∧
          (k.binding a).chords.head? = some chord ∧
          (k.binding a).label = (afterCalls {} calls).keys a := by
  have husable : (afterCalls {} calls).Usable := by
    rw [afterCalls_eq]
    exact foldl_changed_keeps Sets.usable usable_initial calls
  obtain ⟨chords, hchords⟩ := Classical.skolem.mp husable.keys
  obtain ⟨k, hk, hbinding⟩ := Keymap.ofNames_of_chords hchords
  refine ⟨husable, k, hk, ?_⟩
  intro a
  refine ⟨chords a, hchords a, ?_, ?_⟩
  · rw [hbinding a]
    rfl
  · rw [hbinding a]
    rfl

end Config
end LogFollow
