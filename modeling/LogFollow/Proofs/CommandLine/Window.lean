import LogFollow.CommandLine.Window
import LogFollow.Proofs.Time.Span

/-!
# Windows of a command line

The start of a window lies the given span before now, and where that is out of reach of 64 bits it
stops at the reach of its parts, so that it is never later than now and never later for a longer
span. A window whose start is after its end is refused, and no other is made with both.
-/

namespace LogFollow.CommandLine
set_option autoImplicit false

open Number

/-- A time that lies some seconds before now, as far as 64 bits reach. -/
structure GoesBack (now seconds start : Int) : Prop where
  signed : isSigned start = true
  exact (hspan : isSigned (1000 * seconds) = true)
    (hstart : isSigned (now - 1000 * seconds) = true) : start = now - 1000 * seconds
  notLater : start ≤ now

/-- The time some seconds before now. -/
def goBack (now seconds : Int) : Int := saturate (now - saturate (seconds * 1000))

variable {a b : Arguments} {c : Config} {now m n start stop : Int} {text : String} {w : Window}

theorem startMillis_of_since (hsince : a.since = some text) (hread : Time.readSpan text = .ok n) :
    a.startMillis now = .ok (some (goBack now n)) := by
  rw [Arguments.startMillis, hsince]
  simp only [hread]
  rfl

theorem goBack_antitone (h : m ≤ n) : goBack now n ≤ goBack now m := by
  have hspan := saturate_mono (Int.mul_le_mul_of_nonneg_right h (by decide : (0 : Int) ≤ 1000))
  exact saturate_mono (Int.sub_le_sub_left hspan now)

theorem goBack_goesBack (hnow : isSigned now = true) (hn : 0 ≤ n) :
    GoesBack now n (goBack now n) where
  signed := isSigned_saturate _
  exact hspan hstart := by
    rw [Int.mul_comm] at hspan hstart ⊢
    rw [goBack, saturate_of_isSigned hspan, saturate_of_isSigned hstart]
  notLater := by
    have hspan : 0 ≤ saturate (n * 1000) := saturate_nonneg (by omega)
    calc goBack now n ≤ saturate now := saturate_mono (by omega)
      _ = now := saturate_of_isSigned hnow

theorem buildWindow_eq_ok (h : buildWindow a c now = .ok w) :
    ∃ start, a.startMillis now = .ok start ∧ w.start = start ∧ w.stop = a.endTime ∧
      (start.any fun s => a.endTime.any fun t => t < s) = false := by
  unfold buildWindow at h
  split at h
  · cases h
  · split at h
    · cases h
    · rename_i start hstart
      split_ifs at h with horder
      cases h
      exact ⟨start, hstart, rfl, rfl, Bool.eq_false_iff.mpr horder⟩

theorem buildWindow_ordered (h : buildWindow a c now = .ok w) (hstart : w.start = some start)
    (hstop : w.stop = some stop) : start ≤ stop := by
  obtain ⟨s, -, hs, ht, horder⟩ := buildWindow_eq_ok h
  rw [← hs, ← ht, hstart, hstop] at horder
  simpa using horder

theorem buildWindow_refused (hgroup : (a.logGroup.or c.logGroup).isSome = true)
    (hstart : a.startMillis now = .ok (some start)) (hstop : a.endTime = some stop)
    (h : stop < start) : buildWindow a c now = .error emptyRange := by
  obtain ⟨group, hgroup⟩ := Option.isSome_iff_exists.mp hgroup
  rw [buildWindow, hgroup]
  simp only [hstart]
  rw [if_pos (by simpa [hstop] using h)]

/-- A span is read from exactly the texts of spans. The window of an accepted one starts by that
much before now, without wrapping at either end of 64 bits, and no later for a longer span. No
window ends before it starts, and for a known group such a range is refused. -/
theorem windows_never_wrap :
    (∀ s n, Time.readSpan s = .ok n ↔ Time.IsSpan s n) ∧
      (∀ (a : Arguments) text n now, a.since = some text → Time.readSpan text = .ok n →
        isSigned now = true → ∃ start, a.startMillis now = .ok (some start) ∧
          GoesBack now n start) ∧
      (∀ (a b : Arguments) text text' m n now start start', a.since = some text →
        b.since = some text' → Time.readSpan text = .ok m → Time.readSpan text' = .ok n → m ≤ n →
        a.startMillis now = .ok (some start) → b.startMillis now = .ok (some start') →
          start' ≤ start) ∧
      (∀ a c now w start stop, buildWindow a c now = .ok w → w.start = some start →
        w.stop = some stop → start ≤ stop) ∧
      ∀ a c now start stop, (a.logGroup.or c.logGroup).isSome = true →
        a.startMillis now = .ok (some start) → a.endTime = some stop → stop < start →
          buildWindow a c now = .error emptyRange := by
  refine ⟨fun _ _ => Time.readSpan_eq_ok_iff, ?_, ?_, fun _ _ _ _ _ _ => buildWindow_ordered,
    fun _ _ _ _ _ => buildWindow_refused⟩
  · intro a text n now hsince hread hnow
    have hn := (Time.isSpan_of_readSpan hread).nonneg
    exact ⟨_, startMillis_of_since hsince hread, goBack_goesBack hnow hn⟩
  · intro a b text text' m n now start start' hsince hsince' hread hread' hmn hstart hstart'
    rw [startMillis_of_since hsince hread] at hstart
    rw [startMillis_of_since hsince' hread'] at hstart'
    cases hstart
    cases hstart'
    exact goBack_antitone hmn

/-- The longest span in whole seconds that 64 bits of milliseconds hold is taken off exactly, a
longer one of days is not, and an end one millisecond before the start is refused. -/
theorem windows_never_wrap_at_the_ends :
    let start : Int := -9223372036854775000
    let a : Arguments :=
      { since := some "9223372036854775s", logGroup := some "g", endTime := some (start - 1) }
    let b : Arguments := { since := some "106751991167300d" }
    let w : Window := { group := "g", start := some start, stop := some start, limit := 10000 }
    (a.startMillis 0 = .ok (some start) ∧ GoesBack 0 9223372036854775 start) ∧
      (∃ start', b.startMillis 0 = .ok (some start') ∧ start' ≤ start) ∧
      (buildWindow { a with endTime := some start } {} 0 = .ok w ∧ start ≤ start) ∧
      buildWindow a {} 0 = .error emptyRange := by
  intro start a b w
  obtain ⟨-, hback, hlonger, hordered, hrefused⟩ := windows_never_wrap
  have hread : Time.readSpan "9223372036854775s" = .ok 9223372036854775 := by decide +kernel
  have hlong : Time.readSpan "106751991167300d" = .ok 9223372036854720000 := by decide +kernel
  have hstart : a.startMillis 0 = .ok (some start) := by decide +kernel
  have hw : buildWindow { a with endTime := some start } {} 0 = .ok w := by decide +kernel
  obtain ⟨s, hs, hgoes⟩ := hback a _ _ 0 rfl hread (by decide)
  obtain ⟨start', hstart', -⟩ := hback b _ _ 0 rfl hlong (by decide)
  obtain rfl := Option.some.inj (Except.ok.inj (hs.symm.trans hstart))
  exact ⟨⟨hs, hgoes⟩,
    ⟨start', hstart', hlonger a b _ _ _ _ 0 _ _ rfl rfl hread hlong (by decide) hs hstart'⟩,
    ⟨hw, hordered _ {} 0 w _ _ hw rfl rfl⟩, hrefused a {} 0 _ _ rfl hs rfl (by decide)⟩

end LogFollow.CommandLine
