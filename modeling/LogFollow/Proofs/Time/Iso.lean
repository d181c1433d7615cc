import LogFollow.CommandLine.Arguments
import LogFollow.Proofs.Number.Digits
import LogFollow.Proofs.Time.Calendar
import Mathlib.Data.String.Basic

/-!
# Written times

A time of the years 0 to 9999 is written by the date and the time of day of its second, each number
in its own number of digits. Such a text is read as that second again, and the texts are ordered as
the seconds are.
-/

namespace LogFollow.Time
set_option autoImplicit false

open Number

/-- A number in a fixed number of digits. -/
structure Spells (width n : Nat) (cs : List Char) : Prop where
  length : cs.length = width
  digits : ∀ c ∈ cs, isDigit c = true
  value : digitsValue cs = n

/-- The texts of the form `YYYY-MM-DDTHH:MM:SSZ` with the numbers of a time. -/
inductive Shows (t : DateTime) : String → Prop
  | intro {year month day hour minute second : List Char}
      (hyear : Spells 4 t.date.year.toNat year) (hmonth : Spells 2 t.date.month month)
      (hday : Spells 2 t.date.day day) (hhour : Spells 2 t.hour hour)
      (hminute : Spells 2 t.minute minute) (hsecond : Spells 2 t.second second) :
      Shows t (String.ofList (year ++ '-' :: (month ++ '-' :: (day ++ 'T' :: (hour ++ ':' ::
        (minute ++ ':' :: (second ++ ['Z'])))))))

variable {width m n : Nat} {cs ds rest : List Char} {t t' : DateTime} {text text' : String}

theorem spells_padded (hwidth : 0 < width) (hn : n < 10 ^ width) :
    Spells width n (padded width n).toList := by
  have hlength := (Nat.length_toDigits_le_iff (by decide) hwidth).mpr hn
  simp only [padded, String.toList_ofList]
  refine ⟨?_, ?_, ?_⟩
  · simp [hlength]
  · intro c hc
    rcases List.mem_append.mp hc with hzero | hdigit
    · rw [List.eq_of_mem_replicate hzero]
      decide
    · exact isDigit_of_mem_toDigits hdigit
  · rw [digitsValue_zeros_append, digitsValue_toDigits]

namespace Spells

theorem append_lt (h : Spells width m cs) (h' : Spells width n ds) {c : Char}
    {xs ys : List Char} (hlt : m < n ∨ m = n ∧ xs < ys) : cs ++ c :: xs < ds ++ c :: ys := by
  refine append_lt_append_of_digitsValue (h.length.trans h'.length.symm) h.digits h'.digits ?_
  rw [h.value, h'.value]
  exact hlt.imp_right (And.imp_right List.cons_lt_cons_self.mpr)

theorem takeDigits_append (h : Spells width n cs) (rest : List Char) :
    takeDigits width (cs ++ rest) = some (n, rest) := by
  simp [takeDigits, ← h.length, h.value]
  exact h.digits

end Spells

theorem takeChar_cons (c : Char) (rest : List Char) : takeChar c (c :: rest) = some rest := by
  simp [takeChar]

theorem DateTime.shows_isoText (ht : t.isValid = true) (h0 : 0 ≤ t.date.year) (h1 : t.date.year ≤ 9999) :
    Shows t t.isoText := by
  obtain ⟨hdate, hhour, hminute, hsecond⟩ := DateTime.isValid_iff.mp ht
  obtain ⟨-, hmonth, -, hday⟩ := Date.isValid_iff.mp hdate
  have h31 := daysInMonth_le t.date.year t.date.month
  have hshows := Shows.intro (t := t)
    (spells_padded (by decide) (by omega)) (spells_padded (by decide) (by omega))
    (spells_padded (by decide) (by omega)) (spells_padded (by decide) (by omega))
    (spells_padded (by decide) (by omega)) (spells_padded (by decide) (by omega))
  convert hshows using 1
  rw [← String.toList_inj]
  simp [DateTime.isoText, yearText, h0, h1]

/-- The first number in which two times differ decides between their texts too. -/
theorem Shows.lt (h : Shows t text) (h' : Shows t' text') (h0 : 0 ≤ t.date.year)
    (hlt : t.Before t') : text < text' := by
  have hfirst : t.date.year.toNat < t'.date.year.toNat ∨
      t.date.year.toNat = t'.date.year.toNat ∧ (t.date.month < t'.date.month ∨
      t.date.month = t'.date.month ∧ (t.date.day < t'.date.day ∨
      t.date.day = t'.date.day ∧ (t.hour < t'.hour ∨ t.hour = t'.hour ∧
      (t.minute < t'.minute ∨ t.minute = t'.minute ∧ t.second < t'.second)))) := by
    rcases hlt with hdate | ⟨hdate, htime⟩
    · simp only [Date.fields, List.cons_lt_cons_iff, List.not_lt_nil, and_false, or_false] at hdate
      omega
    · simp only [DateTime.fields, List.cons_lt_cons_iff, List.not_lt_nil, and_false,
        or_false] at htime
      rw [hdate]
      omega
  obtain ⟨hyear, hmonth, hday, hhour, hminute, hsecond⟩ := h
  obtain ⟨hyear', hmonth', hday', hhour', hminute', hsecond'⟩ := h'
  rw [String.lt_iff, String.toList_ofList, String.toList_ofList]
  refine hyear.append_lt hyear' (hfirst.imp_right (And.imp_right fun hfirst => ?_))
  refine hmonth.append_lt hmonth' (hfirst.imp_right (And.imp_right fun hfirst => ?_))
  refine hday.append_lt hday' (hfirst.imp_right (And.imp_right fun hfirst => ?_))
  refine hhour.append_lt hhour' (hfirst.imp_right (And.imp_right fun hfirst => ?_))
  refine hminute.append_lt hminute' (hfirst.imp_right (And.imp_right fun hfirst => ?_))
  exact hsecond.append_lt hsecond' (.inl hfirst)

theorem Shows.readIso_eq (h : Shows t text) (ht : t.isValid = true) (h0 : 0 ≤ t.date.year) :
    readIso text = some (t.toSeconds * 1000) := by
  obtain ⟨hyear, hmonth, hday, hhour, hminute, hsecond⟩ := h
  obtain ⟨hdate, hh, hm, hs⟩ := DateTime.isValid_iff.mp ht
  have hyear0 : ((t.date.year.toNat : Nat) : Int) = t.date.year := Int.toNat_of_nonneg h0
  rw [readIso, String.toList_ofList]
  refine Option.bind_eq_some_iff.mpr ⟨_, hyear.takeDigits_append _, ?_⟩
  refine Option.bind_eq_some_iff.mpr ⟨_, takeChar_cons _ _, ?_⟩
  refine Option.bind_eq_some_iff.mpr ⟨_, hmonth.takeDigits_append _, ?_⟩
  refine Option.bind_eq_some_iff.mpr ⟨_, takeChar_cons _ _, ?_⟩
  refine Option.bind_eq_some_iff.mpr ⟨_, hday.takeDigits_append _, ?_⟩
  refine Option.bind_eq_some_iff.mpr ⟨_, by rw [takeChar_cons, Option.some_or], ?_⟩
  refine Option.bind_eq_some_iff.mpr ⟨_, hhour.takeDigits_append _, ?_⟩
  refine Option.bind_eq_some_iff.mpr ⟨_, takeChar_cons _ _, ?_⟩
  refine Option.bind_eq_some_iff.mpr ⟨_, hminute.takeDigits_append _, ?_⟩
  refine Option.bind_eq_some_iff.mpr ⟨_, takeChar_cons _ _, ?_⟩
  refine Option.bind_eq_some_iff.mpr ⟨_, hsecond.takeDigits_append _, ?_⟩
  refine Option.bind_eq_some_iff.mpr ⟨(0, ['Z']), rfl, ?_⟩
  refine Option.bind_eq_some_iff.mpr ⟨(0, []), rfl, ?_⟩
  have hvalid : (DateTime.mk t.date t.hour t.minute 0).isValid = true :=
    DateTime.isValid_iff.mpr ⟨hdate, hh, hm, Nat.zero_lt_succ _⟩
  have hsecond : decide (t.second ≤ 60) = true := by
    rw [decide_eq_true_eq]
    omega
  simp only [hyear0, hvalid, hsecond, List.isEmpty_nil, Bool.and_self, ↓reduceIte,
    DateTime.toSeconds]
  norm_num

variable {millis a b : Int}

theorem isCalendarTime_of_year (h0 : 0 ≤ (Date.ofDays (millis / 86400000)).year)
    (h1 : (Date.ofDays (millis / 86400000)).year ≤ 9999) : isCalendarTime millis = true := by
  have hfirst : firstMillis = -8334601228800000 := by decide
  have hlast : lastMillis = 8210266876799999 := by decide
  have hyear := ofDays_year (millis / 86400000)
  have hlow : yearStart (-1) ≤ _ := yearStart_le (Int.sub_le_sub_right h0 1)
  have hhigh : _ ≤ yearStart 10000 := yearStart_le (Int.add_le_add_right h1 1)
  rw [show yearStart (-1) = -366 by decide] at hlow
  rw [show yearStart 10000 = 3652425 by decide] at hhigh
  rw [isCalendarTime, hfirst, hlast, Bool.and_eq_true, decide_eq_true_eq, decide_eq_true_eq]
  omega

theorem isoText_eq (h0 : 0 ≤ (Date.ofDays (millis / 86400000)).year)
    (h1 : (Date.ofDays (millis / 86400000)).year ≤ 9999) :
    isoText millis = (DateTime.ofSeconds (millis / 1000)).isoText := by
  rw [isoText, if_pos (isCalendarTime_of_year h0 h1)]

theorem date_ofSeconds (millis : Int) :
    (DateTime.ofSeconds (millis / 1000)).date = Date.ofDays (millis / 86400000) := by
  rw [DateTime.ofSeconds, Int.ediv_ediv_of_nonneg (by decide)]
  rfl

theorem shows_isoText (h0 : 0 ≤ (Date.ofDays (millis / 86400000)).year)
    (h1 : (Date.ofDays (millis / 86400000)).year ≤ 9999) :
    Shows (DateTime.ofSeconds (millis / 1000)) (isoText millis) := by
  rw [isoText_eq h0 h1]
  rw [← date_ofSeconds] at h0 h1
  exact DateTime.shows_isoText (ofSeconds_isValid _) h0 h1

/-- In the years 0 to 9999 a time is written by the date that the calendar has for its day and by
its time of day, to the second. The text is read as the time cut to its second, and later times
have later texts, unless it is in the same second. -/
theorem written_times_faithful {civil : Int → Date} (hcivil : Gregorian civil)
    (ha : 0 ≤ (civil (a / 86400000)).year ∧ (civil (a / 86400000)).year ≤ 9999)
    (hb : 0 ≤ (civil (b / 86400000)).year ∧ (civil (b / 86400000)).year ≤ 9999) (hab : a ≤ b) :
    (∃ t : DateTime, t.isValid = true ∧ t.date = civil (a / 86400000) ∧
        (t.hour * 3600 + t.minute * 60 + t.second : Int) = a / 1000 % 86400 ∧
        Shows t (isoText a)) ∧
      CommandLine.readTime (isoText a) = .ok (a / 1000 * 1000) ∧
      isoText a ≤ isoText b ∧ (isoText a = isoText b ↔ a / 1000 = b / 1000) := by
  obtain rfl := hcivil.eq_ofDays
  have hshows := shows_isoText ha.1 ha.2
  have hvalid := ofSeconds_isValid (a / 1000)
  have hyear : 0 ≤ (DateTime.ofSeconds (a / 1000)).date.year := by
    rw [date_ofSeconds]
    exact ha.1
  refine ⟨⟨_, hvalid, date_ofSeconds a, ?_, hshows⟩, ?_, ?_⟩
  · simp only [DateTime.ofSeconds]
    omega
  · rw [CommandLine.readTime, hshows.readIso_eq hvalid hyear, toSeconds_ofSeconds]
  · rcases Int.lt_or_eq_of_le (Int.ediv_le_ediv (c := 1000) (by decide) hab) with hlt | heq
    · have htext := hshows.lt (shows_isoText hb.1 hb.2) hyear (ofSeconds_before hlt)
      exact ⟨htext.le, iff_of_false htext.ne hlt.ne⟩
    · have htext : isoText a = isoText b := by
        rw [isoText_eq ha.1 ha.2, isoText_eq hb.1 hb.2, heq]
      exact ⟨htext.le, iff_of_true htext heq⟩

theorem written_times_faithful_on_leap_day :
    isoText (-62162035200001) = "0000-02-29T23:59:59Z" ∧
      CommandLine.readTime (isoText (-62162035200001)) = .ok (-62162035201000) ∧
      isoText (-62162035200001) < isoText (-1) := by
  obtain ⟨-, hread, hle, hsame⟩ := written_times_faithful gregorian_ofDays
    (a := -62162035200001) (b := -1) (by decide) (by decide) (by decide)
  have hne : isoText (-62162035200001) ≠ isoText (-1) := fun h => absurd (hsame.mp h) (by decide)
  exact ⟨by decide +kernel, hread, lt_of_le_of_ne hle hne⟩

end LogFollow.Time
