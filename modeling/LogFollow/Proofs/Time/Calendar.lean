import LogFollow.Time.Calendar
import Mathlib.Data.Int.Init
import Mathlib.Data.List.Lex
import Mathlib.Tactic.IntervalCases
import Mathlib.Tactic.SplitIfs

/-!
# Days and dates

The calendar is told by its first of January 1970 and by the date behind each date. The numbers of
the days have these dates, and the dates these numbers, through all years.
-/

namespace LogFollow.Time
set_option autoImplicit false

/-- The date of the day behind that of a date. -/
def Date.next (d : Date) : Date :=
  if d.day < daysInMonth d.year d.month then { d with day := d.day + 1 }
  else if d.month < 12 then ⟨d.year, d.month + 1, 1⟩
  else ⟨d.year + 1, 1, 1⟩

/-- Dates for the days, counted from the start of 1970, as the Gregorian calendar has them. -/
structure Gregorian (civil : Int → Date) : Prop where
  valid (n : Int) : (civil n).isValid = true
  epoch : civil 0 = ⟨1970, 1, 1⟩
  next (n : Int) : civil (n + 1) = (civil n).next

variable {year day : Int} {month : Nat} {d : Date}

theorem isLeap_iff (year : Int) :
    isLeap year = true ↔ year % 4 = 0 ∧ (year % 100 ≠ 0 ∨ year % 400 = 0) := by
  simp [isLeap]

theorem Date.isValid_iff :
    d.isValid = true ↔
      1 ≤ d.month ∧ d.month ≤ 12 ∧ 1 ≤ d.day ∧ d.day ≤ daysInMonth d.year d.month := by
  simp [isValid, and_assoc]

theorem DateTime.isValid_iff {t : DateTime} :
    t.isValid = true ↔ t.date.isValid = true ∧ t.hour < 24 ∧ t.minute < 60 ∧ t.second < 60 := by
  simp [isValid, and_assoc]

/-! ## Years that start in March -/

/-- The first day of a year, counted from the first of March of the year 0. -/
def yearStart (year : Int) : Int := 365 * year + year / 4 - year / 100 + year / 400

/-- The first day of a month in its year; March is month 0. -/
def monthStart (month : Int) : Int := (153 * month + 2) / 5

def yearOfEra (dayOfEra : Int) : Int :=
  (dayOfEra - dayOfEra / 1460 + dayOfEra / 36524 - dayOfEra / 146096) / 365

def yearOn (day : Int) : Int := day / 146097 * 400 + yearOfEra (day % 146097)

/-- The date of a day of such a year. -/
def ofMarch (year dayOfYear : Int) : Date :=
  let monthOfYear := (5 * dayOfYear + 2) / 153
  let month := if monthOfYear < 10 then monthOfYear + 3 else monthOfYear - 9
  ⟨year + if month ≤ 2 then 1 else 0, month.toNat, (dayOfYear - monthStart monthOfYear + 1).toNat⟩

def Date.marchYear (d : Date) : Int := if d.month ≤ 2 then d.year - 1 else d.year

def marchMonth (month : Nat) : Int := ((month : Int) + 9) % 12

def Date.dayOfYear (d : Date) : Int := monthStart (marchMonth d.month) + d.day - 1

theorem marchMonth_spec (h0 : 1 ≤ month) (h1 : month ≤ 12) :
    0 ≤ marchMonth month ∧ marchMonth month ≤ 11 ∧ (month = 2 ↔ marchMonth month = 11) ∧
      (month : Int) =
        if marchMonth month < 10 then marchMonth month + 3 else marchMonth month - 9 := by
  unfold marchMonth
  split_ifs <;> omega

theorem yearStart_le {a b : Int} (h : a ≤ b) : yearStart a ≤ yearStart b := by
  unfold yearStart
  omega

theorem yearStart_era (era year : Int) :
    yearStart (era * 400 + year) = era * 146097 + yearStart year := by
  have h4 : (era * 400 + year) / 4 = era * 100 + year / 4 := by omega
  have h100 : (era * 400 + year) / 100 = era * 4 + year / 100 := by omega
  have h400 : (era * 400 + year) / 400 = era + year / 400 := by omega
  rw [yearStart, yearStart, h4, h100, h400]
  omega

theorem yearOfEra_mono {a b : Int} (ha : 0 ≤ a) (hb : b < 146097) (h : a ≤ b) :
    yearOfEra a ≤ yearOfEra b := by
  have hleap : a - a / 1460 ≤ b - b / 1460 := by omega
  have hcentury : a / 36524 - a / 146096 ≤ b / 36524 - b / 146096 := by omega
  exact Int.ediv_le_ediv (by decide) (by omega)

/-- The first and the last day of each year of an era. -/
theorem yearOfEra_ends (year : Int) (h0 : 0 ≤ year) (h1 : year < 400) :
    yearOfEra (yearStart year) = year ∧ yearOfEra (yearStart (year + 1) - 1) = year := by
  have hall : ∀ y < 400, yearOfEra (yearStart (y : Nat)) = (y : Int) ∧
      yearOfEra (yearStart ((y : Nat) + 1) - 1) = (y : Int) := by
    decide +kernel
  obtain ⟨y, rfl⟩ := Int.eq_ofNat_of_zero_le h0
  exact hall y (by omega)

theorem yearOfEra_spec (day : Int) (h0 : 0 ≤ day) (h1 : day < 146097) :
    0 ≤ yearOfEra day ∧ yearOfEra day < 400 ∧
      yearStart (yearOfEra day) ≤ day ∧ day < yearStart (yearOfEra day + 1) := by
  have hlow : 0 ≤ yearOfEra day := by
    unfold yearOfEra
    omega
  have hhigh : yearOfEra day < 400 := by
    unfold yearOfEra
    omega
  have hfirst : yearStart 0 = 0 := rfl
  have hlast : yearStart 400 = 146097 := rfl
  refine ⟨hlow, hhigh, ?_, ?_⟩
  · by_contra hlt
    have hne : yearOfEra day ≠ 0 := by
      intro hzero
      rw [hzero] at hlt
      exact hlt h0
    have hends := yearOfEra_ends (yearOfEra day - 1) (by omega) (by omega)
    rw [Int.sub_add_cancel] at hends
    have hle : yearStart (yearOfEra day) ≤ yearStart 400 := yearStart_le (by omega)
    have hmono := yearOfEra_mono h0 (b := yearStart (yearOfEra day) - 1) (by omega) (by omega)
    omega
  · by_contra hge
    have hne : yearOfEra day + 1 ≠ 400 := by
      intro hend
      rw [hend] at hge
      exact hge h1
    have hends := yearOfEra_ends (yearOfEra day + 1) (by omega) (by omega)
    have hle : yearStart 0 ≤ yearStart (yearOfEra day + 1) := yearStart_le (by omega)
    have hmono := yearOfEra_mono (a := yearStart (yearOfEra day + 1)) hle h1 (by omega)
    omega

theorem yearStart_yearOn (day : Int) :
    yearStart (yearOn day) ≤ day ∧ day < yearStart (yearOn day + 1) := by
  have hspec := yearOfEra_spec (day % 146097) (by omega) (by omega)
  rw [yearOn, Int.add_assoc, yearStart_era, yearStart_era]
  omega

theorem yearOn_eq (h0 : yearStart year ≤ day) (h1 : day < yearStart (year + 1)) :
    yearOn day = year := by
  obtain ⟨hlow, hhigh⟩ := yearStart_yearOn day
  by_contra hne
  rcases Int.lt_or_gt_of_ne hne with hlt | hgt
  · have hle : yearStart (yearOn day + 1) ≤ yearStart year := yearStart_le (by omega)
    omega
  · have hle : yearStart (year + 1) ≤ yearStart (yearOn day) := yearStart_le (by omega)
    omega

/-! ## Dates and their numbers -/

theorem ofDays_eq (n : Int) :
    Date.ofDays n =
      ofMarch (yearOn (n + 719468)) (n + 719468 - yearStart (yearOn (n + 719468))) := by
  have hera := yearOfEra_spec ((n + 719468) % 146097) (by omega) (by omega)
  have hday : n + 719468 - yearStart (yearOn (n + 719468)) =
      (n + 719468) % 146097 - (365 * yearOfEra ((n + 719468) % 146097) +
        yearOfEra ((n + 719468) % 146097) / 4 - yearOfEra ((n + 719468) % 146097) / 100) := by
    rw [yearOn, yearStart_era, yearStart]
    omega
  rw [hday, yearOn, Int.add_comm (_ * 400)]
  rfl

theorem toDays_eq (d : Date) : d.toDays = yearStart d.marchYear + d.dayOfYear - 719468 := by
  have hyear : d.marchYear = d.marchYear / 400 * 400 + d.marchYear % 400 := by omega
  rw [hyear, yearStart_era, yearStart, Date.dayOfYear, monthStart, marchMonth, Date.toDays,
    ← Date.marchYear]
  omega

/-- A leap day is the last day of its year. -/
theorem yearStart_sub (year : Int) :
    yearStart year - yearStart (year - 1) = if isLeap year then 366 else 365 := by
  have hleap := isLeap_iff year
  unfold yearStart
  split_ifs with h
  · obtain ⟨h4, h100⟩ := hleap.mp h
    omega
  · rw [hleap] at h
    omega

theorem yearLength_mem (year : Int) :
    365 ≤ yearStart (year + 1) - yearStart year ∧
      yearStart (year + 1) - yearStart year ≤ 366 := by
  unfold yearStart
  omega

theorem daysInMonth_pos (year : Int) (month : Nat) : 0 < daysInMonth year month := by
  unfold daysInMonth
  split_ifs <;> decide

theorem daysInMonth_le (year : Int) (month : Nat) : daysInMonth year month ≤ 31 := by
  unfold daysInMonth
  split_ifs <;> decide

/-- A month ends where the next one starts, and February ends its year. -/
theorem daysInMonth_eq (h0 : 1 ≤ d.month) (h1 : d.month ≤ 12) :
    (daysInMonth d.year d.month : Int) =
      (if d.month = 2 then yearStart (d.marchYear + 1) - yearStart d.marchYear
        else monthStart (marchMonth d.month + 1)) - monthStart (marchMonth d.month) := by
  obtain ⟨year, month, day⟩ := d
  by_cases hfebruary : month = 2
  · subst hfebruary
    have hyear := yearStart_sub year
    simp only [Date.marchYear, le_refl, ↓reduceIte, Int.sub_add_cancel, hyear]
    cases hl : isLeap year <;> simp [daysInMonth, hl, marchMonth, monthStart]
  · simp only [if_neg hfebruary]
    interval_cases month <;> first | rfl | exact absurd rfl hfebruary

theorem ofMarch_day (year dayOfYear : Int) :
    ((ofMarch year dayOfYear).day : Int) =
      dayOfYear - monthStart ((5 * dayOfYear + 2) / 153) + 1 := by
  simp only [ofMarch, monthStart]
  omega

section March
variable (year : Int) {dayOfYear : Int} (h0 : 0 ≤ dayOfYear) (h1 : dayOfYear < 366)
include h0 h1

theorem ofMarch_month :
    1 ≤ (ofMarch year dayOfYear).month ∧ (ofMarch year dayOfYear).month ≤ 12 ∧
      marchMonth (ofMarch year dayOfYear).month = (5 * dayOfYear + 2) / 153 := by
  simp only [ofMarch, marchMonth]
  split_ifs <;> omega

theorem ofMarch_marchYear : (ofMarch year dayOfYear).marchYear = year := by
  simp only [ofMarch, Date.marchYear]
  split_ifs <;> omega

theorem toDays_ofMarch :
    (ofMarch year dayOfYear).toDays = yearStart year + dayOfYear - 719468 := by
  rw [toDays_eq, ofMarch_marchYear year h0 h1, Date.dayOfYear, (ofMarch_month year h0 h1).2.2,
    ofMarch_day]
  omega

end March

theorem ofMarch_isValid {dayOfYear : Int} (h0 : 0 ≤ dayOfYear)
    (h1 : dayOfYear < yearStart (year + 1) - yearStart year) :
    (ofMarch year dayOfYear).isValid = true := by
  have h366 : dayOfYear < 366 := Int.lt_of_lt_of_le h1 (yearLength_mem year).2
  obtain ⟨hm0, hm1, hmonth⟩ := ofMarch_month year h0 h366
  have hday := ofMarch_day year dayOfYear
  have hmax := daysInMonth_eq hm0 hm1
  rw [ofMarch_marchYear year h0 h366, hmonth] at hmax
  unfold monthStart at hday hmax
  refine Date.isValid_iff.mpr ⟨hm0, hm1, by omega, ?_⟩
  split_ifs at hmax <;> omega

theorem ofMarch_dayOfYear (h : d.isValid = true) :
    0 ≤ d.dayOfYear ∧ d.dayOfYear < yearStart (d.marchYear + 1) - yearStart d.marchYear ∧
      ofMarch d.marchYear d.dayOfYear = d := by
  obtain ⟨hm0, hm1, hd0, hd1⟩ := Date.isValid_iff.mp h
  obtain ⟨hmarch0, hmarch1, hfebruary, hmonth⟩ := marchMonth_spec hm0 hm1
  have hlength := yearLength_mem d.marchYear
  have hmax := daysInMonth_eq hm0 hm1
  have hyear : d.marchYear = if d.month ≤ 2 then d.year - 1 else d.year := rfl
  unfold Date.dayOfYear
  generalize marchMonth d.month = m, d.marchYear = y at *
  have hm : (5 * (monthStart m + d.day - 1) + 2) / 153 = m := by
    unfold monthStart at *
    split_ifs at hmax <;> omega
  refine ⟨?_, ?_, ?_⟩
  · unfold monthStart
    omega
  · unfold monthStart at hmax ⊢
    split_ifs at hmax <;> omega
  · obtain ⟨year, month, day⟩ := d
    rw [ofMarch, hm, ← hmonth]
    simp only [Date.mk.injEq] at *
    refine ⟨?_, Int.toNat_natCast _, ?_⟩
    · split_ifs at hyear ⊢ <;> omega
    · omega

theorem ofDays_isValid (n : Int) : (Date.ofDays n).isValid = true := by
  obtain ⟨hlow, hhigh⟩ := yearStart_yearOn (n + 719468)
  rw [ofDays_eq]
  exact ofMarch_isValid (by omega) (by omega)

theorem toDays_ofDays (n : Int) : (Date.ofDays n).toDays = n := by
  obtain ⟨hlow, hhigh⟩ := yearStart_yearOn (n + 719468)
  have hlength := (yearLength_mem (yearOn (n + 719468))).2
  rw [ofDays_eq, toDays_ofMarch _ (by omega) (by omega)]
  omega

theorem ofDays_toDays (h : d.isValid = true) : Date.ofDays d.toDays = d := by
  obtain ⟨h0, h1, hmarch⟩ := ofMarch_dayOfYear h
  have hday : d.toDays + 719468 = yearStart d.marchYear + d.dayOfYear := by
    rw [toDays_eq]
    omega
  have hyear : yearOn (d.toDays + 719468) = d.marchYear := yearOn_eq (by omega) (by omega)
  rw [ofDays_eq, hyear, hday, Int.add_comm, Int.add_sub_cancel]
  exact hmarch

theorem next_isValid (h : d.isValid = true) : d.next.isValid = true := by
  obtain ⟨hm0, hm1, hd0, hd1⟩ := Date.isValid_iff.mp h
  rw [Date.isValid_iff]
  unfold Date.next
  split_ifs with hday hmonth
  · exact ⟨hm0, hm1, Nat.le_add_left .., hday⟩
  · exact ⟨Nat.le_add_left .., hmonth, Nat.le_refl 1, daysInMonth_pos ..⟩
  · exact ⟨Nat.le_refl 1, Nat.one_le_ofNat, Nat.le_refl 1, daysInMonth_pos ..⟩

theorem toDays_next (h : d.isValid = true) : d.next.toDays = d.toDays + 1 := by
  obtain ⟨hm0, hm1, hd0, hd1⟩ := Date.isValid_iff.mp h
  have hmax := daysInMonth_eq hm0 hm1
  rw [toDays_eq, toDays_eq]
  unfold Date.next
  split_ifs with hday hmonth
  · simp only [Date.marchYear, Date.dayOfYear, Nat.cast_add]
    omega
  · -- The day was the last one of its month.
    by_cases hfebruary : d.month = 2
    · simp only [hfebruary, Date.marchYear, Date.dayOfYear, marchMonth, monthStart, le_refl,
        Nat.reduceAdd, Nat.reduceLeDiff, Int.sub_add_cancel, ↓reduceIte] at *
      omega
    · have hnext : marchMonth (d.month + 1) = marchMonth d.month + 1 := by
        unfold marchMonth
        omega
      have hyear : (Date.mk d.year (d.month + 1) 1).marchYear = d.marchYear := by
        simp only [Date.marchYear]
        split_ifs <;> omega
      rw [if_neg hfebruary] at hmax
      simp only [hyear, Date.dayOfYear, hnext]
      omega
  · have hdecember : d.month = 12 := by omega
    simp only [hdecember, Date.marchYear, Date.dayOfYear, marchMonth, monthStart,
      Nat.reduceEqDiff, Nat.reduceLeDiff, Int.add_sub_cancel, ↓reduceIte] at *
    omega

theorem gregorian_ofDays : Gregorian Date.ofDays where
  valid := ofDays_isValid
  epoch := rfl
  next n := by
    have hvalid := ofDays_isValid n
    rw [← ofDays_toDays (next_isValid hvalid), toDays_next hvalid, toDays_ofDays]

/-- There is one Gregorian calendar. -/
theorem Gregorian.eq_ofDays {civil : Int → Date} (h : Gregorian civil) : civil = Date.ofDays := by
  have hdays (n : Int) : (civil n).toDays = n := by
    induction n with
    | zero => rw [h.epoch]; rfl
    | succ n ih => rw [h.next, toDays_next (h.valid _), ih]
    | pred n ih =>
      have hnext := h.next (-n - 1)
      rw [Int.sub_add_cancel] at hnext
      rw [hnext, toDays_next (h.valid _)] at ih
      omega
  funext n
  rw [← ofDays_toDays (h.valid n), hdays]

/-! ## The order of times -/

/-- From the year down to the day, as dates are ordered. -/
def Date.fields (d : Date) : List Int := [d.year, d.month, d.day]

def DateTime.fields (t : DateTime) : List Int := [t.hour, t.minute, t.second]

/-- An earlier time is one of an earlier date, or an earlier one of the same date. -/
def DateTime.Before (t t' : DateTime) : Prop :=
  t.date.fields < t'.date.fields ∨ t.date = t'.date ∧ t.fields < t'.fields

theorem fields_lt_next (d : Date) : d.fields < d.next.fields := by
  unfold Date.next
  split_ifs <;> simp [Date.fields, List.cons_lt_cons_iff]

theorem ofDays_fields_lt {m n : Int} (h : m < n) :
    (Date.ofDays m).fields < (Date.ofDays n).fields := by
  induction n, Int.add_one_le_of_lt h using Int.leInduction with
  | base =>
    rw [gregorian_ofDays.next]
    exact fields_lt_next _
  | succ n hmn ih =>
    rw [gregorian_ofDays.next]
    exact (ih hmn).trans (fields_lt_next _)

theorem ofSeconds_before {m n : Int} (h : m < n) :
    (DateTime.ofSeconds m).Before (DateTime.ofSeconds n) := by
  rcases Int.lt_or_eq_of_le (Int.ediv_le_ediv (c := 86400) (by decide) h.le) with hday | hday
  · exact .inl (ofDays_fields_lt hday)
  · have hlt : (m % 86400).toNat < (n % 86400).toNat := by omega
    refine .inr ⟨congrArg Date.ofDays hday, ?_⟩
    simp only [DateTime.ofSeconds, DateTime.fields, List.cons_lt_cons_iff]
    generalize (m % 86400).toNat = a, (n % 86400).toNat = b at hlt
    omega

theorem ofSeconds_isValid (n : Int) : (DateTime.ofSeconds n).isValid = true := by
  refine DateTime.isValid_iff.mpr ⟨ofDays_isValid _, ?_⟩
  simp only [DateTime.ofSeconds]
  omega

theorem toSeconds_ofSeconds (n : Int) : (DateTime.ofSeconds n).toSeconds = n := by
  simp only [DateTime.toSeconds, DateTime.ofSeconds, toDays_ofDays]
  omega

/-- The year of a day lies around its number. -/
theorem ofDays_year (n : Int) :
    yearStart ((Date.ofDays n).year - 1) ≤ n + 719468 ∧
      n + 719468 < yearStart ((Date.ofDays n).year + 1) := by
  obtain ⟨hlow, hhigh⟩ := yearStart_yearOn (n + 719468)
  have hyear : (Date.ofDays n).marchYear = yearOn (n + 719468) := by
    have hlength := (yearLength_mem (yearOn (n + 719468))).2
    rw [ofDays_eq, ofMarch_marchYear _ (by omega) (by omega)]
  have hmem : (Date.ofDays n).year - 1 ≤ yearOn (n + 719468) ∧
      yearOn (n + 719468) ≤ (Date.ofDays n).year := by
    rw [← hyear, Date.marchYear]
    split_ifs <;> omega
  have hle := yearStart_le hmem.1
  have hle' : yearStart (yearOn (n + 719468) + 1) ≤ _ := yearStart_le (Int.add_le_add_right hmem.2 1)
  omega

end LogFollow.Time
