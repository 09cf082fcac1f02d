import Mathlib
import AtlasErp.Lib.Civil

/-! # The months of the civil calendar

- `daysInMonth`: how long a month is;
- `monthStart_succ`: a month ends where the next one begins;
- `civil_valid`, `civil_toDay`: **days and valid dates** correspond one to one;
- `toDay_lt_iff`: days are in the order of their months, and of the days of the month. -/

namespace Lib

/-- A year with a leap day. -/
def LeapYear (year : Int) : Prop := year % 4 = 0 ∧ (year % 100 = 0 → year % 400 = 0)

instance (year : Int) : Decidable (LeapYear year) := inferInstanceAs (Decidable (_ ∧ _))

/-- The number of days of a month. -/
def daysInMonth (year month : Int) : Int :=
  if month = 2 then (if LeapYear year then 29 else 28)
  else if month = 4 ∨ month = 6 ∨ month = 9 ∨ month = 11 then 30
  else 31

example : daysInMonth 2024 2 = 29 ∧ daysInMonth 1900 2 = 28 ∧ daysInMonth 2026 9 = 30 := by decide

/-- The first day of a month, with the months numbered from the first of the year 0. -/
def monthStart (index : Int) : Int := Civil.toDay ⟨index / 12, index % 12 + 1, 1⟩

namespace Civil

/-- The number of the month of a date, from the first of the year 0. -/
def monthIndex (c : Civil) : Int := 12 * c.year + (c.month - 1)

/-- A date that exists. -/
structure Valid (c : Civil) : Prop where
  month_pos : 1 ≤ c.month
  month_le : c.month ≤ 12
  day_pos : 1 ≤ c.day
  day_le : c.day ≤ daysInMonth c.year c.month

end Civil

section Months

variable {c c' : Civil} {year month i i' : Int}

theorem daysInMonth_range (year month : Int) : 28 ≤ daysInMonth year month ∧ daysInMonth year month ≤ 31 := by
  unfold daysInMonth
  split
  · split <;> omega
  · split <;> omega

/-- The day of a date, from the number of the year that begins in March. -/
theorem toDay_eq_closed (c : Civil) : c.toDay =
    let year := if c.month ≤ 2 then c.year - 1 else c.year
    let mp := if c.month ≤ 2 then c.month + 9 else c.month - 3
    365 * year + year / 4 - year / 100 + year / 400 + (153 * mp + 2) / 5 + c.day - 719469 := by
  simp only [Civil.toDay, eraDays]
  generalize (if c.month ≤ 2 then c.year - 1 else c.year) = y
  omega

/-- **A month ends** where the next one begins. -/
theorem monthStart_succ (i : Int) : monthStart (i + 1) = monthStart i + daysInMonth (i / 12) (i % 12 + 1) := by
  simp only [monthStart, toDay_eq_closed, daysInMonth]
  obtain ⟨year, hyear⟩ : ∃ year, year = i / 12 := ⟨_, rfl⟩
  obtain ⟨month, hmonth⟩ : ∃ month, month = i % 12 := ⟨_, rfl⟩
  rw [← hyear, ← hmonth]
  have hrange : 0 ≤ month ∧ month ≤ 11 := by omega
  have hnext : (i + 1) / 12 = (if month = 11 then year + 1 else year) ∧
      (i + 1) % 12 = if month = 11 then 0 else month + 1 := by
    split <;> omega
  rw [hnext.1, hnext.2]
  by_cases hlast : month = 11
  · subst hlast
    simp
    omega
  · rw [if_neg hlast, if_neg hlast]
    by_cases hfeb : month = 1
    · subst hfeb
      by_cases hleap : LeapYear year
      · simp [hleap]
        unfold LeapYear at hleap
        omega
      · simp [hleap]
        unfold LeapYear at hleap
        omega
    · have hcases : month = 0 ∨ month = 2 ∨ month = 3 ∨ month = 4 ∨ month = 5 ∨ month = 6 ∨ month = 7 ∨ month = 8 ∨
          month = 9 ∨ month = 10 := by omega
      rcases hcases with rfl | rfl | rfl | rfl | rfl | rfl | rfl | rfl | rfl | rfl <;> simp <;> omega

theorem monthStart_strictMono : StrictMono monthStart :=
  strictMono_int_of_lt_succ fun i => by
    have hdays := (daysInMonth_range (i / 12) (i % 12 + 1)).1
    rw [monthStart_succ]
    omega

theorem monthIndex_split (hpos : 1 ≤ c.month) (hle : c.month ≤ 12) :
    c.monthIndex / 12 = c.year ∧ c.monthIndex % 12 + 1 = c.month := by
  unfold Civil.monthIndex
  omega

/-- A day is in its month. -/
theorem toDay_eq_monthStart (hpos : 1 ≤ c.month) (hle : c.month ≤ 12) :
    c.toDay = monthStart c.monthIndex + (c.day - 1) := by
  obtain ⟨hyear, hmonth⟩ := monthIndex_split hpos hle
  rw [monthStart, hyear, hmonth]
  exact c.toDay_eq

theorem toDay_lt_next (h : c.Valid) : c.toDay < monthStart (c.monthIndex + 1) := by
  obtain ⟨hyear, hmonth⟩ := monthIndex_split h.month_pos h.month_le
  have hday := h.day_le
  rw [monthStart_succ, toDay_eq_monthStart h.month_pos h.month_le, hyear, hmonth]
  omega

theorem toDay_lt_of_monthIndex (h : c.Valid) (h' : c'.Valid) (hlt : c.monthIndex < c'.monthIndex) :
    c.toDay < c'.toDay := by
  have hstart : monthStart (c.monthIndex + 1) ≤ monthStart c'.monthIndex :=
    monthStart_strictMono.monotone (by omega)
  have hday := h'.day_pos
  have hend := toDay_lt_next h
  rw [toDay_eq_monthStart h'.month_pos h'.month_le]
  omega

/-- **Days are in the order** of their months, and of the days of the month. -/
theorem toDay_lt_iff (h : c.Valid) (h' : c'.Valid) :
    c.toDay < c'.toDay ↔ c.monthIndex < c'.monthIndex ∨ c.monthIndex = c'.monthIndex ∧ c.day < c'.day := by
  rcases lt_trichotomy c.monthIndex c'.monthIndex with hlt | heq | hgt
  · exact iff_of_true (toDay_lt_of_monthIndex h h' hlt) (.inl hlt)
  · rw [toDay_eq_monthStart h.month_pos h.month_le, toDay_eq_monthStart h'.month_pos h'.month_le, heq]
    omega
  · have hlt := toDay_lt_of_monthIndex h' h hgt
    exact iff_of_false (by omega) (by omega)

theorem eq_of_monthIndex (h : c.Valid) (h' : c'.Valid) (hindex : c.monthIndex = c'.monthIndex)
    (hday : c.day = c'.day) : c = c' := by
  obtain ⟨hyear, hmonth⟩ := monthIndex_split h.month_pos h.month_le
  obtain ⟨hyear', hmonth'⟩ := monthIndex_split h'.month_pos h'.month_le
  cases c
  cases c'
  simp_all

theorem toDay_inj (h : c.Valid) (h' : c'.Valid) (heq : c.toDay = c'.toDay) : c = c' := by
  have hlt := (toDay_lt_iff h h').not.mp heq.not_lt
  have hgt := (toDay_lt_iff h' h).not.mp heq.not_gt
  exact eq_of_monthIndex h h' (by omega) (by omega)

/-- The date of a day exists. -/
theorem civil_valid (day : Int) : (civil day).Valid := by
  obtain ⟨hpos, hle, hday⟩ := civil_range day
  refine ⟨hpos, hle, hday, ?_⟩
  obtain ⟨era, hera⟩ : ∃ era, era = (day + 719468) / 146097 := ⟨_, rfl⟩
  obtain ⟨doe, hdoe⟩ : ∃ doe, doe = day + 719468 - era * 146097 := ⟨_, rfl⟩
  obtain ⟨hlow, hhigh, hleap⟩ := @dayOfYear_range doe (by omega) (by omega)
  simp only [civil, daysInMonth, ← hera, ← hdoe]
  generalize hdoy : doe - eraDays (yearOfEra doe) = doy at hlow hhigh hleap
  generalize yearOfEra doe = yoe at hdoy hleap
  obtain ⟨mp, hmp⟩ : ∃ mp, mp = (5 * doy + 2) / 153 := ⟨_, rfl⟩
  rw [← hmp]
  have hcases : mp = 0 ∨ mp = 1 ∨ mp = 2 ∨ mp = 3 ∨ mp = 4 ∨ mp = 5 ∨ mp = 6 ∨ mp = 7 ∨ mp = 8 ∨ mp = 9 ∨ mp = 10 ∨
      mp = 11 := by omega
  rcases hcases with rfl | rfl | rfl | rfl | rfl | rfl | rfl | rfl | rfl | rfl | rfl | rfl <;> simp <;> try omega
  split
  · omega
  next hcommon =>
    unfold LeapYear at hcommon
    omega

/-- **A date that exists** is the date of its day. -/
theorem civil_toDay (h : c.Valid) : civil c.toDay = c := toDay_inj (civil_valid _) h (toDay_civil _)

theorem monotone_monthIndex {day day' : Int} (h : day ≤ day') : (civil day).monthIndex ≤ (civil day').monthIndex := by
  by_contra hgt
  have hlt := toDay_lt_of_monthIndex (civil_valid day') (civil_valid day) (not_le.mp hgt)
  rw [toDay_civil, toDay_civil] at hlt
  omega

end Months

end Lib
