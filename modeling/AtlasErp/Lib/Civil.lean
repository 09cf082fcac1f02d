import Mathlib.Data.Int.Basic
import Mathlib.Tactic.Common

/-! # The civil calendar

Days counted from 1970-01-01, in the proleptic Gregorian calendar.  A year begins in March, so that the leap day is
its last one, and 400 years are an era of 146097 days.

- `civil`: the date of a day; `Civil.toDay`: the day of a date;
- `toDay_civil`: the day of the date of a day;
- `firstOfMonth_le`: a month begins no later than any day of it. -/

namespace Lib

/-- A date. -/
structure Civil where
  year : Int
  month : Int
  day : Int
  deriving DecidableEq

/-- The year of the era on a day of the era. -/
def yearOfEra (doe : Int) : Int := (doe - doe / 1460 + doe / 36524 - doe / 146096) / 365

/-- The day of the era on which a year of it begins. -/
def eraDays (yoe : Int) : Int := 365 * yoe + yoe / 4 - yoe / 100

/-- The date of a day. -/
def civil (day : Int) : Civil :=
  let z := day + 719468
  let era := z / 146097
  let doe := z - era * 146097
  let yoe := yearOfEra doe
  let doy := doe - eraDays yoe
  let mp := (5 * doy + 2) / 153
  let month := if mp < 10 then mp + 3 else mp - 9
  ⟨yoe + era * 400 + (if month ≤ 2 then 1 else 0), month, doy - (153 * mp + 2) / 5 + 1⟩

namespace Civil

/-- The day of a date. -/
def toDay (c : Civil) : Int :=
  let year := if c.month ≤ 2 then c.year - 1 else c.year
  let era := year / 400
  let mp := if c.month ≤ 2 then c.month + 9 else c.month - 3
  let doy := (153 * mp + 2) / 5 + c.day - 1
  era * 146097 + eraDays (year - era * 400) + doy - 719468

/-- The first day of a month. -/
def firstOfMonth (c : Civil) : Int := { c with day := 1 }.toDay

theorem toDay_eq (c : Civil) : c.toDay = c.firstOfMonth + (c.day - 1) := by
  simp only [firstOfMonth, toDay]
  omega

end Civil

section Era

variable {doe : Int}

/-- A day of the era, by its century, its cycle of four years, and its year and day in the cycle; only the last year of
a cycle has a leap day. -/
theorem yearOfEra_spec (h0 : 0 ≤ doe) (h1 : doe < 146097) :
    ∃ century cycle year, 0 ≤ century ∧ century ≤ 3 ∧ 0 ≤ cycle ∧ cycle ≤ 24 ∧ 0 ≤ year ∧ year ≤ 3 ∧
      yearOfEra doe = 100 * century + 4 * cycle + year ∧
      0 ≤ doe - (36524 * century + 1461 * cycle + 365 * year) ∧
      doe - (36524 * century + 1461 * cycle + 365 * year) ≤ 365 ∧
      (doe - (36524 * century + 1461 * cycle + 365 * year) = 365 → year = 3 ∧ (cycle = 24 → century = 3)) := by
  unfold yearOfEra
  by_cases hlast : doe = 146096
  · subst hlast
    exact ⟨3, 24, 3, by decide⟩
  · obtain ⟨century, hcentury⟩ : ∃ century, century = doe / 36524 := ⟨_, rfl⟩
    obtain ⟨cycle, hcycle⟩ : ∃ cycle, cycle = (doe - 36524 * century) / 1461 := ⟨_, rfl⟩
    obtain ⟨rest, hrest⟩ : ∃ rest, rest = doe - 36524 * century - 1461 * cycle := ⟨_, rfl⟩
    have hera : doe / 146096 = 0 := by omega
    have hbounds : 0 ≤ century ∧ century ≤ 3 ∧ 0 ≤ cycle ∧ cycle ≤ 24 ∧ 0 ≤ rest ∧ rest ≤ 1460 := by omega
    -- the leap days up to the cycle, and the one of the cycle once it is over
    obtain ⟨carry, hcarry⟩ : ∃ carry, carry = (24 * century + cycle + rest) / 1460 := ⟨_, rfl⟩
    have hleaps : doe / 1460 = 25 * century + cycle + carry := by omega
    have hyear : (36500 * century + 1460 * cycle + (rest - carry)) / 365 =
        100 * century + 4 * cycle + (rest - carry) / 365 := by omega
    refine ⟨century, cycle, (rest - carry) / 365, by omega, by omega, by omega, by omega, by omega, by omega, ?_, ?_, ?_, ?_⟩
    · rw [← hyear, hleaps, hera, ← hcentury]
      congr 1
      omega
    · omega
    · omega
    · omega

theorem yearOfEra_range (h0 : 0 ≤ doe) (h1 : doe < 146097) : 0 ≤ yearOfEra doe ∧ yearOfEra doe ≤ 399 := by
  obtain ⟨century, cycle, year, hc0, hc3, hq0, hq24, hy0, hy3, hyear, -⟩ := yearOfEra_spec h0 h1
  omega

/-- The day of its year, which has a last one more than 365 only before a leap day's year. -/
theorem dayOfYear_range (h0 : 0 ≤ doe) (h1 : doe < 146097) :
    0 ≤ doe - eraDays (yearOfEra doe) ∧ doe - eraDays (yearOfEra doe) ≤ 365 ∧
      (doe - eraDays (yearOfEra doe) = 365 →
        (yearOfEra doe + 1) % 4 = 0 ∧ ((yearOfEra doe + 1) % 100 = 0 → (yearOfEra doe + 1) % 400 = 0)) := by
  obtain ⟨century, cycle, year, hc0, hc3, hq0, hq24, hy0, hy3, hyear, hlow, hhigh, hleap⟩ := yearOfEra_spec h0 h1
  have hdays : eraDays (yearOfEra doe) = 36524 * century + 1461 * cycle + 365 * year := by
    have hfour : (100 * century + 4 * cycle + year) / 4 = 25 * century + cycle := by omega
    have hhundred : (100 * century + 4 * cycle + year) / 100 = century := by omega
    rw [hyear, eraDays, hfour, hhundred]
    omega
  rw [hdays, hyear]
  refine ⟨hlow, hhigh, fun hlast => ?_⟩
  obtain ⟨hthree, hcentury⟩ := hleap hlast
  omega

end Era

/-- The months are numbered from 1 to 12, and the days of a month from 1. -/
theorem civil_range (day : Int) : 1 ≤ (civil day).month ∧ (civil day).month ≤ 12 ∧ 1 ≤ (civil day).day := by
  obtain ⟨doe, hdoe⟩ : ∃ doe, doe = day + 719468 - (day + 719468) / 146097 * 146097 := ⟨_, rfl⟩
  obtain ⟨hlow, hhigh, -⟩ := @dayOfYear_range doe (by omega) (by omega)
  simp only [civil, ← hdoe]
  generalize doe - eraDays (yearOfEra doe) = doy at hlow hhigh
  refine ⟨?_, ?_, ?_⟩
  · split <;> omega
  · split <;> omega
  · omega

/-- **The day of the date of a day** is the day. -/
theorem toDay_civil (day : Int) : (civil day).toDay = day := by
  obtain ⟨era, hera⟩ : ∃ era, era = (day + 719468) / 146097 := ⟨_, rfl⟩
  obtain ⟨doe, hdoe⟩ : ∃ doe, doe = day + 719468 - era * 146097 := ⟨_, rfl⟩
  have h0 : 0 ≤ doe := by omega
  have h1 : doe < 146097 := by omega
  obtain ⟨hlow, hhigh, -⟩ := dayOfYear_range h0 h1
  obtain ⟨hyear0, hyear399⟩ := yearOfEra_range h0 h1
  simp only [civil, Civil.toDay, ← hera, ← hdoe]
  generalize hdoy : doe - eraDays (yearOfEra doe) = doy at hlow hhigh
  generalize yearOfEra doe = yoe at hdoy hyear0 hyear399
  obtain ⟨mp, hmp⟩ : ∃ mp, mp = (5 * doy + 2) / 153 := ⟨_, rfl⟩
  rw [← hmp]
  have hyear : ∀ month : Int, (if month ≤ 2 then yoe + era * 400 + (if month ≤ 2 then 1 else 0) - 1
      else yoe + era * 400 + (if month ≤ 2 then 1 else 0)) = yoe + era * 400 := by
    intro month
    split <;> omega
  have hmonth : (if (if mp < 10 then mp + 3 else mp - 9) ≤ 2 then (if mp < 10 then mp + 3 else mp - 9) + 9
      else (if mp < 10 then mp + 3 else mp - 9) - 3) = mp := by
    split <;> split at * <;> omega
  have hera' : (yoe + era * 400) / 400 = era := by omega
  rw [hyear, hmonth, hera', show yoe + era * 400 - era * 400 = yoe by omega]
  omega

/-- **A month begins** no later than any day of it. -/
theorem firstOfMonth_le (day : Int) : (civil day).firstOfMonth ≤ day := by
  have hday := (civil day).toDay_eq
  rw [toDay_civil] at hday
  have hpos := (civil_range day).2.2
  omega

/-- Only on its first day is the first of the month today. -/
theorem firstOfMonth_eq_iff (day : Int) : (civil day).firstOfMonth = day ↔ (civil day).day = 1 := by
  have hday := (civil day).toDay_eq
  rw [toDay_civil] at hday
  omega

end Lib
