import AtlasErp.Lib.Checked
import AtlasErp.Lib.Months
import Mathlib.Algebra.Group.Basic
import Mathlib.Algebra.Group.Int.Defs

/-! # Billing periods

- `dateUTC`: the instants of JavaScript, in UTC;
- `addMonthsUtc`, `computePeriodEnd`: the arithmetic of the periods of a subscription;
- `MonthsAway`: what it is to be some months away from an instant;
- `addMonthsUtc_keepsDates`: **months are added**, in the order of the instants and of the months. -/

namespace AtlasErp

open Lib

/-! ## Instants -/

/-- A `Date`: its milliseconds, unless it is invalid. -/
abbrev JsDate : Type := Option Int

def MS_PER_DAY : Int := 86400000

/-- The instants that a `Date` can hold. -/
def timeClip (time : Int) : JsDate := if time.natAbs ≤ 8640000000000000 then some time else none

/-- The day of a date whose month and day may be out of their ranges. -/
def makeDay (year month day : Int) : Int := Civil.toDay ⟨year + month / 12, month % 12 + 1, 1⟩ + day - 1

def makeTime (hours minutes seconds milliseconds : Int) : Int :=
  hours * 3600000 + minutes * 60000 + seconds * 1000 + milliseconds

/-- `new Date(Date.UTC(..))`: a year of two digits is one of the twentieth century. -/
def dateUTC (year month day hours minutes seconds milliseconds : Int) : JsDate :=
  let fullYear := if 0 ≤ year ∧ year ≤ 99 then 1900 + year else year
  timeClip (makeDay fullYear month day * MS_PER_DAY + makeTime hours minutes seconds milliseconds)

/-- The date of an instant. -/
def civilDate (time : Int) : Civil := civil (time / MS_PER_DAY)

def getUTCFullYear (time : Int) : Int := (civilDate time).year

def getUTCMonth (time : Int) : Int := (civilDate time).month - 1

def getUTCDate (time : Int) : Int := (civilDate time).day

def getUTCHours (time : Int) : Int := time % MS_PER_DAY / 3600000

def getUTCMinutes (time : Int) : Int := time % 3600000 / 60000

def getUTCSeconds (time : Int) : Int := time % 60000 / 1000

def getUTCMilliseconds (time : Int) : Int := time % 1000

/-! ## Periods -/

/-- The last day of a month, numbered from 0. -/
def lastDayOfUtcMonth (year monthIndex : Int) : Option Int := (dateUTC year (monthIndex + 1) 0 0 0 0 0).map getUTCDate

/-- An instant some months later, on the last day of the month when its day does not exist there. -/
def addMonthsUtc (reference : JsDate) (months : Int) : Except String JsDate :=
  match reference with
  | none => .error "La fecha de referencia no es válida."
  | some time =>
    let absoluteMonthIndex := getUTCMonth time + months
    let targetYear := getUTCFullYear time + absoluteMonthIndex / 12
    let targetMonth := (absoluteMonthIndex.tmod 12 + 12).tmod 12
    .ok ((lastDayOfUtcMonth targetYear targetMonth).bind fun lastDay =>
      dateUTC targetYear targetMonth (min (getUTCDate time) lastDay) (getUTCHours time) (getUTCMinutes time)
        (getUTCSeconds time) (getUTCMilliseconds time))

/-- `a <= b` of two dates: nothing is before or after an invalid one. -/
def JsDate.le (a b : JsDate) : Bool :=
  match a, b with
  | some a, some b => a ≤ b
  | _, _ => false

def computePeriodEnd (startedAt : JsDate) (months : Int) : Except String JsDate := do
  let periodEnd ← addMonthsUtc startedAt months
  failIf (JsDate.le periodEnd startedAt) "El fin de período debe ser posterior al inicio de la suscripción."
  return periodEnd

/-! ## Months away -/

/-- The instant has the same time of day, in the month that many months away, on the same day or, if it does not
exist, on the last one. -/
structure MonthsAway (time months time' : Int) : Prop where
  timeOfDay : time' % MS_PER_DAY = time % MS_PER_DAY
  month : (civilDate time').monthIndex = (civilDate time).monthIndex + months
  day : (civilDate time').day = min (civilDate time).day (daysInMonth (civilDate time').year (civilDate time').month)

/-- The years that are written with three or four digits. -/
def SupportedYear (year : Int) : Prop := 100 ≤ year ∧ year ≤ 9999

instance (year : Int) : Decidable (SupportedYear year) := inferInstanceAs (Decidable (_ ∧ _))

/-- The instant, and the month that many months away, are in those years. -/
def Supported (time months : Int) : Prop :=
  SupportedYear (civilDate time).year ∧ SupportedYear (((civilDate time).monthIndex + months) / 12)

instance (time months : Int) : Decidable (Supported time months) := inferInstanceAs (Decidable (_ ∧ _))

section MonthsAway

variable {time time' times months months' : Int}

theorem makeTime_getUTC (time : Int) :
    makeTime (getUTCHours time) (getUTCMinutes time) (getUTCSeconds time) (getUTCMilliseconds time) =
      time % MS_PER_DAY := by
  simp only [makeTime, getUTCHours, getUTCMinutes, getUTCSeconds, getUTCMilliseconds, MS_PER_DAY]
  omega

/-- The days of the supported years, and the one before them, are instants. -/
theorem dateUTC_eq {year month day hours minutes seconds milliseconds : Int} (hyear : SupportedYear year)
    (hmonth : 0 ≤ month ∧ month ≤ 12) (hday : 0 ≤ day ∧ day ≤ 31)
    (htime : 0 ≤ makeTime hours minutes seconds milliseconds ∧
      makeTime hours minutes seconds milliseconds < MS_PER_DAY) :
    dateUTC year month day hours minutes seconds milliseconds =
      some ((monthStart (12 * year + month) + (day - 1)) * MS_PER_DAY + makeTime hours minutes seconds milliseconds) := by
  obtain ⟨hlow, hhigh⟩ := hyear
  have hfull : ¬(0 ≤ year ∧ year ≤ 99) := by omega
  have hstart : Civil.toDay ⟨year + month / 12, month % 12 + 1, 1⟩ = monthStart (12 * year + month) := by
    rw [monthStart, show (12 * year + month) / 12 = year + month / 12 by omega,
      show (12 * year + month) % 12 = month % 12 by omega]
  have hrange : -1000000 ≤ monthStart (12 * year + month) ∧ monthStart (12 * year + month) ≤ 4000000 := by
    rw [← hstart, toDay_eq_closed]
    dsimp only
    constructor <;> split <;> omega
  simp only [dateUTC, if_neg hfull, makeDay, hstart, add_sub_assoc]
  generalize makeTime hours minutes seconds milliseconds = rest at htime
  unfold MS_PER_DAY at htime ⊢
  rw [timeClip, if_pos (by omega)]

/-- The date of a time of a day. -/
theorem civilDate_add {day rest : Int} (hrest : 0 ≤ rest ∧ rest < MS_PER_DAY) :
    civilDate (day * MS_PER_DAY + rest) = civil day := by
  unfold civilDate
  unfold MS_PER_DAY at hrest ⊢
  rw [show (day * 86400000 + rest) / 86400000 = day by omega]

/-- The remainder of a negative number, brought back into its range. -/
theorem wrapped_tmod (a : Int) : (a.tmod 12 + 12).tmod 12 = a % 12 := by
  have hlow : -12 < a.tmod 12 := Int.lt_tmod_of_pos a (by decide)
  have hsplit := Int.tmod_add_mul_tdiv a 12
  rw [Int.tmod_eq_emod_of_nonneg (by omega)]
  omega

theorem timeOfDay_range (time : Int) : 0 ≤ time % MS_PER_DAY ∧ time % MS_PER_DAY < MS_PER_DAY := by
  unfold MS_PER_DAY
  omega

/-- The last day of a month is its number of days. -/
theorem lastDayOfUtcMonth_eq {year month : Int} (hyear : SupportedYear year) (hmonth : 0 ≤ month ∧ month ≤ 11) :
    lastDayOfUtcMonth year month = some (daysInMonth year (month + 1)) := by
  have hdays := daysInMonth_range year (month + 1)
  have hvalid : (Civil.mk year (month + 1) (daysInMonth year (month + 1))).Valid :=
    ⟨by dsimp only; omega, by dsimp only; omega, by dsimp only; omega, le_refl _⟩
  have hlast : monthStart (12 * year + (month + 1)) + (0 - 1) =
      (Civil.mk year (month + 1) (daysInMonth year (month + 1))).toDay := by
    have hnext := monthStart_succ (12 * year + month)
    rw [show (12 * year + month) / 12 = year by omega, show (12 * year + month) % 12 = month by omega] at hnext
    rw [toDay_eq_monthStart hvalid.month_pos hvalid.month_le, Civil.monthIndex]
    dsimp only
    rw [add_sub_cancel_right, ← add_assoc, hnext]
    omega
  have hzero : 0 ≤ makeTime 0 0 0 0 ∧ makeTime 0 0 0 0 < MS_PER_DAY := by decide
  rw [lastDayOfUtcMonth, dateUTC_eq hyear (by omega) (by omega) hzero, Option.map_some, getUTCDate,
    civilDate_add hzero, hlast, civil_toDay hvalid]

/-- **Months are added**: the result is that many months away. -/
theorem exists_addMonthsUtc (h : Supported time months) :
    ∃ time', addMonthsUtc (some time) months = .ok (some time') ∧ MonthsAway time months time' := by
  obtain ⟨-, hyear⟩ := h
  have hvalid : (civilDate time).Valid := civil_valid _
  have hposition : getUTCFullYear time + (getUTCMonth time + months) / 12 =
        ((civilDate time).monthIndex + months) / 12 ∧
      ((getUTCMonth time + months).tmod 12 + 12).tmod 12 = ((civilDate time).monthIndex + months) % 12 := by
    unfold getUTCFullYear getUTCMonth Civil.monthIndex
    constructor
    · omega
    · rw [wrapped_tmod]
      omega
  obtain ⟨index, hindex⟩ : ∃ index, index = (civilDate time).monthIndex + months := ⟨_, rfl⟩
  rw [← hindex] at hyear hposition
  have hmonth : 0 ≤ index % 12 ∧ index % 12 ≤ 11 := by omega
  have hlast := lastDayOfUtcMonth_eq hyear hmonth
  have hdays := daysInMonth_range (index / 12) (index % 12 + 1)
  obtain ⟨day, hday⟩ : ∃ day, day = min (civilDate time).day (daysInMonth (index / 12) (index % 12 + 1)) := ⟨_, rfl⟩
  have hdayRange : 1 ≤ day ∧ day ≤ daysInMonth (index / 12) (index % 12 + 1) := by
    have hpos := hvalid.day_pos
    omega
  have hdate : (Civil.mk (index / 12) (index % 12 + 1) day).Valid :=
    ⟨by dsimp only; omega, by dsimp only; omega, hdayRange.1, hdayRange.2⟩
  have hmonthIndex : (Civil.mk (index / 12) (index % 12 + 1) day).monthIndex = index := by
    unfold Civil.monthIndex
    dsimp only
    omega
  have htoDay : monthStart (12 * (index / 12) + index % 12) + (day - 1) =
      (Civil.mk (index / 12) (index % 12 + 1) day).toDay := by
    rw [toDay_eq_monthStart hdate.month_pos hdate.month_le, hmonthIndex, show 12 * (index / 12) + index % 12 = index by omega]
  have htime := timeOfDay_range time
  refine ⟨(Civil.mk (index / 12) (index % 12 + 1) day).toDay * MS_PER_DAY + time % MS_PER_DAY, ?_, ?_, ?_, ?_⟩
  · have hresult : dateUTC (index / 12) (index % 12) day (getUTCHours time) (getUTCMinutes time) (getUTCSeconds time)
        (getUTCMilliseconds time) = _ :=
      dateUTC_eq hyear ⟨hmonth.1, by omega⟩ (by omega) ((makeTime_getUTC time).symm ▸ htime)
    simp only [addMonthsUtc, hposition, hlast, Option.bind_some, getUTCDate, ← hday, hresult, makeTime_getUTC, htoDay]
  · rw [Int.mul_comm, Int.mul_add_emod_self_left, Int.emod_emod_of_dvd _ (Int.dvd_refl _)]
  · rw [civilDate_add htime, civil_toDay hdate, hmonthIndex, hindex]
  · rw [civilDate_add htime, civil_toDay hdate]
    exact hday

/-! ## The order of the results -/

theorem toDay_civilDate (time : Int) : (civilDate time).toDay = time / MS_PER_DAY := toDay_civil _

theorem lt_of_toDay_lt (h : (civilDate time).toDay < (civilDate time').toDay) : time < time' := by
  rw [toDay_civilDate, toDay_civilDate] at h
  unfold MS_PER_DAY at h
  omega

/-- More months lead to a later instant. -/
theorem MonthsAway.lt_of_months_lt (h : MonthsAway time months time') {more later : Int}
    (h' : MonthsAway time more later) (hlt : months < more) : time' < later := by
  refine lt_of_toDay_lt (toDay_lt_of_monthIndex (civil_valid _) (civil_valid _) ?_)
  rw [h.month, h'.month]
  omega

theorem MonthsAway.lt_of_pos (h : MonthsAway time months time') (hpos : 1 ≤ months) : time < time' := by
  refine lt_of_toDay_lt (toDay_lt_of_monthIndex (civil_valid _) (civil_valid _) ?_)
  rw [h.month]
  omega

/-- Two days of a month that end in the same last day of a shorter one, the later of them at an earlier time. -/
structure Collapse (time later time' later' : Int) : Prop where
  sameMonth : (civilDate time).monthIndex = (civilDate later).monthIndex
  laterDay : (civilDate time).day < (civilDate later).day
  lastDay : (civilDate time').day = daysInMonth (civilDate time').year (civilDate time').month
  sameDay : civilDate time' = civilDate later'
  earlierTime : later % MS_PER_DAY < time % MS_PER_DAY

/-- **The order of the instants** is kept, but for a collapse. -/
theorem MonthsAway.le_iff (h : MonthsAway time months time') {later later' : Int} (h' : MonthsAway later months later')
    (hle : time ≤ later) : time' ≤ later' ↔ ¬Collapse time later time' later' := by
  have hrest := h.timeOfDay
  have hrest' := h'.timeOfDay
  have hsplit : ∀ t : Int, t = (civilDate t).toDay * MS_PER_DAY + t % MS_PER_DAY := fun t => by
    rw [toDay_civilDate]
    unfold MS_PER_DAY
    omega
  constructor
  · rintro hle' ⟨-, -, -, hsame, hearlier⟩
    have htime := hsplit time'
    have hlater := hsplit later'
    rw [hsame, hrest] at htime
    rw [hrest'] at hlater
    omega
  · intro hno
    by_contra hgt
    have hvalid : ∀ t, (civilDate t).Valid := fun t => civil_valid _
    have hfar : ¬(civilDate time').toDay < (civilDate later').toDay := fun hlt => hgt (lt_of_toDay_lt hlt).le
    have hday : time / MS_PER_DAY ≤ later / MS_PER_DAY := by
      unfold MS_PER_DAY
      omega
    have hmonth : (civilDate time).monthIndex = (civilDate later).monthIndex := by
      rcases (monotone_monthIndex hday).lt_or_eq with hlt | heq
      · refine absurd (toDay_lt_of_monthIndex (hvalid time') (hvalid later') ?_) hfar
        rw [h.month, h'.month]
        exact Int.add_lt_add_right hlt months
      · exact heq
    have hmonth' : (civilDate time').monthIndex = (civilDate later').monthIndex := by rw [h.month, h'.month, hmonth]
    obtain ⟨hyear, hmonthOf⟩ := monthIndex_split (hvalid time').month_pos (hvalid time').month_le
    obtain ⟨hyear', hmonthOf'⟩ := monthIndex_split (hvalid later').month_pos (hvalid later').month_le
    have hlast := h.day
    have hlast' := h'.day
    rw [← hyear', ← hmonthOf', ← hmonth', hyear, hmonthOf] at hlast'
    have hdays : ¬(civilDate time').day < (civilDate later').day := fun hlt =>
      hfar ((toDay_lt_iff (hvalid time') (hvalid later')).mpr (.inr ⟨hmonth', hlt⟩))
    have hle' : ¬(civilDate later).toDay < (civilDate time).toDay := by
      rw [toDay_civilDate, toDay_civilDate]
      omega
    have hdayLe : (civilDate time).day ≤ (civilDate later).day := by
      by_contra hlt
      exact hle' ((toDay_lt_iff (hvalid later) (hvalid time)).mpr (.inr ⟨hmonth.symm, not_le.mp hlt⟩))
    have hsame : civilDate time' = civilDate later' :=
      eq_of_monthIndex (hvalid time') (hvalid later') hmonth' (by omega)
    have htime := hsplit time'
    have hlater := hsplit later'
    rw [hsame, hrest] at htime
    rw [hrest'] at hlater
    have hearlier : later % MS_PER_DAY < time % MS_PER_DAY := by omega
    have hdayLt : (civilDate time).day < (civilDate later).day := by
      refine hdayLe.lt_of_ne fun hdayEq => ?_
      have heq := eq_of_monthIndex (hvalid time) (hvalid later) hmonth hdayEq
      have htime := hsplit time
      have hlater := hsplit later
      rw [heq] at htime
      omega
    exact hno ⟨hmonth, hdayLt, by omega, hsame, hearlier⟩

end MonthsAway

theorem not_le_of_failIf {periodEnd startedAt : Int} (h : startedAt < periodEnd) :
    ¬JsDate.le (some periodEnd) (some startedAt) = true := by
  simpa [JsDate.le] using h

/-- **Month arithmetic**, in the supported years: the result is exactly that many months away, it grows with the months,
it keeps the order of the instants but for the times of days that end in one last day, and no period of one or more
months is refused. -/
theorem addMonthsUtc_keepsDates : ∀ time months : Int, Supported time months →
    ∃ time', addMonthsUtc (some time) months = .ok (some time') ∧ MonthsAway time months time' ∧
      (∀ later later', time ≤ later → Supported later months →
        addMonthsUtc (some later) months = .ok (some later') → (time' ≤ later' ↔ ¬Collapse time later time' later')) ∧
      (∀ more later', months < more → Supported time more →
        addMonthsUtc (some time) more = .ok (some later') → time' < later') ∧
      (1 ≤ months → computePeriodEnd (some time) months = .ok (some time')) := by
  intro time months h
  obtain ⟨time', hadd, haway⟩ := exists_addMonthsUtc h
  refine ⟨time', hadd, haway, fun later later' hle hlater hresult => ?_, fun more later' hlt hmore hresult => ?_,
    fun hpos => ?_⟩
  · obtain ⟨actual, hactual, haway'⟩ := exists_addMonthsUtc hlater
    rw [hactual, Except.ok.injEq, Option.some.injEq] at hresult
    exact haway.le_iff (hresult ▸ haway') hle
  · obtain ⟨actual, hactual, haway'⟩ := exists_addMonthsUtc hmore
    rw [hactual, Except.ok.injEq, Option.some.injEq] at hresult
    exact haway.lt_of_months_lt (hresult ▸ haway') hlt
  · rw [computePeriodEnd, hadd, ok_bind, failIf_of_not (not_le_of_failIf (haway.lt_of_pos hpos))]
    rfl

/-- 30 and 31 January 2026 lead to 28 February, each at its own time. -/
theorem addMonthsUtc_not_monotone :
    ∃ time later time' later' : Int, time ≤ later ∧ Supported time 1 ∧ Supported later 1 ∧
      addMonthsUtc (some time) 1 = .ok (some time') ∧ addMonthsUtc (some later) 1 = .ok (some later') ∧
      ¬time' ≤ later' :=
  ⟨1769814000000, 1769821200000, 1772319600000, 1772240400000, by decide⟩

theorem addMonthsUtc_keepsDates_enero :
    ∃ time', addMonthsUtc (some 1769814000000) 1 = .ok (some time') ∧ MonthsAway 1769814000000 1 time' ∧
      computePeriodEnd (some 1769814000000) 1 = .ok (some time') := by
  obtain ⟨time', hadd, haway, -, -, hend⟩ := addMonthsUtc_keepsDates 1769814000000 1 (by decide)
  exact ⟨time', hadd, haway, hend (by decide)⟩

end AtlasErp
