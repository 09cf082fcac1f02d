import AtlasErp.Accounting.Documents
import AtlasErp.Lib.Workers

/-! # The periods of a fiscal year

A period is inserted after a query found none that overlaps it; nothing is locked between them but the number of the
period, which is unique in its year.

- `calendarMachine`: creations of periods in any interleaving;
- `FiscalCalendar.Disjoint`: no day has two periods of a year;
- `FiscalCalendar.Kept`: every period is inside its year and has a number of its own;
- `SinSolape`: a period is committed when no committed period of its year shares a day with it;
- `kept_of_reachable`, `disjoint_of_reachable`: the second holds in every run, the first in those that meet the
  condition. -/

namespace AtlasErp

open Lib

/-- `accounting_period`, with its number. -/
structure CalendarPeriod extends AccountingPeriod where
  periodNo : Nat
  deriving DecidableEq

/-- `fiscal_year`, with its dates. -/
structure CalendarYear extends FiscalYear where
  yearLabel : String
  startDate : Day
  endDate : Day
  deriving DecidableEq

instance : HasKey CalendarPeriod := ⟨(·.id), fun k r => { r with id := k }, fun _ _ => rfl, fun _ => rfl⟩
instance : HasKey CalendarYear := ⟨(·.id), fun k r => { r with id := k }, fun _ _ => rfl, fun _ => rfl⟩

structure FiscalCalendar where
  years : Table CalendarYear
  periods : Table CalendarPeriod

structure CreateAccountingPeriodDto where
  fiscalYearId : Nat
  periodNo : Option Nat
  startDate : Instant
  endDate : Instant
  deriving DecidableEq

/-! ## Rules -/

/-- The thirteenth is the one of adjustments. -/
def MAX_PERIODS_PER_FISCAL_YEAR : Nat := 13

/-- The day of an instant, in UTC. -/
def toDateOnly (value : Instant) : Day := value / 86400000

def assertDateRangeIsValid (startDate endDate : Instant) (code : String) : Except HttpError Unit :=
  failIf (endDate < startDate)
    (invalidRequest code "La fecha final no puede ser anterior a la fecha inicial.")

def assertPeriodInsideFiscalYear (input : CreateAccountingPeriodDto) (fiscalYear : CalendarYear) :
    Except HttpError Unit :=
  failIf (toDateOnly input.startDate < fiscalYear.startDate ∨ toDateOnly input.endDate > fiscalYear.endDate)
    (invalidRequest "PERIOD_OUTSIDE_FISCAL_YEAR"
      "El período contable debe estar dentro del rango del año fiscal.")

/-- The number after the largest; there is none after the last. -/
def nextPeriodNumber (current : Nat) : Except HttpError Nat := do
  failIf (current + 1 > MAX_PERIODS_PER_FISCAL_YEAR)
    (conflict "FISCAL_YEAR_PERIODS_EXHAUSTED" "El año fiscal ya tiene sus 13 períodos.")
  return current + 1

section Queries

variable (db : FiscalCalendar)

def FiscalCalendar.findFiscalYear (id : Nat) : Except HttpError CalendarYear :=
  orFail (db.years.find? id) (invalidRequest "FISCAL_YEAR_NOT_FOUND" "El año fiscal informado no existe.")

/-- `MAX(period_no)`, 0 for a year without periods. -/
def FiscalCalendar.maxPeriodNo (fiscalYearId : Nat) : Nat :=
  ((db.periods.rowsWhere (·.fiscalYearId = fiscalYearId)).map (·.periodNo)).foldr max 0

/-- The two ranges share a day, when neither is empty. -/
def CalendarPeriod.overlaps (period : CalendarPeriod) (startDate endDate : Day) : Bool :=
  period.startDate ≤ endDate ∧ period.endDate ≥ startDate

def assertPeriodDoesNotOverlap (input : CreateAccountingPeriodDto) : Except HttpError Unit :=
  failIf (db.periods.findBy fun period => period.fiscalYearId = input.fiscalYearId ∧
      period.overlaps (toDateOnly input.startDate) (toDateOnly input.endDate)).isSome
    (conflict "ACCOUNTING_PERIOD_OVERLAP" "El período contable se solapa con otro período del mismo año fiscal.")

/-- What is checked with the year, which never changes. -/
def assertPeriodCanBeCreated (input : CreateAccountingPeriodDto) (user : AuthUser) : Except HttpError Unit := do
  assertDateRangeIsValid input.startDate input.endDate "INVALID_PERIOD_DATE_RANGE"
  let fiscalYear ← db.findFiscalYear input.fiscalYearId
  assertPeriodInsideFiscalYear input fiscalYear
  assertCanAccessLegalEntity user fiscalYear.legalEntityId

def newPeriod (input : CreateAccountingPeriodDto) (periodNo id : Nat) : CalendarPeriod where
  id
  fiscalYearId := input.fiscalYearId
  startDate := toDateOnly input.startDate
  endDate := toDateOnly input.endDate
  isOpen := true
  closeStatus := .open
  closedAt := none
  closedBy := none
  periodNo

/-- The constraints of the table on a row that is inserted. -/
def checkPeriod (input : CreateAccountingPeriodDto) (periodNo : Nat) : Except HttpError Unit := do
  failIf (periodNo < 1 ∨ 13 < periodNo) (raised "accounting_period_period_no_check")
  failIf (db.periods.findBy fun period => period.fiscalYearId = input.fiscalYearId ∧ period.periodNo = periodNo).isSome
    (raised "accounting_period_fiscal_year_id_period_no_key")

end Queries

/-! ## Creations in any interleaving -/

/-- What the transaction of a creation does next. -/
inductive PeriodPoint where
  | overlap (input : CreateAccountingPeriodDto)
  | number (input : CreateAccountingPeriodDto)
  | inserting (input : CreateAccountingPeriodDto) (periodNo : Nat)
  | inserted (input : CreateAccountingPeriodDto) (periodNo : Nat)
  deriving DecidableEq

/-- The next statement; a check that fails ends the transaction with nothing written. -/
def PeriodPoint.next (s : FiscalCalendar) : PeriodPoint → FiscalCalendar × Option PeriodPoint
  | .overlap input => (s, ((assertPeriodDoesNotOverlap s input).map fun _ => .number input).toOption)
  | .number input =>
    match input.periodNo with
    | some periodNo => (s, some (.inserting input periodNo))
    | none => (s, ((nextPeriodNumber (s.maxPeriodNo input.fiscalYearId)).map fun periodNo =>
        .inserting input periodNo).toOption)
  | .inserting input periodNo => (s, ((checkPeriod s input periodNo).map fun _ => .inserted input periodNo).toOption)
  | .inserted input periodNo => ({ s with periods := s.periods.create (newPeriod input periodNo) }, none)

/-- What others do to the calendar. -/
inductive CalendarEvent where
  | createFiscalYear (legalEntityId : Nat) (yearLabel : String) (startDate endDate : Day)
  /-- A close or a reopening. -/
  | marked (periodId : Nat) (isOpen : Bool) (closeStatus : CloseStatus) (closedAt : Option Instant)
      (closedBy : Option UserId)
  deriving DecidableEq

def CalendarEvent.apply (s : FiscalCalendar) : CalendarEvent → FiscalCalendar
  | .createFiscalYear legalEntityId yearLabel startDate endDate =>
    { s with years := s.years.create fun id => ⟨⟨id, legalEntityId⟩, yearLabel, startDate, endDate⟩ }
  | .marked periodId isOpen closeStatus closedAt closedBy =>
    { s with periods := s.periods.updateWhere (·.id = periodId) fun period =>
        { period with isOpen, closeStatus, closedAt, closedBy } }

/-- A transaction that has inserted a period holds its number. -/
def calendarWorkers :
    Workers FiscalCalendar (CreateAccountingPeriodDto × AuthUser) Unit CalendarEvent (Nat × Nat) PeriodPoint where
  start request s := if (assertPeriodCanBeCreated s request.1 request.2).isOk then some (.overlap request.1) else none
  holds
    | .inserted input periodNo => [(input.fiscalYearId, periodNo)]
    | _ => []
  next p _ s := some (p.next s)
  outside event s := some (event.apply s)

/-- **No day has two periods of a year.** -/
def FiscalCalendar.Disjoint (db : FiscalCalendar) : Prop :=
  ∀ p ∈ db.periods, ∀ q ∈ db.periods, p.fiscalYearId = q.fiscalYearId → ∀ day, p.startDate ≤ day → day ≤ p.endDate →
    q.startDate ≤ day → day ≤ q.endDate → p = q

/-- **A period is inside its year and has its own number there.** -/
structure FiscalCalendar.Kept (db : FiscalCalendar) : Prop where
  ordered : ∀ p ∈ db.periods, p.startDate ≤ p.endDate
  inside : ∀ p ∈ db.periods, ∃ y ∈ db.years, y.id = p.fiscalYearId ∧ y.startDate ≤ p.startDate ∧ p.endDate ≤ y.endDate
  numbers : ∀ p ∈ db.periods, ∀ q ∈ db.periods, p.fiscalYearId = q.fiscalYearId → p.periodNo = q.periodNo → p = q

abbrev CalendarAct := WorkerAct (CreateAccountingPeriodDto × AuthUser) Unit CalendarEvent

/-- Any interleaving, from a calendar that is so. -/
def calendarMachine : Machine (Sessions FiscalCalendar PeriodPoint) CalendarAct :=
  calendarWorkers.machine fun s => s.Kept ∧ s.Disjoint

/-- No committed period of the year of a new one overlaps it. -/
def PeriodPoint.sinSolape (s : FiscalCalendar) : PeriodPoint → Bool
  | .inserted input _ => (assertPeriodDoesNotOverlap s input).isOk
  | _ => true

/-- **When a period is committed**, what its query asked for holds again. -/
def SinSolape : Sessions FiscalCalendar PeriodPoint → CalendarAct → Prop :=
  Workers.GoesWhere fun p s => p.sinSolape s = true

/-! ## Steps -/

section Steps

variable {s s' : FiscalCalendar} {p : PeriodPoint} {q : Option PeriodPoint} {input : CreateAccountingPeriodDto}
  {periodNo : Nat}

/-- The dates of a creation are in order and inside its year. -/
structure CreateAccountingPeriodDto.Inside (s : FiscalCalendar) (input : CreateAccountingPeriodDto) : Prop where
  ordered : input.startDate ≤ input.endDate
  inside : ∃ y ∈ s.years, y.id = input.fiscalYearId ∧ y.startDate ≤ toDateOnly input.startDate ∧
    toDateOnly input.endDate ≤ y.endDate

/-- What a transaction relies on: its period is inside its year and, once inserted, no other has its number. -/
def PeriodPoint.Relies (s : FiscalCalendar) : PeriodPoint → Prop
  | .overlap input | .number input | .inserting input _ => input.Inside s
  | .inserted input periodNo => input.Inside s ∧
      ∀ period ∈ s.periods, period.fiscalYearId = input.fiscalYearId → period.periodNo ≠ periodNo

theorem toDateOnly_le {a b : Instant} (h : a ≤ b) : toDateOnly a ≤ toDateOnly b :=
  Int.ediv_le_ediv (by decide) h

theorem inside_of_assertPeriodCanBeCreated {user : AuthUser} (h : (assertPeriodCanBeCreated s input user).isOk = true) :
    input.Inside s := by
  obtain ⟨_, h⟩ := exists_of_isOk h
  obtain ⟨_, hrange, h⟩ := bind_eq_ok.mp h
  obtain ⟨year, hyear, h⟩ := bind_eq_ok.mp h
  obtain ⟨_, hinside, -⟩ := bind_eq_ok.mp h
  obtain ⟨hmem, hid⟩ := Table.find?_eq_some.mp (orFail_eq_ok.mp hyear)
  have hdates := failIf_eq_ok.mp hinside
  have horder := failIf_eq_ok.mp hrange
  exact ⟨not_lt.mp horder, year, hmem, hid, not_lt.mp fun hlt => hdates (.inl hlt),
    not_lt.mp fun hlt => hdates (.inr hlt)⟩

/-- **What a statement does**: it reads, or it commits a period. -/
inductive PeriodStep (s : FiscalCalendar) : PeriodPoint → FiscalCalendar → Option PeriodPoint → Prop where
  | reads {p : PeriodPoint} {q : Option PeriodPoint} (quiet : ∀ input periodNo, p ≠ .inserted input periodNo)
      (relies : p.Relies s → ∀ p' ∈ q, p'.Relies s) : PeriodStep s p s q
  | commits {input : CreateAccountingPeriodDto} {periodNo : Nat} :
      PeriodStep s (.inserted input periodNo) { s with periods := s.periods.create (newPeriod input periodNo) } none

/-- A statement that goes on when a check passes. -/
theorem relies_of_map {outcome : Except HttpError Unit} {next : PeriodPoint} (h : outcome = .ok () → next.Relies s) :
    ∀ p' ∈ (outcome.map fun _ => next).toOption, p'.Relies s := by
  intro p' hp'
  obtain ⟨_, hok, rfl⟩ := map_eq_ok.mp (toOption_eq_some.mp hp')
  exact h hok

theorem periodStep_of_next (h : calendarWorkers.next p () s = some (s', q)) : PeriodStep s p s' q := by
  obtain ⟨rfl, rfl⟩ := Prod.mk.inj (Option.some.inj h)
  cases p with
  | overlap input => exact .reads nofun fun hp => relies_of_map fun _ => hp
  | number input =>
    cases hno : input.periodNo with
    | some periodNo =>
      simp only [hno]
      refine .reads nofun fun hp p' hp' => ?_
      obtain rfl := Option.some.inj hp'
      exact hp
    | none =>
      simp only [hno]
      refine .reads nofun fun hp p' hp' => ?_
      obtain ⟨_, -, rfl⟩ := map_eq_ok.mp (toOption_eq_some.mp hp')
      exact hp
  | inserting input periodNo =>
    refine .reads nofun fun hp => relies_of_map fun hcheck => ⟨hp, fun period hperiod hyear hno => ?_⟩
    obtain ⟨_, -, hunique⟩ := bind_eq_ok.mp hcheck
    have hnone := Option.not_isSome_iff_eq_none.mp (failIf_eq_ok.mp hunique)
    exact of_decide_eq_false (Table.findBy_eq_none.mp hnone period hperiod) ⟨hyear, hno⟩
  | inserted input periodNo => exact .commits

theorem mem_newPeriod {period : CalendarPeriod} : period ∈ s.periods.create (newPeriod input periodNo) ↔
    period ∈ s.periods ∨ period = newPeriod input periodNo s.periods.nextKey := Table.mem_create fun _ => rfl

/-- **A commit keeps the calendar**: its period is inside its year, under a number that is free. -/
theorem FiscalCalendar.Kept.commit (h : s.Kept) (hrelies : (PeriodPoint.inserted input periodNo).Relies s) :
    FiscalCalendar.Kept { s with periods := s.periods.create (newPeriod input periodNo) } where
  ordered period hperiod := by
    rcases mem_newPeriod.mp hperiod with hold | rfl
    · exact h.ordered period hold
    · exact toDateOnly_le hrelies.1.ordered
  inside period hperiod := by
    rcases mem_newPeriod.mp hperiod with hold | rfl
    · exact h.inside period hold
    · exact hrelies.1.inside
  numbers period hperiod other hother hyear hno := by
    rcases mem_newPeriod.mp hperiod with hold | rfl <;> rcases mem_newPeriod.mp hother with hold' | rfl
    · exact h.numbers period hold other hold' hyear hno
    · exact absurd hno (hrelies.2 period hold hyear)
    · exact absurd hno.symm (hrelies.2 other hold' hyear.symm)
    · rfl

/-- Two ranges that are not empty overlap when they share a day. -/
theorem overlaps_iff {period : CalendarPeriod} {startDate endDate : Day} (hordered : period.startDate ≤ period.endDate)
    (h : startDate ≤ endDate) : period.overlaps startDate endDate = true ↔
      ∃ day, period.startDate ≤ day ∧ day ≤ period.endDate ∧ startDate ≤ day ∧ day ≤ endDate := by
  rw [CalendarPeriod.overlaps, decide_eq_true_iff]
  constructor
  · rintro ⟨hstart, hend⟩
    exact ⟨max period.startDate startDate, le_max_left _ _, max_le hordered hend, le_max_right _ _, max_le hstart h⟩
  · rintro ⟨day, h₁, h₂, h₃, h₄⟩
    exact ⟨h₁.trans h₄, h₃.trans h₂⟩

theorem sinSolape_iff : (PeriodPoint.inserted input periodNo).sinSolape s = true ↔
    ∀ period ∈ s.periods, period.fiscalYearId = input.fiscalYearId →
      ¬ period.overlaps (toDateOnly input.startDate) (toDateOnly input.endDate) = true := by
  have hok : (PeriodPoint.inserted input periodNo).sinSolape s = true ↔ assertPeriodDoesNotOverlap s input = .ok () :=
    ⟨fun h => (exists_of_isOk h).choose_spec, fun h => by rw [PeriodPoint.sinSolape, h]; rfl⟩
  rw [hok, assertPeriodDoesNotOverlap, failIf_eq_ok, Option.not_isSome_iff_eq_none, Table.findBy_eq_none]
  refine forall₂_congr fun period _ => ?_
  rw [decide_eq_false_iff_not, not_and]

/-- **A commit keeps the periods apart exactly when its period overlaps none.** -/
theorem FiscalCalendar.disjoint_commit_iff (h : s.Disjoint) (hkept : s.Kept) (hinside : input.Inside s) :
    FiscalCalendar.Disjoint { s with periods := s.periods.create (newPeriod input periodNo) } ↔
      (PeriodPoint.inserted input periodNo).sinSolape s = true := by
  have hnew := toDateOnly_le hinside.ordered
  rw [sinSolape_iff]
  constructor
  · intro hdisjoint period hperiod hyear hoverlaps
    obtain ⟨day, h₁, h₂, h₃, h₄⟩ := (overlaps_iff (hkept.ordered period hperiod) hnew).mp hoverlaps
    have heq := hdisjoint period (mem_newPeriod.mpr (.inl hperiod)) _ (mem_newPeriod.mpr (.inr rfl)) hyear day h₁ h₂ h₃ h₄
    exact absurd (congrArg (·.id) heq) (Nat.ne_of_lt (Table.key_lt_nextKey hperiod))
  · intro hfree period hperiod other hother hyear day h₁ h₂ h₃ h₄
    rcases mem_newPeriod.mp hperiod with hold | rfl <;> rcases mem_newPeriod.mp hother with hold' | rfl
    · exact h period hold other hold' hyear day h₁ h₂ h₃ h₄
    · exact absurd ((overlaps_iff (hkept.ordered period hold) hnew).mpr ⟨day, h₁, h₂, h₃, h₄⟩) (hfree period hold hyear)
    · exact absurd ((overlaps_iff (hkept.ordered other hold') hnew).mpr ⟨day, h₃, h₄, h₁, h₂⟩)
        (hfree other hold' hyear.symm)
    · rfl

end Steps

/-! ## Runs -/

section Runs

variable {S : Sessions FiscalCalendar PeriodPoint}

/-- The same period, whatever its flags. -/
structure CalendarPeriod.Same (period period' : CalendarPeriod) : Prop where
  id : period'.id = period.id
  fiscalYearId : period'.fiscalYearId = period.fiscalYearId
  startDate : period'.startDate = period.startDate
  endDate : period'.endDate = period.endDate
  periodNo : period'.periodNo = period.periodNo

/-- What others do leaves the years there and the periods where they are. -/
theorem CalendarEvent.relates (event : CalendarEvent) (s : FiscalCalendar) :
    (∀ y ∈ s.years, y ∈ (event.apply s).years) ∧
      ∀ period' ∈ (event.apply s).periods, ∃ period ∈ s.periods, period.Same period' := by
  have hrefl : ∀ period : CalendarPeriod, period.Same period := fun _ => ⟨rfl, rfl, rfl, rfl, rfl⟩
  cases event with
  | createFiscalYear legalEntityId yearLabel startDate endDate =>
    exact ⟨fun y hy => Table.mem_create_of_mem (fun _ => rfl) hy, fun period hperiod => ⟨period, hperiod, hrefl period⟩⟩
  | marked periodId isOpen closeStatus closedAt closedBy =>
    have hrelates := Table.updateWhere_relates (t := s.periods) (p := (·.id = periodId))
      (f := fun period => { period with isOpen, closeStatus, closedAt, closedBy }) (fun _ => rfl) hrefl
      fun _ _ _ => ⟨rfl, rfl, rfl, rfl, rfl⟩
    exact ⟨fun y hy => hy, hrelates.2⟩

theorem CreateAccountingPeriodDto.Inside.mono {s s' : FiscalCalendar} {input : CreateAccountingPeriodDto}
    (h : input.Inside s) (hyears : ∀ y ∈ s.years, y ∈ s'.years) : input.Inside s' := by
  obtain ⟨y, hy, hinside⟩ := h.inside
  exact ⟨h.ordered, y, hyears y hy, hinside⟩

theorem FiscalCalendar.Kept.event {s : FiscalCalendar} (h : s.Kept) (event : CalendarEvent) : (event.apply s).Kept := by
  obtain ⟨hyears, hperiods⟩ := event.relates s
  constructor
  · intro period' hperiod'
    obtain ⟨period, hperiod, hsame⟩ := hperiods period' hperiod'
    rw [hsame.startDate, hsame.endDate]
    exact h.ordered period hperiod
  · intro period' hperiod'
    obtain ⟨period, hperiod, hsame⟩ := hperiods period' hperiod'
    obtain ⟨y, hy, hinside⟩ := h.inside period hperiod
    rw [hsame.fiscalYearId, hsame.startDate, hsame.endDate]
    exact ⟨y, hyears y hy, hinside⟩
  · intro period' hperiod' other' hother' hyear hno
    obtain ⟨period, hperiod, hsame⟩ := hperiods period' hperiod'
    obtain ⟨other, hother, hsame'⟩ := hperiods other' hother'
    rw [hsame.fiscalYearId, hsame'.fiscalYearId] at hyear
    rw [hsame.periodNo, hsame'.periodNo] at hno
    have heq := h.numbers period hperiod other hother hyear hno
    exact Table.eq_of_key_eq hperiod' hother' (hsame.id.trans ((congrArg (·.id) heq).trans hsame'.id.symm))

theorem FiscalCalendar.Disjoint.event {s : FiscalCalendar} (h : s.Disjoint) (event : CalendarEvent) :
    (event.apply s).Disjoint := by
  intro period' hperiod' other' hother' hyear day h₁ h₂ h₃ h₄
  obtain ⟨period, hperiod, hsame⟩ := (event.relates s).2 period' hperiod'
  obtain ⟨other, hother, hsame'⟩ := (event.relates s).2 other' hother'
  rw [hsame.fiscalYearId, hsame'.fiscalYearId] at hyear
  have heq := h period hperiod other hother hyear day (hsame.startDate ▸ h₁) (hsame.endDate ▸ h₂) (hsame'.startDate ▸ h₃)
    (hsame'.endDate ▸ h₄)
  exact Table.eq_of_key_eq hperiod' hother' (hsame.id.trans ((congrArg (·.id) heq).trans hsame'.id.symm))

theorem PeriodPoint.Relies.event {s : FiscalCalendar} {p : PeriodPoint} (h : p.Relies s) (event : CalendarEvent) :
    p.Relies (event.apply s) := by
  obtain ⟨hyears, hperiods⟩ := event.relates s
  cases p with
  | overlap | number | inserting => exact CreateAccountingPeriodDto.Inside.mono h hyears
  | inserted input periodNo =>
    refine ⟨h.1.mono hyears, fun period' hperiod' hyear => ?_⟩
    obtain ⟨period, hperiod, hsame⟩ := hperiods period' hperiod'
    rw [hsame.periodNo]
    exact h.2 period hperiod (hsame.fiscalYearId.symm.trans hyear)

/-- A commit under another number leaves what a transaction relies on. -/
theorem PeriodPoint.Relies.commit {s : FiscalCalendar} {p : PeriodPoint} {input : CreateAccountingPeriodDto}
    {periodNo : Nat} (h : p.Relies s) (hfree : (input.fiscalYearId, periodNo) ∉ calendarWorkers.holds p) :
    p.Relies { s with periods := s.periods.create (newPeriod input periodNo) } := by
  cases p with
  | overlap | number | inserting => exact CreateAccountingPeriodDto.Inside.mono h fun y hy => hy
  | inserted input' periodNo' =>
    refine ⟨h.1.mono fun y hy => hy, fun period hperiod hyear hno => ?_⟩
    rcases mem_newPeriod.mp hperiod with hold | rfl
    · exact h.2 period hold hyear hno
    · exact hfree (List.mem_singleton.mpr (Prod.ext hyear hno))

theorem calendarWorkers_promises {ok : Sessions FiscalCalendar PeriodPoint → CalendarAct → Prop} :
    calendarWorkers.Promises calendarWorkers.Exclusive ok FiscalCalendar.Kept fun p s => p.Relies s where
  start {S task p} _ _ hstart := by
    obtain ⟨hok, h⟩ := Option.ite_none_right_eq_some.mp hstart
    obtain rfl := Option.some.inj h
    exact inside_of_assertPeriodCanBeCreated hok
  next {S w answer p store q} _ hS hfind _ hnext := by
    cases periodStep_of_next hnext with
    | reads _ hrelies => exact ⟨hS.store, hrelies (hS.at hfind)⟩
    | commits => exact ⟨hS.store.commit (hS.at hfind), fun p' hp' => absurd hp' (Option.not_mem_none p')⟩
  stable {S w answer p store q} hexclusive hS hfind _ hnext x hx := by
    obtain ⟨hx, hne⟩ := Sessions.mem_others.mp hx
    cases periodStep_of_next hnext with
    | reads => exact hS.worker x hx
    | commits =>
      have hheld := hexclusive (w, _) (S.mem_of_find? hfind) x hx (Ne.symm hne) _ (List.mem_singleton.mpr rfl)
      exact (hS.worker x hx).commit hheld
  outside {S event store} _ hS _ hout := by
    obtain rfl := Option.some.inj hout
    exact ⟨hS.store.event event, fun x hx => (hS.worker x hx).event event⟩

theorem keeps_of_reachable {ok : Sessions FiscalCalendar PeriodPoint → CalendarAct → Prop}
    (h : calendarMachine.Reachable ok S) : Workers.Keeps FiscalCalendar.Kept (fun p s => p.Relies s) S :=
  Workers.keeps calendarWorkers_promises (fun _ hinit => hinit.1) (fun _ hS => Workers.exclusive hS) h

/-- **In every run** a period is inside its year and has its own number there. -/
theorem kept_of_reachable (h : calendarMachine.Reachable (fun _ _ => True) S) : S.committed.Kept :=
  (keeps_of_reachable h).store

/-- A statement leaves the periods apart exactly when it meets the condition. -/
theorem disjoint_step_iff {S' : Sessions FiscalCalendar PeriodPoint} {w : Nat}
    (hS : Workers.Keeps FiscalCalendar.Kept (fun p s => p.Relies s) S) (hdisjoint : S.committed.Disjoint)
    (hstep : calendarMachine.step S (.go w ()) = some S') :
    S'.committed.Disjoint ↔ SinSolape S (.go w ()) := by
  have hcase : calendarWorkers.StepCase S (.go w ()) S' := Workers.step_cases hstep
  obtain ⟨p, hfind⟩ : ∃ p, S.find? w = some p := by
    cases hcase with
    | moved hfind _ _ => exact ⟨_, hfind⟩
    | done hfind _ => exact ⟨_, hfind⟩
  obtain ⟨q, hnext⟩ := Workers.next_of_step hstep hfind
  have hok : SinSolape S (.go w ()) ↔ p.sinSolape S.committed = true :=
    ⟨fun h => h p hfind, fun h p' hp' => Option.some.inj (hfind.symm.trans hp') ▸ h⟩
  rw [hok]
  have hrelies := hS.at hfind
  have hpoint := periodStep_of_next hnext
  generalize S'.committed = store at hpoint ⊢
  cases hpoint with
  | reads hquiet =>
    refine iff_of_true hdisjoint ?_
    cases p with
    | overlap | number | inserting => rfl
    | inserted input periodNo => exact absurd rfl (hquiet input periodNo)
  | commits => exact FiscalCalendar.disjoint_commit_iff hdisjoint hS.store hrelies.1

instance (S : Sessions FiscalCalendar PeriodPoint) (a : CalendarAct) : Decidable (SinSolape S a) :=
  inferInstanceAs (Decidable (Workers.GoesWhere _ S a))

def contador : AuthUser := ⟨3, false, [1]⟩

/-- The year 2026, without periods. -/
def gestion2026 : FiscalCalendar where
  years := Table.empty.create fun id => ⟨⟨id, 1⟩, "2026", 20454, 20818⟩
  periods := Table.empty

theorem gestion2026_init : gestion2026.Kept ∧ gestion2026.Disjoint :=
  ⟨⟨fun _ hp => absurd hp (Table.not_mem_empty _), fun _ hp => absurd hp (Table.not_mem_empty _),
    fun _ hp => absurd hp (Table.not_mem_empty _)⟩, fun _ hp => absurd hp (Table.not_mem_empty _)⟩

/-- A period of the year between two days. -/
def periodo (periodNo : Option Nat) (first last : Day) : CreateAccountingPeriodDto :=
  ⟨1, periodNo, first * 86400000, last * 86400000⟩

/-- January twice, under two numbers: each looks for an overlap before the other commits. -/
def eneroDosVeces : Sessions FiscalCalendar PeriodPoint :=
  calendarMachine.after ⟨gestion2026, []⟩
    [.start 0 (periodo (some 1) 20454 20484, contador), .start 1 (periodo (some 2) 20454 20484, contador),
      .go 0 (), .go 1 (), .go 0 (), .go 0 (), .go 0 (), .go 1 (), .go 1 (), .go 1 ()]

/-- January, then February from the next day on, with the numbers that follow. -/
def eneroYFebrero : Sessions FiscalCalendar PeriodPoint :=
  calendarMachine.afterIf SinSolape ⟨gestion2026, []⟩
    [.start 0 (periodo none 20454 20484, contador), .go 0 (), .go 0 (), .go 0 (), .go 0 (),
      .start 0 (periodo none 20485 20512, contador), .go 0 (), .go 0 (), .go 0 (), .go 0 ()]

end Runs

end AtlasErp
