import AtlasErp.Accounting.Ledger
import AtlasErp.Lib.Decimal

/-! # The history of the closes of a period

A close writes the `close_run` of its type: it is created by the first one, and later ones move what it said into
`previousCloses`.  A reopening annuls the completed ones.  The run is locked, the period is not: it is read at the
beginning.

- `historialDeCierres`: what a run says of its closes;
- `closingMachine`: closes of any type and reopenings of one period, statement by statement, in any interleaving;
- `cierres`, `historial`: what was committed, and what a run is to say of it;
- `ClosingDb.Faithful`: closes and reopenings alternate, every run says what happened, no event key comes twice;
- `EnSuEstado`: a close is committed on an open period; a reopening, on a closed one whose close it annuls;
- `faithful_of_reachable`: the third in every run that meets the fourth. -/

namespace AtlasErp

open Lib

inductive CloseType where
  | monthly
  | annual
  deriving DecidableEq

inductive CloseRunStatus where
  | started
  | completed
  | failed
  | void
  deriving DecidableEq

/-- What is left of an earlier close. -/
structure CierreAnterior where
  closeNumber : Nat
  status : CloseRunStatus
  completedAt : Option Instant
  closedBy : Option UserId
  reopenedBy : Option UserId
  reopenedAt : Option Instant
  reopenReason : Option Text
  deriving DecidableEq

/-- `control_report_json`, without the counts of the controls. -/
structure ControlReportJson where
  closedBy : Option UserId
  closeNumber : Option Nat
  previousCloses : Option (List CierreAnterior)
  reopenedBy : Option UserId
  reopenedAt : Option Instant
  reopenReason : Option Text
  deriving DecidableEq

/-- `close_run` of the period, and so of its legal entity. -/
structure CloseRun where
  id : Nat
  closeType : CloseType
  status : CloseRunStatus
  startedAt : Instant
  completedAt : Option Instant
  controlReportJson : ControlReportJson
  deriving DecidableEq

instance : HasKey CloseRun := ⟨(·.id), fun k r => { r with id := k }, fun _ _ => rfl, fun _ => rfl⟩

inductive PeriodTopic where
  | closed
  | reopened
  deriving DecidableEq

/-- A row of `event_outbox`. -/
structure PeriodEvent where
  topic : PeriodTopic
  eventKey : Text
  deriving DecidableEq

/-- Who reopens, when and why. -/
structure Reapertura where
  reopenedBy : UserId
  reopenedAt : Instant
  reopenReason : Text
  deriving DecidableEq

/-- What was committed. -/
inductive PeriodEntry where
  | closed (closeType : CloseType) (closedBy : UserId) (completedAt : Instant)
  | reopened (reapertura : Reapertura)
  deriving DecidableEq

structure ClosingDb where
  ledger : AccountingDb
  runs : Table CloseRun
  outbox : List PeriodEvent
  /-- Of the closes and reopenings, the newest first. -/
  log : List PeriodEntry

/-! ## Runs of a period -/

def ControlReportJson.previos (informe : ControlReportJson) : List CierreAnterior := informe.previousCloses.getD []

def historialDeCierres (anterior : CloseRun) : List CierreAnterior :=
  let informe := anterior.controlReportJson
  informe.previos ++ [{
    closeNumber := informe.closeNumber.getD (informe.previos.length + 1)
    status := anterior.status
    completedAt := anterior.completedAt
    closedBy := informe.closedBy
    reopenedBy := informe.reopenedBy
    reopenedAt := informe.reopenedAt
    reopenReason := informe.reopenReason }]

/-- A close that is being written. -/
structure Closing where
  closeType : CloseType
  user : AuthUser
  completedAt : Instant
  anterior : Option CloseRun

section Closings

variable (c : Closing)

def Closing.previousCloses : List CierreAnterior := (c.anterior.map historialDeCierres).getD []

def Closing.closeNumber : Nat := c.previousCloses.length + 1

def Closing.controlReportJson : ControlReportJson where
  closedBy := some c.user.sub
  closeNumber := some c.closeNumber
  previousCloses := some c.previousCloses
  reopenedBy := none
  reopenedAt := none
  reopenReason := none

def Closing.created (id : Nat) : CloseRun where
  id
  closeType := c.closeType
  status := .completed
  startedAt := c.completedAt
  completedAt := some c.completedAt
  controlReportJson := c.controlReportJson

def Closing.updated (run : CloseRun) : CloseRun :=
  { run with
    status := .completed
    startedAt := c.completedAt
    completedAt := some c.completedAt
    controlReportJson := c.controlReportJson }

end Closings

def CloseRun.anulado (r : Reapertura) (cierre : CloseRun) : CloseRun :=
  { cierre with
    status := .void
    controlReportJson := { cierre.controlReportJson with
      reopenedBy := some r.reopenedBy
      reopenedAt := some r.reopenedAt
      reopenReason := some r.reopenReason } }

def closedKey (closeRunId closeNumber : Nat) : Text :=
  "period-closed-".toList ++ (Nat.toDigits 10 closeRunId ++ '-' :: Nat.toDigits 10 closeNumber)

def reopenedKey (periodId : Nat) (reopenedAt : Instant) : Text :=
  "period-reopened-".toList ++ (Nat.toDigits 10 periodId ++ '-' :: (toString reopenedAt).toList)

/-! ## Transactions -/

section Statements

variable (periodId : Nat) (s : ClosingDb)

/-- The period is open. -/
def ClosingDb.takes : Bool := (s.ledger.periods.find? periodId).any AccountingPeriod.takes

def ClosingDb.findRun (closeType : CloseType) : Option CloseRun := s.runs.findBy (·.closeType = closeType)

/-- `event_key` is unique. -/
def ClosingDb.taken (eventKey : Text) : Bool := s.outbox.any (·.eventKey = eventKey)

def ClosingDb.keyOf (c : Closing) : Text :=
  closedKey ((c.anterior.map (·.id)).getD s.runs.nextKey) c.closeNumber

/-- What a close leaves when it commits. -/
def ClosingDb.close (c : Closing) : ClosingDb where
  ledger := { s.ledger with
    periods := s.ledger.periods.updateWhere (·.id = periodId) (closedPeriod c.user c.completedAt) }
  runs := match c.anterior with
    | some run => s.runs.put (c.updated run)
    | none => s.runs.create c.created
  outbox := s.outbox ++ [⟨.closed, s.keyOf c⟩]
  log := .closed c.closeType c.user.sub c.completedAt :: s.log

/-- What a reopening leaves when it commits. -/
def ClosingDb.reopen (r : Reapertura) (cierresAnulados : List CloseRun) : ClosingDb where
  ledger := { s.ledger with periods := s.ledger.periods.updateWhere (·.id = periodId) openPeriod }
  runs := cierresAnulados.foldl (fun runs cierre => runs.put (cierre.anulado r)) s.runs
  outbox := s.outbox ++ [⟨.reopened, reopenedKey periodId r.reopenedAt⟩]
  log := .reopened r :: s.log

/-- What the transaction of an operation does next. -/
inductive ClosingPoint where
  | controls (closeType : CloseType) (user : AuthUser)
  | locking (closeType : CloseType) (user : AuthUser)
  /-- The run is locked when there was one. -/
  | writing (c : Closing)
  | written (c : Closing)
  | closing (c : Closing)
  | selecting (user : AuthUser) (reason : Text)
  /-- The runs that the query found are locked one by one; those that are still completed are kept. -/
  | lockingRuns (r : Reapertura) (pending held : List CloseType) (cierresAnulados : List CloseRun)
  | reopening (r : Reapertura) (held : List CloseType) (cierresAnulados : List CloseRun)

inductive ClosingLock where
  | run (closeType : CloseType)
  | period
  deriving DecidableEq

def ClosingPoint.locks : ClosingPoint → List ClosingLock
  | .writing c => if c.anterior.isSome then [.run c.closeType] else []
  | .written c => [.run c.closeType]
  | .closing c => [.period, .run c.closeType]
  | .lockingRuns _ _ held _ => held.map .run
  | .reopening _ held _ => .period :: held.map .run
  | _ => []

/-- What is not read from the tables. -/
structure ClosingAnswer where
  now : Instant
  /-- Reconciliation items or bank statement lines are open. -/
  openItems : Bool

def ClosingPoint.next (answer : ClosingAnswer) : ClosingPoint → ClosingDb × Option ClosingPoint
  | .controls closeType user =>
    (s, ((assertNoBlockers s.ledger periodId answer.openItems).map fun _ => .locking closeType user).toOption)
  | .locking closeType user => (s, some (.writing ⟨closeType, user, answer.now, s.findRun closeType⟩))
  -- One run per type: a second one is refused.
  | .writing c => (s, if c.anterior.isNone ∧ (s.findRun c.closeType).isSome then none else some (.written c))
  | .written c => (s, some (.closing c))
  | .closing c => (if s.taken (s.keyOf c) then s else s.close periodId c, none)
  | .selecting user reason =>
    (s, some (.lockingRuns ⟨user.sub, answer.now, reason⟩
      ((s.runs.rowsWhere (·.status = .completed)).map (·.closeType)) [] []))
  | .lockingRuns r (closeType :: pending) held cierresAnulados =>
    (s, some (.lockingRuns r pending (closeType :: held)
      ((s.runs.rowsWhere fun run => run.closeType = closeType ∧ run.status = .completed) ++ cierresAnulados)))
  | .lockingRuns r [] held cierresAnulados => (s, some (.reopening r held cierresAnulados))
  | .reopening r _ cierresAnulados =>
    (if s.taken (reopenedKey periodId r.reopenedAt) then s else s.reopen periodId r cierresAnulados, none)

end Statements

inductive ClosingTask where
  | closePeriod (legalEntityId : Nat) (closeType : CloseType) (user : AuthUser)
  | reopenPeriod (reason : Text) (user : AuthUser)

/-- The period is read, and not locked. -/
def ClosingTask.start (periodId : Nat) (s : ClosingDb) : ClosingTask → Except HttpError ClosingPoint
  | .closePeriod legalEntityId closeType user => do
    beginClosing s.ledger ⟨periodId, legalEntityId⟩ user
    return .controls closeType user
  | .reopenPeriod reason user => do
    beginReopening s.ledger periodId user
    return .selecting user reason

/-- Others change the documents. -/
def closingWorkers (periodId : Nat) :
    Workers ClosingDb ClosingTask ClosingAnswer (Table AccountingDocument) ClosingLock ClosingPoint where
  start task s := (task.start periodId s).toOption
  holds := ClosingPoint.locks
  next p answer s := some (p.next periodId s answer)
  outside documents s := some { s with ledger := { s.ledger with documents } }

abbrev ClosingAct := WorkerAct ClosingTask ClosingAnswer (Table AccountingDocument)

/-- Any interleaving, from an open period that was never closed. -/
def closingMachine (periodId : Nat) : Machine (Sessions ClosingDb ClosingPoint) ClosingAct :=
  (closingWorkers periodId).machine fun s => s.takes periodId = true ∧ s.runs = Table.empty ∧ s.outbox = [] ∧ s.log = []

/-! ## What happened, and what the runs are to say -/

/-- A close that was committed, with the reopening that undid it. -/
structure Cierre where
  closeType : CloseType
  closedBy : UserId
  completedAt : Instant
  reapertura : Option Reapertura

/-- The closes of a log, the newest first. -/
def cierres : List PeriodEntry → List Cierre
  | [] => []
  | .closed closeType closedBy completedAt :: older => ⟨closeType, closedBy, completedAt, none⟩ :: cierres older
  | .reopened r :: older =>
    match cierres older with
    | [] => []
    | c :: rest => { c with reapertura := some r } :: rest

/-- The log ends with a close. -/
def cerrado : List PeriodEntry → Bool
  | .closed .. :: _ => true
  | _ => false

/-- **Closes and reopenings alternate**, from a close on. -/
def Alternates : List PeriodEntry → Prop
  | [] => True
  | .closed .. :: older => cerrado older = false ∧ Alternates older
  | .reopened _ :: older => cerrado older = true ∧ Alternates older

/-- A close as a run says it. -/
def Cierre.anterior (c : Cierre) (closeNumber : Nat) : CierreAnterior where
  closeNumber
  status := if c.reapertura.isSome then .void else .completed
  completedAt := some c.completedAt
  closedBy := some c.closedBy
  reopenedBy := c.reapertura.map (·.reopenedBy)
  reopenedAt := c.reapertura.map (·.reopenedAt)
  reopenReason := c.reapertura.map (·.reopenReason)

/-- The closes of a type, the oldest first, numbered from 1. -/
def historial (closeType : CloseType) : List Cierre → List CierreAnterior
  | [] => []
  | c :: older =>
    if c.closeType = closeType then historial closeType older ++ [c.anterior ((historial closeType older).length + 1)]
    else historial closeType older

/-- **The history is faithful.** -/
structure ClosingDb.Faithful (s : ClosingDb) : Prop where
  alternates : Alternates s.log
  /-- A run says every close of its type, with the reopening that undid it. -/
  recorded : ∀ run ∈ s.runs, historialDeCierres run = historial run.closeType (cierres s.log)
  found : ∀ c ∈ cierres s.log, ∃ run ∈ s.runs, run.closeType = c.closeType
  numbers : ∀ run ∈ s.runs, (historialDeCierres run).map (·.closeNumber) = List.range' 1 (historialDeCierres run).length
  reopened : ∀ run ∈ s.runs, ∀ c ∈ run.controlReportJson.previos,
    c.status = .void ∧ c.reopenedBy.isSome ∧ c.reopenedAt.isSome ∧ c.reopenReason.isSome
  keys : ((s.outbox.filter (·.topic = .closed)).map (·.eventKey)).Nodup

/-- The period is as a commit supposes: a refused one changes nothing. -/
def ClosingPoint.enSuEstado (periodId : Nat) (s : ClosingDb) : ClosingPoint → Bool
  | .closing _ => s.takes periodId
  | .reopening r _ cierresAnulados => s.taken (reopenedKey periodId r.reopenedAt) ∨
      (s.takes periodId = false ∧ ∀ run ∈ s.runs.rowsWhere (·.status = .completed), run ∈ cierresAnulados)
  | _ => true

/-- **A close is committed on an open period**; a reopening, on a closed one, with its completed run. -/
def EnSuEstado (periodId : Nat) : Sessions ClosingDb ClosingPoint → ClosingAct → Prop :=
  Workers.GoesWhere fun p s => p.enSuEstado periodId s = true

/-! ## Logs -/

section Logs

variable {log : List PeriodEntry} {cs : List Cierre} {closeType : CloseType}

/-- The closes that are not the last one of a log that alternates were undone; the last one, unless it ends with it. -/
theorem Alternates.cierres (h : Alternates log) :
    (∀ c ∈ (cierres log).tail, c.reapertura.isSome) ∧
      if cerrado log then ∃ c rest, cierres log = c :: rest ∧ c.reapertura = none
      else ∀ c ∈ cierres log, c.reapertura.isSome := by
  induction log with
  | nil => exact ⟨fun c hc => absurd hc List.not_mem_nil, fun c hc => absurd hc List.not_mem_nil⟩
  | cons entry older ih =>
    cases entry with
    | closed closeType closedBy completedAt =>
      obtain ⟨hopen, halternates⟩ := h
      have hall := (ih halternates).2
      rw [hopen] at hall
      exact ⟨hall, _, _, rfl, rfl⟩
    | reopened r =>
      obtain ⟨hclosed, halternates⟩ := h
      obtain ⟨htail, hlast⟩ := ih halternates
      rw [hclosed] at hlast
      obtain ⟨c, rest, hcierres, -⟩ := hlast
      rw [hcierres] at htail
      have hnew : AtlasErp.cierres (.reopened r :: older) = { c with reapertura := some r } :: rest := by
        rw [AtlasErp.cierres, hcierres]
      rw [hnew]
      refine ⟨htail, fun c' hc' => ?_⟩
      rcases List.mem_cons.mp hc' with rfl | hc'
      · rfl
      · exact htail c' hc'

theorem mem_historial {x : CierreAnterior} (h : x ∈ historial closeType cs) :
    ∃ c ∈ cs, c.closeType = closeType ∧ ∃ closeNumber, x = c.anterior closeNumber := by
  induction cs with
  | nil => cases h
  | cons c older ih =>
    have hold : x ∈ historial closeType older →
        ∃ c' ∈ c :: older, c'.closeType = closeType ∧ ∃ closeNumber, x = c'.anterior closeNumber := by
      intro hx
      obtain ⟨c', hc', hx⟩ := ih hx
      exact ⟨c', List.mem_cons_of_mem c hc', hx⟩
    rw [historial] at h
    split at h
    · rcases List.mem_append.mp h with h | h
      · exact hold h
      · exact ⟨c, List.mem_cons_self, ‹_›, _, List.mem_singleton.mp h⟩
    · exact hold h

theorem historial_ne_nil_iff : historial closeType cs ≠ [] ↔ ∃ c ∈ cs, c.closeType = closeType := by
  induction cs with
  | nil => simp [historial]
  | cons c older ih =>
    rw [historial]
    split
    · simp [*]
    · simp [*]

/-- **The closes are numbered** 1, 2, 3… -/
theorem numbers_historial :
    (historial closeType cs).map (·.closeNumber) = List.range' 1 (historial closeType cs).length := by
  induction cs with
  | nil => rfl
  | cons c older ih =>
    rw [historial]
    split
    · rw [List.map_append, ih, List.length_append, List.length_singleton, List.range'_concat]
      simp [Cierre.anterior, Nat.add_comm]
    · exact ih

/-- What comes before the last close of a type was undone. -/
theorem reopened_of_mem_dropLast (h : ∀ c ∈ cs.tail, c.reapertura.isSome) {x : CierreAnterior}
    (hx : x ∈ (historial closeType cs).dropLast) :
    x.status = .void ∧ x.reopenedBy.isSome ∧ x.reopenedAt.isSome ∧ x.reopenReason.isSome := by
  cases cs with
  | nil => cases hx
  | cons c older =>
    have hmem : x ∈ historial closeType older := by
      rw [historial] at hx
      split at hx
      · rwa [List.dropLast_concat] at hx
      · exact (List.dropLast_sublist _).subset hx
    obtain ⟨c', hc', -, closeNumber, rfl⟩ := mem_historial hmem
    have hsome := h c' hc'
    simp [Cierre.anterior, hsome]

end Logs

/-! ## Event keys -/

section Keys

theorem not_mem_toDigits (n : Nat) : '-' ∉ Nat.toDigits 10 n := fun h =>
  absurd (Decimal.allDigits_toDigits n '-' h) (by decide)

theorem closedKey_inj {closeRunId closeRunId' closeNumber closeNumber' : Nat}
    (h : closedKey closeRunId closeNumber = closedKey closeRunId' closeNumber') :
    closeRunId = closeRunId' ∧ closeNumber = closeNumber' := by
  have hdigits := List.append_cancel_left h
  obtain ⟨hid, -, hnumber⟩ := (List.append_cons_inj_of_notMem (not_mem_toDigits _) (not_mem_toDigits _)).mp hdigits
  constructor
  · rw [← Decimal.value_toDigits closeRunId, hid, Decimal.value_toDigits]
  · rw [← Decimal.value_toDigits closeNumber, hnumber, Decimal.value_toDigits]

theorem closedKey_ne_reopenedKey (closeRunId closeNumber periodId : Nat) (reopenedAt : Instant) :
    closedKey closeRunId closeNumber ≠ reopenedKey periodId reopenedAt := by
  intro h
  have hletter : some 'c' = some 'r' := congrArg (·[7]?) h
  cases hletter

end Keys

/-! ## Steps -/

section Steps

variable {periodId : Nat} {s s' : ClosingDb} {p : ClosingPoint} {q : Option ClosingPoint} {c : Closing}
  {answer : ClosingAnswer} {r : Reapertura} {held : List CloseType} {anulados : List CloseRun}

/-- What every run keeps: the period says how the log ends, each type has one run, and the events have the keys of
what was committed. -/
structure ClosingDb.Kept (periodId : Nat) (s : ClosingDb) : Prop where
  period : (s.ledger.periods.find? periodId).isSome = true
  takes : s.takes periodId = !cerrado s.log
  unique : ∀ run ∈ s.runs, ∀ run' ∈ s.runs, run.closeType = run'.closeType → run = run'
  closedEvents : ∀ event ∈ s.outbox, event.topic = .closed →
    ∃ run ∈ s.runs, ∃ n ≤ (historialDeCierres run).length, event.eventKey = closedKey run.id n
  reopenedEvents : ∀ event ∈ s.outbox, event.topic = .reopened → ∃ at', event.eventKey = reopenedKey periodId at'
  keys : ((s.outbox.filter (·.topic = .closed)).map (·.eventKey)).Nodup

/-- The run of a close is as it was read. -/
def Closing.Locked (s : ClosingDb) (c : Closing) : Prop := ∀ run ∈ c.anterior, run ∈ s.runs ∧ run.closeType = c.closeType

/-- There is no other run of the type of a close. -/
def Closing.Alone (s : ClosingDb) (c : Closing) : Prop :=
  c.Locked s ∧ (c.anterior = none → ∀ run ∈ s.runs, run.closeType ≠ c.closeType)

/-- The runs of a reopening are as they were read. -/
def Annulled (s : ClosingDb) (held : List CloseType) (anulados : List CloseRun) : Prop :=
  ∀ run ∈ anulados, run ∈ s.runs ∧ run.status = .completed ∧ run.closeType ∈ held

/-- What a transaction relies on. -/
def ClosingPoint.Relies (s : ClosingDb) : ClosingPoint → Prop
  | .writing c => c.Locked s
  | .written c | .closing c => c.Alone s
  | .lockingRuns _ pending held anulados => Annulled s held anulados ∧ (anulados.map (·.closeType) ++ pending).Nodup
  | .reopening _ held anulados => Annulled s held anulados ∧ (anulados.map (·.closeType)).Nodup
  | _ => True

/-- The runs of the types that are locked decide it. -/
theorem ClosingPoint.Relies.mono (h : p.Relies s)
    (hsame : ∀ run, .run run.closeType ∈ p.locks → (run ∈ s.runs ↔ run ∈ s'.runs)) : p.Relies s' := by
  have hlocked : ∀ c : Closing, (c.anterior.isSome → .run c.closeType ∈ p.locks) → c.Locked s → c.Locked s' := by
    intro c hlock hc run hrun
    obtain ⟨hmem, htype⟩ := hc run hrun
    exact ⟨(hsame run (htype ▸ hlock (Option.isSome_of_mem hrun))).mp hmem, htype⟩
  have hannulled : ∀ held anulados, (∀ closeType ∈ held, .run closeType ∈ p.locks) → Annulled s held anulados →
      Annulled s' held anulados := by
    intro held anulados hlock h run hrun
    obtain ⟨hmem, hstatus, htype⟩ := h run hrun
    exact ⟨(hsame run (hlock _ htype)).mp hmem, hstatus, htype⟩
  cases p with
  | controls | locking | selecting => trivial
  | writing c => exact hlocked c (fun hsome => by simp [ClosingPoint.locks, hsome]) h
  | written c =>
    exact ⟨hlocked c (fun _ => List.mem_singleton.mpr rfl) h.1, fun hnone run hrun htype =>
      h.2 hnone run ((hsame run (by simp [ClosingPoint.locks, htype])).mpr hrun) htype⟩
  | closing c =>
    exact ⟨hlocked c (fun _ => by simp [ClosingPoint.locks]) h.1, fun hnone run hrun htype =>
      h.2 hnone run ((hsame run (by simp [ClosingPoint.locks, htype])).mpr hrun) htype⟩
  | lockingRuns r pending held anulados =>
    exact ⟨hannulled held anulados (fun _ h => List.mem_map_of_mem h) h.1, h.2⟩
  | reopening r held anulados =>
    exact ⟨hannulled held anulados (fun _ h => List.mem_cons_of_mem _ (List.mem_map_of_mem h)) h.1, h.2⟩

/-- The row that a close writes. -/
def ClosingDb.newRun (s : ClosingDb) (c : Closing) : CloseRun :=
  match c.anterior with
  | some run => c.updated run
  | none => c.created s.runs.nextKey

theorem historialDeCierres_newRun : historialDeCierres (s.newRun c) =
    c.previousCloses ++ [⟨c.closeNumber, .completed, some c.completedAt, some c.user.sub, none, none, none⟩] := by
  rw [ClosingDb.newRun]
  cases c.anterior <;> rfl

theorem historialDeCierres_anulado (run : CloseRun) : historialDeCierres (run.anulado r) =
    run.controlReportJson.previos ++ [⟨run.controlReportJson.closeNumber.getD (run.controlReportJson.previos.length + 1),
      .void, run.completedAt, run.controlReportJson.closedBy, some r.reopenedBy, some r.reopenedAt,
      some r.reopenReason⟩] := rfl

theorem Closing.Alone.newRun_closeType (h : c.Alone s) : (s.newRun c).closeType = c.closeType := by
  rw [ClosingDb.newRun]
  cases hanterior : c.anterior with
  | none => rfl
  | some run => exact (h.1 run hanterior).2

/-- **The runs after a close.** -/
theorem Closing.Alone.mem_close (h : c.Alone s) (hkept : s.Kept periodId) {run : CloseRun} :
    run ∈ (s.close periodId c).runs ↔ run = s.newRun c ∨ run ∈ s.runs ∧ run.closeType ≠ c.closeType := by
  rw [ClosingDb.close, ClosingDb.newRun]
  cases hanterior : c.anterior with
  | none =>
    refine (Table.mem_create fun _ => rfl).trans (or_comm.trans (or_congr_right ?_))
    exact (and_iff_left_of_imp (h.2 hanterior run)).symm
  | some old =>
    obtain ⟨hold, htype⟩ := h.1 old hanterior
    refine (Table.mem_put (r := c.updated old) hold rfl).trans
      (or_congr_right (and_congr_right fun hrun => not_congr ?_))
    exact ⟨fun hid => (congrArg (·.closeType) (Table.eq_of_key_eq hrun hold hid)).trans htype, fun hsame =>
      congrArg (·.id) (hkept.unique run hrun old hold (hsame.trans htype.symm))⟩

theorem Annulled.keys (h : Annulled s held anulados) (hnodup : (anulados.map (·.closeType)).Nodup) :
    (anulados.map HasKey.key).Nodup :=
  List.Nodup.map_on (fun run hrun run' hrun' hid => Table.eq_of_key_eq (h run hrun).1 (h run' hrun').1 hid)
    (List.Nodup.of_map _ hnodup)

/-- **The runs after a reopening.** -/
theorem Annulled.mem_reopen (h : Annulled s held anulados) (hnodup : (anulados.map (·.closeType)).Nodup)
    {run : CloseRun} : run ∈ (s.reopen periodId r anulados).runs ↔
      (∃ cierre ∈ anulados, run = cierre.anulado r) ∨ run ∈ s.runs ∧ run ∉ anulados := by
  refine (Table.mem_foldl_put (f := CloseRun.anulado r) (fun _ => rfl) (h.keys hnodup) fun run hrun => (h run hrun).1).trans
    (or_congr_right (and_congr_right fun hrun => ?_))
  exact ⟨fun hne hin => hne run hin rfl, fun hnot cierre hcierre hid =>
    hnot (Table.eq_of_key_eq hrun (h cierre hcierre).1 hid ▸ hcierre)⟩

theorem taken_eq_false {eventKey : Text} : s.taken eventKey = false ↔ ∀ event ∈ s.outbox, event.eventKey ≠ eventKey := by
  rw [ClosingDb.taken, List.any_eq_false]
  exact forall₂_congr fun _ _ => not_congr decide_eq_true_iff

/-- The key of a close, by the run that it writes. -/
theorem keyOf_eq : s.keyOf c = closedKey (s.newRun c).id (c.previousCloses.length + 1) := by
  rw [ClosingDb.keyOf, ClosingDb.newRun]
  cases c.anterior <;> rfl

/-- What the closes of the run that a close writes were. -/
theorem previousCloses_eq {run : CloseRun} (h : c.anterior = some run) : c.previousCloses = historialDeCierres run := by
  rw [Closing.previousCloses, h]
  rfl

/-- **The event of a close is new.** -/
theorem ClosingDb.Kept.keyOf_new (h : s.Kept periodId) (halone : c.Alone s) : s.taken (s.keyOf c) = false := by
  refine taken_eq_false.mpr fun event hevent heq => ?_
  rw [keyOf_eq] at heq
  cases htopic : event.topic with
  | reopened =>
    obtain ⟨at', hkey⟩ := h.reopenedEvents event hevent htopic
    exact closedKey_ne_reopenedKey _ _ _ _ (heq.symm.trans hkey)
  | closed =>
    obtain ⟨run, hrun, n, hn, hkey⟩ := h.closedEvents event hevent htopic
    obtain ⟨hid, hnumber⟩ := closedKey_inj (heq.symm.trans hkey)
    rw [ClosingDb.newRun] at hid
    cases hanterior : c.anterior with
    | none =>
      rw [hanterior] at hid
      exact absurd hid.symm (Nat.ne_of_lt (Table.key_lt_nextKey hrun))
    | some old =>
      rw [hanterior] at hid
      obtain rfl : old = run := Table.eq_of_key_eq (halone.1 old hanterior).1 hrun hid
      rw [previousCloses_eq hanterior] at hnumber
      omega

/-- What `UPDATE accounting_period` leaves. -/
theorem find?_updated {f : AccountingPeriod → AccountingPeriod} (hf : ∀ period, (f period).id = period.id)
    {periods : Table AccountingPeriod} (h : (periods.find? periodId).isSome = true) :
    ∃ period, (periods.updateWhere (·.id = periodId) f).find? periodId = some (f period) := by
  obtain ⟨period, hperiod⟩ := Option.isSome_iff_exists.mp h
  have hid : period.id = periodId := (Table.find?_eq_some.mp hperiod).2
  refine ⟨period, (Table.find?_updateWhere hf hperiod).trans ?_⟩
  rw [if_pos (decide_eq_true hid)]

/-- **A close keeps what every run keeps.** -/
theorem ClosingDb.Kept.close (h : s.Kept periodId) (halone : c.Alone s) : (s.close periodId c).Kept periodId := by
  have hmem : ∀ {run}, run ∈ (s.close periodId c).runs ↔ run = s.newRun c ∨ run ∈ s.runs ∧ run.closeType ≠ c.closeType :=
    halone.mem_close h
  have hfresh := taken_eq_false.mp (h.keyOf_new halone)
  obtain ⟨period, hperiod⟩ := find?_updated (f := closedPeriod c.user c.completedAt) (fun _ => rfl) h.period
  have htype := halone.newRun_closeType
  constructor
  · exact Option.isSome_of_mem hperiod
  · exact congrArg (Option.any AccountingPeriod.takes) hperiod
  · intro run hrun run' hrun' hsame
    rcases hmem.mp hrun with rfl | ⟨hrun, hne⟩ <;> rcases hmem.mp hrun' with rfl | ⟨hrun', hne'⟩
    · rfl
    · exact absurd (hsame.symm.trans htype) hne'
    · exact absurd (hsame.trans htype) hne
    · exact h.unique run hrun run' hrun' hsame
  · intro event hevent htopic
    rcases List.mem_append.mp hevent with hevent | hevent
    · obtain ⟨run, hrun, n, hn, hkey⟩ := h.closedEvents event hevent htopic
      by_cases hsame : run.closeType = c.closeType
      · cases hanterior : c.anterior with
        | none => exact absurd hsame (halone.2 hanterior run hrun)
        | some old =>
          obtain ⟨hold, holdType⟩ := halone.1 old hanterior
          obtain rfl := h.unique run hrun old hold (hsame.trans holdType.symm)
          have hid : (s.newRun c).id = run.id := by rw [ClosingDb.newRun, hanterior]; rfl
          refine ⟨_, hmem.mpr (.inl rfl), n, ?_, hid ▸ hkey⟩
          rw [historialDeCierres_newRun, List.length_append, previousCloses_eq hanterior]
          exact hn.trans (Nat.le_add_right _ _)
      · exact ⟨run, hmem.mpr (.inr ⟨hrun, hsame⟩), n, hn, hkey⟩
    · obtain rfl := List.mem_singleton.mp hevent
      refine ⟨_, hmem.mpr (.inl rfl), c.previousCloses.length + 1, ?_, keyOf_eq⟩
      rw [historialDeCierres_newRun, List.length_append]
      rfl
  · intro event hevent htopic
    rcases List.mem_append.mp hevent with hevent | hevent
    · exact h.reopenedEvents event hevent htopic
    · obtain rfl := List.mem_singleton.mp hevent
      cases htopic
  · have hfilter : (s.close periodId c).outbox.filter (·.topic = .closed) =
        s.outbox.filter (·.topic = .closed) ++ [⟨.closed, s.keyOf c⟩] := List.filter_append ..
    rw [hfilter, List.map_append]
    refine List.Nodup.append h.keys (List.nodup_singleton _) fun key hkey hnew => ?_
    obtain ⟨event, hevent, rfl⟩ := List.mem_map.mp hkey
    exact hfresh event (List.mem_filter.mp hevent).1 (List.mem_singleton.mp hnew)

/-- **A reopening keeps what every run keeps.** -/
theorem ClosingDb.Kept.reopen (h : s.Kept periodId) (hannulled : Annulled s held anulados)
    (hnodup : (anulados.map (·.closeType)).Nodup) : (s.reopen periodId r anulados).Kept periodId := by
  have hmem : ∀ {run}, run ∈ (s.reopen periodId r anulados).runs ↔
      (∃ cierre ∈ anulados, run = cierre.anulado r) ∨ run ∈ s.runs ∧ run ∉ anulados := hannulled.mem_reopen hnodup
  obtain ⟨period, hperiod⟩ := find?_updated (f := openPeriod) (fun _ => rfl) h.period
  -- Every row comes from one of the same type, with as many closes.
  have hcomes : ∀ run ∈ (s.reopen periodId r anulados).runs, ∃ old ∈ s.runs, old.closeType = run.closeType ∧
      (run = old ∧ old ∉ anulados ∨ run = old.anulado r ∧ old ∈ anulados) := by
    intro run hrun
    rcases hmem.mp hrun with ⟨cierre, hcierre, rfl⟩ | ⟨hold, hnot⟩
    · exact ⟨cierre, (hannulled cierre hcierre).1, rfl, .inr ⟨rfl, hcierre⟩⟩
    · exact ⟨run, hold, rfl, .inl ⟨rfl, hnot⟩⟩
  constructor
  · exact Option.isSome_of_mem hperiod
  · exact congrArg (Option.any AccountingPeriod.takes) hperiod
  · intro run hrun run' hrun' hsame
    obtain ⟨old, hold, htype, hcase⟩ := hcomes run hrun
    obtain ⟨old', hold', htype', hcase'⟩ := hcomes run' hrun'
    obtain rfl := h.unique old hold old' hold' (htype.trans (hsame.trans htype'.symm))
    rcases hcase with ⟨rfl, hnot⟩ | ⟨rfl, hin⟩ <;> rcases hcase' with ⟨rfl, hnot'⟩ | ⟨rfl, hin'⟩
    · rfl
    · exact absurd hin' hnot
    · exact absurd hin hnot'
    · rfl
  · intro event hevent htopic
    rcases List.mem_append.mp hevent with hevent | hevent
    · obtain ⟨run, hrun, n, hn, hkey⟩ := h.closedEvents event hevent htopic
      by_cases hin : run ∈ anulados
      · refine ⟨run.anulado r, hmem.mpr (.inl ⟨run, hin, rfl⟩), n, ?_, hkey⟩
        rw [historialDeCierres_anulado, List.length_append]
        rwa [historialDeCierres, List.length_append] at hn
      · exact ⟨run, hmem.mpr (.inr ⟨hrun, hin⟩), n, hn, hkey⟩
    · obtain rfl := List.mem_singleton.mp hevent
      cases htopic
  · intro event hevent htopic
    rcases List.mem_append.mp hevent with hevent | hevent
    · exact h.reopenedEvents event hevent htopic
    · obtain rfl := List.mem_singleton.mp hevent
      exact ⟨_, rfl⟩
  · have hfilter : (s.reopen periodId r anulados).outbox.filter (·.topic = .closed) =
        s.outbox.filter (·.topic = .closed) ++ [] := List.filter_append ..
    rw [hfilter, List.append_nil]
    exact h.keys

/-! ## Faithful steps -/

/-- What the runs are to say is enough. -/
theorem ClosingDb.Kept.faithful (h : s.Kept periodId) (halternates : Alternates s.log)
    (hrecorded : ∀ run ∈ s.runs, historialDeCierres run = historial run.closeType (cierres s.log))
    (hfound : ∀ c ∈ cierres s.log, ∃ run ∈ s.runs, run.closeType = c.closeType) : s.Faithful where
  alternates := halternates
  recorded := hrecorded
  found := hfound
  numbers run hrun := by
    rw [hrecorded run hrun]
    exact numbers_historial
  reopened run hrun c hc := by
    have hprevios : run.controlReportJson.previos = (historial run.closeType (cierres s.log)).dropLast := by
      rw [← hrecorded run hrun, historialDeCierres, List.dropLast_concat]
    exact reopened_of_mem_dropLast halternates.cierres.1 (hprevios ▸ hc)
  keys := h.keys

/-- The closes of the type that a run is created or written for. -/
theorem ClosingDb.Faithful.previousCloses (h : s.Faithful) (halone : c.Alone s) :
    c.previousCloses = historial c.closeType (cierres s.log) := by
  cases hanterior : c.anterior with
  | some run =>
    obtain ⟨hrun, htype⟩ := halone.1 run hanterior
    rw [previousCloses_eq hanterior, h.recorded run hrun, htype]
  | none =>
    rw [Closing.previousCloses, hanterior]
    by_contra hne
    obtain ⟨cierre, hcierre, htype⟩ := historial_ne_nil_iff.mp (Ne.symm hne)
    obtain ⟨run, hrun, hsame⟩ := h.found cierre hcierre
    exact halone.2 hanterior run hrun (hsame.trans htype)

/-- **A close on an open period is faithful.** -/
theorem ClosingDb.Faithful.close (h : s.Faithful) (hkept : s.Kept periodId) (halone : c.Alone s)
    (htakes : s.takes periodId = true) : (s.close periodId c).Faithful := by
  have hopen : cerrado s.log = false := by
    rw [hkept.takes] at htakes
    exact Bool.not_eq_true' _ ▸ htakes
  refine (hkept.close halone).faithful ⟨hopen, h.alternates⟩ (fun run hrun => ?_) fun cierre hcierre => ?_
  · have hnew : cierres (s.close periodId c).log = ⟨c.closeType, c.user.sub, c.completedAt, none⟩ :: cierres s.log := rfl
    rw [hnew, historial]
    rcases (halone.mem_close hkept).mp hrun with rfl | ⟨hrun, hne⟩
    · rw [if_pos halone.newRun_closeType.symm, historialDeCierres_newRun, Closing.closeNumber, h.previousCloses halone,
        halone.newRun_closeType]
      rfl
    · rw [if_neg (Ne.symm hne)]
      exact h.recorded run hrun
  · rcases List.mem_cons.mp hcierre with rfl | hcierre
    · exact ⟨_, (halone.mem_close hkept).mpr (.inl rfl), halone.newRun_closeType⟩
    · obtain ⟨run, hrun, hsame⟩ := h.found cierre hcierre
      by_cases htype : run.closeType = c.closeType
      · exact ⟨_, (halone.mem_close hkept).mpr (.inl rfl), halone.newRun_closeType.trans (htype.symm.trans hsame)⟩
      · exact ⟨run, (halone.mem_close hkept).mpr (.inr ⟨hrun, htype⟩), hsame⟩

/-- The last close that a run says is its own state. -/
theorem status_of_concat {run : CloseRun} {earlier : List CierreAnterior} {last : CierreAnterior}
    (h : historialDeCierres run = earlier ++ [last]) : run.status = last.status := by
  have hlast := (List.append_inj' h rfl).2
  exact congrArg (·.status) (List.singleton_inj.mp hlast)

theorem exists_status (run : CloseRun) : ∃ x ∈ historialDeCierres run, x.status = run.status :=
  ⟨_, List.mem_append_right _ (List.mem_singleton.mpr rfl), rfl⟩

/-- **The run of the last close is the one that is completed.** -/
theorem ClosingDb.Faithful.completed_iff (h : s.Faithful) {cierre : Cierre} {rest : List Cierre}
    (hcierres : cierres s.log = cierre :: rest) (hnone : cierre.reapertura = none) {run : CloseRun} (hrun : run ∈ s.runs) :
    run.status = .completed ↔ run.closeType = cierre.closeType := by
  have hrecorded := h.recorded run hrun
  have htail := h.alternates.cierres.1
  rw [hcierres, historial] at hrecorded
  rw [hcierres] at htail
  by_cases htype : run.closeType = cierre.closeType
  · rw [if_pos htype.symm] at hrecorded
    refine iff_of_true ?_ htype
    rw [status_of_concat hrecorded, Cierre.anterior, hnone]
    rfl
  · rw [if_neg (Ne.symm htype)] at hrecorded
    refine iff_of_false (fun hstatus => ?_) htype
    obtain ⟨last, hlast, hsame⟩ := exists_status run
    rw [hrecorded] at hlast
    obtain ⟨older, holder, -, closeNumber, rfl⟩ := mem_historial hlast
    rw [hstatus, Cierre.anterior, if_pos (htail older holder)] at hsame
    cases hsame

/-- **A reopening is faithful** when the period is closed and it annuls what is completed. -/
theorem ClosingDb.Faithful.reopen (h : s.Faithful) (hkept : s.Kept periodId) (hannulled : Annulled s held anulados)
    (hnodup : (anulados.map (·.closeType)).Nodup) (htakes : s.takes periodId = false)
    (hall : ∀ run ∈ s.runs, run.status = .completed → run ∈ anulados) : (s.reopen periodId r anulados).Faithful := by
  have hclosed : cerrado s.log = true := by
    rw [hkept.takes] at htakes
    exact Bool.not_eq_false' _ ▸ htakes
  have hlast := h.alternates.cierres.2
  rw [hclosed] at hlast
  obtain ⟨cierre, rest, hcierres, hnone⟩ := hlast
  have hnew : cierres (s.reopen periodId r anulados).log = { cierre with reapertura := some r } :: rest := by
    change cierres (.reopened r :: s.log) = _
    rw [cierres, hcierres]
  have hcompleted : ∀ {run}, run ∈ s.runs → (run.status = .completed ↔ run.closeType = cierre.closeType) :=
    h.completed_iff hcierres hnone
  refine (hkept.reopen hannulled hnodup).faithful ⟨hclosed, h.alternates⟩ (fun run' hrun' => ?_) fun other hother => ?_
  · rw [hnew, historial]
    rcases (hannulled.mem_reopen hnodup).mp hrun' with ⟨run, hrun, rfl⟩ | ⟨hrun, hnot⟩
    · obtain ⟨hmem, hstatus, -⟩ := hannulled run hrun
      have htype := (hcompleted hmem).mp hstatus
      have hrecorded := h.recorded run hmem
      rw [hcierres, historial, if_pos htype.symm] at hrecorded
      obtain ⟨hprevios, hsame⟩ := List.append_inj' hrecorded rfl
      obtain ⟨hnumber, -, hat, hby, -⟩ := CierreAnterior.mk.inj (List.singleton_inj.mp hsame)
      have hkeepsType : (run.anulado r).closeType = run.closeType := rfl
      rw [hkeepsType, if_pos htype.symm, historialDeCierres_anulado, hprevios, ← hprevios, hnumber, hat, hby, hprevios]
      rfl
    · have htype : cierre.closeType ≠ run'.closeType := fun hsame =>
        hnot (hall run' hrun ((hcompleted hrun).mpr hsame.symm))
      have hrecorded := h.recorded run' hrun
      rw [hcierres, historial, if_neg htype] at hrecorded
      rw [if_neg htype]
      exact hrecorded
  · have hother' : ∃ old ∈ cierres s.log, old.closeType = other.closeType := by
      rw [hnew] at hother
      rw [hcierres]
      rcases List.mem_cons.mp hother with rfl | hother
      · exact ⟨cierre, List.mem_cons_self, rfl⟩
      · exact ⟨other, List.mem_cons_of_mem _ hother, rfl⟩
    obtain ⟨old, hold, hsame⟩ := hother'
    obtain ⟨run, hrun, htype⟩ := h.found old hold
    by_cases hin : run ∈ anulados
    · exact ⟨_, (hannulled.mem_reopen hnodup).mpr (.inl ⟨run, hin, rfl⟩), htype.trans hsame⟩
    · exact ⟨run, (hannulled.mem_reopen hnodup).mpr (.inr ⟨hrun, hin⟩), htype.trans hsame⟩

/-- A reopening that leaves a faithful history annuls what is completed. -/
theorem ClosingDb.Faithful.all_annulled (h : s.Faithful) (hannulled : Annulled s held anulados)
    (hnodup : (anulados.map (·.closeType)).Nodup) (hnew : (s.reopen periodId r anulados).Faithful) :
    ∀ run ∈ s.runs, run.status = .completed → run ∈ anulados := by
  intro run hrun hstatus
  by_contra hnot
  have hlast := h.alternates.cierres.2
  rw [hnew.alternates.1] at hlast
  obtain ⟨cierre, rest, hcierres, hnone⟩ := hlast
  have htype := (h.completed_iff hcierres hnone hrun).mp hstatus
  have hrecorded := hnew.recorded run ((hannulled.mem_reopen hnodup).mpr (.inr ⟨hrun, hnot⟩))
  have hlog : cierres (s.reopen periodId r anulados).log = { cierre with reapertura := some r } :: rest := by
    change cierres (.reopened r :: s.log) = _
    rw [cierres, hcierres]
  rw [hlog, historial, if_pos htype.symm] at hrecorded
  have hvoid := status_of_concat hrecorded
  rw [hstatus] at hvoid
  cases hvoid

/-- **What a statement does**: it reads, or it commits a close or a reopening. -/
inductive ClosingStep (periodId : Nat) (s : ClosingDb) : ClosingPoint → ClosingDb → Option ClosingPoint → Prop where
  | reads {p : ClosingPoint} {q : Option ClosingPoint} (quiet : p.enSuEstado periodId s = true)
      (relies : s.Kept periodId → p.Relies s → ∀ p' ∈ q, p'.Relies s) : ClosingStep periodId s p s q
  | closes {c : Closing} : ClosingStep periodId s (.closing c) (s.close periodId c) none
  | refused {c : Closing} (taken : s.taken (s.keyOf c) = true) : ClosingStep periodId s (.closing c) s none
  | reopens {r : Reapertura} {held : List CloseType} {anulados : List CloseRun}
      (free : s.taken (reopenedKey periodId r.reopenedAt) = false) :
      ClosingStep periodId s (.reopening r held anulados) (s.reopen periodId r anulados) none

/-- The runs that a query finds have different types. -/
theorem ClosingDb.Kept.nodup_types (h : s.Kept periodId) (select : CloseRun → Bool) :
    ((s.runs.rowsWhere select).map (·.closeType)).Nodup := by
  refine List.Nodup.map_on (fun run hrun run' hrun' => ?_) ((List.Nodup.of_map _ s.runs.nodup).filter _)
  exact h.unique run (Table.mem_rowsWhere.mp hrun).1 run' (Table.mem_rowsWhere.mp hrun').1

/-- A run that is locked leaves those that are to be locked. -/
theorem ClosingDb.Kept.nodup_locked (h : s.Kept periodId) {closeType : CloseType} {pending : List CloseType}
    (hnodup : (anulados.map (·.closeType) ++ closeType :: pending).Nodup) :
    (((s.runs.rowsWhere fun run => run.closeType = closeType ∧ run.status = .completed) ++ anulados).map (·.closeType) ++
      pending).Nodup := by
  obtain ⟨hnew, hrest⟩ := List.nodup_cons.mp (List.nodup_middle.mp hnodup)
  rw [List.map_append, List.append_assoc]
  refine (h.nodup_types _).append hrest fun closeType' hfound hin => ?_
  obtain ⟨run, hrun, rfl⟩ := List.mem_map.mp hfound
  obtain ⟨htype, -⟩ := of_decide_eq_true (Table.mem_rowsWhere.mp hrun).2
  exact hnew (htype ▸ hin)

theorem closingStep_of_next (h : (closingWorkers periodId).next p answer s = some (s', q)) :
    ClosingStep periodId s p s' q := by
  obtain ⟨rfl, rfl⟩ := Prod.mk.inj (Option.some.inj h)
  cases p with
  | controls closeType user =>
    refine .reads rfl fun _ _ p' hp' => ?_
    obtain ⟨_, -, rfl⟩ := map_eq_ok.mp (toOption_eq_some.mp hp')
    trivial
  | locking closeType user =>
    refine .reads rfl fun _ _ p' hp' => ?_
    obtain rfl := Option.some.inj hp'
    intro run hrun
    obtain ⟨hmem, htype⟩ := Table.findBy_eq_some hrun
    exact ⟨hmem, of_decide_eq_true htype⟩
  | writing c =>
    refine .reads rfl fun _ hrelies p' hp' => ?_
    obtain ⟨hfree, hp'⟩ := Option.ite_none_left_eq_some.mp hp'
    obtain rfl := Option.some.inj hp'
    refine ⟨hrelies, fun hnone run hrun htype => hfree ⟨Option.isNone_iff_eq_none.mpr hnone, ?_⟩⟩
    exact Table.findBy_isSome.mpr ⟨run, hrun, decide_eq_true htype⟩
  | written c =>
    refine .reads rfl fun _ hrelies p' hp' => ?_
    obtain rfl := Option.some.inj hp'
    exact hrelies
  | closing c =>
    dsimp only
    split
    · exact .refused ‹_›
    · exact .closes
  | selecting user reason =>
    refine .reads rfl fun hkept _ p' hp' => ?_
    obtain rfl := Option.some.inj hp'
    exact ⟨fun run hrun => absurd hrun List.not_mem_nil, hkept.nodup_types _⟩
  | lockingRuns r pending held anulados =>
    cases pending with
    | nil =>
      refine .reads rfl fun _ hrelies p' hp' => ?_
      obtain rfl := Option.some.inj hp'
      exact ⟨hrelies.1, by simpa only [List.append_nil] using hrelies.2⟩
    | cons closeType pending =>
      refine .reads rfl fun hkept hrelies p' hp' => ?_
      obtain rfl := Option.some.inj hp'
      refine ⟨fun run hrun => ?_, hkept.nodup_locked hrelies.2⟩
      rcases List.mem_append.mp hrun with hrun | hrun
      · obtain ⟨hmem, hselected⟩ := Table.mem_rowsWhere.mp hrun
        obtain ⟨htype, hstatus⟩ := of_decide_eq_true hselected
        exact ⟨hmem, hstatus, htype ▸ List.mem_cons_self⟩
      · obtain ⟨hmem, hstatus, htype⟩ := hrelies.1 run hrun
        exact ⟨hmem, hstatus, List.mem_cons_of_mem _ htype⟩
  | reopening r held anulados =>
    dsimp only
    split
    · exact .reads (decide_eq_true (.inl ‹_›)) fun _ _ p' hp' => absurd hp' (Option.not_mem_none p')
    · exact .reopens (Bool.not_eq_true _ ▸ ‹_›)

/-- A statement writes only runs that its transaction has locked. -/
theorem ClosingStep.frame (h : ClosingStep periodId s p s' q) (hkept : s.Kept periodId) (hrelies : p.Relies s)
    {run : CloseRun} (hfree : .run run.closeType ∉ p.locks) : run ∈ s.runs ↔ run ∈ s'.runs := by
  cases h with
  | reads | refused => rfl
  | @closes c =>
    have htype : run.closeType ≠ c.closeType := fun heq => hfree (by simp [ClosingPoint.locks, heq])
    rw [hrelies.mem_close hkept]
    refine ⟨fun hrun => .inr ⟨hrun, htype⟩, fun hrun => ?_⟩
    rcases hrun with rfl | hrun
    · exact absurd hrelies.newRun_closeType htype
    · exact hrun.1
  | @reopens r held anulados =>
    obtain ⟨hannulled, hnodup⟩ := hrelies
    have htype : run.closeType ∉ held := fun hin => hfree (List.mem_cons_of_mem _ (List.mem_map_of_mem hin))
    rw [hannulled.mem_reopen hnodup]
    refine ⟨fun hrun => .inr ⟨hrun, fun hin => htype (hannulled run hin).2.2⟩, fun hrun => ?_⟩
    rcases hrun with ⟨cierre, hcierre, rfl⟩ | hrun
    · exact absurd (hannulled cierre hcierre).2.2 htype
    · exact hrun.1

theorem ClosingStep.kept (h : ClosingStep periodId s p s' q) (hkept : s.Kept periodId) (hrelies : p.Relies s) :
    s'.Kept periodId ∧ ∀ p' ∈ q, p'.Relies s' := by
  cases h with
  | reads _ hnext => exact ⟨hkept, hnext hkept hrelies⟩
  | refused => exact ⟨hkept, fun p' hp' => absurd hp' (Option.not_mem_none p')⟩
  | closes => exact ⟨hkept.close hrelies, fun p' hp' => absurd hp' (Option.not_mem_none p')⟩
  | reopens => exact ⟨hkept.reopen hrelies.1 hrelies.2, fun p' hp' => absurd hp' (Option.not_mem_none p')⟩

/-- **A statement leaves the history faithful exactly when the period is as it supposes.** -/
theorem ClosingStep.faithful_iff (h : ClosingStep periodId s p s' q) (hkept : s.Kept periodId) (hrelies : p.Relies s)
    (hfaithful : s.Faithful) : s'.Faithful ↔ p.enSuEstado periodId s = true := by
  cases h with
  | reads hquiet => exact iff_of_true hfaithful hquiet
  | refused htaken =>
    rw [hkept.keyOf_new hrelies] at htaken
    cases htaken
  | closes =>
    refine ⟨fun hnew => ?_, fun htakes => hfaithful.close hkept hrelies htakes⟩
    have hopen : cerrado s.log = false := hnew.alternates.1
    rw [ClosingPoint.enSuEstado, hkept.takes, hopen]
    rfl
  | reopens hfree =>
    constructor
    · intro hnew
      have hclosed : cerrado s.log = true := hnew.alternates.1
      refine decide_eq_true (.inr ⟨by rw [hkept.takes, hclosed]; rfl, fun run hrun => ?_⟩)
      obtain ⟨hmem, hstatus⟩ := Table.mem_rowsWhere.mp hrun
      exact hfaithful.all_annulled hrelies.1 hrelies.2 hnew run hmem (of_decide_eq_true hstatus)
    · intro hok
      rcases of_decide_eq_true hok with htaken | ⟨htakes, hall⟩
      · rw [hfree] at htaken
        cases htaken
      · exact hfaithful.reopen hkept hrelies.1 hrelies.2 htakes fun run hrun hstatus =>
          hall run (Table.mem_rowsWhere.mpr ⟨hrun, decide_eq_true hstatus⟩)

end Steps

/-! ## Runs -/

section Runs

variable {periodId : Nat} {S : Sessions ClosingDb ClosingPoint} {ok : Sessions ClosingDb ClosingPoint → ClosingAct → Prop}

theorem closingWorkers_promises :
    (closingWorkers periodId).Promises (closingWorkers periodId).Exclusive ok (ClosingDb.Kept periodId)
      fun p s => p.Relies s where
  start {S task p} _ _ hstart := by
    have hstart := toOption_eq_some.mp hstart
    cases task with
    | closePeriod =>
      obtain ⟨_, -, h⟩ := bind_eq_ok.mp hstart
      rw [← pure_eq_ok.mp h]
      trivial
    | reopenPeriod =>
      obtain ⟨_, -, h⟩ := bind_eq_ok.mp hstart
      rw [← pure_eq_ok.mp h]
      trivial
  next {S w answer p store q} _ hS hfind _ hnext := (closingStep_of_next hnext).kept hS.store (hS.at hfind)
  stable {S w answer p store q} hexclusive hS hfind _ hnext x hx := by
    obtain ⟨hx, hne⟩ := Sessions.mem_others.mp hx
    refine (hS.worker x hx).mono fun run hlock => ?_
    exact (closingStep_of_next hnext).frame hS.store (hS.at hfind) fun hheld =>
      hexclusive (w, p) (S.mem_of_find? hfind) x hx (Ne.symm hne) _ hheld hlock
  outside {S event store} _ hS _ hout := by
    obtain rfl := Option.some.inj hout
    refine ⟨⟨hS.store.period, hS.store.takes, hS.store.unique, hS.store.closedEvents, hS.store.reopenedEvents,
      hS.store.keys⟩, fun x hx => (hS.worker x hx).mono fun run _ => Iff.rfl⟩

theorem closingKeeps (h : (closingMachine periodId).Reachable ok S) :
    Workers.Keeps (ClosingDb.Kept periodId) (fun p s => p.Relies s) S := by
  refine Workers.keeps closingWorkers_promises (fun s hinit => ?_) (fun _ hS => Workers.exclusive hS) h
  obtain ⟨htakes, hruns, houtbox, hlog⟩ := hinit
  have hnone : ∀ event ∈ s.outbox, False := fun event hevent => absurd (houtbox ▸ hevent) List.not_mem_nil
  have hempty : ∀ run ∈ s.runs, False := fun run hrun => absurd (hruns ▸ hrun) (Table.not_mem_empty run)
  refine ⟨?_, by rw [htakes, hlog]; rfl, fun run hrun => (hempty run hrun).elim, fun event h => (hnone event h).elim,
    fun event h => (hnone event h).elim, by rw [houtbox]; exact List.nodup_nil⟩
  obtain ⟨period, hperiod, -⟩ := (Option.any_eq_true _ _).mp htakes
  exact Option.isSome_of_mem hperiod

/-- **In every run**, no key of a close comes twice: what is committed has different ones, and the one of a close
that is to be committed is new. -/
theorem closedKeys_of_reachable (h : (closingMachine periodId).Reachable ok S) :
    ((S.committed.outbox.filter (·.topic = .closed)).map (·.eventKey)).Nodup ∧
      ∀ w c, (w, ClosingPoint.closing c) ∈ S.active → S.committed.taken (S.committed.keyOf c) = false :=
  ⟨(closingKeeps h).store.keys, fun _ _ hactive => (closingKeeps h).store.keyOf_new ((closingKeeps h).worker _ hactive)⟩

/-- **The history of the closes is faithful** in every run where a close is committed on an open period, and a
reopening on a closed one, with its completed run.  At each statement it is so exactly then. -/
theorem faithful_of_reachable (h : (closingMachine periodId).Reachable (EnSuEstado periodId) S) :
    S.committed.Faithful ∧ ∀ w answer S', (closingMachine periodId).step S (.go w answer) = some S' →
      (S'.committed.Faithful ↔ EnSuEstado periodId S (.go w answer)) := by
  have hstep : ∀ {S S' : Sessions ClosingDb ClosingPoint} {w answer},
      (closingMachine periodId).Reachable (EnSuEstado periodId) S → S.committed.Faithful →
        (closingMachine periodId).step S (.go w answer) = some S' →
          (S'.committed.Faithful ↔ EnSuEstado periodId S (.go w answer)) := by
    intro S S' w answer hS hfaithful hstep
    have hcase : (closingWorkers periodId).StepCase S (.go w answer) S' := Workers.step_cases hstep
    obtain ⟨p, hfind⟩ : ∃ p, S.find? w = some p := by
      cases hcase with
      | moved hfind _ _ => exact ⟨_, hfind⟩
      | done hfind _ => exact ⟨_, hfind⟩
    obtain ⟨q, hnext⟩ := Workers.next_of_step hstep hfind
    have hkeeps := closingKeeps hS
    rw [(closingStep_of_next hnext).faithful_iff hkeeps.store (hkeeps.at hfind) hfaithful]
    exact ⟨fun hok p' hp' => Option.some.inj (hfind.symm.trans hp') ▸ hok, fun hok => hok p hfind⟩
  have hboth : (closingMachine periodId).Reachable (EnSuEstado periodId) S ∧ S.committed.Faithful := by
    refine Machine.invariant
      (P := fun S => (closingMachine periodId).Reachable (EnSuEstado periodId) S ∧ S.committed.Faithful)
      (fun S hinit => ⟨.of_init hinit, ?_⟩) (fun S a S' hok hgo hS => ⟨hS.1.step hok hgo, ?_⟩) h
    · have hreach : (closingMachine periodId).Reachable (EnSuEstado periodId) S := .of_init hinit
      have hkept := (closingKeeps hreach).store
      obtain ⟨⟨-, hruns, -, hlog⟩, -⟩ := hinit
      refine hkept.faithful (by rw [hlog]; trivial) (fun run hrun => ?_) fun c hc => ?_
      · exact absurd (hruns ▸ hrun) (Table.not_mem_empty run)
      · rw [hlog] at hc
        cases hc
    · have hcase : (closingWorkers periodId).StepCase S a S' := Workers.step_cases hgo
      cases hcase with
      | started => exact hS.2
      | moved => exact (hstep hS.1 hS.2 hgo).mpr hok
      | done => exact (hstep hS.1 hS.2 hgo).mpr hok
      | died => exact hS.2
      | @changed event store hchange =>
        obtain rfl := Option.some.inj hchange
        obtain ⟨halternates, hrecorded, hfound, hnumbers, hreopened, hkeys⟩ := hS.2
        exact ⟨halternates, hrecorded, hfound, hnumbers, hreopened, hkeys⟩
  exact ⟨hboth.2, fun w answer S' hgo => hstep hboth.1 hboth.2 hgo⟩

instance (S : Sessions ClosingDb ClosingPoint) (a : ClosingAct) : Decidable (EnSuEstado periodId S a) :=
  inferInstanceAs (Decidable (Workers.GoesWhere _ S a))

/-- January, period 1 of legal entity 1, open and never closed. -/
def eneroAbierto : ClosingDb where
  ledger := {
    master := ⟨[⟨1, 1⟩], [], [], [], [], [], []⟩
    periods := Table.empty.create fun id => ⟨id, 1, 20454, 20484, true, .open, none, none⟩
    documents := .empty }
  runs := .empty
  outbox := []
  log := []

theorem eneroAbierto_init : (closingMachine 1).init ⟨eneroAbierto, []⟩ :=
  ⟨⟨by decide, rfl, rfl, rfl⟩, rfl⟩

def cfo : AuthUser := ⟨5, false, [1]⟩

/-- The statements of a transaction. -/
def sentencias (w statements : Nat) : List ClosingAct := List.replicate statements (.go w ⟨1790000000000, false⟩)

/-- A monthly close and its reopening. -/
def cierreYReapertura : List ClosingAct :=
  .start 0 (.closePeriod 1 .monthly cfo) :: (sentencias 0 5 ++ .start 0 (.reopenPeriod "ajuste".toList cfo) :: sentencias 0 4)

/-- Then two monthly closes read the open period before either commits. -/
def dosCierres : Sessions ClosingDb ClosingPoint :=
  (closingMachine 1).after ⟨eneroAbierto, []⟩ (cierreYReapertura ++ .start 1 (.closePeriod 1 .monthly cfo) ::
    .start 2 (.closePeriod 1 .monthly cfo) :: (sentencias 1 5 ++ sentencias 2 5))

/-- Two closes in a row, and the second one lists the first without a reopening. -/
theorem faithful_counterexample : ∃ S, (closingMachine 1).Reachable (fun _ _ => True) S ∧ ¬ S.committed.Faithful ∧
    S.committed.log.map (cerrado [·]) = [true, true, false, true] ∧
      ∃ run ∈ S.committed.runs, ∃ c ∈ run.controlReportJson.previos, c.closeNumber = 2 ∧ c.reopenedBy = none := by
  have hrun : ∃ run ∈ dosCierres.committed.runs, ∃ c ∈ run.controlReportJson.previos,
      c.closeNumber = 2 ∧ c.reopenedBy = none := by decide
  refine ⟨dosCierres, (closingMachine 1).reachable_after eneroAbierto_init _, fun hfaithful => ?_, by decide,
    hrun⟩
  obtain ⟨run, hmem, c, hc, -, hnone⟩ := hrun
  obtain ⟨-, hsome, -⟩ := hfaithful.reopened run hmem c hc
  rw [hnone] at hsome
  cases hsome

/-- A second close after the reopening. -/
def segundoCierre : Sessions ClosingDb ClosingPoint :=
  (closingMachine 1).afterIf (EnSuEstado 1) ⟨eneroAbierto, []⟩
    (cierreYReapertura ++ .start 1 (.closePeriod 1 .monthly cfo) :: sentencias 1 5)

theorem faithful_of_reachable_segundo : segundoCierre.committed.log.map (cerrado [·]) = [true, false, true] ∧
      segundoCierre.committed.Faithful :=
  ⟨by decide, (faithful_of_reachable
    ((closingMachine 1).reachable_afterIf (EnSuEstado 1) eneroAbierto_init _)).1⟩

end Runs

end AtlasErp
