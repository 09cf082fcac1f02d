import AtlasErp.Accounting.LedgerInvariants

/-! # A closed period stays closed

A transaction reads its period as open and commits later; a closing counts the drafts of its period and commits later.
Neither locks what the other reads.

- `PeriodsHold`: what one step must leave: nothing is posted in a closed period, and no draft is left in a period
  that has just been closed;
- `ClosesAlone`: no publication is under way when a closing commits, and no draft commits while a closing is under way;
- `closedPeriods`: in every run of such steps, each step does;
- `closedPeriods_counterexample`: a publication that crosses a closing. -/

namespace AtlasErp

open Lib

/-- What one step must leave. -/
structure PeriodsHold (S : Sessions AccountingDb LedgerPoint) (a : WorkerAct LedgerTask LedgerAnswer LedgerEvent)
    (S' : Sessions AccountingDb LedgerPoint) : Prop where
  /-- What becomes posted is in a period that is open at that moment. -/
  posted : ∀ d ∈ S'.committed.documents, d.status = .posted → d ∈ S.committed.documents ∨
    ∃ period ∈ S'.committed.periods, period.id = d.accountingPeriodId ∧ period.takes = true
  /-- A closing that commits leaves no draft in its period. -/
  drafts : ∀ w answer input user, a = .go w answer → S.find? w = some (.closing input user) →
    ∀ d ∈ S'.committed.documents, d.accountingPeriodId = input.periodId → d.status ≠ .draft

/-- The period that a publication under way has read as open for the last time. -/
def LedgerPoint.publishesIn : LedgerPoint → Option Nat
  | .published _ row => some row.accountingPeriodId
  | _ => none

/-- The period of a closing that has counted its drafts. -/
def LedgerPoint.closes : LedgerPoint → Option Nat
  | .counted input _ | .closing input _ => some input.periodId
  | _ => none

/-- What a commit needs of the other transactions: a closing, that no publication in its period is under way; a draft,
that no closing of its period is. -/
def LedgerPoint.Alone (S : Sessions AccountingDb LedgerPoint) : LedgerPoint → Prop
  | .closing input _ => ∀ x ∈ S.active, x.2.publishesIn ≠ some input.periodId
  | .keeping row => ∀ x ∈ S.active, x.2.closes ≠ some row.accountingPeriodId
  | _ => True

instance (S : Sessions AccountingDb LedgerPoint) : DecidablePred (LedgerPoint.Alone S) := fun p => by
  unfold LedgerPoint.Alone
  split <;> infer_instance

/-- The condition: each commit has what it needs of the others. -/
def ClosesAlone (S : Sessions AccountingDb LedgerPoint) : WorkerAct LedgerTask LedgerAnswer LedgerEvent → Prop
  | .go w _ => ∀ p ∈ S.find? w, p.Alone S
  | _ => True

instance (S : Sessions AccountingDb LedgerPoint) : DecidablePred (ClosesAlone S)
  | .go _ _ => inferInstanceAs (Decidable (∀ p ∈ _, _))
  | .start .. | .die _ | .outside _ => .isTrue trivial

/-- What a transaction relies on: the period it publishes in is open; the period it closes has no draft. -/
def LedgerPoint.PeriodRelies (db : AccountingDb) : LedgerPoint → Prop
  | .published _ row => ∃ period ∈ db.periods, period.id = row.accountingPeriodId ∧ period.takes = true
  | .counted input _ | .closing input _ =>
    ∀ d ∈ db.documents, d.accountingPeriodId = input.periodId → d.status ≠ .draft
  | _ => True

section Commits

variable {db db' : AccountingDb} {answer : LedgerAnswer} {p p' : LedgerPoint}

/-- What becomes posted is what a transaction publishes. -/
theorem LedgerCommit.posted (h : LedgerCommit db answer p db') (hp : p.Relies db.documents) {d : AccountingDocument}
    (hd : d ∈ db'.documents) (hposted : d.status = .posted) : d ∈ db.documents ∨
      db'.periods = db.periods ∧ ∃ publication row, p = .published publication row ∧
        d.accountingPeriodId = row.accountingPeriodId := by
  have hput : ∀ {t : Table AccountingDocument} {old new : AccountingDocument}, d ∈ t.put new → old ∈ t →
      new.id = old.id → d = new ∨ d ∈ t := by
    intro t old new hd hold hid
    exact ((Table.mem_put hold hid).mp hd).imp_right And.left
  cases h with
  | kept hnew =>
    obtain ⟨-, -, rfl⟩ := commitNew_eq_ok hnew
    rcases (Table.mem_create fun _ => rfl).mp hd with hd | rfl
    · exact .inl hd
    · cases hp.1.status.symm.trans hposted
  | @published publication row _ hcommit =>
    obtain ⟨hrelies, -, user, now, hash, rfl⟩ := hp
    cases publication with
    | ofDraft row =>
      obtain rfl := Except.ok.inj hcommit
      rcases hput hd hrelies.1 rfl with rfl | hd
      · exact .inr ⟨rfl, _, _, rfl, rfl⟩
      · exact .inl hd
    | ofNew row =>
      obtain ⟨-, -, rfl⟩ := commitNew_eq_ok hcommit
      rcases (Table.mem_create fun _ => rfl).mp hd with hd | rfl
      · exact .inl hd
      · exact .inr ⟨rfl, _, _, rfl, rfl⟩
    | ofReversal original row =>
      obtain rfl := commitReversal_eq_ok hcommit
      rcases hput hd (Table.mem_create_of_mem (fun _ => rfl) hrelies.2.2.2.1) rfl with rfl | hd
      · cases hposted
      · rcases (Table.mem_create fun _ => rfl).mp hd with hd | rfl
        · exact .inl hd
        · exact .inr ⟨rfl, _, _, rfl, rfl⟩
  | @decided id user decision _ hcommit =>
    obtain ⟨document, hmem, -, hpending, rfl⟩ := commitDecision_eq_ok hcommit
    rcases hput hd hmem (by cases decision <;> rfl) with rfl | hd
    · have hdraft : (decidedDocument document user decision answer.now).status = .draft := by
        cases decision <;> exact (of_decide_eq_true hpending).1
      cases hdraft.symm.trans hposted
    · exact .inl hd
  | voided hcommit =>
    obtain ⟨document, hmem, -, -, rfl⟩ := commitVoid_eq_ok hcommit
    rcases hput hd hmem rfl with rfl | hd
    · cases hposted
    · exact .inl hd
  | closed | reopened => exact .inl hd

/-- A draft was one before, in the same period, or it is what a transaction keeps. -/
theorem LedgerCommit.draft (h : LedgerCommit db answer p db') (hp : p.Relies db.documents) {d : AccountingDocument}
    (hd : d ∈ db'.documents) (hdraft : d.status = .draft) :
    (∃ old ∈ db.documents, old.accountingPeriodId = d.accountingPeriodId ∧ old.status = .draft) ∨
      ∃ row, p = .keeping row ∧ d.accountingPeriodId = row.accountingPeriodId := by
  cases h with
  | kept hnew =>
    obtain ⟨-, -, rfl⟩ := commitNew_eq_ok hnew
    rcases (Table.mem_create fun _ => rfl).mp hd with hd | rfl
    · exact .inl ⟨d, hd, rfl, hdraft⟩
    · exact .inr ⟨_, rfl, rfl⟩
  | @published publication row _ hcommit =>
    obtain ⟨hrelies, -, user, now, hash, rfl⟩ := hp
    cases publication with
    | ofDraft row =>
      obtain rfl := Except.ok.inj hcommit
      rcases (Table.mem_put (r := publishedDocument row user now hash) hrelies.1 rfl).mp hd with rfl | ⟨hd, -⟩
      · cases hdraft
      · exact .inl ⟨d, hd, rfl, hdraft⟩
    | ofNew row =>
      obtain ⟨-, -, rfl⟩ := commitNew_eq_ok hcommit
      rcases (Table.mem_create fun _ => rfl).mp hd with hd | rfl
      · exact .inl ⟨d, hd, rfl, hdraft⟩
      · cases hdraft
    | ofReversal original row =>
      obtain rfl := commitReversal_eq_ok hcommit
      rcases (Table.mem_put (r := reversedDocument original db.documents.nextKey)
          (Table.mem_create_of_mem (fun _ => rfl) hrelies.2.2.2.1) rfl).mp hd with rfl | ⟨hd, -⟩
      · cases hdraft
      · rcases (Table.mem_create fun _ => rfl).mp hd with hd | rfl
        · exact .inl ⟨d, hd, rfl, hdraft⟩
        · cases hdraft
  | @decided id user decision _ hcommit =>
    obtain ⟨document, hmem, -, hpending, rfl⟩ := commitDecision_eq_ok hcommit
    rcases (Table.mem_put (r := decidedDocument document user decision answer.now) hmem
        (by cases decision <;> rfl)).mp hd with rfl | ⟨hd, -⟩
    · exact .inl ⟨document, hmem, by cases decision <;> rfl, (of_decide_eq_true hpending).1⟩
    · exact .inl ⟨d, hd, rfl, hdraft⟩
  | voided hcommit =>
    obtain ⟨document, hmem, -, -, rfl⟩ := commitVoid_eq_ok hcommit
    rcases (Table.mem_put (r := { document with status := .void }) hmem rfl).mp hd with rfl | ⟨hd, -⟩
    · cases hdraft
    · exact .inl ⟨d, hd, rfl, hdraft⟩
  | closed | reopened => exact .inl ⟨d, hd, rfl, hdraft⟩

/-- An open period stays open, unless it is the one that is closed. -/
theorem LedgerCommit.openPeriod (h : LedgerCommit db answer p db') {id : Nat}
    (hopen : ∃ period ∈ db.periods, period.id = id ∧ period.takes = true)
    (hother : ∀ input user, p = .closing input user → input.periodId ≠ id) :
    ∃ period ∈ db'.periods, period.id = id ∧ period.takes = true := by
  obtain ⟨period, hmem, hid, htakes⟩ := hopen
  cases h with
  | kept hnew =>
    obtain ⟨-, -, rfl⟩ := commitNew_eq_ok hnew
    exact ⟨period, hmem, hid, htakes⟩
  | @published publication row _ hcommit =>
    cases publication with
    | ofDraft row =>
      obtain rfl := Except.ok.inj hcommit
      exact ⟨period, hmem, hid, htakes⟩
    | ofNew row =>
      obtain ⟨-, -, rfl⟩ := commitNew_eq_ok hcommit
      exact ⟨period, hmem, hid, htakes⟩
    | ofReversal original row =>
      obtain rfl := commitReversal_eq_ok hcommit
      exact ⟨period, hmem, hid, htakes⟩
  | decided hcommit =>
    obtain ⟨-, -, -, -, rfl⟩ := commitDecision_eq_ok hcommit
    exact ⟨period, hmem, hid, htakes⟩
  | voided hcommit =>
    obtain ⟨-, -, -, -, rfl⟩ := commitVoid_eq_ok hcommit
    exact ⟨period, hmem, hid, htakes⟩
  | @closed input user =>
    refine ⟨period, (Table.mem_updateWhere (f := closedPeriod user answer.now) fun _ => rfl).mpr
      ⟨period, hmem, if_neg ?_⟩, hid, htakes⟩
    rw [decide_eq_true_eq, hid]
    exact (hother input user rfl).symm
  | @reopened periodId =>
    refine ⟨_, (Table.mem_updateWhere (f := openPeriod) fun _ => rfl).mpr ⟨period, hmem, rfl⟩, ?_⟩
    split
    · exact ⟨hid, rfl⟩
    · exact ⟨hid, htakes⟩

end Commits

/-! ## Runs -/

section Runs

/-- The invariant of the ledger is known of every state. -/
abbrev LedgerKept (S : Sessions AccountingDb LedgerPoint) : Prop :=
  Workers.Keeps (fun db => DocumentsInv db.documents) (fun p db => p.Relies db.documents) S

/-- A publication has read its period as open, and a closing has counted no draft. -/
theorem LedgerAdvance.periodRelies {db : AccountingDb} {answer : LedgerAnswer} {p p' : LedgerPoint}
    (hp : p.PeriodRelies db) (h : LedgerAdvance db answer p p') : p'.PeriodRelies db := by
  cases h with
  | @written user publication row hrow =>
    obtain ⟨_, -, hrow⟩ := bind_eq_ok.mp hrow
    obtain ⟨-, -, hrow⟩ := bind_eq_ok.mp hrow
    obtain ⟨_, hcontext, hrow⟩ := bind_eq_ok.mp hrow
    obtain ⟨-, -, hrow⟩ := bind_eq_ok.mp hrow
    obtain rfl := pure_eq_ok.mp hrow
    -- the trigger reads the period of a row that is posted
    unfold assertDocumentContext at hcontext
    rw [if_neg (by rintro (hstatus | hstatus) <;> cases hstatus)] at hcontext
    obtain ⟨period, hfind, hcontext⟩ := orFail_bind_eq_ok.mp hcontext
    obtain ⟨fiscalYear, -, hcontext⟩ := bind_eq_ok.mp hcontext
    obtain ⟨-, hcontext⟩ := failIf_bind_eq_ok.mp hcontext
    obtain ⟨-, hcontext⟩ := failIf_bind_eq_ok.mp hcontext
    obtain ⟨htakes, -⟩ := failIf_bind_eq_ok.mp hcontext
    obtain ⟨hmem, hid⟩ := Table.find?_eq_some.mp hfind
    exact ⟨period, hmem, hid, Bool.not_eq_false _ ▸ htakes⟩
  | @counted input user hcount =>
    have hnone : ¬ (0 < (periodDrafts db input.periodId).length ∨ answer.openItems = true) := fun hsome => by
      rw [assertNoBlockers, failIf, if_pos hsome] at hcount
      cases hcount
    intro d hd hperiod hdraft
    refine hnone (.inl (List.length_pos_of_mem (Table.mem_rowsWhere.mpr ⟨hd, ?_⟩)))
    exact decide_eq_true ⟨hperiod, hdraft⟩
  | closing => exact hp
  | @inserted d p' hinsert =>
    obtain ⟨row, -, hinsert⟩ := bind_eq_ok.mp hinsert
    obtain ⟨-, -, hinsert⟩ := bind_eq_ok.mp hinsert
    obtain ⟨-, hinsert⟩ := failIf_bind_eq_ok.mp hinsert
    split at hinsert
    · obtain rfl := pure_eq_ok.mp hinsert
      trivial
    · obtain ⟨-, -, hinsert⟩ := bind_eq_ok.mp hinsert
      obtain rfl := pure_eq_ok.mp hinsert
      trivial
    · obtain ⟨-, -, hinsert⟩ := bind_eq_ok.mp hinsert
      obtain ⟨-, -, hinsert⟩ := bind_eq_ok.mp hinsert
      obtain ⟨-, -, hinsert⟩ := bind_eq_ok.mp hinsert
      obtain rfl := pure_eq_ok.mp hinsert
      trivial
  | numbered | resolved | validated | read | guarded | undone | deciding | reopening => trivial

/-- What a transaction relies on stays when another commits, each alone. -/
theorem LedgerCommit.periodStable {S : Sessions AccountingDb LedgerPoint} {answer : LedgerAnswer} {w : Nat}
    {p : LedgerPoint} {db' : AccountingDb} (h : LedgerCommit S.committed answer p db') (hfind : S.find? w = some p)
    (hrelies : p.Relies S.committed.documents) (halone : p.Alone S) {x : Nat × LedgerPoint} (hx : x ∈ S.active)
    (hp : x.2.PeriodRelies S.committed) : x.2.PeriodRelies db' := by
  have hdrafts : ∀ periodId, x.2.closes = some periodId →
      (∀ d ∈ S.committed.documents, d.accountingPeriodId = periodId → d.status ≠ .draft) →
      ∀ d ∈ db'.documents, d.accountingPeriodId = periodId → d.status ≠ .draft := by
    intro periodId hcloses hnone d hd hperiod hdraft
    rcases h.draft hrelies hd hdraft with ⟨old, hold, hsame, hdraft⟩ | ⟨row, rfl, hsame⟩
    · exact hnone old hold (hsame.trans hperiod) hdraft
    · exact halone x hx (hcloses.trans (congrArg some (hperiod.symm.trans hsame)))
  cases hpoint : x.2 with
  | published publication row =>
    rw [hpoint] at hp
    refine h.openPeriod hp fun input user hclosing hperiod => ?_
    subst hclosing
    exact halone x hx (by rw [hpoint, hperiod]; rfl)
  | counted input user =>
    rw [hpoint] at hp hdrafts
    exact hdrafts _ rfl hp
  | closing input user =>
    rw [hpoint] at hp hdrafts
    exact hdrafts _ rfl hp
  | _ => trivial

/-- **What the transactions promise** of periods, when each commits alone. -/
theorem period_promises : ledgerWorkers.Promises LedgerKept ClosesAlone (fun _ => True)
    (fun p db => p.PeriodRelies db) where
  start := by
    intro S task p _ _ hstart
    have hbegin := toOption_eq_some.mp hstart
    cases task with
    | createDraft | generate | closePeriod | reopenPeriod =>
      obtain ⟨_, -, hbegin⟩ := bind_eq_ok.mp hbegin
      obtain rfl := pure_eq_ok.mp hbegin
      trivial
    | decide =>
      obtain ⟨_, -, hbegin⟩ := bind_eq_ok.mp hbegin
      obtain ⟨_, -, hbegin⟩ := bind_eq_ok.mp hbegin
      obtain ⟨_, -, hbegin⟩ := bind_eq_ok.mp hbegin
      obtain rfl := pure_eq_ok.mp hbegin
      trivial
    | post | reverse | voidDraft =>
      obtain rfl := Except.ok.inj hbegin
      trivial
  next := by
    intro S w answer p store q _ hS hfind _ hnext
    refine ⟨trivial, fun p' hp' => ?_⟩
    obtain rfl : q = some p' := hp'
    rcases ledger_next (Option.some.inj hnext) with rfl | ⟨hnone, -⟩
    · exact (ledger_advance (Option.some.inj hnext)).periodRelies (hS.at hfind)
    · cases hnone
  stable := by
    intro S w answer p store q hkept hS hfind hok hnext x hx
    obtain ⟨hx, -⟩ := Sessions.mem_others.mp hx
    rcases ledger_next (Option.some.inj hnext) with rfl | ⟨-, hcommit⟩
    · exact hS.worker x hx
    · exact hcommit.periodStable hfind (hkept.at hfind) (hok p hfind) hx (hS.worker x hx)
  outside := by
    intro S event store _ hS _ houtside
    obtain rfl := Option.some.inj houtside
    refine ⟨trivial, fun x hx => ?_⟩
    have hp := hS.worker x hx
    show x.2.PeriodRelies (event.apply S.committed)
    cases event with
    | configure master => cases hpoint : x.2 <;> rw [hpoint] at hp <;> exact hp
    | addPeriod period =>
      cases hpoint : x.2 with
      | published publication row =>
        rw [hpoint] at hp
        obtain ⟨open', hmem, hrest⟩ := hp
        exact ⟨open', Table.mem_create_of_mem (fun _ => rfl) hmem, hrest⟩
      | counted | closing =>
        rw [hpoint] at hp
        exact hp
      | _ => trivial

/-- **A closed period stays closed**, in every run whose closings commit with no publication under way in their period
and whose drafts commit with no closing under way: nothing is posted in a period that is closed, and a closing leaves
no draft. -/
theorem closedPeriods {S S' : Sessions AccountingDb LedgerPoint} {a : WorkerAct LedgerTask LedgerAnswer LedgerEvent}
    (h : ledgerMachine.Reachable ClosesAlone S) (hok : ClosesAlone S a) (hstep : ledgerMachine.step S a = some S') :
    PeriodsHold S a S' := by
  have hreach : ledgerMachine.Reachable (fun _ _ => True) S := h.mono fun _ _ _ => trivial
  have hkept := ledger_keeps hreach
  have hperiods : Workers.Keeps (fun _ => True) (fun p db => p.PeriodRelies db) S :=
    Workers.keeps period_promises (fun _ _ => trivial)
      (fun _ hS => ledger_keeps (hS.mono fun _ _ _ => trivial)) h
  constructor
  · intro d hd hposted
    cases ledger_step_cases hstep with
    | started | died => exact .inl hd
    | moved hfind hnext =>
      rcases ledger_next (Option.some.inj hnext) with rfl | ⟨hnone, -⟩
      · exact .inl hd
      · cases hnone
    | done hfind hnext =>
      rcases ledger_next (Option.some.inj hnext) with rfl | ⟨-, hcommit⟩
      · exact .inl hd
      · rcases hcommit.posted (hkept.at hfind) hd hposted with hd | ⟨hsame, publication, row, rfl, hperiod⟩
        · exact .inl hd
        · obtain ⟨period, hmem, hid, htakes⟩ := hperiods.at hfind
          exact .inr ⟨period, hsame ▸ hmem, hid.trans hperiod.symm, htakes⟩
    | @changed event store houtside =>
      obtain rfl := Option.some.inj houtside
      cases event <;> exact .inl hd
  · rintro w answer input user rfl hfind d hd
    have hnone := hperiods.at hfind
    cases ledger_step_cases hstep with
    | moved hfind' hnext =>
      obtain rfl := Option.some.inj (hfind.symm.trans hfind')
      cases (Prod.mk.inj (Option.some.inj hnext)).2
    | done hfind' hnext =>
      obtain rfl := Option.some.inj (hfind.symm.trans hfind')
      obtain ⟨rfl, -⟩ := Prod.mk.inj (Option.some.inj hnext)
      exact hnone d hd

end Runs

/-! ## A publication crosses a closing -/

/-- A document is published up to its commit; the period is counted without drafts and closed; then it commits. -/
def crossing : List (WorkerAct LedgerTask LedgerAnswer LedgerEvent) :=
  .start 1 (.generate (smallDraft 'A' none) (admin 1) none true) :: answers 1 6 [] ++
    .start 2 (.closePeriod ⟨1, 1⟩ (admin 2)) :: answers 2 3 []

/-- The state before that commit. -/
def crossed : Sessions AccountingDb LedgerPoint := ledgerMachine.after ⟨smallLedger, []⟩ crossing

/-- **A document is posted in a period that is closed.** -/
theorem closedPeriods_counterexample : ¬ ∀ S a S', ledgerMachine.Reachable (fun _ _ => True) S →
    ledgerMachine.step S a = some S' → PeriodsHold S a S' := by
  intro h
  have hrun : ∃ S' ∈ ledgerMachine.step crossed (.go 1 ⟨[], none, 0, [], false⟩),
      ∃ d ∈ S'.committed.documents, d.status = .posted ∧ (∀ old ∈ crossed.committed.documents, old.id ≠ d.id) ∧
        ∀ period ∈ S'.committed.periods, period.takes = false := by decide
  obtain ⟨S', hstep, d, hd, hposted, hnew, hclosed⟩ := hrun
  rcases (h crossed _ S' (ledgerMachine.reachable_after ⟨rfl, rfl⟩ _) hstep).posted d hd hposted with
    hold | ⟨period, hmem, -, htakes⟩
  · exact hnew d hold rfl
  · rw [hclosed period hmem] at htakes
    cases htakes

/-- A document is published, and then the period is closed. -/
theorem closedPeriods_inTurn :
    ∃ S S', ledgerMachine.step S (.go 2 ⟨[], none, 0, [], false⟩) = some S' ∧
      PeriodsHold S (.go 2 ⟨[], none, 0, [], false⟩) S' := by
  let S := ledgerMachine.afterIf ClosesAlone ⟨smallLedger, []⟩
    (.start 1 (.generate (smallDraft 'A' none) (admin 1) none true) :: answers 1 7 [] ++
      .start 2 (.closePeriod ⟨1, 1⟩ (admin 2)) :: answers 2 2 [])
  have hstep : (ledgerMachine.step S (.go 2 ⟨[], none, 0, [], false⟩)).isSome = true := by decide
  obtain ⟨S', hstep⟩ := Option.isSome_iff_exists.mp hstep
  refine ⟨S, S', hstep, closedPeriods (ledgerMachine.reachable_afterIf ClosesAlone ⟨rfl, rfl⟩ _) ?_ hstep⟩
  decide

end AtlasErp
