import AtlasErp.Coverage.CoreEvents
import AtlasErp.Coverage.OverdueSweep
import AtlasErp.Coverage.Recovery
import AtlasErp.Coverage.Review
import AtlasErp.Lib.Runs

/-! # Coverage as a system

The operations of coverage as the requests of one machine.  Every request is one transaction that
takes its row locks, so it is one step; a request that fails is rolled back and leaves the database
as it was.

- `CoverageRequest`, `coverageSystem`: the machine;
- `coverageSystem_step_cases`: all that a step can do. -/

namespace AtlasErp

open Lib

/-- A request, with all it carries. -/
inductive CoverageRequest where
  | scheduleCoverage (input : ScheduleCoverageDto) (actor : CoverageActor) (now : Instant)
  | cancelPayable (payableId : Nat) (reason : String) (actor : CoverageActor) (now : Instant)
  | markPayablePaid (payableId : Nat) (input : MarkPayablePaidDto) (actor : CoverageActor)
      (now : Instant)
  | approvePayableSettlement (payableId : Nat) (note : Option String) (actor : CoverageActor)
      (now : Instant)
  | rejectPayableSettlement (payableId : Nat) (note : Option String) (actor : CoverageActor)
      (now : Instant)
  | resolveReviewItem (reviewItemId : Nat) (input : ResolveCoverageReviewItemDto)
      (actor : CoverageActor) (now : Instant)
  | receive (envelope : CoreEnvelope) (now : Instant)
  | sweep (corte : Day) (now : Instant) (hours : Int)
  | applyRecoveryPayment (recoveryId : Nat) (input : ApplyRecoveryPaymentDto)
      (actor : Option CoverageActor) (now : Instant)
  | reverseRecoveryMovement (recoveryId movementId : Nat) (input : ReverseRecoveryMovementDto)
      (actor : CoverageActor) (now : Instant)
  deriving DecidableEq

/-- The database after a transaction: what it committed, or nothing when it failed. -/
def committed {β : Type} (db : CoverageDb) (outcome : Except HttpError (β × CoverageDb)) : CoverageDb :=
  match outcome with
  | .ok (_, db') => db'
  | .error _ => db

/-- Perform a request as one transaction. -/
def perform (db : CoverageDb) : CoverageRequest → CoverageDb
  | .scheduleCoverage input actor now => committed db (scheduleCoverage db input actor now)
  | .cancelPayable payableId reason actor now =>
    committed db (cancelPayable db payableId reason actor now)
  | .markPayablePaid payableId input actor now =>
    committed db (markPayablePaid db payableId input actor now)
  | .approvePayableSettlement payableId note actor now =>
    committed db (approvePayableSettlement db payableId note actor now)
  | .rejectPayableSettlement payableId note actor now =>
    committed db (rejectPayableSettlement db payableId note actor now)
  | .resolveReviewItem reviewItemId input actor now =>
    committed db (resolveReviewItem db input actor now reviewItemId)
  | .receive envelope now => committed db (receive db envelope now)
  | .sweep corte now hours => (sweep db corte now hours).2
  | .applyRecoveryPayment recoveryId input actor now =>
    committed db (applyRecoveryPayment db recoveryId input actor now)
  | .reverseRecoveryMovement recoveryId movementId input actor now =>
    committed db (reverseRecoveryMovement db recoveryId movementId input actor now)

/-- The machine of coverage from a set of initial databases. -/
def coverageSystem (init : CoverageDb → Prop) : Machine CoverageDb CoverageRequest where
  init := init
  step db request := some (perform db request)

/-- What one step does, by request; every case is the cases lemma of its operation. -/
inductive CoverageStep (db : CoverageDb) : CoverageRequest → CoverageDb → Prop where
  /-- Nothing but the review queue, the inbox and the exceptions differs. -/
  | quiet {request db'} (same : SameLedger db db') : CoverageStep db request db'
  /-- A coverage is scheduled. -/
  | scheduled {input actor now installment purchase evidence reviewItems}
      (installment_eq : db.installments.find? input.installmentId = some installment)
      (coverable : Coverable (db.eligibilityInput installment purchase now)) :
      CoverageStep db (.scheduleCoverage input actor now)
        { db with
          installments := markOverdue db installment
          payables := db.payables.create (coveragePayable input actor now installment purchase
            (db.eligibilityInput installment purchase now).balanceMinor evidence)
          reviewItems }
  /-- A payable that is neither paid nor under settlement is cancelled. -/
  | cancelled {payableId reason actor now payable}
      (payable_eq : db.payables.find? payableId = some payable)
      (not_cancelled : payable.status ≠ .cancelled) (not_paid : payable.status ≠ .paid)
      (no_settlement : db.findLiveSettlement payable.id = none) :
      CoverageStep db (.cancelPayable payableId reason actor now)
        { db with payables := db.payables.put (payable.cancel reason actor now) }
  /-- A settlement is registered. -/
  | registered {payableId input actor now payable actionLog}
      (payable_eq : db.payables.find? payableId = some payable)
      (no_settlement : db.findLiveSettlement payable.id = none)
      (not_cancelled : payable.status ≠ .cancelled) (not_paid : payable.status ≠ .paid)
      (matched : settlementMismatches payable input now
        (db.findEvidenceFileStatus input.evidenceFileId) = []) :
      CoverageStep db (.markPayablePaid payableId input actor now)
        { db with
          settlements := db.settlements.create (newSettlement input actor payable)
          actionLog }
  /-- A settlement is confirmed. -/
  | approved {payableId note actor now payable settlement installment purchase outbox actionLog}
      (approval : Approval db actor payable settlement installment purchase) :
      CoverageStep db (.approvePayableSettlement payableId note actor now)
        { settle db note actor now payable settlement installment purchase with outbox, actionLog }
  /-- A settlement is rejected. -/
  | rejected {payableId note actor now settlement actionLog}
      (settlement_mem : settlement ∈ db.settlements)
      (pending : settlement.status = .pendingApproval)
      (fourEyes : settlement.registeredByUserId ≠ actor.userId) :
      CoverageStep db (.rejectPayableSettlement payableId note actor now)
        { db with
          settlements := db.settlements.put (settlement.decide note actor now .rejected)
          actionLog }
  /-- A notice is decided from the review queue. -/
  | reviewed {reviewItemId input actor now decision reviewItems}
      (review : ReviewDecision db decision) :
      CoverageStep db (.resolveReviewItem reviewItemId input actor now)
        { (applyNoticeDecision db decision).2 with reviewItems }
  /-- An event of Core is received. -/
  | received {envelope now db'} (receive : ReceiveStep db envelope now db') :
      CoverageStep db (.receive envelope now) db'
  /-- A sweep marks scheduled installments overdue. -/
  | swept {corte now hours reviewItems} {aMarcar : List Nat}
      (scheduled : ∀ i ∈ db.installments, aMarcar.contains i.id = true → i.status = .scheduled) :
      CoverageStep db (.sweep corte now hours)
        { db with
          reviewItems
          installments := db.installments.updateWhere (fun i => aMarcar.contains i.id)
            (fun i => { i with status := .overdue }) }
  /-- A payment of the consumer is recorded. -/
  | paid {recoveryId input actor now recovery outbox}
      (recovery_eq : db.recoveries.find? recoveryId = some recovery)
      (unknown : db.movementByReference input.paymentReference = none)
      (fits : recovery.amountRecovered + input.amount.val ≤ recovery.amountCoveredByAtlas) :
      CoverageStep db (.applyRecoveryPayment recoveryId input actor now)
        { db with
          movements := db.movements.create (paymentMovement input actor now recovery)
          recoveries := db.recoveries.put (updateRecoveredAmount recovery
            (recovery.amountRecovered + input.amount.val) recovery.amountCoveredByAtlas)
          outbox }
  /-- A payment of the consumer is reversed. -/
  | reversed {recoveryId movementId input actor now recovery original outbox}
      (recovery_eq : db.recoveries.find? recoveryId = some recovery)
      (original_mem : original ∈ db.movements) (own : original.recoveryId = recovery.id)
      (payment : original.movementType = .payment)
      (not_reversed : db.reversalOf original.id = none)
      (unknown : db.movementByReference input.reversalReference = none)
      (fits : 0 ≤ recovery.amountRecovered - original.amount) :
      CoverageStep db (.reverseRecoveryMovement recoveryId movementId input actor now)
        { db with
          movements := db.movements.create (reversalMovement input actor now recovery original)
          recoveries := db.recoveries.put (updateRecoveredAmount recovery
            (recovery.amountRecovered - original.amount) recovery.amountCoveredByAtlas)
          outbox }

section Steps

variable {db db' : CoverageDb}

theorem SameLedger.of_same (h : db' = db) : SameLedger db db' := h ▸ .refl db'

theorem SameLedger.of_reviewItems {reviewItems : Table CoverageReviewItem}
    (h : db' = { db with reviewItems }) : SameLedger db db' := ⟨_, _, _, h⟩

/-- A transaction that fails does nothing; one that succeeds does what its cases lemma says. -/
theorem step_of_committed {β : Type} {outcome : Except HttpError (β × CoverageDb)}
    {request : CoverageRequest} (hperform : perform db request = committed db outcome)
    (hok : ∀ result db', outcome = .ok (result, db') → CoverageStep db request db') :
    CoverageStep db request (perform db request) := by
  rw [hperform]
  cases outcome with
  | error e => exact .quiet (.refl db)
  | ok r => exact hok r.1 r.2 rfl

/-- **All that a step can do.** -/
theorem perform_step (request : CoverageRequest) : CoverageStep db request (perform db request) := by
  cases request with
  | scheduleCoverage input actor now =>
    refine step_of_committed rfl fun result db' h => ?_
    obtain ⟨installment, purchase, hinst, -, ⟨_, hdb⟩ | ⟨hcov, _, _, hdb⟩⟩ := scheduleCoverage_cases h
    · exact .quiet (.of_reviewItems hdb)
    · rw [hdb]
      exact .scheduled hinst hcov
  | cancelPayable payableId reason actor now =>
    refine step_of_committed rfl fun result db' h => ?_
    obtain ⟨payable, hfind, ⟨-, hdb⟩ | ⟨hnc, hnp, hnone, hdb⟩⟩ := cancelPayable_cases h
    · exact .quiet (.of_same hdb)
    · rw [hdb]
      exact .cancelled hfind hnc hnp hnone
  | markPayablePaid payableId input actor now =>
    refine step_of_committed rfl fun result db' h => ?_
    obtain hdb | ⟨payable, _, hfind, hnone, hnc, hnp, -, hmatch, hdb⟩ := markPayablePaid_cases h
    · exact .quiet (.of_same hdb)
    · rw [hdb]
      exact .registered hfind hnone hnc hnp hmatch
  | approvePayableSettlement payableId note actor now =>
    refine step_of_committed rfl fun result db' h => ?_
    obtain ⟨hdb, -⟩ | ⟨_, _, _, _, _, _, happroval, hdb⟩ := approvePayableSettlement_cases h
    · exact .quiet (.of_same hdb)
    · rw [hdb]
      exact .approved happroval
  | rejectPayableSettlement payableId note actor now =>
    refine step_of_committed rfl fun result db' h => ?_
    obtain ⟨_, _, hmem, hpending, hfour, hdb⟩ := rejectPayableSettlement_cases h
    rw [hdb]
    exact .rejected hmem hpending hfour
  | resolveReviewItem reviewItemId input actor now =>
    refine step_of_committed rfl fun result db' h => ?_
    obtain ⟨_, hdb⟩ | ⟨_, _, hreview, -, hdb⟩ := resolveReviewItem_cases h
    · exact .quiet (.of_reviewItems hdb)
    · rw [hdb]
      exact .reviewed hreview
  | receive envelope now =>
    refine step_of_committed rfl fun result db' h => ?_
    exact .received (receive_cases h)
  | sweep corte now hours =>
    obtain ⟨_, _, hdb, hscheduled⟩ := @sweep_cases db corte now hours
    change CoverageStep db _ (sweep db corte now hours).2
    rw [hdb]
    exact .swept hscheduled
  | applyRecoveryPayment recoveryId input actor now =>
    refine step_of_committed rfl fun result db' h => ?_
    obtain ⟨hdb, -⟩ | ⟨recovery, hfind, hunknown, -, -, hfits, hrec⟩ := applyRecoveryPayment_cases h
    · exact .quiet (.of_same hdb)
    · rw [(Prod.mk.inj hrec).2]
      exact .paid hfind hunknown hfits
  | reverseRecoveryMovement recoveryId movementId input actor now =>
    refine step_of_committed rfl fun result db' h => ?_
    obtain ⟨hdb, -⟩ | ⟨recovery, original, hfind, hmem, -, hown, htype, hnr, hunknown, hfits, hrec⟩ :=
      reverseRecoveryMovement_cases h
    · exact .quiet (.of_same hdb)
    · rw [(Prod.mk.inj hrec).2]
      exact .reversed hfind hmem hown htype hnr hunknown hfits

theorem coverageSystem_step {init : CoverageDb → Prop} {request : CoverageRequest}
    (h : (coverageSystem init).step db request = some db') : CoverageStep db request db' := by
  obtain rfl : perform db request = db' := Option.some.inj h
  exact perform_step request

/-- Performing an allowed request stays within the reachable databases. -/
theorem Reachable.perform {init : CoverageDb → Prop} {ok : CoverageDb → CoverageRequest → Prop}
    (h : (coverageSystem init).Reachable ok db) {request : CoverageRequest} (hok : ok db request) :
    (coverageSystem init).Reachable ok (perform db request) :=
  Machine.Reachable.step h hok rfl

/-- Any list of requests leads to a reachable database. -/
theorem reachable_foldl {init : CoverageDb → Prop} (requests : List CoverageRequest)
    (h : (coverageSystem init).Reachable (fun _ _ => True) db) :
    (coverageSystem init).Reachable (fun _ _ => True) (requests.foldl AtlasErp.perform db) := by
  induction requests generalizing db with
  | nil => exact h
  | cons request requests ih => exact ih (Reachable.perform h trivial)

end Steps

end AtlasErp
