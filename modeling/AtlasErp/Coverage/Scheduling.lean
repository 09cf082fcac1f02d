import AtlasErp.Coverage.Eligibility
import AtlasErp.Lib.Checked

/-! # Scheduling a coverage, and cancelling it

`scheduleCoverage` creates the payable ATLAS owes the merchant for an unpaid installment, for its
balance; what is ambiguous goes to the review queue.  `cancelPayable` undoes it while nothing was
settled.

- `scheduleCoverage_cases`: all that a successful call can do;
- `cancelPayable_cases`: the same for the cancellation. -/

namespace AtlasErp

open Lib

/-! ## Reads shared by the services -/

namespace CoverageDb

variable (db : CoverageDb)

/-- The payable in force of an installment. -/
def livePayable (installmentId : Nat) : Option MerchantPayable :=
  db.payables.findBy (fun p => p.installmentId = installmentId ∧ p.isLive)

/-- The settlement that stands on a payable: registered or confirmed. -/
def findLiveSettlement (payableId : Nat) : Option MerchantPayableSettlement :=
  db.settlements.findBy (fun s => s.merchantPayableId = payableId ∧ s.isLive)

/-- `ledger.lockPayable`. -/
def lockPayable (payableId : Nat) : Except HttpError MerchantPayable :=
  orFail (db.payables.find? payableId) (notFound "CxP ATLAS→comercio no encontrada.")

/-- What `scheduleCoverage` reads for the eligibility decision. -/
def eligibilityInput (installment : Installment) (purchase : Purchase) (now : Instant) :
    EligibilityInput where
  installment := installment
  purchaseStatus := purchase.status
  contract := db.contractVersions.find? purchase.contractVersionId
  notices := (db.notices.rowsWhere (·.installmentId = some installment.id)).map
    (fun n => ⟨n.id, n.status, n.amount⟩)
  hasLivePayable := (db.livePayable installment.id).isSome
  businessDate := businessDate now

/-- The open review item of an installment for a reason. -/
def findOpenReview (installmentId : Nat) (reason : CoverageReviewReason) : Option CoverageReviewItem :=
  db.reviewItems.findBy (fun r => r.installmentId = installmentId ∧ r.reason = reason ∧ r.status = .open)

end CoverageDb

/-- A review item as it is opened. -/
def newReviewItem (installmentId : Nat) (reason : CoverageReviewReason) (details : ReviewDetails)
    (openedByUserId : Option UserId) (openedAt : Instant) (id : Nat) : CoverageReviewItem where
  id := id
  installmentId := installmentId
  reason := reason
  status := .open
  details := details
  openedByUserId := openedByUserId
  openedAt := openedAt
  resolvedAt := none
  resolvedByUserId := none
  resolutionNote := none
  resolution := none

/-! ## Scheduling -/

/-- The body of the request. -/
structure ScheduleCoverageDto where
  installmentId : Nat
  scheduledPaymentDate : Day
  reason : String
  deriving DecidableEq

/-- What `scheduleCoverage` answers. -/
inductive ScheduleCoverageResult where
  | reviewRequired (installmentId : Nat) (reason : CoverageReviewReason) (message : String)
      (reviewItem : CoverageReviewItem)
  | scheduled (payable : MerchantPayable)
  deriving DecidableEq

section Schedule

variable (db : CoverageDb) (input : ScheduleCoverageDto) (actor : CoverageActor) (now : Instant)

/-- The open review item, opened when there was none. -/
def openReviewItem (installmentId : Nat) (reason : CoverageReviewReason) (details : ReviewDetails)
    (userId : Option UserId) : CoverageReviewItem × CoverageDb :=
  match db.findOpenReview installmentId reason with
  | some item => (item, db)
  | none =>
    let row := newReviewItem installmentId reason details userId now
    (row db.reviewItems.nextKey, { db with reviewItems := db.reviewItems.create row })

/-- The payable that covers the balance of an installment. -/
def coveragePayable (installment : Installment) (purchase : Purchase) (amount : Int)
    (evidence : EligibilityEvidence) (id : Nat) : MerchantPayable where
  id := id
  accountId := purchase.merchantAccountId
  purchaseId := purchase.id
  installmentId := installment.id
  reason := input.reason
  amount := amount
  currency := "BOB"
  scheduledPaymentDate := input.scheduledPaymentDate
  paidAt := none
  status := .scheduled
  requestedByUserId := some actor.userId
  contractVersionId := some purchase.contractVersionId
  businessDate := some (businessDate now)
  eligibilityEvidence := some evidence
  cancelledAt := none
  cancelledByUserId := none
  cancellationReason := none

/-- A scheduled installment that is covered is overdue. -/
def markOverdue (installment : Installment) : Table Installment :=
  if installment.status = .scheduled then
    db.installments.put { installment with status := .overdue }
  else db.installments

/-- What was in the queue for the installment is resolved by the coverage itself. -/
def resolveByCoverage (installmentId payableId : Nat) : Table CoverageReviewItem :=
  db.reviewItems.updateWhere (fun r => r.installmentId = installmentId ∧ r.status = .open)
    (fun r => { r with
      status := .resolved
      resolution := some .coverageScheduled
      resolvedAt := some now
      resolvedByUserId := some actor.userId
      resolutionNote := some ("Cobertura programada (CxP " ++ toString payableId ++ ").") })

/-- Schedule the coverage of an installment, or open a review. -/
def scheduleCoverage : Except HttpError (ScheduleCoverageResult × CoverageDb) := do
  let installment ← orFail (db.installments.find? input.installmentId)
    (notFound "Cuota BNPL no encontrada.")
  let purchase ← orFail (db.purchases.find? installment.purchaseId)
    (notFound "Compra BNPL de la cuota no encontrada.")
  match evaluateCoverageEligibility (db.eligibilityInput installment purchase now) with
  | .rejected code message => throw (conflict code.text message)
  | .review reason message evidence =>
    let (item, db') := openReviewItem db now installment.id reason
      (.eligibility evidence input.reason) (some actor.userId)
    return (.reviewRequired installment.id reason message item, db')
  | .eligible eligibleAmount evidence =>
    let row := coveragePayable input actor now installment purchase eligibleAmount evidence
    let payable := row db.payables.nextKey
    return (.scheduled payable,
      { db with
        installments := markOverdue db installment
        payables := db.payables.create row
        reviewItems := resolveByCoverage db actor now installment.id payable.id })

variable {db input actor now}

theorem openReviewItem_eq {installmentId : Nat} {reason : CoverageReviewReason}
    {details : ReviewDetails} {userId : Option UserId} :
    (openReviewItem db now installmentId reason details userId).2 =
      { db with
        reviewItems := (openReviewItem db now installmentId reason details userId).2.reviewItems } := by
  unfold openReviewItem
  split <;> rfl

/-- All that a successful `scheduleCoverage` can do: open a review, or cover the balance of a
coverable installment. -/
theorem scheduleCoverage_cases {result : ScheduleCoverageResult} {db' : CoverageDb}
    (h : scheduleCoverage db input actor now = .ok (result, db')) :
    ∃ installment purchase, db.installments.find? input.installmentId = some installment ∧
      db.purchases.find? installment.purchaseId = some purchase ∧
      ((∃ reviewItems, db' = { db with reviewItems }) ∨
        (Coverable (db.eligibilityInput installment purchase now) ∧
          ∃ evidence reviewItems, db' =
            { db with
              installments := markOverdue db installment
              payables := db.payables.create (coveragePayable input actor now installment purchase
                (db.eligibilityInput installment purchase now).balanceMinor evidence)
              reviewItems })) := by
  unfold scheduleCoverage at h
  obtain ⟨installment, hinst, h⟩ := orFail_bind_eq_ok.mp h
  obtain ⟨purchase, hpurchase, h⟩ := orFail_bind_eq_ok.mp h
  refine ⟨installment, purchase, hinst, hpurchase, ?_⟩
  cases heval : evaluateCoverageEligibility (db.eligibilityInput installment purchase now) with
  | rejected code message =>
    rw [heval] at h
    exact absurd h throw_ne_ok
  | review reason message evidence =>
    rw [heval] at h
    have hdb := congrArg Prod.snd (pure_eq_ok.mp h)
    exact .inl ⟨_, hdb.symm.trans openReviewItem_eq⟩
  | eligible amount evidence =>
    rw [heval] at h
    obtain ⟨hcov, rfl, -⟩ := eligible_iff.mp heval
    have hdb := congrArg Prod.snd (pure_eq_ok.mp h)
    exact .inr ⟨hcov, evidence, _, hdb.symm⟩

end Schedule

/-! ## Cancelling -/

/-- What `cancelPayable` answers. -/
structure CancelPayableResult where
  replayed : Bool
  payable : MerchantPayable
  deriving DecidableEq

section Cancel

variable (db : CoverageDb) (payableId : Nat) (reason : String) (actor : CoverageActor) (now : Instant)

/-- The payable, cancelled. -/
def MerchantPayable.cancel (payable : MerchantPayable) : MerchantPayable :=
  { payable with
    status := .cancelled
    cancelledAt := some now
    cancelledByUserId := some actor.userId
    cancellationReason := some reason }

/-- Cancel a coverage that was not settled. -/
def cancelPayable : Except HttpError (CancelPayableResult × CoverageDb) := do
  let payable ← db.lockPayable payableId
  if payable.status = .cancelled then
    return (⟨true, payable⟩, db)
  else do
    failIf (payable.status = .paid) (conflict "PAYABLE_ALREADY_PAID"
      "La CxP ya fue liquidada: no se cancela, se revierte con un movimiento aprobado.")
    failIf (db.findLiveSettlement payable.id).isSome (conflict "SETTLEMENT_IN_PROGRESS"
      "Hay una liquidación registrada para esta CxP: recházala antes de cancelar.")
    let cancelled := payable.cancel reason actor now
    return (⟨false, cancelled⟩, { db with payables := db.payables.put cancelled })

variable {db payableId reason actor now}

/-- All that a successful `cancelPayable` can do: nothing on a cancelled payable, or cancel one that
is neither paid nor under settlement. -/
theorem cancelPayable_cases {result : CancelPayableResult} {db' : CoverageDb}
    (h : cancelPayable db payableId reason actor now = .ok (result, db')) :
    ∃ payable, db.payables.find? payableId = some payable ∧
      ((payable.status = .cancelled ∧ db' = db) ∨
        (payable.status ≠ .cancelled ∧ payable.status ≠ .paid ∧
          db.findLiveSettlement payable.id = none ∧
          db' = { db with payables := db.payables.put (payable.cancel reason actor now) })) := by
  unfold cancelPayable CoverageDb.lockPayable at h
  obtain ⟨payable, hfind, h⟩ := orFail_bind_eq_ok.mp h
  refine ⟨payable, hfind, ?_⟩
  by_cases hc : payable.status = .cancelled
  · rw [if_pos hc] at h
    exact .inl ⟨hc, (congrArg Prod.snd (pure_eq_ok.mp h)).symm⟩
  · rw [if_neg hc] at h
    obtain ⟨hpaid, h⟩ := failIf_bind_eq_ok.mp h
    obtain ⟨hlive, h⟩ := failIf_bind_eq_ok.mp h
    have hnone : db.findLiveSettlement payable.id = none := by simpa using hlive
    exact .inr ⟨hc, hpaid, hnone, (congrArg Prod.snd (pure_eq_ok.mp h)).symm⟩

end Cancel

end AtlasErp
