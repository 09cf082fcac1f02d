import AtlasErp.Common.EventInbox
import AtlasErp.Lib.Table

/-! # The tables of BNPL coverage

The rows that coverage reads and writes, and `CoverageDb`, the state of the database that the
operations of this area share.  Enumerations keep the words of the source; a column the operations
neither read nor write is left out. -/

namespace AtlasErp

open Lib

/-! ## Enumerations -/

/-- `bnpl_purchases.status`. -/
inductive PurchaseStatus where
  | pending
  | confirmed
  | cancelled
  deriving DecidableEq

/-- `bnpl_installments.status`, a free text column: `cancelled` is not in the enumeration, but the
eligibility of a coverage tests it. -/
inductive InstallmentStatus where
  | scheduled
  | paidToMerchant
  | overdue
  | coveredByAtlas
  | cancelled
  deriving DecidableEq

/-- `merchant_payables.status`. -/
inductive PayableStatus where
  | scheduled
  | due
  | paid
  | cancelled
  | disputed
  deriving DecidableEq

/-- `consumer_recovery_receivables.recovery_status`. -/
inductive RecoveryStatus where
  | open
  | inCollection
  | partiallyRecovered
  | recovered
  | writtenOff
  deriving DecidableEq

/-- `b2b_contracts.status`, as far as coverage tells the values apart. -/
inductive ContractStatus where
  | active
  | notActive
  deriving DecidableEq

/-- States of a notice that the consumer paid the merchant. -/
inductive PaymentNoticeStatus where
  | reported
  | confirmed
  | rejected
  deriving DecidableEq

/-- `merchant_payable_settlements.status`. -/
inductive SettlementStatus where
  | pendingApproval
  | confirmed
  | rejected
  deriving DecidableEq

/-- `consumer_recovery_movements.movement_type`. -/
inductive RecoveryMovementType where
  | payment
  | reversal
  deriving DecidableEq

/-- Why an installment is in the review queue. -/
inductive CoverageReviewReason where
  | paymentNoticeUnresolved
  | coverageWithPendingNotice
  | contractNotActive
  | latePaymentWithCoverage
  deriving DecidableEq

/-- How an item of the review queue was closed. -/
inductive CoverageReviewResolution where
  | coverageScheduled
  | noticeConfirmed
  | noticeRejected
  | dismissed
  deriving DecidableEq

/-- `coverage_review_items.status`. -/
inductive ReviewItemStatus where
  | open
  | resolved
  deriving DecidableEq

/-- The status as the source writes it. -/
def PurchaseStatus.text : PurchaseStatus → String
  | .pending => "PENDING"
  | .confirmed => "CONFIRMED"
  | .cancelled => "CANCELLED"

/-- The status as the source writes it. -/
def InstallmentStatus.text : InstallmentStatus → String
  | .scheduled => "SCHEDULED"
  | .paidToMerchant => "PAID_TO_MERCHANT"
  | .overdue => "OVERDUE"
  | .coveredByAtlas => "COVERED_BY_ATLAS"
  | .cancelled => "CANCELLED"

/-- The status as the source writes it. -/
def PayableStatus.text : PayableStatus → String
  | .scheduled => "SCHEDULED"
  | .due => "DUE"
  | .paid => "PAID"
  | .cancelled => "CANCELLED"
  | .disputed => "DISPUTED"

/-- The status as the source writes it. -/
def SettlementStatus.text : SettlementStatus → String
  | .pendingApproval => "PENDING_APPROVAL"
  | .confirmed => "CONFIRMED"
  | .rejected => "REJECTED"

/-- The resolution as the source writes it. -/
def CoverageReviewResolution.text : CoverageReviewResolution → String
  | .coverageScheduled => "COVERAGE_SCHEDULED"
  | .noticeConfirmed => "NOTICE_CONFIRMED"
  | .noticeRejected => "NOTICE_REJECTED"
  | .dismissed => "DISMISSED"

/-! ## Rows -/

/-- `b2b_contracts` joined to one of its versions. -/
structure ContractVersion where
  id : Nat
  contractId : Nat
  contractStatus : ContractStatus
  versionNumber : Nat
  deriving DecidableEq

/-- `bnpl_purchases`. -/
structure Purchase where
  id : Nat
  merchantAccountId : Nat
  consumerId : Nat
  contractVersionId : Nat
  status : PurchaseStatus
  deriving DecidableEq

/-- `bnpl_installments`. -/
structure Installment where
  id : Nat
  purchaseId : Nat
  dueDate : Day
  amount : Int
  status : InstallmentStatus
  paidToMerchantAt : Option Instant
  deriving DecidableEq

/-- `consumer_payments_to_merchant`: a notice that the consumer paid the merchant. -/
structure ConsumerPaymentToMerchant where
  id : Nat
  purchaseId : Nat
  installmentId : Option Nat
  amount : Int
  paidAt : Instant
  evidenceRef : Option String
  status : PaymentNoticeStatus
  createdAt : Instant
  decidedByUserId : Option UserId
  decidedAt : Option Instant
  decisionNote : Option String
  coreTenantId : Option Nat
  coreClaimId : Option Nat
  deriving DecidableEq

/-- What the eligibility decision read, kept in the payable or in the review item. -/
structure EligibilityEvidence where
  businessDate : Day
  dueDate : Day
  installmentStatus : InstallmentStatus
  installmentAmount : Int
  confirmedPaidAmount : Int
  eligibleAmount : Int
  confirmedNoticeIds : List Nat
  pendingNoticeIds : List Nat
  rejectedNoticeIds : List Nat
  contract : Option ContractVersion
  deriving DecidableEq

/-- `merchant_payables`: what ATLAS owes the merchant for covering an installment. -/
structure MerchantPayable where
  id : Nat
  accountId : Nat
  purchaseId : Nat
  installmentId : Nat
  reason : String
  amount : Int
  currency : String
  scheduledPaymentDate : Day
  paidAt : Option Instant
  status : PayableStatus
  requestedByUserId : Option UserId
  contractVersionId : Option Nat
  businessDate : Option Day
  eligibilityEvidence : Option EligibilityEvidence
  cancelledAt : Option Instant
  cancelledByUserId : Option UserId
  cancellationReason : Option String
  deriving DecidableEq

/-- `merchant_payable_settlements`. -/
structure MerchantPayableSettlement where
  id : Nat
  merchantPayableId : Nat
  settlementReference : String
  amount : Int
  currency : String
  beneficiaryAccountId : Nat
  paidAt : Instant
  evidenceFileId : Nat
  status : SettlementStatus
  registeredByUserId : UserId
  decidedByUserId : Option UserId
  decidedAt : Option Instant
  decisionNote : Option String
  deriving DecidableEq

/-- `consumer_recovery_receivables`: what the consumer owes ATLAS for a covered installment. -/
structure ConsumerRecovery where
  id : Nat
  consumerId : Nat
  purchaseId : Nat
  installmentId : Nat
  merchantPayableId : Nat
  amountCoveredByAtlas : Int
  amountRecovered : Int
  coveragePaidAt : Option Instant
  recoveryStatus : RecoveryStatus
  currency : String
  deriving DecidableEq

/-- `consumer_recovery_movements`, append-only. -/
structure ConsumerRecoveryMovement where
  id : Nat
  recoveryId : Nat
  installmentId : Nat
  movementType : RecoveryMovementType
  paymentReference : String
  amount : Int
  currency : String
  reversesMovementId : Option Nat
  receivedAt : Instant
  recordedByUserId : Option UserId
  reason : Option String
  deriving DecidableEq

/-- The `details` column of a review item, by who opened it. -/
inductive ReviewDetails where
  | eligibility (evidence : EligibilityEvidence) (requestedReason : String)
  | sweep (noticeIds : List Nat) (reviewAfterHours : Int)
  | core (noticeId coreClaimId : Nat) (coreClaimCode : String) (coreLoanPaymentId : Nat)
      (amount : Int) (installmentStatus : InstallmentStatus)
  deriving DecidableEq

/-- `coverage_review_items`. -/
structure CoverageReviewItem where
  id : Nat
  installmentId : Nat
  reason : CoverageReviewReason
  status : ReviewItemStatus
  details : ReviewDetails
  openedByUserId : Option UserId
  openedAt : Instant
  resolvedAt : Option Instant
  resolvedByUserId : Option UserId
  resolutionNote : Option String
  resolution : Option CoverageReviewResolution
  deriving DecidableEq

/-- `core_installment_links`: an installment of the ERP and the one of Core it comes from. -/
structure CoreInstallmentLink where
  erpPurchaseId : Nat
  erpInstallmentId : Nat
  coreTenantId : Nat
  coreLoanId : Nat
  coreInstallmentId : Nat
  deriving DecidableEq

/-- Why an event of Core could not be applied. -/
inductive ExceptionReason where
  | unlinkedInstallment
  | currencyMismatch
  | conflictingDecision
  deriving DecidableEq

/-- `core_event_exceptions`, unique by event key. -/
structure CoreEventException where
  eventKey : String
  topic : String
  reason : ExceptionReason
  coreTenantId : Nat
  coreInstallmentId : Nat
  coreClaimId : Nat
  deriving DecidableEq

/-- The payload of the events that coverage writes. -/
inductive CoveragePayload where
  /-- `b2b.coverage.settled`. -/
  | settled (payableId installmentId purchaseId merchantAccountId consumerId settlementId : Nat)
      (settlementReference : String) (amount : Int) (currency : String) (paidAt : Instant)
      (recoveryId : Nat) (coreRef : Option CoreInstallmentLink)
  /-- `b2b.recovery.payment_applied` and `b2b.recovery.payment_reversed`. -/
  | movement (recoveryId installmentId consumerId movementId : Nat)
      (movementType : RecoveryMovementType) (paymentReference : String) (amount : Int)
      (currency : String) (amountRecovered : Int) (recoveryStatus : RecoveryStatus)
      (coreRef : Option CoreInstallmentLink)
  deriving DecidableEq

/-- `event_outbox`, unique by event key, as the coverage operations write it. -/
structure CoverageOutboxEvent where
  topic : String
  aggregateType : String
  aggregateId : Nat
  eventKey : String
  payload : CoveragePayload
  deriving DecidableEq

/-- `business_action_logs`, as the settlement operations write it. -/
structure SettlementAction where
  actionCode : String
  actorUserId : UserId
  payableId : Nat
  settlementId : Nat
  inputSummary : List (String × Option String)
  deriving DecidableEq

/-- Status of a file of evidence. -/
inductive FileStatus where
  | active
  | notActive
  deriving DecidableEq

instance : HasKey ContractVersion := ⟨(·.id), fun k r => { r with id := k }, fun _ _ => rfl, fun _ => rfl⟩
instance : HasKey Purchase := ⟨(·.id), fun k r => { r with id := k }, fun _ _ => rfl, fun _ => rfl⟩
instance : HasKey Installment := ⟨(·.id), fun k r => { r with id := k }, fun _ _ => rfl, fun _ => rfl⟩
instance : HasKey ConsumerPaymentToMerchant := ⟨(·.id), fun k r => { r with id := k }, fun _ _ => rfl, fun _ => rfl⟩
instance : HasKey MerchantPayable := ⟨(·.id), fun k r => { r with id := k }, fun _ _ => rfl, fun _ => rfl⟩
instance : HasKey MerchantPayableSettlement := ⟨(·.id), fun k r => { r with id := k }, fun _ _ => rfl, fun _ => rfl⟩
instance : HasKey ConsumerRecovery := ⟨(·.id), fun k r => { r with id := k }, fun _ _ => rfl, fun _ => rfl⟩
instance : HasKey ConsumerRecoveryMovement := ⟨(·.id), fun k r => { r with id := k }, fun _ _ => rfl, fun _ => rfl⟩
instance : HasKey CoverageReviewItem := ⟨(·.id), fun k r => { r with id := k }, fun _ _ => rfl, fun _ => rfl⟩

section Keys

@[simp] theorem key_installment (r : Installment) : HasKey.key r = r.id := rfl
@[simp] theorem key_notice (r : ConsumerPaymentToMerchant) : HasKey.key r = r.id := rfl
@[simp] theorem key_payable (r : MerchantPayable) : HasKey.key r = r.id := rfl
@[simp] theorem key_settlement (r : MerchantPayableSettlement) : HasKey.key r = r.id := rfl
@[simp] theorem key_recovery (r : ConsumerRecovery) : HasKey.key r = r.id := rfl
@[simp] theorem key_movement (r : ConsumerRecoveryMovement) : HasKey.key r = r.id := rfl
@[simp] theorem key_reviewItem (r : CoverageReviewItem) : HasKey.key r = r.id := rfl

end Keys

/-! ## The database -/

/-- The tables coverage shares.  Contracts, purchases, links and files are written elsewhere. -/
structure CoverageDb where
  contractVersions : Table ContractVersion
  purchases : Table Purchase
  coreLinks : List CoreInstallmentLink
  files : List (Nat × FileStatus)
  installments : Table Installment
  notices : Table ConsumerPaymentToMerchant
  payables : Table MerchantPayable
  settlements : Table MerchantPayableSettlement
  recoveries : Table ConsumerRecovery
  movements : Table ConsumerRecoveryMovement
  reviewItems : Table CoverageReviewItem
  inbox : EventInbox
  exceptions : List CoreEventException
  outbox : List CoverageOutboxEvent
  actionLog : List SettlementAction
  deriving DecidableEq

/-- A payable that is not cancelled is in force. -/
def MerchantPayable.isLive (p : MerchantPayable) : Bool := p.status ≠ .cancelled

/-- A settlement that was not rejected stands. -/
def MerchantPayableSettlement.isLive (s : MerchantPayableSettlement) : Bool := s.status ≠ .rejected

/-- Write an event with the transaction of the change; `ON CONFLICT (event_key) DO NOTHING`. -/
def CoverageDb.writeOutboxEvent (db : CoverageDb) (event : CoverageOutboxEvent) : CoverageDb :=
  { db with
    outbox := if db.outbox.any (·.eventKey = event.eventKey) then db.outbox else db.outbox ++ [event] }

/-- The Core identity of an installment, or nothing when its purchase is not linked to a loan. -/
def CoverageDb.findCoreRef (db : CoverageDb) (installmentId : Nat) : Option CoreInstallmentLink :=
  db.coreLinks.find? (·.erpInstallmentId = installmentId)

/-! The plans of the examples have one purchase, under one version of a contract. -/

theorem oneVersion_nodup : (([⟨1, 1, .active, 1⟩] : List ContractVersion).map HasKey.key).Nodup := by decide

theorem onePurchase_nodup : (([⟨1, 9, 5, 1, .confirmed⟩] : List Purchase).map HasKey.key).Nodup := by decide

end AtlasErp
