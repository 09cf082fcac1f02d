import AtlasErp.Coverage.Model

/-! # May ATLAS cover this installment?

`evaluateCoverageEligibility` is a pure decision with three outcomes, none of which is an implicit
approval: eligible for the balance, rejected, or sent to the review queue.

- `eligible_iff`: exactly when an installment is eligible, and for how much. -/

namespace AtlasErp

/-- What the decision reads of a notice. -/
structure EligibilityNotice where
  id : Nat
  status : PaymentNoticeStatus
  amount : Int
  deriving DecidableEq

/-- What the decision reads. -/
structure EligibilityInput where
  installment : Installment
  purchaseStatus : PurchaseStatus
  contract : Option ContractVersion
  notices : List EligibilityNotice
  hasLivePayable : Bool
  businessDate : Day
  deriving DecidableEq

/-- Codes of a rejection. -/
inductive EligibilityRejection where
  | alreadyCovered
  | alreadyPaid
  | cancelled
  | notDue
  | statusNotEligible
  deriving DecidableEq

/-- The code as the source writes it. -/
def EligibilityRejection.text : EligibilityRejection → String
  | .alreadyCovered => "ALREADY_COVERED"
  | .alreadyPaid => "ALREADY_PAID"
  | .cancelled => "CANCELLED"
  | .notDue => "NOT_DUE"
  | .statusNotEligible => "STATUS_NOT_ELIGIBLE"

/-- The three outcomes. -/
inductive EligibilityOutcome where
  | eligible (eligibleAmount : Int) (evidence : EligibilityEvidence)
  | rejected (code : EligibilityRejection) (message : String)
  | review (reason : CoverageReviewReason) (message : String) (evidence : EligibilityEvidence)
  deriving DecidableEq

namespace EligibilityInput

variable (input : EligibilityInput)

/-- The sum of the confirmed notices. -/
def confirmedMinor : Int :=
  ((input.notices.filter (·.status = .confirmed)).map (·.amount)).sum

/-- What is left of the installment after the confirmed notices. -/
def balanceMinor : Int := input.installment.amount - input.confirmedMinor

/-- The ids of the notices in a status. -/
def noticeIds (status : PaymentNoticeStatus) : List Nat :=
  (input.notices.filter (·.status = status)).map (·.id)

/-- The evidence kept with the decision. -/
def evidence : EligibilityEvidence where
  businessDate := input.businessDate
  dueDate := input.installment.dueDate
  installmentStatus := input.installment.status
  installmentAmount := input.installment.amount
  confirmedPaidAmount := input.confirmedMinor
  eligibleAmount := input.balanceMinor
  confirmedNoticeIds := input.noticeIds .confirmed
  pendingNoticeIds := input.noticeIds .reported
  rejectedNoticeIds := input.noticeIds .rejected
  contract := input.contract

/-- Is the contract of the purchase active? -/
def contractActive : Bool :=
  match input.contract with
  | none => false
  | some contract => contract.contractStatus = .active

end EligibilityInput

/-- The decision, in the order in which the source tests. -/
def evaluateCoverageEligibility (input : EligibilityInput) : EligibilityOutcome :=
  let installment := input.installment
  if input.hasLivePayable ∨ installment.status = .coveredByAtlas then
    .rejected .alreadyCovered "La cuota ya tiene una cobertura ATLAS→comercio vigente."
  else if installment.status = .paidToMerchant then
    .rejected .alreadyPaid "La cuota ya figura pagada al comercio."
  else if installment.status = .cancelled ∨ input.purchaseStatus = .cancelled then
    .rejected .cancelled "La cuota o su compra están canceladas."
  else if ¬(installment.status = .scheduled ∨ installment.status = .overdue) then
    .rejected .statusNotEligible ("La cuota en estado " ++ installment.status.text ++ " no es cubrible.")
  else if input.purchaseStatus ≠ .confirmed then
    .rejected .statusNotEligible ("La compra en estado " ++ input.purchaseStatus.text ++ " no es cubrible.")
  else if isPastDue installment.dueDate input.businessDate = false then
    .rejected .notDue ("La cuota vence el " ++ dateText installment.dueDate ++
      "; el día de negocio es " ++ dateText input.businessDate ++ ".")
  else if input.balanceMinor ≤ 0 then
    .rejected .alreadyPaid "Los pagos confirmados cubren el importe de la cuota."
  else if (input.noticeIds .reported).length > 0 then
    .review .coverageWithPendingNotice
      "La cuota tiene avisos de pago sin confirmar: la cobertura pasa a revisión." input.evidence
  else if input.contractActive = false then
    .review .contractNotActive
      "El contrato de la compra no está activo: la cobertura pasa a revisión." input.evidence
  else .eligible input.balanceMinor input.evidence

/-- What must hold for ATLAS to cover an installment. -/
structure Coverable (input : EligibilityInput) : Prop where
  noLivePayable : input.hasLivePayable = false
  status : input.installment.status = .scheduled ∨ input.installment.status = .overdue
  purchaseConfirmed : input.purchaseStatus = .confirmed
  pastDue : isPastDue input.installment.dueDate input.businessDate = true
  balancePos : 0 < input.balanceMinor
  noPending : input.noticeIds .reported = []
  contractActive : input.contractActive = true

section Eligible

variable {input : EligibilityInput}

/-- **Eligibility.** An installment is eligible exactly when it is coverable, and the amount is its
balance. -/
theorem eligible_iff {amount : Int} {evidence : EligibilityEvidence} :
    evaluateCoverageEligibility input = .eligible amount evidence ↔
      Coverable input ∧ amount = input.balanceMinor ∧ evidence = input.evidence := by
  constructor
  · intro h
    unfold evaluateCoverageEligibility at h
    simp only at h
    split at h; · cases h
    split at h; · cases h
    split at h; · cases h
    split at h; · cases h
    split at h; · cases h
    split at h; · cases h
    split at h; · cases h
    split at h; · cases h
    split at h; · cases h
    rename_i hlive hpaid hcancelled hstatus hpurchase hdue hbalance hpending hcontract
    obtain ⟨rfl, rfl⟩ := EligibilityOutcome.eligible.inj h
    have hnone : (input.noticeIds .reported) = [] := by
      simpa using hpending
    refine ⟨⟨?_, not_not.mp hstatus, not_not.mp hpurchase, ?_, not_le.mp hbalance, hnone, ?_⟩, rfl, rfl⟩
    · simpa using (not_or.mp hlive).1
    · simpa using hdue
    · simpa using hcontract
  · rintro ⟨hc, rfl, rfl⟩
    have hnotCovered : ¬(input.hasLivePayable = true ∨ input.installment.status = .coveredByAtlas) := by
      rcases hc.status with hs | hs <;> simp [hc.noLivePayable, hs]
    have hnotPaid : input.installment.status ≠ .paidToMerchant := by
      rcases hc.status with hs | hs <;> simp [hs]
    have hnotCancelled : input.installment.status ≠ .cancelled := by
      rcases hc.status with hs | hs <;> simp [hs]
    have hbalance : ¬ input.balanceMinor ≤ 0 := not_le.mpr hc.balancePos
    simp [evaluateCoverageEligibility, hnotCovered, hnotPaid, hnotCancelled, hc.status,
      hc.purchaseConfirmed, hc.pastDue, hbalance, hc.noPending, hc.contractActive]

end Eligible

end AtlasErp
