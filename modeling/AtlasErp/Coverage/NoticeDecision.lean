import AtlasErp.Coverage.Scheduling

/-! # Deciding a payment notice

The one transition of a notice from REPORTED to CONFIRMED or REJECTED, and what it drags along in
the installment.  It has two doors: the review queue and the decision events of Core; both call
`applyNoticeDecision`, and both must have seen that there is no live coverage before they confirm.

- `hasLiveCoverage_eq_false`: what the check of the callers says;
- `applyNoticeDecision_db`: the notice and the installment are all a decision writes. -/

namespace AtlasErp

open Lib

section Decision

variable (db : CoverageDb)

/-- Does the installment have a payable that is not cancelled, or is it covered by ATLAS? -/
def hasLiveCoverage (installment : Installment) : Bool :=
  installment.status = .coveredByAtlas || (db.livePayable installment.id).isSome

/-- A confirmed notice of an installment. -/
def ConsumerPaymentToMerchant.confirmedFor (notice : ConsumerPaymentToMerchant) (installmentId : Nat) :
    Bool :=
  notice.installmentId = some installmentId ∧ notice.status = .confirmed

/-- The sum of the confirmed notices of an installment. -/
def confirmedMinorOf (installmentId : Nat) : Int :=
  ((db.notices.rowsWhere (·.confirmedFor installmentId)).map (·.amount)).sum

/-- A notice of an installment that nobody decided. -/
def ConsumerPaymentToMerchant.pendingFor (notice : ConsumerPaymentToMerchant) (installmentId : Nat) :
    Bool :=
  notice.installmentId = some installmentId ∧ notice.status = .reported

/-- What the callers of the decision pass. -/
structure NoticeDecisionInput where
  installment : Installment
  notice : ConsumerPaymentToMerchant
  /-- Reported notices of the installment before the decision. -/
  pendingCount : Nat
  confirming : Bool
  decidedByUserId : Option UserId
  note : String
  now : Instant
  deriving DecidableEq

/-- What the decision answers, with the two rows as it left them. -/
structure NoticeDecisionResult where
  confirmedMinor : Int
  stillPending : Int
  notice : ConsumerPaymentToMerchant
  installment : Installment
  deriving DecidableEq

/-- The notice, decided. -/
def NoticeDecisionInput.decidedNotice (input : NoticeDecisionInput) : ConsumerPaymentToMerchant :=
  { input.notice with
    status := if input.confirming then .confirmed else .rejected
    decidedByUserId := input.decidedByUserId
    decidedAt := some input.now
    decisionNote := some input.note }

/-- The installment after a decision, given the sum confirmed and the notices still pending. -/
def NoticeDecisionInput.decidedInstallment (input : NoticeDecisionInput) (confirmedMinor : Int)
    (stillPending : Int) : Installment :=
  if input.confirming ∧ confirmedMinor ≥ input.installment.amount then
    { input.installment with
      status := .paidToMerchant
      paidToMerchantAt := some input.notice.paidAt }
  else if input.confirming = false ∧ stillPending = 0 ∧ input.installment.status = .scheduled ∧
      isPastDue input.installment.dueDate (businessDate input.now) then
    -- the notice was all that kept the installment from being overdue
    { input.installment with status := .overdue }
  else input.installment

/-- Decide a notice. -/
def applyNoticeDecision (input : NoticeDecisionInput) : NoticeDecisionResult × CoverageDb :=
  let notices := db.notices.put input.decidedNotice
  let confirmedMinor := confirmedMinorOf { db with notices } input.installment.id
  let stillPending : Int := input.pendingCount - 1
  let installment := input.decidedInstallment confirmedMinor stillPending
  (⟨confirmedMinor, stillPending, input.decidedNotice, installment⟩,
    { db with notices, installments := db.installments.put installment })

variable {db} {input : NoticeDecisionInput}

theorem hasLiveCoverage_eq_false {installment : Installment} :
    hasLiveCoverage db installment = false ↔
      installment.status ≠ .coveredByAtlas ∧ db.livePayable installment.id = none := by
  simp [hasLiveCoverage]

/-- Nothing in force on an installment, said of the rows. -/
theorem livePayable_eq_none {installmentId : Nat} :
    db.livePayable installmentId = none ↔
      ∀ p ∈ db.payables, p.isLive = true → p.installmentId ≠ installmentId := by
  rw [CoverageDb.livePayable, Table.findBy_eq_none]
  constructor
  · intro h p hp hlive hid
    simpa [hlive, hid] using h p hp
  · intro h p hp
    simpa [imp_not_comm] using fun hid hlive => h p hp hlive hid

theorem confirmedMinorOf_eq (installmentId : Nat) :
    confirmedMinorOf db installmentId =
      db.notices.total (fun n => if n.confirmedFor installmentId then n.amount else 0) :=
  Table.sum_rowsWhere _ _

/-- Replacing a notice moves the sums confirmed by the difference of the two notices. -/
theorem confirmedMinorOf_put {old : ConsumerPaymentToMerchant} (notice : ConsumerPaymentToMerchant)
    (hold : old ∈ db.notices) (hid : notice.id = old.id) (installmentId : Nat)
    (installments : Table Installment) :
    confirmedMinorOf { db with notices := db.notices.put notice, installments } installmentId =
      confirmedMinorOf db installmentId - (if old.confirmedFor installmentId then old.amount else 0) +
        (if notice.confirmedFor installmentId then notice.amount else 0) := by
  rw [confirmedMinorOf_eq, confirmedMinorOf_eq]
  exact Table.total_put hold hid _

/-- A new reported notice adds nothing to the sums confirmed. -/
theorem confirmedMinorOf_create {row : Nat → ConsumerPaymentToMerchant} (hid : ∀ k, (row k).id = k)
    (hreported : ∀ k, (row k).status = .reported) (installmentId : Nat) :
    confirmedMinorOf { db with notices := db.notices.create row } installmentId =
      confirmedMinorOf db installmentId := by
  rw [confirmedMinorOf_eq, confirmedMinorOf_eq]
  refine (Table.total_create _ hid).trans ?_
  simp [ConsumerPaymentToMerchant.confirmedFor, hreported]

@[simp] theorem decidedInstallment_id (confirmedMinor : Int) (stillPending : Int) :
    (input.decidedInstallment confirmedMinor stillPending).id = input.installment.id := by
  unfold NoticeDecisionInput.decidedInstallment
  split
  · rfl
  · split <;> rfl

@[simp] theorem decidedInstallment_amount (confirmedMinor : Int) (stillPending : Int) :
    (input.decidedInstallment confirmedMinor stillPending).amount = input.installment.amount := by
  unfold NoticeDecisionInput.decidedInstallment
  split
  · rfl
  · split <;> rfl

/-- A decision never makes an installment covered by ATLAS. -/
theorem decidedInstallment_covered {confirmedMinor : Int} {stillPending : Int}
    (h : (input.decidedInstallment confirmedMinor stillPending).status = .coveredByAtlas) :
    input.decidedInstallment confirmedMinor stillPending = input.installment := by
  unfold NoticeDecisionInput.decidedInstallment at h ⊢
  split
  · rename_i hc
    simp [hc] at h
  · rename_i hc
    rw [if_neg hc] at h
    split
    · rename_i hr
      simp [hr] at h
    · rfl

/-- A decision writes the notice and the installment, and nothing else. -/
theorem applyNoticeDecision_db :
    (applyNoticeDecision db input).2 =
      { db with
        notices := db.notices.put input.decidedNotice
        installments := db.installments.put (applyNoticeDecision db input).1.installment } := rfl

end Decision

end AtlasErp
