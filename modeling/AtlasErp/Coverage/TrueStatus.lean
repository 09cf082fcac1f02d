import AtlasErp.Coverage.Confluence
import AtlasErp.Coverage.NoDoubleBenefit

/-! # The status of an installment tells the truth

An installment without coverage is paid to the merchant exactly when its confirmed notices reach its amount.

- `noticeSystem`: reviews, events of Core and sweeps, in any order;
- `TruthfulStatuses`: every status is true, and `StaysPaid`: what is paid stays paid;
- `ReachesForeignAmount`: an event of Core confirms a claim of another installment than the one it locks, and with it the
  confirmed notices of that other one reach its amount;
- `truthfulStatuses_of_reachable`: the statuses are true until there is one. -/

namespace AtlasErp

open Lib

/-- The requests that decide notices and mark installments. -/
def CoverageRequest.onNotices : CoverageRequest → Bool
  | .resolveReviewItem .. | .receive .. | .sweep .. => true
  | _ => false

/-- The status says whether the confirmed notices reach the amount. -/
def TrueStatus (db : CoverageDb) (i : Installment) : Prop :=
  i.status = .paidToMerchant ↔ i.amount ≤ confirmedMinorOf db i.id

/-- **The status of every installment without coverage is true.** -/
def TruthfulStatuses (db : CoverageDb) : Prop :=
  ∀ i ∈ db.installments, hasLiveCoverage db i = false → TrueStatus db i

/-- **What is paid stays paid.** -/
def StaysPaid (db db' : CoverageDb) : Prop :=
  ∀ i ∈ db.installments, i.status = .paidToMerchant → ∃ i' ∈ db'.installments, i'.id = i.id ∧ i'.status = .paidToMerchant

/-- These requests in any order, from true statuses. -/
def noticeSystem : Machine CoverageDb CoverageRequest where
  init db := TruthfulStatuses db ∧ ∀ n ∈ db.notices, 0 ≤ n.amount
  step db request := if request.onNotices then some (perform db request) else none

/-- The event confirms a reported claim whose notice is of `foreign`, an installment without coverage that is not the one
of the event, and the notice brings what is confirmed of `foreign` to its amount. -/
structure ReachesForeignAmount (db : CoverageDb) (envelope : CoreEnvelope) (foreign : Installment) : Prop where
  taken : ∃ parsed tenantId link installment verdict existing,
    CoreContext db envelope parsed tenantId link installment ∧ parsed.verdict = some verdict ∧
    verdict.confirming = true ∧ hasLiveCoverage db installment = false ∧
    findClaim db tenantId parsed.claim.claimId = some existing ∧ existing.status = .reported ∧
    existing.installmentId = some foreign.id ∧ foreign.id ≠ installment.id ∧
    foreign.amount ≤ confirmedMinorOf db foreign.id + existing.amount
  mem : foreign ∈ db.installments
  uncovered : hasLiveCoverage db foreign = false
  short : confirmedMinorOf db foreign.id < foreign.amount

/-- No event completes another installment than its own. -/
def CompletesOwnInstallment (db : CoverageDb) (request : CoverageRequest) : Prop :=
  ∀ envelope now, request = .receive envelope now → ∀ foreign, ¬ReachesForeignAmount db envelope foreign

/-! ## Decisions -/

section Decisions

variable {db db' : CoverageDb} {input : NoticeDecisionInput}

theorem TruthfulStatuses.same (h : TruthfulStatuses db) (hsame : SameLedger db db') : TruthfulStatuses db' := by
  obtain ⟨_, _, _, rfl⟩ := hsame
  exact h

theorem StaysPaid.refl (db : CoverageDb) : StaysPaid db db := fun i hi hpaid => ⟨i, hi, rfl, hpaid⟩

theorem StaysPaid.trans {db'' : CoverageDb} (h : StaysPaid db db') (h' : StaysPaid db' db'') : StaysPaid db db'' := by
  intro i hi hpaid
  obtain ⟨i', hi', hid', hpaid'⟩ := h i hi hpaid
  obtain ⟨i'', hi'', hid'', hpaid''⟩ := h' i' hi' hpaid'
  exact ⟨i'', hi'', hid''.trans hid', hpaid''⟩

theorem StaysPaid.same (h : StaysPaid db db') {db'' : CoverageDb} (hsame : SameLedger db' db'') :
    StaysPaid db db'' := by
  obtain ⟨_, _, _, rfl⟩ := hsame
  exact h

theorem confirmedMinorOf_applyNoticeDecision (hnotice : input.notice ∈ db.notices)
    (hreported : input.notice.status = .reported) (installmentId : Nat) :
    confirmedMinorOf (applyNoticeDecision db input).2 installmentId = confirmedMinorOf db installmentId +
      (if input.confirming ∧ input.notice.installmentId = some installmentId then input.notice.amount else 0) :=
  confirmedMinorOf_decide input hnotice hreported installmentId

/-- The status that a decision leaves: paid when the sum is reached, or not changed, or overdue. -/
theorem decidedInstallment_status (input : NoticeDecisionInput) (confirmedMinor stillPending : Int) :
    (input.confirming = true ∧ input.installment.amount ≤ confirmedMinor ∧
        (input.decidedInstallment confirmedMinor stillPending).status = .paidToMerchant) ∨
      (input.confirming = true ∧ confirmedMinor < input.installment.amount ∧
        (input.decidedInstallment confirmedMinor stillPending).status = input.installment.status) ∨
      (input.confirming = false ∧
        ((input.decidedInstallment confirmedMinor stillPending).status = input.installment.status ∨
          input.installment.status = .scheduled ∧
            (input.decidedInstallment confirmedMinor stillPending).status = .overdue)) := by
  unfold NoticeDecisionInput.decidedInstallment
  cases hconfirming : input.confirming with
  | true =>
    by_cases hsum : input.installment.amount ≤ confirmedMinor
    · exact .inl ⟨rfl, hsum, by simp [hsum]⟩
    · exact .inr (.inl ⟨rfl, not_le.mp hsum, by simp [hsum]⟩)
  | false =>
    refine .inr (.inr ⟨rfl, ?_⟩)
    simp only [Bool.false_eq_true, false_and, if_false, true_and]
    split
    · next hlate => exact .inr ⟨hlate.2.1, rfl⟩
    · exact .inl rfl

/-- A decision leaves what is paid as it is. -/
theorem staysPaid_applyNoticeDecision (hinst : input.installment ∈ db.installments) :
    StaysPaid db (applyNoticeDecision db input).2 := by
  intro i hi hpaid
  have hmem : ∀ i', i' ∈ (applyNoticeDecision db input).2.installments ↔
      i' = (applyNoticeDecision db input).1.installment ∨
        i' ∈ db.installments ∧ i'.id ≠ (applyNoticeDecision db input).1.installment.id := fun i' =>
    Table.mem_put hinst (decidedInstallment_id _ _)
  by_cases hid : i.id = input.installment.id
  · obtain rfl : i = input.installment := Table.eq_of_key_eq hi hinst hid
    refine ⟨_, (hmem _).mpr (.inl rfl), decidedInstallment_id _ _, ?_⟩
    rcases decidedInstallment_status input (applyNoticeDecision db input).1.confirmedMinor
      (input.pendingCount - 1) with ⟨-, -, h⟩ | ⟨-, -, h⟩ | ⟨-, h | ⟨hscheduled, -⟩⟩
    · exact h
    · exact h.trans hpaid
    · exact h.trans hpaid
    · rw [hpaid] at hscheduled
      cases hscheduled
  · refine ⟨i, (hmem i).mpr (.inr ⟨hi, fun hother => hid (hother.trans (decidedInstallment_id _ _))⟩), rfl, hpaid⟩

/-- What a decision must not do to be true: complete another installment than the one it is given. -/
def NoticeDecisionInput.CompletesOwn (db : CoverageDb) (input : NoticeDecisionInput) : Prop :=
  input.confirming = true → ∀ j ∈ db.installments, input.notice.installmentId = some j.id →
    j.id ≠ input.installment.id → hasLiveCoverage db j = false → confirmedMinorOf db j.id < j.amount →
      confirmedMinorOf db j.id + input.notice.amount < j.amount

/-- **A decision keeps the statuses true exactly when it completes no other installment.** -/
theorem truthfulStatuses_applyNoticeDecision (input : NoticeDecisionInput) (h : TruthfulStatuses db)
    (hnonneg : 0 ≤ input.notice.amount) (hinst : input.installment ∈ db.installments) (hnotice : input.notice ∈ db.notices)
    (hreported : input.notice.status = .reported)
    (huncovered : input.confirming = true → hasLiveCoverage db input.installment = false) :
    TruthfulStatuses (applyNoticeDecision db input).2 ↔ input.CompletesOwn db := by
  have hsum := confirmedMinorOf_applyNoticeDecision hnotice hreported
  have hmem : ∀ i', i' ∈ (applyNoticeDecision db input).2.installments ↔
      i' = (applyNoticeDecision db input).1.installment ∨
        i' ∈ db.installments ∧ i'.id ≠ (applyNoticeDecision db input).1.installment.id := fun i' =>
    Table.mem_put hinst (decidedInstallment_id _ _)
  have hid : (applyNoticeDecision db input).1.installment.id = input.installment.id := decidedInstallment_id _ _
  constructor
  · intro htrue hconfirming j hj hof hother hjuncovered hshort
    have hj' : j ∈ (applyNoticeDecision db input).2.installments := (hmem j).mpr (.inr ⟨hj, hid ▸ hother⟩)
    have hunpaid : j.status ≠ .paidToMerchant := fun hpaid =>
      absurd ((h j hj hjuncovered).mp hpaid) (not_le.mpr hshort)
    have hafter := mt (htrue j hj' hjuncovered).mpr hunpaid
    rw [hsum, if_pos ⟨hconfirming, hof⟩] at hafter
    exact not_le.mp hafter
  · intro hown i' hi' hcovered'
    rcases (hmem i').mp hi' with rfl | ⟨hi, hne⟩
    · -- the installment of the decision
      have hafter := hsum input.installment.id
      have hcovered : hasLiveCoverage db input.installment = false := by
        obtain ⟨hstatus', hnone⟩ := hasLiveCoverage_eq_false.mp hcovered'
        rw [hid] at hnone
        refine hasLiveCoverage_eq_false.mpr ⟨fun hstatus => ?_, hnone⟩
        rcases decidedInstallment_status input (applyNoticeDecision db input).1.confirmedMinor (input.pendingCount - 1) with
          ⟨hconfirming, -⟩ | ⟨hconfirming, -⟩ | ⟨-, hsame | ⟨hscheduled, -⟩⟩
        · exact (hasLiveCoverage_eq_false.mp (huncovered hconfirming)).1 hstatus
        · exact (hasLiveCoverage_eq_false.mp (huncovered hconfirming)).1 hstatus
        · exact hstatus' (hsame.trans hstatus)
        · exact absurd (hstatus.symm.trans hscheduled) (by decide)
      have htrue := h _ hinst hcovered
      have hamount : (applyNoticeDecision db input).1.installment.amount = input.installment.amount :=
        decidedInstallment_amount _ _
      have hle : confirmedMinorOf db input.installment.id ≤
          confirmedMinorOf (applyNoticeDecision db input).2 input.installment.id := by
        rw [hafter]
        split <;> omega
      unfold TrueStatus at htrue ⊢
      rw [hamount, hid]
      rcases decidedInstallment_status input
        (confirmedMinorOf (applyNoticeDecision db input).2 input.installment.id) (input.pendingCount - 1) with
        ⟨-, hreached, hpaid⟩ | ⟨-, hshort, hsame⟩ | ⟨hrejecting, hstatus⟩
      · exact iff_of_true hpaid hreached
      · have hunpaid : input.installment.status ≠ .paidToMerchant := fun hpaid =>
          absurd (htrue.mp hpaid) (not_le.mpr (hle.trans_lt hshort))
        exact iff_of_false (fun hpaid => hunpaid (hsame.symm.trans hpaid)) (not_le.mpr hshort)
      · have hequal : confirmedMinorOf (applyNoticeDecision db input).2 input.installment.id =
            confirmedMinorOf db input.installment.id := by
          rw [hafter, if_neg (fun hconfirms => absurd (hrejecting.symm.trans hconfirms.1) Bool.false_ne_true), add_zero]
        rw [hequal]
        rcases hstatus with hsame | ⟨hscheduled, hoverdue⟩
        · exact (show _ = _ from hsame) ▸ htrue
        · have hunpaid : input.installment.status ≠ .paidToMerchant := by rw [hscheduled]; decide
          refine iff_of_false (fun hpaid => ?_) (mt htrue.mpr hunpaid)
          exact absurd (hoverdue.symm.trans hpaid) (by decide)
    · -- another one: its row is as it was
      rw [hid] at hne
      have htrue := h i' hi hcovered'
      unfold TrueStatus at htrue ⊢
      rw [hsum]
      split
      · next hconfirms =>
        have hbelow := hown hconfirms.1 i' hi hconfirms.2 hne hcovered'
        rw [htrue]
        omega
      · rw [add_zero]
        exact htrue

end Decisions

/-! ## Steps -/

section Steps

variable {db db' : CoverageDb} {request : CoverageRequest} {envelope : CoreEnvelope} {parsed : CoreParsed}
  {tenantId : Nat} {now : Instant} {link : CoreInstallmentLink} {installment : Installment}

/-- A decision on a notice of its own installment completes no other. -/
theorem NoticeDecisionInput.completesOwn {input : NoticeDecisionInput}
    (h : input.notice.installmentId = some input.installment.id) : input.CompletesOwn db :=
  fun _ _ _ hof hother => absurd (Option.some.inj (hof.symm.trans h)) hother

theorem TruthfulStatuses.withCoreNotice (h : TruthfulStatuses db) :
    TruthfulStatuses (withCoreNotice db envelope parsed tenantId now link installment) := by
  intro i hi hcovered
  have hsum : confirmedMinorOf (AtlasErp.withCoreNotice db envelope parsed tenantId now link installment) i.id =
      confirmedMinorOf db i.id := confirmedMinorOf_create (fun _ => rfl) (fun _ => rfl) i.id
  unfold TrueStatus
  rw [hsum]
  exact h i hi hcovered

/-- Marking scheduled installments overdue. -/
theorem TruthfulStatuses.sweep (h : TruthfulStatuses db) {aMarcar : List Nat} {reviewItems : Table CoverageReviewItem}
    (hscheduled : ∀ i ∈ db.installments, aMarcar.contains i.id = true → i.status = .scheduled) :
    TruthfulStatuses { db with
      reviewItems
      installments := db.installments.updateWhere (fun i => aMarcar.contains i.id)
        (fun i => { i with status := .overdue }) } := by
  intro i' hi' hcovered'
  obtain ⟨i, hi, rfl⟩ := (Table.mem_updateWhere ..).mp hi'
  by_cases hmark : aMarcar.contains i.id = true
  · simp only [hmark, if_true] at hcovered' ⊢
    have hstatus := hscheduled i hi hmark
    have hcovered : hasLiveCoverage db i = false :=
      hasLiveCoverage_eq_false.mpr ⟨by rw [hstatus]; decide, (hasLiveCoverage_eq_false.mp hcovered').2⟩
    have hunpaid : ¬ i.status = .paidToMerchant := by rw [hstatus]; decide
    exact iff_of_false (show ¬ InstallmentStatus.overdue = .paidToMerchant by decide)
      (mt (h i hi hcovered).mpr hunpaid)
  · simp only [hmark, if_false, Bool.false_eq_true] at hcovered' ⊢
    exact h i hi hcovered'

theorem StaysPaid.sweep {aMarcar : List Nat} {reviewItems : Table CoverageReviewItem}
    (hscheduled : ∀ i ∈ db.installments, aMarcar.contains i.id = true → i.status = .scheduled) :
    StaysPaid db { db with
      reviewItems
      installments := db.installments.updateWhere (fun i => aMarcar.contains i.id)
        (fun i => { i with status := .overdue }) } := by
  intro i hi hpaid
  have hunmarked : aMarcar.contains i.id ≠ true := fun hmark =>
    absurd ((hscheduled i hi hmark).symm.trans hpaid) (by decide)
  exact ⟨i, (Table.mem_updateWhere ..).mpr ⟨i, hi, if_neg hunmarked⟩, rfl, hpaid⟩

/-- **What a request does to the statuses**; it keeps them true when it completes no other installment. -/
structure StatusStep (own : Prop) (db db' : CoverageDb) : Prop where
  truthful : own → TruthfulStatuses db → TruthfulStatuses db'
  nonneg : ∀ n ∈ db'.notices, 0 ≤ n.amount
  stays : StaysPaid db db'

variable {own : Prop}

theorem StatusStep.same (h : StatusStep own db db') {db'' : CoverageDb} (hsame : SameLedger db' db'') :
    StatusStep own db db'' := by
  obtain ⟨_, _, _, rfl⟩ := hsame
  exact ⟨h.truthful, h.nonneg, h.stays⟩

theorem StatusStep.refl (hnonneg : ∀ n ∈ db.notices, 0 ≤ n.amount) : StatusStep own db db :=
  ⟨fun _ => id, hnonneg, .refl db⟩

theorem StatusStep.decide (input : NoticeDecisionInput) (hnonneg : ∀ n ∈ db.notices, 0 ≤ n.amount)
    (hinst : input.installment ∈ db.installments) (hnotice : input.notice ∈ db.notices)
    (hreported : input.notice.status = .reported)
    (huncovered : input.confirming = true → hasLiveCoverage db input.installment = false)
    (hown : own → input.CompletesOwn db) : StatusStep own db (applyNoticeDecision db input).2 where
  truthful how h :=
    (truthfulStatuses_applyNoticeDecision input h (hnonneg _ hnotice) hinst hnotice hreported huncovered).mpr (hown how)
  nonneg n hn := by
    rcases (Table.mem_put (r := input.decidedNotice) hnotice rfl).mp hn with rfl | ⟨hn, -⟩
    · exact hnonneg input.notice hnotice
    · exact hnonneg n hn
  stays := staysPaid_applyNoticeDecision hinst

theorem StatusStep.withCoreNotice (hnonneg : ∀ n ∈ db.notices, 0 ≤ n.amount) :
    StatusStep own db (withCoreNotice db envelope parsed tenantId now link installment) where
  truthful _ h := h.withCoreNotice
  nonneg n hn := by
    rcases (Table.mem_create fun _ => rfl).mp hn with hn | rfl
    · exact hnonneg n hn
    · exact parsed.claim.amount.property.le
  stays := fun i hi hpaid => ⟨i, hi, rfl, hpaid⟩

theorem StatusStep.trans {db'' : CoverageDb} (h : StatusStep own db db') (h' : StatusStep own db' db'') :
    StatusStep own db db'' :=
  ⟨fun how htrue => h'.truthful how (h.truthful how htrue), h'.nonneg, h.stays.trans h'.stays⟩

/-- The decision of an event on a known claim. -/
theorem CompletesOwnInstallment.completesOwn (h : CompletesOwnInstallment db (.receive envelope now))
    (ctx : CoreContext db envelope parsed tenantId link installment) {verdict : CoreVerdict}
    {existing : ConsumerPaymentToMerchant} (hverdict : parsed.verdict = some verdict)
    (hknown : findClaim db tenantId parsed.claim.claimId = some existing) (hpending : existing.status = .reported)
    (huncovered : verdict.confirming = true → hasLiveCoverage db installment = false) :
    (coreDecision db parsed verdict installment existing).CompletesOwn db := by
  intro hconfirming j hj hof hother hcovered hshort
  by_contra hreached
  exact h envelope now rfl j ⟨⟨parsed, tenantId, link, installment, verdict, existing, ctx, hverdict, hconfirming,
    huncovered hconfirming, hknown, hpending, hof, hother, not_lt.mp hreached⟩, hj, hcovered, hshort⟩

/-- **Step.** -/
theorem statusStep_of_step (hkind : request.onNotices = true) (hnonneg : ∀ n ∈ db.notices, 0 ≤ n.amount)
    (hstep : CoverageStep db request db') : StatusStep (CompletesOwnInstallment db request) db db' := by
  cases hstep with
  | quiet same => exact (StatusStep.refl hnonneg).same same
  | reviewed review =>
    have hpending := review.pending
    simp only [ConsumerPaymentToMerchant.pendingFor, decide_eq_true_eq] at hpending
    exact (StatusStep.decide _ hnonneg (Table.find?_eq_some.mp review.installment_mem).1 review.notice_mem hpending.2
      review.uncovered fun _ => NoticeDecisionInput.completesOwn hpending.1).same (.of_reviewItems rfl)
  | @received envelope now _ hreceive =>
    cases hreceive with
    | quiet same => exact (StatusStep.refl hnonneg).same same
    | reported ctx _ same => exact (StatusStep.withCoreNotice hnonneg).same same
    | @decided parsed tenantId link installment verdict existing _ ctx hverdict hknown hpending huncovered same =>
      exact (StatusStep.decide (coreDecision db parsed verdict installment existing) hnonneg
        (Table.find?_eq_some.mp ctx.installment_eq).1 (Table.findBy_eq_some hknown).1 hpending huncovered
        fun how => how.completesOwn ctx hverdict hknown hpending huncovered).same same
    | @createdDecided parsed tenantId link installment verdict _ ctx hverdict _ huncovered same =>
      have hcreated : StatusStep (CompletesOwnInstallment db (.receive envelope now)) db
          (withCoreNotice db envelope parsed tenantId now link installment) := .withCoreNotice hnonneg
      exact (hcreated.trans (.decide _ hcreated.nonneg (Table.find?_eq_some.mp ctx.installment_eq).1
        ((Table.mem_create fun _ => rfl).mpr (.inr rfl)) rfl huncovered
        fun _ => NoticeDecisionInput.completesOwn rfl)).same same
  | swept hscheduled => exact ⟨fun _ h => h.sweep hscheduled, hnonneg, .sweep hscheduled⟩
  | _ => cases hkind

/-- An event that decides a known claim without coverage applies the decision. -/
theorem applyToInstallment_decided {verdict : CoreVerdict} {existing : ConsumerPaymentToMerchant}
    (hverdict : parsed.verdict = some verdict) (hknown : findClaim db tenantId parsed.claim.claimId = some existing)
    (hpending : existing.status = .reported) (huncovered : hasLiveCoverage db installment = false) :
    (applyToInstallment db envelope parsed tenantId now link installment).2 =
      (applyNoticeDecision db (coreDecision db parsed verdict installment existing)).2 := by
  have htarget : PaymentNoticeStatus.reported ≠ verdict.target := by
    unfold CoreVerdict.target
    split <;> decide
  simp only [applyToInstallment, hverdict, hknown, if_neg htarget, hpending, ne_eq, not_true_eq_false, if_false,
    decideClaim, huncovered, Bool.false_eq_true, and_false]

/-- An event that completes another installment leaves its status untrue. -/
theorem not_truthfulStatuses_of_reachesForeignAmount {foreign : Installment} (h : TruthfulStatuses db)
    (hnonneg : ∀ n ∈ db.notices, 0 ≤ n.amount) (hreaches : ReachesForeignAmount db envelope foreign) :
    ¬ TruthfulStatuses (perform db (.receive envelope now)) := by
  obtain ⟨⟨parsed, tenantId, link, installment, verdict, existing, ctx, hverdict, hconfirming, huncovered, hknown,
    hpending, hof, hother, hreached⟩, hmem, hcovered, hshort⟩ := hreaches
  obtain ⟨inbox, -, hperform⟩ := perform_receive ctx now
  rw [hperform, applyToInstallment_decided hverdict hknown hpending huncovered]
  intro htrue
  have hown := (truthfulStatuses_applyNoticeDecision (coreDecision db parsed verdict installment existing) h
    (hnonneg existing (Table.findBy_eq_some hknown).1) (Table.find?_eq_some.mp ctx.installment_eq).1
    (Table.findBy_eq_some hknown).1 hpending fun _ => huncovered).mp htrue
  exact absurd (hown hconfirming foreign hmem hof hother hcovered hshort) (not_lt.mpr hreached)

end Steps

/-! ## Runs -/

section Runs

variable {db db' : CoverageDb} {request : CoverageRequest}

theorem noticeSystem_step (h : noticeSystem.step db request = some db') :
    request.onNotices = true ∧ perform db request = db' := by
  obtain ⟨hkind, h⟩ := Option.ite_none_right_eq_some.mp h
  exact ⟨hkind, Option.some.inj h⟩

theorem noticeSystem_statusStep (hnonneg : ∀ n ∈ db.notices, 0 ≤ n.amount) (h : noticeSystem.step db request = some db') :
    StatusStep (CompletesOwnInstallment db request) db db' := by
  obtain ⟨hkind, rfl⟩ := noticeSystem_step h
  exact statusStep_of_step hkind hnonneg (perform_step request)

/-- **The status of an installment tells the truth**, in every run where no event of Core completes another installment
than its own; at each step it does exactly then.  What is paid stays paid, whatever comes later. -/
theorem truthfulStatuses_of_reachable (h : noticeSystem.Reachable CompletesOwnInstallment db) :
    TruthfulStatuses db ∧
      (∀ request db', noticeSystem.step db request = some db' →
        (TruthfulStatuses db' ↔ CompletesOwnInstallment db request)) ∧
      ∀ requests db', noticeSystem.Run (fun _ _ => True) db requests db' → StaysPaid db db' := by
  have hbooks : TruthfulStatuses db ∧ ∀ n ∈ db.notices, 0 ≤ n.amount :=
    Machine.invariant (P := fun db => TruthfulStatuses db ∧ ∀ n ∈ db.notices, 0 ≤ n.amount) (fun _ hinit => hinit)
      (fun _ _ _ hown hstep hs =>
        ⟨(noticeSystem_statusStep hs.2 hstep).truthful hown hs.1, (noticeSystem_statusStep hs.2 hstep).nonneg⟩) h
  refine ⟨hbooks.1, fun request db' hstep => ⟨fun htrue envelope now hrequest foreign hreaches => ?_,
    fun hown => (noticeSystem_statusStep hbooks.2 hstep).truthful hown hbooks.1⟩, fun requests db' hrun => ?_⟩
  · obtain ⟨-, rfl⟩ := noticeSystem_step hstep
    subst hrequest
    exact not_truthfulStatuses_of_reachesForeignAmount hbooks.1 hbooks.2 hreaches htrue
  · exact Machine.Run.relates (P := fun db => ∀ n ∈ db.notices, 0 ≤ n.amount) (R := StaysPaid) StaysPaid.refl
      StaysPaid.trans (fun _ _ _ _ hstep hs => (noticeSystem_statusStep hs hstep).nonneg)
      (fun _ _ _ _ hstep hs => (noticeSystem_statusStep hs hstep).stays) hrun hbooks.2

/-- Claim 7 is reported on the first installment. -/
def reportedOnFirst : CoverageRequest :=
  .receive (claimEvent "claim-7-1" "payment.reported" (.reported (claimOn 11))) 1728907200000

/-- Claim 7 is confirmed by an event that names an installment of Core. -/
def confirmedOn (coreInstallmentId : Nat) : CoverageRequest :=
  .receive (claimEvent "claim-7-2" "payment.confirmed" (.confirmed (claimOn coreInstallmentId) 1728907200000 4))
    1728907200000

theorem linkedPlan_init : noticeSystem.init linkedPlan := by
  have hfresh : ∀ i ∈ linkedPlan.installments.rows,
      (i.status = .paidToMerchant ↔ i.amount ≤ confirmedMinorOf linkedPlan i.id) := by decide
  exact ⟨fun i hi _ => hfresh i hi, fun n hn => absurd hn (Table.not_mem_empty n)⟩

/-- The event that confirms claim 7 names the other installment: the first one is paid and stays scheduled. -/
theorem truthfulStatuses_counterexample :
    ∃ db, noticeSystem.Reachable (fun _ _ => True) db ∧ ¬ TruthfulStatuses db := by
  refine ⟨_, noticeSystem.reachable_after linkedPlan_init [reportedOnFirst, confirmedOn 12], fun htrue => ?_⟩
  have huntrue : ∃ i ∈ (noticeSystem.after linkedPlan [reportedOnFirst, confirmedOn 12]).installments.rows,
      hasLiveCoverage (noticeSystem.after linkedPlan [reportedOnFirst, confirmedOn 12]) i = false ∧
        i.amount ≤ confirmedMinorOf (noticeSystem.after linkedPlan [reportedOnFirst, confirmedOn 12]) i.id ∧
        i.status ≠ .paidToMerchant := by decide
  obtain ⟨i, hi, hcovered, hreached, hunpaid⟩ := huntrue
  exact hunpaid ((htrue i hi hcovered).mpr hreached)

/-- The event that confirms claim 7 on its own installment completes no other. -/
theorem completesOwn_confirmedOn_first : CompletesOwnInstallment (perform linkedPlan reportedOnFirst) (confirmedOn 11) := by
  intro envelope now hrequest foreign hreaches
  obtain ⟨⟨parsed, tenantId, link, installment, verdict, existing, ctx, -, -, -, hknown, -, hof, hother, -⟩, -, -, -⟩ :=
    hreaches
  obtain ⟨rfl, rfl⟩ := CoverageRequest.receive.inj hrequest
  have hparsed : ((parse (claimEvent "claim-7-2" "payment.confirmed" (.confirmed (claimOn 11) 1728907200000 4))).toOption.map
      fun parsed => (parsed.1.claim.installmentId, parsed.2)) = some (11, 1) := by decide
  rw [ctx.parsed_eq] at hparsed
  obtain ⟨hclaim, rfl⟩ := Prod.mk.inj (Option.some.inj hparsed)
  have hlink : ((findLink (perform linkedPlan reportedOnFirst) 1 11).map (·.erpInstallmentId)) = some 1 := by
    decide
  have hlinked := ctx.link_eq
  rw [show parsed.claim.installmentId = 11 from hclaim] at hlinked
  rw [hlinked] at hlink
  have hinst : installment.id = link.erpInstallmentId := (Table.find?_eq_some.mp ctx.installment_eq).2
  have hnotices : ∀ n ∈ (perform linkedPlan reportedOnFirst).notices.rows, n.installmentId = some 1 := by
    decide
  have hfirst := (hnotices existing (Table.findBy_eq_some hknown).1).symm.trans hof
  exact hother ((Option.some.inj hfirst).symm.trans ((Option.some.inj hlink).symm.trans hinst.symm))

theorem truthfulStatuses_of_reachable_paid :
    ((perform (perform linkedPlan reportedOnFirst) (confirmedOn 11)).installments.rows.map (·.status)) =
        [.paidToMerchant, .scheduled] ∧
      TruthfulStatuses (perform (perform linkedPlan reportedOnFirst) (confirmedOn 11)) := by
  refine ⟨by decide, (truthfulStatuses_of_reachable ?_).1⟩
  have hreported : CompletesOwnInstallment linkedPlan reportedOnFirst := by
    intro envelope now hrequest foreign hreaches
    obtain ⟨⟨parsed, tenantId, link, installment, verdict, existing, -, -, -, -, hknown, -⟩, -, -, -⟩ := hreaches
    exact Table.not_mem_empty existing (Table.findBy_eq_some hknown).1
  exact Machine.Reachable.step (Machine.Reachable.step (.of_init linkedPlan_init) hreported rfl)
    completesOwn_confirmedOn_first rfl

end Runs

end AtlasErp
