import AtlasErp.Coverage.System

/-! # No double benefit

What the merchant receives for an installment, directly from the consumer or from ATLAS, is never
more than the installment.

- `NoDoubleBenefit`: at most one payable in force for an installment, and then the confirmed notices
  and the payable make up the installment exactly;
- `ConfirmsForeignClaim`: the one branch that breaks it.  An event of Core confirms a known claim while
  another installment than the claim's own is locked and tested for coverage;
- `noDoubleBenefit_of_reachable`: in every run that never takes that branch the law holds;
- `noDoubleBenefit_counterexample`: a run that takes it pays an installment twice. -/

namespace AtlasErp

open Lib

/-- At most one payable is in force for an installment, and with it the confirmed notices make up the
amount of the installment. -/
structure NoDoubleBenefit (db : CoverageDb) : Prop where
  one_live : ∀ p ∈ db.payables, ∀ q ∈ db.payables, p.isLive = true → q.isLive = true →
    p.installmentId = q.installmentId → p = q
  exact_amount : ∀ p ∈ db.payables, p.isLive = true → ∀ i ∈ db.installments, i.id = p.installmentId →
    confirmedMinorOf db i.id + p.amount = i.amount
  amount_pos : ∀ p ∈ db.payables, p.isLive = true → 0 < p.amount

/-- What the merchant received for an installment: the confirmed notices and the paid payables. -/
def merchantReceived (db : CoverageDb) (installmentId : Nat) : Int :=
  confirmedMinorOf db installmentId +
    db.payables.total (fun p => if p.installmentId = installmentId ∧ p.status = .paid then p.amount else 0)

/-- A plan: every installment is scheduled and ATLAS owes nothing yet. -/
def ScheduledPlan (db : CoverageDb) : Prop :=
  (∀ i ∈ db.installments, i.status = .scheduled) ∧ db.payables.rows = []

/-- The event confirms a known claim whose notice is of the installment `foreign`, which has a payable
in force, while the event's own link locks and tests another installment. -/
structure ConfirmsForeignClaim (db : CoverageDb) (envelope : CoreEnvelope) (foreign : Nat) : Prop where
  taken : ∃ parsed tenantId link installment verdict existing,
    CoreContext db envelope parsed tenantId link installment ∧ parsed.verdict = some verdict ∧
    verdict.confirming = true ∧ hasLiveCoverage db installment = false ∧
    findClaim db tenantId parsed.claim.claimId = some existing ∧ existing.status = .reported ∧
    existing.installmentId = some foreign
  covered : db.livePayable foreign ≠ none

/-- No event confirms a claim of an installment other than the one it locks, when that one is
covered. -/
def ConfirmsOwnClaims (db : CoverageDb) (request : CoverageRequest) : Prop :=
  ∀ envelope now, request = .receive envelope now → ∀ foreign, ¬ConfirmsForeignClaim db envelope foreign

/-! ## Frames -/

/-- The installments keep their amounts. -/
def SameAmounts (t t' : Table Installment) : Prop :=
  ∀ i' ∈ t', ∃ i ∈ t, i.id = i'.id ∧ i.amount = i'.amount

section Frames

variable {db db' : CoverageDb}

theorem SameAmounts.refl (t : Table Installment) : SameAmounts t t := fun i hi => ⟨i, hi, rfl, rfl⟩

theorem SameAmounts.put {t : Table Installment} {i j : Installment} (hi : i ∈ t) (hid : j.id = i.id)
    (hamount : j.amount = i.amount) : SameAmounts t (t.put j) := by
  intro i' hi'
  rcases (Table.mem_put hi hid).mp hi' with rfl | ⟨hmem, -⟩
  · exact ⟨i, hi, hid.symm, hamount.symm⟩
  · exact ⟨i', hmem, rfl, rfl⟩

theorem SameAmounts.markOverdue {installment : Installment} (h : installment ∈ db.installments) :
    SameAmounts db.installments (markOverdue db installment) := by
  unfold AtlasErp.markOverdue
  split
  · exact .put h rfl rfl
  · exact .refl _

theorem SameAmounts.updateStatus (t : Table Installment) (p : Installment → Bool)
    (status : InstallmentStatus) : SameAmounts t (t.updateWhere p (fun i => { i with status })) := by
  intro i' hi'
  obtain ⟨i, hi, rfl⟩ := (Table.mem_updateWhere ..).mp hi'
  refine ⟨i, hi, ?_⟩
  split <;> exact ⟨rfl, rfl⟩

/-- The law only reads which payables are in force, the amounts of the installments and the sums
confirmed under payables in force. -/
theorem NoDoubleBenefit.frame (h : NoDoubleBenefit db)
    (hpayables : ∀ p' ∈ db'.payables, p'.isLive = true → ∃ p ∈ db.payables, p.isLive = true ∧
      p.id = p'.id ∧ p.installmentId = p'.installmentId ∧ p.amount = p'.amount)
    (hinstallments : SameAmounts db.installments db'.installments)
    (hconfirmed : ∀ p ∈ db.payables, p.isLive = true →
      confirmedMinorOf db' p.installmentId = confirmedMinorOf db p.installmentId) :
    NoDoubleBenefit db' := by
  constructor
  · intro p' hp' q' hq' hlp hlq hsame
    obtain ⟨p, hp, hlive, hid, hinst, -⟩ := hpayables p' hp' hlp
    obtain ⟨q, hq, hlive', hid', hinst', -⟩ := hpayables q' hq' hlq
    have hpq : p = q := h.one_live p hp q hq hlive hlive' (by rw [hinst, hinst', hsame])
    exact Table.eq_of_key_eq hp' hq' (by rw [key_payable, key_payable, ← hid, ← hid', hpq])
  · intro p' hp' hlp i' hi' hi'p
    obtain ⟨p, hp, hlive, -, hinst, hamount⟩ := hpayables p' hp' hlp
    obtain ⟨i, hi, hid, hiamount⟩ := hinstallments i' hi'
    have hip : i.id = p.installmentId := by rw [hid, hi'p, hinst]
    have hlaw := h.exact_amount p hp hlive i hi hip
    rw [hi'p, ← hinst, hconfirmed p hp hlive, ← hamount, ← hiamount, ← hip]
    exact hlaw
  · intro p' hp' hlp
    obtain ⟨p, hp, hlive, -, -, hamount⟩ := hpayables p' hp' hlp
    exact hamount ▸ h.amount_pos p hp hlive

theorem NoDoubleBenefit.same (h : NoDoubleBenefit db) (hsame : SameLedger db db') :
    NoDoubleBenefit db' := by
  obtain ⟨_, _, _, rfl⟩ := hsame
  exact ⟨h.one_live, h.exact_amount, h.amount_pos⟩

/-- Under the law, an installment with a payable in force is never paid twice over. -/
theorem NoDoubleBenefit.merchantReceived_le (h : NoDoubleBenefit db) {i : Installment}
    (hi : i ∈ db.installments) (hlive : db.livePayable i.id ≠ none) :
    merchantReceived db i.id ≤ i.amount := by
  obtain ⟨p, hfind⟩ := Option.ne_none_iff_exists'.mp hlive
  obtain ⟨hp, hp'⟩ := Table.findBy_eq_some hfind
  obtain ⟨hpi, hplive⟩ : p.installmentId = i.id ∧ p.isLive = true := by simpa using hp'
  have hlaw := h.exact_amount p hp hplive i hi hpi.symm
  have hpos := h.amount_pos p hp hplive
  have hothers : ∀ q ∈ db.payables, q ≠ p →
      (if q.installmentId = i.id ∧ q.status = .paid then q.amount else 0) = 0 := by
    intro q hq hne
    refine if_neg fun hpaid => hne (h.one_live q hq p hp ?_ hplive (hpaid.1.trans hpi.symm))
    simp [MerchantPayable.isLive, hpaid.2]
  have htotal := Table.total_eq_of_unique hp hothers
  unfold merchantReceived
  rw [htotal]
  split <;> omega

end Frames

/-! ## Notices -/

section Notices

variable {db : CoverageDb}

/-- A decision keeps the law when what it confirms is not covered. -/
theorem NoDoubleBenefit.decide (h : NoDoubleBenefit db) {input : NoticeDecisionInput}
    (hinst : db.installments.find? input.installment.id = some input.installment)
    (hnotice : input.notice ∈ db.notices) (hreported : input.notice.status = .reported)
    (hfree : input.confirming = true → ∀ iid, input.notice.installmentId = some iid →
      db.livePayable iid = none) :
    NoDoubleBenefit (applyNoticeDecision db input).2 := by
  refine h.frame (fun p hp hlive => ⟨p, hp, hlive, rfl, rfl, rfl⟩)
    (.put (Table.find?_eq_some.mp hinst).1 (decidedInstallment_id _ _) (decidedInstallment_amount _ _))
    fun p hp hlive => ?_
  have hput := confirmedMinorOf_put input.decidedNotice hnotice rfl p.installmentId
    (applyNoticeDecision db input).2.installments
  have hbefore : input.notice.confirmedFor p.installmentId = false := by
    simp [ConsumerPaymentToMerchant.confirmedFor, hreported]
  have hafter : input.decidedNotice.confirmedFor p.installmentId = false := by
    cases hconf : input.confirming with
    | false => simp [ConsumerPaymentToMerchant.confirmedFor, NoticeDecisionInput.decidedNotice, hconf]
    | true =>
      have hother : input.notice.installmentId ≠ some p.installmentId := fun heq =>
        livePayable_eq_none.mp (hfree hconf _ heq) p hp hlive rfl
      simp [ConsumerPaymentToMerchant.confirmedFor, NoticeDecisionInput.decidedNotice, hother]
  rw [hbefore, hafter] at hput
  simp only [Bool.false_eq_true, if_false, sub_zero, add_zero] at hput
  exact hput

/-- A new reported notice keeps the law. -/
theorem NoDoubleBenefit.withCoreNotice (h : NoDoubleBenefit db) {envelope : CoreEnvelope}
    {parsed : CoreParsed} {tenantId : Nat} {now : Instant} {link : CoreInstallmentLink}
    {installment : Installment} :
    NoDoubleBenefit (withCoreNotice db envelope parsed tenantId now link installment) := by
  refine h.frame (fun p hp hlive => ⟨p, hp, hlive, rfl, rfl, rfl⟩) (.refl _) fun p hp hlive => ?_
  exact confirmedMinorOf_create (fun _ => rfl) (fun _ => rfl) p.installmentId

end Notices

/-! ## The step -/

section Step

variable {db db' : CoverageDb}

/-- The balance of the eligibility decision is what the notices of the ledger leave. -/
theorem eligibilityInput_balanceMinor (installment : Installment) (purchase : Purchase) (now : Instant) :
    (db.eligibilityInput installment purchase now).balanceMinor =
      installment.amount - confirmedMinorOf db installment.id := by
  have hfilter : ∀ notices : List ConsumerPaymentToMerchant,
      ((((notices.filter (·.installmentId = some installment.id)).map
        (fun n => (⟨n.id, n.status, n.amount⟩ : EligibilityNotice))).filter
          (·.status = .confirmed)).map (·.amount)) =
      (notices.filter (·.confirmedFor installment.id)).map (·.amount) := by
    intro notices
    induction notices with
    | nil => rfl
    | cons n notices ih =>
      by_cases hi : n.installmentId = some installment.id <;> by_cases hc : n.status = .confirmed <;>
        simp_all [ConsumerPaymentToMerchant.confirmedFor]
  unfold EligibilityInput.balanceMinor EligibilityInput.confirmedMinor confirmedMinorOf
  exact congrArg (installment.amount - ·) (congrArg List.sum (hfilter db.notices.rows))

theorem NoDoubleBenefit.schedule (h : NoDoubleBenefit db) {input : ScheduleCoverageDto}
    {actor : CoverageActor} {now : Instant} {installment : Installment} {purchase : Purchase}
    {evidence : EligibilityEvidence} {reviewItems : Table CoverageReviewItem}
    (hinst : installment ∈ db.installments)
    (hcov : Coverable (db.eligibilityInput installment purchase now)) :
    NoDoubleBenefit
      { db with
        installments := markOverdue db installment
        payables := db.payables.create (coveragePayable input actor now installment purchase
          (db.eligibilityInput installment purchase now).balanceMinor evidence)
        reviewItems } := by
  have hnone : db.livePayable installment.id = none := by
    simpa [CoverageDb.eligibilityInput] using hcov.noLivePayable
  have hfree := livePayable_eq_none.mp hnone
  have hamounts := SameAmounts.markOverdue hinst
  constructor
  · intro p hp q hq hlp hlq hsame
    rcases (Table.mem_create ..).mp hp with hp | rfl <;> rcases (Table.mem_create ..).mp hq with hq | rfl
    · exact h.one_live p hp q hq hlp hlq hsame
    · exact absurd hsame (hfree p hp hlp)
    · exact absurd hsame.symm (hfree q hq hlq)
    · rfl
  · intro p hp hlp i' hi' hi'p
    obtain ⟨i, hi, hid, hamount⟩ := hamounts i' hi'
    rcases (Table.mem_create ..).mp hp with hp | rfl
    · have hlaw := h.exact_amount p hp hlp i hi (hid.trans hi'p)
      rw [← hid, ← hamount]
      exact hlaw
    · have hi_eq : i = installment := Table.eq_of_key_eq hi hinst (hid.trans hi'p)
      subst hi_eq
      have hbalance := @eligibilityInput_balanceMinor db i purchase now
      rw [← hid, ← hamount]
      change confirmedMinorOf db i.id + (db.eligibilityInput i purchase now).balanceMinor = i.amount
      omega
  · intro p hp hlp
    rcases (Table.mem_create ..).mp hp with hp | rfl
    · exact h.amount_pos p hp hlp
    · exact hcov.balancePos

/-- **Step.** A step that does not confirm a foreign claim keeps the law. -/
theorem NoDoubleBenefit.step (h : NoDoubleBenefit db) {request : CoverageRequest}
    (hown : ConfirmsOwnClaims db request) (hstep : CoverageStep db request db') :
    NoDoubleBenefit db' := by
  have hsame_payables : ∀ p ∈ db.payables, p.isLive = true → ∃ q ∈ db.payables, q.isLive = true ∧
      q.id = p.id ∧ q.installmentId = p.installmentId ∧ q.amount = p.amount :=
    fun p hp hlive => ⟨p, hp, hlive, rfl, rfl, rfl⟩
  cases hstep with
  | quiet same => exact h.same same
  | scheduled hinst hcov => exact h.schedule (Table.find?_eq_some.mp hinst).1 hcov
  | @cancelled _ reason actor now payable hfind hnc hnp hnone =>
    refine h.frame (fun p hp hlive => ?_) (.refl _) fun _ _ _ => rfl
    rcases (Table.mem_put (r := payable.cancel reason actor now) (Table.find?_eq_some.mp hfind).1
      rfl).mp hp with rfl | ⟨hp, -⟩
    · simp [MerchantPayable.isLive, MerchantPayable.cancel] at hlive
    · exact hsame_payables p hp hlive
  | registered => exact h.frame hsame_payables (.refl _) fun _ _ _ => rfl
  | @approved _ _ _ _ payable settlement _ _ _ _ approval =>
    refine h.frame (fun p hp hlive => ?_)
      (.put (Table.find?_eq_some.mp approval.installment_eq).1 rfl rfl) fun _ _ _ => rfl
    rcases (Table.mem_put (r := payable.pay settlement) approval.payable_mem rfl).mp hp
      with rfl | ⟨hp, -⟩
    · refine ⟨payable, approval.payable_mem, ?_, rfl, rfl, rfl⟩
      rcases approval.payable_status with hs | hs <;> simp [MerchantPayable.isLive, hs]
    · exact hsame_payables p hp hlive
  | rejected => exact h.frame hsame_payables (.refl _) fun _ _ _ => rfl
  | @reviewed _ _ _ _ decision _ review =>
    have hpending := review.pending
    simp only [ConsumerPaymentToMerchant.pendingFor, decide_eq_true_eq] at hpending
    refine (h.decide review.installment_mem review.notice_mem hpending.2 fun hconf iid hiid => ?_).same
      (.of_reviewItems rfl)
    obtain rfl : decision.installment.id = iid := Option.some.inj (hpending.1.symm.trans hiid)
    exact (hasLiveCoverage_eq_false.mp (review.uncovered hconf)).2
  | @received envelope now _ hreceive =>
    cases hreceive with
    | quiet same => exact h.same same
    | reported ctx _ same => exact h.withCoreNotice.same same
    | @decided parsed tenantId link installment verdict existing _ ctx hverdict hknown hpending
        huncovered same =>
      have hfind := Table.find?_eq_some.mp ctx.installment_eq
      have hself : db.installments.find? installment.id = some installment := Table.find?_key hfind.1
      refine (h.decide hself (Table.findBy_eq_some hknown).1 hpending fun hconf iid hiid => ?_).same same
      by_contra hcovered
      exact hown envelope now rfl iid ⟨⟨parsed, tenantId, link, installment, verdict, existing, ctx,
        hverdict, hconf, huncovered hconf, hknown, hpending, hiid⟩, hcovered⟩
    | @createdDecided parsed tenantId link installment verdict _ ctx hverdict hunknown huncovered same =>
      have hself : db.installments.find? installment.id = some installment :=
        Table.find?_key (Table.find?_eq_some.mp ctx.installment_eq).1
      refine NoDoubleBenefit.same (h.withCoreNotice.decide ?_ ?_ rfl fun hconf iid hiid => ?_) same
      · exact hself
      · exact (Table.mem_create ..).mpr (.inr rfl)
      obtain rfl : installment.id = iid := Option.some.inj hiid
      exact (hasLiveCoverage_eq_false.mp (huncovered hconf)).2
  | swept => exact h.frame hsame_payables (.updateStatus _ _ _) fun _ _ _ => rfl
  | paid => exact h.frame hsame_payables (.refl _) fun _ _ _ => rfl
  | reversed => exact h.frame hsame_payables (.refl _) fun _ _ _ => rfl

end Step

/-! ## Runs -/

theorem ScheduledPlan.noDoubleBenefit {db : CoverageDb} (h : ScheduledPlan db) : NoDoubleBenefit db := by
  have hnone : ∀ p, p ∉ db.payables := fun p hp => by
    have hrows : p ∈ db.payables.rows := hp
    rw [h.2] at hrows
    cases hrows
  exact ⟨fun p hp => absurd hp (hnone p), fun p hp => absurd hp (hnone p),
    fun p hp => absurd hp (hnone p)⟩

/-- **No double benefit.** In every run from a scheduled plan in which no event of Core confirms a claim
of a covered installment other than the one it locks, an installment has at most one payable in force,
and then its confirmed notices and the payable make up its amount, so that the merchant never received
more. -/
theorem noDoubleBenefit_of_reachable {db : CoverageDb}
    (h : (coverageSystem ScheduledPlan).Reachable ConfirmsOwnClaims db) :
    NoDoubleBenefit db ∧
      ∀ i ∈ db.installments, db.livePayable i.id ≠ none → merchantReceived db i.id ≤ i.amount := by
  have hlaw : NoDoubleBenefit db := Machine.invariant (fun s hplan => ScheduledPlan.noDoubleBenefit hplan)
    (fun s request s' hown hstep hlaw => hlaw.step hown (coverageSystem_step hstep)) h
  exact ⟨hlaw, fun i hi hlive => hlaw.merchantReceived_le hi hlive⟩

/-! ## The branch that breaks it -/

section Counterexample

/-- Two overdue installments of 100.00 of one purchase, both linked to Core. -/
def linkedPlan : CoverageDb where
  contractVersions := ⟨[⟨1, 1, .active, 1⟩], oneVersion_nodup⟩
  purchases := ⟨[⟨1, 9, 5, 1, .confirmed⟩], onePurchase_nodup⟩
  coreLinks := [⟨1, 1, 1, 3, 11⟩, ⟨1, 2, 1, 3, 12⟩]
  files := []
  installments := ⟨[⟨1, 1, 20000, 10000, .scheduled, none⟩, ⟨2, 1, 20000, 10000, .scheduled, none⟩],
    by decide⟩
  notices := .empty
  payables := .empty
  settlements := .empty
  recoveries := .empty
  movements := .empty
  reviewItems := .empty
  inbox := ⟨[], []⟩
  exceptions := []
  outbox := []
  actionLog := []

/-- Claim 7 of Core, as an event on one of its installments names it. -/
def claimOn (coreInstallmentId : Nat) : CoreClaim :=
  ⟨7, "A-7", 3, coreInstallmentId, 5, none, ⟨10000, by decide⟩, "BOB", 1⟩

/-- An event of Core about claim 7. -/
def claimEvent (eventKey topic : String) (payload : CorePayload) : CoreEnvelope :=
  ⟨"atlas.core.outbox/1", eventKey, topic, 1, ⟨"payment_claim", "7", 1⟩, 1728907200000, "atlas-core",
    some 1, payload⟩

/-- The first installment is covered, claim 7 is reported on it, and then confirmed by an event that
names the second one. -/
def foreignConfirmation : List CoverageRequest :=
  [.scheduleCoverage ⟨1, 20020, "CUSTOMER_INSTALLMENT_DEFAULT_COVERAGE"⟩ ⟨100⟩ 1728907200000,
    .receive (claimEvent "claim-7-1" "payment.reported" (.reported (claimOn 11))) 1728907200000,
    .receive (claimEvent "claim-7-2" "payment.confirmed" (.confirmed (claimOn 12) 1728907200000 4))
      1728907200000]

theorem linkedPlan_scheduled : ScheduledPlan linkedPlan := by
  have hall : ∀ i ∈ linkedPlan.installments.rows, i.status = .scheduled := by decide
  exact ⟨hall, rfl⟩

/-- The first installment is paid to the merchant twice: 100.00 confirmed and 100.00 payable. -/
theorem noDoubleBenefit_counterexample :
    ¬∀ db, (coverageSystem ScheduledPlan).Reachable (fun _ _ => True) db → NoDoubleBenefit db := by
  intro h
  have hlaw := h _ (reachable_foldl foreignConfirmation (.of_init linkedPlan_scheduled))
  have hall : ∃ p ∈ (foreignConfirmation.foldl perform linkedPlan).payables.rows,
      ∃ i ∈ (foreignConfirmation.foldl perform linkedPlan).installments.rows, p.isLive = true ∧
        i.id = p.installmentId ∧
        confirmedMinorOf (foreignConfirmation.foldl perform linkedPlan) i.id + p.amount ≠ i.amount := by
    decide
  obtain ⟨p, hp, i, hi, hlive, hid, hne⟩ := hall
  exact hne (hlaw.exact_amount p hp hlive i hi hid)

/-- The plan with its first installment covered. -/
def coveredPlan : CoverageDb :=
  perform linkedPlan
    (.scheduleCoverage ⟨1, 20020, "CUSTOMER_INSTALLMENT_DEFAULT_COVERAGE"⟩ ⟨100⟩ 1728907200000)

/-- Covering an installment takes no forbidden branch. -/
theorem noDoubleBenefit_of_reachable_covered :
    NoDoubleBenefit coveredPlan ∧ ∀ i ∈ coveredPlan.installments, coveredPlan.livePayable i.id ≠ none →
      merchantReceived coveredPlan i.id ≤ i.amount := by
  have hplan : (coverageSystem ScheduledPlan).Reachable ConfirmsOwnClaims linkedPlan :=
    .of_init linkedPlan_scheduled
  have hcovered : (coverageSystem ScheduledPlan).Reachable ConfirmsOwnClaims coveredPlan :=
    Reachable.perform hplan fun _ _ h => CoverageRequest.noConfusion h
  exact noDoubleBenefit_of_reachable hcovered

end Counterexample

end AtlasErp
