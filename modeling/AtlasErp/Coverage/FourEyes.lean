import AtlasErp.Coverage.System

/-! # A settlement is complete and four-eyed

A payable is PAID exactly when one of its settlements is CONFIRMED, by somebody else than who
registered it and for the amount of the payable; then its installment is COVERED_BY_ATLAS and has one
recovery for that amount.  Four tables move together, and a repeated confirmation moves nothing.

- `SettledLedger`: the correspondence between the four tables;
- `SettledLedger.step`, `settledLedger_of_reachable`: every step of coverage keeps it;
- `settlement_complete`: what it says of one payable. -/

namespace AtlasErp

open Lib

/-- A confirmed settlement: for the amount of its payable, decided by another person. -/
def MerchantPayableSettlement.fourEyed (s : MerchantPayableSettlement) (p : MerchantPayable) : Prop :=
  s.amount = p.amount ∧ ∃ decider, s.decidedByUserId = some decider ∧ decider ≠ s.registeredByUserId

/-- The correspondence between payables, settlements, installments and recoveries. -/
structure SettledLedger (db : CoverageDb) : Prop where
  one_live : ∀ p ∈ db.payables, ∀ q ∈ db.payables, p.isLive = true → q.isLive = true →
    p.installmentId = q.installmentId → p = q
  one_settlement : ∀ s ∈ db.settlements, ∀ t ∈ db.settlements, s.isLive = true → t.isLive = true →
    s.merchantPayableId = t.merchantPayableId → s = t
  confirmed_paid : ∀ s ∈ db.settlements, s.status = .confirmed →
    ∃ p ∈ db.payables, p.id = s.merchantPayableId ∧ p.status = .paid ∧ s.fourEyed p
  paid_confirmed : ∀ p ∈ db.payables, p.status = .paid →
    ∃ s ∈ db.settlements, s.merchantPayableId = p.id ∧ s.status = .confirmed
  paid_covered : ∀ p ∈ db.payables, p.status = .paid →
    ∃ i ∈ db.installments, i.id = p.installmentId ∧ i.status = .coveredByAtlas
  recovery_paid : ∀ r ∈ db.recoveries, ∃ p ∈ db.payables, p.id = r.merchantPayableId ∧
    p.status = .paid ∧ r.installmentId = p.installmentId ∧ r.amountCoveredByAtlas = p.amount
  paid_recovery : ∀ p ∈ db.payables, p.status = .paid →
    ∃ r ∈ db.recoveries, r.merchantPayableId = p.id
  one_recovery : ∀ r ∈ db.recoveries, ∀ r' ∈ db.recoveries,
    r.merchantPayableId = r'.merchantPayableId → r = r'

/-- Payables of which none is paid, at most one in force for each installment, and nothing settled. -/
structure UnsettledPlan (db : CoverageDb) : Prop where
  one_live : ∀ p ∈ db.payables, ∀ q ∈ db.payables, p.isLive = true → q.isLive = true →
    p.installmentId = q.installmentId → p = q
  unpaid : ∀ p ∈ db.payables, p.status ≠ .paid
  no_settlements : db.settlements.rows = []
  no_recoveries : db.recoveries.rows = []

/-! ## Frames -/

/-- Covered installments stay as they are. -/
def CoveredKept (t t' : Table Installment) : Prop :=
  ∀ i ∈ t, i.status = .coveredByAtlas → i ∈ t'

/-- Recoveries keep their payable, their installment and the amount covered. -/
structure RecoveriesKept (t t' : Table ConsumerRecovery) : Prop where
  back : ∀ r' ∈ t', ∃ r ∈ t, r.id = r'.id ∧ r.merchantPayableId = r'.merchantPayableId ∧
    r.installmentId = r'.installmentId ∧ r.amountCoveredByAtlas = r'.amountCoveredByAtlas
  forth : ∀ r ∈ t, ∃ r' ∈ t', r'.merchantPayableId = r.merchantPayableId

section Frames

variable {db db' : CoverageDb}

theorem CoveredKept.refl (t : Table Installment) : CoveredKept t t := fun _ hi _ => hi

/-- Writing an installment that was not covered keeps the covered ones. -/
theorem CoveredKept.put {t : Table Installment} {i j : Installment} (hi : i ∈ t) (hid : j.id = i.id)
    (h : i.status = .coveredByAtlas → j = i) : CoveredKept t (t.put j) := by
  intro k hk hcovered
  by_cases hki : k.id = i.id
  · obtain rfl : k = i := Table.eq_of_key_eq hk hi hki
    exact (Table.mem_put hi hid).mpr (.inl (h hcovered).symm)
  · exact (Table.mem_put hi hid).mpr (.inr ⟨hk, by simpa [hid] using hki⟩)

theorem CoveredKept.updateStatus {t : Table Installment} {p : Installment → Bool}
    {status : InstallmentStatus} (h : ∀ i ∈ t, p i = true → i.status = .scheduled) :
    CoveredKept t (t.updateWhere p (fun i => { i with status })) := by
  intro i hi hcovered
  refine (Table.mem_updateWhere ..).mpr ⟨i, hi, if_neg fun hp => ?_⟩
  rw [h i hi hp] at hcovered
  cases hcovered

/-- A decision confirms only what is not covered, and a rejection leaves a covered installment. -/
theorem CoveredKept.decide {input : NoticeDecisionInput}
    (hinst : db.installments.find? input.installment.id = some input.installment)
    (huncovered : input.confirming = true → hasLiveCoverage db input.installment = false) :
    CoveredKept db.installments (applyNoticeDecision db input).2.installments := by
  refine .put (Table.find?_eq_some.mp hinst).1 (decidedInstallment_id _ _) fun hcovered => ?_
  have hrejecting : input.confirming = false := by
    by_contra hconf
    have hnone := hasLiveCoverage_eq_false.mp (huncovered (by simpa using hconf))
    exact hnone.1 hcovered
  change input.decidedInstallment _ _ = input.installment
  simp [NoticeDecisionInput.decidedInstallment, hrejecting, hcovered]

theorem RecoveriesKept.refl (t : Table ConsumerRecovery) : RecoveriesKept t t :=
  ⟨fun r hr => ⟨r, hr, rfl, rfl, rfl, rfl⟩, fun r hr => ⟨r, hr, rfl⟩⟩

theorem RecoveriesKept.updateAmount {t : Table ConsumerRecovery} {r : ConsumerRecovery} {k : Nat}
    (hr : t.find? k = some r) (nextMinor coveredMinor : Int) :
    RecoveriesKept t (t.put (updateRecoveredAmount r nextMinor coveredMinor)) := by
  have hmem := (Table.find?_eq_some.mp hr).1
  have hput := fun {x} =>
    @Table.mem_put _ _ t r (updateRecoveredAmount r nextMinor coveredMinor) hmem rfl x
  constructor
  · intro r' hr'
    rcases hput.mp hr' with rfl | ⟨hr', -⟩
    · exact ⟨r, hmem, rfl, rfl, rfl, rfl⟩
    · exact ⟨r', hr', rfl, rfl, rfl, rfl⟩
  · intro q hq
    by_cases hqr : q.id = r.id
    · obtain rfl : q = r := Table.eq_of_key_eq hq hmem hqr
      exact ⟨_, hput.mpr (.inl rfl), rfl⟩
    · exact ⟨q, hput.mpr (.inr ⟨hq, hqr⟩), rfl⟩

/-- Steps that write neither payables nor settlements. -/
theorem SettledLedger.frame (h : SettledLedger db) (hp : db'.payables = db.payables)
    (hs : db'.settlements = db.settlements) (hi : CoveredKept db.installments db'.installments)
    (hr : RecoveriesKept db.recoveries db'.recoveries) : SettledLedger db' where
  one_live := hp ▸ h.one_live
  one_settlement := hs ▸ h.one_settlement
  confirmed_paid := by
    rw [hp, hs]
    exact h.confirmed_paid
  paid_confirmed := by
    rw [hp, hs]
    exact h.paid_confirmed
  paid_covered := by
    rw [hp]
    intro p hmem hpaid
    obtain ⟨i, hmem', hid, hcovered⟩ := h.paid_covered p hmem hpaid
    exact ⟨i, hi i hmem' hcovered, hid, hcovered⟩
  recovery_paid := by
    rw [hp]
    intro r' hr'
    obtain ⟨r, hmem, -, hpayable, hinst, hamount⟩ := hr.back r' hr'
    rw [← hpayable, ← hinst, ← hamount]
    exact h.recovery_paid r hmem
  paid_recovery := by
    rw [hp]
    intro p hmem hpaid
    obtain ⟨r, hmem', hid⟩ := h.paid_recovery p hmem hpaid
    obtain ⟨r', hr', hid'⟩ := hr.forth r hmem'
    exact ⟨r', hr', hid'.trans hid⟩
  one_recovery := by
    intro r₁ h₁ r₂ h₂ hsame
    obtain ⟨q₁, m₁, i₁, p₁, -⟩ := hr.back r₁ h₁
    obtain ⟨q₂, m₂, i₂, p₂, -⟩ := hr.back r₂ h₂
    have hq : q₁ = q₂ := h.one_recovery q₁ m₁ q₂ m₂ (by rw [p₁, p₂, hsame])
    exact Table.eq_of_key_eq h₁ h₂ (by rw [key_recovery, key_recovery, ← i₁, ← i₂, hq])

theorem SettledLedger.same (h : SettledLedger db) (hsame : SameLedger db db') : SettledLedger db' := by
  obtain ⟨_, _, _, rfl⟩ := hsame
  exact h.frame rfl rfl (.refl _) (.refl _)

end Frames

/-! ## Writing the four tables -/

section Writes

variable {db : CoverageDb}

/-- A new payable is not paid, and the only one in force for its installment. -/
theorem SettledLedger.schedule (h : SettledLedger db) {row : Nat → MerchantPayable}
    {installments : Table Installment} {reviewItems : Table CoverageReviewItem}
    (hid : ∀ k, (row k).id = k) (hunpaid : ∀ k, (row k).status = .scheduled)
    (hfree : ∀ k, ∀ p ∈ db.payables, p.isLive = true → p.installmentId ≠ (row k).installmentId)
    (hi : CoveredKept db.installments installments) :
    SettledLedger { db with installments, payables := db.payables.create row, reviewItems } := by
  have hcreate := fun {x} => @Table.mem_create _ _ db.payables row hid x
  have hold : ∀ p ∈ db.payables.create row, p.status = .paid → p ∈ db.payables := by
    intro p hp hpaid
    rcases hcreate.mp hp with hp | rfl
    · exact hp
    · rw [hunpaid] at hpaid
      cases hpaid
  constructor
  · intro p hp q hq hlp hlq hsame
    rcases hcreate.mp hp with hp | rfl <;> rcases hcreate.mp hq with hq | rfl
    · exact h.one_live p hp q hq hlp hlq hsame
    · exact absurd hsame (hfree _ p hp hlp)
    · exact absurd hsame.symm (hfree _ q hq hlq)
    · rfl
  · exact h.one_settlement
  · intro s hs hconf
    obtain ⟨p, hp, hrest⟩ := h.confirmed_paid s hs hconf
    exact ⟨p, hcreate.mpr (.inl hp), hrest⟩
  · exact fun p hp hpaid => h.paid_confirmed p (hold p hp hpaid) hpaid
  · intro p hp hpaid
    obtain ⟨i, hmem, hid, hcovered⟩ := h.paid_covered p (hold p hp hpaid) hpaid
    exact ⟨i, hi i hmem hcovered, hid, hcovered⟩
  · intro r hr
    obtain ⟨p, hp, hrest⟩ := h.recovery_paid r hr
    exact ⟨p, hcreate.mpr (.inl hp), hrest⟩
  · exact fun p hp hpaid => h.paid_recovery p (hold p hp hpaid) hpaid
  · exact h.one_recovery

/-- Cancelling a payable that is not paid. -/
theorem SettledLedger.cancel (h : SettledLedger db) {payable : MerchantPayable} {reason : String}
    {actor : CoverageActor} {now : Instant} (hmem : payable ∈ db.payables) (hunpaid : payable.status ≠ .paid) :
    SettledLedger { db with payables := db.payables.put (payable.cancel reason actor now) } := by
  have hput := fun {x} => @Table.mem_put _ _ db.payables payable (payable.cancel reason actor now) hmem rfl x
  have hlive : ∀ p ∈ db.payables.put (payable.cancel reason actor now), p.isLive = true →
      p ∈ db.payables := by
    intro p hp hl
    rcases hput.mp hp with rfl | ⟨hp, -⟩
    · simp [MerchantPayable.isLive, MerchantPayable.cancel] at hl
    · exact hp
  have hpaid_live : ∀ p : MerchantPayable, p.status = .paid → p.isLive = true := by
    intro p hp
    simp [MerchantPayable.isLive, hp]
  have hkept : ∀ p ∈ db.payables, p.status = .paid →
      p ∈ db.payables.put (payable.cancel reason actor now) := by
    intro p hp hpaid
    refine hput.mpr (.inr ⟨hp, fun hid => hunpaid ?_⟩)
    rwa [← Table.eq_of_key_eq hp hmem hid]
  constructor
  · exact fun p hp q hq hlp hlq => h.one_live p (hlive p hp hlp) q (hlive q hq hlq) hlp hlq
  · exact h.one_settlement
  · intro s hs hconf
    obtain ⟨p, hp, hid, hpaid, hrest⟩ := h.confirmed_paid s hs hconf
    exact ⟨p, hkept p hp hpaid, hid, hpaid, hrest⟩
  · exact fun p hp hpaid => h.paid_confirmed p (hlive p hp (hpaid_live p hpaid)) hpaid
  · exact fun p hp hpaid => h.paid_covered p (hlive p hp (hpaid_live p hpaid)) hpaid
  · intro r hr
    obtain ⟨p, hp, hid, hpaid, hrest⟩ := h.recovery_paid r hr
    exact ⟨p, hkept p hp hpaid, hid, hpaid, hrest⟩
  · exact fun p hp hpaid => h.paid_recovery p (hlive p hp (hpaid_live p hpaid)) hpaid
  · exact h.one_recovery

/-- Registering a settlement on a payable that has none standing. -/
theorem SettledLedger.register (h : SettledLedger db) {payable : MerchantPayable}
    {input : MarkPayablePaidDto} {actor : CoverageActor} {actionLog : List SettlementAction}
    (hnone : db.findLiveSettlement payable.id = none) :
    SettledLedger
      { db with settlements := db.settlements.create (newSettlement input actor payable), actionLog } := by
  have hcreate := fun {x} =>
    @Table.mem_create _ _ db.settlements (newSettlement input actor payable) (fun _ => rfl) x
  have hfree : ∀ s ∈ db.settlements, s.isLive = true → s.merchantPayableId ≠ payable.id := by
    intro s hs hlive hid
    simp [MerchantPayableSettlement.isLive, findLiveSettlement_eq_none.mp hnone s hs hid] at hlive
  refine ⟨h.one_live, ?_, ?_, ?_, h.paid_covered, h.recovery_paid, h.paid_recovery, h.one_recovery⟩
  · intro s hs t ht hls hlt hsame
    rcases hcreate.mp hs with hs | rfl <;> rcases hcreate.mp ht with ht | rfl
    · exact h.one_settlement s hs t ht hls hlt hsame
    · exact absurd hsame (hfree s hs hls)
    · exact absurd hsame.symm (hfree t ht hlt)
    · rfl
  · intro s hs hconf
    rcases hcreate.mp hs with hs | rfl
    · exact h.confirmed_paid s hs hconf
    · cases hconf
  · intro p hp hpaid
    obtain ⟨s, hs, hrest⟩ := h.paid_confirmed p hp hpaid
    exact ⟨s, hcreate.mpr (.inl hs), hrest⟩

/-- Rejecting a settlement that is pending. -/
theorem SettledLedger.reject (h : SettledLedger db) {settlement : MerchantPayableSettlement}
    {note : Option String} {actor : CoverageActor} {now : Instant} {actionLog : List SettlementAction}
    (hmem : settlement ∈ db.settlements) (hpending : settlement.status = .pendingApproval) :
    SettledLedger
      { db with
        settlements := db.settlements.put (settlement.decide note actor now .rejected)
        actionLog } := by
  have hput := fun {x} => @Table.mem_put _ _ db.settlements settlement
    (settlement.decide note actor now .rejected) hmem rfl x
  have hlive : ∀ s ∈ db.settlements.put (settlement.decide note actor now .rejected),
      s.isLive = true → s ∈ db.settlements := by
    intro s hs hl
    rcases hput.mp hs with rfl | ⟨hs, -⟩
    · simp [MerchantPayableSettlement.isLive, MerchantPayableSettlement.decide] at hl
    · exact hs
  refine ⟨h.one_live, ?_, ?_, ?_, h.paid_covered, h.recovery_paid, h.paid_recovery, h.one_recovery⟩
  · exact fun s hs t ht hls hlt =>
      h.one_settlement s (hlive s hs hls) t (hlive t ht hlt) hls hlt
  · intro s hs hconf
    refine h.confirmed_paid s (hlive s hs ?_) hconf
    simp [MerchantPayableSettlement.isLive, hconf]
  · intro p hp hpaid
    obtain ⟨s, hs, hid, hconf⟩ := h.paid_confirmed p hp hpaid
    refine ⟨s, hput.mpr (.inr ⟨hs, fun hkey => ?_⟩), hid, hconf⟩
    rw [Table.eq_of_key_eq hs hmem hkey, hpending] at hconf
    cases hconf

/-- Confirming a settlement: the payable, the installment and the recovery move with it. -/
theorem SettledLedger.approve (h : SettledLedger db) {payable : MerchantPayable}
    {settlement : MerchantPayableSettlement} {installment : Installment} {purchase : Purchase}
    {note : Option String} {actor : CoverageActor} {now : Instant}
    {outbox : List CoverageOutboxEvent} {actionLog : List SettlementAction}
    (approval : Approval db actor payable settlement installment purchase) :
    SettledLedger { settle db note actor now payable settlement installment purchase with
      outbox, actionLog } := by
  obtain ⟨hsmem, hsid, hsnr⟩ := findLiveSettlement_eq_some approval.live
  obtain ⟨himem, hiid⟩ := Table.find?_eq_some.mp approval.installment_eq
  have hpmem := approval.payable_mem
  have hunpaid : payable.status ≠ .paid := by
    rcases approval.payable_status with hs | hs <;> simp [hs]
  have hplive : payable.isLive = true := by
    rcases approval.payable_status with hs | hs <;> simp [MerchantPayable.isLive, hs]
  have hpayables := fun {x} =>
    @Table.mem_put _ _ db.payables payable (payable.pay settlement) hpmem rfl x
  have hsettlements := fun {x} => @Table.mem_put _ _ db.settlements settlement
    (settlement.decide note actor now .confirmed) hsmem rfl x
  have hrecoveries := fun {x} => @Table.mem_create _ _ db.recoveries
    (newRecovery payable settlement installment purchase) (fun _ => rfl) x
  have hinstallments : CoveredKept db.installments
      (db.installments.put { installment with status := .coveredByAtlas }) := by
    refine .put himem rfl fun hcovered => ?_
    rw [← hcovered]
  -- a payable that was paid before is another row, and stays
  have hpaid_kept : ∀ p ∈ db.payables, p.status = .paid → p ∈ db.payables.put (payable.pay settlement) := by
    intro p hp hpaid
    refine hpayables.mpr (.inr ⟨hp, fun hid => hunpaid ?_⟩)
    rwa [← Table.eq_of_key_eq hp hpmem hid]
  have hback : ∀ p ∈ db.payables.put (payable.pay settlement), p.isLive = true →
      ∃ q ∈ db.payables, q.isLive = true ∧ q.id = p.id ∧ q.installmentId = p.installmentId := by
    intro p hp hlive
    rcases hpayables.mp hp with rfl | ⟨hp, -⟩
    · exact ⟨payable, hpmem, hplive, rfl, rfl⟩
    · exact ⟨p, hp, hlive, rfl, rfl⟩
  have hsback : ∀ s ∈ db.settlements.put (settlement.decide note actor now .confirmed),
      s.isLive = true → ∃ t ∈ db.settlements, t.isLive = true ∧ t.id = s.id ∧
        t.merchantPayableId = s.merchantPayableId := by
    intro s hs hlive
    rcases hsettlements.mp hs with rfl | ⟨hs, -⟩
    · exact ⟨settlement, hsmem, by simp [MerchantPayableSettlement.isLive, hsnr], rfl, rfl⟩
    · exact ⟨s, hs, hlive, rfl, rfl⟩
  have hno_recovery : ∀ r ∈ db.recoveries, r.merchantPayableId ≠ payable.id := by
    intro r hr
    simpa using Table.findBy_eq_none.mp approval.no_recovery r hr
  constructor
  · intro p hp q hq hlp hlq hsame
    obtain ⟨p', hp', hlp', hpid, hpinst⟩ := hback p hp hlp
    obtain ⟨q', hq', hlq', hqid, hqinst⟩ := hback q hq hlq
    have heq : p' = q' := h.one_live p' hp' q' hq' hlp' hlq' (by rw [hpinst, hqinst, hsame])
    exact Table.eq_of_key_eq hp hq (by rw [key_payable, key_payable, ← hpid, ← hqid, heq])
  · intro s hs t ht hls hlt hsame
    obtain ⟨s', hs', hls', hsid', hspay⟩ := hsback s hs hls
    obtain ⟨t', ht', hlt', htid', htpay⟩ := hsback t ht hlt
    have heq : s' = t' := h.one_settlement s' hs' t' ht' hls' hlt' (by rw [hspay, htpay, hsame])
    exact Table.eq_of_key_eq hs ht (by rw [key_settlement, key_settlement, ← hsid', ← htid', heq])
  · intro s hs hconf
    rcases hsettlements.mp hs with rfl | ⟨hs, -⟩
    · exact ⟨payable.pay settlement, hpayables.mpr (.inl rfl), hsid.symm, rfl, approval.amount_eq,
        actor.userId, rfl, approval.fourEyes.symm⟩
    · obtain ⟨p, hp, hid, hpaid, hrest⟩ := h.confirmed_paid s hs hconf
      exact ⟨p, hpaid_kept p hp hpaid, hid, hpaid, hrest⟩
  · intro p hp hpaid
    rcases hpayables.mp hp with rfl | ⟨hp, -⟩
    · exact ⟨_, hsettlements.mpr (.inl rfl), hsid, rfl⟩
    · obtain ⟨s, hs, hid, hconf⟩ := h.paid_confirmed p hp hpaid
      refine ⟨s, hsettlements.mpr (.inr ⟨hs, fun hkey => ?_⟩), hid, hconf⟩
      rw [Table.eq_of_key_eq hs hsmem hkey, approval.pending] at hconf
      cases hconf
  · intro p hp hpaid
    rcases hpayables.mp hp with rfl | ⟨hp, -⟩
    · exact ⟨{ installment with status := .coveredByAtlas }, Table.mem_put_self himem rfl, hiid, rfl⟩
    · obtain ⟨i, hi, hid, hcovered⟩ := h.paid_covered p hp hpaid
      exact ⟨i, hinstallments i hi hcovered, hid, hcovered⟩
  · intro r hr
    rcases hrecoveries.mp hr with hr | rfl
    · obtain ⟨p, hp, hid, hpaid, hrest⟩ := h.recovery_paid r hr
      exact ⟨p, hpaid_kept p hp hpaid, hid, hpaid, hrest⟩
    · exact ⟨payable.pay settlement, hpayables.mpr (.inl rfl), rfl, rfl, hiid, approval.amount_eq⟩
  · intro p hp hpaid
    rcases hpayables.mp hp with rfl | ⟨hp, -⟩
    · exact ⟨_, hrecoveries.mpr (.inr rfl), rfl⟩
    · obtain ⟨r, hr, hid⟩ := h.paid_recovery p hp hpaid
      exact ⟨r, hrecoveries.mpr (.inl hr), hid⟩
  · intro r hr r' hr' hsame
    rcases hrecoveries.mp hr with hr | rfl <;> rcases hrecoveries.mp hr' with hr' | rfl
    · exact h.one_recovery r hr r' hr' hsame
    · exact absurd hsame (hno_recovery r hr)
    · exact absurd hsame.symm (hno_recovery r' hr')
    · rfl

end Writes

/-! ## Steps and runs -/

section Steps

variable {db db' : CoverageDb}

theorem SettledLedger.decide (h : SettledLedger db) {input : NoticeDecisionInput}
    (hinst : db.installments.find? input.installment.id = some input.installment)
    (huncovered : input.confirming = true → hasLiveCoverage db input.installment = false) :
    SettledLedger (applyNoticeDecision db input).2 :=
  h.frame rfl rfl (.decide hinst huncovered) (.refl _)

theorem SettledLedger.receive (h : SettledLedger db) {envelope : CoreEnvelope} {now : Instant}
    (hreceive : ReceiveStep db envelope now db') : SettledLedger db' := by
  cases hreceive with
  | quiet same => exact h.same same
  | @reported parsed tenantId link installment _ ctx _ same =>
    have hnotice : SettledLedger (withCoreNotice db envelope parsed tenantId now link installment) :=
      h.frame rfl rfl (.refl _) (.refl _)
    exact hnotice.same same
  | decided ctx _ _ _ huncovered same =>
    have hself := Table.find?_key (Table.find?_eq_some.mp ctx.installment_eq).1
    exact SettledLedger.same (h.decide hself huncovered) same
  | @createdDecided parsed tenantId link installment _ _ ctx _ _ huncovered same =>
    have hnotice : SettledLedger (withCoreNotice db envelope parsed tenantId now link installment) :=
      h.frame rfl rfl (.refl _) (.refl _)
    have hself := Table.find?_key (Table.find?_eq_some.mp ctx.installment_eq).1
    refine SettledLedger.same (hnotice.decide ?_ ?_) same
    · exact hself
    · exact huncovered

/-- **Step.** Every step of coverage keeps the correspondence. -/
theorem SettledLedger.step (h : SettledLedger db) {request : CoverageRequest}
    (hstep : CoverageStep db request db') : SettledLedger db' := by
  cases hstep with
  | quiet same => exact h.same same
  | @scheduled input actor now installment purchase evidence _ hinst hcov =>
    have hmem := (Table.find?_eq_some.mp hinst).1
    have hnone : db.livePayable installment.id = none := by
      simpa [CoverageDb.eligibilityInput] using hcov.noLivePayable
    refine h.schedule (fun _ => rfl) (fun _ => rfl) (fun _ => livePayable_eq_none.mp hnone) ?_
    unfold markOverdue
    split
    · rename_i hscheduled
      exact .put hmem rfl fun hcovered => by rw [hscheduled] at hcovered; cases hcovered
    · exact .refl _
  | cancelled hfind _ hunpaid _ => exact h.cancel (Table.find?_eq_some.mp hfind).1 hunpaid
  | registered _ hnone _ _ _ => exact h.register hnone
  | approved approval => exact h.approve approval
  | rejected hmem hpending _ => exact h.reject hmem hpending
  | reviewed review =>
    exact (h.decide review.installment_mem review.uncovered).same (.of_reviewItems rfl)
  | received hreceive => exact h.receive hreceive
  | swept hscheduled => exact h.frame rfl rfl (.updateStatus hscheduled) (.refl _)
  | paid hfind _ _ => exact h.frame rfl rfl (.refl _) (.updateAmount hfind _ _)
  | reversed hfind _ _ _ _ _ _ => exact h.frame rfl rfl (.refl _) (.updateAmount hfind _ _)

theorem UnsettledPlan.settledLedger (h : UnsettledPlan db) : SettledLedger db := by
  have hs : ∀ s, s ∉ db.settlements := fun s hs => by
    have hrows : s ∈ db.settlements.rows := hs
    rw [h.no_settlements] at hrows
    cases hrows
  have hr : ∀ r, r ∉ db.recoveries := fun r hr => by
    have hrows : r ∈ db.recoveries.rows := hr
    rw [h.no_recoveries] at hrows
    cases hrows
  exact ⟨h.one_live, fun s hs' => absurd hs' (hs s), fun s hs' => absurd hs' (hs s),
    fun p hp hpaid => absurd hpaid (h.unpaid p hp), fun p hp hpaid => absurd hpaid (h.unpaid p hp),
    fun r hr' => absurd hr' (hr r), fun p hp hpaid => absurd hpaid (h.unpaid p hp),
    fun r hr' => absurd hr' (hr r)⟩

/-- The correspondence holds in every reachable database, whatever the requests. -/
theorem settledLedger_of_reachable
    (h : (coverageSystem UnsettledPlan).Reachable (fun _ _ => True) db) : SettledLedger db :=
  Machine.invariant (fun _ => UnsettledPlan.settledLedger)
    (fun _ _ _ _ hstep hledger => hledger.step (coverageSystem_step hstep)) h

end Steps

/-! ## What it says of a payable -/

section Payable

variable {db : CoverageDb} {p : MerchantPayable}

/-- A settlement that stands is the one a decision finds. -/
theorem SettledLedger.findLiveSettlement (h : SettledLedger db) {s : MerchantPayableSettlement}
    (hs : s ∈ db.settlements) (hlive : s.isLive = true) (hid : s.merchantPayableId = p.id) :
    db.findLiveSettlement p.id = some s := by
  cases hfind : db.findLiveSettlement p.id with
  | none =>
    simp [MerchantPayableSettlement.isLive, findLiveSettlement_eq_none.mp hfind s hs hid] at hlive
  | some t =>
    obtain ⟨ht, htid, htnr⟩ := findLiveSettlement_eq_some hfind
    have htlive : t.isLive = true := by simp [MerchantPayableSettlement.isLive, htnr]
    rw [h.one_settlement t ht s hs htlive hlive (htid.trans hid.symm)]

/-- Repeating a confirmation that took effect changes nothing. -/
theorem SettledLedger.approve_again (h : SettledLedger db) (hp : p ∈ db.payables)
    (hpaid : p.status = .paid) (note : Option String) (actor : CoverageActor) (now : Instant) :
    perform db (.approvePayableSettlement p.id note actor now) = db := by
  obtain ⟨s, hs, hid, hconf⟩ := h.paid_confirmed p hp hpaid
  have hlive : s.isLive = true := by simp [MerchantPayableSettlement.isLive, hconf]
  have hfind : db.payables.find? p.id = some p := Table.find?_key hp
  have hsettlement := h.findLiveSettlement hs hlive hid
  have happrove : approvePayableSettlement db p.id note actor now =
      .ok (db.settlementResult p s true, db) := by
    simp only [approvePayableSettlement, CoverageDb.lockPayable, hfind, hsettlement, orFail_some,
      ok_bind, hconf, if_true]
    rfl
  change committed db (approvePayableSettlement db p.id note actor now) = db
  rw [happrove]
  rfl

/-- **A settlement is complete and four-eyed.** In every reachable database a payable is PAID exactly
when one and only one of its settlements is CONFIRMED; that settlement is for its amount and was decided
by another person; the installment is covered and has one recovery, for that amount; a payable that is
not PAID has neither; and confirming a PAID payable again changes nothing. -/
theorem settlement_complete (h : (coverageSystem UnsettledPlan).Reachable (fun _ _ => True) db)
    (hp : p ∈ db.payables) :
    (p.status = .paid ↔
      ∃! s, s ∈ db.settlements ∧ s.merchantPayableId = p.id ∧ s.status = .confirmed) ∧
    (∀ s ∈ db.settlements, s.merchantPayableId = p.id → s.status = .confirmed → s.fourEyed p) ∧
    (p.status = .paid →
      (∃ i ∈ db.installments, i.id = p.installmentId ∧ i.status = .coveredByAtlas) ∧
      (∃! r, r ∈ db.recoveries ∧ r.installmentId = p.installmentId) ∧
      ∃ r ∈ db.recoveries, r.installmentId = p.installmentId ∧ r.merchantPayableId = p.id ∧
        r.amountCoveredByAtlas = p.amount) ∧
    (p.status ≠ .paid →
      (∀ s ∈ db.settlements, s.merchantPayableId = p.id → s.status ≠ .confirmed) ∧
      ∀ r ∈ db.recoveries, r.merchantPayableId ≠ p.id) ∧
    (p.status = .paid → ∀ note actor now,
      perform db (.approvePayableSettlement p.id note actor now) = db) := by
  have hledger := settledLedger_of_reachable h
  have hpaid_of_confirmed : ∀ s ∈ db.settlements, s.merchantPayableId = p.id → s.status = .confirmed →
      p.status = .paid ∧ s.fourEyed p := by
    intro s hs hid hconf
    obtain ⟨q, hq, hqid, hqpaid, hfour⟩ := hledger.confirmed_paid s hs hconf
    obtain rfl : q = p := Table.eq_of_key_eq hq hp (hqid.trans hid)
    exact ⟨hqpaid, hfour⟩
  have hpaid_of_recovery : ∀ r ∈ db.recoveries, r.merchantPayableId = p.id → p.status = .paid := by
    intro r hr hid
    obtain ⟨q, hq, hqid, hqpaid, -⟩ := hledger.recovery_paid r hr
    rwa [← Table.eq_of_key_eq hq hp (hqid.trans hid)]
  refine ⟨⟨fun hpaid => ?_, fun hconfirmed => ?_⟩,
    fun s hs hid hconf => (hpaid_of_confirmed s hs hid hconf).2, fun hpaid => ?_, fun hunpaid => ?_,
    fun hpaid note actor now => hledger.approve_again hp hpaid note actor now⟩
  · obtain ⟨s, hs, hid, hconf⟩ := hledger.paid_confirmed p hp hpaid
    refine ⟨s, ⟨hs, hid, hconf⟩, fun t ht => ?_⟩
    obtain ⟨ht, htid, htconf⟩ := ht
    refine hledger.one_settlement t ht s hs ?_ ?_ (htid.trans hid.symm) <;>
      simp [MerchantPayableSettlement.isLive, hconf, htconf]
  · obtain ⟨s, ⟨hs, hid, hconf⟩, -⟩ := hconfirmed
    exact (hpaid_of_confirmed s hs hid hconf).1
  · obtain ⟨r, hr, hrid⟩ := hledger.paid_recovery p hp hpaid
    obtain ⟨q, hq, hqid, hqpaid, hinst, hamount⟩ := hledger.recovery_paid r hr
    obtain rfl : q = p := Table.eq_of_key_eq hq hp (hqid.trans hrid)
    refine ⟨hledger.paid_covered q hq hpaid, ⟨r, ⟨hr, hinst⟩, fun r' hr' => ?_⟩, r, hr, hinst, hrid, hamount⟩
    obtain ⟨hr', hinst'⟩ := hr'
    -- two recoveries of one installment come from payables in force, so from the same payable
    obtain ⟨q', hq', hqid', hqpaid', hqinst', -⟩ := hledger.recovery_paid r' hr'
    have hsame : q' = q := by
      refine hledger.one_live q' hq' q hq ?_ ?_ (hqinst'.symm.trans hinst') <;>
        simp [MerchantPayable.isLive, hqpaid, hqpaid']
    exact hledger.one_recovery r' hr' r hr (by rw [← hqid', hsame, hqid])
  · exact ⟨fun s hs hid hconf => hunpaid (hpaid_of_confirmed s hs hid hconf).1,
      fun r hr hid => hunpaid (hpaid_of_recovery r hr hid)⟩

end Payable

/-! ## A settled payable -/

section Example

/-- A payable of 70.00 as it is scheduled. -/
def scheduledPayable : MerchantPayable :=
  ⟨1, 9, 1, 1, "CUSTOMER_INSTALLMENT_DEFAULT_COVERAGE", 7000, "BOB", 20020, none, .scheduled, some 100,
    some 1, some 20010, none, none, none, none⟩

/-- One covered installment, before anything is settled. -/
def payablePlan : CoverageDb where
  contractVersions := ⟨[⟨1, 1, .active, 1⟩], oneVersion_nodup⟩
  purchases := ⟨[⟨1, 9, 5, 1, .confirmed⟩], onePurchase_nodup⟩
  coreLinks := []
  files := [(8, .active)]
  installments := ⟨[⟨1, 1, 20000, 7000, .overdue, none⟩], by decide⟩
  notices := .empty
  payables := ⟨[scheduledPayable], by decide⟩
  settlements := .empty
  recoveries := .empty
  movements := .empty
  reviewItems := .empty
  inbox := ⟨[], []⟩
  exceptions := []
  outbox := []
  actionLog := []

/-- The settlement is registered by one person and confirmed by another. -/
def settleByTwo : List CoverageRequest :=
  [.markPayablePaid 1 ⟨"TRF-1", ⟨7000, by decide⟩, "BOB", 9, 1728900000000, 8⟩ ⟨100⟩ 1728907200000,
    .approvePayableSettlement 1 none ⟨101⟩ 1728907200000]

theorem payablePlan_unsettled : UnsettledPlan payablePlan := by
  have hrows : ∀ p ∈ payablePlan.payables, p = scheduledPayable := fun p hp => List.mem_singleton.mp hp
  refine ⟨fun p hp q hq _ _ _ => (hrows p hp).trans (hrows q hq).symm, fun p hp => ?_, rfl, rfl⟩
  rw [hrows p hp]
  decide

/-- After both, exactly one settlement of the payable is confirmed. -/
theorem settlement_complete_byTwo :
    ∃! s, s ∈ (settleByTwo.foldl perform payablePlan).settlements ∧ s.merchantPayableId = 1 ∧
      s.status = .confirmed := by
  have hplan : (coverageSystem UnsettledPlan).Reachable (fun _ _ => True) payablePlan :=
    .of_init payablePlan_unsettled
  have hmem : { scheduledPayable with status := .paid, paidAt := some 1728900000000 } ∈
      (settleByTwo.foldl perform payablePlan).payables.rows := by decide
  exact (settlement_complete (reachable_foldl settleByTwo hplan) hmem).1.mp rfl

end Example

end AtlasErp
