import AtlasErp.Coverage.System

/-! # Delivery orders of the payment events of Core

Core does not order the events of different claims, and repeats them.  What the deliveries leave is
compared for two orders of the same events on an installment without coverage.

- `ClaimEvents`: events of claims on one installment, at most one decision for each claim;
- `Progress`: what the events delivered so far left, whatever their order;
- `coreEvents_confluent`: the notices, but for their id and the two instants of their arrival, the sum
  confirmed and whether the installment is paid are the same for all orders;
- `coreEvents_order_matters`: the status of an installment in arrears, and the instant of the payment,
  are not. -/

namespace AtlasErp

open Lib

/-- A notice without its id and without the instants that its first event brought. -/
def ConsumerPaymentToMerchant.stated (notice : ConsumerPaymentToMerchant) : ConsumerPaymentToMerchant :=
  { notice with id := 0, paidAt := 0, createdAt := 0 }

section Events

variable (db : CoverageDb) (installment : Installment) (link : CoreInstallmentLink) (tenantId : Nat)
  (events : List CoreEnvelope)

/-- The notice of a claim under a decision, or under none. -/
def claimNotice (claim : CoreClaim) (verdict : Option CoreVerdict) : ConsumerPaymentToMerchant where
  id := 0
  purchaseId := link.erpPurchaseId
  installmentId := some installment.id
  amount := claim.amount.val
  paidAt := 0
  evidenceRef := some ("core-claim:" ++ claim.claimCode)
  status := (verdict.map (·.target)).getD .reported
  createdAt := 0
  decidedByUserId := none
  decidedAt := verdict.map (·.decidedAt)
  decisionNote := verdict.map fun v => coreDecisionNote ⟨claim, verdict⟩ v.confirming
  coreTenantId := some tenantId
  coreClaimId := some claim.claimId

/-- Two payloads are of one claim. -/
def CoreParsed.sameClaim (p q : CoreParsed) : Prop := p.claim.claimId = q.claim.claimId

instance (p q : CoreParsed) : Decidable (p.sameClaim q) :=
  inferInstanceAs (Decidable (p.claim.claimId = q.claim.claimId))

/-- A notice of one of the claims that the events are about. -/
def OfClaims (notice : ConsumerPaymentToMerchant) : Prop :=
  notice.coreTenantId = some tenantId ∧
    ∃ e ∈ events, ∃ p, parse e = .ok (p, tenantId) ∧ notice.coreClaimId = some p.claim.claimId

/-- Events of new claims on an installment that is linked to Core and has no coverage.  The events of a
claim agree on its code and amount, and at most one of them decides it. -/
structure ClaimEvents : Prop where
  installment_eq : db.installments.find? installment.id = some installment
  link_eq : link.erpInstallmentId = installment.id
  uncovered : hasLiveCoverage db installment = false
  parsed : ∀ e ∈ events, ∃ p, parse e = .ok (p, tenantId) ∧
    findLink db tenantId p.claim.installmentId = some link ∧ link.coreLoanId = p.claim.loanId ∧
    p.claim.currencyCode = "BOB"
  one_key : ∀ e ∈ events, ∀ e' ∈ events, e.eventKey = e'.eventKey → e = e'
  fresh : ∀ e ∈ events, db.inbox.registered corePaymentsConsumer e.eventKey = false
  unknown : ∀ n ∈ db.notices, ¬OfClaims tenantId events n
  agree : ∀ e ∈ events, ∀ e' ∈ events, ∀ p p', parse e = .ok (p, tenantId) →
    parse e' = .ok (p', tenantId) → p.sameClaim p' →
    p.claim.claimCode = p'.claim.claimCode ∧ p.claim.amount = p'.claim.amount
  one_decision : ∀ e ∈ events, ∀ e' ∈ events, ∀ p p', parse e = .ok (p, tenantId) →
    parse e' = .ok (p', tenantId) → p.sameClaim p' → p.verdict ≠ none → p'.verdict ≠ none → e = e'

/-- Deliver events one after the other, each at its instant. -/
def deliver (deliveries : List (CoreEnvelope × Instant)) : CoverageDb :=
  deliveries.foldl (fun db d => perform db (.receive d.1 d.2)) db

/-- The deliveries are of these events: each at least once, in any order. -/
def Delivers (deliveries : List (CoreEnvelope × Instant)) : Prop :=
  ∀ e, e ∈ deliveries.map (·.1) ↔ e ∈ events

/-- Some claim was confirmed. -/
def SomeConfirmed (seen : List CoreEnvelope) : Prop :=
  ∃ e ∈ seen, ∃ p v, parse e = .ok (p, tenantId) ∧ p.verdict = some v ∧ v.confirming = true

/-- Some claim was rejected after the installment was due. -/
def LateRejection (seen : List CoreEnvelope) : Prop :=
  ∃ e ∈ seen, ∃ p v, parse e = .ok (p, tenantId) ∧ p.verdict = some v ∧ v.confirming = false ∧
    isPastDue installment.dueDate (businessDate v.decidedAt) = true

/-- The notice states what an event said, and no decision was passed over. -/
structure StatedBy (seen : List CoreEnvelope) (notice : ConsumerPaymentToMerchant) (p : CoreParsed) :
    Prop where
  stated : notice.stated = claimNotice installment link tenantId p.claim p.verdict
  decided : p.verdict = none → ∀ e ∈ seen, ∀ q, parse e = .ok (q, tenantId) → p.sameClaim q →
    q.verdict = none

/-- The installment after the events seen. -/
structure InstallmentAfter (seen : List CoreEnvelope) (confirmedMinor : Int) (current : Installment) :
    Prop where
  id_eq : current.id = installment.id
  amount_eq : current.amount = installment.amount
  dueDate_eq : current.dueDate = installment.dueDate
  uncovered : current.status ≠ .coveredByAtlas
  paid : current.status = .paidToMerchant ↔ installment.status = .paidToMerchant ∨
    SomeConfirmed tenantId seen ∧ installment.amount ≤ confirmedMinor
  unpaid : current.status ≠ .paidToMerchant → current.status = installment.status ∨
    installment.status = .scheduled ∧ current.status = .overdue ∧ LateRejection installment tenantId seen

/-- The notices after the events seen: those found, and one for each claim. -/
structure NoticesAfter (seen : List CoreEnvelope) (notices : Table ConsumerPaymentToMerchant) :
    Prop where
  kept : ∀ n ∈ db.notices, n ∈ notices
  one_claim : ∀ n ∈ notices, ∀ n' ∈ notices, n ∉ db.notices → n' ∉ db.notices →
    n.coreClaimId = n'.coreClaimId → n = n'
  claimed : ∀ e ∈ seen, ∀ p, parse e = .ok (p, tenantId) →
    ∃ n ∈ notices, n ∉ db.notices ∧ n.coreClaimId = some p.claim.claimId
  stated : ∀ n ∈ notices, n ∉ db.notices →
    ∃ e ∈ seen, ∃ p, parse e = .ok (p, tenantId) ∧ StatedBy installment link tenantId seen n p

/-- What the events seen left of the ledger they found. -/
structure LedgerAfter (seen : List CoreEnvelope) (db' : CoverageDb) : Prop where
  links_eq : db'.coreLinks = db.coreLinks
  payables_eq : db'.payables = db.payables
  notices : NoticesAfter db installment link tenantId seen db'.notices
  installment : ∃ current, db'.installments.find? installment.id = some current ∧
    InstallmentAfter installment tenantId seen (confirmedMinorOf db' installment.id) current

/-- The ledger after the events seen, and the inbox that tells which they are. -/
structure Progress (seen : List CoreEnvelope) (db' : CoverageDb) : Prop
    extends LedgerAfter db installment link tenantId seen db' where
  seen_events : ∀ e ∈ seen, e ∈ events
  registered : ∀ key, db'.inbox.registered corePaymentsConsumer key =
    (db.inbox.registered corePaymentsConsumer key || seen.any (·.eventKey = key))

end Events

/-! ## One event -/

section Receive

variable {db : CoverageDb} {envelope : CoreEnvelope} {parsed : CoreParsed} {tenantId : Nat}
  {link : CoreInstallmentLink} {installment : Installment}

/-- A repeated event changes nothing. -/
theorem perform_receive_duplicate (hparse : parse envelope = .ok (parsed, tenantId))
    (hseen : db.inbox.registered corePaymentsConsumer envelope.eventKey = true) (now : Instant) :
    perform db (.receive envelope now) = db := by
  have honce := @consumeOnce_duplicate CoverageDb CoreEventOutcome corePaymentsConsumer
    envelope.inboxEvent .everyEvent (receiveEffect envelope parsed tenantId now) db.inbox db rfl hseen
  have hok : receive db envelope now = .ok (.duplicate, { db with inbox := db.inbox }) := by
    simp only [receive, hparse, ok_bind, honce]
    rfl
  change committed db (receive db envelope now) = db
  rw [hok]
  rfl

/-- A new event has its effect, and is registered. -/
theorem perform_receive (ctx : CoreContext db envelope parsed tenantId link installment)
    (now : Instant) : ∃ inbox,
    (∀ key, inbox.registered corePaymentsConsumer key =
      (db.inbox.registered corePaymentsConsumer key || envelope.eventKey = key)) ∧
    perform db (.receive envelope now) =
      { (applyToInstallment db envelope parsed tenantId now link installment).2 with inbox } := by
  obtain ⟨hfresh, hparse, hlink, hloan, hcurrency, hinst⟩ := ctx
  have honce := @consumeOnce_everyEvent CoverageDb CoreEventOutcome corePaymentsConsumer
    envelope.inboxEvent (receiveEffect envelope parsed tenantId now) db.inbox db hfresh
  have happly : apply db envelope parsed tenantId now =
      applyToInstallment db envelope parsed tenantId now link installment := by
    simp only [apply, hlink, hloan, hcurrency, hinst, ne_eq, not_true_eq_false, if_false]
  refine ⟨if (apply db envelope parsed tenantId now).1 = .exception then
    (db.inbox.register corePaymentsConsumer envelope.inboxEvent).setOutcome corePaymentsConsumer
      envelope.eventKey .exception else db.inbox.register corePaymentsConsumer envelope.inboxEvent,
    fun key => ?_, ?_⟩
  · have hregister : (db.inbox.register corePaymentsConsumer envelope.inboxEvent).registered
        corePaymentsConsumer key =
        (db.inbox.registered corePaymentsConsumer key || envelope.eventKey = key) := by
      rw [EventInbox.registered_register, Bool.or_comm]
      simp [CoreEnvelope.inboxEvent]
    split
    · rw [EventInbox.registered_setOutcome, hregister]
    · exact hregister
  · have hok : ∃ outcome, receive db envelope now = .ok (outcome,
        { (applyToInstallment db envelope parsed tenantId now link installment).2 with
          inbox := if (apply db envelope parsed tenantId now).1 = .exception then
            (db.inbox.register corePaymentsConsumer envelope.inboxEvent).setOutcome corePaymentsConsumer
              envelope.eventKey .exception
            else db.inbox.register corePaymentsConsumer envelope.inboxEvent }) := by
      simp only [receive, hparse, ok_bind, honce, receiveEffect, happly]
      exact ⟨_, rfl⟩
    obtain ⟨outcome, hok⟩ := hok
    change committed db (receive db envelope now) = _
    rw [hok]
    rfl

end Receive

/-! ## Notices and installment, event by event -/

section Steps

variable {db db' : CoverageDb} {installment current : Installment} {link : CoreInstallmentLink}
  {tenantId : Nat} {events seen : List CoreEnvelope} {e : CoreEnvelope} {p : CoreParsed}
  {notices notices' : Table ConsumerPaymentToMerchant} {notice : ConsumerPaymentToMerchant}

theorem parsed_unique {q : CoreParsed} (hp : parse e = .ok (p, tenantId))
    (hq : parse e = .ok (q, tenantId)) : q = p := by
  rw [hp] at hq
  cases hq
  rfl

/-- A notice that states what an event said is of its claim, so it is not among those found. -/
theorem ClaimEvents.not_found (h : ClaimEvents db installment link tenantId events) (he : e ∈ events)
    (hp : parse e = .ok (p, tenantId)) {verdict : Option CoreVerdict}
    (hstated : notice.stated = claimNotice installment link tenantId p.claim verdict) :
    notice ∉ db.notices := by
  have htenant : notice.coreTenantId = some tenantId := congrArg (·.coreTenantId) hstated
  have hclaim : notice.coreClaimId = some p.claim.claimId := congrArg (·.coreClaimId) hstated
  exact fun hn => h.unknown notice hn ⟨htenant, e, he, p, hp, hclaim⟩

theorem StatedBy.claim_eq (h : StatedBy installment link tenantId seen notice p) :
    notice.coreClaimId = some p.claim.claimId := congrArg (·.coreClaimId) h.stated

theorem StatedBy.status_eq (h : StatedBy installment link tenantId seen notice p) :
    notice.status = (p.verdict.map (·.target)).getD .reported := congrArg (·.status) h.stated

/-- A statement survives an event of another claim, and an event that decides nothing. -/
theorem StatedBy.cons {q : CoreParsed} (h : StatedBy installment link tenantId seen notice q)
    (hp : parse e = .ok (p, tenantId)) (hother : q.sameClaim p → p.verdict = none) :
    StatedBy installment link tenantId (e :: seen) notice q := by
  refine ⟨h.stated, fun hnone e' he' q' hq' hsame => ?_⟩
  rcases List.mem_cons.mp he' with rfl | he'
  · rw [parsed_unique hp hq'] at hsame ⊢
    exact hother hsame
  · exact h.decided hnone e' he' q' hq' hsame

/-- A report of a known claim adds nothing. -/
theorem NoticesAfter.report (h : NoticesAfter db installment link tenantId seen notices)
    (hp : parse e = .ok (p, tenantId)) (hverdict : p.verdict = none)
    (hknown : ∃ n ∈ notices, n ∉ db.notices ∧ n.coreClaimId = some p.claim.claimId) :
    NoticesAfter db installment link tenantId (e :: seen) notices := by
  refine ⟨h.kept, h.one_claim, fun e' he' q hq => ?_, fun n hn hnew => ?_⟩
  · rcases List.mem_cons.mp he' with rfl | he'
    · rw [parsed_unique hp hq]
      exact hknown
    · exact h.claimed e' he' q hq
  · obtain ⟨e', he', q, hq, hstated⟩ := h.stated n hn hnew
    exact ⟨e', List.mem_cons_of_mem e he', q, hq, hstated.cons hp fun _ => hverdict⟩

/-- The first event of a claim adds its notice. -/
theorem NoticesAfter.add (h : NoticesAfter db installment link tenantId seen notices)
    (hclaims : ClaimEvents db installment link tenantId events) (he : e ∈ events)
    (hp : parse e = .ok (p, tenantId))
    (hunknown : ∀ n ∈ notices, n ∉ db.notices → n.coreClaimId ≠ some p.claim.claimId)
    (hstated : notice.stated = claimNotice installment link tenantId p.claim p.verdict)
    (hrows : ∀ n, n ∈ notices' ↔ n ∈ notices ∨ n = notice) :
    NoticesAfter db installment link tenantId (e :: seen) notices' := by
  have hnew := hclaims.not_found he hp hstated
  have hclaim : notice.coreClaimId = some p.claim.claimId := congrArg (·.coreClaimId) hstated
  refine ⟨fun n hn => (hrows n).mpr (.inl (h.kept n hn)), ?_, ?_, ?_⟩
  · intro n hn n' hn' hnnew hnnew' hsame
    rcases (hrows n).mp hn with hn | rfl <;> rcases (hrows n').mp hn' with hn' | rfl
    · exact h.one_claim n hn n' hn' hnnew hnnew' hsame
    · exact absurd (hsame.trans hclaim) (hunknown n hn hnnew)
    · exact absurd (hsame.symm.trans hclaim) (hunknown n' hn' hnnew')
    · rfl
  · intro e' he' q hq
    rcases List.mem_cons.mp he' with rfl | he'
    · rw [parsed_unique hp hq]
      exact ⟨notice, (hrows _).mpr (.inr rfl), hnew, hclaim⟩
    · obtain ⟨n, hn, hnnew, hnclaim⟩ := h.claimed e' he' q hq
      exact ⟨n, (hrows n).mpr (.inl hn), hnnew, hnclaim⟩
  · intro n hn hnnew
    rcases (hrows n).mp hn with hn | rfl
    · obtain ⟨e', he', q, hq, hnstated⟩ := h.stated n hn hnnew
      refine ⟨e', List.mem_cons_of_mem e he', q, hq, hnstated.cons hp fun hsame => ?_⟩
      exact absurd (hnstated.claim_eq.trans (congrArg some hsame)) (hunknown n hn hnnew)
    · refine ⟨e, List.mem_cons_self, p, hp, hstated, fun hnone e' he' q hq hsame => ?_⟩
      rcases List.mem_cons.mp he' with rfl | he'
      · rw [parsed_unique hp hq]
        exact hnone
      · obtain ⟨n, hn, hnnew, hnclaim⟩ := h.claimed e' he' q hq
        exact absurd (hnclaim.trans (congrArg some hsame.symm)) (hunknown n hn hnnew)

/-- The decision of a claim rewrites its notice. -/
theorem NoticesAfter.decide (h : NoticesAfter db installment link tenantId seen notices)
    (hclaims : ClaimEvents db installment link tenantId events) (he : e ∈ events)
    (hp : parse e = .ok (p, tenantId)) (hverdict : p.verdict ≠ none) {decided : ConsumerPaymentToMerchant}
    (hnotice : notice ∈ notices) (hnew : notice ∉ db.notices)
    (hclaim : notice.coreClaimId = some p.claim.claimId)
    (hstated : decided.stated = claimNotice installment link tenantId p.claim p.verdict)
    (hrows : ∀ n, n ∈ notices' ↔ n = decided ∨ (n ∈ notices ∧ n.id ≠ notice.id)) :
    NoticesAfter db installment link tenantId (e :: seen) notices' := by
  have hdecided : decided.coreClaimId = some p.claim.claimId := congrArg (·.coreClaimId) hstated
  have hdecidedNew := hclaims.not_found he hp hstated
  have hkeeps : ∀ n ∈ notices, n ≠ notice → n ∈ notices' := fun n hn hne =>
    (hrows n).mpr (.inr ⟨hn, fun hid => hne (Table.eq_of_key_eq hn hnotice hid)⟩)
  have hother : ∀ n ∈ notices, n.id ≠ notice.id → n ∉ db.notices →
      n.coreClaimId ≠ some p.claim.claimId := by
    intro n hn hid hnnew hnclaim
    exact hid (congrArg (·.id) (h.one_claim n hn notice hnotice hnnew hnew (hnclaim.trans hclaim.symm)))
  refine ⟨fun n hn => hkeeps n (h.kept n hn) fun heq => hnew (heq ▸ hn), ?_, ?_, ?_⟩
  · intro n hn n' hn' hnnew hnnew' hsame
    rcases (hrows n).mp hn with rfl | ⟨hn, hid⟩ <;> rcases (hrows n').mp hn' with rfl | ⟨hn', hid'⟩
    · rfl
    · exact absurd (hsame.symm.trans hdecided) (hother n' hn' hid' hnnew')
    · exact absurd (hsame.trans hdecided) (hother n hn hid hnnew)
    · exact h.one_claim n hn n' hn' hnnew hnnew' hsame
  · intro e' he' q hq
    rcases List.mem_cons.mp he' with rfl | he'
    · rw [parsed_unique hp hq]
      exact ⟨decided, (hrows _).mpr (.inl rfl), hdecidedNew, hdecided⟩
    · obtain ⟨n, hn, hnnew, hnclaim⟩ := h.claimed e' he' q hq
      by_cases hsame : n = notice
      · refine ⟨decided, (hrows _).mpr (.inl rfl), hdecidedNew, ?_⟩
        rw [hdecided, ← hclaim, ← hsame, hnclaim]
      · exact ⟨n, hkeeps n hn hsame, hnnew, hnclaim⟩
  · intro n hn hnnew
    rcases (hrows n).mp hn with rfl | ⟨hn, hid⟩
    · exact ⟨e, List.mem_cons_self, p, hp, hstated, fun hnone => absurd hnone hverdict⟩
    · obtain ⟨e', he', q, hq, hnstated⟩ := h.stated n hn hnnew
      refine ⟨e', List.mem_cons_of_mem e he', q, hq, hnstated.cons hp fun hsame => ?_⟩
      exact absurd (hnstated.claim_eq.trans (congrArg some hsame)) (hother n hn hid hnnew)

/-- Whether some claim was confirmed does not depend on an event that confirms none. -/
theorem someConfirmed_cons (hp : parse e = .ok (p, tenantId))
    (hnot : ∀ v, p.verdict = some v → v.confirming = false) :
    SomeConfirmed tenantId (e :: seen) ↔ SomeConfirmed tenantId seen := by
  constructor
  · rintro ⟨e', he', q, v, hq, hv, hconfirming⟩
    rcases List.mem_cons.mp he' with rfl | he'
    · rw [parsed_unique hp hq] at hv
      rw [hnot v hv] at hconfirming
      cases hconfirming
    · exact ⟨e', he', q, v, hq, hv, hconfirming⟩
  · rintro ⟨e', he', hrest⟩
    exact ⟨e', List.mem_cons_of_mem e he', hrest⟩

theorem LateRejection.cons (h : LateRejection installment tenantId seen) :
    LateRejection installment tenantId (e :: seen) := by
  obtain ⟨e', he', hrest⟩ := h
  exact ⟨e', List.mem_cons_of_mem e he', hrest⟩

variable {confirmedMinor confirmedMinor' stillPending : Int}

/-- An event that leaves the installment and the sum confirmed, and confirms nothing. -/
theorem InstallmentAfter.same (h : InstallmentAfter installment tenantId seen confirmedMinor current)
    (hp : parse e = .ok (p, tenantId)) (hnot : ∀ v, p.verdict = some v → v.confirming = false) :
    InstallmentAfter installment tenantId (e :: seen) confirmedMinor current := by
  refine ⟨h.id_eq, h.amount_eq, h.dueDate_eq, h.uncovered, ?_, fun hne => ?_⟩
  · rw [someConfirmed_cons hp hnot]
    exact h.paid
  · rcases h.unpaid hne with hsame | ⟨hscheduled, hoverdue, hlate⟩
    · exact .inl hsame
    · exact .inr ⟨hscheduled, hoverdue, hlate.cons⟩

/-- A confirmation pays the installment when the sum confirmed reaches its amount. -/
theorem InstallmentAfter.confirm (h : InstallmentAfter installment tenantId seen confirmedMinor current)
    {verdict : CoreVerdict} (hp : parse e = .ok (p, tenantId)) (hverdict : p.verdict = some verdict)
    (hconfirming : verdict.confirming = true) (hmono : confirmedMinor ≤ confirmedMinor')
    {input : NoticeDecisionInput} (hinput : input.installment = current)
    (hinputConfirming : input.confirming = true) :
    InstallmentAfter installment tenantId (e :: seen) confirmedMinor'
      (input.decidedInstallment confirmedMinor' stillPending) := by
  subst hinput
  have hsome : SomeConfirmed tenantId (e :: seen) :=
    ⟨e, List.mem_cons_self, p, verdict, hp, hverdict, hconfirming⟩
  have hamount := h.amount_eq
  unfold NoticeDecisionInput.decidedInstallment
  by_cases hreached : confirmedMinor' ≥ input.installment.amount
  · rw [if_pos ⟨hinputConfirming, hreached⟩]
    refine ⟨h.id_eq, hamount, h.dueDate_eq, nofun, ?_, fun hne => absurd rfl hne⟩
    exact ⟨fun _ => .inr ⟨hsome, by omega⟩, fun _ => rfl⟩
  · rw [if_neg fun hboth => hreached hboth.2, if_neg fun hboth => by simp [hinputConfirming] at hboth]
    refine ⟨h.id_eq, hamount, h.dueDate_eq, h.uncovered, ?_, fun hne => ?_⟩
    · rw [h.paid]
      constructor
      · rintro (hinit | ⟨-, hle⟩)
        · exact .inl hinit
        · omega
      · rintro (hinit | ⟨-, hle⟩)
        · exact .inl hinit
        · omega
    · rcases h.unpaid hne with hsame | ⟨hscheduled, hoverdue, hlate⟩
      · exact .inl hsame
      · exact .inr ⟨hscheduled, hoverdue, hlate.cons⟩

/-- A rejection can only take a scheduled installment to overdue. -/
theorem InstallmentAfter.reject (h : InstallmentAfter installment tenantId seen confirmedMinor current)
    {verdict : CoreVerdict} (hp : parse e = .ok (p, tenantId)) (hverdict : p.verdict = some verdict)
    (hrejecting : verdict.confirming = false) {input : NoticeDecisionInput}
    (hinput : input.installment = current) (hinputRejecting : input.confirming = false)
    (hnow : input.now = verdict.decidedAt) :
    InstallmentAfter installment tenantId (e :: seen) confirmedMinor
      (input.decidedInstallment confirmedMinor stillPending) := by
  have hnot : ∀ v, p.verdict = some v → v.confirming = false := by
    intro v hv
    obtain rfl : verdict = v := Option.some.inj (hverdict.symm.trans hv)
    exact hrejecting
  have hsame := h.same hp hnot
  subst hinput
  unfold NoticeDecisionInput.decidedInstallment
  rw [if_neg fun hboth => by simp [hinputRejecting] at hboth]
  split
  · rename_i hoverdue
    obtain ⟨-, -, hscheduled, hpast⟩ := hoverdue
    have hunpaid : input.installment.status ≠ .paidToMerchant := by simp [hscheduled]
    have hinit : installment.status = .scheduled := by
      rcases h.unpaid hunpaid with heq | ⟨-, heq, -⟩
      · rw [← heq, hscheduled]
      · rw [hscheduled] at heq
        cases heq
    have hlate : LateRejection installment tenantId (e :: seen) := by
      refine ⟨e, List.mem_cons_self, p, verdict, hp, hverdict, hrejecting, ?_⟩
      rw [← h.dueDate_eq, ← hnow]
      exact hpast
    refine ⟨h.id_eq, h.amount_eq, h.dueDate_eq, nofun, ?_, fun _ => .inr ⟨hinit, rfl, hlate⟩⟩
    exact ⟨nofun, fun hpaid => absurd (hsame.paid.mpr hpaid) hunpaid⟩
  · exact hsame

/-! ## The step -/

/-- What a decision confirms: its notice when it confirms, nothing otherwise. -/
theorem confirmedMinorOf_decide (input : NoticeDecisionInput) (hnotice : input.notice ∈ db.notices)
    (hreported : input.notice.status = .reported) (installmentId : Nat) :
    confirmedMinorOf { db with notices := db.notices.put input.decidedNotice } installmentId =
      confirmedMinorOf db installmentId +
        (if input.confirming ∧ input.notice.installmentId = some installmentId then input.notice.amount
          else 0) := by
  have hput := confirmedMinorOf_put input.decidedNotice hnotice rfl installmentId db.installments
  have hbefore : input.notice.confirmedFor installmentId = false := by
    simp [ConsumerPaymentToMerchant.confirmedFor, hreported]
  have hafter : input.decidedNotice.confirmedFor installmentId =
      decide (input.confirming ∧ input.notice.installmentId = some installmentId) := by
    cases hconfirming : input.confirming <;>
      simp [ConsumerPaymentToMerchant.confirmedFor, NoticeDecisionInput.decidedNotice, hconfirming]
  rw [hbefore, hafter] at hput
  simpa [NoticeDecisionInput.decidedNotice] using hput

/-- A decision on the installment, by what it confirms. -/
theorem InstallmentAfter.decide
    (h : InstallmentAfter installment tenantId seen (confirmedMinorOf db' installment.id) current)
    {verdict : CoreVerdict} (hp : parse e = .ok (p, tenantId)) (hverdict : p.verdict = some verdict)
    (hnotice : notice ∈ db'.notices) (hreported : notice.status = .reported) (hamount : 0 ≤ notice.amount) :
    InstallmentAfter installment tenantId (e :: seen)
      (confirmedMinorOf (applyNoticeDecision db' (coreDecision db' p verdict current notice)).2 installment.id)
      (applyNoticeDecision db' (coreDecision db' p verdict current notice)).1.installment := by
  have hsum := confirmedMinorOf_decide (coreDecision db' p verdict current notice) hnotice
    hreported installment.id
  have hid := h.id_eq
  change InstallmentAfter installment tenantId (e :: seen) (confirmedMinorOf { db' with
    notices := db'.notices.put (coreDecision db' p verdict current notice).decidedNotice } installment.id)
    ((coreDecision db' p verdict current notice).decidedInstallment (confirmedMinorOf { db' with
      notices := db'.notices.put (coreDecision db' p verdict current notice).decidedNotice } current.id) _)
  rw [hid, hsum]
  cases hconfirming : verdict.confirming with
  | true =>
    refine h.confirm hp hverdict hconfirming ?_ rfl hconfirming
    split <;> simp [coreDecision, hamount]
  | false =>
    rw [if_neg fun hboth => by simp [coreDecision, hconfirming] at hboth, add_zero]
    exact h.reject hp hverdict hconfirming rfl hconfirming rfl

theorem coreNotice_stated (e : CoreEnvelope) (p : CoreParsed) (tenantId : Nat) (link : CoreInstallmentLink)
    (hid : current.id = installment.id) (now : Instant) (id : Nat) :
    (coreNotice e p tenantId now link current id).stated =
      claimNotice installment link tenantId p.claim none := by
  simp [coreNotice, ConsumerPaymentToMerchant.stated, claimNotice, hid]

/-- The decided notice states the decision, when the events of its claim agree. -/
theorem decidedNotice_stated (db' : CoverageDb) (current : Installment) {q : CoreParsed} {verdict : CoreVerdict}
    (hstated : notice.stated = claimNotice installment link tenantId q.claim none)
    (hsame : q.sameClaim p) (hagree : q.claim.claimCode = p.claim.claimCode ∧ q.claim.amount = p.claim.amount)
    (hverdict : p.verdict = some verdict) :
    (coreDecision db' p verdict current notice).decidedNotice.stated =
      claimNotice installment link tenantId p.claim p.verdict := by
  have hclaim : q.claim.claimId = p.claim.claimId := hsame
  have hfields : (coreDecision db' p verdict current notice).decidedNotice.stated =
      { notice.stated with
        status := verdict.target
        decidedByUserId := none
        decidedAt := some verdict.decidedAt
        decisionNote := some (coreDecisionNote p verdict.confirming) } := rfl
  rw [hfields, hstated, hverdict]
  simp [claimNotice, coreDecisionNote, hclaim, hagree.1, hagree.2]

theorem decideClaim_uncovered (huncovered : hasLiveCoverage db' current = false) (now : Instant)
    (verdict : CoreVerdict) :
    (decideClaim db' p now verdict current notice).2 =
      (applyNoticeDecision db' (coreDecision db' p verdict current notice)).2 := by
  simp [decideClaim, huncovered]

end Steps

/-! ## Every delivery order -/

section Orders

variable {db db' : CoverageDb} {installment : Installment} {link : CoreInstallmentLink}
  {tenantId : Nat} {events seen : List CoreEnvelope} {e : CoreEnvelope} {p : CoreParsed}

/-- A claim that is known has a notice that is not among those found. -/
theorem ClaimEvents.findClaim_eq_some (h : ClaimEvents db installment link tenantId events)
    (he : e ∈ events) (hp : parse e = .ok (p, tenantId)) {n : ConsumerPaymentToMerchant}
    (hfind : findClaim db' tenantId p.claim.claimId = some n) :
    n ∈ db'.notices ∧ n ∉ db.notices ∧ n.coreClaimId = some p.claim.claimId := by
  obtain ⟨hn, hwhere⟩ := Table.findBy_eq_some hfind
  obtain ⟨htenant, hclaim⟩ := of_decide_eq_true hwhere
  exact ⟨hn, fun hold => h.unknown n hold ⟨htenant, e, he, p, hp, hclaim⟩, hclaim⟩

theorem NoticesAfter.findClaim_eq_none
    (h : NoticesAfter db installment link tenantId seen db'.notices)
    (hfind : findClaim db' tenantId p.claim.claimId = none) :
    ∀ n ∈ db'.notices, n ∉ db.notices → n.coreClaimId ≠ some p.claim.claimId := by
  intro n hn hnew hclaim
  obtain ⟨e', _, q, _, hstated⟩ := h.stated n hn hnew
  have htenant : n.coreTenantId = some tenantId := congrArg (·.coreTenantId) hstated.stated
  have hfalse := Table.findBy_eq_none.mp hfind n hn
  simp [htenant, hclaim] at hfalse

/-- The notice of a claim whose decision was not seen yet is still reported. -/
theorem NoticesAfter.undecided (h : NoticesAfter db installment link tenantId seen db'.notices)
    (hclaims : ClaimEvents db installment link tenantId events) (hevents : ∀ e ∈ seen, e ∈ events)
    (he : e ∈ events) (hseen : e ∉ seen) (hp : parse e = .ok (p, tenantId)) (hverdict : p.verdict ≠ none)
    {n : ConsumerPaymentToMerchant} (hn : n ∈ db'.notices) (hnew : n ∉ db.notices)
    (hclaim : n.coreClaimId = some p.claim.claimId) :
    n.status = .reported ∧ ∃ q : CoreParsed, q.sameClaim p ∧
      n.stated = claimNotice installment link tenantId q.claim none ∧
      q.claim.claimCode = p.claim.claimCode ∧ q.claim.amount = p.claim.amount := by
  obtain ⟨e', he', q, hq, hstated⟩ := h.stated n hn hnew
  have hsame : q.sameClaim p := Option.some.inj (hstated.claim_eq.symm.trans hclaim)
  have hundecided : q.verdict = none := by
    by_contra hdecided
    obtain rfl := hclaims.one_decision e' (hevents e' he') e he q p hq hp hsame hdecided hverdict
    exact hseen he'
  have hstatus := hstated.status_eq
  have hnotice := hstated.stated
  rw [hundecided] at hstatus hnotice
  exact ⟨hstatus, q, hsame, hnotice, hclaims.agree e' (hevents e' he') e he q p hq hp hsame⟩

theorem claimNotice_amount_nonneg {n : ConsumerPaymentToMerchant} {claim : CoreClaim}
    {verdict : Option CoreVerdict} (h : n.stated = claimNotice installment link tenantId claim verdict) :
    0 ≤ n.amount := by
  have hamount : n.amount = claim.amount.val := congrArg (·.amount) h
  have hpos := claim.amount.property
  omega

/-- A new event of a claim, whatever was seen before it. -/
theorem LedgerAfter.apply (h : LedgerAfter db installment link tenantId seen db')
    (hclaims : ClaimEvents db installment link tenantId events) (hevents : ∀ e ∈ seen, e ∈ events)
    (he : e ∈ events) (hseen : e ∉ seen) (hp : parse e = .ok (p, tenantId)) {current : Installment}
    (hcurrent : db'.installments.find? installment.id = some current) (now : Instant) :
    LedgerAfter db installment link tenantId (e :: seen)
      (applyToInstallment db' e p tenantId now link current).2 := by
  obtain ⟨hlinks, hpayables, hnotices, current', hcurrent', hafter⟩ := h
  obtain rfl : current = current' := Option.some.inj (hcurrent.symm.trans hcurrent')
  have hmem := (Table.find?_eq_some.mp hcurrent).1
  have huncovered : hasLiveCoverage db' current = false := by
    obtain ⟨-, hnone⟩ := hasLiveCoverage_eq_false.mp hclaims.uncovered
    refine hasLiveCoverage_eq_false.mpr ⟨hafter.uncovered, ?_⟩
    rwa [CoverageDb.livePayable, hpayables, hafter.id_eq]
  have hput : ∀ {i : Installment}, i.id = installment.id →
      (db'.installments.put i).find? installment.id = some i := by
    intro i hi
    rw [← hi]
    exact Table.find?_put_self hmem (hi.trans hafter.id_eq.symm)
  unfold applyToInstallment
  cases hverdict : p.verdict with
  | none =>
    have hnot : ∀ v, p.verdict = some v → v.confirming = false := fun v hv => by simp [hverdict] at hv
    cases hfind : findClaim db' tenantId p.claim.claimId with
    | some existing =>
      obtain ⟨hn, hnew, hclaim⟩ := hclaims.findClaim_eq_some he hp hfind
      exact ⟨hlinks, hpayables, hnotices.report hp hverdict ⟨existing, hn, hnew, hclaim⟩, current, hcurrent,
        hafter.same hp hnot⟩
    | none =>
      have hstated := coreNotice_stated e p tenantId link hafter.id_eq now
      refine ⟨hlinks, hpayables, ?_, current, hcurrent, ?_⟩
      · refine hnotices.add hclaims he hp (hnotices.findClaim_eq_none hfind)
          ((hstated db'.notices.nextKey).trans (by rw [hverdict])) fun n => ?_
        exact Table.mem_create fun _ => rfl
      · dsimp only
        rw [confirmedMinorOf_create (fun _ => rfl) fun _ => rfl]
        exact hafter.same hp hnot
  | some verdict =>
    have hdecides : p.verdict ≠ none := by simp [hverdict]
    cases hfind : findClaim db' tenantId p.claim.claimId with
    | some existing =>
      obtain ⟨hn, hnew, hclaim⟩ := hclaims.findClaim_eq_some he hp hfind
      obtain ⟨hreported, q, hsame, hstated, hagree⟩ :=
        hnotices.undecided hclaims hevents he hseen hp hdecides hn hnew hclaim
      have htarget : existing.status ≠ verdict.target := by
        rw [hreported]
        unfold CoreVerdict.target
        split <;> exact fun heq => by cases heq
      dsimp only
      rw [if_neg htarget, if_neg (not_not.mpr hreported), decideClaim_uncovered huncovered]
      have hdecision := hafter.decide hp hverdict hn hreported (claimNotice_amount_nonneg hstated)
      refine ⟨hlinks, hpayables, ?_, _, hput hdecision.id_eq, hdecision⟩
      have hdecided := decidedNotice_stated db' current hstated hsame hagree hverdict
      refine hnotices.decide hclaims he hp hdecides hn hnew hclaim hdecided fun n => ?_
      exact @Table.mem_put _ _ db'.notices existing
        (coreDecision db' p verdict current existing).decidedNotice hn rfl n
    | none =>
      have huncovered' : hasLiveCoverage (withCoreNotice db' e p tenantId now link current) current = false :=
        huncovered
      change LedgerAfter db installment link tenantId (e :: seen)
        (decideClaim (withCoreNotice db' e p tenantId now link current) p now verdict current
          (coreNotice e p tenantId now link current db'.notices.nextKey)).2
      rw [decideClaim_uncovered huncovered']
      have hstated := coreNotice_stated e p tenantId link hafter.id_eq now db'.notices.nextKey
      have hcreate := fun {x} => @Table.mem_create _ _ db'.notices
        (coreNotice e p tenantId now link current) (fun _ => rfl) x
      have hcreated := hcreate.mpr (.inr rfl)
      have hbefore : InstallmentAfter installment tenantId seen (confirmedMinorOf
          (withCoreNotice db' e p tenantId now link current) installment.id) current := by
        unfold withCoreNotice
        rw [confirmedMinorOf_create (fun _ => rfl) fun _ => rfl]
        exact hafter
      have hdecision := hbefore.decide hp hverdict hcreated rfl (claimNotice_amount_nonneg hstated)
      refine ⟨hlinks, hpayables, ?_, _, hput hdecision.id_eq, hdecision⟩
      have hdecided := decidedNotice_stated (withCoreNotice db' e p tenantId now link current)
        current hstated rfl ⟨rfl, rfl⟩ hverdict
      refine hnotices.add hclaims he hp (hnotices.findClaim_eq_none hfind) hdecided fun n => ?_
      have hmem_put := @Table.mem_put _ _ (db'.notices.create (coreNotice e p tenantId now link current)) _
        (coreDecision (withCoreNotice db' e p tenantId now link current) p verdict current
          (coreNotice e p tenantId now link current db'.notices.nextKey)).decidedNotice hcreated rfl n
      refine hmem_put.trans ⟨?_, ?_⟩
      · rintro (rfl | ⟨hn, hne⟩)
        · exact .inr rfl
        · exact .inl ((hcreate.mp hn).resolve_right fun heq => hne (heq ▸ rfl))
      · rintro (hn | rfl)
        · exact .inr ⟨hcreate.mpr (.inl hn), Nat.ne_of_lt (Table.key_lt_nextKey hn)⟩
        · exact .inl rfl

/-- **Step.** Whatever event comes next, the progress is that of the events seen with it. -/
theorem Progress.receive (h : Progress db installment link tenantId events seen db')
    (hclaims : ClaimEvents db installment link tenantId events) (he : e ∈ events) (now : Instant) :
    ∃ seen', (∀ x, x ∈ seen' ↔ x = e ∨ x ∈ seen) ∧
      Progress db installment link tenantId events seen' (perform db' (.receive e now)) := by
  obtain ⟨p, hp, hlink, hloan, hcurrency⟩ := hclaims.parsed e he
  by_cases hseen : e ∈ seen
  · have hregistered : db'.inbox.registered corePaymentsConsumer e.eventKey = true := by
      rw [h.registered, Bool.or_eq_true]
      exact .inr (List.any_eq_true.mpr ⟨e, hseen, decide_eq_true rfl⟩)
    rw [perform_receive_duplicate hp hregistered]
    refine ⟨seen, fun x => ⟨.inr, ?_⟩, h⟩
    rintro (rfl | hx)
    · exact hseen
    · exact hx
  obtain ⟨current, hcurrent, hafter⟩ := h.installment
  have hfresh : db'.inbox.registered corePaymentsConsumer e.eventKey = false := by
    rw [h.registered, hclaims.fresh e he, Bool.false_or, List.any_eq_false]
    intro e' he' hkey
    obtain rfl := hclaims.one_key e' (h.seen_events e' he') e he (of_decide_eq_true hkey)
    exact hseen he'
  have hlink' : findLink db' tenantId p.claim.installmentId = some link := by
    rw [findLink, h.links_eq]
    exact hlink
  have ctx : CoreContext db' e p tenantId link current :=
    ⟨hfresh, hp, hlink', hloan, hcurrency, hclaims.link_eq ▸ hcurrent⟩
  obtain ⟨inbox, hregistered, hperform⟩ := perform_receive ctx now
  obtain ⟨hlinks, hpayables, hnotices, hinstallment⟩ :=
    h.toLedgerAfter.apply hclaims h.seen_events he hseen hp hcurrent now
  rw [hperform]
  refine ⟨e :: seen, fun x => List.mem_cons, ⟨hlinks, hpayables, hnotices, hinstallment⟩, ?_, fun key => ?_⟩
  · intro x hx
    rcases List.mem_cons.mp hx with rfl | hx
    · exact he
    · exact h.seen_events x hx
  · change inbox.registered corePaymentsConsumer key = _
    rw [hregistered, h.registered, List.any_cons, Bool.or_assoc, Bool.or_comm (seen.any _)]

theorem ClaimEvents.progress (h : ClaimEvents db installment link tenantId events) :
    Progress db installment link tenantId events [] db := by
  have hstatus := (hasLiveCoverage_eq_false.mp h.uncovered).1
  refine ⟨⟨rfl, rfl, ⟨fun _ hn => hn, fun n hn _ _ hnew => absurd hn hnew, fun _ he => absurd he List.not_mem_nil,
    fun n hn hnew => absurd hn hnew⟩, installment, h.installment_eq, rfl, rfl, rfl, hstatus, ?_,
    fun _ => .inl rfl⟩, fun _ he => absurd he List.not_mem_nil, fun key => (Bool.or_false _).symm⟩
  refine ⟨.inl, fun hpaid => hpaid.resolve_right fun ⟨hsome, _⟩ => ?_⟩
  obtain ⟨_, hmem, _⟩ := hsome
  cases hmem

/-- **Run.** After any deliveries of the events, the progress is that of the events delivered. -/
theorem Progress.deliver (hclaims : ClaimEvents db installment link tenantId events)
    (deliveries : List (CoreEnvelope × Instant)) (hdeliveries : ∀ d ∈ deliveries, d.1 ∈ events)
    (h : Progress db installment link tenantId events seen db') :
    ∃ seen', (∀ x, x ∈ seen' ↔ x ∈ deliveries.map (·.1) ∨ x ∈ seen) ∧
      Progress db installment link tenantId events seen' (AtlasErp.deliver db' deliveries) := by
  induction deliveries generalizing seen db' with
  | nil => exact ⟨seen, fun x => by simp, h⟩
  | cons d deliveries ih =>
    obtain ⟨seen₁, hseen₁, hprogress⟩ :=
      h.receive hclaims (hdeliveries d List.mem_cons_self) d.2
    obtain ⟨seen', hseen', hprogress'⟩ :=
      ih (fun d' hd' => hdeliveries d' (List.mem_cons_of_mem d hd')) hprogress
    refine ⟨seen', fun x => ?_, hprogress'⟩
    rw [hseen', hseen₁, List.map_cons, List.mem_cons]
    tauto

/-- After all the events were delivered, in whatever order, the progress is that of the events. -/
theorem ClaimEvents.delivered (h : ClaimEvents db installment link tenantId events)
    {deliveries : List (CoreEnvelope × Instant)} (hdeliveries : Delivers events deliveries) :
    ∃ seen, (∀ x, x ∈ seen ↔ x ∈ events) ∧
      Progress db installment link tenantId events seen (deliver db deliveries) := by
  obtain ⟨seen, hseen, hprogress⟩ := h.progress.deliver h deliveries fun d hd =>
    (hdeliveries d.1).mp (List.mem_map_of_mem hd)
  exact ⟨seen, fun x => by simp [hseen, hdeliveries x], hprogress⟩

variable {notices notices' : Table ConsumerPaymentToMerchant} {seen' : List CoreEnvelope}
  {deliveries deliveries' : List (CoreEnvelope × Instant)}

/-- Two orders that saw all the events leave notices that state the same. -/
theorem NoticesAfter.states (hclaims : ClaimEvents db installment link tenantId events)
    (h : NoticesAfter db installment link tenantId seen notices) (hseen : ∀ x, x ∈ seen ↔ x ∈ events)
    (h' : NoticesAfter db installment link tenantId seen' notices') (hseen' : ∀ x, x ∈ seen' ↔ x ∈ events)
    {n : ConsumerPaymentToMerchant} (hn : n ∈ notices) (hnew : n ∉ db.notices) :
    ∃ n' ∈ notices', n' ∉ db.notices ∧ n'.stated = n.stated := by
  obtain ⟨e, he, p, hp, hstated⟩ := h.stated n hn hnew
  have hevent := (hseen e).mp he
  obtain ⟨n', hn', hnew', hclaim'⟩ := h'.claimed e ((hseen' e).mpr hevent) p hp
  obtain ⟨e', he', p', hp', hstated'⟩ := h'.stated n' hn' hnew'
  have hevent' := (hseen' e').mp he'
  have hsame : p'.sameClaim p := Option.some.inj (hstated'.claim_eq.symm.trans hclaim')
  refine ⟨n', hn', hnew', ?_⟩
  rw [hstated.stated, hstated'.stated]
  by_cases hverdict : p.verdict = none
  · have hverdict' := hstated.decided hverdict e' ((hseen e').mpr hevent') p' hp' hsame.symm
    have hid : p'.claim.claimId = p.claim.claimId := hsame
    obtain ⟨hcode, hamount⟩ := hclaims.agree e' hevent' e hevent p' p hp' hp hsame
    rw [hverdict, hverdict']
    simp [claimNotice, hid, hcode, hamount]
  · have hverdict' : p'.verdict ≠ none := fun hnone =>
      hverdict (hstated'.decided hnone e ((hseen' e).mpr hevent) p hp hsame)
    obtain rfl := hclaims.one_decision e' hevent' e hevent p' p hp' hp hsame hverdict' hverdict
    rw [parsed_unique hp hp']

theorem NoticesAfter.perm (hclaims : ClaimEvents db installment link tenantId events)
    (h : NoticesAfter db installment link tenantId seen notices) (hseen : ∀ x, x ∈ seen ↔ x ∈ events)
    (h' : NoticesAfter db installment link tenantId seen' notices') (hseen' : ∀ x, x ∈ seen' ↔ x ∈ events) :
    (notices.rows.map (·.stated)).Perm (notices'.rows.map (·.stated)) := by
  have hnodup : ∀ {seen notices}, NoticesAfter db installment link tenantId seen notices →
      ((notices.rows.filter (· ∉ db.notices.rows)).map (·.stated)).Nodup := by
    intro seen notices h
    refine List.Nodup.map_on (fun n hn n' hn' heq => ?_) ((List.Nodup.of_map _ notices.nodup).filter _)
    obtain ⟨hn, hnew⟩ := List.mem_filter.mp hn
    obtain ⟨hn', hnew'⟩ := List.mem_filter.mp hn'
    rw [decide_eq_true_eq] at hnew hnew'
    exact h.one_claim n hn n' hn' hnew hnew' (congrArg (·.coreClaimId) heq)
  have hsub : ∀ {seen seen' notices notices'}, NoticesAfter db installment link tenantId seen notices →
      (∀ x, x ∈ seen ↔ x ∈ events) → NoticesAfter db installment link tenantId seen' notices' →
      (∀ x, x ∈ seen' ↔ x ∈ events) →
      ∀ m ∈ (notices.rows.filter (· ∉ db.notices.rows)).map (·.stated),
        m ∈ (notices'.rows.filter (· ∉ db.notices.rows)).map (·.stated) := by
    intro seen seen' notices notices' h hseen h' hseen' m hm
    obtain ⟨n, hn, rfl⟩ := List.mem_map.mp hm
    obtain ⟨hn, hnew⟩ := List.mem_filter.mp hn
    rw [decide_eq_true_eq] at hnew
    obtain ⟨n', hn', hnew', heq⟩ := h.states hclaims hseen h' hseen' hn hnew
    exact List.mem_map.mpr ⟨n', List.mem_filter.mpr ⟨hn', decide_eq_true_eq.mpr hnew'⟩, heq⟩
  have hnew : ((notices.rows.filter (· ∉ db.notices.rows)).map (·.stated)).Perm
      ((notices'.rows.filter (· ∉ db.notices.rows)).map (·.stated)) :=
    (List.perm_ext_iff_of_nodup (hnodup h) (hnodup h')).mpr fun m =>
      ⟨hsub h hseen h' hseen' m, hsub h' hseen' h hseen m⟩
  have hsplit := (Table.perm_append_new h.kept).map (·.stated)
  have hsplit' := (Table.perm_append_new h'.kept).map (·.stated)
  rw [List.map_append] at hsplit hsplit'
  exact hsplit.trans ((hnew.append_left _).trans hsplit'.symm)

/-- The sum confirmed only depends on what the notices state. -/
theorem confirmedMinorOf_congr {db₁ db₂ : CoverageDb}
    (h : (db₁.notices.rows.map (·.stated)).Perm (db₂.notices.rows.map (·.stated))) (installmentId : Nat) :
    confirmedMinorOf db₁ installmentId = confirmedMinorOf db₂ installmentId := by
  rw [confirmedMinorOf_eq, confirmedMinorOf_eq]
  have hsum := (h.map fun n => if n.confirmedFor installmentId then n.amount else 0).sum_eq
  rw [List.map_map, List.map_map] at hsum
  exact hsum

/-- Two installments left by the same events under one sum confirmed. -/
theorem InstallmentAfter.differ {confirmedMinor : Int} {i i' : Installment}
    (h : InstallmentAfter installment tenantId events confirmedMinor i)
    (h' : InstallmentAfter installment tenantId events confirmedMinor i') :
    (i.status = .paidToMerchant ↔ i'.status = .paidToMerchant) ∧
    (i.status ≠ i'.status → installment.status = .scheduled ∧ LateRejection installment tenantId events ∧
      (i.status = .scheduled ∧ i'.status = .overdue ∨ i.status = .overdue ∧ i'.status = .scheduled)) := by
  have hpaid : i.status = .paidToMerchant ↔ i'.status = .paidToMerchant := h.paid.trans h'.paid.symm
  refine ⟨hpaid, fun hne => ?_⟩
  have hunpaid : i.status ≠ .paidToMerchant := fun hp => hne (hp.trans (hpaid.mp hp).symm)
  have hunpaid' : i'.status ≠ .paidToMerchant := fun hp => hunpaid (hpaid.mpr hp)
  rcases h.unpaid hunpaid with hsame | ⟨hscheduled, hoverdue, hlate⟩ <;>
    rcases h'.unpaid hunpaid' with hsame' | ⟨hscheduled', hoverdue', hlate'⟩
  · exact absurd (hsame.trans hsame'.symm) hne
  · exact ⟨hscheduled', hlate', .inl ⟨hsame.trans hscheduled', hoverdue'⟩⟩
  · exact ⟨hscheduled, hlate, .inr ⟨hoverdue, hsame'.trans hscheduled⟩⟩
  · exact absurd (hoverdue.trans hoverdue'.symm) hne

theorem InstallmentAfter.of_seen {confirmedMinor : Int} {i : Installment}
    (h : InstallmentAfter installment tenantId seen confirmedMinor i) (hseen : ∀ x, x ∈ seen ↔ x ∈ events) :
    InstallmentAfter installment tenantId events confirmedMinor i := by
  have hsome : SomeConfirmed tenantId seen ↔ SomeConfirmed tenantId events := by
    simp only [SomeConfirmed, hseen]
  have hlate : LateRejection installment tenantId seen ↔ LateRejection installment tenantId events := by
    simp only [LateRejection, hseen]
  refine ⟨h.id_eq, h.amount_eq, h.dueDate_eq, h.uncovered, ?_, ?_⟩
  · rw [← hsome]
    exact h.paid
  · rw [← hlate]
    exact h.unpaid

/-- **Confluence.** Two deliveries of the same events, in any orders and with any repetitions, leave
notices that state the same, one sum confirmed, and an installment that is paid in both or in none.  Its
status can only differ when it was scheduled and a claim was rejected after its due date; then it is
scheduled after one and overdue after the other. -/
theorem coreEvents_confluent (h : ClaimEvents db installment link tenantId events)
    (hdeliveries : Delivers events deliveries) (hdeliveries' : Delivers events deliveries') :
    ((deliver db deliveries).notices.rows.map (·.stated)).Perm
      ((deliver db deliveries').notices.rows.map (·.stated)) ∧
    confirmedMinorOf (deliver db deliveries) installment.id =
      confirmedMinorOf (deliver db deliveries') installment.id ∧
    ∃ i i', (deliver db deliveries).installments.find? installment.id = some i ∧
      (deliver db deliveries').installments.find? installment.id = some i' ∧
      (i.status = .paidToMerchant ↔ i'.status = .paidToMerchant) ∧
      (i.status ≠ i'.status → installment.status = .scheduled ∧ LateRejection installment tenantId events ∧
        (i.status = .scheduled ∧ i'.status = .overdue ∨ i.status = .overdue ∧ i'.status = .scheduled)) := by
  obtain ⟨seen, hseen, hprogress⟩ := h.delivered hdeliveries
  obtain ⟨seen', hseen', hprogress'⟩ := h.delivered hdeliveries'
  have hperm := hprogress.notices.perm h hseen hprogress'.notices hseen'
  have hsum := confirmedMinorOf_congr hperm installment.id
  obtain ⟨i, hi, hafter⟩ := hprogress.installment
  obtain ⟨i', hi', hafter'⟩ := hprogress'.installment
  rw [← hsum] at hafter'
  exact ⟨hperm, hsum, i, i', hi, hi', (hafter.of_seen hseen).differ (hafter'.of_seen hseen')⟩

end Orders

/-! ## Orders that differ -/

section Example

/-- An installment of 100.00, past due and still scheduled. -/
def arrearsInstallment : Installment := ⟨1, 1, 20000, 10000, .scheduled, none⟩

/-- The installment, linked to Core. -/
def arrearsPlan : CoverageDb where
  contractVersions := ⟨[⟨1, 1, .active, 1⟩], oneVersion_nodup⟩
  purchases := ⟨[⟨1, 9, 5, 1, .confirmed⟩], onePurchase_nodup⟩
  coreLinks := [⟨1, 1, 1, 3, 11⟩]
  files := []
  installments := ⟨[arrearsInstallment], by decide⟩
  notices := .empty
  payables := .empty
  settlements := .empty
  recoveries := .empty
  movements := .empty
  reviewItems := .empty
  inbox := ⟨[], []⟩
  exceptions := []
  outbox := []
  actionLog := []

/-- A claim of 40.00 on the installment. -/
def claimOf40 (claimId : Nat) : CoreClaim := ⟨claimId, "A", 3, 11, 5, none, ⟨4000, by decide⟩, "BOB", 1⟩

/-- An event of Core about a claim. -/
def eventOf (eventKey topic : String) (occurredAt : Instant) (payload : CorePayload) : CoreEnvelope :=
  ⟨"atlas.core.outbox/1", eventKey, topic, 1, ⟨"payment_claim", "A", 1⟩, occurredAt, "atlas-core", some 1,
    payload⟩

/-- Claim 7 is reported and nobody decides it. -/
def reported7 : CoreEnvelope :=
  eventOf "claim-7-1" "payment.reported" 1728907200000 (.reported (claimOf40 7))

/-- Claim 8 is reported. -/
def reported8 : CoreEnvelope :=
  eventOf "claim-8-1" "payment.reported" 1728907200000 (.reported (claimOf40 8))

/-- Claim 8 is rejected, an hour later. -/
def rejected8 : CoreEnvelope :=
  eventOf "claim-8-2" "payment.rejected" 1728910800000 (.rejected (claimOf40 8) 1728910800000 none)

/-- What an event of the example says. -/
def saidBy (e : CoreEnvelope) : CoreParsed := e.claimOf.getD ⟨claimOf40 0, none⟩

theorem arrearsPlan_claims :
    ClaimEvents arrearsPlan arrearsInstallment ⟨1, 1, 1, 3, 11⟩ 1 [reported7, reported8, rejected8] := by
  have hparse : ∀ e ∈ [reported7, reported8, rejected8], parse e = .ok (saidBy e, 1) := by decide
  refine ⟨by decide, rfl, by decide, fun e he => ⟨saidBy e, hparse e he, ?_⟩, by decide, by decide,
    fun n hn => absurd hn (Table.not_mem_empty n), ?_, ?_⟩
  · revert e
    decide
  · intro e he e' he' p p' hp hp'
    rw [parsed_unique (hparse e he) hp, parsed_unique (hparse e' he') hp']
    clear hp hp'
    revert e e'
    decide
  · intro e he e' he' p p' hp hp'
    rw [parsed_unique (hparse e he) hp, parsed_unique (hparse e' he') hp']
    clear hp hp'
    revert e e'
    decide

/-- The three events, each delivered at one instant, in an order. -/
def inOrder (events : List CoreEnvelope) : List (CoreEnvelope × Instant) :=
  events.map fun e => (e, 1728993600000)

/-- The rejection leaves the installment overdue, unless the other claim was reported before it; and the
instant of a payment is that of the first event of its claim to arrive. -/
theorem coreEvents_order_matters :
    ClaimEvents arrearsPlan arrearsInstallment ⟨1, 1, 1, 3, 11⟩ 1 [reported7, reported8, rejected8] ∧
    (deliver arrearsPlan (inOrder [reported8, rejected8, reported7])).installments.rows.map (·.status) =
      [.overdue] ∧
    (deliver arrearsPlan (inOrder [reported7, reported8, rejected8])).installments.rows.map (·.status) =
      [.scheduled] ∧
    (deliver arrearsPlan (inOrder [reported8, rejected8, reported7])).notices.rows.map (·.paidAt) =
      [1728907200000, 1728907200000] ∧
    (deliver arrearsPlan (inOrder [rejected8, reported8, reported7])).notices.rows.map (·.paidAt) =
      [1728910800000, 1728907200000] :=
  ⟨arrearsPlan_claims, by decide, by decide, by decide, by decide⟩

/-- Two orders of the three events leave notices that state the same. -/
theorem coreEvents_confluent_arrears :
    ((deliver arrearsPlan (inOrder [reported8, rejected8, reported7])).notices.rows.map (·.stated)).Perm
      ((deliver arrearsPlan (inOrder [reported7, reported8, rejected8])).notices.rows.map (·.stated)) := by
  have horder : Delivers [reported7, reported8, rejected8] (inOrder [reported8, rejected8, reported7]) := by
    intro e
    simp only [inOrder, List.map_cons, List.map_nil, List.mem_cons, List.not_mem_nil, or_false]
    tauto
  have horder' : Delivers [reported7, reported8, rejected8] (inOrder [reported7, reported8, rejected8]) := by
    intro e
    simp only [inOrder, List.map_cons, List.map_nil]
  exact (coreEvents_confluent arrearsPlan_claims horder horder').1

end Example

end AtlasErp
