import AtlasErp.Coverage.NoticeDecision

/-! # Payment events of Core

The consumer of `payment.reported`, `payment.confirmed` and `payment.rejected`.  A claim of Core is
one notice of the ERP; its status only advances, confirming uses the transition of the review queue,
and with live coverage nothing is confirmed: the notice stays reported and a review is opened.

- `receive_cases`: all that an accepted event can do;
- `CoreDecision`: what holds when an event decides a notice.  Nothing there says that the notice of
  an existing claim belongs to the installment that was locked. -/

namespace AtlasErp

open Lib

/-! ## The envelope -/

/-- The fields all three payloads share. -/
structure CoreClaim where
  claimId : Nat
  claimCode : String
  loanId : Nat
  installmentId : Nat
  customerId : Nat
  partnerProfileId : Option Nat
  amount : PositiveAmount
  currencyCode : String
  aggregateVersion : Nat
  deriving DecidableEq

/-- A payload, by the strict schema it satisfies; `unrecognised` satisfies none of the three. -/
inductive CorePayload where
  | reported (claim : CoreClaim)
  | confirmed (claim : CoreClaim) (decidedAt : Instant) (loanPaymentId : Nat)
  | rejected (claim : CoreClaim) (decidedAt : Instant) (reason : Option String)
  | unrecognised
  deriving DecidableEq

/-- An event of Core as the controller hands it over. -/
structure CoreEnvelope where
  spec : String
  eventKey : String
  topic : String
  schemaVersion : Nat
  aggregate : EventAggregate
  occurredAt : Instant
  producer : String
  tenantId : Option Nat
  payload : CorePayload
  deriving DecidableEq

/-- A decision on a claim. -/
structure CoreVerdict where
  confirming : Bool
  decidedAt : Instant
  /-- `loanPaymentId`, of a confirmation. -/
  loanPaymentId : Nat
  deriving DecidableEq

/-- A parsed event: a claim, and the decision on it when the topic is not `payment.reported`. -/
structure CoreParsed where
  claim : CoreClaim
  verdict : Option CoreVerdict
  deriving DecidableEq

/-- The payment topics of Core that the ERP consumes. -/
def consumedCoreTopics : List String :=
  ["payment.reported", "payment.confirmed", "payment.rejected"]

/-- The payload under the schema of a topic. -/
def CoreEnvelope.claimOf (envelope : CoreEnvelope) : Option CoreParsed :=
  match envelope.payload with
  | .reported claim => if envelope.topic = "payment.reported" then some ⟨claim, none⟩ else none
  | .confirmed claim decidedAt loanPaymentId =>
    if envelope.topic = "payment.confirmed" then some ⟨claim, some ⟨true, decidedAt, loanPaymentId⟩⟩
    else none
  | .rejected claim decidedAt _ =>
    if envelope.topic = "payment.rejected" then some ⟨claim, some ⟨false, decidedAt, 0⟩⟩ else none
  | .unrecognised => none

/-- Check the envelope and read its payload and its tenant. -/
def parse (envelope : CoreEnvelope) : Except HttpError (CoreParsed × Nat) := do
  failIf (envelope.producer ≠ "atlas-core" ∨ envelope.spec ≠ "atlas.core.outbox/1")
    (unprocessable "UNEXPECTED_PRODUCER" "Este receptor sólo acepta sobres de Core con tenant.")
  let tenantId ← orFail envelope.tenantId
    (unprocessable "UNEXPECTED_PRODUCER" "Este receptor sólo acepta sobres de Core con tenant.")
  failIf (consumedCoreTopics.contains envelope.topic = false)
    (unprocessable "UNKNOWN_TOPIC" ("El ERP no consume " ++ envelope.topic ++ "."))
  failIf (envelope.schemaVersion ≠ 1) (unprocessable "UNKNOWN_SCHEMA_VERSION"
    (envelope.topic ++ " v" ++ toString envelope.schemaVersion ++ ": el ERP entiende la v1."))
  let parsed ← orFail envelope.claimOf (unprocessable "PAYLOAD_CONTRACT_VIOLATION"
    (envelope.topic ++ ": el payload no cumple atlas-integration-v1."))
  return (parsed, tenantId)

/-- What `receive` answers. -/
inductive CoreEventOutcome where
  | duplicate
  | noticeReported
  | noticeConfirmed
  | noticeRejected
  | latePaymentReview
  | noChange
  | exception
  deriving DecidableEq

/-! ## Applying an event -/

section Apply

variable (db : CoverageDb) (envelope : CoreEnvelope) (parsed : CoreParsed) (tenantId : Nat)
  (now : Instant)

/-- The link of an installment of Core. -/
def findLink (coreInstallmentId : Nat) : Option CoreInstallmentLink :=
  db.coreLinks.find? (fun l => l.coreTenantId = tenantId ∧ l.coreInstallmentId = coreInstallmentId)

/-- The notice of a claim of Core, whatever installment it is on. -/
def findClaim (claimId : Nat) : Option ConsumerPaymentToMerchant :=
  db.notices.findBy (fun n => n.coreTenantId = some tenantId ∧ n.coreClaimId = some claimId)

/-- Register what could not be applied without guessing; once for an event. -/
def exception (reason : ExceptionReason) : CoreEventOutcome × CoverageDb :=
  if db.exceptions.any (·.eventKey = envelope.eventKey) then (.exception, db)
  else (.exception, { db with
    exceptions := db.exceptions ++ [⟨envelope.eventKey, envelope.topic, reason, tenantId,
      parsed.claim.installmentId, parsed.claim.claimId⟩] })

/-- The notice created for a claim of Core. -/
def coreNotice (link : CoreInstallmentLink) (installment : Installment) (id : Nat) :
    ConsumerPaymentToMerchant where
  id := id
  purchaseId := link.erpPurchaseId
  installmentId := some installment.id
  amount := parsed.claim.amount.val
  paidAt := envelope.occurredAt
  evidenceRef := some ("core-claim:" ++ parsed.claim.claimCode)
  status := .reported
  createdAt := now
  decidedByUserId := none
  decidedAt := none
  decisionNote := none
  coreTenantId := some tenantId
  coreClaimId := some parsed.claim.claimId

/-- Open the review of a late payment, unless one is open for the installment. -/
def openLatePaymentReview (verdict : CoreVerdict) (installment : Installment)
    (notice : ConsumerPaymentToMerchant) : CoverageDb :=
  match db.findOpenReview installment.id .latePaymentWithCoverage with
  | some _ => db
  | none => { db with
      reviewItems := db.reviewItems.create (newReviewItem installment.id .latePaymentWithCoverage
        (.core notice.id parsed.claim.claimId parsed.claim.claimCode verdict.loanPaymentId
          parsed.claim.amount.val installment.status) none now) }

/-- The note that a decision of Core leaves in the notice. -/
def coreDecisionNote (confirming : Bool) : String :=
  (if confirming then "Confirmado" else "Rechazado") ++ " por el comercio en Core (aviso " ++
    parsed.claim.claimCode ++ ")."

/-- The decision of Core on a notice, as `applyNoticeDecision` receives it. -/
def coreDecision (verdict : CoreVerdict) (installment : Installment)
    (notice : ConsumerPaymentToMerchant) : NoticeDecisionInput where
  installment := installment
  notice := notice
  pendingCount := (db.notices.rowsWhere (·.pendingFor installment.id)).length
  confirming := verdict.confirming
  decidedByUserId := none
  note := coreDecisionNote parsed verdict.confirming
  now := verdict.decidedAt

/-- Decide the notice of a claim, once it is there. -/
def decideClaim (verdict : CoreVerdict) (installment : Installment)
    (notice : ConsumerPaymentToMerchant) : CoreEventOutcome × CoverageDb :=
  if verdict.confirming ∧ hasLiveCoverage db installment = true then
    (.latePaymentReview, openLatePaymentReview db parsed now verdict installment notice)
  else
    (if verdict.confirming then .noticeConfirmed else .noticeRejected,
      (applyNoticeDecision db (coreDecision db parsed verdict installment notice)).2)

/-- The status a decision leads a notice to. -/
def CoreVerdict.target (verdict : CoreVerdict) : PaymentNoticeStatus :=
  if verdict.confirming then .confirmed else .rejected

/-- The effect of an event on an installment it is linked to. -/
def applyToInstallment (link : CoreInstallmentLink) (installment : Installment) :
    CoreEventOutcome × CoverageDb :=
  let created := { db with
    notices := db.notices.create (coreNotice envelope parsed tenantId now link installment) }
  let notice := coreNotice envelope parsed tenantId now link installment db.notices.nextKey
  match parsed.verdict, findClaim db tenantId parsed.claim.claimId with
  | none, some _ => (.noChange, db)
  | none, none => (.noticeReported, created)
  | some verdict, some existing =>
    if existing.status = verdict.target then (.noChange, db)
    else if existing.status ≠ .reported then
      exception db envelope parsed tenantId .conflictingDecision
    else decideClaim db parsed now verdict installment existing
  | some verdict, none =>
    -- the decision came before the notice, or without it: create and decide
    decideClaim created parsed now verdict installment notice

/-- The effect of an event. -/
def apply : CoreEventOutcome × CoverageDb :=
  match findLink db tenantId parsed.claim.installmentId with
  | none => exception db envelope parsed tenantId .unlinkedInstallment
  | some link =>
    if link.coreLoanId ≠ parsed.claim.loanId then
      exception db envelope parsed tenantId .unlinkedInstallment
    else if parsed.claim.currencyCode ≠ "BOB" then
      exception db envelope parsed tenantId .currencyMismatch
    else
      match db.installments.find? link.erpInstallmentId with
      | none => exception db envelope parsed tenantId .unlinkedInstallment
      | some installment => applyToInstallment db envelope parsed tenantId now link installment

/-- The name under which the inbox knows this consumer. -/
def corePaymentsConsumer : String := "core-payments"

/-- The event as the inbox keeps it. -/
def CoreEnvelope.inboxEvent : InboxEvent :=
  ⟨envelope.eventKey, envelope.topic, envelope.schemaVersion, some envelope.aggregate⟩

/-- The effect `receive` passes to the inbox: apply, and note an exception in the inbox row. -/
def receiveEffect (inbox : EventInbox) (db : CoverageDb) :
    Except HttpError (CoreEventOutcome × EventInbox × CoverageDb) :=
  let applied := apply db envelope parsed tenantId now
  let inbox' := if applied.1 = .exception then
    inbox.setOutcome corePaymentsConsumer envelope.eventKey .exception else inbox
  .ok (applied.1, inbox', applied.2)

/-- Receive an event of Core, once. -/
def receive : Except HttpError (CoreEventOutcome × CoverageDb) := do
  let (parsed, tenantId) ← parse envelope
  let (result, inbox, db') ← consumeOnce corePaymentsConsumer envelope.inboxEvent .everyEvent
    (receiveEffect envelope parsed tenantId now) db.inbox db
  let outcome : CoreEventOutcome := match result with
    | .applied value => value
    | .duplicate => .duplicate
    | .stale _ => .noChange
  return (outcome, { db' with inbox })

end Apply

/-! ## What an event can do -/

/-- Nothing but the inbox, the exceptions and the review queue differs. -/
def SameLedger (db db' : CoverageDb) : Prop :=
  ∃ inbox exceptions reviewItems, db' = { db with inbox, exceptions, reviewItems }

/-- An event that passed its checks: new to the inbox, parsed, linked, in bolivianos, and with its
installment locked. -/
structure CoreContext (db : CoverageDb) (envelope : CoreEnvelope) (parsed : CoreParsed)
    (tenantId : Nat) (link : CoreInstallmentLink) (installment : Installment) : Prop where
  fresh : db.inbox.registered corePaymentsConsumer envelope.eventKey = false
  parsed_eq : parse envelope = .ok (parsed, tenantId)
  link_eq : findLink db tenantId parsed.claim.installmentId = some link
  loan_eq : link.coreLoanId = parsed.claim.loanId
  currency_eq : parsed.claim.currencyCode = "BOB"
  installment_eq : db.installments.find? link.erpInstallmentId = some installment

/-- The database with the notice of a claim just created. -/
def withCoreNotice (db : CoverageDb) (envelope : CoreEnvelope) (parsed : CoreParsed) (tenantId : Nat)
    (now : Instant) (link : CoreInstallmentLink) (installment : Installment) : CoverageDb :=
  { db with notices := db.notices.create (coreNotice envelope parsed tenantId now link installment) }

/-- What an accepted event does to the ledger. -/
inductive ReceiveStep (db : CoverageDb) (envelope : CoreEnvelope) (now : Instant) : CoverageDb → Prop where
  /-- A duplicate, no change, an exception or the review of a known claim. -/
  | quiet {db'} (same : SameLedger db db') : ReceiveStep db envelope now db'
  /-- The claim is new, and stays reported. -/
  | reported {parsed tenantId link installment db'}
      (ctx : CoreContext db envelope parsed tenantId link installment)
      (unknown : findClaim db tenantId parsed.claim.claimId = none)
      (same : SameLedger (withCoreNotice db envelope parsed tenantId now link installment) db') :
      ReceiveStep db envelope now db'
  /-- A known claim is decided.  Its notice may be of another installment. -/
  | decided {parsed tenantId link installment verdict existing db'}
      (ctx : CoreContext db envelope parsed tenantId link installment)
      (verdict_eq : parsed.verdict = some verdict)
      (known : findClaim db tenantId parsed.claim.claimId = some existing)
      (pending : existing.status = .reported)
      (uncovered : verdict.confirming = true → hasLiveCoverage db installment = false)
      (same : SameLedger
        (applyNoticeDecision db (coreDecision db parsed verdict installment existing)).2 db') :
      ReceiveStep db envelope now db'
  /-- A new claim is created and decided. -/
  | createdDecided {parsed tenantId link installment verdict db'}
      (ctx : CoreContext db envelope parsed tenantId link installment)
      (verdict_eq : parsed.verdict = some verdict)
      (unknown : findClaim db tenantId parsed.claim.claimId = none)
      (uncovered : verdict.confirming = true → hasLiveCoverage db installment = false)
      (same : SameLedger
        (applyNoticeDecision (withCoreNotice db envelope parsed tenantId now link installment)
          (coreDecision (withCoreNotice db envelope parsed tenantId now link installment) parsed
            verdict installment
            (coreNotice envelope parsed tenantId now link installment db.notices.nextKey))).2 db') :
      ReceiveStep db envelope now db'

section Cases

variable {db db' : CoverageDb} {envelope : CoreEnvelope} {parsed : CoreParsed} {tenantId : Nat}
  {now : Instant}

theorem SameLedger.refl (db : CoverageDb) : SameLedger db db := ⟨_, _, _, rfl⟩

theorem SameLedger.withInbox (h : SameLedger db db') (inbox : EventInbox) :
    SameLedger db { db' with inbox } := by
  obtain ⟨_, exceptions, reviewItems, rfl⟩ := h
  exact ⟨inbox, exceptions, reviewItems, rfl⟩

theorem SameLedger.of_eq (h : db' = db) (inbox : EventInbox) : SameLedger db { db' with inbox } :=
  h ▸ (SameLedger.refl db').withInbox inbox

theorem exception_sameLedger (reason : ExceptionReason) :
    SameLedger db (exception db envelope parsed tenantId reason).2 := by
  unfold exception
  split
  · exact .refl db
  · exact ⟨_, _, _, rfl⟩

theorem openLatePaymentReview_sameLedger (verdict : CoreVerdict) (installment : Installment)
    (notice : ConsumerPaymentToMerchant) :
    SameLedger db (openLatePaymentReview db parsed now verdict installment notice) := by
  unfold openLatePaymentReview
  split
  · exact .refl db
  · exact ⟨_, _, _, rfl⟩

/-- Deciding a claim opens a review or applies the decision, which confirms only what is not
covered. -/
theorem decideClaim_cases (db : CoverageDb) (parsed : CoreParsed) (now : Instant)
    (verdict : CoreVerdict) (installment : Installment) (notice : ConsumerPaymentToMerchant) :
    SameLedger db (decideClaim db parsed now verdict installment notice).2 ∨
      (verdict.confirming = true → hasLiveCoverage db installment = false) ∧
      (decideClaim db parsed now verdict installment notice).2 =
        (applyNoticeDecision db (coreDecision db parsed verdict installment notice)).2 := by
  unfold decideClaim
  split
  · exact .inl (openLatePaymentReview_sameLedger _ _ _)
  · rename_i h
    refine .inr ⟨fun hc => ?_, rfl⟩
    simpa [hc] using h

/-- Whether an installment is covered does not depend on its notices. -/
theorem hasLiveCoverage_withCoreNotice (link : CoreInstallmentLink) (i j : Installment) :
    hasLiveCoverage (withCoreNotice db envelope parsed tenantId now link i) j =
      hasLiveCoverage db j := rfl

theorem apply_step (hfresh : db.inbox.registered corePaymentsConsumer envelope.eventKey = false)
    (hparse : parse envelope = .ok (parsed, tenantId)) (inbox : EventInbox) :
    ReceiveStep db envelope now { (apply db envelope parsed tenantId now).2 with inbox } := by
  unfold apply
  cases hlink : findLink db tenantId parsed.claim.installmentId with
  | none => exact .quiet ((exception_sameLedger _).withInbox inbox)
  | some link =>
    by_cases hloan : link.coreLoanId ≠ parsed.claim.loanId
    · simp only [if_pos hloan]
      exact .quiet ((exception_sameLedger _).withInbox inbox)
    by_cases hcurrency : parsed.claim.currencyCode ≠ "BOB"
    · simp only [if_neg hloan, if_pos hcurrency]
      exact .quiet ((exception_sameLedger _).withInbox inbox)
    simp only [if_neg hloan, if_neg hcurrency]
    cases hinst : db.installments.find? link.erpInstallmentId with
    | none => exact .quiet ((exception_sameLedger _).withInbox inbox)
    | some installment =>
      have ctx : CoreContext db envelope parsed tenantId link installment :=
        ⟨hfresh, hparse, hlink, not_not.mp hloan, not_not.mp hcurrency, hinst⟩
      simp only [applyToInstallment]
      cases hverdict : parsed.verdict with
      | none =>
        cases hclaim : findClaim db tenantId parsed.claim.claimId with
        | some existing => exact .quiet ((SameLedger.refl db).withInbox inbox)
        | none => exact .reported ctx hclaim ((SameLedger.refl _).withInbox inbox)
      | some verdict =>
        cases hclaim : findClaim db tenantId parsed.claim.claimId with
        | some existing =>
          dsimp only
          split
          · exact .quiet ((SameLedger.refl db).withInbox inbox)
          · split
            · exact .quiet ((exception_sameLedger _).withInbox inbox)
            · rename_i hpending
              rcases decideClaim_cases db parsed now verdict installment existing
                with hsame | ⟨huncovered, heq⟩
              · exact .quiet (hsame.withInbox inbox)
              · exact .decided ctx hverdict hclaim (not_not.mp hpending) huncovered
                  (SameLedger.of_eq heq inbox)
        | none =>
          dsimp only
          rcases decideClaim_cases (withCoreNotice db envelope parsed tenantId now link installment)
            parsed now verdict installment
            (coreNotice envelope parsed tenantId now link installment db.notices.nextKey)
            with hsame | ⟨huncovered, heq⟩
          · exact .reported ctx hclaim (hsame.withInbox inbox)
          · rw [hasLiveCoverage_withCoreNotice] at huncovered
            exact .createdDecided ctx hverdict hclaim huncovered (SameLedger.of_eq heq inbox)

/-- All that an accepted event can do. -/
theorem receive_cases {outcome : CoreEventOutcome}
    (h : receive db envelope now = .ok (outcome, db')) : ReceiveStep db envelope now db' := by
  unfold receive at h
  obtain ⟨⟨parsed, tenantId⟩, hparse, h⟩ := bind_eq_ok.mp h
  obtain ⟨⟨result, inbox, db₁⟩, honce, h⟩ := bind_eq_ok.mp h
  have hdb := congrArg Prod.snd (pure_eq_ok.mp h)
  dsimp only at hdb honce
  cases hreg : db.inbox.registered corePaymentsConsumer envelope.inboxEvent.eventKey with
  | true =>
    rw [consumeOnce_duplicate rfl hreg] at honce
    obtain ⟨-, -, rfl⟩ : _ ∧ _ ∧ db = db₁ := by simpa using honce
    rw [← hdb]
    exact .quiet ((SameLedger.refl db).withInbox inbox)
  | false =>
    rw [consumeOnce_everyEvent hreg] at honce
    obtain ⟨⟨value, inbox₁, db₂⟩, heffect, honce⟩ := bind_eq_ok.mp honce
    obtain ⟨-, -, rfl⟩ : _ ∧ _ ∧ db₂ = db₁ := by simpa using pure_eq_ok.mp honce
    obtain ⟨-, -, rfl⟩ : _ ∧ _ ∧ (apply db envelope parsed tenantId now).2 = db₂ := by
      simpa [receiveEffect] using heffect
    rw [← hdb]
    exact apply_step hreg hparse inbox

end Cases

end AtlasErp
