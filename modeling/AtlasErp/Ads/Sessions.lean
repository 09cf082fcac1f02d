import AtlasErp.Ads.Billing
import AtlasErp.Lib.Script

/-! # Advertising under concurrency

Tracking (one event or a batch), corrections of the billable flag and the closing of a period, as
transactions that interleave statement by statement.

- `adsScript`: their statements, and `adsMove_cases`: what a statement that leads on did;
- `AdsWrite.apply`: what their journals hold.  The rows that an event or a correction writes are in the
  journal together, once its last statement ran: nothing in between reads them. -/

namespace AtlasErp

open Lib

/-! ## Requests -/

/-- An event of a request, with the clock when it is checked and when its charge is written. -/
structure TrackItem where
  input : TrackEventDto
  now : Instant
  occurredAt : Instant
  deriving DecidableEq

/-- A body that passed `updateBillableStatusSchema`. -/
structure UpdateBillableStatusDto where
  isBillable : Bool
  reason : String
  deriving DecidableEq

/-- `trackEvent` is a batch of one. -/
inductive AdsRequest where
  | trackEvents (items : List TrackItem)
  | updateBillableStatus (eventId : Nat) (input : UpdateBillableStatusDto) (occurredAt : Instant)
  | closePeriod (input : PeriodCloseDto) (now : Instant)
  deriving DecidableEq

/-- The answer for one event. -/
inductive TrackAnswer where
  | recorded (event : AdEvent)
  | duplicate (event : AdEvent) (ledgerCreated : Bool)
  deriving DecidableEq

/-! ## Transactions -/

/-- What the transactions lock: rows, and keys of unique indexes. -/
inductive AdsLock where
  | campaign (id : Nat)
  | event (id : Nat)
  | eventKey (deliveryDecisionId : Nat) (eventType : AdEventType) (requestId : Nat)
  | charge (eventId : Nat)
  | metric (date : Day) (advertiserId campaignId adSetId adId placementId : Nat)
  | series (key : Text)
  | openPeriod (advertiserId : Nat) (currency : String) (periodStart periodEnd : Day)
  deriving DecidableEq

/-- A correction, with the event as it was read. -/
structure Correction where
  event : AdEvent
  /-- The event has a charge that names it. -/
  charged : Bool
  nextIsBillable : Bool
  currency : String
  reason : String
  occurredAt : Instant
  deriving DecidableEq

/-- What a transaction wrote. -/
inductive AdsWrite where
  | record (event : AdEvent) (currency reason : String) (occurredAt : Instant)
  | correct (c : Correction)
  | invoice (draft : AdsInvoice) (charges : List MerchantCharge)
  deriving DecidableEq

/-- The data of an event that was decided on. -/
structure TrackedEvent where
  item : TrackItem
  decision : DeliveryDecision
  campaign : AdCampaign
  adSet : AdSet
  deriving DecidableEq

inductive AdsStage where
  | tracking (items : List TrackItem) (answers : List TrackAnswer)
  | decided (tracked : TrackedEvent) (rest : List TrackItem) (answers : List TrackAnswer)
  /-- The budget of a billable event is reserved. -/
  | budgeted (tracked : TrackedEvent) (isBillable : Bool) (rest : List TrackItem) (answers : List TrackAnswer)
  | correcting (eventId : Nat) (input : UpdateBillableStatusDto) (occurredAt : Instant)
  | eventRead (c : Correction)
  | budgetReserved (c : Correction)
  | flagWritten (c : Correction)
  | budgetReleased (c : Correction)
  | closing (input : PeriodCloseDto) (now : Instant)
  | grouped (input : PeriodCloseDto) (now : Instant) (groups : List LedgerInvoiceGroup)
  | invoicing (input : PeriodCloseDto) (now : Instant) (products : List AdsBillingProduct)
      (groups : List LedgerInvoiceGroup)
  | numbering (input : PeriodCloseDto) (now : Instant) (products : List AdsBillingProduct)
      (profile : BillingProfile) (group : LedgerInvoiceGroup) (rest : List LedgerInvoiceGroup)
  | finished
  deriving DecidableEq

section Statements

variable (config : AdsConfig)

namespace TrackedEvent

variable (t : TrackedEvent)

def requestId : Nat := t.item.input.requestId.getD t.decision.requestId

def costMicros : Nat := calculateEventCost t.item.input.eventType t.adSet.buyingModel t.decision.priceMicros

/-- The event costs something and does not look like fraud. -/
def potentiallyBillable : Bool :=
  0 < t.costMicros &&
    decide (t.item.input.fraudScore.getD 0 ≤ config.ADS_EVENT_FRAUD_SCORE_MAX_BILLABLE)

def eventTime : Instant := t.item.input.eventTime.getD t.item.now

/-- `findExistingEvent`. -/
def existing (db : AdsDb) : Option AdEvent :=
  db.events.findBy fun e =>
    e.deliveryDecisionId = t.decision.id ∧ e.eventType = t.item.input.eventType ∧ e.requestId = t.requestId

/-- The row of the event. -/
def row (isBillable : Bool) : AdEvent where
  id := 0
  eventType := t.item.input.eventType
  eventTime := t.eventTime
  requestId := t.requestId
  deliveryDecisionId := t.decision.id
  advertiserId := t.decision.advertiserId
  campaignId := t.decision.campaignId
  adSetId := t.decision.adSetId
  adId := t.decision.adId
  placementId := t.decision.placementId
  costMicros := t.costMicros
  isBillable

def reason : String := t.item.input.eventType.text ++ "_" ++ t.adSet.buyingModel.text

/-- The key of the idempotency index, and the row of the metric. -/
def locks : List AdsLock :=
  .eventKey t.decision.id t.item.input.eventType t.requestId ::
    t.decision.placementId.toList.map fun placementId =>
      .metric (config.sessionDate t.eventTime) t.decision.advertiserId t.decision.campaignId t.decision.adSetId
        t.decision.adId placementId

end TrackedEvent

/-- The charge that names an event. -/
def AdsDb.chargeOf (db : AdsDb) (eventId : Nat) : Option SpendLedgerEntry :=
  db.ledger.findBy (·.adEventId = some eventId)

/-- An `UPDATE` of the counter locks the campaign; with nothing to add there is none. -/
def budgetLocks (campaignId costMicros : Nat) : List AdsLock :=
  if costMicros = 0 then [] else [.campaign campaignId]

/-- The columns of `ad_spend_ledger` hold the entry: `reason varchar(120)`, one charge for each event. -/
def ledgerAccepts (db : AdsDb) (c : Correction) : Bool :=
  c.reason.length ≤ 120 && !(c.nextIsBillable && !c.charged && (db.chargeOf c.event.id).isSome)

def AdsWrite.apply : AdsWrite → AdsDb → AdsDb
  | .record event currency reason occurredAt, db => db.recordEvent config event currency reason occurredAt
  | .correct c, db =>
    db.correctEvent c.event c.charged c.nextIsBillable c.currency c.reason c.occurredAt
  | .invoice draft charges, db => db.recordInvoice (fun id => { draft with id }) charges

/-- An error of the database. -/
def databaseError (constraint : String) : HttpError := ⟨.internalServerError, none, constraint⟩

/-- `trackEventInTransaction`, statement by statement. -/
def trackMove : AdsStage → AdsDb → Move AdsLock AdsWrite AdsStage HttpError
  | .tracking [] _, _ => .commit
  | .tracking (item :: rest) answers, db =>
    match db.decisions.find? item.input.deliveryDecisionId with
    | none => .rollback ⟨.notFound, some "DELIVERY_DECISION_NOT_FOUND", "La decisión de delivery no existe."⟩
    | some decision =>
      match db.adSets.find? decision.adSetId, db.campaigns.find? decision.campaignId with
      | none, _ =>
        .rollback ⟨.notFound, some "DELIVERY_DECISION_NOT_FOUND", "La decisión de delivery no existe."⟩
      | some _, none => .rollback (conflict "DELIVERY_DECISION_INCOMPLETE"
          "La decisión no tiene datos suficientes para registrar evento.")
      | some adSet, some campaign =>
        if campaign.status ≠ .active then .rollback (conflict "CAMPAIGN_NOT_SERVABLE"
          "No se puede registrar evento facturable para una campaña inactiva.")
        else .on [] [] (.decided ⟨item, decision, campaign, adSet⟩ rest answers)
  | .decided t rest answers, db =>
    match t.existing db with
    | some event =>
      .on [] [] (.tracking rest (answers ++ [.duplicate event (db.chargeOf event.id).isSome]))
    | none =>
      if t.potentiallyBillable config && db.budgetAllows t.decision.campaignId t.costMicros then
        .on (budgetLocks t.decision.campaignId t.costMicros) [] (.budgeted t true rest answers)
      else .on [] [] (.budgeted t false rest answers)
  | .budgeted t isBillable rest answers, db =>
    if t.eventTime > t.item.now + 5 * 60 * 1000 then .rollback (conflict "EVENT_TIME_IN_FUTURE"
      "El momento del evento no puede estar en el futuro.")
    else if (t.existing db).isSome then .rollback (databaseError "uq_ad_event_tracking_idempotency")
    else
      .on (t.locks config) [.record (t.row isBillable) t.campaign.currency t.reason t.item.occurredAt]
        (.tracking rest (answers ++ [.recorded (t.row isBillable)]))
  | _, _ => .commit

/-- `updateBillableStatus` and `applyBillableCorrection`, statement by statement. -/
def correctMove : AdsStage → AdsDb → Move AdsLock AdsWrite AdsStage HttpError
  | .correcting eventId input occurredAt, db =>
    match db.events.find? eventId with
    | none => .rollback ⟨.notFound, some "AD_EVENT_NOT_FOUND", "El evento publicitario no existe."⟩
    | some event =>
      if event.isBillable = input.isBillable then .commit
      else
        let charge := db.chargeOf event.id
        let currency := ((db.campaigns.find? event.campaignId).map (·.currency) <|>
          charge.map (·.currency)).getD config.ADS_DEFAULT_CURRENCY
        .on [] [] (.eventRead ⟨event, charge.isSome, input.isBillable, currency, input.reason, occurredAt⟩)
  | .eventRead c, db =>
    if c.nextIsBillable then
      if db.budgetAllows c.event.campaignId c.event.costMicros then
        .on (budgetLocks c.event.campaignId c.event.costMicros) [] (.budgetReserved c)
      else .rollback (conflict "BUDGET_EXHAUSTED"
        "No hay presupuesto disponible para marcar este evento como facturable.")
    else .on [.event c.event.id] [] (.flagWritten c)
  | .budgetReserved c, _ => .on [.event c.event.id] [] (.flagWritten c)
  | .flagWritten c, db =>
    if c.nextIsBillable then
      if ledgerAccepts db c then
        .on (if c.charged then [] else [.charge c.event.id]) [.correct c] .finished
      else .rollback (databaseError "ad_spend_ledger")
    else .on (budgetLocks c.event.campaignId c.event.costMicros) [] (.budgetReleased c)
  | .budgetReleased c, db =>
    if ledgerAccepts db c then .on [] [.correct c] .finished else .rollback (databaseError "ad_spend_ledger")
  | _, _ => .commit

/-- `closePeriod`, statement by statement. -/
def closeMove : AdsStage → AdsDb → Move AdsLock AdsWrite AdsStage HttpError
  | .closing input now, db =>
    -- read before the transaction begins
    let entries := db.billedEntries input
    match getLedgerGroups db input with
    | [] => .rollback (conflict "NO_LEDGER_TO_BILL"
        "No existe ledger facturable para el periodo solicitado.")
    | groups => .on [] [] (.grouped input now (groupLedgerForInvoices entries groups))
  | .grouped input now groups, db =>
    match assertPeriodIsNotClosed db (groups.map (·.advertiserId)) input.periodStart input.periodEnd with
    | .error e => .rollback e
    | .ok _ => .on [] [] (.invoicing input now db.products groups)
  | .invoicing _ _ _ [], _ => .commit
  | .invoicing input now products (group :: rest), db =>
    match findDefaultBillingProfile db group.advertiserId with
    | none => .rollback ⟨.notFound, some "BILLING_PROFILE_NOT_FOUND",
        "El anunciante " ++ toString group.advertiserId ++ " no tiene perfil fiscal activo."⟩
    | some profile =>
      .on [.series ((adsNumberRequest input).lockKey now)] [] (.numbering input now products profile group rest)
  | .numbering input now products profile group rest, db =>
    let draft := invoiceOf config input products group profile
      (nextDocumentNumber now (adsNumberRequest input) db.invoiceNumbers) 0
    let repeated (i : AdsInvoice) : Bool :=
      i.invoiceNumber = draft.invoiceNumber ∨
        i.status ≠ .void ∧ i.advertiserId = draft.advertiserId ∧ i.currency = draft.currency ∧
          i.periodStart = draft.periodStart ∧ i.periodEnd = draft.periodEnd
    if (db.invoices.findBy repeated).isSome then .rollback (databaseError "ad_invoices")
    else
      .on [.openPeriod draft.advertiserId draft.currency draft.periodStart draft.periodEnd]
        [.invoice draft (merchantCharges (findMerchantAccountId db group.advertiserId)
          (consumedByProduct products group.lines))]
        (.invoicing input now products rest)
  | _, _ => .commit

/-- The three requests as transactions. -/
def adsScript : Script AdsDb AdsRequest AdsLock AdsWrite AdsStage HttpError where
  start
    | .trackEvents items => .tracking items []
    | .updateBillableStatus eventId input occurredAt => .correcting eventId input occurredAt
    | .closePeriod input now => .closing input now
  apply := AdsWrite.apply config
  move stage db :=
    match stage with
    | .tracking .. | .decided .. | .budgeted .. => trackMove config stage db
    | .correcting .. | .eventRead _ | .budgetReserved _ | .flagWritten _ | .budgetReleased _ =>
      correctMove config stage db
    | .closing .. | .grouped .. | .invoicing .. | .numbering .. => closeMove config stage db
    | .finished => .commit

/-! ## What a statement does -/

/-- The statements that lead on, with what they found. -/
inductive AdsMoves (db : AdsDb) : AdsStage → List AdsLock → List AdsWrite → AdsStage → Prop where
  | decide {item rest answers decision campaign adSet} :
      AdsMoves db (.tracking (item :: rest) answers) [] []
        (.decided ⟨item, decision, campaign, adSet⟩ rest answers)
  | repeated {t rest answers answer} :
      AdsMoves db (.decided t rest answers) [] [] (.tracking rest (answers ++ [answer]))
  | reserve {t : TrackedEvent} {rest answers} (allows : db.budgetAllows t.decision.campaignId t.costMicros = true) :
      AdsMoves db (.decided t rest answers) (budgetLocks t.decision.campaignId t.costMicros) []
        (.budgeted t true rest answers)
  | skip {t rest answers} : AdsMoves db (.decided t rest answers) [] [] (.budgeted t false rest answers)
  | record {t : TrackedEvent} {isBillable rest answers answer} :
      AdsMoves db (.budgeted t isBillable rest answers) (t.locks config)
        [.record (t.row isBillable) t.campaign.currency t.reason t.item.occurredAt] (.tracking rest (answers ++ [answer]))
  | readEvent {eventId input occurredAt} {c : Correction} (changes : c.event.isBillable ≠ c.nextIsBillable) :
      AdsMoves db (.correcting eventId input occurredAt) [] [] (.eventRead c)
  | reserveAgain {c : Correction} (next : c.nextIsBillable = true)
      (allows : db.budgetAllows c.event.campaignId c.event.costMicros = true) :
      AdsMoves db (.eventRead c) (budgetLocks c.event.campaignId c.event.costMicros) [] (.budgetReserved c)
  | unmark {c : Correction} (next : c.nextIsBillable = false) :
      AdsMoves db (.eventRead c) [.event c.event.id] [] (.flagWritten c)
  | mark {c : Correction} : AdsMoves db (.budgetReserved c) [.event c.event.id] [] (.flagWritten c)
  | chargeAgain {c : Correction} {locks} (next : c.nextIsBillable = true) :
      AdsMoves db (.flagWritten c) locks [.correct c] .finished
  | release {c : Correction} (next : c.nextIsBillable = false) :
      AdsMoves db (.flagWritten c) (budgetLocks c.event.campaignId c.event.costMicros) [] (.budgetReleased c)
  | credit {c : Correction} : AdsMoves db (.budgetReleased c) [] [.correct c] .finished
  | group {input now} :
      AdsMoves db (.closing input now) [] []
        (.grouped input now (groupLedgerForInvoices (db.billedEntries input) (getLedgerGroups db input)))
  | check {input now groups}
      (free : assertPeriodIsNotClosed db (groups.map (·.advertiserId)) input.periodStart input.periodEnd = .ok ()) :
      AdsMoves db (.grouped input now groups) [] [] (.invoicing input now db.products groups)
  | profile {input now products profile group rest} :
      AdsMoves db (.invoicing input now products (group :: rest)) [.series ((adsNumberRequest input).lockKey now)] []
        (.numbering input now products profile group rest)
  | invoice {input now products profile group rest invoiceNumber locks} :
      AdsMoves db (.numbering input now products profile group rest) locks
        [.invoice (invoiceOf config input products group profile invoiceNumber 0)
          (merchantCharges (findMerchantAccountId db group.advertiserId) (consumedByProduct products group.lines))]
        (.invoicing input now products rest)

/-- **All that a statement can do** when it leads on. -/
theorem adsMove_cases {stage stage' : AdsStage} {db : AdsDb} {locks : List AdsLock} {writes : List AdsWrite}
    (h : (adsScript config).move stage db = .on locks writes stage') :
    AdsMoves config db stage locks writes stage' := by
  cases stage with
  | tracking items answers =>
    cases items with
    | nil => simp [adsScript, trackMove] at h
    | cons item rest =>
      simp only [adsScript, trackMove] at h
      repeat' split at h
      all_goals cases h
      exact .decide
  | decided t rest answers =>
    simp only [adsScript, trackMove] at h
    repeat' split at h
    · cases h
      exact .repeated
    · rename_i hallows
      cases h
      exact .reserve (Bool.and_eq_true_iff.mp hallows).2
    · cases h
      exact .skip
  | budgeted t isBillable rest answers =>
    simp only [adsScript, trackMove] at h
    repeat' split at h
    all_goals cases h
    exact .record
  | correcting eventId input occurredAt =>
    simp only [adsScript, correctMove] at h
    repeat' split at h
    all_goals cases h
    rename_i hchanges
    exact .readEvent hchanges
  | eventRead c =>
    simp only [adsScript, correctMove] at h
    repeat' split at h
    · rename_i hnext hallows
      cases h
      exact .reserveAgain hnext hallows
    · cases h
    · rename_i hnext
      cases h
      exact .unmark (Bool.eq_false_iff.mpr hnext)
  | budgetReserved c =>
    cases h
    exact .mark
  | flagWritten c =>
    simp only [adsScript, correctMove] at h
    split at h
    · rename_i hnext
      split at h
      all_goals cases h
      exact .chargeAgain hnext
    · rename_i hnext
      cases h
      exact .release (Bool.eq_false_iff.mpr hnext)
  | budgetReleased c =>
    simp only [adsScript, correctMove] at h
    split at h
    all_goals cases h
    exact .credit
  | closing input now =>
    simp only [adsScript, closeMove] at h
    split at h
    · cases h
    · cases h
      exact .group
  | grouped input now groups =>
    simp only [adsScript, closeMove] at h
    split at h
    · cases h
    · rename_i hfree
      cases h
      exact .check hfree
  | invoicing input now products groups =>
    cases groups with
    | nil => simp [adsScript, closeMove] at h
    | cons group rest =>
      simp only [adsScript, closeMove] at h
      split at h
      all_goals cases h
      exact .profile
  | numbering input now products profile group rest =>
    simp only [adsScript, closeMove] at h
    split at h
    all_goals cases h
    exact .invoice
  | finished => simp [adsScript] at h

end Statements

/-- The point a transaction has reached. -/
abbrev AdsPoint := Script.Point AdsLock AdsWrite AdsStage

abbrev AdsSessions := Sessions AdsDb AdsPoint

section Examples

def exampleAdsConfig : AdsConfig where
  ADS_EVENT_FRAUD_SCORE_MAX_BILLABLE := 7 / 10
  ADS_DEFAULT_CURRENCY := "BOB"
  ADS_BILLING_TAX_RATE := 13 / 100
  sessionDate t := t / 86400000

/-- A campaign with a budget of 10.00, and a decision that charges 0.50 for a click. -/
def exampleAdsDb : AdsDb where
  campaigns := Table.empty.create fun id => ⟨id, .active, "BOB", 10000000, 0⟩
  adSets := Table.empty.create fun id => ⟨id, .cpc⟩
  decisions := Table.empty.create fun id => ⟨id, 1, 1, 1, 1, 1, none, 500000⟩
  events := .empty
  ledger := .empty
  metrics := []
  advertisers := Table.empty.create fun id => ⟨id, some 1⟩
  profiles := [⟨1, 1, true, true, 0⟩]
  products := [⟨1, "Clic", "CPC", "ADS", true⟩]
  invoices := .empty
  receivables := .empty

def exampleClick : TrackItem := ⟨⟨.click, 1, none, none, none⟩, 1000, 1000⟩

/-- The click is tracked and charged. -/
def trackedClick : List (Act AdsRequest) :=
  .start 1 (.trackEvents [exampleClick]) :: List.replicate 4 (.advance 1)

end Examples

end AtlasErp
