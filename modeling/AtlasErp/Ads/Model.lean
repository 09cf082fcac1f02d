import AtlasErp.Billing.Model
import AtlasErp.Common.Numbers
import AtlasErp.Lib.Table

/-! # Advertising: campaigns, events, the spend ledger and its invoices

The tables of the advertising module that tracking, corrections and the closing of a period read and
write.

- `AdsDb`: the tables;
- `calculateEventCost`, `accumulateDailyMetric`: what an event costs, and its day;
- `AdsDb.recordEvent`, `AdsDb.correctEvent`: the writes of a tracked event and of a correction. -/

namespace AtlasErp

open Lib

/-! ## The tables -/

/-- `campaignStatuses`. -/
inductive CampaignStatus where
  | draft
  | pendingReview
  | approved
  | active
  | paused
  | ended
  | rejected
  | archived
  deriving DecidableEq

/-- `buyingModels`. -/
inductive BuyingModel where
  | cpm
  | cpc
  | cpa
  | fixed
  deriving DecidableEq

def BuyingModel.text : BuyingModel → String
  | .cpm => "CPM"
  | .cpc => "CPC"
  | .cpa => "CPA"
  | .fixed => "FIXED"

/-- `eventTypes`. -/
inductive AdEventType where
  | impression
  | click
  | conversion
  deriving DecidableEq

def AdEventType.text : AdEventType → String
  | .impression => "IMPRESSION"
  | .click => "CLICK"
  | .conversion => "CONVERSION"

/-- `ck_spend_ledger_type`. -/
inductive LedgerEntryType where
  | charge
  | credit
  | adjustment
  | refund
  | tax
  deriving DecidableEq

/-- `ck_invoice_status`. -/
inductive AdsInvoiceStatus where
  | draft
  | issued
  | partiallyPaid
  | paid
  | overdue
  | void
  deriving DecidableEq

/-- A row of `ad_campaigns`. -/
structure AdCampaign where
  id : Nat
  status : CampaignStatus
  currency : String
  budgetTotalMicros : Int
  spendTotalMicros : Int
  deriving DecidableEq

structure AdSet where
  id : Nat
  buyingModel : BuyingModel
  deriving DecidableEq

/-- A row of `ad_delivery_decisions`.  Bids, floors and tariffs are not negative, so neither is the
price. -/
structure DeliveryDecision where
  id : Nat
  requestId : Nat
  advertiserId : Nat
  campaignId : Nat
  adSetId : Nat
  adId : Nat
  placementId : Option Nat
  priceMicros : Nat
  deriving DecidableEq

/-- A row of `ad_events`. -/
structure AdEvent where
  id : Nat
  eventType : AdEventType
  eventTime : Instant
  requestId : Nat
  deliveryDecisionId : Nat
  advertiserId : Nat
  campaignId : Nat
  adSetId : Nat
  adId : Nat
  placementId : Option Nat
  costMicros : Nat
  isBillable : Bool
  deriving DecidableEq

/-- A row of `ad_spend_ledger`. -/
structure SpendLedgerEntry where
  id : Nat
  advertiserId : Nat
  campaignId : Option Nat
  /-- Only the first charge of an event names it. -/
  adEventId : Option Nat
  entryType : LedgerEntryType
  amountMicros : Int
  currency : String
  reason : Option String
  occurredAt : Instant
  /-- History, not a column: the event the entry is about. -/
  aboutEvent : Nat
  deriving DecidableEq

/-- A row of `ad_daily_metrics`. -/
structure DailyMetric where
  metricDate : Day
  advertiserId : Nat
  campaignId : Nat
  adSetId : Nat
  adId : Nat
  placementId : Nat
  impressions : Nat
  clicks : Nat
  conversions : Nat
  billableEvents : Nat
  spendMicros : Nat
  deriving DecidableEq

/-- What billing reads of an advertiser. -/
structure AdvertiserAccount where
  id : Nat
  merchantAccountId : Option Nat
  deriving DecidableEq

/-- A row of `ad_billing_profiles`. -/
structure BillingProfile where
  id : Nat
  advertiserId : Nat
  isActive : Bool
  isDefault : Bool
  createdAt : Instant
  deriving DecidableEq

/-- A row of `atlas_sales.billing_products`. -/
structure AdsBillingProduct where
  id : Nat
  name : String
  chargeBasis : String
  sourceType : String
  isActive : Bool
  deriving DecidableEq

/-- A row of `ad_invoice_lines`. -/
structure AdsInvoiceLine where
  campaignId : Option Nat
  description : String
  pricingModel : String
  quantity : Nat
  unitPriceMicros : Int
  amountMicros : Int
  deriving DecidableEq

/-- A row of `ad_invoices`, with its lines. -/
structure AdsInvoice where
  id : Nat
  advertiserId : Nat
  invoiceNumber : List Char
  billingProfileId : Nat
  periodStart : Day
  periodEnd : Day
  currency : String
  subtotalMicros : Int
  taxMicros : Int
  totalMicros : Int
  status : AdsInvoiceStatus
  lines : List AdsInvoiceLine
  /-- History, not a column: the ledger entries that the grouping query read for the invoice. -/
  entries : List SpendLedgerEntry
  deriving DecidableEq

instance : HasKey AdCampaign := ⟨(·.id), fun k r => { r with id := k }, fun _ _ => rfl, fun _ => rfl⟩
instance : HasKey AdSet := ⟨(·.id), fun k r => { r with id := k }, fun _ _ => rfl, fun _ => rfl⟩
instance : HasKey DeliveryDecision := ⟨(·.id), fun k r => { r with id := k }, fun _ _ => rfl, fun _ => rfl⟩
instance : HasKey AdEvent := ⟨(·.id), fun k r => { r with id := k }, fun _ _ => rfl, fun _ => rfl⟩
instance : HasKey SpendLedgerEntry := ⟨(·.id), fun k r => { r with id := k }, fun _ _ => rfl, fun _ => rfl⟩
instance : HasKey AdvertiserAccount := ⟨(·.id), fun k r => { r with id := k }, fun _ _ => rfl, fun _ => rfl⟩
instance : HasKey AdsInvoice := ⟨(·.id), fun k r => { r with id := k }, fun _ _ => rfl, fun _ => rfl⟩

structure AdsDb where
  campaigns : Table AdCampaign
  adSets : Table AdSet
  decisions : Table DeliveryDecision
  events : Table AdEvent
  ledger : Table SpendLedgerEntry
  metrics : List DailyMetric
  advertisers : Table AdvertiserAccount
  profiles : List BillingProfile
  products : List AdsBillingProduct
  invoices : Table AdsInvoice
  receivables : Table MerchantReceivable
  deriving DecidableEq

/-- The environment of the module. -/
structure AdsConfig where
  ADS_EVENT_FRAUD_SCORE_MAX_BILLABLE : JsNumber
  ADS_DEFAULT_CURRENCY : String
  ADS_BILLING_TAX_RATE : JsNumber
  /-- `timestamptz::date` in the time zone of the session. -/
  sessionDate : Instant → Day

/-! ## Events -/

/-- A body that passed `trackEventSchema`. -/
structure TrackEventDto where
  eventType : AdEventType
  deliveryDecisionId : Nat
  requestId : Option Nat
  eventTime : Option Instant
  fraudScore : Option JsNumber
  deriving DecidableEq

/-- The cost of an event under the buying model of its ad set. -/
def calculateEventCost (eventType : AdEventType) (buyingModel : BuyingModel) (priceMicros : Nat) : Nat :=
  match eventType, buyingModel with
  | .impression, .cpm => (priceMicros + 999) / 1000
  | .click, .cpc => priceMicros
  | .conversion, .cpa => priceMicros
  | _, _ => 0

/-- The key of a daily metric. -/
def DailyMetric.sameKey (m n : DailyMetric) : Bool :=
  m.metricDate = n.metricDate ∧ m.advertiserId = n.advertiserId ∧ m.campaignId = n.campaignId ∧
    m.adSetId = n.adSetId ∧ m.adId = n.adId ∧ m.placementId = n.placementId

/-- `INSERT … ON CONFLICT DO UPDATE`: the counters add up. -/
def upsertMetric (metrics : List DailyMetric) (m : DailyMetric) : List DailyMetric :=
  if metrics.any m.sameKey then
    metrics.map fun n =>
      if m.sameKey n then
        { n with
          impressions := n.impressions + m.impressions
          clicks := n.clicks + m.clicks
          conversions := n.conversions + m.conversions
          billableEvents := n.billableEvents + m.billableEvents
          spendMicros := n.spendMicros + m.spendMicros }
      else n
  else metrics ++ [m]

/-- The metric of an event; an event without placement is not aggregated. -/
def eventMetric (config : AdsConfig) (e : AdEvent) : Option DailyMetric :=
  e.placementId.map fun placementId =>
    { metricDate := config.sessionDate e.eventTime
      advertiserId := e.advertiserId
      campaignId := e.campaignId
      adSetId := e.adSetId
      adId := e.adId
      placementId
      impressions := if e.eventType = .impression then 1 else 0
      clicks := if e.eventType = .click then 1 else 0
      conversions := if e.eventType = .conversion then 1 else 0
      billableEvents := if e.isBillable then 1 else 0
      spendMicros := if e.isBillable then e.costMicros else 0 }

def accumulateDailyMetric (config : AdsConfig) (e : AdEvent) (metrics : List DailyMetric) : List DailyMetric :=
  match eventMetric config e with
  | some m => upsertMetric metrics m
  | none => metrics

/-! ## Writes -/

/-- The condition of `reserveCampaignBudget`: nothing to reserve, or the row that its `WHERE` selects. -/
def AdsDb.budgetAllows (db : AdsDb) (campaignId amountMicros : Nat) : Bool :=
  amountMicros = 0 ||
    (db.campaigns.find? campaignId).any fun c =>
      c.spendTotalMicros + (amountMicros : Int) ≤ c.budgetTotalMicros

/-- The write of `reserveCampaignBudget`. -/
def AdsDb.reserveCampaignBudget (db : AdsDb) (campaignId amountMicros : Nat) : AdsDb :=
  { db with
    campaigns := db.campaigns.updateWhere (·.id = campaignId) fun c =>
      { c with spendTotalMicros := c.spendTotalMicros + amountMicros } }

/-- `releaseCampaignBudget`: the counter does not go below zero. -/
def AdsDb.releaseCampaignBudget (db : AdsDb) (campaignId amountMicros : Nat) : AdsDb :=
  if amountMicros = 0 then db
  else
    { db with
      campaigns := db.campaigns.updateWhere (·.id = campaignId) fun c =>
        { c with spendTotalMicros := max (c.spendTotalMicros - amountMicros) 0 } }

def AdEvent.numbered (e : AdEvent) (id : Nat) : AdEvent := { e with id }

/-- The charge of a billable event. -/
def chargeEntry (event : AdEvent) (eventId : Nat) (currency reason : String) (occurredAt : Instant) (id : Nat) :
    SpendLedgerEntry where
  id
  advertiserId := event.advertiserId
  campaignId := some event.campaignId
  adEventId := some eventId
  entryType := .charge
  amountMicros := event.costMicros
  currency
  reason := some reason
  occurredAt
  aboutEvent := eventId

/-- The writes of a tracked event: its row, its metric and, when it is billable, the budget it reserved
and its charge. -/
def AdsDb.recordEvent (config : AdsConfig) (db : AdsDb) (event : AdEvent) (currency reason : String)
    (occurredAt : Instant) : AdsDb :=
  let eventId := db.events.nextKey
  let recorded := { db with
    events := db.events.create event.numbered
    metrics := accumulateDailyMetric config event db.metrics }
  if event.isBillable then
    { recorded.reserveCampaignBudget event.campaignId event.costMicros with
      ledger := db.ledger.create (chargeEntry event eventId currency reason occurredAt) }
  else recorded

/-- The ledger entry of a correction.  `charged` says that the event already has its charge. -/
def correctionEntry (event : AdEvent) (charged nextIsBillable : Bool) (currency reason : String)
    (occurredAt : Instant) (id : Nat) : SpendLedgerEntry where
  id
  advertiserId := event.advertiserId
  campaignId := some event.campaignId
  adEventId := if nextIsBillable && !charged then some event.id else none
  entryType := if nextIsBillable then (if charged then .adjustment else .charge) else .credit
  amountMicros := if nextIsBillable then event.costMicros else -event.costMicros
  currency
  reason := some reason
  occurredAt
  aboutEvent := event.id

def AdEvent.marked (isBillable : Bool) (e : AdEvent) : AdEvent := { e with isBillable }

/-- The writes of a correction: the flag of the event, the counter of the campaign and an entry that
compensates. -/
def AdsDb.correctEvent (db : AdsDb) (event : AdEvent) (charged nextIsBillable : Bool)
    (currency reason : String) (occurredAt : Instant) : AdsDb :=
  let flagged := { db with events := db.events.updateWhere (·.id = event.id) (AdEvent.marked nextIsBillable) }
  let moved :=
    if nextIsBillable then flagged.reserveCampaignBudget event.campaignId event.costMicros
    else flagged.releaseCampaignBudget event.campaignId event.costMicros
  { moved with
    ledger := db.ledger.create (correctionEntry event charged nextIsBillable currency reason occurredAt) }

end AtlasErp
