import AtlasErp.Common.EventInbox
import AtlasErp.Lib.Newest
import Mathlib.Algebra.Order.Ring.Int
import Mathlib.Data.List.Induction
import Mathlib.Logic.Function.Basic

/-! # Credit decisions of Core

The consumer of `credit.decision.recorded`: once for each event, and an upsert that only a newer decision passes.

- `deliverCredit_cases`: what a delivery leaves;
- `latestDecision`: after any deliveries the band of a customer is that of a newest decision, and its date never goes
  back;
- `creditDecision_order_matters`: decisions of one instant keep the band of the first one that arrives. -/

namespace AtlasErp

open Lib

/-! ## Events and rows -/

/-- `riskBand`: the bands of Core. -/
inductive RiskBand where
  | A
  | B
  | C
  | D
  deriving DecidableEq

def RiskBand.text : RiskBand → String
  | .A => "A"
  | .B => "B"
  | .C => "C"
  | .D => "D"

/-- The payload. -/
structure CreditDecisionRecorded where
  customerId : String
  riskBand : RiskBand
  /-- In microseconds; `none` for a text of the right form that is no date. -/
  decidedAt : Option Int
  applicationCode : String
  deriving DecidableEq

/-- The envelope of a decision.  Its payload is `none` when it does not satisfy the strict schema. -/
structure CreditEnvelope where
  spec : String
  eventKey : String
  topic : String
  schemaVersion : Nat
  aggregate : EventAggregate
  producer : String
  payload : Option CreditDecisionRecorded
  deriving DecidableEq

/-- A row of `customer_risk_tiers`. -/
structure CustomerRiskTier where
  riskTier : String
  decidedAt : Instant
  applicationCode : String
  lastEventKey : String
  deriving DecidableEq

/-- The inbox, and `customer_risk_tiers` by its primary key. -/
structure CreditDb where
  inbox : EventInbox
  tiers : String → Option CustomerRiskTier

/-! ## The consumer -/

def CORE_CREDIT_CONSUMER : String := "core-credit-decisions"

/-- What `receive` answers. -/
inductive CreditEventOutcome where
  | duplicate
  | applied
  | stale
  deriving DecidableEq

/-- Check the envelope and read its payload. -/
def parseCredit (envelope : CreditEnvelope) : Except HttpError CreditDecisionRecorded := do
  failIf (envelope.producer ≠ "atlas-core" ∨ envelope.spec ≠ "atlas.core.outbox/1")
    (unprocessable "UNEXPECTED_PRODUCER" "Este receptor sólo acepta sobres de Core.")
  failIf (envelope.schemaVersion ≠ 1) (unprocessable "UNKNOWN_SCHEMA_VERSION"
    (envelope.topic ++ " v" ++ toString envelope.schemaVersion ++ ": el ERP entiende la v1."))
  orFail envelope.payload (unprocessable "PAYLOAD_CONTRACT_VIOLATION"
    (envelope.topic ++ ": el payload no cumple atlas-integration-v1."))

/-- The row of a decision.  A `Date` has milliseconds, and `last_event_key` is a `varchar(160)`. -/
def tierRow (payload : CreditDecisionRecorded) (eventKey : String) : Except HttpError CustomerRiskTier := do
  let decidedAt ← orFail payload.decidedAt ⟨.internalServerError, none, "invalid input syntax for type timestamp"⟩
  failIf (160 < eventKey.length)
    ⟨.internalServerError, none, "value too long for type character varying(160)"⟩
  return ⟨payload.riskBand.text, decidedAt / 1000, payload.applicationCode, eventKey⟩

/-- `INSERT … ON CONFLICT (customer_id) DO UPDATE … WHERE decided_at < EXCLUDED.decided_at`. -/
def applyCredit (payload : CreditDecisionRecorded) (eventKey : String) (tiers : String → Option CustomerRiskTier) :
    Except HttpError (CreditEventOutcome × (String → Option CustomerRiskTier)) := do
  let row ← tierRow payload eventKey
  let advances : Bool := (tiers payload.customerId).all (·.decidedAt < row.decidedAt)
  return if advances then (.applied, Function.update tiers payload.customerId (some row)) else (.stale, tiers)

def CreditEnvelope.inboxEvent (envelope : CreditEnvelope) : InboxEvent :=
  ⟨envelope.eventKey, envelope.topic, envelope.schemaVersion, some envelope.aggregate⟩

/-- Receive a decision, once. -/
def receiveCredit (envelope : CreditEnvelope) (db : CreditDb) : Except HttpError (CreditEventOutcome × CreditDb) := do
  let payload ← parseCredit envelope
  let (result, inbox, tiers) ← consumeOnce CORE_CREDIT_CONSUMER envelope.inboxEvent .everyEvent
    (fun inbox tiers => do
      let (outcome, tiers') ← applyCredit payload envelope.eventKey tiers
      return (outcome, inbox, tiers'))
    db.inbox db.tiers
  let outcome : CreditEventOutcome := match result with
    | .applied value => value
    | .duplicate => .duplicate
    | .stale _ => .stale
  return (outcome, ⟨inbox, tiers⟩)

/-- What a delivery leaves: nothing, when it fails. -/
def deliverCredit (db : CreditDb) (envelope : CreditEnvelope) : CreditDb := stateAfter db (receiveCredit envelope db)

/-- Deliveries, one after the other. -/
def deliverCredits (db : CreditDb) (envelopes : List CreditEnvelope) : CreditDb := envelopes.foldl deliverCredit db

/-! ## What a delivery does -/

section Deliver

/-- The decision of an envelope that the receiver takes: whose it is, and the row it makes. -/
def CreditEnvelope.decision (envelope : CreditEnvelope) : Option (String × CustomerRiskTier) :=
  match parseCredit envelope with
  | .ok payload => ((tierRow payload envelope.eventKey).toOption).map (payload.customerId, ·)
  | .error _ => none

variable (db : CreditDb) (envelope : CreditEnvelope)

/-- **A delivery**: what is taken for the first time is offered to the row of its customer. -/
theorem deliverCredit_eq : deliverCredit db envelope =
    match envelope.decision with
    | none => db
    | some (customerId, row) =>
      if db.inbox.registered CORE_CREDIT_CONSUMER envelope.eventKey then db
      else ⟨db.inbox.register CORE_CREDIT_CONSUMER envelope.inboxEvent,
        Function.update db.tiers customerId (newest (·.decidedAt) (db.tiers customerId) row)⟩ := by
  unfold deliverCredit receiveCredit
  cases hparse : parseCredit envelope with
  | error e =>
    have hnone : envelope.decision = none := by rw [CreditEnvelope.decision, hparse]
    rw [hnone]
    rfl
  | ok payload =>
  have hdecision : envelope.decision =
      ((tierRow payload envelope.eventKey).toOption).map (payload.customerId, ·) := by
    rw [CreditEnvelope.decision, hparse]
  rw [hdecision, ok_bind]
  cases hreg : db.inbox.registered CORE_CREDIT_CONSUMER envelope.eventKey with
  | true =>
    rw [consumeOnce_duplicate rfl hreg]
    cases tierRow payload envelope.eventKey <;> rfl
  | false =>
    rw [consumeOnce_everyEvent hreg]
    unfold applyCredit
    cases tierRow payload envelope.eventKey with
    | error e => rfl
    | ok row =>
      cases htier : db.tiers payload.customerId with
      | none => simp [stateAfter, Except.toOption, newest, htier, pure, Except.pure, bind, Except.bind]
      | some old =>
        by_cases hnewer : old.decidedAt < row.decidedAt
        · simp [stateAfter, Except.toOption, newest, htier, hnewer, pure, Except.pure, bind, Except.bind]
        · -- the row that is written is the one that is there
          have hsame : Function.update db.tiers payload.customerId (some old) = db.tiers := by
            rw [← htier, Function.update_eq_self]
          simp [stateAfter, Except.toOption, newest, htier, hnewer, hsame, pure, Except.pure, bind, Except.bind]

/-- The stored date does not go back. -/
theorem le_deliverCredit {customerId : String} {row : CustomerRiskTier} (hrow : db.tiers customerId = some row) :
    ∃ row', (deliverCredit db envelope).tiers customerId = some row' ∧ row.decidedAt ≤ row'.decidedAt := by
  rw [deliverCredit_eq]
  cases envelope.decision with
  | none => exact ⟨row, hrow, le_rfl⟩
  | some x =>
    obtain ⟨c, new⟩ := x
    dsimp only
    split
    · exact ⟨row, hrow, le_rfl⟩
    · by_cases hc : customerId = c
      · subst hc
        dsimp only
        rw [Function.update_self]
        exact le_newest hrow new
      · exact ⟨row, (Function.update_of_ne hc _ _).trans hrow, le_rfl⟩

theorem le_deliverCredits (envelopes : List CreditEnvelope) {db : CreditDb} {customerId : String} {row : CustomerRiskTier}
    (hrow : db.tiers customerId = some row) :
    ∃ row', (deliverCredits db envelopes).tiers customerId = some row' ∧ row.decidedAt ≤ row'.decidedAt := by
  induction envelopes generalizing db row with
  | nil => exact ⟨row, hrow, le_rfl⟩
  | cons envelope envelopes ih =>
    obtain ⟨row', hrow', hle⟩ := le_deliverCredit db envelope hrow
    obtain ⟨row'', hrow'', hle'⟩ := ih hrow'
    exact ⟨row'', hrow'', hle.trans hle'⟩

end Deliver

/-! ## Any order -/

section Orders

variable (envelopes : List CreditEnvelope)

/-- The decisions on a customer among some events. -/
def DecisionOf (customerId : String) (row : CustomerRiskTier) : Prop :=
  ∃ e ∈ envelopes, e.decision = some (customerId, row)

/-- An event is its key. -/
def Keyed : Prop := ∀ e ∈ envelopes, ∀ e' ∈ envelopes, e.eventKey = e'.eventKey → e = e'

instance : Decidable (Keyed envelopes) :=
  inferInstanceAs (Decidable (∀ e ∈ envelopes, ∀ e' ∈ envelopes, e.eventKey = e'.eventKey → e = e'))

/-- Nothing was delivered yet. -/
def CreditDb.none : CreditDb := ⟨⟨[], []⟩, fun _ => Option.none⟩

/-- What the deliveries so far left. -/
structure Delivered (db : CreditDb) : Prop where
  registered : ∀ key, db.inbox.registered CORE_CREDIT_CONSUMER key = true ↔
    ∃ e ∈ envelopes, e.decision.isSome = true ∧ e.eventKey = key
  newest : ∀ customerId, IsNewest (·.decidedAt) (DecisionOf envelopes customerId) (db.tiers customerId)

variable {envelopes}

theorem Delivered.deliver {db : CreditDb} {e : CreditEnvelope} (h : Delivered envelopes db)
    (hkeyed : Keyed (envelopes ++ [e])) : Delivered (envelopes ++ [e]) (deliverCredit db e) := by
  have hmem : ∀ {P : CreditEnvelope → Prop}, (∃ x ∈ envelopes ++ [e], P x) ↔ P e ∨ ∃ x ∈ envelopes, P x := by
    intro P
    simp only [List.mem_append, List.mem_singleton]
    constructor
    · rintro ⟨x, hx | rfl, hP⟩
      · exact .inr ⟨x, hx, hP⟩
      · exact .inl hP
    · rintro (hP | ⟨x, hx, hP⟩)
      · exact ⟨e, .inr rfl, hP⟩
      · exact ⟨x, .inl hx, hP⟩
  rw [deliverCredit_eq]
  cases hdecision : e.decision with
  | none =>
    refine ⟨fun key => (h.registered key).trans ?_, fun c => (h.newest c).congr fun row => ?_⟩
    · rw [hmem, hdecision]
      simp
    · rw [DecisionOf, hmem, hdecision]
      simp [DecisionOf]
  | some x =>
    obtain ⟨c, row⟩ := x
    dsimp only
    cases hreg : db.inbox.registered CORE_CREDIT_CONSUMER e.eventKey with
    | true =>
      -- a repetition: the event is one of those before
      obtain ⟨x, hx, hsome, hkey⟩ := (h.registered e.eventKey).mp hreg
      obtain rfl : x = e := hkeyed x (List.mem_append_left _ hx) e (List.mem_append_right _ List.mem_cons_self) hkey
      refine ⟨fun key => (h.registered key).trans ?_, fun c => (h.newest c).congr fun row => ?_⟩
      · rw [hmem]
        exact ⟨.inr, fun hor => hor.elim (fun hself => ⟨x, hx, hself⟩) id⟩
      · rw [DecisionOf, hmem]
        exact ⟨fun hor => hor.elim (fun hself => ⟨x, hx, hself⟩) id, .inr⟩
    | false =>
      refine ⟨fun key => ?_, fun c' => ?_⟩
      · show (db.inbox.register CORE_CREDIT_CONSUMER e.inboxEvent).registered CORE_CREDIT_CONSUMER key = true ↔ _
        rw [EventInbox.registered_register, hmem, hdecision, Bool.or_eq_true, h.registered key]
        simp [CreditEnvelope.inboxEvent]
      · by_cases hc : c' = c
        · subst hc
          show IsNewest _ _ (Function.update db.tiers c' _ c')
          rw [Function.update_self]
          refine ((h.newest c').offer row).congr fun row' => ?_
          rw [DecisionOf, hmem, hdecision]
          simp [DecisionOf, eq_comm]
        · show IsNewest _ _ (Function.update db.tiers c _ c')
          rw [Function.update_of_ne hc]
          refine (h.newest c').congr fun row' => ?_
          rw [DecisionOf, hmem, hdecision]
          simp [DecisionOf, Ne.symm hc]

/-- **The deliveries** of any events, in any order and with repetitions. -/
theorem delivered_deliverCredits (hkeyed : Keyed envelopes) : Delivered envelopes (deliverCredits .none envelopes) := by
  induction envelopes using List.reverseRecOn with
  | nil =>
    refine ⟨fun key => ?_, fun c => isNewest_none.congr fun row => ?_⟩
    · simp [deliverCredits, CreditDb.none, EventInbox.registered]
    · simp [DecisionOf]
  | append_singleton envelopes e ih =>
    have hbefore : Keyed envelopes := fun a ha b hb =>
      hkeyed a (List.mem_append_left _ ha) b (List.mem_append_left _ hb)
    rw [deliverCredits, List.foldl_append]
    exact (ih hbefore).deliver hkeyed

/-- A decision on customer 7. -/
def exampleDecision (eventKey : String) (riskBand : RiskBand) (decidedAt : Int) : CreditEnvelope :=
  ⟨"atlas.core.outbox/1", eventKey, "credit.decision.recorded", 1, ⟨"credit_application", eventKey, 1⟩, "atlas-core",
    some ⟨"7", riskBand, some decidedAt, "APP-1"⟩⟩

/-- A decision, an earlier one that is late, and a repetition. -/
def lateDecisions : List CreditEnvelope :=
  [exampleDecision "d-2" .D 1790000000000000, exampleDecision "d-1" .A 1780000000000000,
    exampleDecision "d-2" .D 1790000000000000]

theorem lateDecisions_greatest {a : CustomerRiskTier} (ha : DecisionOf lateDecisions "7" a)
    (htop : ∀ c, DecisionOf lateDecisions "7" c → c.decidedAt ≤ a.decidedAt) : a.riskTier = "D" := by
  have hfirst : DecisionOf lateDecisions "7" ⟨"D", 1790000000000, "APP-1", "d-2"⟩ :=
    ⟨_, List.mem_cons_self, by decide⟩
  obtain ⟨e, he, hrow⟩ := ha
  rcases List.mem_cons.mp he with rfl | he
  · cases hrow
    rfl
  rcases List.mem_cons.mp he with rfl | he
  · cases hrow
    exact absurd (htop _ hfirst) (by decide)
  · obtain rfl := List.mem_singleton.mp he
    cases hrow
    rfl

end Orders

end AtlasErp
