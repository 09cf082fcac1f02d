import AtlasErp.Common.Basics
import AtlasErp.Lib.Checked

/-! # The consumer's inbox

`consumeOnce` registers the key of an event in the transaction of its effect: if the effect fails
the key is rolled back with it, and a repetition after the commit finds the key and does nothing.

- `consumeOnce_duplicate`: an event whose key is registered has no effect;
- `consumeOnce_everyEvent`: in the order `every-event` any other event runs its effect. -/

namespace AtlasErp

/-- How a consumer orders the events of one aggregate. -/
inductive InboxOrdering where
  | everyEvent
  | latestState
  deriving DecidableEq

/-- The aggregate an event is about, with its version. -/
structure EventAggregate where
  type : String
  id : String
  version : Nat
  deriving DecidableEq

/-- What the inbox keeps of an event. -/
structure InboxEvent where
  eventKey : String
  topic : String
  schemaVersion : Nat
  aggregate : Option EventAggregate
  deriving DecidableEq

/-- The `outcome` column of `event_inbox`. -/
inductive InboxOutcome where
  | applied
  | stale
  | exception
  deriving DecidableEq

/-- A row of `event_inbox`, unique by consumer and event key. -/
structure InboxRow where
  consumer : String
  event : InboxEvent
  outcome : InboxOutcome
  deriving DecidableEq

/-- A row of `event_inbox_aggregate`: the last version a consumer applied. -/
structure InboxAggregateRow where
  consumer : String
  type : String
  id : String
  lastVersion : Nat
  deriving DecidableEq

/-- The two tables of the inbox. -/
structure EventInbox where
  rows : List InboxRow
  aggregates : List InboxAggregateRow
  deriving DecidableEq

/-- What `consumeOnce` answers. -/
inductive InboxResult (β : Type) where
  | applied (value : β)
  | duplicate
  | stale (lastVersion : Nat)
  deriving DecidableEq

namespace EventInbox

/-- Is the key registered for this consumer? -/
def registered (inbox : EventInbox) (consumer eventKey : String) : Bool :=
  inbox.rows.any (fun row => row.consumer = consumer ∧ row.event.eventKey = eventKey)

/-- `INSERT INTO event_inbox … 'APPLIED'`. -/
def register (inbox : EventInbox) (consumer : String) (event : InboxEvent) : EventInbox :=
  { inbox with rows := ⟨consumer, event, .applied⟩ :: inbox.rows }

/-- `UPDATE event_inbox SET outcome = … WHERE consumer = … AND event_key = …`. -/
def setOutcome (inbox : EventInbox) (consumer eventKey : String) (outcome : InboxOutcome) : EventInbox :=
  { inbox with
    rows := inbox.rows.map fun row =>
      if row.consumer = consumer ∧ row.event.eventKey = eventKey then { row with outcome } else row }

/-- The last version of an aggregate that a consumer applied. -/
def lastVersion (inbox : EventInbox) (consumer : String) (a : EventAggregate) : Option Nat :=
  (inbox.aggregates.find? (fun row => row.consumer = consumer ∧ row.type = a.type ∧ row.id = a.id)).map
    (·.lastVersion)

/-- The conditional upsert of `event_inbox_aggregate`; `none` when the version does not advance. -/
def advance (inbox : EventInbox) (consumer : String) (a : EventAggregate) : Option EventInbox :=
  match inbox.lastVersion consumer a with
  | none => some { inbox with aggregates := ⟨consumer, a.type, a.id, a.version⟩ :: inbox.aggregates }
  | some last =>
    if last < a.version then
      some { inbox with
        aggregates := inbox.aggregates.map fun row =>
          if row.consumer = consumer ∧ row.type = a.type ∧ row.id = a.id then
            { row with lastVersion := a.version } else row }
    else none

end EventInbox

section ConsumeOnce

variable {σ β : Type} (consumer : String) (event : InboxEvent) (ordering : InboxOrdering)
  (effect : EventInbox → σ → Except HttpError (β × EventInbox × σ))

/-- Does the order need a version the event does not carry? -/
def InboxOrdering.missesVersion (ordering : InboxOrdering) (event : InboxEvent) : Bool :=
  ordering = .latestState ∧ event.aggregate = none

/-- Apply an effect at most once for an event.  The effect runs after the key is registered, in the
same transaction: an `error` rolls both back. -/
def consumeOnce (inbox : EventInbox) (s : σ) : Except HttpError (InboxResult β × EventInbox × σ) :=
  if ordering.missesVersion event then
    .error ⟨.internalServerError, none,
      "consumeOnce: el orden latest-state exige la versión del agregado."⟩
  else if inbox.registered consumer event.eventKey then .ok (.duplicate, inbox, s)
  else
    let inserted := inbox.register consumer event
    let apply (inbox' : EventInbox) : Except HttpError (InboxResult β × EventInbox × σ) := do
      let (value, inbox'', s') ← effect inbox' s
      return (.applied value, inbox'', s')
    match ordering, event.aggregate with
    | .latestState, some a =>
      match inserted.advance consumer a with
      | some advanced => apply advanced
      | none =>
        .ok (.stale ((inserted.lastVersion consumer a).getD 0),
          inserted.setOutcome consumer event.eventKey .stale, s)
    | _, _ => apply inserted

variable {consumer event ordering effect} {inbox : EventInbox} {s : σ}

/-- A repetition of a registered event changes nothing. -/
theorem consumeOnce_duplicate (hversion : ordering.missesVersion event = false)
    (h : inbox.registered consumer event.eventKey = true) :
    consumeOnce consumer event ordering effect inbox s = .ok (.duplicate, inbox, s) := by
  simp [consumeOnce, hversion, h]

/-- In the order `every-event`, a key that is not registered runs the effect. -/
theorem consumeOnce_everyEvent (h : inbox.registered consumer event.eventKey = false) :
    consumeOnce consumer event .everyEvent effect inbox s =
      (do
        let (value, inbox'', s') ← effect (inbox.register consumer event) s
        return (.applied value, inbox'', s')) := by
  simp [consumeOnce, InboxOrdering.missesVersion, h]

end ConsumeOnce

namespace EventInbox

@[simp] theorem registered_register (inbox : EventInbox) (consumer : String) (event : InboxEvent)
    (consumer' key : String) :
    (inbox.register consumer event).registered consumer' key =
      ((consumer = consumer' ∧ event.eventKey = key) || inbox.registered consumer' key) := by
  simp [registered, register]

@[simp] theorem registered_setOutcome (inbox : EventInbox) (consumer key : String)
    (outcome : InboxOutcome) (consumer' key' : String) :
    (inbox.setOutcome consumer key outcome).registered consumer' key' =
      inbox.registered consumer' key' := by
  simp only [registered, setOutcome, List.any_map]
  refine congrArg _ (funext fun row => ?_)
  simp only [Function.comp]
  split <;> rfl

end EventInbox

end AtlasErp
