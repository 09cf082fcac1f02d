import AtlasErp.Common.EventInbox
import AtlasErp.Lib.Table
import Mathlib.Data.List.Sort

/-! # The relay of the outbox

The rows of `event_outbox` and the statements of the relay, each a transaction of its own: the claim
by lease, the mark after an acknowledgement or a failure, the authorized replay of a dead event.

- `mem_claimBatch`: what a claim hands out, and why nothing earlier of its aggregate blocked it;
- `Succeeds`: what a statement of the relay leaves of every row, with one lemma for each statement
  (`succeeds_claimBatch`, `succeeds_mark`, `succeeds_replayEvent`). -/

namespace AtlasErp

open Lib

/-! ## Rows and envelopes -/

/-- The `status` column of `event_outbox`. -/
inductive OutboxStatus where
  | pending
  | published
  | dead
  /-- Marked by the old worker, which only wrote a log: never delivered. -/
  | legacyLogOnly
  deriving DecidableEq

/-- The columns that a claim returns. -/
structure ClaimedEvent where
  id : Nat
  topic : String
  aggregateType : String
  aggregateId : String
  aggregateVersion : Nat
  schemaVersion : Nat
  eventKey : String
  payload : String
  traceContext : Option String
  createdAt : Instant
  attempts : Nat
  deriving DecidableEq

/-- A row of `event_outbox`. -/
structure OutboxRow extends ClaimedEvent where
  status : OutboxStatus
  nextAttemptAt : Instant
  leaseOwner : Option String
  leaseExpiresAt : Option Instant
  lastAttemptAt : Option Instant
  lastError : Option String
  lastHttpStatus : Option Nat
  publishedAt : Option Instant
  deadAt : Option Instant
  replayCount : Nat
  deriving DecidableEq

instance : HasKey OutboxRow where
  key row := row.id
  withKey k row := { row with id := k }
  key_withKey _ _ := rfl
  withKey_key _ := rfl

/-- What the consumer receives: the same for every attempt of an event. -/
structure OutboxEnvelope where
  spec : String
  eventKey : String
  topic : String
  schemaVersion : Nat
  aggregate : EventAggregate
  occurredAt : Instant
  producer : String
  payload : String
  deriving DecidableEq

def toEnvelope (event : ClaimedEvent) : OutboxEnvelope where
  spec := "atlas.erp.outbox/1"
  eventKey := event.eventKey
  topic := event.topic
  schemaVersion := event.schemaVersion
  aggregate := ⟨event.aggregateType, event.aggregateId, event.aggregateVersion⟩
  occurredAt := event.createdAt
  producer := "atlas-erp"
  payload := event.payload

/-- How the consumer's inbox knows an envelope. -/
def OutboxEnvelope.inboxEvent (envelope : OutboxEnvelope) : InboxEvent :=
  ⟨envelope.eventKey, envelope.topic, envelope.schemaVersion, some envelope.aggregate⟩

/-! ## The answer of a delivery -/

/-- What a call of the transport answers. -/
inductive PublishResult where
  | ack (httpStatus : Option Nat)
  | retry (error : String) (httpStatus : Option Nat)
  | rejected (error : String) (httpStatus : Option Nat)
  deriving DecidableEq

/-- What the sender of a request gets to see. -/
inductive HttpAnswer where
  | response (status : Nat)
  /-- No answer: the text of the network error or of the timeout. -/
  | networkError (error : String)
  /-- The adapter itself threw. -/
  | adapterError (message : String)
  deriving DecidableEq

/-- The statuses by which a receiver says that it will never accept this event as it is. -/
def rejectedStatuses : List Nat := [400, 410, 413, 415, 422]

/-- The result of `HttpEventPublisher.publish`, or what `deliver` makes of its exception. -/
def HttpAnswer.result : HttpAnswer → PublishResult
  | .response status =>
    if 200 ≤ status ∧ status < 300 then .ack (some status)
    else
      let error := "HTTP " ++ toString status ++ " del receptor"
      if status ∈ rejectedStatuses then .rejected error (some status) else .retry error (some status)
  | .networkError error => .retry error none
  | .adapterError message => .retry ("fallo del adaptador: " ++ message) none

/-- Does the receiver confirm? -/
def HttpAnswer.confirms : HttpAnswer → Bool
  | .response status => 200 ≤ status ∧ status < 300
  | _ => false

/-- Only a 2xx of the receiver is an acknowledgement. -/
theorem HttpAnswer.confirms_of_ack {answer : HttpAnswer} {httpStatus : Option Nat}
    (h : answer.result = .ack httpStatus) : answer.confirms = true := by
  cases answer with
  | response status =>
    by_cases hstatus : 200 ≤ status ∧ status < 300
    · simp [confirms, hstatus]
    · simp only [result, hstatus, if_false] at h
      split at h <;> cases h
  | networkError error => cases h
  | adapterError message => cases h

/-- What became of an event of a batch. -/
inductive DeliveryOutcome where
  | published
  | retry
  | dead
  | leaseLost
  deriving DecidableEq

/-! ## The relay -/

structure OutboxRelayConfig where
  batchSize : Nat
  leaseMs : Nat
  maxAttempts : Nat
  retryBaseMs : Nat
  retryMaxMs : Nat
  deriving DecidableEq

/-- A relay process: its name, its configuration, and how it redacts the text of an error. -/
structure OutboxRelay where
  workerId : String
  config : OutboxRelayConfig
  redactDeliveryError : String → String

/-- `base · 2^(attempt − 1)`, with a cap. -/
def computeBackoffMs (attempt baseMs maxMs : Nat) : Nat :=
  if 31 ≤ attempt - 1 then maxMs else min maxMs (baseMs * 2 ^ (attempt - 1))

section Claim

variable (relay : OutboxRelay) (now : Instant) (outbox : Table OutboxRow)

/-- An earlier version of the same aggregate that is still pending, or dead. -/
def OutboxRow.blockedBy (e previo : OutboxRow) : Bool :=
  previo.aggregateType = e.aggregateType ∧ previo.aggregateId = e.aggregateId ∧
    previo.aggregateVersion < e.aggregateVersion ∧ (previo.status = .pending ∨ previo.status = .dead)

/-- The `WHERE` of a claim: pending, its turn has come, without a live lease, and the head of its
aggregate. -/
def claimable (e : OutboxRow) : Bool :=
  e.status = .pending ∧ e.nextAttemptAt ≤ now ∧ e.leaseExpiresAt.all (· < now) ∧
    (outbox.findBy e.blockedBy).isNone

/-- `ORDER BY next_attempt_at, id`. -/
def turnBefore (a b : OutboxRow) : Prop :=
  a.nextAttemptAt < b.nextAttemptAt ∨ (a.nextAttemptAt = b.nextAttemptAt ∧ a.id ≤ b.id)

instance : DecidableRel turnBefore := fun _ _ => inferInstanceAs (Decidable (_ ∨ _))

/-- The candidates of a claim: `SKIP LOCKED` passes over the rows that others hold. -/
def candidatos (locked : List Nat) : List OutboxRow :=
  (((outbox.rowsWhere (claimable now outbox)).insertionSort turnBefore).filter (·.id ∉ locked)).take
    relay.config.batchSize

/-- What a claim writes on a candidate. -/
def OutboxRow.leased (row : OutboxRow) : OutboxRow :=
  { row with
    leaseOwner := some relay.workerId
    leaseExpiresAt := some (now + relay.config.leaseMs)
    attempts := row.attempts + 1
    lastAttemptAt := some now }

/-- Step 1: claim a batch, in one statement. -/
def claimBatch (locked : List Nat) : List ClaimedEvent × Table OutboxRow :=
  let candidatos := candidatos relay now outbox locked
  let taken (row : OutboxRow) : Bool := row ∈ candidatos
  (((outbox.rowsWhere taken).map fun row => (row.leased relay now).toClaimedEvent).insertionSort
      (fun a b => a.id ≤ b.id),
    outbox.updateWhere taken (·.leased relay now))

end Claim

section Marks

variable (relay : OutboxRelay) (now : Instant) (outbox : Table OutboxRow) (event : ClaimedEvent)

/-- What an acknowledgement writes. -/
def OutboxRow.markedPublished (httpStatus : Option Nat) (row : OutboxRow) : OutboxRow :=
  { row with
    status := .published
    publishedAt := some now
    deadAt := none
    lastHttpStatus := httpStatus
    lastError := none
    leaseOwner := none
    leaseExpiresAt := none }

/-- The `WHERE` of `markPublished`: without asking for the lease. -/
def ackable (row : OutboxRow) : Bool :=
  row.id = event.id ∧ (row.status = .pending ∨ row.status = .dead)

def markPublished (httpStatus : Option Nat) : DeliveryOutcome × Table OutboxRow :=
  (if (outbox.findBy (ackable event)).isSome then .published else .leaseLost,
    outbox.updateWhere (ackable event) (·.markedPublished now httpStatus))

/-- What a failure writes. -/
def OutboxRow.markedFailed (definitive : Bool) (error : String) (httpStatus : Option Nat)
    (row : OutboxRow) : OutboxRow :=
  let exhausted : Bool := definitive || relay.config.maxAttempts ≤ row.attempts
  let delayMs := computeBackoffMs event.attempts relay.config.retryBaseMs relay.config.retryMaxMs
  { row with
    status := if exhausted then .dead else .pending
    deadAt := if exhausted then some now else none
    nextAttemptAt := now + delayMs
    lastError := some (relay.redactDeliveryError error)
    lastHttpStatus := httpStatus
    leaseOwner := none
    leaseExpiresAt := none }

/-- The `WHERE` of `markFailed`: only the owner of the lease. -/
def failable (row : OutboxRow) : Bool :=
  row.id = event.id ∧ row.status = .pending ∧ row.leaseOwner = some relay.workerId

def markFailed (definitive : Bool) (error : String) (httpStatus : Option Nat) :
    DeliveryOutcome × Table OutboxRow :=
  let marked := (outbox.findBy (failable relay event)).map
    (·.markedFailed relay now event definitive error httpStatus)
  (match marked with
    | none => .leaseLost
    | some row => if row.status = .dead then .dead else .retry,
    outbox.updateWhere (failable relay event) (·.markedFailed relay now event definitive error httpStatus))

/-- Claimed more often than allowed without an answer: it is not sent again. -/
def agotado : Bool := relay.config.maxAttempts < event.attempts

/-- The mark of an event that is not sent again. -/
def markAgotado : DeliveryOutcome × Table OutboxRow :=
  markFailed relay now outbox event true
    ("agotado: " ++ toString (event.attempts - 1) ++ " reservas sin confirmación") none

/-- Step 3: the mark that a result asks for. -/
def mark : PublishResult → DeliveryOutcome × Table OutboxRow
  | .ack httpStatus => markPublished now outbox event httpStatus
  | .retry error httpStatus => markFailed relay now outbox event false error httpStatus
  | .rejected error httpStatus => markFailed relay now outbox event true error httpStatus

end Marks

section Replay

variable (now : Instant) (outbox : Table OutboxRow)

/-- What `replayEvent` answers. -/
inductive ReplayResult where
  | replayed (eventKey : String) (previousStatus : OutboxStatus) (previousAttempts : Nat)
      (previousPublishedAt : Option Instant) (replayCount : Nat) (aggregateType aggregateId : String)
  | notFound
  | notReplayable (status : OutboxStatus)
  deriving DecidableEq

/-- What a replay writes. -/
def OutboxRow.replayed (row : OutboxRow) : OutboxRow :=
  { row with
    status := .pending
    publishedAt := none
    deadAt := none
    attempts := 0
    nextAttemptAt := now
    leaseOwner := none
    leaseExpiresAt := none
    replayCount := row.replayCount + 1 }

/-- Return a dead event, or one that was never delivered, to the queue. -/
def replayEvent (eventKey : String) : ReplayResult × Table OutboxRow :=
  match outbox.findBy (·.eventKey = eventKey) with
  | none => (.notFound, outbox)
  | some row =>
    if row.status ≠ .dead ∧ row.status ≠ .legacyLogOnly then (.notReplayable row.status, outbox)
    else
      (.replayed eventKey row.status row.attempts row.publishedAt (row.replayCount + 1)
          row.aggregateType row.aggregateId,
        outbox.updateWhere (·.eventKey = eventKey) (·.replayed now))

end Replay

/-! ## What the statements do -/

/-- `new` is the row `old` some time later: the event stays the same, and once published it stays so. -/
structure OutboxRow.Follows (old new : OutboxRow) : Prop where
  sameId : new.id = old.id
  sameEnvelope : toEnvelope new.toClaimedEvent = toEnvelope old.toClaimedEvent
  published : old.status = .published → new.status = .published

theorem OutboxRow.Follows.refl (row : OutboxRow) : row.Follows row := ⟨rfl, rfl, fun h => h⟩

theorem OutboxRow.Follows.trans {a b c : OutboxRow} (h : a.Follows b) (h' : b.Follows c) : a.Follows c :=
  ⟨h'.sameId.trans h.sameId, h'.sameEnvelope.trans h.sameEnvelope, fun hpub => h'.published (h.published hpub)⟩

/-- Every row of `new` follows one of `old`, every row of `old` is followed, and a row becomes
published only when it was `acknowledged`. -/
structure Succeeds (acknowledged : OutboxRow → Prop) (old new : Table OutboxRow) : Prop where
  back : ∀ row ∈ new, ∃ prev ∈ old, prev.Follows row ∧
    (row.status = .published → prev.status = .published ∨ acknowledged row)
  forth : ∀ prev ∈ old, ∃ row ∈ new, prev.Follows row

theorem Succeeds.refl (acknowledged : OutboxRow → Prop) (outbox : Table OutboxRow) :
    Succeeds acknowledged outbox outbox :=
  ⟨fun row h => ⟨row, h, .refl row, .inl⟩, fun row h => ⟨row, h, .refl row⟩⟩

/-- A statement that rewrites selected rows, each by one that follows it. -/
theorem succeeds_updateWhere {acknowledged : OutboxRow → Prop} {outbox : Table OutboxRow}
    {p : OutboxRow → Bool} {f : OutboxRow → OutboxRow} (hf : ∀ row, HasKey.key (f row) = HasKey.key row)
    (h : ∀ row ∈ outbox, p row = true → row.Follows (f row) ∧
      ((f row).status = .published → row.status = .published ∨ acknowledged (f row))) :
    Succeeds acknowledged outbox (outbox.updateWhere p f) := by
  have hrow : ∀ row ∈ outbox, row.Follows (if p row then f row else row) ∧
      ((if p row then f row else row).status = .published →
        row.status = .published ∨ acknowledged (if p row then f row else row)) := by
    intro row hmem
    split
    · exact h row hmem ‹_›
    · exact ⟨.refl row, .inl⟩
  constructor
  · intro row hmem
    obtain ⟨prev, hprev, rfl⟩ := (Table.mem_updateWhere hf).mp hmem
    exact ⟨prev, hprev, hrow prev hprev⟩
  · intro prev hmem
    exact ⟨_, (Table.mem_updateWhere hf).mpr ⟨prev, hmem, rfl⟩, (hrow prev hmem).1⟩

section Statements

variable (relay : OutboxRelay) (now : Instant) {outbox : Table OutboxRow} (event : ClaimedEvent)

/-- The rows an acknowledgement of `event` may publish. -/
def Acknowledges (event : ClaimedEvent) : PublishResult → OutboxRow → Prop
  | .ack _, row => row.id = event.id
  | _, _ => False

theorem succeeds_claimBatch (locked : List Nat) :
    Succeeds (fun _ => False) outbox (claimBatch relay now outbox locked).2 :=
  succeeds_updateWhere (fun _ => rfl) fun _ _ _ => ⟨⟨rfl, rfl, fun h => h⟩, .inl⟩

theorem succeeds_markFailed (definitive : Bool) (error : String) (httpStatus : Option Nat) :
    Succeeds (fun _ => False) outbox (markFailed relay now outbox event definitive error httpStatus).2 := by
  refine succeeds_updateWhere (fun _ => rfl) fun row _ hrow => ⟨⟨rfl, rfl, fun hpub => ?_⟩, fun hpub => ?_⟩
  · -- only a pending row is marked
    have hpending : row.status = .pending := (of_decide_eq_true hrow).2.1
    rw [hpending] at hpub
    cases hpub
  · dsimp only [OutboxRow.markedFailed] at hpub
    split at hpub <;> cases hpub

theorem succeeds_mark (result : PublishResult) :
    Succeeds (Acknowledges event result) outbox (mark relay now outbox event result).2 := by
  cases result with
  | ack httpStatus =>
    refine succeeds_updateWhere (fun _ => rfl) fun row _ hrow => ⟨⟨rfl, rfl, fun _ => rfl⟩, fun _ => .inr ?_⟩
    exact (of_decide_eq_true hrow).1
  | retry error httpStatus => exact succeeds_markFailed relay now event false error httpStatus
  | rejected error httpStatus => exact succeeds_markFailed relay now event true error httpStatus

/-- A replay touches no published event, when the keys are unique. -/
theorem succeeds_replayEvent {eventKey : String}
    (hunique : ∀ a ∈ outbox, ∀ b ∈ outbox, a.eventKey = b.eventKey → a = b) :
    Succeeds (fun _ => False) outbox (replayEvent now outbox eventKey).2 := by
  unfold replayEvent
  cases hfind : outbox.findBy (·.eventKey = eventKey) with
  | none => exact .refl _ outbox
  | some found =>
    obtain ⟨hfound, hkey⟩ := Table.findBy_eq_some hfind
    dsimp only
    split
    · exact .refl _ outbox
    · rename_i hstatus
      refine succeeds_updateWhere (fun _ => rfl) fun row hrow hkey' => ⟨⟨rfl, rfl, fun hpub => ?_⟩, fun h => ?_⟩
      · obtain rfl := hunique row hrow found hfound
          ((of_decide_eq_true hkey').trans (of_decide_eq_true hkey).symm)
        simp [hpub] at hstatus
      · cases h

/-- **What a claim hands out**: a pending row that no earlier version of its aggregate blocks. -/
theorem mem_claimBatch {locked : List Nat} {e : ClaimedEvent}
    (h : e ∈ (claimBatch relay now outbox locked).1) :
    ∃ row ∈ outbox, e = (row.leased relay now).toClaimedEvent ∧ row.status = .pending ∧
      ∀ previo ∈ outbox, row.blockedBy previo = false := by
  obtain ⟨row, hrow, rfl⟩ := List.mem_map.mp ((List.mem_insertionSort _).mp h)
  obtain ⟨hmem, htaken⟩ := Table.mem_rowsWhere.mp hrow
  have hcand := List.mem_of_mem_take (of_decide_eq_true htaken)
  have hclaim := (List.mem_insertionSort _).mp (List.mem_filter.mp hcand).1
  obtain ⟨hpending, -, -, hhead⟩ := of_decide_eq_true (Table.mem_rowsWhere.mp hclaim).2
  refine ⟨row, hmem, rfl, hpending, ?_⟩
  exact Table.findBy_eq_none.mp (Option.isNone_iff_eq_none.mp hhead)

end Statements

end AtlasErp
