import AtlasErp.Outbox.Consumer

/-! # Delivery from end to end

Producers that insert events in transactions of their own, any number of relay processes that crash
and overlap, operators that replay, a network that loses and repeats, and a receiver that serves each
request in a transaction and acknowledges it afterwards: one machine, one label for each thing that
can happen next.

- `OutboxInv`, `outboxInv_of_reachable`: what holds of every reachable state;
- `exactlyOnce`: the effect of an event is committed at most once, and an event is published only
  after a delivery of that very event was acknowledged;
- `effect_of_published`: in the order `every-event`, a published event has had its effect;
- `publish_in_order`: a publish call starts only after every earlier version was acknowledged. -/

namespace AtlasErp

open Lib

/-! ## The state -/

/-- What a producer writes into the outbox. -/
structure DomainEvent where
  topic : String
  aggregateType : String
  aggregateId : String
  eventKey : String
  payload : String
  traceContext : Option String
  deriving DecidableEq

/-- What a relay process does with the first event of its batch. -/
inductive DeliveryStage where
  | ready
  | waiting (r : Request)
  | answered (result : PublishResult)
  deriving DecidableEq

/-- A relay process: the rest of its batch and how far its first event is.  `seen` is history: the
outbox when the batch was claimed. -/
structure RelayProcess where
  seen : Table OutboxRow
  batch : List ClaimedEvent
  stage : DeliveryStage

/-- The system.  A producer is the rows it has inserted and not committed; `requests` were sent, and
those in `acked` were acknowledged by the receiver. -/
structure OutboxWorld (α : Type) where
  now : Instant
  outbox : Table OutboxRow
  nextId : Nat
  producers : List (Nat × List OutboxRow)
  processes : Nat → RelayProcess
  requests : List Request
  receiver : Sessions (ConsumerDb α) (ConsumerPoint α)
  acked : List Request

/-- What happens next. -/
inductive OutboxAct where
  | tick (ms : Nat)
  /-- A producer, beginning its transaction if need be, inserts an event. -/
  | insert (t : Nat) (event : DomainEvent)
  | commit (t : Nat)
  | rollback (t : Nat)
  /-- A process claims a batch while others hold the rows `locked`. -/
  | claim (w : Nat) (locked : List Nat)
  /-- The publish call for the first event of a batch, or its mark when it is not sent again. -/
  | deliver (w : Nat)
  | answer (w : Nat) (answer : HttpAnswer)
  | mark (w : Nat)
  /-- A process dies, or an error of the database makes it drop its batch. -/
  | crash (w : Nat)
  | replay (eventKey : String)
  | receive (act : Act Request)
  | acknowledge (r : Request)
  deriving DecidableEq

/-! ## Producers -/

section Producers

variable (rows : List OutboxRow)

/-- Is the event about this aggregate? -/
def OutboxRow.isAbout (row : OutboxRow) (event : DomainEvent) : Bool :=
  row.aggregateType = event.aggregateType ∧ row.aggregateId = event.aggregateId

/-- `COALESCE(MAX(aggregate_version), 0) + 1`, as the insert trigger computes it. -/
def nextVersion (event : DomainEvent) : Nat :=
  ((rows.filter (·.isAbout event)).map (·.aggregateVersion)).foldr max 0 + 1

/-- The row of a new event, with the defaults of the table. -/
def DomainEvent.row (event : DomainEvent) (id version : Nat) (now : Instant) : OutboxRow where
  id := id
  topic := event.topic
  aggregateType := event.aggregateType
  aggregateId := event.aggregateId
  aggregateVersion := version
  schemaVersion := 1
  eventKey := event.eventKey
  payload := event.payload
  traceContext := event.traceContext
  createdAt := now
  attempts := 0
  status := .pending
  nextAttemptAt := now
  leaseOwner := none
  leaseExpiresAt := none
  lastAttemptAt := none
  lastError := none
  lastHttpStatus := none
  publishedAt := none
  deadAt := none
  replayCount := 0

theorem lt_nextVersion {event : DomainEvent} {row : OutboxRow} (hrow : row ∈ rows)
    (habout : row.isAbout event = true) : row.aggregateVersion < nextVersion rows event := by
  have hmem : row.aggregateVersion ∈ (rows.filter (·.isAbout event)).map (·.aggregateVersion) :=
    List.mem_map_of_mem (List.mem_filter.mpr ⟨hrow, habout⟩)
  exact Nat.lt_succ_of_le (Table.le_foldr_max _ _ hmem)

end Producers

/-! ## Steps -/

section Machine

variable {α : Type} (relays : Nat → OutboxRelay) (consumer : String) (ordering : InboxOrdering)
  (effect : InboxEvent → Effect α) (inbox₀ : EventInbox)

namespace OutboxWorld

/-- The rows a producer has inserted and not committed. -/
def uncommitted (W : OutboxWorld α) (t : Nat) : List OutboxRow :=
  ((W.producers.find? (·.1 = t)).map (·.2)).getD []

/-- The other producers in progress. -/
def otherProducers (W : OutboxWorld α) (t : Nat) : List (Nat × List OutboxRow) :=
  W.producers.filter (·.1 ≠ t)

/-- Another producer holds the advisory lock of the aggregate, or has inserted the same key. -/
def insertWaits (W : OutboxWorld α) (t : Nat) (event : DomainEvent) : Bool :=
  (W.otherProducers t).any (·.2.any fun row => row.isAbout event || row.eventKey = event.eventKey)

theorem mem_otherProducers (W : OutboxWorld α) {t : Nat} {x : Nat × List OutboxRow} :
    x ∈ W.otherProducers t ↔ x ∈ W.producers ∧ x.1 ≠ t := by
  simp [otherProducers]

/-- What holds of the rows of every producer, and of no row, holds of the rows of one. -/
theorem uncommitted_induction (W : OutboxWorld α) {P : List OutboxRow → Prop}
    (h : ∀ x ∈ W.producers, P x.2) (hnil : P []) (t : Nat) : P (W.uncommitted t) := by
  unfold uncommitted
  cases hfind : W.producers.find? (·.1 = t) with
  | none => exact hnil
  | some x => exact h x (List.mem_of_find?_eq_some hfind)

theorem mem_uncommitted (W : OutboxWorld α) {t : Nat} {row : OutboxRow} (h : row ∈ W.uncommitted t) :
    ∃ x ∈ W.producers, x.1 = t ∧ row ∈ x.2 := by
  unfold uncommitted at h
  cases hfind : W.producers.find? (·.1 = t) with
  | none => simp [hfind] at h
  | some x =>
    rw [hfind] at h
    exact ⟨x, List.mem_of_find?_eq_some hfind, by simpa using List.find?_some hfind, h⟩

/-- A relay process goes on. -/
def withProcess (W : OutboxWorld α) (w : Nat) (process : RelayProcess) : OutboxWorld α :=
  { W with processes := Function.update W.processes w process }

/-- The number of a request is the count of those sent before. -/
def nextRequest (W : OutboxWorld α) (event : ClaimedEvent) : Request :=
  ⟨W.requests.length, event.attempts, toEnvelope event⟩

/-- One step. -/
def step (W : OutboxWorld α) : OutboxAct → Option (OutboxWorld α)
  | .tick ms => some { W with now := W.now + ms }
  | .insert t event =>
    if W.insertWaits t event then none
    else
      let own := W.uncommitted t
      -- `ON CONFLICT (event_key) DO NOTHING`; a plain insertion fails, and its producer rolls back
      if (W.outbox.rows ++ own).any (·.eventKey = event.eventKey) then some W
      else
        let row := event.row W.nextId (nextVersion (W.outbox.rows ++ own) event) W.now
        some { W with nextId := W.nextId + 1, producers := (t, own ++ [row]) :: W.otherProducers t }
  | .commit t =>
    (W.outbox.append? (W.uncommitted t)).map fun outbox =>
      { W with outbox, producers := W.otherProducers t }
  | .rollback t => some { W with producers := W.otherProducers t }
  | .claim w locked =>
    if (W.processes w).batch = [] then
      let claimed := claimBatch (relays w) W.now W.outbox locked
      some ({ W with outbox := claimed.2 }.withProcess w ⟨W.outbox, claimed.1, .ready⟩)
    else none
  | .deliver w =>
    match W.processes w with
    | ⟨seen, event :: rest, .ready⟩ =>
      if agotado (relays w) event then
        some ({ W with outbox := (markAgotado (relays w) W.now W.outbox event).2 }.withProcess w
          ⟨seen, rest, .ready⟩)
      else
        let r := W.nextRequest event
        some ({ W with requests := r :: W.requests }.withProcess w ⟨seen, event :: rest, .waiting r⟩)
    | _ => none
  | .answer w answer =>
    match W.processes w with
    | ⟨seen, batch, .waiting r⟩ =>
      if answer.confirms ∧ r ∉ W.acked then none
      else some (W.withProcess w ⟨seen, batch, .answered answer.result⟩)
    | _ => none
  | .mark w =>
    match W.processes w with
    | ⟨seen, event :: rest, .answered result⟩ =>
      some ({ W with outbox := (AtlasErp.mark (relays w) W.now W.outbox event result).2 }.withProcess w
        ⟨seen, rest, .ready⟩)
    | _ => none
  | .crash w => some (W.withProcess w ⟨(W.processes w).seen, [], .ready⟩)
  | .replay eventKey => some { W with outbox := (replayEvent W.now W.outbox eventKey).2 }
  | .receive act =>
    match act with
    | .start t r =>
      if r ∈ W.requests then
        ((consumerProgram consumer ordering effect).step W.receiver (.start t r)).map fun receiver =>
          { W with receiver }
      else none
    | act =>
      ((consumerProgram consumer ordering effect).step W.receiver act).map fun receiver =>
        { W with receiver }
  -- the receiver answers 2xx only after the commit of the transaction that served the request
  | .acknowledge r =>
    if r ∈ W.receiver.committed.served then some { W with acked := r :: W.acked } else none

variable {relays consumer ordering effect} in
/-- What one step does. -/
inductive StepCase (W : OutboxWorld α) : OutboxAct → OutboxWorld α → Prop where
  | ticked {ms} : StepCase W (.tick ms) { W with now := W.now + ms }
  | present {t event} : StepCase W (.insert t event) W
  | inserted {t event} (free : W.insertWaits t event = false)
      (absent : (W.outbox.rows ++ W.uncommitted t).any (·.eventKey = event.eventKey) = false) :
      StepCase W (.insert t event)
        { W with
          nextId := W.nextId + 1
          producers := (t, W.uncommitted t ++ [event.row W.nextId
            (nextVersion (W.outbox.rows ++ W.uncommitted t) event) W.now]) :: W.otherProducers t }
  | committed {t outbox} (appended : W.outbox.append? (W.uncommitted t) = some outbox) :
      StepCase W (.commit t) { W with outbox, producers := W.otherProducers t }
  | rolledBack {t} : StepCase W (.rollback t) { W with producers := W.otherProducers t }
  | claimed {w locked} (idle : (W.processes w).batch = []) :
      StepCase W (.claim w locked)
        ({ W with outbox := (claimBatch (relays w) W.now W.outbox locked).2 }.withProcess w
          ⟨W.outbox, (claimBatch (relays w) W.now W.outbox locked).1, .ready⟩)
  | gaveUp {w seen event rest} (process : W.processes w = ⟨seen, event :: rest, .ready⟩)
      (exhausted : agotado (relays w) event = true) :
      StepCase W (.deliver w)
        ({ W with outbox := (markAgotado (relays w) W.now W.outbox event).2 }.withProcess w
          ⟨seen, rest, .ready⟩)
  | sent {w seen event rest} (process : W.processes w = ⟨seen, event :: rest, .ready⟩)
      (allowed : agotado (relays w) event = false) :
      StepCase W (.deliver w)
        ({ W with requests := W.nextRequest event :: W.requests }.withProcess w
          ⟨seen, event :: rest, .waiting (W.nextRequest event)⟩)
  | answered {w seen batch r answer} (process : W.processes w = ⟨seen, batch, .waiting r⟩)
      (confirmed : answer.confirms = true → r ∈ W.acked) :
      StepCase W (.answer w answer) (W.withProcess w ⟨seen, batch, .answered answer.result⟩)
  | marked {w seen event rest result} (process : W.processes w = ⟨seen, event :: rest, .answered result⟩) :
      StepCase W (.mark w)
        ({ W with outbox := (AtlasErp.mark (relays w) W.now W.outbox event result).2 }.withProcess w
          ⟨seen, rest, .ready⟩)
  | crashed {w} : StepCase W (.crash w) (W.withProcess w ⟨(W.processes w).seen, [], .ready⟩)
  | replayed {eventKey} :
      StepCase W (.replay eventKey) { W with outbox := (replayEvent W.now W.outbox eventKey).2 }
  | received {act receiver} (arrives : ∀ t r, act = .start t r → r ∈ W.requests)
      (step : (consumerProgram consumer ordering effect).step W.receiver act = some receiver) :
      StepCase W (.receive act) { W with receiver }
  | acknowledged {r} (served : r ∈ W.receiver.committed.served) :
      StepCase W (.acknowledge r) { W with acked := r :: W.acked }

variable {relays consumer ordering effect} in
/-- **All that a step can do.** -/
theorem step_cases {W W' : OutboxWorld α} {a : OutboxAct}
    (h : W.step relays consumer ordering effect a = some W') :
    @StepCase _ relays consumer ordering effect W a W' := by
  cases a with
  | tick ms => cases h; exact .ticked
  | insert t event =>
    simp only [step] at h
    split at h
    · cases h
    · split at h
      · cases h; exact .present
      · cases h; exact .inserted (Bool.not_eq_true _ ▸ ‹_›) (Bool.not_eq_true _ ▸ ‹_›)
  | commit t =>
    obtain ⟨outbox, hout, rfl⟩ := Option.map_eq_some_iff.mp h
    exact .committed hout
  | rollback t => cases h; exact .rolledBack
  | claim w locked =>
    simp only [step] at h
    split at h <;> cases h
    exact .claimed ‹_›
  | deliver w =>
    simp only [step] at h
    split at h
    · split at h <;> cases h
      · exact .gaveUp ‹_› ‹_›
      · exact .sent ‹_› (Bool.not_eq_true _ ▸ ‹_›)
    · cases h
  | answer w answer =>
    simp only [step] at h
    split at h
    · split at h <;> cases h
      rename_i hconfirmed
      exact .answered ‹_› fun hc => Classical.byContradiction fun hr => hconfirmed ⟨hc, hr⟩
    · cases h
  | mark w =>
    simp only [step] at h
    split at h <;> cases h
    exact .marked ‹_›
  | crash w => cases h; exact .crashed
  | replay eventKey => cases h; exact .replayed
  | receive act =>
    cases act with
    | start t r =>
      simp only [step] at h
      split at h
      · obtain ⟨receiver, hstep, rfl⟩ := Option.map_eq_some_iff.mp h
        exact .received (fun _ _ heq => by cases heq; assumption) hstep
      · cases h
    | advance t =>
      obtain ⟨receiver, hstep, rfl⟩ := Option.map_eq_some_iff.mp h
      exact .received nofun hstep
    | fail t =>
      simp only [step] at h
      obtain ⟨receiver, hstep, rfl⟩ := Option.map_eq_some_iff.mp h
      exact .received nofun hstep
  | acknowledge r =>
    simp only [step] at h
    split at h <;> cases h
    exact .acknowledged ‹_›

/-- Before the first step: no event was published and nothing is in progress. -/
structure Initial (W : OutboxWorld α) : Prop where
  unpublished : ∀ row ∈ W.outbox, row.status ≠ .published
  keys : ∀ a ∈ W.outbox, ∀ b ∈ W.outbox, a.eventKey = b.eventKey → a = b
  producers : W.producers = []
  processes : ∀ w, (W.processes w).batch = [] ∧ (W.processes w).stage = .ready ∧
    (W.processes w).seen = Table.empty
  inbox : W.receiver.committed.inbox = inbox₀
  effects : W.receiver.committed.effects = []
  served : W.receiver.committed.served = []
  receiver : W.receiver.active = []
  acked : W.acked = []

end OutboxWorld

/-- The system as a machine. -/
def outboxMachine : Machine (OutboxWorld α) OutboxAct where
  init := OutboxWorld.Initial inbox₀
  step := OutboxWorld.step relays consumer ordering effect

end Machine

/-! ## What holds of every process and producer -/

section Order

/-- An earlier version of the same aggregate. -/
def ClaimedEvent.Precedes (p e : ClaimedEvent) : Prop :=
  p.aggregateType = e.aggregateType ∧ p.aggregateId = e.aggregateId ∧ p.aggregateVersion < e.aggregateVersion

theorem OutboxRow.Follows.eventKey {old new : OutboxRow} (h : old.Follows new) : new.eventKey = old.eventKey :=
  congrArg OutboxEnvelope.eventKey h.sameEnvelope

/-- Events with one envelope stand at one place of the order. -/
theorem precedes_congr {p p' e : ClaimedEvent} (h : toEnvelope p' = toEnvelope p) :
    p'.Precedes e ↔ p.Precedes e := by
  have haggregate := congrArg OutboxEnvelope.aggregate h
  obtain ⟨htype, hid, hversion⟩ : p'.aggregateType = p.aggregateType ∧ p'.aggregateId = p.aggregateId ∧
      p'.aggregateVersion = p.aggregateVersion := by simpa [toEnvelope] using haggregate
  simp only [ClaimedEvent.Precedes, htype, hid, hversion]

theorem precedes_congr_right {p e e' : ClaimedEvent} (h : toEnvelope e' = toEnvelope e) :
    p.Precedes e' ↔ p.Precedes e := by
  have haggregate := congrArg OutboxEnvelope.aggregate h
  obtain ⟨htype, hid, hversion⟩ : e'.aggregateType = e.aggregateType ∧ e'.aggregateId = e.aggregateId ∧
      e'.aggregateVersion = e.aggregateVersion := by simpa [toEnvelope] using haggregate
  simp only [ClaimedEvent.Precedes, htype, hid, hversion]

end Order

section Invariants

variable {α : Type}

/-- A delivery of this very event was sent and acknowledged. -/
def OutboxWorld.Acknowledged (W : OutboxWorld α) (event : ClaimedEvent) : Prop :=
  ∃ r ∈ W.acked, r ∈ W.requests ∧ r.envelope = toEnvelope event

theorem OutboxWorld.Acknowledged.congr {W : OutboxWorld α} {event event' : ClaimedEvent}
    (h : W.Acknowledged event) (heq : toEnvelope event' = toEnvelope event) : W.Acknowledged event' := by
  obtain ⟨r, hr, hsent, henv⟩ := h
  exact ⟨r, hr, hsent, henv.trans heq.symm⟩

/-- What holds of a relay process. -/
structure ProcessInv (W : OutboxWorld α) (process : RelayProcess) : Prop where
  /-- A claimed event is a row of the outbox. -/
  rows : ∀ e ∈ process.batch, ∃ row ∈ W.outbox, row.id = e.id ∧ toEnvelope row.toClaimedEvent = toEnvelope e
  /-- When the batch was claimed, what precedes its events was published, or never delivered. -/
  heads : ∀ e ∈ process.batch, ∀ p ∈ process.seen, p.Precedes e →
    p.status = .published ∨ p.status = .legacyLogOnly
  acknowledged : ∀ p ∈ process.seen, p.status = .published → W.Acknowledged p.toClaimedEvent
  /-- Nothing that precedes a claimed event came after the claim. -/
  known : ∀ e ∈ process.batch, ∀ row ∈ W.outbox, row.Precedes e → ∃ p ∈ process.seen, p.Follows row
  waiting : ∀ r, process.stage = .waiting r →
    r ∈ W.requests ∧ ∃ e, process.batch.head? = some e ∧ r.envelope = toEnvelope e
  answered : ∀ httpStatus, process.stage = .answered (.ack httpStatus) →
    ∃ e, process.batch.head? = some e ∧ W.Acknowledged e

/-- What holds of the rows that are not committed. -/
structure ProducerInv (W : OutboxWorld α) : Prop where
  /-- Two producers write neither about one aggregate nor one key. -/
  apart : ∀ x ∈ W.producers, ∀ y ∈ W.producers, x.1 ≠ y.1 → ∀ a ∈ x.2, ∀ b ∈ y.2,
    ¬(a.aggregateType = b.aggregateType ∧ a.aggregateId = b.aggregateId) ∧ a.eventKey ≠ b.eventKey
  distinct : ∀ x ∈ W.producers, (x.2.map (·.eventKey)).Nodup
  absent : ∀ x ∈ W.producers, ∀ a ∈ x.2, ∀ row ∈ W.outbox, row.eventKey ≠ a.eventKey
  later : ∀ x ∈ W.producers, ∀ a ∈ x.2, ∀ row ∈ W.outbox, ¬a.Precedes row.toClaimedEvent
  pending : ∀ x ∈ W.producers, ∀ a ∈ x.2, a.status = .pending

variable {W W' : OutboxWorld α} {process : RelayProcess}

/-- What a process relies on outlives what happens around it: rows that change by following, and new
rows that precede no old one. -/
theorem ProcessInv.mono (h : ProcessInv W process)
    (hforth : ∀ prev ∈ W.outbox, ∃ row ∈ W'.outbox, prev.Follows row)
    (hback : ∀ row ∈ W'.outbox, (∃ prev ∈ W.outbox, prev.Follows row) ∨
      ∀ old ∈ W.outbox, ¬row.Precedes old.toClaimedEvent)
    (hrequests : ∀ r ∈ W.requests, r ∈ W'.requests)
    (hacked : ∀ e, W.Acknowledged e → W'.Acknowledged e) : ProcessInv W' process where
  rows e he := by
    obtain ⟨row, hrow, hid, henv⟩ := h.rows e he
    obtain ⟨row', hrow', hfollows⟩ := hforth row hrow
    exact ⟨row', hrow', hfollows.sameId.trans hid, hfollows.sameEnvelope.trans henv⟩
  heads := h.heads
  acknowledged p hp hpub := hacked _ (h.acknowledged p hp hpub)
  known e he row hrow hprec := by
    rcases hback row hrow with ⟨prev, hprev, hfollows⟩ | hnone
    · obtain ⟨p, hp, hpp⟩ := h.known e he prev hprev ((precedes_congr hfollows.sameEnvelope).mp hprec)
      exact ⟨p, hp, hpp.trans hfollows⟩
    · obtain ⟨old, hold, -, henv⟩ := h.rows e he
      exact absurd ((precedes_congr_right henv).mpr hprec) (hnone old hold)
  waiting r hr := ⟨hrequests r (h.waiting r hr).1, (h.waiting r hr).2⟩
  answered httpStatus hstage := by
    obtain ⟨e, he, hack⟩ := h.answered httpStatus hstage
    exact ⟨e, he, hacked e hack⟩

/-- A process without a batch relies on what it saw only. -/
theorem ProcessInv.idle (h : ProcessInv W process) : ProcessInv W ⟨process.seen, [], .ready⟩ :=
  ⟨nofun, nofun, h.acknowledged, nofun, nofun, nofun⟩

/-- The next event of a batch. -/
theorem ProcessInv.tail {event : ClaimedEvent} {rest : List ClaimedEvent} {stage : DeliveryStage}
    {seen : Table OutboxRow} (h : ProcessInv W ⟨seen, event :: rest, stage⟩) :
    ProcessInv W ⟨seen, rest, .ready⟩ where
  rows e he := h.rows e (List.mem_cons_of_mem _ he)
  heads e he := h.heads e (List.mem_cons_of_mem _ he)
  acknowledged := h.acknowledged
  known e he := h.known e (List.mem_cons_of_mem _ he)
  waiting := nofun
  answered := nofun

/-- What producers rely on outlives a statement of the relay. -/
theorem ProducerInv.succeeds (h : ProducerInv W) {acknowledged : OutboxRow → Prop}
    (hout : Succeeds acknowledged W.outbox W'.outbox) (hproducers : W'.producers = W.producers) :
    ProducerInv W' := by
  refine ⟨?_, ?_, ?_, ?_, ?_⟩ <;> rw [hproducers]
  · exact h.apart
  · exact h.distinct
  · intro x hx a ha row hrow
    obtain ⟨prev, hprev, hfollows, -⟩ := hout.back row hrow
    rw [hfollows.eventKey]
    exact h.absent x hx a ha prev hprev
  · intro x hx a ha row hrow
    obtain ⟨prev, hprev, hfollows, -⟩ := hout.back row hrow
    rw [precedes_congr_right hfollows.sameEnvelope]
    exact h.later x hx a ha prev hprev
  · exact h.pending

variable {relays : Nat → OutboxRelay} {consumer : String} {ordering : InboxOrdering}
  {effect : InboxEvent → Effect α} {inbox₀ : EventInbox}

variable (consumer ordering effect inbox₀) in
/-- What holds of every reachable state. -/
structure OutboxInv (W : OutboxWorld α) : Prop where
  keys : ∀ a ∈ W.outbox, ∀ b ∈ W.outbox, a.eventKey = b.eventKey → a = b
  published : ∀ row ∈ W.outbox, row.status = .published → W.Acknowledged row.toClaimedEvent
  producers : ProducerInv W
  processes (w : Nat) : ProcessInv W (W.processes w)
  receiver : ConsumerInv consumer ordering effect inbox₀ W.receiver
  sent : ServesOnly (· ∈ W.requests) W.receiver
  acked : ∀ r ∈ W.acked, r ∈ W.receiver.committed.served

namespace OutboxInv

theorem of_init (h : OutboxWorld.Initial inbox₀ W) : OutboxInv consumer ordering effect inbox₀ W where
  keys := h.keys
  published row hrow hpub := absurd hpub (h.unpublished row hrow)
  producers := by
    refine ⟨?_, ?_, ?_, ?_, ?_⟩ <;> rw [h.producers] <;> exact fun _ h => absurd h List.not_mem_nil
  processes w := by
    obtain ⟨hbatch, hstage, hseen⟩ := h.processes w
    refine ⟨?_, ?_, ?_, ?_, ?_, ?_⟩
    · simp [hbatch]
    · simp [hbatch]
    · rw [hseen]
      exact fun p hp => absurd hp (Table.not_mem_empty p)
    · simp [hbatch]
    · simp [hstage]
    · simp [hstage]
  receiver := by
    have hreceiver : W.receiver = ⟨W.receiver.committed, []⟩ := by rw [← h.receiver]
    rw [hreceiver]
    exact consumerInv_init h.inbox h.effects h.served
  sent := by
    refine ⟨?_, ?_⟩
    · rw [h.receiver]
      exact fun _ h => absurd h List.not_mem_nil
    · rw [h.served]
      exact fun _ h => absurd h List.not_mem_nil
  acked := by
    rw [h.acked]
    exact fun _ h => absurd h List.not_mem_nil

/-- A statement of the relay and the process that goes on with it. -/
private theorem statement (h : OutboxInv consumer ordering effect inbox₀ W) {acknowledged : OutboxRow → Prop}
    {outbox : Table OutboxRow} (hout : Succeeds acknowledged W.outbox outbox)
    (hack : ∀ row ∈ outbox, acknowledged row → W.Acknowledged row.toClaimedEvent) :
    OutboxInv consumer ordering effect inbox₀ { W with outbox } where
  keys a ha b hb hkey := by
    obtain ⟨a', ha', hfa, -⟩ := hout.back a ha
    obtain ⟨b', hb', hfb, -⟩ := hout.back b hb
    obtain rfl := h.keys a' ha' b' hb' (hfa.eventKey.symm.trans (hkey.trans hfb.eventKey))
    exact Table.eq_of_key_eq ha hb (hfa.sameId.trans hfb.sameId.symm)
  published row hrow hpub := by
    obtain ⟨prev, hprev, hfollows, hwas⟩ := hout.back row hrow
    rcases hwas hpub with hprevious | hnew
    · obtain ⟨r, hr, hsent, henv⟩ := h.published prev hprev hprevious
      exact ⟨r, hr, hsent, henv.trans hfollows.sameEnvelope.symm⟩
    · exact hack row hrow hnew
  producers := h.producers.succeeds hout rfl
  processes w := (h.processes w).mono hout.forth
    (fun row hrow => .inl ((hout.back row hrow).imp fun _ hp => ⟨hp.1, hp.2.1⟩)) (fun _ hr => hr) fun _ he => he
  receiver := h.receiver
  sent := h.sent
  acked := h.acked

/-- A process that goes on. -/
private theorem goesOn (h : OutboxInv consumer ordering effect inbox₀ W) {w : Nat} {process : RelayProcess}
    (hprocess : ProcessInv W process) : OutboxInv consumer ordering effect inbox₀ (W.withProcess w process) where
  keys := h.keys
  published := h.published
  producers := ⟨h.producers.apart, h.producers.distinct, h.producers.absent, h.producers.later,
    h.producers.pending⟩
  processes w' := by
    have hmono : ∀ {p}, ProcessInv W p → ProcessInv (W.withProcess w process) p := fun hp =>
      hp.mono (fun row hrow => ⟨row, hrow, .refl row⟩) (fun row hrow => .inl ⟨row, hrow, .refl row⟩)
        (fun _ hr => hr) fun _ he => he
    by_cases hw : w' = w
    · subst hw
      simpa [OutboxWorld.withProcess] using hmono hprocess
    · simpa [OutboxWorld.withProcess, hw] using hmono (h.processes w')
  receiver := h.receiver
  sent := h.sent
  acked := h.acked

/-- A claim: nothing that precedes a claimed event is pending or dead. -/
private theorem claimed (h : OutboxInv consumer ordering effect inbox₀ W) (w : Nat) (locked : List Nat) :
    ProcessInv { W with outbox := (claimBatch (relays w) W.now W.outbox locked).2 }
      ⟨W.outbox, (claimBatch (relays w) W.now W.outbox locked).1, .ready⟩ where
  rows e he := by
    obtain ⟨row, hrow, rfl, -⟩ := mem_claimBatch _ _ he
    obtain ⟨row', hrow', hfollows⟩ := (succeeds_claimBatch (relays w) W.now locked).forth row hrow
    exact ⟨row', hrow', hfollows.sameId, hfollows.sameEnvelope⟩
  heads e he p hp hprec := by
    obtain ⟨row, hrow, rfl, -, hhead⟩ := mem_claimBatch _ _ he
    have hnot := of_decide_eq_false (hhead p hp)
    have hstatus : ¬(p.status = .pending ∨ p.status = .dead) := fun hs =>
      hnot ⟨hprec.1, hprec.2.1, hprec.2.2, hs⟩
    cases hcase : p.status with
    | pending => exact absurd (.inl hcase) hstatus
    | published => exact .inl rfl
    | dead => exact absurd (.inr hcase) hstatus
    | legacyLogOnly => exact .inr rfl
  acknowledged := h.published
  known e _ row hrow _ := by
    obtain ⟨prev, hprev, hfollows, -⟩ := (succeeds_claimBatch (relays w) W.now locked).back row hrow
    exact ⟨prev, hprev, hfollows⟩
  waiting := nofun
  answered := nofun

/-- A producer inserts a row: with the advisory lock of its aggregate, and a key that nobody has. -/
private theorem inserted (h : OutboxInv consumer ordering effect inbox₀ W) {t : Nat} {event : DomainEvent}
    (hfree : W.insertWaits t event = false)
    (habsent : (W.outbox.rows ++ W.uncommitted t).any (·.eventKey = event.eventKey) = false) :
    ProducerInv { W with
      nextId := W.nextId + 1
      producers := (t, W.uncommitted t ++ [event.row W.nextId
        (nextVersion (W.outbox.rows ++ W.uncommitted t) event) W.now]) :: W.otherProducers t } := by
  set row := event.row W.nextId (nextVersion (W.outbox.rows ++ W.uncommitted t) event) W.now with hrow
  have hkeys : ∀ old ∈ W.outbox.rows ++ W.uncommitted t, old.eventKey ≠ event.eventKey := by
    intro old hold heq
    have := List.any_eq_false.mp habsent old hold
    simp [heq] at this
  have hothers : ∀ y ∈ W.otherProducers t, ∀ b ∈ y.2,
      ¬(b.aggregateType = event.aggregateType ∧ b.aggregateId = event.aggregateId) ∧
        b.eventKey ≠ event.eventKey := by
    intro y hy b hb
    have hy' := List.any_eq_false.mp hfree y hy
    rw [Bool.not_eq_true] at hy'
    have hb' := List.any_eq_false.mp hy' b hb
    simpa [OutboxRow.isAbout] using hb'
  have hself := h.producers
  -- what holds of the row, and of the rows of the same producer before it
  have hmem : ∀ a ∈ W.uncommitted t ++ [row], (∃ x ∈ W.producers, x.1 = t ∧ a ∈ x.2) ∨ a = row := by
    intro a ha
    rcases List.mem_append.mp ha with ha | ha
    · exact .inl (W.mem_uncommitted ha)
    · exact .inr (List.mem_singleton.mp ha)
  refine ⟨?_, ?_, ?_, ?_, ?_⟩
  · have hpair : ∀ a ∈ W.uncommitted t ++ [row], ∀ y ∈ W.otherProducers t, ∀ b ∈ y.2,
        ¬(a.aggregateType = b.aggregateType ∧ a.aggregateId = b.aggregateId) ∧ a.eventKey ≠ b.eventKey := by
      intro a ha y hy b hb
      rcases hmem a ha with ⟨x, hx, rfl, hax⟩ | rfl
      · obtain ⟨hymem, hne⟩ := W.mem_otherProducers.mp hy
        exact hself.apart x hx y hymem (Ne.symm hne) a hax b hb
      · obtain ⟨hagg, hkey⟩ := hothers y hy b hb
        exact ⟨fun heq => hagg ⟨heq.1.symm, heq.2.symm⟩, Ne.symm hkey⟩
    intro x hx y hy hne a ha b hb
    rcases List.mem_cons.mp hx with rfl | hx <;> rcases List.mem_cons.mp hy with rfl | hy
    · exact absurd rfl hne
    · exact hpair a ha y hy b hb
    · obtain ⟨hagg, hkey⟩ := hpair b hb x hx a ha
      exact ⟨fun heq => hagg ⟨heq.1.symm, heq.2.symm⟩, Ne.symm hkey⟩
    · exact hself.apart x (W.mem_otherProducers.mp hx).1 y (W.mem_otherProducers.mp hy).1 hne a ha b hb
  · intro x hx
    rcases List.mem_cons.mp hx with rfl | hx
    · have hown : ((W.uncommitted t).map (·.eventKey)).Nodup :=
        W.uncommitted_induction (P := fun rows => (rows.map (·.eventKey)).Nodup) hself.distinct .nil t
      rw [List.map_append, List.map_singleton]
      refine hown.append (List.nodup_singleton _) fun key hkey hkey' => ?_
      obtain ⟨a, ha, rfl⟩ := List.mem_map.mp hkey
      exact hkeys a (List.mem_append_right _ ha) (List.mem_singleton.mp hkey')
    · exact hself.distinct x (W.mem_otherProducers.mp hx).1
  · intro x hx a ha old hold
    rcases List.mem_cons.mp hx with rfl | hx
    · rcases hmem a ha with ⟨y, hy, -, hay⟩ | rfl
      · exact hself.absent y hy a hay old hold
      · exact hkeys old (List.mem_append_left _ hold)
    · exact hself.absent x (W.mem_otherProducers.mp hx).1 a ha old hold
  · intro x hx a ha old hold hprec
    rcases List.mem_cons.mp hx with rfl | hx
    · rcases hmem a ha with ⟨y, hy, -, hay⟩ | rfl
      · exact hself.later y hy a hay old hold hprec
      · -- the version is above every version of the aggregate that is committed
        have habout : old.isAbout event = true := decide_eq_true ⟨hprec.1.symm, hprec.2.1.symm⟩
        have hlt := lt_nextVersion (W.outbox.rows ++ W.uncommitted t) (List.mem_append_left _ hold) habout
        exact absurd hprec.2.2 (Nat.lt_asymm hlt)
    · exact hself.later x (W.mem_otherProducers.mp hx).1 a ha old hold hprec
  · intro x hx a ha
    rcases List.mem_cons.mp hx with rfl | hx
    · rcases hmem a ha with ⟨y, hy, -, hay⟩ | rfl
      · exact hself.pending y hy a hay
      · rfl
    · exact hself.pending x (W.mem_otherProducers.mp hx).1 a ha

/-- A producer that leaves, with or without its rows. -/
private theorem without (h : ProducerInv W) (t : Nat) {outbox : Table OutboxRow}
    (hmem : ∀ row ∈ outbox, row ∈ W.outbox ∨ row ∈ W.uncommitted t) :
    ProducerInv { W with outbox, producers := W.otherProducers t } where
  apart x hx y hy := h.apart x (W.mem_otherProducers.mp hx).1 y (W.mem_otherProducers.mp hy).1
  distinct x hx := h.distinct x (W.mem_otherProducers.mp hx).1
  absent x hx a ha row hrow := by
    obtain ⟨hmemx, hne⟩ := W.mem_otherProducers.mp hx
    rcases hmem row hrow with hold | hnew
    · exact h.absent x hmemx a ha row hold
    · obtain ⟨y, hy, hty, hrowy⟩ := W.mem_uncommitted hnew
      exact (h.apart y hy x hmemx (hty ▸ Ne.symm hne) row hrowy a ha).2
  later x hx a ha row hrow hprec := by
    obtain ⟨hmemx, hne⟩ := W.mem_otherProducers.mp hx
    rcases hmem row hrow with hold | hnew
    · exact h.later x hmemx a ha row hold hprec
    · obtain ⟨y, hy, hty, hrowy⟩ := W.mem_uncommitted hnew
      exact (h.apart y hy x hmemx (hty ▸ Ne.symm hne) row hrowy a ha).1 ⟨hprec.1.symm, hprec.2.1.symm⟩
  pending x hx := h.pending x (W.mem_otherProducers.mp hx).1

/-- The commit of a producer: its rows precede nothing that is there. -/
private theorem committed (h : OutboxInv consumer ordering effect inbox₀ W) {t : Nat}
    {outbox : Table OutboxRow} (happend : W.outbox.append? (W.uncommitted t) = some outbox) :
    OutboxInv consumer ordering effect inbox₀ { W with outbox, producers := W.otherProducers t } := by
  have hrows : ∀ row, row ∈ outbox ↔ row ∈ W.outbox ∨ row ∈ W.uncommitted t := fun row =>
    Table.mem_append? happend
  have hdistinct : ((W.uncommitted t).map (·.eventKey)).Nodup :=
    W.uncommitted_induction (P := fun rows => (rows.map (·.eventKey)).Nodup) h.producers.distinct .nil t
  refine ⟨fun a ha b hb hkey => ?_, fun row hrow hpub => ?_, without h.producers t fun row => (hrows row).mp,
    fun w => ?_, h.receiver, h.sent, h.acked⟩
  · rcases (hrows a).mp ha with hold | hnew <;> rcases (hrows b).mp hb with hold' | hnew'
    · exact h.keys a hold b hold' hkey
    · obtain ⟨x, hx, -, hbx⟩ := W.mem_uncommitted hnew'
      exact absurd hkey (h.producers.absent x hx b hbx a hold)
    · obtain ⟨x, hx, -, hax⟩ := W.mem_uncommitted hnew
      exact absurd hkey.symm (h.producers.absent x hx a hax b hold')
    · exact List.inj_on_of_nodup_map hdistinct hnew hnew' hkey
  · rcases (hrows row).mp hrow with hold | hnew
    · exact h.published row hold hpub
    · obtain ⟨x, hx, -, hrowx⟩ := W.mem_uncommitted hnew
      rw [h.producers.pending x hx row hrowx] at hpub
      cases hpub
  · refine (h.processes w).mono (fun row hrow => ⟨row, (hrows row).mpr (.inl hrow), .refl row⟩)
      (fun row hrow => ?_) (fun _ hr => hr) fun _ he => he
    rcases (hrows row).mp hrow with hold | hnew
    · exact .inl ⟨row, hold, .refl row⟩
    · obtain ⟨x, hx, -, hrowx⟩ := W.mem_uncommitted hnew
      exact .inr (h.producers.later x hx row hrowx)

/-- A step beside the outbox: time passes, a request is sent, a delivery goes on. -/
private theorem beside (h : OutboxInv consumer ordering effect inbox₀ W) (hout : W'.outbox = W.outbox)
    (hproducers : W'.producers = W.producers) (hprocesses : W'.processes = W.processes)
    (hrequests : ∀ r ∈ W.requests, r ∈ W'.requests) (hacked : ∀ r ∈ W.acked, r ∈ W'.acked)
    (hreceiver : ConsumerInv consumer ordering effect inbox₀ W'.receiver)
    (hsent : ServesOnly (· ∈ W'.requests) W'.receiver)
    (hserved : ∀ r ∈ W'.acked, r ∈ W'.receiver.committed.served) :
    OutboxInv consumer ordering effect inbox₀ W' := by
  have hack : ∀ e, W.Acknowledged e → W'.Acknowledged e := fun e ⟨r, hr, hsent, henv⟩ =>
    ⟨r, hacked r hr, hrequests r hsent, henv⟩
  have hsame : Succeeds (fun _ => False) W.outbox W'.outbox := hout ▸ .refl _ _
  refine ⟨hout ▸ h.keys, fun row hrow hpub => ?_, h.producers.succeeds hsame hproducers, fun w => ?_,
    hreceiver, hsent, hserved⟩
  · rw [hout] at hrow
    exact hack _ (h.published row hrow hpub)
  · rw [hprocesses]
    exact (h.processes w).mono hsame.forth
      (fun row hrow => .inl ((hsame.back row hrow).imp fun _ hp => ⟨hp.1, hp.2.1⟩)) hrequests hack

/-- Only an acknowledged event is published by a mark. -/
private theorem marks (h : OutboxInv consumer ordering effect inbox₀ W) {w : Nat} {seen : Table OutboxRow}
    {event : ClaimedEvent} {rest : List ClaimedEvent} {result : PublishResult}
    (hprocess : W.processes w = ⟨seen, event :: rest, .answered result⟩) :
    ∀ row ∈ (mark (relays w) W.now W.outbox event result).2, Acknowledges event result row →
      W.Acknowledged row.toClaimedEvent := by
  intro row hrow hacknowledges
  cases result with
  | retry => exact hacknowledges.elim
  | rejected => exact hacknowledges.elim
  | ack httpStatus =>
    have hinv := h.processes w
    rw [hprocess] at hinv
    obtain ⟨e, he, hack⟩ := hinv.answered httpStatus rfl
    cases he
    obtain ⟨row₀, hrow₀, hid, henv⟩ := hinv.rows event List.mem_cons_self
    obtain ⟨prev, hprev, hfollows, -⟩ := (succeeds_mark (relays w) W.now event _).back row hrow
    obtain rfl : prev = row₀ := by
      refine Table.eq_of_key_eq hprev hrow₀ ?_
      exact hfollows.sameId.symm.trans ((show row.id = event.id from hacknowledges).trans hid.symm)
    exact hack.congr (hfollows.sameEnvelope.trans henv)

/-- **One step** of producers, processes, operators, network and receiver. -/
theorem step (h : OutboxInv consumer ordering effect inbox₀ W) {a : OutboxAct}
    (hstep : W.step relays consumer ordering effect a = some W') :
    OutboxInv consumer ordering effect inbox₀ W' := by
  cases OutboxWorld.step_cases hstep with
  | ticked => exact h.beside rfl rfl rfl (fun _ hr => hr) (fun _ hr => hr) h.receiver h.sent h.acked
  | present => exact h
  | inserted hfree habsent =>
    have hback : ∀ row ∈ W.outbox, ∃ prev ∈ W.outbox, prev.Follows row := fun row hrow => ⟨row, hrow, .refl row⟩
    exact ⟨h.keys, h.published, h.inserted hfree habsent,
      fun w => (h.processes w).mono (fun row hrow => ⟨row, hrow, .refl row⟩) (fun row hrow => .inl (hback row hrow)) (fun _ hr => hr) fun _ he => he,
      h.receiver, h.sent, h.acked⟩
  | committed happend => exact h.committed happend
  | rolledBack =>
    have hback : ∀ row ∈ W.outbox, ∃ prev ∈ W.outbox, prev.Follows row := fun row hrow => ⟨row, hrow, .refl row⟩
    exact ⟨h.keys, h.published, without h.producers _ fun row => .inl,
      fun w => (h.processes w).mono (fun row hrow => ⟨row, hrow, .refl row⟩) (fun row hrow => .inl (hback row hrow)) (fun _ hr => hr) fun _ he => he,
      h.receiver, h.sent, h.acked⟩
  | @claimed w locked =>
    exact (h.statement (succeeds_claimBatch (relays w) W.now locked) fun _ _ => False.elim).goesOn
      (h.claimed w locked)
  | @gaveUp w seen event rest hprocess =>
    have hdone := h.statement (succeeds_markFailed (relays w) W.now event true
      ("agotado: " ++ toString (event.attempts - 1) ++ " reservas sin confirmación") none) fun _ _ => False.elim
    have hinv := hdone.processes w
    rw [show W.processes w = _ from hprocess] at hinv
    exact hdone.goesOn hinv.tail
  | @sent w seen event rest hprocess _ =>
    have hsent : OutboxInv consumer ordering effect inbox₀
        { W with requests := W.nextRequest event :: W.requests } := h.beside rfl rfl rfl
      (fun _ => List.mem_cons_of_mem _) (fun _ hr => hr) h.receiver
      ⟨fun x hx => List.mem_cons_of_mem _ (h.sent.1 x hx), fun r hr => List.mem_cons_of_mem _ (h.sent.2 r hr)⟩
      h.acked
    have hinv := hsent.processes w
    rw [show W.processes w = _ from hprocess] at hinv
    refine hsent.goesOn ⟨hinv.rows, hinv.heads, hinv.acknowledged, hinv.known, fun r hr => ?_, nofun⟩
    cases hr
    exact ⟨List.mem_cons_self, event, rfl, rfl⟩
  | @answered w seen batch r answer hprocess hconfirmed =>
    have hinv := h.processes w
    rw [hprocess] at hinv
    refine h.goesOn ⟨hinv.rows, hinv.heads, hinv.acknowledged, hinv.known, nofun, fun httpStatus hresult => ?_⟩
    obtain ⟨hsent, e, he, henv⟩ := hinv.waiting r rfl
    have hconfirms := HttpAnswer.confirms_of_ack (DeliveryStage.answered.inj hresult)
    exact ⟨e, he, r, hconfirmed hconfirms, hsent, henv⟩
  | @marked w seen event rest result hprocess =>
    have hdone := h.statement (succeeds_mark (relays w) W.now event result) (h.marks hprocess)
    have hinv := hdone.processes w
    rw [show W.processes w = _ from hprocess] at hinv
    exact hdone.goesOn hinv.tail
  | crashed => exact h.goesOn (h.processes _).idle
  | replayed => exact h.statement (succeeds_replayEvent W.now h.keys) fun _ _ => False.elim
  | received harrives hreceive =>
    exact h.beside rfl rfl rfl (fun _ hr => hr) (fun _ hr => hr) (h.receiver.step hreceive)
      (h.sent.step harrives hreceive) fun r hr => served_step hreceive (h.acked r hr)
  | acknowledged hserved =>
    exact h.beside rfl rfl rfl (fun _ hr => hr) (fun _ => List.mem_cons_of_mem _) h.receiver h.sent
      (List.forall_mem_cons.mpr ⟨hserved, h.acked⟩)

end OutboxInv

/-- **The invariant of the outbox** holds in every reachable state. -/
theorem outboxInv_of_reachable
    (h : (outboxMachine relays consumer ordering effect inbox₀).Reachable (fun _ _ => True) W) :
    OutboxInv consumer ordering effect inbox₀ W :=
  Machine.invariant (fun _ => OutboxInv.of_init) (fun _ _ _ _ hstep hinv => hinv.step hstep) h

/-! ## End to end -/

/-- **Exactly once.** Over every run of producers, relay processes, operators, network and receiver, the
effect of a key is committed at most once, and an event is published only if a delivery of that very
event was sent and acknowledged. -/
theorem exactlyOnce
    (h : (outboxMachine relays consumer ordering effect inbox₀).Reachable (fun _ _ => True) W) :
    (∀ key, W.receiver.committed.effects.count key ≤ 1) ∧
      ∀ row ∈ W.outbox, row.status = .published →
        ∃ r ∈ W.acked, r ∈ W.requests ∧ r.envelope = toEnvelope row.toClaimedEvent :=
  ⟨(outboxInv_of_reachable h).receiver.once, (outboxInv_of_reachable h).published⟩

/-- A published event is registered by the consumer, and in the order `every-event` its effect is
committed, unless the key was registered before the run. -/
theorem effect_of_published
    (h : (outboxMachine relays consumer ordering effect inbox₀).Reachable (fun _ _ => True) W)
    {row : OutboxRow} (hrow : row ∈ W.outbox) (hpub : row.status = .published) :
    W.receiver.committed.inbox.registered consumer row.eventKey = true ∧
      (ordering = .everyEvent →
        inbox₀.registered consumer row.eventKey = true ∨
          W.receiver.committed.effects.count row.eventKey = 1) := by
  have hinv := outboxInv_of_reachable h
  obtain ⟨r, hr, -, henv⟩ := hinv.published row hrow hpub
  have hkey : r.eventKey = row.eventKey := congrArg OutboxEnvelope.eventKey henv
  have hreg := hkey ▸ hinv.receiver.servedRegistered r (hinv.acked r hr)
  refine ⟨hreg, fun hord => (hinv.receiver.registeredEffect hord _ hreg).imp_right fun hmem => ?_⟩
  exact le_antisymm (hinv.receiver.once _) (List.one_le_count_iff.mpr hmem)

/-- **Order within an aggregate.** When a process calls `publish` for an event, every earlier version of
its aggregate either is published and was acknowledged by the receiver, or was `LEGACY_LOG_ONLY` when the
event was claimed; and no producer holds an earlier version back. -/
theorem publish_in_order
    (h : (outboxMachine relays consumer ordering effect inbox₀).Reachable (fun _ _ => True) W) {w : Nat}
    {r : Request} (hstep : W.step relays consumer ordering effect (.deliver w) = some W')
    (hsent : W'.requests = r :: W.requests) :
    ∃ event, (W.processes w).batch.head? = some event ∧ r.envelope = toEnvelope event ∧
      (∀ row ∈ W.outbox, row.Precedes event →
        (row.status = .published ∧ W.Acknowledged row.toClaimedEvent) ∨
          ∃ p ∈ (W.processes w).seen, p.id = row.id ∧ p.status = .legacyLogOnly) ∧
      ∀ x ∈ W.producers, ∀ a ∈ x.2, ¬a.Precedes event := by
  have hinv := outboxInv_of_reachable h
  cases OutboxWorld.step_cases hstep with
  | gaveUp => exact absurd hsent.symm (List.cons_ne_self r W.requests)
  | @sent _ seen event rest hprocess =>
    obtain rfl : W.nextRequest event = r := (List.cons.inj hsent).1
    have hproc := hinv.processes w
    rw [hprocess] at hproc ⊢
    refine ⟨event, rfl, rfl, fun row hrow hprec => ?_, fun x hx a ha hprec => ?_⟩
    · obtain ⟨p, hp, hfollows⟩ := hproc.known event List.mem_cons_self row hrow hprec
      have hprec' := (precedes_congr hfollows.sameEnvelope).mp hprec
      rcases hproc.heads event List.mem_cons_self p hp hprec' with hpub | hlegacy
      · exact .inl ⟨hfollows.published hpub, (hproc.acknowledged p hp hpub).congr hfollows.sameEnvelope⟩
      · exact .inr ⟨p, hp, hfollows.sameId.symm, hlegacy⟩
    · obtain ⟨row, hrow, -, henv⟩ := hproc.rows event List.mem_cons_self
      exact hinv.producers.later x hx a ha row hrow ((precedes_congr_right henv).mpr hprec)

end Invariants

/-! ## A run -/

section Run

/-- Two relay processes with the configuration of the environment's defaults. -/
def defaultRelays (w : Nat) : OutboxRelay :=
  ⟨if w = 0 then "outbox-a" else "outbox-b", ⟨25, 60000, 12, 5000, 3600000⟩, id⟩

/-- An effect of one statement: count. -/
def countEffect (_ : InboxEvent) : Effect Nat := .query (fun _ n => n + 1) fun _ => .done

/-- An outbox without events and a consumer without deliveries. -/
def quietWorld : OutboxWorld Nat where
  now := 0
  outbox := Table.empty
  nextId := 1
  producers := []
  processes _ := ⟨Table.empty, [], .ready⟩
  requests := []
  receiver := ⟨⟨⟨[], []⟩, 0, [], []⟩, []⟩
  acked := []

theorem quietWorld_initial : OutboxWorld.Initial ⟨[], []⟩ quietWorld where
  unpublished row hrow := absurd hrow (Table.not_mem_empty row)
  keys a ha := absurd ha (Table.not_mem_empty a)
  producers := rfl
  processes _ := ⟨rfl, rfl, rfl⟩
  inbox := rfl
  effects := rfl
  served := rfl
  receiver := rfl
  acked := rfl

/-- The machine of these processes. -/
abbrev countMachine : Machine (OutboxWorld Nat) OutboxAct :=
  outboxMachine defaultRelays "core" .everyEvent countEffect ⟨[], []⟩

/-- Two facts about one account. -/
def registeredEvent : DomainEvent := ⟨"merchant.registered", "b2b_account", "a1", "reg-a1", "\x7b\x7d", none⟩

def renamedEvent : DomainEvent := ⟨"merchant.renamed", "b2b_account", "a1", "ren-a1", "\x7b\x7d", none⟩

/-- The delivery of an event in an attempt. -/
def requestOf (number attempt id version : Nat) (event : DomainEvent) : Request :=
  ⟨number, attempt, toEnvelope (event.row id version 0).toClaimedEvent⟩

/-- The receiver serves a request in the transaction `t`, with or without the effect. -/
def served (t : Nat) (r : Request) (statements : Nat) : List OutboxAct :=
  .receive (.start t r) :: List.replicate statements (.receive (.advance t)) ++ [.acknowledge r]

/-- The first answer is lost after the receiver committed; another process delivers again. -/
def redelivery : List OutboxAct :=
  [.insert 0 registeredEvent, .commit 0, .claim 0 [], .deliver 0] ++
    served 1 (requestOf 0 1 1 1 registeredEvent) 4 ++
    [.answer 0 (.networkError "timeout"), .mark 0, .tick 6000, .claim 1 [], .deliver 1] ++
    served 2 (requestOf 1 2 1 1 registeredEvent) 2 ++
    [.answer 1 (.response 200), .mark 1]

/-- Two deliveries of one event, one effect. -/
theorem exactlyOnce_redelivery :
    (countMachine.after quietWorld redelivery).outbox.rows.map (·.status) = [.published] ∧
      (countMachine.after quietWorld redelivery).requests.length = 2 ∧
      (countMachine.after quietWorld redelivery).receiver.committed.app = 1 ∧
      (∀ key, (countMachine.after quietWorld redelivery).receiver.committed.effects.count key ≤ 1) ∧
      ∀ row ∈ (countMachine.after quietWorld redelivery).outbox, row.status = .published →
        ∃ r ∈ (countMachine.after quietWorld redelivery).acked,
          r ∈ (countMachine.after quietWorld redelivery).requests ∧
            r.envelope = toEnvelope row.toClaimedEvent :=
  ⟨by decide, by decide, by decide,
    exactlyOnce (countMachine.reachable_after quietWorld_initial redelivery)⟩

/-- The first event of the account is delivered; then another process claims the second. -/
def secondClaimed : List OutboxAct :=
  [.insert 0 registeredEvent, .insert 0 renamedEvent, .commit 0, .claim 0 [], .deliver 0] ++
    served 1 (requestOf 0 1 1 1 registeredEvent) 4 ++ [.answer 0 (.response 200), .mark 0, .claim 1 []]

theorem secondClaimed_sends :
    ((countMachine.after quietWorld secondClaimed).step defaultRelays "core" .everyEvent countEffect
      (.deliver 1)).isSome = true := by decide

/-- The second event is sent after the first was acknowledged. -/
theorem publish_in_order_second :
    ((countMachine.after quietWorld secondClaimed).outbox.rows.map (·.status) = [.published, .pending]) ∧
      ∃ event, ((countMachine.after quietWorld secondClaimed).processes 1).batch.head? = some event ∧
        (requestOf 1 1 2 2 renamedEvent).envelope = toEnvelope event ∧
        (∀ row ∈ (countMachine.after quietWorld secondClaimed).outbox, row.Precedes event →
          (row.status = .published ∧
              (countMachine.after quietWorld secondClaimed).Acknowledged row.toClaimedEvent) ∨
            ∃ p ∈ ((countMachine.after quietWorld secondClaimed).processes 1).seen,
              p.id = row.id ∧ p.status = .legacyLogOnly) ∧
        ∀ x ∈ (countMachine.after quietWorld secondClaimed).producers, ∀ a ∈ x.2, ¬a.Precedes event :=
  ⟨by decide, publish_in_order (countMachine.reachable_after quietWorld_initial secondClaimed)
    (Option.some_get secondClaimed_sends).symm (by decide)⟩

end Run

end AtlasErp
