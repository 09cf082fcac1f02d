import AtlasErp.Ads.Moderation
import AtlasErp.Lib.Chars
import AtlasErp.Lib.Claims
import Mathlib.Data.List.Sort

/-! # Advertising: campaign e-mail

`enqueue` counts the messages of its key and inserts one for each recipient that is not suppressed; `processDue` claims
the messages that are due, hands each to the transport and records the result; `suppress` writes a suppression.  No
transaction spans two statements.

- `EmailMessage`, `EmailSuppression`, `CampaignMailDb`: the tables, and a trace of what happened;
- `EnqueuePoint.next`, `DeliveryPoint.next`, `SuppressPoint.next`: what each of the three does, statement by statement;
- `mailWorkers`, `campaignMail`: the calls, and their interleavings;
- `mailClaims`: a message is delivered by the call that claimed it, and by no other. -/

namespace AtlasErp

open Lib

/-! ## Tables -/

/-- `trackingUuid`: the digest of a campaign and a key, as what is digested. -/
structure TrackingId where
  campaignId : Nat
  idempotencyKey : String
  deriving DecidableEq

/-- `ck_ad_email_message_status`. -/
inductive EmailStatus where
  | pending
  | processing
  | sent
  | simulated
  | failed
  deriving DecidableEq

/-- The templates of a request, rendered with its variables and those of a recipient. -/
structure EmailTexts where
  subject : String
  htmlBody : String
  textBody : Option String
  deriving DecidableEq

/-- A row of `ad_email_messages`. -/
structure EmailMessage where
  id : Nat
  trackingId : TrackingId
  recipientEmail : String
  recipientReference : Option String
  texts : EmailTexts
  status : EmailStatus
  scheduledAt : Instant
  providerMessageId : Option String
  attemptCount : Nat
  lastError : Option String
  sentAt : Option Instant
  deriving DecidableEq

instance : HasKey EmailMessage := ⟨(·.id), fun k r => { r with id := k }, fun _ _ => rfl, fun _ => rfl⟩

inductive SuppressionReason where
  | unsubscribe
  | hardBounce
  | spamReport
  | manual
  deriving DecidableEq

/-- A row of `ad_email_suppressions`. -/
structure EmailSuppression where
  id : Nat
  emailNormalized : String
  reason : SuppressionReason
  details : Option String
  isActive : Bool
  deriving DecidableEq

instance : HasKey EmailSuppression := ⟨(·.id), fun k r => { r with id := k }, fun _ _ => rfl, fun _ => rfl⟩

structure EmailRecipient where
  email : String
  referenceId : Option String
  texts : EmailTexts
  deriving DecidableEq

/-- `recipient.email.toLowerCase()`. -/
def EmailRecipient.address (r : EmailRecipient) : String := r.email.toLower

/-- A body that passed `sendCampaignEmailSchema`, with the key of the request. -/
structure EnqueueCall where
  campaignId : Nat
  idempotencyKey : String
  scheduledAt : Option Instant
  recipients : List EmailRecipient
  deriving DecidableEq

def EnqueueCall.trackingId (call : EnqueueCall) : TrackingId := ⟨call.campaignId, call.idempotencyKey⟩

/-- A body that passed `createEmailSuppressionSchema`. -/
structure CreateEmailSuppressionDto where
  email : String
  reason : SuppressionReason
  details : Option String
  deriving DecidableEq

/-- A call of `enqueue` at some moment, with the addresses that have an active suppression then. -/
structure EnqueueMoment where
  trackingId : TrackingId
  suppressed : List String
  deriving DecidableEq

/-- A message as it is handed to the transport. -/
structure HandedMail where
  messageId : Nat
  recipientEmail : String
  /-- The addresses that had an active suppression before the message was claimed. -/
  suppressed : List String
  /-- The transport had acknowledged the message already. -/
  acknowledgedBefore : Bool
  deriving DecidableEq

/-- What happened so far; the code keeps no such record. -/
structure MailTrace where
  /-- The calls that found no message of their key. -/
  begun : List EnqueueMoment
  /-- The keys of which a call came past its last recipient. -/
  batched : List TrackingId
  /-- The calls that returned. -/
  enqueued : List EnqueueMoment
  handed : List HandedMail
  acknowledged : List Nat
  deriving DecidableEq

structure CampaignMailDb where
  campaigns : List Nat
  messages : Table EmailMessage
  suppressions : Table EmailSuppression
  trace : MailTrace
  deriving DecidableEq

/-- `EMAIL_MAX_SEND_ATTEMPTS` and `EMAIL_RETRY_DELAY_MS`. -/
structure MailConfig where
  maxSendAttempts : Nat
  retryDelayMs : Nat
  /-- The ORM writes a column also when its value is the one that it holds already. -/
  writesUnchanged : Bool

namespace CampaignMailDb

variable (db : CampaignMailDb)

/-- `suppressions.findOne({ emailNormalized: email, isActive: true })`. -/
def isSuppressed (email : String) : Bool :=
  (db.suppressions.findBy fun s => s.emailNormalized = email ∧ s.isActive = true).isSome

def suppressedAddresses : List String := (db.suppressions.rowsWhere (·.isActive)).map (·.emailNormalized)

theorem isSuppressed_iff {db : CampaignMailDb} {email : String} :
    db.isSuppressed email = true ↔ email ∈ db.suppressedAddresses := by
  simp only [isSuppressed, Table.findBy_isSome, decide_eq_true_eq, suppressedAddresses, List.mem_map,
    Table.mem_rowsWhere]
  exact ⟨fun ⟨s, hs, hsame, hactive⟩ => ⟨s, ⟨hs, hactive⟩, hsame⟩, fun ⟨s, ⟨hs, hactive⟩, hsame⟩ => ⟨s, hs, hsame, hactive⟩⟩

def moment (t : TrackingId) : EnqueueMoment := ⟨t, db.suppressedAddresses⟩

def begins (t : TrackingId) : CampaignMailDb :=
  { db with trace.begun := db.moment t :: db.trace.begun }

def batches (t : TrackingId) : CampaignMailDb :=
  { db with trace.batched := t :: db.trace.batched }

def returns (t : TrackingId) : CampaignMailDb :=
  { db with trace.enqueued := db.moment t :: db.trace.enqueued }

end CampaignMailDb

/-! ## What a call does -/

/-- Where a call of `enqueue` is, up to its `processDue`. -/
inductive EnqueuePoint where
  /-- The campaign exists. -/
  | counting (call : EnqueueCall)
  | queueing (call : EnqueueCall) (scheduledAt : Instant) (rest : List EmailRecipient)
  /-- The recipient has no active suppression. -/
  | inserting (call : EnqueueCall) (scheduledAt : Instant) (r : EmailRecipient) (rest : List EmailRecipient)
  deriving DecidableEq

structure ErpMailOutcome where
  /-- Its status is `SIMULATED`, and `SENT` otherwise. -/
  isSimulated : Bool
  providerMessageId : String
  deriving DecidableEq

/-- What a delivery writes when the transport took the message. -/
structure SentMark where
  status : EmailStatus
  providerMessageId : String
  sentAt : Option Instant
  deriving DecidableEq

/-- Where a call of `processDue` is; `due` are the messages that are left, as they were read. -/
inductive DeliveryPoint where
  | reading
  | claiming (due : List EmailMessage)
  | claimed (message : EmailMessage) (due : List EmailMessage) (suppressed : List String)
  | sending (message : EmailMessage) (due : List EmailMessage)
  | marking (message : EmailMessage) (due : List EmailMessage) (mark : SentMark)
  /-- The `catch`; `mark` is what the message holds in memory when its own update failed. -/
  | recording (message : EmailMessage) (due : List EmailMessage) (mark : Option SentMark) (error : String)
  deriving DecidableEq

/-- Where a call of `suppress` is. -/
inductive SuppressPoint where
  | finding (input : CreateEmailSuppressionDto)
  | reactivating (id : Nat) (input : CreateEmailSuppressionDto)
  deriving DecidableEq

inductive MailPoint where
  | enqueue (p : EnqueuePoint)
  /-- `call` is the call of `enqueue` that it is part of, if any. -/
  | deliver (call : Option TrackingId) (p : DeliveryPoint)
  | suppress (p : SuppressPoint)
  deriving DecidableEq

/-- What a call gets next: the clock, what the transport says, and whether an `UPDATE` fails. -/
structure MailAnswer where
  now : Instant
  transport : Except String ErpMailOutcome
  saved : Except String Unit

/-- The message of a recipient. -/
def EnqueueCall.message (call : EnqueueCall) (scheduledAt : Instant) (r : EmailRecipient) (id : Nat) : EmailMessage where
  id
  trackingId := call.trackingId
  recipientEmail := r.address
  recipientReference := r.referenceId
  texts := r.texts
  status := .pending
  scheduledAt
  providerMessageId := none
  attemptCount := 0
  lastError := none
  sentAt := none

/-- `enqueue`, from the count of the messages of its key. -/
def EnqueuePoint.next (p : EnqueuePoint) (answer : MailAnswer) (db : CampaignMailDb) :
    CampaignMailDb × Option MailPoint :=
  match p with
  | .counting call =>
    if ∃ m ∈ db.messages, m.trackingId = call.trackingId then (db.returns call.trackingId, none)
    else (db.begins call.trackingId,
      some (.enqueue (.queueing call (call.scheduledAt.getD answer.now) call.recipients)))
  | .queueing call scheduledAt (r :: rest) =>
    if db.isSuppressed r.address then (db, some (.enqueue (.queueing call scheduledAt rest)))
    else (db, some (.enqueue (.inserting call scheduledAt r rest)))
  | .queueing call scheduledAt [] =>
    if scheduledAt ≤ answer.now then (db.batches call.trackingId, some (.deliver (some call.trackingId) .reading))
    else ((db.batches call.trackingId).returns call.trackingId, none)
  | .inserting call scheduledAt r rest =>
    ({ db with messages := db.messages.create (call.message scheduledAt r) },
      some (.enqueue (.queueing call scheduledAt rest)))

/-- `findAll` of the messages that are due: the first hundred. -/
def CampaignMailDb.due (db : CampaignMailDb) (now : Instant) : List EmailMessage :=
  ((db.messages.rowsWhere fun m => m.status = .pending ∧ m.scheduledAt ≤ now).insertionSort
    fun a b => a.scheduledAt ≤ b.scheduledAt).take 100

namespace EmailMessage

variable (message : EmailMessage)

/-- What `enviarCorreoErp` returned, as it is written. -/
def mark (outcome : ErpMailOutcome) (now : Instant) : SentMark where
  status := if outcome.isSimulated then .simulated else .sent
  providerMessageId := if outcome.isSimulated then s!"mock-{message.id}" else outcome.providerMessageId
  sentAt := if outcome.isSimulated then none else some now

/-- The ORM writes a column of a row when its value is another than the one held in memory. -/
def save {α : Type} [DecidableEq α] (config : MailConfig) (held new old : α) : α :=
  if new = held ∧ ¬ config.writesUnchanged then old else new

/-- The row after `message.update` with a mark. -/
def marked (config : MailConfig) (mark : SentMark) (row : EmailMessage) : EmailMessage :=
  { row with
    status := save config message.status mark.status row.status
    providerMessageId := save config message.providerMessageId (some mark.providerMessageId) row.providerMessageId
    sentAt := save config message.sentAt mark.sentAt row.sentAt
    attemptCount := message.attemptCount + 1
    lastError := save config message.lastError none row.lastError }

/-- The attempts that the `catch` counts: a mark that failed has counted one in memory already. -/
def attempts (mark : Option SentMark) : Nat := message.attemptCount + 1 + if mark.isSome then 1 else 0

def statusAfterError (config : MailConfig) (mark : Option SentMark) : EmailStatus :=
  if config.maxSendAttempts ≤ message.attempts mark then .failed else .pending

/-- The row after the `message.update` of the `catch`.  A mark that failed is held in memory and written now, but for
its status. -/
def recorded (config : MailConfig) (mark : Option SentMark) (error : String) (now : Instant) (row : EmailMessage) :
    EmailMessage :=
  let afterError :=
    { row with
      attemptCount := message.attempts mark
      scheduledAt := now + config.retryDelayMs
      lastError := some error }
  match mark with
  | none => { afterError with status := save config message.status (message.statusAfterError config none) row.status }
  | some mark =>
    { afterError with
      status := message.statusAfterError config (some mark)
      providerMessageId := save config message.providerMessageId (some mark.providerMessageId) row.providerMessageId
      sentAt := save config message.sentAt mark.sentAt row.sentAt }

theorem mark_status (outcome : ErpMailOutcome) (now : Instant) :
    (message.mark outcome now).status ≠ .pending := by
  unfold mark
  dsimp only
  split <;> decide

theorem save_cases {α : Type} [DecidableEq α] (config : MailConfig) (held new old : α) :
    save config held new old = old ∨ save config held new old = new := by
  unfold save
  split
  · exact .inl rfl
  · exact .inr rfl

end EmailMessage

/-- An `UPDATE` of one message. -/
def CampaignMailDb.updateMessage (db : CampaignMailDb) (id : Nat) (f : EmailMessage → EmailMessage) : CampaignMailDb :=
  { db with messages := db.messages.updateWhere (·.id = id) f }

def EmailMessage.claim (row : EmailMessage) : EmailMessage := { row with status := .processing }

/-- `processDue`, and `deliver` of each message that it claims. -/
def DeliveryPoint.next (config : MailConfig) (p : DeliveryPoint) (answer : MailAnswer) (db : CampaignMailDb) :
    CampaignMailDb × Option DeliveryPoint :=
  match p with
  | .reading => (db, some (.claiming (db.due answer.now)))
  | .claiming [] => (db, none)
  | .claiming (message :: due) =>
    if ∃ m ∈ db.messages, m.id = message.id ∧ m.status = .pending then
      (db.updateMessage message.id EmailMessage.claim,
        some (.claimed message due db.suppressedAddresses))
    else (db, some (.claiming due))
  | .claimed message due suppressed =>
    ({ db with trace.handed :=
        ⟨message.id, message.recipientEmail, suppressed, message.id ∈ db.trace.acknowledged⟩ :: db.trace.handed },
      some (.sending message due))
  | .sending message due =>
    match answer.transport with
    | .ok outcome =>
      ({ db with trace.acknowledged := message.id :: db.trace.acknowledged },
        some (.marking message due (message.mark outcome answer.now)))
    | .error error => (db, some (.recording message due none error))
  | .marking message due mark =>
    match answer.saved with
    | .ok _ => (db.updateMessage message.id (message.marked config mark), some (.claiming due))
    | .error error => (db, some (.recording message due (some mark) error))
  | .recording message due mark error =>
    (db.updateMessage message.id (message.recorded config mark error answer.now), some (.claiming due))

/-- The row of a suppression. -/
def CreateEmailSuppressionDto.row (input : CreateEmailSuppressionDto) (id : Nat) : EmailSuppression :=
  ⟨id, input.email.toLower, input.reason, input.details, true⟩

def CreateEmailSuppressionDto.reactivate (input : CreateEmailSuppressionDto) (row : EmailSuppression) :
    EmailSuppression :=
  { row with reason := input.reason, details := input.details, isActive := true }

/-- `suppress`. -/
def SuppressPoint.next (p : SuppressPoint) (db : CampaignMailDb) : CampaignMailDb × Option SuppressPoint :=
  match p with
  | .finding input =>
    match db.suppressions.findBy fun s => s.emailNormalized = input.email.toLower with
    | none => ({ db with suppressions := db.suppressions.create input.row }, none)
    | some row =>
      if row.isActive = false ∨ row.reason ≠ input.reason then (db, some (.reactivating row.id input)) else (db, none)
  | .reactivating id input =>
    ({ db with suppressions := db.suppressions.updateWhere (·.id = id) input.reactivate }, none)

/-- What a call does next; an error that it does not catch ends it. -/
def MailPoint.next (config : MailConfig) (p : MailPoint) (answer : MailAnswer) (db : CampaignMailDb) :
    CampaignMailDb × Option MailPoint :=
  match p with
  | .enqueue p => p.next answer db
  | .deliver call p =>
    match p.next config answer db, call with
    | (db', some q), _ => (db', some (.deliver call q))
    | (db', none), some t => (db'.returns t, none)
    | (db', none), none => (db', none)
  | .suppress p =>
    match p.next db with
    | (db', q) => (db', q.map .suppress)

/-! ## Calls that interleave -/

inductive MailTask where
  | enqueue (call : EnqueueCall)
  | processDue
  | suppress (input : CreateEmailSuppressionDto)
  deriving DecidableEq

/-- The calls as workers: requests, and the ticks of the processor.  Nothing else writes the tables. -/
def mailWorkers (config : MailConfig) : Workers CampaignMailDb MailTask MailAnswer Empty Empty MailPoint where
  start task db :=
    match task with
    | .enqueue call => if call.campaignId ∈ db.campaigns then some (.enqueue (.counting call)) else none
    | .processDue => some (.deliver none .reading)
    | .suppress input => some (.suppress (.finding input))
  holds _ := []
  next p answer db := some (p.next config answer db)
  outside event _ := event.elim

abbrev MailState := Sessions CampaignMailDb MailPoint

abbrev MailAct := WorkerAct MailTask MailAnswer Empty

/-- Any campaigns and any suppressions, written as the code writes them, and no message yet. -/
def NoMailYet (db : CampaignMailDb) : Prop :=
  db.messages = .empty ∧ db.trace = ⟨[], [], [], [], []⟩ ∧
    ∀ s ∈ db.suppressions, s.emailNormalized.toLower = s.emailNormalized

def campaignMail (config : MailConfig) : Machine MailState MailAct := (mailWorkers config).machine NoMailYet

/-! ## What a step does -/

section Steps

variable (config : MailConfig) (db : CampaignMailDb)

/-- What `enqueue` can do. -/
inductive EnqueueStep : EnqueuePoint → CampaignMailDb → Option MailPoint → Prop where
  | returns {call} (found : ∃ m ∈ db.messages, m.trackingId = call.trackingId) :
      EnqueueStep (.counting call) (db.returns call.trackingId) none
  | begins {call scheduledAt} (absent : ¬ ∃ m ∈ db.messages, m.trackingId = call.trackingId) :
      EnqueueStep (.counting call) (db.begins call.trackingId)
        (some (.enqueue (.queueing call scheduledAt call.recipients)))
  | skips {call scheduledAt r rest} (suppressed : db.isSuppressed r.address = true) :
      EnqueueStep (.queueing call scheduledAt (r :: rest)) db (some (.enqueue (.queueing call scheduledAt rest)))
  | checks {call scheduledAt r rest} (free : db.isSuppressed r.address = false) :
      EnqueueStep (.queueing call scheduledAt (r :: rest)) db (some (.enqueue (.inserting call scheduledAt r rest)))
  | inserts {call scheduledAt r rest} :
      EnqueueStep (.inserting call scheduledAt r rest)
        { db with messages := db.messages.create (call.message scheduledAt r) }
        (some (.enqueue (.queueing call scheduledAt rest)))
  | delivers {call scheduledAt} :
      EnqueueStep (.queueing call scheduledAt []) (db.batches call.trackingId)
        (some (.deliver (some call.trackingId) .reading))
  | waits {call scheduledAt} :
      EnqueueStep (.queueing call scheduledAt []) ((db.batches call.trackingId).returns call.trackingId) none

/-- What `processDue` can do before its end. -/
inductive DeliveryStep : DeliveryPoint → CampaignMailDb → DeliveryPoint → Prop where
  | reads {now} : DeliveryStep .reading db (.claiming (db.due now))
  | claims {message due row} (found : row ∈ db.messages) (same : row.id = message.id) (pending : row.status = .pending) :
      DeliveryStep (.claiming (message :: due)) (db.updateMessage message.id EmailMessage.claim)
        (.claimed message due db.suppressedAddresses)
  | passes {message due} : DeliveryStep (.claiming (message :: due)) db (.claiming due)
  | hands {message due suppressed} :
      DeliveryStep (.claimed message due suppressed)
        { db with trace.handed := ⟨message.id, message.recipientEmail, suppressed,
          message.id ∈ db.trace.acknowledged⟩ :: db.trace.handed }
        (.sending message due)
  | accepts {message due outcome now} :
      DeliveryStep (.sending message due)
        { db with trace.acknowledged := message.id :: db.trace.acknowledged }
        (.marking message due (message.mark outcome now))
  | refuses {message due error} : DeliveryStep (.sending message due) db (.recording message due none error)
  | marks {message due mark} :
      DeliveryStep (.marking message due mark) (db.updateMessage message.id (message.marked config mark)) (.claiming due)
  | fails {message due mark error} :
      DeliveryStep (.marking message due mark) db (.recording message due (some mark) error)
  | records {message due mark error now} :
      DeliveryStep (.recording message due mark error)
        (db.updateMessage message.id (message.recorded config mark error now)) (.claiming due)

/-- What `suppress` can do. -/
inductive SuppressStep : SuppressPoint → CampaignMailDb → Option SuppressPoint → Prop where
  | creates {input} (absent : ∀ s ∈ db.suppressions, s.emailNormalized ≠ input.email.toLower) :
      SuppressStep (.finding input) { db with suppressions := db.suppressions.create input.row } none
  | finds {input row} (found : row ∈ db.suppressions) (same : row.emailNormalized = input.email.toLower) :
      SuppressStep (.finding input) db (some (.reactivating row.id input))
  | stays {input} : SuppressStep (.finding input) db none
  | reactivates {id input} :
      SuppressStep (.reactivating id input)
        { db with suppressions := db.suppressions.updateWhere (·.id = id) input.reactivate } none

inductive MailStep : MailPoint → CampaignMailDb → Option MailPoint → Prop where
  | enqueues {p db' q} (step : EnqueueStep db p db' q) : MailStep (.enqueue p) db' q
  | delivers {call p db' q} (step : DeliveryStep config db p db' q) :
      MailStep (.deliver call p) db' (some (.deliver call q))
  | returns {t} : MailStep (.deliver (some t) (.claiming [])) (db.returns t) none
  | ends : MailStep (.deliver none (.claiming [])) db none
  | finds {p db' q} (step : SuppressStep db p db' (some q)) : MailStep (.suppress p) db' (some (.suppress q))
  | suppresses {p db'} (step : SuppressStep db p db' none) : MailStep (.suppress p) db' none

variable {config db} {db' : CampaignMailDb} {answer : MailAnswer}

theorem EnqueuePoint.step {p : EnqueuePoint} {q : Option MailPoint} (h : p.next answer db = (db', q)) :
    EnqueueStep db p db' q := by
  rcases p with call | ⟨call, scheduledAt, _ | ⟨r, rest⟩⟩ | ⟨call, scheduledAt, r, rest⟩
  · simp only [EnqueuePoint.next] at h
    split at h <;> obtain ⟨rfl, rfl⟩ := Prod.mk.inj h
    · exact .returns ‹_›
    · exact .begins ‹_›
  · simp only [EnqueuePoint.next] at h
    split at h <;> obtain ⟨rfl, rfl⟩ := Prod.mk.inj h
    · exact .delivers
    · exact .waits
  · simp only [EnqueuePoint.next] at h
    split at h <;> obtain ⟨rfl, rfl⟩ := Prod.mk.inj h
    · exact .skips ‹_›
    · exact .checks (Bool.eq_false_iff.mpr ‹_›)
  · obtain ⟨rfl, rfl⟩ := Prod.mk.inj h
    exact .inserts

theorem DeliveryPoint.step {p q : DeliveryPoint} (h : p.next config answer db = (db', some q)) :
    DeliveryStep config db p db' q := by
  cases p with
  | reading =>
    obtain ⟨rfl, ⟨⟩⟩ := Prod.mk.inj h
    exact .reads
  | claiming due =>
    cases due with
    | nil => cases (Prod.mk.inj h).2
    | cons message due =>
      simp only [DeliveryPoint.next] at h
      split at h <;> obtain ⟨rfl, ⟨⟩⟩ := Prod.mk.inj h
      · obtain ⟨row, hrow, hsame, hpending⟩ := ‹∃ m ∈ db.messages, _›
        exact .claims hrow hsame hpending
      · exact .passes
  | claimed message due suppressed =>
    obtain ⟨rfl, ⟨⟩⟩ := Prod.mk.inj h
    exact .hands
  | sending message due =>
    simp only [DeliveryPoint.next] at h
    split at h <;> obtain ⟨rfl, ⟨⟩⟩ := Prod.mk.inj h
    · exact .accepts
    · exact .refuses
  | marking message due mark =>
    simp only [DeliveryPoint.next] at h
    split at h <;> obtain ⟨rfl, ⟨⟩⟩ := Prod.mk.inj h
    · exact .marks
    · exact .fails
  | recording message due mark error =>
    obtain ⟨rfl, ⟨⟩⟩ := Prod.mk.inj h
    exact .records

/-- A call of `processDue` ends when no message is left. -/
theorem DeliveryPoint.next_none {p : DeliveryPoint} (h : p.next config answer db = (db', none)) :
    p = .claiming [] ∧ db' = db := by
  cases p with
  | claiming due =>
    cases due with
    | nil => exact ⟨rfl, (Prod.mk.inj h).1.symm⟩
    | cons message due =>
      simp only [DeliveryPoint.next] at h
      split at h <;> cases (Prod.mk.inj h).2
  | sending message due =>
    simp only [DeliveryPoint.next] at h
    split at h <;> cases (Prod.mk.inj h).2
  | marking message due mark =>
    simp only [DeliveryPoint.next] at h
    split at h <;> cases (Prod.mk.inj h).2
  | reading | claimed _ _ _ | recording _ _ _ _ => cases (Prod.mk.inj h).2

theorem SuppressPoint.step {p : SuppressPoint} {q : Option SuppressPoint} (h : p.next db = (db', q)) :
    SuppressStep db p db' q := by
  cases p with
  | finding input =>
    simp only [SuppressPoint.next] at h
    split at h
    · obtain ⟨rfl, rfl⟩ := Prod.mk.inj h
      exact .creates fun s hs => of_decide_eq_false (Table.findBy_eq_none.mp ‹_› s hs)
    · rename_i row hfind
      split at h <;> obtain ⟨rfl, rfl⟩ := Prod.mk.inj h
      · exact .finds (Table.findBy_eq_some hfind).1 (of_decide_eq_true (Table.findBy_eq_some hfind).2)
      · exact .stays
  | reactivating id input =>
    obtain ⟨rfl, rfl⟩ := Prod.mk.inj h
    exact .reactivates

/-- **All that a step can do.** -/
theorem MailPoint.step {p : MailPoint} {q : Option MailPoint} (h : p.next config answer db = (db', q)) :
    MailStep config db p db' q := by
  cases p with
  | enqueue p => exact .enqueues (EnqueuePoint.step h)
  | deliver call p =>
    simp only [MailPoint.next] at h
    split at h
    · rename_i hnext
      obtain ⟨rfl, rfl⟩ := Prod.mk.inj h
      exact .delivers (DeliveryPoint.step hnext)
    · rename_i hnext
      obtain ⟨rfl, rfl⟩ := DeliveryPoint.next_none hnext
      obtain ⟨rfl, rfl⟩ := Prod.mk.inj h
      exact .returns
    · rename_i hnext
      obtain ⟨rfl, rfl⟩ := DeliveryPoint.next_none hnext
      obtain ⟨rfl, rfl⟩ := Prod.mk.inj h
      exact .ends
  | suppress p =>
    rcases hnext : p.next db with ⟨db'', _ | q'⟩ <;> simp only [MailPoint.next, hnext] at h <;>
      obtain ⟨rfl, rfl⟩ := Prod.mk.inj h
    · exact .suppresses (SuppressPoint.step hnext)
    · exact .finds (SuppressPoint.step hnext)

theorem mailWorkers_next {p : MailPoint} {q : Option MailPoint}
    (h : (mailWorkers config).next p answer db = some (db', q)) : MailStep config db p db' q :=
  MailPoint.step (Option.some.inj h)

end Steps

/-! ## Claimed messages -/

/-- The message that a call has claimed. -/
def DeliveryPoint.owns : DeliveryPoint → List Nat
  | .claimed message .. | .sending message _ | .marking message .. | .recording message .. => [message.id]
  | .reading | .claiming _ => []

def MailPoint.owns : MailPoint → List Nat
  | .deliver _ p => p.owns
  | .enqueue _ | .suppress _ => []

def InDelivery (id : Nat) (db : CampaignMailDb) : Prop := ∃ m ∈ db.messages, m.id = id ∧ m.status = .processing

section Claimed

variable {config : MailConfig} {db db' : CampaignMailDb} {id : Nat}

theorem InDelivery.updateMessage_ne (h : InDelivery id db) {other : Nat} (hne : other ≠ id)
    {f : EmailMessage → EmailMessage} (hf : ∀ row, (f row).id = row.id) : InDelivery id (db.updateMessage other f) := by
  obtain ⟨m, hm, rfl, hstatus⟩ := h
  refine ⟨m, (Table.mem_updateWhere hf).mpr ⟨m, hm, ?_⟩, rfl, hstatus⟩
  rw [if_neg]
  exact fun hid => hne (of_decide_eq_true hid).symm

theorem EmailMessage.marked_id (message : EmailMessage) (mark : SentMark) (row : EmailMessage) :
    (message.marked config mark row).id = row.id := rfl

theorem EmailMessage.recorded_id (message : EmailMessage) (mark : Option SentMark) (error : String) (now : Instant)
    (row : EmailMessage) : (message.recorded config mark error now row).id = row.id := by
  cases mark <;> rfl

/-- What is in delivery stays so, unless the call that claimed it writes it. -/
theorem DeliveryStep.inDelivery {p q : DeliveryPoint} (h : DeliveryStep config db p db' q) (howns : id ∉ p.owns)
    (hid : InDelivery id db) : InDelivery id db' := by
  cases h with
  | claims hrow hsame hpending =>
    refine hid.updateMessage_ne ?_ fun _ => rfl
    rintro rfl
    obtain ⟨m, hm, hmid, hstatus⟩ := hid
    obtain rfl := Table.eq_of_key_eq hm hrow (hmid.trans hsame.symm)
    rw [hpending] at hstatus
    cases hstatus
  | marks => exact hid.updateMessage_ne (fun heq => howns (List.mem_singleton.mpr heq.symm)) (EmailMessage.marked_id _ _)
  | records =>
    exact hid.updateMessage_ne (fun heq => howns (List.mem_singleton.mpr heq.symm)) (EmailMessage.recorded_id _ _ _ _)
  | reads | passes | hands | accepts | refuses | fails => exact hid

/-- A call owns what it owned, or what it has just claimed. -/
theorem DeliveryStep.owns {p q : DeliveryPoint} (h : DeliveryStep config db p db' q) (hid : id ∈ q.owns) :
    id ∈ p.owns ∧ (InDelivery id db → InDelivery id db') ∨ ¬ InDelivery id db ∧ InDelivery id db' := by
  cases h with
  | @claims message due row hrow hsame hpending =>
    obtain rfl := List.mem_singleton.mp hid
    refine .inr ⟨?_, row.claim, ?_, hsame, rfl⟩
    · rintro ⟨m, hm, hmid, hstatus⟩
      obtain rfl := Table.eq_of_key_eq hm hrow (hmid.trans hsame.symm)
      rw [hpending] at hstatus
      cases hstatus
    · refine (Table.mem_updateWhere (f := EmailMessage.claim) fun _ => rfl).mpr ⟨row, hrow, ?_⟩
      rw [if_pos (decide_eq_true hsame)]
  | hands | accepts | refuses | fails => exact .inl ⟨hid, fun h => h⟩
  | reads | passes | marks | records => cases hid

/-- A message is delivered by the call that claimed it. -/
theorem mailClaims (config : MailConfig) : (mailWorkers config).Claims MailPoint.owns InDelivery where
  start {task db p} h := by
    cases task with
    | enqueue call =>
      simp only [mailWorkers] at h
      split at h
      · obtain rfl := Option.some.inj h
        rfl
      · cases h
    | processDue | suppress input =>
      obtain rfl := Option.some.inj h
      rfl
  claim {p q answer db db'} h id hid := by
    cases mailWorkers_next h with
    | enqueues step => cases step <;> cases hid
    | delivers step => exact step.owns hid
    | finds => cases hid
  keep {p q answer db db'} h id howns hid := by
    cases mailWorkers_next h with
    | enqueues step =>
      cases step with
      | inserts =>
        obtain ⟨m, hm, hmid, hstatus⟩ := hid
        exact ⟨m, Table.mem_create_of_mem (fun _ => rfl) hm, hmid, hstatus⟩
      | returns | begins | skips | checks | delivers | waits => exact hid
    | delivers step => exact step.inDelivery howns hid
    | returns | ends => exact hid
    | finds step | suppresses step => cases step <;> exact hid
  outside {event} := event.elim

end Claimed

end AtlasErp
