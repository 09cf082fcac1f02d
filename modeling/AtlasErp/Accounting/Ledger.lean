import AtlasErp.Accounting.Documents
import AtlasErp.Lib.Workers

/-! # The transactions of the ledger

Drafts, decisions, publications, reversals, annulled drafts, and the closing and reopening of periods, each in its
own transaction under READ COMMITTED: a read sees what is committed at that moment, and only the rows that are said
to be locked are.

- `LedgerPoint`: how far a transaction has come, with what it read and what it is to write;
- `ledgerWorkers`, `ledgerMachine`: any interleaving, with the answers of the clock, of the numbering, of the rules
  of posting and of the seal;
- `LedgerCommit`, `ledger_next`: all that a transaction can write. -/

namespace AtlasErp

open Lib

/-- Rows that are locked until the transaction ends. -/
inductive LedgerLock where
  | document (id : Nat)
  | period (id : Nat)
  deriving DecidableEq

inductive DocumentDecision where
  | approved
  | rejected
  deriving DecidableEq

structure ReverseAccountingDocumentDto where
  reversalDate : Day
  accountingPeriodId : Option Nat
  reason : Text

structure ClosePeriodDto where
  periodId : Nat
  legalEntityId : Nat

/-- The transactions; `policy` is `ACCOUNTING_APPROVAL_POLICY` where the call is served. -/
inductive LedgerTask where
  | createDraft (input : AccountingDraftInput) (user : AuthUser) (policy : Option String)
  /-- A document that the server derives, kept as a draft or published at once. -/
  | generate (input : AccountingDraftInput) (user : AuthUser) (policy : Option String) (publish : Bool)
  | decide (id : Nat) (user : AuthUser) (decision : DocumentDecision)
  | post (id : Nat) (user : AuthUser)
  | reverse (id : Nat) (input : ReverseAccountingDocumentDto) (user : AuthUser) (policy : Option String)
  /-- `UPDATE … SET status = 'VOID' WHERE id = … AND status = 'DRAFT'`, of the annulment of an invoice. -/
  | voidDraft (id : Nat)
  | closePeriod (input : ClosePeriodDto) (user : AuthUser)
  | reopenPeriod (periodId : Nat) (user : AuthUser)

/-- What is not read from the tables of the ledger. -/
structure LedgerAnswer where
  documentNo : Text
  policySnapshotId : Option Nat
  now : Instant
  hashSha256 : Text
  /-- Reconciliation items or bank statement lines are open. -/
  openItems : Bool

/-! ## Drafting -/

/-- What a draft is created for. -/
inductive DraftPurpose where
  | keep
  | publish
  | reversal (original : AccountingDocument)

/-- A draft that may be created: who must approve it is decided. -/
structure Drafting where
  user : AuthUser
  origin : ApprovalOrigin
  policy : Option String
  input : AccountingDraftInput
  approval : ResolvedApproval
  resolved : resolveApprovalForCreation origin policy input.approvalStatus = .ok approval
  purpose : DraftPurpose

/-- The checks that come before anything is read or numbered. -/
def beginDraft (input : AccountingDraftInput) (user : AuthUser) (origin : ApprovalOrigin) (policy : Option String)
    (purpose : DraftPurpose) : Except HttpError Drafting := do
  assertCanAccessLegalEntity user input.legalEntityId
  assertClientApprovalStatus input.approvalStatus
  match resolved : resolveApprovalForCreation origin policy input.approvalStatus with
  | .ok approval => .ok ⟨user, origin, policy, input, approval, resolved, purpose⟩
  | .error e => .error e

/-- A draft with its defaults, whose lines are a double entry. -/
structure ResolvedDraft where
  drafting : Drafting
  document : ResolvedAccountingDocument
  lines : document.input.lines = drafting.input.lines
  valid : DoubleEntry.validate (document.input.lines.map fun line => (line.debit, line.credit)) = .ok ()

def resolveDraft (db : AccountingDb) (d : Drafting) (documentNo : Text) : Except HttpError ResolvedDraft :=
  match h : withResolvedDefaults db d.input documentNo with
  | .error e => .error e
  | .ok document =>
    match valid : DoubleEntry.validate (document.input.lines.map fun line => (line.debit, line.credit)) with
    | .error e => .error e
    | .ok () => .ok ⟨d, document, by
        obtain ⟨_, -, h⟩ := bind_eq_ok.mp h
        obtain ⟨_, -, h⟩ := bind_eq_ok.mp h
        rw [← pure_eq_ok.mp h], valid⟩

/-- The draft that undoes a document. -/
def reversalInput (original : AccountingDocument) (input : ReverseAccountingDocumentDto) (documentNo : Text) :
    AccountingDraftInput where
  legalEntityId := original.legalEntityId
  sourceSystem := "ACCOUNTING".toList
  sourceType := "REVERSAL".toList
  sourceId := some (decimalText original.id ++ ':' :: documentNo)
  documentType := "REVERSAL".toList
  documentNo := some documentNo
  documentDate := input.reversalDate
  postingDate := some input.reversalDate
  accountingPeriodId := input.accountingPeriodId
  ledgerId := some original.ledgerId
  currencyCode := original.currencyCode
  approvalStatus := none
  lines := original.journal.lines.map (reversalLine original.id input.reason)

/-! ## Publishing -/

/-- A document that is to be published: a stored draft, a new document, or a new one that undoes another. -/
inductive Publication where
  | ofDraft (row : AccountingDocument)
  | ofNew (row : AccountingDocument)
  | ofReversal (original row : AccountingDocument)

def Publication.row : Publication → AccountingDocument
  | .ofDraft row | .ofNew row | .ofReversal _ row => row

/-- The rows it has locked. -/
def Publication.locks : Publication → List LedgerLock
  | .ofDraft row => [.document row.id]
  | .ofNew _ => []
  | .ofReversal original _ => [.document original.id]

/-- The checks on a document that the transaction has locked or created. -/
def beginPosting (user : AuthUser) (document : AccountingDocument) : Except HttpError Unit := do
  assertCanAccessLegalEntity user document.legalEntityId
  failIf (document.status ≠ .draft)
    (conflict "ACCOUNTING_DOCUMENT_NOT_DRAFT" "Solo se pueden publicar documentos en estado DRAFT.")
  assertDocumentApprovedForPosting document

/-- The document as it is published. -/
def publishedDocument (document : AccountingDocument) (user : AuthUser) (now : Instant) (hash : Text) :
    AccountingDocument :=
  { document with
    status := .posted
    journal := { document.journal with
      postingStatus := .posted, postedAt := some now, postedBy := some user.sub, hashSha256 := some hash } }

/-- The lines are checked again, and the row is written. -/
def publishRow (db : AccountingDb) (document : AccountingDocument) (user : AuthUser) (answer : LedgerAnswer) :
    Except HttpError AccountingDocument := do
  DoubleEntry.validate (document.journal.lines.map JournalLine.amounts)
  let published := publishedDocument document user answer.now answer.hashSha256
  updateTriggers document published
  assertDocumentContext db published
  updateJournalTrigger document.journal published.journal
  return published

/-- The original of a reversal, once it is undone. -/
def reversedDocument (original : AccountingDocument) (reversalId : Nat) : AccountingDocument :=
  { original with
    status := .reversed
    reversedById := some reversalId
    journal := { original.journal with postingStatus := .reversed } }

/-! ## Points -/

inductive LedgerPoint where
  /-- Its number is to be assigned. -/
  | numbering (d : Drafting)
  /-- Its period and its ledger are to be read. -/
  | resolving (d : Drafting) (documentNo : Text)
  /-- Period, ledger, accounts and dimensions are to be read. -/
  | validating (d : ResolvedDraft)
  | inserting (d : ResolvedDraft)
  /-- Inserted as a draft, to be committed. -/
  | keeping (row : AccountingDocument)
  /-- A stored draft is locked, to be read. -/
  | locked (id : Nat) (user : AuthUser)
  /-- The period is to be read. -/
  | posting (user : AuthUser) (publication : Publication)
  /-- The lines are to be checked, and the row written. -/
  | publishing (user : AuthUser) (publication : Publication)
  /-- Published, to be committed. -/
  | published (publication : Publication) (row : AccountingDocument)
  /-- The original of a reversal is locked, to be read. -/
  | reversing (id : Nat) (input : ReverseAccountingDocumentDto) (user : AuthUser) (policy : Option String)
  /-- It was read, and this user may decide it. -/
  | deciding (id : Nat) (user : AuthUser) (decision : DocumentDecision)
  /-- The same, with the row locked by the update. -/
  | decided (id : Nat) (user : AuthUser) (decision : DocumentDecision)
  | voiding (id : Nat)
  /-- The period was open; its drafts are to be counted. -/
  | counting (input : ClosePeriodDto) (user : AuthUser)
  /-- No draft was counted. -/
  | counted (input : ClosePeriodDto) (user : AuthUser)
  /-- The period is locked by the update. -/
  | closing (input : ClosePeriodDto) (user : AuthUser)
  /-- The period was not open. -/
  | reopening (periodId : Nat)
  | reopened (periodId : Nat)

/-- The rows a transaction has locked. -/
def LedgerPoint.locks : LedgerPoint → List LedgerLock
  | .numbering d | .resolving d _ => purpose d
  | .validating d | .inserting d => purpose d.drafting
  | .locked id _ | .reversing id .. | .decided id .. | .voiding id => [.document id]
  | .posting _ publication | .publishing _ publication | .published publication _ => publication.locks
  | .closing input _ => [.period input.periodId]
  | .reopened periodId => [.period periodId]
  | .keeping _ | .deciding .. | .counting .. | .counted .. | .reopening _ => []
where
  purpose (d : Drafting) : List LedgerLock :=
    match d.purpose with
    | .reversal original => [.document original.id]
    | .keep | .publish => []

/-! ## Steps -/

section Steps

variable (db : AccountingDb)

/-- The draft is written; a reversal is linked to its original, and what is to be published is checked. -/
def insertDraft (d : ResolvedDraft) (answer : LedgerAnswer) : Except HttpError LedgerPoint := do
  let row ← recordDraft d.document d.drafting.approval d.drafting.origin answer.policySnapshotId d.drafting.user
  insertTriggers db row
  failIf (violatesUnique db.documents row) (raised "unique constraint")
  match d.drafting.purpose with
  | .keep => return .keeping row
  | .publish => do
    beginPosting d.drafting.user row
    return .posting d.drafting.user (.ofNew row)
  | .reversal original => do
    let linked := { row with reversalOfId := some original.id }
    updateTriggers row linked
    assertDocumentContext db linked
    beginPosting d.drafting.user linked
    return .posting d.drafting.user (.ofReversal original linked)

/-- The rows of a new document, at the end of its transaction. -/
def commitNew (row : AccountingDocument) : Except HttpError AccountingDb := do
  assertJournalBalanced row.journal
  failIf (violatesUnique db.documents row) (raised "unique constraint")
  return { db with documents := db.documents.create row.stored }

def commitPublication (publication : Publication) (row : AccountingDocument) : Except HttpError AccountingDb :=
  match publication with
  | .ofDraft _ => .ok { db with documents := db.documents.put row }
  | .ofNew _ => commitNew db row
  | .ofReversal original _ => do
    let reversed := reversedDocument original db.documents.nextKey
    let db ← commitNew db row
    updateTriggers original reversed
    updateJournalTrigger original.journal reversed.journal
    return { db with documents := db.documents.put reversed }

/-- The original is locked, and may be undone. -/
def beginReversal (id : Nat) (input : ReverseAccountingDocumentDto) (user : AuthUser) (policy : Option String)
    (documentNo : Text) : Except HttpError LedgerPoint := do
  let original ← orFail (db.documents.find? id)
    (missing "ACCOUNTING_DOCUMENT_NOT_FOUND" "El documento contable no existe.")
  assertCanAccessLegalEntity user original.legalEntityId
  failIf (original.status ≠ .posted)
    (conflict "ACCOUNTING_DOCUMENT_NOT_POSTED" "Solo se pueden reversar documentos publicados.")
  failIf (db.documents.rowsWhere (fun d => d.reversalOfId = some original.id ∧ d.status ≠ .void) ≠ [])
    (conflict "ACCOUNTING_DOCUMENT_ALREADY_REVERSED"
      "El documento contable ya tiene un reverso activo y no puede reversarse dos veces.")
  let d ← beginDraft (reversalInput original input documentNo) user .serverGenerated policy (.reversal original)
  return .resolving d documentNo

/-- A draft as it is decided. -/
def decidedDocument (document : AccountingDocument) (user : AuthUser) (decision : DocumentDecision) (now : Instant) :
    AccountingDocument :=
  match decision with
  | .approved => { document with approvalStatus := .approved, approvedBy := some user.sub, approvedAt := some now }
  | .rejected => { document with approvalStatus := .rejected, rejectedBy := some user.sub, rejectedAt := some now }

/-- `UPDATE … WHERE status = 'DRAFT' AND approval_status = 'PENDING'`. -/
def commitDecision (id : Nat) (user : AuthUser) (decision : DocumentDecision) (now : Instant) :
    Except HttpError AccountingDb := do
  let document ← orFail (db.documents.find? id) notPendingConflict
  failIf (document.isPendingDraft = false) notPendingConflict
  let decided := decidedDocument document user decision now
  updateTriggers document decided
  assertDocumentContext db decided
  return { db with documents := db.documents.put decided }

def commitVoid (id : Nat) : Except HttpError AccountingDb := do
  let document ← orFail (db.documents.find? id) (raised "0 rows")
  failIf (document.status ≠ .draft) (raised "0 rows")
  return { db with documents := db.documents.put { document with status := .void } }

/-- The period of a closing: it is of the legal entity, and open. -/
def beginClosing (input : ClosePeriodDto) (user : AuthUser) : Except HttpError Unit := do
  let period ← orFail (db.periods.find? input.periodId)
    (missing "ACCOUNTING_PERIOD_NOT_FOUND" "El período contable no existe.")
  let fiscalYear ← getFiscalYear db period.fiscalYearId
  failIf (fiscalYear.legalEntityId ≠ input.legalEntityId) (conflict "CLOSE_RUN_LEGAL_ENTITY_PERIOD_MISMATCH"
    "El período no pertenece a la entidad legal indicada para el cierre.")
  assertCanAccessLegalEntity user input.legalEntityId
  failIf (period.takes = false)
    (conflict "ACCOUNTING_PERIOD_ALREADY_CLOSED" "El período contable no está abierto para cierre.")

/-- The drafts of a period. -/
def periodDrafts (periodId : Nat) : List AccountingDocument :=
  db.documents.rowsWhere fun d => d.accountingPeriodId = periodId ∧ d.status = .draft

/-- The controls that block a closing. -/
def assertNoBlockers (periodId : Nat) (openItems : Bool) : Except HttpError Unit :=
  failIf (0 < (periodDrafts db periodId).length ∨ openItems) (conflict "PERIOD_CLOSE_CONTROLS_FAILED"
    "No se puede cerrar el período porque existen controles pendientes.")

def closedPeriod (user : AuthUser) (now : Instant) (period : AccountingPeriod) : AccountingPeriod :=
  { period with isOpen := false, closeStatus := .closed, closedAt := some now, closedBy := some user.sub }

def openPeriod (period : AccountingPeriod) : AccountingPeriod :=
  { period with isOpen := true, closeStatus := .open, closedAt := none, closedBy := none }

def beginReopening (periodId : Nat) (user : AuthUser) : Except HttpError Unit := do
  let period ← orFail (db.periods.find? periodId)
    (missing "ACCOUNTING_PERIOD_NOT_FOUND" "El período contable no existe.")
  let fiscalYear ← getFiscalYear db period.fiscalYearId
  assertCanAccessLegalEntity user fiscalYear.legalEntityId
  failIf (period.takes = true) (conflict "ACCOUNTING_PERIOD_ALREADY_OPEN" "El período contable ya está abierto.")

/-- What a call reads first. -/
def LedgerTask.start : LedgerTask → Except HttpError LedgerPoint
  | .createDraft input user policy => do
    let d ← beginDraft input user .manual policy .keep
    return .numbering d
  | .generate input user policy publish => do
    let d ← beginDraft input user .serverGenerated policy (if publish then .publish else .keep)
    return .numbering d
  | .decide id user decision => do
    let document ← orFail (db.documents.find? id)
      (missing "ACCOUNTING_DOCUMENT_NOT_FOUND" "El documento contable no existe.")
    assertCanAccessLegalEntity user document.legalEntityId
    assertCanDecide document user.sub
    return .deciding id user decision
  | .post id user => .ok (.locked id user)
  | .reverse id input user policy => .ok (.reversing id input user policy)
  | .voidDraft id => .ok (.voiding id)
  | .closePeriod input user => do
    beginClosing db input user
    return .counting input user
  | .reopenPeriod periodId user => do
    beginReopening db periodId user
    return .reopening periodId

/-- The transaction goes on, or an error ends it. -/
def goOn : Except HttpError LedgerPoint → AccountingDb × Option LedgerPoint
  | .ok p => (db, some p)
  | .error _ => (db, none)

/-- The transaction commits, or an error undoes it. -/
def commit : Except HttpError AccountingDb → AccountingDb × Option LedgerPoint
  | .ok db' => (db', none)
  | .error _ => (db, none)

def LedgerPoint.next (answer : LedgerAnswer) : LedgerPoint → AccountingDb × Option LedgerPoint
  | .numbering d => goOn db (.ok (.resolving d ((d.input.documentNo.filter (· ≠ [])).getD answer.documentNo)))
  | .resolving d documentNo => goOn db ((resolveDraft db d documentNo).map .validating)
  | .validating d => goOn db ((assertDocumentCanBePosted db d.document).map fun _ => .inserting d)
  | .inserting d => goOn db (insertDraft db d answer)
  | .keeping row => commit db (commitNew db row)
  | .locked id user => goOn db do
    let document ← orFail (db.documents.find? id)
      (missing "ACCOUNTING_DOCUMENT_NOT_FOUND" "El documento contable no existe.")
    beginPosting user document
    return .posting user (.ofDraft document)
  | .posting user publication => goOn db do
    let _ ← assertPeriodIsOpen db publication.row.accountingPeriodId
    return .publishing user publication
  | .publishing user publication => goOn db ((publishRow db publication.row user answer).map (.published publication))
  | .published publication row => commit db (commitPublication db publication row)
  | .reversing id input user policy => goOn db (beginReversal db id input user policy answer.documentNo)
  | .deciding id user decision => goOn db (.ok (.decided id user decision))
  | .decided id user decision => commit db (commitDecision db id user decision answer.now)
  | .voiding id => commit db (commitVoid db id)
  | .counting input user =>
    goOn db ((assertNoBlockers db input.periodId answer.openItems).map fun _ => .counted input user)
  | .counted input user => goOn db (.ok (.closing input user))
  | .closing input user => commit db (.ok { db with
      periods := db.periods.updateWhere (·.id = input.periodId) (closedPeriod user answer.now) })
  | .reopening periodId => goOn db (.ok (.reopened periodId))
  | .reopened periodId => commit db (.ok { db with periods := db.periods.updateWhere (·.id = periodId) openPeriod })

end Steps

/-- What others do: master data change, and the calendar gets a period. -/
inductive LedgerEvent where
  | configure (master : FinancialStructure)
  | addPeriod (period : AccountingPeriod)

def LedgerEvent.apply (db : AccountingDb) : LedgerEvent → AccountingDb
  | .configure master => { db with master }
  | .addPeriod period => { db with periods := db.periods.create fun id => { period with id } }

/-- The transactions over the tables of the ledger. -/
def ledgerWorkers : Workers AccountingDb LedgerTask LedgerAnswer LedgerEvent LedgerLock LedgerPoint where
  start task db := (task.start db).toOption
  holds := LedgerPoint.locks
  next p answer db := some (p.next db answer)
  outside event db := some (event.apply db)

/-- Any interleaving, from a ledger without documents. -/
def ledgerMachine : Machine (Sessions AccountingDb LedgerPoint) (WorkerAct LedgerTask LedgerAnswer LedgerEvent) :=
  ledgerWorkers.machine fun db => db.documents = Table.empty

end AtlasErp
