import AtlasErp.Accounting.LedgerInvariants
import AtlasErp.Billing.Model

/-! # The bridge from merchant billing to the ledger

The sale of an invoice is drafted as a journal entry and linked to the invoice in one transaction, which begins by
locking the row of the invoice.  A document that already stands under the key of the invoice is linked instead.

- `revalidateInvoice`: what the invoice says of itself, against what the client asks;
- `buildDraft`: the sale, a receivable against revenue and tax;
- `BridgePoint`, `BridgePoint.step`: the transaction, which drafts as the others of the ledger do;
- `bridgeWorkers`, `bridgeMachine`: any interleaving of it with all transactions of the ledger. -/

namespace AtlasErp

open Lib

/-! ## Rows -/

/-- `merchant_invoices`, with the document of the ledger that a row names. -/
structure BridgedInvoice where
  invoice : MerchantInvoice
  accountingDocumentId : Option Nat
  deriving DecidableEq

instance : HasKey BridgedInvoice where
  key i := i.invoice.id
  withKey id i := { i with invoice := { i.invoice with id } }
  key_withKey _ _ := rfl
  withKey_key _ := rfl

structure BridgedAccount where
  id : Nat
  businessPartnerId : Option Nat
  deriving DecidableEq

structure BridgedContract where
  id : Nat
  accountId : Nat
  deriving DecidableEq

structure LegalEntity where
  id : Nat
  baseCurrency : String
  deriving DecidableEq

/-- What the bridge reads and never writes. -/
structure InvoiceFacts where
  invoiceLines : List MerchantInvoiceLine
  receivables : List MerchantReceivable
  accounts : List BridgedAccount
  contracts : List BridgedContract
  legalEntities : List LegalEntity
  deriving DecidableEq

structure BridgeDb where
  ledger : AccountingDb
  invoices : Table BridgedInvoice
  facts : InvoiceFacts
  deriving DecidableEq

structure PostMerchantInvoiceToGlDto where
  legalEntityId : Nat
  accountingPeriodId : Nat
  ledgerId : Nat
  arAccountId : Nat
  revenueAccountId : Nat
  taxAccountId : Option Nat
  partnerId : Option Nat
  currencyCode : String
  deriving DecidableEq

/-! ## What the invoice says of itself -/

namespace MERCHANT_INVOICE_SOURCE

def sourceSystem : Text := "CRM".toList

def sourceType : Text := "MERCHANT_INVOICE".toList

end MERCHANT_INVOICE_SOURCE

def POSTABLE_INVOICE_STATUSES : List InvoiceStatus := [.issued, .partiallyPaid, .paid, .overdue]

/-- As it is stored. -/
def InvoiceStatus.text : InvoiceStatus → String
  | .draft => "DRAFT"
  | .issued => "ISSUED"
  | .partiallyPaid => "PARTIALLY_PAID"
  | .paid => "PAID"
  | .overdue => "OVERDUE"
  | .cancelled => "CANCELLED"

structure SaleContext where
  partnerId : Nat
  currencyCode : String
  total : Int
  subtotal : Int
  tax : Int
  deriving DecidableEq

section Revalidate

variable (facts : InvoiceFacts)

/-- The currency of an invoice is that of its charges, and there is one. -/
def invoiceCurrency (invoiceId : Nat) : Except HttpError String :=
  let receivables := facts.receivables.filter (·.invoiceId = some invoiceId)
  if receivables = [] then .error (conflict "MERCHANT_INVOICE_CURRENCY_UNKNOWN"
    "La factura no tiene cargos de los que deducir su moneda.")
  else (assertSingleCurrency (receivables.map (·.currency))).mapError fun
    | .currencyMismatch _ => conflict "MERCHANT_INVOICE_MIXED_CURRENCIES"
        "La factura mezcla cargos de monedas distintas."
    | error => error.uncaught

/-- Without an exchange rate, only the base currency of the entity is posted. -/
def assertLegalEntityCurrency (legalEntityId : Nat) (currency : String) : Except HttpError Unit := do
  let row ← orFail (facts.legalEntities.find? (·.id = legalEntityId))
    (missing "LEGAL_ENTITY_NOT_FOUND" "La entidad legal no existe.")
  failIf (currencyCode row.baseCurrency ≠ currency) (conflict "MERCHANT_INVOICE_FOREIGN_CURRENCY"
    ("La entidad legal lleva sus libros en " ++ row.baseCurrency ++ "; la factura está en " ++ currency ++ "."))

def revalidateInvoice (invoice : MerchantInvoice) (input : PostMerchantInvoiceToGlDto) :
    Except HttpError SaleContext := do
  failIf (invoice.status ∉ POSTABLE_INVOICE_STATUSES) (conflict "MERCHANT_INVOICE_NOT_POSTABLE"
    ("Una factura en estado " ++ invoice.status.text ++ " no se lleva al mayor."))
  let account := facts.accounts.find? (·.id = invoice.accountId)
  let partnerId ← orFail (account.bind (·.businessPartnerId)) (invalidRequest "MERCHANT_WITHOUT_BUSINESS_PARTNER"
    ("El comercio no tiene business partner contable vinculado. " ++
      "Vincúlelo a la cuenta B2B antes de contabilizar."))
  failIf (∃ asked ∈ input.partnerId, asked ≠ partnerId) (conflict "MERCHANT_INVOICE_PARTNER_MISMATCH"
    "La contraparte debe ser la del comercio de la factura.")
  failIf (∃ contractId ∈ invoice.contractId,
      (facts.contracts.find? (·.id = contractId)).map (·.accountId) ≠ some invoice.accountId)
    (conflict "MERCHANT_INVOICE_CONTRACT_MISMATCH" "El contrato de la factura no pertenece a su comercio.")
  let currency ← invoiceCurrency facts invoice.id
  failIf (String.ofList (input.currencyCode.toList.map Char.toUpper) ≠ currency)
    (conflict "MERCHANT_INVOICE_CURRENCY_MISMATCH"
      ("La factura está en " ++ currency ++ "; no se contabiliza en " ++ input.currencyCode ++ "."))
  assertLegalEntityCurrency facts input.legalEntityId currency
  let subtotal ← liftMoney (parseMoney invoice.subtotalAmount currency false true)
  let tax ← liftMoney (parseMoney invoice.taxAmount currency false true)
  let total ← liftMoney (parseMoney invoice.totalAmount currency false false)
  let lines := facts.invoiceLines.filter (·.invoiceId = invoice.id)
  let taxes ← lines.mapM fun line => liftMoney (parseMoney line.taxAmount currency false true)
  let totals ← lines.mapM fun line => liftMoney (parseMoney line.totalAmount currency false true)
  failIf (subtotal + tax ≠ total ∨ sumMinor taxes ≠ tax ∨ sumMinor totals ≠ total)
    (conflict "MERCHANT_INVOICE_TAX_INCONSISTENT"
      "Los importes de la factura no cuadran (subtotal + impuesto, o cabecera contra líneas).")
  failIf (0 < tax ∧ input.taxAccountId = none) (invalidRequest "TAX_ACCOUNT_REQUIRED"
    "La factura tiene impuesto; indique la cuenta de impuesto (taxAccountId).")
  return ⟨partnerId, currency, total, subtotal, tax⟩

end Revalidate

/-! ## The draft of the sale -/

section Draft

variable (invoice : MerchantInvoice) (input : PostMerchantInvoiceToGlDto) (context : SaleContext)

def zeroAmount : JournalAmount := .text "0.00".toList

def receivableLine : DraftJournalLineInput where
  glAccountId := input.arAccountId
  debit := .column context.total
  credit := zeroAmount
  currencyCode := context.currencyCode.toList
  amountLc := some (.column context.total)
  partnerId := some context.partnerId
  costCenterId := none
  profitCenterId := none
  taxCodeId := none
  referenceType := some "MERCHANT_INVOICE".toList
  referenceId := some invoice.id
  description := some ("CxC factura ".toList ++ invoice.invoiceNumber.toList)

/-- A line that is credited: the revenue, or the tax. -/
def creditedLine (glAccountId : Nat) (amount : Int) (what : String) : DraftJournalLineInput where
  glAccountId
  debit := zeroAmount
  credit := .column amount
  currencyCode := context.currencyCode.toList
  amountLc := some (.column amount)
  partnerId := none
  costCenterId := none
  profitCenterId := none
  taxCodeId := none
  referenceType := none
  referenceId := none
  description := some (what.toList ++ invoice.invoiceNumber.toList)

def buildDraft : AccountingDraftInput where
  legalEntityId := input.legalEntityId
  sourceSystem := MERCHANT_INVOICE_SOURCE.sourceSystem
  sourceType := MERCHANT_INVOICE_SOURCE.sourceType
  sourceId := some (decimalText invoice.id)
  documentType := "AR_INVOICE".toList
  documentNo := some ("MINV-".toList ++ invoice.invoiceNumber.toList)
  documentDate := invoice.invoiceDate
  postingDate := some invoice.invoiceDate
  accountingPeriodId := some input.accountingPeriodId
  ledgerId := some input.ledgerId
  currencyCode := context.currencyCode.toList
  approvalStatus := none
  lines := receivableLine invoice input context ::
    creditedLine invoice context input.revenueAccountId context.subtotal "Ingreso factura " ::
    if 0 < context.tax then
      (input.taxAccountId.map fun account => creditedLine invoice context account context.tax "IVA factura ").toList
    else []

end Draft

/-! ## The transaction -/

structure BridgeCall where
  invoiceId : Nat
  input : PostMerchantInvoiceToGlDto
  user : AuthUser
  policy : Option String

inductive BridgeLock where
  | ledger (lock : LedgerLock)
  | invoice (id : Nat)
  deriving DecidableEq

inductive BridgeTask where
  | ledger (task : LedgerTask)
  | postInvoiceToGl (call : BridgeCall)

inductive BridgePoint where
  /-- Any other transaction of the ledger. -/
  | ledger (p : LedgerPoint)
  /-- The row of the invoice is locked, to be read. -/
  | locked (call : BridgeCall)
  /-- It names no document. -/
  | revalidating (call : BridgeCall) (invoice : MerchantInvoice)
  /-- A document of its origin is to be looked up. -/
  | searching (call : BridgeCall) (invoice : MerchantInvoice) (context : SaleContext)
  /-- One was found, and is locked. -/
  | adopting (call : BridgeCall) (invoice : MerchantInvoice) (orphan : AccountingDocument)
  /-- None was: one is drafted. -/
  | drafting (call : BridgeCall) (invoice : MerchantInvoice) (p : LedgerPoint)

def BridgePoint.locks : BridgePoint → List BridgeLock
  | .ledger p => p.locks.map .ledger
  | .locked call | .revalidating call _ | .searching call _ _ => [.invoice call.invoiceId]
  | .adopting call _ orphan => [.invoice call.invoiceId, .ledger (.document orphan.id)]
  | .drafting call _ p => .invoice call.invoiceId :: p.locks.map .ledger

inductive MerchantInvoiceAccountingOutcome where
  | draftCreated
  | existingDocumentReturned
  | orphanDocumentLinked
  deriving DecidableEq

structure MerchantInvoiceAccountingDraftResult where
  merchantInvoiceId : Nat
  accountingDocumentId : Nat
  accountingDocumentStatus : DocumentStatus
  journalPostingStatus : DocumentStatus
  postedToLedger : Bool
  outcome : MerchantInvoiceAccountingOutcome
  /-- The document that is left to be posted. -/
  nextStep : Option Nat
  deriving DecidableEq

section Steps

variable (db : BridgeDb)

/-- The oldest document of the origin that is not void. -/
def findActiveDocumentBySource (documents : Table AccountingDocument) (sourceId : Text) : Option AccountingDocument :=
  (documents.rowsWhere fun d => d.sourceSystem = MERCHANT_INVOICE_SOURCE.sourceSystem ∧
    d.sourceType = MERCHANT_INVOICE_SOURCE.sourceType ∧ d.sourceId = sourceId ∧ d.status ≠ .void).head?

def getDocument (id : Nat) : Except HttpError AccountingDocument :=
  orFail (db.ledger.documents.find? id)
    (missing "ACCOUNTING_DOCUMENT_NOT_FOUND" "El documento contable no existe.")

def assertSameLegalEntity (documentLegalEntityId requested : Nat) : Except HttpError Unit :=
  failIf (documentLegalEntityId ≠ requested) (conflict "MERCHANT_INVOICE_LINKED_TO_OTHER_LEGAL_ENTITY"
    "La factura ya tiene documento contable en otra entidad legal.")

def describe (invoiceId documentId : Nat) (outcome : MerchantInvoiceAccountingOutcome) :
    Except HttpError MerchantInvoiceAccountingDraftResult := do
  let document ← getDocument db documentId
  return {
    merchantInvoiceId := invoiceId
    accountingDocumentId := documentId
    accountingDocumentStatus := document.status
    journalPostingStatus := document.journal.postingStatus
    postedToLedger := document.status = .posted ∧ document.journal.postingStatus = .posted
    outcome
    nextStep := if document.status = .draft then some documentId else none }

def existingDocument (call : BridgeCall) (documentId : Nat) : Except HttpError MerchantInvoiceAccountingDraftResult := do
  let document ← getDocument db documentId
  assertCanAccessLegalEntity call.user document.legalEntityId
  assertSameLegalEntity document.legalEntityId call.input.legalEntityId
  describe db call.invoiceId documentId .existingDocumentReturned

/-- `uq_merchant_invoices_accounting_document`. -/
def namedDocuments (i : BridgedInvoice) : List Nat := i.accountingDocumentId.toList

def BridgedInvoice.naming (documentId : Nat) (i : BridgedInvoice) : BridgedInvoice :=
  { i with accountingDocumentId := some documentId }

def BridgeDb.link (invoiceId documentId : Nat) : BridgeDb :=
  { db with invoices := db.invoices.updateWhere (·.invoice.id = invoiceId) (.naming documentId) }

/-- `invoice.update({ accountingDocumentId })`. -/
def linkInvoice (invoiceId documentId : Nat) : Except HttpError BridgeDb := do
  failIf (db.invoices.conflicts namedDocuments (some invoiceId) [documentId]) (raised "unique constraint")
  return db.link invoiceId documentId

/-- What the transaction reads of its invoice. -/
def readInvoice (call : BridgeCall) : Except HttpError (Option BridgePoint) := do
  let row ← orFail (db.invoices.find? call.invoiceId)
    (missing "MERCHANT_INVOICE_NOT_FOUND" "Factura merchant no encontrada.")
  match row.accountingDocumentId with
  | some documentId => do
    let _ ← existingDocument db call documentId
    return none
  | none => return some (.revalidating call row.invoice)

/-- The document of the origin is linked, or one is drafted. -/
def searchOrphan (call : BridgeCall) (invoice : MerchantInvoice) (context : SaleContext) :
    Except HttpError BridgePoint :=
  match findActiveDocumentBySource db.ledger.documents (decimalText invoice.id) with
  | some orphan => do
    assertCanAccessLegalEntity call.user orphan.legalEntityId
    assertSameLegalEntity orphan.legalEntityId call.input.legalEntityId
    return .adopting call invoice orphan
  | none => do
    let d ← beginDraft (buildDraft invoice call.input context) call.user .serverGenerated call.policy .keep
    return .drafting call invoice (.numbering d)

def commitAdoption (invoice : MerchantInvoice) (orphan : AccountingDocument) : Except HttpError BridgeDb := do
  let linked ← linkInvoice db invoice.id orphan.id
  let _ ← describe linked invoice.id orphan.id .orphanDocumentLinked
  return linked

/-- The document and its link are committed together. -/
def commitSale (invoice : MerchantInvoice) (row : AccountingDocument) : Except HttpError BridgeDb := do
  let ledger ← commitNew db.ledger row
  let linked ← linkInvoice { db with ledger } invoice.id db.ledger.documents.nextKey
  let _ ← describe linked invoice.id db.ledger.documents.nextKey .draftCreated
  return linked

/-- A step of the ledger. -/
def ledgerStep (answer : LedgerAnswer) (p : LedgerPoint) (wrap : LedgerPoint → BridgePoint) :
    BridgeDb × Option BridgePoint :=
  let (ledger, q) := p.next db.ledger answer
  ({ db with ledger }, q.map wrap)

/-- A read that goes on, unless an error ends the transaction. -/
def readOn (read : Except HttpError (Option BridgePoint)) : BridgeDb × Option BridgePoint :=
  (db, read.toOption.join)

/-- A commit, unless an error undoes the transaction. -/
def writeOut (write : Except HttpError BridgeDb) : BridgeDb × Option BridgePoint := (write.toOption.getD db, none)

def BridgePoint.step (answer : LedgerAnswer) : BridgePoint → BridgeDb × Option BridgePoint
  | .ledger p => ledgerStep db answer p .ledger
  | .locked call => readOn db (readInvoice db call)
  | .revalidating call invoice =>
    readOn db ((revalidateInvoice db.facts invoice call.input).map fun context => some (.searching call invoice context))
  | .searching call invoice context => readOn db ((searchOrphan db call invoice context).map some)
  | .adopting _ invoice orphan => writeOut db (commitAdoption db invoice orphan)
  | .drafting _ invoice (.keeping row) => writeOut db (commitSale db invoice row)
  | .drafting call invoice p => ledgerStep db answer p (.drafting call invoice)

def BridgeTask.start : BridgeTask → Option BridgePoint
  | .ledger task => (task.start db.ledger).toOption.map .ledger
  | .postInvoiceToGl call =>
    (assertCanAccessLegalEntity call.user call.input.legalEntityId).toOption.map fun _ => .locked call

end Steps

/-- What others do: an invoice is issued, its status changes, and so does what the bridge only reads. -/
inductive BridgeEvent where
  | ledger (event : LedgerEvent)
  | issue (invoice : MerchantInvoice)
  | setStatus (invoiceId : Nat) (status : InvoiceStatus)
  | inform (facts : InvoiceFacts)

def BridgedInvoice.withStatus (status : InvoiceStatus) (i : BridgedInvoice) : BridgedInvoice :=
  { i with invoice := { i.invoice with status } }

def BridgeEvent.apply (db : BridgeDb) : BridgeEvent → BridgeDb
  | .ledger event => { db with ledger := event.apply db.ledger }
  | .issue invoice => { db with invoices := db.invoices.create fun id => ⟨{ invoice with id }, none⟩ }
  | .setStatus invoiceId status =>
    { db with invoices := db.invoices.updateWhere (·.invoice.id = invoiceId) (BridgedInvoice.withStatus status) }
  | .inform facts => { db with facts }

/-- The transactions over the ledger and the invoices. -/
def bridgeWorkers : Workers BridgeDb BridgeTask LedgerAnswer BridgeEvent BridgeLock BridgePoint where
  start task db := task.start db
  holds := BridgePoint.locks
  next p answer db := some (p.step db answer)
  outside event db := some (event.apply db)

/-- Any interleaving, from a ledger without documents and invoices that name none. -/
def bridgeMachine : Machine (Sessions BridgeDb BridgePoint) (WorkerAct BridgeTask LedgerAnswer BridgeEvent) :=
  bridgeWorkers.machine fun db =>
    db.ledger.documents = Table.empty ∧ ∀ i ∈ db.invoices, i.accountingDocumentId = none

end AtlasErp
