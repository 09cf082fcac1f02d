import AtlasErp.Accounting.JournalLines
import AtlasErp.Lib.Table

/-! # Accounting documents

A document has one journal entry, and the entry its lines.  Who must approve it is decided when it is created.

- `evaluateApprovalPolicy`, `resolveApprovalForCreation`: the policy, from the facts of the server;
- `assertDocumentApprovedForPosting`, `assertCanDecide`: what an approval allows, and to whom;
- `assertDocumentCanBePosted`: the period, the ledger, the accounts and the dimensions of a document;
- `updateTriggers`: what the database refuses to change. -/

namespace AtlasErp

open Lib

/-- A request that is not as it should be, with a code. -/
def invalidRequest (code message : String) : HttpError := ⟨.badRequest, some code, message⟩

/-- A row that is not there, with a code. -/
def missing (code message : String) : HttpError := ⟨.notFound, some code, message⟩

/-- `RAISE EXCEPTION`, or a constraint of a table. -/
def raised (message : String) : HttpError := ⟨.internalServerError, none, message⟩

/-! ## Who acts -/

/-- What the token says. -/
structure AuthUser where
  sub : UserId
  isAdmin : Bool
  legalEntityIds : List Nat
  deriving DecidableEq

def assertCanAccessLegalEntity (user : AuthUser) (legalEntityId : Nat) : Except HttpError Unit :=
  if user.isAdmin then .ok ()
  else if user.legalEntityIds = [] then
    .error (forbidden "LEGAL_ENTITY_SCOPE_REQUIRED"
      "El token no incluye entidades legales autorizadas para esta operación.")
  else failIf (legalEntityId ∉ user.legalEntityIds)
    (forbidden "LEGAL_ENTITY_FORBIDDEN" "No tienes permiso para operar la entidad legal solicitada.")

/-! ## Approval -/

/-- Fixed by the code that creates the document, never by the body of a request. -/
inductive ApprovalOrigin where
  | manual
  | serverGenerated
  deriving DecidableEq

inductive DocumentApproval where
  | notRequired
  | pending
  | approved
  | rejected
  deriving DecidableEq

inductive ApprovalPolicyDecision where
  | required (policyRef reason : String)
  | notRequired (policyRef reason : String)
  | unavailable (reason : String)
  deriving DecidableEq

def APPROVAL_POLICY_IDS : List String := ["ALL_MANUAL_REQUIRE_APPROVAL"]

def ALL_MANUAL_POLICY_REF : String := "ALL_MANUAL_REQUIRE_APPROVAL@1"

def SERVER_GENERATED_POLICY_REF : String := "SERVER_GENERATED_DOCUMENT@1"

def isKnownApprovalPolicy (value : Option String) : Bool := value.getD "" ∈ APPROVAL_POLICY_IDS

def evaluateApprovalPolicy (origin : ApprovalOrigin) (configuredPolicy : Option String) : ApprovalPolicyDecision :=
  if origin = .serverGenerated then
    .notRequired SERVER_GENERATED_POLICY_REF "Documento generado por el servidor a partir de un hecho de negocio."
  else
    match configuredPolicy with
    | none => .unavailable "No hay política de aprobación configurada (DEC-10 sin decidir)."
    | some policy =>
      if policy = "" then .unavailable "No hay política de aprobación configurada (DEC-10 sin decidir)."
      else if isKnownApprovalPolicy (some policy) = false then
        .unavailable ("La política de aprobación configurada no existe: " ++ policy ++ ".")
      else .required ALL_MANUAL_POLICY_REF "Todo documento contable manual requiere la aprobación de otra persona."

structure ResolvedApproval where
  approvalStatus : DocumentApproval
  approvalPolicyRef : String
  reason : String
  deriving DecidableEq

/-- A declaration of the client that contradicts the server is refused. -/
def withRequested (requested : Option DocumentApproval) (approval : ResolvedApproval) :
    Except HttpError ResolvedApproval := do
  failIf (∃ status ∈ requested, status ≠ approval.approvalStatus)
    (unprocessable "ACCOUNTING_DOCUMENT_APPROVAL_STATUS_CONTRADICTS_POLICY"
      "El estado de aprobación lo decide el servidor y no coincide con el solicitado. Omite el campo approvalStatus.")
  return approval

def resolveApprovalForCreation (origin : ApprovalOrigin) (configuredPolicy : Option String)
    (requested : Option DocumentApproval) : Except HttpError ResolvedApproval :=
  match evaluateApprovalPolicy origin configuredPolicy with
  | .unavailable _ => .error (conflict "ACCOUNTING_APPROVAL_POLICY_UNAVAILABLE"
      "No se puede crear el documento: la política de aprobación contable no está definida.")
  | .required policyRef reason => withRequested requested ⟨.pending, policyRef, reason⟩
  | .notRequired policyRef reason => withRequested requested ⟨.notRequired, policyRef, reason⟩

def CLIENT_SETTABLE_APPROVAL_STATUSES : List DocumentApproval := [.notRequired, .pending]

def assertClientApprovalStatus (approvalStatus : Option DocumentApproval) : Except HttpError Unit :=
  failIf (∃ status ∈ approvalStatus, status ∉ CLIENT_SETTABLE_APPROVAL_STATUSES)
    (unprocessable "ACCOUNTING_DOCUMENT_APPROVAL_NOT_CLIENT_SETTABLE"
      "El estado de aprobación lo decide el servidor: al crear sólo se admite NOT_REQUIRED o PENDING.")

/-! ## Rows -/

inductive DocumentStatus where
  | draft
  | posted
  | reversed
  | void
  deriving DecidableEq

/-- A row of `journal_entry`, with its lines. -/
structure JournalEntry where
  journalNo : Text
  postingStatus : DocumentStatus
  postedAt : Option Instant
  postedBy : Option UserId
  hashSha256 : Option Text
  lines : List JournalLine
  deriving DecidableEq

/-- A row of `accounting_document`, with its only journal entry. -/
structure AccountingDocument where
  id : Nat
  legalEntityId : Nat
  sourceSystem : Text
  sourceType : Text
  sourceId : Text
  documentType : Text
  documentNo : Text
  documentDate : Day
  postingDate : Day
  accountingPeriodId : Nat
  ledgerId : Nat
  currencyCode : Text
  status : DocumentStatus
  approvalStatus : DocumentApproval
  approvalPolicyRef : Option String
  approvedBy : Option UserId
  approvedAt : Option Instant
  rejectedBy : Option UserId
  rejectedAt : Option Instant
  reversalOfId : Option Nat
  reversedById : Option Nat
  policySnapshotId : Option Nat
  createdBy : Option UserId
  journal : JournalEntry
  /-- Not a column: what the call that created the document declared. -/
  origin : ApprovalOrigin
  deriving DecidableEq

instance : HasKey AccountingDocument where
  key := AccountingDocument.id
  withKey id d := { d with id }
  key_withKey _ _ := rfl
  withKey_key _ := rfl

/-- A row under the id that the database gives it. -/
def AccountingDocument.stored (row : AccountingDocument) (id : Nat) : AccountingDocument := { row with id }

inductive CloseStatus where
  | open
  | closed
  | reopened
  deriving DecidableEq

structure AccountingPeriod where
  id : Nat
  fiscalYearId : Nat
  startDate : Day
  endDate : Day
  isOpen : Bool
  closeStatus : CloseStatus
  closedAt : Option Instant
  closedBy : Option UserId
  deriving DecidableEq

instance : HasKey AccountingPeriod where
  key := AccountingPeriod.id
  withKey id p := { p with id }
  key_withKey _ _ := rfl
  withKey_key _ := rfl

/-- Not `!period.isOpen || period.closeStatus !== 'OPEN'`. -/
def AccountingPeriod.takes (p : AccountingPeriod) : Bool := p.isOpen ∧ p.closeStatus = .open

structure FiscalYear where
  id : Nat
  legalEntityId : Nat
  deriving DecidableEq

/-- A row of `ledger`. -/
structure LedgerBook where
  id : Nat
  legalEntityId : Nat
  code : Text
  isActive : Bool
  isDefault : Bool
  deriving DecidableEq

structure GlAccount where
  id : Nat
  isActive : Bool
  isControlAccount : Bool
  requiresPartner : Bool
  requiresCostCenter : Bool
  requiresProfitCenter : Bool
  requiresTaxCode : Bool
  deriving DecidableEq

/-- A partner, a tax code, or a cost or profit center, which is of one legal entity. -/
structure DimensionRow where
  id : Nat
  isActive : Bool
  legalEntityId : Option Nat
  deriving DecidableEq

/-- The master data a document refers to. -/
structure FinancialStructure where
  fiscalYears : List FiscalYear
  ledgers : List LedgerBook
  glAccounts : List GlAccount
  businessPartners : List DimensionRow
  costCenters : List DimensionRow
  profitCenters : List DimensionRow
  taxCodes : List DimensionRow
  deriving DecidableEq

structure AccountingDb where
  master : FinancialStructure
  periods : Table AccountingPeriod
  documents : Table AccountingDocument
  deriving DecidableEq

/-! ## What an approval allows -/

/-- Publishing takes an exemption with its policy, or an approval with who gave it. -/
def assertDocumentApprovedForPosting (document : AccountingDocument) : Except HttpError Unit :=
  if document.approvalStatus = .notRequired ∧ document.approvalPolicyRef.any (· ≠ "") then .ok ()
  else if document.approvalStatus = .approved ∧ document.approvedBy.isSome then .ok ()
  else if document.approvalStatus = .notRequired then
    .error (conflict "ACCOUNTING_DOCUMENT_APPROVAL_POLICY_MISSING"
      ("El documento figura sin aprobación requerida pero no consta qué política lo eximió " ++
        "(documento anterior a la política de aprobación). Requiere regularización; no se publica."))
  else .error (conflict "ACCOUNTING_DOCUMENT_APPROVAL_REQUIRED"
    "El documento necesita aprobación antes de publicarse.")

def notPendingConflict : HttpError := conflict "ACCOUNTING_DOCUMENT_NOT_PENDING_APPROVAL"
  "Sólo se aprueba o rechaza un borrador pendiente de aprobación."

/-- A draft that waits for a decision. -/
def AccountingDocument.isPendingDraft (document : AccountingDocument) : Bool :=
  document.status = .draft ∧ document.approvalStatus = .pending

/-- Nobody decides on what they created, and only a draft that waits is decided. -/
def assertCanDecide (document : AccountingDocument) (actorId : UserId) : Except HttpError Unit := do
  failIf (document.createdBy = some actorId) (forbidden "ACCOUNTING_DOCUMENT_SELF_APPROVAL_FORBIDDEN"
    "Quien creó el documento no puede aprobarlo ni rechazarlo.")
  failIf (document.isPendingDraft = false) notPendingConflict

/-! ## Drafts -/

structure AccountingDraftInput where
  legalEntityId : Nat
  sourceSystem : Text
  sourceType : Text
  sourceId : Option Text
  documentType : Text
  documentNo : Option Text
  documentDate : Day
  postingDate : Option Day
  accountingPeriodId : Option Nat
  ledgerId : Option Nat
  currencyCode : Text
  approvalStatus : Option DocumentApproval
  lines : List DraftJournalLineInput

/-- The document with all that the system knew. -/
structure ResolvedAccountingDocument where
  input : AccountingDraftInput
  documentNo : Text
  sourceId : Text
  postingDate : Day
  accountingPeriodId : Nat
  ledgerId : Nat

section Reads

variable (db : AccountingDb)

/-- The default ledger of the legal entity, or its only active one. -/
def resolveLedgerId (legalEntityId : Nat) (provided : Option Nat) : Except HttpError Nat :=
  match provided with
  | some ledgerId => .ok ledgerId
  | none =>
    let activos := (db.master.ledgers.filter fun l => l.legalEntityId = legalEntityId ∧ l.isActive).mergeSort
      fun a b => a.code ≤ b.code
    match activos.find? (·.isDefault), activos with
    | some porDefecto, _ => .ok porDefecto.id
    | none, [unico] => .ok unico.id
    | none, activos => .error (invalidRequest "LEDGER_NOT_RESOLVED"
        (if activos = [] then
          "Esta empresa no tiene ningún libro contable activo. " ++
            "Créalo en Estructura financiera antes de registrar documentos."
        else
          "Esta empresa tiene más de un libro contable activo y ninguno marcado como predeterminado. " ++
            "Marca uno en Estructura financiera o indica cuál usar."))

/-- The open period the date of the document falls in. -/
def resolveOpenPeriodId (legalEntityId : Nat) (dia : Day) (provided : Option Nat) : Except HttpError Nat :=
  match provided with
  | some periodId => .ok periodId
  | none =>
    let anios := (db.master.fiscalYears.filter (·.legalEntityId = legalEntityId)).map (·.id)
    if anios = [] then .error (invalidRequest "ACCOUNTING_PERIOD_NOT_RESOLVED"
      ("Esta empresa no tiene ningún ejercicio fiscal creado, " ++
        "así que no hay período contable donde registrar el documento."))
    else
      let candidatos := (db.periods.rowsWhere fun p =>
        p.fiscalYearId ∈ anios ∧ p.startDate ≤ dia ∧ dia ≤ p.endDate).mergeSort fun a b => a.startDate ≤ b.startDate
      match candidatos.find? AccountingPeriod.takes with
      | some abierto => .ok abierto.id
      | none => .error (invalidRequest "ACCOUNTING_PERIOD_NOT_RESOLVED"
          (if candidatos = [] then
            "Ningún período contable de esta empresa cubre el " ++ dateText dia ++ ". Créalo en Estructura financiera."
          else
            "El período contable del " ++ dateText dia ++
              " está cerrado. Cámbiale la fecha al documento o reábrelo desde Cierre de períodos."))

def withResolvedDefaults (input : AccountingDraftInput) (documentNo : Text) :
    Except HttpError ResolvedAccountingDocument := do
  let postingDate := input.postingDate.getD input.documentDate
  let sourceId := input.sourceId.getD (input.sourceType ++ '-' :: documentNo)
  let accountingPeriodId ← resolveOpenPeriodId db input.legalEntityId postingDate input.accountingPeriodId
  let ledgerId ← resolveLedgerId db input.legalEntityId input.ledgerId
  return ⟨input, documentNo, sourceId, postingDate, accountingPeriodId, ledgerId⟩

/-! ## Validation -/

/-- `PeriodGuardService`. -/
def assertPeriodIsOpen (periodId : Nat) : Except HttpError AccountingPeriod := do
  let period ← orFail (db.periods.find? periodId)
    (missing "ACCOUNTING_PERIOD_NOT_FOUND" "El período contable no existe.")
  failIf (period.takes = false) (conflict "ACCOUNTING_PERIOD_CLOSED"
    "El período contable está cerrado y no permite contabilizaciones.")
  return period

def getFiscalYear (fiscalYearId : Nat) : Except HttpError FiscalYear :=
  orFail (db.master.fiscalYears.find? (·.id = fiscalYearId))
    (missing "FISCAL_YEAR_NOT_FOUND" "El año fiscal asociado al período no existe.")

def assertPeriodBelongsToLegalEntityAndIsOpen (periodId legalEntityId : Nat) (postingDate : Day) :
    Except HttpError AccountingPeriod := do
  let period ← assertPeriodIsOpen db periodId
  let fiscalYear ← getFiscalYear db period.fiscalYearId
  failIf (fiscalYear.legalEntityId ≠ legalEntityId) (conflict "PERIOD_LEGAL_ENTITY_MISMATCH"
    "El período contable no pertenece a la entidad legal del documento.")
  failIf (postingDate < period.startDate ∨ period.endDate < postingDate) (conflict "POSTING_DATE_OUTSIDE_PERIOD"
    "La fecha de contabilización no cae dentro del período contable informado.")
  return period

def assertLedgerBelongsToLegalEntity (ledgerId legalEntityId : Nat) : Except HttpError LedgerBook := do
  let ledger ← orFail (db.master.ledgers.find? (·.id = ledgerId))
    (missing "LEDGER_NOT_FOUND" "El ledger contable no existe.")
  failIf (ledger.legalEntityId ≠ legalEntityId) (conflict "LEDGER_LEGAL_ENTITY_MISMATCH"
    "El ledger no pertenece a la entidad legal del documento.")
  failIf (ledger.isActive = false) (conflict "LEDGER_NOT_ACTIVE" "El ledger informado no está activo.")
  return ledger

/-- What an account asks of the dimensions of a line. -/
def assertRequiredDimensions (account : GlAccount) (line : DraftJournalLineInput) (lineNumber : Nat) :
    Except HttpError Unit := do
  let requires (required : Bool) (dimension : Option Nat) (code what : String) : Except HttpError Unit :=
    failIf (required ∧ dimension = none) (invalidRequest code
      ("La línea " ++ toString lineNumber ++ " requiere " ++ what ++ " porque la cuenta lo exige."))
  requires account.requiresPartner line.partnerId "PARTNER_REQUIRED_FOR_GL_ACCOUNT" "contraparte"
  requires account.requiresCostCenter line.costCenterId "COST_CENTER_REQUIRED_FOR_GL_ACCOUNT" "centro de costo"
  requires account.requiresProfitCenter line.profitCenterId "PROFIT_CENTER_REQUIRED_FOR_GL_ACCOUNT" "profit center"
  requires account.requiresTaxCode line.taxCodeId "TAX_CODE_REQUIRED_FOR_GL_ACCOUNT" "código tributario"

def allowedSubledgerReferences : List Text :=
  ["AR_INVOICE", "AP_INVOICE", "RECEIPT", "SUPPLIER_PAYMENT", "LOAN", "ASSET", "PROVISION", "REVERSAL",
    "INTERCOMPANY"].map String.toList

def assertControlAccountHasSubledgerReference (input : AccountingDraftInput) (account : GlAccount)
    (line : DraftJournalLineInput) (lineNumber : Nat) : Except HttpError Unit :=
  if account.isControlAccount = false then .ok ()
  else do
    failIf (line.referenceType.all (· ∉ allowedSubledgerReferences))
      (invalidRequest "CONTROL_ACCOUNT_REQUIRES_SUBLEDGER_REFERENCE"
        ("La línea " ++ toString lineNumber ++
          " usa una cuenta de control y debe estar ligada a un submayor válido."))
    failIf (input.sourceSystem = "ACCOUNTING".toList ∧ input.sourceType ≠ "REVERSAL".toList)
      (invalidRequest "DIRECT_MANUAL_POSTING_TO_CONTROL_ACCOUNT_BLOCKED"
        "No se permite contabilizar manualmente cuentas de control; usa el submayor correspondiente.")

/-- A dimension of a line is active, and of the legal entity when it has one. -/
def assertDimensionExists (rows : List DimensionRow) (dimension : Option Nat) (legalEntityId : Nat)
    (notActive mismatch : HttpError) : Except HttpError Unit :=
  match dimension with
  | none => .ok ()
  | some id => do
    let row ← orFail (rows.find? fun row => row.id = id ∧ row.isActive) notActive
    failIf (∃ entity ∈ row.legalEntityId, entity ≠ legalEntityId) mismatch

def assertDimensionReferencesExist (line : DraftJournalLineInput) (lineNumber legalEntityId : Nat) :
    Except HttpError Unit := do
  let ofLine (code before after : String) : HttpError :=
    conflict code (before ++ " de la línea " ++ toString lineNumber ++ after)
  assertDimensionExists db.master.businessPartners line.partnerId legalEntityId
    (ofLine "LINE_PARTNER_NOT_ACTIVE" "La contraparte" " no existe o no está activa.")
    (ofLine "LINE_PARTNER_NOT_ACTIVE" "La contraparte" " no existe o no está activa.")
  assertDimensionExists db.master.costCenters line.costCenterId legalEntityId
    (ofLine "LINE_COST_CENTER_NOT_ACTIVE" "El centro de costo" " no existe o no está activo.")
    (ofLine "LINE_COST_CENTER_LEGAL_ENTITY_MISMATCH" "El centro de costo" " pertenece a otra entidad legal.")
  assertDimensionExists db.master.profitCenters line.profitCenterId legalEntityId
    (ofLine "LINE_PROFIT_CENTER_NOT_ACTIVE" "El profit center" " no existe o no está activo.")
    (ofLine "LINE_PROFIT_CENTER_LEGAL_ENTITY_MISMATCH" "El profit center" " pertenece a otra entidad legal.")
  assertDimensionExists db.master.taxCodes line.taxCodeId legalEntityId
    (ofLine "LINE_TAX_CODE_NOT_ACTIVE" "El código tributario" " no existe o no está activo.")
    (ofLine "LINE_TAX_CODE_NOT_ACTIVE" "El código tributario" " no existe o no está activo.")

def assertLineUsesValidAccountAndDimensions (input : AccountingDraftInput) (line : DraftJournalLineInput)
    (lineNumber : Nat) : Except HttpError Unit := do
  let account ← orFail (db.master.glAccounts.find? (·.id = line.glAccountId))
    (missing "GL_ACCOUNT_NOT_FOUND" ("La cuenta contable de la línea " ++ toString lineNumber ++ " no existe."))
  failIf (account.isActive = false) (conflict "GL_ACCOUNT_NOT_ACTIVE"
    ("La cuenta contable de la línea " ++ toString lineNumber ++ " no está activa."))
  assertRequiredDimensions account line lineNumber
  assertControlAccountHasSubledgerReference input account line lineNumber
  assertDimensionReferencesExist db line lineNumber input.legalEntityId

def assertDocumentCanBePosted (document : ResolvedAccountingDocument) : Except HttpError Unit := do
  let _ ← assertPeriodBelongsToLegalEntityAndIsOpen db document.accountingPeriodId document.input.legalEntityId
    document.postingDate
  let _ ← assertLedgerBelongsToLegalEntity db document.ledgerId document.input.legalEntityId
  let _ ← document.input.lines.zipIdx.mapM fun line =>
    assertLineUsesValidAccountAndDimensions db document.input line.1 (line.2 + 1)

end Reads

/-! ## What the recorder writes -/

/-- The rows of a draft; the database gives its id. -/
def recordDraft (document : ResolvedAccountingDocument) (approval : ResolvedApproval) (origin : ApprovalOrigin)
    (policySnapshotId : Option Nat) (user : AuthUser) : Except HttpError AccountingDocument := do
  let lines ← document.input.lines.zipIdx.mapM fun line => recordLine line.2 line.1
  return {
    id := 0
    legalEntityId := document.input.legalEntityId
    sourceSystem := document.input.sourceSystem
    sourceType := document.input.sourceType
    sourceId := document.sourceId
    documentType := document.input.documentType
    documentNo := document.documentNo
    documentDate := document.input.documentDate
    postingDate := document.postingDate
    accountingPeriodId := document.accountingPeriodId
    ledgerId := document.ledgerId
    currencyCode := document.input.currencyCode
    status := .draft
    approvalStatus := approval.approvalStatus
    approvalPolicyRef := some approval.approvalPolicyRef
    approvedBy := none
    approvedAt := none
    rejectedBy := none
    rejectedAt := none
    reversalOfId := none
    reversedById := none
    policySnapshotId
    createdBy := some user.sub
    journal := ⟨document.documentNo ++ "-JRN".toList, .draft, none, none, none, lines⟩
    origin }

/-! ## What the database refuses -/

section Triggers

/-- The columns that a published document keeps. -/
def keepsPostedColumns (old new : AccountingDocument) : Bool :=
  new.legalEntityId = old.legalEntityId ∧ new.sourceSystem = old.sourceSystem ∧ new.sourceType = old.sourceType ∧
    new.sourceId = old.sourceId ∧ new.documentType = old.documentType ∧ new.documentNo = old.documentNo ∧
    new.documentDate = old.documentDate ∧ new.postingDate = old.postingDate ∧
    new.accountingPeriodId = old.accountingPeriodId ∧ new.ledgerId = old.ledgerId ∧
    new.currencyCode = old.currencyCode ∧ new.approvalStatus = old.approvalStatus ∧
    new.reversalOfId = old.reversalOfId ∧ new.policySnapshotId = old.policySnapshotId ∧ new.createdBy = old.createdBy

/-- The triggers on an update of a document: what was published, decided or exempted is not rewritten. -/
def updateTriggers (old new : AccountingDocument) : Except HttpError Unit := do
  failIf (old.status = .posted ∧
      ¬ (new.status = .reversed ∧ new.reversedById.isSome ∧ keepsPostedColumns old new = true))
    (raised "POSTED_ACCOUNTING_DOCUMENT_IS_IMMUTABLE")
  failIf ((old.approvedBy.isSome ∨ old.approvedAt.isSome) ∧
      (new.approvedBy ≠ old.approvedBy ∨ new.approvedAt ≠ old.approvedAt))
    (raised "ACCOUNTING_DOCUMENT_APPROVAL_IS_IMMUTABLE")
  failIf ((old.rejectedBy.isSome ∨ old.rejectedAt.isSome) ∧
      (new.rejectedBy ≠ old.rejectedBy ∨ new.rejectedAt ≠ old.rejectedAt))
    (raised "ACCOUNTING_DOCUMENT_APPROVAL_IS_IMMUTABLE")
  failIf (old.approvalPolicyRef.isSome ∧ new.approvalPolicyRef ≠ old.approvalPolicyRef)
    (raised "ACCOUNTING_DOCUMENT_APPROVAL_POLICY_REF_IS_IMMUTABLE")

/-- The trigger on an update of a journal: a published one may only become reversed. -/
def updateJournalTrigger (old new : JournalEntry) : Except HttpError Unit :=
  failIf (old.postingStatus = .posted ∧
      ¬ (new.postingStatus = .reversed ∧ new.journalNo = old.journalNo ∧ new.postedAt = old.postedAt ∧
        new.postedBy = old.postedBy ∧ new.hashSha256 = old.hashSha256))
    (raised "POSTED_JOURNAL_ENTRY_IS_IMMUTABLE")

variable (db : AccountingDb)

/-- The context of a row that is neither void nor reversed: an open period and an active ledger of its entity. -/
def assertDocumentContext (new : AccountingDocument) : Except HttpError Unit :=
  if new.status = .void ∨ new.status = .reversed then .ok ()
  else do
    let period ← orFail (db.periods.find? new.accountingPeriodId) (raised "ACCOUNTING_PERIOD_NOT_FOUND")
    let fiscalYear ← orFail (db.master.fiscalYears.find? (·.id = period.fiscalYearId))
      (raised "ACCOUNTING_PERIOD_NOT_FOUND")
    failIf (fiscalYear.legalEntityId ≠ new.legalEntityId) (raised "PERIOD_LEGAL_ENTITY_MISMATCH")
    failIf (new.postingDate < period.startDate ∨ period.endDate < new.postingDate)
      (raised "POSTING_DATE_OUTSIDE_PERIOD")
    failIf (period.takes = false) (raised "ACCOUNTING_PERIOD_CLOSED")
    let ledger ← orFail (db.master.ledgers.find? (·.id = new.ledgerId)) (raised "LEDGER_NOT_FOUND")
    failIf (ledger.legalEntityId ≠ new.legalEntityId) (raised "LEDGER_LEGAL_ENTITY_MISMATCH")
    failIf (ledger.isActive = false) (raised "LEDGER_NOT_ACTIVE")

/-- What a line needs of its account. -/
def assertJournalLineDimensions (line : JournalLine) : Except HttpError Unit := do
  let account ← orFail (db.master.glAccounts.find? (·.id = line.glAccountId)) (raised "GL_ACCOUNT_NOT_FOUND")
  failIf (account.isActive = false) (raised "GL_ACCOUNT_NOT_ACTIVE")
  failIf (account.requiresPartner ∧ line.partnerId = none) (raised "PARTNER_REQUIRED_FOR_GL_ACCOUNT")
  failIf (account.requiresCostCenter ∧ line.costCenterId = none) (raised "COST_CENTER_REQUIRED_FOR_GL_ACCOUNT")
  failIf (account.requiresProfitCenter ∧ line.profitCenterId = none) (raised "PROFIT_CENTER_REQUIRED_FOR_GL_ACCOUNT")
  failIf (account.requiresTaxCode ∧ line.taxCodeId = none) (raised "TAX_CODE_REQUIRED_FOR_GL_ACCOUNT")
  failIf (account.isControlAccount ∧ line.referenceType.getD [] ∉ allowedSubledgerReferences)
    (raised "CONTROL_ACCOUNT_REQUIRES_SUBLEDGER_REFERENCE")

/-- The triggers on the rows of a new document. -/
def insertTriggers (new : AccountingDocument) : Except HttpError Unit := do
  assertDocumentContext db new
  let _ ← new.journal.lines.mapM (assertJournalLineDimensions db)

/-- The deferred trigger on the lines of a journal. -/
def assertJournalBalanced (journal : JournalEntry) : Except HttpError Unit :=
  failIf ((journal.lines.map (·.debit)).sum ≠ (journal.lines.map (·.credit)).sum) (raised "UNBALANCED_JOURNAL")

end Triggers

/-! ## Unique indexes -/

/-- `UNIQUE (legal_entity_id, document_no)`. -/
def documentNumbers (d : AccountingDocument) : List (Nat × Text) := [(d.legalEntityId, d.documentNo)]

/-- `UNIQUE (source_system, source_type, source_id, ledger_id)`. -/
def sourceKeys (d : AccountingDocument) : List (Text × Text × Text × Nat) :=
  [(d.sourceSystem, d.sourceType, d.sourceId, d.ledgerId)]

/-- `uq_accounting_document_single_reversal`. -/
def activeReversals (d : AccountingDocument) : List Nat :=
  if d.status = .void then [] else d.reversalOfId.toList

/-- `uq_accounting_document_merchant_invoice_origin`. -/
def merchantInvoiceOrigins (d : AccountingDocument) : List Text :=
  if d.sourceSystem = "CRM".toList ∧ d.sourceType = "MERCHANT_INVOICE".toList ∧ d.status ≠ .void then [d.sourceId]
  else []

/-- A row that would be there twice in a unique index. -/
def violatesUnique (documents : Table AccountingDocument) (new : AccountingDocument) : Bool :=
  documents.conflicts documentNumbers none (documentNumbers new) ||
    documents.conflicts sourceKeys none (sourceKeys new) ||
    documents.conflicts activeReversals none (activeReversals new) ||
    documents.conflicts merchantInvoiceOrigins none (merchantInvoiceOrigins new)

end AtlasErp
