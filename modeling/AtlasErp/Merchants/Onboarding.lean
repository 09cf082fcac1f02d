import AtlasErp.Merchants.Branches
import AtlasErp.Purchases.Register

/-! # Onboarding of a merchant: cases, checklists and decisions

The life of an onboarding case, and what its use cases read, check and write.

- `applyKybDecision`: what a decision of the engine writes in a case;
- `checkActivation`, `checkContract`: what an activation checks; `OnboardingDb.activated`: what it writes;
- `CaseColumns.changed`: `update` writes the columns that differ from the row as it was read. -/

namespace AtlasErp

open Lib

/-! ## The life of a case -/

/-- `ONBOARDING_CASE_STATUSES`. -/
inductive CaseStatus where
  | opened
  | inProgress
  | blocked
  | enVerificacion
  | revisionManual
  | rechazado
  | verificado
  | altaPendiente
  | listo
  | completed
  deriving DecidableEq

def CaseStatus.text : CaseStatus → String
  | .opened => "OPEN"
  | .inProgress => "IN_PROGRESS"
  | .blocked => "BLOCKED"
  | .enVerificacion => "EN_VERIFICACION"
  | .revisionManual => "REVISION_MANUAL"
  | .rechazado => "RECHAZADO"
  | .verificado => "VERIFICADO"
  | .altaPendiente => "ALTA_PENDIENTE"
  | .listo => "LISTO"
  | .completed => "COMPLETED"

/-- `KYB_OUTCOMES`. -/
inductive KybOutcome where
  | aprobado
  | rechazado
  | revisionManual
  deriving DecidableEq

def KybOutcome.text : KybOutcome → String
  | .aprobado => "APROBADO"
  | .rechazado => "RECHAZADO"
  | .revisionManual => "REVISION_MANUAL"

def ONBOARDING_TERMINAL_STATUS : CaseStatus := .completed

def ONBOARDING_OPEN_STATUSES : List CaseStatus :=
  [.opened, .inProgress, .blocked, .enVerificacion, .revisionManual, .rechazado, .verificado, .altaPendiente, .listo]

/-- The status of a case after an outcome. -/
def STATUS_FOR_KYB_OUTCOME : KybOutcome → CaseStatus
  | .aprobado => .verificado
  | .rechazado => .rechazado
  | .revisionManual => .revisionManual

def STATUSES_THAT_CAN_REQUEST_KYB : List CaseStatus := [.opened, .inProgress, .blocked, .rechazado, .enVerificacion]

/-- `text.trim().toUpperCase()`, within ASCII. -/
def normalizedText (text : String) : Text := (trim text.toList).map Char.toUpper

/-- An outcome that is not known is looked at by a person. -/
def normalizeKybOutcome (outcome : String) : KybOutcome :=
  if normalizedText outcome = "APROBADO".toList then .aprobado
  else if normalizedText outcome = "RECHAZADO".toList then .rechazado
  else .revisionManual

/-! ## The tables -/

/-- `AccountDossierFields`. -/
structure AccountDossier where
  commercialRegistry : Option String
  legalRepFullName : Option String
  legalRepDocumentType : Option String
  legalRepDocumentNumber : Option String
  powerOfAttorneyFileId : Option String
  address : Option String
  city : Option String
  bankQrFileId : Option String
  bankInstitutionCode : Option String
  bankAccountMasked : Option String
  deriving DecidableEq

/-- What onboarding reads of a B2B account. -/
structure OnboardingAccount extends MerchantAccount where
  taxId : Option String
  legalName : String
  businessDescription : Option String
  /-- Its profile in Atlas. -/
  partnerProfileId : Option String
  dossier : AccountDossier
  deriving DecidableEq

structure B2BContact where
  accountId : Nat
  email : Option String
  deriving DecidableEq

/-- `OpportunityStage`. -/
inductive OpportunityStage where
  | discovery
  | qualification
  | proposal
  | negotiation
  | contracting
  | closedWon
  | closedLost
  deriving DecidableEq

structure AccountOpportunity where
  id : Nat
  accountId : Nat
  stage : OpportunityStage
  deriving DecidableEq

structure AccountContract extends B2BContract where
  opportunityId : Option Nat
  deriving DecidableEq

/-- What the engine decided, as a case stores it. -/
structure CaseDecision where
  decisionOutcome : Option KybOutcome
  decisionReason : Option String
  decisionExecutionId : Option String
  decisionArtifactVersion : Option String
  manualReviewCaseCode : Option String
  decidedAt : Option Instant
  deriving DecidableEq

/-- A row of `merchant_onboarding_cases`. -/
structure OnboardingCase extends CaseDecision where
  id : Nat
  accountId : Nat
  status : CaseStatus
  completedAt : Option Instant
  /-- The contract agreed for the case; without one, the account's is used. -/
  contractVersionId : Option Nat
  identityAcknowledgedAt : Option Instant
  deriving DecidableEq

/-- `ChecklistStatus`. -/
inductive ChecklistStatus where
  | pending
  | completed
  | waived
  | blocked
  deriving DecidableEq

/-- A row of `onboarding_checklist_items`. -/
structure ChecklistItem where
  id : Nat
  onboardingCaseId : Nat
  itemType : String
  description : String
  status : ChecklistStatus
  completedByUserId : Option UserId
  evidenceStorageKey : Option String
  deriving DecidableEq

inductive MerchantUserStatus where
  | invited
  | active
  | disabled
  deriving DecidableEq

/-- A row of `merchant_users`. -/
structure MerchantUser where
  id : Nat
  accountId : Nat
  branchId : Option Nat
  /-- The identity that Atlas granted. -/
  userId : Option String
  email : String
  fullName : String
  roleCode : String
  status : MerchantUserStatus
  identityRequestId : Option String
  identityRejectionReason : Option String
  deriving DecidableEq

section Keys

instance : HasKey OnboardingAccount := ⟨(·.id), fun k a => { a with id := k }, fun _ _ => rfl, fun _ => rfl⟩
instance : HasKey AccountOpportunity := ⟨(·.id), fun k o => { o with id := k }, fun _ _ => rfl, fun _ => rfl⟩
instance : HasKey AccountContract := ⟨(·.id), fun k c => { c with id := k }, fun _ _ => rfl, fun _ => rfl⟩
instance : HasKey OnboardingCase := ⟨(·.id), fun k c => { c with id := k }, fun _ _ => rfl, fun _ => rfl⟩
instance : HasKey ChecklistItem := ⟨(·.id), fun k i => { i with id := k }, fun _ _ => rfl, fun _ => rfl⟩
instance : HasKey MerchantUser := ⟨(·.id), fun k u => { u with id := k }, fun _ _ => rfl, fun _ => rfl⟩

end Keys

structure OnboardingDb where
  accounts : Table OnboardingAccount
  contacts : List B2BContact
  opportunities : Table AccountOpportunity
  contracts : Table AccountContract
  contractVersions : Table CommercialVersion
  branches : Table MerchantBranch
  users : Table MerchantUser
  cases : Table OnboardingCase
  checklistItems : Table ChecklistItem

/-! ## Opening a case -/

section Opening

/-- What the dossier of a merchant needs. -/
inductive DossierRequirement where
  | commercialRegistry
  | legalRepresentative
  | powerOfAttorney
  | branch
  | bankQr
  deriving DecidableEq

/-- `DOSSIER_REQUIREMENT_LABELS`. -/
def DossierRequirement.label : DossierRequirement → String
  | .commercialRegistry => "la matrícula de comercio"
  | .legalRepresentative => "el representante legal (nombre y documento)"
  | .powerOfAttorney => "el poder notarial del representante"
  | .branch => "la casa matriz (dirección y ciudad)"
  | .bankQr => "el QR bancario de cobro (imagen, entidad y cuenta)"

/-- There is a value, and it is not blank. -/
def lleno (value : Option String) : Bool := value.any fun text => trim text.toList ≠ []

def faltantesDelExpediente (d : AccountDossier) : List DossierRequirement :=
  (if lleno d.commercialRegistry then [] else [.commercialRegistry]) ++
  (if lleno d.legalRepFullName ∧ lleno d.legalRepDocumentType ∧ lleno d.legalRepDocumentNumber then []
    else [.legalRepresentative]) ++
  (if lleno d.powerOfAttorneyFileId then [] else [.powerOfAttorney]) ++
  (if lleno d.address ∧ lleno d.city then [] else [.branch]) ++
  (if lleno d.bankQrFileId ∧ lleno d.bankInstitutionCode ∧ lleno d.bankAccountMasked then [] else [.bankQr])

def describirFaltantes (faltan : List DossierRequirement) : String :=
  match (faltan.map DossierRequirement.label).reverse with
  | [] => ""
  | [parte] => parte
  | ultima :: antes => ", ".intercalate antes.reverse ++ " y " ++ ultima

/-- `NIT_VALIDO`: 7 to 15 digits. -/
def nitValido (text : Text) : Bool := 7 ≤ text.length ∧ text.length ≤ 15 ∧ text.all Char.isDigit

/-- What the folder of a merchant needs of its account. -/
def faltantesDeLaCuenta (s : OnboardingDb) (account : OnboardingAccount) : List String :=
  let dossier := faltantesDelExpediente account.dossier
  (if nitValido (trim (account.taxId.getD "").toList) then []
    else ["el NIT (7 a 15 dígitos, sin puntos ni guiones)"]) ++
  (if (trim account.legalName.toList).length < 3 then ["la razón social"] else []) ++
  (if s.contacts.any fun c => c.accountId = account.id ∧ c.email.any (· ≠ "") then [] else ["un contacto con correo"]) ++
  (if dossier = [] then [] else [describirFaltantes dossier])

def assertAccountReadyForFolder (s : OnboardingDb) (account : OnboardingAccount) : Except HttpError Unit :=
  let faltan := faltantesDeLaCuenta s account
  failIf (faltan ≠ []) ⟨.unprocessableEntity, none,
    "No se puede abrir el onboarding: a la cuenta le falta " ++ " y ".intercalate faltan ++
      ". Sin eso el expediente del comercio nace incompleto. Complételo en la cuenta (Datos del expediente) y vuelva a intentarlo."⟩

/-- A body that passed `createOnboardingCaseSchema`: the type and the description of each item. -/
structure CreateOnboardingCaseDto where
  accountId : Nat
  checklistItems : List (String × String)
  someItem : checklistItems ≠ []
  deriving DecidableEq

/-- The checks of `openOnboardingCase`. -/
def checkOpening (s : OnboardingDb) (input : CreateOnboardingCaseDto) : Except HttpError Unit := do
  let account ← orFail (s.accounts.find? input.accountId) (notFound "Cuenta B2B no encontrada.")
  assertAccountReadyForFolder s account
  failIf ((s.opportunities.findBy fun o => o.accountId = input.accountId ∧ o.stage = .closedWon).isNone) (conflictText
    "Este comercio no tiene una oportunidad ganada: cierra la venta con contrato firmado antes de iniciar el onboarding.")
  failIf ((s.cases.findBy fun c => c.accountId = input.accountId ∧ c.status ∈ ONBOARDING_OPEN_STATUSES).isSome)
    (conflictText "La cuenta ya tiene un caso de onboarding abierto.")

/-- A case as it is opened. -/
def newCase (accountId id : Nat) : OnboardingCase where
  id
  accountId
  status := .opened
  completedAt := none
  contractVersionId := none
  identityAcknowledgedAt := none
  decisionOutcome := none
  decisionReason := none
  decisionExecutionId := none
  decisionArtifactVersion := none
  manualReviewCaseCode := none
  decidedAt := none

/-- An item as it is created. -/
def newItem (caseId : Nat) (item : String × String) (id : Nat) : ChecklistItem :=
  ⟨id, caseId, item.1, item.2, .pending, none, none⟩

/-- What `openOnboardingCase` commits. -/
def OnboardingDb.opened (s : OnboardingDb) (input : CreateOnboardingCaseDto) : OnboardingDb :=
  { s with
    cases := s.cases.create (newCase input.accountId)
    checklistItems := input.checklistItems.foldl (fun items item => items.create (newItem s.cases.nextKey item))
      s.checklistItems }

end Opening

/-! ## Writes -/

section Writes

/-- What `update` writes of a column: nothing when the row, as it was read, has the value. -/
def differing {α : Type} [DecidableEq α] (given : Option α) (stored : α) : Option α := given.filter (· ≠ stored)

/-- The columns of a case that a statement writes. -/
structure CaseColumns where
  status : Option CaseStatus := none
  completedAt : Option (Option Instant) := none
  contractVersionId : Option (Option Nat) := none
  identityAcknowledgedAt : Option (Option Instant) := none
  decisionOutcome : Option (Option KybOutcome) := none
  decisionReason : Option (Option String) := none
  decisionExecutionId : Option (Option String) := none
  decisionArtifactVersion : Option (Option String) := none
  manualReviewCaseCode : Option (Option String) := none
  decidedAt : Option (Option Instant) := none
  deriving DecidableEq

/-- `caseRecord.update(values)` writes the columns that differ from the row as it was read. -/
def CaseColumns.changed (values : CaseColumns) (c : OnboardingCase) : CaseColumns where
  status := differing values.status c.status
  completedAt := differing values.completedAt c.completedAt
  contractVersionId := differing values.contractVersionId c.contractVersionId
  identityAcknowledgedAt := differing values.identityAcknowledgedAt c.identityAcknowledgedAt
  decisionOutcome := differing values.decisionOutcome c.decisionOutcome
  decisionReason := differing values.decisionReason c.decisionReason
  decisionExecutionId := differing values.decisionExecutionId c.decisionExecutionId
  decisionArtifactVersion := differing values.decisionArtifactVersion c.decisionArtifactVersion
  manualReviewCaseCode := differing values.manualReviewCaseCode c.manualReviewCaseCode
  decidedAt := differing values.decidedAt c.decidedAt

def CaseColumns.write (columns : CaseColumns) (c : OnboardingCase) : OnboardingCase :=
  { c with
    status := columns.status.getD c.status
    completedAt := columns.completedAt.getD c.completedAt
    contractVersionId := columns.contractVersionId.getD c.contractVersionId
    identityAcknowledgedAt := columns.identityAcknowledgedAt.getD c.identityAcknowledgedAt
    decisionOutcome := columns.decisionOutcome.getD c.decisionOutcome
    decisionReason := columns.decisionReason.getD c.decisionReason
    decisionExecutionId := columns.decisionExecutionId.getD c.decisionExecutionId
    decisionArtifactVersion := columns.decisionArtifactVersion.getD c.decisionArtifactVersion
    manualReviewCaseCode := columns.manualReviewCaseCode.getD c.manualReviewCaseCode
    decidedAt := columns.decidedAt.getD c.decidedAt }

structure ItemColumns where
  status : Option ChecklistStatus
  completedByUserId : Option (Option UserId)
  deriving DecidableEq

def ItemColumns.changed (values : ItemColumns) (i : ChecklistItem) : ItemColumns :=
  ⟨differing values.status i.status, differing values.completedByUserId i.completedByUserId⟩

def ItemColumns.write (columns : ItemColumns) (i : ChecklistItem) : ChecklistItem :=
  { i with
    status := columns.status.getD i.status
    completedByUserId := columns.completedByUserId.getD i.completedByUserId }

structure UserColumns where
  status : MerchantUserStatus
  userId : Option (Option String)
  identityRejectionReason : Option (Option String)
  deriving DecidableEq

def UserColumns.write (columns : UserColumns) (u : MerchantUser) : MerchantUser :=
  { u with
    status := columns.status
    userId := columns.userId.getD u.userId
    identityRejectionReason := columns.identityRejectionReason.getD u.identityRejectionReason }

structure AccountColumns where
  lifecycleStatus : Option AccountLifecycleStatus
  businessDescription : Option (Option String)
  partnerProfileId : Option (Option String)
  deriving DecidableEq

def AccountColumns.changed (values : AccountColumns) (a : OnboardingAccount) : AccountColumns :=
  ⟨differing values.lifecycleStatus a.lifecycleStatus, differing values.businessDescription a.businessDescription,
    differing values.partnerProfileId a.partnerProfileId⟩

def AccountColumns.write (columns : AccountColumns) (a : OnboardingAccount) : OnboardingAccount :=
  { a with
    lifecycleStatus := columns.lifecycleStatus.getD a.lifecycleStatus
    businessDescription := columns.businessDescription.getD a.businessDescription
    partnerProfileId := columns.partnerProfileId.getD a.partnerProfileId }

end Writes

/-! ## The verification -/

section Kyb

/-- What Atlas publishes of a decision. -/
structure KybDecision where
  outcome : String
  reason : Option String
  executionId : Option String
  artifactVersionId : Option String
  manualReviewCaseCode : Option String
  evaluatedAt : Option Instant
  deriving DecidableEq

/-- The checks of `requestKybReview`. -/
def checkKybRequest (c : OnboardingCase) : Except HttpError Unit :=
  failIf (c.status ∉ STATUSES_THAT_CAN_REQUEST_KYB) (conflictText
    ("El caso está en " ++ c.status.text ++ ": la verificación ya se pidió o ya no aplica."))

/-- What a decision writes in a case; `none` when it changes nothing. -/
def applyKybDecision (c : OnboardingCase) (d : KybDecision) (now : Instant) : Option CaseColumns :=
  let outcome := normalizeKybOutcome d.outcome
  let siguiente := STATUS_FOR_KYB_OUTCOME outcome
  let mismo : Bool := c.decisionExecutionId = d.executionId ∧ c.decisionOutcome = some outcome ∧
    c.manualReviewCaseCode = d.manualReviewCaseCode
  let conservar : Bool := siguiente = .verificado ∧ c.status ∈ [CaseStatus.altaPendiente, .listo]
  if c.status = ONBOARDING_TERMINAL_STATUS ∨ mismo then none
  else some
    { decisionOutcome := some (some outcome)
      decisionReason := some (if outcome.text = d.outcome then d.reason
        else some ("DESENLACE_DESCONOCIDO:" ++ if d.outcome = "" then "vacio" else d.outcome))
      decisionExecutionId := some d.executionId
      decisionArtifactVersion := some d.artifactVersionId
      manualReviewCaseCode := some d.manualReviewCaseCode
      decidedAt := some (some (d.evaluatedAt.getD now))
      status := if conservar then none else some siguiente }

end Kyb

/-! ## The checklist -/

section Checklist

def EVIDENCE_REQUIRED_ITEM_TYPES : List String :=
  ["LEGAL", "NIT", "MATRICULA", "PODER", "KYB", "DOCUMENTO", "CONTRATO", "FISCAL"]

def requiresEvidence (itemType : String) : Bool :=
  EVIDENCE_REQUIRED_ITEM_TYPES.any fun required => required.toList = normalizedText itemType

/-- The checks of `completeChecklistItem`. -/
def checkCompletion (item : ChecklistItem) (status : ChecklistStatus) : Except HttpError Unit :=
  failIf (status = .completed ∧ requiresEvidence item.itemType ∧ item.evidenceStorageKey.all (· = "")) (conflictText
    ("REQUISITO_SIN_EVIDENCIA: el requisito «" ++ item.description ++ "» (" ++ item.itemType ++
      ") exige un archivo antes de marcarse completado; adjúntalo o exímelo."))

def ChecklistItem.done (item : ChecklistItem) : Bool := item.status = .completed ∨ item.status = .waived

end Checklist

/-! ## Access of the users of a merchant -/

section Access

/-- What Atlas says of a request of access. -/
structure ProvisioningRequest where
  status : String
  merchantUserId : Option String
  rejectionReason : Option String
  deriving DecidableEq

/-- What an answer about a request of access writes in the row of a user. -/
def applyProvisioningResult (u : MerchantUser) (request : ProvisioningRequest) : Option UserColumns :=
  if request.status = "provisioned" ∧ request.merchantUserId.any (· ≠ "") ∧ u.userId.all (· = "") then
    some ⟨.active, some request.merchantUserId, none⟩
  else if request.status = "rejected" ∧ u.status ≠ .disabled then
    some ⟨.disabled, none, some request.rejectionReason⟩
  else none

structure CredentialsSummary where
  pedidas : Nat
  pendientes : Nat
  concedidas : Nat
  rechazadas : Nat
  deriving DecidableEq

def summarizeCredentials (users : List MerchantUser) : CredentialsSummary :=
  let pedidas := users.filter (·.identityRequestId.isSome)
  { pedidas := pedidas.length
    concedidas := pedidas.countP (·.userId.any (· ≠ ""))
    pendientes := pedidas.countP fun u => u.userId.all (· = "") ∧ u.status = .invited
    rechazadas := pedidas.countP fun u => u.userId.all (· = "") ∧ u.status = .disabled }

/-- Every access that was asked for is decided, and one was granted. -/
def todasResueltas (summary : CredentialsSummary) : Bool :=
  0 < summary.pedidas ∧ summary.pendientes = 0 ∧ 0 < summary.concedidas

/-- A body that passed `createMerchantUserSchema`. -/
structure CreateMerchantUserDto where
  accountId : Nat
  branchId : Option Nat
  email : String
  fullName : String
  roleCode : String
  deriving DecidableEq

/-- The checks of `createMerchantUser`. -/
def checkNewUser (s : OnboardingDb) (input : CreateMerchantUserDto) : Except HttpError Unit := do
  let _ ← orFail (s.accounts.find? input.accountId) (notFound "Cuenta B2B no encontrada.")
  failIf (input.branchId.any fun id => (s.branches.findBy fun b => b.id = id ∧ b.accountId = input.accountId).isNone)
    (notFound "Sucursal no encontrada para la cuenta indicada.")
  failIf ((s.users.findBy fun u => u.accountId = input.accountId ∧ u.email = input.email).isSome)
    (conflictText "Ya existe un usuario comercio con ese email en la cuenta.")

def newUser (input : CreateMerchantUserDto) (identityRequestId : String) (id : Nat) : MerchantUser where
  id
  accountId := input.accountId
  branchId := input.branchId
  userId := none
  email := input.email
  fullName := input.fullName
  roleCode := input.roleCode
  status := .invited
  identityRequestId := some identityRequestId
  identityRejectionReason := none

/-- The cases that wait for credentials once they are asked for. -/
def OnboardingCase.awaitsCredentials (c : OnboardingCase) (accountId : Nat) : Bool :=
  c.accountId = accountId ∧ c.status ∈ [CaseStatus.opened, .inProgress, .verificado, .listo]

/-- What `createMerchantUser` commits, with the cases that its statement took; no two users of an account have
one email. -/
def OnboardingDb.provisioned (s : OnboardingDb) (input : CreateMerchantUserDto) (identityRequestId : String)
    (caseIds : List Nat) : Option OnboardingDb :=
  if (s.users.findBy fun u => u.accountId = input.accountId ∧ u.email.toLower = input.email.toLower).isSome then none
  else some { s with
    users := s.users.create (newUser input identityRequestId)
    cases := s.cases.updateWhere (fun c => c.id ∈ caseIds ∧ c.awaitsCredentials input.accountId)
      fun c => { c with status := .altaPendiente } }

end Access

/-! ## Contracts and activation -/

section Activation

variable (s : OnboardingDb)

/-- A version is active, its contract too, and it is in force. -/
def isContractVersionActivatable (version : CommercialVersion) (contract : Option AccountContract) (today : Day) : Bool :=
  version.status = .active ∧ contract.any (·.status = .active) ∧ version.validFrom ≤ today ∧
    version.validTo.all (today ≤ ·)

/-- The contract of a version, when it is of an account. -/
def OnboardingDb.contractOf (accountId : Nat) (version : CommercialVersion) : Option AccountContract :=
  (s.contracts.find? version.contractId).filter (·.accountId = accountId)

/-- `resolve`: the version agreed for a case, if it can be activated; without one, an active version of the
account. -/
def OnboardingDb.activationContract (c : OnboardingCase) (today : Day) : Option CommercialVersion :=
  match c.contractVersionId with
  | none => (s.contractVersions.findBy fun version =>
      isContractVersionActivatable version (s.contractOf c.accountId version) today)
  | some versionId => (s.contractVersions.find? versionId).filter fun version =>
      isContractVersionActivatable version (s.contractOf c.accountId version) today

def checkAssignable (c : OnboardingCase) : Except HttpError Unit :=
  failIf (c.status = ONBOARDING_TERMINAL_STATUS) (conflictText
    "El comercio ya está activado: el contrato del alta no se cambia sobre un expediente cerrado.")

/-- The checks of an activation on the case and its items. -/
def checkActivation (c : OnboardingCase) (items : List ChecklistItem) : Except HttpError Unit := do
  failIf (c.status = ONBOARDING_TERMINAL_STATUS) (conflictText
    "El comercio ya está activado: este caso es su expediente cerrado.")
  failIf (c.decisionOutcome ≠ some .aprobado) (conflictText (match c.decisionOutcome with
    | some outcome => "El Motor no aprobó este comercio (" ++ outcome.text ++ "): no se puede activar."
    | none => "Falta la verificación del Motor: pide la verificación del comercio antes de activarlo."))
  failIf (items = [] ∨ ∃ item ∈ items, item.done = false)
    (conflictText "No se puede activar comercio con checklist pendiente o bloqueado.")

/-- The check on the contract. -/
def checkContract (c : OnboardingCase) (today : Day) : Except HttpError Unit :=
  failIf ((s.activationContract c today).isNone) (conflictText
    (if c.contractVersionId.isSome then
      "El contrato pactado para este alta no está activo ni vigente: fírmalo y actívalo, o pacta otro."
    else "No se puede activar comercio sin contrato activo."))

/-- What an activation writes of the case. -/
def activationColumns (now : Instant) : CaseColumns :=
  { status := some .completed, completedAt := some (some now) }

/-- What `activateOnboardingCase` commits. -/
def OnboardingDb.activated (c : OnboardingCase) (now : Instant) : OnboardingDb :=
  { s with
    cases := s.cases.updateWhere (·.id = c.id) (activationColumns now).write
    accounts := s.accounts.updateWhere (·.id = c.accountId) fun a => { a with lifecycleStatus := .customer }
    branches := (s.branches.updateWhere (fun b => b.accountId = c.accountId ∧ b.status = .pending)
        fun b => { b with status := .active, activatedAt := some now }).updateWhere
      (fun b => b.accountId = c.accountId ∧ b.status = .active ∧ b.canOriginateBnpl = false ∧ b.bnplBlockedByAtlas = false)
      fun b => { b with canOriginateBnpl := true } }

end Activation

/-! ## The funnel before -/

section Funnel

/-- A body that passed `qualifyAccountSchema`. -/
structure QualifyAccountDto where
  hasCommercialFit : Bool
  businessDescription : Option String
  createOpportunity : Bool
  deriving DecidableEq

/-- The check of `qualifyAccount`. -/
def checkQualification (account : OnboardingAccount) (input : QualifyAccountDto) : Except HttpError Unit :=
  failIf (input.hasCommercialFit = true ∧ input.businessDescription = none ∧ lleno account.businessDescription = false)
    (badRequest "Para calificar la cuenta describe qué ofrece el negocio (mínimo 10 caracteres).")

/-- What `qualifyAccount` writes of the account it read. -/
def qualifiedColumns (account : OnboardingAccount) (input : QualifyAccountDto) : AccountColumns :=
  AccountColumns.changed
    { lifecycleStatus := some (if input.hasCommercialFit then .qualified else .disqualified)
      businessDescription := if input.hasCommercialFit then input.businessDescription.map some else none
      partnerProfileId := none } account

/-- What `qualifyAccount` commits. -/
def OnboardingDb.qualified (s : OnboardingDb) (account : OnboardingAccount) (input : QualifyAccountDto) : OnboardingDb :=
  { s with
    accounts := s.accounts.updateWhere (·.id = account.id) (qualifiedColumns account input).write
    opportunities := if input.hasCommercialFit ∧ input.createOpportunity then
        s.opportunities.create (⟨·, account.id, .discovery⟩)
      else s.opportunities }

/-- What the pipeline does with the opportunities and the contracts of an account. -/
inductive PipelineOperation where
  | createOpportunity (accountId : Nat)
  | moveOpportunity (opportunityId : Nat) (stage : OpportunityStage)
  | createContract (opportunityId : Nat) (startDate : Day) (endDate : Option Day)
  | signAndActivateContract (contractId : Nat)
  deriving DecidableEq

/-- One operation; `none` when its checks fail. -/
def pipeline (s : OnboardingDb) : PipelineOperation → Option OnboardingDb
  | .createOpportunity accountId =>
    (s.accounts.find? accountId).bind fun account =>
      if account.lifecycleStatus = .disqualified ∨ account.lifecycleStatus = .lead then none
      else some { s with opportunities := s.opportunities.create (⟨·, accountId, .discovery⟩) }
  | .moveOpportunity opportunityId stage =>
    -- an opportunity is won when its contract is signed
    if stage = .closedWon ∧ (s.contracts.findBy fun c => c.opportunityId = some opportunityId ∧ c.status = .active).isNone
    then none
    else some { s with
      opportunities := s.opportunities.updateWhere (·.id = opportunityId) fun o => { o with stage } }
  | .createContract opportunityId startDate endDate =>
    (s.opportunities.find? opportunityId).bind fun opportunity =>
      if (s.contracts.findBy fun c => c.opportunityId = some opportunityId ∧ c.status ≠ .terminated).isSome then none
      else some { s with
        contracts := s.contracts.create (⟨⟨·, opportunity.accountId, .pendingSignature⟩, some opportunityId⟩)
        contractVersions := s.contractVersions.create (⟨·, s.contracts.nextKey, .draft, startDate, endDate⟩) }
  | .signAndActivateContract contractId =>
    (s.contracts.find? contractId).bind fun contract =>
      if contract.status ≠ .pendingSignature then none
      else some { s with
        contracts := s.contracts.updateWhere (·.id = contractId) fun c => { c with status := .active }
        contractVersions := s.contractVersions.updateWhere (·.contractId = contractId) fun v => { v with status := .active }
        opportunities := s.opportunities.updateWhere (fun o => contract.opportunityId = some o.id)
          fun o => { o with stage := .closedWon } }

end Funnel

end AtlasErp
