import AtlasErp.Common.Numbers
import AtlasErp.Lib.Checked
import AtlasErp.Lib.Table

/-! # Commission rules and their exceptions

A commission rule (MDR) below the global minimum waits, inactive, for an approval, and the general rule
of a contract is projected to Core by `merchant.mdr.updated`.

- `createMdrRule`, `updateMdrRule`, `decideApproval`: the three requests, each alone;
- `publishMdrUpdatedForContractVersion`: what they write to the outbox;
- `createMdrRule_eq_ok`, `updateMdrRule_eq_ok`, `decideApproval_eq_ok`: what a request that succeeds
  found and wrote;
- `performMdr`: requests one after the other. -/

namespace AtlasErp

open Lib

/-! ## The tables -/

/-- `ApprovalStatus`. -/
inductive ApprovalStatus where
  | pending
  | approved
  | rejected
  deriving DecidableEq

/-- `ProposalStatus`. -/
inductive ProposalStatus where
  | draft
  | pendingApproval
  | sent
  | accepted
  | rejected
  deriving DecidableEq

/-- `ContractStatus`. -/
inductive B2BContractStatus where
  | draft
  | pendingSignature
  | active
  | expired
  | terminated
  | suspended
  deriving DecidableEq

/-- What the rules read of an account. -/
structure LinkedAccount where
  id : Nat
  /-- The profile of Core it is linked to. -/
  partnerProfileId : Option String
  deriving DecidableEq

/-- What the rules read of a contract. -/
structure B2BContract where
  id : Nat
  accountId : Nat
  status : B2BContractStatus
  deriving DecidableEq

structure B2BContractVersion where
  id : Nat
  contractId : Nat
  deriving DecidableEq

/-- A row of `mdr_rules`. -/
structure MdrRule where
  id : Nat
  contractVersionId : Nat
  productCategory : Option String
  branchId : Option Nat
  riskSegment : Option String
  /-- `numeric(9,6)`: millionths of a percentage point. -/
  ratePercent : Int
  /-- `numeric(18,2)`, as is the ceiling. -/
  minFeeAmount : Option Int
  maxFeeAmount : Option Int
  isActive : Bool
  deriving DecidableEq

/-- The reason of a request, a text. -/
inductive ApprovalReason where
  /-- `Regla MDR al {ratePercent} % (mínimo {minimum} %). {reason}`. -/
  | mdrException (ratePercent minimum : JsNumber) (reason : String)
  | text (reason : String)
  deriving DecidableEq

def MDR_BELOW_MINIMUM_APPROVAL : String := "MDR_BELOW_MINIMUM"

/-- A row of `approval_requests`. -/
structure ApprovalRequest where
  id : Nat
  proposalId : Option Nat
  contractVersionId : Option Nat
  mdrRuleId : Option Nat
  requestedByUserId : UserId
  approvalType : String
  reason : ApprovalReason
  status : ApprovalStatus
  approvedByUserId : Option UserId
  decidedAt : Option Instant
  deriving DecidableEq

/-- What a decision reads and writes of a proposal. -/
structure CommercialProposal where
  id : Nat
  status : ProposalStatus
  rejectedAt : Option Instant
  deriving DecidableEq

/-- An event `merchant.mdr.updated` of the outbox, in the order of its aggregate. -/
structure MdrUpdatedEvent where
  /-- The account. -/
  aggregateId : Nat
  /-- The parts of `mdr-updated-{account}-{rule}-{occurredAt}`. -/
  eventKey : Nat × Nat × Instant
  partnerProfileId : String
  mdrRatePercent : String
  effectiveAt : Instant
  deriving DecidableEq

instance : HasKey LinkedAccount := ⟨(·.id), fun k r => { r with id := k }, fun _ _ => rfl, fun _ => rfl⟩
instance : HasKey B2BContract := ⟨(·.id), fun k r => { r with id := k }, fun _ _ => rfl, fun _ => rfl⟩
instance : HasKey B2BContractVersion := ⟨(·.id), fun k r => { r with id := k }, fun _ _ => rfl, fun _ => rfl⟩
instance : HasKey MdrRule := ⟨(·.id), fun k r => { r with id := k }, fun _ _ => rfl, fun _ => rfl⟩
instance : HasKey ApprovalRequest := ⟨(·.id), fun k r => { r with id := k }, fun _ _ => rfl, fun _ => rfl⟩
instance : HasKey CommercialProposal := ⟨(·.id), fun k r => { r with id := k }, fun _ _ => rfl, fun _ => rfl⟩

structure MdrDb where
  accounts : Table LinkedAccount
  contracts : Table B2BContract
  contractVersions : Table B2BContractVersion
  mdrRules : Table MdrRule
  approvalRequests : Table ApprovalRequest
  proposals : Table CommercialProposal
  outbox : List MdrUpdatedEvent
  /-- History, not a table: the rate each exception was asked for.  The code keeps it in the reason,
  which the decision overwrites. -/
  asked : List (Nat × JsNumber)
  deriving DecidableEq

/-! ## Requests -/

/-- A rate that passed `z.number().min(0).max(100)`. -/
abbrev RateInput := { rate : JsNumber // 0 ≤ rate ∧ rate ≤ 100 }

/-- A fee that passed `z.number().min(0)`. -/
abbrev FeeInput := { fee : JsNumber // 0 ≤ fee }

/-- A body that passed `createMdrRuleSchema`. -/
structure CreateMdrRuleDto where
  contractVersionId : Nat
  ratePercent : RateInput
  productCategory : Option String
  branchId : Option Nat
  riskSegment : Option String
  minFeeAmount : Option FeeInput
  maxFeeAmount : Option FeeInput
  pricingExceptionReason : Option String
  deriving DecidableEq

/-- A body that passed `updateMdrRuleSchema`: a fee may be left as it is, or set to none. -/
structure UpdateMdrRuleDto where
  ratePercent : Option RateInput
  minFeeAmount : Option (Option FeeInput)
  maxFeeAmount : Option (Option FeeInput)
  isActive : Option Bool
  pricingExceptionReason : Option String
  someField : ratePercent.isSome ∨ minFeeAmount.isSome ∨ maxFeeAmount.isSome ∨ isActive.isSome
  deriving DecidableEq

/-- A body that passed `decideApprovalSchema`. -/
structure DecideApprovalDto where
  status : ApprovalStatus
  reason : String
  decided : status = .approved ∨ status = .rejected
  deriving DecidableEq

/-- What the three requests share: the minimum of the environment. -/
structure MdrConfig where
  DEFAULT_MIN_MDR_RATE_PERCENT : JsNumber
  deriving DecidableEq

/-- What the surroundings decide: the clock, and which row a `findOne` without order returns. -/
structure MdrSurroundings where
  now : Instant
  row : Nat
  deriving DecidableEq

/-- The answer of both requests on a rule. -/
structure MdrRuleView where
  id : Nat
  ratePercent : JsNumber
  isActive : Bool
  approvalRequestId : Option Nat
  deriving DecidableEq

structure ApprovalView where
  id : Nat
  proposalId : Option Nat
  status : ApprovalStatus
  approvedByUserId : Option UserId
  decidedAt : Option Instant
  deriving DecidableEq

def MDR_RULE_EXCEPTION_REQUIRED : String :=
  "La regla tiene una comisión menor al mínimo y requiere justificación de excepción."

/-! ## What is projected to Core -/

/-- A rule for every sale: it names no branch, category or segment. -/
def MdrRule.isGeneral (r : MdrRule) : Bool :=
  r.branchId = none ∧ r.productCategory = none ∧ r.riskSegment = none

/-- The general rules in force in a contract version. -/
def MdrDb.generalRules (db : MdrDb) (contractVersionId : Nat) : List MdrRule :=
  db.mdrRules.rowsWhere fun r => r.contractVersionId = contractVersionId ∧ r.isActive ∧ r.isGeneral

/-- The account of a contract version. -/
def MdrDb.accountOf (db : MdrDb) (contractVersionId : Nat) : Option LinkedAccount := do
  let version ← db.contractVersions.find? contractVersionId
  let contract ← db.contracts.find? version.contractId
  db.accounts.find? contract.accountId

/-- The event of an account and one of the general rules. -/
def mdrUpdatedEvent (account : LinkedAccount) (partnerProfileId : String) (generalRule : MdrRule)
    (occurredAt : Instant) : MdrUpdatedEvent where
  aggregateId := account.id
  eventKey := (account.id, generalRule.id, occurredAt)
  partnerProfileId
  mdrRatePercent := toFixed2 (numberOf 6 generalRule.ratePercent)
  effectiveAt := occurredAt

/-- The reads of a publication.  Nothing is published for an account that is not linked, nor without a
general rule in force. -/
def mdrToPublish (db : MdrDb) (contractVersionId : Nat) (surroundings : MdrSurroundings) :
    Option MdrUpdatedEvent := do
  let account ← db.accountOf contractVersionId
  let partnerProfileId ← account.partnerProfileId
  let generalRules := db.generalRules contractVersionId
  let generalRule ← generalRules[surroundings.row % generalRules.length]?
  return mdrUpdatedEvent account partnerProfileId generalRule surroundings.now

/-- The insert into the outbox, whose event key is unique. -/
def insertMdrEvent (db : MdrDb) (event : MdrUpdatedEvent) : Except HttpError MdrDb := do
  failIf (db.outbox.any (·.eventKey = event.eventKey) = true)
    ⟨.internalServerError, none, "event_outbox_event_key_key"⟩
  return { db with outbox := db.outbox ++ [event] }

def publishMdrUpdatedForContractVersion (db : MdrDb) (contractVersionId : Nat)
    (surroundings : MdrSurroundings) : Except HttpError MdrDb :=
  match mdrToPublish db contractVersionId surroundings with
  | some event => insertMdrEvent db event
  | none => .ok db

/-! ## Creating and editing rules -/

section Rules

variable (config : MdrConfig)

/-- Strictly below, as for proposals. -/
def isBelowMdrMinimum (ratePercent : JsNumber) : Bool :=
  ratePercent < config.DEFAULT_MIN_MDR_RATE_PERCENT

/-- Without a floor or without a ceiling there is nothing to compare. -/
def assertFeeFloorNotAboveCeiling (floor ceiling : Option JsNumber) : Except HttpError Unit :=
  match floor, ceiling with
  | some floor, some ceiling =>
    failIf (floor > ceiling) (conflictText "El piso de la comisión no puede superar su techo.")
  | _, _ => .ok ()

/-- The row of a request, hung from the rule. -/
def mdrExceptionRequest (ruleId contractVersionId : Nat) (ratePercent : JsNumber) (reason : String)
    (user : UserId) (id : Nat) : ApprovalRequest where
  id
  proposalId := none
  contractVersionId := some contractVersionId
  mdrRuleId := some ruleId
  requestedByUserId := user
  approvalType := MDR_BELOW_MINIMUM_APPROVAL
  reason := .mdrException ratePercent config.DEFAULT_MIN_MDR_RATE_PERCENT reason
  status := .pending
  approvedByUserId := none
  decidedAt := none

/-- Insert the request of an exception. -/
def requestMdrException (ruleId contractVersionId : Nat) (ratePercent : JsNumber) (reason : String)
    (user : UserId) (db : MdrDb) : Nat × MdrDb :=
  let approvalId := db.approvalRequests.nextKey
  (approvalId,
    { db with
      approvalRequests := db.approvalRequests.create
        (mdrExceptionRequest config ruleId contractVersionId ratePercent reason user)
      asked := db.asked ++ [(approvalId, ratePercent)] })

/-- The row a body asks for: below the minimum it is born inactive. -/
def newMdrRule (input : CreateMdrRuleDto) (id : Nat) : MdrRule where
  id
  contractVersionId := input.contractVersionId
  productCategory := input.productCategory
  branchId := input.branchId
  riskSegment := input.riskSegment
  ratePercent := numericColumn 6 input.ratePercent
  minFeeAmount := input.minFeeAmount.map fun fee => numericColumn 2 fee.val
  maxFeeAmount := input.maxFeeAmount.map fun fee => numericColumn 2 fee.val
  isActive := !isBelowMdrMinimum config input.ratePercent

/-- The rule, and the exception it waits for. -/
def insertMdrRule (input : CreateMdrRuleDto) (user : UserId) (db : MdrDb) : MdrRuleView × MdrDb :=
  let ruleId := db.mdrRules.nextKey
  let regla := newMdrRule config input ruleId
  let db := { db with mdrRules := db.mdrRules.create (newMdrRule config input) }
  if isBelowMdrMinimum config input.ratePercent then
    let (approvalId, db) := requestMdrException config ruleId input.contractVersionId input.ratePercent
      (input.pricingExceptionReason.getD "") user db
    (⟨ruleId, numberOf 6 regla.ratePercent, regla.isActive, some approvalId⟩, db)
  else (⟨ruleId, numberOf 6 regla.ratePercent, regla.isActive, none⟩, db)

/-- The checks before the transaction of `createMdrRule`. -/
def checkNewMdrRule (db : MdrDb) (input : CreateMdrRuleDto) : Except HttpError Unit := do
  assertFeeFloorNotAboveCeiling (input.minFeeAmount.map (·.val)) (input.maxFeeAmount.map (·.val))
  let _ ← orFail (db.contractVersions.find? input.contractVersionId)
    (notFound "Versión contractual no encontrada.")
  failIf (isBelowMdrMinimum config input.ratePercent ∧ input.pricingExceptionReason = none)
    (badRequest MDR_RULE_EXCEPTION_REQUIRED)

def createMdrRule (db : MdrDb) (input : CreateMdrRuleDto) (user : UserId)
    (surroundings : MdrSurroundings) : Except HttpError (MdrRuleView × MdrDb) := do
  checkNewMdrRule config db input
  let (view, db) := insertMdrRule config input user db
  let db ← publishMdrUpdatedForContractVersion db input.contractVersionId surroundings
  return (view, db)

/-- The request a rule waits for. -/
def MdrDb.pendingFor (db : MdrDb) (ruleId : Nat) : Option ApprovalRequest :=
  db.approvalRequests.findBy fun a => a.mdrRuleId = some ruleId ∧ a.status = .pending

section Edit

variable (regla : MdrRule) (input : UpdateMdrRuleDto)

/-- An edit activates a rule that was read inactive. -/
def activates : Bool := input.isActive = some true ∧ regla.isActive = false

def resultingRate : JsNumber := (input.ratePercent.map (·.val)).getD (numberOf 6 regla.ratePercent)

def resultingActive : Bool := input.isActive.getD regla.isActive

def changesRate : Bool := resultingRate regla input ≠ numberOf 6 regla.ratePercent

/-- The rule would be active below the minimum because of this edit. -/
def needsException : Bool :=
  resultingActive regla input && isBelowMdrMinimum config (resultingRate regla input) &&
    (changesRate regla input || activates regla input)

/-- The fee a rule would have. -/
def resultingFee (stored : Option Int) (given : Option (Option FeeInput)) : Option JsNumber :=
  match given with
  | some fee => fee.map (·.val)
  | none => stored.map (numberOf 2)

/-- The checks of `updateMdrRule` on the row it read. -/
def checkMdrUpdate : Except HttpError Unit := do
  if input.minFeeAmount.isSome ∨ input.maxFeeAmount.isSome ∨ activates regla input then
    assertFeeFloorNotAboveCeiling (resultingFee regla.minFeeAmount input.minFeeAmount)
      (resultingFee regla.maxFeeAmount input.maxFeeAmount)
  failIf (needsException config regla input ∧ input.pricingExceptionReason = none)
    (badRequest MDR_RULE_EXCEPTION_REQUIRED)

/-- The columns an `UPDATE` writes. -/
structure MdrRuleColumns where
  ratePercent : Option Int
  minFeeAmount : Option (Option Int)
  maxFeeAmount : Option (Option Int)
  isActive : Option Bool
  deriving DecidableEq

/-- A fee is written unless it was and stays without value: a number never equals the text of a decimal
column. -/
def changedFee (stored : Option Int) (given : Option (Option FeeInput)) : Option (Option Int) :=
  match stored, given with
  | none, some none => none
  | _, given => given.map (·.map fun fee => numericColumn 2 fee.val)

/-- `regla.update({...})` writes the columns that differ from the row as it was read. -/
def changedColumns (isActive : Option Bool) : MdrRuleColumns where
  ratePercent := input.ratePercent.map fun rate => numericColumn 6 rate.val
  minFeeAmount := changedFee regla.minFeeAmount input.minFeeAmount
  maxFeeAmount := changedFee regla.maxFeeAmount input.maxFeeAmount
  isActive := isActive.filter (· ≠ regla.isActive)

/-- What an edit writes of its rule: an exception leaves it inactive. -/
def editedColumns : MdrRuleColumns :=
  changedColumns regla input (if needsException config regla input then some false else input.isActive)

def MdrRuleColumns.write (columns : MdrRuleColumns) (r : MdrRule) : MdrRule :=
  { r with
    ratePercent := columns.ratePercent.getD r.ratePercent
    minFeeAmount := columns.minFeeAmount.getD r.minFeeAmount
    maxFeeAmount := columns.maxFeeAmount.getD r.maxFeeAmount
    isActive := columns.isActive.getD r.isActive }

/-- The writes of an edit: the rule, and the exception it needs. -/
def editMdrRule (user : UserId) (db : MdrDb) : MdrRuleView × MdrDb :=
  let db := { db with
    mdrRules := db.mdrRules.updateWhere (·.id = regla.id) (editedColumns config regla input).write }
  if needsException config regla input then
    let (approvalId, db) := requestMdrException config regla.id regla.contractVersionId
      (resultingRate regla input) (input.pricingExceptionReason.getD "") user db
    (⟨regla.id, resultingRate regla input, false, some approvalId⟩, db)
  else (⟨regla.id, resultingRate regla input, resultingActive regla input, none⟩, db)

end Edit

def updateMdrRule (db : MdrDb) (ruleId : Nat) (input : UpdateMdrRuleDto) (user : UserId)
    (surroundings : MdrSurroundings) : Except HttpError (MdrRuleView × MdrDb) := do
  let regla ← orFail (db.mdrRules.find? ruleId) (notFound "Regla de comisión no encontrada.")
  failIf ((db.pendingFor regla.id).isSome = true) (conflictText
    "La regla espera la aprobación de una excepción de tarifa: no se modifica hasta que se decida.")
  checkMdrUpdate config regla input
  let (view, db) := editMdrRule config regla input user db
  if needsException config regla input then return (view, db)
  let db ← publishMdrUpdatedForContractVersion db regla.contractVersionId surroundings
  return (view, db)

end Rules

/-! ## Deciding exceptions -/

/-- Only a pending request is decided, and whoever asked does not approve. -/
def checkDecision (approval : ApprovalRequest) (input : DecideApprovalDto) (user : UserId) :
    Except HttpError Unit := do
  failIf (approval.status ≠ .pending) (conflictText "La solicitud de aprobación ya fue decidida.")
  failIf (input.status = .approved ∧ approval.requestedByUserId = user) (forbidden "FOUR_EYES_REQUIRED"
    "Quien pidió la aprobación no puede aprobarla: debe hacerlo otra persona.")

section Decision

variable (approval : ApprovalRequest) (input : DecideApprovalDto) (user : UserId) (now : Instant)

/-- A request once it is decided. -/
def decidedRequest (a : ApprovalRequest) : ApprovalRequest :=
  { a with
    status := input.status
    approvedByUserId := some user
    decidedAt := some now
    reason := .text input.reason }

def writeDecision (db : MdrDb) : MdrDb :=
  { db with
    approvalRequests := db.approvalRequests.updateWhere (·.id = approval.id) (decidedRequest input user now) }

def MdrRule.activated (r : MdrRule) : MdrRule := { r with isActive := true }

/-- What a decision opens or closes: the proposal or the rule of the request. -/
def applyDecision (db : MdrDb) : MdrDb :=
  let proposals :=
    match approval.proposalId, input.status with
    | some proposalId, .approved =>
      db.proposals.updateWhere (fun p => p.id = proposalId ∧ p.status = .pendingApproval) fun p =>
        { p with status := .draft }
    | some proposalId, .rejected =>
      db.proposals.updateWhere (·.id = proposalId) fun p =>
        { p with status := .rejected, rejectedAt := some now }
    | _, _ => db.proposals
  let mdrRules :=
    match approval.mdrRuleId, input.status with
    | some ruleId, .approved =>
      db.mdrRules.updateWhere (·.id = ruleId) MdrRule.activated
    | _, _ => db.mdrRules
  { db with proposals, mdrRules }

end Decision

def decideApproval (db : MdrDb) (approvalId : Nat) (input : DecideApprovalDto) (user : UserId)
    (now : Instant) : Except HttpError (ApprovalView × MdrDb) := do
  let approval ← orFail (db.approvalRequests.find? approvalId)
    (notFound "Solicitud de aprobación no encontrada.")
  checkDecision approval input user
  return (⟨approval.id, approval.proposalId, input.status, some user, some now⟩,
    applyDecision approval input now (writeDecision approval input user now db))

/-! ## What a success found and wrote -/

section Success

variable {config : MdrConfig} {db db' : MdrDb} {user : UserId} {surroundings : MdrSurroundings}

theorem insertMdrEvent_eq_ok {event : MdrUpdatedEvent} (h : insertMdrEvent db event = .ok db') :
    db' = { db with outbox := db.outbox ++ [event] } := by
  obtain ⟨-, h⟩ := failIf_bind_eq_ok.mp h
  exact (pure_eq_ok.mp h).symm

theorem createMdrRule_eq_ok {input : CreateMdrRuleDto} {view : MdrRuleView}
    (h : createMdrRule config db input user surroundings = .ok (view, db')) :
    checkNewMdrRule config db input = .ok () ∧
      publishMdrUpdatedForContractVersion (insertMdrRule config input user db).2 input.contractVersionId
        surroundings = .ok db' := by
  obtain ⟨u, hcheck, h⟩ := bind_eq_ok.mp h
  obtain ⟨published, hpublish, h⟩ := bind_eq_ok.mp h
  obtain ⟨-, rfl⟩ := Prod.mk.inj (pure_eq_ok.mp h)
  exact ⟨hcheck, hpublish⟩

/-- An edit publishes, unless it needs an exception. -/
theorem updateMdrRule_eq_ok {ruleId : Nat} {input : UpdateMdrRuleDto} {view : MdrRuleView}
    (h : updateMdrRule config db ruleId input user surroundings = .ok (view, db')) :
    ∃ regla, db.mdrRules.find? ruleId = some regla ∧ db.pendingFor regla.id = none ∧
      (needsException config regla input = true ∧ db' = (editMdrRule config regla input user db).2 ∨
        needsException config regla input = false ∧
          publishMdrUpdatedForContractVersion (editMdrRule config regla input user db).2
            regla.contractVersionId surroundings = .ok db') := by
  obtain ⟨regla, hfind, h⟩ := orFail_bind_eq_ok.mp h
  obtain ⟨hpending, h⟩ := failIf_bind_eq_ok.mp h
  obtain ⟨-, -, h⟩ := bind_eq_ok.mp h
  refine ⟨regla, hfind, by simpa using hpending, ?_⟩
  dsimp only at h
  split at h
  · rename_i hneeds
    obtain ⟨-, rfl⟩ := Prod.mk.inj (pure_eq_ok.mp h)
    exact .inl ⟨hneeds, rfl⟩
  · rename_i hneeds
    obtain ⟨published, hpublish, h⟩ := bind_eq_ok.mp h
    obtain ⟨-, rfl⟩ := Prod.mk.inj (pure_eq_ok.mp h)
    exact .inr ⟨Bool.eq_false_iff.mpr hneeds, hpublish⟩

theorem decideApproval_eq_ok {approvalId : Nat} {input : DecideApprovalDto} {now : Instant}
    {view : ApprovalView} (h : decideApproval db approvalId input user now = .ok (view, db')) :
    ∃ approval, db.approvalRequests.find? approvalId = some approval ∧
      checkDecision approval input user = .ok () ∧
      db' = applyDecision approval input now (writeDecision approval input user now db) := by
  obtain ⟨approval, hfind, h⟩ := orFail_bind_eq_ok.mp h
  obtain ⟨⟨⟩, hcheck, h⟩ := bind_eq_ok.mp h
  obtain ⟨-, rfl⟩ := Prod.mk.inj (pure_eq_ok.mp h)
  exact ⟨approval, hfind, hcheck, rfl⟩

end Success

/-! ## Requests, one after the other -/

/-- A request to one of the three operations, with its surroundings. -/
inductive MdrRequest where
  | createMdrRule (input : CreateMdrRuleDto) (user : UserId) (surroundings : MdrSurroundings)
  | updateMdrRule (ruleId : Nat) (input : UpdateMdrRuleDto) (user : UserId)
      (surroundings : MdrSurroundings)
  | decideApproval (approvalId : Nat) (input : DecideApprovalDto) (user : UserId) (now : Instant)
  deriving DecidableEq

/-- What a request commits: what is there, when it fails. -/
def performMdr (config : MdrConfig) (db : MdrDb) : MdrRequest → MdrDb
  | .createMdrRule input user surroundings => stateAfter db (createMdrRule config db input user surroundings)
  | .updateMdrRule ruleId input user surroundings =>
    stateAfter db (updateMdrRule config db ruleId input user surroundings)
  | .decideApproval approvalId input user now => stateAfter db (decideApproval db approvalId input user now)

/-! ## An account to try things on -/

section Examples

/-- The default minimum, 2.5 %. -/
def exampleMdrConfig : MdrConfig := ⟨5 / 2⟩

/-- A linked account with an active contract. -/
def exampleMdrDb : MdrDb where
  accounts := ⟨[⟨1, some "partner-1"⟩], by decide⟩
  contracts := ⟨[⟨1, 1, .active⟩], by decide⟩
  contractVersions := ⟨[⟨1, 1⟩], by decide⟩
  mdrRules := .empty
  approvalRequests := .empty
  proposals := .empty
  outbox := []
  asked := []

/-! Named once: the examples of several modules carry them. -/

theorem two_isRate : (0 : JsNumber) ≤ 2 ∧ (2 : JsNumber) ≤ 100 := by norm_num

theorem three_isRate : (0 : JsNumber) ≤ 3 ∧ (3 : JsNumber) ≤ 100 := by norm_num

theorem four_isRate : (0 : JsNumber) ≤ 4 ∧ (4 : JsNumber) ≤ 100 := by norm_num

theorem approved_isDecision : ApprovalStatus.approved = .approved ∨ ApprovalStatus.approved = .rejected := .inl rfl

/-- A general rule at a rate. -/
def exampleCreate (rate : RateInput) (reason : Option String) : CreateMdrRuleDto where
  contractVersionId := 1
  ratePercent := rate
  productCategory := none
  branchId := none
  riskSegment := none
  minFeeAmount := none
  maxFeeAmount := none
  pricingExceptionReason := reason

/-- Set the state of a rule. -/
def exampleActivate (isActive : Bool) : UpdateMdrRuleDto :=
  ⟨none, none, none, some isActive, none, by simp⟩

/-- Set the rate of a rule. -/
def exampleRate (rate : RateInput) (reason : Option String) : UpdateMdrRuleDto :=
  ⟨some rate, none, none, none, reason, by simp⟩

end Examples

end AtlasErp
