import AtlasErp.Common.DocumentNumbering
import AtlasErp.Merchants.Onboarding
import AtlasErp.Pricing.MdrSessions

/-! # Proposals and contracts of an opportunity

A proposal is created, sent, accepted or rejected, and an accepted one becomes a contract.  No request locks the
opportunity: each one reads what it checks without a lock, and writes later.

- `insertProposal`, `markSent`, `markAccepted`, `markRejected`, `applyProposalDecision`, `insertContract`: what the
  requests write;
- `checkSend`, `checkAccept`, `checkReject`, `checkContractFromProposal`: what they check;
- `dealProgram`: the requests as transactions that interleave statement by statement. -/

namespace AtlasErp

open Lib

/-! ## The tables -/

/-- `BillingTiming`. -/
inductive BillingTiming where
  | perTransaction
  | monthly
  | oneTime
  | onDemand
  deriving DecidableEq

/-- A row of `proposal_lines`; a rate in millionths, an amount in hundredths. -/
structure ProposalLine where
  termType : TermType
  description : String
  ratePercent : Option Int
  fixedAmount : Option Int
  currency : String
  billingTiming : BillingTiming
  minimumMonthlyAmount : Option Int
  deriving DecidableEq

/-- A row of `commercial_proposals`, with its lines. -/
structure DealProposal where
  id : Nat
  opportunityId : Nat
  accountId : Nat
  proposalNumber : Text
  status : ProposalStatus
  validUntil : Option Day
  totalEstimatedMonthlyRevenue : Option Int
  createdByUserId : UserId
  sentAt : Option Instant
  acceptedAt : Option Instant
  rejectedAt : Option Instant
  lines : List ProposalLine
  deriving DecidableEq

/-- A row of `b2b_contracts`. -/
structure DealContract extends AccountContract where
  contractNumber : Text
  startDate : Day
  endDate : Option Day
  billingCycle : String
  settlementPolicy : String
  deriving DecidableEq

/-- A row of `contract_versions`. -/
structure DealContractVersion where
  id : Nat
  contractId : Nat
  versionNumber : Nat
  validFrom : Day
  validTo : Option Day
  isDraft : Bool
  documentUrl : Option String
  deriving DecidableEq

/-- A row of `commercial_terms`. -/
structure DealTerm extends CommercialTerm where
  description : String
  fixedAmount : Option Int
  currency : String
  billingTiming : BillingTiming
  deriving DecidableEq

instance : HasKey DealProposal := ⟨(·.id), fun k r => { r with id := k }, fun _ _ => rfl, fun _ => rfl⟩
instance : HasKey DealContract := ⟨(·.id), fun k r => { r with id := k }, fun _ _ => rfl, fun _ => rfl⟩
instance : HasKey DealContractVersion := ⟨(·.id), fun k r => { r with id := k }, fun _ _ => rfl, fun _ => rfl⟩

structure DealDb where
  opportunities : Table AccountOpportunity
  proposals : Table DealProposal
  approvalRequests : Table ApprovalRequest
  contracts : Table DealContract
  contractVersions : Table DealContractVersion
  commercialTerms : List DealTerm
  deriving DecidableEq

/-! ## Requests -/

/-- A line that passed `proposalLineSchema`. -/
structure ProposalLineDto where
  termType : TermType
  description : String
  ratePercent : Option RateInput
  fixedAmount : Option JsNumber
  currency : String
  billingTiming : BillingTiming
  minimumMonthlyAmount : Option JsNumber
  priced : ratePercent.isSome ∨ fixedAmount.isSome
  deriving DecidableEq

/-- A body that passed `createProposalSchema`. -/
structure CreateProposalDto where
  opportunityId : Nat
  validUntil : Option Day
  totalEstimatedMonthlyRevenue : Option JsNumber
  pricingExceptionReason : Option String
  lines : List ProposalLineDto
  deriving DecidableEq

/-- A body that passed `createContractFromProposalSchema`. -/
structure CreateContractFromProposalDto where
  proposalId : Nat
  startDate : Day
  endDate : Option Day
  billingCycle : String
  settlementPolicy : String
  documentUrl : Option String
  deriving DecidableEq

/-- How a mail to one recipient ended. -/
inductive ProposalDeliveryStatus where
  | sent
  | simulated
  | failed
  deriving DecidableEq

/-- What the surroundings decide of a sending: the session that sends, and how the mail to each recipient ends.
Without a recipient nothing is sent. -/
structure SendSurroundings where
  atlasToken : Option String
  deliveries : List ProposalDeliveryStatus
  deriving DecidableEq

inductive DealRequest where
  | createProposal (input : CreateProposalDto) (user : UserId) (now : Instant)
  | send (proposalId : Nat) (surroundings : SendSurroundings) (now : Instant)
  | acceptProposal (proposalId : Nat) (now : Instant)
  | rejectProposal (proposalId : Nat) (now : Instant)
  | decideApproval (approvalId : Nat) (input : DecideApprovalDto) (user : UserId) (now : Instant)
  | createContractFromProposal (input : CreateContractFromProposalDto) (now : Instant)
  deriving DecidableEq

/-! ## What the requests check -/

section Checks

variable (config : MdrConfig)

/-- A line with a commission below the minimum. -/
def mdrBelowMinimum (input : CreateProposalDto) : Bool :=
  input.lines.any fun line =>
    line.termType = .mdr ∧ line.ratePercent.any fun rate => isBelowMdrMinimum config rate

def checkNewProposal (input : CreateProposalDto) : Except HttpError Unit :=
  failIf (mdrBelowMinimum config input = true ∧ input.pricingExceptionReason = none)
    (badRequest "La propuesta tiene MDR menor al mínimo y requiere justificación de excepción.")

/-- `ENVIABLES`; no status of the enumeration is `APPROVED`. -/
def enviable (status : ProposalStatus) : Bool := status = .draft ∨ status = .sent

def checkSend (proposal : DealProposal) : Except HttpError Unit :=
  failIf (enviable proposal.status = false) (conflictText "Solo se envía una propuesta en borrador o ya enviada.")

/-- A request of the proposal that waits. -/
def DealDb.pendingApproval (db : DealDb) (proposalId : Nat) : Option ApprovalRequest :=
  db.approvalRequests.findBy fun a => a.proposalId = some proposalId ∧ a.status = .pending

def checkAccept (proposal : DealProposal) : Except HttpError Unit :=
  failIf (proposal.status ≠ .sent) (conflictText "Solo una propuesta enviada puede aceptarse.")

/-- `existingAcceptedProposal`: another proposal of the opportunity, accepted. -/
def DealDb.existingAcceptedProposal (db : DealDb) (proposal : DealProposal) : Option DealProposal :=
  db.proposals.findBy fun p => p.opportunityId = proposal.opportunityId ∧ p.status = .accepted ∧ p.id ≠ proposal.id

def checkReject (proposal : DealProposal) : Except HttpError Unit :=
  failIf (proposal.status = .accepted ∨ proposal.status = .rejected)
    (conflictText "Solo una propuesta en borrador, pendiente de aprobacion o enviada puede rechazarse.")

def checkContractFromProposal (proposal : DealProposal) : Except HttpError Unit :=
  failIf (proposal.status ≠ .accepted) (conflictText "Solo una propuesta aceptada puede convertirse en contrato.")

/-- `existingContract`: a contract of the opportunity that is not terminated. -/
def DealDb.existingContract (db : DealDb) (opportunityId : Nat) : Option DealContract :=
  db.contracts.findBy fun c => c.opportunityId = some opportunityId ∧ c.status ≠ .terminated

end Checks

/-! ## What the requests write -/

section Writes

variable (config : MdrConfig)

/-- The series of the proposals. -/
def proposalSeries (now : Instant) : DocumentNumberRequest where
  seriesPrefix := "PROP".toList
  table := "atlas_sales.commercial_proposals".toList
  column := "proposal_number".toList
  date := .instant now
  scope := none
  padding := none

/-- The series of the contracts, by the day of the start. -/
def contractSeries (input : CreateContractFromProposalDto) : DocumentNumberRequest where
  seriesPrefix := "CTR".toList
  table := "atlas_sales.b2b_contracts".toList
  column := "contract_number".toList
  date := .text (dateText input.startDate).toList
  scope := none
  padding := none

def DealDb.proposalNumbers (db : DealDb) (r : DocumentNumberRequest) : List IssuedNumber :=
  db.proposals.rows.map fun p => ⟨r.table, r.column, none, p.proposalNumber⟩

def DealDb.contractNumbers (db : DealDb) (r : DocumentNumberRequest) : List IssuedNumber :=
  db.contracts.rows.map fun c => ⟨r.table, r.column, none, c.contractNumber⟩

def ProposalLineDto.row (line : ProposalLineDto) : ProposalLine where
  termType := line.termType
  description := line.description
  ratePercent := line.ratePercent.map fun rate => numericColumn 6 rate
  fixedAmount := line.fixedAmount.map (numericColumn 2)
  currency := line.currency
  billingTiming := line.billingTiming
  minimumMonthlyAmount := line.minimumMonthlyAmount.map (numericColumn 2)

/-- The proposal: below the minimum it waits for its approval. -/
def newProposal (opportunity : AccountOpportunity) (number : Text) (input : CreateProposalDto) (user : UserId)
    (id : Nat) : DealProposal where
  id
  opportunityId := opportunity.id
  accountId := opportunity.accountId
  proposalNumber := number
  status := if mdrBelowMinimum config input then .pendingApproval else .draft
  validUntil := input.validUntil
  totalEstimatedMonthlyRevenue := input.totalEstimatedMonthlyRevenue.map (numericColumn 2)
  createdByUserId := user
  sentAt := none
  acceptedAt := none
  rejectedAt := none
  lines := input.lines.map (·.row)

/-- The request of a proposal below the minimum. -/
def proposalExceptionRequest (proposalId : Nat) (input : CreateProposalDto) (user : UserId) (id : Nat) :
    ApprovalRequest where
  id
  proposalId := some proposalId
  contractVersionId := none
  mdrRuleId := none
  requestedByUserId := user
  approvalType := MDR_BELOW_MINIMUM_APPROVAL
  reason := .text (input.pricingExceptionReason.getD "MDR menor al mínimo configurado.")
  status := .pending
  approvedByUserId := none
  decidedAt := none

/-- `opportunities.update({ stage }, …)`. -/
def DealDb.moveOpportunity (db : DealDb) (opportunityId : Nat) (stage : OpportunityStage) : DealDb :=
  { db with
    opportunities := db.opportunities.updateWhere (·.id = opportunityId) fun o => { o with stage := stage } }

/-- The proposal with its lines, its request if it needs one, and the stage of the opportunity. -/
def insertProposal (opportunity : AccountOpportunity) (number : Text) (input : CreateProposalDto) (user : UserId)
    (db : DealDb) : DealDb :=
  let proposalId := db.proposals.nextKey
  { db with
    proposals := db.proposals.create (newProposal config opportunity number input user)
    approvalRequests :=
      if mdrBelowMinimum config input then
        db.approvalRequests.create (proposalExceptionRequest proposalId input user)
      else db.approvalRequests }.moveOpportunity opportunity.id .proposal

/-- `update` of the proposal as it was read: the status is written when it was not `SENT`. -/
def markSent (copy : DealProposal) (now : Instant) (p : DealProposal) : DealProposal :=
  { p with status := if copy.status = .sent then p.status else .sent, sentAt := some now }

def markAccepted (now : Instant) (p : DealProposal) : DealProposal :=
  { p with status := .accepted, acceptedAt := some now }

def markRejected (now : Instant) (p : DealProposal) : DealProposal :=
  { p with status := .rejected, rejectedAt := some now }

/-- `UPDATE` of one proposal, by its id only. -/
def DealDb.updateProposal (db : DealDb) (proposalId : Nat) (f : DealProposal → DealProposal) : DealDb :=
  { db with proposals := db.proposals.updateWhere (·.id = proposalId) f }

/-- The decision on the request; a commission rule hangs from no proposal. -/
def DealDb.writeDecision (db : DealDb) (d : ApprovalDecision) : DealDb :=
  { db with
    approvalRequests :=
      db.approvalRequests.updateWhere (·.id = d.approval.id) (decidedRequest d.input d.user d.now) }

/-- Approved, a proposal that waits goes back to draft; rejected, it is rejected whatever its status. -/
def applyProposalDecision (d : ApprovalDecision) (db : DealDb) : DealDb :=
  match d.approval.proposalId, d.input.status with
  | some proposalId, .approved =>
    { db with
      proposals := db.proposals.updateWhere (fun p => p.id = proposalId ∧ p.status = .pendingApproval) fun p =>
        { p with status := .draft } }
  | some proposalId, .rejected => db.updateProposal proposalId (markRejected d.now)
  | _, _ => db

def newContract (proposal : DealProposal) (number : Text) (input : CreateContractFromProposalDto) (id : Nat) :
    DealContract where
  id
  accountId := proposal.accountId
  status := .pendingSignature
  opportunityId := some proposal.opportunityId
  contractNumber := number
  startDate := input.startDate
  endDate := input.endDate
  billingCycle := input.billingCycle
  settlementPolicy := input.settlementPolicy

def newContractVersion (contractId : Nat) (input : CreateContractFromProposalDto) (id : Nat) : DealContractVersion where
  id
  contractId
  versionNumber := 1
  validFrom := input.startDate
  validTo := input.endDate
  isDraft := true
  documentUrl := input.documentUrl

def ProposalLine.term (versionId : Nat) (line : ProposalLine) : DealTerm where
  contractVersionId := versionId
  termType := line.termType
  ratePercent := line.ratePercent
  description := line.description
  fixedAmount := line.fixedAmount
  currency := line.currency
  billingTiming := line.billingTiming

/-- `ck_commercial_term_value`. -/
def ProposalLine.hasValue (line : ProposalLine) : Bool := line.ratePercent.isSome || line.fixedAmount.isSome

/-- The contract, its first version and the terms of the lines of the proposal. -/
def insertContract (proposal : DealProposal) (number : Text) (input : CreateContractFromProposalDto) (db : DealDb) :
    DealDb :=
  { db with
    contracts := db.contracts.create (newContract proposal number input)
    contractVersions := db.contractVersions.create (newContractVersion db.contracts.nextKey input)
    commercialTerms := db.commercialTerms ++ proposal.lines.map (·.term db.contractVersions.nextKey) }

end Writes

/-! ## The transactions -/

/-- What the transactions lock: rows, and the series of a number. -/
inductive DealLock where
  | opportunity (id : Nat)
  | proposal (id : Nat)
  | approval (id : Nat)
  | series (key : Text)
  deriving DecidableEq

/-- How far a transaction got; `copy` is the proposal as it was read. -/
inductive DealPoint where
  | begun (request : DealRequest)
  | opportunityRead (opportunity : AccountOpportunity) (input : CreateProposalDto) (user : UserId) (now : Instant)
  | proposalNumbered (opportunity : AccountOpportunity) (number : Text) (input : CreateProposalDto) (user : UserId)
      (now : Instant)
  | proposalInserted (opportunity : AccountOpportunity) (number : Text) (input : CreateProposalDto) (user : UserId)
      (now : Instant)
  | sendRead (copy : DealProposal) (deliveries : List ProposalDeliveryStatus) (now : Instant)
  /-- Nothing waits: the mails go out. -/
  | sending (copy : DealProposal) (deliveries : List ProposalDeliveryStatus) (now : Instant)
  | sent (copy : DealProposal) (now : Instant)
  | acceptRead (copy : DealProposal) (now : Instant)
  | acceptChecked (copy : DealProposal) (now : Instant)
  | accepted (copy : DealProposal) (now : Instant)
  | contracting (copy : DealProposal) (now : Instant)
  | rejectRead (copy : DealProposal) (now : Instant)
  | rejected (copy : DealProposal) (now : Instant)
  | approvalRead (decision : ApprovalDecision)
  | approvalWritten (decision : ApprovalDecision)
  | applied (decision : ApprovalDecision)
  | contractRead (copy : DealProposal) (input : CreateContractFromProposalDto) (now : Instant)
  | contractChecked (copy : DealProposal) (input : CreateContractFromProposalDto) (now : Instant)
  | contractNumbered (copy : DealProposal) (number : Text) (input : CreateContractFromProposalDto) (now : Instant)
  | contractInserted (copy : DealProposal) (number : Text) (input : CreateContractFromProposalDto) (now : Instant)

namespace DealPoint

variable (config : MdrConfig)

def locks : DealPoint → List DealLock
  | .proposalNumbered _ _ _ _ now => [.series ((proposalSeries now).lockKey now)]
  | .proposalInserted opportunity _ _ _ now =>
    [.series ((proposalSeries now).lockKey now), .opportunity opportunity.id]
  | .sent copy _ | .accepted copy _ | .rejected copy _ => [.proposal copy.id]
  | .contracting copy _ => [.proposal copy.id, .opportunity copy.opportunityId]
  | .approvalWritten d => [.approval d.approval.id]
  | .applied d => .approval d.approval.id :: d.approval.proposalId.toList.map DealLock.proposal
  | .contractNumbered _ _ input now | .contractInserted _ _ input now => [.series ((contractSeries input).lockKey now)]
  | _ => []

def writes : DealPoint → DealDb → DealDb
  | .proposalInserted opportunity number input user _, db => insertProposal config opportunity number input user db
  | .sent copy now, db => db.updateProposal copy.id (markSent copy now)
  | .accepted copy now, db => db.updateProposal copy.id (markAccepted now)
  | .contracting copy now, db =>
    (db.updateProposal copy.id (markAccepted now)).moveOpportunity copy.opportunityId .contracting
  | .rejected copy now, db => db.updateProposal copy.id (markRejected now)
  | .approvalWritten d, db => db.writeDecision d
  | .applied d, db => applyProposalDecision d (db.writeDecision d)
  | .contractInserted copy number input _, db => insertContract copy number input db
  | _, db => db

/-- A check that passes leads on; one that fails ends the transaction. -/
def passing (check : Except HttpError Unit) (p : DealPoint) : Next DealPoint :=
  match check with
  | .ok () => .goto p
  | .error _ => .rollback

/-- The next statement, on what the transaction sees. -/
def next : DealPoint → DealDb → Next DealPoint
  | .begun (.createProposal input user now), db =>
    match db.opportunities.find? input.opportunityId with
    | some opportunity => passing (checkNewProposal config input) (.opportunityRead opportunity input user now)
    | none => .rollback
  | .opportunityRead opportunity input user now, db =>
    let r := proposalSeries now
    .goto (.proposalNumbered opportunity (nextDocumentNumber now r (db.proposalNumbers r)) input user now)
  | .proposalNumbered opportunity number input user now, _ =>
    .goto (.proposalInserted opportunity number input user now)
  | .begun (.send proposalId surroundings now), db =>
    match surroundings.atlasToken, db.proposals.find? proposalId with
    | some _, some copy => passing (checkSend copy) (.sendRead copy surroundings.deliveries now)
    | _, _ => .rollback
  | .sendRead copy deliveries now, db =>
    if (db.pendingApproval copy.id).isSome then .rollback else .goto (.sending copy deliveries now)
  | .sending copy deliveries now, _ =>
    if deliveries.all (· = .failed) then .rollback else .goto (.sent copy now)
  | .begun (.acceptProposal proposalId now), db =>
    match db.proposals.find? proposalId with
    | some copy => passing (checkAccept copy) (.acceptRead copy now)
    | none => .rollback
  | .acceptRead copy now, db =>
    if (db.existingAcceptedProposal copy).isSome then .rollback else .goto (.acceptChecked copy now)
  | .acceptChecked copy now, _ => .goto (.accepted copy now)
  | .accepted copy now, _ => .goto (.contracting copy now)
  | .begun (.rejectProposal proposalId now), db =>
    match db.proposals.find? proposalId with
    | some copy => passing (checkReject copy) (.rejectRead copy now)
    | none => .rollback
  | .rejectRead copy now, _ => .goto (.rejected copy now)
  | .begun (.decideApproval approvalId input user now), db =>
    match db.approvalRequests.find? approvalId with
    | some approval =>
      match h : checkDecision approval input user with
      | .ok () => .goto (.approvalRead ⟨approval, input, user, now, h⟩)
      | .error _ => .rollback
    | none => .rollback
  | .approvalRead d, _ => .goto (.approvalWritten d)
  | .approvalWritten d, _ => .goto (.applied d)
  | .begun (.createContractFromProposal input now), db =>
    match db.proposals.find? input.proposalId with
    | some copy => passing (checkContractFromProposal copy) (.contractRead copy input now)
    | none => .rollback
  | .contractRead copy input now, db =>
    if (db.existingContract copy.opportunityId).isSome then .rollback else .goto (.contractChecked copy input now)
  | .contractChecked copy input now, db =>
    let r := contractSeries input
    .goto (.contractNumbered copy (nextDocumentNumber now r (db.contractNumbers r)) input now)
  | .contractNumbered copy number input now, _ =>
    if copy.lines.all (·.hasValue) then .goto (.contractInserted copy number input now) else .rollback
  | .proposalInserted .., _ | .sent .., _ | .contracting .., _ | .rejected .., _ | .applied _, _
  | .contractInserted .., _ => .commit

end DealPoint

/-- The requests as transactions. -/
def dealProgram (config : MdrConfig) : Program DealDb DealRequest DealLock DealPoint where
  start := .begun
  locks := DealPoint.locks
  writes := DealPoint.writes config
  next := DealPoint.next config
  locks_start _ := rfl
  locks_next {p p' s} h k hk := by
    cases p <;> simp only [DealPoint.locks, List.not_mem_nil] at hk
    case proposalNumbered => cases h; exact List.mem_cons.mpr (.inl (List.mem_singleton.mp hk))
    case accepted => cases h; exact List.mem_cons.mpr (.inl (List.mem_singleton.mp hk))
    case approvalWritten => cases h; exact List.mem_cons.mpr (.inl (List.mem_singleton.mp hk))
    case contractNumbered =>
      simp only [DealPoint.next] at h
      split at h <;> cases h
      exact hk
    all_goals cases h

end AtlasErp
