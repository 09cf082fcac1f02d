import AtlasErp.Coverage.Scheduling

/-! # Settling a payable

The payable is paid to the merchant by an identified settlement that one person registers
(`markPayablePaid`) and another confirms or rejects.  Only the confirmation makes the payable PAID
and the installment COVERED_BY_ATLAS, and only there is the recovery against the consumer born.

- `markPayablePaid_cases`, `approvePayableSettlement_cases`, `rejectPayableSettlement_cases`: all
  that a successful call can do. -/

namespace AtlasErp

open Lib

/-! ## What is declared -/

/-- The body of the registration. -/
structure MarkPayablePaidDto where
  settlementReference : String
  amount : PositiveAmount
  currency : String
  beneficiaryAccountId : Nat
  paidAt : Instant
  evidenceFileId : Nat
  deriving DecidableEq

/-- Clock tolerance for a payment date declared as now: five minutes. -/
def clockSkewMs : Int := 5 * 60 * 1000

/-- Repeating the same registration is idempotent. -/
def isSameSettlement (row : MerchantPayableSettlement) (input : MarkPayablePaidDto) : Bool :=
  row.settlementReference = input.settlementReference ∧ row.amount = input.amount.val ∧
    row.currency = input.currency ∧ row.beneficiaryAccountId = input.beneficiaryAccountId ∧
    row.paidAt = input.paidAt ∧ row.evidenceFileId = input.evidenceFileId

/-- Why a declared settlement does not correspond to the payable; empty when it does. -/
def settlementMismatches (payable : MerchantPayable) (declared : MarkPayablePaidDto) (now : Instant)
    (evidenceStatus : Option FileStatus) : List String :=
  (if declared.amount.val ≠ payable.amount then
    ["importe " ++ fromMinorUnits declared.amount.val ++ " ≠ CxP " ++ fromMinorUnits payable.amount]
  else []) ++
  (if declared.currency ≠ payable.currency then
    ["moneda " ++ declared.currency ++ " ≠ CxP " ++ payable.currency]
  else []) ++
  (if declared.beneficiaryAccountId ≠ payable.accountId then
    ["el beneficiario no es el comercio de la CxP"]
  else []) ++
  (if declared.paidAt > now + clockSkewMs then ["la fecha de pago está en el futuro"] else []) ++
  (if evidenceStatus ≠ some .active then
    ["el archivo de evidencia no existe o no está activo"]
  else [])

/-- No mismatch: the settlement pays this payable, in full, to its merchant. -/
theorem settlementMismatches_eq_nil {payable : MerchantPayable} {declared : MarkPayablePaidDto}
    {now : Instant} {evidenceStatus : Option FileStatus} :
    settlementMismatches payable declared now evidenceStatus = [] ↔
      declared.amount.val = payable.amount ∧ declared.currency = payable.currency ∧
      declared.beneficiaryAccountId = payable.accountId ∧ declared.paidAt ≤ now + clockSkewMs ∧
      evidenceStatus = some .active := by
  simp [settlementMismatches]

/-! ## Registering -/

/-- What the three operations answer. -/
structure SettlementResult where
  outcome : SettlementStatus
  replayed : Bool
  payable : MerchantPayable
  settlement : MerchantPayableSettlement
  recovery : Option ConsumerRecovery
  deriving DecidableEq

namespace CoverageDb

variable (db : CoverageDb)

/-- The recovery born of a payable. -/
def recoveryOf (payableId : Nat) : Option ConsumerRecovery :=
  db.recoveries.findBy (·.merchantPayableId = payableId)

/-- The answer about a settlement that is already there. -/
def settlementResult (payable : MerchantPayable) (settlement : MerchantPayableSettlement)
    (replayed : Bool) : SettlementResult where
  outcome := settlement.status
  replayed := replayed
  payable := payable
  settlement := settlement
  recovery := if settlement.status = .confirmed then db.recoveryOf payable.id else none

/-- Status of a file of evidence, or nothing when it does not exist. -/
def findEvidenceFileStatus (fileId : Nat) : Option FileStatus := db.files.lookup fileId

end CoverageDb

section Register

variable (db : CoverageDb) (payableId : Nat) (input : MarkPayablePaidDto) (actor : CoverageActor)
  (now : Instant)

/-- The settlement, as it is registered. -/
def newSettlement (payable : MerchantPayable) (id : Nat) : MerchantPayableSettlement where
  id := id
  merchantPayableId := payable.id
  settlementReference := input.settlementReference
  amount := input.amount.val
  currency := input.currency
  beneficiaryAccountId := input.beneficiaryAccountId
  paidAt := input.paidAt
  evidenceFileId := input.evidenceFileId
  status := .pendingApproval
  registeredByUserId := actor.userId
  decidedByUserId := none
  decidedAt := none
  decisionNote := none

/-- Register the settlement of a payable.  It does not make the payable paid. -/
def markPayablePaid : Except HttpError (SettlementResult × CoverageDb) := do
  let payable ← db.lockPayable payableId
  match db.findLiveSettlement payable.id with
  | some live =>
    if isSameSettlement live input then return (db.settlementResult payable live true, db)
    else throw (conflict "SETTLEMENT_ALREADY_REGISTERED" ("La CxP ya tiene la liquidación " ++
      live.settlementReference ++ " (" ++ live.status.text ++ ")."))
  | none => do
    failIf (payable.status = .cancelled)
      (conflict "PAYABLE_CANCELLED" "No se puede pagar una CxP cancelada.")
    failIf (payable.status = .paid) (conflict "PAYABLE_ALREADY_PAID" "La CxP ya fue pagada.")
    let reused := db.settlements.findBy
      (fun s => s.settlementReference = input.settlementReference ∧ s.isLive)
    failIf reused.isSome
      (conflict "DUPLICATE_REFERENCE" "La referencia de liquidación ya liquidó otra CxP.")
    let problems := settlementMismatches payable input now
      (db.findEvidenceFileStatus input.evidenceFileId)
    failIf (problems ≠ []) (unprocessable "SETTLEMENT_MISMATCH"
      ("La liquidación no corresponde a la CxP: " ++ String.intercalate "; " problems ++ "."))
    let row := newSettlement input actor payable
    let settlement := row db.settlements.nextKey
    let db' := { db with
      settlements := db.settlements.create row
      actionLog := db.actionLog ++ [⟨"REGISTER_PAYABLE_SETTLEMENT", actor.userId, payable.id,
        settlement.id, [("settlementReference", some input.settlementReference),
          ("amount", some (fromMinorUnits input.amount.val))]⟩] }
    return (db'.settlementResult payable settlement false, db')

variable {db payableId input actor now}

/-- All that a successful `markPayablePaid` can do: repeat, or register the settlement of a payable
that has none standing. -/
theorem markPayablePaid_cases {result : SettlementResult} {db' : CoverageDb}
    (h : markPayablePaid db payableId input actor now = .ok (result, db')) :
    db' = db ∨ ∃ payable actionLog, db.payables.find? payableId = some payable ∧
      db.findLiveSettlement payable.id = none ∧
      payable.status ≠ .cancelled ∧ payable.status ≠ .paid ∧
      (∀ s ∈ db.settlements, s.isLive = true → s.settlementReference ≠ input.settlementReference) ∧
      settlementMismatches payable input now (db.findEvidenceFileStatus input.evidenceFileId) = [] ∧
      db' = { db with
        settlements := db.settlements.create (newSettlement input actor payable)
        actionLog } := by
  unfold markPayablePaid CoverageDb.lockPayable at h
  obtain ⟨payable, hfind, h⟩ := orFail_bind_eq_ok.mp h
  cases hlive : db.findLiveSettlement payable.id with
  | some live =>
    rw [hlive] at h
    dsimp only at h
    split at h
    · exact .inl (congrArg Prod.snd (pure_eq_ok.mp h)).symm
    · exact absurd h throw_ne_ok
  | none =>
    rw [hlive] at h
    obtain ⟨hcancelled, h⟩ := failIf_bind_eq_ok.mp h
    obtain ⟨hpaid, h⟩ := failIf_bind_eq_ok.mp h
    obtain ⟨hreused, h⟩ := failIf_bind_eq_ok.mp h
    obtain ⟨hproblems, h⟩ := failIf_bind_eq_ok.mp h
    refine .inr ⟨payable, _, hfind, hlive, hcancelled, hpaid, fun s hs hslive href => ?_,
      not_not.mp hproblems, (congrArg Prod.snd (pure_eq_ok.mp h)).symm⟩
    exact hreused (Table.findBy_isSome.mpr ⟨s, hs, by simp [href, hslive]⟩)

end Register

/-! ## Deciding -/

section Decide

variable (db : CoverageDb) (payableId : Nat) (note : Option String) (actor : CoverageActor)
  (now : Instant)

/-- The settlement, decided. -/
def MerchantPayableSettlement.decide (settlement : MerchantPayableSettlement)
    (status : SettlementStatus) : MerchantPayableSettlement :=
  { settlement with
    status
    decidedByUserId := some actor.userId
    decidedAt := some now
    decisionNote := note }

/-- The receivable against the consumer, as it is born. -/
def newRecovery (payable : MerchantPayable) (settlement : MerchantPayableSettlement)
    (installment : Installment) (purchase : Purchase) (id : Nat) : ConsumerRecovery where
  id := id
  consumerId := purchase.consumerId
  purchaseId := purchase.id
  installmentId := installment.id
  merchantPayableId := payable.id
  amountCoveredByAtlas := settlement.amount
  amountRecovered := 0
  coveragePaidAt := some settlement.paidAt
  recoveryStatus := .open
  currency := settlement.currency

/-- The event of a settled coverage. -/
def settledEvent (payable : MerchantPayable) (settlement : MerchantPayableSettlement)
    (installment : Installment) (purchase : Purchase) (recoveryId : Nat) : CoverageOutboxEvent where
  topic := "b2b.coverage.settled"
  aggregateType := "merchant_payable"
  aggregateId := payable.id
  eventKey := "coverage-settled-" ++ toString payable.id
  payload := .settled payable.id installment.id purchase.id payable.accountId
    purchase.consumerId settlement.id settlement.settlementReference settlement.amount
    settlement.currency settlement.paidAt recoveryId (db.findCoreRef installment.id)

/-- The payable, paid by a settlement. -/
def MerchantPayable.pay (payable : MerchantPayable) (settlement : MerchantPayableSettlement) :
    MerchantPayable :=
  { payable with status := .paid, paidAt := some settlement.paidAt }

/-- The tables after the confirmation of a settlement. -/
def settle (payable : MerchantPayable) (settlement : MerchantPayableSettlement)
    (installment : Installment) (purchase : Purchase) : CoverageDb :=
  { db with
    settlements := db.settlements.put (settlement.decide note actor now .confirmed)
    payables := db.payables.put (payable.pay settlement)
    installments := db.installments.put { installment with status := .coveredByAtlas }
    recoveries := db.recoveries.create (newRecovery payable settlement installment purchase) }

/-- Confirm a settlement. -/
def approvePayableSettlement : Except HttpError (SettlementResult × CoverageDb) := do
  let payable ← db.lockPayable payableId
  let settlement ← orFail (db.findLiveSettlement payable.id)
    (conflict "NO_SETTLEMENT" "La CxP no tiene una liquidación registrada que confirmar.")
  if settlement.status = .confirmed then
    return (db.settlementResult payable settlement true, db)
  else do
    failIf (settlement.registeredByUserId = actor.userId) (forbidden "FOUR_EYES_REQUIRED"
      "Quien registró la liquidación no puede confirmarla: debe hacerlo otra persona.")
    failIf (payable.status ≠ .scheduled ∧ payable.status ≠ .due) (conflict "PAYABLE_NOT_PAYABLE"
      ("La CxP en estado " ++ payable.status.text ++ " no se puede liquidar."))
    failIf (settlement.amount ≠ payable.amount) (unprocessable "SETTLEMENT_AMOUNT_MISMATCH"
      "El importe liquidado ya no coincide con la CxP.")
    let installment ← orFail (db.installments.find? payable.installmentId)
      (notFound "Cuota o compra de la CxP no encontrada.")
    let purchase ← orFail (db.purchases.find? payable.purchaseId)
      (notFound "Cuota o compra de la CxP no encontrada.")
    -- the unique index on `merchant_payable_id` of the recoveries
    failIf (db.recoveryOf payable.id).isSome (conflict "UNIQUE_VIOLATION" "merchant_payable_id")
    let recoveryId := db.recoveries.nextKey
    let settled := settle db note actor now payable settlement installment purchase
    let db' := { settled.writeOutboxEvent (settledEvent db payable settlement installment purchase recoveryId) with
      actionLog := db.actionLog ++ [⟨"APPROVE_PAYABLE_SETTLEMENT", actor.userId, payable.id,
        settlement.id, [("note", note)]⟩] }
    return (⟨.confirmed, false, payable.pay settlement, settlement.decide note actor now .confirmed,
      some (newRecovery payable settlement installment purchase recoveryId)⟩, db')

/-- Reject a settlement: the payable stays pending and the reference is free again. -/
def rejectPayableSettlement : Except HttpError (SettlementResult × CoverageDb) := do
  let payable ← db.lockPayable payableId
  let settlement ← orFail (db.findLiveSettlement payable.id) (conflict "NO_PENDING_SETTLEMENT"
    "La CxP no tiene una liquidación pendiente que rechazar.")
  failIf (settlement.status ≠ .pendingApproval) (conflict "NO_PENDING_SETTLEMENT"
    "La CxP no tiene una liquidación pendiente que rechazar.")
  failIf (settlement.registeredByUserId = actor.userId) (forbidden "FOUR_EYES_REQUIRED"
    "Quien registró la liquidación no puede decidir sobre ella.")
  let rejected := settlement.decide note actor now .rejected
  let db' := { db with
    settlements := db.settlements.put rejected
    actionLog := db.actionLog ++ [⟨"REJECT_PAYABLE_SETTLEMENT", actor.userId, payable.id,
      settlement.id, [("note", note)]⟩] }
  return (db'.settlementResult payable rejected false, db')

variable {db payableId note actor now}

theorem findLiveSettlement_eq_some {settlement : MerchantPayableSettlement}
    (h : db.findLiveSettlement payableId = some settlement) :
    settlement ∈ db.settlements ∧ settlement.merchantPayableId = payableId ∧
      settlement.status ≠ .rejected := by
  have hsome := Table.findBy_eq_some h
  simpa [MerchantPayableSettlement.isLive] using hsome

theorem findLiveSettlement_eq_none :
    db.findLiveSettlement payableId = none ↔
      ∀ s ∈ db.settlements, s.merchantPayableId = payableId → s.status = .rejected := by
  rw [CoverageDb.findLiveSettlement, Table.findBy_eq_none]
  constructor
  · intro h s hs hid
    simpa [hid, MerchantPayableSettlement.isLive] using h s hs
  · intro h s hs
    by_cases hid : s.merchantPayableId = payableId
    · simp [hid, MerchantPayableSettlement.isLive, h s hs hid]
    · simp [hid]

/-- What held when a settlement was confirmed. -/
structure Approval (db : CoverageDb) (actor : CoverageActor) (payable : MerchantPayable)
    (settlement : MerchantPayableSettlement) (installment : Installment) (purchase : Purchase) :
    Prop where
  payable_mem : payable ∈ db.payables
  live : db.findLiveSettlement payable.id = some settlement
  pending : settlement.status = .pendingApproval
  fourEyes : settlement.registeredByUserId ≠ actor.userId
  payable_status : payable.status = .scheduled ∨ payable.status = .due
  amount_eq : settlement.amount = payable.amount
  installment_eq : db.installments.find? payable.installmentId = some installment
  no_recovery : db.recoveryOf payable.id = none

/-- All that a successful confirmation can do: repeat, or settle. -/
theorem approvePayableSettlement_cases {result : SettlementResult} {db' : CoverageDb}
    (h : approvePayableSettlement db payableId note actor now = .ok (result, db')) :
    (db' = db ∧ ∃ payable settlement, db.payables.find? payableId = some payable ∧
      db.findLiveSettlement payable.id = some settlement ∧ settlement.status = .confirmed) ∨
    ∃ payable settlement installment purchase outbox actionLog,
      Approval db actor payable settlement installment purchase ∧
      db' = { settle db note actor now payable settlement installment purchase with
        outbox, actionLog } := by
  unfold approvePayableSettlement CoverageDb.lockPayable at h
  obtain ⟨payable, hfind, h⟩ := orFail_bind_eq_ok.mp h
  obtain ⟨settlement, hlive, h⟩ := orFail_bind_eq_ok.mp h
  by_cases hconf : settlement.status = .confirmed
  · rw [if_pos hconf] at h
    exact .inl ⟨(congrArg Prod.snd (pure_eq_ok.mp h)).symm, payable, settlement, hfind, hlive, hconf⟩
  · rw [if_neg hconf] at h
    obtain ⟨hfour, h⟩ := failIf_bind_eq_ok.mp h
    obtain ⟨hstatus, h⟩ := failIf_bind_eq_ok.mp h
    obtain ⟨hamount, h⟩ := failIf_bind_eq_ok.mp h
    obtain ⟨installment, hinst, h⟩ := orFail_bind_eq_ok.mp h
    obtain ⟨purchase, -, h⟩ := orFail_bind_eq_ok.mp h
    obtain ⟨hrec, h⟩ := failIf_bind_eq_ok.mp h
    have hpending : settlement.status = .pendingApproval := by
      have hnr := (findLiveSettlement_eq_some hlive).2.2
      cases hs : settlement.status with
      | pendingApproval => rfl
      | confirmed => exact absurd hs hconf
      | rejected => exact absurd hs hnr
    have hstatus' : payable.status = .scheduled ∨ payable.status = .due := by
      by_contra hne
      exact hstatus (not_or.mp hne)
    obtain ⟨-, rfl⟩ := Prod.mk.inj (pure_eq_ok.mp h)
    refine .inr ⟨payable, settlement, installment, purchase, _, _,
      ⟨(Table.find?_eq_some.mp hfind).1, hlive, hpending, hfour, hstatus', not_not.mp hamount, hinst,
        by simpa using hrec⟩, rfl⟩

/-- All that a successful rejection can do. -/
theorem rejectPayableSettlement_cases {result : SettlementResult} {db' : CoverageDb}
    (h : rejectPayableSettlement db payableId note actor now = .ok (result, db')) :
    ∃ settlement actionLog, settlement ∈ db.settlements ∧ settlement.status = .pendingApproval ∧
      settlement.registeredByUserId ≠ actor.userId ∧
      db' = { db with
        settlements := db.settlements.put (settlement.decide note actor now .rejected)
        actionLog } := by
  unfold rejectPayableSettlement CoverageDb.lockPayable at h
  obtain ⟨payable, hfind, h⟩ := orFail_bind_eq_ok.mp h
  obtain ⟨settlement, hlive, h⟩ := orFail_bind_eq_ok.mp h
  obtain ⟨hstatus, h⟩ := failIf_bind_eq_ok.mp h
  obtain ⟨hfour, h⟩ := failIf_bind_eq_ok.mp h
  exact ⟨settlement, _, (findLiveSettlement_eq_some hlive).1, not_not.mp hstatus, hfour,
    (congrArg Prod.snd (pure_eq_ok.mp h)).symm⟩

end Decide

end AtlasErp
