import AtlasErp.Coverage.Settlement

/-! # Recovering from the consumer

What ATLAS covered is recovered from the consumer by movements: each payment has a unique reference,
repeating it adds nothing, exceeding what was covered is rejected, and a reversal compensates without
erasing.

- `applyRecoveryPayment_cases`, `reverseRecoveryMovement_cases`: all that a successful call can do. -/

namespace AtlasErp

open Lib

/-- Status of a recovery, from what was recovered and what was covered. -/
def recoveryStatusFor (recoveredMinor coveredMinor : Int) : RecoveryStatus :=
  if recoveredMinor = 0 then .open
  else if recoveredMinor = coveredMinor then .recovered
  else .partiallyRecovered

/-- The body of a payment. -/
structure ApplyRecoveryPaymentDto where
  amount : PositiveAmount
  paymentReference : String
  currency : String
  receivedAt : Option Instant
  deriving DecidableEq

/-- The body of a reversal. -/
structure ReverseRecoveryMovementDto where
  reversalReference : String
  reason : String
  deriving DecidableEq

/-- What both operations answer. -/
structure RecoveryResult where
  recovery : ConsumerRecovery
  movement : ConsumerRecoveryMovement
  replayed : Bool
  deriving DecidableEq

/-- A registered payment with a reference is the same when recovery, type, amount and currency are. -/
def isSameRecoveryPayment (existing : ConsumerRecoveryMovement) (recoveryId : Nat)
    (input : ApplyRecoveryPaymentDto) : Bool :=
  existing.recoveryId = recoveryId ∧ existing.movementType = .payment ∧
    existing.amount = input.amount.val ∧ existing.currency = input.currency

namespace CoverageDb

variable (db : CoverageDb)

/-- `lockRecovery`. -/
def lockRecovery (recoveryId : Nat) : Except HttpError ConsumerRecovery :=
  orFail (db.recoveries.find? recoveryId) (notFound "CxC de recuperación no encontrada.")

/-- The movement that holds a reference. -/
def movementByReference (reference : String) : Option ConsumerRecoveryMovement :=
  db.movements.findBy (·.paymentReference = reference)

/-- The reversal of a movement. -/
def reversalOf (movementId : Nat) : Option ConsumerRecoveryMovement :=
  db.movements.findBy (·.reversesMovementId = some movementId)

end CoverageDb

/-- The recovery with a new recovered amount. -/
def updateRecoveredAmount (recovery : ConsumerRecovery) (nextMinor coveredMinor : Int) :
    ConsumerRecovery :=
  { recovery with
    amountRecovered := nextMinor
    recoveryStatus := recoveryStatusFor nextMinor coveredMinor }

/-- Record a movement: the movement, the recovered amount and the event, in one transaction. -/
def recordMovement (db : CoverageDb) (topic : String) (recovery : ConsumerRecovery)
    (nextMinor : Int) (row : Nat → ConsumerRecoveryMovement) : RecoveryResult × CoverageDb :=
  let movement := row db.movements.nextKey
  let updated := updateRecoveredAmount recovery nextMinor recovery.amountCoveredByAtlas
  let db' := { db with
    movements := db.movements.create row
    recoveries := db.recoveries.put updated }
  (⟨updated, movement, false⟩,
    db'.writeOutboxEvent
      { topic
        aggregateType := "consumer_recovery"
        aggregateId := recovery.id
        eventKey := "recovery-movement-" ++ toString movement.id
        payload := .movement recovery.id recovery.installmentId recovery.consumerId movement.id
          movement.movementType movement.paymentReference movement.amount movement.currency
          updated.amountRecovered updated.recoveryStatus (db.findCoreRef recovery.installmentId) })

section Apply

variable (db : CoverageDb) (recoveryId : Nat) (input : ApplyRecoveryPaymentDto)
  (actor : Option CoverageActor) (now : Instant)

/-- The movement of a payment. -/
def paymentMovement (recovery : ConsumerRecovery) (id : Nat) : ConsumerRecoveryMovement where
  id := id
  recoveryId := recovery.id
  installmentId := recovery.installmentId
  movementType := .payment
  paymentReference := input.paymentReference
  amount := input.amount.val
  currency := input.currency
  reversesMovementId := none
  receivedAt := input.receivedAt.getD now
  recordedByUserId := actor.map (·.userId)
  reason := none

/-- Apply a payment of the consumer to a recovery. -/
def applyRecoveryPayment : Except HttpError (RecoveryResult × CoverageDb) := do
  let recovery ← db.lockRecovery recoveryId
  match db.movementByReference input.paymentReference with
  | some existing =>
    if isSameRecoveryPayment existing recovery.id input then return (⟨recovery, existing, true⟩, db)
    else throw (conflict "DUPLICATE_REFERENCE" "La referencia de pago ya se usó para otro cobro.")
  | none => do
    failIf (input.currency ≠ recovery.currency) (unprocessable "CURRENCY_MISMATCH"
      ("La recuperación es en " ++ recovery.currency ++ "."))
    failIf (recovery.recoveryStatus = .writtenOff)
      (conflict "RECOVERY_WRITTEN_OFF" "La recuperación está castigada.")
    let nextMinor := recovery.amountRecovered + input.amount.val
    failIf (nextMinor > recovery.amountCoveredByAtlas) (conflict "RECOVERY_OVERPAYMENT"
      "El pago de recuperación excede el monto cubierto por ATLAS.")
    return recordMovement db "b2b.recovery.payment_applied" recovery nextMinor
      (paymentMovement input actor now recovery)

variable {db recoveryId input actor now}

/-- All that a successful payment can do: repeat, or record a payment that fits. -/
theorem applyRecoveryPayment_cases {result : RecoveryResult} {db' : CoverageDb}
    (h : applyRecoveryPayment db recoveryId input actor now = .ok (result, db')) :
    (db' = db ∧ result.replayed = true ∧ (db.movementByReference input.paymentReference).isSome) ∨
    ∃ recovery, db.recoveries.find? recoveryId = some recovery ∧
      db.movementByReference input.paymentReference = none ∧
      recovery.recoveryStatus ≠ .writtenOff ∧ input.currency = recovery.currency ∧
      recovery.amountRecovered + input.amount.val ≤ recovery.amountCoveredByAtlas ∧
      (result, db') = recordMovement db "b2b.recovery.payment_applied" recovery
        (recovery.amountRecovered + input.amount.val) (paymentMovement input actor now recovery) := by
  unfold applyRecoveryPayment CoverageDb.lockRecovery at h
  obtain ⟨recovery, hfind, h⟩ := orFail_bind_eq_ok.mp h
  cases hexisting : db.movementByReference input.paymentReference with
  | some existing =>
    rw [hexisting] at h
    dsimp only at h
    split at h
    · obtain ⟨rfl, rfl⟩ := Prod.mk.inj (pure_eq_ok.mp h)
      exact .inl ⟨rfl, rfl, rfl⟩
    · exact absurd h throw_ne_ok
  | none =>
    rw [hexisting] at h
    obtain ⟨hcurrency, h⟩ := failIf_bind_eq_ok.mp h
    obtain ⟨hwritten, h⟩ := failIf_bind_eq_ok.mp h
    obtain ⟨hover, h⟩ := failIf_bind_eq_ok.mp h
    exact .inr ⟨recovery, hfind, rfl, hwritten, not_not.mp hcurrency, not_lt.mp hover,
      (pure_eq_ok.mp h).symm⟩

end Apply

section Reverse

variable (db : CoverageDb) (recoveryId movementId : Nat) (input : ReverseRecoveryMovementDto)
  (actor : CoverageActor) (now : Instant)

/-- The movement that compensates a payment. -/
def reversalMovement (recovery : ConsumerRecovery) (original : ConsumerRecoveryMovement) (id : Nat) :
    ConsumerRecoveryMovement where
  id := id
  recoveryId := recovery.id
  installmentId := recovery.installmentId
  movementType := .reversal
  paymentReference := input.reversalReference
  amount := original.amount
  currency := original.currency
  reversesMovementId := some original.id
  receivedAt := now
  recordedByUserId := some actor.userId
  reason := some input.reason

/-- Reverse a payment; the original is kept. -/
def reverseRecoveryMovement : Except HttpError (RecoveryResult × CoverageDb) := do
  let recovery ← db.lockRecovery recoveryId
  let original ← orFail
    (db.movements.findBy (fun m => m.id = movementId ∧ m.recoveryId = recovery.id))
    (notFound "Cobro de recuperación no encontrado en esta CxC.")
  failIf (original.movementType ≠ .payment)
    (notFound "Cobro de recuperación no encontrado en esta CxC.")
  match db.reversalOf original.id with
  | some previous =>
    if previous.paymentReference = input.reversalReference then
      return (⟨recovery, previous, true⟩, db)
    else throw (conflict "ALREADY_REVERSED" "Ese cobro ya fue revertido.")
  | none => do
    failIf (db.movementByReference input.reversalReference).isSome
      (conflict "DUPLICATE_REFERENCE" "La referencia del reverso ya se usó.")
    let nextMinor := recovery.amountRecovered - original.amount
    failIf (nextMinor < 0)
      (conflict "RECOVERY_NEGATIVE" "El reverso dejaría la recuperación en negativo.")
    return recordMovement db "b2b.recovery.payment_reversed" recovery nextMinor
      (reversalMovement input actor now recovery original)

variable {db recoveryId movementId input actor now}

/-- All that a successful reversal can do: repeat, or compensate a payment that was not reversed. -/
theorem reverseRecoveryMovement_cases {result : RecoveryResult} {db' : CoverageDb}
    (h : reverseRecoveryMovement db recoveryId movementId input actor now = .ok (result, db')) :
    (db' = db ∧ result.replayed = true ∧ (db.movementByReference input.reversalReference).isSome) ∨
    ∃ recovery original, db.recoveries.find? recoveryId = some recovery ∧
      original ∈ db.movements ∧ original.id = movementId ∧ original.recoveryId = recovery.id ∧
      original.movementType = .payment ∧ db.reversalOf original.id = none ∧
      db.movementByReference input.reversalReference = none ∧
      0 ≤ recovery.amountRecovered - original.amount ∧
      (result, db') = recordMovement db "b2b.recovery.payment_reversed" recovery
        (recovery.amountRecovered - original.amount)
        (reversalMovement input actor now recovery original) := by
  unfold reverseRecoveryMovement CoverageDb.lockRecovery at h
  obtain ⟨recovery, hfind, h⟩ := orFail_bind_eq_ok.mp h
  obtain ⟨original, horiginal, h⟩ := orFail_bind_eq_ok.mp h
  obtain ⟨htype, h⟩ := failIf_bind_eq_ok.mp h
  have horig := Table.findBy_eq_some horiginal
  cases hprev : db.reversalOf original.id with
  | some previous =>
    rw [hprev] at h
    dsimp only at h
    split at h
    · rename_i hsame
      obtain ⟨rfl, rfl⟩ := Prod.mk.inj (pure_eq_ok.mp h)
      have hmem := Table.findBy_eq_some hprev
      exact .inl ⟨rfl, rfl, Table.findBy_isSome.mpr ⟨previous, hmem.1, by simpa using hsame⟩⟩
    · exact absurd h throw_ne_ok
  | none =>
    rw [hprev] at h
    obtain ⟨hclash, h⟩ := failIf_bind_eq_ok.mp h
    obtain ⟨hneg, h⟩ := failIf_bind_eq_ok.mp h
    obtain ⟨hid, hown⟩ := of_decide_eq_true horig.2
    exact .inr ⟨recovery, original, hfind, horig.1, hid, hown,
      not_not.mp htype, hprev, by simpa using hclash, not_lt.mp hneg, (pure_eq_ok.mp h).symm⟩

end Reverse

end AtlasErp
