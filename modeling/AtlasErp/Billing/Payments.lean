import AtlasErp.Billing.Model

/-! # Payments of a merchant

A payment is allocated to receivables of the merchant, each of them locked; the invoices they belong to
take the status that their receivables give them.

- `paymentStatusOf`: the status of an invoice, from its receivables;
- `applyAllocation_cases`, `registerMerchantPayment_cases`: all that a successful payment can do. -/

namespace AtlasErp

open Lib

/-- One allocation of a payment. -/
structure AllocationDto where
  receivableId : Nat
  amountApplied : Int
  deriving DecidableEq

/-- The body of a payment. -/
structure RegisterMerchantPaymentDto where
  accountId : Nat
  amount : Int
  currency : String
  paidAt : Instant
  paymentMethod : Option String
  externalRef : Option String
  allocations : List AllocationDto
  deriving DecidableEq

/-- What a payment answers. -/
structure MerchantPaymentResult where
  paymentId : Nat
  amount : Int
  allocations : List AllocationDto
  deriving DecidableEq

/-- The status of an invoice, from its receivables. -/
def paymentStatusOf (receivables : List MerchantReceivable) : InvoiceStatus :=
  if receivables.all (·.amountOpen = 0) then .paid
  else if receivables.any (fun r => r.amountOpen < r.amountOriginal) then .partiallyPaid
  else .issued

/-- The status that a refresh gives an invoice, or nothing when it leaves the invoice alone. -/
def refreshedStatus (receivables : List MerchantReceivable) (invoice : Option MerchantInvoice) :
    Option InvoiceStatus :=
  match invoice with
  | none => none
  | some invoice =>
    -- a cancelled invoice does not come back for a payment
    if receivables = [] ∨ invoice.status = .cancelled then none
    else some (paymentStatusOf receivables)

/-- Set the status of an invoice. -/
def BillingDb.setInvoiceStatus (db : BillingDb) (invoiceId : Nat) (status : InvoiceStatus) : BillingDb :=
  { db with invoices := db.invoices.updateWhere (·.id = invoiceId) fun i => { i with status } }

/-- Refresh the status of an invoice from its receivables. -/
def refreshInvoicePaymentStatus (db : BillingDb) (invoiceId : Nat) : BillingDb :=
  match refreshedStatus (db.receivablesOf invoiceId) (db.invoices.find? invoiceId) with
  | none => db
  | some status => db.setInvoiceStatus invoiceId status

section Allocation

variable (input : RegisterMerchantPaymentDto)

/-- The payment row. -/
def newPayment (amount : Int) (id : Nat) : MerchantPayment :=
  ⟨id, input.accountId, amount, input.currency, input.paidAt, input.paymentMethod, input.externalRef,
    "CONFIRMED"⟩

/-- The receivable after an amount is applied to it. -/
def MerchantReceivable.pay (receivable : MerchantReceivable) (applied : Int) : MerchantReceivable :=
  { receivable with
    amountOpen := receivable.amountOpen - applied
    status := if receivable.amountOpen - applied = 0 then .paid else .partiallyPaid }

/-- The checks a payment makes before it reads anything; its amount. -/
def checkPayment : Except HttpError Int := do
  let matched ← liftMoney (allocationsMatchPayment input.amount
    (input.allocations.map (·.amountApplied)) input.currency)
  failIf (matched = false)
    (badRequest "La suma de asignaciones debe coincidir con el monto total del pago.")
  liftMoney (parseMoney input.amount input.currency false true)

/-- The locked receivable of an allocation. -/
def lockReceivable (db : BillingDb) (allocation : AllocationDto) : Option MerchantReceivable :=
  db.receivables.findBy (fun r => r.id = allocation.receivableId ∧ r.accountId = input.accountId)

/-- The checks of an allocation against its receivable; the amount it applies. -/
def checkAllocation (receivable : MerchantReceivable) (allocation : AllocationDto) : Except HttpError Int := do
  failIf (currencyCode receivable.currency ≠ input.currency) (conflict "PAYMENT_CURRENCY_MISMATCH"
    ("La CxC está en " ++ receivable.currency ++ " y el pago en " ++ input.currency ++ "."))
  let applied ← liftMoney (parseMoney allocation.amountApplied input.currency false false)
  failIf (applied > receivable.amountOpen)
    (conflictText "Una asignación excede el saldo abierto de la CxC.")
  return applied

/-- Record an allocation and what it leaves of its receivable. -/
def BillingDb.allocate (db : BillingDb) (paymentId : Nat) (receivable : MerchantReceivable)
    (applied : Int) : BillingDb :=
  { db with
    allocations := db.allocations.create fun id => ⟨id, paymentId, receivable.id, applied⟩
    receivables := db.receivables.put (receivable.pay applied) }

/-- Add an invoice to those touched, once. -/
def touch (touched : List Nat) (invoiceId : Option Nat) : List Nat :=
  match invoiceId with
  | none => touched
  | some id => if touched.contains id then touched else touched ++ [id]

/-- Apply one allocation: to the database, and to the invoices touched. -/
def applyAllocation (paymentId : Nat) (state : BillingDb × List Nat) (allocation : AllocationDto) :
    Except HttpError (BillingDb × List Nat) := do
  let receivable ← orFail (lockReceivable input state.1 allocation)
    (notFound "CxC comercial no encontrada para aplicar pago.")
  let applied ← checkAllocation input receivable allocation
  return (state.1.allocate paymentId receivable applied, touch state.2 receivable.invoiceId)

/-- Register a payment with its allocations. -/
def registerMerchantPayment (db : BillingDb) : Except HttpError (MerchantPaymentResult × BillingDb) := do
  let amount ← checkPayment input
  let paymentId := db.payments.nextKey
  let (applied, touched) ← input.allocations.foldlM (applyAllocation input paymentId)
    ({ db with payments := db.payments.create (newPayment input amount) }, [])
  return (⟨paymentId, amount, input.allocations⟩, touched.foldl refreshInvoicePaymentStatus applied)

variable {input} {db db' : BillingDb} {touched touched' : List Nat}

/-- An allocation that passes its checks fits what is open. -/
theorem checkAllocation_eq_ok {receivable : MerchantReceivable} {allocation : AllocationDto} {applied : Int}
    (h : checkAllocation input receivable allocation = .ok applied) :
    applied = allocation.amountApplied ∧ 0 < applied ∧ applied ≤ receivable.amountOpen := by
  unfold checkAllocation at h
  obtain ⟨-, h⟩ := failIf_bind_eq_ok.mp h
  obtain ⟨amount, hamount, h⟩ := bind_eq_ok.mp h
  obtain ⟨hfits, h⟩ := failIf_bind_eq_ok.mp h
  obtain rfl := pure_eq_ok.mp h
  obtain ⟨rfl, -, hnonneg, hnonzero, -⟩ := parseMoney_eq_ok (liftMoney_eq_ok.mp hamount)
  exact ⟨rfl, lt_of_le_of_ne (hnonneg rfl) (Ne.symm (hnonzero rfl)), not_lt.mp hfits⟩

/-- All that an applied allocation can do. -/
theorem applyAllocation_eq_ok {paymentId : Nat} {allocation : AllocationDto}
    (h : applyAllocation input paymentId (db, touched) allocation = .ok (db', touched')) :
    ∃ receivable applied, receivable ∈ db.receivables ∧ receivable.id = allocation.receivableId ∧
      0 < applied ∧ applied ≤ receivable.amountOpen ∧ db' = db.allocate paymentId receivable applied ∧
      touched' = touch touched receivable.invoiceId := by
  unfold applyAllocation at h
  obtain ⟨receivable, hfind, h⟩ := orFail_bind_eq_ok.mp h
  obtain ⟨applied, happlied, h⟩ := bind_eq_ok.mp h
  obtain ⟨hmem, hwhere⟩ := Table.findBy_eq_some hfind
  obtain ⟨-, hpos, hfits⟩ := checkAllocation_eq_ok happlied
  obtain ⟨rfl, rfl⟩ := Prod.mk.inj (pure_eq_ok.mp h)
  exact ⟨receivable, applied, hmem, (of_decide_eq_true hwhere).1, hpos, hfits, rfl, rfl⟩

/-- All that a successful payment can do: create its row, apply its allocations and refresh the invoices
they touched. -/
theorem registerMerchantPayment_cases {result : MerchantPaymentResult}
    (h : registerMerchantPayment input db = .ok (result, db')) :
    ∃ amount applied touched,
      input.allocations.foldlM (applyAllocation input db.payments.nextKey)
        ({ db with payments := db.payments.create (newPayment input amount) }, []) =
          .ok (applied, touched) ∧
      db' = touched.foldl refreshInvoicePaymentStatus applied := by
  unfold registerMerchantPayment at h
  obtain ⟨amount, -, h⟩ := bind_eq_ok.mp h
  obtain ⟨⟨applied, touched⟩, hfold, h⟩ := bind_eq_ok.mp h
  exact ⟨amount, applied, touched, hfold, (Prod.mk.inj (pure_eq_ok.mp h)).2.symm⟩

end Allocation

end AtlasErp
