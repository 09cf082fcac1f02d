import AtlasErp.Billing.Payments

/-! # Issuing an invoice

An invoice is issued on charges that are pending, not invoiced yet and open.  Its totals are those of
`computeInvoiceTotals`; each charge becomes a line and is tied to the invoice.

- `issueInvoice_cases`: all that a successful issue can do;
- `issueInvoice_eq`: an issue checks the charges it locked, and then writes. -/

namespace AtlasErp

open Lib

/-- The body of an issue. -/
structure IssueInvoiceDto where
  accountId : Nat
  contractId : Option Nat
  invoiceDate : Day
  dueDate : Day
  receivableIds : List Nat
  externalTaxRef : Option String
  deriving DecidableEq

/-- What the rest of the system gives an issue: the tax rate of the configuration, the next number of
the series, and what the fiscal module answers inside the transaction. -/
structure IssueContext where
  taxRateUnits : Int
  invoiceNumber : String
  fiscal : Except HttpError Unit

/-- A violation of the money rules is a conflict. -/
def invoiceTotalsError : BillingMathError → HttpError
  | .moneyRuleViolation code message _ => conflict code message
  | .money error => error.uncaught

section Issue

variable (db : BillingDb) (input : IssueInvoiceDto) (context : IssueContext)

/-- A charge as `computeInvoiceTotals` receives it. -/
def MerchantReceivable.charge (r : MerchantReceivable) : InvoiceableCharge := ⟨r.id, r.amountOpen, r.currency⟩

/-- `invoiceTotals`. -/
def invoiceTotals (receivables : List MerchantReceivable) : Except HttpError InvoiceTotals :=
  (computeInvoiceTotals (receivables.map (·.charge)) context.taxRateUnits).mapError invoiceTotalsError

/-- The invoice row. -/
def newInvoice (totals : InvoiceTotals) (id : Nat) : MerchantInvoice :=
  ⟨id, input.accountId, input.contractId, context.invoiceNumber, input.invoiceDate, input.dueDate,
    totals.subtotal, totals.tax, totals.total, .issued, input.externalTaxRef⟩

/-- The line of a charge, under the name of its product. -/
def newInvoiceLine (invoiceId : Nat) (receivable : MerchantReceivable) (line : InvoiceLineTotals)
    (id : Nat) : MerchantInvoiceLine :=
  let product := db.products.find? (·.sourceType = receivable.sourceType)
  { id
    invoiceId
    sourceType := receivable.sourceType
    sourceId := receivable.sourceId
    productId := receivable.productId.or (product.map (·.id))
    description := match product with
      | some product => product.name
      | none => "Cargo " ++ receivable.sourceType
    quantity := "1.0000"
    unitAmount := line.net
    taxAmount := line.tax
    totalAmount := line.total }

/-- The totals of the line of a charge. -/
def InvoiceTotals.lineOf (totals : InvoiceTotals) (receivable : MerchantReceivable) : InvoiceLineTotals :=
  (totals.lines.find? (·.id = receivable.id)).getD ⟨receivable.id, 0, 0, 0⟩

/-- Write the line of a charge and tie the charge to the invoice. -/
def billReceivable (totals : InvoiceTotals) (invoiceId : Nat) (db : BillingDb)
    (receivable : MerchantReceivable) : BillingDb :=
  { db with
    invoiceLines := db.invoiceLines.create
      (newInvoiceLine db invoiceId receivable (totals.lineOf receivable))
    receivables := db.receivables.put { receivable with invoiceId := some invoiceId } }

/-- Issue an invoice. -/
def issueInvoice : Except HttpError (MerchantInvoice × BillingDb) := do
  let receivables := db.receivables.rowsWhere fun r =>
    input.receivableIds.contains r.id ∧ r.accountId = input.accountId
  failIf (receivables.length ≠ input.receivableIds.length)
    (notFound "Uno o más cargos CxC no existen o no pertenecen al comercio.")
  failIf (receivables.any (·.invoiceId ≠ none) = true)
    (conflictText "Uno o más cargos ya fueron facturados.")
  failIf (receivables.any (·.status ≠ .pending) = true)
    (conflictText "Solo se pueden facturar cargos CxC pendientes.")
  failIf (receivables.any (·.amountOpen ≤ 0) = true)
    (conflictText "No se pueden facturar cargos CxC sin saldo abierto.")
  let totals ← invoiceTotals context receivables
  let invoiceId := db.invoices.nextKey
  let created := { db with invoices := db.invoices.create (newInvoice input context totals) }
  let billed := receivables.foldl (billReceivable totals invoiceId) created
  context.fiscal
  return (newInvoice input context totals invoiceId, billed)

/-- The checks of an issue on the charges it locked. -/
def checkIssue (receivables : List MerchantReceivable) : Except HttpError Unit := do
  failIf (receivables.length ≠ input.receivableIds.length)
    (notFound "Uno o más cargos CxC no existen o no pertenecen al comercio.")
  failIf (receivables.any (·.invoiceId ≠ none) = true)
    (conflictText "Uno o más cargos ya fueron facturados.")
  failIf (receivables.any (·.status ≠ .pending) = true)
    (conflictText "Solo se pueden facturar cargos CxC pendientes.")
  failIf (receivables.any (·.amountOpen ≤ 0) = true)
    (conflictText "No se pueden facturar cargos CxC sin saldo abierto.")

/-- The charges an issue locks. -/
def issueRows : List MerchantReceivable :=
  db.receivables.rowsWhere fun r => input.receivableIds.contains r.id ∧ r.accountId = input.accountId

/-- What an issue writes, once its charges passed the checks. -/
def issueLocked (receivables : List MerchantReceivable) : Except HttpError (MerchantInvoice × BillingDb) := do
  let totals ← invoiceTotals context receivables
  let invoiceId := db.invoices.nextKey
  let created := { db with invoices := db.invoices.create (newInvoice input context totals) }
  let billed := receivables.foldl (billReceivable totals invoiceId) created
  context.fiscal
  return (newInvoice input context totals invoiceId, billed)

theorem issueInvoice_eq : issueInvoice db input context =
    (checkIssue input (issueRows db input) >>= fun _ => issueLocked db input context (issueRows db input)) := by
  unfold checkIssue
  simp only [bind_assoc]
  rfl

variable {db input context} {db' : BillingDb} {invoice : MerchantInvoice}

/-- Charges that can be billed: rows of the table, pending, open and not invoiced yet. -/
structure Issuable (db : BillingDb) (receivables : List MerchantReceivable) : Prop where
  mem : ∀ r ∈ receivables, r ∈ db.receivables
  nodup : (receivables.map (·.id)).Nodup
  not_invoiced : ∀ r ∈ receivables, r.invoiceId = none
  pending : ∀ r ∈ receivables, r.status = .pending
  open_pos : ∀ r ∈ receivables, 0 < r.amountOpen

/-- The charges that pass the checks can be billed. -/
theorem issuable_of_checkIssue (h : checkIssue input (issueRows db input) = .ok ()) :
    Issuable db (issueRows db input) := by
  unfold checkIssue at h
  obtain ⟨-, h⟩ := failIf_bind_eq_ok.mp h
  obtain ⟨hfree, h⟩ := failIf_bind_eq_ok.mp h
  obtain ⟨hpending, h⟩ := failIf_bind_eq_ok.mp h
  have hopen := failIf_eq_ok.mp h
  refine ⟨fun r hr => (Table.mem_rowsWhere.mp hr).1, db.receivables.nodup.sublist (List.filter_sublist.map _),
    fun r hr => ?_, fun r hr => ?_, fun r hr => ?_⟩
  · by_contra hinvoiced
    exact hfree (List.any_eq_true.mpr ⟨r, hr, decide_eq_true hinvoiced⟩)
  · by_contra hother
    exact hpending (List.any_eq_true.mpr ⟨r, hr, decide_eq_true hother⟩)
  · by_contra hclosed
    exact hopen (List.any_eq_true.mpr ⟨r, hr, decide_eq_true (not_lt.mp hclosed)⟩)

/-- All that the writes of an issue can do. -/
theorem issueLocked_cases {receivables : List MerchantReceivable}
    (h : issueLocked db input context receivables = .ok (invoice, db')) :
    ∃ totals, computeInvoiceTotals (receivables.map (·.charge)) context.taxRateUnits = .ok totals ∧
      invoice = newInvoice input context totals db.invoices.nextKey ∧
      db' = receivables.foldl (billReceivable totals db.invoices.nextKey)
        { db with invoices := db.invoices.create (newInvoice input context totals) } := by
  unfold issueLocked at h
  obtain ⟨totals, htotals, h⟩ := bind_eq_ok.mp h
  obtain ⟨-, -, h⟩ := bind_eq_ok.mp h
  obtain ⟨rfl, rfl⟩ := Prod.mk.inj (pure_eq_ok.mp h)
  exact ⟨totals, mapError_eq_ok.mp htotals, rfl, rfl⟩

/-- All that a successful issue can do. -/
theorem issueInvoice_cases (h : issueInvoice db input context = .ok (invoice, db')) :
    Issuable db (issueRows db input) ∧ (issueRows db input).length = input.receivableIds.length ∧
      issueLocked db input context (issueRows db input) = .ok (invoice, db') := by
  rw [issueInvoice_eq] at h
  obtain ⟨⟨⟩, hcheck, hlocked⟩ := bind_eq_ok.mp h
  refine ⟨issuable_of_checkIssue hcheck, ?_, hlocked⟩
  unfold checkIssue at hcheck
  exact not_not.mp (failIf_bind_eq_ok.mp hcheck).1

end Issue

end AtlasErp
