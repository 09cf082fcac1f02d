import AtlasErp.Billing.InvoiceTotals
import AtlasErp.Lib.Table

/-! # The tables of merchant billing

Charges (receivables), invoices with their lines, payments with their allocations, and `BillingDb`, the
state the operations of billing share.  Amounts are minor units. -/

namespace AtlasErp

open Lib

/-- `merchant_receivables.status`. -/
inductive ReceivableStatus where
  | pending
  | partiallyPaid
  | paid
  | overdue
  | cancelled
  | disputed
  deriving DecidableEq

/-- `merchant_invoices.status`. -/
inductive InvoiceStatus where
  | draft
  | issued
  | partiallyPaid
  | paid
  | overdue
  | cancelled
  deriving DecidableEq

/-- `merchant_receivables`: a charge to a merchant. -/
structure MerchantReceivable where
  id : Nat
  accountId : Nat
  invoiceId : Option Nat
  sourceType : String
  sourceId : Option Nat
  productId : Option Nat
  amountOriginal : Int
  amountOpen : Int
  currency : String
  dueDate : Day
  status : ReceivableStatus
  deriving DecidableEq

/-- `merchant_invoices`. -/
structure MerchantInvoice where
  id : Nat
  accountId : Nat
  contractId : Option Nat
  invoiceNumber : String
  invoiceDate : Day
  dueDate : Day
  subtotalAmount : Int
  taxAmount : Int
  totalAmount : Int
  status : InvoiceStatus
  externalTaxRef : Option String
  deriving DecidableEq

/-- `merchant_invoice_lines`. -/
structure MerchantInvoiceLine where
  id : Nat
  invoiceId : Nat
  sourceType : String
  sourceId : Option Nat
  productId : Option Nat
  description : String
  quantity : String
  unitAmount : Int
  taxAmount : Int
  totalAmount : Int
  deriving DecidableEq

/-- `merchant_payments`. -/
structure MerchantPayment where
  id : Nat
  accountId : Nat
  amount : Int
  currency : String
  paidAt : Instant
  paymentMethod : Option String
  externalRef : Option String
  status : String
  deriving DecidableEq

/-- `merchant_payment_allocations`: how much of a payment goes to a charge. -/
structure MerchantPaymentAllocation where
  id : Nat
  paymentId : Nat
  receivableId : Nat
  amountApplied : Int
  deriving DecidableEq

/-- `billing_products`. -/
structure BillingProduct where
  id : Nat
  name : String
  sourceType : String
  deriving DecidableEq

instance : HasKey MerchantReceivable := ⟨(·.id), fun k r => { r with id := k }, fun _ _ => rfl, fun _ => rfl⟩
instance : HasKey MerchantInvoice := ⟨(·.id), fun k r => { r with id := k }, fun _ _ => rfl, fun _ => rfl⟩
instance : HasKey MerchantInvoiceLine := ⟨(·.id), fun k r => { r with id := k }, fun _ _ => rfl, fun _ => rfl⟩
instance : HasKey MerchantPayment := ⟨(·.id), fun k r => { r with id := k }, fun _ _ => rfl, fun _ => rfl⟩
instance : HasKey MerchantPaymentAllocation :=
  ⟨(·.id), fun k r => { r with id := k }, fun _ _ => rfl, fun _ => rfl⟩

@[simp] theorem key_receivable (r : MerchantReceivable) : HasKey.key r = r.id := rfl
@[simp] theorem key_invoice (r : MerchantInvoice) : HasKey.key r = r.id := rfl
@[simp] theorem key_allocation (r : MerchantPaymentAllocation) : HasKey.key r = r.id := rfl

/-- The tables billing shares. -/
structure BillingDb where
  products : List BillingProduct
  receivables : Table MerchantReceivable
  invoices : Table MerchantInvoice
  invoiceLines : Table MerchantInvoiceLine
  payments : Table MerchantPayment
  allocations : Table MerchantPaymentAllocation
  deriving DecidableEq

/-- An error of the money arithmetic that no handler of billing catches. -/
def MoneyError.uncaught : MoneyError → HttpError
  | .rangeError message => ⟨.internalServerError, none, message⟩
  | .unsupportedCurrency currency => ⟨.internalServerError, none, "Moneda no admitida: " ++ currency⟩
  | .currencyMismatch currencies => ⟨.internalServerError, none,
      "No se pueden combinar importes de monedas distintas: " ++ String.intercalate ", " currencies⟩
  | .amountOutOfRange minor reason => ⟨.internalServerError, none,
      "Importe fuera de rango (" ++ reason ++ "): " ++ fromMinorUnits minor⟩

/-- The money arithmetic inside an operation of billing. -/
def liftMoney {α : Type} (x : Except MoneyError α) : Except HttpError α := x.mapError MoneyError.uncaught

theorem liftMoney_eq_ok {α : Type} {x : Except MoneyError α} {a : α} :
    liftMoney x = .ok a ↔ x = .ok a := mapError_eq_ok

namespace BillingDb

variable (db : BillingDb)

/-- The receivables of an invoice. -/
def receivablesOf (invoiceId : Nat) : List MerchantReceivable :=
  db.receivables.rowsWhere (·.invoiceId = some invoiceId)

/-- What was allocated to a receivable. -/
def allocatedTo (receivableId : Nat) : Int :=
  db.allocations.total fun a => if a.receivableId = receivableId then a.amountApplied else 0

/-- What was allocated to the receivables of an invoice. -/
def allocatedToInvoice (invoiceId : Nat) : Int :=
  ((db.receivablesOf invoiceId).map fun r => db.allocatedTo r.id).sum

end BillingDb

end AtlasErp
