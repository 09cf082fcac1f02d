import AtlasErp.Accounting.Documents
import AtlasErp.Common.Numbers
import AtlasErp.Lib.Workers

/-! # Receipts and receivables

A receipt is allocated to invoices that are locked one after another; what is open of each is compared in doubles, a
trigger compares it in cents, and the status is written from doubles again.  The currency of an invoice is not looked at.

- `receiptMachine`: recordings in any interleaving, while invoices are issued;
- `ArDb.Settled`: no invoice has more than its gross amount, it is paid when it has all of it, in its own currency, and
  the allocations of a receipt are its amount;
- `ReciboExacto`: a receipt is recorded in the currency of its invoices, for the sum of its allocations, and every balance it
  leaves open shows in doubles;
- `bounded_of_reachable`, `settled_of_reachable`: the bound holds in every run, all of it in those that meet the
  condition. -/

namespace AtlasErp

open Lib

inductive ArInvoiceStatus where
  | draft
  | issued
  | partiallyPaid
  | paid
  | credited
  | void
  deriving DecidableEq

/-- `ar_invoice`; amounts in cents. -/
structure ArInvoice where
  id : Nat
  legalEntityId : Nat
  customerBpId : Nat
  currencyCode : Text
  grossAmount : Int
  status : ArInvoiceStatus
  deriving DecidableEq

inductive ReceiptStatus where
  | draft
  | recorded
  | posted
  | void
  deriving DecidableEq

structure ArReceipt where
  id : Nat
  legalEntityId : Nat
  payerBpId : Nat
  receiptNo : Text
  receiptDate : Instant
  amount : Int
  currencyCode : Text
  bankAccountId : Option Nat
  status : ReceiptStatus
  accountingDocumentId : Option Nat
  deriving DecidableEq

structure ReceiptAllocation where
  id : Nat
  receiptId : Nat
  arInvoiceId : Nat
  allocatedAmount : Int
  deriving DecidableEq

instance : HasKey ArInvoice := ⟨(·.id), fun k r => { r with id := k }, fun _ _ => rfl, fun _ => rfl⟩
instance : HasKey ArReceipt := ⟨(·.id), fun k r => { r with id := k }, fun _ _ => rfl, fun _ => rfl⟩
instance : HasKey ReceiptAllocation := ⟨(·.id), fun k r => { r with id := k }, fun _ _ => rfl, fun _ => rfl⟩

structure ArDb where
  invoices : Table ArInvoice
  receipts : Table ArReceipt
  allocations : Table ReceiptAllocation

structure AllocationInput where
  arInvoiceId : Nat
  allocatedAmount : JsNumber
  deriving DecidableEq

structure RecordReceiptDto where
  legalEntityId : Nat
  payerBpId : Nat
  receiptDate : Instant
  amount : JsNumber
  currencyCode : Text
  bankAccountId : Option Nat
  allocations : List AllocationInput
  deriving DecidableEq

/-! ## Amounts in doubles -/

/-- The double nearest to a number. -/
def double (x : ℚ) : ℚ := if x < 0 then -binary64 (-x) else binary64 x

/-- `0.009`. -/
def tolerance : ℚ := binary64 (9 / 1000)

/-- `positiveMoney`: more than zero, with two decimals at most. -/
def positiveMoney (x : JsNumber) : Bool := 0 < x ∧ (x * 100).den = 1

/-- `reduce((sum, allocation) => sum + Number(allocation.allocatedAmount), 0)`. -/
def allocationTotal (allocations : List AllocationInput) : ℚ :=
  allocations.foldl (fun sum allocation => double (sum + binary64 allocation.allocatedAmount)) 0

def assertAllocationTotal (input : RecordReceiptDto) : Except HttpError Unit :=
  failIf (tolerance < |double (allocationTotal input.allocations - binary64 input.amount)|)
    (invalidRequest "RECEIPT_ALLOCATION_TOTAL_MISMATCH"
      "La suma de asignaciones debe ser igual al monto total del recibo.")

/-- The entry of an invoice grows, or is added at the end of the map. -/
def addAllocation (entries : List (Nat × ℚ)) (allocation : AllocationInput) : List (Nat × ℚ) :=
  if allocation.arInvoiceId ∈ entries.map (·.1) then
    entries.map fun entry => if entry.1 = allocation.arInvoiceId then
      (entry.1, double (entry.2 + binary64 allocation.allocatedAmount)) else entry
  else entries ++ [(allocation.arInvoiceId, binary64 allocation.allocatedAmount)]

def allocationsByInvoice (allocations : List AllocationInput) : List (Nat × ℚ) := allocations.foldl addAllocation []

/-- `Number(invoice.grossAmount) - Number(allocated ?? 0)`. -/
def outstandingAmount (grossAmount allocated : Int) : ℚ :=
  double (binary64 (numberOf 2 grossAmount) - binary64 (numberOf 2 allocated))

def statusAfterAllocation (grossAmount allocated : Int) : ArInvoiceStatus :=
  if outstandingAmount grossAmount allocated ≤ tolerance then .paid else .partiallyPaid

/-! ## Statements -/

section Statements

variable (db : ArDb) (input : RecordReceiptDto)

/-- `SUM(allocated_amount)` of an invoice. -/
def ArDb.allocated (arInvoiceId : Nat) : Int :=
  db.allocations.total fun row => if row.arInvoiceId = arInvoiceId then row.allocatedAmount else 0

/-- The sum of the allocations of a receipt. -/
def ArDb.allocatedOf (receiptId : Nat) : Int :=
  db.allocations.total fun row => if row.receiptId = receiptId then row.allocatedAmount else 0

def assertInvoiceHasOpenBalance (arInvoiceId : Nat) (allocatedAmount : ℚ) : Except HttpError Unit := do
  let invoice ← orFail (db.invoices.find? arInvoiceId)
    (missing "AR_INVOICE_NOT_FOUND" "La factura AR asignada al cobro no existe.")
  failIf (invoice.legalEntityId ≠ input.legalEntityId ∨ invoice.customerBpId ≠ input.payerBpId)
    (conflict "RECEIPT_INVOICE_MISMATCH" "La factura AR no corresponde a la entidad legal o pagador del recibo.")
  failIf (invoice.status ≠ .issued ∧ invoice.status ≠ .partiallyPaid)
    (conflict "AR_INVOICE_NOT_OPEN"
      "Solo se pueden aplicar cobros a facturas AR emitidas o parcialmente pagadas.")
  failIf (tolerance < double (allocatedAmount - outstandingAmount invoice.grossAmount (db.allocated arInvoiceId)))
    (conflict "AR_INVOICE_ALLOCATION_EXCEEDS_OPEN_BALANCE"
      "La asignación del cobro excede el saldo abierto de la factura.")

/-- The amount of the receipt as its column keeps it. -/
def RecordReceiptDto.cents : Int := numericColumn 2 input.amount

/-- The allocations as their columns keep them: invoice and cents. -/
def RecordReceiptDto.rows : List (Nat × Int) :=
  input.allocations.map fun allocation => (allocation.arInvoiceId, numericColumn 2 allocation.allocatedAmount)

/-- What rows allocate to an invoice. -/
def allocatedBy (rows : List (Nat × Int)) (arInvoiceId : Nat) : Int :=
  (rows.map fun row => if row.1 = arInvoiceId then row.2 else 0).sum

/-- The rows of the statement one by one, after those that are inserted: the trigger, then the constraints. -/
def insertAllocations (inserted : List (Nat × Int)) : List (Nat × Int) → Except HttpError Unit
  | [] => .ok ()
  | row :: rest => do
    failIf (10 ^ 18 ≤ row.2) (raised "numeric field overflow")
    let invoice ← orFail (db.invoices.find? row.1) (raised "AR_INVOICE_NOT_FOUND")
    failIf (db.allocated row.1 + allocatedBy inserted row.1 + row.2 > invoice.grossAmount)
      (raised "AR_INVOICE_ALLOCATION_EXCEEDS_OPEN_BALANCE")
    failIf (row.2 ≤ 0) (raised "receipt_allocation_allocated_amount_check")
    failIf (row.1 ∈ inserted.map (·.1)) (raised "receipt_allocation_receipt_id_ar_invoice_id_key")
    insertAllocations (inserted ++ [row]) rest

/-- The receipt and its allocations. -/
def insertReceipt : Except HttpError Unit := do
  failIf (input.cents ≤ 0 ∨ 10 ^ 18 ≤ input.cents) (raised "receipt_amount_check")
  insertAllocations db [] input.rows

def newReceipt (receiptNo : Text) (accountingDocumentId id : Nat) : ArReceipt where
  id
  legalEntityId := input.legalEntityId
  payerBpId := input.payerBpId
  receiptNo
  receiptDate := input.receiptDate
  amount := input.cents
  currencyCode := input.currencyCode
  bankAccountId := input.bankAccountId
  status := .recorded
  accountingDocumentId := some accountingDocumentId

def newAllocation (receiptId : Nat) (row : Nat × Int) (id : Nat) : ReceiptAllocation := ⟨id, receiptId, row.1, row.2⟩

def setStatus (statuses : List (Nat × ArInvoiceStatus)) (invoice : ArInvoice) : ArInvoice :=
  { invoice with status := (statuses.lookup invoice.id).getD invoice.status }

/-- What a recording leaves when it commits. -/
def ArDb.record (statuses : List (Nat × ArInvoiceStatus)) (receiptNo : Text) (accountingDocumentId : Nat) : ArDb where
  invoices := db.invoices.updateWhere (fun _ => true) (setStatus statuses)
  receipts := db.receipts.create (newReceipt input receiptNo accountingDocumentId)
  allocations := input.rows.foldl (fun t row => t.create (newAllocation db.receipts.nextKey row)) db.allocations

end Statements

/-! ## Recordings in any interleaving -/

/-- What the transaction of a recording does next; `held` are the invoices it has locked. -/
inductive ReceiptPoint where
  | totals (input : RecordReceiptDto)
  | locking (input : RecordReceiptDto) (pending : List (Nat × ℚ)) (held : List Nat)
  | inserting (input : RecordReceiptDto) (held : List Nat)
  | updating (input : RecordReceiptDto) (pending : List Nat) (statuses : List (Nat × ArInvoiceStatus)) (held : List Nat)
  | recorded (input : RecordReceiptDto) (statuses : List (Nat × ArInvoiceStatus)) (accountingDocumentId : Nat)
      (held : List Nat)
  deriving DecidableEq

/-- What is not read from these tables. -/
structure ReceiptAnswer where
  /-- The payer may pay, and the accounts, the period and the ledger of the receipt are found. -/
  resolved : Bool
  receiptNo : Text
  /-- The entry of the receipt, unless it is refused. -/
  accountingDocumentId : Option Nat

def ReceiptPoint.held : ReceiptPoint → List Nat
  | .totals _ => []
  | .locking _ _ held | .inserting _ held | .updating _ _ _ held | .recorded _ _ _ held => held

def ReceiptPoint.next (db : ArDb) (answer : ReceiptAnswer) : ReceiptPoint → ArDb × Option ReceiptPoint
  | .totals input =>
    (db, if answer.resolved then
      ((assertAllocationTotal input).map fun _ => .locking input (allocationsByInvoice input.allocations) []).toOption
      else none)
  | .locking input ((arInvoiceId, allocatedAmount) :: pending) held =>
    (db, ((assertInvoiceHasOpenBalance db input arInvoiceId allocatedAmount).map fun _ =>
      .locking input pending (arInvoiceId :: held)).toOption)
  | .locking input [] held => (db, some (.inserting input held))
  | .inserting input held =>
    (db, ((insertReceipt db input).map fun _ =>
      .updating input (input.allocations.map (·.arInvoiceId)).eraseDups [] held).toOption)
  | .updating input (arInvoiceId :: pending) statuses held =>
    (db, some (.updating input pending ((db.invoices.find? arInvoiceId).toList.map (fun invoice => (arInvoiceId,
      statusAfterAllocation invoice.grossAmount (db.allocated arInvoiceId + allocatedBy input.rows arInvoiceId))) ++
        statuses) held))
  | .updating input [] statuses held => (db, answer.accountingDocumentId.map fun id => .recorded input statuses id held)
  | .recorded input statuses accountingDocumentId _ =>
    (db.record input statuses answer.receiptNo accountingDocumentId, none)

/-- An invoice that is issued. -/
structure IssuedInvoice where
  legalEntityId : Nat
  customerBpId : Nat
  currencyCode : Text
  grossAmount : Int
  positive : 0 < grossAmount

def issuedInvoice (invoice : IssuedInvoice) (id : Nat) : ArInvoice where
  id
  legalEntityId := invoice.legalEntityId
  customerBpId := invoice.customerBpId
  currencyCode := invoice.currencyCode
  grossAmount := invoice.grossAmount
  status := .issued

/-- A request that the schema takes, from who may act for the legal entity. -/
def canRecord (input : RecordReceiptDto) (user : AuthUser) : Bool :=
  positiveMoney input.amount ∧ input.allocations ≠ [] ∧ (∀ a ∈ input.allocations, positiveMoney a.allocatedAmount) ∧
    (assertCanAccessLegalEntity user input.legalEntityId).isOk

def receiptWorkers : Workers ArDb (RecordReceiptDto × AuthUser) ReceiptAnswer IssuedInvoice Nat ReceiptPoint where
  start request _ := if canRecord request.1 request.2 then some (.totals request.1) else none
  holds := ReceiptPoint.held
  next p answer db := some (p.next db answer)
  outside invoice db := some { db with invoices := db.invoices.create (issuedInvoice invoice) }

/-- **Receivables are settled.** -/
structure ArDb.Settled (db : ArDb) : Prop where
  bounded : ∀ i ∈ db.invoices, db.allocated i.id ≤ i.grossAmount
  paid : ∀ i ∈ db.invoices, i.status = .paid ↔ db.allocated i.id = i.grossAmount
  currency : ∀ a ∈ db.allocations, ∃ r ∈ db.receipts, ∃ i ∈ db.invoices, a.receiptId = r.id ∧ a.arInvoiceId = i.id ∧
    r.currencyCode = i.currencyCode
  amounts : ∀ r ∈ db.receipts, db.allocatedOf r.id = r.amount

abbrev ReceiptAct := WorkerAct (RecordReceiptDto × AuthUser) ReceiptAnswer IssuedInvoice

/-- Any interleaving, from receivables that are settled. -/
def receiptMachine : Machine (Sessions ArDb ReceiptPoint) ReceiptAct := receiptWorkers.machine ArDb.Settled

/-- What a receipt leaves open of an invoice shows in doubles. -/
def ArDb.shows (db : ArDb) (input : RecordReceiptDto) (invoice : ArInvoice) : Bool :=
  let allocated := db.allocated invoice.id + allocatedBy input.rows invoice.id
  allocated < invoice.grossAmount → tolerance < outstandingAmount invoice.grossAmount allocated

def ReceiptPoint.exacto (db : ArDb) : ReceiptPoint → Bool
  | .recorded input _ _ _ => (input.rows.map (·.2)).sum = input.cents ∧
      ∀ row ∈ input.rows, ∀ invoice ∈ db.invoices.find? row.1,
        invoice.currencyCode = input.currencyCode ∧ db.shows input invoice = true
  | _ => true

/-- **When a receipt is committed**, its cents are those of its allocations, its currency is the one of each invoice,
and what it leaves open shows in doubles. -/
def ReciboExacto : Sessions ArDb ReceiptPoint → ReceiptAct → Prop := Workers.GoesWhere fun p db => p.exacto db = true

/-! ## Sums -/

section Sums

variable {rows : List (Nat × Int)} {arInvoiceId : Nat}

theorem allocatedBy_cons (row : Nat × Int) :
    allocatedBy (row :: rows) arInvoiceId = (if row.1 = arInvoiceId then row.2 else 0) + allocatedBy rows arInvoiceId := by
  rw [allocatedBy, List.map_cons, List.sum_cons, allocatedBy]

theorem allocatedBy_of_not_mem (h : arInvoiceId ∉ rows.map (·.1)) : allocatedBy rows arInvoiceId = 0 := by
  refine List.sum_eq_zero fun cents hcents => ?_
  obtain ⟨row, hrow, rfl⟩ := List.mem_map.mp hcents
  exact if_neg fun heq => h (List.mem_map.mpr ⟨row, hrow, heq⟩)

/-- An invoice with one row. -/
theorem allocatedBy_of_mem (hnodup : (rows.map (·.1)).Nodup) {row : Nat × Int} (hrow : row ∈ rows) :
    allocatedBy rows row.1 = row.2 := by
  induction rows with
  | nil => cases hrow
  | cons first rest ih =>
    obtain ⟨hfirst, hrest⟩ := List.nodup_cons.mp hnodup
    rw [allocatedBy_cons]
    rcases List.mem_cons.mp hrow with rfl | hrow
    · rw [if_pos rfl, allocatedBy_of_not_mem hfirst, add_zero]
    · rw [if_neg fun heq => hfirst (List.mem_map.mpr ⟨row, hrow, heq.symm⟩), zero_add, ih hrest hrow]

end Sums

/-! ## Statements -/

section Facts

variable {db db' : ArDb} {input : RecordReceiptDto} {held : List Nat} {statuses : List (Nat × ArInvoiceStatus)}

/-- What the inserted rows were checked for: they are positive, each fits in its invoice, and no two are of the same. -/
theorem insertAllocations_eq_ok {inserted rest : List (Nat × Int)} (h : insertAllocations db inserted rest = .ok ()) :
    (rest.map (·.1)).Nodup ∧ ∀ row ∈ rest, row.1 ∉ inserted.map (·.1) ∧ 0 < row.2 ∧
      ∃ invoice ∈ db.invoices, invoice.id = row.1 ∧ db.allocated row.1 + row.2 ≤ invoice.grossAmount := by
  induction rest generalizing inserted with
  | nil => exact ⟨List.nodup_nil, fun row hrow => absurd hrow List.not_mem_nil⟩
  | cons first rest ih =>
    obtain ⟨_, -, h⟩ := bind_eq_ok.mp h
    obtain ⟨invoice, hinvoice, h⟩ := bind_eq_ok.mp h
    obtain ⟨_, hfits, h⟩ := bind_eq_ok.mp h
    obtain ⟨_, hpositive, h⟩ := bind_eq_ok.mp h
    obtain ⟨_, hunique, h⟩ := bind_eq_ok.mp h
    obtain ⟨hnodup, hrest⟩ := ih h
    have hnew := failIf_eq_ok.mp hunique
    have hbound := failIf_eq_ok.mp hfits
    obtain ⟨hmem, hid⟩ := Table.find?_eq_some.mp (orFail_eq_ok.mp hinvoice)
    rw [allocatedBy_of_not_mem hnew, add_zero] at hbound
    refine ⟨List.nodup_cons.mpr ⟨fun hin => ?_, hnodup⟩, fun row hrow => ?_⟩
    · obtain ⟨row, hrow, heq⟩ := List.mem_map.mp hin
      exact (hrest row hrow).1 (by simp [heq])
    · rcases List.mem_cons.mp hrow with rfl | hrow
      · exact ⟨hnew, not_le.mp (failIf_eq_ok.mp hpositive), invoice, hmem, hid, not_lt.mp hbound⟩
      · obtain ⟨hnot, hfacts⟩ := hrest row hrow
        rw [List.map_append] at hnot
        exact ⟨fun hin => hnot (List.mem_append_left _ hin), hfacts⟩

/-- The map has an entry for every allocation. -/
theorem mem_allocationsByInvoice {allocations : List AllocationInput} {a : AllocationInput} (h : a ∈ allocations) :
    a.arInvoiceId ∈ (allocationsByInvoice allocations).map (·.1) := by
  have hkeys : ∀ (entries : List (Nat × ℚ)) (b : AllocationInput) (id : Nat),
      id ∈ (addAllocation entries b).map (·.1) ↔ id ∈ entries.map (·.1) ∨ id = b.arInvoiceId := by
    intro entries b id
    rw [addAllocation]
    split
    · have hsame : ((fun entry : Nat × ℚ => entry.1) ∘ fun entry => if entry.1 = b.arInvoiceId then
          (entry.1, double (entry.2 + binary64 b.allocatedAmount)) else entry) = (·.1) := by
        funext entry
        dsimp only [Function.comp]
        split <;> rfl
      rw [List.map_map, hsame]
      exact ⟨.inl, fun hin => hin.elim (fun hin => hin) fun heq => heq ▸ ‹_›⟩
    · simp
  have hfold : ∀ (rest : List AllocationInput) (entries : List (Nat × ℚ)) (id : Nat),
      id ∈ entries.map (·.1) ∨ (∃ b ∈ rest, id = b.arInvoiceId) → id ∈ (rest.foldl addAllocation entries).map (·.1) := by
    intro rest
    induction rest with
    | nil =>
      rintro entries id (hin | ⟨b, hb, -⟩)
      · exact hin
      · cases hb
    | cons b rest ih =>
      rintro entries id (hin | ⟨b', hb', heq⟩)
      · exact ih _ id (.inl ((hkeys entries b id).mpr (.inl hin)))
      · rcases List.mem_cons.mp hb' with rfl | hb'
        · exact ih _ id (.inl ((hkeys entries b' id).mpr (.inr heq)))
        · exact ih _ id (.inr ⟨b', hb', heq⟩)
  exact hfold allocations [] a.arInvoiceId (.inr ⟨a, h, rfl⟩)

/-- What a transaction that has inserted its rows relies on: each fits in its invoice, which it has locked, and the
statuses it has computed are those of their invoices. -/
structure Updating (db : ArDb) (input : RecordReceiptDto) (pending : List Nat)
    (statuses : List (Nat × ArInvoiceStatus)) (held : List Nat) : Prop where
  nodup : (input.rows.map (·.1)).Nodup
  fits : ∀ row ∈ input.rows, row.1 ∈ held ∧
    ∃ invoice ∈ db.invoices, invoice.id = row.1 ∧ db.allocated row.1 + row.2 ≤ invoice.grossAmount
  known : ∀ id ∈ pending, id ∈ input.rows.map (·.1)
  computed : ∀ x ∈ statuses, x.1 ∈ input.rows.map (·.1) ∧ ∃ invoice ∈ db.invoices, invoice.id = x.1 ∧
    x.2 = statusAfterAllocation invoice.grossAmount (db.allocated x.1 + allocatedBy input.rows x.1)
  covers : ∀ row ∈ input.rows, row.1 ∈ pending ∨ row.1 ∈ statuses.map (·.1)

/-- What a transaction relies on. -/
def ReceiptPoint.Relies (db : ArDb) : ReceiptPoint → Prop
  | .totals _ => True
  | .locking input pending held => ∀ row ∈ input.rows, row.1 ∈ held ∨ row.1 ∈ pending.map (·.1)
  | .inserting input held => ∀ row ∈ input.rows, row.1 ∈ held
  | .updating input pending statuses held => Updating db input pending statuses held
  | .recorded input statuses _ held => Updating db input [] statuses held

/-- The invoices stay, and what is allocated to those that are locked. -/
theorem ReceiptPoint.Relies.mono {p : ReceiptPoint} (h : p.Relies db)
    (hinvoices : ∀ i ∈ db.invoices, ∃ i' ∈ db'.invoices, i'.id = i.id ∧ i'.grossAmount = i.grossAmount)
    (hallocated : ∀ id ∈ p.held, db'.allocated id = db.allocated id) : p.Relies db' := by
  have hupdating : ∀ {input pending statuses held}, (∀ id ∈ held, db'.allocated id = db.allocated id) →
      Updating db input pending statuses held → Updating db' input pending statuses held := by
    intro input pending statuses held hallocated h
    have hheld : ∀ id ∈ input.rows.map (·.1), db'.allocated id = db.allocated id := by
      intro id hid
      obtain ⟨row, hrow, rfl⟩ := List.mem_map.mp hid
      exact hallocated _ (h.fits row hrow).1
    refine ⟨h.nodup, fun row hrow => ?_, h.known, fun x hx => ?_, h.covers⟩
    · obtain ⟨hin, i, hi, hid, hfits⟩ := h.fits row hrow
      obtain ⟨i', hi', hid', hgross⟩ := hinvoices i hi
      rw [hallocated _ hin]
      exact ⟨hin, i', hi', hid'.trans hid, hgross ▸ hfits⟩
    · obtain ⟨hin, i, hi, hid, hstatus⟩ := h.computed x hx
      obtain ⟨i', hi', hid', hgross⟩ := hinvoices i hi
      rw [hheld _ hin]
      exact ⟨hin, i', hi', hid'.trans hid, hgross ▸ hstatus⟩
  cases p with
  | totals | locking | inserting => exact h
  | updating => exact hupdating hallocated h
  | recorded => exact hupdating hallocated h

theorem key_newAllocation (receiptId : Nat) (row : Nat × Int) (id : Nat) :
    HasKey.key (newAllocation receiptId row id) = id := rfl

theorem allocated_record {receiptNo : Text} {documentId : Nat} (id : Nat) :
    (db.record input statuses receiptNo documentId).allocated id = db.allocated id + allocatedBy input.rows id :=
  Table.total_foldl_create (w := fun row : ReceiptAllocation => if row.arInvoiceId = id then row.allocatedAmount else 0)
    (v := fun row : Nat × Int => if row.1 = id then row.2 else 0) (key_newAllocation db.receipts.nextKey)
    (fun _ _ => rfl) _

/-- The allocations of a receipt: those of the new one are its rows. -/
theorem allocatedOf_record {receiptNo : Text} {documentId : Nat} (id : Nat) :
    (db.record input statuses receiptNo documentId).allocatedOf id =
      db.allocatedOf id + if db.receipts.nextKey = id then (input.rows.map (·.2)).sum else 0 := by
  refine (Table.total_foldl_create
    (w := fun row : ReceiptAllocation => if row.receiptId = id then row.allocatedAmount else 0)
    (v := fun row : Nat × Int => if db.receipts.nextKey = id then row.2 else 0) (key_newAllocation db.receipts.nextKey)
    (fun _ _ => rfl) _).trans (congrArg _ ?_)
  split
  · rfl
  · refine List.sum_eq_zero fun cents hcents => ?_
    obtain ⟨row, -, rfl⟩ := List.mem_map.mp hcents
    rfl

theorem mem_record {receiptNo : Text} {documentId : Nat} {i' : ArInvoice} :
    i' ∈ (db.record input statuses receiptNo documentId).invoices ↔ ∃ i ∈ db.invoices, setStatus statuses i = i' := by
  have hkey : ∀ i, HasKey.key (setStatus statuses i) = HasKey.key i := fun _ => rfl
  refine (Table.mem_updateWhere hkey).trans (exists_congr fun i => and_congr_right fun _ => ?_)
  rw [if_pos rfl]

/-- **What a statement does**: it reads, or it commits a receipt. -/
inductive ReceiptStep (db : ArDb) : ReceiptPoint → ArDb → Option ReceiptPoint → Prop where
  | reads {p : ReceiptPoint} {q : Option ReceiptPoint} (quiet : p.exacto db = true)
      (relies : p.Relies db → ∀ p' ∈ q, p'.Relies db) : ReceiptStep db p db q
  | records {input : RecordReceiptDto} {statuses : List (Nat × ArInvoiceStatus)} {receiptNo : Text} {documentId : Nat}
      {held : List Nat} : ReceiptStep db (.recorded input statuses documentId held)
        (db.record input statuses receiptNo documentId) none

theorem mem_ids {id : Nat} : id ∈ (input.allocations.map (·.arInvoiceId)).eraseDups ↔ id ∈ input.rows.map (·.1) := by
  rw [List.mem_eraseDups, RecordReceiptDto.rows, List.map_map]
  rfl

/-- The next status is computed. -/
theorem Updating.next {id : Nat} {pending : List Nat} (h : Updating db input (id :: pending) statuses held) :
    Updating db input pending ((db.invoices.find? id).toList.map (fun invoice => (id,
      statusAfterAllocation invoice.grossAmount (db.allocated id + allocatedBy input.rows id))) ++ statuses) held := by
  have hid := h.known id List.mem_cons_self
  refine ⟨h.nodup, h.fits, fun id' hid' => h.known id' (List.mem_cons_of_mem _ hid'), fun x hx => ?_, fun row hrow => ?_⟩
  · rcases List.mem_append.mp hx with hx | hx
    · obtain ⟨invoice, hinvoice, rfl⟩ := List.mem_map.mp hx
      obtain ⟨hmem, hkey⟩ := Table.find?_eq_some.mp (Option.mem_toList.mp hinvoice)
      exact ⟨hid, invoice, hmem, hkey, rfl⟩
    · exact h.computed x hx
  · rw [List.map_append]
    rcases h.covers row hrow with hin | hin
    · rcases List.mem_cons.mp hin with heq | hin
      · obtain ⟨-, invoice, hmem, hkey, -⟩ := h.fits row hrow
        have hfind : db.invoices.find? id = some invoice := Table.find?_eq_some.mpr ⟨hmem, hkey.trans heq⟩
        refine .inr (List.mem_append_left _ ?_)
        rw [hfind, heq]
        exact List.mem_singleton.mpr rfl
      · exact .inl hin
    · exact .inr (List.mem_append_right _ hin)

theorem receiptStep_of_next {answer : ReceiptAnswer} {p : ReceiptPoint} {q : Option ReceiptPoint}
    (h : receiptWorkers.next p answer db = some (db', q)) : ReceiptStep db p db' q := by
  obtain ⟨rfl, rfl⟩ := Prod.mk.inj (Option.some.inj h)
  cases p with
  | totals input =>
    refine .reads rfl fun _ p' hp' => ?_
    obtain ⟨-, hp'⟩ := Option.ite_none_right_eq_some.mp hp'
    obtain ⟨_, -, rfl⟩ := map_eq_ok.mp (toOption_eq_some.mp hp')
    intro row hrow
    obtain ⟨a, ha, rfl⟩ := List.mem_map.mp hrow
    exact .inr (mem_allocationsByInvoice ha)
  | locking input pending held =>
    cases pending with
    | nil =>
      refine .reads rfl fun hrelies p' hp' => ?_
      obtain rfl := Option.some.inj hp'
      exact fun row hrow => (hrelies row hrow).resolve_right List.not_mem_nil
    | cons entry pending =>
      refine .reads rfl fun hrelies p' hp' => ?_
      obtain ⟨_, -, rfl⟩ := map_eq_ok.mp (toOption_eq_some.mp hp')
      intro row hrow
      rcases hrelies row hrow with hin | hin
      · exact .inl (List.mem_cons_of_mem _ hin)
      · rcases List.mem_cons.mp hin with heq | hin
        · exact .inl (heq ▸ List.mem_cons_self)
        · exact .inr hin
  | inserting input held =>
    refine .reads rfl fun hrelies p' hp' => ?_
    obtain ⟨_, hinsert, rfl⟩ := map_eq_ok.mp (toOption_eq_some.mp hp')
    obtain ⟨_, -, hrows⟩ := bind_eq_ok.mp hinsert
    obtain ⟨hnodup, hfits⟩ := insertAllocations_eq_ok hrows
    exact ⟨hnodup, fun row hrow => ⟨hrelies row hrow, (hfits row hrow).2.2⟩, fun id hid => mem_ids.mp hid,
      fun x hx => absurd hx List.not_mem_nil, fun row hrow => .inl (mem_ids.mpr (List.mem_map_of_mem hrow))⟩
  | updating input pending statuses held =>
    cases pending with
    | nil =>
      refine .reads rfl fun hrelies p' hp' => ?_
      obtain ⟨_, -, rfl⟩ := Option.map_eq_some_iff.mp hp'
      exact hrelies
    | cons id pending =>
      refine .reads rfl fun hrelies p' hp' => ?_
      obtain rfl := Option.some.inj hp'
      exact Updating.next hrelies
  | recorded => exact .records

/-! ## Commits -/

/-- What every run keeps: an allocation has its invoice, and none has more than its gross amount. -/
structure ArDb.Kept (db : ArDb) : Prop where
  known : ∀ a ∈ db.allocations, ∃ i ∈ db.invoices, a.arInvoiceId = i.id
  bounded : ∀ i ∈ db.invoices, db.allocated i.id ≤ i.grossAmount

theorem ArDb.Settled.kept (h : db.Settled) : db.Kept where
  known a ha := by
    obtain ⟨_, -, i, hi, -, heq, -⟩ := h.currency a ha
    exact ⟨i, hi, heq⟩
  bounded := h.bounded

/-- What is allocated to an invoice that a receipt is not for. -/
theorem Updating.lookup_of_not_mem {pending : List Nat} (h : Updating db input pending statuses held) {id : Nat}
    (hid : id ∉ input.rows.map (·.1)) : statuses.lookup id = none := by
  refine List.lookup_eq_none_iff.mpr fun x hx => bne_iff_ne.mpr fun heq => ?_
  exact hid (heq ▸ (h.computed x hx).1)

/-- The status that is computed for an invoice. -/
theorem Updating.lookup_of_mem (h : Updating db input [] statuses held) {i : ArInvoice} (hi : i ∈ db.invoices)
    (hid : i.id ∈ input.rows.map (·.1)) : statuses.lookup i.id =
      some (statusAfterAllocation i.grossAmount (db.allocated i.id + allocatedBy input.rows i.id)) := by
  obtain ⟨row, hrow, heq⟩ := List.mem_map.mp hid
  have hin : i.id ∈ statuses.map (·.1) := heq ▸ (h.covers row hrow).resolve_left List.not_mem_nil
  obtain ⟨x, hx, hkey⟩ := List.mem_map.mp hin
  have hsome : (statuses.lookup i.id).isSome = true := List.lookup_isSome_iff.mpr ⟨x, hx, beq_iff_eq.mpr hkey.symm⟩
  obtain ⟨status, hstatus⟩ := Option.isSome_iff_exists.mp hsome
  obtain ⟨before, after, hsplit, -⟩ := List.lookup_eq_some_iff.mp hstatus
  have hmem : (i.id, status) ∈ statuses := hsplit ▸ List.mem_append_right _ List.mem_cons_self
  obtain ⟨-, i', hi', hid', hcomputed⟩ := h.computed _ hmem
  obtain rfl : i' = i := Table.eq_of_key_eq hi' hi hid'
  exact hstatus.trans (congrArg some hcomputed)

/-- An invoice takes what a receipt allocates to it. -/
theorem Updating.fits_invoice {pending : List Nat} (h : Updating db input pending statuses held) (hkept : db.Kept)
    {i : ArInvoice} (hi : i ∈ db.invoices) : db.allocated i.id + allocatedBy input.rows i.id ≤ i.grossAmount := by
  by_cases hid : i.id ∈ input.rows.map (·.1)
  · obtain ⟨row, hrow, heq⟩ := List.mem_map.mp hid
    obtain ⟨-, i', hi', hid', hfits⟩ := h.fits row hrow
    obtain rfl : i' = i := Table.eq_of_key_eq hi' hi (hid'.trans heq)
    rw [← heq, allocatedBy_of_mem h.nodup hrow]
    exact hfits
  · rw [allocatedBy_of_not_mem hid, add_zero]
    exact hkept.bounded i hi

/-- **A commit keeps the bound.** -/
theorem ArDb.Kept.record (hkept : db.Kept) (h : Updating db input [] statuses held) {receiptNo : Text}
    {documentId : Nat} : (db.record input statuses receiptNo documentId).Kept where
  known a ha := by
    have hinvoice : ∃ i ∈ db.invoices, a.arInvoiceId = i.id := by
      rcases Table.mem_foldl_create (key_newAllocation db.receipts.nextKey) ha with ha | ⟨row, hrow, _, rfl⟩
      · exact hkept.known a ha
      · obtain ⟨-, i, hi, hid, -⟩ := h.fits row hrow
        exact ⟨i, hi, hid.symm⟩
    obtain ⟨i, hi, heq⟩ := hinvoice
    exact ⟨setStatus statuses i, mem_record.mpr ⟨i, hi, rfl⟩, heq⟩
  bounded i' hi' := by
    obtain ⟨i, hi, rfl⟩ := mem_record.mp hi'
    rw [allocated_record]
    have hfits := h.fits_invoice hkept hi
    exact hfits

theorem statusAfterAllocation_eq_paid {grossAmount allocated : Int} :
    statusAfterAllocation grossAmount allocated = .paid ↔ outstandingAmount grossAmount allocated ≤ tolerance := by
  rw [statusAfterAllocation]
  split
  · exact iff_of_true rfl ‹_›
  · exact iff_of_false (fun h => nomatch h) ‹_›

/-- Nothing is open of an invoice that has its gross amount, in doubles either. -/
theorem outstandingAmount_self (grossAmount : Int) : outstandingAmount grossAmount grossAmount ≤ tolerance := by
  rw [outstandingAmount, sub_self]
  decide +kernel

/-- An invoice is paid exactly when nothing is open of it, if what is open shows. -/
theorem shows_iff {i : ArInvoice} (hfits : db.allocated i.id + allocatedBy input.rows i.id ≤ i.grossAmount) :
    db.shows input i = true ↔
      (statusAfterAllocation i.grossAmount (db.allocated i.id + allocatedBy input.rows i.id) = .paid ↔
        db.allocated i.id + allocatedBy input.rows i.id = i.grossAmount) := by
  rw [ArDb.shows, decide_eq_true_iff, statusAfterAllocation_eq_paid]
  constructor
  · intro hshows
    refine ⟨fun hpaid => ?_, fun heq => heq ▸ outstandingAmount_self _⟩
    exact hfits.antisymm (not_lt.mp fun hlt => absurd hpaid (not_le.mpr (hshows hlt)))
  · intro hiff hlt
    exact not_le.mp fun hpaid => absurd (hiff.mp hpaid) hlt.ne

/-- **Up to an amount of 10^12**, a cent that is open shows: the doubles of both amounts are nearer than that. -/
theorem tolerance_lt_outstandingAmount {grossAmount allocated : Int} (hallocated : 0 ≤ allocated)
    (hopen : allocated < grossAmount) (hbound : grossAmount ≤ 10 ^ 14) :
    tolerance < outstandingAmount grossAmount allocated := by
  have hcent : numberOf 2 allocated + 1 / 100 ≤ numberOf 2 grossAmount := by
    have hcast : (allocated : ℚ) + 1 ≤ grossAmount := by exact_mod_cast hopen
    rw [numberOf, numberOf]
    linarith
  have hlow : 0 ≤ numberOf 2 allocated := div_nonneg (by exact_mod_cast hallocated) (by norm_num)
  have hhigh : numberOf 2 grossAmount ≤ 10 ^ 12 := by
    have hcast : (grossAmount : ℚ) ≤ 10 ^ 14 := by exact_mod_cast hbound
    rw [numberOf]
    linarith
  have hgross := abs_le.mp (abs_binary64_sub_le (hlow.trans (by linarith : numberOf 2 allocated ≤ numberOf 2 grossAmount)))
  have hless := abs_le.mp (abs_binary64_sub_le hlow)
  have hdifference : (97 : ℚ) / 10000 ≤ binary64 (numberOf 2 grossAmount) - binary64 (numberOf 2 allocated) := by
    norm_num at hgross hless hhigh ⊢
    linarith
  have hnear := abs_le.mp (abs_binary64_sub_le (x := binary64 (numberOf 2 grossAmount) - binary64 (numberOf 2 allocated))
    (by linarith))
  have htolerance : tolerance < 91 / 10000 := by decide +kernel
  rw [outstandingAmount, double, if_neg (by linarith)]
  norm_num at hnear ⊢
  linarith

/-- No allocation is of a receipt that is not there. -/
theorem ArDb.Settled.allocatedOf_nextKey (h : db.Settled) : db.allocatedOf db.receipts.nextKey = 0 := by
  refine Table.total_eq_zero fun a ha => if_neg fun heq => ?_
  obtain ⟨r, hr, -, -, hreceipt, -⟩ := h.currency a ha
  exact absurd (hreceipt.symm.trans heq) (Nat.ne_of_lt (Table.key_lt_nextKey hr))

/-- **A commit leaves receivables settled** when it meets the condition. -/
theorem ArDb.Settled.record (hsettled : db.Settled) (h : Updating db input [] statuses held) {receiptNo : Text}
    {documentId : Nat} (hsum : (input.rows.map (·.2)).sum = input.cents)
    (hrows : ∀ row ∈ input.rows, ∀ i ∈ db.invoices.find? row.1,
      i.currencyCode = input.currencyCode ∧ db.shows input i = true) :
    (db.record input statuses receiptNo documentId).Settled := by
  have hkept := hsettled.kept
  constructor
  · exact (hkept.record h).bounded
  · intro i' hi'
    obtain ⟨i, hi, rfl⟩ := mem_record.mp hi'
    rw [allocated_record]
    by_cases hid : i.id ∈ input.rows.map (·.1)
    · obtain ⟨row, hrow, heq⟩ := List.mem_map.mp hid
      have hfind : db.invoices.find? row.1 = some i := Table.find?_eq_some.mpr ⟨hi, heq.symm⟩
      have hstatus : (setStatus statuses i).status = statusAfterAllocation i.grossAmount
          (db.allocated i.id + allocatedBy input.rows i.id) := by rw [setStatus, h.lookup_of_mem hi hid]; rfl
      rw [hstatus]
      exact (shows_iff (h.fits_invoice hkept hi)).mp (hrows row hrow i hfind).2
    · have hstatus : (setStatus statuses i).status = i.status := by rw [setStatus, h.lookup_of_not_mem hid]; rfl
      have hnone : allocatedBy input.rows (setStatus statuses i).id = 0 := allocatedBy_of_not_mem hid
      rw [hstatus, hnone, add_zero]
      exact hsettled.paid i hi
  · intro a ha
    rcases Table.mem_foldl_create (key_newAllocation db.receipts.nextKey) ha with ha | ⟨row, hrow, _, rfl⟩
    · obtain ⟨r, hr, i, hi, hreceipt, hinvoice, hcurrency⟩ := hsettled.currency a ha
      exact ⟨r, Table.mem_create_of_mem (fun _ => rfl) hr, setStatus statuses i, mem_record.mpr ⟨i, hi, rfl⟩, hreceipt,
        hinvoice, hcurrency⟩
    · obtain ⟨-, i, hi, hid, -⟩ := h.fits row hrow
      have hfind : db.invoices.find? row.1 = some i := Table.find?_eq_some.mpr ⟨hi, hid⟩
      exact ⟨_, (Table.mem_create fun _ => rfl).mpr (.inr rfl), setStatus statuses i, mem_record.mpr ⟨i, hi, rfl⟩, rfl,
        hid.symm, (hrows row hrow i hfind).1.symm⟩
  · intro r hr
    rw [allocatedOf_record]
    rcases (Table.mem_create fun _ => rfl).mp hr with hr | rfl
    · have hne : db.receipts.nextKey ≠ r.id := Nat.ne_of_gt (Table.key_lt_nextKey hr)
      rw [if_neg hne, add_zero]
      exact hsettled.amounts r hr
    · have hkey : (newReceipt input receiptNo documentId db.receipts.nextKey).id = db.receipts.nextKey := rfl
      rw [hkey, hsettled.allocatedOf_nextKey, if_pos rfl, zero_add, hsum]
      rfl

/-- **It does only then.** -/
theorem ArDb.Settled.of_record (hsettled : db.Settled) (h : Updating db input [] statuses held) {receiptNo : Text}
    {documentId : Nat} (hnew : (db.record input statuses receiptNo documentId).Settled) :
    (input.rows.map (·.2)).sum = input.cents ∧ ∀ row ∈ input.rows, ∀ i ∈ db.invoices.find? row.1,
      i.currencyCode = input.currencyCode ∧ db.shows input i = true := by
  have hreceipt : newReceipt input receiptNo documentId db.receipts.nextKey ∈
      (db.record input statuses receiptNo documentId).receipts := (Table.mem_create fun _ => rfl).mpr (.inr rfl)
  refine ⟨?_, fun row hrow i hfind => ⟨?_, ?_⟩⟩
  · have hamount := hnew.amounts _ hreceipt
    have hkey : (newReceipt input receiptNo documentId db.receipts.nextKey).id = db.receipts.nextKey := rfl
    rw [allocatedOf_record, hkey, hsettled.allocatedOf_nextKey, if_pos rfl, zero_add] at hamount
    exact hamount
  · obtain ⟨hi, hid⟩ := Table.find?_eq_some.mp hfind
    obtain ⟨_, ha⟩ := Table.exists_foldl_create (key_newAllocation db.receipts.nextKey) hrow (t := db.allocations)
    obtain ⟨r, hr, i', hi', hreceiptId, hinvoiceId, hcurrency⟩ := hnew.currency _ ha
    obtain ⟨old, hold, rfl⟩ := mem_record.mp hi'
    obtain rfl : r = _ := Table.eq_of_key_eq hr hreceipt hreceiptId.symm
    obtain rfl : old = i := Table.eq_of_key_eq hold hi (hinvoiceId.symm.trans hid.symm)
    exact hcurrency.symm
  · obtain ⟨hi, hid⟩ := Table.find?_eq_some.mp hfind
    have hin : i.id ∈ input.rows.map (·.1) := List.mem_map.mpr ⟨row, hrow, hid.symm⟩
    have hpaid := hnew.paid _ (mem_record.mpr ⟨i, hi, rfl⟩)
    have hstatus : (setStatus statuses i).status = statusAfterAllocation i.grossAmount
        (db.allocated i.id + allocatedBy input.rows i.id) := by rw [setStatus, h.lookup_of_mem hi hin]; rfl
    rw [hstatus, allocated_record] at hpaid
    exact (shows_iff (h.fits_invoice hsettled.kept hi)).mpr hpaid

/-- Nothing is allocated to an invoice that is not there yet. -/
theorem ArDb.Kept.allocated_nextKey (h : db.Kept) : db.allocated db.invoices.nextKey = 0 := by
  refine Table.total_eq_zero fun a ha => if_neg fun heq => ?_
  obtain ⟨i, hi, hinvoice⟩ := h.known a ha
  exact absurd (hinvoice.symm.trans heq) (Nat.ne_of_lt (Table.key_lt_nextKey hi))

/-- What an issue leaves. -/
def ArDb.issue (db : ArDb) (invoice : IssuedInvoice) : ArDb :=
  { db with invoices := db.invoices.create (issuedInvoice invoice) }

theorem mem_issue {invoice : IssuedInvoice} {i : ArInvoice} :
    i ∈ (db.issue invoice).invoices ↔ i ∈ db.invoices ∨ i = issuedInvoice invoice db.invoices.nextKey :=
  Table.mem_create fun _ => rfl

theorem ArDb.Kept.issue (h : db.Kept) (invoice : IssuedInvoice) : (db.issue invoice).Kept where
  known a ha := by
    obtain ⟨i, hi, heq⟩ := h.known a ha
    exact ⟨i, mem_issue.mpr (.inl hi), heq⟩
  bounded i hi := by
    rcases mem_issue.mp hi with hi | rfl
    · exact h.bounded i hi
    · exact h.allocated_nextKey.le.trans invoice.positive.le

theorem ArDb.Settled.issue (h : db.Settled) (invoice : IssuedInvoice) : (db.issue invoice).Settled where
  bounded := (h.kept.issue invoice).bounded
  paid i hi := by
    rcases mem_issue.mp hi with hi | rfl
    · exact h.paid i hi
    · refine iff_of_false (fun hpaid => nomatch hpaid) fun heq => ?_
      exact absurd (h.kept.allocated_nextKey.symm.trans heq) invoice.positive.ne
  currency a ha := by
    obtain ⟨r, hr, i, hi, hfacts⟩ := h.currency a ha
    exact ⟨r, hr, i, mem_issue.mpr (.inl hi), hfacts⟩
  amounts := h.amounts

end Facts

/-! ## Runs -/

section Runs

variable {S : Sessions ArDb ReceiptPoint} {ok : Sessions ArDb ReceiptPoint → ReceiptAct → Prop}

theorem receiptWorkers_promises :
    receiptWorkers.Promises receiptWorkers.Exclusive ok ArDb.Kept fun p db => p.Relies db where
  start {S task p} _ _ hstart := by
    obtain ⟨-, h⟩ := Option.ite_none_right_eq_some.mp hstart
    obtain rfl := Option.some.inj h
    trivial
  next {S w answer p store q} _ hS hfind _ hnext := by
    have hrelies := hS.at hfind
    cases receiptStep_of_next hnext with
    | reads _ hnext => exact ⟨hS.store, hnext hrelies⟩
    | records => exact ⟨hS.store.record hrelies, fun p' hp' => absurd hp' (Option.not_mem_none p')⟩
  stable {S w answer p store q} hexclusive hS hfind _ hnext x hx := by
    obtain ⟨hx, hne⟩ := Sessions.mem_others.mp hx
    have hrelies := hS.at hfind
    have hfree : ∀ id ∈ x.2.held, id ∉ p.held := hexclusive x hx (w, p) (S.mem_of_find? hfind) hne
    cases receiptStep_of_next hnext with
    | reads => exact hS.worker x hx
    | @records input statuses receiptNo documentId held =>
      refine (hS.worker x hx).mono (fun i hi => ⟨_, mem_record.mpr ⟨i, hi, rfl⟩, rfl, rfl⟩) fun id hid => ?_
      rw [allocated_record, allocatedBy_of_not_mem, add_zero]
      intro hin
      obtain ⟨row, hrow, rfl⟩ := List.mem_map.mp hin
      exact hfree _ hid (Updating.fits hrelies row hrow).1
  outside {S invoice store} _ hS _ hout := by
    obtain rfl := Option.some.inj hout
    exact ⟨hS.store.issue invoice, fun x hx => (hS.worker x hx).mono
      (fun i hi => ⟨i, mem_issue.mpr (.inl hi), rfl, rfl⟩) fun _ _ => rfl⟩

theorem receiptKeeps (h : receiptMachine.Reachable ok S) :
    Workers.Keeps ArDb.Kept (fun p db => p.Relies db) S :=
  Workers.keeps receiptWorkers_promises (fun _ hinit => hinit.kept) (fun _ hS => Workers.exclusive hS) h

/-- **In every run** no invoice is allocated more than its gross amount. -/
theorem bounded_of_reachable (h : receiptMachine.Reachable ok S) :
    ∀ i ∈ S.committed.invoices, S.committed.allocated i.id ≤ i.grossAmount := (receiptKeeps h).store.bounded

/-- A statement leaves receivables settled exactly when it meets the condition. -/
theorem settled_step_iff {S' : Sessions ArDb ReceiptPoint} {w : Nat} {answer : ReceiptAnswer}
    (hS : Workers.Keeps ArDb.Kept (fun p db => p.Relies db) S) (hsettled : S.committed.Settled)
    (hstep : receiptMachine.step S (.go w answer) = some S') :
    S'.committed.Settled ↔ ReciboExacto S (.go w answer) := by
  have hcase : receiptWorkers.StepCase S (.go w answer) S' := Workers.step_cases hstep
  obtain ⟨p, hfind⟩ : ∃ p, S.find? w = some p := by
    cases hcase with
    | moved hfind _ _ => exact ⟨_, hfind⟩
    | done hfind _ => exact ⟨_, hfind⟩
  obtain ⟨q, hnext⟩ := Workers.next_of_step hstep hfind
  have hok : ReciboExacto S (.go w answer) ↔ p.exacto S.committed = true :=
    ⟨fun h => h p hfind, fun h p' hp' => Option.some.inj (hfind.symm.trans hp') ▸ h⟩
  rw [hok]
  have hrelies := hS.at hfind
  have hpoint := receiptStep_of_next hnext
  generalize S'.committed = store at hpoint ⊢
  cases hpoint with
  | reads hquiet => exact iff_of_true hsettled hquiet
  | records =>
    rw [ReceiptPoint.exacto, decide_eq_true_iff]
    exact ⟨fun hnew => hsettled.of_record hrelies hnew, fun hexacto => hsettled.record hrelies hexacto.1 hexacto.2⟩

/-- **Receipts settle receivables exactly** in every run where each is committed in the currency of its invoices, for
the cents of its allocations, with what it leaves open showing in doubles.  At each statement it is so exactly then. -/
theorem settled_of_reachable (h : receiptMachine.Reachable ReciboExacto S) :
    S.committed.Settled ∧ ∀ w answer S', receiptMachine.step S (.go w answer) = some S' →
      (S'.committed.Settled ↔ ReciboExacto S (.go w answer)) := by
  have hboth : receiptMachine.Reachable ReciboExacto S ∧ S.committed.Settled := by
    refine Machine.invariant (P := fun S => receiptMachine.Reachable ReciboExacto S ∧ S.committed.Settled)
      (fun S hinit => ⟨.of_init hinit, hinit.1⟩) (fun S a S' hok hstep hS => ⟨hS.1.step hok hstep, ?_⟩) h
    have hcase : receiptWorkers.StepCase S a S' := Workers.step_cases hstep
    cases hcase with
    | started => exact hS.2
    | moved => exact (settled_step_iff (receiptKeeps hS.1) hS.2 hstep).mpr hok
    | done => exact (settled_step_iff (receiptKeeps hS.1) hS.2 hstep).mpr hok
    | died => exact hS.2
    | @changed invoice store hchange =>
      obtain rfl := Option.some.inj hchange
      exact hS.2.issue invoice
  exact ⟨hboth.2, fun w answer S' hstep => settled_step_iff (receiptKeeps h) hboth.2 hstep⟩

instance (S : Sessions ArDb ReceiptPoint) (a : ReceiptAct) : Decidable (ReciboExacto S a) :=
  inferInstanceAs (Decidable (Workers.GoesWhere _ S a))

/-- Invoice 1, in bolivianos. -/
def unaFactura (grossAmount : Int) : ArDb where
  invoices := Table.empty.create fun id => ⟨id, 1, 7, "BOB".toList, grossAmount, .issued⟩
  receipts := .empty
  allocations := .empty

theorem unaFactura_settled {grossAmount : Int} (h : 0 < grossAmount) : (unaFactura grossAmount).Settled := by
  refine ⟨fun i hi => ?_, fun i hi => ?_, fun a ha => absurd ha (Table.not_mem_empty a),
    fun r hr => absurd hr (Table.not_mem_empty r)⟩
  all_goals
    have hzero : (unaFactura grossAmount).allocated i.id = 0 := rfl
    rcases (Table.mem_create fun _ => rfl).mp hi with hi | rfl
    · exact absurd hi (Table.not_mem_empty i)
    rw [hzero]
  · exact h.le
  · exact iff_of_false (fun hpaid => nomatch hpaid) h.ne

/-- A receipt for invoice 1, up to its commit. -/
def cobro (w : Nat) (currencyCode : String) (amount : JsNumber) : List ReceiptAct :=
  .start w (⟨1, 7, 1790000000000, amount, currencyCode.toList, none, [⟨1, amount⟩]⟩, ⟨3, true, []⟩) ::
    List.replicate 7 (.go w ⟨true, "REC-2026-000001".toList, some 1⟩)

/-- 100 dollars are received for an invoice of 100 bolivianos. -/
def cobroEnDolares : Sessions ArDb ReceiptPoint := receiptMachine.after ⟨unaFactura 10000, []⟩ (cobro 1 "USD" 100)

/-- One cent is left open of an invoice that no double tells from what was received. -/
def cobroSinCentavo : Sessions ArDb ReceiptPoint :=
  receiptMachine.after ⟨unaFactura 14073748835532801, []⟩ (cobro 1 "BOB" 140737488355328)

/-- The invoice is paid in another currency; one is paid with a cent open. -/
theorem settled_counterexample :
    (∃ S, receiptMachine.Reachable (fun _ _ => True) S ∧ ¬ S.committed.Settled ∧
      ∃ r ∈ S.committed.receipts, ∃ i ∈ S.committed.invoices, i.status = .paid ∧ r.currencyCode ≠ i.currencyCode) ∧
      ∃ S, receiptMachine.Reachable (fun _ _ => True) S ∧ ¬ S.committed.Settled ∧
        ∃ i ∈ S.committed.invoices, i.status = .paid ∧ S.committed.allocated i.id + 1 = i.grossAmount := by
  have hdolares : ∀ a ∈ cobroEnDolares.committed.allocations, ¬ ∃ r ∈ cobroEnDolares.committed.receipts,
      ∃ i ∈ cobroEnDolares.committed.invoices, a.receiptId = r.id ∧ a.arInvoiceId = i.id ∧
        r.currencyCode = i.currencyCode := by decide +kernel
  have hallocated : ∃ a ∈ cobroEnDolares.committed.allocations, a.id = 1 := by decide +kernel
  have hcentavo : ∃ i ∈ cobroSinCentavo.committed.invoices, i.status = .paid ∧
      cobroSinCentavo.committed.allocated i.id + 1 = i.grossAmount := by decide +kernel
  refine ⟨⟨cobroEnDolares, receiptMachine.reachable_after ⟨unaFactura_settled (by decide), rfl⟩ _, fun hsettled => ?_,
    by decide +kernel⟩, ⟨cobroSinCentavo, receiptMachine.reachable_after ⟨unaFactura_settled (by decide), rfl⟩ _,
    fun hsettled => ?_, hcentavo⟩⟩
  · obtain ⟨a, ha, -⟩ := hallocated
    exact hdolares a ha (hsettled.currency a ha)
  · obtain ⟨i, hi, hpaid, hopen⟩ := hcentavo
    have hall := (hsettled.paid i hi).mp hpaid
    omega

/-- 40.10 and then 59.90 are received for an invoice of 100.00. -/
def dosCobros : Sessions ArDb ReceiptPoint :=
  receiptMachine.afterIf ReciboExacto ⟨unaFactura 10000, []⟩ (cobro 1 "BOB" (401 / 10) ++ cobro 2 "BOB" (599 / 10))

theorem settled_of_reachable_dosCobros :
    dosCobros.committed.invoices.rows.map (·.status) = [.paid] ∧ dosCobros.committed.Settled :=
  ⟨by decide +kernel,
    (settled_of_reachable (receiptMachine.reachable_afterIf ReciboExacto ⟨unaFactura_settled (by decide), rfl⟩ _)).1⟩

end Runs

end AtlasErp
