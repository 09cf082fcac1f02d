import AtlasErp.Accounting.DoubleAmounts
import AtlasErp.Accounting.LedgerInvariants

/-! # Issuing a receivable invoice

The gross amount is a sum of two `number`s, and the journal of the invoice is checked as numbers before it is stored.

- `buildInvoiceJournalLines`, `ArInvoiceIssuance.issueInvoice`: the invoice, and the draft of its document;
- `InvoiceAmounts`: what an invoice and its journal hold;
- `validate_invoiceLines`: the double entry accepts the journal where the sum is exact;
- `issued_invoice_balances`: an invoice that is issued balances with its document, and **where the sum of the numbers is not
  the double of the sum** it is refused. -/

namespace AtlasErp

open Lib

/-! ## Master data -/

/-- An active role of a partner. -/
structure PartnerRole where
  roleCode : String
  legalEntityId : Option Nat
  effectiveFrom : Day
  effectiveTo : Option Day
  deriving DecidableEq

structure BusinessPartner where
  id : Nat
  isActive : Bool
  roles : List PartnerRole
  deriving DecidableEq

/-- An active row of the accounts of a partner. -/
structure PartnerAccount where
  businessPartnerId : Nat
  accountPurpose : String
  glAccountId : Option Nat
  deriving DecidableEq

structure TaxCode where
  id : Nat
  isActive : Bool
  taxType : String
  outputGlAccountId : Option Nat
  effectiveFrom : Day
  effectiveTo : Option Day
  deriving DecidableEq

structure ContractHeader where
  id : Nat
  legalEntityId : Nat
  counterpartyBpId : Nat
  status : String
  deriving DecidableEq

structure InvoicingMaster where
  partners : List BusinessPartner
  accounts : List PartnerAccount
  /-- The latest `effectiveFrom` first. -/
  taxCodes : List TaxCode
  contracts : List ContractHeader
  deriving DecidableEq

/-! ## The request -/

structure IssueArInvoiceDto where
  legalEntityId : Nat
  customerBpId : Nat
  contractId : Option Nat
  invoiceDate : Day
  dueDate : Day
  currencyCode : Text
  netAmount : { d : Double // d.IsValue }
  taxAmount : { d : Double // d.IsValue }
  arAccountId : Option Nat
  revenueAccountId : Nat
  taxLiabilityAccountId : Option Nat
  taxCodeId : Option Nat
  description : Text
  accountingPeriodId : Option Nat
  ledgerId : Option Nat
  /-- Is `electronicTaxDocument` given? -/
  electronicTaxDocument : Bool

/-- `Number(input.taxAmount) > 0`. -/
def IssueArInvoiceDto.hasTax (input : IssueArInvoiceDto) : Bool := Double.lt (.finite 0) input.taxAmount.val

/-- The request with the account, the period and the ledger that were resolved. -/
structure ResolvedArInvoice where
  input : IssueArInvoiceDto
  arAccountId : Nat
  accountingPeriodId : Nat
  ledgerId : Nat

def assertFiscalStatusNotClientAsserted (input : IssueArInvoiceDto) : Except HttpError Unit :=
  failIf (input.electronicTaxDocument = true) (unprocessable "FISCAL_STATUS_NOT_CLIENT_ASSERTED"
    ("El estado fiscal de una factura lo da Impuestos Nacionales a través del ERP; " ++ "no se envía en la petición."))

def assertContractBillable (contract : ContractHeader) (input : IssueArInvoiceDto) : Except HttpError Unit := do
  failIf (contract.legalEntityId ≠ input.legalEntityId ∨ contract.counterpartyBpId ≠ input.customerBpId)
    (conflict "INVOICE_CONTRACT_MISMATCH" "El contrato no corresponde a la entidad legal o contraparte de la factura.")
  failIf (contract.status ∉ ["ACTIVE", "APPROVED"])
    (conflict "CONTRACT_NOT_ACTIVE" "El contrato no está activo o aprobado para facturación.")

def assertTaxFieldsConsistent (input : IssueArInvoiceDto) : Except HttpError Unit := do
  failIf (input.hasTax = true ∧ (input.taxLiabilityAccountId = none ∨ input.taxCodeId = none))
    (invalidRequest "TAX_ACCOUNT_AND_CODE_REQUIRED"
      "Una factura con impuesto debe informar cuenta fiscal pasiva y código tributario.")
  failIf (input.taxAmount.val = .finite 0 ∧ input.taxLiabilityAccountId ≠ none)
    (invalidRequest "TAX_ACCOUNT_WITHOUT_TAX_AMOUNT" "No informes cuenta fiscal si la factura no tiene impuesto.")

/-! ## What the system knows -/

section Defaults

variable (master : InvoicingMaster) (db : AccountingDb)

def assertHasAnyActiveRole (businessPartnerId : Nat) (expectedRoles : List String) (legalEntityId : Nat) (today : Day) :
    Except HttpError Unit := do
  let partner ← orFail (master.partners.find? (·.id = businessPartnerId))
    (missing "BUSINESS_PARTNER_NOT_FOUND" "La contraparte no existe.")
  failIf (partner.isActive = false) (conflict "BUSINESS_PARTNER_NOT_ACTIVE" "La contraparte no está activa.")
  failIf (¬ ∃ role ∈ partner.roles, role.roleCode ∈ expectedRoles ∧
      (role.legalEntityId = none ∨ role.legalEntityId = some legalEntityId) ∧
      role.effectiveFrom ≤ today ∧ (role.effectiveTo.all fun effectiveTo => decide (today ≤ effectiveTo)) = true)
    (conflict "BUSINESS_PARTNER_ROLE_MISSING" "La contraparte no tiene un rol activo compatible con esta operación.")

def resolvePartnerAccountId (businessPartnerId : Nat) (accountPurpose : String) (provided : Option Nat) :
    Except HttpError Nat :=
  match provided with
  | some glAccountId => .ok glAccountId
  | none =>
    orFail ((master.accounts.find? fun fila =>
        fila.businessPartnerId = businessPartnerId ∧ fila.accountPurpose = accountPurpose).bind (·.glAccountId))
      (invalidRequest "PARTNER_DEFAULT_ACCOUNT_NOT_SET"
        ("Este socio no tiene asignada su cuenta contable «" ++ accountPurpose ++
          "». Asígnala en su ficha (Cuentas por defecto) y vuelve a intentarlo."))

/-- The accounts that the invoices of a legal entity were charged to. -/
def arControlAccountsUsedBy (legalEntityId : Nat) : List Nat :=
  (((db.documents.rowsWhere (·.legalEntityId = legalEntityId)).flatMap (·.journal.lines)).filter fun l =>
    l.referenceType = some "AR_INVOICE".toList ∧ 0 < l.debit).map (·.glAccountId) |>.dedup

def resolveArControlAccountId (legalEntityId businessPartnerId : Nat) (provided : Option Nat) : Except HttpError Nat :=
  match resolvePartnerAccountId master businessPartnerId "AR_CONTROL" provided, arControlAccountsUsedBy db legalEntityId with
  | .ok glAccountId, _ => .ok glAccountId
  | .error _, [usada] => .ok usada
  | .error error, _ => .error error

/-- The code of a sale and the account its tax is owed in. -/
def resolveOutputTax (dia : Day) (providedTaxCodeId providedAccountId : Option Nat) : Except HttpError (Nat × Nat) :=
  let vigentes := master.taxCodes.filter fun fila =>
    fila.isActive = true ∧ fila.effectiveFrom ≤ dia ∧ fila.effectiveTo.all fun effectiveTo => decide (dia ≤ effectiveTo)
  match providedTaxCodeId, providedAccountId with
  | some taxCodeId, some account => .ok (taxCodeId, account)
  | some taxCodeId, none =>
    match vigentes.find? (·.id = taxCodeId) with
    | some pedido => (orFail pedido.outputGlAccountId (invalidRequest "TAX_CODE_NOT_RESOLVED"
        "El código tributario indicado no tiene cuenta de impuesto por pagar configurada.")).map fun cuenta => (pedido.id, cuenta)
    | none => .error (invalidRequest "TAX_CODE_NOT_RESOLVED"
        "El código tributario indicado no está vigente en la fecha de la factura.")
  | none, _ =>
    match (vigentes.filter (·.taxType = "IVA")).filterMap fun fila => fila.outputGlAccountId.map fun cuenta => (fila.id, cuenta) with
    | [candidato] => .ok candidato
    | [] => .error (invalidRequest "TAX_CODE_NOT_RESOLVED"
        ("No hay ningún código de IVA de venta vigente con su cuenta de impuesto por pagar configurada. " ++
          "Revisa Impuestos del plan de cuentas o emite la factura sin impuesto."))
    | _ :: _ :: _ => .error (invalidRequest "TAX_CODE_NOT_RESOLVED"
        ("Hay más de un código de IVA de venta vigente con cuenta de impuesto configurada, " ++
          "así que el sistema no elige por ti: indica cuál aplica."))

def resolveDefaults (input : IssueArInvoiceDto) : Except HttpError ResolvedArInvoice := do
  let arAccountId ← resolveArControlAccountId master db input.legalEntityId input.customerBpId input.arAccountId
  let accountingPeriodId ← resolveOpenPeriodId db input.legalEntityId input.invoiceDate input.accountingPeriodId
  let ledgerId ← resolveLedgerId db input.legalEntityId input.ledgerId
  if input.hasTax then
    let impuesto ← resolveOutputTax master input.invoiceDate input.taxCodeId input.taxLiabilityAccountId
    let input := { input with taxCodeId := some impuesto.1, taxLiabilityAccountId := some impuesto.2 }
    return ⟨input, arAccountId, accountingPeriodId, ledgerId⟩
  else return ⟨input, arAccountId, accountingPeriodId, ledgerId⟩

/-- `assertInputsAreSapSafe`. -/
def assertInputsAreSapSafe (input : IssueArInvoiceDto) (today : Day) : Except HttpError Unit := do
  assertHasAnyActiveRole master input.customerBpId ["CUSTOMER", "MERCHANT", "INTERCOMPANY"] input.legalEntityId today
  match input.contractId with
  | none => pure ()
  | some contractId => do
    let contract ← orFail (master.contracts.find? (·.id = contractId))
      (missing "CONTRACT_NOT_FOUND" "El contrato asociado a la factura no existe.")
    assertContractBillable contract input
  assertTaxFieldsConsistent input

end Defaults

/-! ## The journal -/

/-- `Number(input.netAmount) + Number(input.taxAmount)`. -/
def grossAmount (input : IssueArInvoiceDto) : Double := input.netAmount.val.add input.taxAmount.val

/-- `0`. -/
def noAmount : JournalAmount := .ofDouble (.finite 0) (by rintro x ⟨⟩; rfl)

/-- A line of the journal of an invoice. -/
def arInvoiceLine (input : IssueArInvoiceDto) (invoiceId glAccountId : Nat) (debit credit amountLc : JournalAmount)
    (taxCodeId : Option Nat) (description : Text) : DraftJournalLineInput where
  glAccountId
  debit
  credit
  currencyCode := input.currencyCode
  amountLc := some amountLc
  partnerId := some input.customerBpId
  costCenterId := none
  profitCenterId := none
  taxCodeId
  referenceType := some "AR_INVOICE".toList
  referenceId := some invoiceId
  description := some description

/-- The gross amount is owed, the net amount is revenue, and the tax is owed to the treasury if there is any. -/
def buildInvoiceJournalLines (invoice : ResolvedArInvoice) (grossAmount : { d : Double // d.IsValue }) (invoiceId : Nat)
    (invoiceNo : Text) : List DraftJournalLineInput :=
  let input := invoice.input
  let gross := JournalAmount.ofDouble grossAmount.val grossAmount.property
  let net := JournalAmount.ofDouble input.netAmount.val input.netAmount.property
  let tax := JournalAmount.ofDouble input.taxAmount.val input.taxAmount.property
  arInvoiceLine input invoiceId invoice.arAccountId gross noAmount gross none ("CxC factura ".toList ++ invoiceNo) ::
    arInvoiceLine input invoiceId input.revenueAccountId noAmount net net input.taxCodeId input.description ::
    match input.hasTax, input.taxLiabilityAccountId with
    | true, some taxLiabilityAccountId =>
      [arInvoiceLine input invoiceId taxLiabilityAccountId noAmount tax tax input.taxCodeId
        ("IVA débito factura ".toList ++ invoiceNo)]
    | _, _ => []

/-- The draft of the document of an invoice. -/
def invoiceDraft (invoice : ResolvedArInvoice) (invoiceId : Nat) (invoiceNo : Text) : AccountingDraftInput where
  legalEntityId := invoice.input.legalEntityId
  sourceSystem := "BILLING".toList
  sourceType := "AR_INVOICE".toList
  sourceId := some (decimalText invoiceId)
  documentType := "AR_INVOICE".toList
  documentNo := some ("AR-".toList ++ invoiceNo)
  documentDate := invoice.input.invoiceDate
  postingDate := some invoice.input.invoiceDate
  accountingPeriodId := some invoice.accountingPeriodId
  ledgerId := some invoice.ledgerId
  currencyCode := invoice.input.currencyCode
  approvalStatus := none
  lines := buildInvoiceJournalLines invoice ⟨grossAmount invoice.input, Double.isValue_add _ _⟩ invoiceId invoiceNo

/-! ## The invoice -/

/-- The row of an invoice; amounts in minor units. -/
structure IssuedArInvoice where
  legalEntityId : Nat
  customerBpId : Nat
  contractId : Option Nat
  invoiceNo : Text
  invoiceDate : Day
  dueDate : Day
  currencyCode : Text
  netAmount : Int
  taxAmount : Int
  grossAmount : Int
  deriving DecidableEq

/-- A `number` in a column of `numeric(18,2)`: its text is rounded. -/
def moneyColumn (d : Double) : Except HttpError Int := do
  let minor ← (toMinorUnits d.toText 2).mapError fun _ => raised "invalid input syntax for type numeric"
  failIf (NUMERIC_18_2_MAX_MINOR < minor) (raised "numeric field overflow")
  return minor

/-- What the numbering and the database answer. -/
structure InvoiceAnswer where
  invoiceId : Nat
  invoiceNo : Text
  policySnapshotId : Option Nat
  deriving DecidableEq

/-- The rows of an invoice and of the draft of its document, which the same transaction publishes. -/
def ArInvoiceIssuance.issueInvoice (master : InvoicingMaster) (db : AccountingDb) (rawInput : IssueArInvoiceDto) (user : AuthUser)
    (policy : Option String) (today : Day) (answer : InvoiceAnswer) :
    Except HttpError (IssuedArInvoice × AccountingDocument) := do
  assertFiscalStatusNotClientAsserted rawInput
  assertCanAccessLegalEntity user rawInput.legalEntityId
  let invoice ← resolveDefaults master db rawInput
  assertInputsAreSapSafe master invoice.input today
  let netAmount ← moneyColumn invoice.input.netAmount.val
  let taxAmount ← moneyColumn invoice.input.taxAmount.val
  let gross ← moneyColumn (grossAmount invoice.input)
  let row : IssuedArInvoice := {
    legalEntityId := invoice.input.legalEntityId
    customerBpId := invoice.input.customerBpId
    contractId := invoice.input.contractId
    invoiceNo := answer.invoiceNo
    invoiceDate := invoice.input.invoiceDate
    dueDate := invoice.input.dueDate
    currencyCode := invoice.input.currencyCode
    netAmount
    taxAmount
    grossAmount := gross }
  let drafting ← beginDraft (invoiceDraft invoice answer.invoiceId answer.invoiceNo) user .serverGenerated policy .publish
  let draft ← resolveDraft db drafting ("AR-".toList ++ answer.invoiceNo)
  assertDocumentCanBePosted db draft.document
  let document ← recordDraft draft.document draft.drafting.approval draft.drafting.origin answer.policySnapshotId
    draft.drafting.user
  return (row, document)

/-! ## The sum -/

section Sum

variable {n t k : Nat}

/-- **The sum of two amounts**, as numbers, is not the double of another amount. -/
theorem eq_of_add_cents (hpos : 0 < n + t) (htotal : n + t < 10 ^ 15) (h : (Double.cents n).add (Double.cents t) = Double.cents k) :
    k = n + t := by
  obtain ⟨x, hx, hnearx⟩ := Double.exists_cents (c := n) (by omega)
  obtain ⟨y, hy, hneary⟩ := Double.exists_cents (c := t) (by omega)
  have hcast : (n : ℚ) + t ≤ 10 ^ 15 := by exact_mod_cast htotal.le
  have hone : (1 : ℚ) ≤ n + t := by exact_mod_cast hpos
  have hn : (0 : ℚ) ≤ n := by positivity
  have ht : (0 : ℚ) ≤ t := by positivity
  have hsum : |100 * (x + y) - (n + t)| ≤ (n + t) / 2 ^ 53 := by
    calc |100 * (x + y) - (n + t)| = |(100 * x - n) + (100 * y - t)| := by congr 1; ring
      _ ≤ |100 * x - n| + |100 * y - t| := abs_add_le _ _
      _ ≤ n / 2 ^ 53 + t / 2 ^ 53 := by gcongr
      _ = (n + t) / 2 ^ 53 := by ring
  have hsmall : ((n : ℚ) + t) / 2 ^ 53 ≤ 1 / 4 := by
    calc ((n : ℚ) + t) / 2 ^ 53 ≤ 10 ^ 15 / 2 ^ 53 := by gcongr
      _ ≤ 1 / 4 := by norm_num
  have hbounds := abs_le.mp hsum
  have hlarge : (2 : ℚ) ^ (-1022 : Int) ≤ |x + y| := by
    rw [abs_of_pos (by linarith)]
    calc (2 : ℚ) ^ (-1022 : Int) ≤ 2 ^ (-8 : Int) := zpow_le_zpow_right₀ one_le_two (by norm_num)
      _ ≤ x + y := by norm_num; linarith
  rw [hx, hy, Double.add] at h
  cases hz : Double.nearest (x + y) with
  | nan => exact absurd hz (Double.nearest_ne_nan _)
  | infinite negative =>
    obtain ⟨z, hfinite⟩ := Double.exists_finite hlarge (by
      rw [abs_of_pos (by linarith)]
      calc x + y ≤ 2 ^ 50 := by norm_num; linarith
        _ ≤ 2 ^ 1000 := pow_le_pow_right₀ one_le_two (by norm_num))
    rw [hz] at hfinite
    cases hfinite
  | finite z =>
    have hround := Double.abs_nearest_sub_le hlarge hz
    rw [abs_of_pos (show 0 < x + y by linarith)] at hround
    have hround' := abs_le.mp hround
    rw [hz] at h
    have hkpos : 0 < k := Nat.pos_of_ne_zero fun hzero => by
      rw [hzero] at h
      have hzzero : z = 0 := by simpa [Double.cents, Double.nearest] using h
      rw [hzzero] at hround'
      norm_num at hround'
      linarith
    have hk := Double.abs_nearest_sub_le (Double.normal_of_cents hkpos) h.symm
    rw [abs_of_nonneg (by positivity : (0 : ℚ) ≤ k / 100)] at hk
    have hk' := abs_le.mp hk
    have hshare : (x + y) / 2 ^ 53 ≤ 1 / 400 := by
      have hxy : x + y ≤ 10 ^ 13 + 1 := by linarith
      calc (x + y) / 2 ^ 53 ≤ (10 ^ 13 + 1) / 2 ^ 53 := by gcongr
        _ ≤ 1 / 400 := by norm_num
    have hkle : (k : ℚ) ≤ 2 * 10 ^ 15 := by
      have hhalf : (k : ℚ) / 100 / 2 ^ 53 ≤ k / 100 / 4 := by gcongr; norm_num
      linarith
    have hkshare : (k : ℚ) / 100 / 2 ^ 53 ≤ 1 / 400 := by
      calc (k : ℚ) / 100 / 2 ^ 53 ≤ 2 * 10 ^ 15 / 100 / 2 ^ 53 := by gcongr
        _ ≤ 1 / 400 := by norm_num
    have hlt : |((k : Int) : ℚ) - ((n + t : Nat) : Int)| < 1 := by
      push_cast
      rw [abs_lt]
      constructor <;> linarith
    have hzero : |(k : Int) - (n + t : Nat)| < 1 := by exact_mod_cast hlt
    rw [Int.abs_lt_one_iff] at hzero
    omega

/-- Is there tax? -/
theorem lt_cents_iff (ht : t < 10 ^ 15) : Double.lt (.finite 0) (Double.cents t) = true ↔ 0 < t := by
  rcases Nat.eq_zero_or_pos t with rfl | hpos
  · simp [Double.cents, Double.nearest, Double.lt]
  · obtain ⟨x, hx, -⟩ := Double.exists_cents (c := t) (by omega)
    rw [hx]
    exact iff_of_true (decide_eq_true (pos_of_cents hpos hx).1) hpos

end Sum

/-! ## What the double entry says -/

section Validate

variable {line : JournalAmount × JournalAmount} {lines : List (JournalAmount × JournalAmount)} {amounts : List (Int × Int)}

/-- The error of the first line. -/
def firstLineInvalid : HttpError := ⟨.badRequest, some "INVALID_JOURNAL_LINE",
  "La línea " ++ toString 1 ++ " debe tener débito o crédito, pero no ambos."⟩

theorem validate_of_first_invalid (hne : lines ≠ []) (h : DoubleEntry.lineCents line = none) :
    DoubleEntry.validate (line :: lines) = .error firstLineInvalid := by
  have hlength : ¬ (line :: lines).length < 2 := by
    have hpos := List.length_pos_iff.mpr hne
    rw [List.length_cons]
    omega
  rw [DoubleEntry.validate, failIf_of_not hlength, List.zipIdx_cons, List.mapM_cons]
  simp only [h]
  rfl

theorem validate_of_amounts (hlength : 2 ≤ lines.length)
    (h : List.Forall₂ (fun line amount => DoubleEntry.lineCents line = some amount) lines amounts)
    (hsum : (amounts.map (·.1)).sum = (amounts.map (·.2)).sum) : DoubleEntry.validate lines = .ok () := by
  rw [DoubleEntry.validate, failIf_bind_eq_ok]
  refine ⟨by omega, bind_eq_ok.mpr ⟨amounts, mapM_eq_ok.mpr ?_, failIf_of_not (not_not.mpr hsum)⟩⟩
  have hmap : List.Forall₂ (fun line amount => DoubleEntry.lineCents line = some amount) (lines.zipIdx.map Prod.fst) amounts := by
    rwa [List.zipIdx_map_fst]
  exact (List.forall₂_map_left_iff.mp hmap).imp fun _ _ hline => orFail_eq_ok.mpr hline

/-- A debit, or a credit, of an amount of cents. -/
theorem lineCents_of_cents {c : Nat} (hpos : 0 < c) (hc : c < 10 ^ 15) (hd : (Double.cents c).IsValue) :
    DoubleEntry.lineCents (.ofDouble (Double.cents c) hd, noAmount) = some ((c : Int), 0) ∧
      DoubleEntry.lineCents (noAmount, .ofDouble (Double.cents c) hd) = some (0, (c : Int)) := by
  have hzero : DoubleEntry.cents noAmount = some 0 := by decide +kernel
  simp [DoubleEntry.lineCents, hzero, cents_ofDouble_cents hc hd, hpos.ne']

end Validate

/-! ## What is issued -/

section Issued

variable {n t : Nat} {invoice : ResolvedArInvoice} {invoiceId : Nat} {invoiceNo : Text}

/-- The amounts of the lines, as they arrive. -/
def draftAmounts (invoice : ResolvedArInvoice) (invoiceId : Nat) (invoiceNo : Text) : List (JournalAmount × JournalAmount) :=
  (invoiceDraft invoice invoiceId invoiceNo).lines.map fun line => (line.debit, line.credit)

/-- What an invoice and its journal hold: they balance. -/
structure InvoiceAmounts (n t : Nat) (row : IssuedArInvoice) (document : AccountingDocument) : Prop where
  netAmount : row.netAmount = n
  taxAmount : row.taxAmount = t
  grossAmount : row.grossAmount = row.netAmount + row.taxAmount
  lines : document.journal.lines.map (fun line => (line.debit, line.credit)) =
    (row.grossAmount, 0) :: (0, row.netAmount) :: if t = 0 then [] else [(0, row.taxAmount)]

theorem ofDouble_congr {d d' : Double} (hd : d.IsValue) (hd' : d'.IsValue) (h : d = d') :
    JournalAmount.ofDouble d hd = .ofDouble d' hd' := by
  subst h
  rfl

/-- The lines of an invoice of amounts of cents. -/
theorem draftAmounts_eq (htotal : n + t < 10 ^ 15) (hnet : invoice.input.netAmount.val = Double.cents n)
    (htax : invoice.input.taxAmount.val = Double.cents t) (hconsistent : assertTaxFieldsConsistent invoice.input = .ok ()) :
    draftAmounts invoice invoiceId invoiceNo =
      (.ofDouble _ (Double.isValue_add (Double.cents n) (Double.cents t)), noAmount) ::
        (noAmount, .ofDouble (Double.cents n) (Double.isValue_cents _)) ::
          if t = 0 then [] else [(noAmount, .ofDouble (Double.cents t) (Double.isValue_cents _))] := by
  have hhas : invoice.input.hasTax = true ↔ 0 < t := by rw [IssueArInvoiceDto.hasTax, htax, lt_cents_iff (by omega)]
  have hgross := ofDouble_congr (Double.isValue_add invoice.input.netAmount.val invoice.input.taxAmount.val)
    (Double.isValue_add (Double.cents n) (Double.cents t)) (by rw [hnet, htax])
  have hnet' := ofDouble_congr invoice.input.netAmount.property (Double.isValue_cents _) hnet
  have htax' := ofDouble_congr invoice.input.taxAmount.property (Double.isValue_cents _) htax
  simp only [draftAmounts, invoiceDraft, buildInvoiceJournalLines, arInvoiceLine, grossAmount, List.map_cons, hgross, hnet', htax']
  refine congrArg (_ :: _ :: ·) ?_
  cases htaxed : invoice.input.hasTax with
  | false =>
    have ht : t = 0 := by
      rw [htaxed] at hhas
      simpa using hhas
    rw [if_pos ht]
    rfl
  | true =>
    have ht := hhas.mp htaxed
    obtain ⟨hgiven, -⟩ := failIf_bind_eq_ok.mp hconsistent
    rw [if_neg ht.ne']
    cases haccount : invoice.input.taxLiabilityAccountId with
    | none => exact absurd ⟨htaxed, .inl haccount⟩ hgiven
    | some account => rfl

/-- **The journal of an invoice** is accepted where the sum of the numbers is the double of the sum. -/
theorem validate_draftAmounts (hn : 0 < n) (htotal : n + t < 10 ^ 15) (hnet : invoice.input.netAmount.val = Double.cents n)
    (htax : invoice.input.taxAmount.val = Double.cents t) (hconsistent : assertTaxFieldsConsistent invoice.input = .ok ()) :
    DoubleEntry.validate (draftAmounts invoice invoiceId invoiceNo) =
      if (Double.cents n).add (Double.cents t) = Double.cents (n + t) then .ok () else .error firstLineInvalid := by
  rw [draftAmounts_eq htotal hnet htax hconsistent]
  by_cases hexact : (Double.cents n).add (Double.cents t) = Double.cents (n + t)
  · rw [if_pos hexact, ofDouble_congr _ (Double.isValue_cents _) hexact]
    have hgross := (lineCents_of_cents (c := n + t) (by omega) htotal (Double.isValue_cents _)).1
    have hnet := (lineCents_of_cents hn (by omega) (Double.isValue_cents _)).2
    by_cases ht : t = 0
    · subst ht
      exact validate_of_amounts (by simp) (.cons hgross (.cons hnet .nil)) (by simp)
    · have htax := (lineCents_of_cents (c := t) (by omega) (by omega) (Double.isValue_cents _)).2
      rw [if_neg ht]
      exact validate_of_amounts (by simp) (.cons hgross (.cons hnet (.cons htax .nil))) (by simp)
  · rw [if_neg hexact]
    refine validate_of_first_invalid (List.cons_ne_nil _ _) ?_
    cases hcents : DoubleEntry.cents (.ofDouble _ (Double.isValue_add (Double.cents n) (Double.cents t))) with
    | none => simp [DoubleEntry.lineCents, hcents]
    | some amount =>
      obtain ⟨k, -, hk, -⟩ := cents_ofDouble hcents
      obtain rfl := eq_of_add_cents (by omega) htotal hk
      exact absurd hk hexact

/-- What a column holds of an amount of cents, as a number. -/
theorem moneyColumn_cents {c : Nat} {minor : Int} (hc : c < 10 ^ 15) (h : moneyColumn (Double.cents c) = .ok minor) :
    minor = c := by
  obtain ⟨read, hread, h⟩ := bind_eq_ok.mp h
  obtain ⟨-, h⟩ := failIf_bind_eq_ok.mp h
  obtain rfl := pure_eq_ok.mp h
  obtain ⟨hplain, -⟩ := zero_of_cents (cents_ofDouble_cents hc (Double.isValue_cents _))
  exact Except.ok.inj ((mapError_eq_ok.mp hread).symm.trans hplain)

/-- What is resolved does not change the amounts. -/
theorem resolveDefaults_eq_ok {master : InvoicingMaster} {db : AccountingDb} {rawInput : IssueArInvoiceDto}
    (h : resolveDefaults master db rawInput = .ok invoice) :
    invoice.input.netAmount = rawInput.netAmount ∧ invoice.input.taxAmount = rawInput.taxAmount := by
  obtain ⟨arAccountId, -, h⟩ := bind_eq_ok.mp h
  obtain ⟨accountingPeriodId, -, h⟩ := bind_eq_ok.mp h
  obtain ⟨ledgerId, -, h⟩ := bind_eq_ok.mp h
  split at h
  · obtain ⟨impuesto, -, h⟩ := bind_eq_ok.mp h
    obtain rfl := pure_eq_ok.mp h
    exact ⟨rfl, rfl⟩
  · obtain rfl := pure_eq_ok.mp h
    exact ⟨rfl, rfl⟩

theorem consistent_of_safe {master : InvoicingMaster} {input : IssueArInvoiceDto} {today : Day}
    (h : assertInputsAreSapSafe master input today = .ok ()) : assertTaxFieldsConsistent input = .ok () := by
  obtain ⟨_, -, h⟩ := bind_eq_ok.mp h
  dsimp only at h
  split at h
  · exact h
  · obtain ⟨contract, -, h⟩ := bind_eq_ok.mp h
    obtain ⟨_, -, h⟩ := bind_eq_ok.mp h
    exact h

theorem resolveDraft_eq_ok {db : AccountingDb} {d : Drafting} {documentNo : Text} {draft : ResolvedDraft}
    (h : resolveDraft db d documentNo = .ok draft) : draft.drafting = d := by
  unfold resolveDraft at h
  split at h
  · cases h
  · split at h
    · cases h
    · exact congrArg ResolvedDraft.drafting (Except.ok.inj h).symm

/-- What is stored of the lines of an accepted invoice. -/
theorem recorded_of_exact (htotal : n + t < 10 ^ 15) (hnet : invoice.input.netAmount.val = Double.cents n)
    (htax : invoice.input.taxAmount.val = Double.cents t) (hconsistent : assertTaxFieldsConsistent invoice.input = .ok ())
    (hexact : (Double.cents n).add (Double.cents t) = Double.cents (n + t)) {rows : List JournalLine}
    (hrows : List.Forall₂ (fun (line : DraftJournalLineInput) stored => ∃ index, recordLine index line = .ok stored)
      (invoiceDraft invoice invoiceId invoiceNo).lines rows) :
    rows.map (fun line => (line.debit, line.credit)) =
      (((n + t : Nat) : Int), 0) :: (0, (n : Int)) :: if t = 0 then [] else [(0, (t : Int))] := by
  have hzero : noAmount.minorUnits = .ok 0 := by decide +kernel
  have hminor : ∀ {c : Nat}, c < 10 ^ 15 → (JournalAmount.ofDouble (Double.cents c) (Double.isValue_cents _)).minorUnits = .ok (c : Int) :=
    fun hc => minorUnits_ofDouble_cents hc _
  have hstored : List.Forall₂ (fun (amounts : JournalAmount × JournalAmount) (row : JournalLine) =>
      amounts.1.minorUnits = .ok row.debit ∧ amounts.2.minorUnits = .ok row.credit)
      (draftAmounts invoice invoiceId invoiceNo) rows := by
    refine List.forall₂_map_left_iff.mpr (hrows.imp ?_)
    rintro line row ⟨index, hrow⟩
    exact ⟨(recordLine_eq_ok hrow).1, (recordLine_eq_ok hrow).2.1⟩
  rw [draftAmounts_eq htotal hnet htax hconsistent, ofDouble_congr _ (Double.isValue_cents _) hexact] at hstored
  cases hstored with
  | cons hgross hstored =>
    cases hstored with
    | cons hnet hstored =>
      dsimp only at hgross hnet
      rw [hzero, hminor htotal, Except.ok.injEq, Except.ok.injEq] at hgross
      rw [hzero, hminor (by omega), Except.ok.injEq, Except.ok.injEq] at hnet
      rw [List.map_cons, List.map_cons, ← hgross.1, ← hgross.2, ← hnet.1, ← hnet.2]
      refine congrArg (_ :: _ :: ·) ?_
      split at hstored
      next hzero =>
        cases hstored
        rw [if_pos hzero, List.map_nil]
      next hne =>
        cases hstored with
        | cons htax hstored =>
          cases hstored
          dsimp only at htax
          rw [hzero, hminor (by omega), Except.ok.injEq, Except.ok.injEq] at htax
          rw [if_neg hne, List.map_cons, ← htax.1, ← htax.2, List.map_nil]

end Issued

/-! ## Invoices balance or are refused -/

section Issue

variable {n t : Nat} {master : InvoicingMaster} {db : AccountingDb} {rawInput : IssueArInvoiceDto} {user : AuthUser}
  {policy : Option String} {today : Day} {answer : InvoiceAnswer}

theorem amounts_of_issued {row : IssuedArInvoice} {document : AccountingDocument} (hn : 0 < n) (htotal : n + t < 10 ^ 15)
    (hnet : rawInput.netAmount.val = Double.cents n) (htax : rawInput.taxAmount.val = Double.cents t)
    (h : ArInvoiceIssuance.issueInvoice master db rawInput user policy today answer = .ok (row, document)) :
    (Double.cents n).add (Double.cents t) = Double.cents (n + t) ∧ InvoiceAmounts n t row document := by
  obtain ⟨-, -, h⟩ := bind_eq_ok.mp h
  obtain ⟨-, -, h⟩ := bind_eq_ok.mp h
  obtain ⟨invoice, hinvoice, h⟩ := bind_eq_ok.mp h
  obtain ⟨_, hsafe, h⟩ := bind_eq_ok.mp h
  obtain ⟨netAmount, hnetColumn, h⟩ := bind_eq_ok.mp h
  obtain ⟨taxAmount, htaxColumn, h⟩ := bind_eq_ok.mp h
  obtain ⟨gross, hgrossColumn, h⟩ := bind_eq_ok.mp h
  obtain ⟨drafting, hbegin, h⟩ := bind_eq_ok.mp h
  obtain ⟨draft, hdraft, h⟩ := bind_eq_ok.mp h
  obtain ⟨-, -, h⟩ := bind_eq_ok.mp h
  obtain ⟨document', hrecord, h⟩ := bind_eq_ok.mp h
  obtain ⟨rfl, rfl⟩ := Prod.mk.inj (pure_eq_ok.mp h)
  obtain ⟨hnetSame, htaxSame⟩ := resolveDefaults_eq_ok hinvoice
  rw [← hnetSame] at hnet
  rw [← htaxSame] at htax
  have hconsistent := consistent_of_safe hsafe
  obtain ⟨hinput, -, -⟩ := beginDraft_eq_ok hbegin
  have hdrafting := resolveDraft_eq_ok hdraft
  have hlines : draft.document.input.lines = (invoiceDraft invoice answer.invoiceId answer.invoiceNo).lines := by
    rw [draft.lines, hdrafting, hinput]
  have hvalid := draft.valid
  rw [hlines] at hvalid
  have hexact : (Double.cents n).add (Double.cents t) = Double.cents (n + t) := by
    by_contra hinexact
    have herror := @validate_draftAmounts n t invoice answer.invoiceId answer.invoiceNo hn htotal hnet htax hconsistent
    rw [if_neg hinexact] at herror
    cases hvalid.symm.trans herror
  have hrows : List.Forall₂ (fun (line : DraftJournalLineInput) stored => ∃ index, recordLine index line = .ok stored)
      (invoiceDraft invoice answer.invoiceId answer.invoiceNo).lines document'.journal.lines := by
    obtain ⟨-, -, -, hrows⟩ := recordDraft_eq_ok hrecord
    rwa [hdrafting, hinput] at hrows
  rw [hnet] at hnetColumn
  rw [htax] at htaxColumn
  rw [grossAmount, hnet, htax, hexact] at hgrossColumn
  obtain rfl := moneyColumn_cents (by omega) hnetColumn
  obtain rfl := moneyColumn_cents (by omega) htaxColumn
  obtain rfl := moneyColumn_cents htotal hgrossColumn
  refine ⟨hexact, rfl, rfl, Nat.cast_add n t, ?_⟩
  rw [recorded_of_exact htotal hnet htax hconsistent hexact hrows]

/-- Without tax there is nothing to round. -/
theorem add_cents_zero (htotal : n < 10 ^ 15) : (Double.cents n).add (Double.cents 0) = Double.cents n := by
  obtain ⟨x, hx, -⟩ := Double.exists_cents (c := n) (by omega)
  have hzero : Double.cents 0 = .finite 0 := by simp [Double.cents, Double.nearest]
  rw [hx, hzero, Double.add, add_zero]
  exact Double.nearest_idem hx

/-- **Invoices balance or are refused**: an invoice that is issued holds its amounts, as does its journal.  The double entry
accepts the journal where the sum of the two numbers is the double of the sum, as it is without tax, and refuses its first
line elsewhere. -/
theorem issued_invoice_balances (hn : 0 < n) (htotal : n + t < 10 ^ 15) (hnet : rawInput.netAmount.val = Double.cents n)
    (htax : rawInput.taxAmount.val = Double.cents t) :
    (∀ row document, ArInvoiceIssuance.issueInvoice master db rawInput user policy today answer = .ok (row, document) →
      (Double.cents n).add (Double.cents t) = Double.cents (n + t) ∧ InvoiceAmounts n t row document) ∧
    (∀ invoice, resolveDefaults master db rawInput = .ok invoice → assertInputsAreSapSafe master invoice.input today = .ok () →
      DoubleEntry.validate (draftAmounts invoice answer.invoiceId answer.invoiceNo) =
        if (Double.cents n).add (Double.cents t) = Double.cents (n + t) then .ok () else .error firstLineInvalid) ∧
    (t = 0 → (Double.cents n).add (Double.cents t) = Double.cents (n + t)) := by
  refine ⟨fun row document h => amounts_of_issued hn htotal hnet htax h, fun invoice hinvoice hsafe => ?_, ?_⟩
  · obtain ⟨hnetSame, htaxSame⟩ := resolveDefaults_eq_ok hinvoice
    exact validate_draftAmounts hn htotal (by rw [hnetSame, hnet]) (by rw [htaxSame, htax]) (consistent_of_safe hsafe)
  · rintro rfl
    exact add_cents_zero (by omega)

end Issue

/-! ## A tenth and two tenths -/

/-- A customer, and the tax of a sale. -/
def smallInvoicing : InvoicingMaster where
  partners := [⟨1, true, [⟨"CUSTOMER", none, 0, none⟩]⟩]
  accounts := [⟨1, "AR_CONTROL", some 1⟩]
  taxCodes := [⟨1, true, "IVA", some 2, 0, none⟩]
  contracts := []

/-- An invoice of `n` and `t` cents. -/
def smallInvoice (n t : Nat) : IssueArInvoiceDto where
  legalEntityId := 1
  customerBpId := 1
  contractId := none
  invoiceDate := 20710
  dueDate := 20740
  currencyCode := "BOB".toList
  netAmount := ⟨Double.cents n, Double.isValue_cents n⟩
  taxAmount := ⟨Double.cents t, Double.isValue_cents t⟩
  arAccountId := none
  revenueAccountId := 2
  taxLiabilityAccountId := none
  taxCodeId := none
  description := ['S']
  accountingPeriodId := some 1
  ledgerId := some 1
  electronicTaxDocument := false

/-- A ledger that knows the customer and the tax. -/
def invoicingLedger : AccountingDb :=
  { smallLedger with master := { smallLedger.master with
      businessPartners := [⟨1, true, none⟩]
      taxCodes := [⟨1, true, none⟩] } }

/-- 100.00 and 13.00 are invoiced, 0.10 and 0.20 are not. -/
theorem issued_invoice_balances_small :
    (∃ row document, ArInvoiceIssuance.issueInvoice smallInvoicing invoicingLedger (smallInvoice 10000 1300) (admin 1) none 20710 ⟨1, ['1'], none⟩ =
        .ok (row, document) ∧ InvoiceAmounts 10000 1300 row document) ∧
      ∃ invoice, resolveDefaults smallInvoicing invoicingLedger (smallInvoice 10 20) = .ok invoice ∧
        DoubleEntry.validate (draftAmounts invoice 1 ['1']) = .error firstLineInvalid := by
  constructor
  · obtain ⟨⟨row, document⟩, hissued⟩ := exists_of_isOk (x := ArInvoiceIssuance.issueInvoice smallInvoicing invoicingLedger
      (smallInvoice 10000 1300) (admin 1) none 20710 ⟨1, ['1'], none⟩) (by decide +kernel)
    exact ⟨row, document, hissued, ((issued_invoice_balances (by decide) (by decide) rfl rfl).1 row document hissued).2⟩
  · have hboth : (do
        let invoice ← resolveDefaults smallInvoicing invoicingLedger (smallInvoice 10 20)
        assertInputsAreSapSafe smallInvoicing invoice.input 20710) = .ok () := by decide +kernel
    obtain ⟨invoice, hinvoice, hsafe⟩ := bind_eq_ok.mp hboth
    have hrefused := (@issued_invoice_balances 10 20 smallInvoicing invoicingLedger (smallInvoice 10 20) (admin 1) none 20710
      ⟨1, ['1'], none⟩ (by decide) (by decide) rfl rfl).2.1 invoice hinvoice hsafe
    have hinexact : (Double.cents 10).add (Double.cents 20) ≠ Double.cents 30 := by decide +kernel
    rw [if_neg hinexact] at hrefused
    exact ⟨invoice, hinvoice, hrefused⟩

end AtlasErp
