import AtlasErp.Coverage.Model
import AtlasErp.Merchants.Branches
import AtlasErp.Pricing.CreditDecisions
import AtlasErp.Purchases.Mdr

/-! # Registering a purchase

`registerPurchase`: the purchase with its installments, the notice of the down payment and the charge of the
commission, in one transaction.

- `registerPurchase_inv`, `registerPurchase_eq_ok`: what a purchase that is registered found and wrote;
- `chargedAlike_iff`: two purchases of a merchant are charged alike exactly when the customers that their bodies name
  have one band;
- `chargedAlike_counterexample`: a merchant that leaves out the document of its customer. -/

namespace AtlasErp

open Lib

/-! ## The tables -/

/-- `consumers_ref`. -/
structure ConsumerRef where
  id : Nat
  externalRef : Option String
  deriving DecidableEq

/-- `ContractVersionStatus`. -/
inductive ContractVersionStatus where
  | draft
  | active
  | superseded
  deriving DecidableEq

/-- What a purchase reads of a row of `contract_versions`. -/
structure CommercialVersion where
  id : Nat
  contractId : Nat
  status : ContractVersionStatus
  validFrom : Day
  validTo : Option Day
  deriving DecidableEq

/-- `billing_products` with its status. -/
structure CatalogProduct extends BillingProduct where
  isActive : Bool
  deriving DecidableEq

/-- `bnpl_purchases`. -/
structure BnplPurchase where
  id : Nat
  merchantAccountId : Nat
  branchId : Nat
  consumerId : Nat
  contractVersionId : Nat
  purchaseAmount : Int
  downPaymentAmount : Int
  financedAmount : Int
  riskTierAtOrigination : Option String
  cohortId : Option String
  status : PurchaseStatus
  mdrRatePercent : Int
  mdrAmount : Int
  mdrRuleId : Option Nat
  mdrPricingSource : MdrPricingSource
  deriving DecidableEq

/-- `bnpl_installments`. -/
structure BnplInstallment where
  id : Nat
  purchaseId : Nat
  installmentNumber : Nat
  dueDate : Day
  amount : Int
  status : InstallmentStatus
  deriving DecidableEq

/-- `core_installment_links`, with the merchant of Core. -/
structure CorePurchaseLink extends CoreInstallmentLink where
  corePartnerProfileId : Option Nat
  deriving DecidableEq

instance : HasKey ConsumerRef := ⟨(·.id), fun k r => { r with id := k }, fun _ _ => rfl, fun _ => rfl⟩
instance : HasKey CommercialVersion := ⟨(·.id), fun k r => { r with id := k }, fun _ _ => rfl, fun _ => rfl⟩
instance : HasKey BnplPurchase := ⟨(·.id), fun k r => { r with id := k }, fun _ _ => rfl, fun _ => rfl⟩
instance : HasKey BnplInstallment := ⟨(·.id), fun k r => { r with id := k }, fun _ _ => rfl, fun _ => rfl⟩

structure PurchaseDb where
  accounts : Table MerchantAccount
  branches : Table MerchantBranch
  consumers : Table ConsumerRef
  customerRiskTiers : String → Option CustomerRiskTier
  contracts : Table B2BContract
  contractVersions : Table CommercialVersion
  commercialTerms : List CommercialTerm
  mdrRules : Table MdrRule
  products : List CatalogProduct
  purchases : Table BnplPurchase
  consumerPayments : Table ConsumerPaymentToMerchant
  installments : Table BnplInstallment
  coreLinks : List CorePurchaseLink
  receivables : Table MerchantReceivable

/-! ## Requests -/

structure InstallmentInput where
  installmentNumber : Nat
  dueDate : Day
  amount : JsNumber
  coreInstallmentId : Option Nat
  deriving DecidableEq

structure CoreLoanRef where
  tenantId : Nat
  loanId : Nat
  partnerProfileId : Option Nat
  deriving DecidableEq

/-- The body of a purchase, with the merchant it is registered for. -/
structure RegisterPurchaseDto where
  merchantAccountId : Nat
  branchId : Nat
  consumerId : Option Nat
  consumerExternalRef : Option String
  purchaseAmount : JsNumber
  downPaymentAmount : JsNumber
  downPaymentPaidAt : Option Instant
  downPaymentEvidenceRef : Option String
  financedAmount : JsNumber
  /-- Accepted and ignored. -/
  riskTierAtOrigination : Option String
  cohortId : Option String
  productCategory : Option String
  mdrReceivableDueDate : Day
  coreLoanRef : Option CoreLoanRef
  installments : List InstallmentInput
  deriving DecidableEq

/-! ## The split of a purchase -/

structure PurchaseSplit where
  purchase : Int
  downPayment : Int
  financed : Int
  installments : List Int
  deriving DecidableEq

/-- The down payment, in millionths of a percentage point. -/
def DOWN_PAYMENT_RATE_PERCENT : Int := 60 * 10 ^ RATE_SCALE

def parsePurchaseSplit (input : RegisterPurchaseDto) : Except MoneyError PurchaseSplit := do
  let purchase ← parseMoneyNumber input.purchaseAmount false
  let downPayment ← parseMoneyNumber input.downPaymentAmount true
  let financed ← parseMoneyNumber input.financedAmount true
  let installments ← input.installments.mapM fun installment => parseMoneyNumber installment.amount false
  return ⟨purchase, downPayment, financed, installments⟩

/-- A rule of the split that an input breaks. -/
structure MoneyRuleViolation where
  code : String
  message : String
  path : String
  deriving DecidableEq

/-- What is wrong with the split, to the cent; nothing when it is right. -/
def purchaseSplitViolations (input : RegisterPurchaseDto) : Except MoneyError (List MoneyRuleViolation) :=
  match parsePurchaseSplit input with
  | .error error => .ok [⟨"INVALID_AMOUNT", error.uncaught.message, "purchaseAmount"⟩]
  | .ok split => do
    let expectedDown ← applyRatePercent split.purchase (← parseRatePercent DOWN_PAYMENT_RATE_PERCENT)
    let downDelta := split.downPayment - expectedDown
    return (if downDelta > 1 ∨ downDelta < -1 then [⟨"DOWN_PAYMENT_NOT_60_PERCENT",
        "El pago inicial debe representar 60% de la compra.", "downPaymentAmount"⟩] else []) ++
      (if split.purchase - split.downPayment ≠ split.financed then [⟨"FINANCED_NOT_REMAINDER",
        "El monto financiado debe representar el 40% restante.", "financedAmount"⟩] else []) ++
      (if sumMinor split.installments ≠ split.financed then [⟨"INSTALLMENTS_NOT_EQUAL_FINANCED",
        "La suma de cuotas debe coincidir con el monto financiado.", "installments"⟩] else []) ++
      (if (input.installments.map (·.installmentNumber)).Nodup then [] else [⟨"DUPLICATED_INSTALLMENT_NUMBER",
        "No se permiten números de cuota duplicados.", "installments"⟩])

def assertPurchaseSplit (input : RegisterPurchaseDto) : Except HttpError Unit := do
  match ← liftMoney (purchaseSplitViolations input) with
  | [] => return ()
  | violation :: _ => throw ⟨.badRequest, some violation.code, violation.message⟩

/-! ## Who buys, under what contract -/

section Read

variable (db : PurchaseDb)

/-- `text?.trim()`, when something is left. -/
def trimmedText (text : Option String) : Option String :=
  (text.map fun text => String.ofList (trim text.toList)).filter (· ≠ "")

/-- The consumer of a request, who is created when there is none. -/
def resolveConsumerId (input : RegisterPurchaseDto) : Except HttpError (Nat × PurchaseDb) :=
  match input.consumerId with
  | some id => .ok (id, match db.consumers.append? [⟨id, input.consumerExternalRef⟩] with
    | some consumers => { db with consumers }
    | none => db)
  | none => do
    let externalRef ← orFail (trimmedText input.consumerExternalRef)
      (conflictText "Indique el documento del cliente o su identificador en Atlas.")
    match db.consumers.findBy (·.externalRef = some externalRef) with
    | some existing => return (existing.id, db)
    | none => return (db.consumers.nextKey,
        { db with consumers := db.consumers.create (⟨·, some externalRef⟩) })

/-- The band that Core decided for a customer. -/
def resolveRiskTier (externalRef : Option String) : Option String :=
  (trimmedText externalRef).bind fun customerId => (db.customerRiskTiers customerId).map (·.riskTier)

/-- The version of an active contract of the account that is in force on a day: the last one to start. -/
def findActiveContractVersion (accountId : Nat) (atDate : Day) : Option CommercialVersion :=
  ((db.contractVersions.rowsWhere fun version =>
      version.status = .active ∧ version.validFrom ≤ atDate ∧ version.validTo.all (atDate ≤ ·) ∧
        (db.contracts.find? version.contractId).any fun contract =>
          contract.accountId = accountId ∧ contract.status = .active).insertionSort
    fun left right => right.validFrom ≤ left.validFrom).head?

/-- The commission of a purchase under a version. -/
def mdrOf (version : CommercialVersion) (input : RegisterPurchaseDto) (riskTier : Option String) :
    Except HttpError PurchaseMdr :=
  calculateMdr input.purchaseAmount (db.mdrRules.rowsWhere fun rule => rule.contractVersionId = version.id ∧ rule.isActive)
    (db.commercialTerms.filter (·.contractVersionId = version.id)) input.branchId input.productCategory riskTier

end Read

/-! ## The purchase -/

section Write

variable (input : RegisterPurchaseDto)

def newPurchase (split : PurchaseSplit) (consumerId : Nat) (version : CommercialVersion) (riskTier : Option String)
    (mdr : PurchaseMdr) (id : Nat) : BnplPurchase where
  id
  merchantAccountId := input.merchantAccountId
  branchId := input.branchId
  consumerId
  contractVersionId := version.id
  purchaseAmount := split.purchase
  downPaymentAmount := split.downPayment
  financedAmount := split.financed
  riskTierAtOrigination := riskTier
  cohortId := input.cohortId
  status := .confirmed
  mdrRatePercent := mdr.ratePercent
  mdrAmount := mdr.amount
  mdrRuleId := mdr.ruleId
  mdrPricingSource := mdr.source

/-- The notice of the down payment. -/
def downPaymentNotice (split : PurchaseSplit) (purchaseId : Nat) (now : Instant) (id : Nat) :
    ConsumerPaymentToMerchant where
  id
  purchaseId
  installmentId := none
  amount := split.downPayment
  paidAt := input.downPaymentPaidAt.getD now
  evidenceRef := input.downPaymentEvidenceRef
  status := .reported
  createdAt := now
  decidedByUserId := none
  decidedAt := none
  decisionNote := none
  coreTenantId := none
  coreClaimId := none

/-- Tie an installment to the one of Core; the one of Core may have no other. -/
def linkCoreInstallment (link : CorePurchaseLink) (db : PurchaseDb) : Except HttpError PurchaseDb := do
  failIf (db.coreLinks.any fun old =>
      old.coreTenantId = link.coreTenantId ∧ old.coreInstallmentId = link.coreInstallmentId)
    (conflict "CORE_INSTALLMENT_ALREADY_LINKED" "Esa cuota de Core ya está ligada a otra cuota del ERP.")
  return { db with coreLinks := db.coreLinks ++ [link] }

/-- An installment and, when the request names it, its installment of Core. -/
def createInstallment (purchaseId : Nat) (db : PurchaseDb) (installment : InstallmentInput × Int) :
    Except HttpError PurchaseDb :=
  let row (id : Nat) : BnplInstallment :=
    ⟨id, purchaseId, installment.1.installmentNumber, installment.1.dueDate, installment.2, .scheduled⟩
  let created := { db with installments := db.installments.create row }
  match input.coreLoanRef, installment.1.coreInstallmentId with
  | some loan, some coreInstallmentId =>
    let link := ⟨purchaseId, db.installments.nextKey, loan.tenantId, loan.loanId, coreInstallmentId⟩
    linkCoreInstallment ⟨link, loan.partnerProfileId⟩ created
  | _, _ => .ok created

/-- The charge of the commission. -/
def mdrReceivable (products : List CatalogProduct) (mdr : PurchaseMdr) (purchaseId id : Nat) : MerchantReceivable where
  id
  accountId := input.merchantAccountId
  invoiceId := none
  sourceType := TermType.mdr.text
  sourceId := some purchaseId
  productId := (products.find? fun product => product.sourceType = TermType.mdr.text ∧ product.isActive).map (·.id)
  amountOriginal := mdr.amount
  amountOpen := mdr.amount
  currency := "BOB"
  dueDate := input.mdrReceivableDueDate
  status := .pending

/-- **Register a purchase**: the purchase and the charge of its commission. -/
def registerPurchase (db : PurchaseDb) (input : RegisterPurchaseDto) (now : Instant) :
    Except HttpError ((BnplPurchase × MerchantReceivable) × PurchaseDb) := do
  let account ← orFail (db.accounts.find? input.merchantAccountId) (notFound "Cuenta B2B no encontrada.")
  failIf (account.lifecycleStatus ≠ .customer) ⟨.forbidden, none, "El comercio no está activo como CUSTOMER."⟩
  failIf ((db.branches.findBy fun branch => branch.id = input.branchId ∧ branch.accountId = input.merchantAccountId).all
      fun branch => branch.status ≠ .active ∨ branch.canOriginateBnpl = false)
    ⟨.forbidden, none, "La sucursal no está habilitada para originar BNPL."⟩
  assertPurchaseSplit input
  let split ← liftMoney (parsePurchaseSplit input)
  let (consumerId, db) ← resolveConsumerId db input
  let version ← orFail (findActiveContractVersion db input.merchantAccountId (now / 86400000))
    (conflictText "El comercio no tiene versión contractual activa para la fecha de compra.")
  let riskTier := resolveRiskTier db input.consumerExternalRef
  let mdr ← mdrOf db version input riskTier
  let purchase := newPurchase input split consumerId version riskTier mdr db.purchases.nextKey
  let db := { db with
    purchases := db.purchases.create (newPurchase input split consumerId version riskTier mdr)
    consumerPayments := db.consumerPayments.create (downPaymentNotice input split purchase.id now) }
  let db ← (input.installments.zip split.installments).foldlM (createInstallment input purchase.id) db
  let receivable := mdrReceivable input db.products mdr purchase.id
  return ((purchase, receivable db.receivables.nextKey), { db with receivables := db.receivables.create receivable })

end Write

/-! ## What a purchase that is registered leaves -/

section Registered

variable {db db' : PurchaseDb} {input : RegisterPurchaseDto} {now : Instant}

/-- Resolving the consumer writes only consumers. -/
theorem resolveConsumerId_frame {consumerId : Nat} (h : resolveConsumerId db input = .ok (consumerId, db')) :
    ∃ consumers, db' = { db with consumers } := by
  unfold resolveConsumerId at h
  cases hid : input.consumerId with
  | some id =>
    rw [hid] at h
    obtain ⟨-, rfl⟩ := Prod.mk.inj (Except.ok.inj h)
    split
    · exact ⟨_, rfl⟩
    · exact ⟨_, rfl⟩
  | none =>
    rw [hid] at h
    obtain ⟨externalRef, -, h⟩ := orFail_bind_eq_ok.mp h
    split at h
    · obtain ⟨-, rfl⟩ := Prod.mk.inj (pure_eq_ok.mp h)
      exact ⟨_, rfl⟩
    · obtain ⟨-, rfl⟩ := Prod.mk.inj (pure_eq_ok.mp h)
      exact ⟨_, rfl⟩

/-- An installment writes only installments and links. -/
theorem createInstallment_frame {purchaseId : Nat} {installment : InstallmentInput × Int}
    (h : createInstallment input purchaseId db installment = .ok db') :
    ∃ installments coreLinks, db' = { db with installments, coreLinks } := by
  unfold createInstallment at h
  split at h
  · unfold linkCoreInstallment at h
    obtain ⟨-, h⟩ := failIf_bind_eq_ok.mp h
    obtain rfl := pure_eq_ok.mp h
    exact ⟨_, _, rfl⟩
  · obtain rfl := Except.ok.inj h
    exact ⟨_, _, rfl⟩

theorem createInstallments_frame {purchaseId : Nat} {installments : List (InstallmentInput × Int)}
    (h : installments.foldlM (createInstallment input purchaseId) db = .ok db') :
    ∃ installments coreLinks, db' = { db with installments, coreLinks } := by
  induction installments generalizing db with
  | nil =>
    obtain rfl := pure_eq_ok.mp h
    exact ⟨_, _, rfl⟩
  | cons installment rest ih =>
    rw [List.foldlM_cons] at h
    obtain ⟨middle, hfirst, hrest⟩ := bind_eq_ok.mp h
    obtain ⟨_, _, rfl⟩ := createInstallment_frame hfirst
    obtain ⟨_, _, rfl⟩ := ih hrest
    exact ⟨_, _, rfl⟩

/-- The row of an installment. -/
def installmentRow (purchaseId : Nat) (installment : InstallmentInput × Int) (id : Nat) : BnplInstallment :=
  ⟨id, purchaseId, installment.1.installmentNumber, installment.1.dueDate, installment.2, .scheduled⟩

theorem createInstallment_rows {purchaseId : Nat} {installment : InstallmentInput × Int}
    (h : createInstallment input purchaseId db installment = .ok db') :
    db'.installments.rows = db.installments.rows ++ [installmentRow purchaseId installment db.installments.nextKey] := by
  have hrows : (db.installments.create (installmentRow purchaseId installment)).rows =
      db.installments.rows ++ [installmentRow purchaseId installment db.installments.nextKey] :=
    Table.rows_create fun _ => rfl
  unfold createInstallment at h
  split at h
  · unfold linkCoreInstallment at h
    obtain ⟨-, h⟩ := failIf_bind_eq_ok.mp h
    obtain rfl := pure_eq_ok.mp h
    exact hrows
  · obtain rfl := Except.ok.inj h
    exact hrows

/-- The rows of the installments, one for each and in their order. -/
theorem createInstallments_rows {purchaseId : Nat} {installments : List (InstallmentInput × Int)}
    (h : installments.foldlM (createInstallment input purchaseId) db = .ok db') :
    ∃ rows, db'.installments.rows = db.installments.rows ++ rows ∧
      List.Forall₂ (fun installment row => ∃ id, row = installmentRow purchaseId installment id) installments rows := by
  induction installments generalizing db with
  | nil =>
    obtain rfl := pure_eq_ok.mp h
    exact ⟨[], (List.append_nil _).symm, .nil⟩
  | cons installment rest ih =>
    rw [List.foldlM_cons] at h
    obtain ⟨middle, hfirst, hrest⟩ := bind_eq_ok.mp h
    obtain ⟨rows, hrows, hall⟩ := ih hrest
    refine ⟨installmentRow purchaseId installment db.installments.nextKey :: rows, ?_, .cons ⟨_, rfl⟩ hall⟩
    rw [hrows, createInstallment_rows hfirst, List.append_assoc, List.singleton_append]

/-- **What a registered purchase did**: the checks it passed, and its writes. -/
theorem registerPurchase_inv {registered : BnplPurchase × MerchantReceivable}
    (h : registerPurchase db input now = .ok (registered, db')) :
    ∃ split consumerId consumers version mdr installments coreLinks,
      assertPurchaseSplit input = .ok () ∧ parsePurchaseSplit input = .ok split ∧
      resolveConsumerId db input = .ok (consumerId, { db with consumers }) ∧
      findActiveContractVersion db input.merchantAccountId (now / 86400000) = some version ∧
      mdrOf db version input (resolveRiskTier db input.consumerExternalRef) = .ok mdr ∧
      registered = (newPurchase input split consumerId version (resolveRiskTier db input.consumerExternalRef) mdr
          db.purchases.nextKey,
        mdrReceivable input db.products mdr db.purchases.nextKey db.receivables.nextKey) ∧
      (∃ rows, installments.rows = db.installments.rows ++ rows ∧
        List.Forall₂ (fun installment row => ∃ id, row = installmentRow db.purchases.nextKey installment id)
          (input.installments.zip split.installments) rows) ∧
      db' = { db with
        consumers, installments, coreLinks
        purchases := db.purchases.create
          (newPurchase input split consumerId version (resolveRiskTier db input.consumerExternalRef) mdr)
        consumerPayments := db.consumerPayments.create (downPaymentNotice input split db.purchases.nextKey now)
        receivables := db.receivables.create (mdrReceivable input db.products mdr db.purchases.nextKey) } := by
  unfold registerPurchase at h
  obtain ⟨account, -, h⟩ := orFail_bind_eq_ok.mp h
  obtain ⟨-, h⟩ := failIf_bind_eq_ok.mp h
  obtain ⟨-, h⟩ := failIf_bind_eq_ok.mp h
  obtain ⟨_, hassert, h⟩ := bind_eq_ok.mp h
  obtain ⟨split, hsplit, h⟩ := bind_eq_ok.mp h
  obtain ⟨⟨consumerId, db₁⟩, hconsumer, h⟩ := bind_eq_ok.mp h
  obtain ⟨consumers, rfl⟩ := resolveConsumerId_frame hconsumer
  obtain ⟨version, hversion, h⟩ := orFail_bind_eq_ok.mp h
  obtain ⟨mdr, hmdr, h⟩ := bind_eq_ok.mp h
  obtain ⟨db₂, hinstallments, h⟩ := bind_eq_ok.mp h
  have hrows := createInstallments_rows hinstallments
  obtain ⟨installments, coreLinks, rfl⟩ := createInstallments_frame hinstallments
  obtain ⟨rfl, rfl⟩ := Prod.mk.inj (pure_eq_ok.mp h)
  exact ⟨split, consumerId, consumers, version, mdr, installments, coreLinks, hassert, liftMoney_eq_ok.mp hsplit,
    hconsumer, hversion, hmdr, rfl, hrows, rfl⟩

/-- **A purchase that is registered**: under the version in force, with the band of the customer that the body names
and the commission of that band, and the charge of the commission. -/
theorem registerPurchase_eq_ok {registered : BnplPurchase × MerchantReceivable}
    (h : registerPurchase db input now = .ok (registered, db')) :
    ∃ split consumerId version mdr,
      parsePurchaseSplit input = .ok split ∧
      (∃ consumers, resolveConsumerId db input = .ok (consumerId, { db with consumers })) ∧
      findActiveContractVersion db input.merchantAccountId (now / 86400000) = some version ∧
      mdrOf db version input (resolveRiskTier db input.consumerExternalRef) = .ok mdr ∧
      registered = (newPurchase input split consumerId version (resolveRiskTier db input.consumerExternalRef) mdr
          db.purchases.nextKey,
        mdrReceivable input db.products mdr db.purchases.nextKey db.receivables.nextKey) ∧
      registered.1 ∈ db'.purchases ∧ registered.2 ∈ db'.receivables := by
  obtain ⟨split, consumerId, consumers, version, mdr, installments, coreLinks, -, hsplit, hconsumer, hversion, hmdr, rfl,
    -, rfl⟩ := registerPurchase_inv h
  refine ⟨split, consumerId, version, mdr, hsplit, ⟨consumers, hconsumer⟩, hversion, hmdr, rfl, ?_, ?_⟩
  · exact (Table.mem_create fun _ => rfl).mpr (.inr rfl)
  · exact (Table.mem_create fun _ => rfl).mpr (.inr rfl)

end Registered

/-! ## The vote of the merchant -/

/-- A reference names a customer of this band. -/
def NamesBand (db : PurchaseDb) (externalRef : Option String) (band : String) : Prop :=
  ∃ text row, externalRef = some text ∧ trim text.toList ≠ [] ∧
    db.customerRiskTiers (String.ofList (trim text.toList)) = some row ∧ row.riskTier = band

theorem resolveRiskTier_eq_some {db : PurchaseDb} {externalRef : Option String} {band : String} :
    resolveRiskTier db externalRef = some band ↔ NamesBand db externalRef band := by
  unfold resolveRiskTier NamesBand
  constructor
  · intro h
    obtain ⟨customerId, hid, hrow⟩ := Option.bind_eq_some_iff.mp h
    obtain ⟨row, hfound, hband⟩ := Option.map_eq_some_iff.mp hrow
    obtain ⟨htext, hne⟩ := Option.filter_eq_some_iff.mp hid
    obtain ⟨text, rfl, rfl⟩ := Option.map_eq_some_iff.mp htext
    refine ⟨text, row, rfl, ?_, hfound, hband⟩
    intro hempty
    rw [hempty] at hne
    exact absurd hne (by decide)
  · rintro ⟨text, row, rfl, hne, hfound, hband⟩
    have htrimmed : trimmedText (some text) = some (String.ofList (trim text.toList)) := by
      refine Option.filter_eq_some_iff.mpr ⟨rfl, decide_eq_true fun hempty => hne ?_⟩
      simpa using congrArg String.toList hempty
    rw [htrimmed]
    exact Option.map_eq_some_iff.mpr ⟨row, hfound, hband⟩

/-- Two purchases carry the same band and are charged alike. -/
structure ChargedAlike (a b : BnplPurchase × MerchantReceivable) : Prop where
  tier : a.1.riskTierAtOrigination = b.1.riskTierAtOrigination
  rate : a.1.mdrRatePercent = b.1.mdrRatePercent
  rule : a.1.mdrRuleId = b.1.mdrRuleId
  source : a.1.mdrPricingSource = b.1.mdrPricingSource
  amount : a.1.mdrAmount = b.1.mdrAmount
  charge : a.2.amountOriginal = b.2.amountOriginal ∧ a.2.amountOpen = b.2.amountOpen

/-- **Two requests of a merchant** for the same branch, amount and category, in one state, whoever their consumers are:
they are charged alike exactly when the references of their bodies name customers of one band. -/
theorem chargedAlike_iff {db db₁ db₂ : PurchaseDb} {input input' : RegisterPurchaseDto} {now : Instant}
    {registered registered' : BnplPurchase × MerchantReceivable}
    (h : registerPurchase db input now = .ok (registered, db₁))
    (h' : registerPurchase db input' now = .ok (registered', db₂))
    (haccount : input.merchantAccountId = input'.merchantAccountId) (hbranch : input.branchId = input'.branchId)
    (hamount : input.purchaseAmount = input'.purchaseAmount)
    (hcategory : input.productCategory = input'.productCategory) :
    ChargedAlike registered registered' ↔
      ∀ band, NamesBand db input.consumerExternalRef band ↔ NamesBand db input'.consumerExternalRef band := by
  obtain ⟨split, consumerId, version, mdr, -, -, hversion, hmdr, rfl, -⟩ := registerPurchase_eq_ok h
  obtain ⟨split', consumerId', version', mdr', -, -, hversion', hmdr', rfl, -⟩ := registerPurchase_eq_ok h'
  have hbands : (∀ band, NamesBand db input.consumerExternalRef band ↔ NamesBand db input'.consumerExternalRef band) ↔
      resolveRiskTier db input.consumerExternalRef = resolveRiskTier db input'.consumerExternalRef := by
    simp only [← resolveRiskTier_eq_some]
    exact ⟨Option.ext, fun heq band => by rw [heq]⟩
  rw [hbands]
  constructor
  · exact fun halike => halike.tier
  · intro hsame
    obtain rfl : version = version' := Option.some.inj (by rw [← hversion, ← hversion', haccount])
    obtain rfl : mdr = mdr' := by
      refine Except.ok.inj (hmdr.symm.trans (Eq.trans ?_ hmdr'))
      unfold mdrOf
      rw [hamount, hbranch, hcategory, hsame]
    exact ⟨hsame, rfl, rfl, rfl, rfl, rfl, rfl⟩

/-- A merchant with a general rule at 3 % and one at 5 % for band D, and consumer 1, customer 7001 of Core, of band
D. -/
def twoBands : PurchaseDb where
  accounts := Table.empty.create fun id => ⟨id, .customer⟩
  branches := Table.empty.create fun id => ⟨id, 1, "Centro", none, none, .active, true, false, none⟩
  consumers := Table.empty.create fun id => ⟨id, some "7001"⟩
  customerRiskTiers := Function.update (fun _ => none) "7001" (some ⟨"D", 1790000000000, "APP-1", "d-1"⟩)
  contracts := Table.empty.create fun id => ⟨id, 1, .active⟩
  contractVersions := Table.empty.create fun id => ⟨id, 1, .active, 20000, none⟩
  commercialTerms := []
  mdrRules := (Table.empty.create fun id => ⟨id, 1, none, none, none, 3000000, none, none, true⟩).create fun id =>
    ⟨id, 1, none, none, some "D", 5000000, none, none, true⟩
  products := []
  purchases := Table.empty
  consumerPayments := Table.empty
  installments := Table.empty
  coreLinks := []
  receivables := Table.empty

/-- A purchase of 100 in one installment. -/
def purchaseOf100 (consumerId : Option Nat) (consumerExternalRef : Option String) : RegisterPurchaseDto :=
  ⟨1, 1, consumerId, consumerExternalRef, 100, 60, none, none, 40, none, none, none, 20800, none, [⟨1, 20790, 40, none⟩]⟩

/-- The band and the commission of a purchase that is registered. -/
def chargedOf (outcome : Except HttpError ((BnplPurchase × MerchantReceivable) × PurchaseDb)) :
    Option (Nat × Option String × Int × Int) :=
  outcome.toOption.map fun registered => (registered.1.1.consumerId, registered.1.1.riskTierAtOrigination,
    registered.1.1.mdrRatePercent, registered.1.2.amountOriginal)

/-- The merchant names its customer by the document, or by the identifier alone: the band is gone with the document. -/
theorem chargedAlike_counterexample :
    chargedOf (registerPurchase twoBands (purchaseOf100 none (some "7001")) 1790000000000) =
        some (1, some "D", 5000000, 500) ∧
      chargedOf (registerPurchase twoBands (purchaseOf100 (some 1) none) 1790000000000) =
        some (1, none, 3000000, 300) := by
  decide +kernel

/-- The two requests of the counterexample, with the document in both. -/
theorem chargedAlike_iff_document : ∃ registered registered' db₁ db₂,
    registerPurchase twoBands (purchaseOf100 none (some "7001")) 1790000000000 = .ok (registered, db₁) ∧
      registerPurchase twoBands (purchaseOf100 (some 1) (some " 7001 ")) 1790000000000 = .ok (registered', db₂) ∧
      ChargedAlike registered registered' := by
  obtain ⟨⟨registered, db₁⟩, h⟩ := exists_of_isOk (show
    (registerPurchase twoBands (purchaseOf100 none (some "7001")) 1790000000000).isOk = true by decide +kernel)
  obtain ⟨⟨registered', db₂⟩, h'⟩ := exists_of_isOk (show
    (registerPurchase twoBands (purchaseOf100 (some 1) (some " 7001 ")) 1790000000000).isOk = true by decide +kernel)
  refine ⟨registered, registered', db₁, db₂, h, h', (chargedAlike_iff h h' rfl rfl rfl rfl).mpr fun band => ?_⟩
  rw [← resolveRiskTier_eq_some, ← resolveRiskTier_eq_some]
  have hsame : resolveRiskTier twoBands (purchaseOf100 none (some "7001")).consumerExternalRef =
      resolveRiskTier twoBands (purchaseOf100 (some 1) (some " 7001 ")).consumerExternalRef := by decide +kernel
  rw [hsame]

end AtlasErp
