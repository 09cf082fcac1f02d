import AtlasErp.Lib.Forest
import AtlasErp.Purchases.Register

/-! # A purchase loses no cent

The split of a purchase is checked by the schema, checked again by the service, and read a third time to be stored.

- `registerPurchaseRequest`: the request, with the refinement of its schema and the unique index of the charges;
- `registerPurchaseIssues_eq_nil`: what the schema accepts, the service accepts;
- `Conserved`: the parts of a purchase add up, and it has one charge;
- `registerPurchaseRequest_conserves`: an accepted request leaves a balanced purchase with the fee of the rule in force,
  and a rejected one leaves nothing;
- `conserved_requests`: a purchase stays balanced, whatever requests follow. -/

namespace AtlasErp

open Lib

/-! ## The request -/

/-- An issue of a schema: its path and its message. -/
abbrev SchemaIssue := String × String

section Request

variable (input : RegisterPurchaseDto)

/-- The amounts and numbers that the fields of the schema accept. -/
def RegisterPurchaseDto.WellFormed : Prop :=
  0 < input.purchaseAmount ∧ 0 ≤ input.downPaymentAmount ∧ 0 ≤ input.financedAmount ∧ input.installments ≠ [] ∧
    ∀ installment ∈ input.installments, 0 < installment.installmentNumber ∧ 0 < installment.amount

instance : Decidable input.WellFormed := by
  unfold RegisterPurchaseDto.WellFormed
  infer_instance

/-- The installments of Core that a request names. -/
def linkedInstallments : List Nat := input.installments.filterMap (·.coreInstallmentId)

def coreLoanIssues : List SchemaIssue :=
  (if input.coreLoanRef.isSome ∧ (linkedInstallments input).length ≠ input.installments.length then
      [("installments", "Con coreLoanRef, cada cuota debe traer su coreInstallmentId.")] else []) ++
    (if input.coreLoanRef.isNone ∧ linkedInstallments input ≠ [] then
      [("coreLoanRef", "coreInstallmentId exige coreLoanRef (tenant y préstamo de Core).")] else []) ++
    (if (linkedInstallments input).Nodup then []
      else [("installments", "Dos cuotas no pueden apuntar a la misma cuota de Core.")])

/-- An issue for each installment whose number was seen before. -/
def repeatedNumberIssues : Nat → List Nat → List InstallmentInput → List SchemaIssue
  | _, _, [] => []
  | index, seen, installment :: rest =>
    (if installment.installmentNumber ∈ seen then
        [("installments." ++ toString index ++ ".installmentNumber", "No se permiten números de cuota duplicados.")]
      else []) ++ repeatedNumberIssues (index + 1) (installment.installmentNumber :: seen) rest

/-- The refinement of `registerPurchaseSchema`. -/
def registerPurchaseIssues : Except MoneyError (List SchemaIssue) := do
  let violations ← purchaseSplitViolations input
  return coreLoanIssues input ++
    ((violations.filter (·.code ≠ "DUPLICATED_INSTALLMENT_NUMBER")).map fun violation =>
      (violation.path, violation.message)) ++
    repeatedNumberIssues 0 [] input.installments

/-- The entries of a charge in `uq_merchant_receivable_source`. -/
def receivableSource (receivable : MerchantReceivable) : List (String × Nat) :=
  receivable.sourceId.toList.map (receivable.sourceType, ·)

/-- **The request**: the schema, the service, and the unique index of the charges. -/
def registerPurchaseRequest (db : PurchaseDb) (now : Instant) :
    Except HttpError ((BnplPurchase × MerchantReceivable) × PurchaseDb) := do
  let invalid : HttpError := ⟨.badRequest, some "VALIDATION_ERROR", "Los datos enviados no son válidos."⟩
  failIf (¬input.WellFormed) invalid
  let issues ← liftMoney (registerPurchaseIssues input)
  failIf (issues ≠ []) invalid
  let (registered, db') ← registerPurchase db input now
  failIf (db.receivables.conflicts receivableSource none (receivableSource registered.2) = true)
    ⟨.internalServerError, none, "uq_merchant_receivable_source"⟩
  return (registered, db')

end Request

/-! ## The schema and the service agree -/

section Agree

variable {input : RegisterPurchaseDto}

theorem repeatedNumberIssues_eq_nil {index : Nat} {seen : List Nat} {installments : List InstallmentInput} :
    repeatedNumberIssues index seen installments = [] ↔
      (installments.map (·.installmentNumber)).Nodup ∧ ∀ i ∈ installments, i.installmentNumber ∉ seen := by
  induction installments generalizing index seen with
  | nil => simp [repeatedNumberIssues]
  | cons installment rest ih =>
    rw [repeatedNumberIssues, List.append_eq_nil_iff, ih, List.map_cons, List.nodup_cons, List.forall_mem_cons]
    simp only [ite_eq_right_iff, reduceCtorEq, imp_false, List.mem_cons, not_or, List.mem_map, not_exists, not_and]
    constructor
    · rintro ⟨hfirst, hnodup, hseen⟩
      exact ⟨⟨fun i hi heq => (hseen i hi).1 heq, hnodup⟩, hfirst, fun i hi => (hseen i hi).2⟩
    · rintro ⟨⟨hnew, hnodup⟩, hfirst, hseen⟩
      exact ⟨hfirst, hnodup, fun i hi => ⟨hnew i hi, hseen i hi⟩⟩

/-- The split of an accepted request: nothing negative, and every installment positive. -/
theorem parsePurchaseSplit_eq_ok {split : PurchaseSplit} (h : parsePurchaseSplit input = .ok split) :
    parseMoneyNumber input.purchaseAmount false = .ok split.purchase ∧
      split.installments.length = input.installments.length ∧ ∀ amount ∈ split.installments, 0 < amount := by
  obtain ⟨purchase, hpurchase, h⟩ := bind_eq_ok.mp h
  obtain ⟨downPayment, -, h⟩ := bind_eq_ok.mp h
  obtain ⟨financed, -, h⟩ := bind_eq_ok.mp h
  obtain ⟨installments, hinstallments, h⟩ := bind_eq_ok.mp h
  obtain rfl := pure_eq_ok.mp h
  have hall := mapM_eq_ok.mp hinstallments
  refine ⟨hpurchase, hall.length_eq.symm, fun amount hamount => ?_⟩
  obtain ⟨installment, -, hamount⟩ := forall₂_of_mem_right hall hamount
  exact (parseMoneyNumber_eq_ok hamount).2 rfl

/-- What the down payment should be. -/
theorem applyRatePercent_downPayment {purchase : Int} (hpurchase : 0 ≤ purchase) :
    applyRatePercent purchase DOWN_PAYMENT_RATE_PERCENT = .ok (roundHalfUp ((purchase : ℚ) * 60 / 100)) := by
  have hquotient : (purchase : ℚ) * (DOWN_PAYMENT_RATE_PERCENT : Int) / (100 * 10 ^ RATE_SCALE) = purchase * 60 / 100 := by
    norm_num [DOWN_PAYMENT_RATE_PERCENT, RATE_SCALE]
    ring
  rw [applyRatePercent_eq hpurchase (by decide), hquotient]

/-- The split is right, to the cent. -/
structure PurchaseSplit.Balanced (split : PurchaseSplit) : Prop where
  downPayment : |split.downPayment - roundHalfUp ((split.purchase : ℚ) * 60 / 100)| ≤ 1
  parts : split.downPayment + split.financed = split.purchase
  installments : split.installments.sum = split.financed

/-- **What is wrong with a split**: nothing but repeated numbers exactly when it is balanced. -/
theorem purchaseSplitViolations_eq_ok {split : PurchaseSplit} (hsplit : parsePurchaseSplit input = .ok split) :
    ∃ violations, (violations = [] ↔ split.Balanced) ∧
      (∀ violation ∈ violations, violation.code ≠ "DUPLICATED_INSTALLMENT_NUMBER") ∧
      purchaseSplitViolations input = .ok (violations ++ if (input.installments.map (·.installmentNumber)).Nodup then []
        else [⟨"DUPLICATED_INSTALLMENT_NUMBER", "No se permiten números de cuota duplicados.", "installments"⟩]) := by
  have hnonneg := (parseMoneyNumber_eq_ok (parsePurchaseSplit_eq_ok hsplit).1).1
  have hrate : parseRatePercent DOWN_PAYMENT_RATE_PERCENT = .ok DOWN_PAYMENT_RATE_PERCENT := rfl
  rw [purchaseSplitViolations, hsplit]
  simp only [hrate, ok_bind, applyRatePercent_downPayment hnonneg]
  refine ⟨_, ?_, ?_, rfl⟩
  · rw [List.append_eq_nil_iff, List.append_eq_nil_iff]
    simp only [ite_eq_right_iff, reduceCtorEq, imp_false, sumMinor_eq, not_or, not_lt, ne_eq, not_not]
    constructor
    · rintro ⟨⟨⟨hhigh, hlow⟩, hparts⟩, hsum⟩
      exact ⟨abs_le.mpr ⟨hlow, hhigh⟩, by omega, hsum⟩
    · rintro ⟨hdown, hparts, hsum⟩
      obtain ⟨hlow, hhigh⟩ := abs_le.mp hdown
      exact ⟨⟨⟨hhigh, hlow⟩, by omega⟩, hsum⟩
  · intro violation hviolation
    simp only [List.mem_append, List.mem_ite_nil_right, List.mem_singleton] at hviolation
    rcases hviolation with (⟨-, rfl⟩ | ⟨-, rfl⟩) | ⟨-, rfl⟩ <;> decide

/-- A split without violations. -/
theorem purchaseSplitViolations_eq_nil :
    purchaseSplitViolations input = .ok [] ↔ ∃ split, parsePurchaseSplit input = .ok split ∧ split.Balanced ∧
      (input.installments.map (·.installmentNumber)).Nodup := by
  cases hsplit : parsePurchaseSplit input with
  | error e =>
    rw [purchaseSplitViolations, hsplit]
    exact iff_of_false nofun fun ⟨_, hsplit', _⟩ => nomatch hsplit'
  | ok split =>
    obtain ⟨violations, hbalanced, -, hviolations⟩ := purchaseSplitViolations_eq_ok hsplit
    rw [hviolations, Except.ok.injEq, List.append_eq_nil_iff, hbalanced]
    simp

/-- **What the schema accepts, the service accepts**: the two checks of a split agree. -/
theorem registerPurchaseIssues_eq_nil :
    registerPurchaseIssues input = .ok [] ↔ coreLoanIssues input = [] ∧ purchaseSplitViolations input = .ok [] := by
  have hissues : registerPurchaseIssues input = .ok [] ↔ ∃ violations, purchaseSplitViolations input = .ok violations ∧
      coreLoanIssues input = [] ∧ (∀ v ∈ violations, v.code = "DUPLICATED_INSTALLMENT_NUMBER") ∧
      (input.installments.map (·.installmentNumber)).Nodup := by
    rw [registerPurchaseIssues, bind_eq_ok]
    refine exists_congr fun violations => and_congr_right fun _ => ?_
    rw [pure_eq_ok, List.append_eq_nil_iff, List.append_eq_nil_iff, repeatedNumberIssues_eq_nil, List.map_eq_nil_iff,
      List.filter_eq_nil_iff, and_assoc]
    simp
  rw [hissues]
  constructor
  · rintro ⟨violations, hviolations, hcore, hcodes, hnodup⟩
    refine ⟨hcore, ?_⟩
    cases hsplit : parsePurchaseSplit input with
    | error e =>
      rw [purchaseSplitViolations, hsplit] at hviolations
      obtain rfl := Except.ok.inj hviolations
      exact absurd (hcodes _ List.mem_cons_self) (show "INVALID_AMOUNT" ≠ "DUPLICATED_INSTALLMENT_NUMBER" by decide)
    | ok split =>
      obtain ⟨others, -, hothers, hall⟩ := purchaseSplitViolations_eq_ok hsplit
      rw [if_pos hnodup, List.append_nil] at hall
      obtain rfl := Except.ok.inj (hviolations.symm.trans hall)
      -- every violation repeats a number, and none of these does
      obtain rfl : violations = [] := List.eq_nil_iff_forall_not_mem.mpr fun v hv => hothers v hv (hcodes v hv)
      exact hall
  · rintro ⟨hcore, hviolations⟩
    obtain ⟨_, -, -, hnodup⟩ := purchaseSplitViolations_eq_nil.mp hviolations
    exact ⟨[], hviolations, hcore, nofun, hnodup⟩

theorem assertPurchaseSplit_eq_ok : assertPurchaseSplit input = .ok () ↔ purchaseSplitViolations input = .ok [] := by
  rw [assertPurchaseSplit, bind_eq_ok]
  simp only [liftMoney_eq_ok]
  constructor
  · rintro ⟨violations, hviolations, h⟩
    cases violations with
    | nil => exact hviolations
    | cons violation rest => cases h
  · exact fun h => ⟨[], h, rfl⟩

end Agree

/-! ## What an accepted request leaves -/

/-- What the constraints of the database say of these tables. -/
structure PurchaseDb.Valid (db : PurchaseDb) : Prop where
  installments_purchase : ∀ row ∈ db.installments, ∃ purchase ∈ db.purchases, purchase.id = row.purchaseId
  receivables_source : db.receivables.Indexed receivableSource

/-- The installments of a purchase. -/
def installmentsOf (db : PurchaseDb) (purchaseId : Nat) : List BnplInstallment :=
  db.installments.rowsWhere (·.purchaseId = purchaseId)

/-- The charges of the commission of a purchase. -/
def mdrReceivablesOf (db : PurchaseDb) (purchaseId : Nat) : List MerchantReceivable :=
  db.receivables.rowsWhere fun receivable =>
    receivable.sourceType = TermType.mdr.text ∧ receivable.sourceId = some purchaseId

/-- **A purchase that lost no cent**: its parts add up, and there is one charge, of its commission. -/
structure Conserved (db : PurchaseDb) (purchase : BnplPurchase) : Prop where
  stored : purchase ∈ db.purchases
  parts : purchase.downPaymentAmount + purchase.financedAmount = purchase.purchaseAmount
  downPayment : |purchase.downPaymentAmount - roundHalfUp ((purchase.purchaseAmount : ℚ) * 60 / 100)| ≤ 1
  installments : ((installmentsOf db purchase.id).map (·.amount)).sum = purchase.financedAmount
  positive : ∀ installment ∈ installmentsOf db purchase.id, 0 < installment.amount
  numbers : ((installmentsOf db purchase.id).map (·.installmentNumber)).Nodup
  charge : ∃ receivable, mdrReceivablesOf db purchase.id = [receivable] ∧ receivable.amountOriginal = purchase.mdrAmount

/-- The rule of a purchase under a version. -/
def ruleInForce (db : PurchaseDb) (input : RegisterPurchaseDto) (version : CommercialVersion) : Option MdrRule :=
  pickBestMdrRule input.branchId input.productCategory (resolveRiskTier db input.consumerExternalRef)
    (db.mdrRules.rowsWhere fun rule => rule.contractVersionId = version.id ∧ rule.isActive)

/-- The commission is the fee of the rule in force, or of the term of the contract when no rule matches. -/
structure ChargedInForce (db : PurchaseDb) (input : RegisterPurchaseDto) (now : Instant) (purchase : BnplPurchase)
    (version : CommercialVersion) : Prop where
  inForce : findActiveContractVersion db input.merchantAccountId (now / 86400000) = some version
  contractVersionId : purchase.contractVersionId = version.id
  rule : ∀ rule, ruleInForce db input version = some rule →
    purchase.mdrRuleId = some rule.id ∧
      purchase.mdrAmount = mdrFee purchase.purchaseAmount ⟨rule.ratePercent, rule.minFeeAmount, rule.maxFeeAmount⟩
  term : ruleInForce db input version = none →
    purchase.mdrRuleId = none ∧ ∃ term ∈ db.commercialTerms, term.contractVersionId = version.id ∧ term.termType = .mdr ∧
      ∃ ratePercent, term.ratePercent = some ratePercent ∧
        purchase.mdrAmount = mdrFee purchase.purchaseAmount ⟨ratePercent, none, none⟩

section Accepted

variable {db db' : PurchaseDb} {input : RegisterPurchaseDto} {now : Instant} {version : CommercialVersion}
  {registered : BnplPurchase × MerchantReceivable}

/-- The commission of a purchase by a rule. -/
theorem mdrOf_rule {mdr : PurchaseMdr} {purchase : Int} {rule : MdrRule}
    (hpurchase : parseMoneyNumber input.purchaseAmount false = .ok purchase)
    (hrule : ruleInForce db input version = some rule)
    (h : mdrOf db version input (resolveRiskTier db input.consumerExternalRef) = .ok mdr) :
    mdr.ruleId = some rule.id ∧
      mdr.amount = mdrFee purchase ⟨rule.ratePercent, rule.minFeeAmount, rule.maxFeeAmount⟩ := by
  unfold ruleInForce at hrule
  rw [mdrOf, calculateMdr, hrule] at h
  obtain ⟨fee, hfee, h⟩ := bind_eq_ok.mp h
  obtain rfl := pure_eq_ok.mp h
  obtain ⟨purchase', hpurchase', hamount⟩ := computeMdrFee_eq_ok (mapError_eq_ok.mp hfee)
  obtain rfl := Except.ok.inj (hpurchase.symm.trans hpurchase')
  exact ⟨rfl, hamount⟩

/-- The commission of a purchase that no rule matches. -/
theorem mdrOf_term {mdr : PurchaseMdr} {purchase : Int}
    (hpurchase : parseMoneyNumber input.purchaseAmount false = .ok purchase)
    (hrule : ruleInForce db input version = none)
    (h : mdrOf db version input (resolveRiskTier db input.consumerExternalRef) = .ok mdr) :
    mdr.ruleId = none ∧ ∃ term ∈ db.commercialTerms, term.contractVersionId = version.id ∧ term.termType = .mdr ∧
      ∃ ratePercent, term.ratePercent = some ratePercent ∧ mdr.amount = mdrFee purchase ⟨ratePercent, none, none⟩ := by
  unfold ruleInForce at hrule
  rw [mdrOf, calculateMdr, hrule] at h
  obtain ⟨ratePercent, hrate, h⟩ := orFail_bind_eq_ok.mp h
  obtain ⟨fee, hfee, h⟩ := bind_eq_ok.mp h
  obtain rfl := pure_eq_ok.mp h
  obtain ⟨purchase', hpurchase', hamount⟩ := computeMdrFee_eq_ok (mapError_eq_ok.mp hfee)
  obtain rfl := Except.ok.inj (hpurchase.symm.trans hpurchase')
  obtain ⟨term, hterm, hratePercent⟩ := Option.bind_eq_some_iff.mp hrate
  have hfound := List.find?_some hterm
  obtain ⟨hin, hversion⟩ := List.mem_filter.mp (List.mem_of_find?_eq_some hterm)
  exact ⟨rfl, term, hin, of_decide_eq_true hversion, (of_decide_eq_true hfound).1, ratePercent, hratePercent, hamount⟩

/-- The purchase, the charge and the rows of an accepted request. -/
theorem registerPurchaseRequest_inv (h : registerPurchaseRequest input db now = .ok (registered, db')) :
    registerPurchase db input now = .ok (registered, db') ∧
      db.receivables.conflicts receivableSource none (receivableSource registered.2) = false := by
  obtain ⟨-, h⟩ := failIf_bind_eq_ok.mp h
  obtain ⟨issues, -, h⟩ := bind_eq_ok.mp h
  obtain ⟨-, h⟩ := failIf_bind_eq_ok.mp h
  obtain ⟨⟨registered', db''⟩, hregister, h⟩ := bind_eq_ok.mp h
  obtain ⟨hfree, h⟩ := failIf_bind_eq_ok.mp h
  obtain ⟨rfl, rfl⟩ := Prod.mk.inj (pure_eq_ok.mp h)
  exact ⟨hregister, Bool.not_eq_true _ ▸ hfree⟩

/-- What an accepted request adds: a purchase under a new identifier, its installments, and its charge. -/
structure Adds (db db' : PurchaseDb) (purchase : BnplPurchase) (rows : List BnplInstallment)
    (receivable : MerchantReceivable) : Prop where
  id : purchase.id = db.purchases.nextKey
  purchases : db'.purchases.rows = db.purchases.rows ++ [purchase]
  installments : db'.installments.rows = db.installments.rows ++ rows
  purchaseId : ∀ row ∈ rows, row.purchaseId = purchase.id
  receivables : db'.receivables.rows = db.receivables.rows ++ [receivable]
  source : receivable.sourceType = TermType.mdr.text ∧ receivable.sourceId = some purchase.id
  free : ∀ other ∈ db.receivables, ¬(other.sourceType = TermType.mdr.text ∧ other.sourceId = some purchase.id)
  indexed : db.receivables.Indexed receivableSource → db'.receivables.Indexed receivableSource

/-- **An accepted request**, and its split. -/
theorem registerPurchaseRequest_adds (h : registerPurchaseRequest input db now = .ok (registered, db')) :
    ∃ (split : PurchaseSplit) (rows : List BnplInstallment), Adds db db' registered.1 rows registered.2 ∧
      split.Balanced ∧ (∀ amount ∈ split.installments, 0 < amount) ∧
      rows.map (·.amount) = split.installments ∧ (rows.map (·.installmentNumber)).Nodup ∧
      registered.1.purchaseAmount = split.purchase ∧ registered.1.downPaymentAmount = split.downPayment ∧
      registered.1.financedAmount = split.financed ∧ registered.2.amountOriginal = registered.1.mdrAmount := by
  obtain ⟨hregister, hfree⟩ := registerPurchaseRequest_inv h
  obtain ⟨split, consumerId, consumers, version, mdr, installments, coreLinks, hassert, hsplit, -, -, -, rfl,
    ⟨rows, hrows, hall⟩, rfl⟩ := registerPurchase_inv hregister
  obtain ⟨split', hsplit', hbalanced, hnumbers⟩ := purchaseSplitViolations_eq_nil.mp (assertPurchaseSplit_eq_ok.mp hassert)
  obtain rfl : split = split' := Except.ok.inj (hsplit.symm.trans hsplit')
  obtain ⟨-, hlength, hpositive⟩ := parsePurchaseSplit_eq_ok hsplit
  have hamounts : rows.map (·.amount) = split.installments := by
    have hcolumn : (input.installments.zip split.installments).map Prod.snd = rows.map (·.amount) :=
      map_eq_of_forall₂ hall fun _ _ ⟨_, hrow⟩ => hrow ▸ rfl
    rw [← hcolumn, List.map_snd_zip hlength.le]
  have hcolumn : (input.installments.zip split.installments).map (·.1.installmentNumber) = rows.map (·.installmentNumber) :=
    map_eq_of_forall₂ hall fun _ _ ⟨_, hrow⟩ => hrow ▸ rfl
  have hnodup : (rows.map (·.installmentNumber)).Nodup := by
    have hfirst : (input.installments.zip split.installments).map (·.1.installmentNumber) =
        ((input.installments.zip split.installments).map Prod.fst).map (·.installmentNumber) := List.map_map.symm
    rwa [← hcolumn, hfirst, List.map_fst_zip hlength.ge]
  have hnone := Table.conflicts_eq_false.mp hfree
  refine ⟨split, rows, ⟨rfl, Table.rows_create fun _ => rfl, hrows, fun row hrow => ?_, Table.rows_create fun _ => rfl,
    ⟨rfl, rfl⟩, ?_, fun hindexed => hindexed.create (fun _ => rfl) hfree⟩, hbalanced, hpositive, hamounts, hnodup, rfl, rfl,
    rfl, rfl⟩
  · obtain ⟨installment, -, id, rfl⟩ := forall₂_of_mem_right hall hrow
    rfl
  · rintro other hother ⟨htype, hsource⟩
    refine hnone other hother nofun (TermType.mdr.text, db.purchases.nextKey) (List.mem_singleton.mpr rfl) ?_
    rw [receivableSource, hsource, htype]
    exact List.mem_singleton.mpr rfl

/-- The commission of an accepted request. -/
theorem registerPurchaseRequest_charged (h : registerPurchaseRequest input db now = .ok (registered, db')) :
    ∃ version, ChargedInForce db input now registered.1 version := by
  obtain ⟨hregister, -⟩ := registerPurchaseRequest_inv h
  obtain ⟨split, consumerId, consumers, version, mdr, installments, coreLinks, -, hsplit, -, hversion, hmdr, rfl, -⟩ :=
    registerPurchase_inv hregister
  have hpurchase := (parsePurchaseSplit_eq_ok hsplit).1
  exact ⟨version, hversion, rfl, fun rule hrule => mdrOf_rule hpurchase hrule hmdr, fun hrule => mdrOf_term hpurchase hrule hmdr⟩

section Adds

variable {purchase : BnplPurchase} {rows : List BnplInstallment} {receivable : MerchantReceivable}

theorem Adds.mem_purchases (h : Adds db db' purchase rows receivable) {other : BnplPurchase} :
    other ∈ db'.purchases ↔ other ∈ db.purchases ∨ other = purchase := by
  rw [← Table.mem_rows, h.purchases, List.mem_append, List.mem_singleton]
  rfl

/-- The installments of the new purchase are those it adds. -/
theorem Adds.installmentsOf_new (h : Adds db db' purchase rows receivable) (hvalid : db.Valid) :
    installmentsOf db' purchase.id = rows := by
  have hold : db.installments.rows.filter (·.purchaseId = purchase.id) = [] := by
    refine List.filter_eq_nil_iff.mpr fun row hrow heq => ?_
    obtain ⟨other, hother, hid⟩ := hvalid.installments_purchase row hrow
    have hlt : other.id < db.purchases.nextKey := Table.key_lt_nextKey hother
    rw [hid, of_decide_eq_true heq, h.id] at hlt
    exact Nat.lt_irrefl _ hlt
  have hnew : rows.filter (·.purchaseId = purchase.id) = rows :=
    List.filter_eq_self.mpr fun row hrow => decide_eq_true (h.purchaseId row hrow)
  rw [installmentsOf, Table.rowsWhere, h.installments, List.filter_append, hold, hnew, List.nil_append]

/-- Its charge is the one it adds. -/
theorem Adds.mdrReceivablesOf_new (h : Adds db db' purchase rows receivable) :
    mdrReceivablesOf db' purchase.id = [receivable] := by
  have hold : db.receivables.rows.filter (fun other => other.sourceType = TermType.mdr.text ∧
      other.sourceId = some purchase.id) = [] :=
    List.filter_eq_nil_iff.mpr fun other hother heq => h.free other hother (of_decide_eq_true heq)
  rw [mdrReceivablesOf, Table.rowsWhere, h.receivables, List.filter_append, hold, List.nil_append]
  exact List.filter_eq_self.mpr fun other hother => by
    rw [List.mem_singleton.mp hother]
    exact decide_eq_true h.source

/-- A purchase that was there keeps its installments and its charge. -/
theorem Adds.conserved (h : Adds db db' purchase rows receivable) {other : BnplPurchase} (hother : Conserved db other) :
    Conserved db' other := by
  have hne : other.id ≠ purchase.id := by
    rw [h.id]
    exact (Table.key_lt_nextKey hother.stored).ne
  have hinstallments : installmentsOf db' other.id = installmentsOf db other.id := by
    have hnew : rows.filter (·.purchaseId = other.id) = [] :=
      List.filter_eq_nil_iff.mpr fun row hrow heq => hne ((of_decide_eq_true heq).symm.trans (h.purchaseId row hrow))
    rw [installmentsOf, Table.rowsWhere, h.installments, List.filter_append, hnew, List.append_nil]
    rfl
  have hreceivables : mdrReceivablesOf db' other.id = mdrReceivablesOf db other.id := by
    have hnew : [receivable].filter (fun r => r.sourceType = TermType.mdr.text ∧ r.sourceId = some other.id) = [] := by
      refine List.filter_eq_nil_iff.mpr fun r hr heq => hne ?_
      rw [List.mem_singleton.mp hr] at heq
      exact Option.some.inj ((of_decide_eq_true heq).2.symm.trans h.source.2)
    rw [mdrReceivablesOf, Table.rowsWhere, h.receivables, List.filter_append, hnew, List.append_nil]
    rfl
  refine ⟨h.mem_purchases.mpr (.inl hother.stored), hother.parts, hother.downPayment, ?_, ?_, ?_, ?_⟩
  · rw [hinstallments]
    exact hother.installments
  · rw [hinstallments]
    exact hother.positive
  · rw [hinstallments]
    exact hother.numbers
  · rw [hreceivables]
    exact hother.charge

theorem Adds.valid (h : Adds db db' purchase rows receivable) (hvalid : db.Valid) : db'.Valid := by
  refine ⟨fun row hrow => ?_, h.indexed hvalid.receivables_source⟩
  rw [← Table.mem_rows, h.installments, List.mem_append] at hrow
  rcases hrow with hrow | hrow
  · obtain ⟨other, hother, hid⟩ := hvalid.installments_purchase row hrow
    exact ⟨other, h.mem_purchases.mpr (.inl hother), hid⟩
  · exact ⟨purchase, h.mem_purchases.mpr (.inr rfl), (h.purchaseId row hrow).symm⟩

end Adds

/-- An accepted request leaves a balanced purchase. -/
theorem conserved_of_registered (hvalid : db.Valid) (h : registerPurchaseRequest input db now = .ok (registered, db')) :
    Conserved db' registered.1 := by
  obtain ⟨split, rows, hadds, hbalanced, hpositive, hamounts, hnumbers, hpurchase, hdown, hfinanced, hcharge⟩ :=
    registerPurchaseRequest_adds h
  have hinstallments := hadds.installmentsOf_new hvalid
  refine ⟨hadds.mem_purchases.mpr (.inr rfl), ?_, ?_, ?_, ?_, ?_, ⟨_, hadds.mdrReceivablesOf_new, hcharge⟩⟩
  · rw [hpurchase, hdown, hfinanced]
    exact hbalanced.parts
  · rw [hpurchase, hdown]
    exact hbalanced.downPayment
  · rw [hinstallments, hamounts, hfinanced]
    exact hbalanced.installments
  · rw [hinstallments]
    intro row hrow
    exact hpositive _ (hamounts ▸ List.mem_map_of_mem hrow)
  · rw [hinstallments]
    exact hnumbers

/-- **A request loses no cent**: an accepted one leaves a balanced purchase, charged the fee of the rule in force, and a
rejected one leaves the tables as they were. -/
theorem registerPurchaseRequest_conserves (hvalid : db.Valid) :
    (∀ registered db', registerPurchaseRequest input db now = .ok (registered, db') →
      db'.Valid ∧ Conserved db' registered.1 ∧ registered.2 ∈ mdrReceivablesOf db' registered.1.id ∧
        ∃ version, ChargedInForce db input now registered.1 version) ∧
      ∀ e, registerPurchaseRequest input db now = .error e →
        stateAfter db (registerPurchaseRequest input db now) = db := by
  refine ⟨fun registered db' h => ?_, fun e h => by rw [h]; rfl⟩
  obtain ⟨split, rows, hadds, -⟩ := registerPurchaseRequest_adds h
  refine ⟨hadds.valid hvalid, conserved_of_registered hvalid h, ?_, registerPurchaseRequest_charged h⟩
  rw [hadds.mdrReceivablesOf_new]
  exact List.mem_singleton.mpr rfl

end Accepted

/-- A purchase of 100 in two installments, under the contract of `twoBands`. -/
def purchaseInTwo : RegisterPurchaseDto :=
  { purchaseOf100 none (some "7001") with installments := [⟨1, 20790, 25, none⟩, ⟨2, 20820, 15, none⟩] }

/-- A purchase of 100 of a customer of band D is charged 5. -/
theorem registerPurchaseRequest_conserves_dosCuotas :
    ∃ registered db', registerPurchaseRequest purchaseInTwo twoBands 1790000000000 = .ok (registered, db') ∧
      registered.1.mdrAmount = 500 ∧ Conserved db' registered.1 ∧ registered.2 ∈ mdrReceivablesOf db' registered.1.id := by
  have hcharged : (registerPurchaseRequest purchaseInTwo twoBands 1790000000000).toOption.map (·.1.1.mdrAmount) =
      some 500 := by decide +kernel
  obtain ⟨⟨registered, db'⟩, hoption, hamount⟩ := Option.map_eq_some_iff.mp hcharged
  have h := toOption_eq_some.mp hoption
  have hvalid : twoBands.Valid := ⟨by decide, fun _ h => absurd h List.not_mem_nil⟩
  obtain ⟨haccepted, -⟩ := @registerPurchaseRequest_conserves twoBands purchaseInTwo 1790000000000 hvalid
  obtain ⟨-, hconserved, hcharge, -⟩ := haccepted registered db' h
  exact ⟨registered, db', h, hamount, hconserved, hcharge⟩

/-! ## Requests one after another -/

/-- The tables after requests, accepted or rejected. -/
def afterRequests (db : PurchaseDb) (requests : List (RegisterPurchaseDto × Instant)) : PurchaseDb :=
  requests.foldl (fun db request => stateAfter db (registerPurchaseRequest request.1 db request.2)) db

/-- **Every purchase stays balanced**, whatever requests follow. -/
theorem conserved_requests {db : PurchaseDb} (hvalid : db.Valid) (hall : ∀ purchase ∈ db.purchases, Conserved db purchase)
    (requests : List (RegisterPurchaseDto × Instant)) :
    ∀ purchase ∈ (afterRequests db requests).purchases, Conserved (afterRequests db requests) purchase := by
  induction requests generalizing db with
  | nil => exact hall
  | cons request rest ih =>
    rw [afterRequests, List.foldl_cons]
    cases h : registerPurchaseRequest request.1 db request.2 with
    | error e => exact ih hvalid hall
    | ok outcome =>
      obtain ⟨registered, db'⟩ := outcome
      obtain ⟨split, rows, hadds, -⟩ := registerPurchaseRequest_adds h
      refine ih (hadds.valid hvalid) fun purchase hpurchase => ?_
      rcases hadds.mem_purchases.mp hpurchase with hold | rfl
      · exact hadds.conserved (hall purchase hold)
      · exact conserved_of_registered hvalid h

end AtlasErp
