import AtlasErp.Billing.Model
import AtlasErp.Common.Numbers
import AtlasErp.Money.DecimalAmount
import AtlasErp.Pricing.MdrRules
import Mathlib.Data.List.Sort

/-! # The commission of a purchase

The MDR rule of a purchase is the most specific one that matches it; the term of the contract stands in when
there is none.

- `pickBestMdrRule`: the rule of a purchase;
- `computeMdrFee_eq_ok`: the fee is the rate of the purchase rounded half up, between the floor and the ceiling;
- `calculateMdr`: rate, amount and where they come from. -/

namespace AtlasErp

open Lib

/-! ## Amounts of a request -/

/-- A number of a request in cents: one that is not within a millionth of a cent of one is rejected. -/
def exactMinor (x : JsNumber) : Except MoneyError Int := do
  let scaled := x * 100
  failIf (scaled > 2 ^ 53 - 1 ∨ -scaled > 2 ^ 53 - 1)
    (.amountOutOfRange ⌊scaled⌋ "un number no representa céntimos a esta magnitud")
  let nearest := ⌊scaled + 1 / 2⌋
  failIf (scaled - nearest > 1 / 10 ^ 6 ∨ nearest - scaled > 1 / 10 ^ 6)
    (.amountOutOfRange ⌊scaled⌋ "más de 2 decimales")
  return nearest

/-- `parseMoney` of a number. -/
def parseMoneyNumber (x : JsNumber) (allowZero : Bool) : Except MoneyError Int := do
  let minor ← exactMinor x
  parseMoney minor "BOB" false allowZero

/-! ## The fee -/

structure MdrPricing where
  ratePercent : Int
  minFeeAmount : Option Int
  maxFeeAmount : Option Int
  deriving DecidableEq

structure MdrFee where
  ratePercent : Int
  fee : Int
  deriving DecidableEq

/-- `compra × tasa %`, between the floor and the ceiling of the rule. -/
def computeMdrFee (purchaseAmount : JsNumber) (pricing : MdrPricing) : Except MoneyError MdrFee := do
  let purchase ← parseMoneyNumber purchaseAmount false
  let rateUnits ← parseRatePercent pricing.ratePercent
  let fee ← applyRatePercent purchase rateUnits
  let fee ← match pricing.minFeeAmount with
    | none => pure fee
    | some amount => do
      let minimum ← parseMoney amount "BOB" false true
      pure (if fee < minimum then minimum else fee)
  let fee ← match pricing.maxFeeAmount with
    | none => pure fee
    | some amount => do
      let maximum ← parseMoney amount "BOB" false true
      pure (if fee > maximum then maximum else fee)
  return ⟨rateUnits, fee⟩

/-- What is accepted is not negative, and positive where zero is refused. -/
theorem parseMoneyNumber_eq_ok {x : JsNumber} {allowZero : Bool} {minor : Int} (h : parseMoneyNumber x allowZero = .ok minor) :
    0 ≤ minor ∧ (allowZero = false → 0 < minor) := by
  obtain ⟨exact_, -, h⟩ := bind_eq_ok.mp h
  obtain ⟨rfl, -, hnonneg, hnonzero, -⟩ := parseMoney_eq_ok h
  exact ⟨hnonneg rfl, fun hzero => lt_of_le_of_ne (hnonneg rfl) (hnonzero hzero).symm⟩

/-- A rate of an amount that is not negative is rounded half up. -/
theorem applyRatePercent_eq {amount rateUnits : Int} (hamount : 0 ≤ amount) (hrate : 0 ≤ rateUnits) :
    applyRatePercent amount rateUnits = .ok (roundHalfUp ((amount : ℚ) * rateUnits / (100 * 10 ^ RATE_SCALE))) := by
  have hround := divideRounded_halfUp (mul_nonneg hamount hrate) (show (0 : Int) < 100 * 10 ^ RATE_SCALE by decide)
  rw [applyRatePercent, hround]
  push_cast
  rfl

/-- The fee of a purchase at a rate, between a floor and a ceiling. -/
def mdrFee (purchase : Int) (pricing : MdrPricing) : Int :=
  let fee := roundHalfUp ((purchase : ℚ) * pricing.ratePercent / (100 * 10 ^ RATE_SCALE))
  let fee := pricing.minFeeAmount.elim fee (max fee)
  pricing.maxFeeAmount.elim fee (min fee)

/-- A bound of a fee, if there is one. -/
theorem bounded_eq_ok {α : Type} {bound : Option Int} {fee : Int} {pick : Int → Int} {f : Int → Except MoneyError α} {b : α}
    (h : (match bound with
      | none => pure fee >>= f
      | some amount => parseMoney amount "BOB" false true >>= fun limit => pure (pick limit) >>= f) = .ok b) :
    f (bound.elim fee pick) = .ok b := by
  cases bound with
  | none => exact h
  | some amount =>
    obtain ⟨limit, hlimit, hrest⟩ := bind_eq_ok.mp h
    obtain rfl := (parseMoney_eq_ok hlimit).1
    exact hrest

/-- **The fee** that is computed. -/
theorem computeMdrFee_eq_ok {purchaseAmount : JsNumber} {pricing : MdrPricing} {fee : MdrFee}
    (h : computeMdrFee purchaseAmount pricing = .ok fee) :
    ∃ purchase, parseMoneyNumber purchaseAmount false = .ok purchase ∧ fee.fee = mdrFee purchase pricing := by
  obtain ⟨purchase, hpurchase, h⟩ := bind_eq_ok.mp h
  obtain ⟨rateUnits, hrate, h⟩ := bind_eq_ok.mp h
  obtain ⟨rate, hfee, hbounds⟩ := bind_eq_ok.mp h
  refine ⟨purchase, hpurchase, ?_⟩
  unfold parseRatePercent at hrate
  obtain ⟨hrange, hrate⟩ := failIf_bind_eq_ok.mp hrate
  obtain rfl := pure_eq_ok.mp hrate
  rw [applyRatePercent_eq (parseMoneyNumber_eq_ok hpurchase).1 (by omega)] at hfee
  obtain rfl := Except.ok.inj hfee
  have hfloored := bounded_eq_ok hbounds
  have hbounded := bounded_eq_ok hfloored
  obtain rfl := pure_eq_ok.mp hbounded
  have hfloor : ∀ x m : Int, (if x < m then m else x) = max x m := fun x m => (max_def_lt x m).symm
  have hceiling : ∀ x m : Int, (if x > m then m else x) = min x m := fun x m => by rw [min_comm, min_def_lt]
  simp only [hfloor, hceiling]
  rfl

/-! ## The rule -/

/-- A text that is given. -/
def given (text : Option String) : Bool := text.any (· ≠ "")

/-- `MDR_DIMENSION_WEIGHT`. -/
def MDR_DIMENSION_WEIGHT_BRANCH : Nat := 4

def MDR_DIMENSION_WEIGHT_PRODUCT_CATEGORY : Nat := 2

def MDR_DIMENSION_WEIGHT_RISK_SEGMENT : Nat := 1

/-- The weights of the dimensions that a rule fixes. -/
def mdrRuleSpecificity (rule : MdrRule) : Nat :=
  (if rule.branchId.isSome then MDR_DIMENSION_WEIGHT_BRANCH else 0) +
    (if given rule.productCategory then MDR_DIMENSION_WEIGHT_PRODUCT_CATEGORY else 0) +
    (if given rule.riskSegment then MDR_DIMENSION_WEIGHT_RISK_SEGMENT else 0)

section Pick

variable (branchId : Nat) (productCategory riskSegment : Option String)

/-- Each dimension that a rule fixes is that of the purchase. -/
def MdrRule.matchesPurchase (rule : MdrRule) : Bool :=
  (rule.branchId.all (· = branchId)) && (!given rule.productCategory || rule.productCategory = productCategory) &&
    (!given rule.riskSegment || rule.riskSegment = riskSegment)

/-- The first of the most specific rules that match. -/
def pickBestMdrRule (rules : List MdrRule) : Option MdrRule :=
  ((rules.filter (·.matchesPurchase branchId productCategory riskSegment)).insertionSort
    fun left right => mdrRuleSpecificity right ≤ mdrRuleSpecificity left).head?

end Pick

/-! ## The commission -/

/-- `commercial_terms.term_type`. -/
inductive TermType where
  | mdr
  | subscription
  | setupFee
  | serviceFee
  | penalty
  | minimumMonthlyFee
  deriving DecidableEq

def TermType.text : TermType → String
  | .mdr => "MDR"
  | .subscription => "SUBSCRIPTION"
  | .setupFee => "SETUP_FEE"
  | .serviceFee => "SERVICE_FEE"
  | .penalty => "PENALTY"
  | .minimumMonthlyFee => "MINIMUM_MONTHLY_FEE"

/-- What the commission reads of a row of `commercial_terms`. -/
structure CommercialTerm where
  contractVersionId : Nat
  termType : TermType
  ratePercent : Option Int
  deriving DecidableEq

inductive MdrPricingSource where
  | mdrRules
  | commercialTerms
  deriving DecidableEq

/-- The commission of a purchase. -/
structure PurchaseMdr where
  ratePercent : Int
  amount : Int
  source : MdrPricingSource
  ruleId : Option Nat
  deriving DecidableEq

/-- The commission under the rules and the terms of a contract version. -/
def calculateMdr (purchaseAmount : JsNumber) (mdrRules : List MdrRule) (terms : List CommercialTerm) (branchId : Nat)
    (productCategory riskSegment : Option String) : Except HttpError PurchaseMdr :=
  match pickBestMdrRule branchId productCategory riskSegment mdrRules with
  | some rule => do
    let fee ← (computeMdrFee purchaseAmount ⟨rule.ratePercent, rule.minFeeAmount, rule.maxFeeAmount⟩).mapError
      MoneyError.uncaught
    return ⟨fee.ratePercent, fee.fee, .mdrRules, some rule.id⟩
  | none => do
    let mdrTerm := terms.find? fun term => term.termType = .mdr ∧ term.ratePercent.isSome
    let ratePercent ← orFail (mdrTerm.bind (·.ratePercent))
      (conflictText "La versión contractual activa no tiene regla o término MDR.")
    let fee ← (computeMdrFee purchaseAmount ⟨ratePercent, none, none⟩).mapError MoneyError.uncaught
    return ⟨fee.ratePercent, fee.fee, .commercialTerms, none⟩

end AtlasErp
