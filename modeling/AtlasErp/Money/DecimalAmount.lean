import AtlasErp.Lib.Checked
import Mathlib.Algebra.BigOperators.Group.List.Basic
import Mathlib.Algebra.Order.BigOperators.Group.List
import Mathlib.Data.Rat.Floor
import Mathlib.Tactic.Linarith
import Mathlib.Tactic.Positivity
import Mathlib.Tactic.Ring

/-! # Exact money arithmetic

Amounts are integers of minor units (`bigint` in the source).  What does not fit the rule is rejected,
never rounded in silence; only a rate rounds, and the money rule is half away from zero.

- `parseMoney_eq_ok`: what an accepted amount satisfies;
- `divideRounded_halfUp`: a rounded division is the nearest integer, and the larger of two;
- `applyRatePercent_nonneg`: a rate of an amount is not negative;
- `allocateProportionally_eq_ok`: a split adds up to its total;
- `allocateProportionally_shares`: all parts but the first are rounded down, and what is left for the first is less than
  the number of parts. -/

namespace AtlasErp

open Lib

/-- The errors of this arithmetic. -/
inductive MoneyError where
  | rangeError (message : String)
  | unsupportedCurrency (currency : String)
  | currencyMismatch (currencies : List String)
  | amountOutOfRange (minor : Int) (reason : String)
  deriving DecidableEq

/-- How a division rounds a tie. -/
inductive RoundingMode where
  | halfUp
  | halfEven
  deriving DecidableEq

/-- Decimals of a percentage rate. -/
def RATE_SCALE : Nat := 6

/-- The largest amount of a `numeric(18,2)` column. -/
def NUMERIC_18_2_MAX_MINOR : Int := 10 ^ 18 - 1

/-- `code.trim().toUpperCase()`. -/
def currencyCode (currency : String) : String :=
  let trimStart (cs : List Char) := cs.dropWhile Char.isWhitespace
  String.ofList ((trimStart (trimStart currency.toList).reverse).reverse.map Char.toUpper)

example : currencyCode " bob" = "BOB" := by decide

/-- Decimals of each supported currency. -/
def CURRENCY_MINOR_SCALE : List (String × Nat) := [("BOB", 2), ("USD", 2)]

/-- The scale of a currency. -/
def currencyScale (currency : String) : Except MoneyError Nat :=
  orFail (CURRENCY_MINOR_SCALE.lookup (currencyCode currency)) (.unsupportedCurrency currency)

/-- The only currency of a list. -/
def assertSingleCurrency (currencies : List String) : Except MoneyError String :=
  match (currencies.map currencyCode).eraseDups with
  | [currency] => do
    let _ ← currencyScale currency
    return currency
  | distinct => .error (.currencyMismatch distinct)

/-- Check the currency, the sign and the range of an amount that was read without rounding. -/
def parseMoney (minor : Int) (currency : String) (allowNegative allowZero : Bool) :
    Except MoneyError Int := do
  let _ ← currencyScale currency
  failIf (minor < 0 ∧ allowNegative = false) (.amountOutOfRange minor "negativo")
  failIf (minor = 0 ∧ allowZero = false) (.amountOutOfRange minor "cero")
  failIf (minor > NUMERIC_18_2_MAX_MINOR ∨ -minor > NUMERIC_18_2_MAX_MINOR)
    (.amountOutOfRange minor "excede la columna")
  return minor

/-- Check a rate, in millionths of a percentage point. -/
def parseRatePercent (units : Int) : Except MoneyError Int := do
  failIf (units < 0 ∨ units > 100 * 10 ^ RATE_SCALE) (.amountOutOfRange units "tasa fuera de 0–100 %")
  return units

/-- Integer division under a rounding mode. -/
def divideRounded (numerator denominator : Int) (mode : RoundingMode) : Except MoneyError Int := do
  failIf (denominator ≤ 0) (.rangeError "El denominador debe ser positivo.")
  let magnitude := if numerator < 0 then -numerator else numerator
  let quotient := magnitude / denominator
  let twiceRemainder := magnitude % denominator * 2
  let rounded :=
    if twiceRemainder > denominator ∨
        (twiceRemainder = denominator ∧ (mode = .halfUp ∨ quotient % 2 = 1)) then quotient + 1
    else quotient
  return if numerator < 0 then -rounded else rounded

/-- `amount × rate %`, rounded to the minor unit. -/
def applyRatePercent (amountMinor rateUnits : Int) : Except MoneyError Int :=
  divideRounded (amountMinor * rateUnits) (100 * 10 ^ RATE_SCALE) .halfUp

/-- Exact sum of minor units. -/
def sumMinor (values : List Int) : Int := values.foldl (· + ·) 0

/-- Split a total in proportion to weights; the remainder goes to the first part. -/
def allocateProportionally (total : Int) (weights : List Int) : Except MoneyError (List Int) := do
  failIf (weights = []) (.rangeError "Se necesita al menos una parte.")
  failIf (weights.any (· < 0) = true) (.rangeError "Pesos negativos.")
  let weightTotal := sumMinor weights
  failIf (weightTotal = 0) (.rangeError "La suma de pesos no puede ser cero.")
  let parts := weights.map fun weight => (total * weight).tdiv weightTotal
  return match parts with
    | [] => []
    | first :: rest => (first + (total - sumMinor parts)) :: rest

section Lemmas

@[simp] theorem sumMinor_eq (values : List Int) : sumMinor values = values.sum :=
  List.sum_eq_foldl.symm

/-- An accepted amount is the amount, in a supported currency and within the column. -/
theorem parseMoney_eq_ok {minor amount : Int} {currency : String} {allowNegative allowZero : Bool}
    (h : parseMoney minor currency allowNegative allowZero = .ok amount) :
    amount = minor ∧ (∃ scale, currencyScale currency = .ok scale) ∧ (allowNegative = false → 0 ≤ minor) ∧
      (allowZero = false → minor ≠ 0) ∧ minor ≤ NUMERIC_18_2_MAX_MINOR := by
  unfold parseMoney at h
  obtain ⟨scale, hscale, h⟩ := bind_eq_ok.mp h
  obtain ⟨hnegative, h⟩ := failIf_bind_eq_ok.mp h
  obtain ⟨hzero, h⟩ := failIf_bind_eq_ok.mp h
  obtain ⟨hrange, h⟩ := failIf_bind_eq_ok.mp h
  refine ⟨(pure_eq_ok.mp h).symm, ⟨scale, hscale⟩, fun hn => ?_, fun hz heq => hzero ⟨heq, hz⟩, ?_⟩
  · exact not_lt.mp fun hlt => hnegative ⟨hlt, hn⟩
  · exact not_lt.mp fun hgt => hrange (.inl hgt)

/-- A positive amount within the column, in a supported currency, is accepted. -/
theorem parseMoney_of_pos {minor : Int} {currency : String} {scale : Nat}
    (hscale : currencyScale currency = .ok scale) (hpos : 0 < minor)
    (hmax : minor ≤ NUMERIC_18_2_MAX_MINOR) (allowNegative allowZero : Bool) :
    parseMoney minor currency allowNegative allowZero = .ok minor := by
  have hnegative : ¬(minor < 0 ∧ allowNegative = false) := by omega
  have hzero : ¬(minor = 0 ∧ allowZero = false) := by omega
  have hrange : ¬(minor > NUMERIC_18_2_MAX_MINOR ∨ -minor > NUMERIC_18_2_MAX_MINOR) := by
    unfold NUMERIC_18_2_MAX_MINOR at hmax ⊢
    omega
  simp only [parseMoney, hscale, ok_bind, failIf_of_not hnegative, failIf_of_not hzero,
    failIf_of_not hrange]
  rfl

/-- A rate of an amount that is not negative is not negative. -/
theorem applyRatePercent_nonneg {amountMinor rateUnits tax : Int} (hamount : 0 ≤ amountMinor)
    (hrate : 0 ≤ rateUnits) (h : applyRatePercent amountMinor rateUnits = .ok tax) : 0 ≤ tax := by
  have hproduct : 0 ≤ amountMinor * rateUnits := mul_nonneg hamount hrate
  unfold applyRatePercent divideRounded at h
  obtain ⟨-, h⟩ := failIf_bind_eq_ok.mp h
  have htax := pure_eq_ok.mp h
  rw [if_neg (not_lt.mpr hproduct), if_neg (not_lt.mpr hproduct)] at htax
  have hquotient : 0 ≤ amountMinor * rateUnits / (100 * 10 ^ RATE_SCALE) :=
    Int.ediv_nonneg hproduct (by decide)
  rw [← htax]
  split <;> omega

/-- A split has one part for each weight, and the parts add up to the total. -/
theorem allocateProportionally_eq_ok {total : Int} {weights parts : List Int}
    (h : allocateProportionally total weights = .ok parts) :
    parts.length = weights.length ∧ parts.sum = total := by
  unfold allocateProportionally at h
  obtain ⟨hnonempty, h⟩ := failIf_bind_eq_ok.mp h
  obtain ⟨-, h⟩ := failIf_bind_eq_ok.mp h
  obtain ⟨-, h⟩ := failIf_bind_eq_ok.mp h
  have hparts := pure_eq_ok.mp h
  cases weights with
  | nil => exact absurd rfl hnonempty
  | cons weight weights =>
    rw [← hparts]
    refine ⟨by simp, ?_⟩
    simp only [List.map_cons, sumMinor_eq, List.sum_cons]
    ring

theorem exists_applyRatePercent (amountMinor rateUnits : Int) : ∃ tax, applyRatePercent amountMinor rateUnits = .ok tax := by
  have hscale : ¬(100 * 10 ^ RATE_SCALE : Int) ≤ 0 := by decide
  exact ⟨_, by rw [applyRatePercent, divideRounded, failIf_of_not hscale]; rfl⟩

theorem exists_allocateProportionally (total : Int) {weights : List Int} (hweights : ∀ weight ∈ weights, 0 ≤ weight)
    (hpos : 0 < weights.sum) : ∃ parts, allocateProportionally total weights = .ok parts := by
  have hne : ¬weights = [] := by
    rintro rfl
    exact absurd hpos (by decide)
  have hnegative : ¬(weights.any (· < 0) = true) := by
    intro hany
    obtain ⟨weight, hmem, hlt⟩ := List.any_eq_true.mp hany
    exact absurd (hweights weight hmem) (not_le.mpr (of_decide_eq_true hlt))
  have hsum : ¬sumMinor weights = 0 := by
    rw [sumMinor_eq]
    exact hpos.ne'
  exact ⟨_, by simp only [allocateProportionally, failIf_of_not hne, failIf_of_not hnegative, failIf_of_not hsum]; rfl⟩

/-- A total is split only over weights that are not negative and not all zero. -/
theorem weights_of_allocateProportionally {total : Int} {weights parts : List Int}
    (h : allocateProportionally total weights = .ok parts) :
    weights ≠ [] ∧ (∀ weight ∈ weights, 0 ≤ weight) ∧ 0 < weights.sum := by
  unfold allocateProportionally at h
  obtain ⟨hne, h⟩ := failIf_bind_eq_ok.mp h
  obtain ⟨hnegative, h⟩ := failIf_bind_eq_ok.mp h
  obtain ⟨hzero, -⟩ := failIf_bind_eq_ok.mp h
  have hweights : ∀ weight ∈ weights, 0 ≤ weight := fun weight hmem => by
    by_contra hlt
    exact hnegative (List.any_eq_true.mpr ⟨weight, hmem, decide_eq_true (not_le.mp hlt)⟩)
  rw [sumMinor_eq] at hzero
  exact ⟨hne, hweights, lt_of_le_of_ne (List.sum_nonneg hweights) (Ne.symm hzero)⟩

/-- The shares of a total that are rounded down, over the sum of the weights. -/
theorem sum_tdiv_mul_le {total weightTotal : Int} (htotal : 0 ≤ total) {weights : List Int}
    (hweights : ∀ weight ∈ weights, 0 ≤ weight) :
    (weights.map fun weight => (total * weight).tdiv weightTotal).sum * weightTotal ≤ total * weights.sum := by
  induction weights with
  | nil => simp
  | cons weight weights ih =>
    have hrest := ih fun w hw => hweights w (List.mem_cons_of_mem _ hw)
    have hproduct : 0 ≤ total * weight := mul_nonneg htotal (hweights weight List.mem_cons_self)
    have hone : (total * weight).tdiv weightTotal * weightTotal ≤ total * weight := by
      have hmod := Int.tmod_nonneg weightTotal hproduct
      have hsplit := Int.tdiv_mul_add_tmod (total * weight) weightTotal
      omega
    rw [List.map_cons, List.sum_cons, List.sum_cons, add_mul, mul_add]
    exact add_le_add hone hrest

/-- A sum of shares that are rounded down is short by less than one unit for each of them. -/
theorem mul_sum_le_add_mul {total weightTotal : Int} (hpos : 0 < weightTotal) (weights : List Int) :
    total * weights.sum ≤ weightTotal * (weights.map fun weight => total * weight / weightTotal).sum +
      weights.length * (weightTotal - 1) := by
  induction weights with
  | nil => simp
  | cons weight weights ih =>
    have hone : total * weight ≤ weightTotal * (total * weight / weightTotal) + (weightTotal - 1) := by
      have hsplit := Int.mul_ediv_add_emod (total * weight) weightTotal
      have hlt := Int.emod_lt_of_pos (total * weight) hpos
      omega
    rw [List.sum_cons, List.map_cons, List.sum_cons, List.length_cons]
    push_cast
    linarith

/-- **The parts of a split**: the share of each weight rounded down, and for the first part also what is left of the
total, which is less than the number of parts. -/
theorem allocateProportionally_shares {total : Int} {weights parts : List Int} (htotal : 0 ≤ total)
    (h : allocateProportionally total weights = .ok parts) :
    ∃ residue : Int, parts = (weights.map fun weight => total * weight / weights.sum).modifyHead (· + residue) ∧
      0 ≤ residue ∧ residue < weights.length := by
  obtain ⟨hne, hweights, hpos⟩ := weights_of_allocateProportionally h
  unfold allocateProportionally at h
  obtain ⟨-, h⟩ := failIf_bind_eq_ok.mp h
  obtain ⟨-, h⟩ := failIf_bind_eq_ok.mp h
  obtain ⟨-, h⟩ := failIf_bind_eq_ok.mp h
  have hparts := pure_eq_ok.mp h
  have hshares : (weights.map fun weight => (total * weight).tdiv weights.sum) =
      weights.map fun weight => total * weight / weights.sum :=
    List.map_congr_left fun weight hmem => Int.tdiv_eq_ediv_of_nonneg (mul_nonneg htotal (hweights weight hmem))
  simp only [sumMinor_eq, hshares] at hparts
  refine ⟨total - (weights.map fun weight => total * weight / weights.sum).sum, ?_, ?_, ?_⟩
  · rw [← hparts]
    cases weights <;> rfl
  · have hle : (weights.map fun weight => (total * weight).tdiv weights.sum).sum * weights.sum ≤ total * weights.sum :=
      sum_tdiv_mul_le htotal hweights
    rw [hshares] at hle
    exact sub_nonneg.mpr (le_of_mul_le_mul_right hle hpos)
  · have hle : total * weights.sum ≤ _ := mul_sum_le_add_mul hpos weights
    have hlength : (0 : Int) < weights.length := by exact_mod_cast List.length_pos_iff.mpr hne
    refine lt_of_mul_lt_mul_left ?_ hpos.le
    rw [mul_sub]
    linarith

/-- **No part is negative**: what the rounding left over goes to the first. -/
theorem allocateProportionally_nonneg {total : Int} {weights parts : List Int} (htotal : 0 ≤ total)
    (h : allocateProportionally total weights = .ok parts) : ∀ part ∈ parts, 0 ≤ part := by
  obtain ⟨-, hweights, hpos⟩ := weights_of_allocateProportionally h
  obtain ⟨residue, rfl, hresidue, -⟩ := allocateProportionally_shares htotal h
  have hshares : ∀ share ∈ weights.map fun weight => total * weight / weights.sum, 0 ≤ share := by
    intro share hshare
    obtain ⟨weight, hmem, rfl⟩ := List.mem_map.mp hshare
    exact Int.ediv_nonneg (mul_nonneg htotal (hweights weight hmem)) hpos.le
  generalize weights.map (fun weight => total * weight / weights.sum) = shares at hshares
  cases shares with
  | nil => exact fun part hmem => absurd hmem List.not_mem_nil
  | cons first rest =>
    intro part hmem
    rcases List.mem_cons.mp hmem with rfl | hmem
    · exact add_nonneg (hshares first List.mem_cons_self) hresidue
    · exact hshares part (List.mem_cons_of_mem _ hmem)

end Lemmas

/-! ## Rounded division -/

/-- The nearest integer, and the larger of two. -/
def roundHalfUp (x : ℚ) : Int := ⌊x + 1 / 2⌋

theorem roundHalfUp_eq {numerator denominator z : Int} (hd : 0 < denominator)
    (hlow : 2 * (denominator * z) ≤ 2 * numerator + denominator)
    (hhigh : 2 * numerator + denominator < 2 * (denominator * (z + 1))) :
    roundHalfUp ((numerator : ℚ) / denominator) = z := by
  have hdq : (0 : ℚ) < denominator := by exact_mod_cast hd
  have hlowq : 2 * ((denominator : ℚ) * z) ≤ 2 * numerator + denominator := by exact_mod_cast hlow
  have hhighq : 2 * (numerator : ℚ) + denominator < 2 * (denominator * (z + 1)) := by exact_mod_cast hhigh
  rw [roundHalfUp, Int.floor_eq_iff]
  constructor
  · rw [div_add_div _ _ hdq.ne' two_ne_zero, le_div_iff₀ (by positivity)]
    linarith
  · rw [div_add_div _ _ hdq.ne' two_ne_zero, div_lt_iff₀ (by positivity)]
    linarith

/-- **A rounded division** of a number that is not negative is the nearest integer. -/
theorem divideRounded_halfUp {numerator denominator : Int} (hn : 0 ≤ numerator) (hd : 0 < denominator) :
    divideRounded numerator denominator .halfUp = .ok (roundHalfUp ((numerator : ℚ) / denominator)) := by
  have hsplit := Int.mul_ediv_add_emod numerator denominator
  have hrest := Int.emod_nonneg numerator hd.ne'
  have hlt := Int.emod_lt_of_pos numerator hd
  simp only [divideRounded, failIf_of_not (not_le.mpr hd), ok_bind, if_neg (not_lt.mpr hn), true_or, and_true]
  split
  next hup =>
    have hround : roundHalfUp ((numerator : ℚ) / denominator) = numerator / denominator + 1 :=
      roundHalfUp_eq hd (by rw [mul_add, mul_one]; omega) (by simp only [mul_add, mul_one]; omega)
    rw [hround]
    rfl
  next hdown =>
    have hround : roundHalfUp ((numerator : ℚ) / denominator) = numerator / denominator :=
      roundHalfUp_eq hd (by omega) (by rw [mul_add, mul_one]; omega)
    rw [hround]
    rfl

end AtlasErp
