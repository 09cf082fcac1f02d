import AtlasErp.Common.Basics
import Mathlib.Algebra.Order.Round
import Mathlib.Data.Rat.Floor
import Mathlib.Tactic.FieldSimp
import Mathlib.Tactic.Positivity

/-! # JavaScript numbers and `numeric` columns

A number of a request is taken as the decimal it is written as; only where a tie is rounded does its
binary form matter.

- `numericColumn`, `numberOf`: writing a number to a `numeric` column and reading it back;
- `numericColumn_numberOf`: what was read is written back unchanged;
- `toFixed2`: `Number.prototype.toFixed(2)`. -/

namespace AtlasErp

/-- A number of a request. -/
abbrev JsNumber := ℚ

/-! ## Columns -/

/-- What a `numeric` column keeps of a number that is not negative, in units of its last decimal: the
nearest one, a tie away from zero. -/
def numericColumn (scale : Nat) (x : JsNumber) : Int := ⌊x * 10 ^ scale + 1 / 2⌋

/-- `Number(text)` of a column. -/
def numberOf (scale : Nat) (units : Int) : JsNumber := units / 10 ^ scale

@[simp] theorem numericColumn_numberOf (scale : Nat) (units : Int) :
    numericColumn scale (numberOf scale units) = units := by
  have hpow : (10 : ℚ) ^ scale ≠ 0 := by positivity
  have hexact : numberOf scale units * 10 ^ scale = units := div_mul_cancel₀ _ hpow
  rw [numericColumn, hexact, Int.floor_intCast_add]
  norm_num

theorem numberOf_injective (scale : Nat) : Function.Injective (numberOf scale) :=
  Function.LeftInverse.injective (numericColumn_numberOf scale)

/-- Rounding keeps the order. -/
theorem numericColumn_mono (scale : Nat) {x y : JsNumber} (h : x ≤ y) :
    numericColumn scale x ≤ numericColumn scale y := by
  unfold numericColumn
  gcongr

theorem numberOf_mono (scale : Nat) {m n : Int} (h : m ≤ n) : numberOf scale m ≤ numberOf scale n := by
  unfold numberOf
  gcongr

/-- A number is not stored below a bound that it respects, when the column can hold the bound. -/
theorem le_numberOf_numericColumn {scale : Nat} {bound : Int} {x : JsNumber}
    (h : numberOf scale bound ≤ x) : numberOf scale bound ≤ numberOf scale (numericColumn scale x) := by
  refine numberOf_mono scale ?_
  rw [← numericColumn_numberOf scale bound]
  exact numericColumn_mono scale h

/-! ## `toFixed` -/

/-- The exponent of the largest power of two that is not above a positive number. -/
def floorLog2 (x : ℚ) : Int :=
  let k : Int := (x.num.toNat.log2 : Int) - x.den.log2
  if (2 : ℚ) ^ k ≤ x then k else k - 1

/-- The binary64 number nearest to a positive decimal, a tie to the even one. -/
def binary64 (x : JsNumber) : ℚ :=
  let ulp := (2 : ℚ) ^ (floorLog2 x - 52)
  let below := ⌊x / ulp⌋
  let rest := x / ulp - below
  (if rest > 1 / 2 ∨ rest = 1 / 2 ∧ below % 2 = 1 then below + 1 else below) * ulp

/-- It is not above the number. -/
theorem two_zpow_floorLog2_le {x : ℚ} (hx : 0 < x) : (2 : ℚ) ^ floorLog2 x ≤ x := by
  rw [floorLog2]
  split
  · assumption
  · have hnum : 0 < x.num := Rat.num_pos.mpr hx
    have hlow : ((2 ^ x.num.toNat.log2 : Nat) : ℚ) ≤ x.num.toNat := by
      exact_mod_cast Nat.log2_self_le (by omega)
    have hhigh : (x.den : ℚ) ≤ ((2 ^ (x.den.log2 + 1) : Nat) : ℚ) := by
      exact_mod_cast Nat.lt_log2_self.le
    have hcast : ((x.num.toNat : Nat) : ℚ) = x.num := by
      exact_mod_cast congrArg (Int.cast (R := ℚ)) (Int.toNat_of_nonneg hnum.le)
    have hden : (0 : ℚ) < x.den := by exact_mod_cast x.den_pos
    have hsplit : (2 : ℚ) ^ ((x.num.toNat.log2 : Int) - x.den.log2 - 1) =
        (2 ^ x.num.toNat.log2 : Nat) / (2 ^ (x.den.log2 + 1) : Nat) := by
      rw [sub_sub, zpow_sub₀ two_ne_zero]
      norm_cast
    calc (2 : ℚ) ^ ((x.num.toNat.log2 : Int) - x.den.log2 - 1)
        = (2 ^ x.num.toNat.log2 : Nat) / (2 ^ (x.den.log2 + 1) : Nat) := hsplit
      _ ≤ x.num.toNat / x.den := by gcongr
      _ = x := by rw [hcast, Rat.num_div_den]

/-- **The nearest double is near**: by half a unit of the 53rd bit. -/
theorem abs_binary64_sub_le {x : ℚ} (hx : 0 ≤ x) : |binary64 x - x| ≤ x / 2 ^ 53 := by
  rcases hx.eq_or_lt with rfl | hx
  · decide +kernel
  have hulp : (0 : ℚ) < 2 ^ (floorLog2 x - 52) := zpow_pos two_pos _
  have hsmall : (2 : ℚ) ^ (floorLog2 x - 52) ≤ x / 2 ^ 52 := by
    rw [zpow_sub₀ two_ne_zero]
    exact div_le_div_of_nonneg_right (two_zpow_floorLog2_le hx) (by norm_num)
  set ulp := (2 : ℚ) ^ (floorLog2 x - 52) with hdef
  have hscaled : x = x / ulp * ulp := (div_mul_cancel₀ x hulp.ne').symm
  have hlow := Int.floor_le (x / ulp)
  have hhigh := Int.lt_floor_add_one (x / ulp)
  have hround : ∃ n : Int, binary64 x = n * ulp ∧ |(n : ℚ) - x / ulp| ≤ 1 / 2 := by
    simp only [binary64, ← hdef]
    split
    next hup =>
      refine ⟨⌊x / ulp⌋ + 1, by push_cast; rfl, ?_⟩
      have hhalf : 1 / 2 ≤ x / ulp - ⌊x / ulp⌋ := hup.elim (·.le) (·.1.ge)
      rw [abs_le]
      constructor <;> push_cast <;> linarith
    next hdown =>
      refine ⟨⌊x / ulp⌋, rfl, ?_⟩
      have hhalf : x / ulp - ⌊x / ulp⌋ ≤ 1 / 2 := not_lt.mp fun hlt => hdown (.inl hlt)
      rw [abs_le]
      constructor <;> linarith
  obtain ⟨n, hn, hnear⟩ := hround
  calc |binary64 x - x| = |(n : ℚ) - x / ulp| * ulp := by
        rw [hn, ← abs_of_pos hulp, ← abs_mul, abs_of_pos hulp, sub_mul, ← hscaled]
    _ ≤ 1 / 2 * ulp := by gcongr
    _ ≤ 1 / 2 * (x / 2 ^ 52) := by gcongr
    _ = x / 2 ^ 53 := by ring

/-- `x.toFixed(2)` of a number that is not negative: the nearest hundredth of its binary form, and the
larger of two. -/
def toFixed2 (x : JsNumber) : String := fromMinorUnits ⌊binary64 x * 100 + 1 / 2⌋

-- the binary form of 2.675 is below it, that of 2.665 is above
example : toFixed2 (2675 / 1000) = "2.67" ∧ toFixed2 (2665 / 1000) = "2.67" := by decide +kernel

end AtlasErp
