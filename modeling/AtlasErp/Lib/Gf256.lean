import Mathlib.Algebra.CharP.Algebra
import Mathlib.Algebra.CharP.Two
import Mathlib.Algebra.Field.ZMod
import Mathlib.RingTheory.AdjoinRoot

/-! # The field of 256 elements

The polynomials over the bits modulo `x⁸ + x⁴ + x³ + x² + 1`, which is `0x11d`. A number stands for the polynomial of
its bits.

- `ofByte_xor`, `ofByte_double`: the bitwise operations are those of the field;
- `ofByte_injOn`: different bytes stand for different elements. -/

namespace Lib

namespace Gf256

open Polynomial

/-- `0x11d`. -/
noncomputable def modulus : (ZMod 2)[X] := X ^ 8 + (X ^ 4 + X ^ 3 + X ^ 2 + 1)

theorem degree_low : (X ^ 4 + X ^ 3 + X ^ 2 + 1 : (ZMod 2)[X]).degree < 8 := by
  refine (degree_lt_iff_coeff_zero _ 8).mpr fun k hk => ?_
  have h4 : k ≠ 4 := by omega
  have h3 : k ≠ 3 := by omega
  have h2 : k ≠ 2 := by omega
  have h0 : k ≠ 0 := by omega
  simp [coeff_X_pow, coeff_one, h4, h3, h2, h0]

theorem modulus_monic : modulus.Monic := monic_X_pow_add degree_low

theorem degree_modulus : modulus.degree = 8 := by
  have hlow : (X ^ 4 + X ^ 3 + X ^ 2 + 1 : (ZMod 2)[X]).degree < (X ^ 8 : (ZMod 2)[X]).degree := by
    rw [degree_X_pow]
    exact degree_low
  rw [modulus, degree_add_eq_left_of_degree_lt hlow, degree_X_pow]
  rfl

end Gf256

/-- The field of 256 elements. -/
abbrev Gf256 : Type := AdjoinRoot Gf256.modulus

namespace Gf256

open Polynomial

instance : Nontrivial Gf256 := AdjoinRoot.nontrivial modulus (by rw [degree_modulus]; decide)

instance : CharP Gf256 2 := charP_of_injective_ringHom (AdjoinRoot.of modulus).injective 2

/-- The generator `x`. -/
noncomputable def alpha : Gf256 := AdjoinRoot.root modulus

/-- A bit of a number. -/
def bit (x k : Nat) : ZMod 2 := if x.testBit k then 1 else 0

/-- The polynomial of the nine lowest bits of a number. -/
noncomputable def bitsPoly (x : Nat) : (ZMod 2)[X] := ∑ k ∈ Finset.range 9, monomial k (bit x k)

/-- The element that a byte stands for. -/
noncomputable def ofByte (x : Nat) : Gf256 := AdjoinRoot.mk modulus (bitsPoly x)

section Bits

variable {x y k : Nat}

theorem bit_xor (x y k : Nat) : bit (x ^^^ y) k = bit x k + bit y k := by
  unfold bit
  rw [Nat.testBit_xor]
  cases x.testBit k <;> cases y.testBit k <;> decide

theorem coeff_bitsPoly (x k : Nat) : (bitsPoly x).coeff k = if k < 9 then bit x k else 0 := by
  simp [bitsPoly, finsetSum_coeff, coeff_monomial]

theorem bitsPoly_xor (x y : Nat) : bitsPoly (x ^^^ y) = bitsPoly x + bitsPoly y := by
  ext k
  rw [coeff_add, coeff_bitsPoly, coeff_bitsPoly, coeff_bitsPoly, bit_xor]
  split
  · rfl
  · rw [add_zero]

theorem bit_of_lt (h : x < 256) (hk : 8 ≤ k) : bit x k = 0 := by
  have hpow : (2 : Nat) ^ 8 ≤ 2 ^ k := Nat.pow_le_pow_right (by decide) hk
  rw [bit, Nat.testBit_lt_two_pow (by omega)]
  rfl

theorem bitsPoly_double (h : x < 256) : bitsPoly (x <<< 1) = X * bitsPoly x := by
  ext k
  cases k with
  | zero => simp [coeff_bitsPoly, bit]
  | succ k =>
    have hshift : bit (x <<< 1) (k + 1) = bit x k := by simp [bit, Nat.testBit_shiftLeft]
    rw [coeff_X_mul, coeff_bitsPoly, coeff_bitsPoly, hshift]
    rcases lt_trichotomy k 8 with hlt | rfl | hgt
    · rw [if_pos (by omega), if_pos (by omega)]
    · rw [if_neg (by decide), if_pos (by decide), bit_of_lt h le_rfl]
    · rw [if_neg (by omega), if_neg (by omega)]

theorem bitsPoly_modulus : bitsPoly 0x11d = modulus := by
  ext k
  rw [coeff_bitsPoly, modulus]
  simp only [coeff_add, coeff_X_pow, coeff_one]
  rcases lt_or_ge k 9 with hlt | hge
  · interval_cases k <;> decide
  · have h8 : k ≠ 8 := by omega
    have h4 : k ≠ 4 := by omega
    have h3 : k ≠ 3 := by omega
    have h2 : k ≠ 2 := by omega
    have h0 : k ≠ 0 := by omega
    simp [h8, h4, h3, h2, h0, not_lt.mpr hge]

theorem ofByte_xor (x y : Nat) : ofByte (x ^^^ y) = ofByte x + ofByte y := by
  rw [ofByte, bitsPoly_xor, map_add]
  rfl

theorem ofByte_double (h : x < 256) : ofByte (x <<< 1) = alpha * ofByte x := by
  rw [ofByte, bitsPoly_double h, map_mul, AdjoinRoot.mk_X]
  rfl

theorem ofByte_modulus : ofByte 0x11d = 0 := by
  rw [ofByte, bitsPoly_modulus, AdjoinRoot.mk_self]

theorem ofByte_zero : ofByte 0 = 0 := by
  have h := ofByte_xor 0 0
  rwa [Nat.xor_self, left_eq_add] at h

theorem ofByte_one : ofByte 1 = 1 := by
  have hpoly : bitsPoly 1 = 1 := by
    ext k
    rw [coeff_bitsPoly, coeff_one]
    rcases lt_or_ge k 9 with hlt | hge
    · interval_cases k <;> decide
    · rw [if_neg (by omega), if_neg (by omega)]
  rw [ofByte, hpoly, map_one]

/-- **Different bytes** stand for different elements. -/
theorem ofByte_injOn (hx : x < 256) (hy : y < 256) (h : ofByte x = ofByte y) : x = y := by
  have hdegree : (bitsPoly x - bitsPoly y).degree < modulus.degree := by
    rw [degree_modulus]
    refine (degree_lt_iff_coeff_zero _ 8).mpr fun k hk => ?_
    rw [coeff_sub, coeff_bitsPoly, coeff_bitsPoly, bit_of_lt hx hk, bit_of_lt hy hk, sub_self]
  have hzero : bitsPoly x - bitsPoly y = 0 := by
    by_contra hne
    exact modulus_monic.not_dvd_of_degree_lt hne hdegree (AdjoinRoot.mk_eq_mk.mp h)
  refine Nat.eq_of_testBit_eq fun k => ?_
  have hcoeff := congrArg (fun p : (ZMod 2)[X] => p.coeff k) (sub_eq_zero.mp hzero)
  simp only [coeff_bitsPoly] at hcoeff
  rcases lt_or_ge k 9 with hlt | hge
  · rw [if_pos hlt, if_pos hlt] at hcoeff
    unfold bit at hcoeff
    cases hxk : x.testBit k <;> cases hyk : y.testBit k <;> simp_all
  · have hpow : (2 : Nat) ^ 8 ≤ 2 ^ k := Nat.pow_le_pow_right (by decide) (by omega)
    rw [Nat.testBit_lt_two_pow (by omega), Nat.testBit_lt_two_pow (by omega)]

end Bits

end Gf256

end Lib
