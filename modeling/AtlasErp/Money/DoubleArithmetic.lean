import AtlasErp.Money.Doubles

/-! # The arithmetic of doubles

- `Double.nearest_of_dyadic`: a number with 53 bits is a double;
- `Double.nearest_idem`: so is what a number is rounded to;
- `Double.sub`, `Double.abs`, `Double.lt`;
- `Double.lt_abs_sub`: **the distance** of whole numbers is compared exactly, however large it is. -/

namespace AtlasErp

open Lib

/-! ## Rounding -/

/-- The largest power of two that is not above a positive number is above its half. -/
theorem lt_two_zpow_floorLog2_add_one {x : ℚ} (hx : 0 < x) : x < (2 : ℚ) ^ (floorLog2 x + 1) := by
  rw [floorLog2]
  split
  · have hnum : 0 < x.num := Rat.num_pos.mpr hx
    have hhigh : (x.num.toNat : ℚ) < ((2 ^ (x.num.toNat.log2 + 1) : Nat) : ℚ) := by
      exact_mod_cast Nat.lt_log2_self
    have hlow : ((2 ^ x.den.log2 : Nat) : ℚ) ≤ x.den := by
      exact_mod_cast Nat.log2_self_le x.den_pos.ne'
    have hcast : ((x.num.toNat : Nat) : ℚ) = x.num := by
      exact_mod_cast congrArg (Int.cast (R := ℚ)) (Int.toNat_of_nonneg hnum.le)
    have hden : (0 : ℚ) < ((2 ^ x.den.log2 : Nat) : ℚ) := by positivity
    calc x = x.num.toNat / x.den := by rw [hcast, Rat.num_div_den]
      _ < (2 ^ (x.num.toNat.log2 + 1) : Nat) / (2 ^ x.den.log2 : Nat) :=
        div_lt_div₀ hhigh hlow (by positivity) hden
      _ = (2 : ℚ) ^ ((x.num.toNat.log2 : Int) - x.den.log2 + 1) := by
        rw [show (x.num.toNat.log2 : Int) - x.den.log2 + 1 = ((x.num.toNat.log2 + 1 : Nat) : Int) - (x.den.log2 : Nat) by
          push_cast; ring, zpow_sub₀ two_ne_zero]
        norm_cast
  · rw [sub_add_cancel]
    exact lt_of_not_ge ‹_›

theorem floorLog2_le {x : ℚ} {e : Int} (hx : 0 < x) (h : x < (2 : ℚ) ^ (e + 1)) : floorLog2 x ≤ e :=
  Int.lt_add_one_iff.mp ((zpow_lt_zpow_iff_right₀ one_lt_two).mp ((two_zpow_floorLog2_le hx).trans_lt h))

theorem le_floorLog2 {x : ℚ} {e : Int} (hx : 0 < x) (h : (2 : ℚ) ^ e ≤ x) : e ≤ floorLog2 x :=
  Int.lt_add_one_iff.mp ((zpow_lt_zpow_iff_right₀ one_lt_two).mp (h.trans_lt (lt_two_zpow_floorLog2_add_one hx)))

namespace Double

/-- The unit of the last bit of a number. -/
def ulp (x : ℚ) : ℚ := (2 : ℚ) ^ (max (floorLog2 |x|) (-1022) - 52)

theorem ulp_pos (x : ℚ) : 0 < ulp x := zpow_pos two_pos _

/-- **What rounding does**: the nearest multiple of the unit, with the sign, unless it is too large. -/
theorem exists_nearest {x : ℚ} (hx : x ≠ 0) : ∃ n : Int, |n - |x| / ulp x| ≤ 1 / 2 ∧ ∀ y, |y| = |x| → nearest y =
    if 2 ^ 1024 ≤ n * ulp x then .infinite (y < 0) else .finite (if y < 0 then -(n * ulp x) else n * ulp x) := by
  have hlow := Int.floor_le (|x| / ulp x)
  have hhigh := Int.lt_floor_add_one (|x| / ulp x)
  refine ⟨if |x| / ulp x - ⌊|x| / ulp x⌋ > 1 / 2 ∨ |x| / ulp x - ⌊|x| / ulp x⌋ = 1 / 2 ∧ ⌊|x| / ulp x⌋ % 2 = 1 then
    ⌊|x| / ulp x⌋ + 1 else ⌊|x| / ulp x⌋, ?_, fun y hy => ?_⟩
  swap
  · have hne : y ≠ 0 := abs_ne_zero.mp (hy ▸ abs_ne_zero.mpr hx)
    rw [nearest, if_neg hne, hy]
    rfl
  split
  next hup =>
    have hhalf : 1 / 2 ≤ |x| / ulp x - ⌊|x| / ulp x⌋ := hup.elim (·.le) (·.1.ge)
    rw [abs_le]
    constructor <;> push_cast <;> linarith
  next hdown =>
    have hhalf : |x| / ulp x - ⌊|x| / ulp x⌋ ≤ 1 / 2 := not_lt.mp fun hlt => hdown (.inl hlt)
    rw [abs_le]
    constructor <;> linarith

/-- Two whole numbers that are near are the same. -/
theorem int_eq_of_near {m n : Int} (h : |(n : ℚ) - m| ≤ 1 / 2) : n = m := by
  have hcast : |(n : ℚ) - m| = ((|n - m| : Int) : ℚ) := by push_cast; rfl
  have hlt : |n - m| < 1 := by
    rw [hcast] at h
    exact_mod_cast h.trans_lt (by norm_num : (1 / 2 : ℚ) < 1)
  rw [Int.abs_lt_one_iff] at hlt
  omega

/-- A multiple of the unit of its last bit is a double. -/
theorem nearest_of_multiple {x : ℚ} {m : Int} (hx : |x| = m * ulp x) (hsmall : |x| < 2 ^ 1024) :
    nearest x = .finite x := by
  rcases eq_or_ne x 0 with rfl | hne
  · rfl
  obtain ⟨n, hnear, hnearest⟩ := exists_nearest hne
  rw [hx, mul_div_cancel_right₀ _ (ulp_pos x).ne'] at hnear
  rw [hnearest x rfl, int_eq_of_near hnear, ← hx, if_neg (not_le.mpr hsmall)]
  split
  next hneg => rw [abs_of_neg hneg, neg_neg]
  next hpos => rw [abs_of_nonneg (not_lt.mp hpos)]

/-- A whole number of units that are not smaller than the unit of the last bit is a double. -/
theorem nearest_of_bits {x : ℚ} {m : Nat} {e : Int} (he : -1074 ≤ e) (hx : |x| = m * 2 ^ e)
    (hbits : |x| < 2 ^ (e + 53)) (hsmall : |x| < 2 ^ 1024) : nearest x = .finite x := by
  rcases eq_or_ne x 0 with rfl | hne
  · rfl
  have hlog : floorLog2 |x| ≤ e + 52 := floorLog2_le (abs_pos.mpr hne) (by rwa [add_assoc])
  obtain ⟨k, hk⟩ := Int.eq_ofNat_of_zero_le (show 0 ≤ e - (max (floorLog2 |x|) (-1022) - 52) by omega)
  refine nearest_of_multiple (m := m * 2 ^ k) ?_ hsmall
  rw [hx, ulp, show e = (k : Int) + (max (floorLog2 |x|) (-1022) - 52) by omega, zpow_add₀ two_ne_zero]
  push_cast
  rw [zpow_natCast]
  ring

/-- **Fifty-three bits**: a whole number of at most 2^53 times a power of two is a double. -/
theorem nearest_of_dyadic {x : ℚ} {m : Nat} {e : Int} (hm : m ≤ 2 ^ 53) (he : -1074 ≤ e) (hx : |x| = m * 2 ^ e)
    (hsmall : |x| < 2 ^ 1024) : nearest x = .finite x := by
  have hunit : (0 : ℚ) < 2 ^ e := zpow_pos two_pos e
  rcases hm.eq_or_lt with rfl | hlt
  · -- 2^53 is 2^52 units of the next power
    have hnext : |x| = (2 ^ 52 : Nat) * (2 : ℚ) ^ (e + 1) := by
      rw [hx, zpow_add_one₀ two_ne_zero]
      push_cast
      ring
    refine nearest_of_bits (by omega) hnext ?_ hsmall
    rw [hnext, zpow_add₀ two_ne_zero _ 53, mul_comm]
    exact mul_lt_mul_of_pos_left (by norm_num) (zpow_pos two_pos _)
  · refine nearest_of_bits he hx ?_ hsmall
    rw [hx, zpow_add₀ two_ne_zero, mul_comm]
    exact mul_lt_mul_of_pos_left (by exact_mod_cast hlt) hunit

theorem nearest_neg {x y : ℚ} (h : nearest x = .finite y) : nearest (-x) = .finite (-y) := by
  rcases eq_or_ne x 0 with rfl | hne
  · cases h
    rfl
  obtain ⟨n, -, hnearest⟩ := exists_nearest hne
  rw [hnearest x rfl] at h
  rw [hnearest (-x) (abs_neg x)]
  split at h
  · cases h
  next hsmall =>
    cases h
    rw [if_neg hsmall]
    rcases lt_or_gt_of_ne hne with hneg | hpos
    · rw [if_pos hneg, if_neg (not_lt.mpr (neg_nonneg.mpr hneg.le)), neg_neg]
    · rw [if_neg (not_lt.mpr hpos.le), if_pos (neg_neg_of_pos hpos)]

/-- What a number is rounded to, in units of the last bit of the number. -/
theorem exists_of_nearest {x y : ℚ} (hx : x ≠ 0) (h : nearest x = .finite y) :
    ∃ n : Nat, |n - |x| / ulp x| ≤ 1 / 2 ∧ |y| = n * ulp x ∧ |y| < 2 ^ 1024 := by
  obtain ⟨n, hnear, hnearest⟩ := exists_nearest hx
  rw [hnearest x rfl] at h
  have hn : 0 ≤ n := by
    have hquotient : 0 ≤ |x| / ulp x := div_nonneg (abs_nonneg x) (ulp_pos x).le
    have hlow : ((-1 : Int) : ℚ) < n := by
      push_cast
      linarith [(abs_le.mp hnear).1]
    exact Int.cast_lt.mp hlow
  obtain ⟨m, rfl⟩ := Int.eq_ofNat_of_zero_le hn
  have hvalue : 0 ≤ ((m : Int) : ℚ) * ulp x := mul_nonneg (by exact_mod_cast hn) (ulp_pos x).le
  split at h
  · cases h
  next hsmall =>
    have habs : |y| = ((m : Int) : ℚ) * ulp x := by
      cases h
      split
      · rw [abs_neg, abs_of_nonneg hvalue]
      · exact abs_of_nonneg hvalue
    exact ⟨m, hnear, habs, habs ▸ not_le.mp hsmall⟩

/-- What a number is rounded to is a double. -/
theorem nearest_idem {x y : ℚ} (h : nearest x = .finite y) : nearest y = .finite y := by
  rcases eq_or_ne x 0 with rfl | hne
  · cases h
    rfl
  obtain ⟨n, hnear, hvalue, hsmall⟩ := exists_of_nearest hne h
  refine nearest_of_dyadic ?_ (by omega) hvalue hsmall
  have hpos : 0 < |x| := abs_pos.mpr hne
  have hbits : |x| / ulp x < 2 ^ 53 := by
    rw [div_lt_iff₀ (ulp_pos x), ulp, ← zpow_natCast, ← zpow_add₀ two_ne_zero]
    refine (lt_two_zpow_floorLog2_add_one hpos).trans_le (zpow_le_zpow_right₀ one_le_two ?_)
    push_cast
    omega
  have hlt : (n : ℚ) < 2 ^ 53 + 1 := by linarith [(abs_le.mp hnear).2]
  exact Nat.lt_add_one_iff.mp (by exact_mod_cast hlt)

/-- What a text is read as is a double. -/
theorem nearest_numberOfText {text : Text} {x : ℚ} (h : numberOfText text = .finite x) : nearest x = .finite x := by
  have hradix : ∀ {radix digits}, radixValue radix digits = .finite x → nearest x = .finite x := by
    intro radix digits h
    unfold radixValue at h
    split at h
    · cases h
    · cases h
    · exact nearest_idem h
  unfold numberOfText at h
  dsimp only at h
  split at h
  · cases h
    rfl
  split at h
  · cases h
  split at h
  · cases h
  split at h
  · exact hradix h
  · split at h
    · exact nearest_idem h
    · cases h

/-- A whole number of at most 2^53 is a double. -/
theorem nearest_int {n : Int} (hn : |n| ≤ 2 ^ 53) : nearest n = .finite n := by
  have habs : |(n : ℚ)| = n.natAbs := by rw [← Int.cast_abs, Int.abs_eq_natAbs, Int.cast_natCast]
  have hnat : n.natAbs ≤ 2 ^ 53 := by
    rw [Int.abs_eq_natAbs] at hn
    exact_mod_cast hn
  refine nearest_of_dyadic hnat (e := 0) (by norm_num) (by rw [zpow_zero, mul_one, habs]) ?_
  calc |(n : ℚ)| = (n.natAbs : ℚ) := habs
    _ ≤ 2 ^ 53 := by exact_mod_cast hnat
    _ < 2 ^ 1024 := pow_lt_pow_right₀ one_lt_two (by norm_num)

/-- Rounding does not bring a number below 2^53. -/
theorem le_abs_of_nearest {x y : ℚ} (hx : 2 ^ 53 ≤ |x|) (h : nearest x = .finite y) : 2 ^ 53 ≤ |y| := by
  have hpos : 0 < |x| := lt_of_lt_of_le (by norm_num) hx
  obtain ⟨n, hnear, hvalue, -⟩ := exists_of_nearest (abs_pos.mp hpos) h
  have hlog : 53 ≤ floorLog2 |x| := le_floorLog2 hpos (by exact_mod_cast hx)
  have hmax : max (floorLog2 |x|) (-1022) = floorLog2 |x| := max_eq_left (by omega)
  have hquotient : 2 ^ 52 ≤ |x| / ulp x := by
    rw [le_div_iff₀ (ulp_pos x), ulp, hmax, ← zpow_natCast, ← zpow_add₀ two_ne_zero]
    simpa using two_zpow_floorLog2_le hpos
  have hn : 2 ^ 52 ≤ n := by
    have hlt : (2 ^ 52 : ℚ) < n + 1 := by linarith [(abs_le.mp hnear).1]
    exact Nat.lt_add_one_iff.mp (by exact_mod_cast hlt)
  have hunit : 2 ≤ ulp x := by
    rw [ulp, hmax]
    calc (2 : ℚ) = 2 ^ (1 : Int) := (zpow_one 2).symm
      _ ≤ 2 ^ (floorLog2 |x| - 52) := zpow_le_zpow_right₀ one_le_two (by omega)
  calc (2 : ℚ) ^ 53 = 2 ^ 52 * 2 := by norm_num
    _ ≤ n * ulp x := by gcongr; exact_mod_cast hn
    _ = |y| := hvalue.symm

end Double

/-! ## Operations -/

/-- `x - y`. -/
def Double.sub : Double → Double → Double
  | .finite x, .finite y => Double.nearest (x - y)
  | .infinite negative, .finite _ => .infinite negative
  | .finite _, .infinite negative => .infinite (!negative)
  | .infinite negative, .infinite negative' => if negative = negative' then .nan else .infinite negative
  | _, _ => .nan

/-- `Math.abs`. -/
def Double.abs : Double → Double
  | .finite x => .finite |x|
  | .infinite _ => .infinite false
  | .nan => .nan

/-- `<`. -/
def Double.lt : Double → Double → Bool
  | .finite x, .finite y => x < y
  | .infinite negative, .finite _ => negative
  | .finite _, .infinite negative => !negative
  | .infinite negative, .infinite negative' => negative && !negative'
  | _, _ => false

/-- **The distance** of two whole numbers is compared exactly with a bound below 2^53. -/
theorem Double.lt_abs_sub {m n : Int} {bound : ℚ} (hbound : bound < 2 ^ 53) :
    Double.lt (.finite bound) (Double.sub (.finite m) (.finite n)).abs = true ↔ bound < |(m : ℚ) - n| := by
  have hcast : (m : ℚ) - n = ((m - n : Int) : ℚ) := by push_cast; rfl
  rw [Double.sub, hcast]
  rcases le_total |m - n| (2 ^ 53) with hsmall | hlarge
  · rw [nearest_int hsmall]
    exact decide_eq_true_iff
  · have hfar : 2 ^ 53 ≤ |((m - n : Int) : ℚ)| := by
      rw [← Int.cast_abs]
      exact_mod_cast hlarge
    refine iff_of_true ?_ (hbound.trans_le hfar)
    cases hnearest : Double.nearest ((m - n : Int) : ℚ) with
    | nan => exact absurd hnearest (nearest_ne_nan _)
    | infinite => rfl
    | finite y => exact decide_eq_true (hbound.trans_le (le_abs_of_nearest hfar hnearest))

end AtlasErp
