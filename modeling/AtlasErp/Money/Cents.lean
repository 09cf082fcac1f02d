import AtlasErp.Money.ReadBack

/-! # Amounts of cents as numbers

- `Double.cents`: the double of a number of cents;
- `Double.cents_injective`: below ten trillion they are told apart;
- `Double.shortest_cents`, `Double.toText_cents`: **their text** is the amount, with two decimals at most. -/

namespace AtlasErp

open Lib

namespace Double

/-! ## Cents -/

/-- The `number` of an amount of cents. -/
def cents (c : Nat) : Double := nearest (c / 100)

section Cents

variable {c c' : Nat} {x : ℚ}

theorem normal_of_cents (hc : 0 < c) : (2 : ℚ) ^ (-1022 : Int) ≤ |(c : ℚ) / 100| := by
  have hone : (1 : ℚ) ≤ c := by exact_mod_cast hc
  rw [abs_of_nonneg (by positivity)]
  calc (2 : ℚ) ^ (-1022 : Int) ≤ 2 ^ (-7 : Int) := zpow_le_zpow_right₀ one_le_two (by norm_num)
    _ ≤ 1 / 100 := by norm_num
    _ ≤ c / 100 := by gcongr

/-- **An amount of cents** has a double, which is near. -/
theorem exists_cents (hc : c ≤ 10 ^ 20) : ∃ x, cents c = .finite x ∧ |100 * x - c| ≤ c / 2 ^ 53 := by
  rcases Nat.eq_zero_or_pos c with rfl | hpos
  · exact ⟨0, by simp [cents, nearest], by simp⟩
  have hle : (c : ℚ) ≤ 10 ^ 20 := by exact_mod_cast hc
  have hnonneg : (0 : ℚ) ≤ c / 100 := by positivity
  obtain ⟨x, hx⟩ := exists_finite (normal_of_cents hpos) (by
    rw [abs_of_nonneg hnonneg]
    calc (c : ℚ) / 100 ≤ 10 ^ 20 / 100 := by gcongr
      _ ≤ 2 ^ 60 := by norm_num
      _ ≤ 2 ^ 1000 := pow_le_pow_right₀ one_le_two (by norm_num))
  refine ⟨x, hx, ?_⟩
  have hnear := abs_nearest_sub_le (normal_of_cents hpos) hx
  rw [abs_of_nonneg hnonneg] at hnear
  calc |100 * x - c| = 100 * |x - c / 100| := by
        rw [show 100 * x - c = 100 * (x - c / 100) by ring, abs_mul, abs_of_pos (by norm_num : (0 : ℚ) < 100)]
    _ ≤ 100 * (c / 100 / 2 ^ 53) := by gcongr
    _ = c / 2 ^ 53 := by ring

theorem near_of_cents (hc : c ≤ 10 ^ 20) (h : cents c = .finite x) : |100 * x - c| ≤ c / 2 ^ 53 := by
  obtain ⟨y, hy, hnear⟩ := exists_cents hc
  cases h.symm.trans hy
  exact hnear

/-- **Below ten trillion** two amounts of cents are two doubles. -/
theorem cents_injective (hc : c ≤ 10 ^ 15) (hc' : c' ≤ 10 ^ 15) (h : cents c = cents c') : c = c' := by
  obtain ⟨x, hx, hnear⟩ := exists_cents (hc.trans (by norm_num))
  have hnear' := near_of_cents (hc'.trans (by norm_num)) (h ▸ hx)
  have hle : (c : ℚ) ≤ 10 ^ 15 := by exact_mod_cast hc
  have hle' : (c' : ℚ) ≤ 10 ^ 15 := by exact_mod_cast hc'
  have hfar : |((c : Int) : ℚ) - (c' : Int)| ≤ 1 / 2 := by
    push_cast
    calc |(c : ℚ) - c'| = |-(100 * x - c) + (100 * x - c')| := by congr 1; ring
      _ ≤ |-(100 * x - c)| + |100 * x - c'| := abs_add_le _ _
      _ ≤ c / 2 ^ 53 + c' / 2 ^ 53 := by
        rw [abs_neg]
        gcongr
      _ ≤ 10 ^ 15 / 2 ^ 53 + 10 ^ 15 / 2 ^ 53 := by gcongr
      _ ≤ 1 / 2 := by norm_num
  exact_mod_cast int_eq_of_near hfar

theorem pos_of_cents (hpos : 0 < c) (hc : c ≤ 10 ^ 20) (h : cents c = .finite x) : 0 < x := by
  have hnear := (abs_le.mp (near_of_cents hc h)).1
  have hone : (1 : ℚ) ≤ c := by exact_mod_cast hpos
  have hsmall : (c : ℚ) / 2 ^ 53 ≤ c / 2 := by
    gcongr
    norm_num
  linarith

/-- The number of digits before the point. -/
theorem log_of_cents (hpos : 0 < c) (hc : c < 10 ^ 15) (h : cents c = .finite x) :
    -2 ≤ Int.log 10 x ∧ Int.log 10 x < 13 := by
  have hx := pos_of_cents hpos (hc.le.trans (by norm_num)) h
  have hnear := abs_le.mp (near_of_cents (hc.le.trans (by norm_num)) h)
  constructor
  · refine (Int.zpow_le_iff_le_log (by norm_num) hx).mp ?_
    rcases Nat.lt_or_ge c 2 with hlt | hge
    · obtain rfl : c = 1 := by omega
      have hone : cents 1 = .finite (5764607523034235 / 2 ^ 59) := by decide +kernel
      cases h.symm.trans hone
      norm_num
    · have htwo : (2 : ℚ) ≤ c := by exact_mod_cast hge
      have hsmall : (c : ℚ) / 2 ^ 53 ≤ c / 2 := by
        gcongr
        norm_num
      norm_num
      linarith
  · refine (Int.lt_zpow_iff_log_lt (by norm_num) hx).mp ?_
    have hle : (c : ℚ) ≤ 10 ^ 15 - 1 := by
      have hcast : ((c + 1 : Nat) : ℚ) ≤ (10 ^ 15 : Nat) := by exact_mod_cast hc
      push_cast at hcast
      linarith
    have hsmall : (c : ℚ) / 2 ^ 53 ≤ (10 ^ 15 - 1) / 2 ^ 53 := by gcongr
    norm_num at hsmall hle ⊢
    linarith

/-! ## Their texts -/

/-- The amount itself is tried with as many digits as it has. -/
theorem decimalOf_cents {n : Int} {k : Nat} (hk : n - k = -2) (hc : c ≤ 10 ^ 15) (h : cents c = .finite x) (hx : 0 ≤ x) :
    decimalOf x n k ≠ none := by
  have hunit : (10 : ℚ) ^ (n - k) = 1 / 100 := by
    rw [hk]
    norm_num
  have hle : (c : ℚ) ≤ 10 ^ 15 := by exact_mod_cast hc
  have hnear := abs_le.mp (near_of_cents (hc.trans (by norm_num)) h)
  have hsmall : (c : ℚ) / 2 ^ 53 < 1 := by
    calc (c : ℚ) / 2 ^ 53 ≤ 10 ^ 15 / 2 ^ 53 := by gcongr
      _ < 1 := by norm_num
  have hquotient : x / (1 / 100) = 100 * x := by ring
  have hfloor : c = ⌊100 * x⌋₊ ∨ c = ⌊100 * x⌋₊ + 1 := by
    have hlow := Nat.floor_le (show 0 ≤ 100 * x by positivity)
    have hhigh := Nat.lt_floor_add_one (100 * x)
    have hup : c < ⌊100 * x⌋₊ + 2 := by
      have hcast : (c : ℚ) < (⌊100 * x⌋₊ + 2 : Nat) := by
        push_cast
        linarith
      exact_mod_cast hcast
    have hdown : ⌊100 * x⌋₊ < c + 1 := by
      have hcast : ((⌊100 * x⌋₊ : Nat) : ℚ) < (c + 1 : Nat) := by
        push_cast
        linarith
      exact_mod_cast hcast
    omega
  have hreads : nearest (c * (1 / 100)) = .finite x := by rwa [mul_one_div]
  unfold decimalOf
  rw [hunit]
  dsimp only
  rw [hquotient]
  refine fun hnone => ?_
  rw [Option.map_eq_none_iff, List.find?_eq_none] at hnone
  refine hnone c ?_ (decide_eq_true hreads)
  split <;> simp only [List.mem_cons, List.not_mem_nil, or_false]
  · exact hfloor
  · exact hfloor.symm

/-- **The shortest decimal** of an amount of cents is the amount. -/
theorem shortest_cents (hpos : 0 < c) (hc : c < 10 ^ 15) (h : cents c = .finite x) :
    ∃ (s : Nat) (e : Int), shortest x = (s, e) ∧ 0 < s ∧ -2 ≤ e ∧ (s : ℚ) * 10 ^ e = c / 100 := by
  have hx := pos_of_cents hpos (hc.le.trans (by norm_num)) h
  obtain ⟨hlow, hhigh⟩ := log_of_cents hpos hc h
  have hbound : x < 10 ^ (Int.log 10 x + 1) := Int.lt_zpow_succ_log_self (by norm_num) x
  obtain ⟨n, hn⟩ : ∃ n, Int.log 10 x + 1 = n := ⟨_, rfl⟩
  rw [hn] at hbound
  obtain ⟨k₀, hk₀⟩ := Int.eq_ofNat_of_zero_le (show 0 ≤ n + 2 by omega)
  obtain ⟨k, ⟨s, e⟩, hk0, hle, hfound, hk⟩ := exists_findSome_range (f := decimalOf x n) (m := max 17 n.toNat) (n := k₀)
    (List.mem_range'_1.mpr (by omega)) (decimalOf_cents (by omega) hc.le h hx.le)
  have hshortest : shortest x = (s, e) := by
    rw [shortest, hn]
    exact congrArg (·.getD (0, 0)) hfound
  obtain ⟨hreads, hform⟩ := decimalOf_spec hbound hk
  have he : -2 ≤ e := by omega
  obtain ⟨m, hm⟩ := Int.eq_ofNat_of_zero_le (show 0 ≤ e + 2 by omega)
  have hvalue : (s : ℚ) * 10 ^ e = (s * 10 ^ m : Nat) / 100 := by
    rw [show e = (m : Int) - 2 by omega, zpow_sub₀ (by norm_num), zpow_natCast]
    push_cast
    ring
  have hten : s * 10 ^ m ≤ 10 ^ 15 := by
    rcases hform with ⟨hs, he'⟩ | ⟨rfl, he'⟩
    · calc s * 10 ^ m ≤ 10 ^ k * 10 ^ m := by gcongr
        _ = 10 ^ (k + m) := (pow_add 10 k m).symm
        _ ≤ 10 ^ 15 := Nat.pow_le_pow_right (by norm_num) (by omega)
    · rw [one_mul]
      exact Nat.pow_le_pow_right (by norm_num) (by omega)
  have hsame : s * 10 ^ m = c := by
    refine cents_injective hten hc.le ?_
    rw [h, cents, ← hvalue, hreads]
  refine ⟨s, e, hshortest, ?_, he, by rw [hvalue, hsame]⟩
  refine Nat.pos_of_ne_zero fun hzero => ?_
  rw [hzero, zero_mul] at hsame
  exact hpos.ne hsame

/-- **Their text**: digits, and two decimals at most. -/
theorem toText_cents (hc : c < 10 ^ 15) : ∃ entero fraccion, Digits (toText (cents c)) entero fraccion ∧
    plainValue false entero fraccion = c / 100 ∧ fraccion.length ≤ 2 := by
  obtain ⟨x, hx, -⟩ := exists_cents (c := c) (hc.le.trans (by norm_num))
  rcases Nat.eq_zero_or_pos c with rfl | hpos
  · have hzero : cents 0 = .finite 0 := by simp [cents, nearest]
    refine ⟨['0'], [], ⟨by decide, by decide, by simp, by rw [hzero]; simp [toText]⟩, ?_, by simp⟩
    simp [plainValue, Decimal.value, Decimal.digitValue]
  obtain ⟨s, e, hshortest, hs, he, hvalue⟩ := shortest_cents hpos hc hx
  have hxpos := pos_of_cents hpos (hc.le.trans (by norm_num)) hx
  -- the digits before the point are fewer than fourteen
  have hdigits : ((Nat.toDigits 10 s).length : Int) + e ≤ 13 := by
    obtain ⟨m, hm⟩ : ∃ m, (Nat.toDigits 10 s).length = m + 1 :=
      Nat.exists_eq_succ_of_ne_zero (List.length_pos_iff.mpr Nat.toDigits_ne_nil).ne'
    have hlarge : 10 ^ m ≤ s := by
      rcases Nat.eq_zero_or_pos m with rfl | hmpos
      · exact hs
      · refine not_lt.mp fun hlt => ?_
        have hshort := (Nat.length_toDigits_le_iff (by decide) hmpos).mpr hlt
        omega
    have hpower : (10 : ℚ) ^ ((m : Int) + e) < 10 ^ (13 : Int) := by
      calc (10 : ℚ) ^ ((m : Int) + e) = 10 ^ m * 10 ^ e := by rw [zpow_add₀ (by norm_num), zpow_natCast]
        _ ≤ s * 10 ^ e := by
          have hten : (0 : ℚ) < 10 ^ e := zpow_pos (by norm_num) _
          gcongr
          exact_mod_cast hlarge
        _ = c / 100 := hvalue
        _ < 10 ^ 15 / 100 := by gcongr; exact_mod_cast hc
        _ = 10 ^ (13 : Int) := by norm_num
    have hlt := (zpow_lt_zpow_iff_right₀ (by norm_num : (1 : ℚ) < 10)).mp hpower
    omega
  have hlength : 0 < (Nat.toDigits 10 s).length := List.length_pos_iff.mpr Nat.toDigits_ne_nil
  obtain ⟨entero, fraccion, htext, hplain, hplaces⟩ := positiveText_plain hshortest (by omega) (by omega)
  refine ⟨entero, fraccion, ?_, hplain.trans hvalue, by omega⟩
  rw [hx]
  simpa [toText, hxpos.ne', hxpos.not_gt] using htext

end Cents

end Double

end AtlasErp
