import AtlasErp.Money.NumberTexts

/-! # Every number is read back from its text

- `Double.abs_nearest_sub_le`: how far a number is from its double;
- `Double.nearest_of_near`: what is nearer than half of the last bit is rounded to the double;
- `Double.exists_shortest_of_double`: seventeen digits are enough;
- `Double.numberOfText_toText`: **`Number(String(x))` is `x`**. -/

namespace AtlasErp

open Lib

namespace Double

/-! ## The error of rounding -/

section Error

variable {x y : ℚ}

/-- The unit of the last bit is small. -/
theorem ulp_le (hx : (2 : ℚ) ^ (-1022 : Int) ≤ |x|) : ulp x ≤ |x| / 2 ^ 52 := by
  have hpos : 0 < |x| := (zpow_pos two_pos _).trans_le hx
  have hlog : -1022 ≤ floorLog2 |x| := le_floorLog2 hpos hx
  rw [ulp, max_eq_left hlog, zpow_sub₀ two_ne_zero]
  have hlow := two_zpow_floorLog2_le hpos
  gcongr
  norm_num

/-- The multiple of the unit that a number is rounded to is near. -/
theorem exists_nearest_near (hx : (2 : ℚ) ^ (-1022 : Int) ≤ |x|) : ∃ m : ℚ, |-|x| + m| ≤ |x| / 2 ^ 53 ∧
    nearest x = if 2 ^ 1024 ≤ m then .infinite (x < 0) else .finite (if x < 0 then -m else m) := by
  obtain ⟨n, hnear, hnearest⟩ := exists_nearest (abs_pos.mp ((zpow_pos two_pos _).trans_le hx))
  have hpos := ulp_pos x
  have hsplit : -|x| + n * ulp x = (n - |x| / ulp x) * ulp x := by
    rw [sub_mul, div_mul_cancel₀ _ hpos.ne', neg_add_eq_sub]
  refine ⟨n * ulp x, ?_, hnearest x rfl⟩
  calc |-|x| + n * ulp x| = |n - |x| / ulp x| * ulp x := by rw [hsplit, abs_mul, abs_of_pos hpos]
    _ ≤ 1 / 2 * (|x| / 2 ^ 52) := by
      have hulp := ulp_le hx
      gcongr
    _ = |x| / 2 ^ 53 := by ring

/-- **A number and its double** differ by half of the last bit. -/
theorem abs_nearest_sub_le (hx : (2 : ℚ) ^ (-1022 : Int) ≤ |x|) (h : nearest x = .finite y) :
    |y - x| ≤ |x| / 2 ^ 53 := by
  obtain ⟨m, hnear, hnearest⟩ := exists_nearest_near hx
  rw [hnearest] at h
  split at h
  · cases h
  cases h
  split
  next hneg =>
    rw [abs_of_neg hneg, neg_neg] at hnear
    rwa [abs_of_neg hneg, show -m - x = -(x + m) by ring, abs_neg]
  next hpos =>
    rw [abs_of_nonneg (not_lt.mp hpos), neg_add_eq_sub] at hnear
    rwa [abs_of_nonneg (not_lt.mp hpos)]

/-- A number that is neither tiny nor huge has a double. -/
theorem exists_finite (hx : (2 : ℚ) ^ (-1022 : Int) ≤ |x|) (hlarge : |x| ≤ 2 ^ 1000) : ∃ y, nearest x = .finite y := by
  obtain ⟨m, hnear, hnearest⟩ := exists_nearest_near hx
  have hm : m ≤ |x| + |x| / 2 ^ 53 := by linarith [(abs_le.mp hnear).2]
  have hbound : m < 2 ^ 1024 :=
    calc m ≤ |x| + |x| / 2 ^ 53 := hm
      _ ≤ 2 ^ 1000 + 2 ^ 1000 / 2 ^ 53 := by gcongr
      _ ≤ 2 ^ 1001 := by
        rw [pow_succ (2 : ℚ) 1000, mul_two]
        gcongr
        exact div_le_self (by positivity) (by norm_num)
      _ < 2 ^ 1024 := pow_lt_pow_right₀ one_lt_two (by norm_num)
  rw [if_neg (not_le.mpr hbound)] at hnearest
  exact ⟨_, hnearest⟩

end Error

/-! ## Near a double -/

section Near

variable {x y : ℚ}

/-- Around a double there is half of the last bit, and half of that below a power of two. -/
theorem exists_multiple_of_near (hx : 0 < x) (hdouble : nearest x = .finite x) (hnear : |y - x| < x / 2 ^ 54) :
    ∃ m : Int, x = m * ulp y ∧ x / 2 ^ 54 ≤ ulp y / 2 := by
  obtain ⟨n, -, hvalue, -⟩ := exists_of_nearest hx.ne' hdouble
  rw [abs_of_pos hx] at hvalue
  obtain ⟨hlow, hhigh⟩ := abs_lt.mp hnear
  have hshare : x / 2 ^ 54 ≤ x / 2 := by gcongr; norm_num
  have hy : 0 < y := by linarith
  obtain ⟨E, hE⟩ : ∃ E, max (floorLog2 x) (-1022) = E := ⟨_, rfl⟩
  obtain ⟨F, hF⟩ : ∃ F, max (floorLog2 y) (-1022) = F := ⟨_, rfl⟩
  have hunit : ulp x = (2 : ℚ) ^ (E - 52) := by rw [ulp, abs_of_pos hx, hE]
  have hunit' : ulp y = (2 : ℚ) ^ (F - 52) := by rw [ulp, abs_of_pos hy, hF]
  have hxE : x < 2 ^ (E + 1) :=
    (lt_two_zpow_floorLog2_add_one hx).trans_le (zpow_le_zpow_right₀ one_le_two (by omega))
  have hgap : x / 2 ^ 54 < 2 ^ (E - 52) / 2 := by
    have hsplit : (2 : ℚ) ^ (E + 1) = 2 ^ (E - 52) * 2 ^ 53 := by
      rw [← zpow_natCast, ← zpow_add₀ two_ne_zero]
      congr 1
      push_cast
      ring
    rw [hsplit] at hxE
    rw [div_lt_div_iff₀ (by positivity) two_pos]
    linarith
  have hpow : (2 : ℚ) ^ (E + 1) = 2 ^ 53 * 2 ^ (E - 52) := by
    rw [← zpow_natCast, ← zpow_add₀ two_ne_zero]
    congr 1
    push_cast
    ring
  -- the double is a unit below the next power
  have hnext : x ≤ 2 ^ (E + 1) - 2 ^ (E - 52) := by
    have hpos : (0 : ℚ) < 2 ^ (E - 52) := zpow_pos two_pos _
    rw [hvalue, hunit, hpow] at hxE ⊢
    have hlt : n < 2 ^ 53 := by exact_mod_cast lt_of_mul_lt_mul_right hxE hpos.le
    have hle : (n : ℚ) + 1 ≤ 2 ^ 53 := by exact_mod_cast hlt
    nlinarith
  have hFE : F ≤ E := by
    have hlog : floorLog2 y ≤ E := floorLog2_le hy (by linarith [zpow_pos (zero_lt_two : (0 : ℚ) < 2) (E - 52)])
    omega
  rcases hFE.eq_or_lt with rfl | hlt
  · exact ⟨n, by rw [hvalue, hunit, hunit', Int.cast_natCast], by rw [hunit']; exact hgap.le⟩
  -- it is a power of two, and the other number is below it
  have hpower : (2 : ℚ) ^ E ≤ x := by
    rw [show E = floorLog2 x by omega]
    exact two_zpow_floorLog2_le hx
  have hyE : y < 2 ^ E :=
    (lt_two_zpow_floorLog2_add_one hy).trans_le (zpow_le_zpow_right₀ one_le_two (by omega))
  have hwhole : (2 : ℚ) ^ E = 2 ^ 52 * 2 ^ (E - 52) := by
    rw [← zpow_natCast, ← zpow_add₀ two_ne_zero]
    congr 1
    push_cast
    ring
  have hexact : x = 2 ^ E := by
    have hpos : (0 : ℚ) < 2 ^ (E - 52) := zpow_pos two_pos _
    have hsmall : n * (2 : ℚ) ^ (E - 52) < (2 ^ 52 + 1) * 2 ^ (E - 52) := by
      rw [← hunit, ← hvalue, hunit]
      linarith
    have hlt : n < 2 ^ 52 + 1 := by exact_mod_cast lt_of_mul_lt_mul_right hsmall hpos.le
    have hlarge : (2 ^ 52 : ℚ) * 2 ^ (E - 52) ≤ n * 2 ^ (E - 52) := by
      rw [← hwhole, ← hunit, ← hvalue]
      exact hpower
    have hge : 2 ^ 52 ≤ n := by exact_mod_cast le_of_mul_le_mul_right hlarge hpos
    rw [hvalue, hunit, hwhole, show n = 2 ^ 52 by omega]
    norm_cast
  have hhalf : (2 : ℚ) ^ (E - 1) ≤ y := by
    have hsplit : (2 : ℚ) ^ E = 2 * 2 ^ (E - 1) := by rw [← zpow_one_add₀ two_ne_zero, add_sub_cancel]
    linarith
  have hbelow : F = E - 1 := by
    have hlog : E - 1 ≤ floorLog2 y := le_floorLog2 hy hhalf
    omega
  have hscale : (2 : ℚ) ^ E = 2 ^ 53 * 2 ^ (E - 1 - 52) := by
    rw [← zpow_natCast, ← zpow_add₀ two_ne_zero]
    congr 1
    push_cast
    ring
  refine ⟨2 ^ 53, ?_, ?_⟩
  · rw [hunit', hbelow, hexact, hscale]
    norm_cast
  · rw [hunit', hbelow, hexact, hscale]
    linarith [zpow_pos (zero_lt_two : (0 : ℚ) < 2) (E - 1 - 52)]

/-- **What is near a double** is rounded to it. -/
theorem nearest_of_near (hx : 0 < x) (hdouble : nearest x = .finite x) (hnear : |y - x| < x / 2 ^ 54) :
    nearest y = .finite x := by
  obtain ⟨m, hm, hgap⟩ := exists_multiple_of_near hx hdouble hnear
  obtain ⟨-, -, -, hsmall⟩ := exists_of_nearest hx.ne' hdouble
  have hshare : x / 2 ^ 54 ≤ x / 2 := by gcongr; norm_num
  have hy : 0 < y := by linarith [(abs_lt.mp hnear).1]
  have hpos := ulp_pos y
  obtain ⟨n, hn, hnearest⟩ := exists_nearest hy.ne'
  rw [abs_of_pos hy] at hn
  have hclose : |y / ulp y - m| < 1 / 2 := by
    rw [show y / ulp y - m = (y - x) / ulp y by rw [hm]; field_simp, abs_div, abs_of_pos hpos, div_lt_iff₀ hpos]
    linarith
  have hsame : n = m := by
    have hlt : |((n - m : Int) : ℚ)| < 1 := by
      calc |((n - m : Int) : ℚ)| = |(n - y / ulp y) + (y / ulp y - m)| := by push_cast; congr 1; ring
        _ ≤ |n - y / ulp y| + |y / ulp y - m| := abs_add_le _ _
        _ < 1 := by linarith
    have hzero : |n - m| < 1 := by exact_mod_cast hlt
    rw [Int.abs_lt_one_iff] at hzero
    omega
  rw [abs_of_pos hx] at hsmall
  rw [hnearest y rfl, hsame, ← hm, if_neg (not_le.mpr hsmall), if_neg (not_lt.mpr hy.le)]

end Near

/-! ## The shortest decimal -/

section Shortest

variable {x : ℚ}

/-- Seventeen digits are enough for any double. -/
theorem decimalOf_seventeen {n : Int} (hx : 0 < x) (hdouble : nearest x = .finite x) (hn : (10 : ℚ) ^ (n - 1) ≤ x) :
    decimalOf x n 17 ≠ none := by
  obtain ⟨unit, hunit⟩ : ∃ unit : ℚ, (10 : ℚ) ^ (n - (17 : Nat)) = unit := ⟨_, rfl⟩
  have hpos : 0 < unit := hunit ▸ zpow_pos (by norm_num) _
  have hsmall : unit / 2 < x / 2 ^ 54 := by
    have hsplit : (10 : ℚ) ^ (n - 1) = unit * 10 ^ 16 := by
      rw [← hunit, ← zpow_natCast, ← zpow_add₀ (by norm_num)]
      congr 1
      push_cast
      ring
    rw [hsplit] at hn
    rw [div_lt_div_iff₀ two_pos (by positivity)]
    calc unit * 2 ^ 54 < unit * (10 ^ 16 * 2) := by gcongr; norm_num
      _ = unit * 10 ^ 16 * 2 := by ring
      _ ≤ x * 2 := by gcongr
  have hlow := Nat.floor_le (div_nonneg hx.le hpos.le)
  have hhigh := Nat.lt_floor_add_one (x / unit)
  have hreads : ∀ s : Nat, |s - x / unit| ≤ 1 / 2 → nearest (s * unit) = .finite x := by
    intro s hs
    refine nearest_of_near hx hdouble ?_
    calc |s * unit - x| = |s - x / unit| * unit := by
          rw [← abs_of_pos hpos, ← abs_mul, abs_of_pos hpos, sub_mul, div_mul_cancel₀ _ hpos.ne']
      _ ≤ 1 / 2 * unit := by gcongr
      _ < x / 2 ^ 54 := by linarith
  unfold decimalOf
  rw [hunit]
  dsimp only
  split
  next hdown =>
    have hrest : x / unit - ⌊x / unit⌋₊ ≤ 1 / 2 := hdown.elim (·.le) (·.1.le)
    have hfirst : nearest (⌊x / unit⌋₊ * unit) = .finite x := hreads _ (by rw [abs_le]; constructor <;> linarith)
    rw [List.find?_cons_of_pos (by simpa using hfirst)]
    exact Option.some_ne_none _
  next hup =>
    have hrest : 1 / 2 ≤ x / unit - ⌊x / unit⌋₊ := not_lt.mp fun hlt => hup (.inl hlt)
    have hfirst : nearest ((⌊x / unit⌋₊ + 1 : Nat) * unit) = .finite x :=
      hreads _ (by push_cast; rw [abs_le]; constructor <;> linarith)
    rw [List.find?_cons_of_pos (by simpa using hfirst)]
    exact Option.some_ne_none _

/-- **The shortest decimal** of a double reads back. -/
theorem exists_shortest_of_double (hx : 0 < x) (hdouble : nearest x = .finite x) :
    ∃ (s : Nat) (e : Int), shortest x = (s, e) ∧ 0 < s ∧ nearest (s * 10 ^ e) = .finite x := by
  have hbound : x < 10 ^ (Int.log 10 x + 1) := Int.lt_zpow_succ_log_self (by norm_num) x
  have hlow : (10 : ℚ) ^ (Int.log 10 x + 1 - 1) ≤ x := by
    rw [add_sub_cancel_right]
    exact_mod_cast Int.zpow_log_le_self (b := 10) (by norm_num) hx
  obtain ⟨k, ⟨s, e⟩, -, -, hfound, hk⟩ := exists_findSome_range (f := decimalOf x (Int.log 10 x + 1))
    (m := max 17 (Int.log 10 x + 1).toNat) (n := 17) (List.mem_range'_1.mpr (by omega)) (decimalOf_seventeen hx hdouble hlow)
  obtain ⟨hreads, -⟩ := decimalOf_spec hbound hk
  refine ⟨s, e, congrArg (·.getD (0, 0)) hfound, Nat.pos_of_ne_zero fun hzero => ?_, hreads⟩
  rw [hzero, Nat.cast_zero, zero_mul] at hreads
  exact hx.ne (Double.finite.inj hreads)

end Shortest

/-! ## Its notations -/

section Notations

variable {x : ℚ} {s : Nat} {e : Int}

/-- The value of digits around a point. -/
theorem plainValue_eq_div (entero fraccion : Text) :
    plainValue false entero fraccion = Decimal.value (entero ++ fraccion) / 10 ^ fraccion.length := by
  rw [plainValue, if_neg Bool.false_ne_true, one_mul, Decimal.value_append]
  push_cast
  rw [add_div, mul_div_cancel_right₀ _ (by positivity)]

/-- Digits, and a point before the decimals if there are any. -/
structure Digits (text entero fraccion : Text) : Prop where
  integer : Decimal.AllDigits entero
  fraction : Decimal.AllDigits fraccion
  ne_nil : entero ≠ []
  spelled : text = entero ++ if fraccion = [] then [] else '.' :: fraccion

theorem Digits.signed {text entero fraccion : Text} (h : Digits text entero fraccion) (negative : Bool) :
    PlainDecimal (signText negative ++ text) negative entero fraccion := by
  refine plainDecimal_signed h.integer h.fraction h.ne_nil ?_
  rw [h.spelled]
  split
  next hnil => exact .inr ⟨hnil, List.append_nil _⟩
  next => exact .inl rfl

theorem allDigits_append {cs ds : Text} (hcs : Decimal.AllDigits cs) (hds : Decimal.AllDigits ds) :
    Decimal.AllDigits (cs ++ ds) := fun c hc => (List.mem_append.mp hc).elim (hcs c) (hds c)

theorem allDigits_replicate (n : Nat) : Decimal.AllDigits (List.replicate n '0') := fun c hc => by
  rw [List.eq_of_mem_replicate hc]
  rfl

/-- **The decimal notation**, with as many decimals as the exponent says. -/
theorem positiveText_plain (hshortest : shortest x = (s, e)) (hlow : -6 < (Nat.toDigits 10 s).length + e)
    (hhigh : (Nat.toDigits 10 s).length + e ≤ 21) : ∃ entero fraccion, Digits (positiveText x) entero fraccion ∧
      plainValue false entero fraccion = s * 10 ^ e ∧ fraccion.length = (-e).toNat := by
  have hdigits := Decimal.allDigits_toDigits s
  have hvalue := Decimal.value_toDigits s
  have hlength : 0 < (Nat.toDigits 10 s).length := List.length_pos_iff.mpr Nat.toDigits_ne_nil
  simp only [positiveText, hshortest]
  generalize Nat.toDigits 10 s = digits at *
  by_cases hwhole : 0 ≤ e
  · obtain ⟨k, rfl⟩ := Int.eq_ofNat_of_zero_le hwhole
    rw [if_pos (by omega), show ((digits.length : Int) + (k : Int) - digits.length).toNat = k by omega]
    refine ⟨digits ++ List.replicate k '0', [], ⟨allDigits_append hdigits (allDigits_replicate k), by simp [Decimal.AllDigits],
      by simp [List.ne_nil_of_length_pos hlength], by simp⟩, ?_, by simp⟩
    rw [plainValue_eq_div, List.append_nil, Decimal.value_append, Decimal.value_replicate, List.length_replicate, hvalue]
    simp
  obtain ⟨k, rfl⟩ : ∃ k : Nat, e = -k := ⟨(-e).toNat, by omega⟩
  have hscale : (s : ℚ) * 10 ^ (-(k : Int)) = s / 10 ^ k := by rw [zpow_neg, zpow_natCast, div_eq_mul_inv]
  rw [if_neg (by omega), hscale, neg_neg, Int.toNat_natCast]
  by_cases hpoint : k < digits.length
  · obtain ⟨n, hn⟩ : ∃ n : Nat, digits.length = n + k := ⟨digits.length - k, by omega⟩
    rw [if_pos (by omega), show ((digits.length : Int) + -(k : Int)).toNat = n by omega]
    have hdrop : (digits.drop n).length = k := by rw [List.length_drop]; omega
    refine ⟨digits.take n, digits.drop n, ⟨fun c hc => hdigits c (List.mem_of_mem_take hc),
      fun c hc => hdigits c (List.mem_of_mem_drop hc), ?_, ?_⟩, ?_, hdrop⟩
    · exact List.ne_nil_of_length_pos (by rw [List.length_take]; omega)
    · rw [if_neg (List.ne_nil_of_length_pos (by omega))]
    · rw [plainValue_eq_div, List.take_append_drop, hvalue, hdrop]
  · obtain ⟨n, hn⟩ : ∃ n : Nat, k = n + digits.length := ⟨k - digits.length, by omega⟩
    rw [if_neg (by omega), if_pos (by omega), show (-((digits.length : Int) + -(k : Int))).toNat = n by omega]
    have hzeros := allDigits_replicate n
    refine ⟨['0'], List.replicate n '0' ++ digits, ⟨by decide, allDigits_append hzeros hdigits, by simp, ?_⟩, ?_, ?_⟩
    · rw [if_neg (by simp [List.ne_nil_of_length_pos hlength])]
      rfl
    · rw [plainValue_eq_div, List.length_append, List.length_replicate, ← hn, Decimal.value_append, Decimal.value_append,
        Decimal.value_replicate, hvalue]
      simp [Decimal.value, Decimal.digitValue]
    · rw [List.length_append, List.length_replicate, hn]

/-- **The scientific notation** of the other numbers. -/
theorem positiveText_scientific (hshortest : shortest x = (s, e))
    (hfar : ¬(-6 < (Nat.toDigits 10 s).length + e ∧ (Nat.toDigits 10 s).length + e ≤ 21)) :
    ∃ (mantisa entero fraccion : Text) (below : Bool) (n : Nat), Digits mantisa entero fraccion ∧
      positiveText x = mantisa ++ 'e' :: (if below then '-' else '+') :: Nat.toDigits 10 n ∧
      plainValue false entero fraccion * 10 ^ (if below then -(n : Int) else n) = s * 10 ^ e := by
  have hdigits := Decimal.allDigits_toDigits s
  have hvalue := Decimal.value_toDigits s
  obtain ⟨d, rest, hcons⟩ := List.exists_cons_of_ne_nil (Nat.toDigits_ne_nil (n := s) (b := 10))
  simp only [positiveText, hshortest]
  rw [hcons, List.length_cons] at hfar ⊢
  rw [hcons] at hdigits hvalue
  rw [if_neg (by omega), if_neg (by omega), if_neg (by omega)]
  obtain ⟨n, hn⟩ : ∃ n : Int, ((rest.length + 1 : Nat) : Int) + e = n := ⟨_, rfl⟩
  rw [hn]
  refine ⟨d :: (if rest = [] then [] else '.' :: rest), [d], rest, decide (n < 1), (n - 1).natAbs,
    ⟨fun c hc => hdigits c (List.mem_cons.mpr (.inl (List.mem_singleton.mp hc))),
      fun c hc => hdigits c (List.mem_cons_of_mem _ hc), by simp, rfl⟩, ?_, ?_⟩
  · cases rest <;> simp
  · have hexponent : (if decide (n < 1) = true then -((n - 1).natAbs : Int) else (n - 1).natAbs) = rest.length + e := by
      split <;> simp only [decide_eq_true_eq] at * <;> omega
    rw [hexponent, plainValue_eq_div, List.singleton_append, hvalue, zpow_add₀ (by norm_num), zpow_natCast]
    field_simp

end Notations

/-! ## Read back -/

section Back

variable {text entero fraccion : Text} {negative : Bool}

/-- A decimal text with a signed exponent. -/
theorem numberOfText_exponent (h : PlainDecimal text negative entero fraccion) (below : Bool) (n : Nat) :
    numberOfText (text ++ 'e' :: (if below then '-' else '+') :: Nat.toDigits 10 n) =
      nearest (plainValue negative entero fraccion * 10 ^ (if below then -(n : Int) else n)) := by
  cases below with
  | false => simpa using numberOfText_scientific h n
  | true =>
    have hdigits := Decimal.allDigits_toDigits n
    have hspace : ∀ c ∈ text ++ 'e' :: '-' :: Nat.toDigits 10 n, isWhiteSpace c = false := by
      simp only [List.mem_append, List.mem_cons]
      rintro c (hc | rfl | rfl | hc)
      · exact h.forall_not_isWhiteSpace c hc
      · decide
      · decide
      · exact isWhiteSpace_of_isDigit (hdigits c hc)
    have htrim := trim_of_forall hspace
    have hchars : ∀ c ∈ text ++ 'e' :: '-' :: Nat.toDigits 10 n, c.toNat < 65 ∨ c = 'e' := by
      simp only [List.mem_append, List.mem_cons]
      rintro c (hc | rfl | rfl | hc)
      · exact .inl (h.toNat_lt c hc)
      · exact .inr rfl
      · exact .inl (by decide)
      · have hrange := (Decimal.isDigit_iff c).mp (hdigits c hc)
        exact .inl (by omega)
    have htake : (text ++ 'e' :: '-' :: Nat.toDigits 10 n).takeWhile (!isExponentMark ·) = text := by
      rw [List.takeWhile_append_of_pos h.not_isExponentMark]
      simp [isExponentMark]
    have hdrop : (text ++ 'e' :: '-' :: Nat.toDigits 10 n).dropWhile (!isExponentMark ·) =
        'e' :: '-' :: Nat.toDigits 10 n := by
      rw [List.dropWhile_append_of_pos h.not_isExponentMark]
      simp [isExponentMark]
    have hexponent : exponentOf ('e' :: '-' :: Nat.toDigits 10 n) = some (-n : Int) := by
      have hsome : Nat.toDigits 10 n ≠ [] ∧ Decimal.AllDigits (Nat.toDigits 10 n) := ⟨Nat.toDigits_ne_nil, hdigits⟩
      simp [exponentOf, hsome, Decimal.value_toDigits]
    simp only [if_true]
    rw [numberOfText_literal (by rw [htrim]; simp) (by rwa [htrim]), htrim, htake, hdrop, hexponent,
      amountParts_eq_some_iff.mpr h]

variable {x : ℚ}

theorem plainValue_sign (negative : Bool) (entero fraccion : Text) : plainValue negative entero fraccion =
    (if negative then -1 else 1) * plainValue false entero fraccion := by
  simp [plainValue]

/-- The text of a positive number, with a sign or without, is read as the number with that sign. -/
theorem numberOfText_positiveText (hx : 0 < x) (hdouble : nearest x = .finite x) (negative : Bool) :
    numberOfText (signText negative ++ positiveText x) = .finite ((if negative then -1 else 1) * x) := by
  obtain ⟨s, e, hshortest, -, hreads⟩ := exists_shortest_of_double hx hdouble
  have hsigned := nearest_signed negative hreads
  by_cases hrange : -6 < (Nat.toDigits 10 s).length + e ∧ (Nat.toDigits 10 s).length + e ≤ 21
  · obtain ⟨entero, fraccion, hdigits, hvalue, -⟩ := positiveText_plain hshortest hrange.1 hrange.2
    have hplain := hdigits.signed negative
    rw [numberOfText_plain (by rwa [trim_of_forall hplain.forall_not_isWhiteSpace]), plainValue_sign, hvalue, hsigned]
  · obtain ⟨mantisa, entero, fraccion, below, n, hdigits, htext, hvalue⟩ := positiveText_scientific hshortest hrange
    rw [htext, ← List.append_assoc, numberOfText_exponent (hdigits.signed negative), plainValue_sign, mul_assoc, hvalue, hsigned]

/-- **Every double** is read back from its text. -/
theorem numberOfText_toText (d : Double) (hd : ∀ x, d = .finite x → nearest x = .finite x) :
    numberOfText (toText d) = d := by
  cases d with
  | nan => decide +kernel
  | infinite negative => cases negative <;> decide +kernel
  | finite x =>
    rcases lt_trichotomy x 0 with hneg | rfl | hpos
    · have hback := numberOfText_positiveText (neg_pos.mpr hneg) (nearest_neg (hd x rfl)) true
      simpa [toText, hneg.ne, hneg, signText] using hback
    · simp [toText]
      decide +kernel
    · have hback := numberOfText_positiveText hpos (hd x rfl) false
      simpa [toText, hpos.ne', hpos.not_gt, signText] using hback

end Back

end Double

end AtlasErp
