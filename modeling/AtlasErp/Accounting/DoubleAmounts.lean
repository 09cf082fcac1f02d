import AtlasErp.Accounting.JournalLines
import AtlasErp.Money.Cents

/-! # Numbers as amounts of journal lines

A flow of the server computes its amounts with `number`, and the double entry reads the text of each.

- `Double.add`, `Double.toFixed2`;
- `JournalAmount.ofDouble`: a `number` as an amount;
- `cents_ofDouble`: **what is read** of a number: it is the double of the amount that is read;
- `cents_ofDouble_cents`: the double of an amount of cents is read as the amount;
- `minorUnits_ofDouble_cents`: and stored as it. -/

namespace AtlasErp

open Lib

namespace Double

/-! ## Operations -/

/-- Is it a binary64 value? -/
def IsValue (d : Double) : Prop := ∀ x, d = .finite x → nearest x = .finite x

theorem isValue_nearest (x : ℚ) : IsValue (nearest x) := fun _ h => nearest_idem h

theorem isValue_cents (c : Nat) : IsValue (cents c) := isValue_nearest _

/-- `x + y`. -/
def add : Double → Double → Double
  | .finite x, .finite y => nearest (x + y)
  | .infinite negative, .finite _ => .infinite negative
  | .finite _, .infinite negative => .infinite negative
  | .infinite negative, .infinite negative' => if negative = negative' then .infinite negative else .nan
  | _, _ => .nan

theorem isValue_add (d d' : Double) : IsValue (add d d') := by
  cases d with
  | finite x =>
    cases d' with
    | finite y => exact isValue_nearest _
    | infinite => rintro _ ⟨⟩
    | nan => rintro _ ⟨⟩
  | infinite negative =>
    cases d' with
    | finite => rintro _ ⟨⟩
    | infinite negative' =>
      intro x h
      simp only [add] at h
      split at h <;> cases h
    | nan => rintro _ ⟨⟩
  | nan => rintro _ ⟨⟩

/-- `value.toFixed(2)`: the nearest hundredth, and of two the larger. -/
def toFixed2 : Double → Text
  | .finite x =>
    if 10 ^ 21 ≤ |x| then toText (.finite x) else signText (decide (x < 0)) ++ minorText ⌊|x| * 100 + 1 / 2⌋ 2
  | d => toText d

/-- `Math.abs(value) <= Number.MAX_SAFE_INTEGER`, of a finite number. -/
def isSafe : Double → Bool
  | .finite x => |x| ≤ 2 ^ 53 - 1
  | _ => false

end Double

/-! ## What is read -/

section Read

variable {text entero fraccion : Text}

/-- What the pattern accepts. -/
theorem isCentAmount_iff : isCentAmount text = true ↔ ∃ entero fraccion, Double.Digits text entero fraccion ∧
    fraccion.length ≤ 2 := by
  constructor
  · intro h
    have hsplit := (List.takeWhile_append_dropWhile (p := Char.isDigit) (l := text)).symm
    have hentero : Decimal.AllDigits (text.takeWhile Char.isDigit) := fun c hc => List.mem_takeWhile_imp hc
    unfold isCentAmount at h
    generalize text.takeWhile Char.isDigit = entero at *
    generalize text.dropWhile Char.isDigit = rest at *
    split at h
    · cases h
    · exact ⟨_, [], ⟨hentero, by decide, by simp, by simpa using hsplit⟩, by simp⟩
    next d digits c decimals =>
      simp only [decide_eq_true_eq] at h
      obtain ⟨rfl, hdecimals, hpos, hlength⟩ := h
      exact ⟨_, decimals, ⟨hentero, hdecimals, by simp, by rw [hsplit, if_neg (List.ne_nil_of_length_pos hpos)]⟩, hlength⟩
  · rintro ⟨entero, fraccion, ⟨hentero, hfraccion, hne, rfl⟩, hlength⟩
    obtain ⟨c, resto, rfl⟩ := List.exists_cons_of_ne_nil hne
    unfold isCentAmount
    rcases fraccion with _ | ⟨d, decimals⟩
    · rw [if_pos rfl, List.append_nil, List.takeWhile_eq_self_iff.mpr hentero, List.dropWhile_eq_nil_iff.mpr hentero]
    · rw [if_neg (List.cons_ne_nil _ _), takeWhile_isDigit hentero, dropWhile_isDigit hentero]
      exact decide_eq_true ⟨rfl, hfraccion, by simp, hlength⟩

/-- Digits with two decimals at most are read exactly. -/
theorem toMinorUnits_of_digits (h : Double.Digits text entero fraccion) (hlength : fraccion.length ≤ 2) :
    ∃ c : Nat, toMinorUnits text 2 = .ok c ∧ plainValue false entero fraccion = c / 100 := by
  have hplain : PlainDecimal text false entero fraccion := h.signed false
  have htrim := trim_of_forall hplain.forall_not_isWhiteSpace
  obtain ⟨minor, hminor, hvalue⟩ := @toMinorUnits_of_zeros text 2 false entero fraccion
    (by rw [htrim]; exact amountParts_eq_some_iff.mpr hplain)
    (by rw [List.drop_eq_nil_of_le hlength]; exact fun c hc => absurd hc List.not_mem_nil)
  rw [decimalValue_of_plain (by rwa [htrim])] at hvalue
  have hexact := Option.some.inj hvalue
  have hnonneg : 0 ≤ minor := by
    have hquotient : (0 : ℚ) ≤ (minor : ℚ) / 10 ^ 2 := by
      rw [← hexact, Double.plainValue_eq_div]
      positivity
    have hcast : (0 : ℚ) ≤ minor := by
      have hscaled := mul_nonneg hquotient (by norm_num : (0 : ℚ) ≤ 10 ^ 2)
      rwa [div_mul_cancel₀ _ (by norm_num)] at hscaled
    exact_mod_cast hcast
  obtain ⟨c, rfl⟩ := Int.eq_ofNat_of_zero_le hnonneg
  refine ⟨c, hminor, hexact.trans ?_⟩
  push_cast
  norm_num

/-- **A number whose text is an amount** is the double of the amount. -/
theorem cents_of_isCentAmount {d : Double} (hd : d.IsValue) (h : isCentAmount d.toText = true) :
    ∃ c : Nat, d = Double.cents c ∧ toMinorUnits d.toText 2 = .ok c := by
  obtain ⟨entero, fraccion, hdigits, hlength⟩ := isCentAmount_iff.mp h
  obtain ⟨c, hminor, hvalue⟩ := toMinorUnits_of_digits hdigits hlength
  have hplain : PlainDecimal d.toText false entero fraccion := hdigits.signed false
  refine ⟨c, ?_, hminor⟩
  rw [Double.cents, ← hvalue, ← numberOfText_plain (by rwa [trim_of_forall hplain.forall_not_isWhiteSpace])]
  exact (Double.numberOfText_toText d hd).symm

variable {c : Nat}

/-- An amount of a cent or more is not rounded to zero. -/
theorem pos_of_cents {x : ℚ} (hpos : 0 < c) (h : Double.cents c = .finite x) : 0 < x ∧ 0 < ⌊|x| * 100 + 1 / 2⌋ := by
  have hnear := Double.abs_nearest_sub_le (Double.normal_of_cents hpos) h
  have hone : (1 : ℚ) ≤ c := by exact_mod_cast hpos
  rw [abs_of_nonneg (by positivity : (0 : ℚ) ≤ c / 100)] at hnear
  have hsmall : (c : ℚ) / 100 / 2 ^ 53 ≤ c / 100 / 2 := by
    gcongr
    norm_num
  have hlow := (abs_le.mp hnear).1
  exact ⟨by linarith, Int.floor_pos.mpr (by linarith [le_abs_self x])⟩

theorem toFixed2_of_nonneg {x : ℚ} (hx : 0 ≤ x) (hsmall : x < 10 ^ 21) :
    Double.toFixed2 (.finite x) = minorText ⌊x * 100 + 1 / 2⌋ 2 := by
  simp [Double.toFixed2, abs_of_nonneg hx, not_le.mpr hsmall, not_lt.mpr hx, Double.signText]

/-- A number of at most two decimals is zero in both of its texts or in neither. -/
theorem zero_of_isCentAmount {d : Double} (hd : d.IsValue) (h : isCentAmount d.toText = true) :
    toMinorUnits d.toText 2 = .ok 0 ↔ toMinorUnits d.toFixed2 2 = .ok 0 := by
  obtain ⟨c, rfl, hminor⟩ := cents_of_isCentAmount hd h
  rcases Nat.eq_zero_or_pos c with rfl | hpos
  · have hzero : Double.cents 0 = .finite 0 := by simp [Double.cents, Double.nearest]
    rw [hzero]
    decide +kernel
  cases hx : Double.cents c with
  | nan => exact Iff.rfl
  | infinite => exact Iff.rfl
  | finite x =>
    obtain ⟨hxpos, hfloor⟩ := pos_of_cents hpos hx
    rcases le_or_gt (10 ^ 21) x with hlarge | hsmall
    · rw [Double.toFixed2, if_pos (by rwa [abs_of_pos hxpos])]
    · rw [toFixed2_of_nonneg hxpos.le hsmall, toMinorUnits_minorText, ← hx, hminor]
      rw [abs_of_pos hxpos] at hfloor
      simp only [Except.ok.injEq]
      omega

end Read

/-! ## Amounts -/

/-- A `number` as an amount of a line. -/
def JournalAmount.ofDouble (d : Double) (hd : d.IsValue) : JournalAmount :=
  .number ⟨d.toText, d.toFixed2, d.isSafe, zero_of_isCentAmount hd⟩

section Amounts

variable {d : Double} {hd : d.IsValue} {c : Nat}

/-- **What the double entry reads** of a number: the number is the double of what is read. -/
theorem cents_ofDouble {amount : Int} (h : DoubleEntry.cents (.ofDouble d hd) = some amount) :
    ∃ c : Nat, amount = c ∧ d = Double.cents c ∧ d.isSafe = true := by
  simp only [DoubleEntry.cents, JournalAmount.ofDouble, DoubleEntry.cents.read] at h
  split at h
  case isFalse => cases h
  split at h
  case isFalse => cases h
  next hsafe hcent =>
    obtain ⟨c, hc, hminor⟩ := cents_of_isCentAmount hd hcent
    rw [hminor] at h
    dsimp only at h
    split at h
    · exact ⟨c, (Option.some.inj h).symm, hc, hsafe⟩
    · cases h

/-- **Below ten trillion** the double of an amount is read as the amount. -/
theorem cents_ofDouble_cents (hc : c < 10 ^ 15) (hd : (Double.cents c).IsValue) :
    DoubleEntry.cents (.ofDouble (Double.cents c) hd) = some (c : Int) := by
  obtain ⟨entero, fraccion, hdigits, hvalue, hlength⟩ := Double.toText_cents hc
  obtain ⟨c', hminor, hvalue'⟩ := toMinorUnits_of_digits hdigits hlength
  have hsame : c' = c := by
    rw [hvalue] at hvalue'
    have hcast : (c : ℚ) = c' := by linarith
    exact_mod_cast hcast.symm
  have hsafe : (Double.cents c).isSafe = true := by
    obtain ⟨x, hx, hnear⟩ := Double.exists_cents (c := c) (hc.le.trans (by norm_num))
    have hle : (c : ℚ) ≤ 10 ^ 15 := by exact_mod_cast hc.le
    have hsmall : (c : ℚ) / 2 ^ 53 ≤ 10 ^ 15 / 2 ^ 53 := by gcongr
    rw [hx]
    refine decide_eq_true ?_
    have hbounds := abs_le.mp hnear
    have hnonneg : (0 : ℚ) ≤ c := by positivity
    norm_num at hsmall
    rw [abs_le]
    constructor <;> norm_num <;> linarith
  simp only [DoubleEntry.cents, JournalAmount.ofDouble, DoubleEntry.cents.read, hsafe, if_true,
    isCentAmount_iff.mpr ⟨entero, fraccion, hdigits, hlength⟩, hminor, hsame]
  refine if_pos ?_
  rw [DoubleEntry.MAX_LINE_CENTS]
  omega

/-- And it is stored as it. -/
theorem minorUnits_ofDouble_cents (hc : c < 10 ^ 15) (hd : (Double.cents c).IsValue) :
    (JournalAmount.ofDouble (Double.cents c) hd).minorUnits = .ok (c : Int) := by
  obtain ⟨x, hx, hnear⟩ := Double.exists_cents (c := c) (hc.le.trans (by norm_num))
  have hle : (c : ℚ) ≤ 10 ^ 15 := by exact_mod_cast hc.le
  have hsmall : (c : ℚ) / 2 ^ 53 ≤ 10 ^ 15 / 2 ^ 53 := by gcongr
  have hbounds := abs_le.mp hnear
  have hnonneg : 0 ≤ x := by
    rcases Nat.eq_zero_or_pos c with rfl | hpos
    · simp only [Double.cents, Double.nearest, Nat.cast_zero, zero_div, if_true, Double.finite.injEq] at hx
      exact hx.le
    · exact (pos_of_cents hpos hx).1.le
  norm_num at hsmall
  have hfloor : ⌊x * 100 + 1 / 2⌋ = (c : Int) := by
    rw [Int.floor_eq_iff]
    push_cast
    constructor <;> linarith
  simp only [JournalAmount.minorUnits, JournalAmount.ofDouble]
  rw [hx, toFixed2_of_nonneg hnonneg (by linarith), hfloor, toMinorUnits_minorText]

end Amounts

end AtlasErp
