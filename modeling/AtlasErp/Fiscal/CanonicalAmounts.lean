import AtlasErp.Fiscal.MontosExactos

/-! # Canonical amounts

The conversion of money at the scales that are supported.

- `assertScale`: which scales are;
- `plainValue`: the number of a decimal text;
- `parseDecimalExact_ok_iff_plain`: what is read, and how much it is;
- `minorText_injective`: a text stands for one amount;
- `exact_conversion`: **all of it**, at each supported scale. -/

namespace AtlasErp

open Lib

namespace DecimalAmount

def MAX_SUPPORTED_SCALE : Int := 12

/-- The scale, when it is supported. -/
def assertScale (scale : Int) : Except MontosError Nat := do
  failIf (scale < 0 ∨ MAX_SUPPORTED_SCALE < scale)
    (.money (.rangeError "La escala decimal debe ser un entero entre 0 y 12."))
  return scale.toNat

def toMinorUnits (value : Text) (scale : Int) : Except MontosError Int := do
  let scale ← assertScale scale
  AtlasErp.toMinorUnits value scale

def fromMinorUnits (minor scale : Int) : Except MontosError Text := do
  let scale ← assertScale scale
  return minorText minor scale

def parseDecimalExact (value : Text) (scale : Int) : Except MontosError Int := do
  let scale ← assertScale scale
  AtlasErp.parseDecimalExact value scale

end DecimalAmount

/-- The number of a decimal text. -/
def plainValue (negative : Bool) (entero fraccion : Text) : ℚ :=
  (if negative then -1 else 1) * (Decimal.value entero + Decimal.value fraccion / 10 ^ fraccion.length)

section Plain

variable {texto : Text} {scale scale' : Nat} {minor minor' : Int}

theorem assertScale_of_supported {scale : Int} (hscale : 0 ≤ scale ∧ scale ≤ DecimalAmount.MAX_SUPPORTED_SCALE) :
    DecimalAmount.assertScale scale = .ok scale.toNat := by
  have hrange : ¬(scale < 0 ∨ DecimalAmount.MAX_SUPPORTED_SCALE < scale) := by omega
  rw [DecimalAmount.assertScale, failIf_of_not hrange]
  rfl

/-- No conversion is made at any other scale. -/
theorem supported_of_assertScale {scale : Int} {n : Nat} (h : DecimalAmount.assertScale scale = .ok n) :
    (0 ≤ scale ∧ scale ≤ DecimalAmount.MAX_SUPPORTED_SCALE) ∧ n = scale.toNat := by
  obtain ⟨hrange, h⟩ := failIf_bind_eq_ok.mp h
  exact ⟨by omega, (pure_eq_ok.mp h).symm⟩

theorem decimalValue_of_plain {negative : Bool} {entero fraccion : Text}
    (h : PlainDecimal (trim texto) negative entero fraccion) :
    decimalValue texto = some (plainValue negative entero fraccion) := by
  have hvalue : ((Decimal.value (entero ++ fraccion) : Nat) : ℚ) / 10 ^ fraccion.length =
      Decimal.value entero + Decimal.value fraccion / 10 ^ fraccion.length := by
    rw [Decimal.value_append]
    push_cast
    rw [add_div, mul_div_cancel_right₀ _ (by positivity)]
  simp only [decimalValue, amountParts_eq_some_iff.mpr h, Option.map_some, hvalue, plainValue]

/-- **Reading without rounding** accepts the decimal texts, with spaces around them, whose digits below the scale are
zeros. -/
theorem parseDecimalExact_ok_iff_plain :
    (∃ minor, parseDecimalExact texto scale = .ok minor) ↔
      ∃ negative entero fraccion, PlainDecimal (trim texto) negative entero fraccion ∧
        ∀ c ∈ fraccion.drop scale, c = '0' := by
  constructor
  · rintro ⟨minor, h⟩
    have hvalue := parseDecimalExact_eq_ok_iff.mp h
    cases hparts : amountParts (trim texto) with
    | none =>
      rw [decimalValue, hparts] at hvalue
      cases hvalue
    | some parts =>
      obtain ⟨negative, entero, fraccion⟩ := parts
      refine ⟨negative, entero, fraccion, amountParts_eq_some_iff.mp hparts, fun c hc => ?_⟩
      by_contra hzero
      exact decimalValue_ne_of_decimals hparts hc hzero minor hvalue
  · rintro ⟨negative, entero, fraccion, hplain, hzeros⟩
    obtain ⟨minor, -, hvalue⟩ := toMinorUnits_of_zeros (amountParts_eq_some_iff.mpr hplain) hzeros
    exact ⟨minor, parseDecimalExact_eq_ok_iff.mpr hvalue⟩

/-- What is read is the number of the text, in units of the scale. -/
theorem eq_plainValue_of_parseDecimalExact (h : parseDecimalExact texto scale = .ok minor) {negative : Bool}
    {entero fraccion : Text} (hplain : PlainDecimal (trim texto) negative entero fraccion) :
    (minor : ℚ) = plainValue negative entero fraccion * 10 ^ scale := by
  have hvalue := parseDecimalExact_eq_ok_iff.mp h
  rw [decimalValue_of_plain hplain, Option.some.injEq] at hvalue
  rw [hvalue, div_mul_cancel₀ _ (by positivity)]

/-- **A canonical text** stands for one amount: it shows the scale, and then the number. -/
theorem minorText_injective (h : minorText minor scale = minorText minor' scale') : minor = minor' ∧ scale = scale' := by
  obtain ⟨entero, fraccion, hparts, hlength, -⟩ := amountParts_minorText minor scale
  obtain ⟨entero', fraccion', hparts', hlength', -⟩ := amountParts_minorText minor' scale'
  rw [h, hparts', Option.some.injEq, Prod.mk.injEq, Prod.mk.injEq] at hparts
  obtain rfl : scale = scale' := by rw [← hlength, ← hlength', hparts.2.2]
  have hread := toMinorUnits_minorText minor scale
  rw [h, toMinorUnits_minorText] at hread
  exact ⟨(Except.ok.inj hread).symm, rfl⟩

end Plain

/-- **Exact conversion**, at each supported scale: an amount that is written is read back; a text is read without
rounding when it is a decimal text with nothing below the scale, and is then the number of the text; and a canonical
text belongs to one amount, of one scale. -/
theorem exact_conversion {scale : Int} (hscale : 0 ≤ scale ∧ scale ≤ DecimalAmount.MAX_SUPPORTED_SCALE) :
    (∀ minor : Int, ∃ texto, DecimalAmount.fromMinorUnits minor scale = .ok texto ∧
      DecimalAmount.toMinorUnits texto scale = .ok minor) ∧
    (∀ texto : Text, (∃ minor, DecimalAmount.parseDecimalExact texto scale = .ok minor) ↔
      ∃ negative entero fraccion, PlainDecimal (trim texto) negative entero fraccion ∧
        ∀ c ∈ fraccion.drop scale.toNat, c = '0') ∧
    (∀ (texto : Text) (minor : Int) negative entero fraccion,
      DecimalAmount.parseDecimalExact texto scale = .ok minor → PlainDecimal (trim texto) negative entero fraccion →
        (minor : ℚ) = plainValue negative entero fraccion * 10 ^ scale.toNat) ∧
    ∀ (minor minor' scale' : Int) (texto : Text), DecimalAmount.fromMinorUnits minor scale = .ok texto →
      DecimalAmount.fromMinorUnits minor' scale' = .ok texto → minor = minor' ∧ scale = scale' := by
  have hassert := assertScale_of_supported hscale
  have hparse : ∀ texto, DecimalAmount.parseDecimalExact texto scale = parseDecimalExact texto scale.toNat := fun texto => by
    rw [DecimalAmount.parseDecimalExact, hassert, ok_bind]
  have hwrite : ∀ minor, DecimalAmount.fromMinorUnits minor scale = .ok (minorText minor scale.toNat) := fun minor => by
    rw [DecimalAmount.fromMinorUnits, hassert, ok_bind]
    rfl
  refine ⟨fun minor => ⟨_, hwrite minor, ?_⟩, fun texto => ?_, fun texto minor negative entero fraccion h hplain => ?_,
    fun minor minor' scale' texto h h' => ?_⟩
  · rw [DecimalAmount.toMinorUnits, hassert, ok_bind, toMinorUnits_minorText]
  · simp only [hparse]
    exact parseDecimalExact_ok_iff_plain
  · exact eq_plainValue_of_parseDecimalExact (hparse texto ▸ h) hplain
  · obtain ⟨n, hn, h'⟩ := bind_eq_ok.mp h'
    obtain ⟨hscale', rfl⟩ := supported_of_assertScale hn
    rw [hwrite] at h
    obtain ⟨hminor, hsame⟩ := minorText_injective ((Except.ok.inj h).trans (pure_eq_ok.mp h').symm)
    exact ⟨hminor, by omega⟩

theorem exact_conversion_enteros :
    (∃ texto, DecimalAmount.fromMinorUnits (-7) 0 = .ok texto ∧ DecimalAmount.toMinorUnits texto 0 = .ok (-7)) ∧
      ∃ minor, DecimalAmount.parseDecimalExact " +.5000".toList 2 = .ok minor := by
  obtain ⟨hround, -⟩ := exact_conversion (show (0 : Int) ≤ 0 ∧ 0 ≤ DecimalAmount.MAX_SUPPORTED_SCALE by decide)
  obtain ⟨-, hread, -⟩ := exact_conversion (show (0 : Int) ≤ 2 ∧ 2 ≤ DecimalAmount.MAX_SUPPORTED_SCALE by decide)
  refine ⟨hround (-7), (hread _).mpr ⟨false, [], "5000".toList, ?_, by decide⟩⟩
  exact amountParts_eq_some_iff.mp (by decide)

end AtlasErp
