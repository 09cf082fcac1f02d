import AtlasErp.Common.Basics
import AtlasErp.Lib.Decimal
import AtlasErp.Money.DecimalAmount

/-! # The amounts of a fiscal invoice

Amounts are read from decimal texts without rounding, and written as decimal texts.

- `toMinorUnits`, `parseDecimalExact`: how a text is read;
- `toMinorUnits_minorText`: what is written is read back;
- `calcularTotales`: the formulas of the SIN for sector 1;
- `calcularTotales_eq_ok`: what accepted lines satisfy. -/

namespace AtlasErp

open Lib

/-! ## Decimal texts -/

/-- `AMOUNT_PATTERN`: the sign, the digits of the integer and those of the fraction. -/
def amountParts (texto : Text) : Option (Bool × Text × Text) :=
  let negative : Bool := texto.head? = some '-'
  let unsigned := if texto.head? = some '-' ∨ texto.head? = some '+' then texto.tail else texto
  let entero := unsigned.takeWhile Char.isDigit
  match unsigned.dropWhile Char.isDigit with
  | [] => if entero = [] then none else some (negative, entero, [])
  | c :: fraccion =>
    if c = '.' ∧ Decimal.AllDigits fraccion ∧ (entero ≠ [] ∨ fraccion ≠ []) then some (negative, entero, fraccion)
    else none

/-- What the arithmetic of fiscal amounts refuses. -/
inductive MontosError where
  /-- `MontosFiscalesError`. -/
  | fiscal (code message : String)
  /-- `InvalidDecimalAmountError`. -/
  | invalidDecimal (texto : Text)
  /-- `AmountOutOfRangeError`. -/
  | outOfRange (texto : Text) (reason : String)
  | money (error : MoneyError)
  deriving DecidableEq

/-- A decimal text in minor units; the digits below the scale round half up in magnitude. -/
def toMinorUnits (value : Text) (scale : Nat) : Except MontosError Int :=
  let texto := trim value
  if texto = [] then .ok 0
  else
    match amountParts texto with
    | none => .error (.invalidDecimal texto)
    | some (negative, entero, fraccion) =>
      let padded := fraccion ++ List.replicate (scale + 1 - fraccion.length) '0'
      let kept : Int := Decimal.value (entero ++ padded.take scale)
      let minor := if padded[scale]?.any ('5' ≤ ·) then kept + 1 else kept
      .ok (if negative then -minor else minor)

/-- The same without rounding: more decimals than the scale are an error. -/
def parseDecimalExact (value : Text) (scale : Nat) : Except MontosError Int :=
  let texto := trim value
  match amountParts texto with
  | none => .error (.invalidDecimal texto)
  | some (_, _, fraccion) =>
    if (fraccion.drop scale).any (· ≠ '0') then
      .error (.outOfRange value ("más de " ++ toString scale ++ " decimales"))
    else toMinorUnits texto scale

/-- `fromMinorUnits`, at any scale. -/
def minorText (minor : Int) (scale : Nat) : Text :=
  let digits := Decimal.pad (scale + 1) minor.natAbs
  let entero := digits.take (digits.length - scale)
  let fraccion := if scale = 0 then [] else digits.drop (digits.length - scale)
  (if minor < 0 then ['-'] else []) ++ entero ++ (if fraccion = [] then [] else '.' :: fraccion)

example : parseDecimalExact " -12.50".toList 2 = .ok (-1250) ∧ minorText (-1250) 2 = "-12.50".toList := by
  decide

section RoundTrip

theorem isWhiteSpace_of_isDigit {c : Char} (h : c.isDigit = true) : isWhiteSpace c = false := by
  have hrange := (Decimal.isDigit_iff c).mp h
  simp only [isWhiteSpace, List.mem_cons, List.not_mem_nil, or_false, decide_eq_false_iff_not]
  omega

theorem trim_of_forall {texto : Text} (h : ∀ c ∈ texto, isWhiteSpace c = false) : trim texto = texto := by
  have hdrop : texto.dropWhile isWhiteSpace = texto :=
    List.dropWhile_eq_self_iff.mpr fun hpos => by rw [h _ (List.getElem_mem hpos)]; exact Bool.false_ne_true
  rw [trim, hdrop, List.rdropWhile_eq_self_iff]
  intro hne
  rw [h _ (List.getLast_mem hne)]
  exact Bool.false_ne_true

theorem takeWhile_isDigit {entero fraccion : Text} (h : Decimal.AllDigits entero) :
    (entero ++ '.' :: fraccion).takeWhile Char.isDigit = entero := by
  rw [List.takeWhile_append_of_pos h]
  simp [show Char.isDigit '.' = false from rfl]

theorem dropWhile_isDigit {entero fraccion : Text} (h : Decimal.AllDigits entero) :
    (entero ++ '.' :: fraccion).dropWhile Char.isDigit = '.' :: fraccion := by
  rw [List.dropWhile_append_of_pos h]
  simp [show Char.isDigit '.' = false from rfl]

/-- A decimal text: a sign or none, digits, and a point with digits or none. -/
structure PlainDecimal (texto : Text) (negative : Bool) (entero fraccion : Text) : Prop where
  integer : Decimal.AllDigits entero
  fraction : Decimal.AllDigits fraccion
  digits : entero ≠ [] ∨ fraccion ≠ []
  spelled : ∃ signo ∈ [[], ['+'], ['-']], (negative = true ↔ signo = ['-']) ∧
    (texto = signo ++ (entero ++ '.' :: fraccion) ∨ fraccion = [] ∧ texto = signo ++ entero)

section Parts

variable {texto unsigned entero fraccion : Text} {negative : Bool}

theorem not_isDigit_of_sign {c : Char} (h : c.isDigit = true) : c ≠ '-' ∧ c ≠ '+' := by
  constructor <;> rintro rfl <;> exact absurd h (by decide)

/-- The parts of what follows the sign. -/
def unsignedParts (negative : Bool) (unsigned : Text) : Option (Bool × Text × Text) :=
  match unsigned.dropWhile Char.isDigit with
  | [] => if unsigned.takeWhile Char.isDigit = [] then none else some (negative, unsigned.takeWhile Char.isDigit, [])
  | c :: fraccion =>
    if c = '.' ∧ Decimal.AllDigits fraccion ∧ (unsigned.takeWhile Char.isDigit ≠ [] ∨ fraccion ≠ []) then
      some (negative, unsigned.takeWhile Char.isDigit, fraccion)
    else none

theorem amountParts_minus (unsigned : Text) : amountParts ('-' :: unsigned) = unsignedParts true unsigned := rfl

theorem amountParts_plus (unsigned : Text) : amountParts ('+' :: unsigned) = unsignedParts false unsigned := rfl

theorem amountParts_unsigned (hminus : texto.head? ≠ some '-') (hplus : texto.head? ≠ some '+') :
    amountParts texto = unsignedParts false texto := by
  unfold amountParts unsignedParts
  simp only [if_neg (not_or.mpr ⟨hminus, hplus⟩), decide_eq_false hminus]

/-- What follows the sign has its parts on the two sides of the point, if there is one. -/
theorem unsignedParts_eq_some_iff {negative' : Bool} :
    unsignedParts negative' unsigned = some (negative, entero, fraccion) ↔
      negative' = negative ∧ Decimal.AllDigits entero ∧ Decimal.AllDigits fraccion ∧ (entero ≠ [] ∨ fraccion ≠ []) ∧
        (unsigned = entero ++ '.' :: fraccion ∨ fraccion = [] ∧ unsigned = entero) := by
  constructor
  · intro h
    have hsplit := List.takeWhile_append_dropWhile (p := Char.isDigit) (l := unsigned)
    have hdigits : Decimal.AllDigits (unsigned.takeWhile Char.isDigit) := fun c hc => List.mem_takeWhile_imp hc
    unfold unsignedParts at h
    split at h
    next hdrop =>
      rw [hdrop, List.append_nil] at hsplit
      split at h
      · cases h
      next hne =>
        cases h
        exact ⟨rfl, hdigits, fun c hc => absurd hc List.not_mem_nil, .inl hne, .inr ⟨rfl, hsplit.symm⟩⟩
    next c resto hdrop =>
      split at h
      next hparts =>
        obtain ⟨rfl, hresto, hsome⟩ := hparts
        cases h
        exact ⟨rfl, hdigits, hresto, hsome, .inl (by rw [← hdrop, hsplit])⟩
      next => cases h
  · rintro ⟨rfl, hentero, hfraccion, hsome, hspelled⟩
    unfold unsignedParts
    rcases hspelled with rfl | ⟨rfl, rfl⟩
    · rw [takeWhile_isDigit hentero, dropWhile_isDigit hentero]
      exact if_pos ⟨rfl, hfraccion, hsome⟩
    · rw [List.takeWhile_eq_self_iff.mpr hentero, List.dropWhile_eq_nil_iff.mpr hentero]
      exact if_neg (hsome.resolve_right (not_not.mpr rfl))

/-- **The pattern** accepts the decimal texts, and takes them apart. -/
theorem amountParts_eq_some_iff :
    amountParts texto = some (negative, entero, fraccion) ↔ PlainDecimal texto negative entero fraccion := by
  constructor
  · intro h
    have hsigno : ∃ signo ∈ [[], ['+'], ['-']], ∃ unsigned, texto = signo ++ unsigned ∧
        unsignedParts (decide (signo = ['-'])) unsigned = some (negative, entero, fraccion) := by
      by_cases hminus : texto.head? = some '-'
      · obtain ⟨unsigned, rfl⟩ := List.head?_eq_some_iff.mp hminus
        exact ⟨['-'], by decide, unsigned, rfl, amountParts_minus unsigned ▸ h⟩
      · by_cases hplus : texto.head? = some '+'
        · obtain ⟨unsigned, rfl⟩ := List.head?_eq_some_iff.mp hplus
          exact ⟨['+'], by decide, unsigned, rfl, amountParts_plus unsigned ▸ h⟩
        · exact ⟨[], by decide, texto, rfl, amountParts_unsigned hminus hplus ▸ h⟩
    obtain ⟨signo, hmem, unsigned, rfl, hparts⟩ := hsigno
    obtain ⟨rfl, hentero, hfraccion, hsome, hspelled⟩ := unsignedParts_eq_some_iff.mp hparts
    refine ⟨hentero, hfraccion, hsome, signo, hmem, decide_eq_true_iff, ?_⟩
    rcases hspelled with rfl | ⟨rfl, rfl⟩
    · exact .inl rfl
    · exact .inr ⟨rfl, rfl⟩
  · rintro ⟨hentero, hfraccion, hsome, signo, hmem, hnegative, hspelled⟩
    obtain ⟨unsigned, rfl, hunsigned⟩ : ∃ unsigned, texto = signo ++ unsigned ∧
        (unsigned = entero ++ '.' :: fraccion ∨ fraccion = [] ∧ unsigned = entero) := by
      rcases hspelled with h | ⟨hnil, h⟩
      · exact ⟨_, h, .inl rfl⟩
      · exact ⟨_, h, .inr ⟨hnil, rfl⟩⟩
    have hparts : ∀ negative', negative' = negative →
        unsignedParts negative' unsigned = some (negative, entero, fraccion) := fun negative' h =>
      unsignedParts_eq_some_iff.mpr ⟨h, hentero, hfraccion, hsome, hunsigned⟩
    simp only [List.mem_cons, List.not_mem_nil, or_false] at hmem
    rcases hmem with rfl | rfl | rfl
    · -- a digit or the point comes first
      have hfirst : ∀ c ∈ unsigned.head?, c.isDigit = true ∨ c = '.' := by
        intro c hc
        cases entero with
        | nil =>
          rcases hunsigned with rfl | ⟨rfl, rfl⟩
          · exact .inr (Option.some.inj hc).symm
          · cases hc
        | cons d resto =>
          have hd : c = d := by rcases hunsigned with rfl | ⟨-, rfl⟩ <;> exact (Option.some.inj hc).symm
          exact .inl (hd ▸ hentero d List.mem_cons_self)
      have hno : ∀ c ∈ unsigned.head?, c ≠ '-' ∧ c ≠ '+' := by
        intro c hc
        rcases hfirst c hc with hdigit | rfl
        · exact not_isDigit_of_sign hdigit
        · decide
      rw [List.nil_append, amountParts_unsigned (fun h => (hno _ h).1 rfl) fun h => (hno _ h).2 rfl]
      refine hparts false ?_
      cases negative with
      | false => rfl
      | true => exact absurd (hnegative.mp rfl) (by decide)
    · refine (amountParts_plus unsigned).trans (hparts false ?_)
      cases negative with
      | false => rfl
      | true => exact absurd (hnegative.mp rfl) (by decide)
    · exact (amountParts_minus unsigned).trans (hparts true (hnegative.mpr rfl).symm)

/-- What holds of the digits, the point and the signs holds of every character of a decimal text. -/
theorem PlainDecimal.forall_mem (h : PlainDecimal texto negative entero fraccion) {P : Char → Prop}
    (hdigit : ∀ c, c.isDigit = true → P c) (hpoint : P '.') (hplus : P '+') (hminus : P '-') : ∀ c ∈ texto, P c := by
  obtain ⟨hentero, hfraccion, -, signo, hmem, -, hspelled⟩ := h
  have hsigno : ∀ c ∈ signo, P c := by
    simp only [List.mem_cons, List.not_mem_nil, or_false] at hmem
    rcases hmem with rfl | rfl | rfl <;> simp [hplus, hminus]
  have hdigits : ∀ c ∈ entero, P c := fun c hc => hdigit c (hentero c hc)
  intro c hc
  rcases hspelled with rfl | ⟨-, rfl⟩
  · rcases List.mem_append.mp hc with hc | hc
    · exact hsigno c hc
    · rcases List.mem_append.mp hc with hc | hc
      · exact hdigits c hc
      · rcases List.mem_cons.mp hc with rfl | hc
        · exact hpoint
        · exact hdigit c (hfraccion c hc)
  · rcases List.mem_append.mp hc with hc | hc
    · exact hsigno c hc
    · exact hdigits c hc

theorem PlainDecimal.forall_not_isWhiteSpace (h : PlainDecimal texto negative entero fraccion) :
    ∀ c ∈ texto, isWhiteSpace c = false :=
  h.forall_mem (fun _ => isWhiteSpace_of_isDigit) (by decide) (by decide) (by decide)

theorem PlainDecimal.ne_nil (h : PlainDecimal texto negative entero fraccion) : texto ≠ [] := by
  rintro rfl
  cases amountParts_eq_some_iff.mpr h

end Parts

/-- The parts of a text that is written with a sign, digits, a point and digits. -/
theorem amountParts_eq {negative : Bool} {entero fraccion : Text} (hentero : Decimal.AllDigits entero)
    (hfraccion : Decimal.AllDigits fraccion) (hne : entero ≠ []) :
    amountParts ((if negative then ['-'] else []) ++ entero ++ '.' :: fraccion) = some (negative, entero, fraccion) :=
  amountParts_eq_some_iff.mpr ⟨hentero, hfraccion, .inl hne, if negative then ['-'] else [], by cases negative <;> decide,
    by cases negative <;> decide, .inl (List.append_assoc ..)⟩

theorem minorText_eq (minor : Int) {scale : Nat} (hscale : 0 < scale) :
    ∃ entero fraccion, minorText minor scale = (if minor < 0 then ['-'] else []) ++ entero ++ '.' :: fraccion ∧
      entero ≠ [] ∧ fraccion.length = scale ∧ Decimal.AllDigits entero ∧ Decimal.AllDigits fraccion ∧
      Decimal.value (entero ++ fraccion) = minor.natAbs := by
  have hdigits := Decimal.allDigits_pad (scale + 1) minor.natAbs
  have hlength : scale + 1 ≤ (Decimal.pad (scale + 1) minor.natAbs).length := by
    simp only [Decimal.pad, List.leftpad, List.length_append, List.length_replicate]
    omega
  generalize hpad : Decimal.pad (scale + 1) minor.natAbs = digits at hdigits hlength
  have hfraccion : (digits.drop (digits.length - scale)).length = scale := by
    rw [List.length_drop]
    omega
  have hne : digits.drop (digits.length - scale) ≠ [] := by
    intro hnil
    rw [hnil] at hfraccion
    exact hscale.ne hfraccion
  refine ⟨digits.take (digits.length - scale), digits.drop (digits.length - scale), ?_, ?_, hfraccion,
    fun c hc => hdigits c (List.mem_of_mem_take hc), fun c hc => hdigits c (List.mem_of_mem_drop hc), ?_⟩
  · simp only [minorText, hpad, if_neg hscale.ne', if_neg hne]
  · intro hnil
    have := congrArg List.length hnil
    rw [List.length_take, List.length_nil] at this
    omega
  · rw [List.take_append_drop, ← hpad, Decimal.value_pad]

/-- Minor units are written as a decimal text with as many decimals as the scale. -/
theorem plainDecimal_minorText (minor : Int) (scale : Nat) :
    ∃ entero fraccion, PlainDecimal (minorText minor scale) (decide (minor < 0)) entero fraccion ∧
      fraccion.length = scale ∧ Decimal.value (entero ++ fraccion) = minor.natAbs := by
  rcases Nat.eq_zero_or_pos scale with rfl | hscale
  · refine ⟨Decimal.pad 1 minor.natAbs, [], ⟨Decimal.allDigits_pad _ _, fun c hc => absurd hc List.not_mem_nil,
      .inl (Decimal.pad_ne_nil _ _), if minor < 0 then ['-'] else [], ?_, ?_, .inr ⟨rfl, ?_⟩⟩, rfl, ?_⟩
    · split <;> decide
    · split <;> simp [*]
    · simp [minorText]
    · rw [List.append_nil, Decimal.value_pad]
  · obtain ⟨entero, fraccion, htext, hentero, hlength, hdigits, hdigits', hvalue⟩ := minorText_eq minor hscale
    refine ⟨entero, fraccion, ⟨hdigits, hdigits', .inl hentero, if minor < 0 then ['-'] else [], ?_, ?_, .inl ?_⟩,
      hlength, hvalue⟩
    · split <;> decide
    · split <;> simp [*]
    · rw [htext, List.append_assoc]

theorem trim_minorText (minor : Int) (scale : Nat) : trim (minorText minor scale) = minorText minor scale := by
  obtain ⟨_, _, hplain, -⟩ := plainDecimal_minorText minor scale
  exact trim_of_forall hplain.forall_not_isWhiteSpace

/-- The parts of minor units that are written. -/
theorem amountParts_minorText (minor : Int) (scale : Nat) :
    ∃ entero fraccion, amountParts (minorText minor scale) = some (decide (minor < 0), entero, fraccion) ∧
      fraccion.length = scale ∧ Decimal.value (entero ++ fraccion) = minor.natAbs := by
  obtain ⟨entero, fraccion, hplain, hlength, hvalue⟩ := plainDecimal_minorText minor scale
  exact ⟨entero, fraccion, amountParts_eq_some_iff.mpr hplain, hlength, hvalue⟩

/-- **Round trip**: minor units that are written are read back. -/
theorem toMinorUnits_minorText (minor : Int) (scale : Nat) : toMinorUnits (minorText minor scale) scale = .ok minor := by
  obtain ⟨entero, fraccion, hplain, hlength, hvalue⟩ := plainDecimal_minorText minor scale
  have hparts := amountParts_eq_some_iff.mpr hplain
  have hkept : (fraccion ++ List.replicate (scale + 1 - fraccion.length) '0').take scale = fraccion := by
    rw [← hlength, List.take_left]
  have hround : (fraccion ++ List.replicate (scale + 1 - fraccion.length) '0')[scale]? = some '0' := by
    rw [List.getElem?_append_right hlength.le, hlength]
    simp
  have hround' : ('5' ≤ '0' : Bool) = false := by decide
  simp only [toMinorUnits, trim_minorText minor scale, if_neg hplain.ne_nil, hparts, hkept, hround, hvalue,
    Option.any_some, hround', Bool.false_eq_true, if_false, decide_eq_true_eq]
  split <;> congr 1 <;> omega

/-- Nothing is rounded when what was written is read. -/
theorem parseDecimalExact_minorText (minor : Int) (scale : Nat) :
    parseDecimalExact (minorText minor scale) scale = .ok minor := by
  obtain ⟨entero, fraccion, hparts, hlength, -⟩ := amountParts_minorText minor scale
  have hdrop : fraccion.drop scale = [] := List.drop_eq_nil_of_le hlength.le
  simp only [parseDecimalExact, trim_minorText minor scale, hparts, hdrop, List.any_nil, Bool.false_eq_true, if_false,
    toMinorUnits_minorText minor scale]

end RoundTrip

/-! ## The formulas -/

/-- Decimals of a quantity. -/
def ESCALA_CANTIDAD : Nat := 5

structure LineaFiscalEntrada where
  cantidad : Text
  precioUnitario : Text
  montoDescuento : Option Text
  deriving DecidableEq

structure LineaFiscal where
  cantidad : Text
  precioUnitario : Text
  montoDescuento : Text
  subTotal : Text
  deriving DecidableEq

structure TotalesFiscales where
  lineas : List LineaFiscal
  descuentoAdicional : Text
  montoTotal : Text
  montoTotalSujetoIva : Text
  montoTotalMoneda : Text
  montoTotalMinor : Int
  deriving DecidableEq

def cantidadMinor (valor : Text) : Except MontosError Int := parseDecimalExact valor ESCALA_CANTIDAD

/-- A quantity without the zeros at its end. -/
def formatoCantidad (minor : Int) : Text :=
  let texto := minorText minor ESCALA_CANTIDAD
  let corto := texto.rdropWhile (· = '0')
  let sinPunto := if corto.getLast? = some '.' then corto.dropLast else corto
  if sinPunto = [] then ['0'] else sinPunto

example : formatoCantidad 1050000 = "10.5".toList ∧ formatoCantidad 1000000 = "10".toList := by decide

/-- A line: its subtotal in minor units, and its texts. -/
def lineaFiscal (indice : Nat) (entrada : LineaFiscalEntrada) : Except MontosError (Int × LineaFiscal) := do
  let cantidad ← cantidadMinor entrada.cantidad
  let precio ← parseDecimalExact entrada.precioUnitario 2
  let descuento ← parseDecimalExact (entrada.montoDescuento.getD ['0']) 2
  let bruto ← (divideRounded (cantidad * precio) (10 ^ ESCALA_CANTIDAD) .halfUp).mapError .money
  let subTotal := bruto - descuento
  failIf (cantidad ≤ 0 ∨ precio ≤ 0 ∨ descuento < 0 ∨ subTotal ≤ 0) (.fiscal "FISCAL_LINE_AMOUNT_NOT_POSITIVE"
    ("La línea " ++ toString (indice + 1) ++
      " tiene cantidad, precio o subtotal en cero o negativo; el SIN no la acepta."))
  return (subTotal, ⟨formatoCantidad cantidad, minorText precio 2, minorText descuento 2, minorText subTotal 2⟩)

def calcularTotales (entradas : List LineaFiscalEntrada) (descuentoAdicional tipoCambio : Option Text) :
    Except MontosError TotalesFiscales := do
  failIf (entradas.length = 0) (.fiscal "FISCAL_INVOICE_WITHOUT_LINES" "La factura no tiene líneas.")
  let lineas ← entradas.zipIdx.mapM fun entrada => lineaFiscal entrada.2 entrada.1
  let descuento ← parseDecimalExact (descuentoAdicional.getD ['0']) 2
  let total := sumMinor (lineas.map (·.1)) - descuento
  failIf (descuento < 0 ∨ total ≤ 0) (.fiscal "FISCAL_TOTAL_NOT_POSITIVE"
    "El total de la factura es cero o negativo; el SIN no la acepta.")
  let cambio ← parseDecimalExact (tipoCambio.getD ['1']) 5
  let totalMoneda ← (divideRounded (total * 10 ^ 5) cambio .halfUp).mapError .money
  return ⟨lineas.map (·.2), minorText descuento 2, minorText total 2, minorText total 2, minorText totalMoneda 2, total⟩

/-! ## What is accepted -/

section Accepted

/-- An accepted line has a positive subtotal, and its text is the one written. -/
theorem lineaFiscal_eq_ok {indice : Nat} {entrada : LineaFiscalEntrada} {subTotal : Int} {linea : LineaFiscal}
    (h : lineaFiscal indice entrada = .ok (subTotal, linea)) :
    0 < subTotal ∧ linea.subTotal = minorText subTotal 2 := by
  obtain ⟨cantidad, -, h⟩ := bind_eq_ok.mp h
  obtain ⟨precio, -, h⟩ := bind_eq_ok.mp h
  obtain ⟨descuento, -, h⟩ := bind_eq_ok.mp h
  obtain ⟨bruto, -, h⟩ := bind_eq_ok.mp h
  obtain ⟨hpositive, h⟩ := failIf_bind_eq_ok.mp h
  obtain ⟨rfl, rfl⟩ := Prod.mk.inj (pure_eq_ok.mp h)
  exact ⟨by omega, rfl⟩

/-- **Accepted lines**: there is one text for each, the total is positive, and its texts are the total. -/
theorem calcularTotales_eq_ok {entradas : List LineaFiscalEntrada} {descuentoAdicional tipoCambio : Option Text}
    {totales : TotalesFiscales} (h : calcularTotales entradas descuentoAdicional tipoCambio = .ok totales) :
    entradas ≠ [] ∧ totales.lineas.length = entradas.length ∧ 0 < totales.montoTotalMinor ∧
      totales.montoTotal = minorText totales.montoTotalMinor 2 := by
  obtain ⟨hlines, h⟩ := failIf_bind_eq_ok.mp h
  obtain ⟨lineas, hlineas, h⟩ := bind_eq_ok.mp h
  obtain ⟨descuento, -, h⟩ := bind_eq_ok.mp h
  obtain ⟨htotal, h⟩ := failIf_bind_eq_ok.mp h
  obtain ⟨cambio, -, h⟩ := bind_eq_ok.mp h
  obtain ⟨totalMoneda, -, h⟩ := bind_eq_ok.mp h
  obtain rfl := pure_eq_ok.mp h
  have hlength := (mapM_eq_ok.mp hlineas).length_eq
  rw [List.length_zipIdx] at hlength
  refine ⟨fun hnil => hlines (by rw [hnil]; rfl), ?_, ?_, rfl⟩
  · rw [List.length_map, hlength]
  · show 0 < sumMinor (lineas.map (·.1)) - descuento
    omega

/-- **A line of one unit** at a positive price is accepted, and its subtotal is the price. -/
theorem lineaFiscal_of_pos (indice : Nat) {minor : Int} (hpos : 0 < minor) :
    lineaFiscal indice ⟨['1'], minorText minor 2, some ['0']⟩ =
      .ok (minor, ⟨['1'], minorText minor 2, minorText 0 2, minorText minor 2⟩) := by
  have hcantidad : cantidadMinor ['1'] = .ok 100000 := by decide
  have hdescuento : parseDecimalExact ((some ['0']).getD ['0']) 2 = .ok 0 := by decide
  have hformato : formatoCantidad 100000 = ['1'] := by decide
  have hbruto : divideRounded (100000 * minor) (10 ^ ESCALA_CANTIDAD) .halfUp = .ok minor := by
    have hnegative : ¬100000 * minor < 0 := by omega
    have hscale : (10 ^ ESCALA_CANTIDAD : Int) = 100000 := by decide
    have hquotient : 100000 * minor / 100000 = minor := Int.mul_ediv_cancel_left minor (by decide)
    have hrest : 100000 * minor % 100000 = 0 := Int.mul_emod_right 100000 minor
    simp only [divideRounded, if_neg hnegative, hscale, hquotient, hrest]
    rfl
  have hpositive : ¬((100000 : Int) ≤ 0 ∨ minor ≤ 0 ∨ (0 : Int) < 0 ∨ minor - 0 ≤ 0) := by omega
  simp only [lineaFiscal, hcantidad, parseDecimalExact_minorText minor 2, hdescuento, hbruto, ok_bind,
    Except.mapError, failIf_of_not hpositive, hformato]
  rw [sub_zero]
  rfl

theorem mapM_lineaFiscal_of_pos {minors : List Int} (hpos : ∀ minor ∈ minors, 0 < minor) (k : Nat) :
    ((minors.map fun minor => (⟨['1'], minorText minor 2, some ['0']⟩ : LineaFiscalEntrada)).zipIdx k).mapM
        (fun entrada => lineaFiscal entrada.2 entrada.1) =
      .ok (minors.map fun minor => (minor, ⟨['1'], minorText minor 2, minorText 0 2, minorText minor 2⟩)) := by
  induction minors generalizing k with
  | nil => rfl
  | cons minor minors ih =>
    rw [List.map_cons, List.zipIdx_cons, List.mapM_cons, lineaFiscal_of_pos k (hpos minor List.mem_cons_self), ok_bind,
      ih (fun m hm => hpos m (List.mem_cons_of_mem _ hm)) (k + 1)]
    rfl

/-- **Lines of one unit** at positive prices: the total is the sum of the prices. -/
theorem calcularTotales_of_pos {minors : List Int} (hne : minors ≠ []) (hpos : ∀ minor ∈ minors, 0 < minor) :
    ∃ totales, calcularTotales (minors.map fun minor => ⟨['1'], minorText minor 2, some ['0']⟩) none none = .ok totales ∧
      totales.montoTotalMinor = minors.sum ∧
      totales.lineas = minors.map fun minor => ⟨['1'], minorText minor 2, minorText 0 2, minorText minor 2⟩ := by
  have hlength : ¬(minors.map fun minor => (⟨['1'], minorText minor 2, some ['0']⟩ : LineaFiscalEntrada)).length = 0 := by
    rwa [List.length_map, List.length_eq_zero_iff]
  have hdescuento : parseDecimalExact ((none : Option Text).getD ['0']) 2 = .ok 0 := by decide
  have hcambio : parseDecimalExact ((none : Option Text).getD ['1']) 5 = .ok 100000 := by decide
  have hsum : 0 < minors.sum := List.sum_pos minors hpos hne
  have htotal : ¬((0 : Int) < 0 ∨ minors.sum - 0 ≤ 0) := by omega
  obtain ⟨totalMoneda, hmoneda⟩ : ∃ totalMoneda, divideRounded ((minors.sum - 0) * 10 ^ 5) 100000 .halfUp =
      .ok totalMoneda := ⟨_, by rw [divideRounded, failIf_of_not (by decide)]; rfl⟩
  have hfst : (minors.map fun minor =>
      (minor, (⟨['1'], minorText minor 2, minorText 0 2, minorText minor 2⟩ : LineaFiscal))).map (·.1) = minors := by
    rw [List.map_map]
    exact List.map_id minors
  refine ⟨⟨_, minorText 0 2, minorText minors.sum 2, minorText minors.sum 2, minorText totalMoneda 2, minors.sum⟩, ?_,
    rfl, rfl⟩
  simp only [calcularTotales, failIf_of_not hlength, ok_bind, mapM_lineaFiscal_of_pos hpos 0, hdescuento, hcambio,
    sumMinor_eq, hfst, failIf_of_not htotal, hmoneda, Except.mapError, List.map_map]
  rw [sub_zero]
  rfl

end Accepted

end AtlasErp
