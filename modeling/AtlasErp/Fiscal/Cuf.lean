import AtlasErp.Fiscal.Montos

/-! # The code of a fiscal invoice

The CUF: the digits of the invoice with a check digit, in hexadecimal, and the control code of the day.

- `calcularCuf`: the code;
- `calcularCuf_eq_ok`: it ends with the control code, and its digits are 53 and the check digit. -/

namespace AtlasErp

open Lib

/-- What a code is computed from. `nit` and `numeroFactura`, numbers or texts, are what `String` makes of them. -/
structure CufInput where
  nit : Text
  fechaEmision : Text
  codigoSucursal : Int
  codigoModalidad : Int
  codigoEmision : Int
  tipoFacturaDocumento : Int
  codigoDocumentoSector : Int
  numeroFactura : Text
  codigoPuntoVenta : Int
  codigoControl : Text
  deriving DecidableEq

structure CufInputError where
  campo : String
  deriving DecidableEq

def CufInputError.message (e : CufInputError) : String :=
  "No se puede calcular el CUF: el campo " ++ e.campo ++ " no tiene la forma que exige el SIN."

/-- The sum of the check digit, from the last digit on. -/
def sumaModulo11 : Nat → Text → Nat
  | _, [] => 0
  | mult, c :: cs => mult * Decimal.digitValue c + sumaModulo11 (if mult = 9 then 2 else mult + 1) cs

def modulo11 (cadena : Text) : Text :=
  let digito := sumaModulo11 2 cadena.reverse % 11
  if digito = 10 then ['1'] else if digito = 11 then ['0'] else Nat.toDigits 10 digito

/-- The digits of `yyyy-MM-ddTHH:mm:ss.SSS`. -/
def fechaParaCuf (fechaEmision : Text) : Except CufInputError Text :=
  match fechaEmision with
  | [y₁, y₂, y₃, y₄, d₁, m₁, m₂, d₂, a₁, a₂, t, h₁, h₂, p₁, n₁, n₂, p₂, s₁, s₂, punto, f₁, f₂, f₃] =>
    let digitos := [y₁, y₂, y₃, y₄, m₁, m₂, a₁, a₂, h₁, h₂, n₁, n₂, s₁, s₂, f₁, f₂, f₃]
    if [d₁, d₂, t, p₁, p₂, punto] = ['-', '-', 'T', ':', ':', '.'] ∧ Decimal.AllDigits digitos then .ok digitos
    else .error ⟨"fechaEmision"⟩
  | _ => .error ⟨"fechaEmision"⟩

/-- Digits with zeros on the left. -/
def relleno (campo : String) (valor : Text) (ancho : Nat) : Except CufInputError Text :=
  let texto := trim valor
  if texto = [] ∨ ¬Decimal.AllDigits texto ∨ ancho < texto.length then .error ⟨campo⟩
  else .ok (texto.leftpad ancho '0')

def isHexDigit (c : Char) : Bool := c.isDigit || ('A' ≤ c && c ≤ 'F') || ('a' ≤ c && c ≤ 'f')

/-- The digits of the code, before the check digit. -/
def cadenaCuf (input : CufInput) : Except CufInputError Text := do
  let nit ← relleno "nit" input.nit 13
  let fecha ← fechaParaCuf input.fechaEmision
  let sucursal ← relleno "codigoSucursal" (decimalText input.codigoSucursal) 4
  let modalidad ← relleno "codigoModalidad" (decimalText input.codigoModalidad) 1
  let emision ← relleno "codigoEmision" (decimalText input.codigoEmision) 1
  let tipo ← relleno "tipoFacturaDocumento" (decimalText input.tipoFacturaDocumento) 1
  let sector ← relleno "codigoDocumentoSector" (decimalText input.codigoDocumentoSector) 2
  let numero ← relleno "numeroFactura" input.numeroFactura 10
  let puntoVenta ← relleno "codigoPuntoVenta" (decimalText input.codigoPuntoVenta) 4
  return nit ++ fecha ++ sucursal ++ modalidad ++ emision ++ tipo ++ sector ++ numero ++ puntoVenta

/-- `BigInt(digits).toString(16).toUpperCase()`. -/
def hexadecimal (digitos : Text) : Text := (Nat.toDigits 16 (Decimal.value digitos)).map Char.toUpper

def calcularCuf (input : CufInput) : Except CufInputError Text := do
  failIf (input.codigoControl = [] ∨ ¬input.codigoControl.all isHexDigit) ⟨"codigoControl"⟩
  let cadena ← cadenaCuf input
  return hexadecimal (cadena ++ modulo11 cadena) ++ input.codigoControl

section Lemmas

theorem relleno_eq_ok {campo : String} {valor texto : Text} {ancho : Nat} (h : relleno campo valor ancho = .ok texto) :
    texto.length = ancho ∧ Decimal.AllDigits texto := by
  unfold relleno at h
  dsimp only at h
  split at h
  · cases h
  · rename_i hform
    obtain rfl := Except.ok.inj h
    obtain ⟨-, hdigits, hlength⟩ : _ ∧ Decimal.AllDigits (trim valor) ∧ (trim valor).length ≤ ancho := by
      simpa only [not_or, not_not, not_lt] using hform
    refine ⟨?_, fun c hc => ?_⟩
    · rw [List.length_leftpad]
      exact Nat.max_eq_left hlength
    · rcases List.mem_append.mp hc with hc | hc
      · rw [(List.mem_replicate.mp hc).2]
        rfl
      · exact hdigits c hc

theorem fechaParaCuf_eq_ok {fechaEmision digitos : Text} (h : fechaParaCuf fechaEmision = .ok digitos) :
    digitos.length = 17 ∧ Decimal.AllDigits digitos := by
  unfold fechaParaCuf at h
  split at h
  · dsimp only at h
    split at h
    · rename_i hform
      obtain rfl := Except.ok.inj h
      exact ⟨rfl, hform.2⟩
    · cases h
  · cases h

/-- **The digits** of an accepted code are 53. -/
theorem cadenaCuf_eq_ok {input : CufInput} {cadena : Text} (h : cadenaCuf input = .ok cadena) :
    cadena.length = 53 ∧ Decimal.AllDigits cadena := by
  obtain ⟨nit, hnit, h⟩ := bind_eq_ok.mp h
  obtain ⟨fecha, hfecha, h⟩ := bind_eq_ok.mp h
  obtain ⟨sucursal, hsucursal, h⟩ := bind_eq_ok.mp h
  obtain ⟨modalidad, hmodalidad, h⟩ := bind_eq_ok.mp h
  obtain ⟨emision, hemision, h⟩ := bind_eq_ok.mp h
  obtain ⟨tipo, htipo, h⟩ := bind_eq_ok.mp h
  obtain ⟨sector, hsector, h⟩ := bind_eq_ok.mp h
  obtain ⟨numero, hnumero, h⟩ := bind_eq_ok.mp h
  obtain ⟨puntoVenta, hpuntoVenta, h⟩ := bind_eq_ok.mp h
  obtain rfl := pure_eq_ok.mp h
  have hdigits : ∀ {xs ys : Text}, Decimal.AllDigits xs → Decimal.AllDigits ys → Decimal.AllDigits (xs ++ ys) :=
    fun hxs hys c hc => (List.mem_append.mp hc).elim (hxs c) (hys c)
  constructor
  · simp only [List.length_append, relleno_eq_ok hnit, fechaParaCuf_eq_ok hfecha, relleno_eq_ok hsucursal,
      relleno_eq_ok hmodalidad, relleno_eq_ok hemision, relleno_eq_ok htipo, relleno_eq_ok hsector,
      relleno_eq_ok hnumero, relleno_eq_ok hpuntoVenta]
  · refine hdigits (hdigits (hdigits (hdigits (hdigits (hdigits (hdigits (hdigits ?_ ?_) ?_) ?_) ?_) ?_) ?_) ?_) ?_
    · exact (relleno_eq_ok hnit).2
    · exact (fechaParaCuf_eq_ok hfecha).2
    · exact (relleno_eq_ok hsucursal).2
    · exact (relleno_eq_ok hmodalidad).2
    · exact (relleno_eq_ok hemision).2
    · exact (relleno_eq_ok htipo).2
    · exact (relleno_eq_ok hsector).2
    · exact (relleno_eq_ok hnumero).2
    · exact (relleno_eq_ok hpuntoVenta).2

/-- **An accepted code**: its digits in hexadecimal, and the control code of the day. -/
theorem calcularCuf_eq_ok {input : CufInput} {cuf : Text} (h : calcularCuf input = .ok cuf) :
    ∃ cadena, cadenaCuf input = .ok cadena ∧ cadena.length = 53 ∧ Decimal.AllDigits cadena ∧
      cuf = hexadecimal (cadena ++ modulo11 cadena) ++ input.codigoControl := by
  obtain ⟨-, h⟩ := failIf_bind_eq_ok.mp h
  obtain ⟨cadena, hcadena, h⟩ := bind_eq_ok.mp h
  obtain ⟨hlength, hdigits⟩ := cadenaCuf_eq_ok hcadena
  exact ⟨cadena, hcadena, hlength, hdigits, (pure_eq_ok.mp h).symm⟩

/-- A vector of the SIN. -/
example : calcularCuf ⟨"123456789".toList, "2019-01-13T16:37:21.231".toList, 0, 1, 1, 1, 1, ['1'], 0,
    "A19E23EF34124CD".toList⟩ = .ok "8727F63A15F8976591FDDE5B387C5D015A29E06A1A19E23EF34124CD".toList := by
  decide

end Lemmas

end AtlasErp
