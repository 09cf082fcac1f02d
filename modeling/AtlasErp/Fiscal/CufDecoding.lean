import AtlasErp.Fiscal.Cuf
import AtlasErp.Lib.Fields
import AtlasErp.Lib.Radix

/-! # The code of a fiscal invoice is decodable

The digits of a code are fields of fixed width, written in hexadecimal without leading zeros.

- `decodificarCuf`: the fields, the check digit and the control code of a code;
- `decodificarCuf_calcularCuf`: what was coded is decoded;
- `calcularCuf_decodificable`: so equal codes come from equal fields. -/

namespace AtlasErp

open Lib

/-- The fields of a code, in padded digits. -/
structure CamposCuf where
  nit : Text
  fechaEmision : Text
  codigoSucursal : Text
  codigoModalidad : Text
  codigoEmision : Text
  tipoFacturaDocumento : Text
  codigoDocumentoSector : Text
  numeroFactura : Text
  codigoPuntoVenta : Text
  deriving DecidableEq

/-- The fields and their check digit, in the order of the code. -/
def CamposCuf.partes (campos : CamposCuf) (digito : Text) : List Text :=
  [campos.nit, campos.fechaEmision, campos.codigoSucursal, campos.codigoModalidad, campos.codigoEmision,
    campos.tipoFacturaDocumento, campos.codigoDocumentoSector, campos.numeroFactura, campos.codigoPuntoVenta, digito]

def CamposCuf.cadena (campos : CamposCuf) : Text := (campos.partes []).flatten

/-- The padded digits of an input. -/
def CufInput.campos (input : CufInput) : CamposCuf where
  nit := (trim input.nit).leftpad 13 '0'
  fechaEmision := input.fechaEmision.filter Char.isDigit
  codigoSucursal := (trim (decimalText input.codigoSucursal)).leftpad 4 '0'
  codigoModalidad := (trim (decimalText input.codigoModalidad)).leftpad 1 '0'
  codigoEmision := (trim (decimalText input.codigoEmision)).leftpad 1 '0'
  tipoFacturaDocumento := (trim (decimalText input.tipoFacturaDocumento)).leftpad 1 '0'
  codigoDocumentoSector := (trim (decimalText input.codigoDocumentoSector)).leftpad 2 '0'
  numeroFactura := (trim input.numeroFactura).leftpad 10 '0'
  codigoPuntoVenta := (trim (decimalText input.codigoPuntoVenta)).leftpad 4 '0'

/-- What is read of a code. -/
structure CufDecodificado where
  campos : CamposCuf
  digito : Text
  codigoControl : Text
  deriving DecidableEq

def anchosCuf : List Nat := [13, 17, 4, 1, 1, 1, 2, 10, 4, 1]

/-- A code whose control code has so many characters: the number before it, in 54 digits, split at the fixed widths. -/
def decodificarCuf (largoControl : Nat) (cuf : Text) : Option CufDecodificado :=
  let corte := cuf.length - largoControl
  match splitWidths anchosCuf (Decimal.pad 54 (radixValue 16 (cuf.take corte))) with
  | [nit, fecha, sucursal, modalidad, emision, tipo, sector, numero, puntoVenta, digito] =>
    some ⟨⟨nit, fecha, sucursal, modalidad, emision, tipo, sector, numero, puntoVenta⟩, digito, cuf.drop corte⟩
  | _ => none

section Lemmas

variable {input : CufInput} {cadena cuf : Text}

/-- The check digit is one digit: a remainder of eleven is never eleven. -/
theorem exists_modulo11 (cadena : Text) : ∃ d < 10, modulo11 cadena = [d.digitChar] := by
  have hlt : sumaModulo11 2 cadena.reverse % 11 < 11 := Nat.mod_lt _ (by decide)
  rw [modulo11]
  generalize sumaModulo11 2 cadena.reverse % 11 = digito at hlt
  by_cases hten : digito = 10
  · exact ⟨1, by decide, if_pos hten⟩
  · have hdigito : digito < 10 := by omega
    refine ⟨digito, hdigito, ?_⟩
    rw [if_neg hten, if_neg (by omega), Nat.toDigits_of_lt_base hdigito]

theorem length_modulo11 (cadena : Text) : (modulo11 cadena).length = 1 := by
  obtain ⟨d, -, h⟩ := exists_modulo11 cadena
  rw [h]
  rfl

theorem allDigits_modulo11 (cadena : Text) : Decimal.AllDigits (modulo11 cadena) := by
  obtain ⟨d, hd, h⟩ := exists_modulo11 cadena
  rw [h, ← Nat.toDigits_of_lt_base hd]
  exact Decimal.allDigits_toDigits d

theorem relleno_texto {campo : String} {valor texto : Text} {ancho : Nat} (h : relleno campo valor ancho = .ok texto) :
    texto = (trim valor).leftpad ancho '0' := by
  unfold relleno at h
  dsimp only at h
  split at h
  · cases h
  · exact (Except.ok.inj h).symm

/-- The separators of a date are not digits. -/
theorem fechaParaCuf_texto {fechaEmision digitos : Text} (h : fechaParaCuf fechaEmision = .ok digitos) :
    digitos = fechaEmision.filter Char.isDigit := by
  unfold fechaParaCuf at h
  split at h
  · dsimp only at h
    split at h
    · rename_i hform
      obtain ⟨hseparadores, hdigitos⟩ := hform
      obtain rfl := Except.ok.inj h
      obtain ⟨rfl, rfl, rfl, rfl, rfl, rfl⟩ : _ ∧ _ ∧ _ ∧ _ ∧ _ ∧ _ := by
        simpa only [List.cons.injEq, and_true] using hseparadores
      simp only [Decimal.AllDigits, List.forall_mem_cons] at hdigitos
      simp [hdigitos]
    · cases h
  · cases h

/-- **The digits of a code** are its fields one after another, each of its width. -/
theorem cadenaCuf_campos (h : cadenaCuf input = .ok cadena) :
    cadena = input.campos.cadena ∧ ∀ digito : Text, digito.length = 1 →
      (input.campos.partes digito).map List.length = anchosCuf := by
  obtain ⟨nit, hnit, h⟩ := bind_eq_ok.mp h
  obtain ⟨fecha, hfecha, h⟩ := bind_eq_ok.mp h
  obtain ⟨sucursal, hsucursal, h⟩ := bind_eq_ok.mp h
  obtain ⟨modalidad, hmodalidad, h⟩ := bind_eq_ok.mp h
  obtain ⟨emision, hemision, h⟩ := bind_eq_ok.mp h
  obtain ⟨tipo, htipo, h⟩ := bind_eq_ok.mp h
  obtain ⟨sector, hsector, h⟩ := bind_eq_ok.mp h
  obtain ⟨numero, hnumero, h⟩ := bind_eq_ok.mp h
  obtain ⟨puntoVenta, hpuntoVenta, h⟩ := bind_eq_ok.mp h
  obtain rfl := pure_eq_ok.mp h
  have hcampos : input.campos = ⟨nit, fecha, sucursal, modalidad, emision, tipo, sector, numero, puntoVenta⟩ := by
    rw [CufInput.campos, ← relleno_texto hnit, ← fechaParaCuf_texto hfecha, ← relleno_texto hsucursal,
      ← relleno_texto hmodalidad, ← relleno_texto hemision, ← relleno_texto htipo, ← relleno_texto hsector,
      ← relleno_texto hnumero, ← relleno_texto hpuntoVenta]
  rw [hcampos]
  constructor
  · simp [CamposCuf.cadena, CamposCuf.partes, List.append_assoc]
  · intro digito hdigito
    simp only [CamposCuf.partes, List.map_cons, List.map_nil, (relleno_eq_ok hnit).1, (fechaParaCuf_eq_ok hfecha).1,
      (relleno_eq_ok hsucursal).1, (relleno_eq_ok hmodalidad).1, (relleno_eq_ok hemision).1, (relleno_eq_ok htipo).1,
      (relleno_eq_ok hsector).1, (relleno_eq_ok hnumero).1, (relleno_eq_ok hpuntoVenta).1, hdigito, anchosCuf]

theorem CamposCuf.flatten_partes (campos : CamposCuf) (digito : Text) :
    (campos.partes digito).flatten = campos.cadena ++ digito := by
  simp [CamposCuf.cadena, CamposCuf.partes, List.append_assoc]

/-- The number of a code, in 54 digits, is the digits of its fields and their check digit. -/
theorem pad_hexadecimal {digitos : Text} (hlength : digitos.length = 54) (hdigitos : Decimal.AllDigits digitos) :
    Decimal.pad 54 (radixValue 16 (hexadecimal digitos)) = digitos := by
  have hpad := Decimal.eq_pad_of_value hdigitos (by omega)
  rw [hexadecimal, radixValue_toUpper (by decide) (by decide)]
  rw [hlength] at hpad
  exact hpad.symm

/-- **What was coded is decoded**: every field, and the check digit of the others. -/
theorem decodificarCuf_calcularCuf (h : calcularCuf input = .ok cuf) :
    decodificarCuf input.codigoControl.length cuf =
      some ⟨input.campos, modulo11 input.campos.cadena, input.codigoControl⟩ := by
  obtain ⟨cadena, hcadena, hlength, hdigitos, rfl⟩ := calcularCuf_eq_ok h
  obtain ⟨rfl, hanchos⟩ := cadenaCuf_campos hcadena
  have hpartes := splitWidths_flatten (input.campos.partes (modulo11 input.campos.cadena))
  have hlargo : (input.campos.cadena ++ modulo11 input.campos.cadena).length = 54 := by
    rw [List.length_append, hlength, length_modulo11]
  have htodos : Decimal.AllDigits (input.campos.cadena ++ modulo11 input.campos.cadena) := fun c hc =>
    (List.mem_append.mp hc).elim (hdigitos c) (allDigits_modulo11 _ c)
  have hcorte : (hexadecimal (input.campos.cadena ++ modulo11 input.campos.cadena) ++ input.codigoControl).length -
      input.codigoControl.length = (hexadecimal (input.campos.cadena ++ modulo11 input.campos.cadena)).length := by
    rw [List.length_append, Nat.add_sub_cancel]
  rw [hanchos _ (length_modulo11 _), CamposCuf.flatten_partes] at hpartes
  rw [decodificarCuf, hcorte, List.take_left' rfl, List.drop_left' rfl, pad_hexadecimal hlargo htodos, hpartes]
  rfl

/-- **A code is decodable and collision free**: its number, split at the fixed widths, is every field and the check
digit of the others; and another input with that code, and a control code of that length, has the same fields and the
same control code. -/
theorem calcularCuf_decodificable (h : calcularCuf input = .ok cuf) :
    decodificarCuf input.codigoControl.length cuf =
        some ⟨input.campos, modulo11 input.campos.cadena, input.codigoControl⟩ ∧
      ∀ otro : CufInput, calcularCuf otro = .ok cuf → otro.codigoControl.length = input.codigoControl.length →
        otro.campos = input.campos ∧ otro.codigoControl = input.codigoControl := by
  have hdecodificado := decodificarCuf_calcularCuf h
  refine ⟨hdecodificado, fun otro hotro hcontrol => ?_⟩
  have hdecodificado' := decodificarCuf_calcularCuf hotro
  rw [hcontrol, hdecodificado] at hdecodificado'
  have higuales := Option.some.inj hdecodificado'
  exact ⟨(congrArg CufDecodificado.campos higuales).symm, (congrArg CufDecodificado.codigoControl higuales).symm⟩

/-- The first vector of the SIN, and the same invoice with a number with zeros and a NIT with a space. -/
theorem calcularCuf_decodificable_vector :
    decodificarCuf 15 "8727F63A15F8976591FDDE5B387C5D015A29E06A1A19E23EF34124CD".toList =
        some ⟨⟨"0000123456789".toList, "20190113163721231".toList, "0000".toList, "1".toList, "1".toList, "1".toList,
          "01".toList, "0000000001".toList, "0000".toList⟩, "1".toList, "A19E23EF34124CD".toList⟩ ∧
      (CufInput.mk " 123456789".toList "2019-01-13T16:37:21.231".toList 0 1 1 1 1 "001".toList 0
        "A19E23EF34124CD".toList).campos.numeroFactura = "0000000001".toList :=
  have h : calcularCuf ⟨"123456789".toList, "2019-01-13T16:37:21.231".toList, 0, 1, 1, 1, 1, "1".toList, 0,
      "A19E23EF34124CD".toList⟩ = .ok "8727F63A15F8976591FDDE5B387C5D015A29E06A1A19E23EF34124CD".toList := by
    decide
  have hdecodificable := calcularCuf_decodificable h
  ⟨hdecodificable.1.trans (by decide),
    (congrArg CamposCuf.numeroFactura (hdecodificable.2 _ (by decide) rfl).1).trans (by decide)⟩

end Lemmas

end AtlasErp
