import AtlasErp.Fiscal.Regeneration

/-! # Issuing again and building again

The XML of a document that is issued again against the XML of an invoice with its header.

- `Cabe`: a field is not longer than the SIN admits;
- `exists_construirFacturaXml`: **when an invoice is built**;
- `construirFacturaXml_eq_xmlRegenerado_iff`: **when replacing the elements is building** the invoice with the new
  codes. -/

namespace AtlasErp

open Lib

/-! ## When an invoice is built -/

section Cabe

/-- A field is not longer than it may be. -/
def Cabe (campo : String × Valor) : Prop :=
  ∀ texto ∈ campo.2.leido, ∀ maximo ∈ LONGITUD_MAXIMA campo.1, utf16Length texto ≤ maximo

theorem exists_elemento (campo : String × Valor) (sangria : Text) :
    (∃ linea, elemento campo.1 campo.2 sangria = .ok linea) ↔ Cabe campo := by
  unfold elemento Cabe
  cases campo.2.leido with
  | none => exact iff_of_true ⟨_, rfl⟩ fun _ h => absurd h (Option.not_mem_none _)
  | some texto =>
    cases LONGITUD_MAXIMA campo.1 with
    | none => exact iff_of_true ⟨_, rfl⟩ fun _ _ _ h => absurd h (Option.not_mem_none _)
    | some maximo =>
      by_cases hlargo : maximo < utf16Length texto
      · have hfilter : (some maximo).filter (· < utf16Length texto) = some maximo := by
          rw [Option.filter_some, if_pos (decide_eq_true hlargo)]
        dsimp only
        rw [hfilter]
        exact iff_of_false nofun fun h => Nat.not_le_of_lt hlargo (h texto rfl maximo rfl)
      · have hfilter : (some maximo).filter (· < utf16Length texto) = none := by
          rw [Option.filter_some, if_neg (mt of_decide_eq_true hlargo)]
        dsimp only
        rw [hfilter]
        refine iff_of_true ⟨_, rfl⟩ ?_
        rintro _ ⟨⟩ _ ⟨⟩
        exact Nat.le_of_not_lt hlargo

theorem exists_elementos (campos : List (String × Valor)) :
    (∃ lineas, elementos campos = .ok lineas) ↔ ∀ campo ∈ campos, Cabe campo :=
  exists_mapM_eq_ok.trans (forall₂_congr fun campo _ => exists_elemento campo _)

theorem exists_lineasDetalle (linea : DetalleFactura) :
    (∃ lineas, lineasDetalle linea = .ok lineas) ↔ ∀ campo ∈ linea.campos, Cabe campo := by
  rw [← exists_elementos]
  constructor
  · rintro ⟨lineas, h⟩
    obtain ⟨campos, hcampos, -⟩ := bind_eq_ok.mp h
    exact ⟨campos, hcampos⟩
  · rintro ⟨campos, hcampos⟩
    exact ⟨_, bind_eq_ok.mpr ⟨campos, hcampos, rfl⟩⟩

/-- **When an invoice is built**: its modality, the number of its lines, its complement, and its fields. -/
theorem exists_construirFacturaXml {codigoModalidad : Int} {cabecera : CabeceraFactura} {detalle : List DetalleFactura} :
    (∃ xml, construirFacturaXml codigoModalidad cabecera detalle = .ok xml) ↔
      ¬codigoModalidad ≠ 2 ∧ ¬(detalle.length = 0 ∨ MAX_DETALLES_FACTURA < detalle.length) ∧
        ¬(cabecera.complemento.any (· ≠ []) = true ∧ cabecera.codigoTipoDocumentoIdentidad ≠ 1) ∧
          (∀ campo ∈ cabecera.campos, Cabe campo) ∧ ∀ linea ∈ detalle, ∀ campo ∈ linea.campos, Cabe campo := by
  rw [← exists_elementos, ← forall₂_congr fun linea _ => exists_lineasDetalle linea, ← exists_mapM_eq_ok]
  constructor
  · rintro ⟨xml, h⟩
    obtain ⟨hmodalidad, h⟩ := failIf_bind_eq_ok.mp h
    obtain ⟨hcuantas, h⟩ := failIf_bind_eq_ok.mp h
    obtain ⟨hcomplemento, h⟩ := failIf_bind_eq_ok.mp h
    obtain ⟨camposCabecera, hcabecera, h⟩ := bind_eq_ok.mp h
    obtain ⟨lineas, hlineas, -⟩ := bind_eq_ok.mp h
    exact ⟨hmodalidad, hcuantas, hcomplemento, ⟨camposCabecera, hcabecera⟩, ⟨lineas, hlineas⟩⟩
  · rintro ⟨hmodalidad, hcuantas, hcomplemento, ⟨camposCabecera, hcabecera⟩, ⟨lineas, hlineas⟩⟩
    exact ⟨_, failIf_bind_eq_ok.mpr ⟨hmodalidad, failIf_bind_eq_ok.mpr ⟨hcuantas,
      failIf_bind_eq_ok.mpr ⟨hcomplemento, bind_eq_ok.mpr ⟨camposCabecera, hcabecera,
        bind_eq_ok.mpr ⟨lineas, hlineas, rfl⟩⟩⟩⟩⟩⟩

/-- A text under a name that has a longest text. -/
theorem cabe_texto {nombre : String} {maximo : Nat} (h : LONGITUD_MAXIMA nombre = some maximo) (texto : Text) :
    Cabe (nombre, .texto texto) ↔ utf16Length texto ≤ maximo := by
  cases texto with
  | nil => exact iff_of_true (fun _ h => absurd h (Option.not_mem_none _)) (Nat.zero_le _)
  | cons c cs => simp [Cabe, Valor.leido, h]

theorem cabe_of_longitudMaxima {campo : String × Valor} (h : LONGITUD_MAXIMA campo.1 = none) : Cabe campo := by
  intro texto _ maximo hmaximo
  rw [h] at hmaximo
  cases hmaximo

end Cabe

/-! ## With the new codes -/

section Codigos

variable {codigoModalidad : Int} {cabecera : CabeceraFactura} {detalle : List DetalleFactura} {xml : Text}

/-- An invoice that was built is built with new codes exactly when they fit. -/
theorem exists_construirFacturaXml_codigos (h : construirFacturaXml codigoModalidad cabecera detalle = .ok xml)
    (cuf cufd : Text) (codigoExcepcion : Int) :
    (∃ xml', construirFacturaXml codigoModalidad
      { cabecera with cuf, cufd, codigoExcepcion := some codigoExcepcion } detalle = .ok xml') ↔
        utf16Length cuf ≤ 100 ∧ utf16Length cufd ≤ 100 := by
  obtain ⟨hmodalidad, hcuantas, hcomplemento, hcabecera, hdetalle⟩ := exists_construirFacturaXml.mp ⟨xml, h⟩
  rw [campos_eq, List.forall_mem_append, List.forall_mem_cons, List.forall_mem_cons, List.forall_mem_append,
    List.forall_mem_cons] at hcabecera
  obtain ⟨hantes, -, -, hmedio, -, htras⟩ := hcabecera
  rw [exists_construirFacturaXml, ← cabe_texto (show LONGITUD_MAXIMA "cuf" = some 100 from rfl) cuf,
    ← cabe_texto (show LONGITUD_MAXIMA "cufd" = some 100 from rfl) cufd]
  rw [campos_eq, List.forall_mem_append, List.forall_mem_cons, List.forall_mem_cons, List.forall_mem_append,
    List.forall_mem_cons]
  constructor
  · rintro ⟨-, -, -, ⟨-, hcuf, hcufd, -⟩, -⟩
    exact ⟨hcuf, hcufd⟩
  · rintro ⟨hcuf, hcufd⟩
    exact ⟨hmodalidad, hcuantas, hcomplemento,
      ⟨hantes, hcuf, hcufd, hmedio, cabe_of_longitudMaxima rfl, htras⟩, hdetalle⟩

/-- **When replacing is building**: the XML that is issued again is the XML of the invoice with the new codes exactly
when each code fits, is empty only if the old one was, and has no pattern of replacement. -/
theorem construirFacturaXml_eq_xmlRegenerado_iff
    (h : construirFacturaXml codigoModalidad cabecera detalle = .ok xml) (cuf cufd : Text) (codigoExcepcion : Int) :
    construirFacturaXml codigoModalidad { cabecera with cuf, cufd, codigoExcepcion := some codigoExcepcion } detalle =
        .ok (xmlRegenerado xml cuf cufd codigoExcepcion) ↔
      (utf16Length cuf ≤ 100 ∧ utf16Length cufd ≤ 100) ∧ Literal cabecera.cuf cuf ∧ Literal cabecera.cufd cufd := by
  rw [← exists_construirFacturaXml_codigos h cuf cufd codigoExcepcion,
    ← xmlRegenerado_documento_iff cabecera detalle cuf cufd codigoExcepcion, ← construirFacturaXml_eq_ok h]
  constructor
  · intro hnuevo
    exact ⟨⟨_, hnuevo⟩, construirFacturaXml_eq_ok hnuevo⟩
  · rintro ⟨⟨xml', hxml'⟩, higual⟩
    rw [hxml', higual, construirFacturaXml_eq_ok hxml']

/-- A code with one `$`. -/
theorem construirFacturaXml_eq_xmlRegenerado_unDolar :
    construirFacturaXml 2 { exampleCabecera with
        cuf := "E5F6".toList, cufd := "A$B".toList, codigoExcepcion := some 1 } [exampleDetalle] =
      .ok (xmlRegenerado exampleXml "E5F6".toList "A$B".toList 1) :=
  (construirFacturaXml_eq_xmlRegenerado_iff construirFacturaXml_exampleXml _ _ 1).mpr
    ⟨by decide, ⟨by decide, by decide⟩, ⟨by decide, by decide⟩⟩

/-- A code with two of them: one is lost. -/
theorem construirFacturaXml_ne_xmlRegenerado_dosDolares :
    construirFacturaXml 2 exampleCabecera [exampleDetalle] = .ok exampleXml ∧
      construirFacturaXml 2 { exampleCabecera with
          cuf := "E5F6".toList, cufd := "A$$B".toList, codigoExcepcion := some 1 } [exampleDetalle] ≠
        .ok (xmlRegenerado exampleXml "E5F6".toList "A$$B".toList 1) := by
  refine ⟨construirFacturaXml_exampleXml, fun h => ?_⟩
  have higual := construirFacturaXml_eq_ok h
  rw [construirFacturaXml_eq_ok construirFacturaXml_exampleXml] at higual
  obtain ⟨-, -, hpatron⟩ := (xmlRegenerado_documento_iff _ _ _ _ _).mp higual
  exact absurd hpatron (by decide)

end Codigos

end AtlasErp
