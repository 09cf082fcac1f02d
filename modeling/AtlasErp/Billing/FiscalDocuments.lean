import AtlasErp.Billing.Invoicing
import AtlasErp.Fiscal.Processors

/-! # The fiscal document of an invoice

With the electronic invoice, an issue emits a document with one line of one unit for each charge, at its total.

- `emitirDocumentoFiscal`: the document that an issue asks for;
- `Cuadra`: it is accepted, at the total of the invoice;
- `emitirDocumentoFiscal_cuadra`: it always is. -/

namespace AtlasErp

open Lib

/-- The columns of `billing_products` that the document reads. -/
structure ProductoFacturable extends BillingProduct where
  code : Text
  sinProductCode : Option Int
  sinUnitCode : Int
  sinActivityCode : Option Text
  deriving DecidableEq

/-- The columns of `b2b_accounts` that the document reads. -/
structure CuentaFiscal where
  id : Nat
  taxDocumentType : Option Int
  taxId : Option Text
  taxIdComplement : Option Text
  legalName : Option Text
  billingEmail : Option Text
  deriving DecidableEq

section Document

variable (catalogo : List ProductoFacturable) (cuenta : Option CuentaFiscal) (invoice : MerchantInvoice)
  (totals : InvoiceTotals)

/-- The product of a charge: its own, or the one of its source. -/
def productoDe (receivable : MerchantReceivable) : Option ProductoFacturable :=
  (receivable.productId.bind fun id => catalogo.find? (·.id = id)).or
    (catalogo.find? (·.sourceType = receivable.sourceType))

/-- `FISCAL_PRODUCT_NOT_HOMOLOGATED`. -/
def productNotHomologated (nombre : String) : HttpError :=
  unprocessable "FISCAL_PRODUCT_NOT_HOMOLOGATED" ("El producto «" ++ nombre ++
    "» no tiene código de producto del SIN: configúralo en el catálogo de productos facturables.")

/-- The line of a charge: one unit at its total, with the tax. -/
def lineaDelCargo (receivable : MerchantReceivable) : Except HttpError LineaAEmitir := do
  let product ← orFail (productoDe catalogo receivable) (productNotHomologated receivable.sourceType)
  let sinProductCode ← orFail product.sinProductCode (productNotHomologated product.name)
  return {
    codigoProducto := product.code
    descripcion := product.name.toList
    cantidad := ['1']
    precioUnitario := minorText (totals.lineOf receivable).total 2
    montoDescuento := none
    codigoProductoSin := sinProductCode
    unidadMedida := product.sinUnitCode
    actividadEconomica := product.sinActivityCode }

/-- The document that an issue asks the fiscal module for. -/
def emitirDocumentoFiscal (receivables : List MerchantReceivable) : Except HttpError DocumentoAEmitir := do
  let lineas ← receivables.mapM (lineaDelCargo catalogo totals)
  return {
    sourceType := .merchantInvoice
    sourceId := invoice.id
    receptor := {
      codigoTipoDocumentoIdentidad := (cuenta.bind (·.taxDocumentType)).getD TIPO_DOCUMENTO_NIT
      numeroDocumento := (cuenta.bind (·.taxId)).getD []
      complemento := cuenta.bind (·.taxIdComplement)
      nombreRazonSocial := (cuenta.bind (·.legalName)).getD []
      codigoCliente := decimalText ((cuenta.map (·.id)).getD invoice.accountId)
      correo := cuenta.bind (·.billingEmail) }
    lineas
    totalEsperado := minorText invoice.totalAmount 2
    codigoMetodoPago := none
    leyenda := none }

end Document

/-- **The fiscal document totals its invoice**: the amounts are accepted, at that total, and no emission refuses them. -/
structure Cuadra (totals : InvoiceTotals) (documento : DocumentoAEmitir) : Prop where
  totales : ∃ totales, totalesDe documento = .ok totales ∧ totales.montoTotalMinor = totals.total ∧
    totales.lineas.length = documento.lineas.length ∧
    ∀ linea ∈ totales.lineas, ∃ minor, 0 < minor ∧ linea.precioUnitario = minorText minor 2 ∧
      linea.subTotal = minorText minor 2
  errores : ∀ c s preparada error, emitirEnTransaccion c s preparada documento = .error error →
    error.code ≠ some "FISCAL_TOTAL_MISMATCH" ∧ error.code ≠ some "FISCAL_LINE_AMOUNT_NOT_POSITIVE"

/-! ## The amounts of the lines -/

section Lines

variable {catalogo : List ProductoFacturable} {cuenta : Option CuentaFiscal} {invoice : MerchantInvoice}
  {totals : InvoiceTotals} {receivables : List MerchantReceivable} {documento : DocumentoAEmitir}

/-- The totals of the lines are found under the ids of their charges. -/
theorem map_lineOf (hids : totals.lines.map (·.id) = receivables.map (·.id)) (hnodup : (receivables.map (·.id)).Nodup) :
    receivables.map totals.lineOf = totals.lines := by
  have hlength : receivables.length = totals.lines.length := by simpa using (congrArg List.length hids).symm
  have hlines : (totals.lines.map (·.id)).Nodup := hids ▸ hnodup
  refine List.ext_getElem (by rw [List.length_map, hlength]) fun i hi hi' => ?_
  have hbound : i < receivables.length := hlength ▸ hi'
  have hid : totals.lines[i].id = receivables[i].id := by
    have hget : (totals.lines.map (·.id))[i]? = (receivables.map (·.id))[i]? := by rw [hids]
    simpa [hbound, hi'] using hget
  rw [List.getElem_map, InvoiceTotals.lineOf]
  cases hfind : totals.lines.find? (·.id = receivables[i].id) with
  | none =>
    have hother := List.find?_eq_none.mp hfind totals.lines[i] (List.getElem_mem hi')
    exact absurd (decide_eq_true hid) hother
  | some line =>
    have hmem := List.mem_of_find?_eq_some hfind
    have heq : line.id = receivables[i].id := by simpa using List.find?_some hfind
    exact List.inj_on_of_nodup_map hlines hmem (List.getElem_mem hi') (heq.trans hid.symm)

theorem lineaDelCargo_eq_ok {receivable : MerchantReceivable} {linea : LineaAEmitir}
    (h : lineaDelCargo catalogo totals receivable = .ok linea) :
    linea.cantidad = ['1'] ∧ linea.precioUnitario = minorText (totals.lineOf receivable).total 2 ∧
      linea.montoDescuento = none := by
  obtain ⟨product, -, h⟩ := bind_eq_ok.mp h
  obtain ⟨sinProductCode, -, h⟩ := bind_eq_ok.mp h
  obtain rfl := pure_eq_ok.mp h
  exact ⟨rfl, rfl, rfl⟩

/-- The lines of the document are one unit each, at the totals of the lines of the invoice. -/
theorem entradas_emitirDocumentoFiscal (hlines : receivables.map totals.lineOf = totals.lines)
    (h : emitirDocumentoFiscal catalogo cuenta invoice totals receivables = .ok documento) :
    documento.totalEsperado = minorText invoice.totalAmount 2 ∧
      (documento.lineas.map fun l => (⟨l.cantidad, l.precioUnitario, some (l.montoDescuento.getD ['0'])⟩ :
        LineaFiscalEntrada)) =
        (totals.lines.map (·.total)).map fun minor => ⟨['1'], minorText minor 2, some ['0']⟩ := by
  obtain ⟨lineas, hlineas, hdocumento⟩ := bind_eq_ok.mp h
  obtain rfl := pure_eq_ok.mp hdocumento
  refine ⟨rfl, ?_⟩
  rw [← hlines, List.map_map, List.map_map]
  have hall := mapM_eq_ok.mp hlineas
  clear h hdocumento hlines hlineas
  induction hall with
  | nil => rfl
  | cons hlinea _ ih =>
    obtain ⟨hcantidad, hprecio, hdescuento⟩ := lineaDelCargo_eq_ok hlinea
    rw [List.map_cons, List.map_cons, ih, hcantidad, hprecio, hdescuento]
    rfl

/-- An emission fails on the amounts only when they are not those of the invoice. -/
theorem code_ne_of_totalesDe {c : SiatConfig} {s : EstadoFiscal} {preparada : EmisionPreparada}
    {totales : TotalesFiscales} {error : HttpError} (htotales : totalesDe documento = .ok totales)
    (h : emitirEnTransaccion c s preparada documento = .error error) :
    error.code ≠ some "FISCAL_TOTAL_MISMATCH" ∧ error.code ≠ some "FISCAL_LINE_AMOUNT_NOT_POSITIVE" := by
  rcases bind_eq_error.mp h with h | ⟨_, -, h⟩
  · rcases bind_eq_error.mp h with h | ⟨_, -, h⟩
    · obtain ⟨-, rfl⟩ := failIf_eq_error.mp h
      decide
    · obtain ⟨-, rfl⟩ := failIf_eq_error.mp h
      decide
  rcases bind_eq_error.mp h with h | ⟨_, -, h⟩
  · rw [htotales] at h
    cases h
  rcases bind_eq_error.mp h with h | ⟨_, -, h⟩
  · obtain ⟨-, rfl⟩ := orFail_eq_error.mp h
    decide
  rcases bind_eq_error.mp h with h | ⟨_, -, h⟩
  · obtain ⟨-, rfl⟩ := failIf_eq_error.mp h
    exact ⟨nofun, nofun⟩
  rcases bind_eq_error.mp h with h | ⟨_, -, h⟩
  · obtain ⟨_, -, rfl⟩ := mapError_eq_error.mp h
    exact ⟨nofun, nofun⟩
  rcases bind_eq_error.mp h with h | ⟨_, -, h⟩
  · obtain ⟨_, -, rfl⟩ := mapError_eq_error.mp h
    exact ⟨nofun, nofun⟩
  · cases h

end Lines

/-- **The document of an issue always totals its invoice**, for charges of one currency with positive open amounts, at
every rate. -/
theorem emitirDocumentoFiscal_cuadra {receivables : List MerchantReceivable} {context : IssueContext}
    {currency : String} {scale : Nat} (hne : receivables ≠ []) (hnodup : (receivables.map (·.id)).Nodup)
    (hscale : currencyScale currency = .ok scale) (hcurrency : ∀ r ∈ receivables, currencyCode r.currency = currency)
    (hpos : ∀ r ∈ receivables, 0 < r.amountOpen ∧ r.amountOpen ≤ NUMERIC_18_2_MAX_MINOR)
    (hrate : 0 ≤ context.taxRateUnits ∧ context.taxRateUnits ≤ 100 * 10 ^ RATE_SCALE) :
    ∃ totals, invoiceTotals context receivables = .ok totals ∧
      ∀ catalogo cuenta input id documento,
        emitirDocumentoFiscal catalogo cuenta (newInvoice input context totals id) totals receivables = .ok documento →
          Cuadra totals documento := by
  obtain ⟨totals, htotals⟩ : ∃ totals, computeInvoiceTotals (receivables.map (·.charge)) context.taxRateUnits =
      .ok totals := by
    refine exists_computeInvoiceTotals (by simpa using hne) hscale (fun charge hcharge => ?_) (fun charge hcharge => ?_)
      hrate
    · obtain ⟨r, hr, rfl⟩ := List.mem_map.mp hcharge
      exact hcurrency r hr
    · obtain ⟨r, hr, rfl⟩ := List.mem_map.mp hcharge
      exact hpos r hr
  refine ⟨totals, mapError_eq_ok.mpr htotals, fun catalogo cuenta input id documento hdocumento => ?_⟩
  obtain ⟨hids, hsum, hlines⟩ := computeInvoiceTotals_lineTotals htotals
  rw [List.map_map] at hids
  obtain ⟨hesperado, hentradas⟩ := entradas_emitirDocumentoFiscal (map_lineOf hids hnodup) hdocumento
  have hminors : ∀ minor ∈ totals.lines.map (·.total), 0 < minor := fun minor hminor => by
    obtain ⟨line, hline, rfl⟩ := List.mem_map.mp hminor
    exact hlines line hline
  have hsome : totals.lines.map (·.total) ≠ [] := by
    intro hnil
    have hlength := congrArg List.length hids
    rw [List.map_eq_nil_iff.mp hnil] at hlength
    exact hne (List.length_eq_zero_iff.mp (by simpa using hlength.symm))
  obtain ⟨totales, htotales, hminor, hlineas⟩ := calcularTotales_of_pos hsome hminors
  have hok : totalesDe documento = .ok totales := by
    have hequal : ¬totales.montoTotalMinor ≠ totals.total := not_not.mpr (hminor.trans hsum)
    rw [totalesDe, hentradas, htotales, hesperado]
    simp only [Except.mapError, ok_bind, newInvoice, toMinorUnits_minorText _ 2, failIf_of_not hequal]
    rfl
  refine ⟨⟨totales, hok, hminor.trans hsum, ?_, fun linea hlinea => ?_⟩, fun c s preparada error h =>
    code_ne_of_totalesDe hok h⟩
  · have hlength : documento.lineas.length = (totals.lines.map (·.total)).length := by
      simpa using congrArg List.length hentradas
    rw [hlineas, hlength, List.length_map]
  · rw [hlineas] at hlinea
    obtain ⟨minor, hmem, rfl⟩ := List.mem_map.mp hlinea
    exact ⟨minor, hminors minor hmem, rfl, rfl⟩

/-- Two charges of 33.33 and 66.68, whose tax does not split evenly. -/
def cargosConResiduo : List MerchantReceivable :=
  [⟨1, 7, none, "MONTHLY_FEE", none, none, 3333, 3333, "BOB", 0, .pending⟩,
    ⟨2, 7, none, "MONTHLY_FEE", none, none, 6668, 6668, "BOB", 0, .pending⟩]

def planMensual : ProductoFacturable :=
  ⟨⟨4, "Plan mensual", "MONTHLY_FEE"⟩, "PM".toList, some 83141, 58, none⟩

theorem emitirDocumentoFiscal_cuadra_residuo :
    ∃ totals documento, invoiceTotals ⟨13000000, "F-1", .ok ()⟩ cargosConResiduo = .ok totals ∧ totals.total = 11301 ∧
      emitirDocumentoFiscal [planMensual] none
        (newInvoice ⟨7, none, 0, 0, [1, 2], none⟩ ⟨13000000, "F-1", .ok ()⟩ totals 1) totals cargosConResiduo =
          .ok documento ∧ Cuadra totals documento := by
  obtain ⟨totals, htotals, hcuadra⟩ := @emitirDocumentoFiscal_cuadra cargosConResiduo ⟨13000000, "F-1", .ok ()⟩ "BOB" 2
    (by decide) (by decide) (by decide) (by decide) (by decide) (by decide)
  have hrun : invoiceTotals ⟨13000000, "F-1", .ok ()⟩ cargosConResiduo =
      .ok ⟨"BOB", 10001, 1300, 11301, [⟨1, 3333, 434, 3767⟩, ⟨2, 6668, 866, 7534⟩]⟩ := by decide
  obtain rfl := Except.ok.inj (htotals.symm.trans hrun)
  obtain ⟨documento, hdocumento⟩ := exists_of_isOk (x := emitirDocumentoFiscal [planMensual] none
    (newInvoice ⟨7, none, 0, 0, [1, 2], none⟩ ⟨13000000, "F-1", .ok ()⟩
      ⟨"BOB", 10001, 1300, 11301, [⟨1, 3333, 434, 3767⟩, ⟨2, 6668, 866, 7534⟩]⟩ 1)
    ⟨"BOB", 10001, 1300, 11301, [⟨1, 3333, 434, 3767⟩, ⟨2, 6668, 866, 7534⟩]⟩ cargosConResiduo) (by decide)
  exact ⟨_, documento, hrun, rfl, hdocumento, hcuadra _ _ _ _ documento hdocumento⟩

end AtlasErp
