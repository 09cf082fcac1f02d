import AtlasErp.Fiscal.Cuf
import AtlasErp.Fiscal.FacturaXml
import AtlasErp.Lib.Table

/-! # Emission of fiscal documents

The document of an invoice: its amounts, its CUF, its XML and its row.

- `filaFiscal`: the document of an invoice;
- `filaFiscal_eq_ok`: what is in it. -/

namespace AtlasErp

open Lib

/-! ## Documents -/

inductive FuenteFiscal where
  | arInvoice
  | merchantInvoice
  | adInvoice
  deriving DecidableEq

/-- `siat_status`. -/
inductive SiatStatus where
  | pending
  | queued
  | sent
  | accepted
  | observed
  | rejected
  | offline
  | packaged
  | error
  | voided
  deriving DecidableEq

/-- `codigoEmision`: 1 or 2. -/
inductive TipoEmision where
  | enLinea
  | fueraDeLinea
  deriving DecidableEq

def TipoEmision.codigo : TipoEmision → Int
  | .enLinea => 1
  | .fueraDeLinea => 2

def TIPO_DOCUMENTO_NIT : Int := 5

structure ReceptorFiscal where
  codigoTipoDocumentoIdentidad : Int
  numeroDocumento : Text
  complemento : Option Text
  nombreRazonSocial : Text
  codigoCliente : Text
  correo : Option Text
  deriving DecidableEq

structure LineaAEmitir where
  codigoProducto : Text
  descripcion : Text
  cantidad : Text
  precioUnitario : Text
  montoDescuento : Option Text
  codigoProductoSin : Int
  unidadMedida : Int
  actividadEconomica : Option Text
  deriving DecidableEq

structure DocumentoAEmitir where
  sourceType : FuenteFiscal
  sourceId : Nat
  receptor : ReceptorFiscal
  lineas : List LineaAEmitir
  totalEsperado : Text
  codigoMetodoPago : Option Int
  leyenda : Option Text
  deriving DecidableEq

/-- What an emission reads of the profile of the issuer. -/
structure SiatIssuerProfile where
  id : Nat
  nit : Text
  razonSocial : Text
  municipio : Text
  telefono : Option Text
  direccion : Text
  codigoSucursal : Int
  codigoPuntoVenta : Int
  codigoModalidad : Int
  codigoDocumentoSector : Int
  actividadEconomica : Text
  leyendaDefault : Option Text
  usuarioEmisor : Text
  deriving DecidableEq

/-- A code of the day. -/
structure SiatCufd where
  id : Nat
  codigo : Text
  codigoControl : Text
  direccion : Option Text
  deriving DecidableEq

/-- What is decided before the transaction. -/
structure EmisionPreparada where
  perfil : SiatIssuerProfile
  cuis : Text
  cufd : SiatCufd
  codigoEmision : TipoEmision
  eventId : Option Nat
  nitValido : Option Bool
  deriving DecidableEq

/-- An emission: what was prepared, the document, and the clock, which is read as the local time of the
issuer too. -/
structure Emision where
  preparada : EmisionPreparada
  documento : DocumentoAEmitir
  ahora : Instant
  fechaEmision : Text
  deriving DecidableEq

/-- A row of `electronic_tax_document`.  The columns that may be null are so in rows older than the
electronic invoice. -/
structure FiscalDocument where
  id : Nat
  issuerProfileId : Option Nat
  sourceType : FuenteFiscal
  sourceId : Nat
  numeroFactura : Option Nat
  cuf : Option Text
  cufd : Text
  cufdId : Option Nat
  cuis : Text
  codigoDocumentoSector : Int
  tipoFacturaDocumento : Int
  codigoEmision : TipoEmision
  codigoModalidad : Int
  codigoExcepcion : Int
  fechaEmision : Text
  emittedAt : Instant
  siatStatus : SiatStatus
  contingencyFlag : Bool
  eventId : Option Nat
  xml : Text
  receptor : ReceptorFiscal
  montoTotal : Text
  attemptCount : Nat
  nextAttemptAt : Option Instant
  deriving DecidableEq

instance : HasKey FiscalDocument where
  key d := d.id
  withKey k d := { d with id := k }
  key_withKey _ _ := rfl
  withKey_key _ := rfl

/-- A row of `siat_number_series`. -/
structure SerieFiscal where
  issuerProfileId : Nat
  lastNumber : Nat
  deriving DecidableEq

instance : HasKey SerieFiscal where
  key r := r.issuerProfileId
  withKey k r := { r with issuerProfileId := k }
  key_withKey _ _ := rfl
  withKey_key _ := rfl

structure FiscalDb where
  series : Table SerieFiscal
  documents : Table FiscalDocument
  deriving DecidableEq

/-- Neither rejected nor voided. -/
def FiscalDocument.live (d : FiscalDocument) : Bool := d.siatStatus ≠ .rejected ∧ d.siatStatus ≠ .voided

/-! ## What an emission computes -/

section Row

/-- `slice(0, n)`, in units of UTF-16; half a pair is written as the replacement character. -/
def sliceTexto : Nat → Text → Text
  | _, [] => []
  | n, c :: cs =>
    if n = 0 then []
    else if 0x10000 ≤ c.toNat then if n = 1 then ['\uFFFD'] else c :: sliceTexto (n - 2) cs
    else c :: sliceTexto (n - 1) cs

def LEYENDA_POR_DEFECTO : Text :=
  "Ley N° 453: Tienes derecho a recibir información sobre las características y contenidos de los servicios que utilices.".toList

/-- An error that no handler maps to an answer. -/
def internalError (message : String) : HttpError := ⟨.internalServerError, none, message⟩

/-- How the errors of the amounts are answered. -/
def montosHttpError : MontosError → HttpError
  | .fiscal code message => unprocessable code message
  | .invalidDecimal texto => internalError ("Importe decimal inválido: " ++ String.ofList texto)
  | .outOfRange texto reason => internalError ("Importe fuera de rango (" ++ reason ++ "): " ++ String.ofList texto)
  | .money _ => internalError "El denominador debe ser positivo."

/-- The receiver has a document of 1 to 20 characters without white space, and a name. -/
def comprobarReceptor (receptor : ReceptorFiscal) : Except HttpError Unit := do
  failIf (receptor.numeroDocumento = [] ∨ 20 < utf16Length receptor.numeroDocumento ∨
      receptor.numeroDocumento.any isWhiteSpace)
    (unprocessable "FISCAL_RECEIVER_INCOMPLETE"
      "El cliente no tiene NIT o documento de identidad: la factura fiscal lo exige.")
  failIf (trim receptor.nombreRazonSocial = [])
    (unprocessable "FISCAL_RECEIVER_INCOMPLETE" "El cliente no tiene razón social.")

/-- The totals of the document, which have to be those of the invoice. -/
def totalesDe (documento : DocumentoAEmitir) : Except HttpError TotalesFiscales := do
  let totales ← (calcularTotales (documento.lineas.map fun l =>
    ⟨l.cantidad, l.precioUnitario, some (l.montoDescuento.getD ['0'])⟩) none none).mapError montosHttpError
  let esperado ← (toMinorUnits documento.totalEsperado 2).mapError montosHttpError
  failIf (totales.montoTotalMinor ≠ esperado)
    (unprocessable "FISCAL_TOTAL_MISMATCH" ("El total fiscal (" ++ String.ofList totales.montoTotal ++
      ") no coincide con el de la factura (" ++ String.ofList documento.totalEsperado ++ ")."))
  return totales

variable (e : Emision) (totales : TotalesFiscales) (numeroFactura : Nat)

/-- Without a connection the number of the receiver cannot be verified. -/
def Emision.codigoExcepcion : Int :=
  if e.documento.receptor.codigoTipoDocumentoIdentidad = TIPO_DOCUMENTO_NIT ∧
      (e.preparada.codigoEmision = .fueraDeLinea ∨ e.preparada.nitValido = some false) then 1
  else 0

def Emision.cufInput : CufInput where
  nit := e.preparada.perfil.nit
  fechaEmision := e.fechaEmision
  codigoSucursal := e.preparada.perfil.codigoSucursal
  codigoModalidad := e.preparada.perfil.codigoModalidad
  codigoEmision := e.preparada.codigoEmision.codigo
  tipoFacturaDocumento := 1
  codigoDocumentoSector := e.preparada.perfil.codigoDocumentoSector
  numeroFactura := decimalText numeroFactura
  codigoPuntoVenta := e.preparada.perfil.codigoPuntoVenta
  codigoControl := e.preparada.cufd.codigoControl

def Emision.detalle : List DetalleFactura :=
  (e.documento.lineas.zip totales.lineas).map fun (linea, importes) =>
    { actividadEconomica := linea.actividadEconomica.getD e.preparada.perfil.actividadEconomica
      codigoProductoSin := linea.codigoProductoSin
      codigoProducto := linea.codigoProducto
      descripcion := linea.descripcion
      cantidad := importes.cantidad
      unidadMedida := linea.unidadMedida
      precioUnitario := importes.precioUnitario
      montoDescuento := some importes.montoDescuento
      subTotal := importes.subTotal
      numeroSerie := none
      numeroImei := none }

def Emision.cabecera (cuf : Text) : CabeceraFactura where
  nitEmisor := e.preparada.perfil.nit
  razonSocialEmisor := e.preparada.perfil.razonSocial
  municipio := e.preparada.perfil.municipio
  telefono := e.preparada.perfil.telefono
  numeroFactura := numeroFactura
  cuf := cuf
  cufd := e.preparada.cufd.codigo
  codigoSucursal := e.preparada.perfil.codigoSucursal
  direccion := e.preparada.cufd.direccion.getD e.preparada.perfil.direccion
  codigoPuntoVenta := some e.preparada.perfil.codigoPuntoVenta
  fechaEmision := e.fechaEmision
  nombreRazonSocial := some (sliceTexto 500 e.documento.receptor.nombreRazonSocial)
  codigoTipoDocumentoIdentidad := e.documento.receptor.codigoTipoDocumentoIdentidad
  numeroDocumento := e.documento.receptor.numeroDocumento
  complemento := e.documento.receptor.complemento
  codigoCliente := sliceTexto 100 e.documento.receptor.codigoCliente
  codigoMetodoPago := e.documento.codigoMetodoPago.getD 1
  numeroTarjeta := none
  montoTotal := totales.montoTotal
  montoTotalSujetoIva := totales.montoTotalSujetoIva
  codigoMoneda := 1
  tipoCambio := ['1']
  montoTotalMoneda := totales.montoTotalMoneda
  montoGiftCard := none
  descuentoAdicional := some totales.descuentoAdicional
  codigoExcepcion := some e.codigoExcepcion
  cafc := none
  leyenda := sliceTexto 200 (e.documento.leyenda.getD (e.preparada.perfil.leyendaDefault.getD LEYENDA_POR_DEFECTO))
  usuario := e.preparada.perfil.usuarioEmisor
  codigoDocumentoSector := e.preparada.perfil.codigoDocumentoSector

/-- The row of the document, with its number. -/
def filaFiscal : Except HttpError FiscalDocument := do
  let cuf ← (calcularCuf (e.cufInput numeroFactura)).mapError fun error => internalError error.message
  let xml ← (construirFacturaXml e.preparada.perfil.codigoModalidad (e.cabecera totales numeroFactura cuf)
    (e.detalle totales)).mapError fun error => internalError error.message
  return {
    id := 0
    issuerProfileId := some e.preparada.perfil.id
    sourceType := e.documento.sourceType
    sourceId := e.documento.sourceId
    numeroFactura := some numeroFactura
    cuf := some cuf
    cufd := e.preparada.cufd.codigo
    cufdId := some e.preparada.cufd.id
    cuis := e.preparada.cuis
    codigoDocumentoSector := e.preparada.perfil.codigoDocumentoSector
    tipoFacturaDocumento := 1
    codigoEmision := e.preparada.codigoEmision
    codigoModalidad := e.preparada.perfil.codigoModalidad
    codigoExcepcion := e.codigoExcepcion
    fechaEmision := e.fechaEmision
    emittedAt := e.ahora
    siatStatus := if e.preparada.codigoEmision = .enLinea then .queued else .offline
    contingencyFlag := e.preparada.codigoEmision = .fueraDeLinea
    eventId := e.preparada.eventId
    xml := xml
    receptor := e.documento.receptor
    montoTotal := totales.montoTotal
    attemptCount := 0
    nextAttemptAt := if e.preparada.codigoEmision = .enLinea then some e.ahora else none }

variable {e totales numeroFactura}

/-- **The document** is of the issuer and the invoice, is live, and its XML has its number and its codes. -/
theorem filaFiscal_eq_ok {fila : FiscalDocument} (h : filaFiscal e totales numeroFactura = .ok fila) :
    ∃ cuf, calcularCuf (e.cufInput numeroFactura) = .ok cuf ∧ fila.cuf = some cuf ∧
      construirFacturaXml fila.codigoModalidad (e.cabecera totales numeroFactura cuf) (e.detalle totales) =
        .ok fila.xml ∧
      fila.issuerProfileId = some e.preparada.perfil.id ∧ fila.numeroFactura = some numeroFactura ∧
      fila.sourceType = e.documento.sourceType ∧ fila.sourceId = e.documento.sourceId ∧ fila.live = true := by
  obtain ⟨cuf, hcuf, h⟩ := bind_eq_ok.mp h
  obtain ⟨xml, hxml, h⟩ := bind_eq_ok.mp h
  obtain rfl := pure_eq_ok.mp h
  refine ⟨cuf, mapError_eq_ok.mp hcuf, rfl, mapError_eq_ok.mp hxml, rfl, rfl, rfl, rfl, ?_⟩
  simp only [FiscalDocument.live]
  split <;> rfl

end Row

end AtlasErp
