import AtlasErp.Billing.ChargeSessions
import AtlasErp.Fiscal.Processors

/-! # Annulments before the tax authority

An annulment checks the document and counts what was paid of its invoice, asks the authority, and only once the
authority confirms it writes the document, the invoice and the charges of the invoice.  Meanwhile charges are created, invoiced
and paid, and documents are issued and sent.

- `comprobarAnulacion`, `dentroDelPlazoDeAnulacion`: the checks;
- `seguirAnulacion`: what an annulment does next;
- `anulacionWorkers`, `anulacionMachine`: annulments beside the charges and the fiscal queue. -/

namespace AtlasErp

open Lib

/-! ## The store -/

/-- An annulment that was committed, with the CUF it was asked for and the charges it released.  No statement reads
it. -/
structure Anulacion where
  documentId : Nat
  cuf : Option Text
  invoiceId : Option Nat
  liberados : List MerchantReceivable

/-- The fiscal queue, the charges, the CUF of each request of annulment, and the CUFs that the authority annulled. -/
structure AnulacionDb where
  fiscal : EstadoFiscal
  cobros : ChargeDb
  solicitudes : List (Option Text)
  anuladas : List (Option Text)
  anulaciones : List Anulacion

/-- What an installation is configured with. -/
structure AnulacionConfig extends SiatConfig where
  /-- The codes of the catalogue MOTIVO_ANULACION. -/
  motivos : List Text
  issuedAt : Nat → Instant
  MERCHANT_BILLING_DUE_DAYS : Int

/-! ## The checks -/

section Checks

def SiatStatus.texto : SiatStatus → String
  | .pending => "PENDING"
  | .queued => "QUEUED"
  | .sent => "SENT"
  | .accepted => "ACCEPTED"
  | .observed => "OBSERVED"
  | .rejected => "REJECTED"
  | .offline => "OFFLINE"
  | .packaged => "PACKAGED"
  | .error => "ERROR"
  | .voided => "VOIDED"

/-- The reasons while the catalogue is empty. -/
def MOTIVOS_POR_DEFECTO : List Text := ["1".toList, "2".toList, "3".toList, "4".toList]

def motivoValido (motivos : List Text) (codigoMotivo : Nat) : Bool :=
  decimalText codigoMotivo ∈ motivos ∨ (motivos = [] ∧ decimalText codigoMotivo ∈ MOTIVOS_POR_DEFECTO)

/-- `fechaDe`: the date of a local time. -/
def fechaDe (fechaHora : Text) : Text := fechaHora.take 10

/-- `Number` of digits. -/
def numeroDe (digitos : Text) : Nat := digitos.foldl (fun n c => 10 * n + (c.toNat - '0'.toNat)) 0

/-- Until the 9th of the month after the one of the emission, in the local time of the issuer. -/
def dentroDelPlazoDeAnulacion (fechaEmision hoyLocal : Text) : Bool :=
  let anio := numeroDe (fechaEmision.take 4)
  let mes := numeroDe ((fechaEmision.drop 5).take 2)
  let limite :=
    if mes = 12 then decimalText (anio + 1 : Nat) ++ "-01-09".toList
    else decimalText anio ++ '-' :: ((padded 2 (mes + 1 : Nat)).toList ++ "-09".toList)
  hoyLocal ≤ limite

example : (dentroDelPlazoDeAnulacion "2026-12-31T23:59:59.000".toList "2027-01-09".toList,
    dentroDelPlazoDeAnulacion "2026-09-01T00:00:00.000".toList "2026-10-10".toList) = (true, false) := by decide

variable (c : AnulacionConfig)

/-- The checks of `anular` on the document it read, for a caller that may operate its legal entity or not. -/
def comprobarAnulacion (now : Instant) (documento : Option DocumentoSiat) (codigoMotivo : Nat) (accede : Bool) :
    Except HttpError DocumentoSiat := do
  let noExiste : HttpError := ⟨.notFound, some "FISCAL_DOCUMENT_NOT_FOUND",
    "No existe ese documento fiscal o no tienes acceso a su entidad legal."⟩
  let d ← orFail documento noExiste
  let perfil ← orFail (d.issuerProfileId.bind c.perfiles.find?) noExiste
  failIf (accede = false) noExiste
  failIf (d.siatStatus ≠ .accepted ∧ d.siatStatus ≠ .observed) ⟨.conflict, some "FISCAL_ANNUL_WRONG_STATUS",
    "Sólo se anula ante Impuestos una factura validada u observada; esta está en " ++ d.siatStatus.texto ++ "."⟩
  failIf (motivoValido c.motivos codigoMotivo = false) ⟨.conflict, some "FISCAL_ANNUL_INVALID_REASON",
    "Ese motivo de anulación no está en el catálogo del SIN."⟩
  failIf (dentroDelPlazoDeAnulacion d.fechaEmision (fechaDe (c.fechaHoraLocal perfil.id now)) = false)
    ⟨.conflict, some "FISCAL_ANNUL_OUT_OF_TERM",
      "El plazo para anular esta factura venció el día 9 del mes siguiente a su emisión."⟩
  return d

/-- What was paid of the invoice of a document: allocations to its charges.  Those of an AR invoice come as an answer,
and other documents are not asked about. -/
def cobrosDe (db : BillingDb) (d : DocumentoSiat) (cobrosAr : Nat) : Nat :=
  match d.sourceType with
  | .merchantInvoice => (db.allocations.rowsWhere fun a =>
      db.receivables.rows.any fun r => r.id = a.receivableId ∧ r.invoiceId = some d.sourceId).length
  | .arInvoice => cobrosAr
  | .adInvoice => 0

/-- The code of an invoice that was annulled before. -/
def YA_ANULADA : Nat := 936

/-- The authority says that the invoice is annulled, now or before. -/
def confirmaAnulacion (respuesta : SiatRespuesta) : Bool :=
  respuesta.codigoEstado = some CODIGO_ESTADO.ANULACION_CONFIRMADA ∨
    respuesta.mensajesList.any fun m => m.codigo = YA_ANULADA

end Checks

/-! ## The writes -/

section Writes

/-- `documento.update`: only the columns that differ from the copy. -/
def aplicarAnulacion (now : Instant) (copia : DocumentoSiat) (codigoMotivo : Nat) (mensajes : List SiatMensaje)
    (fila : DocumentoSiat) : DocumentoSiat :=
  { fila with
    siatStatus := cambio copia.siatStatus .voided fila.siatStatus
    codigoEstadoSin := cambio copia.codigoEstadoSin (some CODIGO_ESTADO.ANULACION_CONFIRMADA) fila.codigoEstadoSin
    annulmentMotivo := cambio copia.annulmentMotivo (some codigoMotivo) fila.annulmentMotivo
    annulledAt := cambio copia.annulledAt (some now) fila.annulledAt
    mensajes := cambio copia.mensajes mensajes fila.mensajes }

/-- A charge that can be invoiced again. -/
def MerchantReceivable.untie (r : MerchantReceivable) : MerchantReceivable := { r with invoiceId := none }

/-- `SET invoice_id = NULL WHERE invoice_id = $1`. -/
def BillingDb.liberar (db : BillingDb) (invoiceId : Nat) : BillingDb :=
  { db with receivables := db.receivables.updateWhere (·.invoiceId = some invoiceId) MerchantReceivable.untie }

/-- The invoice is cancelled and its charges released. -/
def BillingDb.cancelar (db : BillingDb) (invoiceId : Nat) : BillingDb :=
  (db.setInvoiceStatus invoiceId .cancelled).liberar invoiceId

/-- The invoice of a merchant that a document is of. -/
def FiscalDocument.factura (d : FiscalDocument) : Option Nat :=
  match d.sourceType with
  | .merchantInvoice => some d.sourceId
  | _ => none

/-- The charges that an annulment locks. -/
def cargosDe (db : BillingDb) (d : DocumentoSiat) : List MerchantReceivable :=
  match d.factura with
  | some k => db.receivablesOf k
  | none => []

/-- What the transaction of an annulment commits; `none` when it fails. -/
def anularEn (s : AnulacionDb) (copia : DocumentoSiat) (codigoMotivo : Nat) (mensajes : List SiatMensaje) :
    Option AnulacionDb :=
  (s.fiscal.actualizarDocumento copia.id (aplicarAnulacion s.fiscal.now copia codigoMotivo mensajes)).map fun fiscal =>
    { s with
      fiscal
      cobros := match copia.factura with
        | some k => { s.cobros with billing := s.cobros.billing.cancelar k }
        | none => s.cobros
      anulaciones := s.anulaciones ++ [⟨copia.id, copia.cuf, copia.factura, cargosDe s.cobros.billing copia⟩] }

end Writes

/-! ## Annulments -/

section Workers

/-- How far an annulment got, with the copy of the document it read. -/
inductive PuntoAnulacion where
  /-- The document passed the checks; `exigirSinCobros` follows. -/
  | contando (copia : DocumentoSiat) (codigoMotivo : Nat)
  /-- Nothing was paid; the codes to call with follow. -/
  | conCodigos (copia : DocumentoSiat) (codigoMotivo : Nat)
  | porLlamar (copia : DocumentoSiat) (codigoMotivo : Nat)
  /-- The request was sent. -/
  | esperando (copia : DocumentoSiat) (codigoMotivo : Nat)
  /-- The authority confirmed; a transaction follows. -/
  | confirmada (copia : DocumentoSiat) (codigoMotivo : Nat) (mensajes : List SiatMensaje)
  /-- It updated the document and its invoice, and locked the charges of the invoice. -/
  | liberando (copia : DocumentoSiat) (codigoMotivo : Nat) (mensajes : List SiatMensaje) (cargos : List Nat)

/-- Where a worker of any kind is. -/
inductive PuntoConjunto where
  | fiscal (p : PuntoSiat)
  | cobro (p : ChargePoint)
  | anulacion (p : PuntoAnulacion)

inductive TareaConjunta where
  | fiscal (tarea : TareaSiat)
  | cobro (task : ChargeTask)
  | anular (documentId codigoMotivo : Nat) (accede : Bool)

/-- What an annulment gets from outside. -/
inductive EntradaAnulacion where
  | sigue
  | cobrosAr (n : Nat)
  | cufd (respuesta : Option RespuestaCufd)
  | llamada (llamada : SiatLlamada)

inductive EntradaConjunta where
  | fiscal (entrada : EntradaSiat)
  | cobro (answer : ChargeAnswer)
  | anulacion (entrada : EntradaAnulacion)

/-- What happens outside: the authority annuls what it was asked to, or an invoice on its own account. -/
inductive SucesoConjunto where
  | fiscal (suceso : SucesoSin)
  | cargo (input : ChargeDto)
  | sirveAnulacion (k : Nat)
  | anulaSinPedido (cuf : Option Text)

variable (c : AnulacionConfig)

/-- An annulment that is confirmed is of an invoice that the authority annulled. -/
def anulacionPosible (s : AnulacionDb) (cuf : Option Text) (respuesta : SiatRespuesta) : Bool :=
  confirmaAnulacion respuesta → cuf ∈ s.anuladas

/-- What an annulment does next; every failure ends it. -/
def seguirAnulacion (s : AnulacionDb) : PuntoAnulacion → EntradaAnulacion → Option (AnulacionDb × Option PuntoAnulacion)
  | .contando copia codigoMotivo, .cobrosAr n =>
    some (s, if 0 < cobrosDe s.cobros.billing copia n then none else some (.conCodigos copia codigoMotivo))
  | .conCodigos copia codigoMotivo, .cufd respuesta =>
    match copia.issuerProfileId.bind fun perfilId => cufdVigente s.fiscal perfilId false respuesta with
    | some (fiscal, _) => some ({ s with fiscal }, some (.porLlamar copia codigoMotivo))
    | none => some (s, none)
  | .porLlamar copia codigoMotivo, .sigue =>
    some ({ s with solicitudes := s.solicitudes ++ [copia.cuf] }, some (.esperando copia codigoMotivo))
  | .esperando _ _, .llamada (.error _) => some (s, none)
  | .esperando copia codigoMotivo, .llamada (.ok respuesta) =>
    if anulacionPosible s copia.cuf respuesta then
      some (s, if confirmaAnulacion respuesta then some (.confirmada copia codigoMotivo respuesta.mensajesList) else none)
    else none
  | .confirmada copia codigoMotivo mensajes, .sigue =>
    some (s, some (.liberando copia codigoMotivo mensajes ((cargosDe s.cobros.billing copia).map (·.id))))
  | .liberando copia codigoMotivo mensajes _, .sigue => some ((anularEn s copia codigoMotivo mensajes).getD s, none)
  | _, _ => none

/-- The rows that an annulment holds until it commits. -/
def PuntoAnulacion.locks : PuntoAnulacion → List BillingLock
  | .liberando copia _ _ cargos => copia.factura.toList.map .invoice ++ cargos.map .receivable
  | _ => []

/-- An emission is of an invoice that is there. -/
def emisionPosible (s : AnulacionDb) : PuntoSiat → EntradaSiat → Bool
  | .preparada _, .documento documento =>
    documento.sourceType = .merchantInvoice → (s.cobros.billing.invoices.find? documento.sourceId).isSome
  | _, _ => true

/-- What a worker does next. -/
def seguirConjunto (s : AnulacionDb) : PuntoConjunto → EntradaConjunta → Option (AnulacionDb × Option PuntoConjunto)
  | .fiscal p, .fiscal entrada =>
    if emisionPosible s p entrada then
      (seguir c.toSiatConfig s.fiscal p entrada).map fun x => ({ s with fiscal := x.1 }, x.2.map .fiscal)
    else none
  | .cobro p, .cobro answer =>
    (p.next c.issuedAt c.MERCHANT_BILLING_DUE_DAYS answer s.cobros).map fun x => ({ s with cobros := x.1 }, x.2.map .cobro)
  | .anulacion p, .anulacion entrada => (seguirAnulacion s p entrada).map fun x => (x.1, x.2.map .anulacion)
  | _, _ => none

def empezarConjunto (s : AnulacionDb) : TareaConjunta → Option PuntoConjunto
  | .fiscal tarea => (empezar c.toSiatConfig s.fiscal tarea).map .fiscal
  | .cobro task => ((chargeWorkers c.issuedAt c.MERCHANT_BILLING_DUE_DAYS).start task s.cobros).map .cobro
  | .anular documentId codigoMotivo accede =>
    match comprobarAnulacion c s.fiscal.now (s.fiscal.documents.find? documentId) codigoMotivo accede with
    | .ok copia => some (.anulacion (.contando copia codigoMotivo))
    | .error _ => none

def sucederConjunto (s : AnulacionDb) : SucesoConjunto → Option AnulacionDb
  | .fiscal suceso => (suceder s.fiscal suceso).map fun fiscal => { s with fiscal }
  | .cargo input =>
    ((chargeWorkers c.issuedAt c.MERCHANT_BILLING_DUE_DAYS).outside input s.cobros).map fun cobros => { s with cobros }
  | .sirveAnulacion k => (s.solicitudes[k]?).map fun cuf => { s with anuladas := s.anuladas ++ [cuf] }
  | .anulaSinPedido cuf => some { s with anuladas := s.anuladas ++ [cuf] }

/-- The rows of charges and invoices, and what the fiscal queue holds. -/
def PuntoConjunto.recursos : PuntoConjunto → List (RecursoSiat ⊕ BillingLock)
  | .fiscal p => p.recursos.map .inl
  | .cobro p => p.holds.map .inr
  | .anulacion p => p.locks.map .inr

/-- Annulments, and all that goes on beside them. -/
def anulacionWorkers : Workers AnulacionDb TareaConjunta EntradaConjunta SucesoConjunto (RecursoSiat ⊕ BillingLock)
    PuntoConjunto where
  start tarea s := empezarConjunto c s tarea
  holds := PuntoConjunto.recursos
  next p entrada s := seguirConjunto c s p entrada
  outside suceso s := sucederConjunto c s suceso

/-- Nothing was charged, issued or annulled yet. -/
structure AnulacionDb.Blank (s : AnulacionDb) : Prop where
  fiscal : SinHistoria s.fiscal
  cobros : s.cobros.Blank
  anulaciones : s.anulaciones = []

abbrev ActoConjunto := WorkerAct TareaConjunta EntradaConjunta SucesoConjunto

/-- Any interleaving, from the first day. -/
def anulacionMachine : Machine (Sessions AnulacionDb PuntoConjunto) ActoConjunto :=
  (anulacionWorkers c).machine AnulacionDb.Blank

end Workers

end AtlasErp
