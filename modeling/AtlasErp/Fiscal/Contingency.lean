import AtlasErp.Fiscal.Dispatch
import Mathlib.Data.List.Sort

/-! # Contingency

When the tax authority does not answer, invoices are issued without a connection under a significant event;
when it answers again, the event is closed and registered and its invoices are sent in packages.

- `EstadoFiscal`: the tables, the clock and what the tax authority has received;
- `cufdVigente`, `cufdDeContingencia`, `eventoAbierto`: what an emission reads;
- `lotes`, `registrarPaquete`, `aplicarResultado`: the packages. -/

namespace AtlasErp

open Lib

/-! ## Tables -/

/-- A row of `siat_cufd`. -/
structure SiatCufdRow extends SiatCufd where
  issuerProfileId : Nat
  isActive : Bool
  fechaVigencia : Instant
  obtainedAt : Instant
  deriving DecidableEq

instance : HasKey SiatCufdRow where
  key r := r.id
  withKey k r := { r with id := k }
  key_withKey _ _ := rfl
  withKey_key _ := rfl

inductive EventStatus where
  | open
  | closed
  | registered
  | dispatched
  deriving DecidableEq

/-- A row of `siat_significant_event`. -/
structure SignificantEvent where
  id : Nat
  issuerProfileId : Nat
  codigoEvento : Nat
  descripcion : String
  inicio : Instant
  fin : Option Instant
  cufdEventoId : Nat
  cufdEnvioId : Option Nat
  codigoRecepcionEvento : Option Text
  status : EventStatus
  deriving DecidableEq

instance : HasKey SignificantEvent where
  key r := r.id
  withKey k r := { r with id := k }
  key_withKey _ _ := rfl
  withKey_key _ := rfl

/-- A row of `siat_package`. -/
structure SiatPackage where
  id : Nat
  eventId : Nat
  cantidadFacturas : Nat
  codigoRecepcion : Text
  codigoEstado : Option Nat
  mensajes : List SiatMensaje
  sentAt : Instant
  validatedAt : Option Instant
  deriving DecidableEq

instance : HasKey SiatPackage where
  key r := r.id
  withKey k r := { r with id := k }
  key_withKey _ _ := rfl
  withKey_key _ := rfl

/-! ## The tax authority -/

/-- A file of a package. -/
structure ArchivoTar where
  nombre : Text
  contenido : Text
  deriving DecidableEq

/-- What became of a request: the authority has not served it, took it, or refused it. -/
inductive EstadoEnvio where
  | pendiente
  /-- With the code it gave. -/
  | recibido (codigoRecepcion : Text)
  | rechazado
  deriving DecidableEq

/-- A document that was sent on its own. -/
structure EnvioFactura where
  documento : DocumentoSiat
  estado : EstadoEnvio
  deriving DecidableEq

/-- A package that was sent: the documents it was made of, its files, what became of it, and the positions of
the files that were validated. -/
structure EnvioPaquete where
  eventId : Nat
  lote : List DocumentoSiat
  archivos : List ArchivoTar
  estado : EstadoEnvio
  validados : List Nat
  deriving DecidableEq

/-- The store of the workers: the clock, the tables, and the requests that were sent, each under its number. -/
structure EstadoFiscal where
  now : Instant
  series : Table SerieFiscal
  documents : Table DocumentoSiat
  events : Table SignificantEvent
  packages : Table SiatPackage
  cufds : Table SiatCufdRow
  facturas : List EnvioFactura
  paquetes : List EnvioPaquete

namespace EstadoFiscal

/-- No entry of a unique index of the documents is there twice. -/
def indicesUnicos (documents : Table DocumentoSiat) : Bool :=
  (documents.rows.flatMap fun d => d.toFiscalDocument.indexKeys).Nodup

/-- The store after a write of the documents; `none` when a unique index refuses it. -/
def conDocumentos (s : EstadoFiscal) (documents : Table DocumentoSiat) : Option EstadoFiscal :=
  if indicesUnicos documents then some { s with documents } else none

/-- An update of the row of a document. -/
def actualizarDocumento (s : EstadoFiscal) (id : Nat) (f : DocumentoSiat → DocumentoSiat) : Option EstadoFiscal :=
  s.conDocumentos (s.documents.updateWhere (HasKey.key · = id) f)

/-- An update of the row of an event. -/
def actualizarEvento (s : EstadoFiscal) (id : Nat) (f : SignificantEvent → SignificantEvent) : EstadoFiscal :=
  { s with events := s.events.updateWhere (HasKey.key · = id) f }

end EstadoFiscal

/-! ## Codes of the day -/

section Cufds

/-- The answer of `cufd`: the code, the control code, the address and the expiry. -/
structure RespuestaCufd where
  codigo : Text
  codigoControl : Text
  direccion : Option Text
  fechaVigencia : Instant
  deriving DecidableEq

def VIDA_UTIL_CUFD_MS : Int := 20 * 60 * 60 * 1000

/-- `CUFD_CONTINGENCIA_MS`: 72 hours. -/
def CUFD_CONTINGENCIA_MS : Int := 72 * 60 * 60 * 1000

/-- The row that was obtained last, among those that meet a condition. -/
def ultimoCufd (cufds : Table SiatCufdRow) (p : SiatCufdRow → Bool) : Option SiatCufdRow :=
  (cufds.rowsWhere p).foldl (fun mejor r =>
    match mejor with
    | none => some r
    | some m => if m.obtainedAt < r.obtainedAt then some r else some m) none

/-- The last code that is active and has not expired. -/
def cufdActual (s : EstadoFiscal) (perfilId : Nat) : Option SiatCufdRow :=
  ultimoCufd s.cufds fun r => r.issuerProfileId = perfilId ∧ r.isActive ∧ s.now < r.fechaVigencia

def SiatCufdRow.inactivo (r : SiatCufdRow) : SiatCufdRow := { r with isActive := false }

/-- A new code is stored, and the others of the issuer are no longer active. -/
def guardarCufd (s : EstadoFiscal) (perfilId : Nat) (r : RespuestaCufd) : EstadoFiscal × SiatCufdRow :=
  let cufds := s.cufds.updateWhere (fun fila => fila.issuerProfileId = perfilId ∧ fila.isActive) SiatCufdRow.inactivo
  let nuevo : Nat → SiatCufdRow := fun id =>
    { id, codigo := r.codigo, codigoControl := r.codigoControl, direccion := r.direccion, issuerProfileId := perfilId,
      isActive := true, fechaVigencia := r.fechaVigencia, obtainedAt := s.now }
  ({ s with cufds := cufds.create nuevo }, nuevo cufds.nextKey)

/-- `pedirCufd`: an answer without a code or a control code is refused. -/
def pedirCufd (s : EstadoFiscal) (perfilId : Nat) (respuesta : Option RespuestaCufd) :
    Option (EstadoFiscal × SiatCufdRow) :=
  match respuesta with
  | some r => if r.codigo = [] ∨ r.codigoControl = [] then none else some (guardarCufd s perfilId r)
  | none => none

/-- The code to issue with now; the authority is asked when there is none of the last 20 hours. -/
def cufdVigente (s : EstadoFiscal) (perfilId : Nat) (forzar : Bool) (respuesta : Option RespuestaCufd) :
    Option (EstadoFiscal × SiatCufdRow) :=
  match cufdActual s perfilId with
  | some vigente =>
    if forzar = false ∧ s.now - vigente.obtainedAt < VIDA_UTIL_CUFD_MS then some (s, vigente)
    else pedirCufd s perfilId respuesta
  | none => pedirCufd s perfilId respuesta

/-- The last code of the last 72 hours. -/
def cufdDeContingencia (s : EstadoFiscal) (perfilId : Nat) : Option SiatCufdRow :=
  ultimoCufd s.cufds fun r => r.issuerProfileId = perfilId ∧ s.now - CUFD_CONTINGENCIA_MS < r.obtainedAt

end Cufds

/-! ## Events -/

section Events

def EVENTO_INACCESIBILIDAD_SIN : Nat := 2

def eventoAbierto (s : EstadoFiscal) (perfilId : Nat) : Option SignificantEvent :=
  s.events.findBy fun e => e.issuerProfileId = perfilId ∧ e.status = .open

/-- The event that `abrir` creates: it begins a second before. -/
def eventoNuevo (perfilId cufdEventoId : Nat) (inicio : Instant) (id : Nat) : SignificantEvent where
  id := id
  issuerProfileId := perfilId
  codigoEvento := EVENTO_INACCESIBILIDAD_SIN
  descripcion := "INACCESIBILIDAD AL SERVICIO WEB DE LA ADMINISTRACIÓN TRIBUTARIA"
  inicio := inicio - 1000
  fin := none
  cufdEventoId := cufdEventoId
  cufdEnvioId := none
  codigoRecepcionEvento := none
  status := .open

/-- The insertion of an event; `none` when `uq_siat_significant_event_open` refuses it. -/
def crearEvento (s : EstadoFiscal) (perfilId cufdEventoId : Nat) (inicio : Instant) :
    Option (EstadoFiscal × SignificantEvent) :=
  match eventoAbierto s perfilId with
  | some _ => none
  | none =>
    let nuevo := eventoNuevo perfilId cufdEventoId inicio
    some ({ s with events := s.events.create nuevo }, nuevo s.events.nextKey)

/-- `status: 'CLOSED', fin: now`. -/
def SignificantEvent.cerrado (now : Instant) (e : SignificantEvent) : SignificantEvent :=
  { e with status := .closed, fin := some now }

def SignificantEvent.registrado (codigo : Text) (cufdEnvioId : Nat) (e : SignificantEvent) : SignificantEvent :=
  { e with status := .registered, codigoRecepcionEvento := some codigo, cufdEnvioId := some cufdEnvioId }

def SignificantEvent.despachado (e : SignificantEvent) : SignificantEvent := { e with status := .dispatched }

end Events

/-! ## Packages -/

section Packages

def MAX_FACTURAS_PAQUETE : Nat := 500

/-- `ORDER BY numero_factura`; a null comes last. -/
def porNumero (d d' : DocumentoSiat) : Prop :=
  match d.numeroFactura, d'.numeroFactura with
  | some n, some n' => n ≤ n'
  | some _, none => True
  | none, some _ => False
  | none, none => True

instance : DecidableRel porNumero := fun d d' => by
  unfold porNumero
  cases d.numeroFactura <;> cases d'.numeroFactura <;> infer_instance

/-- The documents that meet a condition, by number. -/
def documentosPorNumero (s : EstadoFiscal) (p : DocumentoSiat → Bool) : List DocumentoSiat :=
  (s.documents.rowsWhere p).insertionSort porNumero

/-- The documents of an event that wait for a package. -/
def fueraDeLinea (eventId : Nat) (d : DocumentoSiat) : Bool := d.eventId = some eventId ∧ d.siatStatus = .offline

/-- The loop of `lotes`: `actual` has `bytes`. -/
def lotesDesde (c : SiatConfig) (actual : List DocumentoSiat) (bytes : Nat) :
    List DocumentoSiat → List (List DocumentoSiat)
  | [] => if actual = [] then [] else [actual]
  | documento :: documentos =>
    let peso := c.gzipLength documento.xml * 2
    if actual.length = MAX_FACTURAS_PAQUETE ∨ (0 < actual.length ∧ c.packageMaxBytes < bytes + peso) then
      actual :: lotesDesde c [documento] peso documentos
    else lotesDesde c (actual ++ [documento]) (bytes + peso) documentos

def lotes (c : SiatConfig) (documentos : List DocumentoSiat) : List (List DocumentoSiat) := lotesDesde c [] 0 documentos

/-- `${numeroFactura}.xml`. -/
def DocumentoSiat.archivo (d : DocumentoSiat) : ArchivoTar where
  nombre := (match d.numeroFactura with | some n => decimalText n | none => "null".toList) ++ ".xml".toList
  contenido := d.xml

def empaquetarFacturas (lote : List DocumentoSiat) : List ArchivoTar := lote.map (·.archivo)

/-- The row of a package. -/
def paqueteNuevo (now : Instant) (eventId : Nat) (lote : List DocumentoSiat) (codigoRecepcion : Text) (id : Nat) :
    SiatPackage where
  id := id
  eventId := eventId
  cantidadFacturas := lote.length
  codigoRecepcion := codigoRecepcion
  codigoEstado := some CODIGO_ESTADO.PENDIENTE
  mensajes := []
  sentAt := now
  validatedAt := none

/-- A document is in a package. -/
def DocumentoSiat.empaquetado (now : Instant) (packageId : Nat) (fila : DocumentoSiat) : DocumentoSiat :=
  { fila with siatStatus := .packaged, packageId := some packageId, sentAt := some now }

/-- The transaction that records a package. -/
def registrarPaquete (s : EstadoFiscal) (eventId : Nat) (lote : List DocumentoSiat) (codigoRecepcion : Text) :
    Option EstadoFiscal :=
  let packageId := s.packages.nextKey
  { s with packages := s.packages.create (paqueteNuevo s.now eventId lote codigoRecepcion) }.conDocumentos
    (s.documents.updateWhere (HasKey.key · ∈ lote.map HasKey.key) (DocumentoSiat.empaquetado s.now packageId))

/-- The verdict for the document at a position of the package. -/
def veredicto (codigoEstado : Option Nat) (mensajes : List SiatMensaje) (indice : Nat) : EstadoFinal :=
  let propios := mensajes.filter fun m => m.numeroArchivo = some indice
  let errores := propios.filter fun m => m.advertencia = false ∧ accionPara m.codigo ≠ .advertencia
  if codigoEstado = some CODIGO_ESTADO.RECHAZADA ∧ propios.length = 0 then .rejected
  else if 0 < errores.length then .rejected
  else if 0 < propios.length then .observed
  else .accepted

/-- What the verdict writes. -/
def aplicarVeredicto (paquete : SiatPackage) (codigoEstado : Option Nat) (mensajes : List SiatMensaje) (indice : Nat)
    (copia fila : DocumentoSiat) : DocumentoSiat :=
  let estado := veredicto codigoEstado mensajes indice
  { fila with
    siatStatus := cambio copia.siatStatus estado.siatStatus fila.siatStatus
    codigoEstadoSin := cambio copia.codigoEstadoSin
      (if estado = .accepted then some CODIGO_ESTADO.VALIDADA else codigoEstado) fila.codigoEstadoSin
    mensajes := cambio copia.mensajes (mensajes.filter fun m => m.numeroArchivo = some indice) fila.mensajes
    codigoRecepcion := cambio copia.codigoRecepcion (some paquete.codigoRecepcion) fila.codigoRecepcion }

/-- The row of a document after the verdicts of a package: each writes its own document. -/
def aplicarVeredictos (paquete : SiatPackage) (codigoEstado : Option Nat) (mensajes : List SiatMensaje)
    (documentos : List DocumentoSiat) (fila : DocumentoSiat) : DocumentoSiat :=
  documentos.zipIdx.foldl (fun fila (copia, indice) =>
    if copia.id = fila.id then aplicarVeredicto paquete codigoEstado mensajes indice copia fila else fila) fila

/-- The answer for a package is stored. -/
def SiatPackage.validado (now : Instant) (codigoEstado : Option Nat) (mensajes : List SiatMensaje) (p : SiatPackage) :
    SiatPackage :=
  { p with codigoEstado, mensajes, validatedAt := some now }

/-- The transaction that applies the answer for a package. -/
def aplicarResultado (s : EstadoFiscal) (paquete : SiatPackage) (documentos : List DocumentoSiat)
    (codigoEstado : Option Nat) (mensajes : List SiatMensaje) : Option EstadoFiscal :=
  { s with
    packages := s.packages.updateWhere (HasKey.key · = paquete.id)
      (SiatPackage.validado s.now codigoEstado mensajes) }.conDocumentos
    (s.documents.updateWhere (fun _ => true) (aplicarVeredictos paquete codigoEstado mensajes documentos))

end Packages

end AtlasErp
