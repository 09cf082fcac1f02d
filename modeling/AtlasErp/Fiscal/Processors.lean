import AtlasErp.Fiscal.Contingency
import AtlasErp.Lib.Workers

/-! # Emissions, the fiscal queue and contingencies, together

Every emission and every body of a loop of the processors (a document that is sent or rescued, an event that is
dispatched, a package that is validated) is a worker of its own, which goes from one await to the next; so the
instances of the processor, and the loops of one instance, may interleave in any way.

- `seguir`: what a worker does next; `suceder`: what happens outside;
- `siatWorkers`, `siatMachine`: the workers, and their interleavings. -/

namespace AtlasErp

open Lib

/-! ## Points -/

/-- What a contingency is opened for. -/
inductive ParaQue where
  | emitir (cuis : Text)
  | regenerar (copia : DocumentoSiat) (mensajes : List SiatMensaje)

/-- Where a worker is, with the copies it holds. -/
inductive PuntoSiat where
  | preparando (perfil : SiatIssuerProfile) (eventoAbierto : Option SignificantEvent)
  /-- `abrir`: about to look for an open event, -/
  | abriendo (perfil : SiatIssuerProfile) (cufd : SiatCufd) (inicio : Instant) (para : ParaQue)
  /-- to create one, -/
  | creando (perfil : SiatIssuerProfile) (cufd : SiatCufd) (inicio : Instant) (para : ParaQue)
  /-- and to look again. -/
  | reintentando (perfil : SiatIssuerProfile) (cufd : SiatCufd) (para : ParaQue)
  | preparada (preparada : EmisionPreparada)
  /-- The row is inserted, in a transaction that has not ended. -/
  | insertada (fila : FiscalDocument)
  | reclamando (ids : List Nat)
  | adelantando (id : Nat)
  | porEnviar (copia : DocumentoSiat)
  /-- Request `k` was sent. -/
  | esperando (copia : DocumentoSiat) (k : Nat)
  | consultando (copia : DocumentoSiat)
  | porAplicar (copia : DocumentoSiat) (desenlace : Desenlace)
  | regenerando (copia : DocumentoSiat) (perfil : SiatIssuerProfile) (mensajes : List SiatMensaje)
      (evento : SignificantEvent)
  | despachando (evento : SignificantEvent)
  | registrando (evento : SignificantEvent) (cufdEnvioId : Nat)
  | empaquetando (evento : SignificantEvent) (lotes : List (List DocumentoSiat))
  /-- Package `k` was sent. -/
  | esperandoPaquete (evento : SignificantEvent) (lote : List DocumentoSiat) (k : Nat)
      (lotes : List (List DocumentoSiat))
  | recibido (evento : SignificantEvent) (lote : List DocumentoSiat) (k : Nat) (codigoRecepcion : Text)
      (lotes : List (List DocumentoSiat))
  /-- No document of the event was left. -/
  | sinPendientes (evento : SignificantEvent)
  | validando (paquete : SiatPackage)
  | validandoDocumentos (paquete : SiatPackage) (documentos : List DocumentoSiat)

inductive TareaSiat where
  | preparar (perfilId : Nat)
  | reclamar (ids : List Nat)
  | adelantar (id : Nat)
  | enviar (id : Nat)
  | rescatar (id : Nat)
  | despachar (eventId : Nat)
  | validar (packageId : Nat)
  deriving DecidableEq

/-- What a worker gets from outside for its next action. -/
inductive EntradaSiat where
  | sigue
  /-- There is communication: the CUIS, the answer when a code of the day is asked for, and whether the number of
  the receiver is valid. -/
  | enLinea (cuis : Text) (cufd : Option RespuestaCufd) (nitValido : Option Bool)
  /-- There is no communication, or an event is open. -/
  | fueraDeLinea (cuis : Text)
  | documento (documento : DocumentoAEmitir)
  | cufd (respuesta : Option RespuestaCufd)
  | llamada (llamada : SiatLlamada)

/-- What happens outside: time, and what the authority does with what it receives. -/
inductive SucesoSin where
  | tick (ms : Nat)
  | sirveFactura (k : Nat) (codigoRecepcion : Option Text)
  | sirvePaquete (k : Nat) (codigoRecepcion : Option Text)
  | validaPaquete (k : Nat) (validados : List Nat)
  deriving DecidableEq

/-- The row of a series that an open transaction updated, and the package whose answer is awaited. -/
inductive RecursoSiat where
  | serie (issuerProfileId : Option Nat)
  | paquete (k : Nat)
  deriving DecidableEq

/-! ## What the authority may answer -/

section Sin

/-- What a request became once it is served. -/
def servido (codigoRecepcion : Option Text) : EstadoEnvio :=
  match codigoRecepcion with
  | some codigo => .recibido codigo
  | none => .rechazado

def EstadoEnvio.esRecibido : EstadoEnvio → Bool
  | .recibido _ => true
  | _ => false

/-- A CUF was validated, on its own or in a package. -/
def EstadoFiscal.validada (s : EstadoFiscal) (cuf : Option Text) : Bool :=
  (s.facturas.any fun f => f.documento.cuf = cuf && f.estado.esRecibido) ||
    s.paquetes.any fun p => p.lote.zipIdx.any fun (d, i) => d.cuf = cuf && i ∈ p.validados

/-- An answer that says the document was taken comes only when it was, and a refusal only when it was refused. -/
def recepcionPosible (estado : EstadoEnvio) (respuesta : SiatRespuesta) : Bool :=
  if respuesta.codigoEstado = some CODIGO_ESTADO.VALIDADA ∨ respuesta.codigoEstado = some CODIGO_ESTADO.OBSERVADA then
    estado.esRecibido
  else if respuesta.codigoEstado = some CODIGO_ESTADO.RECHAZADA then estado = .rechazado
  else true

/-- The status of a CUF is told as it is. -/
def consultaPosible (s : EstadoFiscal) (cuf : Option Text) (respuesta : SiatRespuesta) : Bool :=
  if respuesta.codigoEstado = some CODIGO_ESTADO.VALIDADA ∨ respuesta.codigoEstado = some CODIGO_ESTADO.OBSERVADA then
    s.validada cuf
  else true

/-- A package is acknowledged with the code it was taken in under. -/
def paquetePosible (estado : EstadoEnvio) (respuesta : SiatRespuesta) : Bool :=
  match respuesta.codigoEstado, respuesta.codigoRecepcion with
  | some codigoEstado, some codigo => codigoEstado = CODIGO_ESTADO.PENDIENTE → estado = .recibido codigo
  | _, _ => true

end Sin

/-! ## Actions -/

section Actions

variable (c : SiatConfig)

/-- `emitirEnTransaccion`: the row, with the next number of the series. -/
def emitirEnTransaccion (s : EstadoFiscal) (preparada : EmisionPreparada) (documento : DocumentoAEmitir) :
    Except HttpError FiscalDocument := do
  comprobarReceptor documento.receptor
  let totales ← totalesDe documento
  let serie ← orFail (s.series.find? preparada.perfil.id)
    (unprocessable "FISCAL_SERIES_MISSING" "El emisor no tiene serie fiscal.")
  failIf (MAX_NUMERO_FACTURA < serie.lastNumber + 1) (internalError "ck_siat_number_series_range")
  filaFiscal ⟨preparada, documento, s.now, c.fechaHoraLocal preparada.perfil.id s.now⟩ totales (serie.lastNumber + 1)

/-- A document as it is issued. -/
def DocumentoSiat.nuevo (fila : FiscalDocument) (id : Nat) : DocumentoSiat where
  toFiscalDocument := { fila with id }
  packageId := none
  sentAt := none
  codigoRecepcion := none
  codigoEstadoSin := none
  mensajes := []
  lastError := none
  annulmentMotivo := none
  annulledAt := none

/-- The commit of an emission. -/
def confirmarEmision (s : EstadoFiscal) (fila : FiscalDocument) : Option EstadoFiscal :=
  { s with series := s.series.updateWhere (fun r => some (HasKey.key r) = fila.issuerProfileId) SerieFiscal.siguiente }.conDocumentos
    (s.documents.create (.nuevo fila))

/-- The issuer and the code of a document. -/
def contexto (s : EstadoFiscal) (d : DocumentoSiat) : Option (SiatIssuerProfile × SiatCufd) :=
  (d.issuerProfileId.bind c.perfiles.find?).bind fun perfil =>
    (d.cufdId.bind s.cufds.find?).map fun cufd => (perfil, cufd.toSiatCufd)

/-- With an event open, the emission or the regeneration goes on. -/
def abierto (perfil : SiatIssuerProfile) (cufd : SiatCufd) (e : SignificantEvent) : ParaQue → PuntoSiat
  | .emitir cuis => .preparada ⟨perfil, cuis, cufd, .fueraDeLinea, some e.id, none⟩
  | .regenerar copia mensajes => .regenerando copia perfil mensajes e

/-- `regenerarFueraDeLinea`, up to `abrir`. -/
def regenerarFueraDeLinea (s : EstadoFiscal) (copia : DocumentoSiat) (mensajes : List SiatMensaje) :
    Option PuntoSiat :=
  (contexto c s copia).map fun (perfil, cufd) =>
    .abriendo perfil cufd copia.emittedAt (.regenerar copia mensajes)

/-- A write that ends what a worker does; an error ends it too. -/
def termina (s : EstadoFiscal) (s' : Option EstadoFiscal) : EstadoFiscal × Option PuntoSiat := (s'.getD s, none)

/-- A task begins. -/
def empezar (s : EstadoFiscal) : TareaSiat → Option PuntoSiat
  | .preparar perfilId => (c.perfiles.find? perfilId).map fun perfil => .preparando perfil (eventoAbierto s perfil.id)
  | .reclamar ids => some (.reclamando ids)
  | .adelantar id => some (.adelantando id)
  | .enviar id =>
    (s.documents.find? id).bind fun d =>
      if d.siatStatus = .sent ∧ (contexto c s d).isSome then some (.porEnviar d) else none
  | .rescatar id =>
    (s.documents.find? id).bind fun d => if d.huerfano c s.now then some (.consultando d) else none
  | .despachar eventId =>
    (s.events.find? eventId).bind fun e =>
      if e.status ≠ .dispatched ∧ (c.perfiles.find? e.issuerProfileId).isSome then some (.despachando e) else none
  | .validar packageId =>
    (s.packages.find? packageId).bind fun p => if p.validatedAt = none then some (.validando p) else none

/-- What a worker does next. -/
def seguir (s : EstadoFiscal) : PuntoSiat → EntradaSiat → Option (EstadoFiscal × Option PuntoSiat)
  | .preparando perfil none, .enLinea cuis respuesta nitValido =>
    (cufdVigente s perfil.id false respuesta).map fun (s', cufd) =>
      (s', some (.preparada ⟨perfil, cuis, cufd.toSiatCufd, .enLinea, none, nitValido⟩))
  | .preparando perfil (some e), .fueraDeLinea cuis =>
    -- all the invoices of an event share its code
    some (s, (s.cufds.find? e.cufdEventoId).map fun cufd =>
      .preparada ⟨perfil, cuis, cufd.toSiatCufd, .fueraDeLinea, some e.id, none⟩)
  | .preparando perfil none, .fueraDeLinea cuis =>
    some (s, (cufdDeContingencia s perfil.id).map fun cufd => .abriendo perfil cufd.toSiatCufd s.now (.emitir cuis))
  | .abriendo perfil cufd inicio para, .sigue =>
    match eventoAbierto s perfil.id with
    | some e => some (s, some (abierto perfil cufd e para))
    | none => some (s, some (.creando perfil cufd inicio para))
  | .creando perfil cufd inicio para, .sigue =>
    match crearEvento s perfil.id cufd.id inicio with
    | some (s', e) => some (s', some (abierto perfil cufd e para))
    | none => some (s, some (.reintentando perfil cufd para))
  | .reintentando perfil cufd para, .sigue =>
    some (s, (eventoAbierto s perfil.id).map fun e => abierto perfil cufd e para)
  | .preparada preparada, .documento documento =>
    match emitirEnTransaccion c s preparada documento with
    | .ok fila => some (s, some (.insertada fila))
    | .error _ => some (s, none)
  | .insertada fila, .sigue => some (termina s (confirmarEmision s fila))
  | .reclamando ids, .sigue =>
    some (termina s (s.conDocumentos (s.documents.updateWhere
      (fun d => HasKey.key d ∈ ids ∧ d.reclamable s.now) (DocumentoSiat.reclamado s.now))))
  | .adelantando id, .sigue => some (termina s (s.actualizarDocumento id (DocumentoSiat.adelantado s.now)))
  | .porEnviar copia, .sigue =>
    some ({ s with facturas := s.facturas ++ [⟨copia, .pendiente⟩] }, some (.esperando copia s.facturas.length))
  | .esperando copia k, .llamada (.ok respuesta) =>
    if (s.facturas[k]?).any fun f => recepcionPosible f.estado respuesta then
      match interpretarRecepcion respuesta with
      | .consultar _ => some (s, some (.consultando copia))
      | desenlace => some (s, some (.porAplicar copia desenlace))
    else none
  | .esperando copia k, .llamada (.error error) =>
    if error.enviado then some (s, some (.consultando copia))
    else if (s.facturas[k]?).any (·.estado.esRecibido) then none
    else some ({ s with facturas := s.facturas.set k ⟨copia, .rechazado⟩ },
      some (.porAplicar copia (.error [] error.message false)))
  | .consultando copia, .llamada l =>
    match contexto c s copia, l with
    | none, _ => some (s, some (.porAplicar copia (.error [] "Sin emisor" true)))
    | some _, .ok respuesta =>
      if consultaPosible s copia.cuf respuesta then some (s, some (.porAplicar copia (consultar (.ok respuesta))))
      else none
    | some _, .error error => some (s, some (.porAplicar copia (consultar (.error error))))
  | .porAplicar copia (.final estado codigo mensajes), .sigue =>
    some (termina s (s.actualizarDocumento copia.id (aplicarFinal copia estado codigo mensajes)))
  | .porAplicar copia (.regenerar mensajes), .sigue => some (s, regenerarFueraDeLinea c s copia mensajes)
  | .porAplicar copia (.error mensajes motivo _), .sigue =>
    if ventanaAgotada c s.now copia then some (s, regenerarFueraDeLinea c s copia mensajes)
    else some (termina s (s.actualizarDocumento copia.id (aplicarError s.now copia mensajes motivo)))
  | .porAplicar copia (.consultar mensajes), .sigue =>
    if ventanaAgotada c s.now copia then some (s, regenerarFueraDeLinea c s copia mensajes)
    else some (termina s (s.actualizarDocumento copia.id
      (aplicarError s.now copia mensajes "Consulta sin respuesta")))
  | .regenerando copia perfil mensajes e, .sigue =>
    match s.cufds.find? e.cufdEventoId with
    | none => some (s, none)
    | some cufdEvento =>
      match cufRegenerado perfil copia cufdEvento.toSiatCufd with
      | .error _ => some (s, none)
      | .ok cuf => some (termina s (s.actualizarDocumento copia.id
          (aplicarRegeneracion copia e.id cufdEvento.toSiatCufd cuf mensajes)))
  | .despachando e, entrada =>
    match e.status, entrada with
    | .open, .sigue =>
      some (s.actualizarEvento e.id (SignificantEvent.cerrado s.now), some (.despachando (e.cerrado s.now)))
    | .closed, .cufd respuesta =>
      match cufdVigente s e.issuerProfileId true respuesta with
      | some (s', cufd) => some (s', some (.registrando e cufd.id))
      | none => some (s, none)
    | .registered, .sigue =>
      some (s, (e.cufdEnvioId.bind s.cufds.find?).map fun _ =>
        .empaquetando e (lotes c (documentosPorNumero s (fueraDeLinea e.id))))
    | _, _ => none
  | .registrando _ _, .llamada (.error _) => some (s, none)
  | .registrando e cufdEnvioId, .llamada (.ok respuesta) =>
    match respuesta.transaccion, respuesta.codigoRecepcionEventoSignificativo with
    | some false, _ => some (s, none)
    | _, none => some (s, none)
    | _, some codigo =>
      some (s.actualizarEvento e.id (SignificantEvent.registrado codigo cufdEnvioId),
        some (.despachando (e.registrado codigo cufdEnvioId)))
  | .empaquetando e [], .sigue =>
    -- the count, and then the update
    if s.documents.rowsWhere (fueraDeLinea e.id) = [] then some (s, some (.sinPendientes e)) else some (s, none)
  | .empaquetando e (lote :: lotes), .sigue =>
    some ({ s with paquetes := s.paquetes ++ [⟨e.id, lote, empaquetarFacturas lote, .pendiente, []⟩] },
      some (.esperandoPaquete e lote s.paquetes.length lotes))
  | .esperandoPaquete .., .llamada (.error _) => some (s, none)
  | .esperandoPaquete e lote k lotes, .llamada (.ok respuesta) =>
    if (s.paquetes[k]?).any fun p => paquetePosible p.estado respuesta then
      match respuesta.codigoRecepcion with
      | none => some (s, none)
      | some codigo =>
        if respuesta.codigoEstado ≠ some CODIGO_ESTADO.PENDIENTE ∨ codigo = [] then some (s, none)
        else some (s, some (.recibido e lote k codigo lotes))
    else none
  | .recibido e lote _ codigo lotes, .sigue =>
    match registrarPaquete s e.id lote codigo with
    | some s' => some (s', some (.empaquetando e lotes))
    | none => some (s, none)
  | .sinPendientes e, .sigue => some (s.actualizarEvento e.id SignificantEvent.despachado, none)
  | .validando p, .sigue =>
    some (s, (s.events.find? p.eventId).bind fun e =>
      if (c.perfiles.find? e.issuerProfileId).isSome ∧ (e.cufdEnvioId.bind s.cufds.find?).isSome then
        some (.validandoDocumentos p (documentosPorNumero s (·.packageId = some p.id)))
      else none)
  | .validandoDocumentos _ _, .llamada (.error _) => some (s, none)
  | .validandoDocumentos p documentos, .llamada (.ok respuesta) =>
    if respuesta.codigoEstado = some CODIGO_ESTADO.PENDIENTE then some (s, none)
    else some (termina s (aplicarResultado s p documentos respuesta.codigoEstado respuesta.mensajesList))
  | _, _ => none

/-- What happens outside.  A code of reception is given once. -/
def suceder (s : EstadoFiscal) : SucesoSin → Option EstadoFiscal
  | .tick ms => some { s with now := s.now + ms }
  | .sirveFactura k codigo =>
    match s.facturas[k]? with
    | some ⟨d, .pendiente⟩ => some { s with facturas := s.facturas.set k ⟨d, servido codigo⟩ }
    | _ => none
  | .sirvePaquete k codigo =>
    match s.paquetes[k]? with
    | some ⟨e, lote, archivos, .pendiente, validados⟩ =>
      if codigo.any fun codigo => s.paquetes.any fun p => p.estado = .recibido codigo then none
      else some { s with paquetes := s.paquetes.set k ⟨e, lote, archivos, servido codigo, validados⟩ }
    | _ => none
  | .validaPaquete k validados =>
    match s.paquetes[k]? with
    | some ⟨e, lote, archivos, .recibido codigo, []⟩ =>
      some { s with paquetes := s.paquetes.set k ⟨e, lote, archivos, .recibido codigo, validados⟩ }
    | _ => none

def PuntoSiat.recursos : PuntoSiat → List RecursoSiat
  | .insertada fila => [.serie fila.issuerProfileId]
  | .esperandoPaquete _ _ k _ | .recibido _ _ k _ _ => [.paquete k]
  | _ => []

/-- The emissions and the processors. -/
def siatWorkers : Workers EstadoFiscal TareaSiat EntradaSiat SucesoSin RecursoSiat PuntoSiat where
  start tarea s := empezar c s tarea
  holds := PuntoSiat.recursos
  next p entrada s := seguir c s p entrada
  outside suceso s := suceder s suceso

/-- A store without documents, codes, events or packages. -/
def SinHistoria (s : EstadoFiscal) : Prop :=
  s.documents = .empty ∧ s.cufds = .empty ∧ s.events = .empty ∧ s.packages = .empty ∧ s.facturas = [] ∧
    s.paquetes = []

/-- Any interleaving, from the first day. -/
def siatMachine : Machine (Sessions EstadoFiscal PuntoSiat) (WorkerAct TareaSiat EntradaSiat SucesoSin) :=
  (siatWorkers c).machine SinHistoria

end Actions

/-! ## An installation -/

/-- The local time of America/La_Paz, as `fechaHoraLocal` writes it. -/
def fechaHoraLaPaz (t : Instant) : Text :=
  let ms := (t - 4 * 3600 * 1000) % 86400000
  (dateText (businessDate t) ++ "T" ++ padded 2 (ms / 3600000) ++ ":" ++ padded 2 (ms / 60000 % 60) ++ ":" ++
    padded 2 (ms / 1000 % 60) ++ "." ++ padded 3 (ms % 1000)).toList

example : fechaHoraLaPaz 1790424000675 = "2026-09-26T08:00:00.675".toList := by decide

/-- One issuer, in La Paz. -/
def exampleSiat : SiatConfig where
  perfiles := ⟨[(exampleEmision 5).preparada.perfil], List.nodup_singleton _⟩
  fechaHoraLocal _ := fechaHoraLaPaz
  gzipLength := List.length
  packageMaxBytes := 100000
  onlineMaxAttempts := 5
  onlineWindowMs := 120000
  httpTimeoutMs := 15000

/-- Its series, on the first day. -/
def exampleFiscal : EstadoFiscal where
  now := 1790424000000
  series := ⟨[⟨1, 41⟩], unaSerie_nodup⟩
  documents := .empty
  events := .empty
  packages := .empty
  cufds := .empty
  facturas := []
  paquetes := []

theorem exampleFiscal_sinHistoria : (siatMachine exampleSiat).init ⟨exampleFiscal, []⟩ :=
  ⟨⟨rfl, rfl, rfl, rfl, rfl, rfl⟩, rfl⟩

/-- A code of the day, as the authority gives it. -/
def exampleCufd : RespuestaCufd := ⟨"C3D4".toList, "A19E23".toList, none, 1790510400000⟩

/-- An answer that says nothing. -/
def respuestaVacia : SiatRespuesta := ⟨none, [], none, none, none⟩

end AtlasErp
