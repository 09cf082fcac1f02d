import AtlasErp.Fiscal.Numbering

/-! # Dispatch of fiscal documents

What the processor of the fiscal queue does with one document: how it reads the answers of the tax
authority and what it writes in the row.

- `interpretarRecepcion`, `consultar`: what an answer means;
- `aplicarFinal`, `aplicarError`, `aplicarRegeneracion`: the writes.  An update of a loaded row writes only the
  columns that differ from the copy it was loaded as (`cambio`);
- `xmlRegenerado`: the XML of a document that is issued again without a connection. -/

namespace AtlasErp

open Lib

/-! ## Codes -/

inductive AccionSiat where
  | estado
  | renovarCredenciales
  | configuracion
  | documento
  | consultar
  | envio
  | evento
  | advertencia
  | anulacion
  | transporte
  | desconocido
  deriving DecidableEq

def rango (desde hasta : Nat) : List Nat := List.range' desde (hasta + 1 - desde)

def CLASES : List (AccionSiat × List Nat) :=
  [(.estado, [901, 902, 903, 904, 905, 906, 907, 908, 909, 926, 978, 986, 987]),
    (.renovarCredenciales, [913, 929, 973, 988, 914, 953, 123, 970, 980, 3008]),
    (.configuracion, [930, 959, 979, 989, 958]),
    (.documento,
      [910, 911, 912, 915, 916, 917, 918, 919, 931, 932, 933, 1008, 937, 940, 975, 977, 990, 1016, 1017, 1007, 961,
        962, 963, 964, 965, 3003, 3004, 3005, 3006, 3007, 920, 969, 939] ++ rango 1001 1006 ++
      [1009, 1034, 1035, 1041, 1051, 1010, 1011, 1012, 1013, 1014, 1015, 1018] ++ rango 1024 1030 ++
      rango 1054 1060 ++ [1036, 1037, 1023, 938]),
    (.consultar, [952, 1000, 944, 942, 923, 957]),
    (.envio, [935, 943, 993, 983, 954, 956, 972, 985, 984, 1040, 971, 3009]),
    (.evento, [950, 951, 960, 974, 981, 996, 976]),
    (.advertencia, rango 2000 2019),
    (.anulacion, [925, 934, 936, 941, 945, 968, 924, 946, 3010]),
    (.transporte, [967, 991, 992, 995, 999])]

/-- What a code means: its first class. -/
def accionPara (codigo : Nat) : AccionSiat :=
  ((CLASES.find? fun clase => codigo ∈ clase.2).map (·.1)).getD .desconocido

namespace CODIGO_ESTADO

def PENDIENTE : Nat := 901
def RECHAZADA : Nat := 902
def OBSERVADA : Nat := 904
def ANULACION_CONFIRMADA : Nat := 905
def VALIDADA : Nat := 908

end CODIGO_ESTADO

/-! ## Answers -/

structure SiatMensaje where
  codigo : Nat
  advertencia : Bool
  numeroArchivo : Option Nat
  deriving DecidableEq

/-- The fields that are read of an answer. -/
structure SiatRespuesta where
  transaccion : Option Bool
  mensajesList : List SiatMensaje
  codigoEstado : Option Nat
  codigoRecepcion : Option Text
  codigoRecepcionEventoSignificativo : Option Text
  deriving DecidableEq

/-- A call without an answer; `enviado` tells that the request may have gone out. -/
structure SiatTransportError where
  message : String
  enviado : Bool
  deriving DecidableEq

abbrev SiatLlamada := Except SiatTransportError SiatRespuesta

/-- A row of `electronic_tax_document` with the columns of the workers. -/
structure DocumentoSiat extends FiscalDocument where
  packageId : Option Nat
  sentAt : Option Instant
  codigoRecepcion : Option Text
  codigoEstadoSin : Option Nat
  mensajes : List SiatMensaje
  lastError : Option String
  annulmentMotivo : Option Nat
  annulledAt : Option Instant
  deriving DecidableEq

instance : HasKey DocumentoSiat where
  key d := d.id
  withKey k d := { d with id := k }
  key_withKey _ _ := rfl
  withKey_key _ := rfl

/-- The statuses that an answer can give for good. -/
inductive EstadoFinal where
  | accepted
  | observed
  | rejected
  | voided
  deriving DecidableEq

def EstadoFinal.siatStatus : EstadoFinal → SiatStatus
  | .accepted => .accepted
  | .observed => .observed
  | .rejected => .rejected
  | .voided => .voided

inductive Desenlace where
  | final (estado : EstadoFinal) (codigo : Option Nat) (mensajes : List SiatMensaje)
  | consultar (mensajes : List SiatMensaje)
  | regenerar (mensajes : List SiatMensaje)
  | error (mensajes : List SiatMensaje) (motivo : String) (alerta : Bool)
  deriving DecidableEq

/-- `String(codigoEstado)`. -/
def codigoEstadoTexto : Option Nat → String
  | some codigo => toString codigo
  | none => "undefined"

/-- What to do with the answer of `recepcionFactura`. -/
def interpretarRecepcion (respuesta : SiatRespuesta) : Desenlace :=
  let mensajes := respuesta.mensajesList
  if respuesta.codigoEstado = some CODIGO_ESTADO.VALIDADA then .final .accepted (some 908) mensajes
  else if respuesta.codigoEstado = some CODIGO_ESTADO.OBSERVADA then .final .observed (some 904) mensajes
  else if respuesta.codigoEstado ≠ some CODIGO_ESTADO.RECHAZADA then
    .error mensajes ("Estado del SIN no previsto: " ++ codigoEstadoTexto respuesta.codigoEstado) true
  else if mensajes.any fun m => accionPara m.codigo = .consultar then .consultar mensajes
  else if mensajes.any fun m => accionPara m.codigo = .renovarCredenciales ∨ m.codigo = 1009 then .regenerar mensajes
  else if mensajes = [] ∨ mensajes.any fun m => accionPara m.codigo ∈ [.desconocido, .transporte, .envio] then
    .error mensajes "El SIN rechazó con un código que no es del documento; se reintenta."
      ((mensajes.any fun m => accionPara m.codigo = .desconocido) || mensajes = [])
  else .final .rejected (some 902) mensajes

/-- What the answer of `verificacionEstadoFactura` means. -/
def consultar : SiatLlamada → Desenlace
  | .ok respuesta =>
    let mensajes := respuesta.mensajesList
    if respuesta.codigoEstado = some CODIGO_ESTADO.VALIDADA then .final .accepted (some 908) mensajes
    else if respuesta.codigoEstado = some CODIGO_ESTADO.OBSERVADA then .final .observed (some 904) mensajes
    else if respuesta.codigoEstado = some CODIGO_ESTADO.ANULACION_CONFIRMADA then .final .voided (some 905) mensajes
    else .error mensajes "El SIN no tiene registrada la factura; se reenvía." false
  | .error error => .error [] ("Sin respuesta al consultar: " ++ error.message) false

/-! ## Writes -/

section Writes

/-- A column after an update of a row that was loaded before: it is written only when the new value differs from
the loaded one. -/
def cambio {β : Type} [DecidableEq β] (cargado nuevo actual : β) : β := if nuevo = cargado then actual else nuevo

@[simp] theorem cambio_of_loaded {β : Type} [DecidableEq β] (cargado nuevo : β) : cambio cargado nuevo cargado = nuevo := by
  unfold cambio
  split <;> simp [*]

theorem cambio_eq_or {β : Type} [DecidableEq β] (cargado nuevo actual : β) :
    cambio cargado nuevo actual = nuevo ∨ cambio cargado nuevo actual = actual := by
  unfold cambio
  split
  · exact .inr rfl
  · exact .inl rfl

theorem cambio_of_ne {β : Type} [DecidableEq β] {cargado nuevo : β} (h : nuevo ≠ cargado) (actual : β) :
    cambio cargado nuevo actual = nuevo := if_neg h

instance : HasKey SiatIssuerProfile where
  key p := p.id
  withKey k p := { p with id := k }
  key_withKey _ _ := rfl
  withKey_key _ := rfl

/-- What the processor is configured with. -/
structure SiatConfig where
  perfiles : Table SiatIssuerProfile
  /-- The local time of an issuer. -/
  fechaHoraLocal : Nat → Instant → Text
  /-- The bytes of a text once compressed. -/
  gzipLength : Text → Nat
  packageMaxBytes : Nat
  onlineMaxAttempts : Nat
  onlineWindowMs : Int
  httpTimeoutMs : Int

/-- The online window of a document is over. -/
def ventanaAgotada (c : SiatConfig) (now : Instant) (d : DocumentoSiat) : Bool :=
  c.onlineMaxAttempts ≤ d.attemptCount ∨ c.onlineWindowMs < now - d.emittedAt

def ESPERA_MAXIMA_MS : Nat := 60000

/-- `aplicar` of a status that is given for good. -/
def aplicarFinal (copia : DocumentoSiat) (estado : EstadoFinal) (codigo : Option Nat) (mensajes : List SiatMensaje)
    (fila : DocumentoSiat) : DocumentoSiat :=
  { fila with
    siatStatus := cambio copia.siatStatus estado.siatStatus fila.siatStatus
    codigoEstadoSin := cambio copia.codigoEstadoSin codigo fila.codigoEstadoSin
    mensajes := cambio copia.mensajes mensajes fila.mensajes
    lastError := cambio copia.lastError none fila.lastError
    nextAttemptAt := cambio copia.nextAttemptAt none fila.nextAttemptAt }

/-- `aplicar` of an error: the next attempt is later each time. -/
def aplicarError (now : Instant) (copia : DocumentoSiat) (mensajes : List SiatMensaje) (motivo : String)
    (fila : DocumentoSiat) : DocumentoSiat :=
  { fila with
    siatStatus := cambio copia.siatStatus .error fila.siatStatus
    mensajes := cambio copia.mensajes mensajes fila.mensajes
    lastError := cambio copia.lastError (some motivo) fila.lastError
    nextAttemptAt := cambio copia.nextAttemptAt
      (some (now + (min (2 ^ copia.attemptCount * 5000) ESPERA_MAXIMA_MS : Nat))) fila.nextAttemptAt }

/-- `attempt_count + 1`: the row is claimed. -/
def DocumentoSiat.reclamado (now : Instant) (fila : DocumentoSiat) : DocumentoSiat :=
  { fila with siatStatus := .sent, sentAt := some now, attemptCount := fila.attemptCount + 1 }

/-- `codigo_emision = 1`, waiting for an attempt that is due. -/
def DocumentoSiat.reclamable (now : Instant) (d : DocumentoSiat) : Bool :=
  (d.siatStatus = .queued ∨ d.siatStatus = .error) ∧ d.codigoEmision = .enLinea ∧
    d.nextAttemptAt.any (· ≤ now)

/-- Sent so long ago that no answer will come. -/
def DocumentoSiat.huerfano (c : SiatConfig) (now : Instant) (d : DocumentoSiat) : Bool :=
  d.siatStatus = .sent ∧ d.codigoEmision = .enLinea ∧ d.sentAt.any (· < now - c.httpTimeoutMs - 60000)

/-- `POST …/retry`: the next attempt is now. -/
def DocumentoSiat.adelantado (now : Instant) (fila : DocumentoSiat) : DocumentoSiat :=
  if fila.siatStatus = .error then { fila with nextAttemptAt := some now } else fila

end Writes

/-! ## Issued again without a connection -/

section Regeneration

/-- What is left of a text that begins with another. -/
def quitar : Text → Text → Option Text
  | [], texto => some texto
  | _ :: _, [] => none
  | c :: cs, d :: ds => if c = d then quitar cs ds else none

/-- `/<nombre>[^<]*<\/nombre>/` at the beginning of a text: what it matches, and the rest. -/
def enElemento (nombre texto : Text) : Option (Text × Text) :=
  (quitar ('<' :: (nombre ++ ['>'])) texto).bind fun resto =>
    (quitar ("</".toList ++ (nombre ++ ['>'])) (resto.dropWhile (· ≠ '<'))).map fun cola =>
      ('<' :: (nombre ++ '>' :: (resto.takeWhile (· ≠ '<') ++ ("</".toList ++ (nombre ++ ['>'])))), cola)

/-- `/<nombre(?: xsi:nil="true")?\/>|<nombre>[^<]*<\/nombre>/` at the beginning of a text. -/
def enElementoONulo (nombre texto : Text) : Option (Text × Text) :=
  let nulo := '<' :: (nombre ++ " xsi:nil=\"true\"/>".toList)
  let vacio := '<' :: (nombre ++ "/>".toList)
  match quitar nulo texto, quitar vacio texto with
  | some resto, _ => some (nulo, resto)
  | none, some resto => some (vacio, resto)
  | none, none => enElemento nombre texto

/-- The first place where a pattern matches: what is before, the match and what is after. -/
def primera (patron : Text → Option (Text × Text)) : Text → Option (Text × Text × Text)
  | [] => (patron []).map fun (coincidencia, resto) => ([], coincidencia, resto)
  | c :: cs =>
    match patron (c :: cs) with
    | some (coincidencia, resto) => some ([], coincidencia, resto)
    | none => (primera patron cs).map fun (antes, coincidencia, resto) => (c :: antes, coincidencia, resto)

/-- A replacement text: `$$`, `$&`, `` $` `` and `$'` stand for something else. -/
def expandir (antes coincidencia despues : Text) : Text → Text
  | '$' :: '$' :: cs => '$' :: expandir antes coincidencia despues cs
  | '$' :: '&' :: cs => coincidencia ++ expandir antes coincidencia despues cs
  | '$' :: '\x60' :: cs => antes ++ expandir antes coincidencia despues cs
  | '$' :: '\x27' :: cs => despues ++ expandir antes coincidencia despues cs
  | c :: cs => c :: expandir antes coincidencia despues cs
  | [] => []

/-- `texto.replace(patron, reemplazo)`: the first match. -/
def reemplazar (patron : Text → Option (Text × Text)) (reemplazo texto : Text) : Text :=
  match primera patron texto with
  | none => texto
  | some (antes, coincidencia, despues) => antes ++ (expandir antes coincidencia despues reemplazo ++ despues)

/-- `<nombre>…</nombre>`. -/
def enEtiquetas (nombre contenido : Text) : Text := '<' :: (nombre ++ '>' :: (contenido ++ ("</".toList ++ (nombre ++ ['>']))))

/-- The CUF with emission 2, under the CUFD of the event. -/
def cufRegenerado (perfil : SiatIssuerProfile) (copia : DocumentoSiat) (cufdEvento : SiatCufd) :
    Except CufInputError Text :=
  match copia.numeroFactura with
  | none => .error ⟨"numeroFactura"⟩
  | some numeroFactura => calcularCuf {
      nit := perfil.nit
      fechaEmision := copia.fechaEmision
      codigoSucursal := perfil.codigoSucursal
      codigoModalidad := copia.codigoModalidad
      codigoEmision := 2
      tipoFacturaDocumento := copia.tipoFacturaDocumento
      codigoDocumentoSector := copia.codigoDocumentoSector
      numeroFactura := decimalText numeroFactura
      codigoPuntoVenta := perfil.codigoPuntoVenta
      codigoControl := cufdEvento.codigoControl }

def codigoExcepcionRegenerado (copia : DocumentoSiat) : Int :=
  if copia.receptor.codigoTipoDocumentoIdentidad = TIPO_DOCUMENTO_NIT then 1 else 0

/-- The XML with the CUF, the CUFD and the code of exception replaced. -/
def xmlRegenerado (xml cuf cufd : Text) (codigoExcepcion : Int) : Text :=
  reemplazar (enElementoONulo "codigoExcepcion".toList)
    (enEtiquetas "codigoExcepcion".toList (decimalText codigoExcepcion))
    (reemplazar (enElemento "cufd".toList) (enEtiquetas "cufd".toList (escaparXml cufd))
      (reemplazar (enElemento "cuf".toList) (enEtiquetas "cuf".toList (escaparXml cuf)) xml))

/-- What `regenerarFueraDeLinea` writes. -/
def aplicarRegeneracion (copia : DocumentoSiat) (eventId : Nat) (cufdEvento : SiatCufd) (cuf : Text)
    (mensajes : List SiatMensaje) (fila : DocumentoSiat) : DocumentoSiat :=
  let codigoExcepcion := codigoExcepcionRegenerado copia
  let xml := xmlRegenerado copia.xml cuf cufdEvento.codigo codigoExcepcion
  { fila with
    cuf := cambio copia.cuf (some cuf) fila.cuf
    cufd := cambio copia.cufd cufdEvento.codigo fila.cufd
    cufdId := cambio copia.cufdId (some cufdEvento.id) fila.cufdId
    codigoEmision := cambio copia.codigoEmision .fueraDeLinea fila.codigoEmision
    codigoExcepcion := cambio copia.codigoExcepcion codigoExcepcion fila.codigoExcepcion
    contingencyFlag := cambio copia.contingencyFlag true fila.contingencyFlag
    eventId := cambio copia.eventId (some eventId) fila.eventId
    xml := cambio copia.xml xml fila.xml
    siatStatus := cambio copia.siatStatus .offline fila.siatStatus
    mensajes := cambio copia.mensajes mensajes fila.mensajes
    nextAttemptAt := cambio copia.nextAttemptAt none fila.nextAttemptAt
    lastError := cambio copia.lastError none fila.lastError }

end Regeneration

end AtlasErp
