import AtlasErp.Fiscal.Processors

/-! # What the emissions and the processors can do

- `Empieza`, `Pasa`, `pasa_of_next`: where a worker begins, and all that it can do next;
- `Conserva`, `conserva_pasa`, `conserva_suceder`: what no step changes;
- `Escritura`, `documentos_pasa`: how a worker writes the row of a document;
- `EscrituraEvento`, `eventos_pasa`: how it writes the row of an event. -/

namespace AtlasErp

open Lib

/-! ## All that a worker can do -/

section Inversion

variable {c : SiatConfig}

/-- Where a task begins. -/
inductive Empieza (s : EstadoFiscal) : PuntoSiat → Prop where
  | preparar {perfil} : Empieza s (.preparando perfil (eventoAbierto s perfil.id))
  | reclamar {ids} : Empieza s (.reclamando ids)
  | adelantar {id} : Empieza s (.adelantando id)
  | enviar {d} (fila : d ∈ s.documents) (enviada : d.siatStatus = .sent) : Empieza s (.porEnviar d)
  | rescatar {d} (fila : d ∈ s.documents) (enviada : d.siatStatus = .sent) : Empieza s (.consultando d)
  | despachar {e} (fila : e ∈ s.events) : Empieza s (.despachando e)
  | validar {p} (fila : p ∈ s.packages) : Empieza s (.validando p)

theorem empieza_of_empezar {s : EstadoFiscal} {tarea : TareaSiat} {p : PuntoSiat}
    (h : empezar c s tarea = some p) : Empieza s p := by
  cases tarea with
  | preparar perfilId =>
    obtain ⟨perfil, -, rfl⟩ := Option.map_eq_some_iff.mp h
    exact .preparar
  | reclamar ids =>
    cases h
    exact .reclamar
  | adelantar id =>
    cases h
    exact .adelantar
  | enviar id =>
    obtain ⟨d, hd, h⟩ := Option.bind_eq_some_iff.mp h
    split at h
    · cases h
      exact .enviar (Table.find?_eq_some.mp hd).1 (And.left ‹_›)
    · cases h
  | rescatar id =>
    obtain ⟨d, hd, h⟩ := Option.bind_eq_some_iff.mp h
    split at h
    · rename_i hhuerfano
      cases h
      simp only [DocumentoSiat.huerfano, decide_eq_true_eq] at hhuerfano
      exact .rescatar (Table.find?_eq_some.mp hd).1 hhuerfano.1
    · cases h
  | despachar eventId =>
    obtain ⟨e, he, h⟩ := Option.bind_eq_some_iff.mp h
    split at h
    · cases h
      exact .despachar (Table.find?_eq_some.mp he).1
    · cases h
  | validar packageId =>
    obtain ⟨paquete, hpaquete, h⟩ := Option.bind_eq_some_iff.mp h
    split at h
    · cases h
      exact .validar (Table.find?_eq_some.mp hpaquete).1
    · cases h

/-- What a worker does next, by the point where it is. -/
inductive Pasa (c : SiatConfig) (s : EstadoFiscal) : PuntoSiat → EstadoFiscal → Option PuntoSiat → Prop where
  /-- Nothing is left to do, or an error ends it. -/
  | fin {p} : Pasa c s p s none
  | enLinea {perfil cuis nitValido respuesta s' cufd}
      (vigente : cufdVigente s perfil.id false respuesta = some (s', cufd)) :
      Pasa c s (.preparando perfil none) s'
        (some (.preparada ⟨perfil, cuis, cufd.toSiatCufd, .enLinea, none, nitValido⟩))
  | conEvento {perfil cuis e cufd} (deEvento : s.cufds.find? e.cufdEventoId = some cufd) :
      Pasa c s (.preparando perfil (some e)) s
        (some (.preparada ⟨perfil, cuis, cufd.toSiatCufd, .fueraDeLinea, some e.id, none⟩))
  | sinEvento {perfil cuis cufd} (ultimo : cufdDeContingencia s perfil.id = some cufd) :
      Pasa c s (.preparando perfil none) s (some (.abriendo perfil cufd.toSiatCufd s.now (.emitir cuis)))
  | habia {perfil cufd inicio para e} (abiertoYa : eventoAbierto s perfil.id = some e) :
      Pasa c s (.abriendo perfil cufd inicio para) s (some (abierto perfil cufd e para))
  | noHabia {perfil cufd inicio para} :
      Pasa c s (.abriendo perfil cufd inicio para) s (some (.creando perfil cufd inicio para))
  | creado {perfil cufd inicio para s' e} (creado : crearEvento s perfil.id cufd.id inicio = some (s', e)) :
      Pasa c s (.creando perfil cufd inicio para) s' (some (abierto perfil cufd e para))
  | chocado {perfil cufd inicio para} :
      Pasa c s (.creando perfil cufd inicio para) s (some (.reintentando perfil cufd para))
  | habiaOtro {perfil cufd para e} (abiertoYa : eventoAbierto s perfil.id = some e) :
      Pasa c s (.reintentando perfil cufd para) s (some (abierto perfil cufd e para))
  | emitida {preparada documento fila} (emitida : emitirEnTransaccion c s preparada documento = .ok fila) :
      Pasa c s (.preparada preparada) s (some (.insertada fila))
  | confirmada {fila s'} (confirmada : confirmarEmision s fila = some s') : Pasa c s (.insertada fila) s' none
  | reclamada {ids s'} (escrita : s.conDocumentos (s.documents.updateWhere
      (fun d => HasKey.key d ∈ ids ∧ d.reclamable s.now) (DocumentoSiat.reclamado s.now)) = some s') :
      Pasa c s (.reclamando ids) s' none
  | adelantada {id s'} (escrita : s.actualizarDocumento id (DocumentoSiat.adelantado s.now) = some s') :
      Pasa c s (.adelantando id) s' none
  | enviada {copia} :
      Pasa c s (.porEnviar copia) { s with facturas := s.facturas ++ [⟨copia, .pendiente⟩] }
        (some (.esperando copia s.facturas.length))
  | contestada {copia k respuesta f} (servida : s.facturas[k]? = some f)
      (posible : recepcionPosible f.estado respuesta = true) :
      Pasa c s (.esperando copia k) s (some (.porAplicar copia (interpretarRecepcion respuesta)))
  | noEnviada {copia k motivo} (noServida : (s.facturas[k]?).any (·.estado.esRecibido) = false) :
      Pasa c s (.esperando copia k) { s with facturas := s.facturas.set k ⟨copia, .rechazado⟩ }
        (some (.porAplicar copia (.error [] motivo false)))
  | porConsultar {copia k} : Pasa c s (.esperando copia k) s (some (.consultando copia))
  | consultada {copia respuesta} (posible : consultaPosible s copia.cuf respuesta = true) :
      Pasa c s (.consultando copia) s (some (.porAplicar copia (consultar (.ok respuesta))))
  | sinConsulta {copia motivo alerta} :
      Pasa c s (.consultando copia) s (some (.porAplicar copia (.error [] motivo alerta)))
  | aplicadoFinal {copia estado codigo mensajes s'}
      (escrita : s.actualizarDocumento copia.id (aplicarFinal copia estado codigo mensajes) = some s') :
      Pasa c s (.porAplicar copia (.final estado codigo mensajes)) s' none
  | aplicadoError {copia desenlace mensajes motivo s'}
      (escrita : s.actualizarDocumento copia.id (aplicarError s.now copia mensajes motivo) = some s') :
      Pasa c s (.porAplicar copia desenlace) s' none
  | aRegenerar {copia desenlace mensajes perfil cufd} (contexto : contexto c s copia = some (perfil, cufd)) :
      Pasa c s (.porAplicar copia desenlace) s
        (some (.abriendo perfil cufd copia.emittedAt (.regenerar copia mensajes)))
  | regenerado {copia perfil mensajes e cufdEvento cuf s'}
      (deEvento : s.cufds.find? e.cufdEventoId = some cufdEvento)
      (calculado : cufRegenerado perfil copia cufdEvento.toSiatCufd = .ok cuf)
      (escrita : s.actualizarDocumento copia.id
        (aplicarRegeneracion copia e.id cufdEvento.toSiatCufd cuf mensajes) = some s') :
      Pasa c s (.regenerando copia perfil mensajes e) s' none
  | cerrado {e} (estaba : e.status = .open) :
      Pasa c s (.despachando e) (s.actualizarEvento e.id (SignificantEvent.cerrado s.now))
        (some (.despachando (e.cerrado s.now)))
  | cufdPedido {e respuesta s' cufd} (estaba : e.status = .closed)
      (vigente : cufdVigente s e.issuerProfileId true respuesta = some (s', cufd)) :
      Pasa c s (.despachando e) s' (some (.registrando e cufd.id))
  | registrado {e cufdEnvioId codigo} :
      Pasa c s (.registrando e cufdEnvioId) (s.actualizarEvento e.id (SignificantEvent.registrado codigo cufdEnvioId))
        (some (.despachando (e.registrado codigo cufdEnvioId)))
  | seleccionado {e} (estaba : e.status = .registered) :
      Pasa c s (.despachando e) s
        (some (.empaquetando e (lotes c (documentosPorNumero s (fueraDeLinea e.id)))))
  | paqueteEnviado {e lote lotes} :
      Pasa c s (.empaquetando e (lote :: lotes))
        { s with paquetes := s.paquetes ++ [⟨e.id, lote, empaquetarFacturas lote, .pendiente, []⟩] }
        (some (.esperandoPaquete e lote s.paquetes.length lotes))
  | paqueteRecibido {e lote k lotes codigo p} (servido : s.paquetes[k]? = some p)
      (recibido : p.estado = .recibido codigo) :
      Pasa c s (.esperandoPaquete e lote k lotes) s (some (.recibido e lote k codigo lotes))
  | paqueteRegistrado {e lote k codigo lotes s'} (registrado : registrarPaquete s e.id lote codigo = some s') :
      Pasa c s (.recibido e lote k codigo lotes) s' (some (.empaquetando e lotes))
  | contado {e} (ninguno : s.documents.rowsWhere (fueraDeLinea e.id) = []) :
      Pasa c s (.empaquetando e []) s (some (.sinPendientes e))
  | despachado {e} :
      Pasa c s (.sinPendientes e) (s.actualizarEvento e.id SignificantEvent.despachado) none
  | porValidar {p} :
      Pasa c s (.validando p) s (some (.validandoDocumentos p (documentosPorNumero s (·.packageId = some p.id))))
  | validado {p documentos codigoEstado mensajes s'}
      (aplicado : aplicarResultado s p documentos codigoEstado mensajes = some s') :
      Pasa c s (.validandoDocumentos p documentos) s' none

/-- A write that ends a worker was made, or the store is as it was. -/
theorem pasa_of_termina {s : EstadoFiscal} {p : PuntoSiat} {escrita : Option EstadoFiscal}
    {s' : EstadoFiscal} {q : Option PuntoSiat} (h : some (termina s escrita) = some (s', q))
    (hpasa : ∀ s', escrita = some s' → Pasa c s p s' none) : Pasa c s p s' q := by
  cases escrita with
  | none =>
    cases h
    exact .fin
  | some store =>
    cases h
    exact hpasa store rfl

/-- A worker goes on when there is a next point. -/
theorem pasa_of_map {s : EstadoFiscal} {p : PuntoSiat} {α : Type} {o : Option α} {f : α → PuntoSiat}
    {s' : EstadoFiscal} {q : Option PuntoSiat} (h : some (s, o.map f) = some (s', q))
    (hpasa : ∀ a, o = some a → Pasa c s p s (some (f a))) : Pasa c s p s' q := by
  cases o with
  | none =>
    cases h
    exact .fin
  | some a =>
    cases h
    exact hpasa a rfl

theorem pasa_regenerar {s : EstadoFiscal} {copia : DocumentoSiat} {desenlace : Desenlace}
    {mensajes : List SiatMensaje} {s' : EstadoFiscal} {q : Option PuntoSiat}
    (h : some (s, regenerarFueraDeLinea c s copia mensajes) = some (s', q)) :
    Pasa c s (.porAplicar copia desenlace) s' q :=
  pasa_of_map h fun _ hcontexto => .aRegenerar hcontexto

theorem pasa_preparando {s s' : EstadoFiscal} {perfil : SiatIssuerProfile} {evento : Option SignificantEvent}
    {entrada : EntradaSiat} {q : Option PuntoSiat} (h : seguir c s (.preparando perfil evento) entrada = some (s', q)) :
    Pasa c s (.preparando perfil evento) s' q := by
  cases evento with
  | none =>
    cases entrada with
    | enLinea cuis respuesta nitValido =>
      obtain ⟨⟨s₁, cufd⟩, hvigente, heq⟩ := Option.map_eq_some_iff.mp h
      cases heq
      exact .enLinea hvigente
    | fueraDeLinea cuis => exact pasa_of_map h fun cufd hcufd => .sinEvento hcufd
    | _ => cases h
  | some e =>
    cases entrada with
    | fueraDeLinea cuis => exact pasa_of_map h fun cufd hcufd => .conEvento hcufd
    | _ => cases h

theorem pasa_creando {s s' : EstadoFiscal} {perfil : SiatIssuerProfile} {cufd : SiatCufd} {inicio : Instant}
    {para : ParaQue} {q : Option PuntoSiat} (h : seguir c s (.creando perfil cufd inicio para) .sigue = some (s', q)) :
    Pasa c s (.creando perfil cufd inicio para) s' q := by
  unfold seguir at h
  dsimp only at h
  cases hcrear : crearEvento s perfil.id cufd.id inicio with
  | none =>
    rw [hcrear] at h
    cases h
    exact .chocado
  | some creado =>
    rw [hcrear] at h
    cases h
    exact .creado hcrear

theorem pasa_esperando {s s' : EstadoFiscal} {copia : DocumentoSiat} {k : Nat} {llamada : SiatLlamada}
    {q : Option PuntoSiat} (h : seguir c s (.esperando copia k) (.llamada llamada) = some (s', q)) :
    Pasa c s (.esperando copia k) s' q := by
  cases llamada with
  | error error =>
    unfold seguir at h
    dsimp only at h
    split at h
    · cases h
      exact .porConsultar
    · split at h
      · cases h
      · cases h
        exact .noEnviada (Bool.eq_false_iff.mpr ‹_›)
  | ok respuesta =>
    unfold seguir at h
    dsimp only at h
    split at h
    · rename_i hposible
      obtain ⟨f, hf, hposible⟩ := Option.any_eq_true _ _ |>.mp hposible
      cases hdesenlace : interpretarRecepcion respuesta with
      | consultar mensajes =>
        rw [hdesenlace] at h
        cases h
        exact .porConsultar
      | _ =>
        have hpasa := @Pasa.contestada c s copia k respuesta f hf hposible
        rw [hdesenlace] at h hpasa
        cases h
        exact hpasa
    · cases h

theorem pasa_consultando {s s' : EstadoFiscal} {copia : DocumentoSiat} {llamada : SiatLlamada}
    {q : Option PuntoSiat} (h : seguir c s (.consultando copia) (.llamada llamada) = some (s', q)) :
    Pasa c s (.consultando copia) s' q := by
  unfold seguir at h
  dsimp only at h
  split at h
  · cases h
    exact .sinConsulta
  · split at h
    · cases h
      exact .consultada ‹_›
    · cases h
  · cases h
    exact .sinConsulta

theorem pasa_porAplicar {s s' : EstadoFiscal} {copia : DocumentoSiat} {desenlace : Desenlace}
    {q : Option PuntoSiat} (h : seguir c s (.porAplicar copia desenlace) .sigue = some (s', q)) :
    Pasa c s (.porAplicar copia desenlace) s' q := by
  cases desenlace with
  | final estado codigo mensajes => exact pasa_of_termina h fun _ hescrita => .aplicadoFinal hescrita
  | regenerar mensajes => exact pasa_regenerar h
  | consultar mensajes | error mensajes motivo alerta =>
    unfold seguir at h
    dsimp only at h
    split at h
    · exact pasa_regenerar h
    · exact pasa_of_termina h fun _ hescrita => .aplicadoError hescrita

theorem pasa_regenerando {s s' : EstadoFiscal} {copia : DocumentoSiat} {perfil : SiatIssuerProfile}
    {mensajes : List SiatMensaje} {e : SignificantEvent} {q : Option PuntoSiat}
    (h : seguir c s (.regenerando copia perfil mensajes e) .sigue = some (s', q)) :
    Pasa c s (.regenerando copia perfil mensajes e) s' q := by
  unfold seguir at h
  dsimp only at h
  split at h
  · cases h
    exact .fin
  · split at h
    · cases h
      exact .fin
    · exact pasa_of_termina h fun _ hescrita => .regenerado ‹_› ‹_› hescrita

theorem pasa_despachando {s s' : EstadoFiscal} {e : SignificantEvent} {entrada : EntradaSiat} {q : Option PuntoSiat}
    (h : seguir c s (.despachando e) entrada = some (s', q)) : Pasa c s (.despachando e) s' q := by
  unfold seguir at h
  dsimp only at h
  split at h
  · cases h
    exact .cerrado ‹_›
  · split at h
    · cases h
      exact .cufdPedido ‹_› ‹_›
    · cases h
      exact .fin
  · exact pasa_of_map h fun _ _ => .seleccionado ‹_›
  · cases h

theorem pasa_registrando {s s' : EstadoFiscal} {e : SignificantEvent} {cufdEnvioId : Nat} {llamada : SiatLlamada}
    {q : Option PuntoSiat} (h : seguir c s (.registrando e cufdEnvioId) (.llamada llamada) = some (s', q)) :
    Pasa c s (.registrando e cufdEnvioId) s' q := by
  cases llamada with
  | error error =>
    cases h
    exact .fin
  | ok respuesta =>
    unfold seguir at h
    dsimp only at h
    split at h
    · cases h
      exact .fin
    · cases h
      exact .fin
    · cases h
      exact .registrado

theorem pasa_empaquetando {s s' : EstadoFiscal} {e : SignificantEvent} {ls : List (List DocumentoSiat)}
    {q : Option PuntoSiat} (h : seguir c s (.empaquetando e ls) .sigue = some (s', q)) :
    Pasa c s (.empaquetando e ls) s' q := by
  cases ls with
  | nil =>
    unfold seguir at h
    dsimp only at h
    split at h
    · cases h
      exact .contado ‹_›
    · cases h
      exact .fin
  | cons lote ls =>
    cases h
    exact .paqueteEnviado

theorem pasa_esperandoPaquete {s s' : EstadoFiscal} {e : SignificantEvent} {lote : List DocumentoSiat} {k : Nat}
    {ls : List (List DocumentoSiat)} {llamada : SiatLlamada} {q : Option PuntoSiat}
    (h : seguir c s (.esperandoPaquete e lote k ls) (.llamada llamada) = some (s', q)) :
    Pasa c s (.esperandoPaquete e lote k ls) s' q := by
  cases llamada with
  | error error =>
    cases h
    exact .fin
  | ok respuesta =>
    unfold seguir at h
    dsimp only at h
    split at h
    · rename_i hposible
      obtain ⟨p, hp, hposible⟩ := Option.any_eq_true _ _ |>.mp hposible
      split at h
      · cases h
        exact .fin
      · rename_i codigo hcodigo
        split at h
        · cases h
          exact .fin
        · rename_i hrecibido
          cases h
          have hestado := not_not.mp (not_or.mp hrecibido).1
          refine .paqueteRecibido hp ?_
          simpa [paquetePosible, hestado, hcodigo] using hposible
    · cases h

/-- **All that a worker can do next.** -/
theorem pasa_of_next {s s' : EstadoFiscal} {p : PuntoSiat} {entrada : EntradaSiat} {q : Option PuntoSiat}
    (h : seguir c s p entrada = some (s', q)) : Pasa c s p s' q := by
  cases p with
  | preparando perfil evento => exact pasa_preparando h
  | abriendo perfil cufd inicio para =>
    cases entrada with
    | sigue =>
      unfold seguir at h
      dsimp only at h
      split at h
      · cases h
        exact .habia ‹_›
      · cases h
        exact .noHabia
    | _ => cases h
  | creando perfil cufd inicio para =>
    cases entrada with
    | sigue => exact pasa_creando h
    | _ => cases h
  | reintentando perfil cufd para =>
    cases entrada with
    | sigue => exact pasa_of_map h fun e he => .habiaOtro he
    | _ => cases h
  | preparada preparada =>
    cases entrada with
    | documento documento =>
      unfold seguir at h
      dsimp only at h
      split at h
      · cases h
        exact .emitida ‹_›
      · cases h
        exact .fin
    | _ => cases h
  | insertada fila =>
    cases entrada with
    | sigue => exact pasa_of_termina h fun _ hescrita => .confirmada hescrita
    | _ => cases h
  | reclamando ids =>
    cases entrada with
    | sigue => exact pasa_of_termina h fun _ hescrita => .reclamada hescrita
    | _ => cases h
  | adelantando id =>
    cases entrada with
    | sigue => exact pasa_of_termina h fun _ hescrita => .adelantada hescrita
    | _ => cases h
  | porEnviar copia =>
    cases entrada with
    | sigue =>
      cases h
      exact .enviada
    | _ => cases h
  | esperando copia k =>
    cases entrada with
    | llamada l => exact pasa_esperando h
    | _ => cases h
  | consultando copia =>
    cases entrada with
    | llamada l => exact pasa_consultando h
    | _ => cases h
  | porAplicar copia desenlace =>
    cases entrada with
    | sigue => exact pasa_porAplicar h
    | _ => cases desenlace <;> cases h
  | regenerando copia perfil mensajes e =>
    cases entrada with
    | sigue => exact pasa_regenerando h
    | _ => cases h
  | despachando e => exact pasa_despachando h
  | registrando e cufdEnvioId =>
    cases entrada with
    | llamada l => exact pasa_registrando h
    | _ => cases h
  | empaquetando e ls =>
    cases entrada with
    | sigue => exact pasa_empaquetando h
    | _ => cases ls <;> cases h
  | esperandoPaquete e lote k ls =>
    cases entrada with
    | llamada l => exact pasa_esperandoPaquete h
    | _ => cases h
  | recibido e lote k codigo ls =>
    cases entrada with
    | sigue =>
      unfold seguir at h
      dsimp only at h
      split at h
      · cases h
        exact .paqueteRegistrado ‹_›
      · cases h
        exact .fin
    | _ => cases h
  | sinPendientes e =>
    cases entrada with
    | sigue =>
      cases h
      exact .despachado
    | _ => cases h
  | validando p =>
    cases entrada with
    | sigue =>
      unfold seguir at h
      dsimp only at h
      obtain ⟨rfl, rfl⟩ := Prod.mk.inj (Option.some.inj h)
      cases hevento : s.events.find? p.eventId with
      | none => exact .fin
      | some e =>
        simp only [Option.bind_some]
        split
        · exact .porValidar
        · exact .fin
    | _ => cases h
  | validandoDocumentos p documentos =>
    cases entrada with
    | llamada l =>
      cases l with
      | error error =>
        cases h
        exact .fin
      | ok respuesta =>
        unfold seguir at h
        dsimp only at h
        split at h
        · cases h
          exact .fin
        · exact pasa_of_termina h fun _ hescrita => .validado hescrita
    | _ => cases h

end Inversion

/-! ## What no step changes -/

section Frame

/-- What identifies a document, and its date. -/
def DocumentoSiat.identidad (d : DocumentoSiat) : Nat × Option Nat × Option Nat × Text × Instant :=
  (d.id, d.issuerProfileId, d.numeroFactura, d.fechaEmision, d.emittedAt)

/-- The issuer of an event, its beginning and its code. -/
def SignificantEvent.identidad (e : SignificantEvent) : Nat × Nat × Instant × Nat :=
  (e.id, e.issuerProfileId, e.inicio, e.cufdEventoId)

def SiatPackage.identidad (p : SiatPackage) : Nat × Nat × Nat × Text :=
  (p.id, p.eventId, p.cantidadFacturas, p.codigoRecepcion)

section Identidad

variable (copia fila : DocumentoSiat)

theorem identidad_aplicarFinal (estado : EstadoFinal) (codigo : Option Nat) (mensajes : List SiatMensaje) :
    (aplicarFinal copia estado codigo mensajes fila).identidad = fila.identidad := rfl

theorem identidad_aplicarError (now : Instant) (mensajes : List SiatMensaje) (motivo : String) :
    (aplicarError now copia mensajes motivo fila).identidad = fila.identidad := rfl

theorem identidad_aplicarRegeneracion (eventId : Nat) (cufdEvento : SiatCufd) (cuf : Text)
    (mensajes : List SiatMensaje) :
    (aplicarRegeneracion copia eventId cufdEvento cuf mensajes fila).identidad = fila.identidad := rfl

theorem identidad_reclamado (now : Instant) : (fila.reclamado now).identidad = fila.identidad := rfl

theorem identidad_empaquetado (now : Instant) (packageId : Nat) :
    (fila.empaquetado now packageId).identidad = fila.identidad := rfl

theorem identidad_adelantado (now : Instant) : (fila.adelantado now).identidad = fila.identidad := by
  unfold DocumentoSiat.adelantado
  split
  · rfl
  · rfl

/-- What each verdict keeps, the verdicts of a package keep. -/
theorem aplicarVeredictos_induction {paquete : SiatPackage} {codigoEstado : Option Nat} {mensajes : List SiatMensaje}
    {documentos : List DocumentoSiat} {P : DocumentoSiat → Prop}
    (h : ∀ copia ∈ documentos, ∀ indice, ∀ fila : DocumentoSiat, copia.id = fila.id → P fila →
      P (aplicarVeredicto paquete codigoEstado mensajes indice copia fila))
    {fila : DocumentoSiat} (hfila : P fila) : P (aplicarVeredictos paquete codigoEstado mensajes documentos fila) := by
  have hfold : ∀ copias : List (DocumentoSiat × Nat), (∀ copia ∈ copias, copia.1 ∈ documentos) → ∀ fila, P fila →
      P (copias.foldl (fun fila copia =>
        if copia.1.id = fila.id then aplicarVeredicto paquete codigoEstado mensajes copia.2 copia.1 fila else fila) fila) := by
    intro copias
    induction copias with
    | nil => exact fun _ _ hfila => hfila
    | cons copia copias ih =>
      intro hcopias fila hfila
      refine ih (fun c hc => hcopias c (List.mem_cons_of_mem _ hc)) _ ?_
      dsimp only
      split
      · exact h _ (hcopias copia List.mem_cons_self) _ _ ‹_› hfila
      · exact hfila
  exact hfold _ (fun copia hcopia => (List.mem_zipIdx hcopia).2.2 ▸ List.getElem_mem _) fila hfila

theorem identidad_aplicarVeredictos (paquete : SiatPackage) (codigoEstado : Option Nat) (mensajes : List SiatMensaje)
    (documentos : List DocumentoSiat) :
    (aplicarVeredictos paquete codigoEstado mensajes documentos fila).identidad = fila.identidad :=
  aplicarVeredictos_induction (P := fun fila' => fila'.identidad = fila.identidad) (fun _ _ _ _ _ h => h) rfl

/-- The verdicts leave the document where it is: they write its status and what the authority said. -/
theorem aplicarVeredictos_columnas (paquete : SiatPackage) (codigoEstado : Option Nat) (mensajes : List SiatMensaje)
    (documentos : List DocumentoSiat) :
    ∃ fila', aplicarVeredictos paquete codigoEstado mensajes documentos fila = fila' ∧
      fila'.eventId = fila.eventId ∧ fila'.codigoEmision = fila.codigoEmision ∧ fila'.packageId = fila.packageId ∧
      fila'.cuf = fila.cuf ∧ fila'.cufd = fila.cufd ∧ fila'.cufdId = fila.cufdId ∧ fila'.xml = fila.xml ∧
      (fila'.siatStatus = fila.siatStatus ∨ ∃ estado : EstadoFinal, fila'.siatStatus = estado.siatStatus) := by
  refine ⟨_, rfl, aplicarVeredictos_induction (P := fun fila' => fila'.eventId = fila.eventId ∧
    fila'.codigoEmision = fila.codigoEmision ∧ fila'.packageId = fila.packageId ∧ fila'.cuf = fila.cuf ∧
    fila'.cufd = fila.cufd ∧ fila'.cufdId = fila.cufdId ∧ fila'.xml = fila.xml ∧
    (fila'.siatStatus = fila.siatStatus ∨ ∃ estado : EstadoFinal, fila'.siatStatus = estado.siatStatus))
    (fun copia _ indice fila' _ h => ?_) ⟨rfl, rfl, rfl, rfl, rfl, rfl, rfl, .inl rfl⟩⟩
  obtain ⟨hevento, hemision, hpaquete, hcuf, hcufd, hcufdId, hxml, hstatus⟩ := h
  refine ⟨hevento, hemision, hpaquete, hcuf, hcufd, hcufdId, hxml, ?_⟩
  rcases cambio_eq_or copia.siatStatus (veredicto codigoEstado mensajes indice).siatStatus fila'.siatStatus with
    heq | heq
  · exact .inr ⟨_, heq⟩
  · exact hstatus.imp heq.trans fun ⟨estado, h⟩ => ⟨estado, heq.trans h⟩

end Identidad

/-- Rows stay, and so do the columns that identify them; an event ends at the moment when it is closed. -/
structure Conserva (s s' : EstadoFiscal) : Prop where
  now : s.now ≤ s'.now
  documento : ∀ d ∈ s.documents, ∃ d' ∈ s'.documents, d'.identidad = d.identidad
  evento : ∀ e ∈ s.events, ∃ e' ∈ s'.events, e'.identidad = e.identidad ∧ (e'.fin = e.fin ∨ e'.fin = some s.now)
  cufd : ∀ r ∈ s.cufds, ∃ r' ∈ s'.cufds, r'.toSiatCufd = r.toSiatCufd ∧ r'.issuerProfileId = r.issuerProfileId
  paquete : ∀ p ∈ s.packages, ∃ p' ∈ s'.packages, p'.identidad = p.identidad

variable {s s' : EstadoFiscal}

theorem Conserva.refl (s : EstadoFiscal) : Conserva s s where
  now := le_rfl
  documento d hd := ⟨d, hd, rfl⟩
  evento e he := ⟨e, he, rfl, .inl rfl⟩
  cufd r hr := ⟨r, hr, rfl, rfl⟩
  paquete p hp := ⟨p, hp, rfl⟩

theorem conDocumentos_eq_some {documents : Table DocumentoSiat} (h : s.conDocumentos documents = some s') :
    s' = { s with documents } ∧ EstadoFiscal.indicesUnicos documents = true := by
  unfold EstadoFiscal.conDocumentos at h
  split at h
  · exact ⟨(Option.some.inj h).symm, ‹_›⟩
  · cases h

/-- A write of rows of documents that keeps what identifies them. -/
theorem documento_updateWhere {documents : Table DocumentoSiat} {p : DocumentoSiat → Bool}
    {f : DocumentoSiat → DocumentoSiat} (hf : ∀ d, (f d).identidad = d.identidad) :
    ∀ d ∈ documents, ∃ d' ∈ documents.updateWhere p f, d'.identidad = d.identidad := fun _ hd =>
  Table.exists_updateWhere (R := fun d d' => d'.identidad = d.identidad) (fun d => congrArg Prod.fst (hf d))
    (fun _ => rfl) hf hd

theorem conserva_conDocumentos {documents : Table DocumentoSiat} (h : s.conDocumentos documents = some s')
    (hdocuments : ∀ d ∈ s.documents, ∃ d' ∈ documents, d'.identidad = d.identidad) : Conserva s s' := by
  obtain ⟨rfl, -⟩ := conDocumentos_eq_some h
  exact { Conserva.refl s with documento := hdocuments }

theorem conserva_actualizarDocumento {id : Nat} {f : DocumentoSiat → DocumentoSiat}
    (hf : ∀ d, (f d).identidad = d.identidad) (h : s.actualizarDocumento id f = some s') : Conserva s s' :=
  conserva_conDocumentos h (documento_updateWhere hf)

theorem conserva_actualizarEvento {id : Nat} {f : SignificantEvent → SignificantEvent}
    (hf : ∀ e, (f e).identidad = e.identidad) (hfin : ∀ e, (f e).fin = e.fin ∨ (f e).fin = some s.now) :
    Conserva s (s.actualizarEvento id f) :=
  { Conserva.refl s with
    evento := fun _ he => Table.exists_updateWhere
      (R := fun e e' => e'.identidad = e.identidad ∧ (e'.fin = e.fin ∨ e'.fin = some s.now))
      (fun e => congrArg Prod.fst (hf e)) (fun _ => ⟨rfl, .inl rfl⟩) (fun e => ⟨hf e, hfin e⟩) he }

theorem conserva_guardarCufd (perfilId : Nat) (r : RespuestaCufd) : Conserva s (guardarCufd s perfilId r).1 :=
  { Conserva.refl s with
    cufd := fun row hrow => by
      obtain ⟨row', hrow', hsame⟩ := Table.exists_updateWhere (f := SiatCufdRow.inactivo)
        (p := fun fila => fila.issuerProfileId = perfilId ∧ fila.isActive)
        (R := fun row row' => row'.toSiatCufd = row.toSiatCufd ∧ row'.issuerProfileId = row.issuerProfileId)
        (fun _ => rfl) (fun _ => ⟨rfl, rfl⟩) (fun _ => ⟨rfl, rfl⟩) hrow
      exact ⟨row', Table.mem_create_of_mem (fun _ => rfl) hrow', hsame⟩ }

theorem pedirCufd_eq_some {perfilId : Nat} {respuesta : Option RespuestaCufd} {cufd : SiatCufdRow}
    (h : pedirCufd s perfilId respuesta = some (s', cufd)) :
    ∃ r, r.codigo ≠ [] ∧ r.codigoControl ≠ [] ∧ guardarCufd s perfilId r = (s', cufd) := by
  unfold pedirCufd at h
  split at h
  · rename_i r
    split at h
    · cases h
    · rename_i hcodigos
      exact ⟨r, (not_or.mp hcodigos).1, (not_or.mp hcodigos).2, Option.some.inj h⟩
  · cases h

/-- The code to issue with was there, or is stored now. -/
theorem cufdVigente_eq_some {perfilId : Nat} {forzar : Bool} {respuesta : Option RespuestaCufd}
    {cufd : SiatCufdRow} (h : cufdVigente s perfilId forzar respuesta = some (s', cufd)) :
    s' = s ∧ cufdActual s perfilId = some cufd ∨
      ∃ r, r.codigo ≠ [] ∧ r.codigoControl ≠ [] ∧ guardarCufd s perfilId r = (s', cufd) := by
  unfold cufdVigente at h
  split at h
  · split at h
    · rename_i hactual _
      cases h
      exact .inl ⟨rfl, hactual⟩
    · exact .inr (pedirCufd_eq_some h)
  · exact .inr (pedirCufd_eq_some h)

theorem conserva_cufdVigente {perfilId : Nat} {forzar : Bool} {respuesta : Option RespuestaCufd}
    {cufd : SiatCufdRow} (h : cufdVigente s perfilId forzar respuesta = some (s', cufd)) : Conserva s s' := by
  rcases cufdVigente_eq_some h with ⟨rfl, -⟩ | ⟨r, -, -, hguardado⟩
  · exact .refl s'
  · obtain rfl : (guardarCufd s perfilId r).1 = s' := congrArg Prod.fst hguardado
    exact conserva_guardarCufd perfilId r

theorem crearEvento_eq_some {perfilId cufdEventoId : Nat} {inicio : Instant} {e : SignificantEvent}
    (h : crearEvento s perfilId cufdEventoId inicio = some (s', e)) :
    s' = { s with events := s.events.create (eventoNuevo perfilId cufdEventoId inicio) } ∧
      e = eventoNuevo perfilId cufdEventoId inicio s.events.nextKey ∧ eventoAbierto s perfilId = none := by
  unfold crearEvento at h
  split at h
  · cases h
  · cases h
    exact ⟨rfl, rfl, ‹_›⟩

variable {c : SiatConfig}

/-- **What no worker changes.** -/
theorem conserva_pasa {p : PuntoSiat} {q : Option PuntoSiat} (h : Pasa c s p s' q) : Conserva s s' := by
  cases h with
  | enLinea hvigente => exact conserva_cufdVigente hvigente
  | creado hcreado =>
    obtain ⟨rfl, -, -⟩ := crearEvento_eq_some hcreado
    exact { Conserva.refl s with
      evento := fun e he => ⟨e, Table.mem_create_of_mem (fun _ => rfl) he, rfl, .inl rfl⟩ }
  | confirmada hconfirmada =>
    obtain ⟨rfl, -⟩ := conDocumentos_eq_some hconfirmada
    exact { Conserva.refl s with
      documento := fun d hd => ⟨d, Table.mem_create_of_mem (fun _ => rfl) hd, rfl⟩ }
  | reclamada hescrita =>
    exact conserva_conDocumentos hescrita (documento_updateWhere fun d => identidad_reclamado d _)
  | adelantada hescrita => exact conserva_actualizarDocumento (fun d => identidad_adelantado d _) hescrita
  | enviada => exact { Conserva.refl s with }
  | noEnviada => exact { Conserva.refl s with }
  | aplicadoFinal hescrita => exact conserva_actualizarDocumento (identidad_aplicarFinal _ · _ _ _) hescrita
  | aplicadoError hescrita => exact conserva_actualizarDocumento (identidad_aplicarError _ · _ _ _) hescrita
  | regenerado _ _ hescrita => exact conserva_actualizarDocumento (identidad_aplicarRegeneracion _ · _ _ _ _) hescrita
  | cerrado => exact conserva_actualizarEvento (fun _ => rfl) fun _ => .inr rfl
  | cufdPedido _ hvigente => exact conserva_cufdVigente hvigente
  | registrado => exact conserva_actualizarEvento (fun _ => rfl) fun _ => .inl rfl
  | paqueteEnviado => exact { Conserva.refl s with }
  | paqueteRegistrado hregistrado =>
    obtain ⟨rfl, -⟩ := conDocumentos_eq_some hregistrado
    exact { Conserva.refl s with
      documento := documento_updateWhere (identidad_empaquetado · _ _)
      paquete := fun p hp => ⟨p, Table.mem_create_of_mem (fun _ => rfl) hp, rfl⟩ }
  | despachado => exact conserva_actualizarEvento (fun _ => rfl) fun _ => .inl rfl
  | validado haplicado =>
    obtain ⟨rfl, -⟩ := conDocumentos_eq_some haplicado
    exact { Conserva.refl s with
      documento := documento_updateWhere (identidad_aplicarVeredictos · _ _ _ _)
      paquete := fun p hp => Table.exists_updateWhere (f := SiatPackage.validado s.now _ _)
        (R := fun p p' => p'.identidad = p.identidad) (fun _ => rfl) (fun _ => rfl) (fun _ => rfl) hp }
  | _ => exact .refl s

/-- What happens outside changes no row. -/
theorem suceder_tablas {suceso : SucesoSin} (h : suceder s suceso = some s') :
    s'.series = s.series ∧ s'.documents = s.documents ∧ s'.events = s.events ∧ s'.packages = s.packages ∧
      s'.cufds = s.cufds ∧ s.now ≤ s'.now := by
  cases suceso with
  | tick ms =>
    cases h
    exact ⟨rfl, rfl, rfl, rfl, rfl, by simp⟩
  | sirveFactura k codigo =>
    simp only [suceder] at h
    split at h <;> cases h
    exact ⟨rfl, rfl, rfl, rfl, rfl, le_rfl⟩
  | sirvePaquete k codigo =>
    simp only [suceder] at h
    split at h
    · split at h <;> cases h
      exact ⟨rfl, rfl, rfl, rfl, rfl, le_rfl⟩
    · cases h
  | validaPaquete k validados =>
    simp only [suceder] at h
    split at h <;> cases h
    exact ⟨rfl, rfl, rfl, rfl, rfl, le_rfl⟩

theorem conserva_suceder {suceso : SucesoSin} (h : suceder s suceso = some s') : Conserva s s' := by
  obtain ⟨-, hdocuments, hevents, hpackages, hcufds, hnow⟩ := suceder_tablas h
  exact ⟨hnow, hdocuments ▸ (Conserva.refl s).documento, hevents ▸ (Conserva.refl s).evento,
    hcufds ▸ (Conserva.refl s).cufd, hpackages ▸ (Conserva.refl s).paquete⟩

end Frame

/-! ## How rows are written -/

section Rows

variable {c : SiatConfig} {s s' : EstadoFiscal} {p : PuntoSiat} {q : Option PuntoSiat}

/-- How a worker at a point writes the row of a document. -/
inductive Escritura (s : EstadoFiscal) : PuntoSiat → DocumentoSiat → DocumentoSiat → Prop where
  | igual {p fila} : Escritura s p fila fila
  | reclamado {ids fila} (reclamable : fila.reclamable s.now = true) :
      Escritura s (.reclamando ids) fila (fila.reclamado s.now)
  | adelantado {id fila} : Escritura s (.adelantando id) fila (fila.adelantado s.now)
  | final {copia estado codigo mensajes fila} (propia : fila.id = copia.id) :
      Escritura s (.porAplicar copia (.final estado codigo mensajes)) fila
        (aplicarFinal copia estado codigo mensajes fila)
  | error {copia desenlace mensajes motivo fila} (propia : fila.id = copia.id) :
      Escritura s (.porAplicar copia desenlace) fila (aplicarError s.now copia mensajes motivo fila)
  | regenerado {copia perfil mensajes e cufdEvento cuf fila} (propia : fila.id = copia.id)
      (deEvento : s.cufds.find? e.cufdEventoId = some cufdEvento)
      (calculado : cufRegenerado perfil copia cufdEvento.toSiatCufd = .ok cuf) :
      Escritura s (.regenerando copia perfil mensajes e) fila
        (aplicarRegeneracion copia e.id cufdEvento.toSiatCufd cuf mensajes fila)
  | empaquetado {e lote k codigo lotes fila} (enLote : fila.id ∈ lote.map HasKey.key) :
      Escritura s (.recibido e lote k codigo lotes) fila (fila.empaquetado s.now s.packages.nextKey)
  | veredictos {paquete documentos codigoEstado mensajes fila} :
      Escritura s (.validandoDocumentos paquete documentos) fila
        (aplicarVeredictos paquete codigoEstado mensajes documentos fila)

/-- What is written keeps what identifies the document. -/
theorem Escritura.identidad {fila fila' : DocumentoSiat} (h : Escritura s p fila fila') :
    fila'.identidad = fila.identidad := by
  cases h with
  | igual => rfl
  | reclamado => rfl
  | adelantado => exact identidad_adelantado _ _
  | final => exact identidad_aplicarFinal _ _ _ _ _
  | error => exact identidad_aplicarError _ _ _ _ _
  | regenerado => exact identidad_aplicarRegeneracion _ _ _ _ _ _
  | empaquetado => rfl
  | veredictos => exact identidad_aplicarVeredictos _ _ _ _ _

theorem escritura_updateWhere {documents : Table DocumentoSiat} {cond : DocumentoSiat → Bool}
    {f : DocumentoSiat → DocumentoSiat} (hf : ∀ d, (f d).identidad = d.identidad)
    (h : ∀ d, cond d = true → Escritura s p d (f d)) :
    ∀ d' ∈ documents.updateWhere cond f, ∃ d ∈ documents, Escritura s p d d' := by
  intro d' hd'
  obtain ⟨d, hd, rfl⟩ := (Table.mem_updateWhere fun d => congrArg Prod.fst (hf d)).mp hd'
  refine ⟨d, hd, ?_⟩
  split
  · exact h d ‹_›
  · exact .igual

theorem escritura_actualizar {id : Nat} {f : DocumentoSiat → DocumentoSiat}
    (h : s.actualizarDocumento id f = some s') (hf : ∀ d, (f d).identidad = d.identidad)
    (hescritura : ∀ d, d.id = id → Escritura s p d (f d)) :
    ∀ d' ∈ s'.documents, ∃ d ∈ s.documents, Escritura s p d d' := by
  obtain ⟨rfl, -⟩ := conDocumentos_eq_some h
  exact escritura_updateWhere hf fun d hd => hescritura d (of_decide_eq_true hd)

/-- **Every document** was there, and was written so, or is the one an emission commits. -/
theorem documentos_pasa (h : Pasa c s p s' q) :
    ∀ d' ∈ s'.documents, (∃ d ∈ s.documents, Escritura s p d d') ∨
      ∃ fila, p = .insertada fila ∧ d' = .nuevo fila s.documents.nextKey := by
  have hsame : s'.documents = s.documents → ∀ d' ∈ s'.documents, (∃ d ∈ s.documents, Escritura s p d d') ∨
      ∃ fila, p = .insertada fila ∧ d' = .nuevo fila s.documents.nextKey :=
    fun heq d' hd' => .inl ⟨d', heq ▸ hd', .igual⟩
  cases h with
  | enLinea hvigente | cufdPedido _ hvigente =>
    refine hsame ?_
    rcases cufdVigente_eq_some hvigente with ⟨rfl, -⟩ | ⟨r, -, -, hguardado⟩
    · rfl
    · obtain rfl : (guardarCufd s _ r).1 = s' := congrArg Prod.fst hguardado
      rfl
  | creado hcreado =>
    obtain ⟨rfl, -, -⟩ := crearEvento_eq_some hcreado
    exact hsame rfl
  | confirmada hconfirmada =>
    obtain ⟨rfl, -⟩ := conDocumentos_eq_some hconfirmada
    intro d' hd'
    rcases (Table.mem_create fun _ => rfl).mp hd' with hd' | rfl
    · exact .inl ⟨d', hd', .igual⟩
    · exact .inr ⟨_, rfl, rfl⟩
  | reclamada hescrita =>
    obtain ⟨rfl, -⟩ := conDocumentos_eq_some hescrita
    exact fun d' hd' => .inl (escritura_updateWhere (f := DocumentoSiat.reclamado s.now) (fun _ => rfl)
      (fun d hd => .reclamado (of_decide_eq_true hd).2) d' hd')
  | adelantada hescrita =>
    exact fun d' hd' => .inl (escritura_actualizar hescrita (identidad_adelantado · _) (fun _ _ => .adelantado) d' hd')
  | aplicadoFinal hescrita =>
    exact fun d' hd' => .inl (escritura_actualizar hescrita (identidad_aplicarFinal _ · _ _ _)
      (fun _ hid => .final hid) d' hd')
  | aplicadoError hescrita =>
    exact fun d' hd' => .inl (escritura_actualizar hescrita (identidad_aplicarError _ · _ _ _)
      (fun _ hid => .error hid) d' hd')
  | regenerado hcufd hcuf hescrita =>
    exact fun d' hd' => .inl (escritura_actualizar hescrita (identidad_aplicarRegeneracion _ · _ _ _ _)
      (fun _ hid => .regenerado hid hcufd hcuf) d' hd')
  | paqueteRegistrado hregistrado =>
    obtain ⟨rfl, -⟩ := conDocumentos_eq_some hregistrado
    exact fun d' hd' => .inl (escritura_updateWhere (identidad_empaquetado · _ _)
      (fun d hd => .empaquetado (of_decide_eq_true hd)) d' hd')
  | validado haplicado =>
    obtain ⟨rfl, -⟩ := conDocumentos_eq_some haplicado
    exact fun d' hd' => .inl (escritura_updateWhere (identidad_aplicarVeredictos · _ _ _ _)
      (fun d _ => .veredictos) d' hd')
  | _ => exact hsame rfl

/-- How a worker at a point writes the row of an event. -/
inductive EscrituraEvento (s : EstadoFiscal) : PuntoSiat → SignificantEvent → SignificantEvent → Prop where
  | igual {p fila} : EscrituraEvento s p fila fila
  | cerrado {e fila} (propia : fila.id = e.id) (estaba : e.status = .open) :
      EscrituraEvento s (.despachando e) fila (fila.cerrado s.now)
  | registrado {e cufdEnvioId codigo fila} (propia : fila.id = e.id) :
      EscrituraEvento s (.registrando e cufdEnvioId) fila (fila.registrado codigo cufdEnvioId)
  | despachado {e fila} (propia : fila.id = e.id) : EscrituraEvento s (.sinPendientes e) fila fila.despachado

theorem EscrituraEvento.identidad {fila fila' : SignificantEvent} (h : EscrituraEvento s p fila fila') :
    fila'.identidad = fila.identidad := by
  cases h <;> rfl

theorem escrituraEvento_actualizar {id : Nat} {f : SignificantEvent → SignificantEvent}
    (hf : ∀ e, (f e).identidad = e.identidad) (h : ∀ e, e.id = id → EscrituraEvento s p e (f e)) :
    ∀ e' ∈ (s.actualizarEvento id f).events, ∃ e ∈ s.events, EscrituraEvento s p e e' := by
  intro e' he'
  obtain ⟨e, he, rfl⟩ := (Table.mem_updateWhere fun e => congrArg Prod.fst (hf e)).mp he'
  refine ⟨e, he, ?_⟩
  split
  · exact h e (of_decide_eq_true ‹_›)
  · exact .igual

/-- **Every event** was there, and was written so, or is the one that `abrir` creates. -/
theorem eventos_pasa (h : Pasa c s p s' q) :
    ∀ e' ∈ s'.events, (∃ e ∈ s.events, EscrituraEvento s p e e') ∨
      ∃ perfil cufd inicio para, p = .creando perfil cufd inicio para ∧ eventoAbierto s perfil.id = none ∧
        e' = eventoNuevo perfil.id cufd.id inicio s.events.nextKey := by
  have hsame : s'.events = s.events → ∀ e' ∈ s'.events, (∃ e ∈ s.events, EscrituraEvento s p e e') ∨
      ∃ perfil cufd inicio para, p = .creando perfil cufd inicio para ∧ eventoAbierto s perfil.id = none ∧
        e' = eventoNuevo perfil.id cufd.id inicio s.events.nextKey :=
    fun heq e' he' => .inl ⟨e', heq ▸ he', .igual⟩
  cases h with
  | enLinea hvigente | cufdPedido _ hvigente =>
    refine hsame ?_
    rcases cufdVigente_eq_some hvigente with ⟨rfl, -⟩ | ⟨r, -, -, hguardado⟩
    · rfl
    · obtain rfl : (guardarCufd s _ r).1 = s' := congrArg Prod.fst hguardado
      rfl
  | creado hcreado =>
    obtain ⟨rfl, -, hninguno⟩ := crearEvento_eq_some hcreado
    intro e' he'
    rcases (Table.mem_create fun _ => rfl).mp he' with he' | rfl
    · exact .inl ⟨e', he', .igual⟩
    · exact .inr ⟨_, _, _, _, rfl, hninguno, rfl⟩
  | cerrado hestaba =>
    exact fun e' he' => .inl (escrituraEvento_actualizar (f := SignificantEvent.cerrado s.now) (fun _ => rfl)
      (fun _ hid => .cerrado hid hestaba) e' he')
  | registrado =>
    exact fun e' he' => .inl (escrituraEvento_actualizar (f := SignificantEvent.registrado _ _) (fun _ => rfl)
      (fun _ hid => .registrado hid) e' he')
  | despachado =>
    exact fun e' he' => .inl (escrituraEvento_actualizar (f := SignificantEvent.despachado) (fun _ => rfl)
      (fun _ hid => .despachado hid) e' he')
  | confirmada hescrita | reclamada hescrita | adelantada hescrita | aplicadoFinal hescrita | aplicadoError hescrita
  | regenerado _ _ hescrita | paqueteRegistrado hescrita | validado hescrita =>
    obtain ⟨rfl, -⟩ := conDocumentos_eq_some hescrita
    exact hsame rfl
  | _ => exact hsame rfl

end Rows

end AtlasErp
