import AtlasErp.Fiscal.Copies
import AtlasErp.Fiscal.Regeneration

/-! # The code of an event

All the invoices of an event carry its CUFD.  An emission takes the code before it knows the event, and `abrir`
may give it an event that was opened with another one; a regeneration takes the code of the event that it is given.

- `UnCufdPorEvento`: a document that waits under an event, or is in a package of it, carries the code of the event;
- `unCufd_of_reachable`: so it is as long as emissions are given events with the code they chose, no document is
  regenerated under two events with different codes, and no code has a pattern of replacement;
- `unCufd_counterexample`: an emission is given an event that a regeneration opened with an older code. -/

namespace AtlasErp

open Lib

section EventCodes

variable {c : SiatConfig} {s s' : EstadoFiscal} {p : PuntoSiat} {q : Option PuntoSiat} {d d' : DocumentoSiat}

/-- The XML of an invoice whose element `cufd` is a code. -/
def XmlConCufd (xml codigo : Text) : Prop :=
  ∃ cabecera detalle, xml = Xml.declaration ++ '\n' :: (documento cabecera detalle).render ∧
    cabecera.cuf ≠ [] ∧ cabecera.cufd = codigo

/-- A document carries a code in its columns, in its XML and at the end of its CUF. -/
structure ConCufd (r : SiatCufd) (d : FiscalDocument) : Prop where
  cufdId : d.cufdId = some r.id
  cufd : d.cufd = r.codigo
  xml : XmlConCufd d.xml r.codigo
  cuf : ∃ digitos, d.cuf = some (digitos ++ r.codigoControl)

/-- **One code for each event**: a document that waits under an event, or is in a package of it, carries the code
of the event. -/
def UnCufdPorEvento (s : EstadoFiscal) : Prop :=
  ∀ d ∈ s.documents, ∀ e ∈ s.events, d.eventId = some e.id → (d.siatStatus = .offline ∨ d.siatStatus = .packaged) →
    ∃ r ∈ s.cufds, r.id = e.cufdEventoId ∧ ConCufd r.toSiatCufd d.toFiscalDocument

/-! ## The condition -/

/-- An emission is given an event with the code it chose; and a document is regenerated while it is under no event
with another code. -/
def AbreConSuCufdEn (s : EstadoFiscal) : PuntoSiat → Prop
  | .abriendo perfil cufd _ (.emitir _) | .reintentando perfil cufd (.emitir _) =>
    ∀ e ∈ eventoAbierto s perfil.id, e.cufdEventoId = cufd.id
  | .regenerando copia _ _ evento => ∀ d ∈ s.documents, d.id = copia.id → ∀ e ∈ s.events, d.eventId = some e.id →
      e.cufdEventoId = evento.cufdEventoId
  | _ => True

instance (s : EstadoFiscal) : DecidablePred (AbreConSuCufdEn s)
  | .abriendo perfil _ _ (.emitir _) | .reintentando perfil _ (.emitir _) =>
    inferInstanceAs (Decidable (∀ e ∈ eventoAbierto s perfil.id, _))
  | .regenerando _ _ _ _ => inferInstanceAs (Decidable (∀ d ∈ s.documents, _))
  | .abriendo _ _ _ (.regenerar _ _) | .reintentando _ _ (.regenerar _ _) | .preparando .. | .creando .. | .preparada ..
  | .insertada .. | .reclamando .. | .adelantando .. | .porEnviar .. | .esperando .. | .consultando .. | .porAplicar ..
  | .despachando .. | .registrando .. | .empaquetando .. | .esperandoPaquete .. | .recibido .. | .sinPendientes ..
  | .validando .. | .validandoDocumentos .. => .isTrue trivial

/-- The code that an answer brings. -/
def EntradaSiat.respuestaCufd : EntradaSiat → Option RespuestaCufd
  | .enLinea _ respuesta _ | .cufd respuesta => respuesta
  | _ => none

def AbreConSuCufd (S : Sessions EstadoFiscal PuntoSiat) : WorkerAct TareaSiat EntradaSiat SucesoSin → Prop
  | .go w entrada => (∀ p ∈ S.find? w, AbreConSuCufdEn S.committed p) ∧
      ∀ r ∈ entrada.respuestaCufd, sinPatron (escaparXml r.codigo) = true
  | _ => True

instance (S : Sessions EstadoFiscal PuntoSiat) : DecidablePred (AbreConSuCufd S)
  | .go w _ => inferInstanceAs (Decidable ((∀ p ∈ S.find? w, AbreConSuCufdEn S.committed p) ∧ _))
  | .start .. | .die _ | .outside _ => .isTrue trivial

/-! ## Codes of the day -/

/-- Every code of the day was there, or is the one of the answer. -/
def NuevosDe (s s' : EstadoFiscal) (respuesta : Option RespuestaCufd) : Prop :=
  ∀ r' ∈ s'.cufds, (∃ r ∈ s.cufds, r'.toSiatCufd = r.toSiatCufd) ∨
    ∃ x ∈ respuesta, r'.codigo = x.codigo ∧ x.codigo ≠ []

theorem nuevosDe_of_eq (h : s'.cufds = s.cufds) (respuesta : Option RespuestaCufd) : NuevosDe s s' respuesta :=
  fun r' hr' => .inl ⟨r', h ▸ hr', rfl⟩

theorem nuevosDe_pedirCufd {perfilId : Nat} {respuesta : Option RespuestaCufd} {cufd : SiatCufdRow}
    (h : pedirCufd s perfilId respuesta = some (s', cufd)) : NuevosDe s s' respuesta := by
  unfold pedirCufd at h
  split at h
  · rename_i x
    split at h
    · cases h
    · rename_i hcodigos
      obtain rfl : (guardarCufd s perfilId x).1 = s' := congrArg Prod.fst (Option.some.inj h)
      intro r' hr'
      rcases (Table.mem_create fun _ => rfl).mp hr' with hr' | rfl
      · obtain ⟨r, hr, rfl⟩ := (Table.mem_updateWhere (f := SiatCufdRow.inactivo) fun _ => rfl).mp hr'
        refine .inl ⟨r, hr, ?_⟩
        split <;> rfl
      · exact .inr ⟨x, rfl, rfl, (not_or.mp hcodigos).1⟩
  · cases h

theorem nuevosDe_cufdVigente {perfilId : Nat} {forzar : Bool} {respuesta : Option RespuestaCufd} {cufd : SiatCufdRow}
    (h : cufdVigente s perfilId forzar respuesta = some (s', cufd)) : NuevosDe s s' respuesta := by
  unfold cufdVigente at h
  split at h
  · split at h
    · cases h
      exact nuevosDe_of_eq rfl respuesta
    · exact nuevosDe_pedirCufd h
  · exact nuevosDe_pedirCufd h

/-- Only what asks for a code of the day stores one. -/
theorem cufds_pasa (h : Pasa c s p s' q) :
    s'.cufds = s.cufds ∨ (∃ perfil, p = .preparando perfil none) ∨ ∃ e, p = .despachando e := by
  cases h with
  | enLinea => exact .inr (.inl ⟨_, rfl⟩)
  | cufdPedido => exact .inr (.inr ⟨_, rfl⟩)
  | creado hcreado =>
    obtain ⟨rfl, -, -⟩ := crearEvento_eq_some hcreado
    exact .inl rfl
  | confirmada hescrita | reclamada hescrita | adelantada hescrita | aplicadoFinal hescrita | aplicadoError hescrita
  | regenerado _ _ hescrita | paqueteRegistrado hescrita | validado hescrita =>
    obtain ⟨rfl, -⟩ := conDocumentos_eq_some hescrita
    exact .inl rfl
  | _ => exact .inl rfl

/-- **A code of the day** was there, or is the one that an answer brings. -/
theorem nuevosDe_seguir {entrada : EntradaSiat} (h : seguir c s p entrada = some (s', q)) :
    NuevosDe s s' entrada.respuestaCufd := by
  rcases cufds_pasa (pasa_of_next h) with heq | ⟨perfil, rfl⟩ | ⟨e, rfl⟩
  · exact nuevosDe_of_eq heq _
  · cases entrada with
    | enLinea cuis respuesta nitValido =>
      obtain ⟨⟨s₁, cufd⟩, hvigente, heq⟩ := Option.map_eq_some_iff.mp h
      cases heq
      exact nuevosDe_cufdVigente hvigente
    | fueraDeLinea cuis =>
      cases h
      exact nuevosDe_of_eq rfl _
    | _ => cases h
  · unfold seguir at h
    dsimp only at h
    split at h
    · cases h
      exact nuevosDe_of_eq rfl _
    · split at h
      · cases h
        exact nuevosDe_cufdVigente ‹_›
      · cases h
        exact nuevosDe_of_eq rfl _
    · cases h
      exact nuevosDe_of_eq rfl _
    · cases h

/-! ## The invariant -/

/-- A document under an event has the code of the event. -/
def BajoSuCodigo (s : EstadoFiscal) (eventId cufdId : Option Nat) : Prop :=
  ∀ id, eventId = some id → ∃ e ∈ s.events, e.id = id ∧ cufdId = some e.cufdEventoId

/-- What holds of the codes and of the documents. -/
structure CodigosEnOrden (s : EstadoFiscal) : Prop where
  cufd : ∀ r ∈ s.cufds, r.codigo ≠ [] ∧ sinPatron (escaparXml r.codigo) = true
  documento : ∀ d ∈ s.documents, ∃ r ∈ s.cufds, ConCufd r.toSiatCufd d.toFiscalDocument
  evento : ∀ d ∈ s.documents, BajoSuCodigo s d.eventId d.cufdId

/-- A copy of a document: its XML can be written again, and it has the codes of its row while that is under no
event. -/
structure CopiaIntacta (s : EstadoFiscal) (copia : DocumentoSiat) : Prop where
  xml : ∃ codigo, codigo ≠ [] ∧ XmlConCufd copia.xml codigo
  fila : ∀ d ∈ s.documents, d.id = copia.id → d.eventId = none →
    d.cuf = copia.cuf ∧ d.cufd = copia.cufd ∧ d.cufdId = copia.cufdId ∧ d.xml = copia.xml

/-- A code of the day that was stored. -/
def DeTabla (s : EstadoFiscal) (cufd : SiatCufd) : Prop := ∃ r ∈ s.cufds, r.toSiatCufd = cufd

/-- The code that an emission issues with. -/
def PuntoSiat.ConSuCodigo (s : EstadoFiscal) : PuntoSiat → Prop
  | .abriendo _ cufd _ _ | .creando _ cufd _ _ | .reintentando _ cufd _ => DeTabla s cufd
  | .preparada p => DeTabla s p.cufd ∧ BajoSuCodigo s p.eventId (some p.cufd.id)
  | .insertada fila => (∃ r ∈ s.cufds, ConCufd r.toSiatCufd fila) ∧ BajoSuCodigo s fila.eventId fila.cufdId
  | _ => True

/-- What a worker relies on. -/
structure LlevaCodigo (p : PuntoSiat) (s : EstadoFiscal) : Prop where
  copia : ∀ copia ∈ p.copia, CopiaIntacta s copia
  codigo : p.ConSuCodigo s

theorem DeTabla.mono {cufd : SiatCufd} (h : DeTabla s cufd) (hc : Conserva s s') : DeTabla s' cufd := by
  obtain ⟨r, hr, rfl⟩ := h
  obtain ⟨r', hr', heq, -⟩ := hc.cufd r hr
  exact ⟨r', hr', heq⟩

theorem conCufd_mono {fila : FiscalDocument} (h : ∃ r ∈ s.cufds, ConCufd r.toSiatCufd fila) (hc : Conserva s s') :
    ∃ r ∈ s'.cufds, ConCufd r.toSiatCufd fila := by
  obtain ⟨r, hr, hcon⟩ := h
  obtain ⟨r', hr', heq, -⟩ := hc.cufd r hr
  exact ⟨r', hr', heq ▸ hcon⟩

theorem BajoSuCodigo.mono {eventId cufdId : Option Nat} (h : BajoSuCodigo s eventId cufdId) (hc : Conserva s s') :
    BajoSuCodigo s' eventId cufdId := by
  intro id hid
  obtain ⟨e, he, hide, hcufd⟩ := h id hid
  obtain ⟨e', he', hidentidad, -⟩ := hc.evento e he
  simp only [SignificantEvent.identidad, Prod.mk.injEq] at hidentidad
  exact ⟨e', he', hidentidad.1.trans hide, hcufd.trans (congrArg some hidentidad.2.2.2.symm)⟩

theorem PuntoSiat.ConSuCodigo.mono {p : PuntoSiat} (h : p.ConSuCodigo s) (hc : Conserva s s') : p.ConSuCodigo s' := by
  cases p with
  | abriendo | creando | reintentando => exact DeTabla.mono h hc
  | preparada => exact ⟨h.1.mono hc, h.2.mono hc⟩
  | insertada => exact ⟨conCufd_mono h.1 hc, h.2.mono hc⟩
  | _ => trivial

/-! ## How codes are written -/

/-- The codes of a document and its event are written by a regeneration only. -/
theorem codigos_escritura (h : Escritura s p d d') :
    (d'.cuf = d.cuf ∧ d'.cufd = d.cufd ∧ d'.cufdId = d.cufdId ∧ d'.xml = d.xml ∧ d'.eventId = d.eventId) ∨
      ∃ copia perfil mensajes e cufdEvento cuf, p = .regenerando copia perfil mensajes e ∧ d.id = copia.id ∧
        s.cufds.find? e.cufdEventoId = some cufdEvento ∧ cufRegenerado perfil copia cufdEvento.toSiatCufd = .ok cuf ∧
        d' = aplicarRegeneracion copia e.id cufdEvento.toSiatCufd cuf mensajes d := by
  cases h with
  | igual | reclamado | final | error | empaquetado => exact .inl ⟨rfl, rfl, rfl, rfl, rfl⟩
  | adelantado =>
    unfold DocumentoSiat.adelantado
    split <;> exact .inl ⟨rfl, rfl, rfl, rfl, rfl⟩
  | regenerado hpropia hcufd hcuf => exact .inr ⟨_, _, _, _, _, _, rfl, hpropia, hcufd, hcuf, rfl⟩
  | veredictos =>
    obtain ⟨fila', heq, hevento, -, -, hcuf, hcufd, hcufdId, hxml, -⟩ := aplicarVeredictos_columnas d _ _ _ _
    rw [heq]
    exact .inl ⟨hcuf, hcufd, hcufdId, hxml, hevento⟩

/-- A column after a partial update: it was loaded as it is, or it meets what the new value meets. -/
theorem cambio_induction {β : Type} [DecidableEq β] {P : β → Prop} {cargado nuevo actual : β} (hnuevo : P nuevo)
    (h : actual = cargado ∨ P actual) : P (cambio cargado nuevo actual) := by
  unfold cambio
  split
  · rcases h with rfl | h
    · exact ‹nuevo = actual› ▸ hnuevo
    · exact h
  · exact hnuevo

/-- The XML of a regeneration has the code of the event. -/
theorem xmlConCufd_regenerado {xml codigo cuf cufd : Text} (h : XmlConCufd xml codigo) (hcodigo : codigo ≠ [])
    (hcuf : cuf ≠ [] ∧ sinPatron (escaparXml cuf) = true) (hcufd : cufd ≠ [] ∧ sinPatron (escaparXml cufd) = true)
    (codigoExcepcion : Int) : XmlConCufd (xmlRegenerado xml cuf cufd codigoExcepcion) cufd := by
  obtain ⟨cabecera, detalle, rfl, hcuf', rfl⟩ := h
  exact ⟨_, detalle, xmlRegenerado_documento detalle hcuf' hcodigo hcuf.1 hcufd.1 hcuf.2 hcufd.2 codigoExcepcion,
    hcuf.1, rfl⟩

theorem cufRegenerado_eq_ok {perfil : SiatIssuerProfile} {copia : DocumentoSiat} {cufd : SiatCufd} {cuf : Text}
    (h : cufRegenerado perfil copia cufd = .ok cuf) :
    (cuf ≠ [] ∧ sinPatron (escaparXml cuf) = true) ∧ ∃ digitos, cuf = digitos ++ cufd.codigoControl := by
  unfold cufRegenerado at h
  split at h
  · cases h
  · obtain ⟨cadena, -, -, -, hcuf⟩ := calcularCuf_eq_ok h
    exact ⟨calcularCuf_limpio h, _, hcuf⟩

/-- **A regeneration** writes the code of the event in all the places. -/
theorem conCufd_regeneracion {copia : DocumentoSiat} {perfil : SiatIssuerProfile} {r : SiatCufd} {cuf : Text}
    (eventId : Nat) (mensajes : List SiatMensaje) (hcopia : ∃ codigo, codigo ≠ [] ∧ XmlConCufd copia.xml codigo)
    (hr : r.codigo ≠ [] ∧ sinPatron (escaparXml r.codigo) = true) (hcuf : cufRegenerado perfil copia r = .ok cuf)
    (hfila : (d.cuf = copia.cuf ∧ d.cufd = copia.cufd ∧ d.cufdId = copia.cufdId ∧ d.xml = copia.xml) ∨
      ConCufd r d.toFiscalDocument) :
    ConCufd r (aplicarRegeneracion copia eventId r cuf mensajes d).toFiscalDocument := by
  obtain ⟨hlimpio, digitos, hdigitos⟩ := cufRegenerado_eq_ok hcuf
  obtain ⟨codigo, hcodigo, hxml⟩ := hcopia
  refine ⟨?_, ?_, ?_, ?_⟩
  · exact cambio_induction (P := (· = some r.id)) rfl (hfila.imp (·.2.2.1) (·.cufdId))
  · exact cambio_induction (P := (· = r.codigo)) rfl (hfila.imp (·.2.1) (·.cufd))
  · exact cambio_induction (P := (XmlConCufd · r.codigo)) (xmlConCufd_regenerado hxml hcodigo hlimpio hr _)
      (hfila.imp (·.2.2.2) (·.xml))
  · exact cambio_induction (P := fun cuf => ∃ digitos, cuf = some (digitos ++ r.codigoControl))
      ⟨digitos, congrArg some hdigitos⟩ (hfila.imp (·.1) (·.cuf))

theorem ConCufd.congr {r : SiatCufd} {fila fila' : FiscalDocument} (h : ConCufd r fila) (hcuf : fila'.cuf = fila.cuf)
    (hcufd : fila'.cufd = fila.cufd) (hcufdId : fila'.cufdId = fila.cufdId) (hxml : fila'.xml = fila.xml) :
    ConCufd r fila' where
  cufdId := hcufdId.trans h.cufdId
  cufd := hcufd.trans h.cufd
  xml := hxml ▸ h.xml
  cuf := hcuf ▸ h.cuf

/-- A document as it is issued carries the code it was prepared with. -/
theorem conSuCodigo_emitida {preparada : EmisionPreparada} {documento : DocumentoAEmitir} {fila : FiscalDocument}
    (h : emitirEnTransaccion c s preparada documento = .ok fila) (hp : (PuntoSiat.preparada preparada).ConSuCodigo s) :
    (PuntoSiat.insertada fila).ConSuCodigo s := by
  obtain ⟨totales, serie, -, hfila⟩ := emitirEnTransaccion_eq_ok h
  obtain ⟨hevento, -, -, -, -, hcufd, hcufdId⟩ := filaFiscal_columnas hfila
  obtain ⟨cuf, hcuf, hfilaCuf, hxml, -⟩ := filaFiscal_eq_ok hfila
  obtain ⟨cadena, -, -, -, hdigitos⟩ := calcularCuf_eq_ok hcuf
  obtain ⟨⟨r, hr, hmismo⟩, hbajo⟩ := hp
  refine ⟨⟨r, hr, ⟨?_, ?_, ?_, ?_⟩⟩, ?_⟩
  · rw [hcufdId, hmismo]
  · rw [hcufd, hmismo]
  · rw [hmismo]
    exact ⟨_, _, construirFacturaXml_eq_ok hxml, (calcularCuf_limpio hcuf).1, rfl⟩
  · rw [hmismo]
    exact ⟨_, hfilaCuf.trans (congrArg some hdigitos)⟩
  · rw [hevento, hcufdId]
    exact hbajo

/-- **A worker** that is given its code keeps the codes in order. -/
theorem codigos_pasa {entrada : EntradaSiat} (h : CodigosEnOrden s) (hfiel : Fiel c p s) (hp : LlevaCodigo p s)
    (hok : AbreConSuCufdEn s p) (hlimpia : ∀ r ∈ entrada.respuestaCufd, sinPatron (escaparXml r.codigo) = true)
    (hnext : seguir c s p entrada = some (s', q)) : CodigosEnOrden s' := by
  have hpasa := pasa_of_next hnext
  have hc := conserva_pasa hpasa
  -- a row that was written carries a code that was there, and is under an event with it
  have hfila : ∀ d ∈ s.documents, ∀ d', Escritura s p d d' →
      (∃ r ∈ s.cufds, ConCufd r.toSiatCufd d'.toFiscalDocument) ∧ BajoSuCodigo s d'.eventId d'.cufdId := by
    intro d hd d' hescritura
    rcases codigos_escritura hescritura with ⟨hcuf, hcufd, hcufdId, hxml, hevento⟩ |
      ⟨copia, perfil, mensajes, e, cufdEvento, cuf, rfl, hid, hfind, hcalculado, rfl⟩
    · obtain ⟨r, hr, hcon⟩ := h.documento d hd
      refine ⟨⟨r, hr, hcon.congr hcuf hcufd hcufdId hxml⟩, ?_⟩
      rw [hevento, hcufdId]
      exact h.evento d hd
    · obtain ⟨hmem, hkey⟩ := Table.find?_eq_some.mp hfind
      have hcopia := hp.copia copia rfl
      have hcon : ConCufd cufdEvento.toSiatCufd
          (aplicarRegeneracion copia e.id cufdEvento.toSiatCufd cuf mensajes d).toFiscalDocument := by
        refine conCufd_regeneracion e.id mensajes hcopia.xml (h.cufd _ hmem) hcalculado ?_
        cases hevento : d.eventId with
        | none => exact .inl (hcopia.fila d hd hid hevento)
        | some id =>
          -- the row was regenerated before, under an event with the same code
          obtain ⟨e₁, he₁, hide, hcufdId⟩ := h.evento d hd id hevento
          obtain ⟨r, hr, hcon⟩ := h.documento d hd
          have hmismo := hok d hd hid e₁ he₁ (hevento.trans (congrArg some hide.symm))
          have hrid : r.id = cufdEvento.id :=
            (Option.some.inj (hcon.cufdId.symm.trans hcufdId)).trans (hmismo.trans hkey.symm)
          obtain rfl : r = cufdEvento := Table.eq_of_key_eq hr hmem hrid
          exact .inr hcon
      refine ⟨⟨cufdEvento, hmem, hcon⟩, fun id hid' => ?_⟩
      have hsinEvento := (hfiel.copia copia rfl).sinEvento
      have hevento : cambio copia.eventId (some e.id) d.eventId = some e.id :=
        cambio_of_ne (by rw [hsinEvento]; exact Option.some_ne_none _) _
      obtain ⟨e', he', hidentidad⟩ := hfiel.evento e rfl
      simp only [SignificantEvent.identidad, Prod.mk.injEq] at hidentidad
      refine ⟨e', he', hidentidad.1.trans (Option.some.inj (hevento.symm.trans hid')), ?_⟩
      rw [hcon.cufdId, hidentidad.2.2.2]
      exact congrArg some hkey
  refine ⟨fun r' hr' => ?_, fun d' hd' => ?_, fun d' hd' => ?_⟩
  · rcases nuevosDe_seguir hnext r' hr' with ⟨r, hr, heq⟩ | ⟨x, hx, hcodigo, hne⟩
    · rw [heq]
      exact h.cufd r hr
    · rw [hcodigo]
      exact ⟨hne, hlimpia x hx⟩
  · rcases documentos_pasa hpasa d' hd' with ⟨d, hd, hescritura⟩ | ⟨fila, rfl, rfl⟩
    · exact conCufd_mono (hfila d hd d' hescritura).1 hc
    · obtain ⟨r, hr, hcon⟩ := conCufd_mono hp.codigo.1 hc
      exact ⟨r, hr, hcon.congr rfl rfl rfl rfl⟩
  · rcases documentos_pasa hpasa d' hd' with ⟨d, hd, hescritura⟩ | ⟨fila, rfl, rfl⟩
    · exact (hfila d hd d' hescritura).2.mono hc
    · exact BajoSuCodigo.mono hp.codigo.2 hc

/-- A copy stays what it is worth. -/
theorem CopiaIntacta.mono {copia : DocumentoSiat} (h : CopiaIntacta s copia) (henviada : CopiaEnviada s copia)
    (hfiel : Fiel c p s) (hpasa : Pasa c s p s' q) : CopiaIntacta s' copia where
  xml := h.xml
  fila d' hd' hid hevento := by
    rcases documentos_pasa hpasa d' hd' with ⟨d, hd, hescritura⟩ | ⟨fila, -, rfl⟩
    · have hid' : d.id = copia.id := (congrArg Prod.fst hescritura.identidad).symm.trans hid
      rcases codigos_escritura hescritura with ⟨hcuf, hcufd, hcufdId, hxml, heq⟩ |
        ⟨otra, perfil, mensajes, e, cufdEvento, cuf, rfl, -, -, -, rfl⟩
      · obtain ⟨h₁, h₂, h₃, h₄⟩ := h.fila d hd hid' (heq.symm.trans hevento)
        exact ⟨hcuf.trans h₁, hcufd.trans h₂, hcufdId.trans h₃, hxml.trans h₄⟩
      · -- a regeneration puts the row under an event
        have hsinEvento := (hfiel.copia otra rfl).sinEvento
        have hsome : cambio otra.eventId (some e.id) d.eventId = some e.id :=
          cambio_of_ne (by rw [hsinEvento]; exact Option.some_ne_none _) _
        exact absurd (hsome.symm.trans hevento) (Option.some_ne_none _)
    · obtain ⟨d, hd, hidentidad⟩ := henviada.fila
      exact absurd (hid.trans (congrArg Prod.fst hidentidad).symm).symm (Nat.ne_of_lt (Table.key_lt_nextKey hd))

theorem LlevaCodigo.mono {x : PuntoSiat} (h : LlevaCodigo x s) (hx : Fiel c x s) (hfiel : Fiel c p s)
    (hpasa : Pasa c s p s' q) : LlevaCodigo x s' where
  copia copia hcopia := (h.copia copia hcopia).mono (hx.copia copia hcopia) hfiel hpasa
  codigo := h.codigo.mono (conserva_pasa hpasa)

/-! ## Every reachable state -/

theorem ultimoCufd_eq_some {cufds : Table SiatCufdRow} {cond : SiatCufdRow → Bool} {r : SiatCufdRow}
    (h : ultimoCufd cufds cond = some r) : r ∈ cufds := by
  -- the best so far is always one of the rows
  have hmem : ∀ r, ultimoCufd cufds cond = some r → r ∈ cufds.rowsWhere cond := by
    unfold ultimoCufd
    refine List.foldlRecOn (motive := fun mejor => ∀ r, mejor = some r → r ∈ cufds.rowsWhere cond) _ _ ?_ ?_
    · intro r hnone
      cases hnone
    · intro mejor hmejor x hx r hr
      cases mejor with
      | none => exact Option.some.inj hr ▸ hx
      | some m =>
        dsimp only at hr
        split at hr
        · exact Option.some.inj hr ▸ hx
        · exact hmejor r hr
  exact (Table.mem_rowsWhere.mp (hmem r h)).1

/-- The code to issue with is stored. -/
theorem deTabla_cufdVigente {perfilId : Nat} {forzar : Bool} {respuesta : Option RespuestaCufd} {cufd : SiatCufdRow}
    (h : cufdVigente s perfilId forzar respuesta = some (s', cufd)) : DeTabla s' cufd.toSiatCufd := by
  rcases cufdVigente_eq_some h with ⟨rfl, hactual⟩ | ⟨r, -, -, hguardado⟩
  · exact ⟨cufd, ultimoCufd_eq_some hactual, rfl⟩
  · obtain ⟨rfl, rfl⟩ := Prod.mk.inj hguardado
    exact ⟨_, (Table.mem_create fun _ => rfl).mpr (.inr rfl), rfl⟩

theorem deTabla_contexto {copia : DocumentoSiat} {perfil : SiatIssuerProfile} {cufd : SiatCufd}
    (h : contexto c s copia = some (perfil, cufd)) : DeTabla s cufd := by
  obtain ⟨perfil', -, h⟩ := Option.bind_eq_some_iff.mp h
  obtain ⟨fila, hfila, heq⟩ := Option.map_eq_some_iff.mp h
  obtain ⟨cufdId, -, hfind⟩ := Option.bind_eq_some_iff.mp hfila
  exact ⟨fila, (Table.find?_eq_some.mp hfind).1, congrArg Prod.snd heq⟩

/-- What goes on with an event carries its code. -/
theorem llevaCodigo_abierto {perfil : SiatIssuerProfile} {cufd : SiatCufd} {para : ParaQue} {e : SignificantEvent}
    (hcopia : ∀ copia ∈ para.copia, CopiaIntacta s copia) (hcufd : DeTabla s cufd) (he : e ∈ s.events)
    (hmismo : ∀ cuis, para = .emitir cuis → e.cufdEventoId = cufd.id) : LlevaCodigo (abierto perfil cufd e para) s := by
  cases para with
  | emitir cuis =>
    refine ⟨(fun _ h => by cases h), hcufd, fun id hid => ⟨e, he, Option.some.inj hid, ?_⟩⟩
    exact congrArg some (hmismo cuis rfl).symm
  | regenerar copia mensajes => exact ⟨hcopia, trivial⟩

theorem llevaCodigo_pasa (hfiel : Fiel c p s) (hp : LlevaCodigo p s) (hok : AbreConSuCufdEn s p)
    (h : Pasa c s p s' q) : ∀ p' ∈ q, LlevaCodigo p' s' := by
  intro p' hp'
  have hmismas := hp.mono hfiel hfiel h
  cases h with
  | fin | confirmada | reclamada | adelantada | aplicadoFinal | aplicadoError | regenerado | despachado | validado =>
    cases hp'
  | enLinea hvigente =>
    cases hp'
    exact ⟨(fun _ h => by cases h), deTabla_cufdVigente hvigente, fun _ h => by cases h⟩
  | @conEvento perfil cuis e cufd hdeEvento =>
    cases hp'
    obtain ⟨hmem, hkey⟩ := Table.find?_eq_some.mp hdeEvento
    obtain ⟨e', he', hidentidad⟩ := hfiel.evento e rfl
    simp only [SignificantEvent.identidad, Prod.mk.injEq] at hidentidad
    refine ⟨(fun _ h => by cases h), ⟨cufd, hmem, rfl⟩, fun id hid => ⟨e', he', ?_, ?_⟩⟩
    · exact hidentidad.1.trans (Option.some.inj hid)
    · exact congrArg some (hkey.trans hidentidad.2.2.2.symm)
  | sinEvento hultimo =>
    cases hp'
    exact ⟨(fun _ h => by cases h), _, ultimoCufd_eq_some hultimo, rfl⟩
  | @habia perfil cufd inicio para e hevento =>
    cases hp'
    refine llevaCodigo_abierto hp.copia hp.codigo (eventoAbierto_eq_some hevento).1 fun cuis hpara => ?_
    subst hpara
    exact hok e hevento
  | noHabia | chocado =>
    cases hp'
    exact ⟨hp.copia, hp.codigo⟩
  | @creado perfil cufd inicio para s' e hcreado =>
    cases hp'
    obtain ⟨rfl, rfl, -⟩ := crearEvento_eq_some hcreado
    exact llevaCodigo_abierto hmismas.copia hmismas.codigo ((Table.mem_create fun _ => rfl).mpr (.inr rfl)) fun _ _ => rfl
  | @habiaOtro perfil cufd para e hevento =>
    cases hp'
    refine llevaCodigo_abierto hp.copia hp.codigo (eventoAbierto_eq_some hevento).1 fun cuis hpara => ?_
    subst hpara
    exact hok e hevento
  | emitida hemitida =>
    cases hp'
    exact ⟨(fun _ h => by cases h), conSuCodigo_emitida hemitida hp.codigo⟩
  | enviada | noEnviada =>
    cases hp'
    exact ⟨hmismas.copia, trivial⟩
  | contestada | porConsultar | consultada | sinConsulta =>
    cases hp'
    exact ⟨hp.copia, trivial⟩
  | aRegenerar hcontexto =>
    cases hp'
    exact ⟨hp.copia, deTabla_contexto hcontexto⟩
  | _ =>
    cases hp'
    exact ⟨(fun _ h => by cases h), trivial⟩

theorem llevaCodigo_empieza (h : CodigosEnOrden s) (hp : Empieza s p) : LlevaCodigo p s := by
  have hcopia : ∀ {d : DocumentoSiat}, d ∈ s.documents → CopiaIntacta s d := fun {d} hd => by
    obtain ⟨r, hr, hcon⟩ := h.documento d hd
    refine ⟨⟨r.codigo, (h.cufd r hr).1, hcon.xml⟩, fun d' hd' hid _ => ?_⟩
    obtain rfl : d' = d := Table.eq_of_key_eq hd' hd hid
    exact ⟨rfl, rfl, rfl, rfl⟩
  cases hp with
  | enviar hd | rescatar hd =>
    refine ⟨fun copia heq => ?_, trivial⟩
    cases heq
    exact hcopia hd
  | _ => exact ⟨(fun _ h => by cases h), trivial⟩

theorem codigos_suceder {S : Sessions EstadoFiscal PuntoSiat} (hS : Workers.Keeps CodigosEnOrden LlevaCodigo S)
    {suceso : SucesoSin} (h : suceder S.committed suceso = some s') :
    Workers.Keeps CodigosEnOrden LlevaCodigo { S with committed := s' } := by
  have hc := conserva_suceder h
  obtain ⟨-, hdocuments, -, -, hcufds, -⟩ := suceder_tablas h
  refine ⟨⟨fun r hr => hS.store.cufd r (hcufds ▸ hr), fun d hd => ?_, fun d hd => ?_⟩, fun x hx => ⟨fun copia hcopia => ?_, ?_⟩⟩
  · exact conCufd_mono (hS.store.documento d (hdocuments ▸ hd)) hc
  · exact (hS.store.evento d (hdocuments ▸ hd)).mono hc
  · have hintacta := (hS.worker x hx).copia copia hcopia
    exact ⟨hintacta.xml, fun d hd => hintacta.fila d (hdocuments ▸ hd)⟩
  · exact (hS.worker x hx).codigo.mono hc

/-- **One CUFD for each event**, in every run of emissions and processors in which an emission is only given events
with the code it chose, no document is regenerated while it is under an event with another code, and no code of the
day has a pattern of replacement. -/
theorem unCufd_of_reachable {S : Sessions EstadoFiscal PuntoSiat} (h : (siatMachine c).Reachable AbreConSuCufd S) :
    UnCufdPorEvento S.committed := by
  have hfieles := @copias_fieles c AbreConSuCufd
  have hkeeps : Workers.Keeps CodigosEnOrden LlevaCodigo S := by
    refine Workers.keeps (G := Workers.Keeps (FilasSanas c) (Fiel c)) ?_ (fun s hinit => ?_) (fun _ hS => hfieles hS) h
    · exact {
        start := fun _ hS hstart => llevaCodigo_empieza hS.store (empieza_of_empezar hstart)
        next := fun hG hS hfind hok hnext =>
          ⟨codigos_pasa hS.store (hG.at hfind) (hS.at hfind) (hok.1 _ hfind) hok.2 hnext,
            llevaCodigo_pasa (hG.at hfind) (hS.at hfind) (hok.1 _ hfind) (pasa_of_next hnext)⟩
        stable := fun hG hS hfind _ hnext x hx =>
          have hmem := (Sessions.mem_others.mp hx).1
          (hS.worker x hmem).mono (hG.worker x hmem) (hG.at hfind) (pasa_of_next hnext)
        outside := fun _ hS _ hsuceso => codigos_suceder hS hsuceso }
    · obtain ⟨hdocuments, hcufds, -⟩ := hinit
      have hnone : ∀ d, d ∉ s.documents := fun d hd => by
        rw [hdocuments] at hd
        exact Table.not_mem_empty d hd
      refine ⟨fun r hr => ?_, fun d hd => absurd hd (hnone d), fun d hd => absurd hd (hnone d)⟩
      rw [hcufds] at hr
      exact absurd hr (Table.not_mem_empty r)
  intro d hd e he hevento _
  obtain ⟨r, hr, hcon⟩ := hkeeps.store.documento d hd
  obtain ⟨e', he', hid, hcufdId⟩ := hkeeps.store.evento d hd e.id hevento
  obtain rfl : e' = e := Table.eq_of_key_eq he' he hid
  exact ⟨r, hr, Option.some.inj (hcon.cufdId.symm.trans hcufdId), hcon⟩

end EventCodes

/-! ## Two runs -/

section Runs

/-- The last invoice of a day is issued and sent under its code, and a new code is stored; then the authority stops
answering, and the invoice is to be issued again. -/
def facturaDeAyer : List (WorkerAct TareaSiat EntradaSiat SucesoSin) :=
  [.start 0 (.preparar 1), .go 0 (.enLinea "C1".toList (some exampleCufd) (some true)), .die 0,
    .outside (.tick 71999000),
    .start 1 (.preparar 1), .go 1 (.enLinea "C1".toList none (some true)), .go 1 (.documento (exampleEmision 5).documento),
    .go 1 .sigue, .outside (.tick 2000),
    .start 0 (.preparar 1), .go 0 (.enLinea "C1".toList (some { exampleCufd with codigo := "E5F6".toList }) (some true)),
    .die 0, .start 1 (.reclamar [1]), .go 1 .sigue, .start 1 (.enviar 1), .go 1 .sigue,
    .go 1 (.llamada (.error ⟨"timeout", true⟩)), .outside (.tick 121000), .go 1 (.llamada (.error ⟨"timeout", true⟩)),
    .go 1 .sigue, .go 1 .sigue]

/-- An invoice is prepared without a connection, up to `abrir`. -/
def emiteSinConexion : List (WorkerAct TareaSiat EntradaSiat SucesoSin) :=
  [.start 2 (.preparar 1), .go 2 (.fueraDeLinea "C1".toList)]

/-- It is given an event, and issued. -/
def terminaEmision : List (WorkerAct TareaSiat EntradaSiat SucesoSin) :=
  [.go 2 .sigue, .go 2 (.documento { (exampleEmision 5).documento with sourceId := 78 }), .go 2 .sigue]

/-- The regeneration opens the event between the two. -/
def dosCodigos : Sessions EstadoFiscal PuntoSiat :=
  (siatMachine exampleSiat).after ⟨exampleFiscal, []⟩
    (facturaDeAyer ++ emiteSinConexion ++ [.go 1 .sigue] ++ terminaEmision)

/-- The regeneration opens the event before, and writes the invoice; the emission finds it open. -/
def unCodigo : Sessions EstadoFiscal PuntoSiat :=
  (siatMachine exampleSiat).afterIf AbreConSuCufd ⟨exampleFiscal, []⟩
    (facturaDeAyer ++ [.go 1 .sigue, .go 1 .sigue] ++ emiteSinConexion ++ terminaEmision.drop 1)

/-- What the two runs leave. -/
theorem facturas_enEvento :
    (∃ d ∈ dosCodigos.committed.documents, ∃ e ∈ dosCodigos.committed.events,
      (d.eventId = some e.id ∧ d.siatStatus = .offline) ∧ d.cufdId ≠ some e.cufdEventoId) ∧
      (unCodigo.committed.documents.rowsWhere fun d => d.eventId.isSome).length = 2 := by
  decide +kernel

theorem unCufd_counterexample :
    (siatMachine exampleSiat).Reachable (fun _ _ => True) dosCodigos ∧ ¬UnCufdPorEvento dosCodigos.committed := by
  refine ⟨(siatMachine exampleSiat).reachable_after exampleFiscal_sinHistoria _, fun h => ?_⟩
  obtain ⟨d, hd, e, he, ⟨hevento, hstatus⟩, hne⟩ := facturas_enEvento.1
  obtain ⟨r, -, hid, hcon⟩ := h d hd e he hevento (.inl hstatus)
  exact hne (hcon.cufdId.trans (congrArg some hid))

theorem unCufd_of_reachable_unCodigo :
    (unCodigo.committed.documents.rowsWhere fun d => d.eventId.isSome).length = 2 ∧
      UnCufdPorEvento unCodigo.committed :=
  ⟨facturas_enEvento.2,
    unCufd_of_reachable ((siatMachine exampleSiat).reachable_afterIf AbreConSuCufd exampleFiscal_sinHistoria _)⟩

end Runs

end AtlasErp
