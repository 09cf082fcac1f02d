import AtlasErp.Fiscal.ProcessorSteps

/-! # What the copies of the workers are worth

A worker holds a copy of a document or of an event while it waits.  The copy may be old, but what identifies the
row is as it was, and the document had been sent on its own when it was read.

- `FilaSana`, `EventoSano`: what holds of every row;
- `Fiel`: what holds of the copies at every point;
- `copias_fieles`: so it is in every reachable state. -/

namespace AtlasErp

open Lib

/-! ## Copies -/

def ParaQue.copia : ParaQue → Option DocumentoSiat
  | .emitir _ => none
  | .regenerar copia _ => some copia

/-- The document that a worker holds a copy of. -/
def PuntoSiat.copia : PuntoSiat → Option DocumentoSiat
  | .abriendo _ _ _ para | .creando _ _ _ para | .reintentando _ _ para => para.copia
  | .porEnviar copia | .esperando copia _ | .consultando copia | .porAplicar copia _ | .regenerando copia _ _ _ =>
    some copia
  | _ => none

/-- The event that a worker holds a copy of. -/
def PuntoSiat.evento : PuntoSiat → Option SignificantEvent
  | .preparando _ evento => evento
  | .regenerando _ _ _ e | .despachando e | .registrando e _ | .empaquetando e _ | .esperandoPaquete e _ _ _
  | .recibido e _ _ _ _ | .sinPendientes e => some e
  | _ => none

/-- A row of a document: under an event it was issued without a connection, and only what was issued with one is
sent on its own.  Its date is the local time at which it was issued. -/
structure FilaSana (c : SiatConfig) (s : EstadoFiscal) (d : FiscalDocument) : Prop where
  enEvento : ∀ id, d.eventId = some id → d.codigoEmision = .fueraDeLinea ∧
    ∃ e ∈ s.events, e.id = id ∧ d.issuerProfileId = some e.issuerProfileId
  enviada : d.siatStatus = .sent → d.codigoEmision = .enLinea
  pasada : d.emittedAt ≤ s.now
  fecha : ∃ i, d.issuerProfileId = some i ∧ d.fechaEmision = c.fechaHoraLocal i d.emittedAt

/-- An event began already, and does not end while it is open. -/
structure EventoSano (s : EstadoFiscal) (e : SignificantEvent) : Prop where
  inicio : e.inicio ≤ s.now
  abierto : e.status = .open → e.fin = none

/-- A copy of a document that had been sent. -/
structure CopiaEnviada (s : EstadoFiscal) (copia : DocumentoSiat) : Prop where
  enviada : copia.siatStatus = .sent
  enLinea : copia.codigoEmision = .enLinea
  sinEvento : copia.eventId = none
  fila : ∃ d ∈ s.documents, d.identidad = copia.identidad

/-- An emission under an event: it is of the issuer, and it began before `t`. -/
def BajoEvento (s : EstadoFiscal) (eventId : Option Nat) (perfilId : Option Nat) (t : Instant) : Prop :=
  ∀ id, eventId = some id → ∃ e ∈ s.events, e.id = id ∧ perfilId = some e.issuerProfileId ∧ e.inicio ≤ t

/-- What is decided for an issuer is about its documents. -/
def ParaQue.De (perfil : SiatIssuerProfile) (para : ParaQue) : Prop :=
  ∀ copia ∈ para.copia, copia.issuerProfileId = some perfil.id

/-- What holds at a point besides. -/
def PuntoSiat.Sano (c : SiatConfig) (s : EstadoFiscal) : PuntoSiat → Prop
  | .abriendo perfil _ inicio para | .creando perfil _ inicio para => inicio ≤ s.now ∧ para.De perfil
  | .reintentando perfil _ para => para.De perfil
  | .preparada p => (p.eventId ≠ none → p.codigoEmision = .fueraDeLinea) ∧
      BajoEvento s p.eventId (some p.perfil.id) s.now
  | .insertada fila => FilaSana c s fila ∧ fila.siatStatus ≠ .sent ∧
      BajoEvento s fila.eventId fila.issuerProfileId fila.emittedAt
  | .preparando perfil evento => ∀ e ∈ evento, e.issuerProfileId = perfil.id ∧ e.inicio ≤ s.now
  | .regenerando copia _ _ e => copia.issuerProfileId = some e.issuerProfileId
  | _ => True

/-- What a worker relies on at a point. -/
structure Fiel (c : SiatConfig) (p : PuntoSiat) (s : EstadoFiscal) : Prop where
  copia : ∀ d ∈ p.copia, CopiaEnviada s d
  evento : ∀ e ∈ p.evento, ∃ e' ∈ s.events, e'.identidad = e.identidad
  sano : p.Sano c s

/-- What holds of every row. -/
structure FilasSanas (c : SiatConfig) (s : EstadoFiscal) : Prop where
  documento : ∀ d ∈ s.documents, FilaSana c s d.toFiscalDocument
  evento : ∀ e ∈ s.events, EventoSano s e

/-! ## What does not change -/

section Monotone

variable {c : SiatConfig} {s s' : EstadoFiscal}

/-- An event with its issuer and its beginning is there afterwards. -/
theorem Conserva.evento' (h : Conserva s s') {e : SignificantEvent} (he : e ∈ s.events) :
    ∃ e' ∈ s'.events, e'.id = e.id ∧ e'.issuerProfileId = e.issuerProfileId ∧ e'.inicio = e.inicio := by
  obtain ⟨e', he', hidentidad, -⟩ := h.evento e he
  simp only [SignificantEvent.identidad, Prod.mk.injEq] at hidentidad
  exact ⟨e', he', hidentidad.1, hidentidad.2.1, hidentidad.2.2.1⟩

theorem FilaSana.mono {d : FiscalDocument} (h : FilaSana c s d) (hc : Conserva s s') : FilaSana c s' d where
  enEvento id hid := by
    obtain ⟨hfuera, e, he, hide, hissuer⟩ := h.enEvento id hid
    obtain ⟨e', he', hid', hissuer', -⟩ := hc.evento' he
    exact ⟨hfuera, e', he', hid'.trans hide, hissuer' ▸ hissuer⟩
  enviada := h.enviada
  pasada := le_trans h.pasada hc.now
  fecha := h.fecha

theorem BajoEvento.mono {eventId perfilId : Option Nat} {t t' : Instant} (h : BajoEvento s eventId perfilId t)
    (hc : Conserva s s') (ht : t ≤ t') : BajoEvento s' eventId perfilId t' := by
  intro id hid
  obtain ⟨e, he, hide, hissuer, hinicio⟩ := h id hid
  obtain ⟨e', he', hid', hissuer', hinicio'⟩ := hc.evento' he
  refine ⟨e', he', hid'.trans hide, hissuer' ▸ hissuer, ?_⟩
  rw [hinicio']
  exact le_trans hinicio ht

theorem CopiaEnviada.mono {copia : DocumentoSiat} (h : CopiaEnviada s copia) (hc : Conserva s s') :
    CopiaEnviada s' copia where
  enviada := h.enviada
  enLinea := h.enLinea
  sinEvento := h.sinEvento
  fila := by
    obtain ⟨d, hd, hidentidad⟩ := h.fila
    obtain ⟨d', hd', hidentidad'⟩ := hc.documento d hd
    exact ⟨d', hd', hidentidad'.trans hidentidad⟩

theorem PuntoSiat.Sano.mono {p : PuntoSiat} (h : p.Sano c s) (hc : Conserva s s') : p.Sano c s' := by
  cases p with
  | abriendo | creando => exact ⟨le_trans h.1 hc.now, h.2⟩
  | preparada => exact ⟨h.1, h.2.mono hc hc.now⟩
  | insertada => exact ⟨h.1.mono hc, h.2.1, h.2.2.mono hc le_rfl⟩
  | preparando => exact fun e he => ⟨(h e he).1, le_trans (h e he).2 hc.now⟩
  | reintentando | regenerando => exact h
  | _ => trivial

theorem Fiel.mono {p : PuntoSiat} (h : Fiel c p s) (hc : Conserva s s') : Fiel c p s' where
  copia d hd := (h.copia d hd).mono hc
  evento e he := by
    obtain ⟨e', he', hidentidad⟩ := h.evento e he
    obtain ⟨e'', he'', hidentidad', -⟩ := hc.evento e' he'
    exact ⟨e'', he'', hidentidad'.trans hidentidad⟩
  sano := h.sano.mono hc

/-- A point without copies of which nothing more is asked. -/
theorem fiel_of_nada {p : PuntoSiat} (hcopia : p.copia = none) (hevento : p.evento = none) (hsano : p.Sano c s) :
    Fiel c p s where
  copia d hd := by rw [hcopia] at hd; cases hd
  evento e he := by rw [hevento] at he; cases he
  sano := hsano

/-- A point with the same copy of a document, and no event. -/
theorem fiel_of_copia {p : PuntoSiat} {copia : DocumentoSiat} (hcopia : p.copia = some copia) (hevento : p.evento = none)
    (hsano : p.Sano c s) (h : CopiaEnviada s copia) : Fiel c p s where
  copia d hd := by
    rw [hcopia] at hd
    cases hd
    exact h
  evento e he := by rw [hevento] at he; cases he
  sano := hsano

/-- A point with the copy of an event, and no document. -/
theorem fiel_of_evento {p : PuntoSiat} {e : SignificantEvent} (hcopia : p.copia = none) (hevento : p.evento = some e)
    (hsano : p.Sano c s) (h : ∃ e' ∈ s.events, e'.identidad = e.identidad) : Fiel c p s where
  copia d hd := by rw [hcopia] at hd; cases hd
  evento e' he' := by
    rw [hevento] at he'
    cases he'
    exact h
  sano := hsano

end Monotone

/-! ## What each action gives -/

section Actions

variable {c : SiatConfig} {s s' : EstadoFiscal} {p : PuntoSiat} {q : Option PuntoSiat}

/-- The columns of a document as it is issued. -/
theorem filaFiscal_columnas {e : Emision} {totales : TotalesFiscales} {n : Nat} {fila : FiscalDocument}
    (h : filaFiscal e totales n = .ok fila) :
    fila.eventId = e.preparada.eventId ∧ fila.codigoEmision = e.preparada.codigoEmision ∧
      fila.siatStatus = (if e.preparada.codigoEmision = .enLinea then .queued else .offline) ∧
      fila.emittedAt = e.ahora ∧ fila.fechaEmision = e.fechaEmision ∧
      fila.cufd = e.preparada.cufd.codigo ∧ fila.cufdId = some e.preparada.cufd.id := by
  obtain ⟨cuf, -, h⟩ := bind_eq_ok.mp h
  obtain ⟨xml, -, h⟩ := bind_eq_ok.mp h
  obtain rfl := pure_eq_ok.mp h
  exact ⟨rfl, rfl, rfl, rfl, rfl, rfl, rfl⟩

/-- The emission that an issued document is. -/
theorem emitirEnTransaccion_eq_ok {preparada : EmisionPreparada} {documento : DocumentoAEmitir}
    {fila : FiscalDocument} (h : emitirEnTransaccion c s preparada documento = .ok fila) :
    ∃ totales serie, s.series.find? preparada.perfil.id = some serie ∧
      filaFiscal ⟨preparada, documento, s.now, c.fechaHoraLocal preparada.perfil.id s.now⟩ totales
        (serie.lastNumber + 1) = .ok fila := by
  obtain ⟨-, -, h⟩ := bind_eq_ok.mp h
  obtain ⟨totales, -, h⟩ := bind_eq_ok.mp h
  obtain ⟨serie, hserie, h⟩ := orFail_bind_eq_ok.mp h
  obtain ⟨-, h⟩ := failIf_bind_eq_ok.mp h
  exact ⟨totales, serie, hserie, h⟩

theorem eventoAbierto_eq_some {perfilId : Nat} {e : SignificantEvent} (h : eventoAbierto s perfilId = some e) :
    e ∈ s.events ∧ e.issuerProfileId = perfilId ∧ e.status = .open := by
  obtain ⟨he, hcond⟩ := Table.findBy_eq_some h
  exact ⟨he, of_decide_eq_true hcond⟩

/-- Who issues a document. -/
theorem contexto_eq_some {copia : DocumentoSiat} {perfil : SiatIssuerProfile} {cufd : SiatCufd}
    (h : contexto c s copia = some (perfil, cufd)) :
    copia.issuerProfileId = some perfil.id ∧ copia.cufdId = some cufd.id := by
  obtain ⟨perfil', hperfil, h⟩ := Option.bind_eq_some_iff.mp h
  obtain ⟨fila, hfila, heq⟩ := Option.map_eq_some_iff.mp h
  cases heq
  obtain ⟨perfilId, hid, hfind⟩ := Option.bind_eq_some_iff.mp hperfil
  obtain ⟨cufdId, hcufdId, hfind'⟩ := Option.bind_eq_some_iff.mp hfila
  have hkey : perfil.id = perfilId := (Table.find?_eq_some.mp hfind).2
  have hkey' : fila.id = cufdId := (Table.find?_eq_some.mp hfind').2
  exact ⟨hid.trans (congrArg some hkey.symm), hcufdId.trans (congrArg some hkey'.symm)⟩

/-- A document as it is issued under what was prepared. -/
theorem sano_emitida {preparada : EmisionPreparada} {documento : DocumentoAEmitir} {fila : FiscalDocument}
    (h : emitirEnTransaccion c s preparada documento = .ok fila) (hsano : (PuntoSiat.preparada preparada).Sano c s) :
    (PuntoSiat.insertada fila).Sano c s := by
  obtain ⟨totales, serie, -, hfila⟩ := emitirEnTransaccion_eq_ok h
  obtain ⟨hevento, hemision, hstatus, hemitida, hfecha, -⟩ := filaFiscal_columnas hfila
  obtain ⟨cuf, -, -, -, hissuer, -⟩ := filaFiscal_eq_ok hfila
  obtain ⟨hfuera, hbajo⟩ := hsano
  refine ⟨⟨fun id hid => ?_, fun hsent => ?_, hemitida.le, preparada.perfil.id, hissuer, ?_⟩, ?_, fun id hid => ?_⟩
  · rw [hevento] at hid
    obtain ⟨e, he, hide, hperfil, -⟩ := hbajo id hid
    exact ⟨hemision.trans (hfuera (by rw [hid]; exact Option.some_ne_none id)), e, he, hide, hissuer.trans hperfil⟩
  · rw [hstatus] at hsent
    split at hsent <;> cases hsent
  · rw [hfecha, hemitida]
  · rw [hstatus]
    split <;> decide
  · rw [hevento] at hid
    obtain ⟨e, he, hide, hperfil, hinicio⟩ := hbajo id hid
    exact ⟨e, he, hide, hissuer.trans hperfil, hinicio.trans hemitida.ge⟩

/-- With an event open, what comes next relies on the same copies. -/
theorem fiel_abierto {perfil : SiatIssuerProfile} {cufd : SiatCufd} {para : ParaQue} {e : SignificantEvent}
    (hcopia : ∀ d ∈ para.copia, CopiaEnviada s d) (hde : para.De perfil) (he : e ∈ s.events)
    (hperfil : e.issuerProfileId = perfil.id) (hinicio : e.inicio ≤ s.now) :
    Fiel c (abierto perfil cufd e para) s := by
  cases para with
  | emitir cuis =>
    refine fiel_of_nada rfl rfl ⟨fun _ => rfl, fun id hid => ?_⟩
    exact ⟨e, he, Option.some.inj hid, congrArg some hperfil.symm, hinicio⟩
  | regenerar copia mensajes =>
    refine ⟨hcopia, fun e' he' => ?_, ?_⟩
    · cases he'
      exact ⟨e, he, rfl⟩
    · exact (hde copia rfl).trans (congrArg some hperfil.symm)

theorem mem_documentosPorNumero {cond : DocumentoSiat → Bool} {d : DocumentoSiat} :
    d ∈ documentosPorNumero s cond ↔ d ∈ s.documents ∧ cond d = true := by
  unfold documentosPorNumero
  rw [List.mem_insertionSort]
  exact Table.mem_rowsWhere

/-- **The next point** relies on what is so. -/
theorem fiel_pasa (hfilas : FilasSanas c s) (hp : Fiel c p s) (h : Pasa c s p s' q) : ∀ p' ∈ q, Fiel c p' s' := by
  have hc := conserva_pasa h
  have hopen : ∀ {perfil : SiatIssuerProfile} {cufd : SiatCufd} {para : ParaQue} {e : SignificantEvent},
      eventoAbierto s perfil.id = some e → (∀ d ∈ para.copia, CopiaEnviada s d) → para.De perfil →
        Fiel c (abierto perfil cufd e para) s := fun hevento hcopia hde => by
    obtain ⟨he, hperfil, -⟩ := eventoAbierto_eq_some hevento
    exact fiel_abierto hcopia hde he hperfil (hfilas.evento _ he).inicio
  intro p' hp'
  cases h with
  | fin | confirmada | reclamada | adelantada | aplicadoFinal | aplicadoError | regenerado | despachado | validado =>
    cases hp'
  | enLinea =>
    cases hp'
    exact fiel_of_nada rfl rfl ⟨fun hne => absurd rfl hne, fun _ hid => by cases hid⟩
  | @conEvento perfil cuis e cufd _ =>
    cases hp'
    obtain ⟨e', he', hidentidad⟩ := hp.evento e rfl
    obtain ⟨hperfil, hinicio⟩ := hp.sano e rfl
    simp only [SignificantEvent.identidad, Prod.mk.injEq] at hidentidad
    obtain ⟨hid, hissuer, hinicio', -⟩ := hidentidad
    refine fiel_of_nada rfl rfl ⟨fun _ => rfl, fun id hid' => ⟨e', he', hid.trans (Option.some.inj hid'), ?_, ?_⟩⟩
    · exact congrArg some (hissuer.trans hperfil).symm
    · exact hinicio'.le.trans hinicio
  | sinEvento =>
    cases hp'
    exact fiel_of_nada rfl rfl ⟨le_rfl, fun _ hcopia => by cases hcopia⟩
  | habia hevento =>
    cases hp'
    exact hopen hevento hp.copia hp.sano.2
  | noHabia =>
    cases hp'
    exact ⟨hp.copia, (fun _ he => by cases he), hp.sano⟩
  | @creado perfil cufd inicio para s' e hcreado =>
    cases hp'
    obtain ⟨rfl, rfl, -⟩ := crearEvento_eq_some hcreado
    refine fiel_abierto (fun d hd => (hp.copia d hd).mono hc) hp.sano.2
      ((Table.mem_create fun _ => rfl).mpr (.inr rfl)) rfl ?_
    show inicio - 1000 ≤ s.now
    have hinicio : inicio ≤ s.now := hp.sano.1
    exact (Int.sub_le_self inicio (by decide)).trans hinicio
  | chocado =>
    cases hp'
    exact ⟨hp.copia, (fun _ he => by cases he), hp.sano.2⟩
  | habiaOtro hevento =>
    cases hp'
    exact hopen hevento hp.copia hp.sano
  | emitida hemitida =>
    cases hp'
    exact fiel_of_nada rfl rfl (sano_emitida hemitida hp.sano)
  | enviada | noEnviada =>
    cases hp'
    exact fiel_of_copia rfl rfl trivial ((hp.copia _ rfl).mono hc)
  | contestada | porConsultar | consultada | sinConsulta =>
    cases hp'
    exact fiel_of_copia rfl rfl trivial (hp.copia _ rfl)
  | @aRegenerar copia desenlace mensajes perfil cufd hcontexto =>
    cases hp'
    have hcopia := hp.copia copia rfl
    obtain ⟨d, hd, hidentidad⟩ := hcopia.fila
    simp only [DocumentoSiat.identidad, Prod.mk.injEq] at hidentidad
    have hpasada : copia.emittedAt ≤ s.now := hidentidad.2.2.2.2 ▸ (hfilas.documento d hd).pasada
    refine fiel_of_copia rfl rfl ⟨hpasada, fun d hd => ?_⟩ hcopia
    cases hd
    exact (contexto_eq_some hcontexto).1
  | cerrado | cufdPedido | registrado | paqueteEnviado | paqueteRegistrado =>
    cases hp'
    refine fiel_of_evento rfl rfl trivial ?_
    obtain ⟨e', he', hidentidad⟩ := hp.evento _ rfl
    obtain ⟨e'', he'', hidentidad', -⟩ := hc.evento e' he'
    exact ⟨e'', he'', hidentidad'.trans hidentidad⟩
  | seleccionado | paqueteRecibido | contado =>
    cases hp'
    exact fiel_of_evento rfl rfl trivial (hp.evento _ rfl)
  | porValidar =>
    cases hp'
    exact fiel_of_nada rfl rfl trivial

/-- The rows of documents stay as they should be. -/
theorem filaSana_escritura {fila fila' : DocumentoSiat} (hfilas : FilasSanas c s) (hp : Fiel c p s)
    (hmem : fila ∈ s.documents) (h : Escritura s p fila fila') : FilaSana c s fila'.toFiscalDocument := by
  have hfila := hfilas.documento fila hmem
  have hmismo : ∀ fila' : DocumentoSiat, fila'.identidad = fila.identidad → fila'.eventId = fila.eventId →
      fila'.codigoEmision = fila.codigoEmision → (fila'.siatStatus = .sent → fila.siatStatus = .sent) →
        FilaSana c s fila'.toFiscalDocument := by
    intro fila' hidentidad hevento hemision hstatus
    simp only [DocumentoSiat.identidad, Prod.mk.injEq] at hidentidad
    obtain ⟨-, hissuer, -, hfecha, hemitida⟩ := hidentidad
    refine ⟨fun id hid => ?_, fun hsent => ?_, ?_, ?_⟩
    · rw [hemision, hissuer]
      exact hfila.enEvento id (hevento ▸ hid)
    · rw [hemision]
      exact hfila.enviada (hstatus hsent)
    · rw [hemitida]
      exact hfila.pasada
    · rw [hissuer, hfecha, hemitida]
      exact hfila.fecha
  have hcambio : ∀ {cargado nuevo actual : SiatStatus}, nuevo ≠ .sent → cambio cargado nuevo actual = .sent →
      actual = .sent := fun {cargado nuevo actual} hne hsent => by
    rcases cambio_eq_or cargado nuevo actual with heq | heq
    · exact absurd (heq.symm.trans hsent) hne
    · exact heq.symm.trans hsent
  have hfinal : ∀ estado : EstadoFinal, estado.siatStatus ≠ .sent := fun estado => by cases estado <;> decide
  cases h with
  | igual => exact hfila
  | reclamado hreclamable =>
    have henLinea := (of_decide_eq_true hreclamable).2.1
    exact ⟨hfila.enEvento, fun _ => henLinea, hfila.pasada, hfila.fecha⟩
  | adelantado =>
    refine hmismo _ (identidad_adelantado _ _) ?_ ?_ ?_ <;> unfold DocumentoSiat.adelantado <;> split <;>
      first | rfl | exact id
  | final => exact hmismo _ (identidad_aplicarFinal _ _ _ _ _) rfl rfl (hcambio (hfinal _))
  | error => exact hmismo _ (identidad_aplicarError _ _ _ _ _) rfl rfl (hcambio (by decide))
  | @regenerado copia perfil mensajes e cufdEvento cuf fila hpropia _ _ =>
    have hcopia := hp.copia copia rfl
    obtain ⟨e', he', hidentidad⟩ := hp.evento e rfl
    simp only [SignificantEvent.identidad, Prod.mk.injEq] at hidentidad
    obtain ⟨d, hd, hidentidad'⟩ := hcopia.fila
    simp only [DocumentoSiat.identidad, Prod.mk.injEq] at hidentidad'
    obtain rfl : fila = d := (Table.eq_of_key_eq hd hmem (hidentidad'.1.trans hpropia.symm)).symm
    have hissuer : copia.issuerProfileId = some e.issuerProfileId := hp.sano
    -- the copy had no event and was issued with a connection, so both columns are written
    have hemision : cambio copia.codigoEmision .fueraDeLinea fila.codigoEmision = .fueraDeLinea :=
      cambio_of_ne (by rw [hcopia.enLinea]; decide) _
    have hstatus : cambio copia.siatStatus .offline fila.siatStatus = .offline :=
      cambio_of_ne (by rw [hcopia.enviada]; decide) _
    have hevento : cambio copia.eventId (some e.id) fila.eventId = some e.id :=
      cambio_of_ne (by rw [hcopia.sinEvento]; exact Option.some_ne_none _) _
    refine ⟨fun id hid => ⟨hemision, e', he', ?_, ?_⟩, fun hsent => ?_, hfila.pasada, hfila.fecha⟩
    · exact hidentidad.1.trans (Option.some.inj (hevento.symm.trans hid))
    · exact hidentidad'.2.1.trans (hissuer.trans (congrArg some hidentidad.2.1.symm))
    · have hsent' : SiatStatus.offline = .sent := hstatus.symm.trans hsent
      cases hsent'
  | empaquetado => exact hmismo _ rfl rfl rfl fun hsent => by cases hsent
  | veredictos =>
    obtain ⟨fila', heq, hevento, hemision, -, -, -, -, -, hstatus⟩ := aplicarVeredictos_columnas fila _ _ _ _
    refine hmismo _ (identidad_aplicarVeredictos _ _ _ _ _) (heq ▸ hevento) (heq ▸ hemision) fun hsent => ?_
    rcases heq ▸ hstatus with h | ⟨estado, h⟩
    · exact h.symm.trans hsent
    · exact absurd (h.symm.trans hsent) (hfinal estado)

end Actions

/-! ## Every reachable state -/

section Reachable

variable {c : SiatConfig} {ok : Sessions EstadoFiscal PuntoSiat → WorkerAct TareaSiat EntradaSiat SucesoSin → Prop}

theorem fiel_empieza {s : EstadoFiscal} (hfilas : FilasSanas c s) {p : PuntoSiat} (h : Empieza s p) : Fiel c p s := by
  have henviada : ∀ {d : DocumentoSiat}, d ∈ s.documents → d.siatStatus = .sent → CopiaEnviada s d := by
    intro d hd hsent
    have henLinea := (hfilas.documento d hd).enviada hsent
    refine ⟨hsent, henLinea, Option.eq_none_iff_forall_ne_some.mpr fun id hid => ?_, d, hd, rfl⟩
    have hfuera := ((hfilas.documento d hd).enEvento id hid).1
    rw [henLinea] at hfuera
    cases hfuera
  cases h with
  | preparar =>
    refine ⟨(fun _ hd => by cases hd), fun e he => ?_, fun e he => ?_⟩
    · exact ⟨e, (eventoAbierto_eq_some he).1, rfl⟩
    · exact ⟨(eventoAbierto_eq_some he).2.1, (hfilas.evento e (eventoAbierto_eq_some he).1).inicio⟩
  | enviar hd hsent | rescatar hd hsent => exact fiel_of_copia rfl rfl trivial (henviada hd hsent)
  | @despachar e he => exact fiel_of_evento rfl rfl trivial ⟨e, he, rfl⟩
  | reclamar | adelantar | validar => exact fiel_of_nada rfl rfl trivial

theorem filasSanas_pasa {s s' : EstadoFiscal} {p : PuntoSiat} {q : Option PuntoSiat} (hfilas : FilasSanas c s)
    (hp : Fiel c p s) (h : Pasa c s p s' q) : FilasSanas c s' := by
  have hc := conserva_pasa h
  refine ⟨fun d' hd' => ?_, fun e' he' => ?_⟩
  · rcases documentos_pasa h d' hd' with ⟨d, hd, hescritura⟩ | ⟨fila, rfl, rfl⟩
    · exact (filaSana_escritura hfilas hp hd hescritura).mono hc
    · obtain ⟨hfila, -, -⟩ := hp.sano
      have hfila' := hfila.mono hc
      exact ⟨hfila'.enEvento, hfila'.enviada, hfila'.pasada, hfila'.fecha⟩
  · rcases eventos_pasa h e' he' with ⟨e, he, hescritura⟩ | ⟨perfil, cufd, inicio, para, rfl, -, rfl⟩
    · have hevento := hfilas.evento e he
      have hidentidad := hescritura.identidad
      simp only [SignificantEvent.identidad, Prod.mk.injEq] at hidentidad
      refine ⟨hidentidad.2.2.1.le.trans (hevento.inicio.trans hc.now), ?_⟩
      cases hescritura with
      | igual => exact hevento.abierto
      | cerrado | registrado | despachado => exact fun hopen => by cases hopen
    · refine ⟨?_, fun _ => rfl⟩
      have hinicio : inicio ≤ s.now := hp.sano.1
      exact ((Int.sub_le_self inicio (by decide)).trans hinicio).trans hc.now

theorem filasSanas_suceder {s s' : EstadoFiscal} {suceso : SucesoSin} (hfilas : FilasSanas c s)
    (h : suceder s suceso = some s') : FilasSanas c s' := by
  have hc := conserva_suceder h
  obtain ⟨-, hdocuments, hevents, -⟩ := suceder_tablas h
  refine ⟨fun d hd => (hfilas.documento d (hdocuments ▸ hd)).mono hc, fun e he => ?_⟩
  have hevento := hfilas.evento e (hevents ▸ he)
  exact ⟨hevento.inicio.trans hc.now, hevento.abierto⟩

/-- **Copies are faithful** in every reachable state. -/
theorem copias_fieles {S : Sessions EstadoFiscal PuntoSiat} (h : (siatMachine c).Reachable ok S) :
    Workers.Keeps (FilasSanas c) (Fiel c) S := by
  refine Workers.keeps (G := fun _ => True) ?_ (fun s hinit => ?_) (fun _ _ => trivial) h
  · exact {
      start := fun _ hS hstart => fiel_empieza hS.store (empieza_of_empezar hstart)
      next := fun _ hS hfind _ hnext =>
        have hpasa := pasa_of_next hnext
        ⟨filasSanas_pasa hS.store (hS.at hfind) hpasa, fiel_pasa hS.store (hS.at hfind) hpasa⟩
      stable := fun _ hS _ _ hnext x hx =>
        (hS.worker x (Sessions.mem_others.mp hx).1).mono (conserva_pasa (pasa_of_next hnext))
      outside := fun _ hS _ hsuceso =>
        ⟨filasSanas_suceder hS.store hsuceso, fun x hx => (hS.worker x hx).mono (conserva_suceder hsuceso)⟩ }
  · obtain ⟨hdocuments, -, hevents, -⟩ := hinit
    refine ⟨fun d hd => ?_, fun e he => ?_⟩
    · rw [hdocuments] at hd
      exact absurd hd (Table.not_mem_empty d)
    · rw [hevents] at he
      exact absurd he (Table.not_mem_empty e)

end Reachable

end AtlasErp
