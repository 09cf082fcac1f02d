import AtlasErp.Fiscal.Copies

/-! # Invoices issued under an event

An event is closed, registered and, when no document of it waits, dispatched.  Meanwhile an emission that was
prepared under it, or a regeneration that joined it, may not have written yet.

- `SinVarar`: no document waits under a dispatched event, and each is dated within its event;
- `sinVarar_of_reachable`: so it is as long as nothing is written under an event that closed before, began
  after, or was counted empty;
- `sinVarar_counterexample`: an emission that commits under an event that was dispatched meanwhile. -/

namespace AtlasErp

open Lib

section OfflineEvents

variable {c : SiatConfig}

/-- A document waits under an event. -/
def EsperaEn (d : DocumentoSiat) (e : SignificantEvent) : Prop := d.siatStatus = .offline ∧ d.eventId = some e.id

instance (d : DocumentoSiat) (e : SignificantEvent) : Decidable (EsperaEn d e) :=
  inferInstanceAs (Decidable (_ ∧ _))

/-- **No invoice is stranded**: the event of a document that waits is not dispatched, and its date is within the
event once that has ended. -/
def SinVarar (c : SiatConfig) (s : EstadoFiscal) : Prop :=
  ∀ d ∈ s.documents, ∀ e ∈ s.events, EsperaEn d e → e.status ≠ .dispatched ∧
    ∀ fin, e.fin = some fin →
      ∃ t, d.fechaEmision = c.fechaHoraLocal e.issuerProfileId t ∧ e.inicio ≤ t ∧ t ≤ fin

/-! ## The condition -/

/-- A processor counted no document of the event, and is about to dispatch it. -/
def PuntoSiat.vacia (eventId : Nat) : PuntoSiat → Bool
  | .sinPendientes e => e.id = eventId
  | _ => false

/-- The event is not dispatched, and no processor is about to. -/
def Vigente (S : Sessions EstadoFiscal PuntoSiat) (e : SignificantEvent) : Prop :=
  e.status ≠ .dispatched ∧ ∀ x ∈ S.active, x.2.vacia e.id = false

instance (S : Sessions EstadoFiscal PuntoSiat) (e : SignificantEvent) : Decidable (Vigente S e) :=
  inferInstanceAs (Decidable (_ ∧ _))

/-- When a worker writes a document under an event: an emission is not dated after the end of the event, a
regeneration is not dated before its beginning, and the event still waits for documents. -/
def EscribeATiempoEn (S : Sessions EstadoFiscal PuntoSiat) : PuntoSiat → Prop
  | .insertada fila => ∀ e ∈ S.committed.events, fila.eventId = some e.id →
      (∀ fin ∈ e.fin, fila.emittedAt ≤ fin) ∧ Vigente S e
  | .regenerando copia _ _ evento => ∀ e ∈ S.committed.events, e.id = evento.id →
      e.inicio ≤ copia.emittedAt ∧ Vigente S e
  | _ => True

instance (S : Sessions EstadoFiscal PuntoSiat) : DecidablePred (EscribeATiempoEn S)
  | .insertada _ => inferInstanceAs (Decidable (∀ e ∈ S.committed.events, _ → _))
  | .regenerando _ _ _ _ => inferInstanceAs (Decidable (∀ e ∈ S.committed.events, _ → _))
  | .preparando .. | .abriendo .. | .creando .. | .reintentando .. | .preparada .. | .reclamando .. | .adelantando ..
  | .porEnviar .. | .esperando .. | .consultando .. | .porAplicar .. | .despachando .. | .registrando ..
  | .empaquetando .. | .esperandoPaquete .. | .recibido .. | .sinPendientes .. | .validando ..
  | .validandoDocumentos .. => .isTrue trivial

def EscribeATiempo (S : Sessions EstadoFiscal PuntoSiat) : WorkerAct TareaSiat EntradaSiat SucesoSin → Prop
  | .go w _ => ∀ p ∈ S.find? w, EscribeATiempoEn S p
  | _ => True

instance (S : Sessions EstadoFiscal PuntoSiat) : DecidablePred (EscribeATiempo S)
  | .go w _ => inferInstanceAs (Decidable (∀ p ∈ S.find? w, EscribeATiempoEn S p))
  | .start .. | .die _ | .outside _ => .isTrue trivial

/-! ## The invariant -/

/-- What holds of a document that waits under an event. -/
def DentroDeSuEvento (s : EstadoFiscal) : Prop :=
  ∀ d ∈ s.documents, ∀ e ∈ s.events, EsperaEn d e →
    e.inicio ≤ d.emittedAt ∧ (∀ fin ∈ e.fin, d.emittedAt ≤ fin) ∧ e.status ≠ .dispatched

/-- What a worker relies on: nothing waits under an event that it is about to dispatch, and an event that it
writes a document under ended after the date of the document. -/
def ConfiaEnEvento (p : PuntoSiat) (s : EstadoFiscal) : Prop :=
  match p with
  | .sinPendientes e => ∀ d ∈ s.documents, ¬EsperaEn d e
  | .regenerando copia _ _ evento => ∀ e ∈ s.events, e.id = evento.id → ∀ fin ∈ e.fin, copia.emittedAt ≤ fin
  | _ => True

variable {s s' : EstadoFiscal} {p : PuntoSiat} {q : Option PuntoSiat} {d d' : DocumentoSiat}

/-- What waits was waiting under the same event, or is regenerated under it. -/
theorem espera_origen (hp : Fiel c p s) (h : Escritura s p d d') (hoffline : d'.siatStatus = .offline) :
    (d.siatStatus = .offline ∧ d'.eventId = d.eventId) ∨
      ∃ copia perfil mensajes e, p = .regenerando copia perfil mensajes e ∧ d.id = copia.id ∧
        d'.eventId = some e.id := by
  have hcambio : ∀ {cargado nuevo actual : SiatStatus}, nuevo ≠ .offline → cambio cargado nuevo actual = .offline →
      actual = .offline := fun {cargado nuevo actual} hne hoff => by
    rcases cambio_eq_or cargado nuevo actual with heq | heq
    · exact absurd (heq.symm.trans hoff) hne
    · exact heq.symm.trans hoff
  have hfinal : ∀ estado : EstadoFinal, estado.siatStatus ≠ .offline := fun estado => by cases estado <;> decide
  cases h with
  | igual => exact .inl ⟨hoffline, rfl⟩
  | reclamado => cases hoffline
  | adelantado =>
    refine .inl ?_
    unfold DocumentoSiat.adelantado at hoffline ⊢
    split at hoffline
    · rename_i herror
      exact absurd (herror.symm.trans hoffline) (by decide)
    · exact ⟨hoffline, by split <;> rfl⟩
  | final => exact .inl ⟨hcambio (hfinal _) hoffline, rfl⟩
  | error => exact .inl ⟨hcambio (by decide) hoffline, rfl⟩
  | @regenerado copia perfil mensajes e cufdEvento cuf fila hpropia _ _ =>
    have hsinEvento := (hp.copia copia rfl).sinEvento
    refine .inr ⟨copia, perfil, mensajes, e, rfl, hpropia, cambio_of_ne ?_ _⟩
    rw [hsinEvento]
    exact Option.some_ne_none _
  | empaquetado => cases hoffline
  | veredictos =>
    obtain ⟨fila', heq, hevento, -, -, -, -, -, -, hstatus⟩ := aplicarVeredictos_columnas d _ _ _ _
    rw [heq] at hoffline ⊢
    refine .inl ⟨?_, hevento⟩
    rcases hstatus with hsame | ⟨estado, hfinal'⟩
    · exact hsame.symm.trans hoffline
    · exact absurd (hfinal'.symm.trans hoffline) (hfinal estado)

/-- A point that writes an event writes no document. -/
theorem escritura_eq_of_evento {e e' : SignificantEvent} (he : EscrituraEvento s p e e') (hne : e' ≠ e)
    (h : Escritura s p d d') : d' = d := by
  cases he with
  | igual => exact absurd rfl hne
  | cerrado | registrado | despachado =>
    cases h
    rfl

/-- What is written keeps the date of a document. -/
theorem emittedAt_escritura (h : Escritura s p d d') : d'.emittedAt = d.emittedAt := by
  have hidentidad := h.identidad
  simp only [DocumentoSiat.identidad, Prod.mk.injEq] at hidentidad
  exact hidentidad.2.2.2.2

/-- **A worker** that writes in time keeps what waits within its event. -/
theorem dentro_pasa {S : Sessions EstadoFiscal PuntoSiat} (hfilas : FilasSanas c S.committed) (hp : Fiel c p S.committed)
    (hdentro : DentroDeSuEvento S.committed) (hconfia : ConfiaEnEvento p S.committed) (hok : EscribeATiempoEn S p)
    (h : Pasa c S.committed p s' q) : DentroDeSuEvento s' := by
  intro d' hd' e' he' hespera
  rcases eventos_pasa h e' he' with ⟨e, he, hevento⟩ | ⟨perfil, cufd, inicio, para, rfl, -, rfl⟩
  · by_cases hsame : e' = e
    · subst hsame
      rcases documentos_pasa h d' hd' with ⟨d, hd, hescritura⟩ | ⟨fila, rfl, rfl⟩
      · rw [emittedAt_escritura hescritura]
        rcases espera_origen hp hescritura hespera.1 with ⟨hoffline, heq⟩ | ⟨copia, perfil, mensajes, e₀, rfl, hid, heq⟩
        · exact hdentro d hd e' he ⟨hoffline, heq ▸ hespera.2⟩
        · -- regenerated under an event that began before its date and still waits
          have hid' : e'.id = e₀.id := Option.some.inj (hespera.2.symm.trans heq)
          obtain ⟨hinicio, hvigente⟩ := hok e' he hid'
          obtain ⟨fila, hfila, hidentidad⟩ := (hp.copia copia rfl).fila
          simp only [DocumentoSiat.identidad, Prod.mk.injEq] at hidentidad
          obtain rfl : d = fila := Table.eq_of_key_eq hd hfila (hid.trans hidentidad.1.symm)
          rw [hidentidad.2.2.2.2]
          exact ⟨hinicio, hconfia e' he hid', hvigente.1⟩
      · -- an emission commits under its event
        obtain ⟨hfin, hvigente⟩ := hok e' he hespera.2
        obtain ⟨e, he'', hide, -, hinicio⟩ := hp.sano.2.2 e'.id hespera.2
        obtain rfl : e = e' := Table.eq_of_key_eq he'' he hide
        exact ⟨hinicio, hfin, hvigente.1⟩
    · rcases documentos_pasa h d' hd' with ⟨d, hd, hescritura⟩ | ⟨fila, rfl, rfl⟩
      · obtain rfl := escritura_eq_of_evento hevento hsame hescritura
        have hantes : EsperaEn d' e := ⟨hespera.1, hespera.2.trans (congrArg some (congrArg Prod.fst hevento.identidad))⟩
        obtain ⟨hinicio, hfin, hstatus⟩ := hdentro d' hd e he hantes
        cases hevento with
        | igual => exact absurd rfl hsame
        | cerrado =>
          refine ⟨hinicio, fun fin hfin' => ?_, fun hstatus' => by cases hstatus'⟩
          obtain rfl : S.committed.now = fin := Option.some.inj hfin'
          exact (hfilas.documento d' hd).pasada
        | registrado => exact ⟨hinicio, hfin, fun hstatus' => by cases hstatus'⟩
        | despachado hpropia => exact absurd ⟨hantes.1, hantes.2.trans (congrArg some hpropia)⟩ (hconfia d' hd)
      · cases hevento
        exact absurd rfl hsame
  · -- no document is under an event that was not there
    rcases documentos_pasa h d' hd' with ⟨d, hd, hescritura⟩ | ⟨fila, hpunto, -⟩
    · cases hescritura
      obtain ⟨-, e, he, hide, -⟩ := (hfilas.documento d' hd).enEvento _ hespera.2
      exact absurd hide (Nat.ne_of_lt (Table.key_lt_nextKey he))
    · cases hpunto

/-- An event that is open now ends later. -/
theorem confia_abierto {perfil : SiatIssuerProfile} {cufd : SiatCufd} {para : ParaQue} {e : SignificantEvent}
    (he : e ∈ s.events) (hfin : e.fin = none) : ConfiaEnEvento (abierto perfil cufd e para) s := by
  cases para with
  | emitir cuis => trivial
  | regenerar copia mensajes =>
    intro e' he' hid fin hfin'
    obtain rfl : e' = e := Table.eq_of_key_eq he' he hid
    rw [hfin] at hfin'
    cases hfin'

theorem confia_pasa (hfilas : FilasSanas c s) (h : Pasa c s p s' q) : ∀ p' ∈ q, ConfiaEnEvento p' s' := by
  intro p' hp'
  have hopen : ∀ {perfil : SiatIssuerProfile} {cufd : SiatCufd} {para : ParaQue} {e : SignificantEvent},
      eventoAbierto s perfil.id = some e → ConfiaEnEvento (abierto perfil cufd e para) s := fun hevento => by
    obtain ⟨he, -, hstatus⟩ := eventoAbierto_eq_some hevento
    exact confia_abierto he ((hfilas.evento _ he).abierto hstatus)
  cases h with
  | fin | confirmada | reclamada | adelantada | aplicadoFinal | aplicadoError | regenerado | despachado | validado =>
    cases hp'
  | habia hevento | habiaOtro hevento =>
    cases hp'
    exact hopen hevento
  | creado hcreado =>
    cases hp'
    obtain ⟨rfl, rfl, -⟩ := crearEvento_eq_some hcreado
    exact confia_abierto ((Table.mem_create fun _ => rfl).mpr (.inr rfl)) rfl
  | @contado e hninguno =>
    cases hp'
    intro d hd hespera
    have hmem : d ∈ s.documents.rowsWhere (fueraDeLinea e.id) :=
      Table.mem_rowsWhere.mpr ⟨hd, decide_eq_true ⟨hespera.2, hespera.1⟩⟩
    rw [hninguno] at hmem
    cases hmem
  | _ =>
    cases hp'
    trivial

/-- **The other workers** may rely on what they relied on. -/
theorem confia_estable {S : Sessions EstadoFiscal PuntoSiat} {x : Nat × PuntoSiat} (hx : x ∈ S.active)
    (hfilas : FilasSanas c S.committed) (hfiel : Fiel c x.2 S.committed) (hp : Fiel c p S.committed)
    (hok : EscribeATiempoEn S p) (h : Pasa c S.committed p s' q) (hconfia : ConfiaEnEvento x.2 S.committed) :
    ConfiaEnEvento x.2 s' := by
  obtain ⟨w, x⟩ := x
  cases x with
  | sinPendientes e =>
    intro d' hd' hespera
    obtain ⟨e₁, he₁, hidentidad⟩ := hfiel.evento e rfl
    have hid₁ : e₁.id = e.id := congrArg Prod.fst hidentidad
    have hvacia : (PuntoSiat.sinPendientes e).vacia e₁.id = true := decide_eq_true hid₁.symm
    rcases documentos_pasa h d' hd' with ⟨d, hd, hescritura⟩ | ⟨fila, rfl, rfl⟩
    · rcases espera_origen hp hescritura hespera.1 with ⟨hoffline, heq⟩ | ⟨copia, perfil, mensajes, e₀, rfl, -, heq⟩
      · exact hconfia d hd ⟨hoffline, heq ▸ hespera.2⟩
      · have hid : e₁.id = e₀.id := hid₁.trans (Option.some.inj (hespera.2.symm.trans heq))
        have hno := (hok e₁ he₁ hid).2.2 _ hx
        rw [hvacia] at hno
        cases hno
    · have hno := (hok e₁ he₁ (hespera.2.trans (congrArg some hid₁.symm))).2.2 _ hx
      rw [hvacia] at hno
      cases hno
  | regenerando copia perfil mensajes evento =>
    intro e' he' hid fin hfin
    have hpasada : copia.emittedAt ≤ S.committed.now := by
      obtain ⟨d, hd, hidentidad⟩ := (hfiel.copia copia rfl).fila
      simp only [DocumentoSiat.identidad, Prod.mk.injEq] at hidentidad
      exact hidentidad.2.2.2.2 ▸ (hfilas.documento d hd).pasada
    rcases eventos_pasa h e' he' with ⟨e, he, hevento⟩ | ⟨_, _, _, _, -, -, rfl⟩
    · have hide : e.id = evento.id := (congrArg Prod.fst hevento.identidad).symm.trans hid
      cases hevento with
      | cerrado =>
        obtain rfl : S.committed.now = fin := Option.some.inj hfin
        exact hpasada
      | igual => exact hconfia e' he hide fin hfin
      | registrado | despachado => exact hconfia _ he hide fin hfin
    · cases hfin
  | _ => trivial

/-- **No stranded invoice**, in every run of emissions and processors, as long as no document is written under an
event that ended before its date, began after it, was dispatched or was counted empty. -/
theorem sinVarar_of_reachable {S : Sessions EstadoFiscal PuntoSiat} (h : (siatMachine c).Reachable EscribeATiempo S) :
    SinVarar c S.committed := by
  have hfieles := @copias_fieles c EscribeATiempo
  have hkeeps : Workers.Keeps DentroDeSuEvento ConfiaEnEvento S := by
    refine Workers.keeps (G := Workers.Keeps (FilasSanas c) (Fiel c)) ?_ (fun s hinit d hd => ?_)
      (fun _ hS => hfieles hS) h
    · exact {
        start := fun _ _ hstart => by
          cases empieza_of_empezar hstart <;> trivial
        next := fun hG hS hfind hok hnext =>
          have hpasa := pasa_of_next hnext
          ⟨dentro_pasa hG.store (hG.at hfind) hS.store (hS.at hfind) (hok _ hfind) hpasa, confia_pasa hG.store hpasa⟩
        stable := fun {S w answer p store q} hG hS hfind hok hnext x hx =>
          have hmem := (Sessions.mem_others.mp hx).1
          confia_estable hmem hG.store (hG.worker x hmem) (hG.at hfind) (hok _ hfind) (pasa_of_next hnext)
            (hS.worker x hmem)
        outside := fun {S event store} _ hS _ hsuceso => by
          obtain ⟨-, hdocuments, hevents, -⟩ := suceder_tablas hsuceso
          refine ⟨fun d hd e he => hS.store d (hdocuments ▸ hd) e (hevents ▸ he), fun x hx => ?_⟩
          have hconfia := hS.worker x hx
          obtain ⟨w, x⟩ := x
          cases x with
          | sinPendientes e => exact fun d hd => hconfia d (hdocuments ▸ hd)
          | regenerando copia perfil mensajes evento => exact fun e he => hconfia e (hevents ▸ he)
          | _ => trivial }
    · rw [hinit.1] at hd
      exact absurd hd (Table.not_mem_empty d)
  intro d hd e he hespera
  obtain ⟨hinicio, hfin, hstatus⟩ := hkeeps.store d hd e he hespera
  obtain ⟨-, e', he', hid, hissuer⟩ := ((hfieles h).store.documento d hd).enEvento e.id hespera.2
  obtain rfl : e' = e := Table.eq_of_key_eq he' he hid
  obtain ⟨i, hi, hfecha⟩ := ((hfieles h).store.documento d hd).fecha
  obtain rfl : e'.issuerProfileId = i := Option.some.inj (hissuer.symm.trans hi)
  exact ⟨hstatus, fun fin hfin' => ⟨d.emittedAt, hfecha, hinicio, hfin fin hfin'⟩⟩

end OfflineEvents

/-! ## Two runs -/

section Runs

/-- The authority stops answering: an emission is prepared under an event that it opens. -/
def abreContingencia : List (WorkerAct TareaSiat EntradaSiat SucesoSin) :=
  [.start 0 (.preparar 1), .go 0 (.enLinea "C1".toList (some exampleCufd) (some true)), .die 0,
    .start 1 (.preparar 1), .go 1 (.fueraDeLinea "C1".toList), .go 1 .sigue, .go 1 .sigue]

/-- The invoice of that emission is issued. -/
def emiteFactura : List (WorkerAct TareaSiat EntradaSiat SucesoSin) :=
  [.go 1 (.documento (exampleEmision 5).documento), .go 1 .sigue]

/-- It answers again: the event is closed, registered and found without documents. -/
def despachaEvento : List (WorkerAct TareaSiat EntradaSiat SucesoSin) :=
  [.start 2 (.despachar 1), .go 2 .sigue, .go 2 (.cufd (some exampleCufd)),
    .go 2 (.llamada (.ok { respuestaVacia with codigoRecepcionEventoSignificativo := some "77".toList })),
    .go 2 .sigue, .go 2 .sigue, .go 2 .sigue, .outside (.tick 1000)]

/-- The event is dispatched between `preparar` and the commit of the invoice. -/
def facturaVarada : Sessions EstadoFiscal PuntoSiat :=
  (siatMachine exampleSiat).after ⟨exampleFiscal, []⟩ (abreContingencia ++ despachaEvento ++ emiteFactura)

/-- The invoice is issued, and then the event is closed. -/
def facturaATiempo : Sessions EstadoFiscal PuntoSiat :=
  (siatMachine exampleSiat).afterIf EscribeATiempo ⟨exampleFiscal, []⟩ (abreContingencia ++ emiteFactura ++
    [.start 2 (.despachar 1), .go 2 .sigue])

/-- What the two runs leave. -/
theorem facturas_enEspera :
    (∃ d ∈ facturaVarada.committed.documents, ∃ e ∈ facturaVarada.committed.events,
      EsperaEn d e ∧ e.status = .dispatched) ∧
      ∃ d ∈ facturaATiempo.committed.documents, ∃ e ∈ facturaATiempo.committed.events, EsperaEn d e ∧ e.fin.isSome := by
  decide +kernel

theorem sinVarar_counterexample :
    (siatMachine exampleSiat).Reachable (fun _ _ => True) facturaVarada ∧ ¬SinVarar exampleSiat facturaVarada.committed := by
  refine ⟨(siatMachine exampleSiat).reachable_after exampleFiscal_sinHistoria _, fun h => ?_⟩
  obtain ⟨d, hd, e, he, hespera, hstatus⟩ := facturas_enEspera.1
  exact (h d hd e he hespera).1 hstatus

theorem sinVarar_of_reachable_atiempo :
    (∃ d ∈ facturaATiempo.committed.documents, ∃ e ∈ facturaATiempo.committed.events, EsperaEn d e ∧ e.fin.isSome) ∧
      SinVarar exampleSiat facturaATiempo.committed :=
  ⟨facturas_enEspera.2,
    sinVarar_of_reachable ((siatMachine exampleSiat).reachable_afterIf EscribeATiempo exampleFiscal_sinHistoria _)⟩

end Runs

end AtlasErp
