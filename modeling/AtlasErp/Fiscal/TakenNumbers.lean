import AtlasErp.Fiscal.EventCodes
import AtlasErp.Fiscal.Packages

/-! # The numbers that the authority took

What is sent may be taken although its answer is lost.  A document that is issued again keeps its number and gets
another code, so the authority may come to take one number under two codes.

- `Tomado`: the authority took a document, on its own or in a package;
- `Sigue`: a copy that was sent, or is about to be, has the code and the XML of its row;
- `ReemiteRechazadas`: a document is issued again only when all that was sent of it was refused, and nothing of it is
  about to be sent;
- `numeros_tomados`: so each number was taken under one code at most, that of its row;
- `dosCufs`: an invoice is taken, its answers are lost, and it is taken again under another code. -/

namespace AtlasErp

open Lib

section TakenNumbers

variable {c : SiatConfig} {s s' : EstadoFiscal} {p : PuntoSiat} {q : Option PuntoSiat} {d d' copia : DocumentoSiat}

/-- The authority took a document as it was sent. -/
inductive Tomado (s : EstadoFiscal) : DocumentoSiat → Prop where
  | sola {f} (enviada : f ∈ s.facturas) (recibida : f.estado.esRecibido = true) : Tomado s f.documento
  | enPaquete {envio d} (enviado : envio ∈ s.paquetes) (recibido : envio.estado.esRecibido = true)
      (enLote : d ∈ envio.lote) : Tomado s d

/-! ## The condition -/

/-- The copies that a worker is about to send. -/
def PuntoSiat.porMandar : PuntoSiat → List DocumentoSiat
  | .porEnviar copia => [copia]
  | .empaquetando _ ls | .esperandoPaquete _ _ _ ls | .recibido _ _ _ _ ls => ls.flatten
  | _ => []

/-- When a document is issued again, all that was sent of it was refused, and nothing of it is about to be sent. -/
def ReemiteRechazadasEn (S : Sessions EstadoFiscal PuntoSiat) : PuntoSiat → Prop
  | .regenerando copia _ _ _ =>
    (∀ f ∈ S.committed.facturas, f.documento.id = copia.id → f.estado = .rechazado) ∧
      (∀ envio ∈ S.committed.paquetes, copia.id ∈ envio.lote.map HasKey.key → envio.estado = .rechazado) ∧
      ∀ x ∈ S.active, copia.id ∉ x.2.porMandar.map HasKey.key
  | _ => True

instance (S : Sessions EstadoFiscal PuntoSiat) : DecidablePred (ReemiteRechazadasEn S)
  | .regenerando _ _ _ _ => inferInstanceAs (Decidable (_ ∧ _ ∧ _))
  | .preparando .. | .abriendo .. | .creando .. | .reintentando .. | .preparada .. | .insertada .. | .reclamando ..
  | .adelantando .. | .porEnviar .. | .esperando .. | .consultando .. | .porAplicar .. | .despachando ..
  | .registrando .. | .empaquetando .. | .esperandoPaquete .. | .recibido .. | .sinPendientes .. | .validando ..
  | .validandoDocumentos .. => .isTrue trivial

def ReemiteRechazadas (S : Sessions EstadoFiscal PuntoSiat) : WorkerAct TareaSiat EntradaSiat SucesoSin → Prop
  | .go w _ => ∀ p ∈ S.find? w, ReemiteRechazadasEn S p
  | _ => True

instance (S : Sessions EstadoFiscal PuntoSiat) : DecidablePred (ReemiteRechazadas S)
  | .go w _ => inferInstanceAs (Decidable (∀ p ∈ S.find? w, ReemiteRechazadasEn S p))
  | .start .. | .die _ | .outside _ => .isTrue trivial

/-! ## Copies and rows -/

/-- The row of a copy has its code and its XML. -/
def Sigue (s : EstadoFiscal) (copia : DocumentoSiat) : Prop :=
  ∃ d ∈ s.documents, d.identidad = copia.identidad ∧ d.cuf = copia.cuf ∧ d.xml = copia.xml

/-- A copy follows its row through a step that does not issue it again. -/
theorem Sigue.pasa (h : Sigue s copia) (hpasa : Pasa c s p s' q) (hno : ¬p.regenera copia.id) : Sigue s' copia := by
  obtain ⟨d, hd, hidentidad, hcuf, hxml⟩ := h
  obtain ⟨d', hd', hescritura⟩ := documento_escrito hpasa hd
  refine ⟨d', hd', hescritura.identidad.trans hidentidad, ?_⟩
  rcases codigos_escritura hescritura with ⟨hcuf', -, -, hxml', -⟩ | ⟨otra, perfil, mensajes, e, -, -, hp, hid, -⟩
  · exact ⟨hcuf'.trans hcuf, hxml'.trans hxml⟩
  · have hid' : copia.id = otra.id := (congrArg Prod.fst hidentidad).symm.trans hid
    exact absurd ⟨otra, perfil, mensajes, e, hp, hid'⟩ hno

/-- What was sent and not refused has the code and the XML of its row. -/
structure EnviosVigentes (s : EstadoFiscal) : Prop where
  factura : ∀ f ∈ s.facturas, f.estado ≠ .rechazado → Sigue s f.documento
  paquete : ∀ envio ∈ s.paquetes, envio.estado ≠ .rechazado → ∀ d ∈ envio.lote, Sigue s d

/-- So has what a worker is about to send. -/
def MandaVigentes (p : PuntoSiat) (s : EstadoFiscal) : Prop := ∀ d ∈ p.porMandar, Sigue s d

/-- What was sent on its own: as before, with one more, or with one that did not go out. -/
theorem facturas_pasa (h : Pasa c s p s' q) : s'.facturas = s.facturas ∨
    (∃ copia, p = .porEnviar copia ∧ s'.facturas = s.facturas ++ [⟨copia, .pendiente⟩]) ∨
    ∃ k copia, s'.facturas = s.facturas.set k ⟨copia, .rechazado⟩ := by
  cases h with
  | enLinea hvigente | cufdPedido _ hvigente =>
    rcases cufdVigente_eq_some hvigente with ⟨rfl, -⟩ | ⟨r, -, -, hguardado⟩
    · exact .inl rfl
    · obtain rfl : (guardarCufd s _ r).1 = s' := congrArg Prod.fst hguardado
      exact .inl rfl
  | creado hcreado =>
    obtain ⟨rfl, -, -⟩ := crearEvento_eq_some hcreado
    exact .inl rfl
  | confirmada hescrita | reclamada hescrita | adelantada hescrita | aplicadoFinal hescrita | aplicadoError hescrita
  | regenerado _ _ hescrita | paqueteRegistrado hescrita | validado hescrita =>
    obtain ⟨rfl, -⟩ := conDocumentos_eq_some hescrita
    exact .inl rfl
  | enviada => exact .inr (.inl ⟨_, rfl, rfl⟩)
  | noEnviada => exact .inr (.inr ⟨_, _, rfl⟩)
  | _ => exact .inl rfl

/-- **A step** that issues only refused documents again. -/
theorem vigentes_pasa {S : Sessions EstadoFiscal PuntoSiat} (h : EnviosVigentes S.committed)
    (hp : MandaVigentes p S.committed) (hok : ReemiteRechazadasEn S p) (hpasa : Pasa c S.committed p s' q) :
    EnviosVigentes s' := by
  have hfactura : ∀ f ∈ S.committed.facturas, f.estado ≠ .rechazado → Sigue s' f.documento := by
    intro f hf hestado
    refine (h.factura f hf hestado).pasa hpasa ?_
    rintro ⟨copia, perfil, mensajes, e, rfl, hid⟩
    exact hestado (hok.1 f hf hid)
  have hpaquete : ∀ envio ∈ S.committed.paquetes, envio.estado ≠ .rechazado → ∀ d ∈ envio.lote, Sigue s' d := by
    intro envio henvio hestado d hd
    refine (h.paquete envio henvio hestado d hd).pasa hpasa ?_
    rintro ⟨copia, perfil, mensajes, e, rfl, hid⟩
    exact hestado (hok.2.1 envio henvio (List.mem_map.mpr ⟨d, hd, hid⟩))
  refine ⟨fun f hf hestado => ?_, fun envio henvio hestado d hd => ?_⟩
  · rcases facturas_pasa hpasa with heq | ⟨copia, rfl, heq⟩ | ⟨k, copia, heq⟩ <;> rw [heq] at hf
    · exact hfactura f hf hestado
    · rcases List.mem_append.mp hf with hf | hf
      · exact hfactura f hf hestado
      · obtain rfl := List.mem_singleton.mp hf
        refine (hp copia (List.mem_singleton_self copia)).pasa hpasa ?_
        rintro ⟨_, _, _, _, hregenera, -⟩
        cases hregenera
    · rcases List.mem_or_eq_of_mem_set hf with hf | rfl
      · exact hfactura f hf hestado
      · exact absurd rfl hestado
  · rcases paquetes_pasa hpasa with heq | ⟨e, lote, ls, rfl, heq⟩ <;> rw [heq] at henvio
    · exact hpaquete envio henvio hestado d hd
    · rcases List.mem_append.mp henvio with henvio | henvio
      · exact hpaquete envio henvio hestado d hd
      · obtain rfl := List.mem_singleton.mp henvio
        refine (hp d (List.mem_flatten.mpr ⟨lote, List.mem_cons_self, hd⟩)).pasa hpasa ?_
        rintro ⟨_, _, _, _, hregenera, -⟩
        cases hregenera

/-- What a worker goes on with was about to be sent before, or is read now. -/
theorem manda_pasa (hp : MandaVigentes p s) (h : Pasa c s p s' q) : ∀ p' ∈ q, MandaVigentes p' s' := by
  intro p' hp' d hd
  cases h with
  | fin | confirmada | reclamada | adelantada | aplicadoFinal | aplicadoError | regenerado | despachado | validado =>
    cases hp'
  | @seleccionado e _ =>
    cases hp'
    have hflatten : d ∈ (lotes c (documentosPorNumero s (fueraDeLinea e.id))).flatten := hd
    rw [flatten_lotes] at hflatten
    exact ⟨d, (mem_documentosPorNumero.mp hflatten).1, rfl, rfl, rfl⟩
  | @paqueteEnviado e lote ls =>
    cases hp'
    exact hp d (List.mem_append_right lote hd)
  | paqueteRecibido =>
    cases hp'
    exact hp d hd
  | @paqueteRegistrado e lote k codigo ls _ hregistrado =>
    cases hp'
    refine (hp d hd).pasa (.paqueteRegistrado hregistrado : Pasa c s (.recibido e lote k codigo ls) s' _) ?_
    rintro ⟨_, _, _, _, hregenera, -⟩
    cases hregenera
  | @habia _ _ _ para _ _ | @creado _ _ _ para _ _ _ | @habiaOtro _ _ para _ _ =>
    cases hp'
    cases para <;> cases hd
  | _ =>
    cases hp'
    cases hd

/-! ## Every reachable state -/

/-- What happens outside changes no row, and refuses or takes only what was sent. -/
theorem vigentes_suceder {suceso : SucesoSin} (h : EnviosVigentes s) (hsuceso : suceder s suceso = some s') :
    EnviosVigentes s' ∧ ∀ copia, Sigue s copia → Sigue s' copia := by
  obtain ⟨-, hdocuments, -⟩ := suceder_tablas hsuceso
  have hsigue : ∀ copia, Sigue s copia → Sigue s' copia := by
    rintro copia ⟨d, hd, hcopia⟩
    exact ⟨d, hdocuments ▸ hd, hcopia⟩
  refine ⟨⟨fun f hf hestado => hsigue _ ?_, fun envio henvio hestado d hd => hsigue d ?_⟩, hsigue⟩
  · cases suceso with
    | sirveFactura k codigo =>
      simp only [suceder] at hsuceso
      split at hsuceso <;> cases hsuceso
      next hk =>
        rcases List.mem_or_eq_of_mem_set hf with hf | rfl
        · exact h.factura f hf hestado
        · exact h.factura ⟨_, .pendiente⟩ (List.mem_of_getElem? hk) fun heq => by cases heq
    | tick =>
      cases hsuceso
      exact h.factura f hf hestado
    | sirvePaquete =>
      simp only [suceder] at hsuceso
      split at hsuceso
      · split at hsuceso <;> cases hsuceso
        exact h.factura f hf hestado
      · cases hsuceso
    | validaPaquete =>
      simp only [suceder] at hsuceso
      split at hsuceso <;> cases hsuceso
      exact h.factura f hf hestado
  · rcases suceder_paquetes hsuceso with heq | ⟨k, antes, estado, validados, hk, hsirve, heq⟩ <;> rw [heq] at henvio
    · exact h.paquete envio henvio hestado d hd
    · rcases List.mem_or_eq_of_mem_set henvio with henvio | rfl
      · exact h.paquete envio henvio hestado d hd
      · exact h.paquete antes (List.mem_of_getElem? hk) (hsirve.noRechazado hestado) d hd

theorem vigentes_of_reachable {S : Sessions EstadoFiscal PuntoSiat}
    (h : (siatMachine c).Reachable ReemiteRechazadas S) : EnviosVigentes S.committed := by
  refine (Workers.keeps (I := EnviosVigentes) (J := MandaVigentes) (G := fun _ => True) ?_ (fun s hinit => ?_)
    (fun _ _ => trivial) h).store
  · exact {
      start := fun {S _ _} _ _ hstart d hd => by
        cases empieza_of_empezar hstart with
        | enviar hfila =>
          obtain rfl := List.mem_singleton.mp hd
          exact ⟨d, hfila, rfl, rfl, rfl⟩
        | _ => cases hd
      next := fun _ hS hfind hok hnext =>
        have hpasa := pasa_of_next hnext
        ⟨vigentes_pasa hS.store (hS.at hfind) (hok _ hfind) hpasa, manda_pasa (hS.at hfind) hpasa⟩
      stable := fun {S w answer p store q} _ hS hfind hok hnext x hx d hd => by
        obtain ⟨hmem, -⟩ := Sessions.mem_others.mp hx
        refine (hS.worker x hmem d hd).pasa (pasa_of_next hnext) ?_
        rintro ⟨copia, perfil, mensajes, e, rfl, hid⟩
        exact (hok _ hfind).2.2 x hmem (List.mem_map.mpr ⟨d, hd, hid⟩)
      outside := fun _ hS _ hsuceso =>
        have ⟨hvigentes, hsigue⟩ := vigentes_suceder hS.store hsuceso
        ⟨hvigentes, fun x hx d hd => hsigue d (hS.worker x hx d hd)⟩ }
  · obtain ⟨-, -, -, -, hfacturas, hpaquetes⟩ := hinit
    refine ⟨fun f hf => ?_, fun envio henvio => ?_⟩
    · rw [hfacturas] at hf
      cases hf
    · rw [hpaquetes] at henvio
      cases henvio

/-- What was taken was not refused. -/
theorem Tomado.sigue (h : EnviosVigentes s) (hd : Tomado s d) : Sigue s d := by
  have hno : ∀ estado : EstadoEnvio, estado.esRecibido = true → estado ≠ .rechazado := by
    rintro estado hestado rfl
    cases hestado
  cases hd with
  | sola henviada hrecibida => exact h.factura _ henviada (hno _ hrecibida)
  | enPaquete henviado hrecibido henLote => exact h.paquete _ henviado (hno _ hrecibido) d henLote

/-- **A number is taken under one code.**  In every run of emissions and processors that issues a document again only
when all that was sent of it was refused and nothing of it is about to be sent, what the authority took of a number
of an issuer has one code and one XML, which are those of the row of the document. -/
theorem numeros_tomados {S : Sessions EstadoFiscal PuntoSiat} (h : (siatMachine c).Reachable ReemiteRechazadas S) :
    (∀ d, Tomado S.committed d → ∃ fila ∈ S.committed.documents,
      fila.identidad = d.identidad ∧ fila.cuf = d.cuf ∧ fila.xml = d.xml) ∧
    ∀ d d', Tomado S.committed d → Tomado S.committed d' → d.issuerProfileId = d'.issuerProfileId →
      d.numeroFactura = d'.numeroFactura → d.id = d'.id ∧ d.cuf = d'.cuf ∧ d.xml = d'.xml := by
  have hvigentes := vigentes_of_reachable h
  refine ⟨fun d hd => hd.sigue hvigentes, fun d d' hd hd' hissuer hnumero => ?_⟩
  obtain ⟨fila, hfila, hidentidad, hcuf, hxml⟩ := hd.sigue hvigentes
  obtain ⟨fila', hfila', hidentidad', hcuf', hxml'⟩ := hd'.sigue hvigentes
  simp only [DocumentoSiat.identidad, Prod.mk.injEq] at hidentidad hidentidad'
  obtain rfl : fila = fila' := (numerosEmitidos_of_reachable h).unico fila hfila fila' hfila'
    (hidentidad.2.1.trans (hissuer.trans hidentidad'.2.1.symm))
    (hidentidad.2.2.1.trans (hnumero.trans hidentidad'.2.2.1.symm))
  exact ⟨hidentidad.1.symm.trans hidentidad'.1, hcuf.symm.trans hcuf', hxml.symm.trans hxml'⟩

end TakenNumbers

/-! ## An answer that is lost -/

section Runs

/-- An invoice is issued and sent. -/
def facturaEnviada : List (WorkerAct TareaSiat EntradaSiat SucesoSin) :=
  [.start 1 (.preparar 1), .go 1 (.enLinea "C1".toList (some exampleCufd) (some true)),
    .go 1 (.documento (exampleEmision 5).documento), .go 1 .sigue, .start 1 (.reclamar [1]), .go 1 .sigue,
    .start 1 (.enviar 1), .go 1 .sigue]

/-- It is issued again under an event, which is dispatched; the authority takes the package. -/
def facturaReemitida : List (WorkerAct TareaSiat EntradaSiat SucesoSin) :=
  [.go 1 .sigue, .go 1 .sigue, .go 1 .sigue, .go 1 .sigue, .start 2 (.despachar 1), .go 2 .sigue,
    .go 2 (.cufd (some exampleCufd)),
    .go 2 (.llamada (.ok { respuestaVacia with codigoRecepcionEventoSignificativo := some "77".toList })),
    .go 2 .sigue, .go 2 .sigue, .outside (.sirvePaquete 0 (some "P1".toList))]

/-- The invoice is taken; neither that answer nor its status comes before the online window is over. -/
def dosCufs : Sessions EstadoFiscal PuntoSiat :=
  (siatMachine exampleSiat).after ⟨exampleFiscal, []⟩ (facturaEnviada ++
    [.outside (.sirveFactura 0 (some "R1".toList)), .go 1 (.llamada (.error ⟨"timeout", true⟩)),
      .outside (.tick 121000), .go 1 (.llamada (.error ⟨"timeout", true⟩))] ++ facturaReemitida)

/-- The invoice is refused for its credentials. -/
def unCuf : Sessions EstadoFiscal PuntoSiat :=
  (siatMachine exampleSiat).afterIf ReemiteRechazadas ⟨exampleFiscal, []⟩ (facturaEnviada ++
    [.outside (.sirveFactura 0 none), .go 1 (.llamada (.ok { respuestaVacia with
      codigoEstado := some CODIGO_ESTADO.RECHAZADA, mensajesList := [⟨913, false, none⟩] }))] ++ facturaReemitida)

/-- What the two runs leave. -/
theorem envios_reemitidos :
    (∃ f ∈ dosCufs.committed.facturas, ∃ envio ∈ dosCufs.committed.paquetes,
      (f.estado.esRecibido = true ∧ envio.estado.esRecibido = true) ∧ ∃ d ∈ envio.lote,
        f.documento.issuerProfileId = d.issuerProfileId ∧ f.documento.numeroFactura = d.numeroFactura ∧
          f.documento.cuf ≠ d.cuf) ∧
      ∃ envio ∈ unCuf.committed.paquetes, envio.estado.esRecibido = true ∧
        envio.lote.map (·.numeroFactura) = [some 42] := by
  decide +kernel

/-- **A number is taken twice** when an answer and the status are lost. -/
theorem numeros_tomados_dosCufs : (siatMachine exampleSiat).Reachable (fun _ _ => True) dosCufs ∧
    ∃ d d', Tomado dosCufs.committed d ∧ Tomado dosCufs.committed d' ∧ d.issuerProfileId = d'.issuerProfileId ∧
      d.numeroFactura = d'.numeroFactura ∧ d.cuf ≠ d'.cuf := by
  refine ⟨(siatMachine exampleSiat).reachable_after exampleFiscal_sinHistoria _, ?_⟩
  obtain ⟨f, hf, envio, henvio, ⟨hestado, hestado'⟩, d, hd, hissuer, hnumero, hcuf⟩ := envios_reemitidos.1
  exact ⟨f.documento, d, .sola hf hestado, .enPaquete henvio hestado' hd, hissuer, hnumero, hcuf⟩

theorem numeros_tomados_unCuf :
    (∃ envio ∈ unCuf.committed.paquetes, envio.estado.esRecibido = true ∧ envio.lote.map (·.numeroFactura) = [some 42]) ∧
      ∀ d, Tomado unCuf.committed d → ∃ fila ∈ unCuf.committed.documents,
        fila.identidad = d.identidad ∧ fila.cuf = d.cuf ∧ fila.xml = d.xml := by
  have hreach : (siatMachine exampleSiat).Reachable ReemiteRechazadas unCuf :=
    (siatMachine exampleSiat).reachable_afterIf ReemiteRechazadas exampleFiscal_sinHistoria _
  exact ⟨envios_reemitidos.2, (numeros_tomados hreach).1⟩

end Runs

end AtlasErp
