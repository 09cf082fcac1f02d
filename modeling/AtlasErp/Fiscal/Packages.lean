import AtlasErp.Fiscal.Batches

/-! # Contingency packages

A processor selects the documents of an event, sends them in batches, and records a package once the authority
took it in.  Nothing is claimed before: another processor may select the same documents meanwhile, and so does the
next pass when an answer is lost.

- `Cuadran`: each document is in one package that was taken in, and a package has the documents of its files, in
  their order;
- `cuadran_of_reachable`: so it is as long as no document is sent again after a send that was not refused, and no
  document is issued again while it is in a batch or in a package;
- `cuadran_counterexample`: a package is taken in and its answer is lost. -/

namespace AtlasErp

open Lib

section Packages

variable {c : SiatConfig} {s s' : EstadoFiscal} {p : PuntoSiat} {q : Option PuntoSiat}

/-- **Packages account for the documents**: no document is in two packages that were taken in; a package counts the
documents that are in it, and these are, by number, the files that were sent under its code. -/
structure Cuadran (s : EstadoFiscal) : Prop where
  enUno : ∀ (i j : Nat) (envio envio' : EnvioPaquete), s.paquetes[i]? = some envio → s.paquetes[j]? = some envio' →
    envio.estado.esRecibido = true → envio'.estado.esRecibido = true → i ≠ j →
      ∀ d ∈ envio.lote, ∀ d' ∈ envio'.lote, d.id ≠ d'.id
  cantidad : ∀ x ∈ s.packages, x.cantidadFacturas = (documentosPorNumero s (·.packageId = some x.id)).length
  archivos : ∀ x ∈ s.packages, (∃ envio ∈ s.paquetes, envio.estado = .recibido x.codigoRecepcion) ∧
    ∀ envio ∈ s.paquetes, envio.estado = .recibido x.codigoRecepcion →
      envio.archivos = (documentosPorNumero s (·.packageId = some x.id)).map (·.archivo)

/-! ## The condition -/

/-- The copies that a processor holds to send them, or to record them. -/
def PuntoSiat.copias : PuntoSiat → List DocumentoSiat
  | .empaquetando _ ls => ls.flatten
  | .esperandoPaquete _ lote _ ls | .recibido _ lote _ _ ls => lote ++ ls.flatten
  | _ => []

/-- When a batch is sent, no document of it is in a package that was sent before and not refused; and when a
document is issued again, it is in no batch and in no package. -/
def EnviaUnaVezEn (S : Sessions EstadoFiscal PuntoSiat) : PuntoSiat → Prop
  | .empaquetando _ ls => ∀ lote ∈ ls.head?, ∀ envio ∈ S.committed.paquetes, envio.estado ≠ .rechazado →
      ∀ d ∈ envio.lote, d.id ∉ lote.map HasKey.key
  | .regenerando copia _ _ _ => (∀ d ∈ S.committed.documents, d.id = copia.id → d.packageId = none) ∧
      ∀ x ∈ S.active, copia.id ∉ x.2.copias.map HasKey.key
  | _ => True

instance (S : Sessions EstadoFiscal PuntoSiat) : DecidablePred (EnviaUnaVezEn S)
  | .empaquetando _ ls => inferInstanceAs (Decidable (∀ lote ∈ ls.head?, _))
  | .regenerando _ _ _ _ => inferInstanceAs (Decidable (_ ∧ _))
  | .preparando .. | .abriendo .. | .creando .. | .reintentando .. | .preparada .. | .insertada .. | .reclamando ..
  | .adelantando .. | .porEnviar .. | .esperando .. | .consultando .. | .porAplicar .. | .despachando ..
  | .registrando .. | .esperandoPaquete .. | .recibido .. | .sinPendientes .. | .validando ..
  | .validandoDocumentos .. => .isTrue trivial

def EnviaUnaVez (S : Sessions EstadoFiscal PuntoSiat) : WorkerAct TareaSiat EntradaSiat SucesoSin → Prop
  | .go w _ => ∀ p ∈ S.find? w, EnviaUnaVezEn S p
  | _ => True

instance (S : Sessions EstadoFiscal PuntoSiat) : DecidablePred (EnviaUnaVez S)
  | .go w _ => inferInstanceAs (Decidable (∀ p ∈ S.find? w, EnviaUnaVezEn S p))
  | .start .. | .die _ | .outside _ => .isTrue trivial

/-! ## What was sent -/

/-- Two packages that were sent have no document in common unless one was refused, and not the same code. -/
structure Ajenos (envio envio' : EnvioPaquete) : Prop where
  lotes : envio.estado ≠ .rechazado → envio'.estado ≠ .rechazado → ∀ d ∈ envio.lote, ∀ d' ∈ envio'.lote, d.id ≠ d'.id
  codigos : ∀ codigo, envio.estado = .recibido codigo → envio'.estado ≠ .recibido codigo

theorem Ajenos.symm {envio envio' : EnvioPaquete} (h : Ajenos envio envio') : Ajenos envio' envio where
  lotes hestado' hestado d' hd' d hd := (h.lotes hestado hestado' d hd d' hd').symm
  codigos codigo hestado' hestado := h.codigos codigo hestado hestado'

/-- What was sent: the files are those of the batch, and two packages are foreign to each other. -/
structure EnviosEnOrden (paquetes : List EnvioPaquete) : Prop where
  archivos : ∀ envio ∈ paquetes, envio.archivos = empaquetarFacturas envio.lote
  ajenos : ∀ (i j : Nat) (envio envio' : EnvioPaquete), paquetes[i]? = some envio → paquetes[j]? = some envio' → i ≠ j →
    Ajenos envio envio'

theorem getElem?_concat_eq_some {α : Type} {l : List α} {a x : α} {i : Nat} (h : (l ++ [a])[i]? = some x) :
    l[i]? = some x ∨ i = l.length ∧ x = a := by
  rw [List.getElem?_append] at h
  split at h
  · exact .inl h
  · rcases hi : i - l.length with _ | n
    · rw [hi] at h
      exact .inr ⟨by omega, (Option.some.inj h).symm⟩
    · rw [hi] at h
      cases h

/-- A batch is sent. -/
theorem EnviosEnOrden.append {paquetes : List EnvioPaquete} (h : EnviosEnOrden paquetes) {eventId : Nat}
    {lote : List DocumentoSiat}
    (hlote : ∀ envio ∈ paquetes, envio.estado ≠ .rechazado → ∀ d ∈ envio.lote, d.id ∉ lote.map HasKey.key) :
    EnviosEnOrden (paquetes ++ [⟨eventId, lote, empaquetarFacturas lote, .pendiente, []⟩]) := by
  have hnuevo : ∀ envio ∈ paquetes, Ajenos envio ⟨eventId, lote, empaquetarFacturas lote, .pendiente, []⟩ :=
    fun envio henvio =>
      { lotes := fun hestado _ d hd d' hd' hid =>
          hlote envio henvio hestado d hd (List.mem_map.mpr ⟨d', hd', hid.symm⟩)
        codigos := fun codigo _ hestado => by cases hestado }
  refine ⟨fun envio henvio => ?_, fun i j envio envio' hi hj hne => ?_⟩
  · rcases List.mem_append.mp henvio with henvio | henvio
    · exact h.archivos envio henvio
    · obtain rfl := List.mem_singleton.mp henvio
      rfl
  · rcases getElem?_concat_eq_some hi with hi | ⟨rfl, rfl⟩ <;>
      rcases getElem?_concat_eq_some hj with hj | ⟨rfl, rfl⟩
    · exact h.ajenos i j envio envio' hi hj hne
    · exact hnuevo envio (List.mem_of_getElem? hi)
    · exact (hnuevo envio' (List.mem_of_getElem? hj)).symm
    · exact absurd rfl hne

/-- The authority serves a package, or validates its files. -/
inductive Sirve (paquetes : List EnvioPaquete) : EstadoEnvio → EstadoEnvio → Prop where
  | igual {estado} : Sirve paquetes estado estado
  | rechaza : Sirve paquetes .pendiente .rechazado
  | recibe {codigo} (fresco : ∀ envio ∈ paquetes, envio.estado ≠ .recibido codigo) :
      Sirve paquetes .pendiente (.recibido codigo)

theorem Sirve.codigo {paquetes : List EnvioPaquete} {estado estado' : EstadoEnvio} (h : Sirve paquetes estado estado')
    {codigo : Text} (hrecibido : estado' = .recibido codigo) :
    estado = .recibido codigo ∨ ∀ envio ∈ paquetes, envio.estado ≠ .recibido codigo := by
  cases h with
  | igual => exact .inl hrecibido
  | rechaza => cases hrecibido
  | recibe hfresco =>
    cases hrecibido
    exact .inr hfresco

theorem Sirve.noRechazado {paquetes : List EnvioPaquete} {estado estado' : EstadoEnvio}
    (h : Sirve paquetes estado estado') (hestado : estado' ≠ .rechazado) : estado ≠ .rechazado := by
  cases h with
  | igual => exact hestado
  | rechaza => exact absurd rfl hestado
  | recibe => exact fun hrechazado => by cases hrechazado

theorem Sirve.recibido {paquetes : List EnvioPaquete} {estado : EstadoEnvio} {codigo : Text}
    (h : Sirve paquetes (.recibido codigo) estado) : estado = .recibido codigo := by
  cases h
  rfl

theorem EnviosEnOrden.set {paquetes : List EnvioPaquete} (h : EnviosEnOrden paquetes) {k : Nat} {envio : EnvioPaquete}
    (hk : paquetes[k]? = some envio) {estado : EstadoEnvio} (hsirve : Sirve paquetes envio.estado estado)
    (validados : List Nat) : EnviosEnOrden (paquetes.set k { envio with estado, validados }) := by
  have hajeno : ∀ i otro, paquetes[i]? = some otro → i ≠ k → Ajenos otro { envio with estado, validados } :=
    fun i otro hi hne =>
      { lotes := fun hotro hestado => (h.ajenos i k otro envio hi hk hne).lotes hotro (hsirve.noRechazado hestado)
        codigos := fun codigo hotro hestado => by
          rcases hsirve.codigo hestado with hrecibido | hfresco
          · exact (h.ajenos i k otro envio hi hk hne).codigos codigo hotro hrecibido
          · exact hfresco otro (List.mem_of_getElem? hi) hotro }
  have hcases : ∀ i otro, (paquetes.set k { envio with estado, validados })[i]? = some otro →
      i = k ∧ otro = { envio with estado, validados } ∨ i ≠ k ∧ paquetes[i]? = some otro := by
    intro i otro hi
    rw [List.getElem?_set] at hi
    split at hi
    · split at hi
      · exact .inl ⟨Eq.symm ‹_›, (Option.some.inj hi).symm⟩
      · cases hi
    · exact .inr ⟨Ne.symm ‹_›, hi⟩
  refine ⟨fun otro hotro => ?_, fun i j otro otro' hi hj hne => ?_⟩
  · rcases List.mem_or_eq_of_mem_set hotro with hotro | rfl
    · exact h.archivos otro hotro
    · exact h.archivos envio (List.mem_of_getElem? hk)
  · rcases hcases i otro hi with ⟨rfl, rfl⟩ | ⟨hik, hi'⟩ <;> rcases hcases j otro' hj with ⟨rfl, rfl⟩ | ⟨hjk, hj'⟩
    · exact absurd rfl hne
    · exact (hajeno j otro' hj' hjk).symm
    · exact hajeno i otro hi' hik
    · exact h.ajenos i j otro otro' hi' hj' hne

/-- What happens outside to what was sent. -/
theorem suceder_paquetes {suceso : SucesoSin} (h : suceder s suceso = some s') :
    s'.paquetes = s.paquetes ∨ ∃ k envio estado validados, s.paquetes[k]? = some envio ∧
      Sirve s.paquetes envio.estado estado ∧ s'.paquetes = s.paquetes.set k { envio with estado, validados } := by
  cases suceso with
  | tick ms =>
    cases h
    exact .inl rfl
  | sirveFactura k codigo =>
    simp only [suceder] at h
    split at h <;> cases h
    exact .inl rfl
  | sirvePaquete k codigo =>
    simp only [suceder] at h
    split at h
    · rename_i e lote archivos validados hk
      split at h
      · cases h
      · rename_i hfresco
        cases h
        refine .inr ⟨k, _, servido codigo, validados, hk, ?_, rfl⟩
        cases codigo with
        | none => exact .rechaza
        | some codigo =>
          refine .recibe fun envio henvio hestado => hfresco ?_
          simp only [Option.any_some, List.any_eq_true, decide_eq_true_eq]
          exact ⟨envio, henvio, hestado⟩
    · cases h
  | validaPaquete k validados =>
    simp only [suceder] at h
    split at h <;> cases h
    exact .inr ⟨k, _, _, validados, ‹_›, .igual, rfl⟩

/-! ## What a step does to the rows -/

/-- A row that was there is written. -/
theorem documento_escrito (h : Pasa c s p s' q) {d : DocumentoSiat} (hd : d ∈ s.documents) :
    ∃ d' ∈ s'.documents, Escritura s p d d' := by
  obtain ⟨d', hd', hidentidad⟩ := (conserva_pasa h).documento d hd
  have hid : d'.id = d.id := congrArg Prod.fst hidentidad
  rcases documentos_pasa h d' hd' with ⟨d₀, hd₀, hescritura⟩ | ⟨fila, -, rfl⟩
  · have hid₀ : d'.id = d₀.id := congrArg Prod.fst hescritura.identidad
    obtain rfl : d₀ = d := Table.eq_of_key_eq hd₀ hd (hid₀.symm.trans hid)
    exact ⟨d', hd', hescritura⟩
  · exact absurd hid.symm (Nat.ne_of_lt (Table.key_lt_nextKey hd))

/-- A step that records no package: what it leaves as it was, except the XML of the documents it issues again. -/
structure Respeta (tocado : Nat → Prop) (s s' : EstadoFiscal) : Prop where
  paquete : ∀ x' ∈ s'.packages, ∃ x ∈ s.packages, x'.identidad = x.identidad
  paquete' : ∀ x ∈ s.packages, ∃ x' ∈ s'.packages, x'.identidad = x.identidad
  fila : ∀ d ∈ s.documents, ∃ d' ∈ s'.documents, d'.id = d.id ∧ d'.numeroFactura = d.numeroFactura ∧
    d'.packageId = d.packageId ∧ (¬tocado d.id → d'.xml = d.xml)
  nueva : ∀ d' ∈ s'.documents, (∃ d ∈ s.documents, d.id = d'.id) ∨ d'.packageId = none

/-- A row that is written while no package is recorded stays in its package, and keeps its XML unless it is issued
again. -/
theorem columnas_escritura {d d' : DocumentoSiat} (h : Escritura s p d d') :
    (∃ e lote k codigo ls, p = .recibido e lote k codigo ls) ∨ d'.packageId = d.packageId ∧
      ((∀ copia perfil mensajes e, p = .regenerando copia perfil mensajes e → d.id ≠ copia.id) → d'.xml = d.xml) := by
  cases h with
  | igual | reclamado | final | error => exact .inr ⟨rfl, fun _ => rfl⟩
  | adelantado =>
    unfold DocumentoSiat.adelantado
    split <;> exact .inr ⟨rfl, fun _ => rfl⟩
  | regenerado hpropia => exact .inr ⟨rfl, fun hotra => absurd hpropia (hotra _ _ _ _ rfl)⟩
  | empaquetado => exact .inl ⟨_, _, _, _, _, rfl⟩
  | veredictos =>
    obtain ⟨fila', heq, -, -, hpaquete, -, -, -, hxml, -⟩ := aplicarVeredictos_columnas d _ _ _ _
    rw [heq]
    exact .inr ⟨hpaquete, fun _ => hxml⟩

/-- Every package was there, or is the one that is recorded. -/
theorem packages_pasa (h : Pasa c s p s' q) : ∀ x' ∈ s'.packages, (∃ x ∈ s.packages, x'.identidad = x.identidad) ∨
    ∃ e lote k codigo ls, p = .recibido e lote k codigo ls := by
  have hsame : s'.packages = s.packages → ∀ x' ∈ s'.packages, (∃ x ∈ s.packages, x'.identidad = x.identidad) ∨
      ∃ e lote k codigo ls, p = .recibido e lote k codigo ls :=
    fun heq x' hx' => .inl ⟨x', heq ▸ hx', rfl⟩
  cases h with
  | enLinea hvigente | cufdPedido _ hvigente =>
    refine hsame ?_
    rcases cufdVigente_eq_some hvigente with ⟨rfl, -⟩ | ⟨r, -, -, hguardado⟩
    · rfl
    · obtain rfl : (guardarCufd s _ r).1 = s' := congrArg Prod.fst hguardado
      rfl
  | creado hcreado =>
    obtain ⟨rfl, -, -⟩ := crearEvento_eq_some hcreado
    exact hsame rfl
  | confirmada hescrita | reclamada hescrita | adelantada hescrita | aplicadoFinal hescrita | aplicadoError hescrita
  | regenerado _ _ hescrita =>
    obtain ⟨rfl, -⟩ := conDocumentos_eq_some hescrita
    exact hsame rfl
  | paqueteRegistrado => exact fun _ _ => .inr ⟨_, _, _, _, _, rfl⟩
  | validado haplicado =>
    obtain ⟨rfl, -⟩ := conDocumentos_eq_some haplicado
    intro x' hx'
    obtain ⟨x, hx, rfl⟩ := (Table.mem_updateWhere (f := SiatPackage.validado s.now _ _) fun _ => rfl).mp hx'
    refine .inl ⟨x, hx, ?_⟩
    split <;> rfl
  | _ => exact hsame rfl

/-- What was sent was sent before, or is the batch that is sent. -/
theorem paquetes_pasa (h : Pasa c s p s' q) : s'.paquetes = s.paquetes ∨ ∃ e lote ls, p = .empaquetando e (lote :: ls) ∧
    s'.paquetes = s.paquetes ++ [⟨e.id, lote, empaquetarFacturas lote, .pendiente, []⟩] := by
  cases h with
  | enLinea hvigente | cufdPedido _ hvigente =>
    rcases cufdVigente_eq_some hvigente with ⟨rfl, -⟩ | ⟨r, -, -, hguardado⟩
    · exact .inl rfl
    · obtain rfl : (guardarCufd s _ r).1 = s' := congrArg Prod.fst hguardado
      exact .inl rfl
  | creado hcreado =>
    obtain ⟨rfl, -, -⟩ := crearEvento_eq_some hcreado
    exact .inl rfl
  | confirmada hescrita | reclamada hescrita | adelantada hescrita | aplicadoFinal hescrita | aplicadoError hescrita
  | regenerado _ _ hescrita | paqueteRegistrado hescrita | validado hescrita =>
    obtain ⟨rfl, -⟩ := conDocumentos_eq_some hescrita
    exact .inl rfl
  | paqueteEnviado => exact .inr ⟨_, _, _, rfl, rfl⟩
  | _ => exact .inl rfl

/-- The documents that a worker issues again. -/
def PuntoSiat.regenera (p : PuntoSiat) (id : Nat) : Prop :=
  ∃ copia perfil mensajes e, p = .regenerando copia perfil mensajes e ∧ id = copia.id

theorem respeta_pasa (h : Pasa c s p s' q) (hp : ∀ e lote k codigo ls, p ≠ .recibido e lote k codigo ls) :
    Respeta p.regenera s s' where
  paquete x' hx' := by
    rcases packages_pasa h x' hx' with hx | ⟨e, lote, k, codigo, ls, heq⟩
    · exact hx
    · exact absurd heq (hp e lote k codigo ls)
  paquete' := (conserva_pasa h).paquete
  fila d hd := by
    obtain ⟨d', hd', hescritura⟩ := documento_escrito h hd
    have hidentidad := hescritura.identidad
    simp only [DocumentoSiat.identidad, Prod.mk.injEq] at hidentidad
    refine ⟨d', hd', hidentidad.1, hidentidad.2.2.1, ?_⟩
    rcases columnas_escritura hescritura with ⟨e, lote, k, codigo, ls, heq⟩ | ⟨hpaquete, hxml⟩
    · exact absurd heq (hp e lote k codigo ls)
    · exact ⟨hpaquete, fun hno => hxml fun copia perfil mensajes e heq hid => hno ⟨copia, perfil, mensajes, e, heq, hid⟩⟩
  nueva d' hd' := by
    rcases documentos_pasa h d' hd' with ⟨d, hd, hescritura⟩ | ⟨fila, -, rfl⟩
    · exact .inl ⟨d, hd, (congrArg Prod.fst hescritura.identidad).symm⟩
    · exact .inr rfl

theorem respeta_suceder {suceso : SucesoSin} (h : suceder s suceso = some s') : Respeta (fun _ => False) s s' := by
  obtain ⟨-, hdocuments, -, hpackages, -⟩ := suceder_tablas h
  exact {
    paquete := fun x hx => ⟨x, hpackages ▸ hx, rfl⟩
    paquete' := fun x hx => ⟨x, hpackages ▸ hx, rfl⟩
    fila := fun d hd => ⟨d, hdocuments ▸ hd, rfl, rfl, rfl, fun _ => rfl⟩
    nueva := fun d hd => .inl ⟨d, hdocuments ▸ hd, rfl⟩ }

theorem LoteVigente.mono {tocado : Nat → Prop} {lote : List DocumentoSiat} (h : LoteVigente s lote)
    (hr : Respeta tocado s s') (hno : ∀ copia ∈ lote, ¬tocado copia.id) : LoteVigente s' lote where
  orden := h.orden
  distintos := h.distintos
  fila copia hcopia := by
    obtain ⟨d, hd, hid, hnumero, hxml⟩ := h.fila copia hcopia
    obtain ⟨d', hd', hid', hnumero', -, hxml'⟩ := hr.fila d hd
    exact ⟨d', hd', hid'.trans hid, hnumero'.trans hnumero, (hxml' (hid ▸ hno copia hcopia)).trans hxml⟩

/-! ## The invariant -/

/-- A package has the documents of a batch that was taken in under its code. -/
def DeEnvio (s : EstadoFiscal) (x : SiatPackage) : Prop :=
  ∃ envio ∈ s.paquetes, envio.estado = .recibido x.codigoRecepcion ∧ x.cantidadFacturas = envio.lote.length ∧
    LoteVigente s envio.lote ∧ ∀ d ∈ s.documents, d.packageId = some x.id ↔ d.id ∈ envio.lote.map HasKey.key

/-- The packages, and what was sent. -/
structure PaquetesEnOrden (s : EstadoFiscal) : Prop where
  envios : EnviosEnOrden s.paquetes
  paquete : ∀ x ∈ s.packages, DeEnvio s x
  documento : ∀ d ∈ s.documents, ∀ id, d.packageId = some id → ∃ x ∈ s.packages, x.id = id

/-- The batch that was sent under a number is not recorded. -/
def SinRegistrar (s : EstadoFiscal) (k : Nat) (lote : List DocumentoSiat) : Prop :=
  ∃ envio, s.paquetes[k]? = some envio ∧ envio.lote = lote ∧ ∀ x ∈ s.packages, envio.estado ≠ .recibido x.codigoRecepcion

/-- The batch whose answer a processor awaits, or has. -/
def PuntoSiat.espera : PuntoSiat → Option (Nat × List DocumentoSiat)
  | .esperandoPaquete _ lote k _ | .recibido _ lote k _ _ => some (k, lote)
  | _ => none

/-- What a processor relies on. -/
structure Retiene (p : PuntoSiat) (s : EstadoFiscal) : Prop where
  copias : LoteVigente s p.copias
  espera : ∀ k lote, p.espera = some (k, lote) → SinRegistrar s k lote
  recibido : ∀ e lote k codigo ls, p = .recibido e lote k codigo ls → ∀ envio, s.paquetes[k]? = some envio →
    envio.estado = .recibido codigo

theorem loteVigente_nil : LoteVigente s [] := ⟨.nil, .nil, fun _ h => by cases h⟩

/-- A point without batches. -/
theorem retiene_of_nada (hcopias : p.copias = []) (hespera : p.espera = none) : Retiene p s where
  copias := hcopias ▸ loteVigente_nil
  espera k lote h := by rw [hespera] at h; cases h
  recibido e lote k codigo ls h := by subst h; cases hespera

/-- Packages that were taken in are still there. -/
def SiguenRecibidos (s s' : EstadoFiscal) : Prop :=
  ∀ (k : Nat) (envio : EnvioPaquete), s.paquetes[k]? = some envio →
    ∃ envio', s'.paquetes[k]? = some envio' ∧ envio'.lote = envio.lote ∧ Sirve s.paquetes envio.estado envio'.estado

theorem DeEnvio.mono {tocado : Nat → Prop} {x x' : SiatPackage} (h : DeEnvio s x) (hr : Respeta tocado s s')
    (hsiguen : SiguenRecibidos s s') (hno : ∀ d ∈ s.documents, d.packageId = some x.id → ¬tocado d.id)
    (hx' : x'.identidad = x.identidad) : DeEnvio s' x' := by
  obtain ⟨envio, henvio, hestado, hcantidad, hlote, hfilas⟩ := h
  simp only [SiatPackage.identidad, Prod.mk.injEq] at hx'
  obtain ⟨hid, -, hcantidad', hcodigo⟩ := hx'
  obtain ⟨k, hk⟩ := List.mem_iff_getElem?.mp henvio
  obtain ⟨envio', hk', hlote', hsirve⟩ := hsiguen k envio hk
  have hestado' : envio'.estado = .recibido x.codigoRecepcion := (hestado ▸ hsirve).recibido
  have hvigente : LoteVigente s' envio.lote := hlote.mono hr fun copia hcopia => by
    obtain ⟨d, hd, hdid, -⟩ := hlote.fila copia hcopia
    exact hdid ▸ hno d hd ((hfilas d hd).mpr (List.mem_map.mpr ⟨copia, hcopia, hdid.symm⟩))
  refine ⟨envio', List.mem_of_getElem? hk', hcodigo ▸ hestado', ?_, hlote' ▸ hvigente, fun d' hd' => ?_⟩
  · rw [hcantidad', hlote', hcantidad]
  rw [hid, hlote']
  by_cases hestaba : ∃ d ∈ s.documents, d.id = d'.id
  · obtain ⟨d, hd, hdid⟩ := hestaba
    obtain ⟨d'', hd'', hdid'', -, hpaquete, -⟩ := hr.fila d hd
    obtain rfl : d'' = d' := Table.eq_of_key_eq hd'' hd' (hdid''.trans hdid)
    rw [hpaquete, ← hdid]
    exact hfilas d hd
  · -- a document that is issued now is in no batch
    have hnone : d'.packageId = none := (hr.nueva d' hd').resolve_left hestaba
    rw [hnone]
    refine ⟨(fun heq => by cases heq), fun hmem => absurd ?_ hestaba⟩
    obtain ⟨copia, hcopia, hcid⟩ := List.mem_map.mp hmem
    obtain ⟨d, hd, hdid, -⟩ := hlote.fila copia hcopia
    exact ⟨d, hd, hdid.trans hcid⟩

theorem PaquetesEnOrden.mono {tocado : Nat → Prop} (h : PaquetesEnOrden s) (hr : Respeta tocado s s')
    (hsiguen : SiguenRecibidos s s') (henvios : EnviosEnOrden s'.paquetes)
    (hno : ∀ d ∈ s.documents, ∀ id, d.packageId = some id → ¬tocado d.id) : PaquetesEnOrden s' where
  envios := henvios
  paquete x' hx' := by
    obtain ⟨x, hx, hidentidad⟩ := hr.paquete x' hx'
    exact (h.paquete x hx).mono hr hsiguen (fun d hd hid => hno d hd x.id hid) hidentidad
  documento d' hd' id hid := by
    by_cases hestaba : ∃ d ∈ s.documents, d.id = d'.id
    · obtain ⟨d, hd, hdid⟩ := hestaba
      obtain ⟨d'', hd'', hdid'', -, hpaquete, -⟩ := hr.fila d hd
      obtain rfl : d'' = d' := Table.eq_of_key_eq hd'' hd' (hdid''.trans hdid)
      obtain ⟨x, hx, hxid⟩ := h.documento d hd id (hpaquete.symm.trans hid)
      obtain ⟨x', hx', hidentidad⟩ := hr.paquete' x hx
      exact ⟨x', hx', (congrArg Prod.fst hidentidad).trans hxid⟩
    · have hnone : d'.packageId = none := (hr.nueva d' hd').resolve_left hestaba
      rw [hnone] at hid
      cases hid

/-- A batch that is not recorded is not recorded by a step that records another. -/
theorem SinRegistrar.mono {k : Nat} {lote : List DocumentoSiat} (h : SinRegistrar s k lote)
    (hsiguen : SiguenRecibidos s s') (hcodigos : ∀ x ∈ s.packages, ∃ envio ∈ s.paquetes, envio.estado = .recibido x.codigoRecepcion)
    (hpaquete : ∀ x' ∈ s'.packages, (∃ x ∈ s.packages, x'.codigoRecepcion = x.codigoRecepcion) ∨
      ∀ envio, s.paquetes[k]? = some envio → envio.estado ≠ .recibido x'.codigoRecepcion ∧
        ∃ otro ∈ s.paquetes, otro.estado = .recibido x'.codigoRecepcion) : SinRegistrar s' k lote := by
  obtain ⟨envio, hk, hlote, hsin⟩ := h
  obtain ⟨envio', hk', hlote', hsirve⟩ := hsiguen k envio hk
  refine ⟨envio', hk', hlote'.trans hlote, fun x' hx' hestado => ?_⟩
  rcases hsirve.codigo hestado with hrecibido | hfresco
  · rcases hpaquete x' hx' with ⟨x, hx, hcodigo⟩ | hotro
    · exact hsin x hx (hcodigo ▸ hrecibido)
    · exact (hotro envio hk).1 hrecibido
  · rcases hpaquete x' hx' with ⟨x, hx, hcodigo⟩ | hotro
    · obtain ⟨otro, hmem, hotro⟩ := hcodigos x hx
      exact hfresco otro hmem (hcodigo ▸ hotro)
    · obtain ⟨otro, hmem, hotro⟩ := (hotro envio hk).2
      exact hfresco otro hmem hotro

/-- What a processor relies on while others work. -/
theorem Retiene.mono {x : PuntoSiat} (h : Retiene x s) (hcopias : LoteVigente s' x.copias) (hsiguen : SiguenRecibidos s s')
    (hcodigos : ∀ x ∈ s.packages, ∃ envio ∈ s.paquetes, envio.estado = .recibido x.codigoRecepcion)
    (hpaquete : ∀ k lote, x.espera = some (k, lote) → ∀ x' ∈ s'.packages,
      (∃ x ∈ s.packages, x'.codigoRecepcion = x.codigoRecepcion) ∨
        ∀ envio, s.paquetes[k]? = some envio → envio.estado ≠ .recibido x'.codigoRecepcion ∧
          ∃ otro ∈ s.paquetes, otro.estado = .recibido x'.codigoRecepcion) : Retiene x s' where
  copias := hcopias
  espera k lote hespera := (h.espera k lote hespera).mono hsiguen hcodigos (hpaquete k lote hespera)
  recibido e lote k codigo ls heq envio' hk' := by
    obtain ⟨envio, hk, -⟩ := h.espera k lote (heq ▸ rfl)
    obtain ⟨otro, hotro, -, hsirve⟩ := hsiguen k envio hk
    obtain rfl : otro = envio' := Option.some.inj (hotro.symm.trans hk')
    exact (h.recibido e lote k codigo ls heq envio hk ▸ hsirve).recibido

/-- The copies of a batch after a package is recorded. -/
theorem LoteVigente.registrar {lote otro : List DocumentoSiat} {eventId : Nat} {codigo : Text}
    (h : LoteVigente s lote) (hregistrado : registrarPaquete s eventId otro codigo = some s') : LoteVigente s' lote where
  orden := h.orden
  distintos := h.distintos
  fila copia hcopia := by
    obtain ⟨rfl, -⟩ := conDocumentos_eq_some hregistrado
    obtain ⟨d, hd, hid, hnumero, hxml⟩ := h.fila copia hcopia
    obtain ⟨d', hd', hid', hnumero', hxml'⟩ := Table.exists_updateWhere
      (f := DocumentoSiat.empaquetado s.now s.packages.nextKey) (p := (HasKey.key · ∈ otro.map HasKey.key))
      (R := fun d d' => d'.id = d.id ∧ d'.numeroFactura = d.numeroFactura ∧ d'.xml = d.xml) (fun _ => rfl)
      (fun _ => ⟨rfl, rfl, rfl⟩) (fun _ => ⟨rfl, rfl, rfl⟩) hd
    exact ⟨d', hd', hid'.trans hid, hnumero'.trans hnumero, hxml'.trans hxml⟩

/-- **A package is recorded**: its documents are those of its batch, and no other package loses one. -/
theorem enOrden_registrar {e : SignificantEvent} {lote : List DocumentoSiat} {k : Nat} {codigo : Text}
    {ls : List (List DocumentoSiat)} (h : PaquetesEnOrden s) (hp : Retiene (.recibido e lote k codigo ls) s)
    (hregistrado : registrarPaquete s e.id lote codigo = some s') : PaquetesEnOrden s' := by
  have hvigente : ∀ {l : List DocumentoSiat}, LoteVigente s l → LoteVigente s' l := fun hl => hl.registrar hregistrado
  obtain ⟨envio, hk, rfl, hsin⟩ := hp.espera k lote rfl
  have hestado := hp.recibido _ _ _ _ _ rfl envio hk
  obtain ⟨rfl, -⟩ := conDocumentos_eq_some hregistrado
  have hfilas : ∀ d' ∈ s.documents.updateWhere (HasKey.key · ∈ envio.lote.map HasKey.key)
      (DocumentoSiat.empaquetado s.now s.packages.nextKey), ∃ d ∈ s.documents, d'.id = d.id ∧
        (d.id ∈ envio.lote.map HasKey.key ∧ d'.packageId = some s.packages.nextKey ∨
          d.id ∉ envio.lote.map HasKey.key ∧ d'.packageId = d.packageId) := by
    intro d' hd'
    obtain ⟨d, hd, rfl⟩ := (Table.mem_updateWhere (f := DocumentoSiat.empaquetado s.now s.packages.nextKey)
      fun _ => rfl).mp hd'
    refine ⟨d, hd, ?_⟩
    split
    · exact ⟨rfl, .inl ⟨of_decide_eq_true ‹_›, rfl⟩⟩
    · rename_i hno
      exact ⟨rfl, .inr ⟨fun hmem => hno (decide_eq_true hmem), rfl⟩⟩
  have hviejo : ∀ d ∈ s.documents, d.packageId ≠ some s.packages.nextKey := fun d hd hid => by
    obtain ⟨x, hx, hxid⟩ := h.documento d hd _ hid
    exact absurd hxid (Nat.ne_of_lt (Table.key_lt_nextKey hx))
  refine ⟨h.envios, fun x hx => ?_, fun d' hd' id hid => ?_⟩
  · rcases (Table.mem_create fun _ => rfl).mp hx with hestaba | rfl
    · obtain ⟨otro, hotro, hcodigo, hcantidad, hlote, hiff⟩ := h.paquete x hestaba
      refine ⟨otro, hotro, hcodigo, hcantidad, hvigente hlote, fun d' hd' => ?_⟩
      obtain ⟨d, hd, hdid, ⟨hmem, hpaquete⟩ | ⟨-, hpaquete⟩⟩ := hfilas d' hd'
      · -- a document of the batch that is recorded is in no batch that was recorded before
        obtain ⟨i, hi⟩ := List.mem_iff_getElem?.mp hotro
        have hne : i ≠ k := by
          rintro rfl
          obtain rfl : envio = otro := Option.some.inj (hk.symm.trans hi)
          exact hsin x hestaba hcodigo
        have hajenos := (h.envios.ajenos i k otro envio hi hk hne).lotes (by rw [hcodigo]; exact fun h => by cases h)
          (by rw [hestado]; exact fun h => by cases h)
        rw [hpaquete, hdid]
        refine ⟨fun heq => absurd (Option.some.inj heq).symm (Nat.ne_of_lt (Table.key_lt_nextKey hestaba)), fun hmem' => ?_⟩
        obtain ⟨copia, hcopia, hid⟩ := List.mem_map.mp hmem
        obtain ⟨copia', hcopia', hid'⟩ := List.mem_map.mp hmem'
        exact absurd (hid'.trans hid.symm) (hajenos copia' hcopia' copia hcopia)
      · rw [hpaquete, hdid]
        exact hiff d hd
    · refine ⟨envio, List.mem_of_getElem? hk, hestado, rfl, hvigente (hp.copias.sublist (List.sublist_append_left _ _)),
        fun d' hd' => ?_⟩
      obtain ⟨d, hd, hdid, ⟨hmem, hpaquete⟩ | ⟨hno, hpaquete⟩⟩ := hfilas d' hd'
      · exact ⟨fun _ => hdid ▸ hmem, fun _ => hpaquete⟩
      · exact ⟨fun heq => absurd (hpaquete.symm.trans heq) (hviejo d hd), fun hmem => absurd (hdid ▸ hmem) hno⟩
  · obtain ⟨d, hd, -, ⟨-, hpaquete⟩ | ⟨-, hpaquete⟩⟩ := hfilas d' hd'
    · obtain rfl := Option.some.inj (hpaquete.symm.trans hid)
      exact ⟨_, (Table.mem_create fun _ => rfl).mpr (.inr rfl), rfl⟩
    · obtain ⟨x, hx, hxid⟩ := h.documento d hd id (hpaquete.symm.trans hid)
      exact ⟨x, Table.mem_create_of_mem (fun _ => rfl) hx, hxid⟩

/-! ## Every reachable state -/

theorem siguen_pasa (h : Pasa c s p s' q) : SiguenRecibidos s s' := by
  intro k envio hk
  refine ⟨envio, ?_, rfl, .igual⟩
  rcases paquetes_pasa h with heq | ⟨_, _, _, _, heq⟩
  · rw [heq]
    exact hk
  · obtain ⟨hlt, -⟩ := List.getElem?_eq_some_iff.mp hk
    rw [heq, List.getElem?_append_left hlt]
    exact hk

theorem siguen_suceder {suceso : SucesoSin} (h : suceder s suceso = some s') : SiguenRecibidos s s' := by
  intro k envio hk
  rcases suceder_paquetes h with heq | ⟨k', envio', estado, validados, hk', hsirve, heq⟩
  · exact ⟨envio, heq ▸ hk, rfl, .igual⟩
  · by_cases hsame : k' = k
    · subst hsame
      obtain rfl : envio = envio' := Option.some.inj (hk.symm.trans hk')
      obtain ⟨hlt, -⟩ := List.getElem?_eq_some_iff.mp hk
      refine ⟨{ envio with estado, validados }, ?_, rfl, hsirve⟩
      rw [heq]
      exact List.getElem?_set_self hlt
    · exact ⟨envio, heq ▸ (List.getElem?_set_ne hsame).trans hk, rfl, .igual⟩

/-- A step records a package, or none. -/
theorem registra_or_respeta (h : Pasa c s p s' q) :
    (∃ e lote k codigo ls, p = .recibido e lote k codigo ls ∧ registrarPaquete s e.id lote codigo = some s') ∨
      Respeta p.regenera s s' := by
  by_cases hrecibido : ∃ e lote k codigo ls, p = .recibido e lote k codigo ls
  · obtain ⟨e, lote, k, codigo, ls, rfl⟩ := hrecibido
    cases h with
    | fin =>
      exact .inr ⟨fun x hx => ⟨x, hx, rfl⟩, fun x hx => ⟨x, hx, rfl⟩, fun d hd => ⟨d, hd, rfl, rfl, rfl, fun _ => rfl⟩,
        fun d hd => .inl ⟨d, hd, rfl⟩⟩
    | paqueteRegistrado hregistrado => exact .inl ⟨e, lote, k, codigo, ls, rfl, hregistrado⟩
  · exact .inr (respeta_pasa h fun e lote k codigo ls heq => hrecibido ⟨e, lote, k, codigo, ls, heq⟩)

/-- **A worker** that sends each document once keeps the packages in order. -/
theorem enOrden_pasa {S : Sessions EstadoFiscal PuntoSiat} (h : PaquetesEnOrden S.committed)
    (hp : Retiene p S.committed) (hok : EnviaUnaVezEn S p) (hpasa : Pasa c S.committed p s' q) : PaquetesEnOrden s' := by
  rcases registra_or_respeta hpasa with ⟨e, lote, k, codigo, ls, rfl, hregistrado⟩ | hr
  · exact enOrden_registrar h hp hregistrado
  · refine h.mono hr (siguen_pasa hpasa) ?_ fun d hd id hid hregenera => ?_
    · rcases paquetes_pasa hpasa with heq | ⟨e, lote, ls, rfl, heq⟩
      · exact heq ▸ h.envios
      · rw [heq]
        exact h.envios.append (hok lote rfl)
    · obtain ⟨copia, perfil, mensajes, e, rfl, hcid⟩ := hregenera
      rw [hok.1 d hd hcid] at hid
      cases hid

theorem retiene_pasa (hfilas : FilasSanas c s) (hnumeros : NumerosEmitidos s) (hp : Retiene p s)
    (h : Pasa c s p s' q) : ∀ p' ∈ q, Retiene p' s' := by
  intro p' hp'
  cases h with
  | fin | confirmada | reclamada | adelantada | aplicadoFinal | aplicadoError | regenerado | despachado | validado =>
    cases hp'
  | @seleccionado e _ =>
    cases hp'
    refine ⟨?_, (fun _ _ h => by cases h), fun _ _ _ _ _ h => by cases h⟩
    show LoteVigente s (lotes c (documentosPorNumero s (fueraDeLinea e.id))).flatten
    rw [flatten_lotes]
    refine loteVigente_documentosPorNumero fun d hd d' hd' hcond hcond' hnumero => ?_
    -- the documents of one event are of one issuer
    obtain ⟨-, e₁, he₁, hid₁, hissuer₁⟩ := (hfilas.documento d hd).enEvento e.id (of_decide_eq_true hcond).1
    obtain ⟨-, e₂, he₂, hid₂, hissuer₂⟩ := (hfilas.documento d' hd').enEvento e.id (of_decide_eq_true hcond').1
    obtain rfl : e₁ = e₂ := Table.eq_of_key_eq he₁ he₂ (hid₁.trans hid₂.symm)
    exact hnumeros.unico d hd d' hd' (hissuer₁.trans hissuer₂.symm) hnumero
  | @paqueteEnviado e lote ls =>
    cases hp'
    refine ⟨⟨hp.copias.orden, hp.copias.distintos, hp.copias.fila⟩, fun k l hespera => ?_, fun _ _ _ _ _ h => by cases h⟩
    cases hespera
    exact ⟨_, List.getElem?_concat_length, rfl, fun _ _ hestado => by cases hestado⟩
  | @paqueteRecibido e lote k ls codigo envio hservido hrecibido =>
    cases hp'
    refine ⟨hp.copias, hp.espera, fun e' lote' k' codigo' ls' heq envio' hk' => ?_⟩
    cases heq
    obtain rfl : envio = envio' := Option.some.inj (hservido.symm.trans hk')
    exact hrecibido
  | paqueteRegistrado hregistrado =>
    cases hp'
    refine ⟨?_, (fun _ _ h => by cases h), fun _ _ _ _ _ h => by cases h⟩
    exact (hp.copias.sublist (List.sublist_append_right _ _)).registrar hregistrado
  | @habia _ _ _ para _ _ | @creado _ _ _ para _ _ _ | @habiaOtro _ _ para _ _ =>
    cases hp'
    cases para <;> exact retiene_of_nada rfl rfl
  | _ =>
    cases hp'
    exact retiene_of_nada rfl rfl

/-- **The other processors** may rely on what they relied on. -/
theorem retiene_estable {S : Sessions EstadoFiscal PuntoSiat} {x : Nat × PuntoSiat} (hx : x ∈ S.active)
    (h : PaquetesEnOrden S.committed) (hp : Retiene p S.committed) (hretiene : Retiene x.2 S.committed)
    (hok : EnviaUnaVezEn S p) (hlibre : ∀ k ∈ p.recursos, k ∉ x.2.recursos) (hpasa : Pasa c S.committed p s' q) :
    Retiene x.2 s' := by
  have hcodigos : ∀ x ∈ S.committed.packages, ∃ envio ∈ S.committed.paquetes,
      envio.estado = .recibido x.codigoRecepcion := fun x hx => by
    obtain ⟨envio, henvio, hestado, -⟩ := h.paquete x hx
    exact ⟨envio, henvio, hestado⟩
  rcases registra_or_respeta hpasa with ⟨e, lote, k, codigo, ls, rfl, hregistrado⟩ | hr
  · refine hretiene.mono (hretiene.copias.registrar hregistrado) (siguen_pasa hpasa) hcodigos
      fun k' lote' hespera x' hx' => ?_
    obtain ⟨envio, hk, -⟩ := hp.espera k lote rfl
    have hestado := hp.recibido _ _ _ _ _ rfl envio hk
    have hne : k' ≠ k := by
      rintro rfl
      refine hlibre (.paquete k') List.mem_cons_self ?_
      obtain ⟨w, x⟩ := x
      cases x <;> cases hespera <;> exact List.mem_cons_self
    obtain ⟨rfl, -⟩ := conDocumentos_eq_some hregistrado
    rcases (Table.mem_create fun _ => rfl).mp hx' with hestaba | rfl
    · exact .inl ⟨x', hestaba, rfl⟩
    · refine .inr fun envio' hk' => ⟨fun hestado' => ?_, envio, List.mem_of_getElem? hk, hestado⟩
      exact (h.envios.ajenos k' k envio' envio hk' hk hne).codigos codigo hestado' hestado
  · refine hretiene.mono (hretiene.copias.mono hr fun copia hcopia hregenera => ?_) (siguen_pasa hpasa) hcodigos
      fun k lote hespera x' hx' => ?_
    · obtain ⟨copia', perfil, mensajes, e, rfl, hcid⟩ := hregenera
      exact hok.2 x hx (List.mem_map.mpr ⟨copia, hcopia, hcid⟩)
    · obtain ⟨x₀, hx₀, hidentidad⟩ := hr.paquete x' hx'
      simp only [SiatPackage.identidad, Prod.mk.injEq] at hidentidad
      exact .inl ⟨x₀, hx₀, hidentidad.2.2.2⟩

/-- What happens outside keeps the packages in order, and what the processors rely on. -/
theorem keeps_suceder {S : Sessions EstadoFiscal PuntoSiat} (hS : Workers.Keeps PaquetesEnOrden Retiene S)
    {suceso : SucesoSin} (h : suceder S.committed suceso = some s') :
    Workers.Keeps PaquetesEnOrden Retiene { S with committed := s' } := by
  have hr := respeta_suceder h
  refine ⟨hS.store.mono hr (siguen_suceder h) ?_ (fun _ _ _ _ hno => hno), fun x hx => ?_⟩
  · rcases suceder_paquetes h with heq | ⟨k, envio, estado, validados, hk, hsirve, heq⟩
    · exact heq ▸ hS.store.envios
    · exact heq ▸ hS.store.envios.set hk hsirve validados
  · refine (hS.worker x hx).mono ((hS.worker x hx).copias.mono hr fun _ _ hno => hno) (siguen_suceder h)
      (fun x hx => ?_) fun k lote hespera x' hx' => ?_
    · obtain ⟨envio, henvio, hestado, -⟩ := hS.store.paquete x hx
      exact ⟨envio, henvio, hestado⟩
    · obtain ⟨x₀, hx₀, hidentidad⟩ := hr.paquete x' hx'
      simp only [SiatPackage.identidad, Prod.mk.injEq] at hidentidad
      exact .inl ⟨x₀, hx₀, hidentidad.2.2.2⟩

/-- What the invariant says of the packages. -/
theorem PaquetesEnOrden.cuadran (h : PaquetesEnOrden s) : Cuadran s where
  enUno i j envio envio' hi hj hestado hestado' hne := by
    refine (h.envios.ajenos i j envio envio' hi hj hne).lotes (fun heq => ?_) fun heq => ?_
    · rw [heq] at hestado
      cases hestado
    · rw [heq] at hestado'
      cases hestado'
  cantidad x hx := by
    obtain ⟨envio, -, -, hcantidad, hlote, hfilas⟩ := h.paquete x hx
    have hcond : ∀ d ∈ s.documents, decide (d.packageId = some x.id) = true ↔ d.id ∈ envio.lote.map HasKey.key := by
      intro d hd
      rw [decide_eq_true_eq]
      exact hfilas d hd
    have harchivos := hlote.archivos hcond
    have hlength := congrArg List.length harchivos
    unfold empaquetarFacturas at hlength
    rw [List.length_map, List.length_map] at hlength
    rw [hcantidad, hlength]
  archivos x hx := by
    obtain ⟨envio, henvio, hestado, -, hlote, hfilas⟩ := h.paquete x hx
    refine ⟨⟨envio, henvio, hestado⟩, fun otro hotro hestado' => ?_⟩
    obtain ⟨i, hi⟩ := List.mem_iff_getElem?.mp henvio
    obtain ⟨j, hj⟩ := List.mem_iff_getElem?.mp hotro
    have hij : i = j := by
      by_contra hne
      exact (h.envios.ajenos i j envio otro hi hj hne).codigos _ hestado hestado'
    subst hij
    obtain rfl : envio = otro := Option.some.inj (hi.symm.trans hj)
    rw [h.envios.archivos envio henvio]
    refine (hlote.archivos fun d hd => ?_).symm
    rw [decide_eq_true_eq]
    exact hfilas d hd

end Packages

/-! ## Two runs -/

section Runs

/-- An invoice is issued without a connection, and its event is closed and registered. -/
def facturaEnEvento : List (WorkerAct TareaSiat EntradaSiat SucesoSin) :=
  [.start 0 (.preparar 1), .go 0 (.enLinea "C1".toList (some exampleCufd) (some true)), .die 0,
    .start 1 (.preparar 1), .go 1 (.fueraDeLinea "C1".toList), .go 1 .sigue, .go 1 .sigue,
    .go 1 (.documento (exampleEmision 5).documento), .go 1 .sigue,
    .start 2 (.despachar 1), .go 2 .sigue, .go 2 (.cufd (some exampleCufd)),
    .go 2 (.llamada (.ok { respuestaVacia with codigoRecepcionEventoSignificativo := some "77".toList })), .die 2]

/-- A processor sends the package of the event, which the authority takes in. -/
def enviaPaquete (k : Nat) (codigo : Text) : List (WorkerAct TareaSiat EntradaSiat SucesoSin) :=
  [.start 2 (.despachar 1), .go 2 .sigue, .go 2 .sigue, .outside (.sirvePaquete k (some codigo))]

/-- Its answer, and the package is recorded. -/
def registraPaquete (codigo : Text) : List (WorkerAct TareaSiat EntradaSiat SucesoSin) :=
  [.go 2 (.llamada (.ok { respuestaVacia with
      codigoEstado := some CODIGO_ESTADO.PENDIENTE, codigoRecepcion := some codigo })), .go 2 .sigue]

/-- The answer for the package is lost, and the next pass sends it again. -/
def paqueteDosVeces : Sessions EstadoFiscal PuntoSiat :=
  (siatMachine exampleSiat).after ⟨exampleFiscal, []⟩ (facturaEnEvento ++ enviaPaquete 0 "P1".toList ++ [.die 2] ++
    enviaPaquete 1 "P2".toList)

/-- The answer comes, and the package is recorded. -/
def paqueteUnaVez : Sessions EstadoFiscal PuntoSiat :=
  (siatMachine exampleSiat).afterIf EnviaUnaVez ⟨exampleFiscal, []⟩ (facturaEnEvento ++ enviaPaquete 0 "P1".toList ++
    registraPaquete "P1".toList)

/-- What the two runs leave. -/
theorem paquetes_recibidos :
    (∃ envio ∈ paqueteDosVeces.committed.paquetes[0]?, ∃ envio' ∈ paqueteDosVeces.committed.paquetes[1]?,
      (envio.estado.esRecibido = true ∧ envio'.estado.esRecibido = true) ∧
        ∃ d ∈ envio.lote, ∃ d' ∈ envio'.lote, d.id = d'.id) ∧
      ∃ x ∈ paqueteUnaVez.committed.packages, x.cantidadFacturas = 1 := by
  decide +kernel

end Runs

end AtlasErp
