import AtlasErp.Fiscal.Copies

/-! # The numbers of the documents that are issued

- `NumerosEmitidos`: no two documents of an issuer have one number, and none is past its series;
- `numerosEmitidos_of_reachable`: so it is in every reachable state. -/

namespace AtlasErp

open Lib

section IssuedNumbers

variable {c : SiatConfig} {s s' : EstadoFiscal} {p : PuntoSiat} {q : Option PuntoSiat}

/-- A document of an issuer has a number of its series. -/
def ConNumero (s : EstadoFiscal) (d : DocumentoSiat) : Prop :=
  ∃ serie ∈ s.series, ∃ n, d.issuerProfileId = some serie.issuerProfileId ∧ d.numeroFactura = some n ∧
    n ≤ serie.lastNumber

/-- Numbers are of the series, each once. -/
structure NumerosEmitidos (s : EstadoFiscal) : Prop where
  numero : ∀ d ∈ s.documents, ConNumero s d
  unico : ∀ d ∈ s.documents, ∀ d' ∈ s.documents, d.issuerProfileId = d'.issuerProfileId →
    d.numeroFactura = d'.numeroFactura → d = d'

/-- A document that is inserted has the next number. -/
def TieneElSiguiente (p : PuntoSiat) (s : EstadoFiscal) : Prop :=
  match p with
  | .insertada fila => ∃ serie ∈ s.series, fila.issuerProfileId = some serie.issuerProfileId ∧
      fila.numeroFactura = some (serie.lastNumber + 1)
  | _ => True

/-- The series after a step: that of the issuer of an emission that commits went on by one. -/
theorem series_pasa (h : Pasa c s p s' q) :
    s'.series = s.series ∨ ∃ fila, p = .insertada fila ∧
      s'.series = s.series.updateWhere (fun r => some (HasKey.key r) = fila.issuerProfileId) SerieFiscal.siguiente := by
  cases h with
  | enLinea hvigente | cufdPedido _ hvigente =>
    rcases cufdVigente_eq_some hvigente with ⟨rfl, -⟩ | ⟨r, -, -, hguardado⟩
    · exact .inl rfl
    · obtain rfl : (guardarCufd s _ r).1 = s' := congrArg Prod.fst hguardado
      exact .inl rfl
  | creado hcreado =>
    obtain ⟨rfl, -, -⟩ := crearEvento_eq_some hcreado
    exact .inl rfl
  | confirmada hconfirmada =>
    obtain ⟨rfl, -⟩ := conDocumentos_eq_some hconfirmada
    exact .inr ⟨_, rfl, rfl⟩
  | reclamada hescrita | adelantada hescrita | aplicadoFinal hescrita | aplicadoError hescrita
  | regenerado _ _ hescrita | paqueteRegistrado hescrita | validado hescrita =>
    obtain ⟨rfl, -⟩ := conDocumentos_eq_some hescrita
    exact .inl rfl
  | _ => exact .inl rfl

/-- A number of a series stays one. -/
theorem conNumero_pasa {d d' : DocumentoSiat} (hd : ConNumero s d) (hidentidad : d'.identidad = d.identidad)
    (h : Pasa c s p s' q) : ConNumero s' d' := by
  obtain ⟨serie, hserie, n, hissuer, hnumero, hle⟩ := hd
  simp only [DocumentoSiat.identidad, Prod.mk.injEq] at hidentidad
  rcases series_pasa h with heq | ⟨fila, -, heq⟩
  · exact ⟨serie, heq ▸ hserie, n, hidentidad.2.1.trans hissuer, hidentidad.2.2.1.trans hnumero, hle⟩
  · obtain ⟨serie', hserie', hmismo⟩ := Table.exists_updateWhere (f := SerieFiscal.siguiente)
      (p := fun r => some (HasKey.key r) = fila.issuerProfileId)
      (R := fun r r' => r'.issuerProfileId = r.issuerProfileId ∧ r.lastNumber ≤ r'.lastNumber) (fun _ => rfl)
      (fun _ => ⟨rfl, le_rfl⟩) (fun r => ⟨rfl, Nat.le_succ r.lastNumber⟩) hserie
    exact ⟨serie', heq ▸ hserie', n, hidentidad.2.1.trans (hissuer.trans (congrArg some hmismo.1.symm)),
      hidentidad.2.2.1.trans hnumero, hle.trans hmismo.2⟩

theorem numerosEmitidos_pasa (h : NumerosEmitidos s) (hp : TieneElSiguiente p s) (hpasa : Pasa c s p s' q) :
    NumerosEmitidos s' := by
  have horigen := documentos_pasa hpasa
  -- a document that commits has a number that no other one of its issuer has
  have hnuevo : ∀ {d : DocumentoSiat} {fila : FiscalDocument}, d ∈ s.documents → p = .insertada fila →
      d.issuerProfileId = fila.issuerProfileId → d.numeroFactura = fila.numeroFactura → False := by
    rintro d fila hd rfl hissuer hnumero
    obtain ⟨serie, hserie, n, hi, hn, hle⟩ := h.numero d hd
    obtain ⟨serie', hserie', hi', hn'⟩ := hp
    have hkey : serie.issuerProfileId = serie'.issuerProfileId :=
      Option.some.inj (hi.symm.trans (hissuer.trans hi'))
    obtain rfl : serie = serie' := Table.eq_of_key_eq hserie hserie' hkey
    have heq : n = serie.lastNumber + 1 := Option.some.inj (hn.symm.trans (hnumero.trans hn'))
    omega
  refine ⟨fun d' hd' => ?_, fun d₁ hd₁ d₂ hd₂ hissuer hnumero => ?_⟩
  · rcases horigen d' hd' with ⟨d, hd, hescritura⟩ | ⟨fila, rfl, rfl⟩
    · exact conNumero_pasa (h.numero d hd) hescritura.identidad hpasa
    · obtain ⟨serie, hserie, hi, hn⟩ := hp
      rcases series_pasa hpasa with heq | ⟨fila', hfila', heq⟩
      · -- a commit takes the number
        cases hpasa with
        | confirmada hconfirmada =>
          obtain ⟨rfl, -⟩ := conDocumentos_eq_some hconfirmada
          refine ⟨serie.siguiente, (Table.mem_updateWhere (f := SerieFiscal.siguiente) fun _ => rfl).mpr
            ⟨serie, hserie, if_pos (decide_eq_true hi.symm)⟩, _, hi, hn, le_rfl⟩
        | fin =>
          exact absurd hd' fun hmem => absurd rfl (Nat.ne_of_lt (Table.key_lt_nextKey hmem))
      · cases hfila'
        refine ⟨serie.siguiente, heq ▸ (Table.mem_updateWhere (f := SerieFiscal.siguiente) fun _ => rfl).mpr
          ⟨serie, hserie, if_pos (decide_eq_true hi.symm)⟩, _, hi, hn, le_rfl⟩
  · rcases horigen d₁ hd₁ with ⟨e₁, he₁, hescritura₁⟩ | ⟨fila₁, hp₁, rfl⟩ <;>
      rcases horigen d₂ hd₂ with ⟨e₂, he₂, hescritura₂⟩ | ⟨fila₂, hp₂, rfl⟩
    · have hid₁ := hescritura₁.identidad
      have hid₂ := hescritura₂.identidad
      simp only [DocumentoSiat.identidad, Prod.mk.injEq] at hid₁ hid₂
      have heq : e₁ = e₂ := h.unico e₁ he₁ e₂ he₂ (hid₁.2.1.symm.trans (hissuer.trans hid₂.2.1))
        (hid₁.2.2.1.symm.trans (hnumero.trans hid₂.2.2.1))
      exact Table.eq_of_key_eq hd₁ hd₂ (hid₁.1.trans ((congrArg (·.id) heq).trans hid₂.1.symm))
    · have hid₁ := hescritura₁.identidad
      simp only [DocumentoSiat.identidad, Prod.mk.injEq] at hid₁
      exact (hnuevo he₁ hp₂ (hid₁.2.1.symm.trans hissuer) (hid₁.2.2.1.symm.trans hnumero)).elim
    · have hid₂ := hescritura₂.identidad
      simp only [DocumentoSiat.identidad, Prod.mk.injEq] at hid₂
      exact (hnuevo he₂ hp₁ (hid₂.2.1.symm.trans hissuer.symm) (hid₂.2.2.1.symm.trans hnumero.symm)).elim
    · rw [hp₁] at hp₂
      cases hp₂
      rfl

theorem tieneElSiguiente_pasa (h : Pasa c s p s' q) : ∀ p' ∈ q, TieneElSiguiente p' s' := by
  intro p' hp'
  cases h with
  | @emitida preparada documento fila hemitida =>
    cases hp'
    obtain ⟨totales, serie, hserie, hfila⟩ := emitirEnTransaccion_eq_ok hemitida
    obtain ⟨cuf, -, -, -, hissuer, hnumero, -⟩ := filaFiscal_eq_ok hfila
    obtain ⟨hmem, hkey⟩ := Table.find?_eq_some.mp hserie
    exact ⟨serie, hmem, hissuer.trans (congrArg some hkey.symm), hnumero⟩
  | fin | confirmada | reclamada | adelantada | aplicadoFinal | aplicadoError | regenerado | despachado | validado =>
    cases hp'
  | @habia _ _ _ para _ _ | @creado _ _ _ para _ _ _ | @habiaOtro _ _ para _ _ =>
    cases hp'
    cases para <;> trivial
  | _ =>
    cases hp'
    trivial

/-- The next number stays the next one while the row of the series is held. -/
theorem tieneElSiguiente_estable {x : PuntoSiat} (hx : TieneElSiguiente x s) (h : Pasa c s p s' q)
    (hlibre : ∀ k ∈ p.recursos, k ∉ x.recursos) : TieneElSiguiente x s' := by
  cases x with
  | insertada fila =>
    obtain ⟨serie, hserie, hissuer, hnumero⟩ := hx
    rcases series_pasa h with heq | ⟨fila', rfl, heq⟩
    · exact ⟨serie, heq ▸ hserie, hissuer, hnumero⟩
    · have hne : ¬some (HasKey.key serie) = fila'.issuerProfileId := fun hkey => by
        refine hlibre (.serie fila'.issuerProfileId) List.mem_cons_self ?_
        rw [← hkey]
        exact List.mem_singleton.mpr (congrArg RecursoSiat.serie hissuer.symm)
      refine ⟨serie, heq ▸ (Table.mem_updateWhere (f := SerieFiscal.siguiente) fun _ => rfl).mpr
        ⟨serie, hserie, if_neg ?_⟩, hissuer, hnumero⟩
      simpa using hne
  | _ => trivial

/-- **Numbers are unique** in every reachable state. -/
theorem numerosEmitidos_of_reachable
    {ok : Sessions EstadoFiscal PuntoSiat → WorkerAct TareaSiat EntradaSiat SucesoSin → Prop}
    {S : Sessions EstadoFiscal PuntoSiat} (h : (siatMachine c).Reachable ok S) : NumerosEmitidos S.committed := by
  have hkeeps : Workers.Keeps NumerosEmitidos TieneElSiguiente S := by
    refine Workers.keeps (G := (siatWorkers c).Exclusive) ?_ (fun s hinit => ?_) (fun _ hS => Workers.exclusive hS) h
    · exact {
        start := fun _ _ hstart => by
          cases empieza_of_empezar hstart <;> trivial
        next := fun _ hS hfind _ hnext =>
          have hpasa := pasa_of_next hnext
          ⟨numerosEmitidos_pasa hS.store (hS.at hfind) hpasa, tieneElSiguiente_pasa hpasa⟩
        stable := fun {S w answer p store q} hex hS hfind _ hnext x hx => by
          obtain ⟨hmem, hne⟩ := Sessions.mem_others.mp hx
          exact tieneElSiguiente_estable (hS.worker x hmem) (pasa_of_next hnext)
            (hex _ (S.mem_of_find? hfind) x hmem hne.symm)
        outside := fun {S event store} _ hS _ hsuceso => by
          obtain ⟨hseries, hdocuments, -⟩ := suceder_tablas hsuceso
          refine ⟨⟨fun d hd => ?_, fun d hd d' hd' => ?_⟩, fun x hx => ?_⟩
          · obtain ⟨serie, hserie, hnumero⟩ := hS.store.numero d (hdocuments ▸ hd)
            exact ⟨serie, hseries ▸ hserie, hnumero⟩
          · exact hS.store.unico d (hdocuments ▸ hd) d' (hdocuments ▸ hd')
          · have hworker := hS.worker x hx
            obtain ⟨w, x⟩ := x
            cases x with
            | insertada fila =>
              obtain ⟨serie, hserie, hnumero⟩ := hworker
              exact ⟨serie, hseries ▸ hserie, hnumero⟩
            | _ => trivial }
    · have hnone : ∀ d, d ∉ s.documents := fun d hd => by
        rw [hinit.1] at hd
        exact Table.not_mem_empty d hd
      exact ⟨fun d hd => absurd hd (hnone d), fun d hd => absurd hd (hnone d)⟩
  exact hkeeps.store

end IssuedNumbers

end AtlasErp
