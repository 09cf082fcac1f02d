import AtlasErp.Fiscal.Packages

/-! # The verdicts of a package

What the answer for a package does to each of its documents.

- `siatStatus_aplicarVeredictos`, `find?_aplicarResultado`: a document gets the verdict of its position;
- `VeredictosFundados`: a document is accepted or rejected on what the authority said of it;
- `veredictosFundados_iff`: exactly when, for every package and every answer. -/

namespace AtlasErp

open Lib CODIGO_ESTADO

/-! ## What is said of a document -/

section Statement

variable (paquete : SiatPackage) (codigoEstado : Option Nat) (mensajes : List SiatMensaje) (indice : Nat)

/-- The messages for a position. -/
def propios : List SiatMensaje := mensajes.filter fun m => m.numeroArchivo = some indice

/-- A message that is not a warning, neither by its flag nor by its code. -/
def SiatMensaje.esError (m : SiatMensaje) : Bool := m.advertencia = false ∧ accionPara m.codigo ≠ .advertencia

def errores : List SiatMensaje := (propios mensajes indice).filter (·.esError)

/-- The package was validated, or validated with observations. -/
def PaqueteConforme : Prop := codigoEstado = some VALIDADA ∨ codigoEstado = some OBSERVADA

/-- The package is rejected, or an error of the document is. -/
def RechazoDeclarado : Prop :=
  codigoEstado = some RECHAZADA ∨ ∃ m ∈ errores mensajes indice, accionPara m.codigo = .documento

/-- The status in which the answer leaves a document of the package. -/
def dejaEn (documentos : List DocumentoSiat) (d : DocumentoSiat) : SiatStatus :=
  (aplicarVeredictos paquete codigoEstado mensajes documentos d).siatStatus

/-- **The verdicts are sound**, document by document. -/
structure VeredictosFundados (documentos : List DocumentoSiat) : Prop where
  conforme : ∀ indice d, documentos[indice]? = some d →
    dejaEn paquete codigoEstado mensajes documentos d ∈ [SiatStatus.accepted, .observed] →
      PaqueteConforme codigoEstado ∧ errores mensajes indice = []
  rechazo : ∀ indice d, documentos[indice]? = some d →
    dejaEn paquete codigoEstado mensajes documentos d = .rejected → RechazoDeclarado codigoEstado mensajes indice
  /-- One more warning for the document does not accept it. -/
  aviso : ∀ indice d, documentos[indice]? = some d → dejaEn paquete codigoEstado mensajes documentos d = .rejected →
    ∀ antes despues m, mensajes = antes ++ despues → m.numeroArchivo = some indice → m.esError = false →
      dejaEn paquete codigoEstado (antes ++ m :: despues) documentos d ∉ [SiatStatus.accepted, .observed]

/-- What is said of a position decides it: an error that is of the document, or in a package that is rejected, or no
error in a package that is not. -/
def Decidido : Prop :=
  if errores mensajes indice = [] then PaqueteConforme codigoEstado else RechazoDeclarado codigoEstado mensajes indice

end Statement

/-! ## Each document gets the verdict of its position -/

section Verdicts

variable {paquete : SiatPackage} {codigoEstado : Option Nat} {mensajes : List SiatMensaje} {indice : Nat}
  {documentos : List DocumentoSiat} {d : DocumentoSiat}

/-- Verdicts for other documents change nothing. -/
theorem foldl_veredictos_of_ne {copias : List (DocumentoSiat × Nat)} {fila : DocumentoSiat}
    (h : ∀ copia ∈ copias, copia.1.id ≠ fila.id) :
    copias.foldl (fun fila (copia, indice) =>
      if copia.id = fila.id then aplicarVeredicto paquete codigoEstado mensajes indice copia fila else fila) fila =
        fila := by
  induction copias with
  | nil => rfl
  | cons copia copias ih =>
    rw [List.foldl_cons]
    dsimp only
    rw [if_neg (h copia List.mem_cons_self)]
    exact ih fun copia' hcopia' => h copia' (List.mem_cons_of_mem _ hcopia')

theorem aplicarVeredictos_getElem? (hnodup : (documentos.map (·.id)).Nodup) (hd : documentos[indice]? = some d) :
    aplicarVeredictos paquete codigoEstado mensajes documentos d =
      aplicarVeredicto paquete codigoEstado mensajes indice d d := by
  obtain ⟨hlt, hget⟩ := List.getElem?_eq_some_iff.mp hd
  obtain ⟨antes, despues, rfl, rfl⟩ : ∃ antes despues, documentos = antes ++ d :: despues ∧ antes.length = indice :=
    ⟨documentos.take indice, documentos.drop (indice + 1), by rw [← hget]; simp, by simp [Nat.le_of_lt hlt]⟩
  rw [List.map_append, List.map_cons] at hnodup
  obtain ⟨-, hdespues, hantes⟩ := List.nodup_append.mp hnodup
  have hfst : ∀ {copia : DocumentoSiat × Nat} {l : List DocumentoSiat} {k : Nat}, copia ∈ l.zipIdx k →
      copia.1.id ∈ l.map (·.id) := fun hcopia => List.mem_map_of_mem (List.fst_mem_of_mem_zipIdx hcopia)
  unfold aplicarVeredictos
  rw [List.zipIdx_append, List.foldl_append, foldl_veredictos_of_ne fun copia hcopia hid =>
    hantes _ (hfst hcopia) _ List.mem_cons_self hid, List.zipIdx_cons, List.foldl_cons]
  simp only [if_true, Nat.zero_add]
  exact foldl_veredictos_of_ne fun copia hcopia hid => (List.nodup_cons.mp hdespues).1 (hid ▸ hfst hcopia)

/-- **The status of a document** is the verdict of its position. -/
theorem dejaEn_getElem? (hnodup : (documentos.map (·.id)).Nodup) (hd : documentos[indice]? = some d) :
    dejaEn paquete codigoEstado mensajes documentos d = (veredicto codigoEstado mensajes indice).siatStatus := by
  unfold dejaEn
  rw [aplicarVeredictos_getElem? hnodup hd]
  exact cambio_of_loaded _ _

theorem nodup_id_documentosPorNumero (s : EstadoFiscal) (cond : DocumentoSiat → Bool) :
    ((documentosPorNumero s cond).map (·.id)).Nodup :=
  ((List.perm_insertionSort porNumero _).map _).nodup_iff.mpr (s.documents.nodup.sublist (List.filter_sublist.map _))

/-- **What the transaction writes** in the row of a document of the package. -/
theorem find?_aplicarResultado {s s' : EstadoFiscal} (h : aplicarResultado s paquete documentos codigoEstado mensajes =
    some s') (hfila : d ∈ s.documents) :
    s'.documents.find? d.id = some (aplicarVeredictos paquete codigoEstado mensajes documentos d) := by
  obtain ⟨rfl, -⟩ := conDocumentos_eq_some h
  have hkey : ∀ d, HasKey.key (aplicarVeredictos paquete codigoEstado mensajes documentos d) = HasKey.key d := fun d =>
    congrArg Prod.fst (identidad_aplicarVeredictos d paquete codigoEstado mensajes documentos)
  exact Table.find?_updateWhere hkey (Table.find?_key hfila)

/-! ## What a verdict is given on -/

/-- The verdict, by the errors first. -/
theorem veredicto_eq : veredicto codigoEstado mensajes indice =
    if errores mensajes indice ≠ [] then .rejected
    else if propios mensajes indice ≠ [] then .observed
    else if codigoEstado = some RECHAZADA then .rejected
    else .accepted := by
  have herrores : errores mensajes indice ≠ [] → propios mensajes indice ≠ [] := fun h hpropios =>
    h (by rw [errores, hpropios, List.filter_nil])
  unfold veredicto
  change (if codigoEstado = some RECHAZADA ∧ (propios mensajes indice).length = 0 then EstadoFinal.rejected
    else if 0 < (errores mensajes indice).length then .rejected
    else if 0 < (propios mensajes indice).length then .observed else .accepted) = _
  simp only [List.length_eq_zero_iff, List.length_pos_iff]
  by_cases hpropios : propios mensajes indice = []
  · simp [hpropios, not_imp_not.mp herrores hpropios]
  · simp [hpropios]

theorem veredicto_rejected_iff : veredicto codigoEstado mensajes indice = .rejected ↔
    errores mensajes indice ≠ [] ∨ propios mensajes indice = [] ∧ codigoEstado = some RECHAZADA := by
  rw [veredicto_eq]
  split <;> [skip; split <;> [skip; split]] <;> simp_all

theorem siatStatus_rejected_iff {e : EstadoFinal} : e.siatStatus = .rejected ↔ e = .rejected := by
  cases e <;> simp [EstadoFinal.siatStatus]

/-- A verdict accepts what it does not reject. -/
theorem veredicto_conforme_iff :
    (veredicto codigoEstado mensajes indice).siatStatus ∈ [SiatStatus.accepted, .observed] ↔
      veredicto codigoEstado mensajes indice ≠ .rejected := by
  rw [veredicto_eq]
  split <;> [skip; split <;> [skip; split]] <;> simp [EstadoFinal.siatStatus]

/-- One more warning is no error. -/
theorem errores_insert {antes despues : List SiatMensaje} {m : SiatMensaje} (hm : m.esError = false) :
    errores (antes ++ m :: despues) indice = errores (antes ++ despues) indice := by
  simp [errores, propios, List.filter_filter, hm]

theorem propios_insert {antes despues : List SiatMensaje} {m : SiatMensaje} (hm : m.numeroArchivo = some indice) :
    propios (antes ++ m :: despues) indice ≠ [] :=
  List.ne_nil_of_mem (List.mem_filter.mpr ⟨List.mem_append_right _ List.mem_cons_self, by simpa using hm⟩)

theorem not_paqueteConforme_of_rechazada (h : codigoEstado = some RECHAZADA) : ¬ PaqueteConforme codigoEstado := by
  subst h
  unfold PaqueteConforme
  decide

/-- The verdict of a position that is decided. -/
theorem Decidido.veredicto_rejected_iff (h : Decidido codigoEstado mensajes indice) :
    veredicto codigoEstado mensajes indice = .rejected ↔ errores mensajes indice ≠ [] := by
  rw [AtlasErp.veredicto_rejected_iff]
  refine ⟨fun hrejected => ?_, .inl⟩
  intro hnone
  have hconforme : PaqueteConforme codigoEstado := by rwa [Decidido, if_pos hnone] at h
  rcases hrejected with herror | ⟨-, hrechazada⟩
  · exact herror hnone
  · exact not_paqueteConforme_of_rechazada hrechazada hconforme

/-- **Sound verdicts**, for any documents of different ids. -/
theorem veredictosFundados_of_nodup (hnodup : (documentos.map (·.id)).Nodup) :
    VeredictosFundados paquete codigoEstado mensajes documentos ↔
      ∀ indice < documentos.length, Decidido codigoEstado mensajes indice := by
  constructor
  · intro h indice hlt
    have hd := List.getElem?_eq_getElem hlt
    have hdeja : dejaEn paquete codigoEstado mensajes documentos documentos[indice] =
        (veredicto codigoEstado mensajes indice).siatStatus := dejaEn_getElem? hnodup hd
    unfold Decidido
    split
    · by_cases hrejected : veredicto codigoEstado mensajes indice = .rejected
      · -- One warning more, and the document is observed.
        have haviso := h.aviso indice _ hd (hdeja.trans (siatStatus_rejected_iff.mpr hrejected)) mensajes []
          ⟨2000, true, some indice⟩ (List.append_nil _).symm rfl rfl
        rw [dejaEn_getElem? hnodup hd, veredicto_conforme_iff, not_not, AtlasErp.veredicto_rejected_iff,
          errores_insert rfl, List.append_nil] at haviso
        rcases haviso with herror | ⟨hpropios, -⟩
        · contradiction
        · exact absurd hpropios (propios_insert rfl)
      · exact (h.conforme indice _ hd (hdeja ▸ veredicto_conforme_iff.mpr hrejected)).1
    · exact h.rechazo indice _ hd (hdeja.trans (siatStatus_rejected_iff.mpr (veredicto_rejected_iff.mpr (.inl ‹_›))))
  · intro h
    have hdecidido : ∀ {indice d}, documentos[indice]? = some d → Decidido codigoEstado mensajes indice := fun hd =>
      h _ (List.getElem?_eq_some_iff.mp hd).1
    refine ⟨fun indice d hd hstatus => ?_, fun indice d hd hstatus => ?_,
      fun indice d hd hstatus antes despues m hmensajes hnumero hm => ?_⟩
    · rw [dejaEn_getElem? hnodup hd, veredicto_conforme_iff, ne_eq,
        (hdecidido hd).veredicto_rejected_iff, not_not] at hstatus
      have hconforme := hdecidido hd
      rw [Decidido, if_pos hstatus] at hconforme
      exact ⟨hconforme, hstatus⟩
    · rw [dejaEn_getElem? hnodup hd, siatStatus_rejected_iff, (hdecidido hd).veredicto_rejected_iff] at hstatus
      have hrechazo := hdecidido hd
      rwa [Decidido, if_neg hstatus] at hrechazo
    · rw [dejaEn_getElem? hnodup hd, siatStatus_rejected_iff, (hdecidido hd).veredicto_rejected_iff] at hstatus
      rw [dejaEn_getElem? hnodup hd, veredicto_conforme_iff, not_not, AtlasErp.veredicto_rejected_iff]
      exact .inl (by rwa [errores_insert hm, ← hmensajes])

end Verdicts

/-! ## The answer for a package -/

section Answer

variable (s : EstadoFiscal) (paquete : SiatPackage) (codigoEstado : Option Nat) (mensajes : List SiatMensaje)

/-- The documents of a package, as the processor loads them. -/
def documentosDe : List DocumentoSiat := documentosPorNumero s (·.packageId = some paquete.id)

/-- **When the verdicts of a package are sound**: when what is said of each position decides it.  The rows are left in
the statuses that the statement is about. -/
theorem veredictosFundados_iff :
    (∀ s', aplicarResultado s paquete (documentosDe s paquete) codigoEstado mensajes = some s' →
      ∀ d ∈ documentosDe s paquete, (s'.documents.find? d.id).map (·.siatStatus) =
        some (dejaEn paquete codigoEstado mensajes (documentosDe s paquete) d)) ∧
    (VeredictosFundados paquete codigoEstado mensajes (documentosDe s paquete) ↔
      ∀ indice < (documentosDe s paquete).length, Decidido codigoEstado mensajes indice) := by
  refine ⟨fun s' haplicado d hd => ?_, veredictosFundados_of_nodup (nodup_id_documentosPorNumero s _)⟩
  rw [find?_aplicarResultado haplicado (mem_documentosPorNumero.mp hd).1]
  rfl

/-- The package of one document that was sent for an event, as it was recorded. -/
def paqueteRegistrado : EstadoFiscal :=
  ((siatMachine exampleSiat).after ⟨exampleFiscal, []⟩ (facturaEnEvento ++ enviaPaquete 0 "P1".toList ++
    registraPaquete "P1".toList)).committed

/-- A code that no table knows rejects the document of a package that was observed. -/
theorem veredictosFundados_counterexample : ¬ ∀ s paquete codigoEstado mensajes s', paquete ∈ s.packages →
    aplicarResultado s paquete (documentosDe s paquete) codigoEstado mensajes = some s' →
      VeredictosFundados paquete codigoEstado mensajes (documentosDe s paquete) := by
  intro h
  have hrun : ∃ paquete ∈ paqueteRegistrado.packages, ∃ d ∈ (documentosDe paqueteRegistrado paquete)[0]?,
      (aplicarResultado paqueteRegistrado paquete (documentosDe paqueteRegistrado paquete) (some OBSERVADA)
        [⟨4711, false, some 0⟩]).isSome = true ∧
      dejaEn paquete (some OBSERVADA) [⟨4711, false, some 0⟩] (documentosDe paqueteRegistrado paquete) d = .rejected := by
    decide +kernel
  obtain ⟨paquete, hpaquete, d, hd, haplicado, hrejected⟩ := hrun
  obtain ⟨s', haplicado⟩ := Option.isSome_iff_exists.mp haplicado
  have hrechazo := (h _ _ _ _ s' hpaquete haplicado).rechazo 0 d hd hrejected
  rcases hrechazo with hestado | ⟨m, hm, hclase⟩
  · exact absurd hestado (by decide)
  · have hnone : ∀ m ∈ errores [⟨4711, false, some 0⟩] 0, accionPara m.codigo ≠ .documento := by decide +kernel
    exact hnone m hm hclase

end Answer

end AtlasErp
