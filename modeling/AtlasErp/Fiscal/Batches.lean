import AtlasErp.Fiscal.IssuedNumbers

/-! # Batches

The documents of a condition, by number, and the batches that a processor sends them in.

- `flatten_lotes`: the batches are the documents, in their order;
- `lotes_particion`: **each batch can be sent**, and none of them is empty;
- `LoteVigente`: the copies of a batch still have the number and the XML of their rows;
- `LoteVigente.archivos`: the documents of a condition are then the files of the batch, one by one. -/

namespace AtlasErp

open Lib

/-! ## Batches -/

section Batches

variable {c : SiatConfig} {s s' : EstadoFiscal}

theorem porNumero_trans {a b d : DocumentoSiat} (hab : porNumero a b) (hbd : porNumero b d) : porNumero a d := by
  unfold porNumero at *
  cases ha : a.numeroFactura <;> cases hb : b.numeroFactura <;> cases hd : d.numeroFactura <;>
    simp_all
  exact hab.trans hbd

theorem porNumero_total (a b : DocumentoSiat) : porNumero a b ∨ porNumero b a := by
  unfold porNumero
  cases a.numeroFactura <;> cases b.numeroFactura <;> simp
  exact le_total _ _

instance : Std.Total porNumero := ⟨porNumero_total⟩

instance : IsTrans DocumentoSiat porNumero := ⟨fun _ _ _ => porNumero_trans⟩

/-- The order by number tells documents with different numbers apart. -/
theorem porNumero_antisymm {a b : DocumentoSiat} (hab : porNumero a b) (hba : porNumero b a) :
    a.numeroFactura = b.numeroFactura := by
  unfold porNumero at *
  cases ha : a.numeroFactura <;> cases hb : b.numeroFactura <;> simp_all
  exact le_antisymm hab hba

/-- No document is lost or put twice in the batches. -/
theorem flatten_lotesDesde (actual : List DocumentoSiat) (bytes : Nat) (documentos : List DocumentoSiat) :
    (lotesDesde c actual bytes documentos).flatten = actual ++ documentos := by
  induction documentos generalizing actual bytes with
  | nil =>
    unfold lotesDesde
    split
    · simp [*]
    · simp
  | cons documento documentos ih =>
    unfold lotesDesde
    dsimp only
    split
    · rw [List.flatten_cons, ih]
      rfl
    · rw [ih, List.append_assoc]
      rfl

theorem flatten_lotes (documentos : List DocumentoSiat) : (lotes c documentos).flatten = documentos :=
  flatten_lotesDesde [] 0 documentos

/-- The bytes that the documents of a batch may take: twice their compressed lengths. -/
def pesoLote (c : SiatConfig) (lote : List DocumentoSiat) : Nat := (lote.map fun d => c.gzipLength d.xml * 2).sum

/-- A batch that can be sent: some documents but not too many, and within the weight unless there is only one. -/
structure LoteAdmisible (c : SiatConfig) (lote : List DocumentoSiat) : Prop where
  noVacio : lote ≠ []
  pocos : lote.length ≤ MAX_FACTURAS_PAQUETE
  peso : pesoLote c lote ≤ c.packageMaxBytes ∨ lote.length = 1

/-- What the loop keeps of the batch that it fills. -/
structure LoteAbierto (c : SiatConfig) (actual : List DocumentoSiat) (bytes : Nat) : Prop where
  bytes_eq : bytes = pesoLote c actual
  pocos : actual.length ≤ MAX_FACTURAS_PAQUETE
  peso : bytes ≤ c.packageMaxBytes ∨ actual.length ≤ 1

theorem LoteAbierto.cerrar {actual : List DocumentoSiat} {bytes : Nat} (h : LoteAbierto c actual bytes)
    (hne : actual ≠ []) : LoteAdmisible c actual where
  noVacio := hne
  pocos := h.pocos
  peso := by
    have hlength := List.length_pos_iff.mpr hne
    rcases h.peso with hpeso | huno
    · exact .inl (h.bytes_eq ▸ hpeso)
    · exact .inr (by omega)

theorem LoteAbierto.vacio : LoteAbierto c [] 0 := ⟨rfl, by decide, .inr (by decide)⟩

theorem LoteAbierto.uno (documento : DocumentoSiat) :
    LoteAbierto c [documento] (c.gzipLength documento.xml * 2) :=
  ⟨by simp [pesoLote], by simp [MAX_FACTURAS_PAQUETE], .inr (by simp)⟩

/-- A document that closes no batch is put in the one that is being filled. -/
theorem LoteAbierto.agregar {actual : List DocumentoSiat} {bytes : Nat} (h : LoteAbierto c actual bytes)
    (documento : DocumentoSiat)
    (hcabe : ¬(actual.length = MAX_FACTURAS_PAQUETE ∨
      (0 < actual.length ∧ c.packageMaxBytes < bytes + c.gzipLength documento.xml * 2))) :
    LoteAbierto c (actual ++ [documento]) (bytes + c.gzipLength documento.xml * 2) := by
  obtain ⟨hbytes, hpocos, hpeso⟩ := h
  refine ⟨by simp [pesoLote, hbytes], ?_, ?_⟩ <;> rw [List.length_append, List.length_singleton] <;> omega

theorem lotesDesde_admisibles {actual : List DocumentoSiat} {bytes : Nat} (h : LoteAbierto c actual bytes)
    (documentos : List DocumentoSiat) : ∀ lote ∈ lotesDesde c actual bytes documentos, LoteAdmisible c lote := by
  induction documentos generalizing actual bytes with
  | nil =>
    unfold lotesDesde
    intro lote hlote
    split at hlote
    · exact absurd hlote List.not_mem_nil
    · next hne => exact List.mem_singleton.mp hlote ▸ h.cerrar hne
  | cons documento documentos ih =>
    unfold lotesDesde
    dsimp only
    intro lote hlote
    split at hlote
    next hlleno =>
      have hne : actual ≠ [] := by
        rintro rfl
        simp [MAX_FACTURAS_PAQUETE] at hlleno
      rcases List.mem_cons.mp hlote with rfl | hresto
      · exact h.cerrar hne
      · exact ih (.uno documento) lote hresto
    next hcabe => exact ih (h.agregar documento hcabe) lote hlote

/-- **The batches are a partition** of the documents, in their order, into batches that can be sent. -/
theorem lotes_particion (c : SiatConfig) (documentos : List DocumentoSiat) :
    (∀ lote ∈ lotes c documentos, LoteAdmisible c lote) ∧ (lotes c documentos).flatten = documentos :=
  ⟨lotesDesde_admisibles .vacio documentos, flatten_lotes documentos⟩

/-- Copies by number, each of a row that still has its number and its XML. -/
structure LoteVigente (s : EstadoFiscal) (lote : List DocumentoSiat) : Prop where
  orden : lote.Pairwise porNumero
  distintos : (lote.map (·.numeroFactura)).Nodup
  fila : ∀ copia ∈ lote, ∃ d ∈ s.documents, d.id = copia.id ∧ d.numeroFactura = copia.numeroFactura ∧
    d.xml = copia.xml

theorem LoteVigente.sublist {lote lote' : List DocumentoSiat} (h : LoteVigente s lote) (hsub : lote'.Sublist lote) :
    LoteVigente s lote' where
  orden := h.orden.sublist hsub
  distintos := h.distintos.sublist (hsub.map _)
  fila copia hcopia := h.fila copia (hsub.subset hcopia)

theorem nodup_documentosPorNumero (cond : DocumentoSiat → Bool) : (documentosPorNumero s cond).Nodup :=
  (List.perm_insertionSort porNumero _).nodup_iff.mpr ((List.Nodup.of_map _ s.documents.nodup).filter _)

/-- What is selected: the rows that meet a condition, when no two of them have one number. -/
theorem loteVigente_documentosPorNumero {cond : DocumentoSiat → Bool}
    (hunico : ∀ d ∈ s.documents, ∀ d' ∈ s.documents, cond d = true → cond d' = true →
      d.numeroFactura = d'.numeroFactura → d = d') :
    LoteVigente s (documentosPorNumero s cond) where
  orden := List.pairwise_insertionSort porNumero _
  distintos := by
    refine (nodup_documentosPorNumero cond).map_on fun d hd d' hd' hnumero => ?_
    obtain ⟨hmem, hcond⟩ := mem_documentosPorNumero.mp hd
    obtain ⟨hmem', hcond'⟩ := mem_documentosPorNumero.mp hd'
    exact hunico d hmem d' hmem' hcond hcond' hnumero
  fila d hd := ⟨d, (mem_documentosPorNumero.mp hd).1, rfl, rfl, rfl⟩

/-- The rows of copies. -/
def filasDe (s : EstadoFiscal) (lote : List DocumentoSiat) : List DocumentoSiat :=
  lote.filterMap fun copia => s.documents.find? copia.id

/-- The rows of a batch have the numbers and the XMLs of the batch, one by one. -/
theorem LoteVigente.map_filasDe {β : Type} {lote : List DocumentoSiat} (h : LoteVigente s lote) {f : DocumentoSiat → β}
    (hf : ∀ d copia : DocumentoSiat, d.numeroFactura = copia.numeroFactura → d.xml = copia.xml → f d = f copia) :
    (filasDe s lote).map f = lote.map f := by
  have hfilas : ∀ l : List DocumentoSiat, (∀ copia ∈ l, copia ∈ lote) → (filasDe s l).map f = l.map f := by
    intro l
    induction l with
    | nil => exact fun _ => rfl
    | cons copia l ih =>
      intro hl
      obtain ⟨d, hd, hid, hnumero, hxml⟩ := h.fila copia (hl copia List.mem_cons_self)
      have hfind : s.documents.find? copia.id = some d := Table.find?_eq_some.mpr ⟨hd, hid⟩
      have hcons : filasDe s (copia :: l) = d :: filasDe s l := by
        unfold filasDe
        exact List.filterMap_cons_some hfind
      rw [hcons, List.map_cons, List.map_cons, hf d copia hnumero hxml,
        ih fun copia hcopia => hl copia (List.mem_cons_of_mem _ hcopia)]
  exact hfilas lote fun _ hcopia => hcopia

theorem LoteVigente.pairwise_filasDe {lote : List DocumentoSiat} (h : LoteVigente s lote) :
    (filasDe s lote).Pairwise porNumero := by
  have hnumero : ∀ copia ∈ lote, ∀ d, s.documents.find? copia.id = some d → d.numeroFactura = copia.numeroFactura := by
    intro copia hcopia d hd
    obtain ⟨e, he, hid, hnumero, -⟩ := h.fila copia hcopia
    obtain rfl : e = d := Option.some.inj ((Table.find?_eq_some.mpr ⟨he, hid⟩).symm.trans hd)
    exact hnumero
  refine List.pairwise_filterMap.mpr (h.orden.imp_of_mem fun {a b} ha hb hab d hd d' hd' => ?_)
  unfold porNumero at hab ⊢
  rwa [hnumero a ha d hd, hnumero b hb d' hd']

/-- **The documents of a condition**, by number, are the files of a batch when their rows are those of the
batch. -/
theorem LoteVigente.archivos {cond : DocumentoSiat → Bool} {lote : List DocumentoSiat} (h : LoteVigente s lote)
    (hcond : ∀ d ∈ s.documents, cond d = true ↔ d.id ∈ lote.map HasKey.key) :
    (documentosPorNumero s cond).map (·.archivo) = empaquetarFacturas lote := by
  have hdistintos : ((filasDe s lote).map (·.numeroFactura)).Nodup := by
    rw [h.map_filasDe fun _ _ hnumero _ => hnumero]
    exact h.distintos
  have hmem : ∀ d, d ∈ documentosPorNumero s cond ↔ d ∈ filasDe s lote := by
    intro d
    rw [mem_documentosPorNumero, filasDe, List.mem_filterMap]
    constructor
    · rintro ⟨hd, hcond'⟩
      obtain ⟨copia, hcopia, hid⟩ := List.mem_map.mp ((hcond d hd).mp hcond')
      exact ⟨copia, hcopia, Table.find?_eq_some.mpr ⟨hd, hid.symm⟩⟩
    · rintro ⟨copia, hcopia, hfind⟩
      obtain ⟨hd, hid⟩ := Table.find?_eq_some.mp hfind
      exact ⟨hd, (hcond d hd).mpr (List.mem_map.mpr ⟨copia, hcopia, hid.symm⟩)⟩
  have hperm : (documentosPorNumero s cond).Perm (filasDe s lote) :=
    (List.perm_ext_iff_of_nodup (nodup_documentosPorNumero cond) (List.Nodup.of_map _ hdistintos)).mpr hmem
  have heq : documentosPorNumero s cond = filasDe s lote := by
    refine hperm.eq_of_pairwise (fun a b ha hb hab hba => ?_) (List.pairwise_insertionSort porNumero _)
      h.pairwise_filasDe
    exact List.inj_on_of_nodup_map hdistintos ((hmem a).mp ha) hb (porNumero_antisymm hab hba)
  rw [heq, h.map_filasDe fun d copia hnumero hxml => ?_]
  · rfl
  · unfold DocumentoSiat.archivo
    rw [hnumero, hxml]

end Batches

end AtlasErp
