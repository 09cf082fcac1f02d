import AtlasErp.Fiscal.Emission
import AtlasErp.Lib.Script

/-! # Numbers of fiscal documents

`emitirEnTransaccion` takes the next number of the issuer and inserts the document, in the transaction of
the invoice, which may fail at any time.  The workers change documents later, never their number.

- `fiscalScript`: the transactions;
- `fiscal_disciplined`: what their locks promise;
- `fiscalNumbering_of_reachable`: under any interleaving the numbers of an issuer have no gap and no
  repetition, and an invoice has one live document at most. -/

namespace AtlasErp

open Lib

/-! ## Transactions -/

/-- An entry of a unique index: `uq_einvoice_live_source` or the one of `cuf`. -/
inductive FiscalIndexKey where
  | fuente (sourceType : FuenteFiscal) (sourceId : Nat)
  | cuf (cuf : Text)
  deriving DecidableEq

def FiscalDocument.indexKeys (d : FiscalDocument) : List FiscalIndexKey :=
  (if d.live then [.fuente d.sourceType d.sourceId] else []) ++ d.cuf.toList.map .cuf

/-- What a worker writes in a document: anything but what identifies it. -/
structure DocumentUpdate where
  write : FiscalDocument → FiscalDocument
  id (d : FiscalDocument) : (write d).id = d.id
  issuerProfileId (d : FiscalDocument) : (write d).issuerProfileId = d.issuerProfileId
  numeroFactura (d : FiscalDocument) : (write d).numeroFactura = d.numeroFactura
  sourceType (d : FiscalDocument) : (write d).sourceType = d.sourceType
  sourceId (d : FiscalDocument) : (write d).sourceId = d.sourceId

inductive FiscalLock where
  | serie (issuerProfileId : Nat)
  | fila (documentId : Nat)
  | indice (k : FiscalIndexKey)
  deriving DecidableEq

inductive FiscalRequest where
  | emitir (e : Emision)
  | actualizar (documentId : Nat) (u : DocumentUpdate)

inductive FiscalWrite where
  | tomarNumero (issuerProfileId : Nat)
  | crear (fila : FiscalDocument)
  | actualizar (documentId : Nat) (u : DocumentUpdate)

inductive FiscalStage where
  | pedida (e : Emision)
  | numerada (e : Emision) (totales : TotalesFiscales) (numeroFactura : Nat)
  | creada (fila : FiscalDocument)
  | porActualizar (documentId : Nat) (u : DocumentUpdate)
  | actualizada (documentId : Nat) (u : DocumentUpdate)

/-- `SET last_number = last_number + 1`. -/
def SerieFiscal.siguiente (r : SerieFiscal) : SerieFiscal := { r with lastNumber := r.lastNumber + 1 }

/-- The largest number of `ck_siat_number_series_range`. -/
def MAX_NUMERO_FACTURA : Nat := 9999999999

def FiscalDb.tomarNumero (db : FiscalDb) (issuerProfileId : Nat) : FiscalDb :=
  { db with series := db.series.updateWhere (HasKey.key · = issuerProfileId) SerieFiscal.siguiente }

def FiscalDb.crear (db : FiscalDb) (fila : FiscalDocument) : FiscalDb :=
  { db with documents := db.documents.create fun k => { fila with id := k } }

def FiscalDb.actualizar (db : FiscalDb) (documentId : Nat) (u : DocumentUpdate) : FiscalDb :=
  { db with documents := db.documents.updateWhere (HasKey.key · = documentId) u.write }

/-- A row with the entries of another is refused. -/
def indexError : HttpError := internalError "Validation error"

/-- The statements. -/
def fiscalScript : Script FiscalDb FiscalRequest FiscalLock FiscalWrite FiscalStage HttpError where
  start
    | .emitir e => .pedida e
    | .actualizar id u => .porActualizar id u
  apply
    | .tomarNumero i, db => db.tomarNumero i
    | .crear fila, db => db.crear fila
    | .actualizar id u, db => db.actualizar id u
  move
    | .pedida e, db =>
      match comprobarReceptor e.documento.receptor, totalesDe e.documento with
      | .error error, _ => .rollback error
      | _, .error error => .rollback error
      | .ok _, .ok totales =>
        -- `UPDATE … RETURNING`: the row stays locked until the transaction ends
        match db.series.find? e.preparada.perfil.id with
        | none => .rollback (unprocessable "FISCAL_SERIES_MISSING" "El emisor no tiene serie fiscal.")
        | some serie =>
          if MAX_NUMERO_FACTURA < serie.lastNumber + 1 then
            .rollback (internalError "ck_siat_number_series_range")
          else .on [.serie e.preparada.perfil.id] [.tomarNumero e.preparada.perfil.id]
            (.numerada e totales (serie.lastNumber + 1))
    | .numerada e totales numeroFactura, db =>
      match filaFiscal e totales numeroFactura with
      | .error error => .rollback error
      | .ok fila =>
        if db.documents.conflicts FiscalDocument.indexKeys none fila.indexKeys then .rollback indexError
        else .on (fila.indexKeys.map .indice) [.crear fila] (.creada fila)
    | .creada _, _ => .commit
    | .porActualizar id u, db =>
      match db.documents.find? id with
      | none => .commit
      | some d =>
        if db.documents.conflicts FiscalDocument.indexKeys (some id) (u.write d).indexKeys then .rollback indexError
        else .on (.fila id :: (d.indexKeys ++ (u.write d).indexKeys).map .indice) [.actualizar id u]
          (.actualizada id u)
    | .actualizada .., _ => .commit

/-- Emissions and updates, interleaved in any way, from the documents of `db₀`. -/
def fiscalMachine (db₀ : FiscalDb) :
    Machine (Sessions FiscalDb (Script.Point FiscalLock FiscalWrite FiscalStage)) (Act FiscalRequest) :=
  fiscalScript.program.machine (· = db₀)

/-! ## Numbers -/

/-- The last number of the series of an issuer. -/
def FiscalDb.lastNumber (db : FiscalDb) (issuerProfileId : Nat) : Option Nat :=
  (db.series.find? issuerProfileId).map (·.lastNumber)

/-- The numbers of the documents of an issuer, in the order in which they were inserted. -/
def FiscalDb.numeros (db : FiscalDb) (issuerProfileId : Nat) : List Nat :=
  (db.documents.rowsWhere (·.issuerProfileId = some issuerProfileId)).filterMap (·.numeroFactura)

/-- The numbers since `db₀`: one after the other, up to the last of the series. -/
def Correlativos (db₀ db : FiscalDb) : Prop :=
  ∀ i n₀, db₀.lastNumber i = some n₀ → ∃ n, db.lastNumber i = some n ∧ n₀ ≤ n ∧
    db.numeros i = db₀.numeros i ++ List.range' (n₀ + 1) (n - n₀)

section Writes

variable {db : FiscalDb}

theorem lastNumber_tomarNumero (i j : Nat) :
    (db.tomarNumero i).lastNumber j = (db.lastNumber j).map fun n => if j = i then n + 1 else n := by
  unfold FiscalDb.lastNumber FiscalDb.tomarNumero
  dsimp only
  rw [Table.find?_updateWhere_map (f := SerieFiscal.siguiente) fun _ => rfl, Option.map_map, Option.map_map]
  cases hfind : db.series.find? j with
  | none => rfl
  | some r =>
    have hkey : r.issuerProfileId = j := (Table.find?_eq_some.mp hfind).2
    have hsame : HasKey.key r = j := hkey
    by_cases hji : j = i
    · simp [hsame, hji, SerieFiscal.siguiente]
    · simp [hsame, hji]

theorem numeros_crear {fila : FiscalDocument} {i n : Nat} (hissuer : fila.issuerProfileId = some i)
    (hnumero : fila.numeroFactura = some n) (j : Nat) :
    (db.crear fila).numeros j = db.numeros j ++ if j = i then [n] else [] := by
  unfold FiscalDb.numeros FiscalDb.crear Table.rowsWhere
  dsimp only
  rw [Table.rows_create fun _ => rfl, List.filter_append, List.filterMap_append]
  congr 1
  by_cases hji : j = i
  · subst hji
    simp [hissuer, hnumero]
  · have hij : i ≠ j := fun h => hji h.symm
    simp [hissuer, hji, hij]

theorem numeros_actualizar (id : Nat) (u : DocumentUpdate) (j : Nat) :
    (db.actualizar id u).numeros j = db.numeros j := by
  unfold FiscalDb.numeros FiscalDb.actualizar Table.rowsWhere
  dsimp only
  rw [Table.rows_updateWhere u.id]
  induction db.documents.rows with
  | nil => rfl
  | cons d ds ih =>
    have hissuer : (if decide (HasKey.key d = id) = true then u.write d else d).issuerProfileId =
        d.issuerProfileId := by
      split
      · exact u.issuerProfileId d
      · rfl
    have hnumero : (if decide (HasKey.key d = id) = true then u.write d else d).numeroFactura =
        d.numeroFactura := by
      split
      · exact u.numeroFactura d
      · rfl
    simp only [List.map_cons, List.filter_cons, hissuer]
    split
    · simp only [List.filterMap_cons, hnumero, ih]
    · exact ih

end Writes

/-! ## What the statements do -/

section Moves

variable {db : FiscalDb} {stage stage' : FiscalStage} {locks : List FiscalLock} {writes : List FiscalWrite}

/-- Where the statements lead. -/
inductive FiscalMoves (db : FiscalDb) : FiscalStage → List FiscalLock → List FiscalWrite → FiscalStage → Prop where
  | numerada {e totales n} (last : db.lastNumber e.preparada.perfil.id = some n) :
      FiscalMoves db (.pedida e) [.serie e.preparada.perfil.id] [.tomarNumero e.preparada.perfil.id]
        (.numerada e totales (n + 1))
  | creada {e totales numeroFactura fila} (hfila : filaFiscal e totales numeroFactura = .ok fila)
      (free : db.documents.conflicts FiscalDocument.indexKeys none fila.indexKeys = false) :
      FiscalMoves db (.numerada e totales numeroFactura) (fila.indexKeys.map .indice) [.crear fila] (.creada fila)
  | actualizada {id u d} (found : db.documents.find? id = some d)
      (free : db.documents.conflicts FiscalDocument.indexKeys (some id) (u.write d).indexKeys = false) :
      FiscalMoves db (.porActualizar id u)
        (.fila id :: (d.indexKeys ++ (u.write d).indexKeys).map .indice) [.actualizar id u] (.actualizada id u)

/-- **All that a statement does.** -/
theorem fiscalMove_cases (h : fiscalScript.move stage db = .on locks writes stage') :
    FiscalMoves db stage locks writes stage' := by
  cases stage with
  | pedida e =>
    simp only [fiscalScript] at h
    split at h
    · cases h
    · cases h
    · split at h
      · cases h
      · rename_i serie hserie
        split at h
        · cases h
        · obtain ⟨rfl, rfl, rfl⟩ := Move.on.inj h
          exact .numerada (by rw [FiscalDb.lastNumber, hserie]; rfl)
  | numerada e totales numeroFactura =>
    simp only [fiscalScript] at h
    split at h
    · cases h
    · rename_i fila hfila
      split at h
      · cases h
      · rename_i hfree
        obtain ⟨rfl, rfl, rfl⟩ := Move.on.inj h
        exact .creada hfila (Bool.eq_false_iff.mpr hfree)
  | creada fila => cases h
  | porActualizar id u =>
    simp only [fiscalScript] at h
    split at h
    · cases h
    · rename_i d hfind
      split at h
      · cases h
      · rename_i hfree
        obtain ⟨rfl, rfl, rfl⟩ := Move.on.inj h
        exact .actualizada hfind (Bool.eq_false_iff.mpr hfree)
  | actualizada id u => cases h

/-- What has a number or will have one does not commit. -/
theorem fiscalMove_commit (h : fiscalScript.move stage db = .commit) :
    (∃ fila, stage = .creada fila) ∨ (∃ id u, stage = .actualizada id u) ∨ ∃ id u, stage = .porActualizar id u := by
  cases stage with
  | pedida e =>
    simp only [fiscalScript] at h
    split at h
    · cases h
    · cases h
    · split at h
      · cases h
      · split at h <;> cases h
  | numerada e totales numeroFactura =>
    simp only [fiscalScript] at h
    split at h
    · cases h
    · split at h <;> cases h
  | creada fila => exact .inl ⟨fila, rfl⟩
  | porActualizar id u => exact .inr (.inr ⟨id, u, rfl⟩)
  | actualizada id u => exact .inr (.inl ⟨id, u, rfl⟩)

end Moves

/-! ## The discipline -/

section Discipline

/-- What a holder of a lock relies on. -/
def keepsFiscal : FiscalLock → FiscalDb → FiscalDb → Prop
  | .serie i, db, db' => db'.lastNumber i = db.lastNumber i
  | .fila id, db, db' => ∀ d ∈ db.documents, d.id = id → d ∈ db'.documents
  | .indice k, db, db' =>
    ∀ d' ∈ db'.documents, k ∈ d'.indexKeys → ∃ d ∈ db.documents, d.id = d'.id ∧ k ∈ d.indexKeys

/-- The locks of the entries of a document. -/
def HoldsEntries (held : List FiscalLock) (d : FiscalDocument) : Prop := ∀ k ∈ d.indexKeys, .indice k ∈ held

/-- What a transaction relies on. -/
def FiscalRelies (p : Script.Point FiscalLock FiscalWrite FiscalStage) (db : FiscalDb) : Prop :=
  match p.stage with
  | .pedida _ | .porActualizar .. => p.journal = []
  | .numerada e _ numeroFactura =>
    p.journal = [.tomarNumero e.preparada.perfil.id] ∧ .serie e.preparada.perfil.id ∈ p.held ∧
      ∃ n, db.lastNumber e.preparada.perfil.id = some n ∧ numeroFactura = n + 1
  | .creada fila =>
    ∃ i n, p.journal = [.tomarNumero i, .crear fila] ∧ .serie i ∈ p.held ∧ HoldsEntries p.held fila ∧
      fila.issuerProfileId = some i ∧ db.lastNumber i = some n ∧ fila.numeroFactura = some (n + 1) ∧
      db.documents.conflicts FiscalDocument.indexKeys none fila.indexKeys = false
  | .actualizada id u =>
    ∃ d ∈ db.documents, d.id = id ∧ p.journal = [.actualizar id u] ∧ .fila id ∈ p.held ∧
      HoldsEntries p.held (u.write d) ∧
      db.documents.conflicts FiscalDocument.indexKeys (some id) (u.write d).indexKeys = false

/-- Numbers without gaps, and unique entries. -/
structure FiscalBooks (db₀ db : FiscalDb) : Prop where
  correlativos : Correlativos db₀ db
  indexed : db.documents.Indexed FiscalDocument.indexKeys

variable {db₀ db db' : FiscalDb} {held : List FiscalLock}

/-- Entries without a conflict stay so while their locks are held. -/
theorem conflicts_locked {but : Option Nat} {ks : List FiscalIndexKey} (hheld : ∀ k ∈ ks, .indice k ∈ held)
    (hkeeps : ∀ k ∈ held, keepsFiscal k db db')
    (h : db.documents.conflicts FiscalDocument.indexKeys but ks = false) :
    db'.documents.conflicts FiscalDocument.indexKeys but ks = false := by
  rw [Table.conflicts_eq_false] at h ⊢
  intro d' hd' hbut k hk hmem
  obtain ⟨d, hd, hid, hdk⟩ := hkeeps _ (hheld k hk) d' hd' hmem
  have hkey : HasKey.key d = HasKey.key d' := hid
  exact h d hd (hkey ▸ hbut) k hk hdk

theorem FiscalBooks.emit (h : FiscalBooks db₀ db) {fila : FiscalDocument} {i n : Nat}
    (hissuer : fila.issuerProfileId = some i) (hlast : db.lastNumber i = some n)
    (hnumero : fila.numeroFactura = some (n + 1))
    (hfree : db.documents.conflicts FiscalDocument.indexKeys none fila.indexKeys = false) :
    FiscalBooks db₀ ((db.tomarNumero i).crear fila) := by
  refine ⟨fun j n₀ hn₀ => ?_, h.indexed.create (fun _ => rfl) hfree⟩
  obtain ⟨m, hm, hle, hnumeros⟩ := h.correlativos j n₀ hn₀
  have hlast' : ((db.tomarNumero i).crear fila).lastNumber j = some (if j = i then m + 1 else m) := by
    show (db.tomarNumero i).lastNumber j = _
    rw [lastNumber_tomarNumero, hm, Option.map_some]
  have hnumeros' : ((db.tomarNumero i).crear fila).numeros j = (db.tomarNumero i).numeros j ++ if j = i then [n + 1] else [] :=
    numeros_crear hissuer hnumero j
  refine ⟨_, hlast', ?_, ?_⟩
  · split <;> omega
  · rw [hnumeros', show (db.tomarNumero i).numeros j = db.numeros j from rfl, hnumeros]
    by_cases hji : j = i
    · -- the number taken is the next one
      subst hji
      obtain rfl : m = n := Option.some.inj (hm.symm.trans hlast)
      have hlength : m + 1 - n₀ = m - n₀ + 1 := by omega
      have hnext : n₀ + 1 + 1 * (m - n₀) = m + 1 := by omega
      rw [if_pos rfl, if_pos rfl, hlength, List.range'_concat, hnext, List.append_assoc]
    · rw [if_neg hji, if_neg hji, List.append_nil]

theorem FiscalBooks.update (h : FiscalBooks db₀ db) {d : FiscalDocument} {u : DocumentUpdate}
    (hd : d ∈ db.documents)
    (hfree : db.documents.conflicts FiscalDocument.indexKeys (some d.id) (u.write d).indexKeys = false) :
    FiscalBooks db₀ (db.actualizar d.id u) := by
  refine ⟨fun j n₀ hn₀ => ?_, h.indexed.updateRow u.id hd hfree⟩
  obtain ⟨m, hm, hle, hnumeros⟩ := h.correlativos j n₀ hn₀
  exact ⟨m, hm, hle, (numeros_actualizar d.id u j).trans hnumeros⟩

/-- An emission changes only what it locked. -/
theorem keeps_emit {fila : FiscalDocument} {i : Nat} (hserie : .serie i ∈ held) (hentries : HoldsEntries held fila) :
    ∀ k, k ∉ held → keepsFiscal k db ((db.tomarNumero i).crear fila) := by
  intro k hk
  cases k with
  | serie j =>
    have hji : j ≠ i := fun heq => hk (heq ▸ hserie)
    show (db.tomarNumero i).lastNumber j = _
    rw [lastNumber_tomarNumero]
    simp [hji]
  | fila id => exact fun d hd _ => Table.mem_create_of_mem (fun _ => rfl) hd
  | indice k =>
    intro d' hd' hmem
    rcases (Table.mem_create (t := db.documents) fun _ => rfl).mp hd' with hd' | rfl
    · exact ⟨d', hd', rfl, hmem⟩
    · exact absurd (hentries k hmem) hk

/-- An update changes only what it locked. -/
theorem keeps_update {d : FiscalDocument} {u : DocumentUpdate} (hd : d ∈ db.documents)
    (hfila : .fila d.id ∈ held) (hentries : HoldsEntries held (u.write d)) :
    ∀ k, k ∉ held → keepsFiscal k db (db.actualizar d.id u) := by
  intro k hk
  cases k with
  | serie j => rfl
  | fila id =>
    intro x hx hid
    have hne : x.id ≠ d.id := fun heq => hk (hid ▸ heq ▸ hfila)
    exact (Table.mem_updateWhere u.id).mpr ⟨x, hx, if_neg fun heq => hne (of_decide_eq_true heq)⟩
  | indice k =>
    intro d' hd' hmem
    obtain ⟨x, hx, rfl⟩ := (Table.mem_updateWhere u.id).mp hd'
    by_cases hkey : HasKey.key x = d.id
    · obtain rfl := Table.eq_of_key_eq hx hd hkey
      rw [if_pos (by simpa using hkey)] at hmem
      exact absurd (hentries k hmem) hk
    · rw [if_neg (by simpa using hkey)] at hmem ⊢
      exact ⟨x, hx, rfl, hmem⟩

/-- What a transaction relies on is under its locks. -/
theorem FiscalRelies.locked {p : Script.Point FiscalLock FiscalWrite FiscalStage}
    (hkeeps : ∀ k ∈ p.held, keepsFiscal k db db') (h : FiscalRelies p db) : FiscalRelies p db' := by
  obtain ⟨held, journal, stage⟩ := p
  cases stage with
  | pedida e => exact h
  | porActualizar id u => exact h
  | numerada e totales numeroFactura =>
    obtain ⟨hjournal, hserie, n, hlast, hnumero⟩ := h
    exact ⟨hjournal, hserie, n, (hkeeps _ hserie).trans hlast, hnumero⟩
  | creada fila =>
    obtain ⟨i, n, hjournal, hserie, hentries, hissuer, hlast, hnumero, hfree⟩ := h
    exact ⟨i, n, hjournal, hserie, hentries, hissuer, (hkeeps _ hserie).trans hlast, hnumero,
      conflicts_locked hentries hkeeps hfree⟩
  | actualizada id u =>
    obtain ⟨d, hd, hid, hjournal, hfila, hentries, hfree⟩ := h
    exact ⟨d, hkeeps _ hfila d hd hid, hid, hjournal, hfila, hentries, conflicts_locked hentries hkeeps hfree⟩

/-- A statement leads from what a transaction relies on to what it relies on next. -/
theorem FiscalRelies.goto {p p' : Script.Point FiscalLock FiscalWrite FiscalStage} (h : FiscalRelies p db)
    (hnext : fiscalScript.program.next p (fiscalScript.program.writes p db) = .goto p') : FiscalRelies p' db := by
  obtain ⟨held, journal, stage⟩ := p
  obtain ⟨held', journal', stage'⟩ := p'
  obtain ⟨locks, writes, hmove, rfl, rfl⟩ := Script.follow_eq_goto hnext
  cases fiscalMove_cases hmove with
  | @numerada e totales n hlast =>
    obtain rfl : journal = [] := h
    exact ⟨rfl, List.mem_cons_self, n, hlast, rfl⟩
  | @creada e totales numeroFactura fila hfila hfree =>
    obtain ⟨hjournal, hserie, n, hlast, rfl⟩ := h
    obtain rfl : journal = _ := hjournal
    obtain ⟨-, -, -, -, hissuer, hnumero, -⟩ := filaFiscal_eq_ok hfila
    exact ⟨_, n, rfl, List.mem_append_right _ hserie,
      fun k hk => List.mem_append_left _ (List.mem_map_of_mem hk), hissuer, hlast, hnumero, hfree⟩
  | @actualizada id u d hfind hfree =>
    obtain rfl : journal = [] := h
    obtain ⟨hd, hid⟩ := Table.find?_eq_some.mp hfind
    exact ⟨d, hd, hid, rfl, List.mem_cons_self,
      fun k hk => List.mem_cons_of_mem _ (List.mem_append_left _ (List.mem_map_of_mem (List.mem_append_right _ hk))),
      hfree⟩

/-- A transaction that commits keeps the books and changes only what it locked. -/
theorem FiscalRelies.commit {p : Script.Point FiscalLock FiscalWrite FiscalStage} (h : FiscalRelies p db)
    (hbooks : FiscalBooks db₀ db)
    (hnext : fiscalScript.program.next p (fiscalScript.program.writes p db) = .commit) :
    FiscalBooks db₀ (fiscalScript.program.writes p db) ∧
      ∀ k, k ∉ p.held → keepsFiscal k db (fiscalScript.program.writes p db) := by
  obtain ⟨held, journal, stage⟩ := p
  rcases fiscalMove_commit (Script.follow_eq_commit.mp hnext) with ⟨fila, hstage⟩ | ⟨id, u, hstage⟩ | ⟨id, u, hstage⟩
  · obtain rfl : stage = _ := hstage
    obtain ⟨i, n, hjournal, hserie, hentries, hissuer, hlast, hnumero, hfree⟩ := h
    obtain rfl : journal = _ := hjournal
    exact ⟨hbooks.emit hissuer hlast hnumero hfree, keeps_emit hserie hentries⟩
  · obtain rfl : stage = _ := hstage
    obtain ⟨d, hd, rfl, hjournal, hfila, hentries, hfree⟩ := h
    obtain rfl : journal = _ := hjournal
    exact ⟨hbooks.update hd hfree, keeps_update hd hfila hentries⟩
  · -- there was no such document
    obtain rfl : stage = _ := hstage
    obtain rfl : journal = [] := h
    refine ⟨hbooks, fun k _ => ?_⟩
    cases k with
    | serie i => rfl
    | fila id => exact fun d hd _ => hd
    | indice k => exact fun d hd hk => ⟨d, hd, rfl, hk⟩

/-- **The locking discipline** of emissions and updates. -/
theorem fiscal_disciplined (db₀ : FiscalDb) :
    fiscalScript.program.Disciplined (FiscalBooks db₀) FiscalRelies keepsFiscal where
  start r _ _ := by cases r <;> rfl
  goto _ h hnext := h.goto hnext
  commit hbooks h hnext := (h.commit hbooks hnext).1
  guarded hbooks h hnext := (h.commit hbooks hnext).2
  locked hkeeps h := h.locked hkeeps

end Discipline

/-- **Fiscal numbering.** In every state reached by emissions, updates and failures, in any order, the numbers
of an issuer since the first state are those after the last number of its series, one by one up to the
current last number; and no two live documents are of one invoice. -/
theorem fiscalNumbering_of_reachable {db₀ : FiscalDb} (hindexed : db₀.documents.Indexed FiscalDocument.indexKeys)
    {S : Sessions FiscalDb (Script.Point FiscalLock FiscalWrite FiscalStage)}
    (h : (fiscalMachine db₀).Reachable (fun _ _ => True) S) :
    (∀ i n₀, db₀.lastNumber i = some n₀ → ∃ n, S.committed.lastNumber i = some n ∧ n₀ ≤ n ∧
      S.committed.numeros i = db₀.numeros i ++ List.range' (n₀ + 1) (n - n₀)) ∧
    ∀ d ∈ S.committed.documents, ∀ d' ∈ S.committed.documents, d.live = true → d'.live = true →
      d.sourceType = d'.sourceType → d.sourceId = d'.sourceId → d = d' := by
  have hinit : ∀ db, db = db₀ → FiscalBooks db₀ db := by
    rintro db rfl
    exact ⟨fun i n₀ hn₀ => ⟨n₀, hn₀, le_rfl, by simp⟩, hindexed⟩
  have hbooks := (Program.serves (fiscal_disciplined db₀) hinit h).1
  refine ⟨hbooks.correlativos, fun d hd d' hd' hlive hlive' htype hid => ?_⟩
  have hentry : FiscalIndexKey.fuente d.sourceType d.sourceId ∈ d.indexKeys := by
    simp [FiscalDocument.indexKeys, hlive]
  have hentry' : FiscalIndexKey.fuente d.sourceType d.sourceId ∈ d'.indexKeys := by
    simp [FiscalDocument.indexKeys, hlive', htype, hid]
  exact hbooks.indexed d hd d' hd' _ hentry hentry'

/-- The emission of the invoice `sourceId`, of 12.50 with one line. -/
def exampleEmision (sourceId : Nat) : Emision where
  preparada :=
    { perfil :=
        { id := 1, nit := "1020304050".toList, razonSocial := "Atlas".toList, municipio := "La Paz".toList,
          telefono := none, direccion := "Calle 1".toList, codigoSucursal := 0, codigoPuntoVenta := 0,
          codigoModalidad := 2, codigoDocumentoSector := 1, actividadEconomica := "620000".toList,
          leyendaDefault := none, usuarioEmisor := "ana".toList }
      cuis := "C1".toList
      cufd := ⟨3, "C3D4".toList, "A19E23".toList, none⟩
      codigoEmision := .enLinea
      eventId := none
      nitValido := some true }
  documento :=
    { sourceType := .merchantInvoice, sourceId
      receptor := ⟨5, "998877".toList, none, "Comercio & Cía".toList, "C-1".toList, none⟩
      lineas := [⟨"P-1".toList, "Servicio".toList, "1".toList, "12.50".toList, none, 83141, 58, none⟩]
      totalEsperado := "12.50".toList
      codigoMetodoPago := none
      leyenda := none }
  ahora := 1790424000000
  fechaEmision := "2026-09-26T10:00:00.000".toList

theorem unaSerie_nodup : (([⟨1, 41⟩] : List SerieFiscal).map HasKey.key).Nodup := List.nodup_singleton _

/-- A series that has handed out 41 numbers. -/
def exampleFiscalDb : FiscalDb := ⟨⟨[⟨1, 41⟩], unaSerie_nodup⟩, .empty⟩

/-- Two emissions of one invoice: the second takes a number and is rolled back.  Then one of another invoice. -/
def exampleEmisiones : List (Act FiscalRequest) :=
  [.start 0 (.emitir (exampleEmision 5)), .start 1 (.emitir (exampleEmision 5)), .advance 0, .advance 0, .advance 0,
    .advance 1, .advance 1, .start 2 (.emitir (exampleEmision 6)), .advance 2, .advance 2, .advance 2]

/-- What is committed then. -/
def exampleFiscalAfter : FiscalDb := ((fiscalMachine exampleFiscalDb).after ⟨exampleFiscalDb, []⟩ exampleEmisiones).committed

theorem fiscalNumbering_of_reachable_example :
    ∃ n, exampleFiscalAfter.lastNumber 1 = some n ∧ 41 ≤ n ∧
      exampleFiscalAfter.numeros 1 = exampleFiscalDb.numeros 1 ++ List.range' 42 (n - 41) :=
  (fiscalNumbering_of_reachable (fun d hd => absurd hd (Table.not_mem_empty d))
    ((fiscalMachine exampleFiscalDb).reachable_after ⟨rfl, rfl⟩ exampleEmisiones)).1 1 41 rfl

end AtlasErp
