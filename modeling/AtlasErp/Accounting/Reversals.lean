import AtlasErp.Accounting.LedgerInvariants

/-! # A reversal undoes its original

- `ReversedExactly`: one published reversal at most, that cancels its original under every account and dimensions, and
  is there exactly when the original is reversed;
- `PublishedStay`: a published document stays as it is, until it is undone;
- `reversal_exact`: both in every run, and what a transaction that undoes a document leaves. -/

namespace AtlasErp

open Lib

/-- Published, whether or not it was undone later. -/
def AccountingDocument.isPublished (d : AccountingDocument) : Bool := d.status = .posted ∨ d.status = .reversed

/-- How reversals and their originals go together. -/
structure ReversedExactly (t : Table AccountingDocument) : Prop where
  once : ∀ d ∈ t, (t.rowsWhere fun r => r.reversalOfId = some d.id ∧ r.isPublished).length ≤ 1
  reversed_iff : ∀ d ∈ t, d.status = .reversed ↔ ∃ r ∈ t, r.reversalOfId = some d.id ∧ r.isPublished
  cancels : ∀ d ∈ t, ∀ r ∈ t, r.reversalOfId = some d.id → ∀ k,
    balance k (d.journal.lines ++ r.journal.lines) = 0 ∧ localBalance k (d.journal.lines ++ r.journal.lines) = 0

/-- A document that is published stays as it is, or a published reversal has undone it. -/
def PublishedStay (t u : Table AccountingDocument) : Prop :=
  ∀ d ∈ t, d.isPublished → d ∈ u ∨ d.status = .posted ∧
    ∃ r ∈ u, r.reversalOfId = some d.id ∧ r.isPublished ∧ reversedDocument d r.id ∈ u

/-- The document that a transaction is to undo. -/
def LedgerPoint.undoes : LedgerPoint → Option Nat
  | .numbering d | .resolving d _ => purpose d
  | .validating d | .inserting d => purpose d.drafting
  | .reversing id .. => some id
  | .posting _ publication | .publishing _ publication | .published publication _ =>
    match publication with
    | .ofReversal original _ => some original.id
    | .ofDraft _ | .ofNew _ => none
  | _ => none
where
  purpose (d : Drafting) : Option Nat :=
    match d.purpose with
    | .reversal original => some original.id
    | .keep | .publish => none

section Exact

variable {t u : Table AccountingDocument}

/-- The invariant says how reversals and originals go together. -/
theorem DocumentsInv.reversedExactly (h : DocumentsInv t) : ReversedExactly t where
  once d hd := by
    refine Table.length_rowsWhere_le_one fun a ha b hb hpa hpb => ?_
    obtain ⟨d₁, hd₁, hid₁, -, hby₁, -⟩ := h.original a ha d.id (of_decide_eq_true hpa).1
    obtain ⟨d₂, hd₂, hid₂, -, hby₂, -⟩ := h.original b hb d.id (of_decide_eq_true hpb).1
    obtain rfl := Table.eq_of_key_eq hd₁ hd₂ (hid₁.trans hid₂.symm)
    exact Option.some.inj (hby₁.symm.trans hby₂)
  reversed_iff d hd := by
    constructor
    · intro hreversed
      obtain ⟨r, hr, hlinked⟩ := h.reversal d hd hreversed
      have hpublished := (h.document r hr).linked (by rw [hlinked]; rfl)
      exact ⟨r, hr, hlinked, decide_eq_true hpublished⟩
    · rintro ⟨r, hr, hlinked, -⟩
      obtain ⟨d', hd', hid, hstatus, -⟩ := h.original r hr d.id hlinked
      rw [← Table.eq_of_key_eq hd' hd hid, hstatus]
  cancels d hd r hr hlinked k := by
    obtain ⟨d', hd', hid, -, -, hmirrors⟩ := h.original r hr d.id hlinked
    obtain rfl := Table.eq_of_key_eq hd' hd hid
    exact Mirrors.cancel hmirrors k

/-- One write leaves what is published, or undoes it. -/
theorem DocumentsWrite.publishedStay (h : DocumentsWrite t u) : PublishedStay t u := by
  intro d hd hpublished
  cases h with
  | kept | published => exact .inl (Table.mem_create_of_mem (fun _ => rfl) hd)
  | @moved old new hfound hmove =>
    refine .inl ((Table.mem_put_ne fun hkey => ?_).mpr hd)
    obtain rfl := Table.eq_of_key_eq hd hfound (hkey.trans hmove.id_eq)
    have hdraft : d.status = .draft := by
      cases hmove with
      | decided hpending => exact (of_decide_eq_true hpending).1
      | published hdraft | voided hdraft => exact hdraft
    rcases of_decide_eq_true hpublished with hstatus | hstatus <;> cases hdraft.symm.trans hstatus
  | @reversed original row user now hash hfound hposted hnew hlinked hmirrors =>
    have hcreated : ∀ x ∈ t, x ∈ t.create (publishedDocument row user now hash).stored :=
      fun x hx => Table.mem_create_of_mem (fun _ => rfl) hx
    by_cases hkey : d.id = original.id
    · obtain rfl := Table.eq_of_key_eq hd hfound hkey
      obtain ⟨hnewRow, hreversed⟩ := mem_reversal (s := (publishedDocument row user now hash).stored) (fun _ => rfl) hd
      exact .inr ⟨hposted, _, hnewRow, hlinked, rfl, hreversed⟩
    · exact .inl ((Table.mem_put_ne hkey).mpr (hcreated d hd))

theorem PublishedStay.trans {v : Table AccountingDocument} (h : PublishedStay t u) (h' : PublishedStay u v) :
    PublishedStay t v := by
  intro d hd hpublished
  rcases h d hd hpublished with hd | ⟨hposted, r, hr, hlinked, hr', hreversed⟩
  · exact h' d hd hpublished
  · rcases h' _ hreversed rfl with hreversed | ⟨hposted', -⟩
    · rcases h' r hr hr' with hr | ⟨hrposted, s, hs, -, -, hreversedR⟩
      · exact .inr ⟨hposted, r, hr, hlinked, hr', hreversed⟩
      · exact .inr ⟨hposted, _, hreversedR, hlinked, rfl, hreversed⟩
    · cases hposted'

/-- What a transaction that is to undo a document does: nothing, or it undoes it. -/
theorem undoes_step {S S' : Sessions AccountingDb LedgerPoint} {w : Nat} {answer : LedgerAnswer} {p : LedgerPoint}
    {id : Nat} (h : ledgerMachine.Reachable (fun _ _ => True) S) (hfind : S.find? w = some p)
    (hundoes : p.undoes = some id) (hstep : ledgerMachine.step S (.go w answer) = some S') :
    S'.committed = S.committed ∨ ∃ d ∈ S.committed.documents, d.id = id ∧ d.status = .posted ∧
      ∃ r ∈ S'.committed.documents, r.status = .posted ∧ r.reversalOfId = some id ∧
        reversedDocument d r.id ∈ S'.committed.documents := by
  have hnext : ∃ store q, p.next S.committed answer = (store, q) ∧ S'.committed = store := by
    cases ledger_step_cases hstep with
    | moved hfind' hnext _ | done hfind' hnext =>
      obtain rfl := Option.some.inj (hfind.symm.trans hfind')
      exact ⟨_, _, Option.some.inj hnext, rfl⟩
  obtain ⟨store, q, hnext, hstore⟩ := hnext
  rcases ledger_next hnext with rfl | ⟨-, hcommit⟩
  · exact .inl hstore
  · have hrelies := (ledger_keeps h).at hfind
    cases hcommit with
    | kept | decided | voided | closed | reopened => cases hundoes
    | @published publication row _ hcommit =>
      cases publication with
      | ofDraft | ofNew => cases hundoes
      | ofReversal original new =>
        obtain rfl := Option.some.inj hundoes
        obtain ⟨⟨-, -, hlinked, hfound, hposted, -⟩, -, user, now, hash, rfl⟩ := hrelies
        obtain ⟨hnewRow, hreversed⟩ := mem_reversal (s := (publishedDocument new user now hash).stored) (fun _ => rfl)
          hfound
        rw [hstore, commitReversal_eq_ok hcommit]
        exact .inr ⟨original, hfound, rfl, hposted, _, hnewRow, rfl, hlinked, hreversed⟩

/-- **A reversal undoes exactly its original**, in every run: at most one is published, it cancels its original, and
the original is reversed exactly when one is; what is published stays as it is until then, and a transaction that is
to undo a document either does so or changes nothing. -/
theorem reversal_exact {S S' : Sessions AccountingDb LedgerPoint}
    {as : List (WorkerAct LedgerTask LedgerAnswer LedgerEvent)} (h : ledgerMachine.Reachable (fun _ _ => True) S)
    (hrun : ledgerMachine.Run (fun _ _ => True) S as S') :
    ReversedExactly S'.committed.documents ∧ PublishedStay S.committed.documents S'.committed.documents ∧
      ∀ w p id, S'.find? w = some p → p.undoes = some id →
        (∀ S'', ledgerMachine.step S' (.die w) = some S'' → S''.committed = S'.committed) ∧
        ∀ answer S'', ledgerMachine.step S' (.go w answer) = some S'' →
          S''.committed = S'.committed ∨ ∃ d ∈ S'.committed.documents, d.id = id ∧ d.status = .posted ∧
            ∃ r ∈ S''.committed.documents, r.status = .posted ∧ r.reversalOfId = some id ∧
              reversedDocument d r.id ∈ S''.committed.documents := by
  refine ⟨(ledger_keeps (h.run hrun)).store.reversedExactly,
    ledger_run (R := PublishedStay) (fun t d hd _ => .inl hd) PublishedStay.trans (fun _ => DocumentsWrite.publishedStay)
      h hrun,
    fun w p id hfind hundoes => ⟨fun S'' hstep => ?_, fun answer S'' hstep => undoes_step (h.run hrun) hfind hundoes hstep⟩⟩
  cases ledger_step_cases hstep with
  | died => rfl

end Exact

/-! ## A document is undone -/

/-- A document is published. -/
def publishing : List (WorkerAct LedgerTask LedgerAnswer LedgerEvent) :=
  .start 1 (.generate (smallDraft 'A' none) (admin 1) none true) :: answers 1 7 []

/-- It is undone, while a second transaction that would undo it waits and then fails. -/
def undoing : List (WorkerAct LedgerTask LedgerAnswer LedgerEvent) :=
  .start 2 (.reverse 1 ⟨20711, some 1, "error".toList⟩ (admin 2) none) :: answers 2 7 ['R'] ++
    .start 3 (.reverse 1 ⟨20712, some 1, "error".toList⟩ (admin 3) none) :: answers 3 1 ['Q']

theorem reversal_exact_undoing :
    (ledgerMachine.after ⟨smallLedger, []⟩ (publishing ++ undoing)).committed.documents.rows.map (·.status) =
        [.reversed, .posted] ∧
      ReversedExactly (ledgerMachine.after ⟨smallLedger, []⟩ (publishing ++ undoing)).committed.documents := by
  refine ⟨by decide, ?_⟩
  exact (reversal_exact (ledgerMachine.reachable_after ⟨rfl, rfl⟩ _) (.nil _)).1

end AtlasErp
