import AtlasErp.Accounting.Reversals

/-! # Published documents balance, and stay

- `Balanced`: two lines or more, each on one side, with equal totals;
- `Unchanged`: a document before and after, with nothing changed but its status and the link to its reversal;
- `published_balanced`: in every run what is published is balanced, and stays;
- `published_counterexample`: the amounts in local currency are as informed, and need not balance. -/

namespace AtlasErp

open Lib

/-- The double entry of a document, in its own currency. -/
structure Balanced (d : AccountingDocument) : Prop where
  twoLines : 2 ≤ d.journal.lines.length
  oneSided : ∀ line ∈ d.journal.lines, 0 ≤ line.debit ∧ 0 ≤ line.credit ∧
    (0 < line.debit ∧ line.credit = 0 ∨ 0 < line.credit ∧ line.debit = 0)
  total : (d.journal.lines.map (·.debit)).sum = (d.journal.lines.map (·.credit)).sum

/-- The double entry in local currency. -/
def LocallyBalanced (d : AccountingDocument) : Prop := (d.journal.lines.map JournalLine.signedLc).sum = 0

instance : DecidablePred LocallyBalanced := fun _ => inferInstanceAs (Decidable (_ = _))

/-- Nothing changed but that a published document may have been reversed. -/
structure Unchanged (d d' : AccountingDocument) : Prop where
  row : d' = { d with
    status := d'.status
    reversedById := d'.reversedById
    journal := { d.journal with postingStatus := d'.journal.postingStatus } }
  status : d'.status = d.status ∨ d.status = .posted ∧ d'.status = .reversed

section Published

variable {t u : Table AccountingDocument}

theorem DocumentInv.balanced {d : AccountingDocument} (h : DocumentInv d)
    (hpublished : d.status = .posted ∨ d.status = .reversed) : Balanced d := by
  obtain ⟨hlength, htotal⟩ := balanced_of_validate (h.published hpublished).2
  refine ⟨hlength, fun line _ => ?_, htotal⟩
  have hsides := line.check.oneSided
  omega

theorem PublishedStay.unchanged (h : PublishedStay t u) {d : AccountingDocument} (hd : d ∈ t)
    (hpublished : d.status = .posted ∨ d.status = .reversed) : ∃ d' ∈ u, Unchanged d d' := by
  rcases h d hd (decide_eq_true hpublished) with hd | ⟨hposted, r, -, -, -, hreversed⟩
  · exact ⟨d, hd, rfl, .inl rfl⟩
  · exact ⟨_, hreversed, rfl, .inr ⟨hposted, rfl⟩⟩

/-- **What is published balances**, in every run, and nothing of it changes afterwards but from posted to reversed. -/
theorem published_balanced {S S' : Sessions AccountingDb LedgerPoint}
    {as : List (WorkerAct LedgerTask LedgerAnswer LedgerEvent)} (h : ledgerMachine.Reachable (fun _ _ => True) S)
    (hrun : ledgerMachine.Run (fun _ _ => True) S as S') :
    (∀ d ∈ S'.committed.documents, d.status = .posted ∨ d.status = .reversed → Balanced d) ∧
      ∀ d ∈ S.committed.documents, d.status = .posted ∨ d.status = .reversed →
        ∃ d' ∈ S'.committed.documents, Unchanged d d' := by
  refine ⟨fun d hd => ((ledger_keeps (h.run hrun)).store.document d hd).balanced, fun d hd hpublished => ?_⟩
  have hstay : PublishedStay S.committed.documents S'.committed.documents :=
    ledger_run (R := PublishedStay) (fun t d hd _ => .inl hd) PublishedStay.trans (fun _ => DocumentsWrite.publishedStay)
      h hrun
  exact hstay.unchanged hd hpublished

end Published

/-! ## Local currency -/

/-- A manual draft informs seven for its debit in local currency, is approved by another user and published. -/
def informing : List (WorkerAct LedgerTask LedgerAnswer LedgerEvent) :=
  .start 1 (.createDraft (smallDraft 'A' (some "7")) (admin 1) (some "ALL_MANUAL_REQUIRE_APPROVAL")) :: answers 1 5 [] ++
    .start 2 (.decide 1 (admin 2) .approved) :: answers 2 2 [] ++ .start 3 (.post 1 (admin 1)) :: answers 3 4 []

theorem published_balanced_informing :
    (ledgerMachine.after ⟨smallLedger, []⟩ informing).committed.documents.rows.map (·.status) = [.posted] ∧
      ∀ d ∈ (ledgerMachine.after ⟨smallLedger, []⟩ informing).committed.documents,
        d.status = .posted ∨ d.status = .reversed → Balanced d := by
  refine ⟨by decide, ?_⟩
  exact (published_balanced (ledgerMachine.reachable_after ⟨rfl, rfl⟩ _) (.nil _)).1

/-- **The local currency need not balance**: seven against ten. -/
theorem published_counterexample : ¬ ∀ S, ledgerMachine.Reachable (fun _ _ => True) S →
    ∀ d ∈ S.committed.documents, d.status = .posted ∨ d.status = .reversed → Balanced d ∧ LocallyBalanced d := by
  intro h
  have hrun := h _ (ledgerMachine.reachable_after (s := ⟨smallLedger, []⟩) ⟨rfl, rfl⟩ informing)
  have hlocal : ∃ d ∈ (ledgerMachine.after ⟨smallLedger, []⟩ informing).committed.documents,
      d.status = .posted ∧ ¬ LocallyBalanced d := by decide
  obtain ⟨d, hd, hposted, hnot⟩ := hlocal
  exact hnot (hrun d hd (.inl hposted)).2

end AtlasErp
