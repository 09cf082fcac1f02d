import AtlasErp.Accounting.LedgerInvariants

/-! # Manual documents are published under four eyes

- `FourEyes`: the server exempted the document by a recorded policy, or someone other than its creator approved it;
- `ApprovedBefore`: what a write publishes was a draft before, approved by who stands in it;
- `posted_fourEyes`: both in every run, and that a rejected draft is never published. -/

namespace AtlasErp

open Lib

/-- Exempted by a policy of the server that is recorded, or approved by someone else than who created it. -/
def FourEyes (d : AccountingDocument) : Prop :=
  d.origin = .serverGenerated ∧ d.approvalStatus = .notRequired ∧
      d.approvalPolicyRef = some SERVER_GENERATED_POLICY_REF ∨
    d.origin = .manual ∧ d.approvalStatus = .approved ∧
      ∃ approver ∈ d.approvedBy, ∃ creator ∈ d.createdBy, approver ≠ creator

/-- A manual document that is published now was a draft before, which that approver had approved. -/
def ApprovedBefore (t u : Table AccountingDocument) : Prop :=
  ∀ d ∈ u, d.status = .posted → d.origin = .manual → d ∈ t ∨ ∃ draft ∈ t, draft.id = d.id ∧ draft.status = .draft ∧
    draft.approvalStatus = .approved ∧ draft.approvedBy = d.approvedBy ∧ draft.approvedAt = d.approvedAt

/-- A draft that was rejected stays so. -/
def StayRejected (t u : Table AccountingDocument) : Prop :=
  ∀ d ∈ t, d.approvalStatus = .rejected → ∃ d' ∈ u, d'.id = d.id ∧ d'.approvalStatus = .rejected

section Approval

variable {t u : Table AccountingDocument} {d : AccountingDocument}

/-- What may be published is exempt or approved. -/
theorem approvalStatus_of_approved (h : assertDocumentApprovedForPosting d = .ok ()) :
    d.approvalStatus = .notRequired ∨ d.approvalStatus = .approved := by
  unfold assertDocumentApprovedForPosting at h
  split at h
  · rename_i hexempt
    exact .inl hexempt.1
  · split at h
    · rename_i happroved
      exact .inr happroved.1
    · split at h <;> cases h

theorem DocumentInv.fourEyes (h : DocumentInv d) (hpublished : d.status = .posted ∨ d.status = .reversed) :
    FourEyes d := by
  cases horigin : d.origin with
  | serverGenerated => exact .inl ⟨horigin, h.exempt horigin⟩
  | manual =>
    rcases approvalStatus_of_approved (h.published hpublished).1 with hstatus | hstatus
    · exact absurd hstatus (h.manual horigin)
    · exact .inr ⟨horigin, hstatus, h.approver hstatus⟩

theorem DocumentsWrite.approvedBefore (hinv : DocumentsInv t) (h : DocumentsWrite t u) : ApprovedBefore t u := by
  intro d hd hposted hmanual
  cases h with
  | kept hnew hunlinked =>
    rcases (Table.mem_create fun _ => rfl).mp hd with hd | rfl
    · exact .inl hd
    · cases hnew.status.symm.trans hposted
  | published hnew hunlinked =>
    rcases (Table.mem_create fun _ => rfl).mp hd with hd | rfl
    · exact .inl hd
    · cases hnew.exempt.symm.trans hmanual
  | @moved old new hfound hmove =>
    rcases (Table.mem_put hfound hmove.id_eq).mp hd with rfl | ⟨hd, -⟩
    · cases hmove with
      | @decided user decision now hpending _ =>
        have hdraft : (decidedDocument old user decision now).status = .draft := by
          cases decision <;> exact (of_decide_eq_true hpending).1
        cases hdraft.symm.trans hposted
      | published hdraft happroved _ =>
        rcases approvalStatus_of_approved happroved with hstatus | hstatus
        · exact absurd hstatus ((hinv.document old hfound).manual hmanual)
        · exact .inr ⟨old, hfound, rfl, hdraft, hstatus, rfl, rfl⟩
      | voided => cases hposted
    · exact .inl hd
  | @reversed original row user now hash hfound _ hnew _ _ =>
    have hcreated : original ∈ t.create (publishedDocument row user now hash).stored :=
      Table.mem_create_of_mem (fun _ => rfl) hfound
    rcases (Table.mem_put (r := reversedDocument original t.nextKey) hcreated rfl).mp hd with rfl | ⟨hd, -⟩
    · cases hposted
    · rcases (Table.mem_create fun _ => rfl).mp hd with hd | rfl
      · exact .inl hd
      · cases hnew.exempt.symm.trans hmanual

theorem DocumentsWrite.stayRejected (h : DocumentsWrite t u) : StayRejected t u := by
  intro d hd hrejected
  cases h with
  | kept | published => exact ⟨d, Table.mem_create_of_mem (fun _ => rfl) hd, rfl, hrejected⟩
  | @moved old new hfound hmove =>
    by_cases hkey : d.id = new.id
    · obtain rfl := Table.eq_of_key_eq hd hfound (hkey.trans hmove.id_eq)
      refine ⟨new, Table.mem_put_self hd hmove.id_eq, hmove.id_eq, ?_⟩
      cases hmove with
      | decided hpending => cases (of_decide_eq_true hpending).2.symm.trans hrejected
      | published | voided => exact hrejected
    · exact ⟨d, (Table.mem_put_ne hkey).mpr hd, rfl, hrejected⟩
  | @reversed original row user now hash hfound =>
    have hcreated : ∀ x ∈ t, x ∈ t.create (publishedDocument row user now hash).stored :=
      fun x hx => Table.mem_create_of_mem (fun _ => rfl) hx
    by_cases hkey : d.id = original.id
    · obtain rfl := Table.eq_of_key_eq hd hfound hkey
      exact ⟨_, Table.mem_put_self (hcreated d hd) rfl, rfl, hrejected⟩
    · exact ⟨d, (Table.mem_put_ne hkey).mpr (hcreated d hd), rfl, hrejected⟩

/-- **Four eyes**, in every run: what is published is exempt by a recorded policy, or was approved by another user
than its creator before it was published; and a draft that was rejected is never published. -/
theorem posted_fourEyes {S S' : Sessions AccountingDb LedgerPoint}
    {as : List (WorkerAct LedgerTask LedgerAnswer LedgerEvent)} (h : ledgerMachine.Reachable (fun _ _ => True) S)
    (hrun : ledgerMachine.Run (fun _ _ => True) S as S') :
    (∀ d ∈ S'.committed.documents, d.status = .posted ∨ d.status = .reversed → FourEyes d) ∧
    (∀ a S'', ledgerMachine.step S' a = some S'' → ApprovedBefore S'.committed.documents S''.committed.documents) ∧
    ∀ d ∈ S.committed.documents, d.approvalStatus = .rejected →
      ∀ d' ∈ S'.committed.documents, d'.id = d.id → d'.status ≠ .posted ∧ d'.status ≠ .reversed := by
  have hinv := (ledger_keeps (h.run hrun)).store
  refine ⟨fun d hd => (hinv.document d hd).fourEyes, fun a S'' hstep => ?_, fun d hd hrejected d' hd' hid => ?_⟩
  · rcases ledger_step (h.run hrun) hstep with heq | hwrite
    · rw [heq]
      exact fun d hd _ _ => .inl hd
    · exact hwrite.approvedBefore hinv
  · have hstay : StayRejected S.committed.documents S'.committed.documents := by
      refine ledger_run (R := StayRejected) (fun t d hd hrejected => ⟨d, hd, rfl, hrejected⟩)
        (fun htu huv d hd hrejected => ?_) (fun _ => DocumentsWrite.stayRejected) h hrun
      obtain ⟨d', hd', hid, hrejected'⟩ := htu d hd hrejected
      obtain ⟨d'', hd'', hid', hrejected''⟩ := huv d' hd' hrejected'
      exact ⟨d'', hd'', hid'.trans hid, hrejected''⟩
    obtain ⟨e, he, hid', hstatus⟩ := hstay d hd hrejected
    obtain rfl := Table.eq_of_key_eq he hd' (hid'.trans hid.symm)
    have hnot : ¬ (e.status = .posted ∨ e.status = .reversed) := fun hpublished => by
      rcases approvalStatus_of_approved ((hinv.document e he).published hpublished).1 with happroved | happroved <;>
        cases hstatus.symm.trans happroved
    exact not_or.mp hnot

end Approval

/-! ## A draft is approved and published -/

/-- One user creates a draft, another approves it, and it is published; a second draft is rejected. -/
def approving : List (WorkerAct LedgerTask LedgerAnswer LedgerEvent) :=
  .start 1 (.createDraft (smallDraft 'A' none) (admin 1) (some "ALL_MANUAL_REQUIRE_APPROVAL")) :: answers 1 5 [] ++
    .start 2 (.createDraft (smallDraft 'B' none) (admin 1) (some "ALL_MANUAL_REQUIRE_APPROVAL")) :: answers 2 5 [] ++
    .start 3 (.decide 1 (admin 2) .approved) :: answers 3 2 [] ++ .start 4 (.decide 2 (admin 3) .rejected) :: answers 4 2 [] ++
    .start 5 (.post 1 (admin 1)) :: answers 5 4 [] ++ .start 6 (.post 2 (admin 1)) :: answers 6 1 []

theorem posted_fourEyes_approving :
    (ledgerMachine.after ⟨smallLedger, []⟩ approving).committed.documents.rows.map (·.status) = [.posted, .draft] ∧
      ∀ d ∈ (ledgerMachine.after ⟨smallLedger, []⟩ approving).committed.documents, d.status = .posted ∨ d.status = .reversed →
        FourEyes d := by
  refine ⟨by decide, ?_⟩
  exact (posted_fourEyes (ledgerMachine.reachable_after ⟨rfl, rfl⟩ _) (.nil _)).1

end AtlasErp
