import AtlasErp.Accounting.Ledger

/-! # What the transactions of the ledger write

- `ledger_next`, `ledger_advance`: a transaction changes the tables only when it commits, and what it reads before;
- `NewDraft`: what a row is when it is inserted;
- `RowMove`: how a stored row may change;
- `DocumentsWrite`: all that a commit does to the documents;
- `ledgerWrites`, `ledger_promises`: each commit does one of these, in every run. -/

namespace AtlasErp

open Lib

/-! ## Commits -/

section Commits

variable {db db' : AccountingDb} {answer : LedgerAnswer} {p : LedgerPoint} {q : Option LedgerPoint}

theorem goOn_eq {x : Except HttpError LedgerPoint} (h : goOn db x = (db', q)) : db' = db ∧ ∀ p ∈ q, x = .ok p := by
  cases x with
  | ok p =>
    obtain ⟨rfl, rfl⟩ := Prod.mk.inj h
    exact ⟨rfl, fun _ hp => congrArg _ (Option.some.inj hp)⟩
  | error e =>
    obtain ⟨rfl, rfl⟩ := Prod.mk.inj h
    exact ⟨rfl, fun _ hp => absurd hp (Option.not_mem_none _)⟩

theorem commit_eq {x : Except HttpError AccountingDb} (h : commit db x = (db', q)) :
    q = none ∧ (db' = db ∨ x = .ok db') := by
  cases x with
  | ok store =>
    obtain ⟨rfl, rfl⟩ := Prod.mk.inj h
    exact ⟨rfl, .inr rfl⟩
  | error e =>
    obtain ⟨rfl, rfl⟩ := Prod.mk.inj h
    exact ⟨rfl, .inl rfl⟩

/-- A commit, at the point it is done from. -/
inductive LedgerCommit (db : AccountingDb) (answer : LedgerAnswer) : LedgerPoint → AccountingDb → Prop where
  | kept {row db'} (new : commitNew db row = .ok db') : LedgerCommit db answer (.keeping row) db'
  | published {publication row db'} (commit : commitPublication db publication row = .ok db') :
      LedgerCommit db answer (.published publication row) db'
  | decided {id user decision db'} (commit : commitDecision db id user decision answer.now = .ok db') :
      LedgerCommit db answer (.decided id user decision) db'
  | voided {id db'} (commit : commitVoid db id = .ok db') : LedgerCommit db answer (.voiding id) db'
  | closed {input user} : LedgerCommit db answer (.closing input user)
      { db with periods := db.periods.updateWhere (·.id = input.periodId) (closedPeriod user answer.now) }
  | reopened {periodId} : LedgerCommit db answer (.reopened periodId)
      { db with periods := db.periods.updateWhere (·.id = periodId) openPeriod }

/-- **Only a commit writes**, and it ends the transaction. -/
theorem ledger_next (h : p.next db answer = (db', q)) : db' = db ∨ q = none ∧ LedgerCommit db answer p db' := by
  cases p with
  | keeping row =>
    obtain ⟨rfl, rfl | hcommit⟩ := commit_eq h
    · exact .inl rfl
    · exact .inr ⟨rfl, .kept hcommit⟩
  | published publication row =>
    obtain ⟨rfl, rfl | hcommit⟩ := commit_eq h
    · exact .inl rfl
    · exact .inr ⟨rfl, .published hcommit⟩
  | decided id user decision =>
    obtain ⟨rfl, rfl | hcommit⟩ := commit_eq h
    · exact .inl rfl
    · exact .inr ⟨rfl, .decided hcommit⟩
  | voiding id =>
    obtain ⟨rfl, rfl | hcommit⟩ := commit_eq h
    · exact .inl rfl
    · exact .inr ⟨rfl, .voided hcommit⟩
  | closing input user =>
    obtain ⟨rfl, rfl⟩ := Prod.mk.inj h
    exact .inr ⟨rfl, .closed⟩
  | reopened periodId =>
    obtain ⟨rfl, rfl⟩ := Prod.mk.inj h
    exact .inr ⟨rfl, .reopened⟩
  | numbering | deciding | counted | reopening => exact .inl (Prod.mk.inj h).1.symm
  | resolving | validating | inserting | locked | posting | publishing | reversing | counting =>
    exact .inl (goOn_eq h).1

/-- A step that goes on: what was read and checked for it. -/
inductive LedgerAdvance (db : AccountingDb) (answer : LedgerAnswer) : LedgerPoint → LedgerPoint → Prop where
  | numbered {d documentNo} : LedgerAdvance db answer (.numbering d) (.resolving d documentNo)
  | resolved {d documentNo resolved} (resolve : resolveDraft db d documentNo = .ok resolved) :
      LedgerAdvance db answer (.resolving d documentNo) (.validating resolved)
  | validated {d} (valid : assertDocumentCanBePosted db d.document = .ok ()) :
      LedgerAdvance db answer (.validating d) (.inserting d)
  | inserted {d p} (insert : insertDraft db d answer = .ok p) : LedgerAdvance db answer (.inserting d) p
  | read {id user document} (found : document ∈ db.documents) (begin : beginPosting user document = .ok ()) :
      LedgerAdvance db answer (.locked id user) (.posting user (.ofDraft document))
  | guarded {user publication} : LedgerAdvance db answer (.posting user publication) (.publishing user publication)
  | written {user publication row} (publish : publishRow db publication.row user answer = .ok row) :
      LedgerAdvance db answer (.publishing user publication) (.published publication row)
  | undone {id input user policy documentNo original d} (found : original ∈ db.documents)
      (posted : original.status = .posted)
      (begin : beginDraft (reversalInput original input documentNo) user .serverGenerated policy (.reversal original) =
        .ok d) : LedgerAdvance db answer (.reversing id input user policy) (.resolving d documentNo)
  | deciding {id user decision} : LedgerAdvance db answer (.deciding id user decision) (.decided id user decision)
  | counted {input user} (count : assertNoBlockers db input.periodId answer.openItems = .ok ()) :
      LedgerAdvance db answer (.counting input user) (.counted input user)
  | closing {input user} : LedgerAdvance db answer (.counted input user) (.closing input user)
  | reopening {periodId} : LedgerAdvance db answer (.reopening periodId) (.reopened periodId)

/-- **What a transaction reads** when it goes on. -/
theorem ledger_advance {p' : LedgerPoint} (h : p.next db answer = (db', some p')) : LedgerAdvance db answer p p' := by
  cases p with
  | numbering | deciding | counted | reopening =>
    obtain rfl := Option.some.inj (Prod.mk.inj h).2
    constructor
  | resolving d documentNo =>
    obtain ⟨resolved, hresolve, rfl⟩ := map_eq_ok.mp ((goOn_eq h).2 p' rfl)
    exact .resolved hresolve
  | validating d =>
    obtain ⟨_, hvalid, rfl⟩ := map_eq_ok.mp ((goOn_eq h).2 p' rfl)
    exact .validated hvalid
  | inserting d => exact .inserted ((goOn_eq h).2 p' rfl)
  | locked id user =>
    obtain ⟨document, hfind, hnext⟩ := orFail_bind_eq_ok.mp ((goOn_eq h).2 p' rfl)
    obtain ⟨_, hbegin, hnext⟩ := bind_eq_ok.mp hnext
    obtain rfl := pure_eq_ok.mp hnext
    exact .read (Table.find?_eq_some.mp hfind).1 hbegin
  | posting user publication =>
    obtain ⟨-, -, hnext⟩ := bind_eq_ok.mp ((goOn_eq h).2 p' rfl)
    obtain rfl := pure_eq_ok.mp hnext
    exact .guarded
  | publishing user publication =>
    obtain ⟨row, hrow, rfl⟩ := map_eq_ok.mp ((goOn_eq h).2 p' rfl)
    exact .written hrow
  | reversing id input user policy =>
    obtain ⟨original, hfind, hnext⟩ := orFail_bind_eq_ok.mp ((goOn_eq h).2 p' rfl)
    obtain ⟨-, -, hnext⟩ := bind_eq_ok.mp hnext
    obtain ⟨hposted, hnext⟩ := failIf_bind_eq_ok.mp hnext
    obtain ⟨-, hnext⟩ := failIf_bind_eq_ok.mp hnext
    obtain ⟨d, hd, hnext⟩ := bind_eq_ok.mp hnext
    obtain rfl := pure_eq_ok.mp hnext
    exact .undone (Table.find?_eq_some.mp hfind).1 (not_not.mp hposted) hd
  | counting input user =>
    obtain ⟨_, hcount, rfl⟩ := map_eq_ok.mp ((goOn_eq h).2 p' rfl)
    exact .counted hcount
  | keeping | published | decided | voiding => cases (commit_eq h).1
  | closing | reopened => cases (Prod.mk.inj h).2

/-- What a new row needs to be committed. -/
theorem commitNew_eq_ok {row : AccountingDocument} (h : commitNew db row = .ok db') :
    (row.journal.lines.map (·.debit)).sum = (row.journal.lines.map (·.credit)).sum ∧
      violatesUnique db.documents row = false ∧ db' = { db with documents := db.documents.create row.stored } := by
  obtain ⟨hbalanced, h⟩ := failIf_bind_eq_ok.mp h
  obtain ⟨hunique, h⟩ := failIf_bind_eq_ok.mp h
  exact ⟨not_not.mp hbalanced, Bool.eq_false_iff.mpr hunique, (pure_eq_ok.mp h).symm⟩

/-- A reversal and its original are written together. -/
theorem commitReversal_eq_ok {original new row : AccountingDocument}
    (h : commitPublication db (.ofReversal original new) row = .ok db') : db' = { db with
      documents := (db.documents.create row.stored).put (reversedDocument original db.documents.nextKey) } := by
  obtain ⟨store, hstore, h⟩ := bind_eq_ok.mp h
  obtain ⟨-, -, rfl⟩ := commitNew_eq_ok hstore
  obtain ⟨-, -, h⟩ := bind_eq_ok.mp h
  obtain ⟨-, -, h⟩ := bind_eq_ok.mp h
  exact (pure_eq_ok.mp h).symm

/-- A decision is written on a draft that waits. -/
theorem commitDecision_eq_ok {id : Nat} {user : AuthUser} {decision : DocumentDecision} {now : Instant}
    (h : commitDecision db id user decision now = .ok db') :
    ∃ d ∈ db.documents, d.id = id ∧ d.isPendingDraft = true ∧
      db' = { db with documents := db.documents.put (decidedDocument d user decision now) } := by
  obtain ⟨document, hfind, h⟩ := orFail_bind_eq_ok.mp h
  obtain ⟨hpending, h⟩ := failIf_bind_eq_ok.mp h
  obtain ⟨-, -, h⟩ := bind_eq_ok.mp h
  obtain ⟨-, -, h⟩ := bind_eq_ok.mp h
  obtain ⟨hmem, hid⟩ := Table.find?_eq_some.mp hfind
  exact ⟨document, hmem, hid, Bool.not_eq_false _ ▸ hpending, (pure_eq_ok.mp h).symm⟩

theorem commitVoid_eq_ok {id : Nat} (h : commitVoid db id = .ok db') :
    ∃ d ∈ db.documents, d.id = id ∧ d.status = .draft ∧
      db' = { db with documents := db.documents.put { d with status := .void } } := by
  obtain ⟨document, hfind, h⟩ := orFail_bind_eq_ok.mp h
  obtain ⟨hdraft, h⟩ := failIf_bind_eq_ok.mp h
  obtain ⟨hmem, hid⟩ := Table.find?_eq_some.mp hfind
  exact ⟨document, hmem, hid, not_not.mp hdraft, (pure_eq_ok.mp h).symm⟩

/-- Both rows of a reversal are there afterwards. -/
theorem mem_reversal {t : Table AccountingDocument} {original : AccountingDocument} {s : Nat → AccountingDocument}
    (hkey : ∀ id, (s id).id = id) (hfound : original ∈ t) :
    s t.nextKey ∈ (t.create s).put (reversedDocument original t.nextKey) ∧
      reversedDocument original t.nextKey ∈ (t.create s).put (reversedDocument original t.nextKey) := by
  refine ⟨(Table.mem_put_ne fun heq => ?_).mpr ((Table.mem_create hkey).mpr (.inr rfl)),
    Table.mem_put_self (Table.mem_create_of_mem hkey hfound) rfl⟩
  exact (Table.key_lt_nextKey hfound).ne (heq.symm.trans (hkey _) : original.id = _)

end Commits

/-! ## New rows -/

/-- A row as it is inserted: a draft that no one decided, and who must approve it. -/
structure NewDraft (row : AccountingDocument) : Prop where
  status : row.status = .draft
  approval : row.origin = .serverGenerated ∧ row.approvalStatus = .notRequired ∧
      row.approvalPolicyRef = some SERVER_GENERATED_POLICY_REF ∨
    row.origin = .manual ∧ row.approvalStatus = .pending ∧ row.approvalPolicyRef = some ALL_MANUAL_POLICY_REF
  createdBy : row.createdBy.isSome
  reversedById : row.reversedById = none
  amountLc : ∀ line ∈ row.journal.lines, line.amountLc ≠ 0

section New

/-- What the policy decides. -/
theorem resolveApproval_eq_ok {origin : ApprovalOrigin} {policy : Option String} {requested : Option DocumentApproval}
    {approval : ResolvedApproval} (h : resolveApprovalForCreation origin policy requested = .ok approval) :
    origin = .serverGenerated ∧ approval.approvalStatus = .notRequired ∧
        approval.approvalPolicyRef = SERVER_GENERATED_POLICY_REF ∨
      origin = .manual ∧ approval.approvalStatus = .pending ∧ approval.approvalPolicyRef = ALL_MANUAL_POLICY_REF := by
  have hrequested : ∀ {resolved : ResolvedApproval}, withRequested requested resolved = .ok approval →
      resolved = approval := fun h => pure_eq_ok.mp (failIf_bind_eq_ok.mp h).2
  cases origin with
  | serverGenerated =>
    obtain rfl := hrequested h
    exact .inl ⟨rfl, rfl, rfl⟩
  | manual =>
    cases policy with
    | none => cases h
    | some policy =>
      simp only [resolveApprovalForCreation, evaluateApprovalPolicy, reduceCtorEq, if_false] at h
      split at h
      · cases h
      · rename_i hdecision
        split at hdecision
        · cases hdecision
        · split at hdecision
          · cases hdecision
          · obtain ⟨rfl, rfl⟩ := ApprovalPolicyDecision.required.inj hdecision
            obtain rfl := hrequested h
            exact .inr ⟨rfl, rfl, rfl⟩
      · rename_i hdecision
        split at hdecision
        · cases hdecision
        · split at hdecision <;> cases hdecision

variable {d : ResolvedDraft} {policySnapshotId : Option Nat} {row : AccountingDocument}

/-- The rows of a draft. -/
theorem recordDraft_eq_ok (h : recordDraft d.document d.drafting.approval d.drafting.origin policySnapshotId
      d.drafting.user = .ok row) :
    NewDraft row ∧ row.origin = d.drafting.origin ∧ row.reversalOfId = none ∧
      List.Forall₂ (fun (line : DraftJournalLineInput) stored => ∃ index, recordLine index line = .ok stored)
        d.drafting.input.lines row.journal.lines := by
  obtain ⟨lines, hlines, h⟩ := bind_eq_ok.mp h
  obtain rfl := pure_eq_ok.mp h
  have hrecorded : List.Forall₂ (fun (line : DraftJournalLineInput) stored => ∃ index, recordLine index line = .ok stored)
      d.document.input.lines lines := by
    have hall := (mapM_eq_ok.mp hlines).imp fun line stored hline =>
      (⟨line.2, hline⟩ : ∃ index, recordLine index line.1 = .ok stored)
    have hfst := List.forall₂_map_left_iff (f := Prod.fst)
      (R := fun line stored => ∃ index, recordLine index line = .ok stored) |>.mpr hall
    rwa [List.zipIdx_map_fst] at hfst
  obtain ⟨-, amounts, hvalid, -⟩ := validate_eq_ok d.valid
  have hlocal := amountLc_of_recorded hrecorded (List.forall₂_map_left_iff.mp hvalid)
  refine ⟨⟨rfl, ?_, rfl, rfl, hlocal⟩, rfl, rfl, d.lines ▸ hrecorded⟩
  rcases resolveApproval_eq_ok d.drafting.resolved with ⟨horigin, hstatus, href⟩ | ⟨horigin, hstatus, href⟩
  · exact .inl ⟨horigin, hstatus, congrArg some href⟩
  · exact .inr ⟨horigin, hstatus, congrArg some href⟩

end New

/-! ## How documents change -/

/-- How a stored row may change, other than by a reversal. -/
inductive RowMove : AccountingDocument → AccountingDocument → Prop where
  | decided {d user decision now} (pending : d.isPendingDraft = true) (other : d.createdBy ≠ some user.sub) :
      RowMove d (decidedDocument d user decision now)
  | published {d user now hash} (status : d.status = .draft) (approved : assertDocumentApprovedForPosting d = .ok ())
      (valid : DoubleEntry.validate (d.journal.lines.map JournalLine.amounts) = .ok ()) :
      RowMove d (publishedDocument d user now hash)
  | voided {d} (status : d.status = .draft) : RowMove d { d with status := .void }

/-- A new document that the server derives and publishes. -/
structure NewPublished (row : AccountingDocument) : Prop extends NewDraft row where
  exempt : row.origin = .serverGenerated
  valid : DoubleEntry.validate (row.journal.lines.map JournalLine.amounts) = .ok ()

/-- **All that a commit does** to the documents. -/
inductive DocumentsWrite (t : Table AccountingDocument) : Table AccountingDocument → Prop where
  | kept {row} (new : NewDraft row) (unlinked : row.reversalOfId = none) : DocumentsWrite t (t.create row.stored)
  | published {row user now hash} (new : NewPublished row) (unlinked : row.reversalOfId = none) :
      DocumentsWrite t (t.create (publishedDocument row user now hash).stored)
  | moved {old new} (found : old ∈ t) (move : RowMove old new) : DocumentsWrite t (t.put new)
  | reversed {original row user now hash} (found : original ∈ t) (posted : original.status = .posted)
      (new : NewPublished row) (linked : row.reversalOfId = some original.id)
      (mirrors : List.Forall₂ Mirrors original.journal.lines row.journal.lines) :
      DocumentsWrite t
        ((t.create (publishedDocument row user now hash).stored).put (reversedDocument original t.nextKey))

theorem RowMove.id_eq {old new : AccountingDocument} (h : RowMove old new) : new.id = old.id := by
  cases h with
  | @decided _ decision _ _ _ => cases decision <;> rfl
  | published | voided => rfl

/-- What such a change keeps. -/
theorem RowMove.kept {old new : AccountingDocument} (h : RowMove old new) :
    new.createdBy = old.createdBy ∧ new.origin = old.origin ∧ new.reversalOfId = old.reversalOfId ∧
      new.approvalPolicyRef = old.approvalPolicyRef ∧ new.journal.lines = old.journal.lines := by
  cases h with
  | @decided user decision now _ _ => cases decision <;> exact ⟨rfl, rfl, rfl, rfl, rfl⟩
  | published | voided => exact ⟨rfl, rfl, rfl, rfl, rfl⟩

/-! ## What a transaction relies on -/

/-- The original of a reversal is there as it was read; its lines are those of the draft, mirrored. -/
def Drafting.Relies (t : Table AccountingDocument) (d : Drafting) : Prop :=
  match d.purpose with
  | .keep => True
  | .publish => d.origin = .serverGenerated
  | .reversal original => d.origin = .serverGenerated ∧ original ∈ t ∧ original.status = .posted ∧
      ∃ reason, d.input.lines = original.journal.lines.map (reversalLine original.id reason)

/-- The rows that are locked are there as they were read. -/
def Publication.Relies (t : Table AccountingDocument) : Publication → Prop
  | .ofDraft row => row ∈ t ∧ row.status = .draft ∧ assertDocumentApprovedForPosting row = .ok ()
  | .ofNew row => NewDraft row ∧ row.origin = .serverGenerated ∧ row.reversalOfId = none
  | .ofReversal original row => NewDraft row ∧ row.origin = .serverGenerated ∧ row.reversalOfId = some original.id ∧
      original ∈ t ∧ original.status = .posted ∧ List.Forall₂ Mirrors original.journal.lines row.journal.lines

def LedgerPoint.Relies (t : Table AccountingDocument) : LedgerPoint → Prop
  | .numbering d | .resolving d _ => d.Relies t
  | .validating d | .inserting d => d.drafting.Relies t
  | .keeping row => NewDraft row ∧ row.reversalOfId = none
  | .posting _ publication | .publishing _ publication => publication.Relies t
  | .published publication row => publication.Relies t ∧
      DoubleEntry.validate (publication.row.journal.lines.map JournalLine.amounts) = .ok () ∧
      ∃ user now hash, row = publishedDocument publication.row user now hash
  | .deciding id user _ | .decided id user _ => ∃ d ∈ t, d.id = id ∧ d.createdBy ≠ some user.sub
  | .locked .. | .reversing .. | .voiding _ | .counting .. | .counted .. | .closing .. | .reopening _ | .reopened _ => True

section Writes

variable {db db' : AccountingDb} {answer : LedgerAnswer} {p : LedgerPoint}

/-- **What is committed** is one of the writes, or nothing is done to the documents. -/
theorem ledgerWrites (h : LedgerCommit db answer p db') (hp : p.Relies db.documents) :
    db'.documents = db.documents ∨ DocumentsWrite db.documents db'.documents := by
  cases h with
  | kept hnew =>
    obtain ⟨-, -, rfl⟩ := commitNew_eq_ok hnew
    exact .inr (.kept hp.1 hp.2)
  | @published publication row _ hcommit =>
    obtain ⟨hrelies, hvalid, user, now, hash, rfl⟩ := hp
    cases publication with
    | ofDraft row =>
      obtain rfl := Except.ok.inj hcommit
      exact .inr (.moved hrelies.1 (.published hrelies.2.1 hrelies.2.2 hvalid))
    | ofNew row =>
      obtain ⟨-, -, rfl⟩ := commitNew_eq_ok hcommit
      exact .inr (.published ⟨hrelies.1, hrelies.2.1, hvalid⟩ hrelies.2.2)
    | ofReversal original row =>
      obtain ⟨hnew, hexempt, hlinked, hfound, hposted, hmirrors⟩ := hrelies
      obtain rfl := commitReversal_eq_ok hcommit
      exact .inr (.reversed hfound hposted ⟨hnew, hexempt, hvalid⟩ hlinked hmirrors)
  | @decided id user decision _ hcommit =>
    obtain ⟨d, hd, hid, hother⟩ := hp
    obtain ⟨document, hmem, hkey, hpending, rfl⟩ := commitDecision_eq_ok hcommit
    obtain rfl : d = document := Table.eq_of_key_eq hd hmem (hid.trans hkey.symm)
    exact .inr (.moved hmem (.decided hpending hother))
  | voided hcommit =>
    obtain ⟨document, hmem, -, hdraft, rfl⟩ := commitVoid_eq_ok hcommit
    exact .inr (.moved hmem (.voided hdraft))
  | closed | reopened => exact .inl rfl

/-- A row that the transaction has not locked stays as it is. -/
theorem LedgerCommit.keeps (h : LedgerCommit db answer p db') (hp : p.Relies db.documents) {d : AccountingDocument}
    (hd : d ∈ db.documents) (hlock : .document d.id ∉ p.locks) : d ∈ db'.documents := by
  have hput : ∀ {t : Table AccountingDocument} {new : AccountingDocument}, d ∈ t →
      .document new.id ∈ p.locks → d ∈ t.put new := by
    intro t new hd hnew
    exact (Table.mem_put_ne fun hkey => hlock (by rw [show d.id = new.id from hkey]; exact hnew)).mpr hd
  have hcreate : ∀ row : AccountingDocument, d ∈ db.documents.create row.stored := fun row =>
    Table.mem_create_of_mem (fun _ => rfl) hd
  cases h with
  | kept hnew =>
    obtain ⟨-, -, rfl⟩ := commitNew_eq_ok hnew
    exact hcreate _
  | @published publication row _ hcommit =>
    obtain ⟨-, -, user, now, hash, rfl⟩ := hp
    cases publication with
    | ofDraft row =>
      obtain rfl := Except.ok.inj hcommit
      exact hput hd List.mem_cons_self
    | ofNew row =>
      obtain ⟨-, -, rfl⟩ := commitNew_eq_ok hcommit
      exact hcreate _
    | ofReversal original row =>
      obtain rfl := commitReversal_eq_ok hcommit
      exact hput (hcreate _) List.mem_cons_self
  | @decided id user decision _ hcommit =>
    obtain ⟨document, -, rfl, -, rfl⟩ := commitDecision_eq_ok hcommit
    exact hput hd (by cases decision <;> exact List.mem_cons_self)
  | voided hcommit =>
    obtain ⟨document, -, rfl, -, rfl⟩ := commitVoid_eq_ok hcommit
    exact hput hd List.mem_cons_self
  | closed | reopened => exact hd

end Writes

end AtlasErp
