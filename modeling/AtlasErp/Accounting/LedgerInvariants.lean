import AtlasErp.Accounting.LedgerWrites

/-! # What every ledger satisfies

- `DocumentInv`: what holds of each stored document;
- `DocumentsInv`: the same of all, and how reversals and their originals go together;
- `DocumentsWrite.inv`: each write keeps it;
- `ledger_keeps`: it holds in every reachable state, with what each transaction relies on. -/

namespace AtlasErp

open Lib

/-- What holds of a stored document. -/
structure DocumentInv (d : AccountingDocument) : Prop where
  exempt : d.origin = .serverGenerated → d.approvalStatus = .notRequired ∧
    d.approvalPolicyRef = some SERVER_GENERATED_POLICY_REF
  manual : d.origin = .manual → d.approvalStatus ≠ .notRequired
  approver : d.approvalStatus = .approved → ∃ approver ∈ d.approvedBy, ∃ creator ∈ d.createdBy, approver ≠ creator
  createdBy : d.createdBy.isSome
  published : d.status = .posted ∨ d.status = .reversed → assertDocumentApprovedForPosting d = .ok () ∧
    DoubleEntry.validate (d.journal.lines.map JournalLine.amounts) = .ok ()
  linked : d.reversalOfId.isSome → d.status = .posted ∨ d.status = .reversed
  amountLc : ∀ line ∈ d.journal.lines, line.amountLc ≠ 0

/-- What holds of all: a reversal undoes a reversed document, and a reversed document has one. -/
structure DocumentsInv (t : Table AccountingDocument) : Prop where
  document : ∀ d ∈ t, DocumentInv d
  original : ∀ r ∈ t, ∀ id ∈ r.reversalOfId, ∃ d ∈ t, d.id = id ∧ d.status = .reversed ∧ d.reversedById = some r.id ∧
    List.Forall₂ Mirrors d.journal.lines r.journal.lines
  reversal : ∀ d ∈ t, d.status = .reversed → ∃ r ∈ t, r.reversalOfId = some d.id

/-! ## Documents -/

section Documents

variable {d row old new : AccountingDocument} {user : AuthUser} {now : Instant} {hash : Text} {id : Nat}

theorem NewDraft.inv (h : NewDraft row) (hlinked : row.reversalOfId = none) : DocumentInv (row.stored id) where
  exempt horigin := by
    rcases h.approval with ⟨-, hstatus, href⟩ | ⟨hmanual, -, -⟩
    · exact ⟨hstatus, href⟩
    · cases hmanual.symm.trans horigin
  manual horigin := by
    rcases h.approval with ⟨hserver, -, -⟩ | ⟨-, hstatus, -⟩
    · cases hserver.symm.trans horigin
    · exact fun hnot => nomatch hstatus.symm.trans hnot
  approver happroved := by
    rcases h.approval with ⟨-, hstatus, -⟩ | ⟨-, hstatus, -⟩ <;> cases hstatus.symm.trans happroved
  createdBy := h.createdBy
  published hstatus := by rcases hstatus with hstatus | hstatus <;> cases h.status.symm.trans hstatus
  linked hsome := by
    rw [show (row.stored id).reversalOfId = none from hlinked] at hsome
    cases hsome
  amountLc := h.amountLc

theorem NewPublished.inv (h : NewPublished row) : DocumentInv ((publishedDocument row user now hash).stored id) := by
  rcases h.approval with ⟨-, hstatus, href⟩ | ⟨hmanual, -, -⟩
  · refine ⟨fun _ => ⟨hstatus, href⟩, fun horigin => ?_, fun happroved => ?_, h.createdBy, fun _ => ⟨?_, h.valid⟩,
      fun _ => .inl rfl, h.amountLc⟩
    · cases h.exempt.symm.trans horigin
    · cases hstatus.symm.trans happroved
    · refine if_pos ⟨hstatus, ?_⟩
      rw [show ((publishedDocument row user now hash).stored id).approvalPolicyRef = _ from href]
      rfl
  · cases hmanual.symm.trans h.exempt

theorem RowMove.inv (h : RowMove old new) (hinv : DocumentInv old) : DocumentInv new := by
  cases h with
  | @decided user decision now hpending hother =>
    obtain ⟨hdraft, hwaits⟩ := of_decide_eq_true hpending
    have hmanual : old.origin ≠ .serverGenerated := fun horigin => by cases hwaits.symm.trans (hinv.exempt horigin).1
    have hunlinked : ¬ old.reversalOfId.isSome := fun hsome => by
      rcases hinv.linked hsome with hstatus | hstatus <;> cases hdraft.symm.trans hstatus
    cases decision with
    | approved =>
      refine ⟨fun horigin => absurd horigin hmanual, fun _ => nofun, fun _ => ⟨user.sub, rfl, ?_⟩, hinv.createdBy,
        fun hstatus => ?_, fun hsome => absurd hsome hunlinked, hinv.amountLc⟩
      · obtain ⟨creator, hcreator⟩ := Option.isSome_iff_exists.mp hinv.createdBy
        exact ⟨creator, hcreator, fun heq => hother (heq ▸ hcreator)⟩
      · rcases hstatus with hstatus | hstatus <;> cases hdraft.symm.trans hstatus
    | rejected =>
      refine ⟨fun horigin => absurd horigin hmanual, fun _ => nofun, nofun, hinv.createdBy, fun hstatus => ?_,
        fun hsome => absurd hsome hunlinked, hinv.amountLc⟩
      rcases hstatus with hstatus | hstatus <;> cases hdraft.symm.trans hstatus
  | published _ happroved hvalid => exact { hinv with published := fun _ => ⟨happroved, hvalid⟩, linked := fun _ => .inl rfl }
  | voided hdraft =>
    refine { hinv with published := fun hstatus => ?_, linked := fun hsome => ?_ }
    · rcases hstatus with hstatus | hstatus <;> cases hstatus
    · rcases hinv.linked hsome with hstatus | hstatus <;> cases hdraft.symm.trans hstatus

theorem DocumentInv.reversed (h : DocumentInv d) (hposted : d.status = .posted) :
    DocumentInv (reversedDocument d id) :=
  { h with published := fun _ => h.published (.inl hposted), linked := fun _ => .inr rfl }

end Documents

/-! ## All documents -/

section All

variable {t t' : Table AccountingDocument}

/-- A write of a row that is not reversed, before or after, and keeps its lines and its link. -/
theorem DocumentsInv.put (h : DocumentsInv t) {old new : AccountingDocument} (hold : old ∈ t) (hmove : RowMove old new) :
    DocumentsInv (t.put new) := by
  obtain ⟨-, -, hlink, -, hlines⟩ := hmove.kept
  have hnot : old.status ≠ .reversed ∧ new.status ≠ .reversed := by
    cases hmove with
    | @decided user decision now hpending _ =>
      rw [(of_decide_eq_true hpending).1]
      cases decision <;> exact ⟨nofun, fun hstatus => nomatch (of_decide_eq_true hpending).1.symm.trans hstatus⟩
    | published hdraft | voided hdraft =>
      rw [hdraft]
      exact ⟨nofun, nofun⟩
  have hkeep : ∀ d ∈ t, d.status = .reversed → d ∈ t.put new := by
    intro d hd hreversed
    refine (Table.mem_put_ne fun hkey => hnot.1 ?_).mpr hd
    rw [← Table.eq_of_key_eq hd hold (hkey.trans hmove.id_eq), hreversed]
  refine ⟨Table.forall_mem_put (fun d hd _ => h.document d hd) (hmove.inv (h.document old hold)), ?_, ?_⟩
  · refine Table.forall_mem_put (fun r hr _ id hid => ?_) (fun id hid => ?_)
    · obtain ⟨d, hd, hid, hstatus, hby, hmirrors⟩ := h.original r hr id hid
      exact ⟨d, hkeep d hd hstatus, hid, hstatus, hby, hmirrors⟩
    · obtain ⟨d, hd, hid, hstatus, hby, hmirrors⟩ := h.original old hold id (hlink ▸ hid)
      exact ⟨d, hkeep d hd hstatus, hid, hstatus, hmove.id_eq ▸ hby, hlines ▸ hmirrors⟩
  · refine Table.forall_mem_put (fun d hd _ hreversed => ?_) (fun hreversed => absurd hreversed hnot.2)
    obtain ⟨r, hr, hlinked⟩ := h.reversal d hd hreversed
    by_cases hkey : r.id = new.id
    · obtain rfl := Table.eq_of_key_eq hr hold (hkey.trans hmove.id_eq)
      exact ⟨new, Table.mem_put_self hold hmove.id_eq, hlink.trans hlinked⟩
    · exact ⟨r, (Table.mem_put_ne hkey).mpr hr, hlinked⟩

/-- An insert of a row that undoes nothing. -/
theorem DocumentsInv.create (h : DocumentsInv t) {row : AccountingDocument} (hinv : ∀ id, DocumentInv (row.stored id))
    (hunlinked : row.reversalOfId = none) (hstatus : row.status ≠ .reversed) : DocumentsInv (t.create row.stored) := by
  have hcases : ∀ {x : AccountingDocument}, x ∈ t.create row.stored → x ∈ t ∨ x = row.stored t.nextKey :=
    fun hx => (Table.mem_create fun _ => rfl).mp hx
  have hkeep : ∀ d ∈ t, d ∈ t.create row.stored := fun d hd => Table.mem_create_of_mem (fun _ => rfl) hd
  refine ⟨fun d hd => ?_, fun r hr id hid => ?_, fun d hd hreversed => ?_⟩
  · rcases hcases hd with hd | rfl
    · exact h.document d hd
    · exact hinv _
  · rcases hcases hr with hr | rfl
    · obtain ⟨d, hd, hrest⟩ := h.original r hr id hid
      exact ⟨d, hkeep d hd, hrest⟩
    · rw [show (row.stored t.nextKey).reversalOfId = none from hunlinked] at hid
      cases hid
  · rcases hcases hd with hd | rfl
    · obtain ⟨r, hr, hlinked⟩ := h.reversal d hd hreversed
      exact ⟨r, hkeep r hr, hlinked⟩
    · exact absurd hreversed hstatus

/-- A reversal and its original, written together. -/
theorem DocumentsInv.reverse (h : DocumentsInv t) {original row : AccountingDocument} {user : AuthUser} {now : Instant}
    {hash : Text} (hfound : original ∈ t) (hposted : original.status = .posted) (hnew : NewPublished row)
    (hlinked : row.reversalOfId = some original.id)
    (hmirrors : List.Forall₂ Mirrors original.journal.lines row.journal.lines) :
    DocumentsInv
      ((t.create (publishedDocument row user now hash).stored).put (reversedDocument original t.nextKey)) := by
  generalize hstored : (publishedDocument row user now hash).stored = stored
  have hkey : ∀ id, (stored id).id = id := fun id => by rw [← hstored]; rfl
  have hcreated : original ∈ t.create stored := Table.mem_create_of_mem hkey hfound
  obtain ⟨hnewRow, hself⟩ := mem_reversal hkey hfound
  have hkeep : ∀ d ∈ t, d.id ≠ original.id → d ∈ (t.create stored).put (reversedDocument original t.nextKey) :=
    fun d hd hne => (Table.mem_put_ne hne).mpr (Table.mem_create_of_mem hkey hd)
  have hcases : ∀ {x : AccountingDocument}, x ∈ (t.create stored).put (reversedDocument original t.nextKey) →
      x = reversedDocument original t.nextKey ∨ x = stored t.nextKey ∨ x ∈ t ∧ x.id ≠ original.id := by
    intro x hx
    rcases (Table.mem_put (r := reversedDocument original t.nextKey) hcreated rfl).mp hx with rfl | ⟨hx, hne⟩
    · exact .inl rfl
    · rcases (Table.mem_create hkey).mp hx with hx | rfl
      · exact .inr (.inr ⟨hx, hne⟩)
      · exact .inr (.inl rfl)
  -- a document that was reversed is not the original, which was posted
  have hother : ∀ d ∈ t, d.status = .reversed → d.id ≠ original.id := by
    intro d hd hreversed heq
    rw [Table.eq_of_key_eq hd hfound heq, hposted] at hreversed
    cases hreversed
  refine ⟨fun d hd => ?_, fun r hr id hid => ?_, fun d hd hreversed => ?_⟩
  · rcases hcases hd with rfl | rfl | ⟨hd, -⟩
    · exact (h.document original hfound).reversed hposted
    · rw [← hstored]
      exact hnew.inv
    · exact h.document d hd
  · rcases hcases hr with rfl | rfl | ⟨hr, -⟩
    · obtain ⟨d, hd, hid, hstatus, hby, hmirror⟩ := h.original original hfound id hid
      exact ⟨d, hkeep d hd (hother d hd hstatus), hid, hstatus, hby, hmirror⟩
    · rw [← hstored] at hid
      obtain rfl : original.id = id := Option.some.inj (hlinked.symm.trans hid)
      refine ⟨_, hself, rfl, rfl, ?_, ?_⟩
      · rw [hkey]
        rfl
      · rw [← hstored]
        exact hmirrors
    · obtain ⟨d, hd, hid, hstatus, hby, hmirror⟩ := h.original r hr id hid
      exact ⟨d, hkeep d hd (hother d hd hstatus), hid, hstatus, hby, hmirror⟩
  · rcases hcases hd with rfl | rfl | ⟨hd, -⟩
    · exact ⟨_, hnewRow, by rw [← hstored]; exact hlinked⟩
    · rw [← hstored] at hreversed
      cases hreversed
    · obtain ⟨r, hr, hlinkedR⟩ := h.reversal d hd hreversed
      by_cases heq : r.id = original.id
      · rw [Table.eq_of_key_eq hr hfound heq] at hlinkedR
        exact ⟨_, hself, hlinkedR⟩
      · exact ⟨r, hkeep r hr heq, hlinkedR⟩

/-- **Each write keeps the invariant.** -/
theorem DocumentsWrite.inv (h : DocumentsWrite t t') (hinv : DocumentsInv t) : DocumentsInv t' := by
  cases h with
  | kept hnew hunlinked =>
    exact hinv.create (fun _ => hnew.inv hunlinked) hunlinked fun hstatus => nomatch hnew.status.symm.trans hstatus
  | published hnew hunlinked => exact hinv.create (fun _ => hnew.inv) hunlinked nofun
  | moved hfound hmove => exact hinv.put hfound hmove
  | reversed hfound hposted hnew hlinked hmirrors => exact hinv.reverse hfound hposted hnew hlinked hmirrors

end All

/-! ## Transactions -/

section Promises

variable {t t' : Table AccountingDocument} {db db' : AccountingDb} {answer : LedgerAnswer} {p p' : LedgerPoint}

/-- What a transaction relies on stays, when the rows it has locked do and no creator changes. -/
theorem LedgerPoint.Relies.stable (hp : p.Relies t) (hrow : ∀ d ∈ t, .document d.id ∈ p.locks → d ∈ t')
    (hcreator : ∀ d ∈ t, ∃ d' ∈ t', d'.id = d.id ∧ d'.createdBy = d.createdBy) : p.Relies t' := by
  have hdrafting : ∀ d : Drafting, d.Relies t → (∀ d' ∈ t, .document d'.id ∈ LedgerPoint.locks.purpose d → d' ∈ t') →
      d.Relies t' := by
    intro d hd hrow
    unfold Drafting.Relies at hd ⊢
    unfold LedgerPoint.locks.purpose at hrow
    cases hpurpose : d.purpose with
    | keep => trivial
    | publish =>
      rw [hpurpose] at hd
      exact hd
    | reversal original =>
      rw [hpurpose] at hd hrow
      exact ⟨hd.1, hrow original hd.2.1 List.mem_cons_self, hd.2.2⟩
  have hpublication : ∀ publication : Publication, publication.Relies t →
      (∀ d ∈ t, .document d.id ∈ publication.locks → d ∈ t') → publication.Relies t' := by
    intro publication hd hrow
    cases publication with
    | ofDraft row => exact ⟨hrow row hd.1 List.mem_cons_self, hd.2⟩
    | ofNew row => exact hd
    | ofReversal original row =>
      obtain ⟨hnew, hexempt, hlinked, hfound, hrest⟩ := hd
      exact ⟨hnew, hexempt, hlinked, hrow original hfound List.mem_cons_self, hrest⟩
  cases p with
  | numbering d | resolving d => exact hdrafting d hp hrow
  | validating d | inserting d => exact hdrafting d.drafting hp hrow
  | keeping => exact hp
  | posting _ publication | publishing _ publication => exact hpublication publication hp hrow
  | published publication row => exact ⟨hpublication publication hp.1 hrow, hp.2⟩
  | deciding id user | decided id user =>
    obtain ⟨d, hd, hid, hother⟩ := hp
    obtain ⟨d', hd', hid', hcreated⟩ := hcreator d hd
    exact ⟨d', hd', hid'.trans hid, hcreated ▸ hother⟩
  | locked | reversing | voiding | counting | counted | closing | reopening | reopened => trivial

/-- What no write changes of a document. -/
structure SameEntry (d d' : AccountingDocument) : Prop where
  id : d'.id = d.id
  createdBy : d'.createdBy = d.createdBy
  source : d'.sourceSystem = d.sourceSystem ∧ d'.sourceType = d.sourceType ∧ d'.sourceId = d.sourceId
  lines : d'.journal.lines = d.journal.lines

theorem SameEntry.refl (d : AccountingDocument) : SameEntry d d := ⟨rfl, rfl, ⟨rfl, rfl, rfl⟩, rfl⟩

theorem RowMove.entry {old new : AccountingDocument} (h : RowMove old new) : SameEntry old new := by
  cases h with
  | @decided user decision now _ _ => cases decision <;> exact ⟨rfl, rfl, ⟨rfl, rfl, rfl⟩, rfl⟩
  | published | voided => exact ⟨rfl, rfl, ⟨rfl, rfl, rfl⟩, rfl⟩

/-- **No write takes a document away**, or changes its entry. -/
theorem DocumentsWrite.entry (h : DocumentsWrite t t') {d : AccountingDocument} (hd : d ∈ t) :
    ∃ d' ∈ t', SameEntry d d' := by
  cases h with
  | kept | published => exact ⟨d, Table.mem_create_of_mem (fun _ => rfl) hd, .refl d⟩
  | @moved old new hfound hmove =>
    by_cases hkey : d.id = new.id
    · obtain rfl := Table.eq_of_key_eq hd hfound (hkey.trans hmove.id_eq)
      exact ⟨new, Table.mem_put_self hd hmove.id_eq, hmove.entry⟩
    · exact ⟨d, (Table.mem_put_ne hkey).mpr hd, .refl d⟩
  | @reversed original row user now hash hfound =>
    have hcreated : ∀ x ∈ t, x ∈ t.create (publishedDocument row user now hash).stored :=
      fun x hx => Table.mem_create_of_mem (fun _ => rfl) hx
    by_cases hkey : d.id = original.id
    · obtain rfl := Table.eq_of_key_eq hd hfound hkey
      exact ⟨_, Table.mem_put_self (hcreated d hd) rfl, rfl, rfl, ⟨rfl, rfl, rfl⟩, rfl⟩
    · exact ⟨d, (Table.mem_put_ne hkey).mpr (hcreated d hd), .refl d⟩

/-- What a transaction relies on stays when another commits, which has not locked its rows. -/
theorem LedgerPoint.Relies.commit {q : LedgerPoint} (hq : q.Relies db.documents) (h : LedgerCommit db answer p db')
    (hp : p.Relies db.documents) (hlocks : ∀ k ∈ q.locks, k ∉ p.locks) : q.Relies db'.documents := by
  refine hq.stable (fun d hd hlock => h.keeps hp hd (hlocks _ hlock)) fun d hd => ?_
  rcases ledgerWrites h hp with heq | hwrite
  · exact ⟨d, heq ▸ hd, rfl, rfl⟩
  · obtain ⟨d', hd', hsame⟩ := hwrite.entry hd
    exact ⟨d', hd', hsame.id, hsame.createdBy⟩

theorem beginDraft_eq_ok {input : AccountingDraftInput} {user : AuthUser} {origin : ApprovalOrigin}
    {policy : Option String} {purpose : DraftPurpose} {d : Drafting}
    (h : beginDraft input user origin policy purpose = .ok d) :
    d.input = input ∧ d.origin = origin ∧ d.purpose = purpose := by
  obtain ⟨-, -, h⟩ := bind_eq_ok.mp h
  obtain ⟨-, -, h⟩ := bind_eq_ok.mp h
  split at h
  · obtain rfl := Except.ok.inj h
    exact ⟨rfl, rfl, rfl⟩
  · cases h

/-- What a transaction relies on when it begins. -/
theorem LedgerTask.start_relies {task : LedgerTask} (h : task.start db = .ok p) : p.Relies db.documents := by
  cases task with
  | createDraft input user policy =>
    obtain ⟨d, hd, h⟩ := bind_eq_ok.mp h
    obtain rfl := pure_eq_ok.mp h
    obtain ⟨-, -, hpurpose⟩ := beginDraft_eq_ok hd
    simp only [LedgerPoint.Relies, Drafting.Relies, hpurpose]
  | generate input user policy publish =>
    obtain ⟨d, hd, h⟩ := bind_eq_ok.mp h
    obtain rfl := pure_eq_ok.mp h
    obtain ⟨-, horigin, hpurpose⟩ := beginDraft_eq_ok hd
    cases publish with
    | true =>
      simp only [LedgerPoint.Relies, Drafting.Relies, hpurpose, if_true]
      exact horigin
    | false => simp [LedgerPoint.Relies, Drafting.Relies, hpurpose]
  | decide id user decision =>
    obtain ⟨document, hfind, h⟩ := orFail_bind_eq_ok.mp h
    obtain ⟨-, -, h⟩ := bind_eq_ok.mp h
    obtain ⟨_, hcan, h⟩ := bind_eq_ok.mp h
    obtain rfl := pure_eq_ok.mp h
    obtain ⟨hmem, hid⟩ := Table.find?_eq_some.mp hfind
    exact ⟨document, hmem, hid, (failIf_bind_eq_ok.mp hcan).1⟩
  | post | reverse | voidDraft =>
    obtain rfl := Except.ok.inj h
    trivial
  | closePeriod | reopenPeriod =>
    obtain ⟨-, -, h⟩ := bind_eq_ok.mp h
    obtain rfl := pure_eq_ok.mp h
    trivial

/-- What is inserted for a reversal mirrors its original. -/
theorem insertDraft_relies {d : ResolvedDraft} (hinv : DocumentsInv db.documents) (hd : d.drafting.Relies db.documents)
    (h : insertDraft db d answer = .ok p) : p.Relies db.documents := by
  obtain ⟨row, hrow, h⟩ := bind_eq_ok.mp h
  obtain ⟨hnew, horigin, hunlinked, hlines⟩ := recordDraft_eq_ok hrow
  obtain ⟨-, -, h⟩ := bind_eq_ok.mp h
  obtain ⟨-, h⟩ := failIf_bind_eq_ok.mp h
  unfold Drafting.Relies at hd
  cases hpurpose : d.drafting.purpose with
  | keep =>
    rw [hpurpose] at h
    obtain rfl := pure_eq_ok.mp h
    exact ⟨hnew, hunlinked⟩
  | publish =>
    rw [hpurpose] at h hd
    obtain ⟨-, -, h⟩ := bind_eq_ok.mp h
    obtain rfl := pure_eq_ok.mp h
    exact ⟨hnew, horigin.trans hd, hunlinked⟩
  | reversal original =>
    rw [hpurpose] at h hd
    obtain ⟨hserver, hfound, hposted, reason, hinput⟩ := hd
    obtain ⟨-, -, h⟩ := bind_eq_ok.mp h
    obtain ⟨-, -, h⟩ := bind_eq_ok.mp h
    obtain ⟨-, -, h⟩ := bind_eq_ok.mp h
    obtain rfl := pure_eq_ok.mp h
    refine ⟨{ hnew with }, horigin.trans hserver, rfl, hfound, hposted, ?_⟩
    rw [hinput] at hlines
    have hlocal := (hinv.document original hfound).amountLc
    exact List.forall₂_iff_zip.mpr ⟨by simpa using hlines.length_eq, fun {line stored} hmem => by
      obtain ⟨index, hrecorded⟩ := List.forall₂_iff_zip.mp (List.forall₂_map_left_iff.mp hlines) |>.2 hmem
      exact recordLine_reversalLine (hlocal line (List.of_mem_zip hmem).1) hrecorded⟩

/-- What a transaction relies on when it goes on. -/
theorem LedgerAdvance.relies (hinv : DocumentsInv db.documents) (hp : p.Relies db.documents)
    (h : LedgerAdvance db answer p p') : p'.Relies db.documents := by
  cases h with
  | numbered | validated | guarded | deciding => exact hp
  | resolved hresolve =>
    unfold resolveDraft at hresolve
    split at hresolve
    · cases hresolve
    · split at hresolve
      · cases hresolve
      · obtain rfl := Except.ok.inj hresolve
        exact hp
  | inserted hinsert => exact insertDraft_relies hinv hp hinsert
  | read hfound hbegin =>
    obtain ⟨-, -, hbegin⟩ := bind_eq_ok.mp hbegin
    obtain ⟨hdraft, happroved⟩ := failIf_bind_eq_ok.mp hbegin
    exact ⟨hfound, not_not.mp hdraft, happroved⟩
  | @written user publication row hrow =>
    obtain ⟨_, hvalid, hrow⟩ := bind_eq_ok.mp hrow
    obtain ⟨-, -, hrow⟩ := bind_eq_ok.mp hrow
    obtain ⟨-, -, hrow⟩ := bind_eq_ok.mp hrow
    obtain ⟨-, -, hrow⟩ := bind_eq_ok.mp hrow
    exact ⟨hp, hvalid, user, answer.now, answer.hashSha256, (pure_eq_ok.mp hrow).symm⟩
  | @undone id input user policy documentNo original d hfound hposted hbegin =>
    obtain ⟨hinput, horigin, hpurpose⟩ := beginDraft_eq_ok hbegin
    simp only [LedgerPoint.Relies, Drafting.Relies, hpurpose]
    exact ⟨horigin, hfound, hposted, input.reason, by rw [hinput]; rfl⟩
  | counted | closing | reopening => trivial

end Promises

/-- No row is locked by two transactions. -/
abbrev LedgerExclusive (S : Sessions AccountingDb LedgerPoint) : Prop := ledgerWorkers.Exclusive S

/-- **The transactions keep what they promise.** -/
theorem ledger_promises : ledgerWorkers.Promises LedgerExclusive (fun _ _ => True) (fun db => DocumentsInv db.documents)
    (fun p db => p.Relies db.documents) where
  start := fun _ _ hstart => LedgerTask.start_relies (toOption_eq_some.mp hstart)
  next := by
    intro S w answer p store q _ hS hfind _ hnext
    have hp := hS.at hfind
    rcases ledger_next (Option.some.inj hnext) with rfl | ⟨rfl, hcommit⟩
    · exact ⟨hS.store, fun p' hp' => (ledger_advance (by
        rw [Option.some.inj hnext, ← Option.mem_def.mp hp'])).relies hS.store hp⟩
    · refine ⟨?_, fun p' hp' => absurd hp' (Option.not_mem_none p')⟩
      rcases ledgerWrites hcommit hp with heq | hwrite
      · rw [heq]
        exact hS.store
      · exact hwrite.inv hS.store
  stable := by
    intro S w answer p store q hex hS hfind _ hnext x hx
    have hp := hS.at hfind
    obtain ⟨hx, hne⟩ := Sessions.mem_others.mp hx
    rcases ledger_next (Option.some.inj hnext) with rfl | ⟨-, hcommit⟩
    · exact hS.worker x hx
    · exact (hS.worker x hx).commit hcommit hp (hex x hx _ (S.mem_of_find? hfind) hne)
  outside := by
    intro S event store _ hS _ houtside
    obtain rfl := Option.some.inj houtside
    have hdocuments : (event.apply S.committed).documents = S.committed.documents := by cases event <;> rfl
    refine ⟨?_, fun x hx => ?_⟩
    · show DocumentsInv (event.apply S.committed).documents
      rw [hdocuments]
      exact hS.store
    · show x.2.Relies (event.apply S.committed).documents
      rw [hdocuments]
      exact hS.worker x hx

/-- **The ledger in every reachable state**, with what each transaction relies on. -/
theorem ledger_keeps {S : Sessions AccountingDb LedgerPoint} (h : ledgerMachine.Reachable (fun _ _ => True) S) :
    Workers.Keeps (fun db => DocumentsInv db.documents) (fun p db => p.Relies db.documents) S := by
  refine Workers.keeps ledger_promises (fun db hinit => ?_) (fun _ hS => Workers.exclusive hS) h
  rw [show db.documents = Table.empty from hinit]
  exact ⟨fun d hd => absurd hd (Table.not_mem_empty d), fun r hr => absurd hr (Table.not_mem_empty r),
    fun d hd => absurd hd (Table.not_mem_empty d)⟩

theorem ledger_step_cases {S S' : Sessions AccountingDb LedgerPoint}
    {a : WorkerAct LedgerTask LedgerAnswer LedgerEvent} (hstep : ledgerMachine.step S a = some S') :
    ledgerWorkers.StepCase S a S' := Workers.step_cases hstep

/-- One step writes the documents once at most. -/
theorem ledger_step {S S' : Sessions AccountingDb LedgerPoint} {a : WorkerAct LedgerTask LedgerAnswer LedgerEvent}
    (h : ledgerMachine.Reachable (fun _ _ => True) S) (hstep : ledgerMachine.step S a = some S') :
    S'.committed.documents = S.committed.documents ∨ DocumentsWrite S.committed.documents S'.committed.documents := by
  cases ledger_step_cases hstep with
  | started | died => exact .inl rfl
  | @moved w answer p q store hfind hnext _ =>
    rcases ledger_next (Option.some.inj hnext) with rfl | ⟨hnone, -⟩
    · exact .inl rfl
    · cases hnone
  | @done w answer p store hfind hnext =>
    rcases ledger_next (Option.some.inj hnext) with rfl | ⟨-, hcommit⟩
    · exact .inl rfl
    · exact ledgerWrites hcommit ((ledger_keeps h).at hfind)
  | @changed event store houtside =>
    obtain rfl := Option.some.inj houtside
    cases event <;> exact .inl rfl

/-- A relation between the documents before and after holds across a run when it holds across each write. -/
theorem ledger_run {R : Table AccountingDocument → Table AccountingDocument → Prop} (hrefl : ∀ t, R t t)
    (htrans : ∀ {t u v}, R t u → R u v → R t v) (hwrite : ∀ {t u}, DocumentsInv t → DocumentsWrite t u → R t u)
    {S S' : Sessions AccountingDb LedgerPoint} {as : List (WorkerAct LedgerTask LedgerAnswer LedgerEvent)}
    (h : ledgerMachine.Reachable (fun _ _ => True) S) (hrun : ledgerMachine.Run (fun _ _ => True) S as S') :
    R S.committed.documents S'.committed.documents := by
  refine Machine.Run.relates (R := fun S S' => R S.committed.documents S'.committed.documents)
    (P := ledgerMachine.Reachable fun _ _ => True) (fun S => hrefl _) htrans
    (fun _ _ _ hok hstep hS => hS.step hok hstep) (fun S a S' _ hstep hS => ?_) hrun h
  rcases ledger_step hS hstep with heq | hdone
  · rw [heq]
    exact hrefl _
  · exact hwrite (ledger_keeps hS).store hdone

/-! ## A small ledger -/

/-- One entity with a ledger, a period and two accounts. -/
def smallLedger : AccountingDb where
  master := {
    fiscalYears := [⟨1, 1⟩]
    ledgers := [⟨1, 1, ['L'], true, true⟩]
    glAccounts := [⟨1, true, false, false, false, false, false⟩, ⟨2, true, false, false, false, false, false⟩]
    businessPartners := []
    costCenters := []
    profitCenters := []
    taxCodes := [] }
  periods := ⟨[⟨1, 1, 20700, 20730, true, .open, none, none⟩], by decide⟩
  documents := Table.empty

/-- Ten in the first account, against the second, with these amounts in local currency. -/
def smallDraft (no : Char) (amountLc : Option String) : AccountingDraftInput where
  legalEntityId := 1
  sourceSystem := ['S']
  sourceType := ['T']
  sourceId := some [no]
  documentType := ['D']
  documentNo := some [no]
  documentDate := 20710
  postingDate := none
  accountingPeriodId := some 1
  ledgerId := some 1
  currencyCode := ['B']
  approvalStatus := none
  lines := [line 1 "10" "0" (amountLc.map fun text => .text text.toList), line 2 "0" "10" none]
where
  line (account : Nat) (debit credit : String) (amountLc : Option JournalAmount) : DraftJournalLineInput :=
    ⟨account, .text debit.toList, .text credit.toList, ['B'], amountLc, none, none, none, none, none, none, none⟩

/-- An administrator. -/
def admin (sub : UserId) : AuthUser := ⟨sub, true, []⟩

/-- The answers a transaction gets at each of its steps. -/
def answers (w n : Nat) (documentNo : Text) : List (WorkerAct LedgerTask LedgerAnswer LedgerEvent) :=
  List.replicate n (.go w ⟨documentNo, none, 0, ['h'], false⟩)

end AtlasErp
