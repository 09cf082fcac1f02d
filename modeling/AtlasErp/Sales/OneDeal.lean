import AtlasErp.Sales.Deals

/-! # One deal for each opportunity

The checks of the requests are not repeated when they write, so an opportunity may end with two accepted proposals or
two contracts.

- `OneDeal`, `AcceptedStays`: what is claimed of the tables, and of their change;
- `Rechecked`: a request that commits would pass its checks again;
- `oneDeal`: in every run of such requests, each opportunity has one accepted proposal and one contract at most, and an
  accepted proposal stays accepted;
- `oneDeal_counterexample`: a rejection that crosses an acceptance. -/

namespace AtlasErp

open Lib

/-! ## The property -/

/-- One accepted proposal at most, and one contract that is not terminated, for each opportunity. -/
structure OneDeal (db : DealDb) : Prop where
  proposal : ∀ p ∈ db.proposals, ∀ q ∈ db.proposals, p.opportunityId = q.opportunityId → p.status = .accepted →
    q.status = .accepted → p.id = q.id
  contract : ∀ c ∈ db.contracts, ∀ d ∈ db.contracts, ∀ opportunityId, c.opportunityId = some opportunityId →
    d.opportunityId = some opportunityId → c.status ≠ .terminated → d.status ≠ .terminated → c.id = d.id

/-- An accepted proposal stays accepted. -/
def AcceptedStays (db db' : DealDb) : Prop :=
  ∀ p ∈ db.proposals, p.status = .accepted →
    ∃ p' ∈ db'.proposals, p'.id = p.id ∧ p'.opportunityId = p.opportunityId ∧ p'.status = .accepted

theorem AcceptedStays.refl (db : DealDb) : AcceptedStays db db := fun p hp h => ⟨p, hp, rfl, rfl, h⟩

theorem AcceptedStays.trans {db db' db'' : DealDb} (h : AcceptedStays db db') (h' : AcceptedStays db' db'') :
    AcceptedStays db db'' := by
  intro p hp haccepted
  obtain ⟨p', hp', hid, hopportunity, haccepted'⟩ := h p hp haccepted
  obtain ⟨p'', hp'', hid', hopportunity', haccepted''⟩ := h' p' hp' haccepted'
  exact ⟨p'', hp'', hid'.trans hid, hopportunity'.trans hopportunity, haccepted''⟩

/-- Neither proposals nor requests for them, and no contract in force. -/
def NoDeals (db : DealDb) : Prop :=
  db.proposals = .empty ∧ (∀ a ∈ db.approvalRequests, a.proposalId = none) ∧
    ∀ c ∈ db.contracts, c.status = .terminated

/-! ## The condition -/

/-- A request that commits would pass its checks again on what it finds. -/
def DealPoint.Rechecked (db : DealDb) : DealPoint → Prop
  | .sent copy _ => ∀ p ∈ db.proposals.find? copy.id, checkSend p = .ok ()
  | .contracting copy _ =>
    ∀ p ∈ db.proposals.find? copy.id, checkAccept p = .ok () ∧ db.existingAcceptedProposal p = none
  | .rejected copy _ => ∀ p ∈ db.proposals.find? copy.id, checkReject p = .ok ()
  | .applied d => db.approvalRequests.find? d.approval.id = some d.approval
  | .contractInserted copy _ _ _ => db.existingContract copy.opportunityId = none
  | _ => True

instance (db : DealDb) (p : DealPoint) : Decidable (p.Rechecked db) := by
  cases p <;> unfold DealPoint.Rechecked <;> infer_instance

/-- The condition on a step. -/
def DealRechecked (S : Sessions DealDb DealPoint) (a : Act DealRequest) : Prop :=
  Program.Meets (fun p db => p.Rechecked db) S a

instance (S : Sessions DealDb DealPoint) (a : Act DealRequest) : Decidable (DealRechecked S a) :=
  inferInstanceAs (Decidable (Program.Meets _ S a))

section Books

variable {config : MdrConfig} {db : DealDb}

/-- The invariant of what is committed. -/
structure DealBooks (db : DealDb) : Prop extends OneDeal db where
  /-- A proposal with a request that waits is not offered. -/
  waiting : ∀ a ∈ db.approvalRequests, ∀ proposalId, a.proposalId = some proposalId →
    ∃ p ∈ db.proposals, p.id = proposalId ∧
      (a.status = .pending → p.status = .pendingApproval ∨ p.status = .rejected)
  /-- One request of a proposal waits at most. -/
  single : ∀ a ∈ db.approvalRequests, ∀ b ∈ db.approvalRequests, ∀ proposalId, a.proposalId = some proposalId →
    b.proposalId = some proposalId → a.status = .pending → b.status = .pending → a.id = b.id

theorem NoDeals.books (h : NoDeals db) : DealBooks db := by
  obtain ⟨hproposals, hrequests, hcontracts⟩ := h
  have hnone : ∀ p, p ∉ db.proposals := fun p hp => by
    rw [hproposals] at hp
    exact Table.not_mem_empty p hp
  refine { proposal := ?_, contract := ?_, waiting := ?_, single := ?_ }
  · exact fun p hp => (hnone p hp).elim
  · exact fun c hc d hd _ _ _ hlive => absurd (hcontracts c hc) hlive
  · intro a ha proposalId hproposal
    cases (hrequests a ha).symm.trans hproposal
  · intro a ha b hb proposalId hproposal
    cases (hrequests a ha).symm.trans hproposal

/-! ## What the writes preserve -/

/-- **Rewriting a proposal** that is not accepted. -/
theorem DealBooks.updateProposals (h : DealBooks db) {q : DealProposal → Bool} {f : DealProposal → DealProposal}
    (hid : ∀ p, (f p).id = p.id) (hopportunity : ∀ p, (f p).opportunityId = p.opportunityId)
    (hone : ∀ p ∈ db.proposals, ∀ p' ∈ db.proposals, q p = true → q p' = true → p = p')
    (hopen : ∀ p ∈ db.proposals, q p = true → p.status ≠ .accepted)
    (haccept : ∀ p ∈ db.proposals, q p = true → (f p).status = .accepted →
      ∀ p' ∈ db.proposals, p'.opportunityId = p.opportunityId → p'.status ≠ .accepted)
    (hwaiting : ∀ p ∈ db.proposals, q p = true → (f p).status ≠ .pendingApproval → (f p).status ≠ .rejected →
      ∀ a ∈ db.approvalRequests, a.proposalId = some p.id → a.status ≠ .pending) :
    DealBooks { db with proposals := db.proposals.updateWhere q f } ∧
      AcceptedStays db { db with proposals := db.proposals.updateWhere q f } := by
  refine ⟨{ proposal := ?_, contract := h.contract, waiting := ?_, single := h.single }, fun p hp haccepted => ?_⟩
  · intro x hx y hy hsame hxaccepted hyaccepted
    obtain ⟨p, hp, rfl⟩ := (Table.mem_updateWhere hid).mp hx
    obtain ⟨p', hp', rfl⟩ := (Table.mem_updateWhere hid).mp hy
    by_cases hq : q p = true <;> by_cases hq' : q p' = true
    · rw [hone p hp p' hp' hq hq']
    · rw [if_pos hq] at hsame hxaccepted
      rw [if_neg hq'] at hsame hyaccepted
      exact absurd hyaccepted (haccept p hp hq hxaccepted p' hp' (hsame.symm.trans (hopportunity p)))
    · rw [if_neg hq] at hsame hxaccepted
      rw [if_pos hq'] at hsame hyaccepted
      exact absurd hxaccepted (haccept p' hp' hq' hyaccepted p hp (hsame.trans (hopportunity p')))
    · rw [if_neg hq] at hsame hxaccepted ⊢
      rw [if_neg hq'] at hsame hyaccepted ⊢
      exact h.proposal p hp p' hp' hsame hxaccepted hyaccepted
  · intro a ha proposalId hproposal
    obtain ⟨p, hp, hpid, hp_waits⟩ := h.waiting a ha proposalId hproposal
    refine ⟨_, (Table.mem_updateWhere hid).mpr ⟨p, hp, rfl⟩, ?_⟩
    by_cases hq : q p = true
    · rw [if_pos hq]
      refine ⟨(hid p).trans hpid, fun hpending => ?_⟩
      by_contra hoffered
      exact hwaiting p hp hq (fun hs => hoffered (.inl hs)) (fun hs => hoffered (.inr hs)) a ha
        (hproposal.trans (congrArg some hpid.symm)) hpending
    · rw [if_neg hq]
      exact ⟨hpid, hp_waits⟩
  · -- an accepted proposal is not among those rewritten
    have hq : ¬q p = true := fun hq => hopen p hp hq haccepted
    exact ⟨p, (Table.mem_updateWhere hid).mpr ⟨p, hp, if_neg hq⟩, rfl, rfl, haccepted⟩

/-- One proposal, by its id. -/
theorem DealBooks.updateProposal (h : DealBooks db) {proposalId : Nat} {f : DealProposal → DealProposal}
    (hid : ∀ p, (f p).id = p.id) (hopportunity : ∀ p, (f p).opportunityId = p.opportunityId)
    (hrow : ∀ p ∈ db.proposals.find? proposalId, p.status ≠ .accepted ∧
      ((f p).status = .accepted → db.existingAcceptedProposal p = none) ∧
      ((f p).status ≠ .pendingApproval → (f p).status ≠ .rejected →
        p.status ≠ .pendingApproval ∧ p.status ≠ .rejected)) :
    DealBooks (db.updateProposal proposalId f) ∧ AcceptedStays db (db.updateProposal proposalId f) := by
  have hfind : ∀ p ∈ db.proposals, decide (p.id = proposalId) = true → db.proposals.find? proposalId = some p :=
    fun p hp hq => of_decide_eq_true hq ▸ Table.find?_key hp
  refine h.updateProposals hid hopportunity ?_ ?_ ?_ ?_
  · exact fun p hp p' hp' hq hq' => Option.some.inj ((hfind p hp hq).symm.trans (hfind p' hp' hq'))
  · exact fun p hp hq => (hrow p (hfind p hp hq)).1
  · intro p hp hq haccepted p' hp' hsame haccepted'
    have hnone := Table.findBy_eq_none.mp ((hrow p (hfind p hp hq)).2.1 haccepted) p' hp'
    have hself : p'.id = p.id := by simpa [hsame, haccepted'] using hnone
    obtain rfl : p' = p := Table.eq_of_key_eq hp' hp hself
    exact (hrow p' (hfind p' hp hq)).1 haccepted'
  · intro p hp hq hpending hrejected a ha hproposal hwaits
    obtain ⟨x, hx, hxid, hstatus⟩ := h.waiting a ha p.id hproposal
    obtain rfl : x = p := Table.eq_of_key_eq hx hp hxid
    obtain ⟨hpending', hrejected'⟩ := (hrow x (hfind x hp hq)).2.2 hpending hrejected
    exact (hstatus hwaits).elim hpending' hrejected'

/-- **A decision** on a request that waits. -/
theorem DealBooks.decide (h : DealBooks db) {d : ApprovalDecision}
    (hread : db.approvalRequests.find? d.approval.id = some d.approval) :
    DealBooks (applyProposalDecision d (db.writeDecision d)) ∧
      AcceptedStays db (applyProposalDecision d (db.writeDecision d)) := by
  obtain ⟨hmem, -⟩ := Table.find?_eq_some.mp hread
  have hpending : d.approval.status = .pending := (checkDecision_eq_ok d.allowed).1
  have hrequest : ∀ a ∈ (db.writeDecision d).approvalRequests, a.status = .pending →
      a ∈ db.approvalRequests ∧ a.id ≠ d.approval.id := by
    intro a ha hwaits
    obtain ⟨b, hb, rfl⟩ := (Table.mem_updateWhere (p := fun a : ApprovalRequest => a.id = d.approval.id)
      (f := decidedRequest d.input d.user d.now) fun _ => rfl).mp ha
    split at hwaits
    · rcases d.input.decided with hdecided | hdecided <;> cases hdecided.symm.trans hwaits
    · rename_i hother
      rw [if_neg hother]
      exact ⟨hb, by simpa using hother⟩
  have hreferred : ∀ a ∈ (db.writeDecision d).approvalRequests,
      ∃ b ∈ db.approvalRequests, a.id = b.id ∧ a.proposalId = b.proposalId := by
    intro a ha
    obtain ⟨b, hb, rfl⟩ := (Table.mem_updateWhere (p := fun a : ApprovalRequest => a.id = d.approval.id)
      (f := decidedRequest d.input d.user d.now) fun _ => rfl).mp ha
    exact ⟨b, hb, by split <;> rfl, by split <;> rfl⟩
  have hwritten : DealBooks (db.writeDecision d) := by
    refine { proposal := h.proposal, contract := h.contract, waiting := ?_, single := ?_ }
    · intro a ha proposalId hproposal
      obtain ⟨b, hb, -, hsame⟩ := hreferred a ha
      obtain ⟨p, hp, hpid, -⟩ := h.waiting b hb proposalId (hsame.symm.trans hproposal)
      refine ⟨p, hp, hpid, fun hwaits => ?_⟩
      obtain ⟨x, hx, hxid, hstatus⟩ := h.waiting a (hrequest a ha hwaits).1 proposalId hproposal
      obtain rfl : x = p := Table.eq_of_key_eq hx hp (hxid.trans hpid.symm)
      exact hstatus hwaits
    · exact fun a ha b hb proposalId hpa hpb hwa hwb =>
        h.single a (hrequest a ha hwa).1 b (hrequest b hb hwb).1 proposalId hpa hpb hwa hwb
  cases hproposal : d.approval.proposalId with
  | none =>
    simp only [applyProposalDecision, hproposal]
    exact ⟨hwritten, .refl _⟩
  | some proposalId =>
    -- its proposal is not offered, and no other request of it waits
    have hclosed : ∀ p ∈ db.proposals, p.id = proposalId → p.status = .pendingApproval ∨ p.status = .rejected := by
      intro p hp hpid
      obtain ⟨x, hx, hxid, hstatus⟩ := h.waiting d.approval hmem proposalId hproposal
      obtain rfl : x = p := Table.eq_of_key_eq hx hp (hxid.trans hpid.symm)
      exact hstatus hpending
    have hopen : ∀ p ∈ db.proposals, p.id = proposalId → p.status ≠ .accepted := by
      intro p hp hpid haccepted
      rcases hclosed p hp hpid with hstatus | hstatus <;> cases haccepted.symm.trans hstatus
    have hlast : ∀ a ∈ (db.writeDecision d).approvalRequests, a.proposalId = some proposalId → a.status ≠ .pending :=
      fun a ha hp hwaits => (hrequest a ha hwaits).2
        (h.single a (hrequest a ha hwaits).1 d.approval hmem proposalId hp hproposal hwaits hpending)
    have hkey : ∀ p ∈ db.proposals, ∀ p' ∈ db.proposals, p.id = proposalId → p'.id = proposalId → p = p' :=
      fun p hp p' hp' hpid hpid' => Table.eq_of_key_eq hp hp' (hpid.trans hpid'.symm)
    rcases d.input.decided with hstatus | hstatus
    · simp only [applyProposalDecision, hproposal, hstatus]
      refine hwritten.updateProposals (fun _ => rfl) (fun _ => rfl) ?_ ?_ ?_ ?_
      · exact fun p hp p' hp' hq hq' => hkey p hp p' hp' (of_decide_eq_true hq).1 (of_decide_eq_true hq').1
      · exact fun p hp hq => hopen p hp (of_decide_eq_true hq).1
      · exact fun p hp hq haccepted => nomatch haccepted
      · exact fun p hp hq _ _ a ha hp => hlast a ha (hp.trans (congrArg some (of_decide_eq_true hq).1))
    · simp only [applyProposalDecision, hproposal, hstatus]
      refine hwritten.updateProposals (fun _ => rfl) (fun _ => rfl) ?_ ?_ ?_ ?_
      · exact fun p hp p' hp' hq hq' => hkey p hp p' hp' (of_decide_eq_true hq) (of_decide_eq_true hq')
      · exact fun p hp hq => hopen p hp (of_decide_eq_true hq)
      · exact fun p hp hq haccepted => nomatch haccepted
      · exact fun p hp hq _ hrejected => absurd rfl hrejected

/-- **A contract** for an opportunity without one. -/
theorem DealBooks.insertContract (h : DealBooks db) {proposal : DealProposal} {number : Text}
    {input : CreateContractFromProposalDto} (hnone : db.existingContract proposal.opportunityId = none) :
    DealBooks (AtlasErp.insertContract proposal number input db) := by
  have hfree : ∀ c ∈ db.contracts, c.opportunityId = some proposal.opportunityId → c.status = .terminated := by
    intro c hc hopportunity
    simpa [hopportunity] using Table.findBy_eq_none.mp hnone c hc
  have hmem : ∀ c, c ∈ (AtlasErp.insertContract proposal number input db).contracts ↔
      c ∈ db.contracts ∨ c = newContract proposal number input db.contracts.nextKey := fun c =>
    Table.mem_create fun _ => rfl
  refine { proposal := h.proposal, contract := ?_, waiting := h.waiting, single := h.single }
  intro c hc d hd opportunityId hco hdo hlive hlive'
  rcases (hmem c).mp hc with hc | rfl <;> rcases (hmem d).mp hd with hd | rfl
  · exact h.contract c hc d hd opportunityId hco hdo hlive hlive'
  · exact absurd (hfree c hc (hco.trans hdo.symm)) hlive
  · exact absurd (hfree d hd (hdo.trans hco.symm)) hlive'
  · rfl

/-- **A new proposal** is not accepted, and waits for its own request only. -/
theorem DealBooks.insertProposal (h : DealBooks db) {opportunity : AccountOpportunity} {number : Text}
    {input : CreateProposalDto} {user : UserId} :
    DealBooks (AtlasErp.insertProposal config opportunity number input user db) ∧
      AcceptedStays db (AtlasErp.insertProposal config opportunity number input user db) := by
  set proposal := newProposal config opportunity number input user db.proposals.nextKey with hproposal
  have hmem : ∀ p, p ∈ (AtlasErp.insertProposal config opportunity number input user db).proposals ↔
      p ∈ db.proposals ∨ p = proposal := fun p => Table.mem_create fun _ => rfl
  have hnot : proposal.status ≠ .accepted := by
    simp only [hproposal, newProposal]
    split <;> exact nofun
  have hrequest : ∀ a ∈ (AtlasErp.insertProposal config opportunity number input user db).approvalRequests,
      a ∈ db.approvalRequests ∨ a.proposalId = some proposal.id ∧ a.id = db.approvalRequests.nextKey ∧
        proposal.status = .pendingApproval := by
    intro a ha
    simp only [AtlasErp.insertProposal, DealDb.moveOpportunity] at ha
    split at ha
    · rename_i hbelow
      have hcreated : a ∈ db.approvalRequests ∨
          a = proposalExceptionRequest db.proposals.nextKey input user db.approvalRequests.nextKey :=
        (Table.mem_create fun _ => rfl).mp ha
      rcases hcreated with ha | rfl
      · exact .inl ha
      · exact .inr ⟨rfl, rfl, if_pos hbelow⟩
    · exact .inl ha
  have hfresh : ∀ a ∈ db.approvalRequests, a.proposalId ≠ some proposal.id := by
    intro a ha hsame
    obtain ⟨p, hp, hpid, -⟩ := h.waiting a ha _ hsame
    exact (Table.key_lt_nextKey hp).ne hpid
  refine ⟨{ proposal := ?_, contract := h.contract, waiting := ?_, single := ?_ },
    fun p hp haccepted => ⟨p, (hmem p).mpr (.inl hp), rfl, rfl, haccepted⟩⟩
  · intro p hp q hq hsame hpaccepted hqaccepted
    rcases (hmem p).mp hp with hp | rfl
    · rcases (hmem q).mp hq with hq | rfl
      · exact h.proposal p hp q hq hsame hpaccepted hqaccepted
      · exact absurd hqaccepted hnot
    · exact absurd hpaccepted hnot
  · intro a ha proposalId hid
    rcases hrequest a ha with ha | ⟨hnew, -, hstatus⟩
    · obtain ⟨p, hp, hpid, hwaits⟩ := h.waiting a ha proposalId hid
      exact ⟨p, (hmem p).mpr (.inl hp), hpid, hwaits⟩
    · exact ⟨proposal, (hmem _).mpr (.inr rfl), Option.some.inj (hnew.symm.trans hid), fun _ => .inl hstatus⟩
  · intro a ha b hb proposalId hpa hpb hwa hwb
    rcases hrequest a ha with ha | ⟨hnew, hid, -⟩ <;> rcases hrequest b hb with hb | ⟨hnew', hid', -⟩
    · exact h.single a ha b hb proposalId hpa hpb hwa hwb
    · exact absurd (hpa.trans (hpb.symm.trans hnew')) (hfresh a ha)
    · exact absurd (hpb.trans (hpa.symm.trans hnew)) (hfresh b hb)
    · exact hid.trans hid'.symm

theorem DealBooks.moveOpportunity (h : DealBooks db) (opportunityId : Nat) (stage : OpportunityStage) :
    DealBooks (db.moveOpportunity opportunityId stage) where
  proposal := h.proposal
  contract := h.contract
  waiting := h.waiting
  single := h.single

/-- A proposal that can be sent is not accepted, nor rejected, and does not wait for an approval. -/
theorem ne_of_enviable {p : DealProposal} (h : p.status = .draft ∨ p.status = .sent) :
    p.status ≠ .accepted ∧ p.status ≠ .pendingApproval ∧ p.status ≠ .rejected := by
  rcases h with h | h <;> rw [h] <;> decide

/-- What a transaction commits keeps the books and the accepted proposals, when its checks still pass. -/
theorem DealBooks.commit (h : DealBooks db) {p : DealPoint} (hcommit : p.next config (p.writes config db) = .commit)
    (hok : p.Rechecked db) : DealBooks (p.writes config db) ∧ AcceptedStays db (p.writes config db) := by
  cases p with
  | proposalInserted opportunity number input user now => exact h.insertProposal
  | sent copy now =>
    refine h.updateProposal (fun _ => rfl) (fun _ => rfl) fun p hp => ?_
    have henviable : p.status = .draft ∨ p.status = .sent := by
      have hnot : ¬enviable p.status = false := failIf_eq_ok.mp (hok p hp)
      exact of_decide_eq_true (Bool.of_not_eq_false hnot)
    obtain ⟨hnotAccepted, hnotPending, hnotRejected⟩ := ne_of_enviable henviable
    refine ⟨hnotAccepted, fun haccepted => ?_, fun _ _ => ⟨hnotPending, hnotRejected⟩⟩
    exfalso
    simp only [markSent] at haccepted
    split at haccepted
    · exact hnotAccepted haccepted
    · cases haccepted
  | contracting copy now =>
    have haccepts : ∀ p ∈ db.proposals.find? copy.id, p.status = .sent := fun p hp => by
      simpa [checkAccept] using (hok p hp).1
    obtain ⟨hbooks, hstays⟩ := h.updateProposal (f := markAccepted now) (fun _ => rfl) (fun _ => rfl)
      fun p (hp : p ∈ db.proposals.find? copy.id) => by
        obtain ⟨hnotAccepted, hnotPending, hnotRejected⟩ := ne_of_enviable (.inr (haccepts p hp))
        exact ⟨hnotAccepted, fun _ => (hok p hp).2, fun _ _ => ⟨hnotPending, hnotRejected⟩⟩
    exact ⟨hbooks.moveOpportunity _ _, hstays⟩
  | rejected copy now =>
    refine h.updateProposal (fun _ => rfl) (fun _ => rfl) fun p hp => ?_
    have hopen : ¬(p.status = .accepted ∨ p.status = .rejected) := failIf_eq_ok.mp (hok p hp)
    exact ⟨fun haccepted => hopen (.inl haccepted), fun heq => (by cases heq), fun _ hrejected => absurd rfl hrejected⟩
  | applied d => exact h.decide hok
  | contractInserted copy number input now => exact ⟨h.insertContract hok, .refl _⟩
  | accepted | approvalWritten => cases hcommit
  | _ => exact ⟨h, .refl _⟩

end Books

/-! ## Every interleaving -/

section Runs

variable {config : MdrConfig}

/-- **One step**: what is committed keeps the books, and the accepted proposals. -/
theorem DealBooks.step {S S' : Sessions DealDb DealPoint} {a : Act DealRequest} (h : DealBooks S.committed)
    (hok : DealRechecked S a) (hstep : (dealProgram config).step S a = some S') :
    DealBooks S'.committed ∧ AcceptedStays S.committed S'.committed := by
  cases Program.step_cases hstep with
  | @committed t p hfind hnext => exact h.commit hnext (hok p hfind)
  | started | moved | rolledBack | failed => exact ⟨h, .refl _⟩

theorem dealBooks_of_reachable {S : Sessions DealDb DealPoint}
    (h : ((dealProgram config).machine NoDeals).Reachable DealRechecked S) : DealBooks S.committed :=
  Machine.invariant (M := (dealProgram config).machine NoDeals) (P := fun S => DealBooks S.committed)
    (fun _ hinit => hinit.1.books) (fun _ _ _ hok hstep hbooks => (hbooks.step hok hstep).1) h

end Runs

/-! ## Requests that cross -/

section Examples

/-- One opportunity. -/
def exampleDealDb : DealDb where
  opportunities := ⟨[⟨1, 1, .qualification⟩], by decide⟩
  proposals := .empty
  approvalRequests := .empty
  contracts := .empty
  contractVersions := .empty
  commercialTerms := []

theorem noDeals_example : NoDeals exampleDealDb :=
  ⟨rfl, fun a ha => (Table.not_mem_empty a ha).elim, fun c hc => (Table.not_mem_empty c hc).elim⟩

/-- A proposal at 3 %, or at 2 % as an exception. -/
def exampleProposal (rate : RateInput) (reason : Option String) : CreateProposalDto where
  opportunityId := 1
  validUntil := none
  totalEstimatedMonthlyRevenue := none
  pricingExceptionReason := reason
  lines := [⟨.mdr, "MDR general", some rate, none, "BOB", .perTransaction, none, .inl rfl⟩]

def exampleContract (proposalId : Nat) : CreateContractFromProposalDto where
  proposalId
  startDate := 20000
  endDate := none
  billingCycle := "MONTHLY"
  settlementPolicy := "PER_CONTRACT"
  documentUrl := none

/-- A transaction from its first statement on. -/
def exampleDealRun (t : Nat) (request : DealRequest) (statements : Nat) : List (Act DealRequest) :=
  .start t request :: List.replicate statements (.advance t)

def exampleSend (t proposalId : Nat) : List (Act DealRequest) :=
  exampleDealRun t (.send proposalId ⟨some "token", [.sent]⟩ 2000) 4

/-- A proposal at 2 % is approved, sent and accepted. -/
def acceptedException : List (Act DealRequest) :=
  exampleDealRun 0 (.createProposal (exampleProposal ⟨2, two_isRate⟩ (some "volumen alto")) 7 1000) 4 ++
  exampleDealRun 1 (.decideApproval 1 ⟨.approved, "volumen verificado", approved_isDecision⟩ 8 1500) 4 ++
  exampleSend 2 1 ++ exampleDealRun 3 (.acceptProposal 1 3000) 5

/-- The contract of a proposal. -/
def contracted : List (Act DealRequest) := exampleDealRun 4 (.createContractFromProposal (exampleContract 1) 4000) 5

/-- Two proposals are sent, and accepted at once; both become contracts at once. -/
def crossingDeals : List (Act DealRequest) :=
  exampleDealRun 0 (.createProposal (exampleProposal ⟨3, three_isRate⟩ none) 7 1000) 4 ++
  exampleDealRun 1 (.createProposal (exampleProposal ⟨4, four_isRate⟩ none) 7 1001) 4 ++
  exampleSend 2 1 ++ exampleSend 3 2 ++
  exampleDealRun 4 (.acceptProposal 1 3000) 2 ++ exampleDealRun 5 (.acceptProposal 2 3001) 5 ++
  List.replicate 3 (.advance 4) ++
  exampleDealRun 6 (.createContractFromProposal (exampleContract 1) 4000) 2 ++
  exampleDealRun 7 (.createContractFromProposal (exampleContract 2) 4001) 5 ++
  List.replicate 3 (.advance 6)

end Examples

end AtlasErp
