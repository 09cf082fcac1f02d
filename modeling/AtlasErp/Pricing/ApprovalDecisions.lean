import AtlasErp.Pricing.MdrSessions

/-! # One decision for each request of approval

Several reviewers may decide one request at once.  Beside the transactions, the decisions that committed are noted.

- `Decided`: the stored request is that of one decision, and the tables are what that decision alone leaves;
- `decided_of_step`: what a step keeps of it;
- `decidedOnce`: in every run where a decision that commits finds the request as it read it, one decision at most
  commits, and only its effect is there;
- `decidedOnce_counterexample`: an approval and a rejection that cross. -/

namespace AtlasErp

open Lib

section Decisions

variable (config : MdrConfig) (db₀ : MdrDb) (approvalId : Nat)

/-- A decision that commits is noted. -/
def noteDecision (S : Sessions MdrDb MdrPoint) (history : List ApprovalDecision) :
    Act MdrRequest → List ApprovalDecision
  | .advance t =>
    match S.find? t with
    | some (.applied d) => history ++ [d]
    | _ => history
  | _ => history

/-- The transactions from given tables, with the decisions that committed beside them. -/
def decisionMachine : Machine (Sessions MdrDb MdrPoint × List ApprovalDecision) (Act MdrRequest) :=
  ((mdrProgram config).machine (· = db₀)).observed (fun _ history => history = []) noteDecision

/-- The calls decide one request. -/
def DecidesRequest : Act MdrRequest → Prop
  | .start _ (.decideApproval id _ _ _) => id = approvalId
  | .start _ _ => False
  | _ => True

instance : DecidablePred (DecidesRequest approvalId)
  | .start _ (.decideApproval ..) => inferInstanceAs (Decidable (_ = _))
  | .start _ (.createMdrRule ..) | .start _ (.updateMdrRule ..) => .isFalse id
  | .advance _ | .fail _ => .isTrue trivial

/-- The condition: a decision that commits finds the request as it read it. -/
def DecidesInTurn (S : Sessions MdrDb MdrPoint × List ApprovalDecision) (a : Act MdrRequest) : Prop :=
  DecidesRequest approvalId a ∧ MdrUndisturbed config S.1 a

instance (S : Sessions MdrDb MdrPoint × List ApprovalDecision) : DecidablePred (DecidesInTurn config approvalId S) :=
  fun _ => inferInstanceAs (Decidable (_ ∧ _))

/-- What a decision commits on given tables. -/
def ApprovalDecision.commit (d : ApprovalDecision) (db : MdrDb) : MdrDb :=
  applyDecision d.approval d.input d.now (writeDecision d.approval d.input d.user d.now db)

/-- The stored request, and what is decided of its proposal and of its rule, are those of a decision. -/
structure DecisionStands (db : MdrDb) (d : ApprovalDecision) : Prop where
  stored : ∃ a ∈ db.approvalRequests, a.id = approvalId ∧ a.status = d.input.status ∧ a.approvedByUserId = some d.user ∧
    a.reason = .text d.input.reason ∧ a.decidedAt = some d.now
  /-- Rejected: no rule is activated, and no proposal goes back to draft. -/
  rejected : d.input.status = .rejected → db.mdrRules = db₀.mdrRules ∧
    ∀ p ∈ db.proposals, p.status = .draft → p ∈ db₀.proposals
  /-- Approved: no proposal is rejected. -/
  approved : d.input.status = .approved → ∀ p ∈ db.proposals, p.status = .rejected → p ∈ db₀.proposals

/-- **One decision**: none committed and nothing changed, or one did, and the tables are what it leaves. -/
def Decided (S : Sessions MdrDb MdrPoint × List ApprovalDecision) : Prop :=
  S.2 = [] ∧ S.1.committed = db₀ ∨
    ∃ d, S.2 = [d] ∧ S.1.committed = d.commit db₀ ∧ DecisionStands db₀ approvalId S.1.committed d

/-- The points of the calls: what they read was the request, pending. -/
def MdrPoint.Decides : MdrPoint → Prop
  | .begun (.decideApproval id _ _ _) => id = approvalId
  | .approvalRead d | .approvalWritten d | .applied d => d.approval.id = approvalId
  | _ => False

variable {config db₀ approvalId}

/-! ## The effect of one decision -/

/-- A decision on the request as it was read leaves what it should. -/
theorem decisionStands_commit {d : ApprovalDecision} (hid : d.approval.id = approvalId)
    (hread : db₀.approvalRequests.find? d.approval.id = some d.approval) :
    DecisionStands db₀ approvalId (d.commit db₀) d where
  stored := by
    refine ⟨decidedRequest d.input d.user d.now d.approval, ?_, hid, rfl, rfl, rfl, rfl⟩
    exact mem_writeDecision.mpr ⟨d.approval, (Table.find?_eq_some.mp hread).1, if_pos rfl⟩
  rejected hstatus := by
    simp only [ApprovalDecision.commit, applyDecision, hstatus]
    cases d.approval.proposalId with
    | none => cases d.approval.mdrRuleId <;> exact ⟨rfl, fun p hp _ => hp⟩
    | some proposalId =>
      refine ⟨by cases d.approval.mdrRuleId <;> rfl, fun p hp hdraft => ?_⟩
      obtain ⟨p₀, hp₀, rfl⟩ := (Table.mem_updateWhere (p := fun p : CommercialProposal => p.id = proposalId)
        (f := fun p => { p with status := .rejected, rejectedAt := some d.now }) fun _ => rfl).mp hp
      split at hdraft
      · cases hdraft
      · rename_i hother
        rwa [if_neg hother]
  approved hstatus := by
    simp only [ApprovalDecision.commit, applyDecision, hstatus]
    intro p hp hrejected
    cases hproposal : d.approval.proposalId with
    | none =>
      rw [hproposal] at hp
      exact hp
    | some proposalId =>
      rw [hproposal] at hp
      obtain ⟨p₀, hp₀, rfl⟩ := (Table.mem_updateWhere
        (p := fun p : CommercialProposal => p.id = proposalId ∧ p.status = .pendingApproval)
        (f := fun p => { p with status := .draft }) fun _ => rfl).mp hp
      split at hrejected
      · cases hrejected
      · rename_i hother
        rwa [if_neg hother]

/-- After a decision the request is not pending. -/
theorem DecisionStands.not_pending {db : MdrDb} {d : ApprovalDecision} (h : DecisionStands db₀ approvalId db d)
    {a : ApprovalRequest} (ha : db.approvalRequests.find? approvalId = some a) : a.status ≠ .pending := by
  obtain ⟨b, hb, hid, hstatus, -⟩ := h.stored
  obtain ⟨hmem, hid'⟩ := Table.find?_eq_some.mp ha
  obtain rfl : b = a := Table.eq_of_key_eq hb hmem (hid.trans hid'.symm)
  rw [hstatus]
  rcases d.input.decided with hdecided | hdecided <;> rw [hdecided] <;> exact nofun

/-! ## Runs -/

theorem decides_start {t : Nat} {request : MdrRequest} (h : DecidesRequest approvalId (.start t request)) :
    (MdrPoint.begun request).Decides approvalId := by
  cases request with
  | decideApproval => exact h
  | createMdrRule | updateMdrRule => exact h.elim

theorem decides_next {p p' : MdrPoint} {db : MdrDb} (h : p.Decides approvalId) (hnext : p.next config db = .goto p') :
    p'.Decides approvalId := by
  cases p with
  | begun request =>
    cases request with
    | decideApproval id input user now =>
      simp only [MdrPoint.next] at hnext
      split at hnext
      · rename_i approval hfind
        split at hnext
        · cases hnext
          exact (Table.find?_eq_some.mp hfind).2.trans h
        · cases hnext
      · cases hnext
    | createMdrRule | updateMdrRule => exact h.elim
  | approvalRead | approvalWritten =>
    cases hnext
    exact h
  | applied => cases hnext
  | _ => exact h.elim

theorem noteDecision_applied {S : Sessions MdrDb MdrPoint} {history : List ApprovalDecision} {t : Nat}
    {d : ApprovalDecision} (h : S.find? t = some (.applied d)) :
    noteDecision S history (.advance t) = history ++ [d] := by
  simp only [noteDecision, h]

theorem noteDecision_of_ne {S : Sessions MdrDb MdrPoint} {history : List ApprovalDecision} {t : Nat} {p : MdrPoint}
    (h : S.find? t = some p) (hne : ∀ d, p ≠ .applied d) : noteDecision S history (.advance t) = history := by
  simp only [noteDecision, h]
  split
  · exact absurd (Option.some.inj ‹_›) (hne _)
  · rfl

/-- **A step** keeps the one decision. -/
theorem decided_of_step {S S' : Sessions MdrDb MdrPoint × List ApprovalDecision} {a : Act MdrRequest}
    (hok : DecidesInTurn config approvalId S a) (hstep : (decisionMachine config db₀).step S a = some S')
    (h : Decided db₀ approvalId S ∧ ∀ x ∈ S.1.active, x.2.Decides approvalId) :
    Decided db₀ approvalId S' ∧ ∀ x ∈ S'.1.active, x.2.Decides approvalId := by
  obtain ⟨hstep, hnote⟩ := Machine.observed_step.mp hstep
  obtain ⟨hdecided, hactive⟩ := h
  have hothers : ∀ t, ∀ x ∈ S.1.others t, x.2.Decides approvalId := fun t x hx =>
    hactive x (Sessions.mem_others.mp hx).1
  have hsame : S'.1.committed = S.1.committed → S'.2 = S.2 → Decided db₀ approvalId S' := by
    intro hcommitted hhistory
    rw [Decided, hcommitted, hhistory]
    exact hdecided
  generalize hT : S'.1 = T at hstep
  cases (Program.step_cases hstep : (mdrProgram config).StepCase _ _ _) with
  | @started t request =>
    refine ⟨hsame (by rw [hT]) hnote, fun x hx => ?_⟩
    rcases List.mem_cons.mp hx with rfl | hx
    · exact decides_start hok.1
    · exact hothers t x hx
  | @moved t p p' hfind hnext hfree =>
    have hp := hactive _ (Sessions.mem_of_find? hfind)
    have hquiet : noteDecision S.1 S.2 (.advance t) = S.2 :=
      noteDecision_of_ne hfind fun d hd => by
        subst hd
        cases hnext
    refine ⟨hsame (by rw [hT]) (hnote.trans hquiet), fun x hx => ?_⟩
    rcases List.mem_cons.mp hx with rfl | hx
    · exact decides_next hp hnext
    · exact hothers t x hx
  | @committed t p hfind hnext =>
    refine ⟨?_, fun x hx => hothers t x hx⟩
    have hp := hactive _ (Sessions.mem_of_find? hfind)
    cases p with
    | applied d =>
      have hread : S.1.committed.approvalRequests.find? d.approval.id = some d.approval := hok.2 _ hfind rfl
      have hpending : d.approval.status = .pending := (checkDecision_eq_ok d.allowed).1
      rcases hdecided with ⟨hnone, hinit⟩ | ⟨d', -, -, hstands⟩
      · right
        rw [hinit] at hread
        refine ⟨d, ?_, ?_, ?_⟩
        · rw [hnote, noteDecision_applied hfind, hnone, List.nil_append]
        · rw [hT]
          exact congrArg d.commit hinit
        · rw [hT]
          exact (congrArg (fun db => DecisionStands db₀ approvalId (d.commit db) d) hinit).mpr
            (decisionStands_commit hp hread)
      · -- the request is decided already
        exact absurd hpending (hstands.not_pending (hp ▸ hread))
    | begun request =>
      cases request with
      | decideApproval id input user now =>
        simp only [mdrProgram, MdrPoint.next] at hnext
        split at hnext
        · split at hnext <;> cases hnext
        · cases hnext
      | createMdrRule | updateMdrRule => exact hp.elim
    | approvalRead | approvalWritten => cases hnext
    | _ => exact hp.elim
  | @rolledBack t p hfind hnext =>
    have hquiet : noteDecision S.1 S.2 (.advance t) = S.2 :=
      noteDecision_of_ne hfind fun d hd => by
        subst hd
        cases hnext
    exact ⟨hsame (by rw [hT]) (hnote.trans hquiet), fun x hx => hothers t x hx⟩
  | @failed t => exact ⟨hsame (by rw [hT]) hnote, fun x hx => hothers t x hx⟩

/-- **A request is decided once**: in every interleaving of calls that decide it, each of which finds it as it read it
when it commits, one decision at most commits, the stored status, approver and reason are those of that decision, and
the tables are what it alone leaves. -/
theorem decidedOnce (config : MdrConfig) (db₀ : MdrDb) (approvalId : Nat)
    {S : Sessions MdrDb MdrPoint × List ApprovalDecision}
    (h : (decisionMachine config db₀).Reachable (DecidesInTurn config approvalId) S) : Decided db₀ approvalId S := by
  have hinit : ∀ S, (decisionMachine config db₀).init S →
      Decided db₀ approvalId S ∧ ∀ x ∈ S.1.active, x.2.Decides approvalId := by
    intro S hinit
    refine ⟨.inl ⟨hinit.2, hinit.1.1⟩, fun x hx => ?_⟩
    rw [hinit.1.2] at hx
    cases hx
  exact (Machine.invariant (P := fun S => Decided db₀ approvalId S ∧ ∀ x ∈ S.1.active, x.2.Decides approvalId)
    hinit (fun _ _ _ hok hstep hS => decided_of_step hok hstep hS) h).1

end Decisions

/-! ## Two reviewers -/

section Examples

/-- A rule at 2 % that waits for its approval. -/
def waitingRule : MdrDb :=
  performMdr exampleMdrConfig exampleMdrDb
    (.createMdrRule (exampleCreate ⟨2, two_isRate⟩ (some "volumen alto")) 7 ⟨1000, 0⟩)

/-- One reviewer approves. -/
def approves (t statements : Nat) : List (Act MdrRequest) :=
  exampleMdrRun t (.decideApproval 1 ⟨.approved, "volumen verificado", approved_isDecision⟩ 8 2000) statements

/-- Another rejects. -/
def rejects (t statements : Nat) : List (Act MdrRequest) :=
  exampleMdrRun t (.decideApproval 1 ⟨.rejected, "sin respaldo", .inr rfl⟩ 9 2001) statements

theorem decidedOnce_of_turns :
    let S := (decisionMachine exampleMdrConfig waitingRule).afterIf (DecidesInTurn exampleMdrConfig 1)
      (⟨waitingRule, []⟩, []) (approves 0 4 ++ rejects 1 1)
    S.2.length = 1 ∧ Decided waitingRule 1 S :=
  ⟨by decide +kernel, decidedOnce exampleMdrConfig waitingRule 1
    ((decisionMachine exampleMdrConfig waitingRule).reachable_afterIf (DecidesInTurn exampleMdrConfig 1)
      ⟨⟨rfl, rfl⟩, rfl⟩ _)⟩

/-- Both read the request while it waits, and both commit: it is rejected, and its rule is active. -/
theorem decidedOnce_counterexample :
    ∃ S, (decisionMachine exampleMdrConfig waitingRule).Reachable (fun _ a => DecidesRequest 1 a) S ∧ S.2.length = 2 ∧
      (∃ a ∈ S.1.committed.approvalRequests, a.id = 1 ∧ a.status = .rejected) ∧
      (∃ r ∈ S.1.committed.mdrRules, r.isActive = true) ∧ ∀ r ∈ waitingRule.mdrRules, r.isActive = false :=
  ⟨(decisionMachine exampleMdrConfig waitingRule).afterIf (fun _ a => DecidesRequest 1 a) (⟨waitingRule, []⟩, [])
    (approves 0 1 ++ rejects 1 1 ++ List.replicate 3 (.advance 0) ++ List.replicate 3 (.advance 1)),
    (decisionMachine exampleMdrConfig waitingRule).reachable_afterIf (fun _ a => DecidesRequest 1 a)
      ⟨⟨rfl, rfl⟩, rfl⟩ _, by decide +kernel⟩

end Examples

end AtlasErp
