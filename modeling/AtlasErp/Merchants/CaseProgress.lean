import AtlasErp.Merchants.OnboardingRequests

/-! # Whether a case can go on

An activation demands the verdict of the engine, and the verdict is asked for from some statuses only.

- `Open`: a case is completed, has its verdict, or may ask for it;
- `Progress`, `Progressing`: what the copies and the writes of a request keep of that;
- `noDeadEnd`: in every run where credentials are asked for a case only once it has its verdict, no case is stuck;
- `noDeadEnd_counterexample`: the first user of a merchant that was not verified yet. -/

namespace AtlasErp

open Lib

section Progress

variable {s s' : OnboardingDb} {p : OnboardingPoint} {q : Option OnboardingPoint}

/-- The verdict may be asked for, or the case is closed. -/
def CaseStatus.Leads (status : CaseStatus) : Prop := status ∈ STATUSES_THAT_CAN_REQUEST_KYB ∨ status = .completed

instance (status : CaseStatus) : Decidable status.Leads := inferInstanceAs (Decidable (_ ∨ _))

/-- A case is completed, has its verdict, or may ask for it. -/
def OnboardingCase.Open (c : OnboardingCase) : Prop := c.status.Leads ∨ c.decisionOutcome.isSome = true

/-- A case that is there has a verdict. -/
def Verified (t : Table OnboardingCase) (caseId : Nat) : Prop :=
  ∀ c ∈ t, c.id = caseId → c.decisionOutcome.isSome = true

/-- What a copy of a case says of the case. -/
structure CopyProgress (t : Table OnboardingCase) (copy : OnboardingCase) : Prop where
  row : ∃ c ∈ t, c.id = copy.id
  status : copy.status.Leads ∨ Verified t copy.id
  outcome : copy.decisionOutcome.isSome = true → Verified t copy.id

/-- What a write of a case is sure of: it takes no verdict back, and it leaves a status from which the case goes on. -/
structure WriteProgress (t : Table OnboardingCase) (id : Nat) (columns : CaseColumns) : Prop where
  row : ∃ c ∈ t, c.id = id
  outcome : columns.decisionOutcome ≠ some none
  status : ∀ status, columns.status = some status →
    status.Leads ∨ columns.decisionOutcome.isSome = true ∨ Verified t id

/-- What follows a write. -/
def OnboardingRest.Leads (t : Table OnboardingCase) : OnboardingRest → Prop
  | .finish => True
  | .mark copy => CopyProgress t copy ∧ copy.status ∈ STATUSES_THAT_CAN_REQUEST_KYB
  | .review copy estadoPrevio => CopyProgress t copy ∧ estadoPrevio ∈ STATUSES_THAT_CAN_REQUEST_KYB
  | .acknowledge copy _ _ => CopyProgress t copy

/-- What a request relies on at each point. -/
def Progressing : OnboardingPoint → Table OnboardingCase → Prop
  | .requesting copy _, t | .linking copy _, t | .marking copy, t =>
    CopyProgress t copy ∧ copy.status ∈ STATUSES_THAT_CAN_REQUEST_KYB
  | .reviewing copy estadoPrevio, t => CopyProgress t copy ∧ estadoPrevio ∈ STATUSES_THAT_CAN_REQUEST_KYB
  | .syncing copy, t | .assigning copy _, t | .reconciling copy, t | .acknowledging copy _ _, t => CopyProgress t copy
  | .writing (.caseRow id columns) rest, t => WriteProgress t id columns ∧ rest.Leads t
  | .writing _ rest, t => rest.Leads t
  | _, _ => True

/-! ## The condition -/

/-- The cases that a new user makes wait for credentials have their verdict. -/
def OnboardingPoint.AsksVerified (s : OnboardingDb) : OnboardingPoint → Prop
  | .provisioned input _ caseIds => ∀ c ∈ s.cases, c.id ∈ caseIds ∧ c.awaitsCredentials input.accountId = true →
      c.decisionOutcome.isSome = true
  | _ => True

instance (s : OnboardingDb) : DecidablePred (OnboardingPoint.AsksVerified s)
  | .provisioned .. => inferInstanceAs (Decidable (∀ c ∈ s.cases, _))
  | .requesting .. | .linking .. | .marking .. | .reviewing .. | .syncing .. | .completing .. | .assigning ..
  | .provisioning .. | .queued .. | .reconciling .. | .acknowledging .. | .activating .. | .resolved .. | .closing ..
  | .activated .. | .opening .. | .ensuringFolder .. | .folder .. | .qualifying .. | .qualified .. | .writing .. =>
    .isTrue trivial

/-- The condition on a step. -/
def VerifiedFirst (S : OnboardingSessions) : OnboardingAct → Prop
  | .go w _ => ∀ p ∈ S.find? w, p.AsksVerified S.committed
  | _ => True

instance (S : OnboardingSessions) : DecidablePred (VerifiedFirst S)
  | .go w _ => inferInstanceAs (Decidable (∀ p ∈ S.find? w, _))
  | .start .. | .die _ | .outside _ => .isTrue trivial

/-! ## What a step keeps -/

/-- A verdict is not taken back. -/
theorem outcome_of_change {c c' : OnboardingCase} (hp : Progressing p s.cases) (h : CaseChange p c c')
    (houtcome : c.decisionOutcome.isSome = true) : c'.decisionOutcome.isSome = true := by
  cases h with
  | same | awaits | activated => exact houtcome
  | @updated _ columns rest =>
    have hkeeps := hp.1.outcome
    simp only [CaseColumns.write]
    cases hcolumn : columns.decisionOutcome with
    | none => exact houtcome
    | some outcome =>
      cases outcome with
      | none => exact absurd hcolumn hkeeps
      | some outcome => rfl

theorem Verified.onward {caseId : Nat} (h : Verified s.cases caseId) (hrow : ∃ c ∈ s.cases, c.id = caseId)
    (hp : Progressing p s.cases) (hstep : Onward s p s' q) : Verified s'.cases caseId := by
  intro c' hc' hid'
  rcases (cases_of_onward hstep).2 c' hc' with ⟨c, hc, hchange⟩ | ⟨input, -, rfl⟩
  · exact outcome_of_change hp hchange (h c hc (hchange.id_eq.symm.trans hid'))
  · obtain ⟨c, hc, hid⟩ := hrow
    exact absurd (hid.trans hid'.symm) (Nat.ne_of_lt (Table.key_lt_nextKey hc))

theorem row_onward {caseId : Nat} (h : ∃ c ∈ s.cases, c.id = caseId) (hstep : Onward s p s' q) :
    ∃ c ∈ s'.cases, c.id = caseId := by
  obtain ⟨c, hc, hid⟩ := h
  obtain ⟨c', hc', hchange⟩ := (cases_of_onward hstep).1 c hc
  exact ⟨c', hc', hchange.id_eq.trans hid⟩

theorem CopyProgress.onward {copy : OnboardingCase} (h : CopyProgress s.cases copy) (hp : Progressing p s.cases)
    (hstep : Onward s p s' q) : CopyProgress s'.cases copy where
  row := row_onward h.row hstep
  status := h.status.imp_right fun hverified => hverified.onward h.row hp hstep
  outcome houtcome := (h.outcome houtcome).onward h.row hp hstep

theorem WriteProgress.onward {id : Nat} {columns : CaseColumns} (h : WriteProgress s.cases id columns) (hp : Progressing p s.cases)
    (hstep : Onward s p s' q) : WriteProgress s'.cases id columns where
  row := row_onward h.row hstep
  outcome := h.outcome
  status status hstatus := (h.status status hstatus).imp_right <| Or.imp_right fun hverified =>
    hverified.onward h.row hp hstep

theorem OnboardingRest.Leads.onward {rest : OnboardingRest} (h : rest.Leads s.cases) (hp : Progressing p s.cases)
    (hstep : Onward s p s' q) : rest.Leads s'.cases := by
  cases rest with
  | finish => trivial
  | mark | review => exact ⟨h.1.onward hp hstep, h.2⟩
  | acknowledge => exact CopyProgress.onward h hp hstep

/-- What the other requests rely on stays. -/
theorem Progressing.onward {p' : OnboardingPoint} (h : Progressing p' s.cases) (hp : Progressing p s.cases)
    (hstep : Onward s p s' q) : Progressing p' s'.cases := by
  cases p' with
  | requesting | linking | marking | reviewing => exact ⟨h.1.onward hp hstep, h.2⟩
  | syncing | assigning | reconciling | acknowledging => exact CopyProgress.onward h hp hstep
  | writing update rest =>
    cases update with
    | caseRow => exact ⟨h.1.onward hp hstep, h.2.onward hp hstep⟩
    | _ => exact OnboardingRest.Leads.onward h hp hstep
  | _ => trivial

/-! ## What a write of a copy is sure of -/

theorem differing_eq_some {α : Type} [DecidableEq α] {given : Option α} {stored v : α}
    (h : differing given stored = some v) : given = some v := (Option.filter_eq_some_iff.mp h).1

/-- Writing a case from its copy. -/
theorem progressing_updateCase {copy : OnboardingCase} {values : CaseColumns} {rest : OnboardingRest}
    {p' : OnboardingPoint} (h : updateCase copy values rest = some p') (hcopy : CopyProgress s.cases copy)
    (houtcome : values.decisionOutcome ≠ some none)
    (hstatus : ∀ status, values.status = some status →
      status.Leads ∨ values.decisionOutcome.isSome = true ∨ Verified s.cases copy.id)
    (hrest : rest.Leads s.cases) : Progressing p' s.cases := by
  unfold updateCase at h
  split at h
  · cases rest <;> cases h <;> exact hrest
  · obtain rfl := Option.some.inj h
    refine ⟨⟨hcopy.row, fun hnone => houtcome (differing_eq_some hnone), fun status hnew => ?_⟩, hrest⟩
    rcases hstatus status (differing_eq_some hnew) with hleads | hdecided | hverified
    · exact .inl hleads
    · -- a verdict that is not written is the one of the copy
      right
      obtain ⟨given, hgiven⟩ := Option.isSome_iff_exists.mp hdecided
      by_cases hsame : given = copy.decisionOutcome
      · refine .inr (hcopy.outcome ?_)
        obtain ⟨outcome, rfl⟩ := Option.ne_none_iff_exists'.mp fun hnone => houtcome (hnone ▸ hgiven)
        rw [← hsame]
        rfl
      · left
        simp only [CaseColumns.changed, differing, hgiven, Option.filter_some, decide_eq_true hsame, if_true,
          Option.isSome_some]
    · exact .inr (.inr hverified)

/-- A verdict is written with its status. -/
theorem progressing_decideCase {copy : OnboardingCase} {decision : KybDecision} {now : Instant} {p' : OnboardingPoint}
    (hcopy : CopyProgress s.cases copy) (h : decideCase copy decision now = some p') : Progressing p' s.cases := by
  obtain ⟨values, hvalues, hupdate⟩ := Option.bind_eq_some_iff.mp h
  unfold applyKybDecision at hvalues
  obtain ⟨-, hvalues⟩ := Option.ite_none_left_eq_some.mp hvalues
  obtain rfl := Option.some.inj hvalues
  exact progressing_updateCase hupdate hcopy (fun hnone => by cases hnone) (fun _ _ => .inr (.inl rfl)) trivial

/-- What a request reaches, it may rely on. -/
theorem progressing_next (h : Progressing p s.cases) (hstep : Onward s p s' q) : ∀ p' ∈ q, Progressing p' s'.cases := by
  intro p' hp'
  cases hstep with
  | profiled | links =>
    cases hp'
    exact h
  | linked =>
    cases hp'
    exact h
  | @marked copy =>
    obtain ⟨hcopy, hstatus⟩ := h
    have hleads : CaseStatus.enVerificacion.Leads := by decide
    refine progressing_updateCase hp' hcopy (fun hnone => by cases hnone) (fun status hnew => ?_) ⟨?_, hstatus⟩
    · obtain rfl := Option.some.inj hnew
      exact .inl hleads
    · exact ⟨hcopy.row, .inl hleads, hcopy.outcome⟩
  | decided => exact progressing_decideCase h.1 hp'
  | synced => exact progressing_decideCase h hp'
  | restored =>
    refine progressing_updateCase hp' h.1 (fun hnone => by cases hnone) (fun status hnew => ?_) trivial
    obtain rfl := Option.some.inj hnew
    exact .inl (.inl h.2)
  | assigned =>
    exact progressing_updateCase hp' h (fun hnone => by cases hnone) (fun _ hnew => by cases hnew) trivial
  | reconciled | unchanged | granted =>
    cases hp'
    exact h
  | @acknowledged copy users now =>
    unfold acknowledge at hp'
    obtain ⟨-, hp'⟩ := Option.ite_none_right_eq_some.mp hp'
    refine progressing_updateCase hp' h (fun hnone => by cases hnone) (fun status hnew => ?_) trivial
    -- only a case that waits for credentials becomes ready
    have hwaits : copy.status = .altaPendiente := by
      by_contra hother
      simp [hother] at hnew
    rcases h.status with hleads | hverified
    · rw [hwaits] at hleads
      exact absurd hleads (by decide)
    · exact .inr (.inr hverified)
  | @wrote update rest =>
    have hrest : rest.Leads s.cases := by cases update <;> first | exact h.2 | exact h
    have hwrote : Onward s (.writing update rest) (update.write s) rest.point := .wrote
    have hrest' := hrest.onward h hwrote
    cases rest <;> cases hp' <;> exact hrest'
  | _ => cases hp' <;> trivial

/-- The copy of a case that is there. -/
theorem copyProgress_of_mem (hs : ∀ c ∈ s.cases, c.Open) {c : OnboardingCase} (hc : c ∈ s.cases) :
    CopyProgress s.cases c := by
  have hverified : c.decisionOutcome.isSome = true → Verified s.cases c.id := by
    intro houtcome c' hc' hid
    obtain rfl : c' = c := Table.eq_of_key_eq hc' hc hid
    exact houtcome
  exact ⟨⟨c, hc, rfl⟩, (hs c hc).imp_right hverified, hverified⟩

/-- A request begins. -/
theorem progressing_start (hs : ∀ c ∈ s.cases, c.Open) {request : OnboardingRequest} (h : request.start s = some p) :
    Progressing p s.cases := by
  cases request with
  | requestKybReview caseId =>
    obtain ⟨⟨c, account⟩, hfind, h⟩ := Option.bind_eq_some_iff.mp h
    obtain ⟨hcheck, h⟩ := Option.ite_none_right_eq_some.mp h
    obtain rfl := Option.some.inj h
    obtain ⟨_, hcheck⟩ := exists_of_isOk hcheck
    exact ⟨copyProgress_of_mem hs (mem_of_caseAccount hfind), by simpa [checkKybRequest] using hcheck⟩
  | syncKybDecision caseId =>
    obtain ⟨⟨c, account⟩, hfind, h⟩ := Option.bind_eq_some_iff.mp h
    obtain ⟨-, h⟩ := Option.ite_none_right_eq_some.mp h
    obtain rfl := Option.some.inj h
    exact copyProgress_of_mem hs (mem_of_caseAccount hfind)
  | assignCaseContract caseId contractVersionId =>
    obtain ⟨c, hfind, h⟩ := Option.bind_eq_some_iff.mp h
    obtain ⟨-, h⟩ := Option.ite_none_right_eq_some.mp h
    obtain rfl := Option.some.inj h
    exact copyProgress_of_mem hs (Table.find?_eq_some.mp hfind).1
  | reconcileCaseIdentity caseId =>
    obtain ⟨c, hfind, rfl⟩ := Option.map_eq_some_iff.mp h
    exact copyProgress_of_mem hs (Table.find?_eq_some.mp hfind).1
  | createMerchantUser | createOnboardingCase =>
    obtain ⟨-, h⟩ := Option.ite_none_right_eq_some.mp h
    obtain rfl := Option.some.inj h
    trivial
  | completeChecklistItem | activateOnboardingCase | qualifyAccount =>
    obtain ⟨row, -, h⟩ := Option.bind_eq_some_iff.mp h
    obtain ⟨-, h⟩ := Option.ite_none_right_eq_some.mp h
    obtain rfl := Option.some.inj h
    trivial

/-- **A step keeps the cases open.** -/
theorem open_onward (hs : ∀ c ∈ s.cases, c.Open) (hp : Progressing p s.cases) (hok : p.AsksVerified s)
    (hstep : Onward s p s' q) : ∀ c ∈ s'.cases, c.Open := by
  intro c' hc'
  rcases (cases_of_onward hstep).2 c' hc' with ⟨c, hc, hchange⟩ | ⟨input, -, rfl⟩
  · have hkept := outcome_of_change hp hchange
    cases hchange with
    | same => exact hs _ hc
    | @updated _ columns rest =>
      cases hstatus : columns.status with
      | none =>
        have hsame : (columns.write c).status = c.status := by simp only [CaseColumns.write, hstatus, Option.getD_none]
        exact (hs c hc).imp (fun hleads => hsame ▸ hleads) hkept
      | some status =>
        have hnew : (columns.write c).status = status := by simp only [CaseColumns.write, hstatus, Option.getD_some]
        rcases hp.1.status status hstatus with hleads | hdecided | hverified
        · exact .inl (hnew ▸ hleads)
        · right
          obtain ⟨given, hgiven⟩ := Option.isSome_iff_exists.mp hdecided
          obtain ⟨outcome, rfl⟩ := Option.ne_none_iff_exists'.mp fun hnone => hp.1.outcome (hnone ▸ hgiven)
          simp only [CaseColumns.write, hgiven, Option.getD_some, Option.isSome_some]
        · exact .inr (hkept (hverified c hc rfl))
    | awaits htaken hwaits => exact .inr (hok c hc ⟨htaken, hwaits⟩)
    | activated => exact .inl (.inr rfl)
  · exact .inl (.inl (List.mem_cons_self))

end Progress

/-! ## Runs -/

section Runs

/-- From tables without cases. -/
abbrev caseMachine : Machine OnboardingSessions OnboardingAct := onboardingMachine fun s => s.cases = .empty

theorem progressing_promises :
    onboardingWorkers.Promises (fun _ => True) VerifiedFirst (fun s => ∀ c ∈ s.cases, c.Open)
      (fun p s => Progressing p s.cases) where
  start _ hS hstart := progressing_start hS.store hstart
  next _ hS hfind hok hnext :=
    ⟨open_onward hS.store (hS.at hfind) (hok _ hfind) (onward_of_next hnext),
      progressing_next (hS.at hfind) (onward_of_next hnext)⟩
  stable _ hS hfind _ hnext x hx :=
    (hS.worker x (Sessions.mem_others.mp hx).1).onward (hS.at hfind) (onward_of_next hnext)
  outside _ hS _ hout := by
    have hcases := (pipeline_frame hout).1
    exact ⟨hcases ▸ hS.store, fun x hx => hcases ▸ hS.worker x hx⟩

/-- **Onboarding has no dead end**: in every run where a new user makes a case wait for credentials only once it has
its verdict, a case that is not completed and has no verdict may ask for it. -/
theorem noDeadEnd {S : OnboardingSessions} (h : caseMachine.Reachable VerifiedFirst S) :
    ∀ c ∈ S.committed.cases, c.status ≠ .completed → c.decisionOutcome = none →
      c.status ∈ STATUSES_THAT_CAN_REQUEST_KYB ∧ checkKybRequest c = .ok () := by
  intro c hc hstatus hnone
  have hopen := (Workers.keeps progressing_promises (fun s hs c hc => by rw [hs] at hc; exact absurd hc (Table.not_mem_empty c))
    (fun _ _ => trivial) h).store c hc
  have hcan : c.status ∈ STATUSES_THAT_CAN_REQUEST_KYB := by
    rcases hopen with (hcan | hcompleted) | hverdict
    · exact hcan
    · exact absurd hcompleted hstatus
    · rw [hnone] at hverdict
      cases hverdict
  exact ⟨hcan, failIf_of_not (not_not.mpr hcan)⟩

/-- Opening the case of a merchant. -/
def opensCase : List OnboardingAct :=
  .start 0 (.createOnboardingCase ⟨1, [("VISITA", "Visita al local")], visita_ne_nil⟩) :: statements 0 1

/-- A user of the merchant. -/
def firstUser : CreateMerchantUserDto := ⟨1, none, "caja@andina.bo", "Luis Mamani", "CAJERO"⟩

/-- The access of the user is asked for. -/
def asksAccess : List OnboardingAct :=
  [.start 1 (.createMerchantUser firstUser), .go 1 ⟨.queued "Q-1", exampleNow⟩, .go 1 ⟨.taken [1], exampleNow⟩] ++
    statements 1 1

/-- The engine approves the case. -/
def approvesCase : List OnboardingAct :=
  .start 2 (.requestKybReview 1) :: statements 2 3 ++
    .go 2 ⟨.decision ⟨"APROBADO", none, some "E-1", some "A-1", none, none⟩, exampleNow⟩ :: statements 2 1

/-- A merchant that can be onboarded. -/
def newMerchant : OnboardingSessions := ⟨exampleMerchant .empty .empty, []⟩

theorem noDeadEnd_of_verified :
    let S := caseMachine.afterIf VerifiedFirst newMerchant (opensCase ++ approvesCase ++ asksAccess)
    (∃ c ∈ S.committed.cases, c.status = .altaPendiente ∧ c.decisionOutcome = some .aprobado) ∧
      ∀ c ∈ S.committed.cases, c.status ≠ .completed → c.decisionOutcome = none →
        c.status ∈ STATUSES_THAT_CAN_REQUEST_KYB ∧ checkKybRequest c = .ok () :=
  ⟨by decide, noDeadEnd (caseMachine.reachable_afterIf VerifiedFirst ⟨rfl, rfl⟩ _)⟩

/-- The first user of a merchant that was not verified yet: its case waits for credentials, and cannot be verified. -/
theorem noDeadEnd_counterexample :
    ∃ S, caseMachine.Reachable (fun _ _ => True) S ∧ ∃ c ∈ S.committed.cases, c.status ≠ .completed ∧
      c.decisionOutcome = none ∧ c.status ∉ STATUSES_THAT_CAN_REQUEST_KYB :=
  ⟨caseMachine.after newMerchant (opensCase ++ asksAccess), caseMachine.reachable_after ⟨rfl, rfl⟩ _, by decide⟩

end Runs

end AtlasErp
