import AtlasErp.Merchants.OnboardingRequests

/-! # The gate of an activation

What an activation finds when it commits, and what becomes of the case afterwards.

- `gate_of_activated`: at its commit, the engine approved, the checklist is done and the contract is in force;
- `completed_of_step`: a case that was activated stays as it was decided;
- `activationGate`: both, in every run where what an activation read still stands and no verdict that was computed
  before lands on a case that was activated;
- `activationGate_counterexample`: a verdict that was asked for before the activation reopens the case. -/

namespace AtlasErp

open Lib

section Gate

variable {s s' : OnboardingDb} {p : OnboardingPoint} {q : Option OnboardingPoint}

/-- The gate: a case is completed, approved by the engine, with its checklist done and its contract in force. -/
def PassedGate (s : OnboardingDb) (caseId : Nat) (today : Day) : Prop :=
  ∃ c ∈ s.cases, c.id = caseId ∧ c.status = .completed ∧ c.decisionOutcome = some .aprobado ∧
    (∀ item ∈ s.itemsOf caseId, item.done = true) ∧ (s.activationContract c today).isSome = true

/-- A case that was activated is still so, with the decision it had. -/
def KeepsCompleted (s s' : OnboardingDb) : Prop :=
  ∀ c ∈ s.cases, c.status = .completed →
    ∃ c' ∈ s'.cases, c'.id = c.id ∧ c'.status = .completed ∧ c'.toCaseDecision = c.toCaseDecision

instance : Decidable (KeepsCompleted s s') :=
  inferInstanceAs (Decidable (∀ c ∈ s.cases, _ → ∃ c' ∈ s'.cases, _))

theorem KeepsCompleted.refl (s : OnboardingDb) : KeepsCompleted s s := fun c hc hstatus => ⟨c, hc, rfl, hstatus, rfl⟩

theorem KeepsCompleted.trans {s₁ s₂ s₃ : OnboardingDb} (h : KeepsCompleted s₁ s₂) (h' : KeepsCompleted s₂ s₃) :
    KeepsCompleted s₁ s₃ := by
  intro c hc hstatus
  obtain ⟨c₁, hc₁, hid₁, hstatus₁, hdecision₁⟩ := h c hc hstatus
  obtain ⟨c₂, hc₂, hid₂, hstatus₂, hdecision₂⟩ := h' c₁ hc₁ hstatus₁
  exact ⟨c₂, hc₂, hid₂.trans hid₁, hstatus₂, hdecision₂.trans hdecision₁⟩

/-! ## The condition -/

/-- An `UPDATE` writes the status or a column of the decision. -/
def CaseColumns.decides (columns : CaseColumns) : Bool :=
  columns.status.isSome || columns.decisionOutcome.isSome || columns.decisionReason.isSome ||
    columns.decisionExecutionId.isSome || columns.decisionArtifactVersion.isSome ||
    columns.manualReviewCaseCode.isSome || columns.decidedAt.isSome

/-- What an activation read still stands: the verdict, what was done of the checklist, and the contract, unless
another that is in force was agreed. -/
def StillAsRead (s : OnboardingDb) (copy : OnboardingCase) (items : List ChecklistItem) (today : Day) : Prop :=
  (∀ c ∈ s.cases, c.id = copy.id → c.decisionOutcome = copy.decisionOutcome ∧
      (c.contractVersionId = copy.contractVersionId ∨ (s.activationContract c today).isSome = true)) ∧
    ∀ item ∈ s.itemsOf copy.id, (∃ read ∈ items, read.id = item.id ∧ read.done = true) → item.done = true

instance (copy : OnboardingCase) (items : List ChecklistItem) (today : Day) :
    Decidable (StillAsRead s copy items today) := inferInstanceAs (Decidable (_ ∧ _))

/-- An activation commits on what it read, and a verdict or a status is not written over a case that was activated. -/
def OnboardingPoint.Timely (s : OnboardingDb) : OnboardingPoint → Prop
  | .activated copy items today _ => StillAsRead s copy items today
  | .writing (.caseRow id columns) _ => columns.decides = true → ∀ c ∈ s.cases, c.id = id → c.status ≠ .completed
  | _ => True

instance (s : OnboardingDb) : DecidablePred (OnboardingPoint.Timely s)
  | .activated copy items today _ => inferInstanceAs (Decidable (StillAsRead s copy items today))
  | .writing (.caseRow _ _) _ => inferInstanceAs (Decidable (_ → _))
  | .writing (.itemRow _ _) _ | .writing (.userRow _ _) _ | .writing (.accountRow _ _) _ | .requesting .. | .linking ..
  | .marking .. | .reviewing .. | .syncing .. | .completing .. | .assigning .. | .provisioning .. | .queued ..
  | .provisioned .. | .reconciling .. | .acknowledging .. | .activating .. | .resolved .. | .closing .. | .opening ..
  | .ensuringFolder .. | .folder .. | .qualifying .. | .qualified .. => .isTrue trivial

/-- The condition on a step. -/
def TimelyOnboarding (S : OnboardingSessions) : OnboardingAct → Prop
  | .go w _ => ∀ p ∈ S.find? w, p.Timely S.committed
  | _ => True

instance (S : OnboardingSessions) : DecidablePred (TimelyOnboarding S)
  | .go w _ => inferInstanceAs (Decidable (∀ p ∈ S.find? w, _))
  | .start .. | .die _ | .outside _ => .isTrue trivial

/-! ## A case that was activated -/

/-- What is written over a case that was activated leaves its status and its decision. -/
theorem CaseColumns.write_of_not_decides {columns : CaseColumns} (h : columns.decides = false) (c : OnboardingCase) :
    (columns.write c).status = c.status ∧ (columns.write c).toCaseDecision = c.toCaseDecision := by
  simp only [CaseColumns.decides, Bool.or_eq_false_iff, Option.isSome_eq_false_iff, Option.isNone_iff_eq_none] at h
  obtain ⟨⟨⟨⟨⟨⟨hstatus, houtcome⟩, hreason⟩, hexecution⟩, hartifact⟩, hmanual⟩, hdecided⟩ := h
  simp only [CaseColumns.write, hstatus, houtcome, hreason, hexecution, hartifact, hmanual, hdecided,
    Option.getD_none, and_self]

theorem keepsCompleted_of_onward (hstep : Onward s p s' q) (hp : p.Timely s) : KeepsCompleted s s' := by
  intro c hc hstatus
  obtain ⟨c', hc', hchange⟩ := (cases_of_onward hstep).1 c hc
  refine ⟨c', hc', hchange.id_eq, ?_⟩
  cases hchange with
  | same => exact ⟨hstatus, rfl⟩
  | @updated _ columns rest =>
    have hquiet : columns.decides = false := by
      by_contra hdecides
      exact hp (Bool.not_eq_false _ ▸ hdecides) c hc rfl hstatus
    obtain ⟨hsame, hdecision⟩ := CaseColumns.write_of_not_decides hquiet c
    exact ⟨hsame.trans hstatus, hdecision⟩
  | awaits _ hwaits =>
    have hmem := (of_decide_eq_true hwaits).2
    rw [hstatus] at hmem
    simp at hmem
  | activated => exact ⟨rfl, rfl⟩

/-! ## The contract of a case -/

/-- What could be activated still can. -/
def ContractsKept (s s' : OnboardingDb) : Prop :=
  ∀ version ∈ s.contractVersions, ∀ accountId today,
    isContractVersionActivatable version (s.contractOf accountId version) today = true →
      ∃ version' ∈ s'.contractVersions, version'.id = version.id ∧
        isContractVersionActivatable version' (s'.contractOf accountId version') today = true

theorem ContractsKept.of_eq (hversions : s'.contractVersions = s.contractVersions) (hcontracts : s'.contracts = s.contracts) :
    ContractsKept s s' := by
  intro version hversion accountId today hactive
  refine ⟨version, hversions ▸ hversion, rfl, ?_⟩
  rw [OnboardingDb.contractOf, hcontracts]
  exact hactive

/-- The contract of a case depends on the version agreed for it and on its account. -/
theorem activationContract_congr {c c' : OnboardingCase} (hversion : c'.contractVersionId = c.contractVersionId)
    (haccount : c'.accountId = c.accountId) (today : Day) :
    s.activationContract c' today = s.activationContract c today := by
  simp only [OnboardingDb.activationContract, hversion, haccount]

/-- A case that had a contract in force has one. -/
theorem ContractsKept.activationContract (h : ContractsKept s s') {c : OnboardingCase} {today : Day}
    (hsome : (s.activationContract c today).isSome = true) : (s'.activationContract c today).isSome = true := by
  unfold OnboardingDb.activationContract at hsome ⊢
  cases hagreed : c.contractVersionId with
  | none =>
    rw [hagreed] at hsome
    obtain ⟨version, hversion, hactive⟩ := Table.findBy_isSome.mp hsome
    obtain ⟨version', hversion', -, hactive'⟩ := h version hversion c.accountId today hactive
    exact Table.findBy_isSome.mpr ⟨version', hversion', hactive'⟩
  | some versionId =>
    rw [hagreed] at hsome
    obtain ⟨version, hfound⟩ := Option.isSome_iff_exists.mp hsome
    obtain ⟨hfind, hactive⟩ := Option.filter_eq_some_iff.mp hfound
    obtain ⟨hversion, hid⟩ := Table.find?_eq_some.mp hfind
    obtain ⟨version', hversion', hid', hactive'⟩ := h version hversion c.accountId today hactive
    have hfind' : s'.contractVersions.find? versionId = some version' :=
      Table.find?_eq_some.mpr ⟨hversion', hid'.trans hid⟩
    simp only [hfind', Option.filter_some, hactive', if_true, Option.isSome_some]

theorem activatable_iff {version : CommercialVersion} {accountId : Nat} {today : Day} :
    isContractVersionActivatable version (s.contractOf accountId version) today = true ↔
      version.status = .active ∧ version.validFrom ≤ today ∧ version.validTo.all (today ≤ ·) = true ∧
        ∃ contract, s.contracts.find? version.contractId = some contract ∧ contract.accountId = accountId ∧
          contract.status = .active := by
  unfold isContractVersionActivatable OnboardingDb.contractOf
  cases s.contracts.find? version.contractId <;> simp [Option.filter]; grind

/-- A request writes no contract. -/
theorem contracts_of_onward (h : Onward s p s' q) : ContractsKept s s' := by
  cases h with
  | provisioned commit =>
    obtain rfl := provisioned_eq_some commit
    exact .of_eq rfl rfl
  | wrote =>
    rename_i update rest
    cases update <;> exact .of_eq rfl rfl
  | _ => exact .of_eq rfl rfl

/-- Nor does the pipeline take one out of force. -/
theorem contracts_of_pipeline {operation : PipelineOperation} (h : pipeline s operation = some s') :
    ContractsKept s s' := by
  cases operation with
  | createOpportunity accountId =>
    obtain ⟨account, -, h⟩ := Option.bind_eq_some_iff.mp h
    obtain ⟨-, h⟩ := Option.ite_none_left_eq_some.mp h
    obtain rfl := Option.some.inj h
    exact .of_eq rfl rfl
  | moveOpportunity opportunityId stage =>
    obtain ⟨-, h⟩ := Option.ite_none_left_eq_some.mp h
    obtain rfl := Option.some.inj h
    exact .of_eq rfl rfl
  | createContract opportunityId startDate endDate =>
    obtain ⟨opportunity, -, h⟩ := Option.bind_eq_some_iff.mp h
    obtain ⟨-, h⟩ := Option.ite_none_left_eq_some.mp h
    obtain rfl := Option.some.inj h
    intro version hversion accountId today hactive
    refine ⟨version, Table.mem_create_of_mem (fun _ => rfl) hversion, rfl, activatable_iff.mpr ?_⟩
    obtain ⟨hstatus, hfrom, hto, contract, hfind, hcontract⟩ := activatable_iff.mp hactive
    exact ⟨hstatus, hfrom, hto, contract, Table.find?_create (fun _ => rfl) hfind, hcontract⟩
  | signAndActivateContract contractId =>
    obtain ⟨contract, -, h⟩ := Option.bind_eq_some_iff.mp h
    obtain ⟨-, h⟩ := Option.ite_none_left_eq_some.mp h
    obtain rfl := Option.some.inj h
    intro version hversion accountId today hactive
    obtain ⟨hstatus, hfrom, hto, signed, hfind, haccount, hsigned⟩ := activatable_iff.mp hactive
    refine ⟨_, (Table.mem_updateWhere (p := fun v : CommercialVersion => v.contractId = contractId)
      (f := fun v => { v with status := .active }) fun _ => rfl).mpr ⟨version, hversion, rfl⟩, ?_, activatable_iff.mpr ?_⟩
    · split <;> rfl
    · have hfind' := Table.find?_updateWhere (p := fun c : AccountContract => c.id = contractId)
        (f := fun c => { c with status := .active }) (fun _ => rfl) hfind
      split
      · exact ⟨rfl, hfrom, hto, _, hfind', by split <;> exact haccount, by split <;> first | rfl | exact hsigned⟩
      · exact ⟨hstatus, hfrom, hto, _, hfind', by split <;> exact haccount, by split <;> first | rfl | exact hsigned⟩

/-! ## What an activation relies on -/

/-- What an activation checked on its copy, and that the case and its items are those it read. -/
structure ActivationCopy (s : OnboardingDb) (copy : OnboardingCase) (items : List ChecklistItem) : Prop where
  approved : copy.decisionOutcome = some .aprobado
  done : ∀ item ∈ items, item.done = true
  row : ∃ c ∈ s.cases, c.id = copy.id ∧ c.accountId = copy.accountId
  read : ∀ item ∈ s.itemsOf copy.id, ∃ i ∈ items, i.id = item.id

/-- What an activation relies on at each point. -/
def Activating : OnboardingPoint → OnboardingDb → Prop
  | .activating copy items, s => ActivationCopy s copy items
  | .resolved copy items today, s | .closing copy items today _, s | .activated copy items today _, s =>
    ActivationCopy s copy items ∧ (s.activationContract copy today).isSome = true
  | _, _ => True

theorem mem_itemsOf {item : ChecklistItem} {caseId : Nat} :
    item ∈ s.itemsOf caseId ↔ item ∈ s.checklistItems ∧ item.onboardingCaseId = caseId := by
  rw [OnboardingDb.itemsOf, Table.mem_rowsWhere, decide_eq_true_eq]

theorem activationCopy_of_check {c : OnboardingCase} (hc : c ∈ s.cases)
    (h : (checkActivation c (s.itemsOf c.id)).isOk = true) : ActivationCopy s c (s.itemsOf c.id) := by
  obtain ⟨_, h⟩ := exists_of_isOk h
  obtain ⟨-, h⟩ := failIf_bind_eq_ok.mp h
  obtain ⟨happroved, h⟩ := failIf_bind_eq_ok.mp h
  have hitems := failIf_eq_ok.mp h
  refine ⟨by simpa using happroved, fun item hitem => ?_, ⟨c, hc, rfl, rfl⟩, fun item hitem => ⟨item, hitem, rfl⟩⟩
  by_contra hpending
  exact hitems (.inr ⟨item, hitem, Bool.not_eq_true _ ▸ hpending⟩)

/-- What a request does leaves the case, and no item appears. -/
theorem ActivationCopy.onward {copy : OnboardingCase} {items : List ChecklistItem} (h : ActivationCopy s copy items)
    (hstep : Onward s p s' q) : ActivationCopy s' copy items := by
  obtain ⟨c, hc, hid, haccount⟩ := h.row
  refine ⟨h.approved, h.done, ?_, fun item hitem => ?_⟩
  · obtain ⟨c', hc', hchange⟩ := (cases_of_onward hstep).1 c hc
    exact ⟨c', hc', hchange.id_eq.trans hid, hchange.accountId_eq.trans haccount⟩
  · obtain ⟨hmem, hcase⟩ := mem_itemsOf.mp hitem
    rcases items_of_onward hstep hmem with ⟨old, hold, hsame, holdCase⟩ | hnew
    · rw [hsame]
      exact h.read old (mem_itemsOf.mpr ⟨hold, holdCase.symm.trans hcase⟩)
    · -- the items of a case that is opened are of that case
      have hlt : c.id < s.cases.nextKey := Table.key_lt_nextKey hc
      omega

theorem Activating.onward {p' : OnboardingPoint} (h : Activating p' s) (hstep : Onward s p s' q) : Activating p' s' := by
  cases p' with
  | activating => exact ActivationCopy.onward h hstep
  | resolved | closing | activated => exact ⟨h.1.onward hstep, (contracts_of_onward hstep).activationContract h.2⟩
  | _ => trivial

/-- A point that is no part of an activation. -/
theorem activating_updateCase {copy : OnboardingCase} {values : CaseColumns} {rest : OnboardingRest} {p' : OnboardingPoint}
    (h : updateCase copy values rest = some p') : Activating p' s := by
  unfold updateCase at h
  split at h
  · cases rest <;> cases h <;> trivial
  · cases h
    trivial

/-- What a request reaches, it may rely on. -/
theorem activating_next (h : Activating p s) (hstep : Onward s p s' q) : ∀ p' ∈ q, Activating p' s' := by
  intro p' hp'
  cases hstep with
  | resolved hcontract =>
    cases hp'
    exact ⟨h, hcontract⟩
  | closing | closed =>
    cases hp'
    exact h
  | marked | restored | assigned => exact activating_updateCase hp'
  | decided | synced =>
    obtain ⟨values, -, hupdate⟩ := Option.bind_eq_some_iff.mp hp'
    exact activating_updateCase hupdate
  | acknowledged =>
    unfold acknowledge at hp'
    split at hp'
    · exact activating_updateCase hp'
    · cases hp'
  | wrote =>
    rename_i update rest
    cases rest <;> cases hp' <;> trivial
  | _ => cases hp' <;> trivial

/-- A request begins. -/
theorem activating_start {request : OnboardingRequest} (h : request.start s = some p) : Activating p s := by
  cases request with
  | activateOnboardingCase caseId =>
    obtain ⟨c, hfind, h⟩ := Option.bind_eq_some_iff.mp h
    obtain ⟨hcheck, h⟩ := Option.ite_none_right_eq_some.mp h
    obtain rfl := Option.some.inj h
    obtain ⟨hc, rfl⟩ := Table.find?_eq_some.mp hfind
    exact activationCopy_of_check hc hcheck
  | reconcileCaseIdentity =>
    obtain ⟨c, -, rfl⟩ := Option.map_eq_some_iff.mp h
    trivial
  | createMerchantUser | createOnboardingCase =>
    obtain ⟨-, h⟩ := Option.ite_none_right_eq_some.mp h
    obtain rfl := Option.some.inj h
    trivial
  | _ =>
    obtain ⟨row, -, h⟩ := Option.bind_eq_some_iff.mp h
    obtain ⟨-, h⟩ := Option.ite_none_right_eq_some.mp h
    obtain rfl := Option.some.inj h
    trivial

theorem Activating.pipeline {operation : PipelineOperation} (hstep : pipeline s operation = some s')
    (h : Activating p s) : Activating p s' := by
  obtain ⟨hcases, hitems, -, -⟩ := pipeline_frame hstep
  have hcopy : ∀ copy items, ActivationCopy s copy items → ActivationCopy s' copy items := by
    intro copy items hcopy
    refine ⟨hcopy.approved, hcopy.done, hcases ▸ hcopy.row, fun item hitem => ?_⟩
    rw [OnboardingDb.itemsOf, hitems] at hitem
    exact hcopy.read item hitem
  cases p with
  | activating => exact hcopy _ _ h
  | resolved | closing | activated => exact ⟨hcopy _ _ h.1, (contracts_of_pipeline hstep).activationContract h.2⟩
  | _ => trivial

/-- **At its commit**, an activation passes the gate. -/
theorem gate_of_activated {copy : OnboardingCase} {items : List ChecklistItem} {today : Day} (completedAt : Instant)
    (h : ActivationCopy s copy items) (hcontract : (s.activationContract copy today).isSome = true)
    (hread : StillAsRead s copy items today) : PassedGate (s.activated copy completedAt) copy.id today := by
  obtain ⟨c, hc, hid, haccount⟩ := h.row
  obtain ⟨houtcome, hversion⟩ := hread.1 c hc hid
  refine ⟨(activationColumns completedAt).write c, ?_, hid, rfl, houtcome.trans h.approved, fun item hitem => ?_, ?_⟩
  · have hmem := (Table.mem_updateWhere (p := fun c : OnboardingCase => c.id = copy.id)
      (f := (activationColumns completedAt).write) fun _ => rfl).mpr ⟨c, hc, rfl⟩
    rwa [if_pos (decide_eq_true hid)] at hmem
  · obtain ⟨i, hi, hsame⟩ := h.read item hitem
    exact hread.2 item hitem ⟨i, hi, hsame, h.done i hi⟩
  · have hstored : (s.activationContract c today).isSome = true := by
      rcases hversion with hagreed | hother
      · rwa [activationContract_congr hagreed haccount]
      · exact hother
    exact hstored

end Gate

/-! ## Runs -/

section Runs

/-- From any tables. -/
abbrev activationMachine : Machine OnboardingSessions OnboardingAct := onboardingMachine fun _ => True

theorem activating_promises : onboardingWorkers.Promises (fun _ => True) TimelyOnboarding (fun _ => True) Activating where
  start _ _ hstart := activating_start hstart
  next _ hS hfind _ hnext := ⟨trivial, activating_next (hS.at hfind) (onward_of_next hnext)⟩
  stable _ hS _ _ hnext x hx := (hS.worker x (Sessions.mem_others.mp hx).1).onward (onward_of_next hnext)
  outside _ hS _ hout := ⟨trivial, fun x hx => (hS.worker x hx).pipeline hout⟩

/-- A step that meets the condition keeps the cases that were activated. -/
theorem completed_of_step {S S' : OnboardingSessions} {a : OnboardingAct} (hok : TimelyOnboarding S a)
    (hstep : activationMachine.step S a = some S') : KeepsCompleted S.committed S'.committed := by
  cases Workers.step_cases hstep with
  | started | died => exact .refl _
  | moved hfind hnext | done hfind hnext => exact keepsCompleted_of_onward (onward_of_next hnext) (hok _ hfind)
  | changed hout =>
    intro c hc hstatus
    exact ⟨c, (pipeline_frame hout).1 ▸ hc, rfl, hstatus, rfl⟩

/-- **The gate of an activation holds, and is final**: in every run where an activation commits on what it read, and
no verdict or status is written over a case that was activated, every activation that commits passes the gate, and
every case that was activated stays so with its decision. -/
theorem activationGate {S : OnboardingSessions} (h : activationMachine.Reachable TimelyOnboarding S) :
    (∀ w now copy items today completedAt S', S.find? w = some (.activated copy items today completedAt) →
      TimelyOnboarding S (.go w ⟨.statement, now⟩) → activationMachine.step S (.go w ⟨.statement, now⟩) = some S' →
        PassedGate S'.committed copy.id today) ∧
      ∀ acts S', activationMachine.Run TimelyOnboarding S acts S' → KeepsCompleted S.committed S'.committed := by
  constructor
  · intro w now copy items today completedAt S' hfind hok hstep
    obtain ⟨hcopy, hcontract⟩ := (Workers.keeps activating_promises (fun _ _ => trivial) (fun _ _ => trivial) h).at hfind
    have hgate := gate_of_activated completedAt hcopy hcontract (hok _ hfind)
    have hstep' : onboardingWorkers.step S (.go w ⟨.statement, now⟩) = some S' := hstep
    cases Workers.step_cases hstep' with
    | moved hfind' hnext =>
      rw [hfind] at hfind'
      obtain rfl := Option.some.inj hfind'
      cases hnext
    | done hfind' hnext =>
      rw [hfind] at hfind'
      obtain rfl := Option.some.inj hfind'
      obtain ⟨rfl, -⟩ := Prod.mk.inj (Option.some.inj hnext)
      exact hgate
  · intro acts S' hrun
    have htrans : ∀ {T₁ T₂ T₃ : OnboardingSessions}, KeepsCompleted T₁.committed T₂.committed →
        KeepsCompleted T₂.committed T₃.committed → KeepsCompleted T₁.committed T₃.committed := KeepsCompleted.trans
    exact hrun.relates (P := fun _ => True) (R := fun T T' => KeepsCompleted T.committed T'.committed)
      (fun T => .refl T.committed) htrans (fun _ _ _ _ _ _ => trivial)
      (fun _ _ _ hok hstep _ => completed_of_step hok hstep) trivial

/-- The activation of a case that the engine approved, about to commit. -/
def aboutToCommit : OnboardingSessions :=
  activationMachine.afterIf TimelyOnboarding ⟨approvedMerchant, []⟩ (activation 0)

theorem activationGate_of_aboutToCommit :
    ∃ S', activationMachine.step aboutToCommit (.go 0 ⟨.statement, exampleNow⟩) = some S' ∧
      PassedGate S'.committed 1 20500 ∧ ∃ c ∈ S'.committed.cases, c.status = .completed := by
  have hreach : activationMachine.Reachable TimelyOnboarding aboutToCommit :=
    activationMachine.reachable_afterIf TimelyOnboarding ⟨trivial, rfl⟩ _
  have hstep : (activationMachine.step aboutToCommit (.go 0 ⟨.statement, exampleNow⟩)).isSome = true := by
    decide
  obtain ⟨S', hS'⟩ := Option.isSome_iff_exists.mp hstep
  have hok : TimelyOnboarding aboutToCommit (.go 0 ⟨.statement, exampleNow⟩) := by decide
  have hfind : aboutToCommit.find? 0 = some committing := by decide
  have hgate : PassedGate S'.committed 1 20500 :=
    (activationGate hreach).1 0 exampleNow _ _ _ _ S' hfind hok hS'
  obtain ⟨c, hc, -, hstatus, -⟩ := id hgate
  exact ⟨S', hS', hgate, c, hc, hstatus⟩

/-- The engine looks at the merchant again. -/
def revision : KybDecision := ⟨"REVISION_MANUAL", some "Coincidencia en lista", some "E-2", some "A-1", some "R-1", none⟩

/-- A verdict that is asked for before the activation, and comes after it. -/
theorem activationGate_counterexample :
    ∃ S acts S', activationMachine.Reachable (fun _ _ => True) S ∧ activationMachine.Run (fun _ _ => True) S acts S' ∧
      ¬KeepsCompleted S.committed S'.committed := by
  refine ⟨activationMachine.after ⟨approvedMerchant, []⟩
    (.start 1 (.syncKybDecision 1) :: activation 0 ++ statements 0 1), .go 1 ⟨.estado (some revision), exampleNow⟩ ::
    statements 1 1, _, activationMachine.reachable_after ⟨trivial, rfl⟩ _, activationMachine.run_after ?_, ?_⟩
  · decide
  · decide

end Runs

end AtlasErp
