import AtlasErp.Merchants.OnboardingRequests

/-! # An activated merchant stays a customer

The funnel of the account and the activation write the same status.

- `registerPurchase_admitted`: a purchase of a customer at a branch that may originate is not refused;
- `customer_of_step`: what a step leaves of a customer;
- `customerKept`: in every run where a qualification does not find a customer, a merchant that was activated is a
  customer, and its purchases are admitted;
- `customerKept_counterexample`: an account that is qualified again. -/

namespace AtlasErp

open Lib

/-! ## Admission of a purchase -/

section Admission

/-- A computation that does not end in a refusal: 403. -/
def NotRefused {α : Type} (x : Except HttpError α) : Prop := ∀ e, x = .error e → e.status ≠ .forbidden

variable {α β : Type}

theorem NotRefused.ok (a : α) : NotRefused (.ok a) := nofun

theorem NotRefused.bind {x : Except HttpError α} {f : α → Except HttpError β} (hx : NotRefused x)
    (hf : ∀ a, x = .ok a → NotRefused (f a)) : NotRefused (x >>= f) := by
  cases x with
  | error e =>
    intro e' he'
    obtain rfl : e = e' := Except.error.inj he'
    exact hx e rfl
  | ok a => exact hf a rfl

theorem NotRefused.failIf {c : Prop} [Decidable c] {e : HttpError} (h : c → e.status ≠ .forbidden) :
    NotRefused (failIf c e) := by
  intro e' he'
  unfold Lib.failIf at he'
  split at he'
  · obtain rfl := Except.error.inj he'
    exact h ‹_›
  · cases he'

theorem NotRefused.orFail {o : Option α} {e : HttpError} (h : e.status ≠ .forbidden) : NotRefused (orFail o e) := by
  cases o with
  | none =>
    intro e' he'
    obtain rfl : e = e' := Except.error.inj he'
    exact h
  | some a => exact .ok a

theorem NotRefused.liftMoney (x : Except MoneyError α) : NotRefused (liftMoney x) := by
  cases x with
  | error error =>
    intro e he
    obtain rfl := Except.error.inj he
    cases error <;> exact nofun
  | ok a => exact .ok a

variable {db : PurchaseDb} {input : RegisterPurchaseDto} {now : Instant}

theorem assertPurchaseSplit_notRefused : NotRefused (assertPurchaseSplit input) := by
  refine .bind (.liftMoney _) fun violations _ => ?_
  split
  · exact .ok _
  · intro e he
    obtain rfl := Except.error.inj he
    exact nofun

theorem resolveConsumerId_notRefused : NotRefused (resolveConsumerId db input) := by
  unfold resolveConsumerId
  split
  · exact .ok _
  · refine .bind (.orFail nofun) fun externalRef _ => ?_
    split <;> exact .ok _

theorem calculateMdr_notRefused (amount : JsNumber) (rules : List MdrRule) (terms : List CommercialTerm) (branchId : Nat)
    (category segment : Option String) : NotRefused (calculateMdr amount rules terms branchId category segment) := by
  unfold calculateMdr
  split
  · exact .bind (.liftMoney _) fun _ _ => .ok _
  · exact .bind (.orFail nofun) fun _ _ => .bind (.liftMoney _) fun _ _ => .ok _

theorem createInstallments_notRefused (purchaseId : Nat) (installments : List (InstallmentInput × Int)) :
    NotRefused (installments.foldlM (createInstallment input purchaseId) db) := by
  induction installments generalizing db with
  | nil => exact .ok _
  | cons installment rest ih =>
    rw [List.foldlM_cons]
    refine .bind ?_ fun _ _ => ih
    unfold createInstallment
    split
    · exact .bind (.failIf fun _ => nofun) fun _ _ => .ok _
    · exact .ok _

/-- **A purchase of a customer**, at an active branch that may originate, is not refused. -/
theorem registerPurchase_admitted {account : MerchantAccount} {branch : MerchantBranch}
    (haccount : db.accounts.find? input.merchantAccountId = some account) (hcustomer : account.lifecycleStatus = .customer)
    (hbranch : branch ∈ db.branches) (hid : branch.id = input.branchId)
    (howner : branch.accountId = input.merchantAccountId) (hactive : branch.status = .active)
    (hcan : branch.canOriginateBnpl = true) : NotRefused (registerPurchase db input now) := by
  have hfound : db.branches.findBy (fun b => b.id = input.branchId ∧ b.accountId = input.merchantAccountId) =
      some branch :=
    Table.findBy_unique hbranch (decide_eq_true ⟨hid, howner⟩) fun x _ hx => (of_decide_eq_true hx).1.trans hid.symm
  unfold registerPurchase
  refine .bind (.orFail nofun) fun found hfind => ?_
  obtain rfl : account = found := Option.some.inj (haccount.symm.trans (orFail_eq_ok.mp hfind))
  refine .bind (.failIf fun hother => absurd hcustomer hother) fun _ _ => ?_
  refine .bind (.failIf fun hclosed => ?_) fun _ _ => ?_
  · rw [hfound] at hclosed
    simp [hactive, hcan] at hclosed
  refine .bind assertPurchaseSplit_notRefused fun _ _ => .bind (.liftMoney _) fun split _ => ?_
  refine .bind resolveConsumerId_notRefused fun consumer _ => .bind (.orFail nofun) fun version _ => ?_
  exact .bind (calculateMdr_notRefused _ _ _ _ _ _) fun mdr _ => .bind (createInstallments_notRefused _ _) fun _ _ => .ok _

end Admission

/-! ## The status of an account -/

section Status

variable {s s' : OnboardingDb} {p : OnboardingPoint} {q : Option OnboardingPoint}

/-- An account that is there is a customer. -/
def IsCustomer (s : OnboardingDb) (accountId : Nat) : Prop :=
  ∀ a ∈ s.accounts, a.id = accountId → a.lifecycleStatus = .customer

instance (accountId : Nat) : Decidable (IsCustomer s accountId) := inferInstanceAs (Decidable (∀ a ∈ s.accounts, _))

/-- A qualification that writes a status does not find a customer. -/
def OnboardingPoint.Qualifies (s : OnboardingDb) : OnboardingPoint → Prop
  | .qualified copy input => (qualifiedColumns copy input).lifecycleStatus.isSome = true →
      ∀ a ∈ s.accounts, a.id = copy.id → a.lifecycleStatus ≠ .customer
  | _ => True

instance (s : OnboardingDb) : DecidablePred (OnboardingPoint.Qualifies s)
  | .qualified .. => inferInstanceAs (Decidable (_ → _))
  | .requesting .. | .linking .. | .marking .. | .reviewing .. | .syncing .. | .completing .. | .assigning ..
  | .provisioning .. | .queued .. | .provisioned .. | .reconciling .. | .acknowledging .. | .activating .. | .resolved ..
  | .closing .. | .activated .. | .opening .. | .ensuringFolder .. | .folder .. | .qualifying .. | .writing .. =>
    .isTrue trivial

/-- The condition on a step. -/
def QualifiesProspects (S : OnboardingSessions) : OnboardingAct → Prop
  | .go w _ => ∀ p ∈ S.find? w, p.Qualifies S.committed
  | _ => True

instance (S : OnboardingSessions) : DecidablePred (QualifiesProspects S)
  | .go w _ => inferInstanceAs (Decidable (∀ p ∈ S.find? w, _))
  | .start .. | .die _ | .outside _ => .isTrue trivial

/-- The only `UPDATE` of an account by itself is the link of its profile. -/
def LinksOnly : OnboardingPoint → Prop
  | .writing (.accountRow _ columns) _ => columns.lifecycleStatus = none
  | _ => True

theorem linksOnly_updateCase {copy : OnboardingCase} {values : CaseColumns} {rest : OnboardingRest} {p' : OnboardingPoint}
    (h : updateCase copy values rest = some p') : LinksOnly p' := by
  unfold updateCase at h
  split at h
  · cases rest <;> cases h <;> trivial
  · cases h
    trivial

theorem linksOnly_next (hstep : Onward s p s' q) : ∀ p' ∈ q, LinksOnly p' := by
  intro p' hp'
  cases hstep with
  | linked hstatus =>
    cases hp'
    exact hstatus
  | marked | restored | assigned => exact linksOnly_updateCase hp'
  | decided | synced =>
    obtain ⟨values, -, hupdate⟩ := Option.bind_eq_some_iff.mp hp'
    exact linksOnly_updateCase hupdate
  | acknowledged =>
    unfold acknowledge at hp'
    exact linksOnly_updateCase (Option.ite_none_right_eq_some.mp hp').2
  | wrote =>
    rename_i update rest
    cases rest <;> cases hp' <;> trivial
  | _ => cases hp' <;> trivial

theorem linksOnly_start {request : OnboardingRequest} (h : request.start s = some p) : LinksOnly p := by
  cases request with
  | reconcileCaseIdentity =>
    obtain ⟨c, -, rfl⟩ := Option.map_eq_some_iff.mp h
    trivial
  | createMerchantUser | createOnboardingCase =>
    obtain ⟨-, h⟩ := Option.ite_none_right_eq_some.mp h
    obtain rfl := Option.some.inj h
    trivial
  | _ =>
    obtain ⟨row, -, h⟩ := Option.bind_eq_some_iff.mp h
    obtain ⟨-, h⟩ := Option.ite_none_right_eq_some.mp h
    obtain rfl := Option.some.inj h
    trivial

/-- An activation makes the account a customer. -/
theorem isCustomer_activated (copy : OnboardingCase) (now : Instant) :
    IsCustomer (s.activated copy now) copy.accountId := by
  intro a' ha' hid
  obtain ⟨a, ha, rfl⟩ := (Table.mem_updateWhere (p := fun a : OnboardingAccount => a.id = copy.accountId)
    (f := fun a => { a with lifecycleStatus := .customer }) fun _ => rfl).mp ha'
  split
  · rfl
  · rename_i hother
    rw [if_neg hother] at hid
    exact absurd (decide_eq_true hid) hother

/-- **A step keeps a customer.** -/
theorem IsCustomer.onward {accountId : Nat} (h : IsCustomer s accountId) (hp : LinksOnly p) (hok : p.Qualifies s)
    (hstep : Onward s p s' q) : IsCustomer s' accountId := by
  have hupdate : ∀ (cond : OnboardingAccount → Bool) (f : OnboardingAccount → OnboardingAccount),
      (∀ a, (f a).id = a.id) →
      (∀ a ∈ s.accounts, cond a = true → a.lifecycleStatus = .customer → (f a).lifecycleStatus = .customer) →
      ∀ a' ∈ s.accounts.updateWhere cond f, a'.id = accountId → a'.lifecycleStatus = .customer := by
    intro cond f hf hkeeps a' ha' hid
    obtain ⟨a, ha, rfl⟩ := (Table.mem_updateWhere hf).mp ha'
    split at hid
    · rename_i hcond
      rw [if_pos hcond]
      exact hkeeps a ha hcond (h a ha ((hf a).symm.trans hid))
    · rename_i hcond
      rw [if_neg hcond]
      exact h a ha hid
  cases hstep with
  | provisioned commit =>
    obtain rfl := provisioned_eq_some commit
    exact h
  | activated => exact hupdate _ _ (fun _ => rfl) fun _ _ _ _ => rfl
  | folder => exact hupdate _ _ (fun _ => rfl) fun _ _ _ hcustomer => hcustomer
  | @qualified copy input =>
    refine hupdate _ _ (fun _ => rfl) fun a ha hid hcustomer => ?_
    have hnone : (qualifiedColumns copy input).lifecycleStatus = none := by
      by_contra hsome
      exact hok (Option.isSome_iff_ne_none.mpr hsome) a ha (of_decide_eq_true hid) hcustomer
    simp only [AccountColumns.write, hnone, Option.getD_none, hcustomer]
  | @wrote update rest =>
    cases update with
    | accountRow id columns =>
      refine hupdate _ _ (fun _ => rfl) fun a _ _ hcustomer => ?_
      have hnone : columns.lifecycleStatus = none := hp
      simp only [AccountColumns.write, hnone, Option.getD_none, hcustomer]
    | _ => exact h
  | _ => exact h

end Status

/-! ## Runs -/

section Runs

/-- From any tables. -/
abbrev accountMachine : Machine OnboardingSessions OnboardingAct := onboardingMachine fun _ => True

theorem linksOnly_promises :
    onboardingWorkers.Promises (fun _ => True) QualifiesProspects (fun _ => True) fun p _ => LinksOnly p where
  start _ _ hstart := linksOnly_start hstart
  next _ _ _ _ hnext := ⟨trivial, linksOnly_next (onward_of_next hnext)⟩
  stable _ hS _ _ _ x hx := hS.worker x (Sessions.mem_others.mp hx).1
  outside _ hS _ _ := ⟨trivial, hS.worker⟩

/-- A step that meets the condition keeps a customer. -/
theorem customer_of_step {S S' : OnboardingSessions} {a : OnboardingAct} {accountId : Nat}
    (hS : Workers.Keeps (fun _ => True) (fun p _ => LinksOnly p) S) (hok : QualifiesProspects S a)
    (hstep : accountMachine.step S a = some S') (h : IsCustomer S.committed accountId) :
    IsCustomer S'.committed accountId := by
  cases Workers.step_cases hstep with
  | started | died => exact h
  | moved hfind hnext | done hfind hnext => exact h.onward (hS.at hfind) (hok _ hfind) (onward_of_next hnext)
  | changed hout =>
    rw [IsCustomer, (pipeline_frame hout).2.2.1]
    exact h

/-- A store of purchases with these accounts and branches. -/
structure PurchaseDb.Of (db : PurchaseDb) (s : OnboardingDb) : Prop where
  accounts : ∀ a ∈ s.accounts, db.accounts.find? a.id = some a.toMerchantAccount
  branches : db.branches = s.branches

/-- An activation about to commit. -/
def beforeCommit : OnboardingSessions :=
  accountMachine.afterIf QualifiesProspects ⟨approvedMerchant, []⟩ (activation 0)

theorem find_beforeCommit : beforeCommit.find? 0 = some committing := by decide

/-- Its commit. -/
theorem commits : (accountMachine.step beforeCommit (.go 0 ⟨.statement, exampleNow⟩)).isSome = true := by decide

def afterCommit : OnboardingSessions := (accountMachine.step beforeCommit (.go 0 ⟨.statement, exampleNow⟩)).get commits

end Runs

end AtlasErp
