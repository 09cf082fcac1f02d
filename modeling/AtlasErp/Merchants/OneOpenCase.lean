import AtlasErp.Merchants.OnboardingRequests

/-! # One open case of an account

A case is opened when none of the account is open; the query and the insert are two statements, and nothing is locked
between them.

- `altaMachine`: openings and activations of cases, in any interleaving;
- `UnCasoAbierto`: no account has two open cases;
- `AbreSinOtro`: when a case is inserted, none of its account is open;
- `unCasoAbierto_of_reachable`: that is enough, and at each insert it is needed. -/

namespace AtlasErp

open Lib

/-! ## Openings and activations -/

def OnboardingRequest.deAlta : OnboardingRequest → Bool
  | .createOnboardingCase _ | .activateOnboardingCase _ => true
  | _ => false

/-- The points of these requests. -/
def OnboardingPoint.deAlta : OnboardingPoint → Bool
  | .activating .. | .resolved .. | .closing .. | .activated .. | .opening _ | .ensuringFolder _ | .folder .. => true
  | _ => false

def altaWorkers :
    Workers OnboardingDb OnboardingRequest OnboardingAnswer PipelineOperation OnboardingLock OnboardingPoint :=
  { onboardingWorkers with start request s := if request.deAlta then request.start s else none }

/-- **No account has two open cases.** -/
def UnCasoAbierto (s : OnboardingDb) : Prop :=
  ∀ c ∈ s.cases, ∀ c' ∈ s.cases, c.accountId = c'.accountId → c.status ≠ ONBOARDING_TERMINAL_STATUS →
    c'.status ≠ ONBOARDING_TERMINAL_STATUS → c = c'

/-- Any interleaving, from tables where it is so. -/
def altaMachine : Machine OnboardingSessions OnboardingAct := altaWorkers.machine UnCasoAbierto

/-! ## The condition -/

/-- No case of an account is open: what `openOnboardingCase` asks for. -/
def OnboardingDb.sinCasoAbierto (s : OnboardingDb) (accountId : Nat) : Bool :=
  (s.cases.findBy fun c => c.accountId = accountId ∧ c.status ∈ ONBOARDING_OPEN_STATUSES).isNone

/-- A case that is inserted at a point is beside no open case of its account. -/
def OnboardingPoint.abreSinOtro (s : OnboardingDb) : OnboardingPoint → Bool
  | .opening input => s.sinCasoAbierto input.accountId
  | _ => true

/-- When a case is inserted, no case of its account is open. -/
def AbreSinOtro (S : OnboardingSessions) : OnboardingAct → Prop
  | .go w ⟨.statement, _⟩ => ∀ p ∈ S.find? w, p.abreSinOtro S.committed = true
  | _ => True

instance (S : OnboardingSessions) : DecidablePred (AbreSinOtro S)
  | .go w ⟨.statement, _⟩ => inferInstanceAs (Decidable (∀ p ∈ S.find? w, _))
  | .go _ ⟨.failed, _⟩ | .go _ ⟨.profile _, _⟩ | .go _ ⟨.decision _, _⟩ | .go _ ⟨.estado _, _⟩
  | .go _ ⟨.internalUser _, _⟩ | .go _ ⟨.queued _, _⟩ | .go _ ⟨.taken _, _⟩ | .go _ ⟨.provisioning _, _⟩
  | .start .. | .die _ | .outside _ => .isTrue trivial

section Steps

variable {s s' : OnboardingDb} {p : OnboardingPoint} {q : Option OnboardingPoint}

theorem mem_openStatuses (status : CaseStatus) :
    status ∈ ONBOARDING_OPEN_STATUSES ↔ status ≠ ONBOARDING_TERMINAL_STATUS := by
  cases status <;> decide

theorem sinCasoAbierto_iff {accountId : Nat} : s.sinCasoAbierto accountId = true ↔
    ∀ c ∈ s.cases, c.accountId = accountId → c.status = ONBOARDING_TERMINAL_STATUS := by
  rw [OnboardingDb.sinCasoAbierto, Option.isNone_iff_eq_none, Table.findBy_eq_none]
  refine forall₂_congr fun c _ => ?_
  rw [decide_eq_false_iff_not, mem_openStatuses, not_and, not_not]

theorem deAlta_of_start {request : OnboardingRequest} (h : altaWorkers.start request s = some p) : p.deAlta = true := by
  obtain ⟨halta, h⟩ := Option.ite_none_right_eq_some.mp h
  cases request with
  | createOnboardingCase input =>
    obtain ⟨-, h⟩ := Option.ite_none_right_eq_some.mp h
    obtain rfl := Option.some.inj h
    rfl
  | activateOnboardingCase caseId =>
    obtain ⟨c, -, h⟩ := Option.bind_eq_some_iff.mp h
    obtain ⟨-, h⟩ := Option.ite_none_right_eq_some.mp h
    obtain rfl := Option.some.inj h
    rfl
  | _ => cases halta

/-- A request of these goes through points of these. -/
theorem deAlta_of_onward (h : Onward s p s' q) (hp : p.deAlta = true) : ∀ p' ∈ q, p'.deAlta = true := by
  intro p' hp'
  cases h with
  | ends | activated | folder => cases hp'
  | resolved | closing | closed | opened | foldering =>
    obtain rfl := Option.some.inj hp'
    rfl
  | _ => cases hp

/-- These requests change a case only by completing it. -/
theorem status_of_change {c c' : OnboardingCase} (h : CaseChange p c c') (hp : p.deAlta = true) :
    c' = c ∨ c'.status = ONBOARDING_TERMINAL_STATUS := by
  cases h with
  | same => exact .inl rfl
  | activated => exact .inr rfl
  | updated | awaits => cases hp

/-- **What a transition keeps**, when a case is inserted beside no open one. -/
theorem UnCasoAbierto.onward (h : UnCasoAbierto s) (hp : p.deAlta = true) (hstep : Onward s p s' q)
    (hok : ∀ input, p = .opening input → s' ≠ s → s.sinCasoAbierto input.accountId = true) : UnCasoAbierto s' := by
  have hopen : ∀ c' ∈ s'.cases, c'.status ≠ ONBOARDING_TERMINAL_STATUS →
      c' ∈ s.cases ∨ ∃ input, p = .opening input ∧ c' = newCase input.accountId s.cases.nextKey := by
    intro c' hc' hstatus
    rcases (cases_of_onward hstep).2 c' hc' with ⟨c, hc, hchange⟩ | hnew
    · rcases status_of_change hchange hp with rfl | hclosed
      · exact .inl hc
      · exact absurd hclosed hstatus
    · exact .inr hnew
  intro c hc c' hc' haccount hstatus hstatus'
  -- a case that is inserted is alone
  have halone : ∀ x ∈ s.cases, ∀ input, p = .opening input → x.accountId = input.accountId →
      x.status ≠ ONBOARDING_TERMINAL_STATUS → newCase input.accountId s.cases.nextKey ∈ s'.cases → False := by
    intro x hx input hpoint hxaccount hxstatus hinserted
    have hchanged : s' ≠ s := by
      rintro rfl
      exact absurd (Table.key_lt_nextKey hinserted) (lt_irrefl _)
    exact hxstatus (sinCasoAbierto_iff.mp (hok input hpoint hchanged) x hx hxaccount)
  rcases hopen c hc hstatus with hold | ⟨input, hpoint, rfl⟩ <;>
    rcases hopen c' hc' hstatus' with hold' | ⟨input', hpoint', rfl⟩
  · exact h c hold c' hold' haccount hstatus hstatus'
  · exact (halone c hold input' hpoint' haccount hstatus hc').elim
  · exact (halone c' hold' input hpoint haccount.symm hstatus' hc).elim
  · obtain rfl := OnboardingPoint.opening.inj (hpoint.symm.trans hpoint')
    rfl

end Steps

/-! ## Runs -/

section Runs

theorem altaWorkers_promises :
    altaWorkers.Promises (fun _ => True) AbreSinOtro UnCasoAbierto (fun p _ => p.deAlta = true) where
  start _ _ hstart := deAlta_of_start hstart
  next {S w answer p store q} _ hS hfind hok hnext := by
    have honward := onward_of_next hnext
    refine ⟨hS.store.onward (hS.at hfind) honward fun input hpoint hchanged => ?_,
      deAlta_of_onward honward (hS.at hfind)⟩
    subst hpoint
    obtain ⟨reply, now⟩ := answer
    cases reply with
    | statement => exact hok _ hfind
    | failed =>
      obtain ⟨rfl, -⟩ := Prod.mk.inj (Option.some.inj hnext)
      exact absurd rfl hchanged
    | _ => cases hnext
  stable _ hS _ _ _ x hx := hS.worker x (Sessions.mem_others.mp hx).1
  outside _ hS _ hout := by
    have hcases := (pipeline_frame hout).1
    refine ⟨?_, hS.worker⟩
    unfold UnCasoAbierto
    rw [hcases]
    exact hS.store

/-- An insert beside an open case. -/
theorem not_unCasoAbierto_opened {s : OnboardingDb} {input : CreateOnboardingCaseDto}
    (h : s.sinCasoAbierto input.accountId ≠ true) : ¬ UnCasoAbierto (s.opened input) := by
  intro hone
  refine h (sinCasoAbierto_iff.mpr fun c hc haccount => ?_)
  by_contra hstatus
  have hc' : c ∈ (s.opened input).cases := Table.mem_create_of_mem (fun _ => rfl) hc
  have hnew : newCase input.accountId s.cases.nextKey ∈ (s.opened input).cases :=
    (Table.mem_create fun _ => rfl).mpr (.inr rfl)
  have heq := hone c hc' _ hnew haccount hstatus (show CaseStatus.opened ≠ .completed by decide)
  have hlt : c.id < s.cases.nextKey := Table.key_lt_nextKey hc
  rw [heq] at hlt
  exact absurd hlt (lt_irrefl _)

/-- A merchant without cases, and the body of an opening. -/
def sinCasos : OnboardingSessions := ⟨exampleMerchant .empty .empty, []⟩

def aperturaDelAlta : CreateOnboardingCaseDto := ⟨1, [("VISITA", "Visita al local")], visita_ne_nil⟩

/-- The case of an approved merchant is completed, and then another is opened. -/
def activaYReabre : OnboardingSessions :=
  altaMachine.afterIf AbreSinOtro ⟨approvedMerchant, []⟩ (activation 0 ++ statements 0 1 ++
    .start 1 (.createOnboardingCase aperturaDelAlta) :: statements 1 1)

end Runs

end AtlasErp
