import AtlasErp.Lib.Workers
import AtlasErp.Merchants.Onboarding

/-! # Onboarding requests, together

Each request goes from one await to the next: it reads, asks another system, and writes from the copy it holds.  Only
an `UPDATE` locks its row, until the statement or its transaction ends.

- `OnboardingPoint.next`: what a request does next;
- `onboardingWorkers`, `onboardingMachine`: the requests, and their interleavings;
- `Onward`: the transitions of a request, `onward_of_next`;
- `CaseChange`, `cases_of_onward`: what a transition does to a case; likewise for items and accounts. -/

namespace AtlasErp

open Lib

/-! ## Points -/

/-- The row that an `UPDATE` locks. -/
inductive OnboardingLock where
  | caseRow (id : Nat)
  | itemRow (id : Nat)
  | userRow (id : Nat)
  | accountRow (id : Nat)
  deriving DecidableEq

/-- An `UPDATE` of one row. -/
inductive OnboardingUpdate where
  | caseRow (id : Nat) (columns : CaseColumns)
  | itemRow (id : Nat) (columns : ItemColumns)
  | userRow (id : Nat) (columns : UserColumns)
  | accountRow (id : Nat) (columns : AccountColumns)
  deriving DecidableEq

namespace OnboardingUpdate

def lock : OnboardingUpdate → OnboardingLock
  | .caseRow id _ => .caseRow id
  | .itemRow id _ => .itemRow id
  | .userRow id _ => .userRow id
  | .accountRow id _ => .accountRow id

def write (s : OnboardingDb) : OnboardingUpdate → OnboardingDb
  | .caseRow id columns => { s with cases := s.cases.updateWhere (·.id = id) columns.write }
  | .itemRow id columns => { s with checklistItems := s.checklistItems.updateWhere (·.id = id) columns.write }
  | .userRow id columns => { s with users := s.users.updateWhere (·.id = id) columns.write }
  | .accountRow id columns => { s with accounts := s.accounts.updateWhere (·.id = id) columns.write }

end OnboardingUpdate

/-- What follows an `UPDATE`. -/
inductive OnboardingRest where
  | finish
  /-- The profile of the merchant is linked. -/
  | mark (copy : OnboardingCase)
  /-- The case is being verified. -/
  | review (copy : OnboardingCase) (estadoPrevio : CaseStatus)
  | acknowledge (copy : OnboardingCase) (users pendientes : List MerchantUser)
  deriving DecidableEq

/-- Where a request is, with the copies it holds. -/
inductive OnboardingPoint where
  | requesting (copy : OnboardingCase) (account : OnboardingAccount)
  /-- Atlas is asked for the profile of the merchant. -/
  | linking (copy : OnboardingCase) (account : OnboardingAccount)
  | marking (copy : OnboardingCase)
  /-- The engine is asked for its verdict. -/
  | reviewing (copy : OnboardingCase) (estadoPrevio : CaseStatus)
  | syncing (copy : OnboardingCase)
  | completing (copy : ChecklistItem) (status : ChecklistStatus)
  | assigning (copy : OnboardingCase) (contractVersionId : Nat)
  /-- Atlas is asked for the access. -/
  | provisioning (input : CreateMerchantUserDto)
  | queued (input : CreateMerchantUserDto) (identityRequestId : String)
  /-- The statement on the cases took these rows. -/
  | provisioned (input : CreateMerchantUserDto) (identityRequestId : String) (caseIds : List Nat)
  | reconciling (copy : OnboardingCase)
  | acknowledging (copy : OnboardingCase) (users pendientes : List MerchantUser)
  | activating (copy : OnboardingCase) (items : List ChecklistItem)
  /-- The contract is there. -/
  | resolved (copy : OnboardingCase) (items : List ChecklistItem) (today : Day)
  | closing (copy : OnboardingCase) (items : List ChecklistItem) (today : Day) (completedAt : Instant)
  /-- The account is written too. -/
  | activated (copy : OnboardingCase) (items : List ChecklistItem) (today : Day) (completedAt : Instant)
  | opening (input : CreateOnboardingCaseDto)
  /-- Atlas is asked for the folder of the merchant. -/
  | ensuringFolder (accountId : Nat)
  | folder (accountId : Nat) (partnerProfileId : String)
  | qualifying (copy : OnboardingAccount) (input : QualifyAccountDto)
  | qualified (copy : OnboardingAccount) (input : QualifyAccountDto)
  /-- An `UPDATE` has its lock. -/
  | writing (update : OnboardingUpdate) (rest : OnboardingRest)
  deriving DecidableEq

inductive OnboardingRequest where
  | requestKybReview (caseId : Nat)
  | syncKybDecision (caseId : Nat)
  | completeChecklistItem (caseId itemId : Nat) (status : ChecklistStatus)
  | assignCaseContract (caseId contractVersionId : Nat)
  | createMerchantUser (input : CreateMerchantUserDto)
  | reconcileCaseIdentity (caseId : Nat)
  | activateOnboardingCase (caseId : Nat)
  | createOnboardingCase (input : CreateOnboardingCaseDto)
  | qualifyAccount (accountId : Nat) (input : QualifyAccountDto)
  deriving DecidableEq

/-- What a request gets for its next action. -/
inductive OnboardingReply where
  /-- The next statement runs. -/
  | statement
  /-- The other system failed. -/
  | failed
  | profile (partnerProfileId : Option String)
  | decision (decision : KybDecision)
  | estado (decision : Option KybDecision)
  | internalUser (id : Option UserId)
  | queued (identityRequestId : String)
  /-- The rows that an `UPDATE` by condition takes. -/
  | taken (caseIds : List Nat)
  | provisioning (request : ProvisioningRequest)
  deriving DecidableEq

/-- A reply, with the time at which it comes. -/
structure OnboardingAnswer where
  reply : OnboardingReply
  now : Instant
  deriving DecidableEq

/-! ## What a request does -/

namespace OnboardingRest

def point : OnboardingRest → Option OnboardingPoint
  | .finish => none
  | .mark copy => some (.marking copy)
  | .review copy estadoPrevio => some (.reviewing copy estadoPrevio)
  | .acknowledge copy users pendientes => some (.acknowledging copy users pendientes)

end OnboardingRest

/-- `caseRecord.update(values)`: without a column that differs there is no statement. -/
def updateCase (copy : OnboardingCase) (values : CaseColumns) (rest : OnboardingRest) : Option OnboardingPoint :=
  if values.changed copy = {} then rest.point else some (.writing (.caseRow copy.id (values.changed copy)) rest)

/-- `account.partnerProfileId`, when there is one. -/
def OnboardingAccount.profile (account : OnboardingAccount) : Option String := account.partnerProfileId.filter (· ≠ "")

/-- The account of a case. -/
def OnboardingDb.caseAccount (s : OnboardingDb) (caseId : Nat) : Option (OnboardingCase × OnboardingAccount) :=
  (s.cases.find? caseId).bind fun c => (s.accounts.find? c.accountId).map fun account => (c, account)

def OnboardingDb.itemsOf (s : OnboardingDb) (caseId : Nat) : List ChecklistItem :=
  s.checklistItems.rowsWhere (·.onboardingCaseId = caseId)

/-- `applyKybDecision`, on the copy. -/
def decideCase (copy : OnboardingCase) (decision : KybDecision) (now : Instant) : Option OnboardingPoint :=
  (applyKybDecision copy decision now).bind fun values => updateCase copy values .finish

/-- The end of `reconcileCaseIdentity`. -/
def acknowledge (copy : OnboardingCase) (users : List MerchantUser) (now : Instant) : Option OnboardingPoint :=
  if todasResueltas (summarizeCredentials users) ∧ copy.identityAcknowledgedAt = none ∧
      copy.status ≠ ONBOARDING_TERMINAL_STATUS then
    updateCase copy { identityAcknowledgedAt := some (some now),
                      status := if copy.status = .altaPendiente then some .listo else none } .finish
  else none

/-- A request begins with what it reads; an error ends it. -/
def OnboardingRequest.start (s : OnboardingDb) : OnboardingRequest → Option OnboardingPoint
  | .requestKybReview caseId =>
    (s.caseAccount caseId).bind fun (c, account) =>
      if (checkKybRequest c).isOk then some (.requesting c account) else none
  | .syncKybDecision caseId =>
    (s.caseAccount caseId).bind fun (c, account) => if account.profile.isSome then some (.syncing c) else none
  | .completeChecklistItem caseId itemId status =>
    (s.checklistItems.findBy fun item => item.id = itemId ∧ item.onboardingCaseId = caseId).bind fun item =>
      if (checkCompletion item status).isOk then some (.completing item status) else none
  | .assignCaseContract caseId contractVersionId =>
    (s.cases.find? caseId).bind fun c =>
      if (checkAssignable c).isOk then some (.assigning c contractVersionId) else none
  | .createMerchantUser input => if (checkNewUser s input).isOk then some (.provisioning input) else none
  | .reconcileCaseIdentity caseId => (s.cases.find? caseId).map .reconciling
  | .activateOnboardingCase caseId =>
    (s.cases.find? caseId).bind fun c =>
      if (checkActivation c (s.itemsOf caseId)).isOk then some (.activating c (s.itemsOf caseId)) else none
  | .createOnboardingCase input => if (checkOpening s input).isOk then some (.opening input) else none
  | .qualifyAccount accountId input =>
    (s.accounts.find? accountId).bind fun account =>
      if (checkQualification account input).isOk then some (.qualifying account input) else none

namespace OnboardingPoint

def holds : OnboardingPoint → List OnboardingLock
  | .writing update _ => [update.lock]
  | .provisioned _ _ caseIds => caseIds.map .caseRow
  | .closing copy .. => [.caseRow copy.id]
  | .activated copy .. => [.caseRow copy.id, .accountRow copy.accountId]
  | .folder accountId _ => [.accountRow accountId]
  | .qualified copy _ => [.accountRow copy.id]
  | _ => []

/-- What a request does next. -/
def next : OnboardingPoint → OnboardingAnswer → OnboardingDb → Option (OnboardingDb × Option OnboardingPoint)
  | .requesting copy account, ⟨.statement, _⟩, s =>
    if account.profile.isSome then some (s, some (.marking copy))
    else
      -- `linkPartnerProfile` reads the case again
      some (s, (s.caseAccount copy.id).map fun (_, account) =>
        if account.profile.isSome then .marking copy else .linking copy account)
  | .linking copy account, ⟨.profile partnerProfileId, _⟩, s =>
    some (s, (partnerProfileId.filter (· ≠ "")).map fun profile =>
      .writing (.accountRow account.id (AccountColumns.changed ⟨none, none, some (some profile)⟩ account)) (.mark copy))
  | .marking copy, ⟨.statement, _⟩, s =>
    some (s, updateCase copy { status := some .enVerificacion }
      (.review { copy with status := .enVerificacion } copy.status))
  | .reviewing copy _, ⟨.decision decision, now⟩, s => some (s, decideCase copy decision now)
  -- without a verdict the case goes back to where it was
  | .reviewing copy estadoPrevio, ⟨.failed, _⟩, s => some (s, updateCase copy { status := some estadoPrevio } .finish)
  | .syncing copy, ⟨.estado decision, now⟩, s =>
    some (s, (decision.filter (·.outcome ≠ "")).bind fun decision => decideCase copy decision now)
  | .completing copy status, ⟨.internalUser id, _⟩, s =>
    some (s, some (.writing (.itemRow copy.id (ItemColumns.changed ⟨some status, some id⟩ copy)) .finish))
  | .assigning copy contractVersionId, ⟨.statement, _⟩, s =>
    some (s, (s.contractVersions.find? contractVersionId).bind fun version =>
      (s.contractOf copy.accountId version).bind fun _ =>
        updateCase copy { contractVersionId := some (some contractVersionId) } .finish)
  | .provisioning input, ⟨.queued identityRequestId, _⟩, s => some (s, some (.queued input identityRequestId))
  | .queued input identityRequestId, ⟨.taken caseIds, _⟩, s =>
    some (s, some (.provisioned input identityRequestId caseIds))
  | .provisioned input identityRequestId caseIds, ⟨.statement, _⟩, s =>
    some ((s.provisioned input identityRequestId caseIds).getD s, none)
  | .reconciling copy, ⟨.statement, _⟩, s =>
    let users := s.users.rowsWhere fun u => u.accountId = copy.accountId ∧ u.identityRequestId.isSome
    some (s, some (.acknowledging copy users (users.filter fun u => u.status = .invited ∧ u.userId.all (· = ""))))
  | .acknowledging copy users [], ⟨.statement, now⟩, s => some (s, acknowledge copy users now)
  | .acknowledging copy users (user :: pendientes), ⟨.provisioning request, _⟩, s =>
    match applyProvisioningResult user request with
    | none => some (s, some (.acknowledging copy users pendientes))
    | some columns =>
      let users := users.map fun u => if u.id = user.id then columns.write u else u
      some (s, some (.writing (.userRow user.id columns) (.acknowledge copy users pendientes)))
  | .activating copy items, ⟨.statement, now⟩, s =>
    let today := now / 86400000
    some (s, if (checkContract s copy today).isOk then some (.resolved copy items today) else none)
  | .resolved copy items today, ⟨.statement, now⟩, s => some (s, some (.closing copy items today now))
  | .closing copy items today completedAt, ⟨.statement, _⟩, s =>
    some (s, some (.activated copy items today completedAt))
  | .activated copy _ _ completedAt, ⟨.statement, _⟩, s => some (s.activated copy completedAt, none)
  | .opening input, ⟨.statement, _⟩, s => some (s.opened input, some (.ensuringFolder input.accountId))
  | .ensuringFolder accountId, ⟨.profile partnerProfileId, _⟩, s =>
    some (s, partnerProfileId.map (.folder accountId))
  | .folder accountId profile, ⟨.statement, _⟩, s =>
    some ({ s with
      accounts := s.accounts.updateWhere (fun a => a.id = accountId ∧ a.partnerProfileId = none)
        fun a => { a with partnerProfileId := some profile } }, none)
  | .qualifying copy input, ⟨.statement, _⟩, s => some (s, some (.qualified copy input))
  | .qualified copy input, ⟨.statement, _⟩, s => some (s.qualified copy input, none)
  | .writing update rest, ⟨.statement, _⟩, s => some (update.write s, rest.point)
  -- another reply is an error
  | _, ⟨.failed, _⟩, s => some (s, none)
  | _, _, _ => none

end OnboardingPoint

/-- The requests as workers; what the pipeline does happens outside. -/
def onboardingWorkers :
    Workers OnboardingDb OnboardingRequest OnboardingAnswer PipelineOperation OnboardingLock OnboardingPoint where
  start request s := request.start s
  holds := OnboardingPoint.holds
  next := OnboardingPoint.next
  outside operation s := pipeline s operation

abbrev OnboardingSessions := Sessions OnboardingDb OnboardingPoint

abbrev OnboardingAct := WorkerAct OnboardingRequest OnboardingAnswer PipelineOperation

/-- Any interleaving of requests, with crashes. -/
def onboardingMachine (init : OnboardingDb → Prop) : Machine OnboardingSessions OnboardingAct :=
  onboardingWorkers.machine init

/-! ## Transitions -/

section Steps

/-- The transitions of a request: what it writes, and where it gets. -/
inductive Onward (s : OnboardingDb) : OnboardingPoint → OnboardingDb → Option OnboardingPoint → Prop where
  /-- An error, or nothing left to do. -/
  | ends {p} : Onward s p s none
  | profiled {copy account} : Onward s (.requesting copy account) s (some (.marking copy))
  | links {copy account account'} : Onward s (.requesting copy account) s (some (.linking copy account'))
  | linked {copy account columns} (status : columns.lifecycleStatus = none) :
      Onward s (.linking copy account) s (some (.writing (.accountRow account.id columns) (.mark copy)))
  | marked {copy} : Onward s (.marking copy) s (updateCase copy { status := some .enVerificacion }
      (.review { copy with status := .enVerificacion } copy.status))
  | decided {copy estadoPrevio decision now} : Onward s (.reviewing copy estadoPrevio) s (decideCase copy decision now)
  | synced {copy decision now} : Onward s (.syncing copy) s (decideCase copy decision now)
  | restored {copy estadoPrevio} : Onward s (.reviewing copy estadoPrevio) s
      (updateCase copy { status := some estadoPrevio } .finish)
  | completed {copy status columns} :
      Onward s (.completing copy status) s (some (.writing (.itemRow copy.id columns) .finish))
  | assigned {copy versionId} : Onward s (.assigning copy versionId) s
      (updateCase copy { contractVersionId := some (some versionId) } .finish)
  | asked {input identityRequestId} :
      Onward s (.provisioning input) s (some (.queued input identityRequestId))
  | taken {input identityRequestId caseIds} :
      Onward s (.queued input identityRequestId) s (some (.provisioned input identityRequestId caseIds))
  | provisioned {input identityRequestId caseIds s'} (commit : s.provisioned input identityRequestId caseIds = some s') :
      Onward s (.provisioned input identityRequestId caseIds) s' none
  | reconciled {copy users pendientes} : Onward s (.reconciling copy) s (some (.acknowledging copy users pendientes))
  | unchanged {copy users user pendientes} : Onward s (.acknowledging copy users (user :: pendientes)) s
      (some (.acknowledging copy users pendientes))
  | granted {copy users users' user pendientes columns} : Onward s (.acknowledging copy users (user :: pendientes)) s
      (some (.writing (.userRow user.id columns) (.acknowledge copy users' pendientes)))
  | acknowledged {copy users now} : Onward s (.acknowledging copy users []) s (acknowledge copy users now)
  | resolved {copy items today} (contract : (s.activationContract copy today).isSome = true) :
      Onward s (.activating copy items) s (some (.resolved copy items today))
  | closing {copy items today completedAt} :
      Onward s (.resolved copy items today) s (some (.closing copy items today completedAt))
  | closed {copy items today completedAt} :
      Onward s (.closing copy items today completedAt) s (some (.activated copy items today completedAt))
  | activated {copy items today completedAt} :
      Onward s (.activated copy items today completedAt) (s.activated copy completedAt) none
  | opened {input} : Onward s (.opening input) (s.opened input) (some (.ensuringFolder input.accountId))
  | foldering {accountId profile} : Onward s (.ensuringFolder accountId) s (some (.folder accountId profile))
  | folder {accountId profile} : Onward s (.folder accountId profile) { s with
      accounts := s.accounts.updateWhere (fun a => a.id = accountId ∧ a.partnerProfileId = none)
        fun a => { a with partnerProfileId := some profile } } none
  | qualifying {copy input} : Onward s (.qualifying copy input) s (some (.qualified copy input))
  | qualified {copy input} : Onward s (.qualified copy input) (s.qualified copy input) none
  | wrote {update rest} : Onward s (.writing update rest) (update.write s) rest.point

variable {s s' : OnboardingDb} {p : OnboardingPoint} {answer : OnboardingAnswer} {q : Option OnboardingPoint}

theorem provisioned_eq_some {input : CreateMerchantUserDto} {identityRequestId : String} {caseIds : List Nat}
    (h : s.provisioned input identityRequestId caseIds = some s') :
    s' = { s with
      users := s.users.create (newUser input identityRequestId)
      cases := s.cases.updateWhere (fun c => c.id ∈ caseIds ∧ c.awaitsCredentials input.accountId)
        fun c => { c with status := .altaPendiente } } := by
  unfold OnboardingDb.provisioned at h
  split at h
  · cases h
  · exact (Option.some.inj h).symm

/-- An optional point is reached, or the request ends. -/
theorem onward_of_eq {o : Option OnboardingPoint} (h : some (s, o) = some (s', q))
    (hsome : ∀ p', o = some p' → Onward s p s (some p')) : Onward s p s' q := by
  obtain ⟨rfl, rfl⟩ := Prod.mk.inj (Option.some.inj h)
  cases ho : o with
  | none => exact .ends
  | some p' => exact hsome p' ho

/-- **All that a request can do next.** -/
theorem onward_of_next (h : p.next answer s = some (s', q)) : Onward s p s' q := by
  unfold OnboardingPoint.next at h
  split at h
  case h_1 copy account _ _ =>
    split at h
    · obtain ⟨rfl, rfl⟩ := Prod.mk.inj (Option.some.inj h)
      exact .profiled
    · refine onward_of_eq h fun p' hp' => ?_
      obtain ⟨⟨c, account'⟩, -, rfl⟩ := Option.map_eq_some_iff.mp hp'
      dsimp only
      split
      · exact .profiled
      · exact .links
  case h_2 =>
    refine onward_of_eq h fun p' hp' => ?_
    obtain ⟨profile, -, rfl⟩ := Option.map_eq_some_iff.mp hp'
    exact .linked rfl
  case h_3 => exact onward_of_eq h fun p' hp' => hp' ▸ .marked
  case h_4 => exact onward_of_eq h fun p' hp' => hp' ▸ .decided
  case h_5 => exact onward_of_eq h fun p' hp' => hp' ▸ .restored
  case h_6 =>
    refine onward_of_eq h fun p' hp' => ?_
    obtain ⟨decision, -, hdecide⟩ := Option.bind_eq_some_iff.mp hp'
    exact hdecide ▸ .synced
  case h_7 =>
    obtain ⟨rfl, rfl⟩ := Prod.mk.inj (Option.some.inj h)
    exact .completed
  case h_8 =>
    refine onward_of_eq h fun p' hp' => ?_
    obtain ⟨version, -, hcontract⟩ := Option.bind_eq_some_iff.mp hp'
    obtain ⟨contract, -, hupdate⟩ := Option.bind_eq_some_iff.mp hcontract
    exact hupdate ▸ .assigned
  case h_11 input identityRequestId caseIds _ =>
    obtain ⟨rfl, rfl⟩ := Prod.mk.inj (Option.some.inj h)
    cases hcommit : s.provisioned input identityRequestId caseIds with
    | none => exact .ends
    | some s' => exact .provisioned hcommit
  case h_13 => exact onward_of_eq h fun p' hp' => hp' ▸ .acknowledged
  case h_14 =>
    split at h
    · obtain ⟨rfl, rfl⟩ := Prod.mk.inj (Option.some.inj h)
      exact .unchanged
    · obtain ⟨rfl, rfl⟩ := Prod.mk.inj (Option.some.inj h)
      exact .granted
  case h_15 =>
    refine onward_of_eq h fun p' hp' => ?_
    obtain ⟨hok, hp'⟩ := Option.ite_none_right_eq_some.mp hp'
    obtain ⟨_, hcheck⟩ := exists_of_isOk hok
    have hnone := failIf_eq_ok.mp hcheck
    obtain rfl := Option.some.inj hp'
    exact .resolved (Option.isSome_iff_ne_none.mpr fun habsent => hnone (by rw [habsent]; rfl))
  case h_20 =>
    refine onward_of_eq h fun p' hp' => ?_
    obtain ⟨profile, -, rfl⟩ := Option.map_eq_some_iff.mp hp'
    exact .foldering
  case h_26 => cases h
  -- the rest is one transition each
  all_goals
    obtain ⟨rfl, rfl⟩ := Prod.mk.inj (Option.some.inj h)
    constructor

theorem mem_of_caseAccount {caseId : Nat} {c : OnboardingCase} {account : OnboardingAccount}
    (h : s.caseAccount caseId = some (c, account)) : c ∈ s.cases := by
  obtain ⟨c', hfind, hmap⟩ := Option.bind_eq_some_iff.mp h
  obtain ⟨account', -, hpair⟩ := Option.map_eq_some_iff.mp hmap
  obtain ⟨rfl, -⟩ := Prod.mk.inj hpair
  exact (Table.find?_eq_some.mp hfind).1

/-! ## What a transition does to a row -/

/-- What a transition does to a case. -/
inductive CaseChange : OnboardingPoint → OnboardingCase → OnboardingCase → Prop where
  | same {p c} : CaseChange p c c
  | updated {c columns rest} : CaseChange (.writing (.caseRow c.id columns) rest) c (columns.write c)
  | awaits {c input identityRequestId caseIds} (taken : c.id ∈ caseIds)
      (waits : c.awaitsCredentials input.accountId = true) :
      CaseChange (.provisioned input identityRequestId caseIds) c { c with status := .altaPendiente }
  | activated {c copy items today completedAt} (id : c.id = copy.id) :
      CaseChange (.activated copy items today completedAt) c ((activationColumns completedAt).write c)

theorem CaseChange.id_eq {c c' : OnboardingCase} (h : CaseChange p c c') : c'.id = c.id := by
  cases h <;> rfl

theorem CaseChange.accountId_eq {c c' : OnboardingCase} (h : CaseChange p c c') : c'.accountId = c.accountId := by
  cases h <;> rfl

/-- What a transition does to the cases. -/
theorem cases_of_onward (h : Onward s p s' q) :
    (∀ c ∈ s.cases, ∃ c' ∈ s'.cases, CaseChange p c c') ∧
      ∀ c' ∈ s'.cases, (∃ c ∈ s.cases, CaseChange p c c') ∨
        ∃ input, p = .opening input ∧ c' = newCase input.accountId s.cases.nextKey := by
  have hsame : s'.cases = s.cases → _ := fun hcases =>
    (⟨fun c hc => ⟨c, hcases ▸ hc, .same⟩, fun c' hc' => .inl ⟨c', hcases ▸ hc', .same⟩⟩ :
      (∀ c ∈ s.cases, ∃ c' ∈ s'.cases, CaseChange p c c') ∧
        ∀ c' ∈ s'.cases, (∃ c ∈ s.cases, CaseChange p c c') ∨
          ∃ input, p = .opening input ∧ c' = newCase input.accountId s.cases.nextKey)
  cases h with
  | provisioned =>
    rename_i input identityRequestId caseIds commit
    obtain rfl := provisioned_eq_some commit
    obtain ⟨hfor, hback⟩ := @Table.updateWhere_relates _ _ s.cases
      (fun c => c.id ∈ caseIds ∧ c.awaitsCredentials input.accountId) (fun c => { c with status := .altaPendiente })
      (fun _ => rfl) (CaseChange (.provisioned input identityRequestId caseIds)) (fun _ => .same)
      fun c _ hc => by
        have hc' := of_decide_eq_true hc
        exact .awaits hc'.1 hc'.2
    exact ⟨hfor, fun c' hc' => .inl (hback c' hc')⟩
  | activated =>
    rename_i copy items today completedAt
    obtain ⟨hfor, hback⟩ := @Table.updateWhere_relates _ _ s.cases (fun c => c.id = copy.id)
      (activationColumns completedAt).write (fun _ => rfl) (CaseChange (.activated copy items today completedAt))
      (fun _ => .same) fun c _ hc => .activated (of_decide_eq_true hc)
    exact ⟨hfor, fun c' hc' => .inl (hback c' hc')⟩
  | opened =>
    rename_i input
    refine ⟨fun c hc => ⟨c, Table.mem_create_of_mem (fun _ => rfl) hc, .same⟩, fun c' hc' => ?_⟩
    rcases (Table.mem_create fun _ => rfl).mp hc' with hold | rfl
    · exact .inl ⟨c', hold, .same⟩
    · exact .inr ⟨input, rfl, rfl⟩
  | wrote =>
    rename_i update rest
    cases update with
    | caseRow id columns =>
      obtain ⟨hfor, hback⟩ := @Table.updateWhere_relates _ _ s.cases (fun c => c.id = id) columns.write (fun _ => rfl)
        (CaseChange (.writing (.caseRow id columns) rest)) (fun _ => .same) fun c _ hc => by
          obtain rfl : c.id = id := of_decide_eq_true hc
          exact .updated
      exact ⟨hfor, fun c' hc' => .inl (hback c' hc')⟩
    | _ => exact hsame rfl
  | _ => exact hsame rfl

/-- A transition adds items only with the case it opens. -/
theorem items_of_onward (h : Onward s p s' q) {item' : ChecklistItem} (hitem : item' ∈ s'.checklistItems) :
    (∃ item ∈ s.checklistItems, item'.id = item.id ∧ item'.onboardingCaseId = item.onboardingCaseId) ∨
      item'.onboardingCaseId = s.cases.nextKey := by
  have hsame : s'.checklistItems = s.checklistItems → _ := fun hitems =>
    (.inl ⟨item', hitems ▸ hitem, rfl, rfl⟩ :
      (∃ item ∈ s.checklistItems, item'.id = item.id ∧ item'.onboardingCaseId = item.onboardingCaseId) ∨
        item'.onboardingCaseId = s.cases.nextKey)
  cases h with
  | provisioned =>
    obtain rfl := provisioned_eq_some ‹_›
    exact hsame rfl
  | opened =>
    rcases Table.mem_foldl_create (fun _ _ => rfl) hitem with hold | ⟨item, -, k, rfl⟩
    · exact .inl ⟨item', hold, rfl, rfl⟩
    · exact .inr rfl
  | wrote =>
    rename_i update rest
    cases update with
    | itemRow id columns =>
      obtain ⟨item, hold, hrow⟩ := (Table.mem_updateWhere (f := columns.write) fun _ => rfl).mp hitem
      refine .inl ⟨item, hold, ?_⟩
      rw [← hrow]
      split <;> exact ⟨rfl, rfl⟩
    | _ => exact hsame rfl
  | _ => exact hsame rfl

/-- The pipeline writes opportunities and contracts. -/
theorem pipeline_frame {operation : PipelineOperation} (h : pipeline s operation = some s') :
    s'.cases = s.cases ∧ s'.checklistItems = s.checklistItems ∧ s'.accounts = s.accounts ∧ s'.branches = s.branches := by
  cases operation with
  | moveOpportunity =>
    obtain ⟨-, h⟩ := Option.ite_none_left_eq_some.mp h
    obtain rfl := Option.some.inj h
    exact ⟨rfl, rfl, rfl, rfl⟩
  | _ =>
    obtain ⟨_, -, h⟩ := Option.bind_eq_some_iff.mp h
    obtain ⟨-, h⟩ := Option.ite_none_left_eq_some.mp h
    obtain rfl := Option.some.inj h
    exact ⟨rfl, rfl, rfl, rfl⟩

end Steps

/-! ## A merchant -/

section Merchant

theorem visita_ne_nil : [("VISITA", "Visita al local")] ≠ [] := List.cons_ne_nil _ _

def exampleAccount : OnboardingAccount where
  id := 1
  lifecycleStatus := .qualified
  taxId := some "1020304050"
  legalName := "Comercial Andina"
  businessDescription := some "Venta de electrodomésticos"
  partnerProfileId := some "P-1"
  dossier := ⟨some "M-1", some "Ana Rojas", some "CI", some "4455667", some "F-1", some "Calle 1", some "La Paz",
    some "F-2", some "1009", some "***123"⟩

/-- A merchant that sold nothing yet, with a contract in force and what onboarding needs, and these cases. -/
def exampleMerchant (cases : Table OnboardingCase) (checklistItems : Table ChecklistItem) : OnboardingDb where
  accounts := ⟨[exampleAccount], List.nodup_singleton _⟩
  contacts := [⟨1, some "ana@andina.bo"⟩]
  opportunities := ⟨[⟨1, 1, .closedWon⟩], List.nodup_singleton _⟩
  contracts := ⟨[⟨⟨1, 1, .active⟩, some 1⟩], List.nodup_singleton _⟩
  contractVersions := ⟨[⟨1, 1, .active, 20000, none⟩], List.nodup_singleton _⟩
  branches := ⟨[⟨7, 1, "Sucursal Centro", none, none, .pending, false, false, none⟩], List.nodup_singleton _⟩
  users := .empty
  cases
  checklistItems

/-- An instant of day 20500. -/
def exampleNow : Instant := 20500 * 86400000

/-- A case that the engine approved, with its only item done. -/
def approvedMerchant : OnboardingDb :=
  exampleMerchant
    ⟨[{ newCase 1 1 with status := .verificado, decisionOutcome := some .aprobado, decisionExecutionId := some "E-1" }],
      List.nodup_singleton _⟩
    ⟨[⟨1, 1, "VISITA", "Visita al local", .completed, none, none⟩], List.nodup_singleton _⟩

/-- The statements of a request, one after the other. -/
def statements (w n : Nat) : List OnboardingAct := List.replicate n (.go w ⟨.statement, exampleNow⟩)

/-- The activation of the case, up to its commit. -/
def activation (w : Nat) : List OnboardingAct := .start w (.activateOnboardingCase 1) :: statements w 3

/-- Where it is then. -/
def committing : OnboardingPoint :=
  .activated (approvedMerchant.cases.rows.head (List.cons_ne_nil _ _)) approvedMerchant.checklistItems.rows 20500
    exampleNow

end Merchant

end AtlasErp
