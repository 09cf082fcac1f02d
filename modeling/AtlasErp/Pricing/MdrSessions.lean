import AtlasErp.Lib.ReadCommitted
import AtlasErp.Pricing.MdrRules

/-! # Exceptions under concurrency

The three requests as transactions that interleave statement by statement.  `updateMdrRule` reads its
rule, and looks for a pending request, before its transaction and without a lock; `decideApproval` reads
the request without a lock.

- `mdrProgram`: the statements of the three requests;
- `mdrProgram_alone`: alone, a request commits what it commits in sequence;
- `belowMinimum_approved`: as long as what a request read still stands when it commits, an active rule
  below the minimum has its approved exception;
- `belowMinimum_counterexample`: an edit and an activation that cross. -/

namespace AtlasErp

open Lib

/-! ## The transactions -/

/-- What the transactions lock: rows, and the aggregate of an event. -/
inductive MdrLock where
  | rule (id : Nat)
  | approval (id : Nat)
  | proposal (id : Nat)
  | aggregate (accountId : Nat)
  deriving DecidableEq

/-- What `createMdrRule` and `updateMdrRule` write to the rules, once their checks passed. -/
inductive MdrChange where
  | create (input : CreateMdrRuleDto) (user : UserId)
  /-- An edit of the rule as it was read. -/
  | update (regla : MdrRule) (input : UpdateMdrRuleDto) (user : UserId)
  deriving DecidableEq

/-- A decision on a request as it was read. -/
structure ApprovalDecision where
  approval : ApprovalRequest
  input : DecideApprovalDto
  user : UserId
  now : Instant
  allowed : checkDecision approval input user = .ok ()

/-- How far a transaction got. -/
inductive MdrPoint where
  | begun (request : MdrRequest)
  | ruleRead (regla : MdrRule) (input : UpdateMdrRuleDto) (user : UserId)
      (surroundings : MdrSurroundings)
  /-- The checks passed and the transaction begins. -/
  | opened (change : MdrChange) (surroundings : MdrSurroundings)
  | wrote (change : MdrChange) (surroundings : MdrSurroundings)
  /-- The general rule to publish was read. -/
  | picked (change : MdrChange) (event : MdrUpdatedEvent)
  | published (change : MdrChange) (event : MdrUpdatedEvent)
  | approvalRead (decision : ApprovalDecision)
  | approvalWritten (decision : ApprovalDecision)
  | applied (decision : ApprovalDecision)

section Program

variable (config : MdrConfig)

namespace MdrChange

def write : MdrChange → MdrDb → MdrDb
  | .create input user, db => (insertMdrRule config input user db).2
  | .update regla input user, db => (editMdrRule config regla input user db).2

def contractVersionId : MdrChange → Nat
  | .create input _ => input.contractVersionId
  | .update regla _ _ => regla.contractVersionId

/-- An edit that needs an exception publishes nothing. -/
def publishes : MdrChange → Bool
  | .create _ _ => true
  | .update regla input _ => !needsException config regla input

/-- An `UPDATE` locks its rule; without a column to write there is none. -/
def locks : MdrChange → List MdrLock
  | .create _ _ => []
  | .update regla input _ =>
    if editedColumns config regla input = ⟨none, none, none, none⟩ then [] else [.rule regla.id]

end MdrChange

namespace MdrPoint

def locks : MdrPoint → List MdrLock
  | .wrote change _ | .picked change _ => change.locks config
  | .published change event => .aggregate event.aggregateId :: change.locks config
  | .approvalWritten decision => [.approval decision.approval.id]
  | .applied decision =>
    .approval decision.approval.id :: (decision.approval.proposalId.toList.map MdrLock.proposal ++
      decision.approval.mdrRuleId.toList.map MdrLock.rule)
  | _ => []

def writes : MdrPoint → MdrDb → MdrDb
  | .wrote change _, db | .picked change _, db => change.write config db
  | .published change event, db =>
    { change.write config db with outbox := (change.write config db).outbox ++ [event] }
  | .approvalWritten d, db => writeDecision d.approval d.input d.user d.now db
  | .applied d, db => applyDecision d.approval d.input d.now (writeDecision d.approval d.input d.user d.now db)
  | _, db => db

/-- The next statement, on what the transaction sees. -/
def next : MdrPoint → MdrDb → Next MdrPoint
  | .begun (.createMdrRule input user surroundings), db =>
    match checkNewMdrRule config db input with
    | .ok _ => .goto (.opened (.create input user) surroundings)
    | .error _ => .rollback
  | .begun (.updateMdrRule ruleId input user surroundings), db =>
    match db.mdrRules.find? ruleId with
    | some regla => .goto (.ruleRead regla input user surroundings)
    | none => .rollback
  | .ruleRead regla input user surroundings, db =>
    if (db.pendingFor regla.id).isSome then .rollback
    else
      match checkMdrUpdate config regla input with
      | .ok _ => .goto (.opened (.update regla input user) surroundings)
      | .error _ => .rollback
  | .opened change surroundings, _ => .goto (.wrote change surroundings)
  | .wrote change surroundings, db =>
    if change.publishes config then
      match mdrToPublish db change.contractVersionId surroundings with
      | some event => .goto (.picked change event)
      | none => .commit
    else .commit
  | .picked change event, db =>
    match insertMdrEvent db event with
    | .ok _ => .goto (.published change event)
    | .error _ => .rollback
  | .published .., _ => .commit
  | .begun (.decideApproval approvalId input user now), db =>
    match db.approvalRequests.find? approvalId with
    | some approval =>
      match h : checkDecision approval input user with
      | .ok () => .goto (.approvalRead ⟨approval, input, user, now, h⟩)
      | .error _ => .rollback
    | none => .rollback
  | .approvalRead decision, _ => .goto (.approvalWritten decision)
  | .approvalWritten decision, _ => .goto (.applied decision)
  | .applied _, _ => .commit

end MdrPoint

/-- The three requests as transactions. -/
def mdrProgram : Program MdrDb MdrRequest MdrLock MdrPoint where
  start := .begun
  locks := MdrPoint.locks config
  writes := MdrPoint.writes config
  next := MdrPoint.next config
  locks_start _ := rfl
  locks_next {p p' s} h k hk := by
    cases p <;> simp only [MdrPoint.locks, List.not_mem_nil] at hk
    case wrote change surroundings =>
      simp only [MdrPoint.next] at h
      split at h
      · split at h <;> cases h
        exact hk
      · cases h
    case picked change event =>
      simp only [MdrPoint.next] at h
      split at h <;> cases h
      exact List.mem_cons_of_mem _ hk
    case published => cases h
    case approvalWritten d =>
      cases h
      exact List.mem_cons.mpr (.inl (List.mem_singleton.mp hk))
    case applied => cases h

/-! ## A request alone -/

/-- Where a transaction ends on a store that nobody else writes: it commits what `db'` is, or rolls back
and leaves the store. -/
def EndsWith (db : MdrDb) (p : MdrPoint) (db' : MdrDb) : Prop :=
  ∃ q, (mdrProgram config).Alone db p q ∧
    (q.next config (q.writes config db) = .commit ∧ q.writes config db = db' ∨
      q.next config (q.writes config db) = .rollback ∧ db' = db)

variable {config}

theorem EndsWith.commit {db db' : MdrDb} {p : MdrPoint}
    (hnext : p.next config (p.writes config db) = .commit) (hwrites : p.writes config db = db') :
    EndsWith config db p db' := ⟨p, .refl p, .inl ⟨hnext, hwrites⟩⟩

theorem EndsWith.rollback {db : MdrDb} {p : MdrPoint} (hnext : p.next config (p.writes config db) = .rollback) :
    EndsWith config db p db := ⟨p, .refl p, .inr ⟨hnext, rfl⟩⟩

theorem EndsWith.goto {db db' : MdrDb} {p q : MdrPoint} (hnext : p.next config (p.writes config db) = .goto q)
    (h : EndsWith config db q db') : EndsWith config db p db' := by
  obtain ⟨r, halone, hend⟩ := h
  exact ⟨r, .step hnext halone, hend⟩

/-- A change that publishes: the insert of the event may still fail. -/
theorem endsWith_publish {db : MdrDb} {change : MdrChange} {surroundings : MdrSurroundings}
    (hpublishes : change.publishes config = true) :
    EndsWith config db (.opened change surroundings)
      (match publishMdrUpdatedForContractVersion (change.write config db) change.contractVersionId
          surroundings with
      | .ok db' => db'
      | .error _ => db) := by
  refine .goto (q := .wrote change surroundings) rfl ?_
  unfold publishMdrUpdatedForContractVersion
  cases hpick : mdrToPublish (change.write config db) change.contractVersionId surroundings with
  | none =>
    refine .commit ?_ rfl
    simp only [MdrPoint.next, MdrPoint.writes, hpublishes, if_true, hpick]
  | some event =>
    refine .goto (q := .picked change event) ?_ ?_
    · simp only [MdrPoint.next, MdrPoint.writes, hpublishes, if_true, hpick]
    · dsimp only
      cases hinsert : insertMdrEvent (change.write config db) event with
      | error e =>
        refine .rollback ?_
        simp only [MdrPoint.next, MdrPoint.writes, hinsert]
      | ok db' =>
        refine .goto (q := .published change event) ?_ (.commit rfl ?_)
        · simp only [MdrPoint.next, MdrPoint.writes, hinsert]
        · exact (insertMdrEvent_eq_ok hinsert).symm

/-- **Alone**, a request commits what it commits in sequence. -/
theorem mdrProgram_alone (db : MdrDb) (request : MdrRequest) :
    EndsWith config db (.begun request) (performMdr config db request) := by
  cases request with
  | createMdrRule input user surroundings =>
    simp only [performMdr, createMdrRule]
    cases hcheck : checkNewMdrRule config db input with
    | error e =>
      refine .rollback ?_
      simp only [MdrPoint.next, MdrPoint.writes, hcheck]
    | ok u =>
      refine .goto (q := .opened (.create input user) surroundings) ?_ ?_
      · simp only [MdrPoint.next, MdrPoint.writes, hcheck]
      · have hends := @endsWith_publish config db (.create input user) surroundings rfl
        simp only [MdrChange.write, MdrChange.contractVersionId] at hends
        simp only [ok_bind]
        cases hpublish : publishMdrUpdatedForContractVersion (insertMdrRule config input user db).2
          input.contractVersionId surroundings <;> rw [hpublish] at hends <;> exact hends
  | updateMdrRule ruleId input user surroundings =>
    simp only [performMdr, updateMdrRule]
    cases hfind : db.mdrRules.find? ruleId with
    | none =>
      refine .rollback ?_
      simp only [MdrPoint.next, MdrPoint.writes, hfind]
    | some regla =>
      refine .goto (q := .ruleRead regla input user surroundings) ?_ ?_
      · simp only [MdrPoint.next, MdrPoint.writes, hfind]
      · simp only [orFail_some, ok_bind]
        by_cases hpending : (db.pendingFor regla.id).isSome = true
        · simp only [failIf, hpending, if_true]
          refine .rollback ?_
          simp only [MdrPoint.next, MdrPoint.writes, hpending, if_true]
        · simp only [failIf_of_not hpending, ok_bind]
          cases hcheck : checkMdrUpdate config regla input with
          | error e =>
            refine .rollback ?_
            simp only [MdrPoint.next, MdrPoint.writes, hpending, Bool.false_eq_true, if_false, hcheck]
          | ok u =>
            refine .goto (q := .opened (.update regla input user) surroundings) ?_ ?_
            · simp only [MdrPoint.next, MdrPoint.writes, hpending, Bool.false_eq_true, if_false, hcheck]
            · simp only [ok_bind]
              cases hneeds : needsException config regla input with
              | true =>
                refine .goto (q := .wrote (.update regla input user) surroundings) rfl (.commit ?_ rfl)
                simp only [MdrPoint.next, MdrChange.publishes, hneeds, Bool.not_true, Bool.false_eq_true,
                  if_false]
              | false =>
                have hends := @endsWith_publish config db (.update regla input user) surroundings
                  (by simp [MdrChange.publishes, hneeds])
                simp only [MdrChange.write, MdrChange.contractVersionId] at hends
                simp only [Bool.false_eq_true, if_false]
                cases hpublish : publishMdrUpdatedForContractVersion
                  (editMdrRule config regla input user db).2 regla.contractVersionId surroundings <;>
                  rw [hpublish] at hends <;> exact hends
  | decideApproval approvalId input user now =>
    simp only [performMdr, decideApproval]
    cases hfind : db.approvalRequests.find? approvalId with
    | none =>
      refine .rollback ?_
      simp only [MdrPoint.next, MdrPoint.writes, hfind]
    | some approval =>
      simp only [orFail_some, ok_bind]
      cases hcheck : checkDecision approval input user with
      | error e =>
        refine .rollback ?_
        simp only [MdrPoint.next, MdrPoint.writes, hfind]
        split
        · rename_i hok
          rw [hcheck] at hok
          cases hok
        · rfl
      | ok u =>
        refine .goto (q := .approvalRead ⟨approval, input, user, now, hcheck⟩) ?_ ?_
        · simp only [MdrPoint.next, MdrPoint.writes, hfind]
          split
          · rfl
          · rename_i herror
            rw [hcheck] at herror
            cases herror
        · exact .goto rfl (.goto rfl (.commit rfl rfl))

variable (config)

/-! ## The property -/

/-- An approved request of the rule, for its rate, decided by somebody other than who asked. -/
def HasApprovedException (db : MdrDb) (r : MdrRule) : Prop :=
  ∃ a ∈ db.approvalRequests, a.mdrRuleId = some r.id ∧ a.approvalType = MDR_BELOW_MINIMUM_APPROVAL ∧
    a.status = .approved ∧ (∃ decider, a.approvedByUserId = some decider ∧ decider ≠ a.requestedByUserId) ∧
    ∃ rate, (a.id, rate) ∈ db.asked ∧ numericColumn 6 rate = r.ratePercent

/-- Every active rule below the minimum has its exception. -/
def BelowMinimumApproved (db : MdrDb) : Prop :=
  ∀ r ∈ db.mdrRules, r.isActive = true → isBelowMdrMinimum config (numberOf 6 r.ratePercent) = true →
    HasApprovedException db r

/-- A store without commission rules. -/
def NoMdrRules (db : MdrDb) : Prop :=
  db.mdrRules = .empty ∧ ∀ a ∈ db.approvalRequests, a.mdrRuleId = none

/-! ## What a commit must find -/

/-- A rate that is not below the minimum is not stored below it. -/
def KeepsMinimum (rate : JsNumber) : Prop :=
  isBelowMdrMinimum config (numberOf 6 (numericColumn 6 rate)) = true → isBelowMdrMinimum config rate = true

instance (rate : JsNumber) : Decidable (KeepsMinimum config rate) := inferInstanceAs (Decidable (_ → _))

variable {config} in
/-- So it is when the column can hold the minimum. -/
theorem keepsMinimum_of_column {minimum : Int} (h : config.DEFAULT_MIN_MDR_RATE_PERCENT = numberOf 6 minimum)
    (rate : JsNumber) : KeepsMinimum config rate := by
  intro hbelow
  simp only [isBelowMdrMinimum, h, decide_eq_true_eq] at hbelow ⊢
  exact lt_of_not_ge fun hle => not_lt_of_ge (le_numberOf_numericColumn hle) hbelow

/-- The rate and the state of a rule still are those that were read, and no exception waits. -/
def RuleAsRead (db : MdrDb) (regla : MdrRule) : Prop :=
  (db.mdrRules.find? regla.id).map (fun r => (r.ratePercent, r.isActive)) =
      some (regla.ratePercent, regla.isActive) ∧
    db.pendingFor regla.id = none

instance (db : MdrDb) (regla : MdrRule) : Decidable (RuleAsRead db regla) :=
  inferInstanceAs (Decidable (_ ∧ _))

/-- An edit that gives a rate, or asks for the rule to be active. -/
def touchesPrice (input : UpdateMdrRuleDto) : Bool :=
  input.ratePercent.isSome || decide (input.isActive = some true)

/-- What a change must find when it commits. -/
def MdrChange.Undisturbed : MdrChange → MdrDb → Prop
  | .create input _, _ => KeepsMinimum config input.ratePercent
  | .update regla input _, db => touchesPrice input = true →
    RuleAsRead db regla ∧ KeepsMinimum config (resultingRate regla input)

instance (change : MdrChange) (db : MdrDb) : Decidable (change.Undisturbed config db) :=
  match change with
  | .create input _ => inferInstanceAs (Decidable (KeepsMinimum config input.ratePercent))
  | .update .. => inferInstanceAs (Decidable (_ → _ ∧ _))

/-- What a transaction must find when it commits. -/
def MdrPoint.Undisturbed : MdrPoint → MdrDb → Prop
  | .wrote change _, db | .picked change _, db | .published change _, db => change.Undisturbed config db
  | .applied d, db => db.approvalRequests.find? d.approval.id = some d.approval
  | _, _ => True

instance (p : MdrPoint) (db : MdrDb) : Decidable (p.Undisturbed config db) :=
  match p with
  | .wrote change _ | .picked change _ | .published change _ =>
    inferInstanceAs (Decidable (change.Undisturbed config db))
  | .applied _ => inferInstanceAs (Decidable (_ = _))
  | .begun _ | .ruleRead .. | .opened .. | .approvalRead _ | .approvalWritten _ => .isTrue trivial

/-- The next statement is the commit. -/
def MdrPoint.commits (p : MdrPoint) (committed : MdrDb) : Bool :=
  match p.next config (p.writes config committed) with
  | .commit => true
  | _ => false

/-- A transaction that commits finds what it read: the condition on a step. -/
def MdrUndisturbed : Sessions MdrDb MdrPoint → Act MdrRequest → Prop :=
  Program.Meets fun p db => p.commits config db = true → p.Undisturbed config db

instance (S : Sessions MdrDb MdrPoint) (a : Act MdrRequest) : Decidable (MdrUndisturbed config S a) :=
  inferInstanceAs (Decidable (Program.Meets _ S a))

end Program

section Preservation

variable {config : MdrConfig}

/-! ## What the writes preserve -/

/-- The invariant of what is committed. -/
structure MdrBooks (config : MdrConfig) (db : MdrDb) : Prop where
  approved : BelowMinimumApproved config db
  /-- A pending exception is for the rate of its rule. -/
  pending : ∀ a ∈ db.approvalRequests, ∀ ruleId, a.mdrRuleId = some ruleId → a.status = .pending →
    a.approvalType = MDR_BELOW_MINIMUM_APPROVAL ∧
      ∃ r ∈ db.mdrRules, r.id = ruleId ∧ ∃ rate, (a.id, rate) ∈ db.asked ∧ numericColumn 6 rate = r.ratePercent

/-- An exception stays one when requests are added. -/
theorem HasApprovedException.mono {db db' : MdrDb} {r r' : MdrRule} (h : HasApprovedException db r)
    (hrequests : ∀ a ∈ db.approvalRequests, a ∈ db'.approvalRequests) (hasked : ∀ x ∈ db.asked, x ∈ db'.asked)
    (hid : r'.id = r.id) (hrate : r'.ratePercent = r.ratePercent) : HasApprovedException db' r' := by
  obtain ⟨a, ha, hrule, htype, hstatus, hdecider, rate, hmem, heq⟩ := h
  exact ⟨a, hrequests a ha, hid ▸ hrule, htype, hstatus, hdecider, rate, hasked _ hmem, hrate ▸ heq⟩

/-- No request of a rule is pending. -/
theorem pendingFor_eq_none {db : MdrDb} {ruleId : Nat} (h : db.pendingFor ruleId = none)
    {a : ApprovalRequest} (ha : a ∈ db.approvalRequests) (hrule : a.mdrRuleId = some ruleId) :
    a.status ≠ .pending := by
  have hnot := Table.findBy_eq_none.mp h a ha
  intro hpending
  simp [hrule, hpending] at hnot

@[simp] theorem mem_approvals_request {ruleId version : Nat} {rate : JsNumber} {reason : String} {user : UserId}
    {db : MdrDb} {a : ApprovalRequest} :
    a ∈ (requestMdrException config ruleId version rate reason user db).2.approvalRequests ↔
      a ∈ db.approvalRequests ∨
        a = mdrExceptionRequest config ruleId version rate reason user db.approvalRequests.nextKey :=
  Table.mem_create fun _ => rfl

@[simp] theorem asked_request {ruleId version : Nat} {rate : JsNumber} {reason : String} {user : UserId}
    {db : MdrDb} : (requestMdrException config ruleId version rate reason user db).2.asked =
      db.asked ++ [(db.approvalRequests.nextKey, rate)] := rfl

@[simp] theorem mdrRules_request {ruleId version : Nat} {rate : JsNumber} {reason : String} {user : UserId}
    {db : MdrDb} :
    (requestMdrException config ruleId version rate reason user db).2.mdrRules = db.mdrRules := rfl

/-- The request of an exception keeps the books when its rule, inactive, has the rate asked for. -/
theorem MdrBooks.request {db : MdrDb} (h : MdrBooks config db) {r : MdrRule} (hr : r ∈ db.mdrRules)
    {rate : JsNumber} (hrate : numericColumn 6 rate = r.ratePercent) (version : Nat) (reason : String)
    (user : UserId) : MdrBooks config (requestMdrException config r.id version rate reason user db).2 where
  approved x hx hactive hbelow := by
    refine (h.approved x hx hactive hbelow).mono (fun a ha => ?_) (fun y hy => ?_) rfl rfl
    · exact mem_approvals_request.mpr (.inl ha)
    · exact List.mem_append_left _ hy
  pending a ha ruleId hrule hpending := by
    rcases mem_approvals_request.mp ha with ha | rfl
    · obtain ⟨htype, x, hx, hid, rate', hasked, heq⟩ := h.pending a ha ruleId hrule hpending
      exact ⟨htype, x, hx, hid, rate', List.mem_append_left _ hasked, heq⟩
    · refine ⟨rfl, r, hr, Option.some.inj hrule, rate, ?_, hrate⟩
      exact List.mem_append_right _ (List.mem_singleton.mpr rfl)

/-- A new rule that is not active below the minimum keeps the books. -/
theorem MdrBooks.createRule {db : MdrDb} (h : MdrBooks config db) (mk : Nat → MdrRule)
    (hmk : ∀ k, (mk k).id = k)
    (hnew : ∀ k, (mk k).isActive = true →
      isBelowMdrMinimum config (numberOf 6 (mk k).ratePercent) = false) :
    MdrBooks config { db with mdrRules := db.mdrRules.create mk } where
  approved x hx hactive hbelow := by
    rcases (Table.mem_create hmk).mp hx with hx | rfl
    · exact (h.approved x hx hactive hbelow).mono (fun _ => id) (fun _ => id) rfl rfl
    · rw [hnew _ hactive] at hbelow
      cases hbelow
  pending a ha ruleId hrule hpending := by
    obtain ⟨htype, x, hx, hrest⟩ := h.pending a ha ruleId hrule hpending
    exact ⟨htype, x, (Table.mem_create hmk).mpr (.inl hx), hrest⟩

/-- An update of one rule keeps the books, when it leaves the rate that a request waits with, and the
rule has its exception if it ends active below the minimum. -/
theorem MdrBooks.updateRule {db : MdrDb} (h : MdrBooks config db) {ruleId : Nat} (f : MdrRule → MdrRule)
    (hid : ∀ r, (f r).id = r.id)
    (hwaiting : ∀ r ∈ db.mdrRules, r.id = ruleId → db.pendingFor ruleId ≠ none →
      (f r).ratePercent = r.ratePercent)
    (happroved : ∀ r ∈ db.mdrRules, r.id = ruleId → (f r).isActive = true →
      isBelowMdrMinimum config (numberOf 6 (f r).ratePercent) = true →
      HasApprovedException db (f r)) :
    MdrBooks config { db with mdrRules := db.mdrRules.updateWhere (·.id = ruleId) f } where
  approved x hx hactive hbelow := by
    obtain ⟨r, hr, rfl⟩ := (Table.mem_updateWhere hid).mp hx
    by_cases hkey : r.id = ruleId
    · simp only [hkey, decide_true, if_true] at hactive hbelow ⊢
      exact (happroved r hr hkey hactive hbelow).mono (fun _ => id) (fun _ => id) rfl rfl
    · simp only [hkey, decide_false, Bool.false_eq_true, if_false] at hactive hbelow ⊢
      exact (h.approved r hr hactive hbelow).mono (fun _ => id) (fun _ => id) rfl rfl
  pending a ha id hrule hpending := by
    obtain ⟨htype, r, hr, rfl, rate, hasked, heq⟩ := h.pending a ha id hrule hpending
    refine ⟨htype, _, (Table.mem_updateWhere hid).mpr ⟨r, hr, rfl⟩, ?_, rate, hasked, ?_⟩
    · split <;> simp [hid]
    · split
      · rename_i hkey
        have hkey : r.id = ruleId := of_decide_eq_true hkey
        rw [hwaiting r hr hkey fun hnone => pendingFor_eq_none hnone ha (hkey ▸ hrule) hpending]
        exact heq
      · exact heq

/-! ## What the requests preserve -/

theorem isActive_newMdrRule {input : CreateMdrRuleDto} {k : Nat} :
    (newMdrRule config input k).isActive = !isBelowMdrMinimum config input.ratePercent := rfl

theorem MdrBooks.insertMdrRule {db : MdrDb} (h : MdrBooks config db) {input : CreateMdrRuleDto}
    (hkeeps : KeepsMinimum config input.ratePercent) (user : UserId) :
    MdrBooks config (insertMdrRule config input user db).2 := by
  have hcreated := h.createRule (newMdrRule config input) (fun _ => rfl) fun k hactive => by
    rw [isActive_newMdrRule, Bool.not_eq_true'] at hactive
    exact Bool.eq_false_iff.mpr fun hbelow => by simp [hkeeps hbelow] at hactive
  unfold AtlasErp.insertMdrRule
  dsimp only
  split
  · have hmem : newMdrRule config input db.mdrRules.nextKey ∈ db.mdrRules.create (newMdrRule config input) :=
      (Table.mem_create fun _ => rfl).mpr (.inr rfl)
    exact hcreated.request hmem rfl _ _ user
  · exact hcreated

section Edit

variable {regla : MdrRule} {input : UpdateMdrRuleDto}

/-- The stored rate is the one that was checked. -/
theorem numericColumn_resultingRate :
    numericColumn 6 (resultingRate regla input) =
      ((input.ratePercent.map fun rate => numericColumn 6 rate.val).getD regla.ratePercent) := by
  cases h : input.ratePercent <;> simp [resultingRate, h]

theorem ratePercent_write {isActive : Option Bool} {r : MdrRule} (hrate : r.ratePercent = regla.ratePercent) :
    ((changedColumns regla input isActive).write r).ratePercent =
      numericColumn 6 (resultingRate regla input) := by
  rw [numericColumn_resultingRate, ← hrate]
  rfl

/-- A row that was as read ends as the body, or else the read row, says. -/
theorem isActive_write {isActive : Option Bool} {r : MdrRule} (hactive : r.isActive = regla.isActive) :
    ((changedColumns regla input isActive).write r).isActive = isActive.getD regla.isActive := by
  simp only [MdrRuleColumns.write, changedColumns, hactive]
  cases isActive with
  | none => rfl
  | some b => by_cases hb : b = regla.isActive <;> simp [Option.filter, hb]

/-- An edit that asks for an exception gives a rate or activates. -/
theorem touchesPrice_of_needsException (h : needsException config regla input = true) :
    touchesPrice input = true := by
  simp only [needsException, Bool.and_eq_true, Bool.or_eq_true] at h
  rcases h.2 with hchanges | hactivates
  · have hsome : input.ratePercent.isSome := by
      cases hrate : input.ratePercent with
      | none => simp [changesRate, resultingRate, hrate] at hchanges
      | some rate => rfl
    simp [touchesPrice, hsome]
  · have hactive : input.isActive = some true := by
      simp only [activates, decide_eq_true_eq] at hactivates
      exact hactivates.1
    simp [touchesPrice, hactive]

/-- An edit that neither gives a rate nor activates leaves the rate, and activates nothing. -/
theorem write_of_not_touchesPrice (h : touchesPrice input = false) (r : MdrRule) :
    ((changedColumns regla input input.isActive).write r).ratePercent = r.ratePercent ∧
      (((changedColumns regla input input.isActive).write r).isActive = true → r.isActive = true) := by
  simp only [touchesPrice, Bool.or_eq_false_iff, Option.isSome_eq_false_iff, Option.isNone_iff_eq_none,
    decide_eq_false_iff_not] at h
  obtain ⟨hrate, hactive⟩ := h
  refine ⟨by simp [MdrRuleColumns.write, changedColumns, hrate], ?_⟩
  cases hgiven : input.isActive with
  | none => simp [MdrRuleColumns.write, changedColumns]
  | some b =>
    have hb : b = false := by simpa [hgiven] using hactive
    subst hb
    cases hread : regla.isActive <;> simp [MdrRuleColumns.write, changedColumns, Option.filter, hread]

/-- An edit that needs no exception ends active below the minimum only where it was so, at that rate. -/
theorem unchanged_of_not_needsException (h : needsException config regla input = false)
    (hactive : resultingActive regla input = true)
    (hbelow : isBelowMdrMinimum config (resultingRate regla input) = true) :
    regla.isActive = true ∧ resultingRate regla input = numberOf 6 regla.ratePercent := by
  simp only [needsException, hactive, hbelow, Bool.true_and, Bool.or_eq_false_iff] at h
  obtain ⟨hrate, hactivates⟩ := h
  refine ⟨?_, by simpa [changesRate] using hrate⟩
  cases hread : regla.isActive with
  | true => rfl
  | false =>
    have hgiven : input.isActive = some true := by
      cases hinput : input.isActive with
      | none => simp [resultingActive, hinput, hread] at hactive
      | some b => simpa [resultingActive, hinput] using hactive
    simp [activates, hgiven, hread] at hactivates

theorem RuleAsRead.of_mem {db : MdrDb} (h : RuleAsRead db regla) {r : MdrRule} (hr : r ∈ db.mdrRules)
    (hid : r.id = regla.id) : r.ratePercent = regla.ratePercent ∧ r.isActive = regla.isActive := by
  have hfind : db.mdrRules.find? regla.id = some r := Table.find?_eq_some.mpr ⟨hr, hid⟩
  have hread := h.1
  rw [hfind] at hread
  exact Prod.mk.inj (Option.some.inj hread)

theorem MdrBooks.editMdrRule {db : MdrDb} (h : MdrBooks config db)
    (hundisturbed : touchesPrice input = true →
      RuleAsRead db regla ∧ KeepsMinimum config (resultingRate regla input)) (user : UserId) :
    MdrBooks config (editMdrRule config regla input user db).2 := by
  unfold AtlasErp.editMdrRule
  dsimp only
  by_cases hneeds : needsException config regla input = true
  · -- the rule ends inactive, at the rate that is asked for
    obtain ⟨hread, -⟩ := hundisturbed (touchesPrice_of_needsException hneeds)
    rw [if_pos hneeds]
    have hupdated := @MdrBooks.updateRule _ _ h regla.id (editedColumns config regla input).write
      (fun _ => rfl) (fun r _ _ hpending => absurd hread.2 hpending) fun r hr hid hactive => by
        rw [editedColumns, if_pos hneeds, isActive_write (hread.of_mem hr hid).2] at hactive
        cases hactive
    obtain ⟨r, hr⟩ : ∃ r, db.mdrRules.find? regla.id = some r := by
      cases hfind : db.mdrRules.find? regla.id with
      | none => simp [RuleAsRead, hfind] at hread
      | some r => exact ⟨r, rfl⟩
    obtain ⟨hmem, hid⟩ := Table.find?_eq_some.mp hr
    have hmem' : (editedColumns config regla input).write r ∈
        db.mdrRules.updateWhere (·.id = regla.id) (editedColumns config regla input).write :=
      (Table.mem_updateWhere (f := (editedColumns config regla input).write) fun _ => rfl).mpr
        ⟨r, hmem, if_pos (decide_eq_true hid)⟩
    have hrate : numericColumn 6 (resultingRate regla input) =
        ((editedColumns config regla input).write r).ratePercent :=
      (ratePercent_write (hread.of_mem hmem hid).1).symm
    have hrequested := hupdated.request hmem' hrate regla.contractVersionId
      (input.pricingExceptionReason.getD "") user
    rwa [show ((editedColumns config regla input).write r).id = regla.id from hid] at hrequested
  · rw [if_neg hneeds]
    have hneeds : needsException config regla input = false := Bool.eq_false_iff.mpr hneeds
    have hcolumns : editedColumns config regla input = changedColumns regla input input.isActive := by
      simp [editedColumns, hneeds]
    rw [hcolumns]
    by_cases htouches : touchesPrice input = true
    · obtain ⟨hread, hkeeps⟩ := hundisturbed htouches
      refine h.updateRule _ (fun _ => rfl) (fun r _ _ hpending => absurd hread.2 hpending) ?_
      intro r hr hid hactive hbelow
      obtain ⟨hsameRate, hsameActive⟩ := hread.of_mem hr hid
      rw [isActive_write hsameActive] at hactive
      rw [ratePercent_write hsameRate] at hbelow
      obtain ⟨hwas, hrate⟩ := unchanged_of_not_needsException hneeds hactive (hkeeps hbelow)
      -- it was active at this rate before, so its exception is there
      have hrate' : ((changedColumns regla input input.isActive).write r).ratePercent = r.ratePercent := by
        rw [ratePercent_write hsameRate, hrate, numericColumn_numberOf, hsameRate]
      rw [hrate, numericColumn_numberOf, ← hsameRate] at hbelow
      exact (h.approved r hr (hsameActive.trans hwas) hbelow).mono (fun _ => id) (fun _ => id) rfl hrate'
    · have hsame := @write_of_not_touchesPrice regla _ (Bool.eq_false_iff.mpr htouches)
      refine h.updateRule _ (fun _ => rfl) (fun r _ _ _ => (hsame r).1) ?_
      intro r hr _ hactive hbelow
      rw [(hsame r).1] at hbelow
      exact (h.approved r hr ((hsame r).2 hactive) hbelow).mono (fun _ => id) (fun _ => id) rfl (hsame r).1

end Edit

section Decide

variable {approval : ApprovalRequest} {input : DecideApprovalDto} {user : UserId} {now : Instant}

theorem checkDecision_eq_ok (h : checkDecision approval input user = .ok ()) :
    approval.status = .pending ∧ (input.status = .approved → approval.requestedByUserId ≠ user) := by
  obtain ⟨hpending, h⟩ := failIf_bind_eq_ok.mp h
  have hother := failIf_eq_ok.mp h
  exact ⟨not_not.mp hpending, fun happroved heq => hother ⟨happroved, heq⟩⟩

/-- A request of the table is as it was, or it is the one that is decided. -/
theorem mem_writeDecision {db : MdrDb} {a : ApprovalRequest} :
    a ∈ (writeDecision approval input user now db).approvalRequests ↔
      ∃ b ∈ db.approvalRequests, (if b.id = approval.id then decidedRequest input user now b else b) = a := by
  show a ∈ db.approvalRequests.updateWhere _ _ ↔ _
  rw [Table.mem_updateWhere (f := decidedRequest input user now) fun _ => rfl]
  simp only [decide_eq_true_eq]

section Decided

variable {db : MdrDb} (hfind : db.approvalRequests.find? approval.id = some approval)
  (hallowed : checkDecision approval input user = .ok ())

include hfind hallowed

/-- A decision leaves the exceptions that were approved. -/
theorem HasApprovedException.decision {r : MdrRule} (h : HasApprovedException db r) :
    HasApprovedException (writeDecision approval input user now db) r := by
  obtain ⟨a, ha, hrule, htype, hstatus, hrest⟩ := h
  have hother : a.id ≠ approval.id := by
    intro hid
    obtain rfl : a = approval := Table.eq_of_key_eq ha (Table.find?_eq_some.mp hfind).1 hid
    rw [(checkDecision_eq_ok hallowed).1] at hstatus
    cases hstatus
  exact ⟨a, mem_writeDecision.mpr ⟨a, ha, if_neg hother⟩, hrule, htype, hstatus, hrest⟩

/-- The books but for the rule whose request was approved. -/
theorem MdrBooks.writeDecision (h : MdrBooks config db) :
    MdrBooks config (writeDecision approval input user now db) where
  approved r hr hactive hbelow := (h.approved r hr hactive hbelow).decision hfind hallowed
  pending a ha ruleId hrule hpending := by
    obtain ⟨b, hb, rfl⟩ := mem_writeDecision.mp ha
    by_cases hid : b.id = approval.id
    · simp only [hid, if_true] at hpending
      rcases input.decided with hstatus | hstatus <;> simp [decidedRequest, hstatus] at hpending
    · rw [if_neg hid] at hrule hpending ⊢
      exact h.pending b hb ruleId hrule hpending

/-- Once approved, the rule of the request has its exception. -/
theorem MdrBooks.approvedException (h : MdrBooks config db) (hstatus : input.status = .approved) {ruleId : Nat}
    (hrule : approval.mdrRuleId = some ruleId) {r : MdrRule} (hr : r ∈ db.mdrRules) (hid : r.id = ruleId) :
    HasApprovedException (AtlasErp.writeDecision approval input user now db) r := by
  obtain ⟨hmem, -⟩ := Table.find?_eq_some.mp hfind
  obtain ⟨hpending, hother⟩ := checkDecision_eq_ok hallowed
  obtain ⟨htype, x, hx, hxid, hrate⟩ := h.pending approval hmem ruleId hrule hpending
  obtain rfl : x = r := Table.eq_of_key_eq hx hr (hxid.trans hid.symm)
  refine ⟨_, mem_writeDecision.mpr ⟨approval, hmem, rfl⟩, ?_⟩
  rw [if_pos rfl]
  exact ⟨hrule.trans (congrArg some hid.symm), htype, hstatus, ⟨user, rfl, (hother hstatus).symm⟩, hrate⟩

theorem MdrBooks.decideApproval (h : MdrBooks config db) :
    MdrBooks config (applyDecision approval input now (AtlasErp.writeDecision approval input user now db)) := by
  have hwritten := @MdrBooks.writeDecision _ _ _ _ now _ hfind hallowed h
  cases hrule : approval.mdrRuleId with
  | none => exact ⟨by simpa [BelowMinimumApproved, applyDecision, hrule, HasApprovedException] using
      hwritten.approved, by simpa [applyDecision, hrule] using hwritten.pending⟩
  | some ruleId =>
    cases hstatus : input.status with
    | approved =>
      have hactivated := @MdrBooks.updateRule _ _ hwritten ruleId MdrRule.activated (fun _ => rfl)
        (fun _ _ _ _ => rfl) fun r hr hid _ _ =>
          (h.approvedException hfind hallowed hstatus hrule hr hid).mono (fun _ => id) (fun _ => id) rfl rfl
      exact ⟨by simpa [BelowMinimumApproved, applyDecision, hrule, hstatus, HasApprovedException] using
        hactivated.approved, by simpa [applyDecision, hrule, hstatus] using hactivated.pending⟩
    | pending | rejected =>
      exact ⟨by simpa [BelowMinimumApproved, applyDecision, hrule, hstatus, HasApprovedException] using
        hwritten.approved, by simpa [applyDecision, hrule, hstatus] using hwritten.pending⟩

end Decided

end Decide

/-! ## Every interleaving -/

/-- What a transaction commits keeps the books, when it finds what it read. -/
theorem MdrBooks.commit {db : MdrDb} (h : MdrBooks config db) {p : MdrPoint}
    (hcommits : p.commits config db = true) (hundisturbed : p.Undisturbed config db) :
    MdrBooks config (p.writes config db) := by
  have hchange : ∀ change : MdrChange, change.Undisturbed config db → MdrBooks config (change.write config db) := by
    intro change hchange
    cases change with
    | create input user => exact h.insertMdrRule hchange user
    | update regla input user => exact h.editMdrRule hchange user
  cases p with
  | wrote change surroundings => exact hchange change hundisturbed
  | picked change event => exact hchange change hundisturbed
  | published change event =>
    have hbooks := hchange change hundisturbed
    exact ⟨hbooks.approved, hbooks.pending⟩
  | applied d => exact h.decideApproval hundisturbed d.allowed
  | begun | ruleRead | opened | approvalRead => exact h
  | approvalWritten d => cases hcommits

/-- **One step**: what is committed keeps the books. -/
theorem MdrBooks.step {S S' : Sessions MdrDb MdrPoint} {a : Act MdrRequest}
    (h : MdrBooks config S.committed) (hok : MdrUndisturbed config S a)
    (hstep : (mdrProgram config).step S a = some S') : MdrBooks config S'.committed := by
  cases Program.step_cases hstep with
  | started => exact h
  | moved => exact h
  | @committed t p hfind hnext =>
    have hnext : p.next config (p.writes config S.committed) = .commit := hnext
    have hcommits : p.commits config S.committed = true := by simp only [MdrPoint.commits, hnext]
    exact h.commit hcommits (hok p hfind hcommits)
  | rolledBack => exact h
  | failed => exact h

/-- **Below the minimum only with an exception.** As long as every transaction that commits finds what it
read, an active rule below the minimum has an approved exception for its rate. -/
theorem belowMinimum_approved {S : Sessions MdrDb MdrPoint}
    (h : ((mdrProgram config).machine NoMdrRules).Reachable (MdrUndisturbed config) S) :
    BelowMinimumApproved config S.committed := by
  refine (Machine.invariant (P := fun S => MdrBooks config S.committed) ?_ ?_ h).approved
  · rintro S ⟨⟨hrules, hrequests⟩, -⟩
    refine ⟨fun r hr => ?_, fun a ha ruleId hrule => ?_⟩
    · rw [hrules] at hr
      cases hr
    · rw [hrequests a ha] at hrule
      cases hrule
  · exact fun _ _ _ hok hstep hbooks => hbooks.step hok hstep

end Preservation

/-! ## Two edits that cross -/

section Examples

/-- A transaction from its first statement on. -/
def exampleMdrRun (t : Nat) (request : MdrRequest) (statements : Nat) : List (Act MdrRequest) :=
  .start t request :: List.replicate statements (.advance t)

/-- A rule at 3 % is deactivated.  One request activates it, and another lowers its rate to 1 % after the
first one read it. -/
def crossingEdits : List (Act MdrRequest) :=
  exampleMdrRun 0 (.createMdrRule (exampleCreate ⟨3, three_isRate⟩ none) 7 ⟨1000, 0⟩) 5 ++
  exampleMdrRun 1 (.updateMdrRule 1 (exampleActivate false) 7 ⟨2000, 0⟩) 4 ++
  exampleMdrRun 2 (.updateMdrRule 1 (exampleActivate true) 7 ⟨3000, 0⟩) 2 ++
  exampleMdrRun 3 (.updateMdrRule 1 (exampleRate ⟨1, by norm_num⟩ none) 8 ⟨3001, 0⟩) 4 ++
  List.replicate 4 (.advance 2)

/-- A rule at 2 % with its exception, approved by another user. -/
def approvedException : List (Act MdrRequest) :=
  exampleMdrRun 0 (.createMdrRule (exampleCreate ⟨2, two_isRate⟩ (some "volumen alto")) 7 ⟨1000, 0⟩) 3 ++
  exampleMdrRun 1 (.decideApproval 1 ⟨.approved, "volumen verificado", approved_isDecision⟩ 8 2000) 4

/-- **An active rule below the minimum without any request.** -/
theorem belowMinimum_counterexample :
    ¬ ∀ S, ((mdrProgram exampleMdrConfig).machine NoMdrRules).Reachable (fun _ _ => True) S →
      BelowMinimumApproved exampleMdrConfig S.committed := by
  intro h
  have hall := h _ (Machine.reachable_after ((mdrProgram exampleMdrConfig).machine NoMdrRules)
    (s := ⟨exampleMdrDb, []⟩) ⟨⟨rfl, fun a ha => nomatch ha⟩, rfl⟩ crossingEdits)
  have hrules : ((((mdrProgram exampleMdrConfig).machine NoMdrRules).after ⟨exampleMdrDb, []⟩
      crossingEdits).committed.mdrRules).rows = [⟨1, 1, none, none, none, 1000000, none, none, true⟩] := by
    decide +kernel
  have hnone : ((((mdrProgram exampleMdrConfig).machine NoMdrRules).after ⟨exampleMdrDb, []⟩
      crossingEdits).committed.approvalRequests).rows = [] := by
    decide +kernel
  obtain ⟨a, ha, -⟩ := hall ⟨1, 1, none, none, none, 1000000, none, none, true⟩
    (Table.mem_rows.mp (hrules ▸ List.mem_singleton.mpr rfl)) rfl (by decide +kernel)
  rw [← Table.mem_rows, hnone] at ha
  cases ha

/-- The exception of a rule at 2 %. -/
theorem belowMinimum_approved_exception :
    ∃ S, ((mdrProgram exampleMdrConfig).machine NoMdrRules).Reachable (MdrUndisturbed exampleMdrConfig) S ∧
      S.committed.mdrRules.rows = [⟨1, 1, none, none, none, 2000000, none, none, true⟩] ∧
      BelowMinimumApproved exampleMdrConfig S.committed := by
  have hreach := Machine.reachable_afterIf ((mdrProgram exampleMdrConfig).machine NoMdrRules)
    (MdrUndisturbed exampleMdrConfig) (s := ⟨exampleMdrDb, []⟩) ⟨⟨rfl, fun a ha => nomatch ha⟩, rfl⟩
    approvedException
  exact ⟨_, hreach, by decide +kernel, belowMinimum_approved hreach⟩

end Examples

end AtlasErp
