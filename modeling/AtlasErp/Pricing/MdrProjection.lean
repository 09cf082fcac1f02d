import AtlasErp.Lib.Runs
import AtlasErp.Pricing.MdrRules

/-! # The rate that Core projects

Core shows the rate of the last `merchant.mdr.updated` of an account.  Creating a rule and editing one
publish; approving an exception, which also puts a rule in force, does not.

- `MdrCarried.step`: what each request keeps;
- `mdrProjected_of_reachable`: as long as no approval puts the first general rule in force, no exception
  takes the published one out of force, and an account has its rules in one version, the last event
  carries the rate of the only general rule;
- `mdrProjected_counterexample`: an approved exception that Core never hears of. -/

namespace AtlasErp

open Lib

/-! ## The property -/

/-- The last `merchant.mdr.updated` of an account. -/
def MdrDb.lastMdrUpdated (db : MdrDb) (accountId : Nat) : Option MdrUpdatedEvent :=
  (db.outbox.filter (·.aggregateId = accountId)).getLast?

/-- The last event of an account carries the rate of a rule, rounded to two decimals. -/
def MdrDb.Carries (db : MdrDb) (account : LinkedAccount) (rule : MdrRule) : Prop :=
  ∃ event, db.lastMdrUpdated account.id = some event ∧
    event.mdrRatePercent = toFixed2 (numberOf 6 rule.ratePercent)

/-- Every account that is linked, with an active contract and one general rule in force, has its rate
projected. -/
def MdrProjected (db : MdrDb) : Prop :=
  ∀ account ∈ db.accounts, account.partnerProfileId.isSome →
    ∀ contract ∈ db.contracts, contract.accountId = account.id → contract.status = .active →
      ∀ version ∈ db.contractVersions, version.contractId = contract.id →
        ∀ rule, db.generalRules version.id = [rule] → db.Carries account rule

/-- Requests one after the other, from a store without rules. -/
def mdrMachine (config : MdrConfig) : Machine MdrDb MdrRequest where
  init db := db.mdrRules = .empty
  step db request := some (performMdr config db request)

/-! ## The condition on a request -/

/-- The account of a version, when it is linked. -/
def MdrDb.linkedAccountOf (db : MdrDb) (contractVersionId : Nat) : Option LinkedAccount :=
  (db.accountOf contractVersionId).filter (·.partnerProfileId.isSome)

/-- No other version of the account has a general rule in force. -/
def OtherVersionsIdle (db : MdrDb) (contractVersionId : Nat) : Prop :=
  ∀ account ∈ db.linkedAccountOf contractVersionId, ∀ version ∈ db.contractVersions,
    version.id ≠ contractVersionId → db.accountOf version.id = some account →
      db.generalRules version.id = []

instance (db : MdrDb) (contractVersionId : Nat) : Decidable (OtherVersionsIdle db contractVersionId) :=
  inferInstanceAs (Decidable (∀ account ∈ db.linkedAccountOf contractVersionId,
    ∀ version ∈ db.contractVersions.rows, _ → _ → _))

/-- An exception leaves no other general rule of its version in force. -/
def LeavesNoOther (db : MdrDb) (regla : MdrRule) : Prop :=
  (db.linkedAccountOf regla.contractVersionId).isSome → regla ∈ db.generalRules regla.contractVersionId →
    db.generalRules regla.contractVersionId = [regla]

instance (db : MdrDb) (regla : MdrRule) : Decidable (LeavesNoOther db regla) :=
  inferInstanceAs (Decidable (_ → _ → _))

/-- An approval is not what puts the first general rule of a version in force. -/
def JoinsOther (db : MdrDb) (regla : MdrRule) : Prop :=
  (db.linkedAccountOf regla.contractVersionId).isSome → regla.isGeneral = true →
    db.generalRules regla.contractVersionId ≠ []

instance (db : MdrDb) (regla : MdrRule) : Decidable (JoinsOther db regla) :=
  inferInstanceAs (Decidable (_ → _ → _))

/-- What a request must find for the projection to follow it. -/
def KeepsProjection (config : MdrConfig) (db : MdrDb) : MdrRequest → Prop
  | .createMdrRule input _ _ => OtherVersionsIdle db input.contractVersionId
  | .updateMdrRule ruleId input _ _ => ∀ regla ∈ db.mdrRules.find? ruleId,
    (needsException config regla input = true → LeavesNoOther db regla) ∧
      (needsException config regla input = false → OtherVersionsIdle db regla.contractVersionId)
  | .decideApproval approvalId input _ _ => input.status = .approved →
    ∀ approval ∈ db.approvalRequests.find? approvalId, ∀ ruleId ∈ approval.mdrRuleId,
      ∀ regla ∈ db.mdrRules.find? ruleId, JoinsOther db regla

instance (config : MdrConfig) (db : MdrDb) (request : MdrRequest) :
    Decidable (KeepsProjection config db request) :=
  match request with
  | .createMdrRule input _ _ => inferInstanceAs (Decidable (OtherVersionsIdle db input.contractVersionId))
  | .updateMdrRule ruleId _ _ _ =>
    inferInstanceAs (Decidable (∀ regla ∈ db.mdrRules.find? ruleId, (_ → _) ∧ (_ → _)))
  | .decideApproval approvalId _ _ _ =>
    inferInstanceAs (Decidable (_ → ∀ approval ∈ db.approvalRequests.find? approvalId,
      ∀ ruleId ∈ approval.mdrRuleId, ∀ regla ∈ db.mdrRules.find? ruleId, JoinsOther db regla))

section Preservation

variable {config : MdrConfig}

/-! ## What is carried -/

/-- A rule is general and in force in a version. -/
def MdrRule.InForce (r : MdrRule) (contractVersionId : Nat) : Prop :=
  r.contractVersionId = contractVersionId ∧ r.isActive = true ∧ r.isGeneral = true

theorem mem_generalRules {db : MdrDb} {version : Nat} {r : MdrRule} :
    r ∈ db.generalRules version ↔ r ∈ db.mdrRules ∧ r.InForce version := by
  simp only [MdrDb.generalRules, Table.mem_rowsWhere, MdrRule.InForce, decide_eq_true_eq]

/-- **The invariant**: an account with a general rule in force has the rate of one projected. -/
def MdrCarried (db : MdrDb) : Prop :=
  ∀ version, ∀ account ∈ db.linkedAccountOf version, (∃ r ∈ db.mdrRules, r.InForce version) →
    ∃ r ∈ db.mdrRules, r.InForce version ∧ db.Carries account r

/-- The tables that no request writes. -/
def SameContracts (db db' : MdrDb) : Prop :=
  db'.accounts = db.accounts ∧ db'.contracts = db.contracts ∧ db'.contractVersions = db.contractVersions

theorem SameContracts.linkedAccountOf {db db' : MdrDb} (h : SameContracts db db') (version : Nat) :
    db'.linkedAccountOf version = db.linkedAccountOf version := by
  obtain ⟨haccounts, hcontracts, hversions⟩ := h
  simp only [MdrDb.linkedAccountOf, MdrDb.accountOf, haccounts, hcontracts, hversions]

theorem SameContracts.rfl {db : MdrDb} : SameContracts db db := ⟨Eq.refl _, Eq.refl _, Eq.refl _⟩

/-- The rules of other versions stay as they are. -/
def SameElsewhere (db db' : MdrDb) (version : Nat) : Prop :=
  ∀ r : MdrRule, r.contractVersionId ≠ version → (r ∈ db'.mdrRules ↔ r ∈ db.mdrRules)

/-- Without a publication, what is carried stays so when in each version the rules in force do, or none
is, or one that is carried is among them. -/
theorem MdrCarried.silent {db db' : MdrDb} (h : MdrCarried db) (hsame : SameContracts db db')
    (houtbox : db'.outbox = db.outbox) {version : Nat} (helse : SameElsewhere db db' version)
    (hhere : (db.linkedAccountOf version).isSome → (∃ r ∈ db'.mdrRules, r.InForce version) →
      (∃ r ∈ db.mdrRules, r.InForce version) ∧
        ∀ r ∈ db.mdrRules, r.InForce version → r ∈ db'.mdrRules) :
    MdrCarried db' := by
  intro v account haccount hforce
  rw [hsame.linkedAccountOf] at haccount
  have hcarries : ∀ r, db.Carries account r → db'.Carries account r := by
    intro r hr
    simpa only [MdrDb.Carries, MdrDb.lastMdrUpdated, houtbox] using hr
  by_cases hv : v = version
  · subst hv
    have hlinked : (db.linkedAccountOf v).isSome := Option.isSome_iff_exists.mpr ⟨account, haccount⟩
    obtain ⟨hsome, hkeep⟩ := hhere hlinked hforce
    obtain ⟨r, hr, hin, hcarried⟩ := h v account haccount hsome
    exact ⟨r, hkeep r hr hin, hin, hcarries r hcarried⟩
  · have hother : ∀ r : MdrRule, r.InForce v → (r ∈ db'.mdrRules ↔ r ∈ db.mdrRules) := fun r hin =>
      helse r (hin.1 ▸ hv)
    obtain ⟨r, hr, hin⟩ := hforce
    obtain ⟨r', hr', hin', hcarried⟩ := h v account haccount ⟨r, (hother r hin).mp hr, hin⟩
    exact ⟨r', (hother r' hin').mpr hr', hin', hcarries r' hcarried⟩

theorem mem_linkedAccountOf {db : MdrDb} {version : Nat} {account : LinkedAccount}
    (h : account ∈ db.linkedAccountOf version) :
    db.accountOf version = some account ∧ account ∈ db.accounts ∧
      ∃ row ∈ db.contractVersions, row.id = version := by
  obtain ⟨hof, -⟩ := Option.filter_eq_some_iff.mp h
  obtain ⟨row, hrow, hrest⟩ := Option.bind_eq_some_iff.mp hof
  obtain ⟨contract, -, haccount⟩ := Option.bind_eq_some_iff.mp hrest
  exact ⟨hof, (Table.find?_eq_some.mp haccount).1, row, Table.find?_eq_some.mp hrow⟩

/-! ## Publishing -/

/-- A publication picks one of the general rules in force. -/
theorem mdrToPublish_eq_some {db : MdrDb} {version : Nat} {surroundings : MdrSurroundings}
    {event : MdrUpdatedEvent} (h : mdrToPublish db version surroundings = some event) :
    ∃ account ∈ db.linkedAccountOf version, event.aggregateId = account.id ∧
      ∃ r ∈ db.mdrRules, r.InForce version ∧
        event.mdrRatePercent = toFixed2 (numberOf 6 r.ratePercent) := by
  obtain ⟨account, haccount, h⟩ := Option.bind_eq_some_iff.mp h
  obtain ⟨partnerProfileId, hpartner, h⟩ := Option.bind_eq_some_iff.mp h
  obtain ⟨r, hr, h⟩ := Option.bind_eq_some_iff.mp h
  obtain rfl := Option.some.inj h
  obtain ⟨hmem, hin⟩ := mem_generalRules.mp (List.mem_of_getElem? hr)
  refine ⟨account, ?_, rfl, r, hmem, hin, rfl⟩
  simp [MdrDb.linkedAccountOf, haccount, hpartner]

/-- Nothing is published only without a linked account, or a general rule in force. -/
theorem mdrToPublish_eq_none {db : MdrDb} {version : Nat} {surroundings : MdrSurroundings}
    (h : mdrToPublish db version surroundings = none) {account : LinkedAccount}
    (haccount : account ∈ db.linkedAccountOf version) : ∀ r ∈ db.mdrRules, ¬r.InForce version := by
  intro r hr hin
  obtain ⟨hof, hlinked⟩ := Option.filter_eq_some_iff.mp haccount
  obtain ⟨partnerProfileId, hpartner⟩ := Option.isSome_iff_exists.mp hlinked
  have hrules : r ∈ db.generalRules version := mem_generalRules.mpr ⟨hr, hin⟩
  have hlength : surroundings.row % (db.generalRules version).length < (db.generalRules version).length :=
    Nat.mod_lt _ (List.length_pos_of_mem hrules)
  simp [mdrToPublish, hof, hpartner, List.getElem?_eq_getElem hlength] at h

theorem lastMdrUpdated_append {db : MdrDb} {event : MdrUpdatedEvent} (accountId : Nat) :
    ({ db with outbox := db.outbox ++ [event] } : MdrDb).lastMdrUpdated accountId =
      if event.aggregateId = accountId then some event else db.lastMdrUpdated accountId := by
  by_cases h : event.aggregateId = accountId <;> simp [MdrDb.lastMdrUpdated, List.filter_append, h]

/-- After a publication of a version, what it carries is a rule in force there. -/
theorem MdrCarried.publish {db db₁ db' : MdrDb} (h : MdrCarried db) {version : Nat}
    {surroundings : MdrSurroundings} (hidle : OtherVersionsIdle db version) (hsame : SameContracts db db₁)
    (houtbox : db₁.outbox = db.outbox) (helse : SameElsewhere db db₁ version)
    (hpublish : publishMdrUpdatedForContractVersion db₁ version surroundings = .ok db') : MdrCarried db' := by
  unfold publishMdrUpdatedForContractVersion at hpublish
  cases hpick : mdrToPublish db₁ version surroundings with
  | none =>
    rw [hpick] at hpublish
    obtain rfl := Except.ok.inj hpublish
    refine h.silent hsame houtbox helse fun hlinked hforce => ?_
    obtain ⟨account, haccount⟩ := Option.isSome_iff_exists.mp hlinked
    rw [← hsame.linkedAccountOf] at haccount
    obtain ⟨r, hr, hin⟩ := hforce
    exact absurd hin (mdrToPublish_eq_none hpick haccount r hr)
  | some event =>
    rw [hpick] at hpublish
    obtain rfl := insertMdrEvent_eq_ok hpublish
    obtain ⟨published, hpublished, hid, r, hr, hin, hrate⟩ := mdrToPublish_eq_some hpick
    intro v account haccount hforce
    have haccount₁ : account ∈ db₁.linkedAccountOf v := haccount
    rw [hsame.linkedAccountOf] at haccount₁ hpublished
    by_cases hv : v = version
    · subst hv
      obtain rfl : published = account := Option.some.inj (hpublished.symm.trans haccount₁)
      exact ⟨r, hr, hin, event, by rw [lastMdrUpdated_append, if_pos hid], hrate⟩
    · have hother : ∀ r : MdrRule, r.InForce v → (r ∈ db₁.mdrRules ↔ r ∈ db.mdrRules) := fun r hin =>
        helse r (hin.1 ▸ hv)
      obtain ⟨r₁, hr₁, hin₁⟩ := hforce
      have hforce₀ : ∃ r ∈ db.mdrRules, r.InForce v := ⟨r₁, (hother r₁ hin₁).mp hr₁, hin₁⟩
      obtain ⟨r₂, hr₂, hin₂, event₂, hlast, hrate₂⟩ := h v account haccount₁ hforce₀
      refine ⟨r₂, (hother r₂ hin₂).mpr hr₂, hin₂, event₂, ?_, hrate₂⟩
      rw [lastMdrUpdated_append, if_neg ?_]
      · simpa only [MdrDb.lastMdrUpdated, houtbox] using hlast
      · -- an event of this account would come from a version while this one has a rule in force
        intro hsameId
        obtain ⟨hofPublished, hmemPublished, -⟩ := mem_linkedAccountOf hpublished
        obtain ⟨hof, hmem, row, hrow, rfl⟩ := mem_linkedAccountOf haccount₁
        obtain rfl : published = account := Table.eq_of_key_eq hmemPublished hmem (hid.symm.trans hsameId)
        have hnone := hidle published hpublished row hrow hv hof
        have hsome := mem_generalRules.mpr ⟨hr₂, hin₂⟩
        rw [hnone] at hsome
        cases hsome

/-! ## The three requests -/

theorem mdrRules_insertMdrRule {db : MdrDb} {input : CreateMdrRuleDto} {user : UserId} :
    (insertMdrRule config input user db).2.mdrRules = db.mdrRules.create (newMdrRule config input) ∧
      SameContracts db (insertMdrRule config input user db).2 ∧
      (insertMdrRule config input user db).2.outbox = db.outbox := by
  unfold insertMdrRule
  dsimp only
  split <;> exact ⟨rfl, .rfl, rfl⟩

theorem mdrRules_editMdrRule {db : MdrDb} {regla : MdrRule} {input : UpdateMdrRuleDto} {user : UserId} :
    (editMdrRule config regla input user db).2.mdrRules =
        db.mdrRules.updateWhere (·.id = regla.id) (editedColumns config regla input).write ∧
      SameContracts db (editMdrRule config regla input user db).2 ∧
      (editMdrRule config regla input user db).2.outbox = db.outbox := by
  unfold editMdrRule
  dsimp only
  split <;> exact ⟨rfl, .rfl, rfl⟩

/-- An update of one rule that keeps its version is seen in that version alone. -/
theorem mem_updateRule {db : MdrDb} {regla : MdrRule} (hregla : regla ∈ db.mdrRules) {f : MdrRule → MdrRule}
    (hid : ∀ r, (f r).id = r.id) {r : MdrRule} :
    r ∈ db.mdrRules.updateWhere (·.id = regla.id) f ↔ r = f regla ∨ r ∈ db.mdrRules ∧ r.id ≠ regla.id := by
  rw [Table.mem_updateWhere hid]
  constructor
  · rintro ⟨x, hx, rfl⟩
    by_cases hkey : x.id = regla.id
    · obtain rfl : x = regla := Table.eq_of_key_eq hx hregla hkey
      exact .inl (if_pos (decide_eq_true rfl))
    · rw [if_neg (by simpa using hkey)]
      exact .inr ⟨hx, hkey⟩
  · rintro (rfl | ⟨hr, hkey⟩)
    · exact ⟨regla, hregla, if_pos (decide_eq_true rfl)⟩
    · exact ⟨r, hr, if_neg (by simpa using hkey)⟩

theorem SameElsewhere.update {db db' : MdrDb} {regla : MdrRule} (hregla : regla ∈ db.mdrRules)
    {f : MdrRule → MdrRule} (hid : ∀ r, (f r).id = r.id)
    (hversion : ∀ r, (f r).contractVersionId = r.contractVersionId)
    (hrules : db'.mdrRules = db.mdrRules.updateWhere (·.id = regla.id) f) :
    SameElsewhere db db' regla.contractVersionId := by
  intro r hr
  rw [hrules, mem_updateRule hregla hid]
  constructor
  · rintro (rfl | ⟨hmem, -⟩)
    · exact absurd (hversion regla) hr
    · exact hmem
  · intro hmem
    refine .inr ⟨hmem, fun hkey => hr ?_⟩
    rw [Table.eq_of_key_eq hmem hregla hkey]

theorem MdrCarried.createMdrRule {db db' : MdrDb} (h : MdrCarried db) {input : CreateMdrRuleDto}
    {user : UserId} {surroundings : MdrSurroundings} {view : MdrRuleView}
    (hidle : OtherVersionsIdle db input.contractVersionId)
    (hok : createMdrRule config db input user surroundings = .ok (view, db')) : MdrCarried db' := by
  obtain ⟨hrules, hsame, houtbox⟩ := @mdrRules_insertMdrRule config db input user
  refine h.publish hidle hsame houtbox (fun r hr => ?_) (createMdrRule_eq_ok hok).2
  rw [hrules, Table.mem_create fun _ => rfl]
  refine or_iff_left fun hnew => hr ?_
  rw [hnew]
  rfl

/-- An edit that asks for an exception takes its rule out of force. -/
theorem isActive_editedColumns {regla : MdrRule} {input : UpdateMdrRuleDto}
    (hneeds : needsException config regla input = true) :
    ((editedColumns config regla input).write regla).isActive = false := by
  simp only [editedColumns, hneeds, if_true, changedColumns, MdrRuleColumns.write]
  cases hactive : regla.isActive <;> simp [Option.filter]

theorem MdrCarried.updateMdrRule {db db' : MdrDb} (h : MdrCarried db) {ruleId : Nat}
    {input : UpdateMdrRuleDto} {user : UserId} {surroundings : MdrSurroundings} {view : MdrRuleView}
    (hkeeps : KeepsProjection config db (.updateMdrRule ruleId input user surroundings))
    (hok : updateMdrRule config db ruleId input user surroundings = .ok (view, db')) : MdrCarried db' := by
  obtain ⟨regla, hfind, -, hcases⟩ := updateMdrRule_eq_ok hok
  obtain ⟨hexception, hedit⟩ := hkeeps regla hfind
  have hregla := (Table.find?_eq_some.mp hfind).1
  obtain ⟨hrules, hsame, houtbox⟩ := @mdrRules_editMdrRule config db regla input user
  have helse := SameElsewhere.update hregla (f := (editedColumns config regla input).write) (fun _ => rfl)
    (fun _ => rfl) hrules
  rcases hcases with ⟨hneeds, rfl⟩ | ⟨hneeds, hpublish⟩
  · refine h.silent hsame houtbox helse fun hlinked hforce => ?_
    -- the edited rule is out of force; the others are as they were
    obtain ⟨r, hr, hin⟩ := hforce
    rw [hrules, mem_updateRule (f := (editedColumns config regla input).write) hregla fun _ => rfl] at hr
    have hr : r ∈ db.mdrRules ∧ r.id ≠ regla.id := by
      rcases hr with rfl | hr
      · rw [MdrRule.InForce, isActive_editedColumns hneeds] at hin
        simp at hin
      · exact hr
    refine ⟨⟨r, hr.1, hin⟩, fun x hx hxin => ?_⟩
    rw [hrules, mem_updateRule (f := (editedColumns config regla input).write) hregla fun _ => rfl]
    refine .inr ⟨hx, fun hkey => hr.2 ?_⟩
    obtain rfl : x = regla := Table.eq_of_key_eq hx hregla hkey
    have honly := hexception hneeds hlinked (mem_generalRules.mpr ⟨hx, hxin⟩)
    have hmem := mem_generalRules.mpr ⟨hr.1, hin⟩
    rw [honly, List.mem_singleton] at hmem
    rw [hmem]
  · exact h.publish (hedit hneeds) hsame houtbox helse hpublish

theorem MdrCarried.decideApproval {db db' : MdrDb} (h : MdrCarried db) {approvalId : Nat}
    {input : DecideApprovalDto} {user : UserId} {now : Instant} {view : ApprovalView}
    (hkeeps : KeepsProjection config db (.decideApproval approvalId input user now))
    (hok : decideApproval db approvalId input user now = .ok (view, db')) : MdrCarried db' := by
  obtain ⟨approval, hfind, -, rfl⟩ := decideApproval_eq_ok hok
  have hunchanged : ∀ db' : MdrDb, SameContracts db db' → db'.outbox = db.outbox →
      db'.mdrRules = db.mdrRules → MdrCarried db' := by
    intro db' hsame houtbox hrules
    refine @MdrCarried.silent _ _ h hsame houtbox 0 (fun r _ => by rw [hrules]) fun _ hforce => ?_
    rw [hrules] at hforce ⊢
    exact ⟨hforce, fun _ hr _ => hr⟩
  cases hrule : approval.mdrRuleId with
  | none => exact hunchanged _ .rfl rfl (by simp [applyDecision, hrule, writeDecision])
  | some ruleId =>
    rcases input.decided with hstatus | hstatus
    · have hrules : (applyDecision approval input now
          (writeDecision approval input user now db)).mdrRules =
          db.mdrRules.updateWhere (·.id = ruleId) MdrRule.activated := by
        simp [applyDecision, hrule, hstatus, writeDecision]
      cases hregla : db.mdrRules.find? ruleId with
      | none =>
        refine hunchanged _ .rfl rfl (hrules.trans ?_)
        refine Table.updateWhere_eq_self (f := MdrRule.activated) (fun _ => rfl) fun r hr hkey => ?_
        exact absurd (of_decide_eq_true hkey) (Table.find?_eq_none.mp hregla r hr)
      | some regla =>
        obtain ⟨hmem, hid⟩ := Table.find?_eq_some.mp hregla
        obtain rfl : regla.id = ruleId := hid
        have hjoins := hkeeps hstatus approval hfind _ hrule regla hregla
        refine h.silent .rfl rfl (SameElsewhere.update (f := MdrRule.activated) hmem (fun _ => rfl)
          (fun _ => rfl) hrules) fun hlinked hforce => ?_
        rw [hrules] at hforce ⊢
        constructor
        · by_cases hgeneral : regla.isGeneral = true
          · obtain ⟨r, hr⟩ := List.exists_mem_of_ne_nil _ (hjoins hlinked hgeneral)
            exact ⟨r, mem_generalRules.mp hr⟩
          · obtain ⟨r, hr, hin⟩ := hforce
            rcases (mem_updateRule (f := MdrRule.activated) hmem fun _ => rfl).mp hr with rfl | ⟨hr, -⟩
            · exact absurd hin.2.2 hgeneral
            · exact ⟨r, hr, hin⟩
        · intro r hr hin
          rw [mem_updateRule (f := MdrRule.activated) hmem fun _ => rfl]
          by_cases hkey : r.id = regla.id
          · obtain rfl : r = regla := Table.eq_of_key_eq hr hmem hkey
            refine .inl ?_
            rw [MdrRule.activated, ← hin.2.1]
          · exact .inr ⟨hr, hkey⟩
    · exact hunchanged _ .rfl rfl (by simp [applyDecision, hrule, hstatus, writeDecision])

/-- **One request** keeps what is carried. -/
theorem MdrCarried.step {db : MdrDb} (h : MdrCarried db) {request : MdrRequest}
    (hkeeps : KeepsProjection config db request) : MdrCarried (performMdr config db request) := by
  cases request with
  | createMdrRule input user surroundings =>
    cases hok : AtlasErp.createMdrRule config db input user surroundings with
    | error e => simpa only [performMdr, hok, stateAfter] using h
    | ok result => simpa only [performMdr, hok, stateAfter] using h.createMdrRule hkeeps hok
  | updateMdrRule ruleId input user surroundings =>
    cases hok : AtlasErp.updateMdrRule config db ruleId input user surroundings with
    | error e => simpa only [performMdr, hok, stateAfter] using h
    | ok result => simpa only [performMdr, hok, stateAfter] using h.updateMdrRule hkeeps hok
  | decideApproval approvalId input user now =>
    cases hok : AtlasErp.decideApproval db approvalId input user now with
    | error e => simpa only [performMdr, hok, stateAfter] using h
    | ok result => simpa only [performMdr, hok, stateAfter] using h.decideApproval hkeeps hok

/-- What is carried is the rate of the only general rule in force. -/
theorem MdrCarried.projected {db : MdrDb} (h : MdrCarried db) : MdrProjected db := by
  intro account haccount hlinked contract hcontract hof _ version hversion hversionOf rule hrules
  have hforce : ∀ r ∈ db.mdrRules, r.InForce version.id → r = rule := fun r hr hin => by
    have hmem := mem_generalRules.mpr ⟨hr, hin⟩
    rwa [hrules, List.mem_singleton] at hmem
  obtain ⟨hrule, hin⟩ := mem_generalRules.mp (hrules ▸ List.mem_singleton.mpr rfl : rule ∈ db.generalRules version.id)
  have hlinkedOf : account ∈ db.linkedAccountOf version.id := by
    have hfindVersion : db.contractVersions.find? version.id = some version := Table.find?_key hversion
    have hfindContract : db.contracts.find? version.contractId = some contract :=
      hversionOf ▸ Table.find?_key hcontract
    have hfindAccount : db.accounts.find? contract.accountId = some account :=
      hof ▸ Table.find?_key haccount
    simp [MdrDb.linkedAccountOf, MdrDb.accountOf, hfindVersion, hfindContract, hfindAccount, hlinked]
  obtain ⟨r, hr, hrin, hcarried⟩ := h version.id account hlinkedOf ⟨rule, hrule, hin⟩
  rwa [hforce r hr hrin] at hcarried

/-- **Core's rate follows the ERP.** After any sequence of requests that each keep the projection, the
last event of a linked account carries the rate of its only general rule in force. -/
theorem mdrProjected_of_reachable {db : MdrDb}
    (h : (mdrMachine config).Reachable (KeepsProjection config) db) : MdrProjected db := by
  refine (Machine.invariant (P := MdrCarried) ?_ ?_ h).projected
  · intro db hinit version account _ hforce
    obtain ⟨r, hr, -⟩ := hforce
    rw [show db.mdrRules = .empty from hinit] at hr
    exact absurd hr (Table.not_mem_empty r)
  · intro db request db' hkeeps hstep hcarried
    obtain rfl := Option.some.inj hstep
    exact hcarried.step hkeeps

end Preservation

section Examples

/-- A general rule at 3 % is published; it is lowered to 2 % with an exception, that another user
approves. -/
def approvedUnpublished : List MdrRequest :=
  [.createMdrRule (exampleCreate ⟨3, three_isRate⟩ none) 7 ⟨1000, 0⟩,
    .updateMdrRule 1 (exampleRate ⟨2, two_isRate⟩ (some "volumen alto")) 7 ⟨2000, 0⟩,
    .decideApproval 1 ⟨.approved, "volumen verificado", approved_isDecision⟩ 8 3000]

/-- The same rule, raised to 4 %. -/
def publishedEdit : List MdrRequest :=
  [.createMdrRule (exampleCreate ⟨3, three_isRate⟩ none) 7 ⟨1000, 0⟩,
    .updateMdrRule 1 (exampleRate ⟨4, four_isRate⟩ none) 7 ⟨2000, 0⟩]

/-- **Core keeps 3.00 while 2 % is in force.** -/
theorem mdrProjected_counterexample :
    ¬ ∀ db, (mdrMachine exampleMdrConfig).Reachable (fun _ _ => True) db → MdrProjected db := by
  intro h
  have hall := h _ (Machine.reachable_after (mdrMachine exampleMdrConfig) (s := exampleMdrDb) rfl
    approvedUnpublished)
  have hrules : ((mdrMachine exampleMdrConfig).after exampleMdrDb approvedUnpublished).generalRules 1 =
      [⟨1, 1, none, none, none, 2000000, none, none, true⟩] := by
    decide +kernel
  have hlast : (((mdrMachine exampleMdrConfig).after exampleMdrDb approvedUnpublished).lastMdrUpdated 1).map
      (·.mdrRatePercent) = some "3.00" := by
    decide +kernel
  have hrate : toFixed2 (numberOf 6 2000000) = "2.00" := by decide +kernel
  have hmem : (⟨1, some "partner-1"⟩ : LinkedAccount) ∈
      ((mdrMachine exampleMdrConfig).after exampleMdrDb approvedUnpublished).accounts.rows := by
    decide +kernel
  have hcontract : (⟨1, 1, .active⟩ : B2BContract) ∈
      ((mdrMachine exampleMdrConfig).after exampleMdrDb approvedUnpublished).contracts.rows := by
    decide +kernel
  have hversion : (⟨1, 1⟩ : B2BContractVersion) ∈
      ((mdrMachine exampleMdrConfig).after exampleMdrDb approvedUnpublished).contractVersions.rows := by
    decide +kernel
  obtain ⟨event, hevent, htext⟩ := hall _ hmem rfl _ hcontract rfl rfl _ hversion rfl _ hrules
  rw [hevent, Option.map_some, htext, hrate] at hlast
  exact absurd hlast (by decide)

/-- An edit that Core hears of. -/
theorem mdrProjected_of_reachable_edited :
    ∃ db, (mdrMachine exampleMdrConfig).Reachable (KeepsProjection exampleMdrConfig) db ∧
      db.generalRules 1 = [⟨1, 1, none, none, none, 4000000, none, none, true⟩] ∧
      (db.lastMdrUpdated 1).map (·.mdrRatePercent) = some "4.00" ∧ MdrProjected db := by
  have hreach := Machine.reachable_afterIf (mdrMachine exampleMdrConfig) (KeepsProjection exampleMdrConfig)
    (s := exampleMdrDb) rfl publishedEdit
  exact ⟨_, hreach, by decide +kernel, by decide +kernel, mdrProjected_of_reachable hreach⟩

end Examples

end AtlasErp
