import AtlasErp.Common.Basics
import AtlasErp.Lib.Checked
import AtlasErp.Lib.Runs
import AtlasErp.Lib.Table

/-! # Branches of a merchant

Opening, editing and closing branches, and who may sell on credit: `canOriginateBnpl`.

- `step_lawful_iff`: a request of a merchant respects the rule of the credit flag exactly when it does
  not use the flag of its body to raise it, or to lift a block;
- `branchCredit_iff`: so does a whole run;
- `branchCredit_counterexample`: a merchant that grants itself credit. -/

namespace AtlasErp

open Lib

/-! ## The tables -/

/-- `AccountLifecycleStatus`. -/
inductive AccountLifecycleStatus where
  | lead
  | qualified
  | customer
  | suspended
  | terminated
  | disqualified
  deriving DecidableEq

/-- `BranchStatus`. -/
inductive BranchStatus where
  | pending
  | active
  | inactive
  | suspended
  deriving DecidableEq

/-- What the branches read of a B2B account. -/
structure MerchantAccount where
  id : Nat
  lifecycleStatus : AccountLifecycleStatus
  deriving DecidableEq

/-- A row of `merchant_branches`. -/
structure MerchantBranch where
  id : Nat
  accountId : Nat
  name : String
  city : Option String
  address : Option String
  status : BranchStatus
  canOriginateBnpl : Bool
  /-- Atlas turned credit sales off by hand. -/
  bnplBlockedByAtlas : Bool
  activatedAt : Option Instant
  deriving DecidableEq

instance : HasKey MerchantAccount where
  key a := a.id
  withKey k a := { a with id := k }
  key_withKey _ _ := rfl
  withKey_key _ := rfl

instance : HasKey MerchantBranch where
  key b := b.id
  withKey k b := { b with id := k }
  key_withKey _ _ := rfl
  withKey_key _ := rfl

structure BranchDb where
  accounts : Table MerchantAccount
  branches : Table MerchantBranch
  deriving DecidableEq

/-! ## The rule -/

/-- Who may sell on credit: the account is approved, the branch is active and Atlas did not turn it off. -/
def sucursalPuedeVenderACredito (lifecycleStatus : Option AccountLifecycleStatus)
    (branchStatus : BranchStatus) (bnplBlockedByAtlas : Bool) : Bool :=
  if bnplBlockedByAtlas then false
  else if branchStatus ≠ .active then false
  else lifecycleStatus = some .customer

/-- The rule, for a branch as it is stored. -/
def BranchDb.puedeVender (db : BranchDb) (b : MerchantBranch) : Bool :=
  sucursalPuedeVenderACredito ((db.accounts.find? b.accountId).map (·.lifecycleStatus)) b.status
    b.bnplBlockedByAtlas

/-! ## The operations -/

/-- A body that passed `createBranchSchema`. -/
structure CreateBranchDto where
  accountId : Nat
  name : String
  city : String
  address : Option String
  deriving DecidableEq

/-- A body that passed `updateBranchSchema`: at least one field. -/
structure UpdateBranchDto where
  name : Option String
  city : Option String
  address : Option String
  canOriginateBnpl : Option Bool
  someField : name.isSome ∨ city.isSome ∨ address.isSome ∨ canOriginateBnpl.isSome
  deriving DecidableEq

/-- The status of a body that passed `setBranchStatusSchema`. -/
inductive SetBranchStatusDto where
  | active
  | inactive
  deriving DecidableEq

def SetBranchStatusDto.status : SetBranchStatusDto → BranchStatus
  | .active => .active
  | .inactive => .inactive

/-- What the answers say of a branch. -/
structure BranchView where
  id : Nat
  accountId : Nat
  name : String
  city : Option String
  address : Option String
  status : BranchStatus
  canOriginateBnpl : Bool
  deriving DecidableEq

def describeBranch (b : MerchantBranch) : BranchView :=
  ⟨b.id, b.accountId, b.name, b.city, b.address, b.status, b.canOriginateBnpl⟩

section Operations

variable (db : BranchDb) (allowedAccountIds : Option (List Nat))

/-- May the caller operate the branches of this account?  `none` is staff. -/
def mayOperate (accountId : Nat) : Bool := allowedAccountIds.all (accountId ∈ ·)

def assertBranchAccount (accountId : Nat) : Except HttpError Unit :=
  failIf (mayOperate allowedAccountIds accountId = false)
    (forbidden "MERCHANT_ACCOUNT_FORBIDDEN" "No tienes permiso para operar esta cuenta de comercio.")

def createBranch (input : CreateBranchDto) : Except HttpError (BranchView × BranchDb) := do
  assertBranchAccount allowedAccountIds input.accountId
  let _ ← orFail (db.accounts.find? input.accountId) (notFound "Cuenta B2B no encontrada.")
  let row (id : Nat) : MerchantBranch :=
    ⟨id, input.accountId, input.name, some input.city, input.address, .pending, false, false, none⟩
  return (describeBranch (row db.branches.nextKey), { db with branches := db.branches.create row })

/-- What `updateBranch` writes. -/
def MerchantBranch.edited (b : MerchantBranch) (input : UpdateBranchDto) : MerchantBranch :=
  { b with
    name := input.name.getD b.name
    city := input.city.orElse fun _ => b.city
    address := input.address.orElse fun _ => b.address
    canOriginateBnpl := input.canOriginateBnpl.getD b.canOriginateBnpl
    bnplBlockedByAtlas := (input.canOriginateBnpl.map not).getD b.bnplBlockedByAtlas }

def updateBranch (branchId : Nat) (input : UpdateBranchDto) : Except HttpError (BranchView × BranchDb) := do
  let branch ← orFail (db.branches.find? branchId) (notFound "Sucursal no encontrada.")
  assertBranchAccount allowedAccountIds branch.accountId
  return (describeBranch (branch.edited input), { db with branches := db.branches.put (branch.edited input) })

/-- What `setBranchStatus` writes. -/
def MerchantBranch.withStatus (b : MerchantBranch) (cuenta : Option MerchantAccount)
    (input : SetBranchStatusDto) (now : Instant) : MerchantBranch :=
  let activa : Bool := input = .active
  let vende := activa && !b.bnplBlockedByAtlas &&
    (b.canOriginateBnpl ||
      sucursalPuedeVenderACredito (cuenta.map (·.lifecycleStatus)) input.status b.bnplBlockedByAtlas)
  { b with
    status := input.status
    canOriginateBnpl := vende
    activatedAt := if activa ∧ b.activatedAt = none then some now else b.activatedAt }

def setBranchStatus (branchId : Nat) (input : SetBranchStatusDto) (now : Instant) :
    Except HttpError (BranchView × BranchDb) := do
  let branch ← orFail (db.branches.find? branchId) (notFound "Sucursal no encontrada.")
  assertBranchAccount allowedAccountIds branch.accountId
  let changed := branch.withStatus (db.accounts.find? branch.accountId) input now
  return (describeBranch changed, { db with branches := db.branches.put changed })

end Operations

/-! ## Requests of merchants -/

/-- A request of a caller that is scoped to its own accounts. -/
inductive BranchRequest where
  | createBranch (allowedAccountIds : List Nat) (input : CreateBranchDto)
  | updateBranch (allowedAccountIds : List Nat) (branchId : Nat) (input : UpdateBranchDto)
  | setBranchStatus (allowedAccountIds : List Nat) (branchId : Nat) (input : SetBranchStatusDto)
      (now : Instant)
  deriving DecidableEq

/-- Perform a request; one that fails leaves the tables as they were. -/
def performBranch (db : BranchDb) : BranchRequest → BranchDb
  | .createBranch allowed input => stateAfter db (createBranch db (some allowed) input)
  | .updateBranch allowed branchId input => stateAfter db (updateBranch db (some allowed) branchId input)
  | .setBranchStatus allowed branchId input now =>
    stateAfter db (setBranchStatus db (some allowed) branchId input now)

/-- Any sequence of requests of merchants, from any tables. -/
def branchMachine : Machine BranchDb BranchRequest where
  init _ := True
  step db request := some (performBranch db request)

/-- The rule of the credit flag across a step: it goes up only where the branch may sell on credit, and a
block of Atlas stays. -/
def CreditLaw (db db' : BranchDb) : Prop :=
  ∀ b ∈ db.branches, ∀ b' ∈ db'.branches, b'.id = b.id →
    (b.canOriginateBnpl = false → b'.canOriginateBnpl = true → db'.puedeVender b' = true) ∧
      (b.bnplBlockedByAtlas = true → b'.bnplBlockedByAtlas = true)

/-- The condition: the body of an edition does not raise the flag of a branch of the caller, unless the
branch is not blocked and the flag is up already or may be. -/
def NoSelfGrant (db : BranchDb) : BranchRequest → Prop
  | .updateBranch allowed branchId input =>
    ∀ b ∈ db.branches.find? branchId, mayOperate (some allowed) b.accountId = true →
      input.canOriginateBnpl = some true →
        b.bnplBlockedByAtlas = false ∧ (b.canOriginateBnpl = true ∨ db.puedeVender b = true)
  | _ => True

section Law

variable {db : BranchDb}

theorem CreditLaw.refl (db : BranchDb) : CreditLaw db db := by
  intro b hb b' hb' hid
  obtain rfl : b' = b := Table.eq_of_key_eq hb' hb hid
  refine ⟨fun hdown hup => ?_, fun h => h⟩
  rw [hdown] at hup
  cases hup

/-- The rule across a write of one branch. -/
theorem creditLaw_put {branch changed : MerchantBranch} (hbranch : branch ∈ db.branches)
    (hid : changed.id = branch.id) :
    CreditLaw db { db with branches := db.branches.put changed } ↔
      (branch.canOriginateBnpl = false → changed.canOriginateBnpl = true → db.puedeVender changed = true) ∧
        (branch.bnplBlockedByAtlas = true → changed.bnplBlockedByAtlas = true) := by
  constructor
  · intro h
    exact h branch hbranch changed (Table.mem_put_self hbranch hid) hid
  · intro h b hb b' hb' hsame
    rcases (Table.mem_put hbranch hid).mp hb' with rfl | ⟨hb', hne⟩
    · obtain rfl : b = branch := Table.eq_of_key_eq hb hbranch (hsame.symm.trans hid)
      exact h
    · exact CreditLaw.refl db b hb b' hb' hsame

theorem creditLaw_createBranch (allowed : Option (List Nat)) (input : CreateBranchDto) :
    CreditLaw db (stateAfter db (createBranch db allowed input)) := by
  cases h : createBranch db allowed input with
  | error e => exact .refl db
  | ok result =>
    obtain ⟨-, -, h⟩ := bind_eq_ok.mp h
    obtain ⟨-, -, h⟩ := bind_eq_ok.mp h
    rw [← pure_eq_ok.mp h]
    intro b hb b' hb' hid
    rcases (Table.mem_create (t := db.branches)).mp hb' with hold | rfl
    · exact CreditLaw.refl db b hb b' hold hid
    · -- no branch had the key of the new one
      exact absurd hid.symm (Nat.ne_of_lt (Table.key_lt_nextKey hb))

/-- Closing a branch, or opening it, respects the rule. -/
theorem creditLaw_setBranchStatus (allowed : Option (List Nat)) (branchId : Nat)
    (input : SetBranchStatusDto) (now : Instant) :
    CreditLaw db (stateAfter db (setBranchStatus db allowed branchId input now)) := by
  cases h : setBranchStatus db allowed branchId input now with
  | error e => exact .refl db
  | ok result =>
    obtain ⟨branch, hfind, h⟩ := orFail_bind_eq_ok.mp h
    obtain ⟨-, -, h⟩ := bind_eq_ok.mp h
    rw [← pure_eq_ok.mp h]
    have hid : (branch.withStatus (db.accounts.find? branch.accountId) input now).id = branch.id := rfl
    refine (creditLaw_put (Table.find?_eq_some.mp hfind).1 hid).mpr
      ⟨fun hdown hup => ?_, fun hblocked => hblocked⟩
    simp only [MerchantBranch.withStatus, hdown, Bool.false_or, Bool.and_eq_true] at hup
    exact hup.2

/-- What an edition writes respects the rule exactly when the body does not raise the flag wrongly. -/
theorem edited_lawful_iff (b : MerchantBranch) (input : UpdateBranchDto) :
    ((b.canOriginateBnpl = false → (b.edited input).canOriginateBnpl = true →
        db.puedeVender (b.edited input) = true) ∧
      (b.bnplBlockedByAtlas = true → (b.edited input).bnplBlockedByAtlas = true)) ↔
    (input.canOriginateBnpl = some true →
      b.bnplBlockedByAtlas = false ∧ (b.canOriginateBnpl = true ∨ db.puedeVender b = true)) := by
  simp only [MerchantBranch.edited, BranchDb.puedeVender]
  cases hcan : b.canOriginateBnpl <;> cases hflag : input.canOriginateBnpl with
  | none => simp
  | some flag => cases flag <;> cases b.bnplBlockedByAtlas <;> simp

/-- Editing a branch respects the rule exactly when it meets the condition. -/
theorem creditLaw_updateBranch_iff (allowed : List Nat) (branchId : Nat) (input : UpdateBranchDto) :
    CreditLaw db (stateAfter db (updateBranch db (some allowed) branchId input)) ↔
      NoSelfGrant db (.updateBranch allowed branchId input) := by
  constructor
  · intro hlaw branch hfind hmay
    have hpass : assertBranchAccount (some allowed) branch.accountId = .ok () :=
      failIf_of_not (by simp [hmay])
    have hok : updateBranch db (some allowed) branchId input =
        .ok (describeBranch (branch.edited input), { db with branches := db.branches.put (branch.edited input) }) := by
      simp only [updateBranch, Option.mem_def.mp hfind, orFail_some, ok_bind, hpass]
      rfl
    rw [hok] at hlaw
    have hid : (branch.edited input).id = branch.id := rfl
    exact (edited_lawful_iff branch input).mp
      ((creditLaw_put (Table.find?_eq_some.mp hfind).1 hid).mp hlaw)
  · intro hcondition
    cases h : updateBranch db (some allowed) branchId input with
    | error e => exact .refl db
    | ok result =>
      obtain ⟨branch, hfind, h⟩ := orFail_bind_eq_ok.mp h
      obtain ⟨_, hpass, h⟩ := bind_eq_ok.mp h
      have hmay : mayOperate (some allowed) branch.accountId = true := by
        simpa using failIf_eq_ok.mp hpass
      rw [← pure_eq_ok.mp h]
      have hid : (branch.edited input).id = branch.id := rfl
      exact (creditLaw_put (Table.find?_eq_some.mp hfind).1 hid).mpr
        ((edited_lawful_iff branch input).mpr (hcondition branch hfind hmay))

/-- **One request** respects the rule exactly when it meets the condition. -/
theorem step_lawful_iff (request : BranchRequest) :
    CreditLaw db (performBranch db request) ↔ NoSelfGrant db request := by
  cases request with
  | createBranch allowed input =>
    exact ⟨fun _ => trivial, fun _ => creditLaw_createBranch (some allowed) input⟩
  | updateBranch allowed branchId input => exact creditLaw_updateBranch_iff allowed branchId input
  | setBranchStatus allowed branchId input now =>
    exact ⟨fun _ => trivial, fun _ => creditLaw_setBranchStatus (some allowed) branchId input now⟩

end Law

/-- **A merchant grants itself nothing** along a run, step by step, exactly when every request of the run
meets the condition. -/
theorem branchCredit_iff (db db' : BranchDb) (requests : List BranchRequest) :
    branchMachine.Run (fun t request => ∀ t', branchMachine.step t request = some t' → CreditLaw t t')
        db requests db' ↔
      branchMachine.Run NoSelfGrant db requests db' := by
  have hstep : ∀ t request, (∀ t', branchMachine.step t request = some t' → CreditLaw t t') ↔
      NoSelfGrant t request := by
    intro t request
    refine Iff.trans ⟨fun h => h _ rfl, fun h t' ht' => ?_⟩ (step_lawful_iff request)
    obtain rfl := Option.some.inj ht'
    exact h
  exact ⟨Machine.Run.mono fun t request => (hstep t request).mp,
    Machine.Run.mono fun t request => (hstep t request).mpr⟩

/-- A branch of a merchant that Atlas has not approved. -/
def unapproved (blocked : Bool) : BranchDb :=
  ⟨⟨[⟨1, .lead⟩], List.nodup_singleton _⟩, ⟨[⟨7, 1, "Sucursal Centro", none, none, .active, false, blocked, none⟩], List.nodup_singleton _⟩⟩

/-- The body of the request names the flag. -/
def grantItself : BranchRequest :=
  .updateBranch [1] 7 ⟨none, none, none, some true, .inr (.inr (.inr rfl))⟩

/-- One request of the merchant turns credit sales on without approval, and one lifts a block of Atlas. -/
theorem branchCredit_counterexample :
    (∃ requests db', branchMachine.Run (fun _ _ => True) (unapproved false) requests db' ∧
      ∃ b ∈ (unapproved false).branches, ∃ b' ∈ db'.branches, b'.id = b.id ∧
        b.canOriginateBnpl = false ∧ b'.canOriginateBnpl = true ∧ db'.puedeVender b' = false) ∧
    ∃ requests db', branchMachine.Run (fun _ _ => True) (unapproved true) requests db' ∧
      ∃ b ∈ (unapproved true).branches, ∃ b' ∈ db'.branches, b'.id = b.id ∧
        b.bnplBlockedByAtlas = true ∧ b'.bnplBlockedByAtlas = false := by
  have hrun : ∀ blocked, branchMachine.Run (fun _ _ => True) (unapproved blocked) [grantItself]
      (performBranch (unapproved blocked) grantItself) := fun blocked => .cons trivial rfl (.nil _)
  exact ⟨⟨_, _, hrun false, _, List.mem_cons_self, _, List.mem_cons_self, by decide⟩,
    ⟨_, _, hrun true, _, List.mem_cons_self, _, List.mem_cons_self, by decide⟩⟩

end AtlasErp
