import AtlasErp.Lib.Workers
import AtlasErp.Merchants.Branches

/-! # Branches under concurrency

The branches of a merchant are written from the CRM, from its portal and by its activation.  The CRM reads a branch and
updates it later, without a transaction; the portal locks it first; an activation takes the branches by condition.

- `branchWorkers`, `branchSessions`: the operations, and their interleavings;
- `BranchRule`: who may have the flag of credit sales, and who has it;
- `branchRule`: the rule, in every run where each write finds the branch and the approval of the merchant as they were
  read;
- `branchRule_counterexample`: staff grants credit to a branch before it is active; and a branch that is created while
  its merchant is activated is left out. -/

namespace AtlasErp

open Lib

/-! ## The operations -/

/-- The tables, and beside them the branches that staff granted credit by hand. -/
structure BranchBook extends BranchDb where
  granted : List Nat

/-- A body that passed `createPortalBranchSchema`, with the account that the scope resolves. -/
structure CreatePortalBranchDto where
  accountId : Nat
  name : String
  city : Option String
  address : Option String
  deriving DecidableEq

inductive BranchOperation where
  | createBranch (allowedAccountIds : Option (List Nat)) (input : CreateBranchDto)
  | createPortalBranch (input : CreatePortalBranchDto)
  | updateBranch (allowedAccountIds : Option (List Nat)) (branchId : Nat) (input : UpdateBranchDto)
  | setBranchStatus (allowedAccountIds : Option (List Nat)) (branchId : Nat) (input : SetBranchStatusDto)
  | setPortalBranchStatus (allowedAccountIds : List Nat) (branchId : Nat) (input : SetBranchStatusDto)
  /-- The writes of `activateOnboardingCase`, once its checks passed. -/
  | activate (accountId : Nat)
  deriving DecidableEq

/-- Where an operation is, with the copies it holds. -/
inductive BranchPoint where
  | creating (input : CreateBranchDto)
  /-- The portal read the account. -/
  | declaring (input : CreatePortalBranchDto) (cuenta : Option MerchantAccount)
  | editing (copy : MerchantBranch) (input : UpdateBranchDto)
  /-- The `UPDATE` of an edition has its lock. -/
  | edited (copy : MerchantBranch) (input : UpdateBranchDto)
  | setting (copy : MerchantBranch) (input : SetBranchStatusDto)
  | judged (copy : MerchantBranch) (input : SetBranchStatusDto) (cuenta : Option MerchantAccount)
  /-- The portal read the branch with a lock. -/
  | locked (copy : MerchantBranch) (input : SetBranchStatusDto)
  /-- The `UPDATE` of the status has its lock. -/
  | set (copy : MerchantBranch) (input : SetBranchStatusDto) (cuenta : Option MerchantAccount) (now : Instant)
  | activating (accountId : Nat)
  /-- The account is written. -/
  | approved (accountId : Nat)
  /-- These branches, which were pending, are written. -/
  | opened (accountId : Nat) (pendientes : List Nat)
  /-- These are given the flag. -/
  | enabled (accountId : Nat) (pendientes habilitadas : List Nat) (now : Instant)
  deriving DecidableEq

inductive BranchLock where
  | branch (id : Nat)
  | account (id : Nat)
  deriving DecidableEq

/-- What `update` leaves in a column: what is stored, unless the value differs from the row as it was read. -/
def rewritten {α : Type} [DecidableEq α] (copy value stored : α) : α := if value = copy then stored else value

/-- `branch.update(values)` on the row as it is stored: `values` are those of the branch after it. -/
def MerchantBranch.rewrite (copy values stored : MerchantBranch) : MerchantBranch :=
  { stored with
    name := rewritten copy.name values.name stored.name
    city := rewritten copy.city values.city stored.city
    address := rewritten copy.address values.address stored.address
    status := rewritten copy.status values.status stored.status
    canOriginateBnpl := rewritten copy.canOriginateBnpl values.canOriginateBnpl stored.canOriginateBnpl
    bnplBlockedByAtlas := rewritten copy.bnplBlockedByAtlas values.bnplBlockedByAtlas stored.bnplBlockedByAtlas
    activatedAt := rewritten copy.activatedAt values.activatedAt stored.activatedAt }

/-- The merchant is approved, as an account that was read says. -/
def aprobada (cuenta : Option MerchantAccount) : Bool := cuenta.any (·.lifecycleStatus = .customer)

section Actions

variable (s : BranchBook)

def BranchBook.rewriteBranch (copy values : MerchantBranch) : BranchBook :=
  { s with branches := s.branches.updateWhere (·.id = copy.id) (copy.rewrite values) }

def BranchBook.insertBranch (row : Nat → MerchantBranch) : BranchBook := { s with branches := s.branches.create row }

/-- A branch that the CRM creates. -/
def newBranch (input : CreateBranchDto) (id : Nat) : MerchantBranch :=
  ⟨id, input.accountId, input.name, some input.city, input.address, .pending, false, false, none⟩

/-- A branch that a merchant declares in its portal. -/
def newPortalBranch (input : CreatePortalBranchDto) (cuenta : Option MerchantAccount) (now : Instant) (id : Nat) :
    MerchantBranch :=
  ⟨id, input.accountId, input.name, input.city, input.address, .active,
    sucursalPuedeVenderACredito (cuenta.map (·.lifecycleStatus)) .active false, false, some now⟩

/-- The branches of the account that wait for its approval. -/
def BranchBook.pendientes (accountId : Nat) : List Nat :=
  (s.branches.rowsWhere fun b => b.accountId = accountId ∧ b.status = .pending).map (·.id)

/-- The active branches without the flag, among them those that the transaction opened. -/
def BranchBook.porHabilitar (accountId : Nat) (abiertas : List Nat) : List Nat :=
  (s.branches.rowsWhere fun b => b.accountId = accountId ∧ (b.status = .active ∨ b.id ∈ abiertas) ∧
    b.canOriginateBnpl = false ∧ b.bnplBlockedByAtlas = false).map (·.id)

/-- The commit of an activation. -/
def BranchBook.activated (accountId : Nat) (abiertas habilitadas : List Nat) (now : Instant) : BranchBook :=
  { s with
    accounts := s.accounts.updateWhere (·.id = accountId) fun a => { a with lifecycleStatus := .customer }
    branches := (s.branches.updateWhere (·.id ∈ abiertas) fun b => { b with status := .active, activatedAt := some now
      }).updateWhere (·.id ∈ habilitadas) fun b => { b with canOriginateBnpl := true } }

def BranchOperation.start : BranchOperation → Option BranchPoint
  | .createBranch allowed input =>
    if mayOperate allowed input.accountId ∧ (s.accounts.find? input.accountId).isSome then some (.creating input) else none
  | .createPortalBranch input => some (.declaring input (s.accounts.find? input.accountId))
  | .updateBranch allowed branchId input =>
    (s.branches.find? branchId).bind fun b => if mayOperate allowed b.accountId then some (.editing b input) else none
  | .setBranchStatus allowed branchId input =>
    (s.branches.find? branchId).bind fun b => if mayOperate allowed b.accountId then some (.setting b input) else none
  | .setPortalBranchStatus allowed branchId input =>
    (s.branches.find? branchId).bind fun b => if mayOperate (some allowed) b.accountId then some (.locked b input) else none
  | .activate accountId => some (.activating accountId)

namespace BranchPoint

def holds : BranchPoint → List BranchLock
  | .edited copy _ | .locked copy _ | .set copy _ _ _ => [.branch copy.id]
  | .approved accountId => [.account accountId]
  | .opened accountId abiertas => .account accountId :: abiertas.map .branch
  | .enabled accountId abiertas habilitadas _ => .account accountId :: (abiertas ++ habilitadas).map .branch
  | _ => []

/-- What an operation does next, at an instant. -/
def next : BranchPoint → Instant → BranchBook → Option (BranchBook × Option BranchPoint)
  | .creating input, _, s => some (s.insertBranch (newBranch input), none)
  | .declaring input cuenta, now, s => some (s.insertBranch (newPortalBranch input cuenta now), none)
  | .editing copy input, _, s => some (s, some (.edited copy input))
  | .edited copy input, _, s =>
    some ({ s.rewriteBranch copy (copy.edited input) with
      granted := if input.canOriginateBnpl = some true then copy.id :: s.granted else s.granted }, none)
  | .setting copy input, _, s => some (s, some (.judged copy input (s.accounts.find? copy.accountId)))
  | .judged copy input cuenta, now, s => some (s, some (.set copy input cuenta now))
  | .locked copy input, now, s =>
    if copy.status = input.status then some (s, none)
    else some (s, some (.set copy input (s.accounts.find? copy.accountId) now))
  | .set copy input cuenta now, _, s => some (s.rewriteBranch copy (copy.withStatus cuenta input now), none)
  | .activating accountId, _, s => some (s, some (.approved accountId))
  | .approved accountId, _, s => some (s, some (.opened accountId (s.pendientes accountId)))
  | .opened accountId abiertas, now, s =>
    some (s, some (.enabled accountId abiertas (s.porHabilitar accountId abiertas) now))
  | .enabled accountId abiertas habilitadas now, _, s => some (s.activated accountId abiertas habilitadas now, none)

end BranchPoint

end Actions

/-- The operations as workers; nothing else writes the branches. -/
def branchWorkers : Workers BranchBook BranchOperation Instant Empty BranchLock BranchPoint where
  start operation s := operation.start s
  holds := BranchPoint.holds
  next := BranchPoint.next
  outside event _ := event.elim

abbrev BranchState := Sessions BranchBook BranchPoint

abbrev BranchAct := WorkerAct BranchOperation Instant Empty

/-- Any interleaving of operations, from merchants without branches. -/
def branchSessions : Machine BranchState BranchAct :=
  branchWorkers.machine fun s => s.branches = .empty ∧ s.granted = []

/-! ## The rule and the condition -/

section Rule

variable {s s' : BranchBook}

/-- The merchant of an account is approved. -/
def BranchDb.aprobadaDe (db : BranchDb) (accountId : Nat) : Bool := aprobada (db.accounts.find? accountId)

/-- Who may have the flag, and who has it. -/
structure BranchRule (s : BranchBook) : Prop where
  unblocked : ∀ b ∈ s.branches, b.canOriginateBnpl = true → b.bnplBlockedByAtlas = false
  /-- Only staff gives the flag to a branch that is not active. -/
  active : ∀ b ∈ s.branches, b.canOriginateBnpl = true → b.status = .active ∨ b.id ∈ s.granted
  approved : ∀ b ∈ s.branches, s.aprobadaDe b.accountId = true → b.status = .active → b.bnplBlockedByAtlas = false →
    b.canOriginateBnpl = true

/-- The branch still is as it was read, in what the rule looks at. -/
def BranchAsRead (s : BranchBook) (copy : MerchantBranch) : Prop :=
  ∀ b ∈ s.branches, b.id = copy.id →
    b.status = copy.status ∧ b.canOriginateBnpl = copy.canOriginateBnpl ∧ b.bnplBlockedByAtlas = copy.bnplBlockedByAtlas

instance (s : BranchBook) (copy : MerchantBranch) : Decidable (BranchAsRead s copy) :=
  inferInstanceAs (Decidable (∀ b ∈ s.branches, _))

/-- What a write finds: the branch as it was read and, to leave it active, the approval as it was read; and an
activation, every branch that it should enable. -/
def BranchPoint.Finds (s : BranchBook) : BranchPoint → Prop
  | .declaring input cuenta => s.aprobadaDe input.accountId = aprobada cuenta
  | .edited copy _ => BranchAsRead s copy
  | .set copy input cuenta _ =>
    BranchAsRead s copy ∧ (input = .active → s.aprobadaDe copy.accountId = aprobada cuenta)
  | .enabled accountId _ habilitadas _ => ∀ b ∈ s.branches, b.accountId = accountId ∧ b.status = .active ∧
      b.bnplBlockedByAtlas = false ∧ b.canOriginateBnpl = false → b.id ∈ habilitadas
  | _ => True

instance (s : BranchBook) : DecidablePred (BranchPoint.Finds s)
  | .declaring .. => inferInstanceAs (Decidable (_ = _))
  | .edited copy _ => inferInstanceAs (Decidable (BranchAsRead s copy))
  | .set .. => inferInstanceAs (Decidable (_ ∧ (_ → _)))
  | .enabled .. => inferInstanceAs (Decidable (∀ b ∈ s.branches, _))
  | .creating _ | .editing .. | .setting .. | .judged .. | .locked .. | .activating _ | .approved _ | .opened .. =>
    .isTrue trivial

/-- The condition on a step. -/
def FindsBranches (S : BranchState) : BranchAct → Prop
  | .go w _ => ∀ p ∈ S.find? w, p.Finds S.committed
  | _ => True

instance (S : BranchState) : DecidablePred (FindsBranches S)
  | .go w _ => inferInstanceAs (Decidable (∀ p ∈ S.find? w, _))
  | .start .. | .die _ | .outside _ => .isTrue trivial

/-! ## What the operations rely on -/

/-- The branch that was read is there, and of the same account. -/
def HasBranch (s : BranchBook) (copy : MerchantBranch) : Prop :=
  ∃ b ∈ s.branches, b.id = copy.id ∧ b.accountId = copy.accountId

/-- The branches that an activation took wait for it, and are of its account. -/
def TookPending (s : BranchBook) (accountId : Nat) (abiertas : List Nat) : Prop :=
  ∀ id ∈ abiertas, ∃ b ∈ s.branches, b.id = id ∧ b.accountId = accountId

/-- Those that it enables are not blocked, and become active; and those that it opens are enabled if they may. -/
structure TookEnabled (s : BranchBook) (accountId : Nat) (abiertas habilitadas : List Nat) : Prop where
  pending : TookPending s accountId abiertas
  enabled : ∀ id ∈ habilitadas, ∃ b ∈ s.branches, b.id = id ∧ b.bnplBlockedByAtlas = false ∧
    (b.status = .active ∨ id ∈ abiertas)
  all : ∀ b ∈ s.branches, b.id ∈ abiertas → b.canOriginateBnpl = false → b.bnplBlockedByAtlas = false →
    b.id ∈ habilitadas

/-- What an operation relies on at each point. -/
def BranchPoint.Relies : BranchPoint → BranchBook → Prop
  | .editing copy _, s | .edited copy _, s | .setting copy _, s | .judged copy _ _, s | .locked copy _, s
  | .set copy _ _ _, s => HasBranch s copy
  | .opened accountId abiertas, s => TookPending s accountId abiertas
  | .enabled accountId abiertas habilitadas _, s => TookEnabled s accountId abiertas habilitadas
  | _, _ => True

/-- What a write does to the branches that others rely on: it keeps each, and leaves those it has no lock of. -/
def BranchFrame (p : BranchPoint) (s s' : BranchBook) : Prop :=
  ∀ b ∈ s.branches, ∃ b' ∈ s'.branches, b'.id = b.id ∧ b'.accountId = b.accountId ∧
    (.branch b.id ∉ p.holds → b' = b)

theorem BranchFrame.of_eq {p : BranchPoint} (h : s'.branches = s.branches) : BranchFrame p s s' :=
  fun b hb => ⟨b, h ▸ hb, rfl, rfl, fun _ => rfl⟩

theorem BranchFrame.of_insert {p : BranchPoint} {row : Nat → MerchantBranch} (hrow : ∀ k, (row k).id = k) :
    BranchFrame p s (s.insertBranch row) :=
  fun b hb => ⟨b, Table.mem_create_of_mem hrow hb, rfl, rfl, fun _ => rfl⟩

theorem BranchFrame.of_update {p : BranchPoint} (cond : MerchantBranch → Bool) (f : MerchantBranch → MerchantBranch)
    (hid : ∀ b, (f b).id = b.id) (haccount : ∀ b, (f b).accountId = b.accountId)
    (hlock : ∀ b, cond b = true → .branch b.id ∈ p.holds) (hs' : s'.branches = s.branches.updateWhere cond f) :
    BranchFrame p s s' := by
  intro b hb
  refine ⟨_, hs' ▸ (Table.mem_updateWhere hid).mpr ⟨b, hb, rfl⟩, ?_, ?_, fun hfree => if_neg fun hcond =>
    hfree (hlock b hcond)⟩
  · split
    · exact hid b
    · rfl
  · split
    · exact haccount b
    · rfl

theorem BranchFrame.trans {p : BranchPoint} {s'' : BranchBook} (h : BranchFrame p s s') (h' : BranchFrame p s' s'') :
    BranchFrame p s s'' := by
  intro b hb
  obtain ⟨b', hb', hid, haccount, hsame⟩ := h b hb
  obtain ⟨b'', hb'', hid', haccount', hsame'⟩ := h' b' hb'
  exact ⟨b'', hb'', hid'.trans hid, haccount'.trans haccount, fun hfree => (hsame' (hid ▸ hfree)).trans (hsame hfree)⟩

/-! ## What a step keeps -/

variable {p : BranchPoint} {now : Instant} {q : Option BranchPoint}

theorem branchFrame_next (h : p.next now s = some (s', q)) : BranchFrame p s s' := by
  cases p with
  | creating | declaring =>
    obtain ⟨rfl, rfl⟩ := Prod.mk.inj (Option.some.inj h)
    exact .of_insert fun _ => rfl
  | edited copy input =>
    obtain ⟨rfl, rfl⟩ := Prod.mk.inj (Option.some.inj h)
    refine .of_update (·.id = copy.id) (copy.rewrite (copy.edited input)) (fun _ => rfl) (fun _ => rfl) (fun b hb => ?_) rfl
    rw [of_decide_eq_true hb]
    exact List.mem_cons_self
  | set copy input cuenta at_ =>
    obtain ⟨rfl, rfl⟩ := Prod.mk.inj (Option.some.inj h)
    refine .of_update (·.id = copy.id) (copy.rewrite (copy.withStatus cuenta input at_)) (fun _ => rfl) (fun _ => rfl)
      (fun b hb => ?_) rfl
    rw [of_decide_eq_true hb]
    exact List.mem_cons_self
  | enabled accountId abiertas habilitadas at_ =>
    obtain ⟨rfl, rfl⟩ := Prod.mk.inj (Option.some.inj h)
    have hopen : BranchFrame (.enabled accountId abiertas habilitadas at_) s
        { s with branches := s.branches.updateWhere (·.id ∈ abiertas) fun b =>
          { b with status := .active, activatedAt := some at_ } } :=
      .of_update (·.id ∈ abiertas) (fun b => { b with status := .active, activatedAt := some at_ }) (fun _ => rfl) (fun _ => rfl)
        (fun b hb => by simp [BranchPoint.holds, of_decide_eq_true hb]) rfl
    refine hopen.trans (.of_update (·.id ∈ habilitadas) (fun b => { b with canOriginateBnpl := true }) (fun _ => rfl)
      (fun _ => rfl) (fun b hb => ?_) rfl)
    simp [BranchPoint.holds, of_decide_eq_true hb]
  | locked copy input =>
    simp only [BranchPoint.next] at h
    split at h <;> obtain ⟨rfl, -⟩ := Prod.mk.inj (Option.some.inj h) <;> exact .of_eq rfl
  | _ =>
    obtain ⟨rfl, rfl⟩ := Prod.mk.inj (Option.some.inj h)
    exact .of_eq rfl

/-- What the other operations rely on stays: they hold the locks of what they took. -/
theorem BranchPoint.Relies.onward {p' : BranchPoint} (h : p'.Relies s) (hframe : BranchFrame p s s')
    (hlocks : ∀ k ∈ p'.holds, k ∉ p.holds) : p'.Relies s' := by
  have hpending : ∀ accountId abiertas, TookPending s accountId abiertas → TookPending s' accountId abiertas := by
    intro accountId abiertas htook id hid
    obtain ⟨b, hb, rfl, haccount⟩ := htook id hid
    obtain ⟨b', hb', hsame, haccount', -⟩ := hframe b hb
    exact ⟨b', hb', hsame, haccount'.trans haccount⟩
  cases p' with
  | editing | edited | setting | judged | locked | set =>
    obtain ⟨b, hb, hid, haccount⟩ := h
    obtain ⟨b', hb', hid', haccount', -⟩ := hframe b hb
    exact ⟨b', hb', hid'.trans hid, haccount'.trans haccount⟩
  | opened accountId abiertas => exact hpending accountId abiertas h
  | enabled accountId abiertas habilitadas at_ =>
    refine ⟨hpending accountId abiertas h.pending, fun id hid => ?_, fun b' hb' hid hcan hblocked => ?_⟩
    · obtain ⟨b, hb, rfl, hstate⟩ := h.enabled id hid
      obtain ⟨b', hb', -, -, hsame⟩ := hframe b hb
      obtain rfl := hsame (hlocks _ (by simp [BranchPoint.holds, hid]))
      exact ⟨b', hb', rfl, hstate⟩
    · obtain ⟨b, hb, hsameId, -⟩ := h.pending b'.id hid
      obtain ⟨b'', hb'', hid'', -, hsame⟩ := hframe b hb
      obtain rfl := hsame (hlocks _ (by simp [BranchPoint.holds, hsameId, hid]))
      obtain rfl : b'' = b' := Table.eq_of_key_eq hb'' hb' hsameId
      exact h.all b'' hb hid hcan hblocked
  | _ => trivial

/-- What an operation reaches, it may rely on. -/
theorem relies_next (h : p.Relies s) (hnext : p.next now s = some (s', q)) : ∀ p' ∈ q, p'.Relies s' := by
  intro p' hp'
  cases p with
  | editing | setting | judged =>
    obtain ⟨rfl, rfl⟩ := Prod.mk.inj (Option.some.inj hnext)
    cases hp'
    exact h
  | locked copy input =>
    simp only [BranchPoint.next] at hnext
    split at hnext
    · obtain ⟨rfl, rfl⟩ := Prod.mk.inj (Option.some.inj hnext)
      cases hp'
    · obtain ⟨rfl, rfl⟩ := Prod.mk.inj (Option.some.inj hnext)
      cases hp'
      exact h
  | activating =>
    obtain ⟨rfl, rfl⟩ := Prod.mk.inj (Option.some.inj hnext)
    cases hp'
    trivial
  | approved accountId =>
    obtain ⟨rfl, rfl⟩ := Prod.mk.inj (Option.some.inj hnext)
    cases hp'
    intro id hid
    obtain ⟨b, hb, rfl⟩ := List.mem_map.mp hid
    obtain ⟨hmem, hcond⟩ := Table.mem_rowsWhere.mp hb
    exact ⟨b, hmem, rfl, (of_decide_eq_true hcond).1⟩
  | opened accountId abiertas =>
    obtain ⟨rfl, rfl⟩ := Prod.mk.inj (Option.some.inj hnext)
    cases hp'
    refine ⟨h, fun id hid => ?_, fun b hb hid hcan hblocked => ?_⟩
    · obtain ⟨b, hb, rfl⟩ := List.mem_map.mp hid
      obtain ⟨hmem, hcond⟩ := Table.mem_rowsWhere.mp hb
      obtain ⟨-, hstatus, -, hblocked⟩ := of_decide_eq_true hcond
      exact ⟨b, hmem, rfl, hblocked, hstatus⟩
    · obtain ⟨b', hb', hsame, haccount⟩ := h b.id hid
      obtain rfl : b' = b := Table.eq_of_key_eq hb' hb hsame
      exact List.mem_map.mpr ⟨b', Table.mem_rowsWhere.mpr
        ⟨hb, decide_eq_true ⟨haccount, .inr hid, hcan, hblocked⟩⟩, rfl⟩
  | _ =>
    obtain ⟨rfl, rfl⟩ := Prod.mk.inj (Option.some.inj hnext)
    cases hp'

theorem relies_start {operation : BranchOperation} (h : operation.start s = some p) : p.Relies s := by
  cases operation with
  | createBranch =>
    obtain ⟨-, h⟩ := Option.ite_none_right_eq_some.mp h
    obtain rfl := Option.some.inj h
    trivial
  | createPortalBranch | activate =>
    obtain rfl := Option.some.inj h
    trivial
  | _ =>
    obtain ⟨b, hfind, h⟩ := Option.bind_eq_some_iff.mp h
    obtain ⟨-, h⟩ := Option.ite_none_right_eq_some.mp h
    obtain rfl := Option.some.inj h
    exact ⟨b, (Table.find?_eq_some.mp hfind).1, rfl, rfl⟩

/-! ## The rule across a step -/

/-- An active branch that is not blocked may sell when its merchant is approved. -/
theorem puedeVender_active (cuenta : Option MerchantAccount) :
    sucursalPuedeVenderACredito (cuenta.map (·.lifecycleStatus)) .active false = aprobada cuenta := by
  cases cuenta <;> simp [sucursalPuedeVenderACredito, aprobada]

/-- On the row as it was read, `update` leaves the value. -/
theorem rewritten_of_eq {α : Type} [DecidableEq α] {copy value stored : α} (h : stored = copy) :
    rewritten copy value stored = value := by
  unfold rewritten
  split
  · exact h.trans (Eq.symm ‹_›)
  · rfl

/-- An update of one branch keeps the rule when what it leaves in the row does. -/
theorem BranchRule.rewrite {granted : List Nat} (h : BranchRule s) {copy values : MerchantBranch}
    (hgranted : ∀ id ∈ s.granted, id ∈ granted)
    (hrow : ∀ b ∈ s.branches, b.id = copy.id → b.accountId = copy.accountId →
      (values.canOriginateBnpl = true → values.bnplBlockedByAtlas = false ∧ (values.status = .active ∨ b.id ∈ granted)) ∧
        (s.aprobadaDe b.accountId = true → values.status = .active → values.bnplBlockedByAtlas = false →
          values.canOriginateBnpl = true))
    (hread : BranchAsRead s copy) (hcopy : HasBranch s copy) :
    BranchRule { s.rewriteBranch copy values with granted } := by
  have hcases : ∀ b' ∈ (s.rewriteBranch copy values).branches, (b' ∈ s.branches ∧ b'.id ≠ copy.id) ∨
      ∃ b ∈ s.branches, b.id = copy.id ∧ b.accountId = copy.accountId ∧ b'.id = b.id ∧ b'.accountId = b.accountId ∧
        b'.status = values.status ∧ b'.canOriginateBnpl = values.canOriginateBnpl ∧
          b'.bnplBlockedByAtlas = values.bnplBlockedByAtlas := by
    intro b' hb'
    obtain ⟨b, hb, rfl⟩ := (Table.mem_updateWhere (p := fun b => b.id = copy.id) (f := copy.rewrite values)
      fun _ => rfl).mp hb'
    by_cases hid : b.id = copy.id
    · right
      rw [if_pos (decide_eq_true hid)]
      obtain ⟨stored, hstored, hsame, haccount⟩ := hcopy
      obtain rfl : stored = b := Table.eq_of_key_eq hstored hb (hsame.trans hid.symm)
      obtain ⟨hstatus, hcan, hblocked⟩ := hread stored hb hid
      exact ⟨stored, hb, hid, haccount, rfl, rfl, rewritten_of_eq hstatus, rewritten_of_eq hcan,
        rewritten_of_eq hblocked⟩
    · left
      have hother : ¬decide (b.id = copy.id) = true := fun hdec => hid (of_decide_eq_true hdec)
      rw [if_neg hother]
      exact ⟨hb, hid⟩
  constructor
  · intro b' hb' hcan
    rcases hcases b' hb' with ⟨hb, -⟩ | ⟨b, hb, hid, haccount, -, -, -, hcan', hblocked'⟩
    · exact h.unblocked b' hb hcan
    · rw [hblocked']
      exact ((hrow b hb hid haccount).1 (hcan' ▸ hcan)).1
  · intro b' hb' hcan
    rcases hcases b' hb' with ⟨hb, -⟩ | ⟨b, hb, hid, haccount, hid', -, hstatus', hcan', -⟩
    · exact (h.active b' hb hcan).imp_right (hgranted _)
    · rw [hstatus', hid']
      exact ((hrow b hb hid haccount).1 (hcan' ▸ hcan)).2
  · intro b' hb' happroved hactive hfree
    rcases hcases b' hb' with ⟨hb, -⟩ | ⟨b, hb, hid, haccount, -, haccount', hstatus', hcan', hblocked'⟩
    · exact h.approved b' hb happroved hactive hfree
    · rw [hcan']
      exact (hrow b hb hid haccount).2 (haccount' ▸ happroved) (hstatus' ▸ hactive) (hblocked' ▸ hfree)

/-- A branch that is inserted keeps the rule when it obeys it. -/
theorem BranchRule.insert (h : BranchRule s) {row : Nat → MerchantBranch} (hrow : ∀ k, (row k).id = k)
    (hnew : ∀ k, (row k).canOriginateBnpl = true → (row k).bnplBlockedByAtlas = false ∧ (row k).status = .active)
    (happroved : ∀ k, s.aprobadaDe (row k).accountId = true → (row k).status = .active →
      (row k).canOriginateBnpl = true) : BranchRule (s.insertBranch row) := by
  constructor <;> intro b hb <;> rcases (Table.mem_create hrow).mp hb with hold | rfl
  · exact h.unblocked b hold
  · exact fun hcan => (hnew _ hcan).1
  · exact h.active b hold
  · exact fun hcan => .inl (hnew _ hcan).2
  · exact h.approved b hold
  · exact fun hcustomer hactive _ => happroved _ hcustomer hactive

theorem aprobadaDe_activated_of_ne {accountId other : Nat} {abiertas habilitadas : List Nat} {at_ : Instant}
    (h : other ≠ accountId) :
    (s.activated accountId abiertas habilitadas at_).aprobadaDe other = s.aprobadaDe other := by
  have hfind := Table.find?_updateWhere_map (t := s.accounts) (p := fun a => a.id = accountId)
    (f := fun a => { a with lifecycleStatus := .customer }) (fun _ => rfl) other
  unfold BranchDb.aprobadaDe
  rw [show (s.activated accountId abiertas habilitadas at_).accounts.find? other = _ from hfind]
  cases hstored : s.accounts.find? other with
  | none => rfl
  | some a =>
    have hother : ¬decide (a.id = accountId) = true := by
      obtain ⟨-, hid⟩ := Table.find?_eq_some.mp hstored
      exact fun hdec => h (hid.symm.trans (of_decide_eq_true hdec))
    simp only [Option.map_some, if_neg hother]

/-- An activation keeps the rule when it enables every branch that it should. -/
theorem BranchRule.activated (h : BranchRule s) {accountId : Nat} {abiertas habilitadas : List Nat} {at_ : Instant}
    (htook : TookEnabled s accountId abiertas habilitadas)
    (hall : ∀ b ∈ s.branches, b.accountId = accountId ∧ b.status = .active ∧ b.bnplBlockedByAtlas = false ∧
      b.canOriginateBnpl = false → b.id ∈ habilitadas) : BranchRule (s.activated accountId abiertas habilitadas at_) := by
  have hcases : ∀ b' ∈ (s.activated accountId abiertas habilitadas at_).branches, ∃ b ∈ s.branches,
      b'.id = b.id ∧ b'.accountId = b.accountId ∧ b'.bnplBlockedByAtlas = b.bnplBlockedByAtlas ∧
        b'.status = (if b.id ∈ abiertas then .active else b.status) ∧
        b'.canOriginateBnpl = (if b.id ∈ habilitadas then true else b.canOriginateBnpl) := by
    intro b' hb'
    obtain ⟨b₁, hb₁, rfl⟩ := (Table.mem_updateWhere (p := fun b : MerchantBranch => b.id ∈ habilitadas)
      (f := fun b => { b with canOriginateBnpl := true }) fun _ => rfl).mp hb'
    obtain ⟨b, hb, rfl⟩ := (Table.mem_updateWhere (p := fun b : MerchantBranch => b.id ∈ abiertas)
      (f := fun b => { b with status := .active, activatedAt := some at_ }) fun _ => rfl).mp hb₁
    refine ⟨b, hb, ?_⟩
    by_cases hopen : b.id ∈ abiertas <;> by_cases henable : b.id ∈ habilitadas <;> simp [hopen, henable]
  have henabled : ∀ b ∈ s.branches, b.id ∈ habilitadas →
      b.bnplBlockedByAtlas = false ∧ (b.status = .active ∨ b.id ∈ abiertas) := by
    intro b hb hid
    obtain ⟨b', hb', hsame, hstate⟩ := htook.enabled b.id hid
    obtain rfl : b' = b := Table.eq_of_key_eq hb' hb hsame
    exact hstate
  constructor
  · intro b' hb' hcan
    obtain ⟨b, hb, -, -, hblocked, -, hflag⟩ := hcases b' hb'
    rw [hblocked]
    by_cases henable : b.id ∈ habilitadas
    · exact (henabled b hb henable).1
    · rw [hflag, if_neg henable] at hcan
      exact h.unblocked b hb hcan
  · intro b' hb' hcan
    obtain ⟨b, hb, hid, -, -, hstatus, hflag⟩ := hcases b' hb'
    rw [hstatus, hid]
    by_cases hopen : b.id ∈ abiertas
    · exact .inl (if_pos hopen)
    · rw [if_neg hopen]
      by_cases henable : b.id ∈ habilitadas
      · exact .inl ((henabled b hb henable).2.resolve_right hopen)
      · rw [hflag, if_neg henable] at hcan
        exact h.active b hb hcan
  · intro b' hb' happroved hactive hfree
    obtain ⟨b, hb, -, haccount, hblocked, hstatus, hflag⟩ := hcases b' hb'
    rw [hflag]
    by_cases henable : b.id ∈ habilitadas
    · exact if_pos henable
    · rw [if_neg henable]
      rw [hblocked] at hfree
      by_cases hopen : b.id ∈ abiertas
      · -- a branch that was opened and not enabled had the flag
        by_contra hcan
        exact henable (htook.all b hb hopen (Bool.not_eq_true _ ▸ hcan) hfree)
      · rw [hstatus, if_neg hopen] at hactive
        by_cases howner : b.accountId = accountId
        · by_contra hcan
          exact henable (hall b hb ⟨howner, hactive, hfree, Bool.not_eq_true _ ▸ hcan⟩)
        · refine h.approved b hb ?_ hactive hfree
          rwa [haccount, aprobadaDe_activated_of_ne howner] at happroved

/-- **A step keeps the rule** when its write finds what it should. -/
theorem branchRule_next (h : BranchRule s) (hp : p.Relies s) (hok : p.Finds s) (hnext : p.next now s = some (s', q)) :
    BranchRule s' := by
  cases p with
  | creating input =>
    obtain ⟨rfl, rfl⟩ := Prod.mk.inj (Option.some.inj hnext)
    exact h.insert (fun _ => rfl) (fun _ hcan => by cases hcan) fun _ _ hactive => by cases hactive
  | declaring input cuenta =>
    obtain ⟨rfl, rfl⟩ := Prod.mk.inj (Option.some.inj hnext)
    refine h.insert (fun _ => rfl) (fun _ _ => ⟨rfl, rfl⟩) fun k happroved _ => ?_
    exact (puedeVender_active cuenta).trans (hok.symm.trans happroved)
  | edited copy input =>
    obtain ⟨rfl, rfl⟩ := Prod.mk.inj (Option.some.inj hnext)
    refine h.rewrite (fun id hid => ?_) (fun b hb hid haccount => ?_) hok hp
    · split
      · exact List.mem_cons_of_mem _ hid
      · exact hid
    · obtain ⟨hstatus, hcan, hblocked⟩ := hok b hb hid
      have hfree := h.unblocked b hb
      have hactive := h.active b hb
      have happroved := h.approved b hb
      rw [hstatus, hcan, hblocked] at happroved
      rw [hcan, hblocked] at hfree
      rw [hcan, hstatus] at hactive
      cases hflag : input.canOriginateBnpl with
      | none =>
        simp only [MerchantBranch.edited, hflag, Option.getD_none, Option.map_none, reduceCtorEq, if_false]
        exact ⟨fun hcan' => ⟨hfree hcan', hactive hcan'⟩, happroved⟩
      | some flag =>
        cases flag with
        | false => simp [MerchantBranch.edited, hflag]
        | true => simp [MerchantBranch.edited, hflag, hid]
  | set copy input cuenta at_ =>
    obtain ⟨rfl, rfl⟩ := Prod.mk.inj (Option.some.inj hnext)
    refine h.rewrite (fun _ hid => hid) (fun b hb hid haccount => ?_) hok.1 hp
    rw [haccount]
    cases input with
    | inactive => simp [MerchantBranch.withStatus, SetBranchStatusDto.status]
    | active =>
      have happroved : s.aprobadaDe copy.accountId = aprobada cuenta := hok.2 rfl
      rw [happroved]
      cases hblocked : copy.bnplBlockedByAtlas with
      | true => simp [MerchantBranch.withStatus, SetBranchStatusDto.status, hblocked]
      | false =>
        have hrule := puedeVender_active cuenta
        simp only [MerchantBranch.withStatus, SetBranchStatusDto.status, hblocked, hrule, decide_true, Bool.true_and,
          Bool.not_false, Bool.or_eq_true, true_or, and_self, implies_true, true_and]
        exact fun happroved' _ _ => .inr happroved'
  | enabled accountId abiertas habilitadas at_ =>
    obtain ⟨rfl, rfl⟩ := Prod.mk.inj (Option.some.inj hnext)
    exact h.activated hp hok
  | locked copy input =>
    simp only [BranchPoint.next] at hnext
    split at hnext <;> obtain ⟨rfl, -⟩ := Prod.mk.inj (Option.some.inj hnext) <;> exact h
  | _ =>
    obtain ⟨rfl, rfl⟩ := Prod.mk.inj (Option.some.inj hnext)
    exact h

end Rule

/-! ## Runs -/

section Runs

theorem branch_promises : branchWorkers.Promises branchWorkers.Exclusive FindsBranches BranchRule BranchPoint.Relies where
  start _ _ hstart := relies_start hstart
  next _ hS hfind hok hnext :=
    ⟨branchRule_next hS.store (hS.at hfind) (hok _ hfind) hnext, relies_next (hS.at hfind) hnext⟩
  stable hG hS hfind _ hnext x hx := by
    obtain ⟨hactive, hne⟩ := Sessions.mem_others.mp hx
    exact (hS.worker x hactive).onward (branchFrame_next hnext) (hG x hactive _ (Sessions.mem_of_find? hfind) hne)
  outside {_ event _} := event.elim

/-- **The rule of branch credit**: in every run where each write finds the branch and the approval of the merchant as
they were read, and an activation finds no branch that it should have enabled and did not take, a branch with the flag
is not blocked, and is active unless staff gave it the flag; and the active branches of an approved merchant that are
not blocked have it. -/
theorem branchRule {S : BranchState} (h : branchSessions.Reachable FindsBranches S) : BranchRule S.committed := by
  refine (Workers.keeps branch_promises (fun s hs => ?_) (fun _ => Workers.exclusive) h).store
  constructor <;> intro b hb <;> rw [hs.1] at hb <;> exact absurd hb (Table.not_mem_empty b)

/-- A merchant before its approval, without branches. -/
def prospect : BranchState := ⟨⟨⟨⟨[⟨1, .qualified⟩], List.nodup_singleton _⟩, .empty⟩, []⟩, []⟩

theorem prospect_init : branchSessions.init prospect := ⟨⟨rfl, rfl⟩, rfl⟩

/-- The next statements of an operation. -/
def branchSteps (w n : Nat) : List BranchAct := List.replicate n (.go w 0)

/-- A branch of the CRM and one of the portal, the approval of the merchant, and the block of one of them. -/
def approval : List BranchAct :=
  .start 0 (.createBranch none ⟨1, "Sucursal Centro", "La Paz", none⟩) :: branchSteps 0 1 ++
    .start 0 (.createPortalBranch ⟨1, "Sucursal Sur", none, none⟩) :: branchSteps 0 1 ++
    .start 0 (.activate 1) :: branchSteps 0 4 ++
    .start 0 (.updateBranch none 1 ⟨none, none, none, some false, .inr (.inr (.inr rfl))⟩) :: branchSteps 0 2

theorem branchRule_of_approval :
    let s := (branchSessions.afterIf FindsBranches prospect approval).committed
    (s.branches.rowsWhere fun b => b.status = .active ∧ s.aprobadaDe b.accountId).length = 2 ∧ BranchRule s :=
  ⟨by decide, branchRule (branchSessions.reachable_afterIf FindsBranches prospect_init approval)⟩

/-- Staff grants credit to a branch that is pending; and a branch that the portal creates while its merchant is
activated is active, not blocked, and without the flag. -/
theorem branchRule_counterexample :
    (∃ S, branchSessions.Reachable (fun _ _ => True) S ∧
      ∃ b ∈ S.committed.branches, b.canOriginateBnpl = true ∧ b.status ≠ .active) ∧
    ∃ S, branchSessions.Reachable (fun _ _ => True) S ∧ ∃ b ∈ S.committed.branches,
      S.committed.aprobadaDe b.accountId = true ∧ b.status = .active ∧ b.bnplBlockedByAtlas = false ∧
        b.canOriginateBnpl = false :=
  ⟨⟨branchSessions.after prospect (.start 0 (.createBranch none ⟨1, "Sucursal Centro", "La Paz", none⟩) ::
      branchSteps 0 1 ++ .start 0 (.updateBranch none 1 ⟨none, none, none, some true, .inr (.inr (.inr rfl))⟩) ::
      branchSteps 0 2), branchSessions.reachable_after prospect_init _, by decide⟩,
    ⟨branchSessions.after prospect (.start 0 (.createPortalBranch ⟨1, "Sucursal Sur", none, none⟩) ::
      .start 1 (.activate 1) :: branchSteps 1 4 ++ branchSteps 0 1),
      branchSessions.reachable_after prospect_init _, by decide⟩⟩

end Runs

end AtlasErp
