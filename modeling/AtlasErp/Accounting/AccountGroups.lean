import AtlasErp.Accounting.Documents
import AtlasErp.Lib.Forest
import AtlasErp.Lib.Runs
import Mathlib.Data.List.Sort

/-! # The tree of account groups

The groups of a chart of accounts, each under its parent, as the balance sheet shows them.

- `createGroup`, `updateGroup`: a group and its parent belong to one chart, and no group is its own parent;
- `tree`: the nodes are linked group by group, and a group whose parent is not there is a root;
- `LosesNothing`: the walk from the roots finds every group once, under its parent;
- `losesNothing_of_reachable`: it does until a group is put below one of its descendants. -/

namespace AtlasErp

open Lib

/-! ## Groups -/

inductive StatementType where
  | balanceSheet
  | incomeStatement
  | cashFlow
  | equityChanges
  | memorandum
  deriving DecidableEq

inductive AccountClassification where
  | asset
  | liability
  | equity
  | revenue
  | expense
  deriving DecidableEq

inductive AccountSubClassification where
  | current
  | nonCurrent
  | capital
  | reserves
  | results
  | oci
  | operating
  | nonOperating
  | costOfService
  | financial
  | depreciation
  | creditLoss
  | tax
  deriving DecidableEq

inductive RecordStatus where
  | active
  | inactive
  | archived
  deriving DecidableEq

/-- `gl_account_group`. -/
structure GlAccountGroup where
  id : Nat
  coaId : Nat
  parentGroupId : Option Nat
  code : String
  name : String
  statementType : StatementType
  classification : AccountClassification
  subClassification : Option AccountSubClassification
  sortOrder : Nat
  status : RecordStatus
  deriving DecidableEq

instance : HasKey GlAccountGroup := ⟨(·.id), fun k r => { r with id := k }, fun _ _ => rfl, fun _ => rfl⟩

/-- The charts of accounts and their groups. -/
structure GroupDb where
  charts : List Nat
  groups : Table GlAccountGroup

structure CreateGlAccountGroupDto where
  coaId : Nat
  parentGroupId : Option Nat
  code : String
  name : String
  statementType : StatementType
  classification : AccountClassification
  subClassification : Option AccountSubClassification
  sortOrder : Nat
  deriving DecidableEq

/-- A field that is not sent stays; one that may be empty is sent as `null`. -/
structure UpdateGlAccountGroupDto where
  parentGroupId : Option (Option Nat)
  name : Option String
  statementType : Option StatementType
  classification : Option AccountClassification
  subClassification : Option (Option AccountSubClassification)
  sortOrder : Option Nat
  status : Option RecordStatus
  deriving DecidableEq

section Groups

variable (db : GroupDb)

def getGroup (id : Nat) : Except HttpError GlAccountGroup :=
  orFail (db.groups.find? id) (missing "ACCOUNT_GROUP_NOT_FOUND" "El grupo de cuenta informado no existe.")

/-- The parent, when there is one, is of the same chart. -/
def assertParentInChart (coaId : Nat) : Option Nat → Except HttpError Unit
  | none => return ()
  | some parentGroupId => do
    let parent ← getGroup db parentGroupId
    failIf (parent.coaId ≠ coaId)
      (invalidRequest "ACCOUNT_GROUP_PARENT_COA_MISMATCH" "El grupo padre pertenece a otro plan de cuentas.")

def newGroup (input : CreateGlAccountGroupDto) (id : Nat) : GlAccountGroup where
  id
  coaId := input.coaId
  parentGroupId := input.parentGroupId
  code := input.code
  name := input.name
  statementType := input.statementType
  classification := input.classification
  subClassification := input.subClassification
  sortOrder := input.sortOrder
  status := .active

def createGroup (input : CreateGlAccountGroupDto) : Except HttpError (GlAccountGroup × GroupDb) := do
  assertParentInChart db input.coaId input.parentGroupId
  failIf (input.coaId ∉ db.charts) (raised "gl_account_group_coa_id_fkey")
  failIf (db.groups.findBy fun group => group.coaId = input.coaId ∧ group.code = input.code).isSome
    (raised "gl_account_group_coa_id_code_key")
  return (newGroup input db.groups.nextKey, { db with groups := db.groups.create (newGroup input) })

/-- The group with the fields that were sent. -/
def UpdateGlAccountGroupDto.on (input : UpdateGlAccountGroupDto) (group : GlAccountGroup) : GlAccountGroup :=
  { group with
    parentGroupId := input.parentGroupId.getD group.parentGroupId
    name := input.name.getD group.name
    statementType := input.statementType.getD group.statementType
    classification := input.classification.getD group.classification
    subClassification := input.subClassification.getD group.subClassification
    sortOrder := input.sortOrder.getD group.sortOrder
    status := input.status.getD group.status }

def updateGroup (id : Nat) (input : UpdateGlAccountGroupDto) : Except HttpError (GlAccountGroup × GroupDb) := do
  let group ← getGroup db id
  failIf (input.parentGroupId.join = some id)
    (invalidRequest "ACCOUNT_GROUP_SELF_PARENT" "Un grupo no puede ser su propio padre.")
  assertParentInChart db group.coaId input.parentGroupId.join
  return (input.on group, { db with groups := db.groups.put (input.on group) })

end Groups

/-! ## The tree -/

/-- A node of the tree, with its children as references. -/
structure GroupTreeNode where
  id : Nat
  code : String
  name : String
  statementType : StatementType
  classification : AccountClassification
  subClassification : Option AccountSubClassification
  sortOrder : Nat
  status : RecordStatus
  children : List Nat
  deriving DecidableEq

/-- The nodes by their identifier, and the roots that are returned. -/
structure GroupTree where
  byId : List GroupTreeNode
  roots : List Nat
  deriving DecidableEq

def GlAccountGroup.node (group : GlAccountGroup) : GroupTreeNode where
  id := group.id
  code := group.code
  name := group.name
  statementType := group.statementType
  classification := group.classification
  subClassification := group.subClassification
  sortOrder := group.sortOrder
  status := group.status
  children := []

namespace GroupTree

/-- `parent.children.push(node)`. -/
def push (t : GroupTree) (parent child : Nat) : GroupTree :=
  { t with byId := t.byId.map fun node =>
      if node.id = parent then { node with children := node.children ++ [child] } else node }

/-- A group goes under its parent, or among the roots when its parent is not there. -/
def attach (t : GroupTree) (group : GlAccountGroup) : GroupTree :=
  match group.parentGroupId.filter fun parent => t.byId.any (·.id = parent) with
  | some parent => t.push parent group.id
  | none => { t with roots := t.roots ++ [group.id] }

/-- The children of a node. -/
def children (t : GroupTree) (id : Nat) : List Nat :=
  ((t.byId.find? (·.id = id)).map (·.children)).getD []

end GroupTree

/-- The groups of a chart, or of all charts, in the order of the tree. -/
def GroupDb.chart (db : GroupDb) (coaId : Option Nat) : List GlAccountGroup :=
  (db.groups.rowsWhere fun group => coaId.all (group.coaId = ·)).insertionSort fun a b =>
    a.sortOrder < b.sortOrder ∨ a.sortOrder = b.sortOrder ∧ a.code ≤ b.code

def tree (db : GroupDb) (coaId : Option Nat) : GroupTree :=
  (db.chart coaId).foldl GroupTree.attach ⟨(db.chart coaId).map GlAccountGroup.node, []⟩

/-- The parent of a group. -/
def GroupDb.parentOf (db : GroupDb) (id : Nat) : Option Nat := (db.groups.find? id).bind (·.parentGroupId)

/-- **The walk from the roots** ends and finds every group of the chart once, under its parent. -/
def LosesNothing (db : GroupDb) (coaId : Option Nat) : Prop :=
  ∃ visits bound,
    (∀ fuel, bound ≤ fuel → walkAll (tree db coaId).children fuel (tree db coaId).roots = some visits) ∧
    (visits.map (·.2)).Perm ((db.chart coaId).map (·.id)) ∧ ∀ v ∈ visits, db.parentOf v.2 = v.1

/-! ## What the tree links -/

section Links

variable {t : GroupTree} {g : GlAccountGroup} {gs : List GlAccountGroup} {ids : List Nat} {p : Nat}

theorem push_ids (parent child : Nat) : (t.push parent child).byId.map (·.id) = t.byId.map (·.id) := by
  rw [GroupTree.push, List.map_map]
  refine List.map_congr_left fun node _ => ?_
  rw [Function.comp_apply]
  split <;> rfl

/-- A node is pushed to the children of its parent and to no others. -/
theorem children_push (parent child : Nat) (hp : p ∈ t.byId.map (·.id)) :
    (t.push parent child).children p = t.children p ++ if parent = p then [child] else [] := by
  obtain ⟨node, hnode⟩ : ∃ node, t.byId.find? (·.id = p) = some node := by
    obtain ⟨node, hmem, rfl⟩ := List.mem_map.mp hp
    exact Option.isSome_iff_exists.mp (List.find?_isSome.mpr ⟨node, hmem, decide_eq_true rfl⟩)
  have hid : node.id = p := by simpa using List.find?_some hnode
  have hfind : (t.push parent child).byId.find? (·.id = p) = (t.byId.find? (·.id = p)).map fun node =>
      if node.id = parent then { node with children := node.children ++ [child] } else node := by
    rw [GroupTree.push, List.find?_map]
    congr 2
    funext node
    rw [Function.comp_apply]
    split <;> rfl
  rw [GroupTree.children, hfind, GroupTree.children, hnode]
  simp only [Option.map_some, Option.getD_some, hid, eq_comm]
  split <;> simp

/-- The links of a list of groups whose parents are among the nodes. -/
theorem foldl_attach (hids : t.byId.map (·.id) = ids) (hclosed : ∀ g ∈ gs, ∀ p, g.parentGroupId = some p → p ∈ ids) :
    (gs.foldl GroupTree.attach t).roots = t.roots ++ (gs.filter (·.parentGroupId = none)).map (·.id) ∧
      ∀ p ∈ ids, (gs.foldl GroupTree.attach t).children p =
        t.children p ++ (gs.filter (·.parentGroupId = some p)).map (·.id) := by
  induction gs generalizing t with
  | nil => simp
  | cons g gs ih =>
    have hrest := fun g' hg' => hclosed g' (List.mem_cons_of_mem g hg')
    rw [List.foldl_cons]
    cases hparent : g.parentGroupId with
    | none =>
      have hattach : t.attach g = { t with roots := t.roots ++ [g.id] } := by rw [GroupTree.attach, hparent]; rfl
      obtain ⟨hroots, hchildren⟩ := ih (t := t.attach g) (by rw [hattach]; exact hids) hrest
      refine ⟨?_, fun p hp => ?_⟩
      · rw [hroots, hattach]
        simp [hparent]
      · rw [hchildren p hp, hattach]
        simp [hparent, GroupTree.children]
    | some q =>
      have hq : q ∈ ids := hclosed g List.mem_cons_self q hparent
      have hattach : t.attach g = t.push q g.id := by
        have hany : t.byId.any (·.id = q) = true := by
          rw [← hids] at hq
          obtain ⟨node, hmem, hid⟩ := List.mem_map.mp hq
          exact List.any_eq_true.mpr ⟨node, hmem, decide_eq_true hid⟩
        rw [GroupTree.attach, hparent, Option.filter_some, if_pos hany]
      obtain ⟨hroots, hchildren⟩ := ih (t := t.attach g) (by rw [hattach, push_ids]; exact hids) hrest
      refine ⟨?_, fun p hp => ?_⟩
      · rw [hroots, hattach]
        simp [hparent, GroupTree.push]
      · rw [hchildren p hp, hattach, children_push q g.id (hids ▸ hp)]
        by_cases hqp : q = p <;> simp [hparent, hqp]

end Links

section Tree

variable {db db' : GroupDb} {coaId : Option Nat} {g : GlAccountGroup}

/-- The parent of a group is of its chart. -/
def ParentsInChart (db : GroupDb) : Prop :=
  ∀ g ∈ db.groups, ∀ p, g.parentGroupId = some p → ∃ parent ∈ db.groups, parent.id = p ∧ parent.coaId = g.coaId

theorem parentOf_of_mem (hg : g ∈ db.groups) : db.parentOf g.id = g.parentGroupId := by
  have hfind : db.groups.find? g.id = some g := Table.find?_key hg
  rw [GroupDb.parentOf, hfind, Option.bind_some]

theorem mem_chart : g ∈ db.chart coaId ↔ g ∈ db.groups ∧ ∀ c ∈ coaId, g.coaId = c := by
  rw [GroupDb.chart, List.mem_insertionSort, Table.mem_rowsWhere, Option.all_eq_true]
  simp only [decide_eq_true_iff, Option.mem_def]

theorem nodup_chart (db : GroupDb) (coaId : Option Nat) : ((db.chart coaId).map (·.id)).Nodup :=
  ((List.perm_insertionSort _ _).map _).nodup_iff.mpr (db.groups.nodup.sublist (List.filter_sublist.map _))

/-- Filtering the groups of a chart by their parent. -/
theorem map_filter_chart (up : Option Nat) :
    ((db.chart coaId).filter (·.parentGroupId = up)).map (·.id) =
      ((db.chart coaId).map (·.id)).filter (db.parentOf · = up) := by
  rw [List.filter_map]
  refine congrArg (List.map _) (List.filter_congr fun g hg => ?_)
  rw [Function.comp_apply, parentOf_of_mem (mem_chart.mp hg).1]

/-- **The nodes of the tree are linked as the groups are.** -/
theorem isForest_tree (h : ParentsInChart db) (coaId : Option Nat) :
    IsForest db.parentOf ((db.chart coaId).map (·.id)) (tree db coaId).children (tree db coaId).roots := by
  have hclosed : ∀ g ∈ db.chart coaId, ∀ p, g.parentGroupId = some p → p ∈ (db.chart coaId).map (·.id) := by
    intro g hg p hp
    obtain ⟨hmem, hchart⟩ := mem_chart.mp hg
    obtain ⟨parent, hparent, rfl, hcoa⟩ := h g hmem p hp
    exact List.mem_map_of_mem (mem_chart.mpr ⟨hparent, fun c hc => hcoa.trans (hchart c hc)⟩)
  have hids : ((db.chart coaId).map GlAccountGroup.node).map (·.id) = (db.chart coaId).map (·.id) := by
    rw [List.map_map]
    rfl
  obtain ⟨hroots, hchildren⟩ := foldl_attach (t := ⟨(db.chart coaId).map GlAccountGroup.node, []⟩) hids hclosed
  refine ⟨nodup_chart db coaId, fun i hi p hp => ?_, fun p hp => ?_, ?_⟩
  · obtain ⟨g, hg, rfl⟩ := List.mem_map.mp hi
    exact hclosed g hg p ((parentOf_of_mem (mem_chart.mp hg).1).symm.trans hp)
  · have hempty : GroupTree.children ⟨(db.chart coaId).map GlAccountGroup.node, []⟩ p = [] := by
      rw [GroupTree.children, List.find?_map]
      cases (db.chart coaId).find? _ <;> rfl
    rw [tree, hchildren p hp, hempty, List.nil_append, map_filter_chart]
  · rw [tree, hroots, List.nil_append, map_filter_chart]

/-- The tree of a chart loses nothing exactly when the parents of each of its groups end. -/
theorem losesNothing_iff (h : ParentsInChart db) :
    LosesNothing db coaId ↔ ∀ g ∈ db.chart coaId, Rooted db.parentOf g.id := by
  refine (isForest_tree h coaId).walkAll_iff.trans ?_
  rw [List.forall_mem_map]

/-- And so for all charts at once. -/
theorem losesNothing_all_iff (h : ParentsInChart db) :
    (∀ coaId, LosesNothing db coaId) ↔ ∀ g ∈ db.groups, Rooted db.parentOf g.id := by
  constructor
  · exact fun hall g hg => (losesNothing_iff h).mp (hall none) g (mem_chart.mpr ⟨hg, nofun⟩)
  · exact fun hrooted coaId => (losesNothing_iff h).mpr fun g hg => hrooted g (mem_chart.mp hg).1

end Tree

/-! ## Calls -/

/-- A call of the service. -/
inductive GroupCall where
  | createGroup (input : CreateGlAccountGroupDto)
  | updateGroup (id : Nat) (input : UpdateGlAccountGroupDto)
  deriving DecidableEq

def GroupCall.run (db : GroupDb) : GroupCall → Except HttpError (GlAccountGroup × GroupDb)
  | .createGroup input => AtlasErp.createGroup db input
  | .updateGroup id input => AtlasErp.updateGroup db id input

/-- Calls that succeed, one after another. -/
def groupMachine : Machine GroupDb GroupCall where
  init db := ParentsInChart db ∧ ∀ coaId, LosesNothing db coaId
  step db call := ((call.run db).toOption).map (·.2)

/-- A group is not put below itself: its new parent is not one of its descendants. -/
def NotBelowItself (db : GroupDb) : GroupCall → Prop
  | .createGroup _ => True
  | .updateGroup id input => ∀ p, input.parentGroupId = some (some p) → ¬ Above db.parentOf p id

section Calls

variable {db db' : GroupDb} {call : GroupCall}

/-- **What a call does**: one group is new, or changes, with a parent of its chart; the others are as they were. -/
structure GroupWrite (db : GroupDb) (call : GroupCall) (db' : GroupDb) (group : GlAccountGroup) : Prop where
  mem : ∀ g, g ∈ db'.groups ↔ g = group ∨ g ∈ db.groups ∧ g.id ≠ group.id
  parent : ∀ p, group.parentGroupId = some p → ∃ parent ∈ db.groups, parent.id = p ∧ parent.coaId = group.coaId
  /-- A group that changes keeps its chart. -/
  chart : ∀ g ∈ db.groups, g.id = group.id → g.coaId = group.coaId
  /-- What is sent of the parent is what is written; otherwise the parent is what it was. -/
  sent : (∃ input, call = .createGroup input ∧ ∀ g ∈ db.groups, g.id ≠ group.id) ∨
    ∃ input old, call = .updateGroup group.id input ∧ old ∈ db.groups ∧ old.id = group.id ∧
      group.parentGroupId = input.parentGroupId.getD old.parentGroupId

theorem assertParentInChart_eq_ok {coaId : Nat} {parentGroupId : Option Nat} {u : Unit}
    (h : assertParentInChart db coaId parentGroupId = .ok u) :
    ∀ p, parentGroupId = some p → ∃ parent ∈ db.groups, parent.id = p ∧ parent.coaId = coaId := by
  rintro p rfl
  obtain ⟨parent, hparent, h⟩ := bind_eq_ok.mp h
  obtain ⟨hmem, hid⟩ := Table.find?_eq_some.mp (orFail_eq_ok.mp hparent)
  exact ⟨parent, hmem, hid, not_not.mp (failIf_eq_ok.mp h)⟩

theorem groupWrite_of_step (h : ParentsInChart db) (hstep : groupMachine.step db call = some db') :
    ∃ group, GroupWrite db call db' group := by
  obtain ⟨⟨group, db₁⟩, hrun, rfl⟩ := Option.map_eq_some_iff.mp hstep
  refine ⟨group, ?_⟩
  cases call with
  | createGroup input =>
    have hok : createGroup db input = .ok (group, db₁) := toOption_eq_some.mp hrun
    obtain ⟨_, hparent, hok⟩ := bind_eq_ok.mp hok
    obtain ⟨-, hok⟩ := failIf_bind_eq_ok.mp hok
    obtain ⟨-, hok⟩ := failIf_bind_eq_ok.mp hok
    obtain ⟨rfl, rfl⟩ := Prod.mk.inj (pure_eq_ok.mp hok)
    have hfresh : ∀ g ∈ db.groups, g.id ≠ db.groups.nextKey := fun g hg => Nat.ne_of_lt (Table.key_lt_nextKey hg)
    refine ⟨fun g => ?_, assertParentInChart_eq_ok hparent, fun g hg hid => absurd hid (hfresh g hg),
      .inl ⟨input, rfl, hfresh⟩⟩
    refine (Table.mem_create fun _ => rfl).trans ?_
    rw [or_comm]
    exact or_congr_right ⟨fun hg => ⟨hg, hfresh g hg⟩, And.left⟩
  | updateGroup id input =>
    have hok : updateGroup db id input = .ok (group, db₁) := toOption_eq_some.mp hrun
    obtain ⟨old, hold, hok⟩ := bind_eq_ok.mp hok
    obtain ⟨-, hok⟩ := failIf_bind_eq_ok.mp hok
    obtain ⟨_, hparent, hok⟩ := bind_eq_ok.mp hok
    obtain ⟨rfl, rfl⟩ := Prod.mk.inj (pure_eq_ok.mp hok)
    obtain ⟨hmem, rfl⟩ := Table.find?_eq_some.mp (orFail_eq_ok.mp hold)
    refine ⟨fun g => Table.mem_put (r := input.on old) hmem rfl, fun p hp => ?_, fun g hg hid => ?_, .inr ⟨input, old, rfl, hmem, rfl, rfl⟩⟩
    · cases hsent : input.parentGroupId with
      | none =>
        refine h old hmem p ?_
        simpa only [UpdateGlAccountGroupDto.on, hsent, Option.getD_none] using hp
      | some sent =>
        refine assertParentInChart_eq_ok hparent p ?_
        simpa only [UpdateGlAccountGroupDto.on, hsent, Option.getD_some, Option.join_some] using hp
    · rw [Table.eq_of_key_eq hg hmem hid]
      rfl

variable {group : GlAccountGroup}

theorem GroupWrite.parentOf_self (h : GroupWrite db call db' group) : db'.parentOf group.id = group.parentGroupId :=
  parentOf_of_mem ((h.mem group).mpr (.inl rfl))

theorem GroupWrite.parentOf_ne (h : GroupWrite db call db' group) (j : Nat) (hj : j ≠ group.id) :
    db'.parentOf j = db.parentOf j := by
  have hfind : db'.groups.find? j = db.groups.find? j := by
    cases hfind : db.groups.find? j with
    | some g =>
      obtain ⟨hmem, rfl⟩ := Table.find?_eq_some.mp hfind
      exact Table.find?_key ((h.mem g).mpr (.inr ⟨hmem, hj⟩))
    | none =>
      refine Table.find?_eq_none.mpr fun g hg hid => ?_
      rcases (h.mem g).mp hg with rfl | ⟨hold, -⟩
      · exact hj hid.symm
      · exact Table.find?_eq_none.mp hfind g hold hid
  rw [GroupDb.parentOf, hfind, GroupDb.parentOf]

theorem GroupWrite.parentsInChart (h : GroupWrite db call db' group) (hparents : ParentsInChart db) :
    ParentsInChart db' := by
  have hnow : ∀ parent ∈ db.groups, ∃ now ∈ db'.groups, now.id = parent.id ∧ now.coaId = parent.coaId := by
    intro parent hparent
    by_cases hid : parent.id = group.id
    · exact ⟨group, (h.mem group).mpr (.inl rfl), hid.symm, (h.chart parent hparent hid).symm⟩
    · exact ⟨parent, (h.mem parent).mpr (.inr ⟨hparent, hid⟩), rfl, rfl⟩
  intro g hg p hp
  obtain ⟨parent, hparent, hid, hcoa⟩ : ∃ parent ∈ db.groups, parent.id = p ∧ parent.coaId = g.coaId := by
    rcases (h.mem g).mp hg with rfl | ⟨hold, -⟩
    · exact h.parent p hp
    · exact hparents g hold p hp
  obtain ⟨now, hmem, hnow', hcoa'⟩ := hnow parent hparent
  exact ⟨now, hmem, hnow'.trans hid, hcoa'.trans hcoa⟩

/-- What is above a group is a group. -/
theorem exists_of_above (hparents : ParentsInChart db) {i j : Nat} (hi : ∃ g ∈ db.groups, g.id = i)
    (h : Above db.parentOf i j) : ∃ g ∈ db.groups, g.id = j := by
  induction h with
  | refl => exact hi
  | tail _ hup ih =>
    obtain ⟨g, hg, rfl⟩ := ih
    obtain ⟨parent, hparent, hid, -⟩ := hparents g hg _ ((parentOf_of_mem hg).symm.trans hup)
    exact ⟨parent, hparent, hid⟩

/-- **The parent that a call writes** is not below the group, when the one that is sent is not. -/
theorem GroupWrite.not_above (h : GroupWrite db call db' group) (hparents : ParentsInChart db)
    (hrooted : ∀ g ∈ db.groups, Rooted db.parentOf g.id) (hok : NotBelowItself db call) :
    ∀ p, group.parentGroupId = some p → ¬ Above db.parentOf p group.id := by
  intro p hp habove
  obtain ⟨parent, hparent, hid, -⟩ := h.parent p hp
  obtain ⟨g, hg, hgid⟩ := exists_of_above hparents ⟨parent, hparent, hid⟩ habove
  rcases h.sent with ⟨-, -, hfresh⟩ | ⟨input, old, rfl, hold, holdid, hsent⟩
  · exact hfresh g hg hgid
  · cases hinput : input.parentGroupId with
    | some sent =>
      rw [hinput, Option.getD_some, hp] at hsent
      exact hok p (hinput.trans (congrArg some hsent.symm)) habove
    | none =>
      rw [hinput, Option.getD_none, hp] at hsent
      have hup : db.parentOf group.id = some p := holdid ▸ (parentOf_of_mem hold).trans hsent.symm
      exact not_rooted_of_reparent hup habove (fun _ _ => rfl) (holdid ▸ hrooted old hold)

theorem GroupWrite.rooted (h : GroupWrite db call db' group) (hrooted : ∀ g ∈ db.groups, Rooted db.parentOf g.id)
    (hnot : ∀ p, group.parentGroupId = some p → ¬ Above db.parentOf p group.id) :
    ∀ g ∈ db'.groups, Rooted db'.parentOf g.id := by
  have htarget : Rooted db'.parentOf group.id := by
    cases hparent : group.parentGroupId with
    | none => exact ⟨0, .root (h.parentOf_self.trans hparent)⟩
    | some p =>
      obtain ⟨parent, hmem, rfl, -⟩ := h.parent p hparent
      obtain ⟨n, hn⟩ := hrooted parent hmem
      exact (hn.reparent (hnot _ hparent) h.parentOf_ne).child (h.parentOf_self.trans hparent)
  intro g hg
  rcases (h.mem g).mp hg with rfl | ⟨hold, -⟩
  · exact htarget
  · exact rooted_of_reparent htarget (hrooted g hold) h.parentOf_ne

/-- **A call keeps the trees whole exactly when it puts no group below itself.** -/
theorem losesNothing_step_iff (hparents : ParentsInChart db) (hall : ∀ coaId, LosesNothing db coaId)
    (hstep : groupMachine.step db call = some db') :
    (∀ coaId, LosesNothing db' coaId) ↔ NotBelowItself db call := by
  obtain ⟨group, h⟩ := groupWrite_of_step hparents hstep
  have hrooted := (losesNothing_all_iff hparents).mp hall
  rw [losesNothing_all_iff (h.parentsInChart hparents)]
  constructor
  · intro hrooted'
    rcases h.sent with ⟨input, rfl, -⟩ | ⟨input, old, rfl, -, -, hsent⟩
    · trivial
    · intro p hp habove
      rw [hp, Option.getD_some] at hsent
      exact not_rooted_of_reparent (h.parentOf_self.trans hsent) habove h.parentOf_ne
        (hrooted' group ((h.mem group).mpr (.inl rfl)))
  · exact fun hok => h.rooted hrooted (h.not_above hparents hrooted hok)

/-- **The tree loses nothing**, of any chart, in every run that puts no group below itself; at each call it is so exactly
then. -/
theorem losesNothing_of_reachable (h : groupMachine.Reachable NotBelowItself db) :
    (∀ coaId, LosesNothing db coaId) ∧
      ∀ call db', groupMachine.step db call = some db' →
        ((∀ coaId, LosesNothing db' coaId) ↔ NotBelowItself db call) := by
  have hkept : ParentsInChart db ∧ ∀ coaId, LosesNothing db coaId :=
    Machine.invariant (P := fun db => ParentsInChart db ∧ ∀ coaId, LosesNothing db coaId) (fun _ hinit => hinit)
      (fun _ _ _ hok hstep hs => by
        obtain ⟨group, hwrite⟩ := groupWrite_of_step hs.1 hstep
        exact ⟨hwrite.parentsInChart hs.1, (losesNothing_step_iff hs.1 hs.2 hstep).mpr hok⟩) h
  exact ⟨hkept.2, fun call db' hstep => losesNothing_step_iff hkept.1 hkept.2 hstep⟩

end Calls

section Example

/-- A chart of accounts without groups. -/
def chartWithoutGroups : GroupDb := ⟨[1], .empty⟩

theorem chartWithoutGroups_init : groupMachine.init chartWithoutGroups := by
  have hparents : ParentsInChart chartWithoutGroups := fun g hg => absurd hg (Table.not_mem_empty g)
  exact ⟨hparents, (losesNothing_all_iff hparents).mpr fun g hg => absurd hg (Table.not_mem_empty g)⟩

/-- A group of assets. -/
def grupoNuevo (code : String) (parentGroupId : Option Nat) : GroupCall :=
  .createGroup ⟨1, parentGroupId, code, code, .balanceSheet, .asset, none, 0⟩

def muevePadre (id parentGroupId : Nat) : GroupCall :=
  .updateGroup id ⟨some (some parentGroupId), none, none, none, none, none, none⟩

/-- The assets are put below their current part: both are gone from the tree, which has no root. -/
theorem losesNothing_counterexample :
    ∃ db, groupMachine.Reachable (fun _ _ => True) db ∧ ¬ LosesNothing db (some 1) := by
  refine ⟨_, groupMachine.reachable_after chartWithoutGroups_init
    [grupoNuevo "1" none, grupoNuevo "1.1" (some 1), muevePadre 1 2], ?_⟩
  rintro ⟨visits, bound, hwalk, hperm, -⟩
  have hroots : (tree (groupMachine.after chartWithoutGroups [grupoNuevo "1" none, grupoNuevo "1.1" (some 1), muevePadre 1 2])
      (some 1)).roots = [] := by decide
  have hgroups : ((groupMachine.after chartWithoutGroups [grupoNuevo "1" none, grupoNuevo "1.1" (some 1), muevePadre 1 2]).chart
      (some 1)).length = 2 := by decide
  have hvisits := hwalk bound (Nat.le_refl bound)
  rw [hroots] at hvisits
  obtain rfl : [] = visits := Option.some.inj hvisits
  have hlength := hperm.length_eq
  rw [List.length_map, List.length_map, hgroups] at hlength
  cases hlength

theorem reachable_grupoNuevo {db db' : GroupDb} {code : String} {parentGroupId : Option Nat}
    (h : groupMachine.Reachable NotBelowItself db) (hstep : groupMachine.step db (grupoNuevo code parentGroupId) = some db') :
    groupMachine.Reachable NotBelowItself db' := by
  refine h.step ?_ hstep
  exact trivial

/-- The assets, their current part, and a third group without a parent. -/
def tresGrupos : GroupDb :=
  groupMachine.after chartWithoutGroups [grupoNuevo "1" none, grupoNuevo "1.1" (some 1), grupoNuevo "1.2" none]

theorem losesNothing_of_reachable_mueve :
    ∃ db, groupMachine.step tresGrupos (muevePadre 3 2) = some db ∧ (tree db (some 1)).roots = [1] ∧
      LosesNothing db (some 1) := by
  have hfirst : groupMachine.Reachable NotBelowItself (groupMachine.after chartWithoutGroups [grupoNuevo "1" none]) :=
    reachable_grupoNuevo (.of_init chartWithoutGroups_init) (show groupMachine.step _ (grupoNuevo "1" none) = _ from rfl)
  have hsecond : groupMachine.Reachable NotBelowItself
      (groupMachine.after chartWithoutGroups [grupoNuevo "1" none, grupoNuevo "1.1" (some 1)]) :=
    reachable_grupoNuevo hfirst (show groupMachine.step _ (grupoNuevo "1.1" (some 1)) = _ from rfl)
  have hcreated : groupMachine.Reachable NotBelowItself tresGrupos :=
    reachable_grupoNuevo hsecond (show groupMachine.step _ (grupoNuevo "1.2" none) = _ from rfl)
  have hparents : tresGrupos.parentOf 2 = some 1 ∧ tresGrupos.parentOf 1 = none := by decide
  have hok : NotBelowItself tresGrupos (muevePadre 3 2) := by
    intro p hp habove
    obtain rfl : 2 = p := Option.some.inj (Option.some.inj hp)
    -- above the current assets are the assets, and nothing above them
    rcases Relation.ReflTransGen.cases_head habove with heq | ⟨q, hq, habove⟩
    · exact absurd heq (by decide)
    · obtain rfl := Option.some.inj (hparents.1.symm.trans hq)
      rcases Relation.ReflTransGen.cases_head habove with heq | ⟨q, hq, -⟩
      · exact absurd heq (by decide)
      · exact absurd (hparents.2.symm.trans hq) nofun
  obtain ⟨db, hdb⟩ : ∃ db, groupMachine.step tresGrupos (muevePadre 3 2) = some db :=
    Option.isSome_iff_exists.mp (by decide)
  have hroots : (groupMachine.step tresGrupos (muevePadre 3 2)).map (fun db => (tree db (some 1)).roots) = some [1] := by
    decide
  rw [hdb] at hroots
  exact ⟨db, hdb, Option.some.inj hroots, (losesNothing_of_reachable (hcreated.step hok hdb)).1 (some 1)⟩

end Example

end AtlasErp
