import Mathlib

/-! # Forests given by the parent of each node

Every node has at most one parent; from the roots, the nodes without one, a walk goes down through the children.

- `walk`, `walkAll`: the walk, with the node each visit comes from;
- `Depth`, `Rooted`: a chain of parents that ends at a root;
- `walkAll_iff`: the walk ends and visits every node once, under its parent, exactly when every node is rooted;
- `rooted_of_reparent`, `not_rooted_of_reparent`: one node gets another parent. -/

namespace Lib

section Walk

variable {ι : Type*} (children : ι → List ι)

/-- Visit a node and all below it, each with the node it is reached from; `none` when the fuel runs out. -/
def walk : Nat → Option ι → ι → Option (List (Option ι × ι))
  | 0, _, _ => none
  | fuel + 1, above, i => ((children i).mapM (walk fuel (some i))).map fun below => (above, i) :: below.flatten

/-- Visit all below the roots. -/
def walkAll (fuel : Nat) (roots : List ι) : Option (List (Option ι × ι)) :=
  (roots.mapM (walk children fuel none)).map List.flatten

theorem mapM_eq_some_iff {α β : Type*} {f : α → Option β} {xs : List α} {ys : List β} :
    xs.mapM f = some ys ↔ List.Forall₂ (fun x y => f x = some y) xs ys := by
  induction xs generalizing ys with
  | nil => cases ys <;> simp
  | cons x xs ih =>
    rw [List.mapM_cons]
    constructor
    · intro h
      obtain ⟨y, hy, h⟩ := Option.bind_eq_some_iff.mp h
      obtain ⟨rest, hrest, h⟩ := Option.bind_eq_some_iff.mp h
      obtain rfl := Option.some.inj h
      exact .cons hy (ih.mp hrest)
    · rintro (_ | ⟨hy, hrest⟩)
      exact Option.bind_eq_some_iff.mpr ⟨_, hy, Option.bind_eq_some_iff.mpr ⟨_, ih.mpr hrest, rfl⟩⟩

theorem exists_forall₂ {α β : Type*} {R : α → β → Prop} {xs : List α} (h : ∀ x ∈ xs, ∃ y, R x y) :
    ∃ ys, List.Forall₂ R xs ys := by
  induction xs with
  | nil => exact ⟨[], .nil⟩
  | cons x xs ih =>
    obtain ⟨y, hy⟩ := h x List.mem_cons_self
    obtain ⟨ys, hys⟩ := ih fun z hz => h z (List.mem_cons_of_mem x hz)
    exact ⟨y :: ys, .cons hy hys⟩

theorem forall₂_of_mem_right {α β : Type*} {R : α → β → Prop} {xs : List α} {ys : List β} (h : List.Forall₂ R xs ys)
    {y : β} (hy : y ∈ ys) : ∃ x ∈ xs, R x y := by
  induction h with
  | nil => cases hy
  | @cons x z xs ys hR _ ih =>
    rcases List.mem_cons.mp hy with rfl | hy
    · exact ⟨x, List.mem_cons_self, hR⟩
    · obtain ⟨w, hw, hRw⟩ := ih hy
      exact ⟨w, List.mem_cons_of_mem x hw, hRw⟩

/-- What related elements have in common, element by element. -/
theorem map_eq_of_forall₂ {α β γ : Type*} {R : α → β → Prop} {f : α → γ} {g : β → γ} {xs : List α} {ys : List β}
    (h : List.Forall₂ R xs ys) (hR : ∀ x y, R x y → f x = g y) : xs.map f = ys.map g := by
  induction h with
  | nil => rfl
  | cons hxy _ ih => rw [List.map_cons, List.map_cons, hR _ _ hxy, ih]

variable {children} {fuel : Nat} {above : Option ι} {i : ι} {visits : List (Option ι × ι)} {roots : List ι}

theorem walk_eq_some : walk children (fuel + 1) above i = some visits ↔
    ∃ below, List.Forall₂ (fun c b => walk children fuel (some i) c = some b) (children i) below ∧
      visits = (above, i) :: below.flatten := by
  rw [walk, Option.map_eq_some_iff]
  simp only [mapM_eq_some_iff, eq_comm]

theorem walkAll_eq_some : walkAll children fuel roots = some visits ↔
    ∃ below, List.Forall₂ (fun c b => walk children fuel none c = some b) roots below ∧ visits = below.flatten := by
  rw [walkAll, Option.map_eq_some_iff]
  simp only [mapM_eq_some_iff, eq_comm]

/-- More fuel gives the same visits. -/
theorem walk_succ (h : walk children fuel above i = some visits) : walk children (fuel + 1) above i = some visits := by
  induction fuel generalizing above i visits with
  | zero => cases h
  | succ fuel ih =>
    obtain ⟨below, hbelow, rfl⟩ := walk_eq_some.mp h
    exact walk_eq_some.mpr ⟨below, hbelow.imp fun _ _ => ih, rfl⟩

theorem walkAll_mono {fuel' : Nat} (h : walkAll children fuel roots = some visits) (hle : fuel ≤ fuel') :
    walkAll children fuel' roots = some visits := by
  induction hle with
  | refl => exact h
  | step _ ih =>
    obtain ⟨below, hbelow, rfl⟩ := walkAll_eq_some.mp ih
    exact walkAll_eq_some.mpr ⟨below, hbelow.imp fun _ _ => walk_succ, rfl⟩

end Walk

/-! ## Chains of parents -/

section Depth

variable {ι : Type*} {parent : ι → Option ι} {i p : ι} {m n : Nat}

/-- So many parents above a node, the last of them a root. -/
inductive Depth (parent : ι → Option ι) : ι → Nat → Prop where
  | root {i : ι} (top : parent i = none) : Depth parent i 0
  | child {i p : ι} {n : Nat} (up : parent i = some p) (rest : Depth parent p n) : Depth parent i (n + 1)

/-- The parents of a node end at a root. -/
def Rooted (parent : ι → Option ι) (i : ι) : Prop := ∃ n, Depth parent i n

theorem Rooted.child (hup : parent i = some p) (h : Rooted parent p) : Rooted parent i :=
  let ⟨n, hn⟩ := h
  ⟨n + 1, .child hup hn⟩

theorem Depth.unique (h : Depth parent i m) (h' : Depth parent i n) : m = n := by
  induction h generalizing n with
  | root htop =>
    cases h' with
    | root => rfl
    | child hup => exact absurd (htop.symm.trans hup) nofun
  | child hup _ ih =>
    cases h' with
    | root htop => exact absurd (htop.symm.trans hup) nofun
    | child hup' hrest =>
      obtain rfl := Option.some.inj (hup.symm.trans hup')
      rw [ih hrest]

/-- One node is above another, or is the same. -/
def Above (parent : ι → Option ι) : ι → ι → Prop := Relation.ReflTransGen fun i p => parent i = some p

/-- The nodes above one that is rooted are rooted, no deeper than it. -/
theorem Depth.of_above (h : Depth parent i n) (habove : Above parent i p) : ∃ m ≤ n, Depth parent p m := by
  induction habove with
  | refl => exact ⟨n, Nat.le_refl n, h⟩
  | tail _ hup ih =>
    obtain ⟨m, hle, hm⟩ := ih
    cases hm with
    | root htop => exact absurd (htop.symm.trans hup) nofun
    | child hup' hrest =>
      obtain rfl := Option.some.inj (hup'.symm.trans hup)
      exact ⟨_, Nat.le_trans (Nat.le_succ _) hle, hrest⟩

/-- Finitely many rooted nodes have a largest depth. -/
theorem exists_depth_bound (nodes : List ι) (h : ∀ i ∈ nodes, Rooted parent i) :
    ∃ bound, ∀ i ∈ nodes, ∃ n ≤ bound, Depth parent i n := by
  induction nodes with
  | nil => exact ⟨0, fun i hi => absurd hi List.not_mem_nil⟩
  | cons i nodes ih =>
    obtain ⟨bound, hbound⟩ := ih fun j hj => h j (List.mem_cons_of_mem i hj)
    obtain ⟨n, hn⟩ := h i List.mem_cons_self
    refine ⟨max n bound, fun j hj => ?_⟩
    rcases List.mem_cons.mp hj with rfl | hj
    · exact ⟨n, Nat.le_max_left _ _, hn⟩
    · obtain ⟨m, hm, hdepth⟩ := hbound j hj
      exact ⟨m, Nat.le_trans hm (Nat.le_max_right _ _), hdepth⟩

/-! ### One node gets another parent -/

variable {parent' : ι → Option ι}

/-- The chain up to a node is not changed by the parent that the node has. -/
theorem Above.reparent {target : ι} (h : Above parent i target) (hsame : ∀ j, j ≠ target → parent' j = parent j) :
    Above parent' i target := by
  induction h using Relation.ReflTransGen.head_induction_on with
  | refl => exact .refl
  | @head j q hup _ ih =>
    by_cases hj : j = target
    · rw [hj]
      exact .refl
    · exact .head ((hsame j hj).trans hup) ih

/-- What does not have the node above it stays rooted. -/
theorem Depth.reparent {target : ι} (h : Depth parent i n) (hnot : ¬ Above parent i target)
    (hsame : ∀ j, j ≠ target → parent' j = parent j) : Rooted parent' i := by
  induction h with
  | @root j htop =>
    refine ⟨0, .root ((hsame j ?_).trans htop)⟩
    rintro rfl
    exact hnot .refl
  | @child j q n hup _ ih =>
    have hne : j ≠ target := by
      rintro rfl
      exact hnot .refl
    exact .child ((hsame j hne).trans hup) (ih fun habove => hnot (.head hup habove))

/-- **Every node stays rooted** when the one that changes is, and is not above its new parent. -/
theorem rooted_of_reparent {target : ι} (hrooted : Rooted parent' target) (h : Rooted parent i)
    (hsame : ∀ j, j ≠ target → parent' j = parent j) : Rooted parent' i := by
  obtain ⟨n, hn⟩ := h
  induction hn with
  | @root j htop =>
    by_cases hj : j = target
    · exact hj ▸ hrooted
    · exact ⟨0, .root ((hsame j hj).trans htop)⟩
  | @child j q n hup _ ih =>
    by_cases hj : j = target
    · exact hj ▸ hrooted
    · exact ih.child ((hsame j hj).trans hup)

/-- A node below itself is not rooted. -/
theorem not_rooted_of_reparent {target : ι} (hup : parent' target = some p) (habove : Above parent p target)
    (hsame : ∀ j, j ≠ target → parent' j = parent j) : ¬ Rooted parent' target := by
  rintro ⟨n, hn⟩
  cases hn with
  | root htop => exact absurd (htop.symm.trans hup) nofun
  | @child _ q m hup' hrest =>
    obtain rfl := Option.some.inj (hup'.symm.trans hup)
    obtain ⟨k, hk, hdepth⟩ := hrest.of_above (habove.reparent hsame)
    have heq := hdepth.unique (.child hup' hrest)
    omega

end Depth

/-! ## What a walk visits -/

section Visits

variable {ι : Type*} [DecidableEq ι] {parent : ι → Option ι} {nodes : List ι} {children : ι → List ι} {fuel : Nat}
  {above : Option ι} {i : ι} {visits : List (Option ι × ι)}

/-- How often a node is visited below a list of nodes: as often as it is listed, and below each of them. -/
theorem count_flatten {xs : List ι} {below : List (List (Option ι × ι))} {R : ι → List (Option ι × ι) → Prop} {a : ι}
    {f : List (Option ι × ι) → Nat} (h : List.Forall₂ R xs below)
    (hR : ∀ c b, R c b → (b.map Prod.snd).count a = (if c = a then 1 else 0) + f b) :
    (below.flatten.map Prod.snd).count a = xs.count a + (below.map f).sum := by
  induction h with
  | nil => rfl
  | @cons c b xs below hcb _ ih =>
    rw [List.flatten_cons, List.map_append, List.count_append, ih, hR c b hcb, List.count_cons, List.map_cons, List.sum_cons]
    simp only [beq_iff_eq]
    omega

/-- The visits of a parent, list by list. -/
theorem sum_count_parent (up : Option ι) (below : List (List (Option ι × ι))) :
    (below.map fun b => up.elim 0 fun p => (b.map Prod.snd).count p).sum =
      up.elim 0 fun p => (below.flatten.map Prod.snd).count p := by
  cases up with
  | none => simp
  | some p =>
    change (below.map fun b => (b.map Prod.snd).count p).sum = (below.flatten.map Prod.snd).count p
    rw [List.map_flatten, List.count_flatten, List.map_map]
    rfl

/-- The children of each node, and the roots, in some order. -/
structure IsForest (parent : ι → Option ι) (nodes : List ι) (children : ι → List ι) (roots : List ι) : Prop where
  nodup : nodes.Nodup
  closed : ∀ i ∈ nodes, ∀ p, parent i = some p → p ∈ nodes
  children_eq : ∀ p ∈ nodes, children p = nodes.filter (parent · = some p)
  roots_eq : roots = nodes.filter (parent · = none)

variable {roots : List ι} (hforest : IsForest parent nodes children roots)

include hforest

theorem IsForest.mem_children {p c : ι} (hp : p ∈ nodes) : c ∈ children p ↔ c ∈ nodes ∧ parent c = some p := by
  rw [hforest.children_eq p hp, List.mem_filter, decide_eq_true_iff]

theorem IsForest.mem_roots {r : ι} : r ∈ roots ↔ r ∈ nodes ∧ parent r = none := by
  rw [hforest.roots_eq, List.mem_filter, decide_eq_true_iff]

/-- Every visit is of a node below, which is rooted when the first is, from its parent. -/
theorem IsForest.visited (hi : i ∈ nodes) (hup : parent i = above) (h : walk children fuel above i = some visits) :
    ∀ v ∈ visits, v.2 ∈ nodes ∧ parent v.2 = v.1 ∧ (Rooted parent i → Rooted parent v.2) := by
  induction fuel generalizing above i visits with
  | zero => cases h
  | succ fuel ih =>
    obtain ⟨below, hbelow, rfl⟩ := walk_eq_some.mp h
    intro v hv
    rcases List.mem_cons.mp hv with rfl | hv
    · exact ⟨hi, hup, id⟩
    · obtain ⟨b, hb, hvb⟩ := List.mem_flatten.mp hv
      obtain ⟨c, hc, hwalk⟩ := forall₂_of_mem_right hbelow hb
      obtain ⟨hcnodes, hcup⟩ := (hforest.mem_children hi).mp hc
      obtain ⟨hnodes, hparent, hrooted⟩ := ih hcnodes hcup hwalk v hvb
      exact ⟨hnodes, hparent, fun h => hrooted (h.child hcup)⟩

/-- With fuel for the deepest node, a walk ends. -/
theorem IsForest.exists_walk {bound n : Nat} (hbound : ∀ i ∈ nodes, ∃ n ≤ bound, Depth parent i n) (hi : i ∈ nodes)
    (hdepth : Depth parent i n) (hfuel : bound < n + fuel) : ∃ visits, walk children fuel above i = some visits := by
  induction fuel generalizing above i n with
  | zero =>
    obtain ⟨m, hm, hdepth'⟩ := hbound i hi
    have heq := hdepth.unique hdepth'
    omega
  | succ fuel ih =>
    have hchildren : ∀ c ∈ children i, ∃ b, walk children fuel (some i) c = some b := by
      intro c hc
      obtain ⟨hcnodes, hcup⟩ := (hforest.mem_children hi).mp hc
      exact ih hcnodes (.child hcup hdepth) (by omega)
    obtain ⟨below, hbelow⟩ := exists_forall₂ hchildren
    exact ⟨_, walk_eq_some.mpr ⟨below, hbelow, rfl⟩⟩

theorem IsForest.count_children {a : ι} (ha : a ∈ nodes) (hi : i ∈ nodes) :
    (children i).count a = (parent a).elim 0 fun p => if i = p then 1 else 0 := by
  have hnodup : (children i).Nodup := hforest.children_eq i hi ▸ hforest.nodup.filter _
  rw [hnodup.count]
  cases hup : parent a with
  | none => rw [if_neg fun hmem => absurd (hup.symm.trans ((hforest.mem_children hi).mp hmem).2) nofun]; rfl
  | some p =>
    refine if_congr ?_ rfl rfl
    rw [hforest.mem_children hi, hup, Option.some_inj]
    exact ⟨fun h => h.2.symm, fun h => ⟨ha, h.symm⟩⟩

/-- A node is visited once for the first visit, if it is of it, and once for each visit of its parent. -/
theorem IsForest.count_walk {a : ι} (ha : a ∈ nodes) (hi : i ∈ nodes) (h : walk children fuel above i = some visits) :
    (visits.map Prod.snd).count a =
      (if i = a then 1 else 0) + (parent a).elim 0 fun p => (visits.map Prod.snd).count p := by
  induction fuel generalizing above i visits with
  | zero => cases h
  | succ fuel ih =>
    obtain ⟨below, hbelow, rfl⟩ := walk_eq_some.mp h
    have hall := (List.forall₂_and_left _ _).mpr ⟨fun c hc => ((hforest.mem_children hi).mp hc).1, hbelow⟩
    rw [List.map_cons, List.count_cons, count_flatten hall fun c b hcb => ih hcb.1 hcb.2, hforest.count_children ha hi,
      sum_count_parent]
    cases parent a with
    | none => simp
    | some p =>
      simp only [Option.elim_some, List.count_cons, beq_iff_eq]
      omega

/-- From the roots, every rooted node is visited once. -/
theorem IsForest.count_walkAll (h : walkAll children fuel roots = some visits) {a : ι} {n : Nat} (ha : a ∈ nodes)
    (hdepth : Depth parent a n) : (visits.map Prod.snd).count a = 1 := by
  obtain ⟨below, hbelow, rfl⟩ := walkAll_eq_some.mp h
  have hall := (List.forall₂_and_left _ _).mpr ⟨fun r hr => (hforest.mem_roots.mp hr).1, hbelow⟩
  have hcount : ∀ a ∈ nodes, (below.flatten.map Prod.snd).count a = roots.count a +
      (parent a).elim 0 fun p => (below.flatten.map Prod.snd).count p := by
    intro a ha
    rw [count_flatten hall fun c b hcb => hforest.count_walk ha hcb.1 hcb.2, sum_count_parent]
  have hroots : roots.Nodup := hforest.roots_eq ▸ hforest.nodup.filter _
  induction hdepth with
  | @root r htop =>
    rw [hcount r ha, htop, hroots.count, if_pos (hforest.mem_roots.mpr ⟨ha, htop⟩)]
    rfl
  | @child c p n hup _ ih =>
    rw [hcount c ha, hup, hroots.count, if_neg fun hmem => absurd (hup.symm.trans (hforest.mem_roots.mp hmem).2) nofun]
    exact (Nat.zero_add _).trans (ih (hforest.closed c ha p hup))

/-- **The walk of a forest** ends and visits every node once, under its parent, exactly when every node is rooted. -/
theorem IsForest.walkAll_iff :
    (∃ visits bound, (∀ fuel, bound ≤ fuel → walkAll children fuel roots = some visits) ∧
      (visits.map Prod.snd).Perm nodes ∧ ∀ v ∈ visits, parent v.2 = v.1) ↔ ∀ i ∈ nodes, Rooted parent i := by
  constructor
  · rintro ⟨visits, bound, hwalk, hperm, -⟩ i hi
    obtain ⟨v, hv, rfl⟩ := List.mem_map.mp (hperm.mem_iff.mpr hi)
    obtain ⟨below, hbelow, rfl⟩ := walkAll_eq_some.mp (hwalk bound (Nat.le_refl bound))
    obtain ⟨b, hb, hvb⟩ := List.mem_flatten.mp hv
    obtain ⟨r, hr, hvisits⟩ := forall₂_of_mem_right hbelow hb
    obtain ⟨hnodes, htop⟩ := hforest.mem_roots.mp hr
    exact (hforest.visited hnodes htop hvisits v hvb).2.2 ⟨0, .root htop⟩
  · intro hrooted
    obtain ⟨bound, hbound⟩ := exists_depth_bound nodes hrooted
    have hroots : ∀ r ∈ roots, ∃ b, walk children (bound + 1) none r = some b := fun r hr => by
      obtain ⟨hnodes, htop⟩ := hforest.mem_roots.mp hr
      exact hforest.exists_walk hbound hnodes (.root htop) (by omega)
    obtain ⟨below, hbelow⟩ := exists_forall₂ hroots
    have hwalk : walkAll children (bound + 1) roots = some below.flatten := walkAll_eq_some.mpr ⟨below, hbelow, rfl⟩
    have hvisited : ∀ v ∈ below.flatten, v.2 ∈ nodes ∧ parent v.2 = v.1 := fun v hv => by
      obtain ⟨b, hb, hvb⟩ := List.mem_flatten.mp hv
      obtain ⟨r, hr, hvisits⟩ := forall₂_of_mem_right hbelow hb
      obtain ⟨hnodes, htop⟩ := hforest.mem_roots.mp hr
      have hspec := hforest.visited hnodes htop hvisits v hvb
      exact ⟨hspec.1, hspec.2.1⟩
    refine ⟨below.flatten, bound + 1, fun fuel hfuel => walkAll_mono hwalk hfuel, ?_, fun v hv => (hvisited v hv).2⟩
    refine List.perm_iff_count.mpr fun a => ?_
    by_cases ha : a ∈ nodes
    · obtain ⟨n, hn⟩ := hrooted a ha
      rw [hforest.count_walkAll hwalk ha hn, hforest.nodup.count, if_pos ha]
    · rw [List.count_eq_zero_of_not_mem ha]
      refine List.count_eq_zero_of_not_mem fun hmem => ?_
      obtain ⟨v, hv, rfl⟩ := List.mem_map.mp hmem
      exact ha (hvisited v hv).1

end Visits

end Lib
