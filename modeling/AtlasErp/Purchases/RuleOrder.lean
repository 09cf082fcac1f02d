import AtlasErp.Lib.Newest
import AtlasErp.Purchases.Mdr
import Mathlib.Data.Prod.Lex

/-! # The rule that is charged is the one that is shown first

The charge picks the most specific rule of a purchase; the screen lists the rules of a contract version in the order in
which the engine picks them.

- `listMdrRules`: the list of the screen;
- `mdrRuleSpecificity_le_iff`: the weights rank sets of dimensions, each above all lower ones together;
- `isNewest_pickBestMdrRule`, `isNewest_listMdrRules`: both give a matching rule of the highest rank;
- `pickBestMdrRule_order`: so they agree, whatever order the rows come in, if no two rules that match fix the same
  dimensions. -/

namespace AtlasErp

open Lib

/-! ## The list of the screen -/

/-- A row of `mdr_rules`, with the time it was created. -/
structure StoredMdrRule extends MdrRule where
  createdAt : Instant
  deriving DecidableEq

/-- A rule as the screen shows it. -/
structure ListedMdrRule extends MdrRule where
  specificity : Nat
  deriving DecidableEq

def StoredMdrRule.view (regla : StoredMdrRule) : ListedMdrRule :=
  { regla.toMdrRule with specificity := mdrRuleSpecificity regla.toMdrRule }

/-- The last two hundred rules, of a contract version or of all, from the most specific to the most general. -/
def listMdrRules (rows : List StoredMdrRule) (contractVersionId : Option Nat) : List ListedMdrRule :=
  let rules := ((rows.filter fun row => contractVersionId.all (· = row.contractVersionId)).insertionSort
    fun a b => b.createdAt < a.createdAt ∨ b.createdAt = a.createdAt ∧ b.id ≤ a.id).take 200
  (rules.map StoredMdrRule.view).insertionSort fun a b => b.specificity ≤ a.specificity

/-- The rules that a purchase under a contract version is charged by, in the order of the rows. -/
def activeMdrRules (rows : List StoredMdrRule) (contractVersionId : Nat) : List MdrRule :=
  (rows.filter fun row => row.contractVersionId = contractVersionId ∧ row.isActive = true).map (·.toMdrRule)

/-! ## The rank of a rule -/

/-- The dimensions that a rule fixes: branch before category before risk. -/
def MdrRule.dimensions (rule : MdrRule) : Bool ×ₗ Bool ×ₗ Bool :=
  toLex (rule.branchId.isSome, toLex (given rule.productCategory, given rule.riskSegment))

/-- **The weights rank the sets of dimensions**, each dimension above all lower ones together. -/
theorem mdrRuleSpecificity_le_iff (a b : MdrRule) :
    mdrRuleSpecificity a ≤ mdrRuleSpecificity b ↔ a.dimensions ≤ b.dimensions := by
  unfold mdrRuleSpecificity MdrRule.dimensions
  generalize a.branchId.isSome = branch, given a.productCategory = category, given a.riskSegment = risk,
    b.branchId.isSome = branch', given b.productCategory = category', given b.riskSegment = risk'
  revert branch category risk branch' category' risk'
  decide

section Pick

variable {branchId contractVersionId : Nat} {productCategory riskSegment : Option String} {rules : List MdrRule}
  {rows : List StoredMdrRule}

/-- A list of rules from the most specific to the most general. -/
theorem pairwise_specificity {α : Type} (specificity : α → Nat) (l : List α) :
    (l.insertionSort fun a b => specificity b ≤ specificity a).Pairwise fun a b => specificity b ≤ specificity a := by
  have : Std.Total fun a b : α => specificity b ≤ specificity a := ⟨fun a b => Nat.le_total _ _⟩
  have : IsTrans α fun a b => specificity b ≤ specificity a := ⟨fun a b c hab hbc => Nat.le_trans hbc hab⟩
  exact List.pairwise_insertionSort _ l

/-- **The rule that is charged** matches, and fixes dimensions of the highest rank among those that match. -/
theorem isNewest_pickBestMdrRule (branchId : Nat) (productCategory riskSegment : Option String) (rules : List MdrRule) :
    IsNewest MdrRule.dimensions
      (fun rule => rule ∈ rules ∧ rule.matchesPurchase branchId productCategory riskSegment = true)
      (pickBestMdrRule branchId productCategory riskSegment rules) := by
  have hdown := (pairwise_specificity mdrRuleSpecificity
    (rules.filter (·.matchesPurchase branchId productCategory riskSegment))).imp
      fun {a b} hab => (mdrRuleSpecificity_le_iff b a).mp hab
  exact (isNewest_head? hdown).congr fun rule => ((List.mem_insertionSort _).trans List.mem_filter).symm

/-- What the list of a contract version shows, when it shows all. -/
theorem mem_listMdrRules (hfew : (rows.filter fun row => row.contractVersionId = contractVersionId).length ≤ 200)
    (listed : ListedMdrRule) :
    listed ∈ listMdrRules rows (some contractVersionId) ↔
      ∃ row ∈ rows, row.contractVersionId = contractVersionId ∧ row.view = listed := by
  have hsame : (rows.filter fun row => (some contractVersionId).all (· = row.contractVersionId)) =
      rows.filter fun row => row.contractVersionId = contractVersionId := by
    refine List.filter_congr fun row _ => ?_
    simp only [Option.all_some, eq_comm]
  rw [listMdrRules, hsame, List.mem_insertionSort, List.take_of_length_le (by rwa [List.length_insertionSort]),
    List.mem_map]
  simp only [List.mem_insertionSort, List.mem_filter, decide_eq_true_eq, and_assoc]

/-- **The first rule of the screen** that is active and matches fixes dimensions of the highest rank among them. -/
theorem isNewest_listMdrRules (branchId : Nat) (productCategory riskSegment : Option String)
    (hfew : (rows.filter fun row => row.contractVersionId = contractVersionId).length ≤ 200) :
    IsNewest MdrRule.dimensions (fun rule => rule ∈ activeMdrRules rows contractVersionId ∧
        rule.matchesPurchase branchId productCategory riskSegment = true)
      (((listMdrRules rows (some contractVersionId)).find? fun listed => listed.isActive &&
        listed.matchesPurchase branchId productCategory riskSegment).map (·.toMdrRule)) := by
  have hview : ∀ listed ∈ listMdrRules rows (some contractVersionId),
      listed.specificity = mdrRuleSpecificity listed.toMdrRule := by
    intro listed hlisted
    obtain ⟨row, -, -, rfl⟩ := (mem_listMdrRules hfew listed).mp hlisted
    rfl
  have hdown : (listMdrRules rows (some contractVersionId)).Pairwise fun a b =>
      b.toMdrRule.dimensions ≤ a.toMdrRule.dimensions := by
    refine (pairwise_specificity ListedMdrRule.specificity _).imp_of_mem fun {a b} ha hb hab => ?_
    rw [← mdrRuleSpecificity_le_iff, ← hview a ha, ← hview b hb]
    exact hab
  refine ((isNewest_find? _ hdown).map fun _ => rfl).congr fun rule => ?_
  rw [activeMdrRules, List.mem_map]
  constructor
  · rintro ⟨⟨row, hrow, rfl⟩, hmatches⟩
    obtain ⟨hin, hversion, hactive⟩ := by simpa only [List.mem_filter, decide_eq_true_eq] using hrow
    exact ⟨row.view, ⟨(mem_listMdrRules hfew _).mpr ⟨row, hin, hversion, rfl⟩, Bool.and_eq_true_iff.mpr ⟨hactive, hmatches⟩⟩,
      rfl⟩
  · rintro ⟨listed, ⟨hlisted, hwanted⟩, rfl⟩
    obtain ⟨row, hin, hversion, rfl⟩ := (mem_listMdrRules hfew listed).mp hlisted
    obtain ⟨hactive, hmatches⟩ := Bool.and_eq_true_iff.mp hwanted
    exact ⟨⟨row, List.mem_filter.mpr ⟨hin, decide_eq_true ⟨hversion, hactive⟩⟩, rfl⟩, hmatches⟩

/-- No two rules that match a purchase fix the same dimensions. -/
def NoTies (branchId : Nat) (productCategory riskSegment : Option String) (rules : List MdrRule) : Prop :=
  ∀ a ∈ rules, ∀ b ∈ rules, a.matchesPurchase branchId productCategory riskSegment = true →
    b.matchesPurchase branchId productCategory riskSegment = true → a.dimensions = b.dimensions → a = b

/-- Where there are no ties, there is one rule of the highest rank. -/
theorem NoTies.eq {picked picked' : Option MdrRule} (hties : NoTies branchId productCategory riskSegment rules)
    (h : IsNewest MdrRule.dimensions
      (fun rule => rule ∈ rules ∧ rule.matchesPurchase branchId productCategory riskSegment = true) picked)
    {rules' : List MdrRule} (hperm : rules.Perm rules')
    (h' : IsNewest MdrRule.dimensions
      (fun rule => rule ∈ rules' ∧ rule.matchesPurchase branchId productCategory riskSegment = true) picked') :
    picked = picked' := by
  have hmap : picked.map id = picked'.map id := h.map_eq h' (fun rule => and_congr_left' hperm.mem_iff.symm)
    fun a b ha hb htop htop' => hties a ha.1 b hb.1 ha.2 hb.2 (le_antisymm (htop' a ha) (htop b hb))
  simpa using hmap

/-- **The rule of a purchase** is one that matches, of the highest rank among those that match. If no two rules that match
fix the same dimensions it does not depend on the order of the rules, and it is the first active rule that matches in the
list of its contract version. -/
theorem pickBestMdrRule_order (branchId : Nat) (productCategory riskSegment : Option String) (rules : List MdrRule) :
    IsNewest MdrRule.dimensions
        (fun rule => rule ∈ rules ∧ rule.matchesPurchase branchId productCategory riskSegment = true)
        (pickBestMdrRule branchId productCategory riskSegment rules) ∧
      (NoTies branchId productCategory riskSegment rules →
        (∀ rules', rules.Perm rules' → pickBestMdrRule branchId productCategory riskSegment rules =
          pickBestMdrRule branchId productCategory riskSegment rules') ∧
        ∀ rows contractVersionId, (rows.filter fun row => row.contractVersionId = contractVersionId).length ≤ 200 →
          rules.Perm (activeMdrRules rows contractVersionId) →
          pickBestMdrRule branchId productCategory riskSegment rules =
            ((listMdrRules rows (some contractVersionId)).find? fun listed => listed.isActive &&
              listed.matchesPurchase branchId productCategory riskSegment).map (·.toMdrRule)) := by
  have hpick := isNewest_pickBestMdrRule branchId productCategory riskSegment
  refine ⟨hpick rules, fun hties => ⟨fun rules' hperm => ?_, fun rows contractVersionId hfew hperm => ?_⟩⟩
  · exact hties.eq (hpick rules) hperm (hpick rules')
  · exact hties.eq (hpick rules) hperm (isNewest_listMdrRules branchId productCategory riskSegment hfew)

/-- A general rule, one for branch 7 and one for a category and a band, in the order in which they were created. -/
def threeRules : List StoredMdrRule :=
  [⟨⟨1, 1, none, none, none, 3000000, none, none, true⟩, 1790000000000⟩,
    ⟨⟨2, 1, none, some 7, none, 2500000, none, none, true⟩, 1790000001000⟩,
    ⟨⟨3, 1, some "MODA", none, some "D", 5000000, none, none, true⟩, 1790000002000⟩]

/-- The rule of the branch is charged, and shown first, before the one with two lower dimensions. -/
theorem pickBestMdrRule_order_sucursal :
    (pickBestMdrRule 7 (some "MODA") (some "D") (activeMdrRules threeRules 1)).map (·.id) = some 2 ∧
      pickBestMdrRule 7 (some "MODA") (some "D") (activeMdrRules threeRules 1) =
        pickBestMdrRule 7 (some "MODA") (some "D") (activeMdrRules threeRules 1).reverse ∧
      pickBestMdrRule 7 (some "MODA") (some "D") (activeMdrRules threeRules 1) =
        ((listMdrRules threeRules (some 1)).find? fun listed => listed.isActive &&
          listed.matchesPurchase 7 (some "MODA") (some "D")).map (·.toMdrRule) := by
  obtain ⟨-, horder⟩ := pickBestMdrRule_order 7 (some "MODA") (some "D") (activeMdrRules threeRules 1)
  have hties : NoTies 7 (some "MODA") (some "D") (activeMdrRules threeRules 1) := by
    unfold NoTies
    decide
  obtain ⟨hperm, hlisted⟩ := horder hties
  exact ⟨by decide, hperm _ (List.reverse_perm _).symm, hlisted threeRules 1 (by decide) (List.Perm.refl _)⟩

end Pick

end AtlasErp
