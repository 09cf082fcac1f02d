import Mathlib.Algebra.BigOperators.Group.List.Basic
import Mathlib.Algebra.BigOperators.Ring.List
import Mathlib.Algebra.Order.BigOperators.Group.List
import Mathlib.Data.List.Dedup
import Mathlib.Tactic.Ring

/-! # Groups and slices of a list

- `sum_groups`: the sums of the groups of a list add up to the sum of the list;
- `sum_filter_ne_zero`: groups that sum to zero can be left out;
- `sum_filter_cancel`: two lists that cancel under every key;
- `sum_map_at_key`: adding to the element of a key;
- `perm_groups`: the groups of a list, over its keys, are a rearrangement of it;
- `filter_eq_singleton`: where groups repeat nothing, an element is in one of them;
- `flatten_slices`, `length_le_of_mem_slices`: a list cut into slices. -/

namespace Lib

section Sums

variable {α κ : Type*} [DecidableEq κ]

/-- One element counts in its own group only. -/
theorem sum_indicator {M : Type*} [AddCommMonoid M] {keys : List κ} (hkeys : keys.Nodup) {k : κ} (hk : k ∈ keys)
    (n : M) :
    (keys.map fun k' => if k = k' then n else 0).sum = n := by
  induction keys with
  | nil => cases hk
  | cons k' keys ih =>
    obtain ⟨hnot, hkeys⟩ := List.nodup_cons.mp hkeys
    rw [List.map_cons, List.sum_cons]
    rcases List.mem_cons.mp hk with rfl | hmem
    · have hzero : (keys.map fun k' => if k = k' then n else 0).sum = 0 := by
        refine List.sum_eq_zero fun x hx => ?_
        obtain ⟨k', hk', rfl⟩ := List.mem_map.mp hx
        exact if_neg (by rintro rfl; exact hnot hk')
      rw [if_pos rfl, hzero, add_zero]
    · rw [if_neg (by rintro rfl; exact hnot hmem), ih hkeys hmem, zero_add]

/-- **Grouping keeps the sum**, over distinct keys that cover the list. -/
theorem sum_groups (key : α → κ) (f : α → Int) {keys : List κ} (hkeys : keys.Nodup) {l : List α}
    (hcover : ∀ a ∈ l, key a ∈ keys) :
    (keys.map fun k => ((l.filter fun a => key a = k).map f).sum).sum = (l.map f).sum := by
  induction l with
  | nil => simp
  | cons a l ih =>
    have hsplit : ∀ k, (((a :: l).filter fun a => key a = k).map f).sum =
        (if key a = k then f a else 0) + ((l.filter fun a => key a = k).map f).sum := by
      intro k
      by_cases hk : key a = k <;> simp [hk]
    rw [List.map_congr_left fun k _ => hsplit k, List.sum_map_add,
      sum_indicator hkeys (hcover a List.mem_cons_self), ih fun b hb => hcover b (List.mem_cons_of_mem a hb),
      List.map_cons, List.sum_cons]

omit [DecidableEq κ] in
theorem sum_filter_ne_zero (f : α → Int) (l : List α) : ((l.filter (f · ≠ 0)).map f).sum = (l.map f).sum := by
  induction l with
  | nil => rfl
  | cons a l ih => by_cases ha : f a = 0 <;> simpa [ha] using ih

/-- Two lists whose elements have equal keys and opposite weights add up to nothing under every key. -/
theorem sum_filter_cancel {key : α → κ} {w : α → Int} {l m : List α}
    (h : List.Forall₂ (fun a b => key b = key a ∧ w b = -w a) l m) (k : κ) :
    (((l ++ m).filter (key · = k)).map w).sum = 0 := by
  have hm : ((m.filter (key · = k)).map w).sum = -((l.filter (key · = k)).map w).sum := by
    induction h with
    | nil => rfl
    | cons hab _ ih =>
      rw [List.filter_cons, List.filter_cons, hab.1]
      split
      · rw [List.map_cons, List.map_cons, List.sum_cons, List.sum_cons, ih, hab.2, neg_add]
      · exact ih
  rw [List.filter_append, List.map_append, List.sum_append, hm, add_neg_cancel]

/-- Adding to the element of a key. -/
theorem sum_map_at_key {key : α → κ} {l : List α} (h : (l.map key).Nodup) {k : κ} (hmem : k ∈ l.map key) {f : α → α}
    {w : α → Int} {d : Int} (hadd : ∀ a ∈ l, key a = k → w (f a) = w a + d) :
    ((l.map fun a => if key a = k then f a else a).map w).sum = (l.map w).sum + d := by
  induction l with
  | nil => cases hmem
  | cons a l ih =>
    obtain ⟨hnot, hnodup⟩ := List.nodup_cons.mp h
    by_cases hkey : key a = k
    · have hrest : (l.map fun a => if key a = k then f a else a) = l := by
        refine (List.map_congr_left fun b hb => if_neg fun heq => hnot ?_).trans (List.map_id _)
        exact List.mem_map.mpr ⟨b, hb, heq.trans hkey.symm⟩
      rw [List.map_cons, hrest, if_pos hkey]
      simp only [List.map_cons, List.sum_cons, hadd a List.mem_cons_self hkey]
      ring
    · have hrest := ih hnodup ((List.mem_cons.mp hmem).resolve_left (Ne.symm hkey))
        fun b hb => hadd b (List.mem_cons_of_mem a hb)
      simp only [List.map_cons, List.sum_cons, if_neg hkey, hrest]
      ring

end Sums

/-! ## Groups -/

section Groups

variable {α κ : Type*} [DecidableEq κ]

/-- The distinct keys of a list, in the order in which they first come: the keys of a map it is put into. -/
def keysOf (key : α → κ) (l : List α) : List κ := ((l.map key).reverse.dedup).reverse

theorem mem_keysOf {key : α → κ} {l : List α} {k : κ} : k ∈ keysOf key l ↔ ∃ a ∈ l, key a = k := by
  simp [keysOf]

theorem nodup_keysOf (key : α → κ) (l : List α) : (keysOf key l).Nodup :=
  List.nodup_reverse.mpr (List.nodup_dedup _)

/-- **Grouping loses nothing and repeats nothing.** -/
theorem perm_groups (key : α → κ) {keys : List κ} (hkeys : keys.Nodup) {l : List α} (hcover : ∀ a ∈ l, key a ∈ keys) :
    (keys.flatMap fun k => l.filter fun a => key a = k).Perm l := by
  classical
  refine List.perm_iff_count.mpr fun a => ?_
  have hcount : ∀ k, (l.filter fun a => key a = k).count a = if key a = k then l.count a else 0 := by
    intro k
    by_cases hk : key a = k
    · rw [if_pos hk]
      exact List.count_filter (decide_eq_true hk)
    · rw [if_neg hk, List.count_eq_zero]
      exact fun hmem => hk (of_decide_eq_true (List.mem_filter.mp hmem).2)
  have hmap : (keys.map fun k => (l.filter fun a => key a = k).count a) =
      keys.map fun k => if key a = k then l.count a else 0 := List.map_congr_left fun k _ => hcount k
  rw [List.count_flatMap]
  refine (congrArg List.sum hmap).trans ?_
  by_cases ha : a ∈ l
  · exact sum_indicator hkeys (hcover a ha) (l.count a)
  · rw [List.count_eq_zero.mpr ha]
    simp

omit [DecidableEq κ] in
/-- **An element is in one group**, where the groups repeat nothing. -/
theorem filter_eq_singleton {groups : List κ} {members : κ → List α} [DecidableEq α]
    (hnodup : (groups.flatMap members).Nodup) {a : α} (ha : a ∈ groups.flatMap members) :
    ∃ g, groups.filter (fun g => a ∈ members g) = [g] := by
  induction groups with
  | nil => cases ha
  | cons g groups ih =>
    rw [List.flatMap_cons] at hnodup ha
    obtain ⟨-, hrest, hdisjoint⟩ := List.nodup_append'.mp hnodup
    by_cases hg : a ∈ members g
    · refine ⟨g, ?_⟩
      have hnone : groups.filter (fun g => a ∈ members g) = [] := by
        refine List.filter_eq_nil_iff.mpr fun g' hg' hmem => ?_
        exact hdisjoint hg (List.mem_flatMap.mpr ⟨g', hg', of_decide_eq_true hmem⟩)
      rw [List.filter_cons_of_pos (by simpa using hg), hnone]
    · rw [List.filter_cons_of_neg (by simpa using hg)]
      exact ih hrest ((List.mem_append.mp ha).resolve_left hg)

end Groups

/-! ## Slices -/

section Slices

variable {α : Type*} {n : Nat} {l : List α}

/-- The slices of a list, of `n` elements each but the last one. -/
def slices (n : Nat) (l : List α) : List (List α) :=
  (List.range ((l.length + n - 1) / n)).map fun i => (l.drop (i * n)).take n

theorem flatten_take_slices (n k : Nat) (l : List α) :
    ((List.range k).map fun i => (l.drop (i * n)).take n).flatten = l.take (k * n) := by
  induction k with
  | zero => simp
  | succ k ih =>
    rw [List.range_succ, List.map_append, List.flatten_append, ih, Nat.succ_mul, List.take_add]
    simp

/-- **Slices** put together are the list. -/
theorem flatten_slices (hn : 0 < n) (l : List α) : (slices n l).flatten = l := by
  rw [slices, flatten_take_slices]
  refine List.take_of_length_le ?_
  have hdiv := Nat.div_add_mod (l.length + n - 1) n
  have hmod := Nat.mod_lt (l.length + n - 1) hn
  have hcomm := Nat.mul_comm n ((l.length + n - 1) / n)
  omega

theorem length_le_of_mem_slices {s : List α} (h : s ∈ slices n l) : s.length ≤ n := by
  obtain ⟨i, -, rfl⟩ := List.mem_map.mp h
  exact List.length_take_le _ _

end Slices

end Lib
