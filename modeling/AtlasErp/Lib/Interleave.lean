import Mathlib

/-! # Interleaving

Blocks of different lengths, read by columns and put back together.

- `interleave_eq`: the columns in terms of positions;
- `deinterleave_interleave`: the blocks are put back from what was read, whatever follows. -/

namespace Lib

variable {α : Type*}

/-- The first `n` columns of some blocks, one after the other. -/
def interleave : Nat → List (List α) → List α
  | 0, _ => []
  | n + 1, blocks => blocks.filterMap List.head? ++ interleave n (blocks.map List.tail)

/-- Put an element in front of each block that has one left; the lengths say which. -/
def prepend : List Nat → List α → List (List α) → List (List α)
  | 0 :: lengths, xs, b :: blocks => b :: prepend lengths xs blocks
  | (_ + 1) :: lengths, x :: xs, b :: blocks => (x :: b) :: prepend lengths xs blocks
  | _, _, _ => []

/-- Blocks of some lengths, put together from their first `n` columns. -/
def deinterleave : Nat → List Nat → List α → List (List α)
  | 0, lengths, _ => lengths.map fun _ => []
  | n + 1, lengths, xs =>
    prepend lengths xs (deinterleave n (lengths.map (· - 1)) (xs.drop (lengths.countP (0 < ·))))

/-- The columns in terms of positions. -/
theorem interleave_eq (n : Nat) (blocks : List (List α)) :
    interleave n blocks = (List.range n).flatMap fun i => blocks.filterMap (·[i]?) := by
  induction n generalizing blocks with
  | zero => rfl
  | succ n ih =>
    have hhead : blocks.filterMap List.head? = blocks.filterMap (·[0]?) :=
      List.filterMap_congr fun b _ => List.head?_eq_getElem?
    have htail : ∀ i, (blocks.map List.tail).filterMap (·[i]?) = blocks.filterMap (·[i + 1]?) := by
      intro i
      rw [List.filterMap_map]
      exact List.filterMap_congr fun b _ => by simp
    rw [interleave, ih, List.range_succ_eq_map, List.flatMap_cons, List.flatMap_map, hhead]
    simp only [htail, Nat.succ_eq_add_one]

theorem length_filterMap_head (blocks : List (List α)) :
    (blocks.filterMap List.head?).length = (blocks.map List.length).countP (0 < ·) := by
  induction blocks with
  | nil => rfl
  | cons b blocks ih =>
    cases b with
    | nil => simpa [List.filterMap_cons] using ih
    | cons x b => simpa [List.filterMap_cons] using ih

/-- All the elements are in the columns. -/
theorem length_interleave {n : Nat} {blocks : List (List α)} (h : ∀ b ∈ blocks, b.length ≤ n) :
    (interleave n blocks).length = (blocks.map List.length).sum := by
  induction n generalizing blocks with
  | zero =>
    have hzero : ∀ x ∈ blocks.map List.length, x = 0 := by
      intro x hx
      obtain ⟨b, hb, rfl⟩ := List.mem_map.mp hx
      exact Nat.le_zero.mp (h b hb)
    exact (List.sum_eq_zero hzero).symm
  | succ n ih =>
    have hshort : ∀ b ∈ blocks.map List.tail, b.length ≤ n := by
      intro b hb
      obtain ⟨c, hc, rfl⟩ := List.mem_map.mp hb
      have := h c hc
      rw [List.length_tail]
      omega
    rw [interleave, List.length_append, ih hshort, length_filterMap_head]
    clear ih h hshort
    induction blocks with
    | nil => rfl
    | cons b blocks ih =>
      cases b with
      | nil => simpa using ih
      | cons x b =>
        simp only [List.map_cons, List.sum_cons, List.tail_cons, List.length_cons, List.countP_cons] at ih ⊢
        simp only [Nat.zero_lt_succ, decide_true, if_true]
        omega

theorem mem_interleave {n : Nat} {blocks : List (List α)} {x : α} (h : x ∈ interleave n blocks) :
    ∃ b ∈ blocks, x ∈ b := by
  rw [interleave_eq] at h
  obtain ⟨i, -, hx⟩ := List.mem_flatMap.mp h
  obtain ⟨b, hb, hget⟩ := List.mem_filterMap.mp hx
  exact ⟨b, hb, List.mem_of_getElem? hget⟩

/-- A column is put back in front of its blocks. -/
theorem prepend_heads (blocks : List (List α)) (rest : List α) :
    prepend (blocks.map List.length) (blocks.filterMap List.head? ++ rest) (blocks.map List.tail) = blocks := by
  induction blocks with
  | nil => rfl
  | cons b blocks ih =>
    cases b with
    | nil => simpa [prepend, List.filterMap_cons] using ih
    | cons x b => simpa [prepend, List.filterMap_cons] using ih

/-- **Round trip.** -/
theorem deinterleave_interleave {n : Nat} {blocks : List (List α)} (h : ∀ b ∈ blocks, b.length ≤ n) (rest : List α) :
    deinterleave n (blocks.map List.length) (interleave n blocks ++ rest) = blocks := by
  induction n generalizing blocks with
  | zero =>
    have hnil : ∀ b ∈ blocks, ([] : List α) = b := fun b hb =>
      (List.length_eq_zero_iff.mp (Nat.le_zero.mp (h b hb))).symm
    rw [deinterleave, List.map_map]
    exact (List.map_congr_left hnil).trans (List.map_id _)
  | succ n ih =>
    have hlengths : (blocks.map List.length).map (· - 1) = (blocks.map List.tail).map List.length := by
      simp [List.map_map]
    have hshort : ∀ b ∈ blocks.map List.tail, b.length ≤ n := by
      intro b hb
      obtain ⟨c, hc, rfl⟩ := List.mem_map.mp hb
      have := h c hc
      rw [List.length_tail]
      omega
    rw [deinterleave, interleave, hlengths, List.append_assoc, ← length_filterMap_head, List.drop_left, ih hshort,
      prepend_heads]

end Lib
