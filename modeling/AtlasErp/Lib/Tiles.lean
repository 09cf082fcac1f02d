import Mathlib.Data.List.Forall2
import Mathlib.Data.Int.Order.Basic
import Mathlib.Tactic.Common

/-! # Intervals that follow each other

A list of closed intervals of integers where each one starts right after the end of the one before it, and the last has
no end.  An interval may be empty or turned round.

- `Tiles`: such a list from a start on;
- `Tiles.exists_find?`: from the start on every number is found in an interval;
- `Tiles.find?_mono`: a greater number is not found earlier;
- `Tiles.countP_eq_one`: when no interval is turned round, a number is in one interval only. -/

namespace Lib

section Tiles

variable {α : Type*} (lo : α → Int) (hi : α → Option Int)

/-- The interval holds the number. -/
def holds (n : Int) (a : α) : Bool := lo a ≤ n ∧ (hi a).all (n ≤ ·)

/-- Intervals that follow each other from a start on. -/
inductive Tiles : Int → List α → Prop
  | last {a : α} (hopen : hi a = none) : Tiles (lo a) [a]
  | cons {a : α} {stop : Int} {as : List α} (hstop : hi a = some stop) (hrest : Tiles (stop + 1) as) :
      Tiles (lo a) (a :: as)

variable {lo hi} {start n n' stop : Int} {a b : α} {as : List α}

theorem holds_iff_of_open (hopen : hi a = none) : holds lo hi n a = true ↔ lo a ≤ n := by
  simp [holds, hopen]

theorem holds_iff_of_stop (hstop : hi a = some stop) : holds lo hi n a = true ↔ lo a ≤ n ∧ n ≤ stop := by
  simp [holds, hstop]

theorem Tiles.ne_nil (h : Tiles lo hi start as) : as ≠ [] := by
  cases h <;> simp

/-- **Every number from the start on is found.** -/
theorem Tiles.exists_find? (h : Tiles lo hi start as) (hn : start ≤ n) : ∃ b, as.find? (holds lo hi n) = some b := by
  induction h with
  | @last a hopen =>
    have hholds : holds lo hi n a = true := (holds_iff_of_open hopen).mpr hn
    exact ⟨a, by simp [hholds]⟩
  | @cons a stop as hstop hrest ih =>
    by_cases hle : n ≤ stop
    · have hholds : holds lo hi n a = true := (holds_iff_of_stop hstop).mpr ⟨hn, hle⟩
      exact ⟨a, by simp [hholds]⟩
    · obtain ⟨b, hb⟩ := ih (by omega)
      have hnot : ¬holds lo hi n a = true := fun hholds => hle ((holds_iff_of_stop hstop).mp hholds).2
      exact ⟨b, by rw [List.find?_cons_of_neg hnot, hb]⟩

/-- **A greater number is not found earlier**: whatever does not decrease along the list does not decrease. -/
theorem Tiles.find?_mono {rank : α → Int} (h : Tiles lo hi start as) (hsorted : as.Pairwise (rank · ≤ rank ·))
    (hn : start ≤ n) (hle : n ≤ n') (ha : as.find? (holds lo hi n) = some a)
    (hb : as.find? (holds lo hi n') = some b) : rank a ≤ rank b := by
  induction h with
  | @last c hopen =>
    have hca : a = c := List.mem_singleton.mp (List.mem_of_find?_eq_some ha)
    have hcb : b = c := List.mem_singleton.mp (List.mem_of_find?_eq_some hb)
    rw [hca, hcb]
  | @cons c stop as hstop hrest ih =>
    obtain ⟨hfirst, hsorted⟩ := List.pairwise_cons.mp hsorted
    by_cases hstay : n ≤ stop
    · have hholds : holds lo hi n c = true := (holds_iff_of_stop hstop).mpr ⟨hn, hstay⟩
      rw [List.find?_cons_of_pos hholds] at ha
      obtain rfl := Option.some.inj ha
      rcases List.mem_cons.mp (List.mem_of_find?_eq_some hb) with heq | hmem
      · rw [heq]
      · exact hfirst b hmem
    · have hnot : ∀ m, n ≤ m → ¬holds lo hi m c = true := fun m hm hholds => by
        have := ((holds_iff_of_stop hstop).mp hholds).2
        omega
      rw [List.find?_cons_of_neg (hnot n le_rfl)] at ha
      rw [List.find?_cons_of_neg (hnot n' hle)] at hb
      exact ih hsorted (by omega) ha hb

/-- Below the start no interval that is not turned round holds anything. -/
theorem Tiles.countP_eq_zero (h : Tiles lo hi start as) (hproper : ∀ a ∈ as, ∀ stop ∈ hi a, lo a ≤ stop)
    (hn : n < start) : as.countP (holds lo hi n) = 0 := by
  induction h with
  | @last c hopen =>
    have hnot : ¬holds lo hi n c = true := fun hholds => by
      have := (holds_iff_of_open hopen).mp hholds
      omega
    rw [List.countP_cons_of_neg hnot, List.countP_nil]
  | @cons c stop as hstop hrest ih =>
    have hlo : lo c ≤ stop := hproper c List.mem_cons_self stop hstop
    have hnot : ¬holds lo hi n c = true := fun hholds => by
      have := ((holds_iff_of_stop hstop).mp hholds).1
      omega
    rw [List.countP_cons_of_neg hnot]
    exact ih (fun a ha => hproper a (List.mem_cons_of_mem c ha)) (by omega)

/-- **A number is in one interval.** -/
theorem Tiles.countP_eq_one (h : Tiles lo hi start as) (hproper : ∀ a ∈ as, ∀ stop ∈ hi a, lo a ≤ stop)
    (hn : start ≤ n) : as.countP (holds lo hi n) = 1 := by
  induction h with
  | @last c hopen =>
    have hholds : holds lo hi n c = true := (holds_iff_of_open hopen).mpr hn
    rw [List.countP_cons_of_pos hholds, List.countP_nil]
  | @cons c stop as hstop hrest ih =>
    have hproper' : ∀ a ∈ as, ∀ stop ∈ hi a, lo a ≤ stop := fun a ha => hproper a (List.mem_cons_of_mem c ha)
    by_cases hle : n ≤ stop
    · have hholds : holds lo hi n c = true := (holds_iff_of_stop hstop).mpr ⟨hn, hle⟩
      rw [List.countP_cons_of_pos hholds, hrest.countP_eq_zero hproper' (by omega)]
    · have hnot : ¬holds lo hi n c = true := fun hholds => hle ((holds_iff_of_stop hstop).mp hholds).2
      rw [List.countP_cons_of_neg hnot]
      exact ih hproper' (by omega)

end Tiles

end Lib
