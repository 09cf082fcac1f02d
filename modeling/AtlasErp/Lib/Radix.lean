import AtlasErp.Lib.Decimal

/-! # Texts of digits in a base up to sixteen

- `radixValue`: the number that a text of digits stands for, letters in either case;
- `radixValue_toDigits`, `radixValue_toUpper`: what is written is read back, also in capital letters;
- `radixPad`: digits with zeros on the left. -/

namespace Lib

/-- The value of a digit. -/
def radixDigit (c : Char) : Nat :=
  if c.isDigit then c.toNat - 48 else if 'A' ≤ c ∧ c ≤ 'F' then c.toNat - 55 else c.toNat - 87

/-- The number that a text of digits stands for. -/
def radixValue (base : Nat) (cs : List Char) : Nat := cs.foldl (fun v c => base * v + radixDigit c) 0

/-- Digits with zeros on the left. -/
def radixPad (base width n : Nat) : List Char := List.leftpad width '0' (Nat.toDigits base n)

section Radix

variable {base : Nat}

theorem foldl_radixValue (cs : List Char) (v : Nat) :
    cs.foldl (fun v c => base * v + radixDigit c) v = v * base ^ cs.length + radixValue base cs := by
  induction cs generalizing v with
  | nil => simp [radixValue]
  | cons c cs ih =>
    have hcons : radixValue base (c :: cs) = (base * 0 + radixDigit c) * base ^ cs.length + radixValue base cs := ih _
    rw [List.foldl_cons, ih, hcons, List.length_cons, pow_succ]
    ring

theorem radixValue_append (cs ds : List Char) :
    radixValue base (cs ++ ds) = radixValue base cs * base ^ ds.length + radixValue base ds := by
  rw [radixValue, List.foldl_append, foldl_radixValue]
  rfl

theorem radixValue_singleton (c : Char) : radixValue base [c] = radixDigit c := by
  simp [radixValue]

theorem radixValue_replicate (k : Nat) : radixValue base (List.replicate k '0') = 0 := by
  induction k with
  | zero => rfl
  | succ k ih => rw [List.replicate_succ', radixValue_append, ih, Nat.zero_mul, radixValue_singleton]; rfl

theorem radixDigit_digitChar : ∀ {d : Nat}, d < 16 → radixDigit d.digitChar = d := by
  decide

/-- **What is written is read back.** -/
theorem radixValue_toDigits (hbase : 1 < base) (hmax : base ≤ 16) (n : Nat) :
    radixValue base (Nat.toDigits base n) = n := by
  induction n using Nat.strongRecOn with
  | _ n ih =>
    rw [Nat.toDigits_eq_if hbase]
    split
    next hlt => rw [radixValue_singleton, radixDigit_digitChar (by omega)]
    next hge =>
      have hsmall : n / base < n := Nat.div_lt_self (by omega) hbase
      have hmod : n % base < 16 := (Nat.mod_lt n (by omega)).trans_le hmax
      rw [radixValue_append, ih _ hsmall, radixValue_singleton, radixDigit_digitChar hmod, List.length_singleton, pow_one]
      exact Nat.div_add_mod' n base

/-- A digit that is written is one of the base. -/
theorem exists_digitChar_of_mem (hbase : 1 < base) {n : Nat} {c : Char} (hc : c ∈ Nat.toDigits base n) :
    ∃ d < base, c = d.digitChar := by
  induction n using Nat.strongRecOn with
  | _ n ih =>
    rw [Nat.toDigits_eq_if hbase] at hc
    split at hc
    next hlt => exact ⟨n, hlt, List.mem_singleton.mp hc⟩
    next hge =>
      rcases List.mem_append.mp hc with hc | hc
      · exact ih _ (Nat.div_lt_self (by omega) hbase) hc
      · exact ⟨n % base, Nat.mod_lt n (by omega), List.mem_singleton.mp hc⟩

theorem radixDigit_toUpper : ∀ {d : Nat}, d < 16 → radixDigit d.digitChar.toUpper = d := by
  decide

/-- Capital letters have the same value. -/
theorem radixValue_toUpper (hbase : 1 < base) (hmax : base ≤ 16) (n : Nat) :
    radixValue base ((Nat.toDigits base n).map Char.toUpper) = n := by
  have hsame : ∀ cs : List Char, (∀ c ∈ cs, ∃ d < base, c = d.digitChar) →
      radixValue base (cs.map Char.toUpper) = radixValue base cs := by
    intro cs hcs
    rw [radixValue, List.foldl_map, radixValue]
    refine List.foldl_ext _ _ 0 fun v c hc => ?_
    obtain ⟨d, hd, rfl⟩ := hcs c hc
    rw [radixDigit_toUpper (by omega), radixDigit_digitChar (by omega)]
  rw [hsame _ fun c hc => exists_digitChar_of_mem hbase hc, radixValue_toDigits hbase hmax]

theorem radixValue_pad (hbase : 1 < base) (hmax : base ≤ 16) (width n : Nat) :
    radixValue base (radixPad base width n) = n := by
  rw [radixPad, List.leftpad, radixValue_append, radixValue_replicate, radixValue_toDigits hbase hmax, Nat.zero_mul,
    Nat.zero_add]

/-- A number that fits its width is padded to it. -/
theorem length_radixPad (hbase : 1 < base) {width n : Nat} (hwidth : 0 < width) (h : n < base ^ width) :
    (radixPad base width n).length = width := by
  have hlen := (Nat.length_toDigits_le_iff hbase hwidth).mpr h
  rw [radixPad, List.length_leftpad]
  exact Nat.max_eq_left hlen

theorem exists_digitChar_of_mem_pad (hbase : 1 < base) {width n : Nat} {c : Char} (hc : c ∈ radixPad base width n) :
    ∃ d < base, c = d.digitChar := by
  rcases List.mem_append.mp hc with hc | hc
  · exact ⟨0, by omega, List.eq_of_mem_replicate hc⟩
  · exact exists_digitChar_of_mem hbase hc

end Radix

end Lib
