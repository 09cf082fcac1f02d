import AtlasErp.Lib.Chars
import Mathlib.Data.Char
import Mathlib.Data.List.Lex
import Mathlib.Tactic.Linarith
import Mathlib.Tactic.Ring

/-! # Decimal texts

Natural numbers as lists of decimal digits, padded with zeros on the left to a width.

- `value_pad`: a padded text is read back as its number;
- `lt_iff_value_lt`: among texts of one length the order of texts is the order of numbers;
- `pad_overflow_lt`: the first number that outgrows its width comes before the last that fits. -/

namespace Lib

namespace Decimal

/-! ## Reading -/

/-- The number a digit stands for. -/
def digitValue (c : Char) : Nat := c.toNat - 48

/-- The number a text of digits stands for. -/
def value (cs : List Char) : Nat := cs.foldl (fun v c => 10 * v + digitValue c) 0

/-- Is every character a decimal digit? -/
def AllDigits (cs : List Char) : Prop := ∀ c ∈ cs, c.isDigit = true

instance (cs : List Char) : Decidable (AllDigits cs) := inferInstanceAs (Decidable (∀ c ∈ cs, _))

theorem foldl_value (cs : List Char) (v : Nat) :
    cs.foldl (fun v c => 10 * v + digitValue c) v = v * 10 ^ cs.length + value cs := by
  induction cs generalizing v with
  | nil => simp [value]
  | cons c cs ih =>
    rw [value, List.foldl_cons, List.foldl_cons, ih, ih, List.length_cons]
    ring

theorem value_append (cs ds : List Char) : value (cs ++ ds) = value cs * 10 ^ ds.length + value ds := by
  rw [value, List.foldl_append, foldl_value]
  rfl

theorem value_cons (c : Char) (cs : List Char) :
    value (c :: cs) = digitValue c * 10 ^ cs.length + value cs := by
  rw [value, List.foldl_cons, foldl_value]
  simp

@[simp] theorem value_nil : value [] = 0 := rfl

theorem isDigit_iff (c : Char) : c.isDigit = true ↔ 48 ≤ c.toNat ∧ c.toNat ≤ 57 :=
  Char.isDigit_iff_toNat

theorem digitValue_lt {c : Char} (h : c.isDigit = true) : digitValue c < 10 := by
  have := (isDigit_iff c).mp h
  unfold digitValue
  omega

theorem value_lt {cs : List Char} (h : AllDigits cs) : value cs < 10 ^ cs.length := by
  induction cs with
  | nil => simp
  | cons c cs ih =>
    have hc := digitValue_lt (h c List.mem_cons_self)
    have hcs := ih fun d hd => h d (List.mem_cons_of_mem _ hd)
    rw [value_cons, List.length_cons, pow_succ]
    nlinarith

/-! ## Order -/

theorem char_lt_iff {c d : Char} : c < d ↔ c.toNat < d.toNat := Iff.rfl

/-- Among texts of one length, the order of texts is the order of numbers. -/
theorem lt_iff_value_lt {cs ds : List Char} (hcs : AllDigits cs) (hds : AllDigits ds)
    (hlen : cs.length = ds.length) : cs < ds ↔ value cs < value ds := by
  induction cs generalizing ds with
  | nil =>
    obtain rfl : ds = [] := List.length_eq_zero_iff.mp hlen.symm
    simp
  | cons c cs ih =>
    cases ds with
    | nil => cases hlen
    | cons d ds =>
      have hlen' : cs.length = ds.length := by simpa using hlen
      have hcs' : AllDigits cs := fun x hx => hcs x (List.mem_cons_of_mem _ hx)
      have hds' : AllDigits ds := fun x hx => hds x (List.mem_cons_of_mem _ hx)
      have hc := (isDigit_iff c).mp (hcs c List.mem_cons_self)
      have hd := (isDigit_iff d).mp (hds d List.mem_cons_self)
      have hvc := value_lt hcs'
      have hvd := value_lt hds'
      rw [List.cons_lt_cons_iff, value_cons, value_cons, ih hcs' hds' hlen', hlen', char_lt_iff]
      rw [hlen'] at hvc
      unfold digitValue
      constructor
      · rintro (hlt | ⟨rfl, hlt⟩)
        · have : (c.toNat - 48 + 1) * 10 ^ ds.length ≤ (d.toNat - 48) * 10 ^ ds.length :=
            Nat.mul_le_mul_right _ (by omega)
          rw [Nat.add_mul, one_mul] at this
          omega
        · omega
      · intro hlt
        rcases lt_trichotomy c.toNat d.toNat with hcd | hcd | hcd
        · exact .inl hcd
        · obtain rfl : c = d := Char.toNat_inj.mp hcd
          exact .inr ⟨rfl, by omega⟩
        · have : (d.toNat - 48 + 1) * 10 ^ ds.length ≤ (c.toNat - 48) * 10 ^ ds.length :=
            Nat.mul_le_mul_right _ (by omega)
          rw [Nat.add_mul, one_mul] at this
          omega

/-! ## Writing -/

/-- A number in decimal digits, with zeros on the left up to a width. -/
def pad (width n : Nat) : List Char := List.leftpad width '0' (Nat.toDigits 10 n)

theorem allDigits_toDigits (n : Nat) : AllDigits (Nat.toDigits 10 n) := fun _ hc =>
  Nat.isDigit_of_mem_toDigits (by decide) (by decide) hc

theorem allDigits_pad (width n : Nat) : AllDigits (pad width n) := by
  intro c hc
  rcases List.mem_append.mp hc with hc | hc
  · rw [(List.mem_replicate.mp hc).2]
    decide
  · exact allDigits_toDigits n c hc

theorem digitValue_digitChar : ∀ {d : Nat}, d < 10 → digitValue d.digitChar = d := by
  decide

theorem value_toDigits (n : Nat) : value (Nat.toDigits 10 n) = n := by
  induction n using Nat.strongRecOn with
  | _ n ih =>
    rw [Nat.toDigits_eq_if (by decide)]
    split
    · rename_i hlt
      simp [value_cons, digitValue_digitChar hlt]
    · rename_i hge
      have hsmall : n / 10 < n := Nat.div_lt_self (by omega) (by decide)
      rw [value_append, ih _ hsmall, value_cons, digitValue_digitChar (Nat.mod_lt n (by decide))]
      simp only [List.length_singleton, List.length_nil, pow_one, pow_zero, mul_one, value_nil, add_zero]
      omega

theorem value_replicate (k : Nat) : value (List.replicate k '0') = 0 := by
  induction k with
  | zero => rfl
  | succ k ih =>
    rw [List.replicate_succ, value_cons, ih, show digitValue '0' = 0 from rfl]
    omega

/-- A padded text is read back as its number. -/
theorem value_pad (width n : Nat) : value (pad width n) = n := by
  rw [pad, List.leftpad, value_append, value_replicate, value_toDigits]
  omega

theorem pad_injective (width : Nat) : Function.Injective (pad width) := fun n m h => by
  rw [← value_pad width n, h, value_pad]

/-- A number that fits its width is padded to it. -/
theorem length_pad {width n : Nat} (hwidth : 0 < width) (h : n < 10 ^ width) :
    (pad width n).length = width := by
  have hlen := (Nat.length_toDigits_le_iff (by decide) hwidth).mpr h
  simp only [pad, List.leftpad, List.length_append, List.length_replicate]
  omega

theorem pad_ne_nil (width n : Nat) : pad width n ≠ [] := by
  simp [pad, List.leftpad, Nat.toDigits_ne_nil]

/-- A text of a number's own length is its padding to it. -/
theorem eq_pad_of_value {cs : List Char} (h : AllDigits cs) (hlen : 0 < cs.length) :
    cs = pad cs.length (value cs) := by
  have hpad := length_pad hlen (value_lt h)
  rcases lt_trichotomy cs (pad cs.length (value cs)) with hlt | heq | hgt
  · have := (lt_iff_value_lt h (allDigits_pad _ _) hpad.symm).mp hlt
    rw [value_pad] at this
    omega
  · exact heq
  · have := (lt_iff_value_lt (allDigits_pad _ _) h hpad).mp hgt
    rw [value_pad] at this
    omega

/-- The last number that fits a width is all nines. -/
theorem pad_last {width : Nat} (hwidth : 0 < width) :
    pad width (10 ^ width - 1) = List.replicate width '9' := by
  have hvalue : ∀ k, value (List.replicate k '9') = 10 ^ k - 1 := by
    intro k
    induction k with
    | zero => rfl
    | succ k ih =>
      have hpos : 0 < 10 ^ k := Nat.pow_pos (by decide)
      rw [List.replicate_succ, value_cons, ih, List.length_replicate, pow_succ,
        show digitValue '9' = 9 from rfl]
      omega
  have hdigits : AllDigits (List.replicate width '9') := by
    intro c hc
    rw [(List.mem_replicate.mp hc).2]
    decide
  have := eq_pad_of_value hdigits (by simpa using hwidth)
  rw [hvalue, List.length_replicate] at this
  exact this.symm

/-- The first number that outgrows a width is a one and zeros. -/
theorem pad_overflow {width : Nat} (hwidth : 0 < width) :
    pad width (10 ^ width) = '1' :: List.replicate width '0' := by
  have hdigits : AllDigits ('1' :: List.replicate width '0') := by
    intro c hc
    rcases List.mem_cons.mp hc with rfl | hc
    · decide
    · rw [(List.mem_replicate.mp hc).2]
      decide
  have hlong : ¬(Nat.toDigits 10 (10 ^ width)).length ≤ width := fun h =>
    absurd ((Nat.length_toDigits_le_iff (by decide) hwidth).mp h) (Nat.lt_irrefl _)
  have hshort : (Nat.toDigits 10 (10 ^ width)).length ≤ width + 1 :=
    (Nat.length_toDigits_le_iff (by decide) (by omega)).mpr (Nat.pow_lt_pow_right (by decide) (by omega))
  have hsame : pad width (10 ^ width) = pad (width + 1) (10 ^ width) := by
    simp only [pad, List.leftpad, show width - (Nat.toDigits 10 (10 ^ width)).length = 0 by omega,
      show width + 1 - (Nat.toDigits 10 (10 ^ width)).length = 0 by omega]
  have := eq_pad_of_value hdigits (by simp)
  rw [value_cons, value_replicate, List.length_cons, List.length_replicate, show digitValue '1' = 1 from rfl,
    one_mul, add_zero, ← hsame] at this
  exact this.symm

/-- The first number that outgrows its width comes, as a text, before the last one that fits. -/
theorem pad_overflow_lt {width : Nat} (hwidth : 0 < width) :
    pad width (10 ^ width) < pad width (10 ^ width - 1) := by
  obtain ⟨k, rfl⟩ : ∃ k, width = k + 1 := ⟨width - 1, by omega⟩
  rw [pad_overflow hwidth, pad_last hwidth, List.replicate_succ]
  exact List.cons_lt_cons_iff.mpr (.inl (by decide))

end Decimal

end Lib
