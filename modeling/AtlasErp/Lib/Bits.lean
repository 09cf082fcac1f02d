import Mathlib.Data.List.Nodup
import Mathlib.Data.Nat.Bits
import Mathlib.Tactic.Ring

/-! # Bits

Numbers as lists of bits, the most significant one first, and bitmaps.

- `ofBits_toBits`, `toBits_ofBits`: a number of a width and its bits are the same thing;
- `unpack_pack`: so are bytes and the bits they hold;
- `Bitmap.get_setAll`, `Bitmap.get_setAll_of_not_mem`: what is in a bitmap after many writes. -/

namespace Lib

/-! ## Numbers -/

/-- The bits of a number of some width. -/
def toBits : Nat → Nat → List Bool
  | 0, _ => []
  | width + 1, value => value.testBit width :: toBits width value

/-- The number of some bits. -/
def ofBits (bits : List Bool) : Nat := bits.foldl (fun value b => 2 * value + b.toNat) 0

@[simp] theorem length_toBits (width value : Nat) : (toBits width value).length = width := by
  induction width with
  | zero => rfl
  | succ width ih => rw [toBits, List.length_cons, ih]

theorem foldl_ofBits (bits : List Bool) (v : Nat) :
    bits.foldl (fun value b => 2 * value + b.toNat) v = v * 2 ^ bits.length + ofBits bits := by
  induction bits generalizing v with
  | nil => simp [ofBits]
  | cons b bits ih =>
    rw [ofBits, List.foldl_cons, List.foldl_cons, ih, ih, List.length_cons]
    ring

theorem ofBits_cons (b : Bool) (bits : List Bool) :
    ofBits (b :: bits) = b.toNat * 2 ^ bits.length + ofBits bits := by
  rw [ofBits, List.foldl_cons, foldl_ofBits]
  simp

theorem ofBits_lt (bits : List Bool) : ofBits bits < 2 ^ bits.length := by
  induction bits with
  | nil => simp [ofBits]
  | cons b bits ih =>
    have hb : b.toNat * 2 ^ bits.length ≤ 2 ^ bits.length := by
      cases b <;> simp
    rw [ofBits_cons, List.length_cons, pow_succ]
    omega

/-- The bits of a number give back what the width holds of it. -/
theorem ofBits_toBits_mod (width value : Nat) : ofBits (toBits width value) = value % 2 ^ width := by
  induction width with
  | zero => simp [toBits, ofBits, Nat.mod_one]
  | succ width ih =>
    rw [toBits, ofBits_cons, ih, length_toBits, Nat.testBit_eq_decide_div_mod_eq, pow_succ, Nat.mod_mul,
      Nat.mul_comm (2 ^ width), Nat.add_comm]
    rcases Nat.mod_two_eq_zero_or_one (value / 2 ^ width) with h | h <;> simp [h]

theorem ofBits_toBits {width value : Nat} (h : value < 2 ^ width) : ofBits (toBits width value) = value := by
  rw [ofBits_toBits_mod, Nat.mod_eq_of_lt h]

/-- Bits above a width are not read. -/
theorem toBits_add_mul (width value high : Nat) : toBits width (high * 2 ^ width + value) = toBits width value := by
  induction width generalizing high with
  | zero => rfl
  | succ width ih =>
    have hhigh : high * 2 ^ (width + 1) = high * 2 * 2 ^ width := by ring
    have hbit : (high * 2 ^ (width + 1) + value).testBit width = value.testBit width := by
      rw [Nat.testBit_eq_decide_div_mod_eq, Nat.testBit_eq_decide_div_mod_eq, hhigh, Nat.add_comm,
        Nat.add_mul_div_right _ _ (Nat.two_pow_pos width), Nat.add_mul_mod_self_right]
    rw [toBits, toBits, hbit, hhigh, ih]

/-- **Bits** of a number are read back from it. -/
theorem toBits_ofBits (bits : List Bool) : toBits bits.length (ofBits bits) = bits := by
  induction bits with
  | nil => rfl
  | cons b bits ih =>
    have hbit : (b.toNat * 2 ^ bits.length + ofBits bits).testBit bits.length = b := by
      rw [Nat.testBit_eq_decide_div_mod_eq, Nat.add_comm, Nat.add_mul_div_right _ _ (Nat.two_pow_pos _),
        Nat.div_eq_of_lt (ofBits_lt bits), Nat.zero_add]
      cases b <;> rfl
    rw [List.length_cons, toBits, ofBits_cons, hbit, toBits_add_mul, ih]

/-! ## Bytes -/

/-- The bits of some bytes. -/
def unpack (bytes : List Nat) : List Bool := bytes.flatMap (toBits 8)

/-- The bytes of some bits; what is left at the end is less than a byte. -/
def pack : List Bool → List Nat
  | b₁ :: b₂ :: b₃ :: b₄ :: b₅ :: b₆ :: b₇ :: b₈ :: bits => ofBits [b₁, b₂, b₃, b₄, b₅, b₆, b₇, b₈] :: pack bits
  | _ => []

@[simp] theorem length_unpack (bytes : List Nat) : (unpack bytes).length = 8 * bytes.length := by
  induction bytes with
  | nil => rfl
  | cons b bytes ih =>
    rw [unpack, List.flatMap_cons, List.length_append, length_toBits, List.length_cons, ← unpack, ih]
    ring

theorem unpack_append (xs ys : List Nat) : unpack (xs ++ ys) = unpack xs ++ unpack ys := List.flatMap_append

/-- Whole bytes. -/
theorem unpack_pack {bits : List Bool} (h : bits.length % 8 = 0) : unpack (pack bits) = bits := by
  induction bits using pack.induct with
  | case1 b₁ b₂ b₃ b₄ b₅ b₆ b₇ b₈ bits ih =>
    have hrest : bits.length % 8 = 0 := by
      simp only [List.length_cons] at h
      omega
    have hbyte := toBits_ofBits [b₁, b₂, b₃, b₄, b₅, b₆, b₇, b₈]
    rw [pack, unpack, List.flatMap_cons, ← unpack, ih hrest]
    exact congrArg (· ++ bits) hbyte
  | case2 bits hshort =>
    match bits, hshort, h with
    | [], _, _ => rfl
    | [_], _, h | [_, _], _, h | [_, _, _], _, h | [_, _, _, _], _, h | [_, _, _, _, _], _, h
    | [_, _, _, _, _, _], _, h | [_, _, _, _, _, _, _], _, h => simp at h
    | b₁ :: b₂ :: b₃ :: b₄ :: b₅ :: b₆ :: b₇ :: b₈ :: bits, hshort, _ => exact absurd rfl (hshort _ _ _ _ _ _ _ _ _)

theorem toBits_eight (b : Nat) : toBits 8 b = [b.testBit 7, b.testBit 6, b.testBit 5, b.testBit 4, b.testBit 3,
    b.testBit 2, b.testBit 1, b.testBit 0] := rfl

/-- **Bytes** are read back from their bits, whatever bits less than a byte follow. -/
theorem pack_unpack_append {bytes : List Nat} (h : ∀ b ∈ bytes, b < 256) {rest : List Bool} (hrest : rest.length < 8) :
    pack (unpack bytes ++ rest) = bytes := by
  induction bytes with
  | nil =>
    match rest, hrest with
    | [], _ | [_], _ | [_, _], _ | [_, _, _], _ | [_, _, _, _], _ | [_, _, _, _, _], _ | [_, _, _, _, _, _], _
    | [_, _, _, _, _, _, _], _ => rfl
    | _ :: _ :: _ :: _ :: _ :: _ :: _ :: _ :: _, hrest => exact absurd hrest (by simp only [List.length_cons]; omega)
  | cons b bytes ih =>
    have hb := @ofBits_toBits 8 b (h b List.mem_cons_self)
    rw [toBits_eight] at hb
    have hstep : pack (unpack (b :: bytes) ++ rest) =
        ofBits [b.testBit 7, b.testBit 6, b.testBit 5, b.testBit 4, b.testBit 3, b.testBit 2, b.testBit 1,
          b.testBit 0] :: pack (unpack bytes ++ rest) := rfl
    rw [hstep, hb, ih fun x hx => h x (List.mem_cons_of_mem _ hx)]

theorem length_pack (bits : List Bool) : (pack bits).length = bits.length / 8 := by
  induction bits using pack.induct with
  | case1 b₁ b₂ b₃ b₄ b₅ b₆ b₇ b₈ bits ih =>
    rw [pack, List.length_cons, ih]
    simp only [List.length_cons]
    omega
  | case2 bits hshort =>
    match bits, hshort with
    | [], _ | [_], _ | [_, _], _ | [_, _, _], _ | [_, _, _, _], _ | [_, _, _, _, _], _ | [_, _, _, _, _, _], _
    | [_, _, _, _, _, _, _], _ => simp [pack]
    | b₁ :: b₂ :: b₃ :: b₄ :: b₅ :: b₆ :: b₇ :: b₈ :: bits, hshort => exact absurd rfl (hshort _ _ _ _ _ _ _ _ _)

/-! ## Bitmaps -/

/-- An array of bits, none of which is set where nothing was written. -/
structure Bitmap where
  bits : Nat
  deriving DecidableEq

namespace Bitmap

def empty : Bitmap := ⟨0⟩

def get (b : Bitmap) (i : Nat) : Bool := b.bits.testBit i

def set (b : Bitmap) (i : Nat) (v : Bool) : Bitmap := if b.get i = v then b else ⟨b.bits ^^^ (1 <<< i)⟩

@[simp] theorem get_empty (i : Nat) : empty.get i = false := Nat.zero_testBit i

theorem get_set (b : Bitmap) (i j : Nat) (v : Bool) : (b.set i v).get j = if j = i then v else b.get j := by
  unfold set
  by_cases hsame : b.get i = v
  · rw [if_pos hsame]
    split
    · rename_i hji
      rw [hji, hsame]
    · rfl
  · have hbit : (1 <<< i : Nat).testBit j = decide (i = j) := by
      rw [Nat.one_shiftLeft, Nat.testBit_two_pow]
    rw [if_neg hsame]
    show (b.bits ^^^ (1 <<< i)).testBit j = _
    rw [Nat.testBit_xor, hbit]
    by_cases hji : j = i
    · subst hji
      have hflip : v = !b.get j := by
        cases hv : v <;> cases hg : b.get j <;> simp_all
      simp [hflip, get]
    · have hij : i ≠ j := fun h => hji h.symm
      simp [hji, hij, get]

/-- Writes, one after the other. -/
def setAll (b : Bitmap) (writes : List (Nat × Bool)) : Bitmap := writes.foldl (fun b w => b.set w.1 w.2) b

theorem get_setAll_of_not_mem {b : Bitmap} {writes : List (Nat × Bool)} {i : Nat} (h : ∀ w ∈ writes, w.1 ≠ i) :
    (b.setAll writes).get i = b.get i := by
  induction writes generalizing b with
  | nil => rfl
  | cons w writes ih =>
    have hne : i ≠ w.1 := fun heq => h w List.mem_cons_self heq.symm
    show ((b.set w.1 w.2).setAll writes).get i = _
    rw [ih fun x hx => h x (List.mem_cons_of_mem _ hx), get_set, if_neg hne]

/-- A place where all the writes agree. -/
theorem get_setAll {b : Bitmap} {writes : List (Nat × Bool)} {i : Nat} {v : Bool} (hmem : (i, v) ∈ writes)
    (h : ∀ w ∈ writes, w.1 = i → w.2 = v) : (b.setAll writes).get i = v := by
  induction writes generalizing b with
  | nil => cases hmem
  | cons w writes ih =>
    have hrest : ∀ x ∈ writes, x.1 = i → x.2 = v := fun x hx => h x (List.mem_cons_of_mem _ hx)
    show ((b.set w.1 w.2).setAll writes).get i = _
    by_cases hin : (i, v) ∈ writes
    · exact ih hin hrest
    · -- the last write at this place is this one
      have hw : w = (i, v) := ((List.mem_cons.mp hmem).resolve_right hin).symm
      have hnone : ∀ x ∈ writes, x.1 ≠ i := fun x hx heq =>
        hin (by rw [← heq, ← hrest x hx heq]; exact hx)
      rw [get_setAll_of_not_mem hnone, hw, get_set, if_pos rfl]

/-- Writes at different places. -/
theorem get_setAll_of_nodup {b : Bitmap} {writes : List (Nat × Bool)} (hnodup : (writes.map Prod.fst).Nodup) {i : Nat}
    {v : Bool} (hmem : (i, v) ∈ writes) : (b.setAll writes).get i = v :=
  get_setAll hmem fun w hw heq =>
    congrArg Prod.snd (List.inj_on_of_nodup_map hnodup hw hmem heq : w = (i, v))

end Bitmap

end Lib
