import Mathlib.Data.List.Basic
import Mathlib.Data.Nat.Digits.Defs

/-! # Hexadecimal texts

- `Hex.text`: bytes in lower case;
- `Hex.bytes`: what is read of a text, up to the first pair that is not two digits;
- `Hex.bytes_text`, `Hex.text_bytes`: each undoes the other, **on texts in lower case**. -/

namespace Lib

namespace Hex

/-- A byte as two digits in lower case. -/
def digits (byte : UInt8) : List Char := [Nat.digitChar (byte.toNat / 16), Nat.digitChar (byte.toNat % 16)]

def text (bytes : List UInt8) : List Char := bytes.flatMap digits

/-- The value of a digit in either case. -/
def value? (c : Char) : Option Nat :=
  if c.isDigit then some (c.toNat - 48)
  else if 'a' ≤ c ∧ c ≤ 'f' then some (c.toNat - 87)
  else if 'A' ≤ c ∧ c ≤ 'F' then some (c.toNat - 55)
  else none

def bytes : List Char → List UInt8
  | high :: low :: rest =>
    match value? high, value? low with
    | some x, some y => UInt8.ofNat (16 * x + y) :: bytes rest
    | _, _ => []
  | _ => []

/-- `[0-9a-f]`. -/
def isLower (c : Char) : Bool := c.isDigit ∨ 'a' ≤ c ∧ c ≤ 'f'

theorem value?_digitChar : ∀ {d : Nat}, d < 16 → value? d.digitChar = some d ∧ isLower d.digitChar = true := by
  decide

/-- A digit in lower case is the one of its value. -/
theorem exists_of_isLower {c : Char} (h : isLower c = true) : ∃ d < 16, value? c = some d ∧ d.digitChar = c := by
  have hcode : ∃ d < 16, d.digitChar.toNat = c.toNat := by
    rcases of_decide_eq_true h with hdigit | ⟨hlow, hhigh⟩
    · have hrange : 48 ≤ c.toNat ∧ c.toNat ≤ 57 := by
        simp only [Char.isDigit, Bool.and_eq_true, decide_eq_true_eq] at hdigit
        exact hdigit
      have hall : ∀ k < 10, (Nat.digitChar k).toNat = k + 48 := by decide
      exact ⟨c.toNat - 48, by omega, (hall _ (by omega)).trans (by omega)⟩
    · have hrange : 97 ≤ c.toNat ∧ c.toNat ≤ 102 := ⟨hlow, hhigh⟩
      have hall : ∀ k < 6, (Nat.digitChar (k + 10)).toNat = k + 97 := by decide
      exact ⟨c.toNat - 97 + 10, by omega, (hall _ (by omega)).trans (by omega)⟩
  obtain ⟨d, hd, hcode⟩ := hcode
  have hc : d.digitChar = c := Char.toNat_inj.mp hcode
  exact ⟨d, hd, hc ▸ (value?_digitChar hd).1, hc⟩

theorem bytes_text (data : List UInt8) : bytes (text data) = data := by
  induction data with
  | nil => rfl
  | cons byte data ih =>
    have hbyte := byte.toNat_lt
    have hvalue : 16 * (byte.toNat / 16) + byte.toNat % 16 = byte.toNat := Nat.div_add_mod ..
    rw [text, List.flatMap_cons, digits, List.cons_append, List.cons_append, List.nil_append, bytes,
      (value?_digitChar (by omega)).1, (value?_digitChar (Nat.mod_lt _ (by decide))).1]
    simp only [hvalue, UInt8.ofNat_toNat]
    rw [← text, ih]

theorem length_text (data : List UInt8) : (text data).length = 2 * data.length := by
  simp [text, digits, List.length_flatMap, Nat.mul_comm]

theorem isLower_text (data : List UInt8) : ∀ c ∈ text data, isLower c = true := by
  intro c hc
  obtain ⟨byte, -, hmem⟩ := List.mem_flatMap.mp hc
  have hbyte := byte.toNat_lt
  simp only [digits, List.mem_cons, List.not_mem_nil, or_false] at hmem
  rcases hmem with rfl | rfl
  · exact (value?_digitChar (by omega)).2
  · exact (value?_digitChar (Nat.mod_lt _ (by decide))).2

/-- A text in lower case with an even length is the text of its bytes. -/
theorem text_bytes {n : Nat} {cs : List Char} (hlower : ∀ c ∈ cs, isLower c = true) (hlength : cs.length = 2 * n) :
    text (bytes cs) = cs := by
  induction n generalizing cs with
  | zero =>
    rw [List.length_eq_zero_iff.mp hlength]
    rfl
  | succ n ih =>
    match cs, hlength with
    | high :: low :: rest, hlength =>
      obtain ⟨x, hx, hxvalue, hhigh⟩ := exists_of_isLower (hlower high (by simp))
      obtain ⟨y, hy, hyvalue, hlow⟩ := exists_of_isLower (hlower low (by simp))
      have hrest : text (bytes rest) = rest := ih (fun c hc => hlower c (by simp [hc])) (by simp at hlength; omega)
      have hbyte : (UInt8.ofNat (16 * x + y)).toNat = 16 * x + y := by
        rw [UInt8.toNat_ofNat']
        omega
      have hdiv : (16 * x + y) / 16 = x := by omega
      have hmod : (16 * x + y) % 16 = y := by omega
      simp only [bytes, hxvalue, hyvalue]
      rw [text, List.flatMap_cons, digits, hbyte, hdiv, hmod, hhigh, hlow, ← text, hrest]
      rfl

/-- **A text in lower case** reads as some bytes only when it is their text. -/
theorem bytes_eq_iff {cs : List Char} {data : List UInt8} (hlower : ∀ c ∈ cs, isLower c = true)
    (hlength : cs.length = 2 * data.length) : bytes cs = data ↔ cs = text data := by
  constructor
  · rintro rfl
    exact (text_bytes hlower hlength).symm
  · rintro rfl
    exact bytes_text data

end Hex

end Lib
