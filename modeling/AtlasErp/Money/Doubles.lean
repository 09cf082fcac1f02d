import AtlasErp.Common.Numbers
import AtlasErp.Fiscal.CanonicalAmounts

/-! # Numbers and texts of JavaScript

- `Double.nearest`: the double of a number;
- `numberOfText`: `Number(text)`;
- `numberOfText_plain`, `numberOfText_scientific`: a decimal text is the double of its number, and so with an exponent. -/

namespace AtlasErp

open Lib

/-- A `number`: a binary64 value, whatever the sign of a zero. -/
inductive Double where
  | finite (value : ℚ)
  | infinite (negative : Bool)
  | nan
  deriving DecidableEq

/-- `===`, and not of `NaN`. -/
def Double.same : Double → Double → Bool
  | .finite x, .finite y => x = y
  | .infinite negative, .infinite negative' => negative = negative'
  | _, _ => false

/-- The value of a finite number. -/
def Double.finite? : Double → Option ℚ
  | .finite x => some x
  | _ => none

theorem Double.same_iff {x y : Double} : x.same y = true ↔ x = y ∧ x ≠ .nan := by
  cases x <;> cases y <;> simp [Double.same]

/-- The double nearest to a number, a tie to the even one. -/
def Double.nearest (x : ℚ) : Double :=
  if x = 0 then .finite 0
  else
    let ulp := (2 : ℚ) ^ (max (floorLog2 |x|) (-1022) - 52)
    let below := ⌊|x| / ulp⌋
    let rest := |x| / ulp - below
    let rounded := (if rest > 1 / 2 ∨ rest = 1 / 2 ∧ below % 2 = 1 then below + 1 else below) * ulp
    if 2 ^ 1024 ≤ rounded then .infinite (x < 0) else .finite (if x < 0 then -rounded else rounded)

theorem Double.nearest_ne_nan (x : ℚ) : Double.nearest x ≠ .nan := by
  unfold Double.nearest
  dsimp only
  repeat' split
  all_goals exact fun h => by cases h

/-! ## `Number(text)` -/

/-- The value of a digit in a base. -/
def digitIn (radix : Nat) (c : Char) : Option Nat :=
  let value :=
    if c.isDigit then some (c.toNat - 48)
    else if 'a' ≤ c ∧ c ≤ 'f' then some (c.toNat - 87)
    else if 'A' ≤ c ∧ c ≤ 'F' then some (c.toNat - 55)
    else none
  value.filter (· < radix)

/-- A literal without a sign in base 16, 8 or 2: its base and its digits. -/
def radixLiteral : Text → Option (Nat × Text)
  | '0' :: c :: digits =>
    if c = 'x' ∨ c = 'X' then some (16, digits)
    else if c = 'o' ∨ c = 'O' then some (8, digits)
    else if c = 'b' ∨ c = 'B' then some (2, digits)
    else none
  | _ => none

def radixValue (radix : Nat) (digits : Text) : Double :=
  match digits.mapM (digitIn radix) with
  | none | some [] => .nan
  | some values => Double.nearest (values.foldl (fun v d => radix * v + d) 0 : Nat)

/-- Is this the letter of an exponent? -/
def isExponentMark (c : Char) : Bool := c = 'e' ∨ c = 'E'

/-- The exponent that a literal ends with. -/
def exponentOf : Text → Option Int
  | [] => some 0
  | _ :: sign :: digits =>
    let negative : Bool := sign = '-'
    let digits := if sign = '-' ∨ sign = '+' then digits else sign :: digits
    if digits ≠ [] ∧ Decimal.AllDigits digits then
      some (if negative then -(Decimal.value digits : Int) else Decimal.value digits)
    else none
  | _ => none

def numberOfText (text : Text) : Double :=
  let literal := trim text
  if literal = [] then .finite 0
  else if literal = "Infinity".toList ∨ literal = "+Infinity".toList then .infinite false
  else if literal = "-Infinity".toList then .infinite true
  else
    match radixLiteral literal with
    | some (radix, digits) => radixValue radix digits
    | none =>
      match amountParts (literal.takeWhile (!isExponentMark ·)), exponentOf (literal.dropWhile (!isExponentMark ·)) with
      | some (negative, entero, fraccion), some exponent => Double.nearest (plainValue negative entero fraccion * 10 ^ exponent)
      | _, _ => .nan

example : numberOfText " 10.00 ".toList = .finite 10 ∧ numberOfText "1e1".toList = .finite 10 ∧
    numberOfText "0x0A".toList = .finite 10 ∧ numberOfText "1,5".toList = .nan := by
  decide +kernel

section Plain

variable {text entero fraccion : Text} {negative : Bool}

theorem numberOfText_trim (text : Text) : numberOfText (trim text) = numberOfText text := by
  rw [numberOfText, trim_trim, numberOfText]

/-- Without other letters than `e`, there are a decimal text and an exponent. -/
theorem numberOfText_literal (hne : trim text ≠ []) (h : ∀ c ∈ trim text, c.toNat < 65 ∨ c = 'e') :
    numberOfText text =
      match amountParts ((trim text).takeWhile (!isExponentMark ·)),
        exponentOf ((trim text).dropWhile (!isExponentMark ·)) with
      | some (negative, entero, fraccion), some exponent =>
        Double.nearest (plainValue negative entero fraccion * 10 ^ exponent)
      | _, _ => .nan := by
  have hnot : ∀ c ∈ trim text, ∀ d : Char, 65 ≤ d.toNat → d ≠ 'e' → c ≠ d := by
    rintro c hc d hd hde rfl
    exact (h c hc).elim (fun hlt => absurd hlt (not_lt.mpr hd)) hde
  have hword : 'I' ∉ trim text := fun hmem => hnot 'I' hmem 'I' (by decide) (by decide) rfl
  have hinfinity : ¬(trim text = "Infinity".toList ∨ trim text = "+Infinity".toList) := by
    rintro (heq | heq) <;> exact hword (by rw [heq]; decide)
  have hminus : trim text ≠ "-Infinity".toList := fun heq => hword (by rw [heq]; decide)
  have hradix : radixLiteral (trim text) = none := by
    generalize trim text = literal at hnot
    unfold radixLiteral
    split
    next c digits =>
      have hc : ∀ d : Char, 65 ≤ d.toNat → d ≠ 'e' → c ≠ d := hnot c (List.mem_cons_of_mem _ List.mem_cons_self)
      rw [if_neg (not_or.mpr ⟨hc 'x' (by decide) (by decide), hc 'X' (by decide) (by decide)⟩),
        if_neg (not_or.mpr ⟨hc 'o' (by decide) (by decide), hc 'O' (by decide) (by decide)⟩),
        if_neg (not_or.mpr ⟨hc 'b' (by decide) (by decide), hc 'B' (by decide) (by decide)⟩)]
    next => rfl
  simp only [numberOfText, if_neg hne, if_neg hinfinity, if_neg hminus, hradix]

/-- The characters of a decimal text are no letters. -/
theorem PlainDecimal.toNat_lt (h : PlainDecimal text negative entero fraccion) : ∀ c ∈ text, c.toNat < 65 := by
  refine h.forall_mem (fun c hc => ?_) (by decide) (by decide) (by decide)
  have hrange := (Decimal.isDigit_iff c).mp hc
  omega

theorem PlainDecimal.not_isExponentMark (h : PlainDecimal text negative entero fraccion) :
    ∀ c ∈ text, (!isExponentMark c) = true := by
  intro c hc
  have hnot : ∀ d : Char, 65 ≤ d.toNat → c ≠ d := by
    rintro d hd rfl
    exact absurd (h.toNat_lt c hc) (not_lt.mpr hd)
  simp [isExponentMark, hnot 'e' (by decide), hnot 'E' (by decide)]

/-- **A decimal text** is the double of its number. -/
theorem numberOfText_plain (h : PlainDecimal (trim text) negative entero fraccion) :
    numberOfText text = Double.nearest (plainValue negative entero fraccion) := by
  rw [numberOfText_literal h.ne_nil fun c hc => .inl (h.toNat_lt c hc),
    List.takeWhile_eq_self_iff.mpr h.not_isExponentMark, List.dropWhile_eq_nil_iff.mpr h.not_isExponentMark,
    amountParts_eq_some_iff.mpr h]
  simp only [exponentOf, zpow_zero, mul_one]

/-- **The scientific notation** is a decimal text times a power of ten. -/
theorem numberOfText_scientific (h : PlainDecimal text negative entero fraccion) (n : Nat) :
    numberOfText (text ++ 'e' :: '+' :: Nat.toDigits 10 n) =
      Double.nearest (plainValue negative entero fraccion * 10 ^ n) := by
  have hdigits := Decimal.allDigits_toDigits n
  have hspace : ∀ c ∈ text ++ 'e' :: '+' :: Nat.toDigits 10 n, isWhiteSpace c = false := by
    simp only [List.mem_append, List.mem_cons]
    rintro c (hc | rfl | rfl | hc)
    · exact h.forall_not_isWhiteSpace c hc
    · decide
    · decide
    · exact isWhiteSpace_of_isDigit (hdigits c hc)
  have htrim := trim_of_forall hspace
  have hchars : ∀ c ∈ text ++ 'e' :: '+' :: Nat.toDigits 10 n, c.toNat < 65 ∨ c = 'e' := by
    simp only [List.mem_append, List.mem_cons]
    rintro c (hc | rfl | rfl | hc)
    · exact .inl (h.toNat_lt c hc)
    · exact .inr rfl
    · exact .inl (by decide)
    · have hrange := (Decimal.isDigit_iff c).mp (hdigits c hc)
      exact .inl (by omega)
  have htake : (text ++ 'e' :: '+' :: Nat.toDigits 10 n).takeWhile (!isExponentMark ·) = text := by
    rw [List.takeWhile_append_of_pos h.not_isExponentMark]
    simp [isExponentMark]
  have hdrop : (text ++ 'e' :: '+' :: Nat.toDigits 10 n).dropWhile (!isExponentMark ·) =
      'e' :: '+' :: Nat.toDigits 10 n := by
    rw [List.dropWhile_append_of_pos h.not_isExponentMark]
    simp [isExponentMark]
  have hexponent : exponentOf ('e' :: '+' :: Nat.toDigits 10 n) = some (n : Int) := by
    have hsome : Nat.toDigits 10 n ≠ [] ∧ Decimal.AllDigits (Nat.toDigits 10 n) := ⟨Nat.toDigits_ne_nil, hdigits⟩
    simp [exponentOf, hsome, Decimal.value_toDigits]
  rw [numberOfText_literal (by rw [htrim]; simp) (by rwa [htrim]), htrim, htake, hdrop, hexponent,
    amountParts_eq_some_iff.mpr h]
  simp only [zpow_natCast]

end Plain

end AtlasErp
