import AtlasErp.Fiscal.Montos
import Mathlib.Tactic.FieldSimp

/-! # Decimal texts as exact numbers

- `decimalValue`: the number that a decimal text stands for, whatever its number of decimals;
- `parseDecimalExact_eq_ok_iff`: reading at a scale accepts exactly the texts whose number has that scale. -/

namespace AtlasErp

open Lib

/-- The number that a decimal text stands for. -/
def decimalValue (texto : Text) : Option ℚ :=
  (amountParts (trim texto)).map fun (negative, entero, fraccion) =>
    (if negative then -1 else 1) * (Decimal.value (entero ++ fraccion) / 10 ^ fraccion.length)

example : decimalValue " -12.50".toList = some (-25 / 2) := by decide +kernel

section Exact

variable {texto : Text} {scale : Nat} {minor : Int}

theorem amountParts_allDigits {negative : Bool} {entero fraccion : Text}
    (h : amountParts texto = some (negative, entero, fraccion)) :
    Decimal.AllDigits entero ∧ Decimal.AllDigits fraccion :=
  have hplain := amountParts_eq_some_iff.mp h
  ⟨hplain.integer, hplain.fraction⟩

/-- Digits that are worth nothing are zeros. -/
theorem forall_eq_zero_of_value {cs : Text} (h : Decimal.AllDigits cs) (hvalue : Decimal.value cs = 0) :
    ∀ c ∈ cs, c = '0' := by
  induction cs with
  | nil => nofun
  | cons c cs ih =>
    rw [Decimal.value_cons] at hvalue
    have hpow : 0 < 10 ^ cs.length := Nat.pow_pos (by decide)
    have hdigit : Decimal.digitValue c = 0 :=
      (Nat.mul_eq_zero.mp (Nat.add_eq_zero_iff.mp hvalue).1).resolve_right hpow.ne'
    have hc : c = '0' := by
      have hrange := (Decimal.isDigit_iff c).mp (h c List.mem_cons_self)
      unfold Decimal.digitValue at hdigit
      exact Char.toNat_inj.mp (show c.toNat = 48 by omega)
    intro d hd
    rcases List.mem_cons.mp hd with rfl | hd
    · exact hc
    · exact ih (fun c hc => h c (List.mem_cons_of_mem _ hc)) (Nat.add_eq_zero_iff.mp hvalue).2 d hd

/-- A number in its first decimals and what the others are worth. -/
theorem value_split (entero fraccion : Text) (scale : Nat) :
    let padded := fraccion ++ List.replicate (scale + 1 - fraccion.length) '0'
    (Decimal.value (entero ++ fraccion) / 10 ^ fraccion.length : ℚ) =
      Decimal.value (entero ++ padded.take scale) / 10 ^ scale + Decimal.value (padded.drop scale) / 10 ^ padded.length := by
  intro padded
  have hlength : padded.length = fraccion.length + (scale + 1 - fraccion.length) := by
    simp only [padded, List.length_append, List.length_replicate]
  have hzeros : Decimal.value (entero ++ padded) =
      Decimal.value (entero ++ fraccion) * 10 ^ (scale + 1 - fraccion.length) := by
    rw [← List.append_assoc, Decimal.value_append, Decimal.value_replicate, List.length_replicate, Nat.add_zero]
  have hdrop : (padded.drop scale).length = padded.length - scale := List.length_drop
  have hparts : Decimal.value (entero ++ padded) =
      Decimal.value (entero ++ padded.take scale) * 10 ^ (padded.length - scale) + Decimal.value (padded.drop scale) := by
    rw [← hdrop, ← Decimal.value_append, List.append_assoc, List.take_append_drop]
  have hpow : (10 : ℚ) ^ padded.length = 10 ^ scale * 10 ^ (padded.length - scale) := by
    rw [← pow_add]
    congr 1
    omega
  have hleft : (Decimal.value (entero ++ fraccion) / 10 ^ fraccion.length : ℚ) =
      Decimal.value (entero ++ padded) / 10 ^ padded.length := by
    rw [hzeros, hlength, pow_add]
    push_cast
    field_simp
  rw [hleft, hparts, hpow]
  push_cast
  field_simp

/-- Without decimals below the scale, reading at the scale does not round. -/
theorem toMinorUnits_of_zeros {negative : Bool} {entero fraccion : Text}
    (hparts : amountParts (trim texto) = some (negative, entero, fraccion))
    (hzeros : ∀ c ∈ fraccion.drop scale, c = '0') :
    ∃ minor : Int, toMinorUnits texto scale = .ok minor ∧ decimalValue texto = some ((minor : ℚ) / 10 ^ scale) := by
  have hne : trim texto ≠ [] := by
    intro hnil
    rw [hnil] at hparts
    cases hparts
  set padded := fraccion ++ List.replicate (scale + 1 - fraccion.length) '0' with hpadded
  have hrest : ∀ c ∈ padded.drop scale, c = '0' := by
    intro c hc
    rw [hpadded, List.drop_append] at hc
    rcases List.mem_append.mp hc with hc | hc
    · exact hzeros c hc
    · exact List.eq_of_mem_replicate (List.mem_of_mem_drop hc)
  have hround : padded[scale]?.any ('5' ≤ ·) = false := by
    cases hget : padded[scale]? with
    | none => rfl
    | some c =>
      have hc : c = '0' := hrest c (List.mem_of_getElem? (by rw [List.getElem?_drop, Nat.add_zero, hget] : (padded.drop scale)[0]? = some c))
      subst hc
      decide
  have hworthless : Decimal.value (padded.drop scale) = 0 := by
    rw [List.eq_replicate_iff.mpr ⟨rfl, hrest⟩, Decimal.value_replicate]
  have hvalue := value_split entero fraccion scale
  dsimp only at hvalue
  rw [← hpadded, hworthless, Nat.cast_zero, zero_div, add_zero] at hvalue
  refine ⟨if negative then -(Decimal.value (entero ++ padded.take scale) : Int) else Decimal.value (entero ++ padded.take scale),
    ?_, ?_⟩
  · simp only [toMinorUnits, if_neg hne, hparts, ← hpadded, hround, Bool.false_eq_true, if_false]
  · simp only [decimalValue, hparts, Option.map_some, hvalue, Option.some.injEq]
    cases negative <;> simp [neg_div]

/-- With a decimal below the scale the number does not have that scale. -/
theorem decimalValue_ne_of_decimals {negative : Bool} {entero fraccion : Text}
    (hparts : amountParts (trim texto) = some (negative, entero, fraccion)) {c : Char} (hc : c ∈ fraccion.drop scale)
    (hzero : c ≠ '0') (minor : Int) : decimalValue texto ≠ some ((minor : ℚ) / 10 ^ scale) := by
  obtain ⟨-, hdigits⟩ := amountParts_allDigits hparts
  have hlonger : 0 < (fraccion.drop scale).length := List.length_pos_of_mem hc
  have hlength : fraccion.length = scale + (fraccion.drop scale).length := by
    rw [List.length_drop] at hlonger ⊢
    omega
  have hpadded : fraccion ++ List.replicate (scale + 1 - fraccion.length) '0' = fraccion := by
    rw [show scale + 1 - fraccion.length = 0 by omega, List.replicate_zero, List.append_nil]
  have hrest : Decimal.AllDigits (fraccion.drop scale) := fun d hd => hdigits d (List.mem_of_mem_drop hd)
  have hlt := Decimal.value_lt hrest
  have hpos : 0 < Decimal.value (fraccion.drop scale) := Nat.pos_of_ne_zero fun h =>
    hzero (forall_eq_zero_of_value hrest h c hc)
  have hvalue := value_split entero fraccion scale
  dsimp only at hvalue
  rw [hpadded] at hvalue
  generalize Decimal.value (fraccion.drop scale) = rest at hlt hpos hvalue
  generalize Decimal.value (entero ++ fraccion.take scale) = kept at hvalue
  generalize (fraccion.drop scale).length = below at hlength hlt
  rw [hlength, pow_add] at hvalue
  intro heq
  simp only [decimalValue, hparts, Option.map_some, Option.some.injEq, hlength, pow_add, hvalue] at heq
  field_simp at heq
  have hdvd : (10 ^ below : Int) ∣ rest := by
    cases negative with
    | true =>
      simp only [if_true, neg_one_mul] at heq
      have hint : -((kept : Int) * 10 ^ below + rest) = 10 ^ below * minor := by exact_mod_cast heq
      exact ⟨-minor - kept, by linarith⟩
    | false =>
      simp only [Bool.false_eq_true, if_false, one_mul] at heq
      have hint : (kept : Int) * 10 ^ below + rest = 10 ^ below * minor := by exact_mod_cast heq
      exact ⟨minor - kept, by linarith⟩
  exact absurd (Nat.le_of_dvd hpos (by exact_mod_cast hdvd)) (by omega)

/-- **Reading at a scale** accepts the texts whose number has that scale, and gives that number. -/
theorem parseDecimalExact_eq_ok_iff :
    parseDecimalExact texto scale = .ok minor ↔ decimalValue texto = some ((minor : ℚ) / 10 ^ scale) := by
  have hpow : (10 : ℚ) ^ scale ≠ 0 := by positivity
  cases hparts : amountParts (trim texto) with
  | none => simp [parseDecimalExact, decimalValue, hparts]
  | some parts =>
    obtain ⟨negative, entero, fraccion⟩ := parts
    by_cases hzeros : ∀ c ∈ fraccion.drop scale, c = '0'
    · have hany : (fraccion.drop scale).any (· ≠ '0') = false := by simpa using hzeros
      have hparts' : amountParts (trim (trim texto)) = some (negative, entero, fraccion) := by rw [trim_trim, hparts]
      obtain ⟨read, hread, hvalue⟩ := toMinorUnits_of_zeros hparts' hzeros
      have hsame : decimalValue (trim texto) = decimalValue texto := by rw [decimalValue, trim_trim, decimalValue]
      simp only [parseDecimalExact, hparts, hany, Bool.false_eq_true, if_false, hread, Except.ok.injEq, ← hsame, hvalue,
        Option.some.injEq, div_left_inj' hpow, Int.cast_inj]
    · push Not at hzeros
      obtain ⟨c, hc, hzero⟩ := hzeros
      have hany : (fraccion.drop scale).any (· ≠ '0') = true := List.any_eq_true.mpr ⟨c, hc, decide_eq_true hzero⟩
      simp only [parseDecimalExact, hparts, hany, if_true, reduceCtorEq, false_iff]
      exact decimalValue_ne_of_decimals hparts hc hzero minor

/-- What is written has its number. -/
theorem decimalValue_minorText (minor : Int) (scale : Nat) :
    decimalValue (minorText minor scale) = some ((minor : ℚ) / 10 ^ scale) :=
  parseDecimalExact_eq_ok_iff.mp (parseDecimalExact_minorText minor scale)

end Exact

end AtlasErp
