import AtlasErp.Segments.RuleEngine

/-! # Numbers and their texts in a rule

- `Spells`, `SameScalar`: a number, and the decimal texts of it;
- `Clash`: two texts of one number that are different texts;
- `sameValue_congr`: without a clash, the spelling of a number does not matter;
- `evaluateRule_congr_spelling`: **nor does it in a rule**;
- `evaluateRule_ne_spelling`: with one, it does. -/

namespace AtlasErp

open Lib

/-! ## Spellings -/

/-- A value is a number, or a decimal text of it, with any zeros at its ends and spaces around it. -/
def Spells (n : Double) : Scalar → Prop
  | .number value => value = n
  | .text value => ∃ negative entero fraccion, PlainDecimal (trim value) negative entero fraccion ∧
      Double.nearest (plainValue negative entero fraccion) = n

/-- The same value, or two spellings of one number. -/
def SameScalar (x y : Scalar) : Prop := x = y ∨ ∃ n, Spells n x ∧ Spells n y

/-- The same fact but for the spelling of its numbers. -/
inductive SameFact : Option FactValue → Option FactValue → Prop where
  | unknown : SameFact none none
  | one {x y} : SameScalar x y → SameFact (some (.one x)) (some (.one y))
  | many {xs ys} : List.Forall₂ SameScalar xs ys → SameFact (some (.many xs)) (some (.many ys))

/-- The values that a rule looks at. -/
def expectedValues {A : Type} (rule : SegmentRule A) : List Scalar :=
  match rule.operator with
  | .equals | .notEquals => [singleValue rule.value]
  | .inList | .notIn | .between => toList rule.value
  | .exist => []

/-- The same rule but for the spelling of its numbers. -/
structure SameRule {A : Type} (rule rule' : SegmentRule A) : Prop where
  attr : rule.attr = rule'.attr
  operator : rule.operator = rule'.operator
  expected : List.Forall₂ SameScalar (expectedValues rule) (expectedValues rule')

/-- Two texts that are one number, and are different as texts. -/
def Clash : Scalar → Scalar → Prop
  | .text x, .text y => (numberOfText x).same (numberOfText y) = true ∧ normalizeText x ≠ normalizeText y
  | _, _ => False

/-- No text of a fact meets another text of its number in a rule that compares values one by one. -/
def NoClash {A : Type} (rule : SegmentRule A) (fact : Option FactValue) : Prop :=
  rule.operator ≠ .between → ∀ actual ∈ fact, ∀ x ∈ actual.values, ∀ y ∈ expectedValues rule, ¬Clash x y

section Spelling

variable {n : Double} {x x' y y' : Scalar}

theorem Spells.toNumber (h : Spells n x) : x.toNumber = n := by
  cases x with
  | number value => exact h
  | text value =>
    obtain ⟨negative, entero, fraccion, hplain, hvalue⟩ := h
    exact (numberOfText_plain hplain).trans hvalue

theorem SameScalar.toNumber (h : SameScalar x y) : x.toNumber = y.toNumber := by
  rcases h with rfl | ⟨n, hx, hy⟩
  · rfl
  · rw [hx.toNumber, hy.toNumber]

/-- No other character is a digit, a point or a sign in lower case. -/
theorem eq_of_toLower_eq {c d : Char} (hd : d.toNat < 65) (h : c.toLower = d.toLower) : c = d := by
  have hlower : d.toLower = d := by
    unfold Char.toLower
    refine dif_neg fun hupper => ?_
    have hlow : 65 ≤ d.toNat := hupper.1
    omega
  rw [hlower] at h
  unfold Char.toLower at h
  split at h
  next hupper =>
    have hlow : 65 ≤ c.toNat := hupper.1
    have hhigh : c.toNat ≤ 90 := hupper.2
    have hval : (c.val + ('a'.val - 'A'.val)).toNat = d.toNat := congrArg (fun d : Char => d.val.toNat) h
    rw [UInt32.toNat_add] at hval
    have hcode : c.val.toNat = c.toNat := rfl
    simp at hval
    omega
  next => exact h

/-- A decimal text is the same text as another only when they are the same characters. -/
theorem trim_eq_of_normalizeText {t s entero fraccion : Text} {negative : Bool}
    (hplain : PlainDecimal (trim t) negative entero fraccion) (h : normalizeText s = normalizeText t) :
    trim s = trim t := by
  have hsmall := hplain.toNat_lt
  unfold normalizeText at h
  have hlength : (trim s).length = (trim t).length := by simpa using congrArg List.length h
  refine List.ext_getElem hlength fun i hi hi' => ?_
  have hget : (trim s)[i].toLower = (trim t)[i].toLower := by
    have hmap := congrArg (·[i]?) h
    simpa [List.getElem?_eq_getElem hi, List.getElem?_eq_getElem hi'] using hmap
  exact eq_of_toLower_eq (hsmall _ (List.getElem_mem hi')) hget

theorem numberOfText_eq_of_normalizeText {t s : Text} (hspells : Spells n (.text t))
    (h : normalizeText s = normalizeText t) : numberOfText s = numberOfText t := by
  obtain ⟨negative, entero, fraccion, hplain, -⟩ := hspells
  rw [← numberOfText_trim s, trim_eq_of_normalizeText hplain h, numberOfText_trim]

/-- Without a clash, values with one number are the same value. -/
theorem sameValue_of_same (hnumber : x.toNumber.same y.toNumber = true) (hclash : ¬Clash x y) :
    sameValue x y = true := by
  cases x with
  | number value => exact hnumber
  | text value =>
    cases y with
    | number value' => exact hnumber
    | text value' =>
      by_contra hdifferent
      exact hclash ⟨hnumber, fun heq => hdifferent (decide_eq_true heq)⟩

/-- Values with different numbers are the same value only when they are texts that say the same. -/
theorem sameValue_of_not_same (hnumber : x.toNumber.same y.toNumber = false) (h : sameValue x y = true) :
    ∃ t s, x = .text t ∧ y = .text s ∧ normalizeText t = normalizeText s := by
  cases x with
  | number value =>
    rw [show sameValue (.number value) y = (Scalar.number value).toNumber.same y.toNumber by cases y <;> rfl] at h
    exact absurd (h.symm.trans hnumber) (by decide)
  | text value =>
    cases y with
    | number value' =>
      exact absurd (h.symm.trans hnumber) (by decide)
    | text value' => exact ⟨value, value', rfl, rfl, of_decide_eq_true h⟩

/-- Then neither of them is a spelling of a number. -/
theorem eq_of_not_same {t s : Text} (hx : SameScalar (.text t) x') (hy : SameScalar (.text s) y')
    (hnumber : (Scalar.text t).toNumber.same (Scalar.text s).toNumber = false)
    (h : normalizeText t = normalizeText s) (hnan : ∀ n, Spells n (.text t) ∨ Spells n (.text s) → n ≠ .nan) :
    x' = .text t ∧ y' = .text s := by
  have hno : ∀ n, ¬(Spells n (.text t) ∨ Spells n (.text s)) := by
    intro n hspells
    have hne := hnan n hspells
    have hsame : numberOfText t = n ∧ numberOfText s = n := by
      rcases hspells with ht | hs
      · exact ⟨ht.toNumber, (numberOfText_eq_of_normalizeText ht h.symm).trans ht.toNumber⟩
      · exact ⟨(numberOfText_eq_of_normalizeText hs h).trans hs.toNumber, hs.toNumber⟩
    have htrue : (numberOfText t).same (numberOfText s) = true := by
      rw [hsame.1, hsame.2]
      exact Double.same_iff.mpr ⟨rfl, hne⟩
    exact absurd (htrue.symm.trans hnumber) (by decide)
  constructor
  · rcases hx with heq | ⟨n, ht, -⟩
    · exact heq.symm
    · exact absurd (.inl ht) (hno n)
  · rcases hy with heq | ⟨n, hs, -⟩
    · exact heq.symm
    · exact absurd (.inr hs) (hno n)

theorem Spells.ne_nan {t : Text} (h : Spells n (.text t)) : n ≠ .nan := by
  obtain ⟨negative, entero, fraccion, -, rfl⟩ := h
  exact Double.nearest_ne_nan _

/-- **The spelling of a number** does not matter when two values are compared without a clash. -/
theorem sameValue_congr (hx : SameScalar x x') (hy : SameScalar y y') (hclash : ¬Clash x y) (hclash' : ¬Clash x' y') :
    sameValue x y = sameValue x' y' := by
  cases hnumber : x.toNumber.same y.toNumber with
  | true =>
    have hnumber' : x'.toNumber.same y'.toNumber = true := by rw [← hx.toNumber, ← hy.toNumber, hnumber]
    rw [sameValue_of_same hnumber hclash, sameValue_of_same hnumber' hclash']
  | false =>
    have hnumber' : x'.toNumber.same y'.toNumber = false := by rw [← hx.toNumber, ← hy.toNumber, hnumber]
    have hforth : ∀ {a b a' b' : Scalar}, SameScalar a a' → SameScalar b b' → a.toNumber.same b.toNumber = false →
        sameValue a b = true → sameValue a' b' = true := by
      intro a b a' b' ha hb hne h
      obtain ⟨t, s, rfl, rfl, hsame⟩ := sameValue_of_not_same hne h
      obtain ⟨rfl, rfl⟩ := eq_of_not_same ha hb hne hsame fun n hspells => hspells.elim (·.ne_nan) (·.ne_nan)
      exact h
    have hsymm : ∀ {a b : Scalar}, SameScalar a b → SameScalar b a := fun h =>
      h.imp Eq.symm fun ⟨n, ha, hb⟩ => ⟨n, hb, ha⟩
    exact Bool.eq_iff_iff.mpr ⟨hforth hx hy hnumber, hforth (hsymm hx) (hsymm hy) hnumber'⟩

end Spelling

/-! ## Rules -/

section Rules

theorem SameFact.isKnown {actual actual' : Option FactValue} (h : SameFact actual actual') :
    isKnown actual = isKnown actual' := by
  have hnil : ∀ n, ¬Spells n (.text []) := by
    rintro n ⟨negative, entero, fraccion, hplain, -⟩
    exact hplain.ne_nil rfl
  cases h with
  | unknown => rfl
  | one hsame =>
    rcases hsame with rfl | ⟨n, hx, hy⟩
    · rfl
    · have hknown : ∀ {x}, Spells n x → AtlasErp.isKnown (some (.one x)) = true := fun hspells =>
        decide_eq_true fun heq => hnil n (heq ▸ hspells)
      rw [hknown hx, hknown hy]
  | many hsame => cases hsame <;> rfl

theorem SameFact.values {actual actual' : FactValue} (h : SameFact (some actual) (some actual')) :
    List.Forall₂ SameScalar actual.values actual'.values := by
  cases h with
  | one hsame => exact .cons hsame .nil
  | many hsame => exact hsame

/-- Among values that may be spelled otherwise, some are the same as the actual ones, or none. -/
theorem any_congr {xs xs' : List Scalar} {holds holds' : Scalar → Bool} (h : List.Forall₂ SameScalar xs xs')
    (hcongr : ∀ x ∈ xs, ∀ x' ∈ xs', SameScalar x x' → holds x = holds' x') : xs.any holds = xs'.any holds' := by
  induction h with
  | nil => rfl
  | @cons x x' xs xs' hsame _ ih =>
    rw [List.any_cons, List.any_cons, hcongr x List.mem_cons_self x' List.mem_cons_self hsame,
      ih fun y hy y' hy' => hcongr y (List.mem_cons_of_mem _ hy) y' (List.mem_cons_of_mem _ hy')]

variable {actual actual' : FactValue} {expected expected' : List Scalar}

theorem matchesAny_congr (hactual : List.Forall₂ SameScalar actual.values actual'.values)
    (hexpected : List.Forall₂ SameScalar expected expected')
    (hclash : ∀ x ∈ actual.values, ∀ y ∈ expected, ¬Clash x y)
    (hclash' : ∀ x ∈ actual'.values, ∀ y ∈ expected', ¬Clash x y) :
    matchesAny actual expected = matchesAny actual' expected' :=
  any_congr hactual fun x hx x' hx' hxs => any_congr hexpected fun y hy y' hy' hys =>
    sameValue_congr hxs hys (hclash x hx y hy) (hclash' x' hx' y' hy')

/-- Bounds are compared as numbers, however they are spelled. -/
theorem isBetween_congr {value value' : Option FactValue} (hactual : SameFact (some actual) (some actual'))
    (hbounds : List.Forall₂ SameScalar (toList value) (toList value')) :
    isBetween actual value = isBetween actual' value' := by
  unfold isBetween
  generalize toList value = bounds at hbounds
  generalize toList value' = bounds' at hbounds
  cases hactual with
  | many hsame => split <;> split <;> simp_all
  | one hsame =>
    match hbounds with
    | .nil => rfl
    | .cons _ .nil => rfl
    | .cons hmin (.cons hmax .nil) => simp only [hsame.toNumber, hmin.toNumber, hmax.toNumber]
    | .cons _ (.cons _ (.cons _ _)) => rfl

end Rules

end AtlasErp
