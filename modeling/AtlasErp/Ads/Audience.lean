import AtlasErp.Common.Basics
import AtlasErp.Lib.Civil

/-! # Advertising: the audience of a delivery request

A request may name a merchant account and declare an audience.  What the platform knows of the account goes over what
is declared, attribute by attribute.

- `projectMerchantAudience`, `resolveAudience`: the audience that segments are matched against;
- `resolveAudience_attribute`: where each attribute comes from;
- `callerChoosesNothing_iff`: the accounts for which no derived attribute is up to the caller. -/

namespace AtlasErp

open Lib

/-! ## Attributes -/

/-- `AUDIENCE_ATTRIBUTES`. -/
inductive AudienceAttribute where
  | merchantCategory
  | city
  | region
  | country
  | riskSegment
  | monthlyVolumeBand
  | merchantSizeBand
  | surface
  | tenureMonths
  | corporateClientHash
  deriving DecidableEq

/-- `string | number`. -/
inductive AudienceValue where
  | text (value : String)
  | number (value : Nat)
  deriving DecidableEq

/-- An audience: an attribute that is not set is `none`. -/
structure AudienceContext where
  merchantCategory : Option String
  city : Option String
  region : Option String
  country : Option String
  riskSegment : Option String
  monthlyVolumeBand : Option String
  merchantSizeBand : Option String
  surface : Option String
  tenureMonths : Option Nat
  corporateClientHash : Option String
  deriving DecidableEq

namespace AudienceContext

/-- `{}`. -/
def empty : AudienceContext := ⟨none, none, none, none, none, none, none, none, none, none⟩

/-- The value of an attribute. -/
def get (audience : AudienceContext) : AudienceAttribute → Option AudienceValue
  | .merchantCategory => audience.merchantCategory.map .text
  | .city => audience.city.map .text
  | .region => audience.region.map .text
  | .country => audience.country.map .text
  | .riskSegment => audience.riskSegment.map .text
  | .monthlyVolumeBand => audience.monthlyVolumeBand.map .text
  | .merchantSizeBand => audience.merchantSizeBand.map .text
  | .surface => audience.surface.map .text
  | .tenureMonths => audience.tenureMonths.map .number
  | .corporateClientHash => audience.corporateClientHash.map .text

/-- `{ ...declared, ...derived }`. -/
def spread (declared derived : AudienceContext) : AudienceContext where
  merchantCategory := derived.merchantCategory.or declared.merchantCategory
  city := derived.city.or declared.city
  region := derived.region.or declared.region
  country := derived.country.or declared.country
  riskSegment := derived.riskSegment.or declared.riskSegment
  monthlyVolumeBand := derived.monthlyVolumeBand.or declared.monthlyVolumeBand
  merchantSizeBand := derived.merchantSizeBand.or declared.merchantSizeBand
  surface := derived.surface.or declared.surface
  tenureMonths := derived.tenureMonths.or declared.tenureMonths
  corporateClientHash := derived.corporateClientHash.or declared.corporateClientHash

/-- What is derived goes over what is declared. -/
theorem get_spread (declared derived : AudienceContext) (a : AudienceAttribute) :
    (spread declared derived).get a = (derived.get a).or (declared.get a) := by
  cases a <;> simp only [get, spread, Option.map_or]

/-- An audience with one attribute, of any value of its type. -/
def only (a : AudienceAttribute) : AudienceContext :=
  match a with
  | .merchantCategory => { empty with merchantCategory := some "FARMACIA" }
  | .city => { empty with city := some "La Paz" }
  | .region => { empty with region := some "LP" }
  | .country => { empty with country := some "PE" }
  | .riskSegment => { empty with riskSegment := some "B" }
  | .monthlyVolumeBand => { empty with monthlyVolumeBand := some "ALTA" }
  | .merchantSizeBand => { empty with merchantSizeBand := some "GRANDE" }
  | .surface => { empty with surface := some "app-home" }
  | .tenureMonths => { empty with tenureMonths := some 60 }
  | .corporateClientHash => { empty with corporateClientHash := some "0123456789abcdef" }

theorem get_empty (a : AudienceAttribute) : empty.get a = none := by cases a <;> rfl

theorem get_only (a : AudienceAttribute) : ((only a).get a).isSome = true := by cases a <;> rfl

end AudienceContext

/-! ## What the platform knows -/

/-- What an account stores that serves to segment. -/
structure StoredMerchantFacts where
  category : Option String
  businessLine : Option String
  city : Option String
  countryCode : Option String
  employeeCount : Option Int
  foundedYear : Option Int
  createdAt : Option Instant
  deriving DecidableEq

/-- What the lookup reads of a row of `b2b_accounts`. -/
structure SegmentedAccount where
  id : Nat
  archivedAt : Option Instant
  facts : StoredMerchantFacts
  deriving DecidableEq

def merchantSizeBand (employeeCount : Option Int) : Option String :=
  match employeeCount with
  | none => none
  | some n =>
    if n ≤ 0 then none
    else if n ≤ 10 then some "MICRO"
    else if n ≤ 50 then some "PEQUENA"
    else if n ≤ 200 then some "MEDIANA"
    else some "GRANDE"

/-- The UTC date of an instant. -/
def utcDate (moment : Instant) : Civil := civil (moment / 86400000)

def tenureMonths (createdAt : Option Instant) (now : Instant) : Option Nat :=
  createdAt.map fun createdAt =>
    (((utcDate now).year - (utcDate createdAt).year) * 12 + ((utcDate now).month - (utcDate createdAt).month)).toNat

example : tenureMonths (some 1771545600000) 1787184000000 = some 6 := by decide

/-- A text that is set and not empty: what `if (text)` asks. -/
def truthy (value : Option String) : Option String := value.filter (· ≠ "")

/-- The attributes that the platform derives. -/
def derivedAudience (facts : StoredMerchantFacts) (now : Instant) : AudienceContext :=
  { AudienceContext.empty with
    merchantCategory := truthy (facts.category.or facts.businessLine)
    city := truthy facts.city
    country := truthy facts.countryCode
    merchantSizeBand := merchantSizeBand facts.employeeCount
    tenureMonths := tenureMonths facts.createdAt now }

def projectMerchantAudience (facts : StoredMerchantFacts) (declared : Option AudienceContext) (now : Instant) :
    AudienceContext :=
  (declared.getD .empty).spread (derivedAudience facts now)

/-- The attributes that the caller does not decide any more. -/
def DERIVED_ATTRIBUTES : List AudienceAttribute :=
  [.merchantCategory, .city, .country, .merchantSizeBand, .tenureMonths]

/-! ## The audience of a request -/

section Request

variable (accounts : List SegmentedAccount)

/-- An archived account is not found. -/
def findMerchantFacts (merchantAccountId : Nat) : Option StoredMerchantFacts :=
  (accounts.find? fun account => account.id = merchantAccountId ∧ account.archivedAt = none).map (·.facts)

/-- The audience of a request: what is declared, for a caller that names no account or one that is not found. -/
def resolveAudience (merchantAccountId : Option Nat) (audience : Option AudienceContext) (now : Instant) :
    Option AudienceContext :=
  match merchantAccountId with
  | none => audience
  | some merchantAccountId =>
    match findMerchantFacts accounts merchantAccountId with
    | none => audience
    | some facts => some (projectMerchantAudience facts audience now)

/-- What a segment reads of an audience. -/
def attributeOf (audience : Option AudienceContext) (a : AudienceAttribute) : Option AudienceValue :=
  audience.bind (·.get a)

/-- Whatever two callers declare, the derived attributes are the same. -/
def CallerChoosesNothing (merchantAccountId : Nat) (now : Instant) : Prop :=
  ∀ declared declared' : Option AudienceContext, ∀ a ∈ DERIVED_ATTRIBUTES,
    attributeOf (resolveAudience accounts (some merchantAccountId) declared now) a =
      attributeOf (resolveAudience accounts (some merchantAccountId) declared' now) a

end Request

/-- Each derived attribute has the fact it is derived from. -/
structure StoredMerchantFacts.Complete (facts : StoredMerchantFacts) : Prop where
  category : ∃ category, facts.category.or facts.businessLine = some category ∧ category ≠ ""
  city : ∃ city, facts.city = some city ∧ city ≠ ""
  country : ∃ country, facts.countryCode = some country ∧ country ≠ ""
  employees : ∃ n, facts.employeeCount = some n ∧ 0 < n
  createdAt : ∃ createdAt, facts.createdAt = some createdAt

section Derived

variable {facts : StoredMerchantFacts} {now : Instant}

/-- **Where an attribute comes from**: the account when it can be derived, else the caller. -/
theorem projectMerchantAudience_get (declared : Option AudienceContext) (a : AudienceAttribute) :
    (projectMerchantAudience facts declared now).get a =
      ((derivedAudience facts now).get a).or (attributeOf declared a) := by
  rw [projectMerchantAudience, AudienceContext.get_spread]
  cases declared with
  | none => rw [Option.getD_none, AudienceContext.get_empty]; rfl
  | some declared => rfl

theorem resolveAudience_attribute {accounts : List SegmentedAccount} {merchantAccountId : Nat}
    (h : findMerchantFacts accounts merchantAccountId = some facts) (declared : Option AudienceContext)
    (a : AudienceAttribute) :
    attributeOf (resolveAudience accounts (some merchantAccountId) declared now) a =
      ((derivedAudience facts now).get a).or (attributeOf declared a) := by
  simp only [resolveAudience, h]
  exact projectMerchantAudience_get declared a

theorem truthy_isSome {value : Option String} :
    (truthy value).isSome = true ↔ ∃ text, value = some text ∧ text ≠ "" := by
  cases value <;> simp [truthy, Option.filter]

theorem merchantSizeBand_isSome {employeeCount : Option Int} :
    (merchantSizeBand employeeCount).isSome = true ↔ ∃ n, employeeCount = some n ∧ 0 < n := by
  cases employeeCount with
  | none => simp [merchantSizeBand]
  | some n =>
    simp only [merchantSizeBand, Option.some.injEq, exists_eq_left']
    split
    · simp [*]
    · have hpos : 0 < n := by omega
      simp only [hpos, iff_true]
      repeat' split
      all_goals rfl

/-- The facts are complete exactly when every derived attribute is set. -/
theorem complete_iff :
    facts.Complete ↔ ∀ a ∈ DERIVED_ATTRIBUTES, ((derivedAudience facts now).get a).isSome = true := by
  simp only [DERIVED_ATTRIBUTES, List.forall_mem_cons, AudienceContext.get, derivedAudience, Option.isSome_map,
    truthy_isSome, merchantSizeBand_isSome, tenureMonths, List.not_mem_nil, false_implies, implies_true, and_true]
  constructor
  · intro h
    obtain ⟨createdAt, hcreated⟩ := h.createdAt
    exact ⟨h.category, h.city, h.country, h.employees, by rw [hcreated]; rfl⟩
  · rintro ⟨hcategory, hcity, hcountry, hemployees, hcreated⟩
    exact ⟨hcategory, hcity, hcountry, hemployees, Option.isSome_iff_exists.mp hcreated⟩

end Derived

/-- **When the caller chooses nothing**: when the account is found, that is, it exists and is not archived, and stores
a category or a line of business, a city, a country, a number of employees and the moment of its creation. -/
theorem callerChoosesNothing_iff (accounts : List SegmentedAccount) (merchantAccountId : Nat) (now : Instant) :
    CallerChoosesNothing accounts merchantAccountId now ↔
      ∃ facts, findMerchantFacts accounts merchantAccountId = some facts ∧ facts.Complete := by
  constructor
  · intro h
    cases hfind : findMerchantFacts accounts merchantAccountId with
    | none =>
      -- the declared audience is used as it is
      have hsame := h none (some (.only .city)) .city (by decide)
      simp only [resolveAudience, hfind] at hsame
      exact absurd hsame (by decide)
    | some facts =>
      have hcomplete : facts.Complete ↔
          ∀ a ∈ DERIVED_ATTRIBUTES, ((derivedAudience facts now).get a).isSome = true := complete_iff
      refine ⟨facts, rfl, hcomplete.mpr fun a ha => ?_⟩
      cases hderived : (derivedAudience facts now).get a with
      | some value => rfl
      | none =>
        have hsame := h none (some (.only a)) a ha
        rw [resolveAudience_attribute hfind, resolveAudience_attribute hfind, hderived, Option.none_or,
          Option.none_or] at hsame
        have hsome : (attributeOf (some (.only a)) a).isSome = true := AudienceContext.get_only a
        rw [← hsame] at hsome
        cases hsome
  · rintro ⟨facts, hfind, hcomplete⟩ declared declared' a ha
    obtain ⟨value, hvalue⟩ := Option.isSome_iff_exists.mp (complete_iff.mp hcomplete a ha)
    rw [resolveAudience_attribute hfind, resolveAudience_attribute hfind, hvalue, Option.some_or, Option.some_or]

/-- A caller that declares its city. -/
def declaredCity : AudienceContext := { AudienceContext.empty with city := some "La Paz" }

/-- A migrated account without a city. -/
def accountWithoutCity : SegmentedAccount :=
  ⟨1, none, ⟨some "ferreteria", none, none, some "BO", some 30, none, some 1771545600000⟩⟩

/-- The caller declares the city, and with it the segments of a city that the account does not have. -/
theorem callerChoosesNothing_counterexample :
    attributeOf (resolveAudience [accountWithoutCity] (some 1) (some declaredCity) 1787184000000) .city =
        some (.text "La Paz") ∧
      attributeOf (resolveAudience [accountWithoutCity] (some 1) none 1787184000000) .city = none ∧
      ¬CallerChoosesNothing [accountWithoutCity] 1 1787184000000 := by
  refine ⟨by decide, by decide, fun h => ?_⟩
  have hsame := h (some declaredCity) none .city (by decide)
  exact absurd hsame (by decide)

end AtlasErp
