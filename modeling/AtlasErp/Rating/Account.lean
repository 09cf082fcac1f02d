import AtlasErp.Lib.Newest
import AtlasErp.Rating.Scale
import Mathlib.Algebra.BigOperators.Group.List.Basic
import Mathlib.Data.Prod.Lex

/-! # The rating of an account

An account has the band of its worst receivable, and of receivables in that band the one with the largest open balance
is the reason.

- `rateAccount`: the rating of an account from its rated receivables;
- `worstReceivable_isNewest`: the fold keeps the receivable that is greatest by severity and then by exposure;
- `rateAccount_worst`: the rating is that of the worst debt, in whatever order the receivables came, and does not
  improve by owing more or for longer. -/

namespace AtlasErp

open Lib

structure RatedReceivable where
  receivableId : Nat
  rating : ReceivableRating
  deriving DecidableEq

inductive AccountRatingReason where
  | worstReceivable
  | noOpenDebt
  deriving DecidableEq

@[ext] structure AccountRating where
  band : RatingBand
  worstDaysPastDue : Int
  ratedReceivableCount : Nat
  totalExposureCents : Int
  totalProvisionCents : Int
  drivingReceivableId : Option Nat
  reason : AccountRatingReason
  deriving DecidableEq

abbrev RatedReceivable.severity (item : RatedReceivable) : Int := item.rating.band.severityRank

/-- The worse of two receivables, the earlier one of equals. -/
def worseReceivable (worst item : RatedReceivable) : RatedReceivable :=
  if item.severity ≠ worst.severity then
    if worst.severity < item.severity then item else worst
  else if worst.rating.exposureCents < item.rating.exposureCents then item else worst

/-- `reduce` over a list that is not empty. -/
def worstReceivable (first : RatedReceivable) (rest : List RatedReceivable) : RatedReceivable :=
  rest.foldl worseReceivable first

def largestReceivable (first : RatedReceivable) (rest : List RatedReceivable) : RatedReceivable :=
  rest.foldl (fun largest item =>
    if largest.rating.exposureCents < item.rating.exposureCents then item else largest) first

def rateAccount (receivables : List RatedReceivable) (bestBand : RatingBand) (applyContamination : Bool) :
    AccountRating :=
  match receivables with
  | [] => ⟨bestBand, 0, 0, 0, 0, none, .noOpenDebt⟩
  | first :: rest =>
    let totals := receivables.foldl (fun (totals : Int × Int) item =>
      (totals.1 + item.rating.exposureCents, totals.2 + item.rating.provisionCents)) (0, 0)
    let driver := if applyContamination then worstReceivable first rest else largestReceivable first rest
    { band := driver.rating.band
      worstDaysPastDue := receivables.foldl (fun worst item => max worst item.rating.daysPastDue) 0
      ratedReceivableCount := receivables.length
      totalExposureCents := totals.1
      totalProvisionCents := totals.2
      drivingReceivableId := some driver.receivableId
      reason := .worstReceivable }

/-! ## The worst receivable -/

section Worst

variable {receivables receivables' : List RatedReceivable} {first driver item : RatedReceivable}
  {rest : List RatedReceivable} {bestBand : RatingBand}

/-- What decides which of two receivables is worse. -/
def RatedReceivable.weight (item : RatedReceivable) : Int ×ₗ Int := toLex (item.severity, item.rating.exposureCents)

theorem newest_weight (worst item : RatedReceivable) :
    newest RatedReceivable.weight (some worst) item = some (worseReceivable worst item) := by
  simp only [newest, RatedReceivable.weight, Prod.Lex.toLex_lt_toLex, worseReceivable]
  rcases lt_trichotomy worst.severity item.severity with hlt | heq | hgt
  · simp [hlt, hlt.ne']
  · by_cases hexposure : worst.rating.exposureCents < item.rating.exposureCents <;> simp [heq, hexposure]
  · simp [hgt.not_gt, hgt.ne, hgt.ne']

/-- **The fold keeps the worst** of the receivables. -/
theorem worstReceivable_isNewest (first : RatedReceivable) (rest : List RatedReceivable) :
    IsNewest RatedReceivable.weight (· ∈ first :: rest) (some (worstReceivable first rest)) := by
  have hfold : ∀ (rest : List RatedReceivable) (first : RatedReceivable),
      rest.foldl (newest RatedReceivable.weight) (some first) = some (worstReceivable first rest) := by
    intro rest
    induction rest with
    | nil => exact fun _ => rfl
    | cons item rest ih =>
      intro first
      rw [List.foldl_cons, newest_weight, ih]
      rfl
  have hnone : IsNewest RatedReceivable.weight (fun _ => False) none := isNewest_none
  have hall := (hnone.offer first).foldl rest
  rw [show newest RatedReceivable.weight none first = some first from rfl, hfold] at hall
  refine hall.congr fun item => ?_
  rw [List.mem_cons, or_false, or_comm]

/-- The receivable that a rating names. -/
structure Drives (receivables : List RatedReceivable) (rating : AccountRating) (driver : RatedReceivable) : Prop where
  mem : driver ∈ receivables
  band : rating.band = driver.rating.band
  id : rating.drivingReceivableId = some driver.receivableId
  severity : ∀ item ∈ receivables, item.severity ≤ rating.band.severityRank
  exposure : ∀ item ∈ receivables, item.severity = rating.band.severityRank →
    item.rating.exposureCents ≤ driver.rating.exposureCents

/-- What a rating says of the receivables of the account. -/
structure IsRatingOf (receivables : List RatedReceivable) (rating : AccountRating) : Prop where
  count : rating.ratedReceivableCount = receivables.length
  totalExposure : rating.totalExposureCents = (receivables.map (·.rating.exposureCents)).sum
  totalProvision : rating.totalProvisionCents = (receivables.map (·.rating.provisionCents)).sum
  worstDays : ∀ item ∈ receivables, item.rating.daysPastDue ≤ rating.worstDaysPastDue
  worstDays_or : rating.worstDaysPastDue = 0 ∨ ∃ item ∈ receivables, item.rating.daysPastDue = rating.worstDaysPastDue
  driver : receivables ≠ [] → rating.reason = .worstReceivable ∧ ∃ driver, Drives receivables rating driver

theorem foldl_totals (receivables : List RatedReceivable) (totals : Int × Int) :
    receivables.foldl (fun (totals : Int × Int) item =>
      (totals.1 + item.rating.exposureCents, totals.2 + item.rating.provisionCents)) totals =
    (totals.1 + (receivables.map (·.rating.exposureCents)).sum,
      totals.2 + (receivables.map (·.rating.provisionCents)).sum) := by
  induction receivables generalizing totals with
  | nil => simp
  | cons item rest ih => simp [ih, add_assoc]

/-- The greatest number of days, or what it started from. -/
theorem foldl_daysPastDue (receivables : List RatedReceivable) (start : Int) :
    let worst := receivables.foldl (fun worst item => max worst item.rating.daysPastDue) start
    start ≤ worst ∧ (∀ item ∈ receivables, item.rating.daysPastDue ≤ worst) ∧
      (worst = start ∨ ∃ item ∈ receivables, item.rating.daysPastDue = worst) := by
  induction receivables generalizing start with
  | nil => exact ⟨le_rfl, fun _ h => absurd h List.not_mem_nil, .inl rfl⟩
  | cons first rest ih =>
    obtain ⟨hstart, hall, hone⟩ := ih (max start first.rating.daysPastDue)
    rw [List.foldl_cons]
    refine ⟨(le_max_left _ _).trans hstart, fun item hitem => ?_, ?_⟩
    · rcases List.mem_cons.mp hitem with rfl | hrest
      · exact (le_max_right _ _).trans hstart
      · exact hall item hrest
    · rcases hone with heq | ⟨item, hitem, heq⟩
      · rcases max_choice start first.rating.daysPastDue with hmax | hmax
        · exact .inl (heq.trans hmax)
        · exact .inr ⟨first, List.mem_cons_self, (heq.trans hmax).symm⟩
      · exact .inr ⟨item, List.mem_cons_of_mem _ hitem, heq⟩

/-- The receivable that the fold keeps drives the rating. -/
theorem drives_worstReceivable (first : RatedReceivable) (rest : List RatedReceivable) (bestBand : RatingBand) :
    Drives (first :: rest) (rateAccount (first :: rest) bestBand true) (worstReceivable first rest) := by
  have hworst := worstReceivable_isNewest first rest
  have hgreatest : ∀ item ∈ first :: rest, item.weight ≤ (worstReceivable first rest).weight := by
    intro item hitem
    obtain ⟨driver, hdriver, hle⟩ := hworst.greatest item hitem
    rwa [Option.some.inj hdriver]
  refine ⟨hworst.isOffered _ rfl, rfl, rfl, fun item hitem => ?_, fun item hitem heq => ?_⟩
  · rcases Prod.Lex.toLex_le_toLex.mp (hgreatest item hitem) with hlt | ⟨heq, -⟩
    · exact hlt.le
    · exact heq.le
  · rcases Prod.Lex.toLex_le_toLex.mp (hgreatest item hitem) with hlt | ⟨-, hle⟩
    · exact absurd heq hlt.ne
    · exact hle

/-- **The account has the band of its worst receivable.** -/
theorem rateAccount_isRatingOf (receivables : List RatedReceivable) (bestBand : RatingBand) :
    IsRatingOf receivables (rateAccount receivables bestBand true) := by
  cases receivables with
  | nil => exact ⟨rfl, rfl, rfl, fun _ h => absurd h List.not_mem_nil, .inl rfl, fun h => absurd rfl h⟩
  | cons first rest =>
    obtain ⟨-, hall, hone⟩ := foldl_daysPastDue (first :: rest) 0
    have htotals := foldl_totals (first :: rest) (0, 0)
    simp only [zero_add] at htotals
    exact {
      count := rfl
      totalExposure := congrArg Prod.fst htotals
      totalProvision := congrArg Prod.snd htotals
      worstDays := hall
      worstDays_or := hone
      driver := fun _ => ⟨rfl, _, drives_worstReceivable first rest bestBand⟩ }

theorem worstDaysPastDue_nonneg (receivables : List RatedReceivable) (bestBand : RatingBand) :
    0 ≤ (rateAccount receivables bestBand true).worstDaysPastDue := by
  cases receivables with
  | nil => exact le_rfl
  | cons first rest => exact (foldl_daysPastDue (first :: rest) 0).1

/-! ## Owing more -/

/-- Whatever is owed, something at least as late and in at least as bad a band is owed as well. -/
def OwesNoLess (receivables receivables' : List RatedReceivable) : Prop :=
  ∀ item ∈ receivables, ∃ item' ∈ receivables', item.severity ≤ item'.severity ∧
    item.rating.daysPastDue ≤ item'.rating.daysPastDue

/-- The rating is not a better one. -/
structure AccountRating.NotBetter (rating rating' : AccountRating) : Prop where
  severity : rating.band.severityRank ≤ rating'.band.severityRank
  worstDays : rating.worstDaysPastDue ≤ rating'.worstDaysPastDue

/-- **Owing no less is not rated better**, the best band being that of no debt. -/
theorem notBetter_of_owesNoLess (howes : OwesNoLess receivables receivables')
    (hbest : receivables = [] → ∀ item ∈ receivables', bestBand.severityRank ≤ item.severity) :
    (rateAccount receivables bestBand true).NotBetter (rateAccount receivables' bestBand true) := by
  have hrating := rateAccount_isRatingOf receivables bestBand
  have hrating' := rateAccount_isRatingOf receivables' bestBand
  constructor
  · cases receivables with
    | nil =>
      cases receivables' with
      | nil => exact le_rfl
      | cons first rest =>
        obtain ⟨-, driver, hdriver⟩ := hrating'.driver (List.cons_ne_nil first rest)
        rw [hdriver.band]
        exact hbest rfl driver hdriver.mem
    | cons first rest =>
      obtain ⟨-, driver, hdriver⟩ := hrating.driver (List.cons_ne_nil first rest)
      obtain ⟨item', hitem', hseverity, -⟩ := howes driver hdriver.mem
      obtain ⟨-, driver', hdriver'⟩ := hrating'.driver (List.ne_nil_of_mem hitem')
      rw [hdriver.band]
      exact hseverity.trans (hdriver'.severity item' hitem')
  · rcases hrating.worstDays_or with hzero | ⟨item, hitem, hworst⟩
    · rw [hzero]
      exact worstDaysPastDue_nonneg receivables' bestBand
    · obtain ⟨item', hitem', -, hdays⟩ := howes item hitem
      rw [← hworst]
      exact hdays.trans (hrating'.worstDays item' hitem')

/-! ## In any order -/

/-- Two ratings that differ at most in which of several equal receivables they name. -/
structure AccountRating.Agrees (rating rating' : AccountRating) : Prop where
  severity : rating'.band.severityRank = rating.band.severityRank
  worstDays : rating'.worstDaysPastDue = rating.worstDaysPastDue
  count : rating'.ratedReceivableCount = rating.ratedReceivableCount
  totalExposure : rating'.totalExposureCents = rating.totalExposureCents
  totalProvision : rating'.totalProvisionCents = rating.totalProvisionCents
  reason : rating'.reason = rating.reason

theorem OwesNoLess.of_subset (h : receivables ⊆ receivables') : OwesNoLess receivables receivables' :=
  fun item hitem => ⟨item, h hitem, le_rfl, le_rfl⟩

/-- What a rating does not say depends on the order. -/
theorem rateAccount_agrees (hperm : receivables.Perm receivables') :
    (rateAccount receivables bestBand true).Agrees (rateAccount receivables' bestBand true) := by
  have hrating := rateAccount_isRatingOf receivables bestBand
  have hrating' := rateAccount_isRatingOf receivables' bestBand
  have hup : (rateAccount receivables bestBand true).NotBetter (rateAccount receivables' bestBand true) :=
    notBetter_of_owesNoLess (.of_subset hperm.subset) fun hnil item hitem => by
      subst hnil
      exact absurd hitem (hperm.nil_eq ▸ List.not_mem_nil)
  have hdown : (rateAccount receivables' bestBand true).NotBetter (rateAccount receivables bestBand true) :=
    notBetter_of_owesNoLess (.of_subset hperm.symm.subset) fun hnil item hitem => by
      subst hnil
      exact absurd hitem (hperm.eq_nil ▸ List.not_mem_nil)
  refine ⟨le_antisymm hdown.severity hup.severity, le_antisymm hdown.worstDays hup.worstDays, ?_, ?_, ?_, ?_⟩
  · rw [hrating.count, hrating'.count, hperm.length_eq]
  · rw [hrating.totalExposure, hrating'.totalExposure, (hperm.map _).sum_eq]
  · rw [hrating.totalProvision, hrating'.totalProvision, (hperm.map _).sum_eq]
  · by_cases hnil : receivables = []
    · subst hnil
      rw [hperm.nil_eq]
    · have hnil' : receivables' ≠ [] := fun hnil' => hnil (hnil' ▸ hperm).eq_nil
      rw [(hrating.driver hnil).1, (hrating'.driver hnil').1]

/-- Equal in both, the receivables that the two ratings name. -/
theorem Drives.eq_of_perm (hperm : receivables.Perm receivables') {rating rating' : AccountRating}
    {driver' : RatedReceivable} (h : Drives receivables rating driver) (h' : Drives receivables' rating' driver') :
    driver'.severity = driver.severity ∧ driver'.rating.exposureCents = driver.rating.exposureCents := by
  have hmem : driver' ∈ receivables := hperm.mem_iff.mpr h'.mem
  have hmem' : driver ∈ receivables' := hperm.mem_iff.mp h.mem
  have hrank : rating.band.severityRank = driver.severity := congrArg RatingBand.severityRank h.band
  have hrank' : rating'.band.severityRank = driver'.severity := congrArg RatingBand.severityRank h'.band
  have hseverity : driver'.severity = driver.severity :=
    le_antisymm ((h.severity driver' hmem).trans hrank.le) ((h'.severity driver hmem').trans hrank'.le)
  refine ⟨hseverity, le_antisymm (h.exposure driver' hmem ?_) (h'.exposure driver hmem' ?_)⟩
  · exact hseverity.trans hrank.symm
  · exact hseverity.symm.trans hrank'.symm

/-- Without two equal receivables the order does not matter at all. -/
theorem rateAccount_perm (hperm : receivables.Perm receivables')
    (hdistinct : ∀ a ∈ receivables, ∀ b ∈ receivables, a.severity = b.severity →
      a.rating.exposureCents = b.rating.exposureCents → a = b) :
    rateAccount receivables' bestBand true = rateAccount receivables bestBand true := by
  have hagrees : (rateAccount receivables bestBand true).Agrees (rateAccount receivables' bestBand true) :=
    rateAccount_agrees hperm
  by_cases hnil : receivables = []
  · subst hnil
    rw [hperm.nil_eq]
  · have hnil' : receivables' ≠ [] := fun hnil' => hnil (hnil' ▸ hperm).eq_nil
    obtain ⟨-, driver, hdriver⟩ := (rateAccount_isRatingOf receivables bestBand).driver hnil
    obtain ⟨-, driver', hdriver'⟩ := (rateAccount_isRatingOf receivables' bestBand).driver hnil'
    obtain ⟨hseverity, hexposure⟩ := hdriver.eq_of_perm hperm hdriver'
    have hsame : driver' = driver := hdistinct _ (hperm.mem_iff.mpr hdriver'.mem) _ hdriver.mem hseverity hexposure
    subst hsame
    exact AccountRating.ext (hdriver'.band.trans hdriver.band.symm) hagrees.worstDays hagrees.count
      hagrees.totalExposure hagrees.totalProvision (hdriver'.id.trans hdriver.id.symm) hagrees.reason

end Worst

/-! ## Under a scale -/

section Scale

variable {bands ordered : List RatingBand} {bestBand : RatingBand} {item item' : RatedReceivable}

/-- The rating of the receivable is that of some input under the scale. -/
def IsRated (bands : List RatingBand) (item : RatedReceivable) : Prop :=
  ∃ input, rateReceivable bands input = .ok item.rating

/-- Both are rated under the scale, the second with no fewer days past due. -/
def IsRatedLater (bands : List RatingBand) (item item' : RatedReceivable) : Prop :=
  ∃ input input', rateReceivable bands input = .ok item.rating ∧ rateReceivable bands input' = .ok item'.rating ∧
    input.daysPastDue ≤ input'.daysPastDue

theorem IsRated.bestBand_le (h : normalizeScale bands = .ok ordered) (hbest : ordered.head? = some bestBand)
    (hrated : IsRated bands item) : bestBand.severityRank ≤ item.severity := by
  obtain ⟨input, hinput⟩ := hrated
  obtain ⟨hmem, -⟩ := bandForDaysPastDue_mem h (rateReceivable_eq_ok hinput).1
  have hordered : item.rating.band ∈ ordered :=
    (normalizeScale_eq_ok h).1 ▸ (bySeverity_perm bands).mem_iff.mpr hmem
  have hsorted : ordered.Pairwise (·.severityRank ≤ ·.severityRank) :=
    (normalizeScale_eq_ok h).1 ▸ bySeverity_sorted bands
  cases ordered with
  | nil => cases hbest
  | cons first rest =>
    obtain rfl := Option.some.inj hbest
    rcases List.mem_cons.mp hordered with heq | hrest
    · exact heq ▸ le_rfl
    · exact (List.pairwise_cons.mp hsorted).1 _ hrest

theorem IsRatedLater.isRated (h : IsRatedLater bands item item') : IsRated bands item' :=
  have ⟨_, input', _, h', _⟩ := h
  ⟨input', h'⟩

/-- More days past due are no better band. -/
theorem IsRatedLater.le (h : normalizeScale bands = .ok ordered) (hlater : IsRatedLater bands item item') :
    item.severity ≤ item'.severity ∧ item.rating.daysPastDue ≤ item'.rating.daysPastDue := by
  obtain ⟨input, input', hinput, hinput', hle⟩ := hlater
  obtain ⟨hband, hdays, -⟩ := rateReceivable_eq_ok hinput
  obtain ⟨hband', hdays', -⟩ := rateReceivable_eq_ok hinput'
  refine ⟨severityRank_mono h hle hband hband', ?_⟩
  rw [hdays, hdays']
  exact max_le_max_left 0 hle

/-- **The account has the rating of its worst debt**, in whatever order the receivables come, and owing more or for
longer does not improve it. -/
theorem accountRating_worst (h : normalizeScale bands = .ok ordered) (hbest : ordered.head? = some bestBand) :
    (∀ receivables, IsRatingOf receivables (rateAccount receivables bestBand true)) ∧
    (∀ receivables receivables' : List RatedReceivable, receivables.Perm receivables' →
      (rateAccount receivables bestBand true).Agrees (rateAccount receivables' bestBand true) ∧
      (∀ driver driver', Drives receivables (rateAccount receivables bestBand true) driver →
        Drives receivables' (rateAccount receivables' bestBand true) driver' →
        driver'.severity = driver.severity ∧ driver'.rating.exposureCents = driver.rating.exposureCents) ∧
      ((∀ a ∈ receivables, ∀ b ∈ receivables, a.severity = b.severity →
        a.rating.exposureCents = b.rating.exposureCents → a = b) →
        rateAccount receivables' bestBand true = rateAccount receivables bestBand true)) ∧
    (∀ (receivables receivables' : List RatedReceivable) item, (∀ other ∈ item :: receivables, IsRated bands other) →
      receivables'.Perm (item :: receivables) →
      (rateAccount receivables bestBand true).NotBetter (rateAccount receivables' bestBand true)) ∧
    (∀ receivables receivables' : List RatedReceivable, List.Forall₂ (IsRatedLater bands) receivables receivables' →
      (rateAccount receivables bestBand true).NotBetter (rateAccount receivables' bestBand true)) := by
  refine ⟨fun receivables => rateAccount_isRatingOf receivables bestBand, fun receivables receivables' hperm =>
    ⟨rateAccount_agrees hperm, fun driver driver' hdriver hdriver' => hdriver.eq_of_perm hperm hdriver',
      rateAccount_perm hperm⟩, ?_, ?_⟩
  · intro receivables receivables' item hrated hperm
    refine notBetter_of_owesNoLess (.of_subset fun other hother => ?_) fun _ other hother => ?_
    · exact hperm.mem_iff.mpr (List.mem_cons_of_mem item hother)
    · exact (hrated other (hperm.mem_iff.mp hother)).bestBand_le h hbest
  · intro receivables receivables' hall
    refine notBetter_of_owesNoLess (fun item hitem => ?_) fun hnil other hother => ?_
    · obtain ⟨i, hi, rfl⟩ := List.getElem_of_mem hitem
      have hi' : i < receivables'.length := hall.length_eq ▸ hi
      have hlater : IsRatedLater bands receivables[i] receivables'[i] := hall.get hi hi'
      exact ⟨receivables'[i], List.getElem_mem hi', hlater.le h⟩
    · subst hnil
      cases hall
      cases hother

end Scale

/-- A receivable of 100.00, rated by the seeded scale. -/
def asfiRated (receivableId : Nat) (band : RatingBand) (daysPastDue provisionCents : Int) : RatedReceivable :=
  ⟨receivableId, ⟨band, daysPastDue, 10000, provisionCents, .daysPastDue⟩⟩

theorem accountRating_worst_asfi :
    let leve := asfiRated 1 ⟨"B", "Riesgo potencial", 1, 1, some 30, 5 / 100⟩ 12 500
    let grave := asfiRated 2 ⟨"D", "Dudoso", 3, 61, some 90, 50 / 100⟩ 75 5000
    let bestBand : RatingBand := ⟨"A", "Normal", 0, 0, some 0, 1 / 100⟩
    (rateAccount [leve] bestBand true).NotBetter (rateAccount [leve, grave] bestBand true) := by
  intro leve grave bestBand
  refine (accountRating_worst normalizeScale_asfiScale (rfl : asfiScale.head? = some bestBand)).2.2.1 [leve] _ grave
    (fun other hother => ?_) (List.Perm.swap grave leve [])
  rcases List.mem_cons.mp hother with rfl | hother
  · exact ⟨⟨75, 10000, false⟩, by decide +kernel⟩
  · obtain rfl := List.mem_singleton.mp hother
    exact ⟨⟨12, 10000, false⟩, by decide +kernel⟩

end AtlasErp
