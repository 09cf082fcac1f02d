import AtlasErp.Common.Numbers
import AtlasErp.Lib.Checked
import AtlasErp.Lib.Tiles
import Mathlib.Data.List.Sort

/-! # The rating scale

The bands of a rating policy, from the best to the worst, and the band of some days past due.

- `normalizeScale`: a scale in order of severity, if its bands follow each other from 0 days on;
- `tiles_of_normalizeScale`: what an accepted scale is, as intervals of days;
- `rateReceivable`: the rating of one receivable;
- `bandForDaysPastDue_total`: every number of days has a band, a worse one for more days. -/

namespace AtlasErp

open Lib

/-- A row of `rating_policy_bands`; the rate is not negative. -/
structure RatingBand where
  grade : String
  gradeLabel : String
  severityRank : Int
  minDaysPastDue : Int
  /-- The last band of a scale has no end. -/
  maxDaysPastDue : Option Int
  provisionRate : JsNumber
  deriving DecidableEq

inductive RatingScaleError where
  | sinBandas
  | primeraNoEmpiezaEnCero
  | ultimaCerrada
  | abiertaNoEsLaUltima (grade : String)
  | huecoOSolape (grade next : String)
  | ningunaBanda (days : Int)
  deriving DecidableEq

def RatingScaleError.message : RatingScaleError → String
  | .sinBandas => "La política de calificación no tiene bandas definidas."
  | .primeraNoEmpiezaEnCero => "La primera banda de la escala debe empezar en 0 días de mora."
  | .ultimaCerrada => "La última banda de la escala debe ser abierta (sin tope de días)."
  | .abiertaNoEsLaUltima grade => "La banda " ++ grade ++ " es abierta pero no es la última de la escala."
  | .huecoOSolape grade next => "La escala tiene un hueco o un solape entre " ++ grade ++ " y " ++ next ++ "."
  | .ningunaBanda days => "Ninguna banda cubre " ++ toString days ++ " días de mora."

/-! ## The scale -/

/-- Each band ends the day before the next one starts. -/
def checkNeighbours : List RatingBand → Except RatingScaleError Unit
  | current :: next :: rest => do
    let stop ← orFail current.maxDaysPastDue (.abiertaNoEsLaUltima current.grade)
    failIf (next.minDaysPastDue ≠ stop + 1) (.huecoOSolape current.grade next.grade)
    checkNeighbours (next :: rest)
  | _ => .ok ()

/-- From the best band to the worst; bands of one rank stay as they came. -/
def bySeverity (bands : List RatingBand) : List RatingBand :=
  bands.insertionSort fun a b => a.severityRank ≤ b.severityRank

def normalizeScale (bands : List RatingBand) : Except RatingScaleError (List RatingBand) := do
  let ordered := bySeverity bands
  let first ← orFail ordered.head? .sinBandas
  let last ← orFail ordered.getLast? .sinBandas
  failIf (first.minDaysPastDue ≠ 0) .primeraNoEmpiezaEnCero
  failIf (last.maxDaysPastDue ≠ none) .ultimaCerrada
  checkNeighbours ordered
  return ordered

/-- The days are in the band. -/
abbrev RatingBand.covers (days : Int) (band : RatingBand) : Bool :=
  holds RatingBand.minDaysPastDue RatingBand.maxDaysPastDue days band

def bandForDaysPastDue (bands : List RatingBand) (daysPastDue : Int) : Except RatingScaleError RatingBand := do
  let ordered ← normalizeScale bands
  let days := max 0 daysPastDue
  orFail (ordered.find? (RatingBand.covers days)) (.ningunaBanda days)

/-- `asfi_portfolio_rating`, as the migration writes it. -/
def asfiScale : List RatingBand := [
  ⟨"A", "Normal", 0, 0, some 0, 1 / 100⟩,
  ⟨"B", "Riesgo potencial", 1, 1, some 30, 5 / 100⟩,
  ⟨"C", "Deficiente", 2, 31, some 60, 20 / 100⟩,
  ⟨"D", "Dudoso", 3, 61, some 90, 50 / 100⟩,
  ⟨"E", "Pérdida", 4, 91, some 180, 80 / 100⟩,
  ⟨"F", "Pérdida irrecuperable", 5, 181, none, 1⟩]

theorem normalizeScale_asfiScale : normalizeScale asfiScale = .ok asfiScale := rfl

section Scale

variable {bands ordered : List RatingBand} {band band' : RatingBand} {days days' : Int}

theorem bySeverity_perm (bands : List RatingBand) : (bySeverity bands).Perm bands := List.perm_insertionSort _ bands

theorem bySeverity_sorted (bands : List RatingBand) :
    (bySeverity bands).Pairwise (·.severityRank ≤ ·.severityRank) := by
  have : Std.Total fun a b : RatingBand => a.severityRank ≤ b.severityRank := ⟨fun a b => Int.le_total _ _⟩
  have : IsTrans RatingBand fun a b => a.severityRank ≤ b.severityRank := ⟨fun a b c => Int.le_trans⟩
  exact List.pairwise_insertionSort _ bands

/-- Bands whose neighbours were checked follow each other, if the last one is open. -/
theorem tiles_of_checkNeighbours : ∀ {bands : List RatingBand} {first last : RatingBand},
    bands.head? = some first → bands.getLast? = some last → last.maxDaysPastDue = none →
    checkNeighbours bands = .ok () →
    Tiles RatingBand.minDaysPastDue RatingBand.maxDaysPastDue first.minDaysPastDue bands
  | [], _, _, hfirst, _, _, _ => by cases hfirst
  | [band], first, last, hfirst, hlast, hopen, _ => by
    obtain rfl := Option.some.inj hfirst
    obtain rfl := Option.some.inj hlast
    exact .last hopen
  | current :: next :: rest, first, last, hfirst, hlast, hopen, hcheck => by
    obtain rfl := Option.some.inj hfirst
    obtain ⟨stop, hstop, hcheck⟩ := orFail_bind_eq_ok.mp hcheck
    obtain ⟨hnext, hcheck⟩ := failIf_bind_eq_ok.mp hcheck
    have hrest := tiles_of_checkNeighbours rfl (List.getLast?_cons_cons ▸ hlast) hopen hcheck
    rw [not_ne_iff.mp hnext] at hrest
    exact .cons hstop hrest

theorem normalizeScale_eq_ok (h : normalizeScale bands = .ok ordered) : ordered = bySeverity bands ∧
    Tiles RatingBand.minDaysPastDue RatingBand.maxDaysPastDue 0 ordered := by
  obtain ⟨first, hfirst, h⟩ := orFail_bind_eq_ok.mp h
  obtain ⟨last, hlast, h⟩ := orFail_bind_eq_ok.mp h
  obtain ⟨hzero, h⟩ := failIf_bind_eq_ok.mp h
  obtain ⟨hopen, h⟩ := failIf_bind_eq_ok.mp h
  obtain ⟨_, hcheck, h⟩ := bind_eq_ok.mp h
  obtain rfl := pure_eq_ok.mp h
  have htiles := tiles_of_checkNeighbours hfirst hlast (not_ne_iff.mp hopen) hcheck
  rw [not_ne_iff.mp hzero] at htiles
  exact ⟨rfl, htiles⟩

/-- An accepted scale is accepted as it is. -/
theorem normalizeScale_idem (h : normalizeScale bands = .ok ordered) : normalizeScale ordered = .ok ordered := by
  obtain ⟨heq, -⟩ := normalizeScale_eq_ok h
  have hsame : bySeverity ordered = bySeverity bands := by
    subst heq
    exact (bySeverity_sorted bands).insertionSort_eq
  rw [← h, normalizeScale, normalizeScale, hsame]

theorem bandForDaysPastDue_eq (h : normalizeScale bands = .ok ordered) :
    bandForDaysPastDue bands days =
      orFail (ordered.find? (RatingBand.covers (max 0 days))) (.ningunaBanda (max 0 days)) := by
  rw [bandForDaysPastDue, h, ok_bind]

/-- The band that was found is one of the scale, and the days are in it. -/
theorem bandForDaysPastDue_mem (h : normalizeScale bands = .ok ordered) (hband : bandForDaysPastDue bands days = .ok band) :
    band ∈ bands ∧ band.covers (max 0 days) = true := by
  rw [bandForDaysPastDue_eq h] at hband
  have hfound := orFail_eq_ok.mp hband
  have hmem : band ∈ bySeverity bands := (normalizeScale_eq_ok h).1 ▸ List.mem_of_find?_eq_some hfound
  exact ⟨(bySeverity_perm bands).mem_iff.mp hmem, List.find?_some hfound⟩

/-- **Every number of days has a band.** -/
theorem exists_bandForDaysPastDue (h : normalizeScale bands = .ok ordered) (days : Int) :
    ∃ band, bandForDaysPastDue bands days = .ok band := by
  obtain ⟨band, hband⟩ := (normalizeScale_eq_ok h).2.exists_find? (le_max_left 0 days)
  exact ⟨band, by rw [bandForDaysPastDue_eq h, orFail_eq_ok, hband]⟩

/-- **More days do not fall in a better band.** -/
theorem severityRank_mono (h : normalizeScale bands = .ok ordered) (hle : days ≤ days')
    (hband : bandForDaysPastDue bands days = .ok band) (hband' : bandForDaysPastDue bands days' = .ok band') :
    band.severityRank ≤ band'.severityRank := by
  obtain ⟨heq, htiles⟩ := normalizeScale_eq_ok h
  rw [bandForDaysPastDue_eq h, orFail_eq_ok] at hband hband'
  have hsorted : ordered.Pairwise (·.severityRank ≤ ·.severityRank) := heq ▸ bySeverity_sorted bands
  exact htiles.find?_mono hsorted (le_max_left 0 days) (max_le_max_left 0 hle) hband hband'

/-- **The scale is total and monotone.** -/
theorem ratingScale_total (h : normalizeScale bands = .ok ordered) :
    (∀ days, 0 ≤ days → ∃ band ∈ bands, bandForDaysPastDue bands days = .ok band ∧ band.covers days = true) ∧
    (∀ days error, bandForDaysPastDue bands days ≠ .error error) ∧
    (∀ days days' band band', days ≤ days' → bandForDaysPastDue bands days = .ok band →
      bandForDaysPastDue bands days' = .ok band' → band.severityRank ≤ band'.severityRank) ∧
    ((∀ band ∈ bands, ∀ stop ∈ band.maxDaysPastDue, band.minDaysPastDue ≤ stop) →
      ∀ days, 0 ≤ days → bands.countP (RatingBand.covers days) = 1) := by
  refine ⟨fun days hdays => ?_, fun days error herror => ?_, fun days days' band band' hle hband hband' => ?_,
    fun hproper days hdays => ?_⟩
  · obtain ⟨band, hband⟩ := exists_bandForDaysPastDue h days
    obtain ⟨hmem, hcovers⟩ := bandForDaysPastDue_mem h hband
    rw [max_eq_right hdays] at hcovers
    exact ⟨band, hmem, hband, hcovers⟩
  · obtain ⟨band, hband⟩ := exists_bandForDaysPastDue h days
    rw [hband] at herror
    cases herror
  · exact severityRank_mono h hle hband hband'
  · obtain ⟨heq, htiles⟩ := normalizeScale_eq_ok h
    have hperm : ordered.Perm bands := heq ▸ bySeverity_perm bands
    rw [← hperm.countP_eq]
    exact htiles.countP_eq_one (fun band hband => hproper band (hperm.mem_iff.mp hband)) hdays

end Scale

theorem ratingScale_total_asfi : (∃ band ∈ asfiScale, bandForDaysPastDue asfiScale 45 = .ok band ∧ band.covers 45 = true) ∧
    asfiScale.countP (RatingBand.covers 45) = 1 :=
  have htotal := ratingScale_total normalizeScale_asfiScale
  ⟨htotal.1 45 (by decide), htotal.2.2.2 (by decide) 45 (by decide)⟩

/-! ## The rating of a receivable -/

structure ReceivableRatingInput where
  daysPastDue : Int
  exposureCents : Int
  disputed : Bool
  deriving DecidableEq

inductive ReceivableRatingReason where
  | daysPastDue
  | disputed
  deriving DecidableEq

structure ReceivableRating where
  band : RatingBand
  daysPastDue : Int
  exposureCents : Int
  provisionCents : Int
  reason : ReceivableRatingReason
  deriving DecidableEq

/-- The product of two doubles, to the nearest integer and up from a half. -/
def provisionCentsFor (exposureCents : Int) (provisionRate : JsNumber) : Int :=
  if exposureCents ≤ 0 then 0 else ⌊binary64 (exposureCents * binary64 provisionRate) + 1 / 2⌋

def rateReceivable (bands : List RatingBand) (input : ReceivableRatingInput) :
    Except RatingScaleError ReceivableRating := do
  let band ← bandForDaysPastDue bands input.daysPastDue
  let exposureCents := max 0 input.exposureCents
  return {
    band
    daysPastDue := max 0 input.daysPastDue
    exposureCents
    provisionCents := provisionCentsFor exposureCents band.provisionRate
    reason := if input.disputed then .disputed else .daysPastDue }

theorem rateReceivable_eq_ok {bands : List RatingBand} {input : ReceivableRatingInput} {rating : ReceivableRating}
    (h : rateReceivable bands input = .ok rating) :
    bandForDaysPastDue bands input.daysPastDue = .ok rating.band ∧ rating.daysPastDue = max 0 input.daysPastDue ∧
      rating.exposureCents = max 0 input.exposureCents := by
  obtain ⟨band, hband, h⟩ := bind_eq_ok.mp h
  obtain rfl := pure_eq_ok.mp h
  exact ⟨hband, rfl, rfl⟩

end AtlasErp
