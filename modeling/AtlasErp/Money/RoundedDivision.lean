import AtlasErp.Money.DecimalAmount

/-! # Rounded division and proportional split

- `RoundsTo`: what it is to round a number to an integer, under each rule for ties;
- `divideRounded_eq`: a division rounds the magnitude and keeps the sign;
- `Splits`: what it is to split a total in proportion to weights;
- `allocateProportionally_splits`, `splitEvenly_splits`: the splits of the code are such;
- `divideRounded_allocateProportionally`: **the two functions do what they are for**, for integers of any size. -/

namespace AtlasErp

open Lib

/-! ## Rounding -/

/-- An integer is nearest to a number; of two, it is the one farther from zero, or the even one. -/
structure RoundsTo (mode : RoundingMode) (x : ℚ) (q : Int) : Prop where
  nearest : ∀ z : Int, |x - q| ≤ |x - z|
  tie : ∀ z : Int, z ≠ q → |x - z| = |x - q| → match mode with
    | .halfUp => |x| < |(q : ℚ)|
    | .halfEven => Even q

section Rounding

variable {mode : RoundingMode} {n n' a a' d q : Int}

/-- A number that is not negative, divided and rounded. -/
def roundedMagnitude (a d : Int) (mode : RoundingMode) : Int :=
  if a % d * 2 > d ∨ (a % d * 2 = d ∧ (mode = .halfUp ∨ a / d % 2 = 1)) then a / d + 1 else a / d

/-- **A division** rounds the magnitude and keeps the sign. -/
theorem divideRounded_eq (hd : 0 < d) (n : Int) (mode : RoundingMode) :
    divideRounded n d mode = .ok (n.sign * roundedMagnitude |n| d mode) := by
  simp only [divideRounded, failIf_of_not (not_le.mpr hd), ok_bind]
  rcases lt_trichotomy n 0 with hn | rfl | hn
  · rw [if_pos hn, if_pos hn, Int.sign_eq_neg_one_of_neg hn, abs_of_neg hn, neg_one_mul]
    rfl
  · have hzero : ¬d < 0 := not_lt.mpr hd.le
    simp [hzero, hd.ne]
  · rw [if_neg hn.not_gt, if_neg hn.not_gt, Int.sign_eq_one_of_pos hn, abs_of_pos hn, one_mul]
    rfl

@[simp] theorem roundedMagnitude_zero (hd : 0 < d) (mode : RoundingMode) : roundedMagnitude 0 d mode = 0 := by
  rw [roundedMagnitude, Int.zero_emod, Int.zero_ediv, if_neg (by omega)]

/-- How far a rounded magnitude is, and where it goes on a tie. -/
theorem roundedMagnitude_spec (ha : 0 ≤ a) (hd : 0 < d) (mode : RoundingMode) :
    0 ≤ roundedMagnitude a d mode ∧ 2 * |a - roundedMagnitude a d mode * d| ≤ d ∧
      (2 * |a - roundedMagnitude a d mode * d| = d → match mode with
        | .halfUp => a < roundedMagnitude a d mode * d
        | .halfEven => Even (roundedMagnitude a d mode)) := by
  have hsplit := Int.mul_ediv_add_emod a d
  have hrest := Int.emod_nonneg a hd.ne'
  have hlt := Int.emod_lt_of_pos a hd
  have hquotient := Int.ediv_nonneg ha hd.le
  unfold roundedMagnitude
  split
  next hup =>
    have hfar : a - (a / d + 1) * d = -(d - a % d) := by linarith
    rw [hfar, abs_neg, abs_of_pos (by omega)]
    refine ⟨by omega, by omega, fun htie => ?_⟩
    cases mode with
    | halfUp => linarith
    | halfEven =>
      have hodd : a / d % 2 = 1 := by
        rcases hup with hgt | ⟨-, hmode | hodd⟩
        · omega
        · cases hmode
        · exact hodd
      exact Int.even_iff.mpr (by omega)
  next hdown =>
    have hfar : a - a / d * d = a % d := by linarith
    rw [hfar, abs_of_nonneg hrest]
    refine ⟨hquotient, by omega, fun htie => ?_⟩
    cases mode with
    | halfUp => exact absurd (.inr ⟨by omega, .inl rfl⟩) hdown
    | halfEven =>
      have hodd : a / d % 2 ≠ 1 := fun hodd => hdown (.inr ⟨by omega, .inr hodd⟩)
      exact Int.even_iff.mpr (by omega)

/-- More is not rounded to less. -/
theorem roundedMagnitude_mono (hd : 0 < d) (mode : RoundingMode) (h : a ≤ a') :
    roundedMagnitude a d mode ≤ roundedMagnitude a' d mode := by
  have hsplit := Int.mul_ediv_add_emod a d
  have hsplit' := Int.mul_ediv_add_emod a' d
  have hlt := Int.emod_lt_of_pos a' hd
  rcases (Int.ediv_le_ediv hd h).lt_or_eq with hquotient | hquotient
  · unfold roundedMagnitude
    split <;> split <;> omega
  · have hrest : a % d ≤ a' % d := by
      rw [hquotient] at hsplit
      omega
    unfold roundedMagnitude
    rw [hquotient]
    split
    next hup =>
      refine (if_pos ?_).ge
      rcases hup with hgt | ⟨htie, hmode⟩
      · exact .inl (by omega)
      · rcases hrest.lt_or_eq with hless | hsame
        · exact .inl (by omega)
        · exact .inr ⟨hsame ▸ htie, hmode⟩
    next => split <;> omega

/-- An integer within half a unit of a number is nearest to it, and the tie is at half a unit. -/
theorem roundsTo_of_half {x : ℚ} (hhalf : 2 * |x - q| ≤ 1)
    (htie : 2 * |x - q| = 1 → match mode with
      | .halfUp => |x| < |(q : ℚ)|
      | .halfEven => Even q) : RoundsTo mode x q := by
  have hother : ∀ z : Int, z ≠ q → 1 ≤ |x - z| + |x - q| := by
    intro z hz
    have hgap : (1 : ℚ) ≤ |(q : ℚ) - z| := by
      have hint : (1 : Int) ≤ |q - z| := Int.one_le_abs (sub_ne_zero.mpr (Ne.symm hz))
      exact_mod_cast hint
    calc (1 : ℚ) ≤ |(q : ℚ) - z| := hgap
      _ = |(x - z) - (x - q)| := by rw [sub_sub_sub_cancel_left]
      _ ≤ |x - z| + |x - q| := abs_sub _ _
  constructor
  · intro z
    by_cases hz : z = q
    · rw [hz]
    · linarith [hother z hz]
  · intro z hz hsame
    exact htie (by linarith [hother z hz])

/-- **A rounded division** rounds the quotient. -/
theorem divideRounded_roundsTo (hd : 0 < d) (n : Int) (mode : RoundingMode) :
    ∃ q, divideRounded n d mode = .ok q ∧ RoundsTo mode ((n : ℚ) / d) q := by
  refine ⟨_, divideRounded_eq hd n mode, ?_⟩
  obtain ⟨hnonneg, hhalf, htie⟩ := roundedMagnitude_spec (abs_nonneg n) hd mode
  have hzero : n = 0 → roundedMagnitude |n| d mode = 0 := by
    rintro rfl
    rw [abs_zero, roundedMagnitude_zero hd]
  generalize roundedMagnitude |n| d mode = m at hnonneg hhalf htie hzero
  have hdq : (0 : ℚ) < d := by exact_mod_cast hd
  -- the distance of the quotients is that of the magnitudes
  have hsign : |n - n.sign * m * d| = |(|n| - m * d)| := by
    rcases lt_trichotomy n 0 with hn | rfl | hn
    · rw [Int.sign_eq_neg_one_of_neg hn, abs_of_neg hn, ← abs_neg (n - _)]
      congr 1
      ring
    · simp [hzero rfl]
    · rw [Int.sign_eq_one_of_pos hn, abs_of_pos hn, one_mul]
  have hfar : |(n : ℚ) / d - ((n.sign * m : Int) : ℚ)| = ((|(|n| - m * d)| : Int) : ℚ) / d := by
    rw [← hsign, eq_div_iff hdq.ne', ← abs_of_pos hdq, ← abs_mul, abs_of_pos hdq, sub_mul, div_mul_cancel₀ _ hdq.ne']
    push_cast
    rfl
  refine roundsTo_of_half ?_ fun hone => ?_
  · rw [hfar, ← mul_div_assoc, div_le_one hdq]
    exact_mod_cast hhalf
  · rw [hfar, ← mul_div_assoc, div_eq_one_iff_eq hdq.ne'] at hone
    have htie := htie (by exact_mod_cast hone)
    cases mode with
    | halfUp =>
      have hne : n ≠ 0 := by
        intro hn
        rw [hn, hzero hn] at htie
        simp at htie
      have hmagnitude : |((n.sign * m : Int) : ℚ)| = m := by
        rw [← Int.cast_abs, abs_mul, Int.abs_sign_of_ne_zero hne, one_mul, abs_of_nonneg hnonneg]
      rw [hmagnitude, abs_div, abs_of_pos hdq, div_lt_iff₀ hdq]
      exact_mod_cast htie
    | halfEven => exact htie.mul_left _

theorem divideRounded_neg (hd : 0 < d) (h : divideRounded n d mode = .ok q) :
    divideRounded (-n) d mode = .ok (-q) := by
  rw [divideRounded_eq hd] at h ⊢
  obtain rfl := Except.ok.inj h
  rw [Int.sign_neg, abs_neg, neg_mul]

theorem divideRounded_mono (hd : 0 < d) (hle : n ≤ n') {q' : Int} (h : divideRounded n d mode = .ok q)
    (h' : divideRounded n' d mode = .ok q') : q ≤ q' := by
  rw [divideRounded_eq hd] at h h'
  obtain rfl := Except.ok.inj h
  obtain rfl := Except.ok.inj h'
  have hm := (roundedMagnitude_spec (abs_nonneg n) hd mode).1
  have hm' := (roundedMagnitude_spec (abs_nonneg n') hd mode).1
  rcases lt_trichotomy n 0 with hn | rfl | hn
  · rw [Int.sign_eq_neg_one_of_neg hn, neg_one_mul]
    rcases lt_trichotomy n' 0 with hn' | rfl | hn'
    · rw [Int.sign_eq_neg_one_of_neg hn', neg_one_mul]
      refine neg_le_neg (roundedMagnitude_mono hd mode ?_)
      rw [abs_of_neg hn, abs_of_neg hn']
      exact neg_le_neg hle
    · simpa using hm
    · rw [Int.sign_eq_one_of_pos hn', one_mul]
      exact (neg_nonpos.mpr hm).trans hm'
  · rw [Int.sign_zero, zero_mul]
    exact mul_nonneg (Int.sign_nonneg_iff.mpr hle) hm'
  · have hn' : 0 < n' := hn.trans_le hle
    rw [Int.sign_eq_one_of_pos hn, Int.sign_eq_one_of_pos hn', one_mul, one_mul]
    refine roundedMagnitude_mono hd mode ?_
    rwa [abs_of_pos hn, abs_of_pos hn']

end Rounding

/-! ## Splitting in proportion -/

/-- A total split in proportion to weights: whole parts that add up to it, each less than a unit from the exact share
but for the first, which takes what the others leave. -/
structure Splits (total : Int) (weights parts : List Int) : Prop where
  length_eq : parts.length = weights.length
  nonneg : ∀ part ∈ parts, 0 ≤ part
  sum_eq : parts.sum = total
  near : ∀ i (hi : i < parts.length) (hw : i < weights.length), i ≠ 0 →
    |(parts[i] : ℚ) - total * weights[i] / weights.sum| < 1
  excess : ∀ (hi : 0 < parts.length) (hw : 0 < weights.length),
    (total : ℚ) * weights[0] / weights.sum ≤ parts[0] ∧
      (parts[0] : ℚ) - total * weights[0] / weights.sum < parts.length

/-- Equal parts, with the remainder in the first. -/
def splitEvenly (total : Int) (count : Nat) : Except MoneyError (List Int) := do
  failIf (count < 1) (.rangeError "Número de partes inválido.")
  allocateProportionally total (List.replicate count 1)

section Splitting

variable {total : Int} {weights parts : List Int}

/-- A share that is rounded down is less than a unit below the exact one. -/
theorem share_bounds {weightTotal : Int} (hpos : 0 < weightTotal) (total weight : Int) :
    ((total * weight / weightTotal : Int) : ℚ) ≤ (total : ℚ) * weight / weightTotal ∧
      (total : ℚ) * weight / weightTotal < ((total * weight / weightTotal : Int) : ℚ) + 1 := by
  have hposq : (0 : ℚ) < weightTotal := by exact_mod_cast hpos
  rw [le_div_iff₀ hposq, div_lt_iff₀ hposq]
  have hlow := Int.ediv_mul_le (total * weight) hpos.ne'
  have hhigh := Int.lt_ediv_add_one_mul_self (total * weight) hpos
  exact ⟨by exact_mod_cast hlow, by exact_mod_cast hhigh⟩

/-- The first part is no less than its exact share: the others are rounded down. -/
theorem le_first_part (htotal : 0 ≤ total) {first weight : Int} {rest : List Int}
    (h : allocateProportionally total (weight :: weights) = .ok (first :: rest)) :
    total * weight ≤ first * (weight :: weights).sum := by
  obtain ⟨-, hweights, hpos⟩ := weights_of_allocateProportionally h
  obtain ⟨-, hsum⟩ := allocateProportionally_eq_ok h
  obtain ⟨residue, hparts, -⟩ := allocateProportionally_shares htotal h
  obtain ⟨-, hrest⟩ := List.cons.inj hparts
  have hproduct : ∀ w ∈ weights, 0 ≤ total * w := fun w hmem =>
    mul_nonneg htotal (hweights w (List.mem_cons_of_mem _ hmem))
  have hdown := @sum_tdiv_mul_le total (weight :: weights).sum htotal weights fun w hmem =>
    hweights w (List.mem_cons_of_mem _ hmem)
  rw [List.map_congr_left fun w hmem => Int.tdiv_eq_ediv_of_nonneg (hproduct w hmem)] at hdown
  have hleft : rest.sum * (weight :: weights).sum ≤ total * weights.sum := hrest ▸ hdown
  rw [List.sum_cons] at hsum
  calc total * weight = total * (weight :: weights).sum - total * weights.sum := by rw [List.sum_cons]; ring
    _ ≤ total * (weight :: weights).sum - rest.sum * (weight :: weights).sum := by linarith
    _ = first * (weight :: weights).sum := by rw [← hsum]; ring

/-- **A proportional split** is a split of the total. -/
theorem allocateProportionally_splits (htotal : 0 ≤ total) (h : allocateProportionally total weights = .ok parts) :
    Splits total weights parts := by
  obtain ⟨hne, hweights, hpos⟩ := weights_of_allocateProportionally h
  obtain ⟨hlength, hsum⟩ := allocateProportionally_eq_ok h
  have hnonneg := allocateProportionally_nonneg htotal h
  obtain ⟨residue, hparts, hresidue, hfew⟩ := allocateProportionally_shares htotal h
  have hfewq : (residue : ℚ) + 1 ≤ weights.length := by exact_mod_cast hfew
  refine ⟨hlength, hnonneg, hsum, fun i hi hw hi0 => ?_, fun hi hw => ⟨?_, ?_⟩⟩
  · obtain ⟨hlow, hhigh⟩ := share_bounds hpos total weights[i]
    have hpart : parts[i] = total * weights[i] / weights.sum := by
      simp only [hparts, List.getElem_modifyHead, dif_neg hi0, List.getElem_map]
    rw [hpart, abs_lt]
    constructor <;> linarith
  · cases weights with
    | nil => exact absurd rfl hne
    | cons weight weights =>
      cases parts with
      | nil => exact absurd hi (lt_irrefl 0)
      | cons first rest =>
        have hposq : (0 : ℚ) < ((weight :: weights).sum : Int) := by exact_mod_cast hpos
        rw [div_le_iff₀ hposq]
        exact_mod_cast le_first_part htotal h
  · obtain ⟨hlow, -⟩ := share_bounds hpos total weights[0]
    have hpart : parts[0] = total * weights[0] / weights.sum + residue := by
      simp only [hparts, List.getElem_modifyHead_zero, List.getElem_map]
    rw [hpart, hlength, Int.cast_add]
    linarith

theorem splitEvenly_splits {count : Nat} (htotal : 0 ≤ total) (h : splitEvenly total count = .ok parts) :
    Splits total (List.replicate count 1) parts :=
  allocateProportionally_splits htotal (failIf_bind_eq_ok.mp h).2

end Splitting

/-- **Rounded division and proportional split**, for integers of any size: a quotient is rounded to a nearest integer
under the rule for ties, with the sign and the order kept, and a total is split over any weights. -/
theorem divideRounded_allocateProportionally :
    (∀ (n d : Int) (mode : RoundingMode), 0 < d → ∃ q, divideRounded n d mode = .ok q ∧
      RoundsTo mode ((n : ℚ) / d) q ∧ divideRounded (-n) d mode = .ok (-q) ∧
      ∀ n' ≥ n, ∃ q', divideRounded n' d mode = .ok q' ∧ q ≤ q') ∧
    ∀ (total : Int) (weights : List Int), 0 ≤ total → (∀ weight ∈ weights, 0 ≤ weight) → 0 < weights.sum →
      ∃ parts, allocateProportionally total weights = .ok parts ∧ Splits total weights parts := by
  constructor
  · intro n d mode hd
    obtain ⟨q, hq, hrounds⟩ := divideRounded_roundsTo hd n mode
    refine ⟨q, hq, hrounds, divideRounded_neg hd hq, fun n' hle => ?_⟩
    obtain ⟨q', hq', -⟩ := divideRounded_roundsTo hd n' mode
    exact ⟨q', hq', divideRounded_mono hd hle hq hq'⟩
  · intro total weights htotal hweights hpos
    obtain ⟨parts, hparts⟩ := exists_allocateProportionally total hweights hpos
    exact ⟨parts, hparts, allocateProportionally_splits htotal hparts⟩

theorem divideRounded_allocateProportionally_tercios :
    (∃ q, divideRounded 5 2 .halfEven = .ok q ∧ RoundsTo .halfEven ((5 : Int) / (2 : Int) : ℚ) q) ∧
      ∃ parts, allocateProportionally 10000 [1, 1, 1] = .ok parts ∧ Splits 10000 [1, 1, 1] parts := by
  obtain ⟨hdivide, hsplit⟩ := divideRounded_allocateProportionally
  obtain ⟨q, hq, hrounds, -⟩ := hdivide 5 2 .halfEven (by decide)
  exact ⟨⟨q, hq, hrounds⟩, hsplit 10000 [1, 1, 1] (by decide) (by decide) (by decide)⟩

end AtlasErp
