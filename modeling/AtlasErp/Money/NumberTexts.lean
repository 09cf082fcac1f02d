import AtlasErp.Money.DoubleArithmetic
import Mathlib.Data.Int.Log

/-! # The text of a number

- `Double.toText`: `String(number)`, the shortest decimal that reads back as the number;
- `Double.toText_whole`: the text of a whole number;
- `Double.toText_reads_back`: **it is read back** as the number;
- `Double.toText_no_point`: below 10^21 it has no point. -/

namespace AtlasErp

open Lib

namespace Double

/-! ## `String(number)` -/

/-- The decimal of `k` digits that reads back as a number below 10^n, the nearest one if two do: a natural number and an
exponent of ten. -/
def decimalOf (x : ℚ) (n : Int) (k : Nat) : Option (Nat × Int) :=
  let unit : ℚ := 10 ^ (n - k)
  let below := ⌊x / unit⌋₊
  let rest := x / unit - below
  let candidates := if rest < 1 / 2 ∨ rest = 1 / 2 ∧ below % 2 = 0 then [below, below + 1] else [below + 1, below]
  (candidates.find? fun s : Nat => nearest (s * unit) = .finite x).map fun s => if s = 10 ^ k then (1, n) else (s, n - k)

/-- The shortest of them: seventeen digits are enough for any number, and those of a whole number for it. -/
def shortest (x : ℚ) : Nat × Int :=
  let n := Int.log 10 x + 1
  ((List.range' 1 (max 17 n.toNat)).findSome? (decimalOf x n)).getD (0, 0)

/-- The decimal notation of a positive number, or the scientific one when it is very large or small. -/
def positiveText (x : ℚ) : Text :=
  let digits := Nat.toDigits 10 (shortest x).1
  let n : Int := digits.length + (shortest x).2
  if digits.length ≤ n ∧ n ≤ 21 then digits ++ List.replicate (n - digits.length).toNat '0'
  else if 0 < n ∧ n ≤ 21 then digits.take n.toNat ++ '.' :: digits.drop n.toNat
  else if -6 < n ∧ n ≤ 0 then '0' :: '.' :: List.replicate (-n).toNat '0' ++ digits
  else
    digits.take 1 ++ (if digits.length = 1 then [] else '.' :: digits.drop 1) ++
      'e' :: (if n < 1 then '-' else '+') :: Nat.toDigits 10 (n - 1).natAbs

/-- `String(number)`. -/
def toText : Double → Text
  | .nan => "NaN".toList
  | .infinite negative => if negative then "-Infinity".toList else "Infinity".toList
  | .finite x => if x = 0 then ['0'] else if x < 0 then '-' :: positiveText (-x) else positiveText x

example : toText (.finite 120) = "120".toList ∧ toText (.finite (3 / 2)) = "1.5".toList ∧
    toText (.finite (1 / 8)) = "0.125".toList ∧ toText (.finite (15 * 10 ^ 20)) = "1.5e+21".toList ∧
    toText (.finite (2 ^ 60)) = "1152921504606847000".toList := by
  decide +kernel

/-! ## Whole numbers -/

section Whole

variable {N : Nat}

/-- A decimal that is found reads back, and has at most as many digits. -/
theorem decimalOf_spec {x : ℚ} {n e : Int} {k s : Nat} (hx : x < 10 ^ n) (h : decimalOf x n k = some (s, e)) :
    nearest (s * 10 ^ e) = .finite x ∧ (s < 10 ^ k ∧ e = n - k ∨ s = 1 ∧ e = n) := by
  have hten : (10 : ℚ) ≠ 0 := by norm_num
  have hunit : (0 : ℚ) < 10 ^ (n - k) := zpow_pos (by norm_num) _
  have hpower : ((10 ^ k : Nat) : ℚ) * 10 ^ (n - k) = 10 ^ n := by
    rw [Nat.cast_pow, ← zpow_natCast, Nat.cast_ofNat, ← zpow_add₀ hten, add_sub_cancel]
  have hbelow : ⌊x / 10 ^ (n - k)⌋₊ < 10 ^ k := by
    refine (Nat.floor_lt' (by positivity)).mpr ?_
    rwa [div_lt_iff₀ hunit, hpower]
  obtain ⟨candidate, hfind, heq⟩ := Option.map_eq_some_iff.mp h
  have hreads : nearest (candidate * 10 ^ (n - k)) = .finite x := by
    have hfound := List.find?_some hfind
    exact of_decide_eq_true hfound
  have hle : candidate ≤ 10 ^ k := by
    have hmem := List.mem_of_find?_eq_some hfind
    split at hmem <;> simp only [List.mem_cons, List.not_mem_nil, or_false] at hmem <;> omega
  split at heq
  next hround =>
    cases heq
    rw [hround, hpower] at hreads
    exact ⟨by rwa [Nat.cast_one, one_mul], .inr ⟨rfl, rfl⟩⟩
  next hne =>
    cases heq
    exact ⟨hreads, .inl ⟨lt_of_le_of_ne hle hne, rfl⟩⟩

/-- All its digits are enough for a whole number. -/
theorem decimalOf_whole (hdouble : nearest N = .finite N) (n : Nat) : decimalOf N n n ≠ none := by
  have hunit : (10 : ℚ) ^ ((n : Int) - n) = 1 := by rw [sub_self, zpow_zero]
  unfold decimalOf
  rw [hunit]
  dsimp only
  rw [div_one, Nat.floor_natCast, sub_self, if_pos (.inl (by norm_num)), List.find?_cons_of_pos (by simpa using hdouble)]
  exact Option.some_ne_none _

/-- The number of digits that is tried first and is enough is not above one that is enough. -/
theorem exists_findSome_range {α : Type} {f : Nat → Option α} {m n : Nat} (hn : n ∈ List.range' 1 m) (h : f n ≠ none) :
    ∃ k a, 0 < k ∧ k ≤ n ∧ (List.range' 1 m).findSome? f = some a ∧ f k = some a := by
  obtain ⟨a, ha⟩ := Option.ne_none_iff_exists'.mp fun hnone => h (List.findSome?_eq_none_iff.mp hnone n hn)
  obtain ⟨before, k, after, hlist, hk, hbefore⟩ := List.findSome?_eq_some_iff.mp ha
  have hmem : k ∈ List.range' 1 m := hlist ▸ List.mem_append_right _ List.mem_cons_self
  refine ⟨k, a, (List.mem_range'_1.mp hmem).1, ?_, ha, hk⟩
  have hsorted : (List.range' 1 m).Pairwise (· < ·) := List.pairwise_lt_range' 1
  rw [hlist] at hsorted hn
  rcases List.mem_append.mp hn with hmem | hmem
  · exact absurd (hbefore n hmem) h
  · rcases List.mem_cons.mp hmem with rfl | hmem
    · exact le_rfl
    · exact (List.rel_of_pairwise_cons (List.pairwise_append.mp hsorted).2.1 hmem).le

/-- Ten to the twenty-first is a double. -/
theorem nearest_ten_pow : nearest (10 ^ 21) = .finite (10 ^ 21) :=
  nearest_of_dyadic (m := 5 ^ 21) (e := 21) (by norm_num) (by norm_num)
    (by rw [abs_of_pos (by positivity)]; norm_num) ((abs_of_pos (by positivity)).trans_lt (lt_trans (b := 2 ^ 100) (by norm_num)
      (pow_lt_pow_right₀ one_lt_two (by norm_num))))

/-- **The shortest decimal** of a whole number has no fraction, and reads back. -/
theorem exists_shortest (hN : 0 < N) (hdouble : nearest N = .finite N) : ∃ s e : Nat,
    shortest N = (s, (e : Int)) ∧ 0 < s ∧ nearest (s * 10 ^ e) = .finite N ∧
      (N < 10 ^ 21 → (Nat.toDigits 10 s).length + e ≤ 21) := by
  have hpos : (0 : ℚ) < N := by exact_mod_cast hN
  obtain ⟨n, hn⟩ : ∃ n : Nat, Int.log 10 (N : ℚ) + 1 = n ∧ 0 < n := ⟨Nat.log 10 N + 1, by rw [Int.log_natCast]; rfl, by omega⟩
  have hbound : (N : ℚ) < 10 ^ (n : Int) := by
    rw [← hn.1]
    exact Int.lt_zpow_succ_log_self (by norm_num) _
  obtain ⟨k, ⟨s, e⟩, hk0, hle, hfound, hk⟩ := exists_findSome_range (f := decimalOf N n) (m := max 17 n) (n := n)
    (List.mem_range'_1.mpr (by omega)) (decimalOf_whole hdouble n)
  have hshortest : shortest N = (s, e) := by
    rw [shortest, hn.1]
    exact congrArg (·.getD (0, 0)) hfound
  obtain ⟨hreads, hform⟩ := decimalOf_spec hbound hk
  obtain ⟨e, rfl⟩ := Int.eq_ofNat_of_zero_le (show 0 ≤ e by omega)
  have hs : 0 < s := by
    refine Nat.pos_of_ne_zero fun hzero => ?_
    rw [hzero, Nat.cast_zero, zero_mul] at hreads
    exact hpos.ne (Double.finite.inj hreads)
  rw [zpow_natCast] at hreads
  refine ⟨s, e, hshortest, hs, hreads, fun hsmall => ?_⟩
  have hn21 : n ≤ 21 := by
    have hlog : Nat.log 10 N < 21 := Nat.log_lt_of_lt_pow (by omega) hsmall
    have hcast := hn.1
    rw [Int.log_natCast] at hcast
    omega
  rcases hform with ⟨hdigits, he⟩ | ⟨rfl, he⟩
  · have hlength := (Nat.length_toDigits_le_iff (by decide) hk0).mpr hdigits
    omega
  · have hone : (Nat.toDigits 10 1).length = 1 := by decide
    have hne : e ≠ 21 := by
      rintro rfl
      rw [Nat.cast_one, one_mul, nearest_ten_pow, finite.injEq] at hreads
      exact hsmall.ne (by exact_mod_cast hreads.symm)
    omega

/-- **The text** of a whole number: its digits and zeros, or from 10^21 on the scientific notation. -/
theorem positiveText_whole (hN : 0 < N) (hdouble : nearest N = .finite N) : ∃ s e : Nat,
    nearest (s * 10 ^ e) = .finite N ∧
      (positiveText N = Nat.toDigits 10 s ++ List.replicate e '0' ∨
        10 ^ 21 ≤ N ∧ ∃ d rest, Nat.toDigits 10 s = d :: rest ∧
          positiveText N = (d :: if rest = [] then [] else '.' :: rest) ++
            'e' :: '+' :: Nat.toDigits 10 (rest.length + e)) := by
  obtain ⟨s, e, hshortest, hs, hreads, hshort⟩ := exists_shortest hN hdouble
  refine ⟨s, e, hreads, ?_⟩
  simp only [positiveText, hshortest]
  by_cases hfits : (Nat.toDigits 10 s).length + e ≤ 21
  · left
    rw [if_pos (by omega)]
    congr 2
    omega
  · right
    obtain ⟨d, rest, hdigits⟩ := List.exists_cons_of_ne_nil (Nat.toDigits_ne_nil (n := s) (b := 10))
    refine ⟨le_of_not_gt fun hsmall => hfits (hshort hsmall), d, rest, hdigits, ?_⟩
    rw [hdigits, List.length_cons] at hfits
    rw [hdigits, List.length_cons, if_neg (by omega), if_neg (by omega), if_neg (by omega)]
    have hplus : ¬((rest.length + 1 : Nat) + (e : Int) < 1) := by omega
    have hexponent : ((rest.length + 1 : Nat) + (e : Int) - 1).natAbs = rest.length + e := by omega
    rw [if_neg hplus, hexponent]
    cases rest <;> rfl

/-- A sign, or none. -/
def signText (negative : Bool) : Text := if negative then ['-'] else []

theorem plainDecimal_signed {negative : Bool} {entero fraccion text : Text} (hentero : Decimal.AllDigits entero)
    (hfraccion : Decimal.AllDigits fraccion) (hne : entero ≠ [])
    (htext : text = entero ++ '.' :: fraccion ∨ fraccion = [] ∧ text = entero) :
    PlainDecimal (signText negative ++ text) negative entero fraccion := by
  refine ⟨hentero, hfraccion, .inl hne, signText negative, by cases negative <;> decide, by cases negative <;> decide, ?_⟩
  rcases htext with rfl | ⟨hnil, rfl⟩
  · exact .inl rfl
  · exact .inr ⟨hnil, rfl⟩

/-- What a number and its opposite are rounded to. -/
theorem nearest_signed {x y : ℚ} (negative : Bool) (h : nearest x = .finite y) :
    nearest ((if negative then -1 else 1) * x) = .finite ((if negative then -1 else 1) * y) := by
  cases negative with
  | false => simpa using h
  | true => simpa using nearest_neg h

/-- A whole number as its sign and the rest, which is a double too. -/
theorem whole_parts {T : Int} (hne : T ≠ 0) (hdouble : nearest T = .finite T) :
    (T : ℚ) = (if decide (T < 0) then -1 else 1) * T.natAbs ∧ nearest T.natAbs = .finite T.natAbs ∧
      toText (.finite T) = signText (decide (T < 0)) ++ positiveText T.natAbs := by
  have hcast : ((T.natAbs : Nat) : ℚ) = ((T.natAbs : Int) : ℚ) := (Int.cast_natCast _).symm
  have hzero : (T : ℚ) ≠ 0 := by exact_mod_cast hne
  rw [hcast]
  rcases lt_or_gt_of_ne hne with hneg | hpos
  · have habs : (T.natAbs : Int) = -T := by omega
    have hnegative : (T : ℚ) < 0 := by exact_mod_cast hneg
    rw [habs, Int.cast_neg, decide_eq_true hneg]
    exact ⟨by simp, nearest_neg hdouble, by simp [toText, hzero, hnegative, signText]⟩
  · have habs : (T.natAbs : Int) = T := by omega
    have hpositive : ¬((T : ℚ) < 0) := by exact_mod_cast hpos.not_gt
    rw [habs, decide_eq_false hpos.not_gt]
    exact ⟨by simp, hdouble, by simp [toText, hzero, hpositive, signText]⟩

/-- **The text of a whole number** is a decimal text without a point or, from 10^21 on, one with an exponent. -/
theorem toText_whole {T : Int} (hdouble : nearest T = .finite T) : ∃ text negative entero fraccion,
    PlainDecimal text negative entero fraccion ∧
      (toText (.finite T) = text ∧ nearest (plainValue negative entero fraccion) = .finite T ∧ '.' ∉ text ∨
        10 ^ 21 ≤ |T| ∧ ∃ n, toText (.finite T) = text ++ 'e' :: '+' :: Nat.toDigits 10 n ∧
          nearest (plainValue negative entero fraccion * 10 ^ n) = .finite T) := by
  rcases eq_or_ne T 0 with rfl | hne
  · exact ⟨['0'], false, ['0'], [], amountParts_eq_some_iff.mp (by decide),
      .inl ⟨by simp [toText], by decide +kernel, by decide⟩⟩
  obtain ⟨hsign, habs, htext⟩ := whole_parts hne hdouble
  obtain ⟨s, e, hreads, hform⟩ := positiveText_whole (Int.natAbs_pos.mpr hne) habs
  have hvalue : nearest ((if decide (T < 0) then -1 else 1) * (s * 10 ^ e)) = .finite T := by
    rw [hsign]
    exact nearest_signed _ hreads
  have hdigits := Decimal.allDigits_toDigits s
  have hs := Decimal.value_toDigits s
  rcases hform with hplain | ⟨hlarge, d, rest, hcons, hscientific⟩
  · have hall : Decimal.AllDigits (Nat.toDigits 10 s ++ List.replicate e '0') := by
      intro c hc
      rcases List.mem_append.mp hc with hc | hc
      · exact hdigits c hc
      · rw [List.eq_of_mem_replicate hc]
        rfl
    refine ⟨_, decide (T < 0), Nat.toDigits 10 s ++ List.replicate e '0', [],
      plainDecimal_signed hall (fun c hc => absurd hc List.not_mem_nil) (by simp [Nat.toDigits_ne_nil]) (.inr ⟨rfl, rfl⟩),
      .inl ⟨by rw [htext, hplain], ?_, ?_⟩⟩
    · rw [← hvalue, plainValue, Decimal.value_append, hs, Decimal.value_replicate, List.length_replicate]
      simp
    · intro hpoint
      rcases List.mem_append.mp hpoint with hmem | hmem
      · revert hmem
        cases decide (T < 0) <;> decide
      · exact absurd (hall '.' hmem) (by decide)
  · rw [hcons] at hdigits hs
    refine ⟨_, decide (T < 0), [d], rest, @plainDecimal_signed _ [d] rest (d :: if rest = [] then [] else '.' :: rest)
      (fun c hc => hdigits c (List.mem_cons.mpr (.inl (List.mem_singleton.mp hc))))
      (fun c hc => hdigits c (List.mem_cons_of_mem _ hc)) (by simp) ?_, .inr ⟨?_, rest.length + e, ?_, ?_⟩⟩
    · split
      next hnil => exact .inr ⟨hnil, rfl⟩
      next => exact .inl rfl
    · rw [Int.abs_eq_natAbs]
      exact_mod_cast hlarge
    · rw [htext, hscientific, List.append_assoc]
    · rw [← hvalue, ← hs, Decimal.value_cons, plainValue]
      have hpow : (10 : ℚ) ^ rest.length ≠ 0 := by positivity
      have hfirst : Decimal.value [d] = Decimal.digitValue d := by simp [Decimal.value]
      rw [hfirst, pow_add]
      push_cast
      congr 1
      field_simp

variable {T : Int}

/-- **A whole number** is read back from its text. -/
theorem toText_reads_back (hdouble : nearest T = .finite T) : numberOfText (toText (.finite T)) = .finite T := by
  obtain ⟨text, negative, entero, fraccion, hplain, ⟨htext, hvalue, -⟩ | ⟨-, n, htext, hvalue⟩⟩ := toText_whole hdouble
  · rw [htext, numberOfText_plain (by rwa [trim_of_forall hplain.forall_not_isWhiteSpace]), hvalue]
  · rw [htext, numberOfText_scientific hplain, hvalue]

/-- What its text is written with. -/
theorem toText_chars (hdouble : nearest T = .finite T) {P : Char → Prop} (hdigit : ∀ c, c.isDigit = true → P c)
    (hother : ∀ c ∈ ['.', '+', '-', 'e'], P c) : ∀ c ∈ toText (.finite T), P c := by
  obtain ⟨text, negative, entero, fraccion, hplain, hform⟩ := toText_whole hdouble
  have hchars := hplain.forall_mem hdigit (hother _ (by decide)) (hother _ (by decide)) (hother _ (by decide))
  rcases hform with ⟨htext, -, -⟩ | ⟨-, n, htext, -⟩
  · rwa [htext]
  · rw [htext]
    simp only [List.mem_append, List.mem_cons]
    rintro c (hc | rfl | rfl | hc)
    · exact hchars c hc
    · exact hother _ (by decide)
    · exact hother _ (by decide)
    · exact hdigit c (Decimal.allDigits_toDigits n c hc)

/-- Below 10^21 it has no point. -/
theorem toText_no_point (hdouble : nearest T = .finite T) (hsmall : |T| < 10 ^ 21) : '.' ∉ toText (.finite T) := by
  obtain ⟨text, negative, entero, fraccion, -, ⟨htext, -, hpoint⟩ | ⟨hlarge, -⟩⟩ := toText_whole hdouble
  · rwa [htext]
  · exact absurd hlarge (not_le.mpr hsmall)

end Whole

end Double

end AtlasErp
