import AtlasErp.Lib.Gf256
import AtlasErp.Qr.Codewords
import Mathlib.Algebra.BigOperators.Intervals

/-! # The correction of a block

- `ofByte_gfMul`: the products of the tables are those of GF(256);
- `codeword`: the polynomial of some bytes;
- `codeword_generatorPoly`: the generator, by its roots;
- `reedSolomon_spec`: what the shift register keeps;
- `reedSolomon_codeword`: **a block with its correction** is a codeword. -/

namespace AtlasErp.Qr

open Lib Gf256 Polynomial

/-! ## The tables -/

section Tables

variable {a b i : Nat}

theorem nextPower_lt (h : a < 256) : nextPower a < 256 := by
  have hdouble : a <<< 1 < 512 := by
    rw [Nat.shiftLeft_eq]
    omega
  unfold nextPower
  dsimp only
  split
  next hbit =>
    -- the ninth bit is set on both sides, and goes
    have hhigh : (a <<< 1).testBit 8 = true := by
      by_contra hno
      refine hbit (Nat.eq_of_testBit_eq fun k => ?_)
      rw [Nat.testBit_and, Nat.zero_testBit, show (0x100 : Nat) = 2 ^ 8 from rfl, Nat.testBit_two_pow]
      by_cases hk : 8 = k
      · subst hk
        simpa using hno
      · simp [hk]
    show _ < 2 ^ 8
    refine Nat.lt_pow_two_of_testBit _ fun k hk => ?_
    rw [Nat.testBit_xor]
    rcases hk.lt_or_eq with hlt | rfl
    · have hpow : (2 : Nat) ^ 9 ≤ 2 ^ k := Nat.pow_le_pow_right (by decide) hlt
      rw [Nat.testBit_lt_two_pow (by omega), Nat.testBit_lt_two_pow (by omega)]
      rfl
    · rw [hhigh]
      decide
  next hbit =>
    show _ < 2 ^ 8
    refine Nat.lt_pow_two_of_testBit _ fun k hk => ?_
    rcases hk.lt_or_eq with hlt | rfl
    · have hpow : (2 : Nat) ^ 9 ≤ 2 ^ k := Nat.pow_le_pow_right (by decide) hlt
      exact Nat.testBit_lt_two_pow (by omega)
    · by_contra hset
      have hand := congrArg (fun x : Nat => x.testBit 8) (not_not.mp hbit)
      simp only [Nat.testBit_and, Nat.zero_testBit] at hand
      rw [show (256 : Nat).testBit 8 = true from rfl, Bool.and_true] at hand
      exact hset hand

/-- The next power is `x` times the last. -/
theorem ofByte_nextPower (h : a < 256) : ofByte (nextPower a) = alpha * ofByte a := by
  rw [← ofByte_double h]
  unfold nextPower
  dsimp only
  split
  · rw [ofByte_xor, ofByte_modulus, add_zero]
  · rfl

theorem iterate_nextPower (n : Nat) : nextPower^[n] 1 < 256 ∧ ofByte (nextPower^[n] 1) = alpha ^ n := by
  induction n with
  | zero => exact ⟨by decide, by rw [Function.iterate_zero_apply, ofByte_one, pow_zero]⟩
  | succ n ih =>
    rw [Function.iterate_succ_apply']
    exact ⟨nextPower_lt ih.1, by rw [ofByte_nextPower ih.1, ih.2, pow_succ']⟩

/-- The powers come back after 255, and go through every byte but 0. -/
theorem powers_cycle : nextPower^[255] 1 = 1 ∧ ∀ a < 256, a ≠ 0 → a ∈ POWERS := by
  decide +kernel

theorem alpha_pow_255 : alpha ^ 255 = 1 := by
  rw [← (iterate_nextPower 255).2, powers_cycle.1, ofByte_one]

theorem alpha_pow_mod (i : Nat) : alpha ^ (i % 255) = alpha ^ i := by
  conv_rhs => rw [← Nat.mod_add_div i 255, pow_add, pow_mul, alpha_pow_255, one_pow, mul_one]

theorem EXP_spec (i : Nat) : EXP i < 256 ∧ ofByte (EXP i) = alpha ^ i := by
  have hlength : i % 255 < POWERS.length := by
    rw [POWERS, List.length_iterate]
    exact Nat.mod_lt i (by decide)
  have hget : EXP i = nextPower^[i % 255] 1 := by
    rw [EXP, List.getD_eq_getElem?_getD, List.getElem?_eq_getElem hlength]
    exact List.getElem_iterate ..
  rw [hget, (iterate_nextPower _).2, alpha_pow_mod]
  exact ⟨(iterate_nextPower _).1, rfl⟩

theorem ofByte_LOG (h : a < 256) (hne : a ≠ 0) : alpha ^ LOG a = ofByte a := by
  have hmem := powers_cycle.2 a h hne
  have hlog : LOG a < 255 := by
    have hindex := List.idxOf_lt_length_of_mem hmem
    rwa [POWERS, List.length_iterate] at hindex
  rw [← (EXP_spec (LOG a)).2, EXP, Nat.mod_eq_of_lt hlog, LOG,
    List.getD_eq_getElem?_getD, List.getElem?_eq_getElem (List.idxOf_lt_length_of_mem hmem), Option.getD_some,
    List.getElem_idxOf]

theorem gfMul_lt (a b : Nat) : gfMul a b < 256 := by
  unfold gfMul
  split
  · decide
  · exact (EXP_spec _).1

/-- **The products of the tables** are those of GF(256). -/
theorem ofByte_gfMul (ha : a < 256) (hb : b < 256) : ofByte (gfMul a b) = ofByte a * ofByte b := by
  unfold gfMul
  split
  next hzero =>
    rcases hzero with rfl | rfl
    · rw [ofByte_zero, zero_mul]
    · rw [ofByte_zero, mul_zero]
  next hne =>
    rw [not_or] at hne
    rw [(EXP_spec _).2, pow_add, ofByte_LOG ha hne.1, ofByte_LOG hb hne.2]

end Tables

/-! ## Codewords -/

/-- The polynomial of some bytes, the highest power first. -/
noncomputable def codeword (bytes : List Nat) : Gf256[X] :=
  bytes.foldl (fun p b => p * X + C (ofByte b)) 0

section Codewords

variable {bytes bytes' gen remainder data : List Nat} {byte factor n : Nat}

theorem foldl_codeword (bytes : List Nat) (p : Gf256[X]) :
    bytes.foldl (fun p b => p * X + C (ofByte b)) p = p * X ^ bytes.length + codeword bytes := by
  induction bytes generalizing p with
  | nil => simp [codeword]
  | cons b bytes ih =>
    rw [codeword, List.foldl_cons, List.foldl_cons, ih, ih, List.length_cons]
    ring

theorem codeword_append (bytes bytes' : List Nat) :
    codeword (bytes ++ bytes') = codeword bytes * X ^ bytes'.length + codeword bytes' := by
  rw [codeword, List.foldl_append, foldl_codeword]
  rfl

theorem codeword_cons (b : Nat) (bytes : List Nat) :
    codeword (b :: bytes) = C (ofByte b) * X ^ bytes.length + codeword bytes := by
  rw [codeword, List.foldl_cons, foldl_codeword]
  simp

theorem codeword_singleton (b : Nat) : codeword [b] = C (ofByte b) := by
  simp [codeword]

@[simp] theorem codeword_zero_cons (bytes : List Nat) : codeword (0 :: bytes) = codeword bytes := by
  rw [codeword_cons, ofByte_zero, C_0, zero_mul, zero_add]

@[simp] theorem codeword_append_zero (bytes : List Nat) : codeword (bytes ++ [0]) = codeword bytes * X := by
  rw [codeword_append, codeword_singleton, ofByte_zero, C_0, add_zero, List.length_singleton, pow_one]

theorem codeword_replicate_zero (n : Nat) : codeword (List.replicate n 0) = 0 := by
  induction n with
  | zero => rfl
  | succ n ih => rw [List.replicate_succ, codeword_zero_cons, ih]

/-- Bytes are added one by one. -/
theorem codeword_zipWith_xor (h : bytes.length = bytes'.length) :
    codeword (List.zipWith (· ^^^ ·) bytes bytes') = codeword bytes + codeword bytes' := by
  induction bytes generalizing bytes' with
  | nil =>
    obtain rfl := List.length_eq_zero_iff.mp h.symm
    exact (add_zero _).symm
  | cons b bytes ih =>
    cases bytes' with
    | nil => cases h
    | cons b' bytes' =>
      have hlength : bytes.length = bytes'.length := Nat.succ.inj h
      have hzip : (List.zipWith (· ^^^ ·) bytes bytes').length = bytes'.length := by
        rw [List.length_zipWith, hlength, Nat.min_self]
      rw [List.zipWith_cons_cons, codeword_cons, codeword_cons, codeword_cons, ih hlength, hzip, hlength, ofByte_xor, C_add]
      ring

/-- Bytes are multiplied by a byte. -/
theorem codeword_map_gfMul (hbytes : ∀ b ∈ bytes, b < 256) (hfactor : factor < 256) :
    codeword (bytes.map (gfMul · factor)) = C (ofByte factor) * codeword bytes := by
  induction bytes with
  | nil => simp [codeword]
  | cons b bytes ih =>
    rw [List.map_cons, codeword_cons, codeword_cons, List.length_map, ih fun b hb => hbytes b (List.mem_cons_of_mem _ hb),
      ofByte_gfMul (hbytes b List.mem_cons_self) hfactor, C_mul]
    ring

theorem forall_lt_zipWith_xor (hbytes : ∀ b ∈ bytes, b < 256) (hbytes' : ∀ b ∈ bytes', b < 256) :
    ∀ b ∈ List.zipWith (· ^^^ ·) bytes bytes', b < 256 := by
  intro b hb
  obtain ⟨i, hi, rfl⟩ := List.mem_iff_getElem.mp hb
  rw [List.getElem_zipWith]
  exact Nat.xor_lt_two_pow (n := 8) (hbytes _ (List.getElem_mem _)) (hbytes' _ (List.getElem_mem _))

/-! ## The generator -/

/-- One factor of the generator. -/
def timesRoot (poly : List Nat) (i : Nat) : List Nat :=
  List.zipWith (· ^^^ ·) (poly.map (gfMul · 1) ++ [0]) (0 :: poly.map (gfMul · (EXP i)))

theorem generatorPoly_succ (n : Nat) : generatorPoly (n + 1) = timesRoot (generatorPoly n) n := by
  rw [generatorPoly, List.range_succ, List.foldl_append]
  rfl

theorem codeword_timesRoot (hbytes : ∀ b ∈ bytes, b < 256) (i : Nat) :
    codeword (timesRoot bytes i) = codeword bytes * (X - C (alpha ^ i)) := by
  have hlength : (bytes.map (gfMul · 1) ++ [0]).length = (0 :: bytes.map (gfMul · (EXP i))).length := by simp
  rw [timesRoot, codeword_zipWith_xor hlength, codeword_append_zero, codeword_zero_cons,
    codeword_map_gfMul hbytes (by decide), codeword_map_gfMul hbytes (EXP_spec i).1, (EXP_spec i).2, ofByte_one, C_1,
    CharTwo.sub_eq_add]
  ring

/-- The generator is monic, of its degree. -/
theorem generatorPoly_spec (n : Nat) :
    ∃ low, generatorPoly n = 1 :: low ∧ low.length = n ∧ (∀ b ∈ low, b < 256) ∧
      codeword (generatorPoly n) = ∏ i ∈ Finset.range n, (X - C (alpha ^ i)) := by
  induction n with
  | zero => exact ⟨[], rfl, rfl, fun b hb => absurd hb List.not_mem_nil, by simp [generatorPoly, codeword, ofByte_one]⟩
  | succ n ih =>
    obtain ⟨low, hgen, hlength, hlow, hvalue⟩ := ih
    have hbytes : ∀ b ∈ generatorPoly n, b < 256 := by
      rw [hgen]
      exact List.forall_mem_cons.mpr ⟨by decide, hlow⟩
    have hone : gfMul 1 1 ^^^ 0 = 1 := by decide
    refine ⟨List.zipWith (· ^^^ ·) (low.map (gfMul · 1) ++ [0]) ((generatorPoly n).map (gfMul · (EXP n))), ?_, ?_, ?_, ?_⟩
    · rw [generatorPoly_succ, timesRoot, hgen, List.map_cons, List.cons_append, List.zipWith_cons_cons, hone]
    · simp [hgen, hlength]
    · refine forall_lt_zipWith_xor (fun b hb => ?_) fun b hb => ?_
      · rcases List.mem_append.mp hb with hb | hb
        · obtain ⟨c, -, rfl⟩ := List.mem_map.mp hb
          exact gfMul_lt c 1
        · rw [List.mem_singleton.mp hb]
          decide
      · obtain ⟨c, -, rfl⟩ := List.mem_map.mp hb
        exact gfMul_lt c _
    · rw [generatorPoly_succ, codeword_timesRoot hbytes, hvalue, Finset.prod_range_succ]

/-! ## The shift register -/

/-- A step adds a multiple of the generator's low part to the shifted remainder. -/
theorem reedSolomonStep_eq (byte first : Nat) {low rest : List Nat} (hlength : low.length = rest.length + 1) :
    reedSolomonStep (1 :: low) (first :: rest) byte =
      if byte ^^^ first ≠ 0 then List.zipWith (· ^^^ ·) (rest ++ [0]) (low.map (gfMul · (byte ^^^ first)))
      else rest ++ [0] := by
  unfold reedSolomonStep
  dsimp only [List.headD_cons, List.tail_cons]
  split
  · refine List.ext_getElem (by simp [hlength]) fun i hi hi' => ?_
    have hlow : i < low.length := by
      rw [List.length_mapIdx, List.length_append, List.length_singleton] at hi
      omega
    rw [List.getElem_mapIdx, List.getElem_zipWith, List.getElem_map, List.getD_cons_succ, List.getD_eq_getElem?_getD,
      List.getElem?_eq_getElem hlow, Option.getD_some]
  · rfl

/-- What the shift register keeps: with the remainder at its end, the data that it has read is a multiple of the
generator. -/
structure Divided (n : Nat) (data remainder : List Nat) : Prop where
  length_eq : remainder.length = n
  bytes : ∀ b ∈ remainder, b < 256
  dvd : codeword (generatorPoly n) ∣ codeword (data ++ remainder)

theorem Divided.step (hpos : 0 < n) (h : Divided n data remainder) (hbyte : byte < 256) :
    Divided n (data ++ [byte]) (reedSolomonStep (generatorPoly n) remainder byte) := by
  obtain ⟨low, hgen, hlow, hlowBytes, -⟩ := generatorPoly_spec n
  obtain ⟨hlength, hbytes, hdvd⟩ := h
  cases remainder with
  | nil => exact absurd hlength hpos.ne
  | cons first rest =>
    rw [List.length_cons] at hlength
    have hfirst := hbytes first List.mem_cons_self
    have hrest : ∀ b ∈ rest ++ [0], b < 256 := by
      intro b hb
      rcases List.mem_append.mp hb with hb | hb
      · exact hbytes b (List.mem_cons_of_mem _ hb)
      · rw [List.mem_singleton.mp hb]
        decide
    have hfactor : byte ^^^ first < 256 := Nat.xor_lt_two_pow (n := 8) hbyte hfirst
    have hlengths : (rest ++ [0]).length = (low.map (gfMul · (byte ^^^ first))).length := by simp [hlow, hlength]
    have hstep := reedSolomonStep_eq byte first (hlow.trans hlength.symm)
    rw [← hgen] at hstep
    -- the new remainder, also when the factor is zero and nothing is added
    have hvalue : codeword (reedSolomonStep (generatorPoly n) (first :: rest) byte) =
        codeword (rest ++ [0]) + C (ofByte (byte ^^^ first)) * codeword low := by
      rw [hstep]
      split
      · rw [codeword_zipWith_xor hlengths, codeword_map_gfMul hlowBytes hfactor]
      next hzero => rw [not_not.mp hzero, ofByte_zero, C_0, zero_mul, add_zero]
    have hsize : (reedSolomonStep (generatorPoly n) (first :: rest) byte).length = n := by
      rw [hstep]
      split <;> simp [hlow, hlength]
    refine ⟨hsize, ?_, ?_⟩
    · rw [hstep]
      split
      · refine forall_lt_zipWith_xor hrest fun b hb => ?_
        obtain ⟨c, -, rfl⟩ := List.mem_map.mp hb
        exact gfMul_lt c _
      · exact hrest
    · have hsplit : codeword (data ++ [byte] ++ reedSolomonStep (generatorPoly n) (first :: rest) byte) =
          codeword (data ++ first :: rest) * X + C (ofByte (byte ^^^ first)) * codeword (generatorPoly n) := by
        have htwo : (2 : Gf256[X]) = 0 := CharTwo.two_eq_zero
        rw [codeword_append, hsize, codeword_append, hvalue, codeword_append data, hgen, codeword_singleton, codeword_cons,
          codeword_cons, codeword_append_zero, hlow, List.length_singleton, List.length_cons, ofByte_xor,
          ofByte_one, C_add, C_1, ← hlength]
        linear_combination -(C (ofByte first) * X ^ (rest.length + 1)) * htwo
      rw [hsplit]
      exact dvd_add (hdvd.mul_right X) (Dvd.intro_left _ rfl)

theorem divided_reedSolomon (hpos : 0 < n) (hdata : ∀ b ∈ data, b < 256) : Divided n data (reedSolomon data n) := by
  induction data using List.reverseRecOn with
  | nil =>
    refine ⟨List.length_replicate, fun b hb => ?_, ?_⟩
    · rw [List.eq_of_mem_replicate hb]
      decide
    · show _ ∣ codeword (List.replicate n 0)
      rw [codeword_replicate_zero]
      exact dvd_zero _
  | append_singleton data byte ih =>
    have hstep := (ih fun b hb => hdata b (List.mem_append_left _ hb)).step hpos
      (hdata byte (List.mem_append_right _ List.mem_cons_self))
    rwa [reedSolomon, List.foldl_append]

end Codewords

/-- **A block with its correction** is a codeword: bytes of which the generator, whose roots are the powers of `x` up to
its degree, is a divisor, so that they are zero at each of the roots. -/
theorem reedSolomon_codeword {data : List Nat} {ecLength : Nat} (hdata : ∀ b ∈ data, b < 256) (hpos : 0 < ecLength) :
    (reedSolomon data ecLength).length = ecLength ∧ (∀ b ∈ reedSolomon data ecLength, b < 256) ∧
      codeword (generatorPoly ecLength) = ∏ i ∈ Finset.range ecLength, (X - C (alpha ^ i)) ∧
      codeword (generatorPoly ecLength) ∣ codeword (data ++ reedSolomon data ecLength) ∧
      ∀ i < ecLength, (codeword (data ++ reedSolomon data ecLength)).eval (alpha ^ i) = 0 := by
  obtain ⟨hlength, hbytes, hdvd⟩ := divided_reedSolomon hpos hdata
  obtain ⟨-, -, -, -, hgen⟩ := generatorPoly_spec ecLength
  refine ⟨hlength, hbytes, hgen, hdvd, fun i hi => ?_⟩
  have hroot : X - C (alpha ^ i) ∣ codeword (data ++ reedSolomon data ecLength) :=
    ((hgen ▸ Finset.dvd_prod_of_mem _ (Finset.mem_range.mpr hi) :
      X - C (alpha ^ i) ∣ codeword (generatorPoly ecLength))).trans hdvd
  exact dvd_iff_isRoot.mp hroot

theorem reedSolomon_codeword_diez :
    codeword (generatorPoly (ECC_M 1).ecPerBlock) ∣
      codeword ([64, 20, 16] ++ reedSolomon [64, 20, 16] (ECC_M 1).ecPerBlock) :=
  (@reedSolomon_codeword [64, 20, 16] (ECC_M 1).ecPerBlock (by decide) (by decide)).2.2.2.1

end AtlasErp.Qr
