import AtlasErp.Qr.Reader

/-! # The placement of the data

- `mem_visited`: the zigzag goes through every column but that of the timing pattern;
- `counted`: how many modules are left for data, in each version;
- `Placed`: what it is to place a sequence of codewords;
- `applyMask_applyMask`: a mask undoes itself;
- `placeData_bijection`: **the data is placed**, bit by bit, in all the modules that are not reserved. -/

namespace AtlasErp.Qr

open Lib

/-! ## Codewords -/

/-- The codewords of a version, with their corrections. -/
def totalCodewords (version : Nat) : Nat :=
  totalData version + (ECC_M version).ecPerBlock * ((ECC_M version).g1 + (ECC_M version).g2)

theorem length_interleaveBlocks {codewords : List Nat} {version : Nat} (h : codewords.length = totalData version) :
    (interleaveBlocks codewords version).length = totalCodewords version := by
  obtain ⟨hlengths, -⟩ := splitBlocks_spec (h.trans (sum_blockLengths version).symm)
  have hblocks : (splitBlocks (blockLengths version) codewords).length = (ECC_M version).g1 + (ECC_M version).g2 := by
    rw [← List.length_map (f := List.length), hlengths, blockLengths, List.length_append, List.length_replicate,
      List.length_replicate]
  have hshort : ∀ b ∈ splitBlocks (blockLengths version) codewords,
      b.length ≤ ((splitBlocks (blockLengths version) codewords).map List.length).foldl max 0 := fun b hb =>
    le_foldl_max (.inl (List.mem_map_of_mem hb))
  rw [interleaveBlocks, List.length_append, length_interleave hshort, hlengths, sum_blockLengths, List.length_flatMap]
  simp [hblocks, totalCodewords]

/-! ## Counting -/

/-- How many of the lowest bits of a number are set. -/
def bitCount : Nat → Nat → Nat
  | 0, _ => 0
  | k + 1, n => n % 2 + bitCount k (n / 2)

theorem bitCount_eq (k n : Nat) : bitCount k n = (List.range k).countP (n.testBit ·) := by
  induction k generalizing n with
  | zero => rfl
  | succ k ih =>
    have hfirst : (if n.testBit 0 = true then 1 else 0) = n % 2 := by
      rw [Nat.testBit_zero]
      rcases Nat.mod_two_eq_zero_or_one n with h | h <;> simp [h]
    rw [bitCount, ih, List.range_succ_eq_map, List.countP_cons, List.countP_map, hfirst, Nat.add_comm]
    simp only [Function.comp_def, Nat.succ_eq_add_one, Nat.testBit_succ]

/-- How many modules are set, row by row. -/
def setCount (size bits : Nat) : Nat := ((List.range size).map fun row => bitCount size (bits >>> (row * size))).sum

theorem countP_cells (size bits : Nat) :
    (cells size).countP (fun cell => bits.testBit (cell.1 * size + cell.2)) = setCount size bits := by
  rw [cells, List.countP_flatMap, setCount]
  congr 1
  refine List.map_congr_left fun row _ => ?_
  rw [bitCount_eq, Function.comp_apply, List.countP_map]
  simp only [Function.comp_def, Nat.testBit_shiftRight]

/-- The modules that are left for data. -/
def freeCount (version : Nat) : Nat :=
  sizeOf version * sizeOf version - setCount (sizeOf version) (regionBits (sizeOf version) (functionRegions version))

/-- **The data of a version** fills what is left but for at most seven modules, in all the columns but that of the
timing pattern. -/
theorem counted : ∀ version ∈ versions,
    8 * totalCodewords version ≤ freeCount version ∧ freeCount version ≤ 8 * totalCodewords version + 7 ∧
    ∀ col < sizeOf version, col ≠ 6 → col ∈ (zigzagColumns (sizeOf version)).flatMap fun col => [col, col - 1] := by
  decide +kernel

section Zigzag

variable {size version : Nat} {columns : List Nat} {cell : Nat × Nat}

/-- The zigzag goes through all the modules of its columns. -/
theorem mem_visited :
    cell ∈ visited size columns ↔ cell.1 < size ∧ cell.2 ∈ columns.flatMap fun col => [col, col - 1] := by
  rw [visited, List.mem_flatMap]
  constructor
  · rintro ⟨pair, hpair, hcell⟩
    obtain ⟨step, hstep, hcell⟩ := List.mem_flatMap.mp hcell
    have hcol := List.fst_mem_of_mem_zipIdx hpair
    rw [List.mem_range] at hstep
    have hrow : (if pair.2 % 2 = 0 then size - 1 - step else step) < size := by
      split <;> omega
    rcases List.mem_pair.mp hcell with rfl | rfl
    · exact ⟨hrow, List.mem_flatMap.mpr ⟨_, hcol, List.mem_cons_self⟩⟩
    · exact ⟨hrow, List.mem_flatMap.mpr ⟨_, hcol, List.mem_cons_of_mem _ List.mem_cons_self⟩⟩
  · rintro ⟨hrow, hcol⟩
    obtain ⟨col, hmem, hcol⟩ := List.mem_flatMap.mp hcol
    obtain ⟨k, hk, rfl⟩ := List.mem_iff_getElem.mp hmem
    refine ⟨(columns[k], k), List.mk_mem_zipIdx_iff_getElem?.mpr (List.getElem?_eq_getElem hk), ?_⟩
    -- the step that comes to the row, upwards or downwards
    refine List.mem_flatMap.mpr ⟨if k % 2 = 0 then size - 1 - cell.1 else cell.1, List.mem_range.mpr ?_, ?_⟩
    · split <;> omega
    · have hstep : (if k % 2 = 0 then size - 1 - (if k % 2 = 0 then size - 1 - cell.1 else cell.1)
          else if k % 2 = 0 then size - 1 - cell.1 else cell.1) = cell.1 := by
        split <;> omega
      dsimp only
      rw [hstep]
      rcases List.mem_pair.mp hcol with h | h
      · exact List.mem_cons.mpr (.inl (Prod.ext rfl h))
      · exact List.mem_cons_of_mem _ (List.mem_singleton.mpr (Prod.ext rfl h))

/-- The modules for data are those of the symbol that are not reserved. -/
theorem mem_dataModules (h : version ∈ versions) :
    cell ∈ dataModules version ↔
      (cell.1 < sizeOf version ∧ cell.2 < sizeOf version) ∧ isFunction version cell.1 cell.2 = false := by
  have hcolumns := zigzagColumns_lt version h
  rw [dataModules, List.mem_filter, zigzag, mem_visited, Bool.not_eq_true']
  constructor
  · rintro ⟨⟨hrow, hcol⟩, hfree⟩
    obtain ⟨col, hmem, hcol⟩ := List.mem_flatMap.mp hcol
    have hlt := hcolumns col hmem
    refine ⟨⟨hrow, ?_⟩, hfree⟩
    rcases List.mem_pair.mp hcol with heq | heq <;> omega
  · rintro ⟨⟨hrow, hcol⟩, hfree⟩
    refine ⟨⟨hrow, (counted version h).2.2 cell.2 hcol fun hsix => ?_⟩, hfree⟩
    -- the column of the timing pattern is one of the regions
    have htiming : (⟨0, 6, sizeOf version, 1⟩ : Region) ∈ functionRegions version :=
      List.mem_append_left _ (List.mem_append_left _ (List.mem_of_getElem? (show _[4]? = _ from rfl)))
    have hfunction : isFunction version cell.1 cell.2 = true := by
      refine List.any_eq_true.mpr ⟨_, htiming, ?_⟩
      simp [Region.contains, hsix, hrow]
    rw [hfunction] at hfree
    cases hfree

theorem nodup_dataModules (h : version ∈ versions) : (dataModules version).Nodup :=
  (nodup_visited (zigzagColumns_apart version h)).filter _

theorem nodup_cells (size : Nat) : (cells size).Nodup := by
  refine List.nodup_flatMap.mpr ⟨fun row _ => List.nodup_range.map fun a b hab => (Prod.mk.inj hab).2, ?_⟩
  refine List.nodup_range.imp fun {a b} hab cell hcell hcell' => hab ?_
  obtain ⟨_, -, rfl⟩ := List.mem_map.mp hcell
  obtain ⟨_, -, heq⟩ := List.mem_map.mp hcell'
  exact (Prod.mk.inj heq).1.symm

theorem length_cells (size : Nat) : (cells size).length = size * size := by
  simp [cells, List.length_flatMap]

theorem length_dataModules (h : version ∈ versions) : (dataModules version).length = freeCount version := by
  have hperm : (dataModules version).Perm ((cells (sizeOf version)).filter fun cell =>
      !(regionBits (sizeOf version) (functionRegions version)).testBit (cell.1 * sizeOf version + cell.2)) := by
    refine (List.perm_ext_iff_of_nodup (nodup_dataModules h) ((nodup_cells _).filter _)).mpr fun cell => ?_
    rw [mem_dataModules h, List.mem_filter, show cell = (cell.1, cell.2) from rfl, mem_cells, Bool.not_eq_true']
    exact and_congr_right fun hin => by
      rw [testBit_regionBits hin.2 (functionRegions_fit version h)]
      rfl
  have hsplit := List.length_eq_countP_add_countP (fun cell : Nat × Nat =>
    (regionBits (sizeOf version) (functionRegions version)).testBit (cell.1 * sizeOf version + cell.2))
    (l := cells (sizeOf version))
  rw [length_cells, countP_cells] at hsplit
  rw [hperm.length_eq, ← List.countP_eq_length_filter, freeCount]
  simp only [decide_not, Bool.decide_eq_true] at hsplit
  omega

end Zigzag

/-! ## Placing -/

/-- A sequence of codewords is placed in some order: each module that is not reserved is written once, and nothing else;
they show the bits of the sequence, one by one, and there are at most seven modules more. -/
structure Placed (m : Matrix) (data : List Nat) (order : List (Nat × Nat)) (m' : Matrix) : Prop where
  nodup : order.Nodup
  mem_iff : ∀ cell, cell ∈ order ↔ (cell.1 < m.size ∧ cell.2 < m.size) ∧ m.isReserved cell.1 cell.2 = false
  writes : m' = { m with modules := m.modules.setAll (order.zipIdx.map fun p =>
    (p.1.1 * m.size + p.1.2, dataBit data p.2)) }
  bits : (order.map fun cell => m'.get cell.1 cell.2).take (8 * data.length) = unpack data
  enough : 8 * data.length ≤ order.length
  remainder : order.length ≤ 8 * data.length + 7

theorem placeData_placed {version : Nat} (h : version ∈ versions) {data : List Nat}
    (hdata : data.length = totalCodewords version) :
    Placed (patterns version) data (dataModules version) (placeData (patterns version) data) := by
  have hsize := size_patterns version h
  have hfree : ((visited (sizeOf version) (zigzagColumns (sizeOf version))).filter
      fun cell => !(patterns version).isReserved cell.1 cell.2) = dataModules version := by
    refine List.filter_congr fun cell hcell => ?_
    obtain ⟨-, hcol⟩ := mem_visited.mp hcell
    obtain ⟨col, hmem, hcol⟩ := List.mem_flatMap.mp hcol
    have hlt := zigzagColumns_lt version h col hmem
    have hcell : cell.2 < sizeOf version := by rcases List.mem_pair.mp hcol with heq | heq <;> omega
    rw [isReserved_patterns h hcell]
  have hlength := length_dataModules h
  obtain ⟨hlow, hhigh, -⟩ := counted version h
  refine ⟨nodup_dataModules h, fun cell => ?_, ?_, ?_, by omega, by omega⟩
  · rw [mem_dataModules h, hsize]
    exact and_congr_right fun hin => by rw [isReserved_patterns h hin.2]
  · rw [placeData, foldl_placeModule, hsize, columnPairs_sizeOf version h, dataWrites, hfree]
    rw [hsize]
  · have hplaced := @map_get_placeData (patterns version) data _
      (by rw [hsize]; exact columnPairs_sizeOf version h) (zigzagColumns_apart version h)
      (by rw [hsize]; exact zigzagColumns_lt version h)
    rw [hsize, hfree] at hplaced
    rw [hplaced, ← List.map_take, List.take_range, Nat.min_eq_left (by omega), map_dataBit]

/-! ## Masks -/

theorem ext_get {b b' : Bitmap} (h : ∀ i, b.get i = b'.get i) : b = b' := by
  cases b
  cases b'
  exact congrArg Bitmap.mk (Nat.eq_of_testBit_eq h)

/-- A mask turns no module that is reserved, and nothing outside. -/
theorem get_applyMask_of_forall {m : Matrix} {mask i : Nat} (h : ∀ row col, row < m.size → col < m.size →
    i = row * m.size + col → m.isReserved row col = true) :
    (applyMask m mask).modules.get i = m.modules.get i := by
  refine Bitmap.get_setAll_of_not_mem fun w hw hplace => ?_
  obtain ⟨cell, hcell, hw⟩ := List.mem_filterMap.mp hw
  obtain ⟨hrow, hcol⟩ := mem_cells.mp hcell
  split at hw
  · cases hw
  next hfree =>
    split at hw
    · obtain rfl := Option.some.inj hw
      exact hfree (h cell.1 cell.2 hrow hcol hplace.symm)
    · cases hw

/-- **A mask** undoes itself. -/
theorem applyMask_applyMask (m : Matrix) (mask : Nat) : applyMask (applyMask m mask) mask = m := by
  have hmodules : (applyMask (applyMask m mask) mask).modules = m.modules := by
    refine ext_get fun i => ?_
    by_cases hin : ∀ row col, row < m.size → col < m.size → i = row * m.size + col → m.isReserved row col = true
    · rw [get_applyMask_of_forall (m := applyMask m mask) hin, get_applyMask_of_forall hin]
    · push Not at hin
      obtain ⟨row, col, hrow, hcol, rfl, hfree⟩ := hin
      have hfree := eq_false_of_ne_true hfree
      have htwice := @get_applyMask (applyMask m mask) mask row col hrow hcol hfree
      rw [get_applyMask hrow hcol hfree, Bool.xor_assoc, Bool.xor_self, Bool.xor_false] at htwice
      exact htwice
  exact congrArg (fun modules => { m with modules := modules }) hmodules

/-- **The placement is a bijection**, in every version: the zigzag goes once through the modules that are not reserved
and puts in them the bits of any sequence of the version, one after the other, with at most seven modules to spare; and
masking twice changes nothing. -/
theorem placeData_bijection :
    (∀ version, 1 ≤ version → version ≤ 10 → ∀ data : List Nat, data.length = totalCodewords version →
      ∃ order, Placed (placeFunctionPatterns (blank version) version) data order
        (placeData (placeFunctionPatterns (blank version) version) data)) ∧
    (∀ version (codewords : List Nat), codewords.length = totalData version →
      (interleaveBlocks codewords version).length = totalCodewords version) ∧
    ∀ (m : Matrix) (mask : Nat), applyMask (applyMask m mask) mask = m := by
  refine ⟨fun version hlow hhigh data hdata => ?_, fun _ _ => length_interleaveBlocks, applyMask_applyMask⟩
  have h : version ∈ versions := by
    simp only [versions, List.mem_cons, List.not_mem_nil, or_false]
    omega
  exact ⟨_, placeData_placed h hdata⟩

theorem placeData_bijection_uno :
    ∃ order, Placed (placeFunctionPatterns (blank 1) 1) (List.replicate 26 0x5a) order
      (placeData (placeFunctionPatterns (blank 1) 1) (List.replicate 26 0x5a)) :=
  placeData_bijection.1 1 (by decide) (by decide) (List.replicate 26 0x5a) (by decide)

end AtlasErp.Qr
