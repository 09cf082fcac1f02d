import AtlasErp.Qr.Matrix
import Mathlib.Data.List.Find
import Mathlib.Order.Interval.Finset.Nat

/-! # Reading a QR code

What a reader makes of a symbol: it takes the mask from one of the copies of the format, undoes it on the
modules that are for data, reads them in zigzag, and decodes the codewords.

- `isFunction`, `zigzag`, `FormatCopy.cells`: where things are, as the standard has it;
- `isReserved_patterns`, `readMask_candidate`, `dataModules_candidate`: the code puts them there, in each version;
- `readSymbol_qrMatrix`: what is written is read. -/

namespace AtlasErp.Qr

open Lib

/-! ## The geometry of the standard -/

def versions : List Nat := [1, 2, 3, 4, 5, 6, 7, 8, 9, 10]

def sizeOf (version : Nat) : Nat := 17 + version * 4

/-- A rectangle of modules. -/
structure Region where
  top : Nat
  left : Nat
  height : Nat
  width : Nat
  deriving DecidableEq

def Region.contains (g : Region) (row col : Nat) : Bool :=
  g.top ≤ row && row < g.top + g.height && g.left ≤ col && col < g.left + g.width

/-- The alignment patterns, but for those whose centre is that of a finder. -/
def alignmentRegions (version : Nat) : List Region :=
  (ALIGNMENT version).flatMap fun a => (ALIGNMENT version).filterMap fun b =>
    if (a = 6 ∧ b = 6) ∨ (a = 6 ∧ b = sizeOf version - 7) ∨ (a = sizeOf version - 7 ∧ b = 6) then none
    else some ⟨a - 2, b - 2, 5, 5⟩

/-- The modules that are not for data: the finders with their margins and the format, the timing, the alignment
and the version. -/
def functionRegions (version : Nat) : List Region :=
  [⟨0, 0, 9, 9⟩, ⟨0, sizeOf version - 8, 9, 8⟩, ⟨sizeOf version - 8, 0, 8, 9⟩, ⟨6, 0, 1, sizeOf version⟩,
      ⟨0, 6, sizeOf version, 1⟩] ++
    alignmentRegions version ++
    if 7 ≤ version then [⟨0, sizeOf version - 11, 6, 3⟩, ⟨sizeOf version - 11, 0, 3, 6⟩] else []

def isFunction (version row col : Nat) : Bool := (functionRegions version).any (·.contains row col)

/-- Pairs of columns from the right; the column of the timing pattern is in none. -/
def zigzagColumns (size : Nat) : List Nat :=
  (List.range ((size - 1) / 2)).map fun k => if size - 1 - 2 * k ≤ 6 then size - 2 - 2 * k else size - 1 - 2 * k

def zigzag (size : Nat) : List (Nat × Nat) := visited size (zigzagColumns size)

/-- The modules for data, in order. -/
def dataModules (version : Nat) : List (Nat × Nat) :=
  (zigzag (sizeOf version)).filter fun cell => !isFunction version cell.1 cell.2

/-- A copy of the format. -/
inductive FormatCopy where
  | upperLeft
  | shared
  deriving DecidableEq

/-- Its modules, from the lowest bit on. -/
def FormatCopy.cells (size : Nat) : FormatCopy → List (Nat × Nat)
  | .upperLeft => [(0, 8), (1, 8), (2, 8), (3, 8), (4, 8), (5, 8), (7, 8), (8, 8), (8, 7), (8, 5), (8, 4), (8, 3), (8, 2),
      (8, 1), (8, 0)]
  | .shared => (List.range 8).map (fun i => (8, size - 1 - i)) ++ (List.range 7).map fun i => (size - 7 + i, 8)

/-! ## The reader -/

def isDark (rows : List (List Bool)) (row col : Nat) : Bool := (rows.getD row []).getD col false

/-- The mask whose format is in a copy. -/
def readMask (copy : FormatCopy) (rows : List (List Bool)) : Option Nat :=
  (List.range 8).find? fun mask => (copy.cells rows.length).zipIdx.all fun (cell, i) =>
    isDark rows cell.1 cell.2 = (FORMAT_M.getD mask 0).testBit i

/-- The bytes of a symbol. -/
def readSymbol (copy : FormatCopy) (rows : List (List Bool)) : Option (List Nat) := do
  let version := (rows.length - 17) / 4
  let mask ← readMask copy rows
  readCodewords version ((dataModules version).map fun cell =>
    isDark rows cell.1 cell.2 ^^ maskAt mask cell.1 cell.2)

/-! ## The code follows the standard -/

section Regions

/-- The places of a region in a symbol. -/
def Region.bits (size : Nat) (g : Region) : Nat :=
  (List.range g.height).foldl (fun bits i => bits ||| (((1 <<< g.width) - 1) <<< ((g.top + i) * size + g.left))) 0

def regionBits (size : Nat) (gs : List Region) : Nat := gs.foldl (fun bits g => bits ||| g.bits size) 0

theorem testBit_foldl_lor {α : Type*} (f : α → Nat) (xs : List α) (bits i : Nat) :
    (xs.foldl (fun bits x => bits ||| f x) bits).testBit i = (bits.testBit i || xs.any fun x => (f x).testBit i) := by
  induction xs generalizing bits with
  | nil => simp
  | cons x xs ih => rw [List.foldl_cons, ih, Nat.testBit_or, List.any_cons, Bool.or_assoc]

/-- A row of a region. -/
theorem testBit_row {size top left width row col : Nat} (hcol : col < size) (hwidth : left + width ≤ size) :
    ((((1 <<< width) - 1) <<< (top * size + left) : Nat)).testBit (row * size + col) =
      (decide (row = top) && (decide (left ≤ col) && decide (col < left + width))) := by
  rw [Nat.one_shiftLeft, Nat.testBit_shiftLeft, Nat.testBit_two_pow_sub_one]
  rcases Nat.lt_trichotomy row top with hlt | rfl | hlt
  · have hplace : row * size + col < top * size + left := place_lt hcol hlt
    simp only [Nat.not_le.mpr hplace, decide_false, Bool.false_and, Nat.ne_of_lt hlt]
  · by_cases hleft : left ≤ col
    · simp only [hleft, decide_true, Bool.true_and, Nat.add_le_add_iff_left]
      exact decide_eq_decide.mpr (by omega)
    · have hplace : ¬row * size + left ≤ row * size + col := by omega
      simp only [hleft, hplace, decide_false, Bool.false_and, Bool.and_false]
  · have hplace : top * size + left + width ≤ row * size + col := by
      have : (top + 1) * size ≤ row * size := Nat.mul_le_mul_right size hlt
      rw [Nat.add_mul, Nat.one_mul] at this
      omega
    have hbeyond : ¬row * size + col - (top * size + left) < width := by omega
    simp only [hbeyond, decide_false, Bool.and_false, Nat.ne_of_gt hlt, Bool.false_and]

/-- **The places of regions** are the modules in them. -/
theorem testBit_regionBits {size row col : Nat} (hcol : col < size) {gs : List Region}
    (h : ∀ g ∈ gs, g.left + g.width ≤ size) :
    (regionBits size gs).testBit (row * size + col) = gs.any (·.contains row col) := by
  have hregion : ∀ g ∈ gs, (g.bits size).testBit (row * size + col) = g.contains row col := by
    intro g hg
    rw [Region.bits, testBit_foldl_lor, Nat.zero_testBit, Bool.false_or]
    simp only [testBit_row hcol (h g hg)]
    rw [Bool.eq_iff_iff, List.any_eq_true]
    simp only [Region.contains, Bool.and_eq_true, decide_eq_true_eq, List.mem_range]
    constructor
    · rintro ⟨i, hi, hrow, hleft, hright⟩
      exact ⟨⟨⟨by omega, by omega⟩, hleft⟩, hright⟩
    · rintro ⟨⟨⟨htop, hbottom⟩, hleft⟩, hright⟩
      exact ⟨row - g.top, by omega, by omega, hleft, hright⟩
  rw [regionBits, testBit_foldl_lor, Nat.zero_testBit, Bool.false_or, Bool.eq_iff_iff, List.any_eq_true,
    List.any_eq_true]
  exact exists_congr fun g => and_congr_right fun hg => by rw [hregion g hg]

end Regions

section Versions

/-- The function patterns of a version. -/
def patterns (version : Nat) : Matrix := placeFunctionPatterns (blank version) version

/-- **The layout** of every version: its function patterns lie in their regions, the columns of the data are apart and
inside, and the function modules and the data are not more than there are modules. -/
theorem layout : ∀ version ∈ versions,
    (patterns version).size = sizeOf version ∧
    columnPairs (sizeOf version) (sizeOf version - 1) = zigzagColumns (sizeOf version) ∧
    (patterns version).reserved.bits = regionBits (sizeOf version) (functionRegions version) ∧
    (∀ g ∈ functionRegions version, g.left + g.width ≤ sizeOf version) ∧
    ((zigzagColumns (sizeOf version)).flatMap fun col => [col, col - 1]).Nodup ∧
    (∀ col ∈ zigzagColumns (sizeOf version), col < sizeOf version) ∧
    (formatPlaces (sizeOf version)).Nodup ∧
    8 * totalData version + ((functionRegions version).map fun g => g.height * g.width).sum ≤
      (zigzagColumns (sizeOf version)).length * (2 * sizeOf version) := by
  decide +kernel

theorem size_patterns : ∀ version ∈ versions, (patterns version).size = sizeOf version :=
  fun version h => (layout version h).1

theorem columnPairs_sizeOf :
    ∀ version ∈ versions, columnPairs (sizeOf version) (sizeOf version - 1) = zigzagColumns (sizeOf version) :=
  fun version h => (layout version h).2.1

theorem reserved_patterns :
    ∀ version ∈ versions, (patterns version).reserved.bits = regionBits (sizeOf version) (functionRegions version) :=
  fun version h => (layout version h).2.2.1

theorem functionRegions_fit :
    ∀ version ∈ versions, ∀ g ∈ functionRegions version, g.left + g.width ≤ sizeOf version :=
  fun version h => (layout version h).2.2.2.1

theorem zigzagColumns_apart :
    ∀ version ∈ versions, ((zigzagColumns (sizeOf version)).flatMap fun col => [col, col - 1]).Nodup :=
  fun version h => (layout version h).2.2.2.2.1

theorem zigzagColumns_lt : ∀ version ∈ versions, ∀ col ∈ zigzagColumns (sizeOf version), col < sizeOf version :=
  fun version h => (layout version h).2.2.2.2.2.1

theorem formatPlaces_nodup : ∀ version ∈ versions, (formatPlaces (sizeOf version)).Nodup :=
  fun version h => (layout version h).2.2.2.2.2.2.1

/-- The function modules and the data are not more than there are modules. -/
theorem area_le : ∀ version ∈ versions,
    8 * totalData version + ((functionRegions version).map fun g => g.height * g.width).sum ≤
      (zigzagColumns (sizeOf version)).length * (2 * sizeOf version) :=
  fun version h => (layout version h).2.2.2.2.2.2.2

/-- The module of a copy for a bit. -/
def FormatCopy.of (cells : (Nat × Nat) × (Nat × Nat)) : FormatCopy → Nat × Nat
  | .upperLeft => cells.1
  | .shared => cells.2

/-- **The format** of every version: where its copies are, among the function modules. -/
theorem formatCells_spec : ∀ version ∈ versions, ∀ copy ∈ [FormatCopy.upperLeft, .shared],
    copy.cells (sizeOf version) = (List.range 15).map (fun i => copy.of (formatCells (sizeOf version) i)) ∧
    ∀ cell ∈ copy.cells (sizeOf version),
      cell.1 < sizeOf version ∧ cell.2 < sizeOf version ∧ isFunction version cell.1 cell.2 := by
  decide

theorem formatCells_eq : ∀ version ∈ versions, ∀ copy ∈ [FormatCopy.upperLeft, .shared],
    copy.cells (sizeOf version) = (List.range 15).map fun i => copy.of (formatCells (sizeOf version) i) :=
  fun version h copy hcopy => (formatCells_spec version h copy hcopy).1

theorem formatCells_function : ∀ version ∈ versions, ∀ copy ∈ [FormatCopy.upperLeft, .shared],
    ∀ cell ∈ copy.cells (sizeOf version),
      cell.1 < sizeOf version ∧ cell.2 < sizeOf version ∧ isFunction version cell.1 cell.2 :=
  fun version h copy hcopy => (formatCells_spec version h copy hcopy).2

theorem size_of_rows : ∀ version ∈ versions, (sizeOf version - 17) / 4 = version := by decide

theorem masks_apart : ∀ mask < 8, ∀ mask' < 8,
    (∀ i < 15, (FORMAT_M.getD mask 0).testBit i = (FORMAT_M.getD mask' 0).testBit i) → mask' = mask := by
  decide

end Versions

section Capacity

/-- A region has no more modules than its area. -/
theorem length_filter_contains {cells : List (Nat × Nat)} (h : cells.Nodup) (g : Region) :
    (cells.filter fun cell => g.contains cell.1 cell.2).length ≤ g.height * g.width := by
  have hsub : (cells.filter fun cell => g.contains cell.1 cell.2).toFinset ⊆
      Finset.Ico g.top (g.top + g.height) ×ˢ Finset.Ico g.left (g.left + g.width) := by
    intro cell hcell
    have hin := (List.mem_filter.mp (List.mem_toFinset.mp hcell)).2
    simp only [Region.contains, Bool.and_eq_true, decide_eq_true_eq] at hin
    rw [Finset.mem_product, Finset.mem_Ico, Finset.mem_Ico]
    omega
  have hcard := Finset.card_le_card hsub
  rw [List.toFinset_card_of_nodup (h.filter _), Finset.card_product, Nat.card_Ico, Nat.card_Ico] at hcard
  simpa using hcard

/-- Nor have regions more than the sum of theirs. -/
theorem length_le_filter {cells : List (Nat × Nat)} (h : cells.Nodup) (gs : List Region) :
    cells.length ≤ (cells.filter fun cell => !gs.any (·.contains cell.1 cell.2)).length +
      (gs.map fun g => g.height * g.width).sum := by
  induction gs generalizing cells with
  | nil => simp
  | cons g gs ih =>
    have hin := length_filter_contains h g
    have hout := ih (h.filter fun cell => !g.contains cell.1 cell.2)
    have hsplit := @List.length_eq_length_filter_add _ cells fun cell => g.contains cell.1 cell.2
    have hboth : (cells.filter fun cell => !(g :: gs).any (·.contains cell.1 cell.2)) =
        (cells.filter fun cell => !g.contains cell.1 cell.2).filter
          fun cell => !gs.any (·.contains cell.1 cell.2) := by
      rw [List.filter_filter]
      refine List.filter_congr fun cell _ => ?_
      rw [List.any_cons, Bool.not_or, Bool.and_comm]
    rw [hboth, List.map_cons, List.sum_cons]
    omega

theorem length_visited (size : Nat) (columns : List Nat) (k : Nat) :
    ((columns.zipIdx k).flatMap fun pair => (List.range size).flatMap fun step =>
      let row := if pair.2 % 2 = 0 then size - 1 - step else step
      [(row, pair.1), (row, pair.1 - 1)]).length = columns.length * (2 * size) := by
  induction columns generalizing k with
  | nil => simp
  | cons col columns ih =>
    rw [List.zipIdx_cons, List.flatMap_cons, List.length_append, ih, List.length_cons]
    simp [List.length_flatMap]
    ring

/-- **The data** of a version fits its modules. -/
theorem totalData_le_dataModules {version : Nat} (h : version ∈ versions) :
    8 * totalData version ≤ (dataModules version).length := by
  have hnodup : (visited (sizeOf version) (zigzagColumns (sizeOf version))).Nodup :=
    nodup_visited (zigzagColumns_apart version h)
  have hcells := length_le_filter hnodup (functionRegions version)
  have hlength := length_visited (sizeOf version) (zigzagColumns (sizeOf version)) 0
  have harea := area_le version h
  have hmodules : (dataModules version).length = ((visited (sizeOf version) (zigzagColumns (sizeOf version))).filter
      fun cell => !(functionRegions version).any (·.contains cell.1 cell.2)).length := rfl
  have hvisited : (visited (sizeOf version) (zigzagColumns (sizeOf version))).length =
      (zigzagColumns (sizeOf version)).length * (2 * sizeOf version) := hlength
  omega

end Capacity

/-! ## Round trip -/

section RoundTrip

variable {version : Nat}

/-- The code keeps the function modules for itself, and no others. -/
theorem isReserved_patterns (h : version ∈ versions) {row col : Nat} (hcol : col < sizeOf version) :
    (patterns version).isReserved row col = isFunction version row col := by
  have hbits : (regionBits (sizeOf version) (functionRegions version)).testBit (row * sizeOf version + col) =
      (functionRegions version).any (·.contains row col) := testBit_regionBits hcol (functionRegions_fit version h)
  rw [← reserved_patterns version h, ← size_patterns version h] at hbits
  exact hbits

theorem size_placeData (m : Matrix) (data : List Nat) : (placeData m data).size = m.size := by
  rw [placeData, foldl_placeModule]

theorem reserved_placeData (m : Matrix) (data : List Nat) : (placeData m data).reserved = m.reserved := by
  rw [placeData, foldl_placeModule]

theorem isDark_rowsOf {m : Matrix} {row col : Nat} (hrow : row < m.size) (hcol : col < m.size) :
    isDark (rowsOf m) row col = m.get row col := by
  simp [isDark, rowsOf, hrow, hcol]

/-- The bits of the codewords, one by one. -/
theorem map_dataBit (data : List Nat) : (List.range (8 * data.length)).map (dataBit data) = unpack data := by
  induction data with
  | nil => rfl
  | cons b data ih =>
    have hfirst : (List.range 8).map (dataBit (b :: data)) = toBits 8 b := by
      have hin : ∀ i < 8, i < (b :: data).length * 8 := fun i hi => by rw [List.length_cons]; omega
      have hbit : ∀ i < 8, dataBit (b :: data) i = b.testBit (7 - i) := by
        intro i hi
        rw [dataBit, if_pos (hin i hi), Nat.div_eq_of_lt hi, Nat.mod_eq_of_lt hi, List.getD_cons_zero]
      rw [List.map_congr_left fun i hi => hbit i (List.mem_range.mp hi)]
      rfl
    have hrest : ∀ i, dataBit (b :: data) (8 + i) = dataBit data i := by
      intro i
      have hdiv : (8 + i) / 8 = i / 8 + 1 := by omega
      have hmod : (8 + i) % 8 = i % 8 := by omega
      rw [dataBit, dataBit, hdiv, hmod, List.getD_cons_succ]
      by_cases hi : i < data.length * 8
      · rw [if_pos hi, if_pos (by rw [List.length_cons]; omega)]
      · rw [if_neg hi, if_neg (by rw [List.length_cons]; omega)]
    rw [List.length_cons, Nat.mul_add, Nat.mul_one, Nat.add_comm, List.range_add, List.map_append, hfirst,
      List.map_map, unpack, List.flatMap_cons, ← unpack, ← ih]
    exact congrArg _ (List.map_congr_left fun i _ => hrest i)

/-- Of the bits only those of the data count. -/
theorem readCodewords_congr {bits bits' : List Bool}
    (h : bits.take (8 * totalData version) = bits'.take (8 * totalData version)) :
    readCodewords version bits = readCodewords version bits' := by
  rw [readCodewords, readCodewords, h]

/-- A function module is in the format or it is not; a data module is not. -/
theorem place_not_mem_formatPlaces (h : version ∈ versions) {row col : Nat} (hcol : col < sizeOf version)
    (hfree : isFunction version row col = false) : row * sizeOf version + col ∉ formatPlaces (sizeOf version) := by
  have hcell : ∀ copy : FormatCopy, ∀ i < 15, ∀ cell, cell = copy.of (formatCells (sizeOf version) i) →
      row * sizeOf version + col ≠ cell.1 * sizeOf version + cell.2 := by
    rintro copy i hi cell rfl hplace
    have hcopy : copy ∈ [FormatCopy.upperLeft, .shared] := by cases copy <;> decide
    obtain ⟨-, hcell, hfunction⟩ := formatCells_function version h copy hcopy (copy.of (formatCells (sizeOf version) i))
      (by rw [formatCells_eq version h copy hcopy]; exact List.mem_map_of_mem (List.mem_range.mpr hi))
    obtain ⟨hr, hc⟩ := place_inj hcol hcell hplace
    rw [← hr, ← hc, hfree] at hfunction
    cases hfunction
  intro hmem
  obtain ⟨i, hi, hmem⟩ := List.mem_flatMap.mp hmem
  rw [List.mem_range] at hi
  rcases List.mem_pair.mp hmem with hplace | hplace
  · exact hcell .upperLeft i hi _ rfl hplace
  · exact hcell .shared i hi _ rfl hplace

/-- **The mask** is read from either copy of the format. -/
theorem readMask_candidate (h : version ∈ versions) {base : Matrix} (hsize : base.size = sizeOf version) {mask : Nat}
    (hmask : mask < 8) (copy : FormatCopy) : readMask copy (rowsOf (candidate base mask)) = some mask := by
  have hcopy : copy ∈ [FormatCopy.upperLeft, .shared] := by cases copy <;> decide
  have hsize' : (candidate base mask).size = sizeOf version := hsize
  have hrows : (rowsOf (candidate base mask)).length = sizeOf version := by
    rw [rowsOf, List.length_map, List.length_range, hsize']
  -- what each module of the copy shows
  have hbit : ∀ i < 15, isDark (rowsOf (candidate base mask)) (copy.of (formatCells (sizeOf version) i)).1
      (copy.of (formatCells (sizeOf version) i)).2 = (FORMAT_M.getD mask 0).testBit i := by
    intro i hi
    obtain ⟨hrow, hcol, -⟩ := formatCells_function version h copy hcopy (copy.of (formatCells (sizeOf version) i))
      (by rw [formatCells_eq version h copy hcopy]; exact List.mem_map_of_mem (List.mem_range.mpr hi))
    rw [isDark_rowsOf (by rwa [hsize']) (by rwa [hsize'])]
    refine get_writeFormat (m := applyMask base mask) ?_ hi ?_
    · show (formatPlaces base.size).Nodup
      rw [hsize]
      exact formatPlaces_nodup version h
    · show _ ∈ [(formatCells base.size i).1, (formatCells base.size i).2]
      rw [hsize]
      cases copy
      · exact List.mem_cons_self
      · exact List.mem_cons_of_mem _ List.mem_cons_self
  -- so a copy shows the format of one mask only
  have hshown : ∀ mask' ∈ List.range 8, ((copy.cells (rowsOf (candidate base mask)).length).zipIdx.all fun (cell, i) =>
      isDark (rowsOf (candidate base mask)) cell.1 cell.2 = (FORMAT_M.getD mask' 0).testBit i) =
        decide (mask' = mask) := by
    intro mask' hmask'
    rw [hrows, formatCells_eq version h copy hcopy, Bool.eq_iff_iff, List.all_eq_true, decide_eq_true_eq]
    constructor
    · intro hall
      refine masks_apart mask hmask mask' (List.mem_range.mp hmask') fun i hi => ?_
      have hi' := hall (copy.of (formatCells (sizeOf version) i), i) (List.mk_mem_zipIdx_iff_getElem?.mpr (by
        rw [List.getElem?_map, List.getElem?_range hi]
        rfl))
      rw [← hbit i hi]
      exact of_decide_eq_true hi'
    · rintro rfl ⟨cell, i⟩ hcell
      have hget := List.mk_mem_zipIdx_iff_getElem?.mp hcell
      have hi : i < 15 := by
        have := (List.getElem?_eq_some_iff.mp hget).1
        simpa using this
      rw [List.getElem?_map, List.getElem?_range hi] at hget
      obtain rfl := Option.some.inj hget
      exact decide_eq_true (hbit i hi)
  rw [readMask, @List.find?_congr _ _ (fun mask' => decide (mask' = mask)) _ hshown]
  have hall : ∀ m < 8, (List.range 8).find? (fun mask' => decide (mask' = m)) = some m := by decide
  exact hall mask hmask

theorem size_applyMask (m : Matrix) (mask : Nat) : (applyMask m mask).size = m.size := rfl

theorem size_candidate (m : Matrix) (mask : Nat) : (candidate m mask).size = m.size := rfl

/-- **The data** is read under the mask. -/
theorem dataModules_candidate (h : version ∈ versions) (data : List Nat) (mask : Nat) :
    (dataModules version).map (fun cell =>
      isDark (rowsOf (candidate (placeData (patterns version) data) mask)) cell.1 cell.2 ^^ maskAt mask cell.1 cell.2) =
      (List.range (dataModules version).length).map (dataBit data) := by
  have hsize := size_patterns version h
  have hcells : ∀ cell ∈ visited (sizeOf version) (zigzagColumns (sizeOf version)),
      cell.1 < sizeOf version ∧ cell.2 < sizeOf version := by
    intro cell hcell
    obtain ⟨p, hp, hcell⟩ := List.mem_flatMap.mp hcell
    obtain ⟨step, hstep, hcell⟩ := List.mem_flatMap.mp hcell
    have hp := zigzagColumns_lt version h p.1 (List.fst_mem_of_mem_zipIdx hp)
    rw [List.mem_range] at hstep
    have hrow : (if p.2 % 2 = 0 then sizeOf version - 1 - step else step) < sizeOf version := by
      split <;> omega
    rcases List.mem_pair.mp hcell with rfl | rfl
    · exact ⟨hrow, hp⟩
    · exact ⟨hrow, lt_of_le_of_lt (Nat.sub_le _ _) hp⟩
  have hfree : ((visited (sizeOf version) (zigzagColumns (sizeOf version))).filter
      fun cell => !(patterns version).isReserved cell.1 cell.2) = dataModules version :=
    List.filter_congr fun cell hcell => by rw [isReserved_patterns h (hcells cell hcell).2]
  have hplaced := @map_get_placeData (patterns version) data _
    (by rw [hsize]; exact columnPairs_sizeOf version h) (zigzagColumns_apart version h)
    (by rw [hsize]; exact zigzagColumns_lt version h)
  rw [hsize, hfree] at hplaced
  rw [← hplaced]
  refine List.map_congr_left fun cell hcell => ?_
  obtain ⟨hin, hfunction⟩ := List.mem_filter.mp hcell
  obtain ⟨hrow, hcol⟩ := hcells cell hin
  rw [Bool.not_eq_true'] at hfunction
  have hsize' : (placeData (patterns version) data).size = sizeOf version := (size_placeData _ _).trans hsize
  have hmasked : (applyMask (placeData (patterns version) data) mask).size = sizeOf version :=
    (size_applyMask _ _).trans hsize'
  have hcandidate : (candidate (placeData (patterns version) data) mask).size = sizeOf version :=
    (size_candidate _ _).trans hsize'
  rw [isDark_rowsOf (hcandidate ▸ hrow) (hcandidate ▸ hcol), candidate, get_writeFormat_of_not_mem, get_applyMask,
    Bool.xor_assoc, Bool.xor_self, Bool.xor_false]
  · rwa [hsize']
  · rwa [hsize']
  · rw [Matrix.isReserved, size_placeData, reserved_placeData, ← Matrix.isReserved, isReserved_patterns h hcol,
      hfunction]
  · rw [hmasked]
    exact place_not_mem_formatPlaces h hcol hfunction

theorem utf8_lt {content : List Char} : ∀ b ∈ utf8 content, b < 256 := by
  intro b hb
  obtain ⟨c, -, hb⟩ := List.mem_flatMap.mp hb
  obtain ⟨byte, -, rfl⟩ := List.mem_map.mp hb
  exact byte.toNat_lt

/-- **Round trip**: the matrix of a content of up to 213 bytes is read as these bytes, whatever copy of the format is
looked at; of a longer content there is no matrix. -/
theorem readSymbol_qrMatrix (content : List Char) :
    ((utf8 content).length ≤ 213 → ∃ matrix, qrMatrix content = .ok matrix ∧
      ∀ copy, readSymbol copy matrix = some (utf8 content)) ∧
    (213 < (utf8 content).length → qrMatrix content = .error "QR_CONTENT_TOO_LONG") := by
  constructor
  · intro hlength
    obtain ⟨version, hpick⟩ := pickVersion_of_le hlength
    obtain ⟨hversion, hfits⟩ := pickVersion_eq_ok hpick
    obtain ⟨data, hdata⟩ : ∃ data, data = interleaveBlocks (encodeData (utf8 content) version) version := ⟨_, rfl⟩
    obtain ⟨score, mask, hmask, hbest⟩ := bestMask_eq_some (placeData (patterns version) data)
    have hsize : (placeData (patterns version) data).size = sizeOf version :=
      (size_placeData _ _).trans (size_patterns version hversion)
    refine ⟨rowsOf (candidate (placeData (patterns version) data) mask), ?_, fun copy => ?_⟩
    · unfold qrMatrix
      dsimp only
      rw [hpick]
      show Except.ok (rowsOf _) = _
      rw [← hdata, ← patterns, hbest]
      rfl
    · have hrows : (rowsOf (candidate (placeData (patterns version) data) mask)).length = sizeOf version := by
        rw [rowsOf, List.length_map, List.length_range, size_candidate]
        exact hsize
      have hread : readCodewords version ((List.range (dataModules version).length).map (dataBit data)) =
          some (utf8 content) := by
        have hcodewords := readCodewords_encode utf8_lt (length_lt_of_fits hversion hfits) hfits []
        rw [List.append_nil, ← hdata, ← map_dataBit] at hcodewords
        rw [← hcodewords]
        refine readCodewords_congr ?_
        obtain ⟨hlen, hbytes, -⟩ := encodeData_spec hfits
        obtain ⟨first, corrections, hinterleave, hfirst, -⟩ := readBlocks_interleaveBlocks hlen hbytes
        have hmodules := totalData_le_dataModules hversion
        have hall : totalData version ≤ data.length := by
          rw [hdata, hinterleave, List.length_append, hfirst]
          exact Nat.le_add_right _ _
        rw [← List.map_take, ← List.map_take, List.take_range, List.take_range, Nat.min_eq_left hmodules,
          Nat.min_eq_left (Nat.mul_le_mul_left 8 hall)]
      unfold readSymbol
      rw [hrows, size_of_rows version hversion, readMask_candidate hversion hsize hmask, ← hread,
        ← dataModules_candidate hversion data mask]
      rfl
  · intro hlength
    unfold qrMatrix
    dsimp only
    rw [pickVersion_of_gt hlength]
    rfl

theorem readSymbol_qrMatrix_example :
    (∃ matrix, qrMatrix ['Ñ', '7'] = .ok matrix ∧ ∀ copy, readSymbol copy matrix = some [0xc3, 0x91, 0x37]) ∧
      qrMatrix (List.replicate 214 'a') = .error "QR_CONTENT_TOO_LONG" :=
  ⟨(readSymbol_qrMatrix ['Ñ', '7']).1 (by decide +kernel),
    (readSymbol_qrMatrix (List.replicate 214 'a')).2 (by decide +kernel)⟩

end RoundTrip

end AtlasErp.Qr
