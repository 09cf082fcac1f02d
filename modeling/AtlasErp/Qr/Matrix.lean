import AtlasErp.Qr.Codewords

/-! # The matrix of a QR code

Function patterns, data in zigzag, masks, format and penalty.

- `placeFunctionPatterns`, `placeData`, `applyMask`, `writeFormat`: the steps;
- `qrMatrix`: the matrix of a content;
- `get_placeData`, `get_applyMask`, `get_writeFormat`: what the steps write, module by module;
- `bestMask_eq_some`: the matrix is that of one of the masks. -/

namespace AtlasErp.Qr

open Lib

/-! ## Modules -/

/-- The modules of a symbol and which of them are not for data, row by row. -/
structure Matrix where
  size : Nat
  modules : Bitmap
  reserved : Bitmap
  deriving DecidableEq

namespace Matrix

variable (m : Matrix)

def get (row col : Nat) : Bool := m.modules.get (row * m.size + col)

def set (row col : Nat) (value : Bool) : Matrix :=
  { m with modules := m.modules.set (row * m.size + col) value, reserved := m.reserved.set (row * m.size + col) true }

def isReserved (row col : Nat) : Bool := m.reserved.get (row * m.size + col)

end Matrix

/-! ## Function patterns -/

def ALIGNMENT : Nat → List Nat
  | 2 => [6, 18]
  | 3 => [6, 22]
  | 4 => [6, 26]
  | 5 => [6, 30]
  | 6 => [6, 34]
  | 7 => [6, 22, 38]
  | 8 => [6, 24, 42]
  | 9 => [6, 26, 46]
  | 10 => [6, 28, 50]
  | _ => []

def VERSION_INFO : Nat → Nat
  | 7 => 0x07c94
  | 8 => 0x085bc
  | 9 => 0x09a99
  | 10 => 0x0a4d3
  | _ => 0

/-- A module of a finder pattern, or of the margin around it, when it is in the matrix. -/
def finderModule (top left : Int) (m : Matrix) (r c : Int) : Matrix :=
  let row := top + r
  let col := left + c
  if row < 0 ∨ col < 0 ∨ (m.size : Int) ≤ row ∨ (m.size : Int) ≤ col then m
  else
    let inRing := 0 ≤ r ∧ r ≤ 6 ∧ 0 ≤ c ∧ c ≤ 6
    let dark := inRing ∧ (r = 0 ∨ r = 6 ∨ c = 0 ∨ c = 6 ∨ (2 ≤ r ∧ r ≤ 4 ∧ 2 ≤ c ∧ c ≤ 4))
    m.set row.toNat col.toNat (decide dark)

def finder (top left : Int) (m : Matrix) : Matrix :=
  (List.range 9).foldl (fun m (r : Nat) => (List.range 9).foldl (fun m (c : Nat) =>
    finderModule top left m (r - 1) (c - 1)) m) m

def timing (m : Matrix) : Matrix :=
  (List.range' 8 (m.size - 16)).foldl (fun m i =>
    (m.set 6 i (decide (i % 2 = 0))).set i 6 (decide (i % 2 = 0))) m

/-- An alignment pattern, unless it would meet a finder pattern. -/
def alignment (m : Matrix) (row col : Nat) : Matrix :=
  let nearFinder := (row ≤ 8 ∧ col ≤ 8) ∨ (row ≤ 8 ∧ m.size - 9 ≤ col) ∨ (m.size - 9 ≤ row ∧ col ≤ 8)
  if nearFinder then m
  else (List.range 5).foldl (fun m r => (List.range 5).foldl (fun m c =>
    -- light where the larger of the distances to the centre is 1
    m.set (row + r - 2) (col + c - 2) (decide (max ((r : Int) - 2).natAbs ((c : Int) - 2).natAbs ≠ 1))) m) m

def setFree (m : Matrix) (row col : Nat) : Matrix := if m.isReserved row col then m else m.set row col false

/-- The space of the format, which is written at the end. -/
def formatSpace (m : Matrix) : Matrix :=
  let m := (List.range 9).foldl (fun m i => setFree (setFree m 8 i) i 8) m
  (List.range 8).foldl (fun m i => setFree (setFree m 8 (m.size - 1 - i)) (m.size - 1 - i) 8) m

def versionInfo (version : Nat) (m : Matrix) : Matrix :=
  (List.range 18).foldl (fun m i =>
    let bit := (VERSION_INFO version).testBit i
    let row := i / 3
    let col := m.size - 11 + i % 3
    (m.set row col bit).set col row bit) m

def placeFunctionPatterns (m : Matrix) (version : Nat) : Matrix :=
  let m := finder 0 0 m
  let m := finder 0 (m.size - 7) m
  let m := finder (m.size - 7) 0 m
  let m := timing m
  let m := (ALIGNMENT version).foldl (fun m row => (ALIGNMENT version).foldl (fun m col => alignment m row col) m) m
  let m := m.set (m.size - 8) 8 true
  let m := formatSpace m
  if 7 ≤ version then versionInfo version m else m

/-! ## Data -/

/-- The first column of each pair, from `right` on: the column of the timing pattern is skipped, and moves the
pairs after it. -/
def columnPairs : Nat → Nat → List Nat
  | 0, _ => []
  | fuel + 1, right =>
    if right = 0 then []
    else
      let col2 := if right = 6 then right - 1 else right
      col2 :: columnPairs fuel ((if col2 ≠ right then right - 1 else right) - 2)

/-- The modules in the order in which the loops visit them: pairs of columns, up and down in turn. -/
def visited (size : Nat) (columns : List Nat) : List (Nat × Nat) :=
  columns.zipIdx.flatMap fun pair => (List.range size).flatMap fun step =>
    let row := if pair.2 % 2 = 0 then size - 1 - step else step
    [(row, pair.1), (row, pair.1 - 1)]

/-- A bit of the codewords; the bits after them are 0. -/
def dataBit (data : List Nat) (bitIndex : Nat) : Bool :=
  if bitIndex < data.length * 8 then (data.getD (bitIndex / 8) 0).testBit (7 - bitIndex % 8) else false

/-- A module of the visit: the next bit, unless it is reserved. -/
def placeModule (data : List Nat) (s : Nat × Matrix) (cell : Nat × Nat) : Nat × Matrix :=
  if s.2.isReserved cell.1 cell.2 then s
  else (s.1 + 1, { s.2 with modules := s.2.modules.set (cell.1 * s.2.size + cell.2) (dataBit data s.1) })

def placeData (m : Matrix) (data : List Nat) : Matrix :=
  ((visited m.size (columnPairs m.size (m.size - 1))).foldl (placeModule data) (0, m)).2

/-! ## Masks -/

/-- `MASKS`: does the mask turn a module? -/
def maskAt (mask row col : Nat) : Bool :=
  match mask with
  | 0 => (row + col) % 2 = 0
  | 1 => row % 2 = 0
  | 2 => col % 3 = 0
  | 3 => (row + col) % 3 = 0
  | 4 => (row / 2 + col / 3) % 2 = 0
  | 5 => (row * col) % 2 + (row * col) % 3 = 0
  | 6 => ((row * col) % 2 + (row * col) % 3) % 2 = 0
  | 7 => ((row + col) % 2 + (row * col) % 3) % 2 = 0
  | _ => false

/-- All the modules, row by row. -/
def cells (size : Nat) : List (Nat × Nat) := (List.range size).flatMap fun row => (List.range size).map (row, ·)

def applyMask (m : Matrix) (mask : Nat) : Matrix :=
  { m with modules := m.modules.setAll ((cells m.size).filterMap fun cell =>
      if m.isReserved cell.1 cell.2 then none
      else if maskAt mask cell.1 cell.2 then some (cell.1 * m.size + cell.2, !m.get cell.1 cell.2) else none) }

/-- The format of level M with each mask. -/
def FORMAT_M : List Nat := [0x5412, 0x5125, 0x5e7c, 0x5b4b, 0x45f9, 0x40ce, 0x4f97, 0x4aa0]

/-- Where a bit of the format goes: next to the upper left finder, and shared by the other two. -/
def formatCells (size i : Nat) : (Nat × Nat) × (Nat × Nat) :=
  (if i < 6 then (i, 8) else if i = 6 then (7, 8) else if i = 7 then (8, 8) else if i = 8 then (8, 7) else (8, 14 - i),
    if i < 8 then (8, size - 1 - i) else (size - 15 + i, 8))

def writeFormat (m : Matrix) (mask : Nat) : Matrix :=
  { m with modules := m.modules.setAll ((List.range 15).flatMap fun i =>
      let bit := (FORMAT_M.getD mask 0).testBit i
      let (first, second) := formatCells m.size i
      [(first.1 * m.size + first.2, bit), (second.1 * m.size + second.2, bit)]) }

/-! ## Penalty -/

/-- What a run of equal modules costs. -/
def runCost (run : Nat) : Nat := if 5 ≤ run then 3 + (run - 5) else 0

/-- The runs of a line, after a module and the run that it ends. -/
def runScoreFrom : Bool → Nat → List Bool → Nat
  | _, run, [] => runCost run
  | last, run, v :: line => if v = last then runScoreFrom v (run + 1) line else runCost run + runScoreFrom v 1 line

def runScore : List Bool → Nat
  | [] => 0
  | v :: line => runScoreFrom v 1 line

def finderLike : List Bool := [true, false, true, true, true, false, true, false, false, false, false]

/-- The places of a line where something like a finder pattern begins. -/
def scanLine (line : List Bool) : Nat :=
  40 * line.tails.countP fun rest => finderLike.isPrefixOf rest || finderLike.reverse.isPrefixOf rest

def penalty (m : Matrix) : Nat :=
  let lines := ((List.range m.size).map fun row => (List.range m.size).map fun col => m.get row col) ++
    (List.range m.size).map fun col => (List.range m.size).map fun row => m.get row col
  let runs := (lines.map runScore).sum
  let blocks := ((cells (m.size - 1)).filter fun (row, col) =>
    let v := m.get row col
    v = m.get row (col + 1) ∧ v = m.get (row + 1) col ∧ v = m.get (row + 1) (col + 1)).length * 3
  let finders := (lines.map scanLine).sum
  let dark := (cells m.size).countP fun (row, col) => m.get row col
  let area := m.size * m.size
  -- `Math.floor(Math.abs(ratio - 50) / 5) * 10`
  runs + blocks + finders + ((100 * dark : Int) - 50 * area).natAbs / (5 * area) * 10

/-! ## The matrix of a content -/

/-- The matrix with a mask and its format. -/
def candidate (base : Matrix) (mask : Nat) : Matrix := writeFormat (applyMask base mask) mask

/-- The first candidate with the least penalty. -/
def bestMask (base : Matrix) : Option (Nat × Matrix) :=
  (List.range 8).foldl (fun best mask =>
    let score := penalty (candidate base mask)
    match best with
    | none => some (score, candidate base mask)
    | some (bestScore, _) => if score < bestScore then some (score, candidate base mask) else best) none

def blank (version : Nat) : Matrix := ⟨17 + version * 4, .empty, .empty⟩

/-- The rows of a matrix. -/
def rowsOf (m : Matrix) : List (List Bool) :=
  (List.range m.size).map fun row => (List.range m.size).map fun col => m.get row col

/-- The UTF-8 bytes of a text. -/
def utf8 (content : List Char) : List Nat := content.flatMap fun c => (String.utf8EncodeChar c).map UInt8.toNat

def qrMatrix (content : List Char) : Except String (List (List Bool)) := do
  let bytes := utf8 content
  let version ← pickVersion bytes.length
  let codewords := interleaveBlocks (encodeData bytes version) version
  let base := placeData (placeFunctionPatterns (blank version) version) codewords
  return rowsOf (((bestMask base).map (·.2)).getD base)

/-! ## What the steps write -/

section Places

/-- Places of different rows are different. -/
theorem place_lt {size row row' col col' : Nat} (hcol : col < size) (h : row < row') :
    row * size + col < row' * size + col' := by
  have : (row + 1) * size ≤ row' * size := Nat.mul_le_mul_right size h
  rw [Nat.add_mul, Nat.one_mul] at this
  omega

theorem place_inj {size row row' col col' : Nat} (hcol : col < size) (hcol' : col' < size)
    (h : row * size + col = row' * size + col') : row = row' ∧ col = col' := by
  rcases Nat.lt_trichotomy row row' with hlt | rfl | hlt
  · exact absurd h (Nat.ne_of_lt (place_lt hcol hlt))
  · exact ⟨rfl, by omega⟩
  · exact absurd h.symm (Nat.ne_of_lt (place_lt hcol' hlt))

/-- The modules are visited once. -/
theorem nodup_visited {size : Nat} {columns : List Nat} (h : (columns.flatMap fun col => [col, col - 1]).Nodup) :
    (visited size columns).Nodup := by
  obtain ⟨hpair, hapart⟩ := List.nodup_flatMap.mp h
  have hcells : ∀ (p : Nat × Nat) (cell : Nat × Nat), (cell ∈ (List.range size).flatMap fun step =>
      let row := if p.2 % 2 = 0 then size - 1 - step else step
      [(row, p.1), (row, p.1 - 1)]) → cell.2 ∈ [p.1, p.1 - 1] := by
    intro p cell hcell
    obtain ⟨step, -, hcell⟩ := List.mem_flatMap.mp hcell
    dsimp only at hcell
    rcases List.mem_pair.mp hcell with rfl | rfl
    · exact List.mem_cons_self
    · exact List.mem_cons_of_mem _ List.mem_cons_self
  refine List.nodup_flatMap.mpr ⟨fun p hp => List.nodup_flatMap.mpr ⟨fun step _ => ?_, ?_⟩, ?_⟩
  · have hne : p.1 ≠ p.1 - 1 := by
      have := hpair p.1 (List.fst_mem_of_mem_zipIdx hp)
      simpa using this
    simp [hne]
  · -- the rows of different steps are different
    refine List.nodup_range.imp_of_mem fun {s t} hs ht hst cell hcell hcell' => hst ?_
    rw [List.mem_range] at hs ht
    have hrow : cell.1 = if p.2 % 2 = 0 then size - 1 - s else s := by
      rcases List.mem_pair.mp hcell with rfl | rfl <;> rfl
    have hrow' : cell.1 = if p.2 % 2 = 0 then size - 1 - t else t := by
      rcases List.mem_pair.mp hcell' with rfl | rfl <;> rfl
    split at hrow <;> split at hrow' <;> omega
  · -- and so are the columns of different pairs
    have hcolumns : columns.zipIdx.Pairwise fun p q => List.Disjoint [p.1, p.1 - 1] [q.1, q.1 - 1] := by
      have hmap : (columns.zipIdx.map Prod.fst).Pairwise fun a b => List.Disjoint [a, a - 1] [b, b - 1] := by
        rw [List.zipIdx_map_fst]
        exact hapart
      exact (List.pairwise_map (f := Prod.fst)).mp hmap
    exact hcolumns.imp fun {p q} hpq cell hcell hcell' => hpq (hcells p cell hcell) (hcells q cell hcell')

end Places

section Steps

/-- The writes of the data: the bits that follow, at the modules that are not reserved. -/
def dataWrites (m : Matrix) (data : List Nat) (cells : List (Nat × Nat)) (bitIndex : Nat) : List (Nat × Bool) :=
  ((cells.filter fun cell => !m.isReserved cell.1 cell.2).zipIdx bitIndex).map fun p =>
    (p.1.1 * m.size + p.1.2, dataBit data p.2)

theorem foldl_placeModule (data : List Nat) (cells : List (Nat × Nat)) (bitIndex : Nat) (m : Matrix) :
    (cells.foldl (placeModule data) (bitIndex, m)).2 =
      { m with modules := m.modules.setAll (dataWrites m data cells bitIndex) } := by
  induction cells generalizing bitIndex m with
  | nil => rfl
  | cons cell cells ih =>
    rw [List.foldl_cons, placeModule]
    by_cases hreserved : m.isReserved cell.1 cell.2 = true
    · rw [if_pos hreserved, ih]
      simp only [dataWrites, List.filter_cons, hreserved, Bool.not_true, Bool.false_eq_true, if_false]
    · rw [if_neg hreserved, ih]
      simp only [dataWrites, List.filter_cons, eq_false_of_ne_true hreserved, Bool.not_false, if_true,
        List.zipIdx_cons, List.map_cons]
      rfl

variable {m : Matrix}

/-- **The data** is read in the order in which it is placed. -/
theorem map_get_placeData {data : List Nat} {columns : List Nat} (hpairs : columnPairs m.size (m.size - 1) = columns)
    (hapart : (columns.flatMap fun col => [col, col - 1]).Nodup) (hlt : ∀ col ∈ columns, col < m.size) :
    let free := (visited m.size columns).filter fun cell => !m.isReserved cell.1 cell.2
    (free.map fun cell => (placeData m data).get cell.1 cell.2) = (List.range free.length).map (dataBit data) := by
  intro free
  have hcols : ∀ cell ∈ free, cell.2 < m.size := by
    intro cell hcell
    obtain ⟨p, hp, hcell⟩ := List.mem_flatMap.mp (List.mem_filter.mp hcell).1
    obtain ⟨step, -, hcell⟩ := List.mem_flatMap.mp hcell
    have hp := hlt p.1 (List.fst_mem_of_mem_zipIdx hp)
    rcases List.mem_pair.mp hcell with rfl | rfl
    · exact hp
    · exact lt_of_le_of_lt (Nat.sub_le _ _) hp
  have hnodup : ((dataWrites m data (visited m.size columns) 0).map Prod.fst).Nodup := by
    have hplaces : (dataWrites m data (visited m.size columns) 0).map Prod.fst =
        free.map fun cell => cell.1 * m.size + cell.2 := by
      rw [dataWrites, List.map_map]
      conv_rhs => rw [← List.zipIdx_map_fst 0 free, List.map_map]
      rfl
    rw [hplaces]
    refine List.Nodup.map_on (fun c hc d hd hcd => ?_) ((nodup_visited hapart).filter _)
    obtain ⟨hrow, hcol⟩ := place_inj (hcols c hc) (hcols d hd) hcd
    exact Prod.ext hrow hcol
  have hget : ∀ cell : Nat × Nat, (placeData m data).get cell.1 cell.2 =
      (m.modules.setAll (dataWrites m data (visited m.size columns) 0)).get (cell.1 * m.size + cell.2) := by
    intro cell
    rw [placeData, hpairs, foldl_placeModule]
    rfl
  refine List.ext_getElem (by simp) fun i hi hi' => ?_
  rw [List.getElem_map, List.getElem_map, List.getElem_range, hget]
  rw [List.length_map] at hi
  have hmem : (free[i], i) ∈ free.zipIdx 0 := List.mk_mem_zipIdx_iff_getElem?.mpr (List.getElem?_eq_getElem hi)
  exact Bitmap.get_setAll_of_nodup hnodup (List.mem_map_of_mem hmem)

theorem mem_cells {size row col : Nat} : (row, col) ∈ cells size ↔ row < size ∧ col < size := by
  simp [cells]

/-- **A mask** turns modules that are not reserved. -/
theorem get_applyMask {mask row col : Nat} (hrow : row < m.size) (hcol : col < m.size)
    (hfree : m.isReserved row col = false) :
    (applyMask m mask).get row col = (m.get row col ^^ maskAt mask row col) := by
  -- the writes at the place of a module are those of this module
  have hmodule : ∀ w ∈ (cells m.size).filterMap (fun cell => if m.isReserved cell.1 cell.2 then none
      else if maskAt mask cell.1 cell.2 then some (cell.1 * m.size + cell.2, !m.get cell.1 cell.2) else none),
      w.1 = row * m.size + col → maskAt mask row col = true ∧ w.2 = !m.get row col := by
    intro w hw hplace
    obtain ⟨cell, hcell, hw⟩ := List.mem_filterMap.mp hw
    split at hw
    · cases hw
    split at hw
    · rename_i hmask
      obtain rfl := Option.some.inj hw
      obtain ⟨rfl, rfl⟩ := place_inj (mem_cells.mp hcell).2 hcol hplace
      exact ⟨hmask, rfl⟩
    · cases hw
  by_cases hmask : maskAt mask row col = true
  · rw [hmask, Bool.xor_true]
    refine Bitmap.get_setAll (List.mem_filterMap.mpr ⟨(row, col), mem_cells.mpr ⟨hrow, hcol⟩, ?_⟩)
      fun w hw hplace => (hmodule w hw hplace).2
    rw [if_neg (by rw [hfree]; exact Bool.false_ne_true), if_pos hmask]
    rfl
  · rw [eq_false_of_ne_true hmask, Bool.xor_false]
    exact Bitmap.get_setAll_of_not_mem fun w hw hplace => hmask (hmodule w hw hplace).1

/-- The places where the format is written, with its bits. -/
def formatWrites (size mask : Nat) : List (Nat × Bool) := (List.range 15).flatMap fun i =>
  let bit := (FORMAT_M.getD mask 0).testBit i
  let (first, second) := formatCells size i
  [(first.1 * size + first.2, bit), (second.1 * size + second.2, bit)]

/-- The places of both copies of the format. -/
def formatPlaces (size : Nat) : List Nat := (List.range 15).flatMap fun i =>
  [(formatCells size i).1.1 * size + (formatCells size i).1.2, (formatCells size i).2.1 * size + (formatCells size i).2.2]

theorem map_fst_formatWrites (size mask : Nat) : (formatWrites size mask).map Prod.fst = formatPlaces size := by
  rw [formatWrites, List.map_flatMap]
  rfl

/-- **The format** is written in both places. -/
theorem get_writeFormat {mask i : Nat} (hnodup : (formatPlaces m.size).Nodup) (hi : i < 15) {cell : Nat × Nat}
    (hcell : cell ∈ [(formatCells m.size i).1, (formatCells m.size i).2]) :
    (writeFormat m mask).get cell.1 cell.2 = (FORMAT_M.getD mask 0).testBit i := by
  refine @Bitmap.get_setAll_of_nodup m.modules (formatWrites m.size mask) ?_ _ _ ?_
  · rwa [map_fst_formatWrites]
  · refine List.mem_flatMap.mpr ⟨i, List.mem_range.mpr hi, ?_⟩
    rcases List.mem_pair.mp hcell with rfl | rfl
    · exact List.mem_cons_self
    · exact List.mem_cons_of_mem _ List.mem_cons_self

/-- Elsewhere nothing changes. -/
theorem get_writeFormat_of_not_mem {mask row col : Nat} (h : row * m.size + col ∉ formatPlaces m.size) :
    (writeFormat m mask).get row col = m.get row col := by
  refine @Bitmap.get_setAll_of_not_mem m.modules (formatWrites m.size mask) _ fun w hw heq => h ?_
  have hmem : w.1 ∈ formatPlaces m.size := by
    rw [← map_fst_formatWrites _ mask]
    exact List.mem_map_of_mem hw
  rwa [heq] at hmem

/-- **The matrix** is that of one of the masks. -/
theorem bestMask_eq_some (base : Matrix) :
    ∃ score mask, mask < 8 ∧ bestMask base = some (score, candidate base mask) := by
  -- after each mask the best so far is that of a mask
  have hstep : ∀ n, n ≤ 7 → ∃ score mask, mask < 8 ∧ (List.range (n + 1)).foldl (fun best mask =>
      let score := penalty (candidate base mask)
      match best with
      | none => some (score, candidate base mask)
      | some (bestScore, _) => if score < bestScore then some (score, candidate base mask) else best) none =
        some (score, candidate base mask) := by
    intro n hn
    induction n with
    | zero => exact ⟨_, 0, by decide, rfl⟩
    | succ n ih =>
      obtain ⟨score, mask, hmask, hbest⟩ := ih (by omega)
      rw [List.range_succ, List.foldl_append, hbest, List.foldl_cons, List.foldl_nil]
      dsimp only
      split
      · exact ⟨_, n + 1, by omega, rfl⟩
      · exact ⟨score, mask, hmask, rfl⟩
  exact hstep 7 (by decide)

end Steps

end AtlasErp.Qr
