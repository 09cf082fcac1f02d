import AtlasErp.Lib.Bits
import AtlasErp.Lib.Checked
import AtlasErp.Lib.Interleave

/-! # The codewords of a QR code

Byte mode, correction level M, versions 1 to 10: the bytes of the content as data codewords, in blocks
with their error correction, interleaved.

- `encodeData`, `reedSolomon`, `interleaveBlocks`: from the bytes to the codewords;
- `readCodewords`: back from the codewords;
- `pickVersion_of_le`, `pickVersion_of_gt`: what fits;
- `readCodewords_encode`: the bytes are read back. -/

namespace AtlasErp.Qr

open Lib

/-! ## Versions -/

/-- The blocks of a version: how many of each group, and their data and correction codewords. -/
structure EccSpec where
  ecPerBlock : Nat
  g1 : Nat
  g1Data : Nat
  g2 : Nat
  g2Data : Nat
  deriving DecidableEq

def ECC_M : Nat → EccSpec
  | 1 => ⟨10, 1, 16, 0, 0⟩
  | 2 => ⟨16, 1, 28, 0, 0⟩
  | 3 => ⟨26, 1, 44, 0, 0⟩
  | 4 => ⟨18, 2, 32, 0, 0⟩
  | 5 => ⟨24, 2, 43, 0, 0⟩
  | 6 => ⟨16, 4, 27, 0, 0⟩
  | 7 => ⟨18, 4, 31, 0, 0⟩
  | 8 => ⟨22, 2, 38, 2, 39⟩
  | 9 => ⟨22, 3, 36, 2, 37⟩
  | 10 => ⟨26, 4, 43, 1, 44⟩
  | _ => ⟨0, 0, 0, 0, 0⟩

def totalData (version : Nat) : Nat :=
  (ECC_M version).g1 * (ECC_M version).g1Data + (ECC_M version).g2 * (ECC_M version).g2Data

/-- The width of the length of the content. -/
def countBits (version : Nat) : Nat := if version < 10 then 8 else 16

/-- The first version that holds some bytes. -/
def pickVersion (byteLength : Nat) : Except String Nat :=
  match [1, 2, 3, 4, 5, 6, 7, 8, 9, 10].find? fun version =>
      byteLength * 8 + 4 + countBits version ≤ totalData version * 8 with
  | some version => .ok version
  | none => .error "QR_CONTENT_TOO_LONG"

/-! ## Error correction -/

/-- The next power of the generator of GF(256). -/
def nextPower (x : Nat) : Nat :=
  let doubled := x <<< 1
  if doubled &&& 0x100 ≠ 0 then doubled ^^^ 0x11d else doubled

/-- The powers of the generator: the first 255 entries of `EXP`, which repeats them. -/
def POWERS : List Nat := List.iterate nextPower 1 255

def EXP (i : Nat) : Nat := POWERS.getD (i % 255) 0

def LOG (x : Nat) : Nat := POWERS.idxOf x

def gfMul (a b : Nat) : Nat := if a = 0 ∨ b = 0 then 0 else EXP (LOG a + LOG b)

def generatorPoly (degree : Nat) : List Nat :=
  (List.range degree).foldl (fun poly i =>
    List.zipWith (· ^^^ ·) (poly.map (gfMul · 1) ++ [0]) (0 :: poly.map (gfMul · (EXP i)))) [1]

/-- One step of the division: the remainder after another byte. -/
def reedSolomonStep (gen : List Nat) (remainder : List Nat) (byte : Nat) : List Nat :=
  let factor := byte ^^^ remainder.headD 0
  let shifted := remainder.tail ++ [0]
  if factor ≠ 0 then shifted.mapIdx fun i r => r ^^^ gfMul (gen.getD (i + 1) 0) factor else shifted

def reedSolomon (data : List Nat) (ecLength : Nat) : List Nat :=
  data.foldl (reedSolomonStep (generatorPoly ecLength)) (List.replicate ecLength 0)

/-! ## Encoding -/

def encodeData (bytes : List Nat) (version : Nat) : List Nat :=
  let capacityBits := totalData version * 8
  let content := toBits 4 0b0100 ++ toBits (countBits version) bytes.length ++ unpack bytes
  let terminated := content ++ List.replicate (min 4 (capacityBits - content.length)) false
  let bits := terminated ++ List.replicate ((8 - terminated.length % 8) % 8) false
  let codewords := pack bits
  codewords ++ (List.range (totalData version - codewords.length)).map fun i => if i % 2 = 0 then 0xec else 0x11

/-- The data codewords of each block. -/
def blockLengths (version : Nat) : List Nat :=
  List.replicate (ECC_M version).g1 (ECC_M version).g1Data ++ List.replicate (ECC_M version).g2 (ECC_M version).g2Data

/-- Consecutive blocks of some lengths. -/
def splitBlocks : List Nat → List Nat → List (List Nat)
  | [], _ => []
  | n :: lengths, codewords => codewords.take n :: splitBlocks lengths (codewords.drop n)

/-- The columns of the data blocks, and then those of their corrections. -/
def interleaveBlocks (codewords : List Nat) (version : Nat) : List Nat :=
  let blocks := splitBlocks (blockLengths version) codewords
  let ecBlocks := blocks.map fun block => reedSolomon block (ECC_M version).ecPerBlock
  let maxData := (blocks.map List.length).foldl max 0
  interleave maxData blocks ++ (List.range (ECC_M version).ecPerBlock).flatMap fun i => ecBlocks.map (·.getD i 0)

/-! ## Reading -/

/-- The data codewords, from the interleaved ones. -/
def readBlocks (version : Nat) (codewords : List Nat) : List Nat :=
  (deinterleave ((blockLengths version).foldl max 0) (blockLengths version) codewords).flatten

/-- The content in byte mode: the mode, the length and that many bytes. -/
def readContent (version : Nat) (bits : List Bool) : Option (List Nat) :=
  let length := ofBits ((bits.drop 4).take (countBits version))
  let content := ((bits.drop 4).drop (countBits version)).take (8 * length)
  if bits.take 4 = toBits 4 0b0100 ∧ content.length = 8 * length then some (pack content) else none

/-- The content, from the bits of the interleaved codewords. -/
def readCodewords (version : Nat) (bits : List Bool) : Option (List Nat) :=
  readContent version (unpack (readBlocks version (pack (bits.take (8 * totalData version)))))

section Versions

/-- The version that is picked holds the bytes. -/
theorem pickVersion_eq_ok {byteLength version : Nat} (h : pickVersion byteLength = .ok version) :
    version ∈ [1, 2, 3, 4, 5, 6, 7, 8, 9, 10] ∧ byteLength * 8 + 4 + countBits version ≤ totalData version * 8 := by
  unfold pickVersion at h
  split at h
  · rename_i v hfind
    obtain rfl := Except.ok.inj h
    exact ⟨List.mem_of_find?_eq_some hfind, by simpa using List.find?_some hfind⟩
  · cases h

/-- Up to 213 bytes there is a version. -/
theorem pickVersion_of_le {byteLength : Nat} (h : byteLength ≤ 213) : ∃ version, pickVersion byteLength = .ok version := by
  unfold pickVersion
  split
  · exact ⟨_, rfl⟩
  · rename_i hnone
    have hten := List.find?_eq_none.mp hnone 10 (by decide)
    have hcapacity : totalData 10 * 8 = 1728 := rfl
    have hcount : countBits 10 = 16 := rfl
    rw [decide_eq_true_eq, hcapacity, hcount] at hten
    omega

/-- Beyond them there is none. -/
theorem pickVersion_of_gt {byteLength : Nat} (h : 213 < byteLength) :
    pickVersion byteLength = .error "QR_CONTENT_TOO_LONG" := by
  have hsmall : ∀ version ∈ [1, 2, 3, 4, 5, 6, 7, 8, 9, 10], totalData version * 8 < 214 * 8 + 4 + countBits version := by
    decide
  have hnone : [1, 2, 3, 4, 5, 6, 7, 8, 9, 10].find? (fun version =>
      decide (byteLength * 8 + 4 + countBits version ≤ totalData version * 8)) = none := by
    refine List.find?_eq_none.mpr fun version hversion => ?_
    have := hsmall version hversion
    rw [decide_eq_true_eq]
    omega
  rw [pickVersion, hnone]

/-- The length of what a version holds fits its width. -/
theorem length_lt_of_fits {byteLength version : Nat} (hversion : version ∈ [1, 2, 3, 4, 5, 6, 7, 8, 9, 10])
    (h : byteLength * 8 + 4 + countBits version ≤ totalData version * 8) : byteLength < 2 ^ countBits version := by
  have hall : ∀ v ∈ [1, 2, 3, 4, 5, 6, 7, 8, 9, 10], totalData v < 2 ^ countBits v := by decide
  have := hall version hversion
  omega

end Versions

section RoundTrip

variable {bytes : List Nat} {version : Nat}

theorem lt_of_mem_pack {bits : List Bool} {b : Nat} (h : b ∈ pack bits) : b < 256 := by
  induction bits using pack.induct with
  | case1 b₁ b₂ b₃ b₄ b₅ b₆ b₇ b₈ bits ih =>
    rw [pack] at h
    rcases List.mem_cons.mp h with rfl | h
    · simpa using ofBits_lt [b₁, b₂, b₃, b₄, b₅, b₆, b₇, b₈]
    · exact ih h
  | case2 bits hshort => rw [pack.eq_2 bits hshort] at h; cases h

/-- **The data codewords** fill the version, and begin with the mode, the length and the bytes. -/
theorem encodeData_spec (hfits : bytes.length * 8 + 4 + countBits version ≤ totalData version * 8) :
    (encodeData bytes version).length = totalData version ∧ (∀ b ∈ encodeData bytes version, b < 256) ∧
      ∃ rest, unpack (encodeData bytes version) =
        toBits 4 0b0100 ++ (toBits (countBits version) bytes.length ++ (unpack bytes ++ rest)) := by
  have hcount : countBits version = 8 ∨ countBits version = 16 := by
    unfold countBits
    split
    · exact .inl rfl
    · exact .inr rfl
  obtain ⟨content, hcontent⟩ :
      ∃ content, content = toBits 4 0b0100 ++ toBits (countBits version) bytes.length ++ unpack bytes := ⟨_, rfl⟩
  have hlength : content.length = 4 + countBits version + 8 * bytes.length := by
    simp only [hcontent, List.length_append, length_toBits, length_unpack]
  -- the capacity is a number of bytes, so the terminator has its four bits and ends a byte
  have hterminator : min 4 (totalData version * 8 - content.length) = 4 := by omega
  have hwhole : (8 - (content ++ List.replicate 4 false).length % 8) % 8 = 0 := by
    rw [List.length_append, List.length_replicate]
    omega
  obtain ⟨padding, hpadding, hencode⟩ : ∃ padding : List Nat,
      padding = (List.range (totalData version - (pack (content ++ List.replicate 4 false)).length)).map
        (fun i => if i % 2 = 0 then 0xec else 0x11) ∧
      encodeData bytes version = pack (content ++ List.replicate 4 false) ++ padding := by
    refine ⟨_, rfl, ?_⟩
    unfold encodeData
    dsimp only
    rw [← hcontent, hterminator, hwhole, List.replicate_zero, List.append_nil]
  have hbytes : (pack (content ++ List.replicate 4 false)).length ≤ totalData version := by
    rw [length_pack, List.length_append, List.length_replicate]
    omega
  refine ⟨?_, fun b hb => ?_, ?_⟩
  · rw [hencode, List.length_append, hpadding, List.length_map, List.length_range]
    omega
  · rw [hencode] at hb
    rcases List.mem_append.mp hb with hb | hb
    · exact lt_of_mem_pack hb
    · rw [hpadding] at hb
      obtain ⟨i, -, rfl⟩ := List.mem_map.mp hb
      split <;> decide
  · have hmod : (content ++ List.replicate 4 false).length % 8 = 0 := by
      rw [List.length_append, List.length_replicate]
      omega
    rw [hencode, unpack_append, unpack_pack hmod, hcontent]
    exact ⟨List.replicate 4 false ++ unpack padding, by simp only [List.append_assoc]⟩

/-- The content is read from its codewords. -/
theorem readContent_append (hbytes : ∀ b ∈ bytes, b < 256) (hlength : bytes.length < 2 ^ countBits version)
    (rest : List Bool) :
    readContent version (toBits 4 0b0100 ++ (toBits (countBits version) bytes.length ++ (unpack bytes ++ rest))) =
      some bytes := by
  have hmode : (toBits 4 0b0100).length = 4 := rfl
  have hdrop : ∀ tail : List Bool, (toBits 4 0b0100 ++ tail).drop 4 = tail := fun tail => List.drop_left' hmode
  have htake : ∀ tail : List Bool, (toBits 4 0b0100 ++ tail).take 4 = toBits 4 0b0100 := fun tail =>
    List.take_left' hmode
  have hcount : ∀ tail : List Bool, (toBits (countBits version) bytes.length ++ tail).take (countBits version) =
      toBits (countBits version) bytes.length := fun tail => List.take_left' (length_toBits _ _)
  have hcount' : ∀ tail : List Bool, (toBits (countBits version) bytes.length ++ tail).drop (countBits version) =
      tail := fun tail => List.drop_left' (length_toBits _ _)
  have hunpack : (unpack bytes ++ rest).take (8 * bytes.length) = unpack bytes :=
    List.take_left' (length_unpack bytes)
  have hpack : pack (unpack bytes) = bytes := by
    have := @pack_unpack_append _ hbytes [] (by decide)
    rwa [List.append_nil] at this
  unfold readContent
  dsimp only
  rw [hdrop, htake, hcount, hcount', ofBits_toBits hlength, hunpack, if_pos ⟨rfl, length_unpack bytes⟩, hpack]

theorem splitBlocks_spec {lengths codewords : List Nat} (h : codewords.length = lengths.sum) :
    (splitBlocks lengths codewords).map List.length = lengths ∧ (splitBlocks lengths codewords).flatten = codewords := by
  induction lengths generalizing codewords with
  | nil =>
    obtain rfl := List.length_eq_zero_iff.mp h
    exact ⟨rfl, rfl⟩
  | cons n lengths ih =>
    rw [List.sum_cons] at h
    obtain ⟨hlengths, hflatten⟩ := @ih (codewords.drop n) (by rw [List.length_drop]; omega)
    constructor
    · rw [splitBlocks, List.map_cons, hlengths, List.length_take, Nat.min_eq_left (by omega)]
    · rw [splitBlocks, List.flatten_cons, hflatten, List.take_append_drop]

theorem sum_blockLengths (version : Nat) : (blockLengths version).sum = totalData version := by
  simp [blockLengths, totalData, List.sum_replicate]

theorem le_foldl_max {xs : List Nat} {x m : Nat} (h : x ∈ xs ∨ x ≤ m) : x ≤ xs.foldl max m := by
  induction xs generalizing m with
  | nil => exact h.resolve_left List.not_mem_nil
  | cons y xs ih =>
    rw [List.foldl_cons]
    refine ih ?_
    rcases h with h | h
    · rcases List.mem_cons.mp h with rfl | h
      · exact .inr (le_max_right _ _)
      · exact .inl h
    · exact .inr (le_trans h (le_max_left _ _))

/-- **The interleaved codewords** begin with the data, from which the blocks are put back. -/
theorem readBlocks_interleaveBlocks {codewords : List Nat} (hlength : codewords.length = totalData version)
    (hbytes : ∀ b ∈ codewords, b < 256) :
    ∃ first corrections, interleaveBlocks codewords version = first ++ corrections ∧
      first.length = totalData version ∧ (∀ b ∈ first, b < 256) ∧ readBlocks version first = codewords := by
  obtain ⟨hlengths, hflatten⟩ := splitBlocks_spec (hlength.trans (sum_blockLengths version).symm)
  have hshort : ∀ b ∈ splitBlocks (blockLengths version) codewords,
      b.length ≤ (blockLengths version).foldl max 0 := by
    intro b hb
    refine le_foldl_max (.inl ?_)
    rw [← hlengths]
    exact List.mem_map_of_mem hb
  refine ⟨interleave ((blockLengths version).foldl max 0) (splitBlocks (blockLengths version) codewords), _,
    by rw [interleaveBlocks, hlengths], ?_, fun b hb => ?_, ?_⟩
  · rw [length_interleave hshort, hlengths, sum_blockLengths]
  · obtain ⟨block, hblock, hb⟩ := mem_interleave hb
    refine hbytes b ?_
    rw [← hflatten]
    exact List.mem_flatten.mpr ⟨block, hblock, hb⟩
  · have hback := deinterleave_interleave hshort []
    rw [List.append_nil, hlengths] at hback
    rw [readBlocks, hback, hflatten]

/-- **Round trip** of the codewords: the bytes are read from their bits, whatever follows them. -/
theorem readCodewords_encode (hbytes : ∀ b ∈ bytes, b < 256) (hlength : bytes.length < 2 ^ countBits version)
    (hfits : bytes.length * 8 + 4 + countBits version ≤ totalData version * 8) (rest : List Bool) :
    readCodewords version (unpack (interleaveBlocks (encodeData bytes version) version) ++ rest) = some bytes := by
  obtain ⟨hdata, hdataBytes, tail, hunpack⟩ := encodeData_spec hfits
  obtain ⟨first, corrections, hinterleave, hfirst, hfirstBytes, hread⟩ :=
    readBlocks_interleaveBlocks hdata hdataBytes
  have hlengthFirst : (unpack first).length = 8 * totalData version := by rw [length_unpack, hfirst]
  have hpack : pack (unpack first) = first := by
    have := @pack_unpack_append _ hfirstBytes [] (by decide)
    rwa [List.append_nil] at this
  rw [readCodewords, hinterleave, unpack_append, List.append_assoc, List.take_left' hlengthFirst, hpack, hread,
    hunpack, readContent_append hbytes hlength]

end RoundTrip

end AtlasErp.Qr
