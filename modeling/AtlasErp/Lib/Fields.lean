import Mathlib.Data.List.Basic
import Mathlib.Tactic.Common

/-! # Fields at fixed positions

A record of fixed size is written field by field over what is there.

- `readAt`, `writeAt`: a field of a record;
- `readAt_writeAt`, `readAt_writeAt_of_disjoint`: a field that was written, and the others;
- `writeFields`, `readAt_writeFields`: a field among many that were written;
- `splitWidths`, `splitWidths_flatten`: fields of fixed widths one after another. -/

namespace Lib

variable {α : Type*}

/-- So many elements from a position on. -/
def readAt (record : List α) (start size : Nat) : List α := (record.drop start).take size

/-- The elements of a record are replaced from a position on. -/
def writeAt (record : List α) (start : Nat) (field : List α) : List α :=
  record.take start ++ field ++ record.drop (start + field.length)

variable {record field : List α} {start size position : Nat}

theorem length_writeAt (h : start + field.length ≤ record.length) :
    (writeAt record start field).length = record.length := by
  simp only [writeAt, List.length_append, List.length_take, List.length_drop]
  omega

/-- **What was written is read.** -/
theorem readAt_writeAt (h : start + field.length ≤ record.length) :
    readAt (writeAt record start field) start field.length = field := by
  have hlength : (record.take start).length = start := List.length_take_of_le (by omega)
  rw [readAt, writeAt, List.append_assoc, List.drop_left' hlength, List.take_left' rfl]

/-- The fields before and after the one that was written stay. -/
theorem readAt_writeAt_of_disjoint (h : start + field.length ≤ record.length)
    (hdisjoint : position + size ≤ start ∨ start + field.length ≤ position) :
    readAt (writeAt record start field) position size = readAt record position size := by
  rcases hdisjoint with hbefore | hafter
  · have hlength : (record.take start).length = start := List.length_take_of_le (by omega)
    rw [readAt, writeAt, List.append_assoc, List.drop_append_of_le_length (by omega), List.take_append_of_le_length
      (by rw [List.length_drop]; omega), List.drop_take, List.take_take, readAt]
    congr 1
    omega
  · have hlength : (record.take start ++ field).length = start + field.length := by
      rw [List.length_append, List.length_take_of_le (by omega)]
    obtain ⟨k, rfl⟩ : ∃ k, position = start + field.length + k := ⟨position - (start + field.length), by omega⟩
    rw [readAt, writeAt, ← List.drop_drop, List.drop_left' hlength, List.drop_drop, readAt]

/-- Two fields that follow each other are one. -/
theorem readAt_append (record : List α) (start size size' : Nat) :
    readAt record start size ++ readAt record (start + size) size' = readAt record start (size + size') := by
  rw [readAt, readAt, readAt, ← List.drop_drop, List.take_add]

theorem readAt_zero_length (record : List α) : readAt record 0 record.length = record := by
  rw [readAt, List.drop_zero, List.take_length]

theorem length_readAt (h : start + size ≤ record.length) : (readAt record start size).length = size := by
  rw [readAt, List.length_take, List.length_drop]
  omega

/-! ## Many fields -/

/-- Fields that are written one after another, each at its position. -/
def writeFields (record : List α) (fields : List (Nat × List α)) : List α :=
  fields.foldl (fun record field => writeAt record field.1 field.2) record

variable {fields before after : List (Nat × List α)}

theorem length_writeFields (h : ∀ f ∈ fields, f.1 + f.2.length ≤ record.length) :
    (writeFields record fields).length = record.length := by
  induction fields generalizing record with
  | nil => rfl
  | cons f fields ih =>
    have hfirst := length_writeAt (h f List.mem_cons_self)
    exact (ih fun g hg => hfirst ▸ h g (List.mem_cons_of_mem _ hg)).trans hfirst

theorem readAt_writeFields_of_disjoint (h : ∀ f ∈ fields, f.1 + f.2.length ≤ record.length)
    (hdisjoint : ∀ f ∈ fields, position + size ≤ f.1 ∨ f.1 + f.2.length ≤ position) :
    readAt (writeFields record fields) position size = readAt record position size := by
  induction fields generalizing record with
  | nil => rfl
  | cons f fields ih =>
    have hfirst := length_writeAt (h f List.mem_cons_self)
    have hrest : readAt (writeFields (writeAt record f.1 f.2) fields) position size =
        readAt (writeAt record f.1 f.2) position size :=
      ih (fun g hg => hfirst ▸ h g (List.mem_cons_of_mem _ hg)) fun g hg => hdisjoint g (List.mem_cons_of_mem _ hg)
    exact hrest.trans (readAt_writeAt_of_disjoint (h f List.mem_cons_self) (hdisjoint f List.mem_cons_self))

/-- **A field among others** is read as it was written, if none after it was written over it. -/
theorem readAt_writeFields (hfields : fields = before ++ (start, field) :: after)
    (h : ∀ f ∈ fields, f.1 + f.2.length ≤ record.length)
    (hdisjoint : ∀ f ∈ after, start + field.length ≤ f.1 ∨ f.1 + f.2.length ≤ start) :
    readAt (writeFields record fields) start field.length = field := by
  subst hfields
  have hbefore : (writeFields record before).length = record.length :=
    length_writeFields fun f hf => h f (List.mem_append_left _ hf)
  have hfield : start + field.length ≤ (writeFields record before).length :=
    hbefore ▸ h _ (List.mem_append_right _ List.mem_cons_self)
  have hwritten := length_writeAt hfield
  have hsplit : writeFields record (before ++ (start, field) :: after) =
      writeFields (writeAt (writeFields record before) start field) after := by
    rw [writeFields, List.foldl_append]
    rfl
  rw [hsplit, readAt_writeFields_of_disjoint (fun f hf => ?_) hdisjoint, readAt_writeAt hfield]
  rw [hwritten, hbefore]
  exact h f (List.mem_append_right _ (List.mem_cons_of_mem _ hf))

/-! ## Fields one after another -/

/-- The fields of a record, given their widths. -/
def splitWidths : List Nat → List α → List (List α)
  | [], _ => []
  | width :: widths, record => record.take width :: splitWidths widths (record.drop width)

/-- **Fields of known widths** that follow each other are recovered. -/
theorem splitWidths_flatten (fields : List (List α)) : splitWidths (fields.map List.length) fields.flatten = fields := by
  induction fields with
  | nil => rfl
  | cons field fields ih =>
    rw [List.map_cons, List.flatten_cons, splitWidths, List.take_left' rfl, List.drop_left' rfl, ih]

end Lib
