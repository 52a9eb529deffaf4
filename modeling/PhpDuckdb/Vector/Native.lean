import Mathlib.Algebra.Order.Ring.Int
import Mathlib.Logic.Function.Basic

/-!
# Native vectors

The rows of a DuckDB vector, the entries of a selection vector, and what `duckdb_vector_copy_sel`
does between two distinct vectors. The loops that write selection entries are here too.
-/

namespace PhpDuckdb.Vector

universe u

variable {Cell : Type u}

/-- The rows of a native vector, whatever its layout. -/
abbrev Rows (Cell : Type u) := Nat → Cell

/-- The entries of a selection vector, each a `sel_t`. -/
abbrev Selection := Nat → UInt32

/-- The values that `duckdb_vector_size` can have. -/
abbrev VectorSize := { size : UInt64 // 0 < size }

/-- A native vector has room for a row. -/
theorem VectorSize.toNat_pos (vectorSize : VectorSize) : 0 < vectorSize.val.toNat :=
  UInt64.lt_iff_toNat_lt.mp vectorSize.property

/-- `duckdb_vector_copy_sel` between two distinct vectors: the selected rows from entry
`sourceOffset` to entry `count` go to the target from `targetOffset` on. -/
def copySel (source target : Rows Cell) (selection : Selection)
    (count sourceOffset targetOffset : Nat) : Rows Cell := fun row =>
  if targetOffset ≤ row ∧ row < targetOffset + (count - sourceOffset) then
    source (selection (sourceOffset + (row - targetOffset))).toNat
  else target row

/-- A copied row is the selected one. -/
theorem copySel_inside (source target : Rows Cell) (selection : Selection)
    {count sourceOffset targetOffset position : Nat} (inside : position < count - sourceOffset) :
    copySel source target selection count sourceOffset targetOffset (targetOffset + position) =
      source (selection (sourceOffset + position)).toNat := by
  rw [copySel, if_pos (by omega), show targetOffset + position - targetOffset = position by omega]

/-- The rows outside of the written range stay as they were. -/
theorem copySel_outside (source target : Rows Cell) (selection : Selection)
    {count sourceOffset targetOffset row : Nat}
    (outside : row < targetOffset ∨ targetOffset + (count - sourceOffset) ≤ row) :
    copySel source target selection count sourceOffset targetOffset row = target row := by
  rw [copySel, if_neg (by omega)]

/-- The loop that writes `left` entries, from position `first` on. -/
def writeIndices (entry : Nat → UInt32) : Nat → Nat → Selection → Selection
  | _, 0, indices => indices
  | first, left + 1, indices =>
    writeIndices entry (first + 1) left (Function.update indices first (entry first))

/-- The written entries are new and the others stay. -/
theorem writeIndices_apply (entry : Nat → UInt32) (first left : Nat) (indices : Selection)
    (position : Nat) :
    writeIndices entry first left indices position =
      if first ≤ position ∧ position < first + left then entry position else indices position := by
  induction left generalizing first indices with
  | zero => rw [writeIndices, if_neg (by omega)]
  | succ left ih =>
    rw [writeIndices, ih]
    by_cases here : position = first
    · rw [here, if_neg (by omega), if_pos (by omega), Function.update_self]
    · rw [Function.update_of_ne here]
      by_cases inside : first + 1 ≤ position ∧ position < first + 1 + left
      · rw [if_pos inside, if_pos (by omega)]
      · rw [if_neg inside, if_neg (by omega)]

/-- A row number that fits an entry is read back from it. -/
theorem toNat_entry {row : Nat} (small : row < 2 ^ 32) : (UInt32.ofNat row).toNat = row :=
  UInt32.toNat_ofNat_of_lt' small

end PhpDuckdb.Vector
