import Mathlib.Data.Nat.Bitwise
import Mathlib.Algebra.Order.Ring.Int

/-!
# Bitmaps

Bits of bytes in memory, the lowest bit of a byte first. Reading a bit past the bytes has no result.
-/

namespace PhpDuckdb.Bitmap

/-- Read a bit of a bitmap, when its byte is there. -/
def readBit (bitmap : List UInt8) (index : Nat) : Option Bool :=
  bitmap[index / 8]?.map fun byte => byte.toNat.testBit (index % 8)

/-- Set a bit of a bitmap. -/
def setBit (bitmap : List UInt8) (index : Nat) : List UInt8 :=
  bitmap.modify (index / 8) fun byte => byte ||| UInt8.ofNat (1 <<< (index % 8))

/-- The bytes that hold some bits. -/
def bytesFor (bits : Nat) : Nat := if bits % 8 = 0 then bits / 8 else bits / 8 + 1

/-- A bitmap of some bytes in which no bit is set. -/
def zeros (bytes : Nat) : List UInt8 := List.replicate bytes 0

@[simp]
theorem setBit_length (bitmap : List UInt8) (index : Nat) :
    (setBit bitmap index).length = bitmap.length := List.length_modify ..

/-- A bit of the bytes is read. -/
theorem readBit_some {bitmap : List UInt8} {bits index : Nat} (enough : bytesFor bits ≤ bitmap.length)
    (inside : index < bits) : ∃ flag, readBit bitmap index = some flag := by
  have near : index / 8 < bitmap.length := by
    rw [bytesFor] at enough
    split at enough <;> omega
  exact ⟨_, by rw [readBit, List.getElem?_eq_getElem near, Option.map_some]⟩

/-- Every bit of a bitmap of zeros is clear. -/
theorem readBit_zeros {bytes index : Nat} (inside : index / 8 < bytes) :
    readBit (zeros bytes) index = some false := by
  rw [readBit, zeros, List.getElem?_replicate, if_pos inside, Option.map_some]
  exact congrArg some (Nat.zero_testBit _)

/-- The bits of a byte after one of them is set. -/
theorem testBit_or (byte : UInt8) {place other : Nat} (small : place < 8) :
    (byte ||| UInt8.ofNat (1 <<< place)).toNat.testBit other =
      (byte.toNat.testBit other || decide (place = other)) := by
  have power : (UInt8.ofNat (1 <<< place)).toNat = 2 ^ place := by
    have less : 2 ^ place < 2 ^ 8 := Nat.pow_lt_pow_right (by decide) small
    rw [Nat.one_shiftLeft]
    exact UInt8.toNat_ofNat_of_lt less
  rw [UInt8.toNat_or, Nat.testBit_or, power, Nat.testBit_two_pow]

/-- Setting a bit changes only that bit. -/
theorem readBit_setBit {bitmap : List UInt8} {index : Nat} (inside : index / 8 < bitmap.length)
    (other : Nat) :
    readBit (setBit bitmap index) other =
      if other = index then some true else readBit bitmap other := by
  rw [readBit, setBit, readBit, List.getElem?_modify]
  by_cases byte : index / 8 = other / 8
  · rw [← byte, List.getElem?_eq_getElem inside]
    simp only [Option.map_eq_map, Option.map_some, if_true]
    rw [testBit_or _ (Nat.mod_lt _ (by decide))]
    by_cases same : other = index
    · rw [if_pos same, same, decide_eq_true rfl, Bool.or_true]
    · rw [if_neg same, decide_eq_false (by omega), Bool.or_false]
  · rw [if_neg (show other ≠ index by rintro rfl; exact byte rfl)]
    simp only [if_neg byte]
    cases bitmap[other / 8]? with
    | none => rfl
    | some found => rfl

/-- Bytes in front of others hold the same bits. -/
theorem readBit_take {bitmap after : List UInt8} {bytes index : Nat} (inside : index / 8 < bytes)
    (enough : bytes ≤ bitmap.length) :
    readBit (bitmap.take bytes ++ after) index = readBit bitmap index := by
  rw [readBit, readBit, List.getElem?_append_left (by rw [List.length_take]; omega),
    List.getElem?_take_of_lt inside]

end PhpDuckdb.Bitmap
