import Mathlib.Algebra.Order.Ring.Int
import Mathlib.Data.List.Basic

/-!
# Length-prefixed bytes

Reading a region of memory that holds 32-bit lengths, each followed by as many bytes. A read that
leaves the region has no result, so a reader that has one has stayed inside.
-/

namespace PhpDuckdb.Framing

/-! ## Integers -/

/-- The bytes of a 32-bit integer, the lowest first. -/
def int32Bytes (number : Int32) : List UInt8 :=
  let bits := number.toUInt32.toNat
  [UInt8.ofNat bits, UInt8.ofNat (bits / 256), UInt8.ofNat (bits / 65536),
    UInt8.ofNat (bits / 16777216)]

/-- The 32-bit integer that bytes stand for. -/
def int32Of : List UInt8 → Int32
  | [first, second, third, fourth] =>
    (UInt32.ofNat (first.toNat + 256 * second.toNat + 65536 * third.toNat +
      16777216 * fourth.toNat)).toInt32
  | _ => 0

/-- An `int32_t` is written in four bytes. -/
@[simp]
theorem int32Bytes_length (number : Int32) : (int32Bytes number).length = 4 := rfl

/-- The bytes of an integer stand for it. -/
theorem int32Of_int32Bytes (number : Int32) : int32Of (int32Bytes number) = number := by
  have small := number.toUInt32.toNat_lt
  have first : (UInt8.ofNat number.toUInt32.toNat).toNat = number.toUInt32.toNat % 256 :=
    UInt8.toNat_ofNat'
  have second : (UInt8.ofNat (number.toUInt32.toNat / 256)).toNat =
      number.toUInt32.toNat / 256 % 256 := UInt8.toNat_ofNat'
  have third : (UInt8.ofNat (number.toUInt32.toNat / 65536)).toNat =
      number.toUInt32.toNat / 65536 % 256 := UInt8.toNat_ofNat'
  have fourth : (UInt8.ofNat (number.toUInt32.toNat / 16777216)).toNat =
      number.toUInt32.toNat / 16777216 % 256 := UInt8.toNat_ofNat'
  have joined : (UInt8.ofNat number.toUInt32.toNat).toNat +
      256 * (UInt8.ofNat (number.toUInt32.toNat / 256)).toNat +
      65536 * (UInt8.ofNat (number.toUInt32.toNat / 65536)).toNat +
      16777216 * (UInt8.ofNat (number.toUInt32.toNat / 16777216)).toNat =
        number.toUInt32.toNat := by omega
  rw [int32Bytes, int32Of, joined, UInt32.ofNat_toNat]
  exact number.toInt32_toUInt32

/-! ## Reads -/

/-- Read some bytes at an offset of a region, if they are inside it. -/
def readBytes (region : List UInt8) (offset length : Nat) : Option (List UInt8) :=
  if offset + length ≤ region.length then some ((region.drop offset).take length) else none

/-- Read a 32-bit integer of a region. -/
def readInt32 (region : List UInt8) (offset : Nat) : Option Int32 :=
  (readBytes region offset 4).map int32Of

/-- Bytes that a region holds are read. -/
theorem readBytes_eq (before after : List UInt8) {region text : List UInt8} {offset : Nat}
    (holds : region = before ++ text ++ after) (place : before.length = offset) :
    readBytes region offset text.length = some text := by
  subst holds place
  rw [readBytes, if_pos (by simp only [List.length_append]; omega), List.append_assoc,
    List.drop_left, List.take_left]

/-- An integer that a region holds is read. -/
theorem readInt32_eq (before after : List UInt8) {region : List UInt8} {offset : Nat}
    {number : Int32}
    (holds : region = before ++ int32Bytes number ++ after) (place : before.length = offset) :
    readInt32 region offset = some number := by
  have bytes := readBytes_eq before after holds place
  rw [int32Bytes_length] at bytes
  rw [readInt32, bytes, Option.map_some, int32Of_int32Bytes]

/-! ## Frames -/

/-- The bytes of a text behind their number. -/
def frame (text : List UInt8) : List UInt8 := int32Bytes (Int32.ofNat text.length) ++ text

/-- A frame is four bytes longer than its bytes. -/
@[simp]
theorem frame_length (text : List UInt8) : (frame text).length = 4 + text.length := by
  rw [frame, List.length_append, int32Bytes_length]

end PhpDuckdb.Framing
