import Mathlib.Data.List.GetD
import Mathlib.Data.Nat.Bitwise
import PhpDuckdb.Lib.SqlText

/-!
# BIT

A stored BIT is a byte with the number of padding bits and the data bytes, whose bits are numbered
from the highest of the first byte; the padding is in front. The decoder counts in 32 bits: it writes
as many characters as there are bits, modulo 2^32.
-/

namespace PhpDuckdb.Decode

open SqlText

/-! ## Decoder -/

/-- The character that a bit is written as. -/
def bitChar (bit : Bool) : UInt8 := if bit then 49 else 48

/-- The loop over the last bits of a byte, the highest of them first: how many characters were
emitted and what they are. -/
def emitBits (byte : UInt8) (bitCount : UInt32) : Nat → UInt32 → Bytes → UInt32 × Bytes
  | 0, emitted, result => (emitted, result)
  | left + 1, emitted, result =>
    if emitted < bitCount then
      emitBits byte bitCount left (emitted + 1) (result ++ [bitChar (byte.toNat.testBit left)])
    else (emitted, result)

/-- The loop over the bytes from one of them on. Every turn goes to the next byte, so their number is
fuel enough; reading past the bytes has no result. -/
def emitBytes (bytes : Bytes) (len bitCount : UInt32) :
    Nat → UInt32 → UInt32 → Bytes → Option Bytes
  | 0, _, _, _ => none
  | fuel + 1, index, emitted, result =>
    if index < len ∧ emitted < bitCount then do
      let byte ← bytes[index.toNat]?
      let (emitted, result) := emitBits byte bitCount 8 emitted result
      emitBytes bytes len bitCount fuel (index + 1) emitted result
    else some result

/-- `duckdb_decode_bit`, for the bytes of a string and its length. -/
def duckdbDecodeBit (bytes : Bytes) (len : UInt32) : Option Bytes :=
  if len ≤ 1 then some []
  else do
    let padding ← bytes[0]?
    let bitCount := (len - 1) * 8 - padding.toUInt32
    let first ← bytes[1]?
    let (emitted, result) := emitBits first bitCount (8 - padding.toNat) 0 []
    emitBytes bytes len bitCount len.toNat 2 emitted result

/-! ## The bits of bytes -/

/-- The last bits of a byte, the highest of them first. -/
def lowBits (byte : UInt8) : Nat → Bytes
  | 0 => []
  | left + 1 => bitChar (byte.toNat.testBit left) :: lowBits byte left

/-- The bits of some bytes, the highest first. -/
def allBits (bytes : Bytes) : Bytes := bytes.flatMap (lowBits · 8)

/-- The bit at a position of bytes, counted from the highest bit of the first. -/
def bitAt (bytes : Bytes) (position : Nat) : Bool :=
  (bytes.getD (position / 8) 0).toNat.testBit (7 - position % 8)

@[simp]
theorem lowBits_length (byte : UInt8) (count : Nat) : (lowBits byte count).length = count := by
  induction count with
  | zero => rfl
  | succ count ih => rw [lowBits, List.length_cons, ih]

/-- The low bits of a byte are written from the highest to the lowest. -/
theorem lowBits_get (byte : UInt8) {count place : Nat} (inside : place < count) :
    (lowBits byte count)[place]? = some (bitChar (byte.toNat.testBit (count - 1 - place))) := by
  induction count generalizing place with
  | zero => exact absurd inside (Nat.not_lt_zero place)
  | succ count ih =>
    rw [lowBits]
    cases place with
    | zero => rfl
    | succ place =>
      have same : count + 1 - 1 - (place + 1) = count - 1 - place := by omega
      rw [List.getElem?_cons_succ, ih (Nat.lt_of_succ_lt_succ inside), same]

/-- The last bits of a byte are behind the others. -/
theorem lowBits_drop (byte : UInt8) (skipped count : Nat) :
    (lowBits byte (skipped + count)).drop skipped = lowBits byte count := by
  induction skipped with
  | zero => rw [Nat.zero_add, List.drop_zero]
  | succ skipped ih => rw [Nat.add_right_comm, lowBits, List.drop_succ_cons, ih]

/-- There are eight bits for every byte. -/
@[simp]
theorem allBits_length (bytes : Bytes) : (allBits bytes).length = 8 * bytes.length := by
  induction bytes with
  | nil => rfl
  | cons byte rest ih =>
    rw [allBits, List.flatMap_cons, List.length_append, lowBits_length, List.length_cons]
    rw [allBits] at ih
    omega

/-- The bits of bytes are written in their order. -/
theorem allBits_get {bytes : Bytes} {position : Nat} (inside : position < 8 * bytes.length) :
    (allBits bytes)[position]? = some (bitChar (bitAt bytes position)) := by
  induction bytes generalizing position with
  | nil => exact absurd inside (Nat.not_lt_zero position)
  | cons byte rest ih =>
    rw [allBits, List.flatMap_cons, bitAt]
    by_cases here : position < 8
    · have quotient : position / 8 = 0 := by omega
      have place : position % 8 = position := by omega
      rw [List.getElem?_append_left (by rw [lowBits_length]; exact here), lowBits_get byte here,
        quotient, place]
      rfl
    · have quotient : position / 8 = (position - 8) / 8 + 1 := by omega
      have place : position % 8 = (position - 8) % 8 := by omega
      rw [List.length_cons] at inside
      rw [List.getElem?_append_right (by rw [lowBits_length]; omega), lowBits_length, quotient, place,
        List.getD_cons_succ]
      exact ih (by omega)

/-! ## Loops -/

/-- The loop over a byte emits its bits up to the count. -/
theorem emitBits_eq (byte : UInt8) (bitCount : UInt32) (left : Nat) {emitted : UInt32}
    (result : Bytes) (within : emitted ≤ bitCount) :
    ∃ after : UInt32, after ≤ bitCount ∧
      after.toNat = emitted.toNat + min left (bitCount.toNat - emitted.toNat) ∧
      emitBits byte bitCount left emitted result =
        (after, result ++ (lowBits byte left).take (bitCount.toNat - emitted.toNat)) := by
  induction left generalizing emitted result with
  | zero =>
    refine ⟨emitted, within, ?_, ?_⟩
    · omega
    · rw [emitBits, lowBits, List.take_nil, List.append_nil]
  | succ left ih =>
    have bounded : emitted.toNat ≤ bitCount.toNat := within
    have small := bitCount.toNat_lt
    by_cases more : emitted < bitCount
    · have before : emitted.toNat < bitCount.toNat := more
      have next : (emitted + 1).toNat = emitted.toNat + 1 := by
        rw [UInt32.toNat_add]
        exact Nat.mod_eq_of_lt (by simpa using (by omega : emitted.toNat + 1 < 2 ^ 32))
      have within' : emitted + 1 ≤ bitCount := by
        rw [UInt32.le_iff_toNat_le, next]
        omega
      obtain ⟨after, inside, counted, same⟩ :=
        ih (result ++ [bitChar (byte.toNat.testBit left)]) within'
      refine ⟨after, inside, ?_, ?_⟩
      · rw [counted, next]
        omega
      · have one : bitCount.toNat - emitted.toNat = bitCount.toNat - (emitted.toNat + 1) + 1 := by
          omega
        rw [emitBits, if_pos more, same, next, one, lowBits, List.take_succ_cons, List.append_assoc]
        rfl
    · have full : bitCount.toNat ≤ emitted.toNat := Nat.le_of_not_lt more
      have none_ : bitCount.toNat - emitted.toNat = 0 := by omega
      refine ⟨emitted, within, ?_, ?_⟩
      · omega
      · rw [emitBits, if_neg more, none_, List.take_zero, List.append_nil]

/-- The loop over the bytes emits their bits up to the count and reads no other bytes. -/
theorem emitBytes_eq {bytes : Bytes} {len : UInt32} (size : len.toNat = bytes.length)
    (bitCount : UInt32) (fuel : Nat) {index emitted : UInt32} (result : Bytes)
    (enough : len.toNat < fuel + index.toNat) (near : index ≤ len) (within : emitted ≤ bitCount) :
    emitBytes bytes len bitCount fuel index emitted result =
      some (result ++ (allBits (bytes.drop index.toNat)).take
        (bitCount.toNat - emitted.toNat)) := by
  have inside : index.toNat ≤ len.toNat := near
  induction fuel generalizing index emitted result with
  | zero => omega
  | succ fuel ih =>
    rw [emitBytes]
    split
    · next more =>
      have before : index.toNat < len.toNat := more.1
      have room : emitted.toNat < bitCount.toNat := more.2
      have limit := len.toNat_lt
      have next : (index + 1).toNat = index.toNat + 1 := by
        rw [UInt32.toNat_add]
        exact Nat.mod_eq_of_lt (by simpa using (by omega : index.toNat + 1 < 2 ^ 32))
      have near' : index + 1 ≤ len := by
        rw [UInt32.le_iff_toNat_le, next]
        omega
      have there : index.toNat < bytes.length := by omega
      have read : bytes[index.toNat]? = some bytes[index.toNat] := List.getElem?_eq_getElem there
      obtain ⟨after, inside', counted, emits⟩ :=
        emitBits_eq bytes[index.toNat] bitCount 8 result within
      rw [read, Option.bind_eq_bind, Option.bind_some, emits]
      dsimp only
      rw [ih _ (by omega) near' inside' (by omega), next,
        List.drop_eq_getElem_cons (by omega : index.toNat < bytes.length), allBits, allBits,
        List.flatMap_cons, List.take_append, lowBits_length, counted, List.append_assoc]
      congr 4
      omega
    · next done =>
      have none_ : (allBits (bytes.drop index.toNat)).take (bitCount.toNat - emitted.toNat) = [] := by
        by_cases more : index < len
        · have full : bitCount.toNat ≤ emitted.toNat := Nat.le_of_not_lt fun room => done ⟨more, room⟩
          rw [Nat.sub_eq_zero_of_le full, List.take_zero]
        · have past : len.toNat ≤ index.toNat := Nat.le_of_not_lt more
          rw [List.drop_eq_nil_of_le (by omega), allBits, List.flatMap_nil, List.take_nil]
      rw [none_, List.append_nil]

/-! ## Whole strings -/

/-- The number of bits as it is counted. -/
theorem bitCount_toNat {padding : UInt8} {size : Nat} {len : UInt32} (length : len.toNat = size + 1)
    (some_ : 1 ≤ size) (small : padding.toNat ≤ 7) :
    ((len - 1) * 8 - padding.toUInt32).toNat = (8 * size - padding.toNat) % 2 ^ 32 := by
  have limit := len.toNat_lt
  have data : (len - 1).toNat = size := by
    rw [UInt32.toNat_sub_of_le _ _ (by rw [UInt32.le_iff_toNat_le, length]; exact Nat.le_add_left 1 size),
      length]
    rfl
  have bits : ((len - 1) * 8).toNat = size * 8 % 2 ^ 32 := by
    rw [UInt32.toNat_mul, data]
    rfl
  rw [UInt32.toNat_sub, bits, UInt8.toNat_toUInt32]
  omega

/-- The bits behind the padding: the rest of the first byte and the bits of the others. -/
theorem allBits_drop (first : UInt8) (rest : Bytes) {padding : Nat} (small : padding ≤ 7) :
    (allBits (first :: rest)).drop padding = lowBits first (8 - padding) ++ allBits rest := by
  have eight : 8 = padding + (8 - padding) := by omega
  rw [allBits, List.flatMap_cons, List.drop_append_of_le_length (by rw [lowBits_length]; omega)]
  congr 1
  have behind := lowBits_drop first padding (8 - padding)
  rwa [← eight] at behind

/-- What is emitted is the data bits without the padding, up to the count in 32 bits. -/
theorem duckdbDecodeBit_eq {padding : UInt8} {data : Bytes} {len : UInt32}
    (size : len.toNat = data.length + 1) (some_ : data ≠ []) (small : padding.toNat ≤ 7) :
    duckdbDecodeBit (padding :: data) len =
      some (((allBits data).drop padding.toNat).take
        ((8 * data.length - padding.toNat) % 2 ^ 32)) := by
  cases data with
  | nil => exact absurd rfl some_
  | cons first rest =>
    have limit := len.toNat_lt
    rw [List.length_cons] at size
    have long : ¬ len ≤ 1 := by
      rw [UInt32.le_iff_toNat_le, size]
      exact Nat.not_le_of_lt (by simp)
    have two : (2 : UInt32) ≤ len := by
      rw [UInt32.le_iff_toNat_le, size]
      exact Nat.succ_le_succ (Nat.succ_le_succ (Nat.zero_le _))
    have counted := bitCount_toNat size (Nat.le_add_left 1 rest.length) small
    obtain ⟨after, inside, emitted, emits⟩ := emitBits_eq first
      ((len - 1) * 8 - padding.toUInt32) (8 - padding.toNat) [] (UInt32.zero_le)
    rw [duckdbDecodeBit, if_neg long]
    simp only [List.getElem?_cons_zero, List.getElem?_cons_succ, Option.bind_eq_bind,
      Option.bind_some, emits, List.nil_append]
    rw [emitBytes_eq size _ _ _ (Nat.lt_add_of_pos_right (by decide)) two inside]
    have zero : (0 : UInt32).toNat = 0 := rfl
    have second : (2 : UInt32).toNat = 2 := rfl
    rw [allBits_drop first rest small, List.length_cons, ← counted, List.take_append,
      lowBits_length, second, List.drop_succ_cons, List.drop_succ_cons, List.drop_zero, emitted]
    simp only [zero, Nat.zero_add, Nat.sub_zero]
    congr 3
    omega

/-- The characters are those of the stored bits, one each. -/
structure EmitsBits (padding : UInt8) (data out : Bytes) : Prop where
  /-- One character for every bit that is not padding. -/
  length : out.length = 8 * data.length - padding.toNat
  /-- Each is that of its bit. -/
  bits : ∀ place < out.length, out[place]? = some (bitChar (bitAt data (padding.toNat + place)))

/-- The decoder reads only the string, and it emits exactly the stored bits if and only if they are
fewer than 2^32. -/
theorem duckdbDecodeBit_emits {padding : UInt8} {data : Bytes} {len : UInt32}
    (size : len.toNat = data.length + 1) (some_ : data ≠ []) (small : padding.toNat ≤ 7) :
    ∃ out, duckdbDecodeBit (padding :: data) len = some out ∧
      (EmitsBits padding data out ↔ 8 * data.length - padding.toNat < 2 ^ 32) := by
  have stored : ((allBits data).drop padding.toNat).length = 8 * data.length - padding.toNat := by
    rw [List.length_drop, allBits_length]
  refine ⟨_, duckdbDecodeBit_eq size some_ small, ?_⟩
  constructor
  · intro emits
    have length := emits.length
    rw [List.length_take, stored] at length
    have below := Nat.mod_lt (8 * data.length - padding.toNat) (by decide : 2 ^ 32 > 0)
    omega
  · intro few
    rw [Nat.mod_eq_of_lt few, ← stored, List.take_length]
    refine ⟨stored, ?_⟩
    intro place inside
    rw [stored] at inside
    rw [List.getElem?_drop]
    exact allBits_get (by omega)

/-- The thirteen bits of a BIT with three bits of padding are all emitted. -/
theorem duckdbDecodeBit_emits_short :
    ∃ out, duckdbDecodeBit [3, 0xF5, 0x0F] 3 = some out ∧
      (EmitsBits 3 [0xF5, 0x0F] out ↔ 8 * 2 - 3 < 2 ^ 32) :=
  @duckdbDecodeBit_emits 3 [0xF5, 0x0F] 3 rfl (List.cons_ne_nil _ _) (by decide)

example : duckdbDecodeBit [3, 0xF5, 0x0F] 3 = some (lit "1010100001111") := by decide

/-- The length of 2^29 data bytes and the padding byte. -/
def longLength : UInt32 := 536870913

/-- Of 2^32 zero bits none is emitted. -/
theorem duckdbDecodeBit_long :
    duckdbDecodeBit (0 :: List.replicate (2 ^ 29) 0) longLength = some [] ∧
      ¬ EmitsBits 0 (List.replicate (2 ^ 29) 0) [] := by
  have size : longLength.toNat = (List.replicate (2 ^ 29) (0 : UInt8)).length + 1 := by
    rw [List.length_replicate]
    rfl
  have some_ : List.replicate (2 ^ 29) (0 : UInt8) ≠ [] := by
    rw [Ne, List.replicate_eq_nil_iff]
    decide
  have none_ : (8 * 2 ^ 29 - (0 : UInt8).toNat) % 2 ^ 32 = 0 := by decide
  constructor
  · rw [duckdbDecodeBit_eq size some_ (by decide), List.length_replicate, none_, List.take_zero]
  · intro emits
    have length := emits.length
    rw [List.length_replicate] at length
    exact absurd length (by decide)

end PhpDuckdb.Decode
