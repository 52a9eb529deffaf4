import Mathlib.Data.Nat.Bitwise
import PhpDuckdb.Decode.Integers

/-!
# BIGNUM

A stored BIGNUM is a header of three bytes, with the sign and the number of magnitude bytes, and the
magnitude, the highest byte first; a negative one is complemented throughout. The decoder checks the
header, converts the magnitude to base 10^9 in place, and writes the numeral from its end into a
buffer of the computed size.
-/

namespace PhpDuckdb.Decode

open Numerals SqlText Value

/-! ## What is stored -/

/-- `magnitude_byte`: the bytes of a negative number are stored complemented. -/
def magnitudeByte (negative : Bool) (byte : UInt8) : UInt8 := if negative then ~~~byte else byte

/-- The stored bytes of a sign and a magnitude. -/
def storedBignum (negative : Bool) (magnitude : Bytes) : Bytes :=
  ([UInt8.ofNat (128 + magnitude.length / 65536), UInt8.ofNat (magnitude.length / 256 % 256),
    UInt8.ofNat (magnitude.length % 256)] ++ magnitude).map (magnitudeByte negative)

/-- A sign and a magnitude have one spelling: no zero in front of other bytes and no negative
zero, and the length fits the header. -/
structure CanonicalBignum (negative : Bool) (magnitude : Bytes) : Prop where
  /-- There is a byte. -/
  nonempty : 1 ≤ magnitude.length
  /-- The length has 23 bits. -/
  short : magnitude.length ≤ 8388607
  /-- Zero is a single byte. -/
  leading : 1 < magnitude.length → magnitude.head? ≠ some 0
  /-- Zero is not negative. -/
  zero : negative = true → magnitude ≠ [0]

/-- The number of bytes, the highest first. -/
def bigEndian (bytes : Bytes) : Nat := bytes.foldl (fun total byte => total * 256 + byte.toNat) 0

/-- The integer of a sign and a magnitude. -/
def bignumValue (negative : Bool) (magnitude : Bytes) : Int :=
  if negative then -(bigEndian magnitude : Int) else bigEndian magnitude

/-! ## The header -/

/-- The header check of `duckdb_decode_bignum`: the sign, and the bytes after the header. -/
def decodeHeader (data : Bytes) : Except String (Bool × Bytes) :=
  match data with
  | first :: second :: third :: lead :: others =>
    let payload := others.length + 1
    if 8388607 < payload then .error "Invalid BIGNUM storage length"
    else
      let negative : Bool := first &&& 0x80 = 0
      let declared : UInt32 := (magnitudeByte negative first &&& 0x7f).toUInt32 <<< 16 |||
        (magnitudeByte negative second).toUInt32 <<< 8 ||| (magnitudeByte negative third).toUInt32
      if declared.toNat ≠ payload ∨ (1 < payload ∧ magnitudeByte negative lead = 0) ∨
          (negative ∧ payload = 1 ∧ magnitudeByte negative lead = 0) then
        .error "Invalid BIGNUM header or noncanonical payload"
      else .ok (negative, lead :: others)
  | _ => .error "Invalid BIGNUM storage length"

/-- The header check of the VARIANT decoder's `bignum`: the sign, and the magnitude. -/
def variantBignum (bytes : Bytes) : Except String (Bool × Bytes) :=
  match bytes with
  | first :: second :: third :: lead :: others =>
    let size := others.length + 4
    if 0x7fffff < size - 3 then .error "Invalid VARIANT BIGNUM length"
    else
      let negative : Bool := ¬first &&& 128 ≠ 0
      let declared : UInt64 := (magnitudeByte negative first &&& 127).toUInt64 <<< 16 |||
        (magnitudeByte negative second).toUInt64 <<< 8 ||| (magnitudeByte negative third).toUInt64
      if declared.toNat ≠ size - 3 ∨ (1 < declared ∧ magnitudeByte negative lead = 0) ∨
          (negative ∧ declared = 1 ∧ magnitudeByte negative lead = 0) then
        .error "Invalid VARIANT BIGNUM header"
      else .ok (negative, (lead :: others).map (magnitudeByte negative))
  | _ => .error "Invalid VARIANT BIGNUM length"

/-! ### What it accepts -/

/-- Complementing a byte twice gives it back. -/
@[simp]
theorem magnitudeByte_twice (negative : Bool) (byte : UInt8) :
    magnitudeByte negative (magnitudeByte negative byte) = byte := by
  cases negative with
  | true => exact UInt8.not_not
  | false => rfl

/-- Complementing bytes twice gives them back. -/
@[simp]
theorem magnitudeBytes_twice (negative : Bool) (bytes : Bytes) :
    (bytes.map (magnitudeByte negative)).map (magnitudeByte negative) = bytes := by
  rw [List.map_map]
  calc bytes.map (magnitudeByte negative ∘ magnitudeByte negative)
      = bytes.map id := List.map_congr_left fun byte _ => magnitudeByte_twice negative byte
    _ = bytes := List.map_id bytes

/-- The sign bit of a byte is clear exactly below 128. -/
theorem sign_bit (byte : UInt8) : byte &&& 0x80 = 0 ↔ byte.toNat < 128 := by
  have bound := byte.toNat_lt
  have bit : (byte &&& 0x80).toNat = byte.toNat / 128 % 2 * 128 := by
    rw [UInt8.toNat_and]
    show byte.toNat &&& 2 ^ 7 = _
    rw [Nat.and_two_pow, Nat.testBit_eq_decide_div_mod_eq]
    show (decide (byte.toNat / 128 % 2 = 1)).toNat * 128 = _
    by_cases odd : byte.toNat / 128 % 2 = 1
    · rw [decide_eq_true odd, odd]
      rfl
    · have even : byte.toNat / 128 % 2 = 0 := by omega
      rw [decide_eq_false odd, even]
      rfl
  rw [← UInt8.toNat_inj, bit]
  show _ = 0 ↔ _
  omega

/-- The bits below the sign bit are the remainder by 128. -/
theorem below_sign (byte : UInt8) : (byte &&& 0x7f).toNat = byte.toNat % 128 := by
  rw [UInt8.toNat_and]
  exact Nat.and_two_pow_sub_one_eq_mod byte.toNat 7

/-- A byte complemented when its sign bit is clear has it set. -/
theorem magnitude_sign (byte : UInt8) : 128 ≤ (magnitudeByte (byte &&& 0x80 = 0) byte).toNat := by
  have sign := sign_bit byte
  by_cases clear : byte &&& 0x80 = 0
  · rw [decide_eq_true clear, magnitudeByte, if_pos rfl, UInt8.toNat_not]
    show 128 ≤ 255 - byte.toNat
    have small := sign.mp clear
    omega
  · rw [decide_eq_false clear, magnitudeByte, if_neg Bool.false_ne_true]
    exact Nat.le_of_not_lt (mt sign.mpr clear)

/-- The sign bit of a complemented byte whose sign bit is set tells the sign. -/
theorem sign_recovered (negative : Bool) {byte : UInt8} (set : 128 ≤ byte.toNat) :
    decide (magnitudeByte negative byte &&& 0x80 = 0) = negative := by
  cases negative with
  | true =>
    apply decide_eq_true
    rw [sign_bit, magnitudeByte, if_pos rfl, UInt8.toNat_not]
    show 255 - byte.toNat < 128
    omega
  | false =>
    apply decide_eq_false
    rw [sign_bit, magnitudeByte, if_neg Bool.false_ne_true]
    exact Nat.not_lt.mpr set

/-- The length that a header declares is its three bytes without the sign bit. -/
theorem declared_toNat (first second third : UInt8) :
    ((first &&& 0x7f).toUInt32 <<< 16 ||| second.toUInt32 <<< 8 ||| third.toUInt32).toNat =
      first.toNat % 128 * 65536 + second.toNat * 256 + third.toNat := by
  have one : (first &&& 0x7f).toUInt32.toNat = first.toNat % 128 := by
    rw [UInt8.toNat_toUInt32, below_sign]
  have small : (first &&& 0x7f).toUInt32.toNat < 256 := by
    rw [one]
    omega
  have middle : second.toUInt32.toNat < 256 := second.toNat_lt
  have low : third.toUInt32.toNat < 256 := third.toNat_lt
  rw [three_toNat small middle low, one]
  rfl

/-- The length that the header of a sign declares. -/
def declaredLength (negative : Bool) (first second third : UInt8) : Nat :=
  (magnitudeByte negative first).toNat % 128 * 65536 +
    (magnitudeByte negative second).toNat * 256 + (magnitudeByte negative third).toNat

/-- The header is checked against the number of bytes behind it. -/
theorem decodeHeader_cons (first second third lead : UInt8) (others : Bytes) :
    decodeHeader (first :: second :: third :: lead :: others) =
      if 8388607 < others.length + 1 then .error "Invalid BIGNUM storage length"
      else if declaredLength (first &&& 0x80 = 0) first second third ≠ others.length + 1 ∨
          (1 < others.length + 1 ∧ magnitudeByte (first &&& 0x80 = 0) lead = 0) ∨
          (decide (first &&& 0x80 = 0) = true ∧ others.length + 1 = 1 ∧
            magnitudeByte (first &&& 0x80 = 0) lead = 0) then
        .error "Invalid BIGNUM header or noncanonical payload"
      else .ok (first &&& 0x80 = 0, lead :: others) := by
  unfold decodeHeader declaredLength
  simp only [declared_toNat]

/-- The header bytes of a length are those that declare it. -/
theorem header_declares {first second third : UInt8} (set : 128 ≤ first.toNat) {length : Nat}
    (short : length ≤ 8388607) :
    first.toNat % 128 * 65536 + second.toNat * 256 + third.toNat = length ↔
      UInt8.ofNat (128 + length / 65536) = first ∧ UInt8.ofNat (length / 256 % 256) = second ∧
        UInt8.ofNat (length % 256) = third := by
  have one := first.toNat_lt
  have two := second.toNat_lt
  have three := third.toNat_lt
  rw [← UInt8.toNat_inj, ← UInt8.toNat_inj, ← UInt8.toNat_inj, UInt8.toNat_ofNat',
    UInt8.toNat_ofNat', UInt8.toNat_ofNat']
  omega

/-- A payload of at least one byte is canonical when its first magnitude byte is not a zero that is
one too many or negative. -/
theorem canonical_payload (negative : Bool) (lead : UInt8) (others : Bytes) :
    CanonicalBignum negative (lead :: others) ↔ others.length + 1 ≤ 8388607 ∧
      ¬(1 < others.length + 1 ∧ lead = 0) ∧
      ¬(negative = true ∧ others.length + 1 = 1 ∧ lead = 0) := by
  constructor
  · intro canonical
    refine ⟨canonical.short, ?_, ?_⟩
    · intro several
      exact canonical.leading several.1 (congrArg some several.2)
    · intro zero
      have none : others = [] := List.length_eq_zero_iff.mp (Nat.succ.inj zero.2.1)
      apply canonical.zero zero.1
      rw [none, zero.2.2]
  · intro ⟨short, leading, zero⟩
    refine ⟨Nat.succ_pos _, short, ?_, ?_⟩
    · intro several first
      exact leading ⟨several, Option.some.inj first⟩
    · intro minus single
      obtain ⟨same, none⟩ := List.cons.inj single
      exact zero ⟨minus, by rw [none]; rfl, same⟩

/-- The header check accepts exactly the stored bytes of canonical magnitudes. -/
theorem decodeHeader_accepts (data payload : Bytes) (negative : Bool) :
    decodeHeader data = .ok (negative, payload) ↔
      CanonicalBignum negative (payload.map (magnitudeByte negative)) ∧
        data = storedBignum negative (payload.map (magnitudeByte negative)) := by
  constructor
  · intro accepted
    match data, accepted with
    | first :: second :: third :: lead :: others, accepted =>
      rw [decodeHeader_cons] at accepted
      by_cases long : 8388607 < others.length + 1
      · rw [if_pos long] at accepted
        cases accepted
      · rw [if_neg long] at accepted
        split at accepted
        · cases accepted
        · rename_i fine
          obtain ⟨same, rest⟩ := Prod.mk.inj (Except.ok.inj accepted)
          rw [same] at fine
          subst rest
          have declared := Decidable.not_not.mp fun wrong => fine (Or.inl wrong)
          have leading := fun several => fine (Or.inr (Or.inl several))
          have zero := fun minus => fine (Or.inr (Or.inr minus))
          have set := magnitude_sign first
          rw [same] at set
          have length : (List.map (magnitudeByte negative) (lead :: others)).length =
              others.length + 1 := List.length_map _
          obtain ⟨one, two, three⟩ := (header_declares set (Nat.le_of_not_lt long)).mp declared
          apply And.intro
          · rw [List.map_cons, canonical_payload, List.length_map]
            exact ⟨Nat.le_of_not_lt long, leading, zero⟩
          · rw [storedBignum, length, one, two, three, List.map_append, magnitudeBytes_twice]
            show _ = magnitudeByte negative (magnitudeByte negative first) ::
              magnitudeByte negative (magnitudeByte negative second) ::
              magnitudeByte negative (magnitudeByte negative third) :: lead :: others
            rw [magnitudeByte_twice, magnitudeByte_twice, magnitudeByte_twice]
  · intro ⟨canonical, stored⟩
    cases payload with
    | nil => exact absurd canonical.nonempty (Nat.not_succ_le_zero 0)
    | cons lead others =>
      have length : (List.map (magnitudeByte negative) (lead :: others)).length =
          others.length + 1 := List.length_map _
      rw [List.map_cons, canonical_payload, List.length_map] at canonical
      obtain ⟨short, leading, zero⟩ := canonical
      -- The header bytes, complemented as they are stored.
      have declares := @header_declares (UInt8.ofNat (128 + (others.length + 1) / 65536))
        (UInt8.ofNat ((others.length + 1) / 256 % 256)) (UInt8.ofNat ((others.length + 1) % 256))
        (by rw [UInt8.toNat_ofNat']; omega) _ short
      have set : 128 ≤ (UInt8.ofNat (128 + (others.length + 1) / 65536)).toNat := by
        rw [UInt8.toNat_ofNat']
        omega
      have sign := sign_recovered negative set
      have declared := declares.mpr ⟨rfl, rfl, rfl⟩
      rw [stored, storedBignum, length, List.map_append, magnitudeBytes_twice]
      show decodeHeader (magnitudeByte negative (UInt8.ofNat (128 + (others.length + 1) / 65536)) ::
        magnitudeByte negative (UInt8.ofNat ((others.length + 1) / 256 % 256)) ::
        magnitudeByte negative (UInt8.ofNat ((others.length + 1) % 256)) :: lead :: others) = _
      rw [decodeHeader_cons, if_neg (Nat.not_lt.mpr short), sign, declaredLength,
        magnitudeByte_twice, magnitudeByte_twice, magnitudeByte_twice, declared, if_neg]
      intro bad
      rcases bad with wrong | several | minus
      · exact wrong rfl
      · exact leading several
      · exact zero minus

/-- The length that a VARIANT header declares is its three bytes without the sign bit. -/
theorem variantDeclared_toNat (first second third : UInt8) :
    ((first &&& 127).toUInt64 <<< 16 ||| second.toUInt64 <<< 8 ||| third.toUInt64).toNat =
      first.toNat % 128 * 65536 + second.toNat * 256 + third.toNat := by
  have one : (first &&& 127).toUInt64.toNat = first.toNat % 128 := by
    rw [UInt8.toNat_toUInt64]
    exact below_sign first
  have bound := second.toNat_lt
  have last := third.toNat_lt
  have high : ((first &&& 127).toUInt64 <<< 16).toNat = first.toNat % 128 * 2 ^ 16 := by
    rw [UInt64.toNat_shiftLeft, one]
    show (first.toNat % 128) <<< 16 % 2 ^ 64 = _
    rw [Nat.shiftLeft_eq]
    omega
  have middle : (second.toUInt64 <<< 8).toNat = second.toNat * 2 ^ 8 := by
    rw [UInt64.toNat_shiftLeft, UInt8.toNat_toUInt64]
    show second.toNat <<< 8 % 2 ^ 64 = _
    rw [Nat.shiftLeft_eq]
    omega
  have above : first.toNat % 128 * 2 ^ 16 ||| second.toNat * 2 ^ 8 =
      (first.toNat % 128 * 256 + second.toNat) * 2 ^ 8 := by
    rw [lor_low (show second.toNat * 256 < 65536 by omega)]
    omega
  rw [UInt64.toNat_or, UInt64.toNat_or, high, middle, above, UInt8.toNat_toUInt64,
    lor_low (show third.toNat < 256 by omega)]
  omega

/-- The VARIANT decoder compares the declared length with the number of bytes. -/
theorem variantBignum_cons (first second third lead : UInt8) (others : Bytes) :
    variantBignum (first :: second :: third :: lead :: others) =
      if 8388607 < others.length + 1 then .error "Invalid VARIANT BIGNUM length"
      else if declaredLength (first &&& 0x80 = 0) first second third ≠ others.length + 1 ∨
          (1 < others.length + 1 ∧ magnitudeByte (first &&& 0x80 = 0) lead = 0) ∨
          (decide (first &&& 0x80 = 0) = true ∧ others.length + 1 = 1 ∧
            magnitudeByte (first &&& 0x80 = 0) lead = 0) then
        .error "Invalid VARIANT BIGNUM header"
      else .ok (first &&& 0x80 = 0,
        (lead :: others).map (magnitudeByte (first &&& 0x80 = 0))) := by
  have sign : decide (¬first &&& 128 ≠ 0) = decide (first &&& 0x80 = 0) :=
    decide_eq_decide.mpr not_ne_iff
  have declared := variantDeclared_toNat (magnitudeByte (first &&& 0x80 = 0) first)
    (magnitudeByte (first &&& 0x80 = 0) second) (magnitudeByte (first &&& 0x80 = 0) third)
  unfold variantBignum
  simp only [sign]
  generalize (magnitudeByte (first &&& 0x80 = 0) first &&& 127).toUInt64 <<< 16 |||
    (magnitudeByte (first &&& 0x80 = 0) second).toUInt64 <<< 8 |||
    (magnitudeByte (first &&& 0x80 = 0) third).toUInt64 = word at declared ⊢
  rw [← declaredLength] at declared
  have several : 1 < word ↔ 1 < word.toNat := UInt64.lt_iff_toNat_lt
  have single : word = 1 ↔ word.toNat = 1 := UInt64.toNat_inj.symm
  have size : others.length + 4 - 3 = others.length + 1 := rfl
  rw [size]
  by_cases long : 8388607 < others.length + 1
  · rw [if_pos long, if_pos long]
  · -- The payload is compared where the other check compares the declared length.
    rw [if_neg long, if_neg long]
    by_cases equal : declaredLength (first &&& 0x80 = 0) first second third = others.length + 1
    · simp only [several, single, declared, equal]
    · rw [if_pos (Or.inl (declared ▸ equal)), if_pos (Or.inl equal)]

/-- The VARIANT decoder's check gives the sign and the magnitude of what the other one accepts, and
accepts nothing else. -/
theorem variantBignum_accepts (bytes magnitude : Bytes) (negative : Bool) :
    variantBignum bytes = .ok (negative, magnitude) ↔
      decodeHeader bytes = .ok (negative, magnitude.map (magnitudeByte negative)) := by
  match bytes with
  | [] => exact iff_of_false nofun nofun
  | [_] => exact iff_of_false nofun nofun
  | [_, _] => exact iff_of_false nofun nofun
  | [_, _, _] => exact iff_of_false nofun nofun
  | first :: second :: third :: lead :: others =>
    rw [variantBignum_cons, decodeHeader_cons]
    by_cases long : 8388607 < others.length + 1
    · rw [if_pos long, if_pos long]
      exact iff_of_false nofun nofun
    · rw [if_neg long, if_neg long]
      split
      · exact iff_of_false nofun nofun
      · constructor
        · intro accepted
          obtain ⟨same, rest⟩ := Prod.mk.inj (Except.ok.inj accepted)
          rw [← rest, same, magnitudeBytes_twice]
        · intro accepted
          obtain ⟨same, rest⟩ := Prod.mk.inj (Except.ok.inj accepted)
          rw [rest, same, magnitudeBytes_twice]

/-! ## The conversion -/

/-- The byte at an offset of the padded magnitude: zero in the padding, and nothing past the
payload. -/
def paddedByte (negative : Bool) (payload : Bytes) (padding offset : Nat) : Option UInt32 :=
  if padding ≤ offset then
    payload[offset - padding]?.map fun byte => (magnitudeByte negative byte).toUInt32
  else some 0

/-- The word at an offset of the padded magnitude. -/
def paddedWord (negative : Bool) (payload : Bytes) (padding i : Nat) : Option UInt32 := do
  let first ← paddedByte negative payload padding i
  let second ← paddedByte negative payload padding (i + 1)
  let third ← paddedByte negative payload padding (i + 2)
  let fourth ← paddedByte negative payload padding (i + 3)
  some (first <<< 24 ||| second <<< 16 ||| third <<< 8 ||| fourth)

/-- The quotient of a limb and a carry by 10^9. -/
def limbCarry (digit hi : UInt32) : UInt32 :=
  ((digit.toUInt64 <<< 32 ||| hi.toUInt64) / 1000000000).toUInt32

/-- The remainder of a limb and a carry by 10^9, which stays in the limb. -/
def limbRest (digit hi : UInt32) : UInt32 :=
  ((digit.toUInt64 <<< 32 ||| hi.toUInt64) - 1000000000 * (limbCarry digit hi).toUInt64).toUInt32

/-- Multiply the limbs by 2^32 and add the carry: the loop over `digits`. -/
def multiplyLimbs : List UInt32 → UInt32 → List UInt32 × UInt32
  | [], hi => ([], hi)
  | digit :: higher, hi =>
    let above := multiplyLimbs higher (limbCarry digit hi)
    (limbRest digit hi :: above.1, above.2)

/-- A carry that is not zero shrinks. -/
theorem carry_shrinks {hi : UInt32} (some : hi ≠ 0) : (hi / 1000000000).toNat < hi.toNat := by
  have positive : hi.toNat ≠ 0 := fun none => some (UInt32.toNat_inj.mp none)
  rw [UInt32.toNat_div]
  exact Nat.div_lt_self (Nat.pos_of_ne_zero positive) (by decide)

/-- The limbs of what is left of the carry: `while (hi)`. -/
def carryLimbs (hi : UInt32) : List UInt32 :=
  if hi = 0 then [] else hi % 1000000000 :: carryLimbs (hi / 1000000000)
termination_by hi.toNat
decreasing_by exact carry_shrinks ‹_›

/-- Multiply the limbs by 2^32, add a word and append the limbs of what is carried out. -/
def multiplyWord (digits : List UInt32) (hi : UInt32) : List UInt32 :=
  let multiplied := multiplyLimbs digits hi
  multiplied.1 ++ carryLimbs multiplied.2

/-- The limbs after the first words; nothing when a read left the payload. -/
def convert (negative : Bool) (payload : Bytes) (padding : Nat) : Nat → Option (List UInt32)
  | 0 => some []
  | read + 1 => do
    let digits ← convert negative payload padding read
    let hi ← paddedWord negative payload padding (4 * read)
    some (multiplyWord digits hi)

/-! ### What it computes -/

/-- The magnitude with zeros in front, so that it is made of whole words. -/
def padded (negative : Bool) (payload : Bytes) (padding : Nat) : Bytes :=
  List.replicate padding 0 ++ payload.map (magnitudeByte negative)

/-- A number of bytes from those of its parts. -/
theorem bigEndian_append (first second : Bytes) :
    bigEndian (first ++ second) = bigEndian first * 256 ^ second.length + bigEndian second := by
  unfold bigEndian
  exact foldl_append 256 UInt8.toNat first second

/-- Zeros in front of the magnitude do not change the number. -/
theorem bigEndian_padded (negative : Bool) (payload : Bytes) (padding : Nat) :
    bigEndian (padded negative payload padding) =
      bigEndian (payload.map (magnitudeByte negative)) := by
  have zeros : ∀ count, bigEndian (List.replicate count 0) = 0 := by
    intro count
    induction count with
    | zero => rfl
    | succ count ih =>
      rw [List.replicate_succ', bigEndian_append, ih, Nat.zero_mul]
      rfl
  rw [padded, bigEndian_append, zeros, Nat.zero_mul, Nat.zero_add]

/-- The number that some bytes spell is below the power of 256 of their count. -/
theorem bigEndian_fits (bytes : Bytes) : bigEndian bytes < 256 ^ bytes.length := by
  induction bytes using List.reverseRecOn with
  | nil => exact Nat.one_pos
  | append_singleton earlier byte ih =>
    have small := byte.toNat_lt
    have last : bigEndian [byte] = byte.toNat := by
      show 0 * 256 + byte.toNat = _
      omega
    rw [bigEndian_append, last, List.length_append, Nat.pow_add]
    show bigEndian earlier * 256 + byte.toNat < 256 ^ earlier.length * 256
    omega

/-- A byte of the padded magnitude is read where it is. -/
theorem paddedByte_reads {negative : Bool} {payload : Bytes} {padding offset : Nat}
    (inside : offset < (padded negative payload padding).length) :
    paddedByte negative payload padding offset =
      some (padded negative payload padding)[offset].toUInt32 := by
  have total : (padded negative payload padding).length = padding + payload.length := by
    rw [padded, List.length_append, List.length_replicate, List.length_map]
  have read : (padded negative payload padding)[offset]? =
      some (padded negative payload padding)[offset] := List.getElem?_eq_getElem inside
  generalize (padded negative payload padding)[offset] = byte at read ⊢
  by_cases after : padding ≤ offset
  · rw [padded, List.getElem?_append_right (by rwa [List.length_replicate]),
      List.length_replicate, List.getElem?_map] at read
    rw [paddedByte, if_pos after]
    cases found : payload[offset - padding]? with
    | none =>
      rw [found] at read
      cases read
    | some stored =>
      rw [found] at read
      rw [← Option.some.inj read]
      rfl
  · have before : offset < padding := Nat.lt_of_not_le after
    rw [padded, List.getElem?_append_left (by rwa [List.length_replicate]),
      List.getElem?_replicate_of_lt before] at read
    rw [paddedByte, if_neg after, ← Option.some.inj read]
    rfl

/-- Four more bytes of a number are a word more. -/
theorem bigEndian_word {bytes : Bytes} {i : Nat} (inside : i + 3 < bytes.length) :
    bigEndian (bytes.take (i + 4)) = bigEndian (bytes.take i) * 2 ^ 32 +
      (bytes[i].toUInt32 <<< 24 ||| bytes[i + 1].toUInt32 <<< 16 |||
        bytes[i + 2].toUInt32 <<< 8 ||| bytes[i + 3].toUInt32).toNat := by
  have one : bytes[i].toUInt32.toNat < 256 := UInt8.toNat_lt _
  have two : bytes[i + 1].toUInt32.toNat < 256 := UInt8.toNat_lt _
  have three : bytes[i + 2].toUInt32.toNat < 256 := UInt8.toNat_lt _
  have four : bytes[i + 3].toUInt32.toNat < 256 := UInt8.toNat_lt _
  have next : ∀ count (below : count < bytes.length), bigEndian (bytes.take (count + 1)) =
      bigEndian (bytes.take count) * 256 + bytes[count].toUInt32.toNat := by
    intro count below
    have single : bigEndian [bytes[count]] = bytes[count].toNat := by
      show 0 * 256 + bytes[count].toNat = _
      rw [Nat.zero_mul, Nat.zero_add]
    rw [List.take_succ_eq_append_getElem below, bigEndian_append, single]
    rfl
  rw [four_toNat one two three four, next (i + 3) inside, next (i + 2) (by omega),
    next (i + 1) (by omega), next i (by omega)]
  omega

/-- A word of the padded magnitude is read where it is. -/
theorem paddedWord_reads {negative : Bool} {payload : Bytes} {padding i : Nat}
    (inside : i + 3 < (padded negative payload padding).length) :
    ∃ word, paddedWord negative payload padding i = some word ∧
      bigEndian ((padded negative payload padding).take (i + 4)) =
        bigEndian ((padded negative payload padding).take i) * 2 ^ 32 + word.toNat := by
  have first := paddedByte_reads (show i < (padded negative payload padding).length by omega)
  have second := paddedByte_reads (show i + 1 < (padded negative payload padding).length by omega)
  have third := paddedByte_reads (show i + 2 < (padded negative payload padding).length by omega)
  have fourth := paddedByte_reads inside
  refine ⟨_, ?_, bigEndian_word inside⟩
  rw [paddedWord, first, second, third, fourth]
  rfl

/-- The 64-bit word of a limb and a carry holds their number exactly. -/
theorem wide_exact (digit hi : UInt32) :
    (digit.toUInt64 <<< 32 ||| hi.toUInt64).toNat = digit.toNat * 2 ^ 32 + hi.toNat := by
  have below : digit.toUInt64.toNat < 2 ^ 32 := digit.toNat_lt
  exact joined_toNat below hi

/-- The base of the limbs is the ninth power of ten. -/
theorem limbBase_toNat : (1000000000 : UInt64).toNat = 10 ^ 9 := by decide

/-- The carry of a limb is the quotient of the exact number. -/
theorem limbCarry_exact (hi : UInt32) {digit : UInt32} (small : digit.toNat < 10 ^ 9) :
    (limbCarry digit hi).toNat = (digit.toNat * 2 ^ 32 + hi.toNat) / 10 ^ 9 := by
  rw [limbCarry, UInt64.toNat_toUInt32, UInt64.toNat_div, wide_exact, limbBase_toNat]
  exact Nat.mod_eq_of_lt (carry_fits small hi.toNat_lt)

/-- The product that is taken from the word is exact and not larger than it. -/
theorem limbProduct_exact (hi : UInt32) {digit : UInt32} (small : digit.toNat < 10 ^ 9) :
    ((1000000000 : UInt64) * (limbCarry digit hi).toUInt64).toNat =
      10 ^ 9 * ((digit.toNat * 2 ^ 32 + hi.toNat) / 10 ^ 9) := by
  have carry := limbCarry_exact hi small
  have bound := hi.toNat_lt
  rw [UInt64.toNat_mul, UInt32.toNat_toUInt64, carry, limbBase_toNat]
  apply Nat.mod_eq_of_lt
  omega

/-- What is left of a limb is the remainder of the exact number. -/
theorem limbRest_exact (hi : UInt32) {digit : UInt32} (small : digit.toNat < 10 ^ 9) :
    (limbRest digit hi).toNat = (digit.toNat * 2 ^ 32 + hi.toNat) % 10 ^ 9 := by
  have wide := wide_exact digit hi
  have product := limbProduct_exact hi small
  have below : (1000000000 : UInt64) * (limbCarry digit hi).toUInt64 ≤
      digit.toUInt64 <<< 32 ||| hi.toUInt64 := by
    rw [UInt64.le_iff_toNat_le, product, wide]
    omega
  rw [limbRest, UInt64.toNat_toUInt32, UInt64.toNat_sub_of_le _ _ below, product, wide]
  omega

/-- The loop over the limbs is one pass of a multiplication. -/
theorem multiplyLimbs_mulAdd {digits : List UInt32} (hi : UInt32)
    (small : ∀ digit ∈ digits, digit.toNat < 10 ^ 9) :
    (multiplyLimbs digits hi).1.map UInt32.toNat =
        (mulAdd (10 ^ 9) (2 ^ 32) (digits.map UInt32.toNat) hi.toNat).1 ∧
      (multiplyLimbs digits hi).2.toNat =
        (mulAdd (10 ^ 9) (2 ^ 32) (digits.map UInt32.toNat) hi.toNat).2 := by
  induction digits generalizing hi with
  | nil => exact ⟨rfl, rfl⟩
  | cons digit higher ih =>
    have first := small digit List.mem_cons_self
    have above := ih (limbCarry digit hi) fun other inside =>
      small other (List.mem_cons_of_mem _ inside)
    have carry := limbCarry_exact hi first
    have rest := limbRest_exact hi first
    rw [carry] at above
    rw [multiplyLimbs, List.map_cons, List.map_cons, mulAdd_cons]
    apply And.intro
    · rw [rest, above.1]
    · rw [above.2]

/-- The limbs of a carry are its digits. -/
theorem carryLimbs_digits (hi : UInt32) :
    (carryLimbs hi).map UInt32.toNat = Nat.digits (10 ^ 9) hi.toNat := by
  induction hi using carryLimbs.induct with
  | case1 =>
    rw [carryLimbs, if_pos rfl, UInt32.toNat_zero, Nat.digits_zero]
    rfl
  | case2 hi some ih =>
    have positive : hi.toNat ≠ 0 := fun none => some (UInt32.toNat_inj.mp none)
    have rest : (hi % 1000000000).toNat = hi.toNat % 10 ^ 9 := UInt32.toNat_mod _ _
    have next : (hi / 1000000000).toNat = hi.toNat / 10 ^ 9 := UInt32.toNat_div _ _
    rw [carryLimbs, if_neg some, List.map_cons, rest, ih, next]
    exact (Nat.digits_def' (by decide) (Nat.pos_of_ne_zero positive)).symm

/-- Multiplying in a word gives the digits of the number times 2^32 plus the word. -/
theorem multiplyWord_digits {digits : List UInt32} {number : Nat}
    (stand : digits.map UInt32.toNat = Nat.digits (10 ^ 9) number) (hi : UInt32) :
    (multiplyWord digits hi).map UInt32.toNat =
      Nat.digits (10 ^ 9) (number * 2 ^ 32 + hi.toNat) := by
  have small : ∀ digit ∈ digits, digit.toNat < 10 ^ 9 := by
    intro digit inside
    apply Nat.digits_lt_base (b := 10 ^ 9) (m := number) (by decide)
    rw [← stand]
    exact List.mem_map_of_mem inside
  obtain ⟨lower, carry⟩ := multiplyLimbs_mulAdd hi small
  have value := mulAdd_value (10 ^ 9) (2 ^ 32) (digits.map UInt32.toNat) hi.toNat
  have length := mulAdd_length (10 ^ 9) (2 ^ 32) (digits.map UInt32.toNat) hi.toNat
  rw [multiplyWord, List.map_append, lower, carryLimbs_digits, carry]
  rw [stand] at value length ⊢
  rw [Nat.ofDigits_digits] at value
  have total : Nat.ofDigits (10 ^ 9)
      ((mulAdd (10 ^ 9) (2 ^ 32) (Nat.digits (10 ^ 9) number) hi.toNat).1 ++
        Nat.digits (10 ^ 9) (mulAdd (10 ^ 9) (2 ^ 32) (Nat.digits (10 ^ 9) number) hi.toNat).2) =
      number * 2 ^ 32 + hi.toNat := by
    rw [Nat.ofDigits_append, Nat.ofDigits_digits, length]
    exact value
  rw [← total]
  symm
  apply Nat.digits_ofDigits (10 ^ 9) (by decide)
  · intro digit inside
    cases List.mem_append.mp inside with
    | inl low => exact mulAdd_digits (by decide) _ _ _ digit low
    | inr high => exact Nat.digits_lt_base (by decide) high
  · -- The top limb is that of the carry, which is zero only if there are no limbs at all.
    intro some
    by_cases none : (mulAdd (10 ^ 9) (2 ^ 32) (Nat.digits (10 ^ 9) number) hi.toNat).2 = 0
    · have zero : number = 0 := by
        apply Decidable.byContradiction
        intro nonzero
        have carries := @mulAdd_carries (10 ^ 9) (2 ^ 32) (by decide) (by decide)
          _ (Nat.digits_ne_nil_iff_ne_zero (b := 10 ^ 9).mpr nonzero)
          (Nat.getLast_digit_ne_zero (10 ^ 9) nonzero) hi.toNat
        omega
      rw [zero, Nat.digits_zero] at none some
      exact absurd (by rw [none, Nat.digits_zero]; rfl) some
    · rw [List.getLast_append_of_ne_nil _ (Nat.digits_ne_nil_iff_ne_zero.mpr none)]
      exact Nat.getLast_digit_ne_zero _ none

/-- After some words the limbs are the digits of the number that those words hold. -/
theorem convert_digits {negative : Bool} {payload : Bytes} {padding read : Nat}
    (inside : 4 * read ≤ (padded negative payload padding).length) :
    ∃ digits, convert negative payload padding read = some digits ∧
      digits.map UInt32.toNat =
        Nat.digits (10 ^ 9) (bigEndian ((padded negative payload padding).take (4 * read))) := by
  induction read with
  | zero => exact ⟨[], rfl, by rw [Nat.mul_zero, List.take_zero]; exact (Nat.digits_zero _).symm⟩
  | succ read ih =>
    obtain ⟨digits, converted, stand⟩ := ih (by omega)
    obtain ⟨word, here, value⟩ :=
      paddedWord_reads (show 4 * read + 3 < (padded negative payload padding).length by omega)
    refine ⟨multiplyWord digits word, ?_, ?_⟩
    · rw [convert, converted, here]
      rfl
    · rw [multiplyWord_digits stand, Nat.mul_succ, value]

/-! ### What holds throughout -/

/-- The number of words of a payload. -/
def paddingOf (payload : Bytes) : Nat := (4 - payload.length % 4) % 4

/-- The states of the conversion's loops: the words read, the limbs that the loop over `digits` has
passed or that have been pushed, those it has still to pass, and the carry. -/
inductive Reached (negative : Bool) (payload : Bytes) :
    Nat → List UInt32 → List UInt32 → UInt32 → Prop
  | start : Reached negative payload 0 [] [] 0
  /-- The next word becomes the carry. -/
  | word {read : Nat} {done : List UInt32} {hi : UInt32} :
    Reached negative payload read done [] 0 →
      paddedWord negative payload (paddingOf payload) (4 * read) = some hi →
      Reached negative payload (read + 1) [] done hi
  /-- A limb is multiplied. -/
  | digit {read : Nat} {done todo : List UInt32} {digit hi : UInt32} :
    Reached negative payload read done (digit :: todo) hi →
      Reached negative payload read (done ++ [limbRest digit hi]) todo (limbCarry digit hi)
  /-- A limb of the carry is pushed. -/
  | push {read : Nat} {done : List UInt32} {hi : UInt32} :
    Reached negative payload read done [] hi → hi ≠ 0 →
      Reached negative payload read (done ++ [hi % 1000000000]) [] (hi / 1000000000)
  /-- Zero gets a limb in the end. -/
  | zero {read : Nat} :
    Reached negative payload read [] [] 0 → Reached negative payload read [0] [] 0

variable {negative : Bool} {payload : Bytes}

/-- The loop over the limbs reaches its end. -/
theorem reached_multiply {read : Nat} {done todo : List UInt32} {hi : UInt32}
    (reached : Reached negative payload read done todo hi) :
    Reached negative payload read (done ++ (multiplyLimbs todo hi).1) []
      (multiplyLimbs todo hi).2 := by
  induction todo generalizing done hi with
  | nil =>
    rw [multiplyLimbs, List.append_nil]
    exact reached
  | cons digit higher ih =>
    have later := ih reached.digit
    rw [List.append_assoc] at later
    exact later

/-- The loop over the carry reaches its end. -/
theorem reached_carry {read : Nat} {done : List UInt32} {hi : UInt32}
    (reached : Reached negative payload read done [] hi) :
    Reached negative payload read (done ++ carryLimbs hi) [] 0 := by
  induction hi using carryLimbs.induct generalizing done with
  | case1 =>
    rw [carryLimbs, if_pos rfl, List.append_nil]
    exact reached
  | case2 hi some ih =>
    have later := ih (reached.push some)
    rw [List.append_assoc] at later
    rw [carryLimbs, if_neg some]
    exact later

/-- The limbs after some words are a reached state. -/
theorem convert_reached {read : Nat} {digits : List UInt32}
    (converted : convert negative payload (paddingOf payload) read = some digits) :
    Reached negative payload read digits [] 0 := by
  induction read generalizing digits with
  | zero =>
    obtain rfl := Option.some.inj converted
    exact .start
  | succ read ih =>
    obtain ⟨earlier, before, rest⟩ := Option.bind_eq_some_iff.mp converted
    obtain ⟨word, here, multiplied⟩ := Option.bind_eq_some_iff.mp rest
    obtain rfl := Option.some.inj multiplied
    have started := Reached.word (ih before) here
    exact reached_carry (reached_multiply started)

/-- A byte that is read is inside the padded magnitude. -/
theorem paddedByte_inside {padding offset : Nat} {byte : UInt32}
    (read : paddedByte negative payload padding offset = some byte) :
    offset < (padded negative payload padding).length := by
  rw [padded, List.length_append, List.length_replicate, List.length_map]
  rw [paddedByte] at read
  split at read
  · obtain ⟨stored, found, -⟩ := Option.map_eq_some_iff.mp read
    have bound := (List.getElem?_eq_some_iff.mp found).1
    omega
  · omega

/-- The number of the first words is not larger than that of the payload. -/
theorem prefix_fits (read : Nat) :
    bigEndian ((padded negative payload (paddingOf payload)).take (4 * read)) <
      256 ^ payload.length := by
  have split := List.take_append_drop (4 * read) (padded negative payload (paddingOf payload))
  have whole := bigEndian_fits (payload.map (magnitudeByte negative))
  rw [← bigEndian_padded negative payload (paddingOf payload), ← split, bigEndian_append,
    List.length_map] at whole
  have grows := Nat.le_mul_of_pos_right
    (bigEndian ((padded negative payload (paddingOf payload)).take (4 * read)))
    (show 0 < 256 ^ ((padded negative payload (paddingOf payload)).drop (4 * read)).length from
      Nat.pow_pos (by decide))
  omega

/-- A number with many limbs has many bytes. -/
theorem limbs_bound {limbs bytes number : Nat} (low : (10 ^ 9) ^ limbs ≤ number)
    (high : number < 256 ^ bytes) : limbs + 1 ≤ (8 * bytes + 28) / 29 := by
  have powers : 2 ^ (29 * limbs) < 2 ^ (8 * bytes) := by
    calc 2 ^ (29 * limbs) = (2 ^ 29) ^ limbs := Nat.pow_mul 2 29 limbs
      _ ≤ (10 ^ 9) ^ limbs := Nat.pow_le_pow_left (by decide) limbs
      _ ≤ number := low
      _ < 256 ^ bytes := high
      _ = 2 ^ (8 * bytes) := (Nat.pow_mul 2 8 bytes).symm
  have exponents := (Nat.pow_lt_pow_iff_right (by decide : 1 < 2)).mp powers
  omega

/-- What holds in every state of the conversion's loops. -/
structure Converting (negative : Bool) (payload : Bytes) (read : Nat) (done todo : List UInt32)
    (hi : UInt32) : Prop where
  /-- Every limb is below 10^9. -/
  small : ∀ digit ∈ done ++ todo, digit.toNat < 10 ^ 9
  /-- The limbs and the carry stand for the number of the words read. -/
  value : Nat.ofDigits (10 ^ 9) (done.map UInt32.toNat) +
      (10 ^ 9) ^ done.length * (Nat.ofDigits (10 ^ 9) (todo.map UInt32.toNat) * 2 ^ 32 + hi.toNat) =
    bigEndian ((padded negative payload (paddingOf payload)).take (4 * read))
  /-- There are no more limbs than reserved. -/
  count : done.length + todo.length ≤ (8 * payload.length + 28) / 29

/-- The invariant of the conversion holds in every state that its loop reaches. -/
theorem Reached.converting (some_ : payload ≠ []) {read : Nat} {done todo : List UInt32}
    {hi : UInt32} (reached : Reached negative payload read done todo hi) :
    Converting negative payload read done todo hi := by
  have bytes := List.length_pos_iff.mpr some_
  induction reached with
  | start => exact ⟨nofun, by simp [bigEndian], Nat.zero_le _⟩
  | @word read done hi _ here ih =>
    obtain ⟨first, -, more⟩ := Option.bind_eq_some_iff.mp here
    obtain ⟨second, -, more⟩ := Option.bind_eq_some_iff.mp more
    obtain ⟨third, -, more⟩ := Option.bind_eq_some_iff.mp more
    obtain ⟨fourth, last, -⟩ := Option.bind_eq_some_iff.mp more
    obtain ⟨word, again, value⟩ := paddedWord_reads (paddedByte_inside last)
    obtain rfl := Option.some.inj (here.symm.trans again)
    have before := ih.value
    refine ⟨?_, ?_, ?_⟩
    · intro digit inside
      exact ih.small digit (List.mem_append_left _ inside)
    · rw [Nat.mul_succ, value, ← before]
      simp
    · have count := ih.count
      rw [List.length_nil] at count ⊢
      omega
  | @digit read done todo digit hi _ ih =>
    have first := ih.small digit (List.mem_append_right _ List.mem_cons_self)
    have rest := limbRest_exact hi first
    have carry := limbCarry_exact hi first
    have split := Nat.mod_add_div (digit.toNat * 2 ^ 32 + hi.toNat) (10 ^ 9)
    have before := ih.value
    refine ⟨?_, ?_, ?_⟩
    · intro other inside
      rw [List.append_assoc, List.mem_append] at inside
      cases inside with
      | inl earlier => exact ih.small other (List.mem_append_left _ earlier)
      | inr later =>
        cases List.mem_cons.mp later with
        | inl here =>
          rw [here, rest]
          exact Nat.mod_lt _ (by decide)
        | inr after =>
          exact ih.small other (List.mem_append_right _ (List.mem_cons_of_mem _ after))
    · rw [← before, List.map_append, List.map_singleton, Nat.ofDigits_append,
        Nat.ofDigits_singleton, List.length_append, List.length_singleton, List.length_map,
        List.map_cons, Nat.ofDigits_cons, rest, carry]
      generalize (digit.toNat * 2 ^ 32 + hi.toNat) / 10 ^ 9 = above at split ⊢
      generalize (digit.toNat * 2 ^ 32 + hi.toNat) % 10 ^ 9 = below at split ⊢
      generalize Nat.ofDigits (10 ^ 9) (todo.map UInt32.toNat) = higher
      have joined : (digit.toNat + 10 ^ 9 * higher) * 2 ^ 32 + hi.toNat =
          below + 10 ^ 9 * (higher * 2 ^ 32 + above) := by omega
      rw [joined]
      ring
    · have count := ih.count
      rw [List.length_cons] at count
      rw [List.length_append, List.length_singleton]
      omega
  | @push read done hi _ some ih =>
    have positive : hi.toNat ≠ 0 := fun none => some (UInt32.toNat_inj.mp none)
    have split := Nat.mod_add_div hi.toNat (10 ^ 9)
    have rest : (hi % 1000000000).toNat = hi.toNat % 10 ^ 9 := UInt32.toNat_mod _ _
    have next : (hi / 1000000000).toNat = hi.toNat / 10 ^ 9 := UInt32.toNat_div _ _
    have before := ih.value
    rw [List.map_nil, Nat.ofDigits_nil, Nat.zero_mul, Nat.zero_add] at before
    refine ⟨?_, ?_, ?_⟩
    · intro other inside
      rw [List.append_nil, List.mem_append, List.mem_singleton] at inside
      cases inside with
      | inl earlier => exact ih.small other (List.mem_append_left _ earlier)
      | inr here =>
        rw [here, rest]
        exact Nat.mod_lt _ (by decide)
    · rw [← before, List.map_append, List.map_singleton, Nat.ofDigits_append,
        Nat.ofDigits_singleton, List.length_append, List.length_singleton, List.length_map,
        List.map_nil, Nat.ofDigits_nil, rest, next]
      generalize hi.toNat / 10 ^ 9 = above at split ⊢
      generalize hi.toNat % 10 ^ 9 = below at split ⊢
      rw [← split]
      ring
    · have low : (10 ^ 9) ^ done.length ≤
          bigEndian ((padded negative payload (paddingOf payload)).take (4 * read)) := by
        rw [← before]
        calc (10 ^ 9) ^ done.length ≤ (10 ^ 9) ^ done.length * hi.toNat :=
              Nat.le_mul_of_pos_right _ (Nat.pos_of_ne_zero positive)
          _ ≤ _ := Nat.le_add_left _ _
      have bound := limbs_bound low (prefix_fits read)
      rw [List.length_append]
      exact bound
  | zero _ ih =>
    refine ⟨?_, ?_, ?_⟩
    · intro digit inside
      rw [List.append_nil, List.mem_singleton] at inside
      rw [inside]
      decide
    · rw [← ih.value]
      simp
    · show 1 + 0 ≤ _
      omega


/-! ## The output -/

/-- The buffer of the result, with what has been written, and the position before which the next
byte goes. -/
structure Output where
  /-- `position`. -/
  position : Nat
  /-- `buffer`, its terminating byte included. -/
  buffer : List (Option UInt8)

/-- `buffer[--position] = byte`; nothing when that is outside the buffer. -/
def Output.write (out : Output) (byte : UInt8) : Option Output :=
  match out.position with
  | 0 => none
  | position + 1 =>
    if position < out.buffer.length then
      some ⟨position, out.buffer.set position (some byte)⟩
    else none

/-- Write the sign of a negative number. -/
def Output.writeSign (negative : Bool) (out : Output) : Option Output :=
  if negative then out.write 45 else some out

/-- Write the last digits of a limb, as many as asked for. -/
def writeDigits : Nat → UInt32 → Output → Option Output
  | 0, _, out => some out
  | count + 1, remain, out => do
    let next ← out.write (48 + (remain % 10).toUInt8)
    writeDigits count (remain / 10) next

/-- A limb of two digits or more loses its last one. -/
theorem limb_shrinks {limb : UInt32} (some : limb / 10 ≠ 0) : (limb / 10).toNat < limb.toNat := by
  have positive : (limb / 10).toNat ≠ 0 := fun none => some (UInt32.toNat_inj.mp none)
  rw [UInt32.toNat_div] at positive ⊢
  apply Nat.div_lt_self _ (by decide)
  apply Nat.pos_of_ne_zero
  intro none
  rw [none] at positive
  exact positive rfl

/-- Write all digits of a limb: `do … while (remain)`. -/
def writeTop (remain : UInt32) (out : Output) : Option Output :=
  (out.write (48 + (remain % 10).toUInt8)).bind fun next =>
    if remain / 10 = 0 then some next else writeTop (remain / 10) next
termination_by remain.toNat
decreasing_by exact limb_shrinks ‹_›

/-- Write each limb with its nine digits. -/
def writeGroups : List UInt32 → Output → Option Output
  | [], out => some out
  | group :: rest, out => do
    let next ← writeDigits 9 group out
    writeGroups rest next

/-- A limb that is ten or more gets smaller with each digit. -/
theorem several_shrinks {limb : UInt32} (several : 10 ≤ limb) :
    (limb / 10).toNat < limb.toNat := by
  have large : 10 ≤ limb.toNat := UInt32.le_iff_toNat_le.mp several
  rw [UInt32.toNat_div]
  exact Nat.div_lt_self (by omega) (by decide)

/-- The number of digits of a limb: the loop over `top`. -/
def leadingDigits (top : UInt32) : Nat :=
  if 10 ≤ top then leadingDigits (top / 10) + 1 else 1
termination_by top.toNat
decreasing_by exact several_shrinks ‹_›

/-- The largest number that a `size_t` holds. -/
def sizeMax : Nat := 2 ^ 64 - 1

/-- `ZSTR_MAX_LEN`: how long a PHP string can get. -/
def zstrMaxLen : Nat := sizeMax - 32

/-- What the result becomes: the bytes of the PHP string, which have all been written. -/
def Output.text (out : Output) : Option Bytes := out.buffer.dropLast.mapM id

/-- Write the numeral of the limbs; nothing when a write left the buffer or a byte of it is
missing. -/
def writeBignum (negative : Bool) (digits : List UInt32) (top : UInt32) :
    Option (Except String Bytes) :=
  let leading := leadingDigits top + (if negative then 1 else 0)
  if (zstrMaxLen - leading) / 9 < digits.length - 1 then
    some (.error "BIGNUM decimal string exceeds PHP allocation size")
  else
    let outputLength := (digits.length - 1) * 9 + leading
    let start : Output := ⟨outputLength, List.replicate outputLength none ++ [some 0]⟩
    do
      let groups ← writeGroups digits.dropLast start
      let all ← writeTop top groups
      let signed ← all.writeSign negative
      let text ← signed.text
      some (.ok text)

/-- Convert a BIGNUM whose header was checked, and write its digits. -/
def renderBignum (negative : Bool) (payload : Bytes) : Option (Except String Bytes) :=
  if (sizeMax - 28) / 8 < payload.length then
    some (.error "BIGNUM conversion size overflows")
  else
    let maximumLimbs := (payload.length * 8 + 28) / 29
    if 2 ^ 61 - 1 < maximumLimbs then
      some (.error "BIGNUM conversion exceeds native allocation size")
    else
      let padding := (4 - payload.length % 4) % 4
      (convert negative payload padding ((payload.length + padding) / 4)).bind fun converted =>
        let digits := if converted = [] then [0] else converted
        match digits.getLast? with
        | none => none
        | some top => writeBignum negative digits top

/-- The storage format is one that has been validated: `supported_format`. -/
def supportedFormat (version : Option Bytes) : Bool :=
  match version with
  | none => false
  | some text => (lit "v2.0.").isPrefixOf text || (lit "2.0.").isPrefixOf text

/-- `duckdb_decode_bignum`: the text or the exception; nothing when it leaves its memory. -/
def duckdbDecodeBignum (version : Option Bytes) (data : Bytes) : Option (Except String Bytes) :=
  if supportedFormat version then
    match decodeHeader data with
    | .error message => some (.error message)
    | .ok (negative, payload) => renderBignum negative payload
  else some (.error "BIGNUM decoding requires a validated DuckDB 2.0.x storage format")

/-! ### What it writes -/

/-- The buffer with a text at its end and nothing before it. -/
def Output.written (position : Nat) (text : Bytes) : Output :=
  ⟨position, List.replicate position none ++ (text.map some ++ [some 0])⟩

/-- The next byte goes before the text. -/
theorem write_written (position : Nat) (byte : UInt8) (text : Bytes) :
    (Output.written (position + 1) text).write byte =
      some (Output.written position (byte :: text)) := by
  have inside : position < (Output.written (position + 1) text).buffer.length := by
    show position < (List.replicate (position + 1) none ++ (text.map some ++ [some 0])).length
    rw [List.length_append, List.length_replicate]
    omega
  have stored : (List.replicate (position + 1) none ++ (text.map some ++ [some 0])).set position
      (some byte) = List.replicate position none ++ ((byte :: text).map some ++ [some 0]) := by
    rw [List.replicate_succ', List.append_assoc, List.set_append_right _ _ (by simp)]
    simp
  show (if position < _ then some (Output.mk position _) else none) = _
  rw [if_pos inside]
  exact congrArg (fun buffer => some (Output.mk position buffer)) stored

/-- The byte written for a digit is its character. -/
theorem digitByte (limb : UInt32) :
    48 + (limb % 10).toUInt8 = UInt8.ofNat (limb.toNat % 10).digitChar.toNat := by
  have small : limb.toNat % 10 < 10 := Nat.mod_lt _ (by decide)
  have digit : (limb % 10).toNat = limb.toNat % 10 := UInt32.toNat_mod _ _
  rw [Nat.toNat_digitChar_of_lt_ten small, ← UInt8.toNat_inj, UInt8.toNat_add,
    UInt32.toNat_toUInt8, digit, UInt8.toNat_ofNat']
  show (48 + limb.toNat % 10 % 2 ^ 8) % 2 ^ 8 = _
  omega

/-- The last digits of a limb go before the text. -/
theorem writeDigits_written (count position : Nat) (remain : UInt32) (text : Bytes) :
    writeDigits count remain (Output.written (position + count) text) =
      some (Output.written position (lastBytes count remain.toNat ++ text)) := by
  induction count generalizing remain text with
  | zero => rfl
  | succ count ih =>
    have rest : (remain / 10).toNat = remain.toNat / 10 := UInt32.toNat_div _ _
    rw [writeDigits, ← Nat.add_assoc, write_written, Option.bind_eq_bind, Option.bind_some, ih,
      rest, digitByte, lastBytes, lastBytes, lastDigits, List.map_append, List.append_assoc]
    rfl

/-- The numeral of a number of at least two digits. -/
theorem decimal_last {number : Nat} (several : 10 ≤ number) :
    decimal number =
      decimal (number / 10) ++ [UInt8.ofNat (number % 10).digitChar.toNat] := by
  rw [decimal, toDigits_last (by decide) several, List.map_append]
  rfl

/-- The numeral of a number below ten is its digit. -/
theorem decimal_digit {number : Nat} (single : number < 10) :
    decimal number = [UInt8.ofNat (number % 10).digitChar.toNat] := by
  rw [decimal, Nat.toDigits_of_lt_base single, Nat.mod_eq_of_lt single]
  rfl

/-- The numeral of a limb goes before the text. -/
theorem writeTop_written (position : Nat) (remain : UInt32) (text : Bytes) :
    writeTop remain (Output.written (position + (decimal remain.toNat).length) text) =
      some (Output.written position (decimal remain.toNat ++ text)) := by
  have rest : (remain / 10).toNat = remain.toNat / 10 := UInt32.toNat_div _ _
  have ten : remain / 10 = 0 ↔ remain.toNat < 10 := by
    rw [← UInt32.toNat_inj, rest]
    show _ = 0 ↔ _
    omega
  rw [writeTop]
  by_cases single : remain.toNat < 10
  · rw [decimal_digit single, List.length_singleton, write_written, Option.bind_some,
      if_pos (ten.mpr single), digitByte]
    rfl
  · have several := mt ten.mp single
    have smaller := limb_shrinks several
    have earlier := writeTop_written position (remain / 10)
      (UInt8.ofNat (remain.toNat % 10).digitChar.toNat :: text)
    rw [rest] at earlier
    rw [decimal_last (Nat.le_of_not_lt single), List.length_append, List.length_singleton,
      ← Nat.add_assoc, write_written, Option.bind_some, if_neg several, digitByte, earlier,
      List.append_assoc]
    rfl
termination_by remain.toNat

/-- Limbs go before the text with nine digits each. -/
theorem writeGroups_written (position : Nat) (groups : List UInt32) (text : Bytes) :
    writeGroups groups (Output.written (position + groups.length * 9) text) =
      some (Output.written position
        ((groups.map UInt32.toNat).reverse.flatMap (lastBytes 9) ++ text)) := by
  induction groups generalizing text with
  | nil => rfl
  | cons group rest ih =>
    have room : position + (group :: rest).length * 9 = position + rest.length * 9 + 9 := by
      rw [List.length_cons]
      omega
    rw [writeGroups, room, writeDigits_written, Option.bind_eq_bind, Option.bind_some, ih,
      List.map_cons, List.reverse_cons, List.flatMap_append, List.flatMap_singleton,
      List.append_assoc]

/-- The counted digits of a limb are those of its numeral. -/
theorem leadingDigits_length (top : UInt32) : leadingDigits top = (decimal top.toNat).length := by
  have rest : (top / 10).toNat = top.toNat / 10 := UInt32.toNat_div _ _
  have ten : 10 ≤ top ↔ 10 ≤ top.toNat := UInt32.le_iff_toNat_le
  rw [leadingDigits]
  by_cases several : 10 ≤ top
  · have smaller := several_shrinks several
    have earlier := leadingDigits_length (top / 10)
    rw [if_pos several, earlier, rest, decimal_last (ten.mp several), List.length_append,
      List.length_singleton]
  · rw [if_neg several, decimal_digit (Nat.lt_of_not_le (mt ten.mpr several)),
      List.length_singleton]
termination_by top.toNat

/-- The sign of a negative number goes before the text. -/
theorem sign_written (negative : Bool) (text : Bytes) :
    (Output.written (0 + if negative then 1 else 0) text).writeSign negative =
      some (Output.written 0 (signed negative text)) := by
  cases negative with
  | true => exact write_written 0 45 text
  | false => rfl

/-- A buffer that is written to its end holds the text. -/
theorem text_written (text : Bytes) : (Output.written 0 text).text = some text := by
  have collected : ∀ text : Bytes, (text.map some).mapM id = some text := by
    intro text
    induction text with
    | nil => rfl
    | cons byte rest ih =>
      rw [List.map_cons, List.mapM_cons, ih]
      rfl
  rw [Output.text, Output.written, List.replicate_zero, List.nil_append,
    List.dropLast_concat, collected]

/-- The numeral of limbs that are the digits of a number is written, all of it and nothing else. -/
theorem writeBignum_exact (negative : Bool) {digits : List UInt32} {top : UInt32} {number : Nat}
    (last : digits.getLast? = some top) (few : digits.length ≤ 2 ^ 32)
    (stand : (digits = [0] ∧ number = 0) ∨
      digits.map UInt32.toNat = Nat.digits (10 ^ 9) number) :
    writeBignum negative digits top = some (.ok (signed negative (decimal number))) := by
  obtain ⟨lower, split⟩ := List.getLast?_eq_some_iff.mp last
  have dropped : digits.dropLast = lower := by rw [split, List.dropLast_concat]
  have count : digits.length - 1 = lower.length := by
    rw [split, List.length_append]
    rfl
  have text : decimal number =
      decimal top.toNat ++ (lower.map UInt32.toNat).reverse.flatMap (lastBytes 9) := by
    cases stand with
    | inl zero =>
      have single : lower ++ [top] = [] ++ [0] := split.symm.trans zero.1
      obtain ⟨none, same⟩ := List.append_inj' single rfl
      rw [none, (List.cons.inj same).1, zero.2]
      rfl
    | inr some =>
      apply decimal_digits_reverse
      rw [← some, split, List.map_append, List.reverse_append]
      rfl
  have short : (decimal top.toNat).length ≤ 10 := by
    have bound := top.toNat_lt
    rw [decimal, List.length_map]
    exact (Nat.length_toDigits_le_iff (by decide) (by decide)).mpr (by omega)
  have fits : ¬(zstrMaxLen - ((decimal top.toNat).length + if negative then 1 else 0)) / 9 <
      lower.length := by
    show ¬(2 ^ 64 - 1 - 32 - _) / 9 < _
    have sign : (if negative then 1 else 0) ≤ 1 := by
      cases negative
      · exact Nat.zero_le 1
      · exact Nat.le_refl 1
    omega
  have room : lower.length * 9 + ((decimal top.toNat).length + if negative then 1 else 0) =
      0 + (if negative then 1 else 0) + (decimal top.toNat).length + lower.length * 9 := by
    omega
  have groups := writeGroups_written
    (0 + (if negative then 1 else 0) + (decimal top.toNat).length) lower []
  have all := writeTop_written (0 + if negative then 1 else 0) top
    ((lower.map UInt32.toNat).reverse.flatMap (lastBytes 9))
  have sign := sign_written negative (decimal number)
  rw [List.append_nil] at groups
  rw [← text] at all
  unfold writeBignum
  simp only [dropped, count, leadingDigits_length]
  rw [if_neg fits, room]
  show ((writeGroups lower (Output.written _ [])).bind fun groups =>
    (writeTop top groups).bind fun all => (all.writeSign negative).bind fun signed =>
      signed.text.bind fun text => some (Except.ok text)) = _
  rw [groups, Option.bind_some, all, Option.bind_some, sign, Option.bind_some, text_written]
  rfl

/-! ## Exactness -/

/-- The number of a canonical magnitude is zero only for a positive zero. -/
theorem canonical_positive {magnitude : Bytes} (canonical : CanonicalBignum true magnitude) :
    0 < bigEndian magnitude := by
  cases magnitude with
  | nil => exact absurd canonical.nonempty (Nat.not_succ_le_zero 0)
  | cons lead others =>
    have head : lead ≠ 0 := by
      intro zero
      cases others with
      | nil => exact canonical.zero rfl (congrArg (fun byte => [byte]) zero)
      | cons next rest =>
        exact canonical.leading (Nat.succ_lt_succ (Nat.succ_pos _)) (congrArg some zero)
    have positive : 0 < lead.toNat := by
      apply Nat.pos_of_ne_zero
      exact fun zero => head (UInt8.toNat_inj.mp zero)
    have single : bigEndian [lead] = lead.toNat := by
      show 0 * 256 + lead.toNat = _
      rw [Nat.zero_mul, Nat.zero_add]
    have split := bigEndian_append [lead] others
    rw [single] at split
    show 0 < bigEndian ([lead] ++ others)
    rw [split]
    exact Nat.add_pos_left (Nat.mul_pos positive (Nat.pow_pos (by decide))) _

/-- A checked BIGNUM is written as its numeral. -/
theorem renderBignum_exact {negative : Bool} {payload : Bytes}
    (canonical : CanonicalBignum negative (payload.map (magnitudeByte negative))) :
    renderBignum negative payload = some (.ok
      (signedDecimal (bignumValue negative (payload.map (magnitudeByte negative))))) := by
  have nonempty := canonical.nonempty
  have short := canonical.short
  rw [List.length_map] at nonempty short
  have total : (padded negative payload (paddingOf payload)).length =
      paddingOf payload + payload.length := by
    rw [padded, List.length_append, List.length_replicate, List.length_map]
  have whole : 4 * ((payload.length + paddingOf payload) / 4) =
      paddingOf payload + payload.length := by
    unfold paddingOf
    omega
  obtain ⟨digits, converted, stand⟩ := @convert_digits negative payload (paddingOf payload)
    ((payload.length + paddingOf payload) / 4) (by omega)
  rw [List.take_of_length_le (by omega), bigEndian_padded] at stand
  have some_ : payload ≠ [] := List.ne_nil_of_length_pos nonempty
  have count := ((convert_reached converted).converting some_).count
  have one : ¬(sizeMax - 28) / 8 < payload.length := by
    show ¬(2 ^ 64 - 1 - 28) / 8 < _
    omega
  have two : ¬2 ^ 61 - 1 < (payload.length * 8 + 28) / 29 := by omega
  have text : signedDecimal (bignumValue negative (payload.map (magnitudeByte negative))) =
      signed negative (decimal (bigEndian (payload.map (magnitudeByte negative)))) := by
    cases negative with
    | true =>
      have positive := canonical_positive canonical
      rw [bignumValue, if_pos rfl, signedDecimal, if_pos (by omega), Int.natAbs_neg,
        Int.natAbs_natCast]
      rfl
    | false =>
      rw [bignumValue, if_neg Bool.false_ne_true, signedDecimal, if_neg (by omega),
        Int.natAbs_natCast]
      rfl
  -- The limbs that are written: those of the number, or one zero.
  have written : ∃ top, (if digits = [] then [0] else digits).getLast? = some top ∧
      writeBignum negative (if digits = [] then [0] else digits) top =
        some (.ok (signed negative (decimal
          (bigEndian (payload.map (magnitudeByte negative)))))) := by
    by_cases none : digits = []
    · have zero : bigEndian (payload.map (magnitudeByte negative)) = 0 := by
        rw [none] at stand
        exact Nat.digits_eq_nil_iff_eq_zero.mp stand.symm
      rw [if_pos none]
      exact ⟨0, rfl, writeBignum_exact negative rfl (by decide) (Or.inl ⟨rfl, zero⟩)⟩
    · rw [if_neg none]
      refine ⟨digits.getLast none, List.getLast?_eq_some_getLast none, ?_⟩
      rw [List.length_nil] at count
      exact writeBignum_exact negative (List.getLast?_eq_some_getLast none) (by omega)
        (Or.inr stand)
  obtain ⟨top, last, wrote⟩ := written
  unfold renderBignum
  rw [if_neg one]
  simp only [if_neg two]
  show (convert negative payload (paddingOf payload)
    ((payload.length + paddingOf payload) / 4)).bind _ = _
  rw [converted, Option.bind_some]
  simp only [last]
  rw [wrote, text]

/-- BIGNUM decoding is exact: it leaves neither the stored bytes nor its buffer, accepts exactly the
stored bytes of canonical magnitudes and gives their signed numerals; the VARIANT decoder's check
accepts the same bytes; and in every state of the conversion the limbs are below 10^9 and not more
than reserved, and the 64-bit intermediates are exact. -/
theorem bignum_exact (version : Option Bytes) (data : Bytes) :
    (∃ result, duckdbDecodeBignum version data = some result ∧
      ∀ text, result = .ok text ↔ supportedFormat version = true ∧
        ∃ negative magnitude, CanonicalBignum negative magnitude ∧
          data = storedBignum negative magnitude ∧
          text = signedDecimal (bignumValue negative magnitude)) ∧
    (∀ negative magnitude, variantBignum data = .ok (negative, magnitude) ↔
      CanonicalBignum negative magnitude ∧ data = storedBignum negative magnitude) ∧
    ∀ negative payload, decodeHeader data = .ok (negative, payload) →
      ∀ read done todo hi, Reached negative payload read done todo hi →
        (∀ digit ∈ done ++ todo, digit.toNat < 10 ^ 9) ∧
        done.length + todo.length ≤ (8 * payload.length + 28) / 29 ∧
        ∀ digit rest, todo = digit :: rest →
          (digit.toUInt64 <<< 32 ||| hi.toUInt64).toNat = digit.toNat * 2 ^ 32 + hi.toNat ∧
          ((1000000000 : UInt64) * (limbCarry digit hi).toUInt64).toNat =
            10 ^ 9 * (limbCarry digit hi).toNat := by
  refine ⟨?_, ?_, ?_⟩
  · unfold duckdbDecodeBignum
    by_cases supported : supportedFormat version = true
    · rw [if_pos supported]
      cases header : decodeHeader data with
      | error message =>
        refine ⟨.error message, rfl, fun text => ?_⟩
        apply iff_of_false nofun
        intro ⟨_, negative, magnitude, canonical, stored, _⟩
        have accepted := (decodeHeader_accepts data
          (magnitude.map (magnitudeByte negative)) negative).mpr
        rw [magnitudeBytes_twice, header] at accepted
        cases accepted ⟨canonical, stored⟩
      | ok checked =>
        obtain ⟨negative, payload⟩ := checked
        obtain ⟨canonical, stored⟩ := (decodeHeader_accepts data payload negative).mp header
        refine ⟨_, renderBignum_exact canonical, fun text => ?_⟩
        constructor
        · intro same
          exact ⟨supported, negative, _, canonical, stored, (Except.ok.inj same).symm⟩
        · intro ⟨_, other, magnitude, well, spelled, same⟩
          -- The header has one sign and one magnitude.
          have again := (decodeHeader_accepts data (magnitude.map (magnitudeByte other)) other).mpr
          rw [magnitudeBytes_twice, header] at again
          obtain ⟨sign, bytes⟩ := Prod.mk.inj (Except.ok.inj (again ⟨well, spelled⟩))
          rw [same, sign, bytes, magnitudeBytes_twice]
    · rw [if_neg supported]
      exact ⟨_, rfl, fun text => iff_of_false nofun fun holds => supported holds.1⟩
  · intro negative magnitude
    rw [variantBignum_accepts, decodeHeader_accepts, magnitudeBytes_twice]
  · intro negative payload header read done todo hi reached
    obtain ⟨canonical, -⟩ := (decodeHeader_accepts data payload negative).mp header
    have nonempty := canonical.nonempty
    rw [List.length_map] at nonempty
    have state := reached.converting (List.ne_nil_of_length_pos nonempty)
    refine ⟨state.small, state.count, ?_⟩
    intro digit rest first
    have small : digit.toNat < 10 ^ 9 := by
      apply state.small
      rw [first]
      exact List.mem_append_right _ List.mem_cons_self
    rw [limbProduct_exact hi small, limbCarry_exact hi small]
    exact ⟨wide_exact digit hi, rfl⟩

end PhpDuckdb.Decode
