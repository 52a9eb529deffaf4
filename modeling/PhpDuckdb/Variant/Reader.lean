import Mathlib.Algebra.Order.Ring.Int
import PhpDuckdb.Lib.SqlText
import PhpDuckdb.Lib.Transducer

/-!
# The payload reader

The bytes of a VARIANT value and the position of the decoder in them. Every access goes through
`take`, which checks what remains in `size_t` arithmetic; a read that leaves the bytes is a stop of
its own, so that a run without it has stayed inside.
-/

namespace PhpDuckdb.Variant

open SqlText Transducer

/-- Why a rendering ends without a text. -/
inductive Stop where
  /-- `invalid` has thrown. -/
  | invalid (message : String)
  /-- A read left its memory: nothing is known of what follows. -/
  | outside
deriving DecidableEq, Repr

/-- The stop that must not happen. -/
def Stop.Fatal (stop : Stop) : Prop := stop = .outside

/-- A message about the payload is not the fatal stop. -/
@[simp]
theorem Stop.invalid_harmless (message : String) : ¬(Stop.invalid message).Fatal := nofun

/-- Bytes in memory, as many as a `size_t` counts. -/
structure Region where
  /-- The bytes. -/
  bytes : Bytes
  /-- A `size_t` holds their number. -/
  fits : bytes.length < 2 ^ 64

/-- `Reader`: some bytes and the position in them, in unsigned words. -/
structure Reader where
  /-- The bytes from `data` on. -/
  data : Bytes
  /-- `size`. -/
  size : UInt64
  /-- `position`. -/
  position : UInt64
deriving DecidableEq, Repr

/-- A computation over a reader, which can stop. -/
abbrev Reading := StateT Reader (Except Stop)

namespace Reader

/-- The constructor of `Reader`: at the first of some bytes. -/
def of (bytes : Bytes) : Reader := ⟨bytes, UInt64.ofNat bytes.length, 0⟩

/-- `remaining`: the bytes behind the position. -/
def remaining (reader : Reader) : UInt64 := reader.size - reader.position

/-- `offset`: moves to a position that is inside the bytes. -/
def offset (value : UInt64) : Reading Unit := fun reader =>
  if reader.size < value then .error (.invalid "VARIANT byte offset is out of bounds")
  else .ok ((), { reader with position := value })

/-- `take`, and the read of what it points to. -/
def take (count : UInt64) : Reading Bytes := fun reader =>
  if reader.remaining < count then .error (.invalid "Truncated VARIANT payload")
  else if reader.data.length < reader.position.toNat + count.toNat then .error .outside
  else .ok ((reader.data.drop reader.position.toNat).take count.toNat,
    { reader with position := reader.position + count })

/-- The number that bytes stand for on a little-endian host. -/
def littleEndian : Bytes → Nat
  | [] => 0
  | byte :: rest => byte.toNat + 256 * littleEndian rest

/-- `native` and `Read`: an object of a width in bytes. -/
def native (width : Nat) : Reading Nat := do
  let bytes ← take (UInt64.ofNat width)
  pure (littleEndian bytes)

/-- The loop of `varint`, from a shift on. -/
def varintFrom : List UInt32 → UInt32 → Reading UInt32
  | [], _ => throw (.invalid "Invalid VARIANT varint")
  | shift :: shifts, value => do
    let byte ← native 1
    if shift = 28 ∧ UInt8.ofNat byte &&& 0xf0 ≠ 0 then throw (.invalid "Invalid VARIANT varint")
    else
      let value := value ||| (UInt8.ofNat byte &&& 127).toUInt32 <<< shift
      if UInt8.ofNat byte &&& 128 = 0 then pure value else varintFrom shifts value

/-- `varint`: an unsigned number of at most five bytes. -/
def varint : Reading UInt32 := varintFrom [0, 7, 14, 21, 28] 0

/-! ## Readers that stay inside -/

/-- The size is that of the bytes, and the position is not beyond it. -/
structure Sound (reader : Reader) : Prop where
  /-- The size counts the bytes. -/
  counts : reader.size.toNat = reader.data.length
  /-- The position is inside or at the end. -/
  inside : reader.position.toNat ≤ reader.data.length

/-- What is still to be read. -/
def rest (reader : Reader) : Bytes := reader.data.drop reader.position.toNat

/-- The reader behind some more of its bytes. -/
def advanced (reader : Reader) (count : Nat) : Reader :=
  { reader with position := reader.position + UInt64.ofNat count }

/-- A new reader of a region is sound. -/
theorem of_sound (region : Region) : (of region.bytes).Sound where
  counts := Nat.mod_eq_of_lt region.fits
  inside := Nat.zero_le _

/-- A new reader has all bytes before it. -/
@[simp]
theorem of_rest (bytes : Bytes) : (of bytes).rest = bytes := rfl

/-- What remains to be read is the data from the position on. -/
theorem rest_length (reader : Reader) :
    reader.rest.length = reader.data.length - reader.position.toNat := List.length_drop

/-- `remaining` counts what is left, since it does not wrap in a sound reader. -/
theorem Sound.remaining_toNat {reader : Reader} (sound : reader.Sound) :
    reader.remaining.toNat = reader.rest.length := by
  have counts := sound.counts
  have inside := sound.inside
  rw [reader.rest_length, remaining, UInt64.toNat_sub_of_le _ _
    (UInt64.le_iff_toNat_le.mpr (by omega)), counts]

/-- The position after bytes that are there. -/
theorem Sound.advanced_position {reader : Reader} (sound : reader.Sound) {count : Nat}
    (there : count ≤ reader.rest.length) :
    (reader.advanced count).position.toNat = reader.position.toNat + count := by
  have bound := reader.size.toNat_lt
  have counts := sound.counts
  have inside := sound.inside
  rw [reader.rest_length] at there
  show (reader.position + UInt64.ofNat count).toNat = _
  rw [UInt64.toNat_add, UInt64.toNat_ofNat_of_lt' (show count < 2 ^ 64 by omega)]
  apply Nat.mod_eq_of_lt
  omega

/-- A reader stays sound over bytes that are there. -/
theorem Sound.advanced {reader : Reader} (sound : reader.Sound) {count : Nat}
    (there : count ≤ reader.rest.length) : (reader.advanced count).Sound where
  counts := sound.counts
  inside := by
    have inside := sound.inside
    rw [sound.advanced_position there]
    rw [reader.rest_length] at there
    show _ ≤ reader.data.length
    omega

/-- What is still to be read after bytes. -/
theorem Sound.advanced_rest {reader : Reader} (sound : reader.Sound) {count : Nat}
    (there : count ≤ reader.rest.length) :
    (reader.advanced count).rest = reader.rest.drop count := by
  rw [rest, rest, sound.advanced_position there, List.drop_drop]
  rfl

/-- A reader that is advanced twice is advanced by both distances. -/
theorem advanced_advanced (reader : Reader) (first second : Nat) :
    (reader.advanced first).advanced second = reader.advanced (first + second) := by
  show Reader.mk _ _ _ = Reader.mk _ _ _
  rw [UInt64.ofNat_add, ← UInt64.add_assoc]
  rfl

/-- Readers move over the bytes before them. -/
def tape : Tape Reader UInt8 UInt8 where
  sound := Sound
  moves start input output ends :=
    output = [] ∧ input <+: start.rest ∧ ends = start.advanced input.length
  keeps := by
    intro start ends input output sound moved
    obtain ⟨-, before, rfl⟩ := moved
    exact sound.advanced before.length_le
  still := by
    intro start ends sound
    have same : start.advanced ([] : Bytes).length = start := by
      show Reader.mk _ _ (start.position + 0) = start
      rw [UInt64.add_zero]
    constructor
    · intro ⟨_, _, last⟩
      rw [last, same]
    · intro last
      exact ⟨rfl, List.nil_prefix, by rw [same, last]⟩
  joins := by
    intro start ends first second written later sound
    constructor
    · intro ⟨silent, before, last⟩
      obtain ⟨unwritten, quiet⟩ := List.append_eq_nil_iff.mp silent
      obtain ⟨tail, whole⟩ := before
      rw [List.append_assoc] at whole
      have there : first.length ≤ start.rest.length := by
        rw [← whole, List.length_append]
        exact Nat.le_add_right _ _
      refine ⟨start.advanced first.length, ⟨unwritten, ?_, rfl⟩, quiet, ?_, ?_⟩
      · exact ⟨second ++ tail, whole⟩
      · rw [sound.advanced_rest there, ← whole, List.drop_left]
        exact ⟨tail, rfl⟩
      · rw [last, advanced_advanced, List.length_append]
    · intro ⟨middle, ⟨unwritten, before, there⟩, quiet, after, last⟩
      obtain ⟨tail, whole⟩ := before
      have fits : first.length ≤ start.rest.length := by
        rw [← whole, List.length_append]
        exact Nat.le_add_right _ _
      subst there
      rw [sound.advanced_rest fits, ← whole, List.drop_left] at after
      obtain ⟨left, parted⟩ := after
      refine ⟨by rw [unwritten, quiet]; rfl, ?_, ?_⟩
      · exact ⟨left, by rw [List.append_assoc, parted, whole]⟩
      · rw [last, advanced_advanced, List.length_append]

/-! ## Reads -/

/-- A read never leaves the bytes; it takes as many as it asks for, when they are there. -/
theorem exact_take (count : UInt64) :
    Exact tape Stop.Fatal (fun bytes input output => bytes.length = count.toNat ∧
      input = bytes ∧ output = []) (take count) := by
  intro reader sound
  have remaining := sound.remaining_toNat
  have length := reader.rest_length
  have bound := count.toNat_lt
  by_cases short : reader.remaining < count
  · have fewer := UInt64.lt_iff_toNat_lt.mp short
    rw [take, if_pos short]
    constructor
    · intro stop stopped
      obtain rfl := Except.error.inj stopped
      exact Stop.invalid_harmless _
    · intro value ends
      apply iff_of_false nofun
      intro ⟨input, output, ⟨asked, same, _⟩, _, before, _⟩
      have there := before.length_le
      rw [same] at there
      omega
  · have enough := UInt64.le_iff_toNat_le.mp (UInt64.not_lt.mp short)
    have inside : ¬reader.data.length < reader.position.toNat + count.toNat := by
      have inside := sound.inside
      omega
    have taken : (reader.rest.take count.toNat).length = count.toNat := by
      rw [List.length_take]
      omega
    have ending : reader.advanced count.toNat =
        { reader with position := reader.position + count } := by
      rw [advanced, UInt64.ofNat_toNat]
    rw [take, if_neg short, if_neg inside]
    constructor
    · exact nofun
    · intro value ends
      constructor
      · intro done
        obtain ⟨same, last⟩ := Prod.mk.inj (Except.ok.inj done)
        subst same last
        refine ⟨_, [], ⟨taken, rfl, rfl⟩, rfl, List.take_prefix _ _, ?_⟩
        rw [← ending]
        exact congrArg reader.advanced taken.symm
      · intro ⟨input, output, ⟨asked, same, _⟩, _, before, last⟩
        subst same last
        rw [asked, ending, ← asked]
        show Except.ok (List.take input.length reader.rest, _) = _
        rw [← List.prefix_iff_eq_take.mp before]

/-- A byte offset that the check lets through is inside. -/
theorem safe_offset (value : UInt64) : Safe tape Stop.Fatal (offset value) := by
  intro reader sound
  rw [offset]
  by_cases beyond : reader.size < value
  · rw [if_pos beyond]
    refine ⟨?_, nofun⟩
    intro stop stopped
    obtain rfl := Except.error.inj stopped
    exact Stop.invalid_harmless _
  · rw [if_neg beyond]
    refine ⟨nofun, ?_⟩
    intro value ends done
    obtain ⟨-, rfl⟩ := Prod.mk.inj (Except.ok.inj done)
    have inside := UInt64.le_iff_toNat_le.mp (UInt64.not_lt.mp beyond)
    exact ⟨sound.counts, Nat.le_trans inside (Nat.le_of_eq sound.counts)⟩

/-- A number of a width has that many bytes. -/
theorem exact_native {width : Nat} (small : width < 2 ^ 64) :
    Exact tape Stop.Fatal (fun value input output => input.length = width ∧
      value = littleEndian input ∧ output = []) (native width) := by
  have asked : (UInt64.ofNat width).toNat = width := Nat.mod_eq_of_lt small
  apply (exact_bind (exact_take (UInt64.ofNat width)) fun _ => exact_pure _).of_iff
  intro value input output
  constructor
  · intro ⟨length, same, silent⟩
    exact ⟨input, input, [], [], [], ⟨length.trans asked.symm, rfl, rfl⟩, ⟨same, rfl, rfl⟩,
      (List.append_nil _).symm, silent⟩
  · intro ⟨bytes, read, left, written, later, ⟨length, same, silent⟩, ⟨given, unread, quiet⟩,
      split, parted⟩
    subst same unread silent quiet
    rw [List.append_nil] at split
    subst split
    exact ⟨length.trans asked, given, parted⟩

/-- A varint is read without leaving the bytes. -/
theorem safe_varintFrom (shifts : List UInt32) (value : UInt32) :
    Safe tape Stop.Fatal (varintFrom shifts value) := by
  induction shifts generalizing value with
  | nil => exact safe_throw (Stop.invalid_harmless _)
  | cons shift shifts ih =>
    refine safe_bind (exact_native (by decide)).safe fun byte => ?_
    refine safe_ite (fun _ => safe_throw (Stop.invalid_harmless _)) fun _ => ?_
    exact safe_ite (fun _ => safe_pure _) fun _ => ih _

/-- A varint is read without leaving the bytes. -/
theorem safe_varint : Safe tape Stop.Fatal varint := safe_varintFrom _ _

end Reader

end PhpDuckdb.Variant
