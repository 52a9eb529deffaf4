import PhpDuckdb.Decode.Bignum
import PhpDuckdb.Lib.OrderedTable
import PhpDuckdb.Lib.Traced
import PhpDuckdb.Variant.Row
import PhpDuckdb.Variant.Wkb

/-!
# Rendering a VARIANT as JSON

The decoder walks the values of a row from the first: scalars are read from the blob, and objects
and arrays go on with the values that their children name. Every value that is entered is noted
with its level and with the values that are being rendered around it.
-/

namespace PhpDuckdb.Variant

open SqlText Value OrderedTable Reader Transducer

/-! ## Scalars -/

/-- The values of a point in time or a time of day. -/
inductive TimeType where
  /-- `duckdb_create_date`. -/
  | date
  /-- `duckdb_create_time`. -/
  | time
  /-- `duckdb_create_time_ns`. -/
  | timeNs
  /-- `duckdb_create_timestamp_s`. -/
  | timestampS
  /-- `duckdb_create_timestamp_ms`. -/
  | timestampMs
  /-- `duckdb_create_timestamp`. -/
  | timestamp
  /-- `duckdb_create_timestamp_ns`. -/
  | timestampNs
  /-- `duckdb_create_timestamp_tz`. -/
  | timestampTz
  /-- `duckdb_create_timestamp_tz_ns`. -/
  | timestampTzNs
deriving DecidableEq, Repr

/-- The values that the decoder has DuckDB construct and render. -/
inductive Scalar where
  /-- `duckdb_create_hugeint`. -/
  | hugeint (value : Int)
  /-- `duckdb_create_uhugeint`. -/
  | uhugeint (value : Nat)
  /-- `duckdb_create_decimal`. -/
  | decimal (width scale : UInt32) (value : Int)
  /-- `duckdb_create_blob`. -/
  | blob (data : Bytes)
  /-- `duckdb_create_bignum`. -/
  | bignum (negative : Bool) (data : Bytes)
  /-- `duckdb_create_bit`. -/
  | bit (data : Bytes)
  /-- `duckdb_create_uuid`. -/
  | uuid (value : Nat)
  /-- A date, a time or a timestamp. -/
  | time (type : TimeType) (value : Int)
  /-- `duckdb_create_time_tz_value`. -/
  | timeTz (bits : Nat)
  /-- `duckdb_create_interval`. -/
  | interval (months days micros : Int)
deriving DecidableEq, Repr

/-- What the decoder relies on outside of the extension. -/
structure Engine where
  /-- `zend_dtoa`. -/
  dtoa : UInt64 → Shortest
  /-- The constructor of a value, which may fail, and `duckdb_get_varchar` of it, which may too. -/
  varchar : Scalar → Option (Option Bytes)

/-- `scalar`: the text that DuckDB gives a scalar of its own type. -/
def scalar (engine : Engine) (value : Scalar) : Except Stop Bytes :=
  match engine.varchar value with
  | none => invalid "Unable to construct VARIANT scalar"
  | some none => invalid "Unable to render VARIANT scalar"
  | some (some text) => .ok text

/-- A result in a computation over a reader. -/
def given {α : Type} (result : Except Stop α) : Reading α := fun reader =>
  match result with
  | .error stop => .error stop
  | .ok value => .ok (value, reader)

/-- The number of two's complement bits. -/
def signed (width value : Nat) : Int :=
  if value < 2 ^ (8 * width - 1) then value else (value : Int) - 2 ^ (8 * width)

/-- `native` of a signed type: the bytes in the order of the host, with their sign. -/
def nativeSigned (width : Nat) : Reading Int := do
  let value ← native width
  pure (signed width value)

/-- The bits of a double of the same value as a float. -/
def widened (bits : UInt32) : UInt64 :=
  let sign := (bits >>> 31).toUInt64 <<< 63
  let exponent := (bits >>> 23 &&& 255).toUInt64
  let fraction := (bits &&& 0x7fffff).toUInt64
  if exponent = 255 then sign ||| (0x7ff0000000000000 : UInt64) ||| fraction <<< 29
  else if exponent = 0 then
    if fraction = 0 then sign
    else
      -- A subnormal float is a normal double: its highest bit is the hidden one.
      let highest := UInt64.ofNat fraction.toNat.log2
      sign ||| (highest + 874) <<< 52 ||| (fraction <<< (52 - highest) &&& 0xfffffffffffff)
  else sign ||| (exponent + 896) <<< 52 ||| fraction <<< 29

/-- The number of a DECIMAL: its width tells how many bytes it has. -/
def decimalNumber (width : UInt32) : Reading Int :=
  if 18 < width then nativeSigned 16
  else if 9 < width then nativeSigned 8
  else if 4 < width then nativeSigned 4
  else nativeSigned 2

/-- The integer digit that DuckDB omits when every digit is fractional. -/
def leadingZero (rendered : Bytes) : Bytes :=
  if rendered.head? = some 45 then rendered.insertIdx 1 48 else rendered.insertIdx 0 48

/-- The case of a DECIMAL, whose width and scale are checked. -/
def renderDecimal (engine : Engine) : Reading Bytes := do
  let width ← varint
  let scale ← varint
  check (width ≠ 0 ∧ width ≤ 38 ∧ scale ≤ width)
    (.invalid "Invalid VARIANT decimal width/scale")
  let number ← decimalNumber width
  let rendered ← given (scalar engine (.decimal width scale number))
  pure (if width = scale then leadingZero rendered else rendered)

/-- `Decoder::bignum`: the text of a BIGNUM out of a payload. -/
def renderBignum (engine : Engine) (bytes : Bytes) : Except Stop Bytes :=
  match Decode.variantBignum bytes with
  | .error message => invalid message
  | .ok (negative, data) => scalar engine (.bignum negative data)

/-- A text as a JSON string, if there is one. -/
def quoted (text : Except Stop Bytes) : Except Stop Bytes := text.map quote

/-- `duckdb_create_bit`, of what is long enough and does not pad more than a byte. -/
def renderBit (engine : Engine) (data : Bytes) : Except Stop Bytes :=
  match data with
  | padding :: _ :: _ =>
    if 7 < padding then invalid "Invalid VARIANT bitstring" else scalar engine (.bit data)
  | _ => invalid "Invalid VARIANT bitstring"

/-- The cases of the tags with a length. -/
def renderBytes (render : Bytes → Except Stop Bytes) : Reading Bytes := do
  let length ← varint
  let data ← take length.toUInt64
  given (render data)

/-- `std::to_string` of a signed integer of some bytes. -/
def renderSigned (width : Nat) : Reading Bytes := do
  let value ← nativeSigned width
  pure (signedDecimal value)

/-- `std::to_string` of an unsigned integer of some bytes. -/
def renderUnsigned (width : Nat) : Reading Bytes := do
  let value ← native width
  pure (decimal value)

/-- A time, as the C API takes it. -/
def renderTime (engine : Engine) (type : TimeType) (width : Nat) : Reading Bytes := do
  let value ← nativeSigned width
  given (quoted (scalar engine (.time type value)))

/-- The case of an INTERVAL, whose three parts are in the payload. -/
def renderInterval (engine : Engine) : Reading Bytes := do
  let months ← nativeSigned 4
  let days ← nativeSigned 4
  let micros ← nativeSigned 8
  given (quoted (scalar engine (.interval months days micros)))

/-- The cases of `Decoder::render` but those of the tags 29 and 30. -/
def renderScalar (engine : Engine) (tag : UInt8) : Reading Bytes :=
  match tag.toNat with
  | 0 => pure (lit "null")
  | 1 => pure (lit "true")
  | 2 => pure (lit "false")
  | 3 => renderSigned 1
  | 4 => renderSigned 2
  | 5 => renderSigned 4
  | 6 => renderSigned 8
  | 7 => do
    let value ← nativeSigned 16
    given (scalar engine (.hugeint value))
  | 8 => renderUnsigned 1
  | 9 => renderUnsigned 2
  | 10 => renderUnsigned 4
  | 11 => renderUnsigned 8
  | 12 => do
    let value ← native 16
    given (scalar engine (.uhugeint value))
  | 13 => do
    let bits ← native 4
    pure (real engine.dtoa (widened (UInt32.ofNat bits)) false)
  | 14 => do
    let bits ← native 8
    pure (real engine.dtoa (UInt64.ofNat bits) false)
  | 15 => renderDecimal engine
  | 16 => renderBytes fun data => .ok (quote data)
  | 17 => renderBytes fun data => quoted (scalar engine (.blob data))
  | 18 => do
    let value ← native 16
    given (quoted (scalar engine (.uuid (value ^^^ 2 ^ 127))))
  | 19 => renderTime engine .date 4
  | 20 => renderTime engine .time 8
  | 21 => renderTime engine .timeNs 8
  | 22 => renderTime engine .timestampS 8
  | 23 => renderTime engine .timestampMs 8
  | 24 => renderTime engine .timestamp 8
  | 25 => renderTime engine .timestampNs 8
  | 26 => do
    let bits ← native 8
    given (quoted (scalar engine (.timeTz bits)))
  | 27 => renderTime engine .timestampTz 8
  | 28 => renderInterval engine
  | 31 => renderBytes (renderBignum engine)
  | 32 => renderBytes fun data => quoted (renderBit engine data)
  | 33 => renderBytes fun data => quoted (geometry engine.dtoa data)
  | 34 => renderTime engine .timestampTzNs 8
  | _ => throw (.invalid "Unsupported VARIANT type tag")

/-! ## Objects and arrays -/

/-- `Decoder`: the vectors of a VARIANT that the rendering reads. -/
structure Decoder where
  /-- `keys`. -/
  keys : MetadataList (CellVector Bytes)
  /-- `children`. -/
  children : MetadataList (PairVector UInt32 UInt32)
  /-- `values`. -/
  values : MetadataList (PairVector UInt8 UInt32)
  /-- `keys_index`. -/
  keysIndex : CellVector UInt32
  /-- `values_index`. -/
  valuesIndex : CellVector UInt32
  /-- `type_id`. -/
  typeId : CellVector UInt8
  /-- `byte_offset`. -/
  byteOffset : CellVector UInt32
  /-- `blob`. -/
  blob : Reader

namespace Decoder

/-- The tag of a value, and a reader of the blob from its byte offset on. -/
def value (decoder : Decoder) (index : UInt32) : Except Stop (UInt8 × Reader) := do
  let row ← decoder.values.index index
  let tag ← decoder.values.cell decoder.typeId row
  let start ← decoder.values.cell decoder.byteOffset row
  let ((), reader) ← offset start.toUInt64 decoder.blob
  .ok (tag, reader)

/-- The row of a child by its number, inside the row's entry. -/
def childRow (decoder : Decoder) (first : UInt32) (i : Nat) : Except Stop UInt64 :=
  decoder.children.index (first + UInt32.ofNat i)

/-- The value that a row of the children points to. -/
def childValue (decoder : Decoder) (row : UInt64) : Except Stop UInt32 :=
  decoder.children.cell decoder.valuesIndex row

/-- The key that a row of the children points to. -/
def childKey (decoder : Decoder) (row : UInt64) : Except Stop Bytes := do
  let relative ← decoder.children.cell decoder.keysIndex row
  let keyRow ← decoder.keys.index relative
  decoder.keys.cell decoder.keys.child keyRow

/-- The first child, which is only written when there is one. -/
def firstChild (count : UInt32) (reader : Reader) : Except Stop (UInt32 × Reader) :=
  if count = 0 then .ok (0, reader) else varint reader

/-- The number of children and the first of them, which must be in the row's list. -/
def childRange (decoder : Decoder) (reader : Reader) : Except Stop (UInt32 × UInt32) := do
  let (count, reader) ← varint reader
  let (first, _) ← firstChild count reader
  if decoder.children.entry.length < first.toUInt64 ∨
      decoder.children.entry.length - first.toUInt64 < count.toUInt64 then
    invalid "VARIANT child range is out of bounds"
  else .ok (count, first)

end Decoder

/-- A value that is entered: its level, and the values around it with itself as the last. -/
structure Entered where
  /-- `depth`. -/
  depth : Nat
  /-- `active`. -/
  active : List UInt32
deriving DecidableEq, Repr

/-- A rendering that notes the values that are entered. -/
abbrev Rendering := Traced Stop Entered

/-- The fields of an object and their places. -/
structure Fields where
  /-- `fields`: the keys and the renderings. -/
  fields : List (Bytes × Bytes)
  /-- `positions`. -/
  positions : List (Bytes × Nat)

/-- A field: it replaces what its key had. -/
def Fields.store (table : Fields) (key value : Bytes) : Fields :=
  match find key table.positions with
  | none => ⟨table.fields ++ [(key, value)], update key table.fields.length table.positions⟩
  | some position =>
    { table with fields := table.fields.modify position fun field => (field.1, value) }

/-- The separator before every text but the first. -/
def comma (i : Nat) : Bytes := if i = 0 then [] else [44]

/-- The fields of an object, after those before an index. -/
def fieldsText : Nat → List (Bytes × Bytes) → Bytes
  | _, [] => []
  | i, (key, value) :: rest =>
    comma i ++ quote key ++ [58] ++ value ++ fieldsText (i + 1) rest

/-- `std::sort` of the fields of an object by their keys. -/
def sortFields (fields : List (Bytes × Bytes)) : List (Bytes × Bytes) :=
  fields.mergeSort fun left right => !decide (right.1 < left.1)

section Render

variable (engine : Engine) (decoder : Decoder)

/-- The loop over the children of an array, from a child on. -/
def renderItems (render : UInt32 → Rendering Bytes) (first : UInt32) :
    Nat → Nat → Bytes → Rendering Bytes
  | _, 0, result => pure result
  | i, left + 1, result => do
    let row ← Traced.lift (decoder.childRow first i)
    let child ← Traced.lift (decoder.childValue row)
    let value ← render child
    renderItems render first (i + 1) left (result ++ comma i ++ value)

/-- The loop over the children of an object, from a child on. -/
def renderFields (render : UInt32 → Rendering Bytes) (first : UInt32) :
    Nat → Nat → Fields → Rendering Fields
  | _, 0, table => pure table
  | i, left + 1, table => do
    let row ← Traced.lift (decoder.childRow first i)
    let child ← Traced.lift (decoder.childValue row)
    let value ← render child
    let key ← Traced.lift (decoder.childKey row)
    renderFields render first (i + 1) left (table.store key value)

/-- The switch of `Decoder::render` over the type of a value. -/
def renderValue (render : UInt32 → Rendering Bytes) (tag : UInt8) (reader : Reader) :
    Rendering Bytes :=
  if tag = 29 then do
    let (count, first) ← Traced.lift (decoder.childRange reader)
    let table ← renderFields decoder render first 0 count.toNat ⟨[], []⟩
    pure (lit "\x7b" ++ fieldsText 0 (sortFields table.fields) ++ lit "\x7d")
  else if tag = 30 then do
    let (count, first) ← Traced.lift (decoder.childRange reader)
    let result ← renderItems decoder render first 0 count.toNat (lit "[")
    pure (result ++ lit "]")
  else Traced.lift ((renderScalar engine tag reader).map Prod.fst)

/-- `Decoder::render`, with the levels that are left below the limit and the active values. -/
def render : Nat → List UInt32 → UInt32 → Rendering Bytes
  | 0, _, _ => Traced.lift (invalid "VARIANT value exceeds nesting limit")
  | room + 1, active, index =>
    if index ∈ active then Traced.lift (invalid "Cyclic VARIANT value indexes")
    else do
      Traced.note ⟨maximumDepth - room, active ++ [index]⟩
      let (tag, reader) ← Traced.lift (decoder.value index)
      renderValue engine decoder (render room (active ++ [index])) tag reader

end Render

/-! ## Rows -/

/-- `field`, of the first child or of the second. -/
def field {First Second α : Type} (vector : PairVector First Second)
    (child : PairVector First Second → Option (CellVector α)) (expected : VectorType) :
    Except Stop (CellVector α) :=
  if vector.type ≠ some .struct ∨ vector.count ≠ 2 then
    invalid "Unsupported VARIANT entry layout"
  else requireType (child vector) (fun child => child.type) expected

/-- `Decoder::payload`: a reader over the blob of a row. -/
def payload (vector : VariantVector) (row : UInt64) : Except Stop Reader := do
  let child ← requireType vector.blob (fun blob => blob.type) .blob
  match child.data with
  | none => invalid "Missing VARIANT blob data"
  | some data =>
    if child.mask.any fun mask => !mask row then invalid "NULL VARIANT blob data"
    else
      match data row with
      | none => invalid "Missing VARIANT payload"
      | some region => .ok (Reader.of region.bytes)

/-- The constructor of `Decoder`, which checks the vectors of a row. -/
def makeDecoder (vector : VariantVector) (row : UInt64) : Except Stop Decoder := do
  let keys ← metadataList vector.keys row (fun child => child.type) .varchar
  let children ← metadataList vector.children row (fun child => child.type) .struct
  let values ← metadataList vector.values row (fun child => child.type) .struct
  let keysIndex ← field children.child (fun pair => pair.first) .uinteger
  let valuesIndex ← field children.child (fun pair => pair.second) .uinteger
  let typeId ← field values.child (fun pair => pair.first) .utinyint
  let byteOffset ← field values.child (fun pair => pair.second) .uinteger
  let blob ← payload vector row
  .ok ⟨keys, children, values, keysIndex, valuesIndex, typeId, byteOffset, blob⟩

/-- `duckdb_decode_variant`: the text of a row, or nothing for NULL. -/
def duckdbDecodeVariant (engine : Engine) (supportedFormat : Bool) (vector : VariantVector)
    (row : UInt64) : Rendering (Option Bytes) :=
  if supportedFormat then do
    let _ ← Traced.lift (requireType (some vector) (fun vector => vector.type) .variant)
    if vector.mask.any fun mask => !mask row then pure none
    else do
      let decoder ← Traced.lift (makeDecoder vector row)
      let text ← render engine decoder (maximumDepth + 1) [] 0
      pure (some text)
  else Traced.lift (invalid "VARIANT result decoding requires verified DuckDB 2.0.x layout")

end PhpDuckdb.Variant
