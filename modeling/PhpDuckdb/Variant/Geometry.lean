import PhpDuckdb.Variant.Reader
import PhpDuckdb.Variant.Text

/-!
# Geometries

A GEOMETRY in a VARIANT is little-endian WKB. The renderer reads it in one pass and writes its text
as it goes, with seven types of geometry and collections inside of collections.
-/

namespace PhpDuckdb.Variant

open SqlText Transducer Reader

/-! ## The renderer -/

/-- The reader and the writer, as the recursion passes them on. -/
structure Scan where
  /-- `Reader`. -/
  reader : Reader
  /-- `TextWriter::buffer`. -/
  buffer : Bytes

/-- A computation over a reader and a writer. -/
abbrev Writing := StateT Scan (Except Stop)

/-- A read, which leaves the writer alone. -/
def reads {α : Type} (read : Reading α) : Writing α := fun scan =>
  match read scan.reader with
  | .error stop => .error stop
  | .ok (value, reader) => .ok (value, { scan with reader })

/-- `Write`: puts a text behind what is written. -/
def write (text : Bytes) : Writing Unit := fun scan =>
  .ok ((), { scan with buffer := scan.buffer ++ text })

/-- What `invalid` throws for a geometry. -/
def corrupt : Stop := .invalid "Invalid VARIANT geometry payload"

/-- `GeometryType`: the types of geometries, without `INVALID`. -/
inductive GeometryType where
  /-- `POINT`. -/
  | point
  /-- `LINESTRING`. -/
  | lineString
  /-- `POLYGON`. -/
  | polygon
  /-- `MULTIPOINT`. -/
  | multiPoint
  /-- `MULTILINESTRING`. -/
  | multiLineString
  /-- `MULTIPOLYGON`. -/
  | multiPolygon
  /-- `GEOMETRYCOLLECTION`. -/
  | geometryCollection
deriving DecidableEq, Repr

/-- The type of a header; none for the values that no case of the switch names. -/
def geometryType (metadata : UInt32) : Option GeometryType :=
  match (metadata &&& 0x0000FFFF) % 1000 with
  | 1 => some .point
  | 2 => some .lineString
  | 3 => some .polygon
  | 4 => some .multiPoint
  | 5 => some .multiLineString
  | 6 => some .multiPolygon
  | 7 => some .geometryCollection
  | _ => none

/-- `has_z` and `has_m`: the coordinates besides the first two. -/
structure Flags where
  /-- There is a third coordinate. -/
  hasZ : Bool
  /-- There is a measure. -/
  hasM : Bool
deriving DecidableEq, Repr

/-- The flags that the word behind the byte order tells. -/
def flagsOf (metadata : UInt32) : Flags :=
  let flag := (metadata &&& 0x0000FFFF) / 1000
  ⟨flag &&& 0x01 ≠ 0, flag &&& 0x02 ≠ 0⟩

/-- `dims`: how many coordinates a vertex has. -/
def Flags.dims (flags : Flags) : Nat :=
  2 + (if flags.hasZ then 1 else 0) + if flags.hasM then 1 else 0

/-- `flag_str`: the word behind the name of a geometry that tells its dimensions. -/
def Flags.text (flags : Flags) : Bytes :=
  if flags.hasZ then if flags.hasM then lit " ZM " else lit " Z "
  else if flags.hasM then lit " M " else lit " "

/-- The word that the text of a geometry begins with. -/
def GeometryType.word : GeometryType → Bytes
  | .point => lit "POINT"
  | .lineString => lit "LINESTRING"
  | .polygon => lit "POLYGON"
  | .multiPoint => lit "MULTIPOINT"
  | .multiLineString => lit "MULTILINESTRING"
  | .multiPolygon => lit "MULTIPOLYGON"
  | .geometryCollection => lit "GEOMETRYCOLLECTION"

section Renderer

variable (dtoa : UInt64 → Shortest)

/-- `Read<double>`: the bits of the next eight bytes. -/
def readDouble : Writing UInt64 := do
  let bits ← reads (native 8)
  pure (UInt64.ofNat bits)

/-- `Read<uint32_t>`: four bytes in the order of the host. -/
def readWord : Writing UInt32 := do
  let word ← reads (native 4)
  pure (UInt32.ofNat word)

/-- The byte order, which is checked, and the metadata of a geometry or of a part. -/
def readHeader : Writing UInt32 := do
  let byteOrder ← reads (native 1)
  check (byteOrder = 1) corrupt
  readWord

/-- A coordinate that is read and written. -/
def coordinate : Writing Unit := do
  let value ← readDouble
  write (real dtoa value true)

/-- The coordinates of a vertex, with a space between two. -/
def vertex (dims : Nat) : Writing Unit := separated (write (lit " ")) (coordinate dtoa) 0 dims

/-- The coordinates of a point, read before any is written. -/
def readVertex : Nat → Writing (List UInt64)
  | 0 => pure []
  | dims + 1 => do
    let value ← readDouble
    let others ← readVertex dims
    pure (value :: others)

/-- The coordinates of a point, written from an index on. -/
def writeVertex : Nat → List UInt64 → Writing Unit
  | _, [] => pure ()
  | index, value :: others => do
    leading (write (lit " ")) index
    write (real dtoa value true)
    writeVertex (index + 1) others

/-- A point: `EMPTY` when all its coordinates are NaN; a part of a MULTIPOINT has no parentheses. -/
def pointBody (parentheses : Bool) (dims : Nat) : Writing Unit := do
  let vert ← readVertex dims
  if vert.all isNan then write (lit "EMPTY")
  else do
    write (if parentheses then lit "(" else [])
    writeVertex dtoa 0 vert
    write (if parentheses then lit ")" else [])

/-- A counted list: `EMPTY` when there is nothing in it. The list of the vertices of a line or of a
ring, of the rings of a polygon and of the parts of a geometry are the same code over other
items. -/
def sequence (item : Writing Unit) : Writing Unit := do
  let count ← readWord
  if count = 0 then write (lit "EMPTY")
  else do
    write (lit "(")
    separated (write (lit ", ")) item 0 count.toNat
    write (lit ")")

/-- A part of a type with the flags of what it is a part of. -/
def part (flags : Flags) (type : GeometryType) (body : Writing Unit) : Writing Unit := do
  let metadata ← readHeader
  check (geometryType metadata = some type) corrupt
  check (flags = flagsOf metadata) corrupt
  body

/-- The cases of the switch, after the word and the flags. -/
def typeBody (flags : Flags) (recursive : Writing Unit) : GeometryType → Writing Unit
  | .point => pointBody dtoa true flags.dims
  | .lineString => sequence (vertex dtoa flags.dims)
  | .polygon => sequence (sequence (vertex dtoa flags.dims))
  | .multiPoint => sequence (part flags .point (pointBody dtoa false flags.dims))
  | .multiLineString => sequence (part flags .lineString (sequence (vertex dtoa flags.dims)))
  | .multiPolygon => sequence (part flags .polygon (sequence (sequence (vertex dtoa flags.dims))))
  | .geometryCollection => sequence recursive

/-- `maximum_depth`: how deep collections may nest. -/
def maximumDepth : Nat := 64

/-- The switch over the type of a geometry, behind its header. -/
def geometryBody (recursive : Flags → Writing Unit) (metadata : UInt32) : Writing Unit :=
  match geometryType metadata with
  | none => throw corrupt
  | some type => do
    write (type.word ++ (flagsOf metadata).text)
    typeBody dtoa (flagsOf metadata) (recursive (flagsOf metadata)) type

/-- `ToStringRecursive`, with the levels that are left below `maximum_depth` and the flags of the
parent. -/
def toStringRecursive : Nat → Flags → Writing Unit
  | 0, _ => throw corrupt
  | room + 1, parent => do
    let metadata ← readHeader
    check (maximumDepth - (room + 1) = 0 ∨ parent = flagsOf metadata) corrupt
    geometryBody dtoa (toStringRecursive room) metadata

/-- `geometry`: the text of a WKB blob, which must be read to its end. -/
def geometry (data : Bytes) : Except Stop Bytes :=
  match toStringRecursive dtoa maximumDepth ⟨false, false⟩ ⟨Reader.of data, []⟩ with
  | .error stop => .error stop
  | .ok ((), scan) =>
    if scan.reader.remaining ≠ 0 then .error (.invalid "Trailing VARIANT geometry bytes")
    else .ok scan.buffer

end Renderer

end PhpDuckdb.Variant
