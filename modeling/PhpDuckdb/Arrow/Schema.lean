import PhpDuckdb.Lib.Framing
import PhpDuckdb.Value.Conversion

/-!
# Arrow schemas

`ArrowSchema` of the C data interface, the check of an imported schema, and the three readers of
its metadata. A function without a result reads memory that is not the schema's.
-/

namespace PhpDuckdb.Arrow

open SqlText Framing PhpDuckdb.Value

/-- A text that ends at its NUL, and so holds none. -/
abbrev CString : Type := { text : Bytes // (0 : UInt8) ∉ text }

/-! ## Schemas -/

/-- The fields of an `ArrowSchema` besides its children and its dictionary; null pointers are
`none`. -/
structure SchemaFields where
  /-- `format`. -/
  format : Option CString
  /-- `name`. -/
  name : Option CString
  /-- `metadata`: the memory from its pointer on that may be read. -/
  metadata : Option Bytes
  /-- `flags`. -/
  flags : Int64
  /-- `n_children`. -/
  nChildren : Int64
  /-- `children` is not null. -/
  hasChildren : Bool
  /-- `release` is not null. -/
  release : Bool

mutual

/-- `ArrowSchema`: the fields of a schema, its children and its dictionary. -/
inductive ArrowSchema
  | mk (fields : SchemaFields) (children : SchemaChildren) (dictionary : SchemaPointer)

/-- The pointers that `children` points to, `n_children` of them. -/
inductive SchemaChildren
  | nil
  | cons (child : SchemaPointer) (rest : SchemaChildren)

/-- A pointer to a schema, which may be null. -/
inductive SchemaPointer
  | null
  | pointee (schema : ArrowSchema)

end

/-! ## Metadata -/

/-- The bound on metadata in bytes. -/
def maxBytes : Nat := 64 * 1024 * 1024

/-- The bound on the number of entries. -/
def maxEntries : Nat := 65536

/-- A signed size of 32 bits as a `size_t`, a negative one turned into a huge one. -/
def toSize (size : Int32) : Nat := size.toInt64.toUInt64.toNat

/-- What `metadata_length` finds: its error and the length so far. -/
structure Measured where
  /-- The error that it throws. -/
  rejected : Option Thrown
  /-- The bytes that it walked over. -/
  length : Nat

/-- The error of an entry that is negative or too long. -/
def oversizedMetadata : Thrown := valueError "Invalid or oversized Arrow metadata"

/-- One part of an entry in `metadata_length`. -/
def metadataPart (metadata : Bytes) (length : Nat) : Option Measured :=
  if maxBytes - 4 < length then some ⟨some oversizedMetadata, length⟩
  else do
    let size ← readInt32 metadata length
    if size < 0 ∨ maxBytes - (length + 4) < toSize size then
      some ⟨some oversizedMetadata, length + 4⟩
    else some ⟨none, length + 4 + toSize size⟩

/-- The loop of `metadata_length` over the entries, which adds up their bytes. -/
def metadataEntries (metadata : Bytes) : Nat → Nat → Option Measured
  | 0, length => some ⟨none, length⟩
  | count + 1, length => do
    let key ← metadataPart metadata length
    if key.rejected.isSome then some key
    else
      let value ← metadataPart metadata key.length
      if value.rejected.isSome then some value
      else metadataEntries metadata count value.length

/-- `metadata_length`: the bytes that a metadata block takes, read from its counts. -/
def metadataLength : Option Bytes → Option Measured
  | none => some ⟨none, 0⟩
  | some metadata => do
    let count ← readInt32 metadata 0
    if count < 0 ∨ 65536 < count then
      some ⟨some (valueError "Invalid Arrow metadata entry count"), 0⟩
    else metadataEntries metadata count.toInt.toNat 4

/-- One part of an entry, read without a check: its bytes and the offset of the next part. -/
def readPart (metadata : Bytes) (offset : Nat) : Option (Bytes × Nat) := do
  let length ← readInt32 metadata offset
  let text ← readBytes metadata (offset + 4) (toSize length)
  some (text, offset + 4 + toSize length)

/-! ## Checks -/

mutual

/-- `validate_schema`, with the depths that are left. -/
def validateSchema : Nat → ArrowSchema → Option (Except Thrown Unit)
  | depths, .mk fields children dictionary =>
    if depths = 0 ∨ fields.release = false ∨ fields.format = none ∨ fields.nChildren < 0 ∨
        65536 < fields.nChildren ∨ (fields.nChildren ≠ 0 ∧ fields.hasChildren = false) then
      some (.error (valueError "Invalid, released, or excessively nested Arrow schema"))
    else do
      let measured ← metadataLength fields.metadata
      match measured.rejected with
      | some thrown => some (.error thrown)
      | none =>
        match ← validateChildren (depths - 1) children with
        | .error thrown => some (.error thrown)
        | .ok () =>
          match dictionary with
          | .null => some (.ok ())
          | .pointee schema => validateSchema (depths - 1) schema

/-- The loop of `validate_schema` over the children, of which none may be null. -/
def validateChildren : Nat → SchemaChildren → Option (Except Thrown Unit)
  | _, .nil => some (.ok ())
  | _, .cons .null _ => some (.error (valueError "Arrow schema contains a null child"))
  | depths, .cons (.pointee child) rest => do
    match ← validateSchema depths child with
    | .error thrown => some (.error thrown)
    | .ok () => validateChildren depths rest

end

/-- The depths of a schema, 0 to 128. -/
def maxDepths : Nat := 129

/-! ## Copies -/

/-- The part of `copy_schema` for the metadata, whose length is measured first. -/
def copyMetadata : Option Bytes → Option (Option Bytes)
  | none => some none
  | some metadata => do
    let measured ← metadataLength (some metadata)
    let copied ← readBytes metadata 0 measured.length
    some (some copied)

mutual

/-- `copy_schema`: a copy of a schema with everything below it, in memory of its own. -/
def copySchema : ArrowSchema → Option ArrowSchema
  | .mk fields children dictionary => do
    let format ← fields.format
    let metadata ← copyMetadata fields.metadata
    let copies ← copyChildren children
    let storage ← copyDictionary dictionary
    some (.mk ⟨some format, fields.name, metadata, fields.flags, fields.nChildren,
      fields.nChildren ≠ 0, true⟩ copies storage)

/-- The loop of `copy_schema` over the children, each copied in full. -/
def copyChildren : SchemaChildren → Option SchemaChildren
  | .nil => some .nil
  | .cons .null _ => none
  | .cons (.pointee child) rest => do
    let copy ← copySchema child
    let others ← copyChildren rest
    some (.cons (.pointee copy) others)

/-- The part of `copy_schema` for the dictionary, copied when there is one. -/
def copyDictionary : SchemaPointer → Option SchemaPointer
  | .null => some .null
  | .pointee schema => do
    let copy ← copySchema schema
    some (.pointee copy)

end

/-! ## Arrays -/

/-- The loop of `schema_to_array` over the entries. -/
def entriesToArray (metadata : Bytes) : Nat → Int64 → Nat → Option Elements
  | 0, _, _ => some .nil
  | count + 1, index, offset => do
    let (key, offset) ← readPart metadata offset
    let (value, offset) ← readPart metadata offset
    let entry := Elements.cons (.name (lit "key")) (.string key)
      (.cons (.name (lit "value")) (.string value) .nil)
    let rest ← entriesToArray metadata count (index + 1) offset
    some (.cons (.index index) (.array entry) rest)

/-- The part of `schema_to_array` for the metadata, read entry by entry. -/
def metadataToArray : Option Bytes → Option Elements
  | none => some .nil
  | some metadata => do
    let count ← readInt32 metadata 0
    entriesToArray metadata count.toInt.toNat 0 4

/-- A string that may be absent. -/
def stringOrNull : Option CString → Zval
  | some text => .string text.val
  | none => .null

mutual

/-- `schema_to_array`: a schema as the PHP array that `toArray` returns. -/
def schemaToArray : ArrowSchema → Option Elements
  | .mk fields children dictionary => do
    let format ← fields.format
    let metadata ← metadataToArray fields.metadata
    let others ← childrenToArray 0 children
    let last ← dictionaryToArray dictionary
    some (.cons (.name (lit "format")) (.string format.val)
      (.cons (.name (lit "name")) (stringOrNull fields.name)
        (.cons (.name (lit "flags")) (.long fields.flags)
          (.cons (.name (lit "metadata")) (.array metadata)
            (.cons (.name (lit "children")) (.array others)
              (.cons (.name (lit "dictionary")) last .nil))))))

/-- The loop of `schema_to_array` over the children. -/
def childrenToArray : Int64 → SchemaChildren → Option Elements
  | _, .nil => some .nil
  | _, .cons .null _ => none
  | index, .cons (.pointee child) rest => do
    let decoded ← schemaToArray child
    let others ← childrenToArray (index + 1) rest
    some (.cons (.index index) (.array decoded) others)

/-- The part of `schema_to_array` for the dictionary, or null without one. -/
def dictionaryToArray : SchemaPointer → Option Zval
  | .null => some .null
  | .pointee schema => do
    let decoded ← schemaToArray schema
    some (.array decoded)

end

/-! ## Extensions -/

/-- The name and the metadata of an extension. -/
structure Extension where
  /-- `extension_name`. -/
  name : Bytes
  /-- `extension_metadata`. -/
  metadata : Bytes
  deriving DecidableEq, Repr

/-- What an entry is to `duckdb_arrow_extension_metadata`: its name, its metadata or nothing. -/
def Extension.assign (extension : Extension) (key value : Bytes) : Extension :=
  if key = lit "ARROW:extension:name" then { extension with name := value }
  else if key = lit "ARROW:extension:metadata" then { extension with metadata := value }
  else extension

/-- The loop of `duckdb_arrow_extension_metadata` over the entries; the last of a name stays. -/
def extensionEntries (metadata : Bytes) : Nat → Nat → Extension → Option Extension
  | 0, _, extension => some extension
  | count + 1, cursor, extension => do
    let (key, cursor) ← readPart metadata cursor
    let (value, cursor) ← readPart metadata cursor
    extensionEntries metadata count cursor (extension.assign key value)

/-- `duckdb_arrow_extension_metadata` of a schema's metadata, measured before it is read. -/
def duckdbArrowExtensionMetadata (metadata : Option Bytes) : Option (Except Thrown Extension) := do
  let measured ← metadataLength metadata
  match measured.rejected with
  | some thrown => some (.error thrown)
  | none =>
    match metadata with
    | none => some (.ok ⟨[], []⟩)
    | some bytes => do
      let count ← readInt32 bytes 0
      let extension ← extensionEntries bytes count.toInt.toNat 4 ⟨[], []⟩
      some (.ok extension)

end PhpDuckdb.Arrow
