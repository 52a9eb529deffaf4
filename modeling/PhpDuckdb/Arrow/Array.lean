import PhpDuckdb.Arrow.Schema
import PhpDuckdb.Lib.Bitmap

/-!
# Arrow arrays

`ArrowArray` of the C data interface, the check of an imported array against its schema, and the
view of it that DuckDB's importer is given.
-/

namespace PhpDuckdb.Arrow

open SqlText Framing Bitmap PhpDuckdb.Value

/-! ## Arrays -/

/-- The fields of an `ArrowArray` besides its children and its dictionary. -/
structure ArrayFields where
  /-- `length`. -/
  length : Int64
  /-- `null_count`. -/
  nullCount : Int64
  /-- `offset`. -/
  offset : Int64
  /-- `n_buffers`. -/
  nBuffers : Int64
  /-- `n_children`. -/
  nChildren : Int64
  /-- `buffers` is not null. -/
  hasBuffers : Bool
  /-- The pointers that it points to, `n_buffers` of them: null, or the memory from there on that
  may be read. -/
  buffers : List (Option Bytes)
  /-- `children` is not null. -/
  hasChildren : Bool
  /-- `release` is not null. -/
  release : Bool

mutual

/-- `ArrowArray`: the fields of an array, its children and its dictionary. -/
inductive ArrowArray
  | mk (fields : ArrayFields) (children : ArrayChildren) (dictionary : ArrayPointer)

/-- The pointers that `children` points to, `n_children` of them. -/
inductive ArrayChildren
  | nil
  | cons (child : ArrayPointer) (rest : ArrayChildren)

/-- A pointer to an array, which may be null. -/
inductive ArrayPointer
  | null
  | pointee (array : ArrowArray)

end

/-- The fields of an array, without its children and its dictionary. -/
def ArrowArray.fields : ArrowArray → ArrayFields
  | .mk fields _ _ => fields

/-- A null pointer to an array. -/
def ArrayPointer.isNull : ArrayPointer → Bool
  | .null => true
  | .pointee _ => false

/-- A null pointer to a schema. -/
def SchemaPointer.isNull : SchemaPointer → Bool
  | .null => true
  | .pointee _ => false

/-- `strcmp(schema.format, "+s") == 0`: the format is that of a struct. -/
def isStruct (format : CString) : Bool := format.val = lit "+s"

/-! ## Checks -/

/-- The checks of a struct's only buffer in `validate_array`. -/
def validateStruct (format : CString) (fields : ArrayFields) : Option (Except Thrown Unit) :=
  if isStruct format = false then some (.ok ())
  else if fields.nBuffers ≠ 1 then
    some (.error (valueError "Arrow struct arrays require one validity buffer"))
  else if 0 < fields.nullCount then
    match fields.buffers with
    | [] => none
    | none :: _ =>
      some (.error (valueError "Arrow struct null rows require a validity bitmap"))
    | some _ :: _ => some (.ok ())
  else some (.ok ())

/-- The checks of the fields in `validate_array`. -/
def validateFields (depths : Nat) (fields : ArrayFields) (schema : SchemaFields)
    (sameDictionary : Bool) : Except Thrown Unit :=
  if depths = 0 ∨ fields.release = false ∨ fields.length < 0 ∨ fields.offset < 0 ∨
      fields.nullCount < -1 ∨ fields.length < fields.nullCount ∨ fields.nBuffers < 0 ∨
      65536 < fields.nBuffers ∨ (fields.nBuffers ≠ 0 ∧ fields.hasBuffers = false) ∨
      fields.nChildren ≠ schema.nChildren ∨
      (fields.nChildren ≠ 0 ∧ fields.hasChildren = false) ∨ sameDictionary = false then
    .error (valueError "Invalid, released, or incompatible Arrow array")
  else if Int64.maxValue - fields.length < fields.offset then
    .error (valueError "Arrow array offset and length overflow")
  else .ok ()

mutual

/-- `validate_array`, with the depths that are left. -/
def validateArray : Nat → ArrowArray → ArrowSchema → Option (Except Thrown Unit)
  | depths, .mk fields children dictionary, .mk schema schemas meanings =>
    match validateFields depths fields schema (dictionary.isNull == meanings.isNull) with
    | .error thrown => some (.error thrown)
    | .ok () => do
      let format ← schema.format
      let checked ← validateStruct format fields
      match checked with
      | .error thrown => some (.error thrown)
      | .ok () => do
        let nested ← validateArrayChildren (depths - 1)
          (if isStruct format then some (fields.offset + fields.length) else none) children schemas
        match nested with
        | .error thrown => some (.error thrown)
        | .ok () => validateArrayDictionary (depths - 1) dictionary meanings

/-- The loop of `validate_array`; the children of a struct hold its slice. -/
def validateArrayChildren : Nat → Option Int64 → ArrayChildren → SchemaChildren →
    Option (Except Thrown Unit)
  | _, _, .nil, _ => some (.ok ())
  | _, _, .cons .null _, _ =>
    some (.error (valueError "Arrow array contains a null child"))
  | depths, slice, .cons (.pointee child) rest, schemas =>
    if slice.any fun needed => child.fields.length < needed then
      some (.error (valueError "Arrow struct child does not contain the parent slice"))
    else
      match schemas with
      | .cons (.pointee schema) others => do
        let checked ← validateArray depths child schema
        match checked with
        | .error thrown => some (.error thrown)
        | .ok () => validateArrayChildren depths slice rest others
      | _ => none

/-- The part of `validate_array` for the dictionary, which must be where the schema has one. -/
def validateArrayDictionary : Nat → ArrayPointer → SchemaPointer → Option (Except Thrown Unit)
  | _, .null, _ => some (.ok ())
  | depths, .pointee array, .pointee schema => validateArray depths array schema
  | _, .pointee _, .null => none

end

/-! ## Views -/

/-- The loop of `normalize_arrow_array` over the rows of a struct: the bitmap that it writes and the
nulls that it counts. -/
def rebaseRows (source : Bytes) (start : Nat) : Nat → Nat → Bytes → Nat → Option (Bytes × Nat)
  | 0, _, validity, nulls => some (validity, nulls)
  | rows + 1, row, validity, nulls => do
    let valid ← readBit source (start + row)
    if valid then rebaseRows source start rows (row + 1) (setBit validity row) nulls
    else rebaseRows source start rows (row + 1) validity (nulls + 1)

/-- The null count and the buffers of a struct's view. -/
def structBuffers (fields : ArrayFields) (effectiveOffset length : Int64) :
    Option (Int64 × List (Option Bytes)) :=
  match fields.buffers with
  | [] => none
  | none :: rest => some (0, none :: rest)
  | some source :: rest =>
    if fields.nullCount ≠ 0 then do
      let rows := length.toInt.toNat
      let (validity, nulls) ← rebaseRows source effectiveOffset.toInt.toNat rows 0
        (zeros ((rows + 7) / 8 + 1)) 0
      some (Int64.ofNat nulls, some validity :: rest)
    else some (0, none :: rest)

/-- `strncmp(schema.format, "+u", 2) == 0`: the format is that of a union. -/
def isUnion (format : CString) : Bool := format.val.take 2 = lit "+u"

/-- The buffers of any view but a struct's: an absent bitmap is written out when it is needed. -/
def paddedBuffers (fields : ArrayFields) (format : CString) : Option (List (Option Bytes)) :=
  if fields.nullCount ≠ 0 ∧ 0 < fields.nBuffers then
    match fields.buffers with
    | [] => none
    | none :: rest => some (none :: rest)
    | some source :: rest =>
      if isUnion format then some (some source :: rest)
      else do
        let copied ← readBytes source 0 (bytesFor (fields.offset + fields.length).toInt.toNat)
        some (some (copied ++ [0]) :: rest)
  else some fields.buffers

/-- The fields of a view before its children. -/
def viewFields (fields : ArrayFields) (format : CString) (effectiveOffset length : Int64) :
    Option ArrayFields :=
  if isStruct format then do
    let (nulls, buffers) ← structBuffers fields effectiveOffset length
    some { fields with
      length := length, nullCount := nulls, offset := 0, buffers := buffers,
      hasChildren := fields.nChildren ≠ 0, release := true }
  else do
    let buffers ← paddedBuffers fields format
    some { fields with
      length := length, offset := effectiveOffset, buffers := buffers,
      hasChildren := fields.nChildren ≠ 0, release := true }

/-- The checks of `normalize_arrow_array`, and the offset that it applies. -/
def effectiveOffset (fields : ArrayFields) (inheritedOffset length : Int64) :
    Except Thrown Int64 :=
  if Int64.maxValue - inheritedOffset < fields.offset ∨ fields.length < inheritedOffset ∨
      fields.length - inheritedOffset < length then
    .error (valueError "Arrow child array does not contain the parent slice")
  else if Int64.maxValue - length < fields.offset + inheritedOffset then
    .error (valueError "Arrow array slice overflows the array bounds")
  else .ok (fields.offset + inheritedOffset)

/-- A default length of `normalize_arrow_array` is the array's. -/
def sliceLength (fields : ArrayFields) (length : Int64) : Int64 :=
  if length < 0 then fields.length else length

mutual

/-- `normalize_arrow_array`: the array that the facade shows DuckDB, with the offsets moved into its
leaves. -/
def normalizeArrowArray : ArrowArray → ArrowSchema → Int64 → Int64 →
    Option (Except Thrown ArrowArray)
  | .mk fields children dictionary, .mk schema schemas meanings, inheritedOffset, length =>
    match effectiveOffset fields inheritedOffset (sliceLength fields length) with
    | .error thrown => some (.error thrown)
    | .ok effective => do
      let format ← schema.format
      let view ← viewFields fields format effective (sliceLength fields length)
      let nested ← normalizeChildren children schemas (if isStruct format then effective else 0)
        (if isStruct format then sliceLength fields length else -1)
      match nested with
      | .error thrown => some (.error thrown)
      | .ok views => do
        let storage ← normalizeDictionary dictionary meanings
        match storage with
        | .error thrown => some (.error thrown)
        | .ok meaning => some (.ok (.mk view views meaning))

/-- The loop of `normalize_arrow_array` over the children. -/
def normalizeChildren : ArrayChildren → SchemaChildren → Int64 → Int64 →
    Option (Except Thrown ArrayChildren)
  | .nil, _, _, _ => some (.ok .nil)
  | .cons (.pointee child) rest, .cons (.pointee schema) others, inheritedOffset, length => do
    let nested ← normalizeArrowArray child schema inheritedOffset length
    match nested with
    | .error thrown => some (.error thrown)
    | .ok view => do
      let later ← normalizeChildren rest others inheritedOffset length
      match later with
      | .error thrown => some (.error thrown)
      | .ok views => some (.ok (.cons (.pointee view) views))
  | _, _, _, _ => none

/-- The part of `normalize_arrow_array` for the dictionary, which inherits no offset. -/
def normalizeDictionary : ArrayPointer → SchemaPointer → Option (Except Thrown ArrayPointer)
  | .null, _ => some (.ok .null)
  | .pointee array, .pointee schema => do
    let nested ← normalizeArrowArray array schema 0 (-1)
    match nested with
    | .error thrown => some (.error thrown)
    | .ok view => some (.ok (.pointee view))
  | .pointee _, .null => none

end

end PhpDuckdb.Arrow
