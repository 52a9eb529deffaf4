import PhpDuckdb.Arrow.Schema

/-!
# The layout of Arrow metadata

Lists of keys and values laid out as the C data interface says, and arbitrary layouts with their
signed counts and sizes. `metadata_codec` says that the validator and the three readers agree about
the former, and that every layout past the limits is rejected within them.
-/

namespace PhpDuckdb.Arrow

open SqlText Framing PhpDuckdb.Value

/-! ## Entries -/

/-- An entry of a metadata block: a key and its value. -/
abbrev Entry : Type := Bytes × Bytes

/-- The bytes of an entry: its key and its value, each behind its length. -/
def entryBytes (entry : Entry) : Bytes := frame entry.1 ++ frame entry.2

/-- The bytes of some entries, one behind the other. -/
def entriesBytes : List Entry → Bytes
  | [] => []
  | entry :: rest => entryBytes entry ++ entriesBytes rest

/-- The layout of a list of entries. -/
def metadataBytes (entries : List Entry) : Bytes :=
  int32Bytes (Int32.ofNat entries.length) ++ entriesBytes entries

/-- A list that the validator admits. -/
structure WithinLimits (entries : List Entry) : Prop where
  /-- The number of entries. -/
  count : entries.length ≤ maxEntries
  /-- The size of the layout. -/
  size : (metadataBytes entries).length ≤ maxBytes

/-- What PHP sees of the entries. -/
def entriesArray : Int64 → List Entry → Elements
  | _, [] => .nil
  | index, (key, value) :: rest =>
    .cons (.index index)
      (.array (.cons (.name (lit "key")) (.string key)
        (.cons (.name (lit "value")) (.string value) .nil)))
      (entriesArray (index + 1) rest)

/-- The last value of a key, or a default. -/
def lastValue (wanted : Bytes) (entries : List Entry) (default : Bytes) : Bytes :=
  ((entries.filter fun entry => entry.1 = wanted).getLast?.map Prod.snd).getD default

/-! ## Sizes -/

/-- A size that is not negative is itself. -/
theorem toSize_eq {size : Int32} (positive : 0 ≤ size.toInt) : toSize size = size.toInt.toNat := by
  have same : size.toInt64.toInt = size.toInt := Int32.toInt_toInt64 size
  rw [toSize, toUInt64_toNat (by rw [same]; exact positive), same]
  omega

/-- A length within the limit survives its conversions to `int32_t` and to a size. -/
theorem size_of_length {length : Nat} (small : length ≤ maxBytes) :
    (Int32.ofNat length).toInt = length ∧ toSize (Int32.ofNat length) = length := by
  rw [maxBytes] at small
  have exact_ : (Int32.ofNat length).toInt = length := Int32.toInt_ofNat_of_lt (by omega)
  refine ⟨exact_, ?_⟩
  rw [toSize_eq (by omega), exact_]
  rfl

/-- The comparison of words tells which sizes are negative. -/
theorem size_negative (size : Int32) : size < 0 ↔ size.toInt < 0 := by
  have zero : (0 : Int32).toInt = 0 := rfl
  rw [Int32.lt_iff_toInt_lt, zero]

/-! ## The validator -/

/-- A framed text among other bytes is one part of the metadata. -/
theorem metadataPart_frame (before after : Bytes) {metadata text : Bytes} {length : Nat}
    (holds : metadata = before ++ (frame text ++ after)) (place : before.length = length)
    (small : length + (frame text).length ≤ maxBytes) :
    metadataPart metadata length = some ⟨none, length + (frame text).length⟩ := by
  rw [frame_length] at small
  obtain ⟨positive, same⟩ := size_of_length (show text.length ≤ maxBytes by omega)
  have read : readInt32 metadata length = some (Int32.ofNat text.length) :=
    readInt32_eq before (text ++ after)
      (by rw [holds, frame, List.append_assoc, List.append_assoc]) place
  have fits : ¬(Int32.ofNat text.length < 0 ∨
      maxBytes - (length + 4) < toSize (Int32.ofNat text.length)) := by
    rw [size_negative, positive, same]
    omega
  rw [metadataPart, if_neg (by omega), read]
  show (if _ then _ else _) = _
  rw [if_neg fits, same, frame_length, Nat.add_assoc]

/-- The framed entries among other bytes are all entries of the metadata. -/
theorem metadataEntries_eq (before after : Bytes) {entries : List Entry} {metadata : Bytes}
    {length : Nat} (holds : metadata = before ++ (entriesBytes entries ++ after))
    (place : before.length = length)
    (small : length + (entriesBytes entries).length ≤ maxBytes) :
    metadataEntries metadata entries.length length =
      some ⟨none, length + (entriesBytes entries).length⟩ := by
  induction entries generalizing before length with
  | nil => rfl
  | cons entry rest ih =>
    obtain ⟨key, value⟩ := entry
    rw [entriesBytes, entryBytes] at holds small ⊢
    simp only [List.length_append] at small ⊢
    have first : metadataPart metadata length = some ⟨none, length + (frame key).length⟩ :=
      metadataPart_frame before (frame value ++ (entriesBytes rest ++ after))
        (by rw [holds]; simp only [List.append_assoc]) place (by omega)
    have second : metadataPart metadata (length + (frame key).length) =
        some ⟨none, length + (frame key).length + (frame value).length⟩ :=
      metadataPart_frame (before ++ frame key) (entriesBytes rest ++ after)
        (by rw [holds]; simp only [List.append_assoc])
        (by rw [List.length_append, place]) (by omega)
    have others := ih (before ++ frame key ++ frame value)
      (by rw [holds]; simp only [List.append_assoc])
      (show _ = length + (frame key).length + (frame value).length by
        rw [List.length_append, List.length_append, place]) (by omega)
    rw [List.length_cons, metadataEntries, first]
    show (metadataPart metadata (length + (frame key).length) >>= fun value => _) = _
    rw [second]
    show metadataEntries metadata rest.length _ = _
    rw [others]
    simp only [Nat.add_assoc]

/-- The count of a layout within the limits. -/
theorem count_eq {entries : List Entry} (limits : WithinLimits entries) :
    (Int32.ofNat entries.length).toInt = entries.length := by
  have most := limits.count
  rw [maxEntries] at most
  exact Int32.toInt_ofNat_of_lt (by omega)

/-- The number of entries is read from the start of the metadata. -/
theorem count_read (entries : List Entry) (after : Bytes) :
    readInt32 (metadataBytes entries ++ after) 0 = some (Int32.ofNat entries.length) :=
  readInt32_eq [] (entriesBytes entries ++ after)
    (by rw [metadataBytes, List.append_assoc, List.nil_append]) rfl

/-- `metadata_length` gives the size of metadata that is laid out within the limits. -/
theorem metadataLength_eq {entries : List Entry} (limits : WithinLimits entries) (after : Bytes) :
    metadataLength (some (metadataBytes entries ++ after)) =
      some ⟨none, (metadataBytes entries).length⟩ := by
  have small := limits.size
  have most := limits.count
  have count := count_eq limits
  have admitted : ¬(Int32.ofNat entries.length < 0 ∨ 65536 < Int32.ofNat entries.length) := by
    have bound : (65536 : Int32).toInt = 65536 := by decide
    rw [size_negative, Int32.lt_iff_toInt_lt, count, bound]
    rw [maxEntries] at most
    omega
  rw [metadataBytes, List.length_append, int32Bytes_length] at small
  have walked := metadataEntries_eq _ after
    (show metadataBytes entries ++ after = _ by rw [metadataBytes, List.append_assoc])
    (int32Bytes_length _) small
  rw [metadataLength, count_read]
  show (if _ then _ else _) = _
  rw [if_neg admitted, count, Int.toNat_natCast, walked, metadataBytes, List.length_append,
    int32Bytes_length]

/-! ## The readers -/

/-- A framed text is read back, with the offset behind it. -/
theorem readPart_frame (before after : Bytes) {metadata text : Bytes} {offset : Nat}
    (holds : metadata = before ++ (frame text ++ after)) (place : before.length = offset)
    (small : text.length ≤ maxBytes) :
    readPart metadata offset = some (text, offset + (frame text).length) := by
  have same := (size_of_length small).2
  have read : readInt32 metadata offset = some (Int32.ofNat text.length) :=
    readInt32_eq before (text ++ after)
      (by rw [holds, frame, List.append_assoc, List.append_assoc]) place
  have body : readBytes metadata (offset + 4) text.length = some text :=
    readBytes_eq (before ++ int32Bytes (Int32.ofNat text.length)) after
      (by rw [holds, frame]; simp only [List.append_assoc])
      (by rw [List.length_append, int32Bytes_length, place])
  rw [readPart, read]
  show (readBytes metadata (offset + 4) (toSize (Int32.ofNat text.length)) >>= fun text => _) = _
  rw [same, body, frame_length, ← Nat.add_assoc]
  rfl

/-- The first entry is read as its key and then its value. -/
theorem readEntry {metadata before after : Bytes} {entry : Entry} {rest : List Entry}
    {offset : Nat} (holds : metadata = before ++ (entriesBytes (entry :: rest) ++ after))
    (place : before.length = offset)
    (small : offset + (entriesBytes (entry :: rest)).length ≤ maxBytes) :
    readPart metadata offset = some (entry.1, offset + (frame entry.1).length) ∧
      readPart metadata (offset + (frame entry.1).length) =
        some (entry.2, offset + (entryBytes entry).length) ∧
      metadata = before ++ entryBytes entry ++ (entriesBytes rest ++ after) ∧
      (before ++ entryBytes entry).length = offset + (entryBytes entry).length ∧
      offset + (entryBytes entry).length + (entriesBytes rest).length ≤ maxBytes := by
  rw [entriesBytes, entryBytes] at holds small
  simp only [List.length_append, frame_length] at small
  refine ⟨?_, ?_, ?_, ?_, ?_⟩
  · exact readPart_frame before (frame entry.2 ++ (entriesBytes rest ++ after))
      (by rw [holds]; simp only [List.append_assoc]) place (by omega)
  · rw [entryBytes, List.length_append, ← Nat.add_assoc]
    exact readPart_frame (before ++ frame entry.1) (entriesBytes rest ++ after)
      (by rw [holds]; simp only [List.append_assoc])
      (by rw [List.length_append, place]) (by omega)
  · rw [holds, entryBytes]
    simp only [List.append_assoc]
  · rw [List.length_append, place]
  · simp only [entryBytes, List.length_append, frame_length]
    omega

/-- The loop over the entries decodes them in their order. -/
theorem entriesToArray_eq {entries : List Entry} {metadata before after : Bytes} {index : Int64}
    {offset : Nat} (holds : metadata = before ++ (entriesBytes entries ++ after))
    (place : before.length = offset)
    (small : offset + (entriesBytes entries).length ≤ maxBytes) :
    entriesToArray metadata entries.length index offset = some (entriesArray index entries) := by
  induction entries generalizing before index offset with
  | nil => rfl
  | cons entry rest ih =>
    obtain ⟨key, value, further, next, less⟩ := readEntry holds place small
    rw [List.length_cons, entriesToArray, key]
    show (readPart metadata (offset + (frame entry.1).length) >>= fun part => _) = _
    rw [value]
    show (entriesToArray metadata rest.length (index + 1) _ >>= fun rest => _) = _
    rw [ih further next less]
    rfl

/-- The last value of a key after another entry. -/
theorem lastValue_cons (wanted key value : Bytes) (rest : List Entry) (default : Bytes) :
    lastValue wanted ((key, value) :: rest) default =
      lastValue wanted rest (if key = wanted then value else default) := by
  rw [lastValue, lastValue, List.filter_cons]
  by_cases same : key = wanted
  · rw [if_pos (decide_eq_true same), if_pos same, List.getLast?_cons]
    cases (rest.filter fun entry => entry.1 = wanted).getLast? with
    | none => rfl
    | some last => rfl
  · rw [if_neg (by simpa using same), if_neg same]

/-- The extension after a list of entries. -/
theorem assign_entries (entries : List Entry) (extension : Extension) :
    entries.foldl (fun extension entry => extension.assign entry.1 entry.2) extension =
      ⟨lastValue (lit "ARROW:extension:name") entries extension.name,
        lastValue (lit "ARROW:extension:metadata") entries extension.metadata⟩ := by
  have different : lit "ARROW:extension:name" ≠ lit "ARROW:extension:metadata" := by
    decide +kernel
  induction entries generalizing extension with
  | nil => rfl
  | cons entry rest ih =>
    obtain ⟨key, value⟩ := entry
    rw [List.foldl_cons, ih, lastValue_cons, lastValue_cons, Extension.assign]
    by_cases name : key = lit "ARROW:extension:name"
    · rw [if_pos name, if_pos name, if_neg (name ▸ different)]
    · rw [if_neg name, if_neg name]
      split
      · rfl
      · rfl

/-- The loop over the entries assigns each of them to its field. -/
theorem extensionEntries_eq {entries : List Entry} {metadata before after : Bytes}
    {offset : Nat} (extension : Extension)
    (holds : metadata = before ++ (entriesBytes entries ++ after))
    (place : before.length = offset)
    (small : offset + (entriesBytes entries).length ≤ maxBytes) :
    extensionEntries metadata entries.length offset extension =
      some (entries.foldl (fun extension entry => extension.assign entry.1 entry.2) extension) := by
  induction entries generalizing before offset extension with
  | nil => rfl
  | cons entry rest ih =>
    obtain ⟨key, value, further, next, less⟩ := readEntry holds place small
    rw [List.length_cons, extensionEntries, key]
    show (readPart metadata (offset + (frame entry.1).length) >>= fun part => _) = _
    rw [value]
    show extensionEntries metadata rest.length _ _ = _
    rw [ih _ further next less]
    rfl

/-! ## Schemas -/

mutual

/-- A schema whose pointers can be followed and whose metadata lists entries. -/
def ArrowSchema.Readable : ArrowSchema → Prop
  | .mk fields children dictionary =>
    fields.format.isSome = true ∧
      (∀ metadata, fields.metadata = some metadata → ∃ entries after,
        WithinLimits entries ∧ metadata = metadataBytes entries ++ after) ∧
      children.Readable ∧ dictionary.Readable

/-- The children of a schema that are there and can be read. -/
def SchemaChildren.Readable : SchemaChildren → Prop
  | .nil => True
  | .cons child rest => child.Present ∧ rest.Readable

/-- A pointer to a schema that can be read. -/
def SchemaPointer.Present : SchemaPointer → Prop
  | .null => False
  | .pointee schema => schema.Readable

/-- A pointer to such a schema, or null. -/
def SchemaPointer.Readable : SchemaPointer → Prop
  | .null => True
  | .pointee schema => schema.Readable

end

/-- `metadata` of a schema, which may be null. -/
def ArrowSchema.metadata : ArrowSchema → Option Bytes
  | .mk fields _ _ => fields.metadata

/-- The metadata is decoded to its entries. -/
theorem metadataToArray_eq {entries : List Entry} (limits : WithinLimits entries) (after : Bytes) :
    metadataToArray (some (metadataBytes entries ++ after)) = some (entriesArray 0 entries) := by
  have small := limits.size
  rw [metadataBytes, List.length_append, int32Bytes_length] at small
  rw [metadataToArray, count_read]
  show entriesToArray _ (Int32.ofNat entries.length).toInt.toNat 0 4 = _
  rw [count_eq limits, Int.toNat_natCast]
  exact entriesToArray_eq (by rw [metadataBytes, List.append_assoc]) (int32Bytes_length _) small

/-- A readable schema's metadata is decoded. -/
theorem metadataToArray_total {metadata : Option Bytes}
    (readable : ∀ bytes, metadata = some bytes → ∃ entries after,
      WithinLimits entries ∧ bytes = metadataBytes entries ++ after) :
    ∃ elements, metadataToArray metadata = some elements := by
  cases metadata with
  | none => exact ⟨.nil, rfl⟩
  | some bytes =>
    obtain ⟨entries, after, limits, rfl⟩ := readable bytes rfl
    exact ⟨_, metadataToArray_eq limits after⟩

mutual

/-- Decoding a readable schema stays inside its memory. -/
theorem schemaToArray_total : ∀ {schema : ArrowSchema}, schema.Readable →
    ∃ elements, schemaToArray schema = some elements
  | .mk fields children dictionary, readable => by
    rw [ArrowSchema.Readable] at readable
    obtain ⟨format, metadata, others, last⟩ := readable
    obtain ⟨text, format⟩ := Option.isSome_iff_exists.mp format
    obtain ⟨entries, decoded⟩ := metadataToArray_total metadata
    obtain ⟨rest, walked⟩ := childrenToArray_total 0 others
    obtain ⟨inner, followed⟩ := dictionaryToArray_total last
    exact ⟨_, by rw [schemaToArray, format, decoded, walked, followed]; rfl⟩

/-- Decoding the children of a readable schema reads nothing that is not there. -/
theorem childrenToArray_total : ∀ (index : Int64) {children : SchemaChildren},
    children.Readable → ∃ elements, childrenToArray index children = some elements
  | _, .nil, _ => ⟨.nil, by rw [childrenToArray]⟩
  | _, .cons .null _, readable => by
    rw [SchemaChildren.Readable, SchemaPointer.Present] at readable
    exact readable.1.elim
  | index, .cons (.pointee child) rest, readable => by
    rw [SchemaChildren.Readable, SchemaPointer.Present] at readable
    obtain ⟨elements, inner⟩ := schemaToArray_total readable.1
    obtain ⟨others, walked⟩ := childrenToArray_total (index + 1) readable.2
    exact ⟨_, by rw [childrenToArray, inner, walked]; rfl⟩

/-- Decoding the dictionary of a readable schema reads nothing that is not there. -/
theorem dictionaryToArray_total : ∀ {dictionary : SchemaPointer}, dictionary.Readable →
    ∃ decoded, dictionaryToArray dictionary = some decoded
  | .null, _ => ⟨.null, by rw [dictionaryToArray]⟩
  | .pointee schema, readable => by
    rw [SchemaPointer.Readable] at readable
    obtain ⟨elements, inner⟩ := schemaToArray_total readable
    exact ⟨_, by rw [dictionaryToArray, inner]; rfl⟩

end

/-- Exactly the bytes of the layout are copied. -/
theorem copyMetadata_eq {entries : List Entry} (limits : WithinLimits entries) (after : Bytes) :
    copyMetadata (some (metadataBytes entries ++ after)) = some (some (metadataBytes entries)) := by
  rw [copyMetadata, metadataLength_eq limits]
  have read : readBytes (metadataBytes entries ++ after) 0 (metadataBytes entries).length =
      some (metadataBytes entries) := readBytes_eq [] after rfl rfl
  show (readBytes _ 0 (metadataBytes entries).length >>= fun copied => _) = _
  rw [read]
  rfl

/-- A readable schema's metadata is copied. -/
theorem copyMetadata_total {metadata : Option Bytes}
    (readable : ∀ bytes, metadata = some bytes → ∃ entries after,
      WithinLimits entries ∧ bytes = metadataBytes entries ++ after) :
    ∃ copied, copyMetadata metadata = some copied := by
  cases metadata with
  | none => exact ⟨none, rfl⟩
  | some bytes =>
    obtain ⟨entries, after, limits, rfl⟩ := readable bytes rfl
    exact ⟨_, copyMetadata_eq limits after⟩

mutual

/-- Copying a readable schema stays inside its memory. -/
theorem copySchema_total : ∀ {schema : ArrowSchema}, schema.Readable →
    ∃ copy, copySchema schema = some copy
  | .mk fields children dictionary, readable => by
    rw [ArrowSchema.Readable] at readable
    obtain ⟨format, metadata, others, last⟩ := readable
    obtain ⟨text, format⟩ := Option.isSome_iff_exists.mp format
    obtain ⟨copied, stored⟩ := copyMetadata_total metadata
    obtain ⟨copies, walked⟩ := copyChildren_total others
    obtain ⟨inner, followed⟩ := copyDictionary_total last
    exact ⟨_, by rw [copySchema, format, stored, walked, followed]; rfl⟩

/-- Copying the children of a readable schema reads nothing that is not there. -/
theorem copyChildren_total : ∀ {children : SchemaChildren},
    children.Readable → ∃ copies, copyChildren children = some copies
  | .nil, _ => ⟨.nil, by rw [copyChildren]⟩
  | .cons .null _, readable => by
    rw [SchemaChildren.Readable, SchemaPointer.Present] at readable
    exact readable.1.elim
  | .cons (.pointee child) rest, readable => by
    rw [SchemaChildren.Readable, SchemaPointer.Present] at readable
    obtain ⟨copy, inner⟩ := copySchema_total readable.1
    obtain ⟨others, walked⟩ := copyChildren_total readable.2
    exact ⟨_, by rw [copyChildren, inner, walked]; rfl⟩

/-- Copying the dictionary of a readable schema reads nothing that is not there. -/
theorem copyDictionary_total : ∀ {dictionary : SchemaPointer}, dictionary.Readable →
    ∃ copy, copyDictionary dictionary = some copy
  | .null, _ => ⟨.null, by rw [copyDictionary]⟩
  | .pointee schema, readable => by
    rw [SchemaPointer.Readable] at readable
    obtain ⟨copy, inner⟩ := copySchema_total readable
    exact ⟨_, by rw [copyDictionary, inner]; rfl⟩

end

/-- The decoded metadata is under its key. -/
theorem schemaToArray_metadata : ∀ {schema : ArrowSchema} {decoded : Elements},
    schemaToArray schema = some decoded →
      decoded.find (.name (lit "metadata")) = (metadataToArray schema.metadata).map .array
  | .mk fields children dictionary, decoded, run => by
    rw [schemaToArray] at run
    obtain ⟨format, -, run⟩ := Option.bind_eq_some_iff.mp run
    obtain ⟨metadata, entries, run⟩ := Option.bind_eq_some_iff.mp run
    obtain ⟨others, -, run⟩ := Option.bind_eq_some_iff.mp run
    obtain ⟨last, -, run⟩ := Option.bind_eq_some_iff.mp run
    obtain rfl := Option.some.inj run
    rw [ArrowSchema.metadata, entries]
    have name : lit "name" ≠ lit "metadata" := by decide
    have format : lit "format" ≠ lit "metadata" := by decide
    have flags : lit "flags" ≠ lit "metadata" := by decide
    simp [Elements.find, name, format, flags]

/-- The metadata of a copied schema is the copy of its metadata. -/
theorem copySchema_metadata : ∀ {schema copy : ArrowSchema}, copySchema schema = some copy →
    copyMetadata schema.metadata = some copy.metadata
  | .mk fields children dictionary, copy, run => by
    rw [copySchema] at run
    obtain ⟨format, -, run⟩ := Option.bind_eq_some_iff.mp run
    obtain ⟨metadata, copied, run⟩ := Option.bind_eq_some_iff.mp run
    obtain ⟨others, -, run⟩ := Option.bind_eq_some_iff.mp run
    obtain ⟨last, -, run⟩ := Option.bind_eq_some_iff.mp run
    obtain rfl := Option.some.inj run
    exact copied

/-! ## Untrusted layouts -/

/-- A size as it stands in memory and, unless it is negative, as many bytes. -/
structure Part where
  /-- The size. -/
  size : Int32
  /-- The bytes. -/
  body : Bytes
  /-- They are as many. -/
  fits : 0 ≤ size.toInt → body.length = size.toInt.toNat

/-- The bytes of a part: its declared size and what is behind it. -/
def Part.bytes (part : Part) : Bytes := int32Bytes part.size ++ part.body

/-- The bytes of some parts, one behind the other. -/
def partsBytes : List Part → Bytes
  | [] => []
  | part :: rest => part.bytes ++ partsBytes rest

/-- A count as it stands in memory and, unless it is negative, twice as many parts. -/
structure Layout where
  /-- The count. -/
  count : Int32
  /-- The keys and values. -/
  parts : List Part
  /-- They are keys and values of all entries. -/
  paired : parts.length = 2 * count.toInt.toNat

/-- The bytes of a layout: its count and its parts. -/
def Layout.bytes (layout : Layout) : Bytes := int32Bytes layout.count ++ partsBytes layout.parts

/-- A layout with a negative count or size, or past a limit. -/
def Layout.OutOfLimits (layout : Layout) : Prop :=
  layout.count.toInt < 0 ∨ maxEntries < layout.count.toInt ∨
    (∃ part ∈ layout.parts, part.size.toInt < 0) ∨ maxBytes < layout.bytes.length

/-- A part is rejected, or it has a size and ends within the limit. -/
theorem metadataPart_part (before after : Bytes) (part : Part) {whole : Bytes} {length : Nat}
    (holds : whole = before ++ (part.bytes ++ after)) (place : before.length = length) :
    (∃ measured, metadataPart (whole.take maxBytes) length = some measured ∧
        measured.rejected.isSome = true) ∨
      (0 ≤ part.size.toInt ∧ length + part.bytes.length ≤ maxBytes ∧
        metadataPart (whole.take maxBytes) length = some ⟨none, length + part.bytes.length⟩) := by
  rw [metadataPart]
  by_cases far : maxBytes - 4 < length
  · rw [if_pos far]
    exact .inl ⟨_, rfl, rfl⟩
  · rw [if_neg far]
    have near : length + 4 ≤ maxBytes := by
      rw [maxBytes] at far ⊢
      omega
    -- The four bytes of the size are below the limit.
    have read : readInt32 (whole.take maxBytes) length = some part.size := by
      refine readInt32_eq before ((part.body ++ after).take (maxBytes - (length + 4))) ?_ place
      have joined : (before ++ int32Bytes part.size).length = length + 4 := by
        rw [List.length_append, place, int32Bytes_length]
      have same : whole = (before ++ int32Bytes part.size) ++ (part.body ++ after) := by
        rw [holds, Part.bytes]
        simp only [List.append_assoc]
      rw [same, List.take_append, joined, List.take_of_length_le (by omega)]
    rw [read]
    show _ ∨ _ ∧ _ ∧ (if _ then _ else _) = _
    by_cases bad : part.size < 0 ∨ maxBytes - (length + 4) < toSize part.size
    · refine .inl ⟨⟨some oversizedMetadata, length + 4⟩, ?_, rfl⟩
      show (if _ then _ else _) = _
      rw [if_pos bad]
    · rw [not_or, size_negative] at bad
      have positive : 0 ≤ part.size.toInt := by omega
      have size := toSize_eq positive
      have body := part.fits positive
      refine .inr ⟨positive, ?_, ?_⟩
      · rw [Part.bytes, List.length_append, int32Bytes_length]
        omega
      · rw [if_neg (by rw [not_or, size_negative]; exact bad), Part.bytes, List.length_append,
          int32Bytes_length, size, body, Nat.add_assoc]

/-- Parts with a negative size or past the limit are rejected. -/
theorem metadataEntries_rejects (before after : Bytes) {whole : Bytes} {length : Nat} :
    ∀ {count : Nat} {parts : List Part}, parts.length = 2 * count →
      whole = before ++ (partsBytes parts ++ after) → before.length = length →
      (∃ part ∈ parts, part.size.toInt < 0) ∨
        (length ≤ maxBytes ∧ maxBytes < length + (partsBytes parts).length) →
      ∃ measured, metadataEntries (whole.take maxBytes) count length = some measured ∧
        measured.rejected.isSome = true := by
  intro count
  induction count generalizing before length with
  | zero =>
    intro parts paired holds place bad
    obtain rfl := List.length_eq_zero_iff.mp paired
    cases bad with
    | inl negative =>
      obtain ⟨part, never, -⟩ := negative
      cases never
    | inr long =>
      rw [partsBytes, List.length_nil] at long
      omega
  | succ count ih =>
    intro parts paired holds place bad
    obtain ⟨key, value, rest, rfl⟩ : ∃ key value rest, parts = key :: value :: rest := by
      match parts, paired with
      | [], paired => simp at paired
      | [_], paired => rw [List.length_singleton] at paired; omega
      | key :: value :: rest, _ => exact ⟨key, value, rest, rfl⟩
    rw [List.length_cons, List.length_cons] at paired
    rw [partsBytes, partsBytes] at holds bad
    rw [metadataEntries]
    have keyPart := metadataPart_part before (value.bytes ++ partsBytes rest ++ after) key
      (show whole = _ by rw [holds]; simp only [List.append_assoc]) place
    cases keyPart with
    | inl rejected =>
      obtain ⟨measured, result, some_⟩ := rejected
      refine ⟨measured, ?_, some_⟩
      rw [result]
      show (if _ then _ else _) = _
      rw [if_pos some_]
    | inr accepted =>
      obtain ⟨keyPositive, -, result⟩ := accepted
      rw [result]
      show ∃ measured, (metadataPart (whole.take maxBytes) (length + key.bytes.length) >>=
        fun value => _) = some measured ∧ _
      have next : (before ++ key.bytes).length = length + key.bytes.length := by
        rw [List.length_append, place]
      have valuePart := metadataPart_part (before ++ key.bytes) (partsBytes rest ++ after) value
        (show whole = _ by rw [holds]; simp only [List.append_assoc]) next
      cases valuePart with
      | inl rejected =>
        obtain ⟨measured, result, some_⟩ := rejected
        refine ⟨measured, ?_, some_⟩
        rw [result]
        show (if _ then _ else _) = _
        rw [if_pos some_]
      | inr accepted =>
        obtain ⟨valuePositive, within, result⟩ := accepted
        rw [result]
        refine ih (before ++ key.bytes ++ value.bytes) (show rest.length = _ by omega)
          (by rw [holds]; simp only [List.append_assoc])
          (by rw [List.length_append, next]) ?_
        cases bad with
        | inl negative =>
          obtain ⟨part, member, negative⟩ := negative
          rcases List.mem_cons.mp member with rfl | member
          · omega
          · rcases List.mem_cons.mp member with rfl | member
            · omega
            · exact .inl ⟨part, member, negative⟩
        | inr long =>
          rw [List.length_append, List.length_append] at long
          exact .inr ⟨within, show maxBytes <
            length + key.bytes.length + value.bytes.length + (partsBytes rest).length by omega⟩

/-- `metadata_length` rejects a layout past the limits without leaving the first bytes. -/
theorem metadataLength_rejects {layout : Layout} (bad : layout.OutOfLimits) (after : Bytes) :
    ∃ measured, metadataLength (some ((layout.bytes ++ after).take maxBytes)) = some measured ∧
      measured.rejected.isSome = true := by
  have bound : (65536 : Int32).toInt = 65536 := by decide
  have read : readInt32 ((layout.bytes ++ after).take maxBytes) 0 = some layout.count := by
    refine readInt32_eq [] ((partsBytes layout.parts ++ after).take (maxBytes - 4)) ?_ rfl
    rw [Layout.bytes, List.append_assoc, List.nil_append, List.take_append, int32Bytes_length,
      List.take_of_length_le (by rw [int32Bytes_length, maxBytes]; omega)]
  rw [metadataLength, read]
  by_cases count : layout.count < 0 ∨ 65536 < layout.count
  · exact ⟨_, if_pos count, rfl⟩
  · show ∃ measured, (if layout.count < 0 ∨ 65536 < layout.count then some _
      else metadataEntries _ layout.count.toInt.toNat 4) = some measured ∧ _
    rw [if_neg count]
    rw [not_or, size_negative, Int32.lt_iff_toInt_lt, bound] at count
    refine metadataEntries_rejects (int32Bytes layout.count) after layout.paired
      (by rw [Layout.bytes, List.append_assoc]) (int32Bytes_length _) ?_
    rw [Layout.OutOfLimits, maxEntries, Layout.bytes, List.length_append, int32Bytes_length] at bad
    rcases bad with negative | many | part | long
    · omega
    · omega
    · exact .inl part
    · exact .inr ⟨by rw [maxBytes]; omega, long⟩

/-! ## The codec -/

/-- For every list of entries within the limits, laid out in memory, the validator returns its
length, the decoder its entries, the extension reader the last values of its keys and the copier its
bytes. None of them reads the memory behind it, which may be absent. Every other layout is rejected
by the validator and the extension reader, and they read no byte past the limit. -/
theorem metadata_codec :
    (∀ entries, WithinLimits entries → ∀ after,
      metadataLength (some (metadataBytes entries ++ after)) =
          some ⟨none, (metadataBytes entries).length⟩ ∧
        duckdbArrowExtensionMetadata (some (metadataBytes entries ++ after)) =
          some (.ok ⟨lastValue (lit "ARROW:extension:name") entries [],
            lastValue (lit "ARROW:extension:metadata") entries []⟩) ∧
        ∀ schema : ArrowSchema, schema.Readable →
          schema.metadata = some (metadataBytes entries ++ after) →
          (∃ decoded, schemaToArray schema = some decoded ∧
            decoded.find (.name (lit "metadata")) = some (.array (entriesArray 0 entries))) ∧
          ∃ copy, copySchema schema = some copy ∧ copy.metadata = some (metadataBytes entries)) ∧
    ∀ layout : Layout, layout.OutOfLimits → ∀ after,
      (∃ measured, metadataLength (some ((layout.bytes ++ after).take maxBytes)) = some measured ∧
        measured.rejected.isSome = true) ∧
      ∃ thrown, duckdbArrowExtensionMetadata (some ((layout.bytes ++ after).take maxBytes)) =
        some (.error thrown) := by
  constructor
  · intro entries limits after
    have measured := metadataLength_eq limits after
    refine ⟨measured, ?_, fun schema readable held => ⟨?_, ?_⟩⟩
    · have small := limits.size
      rw [metadataBytes, List.length_append, int32Bytes_length] at small
      rw [duckdbArrowExtensionMetadata, measured]
      show (readInt32 (metadataBytes entries ++ after) 0 >>= fun count => _) = _
      rw [count_read]
      show (extensionEntries _ (Int32.ofNat entries.length).toInt.toNat 4 ⟨[], []⟩ >>= fun _ => _) = _
      have walked := extensionEntries_eq ⟨[], []⟩
        (show metadataBytes entries ++ after = _ by rw [metadataBytes, List.append_assoc])
        (int32Bytes_length _) small
      rw [count_eq limits, Int.toNat_natCast, walked, assign_entries]
      rfl
    · obtain ⟨decoded, run⟩ := schemaToArray_total readable
      have found := schemaToArray_metadata run
      rw [held, metadataToArray_eq limits] at found
      exact ⟨decoded, run, found⟩
    · obtain ⟨copy, run⟩ := copySchema_total readable
      have copied := copySchema_metadata run
      rw [held, copyMetadata_eq limits] at copied
      exact ⟨copy, run, (Option.some.inj copied).symm⟩
  · intro layout bad after
    obtain ⟨measured, walked, some_⟩ := metadataLength_rejects bad after
    refine ⟨⟨measured, walked, some_⟩, ?_⟩
    obtain ⟨rejected, length⟩ := measured
    cases rejected with
    | none => cases some_
    | some thrown =>
      rw [duckdbArrowExtensionMetadata, walked]
      exact ⟨thrown, rfl⟩

/-- Two names of an extension, and a key with a NUL byte. -/
def namedTwice : List Entry :=
  [(lit "ARROW:extension:name", lit "first"), ([0], []), (lit "ARROW:extension:name", lit "last")]

/-- Of two extension names in the metadata the last one counts. -/
theorem metadata_codec_namedTwice :
    duckdbArrowExtensionMetadata (some (metadataBytes namedTwice ++ [])) =
      some (.ok ⟨lit "last", []⟩) :=
  (metadata_codec.1 namedTwice ⟨by decide, by decide⟩ []).2.1

end PhpDuckdb.Arrow
