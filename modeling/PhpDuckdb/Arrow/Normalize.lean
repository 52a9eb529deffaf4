import PhpDuckdb.Arrow.Array

/-!
# Normalized views

Two readers of an array tree: the Arrow format, where the offset of a struct also applies to its
fields, and an importer that applies nothing but an array's own offset. `view_reads_same` says that
the importer reads of a normalized view what the format says of the producer's array.
-/

namespace PhpDuckdb.Arrow

open SqlText Framing Bitmap PhpDuckdb.Value

/-! ## Readers -/

/-- The step from an array to one of its parts. -/
inductive Step
  | child (index : Nat)
  | dictionary
  deriving DecidableEq, Repr

/-- An array of a schema, the offset that it inherits, and the number of its rows. -/
structure Slice where
  /-- The schema. -/
  schema : ArrowSchema
  /-- The array. -/
  array : ArrowArray
  /-- The offsets of the structs around it. -/
  inherited : Int
  /-- The number of rows. -/
  length : Int

/-- What a row holds: whether it is null, and, except in a struct, its position in the array's
buffers besides the validity bitmap. -/
structure Cell where
  /-- Whether the row is null; nothing when that is not in memory. -/
  null : Option Bool
  /-- The position and the buffers. -/
  source : Option (Int × List (Option Bytes))
  deriving DecidableEq

/-- The child of an array at an index. -/
def ArrayChildren.find : Nat → ArrayChildren → Option ArrowArray
  | 0, .cons (.pointee child) _ => some child
  | index + 1, .cons _ rest => rest.find index
  | _, _ => none

/-- The child of a schema at an index. -/
def SchemaChildren.find : Nat → SchemaChildren → Option ArrowSchema
  | 0, .cons (.pointee child) _ => some child
  | index + 1, .cons _ rest => rest.find index
  | _, _ => none

/-- The part that a step leads to. -/
def follow : ArrowSchema → ArrowArray → Step → Option (ArrowSchema × ArrowArray)
  | .mk _ schemas _, .mk _ children _, .child index => do
    let schema ← schemas.find index
    let array ← children.find index
    some (schema, array)
  | .mk _ _ (.pointee schema), .mk _ _ (.pointee array), .dictionary => some (schema, array)
  | _, _, .dictionary => none

/-- `format` of a schema, which may be null. -/
def ArrowSchema.format : ArrowSchema → Option CString
  | .mk fields _ _ => fields.format

/-- The arrays of a schema are structs, by its format. -/
def ArrowSchema.isStruct (schema : ArrowSchema) : Bool := schema.format.any Arrow.isStruct

/-- The format: the fields of a struct inherit its offsets and have its rows. -/
def Slice.formatStep (slice : Slice) (step : Step) : Option Slice := do
  let (schema, array) ← follow slice.schema slice.array step
  if slice.schema.isStruct ∧ step ≠ .dictionary then
    some ⟨schema, array, slice.inherited + slice.array.fields.offset.toInt, slice.length⟩
  else some ⟨schema, array, 0, array.fields.length.toInt⟩

/-- A step of the importer, which inherits no offset and no length. -/
def Slice.importStep (slice : Slice) (step : Step) : Option Slice := do
  let (schema, array) ← follow slice.schema slice.array step
  some ⟨schema, array, 0, array.fields.length.toInt⟩

/-- Whether a position of an array is null: a bit of its bitmap, if it has nulls and a bitmap. The
first buffer of a union is none. -/
def ArrayFields.nullAt (fields : ArrayFields) (format : CString) (position : Nat) : Option Bool :=
  if fields.nullCount = 0 ∨ isUnion format then some false
  else
    match fields.buffers with
    | some bitmap :: _ => (readBit bitmap position).map (!·)
    | _ => some false

/-- The buffers of an array besides its validity bitmap. -/
def ArrayFields.dataBuffers (fields : ArrayFields) (format : CString) : List (Option Bytes) :=
  if isUnion format then fields.buffers else fields.buffers.tail

/-- What a row of a slice reads: its bit of validity and its data. -/
def Slice.cell (slice : Slice) (row : Nat) : Cell :=
  match slice.schema.format with
  | none => ⟨none, none⟩
  | some format =>
    let position := slice.inherited + slice.array.fields.offset.toInt + row
    ⟨slice.array.fields.nullAt format position.toNat,
      if isStruct format then none
      else some (position, slice.array.fields.dataBuffers format)⟩

/-- The part at the end of a path. -/
def Slice.walk (step : Slice → Step → Option Slice) : Slice → List Step → Option Slice
  | slice, [] => some slice
  | slice, next :: path => do
    let part ← step slice next
    part.walk step path

/-- All of an array, from its own offset on. -/
def Slice.whole (schema : ArrowSchema) (array : ArrowArray) : Slice :=
  ⟨schema, array, 0, array.fields.length.toInt⟩

/-! ## Producers -/

/-- The memory behind an array: as many buffers as it says, and a bitmap with a bit for every
position. -/
structure TrustedFields (format : CString) (fields : ArrayFields) : Prop where
  /-- The buffers. -/
  buffers : fields.buffers.length = fields.nBuffers.toInt.toNat
  /-- The bitmap. -/
  bitmap : isUnion format = false → fields.nullCount ≠ 0 → ∀ bitmap rest,
    fields.buffers = some bitmap :: rest →
      bytesFor (fields.offset.toInt + fields.length.toInt).toNat ≤ bitmap.length

mutual

/-- The memory behind an array tree. -/
def Trusted : ArrowArray → ArrowSchema → Prop
  | .mk fields children dictionary, .mk schema schemas meanings =>
    (∀ format, schema.format = some format → TrustedFields format fields) ∧
      ChildrenTrusted children schemas ∧ DictionaryTrusted dictionary meanings

/-- The memory behind the children of an array is the producer's. -/
def ChildrenTrusted : ArrayChildren → SchemaChildren → Prop
  | .cons (.pointee child) rest, .cons (.pointee schema) others =>
    Trusted child schema ∧ ChildrenTrusted rest others
  | _, _ => True

/-- The memory behind the dictionary of an array is the producer's. -/
def DictionaryTrusted : ArrayPointer → SchemaPointer → Prop
  | .pointee array, .pointee schema => Trusted array schema
  | _, _ => True

end

/-! ## Integers -/

/-- An `int64_t` sum that fits is the mathematical one. -/
theorem toInt_add_fits {first second : Int64}
    (low : -9223372036854775808 ≤ first.toInt + second.toInt)
    (high : first.toInt + second.toInt < 9223372036854775808) :
    (first + second).toInt = first.toInt + second.toInt := by
  rw [Int64.toInt_add]
  exact Int.bmod_eq_of_le_mul_two (by omega) (by omega)

/-- An `int64_t` difference that fits is the mathematical one. -/
theorem toInt_sub_fits {first second : Int64}
    (low : -9223372036854775808 ≤ first.toInt - second.toInt)
    (high : first.toInt - second.toInt < 9223372036854775808) :
    (first - second).toInt = first.toInt - second.toInt := by
  rw [Int64.toInt_sub]
  exact Int.bmod_eq_of_le_mul_two (by omega) (by omega)

/-! ## Validation -/

/-- What the fields of a validated array satisfy. -/
structure ValidFields (fields : ArrayFields) : Prop where
  /-- A length. -/
  length : 0 ≤ fields.length.toInt
  /-- An offset. -/
  offset : 0 ≤ fields.offset.toInt
  /-- The last position. -/
  fits : fields.offset.toInt + fields.length.toInt < 9223372036854775808

/-- The fields that the checks accept are valid. -/
theorem validateFields_ok {depths : Nat} {fields : ArrayFields} {schema : SchemaFields}
    {sameDictionary : Bool} (accepted : validateFields depths fields schema sameDictionary = .ok ()) :
    ValidFields fields := by
  rw [validateFields] at accepted
  split at accepted
  · cases accepted
  · rename_i checked
    split at accepted
    · cases accepted
    · rename_i within
      simp only [not_or] at checked
      have zero : (0 : Int64).toInt = 0 := rfl
      have most : Int64.maxValue.toInt = 9223372036854775807 := rfl
      have length : 0 ≤ fields.length.toInt := by
        have positive := checked.2.2.1
        rw [Int64.lt_iff_toInt_lt, zero] at positive
        omega
      have offset : 0 ≤ fields.offset.toInt := by
        have positive := checked.2.2.2.1
        rw [Int64.lt_iff_toInt_lt, zero] at positive
        omega
      have high := fields.length.toInt_lt
      rw [Int64.lt_iff_toInt_lt, toInt_sub_fits (by omega) (by omega), most] at within
      exact ⟨length, offset, by omega⟩

/-- What `validate_array` has checked of an array that it accepts. -/
structure Accepted (depths : Nat) (fields : ArrayFields) (children : ArrayChildren)
    (dictionary : ArrayPointer) (schema : SchemaFields) (schemas : SchemaChildren)
    (meanings : SchemaPointer) (format : CString) : Prop where
  /-- The format can be read. -/
  formatted : schema.format = some format
  /-- Its fields are valid. -/
  valid : ValidFields fields
  /-- A struct has one buffer. -/
  structured : validateStruct format fields = some (.ok ())
  /-- Its children are accepted. -/
  nested : validateArrayChildren (depths - 1)
    (if isStruct format then some (fields.offset + fields.length) else none) children schemas =
      some (.ok ())
  /-- So is its dictionary. -/
  meaning : validateArrayDictionary (depths - 1) dictionary meanings = some (.ok ())

/-- An array that `validate_array` accepts has valid fields, children and dictionary. -/
theorem validateArray_ok {depths : Nat} {fields : ArrayFields} {children : ArrayChildren}
    {dictionary : ArrayPointer} {schema : SchemaFields} {schemas : SchemaChildren}
    {meanings : SchemaPointer}
    (accepted : validateArray depths (.mk fields children dictionary)
      (.mk schema schemas meanings) = some (.ok ())) :
    ∃ format, Accepted depths fields children dictionary schema schemas meanings format := by
  rw [validateArray] at accepted
  cases checked : validateFields depths fields schema (dictionary.isNull == meanings.isNull) with
  | error thrown =>
    rw [checked] at accepted
    cases Option.some.inj accepted
  | ok =>
    rw [checked] at accepted
    obtain ⟨format, formatted, accepted⟩ := Option.bind_eq_some_iff.mp accepted
    obtain ⟨struct, structured, accepted⟩ := Option.bind_eq_some_iff.mp accepted
    cases struct with
    | error thrown => cases Option.some.inj accepted
    | ok =>
      obtain ⟨nested, children_, accepted⟩ := Option.bind_eq_some_iff.mp accepted
      cases nested with
      | error thrown => cases Option.some.inj accepted
      | ok => exact ⟨format, formatted, validateFields_ok checked, structured, children_, accepted⟩

/-! ## Bitmaps of structs -/

/-- What the loop over the rows has written before a row. -/
structure Rebased (source : Bytes) (start row : Nat) (validity : Bytes) (nulls : Nat) : Prop where
  /-- The bits so far are the source's. -/
  copied : ∀ index, index < row → ∃ flag, readBit source (start + index) = some flag ∧
    readBit validity index = some flag
  /-- The other bits are clear. -/
  clear : ∀ index, row ≤ index → index / 8 < validity.length →
    readBit validity index = some false
  /-- Without nulls every bit is set. -/
  full : nulls = 0 → ∀ index, index < row → readBit source (start + index) = some true
  /-- There are no more nulls than rows. -/
  few : nulls ≤ row

/-- One more row keeps the copied bits and the count of NULLs right. -/
theorem Rebased.next {source : Bytes} {start row : Nat} {validity : Bytes} {nulls : Nat}
    (before : Rebased source start row validity nulls) (inside : row / 8 < validity.length)
    {valid : Bool} (read : readBit source (start + row) = some valid) :
    Rebased source start (row + 1) (if valid then setBit validity row else validity)
      (if valid then nulls else nulls + 1) := by
  cases valid with
  | true =>
    simp only [if_true]
    constructor
    · intro index below
      rw [readBit_setBit inside]
      by_cases here : index = row
      · rw [here, if_pos rfl]
        exact ⟨true, read, rfl⟩
      · rw [if_neg here]
        exact before.copied index (by omega)
    · intro index above near
      rw [setBit_length] at near
      rw [readBit_setBit inside, if_neg (by omega)]
      exact before.clear index (by omega) near
    · intro none_ index below
      by_cases here : index = row
      · rw [here, read]
      · exact before.full none_ index (by omega)
    · exact Nat.le_succ_of_le before.few
  | false =>
    rw [if_neg Bool.false_ne_true, if_neg Bool.false_ne_true]
    constructor
    · intro index below
      by_cases here : index = row
      · rw [here]
        exact ⟨false, read, before.clear row (Nat.le_refl row) inside⟩
      · exact before.copied index (by omega)
    · exact fun index above near => before.clear index (by omega) near
    · exact fun none_ => absurd none_ (Nat.succ_ne_zero nulls)
    · exact Nat.succ_le_succ before.few

/-- All rows, when their bits can be read. -/
theorem rebaseRows_spec {source : Bytes} {start rows row : Nat} {validity : Bytes} {nulls : Nat}
    (readable : ∀ index, index < row + rows → ∃ flag, readBit source (start + index) = some flag)
    (wide : ∀ index, index < row + rows → index / 8 < validity.length)
    (before : Rebased source start row validity nulls) :
    ∃ written count, rebaseRows source start rows row validity nulls = some (written, count) ∧
      Rebased source start (row + rows) written count := by
  induction rows generalizing row validity nulls with
  | zero => exact ⟨validity, nulls, rfl, before⟩
  | succ rows ih =>
    obtain ⟨valid, read⟩ := readable row (by omega)
    have next := before.next (wide row (by omega)) read
    rw [rebaseRows, read]
    rw [show row + (rows + 1) = row + 1 + rows by omega] at readable wide ⊢
    cases valid with
    | true =>
      exact ih readable (fun index below => by rw [setBit_length]; exact wide index below) next
    | false => exact ih readable wide next

/-- Rebasing readable rows over zeros makes a bitmap and a count of NULLs. -/
theorem rebaseRows_zeros {source : Bytes} {start rows : Nat}
    (readable : ∀ index, index < rows → ∃ flag, readBit source (start + index) = some flag) :
    ∃ written count,
      rebaseRows source start rows 0 (zeros ((rows + 7) / 8 + 1)) 0 = some (written, count) ∧
        Rebased source start rows written count := by
  have length : (zeros ((rows + 7) / 8 + 1)).length = (rows + 7) / 8 + 1 := List.length_replicate
  have blank : Rebased source start 0 (zeros ((rows + 7) / 8 + 1)) 0 :=
    ⟨fun index never => absurd never (Nat.not_lt_zero index),
      fun index _ near => readBit_zeros (length ▸ near),
      fun _ index never => absurd never (Nat.not_lt_zero index), Nat.le_refl 0⟩
  rw [← Nat.zero_add rows] at readable
  have done := rebaseRows_spec readable (fun index below => by rw [length]; omega) blank
  rwa [Nat.zero_add] at done

/-! ## Views of fields -/

/-- The format of a struct is not that of a union. -/
theorem isUnion_struct {format : CString} (struct : isStruct format = true) :
    isUnion format = false := by
  rw [isStruct, decide_eq_true_eq] at struct
  rw [isUnion, struct]
  decide

/-- What the slice that a view is made of satisfies. -/
structure ValidSlice (fields : ArrayFields) (inherited length : Int64) : Prop where
  /-- The array is valid. -/
  valid : ValidFields fields
  /-- An offset. -/
  before : 0 ≤ inherited.toInt
  /-- A length. -/
  rows : 0 ≤ length.toInt
  /-- The array holds the slice. -/
  inside : inherited.toInt + length.toInt ≤ fields.length.toInt

/-- The offset of a valid slice passes the checks and is the sum of both offsets. -/
theorem effectiveOffset_ok {fields : ArrayFields} {inherited length : Int64}
    (slice : ValidSlice fields inherited length) :
    ∃ effective, effectiveOffset fields inherited length = .ok effective ∧
      effective.toInt = fields.offset.toInt + inherited.toInt := by
  obtain ⟨⟨positive, offset, fits⟩, before, rows, inside⟩ := slice
  have most : Int64.maxValue.toInt = 9223372036854775807 := rfl
  have sum : (fields.offset + inherited).toInt = fields.offset.toInt + inherited.toInt :=
    toInt_add_fits (by omega) (by omega)
  refine ⟨_, ?_, sum⟩
  rw [effectiveOffset, if_neg, if_neg]
  · rw [Int64.lt_iff_toInt_lt, toInt_sub_fits (by omega) (by omega), most, sum]
    omega
  · rw [Int64.lt_iff_toInt_lt, Int64.lt_iff_toInt_lt, Int64.lt_iff_toInt_lt,
      toInt_sub_fits (by omega) (by omega), toInt_sub_fits (by omega) (by omega), most]
    omega

/-- The view of valid fields in memory: it is made, and read with nothing inherited it has the rows
of the slice. -/
structure ViewOf (format : CString) (fields : ArrayFields) (inherited length : Int64)
    (view : ArrayFields) : Prop where
  /-- The rows. -/
  rows : view.length = length
  /-- The nulls. -/
  nulls : ∀ row : Nat, row < length.toInt → ∃ flag,
    fields.nullAt format (inherited.toInt + fields.offset.toInt + row).toNat = some flag ∧
      view.nullAt format (view.offset.toInt + row).toNat = some flag
  /-- The positions and the data, except in a struct. -/
  data : isStruct format = false →
    view.offset.toInt = inherited.toInt + fields.offset.toInt ∧
      view.dataBuffers format = fields.dataBuffers format
  /-- A struct's view starts at its first row. -/
  struct : isStruct format = true → view.offset.toInt = 0

/-- The fields of a struct's view are made, and its children are requested from the right row. -/
theorem viewFields_struct {format : CString} {fields : ArrayFields}
    {inherited length effective : Int64} (slice : ValidSlice fields inherited length)
    (trusted : TrustedFields format fields)
    (checked : validateStruct format fields = some (.ok ()))
    (sum : effective.toInt = fields.offset.toInt + inherited.toInt)
    (struct : isStruct format = true) :
    ∃ view, viewFields fields format effective length = some view ∧
      ViewOf format fields inherited length view := by
  have union := isUnion_struct struct
  rw [validateStruct, if_neg (by rw [struct]; exact Bool.noConfusion)] at checked
  split at checked
  · cases Option.some.inj checked
  · rename_i one
    rw [not_not] at one
    have single := trusted.buffers
    rw [one, show (1 : Int64).toInt.toNat = 1 from rfl] at single
    obtain ⟨buffer, buffers⟩ := List.length_eq_one_iff.mp single
    have zero : (0 : Int64).toInt = 0 := rfl
    -- Without a bitmap that is looked at no row is null.
    have plain : (∀ row : Nat, row < length.toInt →
        fields.nullAt format (inherited.toInt + fields.offset.toInt + row).toNat = some false) →
        ViewOf format fields inherited length
          { fields with
            length := length, nullCount := 0, offset := 0, buffers := [none],
            hasChildren := fields.nChildren ≠ 0, release := true } := fun clear =>
      ⟨rfl, fun row below => ⟨false, clear row below, if_pos (.inl rfl)⟩,
        fun other => (nomatch other.symm.trans struct), fun _ => zero⟩
    rw [viewFields, if_pos struct, structBuffers, buffers]
    cases buffer with
    | none =>
      refine ⟨_, rfl, plain fun row below => ?_⟩
      rw [ArrayFields.nullAt, buffers, union]
      split <;> rfl
    | some bitmap =>
      by_cases full : fields.nullCount = 0
      · dsimp only
        rw [if_neg (not_not.mpr full)]
        exact ⟨_, rfl, plain fun row below => by rw [ArrayFields.nullAt, if_pos (.inl full)]⟩
      · obtain ⟨valid, before, rows, inside⟩ := slice
        have offset := valid.offset
        have bits := trusted.bitmap union full bitmap [] buffers
        obtain ⟨written, count, run, rebased⟩ := @rebaseRows_zeros bitmap
          effective.toInt.toNat length.toInt.toNat fun index below =>
            readBit_some bits (by omega)
        dsimp only
        rw [if_pos full, run]
        refine ⟨_, rfl, rfl, fun row below => ?_, fun other => (nomatch other.symm.trans struct),
          fun _ => zero⟩
        obtain ⟨flag, source, target⟩ := rebased.copied row (by omega)
        have place : (inherited.toInt + fields.offset.toInt + row).toNat =
            effective.toInt.toNat + row := by omega
        refine ⟨!flag, ?_, ?_⟩
        · rw [ArrayFields.nullAt, if_neg (by simp [full, union]), buffers, place]
          exact congrArg (Option.map (!·)) source
        · rw [zero, Int.zero_add, Int.toNat_natCast, ArrayFields.nullAt]
          split
          · rename_i none_
            have nulls : count = 0 := by
              have few := rebased.few
              have most := length.toInt_lt
              have same := Int64.toInt_ofNat_of_lt (show count < 2 ^ 63 by omega)
              rw [or_iff_left (by rw [union]; exact Bool.false_ne_true)] at none_
              rw [show Int64.ofNat count = 0 from none_, zero] at same
              omega
            rw [rebased.full nulls row (by omega)] at source
            rw [← Option.some.inj source]
            rfl
          · exact congrArg (Option.map (!·)) target

/-- The fields of any other array's view are made of its own, from the effective offset on. -/
theorem viewFields_plain {format : CString} {fields : ArrayFields}
    {inherited length effective : Int64} (slice : ValidSlice fields inherited length)
    (trusted : TrustedFields format fields)
    (sum : effective.toInt = fields.offset.toInt + inherited.toInt)
    (struct : isStruct format = false) :
    ∃ view, viewFields fields format effective length = some view ∧
      ViewOf format fields inherited length view := by
  obtain ⟨valid, before, rows, inside⟩ := slice
  have offset := valid.offset
  have fits := valid.fits
  have zero : (0 : Int64).toInt = 0 := rfl
  -- Every position of the slice is a position of the array.
  have place : ∀ row : Nat, (effective.toInt + row).toNat =
      (inherited.toInt + fields.offset.toInt + row).toNat := fun row => by omega
  -- The bits are readable wherever the bitmap is looked at.
  have readable : ∀ row : Nat, row < length.toInt → ∃ flag,
      fields.nullAt format (inherited.toInt + fields.offset.toInt + row).toNat = some flag := by
    intro row below
    rw [ArrayFields.nullAt]
    split
    · exact ⟨false, rfl⟩
    · rename_i looked
      rw [not_or, Bool.not_eq_true] at looked
      split
      · rename_i bitmap rest found
        obtain ⟨flag, read⟩ := readBit_some (trusted.bitmap looked.2 looked.1 bitmap rest found)
          (show (inherited.toInt + fields.offset.toInt + row).toNat < _ by omega)
        exact ⟨!flag, by rw [read]; rfl⟩
      · exact ⟨false, rfl⟩
  -- Buffers that are passed on are read as they are.
  have same : ViewOf format fields inherited length
      { fields with
        length := length, offset := effective, hasChildren := fields.nChildren ≠ 0,
        release := true } := by
    refine ⟨rfl, fun row below => ?_, fun _ => ⟨by rw [sum]; exact Int.add_comm .., rfl⟩,
      fun other => (nomatch struct.symm.trans other)⟩
    obtain ⟨flag, read⟩ := readable row below
    refine ⟨flag, read, ?_⟩
    rw [place]
    exact read
  rw [viewFields, if_neg (by rw [struct]; exact Bool.false_ne_true), paddedBuffers]
  split
  · rename_i looked
    cases buffers : fields.buffers with
    | nil =>
      have none_ := trusted.buffers
      have positive := Int64.lt_iff_toInt_lt.mp looked.2
      rw [buffers, List.length_nil] at none_
      omega
    | cons first rest =>
      cases first with
      | none => exact ⟨_, rfl, by rw [← buffers]; exact same⟩
      | some source =>
        dsimp only
        by_cases union : isUnion format = true
        · rw [if_pos union]
          exact ⟨_, rfl, by rw [← buffers]; exact same⟩
        · have notUnion := Bool.eq_false_of_not_eq_true union
          have bits := trusted.bitmap notUnion looked.1 source rest buffers
          have last : (fields.offset + fields.length).toInt =
              fields.offset.toInt + fields.length.toInt := toInt_add_fits (by omega) (by omega)
          rw [if_neg union, last, readBytes, if_pos (by rw [Nat.zero_add]; exact bits),
            List.drop_zero]
          refine ⟨_, rfl, rfl, fun row below => ?_, fun _ => ⟨?_, ?_⟩,
            fun other => (nomatch struct.symm.trans other)⟩
          · obtain ⟨flag, read⟩ := readable row below
            refine ⟨flag, read, ?_⟩
            rw [ArrayFields.nullAt, if_neg (by simp [looked.1, notUnion]), buffers] at read
            rw [ArrayFields.nullAt, if_neg (by simp [looked.1, notUnion]), place]
            rw [← read]
            refine congrArg (Option.map (!·)) (readBit_take ?_ bits)
            rw [bytesFor]
            split <;> omega
          · rw [sum]
            exact Int.add_comm ..
          · rw [ArrayFields.dataBuffers, ArrayFields.dataBuffers, if_neg union, if_neg union,
              buffers]
            rfl
  · exact ⟨_, rfl, same⟩

/-- The fields of the view of a valid and trusted array are made. -/
theorem viewFields_total {format : CString} {fields : ArrayFields}
    {inherited length effective : Int64} (slice : ValidSlice fields inherited length)
    (trusted : TrustedFields format fields)
    (checked : validateStruct format fields = some (.ok ()))
    (sum : effective.toInt = fields.offset.toInt + inherited.toInt) :
    ∃ view, viewFields fields format effective length = some view ∧
      ViewOf format fields inherited length view := by
  cases struct : isStruct format with
  | true => exact viewFields_struct slice trusted checked sum struct
  | false => exact viewFields_plain slice trusted sum struct

/-! ## Views of trees -/

/-- How `normalize_arrow_array` is called: for all of an array, or for a slice that it holds. -/
def Requested (fields : ArrayFields) (inherited length : Int64) : Prop :=
  (inherited = 0 ∧ length = -1) ∨
    (0 ≤ inherited.toInt ∧ 0 ≤ length.toInt ∧
      inherited.toInt + length.toInt ≤ fields.length.toInt)

/-- What is requested of valid fields is a valid slice. -/
theorem Requested.slice {fields : ArrayFields} {inherited length : Int64}
    (requested : Requested fields inherited length) (valid : ValidFields fields) :
    ValidSlice fields inherited (sliceLength fields length) := by
  have zero : (0 : Int64).toInt = 0 := rfl
  have positive := valid.length
  cases requested with
  | inl all =>
    obtain ⟨rfl, rfl⟩ := all
    rw [show sliceLength fields (-1) = fields.length from rfl]
    exact ⟨valid, by rw [zero], positive, by rw [zero]; omega⟩
  | inr part =>
    obtain ⟨before, rows, inside⟩ := part
    have same : sliceLength fields length = length :=
      if_neg (by rw [Int64.lt_iff_toInt_lt, zero]; omega)
    rw [same]
    exact ⟨valid, before, rows, inside⟩

/-- What the children of an array are asked for, given what they were checked to hold. -/
def RequestedOfChildren (needed : Option Int64) (inherited length : Int64) : Prop :=
  match needed with
  | none => inherited = 0 ∧ length = -1
  | some end_ => 0 ≤ inherited.toInt ∧ 0 ≤ length.toInt ∧
    inherited.toInt + length.toInt ≤ end_.toInt

/-- What is requested of the children of a valid slice is a valid slice of them. -/
theorem requestedOfChildren {format : CString} {fields : ArrayFields}
    {inherited length effective : Int64} (slice : ValidSlice fields inherited length)
    (sum : effective.toInt = fields.offset.toInt + inherited.toInt) :
    RequestedOfChildren (if isStruct format then some (fields.offset + fields.length) else none)
      (if isStruct format then effective else 0) (if isStruct format then length else -1) := by
  obtain ⟨⟨positive, offset, fits⟩, before, rows, inside⟩ := slice
  cases isStruct format with
  | false => exact ⟨rfl, rfl⟩
  | true =>
    have last : (fields.offset + fields.length).toInt =
        fields.offset.toInt + fields.length.toInt := toInt_add_fits (by omega) (by omega)
    exact ⟨show 0 ≤ effective.toInt by omega, rows,
      show effective.toInt + length.toInt ≤ (fields.offset + fields.length).toInt by
        rw [last]; omega⟩

/-- What is checked of the first child of an array with accepted children. -/
structure AcceptedChild (depths : Nat) (needed : Option Int64) (child : ArrowArray)
    (schema : ArrowSchema) : Prop where
  /-- It is accepted. -/
  accepted : validateArray depths child schema = some (.ok ())
  /-- It has the rows of the slice. -/
  holds : ∀ end_, needed = some end_ → end_.toInt ≤ child.fields.length.toInt

/-- A request to accepted children is one to each. -/
theorem AcceptedChild.requested {depths : Nat} {needed : Option Int64} {child : ArrowArray}
    {schema : ArrowSchema} (accepted : AcceptedChild depths needed child schema)
    {inherited length : Int64} (requested : RequestedOfChildren needed inherited length) :
    Requested child.fields inherited length := by
  cases needed with
  | none => exact .inl requested
  | some end_ =>
    have holds := accepted.holds end_ rfl
    obtain ⟨before, rows, inside⟩ := requested
    exact .inr ⟨before, rows, by omega⟩

/-- Accepted children are accepted one by one. -/
theorem validateArrayChildren_cons {depths : Nat} {needed : Option Int64} {child : ArrayPointer}
    {rest : ArrayChildren} {schemas : SchemaChildren}
    (accepted : validateArrayChildren depths needed (.cons child rest) schemas = some (.ok ())) :
    ∃ array schema others, child = .pointee array ∧ schemas = .cons (.pointee schema) others ∧
      AcceptedChild depths needed array schema ∧
      validateArrayChildren depths needed rest others = some (.ok ()) := by
  cases child with
  | null =>
    rw [validateArrayChildren] at accepted
    cases Option.some.inj accepted
  | pointee array =>
    by_cases present : ∃ schema others, schemas = .cons (.pointee schema) others
    · obtain ⟨schema, others, rfl⟩ := present
      rw [validateArrayChildren] at accepted
      split at accepted
      · cases Option.some.inj accepted
      · rename_i enough
        obtain ⟨checked, first, later⟩ := Option.bind_eq_some_iff.mp accepted
        cases checked with
        | error thrown => cases Option.some.inj later
        | ok =>
          refine ⟨array, schema, others, rfl, rfl, ⟨first, fun end_ same => ?_⟩, later⟩
          rw [same, Option.any_some, decide_eq_true_eq, Int64.lt_iff_toInt_lt] at enough
          omega
    · rw [validateArrayChildren.eq_4 _ _ _ _ _ fun schema others same =>
        present ⟨schema, others, same⟩] at accepted
      split at accepted
      · cases Option.some.inj accepted
      · cases accepted

mutual

/-- An array that is accepted and in memory has a view. -/
theorem normalizeArrowArray_total : ∀ {array : ArrowArray} {schema : ArrowSchema} {depths : Nat}
    {inherited length : Int64}, validateArray depths array schema = some (.ok ()) →
      Trusted array schema → Requested array.fields inherited length →
      ∃ view, normalizeArrowArray array schema inherited length = some (.ok view)
  | .mk fields children dictionary, .mk schema schemas meanings, depths, inherited, length,
      accepted, trusted, requested => by
    obtain ⟨format, checks⟩ := validateArray_ok accepted
    rw [Trusted] at trusted
    have slice : ValidSlice fields inherited (sliceLength fields length) :=
      Requested.slice requested checks.valid
    obtain ⟨effective, applied, sum⟩ := effectiveOffset_ok slice
    obtain ⟨view, viewed, -⟩ := viewFields_total slice (trusted.1 format checks.formatted)
      checks.structured sum
    obtain ⟨views, walked⟩ := normalizeChildren_total checks.nested trusted.2.1
      (requestedOfChildren slice sum)
    obtain ⟨meaning, followed⟩ := normalizeDictionary_total checks.meaning trusted.2.2
    rw [normalizeArrowArray, applied]
    dsimp only
    rw [checks.formatted, Option.bind_eq_bind, Option.bind_some, viewed, Option.bind_eq_bind,
      Option.bind_some, walked, Option.bind_eq_bind, Option.bind_some]
    dsimp only
    rw [followed, Option.bind_eq_bind, Option.bind_some]
    exact ⟨_, rfl⟩

/-- The children of a valid and trusted array are normalized. -/
theorem normalizeChildren_total : ∀ {children : ArrayChildren} {schemas : SchemaChildren}
    {depths : Nat} {needed : Option Int64} {inherited length : Int64},
      validateArrayChildren depths needed children schemas = some (.ok ()) →
      ChildrenTrusted children schemas → RequestedOfChildren needed inherited length →
      ∃ views, normalizeChildren children schemas inherited length = some (.ok views)
  | .nil, schemas, depths, needed, inherited, length, _, _, _ => ⟨.nil, by rw [normalizeChildren]⟩
  | .cons child rest, schemas, depths, needed, inherited, length, accepted, trusted,
      requested => by
    obtain ⟨array, schema, others, rfl, rfl, first, later⟩ := validateArrayChildren_cons accepted
    rw [ChildrenTrusted] at trusted
    obtain ⟨view, viewed⟩ := normalizeArrowArray_total first.accepted trusted.1
      (first.requested requested)
    obtain ⟨views, walked⟩ := normalizeChildren_total later trusted.2 requested
    rw [normalizeChildren, viewed, Option.bind_eq_bind, Option.bind_some]
    dsimp only
    rw [walked, Option.bind_eq_bind, Option.bind_some]
    exact ⟨_, rfl⟩

/-- The dictionary of a valid and trusted array is normalized. -/
theorem normalizeDictionary_total : ∀ {dictionary : ArrayPointer} {meanings : SchemaPointer}
    {depths : Nat}, validateArrayDictionary depths dictionary meanings = some (.ok ()) →
      DictionaryTrusted dictionary meanings →
      ∃ view, normalizeDictionary dictionary meanings = some (.ok view)
  | .null, _, _, _, _ => ⟨.null, by rw [normalizeDictionary]⟩
  | .pointee array, .null, _, accepted, _ => by
    rw [validateArrayDictionary] at accepted
    cases accepted
  | .pointee array, .pointee schema, depths, accepted, trusted => by
    rw [validateArrayDictionary] at accepted
    rw [DictionaryTrusted] at trusted
    obtain ⟨view, viewed⟩ := normalizeArrowArray_total accepted trusted (.inl ⟨rfl, rfl⟩)
    rw [normalizeDictionary, viewed, Option.bind_eq_bind, Option.bind_some]
    exact ⟨_, rfl⟩

end

/-! ## Parts of views -/

/-- A successful `normalize_arrow_array` made the view of the fields, the children and the
dictionary. -/
theorem normalizeArrowArray_ok {fields : ArrayFields} {children : ArrayChildren}
    {dictionary : ArrayPointer} {schema : SchemaFields} {schemas : SchemaChildren}
    {meanings : SchemaPointer} {inherited length : Int64} {view : ArrowArray}
    (made : normalizeArrowArray (.mk fields children dictionary) (.mk schema schemas meanings)
      inherited length = some (.ok view)) :
    ∃ format effective viewed views meaning, schema.format = some format ∧
      effectiveOffset fields inherited (sliceLength fields length) = .ok effective ∧
      viewFields fields format effective (sliceLength fields length) = some viewed ∧
      normalizeChildren children schemas (if isStruct format then effective else 0)
        (if isStruct format then sliceLength fields length else -1) = some (.ok views) ∧
      normalizeDictionary dictionary meanings = some (.ok meaning) ∧
      view = .mk viewed views meaning := by
  rw [normalizeArrowArray] at made
  cases applied : effectiveOffset fields inherited (sliceLength fields length) with
  | error thrown =>
    rw [applied] at made
    cases Option.some.inj made
  | ok effective =>
    rw [applied] at made
    obtain ⟨format, formatted, made⟩ := Option.bind_eq_some_iff.mp made
    obtain ⟨viewed, fields_, made⟩ := Option.bind_eq_some_iff.mp made
    obtain ⟨nested, walked, made⟩ := Option.bind_eq_some_iff.mp made
    cases nested with
    | error thrown => cases Option.some.inj made
    | ok views =>
      obtain ⟨storage, followed, made⟩ := Option.bind_eq_some_iff.mp made
      cases storage with
      | error thrown => cases Option.some.inj made
      | ok meaning =>
        obtain rfl := Except.ok.inj (Option.some.inj made)
        exact ⟨format, effective, viewed, views, meaning, formatted, rfl, fields_, walked,
          followed, rfl⟩

/-- A successful loop over children made the view of the first and of the rest. -/
theorem normalizeChildren_ok {child : ArrowArray} {rest : ArrayChildren} {schema : ArrowSchema}
    {others : SchemaChildren} {inherited length : Int64} {views : ArrayChildren}
    (made : normalizeChildren (.cons (.pointee child) rest) (.cons (.pointee schema) others)
      inherited length = some (.ok views)) :
    ∃ view later, normalizeArrowArray child schema inherited length = some (.ok view) ∧
      normalizeChildren rest others inherited length = some (.ok later) ∧
      views = .cons (.pointee view) later := by
  rw [normalizeChildren] at made
  obtain ⟨nested, viewed, made⟩ := Option.bind_eq_some_iff.mp made
  cases nested with
  | error thrown => cases Option.some.inj made
  | ok view =>
    obtain ⟨later, walked, made⟩ := Option.bind_eq_some_iff.mp made
    cases later with
    | error thrown => cases Option.some.inj made
    | ok later =>
      obtain rfl := Except.ok.inj (Option.some.inj made)
      exact ⟨view, later, viewed, walked, rfl⟩

/-- An array that was accepted and normalized, with its view. -/
structure Normalized (schema : ArrowSchema) (array view : ArrowArray) (inherited length : Int64) :
    Prop where
  /-- It was accepted. -/
  accepted : ∃ depths, validateArray depths array schema = some (.ok ())
  /-- Its memory is there. -/
  trusted : Trusted array schema
  /-- The request is possible. -/
  requested : Requested array.fields inherited length
  /-- It was normalized. -/
  made : normalizeArrowArray array schema inherited length = some (.ok view)

/-- Normalized children are found in their places. -/
theorem normalizeChildren_find {depths : Nat} {needed : Option Int64} {inherited length : Int64}
    (requested : RequestedOfChildren needed inherited length) :
    ∀ {children : ArrayChildren} {schemas : SchemaChildren} {views : ArrayChildren},
      validateArrayChildren depths needed children schemas = some (.ok ()) →
      ChildrenTrusted children schemas →
      normalizeChildren children schemas inherited length = some (.ok views) → ∀ index,
      (∃ child schema view, children.find index = some child ∧ schemas.find index = some schema ∧
          views.find index = some view ∧ Normalized schema child view inherited length) ∨
        children.find index = none ∧ views.find index = none
  | .nil, schemas, views, _, _, made, index => by
    rw [normalizeChildren] at made
    obtain rfl := Except.ok.inj (Option.some.inj made)
    exact .inr ⟨by cases index <;> rfl, by cases index <;> rfl⟩
  | .cons child rest, schemas, views, accepted, trusted, made, index => by
    obtain ⟨array, schema, others, rfl, rfl, first, later⟩ := validateArrayChildren_cons accepted
    obtain ⟨view, nested, viewed, walked, rfl⟩ := normalizeChildren_ok made
    rw [ChildrenTrusted] at trusted
    cases index with
    | zero =>
      exact .inl ⟨array, schema, view, rfl, rfl, rfl,
        ⟨⟨depths, first.accepted⟩, trusted.1, first.requested requested, viewed⟩⟩
    | succ index => exact normalizeChildren_find requested later trusted.2 walked index

/-- A slice of the producer's array, and the slice of the view that shows it. -/
structure Shows (view source : Slice) : Prop where
  /-- The schema is the same. -/
  schema : view.schema = source.schema
  /-- Nothing is inherited. -/
  inherited : view.inherited = 0
  /-- The view has the rows of the slice. -/
  length : view.length = source.length
  /-- It was made for the slice. -/
  made : ∃ inherited length,
    Normalized source.schema source.array view.array inherited length ∧
      source.inherited = inherited.toInt ∧
      source.length = (sliceLength source.array.fields length).toInt

/-- What a view says of its root. -/
theorem Normalized.viewOf {schema : ArrowSchema} {array view : ArrowArray}
    {inherited length : Int64} (normalized : Normalized schema array view inherited length) :
    ∃ format, schema.format = some format ∧
      ViewOf format array.fields inherited (sliceLength array.fields length) view.fields := by
  obtain ⟨⟨depths, accepted⟩, trusted, requested, made⟩ := normalized
  cases array with
  | mk fields children dictionary =>
    cases schema with
    | mk schema schemas meanings =>
      obtain ⟨format, effective, viewed, views, meaning, formatted, applied, fields_, -, -, rfl⟩ :=
        normalizeArrowArray_ok made
      obtain ⟨other, checks⟩ := validateArray_ok accepted
      obtain rfl := Option.some.inj (formatted.symm.trans checks.formatted)
      rw [Trusted] at trusted
      have slice : ValidSlice fields inherited (sliceLength fields length) :=
        Requested.slice requested checks.valid
      obtain ⟨same, also, sum⟩ := effectiveOffset_ok slice
      obtain rfl := Except.ok.inj (also.symm.trans applied)
      obtain ⟨twin, again, result⟩ := viewFields_total slice (trusted.1 format formatted)
        checks.structured sum
      obtain rfl := Option.some.inj (again.symm.trans fields_)
      exact ⟨format, formatted, result⟩

/-- The rows of a view hold what the format says. -/
theorem Shows.cell {view source : Slice} (shows_ : Shows view source) {row : Nat}
    (inside : row < source.length) :
    view.cell row = source.cell row ∧ (source.cell row).null.isSome = true := by
  obtain ⟨schema, nothing, length, inherited, rows, normalized, before, rowsSame⟩ := shows_
  obtain ⟨format, formatted, result⟩ := normalized.viewOf
  obtain ⟨flag, there, here⟩ := result.nulls row (by omega)
  rw [Slice.cell, Slice.cell, schema, formatted, nothing, before]
  dsimp only
  rw [there]
  refine ⟨?_, rfl⟩
  rw [Int.zero_add, here]
  cases struct : isStruct format with
  | true => rfl
  | false =>
    obtain ⟨place, data⟩ := result.data struct
    rw [place, data]

/-- The view of a struct has no offset. -/
theorem Shows.offset {view source : Slice} (shows_ : Shows view source)
    (struct : view.schema.isStruct = true) : view.array.fields.offset.toInt = 0 := by
  obtain ⟨schema, -, -, inherited, rows, normalized, -, -⟩ := shows_
  obtain ⟨format, formatted, result⟩ := normalized.viewOf
  rw [schema, ArrowSchema.isStruct, formatted, Option.any_some] at struct
  exact result.struct struct

/-- A view of a part shows the part. -/
theorem Normalized.shows {schema : ArrowSchema} {array view : ArrowArray}
    {inherited length : Int64} (normalized : Normalized schema array view inherited length)
    {before rows : Int} (offset : before = inherited.toInt)
    (count : rows = (sliceLength array.fields length).toInt) :
    Shows ⟨schema, view, 0, view.fields.length.toInt⟩ ⟨schema, array, before, rows⟩ := by
  obtain ⟨format, -, result⟩ := normalized.viewOf
  refine ⟨rfl, rfl, ?_, inherited, length, normalized, offset, count⟩
  show view.fields.length.toInt = rows
  rw [result.rows, count]

/-- A view that shows a slice has the same children, and each shows the child's part of the slice.
-/
theorem Shows.child {view source : Slice} (shows_ : Shows view source) (index : Nat) :
    (∃ shown part, view.importStep (.child index) = some shown ∧
        source.formatStep (.child index) = some part ∧ Shows shown part) ∨
      view.importStep (.child index) = none ∧ source.formatStep (.child index) = none := by
  obtain ⟨viewSchema, view, nothing, viewRows⟩ := view
  obtain ⟨schema, array, before, rows⟩ := source
  obtain ⟨sameSchema, -, -, inherited, length, normalized, offset, count⟩ := shows_
  dsimp only at sameSchema normalized offset count
  subst sameSchema
  obtain ⟨⟨depths, accepted⟩, trusted, requested, made⟩ := normalized
  obtain ⟨fields, children, dictionary⟩ := array
  obtain ⟨schemaFields, schemas, meanings⟩ := viewSchema
  obtain ⟨format, effective, viewed, views, meaning, formatted, applied, -, walked, -, rfl⟩ :=
    normalizeArrowArray_ok made
  obtain ⟨other, checks⟩ := validateArray_ok accepted
  obtain rfl := Option.some.inj (formatted.symm.trans checks.formatted)
  rw [Trusted] at trusted
  have slice : ValidSlice fields inherited (sliceLength fields length) :=
    Requested.slice requested checks.valid
  obtain ⟨same, also, sum⟩ := effectiveOffset_ok slice
  obtain rfl := Except.ok.inj (also.symm.trans applied)
  have struct : (ArrowSchema.mk schemaFields schemas meanings).isStruct = isStruct format := by
    rw [ArrowSchema.isStruct, ArrowSchema.format, formatted, Option.any_some]
  cases normalizeChildren_find (requestedOfChildren slice sum) checks.nested trusted.2.1 walked
      index with
  | inr missing =>
    right
    constructor
    · rw [Slice.importStep, follow, missing.2]
      cases schemas.find index <;> rfl
    · rw [Slice.formatStep, follow, missing.1]
      cases schemas.find index <;> rfl
  | inl found =>
    obtain ⟨child, childSchema, childView, child_, schema_, view_, normalized⟩ := found
    left
    refine ⟨⟨childSchema, childView, 0, childView.fields.length.toInt⟩,
      if isStruct format then ⟨childSchema, child, before + fields.offset.toInt, rows⟩
      else ⟨childSchema, child, 0, child.fields.length.toInt⟩, ?_, ?_, ?_⟩
    · rw [Slice.importStep, follow, schema_, view_]
      rfl
    · rw [Slice.formatStep, follow, schema_, child_]
      show (if _ then some _ else some _) = some (if _ then _ else _)
      rw [struct]
      cases isStruct format with
      | true => rfl
      | false => rfl
    · cases isStruct_ : isStruct format with
      | true =>
        rw [isStruct_] at normalized
        refine normalized.shows ?_ ?_
        · show before + fields.offset.toInt = same.toInt
          rw [sum, offset]
          exact Int.add_comm ..
        · have positive := slice.rows
          have kept : sliceLength child.fields (sliceLength fields length) =
              sliceLength fields length := by
            have zero : (0 : Int64).toInt = 0 := rfl
            exact if_neg (by rw [Int64.lt_iff_toInt_lt, zero]; omega)
          show rows = (sliceLength child.fields (sliceLength fields length)).toInt
          rw [kept, count]
          rfl
      | false =>
        rw [isStruct_] at normalized
        exact normalized.shows rfl rfl

/-- A view that shows a slice has the same dictionary, which shows the slice's. -/
theorem Shows.dictionary {view source : Slice} (shows_ : Shows view source) :
    (∃ shown part, view.importStep .dictionary = some shown ∧
        source.formatStep .dictionary = some part ∧ Shows shown part) ∨
      view.importStep .dictionary = none ∧ source.formatStep .dictionary = none := by
  obtain ⟨viewSchema, view, nothing, viewRows⟩ := view
  obtain ⟨schema, array, before, rows⟩ := source
  obtain ⟨sameSchema, -, -, inherited, length, normalized, -, -⟩ := shows_
  dsimp only at sameSchema normalized
  subst sameSchema
  obtain ⟨⟨depths, accepted⟩, trusted, requested, made⟩ := normalized
  obtain ⟨fields, children, dictionary⟩ := array
  obtain ⟨schemaFields, schemas, meanings⟩ := viewSchema
  obtain ⟨format, effective, viewed, views, meaning, -, -, -, -, followed, rfl⟩ :=
    normalizeArrowArray_ok made
  obtain ⟨other, checks⟩ := validateArray_ok accepted
  have nested := checks.meaning
  rw [Trusted] at trusted
  have held := trusted.2.2
  cases dictionary with
  | null =>
    rw [normalizeDictionary] at followed
    obtain rfl := Except.ok.inj (Option.some.inj followed)
    right
    cases meanings <;> exact ⟨rfl, rfl⟩
  | pointee array =>
    cases meanings with
    | null =>
      rw [validateArrayDictionary] at nested
      cases nested
    | pointee schema =>
      rw [validateArrayDictionary] at nested
      rw [DictionaryTrusted] at held
      rw [normalizeDictionary] at followed
      obtain ⟨inner, viewed, followed⟩ := Option.bind_eq_some_iff.mp followed
      cases inner with
      | error thrown => cases Option.some.inj followed
      | ok view =>
        obtain rfl := Except.ok.inj (Option.some.inj followed)
        refine .inl ⟨⟨schema, view, 0, view.fields.length.toInt⟩,
          ⟨schema, array, 0, array.fields.length.toInt⟩, rfl, ?_, ?_⟩
        · rw [Slice.formatStep]
          show (if _ ∧ _ then some _ else some _) = _
          rw [if_neg fun both => both.2 rfl]
        · exact Normalized.shows ⟨⟨_, nested⟩, held, .inl ⟨rfl, rfl⟩, viewed⟩ rfl rfl

/-- A view that shows a slice shows the same after each step. -/
theorem Shows.step {view source : Slice} (shows_ : Shows view source) (step : Step) :
    (∃ shown part, view.importStep step = some shown ∧ source.formatStep step = some part ∧
        Shows shown part) ∨
      view.importStep step = none ∧ source.formatStep step = none := by
  cases step with
  | child index => exact shows_.child index
  | dictionary => exact shows_.dictionary

/-- A view that shows a slice shows the same along each path. -/
theorem Shows.walk {view source : Slice} (shows_ : Shows view source) (path : List Step) :
    (∃ shown part, view.walk Slice.importStep path = some shown ∧
        source.walk Slice.formatStep path = some part ∧ Shows shown part) ∨
      view.walk Slice.importStep path = none ∧ source.walk Slice.formatStep path = none := by
  induction path generalizing view source with
  | nil => exact .inl ⟨view, source, rfl, rfl, shows_⟩
  | cons step path ih =>
    rw [Slice.walk, Slice.walk]
    cases shows_.step step with
    | inl both =>
      obtain ⟨shown, part, imported, formatted, next⟩ := both
      rw [imported, formatted]
      exact ih next
    | inr neither =>
      rw [neither.1, neither.2]
      exact .inr ⟨rfl, rfl⟩

/-! ## Normalization -/

/-- An accepted array tree in memory is normalized without an error and without a read past its
bitmaps. Whatever the path to a part of the batch, an importer that applies no offset but an array's
own finds the part in the view when the format has it, with as many rows, and every row is null or
not and has its position in the producer's buffers as the format says; structs have no offset to
apply. -/
theorem view_reads_same {array : ArrowArray} {schema : ArrowSchema} {depths : Nat}
    (accepted : validateArray depths array schema = some (.ok ()))
    (trusted : Trusted array schema) :
    ∃ view, normalizeArrowArray array schema 0 (-1) = some (.ok view) ∧ ∀ path,
      ((Slice.whole schema view).walk Slice.importStep path = none ∧
        (Slice.whole schema array).walk Slice.formatStep path = none) ∨
      ∃ shown part, (Slice.whole schema view).walk Slice.importStep path = some shown ∧
        (Slice.whole schema array).walk Slice.formatStep path = some part ∧
        shown.length = part.length ∧
        (shown.schema.isStruct = true → shown.array.fields.offset.toInt = 0) ∧
        ∀ row : Nat, row < part.length →
          shown.cell row = part.cell row ∧ (part.cell row).null.isSome = true := by
  obtain ⟨view, made⟩ := normalizeArrowArray_total accepted trusted (.inl ⟨rfl, rfl⟩)
  have root : Shows (Slice.whole schema view) (Slice.whole schema array) :=
    Normalized.shows ⟨⟨depths, accepted⟩, trusted, .inl ⟨rfl, rfl⟩, made⟩ rfl rfl
  refine ⟨view, made, fun path => ?_⟩
  cases root.walk path with
  | inr neither => exact .inl neither
  | inl both =>
    obtain ⟨shown, part, imported, formatted, shows_⟩ := both
    exact .inr ⟨shown, part, imported, formatted, shows_.length, shows_.offset,
      fun row inside => shows_.cell inside⟩

/-- The schema of a batch of one column of integers. -/
def oneColumn : ArrowSchema :=
  .mk ⟨some ⟨lit "+s", by decide⟩, none, none, 0, 1, true, true⟩
    (.cons (.pointee (.mk ⟨some ⟨lit "i", by decide⟩, none, none, 0, 0, false, true⟩ .nil .null))
      .nil) .null

/-- The last two of three integers, the middle one null. -/
def lastTwo : ArrowArray :=
  .mk ⟨2, 0, 1, 1, 1, true, [none], true, true⟩
    (.cons (.pointee (.mk ⟨3, 1, 0, 2, 0, true, [some [5], some [7, 8, 9]], false, true⟩ .nil .null))
      .nil) .null

/-- The buffers of the array hold what its offset and its length read. -/
theorem lastTwo_trusted : Trusted lastTwo oneColumn := by
  have column : Trusted (.mk ⟨3, 1, 0, 2, 0, true, [some [5], some [7, 8, 9]], false, true⟩ .nil
      .null) (.mk ⟨some ⟨lit "i", by decide⟩, none, none, 0, 0, false, true⟩ .nil .null) := by
    refine ⟨fun format _ => ⟨rfl, fun _ _ bitmap rest found => ?_⟩, trivial, trivial⟩
    obtain ⟨same, -⟩ := List.cons.inj found
    obtain rfl := Option.some.inj same
    decide
  exact ⟨fun format _ => ⟨rfl, fun _ never => absurd rfl never⟩, ⟨column, trivial⟩, trivial⟩

/-- The first of the two is null. -/
theorem view_reads_same_lastTwo :
    ∃ view shown, normalizeArrowArray lastTwo oneColumn 0 (-1) = some (.ok view) ∧
      (Slice.whole oneColumn view).walk Slice.importStep [.child 0] = some shown ∧
      shown.cell 0 = ⟨some true, some (1, [some [7, 8, 9]])⟩ := by
  obtain ⟨view, made, agrees⟩ := view_reads_same (show validateArray 129 lastTwo oneColumn =
    some (.ok ()) from rfl) lastTwo_trusted
  cases agrees [.child 0] with
  | inl neither => cases neither.2
  | inr both =>
    obtain ⟨shown, part, imported, formatted, -, -, rows⟩ := both
    obtain rfl := Option.some.inj formatted
    exact ⟨view, shown, made, imported, (rows 0 (by decide)).1⟩

end PhpDuckdb.Arrow
