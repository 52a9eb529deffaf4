import PhpDuckdb.Variant.Reader

/-!
# The vectors of a VARIANT

A VARIANT vector holds three metadata lists and a blob for every row. The row's part of a list is
checked once; after that a cell is read by an index relative to it. Memory may hold anything, and a
read outside of the row's own part of a list is a stop of its own.
-/

namespace PhpDuckdb.Variant

open SqlText Transducer

/-- `duckdb_type`, as far as the decoder asks for it. -/
inductive VectorType where
  /-- `DUCKDB_TYPE_VARIANT`. -/
  | variant
  /-- `DUCKDB_TYPE_LIST`. -/
  | list
  /-- `DUCKDB_TYPE_STRUCT`. -/
  | struct
  /-- `DUCKDB_TYPE_VARCHAR`. -/
  | varchar
  /-- `DUCKDB_TYPE_BLOB`. -/
  | blob
  /-- `DUCKDB_TYPE_UINTEGER`. -/
  | uinteger
  /-- `DUCKDB_TYPE_UTINYINT`. -/
  | utinyint
  /-- Any other type. -/
  | other
deriving DecidableEq, Repr

/-- A vector of cells: what the C API says of it, and its memory. -/
structure CellVector (α : Type) where
  /-- `duckdb_vector_get_column_type`. -/
  type : Option VectorType
  /-- `duckdb_vector_get_validity`: the rows that are not NULL; nothing when all are. -/
  mask : Option (UInt64 → Bool)
  /-- `duckdb_vector_get_data`. -/
  data : Option (UInt64 → α)

/-- `duckdb_list_entry`: the rows of the child that a LIST holds. -/
structure ListEntry where
  /-- The first row. -/
  offset : UInt64
  /-- The number of rows. -/
  length : UInt64

/-- A LIST vector and its child. -/
structure ListVector (Child : Type) where
  /-- The entries. -/
  entries : CellVector ListEntry
  /-- `duckdb_list_vector_get_size`. -/
  size : UInt64
  /-- `duckdb_list_vector_get_child`. -/
  child : Option Child

/-- A STRUCT vector of two children. -/
structure PairVector (First Second : Type) where
  /-- `duckdb_vector_get_column_type`. -/
  type : Option VectorType
  /-- `duckdb_struct_type_child_count`. -/
  count : Nat
  /-- The first child. -/
  first : Option (CellVector First)
  /-- The second child. -/
  second : Option (CellVector Second)

/-- A VARIANT vector: its own type and validity, and its children. A string is the bytes that its
`duckdb_string_t` points to. -/
structure VariantVector where
  /-- `duckdb_vector_get_column_type`. -/
  type : Option VectorType
  /-- `duckdb_vector_get_validity`. -/
  mask : Option (UInt64 → Bool)
  /-- The names of the fields of objects. -/
  keys : Option (ListVector (CellVector Bytes))
  /-- The children of objects and arrays: a key and a value. -/
  children : Option (ListVector (PairVector UInt32 UInt32))
  /-- The values: a tag and a byte offset. -/
  values : Option (ListVector (PairVector UInt8 UInt32))
  /-- The payloads; a string may have no bytes to point to. -/
  blob : Option (CellVector (Option Region))

/-- What `invalid` throws: the payload is not one of DuckDB's. -/
def invalid {α : Type} (message : String) : Except Stop α := .error (.invalid message)

/-- A result is a value of a kind, or a message; it is no read that left its memory. -/
def Gives {α : Type} (kept : α → Prop) : Except Stop α → Prop
  | .error stop => ¬stop.Fatal
  | .ok value => kept value

/-- A message about invalid data is a permitted result. -/
theorem gives_invalid {α : Type} {kept : α → Prop} (message : String) :
    Gives kept (invalid message) := Stop.invalid_harmless message

/-- A permitted result followed by permitted results is permitted. -/
theorem Gives.bind {α β : Type} {kept : α → Prop} {then_ : β → Prop} {result : Except Stop α}
    {next : α → Except Stop β} (one : Gives kept result)
    (two : ∀ value, kept value → Gives then_ (next value)) : Gives then_ (result >>= next) := by
  cases result with
  | error stop => exact one
  | ok value => exact two value one

/-- What is given keeps what follows from it. -/
theorem Gives.of_imp {α : Type} {kept weaker : α → Prop} {result : Except Stop α}
    (one : Gives kept result) (follows : ∀ value, kept value → weaker value) :
    Gives weaker result := by
  cases result with
  | error stop => exact one
  | ok value => exact follows value one

/-- `require_type`, of a vector that is there or not. -/
def requireType {α : Type} (vector : Option α) (type : α → Option VectorType)
    (expected : VectorType) : Except Stop α :=
  match vector with
  | none => invalid "Missing VARIANT child vector"
  | some vector =>
    if type vector = some expected then .ok vector
    else invalid "Unsupported VARIANT child layout"

/-- `List`: the row's part of a metadata list. -/
structure MetadataList (Child : Type) where
  /-- `child`. -/
  child : Child
  /-- `entry`. -/
  entry : ListEntry
  /-- The size of the child, which the constructor has looked at. -/
  size : UInt64

/-- The constructor of `List`, which checks the type and the entry of a row. -/
def metadataList {Child : Type} (vector : Option (ListVector Child)) (row : UInt64)
    (type : Child → Option VectorType) (expected : VectorType) :
    Except Stop (MetadataList Child) := do
  let list ← requireType vector (fun list => list.entries.type) .list
  if list.entries.mask.any fun mask => !mask row then invalid "NULL VARIANT metadata list"
  else
    match list.entries.data with
    | none => invalid "Missing VARIANT metadata list data"
    | some entries =>
      if list.size < (entries row).offset ∨
          list.size - (entries row).offset < (entries row).length then
        invalid "VARIANT list range is out of bounds"
      else do
        let child ← requireType list.child type expected
        .ok ⟨child, entries row, list.size⟩

namespace MetadataList

variable {Child α : Type}

/-- `index`: the row of a child that is inside the entry. -/
def index (list : MetadataList Child) (relative : UInt32) : Except Stop UInt64 :=
  if list.entry.length ≤ relative.toUInt64 then invalid "VARIANT index is out of bounds"
  else .ok (list.entry.offset + relative.toUInt64)

/-- A row is in the row's own part of a list. -/
def Owns (list : MetadataList Child) (row : UInt64) : Prop :=
  list.entry.offset.toNat ≤ row.toNat ∧
    row.toNat < list.entry.offset.toNat + list.entry.length.toNat ∧ row.toNat < list.size.toNat

instance (list : MetadataList Child) (row : UInt64) : Decidable (list.Owns row) :=
  inferInstanceAs (Decidable (_ ∧ _ ∧ _))

/-- `cell`, of a vector of a list: its validity and its data are read at the row. -/
def cell (list : MetadataList Child) (vector : CellVector α) (row : UInt64) : Except Stop α :=
  if list.Owns row then
    if vector.mask.any fun mask => !mask row then invalid "NULL VARIANT metadata value"
    else
      match vector.data with
      | none => invalid "Missing VARIANT metadata value"
      | some data => .ok (data row)
  else .error .outside

/-- The part of a list is inside of its child. -/
def Inside (list : MetadataList Child) : Prop :=
  list.entry.offset.toNat + list.entry.length.toNat ≤ list.size.toNat

/-- An index that the check lets through is a row of the part. -/
theorem Inside.index_gives {list : MetadataList Child} (inside : list.Inside) (relative : UInt32) :
    Gives list.Owns (list.index relative) := by
  have bound := list.size.toNat_lt
  have whole : list.entry.offset.toNat + list.entry.length.toNat ≤ list.size.toNat := inside
  rw [index]
  by_cases beyond : list.entry.length ≤ relative.toUInt64
  · rw [if_pos beyond]
    exact gives_invalid _
  · have small : relative.toUInt64.toNat < list.entry.length.toNat :=
      UInt64.lt_iff_toNat_lt.mp (UInt64.not_le.mp beyond)
    have row : (list.entry.offset + relative.toUInt64).toNat =
        list.entry.offset.toNat + relative.toUInt64.toNat := by
      rw [UInt64.toNat_add]
      apply Nat.mod_eq_of_lt
      omega
    rw [if_neg beyond]
    show _ ≤ _ ∧ _ < _ ∧ _ < _
    omega

/-- A cell of the part is read without leaving it. -/
theorem cell_gives {list : MetadataList Child} (vector : CellVector α) {row : UInt64}
    (owned : list.Owns row) : Gives (fun _ => True) (list.cell vector row) := by
  rw [cell, if_pos owned]
  split
  · exact gives_invalid _
  · cases vector.data with
    | none => exact gives_invalid _
    | some data => trivial

end MetadataList

/-- A check of a type stops with a message only. -/
theorem requireType_gives {α : Type} (vector : Option α) (type : α → Option VectorType)
    (expected : VectorType) : Gives (fun _ => True) (requireType vector type expected) := by
  cases vector with
  | none => exact gives_invalid _
  | some vector =>
    rw [requireType]
    split
    · trivial
    · exact gives_invalid _

/-- The constructor of `List` makes a part that is inside of the child. -/
theorem metadataList_gives {Child : Type} (vector : Option (ListVector Child)) (row : UInt64)
    (type : Child → Option VectorType) (expected : VectorType) :
    Gives MetadataList.Inside (metadataList vector row type expected) := by
  refine (requireType_gives vector _ .list).bind fun list _ => ?_
  split
  · exact gives_invalid _
  · split
    · exact gives_invalid _
    · split
      · exact gives_invalid _
      · rename_i fits
        refine (requireType_gives list.child type expected).bind fun child _ => ?_
        obtain ⟨start, enough⟩ := not_or.mp fits
        have first := UInt64.le_iff_toNat_le.mp (UInt64.not_lt.mp start)
        have last := UInt64.le_iff_toNat_le.mp (UInt64.not_lt.mp enough)
        rw [UInt64.toNat_sub_of_le _ _ (UInt64.le_iff_toNat_le.mpr first)] at last
        exact Nat.add_le_of_le_sub' first last

end PhpDuckdb.Variant
