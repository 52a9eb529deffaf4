import PhpDuckdb.Connection.Guard
import PhpDuckdb.Vector.Native

/-!
# Vectors of PHP

The data behind a `DuckDB\Vector`, the native memory that it points into, and the checks that its
methods share.
-/

namespace PhpDuckdb.Vector

open SqlText PhpDuckdb.Value

universe u

variable {Cell : Type u}

/-! ## Types -/

/-- `vector_fast_kind`: how the values of a type can be written without a conversion. -/
inductive FastKind
  | none
  | boolean
  | int8
  | int16
  | int32
  | int64
  | uint8
  | uint16
  | uint32
  | uint64
  | float64
  | varchar
  | blob
  deriving DecidableEq, Repr

/-- `duckdb_vector_fast_kind`: the fast kind of a type; a type with an alias has none. -/
def duckdbVectorFastKind : LogicalType → FastKind
  | .plain _ (some _) => .none
  | .plain .boolean Option.none => .boolean
  | .plain .tinyint Option.none => .int8
  | .plain .smallint Option.none => .int16
  | .plain .integer Option.none => .int32
  | .plain .bigint Option.none => .int64
  | .plain .utinyint Option.none => .uint8
  | .plain .usmallint Option.none => .uint16
  | .plain .uinteger Option.none => .uint32
  | .plain .ubigint Option.none => .uint64
  | .plain .double Option.none => .float64
  | .plain .varchar Option.none => .varchar
  | .plain .blob Option.none => .blob
  | _ => .none

/-- `take_string`: what DuckDB returns is read as a C string. -/
def takeString (value : Bytes) : Bytes := cString value

mutual

/-- `duckdb_vector_types_equal`: two types are compared part by part, without their aliases, and
texts up to their first NUL. -/
def duckdbVectorTypesEqual : LogicalType → LogicalType → Bool
  | .plain first _, .plain second _ => first = second
  | .decimal width scale, .decimal width' scale' => width = width' && scale = scale'
  | .enum labels, .enum labels' => labels.map takeString = labels'.map takeString
  | .geometry _, .geometry _ => true
  | .list child, .list child' => duckdbVectorTypesEqual child child'
  | .array child size, .array child' size' => size = size' && duckdbVectorTypesEqual child child'
  | .map key value, .map key' value' =>
    duckdbVectorTypesEqual key key' && duckdbVectorTypesEqual value value'
  | .struct members, .struct members' => vectorMembersEqual members members'
  | .union members, .union members' => vectorMembersEqual members members'
  | _, _ => false

/-- The members of two STRUCTs or UNIONs in `duckdb_vector_types_equal`. -/
def vectorMembersEqual : Members → Members → Bool
  | .nil, .nil => true
  | .cons name type rest, .cons name' type' rest' =>
    takeString name = takeString name' && duckdbVectorTypesEqual type type' &&
      vectorMembersEqual rest rest'
  | _, _ => false

end

/-! ## Memory -/

/-- The native vectors by handle. Handles from `next` on are not in use; what a new vector holds is
what memory happens to hold there. -/
structure Memory (Cell : Type u) where
  /-- The rows of a vector. -/
  rows : Nat → Rows Cell
  /-- The number of its rows. -/
  capacity : Nat → Nat
  /-- The next handle. -/
  next : Nat

/-- Replace the rows of a vector. -/
def Memory.write (memory : Memory Cell) (vector : Nat) (rows : Rows Cell) : Memory Cell :=
  { memory with rows := Function.update memory.rows vector rows }

@[simp]
theorem Memory.write_self (memory : Memory Cell) (vector : Nat) (rows : Rows Cell) :
    (memory.write vector rows).rows vector = rows := Function.update_self ..

@[simp]
theorem Memory.write_other (memory : Memory Cell) {vector other : Nat} (rows : Rows Cell)
    (different : other ≠ vector) : (memory.write vector rows).rows other = memory.rows other :=
  Function.update_of_ne different ..

@[simp]
theorem Memory.write_capacity (memory : Memory Cell) (vector : Nat) (rows : Rows Cell) :
    (memory.write vector rows).capacity = memory.capacity := rfl

@[simp]
theorem Memory.write_next (memory : Memory Cell) (vector : Nat) (rows : Rows Cell) :
    (memory.write vector rows).next = memory.next := rfl

/-- `duckdb_create_vector`: a new vector with room for some rows. -/
def Memory.create (memory : Memory Cell) (capacity : Nat) : Nat × Memory Cell :=
  (memory.next,
    { memory with
      capacity := Function.update memory.capacity memory.next capacity
      next := memory.next + 1 })

/-- DuckDB's vector copier. Nothing is known of a copy from a vector into itself. -/
structure Copier (Cell : Type u) where
  /-- `duckdb_vector_copy_sel`. -/
  copy : Memory Cell → Nat → Nat → Selection → Nat → Nat → Nat → Memory Cell
  /-- Between two distinct vectors it copies the selected rows, as long as every row read and
  written is one of theirs. -/
  distinct : ∀ (memory : Memory Cell) (source target : Nat) (selection : Selection)
    (count sourceOffset targetOffset : Nat), source ≠ target →
    (∀ entry, sourceOffset ≤ entry → entry < count →
      (selection entry).toNat < memory.capacity source) →
    targetOffset + (count - sourceOffset) ≤ memory.capacity target →
    copy memory source target selection count sourceOffset targetOffset =
      memory.write target (copySel (memory.rows source) (memory.rows target) selection count
        sourceOffset targetOffset)

/-- Copy selected rows from a vector of `size` rows into another one of `room` rows. -/
def Copier.between (copier : Copier Cell) (source target : Rows Cell) (size room : Nat)
    (selection : Selection) (count sourceOffset targetOffset : Nat) : Rows Cell :=
  let memory : Memory Cell :=
    ⟨fun vector => if vector = 0 then source else target, fun vector => if vector = 0 then size else room,
      2⟩
  (copier.copy memory 0 1 selection count sourceOffset targetOffset).rows 1

/-- The selected rows are copied when both vectors have the rows that are read and written. -/
theorem Copier.between_eq (copier : Copier Cell) (source target : Rows Cell) {size room : Nat}
    {selection : Selection} {count sourceOffset targetOffset : Nat}
    (reads : ∀ entry, sourceOffset ≤ entry → entry < count → (selection entry).toNat < size)
    (writes : targetOffset + (count - sourceOffset) ≤ room) :
    copier.between source target size room selection count sourceOffset targetOffset =
      copySel source target selection count sourceOffset targetOffset := by
  rw [Copier.between, copier.distinct _ 0 1 selection _ _ _ Nat.zero_ne_one reads writes,
    Memory.write_self]
  rfl

/-- A copier that leaves a vector alone when it is told to copy from it into itself. -/
def Copier.plain : Copier Cell where
  copy memory source target selection count sourceOffset targetOffset :=
    if source = target then memory
    else memory.write target (copySel (memory.rows source) (memory.rows target) selection count
      sourceOffset targetOffset)
  distinct _ _ _ _ _ _ _ different _ _ := if_neg different

/-- `vector_data`: a vector of PHP with its type and its size. -/
structure VectorData where
  /-- The handle. -/
  vector : Nat
  /-- The logical type. -/
  type : LogicalType
  /-- Its SQL text. -/
  declaration : Bytes
  /-- The number of rows. -/
  capacity : UInt64
  /-- How values are written without a conversion. -/
  fast : FastKind
  /-- Selection entries can name every row. -/
  small : capacity.toNat < 2 ^ 32
  /-- The declaration is the type's. -/
  declared : sqlType 65 type = .ok declaration
  /-- The fast kind is the type's. -/
  kind : fast = duckdbVectorFastKind type

/-- Memory holds the vector of an object. -/
structure VectorData.Lives (data : VectorData) (memory : Memory Cell) : Prop where
  /-- The handle is in use. -/
  used : data.vector < memory.next
  /-- The vector has the rows that the object says. -/
  capacity : memory.capacity data.vector = data.capacity.toNat

/-- `duckdb_vector_allocate` with the type of a vector. -/
def duckdbVectorAllocate (memory : Memory Cell) (like : VectorData) (capacity : UInt64)
    (small : capacity.toNat < 2 ^ 32) : VectorData × Memory Cell :=
  let created := memory.create capacity.toNat
  (⟨created.1, like.type, like.declaration, capacity, duckdbVectorFastKind like.type, small,
    like.declared, rfl⟩, created.2)

/-- A new vector lives, under a handle of its own. -/
theorem duckdbVectorAllocate_lives (memory : Memory Cell) (like : VectorData) (capacity : UInt64)
    (small : capacity.toNat < 2 ^ 32) :
    (duckdbVectorAllocate memory like capacity small).1.Lives
      (duckdbVectorAllocate memory like capacity small).2 where
  used := Nat.lt_succ_self memory.next
  capacity := Function.update_self ..

/-- The vectors in use stay as they are. -/
theorem VectorData.Lives.allocate {data : VectorData} {memory : Memory Cell}
    (lives : data.Lives memory) (like : VectorData) (capacity : UInt64)
    (small : capacity.toNat < 2 ^ 32) :
    data.Lives (duckdbVectorAllocate memory like capacity small).2 where
  used := Nat.lt_succ_of_lt lives.used
  capacity := (Function.update_of_ne (Nat.ne_of_lt lives.used) ..).trans lives.capacity

/-! ## Checks -/

/-- Why a method rejects an argument. -/
inductive ArgumentError
  /-- `zend_argument_value_error`. -/
  | value (argument : Nat) (message : Bytes)
  /-- `zend_argument_type_error`. -/
  | type (argument : Nat) (message : Bytes)
  /-- The type error that renders both types. -/
  | types (argument : Nat) (expected given : LogicalType)
  /-- `zend_throw_error`. -/
  | thrown (thrown : Thrown)

/-- `check_row`: a row is inside a vector, and the message tells the range. -/
def checkRow (data : VectorData) (row : Int64) (argument : Nat) : Except ArgumentError Unit :=
  if row < 0 ∨ data.capacity ≤ row.toUInt64 then
    if data.capacity = 0 then .error (.value argument (lit "must be a row of a non-empty vector"))
    else .error (.value argument
      (lit "must be between 0 and " ++ decimal (data.capacity - 1).toNat))
  else .ok ()

/-- `check_range`: some rows from an offset on are inside a vector. -/
def checkRange (data : VectorData) (offset : Int64) (count argument : Nat) :
    Except ArgumentError Unit :=
  if offset < 0 ∨ data.capacity < offset.toUInt64 ∨
      (data.capacity - offset.toUInt64).toNat < count then
    .error (.value argument (lit "must leave the range within the vector capacity of " ++
      decimal data.capacity.toNat))
  else .ok ()

/-- `Z_LVAL_P`: the number of an integer, read without a check. -/
def lval : Zval → Int64
  | .long number => number
  | _ => 0

/-- A row is accepted when it is one of the vector's. -/
theorem checkRow_eq_ok {data : VectorData} {row : Int64} {argument : Nat} :
    checkRow data row argument = .ok () ↔
      0 ≤ row.toInt ∧ row.toInt < data.capacity.toNat := by
  have zero := Int64.toInt_zero
  rw [checkRow]
  by_cases negative : row < 0
  · have below := Int64.lt_iff_toInt_lt.mp negative
    rw [if_pos (.inl negative)]
    constructor
    · intro accepted
      split at accepted <;> cases accepted
    · omega
  · have positive : 0 ≤ row.toInt := by
      have above := Int64.lt_iff_toInt_lt.not.mp negative
      omega
    have bits := toUInt64_toNat positive
    by_cases past : data.capacity ≤ row.toUInt64
    · have far := UInt64.le_iff_toNat_le.mp past
      rw [if_pos (.inr past)]
      constructor
      · intro accepted
        split at accepted <;> cases accepted
      · omega
    · have near := UInt64.le_iff_toNat_le.not.mp past
      rw [if_neg fun either => either.elim negative past]
      exact ⟨fun _ => by omega, fun _ => rfl⟩

/-- A range is accepted when it lies inside the vector; its offset may be the end. -/
theorem checkRange_eq_ok {data : VectorData} {offset : Int64} {count argument : Nat} :
    checkRange data offset count argument = .ok () ↔
      0 ≤ offset.toInt ∧ offset.toInt + count ≤ data.capacity.toNat := by
  have zero := Int64.toInt_zero
  rw [checkRange]
  by_cases negative : offset < 0
  · have below := Int64.lt_iff_toInt_lt.mp negative
    rw [if_pos (.inl negative)]
    exact ⟨(nomatch ·), fun inside => by omega⟩
  · have positive : 0 ≤ offset.toInt := by
      have above := Int64.lt_iff_toInt_lt.not.mp negative
      omega
    have bits := toUInt64_toNat positive
    by_cases past : data.capacity < offset.toUInt64
    · have far := UInt64.lt_iff_toNat_lt.mp past
      rw [if_pos (.inr (.inl past))]
      exact ⟨(nomatch ·), fun inside => by omega⟩
    · have near := UInt64.lt_iff_toNat_lt.not.mp past
      have left := UInt64.toNat_sub_of_le data.capacity offset.toUInt64
        (UInt64.not_lt.mp past)
      by_cases long : (data.capacity - offset.toUInt64).toNat < count
      · rw [if_pos (.inr (.inr long))]
        exact ⟨(nomatch ·), fun inside => by omega⟩
      · rw [if_neg fun any => any.elim negative fun either => either.elim past long]
        exact ⟨fun _ => by omega, fun _ => rfl⟩

end PhpDuckdb.Vector
