import PhpDuckdb.Lib.Machine
import PhpDuckdb.Vector.Copy

/-!
# Data chunks

`DataChunk::fromVectors`, `vector` and `select`, which copy whole columns between native vectors,
and the objects of a script: its vectors, its chunks and the memory behind them. A chunk's columns
are native vectors of its own, which no PHP vector names.
-/

namespace PhpDuckdb.Vector

open SqlText PhpDuckdb.Value

variable {Cell : Type}

/-! ## Chunks -/

/-- `data_chunk_data`, with one native vector for each column. -/
structure DataChunkData where
  /-- The column names. -/
  names : List Bytes
  /-- The columns of the native chunk. -/
  columns : List VectorData
  /-- The number of its rows. -/
  size : UInt64
  /-- A vector can have as many. -/
  small : size.toNat < 2 ^ 32
  /-- Every column has a name. -/
  aligned : columns.length = names.length

/-- A column that is copied: where it comes from and where it goes. -/
structure ColumnCopy where
  source : VectorData
  target : VectorData

/-- Copy the columns one after the other. -/
def eachColumn (copy : Memory Cell → Nat → Nat → Memory Cell) :
    List ColumnCopy → Memory Cell → Memory Cell
  | [], memory => memory
  | column :: rest, memory =>
    eachColumn copy rest (copy memory column.source.vector column.target.vector)

/-- `duckdb_create_data_chunk` for columns of the given types, with the copies to make. -/
def duckdbCreateDataChunk (vectorSize : UInt64) (small : vectorSize.toNat < 2 ^ 32) :
    List VectorData → Memory Cell → List ColumnCopy × Memory Cell
  | [], memory => ([], memory)
  | like :: rest, memory =>
    let (column, memory) := duckdbVectorAllocate memory like vectorSize small
    let (columns, memory) := duckdbCreateDataChunk vectorSize small rest memory
    (⟨like, column⟩ :: columns, memory)

/-- A chunk is created with the columns that are asked for. -/
theorem duckdbCreateDataChunk_length (vectorSize : UInt64) (small : vectorSize.toNat < 2 ^ 32)
    (likes : List VectorData) (memory : Memory Cell) :
    ((duckdbCreateDataChunk vectorSize small likes memory).1.map ColumnCopy.target).length =
      likes.length := by
  induction likes generalizing memory with
  | nil => rfl
  | cons like rest ih =>
    rw [List.length_cons, ← ih (duckdbVectorAllocate memory like vectorSize small).2]
    rfl

/-- A chunk has as many columns as names when it is created for as many. -/
theorem created_aligned (vectorSize : UInt64) (small : vectorSize.toNat < 2 ^ 32)
    {likes : List VectorData} {names : List Bytes} (same : likes.length = names.length)
    (memory : Memory Cell) :
    ((duckdbCreateDataChunk vectorSize small likes memory).1.map ColumnCopy.target).length =
      names.length :=
  (duckdbCreateDataChunk_length vectorSize small likes memory).trans same

/-- Named vectors are as many as their names. -/
theorem names_aligned (vectors : List (Bytes × VectorData)) :
    (vectors.map Prod.snd).length = (vectors.map Prod.fst).length := by
  rw [List.length_map, List.length_map]

/-- A value of the array that `fromVectors` takes, references followed. -/
inductive ColumnArg
  /-- A `DuckDB\Vector`, without data before its constructor ran. -/
  | vector (data : Option VectorData)
  /-- Any other value. -/
  | other

/-- The loop of `fromVectors` over its argument; a column without a name has an integer key. -/
def checkColumns (rowCount : Int64) :
    List (Option Bytes × ColumnArg) → Except ArgumentError (List (Bytes × VectorData))
  | [] => .ok []
  | (none, _) :: _ => .error (.value 1 (lit "must use column names as keys"))
  | (some _, .other) :: _ => .error (.type 1 (lit "must contain only DuckDB\\Vector values"))
  | (some _, .vector none) :: _ => .error (.thrown ⟨.error,
      lit "DuckDB\\Vector object is not initialized (its constructor was bypassed)"⟩)
  | (some name, .vector (some data)) :: rest =>
    if data.capacity < rowCount.toUInt64 then
      .error (.value 1 (lit "must contain vectors with a capacity of at least " ++
        decimal rowCount.toUInt64.toNat ++ lit ", column \"" ++ cString name ++ lit "\" has " ++
        decimal data.capacity.toNat))
    else do
      let columns ← checkColumns rowCount rest
      .ok ((name, data) :: columns)

section Methods

variable (copier : Copier Cell) (leftover : Selection) (vectorSize : UInt64)
  (small : vectorSize.toNat < 2 ^ 32)

/-- A row count that `fromVectors` accepts fits 32 bits. -/
theorem rowCount_small {vectorSize : UInt64} (small : vectorSize.toNat < 2 ^ 32) {rowCount : Int64}
    (accepted : ¬(rowCount < 0 ∨ vectorSize < rowCount.toUInt64)) :
    rowCount.toUInt64.toNat < 2 ^ 32 := by
  have most := UInt64.lt_iff_toNat_lt.not.mp (not_or.mp accepted).2
  omega

/-- `DataChunk::fromVectors`: a chunk with the first rows of some vectors, which it copies. -/
def fromVectors (memory : Memory Cell) (columns : List (Option Bytes × ColumnArg))
    (rowCount : Int64) : Except ArgumentError (DataChunkData × Memory Cell) :=
  if columns.isEmpty then .error (.value 1 (lit "must contain at least one vector"))
  else if range : rowCount < 0 ∨ vectorSize < rowCount.toUInt64 then
    .error (.value 2 (lit "must be between 0 and " ++ decimal vectorSize.toNat))
  else do
    let vectors ← checkColumns rowCount columns
    let created := duckdbCreateDataChunk vectorSize small (vectors.map Prod.snd) memory
    .ok ({
        names := vectors.map Prod.fst
        columns := created.1.map ColumnCopy.target
        size := rowCount.toUInt64
        small := rowCount_small small range
        aligned := created_aligned vectorSize small (names_aligned vectors) memory },
      eachColumn (fun memory source target =>
        duckdbVectorCopyRows copier leftover memory source target 0 rowCount.toUInt64 0)
        created.1 created.2)

/-- The error of `DataChunk::vector`, which counts in signed integers. -/
def columnError (chunk : DataChunkData) : ArgumentError :=
  .value 1 (lit "must be between 0 and " ++
    if chunk.names.isEmpty then lit "-1" else decimal (chunk.names.length - 1))

/-- `DataChunk::vector`. The native chunk has a column for each name. -/
def chunkVector (memory : Memory Cell) (chunk : DataChunkData) (index : Int64) :
    Except ArgumentError (VectorData × Memory Cell) :=
  if index < 0 then .error (columnError chunk)
  else
    match chunk.columns[index.toUInt64.toNat]? with
    | none => .error (columnError chunk)
    | some column =>
      let (vector, memory) := duckdbVectorAllocate memory column chunk.size chunk.small
      .ok (vector,
        duckdbVectorCopyRows copier leftover memory column.vector vector.vector 0 chunk.size 0)

/-- `DataChunk::select`: a chunk with the selected rows of another one. -/
def chunkSelect (memory : Memory Cell) (source : DataChunkData) (arg : SelectionArg) :
    Except ArgumentError (DataChunkData × Memory Cell) := do
  let selection ← duckdbSelectionFromArg leftover arg 1
  if vectorSize < selection.count then
    .error (.value 1 (lit "must contain at most " ++ decimal vectorSize.toNat ++ lit " indices"))
  else
    duckdbSelectionCheckSource selection source.size 1
    let created := duckdbCreateDataChunk vectorSize small source.columns memory
    .ok ({
        names := source.names
        columns := created.1.map ColumnCopy.target
        size := selection.count
        small := selection.small
        aligned := created_aligned vectorSize small source.aligned memory },
      eachColumn (fun memory source target =>
        duckdbSelectionGather copier leftover memory source target selection 0)
        created.1 created.2)

end Methods

/-! ## The objects of a script -/

/-- The vectors and chunks that a script made, by the order in which it made them. -/
structure Objects (Cell : Type) where
  /-- Native memory. -/
  memory : Memory Cell
  /-- The `DuckDB\Vector` objects. -/
  vectors : List VectorData
  /-- The `DuckDB\DataChunk` objects. -/
  chunks : List DataChunkData

/-- A script without vectors; `rows` is what memory happens to hold. -/
def Objects.none (rows : Nat → Rows Cell) : Objects Cell := ⟨⟨rows, fun _ => 0, 0⟩, [], []⟩

/-- A method call on vectors and chunks that PHP holds. -/
inductive Call (Cell : Type)
  /-- A new vector of the type of a given one. -/
  | create (like : VectorData) (capacity : UInt64) (small : capacity.toNat < 2 ^ 32)
  /-- `set`, `setValues` or `setNull`, with the rows that it leaves. -/
  | write (vector : Nat) (rows : Rows Cell)
  /-- `Vector::copyFrom`. -/
  | copyFrom (target source : Nat) (sourceOffset : Int64) (count : Option Int64)
    (targetOffset : Int64)
  /-- `Vector::select`. -/
  | select (source : Nat) (arg : SelectionArg)
  /-- `Vector::copySelected`. -/
  | copySelected (target source : Nat) (arg : SelectionArg) (targetOffset : Int64)
  /-- `DataChunk::fromVectors`; a value that is not a vector has no number, and a vector whose
  constructor was bypassed has one that no vector has. -/
  | fromVectors (columns : List (Option Bytes × Option Nat)) (rowCount : Int64)
  /-- `DataChunk::vector`. -/
  | vector (chunk : Nat) (index : Int64)
  /-- `DataChunk::select`. -/
  | chunkSelect (chunk : Nat) (arg : SelectionArg)

/-- A value of the array that `fromVectors` takes. -/
def Objects.columnArg (objects : Objects Cell) : Option Nat → ColumnArg
  | .none => .other
  | some number => .vector objects.vectors[number]?

/-- The memory after a call that gives back nothing; a call that throws changes nothing. -/
def Objects.writing (objects : Objects Cell) (result : Except ArgumentError (Memory Cell)) :
    Objects Cell :=
  match result with
  | .error _ => objects
  | .ok memory => { objects with memory := memory }

/-- The objects after a call that gives back a vector. -/
def Objects.making (objects : Objects Cell)
    (result : Except ArgumentError (VectorData × Memory Cell)) : Objects Cell :=
  match result with
  | .error _ => objects
  | .ok (vector, memory) => ⟨memory, objects.vectors ++ [vector], objects.chunks⟩

/-- The objects after a call that gives back a chunk. -/
def Objects.building (objects : Objects Cell)
    (result : Except ArgumentError (DataChunkData × Memory Cell)) : Objects Cell :=
  match result with
  | .error _ => objects
  | .ok (chunk, memory) => ⟨memory, objects.vectors, objects.chunks ++ [chunk]⟩

section Script

variable (copier : Copier Cell) (leftover : Selection) (vectorSize : UInt64)
  (small : vectorSize.toNat < 2 ^ 32)

/-- One call on objects that exist. -/
def Objects.step (objects : Objects Cell) : Call Cell → Option (Objects Cell)
  | .create like capacity small =>
    some (objects.making (.ok (duckdbVectorAllocate objects.memory like capacity small)))
  | .write vector rows =>
    objects.vectors[vector]?.map fun data =>
      objects.writing (.ok (objects.memory.write data.vector rows))
  | .copyFrom target source sourceOffset count targetOffset => do
    let target ← objects.vectors[target]?
    let source ← objects.vectors[source]?
    some (objects.writing (Vector.copyFrom copier leftover objects.memory target source sourceOffset
      count targetOffset))
  | .select source arg => do
    let source ← objects.vectors[source]?
    some (objects.making (Vector.select copier leftover objects.memory source arg))
  | .copySelected target source arg targetOffset => do
    let target ← objects.vectors[target]?
    let source ← objects.vectors[source]?
    some (objects.writing (Vector.copySelected copier leftover objects.memory target source arg
      targetOffset))
  | .fromVectors columns rowCount =>
    some (objects.building (Vector.fromVectors copier leftover vectorSize small objects.memory
      (columns.map fun column => (column.1, objects.columnArg column.2)) rowCount))
  | .vector chunk index => do
    let chunk ← objects.chunks[chunk]?
    some (objects.making (chunkVector copier leftover objects.memory chunk index))
  | .chunkSelect chunk arg => do
    let chunk ← objects.chunks[chunk]?
    some (objects.building (Vector.chunkSelect copier leftover vectorSize small objects.memory
      chunk arg))

/-- The machine of a script's vectors and chunks. -/
def script : Machine (Objects Cell) (Call Cell) :=
  ⟨Objects.step copier leftover vectorSize small⟩

end Script

end PhpDuckdb.Vector
