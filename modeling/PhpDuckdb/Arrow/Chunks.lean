import PhpDuckdb.Arrow.Array
import PhpDuckdb.Connection.Guard
import PhpDuckdb.Lib.Holders

/-!
# Arrow chunks

An `ArrowArray` carries its producer's `release`, and the struct whose `release` is not null owns the
buffers. Imports, exports and conversions copy such structs and clear the `release` that they copied
from; an `arrow_schema_data` is shared instead. The log has what the producers' callbacks see.
-/

namespace PhpDuckdb.ArrowChunks

open SqlText PhpDuckdb.Value Connection Arrow Bitmap Ownership

/-! ## Structs and objects -/

/-- What is released once: the buffers of an array, or a schema, by the number of their producer. -/
inductive Handle
  | array (producer : Nat)
  | schema (producer : Nat)
  deriving DecidableEq, Repr

/-- The number of the producer whose callback releases the handle. -/
def Handle.producer : Handle → Nat
  | .array producer | .schema producer => producer

/-- A root `ArrowArray`: its fields, and whose callback its `release` is. -/
structure ArrayStruct where
  /-- Its other fields. -/
  array : ArrowArray
  /-- `release`. -/
  release : Option Nat

/-- The struct as native code sees it, with its own `release`. -/
def ArrayStruct.view (struct : ArrayStruct) : ArrowArray :=
  match struct.array with
  | .mk fields children dictionary =>
    .mk { fields with release := struct.release.isSome } children dictionary

/-- A root `ArrowSchema` with the callback that releases it. -/
structure SchemaStruct where
  /-- Its other fields. -/
  schema : ArrowSchema
  /-- `release`. -/
  release : Option Nat

/-- The schema as native code sees it, with its own `release`. -/
def SchemaStruct.view (struct : SchemaStruct) : ArrowSchema :=
  match struct.schema with
  | .mk fields children dictionary =>
    .mk { fields with release := struct.release.isSome } children dictionary

/-- `arrow_chunk_data`: an array that PHP owns, beside the schema that it shares. -/
structure ArrowChunkData where
  /-- `array`. -/
  array : ArrayStruct
  /-- `schema`: the shared `arrow_schema_data`, by the number of its producer. -/
  schema : Nat
  /-- `row_count`. -/
  rowCount : Nat

/-- `data_chunk_data` of a chunk that was imported from Arrow. -/
structure DataChunkData where
  /-- `names`. -/
  names : List Bytes
  /-- `arrow_owner`. -/
  arrowOwner : ArrowChunkData
  /-- The root of `arrow_facade`; its `release` is `borrowed_arrow_release`, which calls nobody. -/
  arrowFacade : ArrowArray

/-- A PHP object that keeps Arrow data alive. -/
inductive Object
  /-- `ArrowSchema`, over a shared `arrow_schema_data`. -/
  | schema (data : Nat)
  /-- `ArrowChunk`. -/
  | chunk (data : ArrowChunkData)
  /-- `DataChunk`. -/
  | data (data : DataChunkData)

/-- The `arrow_schema_data` that an object keeps alive. -/
def Object.schemaData : Object → Nat
  | .schema shared => shared
  | .chunk arrow => arrow.schema
  | .data imported => imported.arrowOwner.schema

/-- The producer of the array that an object owns. -/
def Object.release : Object → Option Nat
  | .schema _ => none
  | .chunk arrow => arrow.array.release
  | .data imported => imported.arrowOwner.array.release

/-- The native structs that addresses lead to, the PHP objects and what producers were called for. -/
structure State where
  /-- The `ArrowArray` at an address. -/
  arrays : Int → ArrayStruct
  /-- The `ArrowSchema` at an address. -/
  schemas : Int → SchemaStruct
  /-- The contents of an `arrow_schema_data`. -/
  schemaData : Nat → ArrowSchema
  /-- The PHP objects. -/
  objects : Nat → Option Object
  /-- The next number of an object or a producer. -/
  next : Nat
  /-- What was created, read and released. -/
  log : List (Use Handle)

/-- Structs that are filled with zeros. -/
def State.start : State where
  arrays := fun _ => ⟨.mk ⟨0, 0, 0, 0, 0, false, [], false, false⟩ .nil .null, none⟩
  schemas := fun _ => ⟨.mk ⟨none, none, none, 0, 0, false, false⟩ .nil .null, none⟩
  schemaData := fun _ => .mk ⟨none, none, none, 0, 0, false, false⟩ .nil .null
  objects := fun _ => none
  next := 0
  log := []

/-- What a method returns: nothing, or a new object. -/
inductive Reply
  | nothing
  | object (number : Nat)
  deriving DecidableEq, Repr

/-- "Arrow chunk has already been consumed". -/
def consumed : Thrown := ⟨.exception, lit "Arrow chunk has already been consumed"⟩

/-! ## Checks -/

/-- `address_pointer`: an address is positive and aligned to eight bytes. -/
def addressPointer (address : Int) : Except Thrown Unit :=
  if address ≤ 0 ∨ address % 8 ≠ 0 then
    .error (valueError "Arrow C Data Interface address must be positive and aligned")
  else .ok ()

/-- The loop of `ArrowChunk::importFromC` over the rows of the validity buffer. -/
def nullRow (validity : Bytes) (offset : Nat) : Nat → Nat → Option Bool
  | 0, _ => some false
  | rows + 1, row => do
    let valid ← readBit validity (offset + row)
    if valid then nullRow validity offset rows (row + 1) else some true

/-- The checks of `ArrowChunk::importFromC` on a validated array. -/
def recordBatch (fields : ArrayFields) : Option (Except Thrown Unit) :=
  if fields.nBuffers ≠ 1 ∨ 0 < fields.nullCount then
    some (.error (valueError
      "Arrow record batches require one validity buffer and no null rows"))
  else if 2 ^ 32 - 1 < fields.length.toInt then
    some (.error (valueError
      "Arrow record batch row count exceeds the supported integer range"))
  else if fields.nullCount = -1 then
    match fields.buffers with
    | [] => none
    | none :: _ => some (.ok ())
    | some validity :: _ => do
      let found ← nullRow validity fields.offset.toInt.toNat fields.length.toInt.toNat 0
      if found then some (.error (valueError "Arrow record batches must not contain null rows"))
      else some (.ok ())
  else some (.ok ())

/-- The checks of `ArrowChunk::importFromC` in their order. -/
def importable (schema : ArrowSchema) (address : Int) (source : ArrayStruct) :
    Option (Except Thrown Unit) := do
  match ← validateSchema maxDepths schema with
  | .error thrown => some (.error thrown)
  | .ok () =>
    let .mk fields _ _ := schema
    if Arrow.isStruct (← fields.format) = false then
      some (.error (valueError "Arrow chunks require a struct schema for the record batch"))
    else
      match addressPointer address with
      | .error thrown => some (.error thrown)
      | .ok () =>
        match ← validateArray maxDepths source.view schema with
        | .error thrown => some (.error thrown)
        | .ok () => recordBatch source.view.fields

/-! ## Conversion -/

/-- The names of the columns in `duckdb_import_arrow_chunk`. -/
def columnNames : SchemaChildren → Option (List Bytes)
  | .nil => some []
  | .cons .null _ => none
  | .cons (.pointee (.mk fields _ _)) rest => do
    let names ← columnNames rest
    some ((match fields.name with | some name => name.val | none => []) :: names)

/-- What DuckDB answers during an import. -/
structure Answers where
  /-- `duckdb_schema_from_arrow` fails. -/
  schemaFails : Option Thrown
  /-- `duckdb_data_chunk_from_arrow` fails, and whether it left a chunk. -/
  chunkFails : Option (Thrown × Bool)
  /-- `arrow_import_preserves_geometry_crs` fails. -/
  geometryFails : Option Thrown

/-- How `duckdb_import_arrow_chunk` ends, and whether it took the array. -/
inductive Imported
  /-- It throws before it takes the array. -/
  | refused (thrown : Thrown)
  /-- It throws afterwards: its data chunk is destroyed, with a native chunk or without. -/
  | failed (thrown : Thrown) (data : DataChunkData) (native : Bool)
  | imported (data : DataChunkData)

/-- `duckdb_import_arrow_chunk`: gives an unconsumed array to DuckDB, with its schema borrowed. -/
def duckdbImportArrowChunk (answers : Answers) (schema : ArrowSchema) (arrow : ArrowChunkData) :
    Option Imported :=
  if arrow.array.release = none then some (.refused consumed)
  else
    match answers.schemaFails with
    | some thrown => some (.refused thrown)
    | none => do
      let .mk _ children _ := schema
      let names ← columnNames children
      match ← normalizeArrowArray arrow.array.view schema 0 (-1) with
      | .error thrown => some (.refused thrown)
      | .ok facade =>
        let data : DataChunkData := ⟨names, arrow, facade⟩
        match answers.chunkFails, answers.geometryFails with
        | some (thrown, native), _ => some (.failed thrown data native)
        | none, some thrown => some (.failed thrown data true)
        | none, none => some (.imported data)

/-! ## Steps -/

/-- The buffers of an array are read. -/
def reads (struct : ArrayStruct) : List (Use Handle) :=
  match struct.release with
  | some producer => [.touch (.array producer)]
  | none => []

/-- `array.release(&array)` of `~arrow_chunk_data`, for an array that still has it. -/
def releases (struct : ArrayStruct) : List (Use Handle) :=
  match struct.release with
  | some producer => [.destroy (.array producer)]
  | none => []

/-- `~data_chunk_data` up to its schema: the native chunk goes before the owner of its buffers. -/
def destroysData (data : DataChunkData) (native : Bool) : List (Use Handle) :=
  (if native then reads data.arrowOwner.array else []) ++ releases data.arrowOwner.array

/-- The state with more uses of handles in its log. -/
def State.logged (state : State) (uses : List (Use Handle)) : State :=
  { state with log := state.log ++ uses }

/-- A PHP object changes, appears or goes. -/
def State.setObject (state : State) (number : Nat) (object : Option Object) : State :=
  { state with objects := Function.update state.objects number object }

/-- The state with another native array at an address. -/
def State.setArray (state : State) (address : Int) (struct : ArrayStruct) : State :=
  { state with arrays := Function.update state.arrays address struct }

/-- The state with another native schema at an address. -/
def State.setSchema (state : State) (address : Int) (struct : SchemaStruct) : State :=
  { state with schemas := Function.update state.schemas address struct }

/-- The state with another `arrow_schema_data` under a number. -/
def State.setSchemaData (state : State) (data : Nat) (schema : ArrowSchema) : State :=
  { state with schemaData := Function.update state.schemaData data schema }

/-- A producer gets the next number. -/
def State.create (state : State) (handle : Handle) : State :=
  { state with next := state.next + 1, log := state.log ++ [.create handle] }

/-- `array.release = nullptr`: the struct owns nothing any more. -/
def ArrayStruct.cleared (struct : ArrayStruct) : ArrayStruct := { struct with release := none }

/-- `schema.release = nullptr`: the struct owns nothing any more. -/
def SchemaStruct.cleared (struct : SchemaStruct) : SchemaStruct := { struct with release := none }

/-- The state with a new PHP object, and the object as the reply. -/
def State.newObject (state : State) (object : Object) : State × Except Thrown Reply :=
  ({ state.setObject state.next (some object) with next := state.next + 1 }, .ok (.object state.next))

/-- `arrow->array.release = nullptr`: the chunk is consumed. -/
def ArrowChunkData.taken (data : ArrowChunkData) : ArrowChunkData :=
  { data with array := data.array.cleared }

/-- An object keeps the `arrow_schema_data` alive. -/
def State.keepsSchema (state : State) (data : Nat) : Bool :=
  (List.range state.next).any fun number =>
    (state.objects number).any fun object => object.schemaData = data

/-- A reference to an `arrow_schema_data` is gone, and with the last one the schema. -/
def State.dropSchema (state : State) (data : Nat) : State :=
  if state.keepsSchema data then state else state.logged [.destroy (.schema data)]

/-- What happens: to native structs, in PHP methods, and to PHP objects. -/
inductive Event
  /-- A producer fills an empty struct. -/
  | produceArray (address : Int) (array : ArrowArray)
  | produceSchema (address : Int) (schema : ArrowSchema)
  /-- Native code releases a struct. -/
  | releaseArray (address : Int)
  | releaseSchema (address : Int)
  /-- `ArrowSchema::importFromC`. -/
  | importSchema (address : Int)
  /-- `ArrowSchema::exportToC`. -/
  | exportSchema (number : Nat) (address : Int)
  /-- `ArrowChunk::importFromC`. -/
  | importChunk (number : Nat) (address : Int)
  /-- `ArrowChunk::exportToC`. -/
  | exportChunk (number : Nat) (address : Int)
  /-- `ArrowChunk::schema`. -/
  | schemaOf (number : Nat)
  /-- `Connection::dataChunkFromArrow`. -/
  | dataChunkFromArrow (number : Nat) (access : Access) (answers : Answers)
  /-- `Appender::appendArrow`, with what the appender or its connection refuse it with, and with how
  the rows are appended. -/
  | appendArrow (number : Nat) (refusal : Option Thrown) (answers : Answers)
    (appended : Option Thrown)
  /-- A method of a `DataChunk` that reads its rows. -/
  | read (number : Nat)
  /-- `DataChunk::arrowSchema`, or with an array `DataChunk::toArrow`. -/
  | exportData (number : Nat) (schema : ArrowSchema) (array : Option (ArrowArray × Nat))
  /-- The last reference to a PHP object goes. -/
  | free (number : Nat)

/-- `ArrowSchema::importFromC`: takes the schema at an address after validating it. -/
def importSchema (state : State) (address : Int) : Option (State × Except Thrown Reply) := do
  match addressPointer address with
  | .error thrown => some (state, .error thrown)
  | .ok () =>
    match ← validateSchema maxDepths (state.schemas address).view with
    | .error thrown => some (state, .error thrown)
    | .ok () => do
      let producer ← (state.schemas address).release
      let source := state.schemas address
      let moved := (state.setSchemaData producer source.view).setSchema address source.cleared
      some (moved.newObject (.schema producer))

/-- `ArrowSchema::exportToC`: puts a copy of a schema at an address that holds none. -/
def exportSchema (state : State) (data : Nat) (address : Int) :
    Option (State × Except Thrown Reply) := do
  match addressPointer address with
  | .error thrown => some (state, .error thrown)
  | .ok () =>
    if (state.schemas address).release ≠ none then
      some (state, .error
        (valueError "Arrow schema destination must be zero-initialized or released"))
    else
      match ← validateSchema maxDepths (state.schemaData data) with
      | .error thrown => some (state, .error thrown)
      | .ok () => do
        let copy ← copySchema (state.schemaData data)
        let target : SchemaStruct := ⟨copy, some state.next⟩
        some ((state.setSchema address target).create (.schema state.next), .ok .nothing)

/-- `ArrowChunk::importFromC`: takes the array at an address after validating it against the schema.
-/
def importChunk (state : State) (data : Nat) (address : Int) :
    Option (State × Except Thrown Reply) := do
  match ← importable (state.schemaData data) address (state.arrays address) with
  | .error thrown => some (state, .error thrown)
  | .ok () =>
    let source := state.arrays address
    some ((state.setArray address source.cleared).newObject
      (.chunk ⟨source, data, source.view.fields.length.toInt.toNat⟩))

/-- `ArrowChunk::exportToC`: moves an unconsumed array to an address that holds none. -/
def exportChunk (state : State) (number : Nat) (data : ArrowChunkData) (address : Int) :
    State × Except Thrown Reply :=
  if data.array.release = none then (state, .error consumed)
  else
    match addressPointer address with
    | .error thrown => (state, .error thrown)
    | .ok () =>
      if (state.arrays address).release ≠ none then
        (state, .error (valueError "Arrow array destination must be zero-initialized or released"))
      else
        ((state.setObject number (some (.chunk data.taken))).setArray address data.array,
          .ok .nothing)

/-- `Connection::dataChunkFromArrow`: makes a data chunk of an array, which it consumes. -/
def dataChunkFromArrow (state : State) (number : Nat) (data : ArrowChunkData) (access : Access)
    (answers : Answers) : Option (State × Except Thrown Reply) := do
  match duckdbConnectionGuard access, duckdbConnEnter access with
  | .error thrown, _ | .ok (), .error thrown => some (state, .error thrown)
  | .ok (), .ok () =>
    match ← duckdbImportArrowChunk answers (state.schemaData data.schema) data with
    | .refused thrown => some (state, .error thrown)
    | .failed thrown made native =>
      let moved := state.setObject number (some (.chunk data.taken))
      some (moved.logged (reads data.array ++ destroysData made native), .error thrown)
    | .imported made =>
      let moved := state.setObject number (some (.chunk data.taken))
      some ((moved.logged (reads data.array)).newObject (.data made))

/-- `Appender::appendArrow`: appends the rows of an array, which it consumes. -/
def appendArrow (state : State) (number : Nat) (data : ArrowChunkData) (refusal : Option Thrown)
    (answers : Answers) (appended : Option Thrown) : Option (State × Except Thrown Reply) := do
  match refusal with
  | some thrown => some (state, .error thrown)
  | none =>
    match ← duckdbImportArrowChunk answers (state.schemaData data.schema) data with
    | .refused thrown => some (state, .error thrown)
    | .failed thrown made native =>
      let moved := state.setObject number (some (.chunk data.taken))
      some (moved.logged (reads data.array ++ destroysData made native), .error thrown)
    | .imported made =>
      let moved := state.setObject number (some (.chunk data.taken))
      -- The rows are copied into the appender; the data chunk ends with the call.
      some (moved.logged (reads data.array ++ reads data.array ++ destroysData made true),
        match appended with
        | some thrown => .error thrown
        | none => .ok .nothing)

/-- `data_chunk_export`: an array of its own for PHP, as DuckDB copies the rows. -/
def exportData (state : State) (data : DataChunkData) (schema : ArrowSchema)
    (array : Option (ArrowArray × Nat)) : State × Except Thrown Reply :=
  let read := state.logged (reads data.arrowOwner.array)
  let made := (read.setSchemaData state.next schema).create (.schema state.next)
  match array with
  | none => made.newObject (.schema state.next)
  | some (array, rows) =>
    (made.create (.array made.next)).newObject
      (.chunk ⟨⟨array, some made.next⟩, state.next, rows⟩)

/-- What the destructor of an object's data does up to its schema. -/
def Object.frees : Object → List (Use Handle)
  | .schema _ => []
  | .chunk arrow => releases arrow.array
  | .data imported => destroysData imported true

/-- A PHP object is freed, which releases what it alone owns. -/
def free (state : State) (number : Nat) (object : Object) : State :=
  ((state.setObject number none).logged object.frees).dropSchema object.schemaData

/-- One event, and what the method replies. Events that cannot happen have no step. -/
def step (state : State) : Event → Option (State × Except Thrown Reply)
  | .produceArray address array =>
    if (state.arrays address).release ≠ none then none
    else some ((state.setArray address ⟨array, some state.next⟩).create (.array state.next),
      .ok .nothing)
  | .produceSchema address schema =>
    if (state.schemas address).release ≠ none then none
    else some ((state.setSchema address ⟨schema, some state.next⟩).create (.schema state.next),
      .ok .nothing)
  | .releaseArray address =>
    let struct := state.arrays address
    if struct.release = none then none
    else some ((state.setArray address struct.cleared).logged (releases struct), .ok .nothing)
  | .releaseSchema address =>
    let struct := state.schemas address
    match struct.release with
    | none => none
    | some producer =>
      some ((state.setSchema address struct.cleared).logged [.destroy (.schema producer)],
        .ok .nothing)
  | .importSchema address => importSchema state address
  | .exportSchema number address =>
    match state.objects number with
    | some (.schema data) => exportSchema state data address
    | _ => none
  | .importChunk number address =>
    match state.objects number with
    | some (.schema data) => importChunk state data address
    | _ => none
  | .exportChunk number address =>
    match state.objects number with
    | some (.chunk data) => some (exportChunk state number data address)
    | _ => none
  | .schemaOf number =>
    match state.objects number with
    | some (.chunk data) => some (state.newObject (.schema data.schema))
    | _ => none
  | .dataChunkFromArrow number access answers =>
    match state.objects number with
    | some (.chunk data) => dataChunkFromArrow state number data access answers
    | _ => none
  | .appendArrow number refusal answers appended =>
    match state.objects number with
    | some (.chunk data) => appendArrow state number data refusal answers appended
    | _ => none
  | .read number =>
    match state.objects number with
    | some (.data data) => some (state.logged (reads data.arrowOwner.array), .ok .nothing)
    | _ => none
  | .exportData number schema array =>
    match state.objects number with
    | some (.data data) => some (exportData state data schema array)
    | _ => none
  | .free number =>
    match state.objects number with
    | some object => some (free state number object, .ok .nothing)
    | none => none

/-- `ArrowChunk::isConsumed`: an array is consumed once it has no release callback. -/
def isConsumed (data : ArrowChunkData) : Bool := data.array.release.isNone

/-- The states that events lead to. -/
def chunks : Machine State Event := ⟨fun state event => (step state event).map Prod.fst⟩

end PhpDuckdb.ArrowChunks
