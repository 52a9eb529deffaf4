import PhpDuckdb.Connection.Guard

/-!
# The cursor of a result

`DuckDB\Result` reads DuckDB's chunks through one cursor that all of its fetching methods and its
iterator share. A materialized result has DuckDB's handle to itself; a streaming one is fetched on
its connection and keeps its failure for later fetches. A pumped stream is fetched by the connection's
helper while the calling thread serves PHP callbacks, which may call methods of the same result. The
methods are translated with their faults as inputs: a refused or failing fetch, the calls in callbacks,
a value that cannot be decoded, a failing conversion to Arrow.
-/

namespace PhpDuckdb.Result

open SqlText Value Connection

/-- `FetchMode`: which views of a row the returned array holds. -/
inductive FetchMode
  | assoc
  | num
  | both
  deriving DecidableEq, Repr

/-- What DuckDB still delivers of a result: its chunks, and the error that ends it, if any. -/
structure Source (Row : Type) where
  /-- The chunks. -/
  chunks : List (List Row)
  /-- The error after the last of them. -/
  ending : Option Thrown

/-- All the rows of a source, in the order of its chunks. -/
def Source.rows {Row : Type} (source : Source Row) : List Row := source.chunks.flatten

/-- `open_result` of a stream: whether it has a session, and the error that it repeats. -/
structure Record where
  /-- A pumped stream has a callback session, and fetches on a lease. -/
  session : Bool
  /-- The error of a failed stream. -/
  failed : Option Thrown

/-- A `DuckDB\ResultIterator`: whether it was rewound, its key and its row. -/
structure ResultIterator (Row : Type) where
  /-- `rewind()` ran. -/
  started : Bool
  /-- `key()`. -/
  key : Nat
  /-- `current()`. -/
  current : Option Row

/-- `result_data`: a result with the chunk that it reads and its place in it. -/
structure ResultData (Row : Type) where
  /-- DuckDB's side of the result. -/
  source : Source Row
  /-- The registered stream; there is none for a materialized result. -/
  record : Option Record
  /-- `column_count`. -/
  columnCount : Nat
  /-- The chunk being read. -/
  chunk : Option (List Row)
  /-- `chunk_size`. -/
  chunkSize : Nat
  /-- `chunk_pos`. -/
  chunkPos : Nat
  /-- `row_index`. -/
  rowIndex : Nat
  /-- `exhausted`. -/
  exhausted : Bool
  /-- The one iterator, once it was taken. -/
  iterator : Option (ResultIterator Row)

/-- A result that was just created. -/
def ResultData.fresh {Row : Type} (source : Source Row) (record : Option Record)
    (columnCount : Nat) : ResultData Row :=
  ⟨source, record, columnCount, none, 0, 0, 0, false, none⟩

/-- A call on a result or its iterator. -/
inductive Call
  | fetchRow (mode : FetchMode)
  | fetchAll (mode : FetchMode)
  | fetchColumn (column : Int64)
  | fetchArrowChunk
  | getIterator
  /-- `ResultIterator::rewind`. -/
  | rewind
  /-- `ResultIterator::next`. -/
  | next
  deriving DecidableEq, Repr

/-- The calls on a result that callbacks make while the lease of its own fetch serves them. -/
structure Served where
  /-- Those before the helper stored the chunk. -/
  before : List Call
  /-- Those after it did. -/
  after : List Call

/-- The faults that one call meets. -/
structure Faults where
  /-- The calling thread runs a PHP handler of the connection. -/
  busy : Bool
  /-- The lease of a pumped stream fails, by the number of chunks still to come. -/
  lease : Nat → Option Thrown
  /-- The calls in callbacks during the lease, by the same number. -/
  served : Nat → Served
  /-- A value of a row cannot be decoded, by the row's number. -/
  decode : Nat → Option Thrown
  /-- The Arrow schema cannot be built, or not without loss. -/
  schema : Option Thrown
  /-- The chunk cannot be converted to Arrow. -/
  arrow : Option Thrown

/-- No native call fails and no callback reads. -/
def Faults.none : Faults :=
  ⟨false, fun _ => .none, fun _ => ⟨[], []⟩, fun _ => .none, .none, .none⟩

variable {Row : Type}

/-- The rows that were not read yet. -/
def ResultData.pending (data : ResultData Row) : List Row :=
  (data.chunk.getD []).drop data.chunkPos ++ data.source.rows

/-- How a stream's next chunk is fetched: true when one is there, false at the end. Only rows of the
result can come of it. -/
structure StreamFetch (Row : Type) where
  /-- The fetch. -/
  fetch : Record → ResultData Row → ResultData Row × Except Thrown Bool
  /-- No row comes back. -/
  bounded : ∀ record data, data.chunk = none →
    (fetch record data).1.pending.length ≤ data.pending.length

/-! ## Chunks -/

/-- The part behind `duckdb_fetch_chunk` that streams and materialized results share: a nonempty chunk
is read from its start, an empty one is the end. -/
def ResultData.openChunk (data : ResultData Row) (chunk : List Row) :
    ResultData Row × Except Thrown Bool :=
  let data := { data with
    chunkSize := chunk.length
    chunkPos := 0 }
  if chunk.length = 0 then ({ data with chunk := none, exhausted := true }, .ok false)
  else ({ data with chunk := some chunk }, .ok true)

/-- The next chunk of the source is taken and opened. -/
def ResultData.takeChunk (data : ResultData Row) (chunk : List Row) (rest : List (List Row)) :
    ResultData Row × Except Thrown Bool :=
  { data with source := ⟨rest, data.source.ending⟩ }.openChunk chunk

section Methods

variable (stream : StreamFetch Row) (faults : Faults)

/-- `duckdb_result_fetch_chunk`: makes sure that the current chunk has a row to read, or that the
result is exhausted. -/
def duckdbResultFetchChunk (data : ResultData Row) : ResultData Row × Except Thrown Bool :=
  if data.chunk.isSome && data.chunkPos < data.chunkSize then (data, .ok true)
  else
    let data := { data with chunk := none }
    match data.record with
    | some record => stream.fetch record data
    | none =>
      match data.source.chunks, data.source.ending with
      | [], some thrown => (data, .error thrown)
      | [], none => ({ data with exhausted := true }, .ok false)
      | chunk :: rest, _ => data.takeChunk chunk rest

/-! ## Rows -/

/-- `duckdb_result_fetch_row_into`: reads and counts the next row, or none at the end. -/
def duckdbResultFetchRowInto (data : ResultData Row) :
    ResultData Row × Except Thrown (Option Row) :=
  if data.exhausted then (data, .ok none)
  else
    match duckdbResultFetchChunk stream data with
    | (data, .error thrown) => (data, .error thrown)
    | (data, .ok false) => (data, .ok none)
    | (data, .ok true) =>
      match (data.chunk.getD [])[data.chunkPos]? with
      -- A chunk with unread rows has one at its position.
      | none => (data, .ok none)
      | some row =>
        match faults.decode data.rowIndex with
        | some thrown => (data, .error thrown)
        | none =>
          ({ data with chunkPos := data.chunkPos + 1, rowIndex := data.rowIndex + 1 },
            .ok (some row))

variable {stream faults}

/-- Taking a chunk leaves no more rows than it and the others have. -/
theorem takeChunk_pending (data : ResultData Row) (chunk : List Row) (rest : List (List Row)) :
    (data.takeChunk chunk rest).1.pending = chunk ++ rest.flatten := by
  unfold ResultData.takeChunk ResultData.openChunk
  dsimp only
  split
  · rename_i empty
    rw [List.length_eq_zero_iff.mp empty]
    simp [ResultData.pending, Source.rows]
  · simp [ResultData.pending, Source.rows]

/-- Fetching a chunk once no row is left in the last one reads no row. -/
theorem fetchChunk_pending_le (data : ResultData Row) :
    (duckdbResultFetchChunk stream data).1.pending.length ≤ data.pending.length := by
  unfold duckdbResultFetchChunk
  split
  · exact Nat.le_refl _
  · have dropped : ({ data with chunk := none } : ResultData Row).pending.length ≤
        data.pending.length := by
      simp [ResultData.pending, Source.rows]
    dsimp only
    split
    · rename_i record streams
      exact (stream.bounded record { data with chunk := none } rfl).trans dropped
    · split
      · exact dropped
      · simp [ResultData.pending, Source.rows]
      · rename_i chunk rest ending here
        rw [takeChunk_pending]
        simp [ResultData.pending, Source.rows, here]

/-- A row that was read is not pending any more. -/
theorem fetchRowInto_decreases {data next : ResultData Row} {row : Row}
    (fetched : duckdbResultFetchRowInto stream faults data = (next, .ok (some row))) :
    next.pending.length < data.pending.length := by
  unfold duckdbResultFetchRowInto at fetched
  split at fetched
  · simp at fetched
  · have fewer := @fetchChunk_pending_le Row stream data
    split at fetched
    · simp at fetched
    · simp at fetched
    · rename_i buffered available
      rw [available] at fewer
      split at fetched
      · simp at fetched
      · rename_i at_
        split at fetched
        · simp at fetched
        · obtain ⟨rfl, _⟩ := Prod.mk.inj fetched
          obtain ⟨inside, _⟩ := List.getElem?_eq_some_iff.mp at_
          simp only [ResultData.pending, List.length_append, List.length_drop] at fewer ⊢
          omega

variable (stream faults)

/-- The loop of `fetchAll`: the rows that it read, and the exception that ended it, if any. -/
def fetchAllRows (data : ResultData Row) : ResultData Row × List Row × Option Thrown :=
  match _ : duckdbResultFetchRowInto stream faults data with
  | (next, .error thrown) => (next, [], some thrown)
  | (next, .ok none) => (next, [], none)
  | (next, .ok (some row)) =>
    let (last, rows, failure) := fetchAllRows next
    (last, row :: rows, failure)
termination_by data.pending.length
decreasing_by exact fetchRowInto_decreases ‹_›

/-! ## The methods -/

/-- How a call on a result ended, with the rows it read. -/
inductive Outcome (Row : Type)
  /-- It returned NULL or nothing: there was no row. -/
  | empty
  /-- It returned one row, in a mode. -/
  | row (mode : FetchMode) (row : Row)
  /-- It returned one column of a row. -/
  | column (column : Int64) (row : Row)
  /-- It returned rows, in a mode. -/
  | rows (mode : FetchMode) (rows : List Row)
  /-- It returned a chunk as Arrow data. -/
  | arrow (rows : List Row)
  /-- It returned the iterator. -/
  | iterator
  /-- It threw, and destroyed the array that it was building. -/
  | thrown (thrown : Thrown) (lost : List Row)

/-- The rows that a call read off the cursor. -/
def Outcome.read : Outcome Row → List Row
  | .row _ read => [read]
  | .column _ read => [read]
  | .rows _ read => read
  | .arrow read => read
  | .thrown _ lost => lost
  | _ => []

/-- `Result::fetchRow`: the next row, or null once the result is exhausted. -/
def fetchRow (mode : FetchMode) (data : ResultData Row) : ResultData Row × Outcome Row :=
  match duckdbResultFetchRowInto stream faults data with
  | (data, .error thrown) => (data, .thrown thrown [])
  | (data, .ok none) => (data, .empty)
  | (data, .ok (some row)) => (data, .row mode row)

/-- `Result::fetchAll`: the rows that are left; a failure drops the rows it read. -/
def fetchAll (mode : FetchMode) (data : ResultData Row) : ResultData Row × Outcome Row :=
  match fetchAllRows stream faults data with
  | (data, rows, some thrown) => (data, .thrown thrown rows)
  | (data, rows, none) => (data, .rows mode rows)

/-- `duckdb_result_check_column`: a column index is in the range of the columns. -/
def duckdbResultCheckColumn (data : ResultData Row) (index : Int64) : Except Thrown Unit :=
  if index < 0 || data.columnCount ≤ index.toInt.toNat then
    .error ⟨.valueError, lit "must be between 0 and " ++ decimal (data.columnCount - 1)⟩
  else .ok ()

/-- `Result::fetchColumn`: one column of the next row. -/
def fetchColumn (column : Int64) (data : ResultData Row) : ResultData Row × Outcome Row :=
  match duckdbResultCheckColumn data column with
  | .error thrown => (data, .thrown thrown [])
  | .ok () =>
    match duckdbResultFetchRowInto stream faults data with
    | (data, .error thrown) => (data, .thrown thrown [])
    | (data, .ok none) => (data, .empty)
    | (data, .ok (some row)) => (data, .column column row)

/-- The refusal of `fetchArrowChunk` in the middle of a chunk. -/
def partiallyReadChunk : Thrown :=
  ⟨.exception, lit "Cannot fetch an Arrow chunk after partially reading its rows; " ++
    lit "finish the current chunk first"⟩

/-- `Result::fetchArrowChunk`: the next whole chunk, refused while one is partially read. -/
def fetchArrowChunk (data : ResultData Row) : ResultData Row × Outcome Row :=
  if data.chunk.isSome && 0 < data.chunkPos && data.chunkPos < data.chunkSize then
    (data, .thrown partiallyReadChunk [])
  else if data.exhausted then (data, .empty)
  else
    match duckdbResultFetchChunk stream data with
    | (data, .error thrown) => (data, .thrown thrown [])
    | (data, .ok false) => (data, .empty)
    | (data, .ok true) =>
      match duckdbConnEnter ⟨false, false, faults.busy⟩, faults.schema, faults.arrow with
      | .error thrown, _, _ => (data, .thrown thrown [])
      | .ok (), some thrown, _ => (data, .thrown thrown [])
      | .ok (), none, some thrown => (data, .thrown thrown [])
      | .ok (), none, none =>
        ({ data with rowIndex := data.rowIndex + data.chunkSize, chunkPos := data.chunkSize },
          .arrow (data.chunk.getD []))

/-- `Result::getIterator`: the iterator of a result, which is made once. -/
def getIterator (data : ResultData Row) : ResultData Row × Outcome Row :=
  if data.iterator.isSome then
    (data, .thrown ⟨.exception, lit "DuckDB\\Result is forward-only: an iterator was already " ++
      lit "created for this result"⟩ [])
  else ({ data with iterator := some ⟨false, 0, none⟩ }, .iterator)

/-- Change the iterator of a result. -/
def ResultData.onIterator (data : ResultData Row)
    (change : ResultIterator Row → ResultIterator Row) : ResultData Row :=
  { data with iterator := data.iterator.map change }

/-- `ResultIterator::next`: reads the next row into the iterator and counts it. -/
def ResultIterator.next (data : ResultData Row) : ResultData Row × Outcome Row :=
  let data := data.onIterator fun iterator => { iterator with current := none }
  match duckdbResultFetchRowInto stream faults data with
  | (data, .error thrown) => (data, .thrown thrown [])
  | (data, .ok none) => (data, .empty)
  | (data, .ok (some row)) =>
    (data.onIterator fun iterator =>
      { iterator with key := iterator.key + 1, current := some row }, .row .assoc row)

/-- Iteration starts once, and before any row was read. -/
def ResultIterator.checkRewind (iterator : ResultIterator Row) (data : ResultData Row) :
    Except Thrown Unit :=
  if iterator.started || 0 < data.rowIndex || data.exhausted then
    .error ⟨.exception, lit "Cannot rewind a DuckDB\\ResultIterator (results are " ++
      lit "forward-only)"⟩
  else .ok ()

/-- `ResultIterator::rewind`: reads the first row of an iterator that has not started. -/
def ResultIterator.rewind (iterator : ResultIterator Row) (data : ResultData Row) :
    ResultData Row × Outcome Row :=
  match iterator.checkRewind data with
  | .error thrown => (data, .thrown thrown [])
  | .ok () =>
    let data := data.onIterator fun _ => ⟨true, 0, none⟩
    match duckdbResultFetchRowInto stream faults data with
    | (data, .error thrown) => (data, .thrown thrown [])
    | (data, .ok none) => (data, .empty)
    | (data, .ok (some row)) =>
      (data.onIterator fun iterator => { iterator with current := some row }, .row .assoc row)

/-- One call; the iterator's methods need the iterator. -/
def callOn (data : ResultData Row) : Call → Option (ResultData Row × Outcome Row)
  | .fetchRow mode => some (fetchRow stream faults mode data)
  | .fetchAll mode => some (fetchAll stream faults mode data)
  | .fetchColumn column => some (fetchColumn stream faults column data)
  | .fetchArrowChunk => some (fetchArrowChunk stream faults data)
  | .getIterator => some (getIterator data)
  | .rewind => data.iterator.map fun iterator => iterator.rewind stream faults data
  | .next => data.iterator.map fun _ => ResultIterator.next stream faults data

end Methods

/-! ## Calls in callbacks -/

/-- `duckdb_result_fetch_stream_chunk` in a PHP handler of the connection. -/
def refusedFetch : StreamFetch Row where
  fetch _ data := (data, (duckdbConnEnter ⟨false, false, true⟩).map fun _ => false)
  bounded _ _ _ := Nat.le_refl _

/-- A callback calls a method of the result. -/
def serveCall (data : ResultData Row) (request : Call) : ResultData Row :=
  match callOn refusedFetch { Faults.none with busy := true } data request with
  | some (data, _) => data
  | none => data

/-- Callbacks call methods of the result, one after the other. -/
def serve (data : ResultData Row) (requests : List Call) : ResultData Row :=
  requests.foldl serveCall data

/-- `duckdb_fetch_chunk`: the next chunk, or none at the end. -/
def ResultData.fetchNext (data : ResultData Row) : ResultData Row :=
  match data.source.chunks with
  | [] => { data with chunk := none }
  | chunk :: rest => { data with source := ⟨rest, data.source.ending⟩, chunk := some chunk }

/-- `duckdb_pump_fetch_chunk`, once its lease began: the helper stores the chunk in the result while
this thread serves callbacks. -/
def duckdbPumpFetchChunk (served : Served) (data : ResultData Row) : ResultData Row :=
  serve (serve { data with chunk := none } served.before).fetchNext served.after

/-- What `duckdb_result_fetch_stream_chunk` makes of the chunk that it finds stored, and of DuckDB's
error without one. -/
def ResultData.settle (record : Record) (failure : Option Thrown) (data : ResultData Row) :
    ResultData Row × Except Thrown Bool :=
  match data.chunk, failure with
  | none, some thrown =>
    ({ data with record := some { record with failed := some thrown } }, .error thrown)
  | none, none => ({ data with exhausted := true }, .ok false)
  | some chunk, _ => data.openChunk chunk

/-- `duckdb_result_fetch_stream_chunk`: true when a chunk is there, false at the end. DuckDB's error
comes with the fetch that is past the last chunk. -/
def duckdbResultFetchStreamChunk (faults : Faults) (record : Record) (data : ResultData Row) :
    ResultData Row × Except Thrown Bool :=
  match duckdbConnEnter ⟨false, false, faults.busy⟩ with
  | .error thrown => (data, .error thrown)
  | .ok () =>
    match record.failed with
    | some thrown => (data, .error thrown)
    | none =>
      match if record.session then faults.lease data.source.chunks.length else none with
      | some thrown => (data, .error thrown)
      | none =>
        let failure := if data.source.chunks = [] then data.source.ending else none
        let data := if record.session then
            duckdbPumpFetchChunk (faults.served data.source.chunks.length) data
          else data.fetchNext
        data.settle record failure

/-! ## The rows of a fetch -/

/-- The number of rows in the chunk and behind it, whether they were read or not. -/
def ResultData.held (data : ResultData Row) : Nat :=
  (data.chunk.getD []).length + data.source.rows.length

/-- The rows that were not read are among them. -/
theorem pending_le_held (data : ResultData Row) : data.pending.length ≤ data.held := by
  simp [ResultData.pending, ResultData.held]

section

variable {faults : Faults}

/-- The fetch of a chunk adds no rows to what is held while fetches are refused. -/
theorem fetchChunk_held (data : ResultData Row) :
    (duckdbResultFetchChunk refusedFetch data).1.held ≤ data.held := by
  unfold duckdbResultFetchChunk
  split
  · exact Nat.le_refl _
  · dsimp only
    split
    · simp [refusedFetch, ResultData.held]
    · split
      · simp [ResultData.held]
      · simp [ResultData.held]
      · rename_i chunk rest _ here
        unfold ResultData.takeChunk ResultData.openChunk
        dsimp only
        split <;> simp [ResultData.held, Source.rows, here]
        omega

/-- The fetch of a row adds no rows to what is held while fetches are refused. -/
theorem fetchRowInto_held (data : ResultData Row) :
    (duckdbResultFetchRowInto refusedFetch faults data).1.held ≤ data.held := by
  have chunk := fetchChunk_held data
  unfold duckdbResultFetchRowInto
  split
  · exact Nat.le_refl _
  · split
    · rename_i fetched
      rwa [fetched] at chunk
    · rename_i fetched
      rwa [fetched] at chunk
    · rename_i fetched
      rw [fetched] at chunk
      split
      · exact chunk
      · split <;> exact chunk

/-- Fetching all rows does not add to the rows that the result holds. -/
theorem fetchAllRows_held (data : ResultData Row) :
    (fetchAllRows refusedFetch faults data).1.held ≤ data.held := by
  induction data using fetchAllRows.induct refusedFetch faults with
  | case1 data next thrown fetched =>
    have step := @fetchRowInto_held Row faults data
    rw [fetchAllRows]
    split <;> rename_i same <;> rw [fetched] at same step <;> cases same
    exact step
  | case2 data next fetched =>
    have step := @fetchRowInto_held Row faults data
    rw [fetchAllRows]
    split <;> rename_i same <;> rw [fetched] at same step <;> cases same
    exact step
  | case3 data next row fetched last rows failure same ih =>
    have step := @fetchRowInto_held Row faults data
    rw [fetchAllRows]
    split <;> rename_i same <;> rw [fetched] at same step <;> cases same
    exact ih.trans step

/-- A call in a callback does not add to the rows that the result holds. -/
theorem serveCall_held (data : ResultData Row) (request : Call) :
    (serveCall data request).held ≤ data.held := by
  have row := fun (data : ResultData Row) =>
    @fetchRowInto_held Row { Faults.none with busy := true } data
  have all_ := fun (data : ResultData Row) =>
    @fetchAllRows_held Row { Faults.none with busy := true } data
  cases request with
  | fetchRow mode =>
    have step := row data
    unfold serveCall callOn fetchRow
    dsimp only
    split <;> rename_i fetched <;> rw [fetched] at step <;> exact step
  | fetchAll mode =>
    have step := all_ data
    unfold serveCall callOn fetchAll
    dsimp only
    split <;> rename_i fetched <;> rw [fetched] at step <;> exact step
  | fetchColumn column =>
    have step := row data
    unfold serveCall callOn fetchColumn
    dsimp only
    split
    · exact Nat.le_refl _
    · split <;> rename_i fetched <;> rw [fetched] at step <;> exact step
  | fetchArrowChunk =>
    have step := fetchChunk_held data
    unfold serveCall callOn fetchArrowChunk
    dsimp only
    split
    · exact Nat.le_refl _
    · split
      · exact Nat.le_refl _
      · split <;> rename_i fetched <;> rw [fetched] at step
        · exact step
        · exact step
        · split <;> exact step
  | getIterator =>
    unfold serveCall callOn getIterator
    dsimp only
    split <;> exact Nat.le_refl _
  | rewind =>
    unfold serveCall callOn
    cases data.iterator with
    | none => exact Nat.le_refl _
    | some iterator =>
      dsimp only [Option.map_some]
      unfold ResultIterator.rewind
      split
      · exact Nat.le_refl _
      · have step := row (data.onIterator fun _ => ⟨true, 0, none⟩)
        dsimp only
        split <;> rename_i fetched <;> rw [fetched] at step <;> exact step
  | next =>
    unfold serveCall callOn
    cases data.iterator with
    | none => exact Nat.le_refl _
    | some iterator =>
      dsimp only [Option.map_some]
      unfold ResultIterator.next
      have step := row (data.onIterator fun iterator => { iterator with current := none })
      dsimp only
      split <;> rename_i fetched <;> rw [fetched] at step <;> exact step

/-- All the calls in callbacks together do not add to the rows that the result holds. -/
theorem serve_held (requests : List Call) (data : ResultData Row) :
    (serve data requests).held ≤ data.held := by
  induction requests generalizing data with
  | nil => exact Nat.le_refl _
  | cons request rest ih => exact (ih (serveCall data request)).trans (serveCall_held data request)

/-- DuckDB's next chunk is of its source. -/
theorem fetchNext_held (data : ResultData Row) : data.fetchNext.held ≤ data.held := by
  unfold ResultData.fetchNext
  split
  · simp [ResultData.held]
  · rename_i chunk rest here
    simp [ResultData.held, Source.rows, here]

/-- The rows of an opened chunk and of those behind it are not read. -/
theorem openChunk_pending (data : ResultData Row) (chunk : List Row) (stored : data.chunk = some chunk) :
    (data.openChunk chunk).1.pending.length = data.held := by
  unfold ResultData.openChunk
  dsimp only
  split
  · rename_i empty
    simp [ResultData.pending, ResultData.held, stored, empty]
  · simp [ResultData.pending, ResultData.held, stored]

/-- No row comes back by the fetch of a stream. -/
theorem fetchStreamChunk_pending_le (record : Record) (data : ResultData Row)
    (unbuffered : data.chunk = none) :
    (duckdbResultFetchStreamChunk faults record data).1.pending.length ≤ data.pending.length := by
  have rows : data.held = data.pending.length := by
    simp [ResultData.held, ResultData.pending, unbuffered]
  unfold duckdbResultFetchStreamChunk
  split
  · exact Nat.le_refl _
  · split
    · exact Nat.le_refl _
    · split
      · exact Nat.le_refl _
      · dsimp only
        generalize ended : (if data.source.chunks = [] then data.source.ending else none) = failure
        generalize stepped : (if record.session = true then
          duckdbPumpFetchChunk (faults.served data.source.chunks.length) data
          else data.fetchNext) = next
        have fewer : next.held ≤ data.pending.length := by
          rw [← stepped, ← rows]
          split
          · refine (serve_held _ _).trans ((fetchNext_held _).trans ((serve_held _ _).trans ?_))
            simp [ResultData.held]
          · exact fetchNext_held data
        unfold ResultData.settle
        split
        · exact (pending_le_held next).trans fewer
        · exact (pending_le_held next).trans fewer
        · rename_i stored
          rw [openChunk_pending next _ stored]
          exact fewer

end

/-- The fetch of a stream outside of the connection's handlers. -/
def streamFetch (faults : Faults) : StreamFetch Row :=
  ⟨duckdbResultFetchStreamChunk faults, fetchStreamChunk_pending_le⟩

/-- One call of a method of the result or its iterator. -/
def call (faults : Faults) (data : ResultData Row) (request : Call) :
    Option (ResultData Row × Outcome Row) :=
  callOn (streamFetch faults) faults data request

end PhpDuckdb.Result
