import PhpDuckdb.Appender.Methods
import PhpDuckdb.Lib.Windows
import PhpDuckdb.Result.Cursor
import PhpDuckdb.Vector.Data

/-!
# Chunks in batches

`Appender::appendChunk`, `appendArrow` and `DataChunk::toRows` walk a chunk of any size through one
native batch and one index buffer, a window at a time. `batches_split` says that no row is lost,
repeated or moved by either loop.
-/

namespace PhpDuckdb.Vector

open SqlText Windows
open Result (FetchMode)

universe u v w

variable {Kind : Type u} {Cell : Type v} {Value : Type w}

/-- A column of a data chunk. -/
structure Column (Kind : Type u) (Cell : Type v) where
  /-- The entry of `names`. -/
  name : Bytes
  /-- The logical type of the vector. -/
  type : Kind
  /-- The vector. -/
  rows : Rows Cell

/-- `data_chunk_data`: columns of one length that selections can name. -/
structure Chunk (Kind : Type u) (Cell : Type v) where
  /-- The columns. -/
  columns : List (Column Kind Cell)
  /-- The number of rows. -/
  size : UInt64
  /-- Selection entries can name every row. -/
  small : size.toNat < 2 ^ 32

/-- A row of a chunk: the cell of every column. -/
def Chunk.row (chunk : Chunk Kind Cell) (row : Nat) : List Cell :=
  chunk.columns.map fun column => column.rows row

/-- The rows of a chunk in order. -/
def Chunk.rows (chunk : Chunk Kind Cell) : List (List Cell) :=
  (List.range' 0 chunk.size.toNat).map chunk.row

/-- The native chunk and the selection vector that a loop uses for every window. -/
structure Buffer (Cell : Type v) where
  /-- The vectors of the chunk. -/
  columns : List (Rows Cell)
  /-- `duckdb_data_chunk_set_size`. -/
  size : UInt64
  /-- The entries of the selection vector. -/
  indices : Selection

/-- What the loops use of DuckDB. New and reset memory holds anything. -/
structure NativeChunks (Cell : Type v) where
  /-- `duckdb_vector_copy_sel`. -/
  copier : Copier Cell
  /-- A vector of a new chunk. -/
  fresh : Rows Cell
  /-- The entries of a new selection vector. -/
  entries : Selection
  /-- `duckdb_data_chunk_reset` on a vector. -/
  reset : Rows Cell → Rows Cell

/-- `duckdb_create_data_chunk` with the types of a chunk, and `duckdb_create_selection_vector`. -/
def createBuffer (native : NativeChunks Cell) (chunk : Chunk Kind Cell) : Buffer Cell :=
  ⟨chunk.columns.map fun _ => native.fresh, 0, native.entries⟩

/-- The part of a loop body that copies a window into the batch. -/
def fillBatch (native : NativeChunks Cell) (chunk : Chunk Kind Cell) (vectorSize offset : UInt64)
    (buffer : Buffer Cell) : Buffer Cell :=
  let count := windowLength chunk.size vectorSize offset
  let reset := buffer.columns.map native.reset
  let indices := writeIndices (fun row => (offset + UInt64.ofNat row).toUInt32) 0 count.toNat
    buffer.indices
  ⟨List.zipWith (fun column target => native.copier.between column.rows target chunk.size.toNat
    vectorSize.toNat indices count.toNat 0 0) chunk.columns reset, count, indices⟩

/-- A row of the batch: the cell of every column. -/
def Buffer.row (buffer : Buffer Cell) (row : Nat) : List Cell :=
  buffer.columns.map fun rows => rows row

/-- The rows that a native call sees in the batch. -/
def Buffer.rows (buffer : Buffer Cell) : List (List Cell) :=
  (List.range' 0 buffer.size.toNat).map buffer.row

/-! ## Appending -/

/-- What a call submitted, and whether its last batch was accepted. -/
structure Appended (Cell : Type v) where
  /-- The chunks given to `duckdb_append_data_chunk`, in order. -/
  batches : List (List (List Cell))
  /-- Nothing failed. -/
  accepted : Bool

/-- The body of the appending loop; it stops with what was submitted when DuckDB rejects a
batch. -/
def appendWindow (native : NativeChunks Cell)
    (append : List (List (List Cell)) → List (List Cell) → Bool) (chunk : Chunk Kind Cell)
    (vectorSize offset : UInt64) (state : Buffer Cell × List (List (List Cell))) :
    Except (List (List (List Cell))) (Buffer Cell × List (List (List Cell))) :=
  let batch := fillBatch native chunk vectorSize offset state.1
  if append state.2 batch.rows then .ok (batch, state.2 ++ [batch.rows])
  else .error (state.2 ++ [batch.rows])

/-- `duckdb_appender_append_chunk` once it has its chunk. Whether DuckDB accepts a batch may depend
on everything submitted before. -/
def duckdbAppenderAppendChunk (native : NativeChunks Cell)
    (append : List (List (List Cell)) → List (List Cell) → Bool) (vectorSize : VectorSize)
    (chunk : Chunk Kind Cell) (fuel : Nat) : Option (Appended Cell) :=
  if chunk.size ≤ vectorSize.val then some ⟨[chunk.rows], append [] chunk.rows⟩
  else
    (windows chunk.size vectorSize.val (appendWindow native append chunk vectorSize.val) fuel 0
      (createBuffer native chunk, [])).map fun result =>
        match result with
        | .error batches => ⟨batches, false⟩
        | .ok (_, batches) => ⟨batches, true⟩

/-! ## Reading rows -/

/-- The fields of `decode_ctx` that name a cell in messages. -/
structure DecodeCtx where
  columnIndex : Nat
  row : UInt64

/-- An insertion into the array of a row. -/
inductive Insertion (Value : Type w)
  /-- `add_assoc_zval_ex`. -/
  | assoc (name : Bytes) (value : Value)
  /-- `add_next_index_zval`. -/
  | nextIndex (value : Value)

/-- How a decoded cell gets into the array of its row. -/
def cellInsertions (mode : FetchMode) (name : Bytes) (value : Value) : List (Insertion Value) :=
  match mode with
  | .assoc => [.assoc name value]
  | .num => [.nextIndex value]
  | .both => [.assoc name value, .nextIndex value]

/-- The loop over the columns of a row; nothing when a cell cannot be decoded. -/
def decodeRow (decode : DecodeCtx → Kind → Cell → Option Value) (mode : FetchMode) (row : UInt64) :
    Nat → List (Column Kind Cell) → List Cell → Option (List (Insertion Value))
  | index, column :: columns, cell :: cells => do
    let value ← decode ⟨index, row⟩ column.type cell
    let rest ← decodeRow decode mode row (index + 1) columns cells
    some (cellInsertions mode column.name value ++ rest)
  | _, _, _ => some []

/-- The loop over the rows of a window. -/
def decodeWindow (decode : DecodeCtx → Kind → Cell → Option Value) (mode : FetchMode)
    (columns : List (Column Kind Cell)) (buffer : Buffer Cell) (offset : UInt64) :
    Nat → Nat → List (List (Insertion Value)) → Option (List (List (Insertion Value)))
  | _, 0, rows => some rows
  | pos, left + 1, rows =>
    match decodeRow decode mode (offset + UInt64.ofNat pos) 0 columns (buffer.row pos) with
    | none => none
    | some row => decodeWindow decode mode columns buffer offset (pos + 1) left (rows ++ [row])

/-- The body of the loop that reads the windows of a chunk. -/
def rowsWindow (native : NativeChunks Cell) (decode : DecodeCtx → Kind → Cell → Option Value)
    (mode : FetchMode) (chunk : Chunk Kind Cell) (vectorSize offset : UInt64)
    (state : Buffer Cell × List (List (Insertion Value))) :
    Except Unit (Buffer Cell × List (List (Insertion Value))) :=
  let batch := fillBatch native chunk vectorSize offset state.1
  match decodeWindow decode mode chunk.columns batch offset 0 batch.size.toNat state.2 with
  | none => .error ()
  | some rows => .ok (batch, rows)

/-- `duckdb_data_chunk_rows`, with the arrays it returns or nothing when it throws. -/
def duckdbDataChunkRows (native : NativeChunks Cell)
    (decode : DecodeCtx → Kind → Cell → Option Value) (vectorSize : VectorSize) (mode : FetchMode)
    (chunk : Chunk Kind Cell) (fuel : Nat) : Option (Option (List (List (Insertion Value)))) :=
  (windows chunk.size vectorSize.val (rowsWindow native decode mode chunk vectorSize.val) fuel 0
    (createBuffer native chunk, [])).map fun result =>
      match result with
      | .error () => none
      | .ok (_, rows) => some rows

/-- The array of a row of the chunk. -/
def Chunk.rowArray (chunk : Chunk Kind Cell) (decode : DecodeCtx → Kind → Cell → Option Value)
    (mode : FetchMode) (row : Nat) : Option (List (Insertion Value)) :=
  decodeRow decode mode (UInt64.ofNat row) 0 chunk.columns (chunk.row row)

/-! ## The batch -/

/-- The batch has one vector a column. -/
theorem fillBatch_columns (native : NativeChunks Cell) (chunk : Chunk Kind Cell)
    (vectorSize offset : UInt64) {buffer : Buffer Cell}
    (shape : buffer.columns.length = chunk.columns.length) :
    (fillBatch native chunk vectorSize offset buffer).columns.length = chunk.columns.length := by
  rw [fillBatch, List.length_zipWith, List.length_map, shape, Nat.min_self]

/-- The entry of a window position is the row it stands for. -/
theorem window_entry {chunk : Chunk Kind Cell} {vectorSize offset : UInt64} (indices : Selection)
    (inside : offset < chunk.size) {position : Nat}
    (within : position < (windowLength chunk.size vectorSize offset).toNat) :
    (writeIndices (fun row => (offset + UInt64.ofNat row).toUInt32) 0
      (windowLength chunk.size vectorSize offset).toNat indices position).toNat =
        offset.toNat + position := by
  have small := chunk.small
  have before : offset.toNat < chunk.size.toNat := UInt64.lt_iff_toNat_lt.mp inside
  have ends : position < chunk.size.toNat - offset.toNat := by
    rw [windowLength_toNat inside] at within
    omega
  rw [writeIndices_apply, if_pos (by omega), UInt64.toNat_toUInt32, UInt64.toNat_add,
    UInt64.toNat_ofNat_of_lt' (by rw [UInt64.size]; omega)]
  omega

/-- The batch holds the rows of its window. -/
theorem fillBatch_row (native : NativeChunks Cell) (chunk : Chunk Kind Cell)
    (vectorSize : UInt64) {offset : UInt64} {buffer : Buffer Cell}
    (shape : buffer.columns.length = chunk.columns.length) (inside : offset < chunk.size)
    {position : Nat} (within : position < (windowLength chunk.size vectorSize offset).toNat) :
    (fillBatch native chunk vectorSize offset buffer).row position =
      chunk.row (offset.toNat + position) := by
  have entry := window_entry buffer.indices inside within
  have before : offset.toNat < chunk.size.toNat := UInt64.lt_iff_toNat_lt.mp inside
  have ends : (windowLength chunk.size vectorSize offset).toNat =
      min vectorSize.toNat (chunk.size.toNat - offset.toNat) := windowLength_toNat inside
  apply List.ext_getElem
  · rw [Buffer.row, List.length_map, fillBatch_columns native chunk vectorSize offset shape,
      Chunk.row, List.length_map]
  · intro index first second
    simp only [Buffer.row, Chunk.row, fillBatch, List.getElem_map, List.getElem_zipWith]
    have reads : ∀ other, 0 ≤ other → other < (windowLength chunk.size vectorSize offset).toNat →
        (writeIndices (fun row => (offset + UInt64.ofNat row).toUInt32) 0
          (windowLength chunk.size vectorSize offset).toNat buffer.indices other).toNat <
            chunk.size.toNat := by
      intro other _ within
      rw [window_entry buffer.indices inside within]
      omega
    rw [native.copier.between_eq _ _ reads (by omega), copySel, if_pos (by omega), Nat.zero_add,
      Nat.sub_zero, entry]

/-- The rows of the batch are the rows of its window, in order. -/
theorem fillBatch_rows (native : NativeChunks Cell) (chunk : Chunk Kind Cell)
    (vectorSize : UInt64) {offset : UInt64} {buffer : Buffer Cell}
    (shape : buffer.columns.length = chunk.columns.length) (inside : offset < chunk.size) :
    (fillBatch native chunk vectorSize offset buffer).rows =
      (List.range' offset.toNat (windowLength chunk.size vectorSize offset).toNat).map chunk.row := by
  have size : (fillBatch native chunk vectorSize offset buffer).size =
      windowLength chunk.size vectorSize offset := rfl
  rw [Buffer.rows, size]
  apply List.ext_getElem (by simp only [List.length_map, List.length_range'])
  intro position first second
  have within : position < (windowLength chunk.size vectorSize offset).toNat := by
    simpa only [List.length_map, List.length_range'] using first
  simp only [List.getElem_map, List.getElem_range', Nat.one_mul, Nat.zero_add]
  exact fillBatch_row native chunk vectorSize shape inside within

/-! ## Both loops -/

/-- The rows before the end of a window are those before it and its own. -/
theorem range_window {α : Type v} (f : Nat → α) (offset count : Nat) :
    (List.range' 0 offset).map f ++ (List.range' offset count).map f =
      (List.range' 0 (offset + count)).map f := by
  have joined := List.range'_append_1 (s := 0) (m := offset) (n := count)
  rw [Nat.zero_add] at joined
  rw [← List.map_append, joined]

/-- What the batches submitted for the rows before an offset are. -/
structure Submitted (append : List (List (List Cell)) → List (List Cell) → Bool)
    (vectorSize : UInt64) (chunk : Chunk Kind Cell) (offset : Nat)
    (batches : List (List (List Cell))) : Prop where
  /-- None has more rows than a vector. -/
  bounded : ∀ batch ∈ batches, batch.length ≤ vectorSize.toNat
  /-- Together they are the rows before the offset, in order. -/
  inOrder : batches.flatten = (List.range' 0 offset).map chunk.row
  /-- Each was accepted after those before it. -/
  accepted : ∀ earlier batch later, batches = earlier ++ batch :: later →
    append earlier batch = true

/-- What the batches of a call are whose last one DuckDB rejects. -/
structure Rejected (append : List (List (List Cell)) → List (List Cell) → Bool)
    (vectorSize : UInt64) (chunk : Chunk Kind Cell) (batches : List (List (List Cell))) : Prop where
  /-- None has more rows than a vector. -/
  bounded : ∀ batch ∈ batches, batch.length ≤ vectorSize.toNat
  /-- Together they are the first rows of the chunk, in order. -/
  inOrder : ∃ rows, batches.flatten ++ rows = chunk.rows
  /-- The last one is rejected and those before it are not. -/
  last : ∃ earlier last, batches = earlier ++ [last] ∧ append earlier last = false ∧
    ∀ early batch later, earlier = early ++ batch :: later → append early batch = true

/-- With the rows of the next window, the batches stay bounded and are the rows before its end. -/
theorem Submitted.window {append : List (List (List Cell)) → List (List Cell) → Bool}
    {vectorSize offset : UInt64} {chunk : Chunk Kind Cell} {batches : List (List (List Cell))}
    (submitted : Submitted append vectorSize chunk offset.toNat batches)
    (inside : offset < chunk.size) {batch : List (List Cell)}
    (rows : batch = (List.range' offset.toNat (windowLength chunk.size vectorSize offset).toNat).map
      chunk.row) :
    (∀ other ∈ batches ++ [batch], other.length ≤ vectorSize.toNat) ∧
      (batches ++ [batch]).flatten =
        (List.range' 0 (offset.toNat + (windowLength chunk.size vectorSize offset).toNat)).map
          chunk.row := by
  constructor
  · intro other member
    cases List.mem_append.mp member with
    | inl before => exact submitted.bounded other before
    | inr last =>
      rw [List.mem_singleton.mp last, rows, List.length_map, List.length_range',
        windowLength_toNat inside]
      exact Nat.min_le_left _ _
  · rw [List.flatten_append, submitted.inOrder, List.flatten_singleton, rows, range_window]

/-- Adding an accepted batch at the end. -/
theorem accepted_concat {append : List (List (List Cell)) → List (List Cell) → Bool}
    {batches : List (List (List Cell))} {last : List (List Cell)}
    (before : ∀ earlier batch later, batches = earlier ++ batch :: later →
      append earlier batch = true)
    {earlier : List (List (List Cell))} {batch : List (List Cell)} {later : List (List (List Cell))}
    (split : batches ++ [last] = earlier ++ batch :: later) :
    (later = [] ∧ earlier = batches ∧ batch = last) ∨
      (later ≠ [] ∧ append earlier batch = true) := by
  cases List.eq_nil_or_concat later with
  | inl none =>
    subst none
    have parts := List.append_inj' split rfl
    exact .inl ⟨rfl, parts.1.symm, (List.cons.inj parts.2).1.symm⟩
  | inr some_ =>
    obtain ⟨middle, final, rfl⟩ := some_
    have shifted : batches ++ [last] = (earlier ++ batch :: middle) ++ [final] := by
      rw [split, List.concat_eq_append, List.append_assoc, List.cons_append]
    have parts := List.append_inj' shifted rfl
    exact .inr ⟨by simp, before earlier batch middle parts.1⟩

/-- The appending loop carries what it has submitted from one window to the next, or stops at the
first batch that DuckDB rejects. -/
theorem appendWindow_kept (native : NativeChunks Cell)
    (append : List (List (List Cell)) → List (List Cell) → Bool) (chunk : Chunk Kind Cell)
    (vectorSize : UInt64) {offset : UInt64} {state : Buffer Cell × List (List (List Cell))}
    (inside : offset < chunk.size) (shape : state.1.columns.length = chunk.columns.length)
    (submitted : Submitted append vectorSize chunk offset.toNat state.2) :
    Ends (Rejected append vectorSize chunk)
      (fun next => next.1.columns.length = chunk.columns.length ∧
        Submitted append vectorSize chunk
          (offset.toNat + (windowLength chunk.size vectorSize offset).toNat) next.2)
      (appendWindow native append chunk vectorSize offset state) := by
  have rows := fillBatch_rows native chunk vectorSize shape inside
  have columns := fillBatch_columns native chunk vectorSize offset shape
  obtain ⟨bounded, inOrder⟩ := submitted.window inside rows
  rw [appendWindow]
  by_cases accept : append state.2 (fillBatch native chunk vectorSize offset state.1).rows
  · rw [if_pos accept]
    refine ⟨columns, bounded, inOrder, fun earlier batch later split => ?_⟩
    cases accepted_concat submitted.accepted split with
    | inl last =>
      obtain ⟨-, rfl, rfl⟩ := last
      exact accept
    | inr before => exact before.2
  · rw [if_neg accept]
    have before : offset.toNat < chunk.size.toNat := UInt64.lt_iff_toNat_lt.mp inside
    have ends : (windowLength chunk.size vectorSize offset).toNat =
        min vectorSize.toNat (chunk.size.toNat - offset.toNat) := windowLength_toNat inside
    refine ⟨bounded,
      ⟨(List.range' (offset.toNat + (windowLength chunk.size vectorSize offset).toNat)
        (chunk.size.toNat - (offset.toNat + (windowLength chunk.size vectorSize offset).toNat))).map
          chunk.row, ?_⟩, _, _, rfl, Bool.not_eq_true _ ▸ accept, submitted.accepted⟩
    rw [inOrder, range_window, Chunk.rows]
    congr 2
    omega

/-- What appending a chunk promises: bounded batches that hold its rows in order. -/
structure AppendsInOrder (append : List (List (List Cell)) → List (List Cell) → Bool)
    (vectorSize : UInt64) (chunk : Chunk Kind Cell) (result : Appended Cell) : Prop where
  /-- No batch has more rows than a vector. -/
  bounded : ∀ batch ∈ result.batches, batch.length ≤ vectorSize.toNat
  /-- The batches are the first rows of the chunk, in order. -/
  inOrder : ∃ rows, result.batches.flatten ++ rows = chunk.rows
  /-- When nothing fails they are all of them. -/
  whole : result.accepted = true → result.batches.flatten = chunk.rows
  /-- A batch fails exactly when it is the last one of a call that fails. -/
  stops : ∀ earlier batch later, result.batches = earlier ++ batch :: later →
    (append earlier batch = false ↔ later = [] ∧ result.accepted = false)
  /-- Something was submitted. -/
  some_ : result.batches ≠ []

/-- Appending a chunk keeps what it promises of its batches. -/
theorem duckdbAppenderAppendChunk_inOrder (native : NativeChunks Cell)
    (append : List (List (List Cell)) → List (List Cell) → Bool) (vectorSize : VectorSize)
    (chunk : Chunk Kind Cell) {fuel : Nat} (enough : chunk.size.toNat < fuel) :
    ∃ result, duckdbAppenderAppendChunk native append vectorSize chunk fuel = some result ∧
      AppendsInOrder append vectorSize.val chunk result := by
  rw [duckdbAppenderAppendChunk]
  split
  · rename_i single
    have few := UInt64.le_iff_toNat_le.mp single
    refine ⟨_, rfl, ?_, ⟨[], by simp⟩, fun _ => by simp, ?_, List.cons_ne_nil _ _⟩
    · intro batch member
      rw [List.mem_singleton.mp member, Chunk.rows, List.length_map, List.length_range']
      exact few
    · intro earlier batch later split
      cases earlier with
      | nil =>
        obtain ⟨rfl, rfl⟩ := List.cons.inj split
        simp
      | cons first rest => simp at split
  · rename_i several
    have small := chunk.small
    obtain ⟨result, ran, kept⟩ := windows_rule (by omega) vectorSize.property
      (appendWindow native append chunk vectorSize.val)
      (fun offset state => state.1.columns.length = chunk.columns.length ∧
        Submitted append vectorSize.val chunk offset state.2)
      (Rejected append vectorSize.val chunk)
      (fun offset state inside holds =>
        appendWindow_kept native append chunk vectorSize.val inside holds.1 holds.2)
      (createBuffer native chunk, []) ⟨List.length_map _, by simp, rfl, by simp⟩ enough
    rw [ran]
    cases result with
    | error batches =>
      obtain ⟨earlier, last, rfl, rejected, before⟩ := kept.last
      refine ⟨_, rfl, kept.bounded, kept.inOrder, fun no => absurd no Bool.false_ne_true, ?_,
        by simp⟩
      intro early batch later split
      cases accepted_concat before split with
      | inl same =>
        obtain ⟨rfl, rfl, rfl⟩ := same
        simp [rejected]
      | inr accepted => simp [accepted.1, accepted.2]
    | ok last =>
      have whole : last.2.flatten = chunk.rows := kept.2.inOrder
      refine ⟨_, rfl, kept.2.bounded, ⟨[], by rw [whole, List.append_nil]⟩, fun _ => whole, ?_, ?_⟩
      · intro early batch later split
        simp [kept.2.accepted early batch later split]
      · intro none
        have positive : vectorSize.val.toNat < chunk.size.toNat :=
          UInt64.lt_iff_toNat_lt.mp (UInt64.not_le.mp several)
        have empty : chunk.rows = [] := by rw [← whole, show last.2 = [] from none, List.flatten_nil]
        have length := congrArg List.length empty
        rw [Chunk.rows, List.length_map, List.length_range', List.length_nil] at length
        omega

/-- The rows of a window are decoded as the rows of the chunk that they are copies of. -/
theorem decodeWindow_eq (decode : DecodeCtx → Kind → Cell → Option Value) (mode : FetchMode)
    (chunk : Chunk Kind Cell) (buffer : Buffer Cell) (offset : UInt64) {pos left : Nat}
    (copies : ∀ position, pos ≤ position → position < pos + left →
      buffer.row position = chunk.row (offset.toNat + position))
    (rows : List (List (Insertion Value))) :
    decodeWindow decode mode chunk.columns buffer offset pos left rows =
      ((List.range' (offset.toNat + pos) left).mapM (chunk.rowArray decode mode)).map
        fun further => rows ++ further := by
  induction left generalizing pos rows with
  | zero => simp [decodeWindow]
  | succ left ih =>
    have same : decodeRow decode mode (offset + UInt64.ofNat pos) 0 chunk.columns (buffer.row pos) =
        chunk.rowArray decode mode (offset.toNat + pos) := by
      rw [copies pos (Nat.le_refl _) (by omega), Chunk.rowArray, UInt64.ofNat_add,
        UInt64.ofNat_toNat]
    rw [decodeWindow, same, List.range'_succ, List.mapM_cons]
    cases chunk.rowArray decode mode (offset.toNat + pos) with
    | none => rfl
    | some row =>
      dsimp only
      rw [ih fun position first last => copies position (by omega) (by omega), Nat.add_assoc]
      cases (List.range' (offset.toNat + (pos + 1)) left).mapM (chunk.rowArray decode mode) with
      | none => rfl
      | some further => simp

/-- The reading loop carries the arrays of the rows before its offset, or stops when some row of
the chunk has none. -/
theorem rowsWindow_kept (native : NativeChunks Cell)
    (decode : DecodeCtx → Kind → Cell → Option Value) (mode : FetchMode) (chunk : Chunk Kind Cell)
    (vectorSize : UInt64) {offset : UInt64} {state : Buffer Cell × List (List (Insertion Value))}
    (inside : offset < chunk.size) (shape : state.1.columns.length = chunk.columns.length)
    (read : (List.range' 0 offset.toNat).mapM (chunk.rowArray decode mode) = some state.2) :
    Ends (fun _ => (List.range' 0 chunk.size.toNat).mapM (chunk.rowArray decode mode) = none)
      (fun next => next.1.columns.length = chunk.columns.length ∧
        (List.range' 0 (offset.toNat + (windowLength chunk.size vectorSize offset).toNat)).mapM
          (chunk.rowArray decode mode) = some next.2)
      (rowsWindow native decode mode chunk vectorSize offset state) := by
  have before : offset.toNat < chunk.size.toNat := UInt64.lt_iff_toNat_lt.mp inside
  have ends : (windowLength chunk.size vectorSize offset).toNat =
      min vectorSize.toNat (chunk.size.toNat - offset.toNat) := windowLength_toNat inside
  have size : (fillBatch native chunk vectorSize offset state.1).size =
      windowLength chunk.size vectorSize offset := rfl
  have columns := fillBatch_columns native chunk vectorSize offset shape
  have window := decodeWindow_eq decode mode chunk
    (fillBatch native chunk vectorSize offset state.1) offset
    (fun position _ within => fillBatch_row native chunk vectorSize shape inside
      (Nat.zero_add (windowLength chunk.size vectorSize offset).toNat ▸ within)) state.2
  have joined := List.range'_append_1 (s := 0) (m := offset.toNat)
    (n := (windowLength chunk.size vectorSize offset).toNat)
  rw [rowsWindow, size, window, Nat.add_zero]
  rw [Nat.zero_add] at joined
  cases further : (List.range' offset.toNat (windowLength chunk.size vectorSize offset).toNat).mapM
      (chunk.rowArray decode mode) with
  | none =>
    have rest := List.range'_append_1 (s := 0)
      (m := offset.toNat + (windowLength chunk.size vectorSize offset).toNat)
      (n := chunk.size.toNat - (offset.toNat + (windowLength chunk.size vectorSize offset).toNat))
    rw [show offset.toNat + (windowLength chunk.size vectorSize offset).toNat +
      (chunk.size.toNat - (offset.toNat + (windowLength chunk.size vectorSize offset).toNat)) =
        chunk.size.toNat by omega] at rest
    show (List.range' 0 chunk.size.toNat).mapM (chunk.rowArray decode mode) = none
    rw [← rest, ← joined, List.mapM_append, List.mapM_append, read, further]
    rfl
  | some rows =>
    refine ⟨columns, ?_⟩
    rw [← joined, List.mapM_append, read, further]
    rfl

/-- Reading gives the array of every row in order, or nothing when some row has none. -/
theorem duckdbDataChunkRows_eq (native : NativeChunks Cell)
    (decode : DecodeCtx → Kind → Cell → Option Value) (vectorSize : VectorSize) (mode : FetchMode)
    (chunk : Chunk Kind Cell) {fuel : Nat} (enough : chunk.size.toNat < fuel) :
    duckdbDataChunkRows native decode vectorSize mode chunk fuel =
      some ((List.range' 0 chunk.size.toNat).mapM (chunk.rowArray decode mode)) := by
  have small := chunk.small
  obtain ⟨result, ran, kept⟩ := windows_rule (by omega) vectorSize.property
    (rowsWindow native decode mode chunk vectorSize.val)
    (fun offset state => state.1.columns.length = chunk.columns.length ∧
      (List.range' 0 offset).mapM (chunk.rowArray decode mode) = some state.2)
    (fun _ => (List.range' 0 chunk.size.toNat).mapM (chunk.rowArray decode mode) = none)
    (fun offset state inside holds =>
      rowsWindow_kept native decode mode chunk vectorSize.val inside holds.1 holds.2)
    (createBuffer native chunk, []) ⟨List.length_map _, rfl⟩ enough
  rw [duckdbDataChunkRows, ran]
  cases result with
  | error stopped => exact congrArg some kept.symm
  | ok last => exact congrArg some kept.2.symm

/-- Chunks of any size are submitted and read window by window without losing, repeating or moving
a row. -/
theorem batches_split (native : NativeChunks Cell) (vectorSize : VectorSize)
    (chunk : Chunk Kind Cell) {fuel : Nat} (enough : chunk.size.toNat < fuel) :
    (∀ append : List (List (List Cell)) → List (List Cell) → Bool,
      ∃ result, duckdbAppenderAppendChunk native append vectorSize chunk fuel = some result ∧
        AppendsInOrder append vectorSize.val chunk result) ∧
      ∀ (decode : DecodeCtx → Kind → Cell → Option Value) (mode : FetchMode),
        duckdbDataChunkRows native decode vectorSize mode chunk fuel =
          some ((List.range' 0 chunk.size.toNat).mapM (chunk.rowArray decode mode)) :=
  ⟨fun append => duckdbAppenderAppendChunk_inOrder native append vectorSize chunk enough,
    fun decode mode => duckdbDataChunkRows_eq native decode vectorSize mode chunk enough⟩

/-- A chunk of five rows in one column. -/
def fiveRows : Chunk Unit Nat := ⟨[⟨lit "n", (), fun row => 10 * row⟩], 5, by decide⟩

/-- A DuckDB whose new memory is zero and whose resets keep what was there. -/
def zeroedChunks : NativeChunks Nat := ⟨.plain, fun _ => 0, fun _ => 0, id⟩

/-- A vector size of two submits the five rows in order, at most two at a time. -/
theorem batches_split_fiveRows : ∃ result, duckdbAppenderAppendChunk zeroedChunks
    (fun _ _ => true) ⟨2, by decide⟩ fiveRows 6 = some result ∧
      AppendsInOrder (fun _ _ => true) 2 fiveRows result :=
  (@batches_split Unit Nat Nat zeroedChunks ⟨2, by decide⟩ fiveRows 6 (by decide)).1
    fun _ _ => true

/-! ## The calls of an appender -/

/-- The first batch from a row on is the window there. -/
theorem batches_window (vectorSize : VectorSize) (chunk : Chunk Kind PhpDuckdb.Value.DuckValue)
    {offset : Nat} (inside : offset < chunk.size.toNat) :
    Appender.batches vectorSize (chunk.rows.drop offset) =
      (List.range' offset (min vectorSize.val.toNat (chunk.size.toNat - offset))).map chunk.row ::
        Appender.batches vectorSize
          (chunk.rows.drop (offset + min vectorSize.val.toNat (chunk.size.toNat - offset))) := by
  have length : chunk.rows.length = chunk.size.toNat := by
    rw [Chunk.rows, List.length_map, List.length_range']
  have some_ : chunk.rows.drop offset ≠ [] := by
    rw [ne_eq, List.drop_eq_nil_iff]
    omega
  have taken : (chunk.rows.drop offset).take vectorSize.val.toNat =
      (List.range' offset (min vectorSize.val.toNat (chunk.size.toNat - offset))).map chunk.row := by
    rw [Chunk.rows, ← List.map_drop, ← List.map_take, List.drop_range', Nat.mul_one, Nat.zero_add]
    by_cases full : vectorSize.val.toNat ≤ chunk.size.toNat - offset
    · rw [List.take_range'_of_length_ge full, Nat.min_eq_left full]
    · rw [List.take_range'_of_length_le (by omega), Nat.min_eq_right (by omega)]
  have dropped : (chunk.rows.drop offset).drop vectorSize.val.toNat =
      chunk.rows.drop (offset + min vectorSize.val.toNat (chunk.size.toNat - offset)) := by
    rw [List.drop_drop]
    by_cases full : vectorSize.val.toNat ≤ chunk.size.toNat - offset
    · rw [Nat.min_eq_left full]
    · rw [List.drop_of_length_le (by omega), List.drop_of_length_le (by omega)]
  rw [Appender.batches.eq_def, if_neg some_, taken, dropped]

/-- When DuckDB accepts everything, the batches are the native calls of `Appender`'s model. -/
theorem duckdbAppenderAppendChunk_calls (native : NativeChunks PhpDuckdb.Value.DuckValue)
    (vectorSize : VectorSize) (chunk : Chunk Kind PhpDuckdb.Value.DuckValue) {fuel : Nat}
    (enough : chunk.size.toNat < fuel) :
    ∃ result, duckdbAppenderAppendChunk native (fun _ _ => true) vectorSize chunk fuel =
        some result ∧
      result.batches.map .appendDataChunk = Appender.chunkCalls vectorSize chunk.rows := by
  have small := chunk.small
  have length : chunk.rows.length = chunk.size.toNat := by
    rw [Chunk.rows, List.length_map, List.length_range']
  have fits := UInt64.le_iff_toNat_le (a := chunk.size) (b := vectorSize.val)
  rw [duckdbAppenderAppendChunk, Appender.chunkCalls, length]
  by_cases single : chunk.size ≤ vectorSize.val
  · rw [if_pos single, if_pos (fits.mp single)]
    exact ⟨_, rfl, rfl⟩
  · rw [if_neg single, if_neg fun few => single (fits.mpr few)]
    obtain ⟨result, ran, kept⟩ := windows_rule (by omega) vectorSize.property
      (appendWindow native (fun _ _ => true) chunk vectorSize.val)
      (fun offset state => state.1.columns.length = chunk.columns.length ∧
        state.2 ++ Appender.batches vectorSize (chunk.rows.drop offset) =
          Appender.batches vectorSize chunk.rows)
      (fun _ => False)
      (fun offset state inside holds => by
        have before : offset.toNat < chunk.size.toNat := UInt64.lt_iff_toNat_lt.mp inside
        have ends : (windowLength chunk.size vectorSize.val offset).toNat =
            min vectorSize.val.toNat (chunk.size.toNat - offset.toNat) := windowLength_toNat inside
        refine ⟨fillBatch_columns native chunk vectorSize.val offset holds.1, ?_⟩
        rw [← holds.2, batches_window vectorSize chunk before, List.append_assoc,
          List.singleton_append, fillBatch_rows native chunk vectorSize.val holds.1 inside, ends])
      (createBuffer native chunk, []) ⟨List.length_map _, rfl⟩ enough
    rw [ran]
    cases result with
    | error stopped => exact kept.elim
    | ok last =>
      have none : Appender.batches vectorSize (chunk.rows.drop chunk.size.toNat) = [] := by
        rw [List.drop_of_length_le (Nat.le_of_eq length), Appender.batches.eq_def, if_pos rfl]
      refine ⟨_, rfl, ?_⟩
      rw [← kept.2, none, List.append_nil]

end PhpDuckdb.Vector
