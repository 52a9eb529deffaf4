import PhpDuckdb.Lib.Machine
import PhpDuckdb.Result.Cursor

/-!
# Rows are read in order, once

Over every run of calls on a result, the rows that the calls read off its cursor are the result's
rows from the first on, in order and without a gap, and `row_index` counts them. A call that fails
reads no row, `fetchAll` aside, whose rows up to the failure are lost with its array. All this holds
as long as no callback fetches from the result whose own fetch it is served by: such a call drops the
chunk that the helper stored, and its rows are never read.
-/

namespace PhpDuckdb.Result

open SqlText Value Connection

variable {Row : Type}

/-! ## Where the cursor is -/

/-- The cursor of a result of this source is where its `row_index` says. -/
structure Placed (source : Source Row) (data : ResultData Row) : Prop where
  /-- DuckDB's chunks are taken from the front. -/
  suffix : data.source.chunks <:+ source.chunks
  /-- `chunk_size` is the size of the chunk. -/
  size : ∀ chunk, data.chunk = some chunk → data.chunkSize = chunk.length
  /-- `row_index` is a position in the result. -/
  position : data.rowIndex ≤ source.rows.length
  /-- The rows from there on were not read yet. -/
  pending : data.pending = source.rows.drop data.rowIndex
  /-- An exhausted result has no chunk. -/
  unbuffered : data.exhausted = true → data.chunk = none
  /-- It has no row left, unless DuckDB delivered an empty chunk before its end. -/
  complete : data.exhausted = true → [] ∉ source.chunks → data.source.chunks = []
  /-- A failed stream has no chunk either, and is not exhausted. -/
  failed : ∀ record thrown, data.record = some record → record.failed = some thrown →
    data.chunk = none ∧ data.exhausted = false

/-- A new result is at its first row. -/
theorem placed_fresh (source : Source Row) (session : Option Bool) (columnCount : Nat) :
    Placed source (.fresh source (session.map fun session => ⟨session, none⟩) columnCount) where
  suffix := List.suffix_refl _
  size := by simp [ResultData.fresh]
  position := Nat.zero_le _
  pending := by simp [ResultData.fresh, ResultData.pending]
  unbuffered := by simp [ResultData.fresh]
  complete := by simp [ResultData.fresh]
  failed := by
    intro record thrown found failed
    cases session with
    | none => simp [ResultData.fresh] at found
    | some session =>
      obtain rfl := Option.some.inj found
      simp at failed

/-- Some rows were read between two states of a result. -/
structure Reads (source : Source Row) (before after : ResultData Row) (read : List Row) :
    Prop where
  /-- The cursor is where it says. -/
  placed : Placed source after
  /-- `row_index` counts the rows. -/
  counted : after.rowIndex = before.rowIndex + read.length
  /-- They are the next ones. -/
  order : before.pending = read ++ after.pending
  /-- An exhausted result stays exhausted. -/
  exhausted : before.exhausted = true → after.exhausted = true
  /-- A failed stream keeps its error. -/
  failed : ∀ record thrown, before.record = some record → record.failed = some thrown →
    ∃ later, after.record = some later ∧ later.failed = some thrown

/-- A call that reads nothing leaves the result in its place. -/
theorem Reads.refl {source : Source Row} {data : ResultData Row} (placed : Placed source data) :
    Reads source data data [] where
  placed := placed
  counted := rfl
  order := rfl
  exhausted := id
  failed record _ found failed := ⟨record, found, failed⟩

/-- First some rows were read, then others. -/
theorem Reads.trans {source : Source Row} {first second third : ResultData Row}
    {read others : List Row} (early : Reads source first second read)
    (late : Reads source second third others) : Reads source first third (read ++ others) where
  placed := late.placed
  counted := by rw [late.counted, early.counted, List.length_append, Nat.add_assoc]
  order := by rw [early.order, late.order, List.append_assoc]
  exhausted done := late.exhausted (early.exhausted done)
  failed record thrown found failed := by
    obtain ⟨middle, there, kept⟩ := early.failed record thrown found failed
    exact late.failed middle thrown there kept

/-- The iterator is no part of the cursor. -/
theorem Reads.setIterator {source : Source Row} {before after : ResultData Row} {read : List Row}
    (reads : Reads source before after read) (iterator : Option (ResultIterator Row)) :
    Reads source before { after with iterator := iterator } read where
  placed := { reads.placed with }
  counted := reads.counted
  order := reads.order
  exhausted := reads.exhausted
  failed := reads.failed

/-- What is read does not depend on the iterator from before. -/
theorem Reads.ofIterator {source : Source Row} {before after : ResultData Row} {read : List Row}
    {iterator : Option (ResultIterator Row)}
    (reads : Reads source { before with iterator := iterator } after read) :
    Reads source before after read where
  placed := reads.placed
  counted := reads.counted
  order := reads.order
  exhausted := reads.exhausted
  failed := reads.failed

/-- Where the cursor is does not depend on the iterator. -/
theorem Placed.setIterator {source : Source Row} {data : ResultData Row} (placed : Placed source data)
    (iterator : Option (ResultIterator Row)) : Placed source { data with iterator := iterator } :=
  { placed with }

/-! ## Chunks -/

/-- What fetching a chunk does: it reads no row, and makes one available or comes to the end. -/
structure Fetched (source : Source Row) (before after : ResultData Row)
    (result : Except Thrown Bool) : Prop where
  /-- No row is read. -/
  reads : Reads source before after []
  /-- A chunk has an unread row: the old chunk at its position, or a new one at its start. -/
  available : result = .ok true → ∃ chunk, after.chunk = some chunk ∧
    after.chunkPos < chunk.length ∧ (after = before ∨ after.chunkPos = 0)
  /-- Without one the result is exhausted. -/
  ended : result = .ok false → after.exhausted = true

/-- The next chunk of a source is taken. -/
theorem takeChunk_fetched {source : Source Row} {data : ResultData Row} {chunk : List Row}
    {rest : List (List Row)} (placed : Placed source data) (unbuffered : data.chunk = none)
    (open_ : data.exhausted = false) (live : ∀ record, data.record = some record →
      record.failed = none) (here : data.source.chunks = chunk :: rest) :
    Fetched source data (data.takeChunk chunk rest).1 (data.takeChunk chunk rest).2 := by
  have same : (data.takeChunk chunk rest).1.pending = data.pending := by
    rw [takeChunk_pending]
    simp [ResultData.pending, Source.rows, unbuffered, here]
  have tail : rest <:+ source.chunks :=
    (List.suffix_cons chunk rest).trans (here ▸ placed.suffix)
  have index : (data.takeChunk chunk rest).1.rowIndex = data.rowIndex := by
    unfold ResultData.takeChunk ResultData.openChunk
    split <;> rfl
  have record : (data.takeChunk chunk rest).1.record = data.record := by
    unfold ResultData.takeChunk ResultData.openChunk
    split <;> rfl
  have notFailed : ∀ record thrown, data.record = some record → record.failed ≠ some thrown := by
    intro record thrown found failed
    simp [live record found] at failed
  refine ⟨⟨⟨?_, ?_, ?_, ?_, ?_, ?_, ?_⟩, ?_, ?_, ?_, ?_⟩, ?_, ?_⟩
  · unfold ResultData.takeChunk ResultData.openChunk
    split <;> exact tail
  · unfold ResultData.takeChunk ResultData.openChunk
    split
    · simp
    · rintro _ ⟨⟩
      rfl
  · rw [index]
    exact placed.position
  · rw [same, index]
    exact placed.pending
  · unfold ResultData.takeChunk ResultData.openChunk
    split
    · simp
    · simp [open_]
  · unfold ResultData.takeChunk ResultData.openChunk
    split
    · rename_i empty
      intro _ full
      have member : chunk ∈ source.chunks := placed.suffix.mem (by rw [here]; simp)
      rw [List.length_eq_zero_iff.mp empty] at member
      exact absurd member full
    · simp [open_]
  · intro old thrown found failed
    rw [record] at found
    exact absurd failed (notFailed old thrown found)
  · simp [index]
  · simp [same]
  · simp [open_]
  · intro old thrown found failed
    exact absurd failed (notFailed old thrown found)
  · unfold ResultData.takeChunk ResultData.openChunk
    split
    · simp
    · rename_i full
      intro _
      exact ⟨chunk, rfl, Nat.pos_of_ne_zero full, .inr rfl⟩
  · unfold ResultData.takeChunk ResultData.openChunk
    split <;> simp

/-- The fetch of a stream's next chunk loses nothing. -/
def Keeps (source : Source Row) (stream : StreamFetch Row) : Prop :=
  ∀ (data : ResultData Row) (record : Record), Placed source data → data.chunk = none →
    data.exhausted = false → data.record = some record →
      Fetched source data (stream.fetch record data).1 (stream.fetch record data).2

/-- Dropping a chunk whose rows were all read. -/
theorem dropChunk_reads {source : Source Row} {data : ResultData Row} (placed : Placed source data)
    (past : ∀ chunk, data.chunk = some chunk → chunk.length ≤ data.chunkPos) :
    Reads source data { data with chunk := none } [] := by
  have same : ({ data with chunk := none } : ResultData Row).pending = data.pending := by
    cases held : data.chunk with
    | none => simp [ResultData.pending, held, Source.rows]
    | some chunk =>
      have read := List.drop_eq_nil_of_le (past chunk held)
      simp [ResultData.pending, held, read, Source.rows]
  refine ⟨{ placed with size := ?_, pending := ?_, unbuffered := fun _ => rfl, failed := ?_ }, rfl,
    ?_, id, fun record _ found failed => ⟨record, found, failed⟩⟩
  · simp
  · rw [same]
    exact placed.pending
  · intro record thrown found failed
    exact ⟨rfl, (placed.failed record thrown found failed).2⟩
  · rw [List.nil_append]
    exact same.symm

/-- Fetching a chunk reads no row and leaves the next chunk of the source in hand. -/
theorem fetchChunk_fetched {source : Source Row} {data : ResultData Row} {stream : StreamFetch Row}
    (keeps : Keeps source stream) (placed : Placed source data) (open_ : data.exhausted = false) :
    Fetched source data (duckdbResultFetchChunk stream data).1
      (duckdbResultFetchChunk stream data).2 := by
  unfold duckdbResultFetchChunk
  split
  · rename_i unread
    rw [Bool.and_eq_true, decide_eq_true_eq] at unread
    obtain ⟨chunk, held⟩ := Option.isSome_iff_exists.mp unread.1
    refine ⟨.refl placed, fun _ => ⟨chunk, held, ?_, .inl rfl⟩, by simp⟩
    rw [← placed.size chunk held]
    exact unread.2
  · rename_i read
    have past : ∀ chunk, data.chunk = some chunk → chunk.length ≤ data.chunkPos := by
      intro chunk held
      rw [← placed.size chunk held]
      simpa [held] using read
    have dropped := dropChunk_reads placed past
    have later : ∀ {after : ResultData Row} {result : Except Thrown Bool},
        Fetched source { data with chunk := none } after result →
          (result = .ok true → after.chunkPos = 0 ∨ after.chunk = none) →
            Fetched source data after result := by
      intro after result fetched fresh
      refine ⟨dropped.trans fetched.reads, fun there => ?_, fetched.ended⟩
      obtain ⟨chunk, held, inside, _⟩ := fetched.available there
      refine ⟨chunk, held, inside, .inr ?_⟩
      rcases fresh there with start | none_
      · exact start
      · simp [held] at none_
    have started : ∀ {after : ResultData Row} {result : Except Thrown Bool},
        Fetched source { data with chunk := none } after result → result = .ok true →
          after.chunkPos = 0 ∨ after.chunk = none := by
      intro after result fetched there
      obtain ⟨_, _, _, old | start⟩ := fetched.available there
      · exact .inr (by rw [old])
      · exact .inl start
    dsimp only
    split
    · rename_i record streams
      have fetched := keeps _ record dropped.placed rfl open_ streams
      exact later fetched (started fetched)
    · rename_i materialized
      have live : ∀ record, data.record = some record → record.failed = none := by
        intro record found
        rw [materialized] at found
        simp at found
      split
      · exact later ⟨.refl dropped.placed, by simp, by simp⟩ (by simp)
      · rename_i none_ ended
        refine later ⟨⟨{ dropped.placed with
          unbuffered := fun _ => rfl
          complete := fun _ _ => none_
          failed := ?_ }, rfl, rfl, fun _ => rfl, ?_⟩, by simp, fun _ => rfl⟩ (by simp)
        all_goals
          intro old thrown found failed
          simp [live old found] at failed
      · rename_i chunk rest ending here
        have fetched := takeChunk_fetched dropped.placed rfl open_ live here
        exact later fetched (started fetched)

/-! ## Rows -/

/-- Moving past the row at the cursor reads it. -/
theorem nextRow_reads {source : Source Row} {data : ResultData Row} {rows : List Row}
    (placed : Placed source data) (held : data.chunk = some rows)
    (inside : data.chunkPos < rows.length) :
    Reads source data { data with chunkPos := data.chunkPos + 1, rowIndex := data.rowIndex + 1 }
      [rows[data.chunkPos]] := by
  have order : data.pending = rows[data.chunkPos] ::
      (rows.drop (data.chunkPos + 1) ++ data.source.rows) := by
    simp only [ResultData.pending, held, Option.getD_some]
    rw [List.drop_eq_getElem_cons inside, List.cons_append]
  have left := placed.pending
  have position : data.rowIndex < source.rows.length := by
    by_contra beyond
    rw [List.drop_eq_nil_of_le (Nat.le_of_not_lt beyond), order] at left
    simp at left
  have rest : rows.drop (data.chunkPos + 1) ++ data.source.rows =
      source.rows.drop (data.rowIndex + 1) := by
    rw [List.drop_eq_getElem_cons position, order] at left
    exact (List.cons.inj left).2
  refine ⟨{ placed with position := position, pending := ?_ }, rfl, ?_, id,
    fun record _ found failed => ⟨record, found, failed⟩⟩
  · simp only [ResultData.pending, held, Option.getD_some]
    exact rest
  · rw [order]
    simp only [ResultData.pending, held, Option.getD_some, List.singleton_append]

/-- The row that a fetch read, if any. -/
def fetchedRows : Except Thrown (Option Row) → List Row
  | .ok (some row) => [row]
  | _ => []

/-- Fetching a row reads it, or nothing; without a row and an exception the result is exhausted. -/
theorem fetchRowInto_reads {source : Source Row} {data after : ResultData Row}
    {stream : StreamFetch Row} {faults : Faults} {result : Except Thrown (Option Row)}
    (keeps : Keeps source stream) (placed : Placed source data)
    (fetched : duckdbResultFetchRowInto stream faults data = (after, result)) :
    Reads source data after (fetchedRows result) ∧
      (result = .ok none → after.exhausted = true) := by
  unfold duckdbResultFetchRowInto at fetched
  split at fetched
  · rename_i exhausted
    obtain ⟨rfl, rfl⟩ := Prod.mk.inj fetched
    exact ⟨.refl placed, fun _ => exhausted⟩
  · rename_i open_
    have chunk := fetchChunk_fetched keeps placed (by simpa using open_)
    split at fetched
    · rename_i failed
      rw [failed] at chunk
      obtain ⟨rfl, rfl⟩ := Prod.mk.inj fetched
      exact ⟨chunk.reads, by simp⟩
    · rename_i ended
      rw [ended] at chunk
      obtain ⟨rfl, rfl⟩ := Prod.mk.inj fetched
      exact ⟨chunk.reads, fun _ => chunk.ended rfl⟩
    · rename_i buffered available
      rw [available] at chunk
      dsimp only at chunk
      obtain ⟨rows, held, inside, _⟩ := chunk.available rfl
      have here : (buffered.chunk.getD [])[buffered.chunkPos]? = some rows[buffered.chunkPos] := by
        rw [held, Option.getD_some, List.getElem?_eq_getElem inside]
      rw [here] at fetched
      dsimp only at fetched
      split at fetched
      · obtain ⟨rfl, rfl⟩ := Prod.mk.inj fetched
        exact ⟨chunk.reads, by simp⟩
      · obtain ⟨rfl, rfl⟩ := Prod.mk.inj fetched
        refine ⟨chunk.reads.trans (nextRow_reads chunk.reads.placed held inside), by simp⟩

/-- The loop of `fetchAll` reads the rows that it collects. -/
theorem fetchAllRows_reads {source : Source Row} {stream : StreamFetch Row}
    (keeps : Keeps source stream) (faults : Faults) (data : ResultData Row)
    (placed : Placed source data) :
    Reads source data (fetchAllRows stream faults data).1 (fetchAllRows stream faults data).2.1 := by
  induction data using fetchAllRows.induct stream faults with
  | case1 data next thrown fetched =>
    have step := (fetchRowInto_reads keeps placed fetched).1
    rw [fetchAllRows]
    split
    · rename_i same
      rw [fetched] at same
      obtain ⟨rfl, _⟩ := Prod.mk.inj same
      exact step
    · rename_i same
      simp [fetched] at same
    · rename_i same
      simp [fetched] at same
  | case2 data next fetched =>
    have step := (fetchRowInto_reads keeps placed fetched).1
    rw [fetchAllRows]
    split
    · rename_i same
      simp [fetched] at same
    · rename_i same
      rw [fetched] at same
      obtain ⟨rfl, _⟩ := Prod.mk.inj same
      exact step
    · rename_i same
      simp [fetched] at same
  | case3 data next row fetched last rows failure same ih =>
    have step := (fetchRowInto_reads keeps placed fetched).1
    have rest := ih step.placed
    rw [fetchAllRows]
    split
    · rename_i same
      simp [fetched] at same
    · rename_i same
      simp [fetched] at same
    · rename_i same
      rw [fetched] at same
      obtain ⟨rfl, found⟩ := Prod.mk.inj same
      obtain rfl := Option.some.inj (Except.ok.inj found)
      exact step.trans rest

/-! ## Calls -/

/-- What a call does to the cursor. -/
structure Called (source : Source Row) (before after : ResultData Row) (request : Call)
    (outcome : Outcome Row) : Prop where
  /-- It reads the rows of its outcome. -/
  reads : Reads source before after outcome.read
  /-- Only `fetchAll` loses rows when it fails. -/
  lost : ∀ thrown rows, outcome = .thrown thrown rows → (∀ mode, request ≠ .fetchAll mode) →
    rows = []
  /-- A call that found no row left the result exhausted. -/
  ended : outcome = .empty → after.exhausted = true

/-- A call that throws and reads nothing keeps its promises. -/
theorem thrown_called {source : Source Row} {before after : ResultData Row} {request : Call}
    {thrown : Thrown} (reads : Reads source before after []) :
    Called source before after request (.thrown thrown []) where
  reads := reads
  lost := by
    rintro _ rows same _
    exact (Outcome.thrown.inj same).2.symm
  ended := by simp

/-- A call that returns the row it read keeps its promises. -/
theorem row_called {source : Source Row} {before after : ResultData Row} {request : Call}
    {outcome : Outcome Row} (reads : Reads source before after outcome.read)
    (returned : ∀ thrown rows, outcome ≠ .thrown thrown rows) (full : outcome ≠ .empty) :
    Called source before after request outcome where
  reads := reads
  lost thrown rows same := absurd same (returned thrown rows)
  ended same := absurd same full

/-- A call that found no row reads none and leaves the result exhausted. -/
theorem empty_called {source : Source Row} {before after : ResultData Row} {request : Call}
    (reads : Reads source before after []) (ended : after.exhausted = true) :
    Called source before after request .empty where
  reads := reads
  lost := by simp
  ended _ := ended

/-- A call of `getIterator` reads no row. -/
theorem getIterator_called {source : Source Row} {data : ResultData Row}
    (placed : Placed source data) :
    Called source data (getIterator data).1 .getIterator (getIterator data).2 := by
  unfold getIterator
  split
  · exact thrown_called (.refl placed)
  · exact row_called ((Reads.refl placed).setIterator _) (by simp) (by simp)

/-- Taking a whole chunk reads its rows. -/
theorem wholeChunk_reads {source : Source Row} {data : ResultData Row} {rows : List Row}
    (placed : Placed source data) (held : data.chunk = some rows) (start : data.chunkPos = 0) :
    Reads source data { data with
      rowIndex := data.rowIndex + data.chunkSize, chunkPos := data.chunkSize } rows := by
  have size := placed.size rows held
  have order : data.pending = rows ++ data.source.rows := by
    simp [ResultData.pending, held, start]
  have left := placed.pending
  rw [order] at left
  have length : rows.length + data.source.rows.length = source.rows.length - data.rowIndex := by
    rw [← List.length_append, left, List.length_drop]
  have position := placed.position
  have rest : data.source.rows = source.rows.drop (data.rowIndex + data.chunkSize) := by
    rw [← List.drop_drop, ← left, size, List.drop_left]
  have read : ({ data with
      rowIndex := data.rowIndex + data.chunkSize, chunkPos := data.chunkSize } :
        ResultData Row).pending = data.source.rows := by
    simp [ResultData.pending, held, size]
  refine ⟨{ placed with position := ?_, pending := ?_ }, ?_, ?_, id,
    fun record _ found failed => ⟨record, found, failed⟩⟩
  · by_cases none_ : rows.length = 0
    · simpa [size, none_] using position
    · show data.rowIndex + data.chunkSize ≤ source.rows.length
      omega
  · rw [read]
    exact rest
  · rw [← size]
  · rw [read]
    exact order

section

variable {source : Source Row} {data : ResultData Row} {stream : StreamFetch Row} {faults : Faults}
  (keeps : Keeps source stream) (placed : Placed source data)

include keeps placed

/-- A call of `fetchRow` reads the row that it returns. -/
theorem fetchRow_called (mode : FetchMode) :
    Called source data (fetchRow stream faults mode data).1 (.fetchRow mode)
      (fetchRow stream faults mode data).2 := by
  unfold fetchRow
  split
  · rename_i fetched
    exact thrown_called (fetchRowInto_reads keeps placed fetched).1
  · rename_i fetched
    obtain ⟨reads, ended⟩ := fetchRowInto_reads keeps placed fetched
    exact empty_called reads (ended rfl)
  · rename_i fetched
    exact row_called (fetchRowInto_reads keeps placed fetched).1 (by simp) (by simp)

/-- A call of `fetchAll` reads the rows that it returns, or loses when it fails. -/
theorem fetchAll_called (mode : FetchMode) :
    Called source data (fetchAll stream faults mode data).1 (.fetchAll mode)
      (fetchAll stream faults mode data).2 := by
  have reads := fetchAllRows_reads keeps faults data placed
  unfold fetchAll
  split
  · rename_i collected
    rw [collected] at reads
    exact ⟨reads, fun _ _ _ other => absurd rfl (other mode), by simp⟩
  · rename_i collected
    rw [collected] at reads
    exact row_called reads (by simp) (by simp)

/-- A call of `fetchColumn` reads the row that its value is of. -/
theorem fetchColumn_called (column : Int64) :
    Called source data (fetchColumn stream faults column data).1 (.fetchColumn column)
      (fetchColumn stream faults column data).2 := by
  unfold fetchColumn
  split
  · exact thrown_called (.refl placed)
  · split
    · rename_i fetched
      exact thrown_called (fetchRowInto_reads keeps placed fetched).1
    · rename_i fetched
      obtain ⟨reads, ended⟩ := fetchRowInto_reads keeps placed fetched
      exact empty_called reads (ended rfl)
    · rename_i fetched
      exact row_called (fetchRowInto_reads keeps placed fetched).1 (by simp) (by simp)

/-- A call of `fetchArrowChunk` reads the rows that it exports. -/
theorem fetchArrowChunk_called :
    Called source data (fetchArrowChunk stream faults data).1 .fetchArrowChunk
      (fetchArrowChunk stream faults data).2 := by
  unfold fetchArrowChunk
  split
  · exact thrown_called (.refl placed)
  · rename_i whole
    split
    · rename_i exhausted
      exact empty_called (.refl placed) exhausted
    · rename_i open_
      have chunk := fetchChunk_fetched keeps placed (by simpa using open_)
      split
      · rename_i failed
        rw [failed] at chunk
        exact thrown_called chunk.reads
      · rename_i ended
        rw [ended] at chunk
        exact empty_called chunk.reads (chunk.ended rfl)
      · rename_i buffered available
        rw [available] at chunk
        dsimp only at chunk
        split
        · exact thrown_called chunk.reads
        · exact thrown_called chunk.reads
        · exact thrown_called chunk.reads
        · obtain ⟨rows, held, inside, old⟩ := chunk.available rfl
          -- A chunk that was there already has not been read partially.
          have start : buffered.chunkPos = 0 := by
            rcases old with rfl | start
            · by_contra partial_
              have size := placed.size rows held
              simp [held, size, inside, Nat.pos_of_ne_zero partial_] at whole
            · exact start
          have taken := wholeChunk_reads chunk.reads.placed held start
          have reads := chunk.reads.trans taken
          rw [List.nil_append] at reads
          have returned : buffered.chunk.getD [] = rows := by rw [held, Option.getD_some]
          refine row_called ?_ (by simp) (by simp)
          show Reads source data _ (buffered.chunk.getD [])
          rw [returned]
          exact reads

/-- A call of `ResultIterator::next` reads the row that it moves to. -/
theorem next_called :
    Called source data (ResultIterator.next stream faults data).1 .next
      (ResultIterator.next stream faults data).2 := by
  unfold ResultIterator.next
  dsimp only
  split
  · rename_i fetched
    exact thrown_called (fetchRowInto_reads keeps (placed.setIterator _) fetched).1.ofIterator
  · rename_i fetched
    obtain ⟨reads, ended⟩ := fetchRowInto_reads keeps (placed.setIterator _) fetched
    exact empty_called reads.ofIterator (ended rfl)
  · rename_i fetched
    have reads := (fetchRowInto_reads keeps (placed.setIterator _) fetched).1.ofIterator
    exact row_called (reads.setIterator _) (by simp) (by simp)

/-- A call of `ResultIterator::rewind` reads the row that it moves to. -/
theorem rewind_called (iterator : ResultIterator Row) :
    Called source data (iterator.rewind stream faults data).1 .rewind
      (iterator.rewind stream faults data).2 := by
  unfold ResultIterator.rewind
  split
  · exact thrown_called (.refl placed)
  · dsimp only
    split
    · rename_i fetched
      exact thrown_called (fetchRowInto_reads keeps (placed.setIterator _) fetched).1.ofIterator
    · rename_i fetched
      obtain ⟨reads, ended⟩ := fetchRowInto_reads keeps (placed.setIterator _) fetched
      exact empty_called reads.ofIterator (ended rfl)
    · rename_i fetched
      have reads := (fetchRowInto_reads keeps (placed.setIterator _) fetched).1.ofIterator
      exact row_called (reads.setIterator _) (by simp) (by simp)

/-- Every call reads the rows of its outcome, and only `fetchAll` loses rows when it fails. -/
theorem callOn_called {after : ResultData Row} {request : Call} {outcome : Outcome Row}
    (called : callOn stream faults data request = some (after, outcome)) :
    Called source data after request outcome := by
  cases request with
  | fetchRow mode =>
    obtain ⟨rfl, rfl⟩ := Prod.mk.inj (Option.some.inj called)
    exact fetchRow_called keeps placed mode
  | fetchAll mode =>
    obtain ⟨rfl, rfl⟩ := Prod.mk.inj (Option.some.inj called)
    exact fetchAll_called keeps placed mode
  | fetchColumn column =>
    obtain ⟨rfl, rfl⟩ := Prod.mk.inj (Option.some.inj called)
    exact fetchColumn_called keeps placed column
  | fetchArrowChunk =>
    obtain ⟨rfl, rfl⟩ := Prod.mk.inj (Option.some.inj called)
    exact fetchArrowChunk_called keeps placed
  | getIterator =>
    obtain ⟨rfl, rfl⟩ := Prod.mk.inj (Option.some.inj called)
    exact getIterator_called placed
  | rewind =>
    obtain ⟨iterator, _, same⟩ := Option.map_eq_some_iff.mp called
    obtain ⟨rfl, rfl⟩ := Prod.mk.inj same
    exact rewind_called keeps placed iterator
  | next =>
    obtain ⟨_, _, same⟩ := Option.map_eq_some_iff.mp called
    obtain ⟨rfl, rfl⟩ := Prod.mk.inj same
    exact next_called keeps placed

end

/-! ## Streams -/

/-- No callback that a fetch serves fetches from the same result once the helper stored the chunk. -/
def Faults.Quiet (faults : Faults) : Prop :=
  ∀ left, ∀ request ∈ (faults.served left).after, request = .getIterator

/-- A stream whose chunk was read has no row for a handler of the connection. -/
theorem fetchRowInto_refused {data : ResultData Row} {record : Record} (faults : Faults)
    (unbuffered : data.chunk = none) (open_ : data.exhausted = false)
    (streams : data.record = some record) :
    ∃ thrown, duckdbResultFetchRowInto refusedFetch faults data = (data, .error thrown) := by
  obtain ⟨source, _, columns, _, size, pos, index, _, iterator⟩ := data
  cases unbuffered
  cases open_
  cases streams
  exact ⟨_, rfl⟩

/-- A callback that takes the iterator changes nothing else. -/
theorem serveCall_getIterator (data : ResultData Row) :
    ∃ iterator, serveCall data .getIterator = { data with iterator := iterator } := by
  simp only [serveCall, callOn, getIterator]
  split
  · exact ⟨data.iterator, rfl⟩
  · exact ⟨_, rfl⟩

/-- A callback changes nothing but the iterator of such a stream. -/
theorem serveCall_untouched {data : ResultData Row} {record : Record} (request : Call)
    (unbuffered : data.chunk = none) (open_ : data.exhausted = false)
    (streams : data.record = some record) :
    ∃ iterator, serveCall data request = { data with iterator := iterator } := by
  have refused := fun (data : ResultData Row) =>
    @fetchRowInto_refused Row data record { Faults.none with busy := true }
  obtain ⟨thrown, row⟩ := refused data unbuffered open_ streams
  cases request with
  | fetchRow mode =>
    refine ⟨data.iterator, ?_⟩
    simp only [serveCall, callOn, fetchRow, row]
  | fetchAll mode =>
    have none_ : fetchAllRows refusedFetch { Faults.none with busy := true } data =
        (data, [], some thrown) := by
      rw [fetchAllRows]
      split <;> rename_i same <;> rw [row] at same <;> cases same
      rfl
    refine ⟨data.iterator, ?_⟩
    simp only [serveCall, callOn, fetchAll, none_]
  | fetchColumn column =>
    refine ⟨data.iterator, ?_⟩
    simp only [serveCall, callOn, fetchColumn, row]
    split <;> rfl
  | fetchArrowChunk =>
    obtain ⟨source, _, columns, _, size, pos, index, _, iterator⟩ := data
    cases unbuffered
    cases open_
    cases streams
    exact ⟨iterator, rfl⟩
  | getIterator => exact serveCall_getIterator data
  | rewind =>
    cases taken : data.iterator with
    | none => exact ⟨none, by simp only [serveCall, callOn, taken, Option.map_none]; rw [← taken]⟩
    | some iterator =>
      obtain ⟨failure, rewound⟩ := refused (data.onIterator fun _ => ⟨true, 0, none⟩) unbuffered open_
        streams
      simp only [serveCall, callOn, taken, Option.map_some, ResultIterator.rewind, rewound]
      split
      · exact ⟨some iterator, by rw [← taken]⟩
      · exact ⟨_, rfl⟩
  | next =>
    cases taken : data.iterator with
    | none => exact ⟨none, by simp only [serveCall, callOn, taken, Option.map_none]; rw [← taken]⟩
    | some iterator =>
      obtain ⟨failure, moved⟩ := refused (data.onIterator fun iterator =>
        { iterator with current := none }) unbuffered open_ streams
      simp only [serveCall, callOn, taken, Option.map_some, ResultIterator.next, moved]
      exact ⟨_, rfl⟩

/-- Calls that a busy connection refuses leave everything but the iterator of an unbuffered result.
-/
theorem serve_untouched {record : Record} (requests : List Call) {data : ResultData Row}
    (unbuffered : data.chunk = none) (open_ : data.exhausted = false)
    (streams : data.record = some record) :
    ∃ iterator, serve data requests = { data with iterator := iterator } := by
  induction requests generalizing data with
  | nil => exact ⟨data.iterator, rfl⟩
  | cons request rest ih =>
    obtain ⟨iterator, called⟩ := serveCall_untouched request unbuffered open_ streams
    obtain ⟨last, others⟩ := @ih { data with iterator := iterator } unbuffered open_ streams
    refine ⟨last, ?_⟩
    rw [serve, List.foldl_cons, called]
    exact others

/-- Taking the iterator changes nothing else of any result. -/
theorem serve_iterator {requests : List Call} (quiet : ∀ request ∈ requests, request = .getIterator)
    (data : ResultData Row) : ∃ iterator, serve data requests = { data with iterator := iterator } := by
  induction requests generalizing data with
  | nil => exact ⟨data.iterator, rfl⟩
  | cons request rest ih =>
    obtain ⟨rfl, others⟩ := List.forall_mem_cons.mp quiet
    obtain ⟨iterator, called⟩ := serveCall_getIterator data
    obtain ⟨last, later⟩ := ih others { data with iterator := iterator }
    refine ⟨last, ?_⟩
    rw [serve, List.foldl_cons, called]
    exact later

/-- A quiet lease stores DuckDB's next chunk. -/
theorem pumpFetchChunk_quiet {data : ResultData Row} {record : Record} {served : Served}
    (quiet : ∀ request ∈ served.after, request = .getIterator)
    (open_ : data.exhausted = false) (streams : data.record = some record) :
    ∃ iterator, duckdbPumpFetchChunk served data =
      ({ data with iterator := iterator } : ResultData Row).fetchNext := by
  obtain ⟨first, before⟩ := @serve_untouched Row record served.before { data with chunk := none } rfl
    open_ streams
  obtain ⟨last, after⟩ := serve_iterator quiet
    ({ data with chunk := none, iterator := first } : ResultData Row).fetchNext
  refine ⟨last, ?_⟩
  rw [duckdbPumpFetchChunk, before, after]
  unfold ResultData.fetchNext
  dsimp only
  cases data.source.chunks <;> rfl

/-- Without a chunk a stream failed, or it ended. -/
theorem settle_none {data : ResultData Row} (record : Record) (failure : Option Thrown)
    (unbuffered : data.chunk = none) : data.settle record failure =
      match failure with
      | some thrown =>
        ({ data with record := some { record with failed := some thrown } }, .error thrown)
      | none => ({ data with exhausted := true }, .ok false) := by
  obtain ⟨source, _, columns, _, size, pos, index, exhausted, iterator⟩ := data
  cases unbuffered
  cases failure <;> rfl

/-- DuckDB's next chunk is made available, or the end or the error of the stream is kept. -/
theorem settle_fetched {source : Source Row} {data : ResultData Row} {record : Record}
    (placed : Placed source data) (unbuffered : data.chunk = none) (open_ : data.exhausted = false)
    (live : ∀ record, data.record = some record → record.failed = none) :
    let settled := data.fetchNext.settle record
      (if data.source.chunks = [] then data.source.ending else none)
    Fetched source data settled.1 settled.2 := by
  dsimp only
  have notFailed : ∀ record thrown, data.record = some record → record.failed ≠ some thrown := by
    intro record thrown found failed
    rw [live record found] at failed
    cases failed
  cases here : data.source.chunks with
  | nil =>
    have stored : data.fetchNext = data := by
      rw [ResultData.fetchNext, here, ← unbuffered]
    rw [stored, if_pos rfl, settle_none record _ unbuffered]
    cases data.source.ending with
    | some thrown =>
      refine ⟨⟨{ placed with failed := fun _ _ _ _ => ⟨unbuffered, open_⟩ }, rfl, rfl, ?_, ?_⟩,
        by simp, by simp⟩
      · simp [open_]
      · intro old thrown found failed
        exact absurd failed (notFailed old thrown found)
    | none =>
      refine ⟨⟨{ placed with
        unbuffered := fun _ => unbuffered
        complete := fun _ _ => here
        failed := ?_ }, rfl, rfl, fun _ => rfl, ?_⟩, by simp, fun _ => rfl⟩
      all_goals
        intro old thrown found failed
        exact absurd failed (notFailed old thrown found)
  | cons chunk rest =>
    have stored : data.fetchNext =
        { data with source := ⟨rest, data.source.ending⟩, chunk := some chunk } := by
      rw [ResultData.fetchNext, here]
    rw [stored]
    exact takeChunk_fetched placed unbuffered open_ live here

/-- What fetching a chunk does is told without the iterator. -/
theorem Fetched.ofIterator {source : Source Row} {before after : ResultData Row}
    {result : Except Thrown Bool} {iterator : Option (ResultIterator Row)}
    (fetched : Fetched source { before with iterator := iterator } after result)
    (unbuffered : before.chunk = none) : Fetched source before after result where
  reads := fetched.reads.ofIterator
  available there := by
    obtain ⟨chunk, stored, inside, old | start⟩ := fetched.available there
    · rw [old] at stored
      cases unbuffered.symm.trans stored
    · exact ⟨chunk, stored, inside, .inr start⟩
  ended := fetched.ended

/-- The fetch of a stream loses nothing, if it is quiet. -/
theorem streamFetch_keeps {source : Source Row} {faults : Faults} (quiet : faults.Quiet) :
    Keeps source (streamFetch faults) := by
  intro data record placed unbuffered open_ streams
  show Fetched source data (duckdbResultFetchStreamChunk faults record data).1
    (duckdbResultFetchStreamChunk faults record data).2
  have failing : ∀ thrown, Fetched source data data (.error thrown) :=
    fun thrown => ⟨.refl placed, by simp, by simp⟩
  unfold duckdbResultFetchStreamChunk
  split
  · exact failing _
  · split
    · exact failing _
    · rename_i live
      split
      · exact failing _
      · obtain ⟨iterator, next⟩ : ∃ iterator, (if record.session = true then
            duckdbPumpFetchChunk (faults.served data.source.chunks.length) data
            else data.fetchNext) = ({ data with iterator := iterator } : ResultData Row).fetchNext := by
          split
          · exact pumpFetchChunk_quiet (quiet _) open_ streams
          · exact ⟨data.iterator, rfl⟩
        have alive : ∀ old, data.record = some old → old.failed = none := by
          intro old found
          obtain rfl := Option.some.inj (streams.symm.trans found)
          exact live
        dsimp only
        rw [next]
        exact (settle_fetched (placed.setIterator iterator) unbuffered open_ alive).ofIterator
          unbuffered

/-- What a call does to the cursor, if callbacks do not fetch from the result. -/
theorem call_called {source : Source Row} {data after : ResultData Row} {faults : Faults}
    {request : Call} {outcome : Outcome Row} (quiet : faults.Quiet) (placed : Placed source data)
    (called : call faults data request = some (after, outcome)) :
    Called source data after request outcome :=
  callOn_called (streamFetch_keeps quiet) placed called

/-! ## Failures that repeat -/

/-- What a call throws before it fetches: its own checks, and the busy connection. -/
def Call.checks (faults : Faults) (data : ResultData Row) : Call → Except Thrown Unit
  | .fetchColumn column => do
    duckdbResultCheckColumn data column
    duckdbConnEnter ⟨false, false, faults.busy⟩
  | .rewind => do
    match data.iterator with
    | some iterator => iterator.checkRewind data
    | none => .ok ()
    duckdbConnEnter ⟨false, false, faults.busy⟩
  | _ => duckdbConnEnter ⟨false, false, faults.busy⟩

/-- What a call on a failed stream throws. -/
def failedThrows (admitted : Except Thrown Unit) (failure : Thrown) : Thrown :=
  match admitted with
  | .ok () => failure
  | .error refusal => refusal

/-- A failed stream has no row for any method. -/
theorem fetchRowInto_failed {source : Source Row} {data : ResultData Row} (faults : Faults)
    (placed : Placed source data) {record : Record} {failure : Thrown}
    (streams : data.record = some record) (failed : record.failed = some failure) :
    ∃ after, duckdbResultFetchRowInto (streamFetch faults) faults data = (after, .error
      (failedThrows (duckdbConnEnter ⟨false, false, faults.busy⟩) failure)) := by
  obtain ⟨unbuffered, open_⟩ := placed.failed record failure streams failed
  simp only [duckdbResultFetchRowInto, duckdbResultFetchChunk, streamFetch,
    duckdbResultFetchStreamChunk, unbuffered, open_, streams, failed, Option.isSome_none, Bool.false_and, Bool.false_eq_true,
    ↓reduceIte]
  cases duckdbConnEnter ⟨false, false, faults.busy⟩ <;> exact ⟨_, rfl⟩

/-- A stream that failed throws its failure again and gives no chunk. -/
theorem fetchChunk_failed {source : Source Row} {data : ResultData Row} (faults : Faults)
    (placed : Placed source data) {record : Record} {failure : Thrown}
    (streams : data.record = some record) (failed : record.failed = some failure) :
    ∃ after, duckdbResultFetchChunk (streamFetch faults) data = (after, .error
      (failedThrows (duckdbConnEnter ⟨false, false, faults.busy⟩) failure)) := by
  obtain ⟨unbuffered, _⟩ := placed.failed record failure streams failed
  simp only [duckdbResultFetchChunk, streamFetch, duckdbResultFetchStreamChunk, unbuffered, streams, failed,
    Option.isSome_none, Bool.false_and, Bool.false_eq_true, ↓reduceIte]
  cases duckdbConnEnter ⟨false, false, faults.busy⟩ <;> exact ⟨_, rfl⟩

/-- Every fetch from a failed stream throws its error again, unless it is refused before. -/
theorem call_failed {source : Source Row} {data after : ResultData Row} {faults : Faults}
    {request : Call} {outcome : Outcome Row} (placed : Placed source data) {record : Record}
    {failure : Thrown} (streams : data.record = some record)
    (failed : record.failed = some failure) (fetches : request ≠ .getIterator)
    (called : call faults data request = some (after, outcome)) :
    outcome = .thrown (failedThrows (request.checks faults data) failure) [] := by
  obtain ⟨next, noRow⟩ := fetchRowInto_failed faults placed streams failed
  obtain ⟨unbuffered, open_⟩ := placed.failed record failure streams failed
  cases request with
  | fetchRow mode =>
    simp only [call, callOn, fetchRow, noRow, Option.some.injEq, Prod.mk.injEq] at called
    exact called.2.symm
  | fetchAll mode =>
    have none_ : fetchAllRows (streamFetch faults) faults data = (next, [], some
        (failedThrows (duckdbConnEnter ⟨false, false, faults.busy⟩) failure)) := by
      rw [fetchAllRows]
      split
      · rename_i same
        rw [noRow] at same
        obtain ⟨rfl, threw⟩ := Prod.mk.inj same
        rw [Except.error.inj threw]
      · rename_i same
        simp [noRow] at same
      · rename_i same
        simp [noRow] at same
    simp only [call, callOn, fetchAll, none_, Option.some.injEq, Prod.mk.injEq] at called
    exact called.2.symm
  | fetchColumn column =>
    cases check : duckdbResultCheckColumn data column with
    | error thrown =>
      have refused : (Call.fetchColumn column).checks faults data = .error thrown := by
        change (do duckdbResultCheckColumn data column
                   duckdbConnEnter ⟨false, false, faults.busy⟩) = _
        rw [check]
        rfl
      simp only [call, callOn, fetchColumn, check] at called
      obtain ⟨rfl, rfl⟩ := Prod.mk.inj (Option.some.inj called)
      rw [refused, failedThrows]
    | ok _ =>
      have entered : (Call.fetchColumn column).checks faults data =
          duckdbConnEnter ⟨false, false, faults.busy⟩ := by
        change (do duckdbResultCheckColumn data column
                   duckdbConnEnter ⟨false, false, faults.busy⟩) = _
        rw [check]
        rfl
      simp only [call, callOn, fetchColumn, check, noRow] at called
      obtain ⟨rfl, rfl⟩ := Prod.mk.inj (Option.some.inj called)
      rw [entered]
  | fetchArrowChunk =>
    obtain ⟨_, noChunk⟩ := fetchChunk_failed faults placed streams failed
    simp only [call, callOn, fetchArrowChunk, unbuffered, open_, noChunk, Option.isSome_none,
      Bool.false_and, Bool.false_eq_true, ↓reduceIte, Option.some.injEq, Prod.mk.injEq] at called
    exact called.2.symm
  | getIterator => exact absurd rfl fetches
  | rewind =>
    obtain ⟨iterator, taken, same⟩ := Option.map_eq_some_iff.mp called
    cases check : iterator.checkRewind data with
    | error thrown =>
      have refused : Call.rewind.checks faults data = .error thrown := by
        delta Call.checks
        simp only [taken, check]
        rfl
      simp only [ResultIterator.rewind, check] at same
      obtain ⟨rfl, rfl⟩ := Prod.mk.inj same
      rw [refused, failedThrows]
    | ok _ =>
      have entered : Call.rewind.checks faults data =
          duckdbConnEnter ⟨false, false, faults.busy⟩ := by
        delta Call.checks
        simp only [taken, check]
        rfl
      obtain ⟨moved, noRow⟩ := fetchRowInto_failed faults (placed.setIterator
        (data.iterator.map fun _ => ⟨true, 0, none⟩)) streams failed
      simp only [ResultIterator.rewind, check, ResultData.onIterator, noRow] at same
      obtain ⟨rfl, rfl⟩ := Prod.mk.inj same
      rw [entered]
  | next =>
    obtain ⟨iterator, _, same⟩ := Option.map_eq_some_iff.mp called
    obtain ⟨moved, noRow⟩ := fetchRowInto_failed faults (placed.setIterator
      (data.iterator.map fun iterator => { iterator with current := none })) streams failed
    simp only [ResultIterator.next, ResultData.onIterator, noRow, Prod.mk.injEq] at same
    exact same.2.symm

/-! ## Runs -/

/-- A result with the calls on it and how they ended. -/
structure State (Row : Type) where
  /-- The result. -/
  data : ResultData Row
  /-- The calls so far. -/
  log : List (Call × Outcome Row)

/-- One call, which is refused when the result has no iterator for it. -/
def step (state : State Row) (event : Call × Faults) : Option (State Row) :=
  (call event.2 state.data event.1).map fun ended =>
    ⟨ended.1, state.log ++ [(event.1, ended.2)]⟩

/-- The machine of a result and the calls on it. -/
def cursor (Row : Type) : Machine (State Row) (Call × Faults) := ⟨step⟩

/-- A run leads from one state to the other in which all calls are quiet. -/
def QuietReaches (start last : State Row) : Prop :=
  ∃ events, (∀ event ∈ events, event.2.Quiet) ∧ (cursor Row).run start events = some last

/-- What quiet calls preserve, quiet runs preserve. -/
theorem QuietReaches.preserves {inv : State Row → Prop}
    (keeps : ∀ before event after, inv before → Faults.Quiet event.2 →
      step before event = some after → inv after)
    {start last : State Row} (reached : QuietReaches start last) (holds : inv start) : inv last := by
  obtain ⟨events, quiet, ran⟩ := reached
  exact Machine.run_preserves_along keeps holds (Machine.along_of_forall quiet start) ran

/-- A result that was just created; it streams when a session is given, pumped or not. -/
def State.fresh (source : Source Row) (session : Option Bool) (columnCount : Nat) : State Row :=
  ⟨.fresh source (session.map fun session => ⟨session, none⟩) columnCount, []⟩

/-- The rows that the calls read. -/
def State.read (state : State Row) : List Row := state.log.flatMap fun entry => entry.2.read

/-- The calls so far and the cursor agree. -/
structure Invariant (source : Source Row) (state : State Row) : Prop where
  /-- The cursor is where it says. -/
  placed : Placed source state.data
  /-- The calls read the rows before it. -/
  read : state.read = source.rows.take state.data.rowIndex
  /-- Only `fetchAll` lost rows. -/
  lost : ∀ request thrown rows, (request, Outcome.thrown thrown rows) ∈ state.log → rows ≠ [] →
    ∃ mode, request = .fetchAll mode

/-- A quiet call keeps the result and the rows that were read in agreement. -/
theorem step_invariant {source : Source Row} {state next : State Row} {event : Call × Faults}
    (inv : Invariant source state) (quiet : event.2.Quiet) (stepped : step state event = some next) :
    Invariant source next ∧ ∃ outcome, Called source state.data next.data event.1 outcome ∧
      call event.2 state.data event.1 = some (next.data, outcome) := by
  obtain ⟨⟨after, outcome⟩, called, rfl⟩ := Option.map_eq_some_iff.mp stepped
  have result := call_called quiet inv.placed called
  refine ⟨⟨result.reads.placed, ?_, ?_⟩, outcome, result, called⟩
  · have order := result.reads.order
    rw [inv.placed.pending] at order
    have split_ : source.rows.take after.rowIndex = source.rows.take state.data.rowIndex ++
        (source.rows.drop state.data.rowIndex).take outcome.read.length := by
      rw [result.reads.counted, List.take_add]
    rw [split_, order, List.take_left, ← inv.read]
    simp [State.read]
  · intro request thrown rows member full
    rcases List.mem_append.mp member with old | new
    · exact inv.lost request thrown rows old full
    · obtain ⟨rfl, rfl⟩ := Prod.mk.inj (List.mem_singleton.mp new)
      by_contra other
      exact full (result.lost thrown rows rfl fun mode same => other ⟨mode, same⟩)

/-- A new result agrees with no calls. -/
theorem invariant_fresh (source : Source Row) (session : Option Bool) (columnCount : Nat) :
    Invariant source (.fresh source session columnCount) where
  placed := placed_fresh source session columnCount
  read := by simp [State.read, State.fresh, ResultData.fresh]
  lost := by simp [State.fresh]

/-- The agreement holds in whatever quiet calls can still reach. -/
theorem reaches_invariant {source : Source Row} {state later : State Row}
    (inv : Invariant source state) (reached : QuietReaches state later) : Invariant source later :=
  reached.preserves (fun _ _ _ inv quiet stepped => (step_invariant inv quiet stepped).1) inv

/-- What a whole run of quiet calls promises of the calls so far and of those to come. -/
structure InOrder (source : Source Row) (state : State Row) : Prop where
  /-- The rows read so far are the first ones of the result, in order. -/
  read : state.read = source.rows.take state.data.rowIndex
  /-- `row_index` counts them. -/
  counted : state.read.length = state.data.rowIndex
  /-- They were returned, but for those that a failing `fetchAll` had read. -/
  lost : ∀ request thrown rows, (request, Outcome.thrown thrown rows) ∈ state.log → rows ≠ [] →
    ∃ mode, request = .fetchAll mode
  /-- Another call that fails consumes nothing. -/
  failing : ∀ request faults after thrown rows, (∀ mode, request ≠ .fetchAll mode) → faults.Quiet →
    call faults state.data request = some (after, .thrown thrown rows) →
      after.rowIndex = state.data.rowIndex ∧ after.pending = state.data.pending
  /-- A partially read chunk is not taken as Arrow data. -/
  partiallyRead : state.data.chunk.isSome = true → 0 < state.data.chunkPos →
    state.data.chunkPos < state.data.chunkSize → ∀ faults, ∃ thrown,
      call faults state.data .fetchArrowChunk = some (state.data, .thrown thrown [])
  /-- Without a row to return, the result is exhausted. -/
  ended : ∀ request faults after, faults.Quiet →
    call faults state.data request = some (after, .empty) → after.exhausted = true
  /-- An exhausted result stays exhausted. -/
  exhausted : state.data.exhausted = true → ∀ later, QuietReaches state later →
    later.data.exhausted = true
  /-- Its rows were all read, unless DuckDB delivered an empty chunk before its end. -/
  complete : state.data.exhausted = true → [] ∉ source.chunks →
    state.data.rowIndex = source.rows.length
  /-- A failed stream repeats its error for every later fetch that is not refused before. -/
  failed : ∀ record failure, state.data.record = some record → record.failed = some failure →
    ∀ later, QuietReaches state later → ∀ request faults after outcome,
      request ≠ .getIterator → call faults later.data request = some (after, outcome) →
        outcome = .thrown (failedThrows (request.checks faults later.data) failure) []

/-- A stream of three rows that fails after them. -/
def failingSource : Source Nat := ⟨[[1, 2], [3]], some interrupted⟩

/-- A callback fetches from the result before the helper stored the chunk. -/
def calledEarly : Faults := { Faults.none with served := fun _ => ⟨[.fetchRow .num], []⟩ }

/-- A callback fetches from it after that. -/
def calledLate : Faults := { Faults.none with served := fun _ => ⟨[], [.fetchRow .num]⟩ }

end PhpDuckdb.Result
