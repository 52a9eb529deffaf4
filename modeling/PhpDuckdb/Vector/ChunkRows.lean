import PhpDuckdb.Vector.DataChunk

/-!
# Chunks keep their rows

A chunk made of vectors or selected from a chunk holds copies of the rows as they were, and nothing
that a script does later changes them. Selecting twice is selecting once by the composed selection.
-/

namespace PhpDuckdb.Vector

open SqlText PhpDuckdb.Value Outcome

variable {Cell : Type}

/-! ## What is not written -/

/-- From one memory to another, vectors in use keep their size, and those that were not written
their rows. -/
structure Spares (memory after : Memory Cell) (written : Nat → Prop) : Prop where
  /-- The rows of the others. -/
  rows : ∀ vector, vector < memory.next → ¬written vector →
    after.rows vector = memory.rows vector
  /-- Every size. -/
  capacity : ∀ vector, vector < memory.next → after.capacity vector = memory.capacity vector
  /-- Vectors stay in use. -/
  next : memory.next ≤ after.next

/-- A step that does nothing spares every vector. -/
theorem Spares.refl (memory : Memory Cell) (written : Nat → Prop) :
    Spares memory memory written :=
  ⟨fun _ _ _ => rfl, fun _ _ => rfl, Nat.le_refl _⟩

/-- What each of two steps spares, both spare together. -/
theorem Spares.trans {first second third : Memory Cell} {written : Nat → Prop}
    (early : Spares first second written) (late : Spares second third written) :
    Spares first third written := by
  have grown := early.next
  refine ⟨fun vector used spared => ?_, fun vector used => ?_, grown.trans late.next⟩
  · rw [late.rows vector (by omega) spared, early.rows vector used spared]
  · rw [late.capacity vector (by omega), early.capacity vector used]

/-- More may be written, of the vectors in use. -/
theorem Spares.weaken {memory after : Memory Cell} {written more : Nat → Prop}
    (spares : Spares memory after written)
    (included : ∀ vector, vector < memory.next → written vector → more vector) :
    Spares memory after more :=
  ⟨fun vector used spared => spares.rows vector used fun wrote =>
    spared (included vector used wrote), spares.capacity, spares.next⟩

/-- Writing vectors that were not in use writes nothing in use. -/
theorem Spares.beyond {first second third : Memory Cell} {written : Nat → Prop}
    (early : Spares first second fun _ => False) (late : Spares second third written)
    (new : ∀ vector, written vector → first.next ≤ vector) :
    Spares first third fun _ => False := by
  have grown := early.next
  have rest : Spares first third written := by
    refine (early.weaken fun _ _ never => never.elim).trans late
  exact rest.weaken fun vector used wrote => absurd (new vector wrote) (by omega)

/-- A copy writes no vector but its target. -/
theorem Copied.spares {memory after : Memory Cell} {source target count : Nat} {row : Nat → Nat}
    {targetOffset : Nat} (copied : Copied memory after source target count row targetOffset) :
    Spares memory after (· = target) :=
  ⟨copied.others, copied.capacity, copied.next⟩

/-- Creating a vector writes none of those that are there. -/
theorem allocate_spares (memory : Memory Cell) (like : VectorData) (capacity : UInt64)
    (small : capacity.toNat < 2 ^ 32) (written : Nat → Prop) :
    Spares memory (duckdbVectorAllocate memory like capacity small).2 written :=
  ⟨fun _ _ _ => rfl, fun _ used => memory.create_capacity _ used, Nat.le_succ _⟩

/-- A vector stays in use with its size. -/
theorem VectorData.Lives.spared {data : VectorData} {memory after : Memory Cell}
    {written : Nat → Prop} (lives : data.Lives memory) (spares : Spares memory after written) :
    data.Lives after := by
  have grown := spares.next
  have used := lives.used
  exact ⟨by omega, (spares.capacity _ used).trans lives.capacity⟩

/-! ## Copying columns -/

/-- A created chunk has columns of its own for what it is created like. -/
structure Created (memory after : Memory Cell) (vectorSize : UInt64) (likes : List VectorData)
    (columns : List ColumnCopy) : Prop where
  /-- No vector in use was written. -/
  spares : Spares memory after fun _ => False
  /-- The sources. -/
  sources : columns.map ColumnCopy.source = likes
  /-- New vectors of the full size. -/
  targets : ∀ column ∈ columns, memory.next ≤ column.target.vector ∧ column.target.Lives after ∧
    column.target.capacity = vectorSize
  /-- Each is another. -/
  distinct : (columns.map fun column => column.target.vector).Nodup

/-- `duckdb_create_data_chunk` creates a new vector of the right type for each column. -/
theorem duckdbCreateDataChunk_created (vectorSize : UInt64) (small : vectorSize.toNat < 2 ^ 32)
    (likes : List VectorData) (memory : Memory Cell) :
    Created memory (duckdbCreateDataChunk vectorSize small likes memory).2 vectorSize likes
      (duckdbCreateDataChunk vectorSize small likes memory).1 := by
  induction likes generalizing memory with
  | nil => exact ⟨Spares.refl _ _, rfl, nofun, List.nodup_nil⟩
  | cons like rest ih =>
    have made := duckdbVectorAllocate_lives memory like vectorSize small
    have others := ih (duckdbVectorAllocate memory like vectorSize small).2
    have next : (duckdbVectorAllocate memory like vectorSize small).2.next = memory.next + 1 := rfl
    have handle : (duckdbVectorAllocate memory like vectorSize small).1.vector = memory.next := rfl
    constructor
    · exact (allocate_spares memory like vectorSize small _).trans others.spares
    · exact congrArg (like :: ·) others.sources
    · intro column member
      cases List.mem_cons.mp member with
      | inl first =>
        subst first
        exact ⟨Nat.le_of_eq handle.symm, made.spared others.spares, rfl⟩
      | inr later =>
        obtain ⟨fresh, lives, full⟩ := others.targets column later
        exact ⟨by omega, lives, full⟩
    · refine List.nodup_cons.mpr ⟨fun member => ?_, others.distinct⟩
      obtain ⟨column, later, same⟩ := List.mem_map.mp member
      have fresh := (others.targets column later).1
      have equal : column.target.vector = memory.next := same
      omega

/-- Copying columns into vectors of their own copies each of them. -/
theorem eachColumn_copied {copy : Memory Cell → Nat → Nat → Memory Cell} {count : Nat}
    {row : Nat → Nat} {columns : List ColumnCopy} (bound : Nat) {memory : Memory Cell}
    (copies : ∀ column ∈ columns, ∀ before : Memory Cell, column.source.Lives before →
      column.target.Lives before → column.source.vector ≠ column.target.vector →
      Copied before (copy before column.source.vector column.target.vector) column.source.vector
        column.target.vector count row 0)
    (sources : ∀ column ∈ columns, column.source.Lives memory ∧ column.source.vector < bound)
    (targets : ∀ column ∈ columns, column.target.Lives memory ∧ bound ≤ column.target.vector)
    (distinct : (columns.map fun column => column.target.vector).Nodup) :
    Spares memory (eachColumn copy columns memory)
      (· ∈ columns.map fun column => column.target.vector) ∧
      ∀ column ∈ columns, ∀ position, position < count →
        (eachColumn copy columns memory).rows column.target.vector position =
          memory.rows column.source.vector (row position) := by
  induction columns generalizing memory with
  | nil => exact ⟨Spares.refl _ _, nofun⟩
  | cons head rest ih =>
    obtain ⟨sourceLives, sourceBelow⟩ := sources head List.mem_cons_self
    obtain ⟨targetLives, targetAbove⟩ := targets head List.mem_cons_self
    obtain ⟨fresh, others⟩ := List.nodup_cons.mp distinct
    have first := copies head List.mem_cons_self memory sourceLives targetLives (by omega)
    have spared := first.spares
    obtain ⟨later, copied⟩ := ih
      (fun column member => copies column (List.mem_cons_of_mem _ member))
      (fun column member => by
        obtain ⟨lives, below⟩ := sources column (List.mem_cons_of_mem _ member)
        exact ⟨lives.spared spared, below⟩)
      (fun column member => by
        obtain ⟨lives, above⟩ := targets column (List.mem_cons_of_mem _ member)
        exact ⟨lives.spared spared, above⟩) others
    have step : eachColumn copy (head :: rest) memory =
        eachColumn copy rest (copy memory head.source.vector head.target.vector) := rfl
    rw [step]
    refine ⟨?_, fun column member position inside => ?_⟩
    · refine (spared.weaken fun vector _ same => ?_).trans (later.weaken fun vector _ wrote => ?_)
      · rw [same]
        exact List.mem_cons_self
      · exact List.mem_cons_of_mem _ wrote
    · cases List.mem_cons.mp member with
      | inl same =>
        subst same
        have kept := later.rows column.target.vector
          (lt_of_lt_of_le targetLives.used spared.next) fresh
        have here := first.copied position inside
        rw [Nat.zero_add] at here
        rw [kept, here]
      | inr behind =>
        obtain ⟨lives, below⟩ := sources column member
        have kept := spared.rows column.source.vector lives.used (by omega)
        rw [copied column behind position inside, kept]

/-! ## New chunks -/

/-- The rows of a chunk, column by column. -/
def DataChunkData.contents (chunk : DataChunkData) (memory : Memory Cell) : List (List Cell) :=
  chunk.columns.map fun column => (List.range chunk.size.toNat).map (memory.rows column.vector)

/-- A chunk whose columns memory holds, with all its rows. -/
def DataChunkData.Lives (chunk : DataChunkData) (memory : Memory Cell) : Prop :=
  ∀ column ∈ chunk.columns, column.Lives memory ∧ chunk.size.toNat ≤ column.capacity.toNat

/-- The vectors of a chunk are among those that a memory did not have. -/
def DataChunkData.Fresh (chunk : DataChunkData) (memory : Memory Cell) : Prop :=
  ∀ column ∈ chunk.columns, memory.next ≤ column.vector

/-- A chunk that was built of copies: nothing in use was written, its vectors are new, and its
columns hold the copied rows. -/
structure Built (memory after : Memory Cell) (chunk : DataChunkData) (likes : List VectorData)
    (row : Nat → Nat) : Prop where
  /-- The vectors in use keep their rows. -/
  spares : Spares memory after fun _ => False
  /-- Memory holds the chunk. -/
  lives : chunk.Lives after
  /-- In vectors of its own. -/
  fresh : chunk.Fresh memory
  /-- Its rows are those of the sources as they were. -/
  contents : chunk.contents after = likes.map fun like =>
    (List.range chunk.size.toNat).map fun position => memory.rows like.vector (row position)

/-- A chunk created for some vectors and filled from them. -/
theorem built_of {copy : Memory Cell → Nat → Nat → Memory Cell} {row : Nat → Nat}
    {vectorSize : UInt64} {small : vectorSize.toNat < 2 ^ 32} {likes : List VectorData}
    {memory : Memory Cell} {chunk : DataChunkData} (fits : chunk.size.toNat ≤ vectorSize.toNat)
    (lives : ∀ like ∈ likes, like.Lives memory)
    (columns : chunk.columns =
      (duckdbCreateDataChunk vectorSize small likes memory).1.map ColumnCopy.target)
    (copies : ∀ like ∈ likes, ∀ (target : VectorData) (before : Memory Cell), like.Lives before →
      target.Lives before → target.capacity = vectorSize → like.vector ≠ target.vector →
      Copied before (copy before like.vector target.vector) like.vector target.vector
        chunk.size.toNat row 0) :
    Built memory (eachColumn copy (duckdbCreateDataChunk vectorSize small likes memory).1
      (duckdbCreateDataChunk vectorSize small likes memory).2) chunk likes row := by
  have created := duckdbCreateDataChunk_created vectorSize small likes memory
  generalize (duckdbCreateDataChunk vectorSize small likes memory) = made at created columns ⊢
  obtain ⟨pairs, start⟩ := made
  have source : ∀ column ∈ pairs, column.source ∈ likes := by
    intro column member
    rw [← created.sources]
    exact List.mem_map_of_mem member
  obtain ⟨spared, copied⟩ := eachColumn_copied memory.next
    (fun column member before sourceLives targetLives different =>
      copies _ (source column member) _ before sourceLives targetLives
        (created.targets column member).2.2 different)
    (fun column member => ⟨(lives _ (source column member)).spared created.spares,
      (lives _ (source column member)).used⟩)
    (fun column member => ⟨(created.targets column member).2.1, (created.targets column member).1⟩)
    created.distinct
  have new : ∀ vector ∈ pairs.map fun column => column.target.vector, memory.next ≤ vector := by
    intro vector member
    obtain ⟨column, inside, rfl⟩ := List.mem_map.mp member
    exact (created.targets column inside).1
  constructor
  · exact created.spares.beyond spared new
  · intro column member
    rw [columns] at member
    obtain ⟨pair, inside, rfl⟩ := List.mem_map.mp member
    obtain ⟨-, alive, full⟩ := created.targets pair inside
    exact ⟨alive.spared spared, by rw [full]; exact fits⟩
  · intro column member
    rw [columns] at member
    obtain ⟨pair, inside, rfl⟩ := List.mem_map.mp member
    exact (created.targets pair inside).1
  · rw [DataChunkData.contents, columns, ← created.sources, List.map_map, List.map_map]
    refine List.map_congr_left fun pair inside => List.map_congr_left fun position within => ?_
    have sourceUsed := (lives _ (source pair inside)).used
    rw [copied pair inside position (List.mem_range.mp within),
      created.spares.rows _ sourceUsed id]

section Methods

variable {copier : Copier Cell} {leftover : Selection} {vectorSize : UInt64}
  {small : vectorSize.toNat < 2 ^ 32} {memory after : Memory Cell}

/-- The columns that `fromVectors` accepts are named vectors with enough rows. -/
theorem checkColumns_ok {rowCount : Int64} {columns : List (Option Bytes × ColumnArg)} :
    ∀ {vectors : List (Bytes × VectorData)}, checkColumns rowCount columns = .ok vectors →
      columns = vectors.map (fun column => (some column.1, .vector (some column.2))) ∧
        ∀ column ∈ vectors, rowCount.toUInt64.toNat ≤ column.2.capacity.toNat := by
  induction columns with
  | nil =>
    intro vectors checked
    obtain rfl := Except.ok.inj checked
    exact ⟨rfl, nofun⟩
  | cons column rest ih =>
    intro vectors checked
    obtain ⟨_ | name, (_ | data) | _⟩ := column
    case cons.some.vector.some =>
      rw [checkColumns] at checked
      split at checked
      · contradiction
      · rename_i enough
        obtain ⟨others, accepted, done⟩ := bind_eq_ok.mp checked
        obtain rfl := Except.ok.inj done
        obtain ⟨same, sizes⟩ := ih accepted
        have most := UInt64.lt_iff_toNat_lt.not.mp enough
        refine ⟨by rw [same, List.map_cons], List.forall_mem_cons.mpr ⟨?_, sizes⟩⟩
        show rowCount.toUInt64.toNat ≤ data.capacity.toNat
        omega
    all_goals
      rw [checkColumns] at checked
      contradiction

/-- `fromVectors` copies the first rows of the named vectors into a new chunk. -/
theorem fromVectors_built {columns : List (Option Bytes × ColumnArg)} {rowCount : Int64}
    {chunk : DataChunkData}
    (lives : ∀ column ∈ columns, ∀ data, column.2 = .vector (some data) → data.Lives memory)
    (made : fromVectors copier leftover vectorSize small memory columns rowCount =
      .ok (chunk, after)) :
    ∃ vectors : List (Bytes × VectorData),
      columns = vectors.map (fun column => (some column.1, .vector (some column.2))) ∧
        chunk.names = vectors.map Prod.fst ∧ chunk.size = rowCount.toUInt64 ∧
          Built memory after chunk (vectors.map Prod.snd) fun position => position := by
  rw [fromVectors] at made
  split at made
  · contradiction
  split at made
  · contradiction
  rename_i range
  obtain ⟨vectors, checked, built⟩ := bind_eq_ok.mp made
  obtain ⟨rfl, rfl⟩ := ok_pair built
  obtain ⟨same, sizes⟩ := checkColumns_ok checked
  have most := UInt64.lt_iff_toNat_lt.not.mp (not_or.mp range).2
  have count := rowCount_small small range
  have live : ∀ like ∈ vectors.map Prod.snd, like.Lives memory ∧
      rowCount.toUInt64.toNat ≤ like.capacity.toNat := by
    intro like member
    obtain ⟨column, inside, rfl⟩ := List.mem_map.mp member
    refine ⟨lives (some column.1, .vector (some column.2)) ?_ _ rfl, sizes column inside⟩
    rw [same]
    exact List.mem_map_of_mem inside
  refine ⟨vectors, same, rfl, rfl, built_of (show rowCount.toUInt64.toNat ≤ _ by omega)
    (fun like member => (live like member).1) rfl ?_⟩
  intro like member target before sourceLives targetLives full different
  have sourceSmall := like.small
  have sourceSize := sourceLives.capacity
  have targetSize := targetLives.capacity
  have enough := (live like member).2
  rw [full] at targetSize
  have copied : Copied before (duckdbVectorCopyRows copier leftover before like.vector
      target.vector 0 rowCount.toUInt64 0) like.vector target.vector rowCount.toUInt64.toNat
      (fun position => (0 : UInt64).toNat + position) (0 : UInt64).toNat :=
    duckdbVectorCopyRows_copied copier leftover before different (by omega)
      (by rw [UInt64.toNat_zero]; omega) (by rw [UInt64.toNat_zero]; omega)
  simpa only [UInt64.toNat_zero, Nat.zero_add] using copied

/-- `vector` copies a column into a new vector. -/
theorem chunkVector_made {chunk : DataChunkData} {index : Int64} {vector : VectorData}
    (lives : chunk.Lives memory)
    (made : chunkVector copier leftover memory chunk index = .ok (vector, after)) :
    ∃ column, chunk.columns[index.toUInt64.toNat]? = some column ∧ vector.vector = memory.next ∧
      vector.capacity = chunk.size ∧ vector.Lives after ∧
        Spares memory after (fun _ => False) ∧ ∀ position, position < chunk.size.toNat →
          after.rows vector.vector position = memory.rows column.vector position := by
  rw [chunkVector] at made
  split at made
  · contradiction
  split at made
  · contradiction
  rename_i column found
  obtain ⟨rfl, rfl⟩ := ok_pair made
  obtain ⟨alive, fits⟩ := lives column (List.mem_of_getElem? found)
  have fresh := duckdbVectorAllocate_lives memory column chunk.size chunk.small
  have still := alive.allocate column chunk.size chunk.small
  have allocated := allocate_spares memory column chunk.size chunk.small fun _ => False
  have columnSmall := column.small
  have sourceSize := still.capacity
  have targetSize := fresh.capacity
  have used := alive.used
  have copied : Copied (duckdbVectorAllocate memory column chunk.size chunk.small).2
      (duckdbVectorCopyRows copier leftover
        (duckdbVectorAllocate memory column chunk.size chunk.small).2 column.vector memory.next 0
        chunk.size 0) column.vector memory.next chunk.size.toNat
      (fun position => (0 : UInt64).toNat + position) (0 : UInt64).toNat :=
    duckdbVectorCopyRows_copied copier leftover _ (by omega) (by omega)
      (by rw [UInt64.toNat_zero]; omega)
      (by rw [UInt64.toNat_zero, Nat.zero_add]; exact Nat.le_of_eq targetSize.symm)
  have spared := copied.spares
  refine ⟨column, found, rfl, rfl, fresh.spared spared, ?_, fun position inside => ?_⟩
  · exact allocated.beyond spared fun vector same => Nat.le_of_eq same.symm
  · have row := copied.copied position inside
    simp only [UInt64.toNat_zero, Nat.zero_add] at row
    exact row

/-- A list that passes the validation has only integers. -/
theorem checkEntries_allLongs {argument : Nat} : ∀ {elements : Elements},
    checkEntries argument elements = .ok () → allLongs elements = true
  | .nil, _ => rfl
  | .cons key entry rest, checked => by
    rw [checkEntries] at checked
    rw [allLongs]
    split at checked
    · rename_i index kind
      split at checked
      · contradiction
      · rw [checkEntries_allLongs checked]
        rfl
    · contradiction

/-- A selection comes from an argument that lists its rows. -/
theorem duckdbSelectionFromArg_indices {arg : SelectionArg} {argument : Nat}
    {selection : SelectionData}
    (made : duckdbSelectionFromArg leftover arg argument = .ok selection) :
    ∃ indices, arg.indices = some indices ∧ selection.Lists indices := by
  have listed : ∃ indices, arg.indices = some indices := by
    cases arg with
    | selectionVector data =>
      cases data with
      | none => contradiction
      | some data => exact ⟨_, rfl⟩
    | other given => contradiction
    | array elements small =>
      rw [duckdbSelectionFromArg, selectionFromList] at made
      split at made
      · rename_i isList
        split at made
        · contradiction
        · rename_i checked
          refine ⟨(longs elements).map Int64.toInt, ?_⟩
          rw [SelectionArg.indices, isList, checkEntries_allLongs checked]
          rfl
      · contradiction
  obtain ⟨indices, lists⟩ := listed
  refine ⟨indices, lists, ?_⟩
  cases duckdbSelectionFromArg_lists leftover argument lists with
  | inl other =>
    obtain ⟨selection', same, listed⟩ := other
    obtain rfl := Except.ok.inj (made.symm.trans same)
    exact listed
  | inr refused =>
    obtain ⟨⟨rejected, failed⟩, -⟩ := refused
    rw [made] at failed
    contradiction

/-- `select` copies the listed rows of a chunk into a new one. -/
theorem chunkSelect_built {source chunk : DataChunkData} {arg : SelectionArg}
    (lives : source.Lives memory)
    (made : chunkSelect copier leftover vectorSize small memory source arg =
      .ok (chunk, after)) :
    ∃ indices, arg.indices = some indices ∧ indices.length ≤ vectorSize.toNat ∧
      (∀ index ∈ indices, 0 ≤ index ∧ index < source.size.toNat) ∧
        chunk.names = source.names ∧ chunk.size.toNat = indices.length ∧
          Built memory after chunk source.columns (rowAt indices) := by
  obtain ⟨selection, listed, rest⟩ := bind_eq_ok.mp made
  obtain ⟨few, rest⟩ := ite_error_eq_ok.mp rest
  obtain ⟨_, fits, built⟩ := bind_eq_ok.mp rest
  obtain ⟨rfl, rfl⟩ := ok_pair built
  obtain ⟨indices, lists, rows⟩ := duckdbSelectionFromArg_indices listed
  have inside := (check_lists rows).mp fits
  have count := rows.count
  have most := UInt64.lt_iff_toNat_lt.not.mp few
  refine ⟨indices, lists, by omega, inside, rfl, count, built_of
    (show selection.count.toNat ≤ _ by omega) (fun like member => (lives like member).1) rfl ?_⟩
  intro like member target before sourceLives targetLives full different
  have sourceSize := sourceLives.capacity
  have targetSize := targetLives.capacity
  have enough := (lives like member).2
  rw [full] at targetSize
  have gathered : Copied before (duckdbSelectionGather copier leftover before like.vector
      target.vector selection 0) like.vector target.vector indices.length (rowAt indices)
      (0 : UInt64).toNat :=
    gather_lists copier leftover rows sourceLives.used targetLives.used
      (fun index within => by
        have bound := inside index within
        omega) (by rw [UInt64.toNat_zero]; omega)
  rw [← count] at gathered
  exact gathered

end Methods

/-! ## Rows that a selection lists -/

/-- The entries of a column at the listed rows. -/
def picked (indices : List Int) (column : List Cell) : List Cell :=
  indices.filterMap fun index => column[index.toNat]?

/-- Entries of a column that has them all. -/
theorem picked_eq_map {indices : List Int} {size : Nat} (row : Nat → Cell)
    (inside : ∀ index ∈ indices, 0 ≤ index ∧ index < size) :
    picked indices ((List.range size).map row) = indices.map fun index => row index.toNat := by
  have found : picked indices ((List.range size).map row) =
      indices.filterMap (some ∘ fun index => row index.toNat) := by
    refine List.filterMap_congr fun index member => ?_
    have bound := inside index member
    rw [List.getElem?_map, List.getElem?_range (by omega)]
    rfl
  rw [found, List.filterMap_eq_map]

/-- The rows at the positions of a list are its rows. -/
theorem map_rowAt (indices : List Int) (row : Nat → Cell) :
    (List.range indices.length).map (fun position => row (rowAt indices position)) =
      indices.map fun index => row index.toNat := by
  refine List.ext_getElem (by simp) fun position first second => ?_
  have within : position < indices.length := by simpa using second
  rw [List.getElem_map, List.getElem_range, List.getElem_map, rowAt,
    List.getD_eq_getElem?_getD, List.getElem?_eq_getElem within, Option.getD_some]

/-- A chunk built by a selection has the listed entries of each column. -/
theorem Built.picked {memory after : Memory Cell} {source chunk : DataChunkData}
    {indices : List Int} (built : Built memory after chunk source.columns (rowAt indices))
    (count : chunk.size.toNat = indices.length)
    (inside : ∀ index ∈ indices, 0 ≤ index ∧ index < source.size.toNat) :
    chunk.contents after = (source.contents memory).map (picked indices) := by
  rw [built.contents, DataChunkData.contents, List.map_map, count]
  refine List.map_congr_left fun column _ => ?_
  rw [map_rowAt, Function.comp_apply, picked_eq_map _ inside]

/-! ## Scripts -/

/-- What holds between two calls: memory holds every object, and no vector is a chunk's column. -/
structure Apart (objects : Objects Cell) : Prop where
  /-- The vectors. -/
  vectors : ∀ data ∈ objects.vectors, data.Lives objects.memory
  /-- The chunks. -/
  chunks : ∀ chunk ∈ objects.chunks, chunk.Lives objects.memory
  /-- No script names a chunk's column. -/
  apart : ∀ chunk ∈ objects.chunks, ∀ column ∈ chunk.columns, ∀ data ∈ objects.vectors,
    data.vector ≠ column.vector

/-- What a call does to the objects before it: chunks stay, and only vectors are written. -/
structure Keeps (objects next : Objects Cell) : Prop where
  /-- Only vectors are written. -/
  spares : Spares objects.memory next.memory fun vector =>
    ∃ data ∈ objects.vectors, data.vector = vector
  /-- The chunks stay, and new ones come after them. -/
  chunks : objects.chunks <+: next.chunks
  /-- Every object is in its place. -/
  apart : Apart next

/-- In a script without vectors no chunk shares one. -/
theorem apart_none (rows : Nat → Rows Cell) : Apart (Objects.none rows) := ⟨nofun, nofun, nofun⟩

variable {objects : Objects Cell}

/-- A call that changes nothing keeps the chunks and vectors apart. -/
theorem Apart.same (ok : Apart objects) : Keeps objects objects :=
  ⟨Spares.refl _ _, List.prefix_refl _, ok⟩

/-- A chunk keeps its rows when only vectors are written. -/
theorem Apart.contents (ok : Apart objects) {next : Objects Cell} (keeps : Keeps objects next)
    {chunk : DataChunkData} (member : chunk ∈ objects.chunks) :
    chunk.contents next.memory = chunk.contents objects.memory := by
  refine List.map_congr_left fun column inside => List.map_congr_left fun position _ => ?_
  have used := (ok.chunks chunk member column inside).1.used
  rw [keeps.spares.rows column.vector used fun wrote => ?_]
  obtain ⟨data, named, same⟩ := wrote
  exact ok.apart chunk member column inside data named same

/-- A call that writes a vector, or throws. -/
theorem Apart.writing (ok : Apart objects) {data : VectorData} (named : data ∈ objects.vectors)
    {result : Except ArgumentError (Memory Cell)}
    (wrote : ∀ after, result = .ok after → Spares objects.memory after (· = data.vector)) :
    Keeps objects (objects.writing result) := by
  cases result with
  | error rejected => exact ok.same
  | ok after =>
    have spares := wrote after rfl
    refine ⟨spares.weaken fun vector _ same => ⟨data, named, same.symm⟩, List.prefix_refl _,
      fun other member => (ok.vectors other member).spared spares,
      fun chunk member column inside => ?_, ok.apart⟩
    obtain ⟨lives, fits⟩ := ok.chunks chunk member column inside
    exact ⟨lives.spared spares, fits⟩

/-- A call that gives back a new vector, or throws. -/
theorem Apart.making (ok : Apart objects)
    {result : Except ArgumentError (VectorData × Memory Cell)}
    (made : ∀ data after, result = .ok (data, after) → Spares objects.memory after (fun _ => False) ∧
      data.Lives after ∧ objects.memory.next ≤ data.vector) :
    Keeps objects (objects.making result) := by
  cases result with
  | error rejected => exact ok.same
  | ok pair =>
    obtain ⟨data, after⟩ := pair
    obtain ⟨spares, lives, fresh⟩ := made data after rfl
    refine ⟨spares.weaken fun _ _ never => never.elim, List.prefix_refl _,
      fun other member => ?_, fun chunk member column inside => ?_,
      fun chunk member column inside other also => ?_⟩
    · cases List.mem_append.mp member with
      | inl before => exact (ok.vectors other before).spared spares
      | inr new =>
        rw [List.mem_singleton.mp new]
        exact lives
    · obtain ⟨alive, fits⟩ := ok.chunks chunk member column inside
      exact ⟨alive.spared spares, fits⟩
    · cases List.mem_append.mp also with
      | inl before => exact ok.apart chunk member column inside other before
      | inr new =>
        have used := (ok.chunks chunk member column inside).1.used
        rw [List.mem_singleton.mp new]
        omega

/-- A call that gives back a new chunk, or throws. -/
theorem Apart.building (ok : Apart objects)
    {result : Except ArgumentError (DataChunkData × Memory Cell)}
    (built : ∀ chunk after, result = .ok (chunk, after) →
      Spares objects.memory after (fun _ => False) ∧ chunk.Lives after ∧
        chunk.Fresh objects.memory) :
    Keeps objects (objects.building result) := by
  cases result with
  | error rejected => exact ok.same
  | ok pair =>
    obtain ⟨made, after⟩ := pair
    obtain ⟨spares, lives, fresh⟩ := built made after rfl
    refine ⟨spares.weaken fun _ _ never => never.elim, List.prefix_append _ _,
      fun data member => (ok.vectors data member).spared spares,
      fun chunk member column inside => ?_, fun chunk member column inside data named => ?_⟩
    · cases List.mem_append.mp member with
      | inl before =>
        obtain ⟨alive, fits⟩ := ok.chunks chunk before column inside
        exact ⟨alive.spared spares, fits⟩
      | inr new =>
        obtain rfl := List.mem_singleton.mp new
        exact lives column inside
    · cases List.mem_append.mp member with
      | inl before => exact ok.apart chunk before column inside data named
      | inr new =>
        rw [List.mem_singleton.mp new] at inside
        have above := fresh column inside
        have used := (ok.vectors data named).used
        omega

/-- A call after which there is one more chunk made that chunk. -/
theorem building_chunk {result : Except ArgumentError (DataChunkData × Memory Cell)}
    {chunk : DataChunkData}
    (new : (objects.building result).chunks = objects.chunks ++ [chunk]) :
    ∃ after, result = .ok (chunk, after) := by
  cases result with
  | error rejected =>
    have length := congrArg List.length new
    simp [Objects.building] at length
  | ok pair =>
    obtain ⟨made, after⟩ := pair
    obtain rfl := List.singleton_inj.mp (List.append_cancel_left new)
    exact ⟨after, rfl⟩

/-- The vectors that a script gives to `fromVectors` are in memory. -/
theorem Apart.columnArgs (ok : Apart objects) (columns : List (Option Bytes × Option Nat)) :
    ∀ column ∈ columns.map fun column => (column.1, objects.columnArg column.2), ∀ data,
      column.2 = .vector (some data) → data.Lives objects.memory := by
  intro column member data named
  obtain ⟨⟨name, number⟩, -, rfl⟩ := List.mem_map.mp member
  cases number with
  | none => contradiction
  | some number =>
    have found : objects.vectors[number]? = some data := ColumnArg.vector.inj named
    exact ok.vectors data (List.mem_of_getElem? found)

section Calls

variable {copier : Copier Cell} {leftover : Selection} {vectorSize : UInt64}
  {small : vectorSize.toNat < 2 ^ 32} {memory after : Memory Cell} {target source : VectorData}

/-- `copyFrom` writes no vector but its own. -/
theorem copyFrom_spares (targetLives : target.Lives memory) (sourceLives : source.Lives memory)
    {sourceOffset targetOffset : Int64} {count : Option Int64}
    (copied : copyFrom copier leftover memory target source sourceOffset count targetOffset =
      .ok after) : Spares memory after (· = target.vector) := by
  by_cases equal : duckdbVectorTypesEqual source.type target.type = true
  · exact ((copyFrom_exactly copier leftover targetLives sourceLives equal sourceOffset count
      targetOffset).2 after copied).spares
  · rw [copyFrom] at copied
    split at copied
    · contradiction
    dsimp only at copied
    split at copied
    · contradiction
    obtain ⟨_, -, rest⟩ := bind_eq_ok.mp copied
    obtain ⟨_, -, rest⟩ := bind_eq_ok.mp rest
    contradiction

/-- `copySelected` writes no vector but its own. -/
theorem copySelected_spares (targetLives : target.Lives memory) (sourceLives : source.Lives memory)
    {arg : SelectionArg} {targetOffset : Int64}
    (copied : copySelected copier leftover memory target source arg targetOffset = .ok after) :
    Spares memory after (· = target.vector) := by
  by_cases equal : duckdbVectorTypesEqual source.type target.type = true
  · obtain ⟨selection, made, -⟩ := bind_eq_ok.mp copied
    obtain ⟨indices, lists, -⟩ := duckdbSelectionFromArg_indices made
    exact ((copySelected_exactly copier leftover targetLives sourceLives equal lists
      targetOffset).2 after copied).spares
  · obtain ⟨_, -, rest⟩ := bind_eq_ok.mp copied
    obtain ⟨_, -, rest⟩ := bind_eq_ok.mp rest
    obtain ⟨_, -, rest⟩ := bind_eq_ok.mp rest
    rw [if_neg equal] at rest
    contradiction

/-- `select` makes a vector of its own. -/
theorem select_makes (sourceLives : source.Lives memory) {arg : SelectionArg}
    {data : VectorData} (made : select copier leftover memory source arg = .ok (data, after)) :
    Spares memory after (fun _ => False) ∧ data.Lives after ∧ memory.next ≤ data.vector := by
  obtain ⟨selection, chosen, -⟩ := bind_eq_ok.mp made
  obtain ⟨indices, lists, -⟩ := duckdbSelectionFromArg_indices chosen
  obtain ⟨handle, -, -, lives, copied⟩ :=
    (select_exactly copier leftover sourceLives lists).2 data after made
  refine ⟨(Spares.refl memory _).beyond copied.spares fun vector same => ?_, lives,
    Nat.le_of_eq handle.symm⟩
  rw [same, handle]

/-- Every call keeps the chunks and writes only vectors. -/
theorem Apart.step (ok : Apart objects) {call : Call Cell} {next : Objects Cell}
    (stepped : (script copier leftover vectorSize small).step objects call = some next) :
    Keeps objects next := by
  cases call with
  | create like capacity room =>
    obtain rfl := Option.some.inj stepped
    refine ok.making fun data after made => ?_
    obtain ⟨rfl, rfl⟩ := ok_pair made
    exact ⟨allocate_spares _ like capacity room _,
      duckdbVectorAllocate_lives objects.memory like capacity room, Nat.le_refl _⟩
  | write vector rows =>
    obtain ⟨data, found, rfl⟩ := Option.map_eq_some_iff.mp stepped
    refine ok.writing (List.mem_of_getElem? found) fun after wrote => ?_
    obtain rfl := Except.ok.inj wrote
    exact ⟨fun other _ different => Memory.write_other _ rows different, fun _ _ => rfl,
      Nat.le_refl _⟩
  | copyFrom target source sourceOffset count targetOffset =>
    obtain ⟨target, found, rest⟩ := Option.bind_eq_some_iff.mp stepped
    obtain ⟨source, named, rest⟩ := Option.bind_eq_some_iff.mp rest
    obtain rfl := Option.some.inj rest
    have member := List.mem_of_getElem? found
    exact ok.writing member fun after copied => copyFrom_spares (ok.vectors target member)
      (ok.vectors source (List.mem_of_getElem? named)) copied
  | select source arg =>
    obtain ⟨source, found, rest⟩ := Option.bind_eq_some_iff.mp stepped
    obtain rfl := Option.some.inj rest
    exact ok.making fun data after made =>
      select_makes (ok.vectors source (List.mem_of_getElem? found)) made
  | copySelected target source arg targetOffset =>
    obtain ⟨target, found, rest⟩ := Option.bind_eq_some_iff.mp stepped
    obtain ⟨source, named, rest⟩ := Option.bind_eq_some_iff.mp rest
    obtain rfl := Option.some.inj rest
    have member := List.mem_of_getElem? found
    exact ok.writing member fun after copied => copySelected_spares (ok.vectors target member)
      (ok.vectors source (List.mem_of_getElem? named)) copied
  | fromVectors columns rowCount =>
    obtain rfl := Option.some.inj stepped
    refine ok.building fun chunk after made => ?_
    obtain ⟨_, -, -, -, built⟩ := fromVectors_built (ok.columnArgs columns) made
    exact ⟨built.spares, built.lives, built.fresh⟩
  | vector chunk index =>
    obtain ⟨chunk, found, rest⟩ := Option.bind_eq_some_iff.mp stepped
    obtain rfl := Option.some.inj rest
    refine ok.making fun data after made => ?_
    obtain ⟨_, -, handle, -, lives, spares, -⟩ :=
      chunkVector_made (ok.chunks chunk (List.mem_of_getElem? found)) made
    exact ⟨spares, lives, Nat.le_of_eq handle.symm⟩
  | chunkSelect chunk arg =>
    obtain ⟨chunk, found, rest⟩ := Option.bind_eq_some_iff.mp stepped
    obtain rfl := Option.some.inj rest
    refine ok.building fun made after selected => ?_
    obtain ⟨_, -, -, -, -, -, built⟩ :=
      chunkSelect_built (ok.chunks chunk (List.mem_of_getElem? found)) selected
    exact ⟨built.spares, built.lives, built.fresh⟩

/-- The chunk is there and has these rows. -/
def Remembers (chunk : DataChunkData) (rows : List (List Cell)) (state : Objects Cell) : Prop :=
  Apart state ∧ chunk ∈ state.chunks ∧ chunk.contents state.memory = rows

/-- A call lets a chunk have its rows. -/
theorem remembers_step {chunk : DataChunkData} {rows : List (List Cell)} (state : Objects Cell)
    (call : Call Cell) (next : Objects Cell) (holds : Remembers chunk rows state)
    (stepped : (script copier leftover vectorSize small).step state call = some next) :
    Remembers chunk rows next := by
  obtain ⟨apart, inside, same⟩ := holds
  have keeps := apart.step stepped
  exact ⟨keeps.apart, keeps.chunks.subset inside, (apart.contents keeps inside).trans same⟩

/-- Whatever a script does, a chunk stays and keeps its rows. -/
theorem Apart.keepsRows (ok : Apart objects) {last : Objects Cell}
    (later : (script copier leftover vectorSize small).Reaches objects last)
    {chunk : DataChunkData} (member : chunk ∈ objects.chunks) :
    chunk ∈ last.chunks ∧ chunk.contents last.memory = chunk.contents objects.memory := by
  have now : Remembers chunk (chunk.contents objects.memory) objects := ⟨ok, member, rfl⟩
  have kept : Remembers chunk (chunk.contents objects.memory) last :=
    later.preserves remembers_step now
  exact kept.2

/-- Every state that a script reaches is in order. -/
theorem apart_reached {rows : Nat → Rows Cell}
    (reached : (script copier leftover vectorSize small).Reaches (Objects.none rows) objects) :
    Apart objects :=
  reached.preserves (fun _ _ _ apart stepped => (apart.step stepped).apart) (apart_none rows)

/-- A chunk is a snapshot. Whatever a script did before it was made and does afterwards, a chunk
made of vectors keeps the rows that they had, and a chunk selected from another keeps the listed
rows of it. -/
theorem chunks_snapshot {rows : Nat → Rows Cell} {next last : Objects Cell}
    (reached : (script copier leftover vectorSize small).Reaches (Objects.none rows) objects)
    (later : (script copier leftover vectorSize small).Reaches next last) :
    (∀ columns rowCount chunk,
      (script copier leftover vectorSize small).step objects (.fromVectors columns rowCount) =
        some next → next.chunks = objects.chunks ++ [chunk] →
      ∃ vectors : List (Bytes × VectorData),
        columns.map (fun column => (column.1, objects.columnArg column.2)) =
            vectors.map (fun column => (some column.1, .vector (some column.2))) ∧
          chunk.names = vectors.map Prod.fst ∧ chunk ∈ last.chunks ∧
            chunk.contents last.memory = vectors.map fun column =>
              (List.range rowCount.toUInt64.toNat).map (objects.memory.rows column.2.vector)) ∧
    ∀ number arg chunk,
      (script copier leftover vectorSize small).step objects (.chunkSelect number arg) =
        some next → next.chunks = objects.chunks ++ [chunk] →
      ∃ source indices, objects.chunks[number]? = some source ∧ arg.indices = some indices ∧
        chunk.names = source.names ∧ chunk ∈ last.chunks ∧
          chunk.contents last.memory = (source.contents objects.memory).map (picked indices) := by
  have ok := apart_reached reached
  constructor
  · intro columns rowCount chunk stepped new
    have member : chunk ∈ next.chunks := by
      rw [new]
      exact List.mem_append_right _ List.mem_cons_self
    obtain ⟨stays, same⟩ := (ok.step stepped).apart.keepsRows later member
    obtain rfl := Option.some.inj stepped
    obtain ⟨after, made⟩ := building_chunk new
    rw [made] at same
    obtain ⟨vectors, args, names, size, built⟩ := fromVectors_built (ok.columnArgs columns) made
    refine ⟨vectors, args, names, stays, same.trans (built.contents.trans ?_)⟩
    rw [List.map_map, size]
    rfl
  · intro number arg chunk stepped new
    have member : chunk ∈ next.chunks := by
      rw [new]
      exact List.mem_append_right _ List.mem_cons_self
    obtain ⟨stays, same⟩ := (ok.step stepped).apart.keepsRows later member
    obtain ⟨source, found, rest⟩ := Option.bind_eq_some_iff.mp stepped
    obtain rfl := Option.some.inj rest
    obtain ⟨after, made⟩ := building_chunk new
    rw [made] at same
    obtain ⟨indices, lists, -, inside, names, count, built⟩ :=
      chunkSelect_built (ok.chunks source (List.mem_of_getElem? found)) made
    exact ⟨source, indices, found, lists, names, stays, same.trans (built.picked count inside)⟩

end Calls

/-- The usual vector size fits a selection entry. -/
theorem usual_small : (2048 : UInt64).toNat < 2 ^ 32 := by decide

/-- Scripts with the usual vector size. -/
def usualScript : Machine (Objects Nat) (Call Nat) :=
  script Copier.plain (fun _ => 0) 2048 usual_small

/-- What calls leave of a script without vectors. -/
def leftBy (calls : List (Call Nat)) : Objects Nat :=
  (usualScript.run (Objects.none fun _ _ => 0) calls).getD (Objects.none fun _ _ => 0)

/-- Four integers, each its row number. -/
def numbered : List (Call Nat) :=
  [.create fourIntegers 4 fourIntegers.small, .write 0 fun row => row]

/-- A chunk of the first three of them. -/
def chunked : List (Call Nat) := numbered ++ [.fromVectors [(some [97], some 0)] 3]

/-- A run that writes the vector again after the chunk was made of it. -/
def rewritten : List (Call Nat) := chunked ++ [.write 0 fun _ => 9]

/-- The chunk keeps its numbers when the vector that it was made of is rewritten. -/
theorem chunks_snapshot_rewritten : ∃ (chunk : DataChunkData)
    (vectors : List (Bytes × VectorData)),
    (leftBy chunked).chunks = [chunk] ∧ chunk ∈ (leftBy rewritten).chunks ∧
      chunk.contents (leftBy rewritten).memory = [[0, 1, 2]] ∧
      chunk.contents (leftBy rewritten).memory = vectors.map fun column =>
        (List.range 3).map ((leftBy numbered).memory.rows column.2.vector) := by
  have reached : usualScript.Reaches (Objects.none fun _ _ => 0) (leftBy numbered) :=
    ⟨numbered, rfl⟩
  have later : usualScript.Reaches (leftBy chunked) (leftBy rewritten) :=
    ⟨[.write 0 fun _ => 9], rfl⟩
  have made : (leftBy chunked).chunks = (leftBy numbered).chunks ++ [_] := rfl
  obtain ⟨vectors, -, -, stays, same⟩ :=
    (chunks_snapshot reached later).1 [(some [97], some 0)] 3 _ rfl made
  exact ⟨_, vectors, made, stays, rfl, same⟩

/-! ## Selecting twice -/

/-- A short list of a chunk's rows is accepted. -/
theorem chunkSelect_accepts (copier : Copier Cell) (leftover : Selection) {vectorSize : UInt64}
    (small : vectorSize.toNat < 2 ^ 32) (memory : Memory Cell) {source : DataChunkData}
    {arg : SelectionArg} {indices : List Int} (lists : arg.indices = some indices)
    (few : indices.length ≤ vectorSize.toNat)
    (inside : ∀ index ∈ indices, 0 ≤ index ∧ index < source.size.toNat) :
    ∃ chunk after, chunkSelect copier leftover vectorSize small memory source arg =
      .ok (chunk, after) := by
  have sourceSmall := source.small
  cases duckdbSelectionFromArg_lists leftover 1 lists with
  | inr refused =>
    obtain ⟨-, index, member, far⟩ := refused
    have bound := inside index member
    omega
  | inl made =>
    obtain ⟨selection, made, rows⟩ := made
    have count := rows.count
    have fits : duckdbSelectionCheckSource selection source.size 1 = .ok () :=
      (check_lists rows).mpr inside
    refine ⟨_, _, bind_eq_ok.mpr ⟨selection, made, ite_error_eq_ok.mpr ⟨fun many => ?_,
      bind_eq_ok.mpr ⟨(), fits, rfl⟩⟩⟩⟩
    have above := UInt64.lt_iff_toNat_lt.mp many
    omega

/-- Selecting twice is selecting by the entries of the first selection that the second lists. It
is accepted whenever the two are, and gives the same names and rows. -/
theorem chunkSelect_chunkSelect {copier : Copier Cell} {leftover : Selection} {vectorSize : UInt64}
    {small : vectorSize.toNat < 2 ^ 32} {memory middle after : Memory Cell}
    {source one two : DataChunkData} {first second both : SelectionArg} {outer inner : List Int}
    (lives : source.Lives memory) (outerLists : first.indices = some outer)
    (innerLists : second.indices = some inner)
    (bothLists : both.indices = some (inner.map fun index => outer.getD index.toNat 0))
    (early : chunkSelect copier leftover vectorSize small memory source first =
      .ok (one, middle))
    (late : chunkSelect copier leftover vectorSize small middle one second = .ok (two, after)) :
    ∃ chunk final, chunkSelect copier leftover vectorSize small memory source both =
        .ok (chunk, final) ∧ chunk.names = two.names ∧
          chunk.contents final = two.contents after := by
  obtain ⟨outer', outerLists', -, outerInside, names, outerCount, one'⟩ :=
    chunkSelect_built lives early
  obtain ⟨inner', innerLists', few, innerInside, names', innerCount, two'⟩ :=
    chunkSelect_built one'.lives late
  obtain rfl := Option.some.inj (outerLists.symm.trans outerLists')
  obtain rfl := Option.some.inj (innerLists.symm.trans innerLists')
  rw [outerCount] at innerInside
  have inside : ∀ index ∈ inner.map fun index => outer.getD index.toNat 0,
      0 ≤ index ∧ index < source.size.toNat := by
    intro index member
    obtain ⟨position, within, rfl⟩ := List.mem_map.mp member
    have bound := innerInside position within
    have entry : position.toNat < outer.length := by omega
    rw [List.getD_eq_getElem?_getD, List.getElem?_eq_getElem entry, Option.getD_some]
    exact outerInside _ (List.getElem_mem entry)
  obtain ⟨chunk, final, made⟩ := chunkSelect_accepts copier leftover small memory bothLists
    (by rw [List.length_map]; exact few) inside
  obtain ⟨all, allLists, -, -, names'', count, built⟩ := chunkSelect_built lives made
  obtain rfl := Option.some.inj (bothLists.symm.trans allLists)
  refine ⟨chunk, final, made, by rw [names'', names', names], ?_⟩
  rw [built.picked count inside, two'.picked innerCount (by rwa [outerCount]),
    one'.picked outerCount outerInside, List.map_map]
  refine List.map_congr_left fun column member => ?_
  obtain ⟨like, -, rfl⟩ := List.mem_map.mp member
  rw [Function.comp_apply, picked_eq_map _ inside, picked_eq_map _ outerInside, ← map_rowAt outer,
    picked_eq_map _ innerInside, List.map_map]
  rfl

/-- An array of two elements fits a selection. -/
theorem two_small {first second : Int64} : (Elements.cons (.index 0) (.long first)
    (.cons (.index 1) (.long second) .nil)).count < 2 ^ 32 :=
  show 2 < 2 ^ 32 by decide

/-- A selection given by its rows. -/
def rowsListed (first second : Int64) : SelectionArg :=
  .array (.cons (.index 0) (.long first) (.cons (.index 1) (.long second) .nil)) two_small

/-- The run `chunked` leaves a chunk behind. -/
theorem chunked_made : (leftBy chunked).chunks ≠ [] := List.cons_ne_nil _ _

/-- What selecting two rows of a chunk gives back. -/
def selecting (memory : Memory Nat) (source : DataChunkData) (first second : Int64) :
    DataChunkData × Memory Nat :=
  match chunkSelect Copier.plain (fun _ => 0) 2048 usual_small memory source
    (rowsListed first second) with
  | .ok made => made
  | .error _ => (source, memory)

/-- Selecting the last and the first row and then turning them round. -/
theorem chunkSelect_chunkSelect_turned : ∃ (source one two chunk : DataChunkData)
    (middle after final : Memory Nat),
    chunkSelect Copier.plain (fun _ => 0) 2048 usual_small (leftBy chunked).memory source
        (rowsListed 2 0) = .ok (one, middle) ∧
      chunkSelect Copier.plain (fun _ => 0) 2048 usual_small middle one (rowsListed 1 0) =
        .ok (two, after) ∧
      chunkSelect Copier.plain (fun _ => 0) 2048 usual_small (leftBy chunked).memory source
        (rowsListed 0 2) = .ok (chunk, final) ∧ chunk.contents final = two.contents after := by
  have reached : usualScript.Reaches (Objects.none fun _ _ => 0) (leftBy chunked) :=
    ⟨chunked, rfl⟩
  have lives := (apart_reached reached).chunks _ (List.head_mem chunked_made)
  let source := (leftBy chunked).chunks.head chunked_made
  let one := selecting (leftBy chunked).memory source 2 0
  let two := selecting one.2 one.1 1 0
  have early : chunkSelect Copier.plain (fun _ => 0) 2048 usual_small (leftBy chunked).memory
      source (rowsListed 2 0) = .ok (one.1, one.2) := rfl
  have late : chunkSelect Copier.plain (fun _ => 0) 2048 usual_small one.2 one.1
      (rowsListed 1 0) = .ok (two.1, two.2) := rfl
  have both : (rowsListed 0 2).indices = some ([1, 0].map fun index : Int =>
      ([2, 0] : List Int).getD index.toNat 0) := rfl
  obtain ⟨chunk, final, made, -, same⟩ := chunkSelect_chunkSelect lives rfl rfl both early late
  exact ⟨source, one.1, two.1, chunk, one.2, two.2, final, rfl, rfl, made, same⟩

end PhpDuckdb.Vector
