import PhpDuckdb.Lib.Outcome
import PhpDuckdb.Vector.Data

/-!
# Copies between vectors

`Vector::copyFrom`, `select` and `copySelected`, and the selections that they take. A copy into the
vector it reads goes through a staged one; `copies_read_original` says that each row copied is the
source's as it was before the call.
-/

namespace PhpDuckdb.Vector

open SqlText PhpDuckdb.Value

variable {Cell : Type}

/-! ## Selections -/

/-- `selection_data`: row numbers with their count and the largest of them. -/
structure SelectionData where
  /-- The entries. -/
  selection : Selection
  /-- Their number. -/
  count : UInt64
  /-- The largest, unless there is none. -/
  maxIndex : UInt64
  /-- A PHP array has fewer elements. -/
  small : count.toNat < 2 ^ 32
  /-- No entry is larger. -/
  bound : ∀ position, position < count.toNat → (selection position).toNat ≤ maxIndex.toNat
  /-- Some entry is as large. -/
  reached : 0 < count.toNat →
    ∃ position, position < count.toNat ∧ (selection position).toNat = maxIndex.toNat

/-- `max_selection_index`: the largest row number that a selection can hold. -/
def maxSelectionIndex : Int64 := 4294967294

/-- The integers of a list, references followed. -/
def longs : Elements → List Int64
  | .nil => []
  | .cons _ entry rest => lval entry.deref :: longs rest

/-- The loop that validates the entries of a list of rows. -/
def checkEntries (argument : Nat) : Elements → Except ArgumentError Unit
  | .nil => .ok ()
  | .cons _ entry rest =>
    match entry.deref with
    | .long index =>
      if index < 0 ∨ maxSelectionIndex < index then
        .error (.value argument (lit "must contain only integers between 0 and 4294967294"))
      else checkEntries argument rest
    | _ => .error (.type argument (lit "must contain only integers"))

/-- The loop that writes the entries and finds the largest. -/
def fillEntries : List Int64 → Nat → Selection → UInt64 → Selection × UInt64
  | [], _, out, maxIndex => (out, maxIndex)
  | entry :: rest, position, out, maxIndex =>
    fillEntries rest (position + 1)
      (Function.update out position entry.toUInt64.toUInt32)
      (if maxIndex < entry.toUInt64 then entry.toUInt64 else maxIndex)

/-- The entries before the position stay as they were. -/
theorem fillEntries_before (entries : List Int64) {position earlier : Nat} (out : Selection)
    (maxIndex : UInt64) (before : earlier < position) :
    (fillEntries entries position out maxIndex).1 earlier = out earlier := by
  induction entries generalizing position out maxIndex with
  | nil => rfl
  | cons entry rest ih =>
    rw [fillEntries, ih _ _ (Nat.lt_succ_of_lt before), Function.update_of_ne (Nat.ne_of_lt before)]

/-- Every integer of the list gets its entry. -/
theorem fillEntries_entry (entries : List Int64) (position : Nat) (out : Selection)
    (maxIndex : UInt64) {index : Nat} (inside : index < entries.length) :
    (fillEntries entries position out maxIndex).1 (position + index) =
      entries[index].toUInt64.toUInt32 := by
  induction entries generalizing position out maxIndex index with
  | nil => exact absurd inside (Nat.not_lt_zero _)
  | cons entry rest ih =>
    rw [fillEntries]
    cases index with
    | zero =>
      have kept := fillEntries_before rest (Function.update out position entry.toUInt64.toUInt32)
        (if maxIndex < entry.toUInt64 then entry.toUInt64 else maxIndex) (Nat.lt_add_one position)
      exact kept.trans (Function.update_self ..)
    | succ index =>
      rw [show position + (index + 1) = position + 1 + index by omega,
        ih _ _ _ (Nat.lt_of_succ_lt_succ inside)]
      rfl

/-- The maximum that is kept is the largest entry, or the one from before. -/
theorem fillEntries_max (entries : List Int64) (position : Nat) (out : Selection)
    (maxIndex : UInt64) :
    maxIndex ≤ (fillEntries entries position out maxIndex).2 ∧
      (∀ entry ∈ entries, entry.toUInt64 ≤ (fillEntries entries position out maxIndex).2) ∧
      ((fillEntries entries position out maxIndex).2 = maxIndex ∨
        ∃ entry ∈ entries, entry.toUInt64 = (fillEntries entries position out maxIndex).2) := by
  induction entries generalizing position out maxIndex with
  | nil => exact ⟨UInt64.le_refl _, fun _ never => (List.not_mem_nil never).elim, .inl rfl⟩
  | cons entry rest ih =>
    rw [fillEntries]
    obtain ⟨above, all, attained⟩ := ih (position + 1)
      (Function.update out position entry.toUInt64.toUInt32)
      (if maxIndex < entry.toUInt64 then entry.toUInt64 else maxIndex)
    by_cases larger : maxIndex < entry.toUInt64
    · rw [if_pos larger] at above all attained ⊢
      refine ⟨UInt64.le_trans (UInt64.le_of_lt larger) above, ?_, ?_⟩
      · intro other member
        cases List.mem_cons.mp member with
        | inl here => exact here ▸ above
        | inr further => exact all other further
      · cases attained with
        | inl here => exact .inr ⟨entry, List.mem_cons_self, here.symm⟩
        | inr further =>
          obtain ⟨other, member, same⟩ := further
          exact .inr ⟨other, List.mem_cons_of_mem _ member, same⟩
    · rw [if_neg larger] at above all attained ⊢
      refine ⟨above, ?_, ?_⟩
      · intro other member
        cases List.mem_cons.mp member with
        | inl here =>
          subst here
          exact UInt64.le_trans (UInt64.not_lt.mp larger) above
        | inr further => exact all other further
      · cases attained with
        | inl here => exact .inl here
        | inr further =>
          obtain ⟨other, member, same⟩ := further
          exact .inr ⟨other, List.mem_cons_of_mem _ member, same⟩

/-- The elements and their integers are as many. -/
theorem length_longs : ∀ elements : Elements, (longs elements).length = elements.count
  | .nil => rfl
  | .cons _ _ rest => congrArg Nat.succ (length_longs rest)

/-- A list that passes validation has only row numbers. -/
theorem checkEntries_bounds {argument : Nat} : ∀ {elements : Elements},
    checkEntries argument elements = .ok () →
      ∀ entry ∈ longs elements, 0 ≤ entry.toInt ∧ entry.toInt ≤ 4294967294
  | .nil, _, _, never => (List.not_mem_nil never).elim
  | .cons key item rest, checked, entry, member => by
    rw [checkEntries] at checked
    cases kind : item.deref with
    | long index =>
      rw [kind] at checked
      obtain ⟨inside, further⟩ := Outcome.ite_error_eq_ok.mp checked
      cases List.mem_cons.mp member with
      | inl here =>
        have above := Int64.lt_iff_toInt_lt.not.mp fun negative => inside (.inl negative)
        have below := Int64.lt_iff_toInt_lt.not.mp fun large => inside (.inr large)
        have zero := Int64.toInt_zero
        have largest : maxSelectionIndex.toInt = 4294967294 := by decide
        rw [here, kind, lval]
        omega
      | inr later => exact checkEntries_bounds further entry later
    | _ => rw [kind] at checked; cases checked

/-- An integer that passes validation fits its entry. -/
theorem entry_exact {entry : Int64} (positive : 0 ≤ entry.toInt) (small : entry.toInt ≤ 4294967294) :
    entry.toUInt64.toUInt32.toNat = entry.toUInt64.toNat := by
  have bits := toUInt64_toNat positive
  rw [UInt64.toNat_toUInt32]
  omega

/-- `selection_from_list`; `leftover` is what new memory holds. -/
def selectionFromList (leftover : Selection) (elements : Elements)
    (small : elements.count < 2 ^ 32) (argument : Nat) : Except ArgumentError SelectionData :=
  if elements.isList then
    match checked : checkEntries argument elements with
    | .error rejected => .error rejected
    | .ok () =>
      have count : (UInt64.ofNat elements.count).toNat = (longs elements).length := by
        rw [length_longs, UInt64.toNat_ofNat_of_lt' (by rw [UInt64.size]; omega)]
      have written : ∀ position (inside : position < (longs elements).length),
          ((fillEntries (longs elements) 0 leftover 0).1 position).toNat =
            ((longs elements)[position]).toUInt64.toNat := by
        intro position inside
        have bounds := checkEntries_bounds checked _ (List.getElem_mem inside)
        have entry := fillEntries_entry (longs elements) 0 leftover 0 inside
        rw [Nat.zero_add] at entry
        rw [entry, entry_exact bounds.1 bounds.2]
      .ok {
        selection := (fillEntries (longs elements) 0 leftover 0).1
        count := UInt64.ofNat elements.count
        maxIndex := (fillEntries (longs elements) 0 leftover 0).2
        small := by rw [count, length_longs]; exact small
        bound := by
          intro position inside
          rw [count] at inside
          rw [written position inside]
          exact UInt64.le_iff_toNat_le.mp
            ((fillEntries_max (longs elements) 0 leftover 0).2.1 _ (List.getElem_mem inside))
        reached := by
          intro some_
          rw [count] at some_
          have attained := (fillEntries_max (longs elements) 0 leftover 0).2
          cases attained.2 with
          | inl zero =>
            -- Every integer is at most the start value, so the first one is it.
            have first := attained.1 _ (List.getElem_mem some_)
            have none := UInt64.le_iff_toNat_le.mp first
            refine ⟨0, by rw [count]; exact some_, ?_⟩
            rw [written 0 some_]
            rw [zero, UInt64.toNat_zero] at none ⊢
            omega
          | inr entry =>
            obtain ⟨entry, member, same⟩ := entry
            obtain ⟨position, inside, rfl⟩ := List.getElem_of_mem member
            exact ⟨position, by rw [count]; exact inside, by rw [written position inside, same]⟩ }
  else .error (.value argument (lit "must be a list"))

/-- The argument that names the rows to select, its references followed. -/
inductive SelectionArg
  /-- A `DuckDB\SelectionVector`, without data before its constructor ran. -/
  | selectionVector (data : Option SelectionData)
  /-- An array; PHP counts its elements in 32 bits. -/
  | array (elements : Elements) (small : elements.count < 2 ^ 32)
  /-- Any other value, by its class or type name. -/
  | other (given : Bytes)

/-- `duckdb_selection_from_arg`: the selection of an object or of a list of integers. -/
def duckdbSelectionFromArg (leftover : Selection) (arg : SelectionArg) (argument : Nat) :
    Except ArgumentError SelectionData :=
  match arg with
  | .selectionVector (some data) => .ok data
  | .selectionVector none => .error (.thrown ⟨.error,
      lit "DuckDB\\SelectionVector object is not initialized (its constructor was bypassed)"⟩)
  | .array elements small => selectionFromList leftover elements small argument
  | .other given => .error (.type argument
      (lit "must be of type DuckDB\\SelectionVector|array, " ++ given ++ lit " given"))

/-- `duckdb_selection_check_source`: every row that is selected is a row of the source. -/
def duckdbSelectionCheckSource (selection : SelectionData) (sourceSize : UInt64) (argument : Nat) :
    Except ArgumentError Unit :=
  if selection.count = 0 then .ok ()
  else if sourceSize = 0 then .error (.value argument (lit "must be empty for an empty source"))
  else if sourceSize ≤ selection.maxIndex then
    .error (.value argument (lit "must contain only indices less than " ++
      decimal sourceSize.toNat ++ lit ", " ++ decimal selection.maxIndex.toNat ++ lit " given"))
  else .ok ()

/-! ## Copies -/

/-- `duckdb_vector_copy_rows`; the entries before `sourceOffset` are never written. -/
def duckdbVectorCopyRows (copier : Copier Cell) (leftover : Selection) (memory : Memory Cell)
    (source target : Nat) (sourceOffset count targetOffset : UInt64) : Memory Cell :=
  if count = 0 then memory
  else
    let end_ := sourceOffset + count
    let indices := writeIndices UInt32.ofNat sourceOffset.toNat (end_.toNat - sourceOffset.toNat)
      leftover
    copier.copy memory source target indices end_.toNat sourceOffset.toNat targetOffset.toNat

/-- `duckdb_selection_gather`: copies the selected rows, by way of another vector when source and
target are one. -/
def duckdbSelectionGather (copier : Copier Cell) (leftover : Selection) (memory : Memory Cell)
    (source target : Nat) (selection : SelectionData) (targetOffset : UInt64) : Memory Cell :=
  if selection.count = 0 then memory
  else if source ≠ target then
    copier.copy memory source target selection.selection selection.count.toNat 0 targetOffset.toNat
  else
    let (staged, memory) := memory.create selection.count.toNat
    let memory := copier.copy memory source staged selection.selection selection.count.toNat 0 0
    duckdbVectorCopyRows copier leftover memory staged target 0 selection.count targetOffset

/-- What `Vector::copyFrom` does once it accepts its arguments. Two objects are one exactly when
their native vectors are. -/
def copyRowsBetween (copier : Copier Cell) (leftover : Selection) (memory : Memory Cell)
    (target source : VectorData) (sourceOffset count targetOffset : UInt64) : Memory Cell :=
  if source.vector = target.vector then
    let (staged, memory) := memory.create count.toNat
    let memory := duckdbVectorCopyRows copier leftover memory source.vector staged sourceOffset
      count 0
    duckdbVectorCopyRows copier leftover memory staged target.vector 0 count targetOffset
  else
    duckdbVectorCopyRows copier leftover memory source.vector target.vector sourceOffset count
      targetOffset

/-- `Vector::copyFrom`: copies rows of a vector of the same type after both ranges are checked. -/
def copyFrom (copier : Copier Cell) (leftover : Selection) (memory : Memory Cell)
    (target source : VectorData) (sourceOffset : Int64) (count : Option Int64)
    (targetOffset : Int64) : Except ArgumentError (Memory Cell) := do
  if sourceOffset < 0 ∨ source.capacity < sourceOffset.toUInt64 then
    .error (.value 2 (lit "must be between 0 and " ++ decimal source.capacity.toNat))
  let count := count.getD (source.capacity - sourceOffset.toUInt64).toInt64
  if count < 0 then .error (.value 3 (lit "must be greater than or equal to 0"))
  checkRange source sourceOffset count.toUInt64.toNat 3
  checkRange target targetOffset count.toUInt64.toNat 4
  if duckdbVectorTypesEqual source.type target.type then
    .ok (copyRowsBetween copier leftover memory target source sourceOffset.toUInt64 count.toUInt64
      targetOffset.toUInt64)
  else .error (.types 1 target.type source.type)

/-- What `Vector::select` does once it accepts its selection. -/
def selectRows (copier : Copier Cell) (leftover : Selection) (memory : Memory Cell)
    (source : VectorData) (selection : SelectionData) : VectorData × Memory Cell :=
  let (data, memory) := duckdbVectorAllocate memory source selection.count selection.small
  (data, duckdbSelectionGather copier leftover memory source.vector data.vector selection 0)

/-- `Vector::select`, with the vector that it returns. -/
def select (copier : Copier Cell) (leftover : Selection) (memory : Memory Cell)
    (source : VectorData) (arg : SelectionArg) : Except ArgumentError (VectorData × Memory Cell) := do
  let selection ← duckdbSelectionFromArg leftover arg 1
  duckdbSelectionCheckSource selection source.capacity 1
  .ok (selectRows copier leftover memory source selection)

/-- `Vector::copySelected`: copies the selected rows after the selection and the range are checked.
-/
def copySelected (copier : Copier Cell) (leftover : Selection) (memory : Memory Cell)
    (target source : VectorData) (arg : SelectionArg) (targetOffset : Int64) :
    Except ArgumentError (Memory Cell) := do
  let selection ← duckdbSelectionFromArg leftover arg 2
  duckdbSelectionCheckSource selection source.capacity 2
  checkRange target targetOffset selection.count.toNat 3
  if duckdbVectorTypesEqual source.type target.type then
    .ok (duckdbSelectionGather copier leftover memory source.vector target.vector selection
      targetOffset.toUInt64)
  else .error (.types 1 target.type source.type)

/-! ## What a copy does -/

/-- From one memory to another, rows of the source as they were went to consecutive rows of the
target, and nothing else changed in the vectors in use. -/
structure Copied (memory after : Memory Cell) (source target count : Nat) (row : Nat → Nat)
    (targetOffset : Nat) : Prop where
  /-- The rows that were copied. -/
  copied : ∀ position, position < count →
    after.rows target (targetOffset + position) = memory.rows source (row position)
  /-- The other rows of the target. -/
  rest : ∀ other, other < targetOffset ∨ targetOffset + count ≤ other →
    after.rows target other = memory.rows target other
  /-- The other vectors. -/
  others : ∀ vector, vector < memory.next → vector ≠ target →
    after.rows vector = memory.rows vector
  /-- Vectors keep their size. -/
  capacity : ∀ vector, vector < memory.next → after.capacity vector = memory.capacity vector
  /-- Vectors stay in use. -/
  next : memory.next ≤ after.next

/-- A copy of no rows leaves the memory as it was. -/
theorem Copied.none (memory : Memory Cell) (source target : Nat) (row : Nat → Nat)
    (targetOffset : Nat) : Copied memory memory source target 0 row targetOffset where
  copied _ never := absurd never (Nat.not_lt_zero _)
  rest _ _ := rfl
  others _ _ _ := rfl
  capacity _ _ := rfl
  next := Nat.le_refl _

/-- A native copy between two vectors copies the selected rows. -/
theorem Copier.copied (copier : Copier Cell) (memory : Memory Cell) {source target : Nat}
    (selection : Selection) {count sourceOffset targetOffset : Nat} (distinct : source ≠ target)
    (reads : ∀ entry, sourceOffset ≤ entry → entry < count →
      (selection entry).toNat < memory.capacity source)
    (writes : targetOffset + (count - sourceOffset) ≤ memory.capacity target) :
    Copied memory (copier.copy memory source target selection count sourceOffset targetOffset)
      source target (count - sourceOffset)
      (fun position => (selection (sourceOffset + position)).toNat) targetOffset := by
  rw [copier.distinct memory source target selection count sourceOffset targetOffset distinct reads
    writes]
  constructor
  · intro position inside
    rw [Memory.write_self, copySel_inside _ _ _ inside]
  · intro other outside
    rw [Memory.write_self, copySel_outside _ _ _ outside]
  · intro vector _ different
    exact Memory.write_other memory _ different
  · exact fun _ _ => rfl
  · exact Nat.le_refl _

/-- Consecutive rows are copied from one vector to another. -/
theorem duckdbVectorCopyRows_copied (copier : Copier Cell) (leftover : Selection)
    (memory : Memory Cell) {source target : Nat} {sourceOffset count targetOffset : UInt64}
    (distinct : source ≠ target) (small : memory.capacity source < 2 ^ 32)
    (reads : sourceOffset.toNat + count.toNat ≤ memory.capacity source)
    (writes : targetOffset.toNat + count.toNat ≤ memory.capacity target) :
    Copied memory
      (duckdbVectorCopyRows copier leftover memory source target sourceOffset count targetOffset)
      source target count.toNat (fun position => sourceOffset.toNat + position)
      targetOffset.toNat := by
  rw [duckdbVectorCopyRows]
  by_cases none : count = 0
  · rw [if_pos none, none]
    exact Copied.none memory source target _ _
  · have end_ : (sourceOffset + count).toNat = sourceOffset.toNat + count.toNat := by
      rw [UInt64.toNat_add]
      omega
    have entry : ∀ row, sourceOffset.toNat ≤ row → row < sourceOffset.toNat + count.toNat →
        (writeIndices UInt32.ofNat sourceOffset.toNat
          ((sourceOffset + count).toNat - sourceOffset.toNat) leftover row).toNat = row := by
      intro row first last
      rw [writeIndices_apply, if_pos (by omega)]
      exact toNat_entry (by omega)
    rw [if_neg none]
    dsimp only
    have copy := copier.copied memory (writeIndices UInt32.ofNat sourceOffset.toNat
        ((sourceOffset + count).toNat - sourceOffset.toNat) leftover) distinct
      (fun row first last => by
        rw [entry row first (end_ ▸ last)]
        omega)
      (show targetOffset.toNat + ((sourceOffset + count).toNat - sourceOffset.toNat) ≤ _ by omega)
    rw [show (sourceOffset + count).toNat - sourceOffset.toNat = count.toNat by omega] at copy ⊢
    refine ⟨fun position inside => ?_, copy.rest, copy.others, copy.capacity, copy.next⟩
    rw [copy.copied position inside]
    have same := entry (sourceOffset.toNat + position) (by omega) (by omega)
    rw [show (sourceOffset + count).toNat - sourceOffset.toNat = count.toNat by omega] at same
    rw [same]

/-- Vectors in use keep their size when one is created. -/
theorem Memory.create_capacity (memory : Memory Cell) (size : Nat) {vector : Nat}
    (used : vector < memory.next) : (memory.create size).2.capacity vector = memory.capacity vector :=
  Function.update_of_ne (Nat.ne_of_lt used) ..

/-- A new vector has the size that it is created with. -/
theorem Memory.create_size (memory : Memory Cell) (size : Nat) :
    (memory.create size).2.capacity memory.next = size := Function.update_self ..

/-- A copy into a new vector and from there to the target copies the same rows. -/
theorem Copied.staged {memory filled : Memory Cell} {source target : Nat} {count : UInt64}
    {row : Nat → Nat} {targetOffset : UInt64} (copier : Copier Cell) (leftover : Selection)
    (targetUsed : target < memory.next) (small : count.toNat < 2 ^ 32)
    (writes : targetOffset.toNat + count.toNat ≤ memory.capacity target)
    (first : Copied (memory.create count.toNat).2 filled source (memory.create count.toNat).1
      count.toNat row 0) :
    Copied memory
      (duckdbVectorCopyRows copier leftover filled (memory.create count.toNat).1 target 0 count
        targetOffset) source target count.toNat row targetOffset.toNat := by
  have next : (memory.create count.toNat).2.next = memory.next + 1 := rfl
  have handle : (memory.create count.toNat).1 = memory.next := rfl
  have size := memory.create_size count.toNat
  have grown := first.next
  have stagedSize := first.capacity memory.next (by omega)
  have targetSize := first.capacity target (by omega)
  rw [size] at stagedSize
  rw [memory.create_capacity _ targetUsed] at targetSize
  rw [handle] at first ⊢
  have second : Copied filled
      (duckdbVectorCopyRows copier leftover filled memory.next target 0 count targetOffset)
      memory.next target count.toNat (fun position => (0 : UInt64).toNat + position)
      targetOffset.toNat :=
    duckdbVectorCopyRows_copied copier leftover filled (by omega) (by rw [stagedSize]; exact small)
      (by rw [stagedSize, UInt64.toNat_zero, Nat.zero_add]) (by rw [targetSize]; exact writes)
  constructor
  · intro position inside
    rw [second.copied position inside, UInt64.toNat_zero, first.copied position inside]
    rfl
  · intro other outside
    rw [second.rest other outside, first.others target (by omega) (by omega)]
    rfl
  · intro vector used different
    rw [second.others vector (by omega) different, first.others vector (by omega) (by omega)]
    rfl
  · intro vector used
    rw [second.capacity vector (by omega), first.capacity vector (by omega),
      memory.create_capacity _ used]
  · have further := second.next
    omega

/-- Consecutive rows are copied, also when both vectors are one. -/
theorem copyRowsBetween_copied (copier : Copier Cell) (leftover : Selection)
    {memory : Memory Cell} {target source : VectorData} (targetLives : target.Lives memory)
    (sourceLives : source.Lives memory) {sourceOffset count targetOffset : UInt64}
    (reads : sourceOffset.toNat + count.toNat ≤ source.capacity.toNat)
    (writes : targetOffset.toNat + count.toNat ≤ target.capacity.toNat) :
    Copied memory
      (copyRowsBetween copier leftover memory target source sourceOffset count targetOffset)
      source.vector target.vector count.toNat (fun position => sourceOffset.toNat + position)
      targetOffset.toNat := by
  have sourceSmall := source.small
  have sourceSize := sourceLives.capacity
  have targetSize := targetLives.capacity
  have sourceUsed := sourceLives.used
  rw [copyRowsBetween]
  split
  · have handle : (memory.create count.toNat).1 = memory.next := rfl
    have size := memory.create_capacity count.toNat sourceUsed
    have stage : Copied (memory.create count.toNat).2 _ source.vector (memory.create count.toNat).1
        count.toNat (fun position => sourceOffset.toNat + position) (0 : UInt64).toNat :=
      duckdbVectorCopyRows_copied copier leftover _ (by omega) (by omega) (by omega)
        (by rw [handle, memory.create_size, UInt64.toNat_zero, Nat.zero_add])
    exact Copied.staged copier leftover targetLives.used (by omega)
      (by rw [targetSize]; exact writes) stage
  · rename_i distinct
    exact duckdbVectorCopyRows_copied copier leftover memory distinct (by omega) (by omega)
      (by omega)

/-- Selected rows are gathered, also when both vectors are one. -/
theorem duckdbSelectionGather_copied (copier : Copier Cell) (leftover : Selection)
    (memory : Memory Cell) {source target : Nat} (selection : SelectionData)
    {targetOffset : UInt64} (sourceUsed : source < memory.next) (targetUsed : target < memory.next)
    (reads : ∀ entry, entry < selection.count.toNat →
      (selection.selection entry).toNat < memory.capacity source)
    (writes : targetOffset.toNat + selection.count.toNat ≤ memory.capacity target) :
    Copied memory
      (duckdbSelectionGather copier leftover memory source target selection targetOffset)
      source target selection.count.toNat (fun position => (selection.selection position).toNat)
      targetOffset.toNat := by
  rw [duckdbSelectionGather]
  by_cases none : selection.count = 0
  · rw [if_pos none, none]
    exact Copied.none memory source target _ _
  · rw [if_neg none]
    by_cases distinct : source ≠ target
    · rw [if_pos distinct]
      have copy := copier.copied memory selection.selection distinct
        (fun entry (_ : 0 ≤ entry) inside => reads entry inside)
        (show targetOffset.toNat + (selection.count.toNat - 0) ≤ memory.capacity target from writes)
      simpa only [Nat.zero_add, Nat.sub_zero] using copy
    · rw [if_neg distinct]
      have handle : (memory.create selection.count.toNat).1 = memory.next := rfl
      have stage := copier.copied (memory.create selection.count.toNat).2 selection.selection
        (show source ≠ (memory.create selection.count.toNat).1 by omega)
        (fun entry (_ : 0 ≤ entry) inside => by
          rw [memory.create_capacity _ sourceUsed]
          exact reads entry inside)
        (show 0 + (selection.count.toNat - 0) ≤ _ by
          rw [handle, Nat.zero_add, memory.create_size]
          exact Nat.sub_le _ _)
      simp only [Nat.zero_add, Nat.sub_zero] at stage
      exact Copied.staged copier leftover targetUsed selection.small writes stage

/-! ## What the methods accept -/

/-- Every entry of a list is an integer, its reference followed. -/
def allLongs : Elements → Bool
  | .nil => true
  | .cons _ entry rest =>
    (match entry.deref with
      | .long _ => true
      | _ => false) && allLongs rest

/-- The integers that a selection argument lists. -/
def SelectionArg.indices : SelectionArg → Option (List Int)
  | .selectionVector (some data) =>
    some ((List.range data.count.toNat).map fun position => ((data.selection position).toNat : Int))
  | .array elements _ =>
    if elements.isList && allLongs elements then some ((longs elements).map Int64.toInt) else none
  | _ => none

/-- A list of integers that is rejected has one that is no row number. -/
theorem checkEntries_rejects {argument : Nat} {rejected : ArgumentError} :
    ∀ {elements : Elements}, allLongs elements = true →
      checkEntries argument elements = .error rejected →
      ∃ entry ∈ longs elements, entry.toInt < 0 ∨ 4294967294 < entry.toInt
  | .nil, _, failed => by cases failed
  | .cons key item rest, numbers, failed => by
    rw [allLongs, Bool.and_eq_true] at numbers
    rw [checkEntries] at failed
    cases kind : item.deref with
    | long index =>
      rw [kind] at failed
      by_cases outside : index < 0 ∨ maxSelectionIndex < index
      · refine ⟨index, by rw [longs, kind]; exact List.mem_cons_self, ?_⟩
        exact outside.imp Int64.lt_iff_toInt_lt.mp Int64.lt_iff_toInt_lt.mp
      · dsimp only at failed
        rw [if_neg outside] at failed
        obtain ⟨entry, member, far⟩ := checkEntries_rejects numbers.2 failed
        exact ⟨entry, List.mem_cons_of_mem _ member, far⟩
    | _ => rw [kind] at numbers; exact absurd numbers.1 Bool.false_ne_true

/-- A selection holds exactly the listed rows. -/
structure SelectionData.Lists (selection : SelectionData) (indices : List Int) : Prop where
  /-- As many. -/
  count : selection.count.toNat = indices.length
  /-- In order. -/
  entry : ∀ position (inside : position < indices.length),
    ((selection.selection position).toNat : Int) = indices[position]

/-- An argument that lists integers becomes a selection of them, unless one of them is no row
number. -/
theorem duckdbSelectionFromArg_lists (leftover : Selection) {arg : SelectionArg} (argument : Nat)
    {indices : List Int} (lists : arg.indices = some indices) :
    (∃ selection, duckdbSelectionFromArg leftover arg argument = .ok selection ∧
      selection.Lists indices) ∨
    (∃ rejected, duckdbSelectionFromArg leftover arg argument = .error rejected) ∧
      ∃ index ∈ indices, index < 0 ∨ 4294967294 < index := by
  cases arg with
  | selectionVector data =>
    cases data with
    | none => cases lists
    | some data =>
      obtain rfl := Option.some.inj lists
      refine .inl ⟨data, rfl, by rw [List.length_map, List.length_range], ?_⟩
      intro position inside
      rw [List.getElem_map, List.getElem_range]
  | array elements small =>
    rw [SelectionArg.indices] at lists
    split at lists
    · rename_i numbers
      obtain rfl := Option.some.inj lists
      rw [Bool.and_eq_true] at numbers
      rw [duckdbSelectionFromArg, selectionFromList, if_pos numbers.1]
      split
      · rename_i rejected failed
        obtain ⟨entry, member, far⟩ := checkEntries_rejects numbers.2 failed
        exact .inr ⟨⟨rejected, rfl⟩, entry.toInt, List.mem_map_of_mem member, far⟩
      · rename_i checked
        refine .inl ⟨_, rfl, ?_, ?_⟩
        · rw [List.length_map, length_longs, UInt64.toNat_ofNat_of_lt' (by rw [UInt64.size]; omega)]
        · intro position inside
          rw [List.length_map] at inside
          have bounds := checkEntries_bounds checked _ (List.getElem_mem inside)
          have entry := fillEntries_entry (longs elements) 0 leftover 0 inside
          have bits := toUInt64_toNat bounds.1
          rw [Nat.zero_add] at entry
          dsimp only
          rw [entry, entry_exact bounds.1 bounds.2, List.getElem_map]
          omega
    · cases lists
  | other given => cases lists

/-- A selection is accepted for a source exactly when all its rows are the source's. -/
theorem duckdbSelectionCheckSource_eq_ok {selection : SelectionData} {sourceSize : UInt64}
    {argument : Nat} :
    duckdbSelectionCheckSource selection sourceSize argument = .ok () ↔
      ∀ position, position < selection.count.toNat →
        (selection.selection position).toNat < sourceSize.toNat := by
  rw [duckdbSelectionCheckSource]
  by_cases none : selection.count = 0
  · rw [if_pos none, none]
    exact ⟨fun _ _ never => absurd never (Nat.not_lt_zero _), fun _ => rfl⟩
  · have some_ : 0 < selection.count.toNat := by
      have zero := UInt64.toNat_inj (a := selection.count) (b := 0)
      rw [UInt64.toNat_zero] at zero
      have nonzero := zero.not.mpr none
      omega
    obtain ⟨largest, inside, same⟩ := selection.reached some_
    rw [if_neg none]
    by_cases empty : sourceSize = 0
    · rw [if_pos empty, empty]
      exact ⟨(nomatch ·), fun all => absurd (all largest inside) (Nat.not_lt_zero _)⟩
    · rw [if_neg empty]
      by_cases past : sourceSize ≤ selection.maxIndex
      · have far := UInt64.le_iff_toNat_le.mp past
        rw [if_pos past]
        refine ⟨(nomatch ·), fun all => ?_⟩
        have near := all largest inside
        omega
      · have near := UInt64.le_iff_toNat_le.not.mp past
        rw [if_neg past]
        refine ⟨fun _ position within => ?_, fun _ => rfl⟩
        have bound := selection.bound position within
        omega

/-- The rows of a list of integers. -/
def rowAt (indices : List Int) (position : Nat) : Nat := (indices.getD position 0).toNat

/-- The number of rows that `copyFrom` is asked for. -/
def rowsAsked (source : VectorData) (sourceOffset : Int64) (count : Option Int64) : Int :=
  match count with
  | some count => count.toInt
  | none => source.capacity.toNat - sourceOffset.toInt

/-- A call succeeds exactly when `inside` holds, and then it copies rows. -/
def CopiesExactly (memory : Memory Cell) (result : Except ArgumentError (Memory Cell))
    (inside : Prop) (source target count : Nat) (row : Nat → Nat) (targetOffset : Nat) : Prop :=
  ((∃ after, result = .ok after) ↔ inside) ∧
    ∀ after, result = .ok after → Copied memory after source target count row targetOffset

/-- What is known of a call that either fails outside or succeeds inside. -/
theorem copiesExactly_of {memory : Memory Cell} {result : Except ArgumentError (Memory Cell)}
    {inside : Prop} {source target count : Nat} {row : Nat → Nat} {targetOffset : Nat}
    (fails : ¬inside → ∃ rejected, result = .error rejected)
    (succeeds : inside → ∃ after, result = .ok after ∧
      Copied memory after source target count row targetOffset) :
    CopiesExactly memory result inside source target count row targetOffset := by
  by_cases holds : inside
  · obtain ⟨after, same, copied⟩ := succeeds holds
    refine ⟨⟨fun _ => holds, fun _ => ⟨after, same⟩⟩, fun other also => ?_⟩
    obtain rfl := Except.ok.inj (same.symm.trans also)
    exact copied
  · obtain ⟨rejected, same⟩ := fails holds
    refine ⟨⟨fun ⟨after, accepted⟩ => ?_, fun yes => absurd yes holds⟩, fun after accepted => ?_⟩
    · rw [same] at accepted
      cases accepted
    · rw [same] at accepted
      cases accepted

/-- A small number keeps its value as a signed one. -/
theorem toInt64_toInt {number : UInt64} (small : number.toNat < 2 ^ 63) :
    number.toInt64.toInt = number.toNat := by
  have signed : number.toInt64.toInt = number.toBitVec.toInt := rfl
  have bits : number.toBitVec.toNat = number.toNat := rfl
  rw [signed, BitVec.toInt_eq_toNat_cond]
  split
  · rw [bits]
  · omega

/-- A check passes, or rejects with an error. -/
theorem check_cases (check : Except ArgumentError Unit) :
    check = .ok () ∨ ∃ rejected, check = .error rejected := by
  cases check with
  | ok => exact .inl rfl
  | error rejected => exact .inr ⟨rejected, rfl⟩

/-- `copyFrom` copies when both ranges lie in their vectors. -/
theorem copyFrom_exactly (copier : Copier Cell) (leftover : Selection) {memory : Memory Cell}
    {target source : VectorData} (targetLives : target.Lives memory)
    (sourceLives : source.Lives memory)
    (equal : duckdbVectorTypesEqual source.type target.type = true) (sourceOffset : Int64)
    (count : Option Int64) (targetOffset : Int64) :
    CopiesExactly memory
      (copyFrom copier leftover memory target source sourceOffset count targetOffset)
      (0 ≤ sourceOffset.toInt ∧ 0 ≤ rowsAsked source sourceOffset count ∧
        sourceOffset.toInt + rowsAsked source sourceOffset count ≤ source.capacity.toNat ∧
        0 ≤ targetOffset.toInt ∧
        targetOffset.toInt + rowsAsked source sourceOffset count ≤ target.capacity.toNat)
      source.vector target.vector (rowsAsked source sourceOffset count).toNat
      (fun position => sourceOffset.toInt.toNat + position) targetOffset.toInt.toNat := by
  have zero := Int64.toInt_zero
  have sourceSmall := source.small
  by_cases begins : sourceOffset < 0 ∨ source.capacity < sourceOffset.toUInt64
  · -- The offset is not in the source, so no range from it is.
    refine copiesExactly_of (fun _ => ⟨_, by rw [copyFrom, if_pos begins]; rfl⟩) fun inside => ?_
    cases begins with
    | inl negative =>
      have below := Int64.lt_iff_toInt_lt.mp negative
      omega
    | inr past =>
      have far := UInt64.lt_iff_toNat_lt.mp past
      have bits := toUInt64_toNat inside.1
      omega
  · have first : 0 ≤ sourceOffset.toInt := by
      have above := Int64.lt_iff_toInt_lt.not.mp fun negative => begins (.inl negative)
      omega
    have last := UInt64.lt_iff_toNat_lt.not.mp fun past => begins (.inr past)
    have sourceBits := toUInt64_toNat first
    obtain ⟨asked, same⟩ : ∃ asked : Int64,
        count.getD (source.capacity - sourceOffset.toUInt64).toInt64 = asked := ⟨_, rfl⟩
    have rows : asked.toInt = rowsAsked source sourceOffset count := by
      cases count with
      | some count => rw [← same]; rfl
      | none =>
        have left := UInt64.toNat_sub_of_le source.capacity sourceOffset.toUInt64
          (UInt64.le_iff_toNat_le.mpr (by omega))
        rw [← same, Option.getD_none, toInt64_toInt (by omega), rowsAsked]
        omega
    by_cases negative : asked < 0
    · have below := Int64.lt_iff_toInt_lt.mp negative
      exact copiesExactly_of
        (fun _ => ⟨_, by rw [copyFrom, if_neg begins, same, if_pos negative]; rfl⟩)
        fun inside => by omega
    · have many : 0 ≤ asked.toInt := by
        have above := Int64.lt_iff_toInt_lt.not.mp negative
        omega
      have askedBits := toUInt64_toNat many
      have readable : checkRange source sourceOffset asked.toUInt64.toNat 3 = .ok () ↔ _ :=
        checkRange_eq_ok
      have writable : checkRange target targetOffset asked.toUInt64.toNat 4 = .ok () ↔ _ :=
        checkRange_eq_ok
      have begun : copyFrom copier leftover memory target source sourceOffset count targetOffset =
          (do
            checkRange source sourceOffset asked.toUInt64.toNat 3
            checkRange target targetOffset asked.toUInt64.toNat 4
            .ok (copyRowsBetween copier leftover memory target source sourceOffset.toUInt64
              asked.toUInt64 targetOffset.toUInt64)) := by
        rw [copyFrom, if_neg begins, same, if_neg negative, if_pos equal]
      rw [begun]
      cases check_cases (checkRange source sourceOffset asked.toUInt64.toNat 3) with
      | inr failed =>
        obtain ⟨rejected, failed⟩ := failed
        refine copiesExactly_of (fun _ => ⟨rejected, by rw [failed]; rfl⟩) fun inside => ?_
        rw [readable.mpr (by omega)] at failed
        cases failed
      | inl sourceFits =>
        rw [sourceFits]
        cases check_cases (checkRange target targetOffset asked.toUInt64.toNat 4) with
        | inr failed =>
          obtain ⟨rejected, failed⟩ := failed
          refine copiesExactly_of (fun _ => ⟨rejected, by rw [failed]; rfl⟩) fun inside => ?_
          rw [writable.mpr (by omega)] at failed
          cases failed
        | inl targetFits =>
          have reads := readable.mp sourceFits
          have writes := writable.mp targetFits
          have targetBits := toUInt64_toNat writes.1
          rw [targetFits]
          refine copiesExactly_of (fun outside => absurd ?_ outside) fun _ => ⟨_, rfl, ?_⟩
          · omega
          · have copied : Copied memory (copyRowsBetween copier leftover memory target source
                sourceOffset.toUInt64 asked.toUInt64 targetOffset.toUInt64) _ _ _ _ _ :=
              copyRowsBetween_copied copier leftover targetLives sourceLives (by omega) (by omega)
            rwa [show asked.toUInt64.toNat = (rowsAsked source sourceOffset count).toNat by omega,
              show sourceOffset.toUInt64.toNat = sourceOffset.toInt.toNat by omega,
              show targetOffset.toUInt64.toNat = targetOffset.toInt.toNat by omega] at copied

/-- Gathering by a selection that lists integers copies those rows. -/
theorem gather_lists (copier : Copier Cell) (leftover : Selection) {memory : Memory Cell}
    {source target : Nat} {selection : SelectionData} {indices : List Int}
    (lists : selection.Lists indices) {targetOffset : UInt64} (sourceUsed : source < memory.next)
    (targetUsed : target < memory.next)
    (reads : ∀ index ∈ indices, index < memory.capacity source)
    (writes : targetOffset.toNat + indices.length ≤ memory.capacity target) :
    Copied memory
      (duckdbSelectionGather copier leftover memory source target selection targetOffset)
      source target indices.length (rowAt indices) targetOffset.toNat := by
  have count := lists.count
  have gathered := duckdbSelectionGather_copied copier leftover memory selection sourceUsed
    targetUsed
    (fun entry inside => by
      have listed := lists.entry entry (count ▸ inside)
      have small := reads _ (List.getElem_mem (count ▸ inside))
      omega)
    (show targetOffset.toNat + selection.count.toNat ≤ _ by omega)
  rw [count] at gathered
  refine ⟨fun position inside => ?_, gathered.rest, gathered.others, gathered.capacity,
    gathered.next⟩
  have listed := lists.entry position inside
  rw [gathered.copied position inside, rowAt, List.getD_eq_getElem?_getD,
    List.getElem?_eq_getElem inside, Option.getD_some, ← listed, Int.toNat_natCast]

/-- The rows that a selection lists are the source's when the source accepts it. -/
theorem check_lists {selection : SelectionData} {indices : List Int}
    (lists : selection.Lists indices) {sourceSize : UInt64} {argument : Nat} :
    duckdbSelectionCheckSource selection sourceSize argument = .ok () ↔
      ∀ index ∈ indices, 0 ≤ index ∧ index < sourceSize.toNat := by
  rw [duckdbSelectionCheckSource_eq_ok]
  constructor
  · intro all index member
    obtain ⟨position, inside, rfl⟩ := List.getElem_of_mem member
    have listed := lists.entry position inside
    have bound := all position (lists.count ▸ inside)
    omega
  · intro all position inside
    have within : position < indices.length := lists.count ▸ inside
    have listed := lists.entry position within
    have bound := all _ (List.getElem_mem within)
    omega

/-- `copySelected` copies when the rows are the source's and the range is the target's. -/
theorem copySelected_exactly (copier : Copier Cell) (leftover : Selection) {memory : Memory Cell}
    {target source : VectorData} (targetLives : target.Lives memory)
    (sourceLives : source.Lives memory)
    (equal : duckdbVectorTypesEqual source.type target.type = true) {arg : SelectionArg}
    {indices : List Int} (lists : arg.indices = some indices) (targetOffset : Int64) :
    CopiesExactly memory (copySelected copier leftover memory target source arg targetOffset)
      ((∀ index ∈ indices, 0 ≤ index ∧ index < source.capacity.toNat) ∧ 0 ≤ targetOffset.toInt ∧
        targetOffset.toInt + indices.length ≤ target.capacity.toNat)
      source.vector target.vector indices.length (rowAt indices) targetOffset.toInt.toNat := by
  have small := source.small
  rw [copySelected]
  simp only [if_pos equal]
  cases duckdbSelectionFromArg_lists leftover 2 lists with
  | inr refused =>
    obtain ⟨⟨rejected, failed⟩, index, member, far⟩ := refused
    rw [failed]
    refine copiesExactly_of (fun _ => ⟨rejected, rfl⟩) fun inside => ?_
    have bound := inside.1 index member
    omega
  | inl made =>
    obtain ⟨selection, made, lists⟩ := made
    rw [made]
    have readable : duckdbSelectionCheckSource selection source.capacity 2 = .ok () ↔ _ :=
      check_lists lists
    have writable : checkRange target targetOffset selection.count.toNat 3 = .ok () ↔ _ :=
      checkRange_eq_ok
    have count := lists.count
    have targetSize := targetLives.capacity
    have sourceSize := sourceLives.capacity
    show CopiesExactly memory (duckdbSelectionCheckSource selection source.capacity 2 >>= fun _ =>
      checkRange target targetOffset selection.count.toNat 3 >>= fun _ =>
        .ok (duckdbSelectionGather copier leftover memory source.vector target.vector selection
          targetOffset.toUInt64)) _ _ _ _ _ _
    cases check_cases (duckdbSelectionCheckSource selection source.capacity 2) with
    | inr failed =>
      obtain ⟨rejected, failed⟩ := failed
      refine copiesExactly_of (fun _ => ⟨rejected, by rw [failed]; rfl⟩) fun inside => ?_
      rw [readable.mpr inside.1] at failed
      cases failed
    | inl rowsFit =>
      rw [rowsFit]
      cases check_cases (checkRange target targetOffset selection.count.toNat 3) with
      | inr failed =>
        obtain ⟨rejected, failed⟩ := failed
        refine copiesExactly_of (fun _ => ⟨rejected, by rw [failed]; rfl⟩) fun inside => ?_
        rw [writable.mpr (by omega)] at failed
        cases failed
      | inl rangeFits =>
        have reads := readable.mp rowsFit
        have writes := writable.mp rangeFits
        have targetBits := toUInt64_toNat writes.1
        rw [rangeFits]
        refine copiesExactly_of (fun outside => absurd ⟨reads, by omega⟩ outside)
          fun _ => ⟨_, rfl, ?_⟩
        rw [show targetOffset.toInt.toNat = targetOffset.toUInt64.toNat by omega]
        exact gather_lists copier leftover lists sourceLives.used targetLives.used
          (fun index member => by rw [sourceSize]; exact (reads index member).2) (by omega)

/-- `select` makes a vector when the rows are the source's. -/
theorem select_exactly (copier : Copier Cell) (leftover : Selection) {memory : Memory Cell}
    {source : VectorData} (sourceLives : source.Lives memory) {arg : SelectionArg}
    {indices : List Int} (lists : arg.indices = some indices) :
    ((∃ made, select copier leftover memory source arg = .ok made) ↔
        ∀ index ∈ indices, 0 ≤ index ∧ index < source.capacity.toNat) ∧
      ∀ data after, select copier leftover memory source arg = .ok (data, after) →
        data.vector = memory.next ∧ data.type = source.type ∧
          data.capacity.toNat = indices.length ∧ data.Lives after ∧
            Copied memory after source.vector data.vector indices.length (rowAt indices) 0 := by
  have small := source.small
  rw [select]
  cases duckdbSelectionFromArg_lists leftover 1 lists with
  | inr refused =>
    obtain ⟨⟨rejected, failed⟩, index, member, far⟩ := refused
    rw [failed]
    refine ⟨⟨fun ⟨made, accepted⟩ => (nomatch accepted), fun inside => ?_⟩,
      fun data after accepted => nomatch accepted⟩
    have bound := inside index member
    omega
  | inl made =>
    obtain ⟨selection, made, lists⟩ := made
    rw [made]
    have readable : duckdbSelectionCheckSource selection source.capacity 1 = .ok () ↔ _ :=
      check_lists lists
    have count := lists.count
    show ((∃ made, (duckdbSelectionCheckSource selection source.capacity 1 >>= fun _ => .ok
      (selectRows copier leftover memory source selection)) = .ok made) ↔ _) ∧ ∀ data after,
        (duckdbSelectionCheckSource selection source.capacity 1 >>= fun _ => .ok
          (selectRows copier leftover memory source selection)) = .ok (data, after) → _
    cases check_cases (duckdbSelectionCheckSource selection source.capacity 1) with
    | inr failed =>
      obtain ⟨rejected, failed⟩ := failed
      rw [failed]
      refine ⟨⟨fun ⟨made, accepted⟩ => (nomatch accepted), fun inside => ?_⟩,
        fun data after accepted => nomatch accepted⟩
      rw [readable.mpr inside] at failed
      cases failed
    | inl rowsFit =>
      have reads := readable.mp rowsFit
      rw [rowsFit]
      refine ⟨⟨fun _ => reads, fun _ => ⟨_, rfl⟩⟩, fun data after accepted => ?_⟩
      have same : selectRows copier leftover memory source selection = (data, after) :=
        Except.ok.inj accepted
      obtain ⟨rfl, rfl⟩ := Prod.mk.inj same
      have made := duckdbVectorAllocate_lives memory source selection.count selection.small
      have source' := sourceLives.allocate source selection.count selection.small
      have sourceSize := source'.capacity
      have madeSize := made.capacity
      have gathered : Copied _ _ _ _ _ _ (0 : UInt64).toNat :=
        gather_lists copier leftover lists source'.used made.used
          (fun index member => by rw [sourceSize]; exact (reads index member).2)
          (by rw [madeSize, UInt64.toNat_zero]; exact Nat.le_of_eq (by rw [Nat.zero_add, ← count]; rfl))
      have grown : memory.next + 1 ≤ _ := gathered.next
      refine ⟨rfl, rfl, count, ⟨grown, ?_⟩, gathered.copied, gathered.rest, ?_, ?_,
        Nat.le_of_succ_le grown⟩
      · exact (gathered.capacity _ made.used).trans madeSize
      · exact fun vector used different => gathered.others vector (Nat.lt_succ_of_lt used) different
      · intro vector used
        exact (gathered.capacity vector (Nat.lt_succ_of_lt used)).trans
          (memory.create_capacity _ used)

/-- `copyFrom`, `select` and `copySelected` accept exactly the arguments whose ranges and rows lie
inside the vectors, and then copy the source's rows as they were, also within one vector. -/
theorem copies_read_original (copier : Copier Cell) (leftover : Selection) {memory : Memory Cell}
    {target source : VectorData} (targetLives : target.Lives memory)
    (sourceLives : source.Lives memory)
    (equal : duckdbVectorTypesEqual source.type target.type = true) :
    (∀ (sourceOffset : Int64) (count : Option Int64) (targetOffset : Int64),
      CopiesExactly memory
        (copyFrom copier leftover memory target source sourceOffset count targetOffset)
        (0 ≤ sourceOffset.toInt ∧ 0 ≤ rowsAsked source sourceOffset count ∧
          sourceOffset.toInt + rowsAsked source sourceOffset count ≤ source.capacity.toNat ∧
          0 ≤ targetOffset.toInt ∧
          targetOffset.toInt + rowsAsked source sourceOffset count ≤ target.capacity.toNat)
        source.vector target.vector (rowsAsked source sourceOffset count).toNat
        (fun position => sourceOffset.toInt.toNat + position) targetOffset.toInt.toNat) ∧
    (∀ (arg : SelectionArg) (indices : List Int), arg.indices = some indices →
      ((∃ made, select copier leftover memory source arg = .ok made) ↔
          ∀ index ∈ indices, 0 ≤ index ∧ index < source.capacity.toNat) ∧
        ∀ data after, select copier leftover memory source arg = .ok (data, after) →
          data.vector = memory.next ∧ data.type = source.type ∧
            data.capacity.toNat = indices.length ∧ data.Lives after ∧
              Copied memory after source.vector data.vector indices.length (rowAt indices) 0) ∧
    ∀ (arg : SelectionArg) (indices : List Int) (targetOffset : Int64),
      arg.indices = some indices →
      CopiesExactly memory (copySelected copier leftover memory target source arg targetOffset)
        ((∀ index ∈ indices, 0 ≤ index ∧ index < source.capacity.toNat) ∧ 0 ≤ targetOffset.toInt ∧
          targetOffset.toInt + indices.length ≤ target.capacity.toNat)
        source.vector target.vector indices.length (rowAt indices) targetOffset.toInt.toNat :=
  ⟨fun sourceOffset count targetOffset => copyFrom_exactly copier leftover targetLives sourceLives
      equal sourceOffset count targetOffset,
    fun _ _ lists => select_exactly copier leftover sourceLives lists,
    fun _ _ targetOffset lists => copySelected_exactly copier leftover targetLives sourceLives equal
      lists targetOffset⟩

/-- A vector with room for four integers. -/
def fourIntegers : VectorData :=
  ⟨0, plainType .integer, lit "INTEGER", 4, .int32, by decide, rfl, rfl⟩

/-- A memory whose only vector holds its row numbers. -/
def rowNumbers : Memory Nat := ⟨fun _ row => row, fun _ => 4, 1⟩

/-- The vector of four integers lives in the memory of row numbers. -/
theorem fourIntegers_lives : fourIntegers.Lives rowNumbers := ⟨by decide, rfl⟩

/-- The copy of the first three rows onto the rows behind them reads the original rows. -/
theorem copies_read_original_overlapping : ∃ after,
    copyFrom Copier.plain (fun _ => 0) rowNumbers fourIntegers fourIntegers 0 (some 3) 1 =
        .ok after ∧
      Copied rowNumbers after 0 0 3 (fun position => 0 + position) 1 := by
  have copies := (copies_read_original Copier.plain (fun _ => 0) fourIntegers_lives
    fourIntegers_lives rfl).1 0 (some 3) 1
  obtain ⟨after, accepted⟩ := copies.1.mpr (by decide)
  exact ⟨after, accepted, copies.2 after accepted⟩

/-- The rows that a copy reads and writes are inside the vectors. -/
def RowsInside (source target : VectorData) (sourceOffset rows targetOffset : Int) : Prop :=
  ∀ position : Nat, (position : Int) < rows →
    (0 ≤ sourceOffset + position ∧ sourceOffset + position < source.capacity.toNat) ∧
      0 ≤ targetOffset + position ∧ targetOffset + position < target.capacity.toNat

/-- A copy of no rows is rejected all the same when its offset is past the end. -/
theorem emptyCopy_rejected :
    ¬((∃ after, copyFrom Copier.plain (fun _ => 0) rowNumbers fourIntegers fourIntegers 0 (some 0) 5 =
        .ok after) ↔ RowsInside fourIntegers fourIntegers 0 0 5) := by
  intro exactly_
  have accepted := exactly_.mpr fun position less => absurd less (by omega)
  have inside := (copyFrom_exactly Copier.plain (fun _ => 0) fourIntegers_lives fourIntegers_lives
    rfl 0 (some 0) 5).1.mp accepted
  exact absurd inside (by decide)

end PhpDuckdb.Vector
