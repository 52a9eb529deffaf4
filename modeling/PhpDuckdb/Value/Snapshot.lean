import PhpDuckdb.Value.Conversion
import PhpDuckdb.Value.Graph
import PhpDuckdb.Value.IntervalText

/-!
# Snapshots

A `DuckDB\Value` keeps a copy of its input: arrays are copied with everything in them, mutable
objects are replaced, and references are followed. The tables on the path to a value are remembered,
so that an array inside itself is found while shared arrays are copied twice. `snapshot_deep` says
for which inputs there is a copy, and what it is.
-/

namespace PhpDuckdb.ValueGraph

open SqlText Value

variable (graph : ValueGraph)

/-- `array_init_size`: a graph with one more table, which is empty. -/
def arrayInit : ValueGraph := { graph with tables := graph.tables ++ [[]] }

/-- `zend_hash_add_new` and `zend_hash_index_add_new`: an entry behind those of a table. -/
def addNew (address : Nat) (key : Key) (item : Cell) : ValueGraph :=
  { graph with tables := graph.tables.modify address (· ++ [(key, item)]) }

/-- `object_init_ex`, and what is stored in the object. -/
def objectInit (made : Object) : ValueGraph := { graph with objects := graph.objects ++ [made] }

/-- The value is a scalar, which is its own copy. -/
def Cell.isScalar : Cell → Bool
  | .null => true
  | .bool _ => true
  | .long _ => true
  | .double _ => true
  | .string _ => true
  | _ => false

/-- An object is initialized, and its class is one that `snapshot` knows. -/
def Object.copies : Object → Bool
  | .value content => content.isSome
  | .interval _ _ _ => true
  | .date _ time => time.isSome
  | .other _ => false

/-- A value of the input at its depth, looked at through its reference. -/
inductive At (root : Cell) : Nat → Cell → Prop
  | root : At root 0 (graph.deref root)
  | element {depth address : Nat} {key : Key} {item : Cell} (array : At root depth (.array address))
      (member : (key, item) ∈ graph.table address) : At root (depth + 1) (graph.deref item)

/-- What `snapshot` takes: no resource, no unsupported object and no loop. -/
structure Snapshottable (input : Cell) : Prop where
  /-- No array contains itself. -/
  acyclic : ∀ address, Relation.ReflTransGen graph.Follows input (.array address) →
    ¬ Relation.TransGen graph.Follows (.array address) (.array address)
  /-- Every value is at depth 64 at most. -/
  shallow : ∀ depth node, graph.At input depth node → depth ≤ 64
  /-- There is no resource. -/
  resources : ¬ Relation.ReflTransGen graph.Follows input .resource
  /-- Every object is an initialized one of a known class. -/
  objects : ∀ handle, Relation.ReflTransGen graph.Follows input (.object handle) →
    (graph.object handle).copies = true

/-! ## Depths -/

variable {graph}

/-- Without elements a value is all there is at its depths. -/
theorem At.cases_leaf {root : Cell} {depth : Nat} {node : Cell}
    (leaf : ∀ address, graph.deref root ≠ .array address) (there : graph.At root depth node) :
    depth = 0 ∧ node = graph.deref root := by
  induction there with
  | root => exact ⟨rfl, rfl⟩
  | element _ _ ih => exact absurd ih.2.symm (leaf _)

/-- The values at the depths of an array are itself and those of its elements. -/
theorem At.cases_array {root : Cell} {address depth : Nat} {node : Cell}
    (isArray : graph.deref root = .array address) (there : graph.At root depth node) :
    (depth = 0 ∧ node = .array address) ∨ ∃ entry ∈ graph.table address, ∃ less,
      depth = less + 1 ∧ graph.At entry.2 less node := by
  induction there with
  | root => exact .inl ⟨rfl, isArray⟩
  | @element depth inside key item array member ih =>
    refine .inr ?_
    cases ih with
    | inl top =>
      obtain ⟨rfl, same⟩ := top
      obtain rfl := Cell.array.inj same
      exact ⟨(key, item), member, 0, rfl, .root⟩
    | inr deeper =>
      obtain ⟨entry, among, less, rfl, there⟩ := deeper
      exact ⟨entry, among, less + 1, rfl, .element there member⟩

/-- The values of an element are one deeper in the array. -/
theorem At.lift {root : Cell} {address : Nat} (isArray : graph.deref root = .array address)
    {entry : Key × Cell} (member : entry ∈ graph.table address) {depth : Nat} {node : Cell}
    (there : graph.At entry.2 depth node) : graph.At root (depth + 1) node := by
  induction there with
  | root =>
    have top : graph.At root 0 (.array address) := isArray ▸ .root
    exact .element top member
  | element _ inside ih => exact .element ih inside

/-- What a value leads to is deeper, unless it is behind a reference. -/
theorem At.follow {root cell next : Cell} {depth : Nat}
    (there : graph.At root depth (graph.deref cell)) (step : graph.Follows cell next) :
    ∃ deeper, depth ≤ deeper ∧ (cell.isReference = false → depth < deeper) ∧
      graph.At root deeper (graph.deref next) := by
  cases step with
  | target address =>
    refine ⟨depth, Nat.le_refl depth, nofun, ?_⟩
    rw [graph.deref_direct (graph.target_flat address)]
    exact there
  | element member =>
    exact ⟨depth + 1, Nat.le_succ depth, fun _ => Nat.lt_succ_self depth, .element there member⟩

/-- What is reached is at some depth. -/
theorem at_of_reaches {root node : Cell} (reaches : Relation.ReflTransGen graph.Follows root node) :
    ∃ depth, graph.At root depth (graph.deref node) := by
  induction reaches with
  | refl => exact ⟨0, .root⟩
  | tail _ step ih =>
    obtain ⟨depth, there⟩ := ih
    obtain ⟨deeper, -, -, further⟩ := there.follow step
    exact ⟨deeper, further⟩

/-- What an array reaches is nested deeper than the array. -/
theorem At.deeper {root node : Cell} {depth address : Nat}
    (there : graph.At root depth (.array address))
    (reaches : Relation.TransGen graph.Follows (.array address) node) :
    ∃ deeper, depth < deeper ∧ graph.At root deeper (graph.deref node) := by
  induction reaches with
  | single step =>
    have top : graph.At root depth (graph.deref (.array address)) := there
    obtain ⟨deeper, -, more, further⟩ := top.follow step
    exact ⟨deeper, more rfl, further⟩
  | tail _ step ih =>
    obtain ⟨less, more, further⟩ := ih
    obtain ⟨deeper, least, -, last⟩ := further.follow step
    exact ⟨deeper, Nat.lt_of_lt_of_le more least, last⟩

/-- An array inside itself is at every depth. -/
theorem At.unbounded {root : Cell} {depth address : Nat}
    (there : graph.At root depth (.array address))
    (itself : Relation.TransGen graph.Follows (.array address) (.array address)) (bound : Nat) :
    ∃ deeper, bound ≤ deeper ∧ graph.At root deeper (.array address) := by
  induction bound with
  | zero => exact ⟨depth, Nat.zero_le depth, there⟩
  | succ bound ih =>
    obtain ⟨less, reached, further⟩ := ih
    obtain ⟨deeper, more, last⟩ := further.deeper itself
    exact ⟨deeper, Nat.lt_of_le_of_lt reached more, last⟩

end PhpDuckdb.ValueGraph

namespace PhpDuckdb.Snapshot

open SqlText Value ValueGraph

/-! ## The copy -/

/-- `php_date_initialize` of a new DateTimeImmutable with the format `U.u`: epoch seconds and
microseconds, unless it fails. -/
abbrev DateParser := Bytes → Option (Int64 × Int64)

/-- `%lld.%06lld`: the seconds and the microseconds that the copy of a date is parsed from. -/
def epochText (time : Int64 × Int64) : Bytes :=
  signedDecimal time.1.toInt ++ 46 :: zeroPadded 6 time.2.toInt

/-- The error of an array inside itself. -/
def cyclicInput : Thrown := valueError "Cyclic Value input"

/-- The part of `snapshot` about objects. -/
def snapshotObject (parse : DateParser) (source : ValueGraph) (handle : Nat) (graph : ValueGraph) :
    Except Thrown (Cell × ValueGraph) :=
  match source.object handle with
  | .value none => .error (typeError "Cannot snapshot an uninitialized DuckDB\\Value object")
  | .value (some _) => .ok (.object handle, graph)
  | .interval months days micros =>
    .ok (.object graph.objects.length, graph.objectInit (.interval months days micros))
  | .date _ none => .error (typeError "Cannot snapshot an uninitialized DateTime object")
  | .date _ (some time) =>
    match parse (epochText time) with
    | none => .error (typeError "Cannot snapshot DateTime input")
    | some parsed =>
      .ok (.object graph.objects.length, graph.objectInit (.date true (some parsed)))
  | .other className =>
    .error ⟨.typeError, lit "Unsupported object in DuckDB\\Value: " ++ className⟩

/-- The values in memory, and the tables on the path to the value that is copied. -/
structure State where
  /-- The values. -/
  graph : ValueGraph
  /-- `seen`. -/
  seen : Finset Nat

/-- The loop of `snapshot` over the elements of an array. -/
def snapshotElements (snapshot : Cell → State → Except Thrown Cell × State) (dst : Nat) :
    List (Key × Cell) → State → Except Thrown Unit × State
  | [], state => (.ok (), state)
  | (key, item) :: rest, state =>
    match snapshot item state with
    | (.error thrown, left) => (.error thrown, left)
    | (.ok copy, left) =>
      snapshotElements snapshot dst rest { left with graph := left.graph.addNew dst key copy }

/-- `snapshot` of values in `source`, which do not change meanwhile. `room` is how many levels of
nesting are left, 65 at depth 0. -/
def snapshot (parse : DateParser) (source : ValueGraph) : Nat → Cell → State → Except Thrown Cell × State
  | 0, _, state => (.error (valueError "Value exceeds nesting limit"), state)
  | room + 1, src, state =>
    match source.deref src with
    | .array address =>
      if address ∈ state.seen then (.error cyclicInput, state)
      else
        let dst := state.graph.tables.length
        let entered := ⟨state.graph.arrayInit, insert address state.seen⟩
        match snapshotElements (snapshot parse source room) dst (source.table address) entered with
        -- the copy is destroyed with all that was made for it
        | (.error thrown, left) => (.error thrown, ⟨state.graph, left.seen.erase address⟩)
        | (.ok (), left) => (.ok (.array dst), { left with seen := left.seen.erase address })
    | .object handle =>
      match snapshotObject parse source handle state.graph with
      | .error thrown => (.error thrown, state)
      | .ok (copy, graph) => (.ok copy, { state with graph })
    | .resource => (.error (typeError "Unsupported resource in DuckDB\\Value"), state)
    | scalar => (.ok scalar, state)

/-- The canonical type and the copy of the input that a `DuckDB\Value` holds. -/
abbrev Content := Option (CanonicalType × Cell)

/-- What the canonicalization of a declaration gives is canonical. -/
theorem canonicalized {type text : Bytes}
    (canonical : Types.duckdbCanonicalizeType type = .ok text) :
    ∃ declaration, Types.duckdbCanonicalizeType declaration = .ok text := ⟨type, canonical⟩

/-- `duckdb_value_initialize`: what is thrown, the Value afterwards and the values in memory. A
failed copy leaves no input in the Value. -/
def duckdbValueInitialize (parse : DateParser) (graph : ValueGraph) (content : Content)
    (type : Bytes) (input : Cell) : Option Thrown × Content × ValueGraph :=
  match content with
  | some held => (some ⟨.error, lit "DuckDB\\Value is immutable"⟩, some held, graph)
  | none =>
    match canonical : Types.duckdbCanonicalizeType type with
    | .ok text =>
      match snapshot parse graph 65 input ⟨graph, ∅⟩ with
      | (.error thrown, left) => (some thrown, none, left.graph)
      | (.ok copy, left) => (none, some (⟨text, canonicalized canonical⟩, copy), left.graph)
    | .error what => (some (valueError what), none, graph)

/-! ## What is copied -/

mutual

/-- A value of `later` is a copy of a value of `source`: it has the same scalars, keys and order, all
its arrays and objects are new, except the immutable ones, and it has no references. -/
inductive Copied (parse : DateParser) (source later : ValueGraph) : Cell → Cell → Prop
  | scalar {src : Cell} (isScalar : (source.deref src).isScalar = true) :
      Copied parse source later src (source.deref src)
  | array {src : Cell} {address made : Nat} (isArray : source.deref src = .array address)
      (fresh : source.tables.length ≤ made)
      (entries : CopiedEntries parse source later (source.table address) (later.table made)) :
      Copied parse source later src (.array made)
  | value {src : Cell} {handle : Nat} {held : CanonicalType × Cell}
      (isObject : source.deref src = .object handle)
      (found : source.object handle = .value (some held)) :
      Copied parse source later src (.object handle)
  | interval {src : Cell} {handle made : Nat} {months days : Int32} {micros : Int64}
      (isObject : source.deref src = .object handle)
      (found : source.object handle = .interval months days micros)
      (fresh : source.objects.length ≤ made)
      (copy : later.object made = .interval months days micros) :
      Copied parse source later src (.object made)
  | date {src : Cell} {handle made : Nat} {immutable : Bool} {time parsed : Int64 × Int64}
      (isObject : source.deref src = .object handle)
      (found : source.object handle = .date immutable (some time))
      (reads : parse (epochText time) = some parsed) (fresh : source.objects.length ≤ made)
      (copy : later.object made = .date true (some parsed)) :
      Copied parse source later src (.object made)

/-- Entries with copied values under the same keys in the same order. -/
inductive CopiedEntries (parse : DateParser) (source later : ValueGraph) :
    List (Key × Cell) → List (Key × Cell) → Prop
  | nil : CopiedEntries parse source later [] []
  | cons {key : Key} {item copy : Cell} {rest others : List (Key × Cell)}
      (head : Copied parse source later item copy)
      (more : CopiedEntries parse source later rest others) :
      CopiedEntries parse source later ((key, item) :: rest) ((key, copy) :: others)

end

/-- The tables and objects of one graph are those of another. -/
structure Kept (before after : ValueGraph) : Prop where
  /-- There are as many tables or more. -/
  moreTables : before.tables.length ≤ after.tables.length
  /-- There are as many objects or more. -/
  moreObjects : before.objects.length ≤ after.objects.length
  /-- The tables are the same. -/
  tables : ∀ address < before.tables.length, after.table address = before.table address
  /-- The objects are the same. -/
  objects : ∀ handle < before.objects.length, after.object handle = before.object handle

/-- A graph still has the tables and objects that another got after a third. -/
structure Agree (before after later : ValueGraph) : Prop where
  /-- The tables are there. -/
  tables : ∀ address, before.tables.length ≤ address → address < after.tables.length →
    later.table address = after.table address
  /-- The objects are there. -/
  objects : ∀ handle, before.objects.length ≤ handle → handle < after.objects.length →
    later.object handle = after.object handle

/-- Nothing in a value stops its copy. -/
structure Fits (source : ValueGraph) (room : Nat) (seen : Finset Nat) (src : Cell) : Prop where
  /-- There is room for it. -/
  shallow : ∀ depth node, source.At src depth node → depth < room
  /-- Its arrays are not on the path to it. -/
  unseen : ∀ depth address, source.At src depth (.array address) → address ∉ seen
  /-- It has no resource. -/
  resources : ∀ depth, ¬ source.At src depth .resource
  /-- Its objects can be copied. -/
  objects : ∀ depth handle, source.At src depth (.object handle) →
    (source.object handle).copies = true

/-- What stops the copy of a value, with the exception it throws. -/
inductive Fails (parse : DateParser) (source : ValueGraph) :
    Nat → Finset Nat → Cell → Thrown → Prop
  | deep {seen : Finset Nat} {src : Cell} :
      Fails parse source 0 seen src (valueError "Value exceeds nesting limit")
  | cyclic {room address : Nat} {seen : Finset Nat} {src : Cell}
      (isArray : source.deref src = .array address) (old : address ∈ seen) :
      Fails parse source (room + 1) seen src cyclicInput
  | element {room address : Nat} {seen : Finset Nat} {src : Cell} {entry : Key × Cell}
      {thrown : Thrown} (isArray : source.deref src = .array address)
      (member : entry ∈ source.table address)
      (fails : Fails parse source room (insert address seen) entry.2 thrown) :
      Fails parse source (room + 1) seen src thrown
  | object {room handle : Nat} {seen : Finset Nat} {src : Cell} {thrown : Thrown}
      (isObject : source.deref src = .object handle)
      (refused : (source.object handle).copies = false ∨ ∃ time, parse (epochText time) = none)
      (class_ : thrown.class_ = .typeError) : Fails parse source (room + 1) seen src thrown
  | resource {room : Nat} {seen : Finset Nat} {src : Cell}
      (isResource : source.deref src = .resource) :
      Fails parse source (room + 1) seen src (typeError "Unsupported resource in DuckDB\\Value")

/-- What a copy that succeeds has done. -/
structure Made (parse : DateParser) (source : ValueGraph) (room : Nat) (src : Cell)
    (before : State) (copy : Cell) (after : State) : Prop where
  /-- The path is the same again. -/
  seen : after.seen = before.seen
  /-- Nothing that was there is different. -/
  kept : Kept before.graph after.graph
  /-- Nothing stopped it. -/
  fits : Fits source room before.seen src
  /-- It is a copy as long as what was made for it stays. -/
  copied : ∀ later, Agree before.graph after.graph later → Copied parse source later src copy

/-- What a copy has done: a failed one has changed nothing. -/
def Outcome (parse : DateParser) (source : ValueGraph) (room : Nat) (src : Cell) (before : State) :
    Except Thrown Cell × State → Prop
  | (.ok copy, after) => Made parse source room src before copy after
  | (.error thrown, after) => after = before ∧ Fails parse source room before.seen src thrown

/-- A graph keeps all that it holds when nothing happens. -/
theorem Kept.refl (graph : ValueGraph) : Kept graph graph :=
  ⟨Nat.le_refl _, Nat.le_refl _, fun _ _ => rfl, fun _ _ => rfl⟩

/-- What two steps keep one after the other is kept. -/
theorem Kept.trans {first second third : ValueGraph} (one : Kept first second)
    (two : Kept second third) : Kept first third where
  moreTables := Nat.le_trans one.moreTables two.moreTables
  moreObjects := Nat.le_trans one.moreObjects two.moreObjects
  tables address there := (two.tables address (Nat.lt_of_lt_of_le there one.moreTables)).trans
    (one.tables address there)
  objects handle there := (two.objects handle (Nat.lt_of_lt_of_le there one.moreObjects)).trans
    (one.objects handle there)

/-- A new object changes no other object and no table. -/
theorem kept_objectInit (graph : ValueGraph) (made : Object) :
    Kept graph (graph.objectInit made) where
  moreTables := Nat.le_refl _
  moreObjects := by simp [objectInit]
  tables _ _ := rfl
  objects handle there := by
    rw [object, object, objectInit, List.getElem?_append_left there]

/-- A new table changes no other table and no object. -/
theorem kept_arrayInit (graph : ValueGraph) : Kept graph graph.arrayInit where
  moreTables := by simp [arrayInit]
  moreObjects := Nat.le_refl _
  tables address there := by
    rw [table, table, arrayInit, List.getElem?_append_left there]
  objects _ _ := rfl

/-- The object that was made is found under its handle. -/
theorem object_objectInit (graph : ValueGraph) (made : Object) :
    (graph.objectInit made).object graph.objects.length = made := by
  simp [object, objectInit]

/-- The table that was made is empty. -/
theorem table_arrayInit (graph : ValueGraph) : graph.arrayInit.table graph.tables.length = [] := by
  simp [table, arrayInit]

/-- The table that an entry is added to has it at its end. -/
theorem table_addNew (graph : ValueGraph) {address : Nat} (there : address < graph.tables.length)
    (key : Key) (item : Cell) :
    (graph.addNew address key item).table address = graph.table address ++ [(key, item)] := by
  simp [table, addNew, List.getElem?_eq_getElem there]

/-- Adding an entry to a table leaves the other tables. -/
theorem table_addNew_other (graph : ValueGraph) {address other : Nat} (differ : other ≠ address)
    (key : Key) (item : Cell) :
    (graph.addNew address key item).table other = graph.table other := by
  simp [table, addNew, Ne.symm differ]

/-! ## One value after the other -/

/-- Nothing stops the copy of a value without elements that can be copied. -/
theorem Fits.leaf {source : ValueGraph} {src : Cell}
    (leaf : ∀ address, source.deref src ≠ .array address) (direct : source.deref src ≠ .resource)
    (objects : ∀ handle, source.deref src = .object handle → (source.object handle).copies = true)
    (room : Nat) (seen : Finset Nat) : Fits source (room + 1) seen src where
  shallow depth node there := by
    obtain ⟨rfl, -⟩ := there.cases_leaf leaf
    exact Nat.succ_pos room
  unseen depth address there := absurd (there.cases_leaf leaf).2.symm (leaf address)
  resources depth there := direct (there.cases_leaf leaf).2.symm
  objects depth handle there := objects handle (there.cases_leaf leaf).2.symm

/-- Nothing stops the copy of an array when nothing stops those of its elements. -/
theorem Fits.array {source : ValueGraph} {src : Cell} {address room : Nat} {seen : Finset Nat}
    (isArray : source.deref src = .array address) (fresh : address ∉ seen)
    (elements : ∀ entry ∈ source.table address, Fits source room (insert address seen) entry.2) :
    Fits source (room + 1) seen src where
  shallow depth node there := by
    cases there.cases_array isArray with
    | inl top =>
      rw [top.1]
      exact Nat.succ_pos room
    | inr deeper =>
      obtain ⟨entry, member, less, rfl, inside⟩ := deeper
      exact Nat.succ_lt_succ ((elements entry member).shallow less node inside)
  unseen depth other there := by
    cases there.cases_array isArray with
    | inl top =>
      rw [Cell.array.inj top.2]
      exact fresh
    | inr deeper =>
      obtain ⟨entry, member, less, rfl, inside⟩ := deeper
      intro old
      exact (elements entry member).unseen less other inside (Finset.mem_insert_of_mem old)
  resources depth there := by
    cases there.cases_array isArray with
    | inl top => cases top.2
    | inr deeper =>
      obtain ⟨entry, member, less, rfl, inside⟩ := deeper
      exact (elements entry member).resources less inside
  objects depth handle there := by
    cases there.cases_array isArray with
    | inl top => cases top.2
    | inr deeper =>
      obtain ⟨entry, member, less, rfl, inside⟩ := deeper
      exact (elements entry member).objects less handle inside

/-- The copy of an object fails for a cause in the source, or fits it. -/
theorem snapshotObject_outcome (parse : DateParser) {source : ValueGraph} {src : Cell}
    {handle : Nat} (isObject : source.deref src = .object handle) (room : Nat) (state : State)
    (kept : Kept source state.graph) :
    Outcome parse source (room + 1) src state
      (match snapshotObject parse source handle state.graph with
        | .error thrown => (.error thrown, state)
        | .ok (copy, graph) => (.ok copy, { state with graph })) := by
  have fits (copies : (source.object handle).copies = true) :
      Fits source (room + 1) state.seen src := by
    apply Fits.leaf
    · intro address isArray
      cases isObject.symm.trans isArray
    · intro isResource
      cases isObject.symm.trans isResource
    · intro other isOther
      obtain rfl := Cell.object.inj (isObject.symm.trans isOther)
      exact copies
  rw [snapshotObject]
  cases found : source.object handle with
  | value content =>
    cases content with
    | none => exact ⟨rfl, .object isObject (.inl (by rw [found]; rfl)) rfl⟩
    | some held =>
      exact ⟨rfl, .refl _, fits (by rw [found]; rfl), fun _ _ => .value isObject found⟩
  | interval months days micros =>
    refine ⟨rfl, kept_objectInit _ _, fits (by rw [found]; rfl), fun later agree => ?_⟩
    have made : later.object state.graph.objects.length = .interval months days micros := by
      rw [agree.objects _ (Nat.le_refl _) (by simp [objectInit])]
      exact object_objectInit _ _
    exact .interval isObject found kept.moreObjects made
  | date immutable time =>
    cases time with
    | none => exact ⟨rfl, .object isObject (.inl (by rw [found]; rfl)) rfl⟩
    | some time =>
      dsimp only
      cases reads : parse (epochText time) with
      | none => exact ⟨rfl, .object isObject (.inr ⟨time, reads⟩) rfl⟩
      | some parsed =>
        refine ⟨rfl, kept_objectInit _ _, fits (by rw [found]; rfl), fun later agree => ?_⟩
        have made : later.object state.graph.objects.length = .date true (some parsed) := by
          rw [agree.objects _ (Nat.le_refl _) (by simp [objectInit])]
          exact object_objectInit _ _
        exact .date isObject found reads kept.moreObjects made
  | other className => exact ⟨rfl, .object isObject (.inl (by rw [found]; rfl)) rfl⟩

/-- What copying the elements of an array into a new one has done. -/
structure MadeElements (parse : DateParser) (source : ValueGraph) (room dst : Nat)
    (items : List (Key × Cell)) (before after : State) : Prop where
  /-- The path is the same again. -/
  seen : after.seen = before.seen
  /-- There are as many tables or more. -/
  moreTables : before.graph.tables.length ≤ after.graph.tables.length
  /-- There are as many objects or more. -/
  moreObjects : before.graph.objects.length ≤ after.graph.objects.length
  /-- The other tables are the same. -/
  tables : ∀ address < before.graph.tables.length, address ≠ dst →
    after.graph.table address = before.graph.table address
  /-- The objects are the same. -/
  objects : ∀ handle < before.graph.objects.length,
    after.graph.object handle = before.graph.object handle
  /-- Nothing stopped any. -/
  fits : ∀ entry ∈ items, Fits source room before.seen entry.2
  /-- The new array has their copies. -/
  copied : ∃ copies, after.graph.table dst = before.graph.table dst ++ copies ∧
    ∀ later, Agree before.graph after.graph later → CopiedEntries parse source later items copies

/-- What copying the elements has done: when it failed, one of them failed. -/
def ElementsOutcome (parse : DateParser) (source : ValueGraph) (room dst : Nat)
    (items : List (Key × Cell)) (before : State) : Except Thrown Unit × State → Prop
  | (.ok _, after) => MadeElements parse source room dst items before after
  | (.error thrown, after) =>
    after.seen = before.seen ∧ ∃ entry ∈ items, Fails parse source room before.seen entry.2 thrown

/-- An entry of a new table changes nothing that was there. -/
theorem Kept.addNew {source graph : ValueGraph} (kept : Kept source graph) {dst : Nat}
    (fresh : source.tables.length ≤ dst) (key : Key) (item : Cell) :
    Kept source (graph.addNew dst key item) where
  moreTables := by
    rw [ValueGraph.addNew, List.length_modify]
    exact kept.moreTables
  moreObjects := kept.moreObjects
  tables address there := by
    have differ : address ≠ dst := Nat.ne_of_lt (Nat.lt_of_lt_of_le there fresh)
    rw [table_addNew_other graph differ]
    exact kept.tables address there
  objects := kept.objects

/-- One more element that is copied makes the copies of all. -/
theorem MadeElements.cons {parse : DateParser} {source : ValueGraph} {room dst : Nat} {key : Key}
    {item copy : Cell} {rest : List (Key × Cell)} {before left after : State}
    (there : dst < before.graph.tables.length)
    (head : Made parse source room item before copy left)
    (more : MadeElements parse source room dst rest
      { left with graph := left.graph.addNew dst key copy } after) :
    MadeElements parse source room dst ((key, item) :: rest) before after := by
  have same : (left.graph.addNew dst key copy).tables.length = left.graph.tables.length :=
    List.length_modify ..
  have longer : left.graph.tables.length ≤ after.graph.tables.length := same ▸ more.moreTables
  obtain ⟨copies, stored, later⟩ := more.copied
  refine ⟨more.seen.trans head.seen, Nat.le_trans head.kept.moreTables longer,
    Nat.le_trans head.kept.moreObjects more.moreObjects, ?_, ?_, ?_, (key, copy) :: copies, ?_, ?_⟩
  · intro address among differ
    have old := Nat.lt_of_lt_of_le among head.kept.moreTables
    rw [more.tables address (same.symm ▸ old) differ]
    exact (table_addNew_other _ differ _ _).trans (head.kept.tables address among)
  · intro handle among
    rw [more.objects handle (Nat.lt_of_lt_of_le among head.kept.moreObjects)]
    exact head.kept.objects handle among
  · intro entry member
    cases List.mem_cons.mp member with
    | inl first =>
      subst first
      exact head.fits
    | inr later =>
      rw [← head.seen]
      exact more.fits entry later
  · rw [stored, table_addNew _ (Nat.lt_of_lt_of_le there head.kept.moreTables),
      head.kept.tables dst there, List.append_assoc, List.singleton_append]
  · intro final agree
    refine .cons (head.copied final ⟨?_, ?_⟩) (later final ⟨?_, ?_⟩)
    · intro address new among
      have differ : address ≠ dst := Nat.ne_of_gt (Nat.lt_of_lt_of_le there new)
      rw [agree.tables address new (Nat.lt_of_lt_of_le among longer),
        more.tables address (same.symm ▸ among) differ]
      exact table_addNew_other _ differ _ _
    · intro handle new among
      rw [agree.objects handle new (Nat.lt_of_lt_of_le among more.moreObjects)]
      exact more.objects handle among
    · intro address new among
      rw [same] at new
      exact agree.tables address (Nat.le_trans head.kept.moreTables new) among
    · intro handle new among
      exact agree.objects handle (Nat.le_trans head.kept.moreObjects new) among

/-- The copies of elements, when each is copied so. -/
theorem snapshotElements_outcome {parse : DateParser} {source : ValueGraph} {room dst : Nat}
    {take : Cell → State → Except Thrown Cell × State}
    (each : ∀ src state, Kept source state.graph →
      Outcome parse source room src state (take src state))
    (fresh : source.tables.length ≤ dst) (items : List (Key × Cell)) (state : State)
    (kept : Kept source state.graph) (there : dst < state.graph.tables.length) :
    ElementsOutcome parse source room dst items state (snapshotElements take dst items state) := by
  induction items generalizing state with
  | nil =>
    exact ⟨rfl, Nat.le_refl _, Nat.le_refl _, fun _ _ _ => rfl, fun _ _ => rfl, nofun, [],
      (List.append_nil _).symm, fun _ _ => .nil⟩
  | cons entry rest ih =>
    obtain ⟨key, item⟩ := entry
    have first := each item state kept
    rw [snapshotElements]
    cases taken : take item state with
    | mk result left =>
      rw [taken] at first
      cases result with
      | error thrown =>
        exact ⟨congrArg State.seen first.1, (key, item), List.mem_cons_self, first.2⟩
      | ok copy =>
        have more := ih { left with graph := left.graph.addNew dst key copy }
          ((kept.trans first.kept).addNew fresh key copy) (by
            rw [ValueGraph.addNew, List.length_modify]
            exact Nat.lt_of_lt_of_le there first.kept.moreTables)
        dsimp only
        cases done : snapshotElements take dst rest
            { left with graph := left.graph.addNew dst key copy } with
        | mk outcome after =>
          rw [done] at more
          cases outcome with
          | ok => exact MadeElements.cons there first more
          | error thrown =>
            obtain ⟨seen, stopped, member, fails⟩ := more
            have path : left.seen = state.seen := first.seen
            exact ⟨seen.trans path, stopped, List.mem_cons_of_mem _ member, path ▸ fails⟩

/-- The copies of all elements make the copy of their array. -/
theorem MadeElements.array {parse : DateParser} {source : ValueGraph} {room address : Nat}
    {src : Cell} {before after : State} (isArray : source.deref src = .array address)
    (fresh : address ∉ before.seen) (kept : Kept source before.graph)
    (made : MadeElements parse source room before.graph.tables.length (source.table address)
      ⟨before.graph.arrayInit, insert address before.seen⟩ after) :
    Made parse source (room + 1) src before (.array before.graph.tables.length)
      { after with seen := after.seen.erase address } := by
  have grown : before.graph.arrayInit.tables.length = before.graph.tables.length + 1 := by
    simp [arrayInit]
  have longer : before.graph.tables.length < after.graph.tables.length :=
    Nat.lt_of_succ_le ((Nat.le_of_eq grown.symm).trans made.moreTables)
  obtain ⟨copies, stored, later⟩ := made.copied
  rw [table_arrayInit, List.nil_append] at stored
  refine ⟨?_, ⟨Nat.le_of_lt longer, made.moreObjects, ?_, made.objects⟩,
    .array isArray fresh made.fits, ?_⟩
  · rw [made.seen, Finset.erase_insert fresh]
  · intro other among
    rw [made.tables other (grown ▸ Nat.lt_succ_of_lt among) (Nat.ne_of_lt among)]
    exact (kept_arrayInit before.graph).tables other among
  · intro final agree
    have same : final.table before.graph.tables.length = copies :=
      (agree.tables _ (Nat.le_refl _) longer).trans stored
    have entries := later final
      ⟨fun other new among =>
        agree.tables other (Nat.le_of_succ_le ((Nat.le_of_eq grown.symm).trans new)) among,
        agree.objects⟩
    exact .array isArray kept.moreTables (same ▸ entries)

/-- **A copy that succeeds is one, and one that fails has changed nothing.** -/
theorem snapshot_outcome (parse : DateParser) (source : ValueGraph) (room : Nat) (src : Cell)
    (state : State) (kept : Kept source state.graph) :
    Outcome parse source room src state (snapshot parse source room src state) := by
  induction room generalizing src state with
  | zero => exact ⟨rfl, .deep⟩
  | succ room ih =>
    rw [snapshot]
    cases read : source.deref src with
    | array address =>
      by_cases old : address ∈ state.seen
      · simp only [old, if_true]
        exact ⟨rfl, .cyclic read old⟩
      · simp only [old, if_false]
        have grown : state.graph.tables.length < state.graph.arrayInit.tables.length := by
          simp [arrayInit]
        have elements := snapshotElements_outcome (fun src state kept => ih src state kept)
          kept.moreTables (source.table address)
          ⟨state.graph.arrayInit, insert address state.seen⟩
          (kept.trans (kept_arrayInit state.graph)) grown
        cases done : snapshotElements (snapshot parse source room) state.graph.tables.length
            (source.table address) ⟨state.graph.arrayInit, insert address state.seen⟩ with
        | mk result left =>
          rw [done] at elements
          cases result with
          | ok => exact MadeElements.array read old kept elements
          | error thrown =>
            obtain ⟨seen, entry, member, fails⟩ := elements
            refine ⟨?_, .element read member fails⟩
            rw [seen, Finset.erase_insert old]
    | object handle => exact snapshotObject_outcome parse read room state kept
    | resource => exact ⟨rfl, .resource read⟩
    | reference target =>
      have flat := source.deref_flat src
      rw [read] at flat
      cases flat
    | _ =>
      refine ⟨rfl, .refl _, .leaf ?_ ?_ ?_ room state.seen, fun later _ => ?_⟩
      · intro address isArray
        cases read.symm.trans isArray
      · intro isResource
        cases read.symm.trans isResource
      · intro handle isObject
        cases read.symm.trans isObject
      · rw [← read]
        exact .scalar (by rw [read]; rfl)

/-! ## All values -/

/-- An array that is reported as cyclic is inside itself, or on the path. -/
theorem Fails.loops {parse : DateParser} {source : ValueGraph} {room : Nat} {seen : Finset Nat}
    {src : Cell} {thrown : Thrown} (fails : Fails parse source room seen src thrown)
    (reported : thrown = cyclicInput) :
    ∃ address, Relation.ReflTransGen source.Follows src (.array address) ∧
      (address ∈ seen ∨ Relation.TransGen source.Follows (.array address) (.array address)) := by
  induction fails with
  | deep => exact absurd reported (by decide)
  | @cyclic room address seen src isArray old =>
    exact ⟨address, isArray ▸ source.reaches_deref src, .inl old⟩
  | @element room address seen src entry thrown isArray member fails ih =>
    obtain ⟨found, reaches, why⟩ := ih reported
    have enters : source.Follows (.array address) entry.2 := .element member
    have top : Relation.ReflTransGen source.Follows src (.array address) :=
      isArray ▸ source.reaches_deref src
    cases why with
    | inr itself => exact ⟨found, (top.tail enters).trans reaches, .inr itself⟩
    | inl old =>
      cases Finset.mem_insert.mp old with
      | inl same =>
        subst same
        exact ⟨found, top, .inr (Relation.TransGen.head' enters reaches)⟩
      | inr before => exact ⟨found, (top.tail enters).trans reaches, .inl before⟩
  | object _ _ class_ =>
    rw [reported] at class_
    cases class_
  | resource => exact absurd reported (by decide)

/-- Why a copy fails otherwise, if dates can be read. -/
theorem Fails.cause {parse : DateParser} (accepts : ∀ time, parse (epochText time) ≠ none)
    {source : ValueGraph} {room : Nat} {seen : Finset Nat} {src : Cell} {thrown : Thrown}
    (fails : Fails parse source room seen src thrown) :
    thrown = cyclicInput ∨ (∃ depth node, source.At src depth node ∧ room ≤ depth) ∨
      Relation.ReflTransGen source.Follows src .resource ∨
      ∃ handle, Relation.ReflTransGen source.Follows src (.object handle) ∧
        (source.object handle).copies = false := by
  induction fails with
  | deep => exact .inr (.inl ⟨0, _, .root, Nat.le_refl 0⟩)
  | cyclic => exact .inl rfl
  | @element room address seen src entry thrown isArray member fails ih =>
    have enters : Relation.ReflTransGen source.Follows src entry.2 := by
      have top := source.reaches_deref src
      rw [isArray] at top
      exact top.tail (.element member)
    obtain same | ⟨depth, node, there, deep⟩ | reaches | ⟨handle, reaches, refused⟩ := ih
    · exact .inl same
    · exact .inr (.inl ⟨depth + 1, node, there.lift isArray member, Nat.succ_le_succ deep⟩)
    · exact .inr (.inr (.inl (enters.trans reaches)))
    · exact .inr (.inr (.inr ⟨handle, enters.trans reaches, refused⟩))
  | @object room handle seen src thrown isObject refused =>
    cases refused with
    | inl refused => exact .inr (.inr (.inr ⟨handle, isObject ▸ source.reaches_deref src, refused⟩))
    | inr unread =>
      obtain ⟨time, unread⟩ := unread
      exact absurd unread (accepts time)
  | @resource room seen src isResource =>
    exact .inr (.inr (.inl (isResource ▸ source.reaches_deref src)))

/-- What stops a copy makes the input one that is not taken. -/
theorem Fails.excludes {parse : DateParser} (accepts : ∀ time, parse (epochText time) ≠ none)
    {source : ValueGraph} {input : Cell} {thrown : Thrown}
    (fails : Fails parse source 65 ∅ input thrown) : ¬ source.Snapshottable input := by
  intro taken
  obtain reported | ⟨depth, node, there, deep⟩ | reaches | ⟨handle, reaches, refused⟩ :=
    fails.cause accepts
  · obtain ⟨address, reaches, old | itself⟩ := fails.loops reported
    · exact Finset.notMem_empty address old
    · exact taken.acyclic address reaches itself
  · have bound := taken.shallow depth node there
    omega
  · exact taken.resources reaches
  · rw [taken.objects handle reaches] at refused
    cases refused

/-- An input whose copy nothing stops is taken. -/
theorem Fits.snapshottable {source : ValueGraph} {input : Cell} (fits : Fits source 65 ∅ input) :
    source.Snapshottable input where
  acyclic address reaches itself := by
    obtain ⟨depth, there⟩ := at_of_reaches reaches
    obtain ⟨deeper, bound, further⟩ := At.unbounded there itself 65
    have least := fits.shallow deeper _ further
    omega
  shallow depth node there := Nat.le_of_lt_succ (fits.shallow depth node there)
  resources reaches := by
    obtain ⟨depth, there⟩ := at_of_reaches reaches
    exact fits.resources depth there
  objects handle reaches := by
    obtain ⟨depth, there⟩ := at_of_reaches reaches
    exact fits.objects depth handle there

/-! ## Nothing is shared -/

/-- A value of a copy: no reference, and what it points to is not of the source, an immutable
`DuckDB\Value` apart. -/
structure Own (source : ValueGraph) (node : Cell) : Prop where
  /-- It is no reference. -/
  direct : node.isReference = false
  /-- An array has a table of its own. -/
  tables : ∀ address, node = .array address → source.tables.length ≤ address
  /-- An object is a new one. -/
  objects : ∀ handle, node = .object handle →
    source.objects.length ≤ handle ∨ ∃ held, source.object handle = .value (some held)

/-- The top of a copy is its own. -/
theorem Copied.own {parse : DateParser} {source later : ValueGraph} {src copy : Cell}
    (copied : Copied parse source later src copy) : Own source copy := by
  cases copied with
  | scalar isScalar =>
    refine ⟨source.deref_flat src, ?_, ?_⟩
    · intro address isArray
      rw [isArray] at isScalar
      cases isScalar
    · intro handle isObject
      rw [isObject] at isScalar
      cases isScalar
  | array _ fresh => exact ⟨rfl, fun address same => Cell.array.inj same ▸ fresh, nofun⟩
  | value _ found =>
    exact ⟨rfl, nofun, fun handle same => .inr ⟨_, Cell.object.inj same ▸ found⟩⟩
  | interval _ _ fresh => exact ⟨rfl, nofun, fun handle same => .inl (Cell.object.inj same ▸ fresh)⟩
  | date _ _ _ fresh => exact ⟨rfl, nofun, fun handle same => .inl (Cell.object.inj same ▸ fresh)⟩

/-- An entry of a copied table is a copy. -/
theorem CopiedEntries.entry {parse : DateParser} {source later : ValueGraph}
    {items copies : List (Key × Cell)} {key : Key} {copy : Cell}
    (entries : CopiedEntries parse source later items copies) (member : (key, copy) ∈ copies) :
    ∃ src, Copied parse source later src copy := by
  induction copies generalizing items with
  | nil => cases member
  | cons first others ih =>
    cases entries with
    | cons head more =>
      cases List.mem_cons.mp member with
      | inl same =>
        obtain ⟨rfl, rfl⟩ := Prod.mk.inj same
        exact ⟨_, head⟩
      | inr further => exact ih more further

/-- A copy that is an array has the copies of a table. -/
theorem Copied.entries {parse : DateParser} {source later : ValueGraph} {src copy : Cell}
    {made : Nat} (copied : Copied parse source later src copy) (isArray : copy = .array made) :
    ∃ address, CopiedEntries parse source later (source.table address) (later.table made) := by
  cases copied with
  | scalar isScalar =>
    rw [isArray] at isScalar
    cases isScalar
  | @array src address other _ _ entries =>
    obtain rfl := Cell.array.inj isArray
    exact ⟨address, entries⟩
  | value => cases isArray
  | interval => cases isArray
  | date => cases isArray

/-- All values of a copy are its own. -/
theorem Copied.owns {parse : DateParser} {source later : ValueGraph} {src copy node : Cell}
    (copied : Copied parse source later src copy)
    (reaches : Relation.ReflTransGen later.Follows copy node) : Own source node := by
  induction reaches using Relation.ReflTransGen.head_induction_on generalizing src with
  | refl => exact copied.own
  | head step _ ih =>
    cases step with
    | target address => cases copied.own.direct
    | element member =>
      obtain ⟨_, entries⟩ := copied.entries rfl
      obtain ⟨origin, inside⟩ := entries.entry member
      exact ih inside

/-! ## Construction -/

/-- There is a copy of exactly the inputs that are taken. -/
theorem snapshot_iff {parse : DateParser} (accepts : ∀ time, parse (epochText time) ≠ none)
    (graph : ValueGraph) (input : Cell) :
    (∃ copy after, snapshot parse graph 65 input ⟨graph, ∅⟩ = (.ok copy, after)) ↔
      graph.Snapshottable input := by
  have outcome := snapshot_outcome parse graph 65 input ⟨graph, ∅⟩ (.refl graph)
  constructor
  · rintro ⟨copy, after, done⟩
    rw [done] at outcome
    exact outcome.fits.snapshottable
  · intro taken
    cases done : snapshot parse graph 65 input ⟨graph, ∅⟩ with
    | mk result after =>
      rw [done] at outcome
      cases result with
      | ok copy => exact ⟨copy, after, rfl⟩
      | error thrown => exact absurd taken (outcome.2.excludes accepts)

/-- A construction that fails leaves everything as it was. -/
theorem initialize_fails {parse : DateParser} {graph after : ValueGraph} {type : Bytes}
    {input : Cell} {thrown : Thrown} {content : Content}
    (fails : duckdbValueInitialize parse graph none type input = (some thrown, content, after)) :
    content = none ∧ after = graph := by
  have outcome := snapshot_outcome parse graph 65 input ⟨graph, ∅⟩ (.refl graph)
  rw [duckdbValueInitialize] at fails
  split at fails
  · cases done : snapshot parse graph 65 input ⟨graph, ∅⟩ with
    | mk result left =>
      rw [done] at fails outcome
      cases result with
      | ok copy => cases (Prod.mk.inj fails).1
      | error other =>
        obtain ⟨-, rest⟩ := Prod.mk.inj fails
        obtain ⟨rfl, rfl⟩ := Prod.mk.inj rest
        exact ⟨rfl, congrArg State.graph outcome.1⟩
  · obtain ⟨-, rfl, rfl⟩ : _ ∧ none = content ∧ graph = after := by simpa using fails
    exact ⟨rfl, rfl⟩

/-- A construction with a type and a copy stores both. -/
theorem initialize_stores {parse : DateParser} {graph : ValueGraph} {type text : Bytes}
    {input copy : Cell} {left : State}
    (canonical : Types.duckdbCanonicalizeType type = .ok text)
    (done : snapshot parse graph 65 input ⟨graph, ∅⟩ = (.ok copy, left)) :
    duckdbValueInitialize parse graph none type input =
      (none, some (⟨text, canonicalized canonical⟩, copy), left.graph) := by
  rw [duckdbValueInitialize]
  split
  · rename_i other made
    obtain rfl := Except.ok.inj (canonical.symm.trans made)
    rw [done]
  · rename_i what failed
    cases canonical.symm.trans failed

/-- **A snapshot succeeds exactly for the inputs without arrays inside themselves, deep values,
resources and other objects. It is a copy that has nothing of the input, whatever becomes of the
input later; only arrays inside themselves are reported as cyclic; and a construction that fails
leaves a Value that can be constructed.** -/
theorem snapshot_deep (parse : DateParser) (accepts : ∀ time, parse (epochText time) ≠ none)
    (graph : ValueGraph) (input : Cell) :
    ((∃ copy after, snapshot parse graph 65 input ⟨graph, ∅⟩ = (.ok copy, after)) ↔
        graph.Snapshottable input) ∧
      (∀ copy after, snapshot parse graph 65 input ⟨graph, ∅⟩ = (.ok copy, after) →
        ∀ later, Agree graph after.graph later →
          Copied parse graph later input copy ∧
            ∀ node, Relation.ReflTransGen later.Follows copy node → Own graph node) ∧
      (∀ after, snapshot parse graph 65 input ⟨graph, ∅⟩ = (.error cyclicInput, after) →
        ∃ address, Relation.ReflTransGen graph.Follows input (.array address) ∧
          Relation.TransGen graph.Follows (.array address) (.array address)) ∧
      (∀ type thrown content after,
        duckdbValueInitialize parse graph none type input = (some thrown, content, after) →
          content = none ∧ after = graph ∧
            ∀ other text next, Types.duckdbCanonicalizeType other = .ok text →
              graph.Snapshottable next → ∃ held final,
                duckdbValueInitialize parse after content other next = (none, some held, final)) ∧
      ∀ type text (canonical : Types.duckdbCanonicalizeType type = .ok text) copy after,
        snapshot parse graph 65 input ⟨graph, ∅⟩ = (.ok copy, after) →
          duckdbValueInitialize parse graph none type input =
            (none, some (⟨text, type, canonical⟩, copy), after.graph) := by
  have outcome := snapshot_outcome parse graph 65 input ⟨graph, ∅⟩ (.refl graph)
  refine ⟨snapshot_iff accepts graph input, ?_, ?_, ?_, ?_⟩
  · intro copy after done later agree
    rw [done] at outcome
    have copied := outcome.copied later agree
    exact ⟨copied, fun node reaches => copied.owns reaches⟩
  · intro after done
    rw [done] at outcome
    obtain ⟨address, reaches, old | itself⟩ := outcome.2.loops rfl
    · exact absurd old (Finset.notMem_empty address)
    · exact ⟨address, reaches, itself⟩
  · intro type thrown content after fails
    obtain ⟨rfl, rfl⟩ := initialize_fails fails
    refine ⟨rfl, rfl, fun other text next canonical taken => ?_⟩
    obtain ⟨copy, left, done⟩ := (snapshot_iff accepts after next).mpr taken
    exact ⟨_, _, initialize_stores canonical done⟩
  · intro type text canonical copy after done
    exact initialize_stores canonical done

/-- Two elements that are one array, behind a reference and without one. -/
def shared : ValueGraph :=
  ⟨[[(.index 0, .array 1), (.name [97], .reference 0)], [(.index 5, .object 0)]], [.array 1],
    [.date false (some (5, 0))], by decide⟩

/-- PHP's reader, as far as the text of the epoch 5. -/
def readFive : DateParser := fun text => if text = lit "5.000000" then some (5, 0) else some (0, 0)

/-- A shared array with a mutable date is copied. -/
theorem snapshot_deep_shared : ∃ copy after,
    snapshot readFive shared 65 (.array 0) ⟨shared, ∅⟩ = (.ok copy, after) ∧
      ∀ node, Relation.ReflTransGen after.graph.Follows copy node → Own shared node := by
  have reads : ∀ time, readFive (epochText time) ≠ none := by
    intro time
    rw [readFive]
    split <;> exact Option.some_ne_none _
  obtain ⟨-, copies, -⟩ := snapshot_deep readFive reads shared (.array 0)
  have taken : (snapshot readFive shared 65 (.array 0) ⟨shared, ∅⟩).1 = .ok (.array 2) := rfl
  have done : snapshot readFive shared 65 (.array 0) ⟨shared, ∅⟩ = (.ok (.array 2), _) :=
    Prod.ext taken rfl
  exact ⟨_, _, done, (copies _ _ done _ ⟨fun _ _ _ => rfl, fun _ _ _ => rfl⟩).2⟩

end PhpDuckdb.Snapshot
