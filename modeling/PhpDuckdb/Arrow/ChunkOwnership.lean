import PhpDuckdb.Arrow.Chunks

/-!
# Ownership of Arrow chunks

Every array has one owner at a time: a native struct, a PHP `ArrowChunk` or an imported `DataChunk`.
Every schema is owned by a native struct alone, or shared by PHP objects. So each of them is released
once, when its last owner goes, and never while something reads it.
-/

namespace PhpDuckdb.ArrowChunks

open PhpDuckdb.Value Connection Arrow Ownership

/-! ## Owners -/

/-- What owns an array or a schema. -/
inductive Place
  /-- A native struct. -/
  | arrayAt (address : Int)
  | schemaAt (address : Int)
  /-- A PHP object. -/
  | arrayOf (number : Nat)
  | schemaOf (number : Nat)
  deriving DecidableEq

/-- The handle that each place of a state owns, if it owns one. -/
def State.holds (state : State) : Place → Option Handle
  | .arrayAt address => (state.arrays address).release.map .array
  | .schemaAt address => (state.schemas address).release.map .schema
  | .arrayOf number => ((state.objects number).bind Object.release).map .array
  | .schemaOf number => (state.objects number).map fun object => .schema object.schemaData

/-- What holds of the owners and the log. -/
structure Owned (holds : Place → Option Handle) (log : List (Use Handle)) (next : Nat) : Prop where
  /-- What is owned was not released. -/
  held : Held holds log fun handle => next ≤ handle.producer
  /-- An array has one owner. -/
  arrays : ∀ producer, Sole holds (.array producer)
  /-- The schema of a native struct has no other owner. -/
  schemas : ∀ address handle, holds (.schemaAt address) = some handle → Sole holds handle

variable {holds : Place → Option Handle} {log : List (Use Handle)} {next : Nat} {handle : Handle}
  {place source target other : Place}

/-- What a producer creates is owned by the empty place that it is put in. -/
theorem Owned.create (owned : Owned holds log next) (empty : holds place = none)
    (number : handle.producer = next) :
    Owned (Function.update holds place (some handle)) (log ++ [.create handle]) (next + 1) := by
  have unheld : ∀ there, holds there ≠ some handle := fun there has =>
    owned.held.not_fresh has number.ge
  have soles : ∀ wanted, Sole holds wanted →
      Sole (Function.update holds place (some handle)) wanted := by
    intro wanted sole
    by_cases same : wanted = handle
    · subst same
      exact Sole.create unheld
    · exact sole.update_other same
  refine ⟨(owned.held.create empty number.ge).weaken fun wanted new => ⟨by omega, ?_⟩, fun producer =>
    soles _ (owned.arrays producer), fun address wanted has => ?_⟩
  · rintro rfl
    omega
  · by_cases same : Place.schemaAt address = place
    · subst same
      rw [Function.update_self, Option.some.injEq] at has
      subst has
      exact Sole.create unheld
    · rw [Function.update_of_ne same] at has
      exact soles wanted (owned.schemas address wanted has)

/-- What is owned stays owned when further numbers are used up. -/
theorem Owned.grows {later : Nat} (owned : Owned holds log next) (more : next ≤ later) :
    Owned holds log later :=
  ⟨owned.held.weaken fun _ new => le_trans more new, owned.arrays, owned.schemas⟩

/-- Reading what some place owns changes no ownership. -/
theorem Owned.touch (owned : Owned holds log next) (has : holds place = some handle) :
    Owned holds (log ++ [.touch handle]) next :=
  ⟨owned.held.touch has, owned.arrays, owned.schemas⟩

/-- The sole owner passes on what it owns. -/
theorem Owned.move (owned : Owned holds log next) (sole : Sole holds handle)
    (has : holds source = some handle) (empty : holds target = none) :
    Owned (Function.update (Function.update holds source none) target (some handle)) log next := by
  refine ⟨owned.held.move has empty, fun producer => (owned.arrays producer).move has,
    fun address wanted found => Sole.move ?_ has⟩
  by_cases same : Place.schemaAt address = target
  · subst same
    rw [Function.update_self, Option.some.injEq] at found
    exact found ▸ sole
  · rw [Function.update_of_ne same] at found
    by_cases left : Place.schemaAt address = source
    · subst left
      rw [Function.update_self] at found
      cases found
    · rw [Function.update_of_ne left] at found
      exact owned.schemas address wanted found

/-- A PHP object shares its schema with a new one. -/
theorem Owned.share {number fresh data : Nat} (owned : Owned holds log next)
    (has : holds (.schemaOf number) = some (.schema data))
    (empty : holds (.schemaOf fresh) = none) :
    Owned (Function.update holds (.schemaOf fresh) (some (.schema data))) log next := by
  refine ⟨owned.held.share has empty, fun producer => (owned.arrays producer).update_other (by simp),
    fun address wanted found => ?_⟩
  rw [Function.update_of_ne (by simp)] at found
  refine (owned.schemas address wanted found).update_other ?_
  rintro rfl
  have same := owned.schemas address _ found _ _ found has
  cases same

/-- A PHP object lets go of a schema that another one keeps. -/
theorem Owned.drop (owned : Owned holds log next) (has : holds place = some handle)
    (apart : other ≠ place) (kept : holds other = some handle) :
    Owned (Function.update holds place none) log next := by
  refine ⟨owned.held.drop has apart kept, fun producer => (owned.arrays producer).update_none,
    fun address wanted found => ?_⟩
  by_cases same : Place.schemaAt address = place
  · subst same
    rw [Function.update_self] at found
    cases found
  · rw [Function.update_of_ne same] at found
    exact (owned.schemas address wanted found).update_none

/-- The last owner releases what it owns. -/
theorem Owned.release (owned : Owned holds log next) (has : holds place = some handle)
    (last : ∀ there, holds there = some handle → there = place) :
    Owned (Function.update holds place none) (log ++ [.destroy handle]) next := by
  refine ⟨owned.held.release has last, fun producer => (owned.arrays producer).update_none,
    fun address wanted found => ?_⟩
  by_cases same : Place.schemaAt address = place
  · subst same
    rw [Function.update_self] at found
    cases found
  · rw [Function.update_of_ne same] at found
    exact (owned.schemas address wanted found).update_none

/-! ## Owners after a change of the state -/

variable {state : State}

/-- A native array that is overwritten owns what its new `release` names. -/
theorem holds_setArray (address : Int) (struct : ArrayStruct) :
    (state.setArray address struct).holds =
      Function.update state.holds (.arrayAt address) (struct.release.map .array) := by
  funext place
  cases place with
  | arrayAt other =>
    by_cases same : other = address
    · simp [State.holds, State.setArray, same]
    · simp [State.holds, State.setArray, same]
  | _ => simp [State.holds, State.setArray]

/-- A native schema that is overwritten owns what its new `release` names. -/
theorem holds_setSchema (address : Int) (struct : SchemaStruct) :
    (state.setSchema address struct).holds =
      Function.update state.holds (.schemaAt address)
        (struct.release.map .schema) := by
  funext place
  cases place with
  | schemaAt other =>
    by_cases same : other = address
    · simp [State.holds, State.setSchema, same]
    · simp [State.holds, State.setSchema, same]
  | _ => simp [State.holds, State.setSchema]

/-- A native array gives up what it owns. -/
theorem holds_clearArray (address : Int) (struct : ArrayStruct) :
    (state.setArray address struct.cleared).holds =
      Function.update state.holds (.arrayAt address) none := holds_setArray address _

/-- A native schema gives up what it owns. -/
theorem holds_clearSchema (address : Int) (struct : SchemaStruct) :
    (state.setSchema address struct.cleared).holds =
      Function.update state.holds (.schemaAt address) none := holds_setSchema address _

/-- A PHP object changes, appears or goes. -/
theorem holds_setObject (number : Nat) (object : Option Object) :
    (state.setObject number object).holds =
      Function.update (Function.update state.holds (.arrayOf number)
        ((object.bind Object.release).map .array)) (.schemaOf number)
          (object.map fun object => .schema object.schemaData) := by
  funext place
  cases place with
  | arrayOf other | schemaOf other =>
    by_cases same : other = number
    · simp [State.holds, State.setObject, same]
    · simp [State.holds, State.setObject, same]
  | _ => simp [State.holds, State.setObject]

/-- The array of a chunk is taken. -/
theorem holds_taken {number : Nat} {data : ArrowChunkData}
    (chunk : state.objects number = some (.chunk data)) :
    (state.setObject number (some (.chunk data.taken))).holds =
      Function.update state.holds (.arrayOf number) none := by
  rw [holds_setObject]
  funext place
  by_cases same : place = .schemaOf number
  · subst same
    simp [State.holds, chunk, Object.schemaData, ArrowChunkData.taken]
  · rw [Function.update_of_ne same]
    rfl

/-- What a new object changes in a state: its own place, and nothing else. -/
structure Added (before after : State) (object : Object) : Prop where
  /-- It owns its array and keeps its schema. -/
  holds : after.holds = Function.update (Function.update before.holds (.arrayOf before.next)
    (object.release.map .array)) (.schemaOf before.next) (some (.schema object.schemaData))
  log : after.log = before.log
  next : after.next = before.next + 1
  objects : after.objects = Function.update before.objects before.next (some object)

/-- `object_init_ex` adds the object under the next number and logs nothing. -/
theorem added_newObject {before after : State} {object : Object} {reply : Except Thrown Reply}
    (made : before.newObject object = (after, reply)) : Added before after object := by
  obtain ⟨rfl, -⟩ := Prod.mk.inj made
  exact ⟨@holds_setObject before before.next (some object), rfl, rfl, rfl⟩

/-- The log has no part in what is owned. -/
@[simp]
theorem holds_logged (uses : List (Use Handle)) : (state.logged uses).holds = state.holds := rfl

/-! ## Steps -/

/-- What holds of the numbers of PHP objects and producers. -/
structure Numbered (state : State) : Prop where
  /-- New objects get new numbers. -/
  objects : ∀ number, state.next ≤ number → state.objects number = none
  /-- An imported chunk owns the array that it borrows from. -/
  borrows : ∀ number data, state.objects number = some (.data data) →
    data.arrowOwner.array.release ≠ none

/-- What holds of every state that calls reach. -/
structure Consistent (state : State) : Prop extends Numbered state where
  /-- What is owned. -/
  owned : Owned state.holds state.log state.next

/-- At the start nothing is owned and nothing was used. -/
theorem consistent_start : Consistent .start where
  owned := by
    have nothing : ∀ place, State.start.holds place = none := by
      intro place
      cases place <;> rfl
    refine ⟨held_nil nothing, fun producer first second one _ => ?_, fun address handle has => ?_⟩
    · rw [nothing] at one
      cases one
    · rw [nothing] at has
      cases has
  objects _ _ := rfl
  borrows number data is := by cases is

/-- A new number has no object, so it owns nothing. -/
theorem Numbered.unused (numbered : Numbered state) :
    state.holds (.arrayOf state.next) = none ∧ state.holds (.schemaOf state.next) = none := by
  simp [State.holds, numbered.objects state.next le_rfl]

/-- An object holds the schema that its data names. -/
theorem holds_schemaOf {number : Nat} {object : Object} (is : state.objects number = some object) :
    state.holds (.schemaOf number) = some (.schema object.schemaData) := by
  rw [State.holds, is, Option.map_some]

/-- The array of an object is owned. -/
theorem holds_arrayOf {number producer : Nat} {object : Object}
    (is : state.objects number = some object) (has : object.release = some producer) :
    state.holds (.arrayOf number) = some (.array producer) := by
  rw [State.holds, is, Option.bind_some, has, Option.map_some]

/-- Reading an owned array changes nothing else. -/
theorem Owned.reads {struct : ArrayStruct} (owned : Owned holds log next)
    (has : holds place = struct.release.map .array) :
    Owned holds (log ++ ArrowChunks.reads struct) next := by
  cases release : struct.release with
  | none => simpa [ArrowChunks.reads, release] using owned
  | some producer =>
    rw [release, Option.map_some] at has
    simpa [ArrowChunks.reads, release] using owned.touch has

/-- The owner of an array releases it. -/
theorem Owned.releases {struct : ArrayStruct} (owned : Owned holds log next)
    (has : holds place = struct.release.map .array) :
    Owned (Function.update holds place none) (log ++ ArrowChunks.releases struct) next := by
  cases release : struct.release with
  | none =>
    rw [release, Option.map_none] at has
    rw [Function.update_eq_self_iff.mpr has.symm]
    simpa [ArrowChunks.releases, release] using owned
  | some producer =>
    rw [release, Option.map_some] at has
    have last := fun there found => owned.arrays producer there place found has
    simpa [ArrowChunks.releases, release] using owned.release has last

/-- The owner of an array destroys a data chunk over it. -/
theorem Owned.destroysData {data : DataChunkData} (owned : Owned holds log next)
    (has : holds place = data.arrowOwner.array.release.map .array) (native : Bool) :
    Owned (Function.update holds place none) (log ++ ArrowChunks.destroysData data native) next := by
  rw [ArrowChunks.destroysData, ← List.append_assoc]
  cases native with
  | false =>
    rw [if_neg (by simp), List.append_nil]
    exact owned.releases has
  | true =>
    rw [if_pos rfl]
    exact (owned.reads has).releases has

/-- An `arrow_schema_data` is kept exactly when some object refers to it. -/
theorem keepsSchema_iff (objects : ∀ number, state.next ≤ number → state.objects number = none)
    {data : Nat} : state.keepsSchema data = true ↔
      ∃ number, state.holds (.schemaOf number) = some (.schema data) := by
  simp only [State.keepsSchema, List.any_eq_true, List.mem_range, Option.any_eq_true,
    decide_eq_true_eq, State.holds, Option.map_eq_some_iff, Handle.schema.injEq]
  constructor
  · rintro ⟨number, -, object, is, same⟩
    exact ⟨number, object, is, same⟩
  · rintro ⟨number, object, is, same⟩
    refine ⟨number, ?_, object, is, same⟩
    by_contra beyond
    rw [objects number (by omega)] at is
    cases is

/-- A reference to a schema goes: the others keep it, or it is released. -/
theorem Consistent.dropSchema {left : State} {number data : Nat}
    (owned : Owned holds left.log left.next)
    (has : holds (.schemaOf number) = some (.schema data))
    (without : left.holds = Function.update holds (.schemaOf number) none)
    (objects : ∀ number, left.next ≤ number → left.objects number = none) :
    Owned left.holds (left.dropSchema data).log left.next := by
  rw [State.dropSchema]
  split
  · rename_i keeps
    obtain ⟨other, kept⟩ := (keepsSchema_iff objects).mp keeps
    rw [without] at kept ⊢
    have apart : Place.schemaOf other ≠ .schemaOf number := by
      intro same
      rw [same, Function.update_self] at kept
      cases kept
    rw [Function.update_of_ne apart] at kept
    exact owned.drop has apart kept
  · rename_i alone
    rw [without]
    refine owned.release has fun there found => ?_
    by_contra apart
    have kept : left.holds there = some (.schema data) := by
      rw [without, Function.update_of_ne apart, found]
    cases there with
    | arrayAt address | arrayOf number =>
      rw [State.holds, Option.map_eq_some_iff] at kept
      obtain ⟨_, _, same⟩ := kept
      cases same
    | schemaAt address =>
      have same := owned.schemas address _ found _ _ found has
      cases same
    | schemaOf other => exact alone ((keepsSchema_iff objects).mpr ⟨other, kept⟩)

/-- A step that leaves the PHP objects alone. -/
theorem Numbered.same {after : State} (numbered : Numbered state)
    (objects : after.objects = state.objects) (grows : state.next ≤ after.next) :
    Numbered after where
  objects number beyond := by
    rw [objects]
    exact numbered.objects number (by omega)
  borrows number data is := by
    rw [objects] at is
    exact numbered.borrows number data is

/-- A step that changes one PHP object. -/
theorem Numbered.put {after : State} {number : Nat} {object : Option Object}
    (numbered : Numbered state)
    (objects : after.objects = Function.update state.objects number object)
    (grows : state.next ≤ after.next) (inside : number < after.next)
    (borrows : ∀ data, object = some (.data data) → data.arrowOwner.array.release ≠ none) :
    Numbered after where
  objects other beyond := by
    rw [objects, Function.update_of_ne (by omega)]
    exact numbered.objects other (by omega)
  borrows other data is := by
    rw [objects] at is
    by_cases same : other = number
    · subst same
      rw [Function.update_self] at is
      exact borrows data is
    · rw [Function.update_of_ne same] at is
      exact numbered.borrows other data is

/-- An object has a number below the next. -/
theorem Numbered.inside (numbered : Numbered state) {number : Nat} {object : Object}
    (is : state.objects number = some object) : number < state.next := by
  by_contra beyond
  rw [numbered.objects number (by omega)] at is
  cases is

/-- A producer that fills a native array keeps the owners consistent. -/
theorem Consistent.produceArray (consistent : Consistent state) {address : Int} {array : ArrowArray}
    (empty : (state.arrays address).release = none) :
    Consistent ((state.setArray address ⟨array, some state.next⟩).create (.array state.next)) := by
  refine ⟨consistent.toNumbered.same rfl (Nat.le_succ _), ?_⟩
  have owners : (state.setArray address ⟨array, some state.next⟩).holds = _ := holds_setArray _ _
  have free : state.holds (.arrayAt address) = none := by rw [State.holds, empty, Option.map_none]
  exact owners ▸ consistent.owned.create free rfl

/-- A producer that fills a native schema keeps the owners consistent. -/
theorem Consistent.produceSchema (consistent : Consistent state) {address : Int}
    {schema : ArrowSchema} (empty : (state.schemas address).release = none) :
    Consistent ((state.setSchema address ⟨schema, some state.next⟩).create
      (.schema state.next)) := by
  refine ⟨consistent.toNumbered.same rfl (Nat.le_succ _), ?_⟩
  have owners : (state.setSchema address ⟨schema, some state.next⟩).holds = _ :=
    holds_setSchema _ _
  have free : state.holds (.schemaAt address) = none := by rw [State.holds, empty, Option.map_none]
  exact owners ▸ consistent.owned.create free rfl

/-- The owners stay consistent when native code releases an array. -/
theorem Consistent.releaseArray (consistent : Consistent state) (address : Int) :
    Consistent ((state.setArray address (state.arrays address).cleared).logged
      (releases (state.arrays address))) := by
  refine ⟨consistent.toNumbered.same rfl le_rfl, ?_⟩
  have owners : (state.setArray address (state.arrays address).cleared).holds = _ :=
    holds_clearArray _ _
  exact owners ▸ consistent.owned.releases rfl

/-- The owners stay consistent when native code releases a schema. -/
theorem Consistent.releaseSchema (consistent : Consistent state) {address : Int} {producer : Nat}
    (release : (state.schemas address).release = some producer) :
    Consistent ((state.setSchema address (state.schemas address).cleared).logged
      [.destroy (.schema producer)]) := by
  refine ⟨consistent.toNumbered.same rfl le_rfl, ?_⟩
  have owners : (state.setSchema address (state.schemas address).cleared).holds = _ :=
    holds_clearSchema _ _
  have has : state.holds (.schemaAt address) = some (.schema producer) := by
    rw [State.holds, release, Option.map_some]
  exact owners ▸ consistent.owned.release has fun there found =>
    consistent.owned.schemas address _ has there _ found has

/-- The objects stay numbered when one is added. -/
theorem Numbered.added {before after : State} {object : Object} (numbered : Numbered before)
    (added : Added before after object)
    (borrows : ∀ data, object = .data data → data.arrowOwner.array.release ≠ none) :
    Numbered after :=
  numbered.put added.objects (by rw [added.next]; omega) (by rw [added.next]; omega)
    fun data is => borrows data (Option.some.inj is)

/-- A new `ArrowSchema` takes a schema over, and the owners are consistent again. -/
theorem Numbered.addSchema {before after : State} (numbered : Numbered before) {data : Nat}
    (added : Added before after (.schema data))
    (owned : Owned (Function.update before.holds (.schemaOf before.next) (some (.schema data)))
      before.log before.next) : Consistent after := by
  refine ⟨numbered.added added (by simp), ?_⟩
  have unowned : Function.update before.holds (.arrayOf before.next) none = before.holds :=
    Function.update_eq_self_iff.mpr numbered.unused.1.symm
  rw [added.holds, added.log, added.next, Object.release, Option.map_none, unowned]
  exact owned.grows (Nat.le_succ _)

/-- A new object that takes over an array and shares a schema. -/
theorem Numbered.addOwner {before after : State} {object : Object} {number producer : Nat}
    {source : Place} (numbered : Numbered before) (added : Added before after object)
    (release : object.release = some producer) (owned : Owned holds before.log before.next)
    (takes : holds source = some (.array producer)) (empty : holds (.arrayOf before.next) = none)
    (left : before.holds = Function.update holds source none)
    (shares : before.holds (.schemaOf number) = some (.schema object.schemaData)) :
    Consistent after := by
  refine ⟨numbered.added added ?_, ?_⟩
  · rintro data rfl
    rw [Object.release] at release
    simp [release]
  · have moved := owned.move (owned.arrays producer) takes empty
    rw [← left] at moved
    have kept : Function.update before.holds (.arrayOf before.next) (some (.array producer))
        (.schemaOf number) = some (.schema object.schemaData) := by
      rw [Function.update_of_ne (by simp), shares]
    have unshared : Function.update before.holds (.arrayOf before.next) (some (.array producer))
        (.schemaOf before.next) = none := by
      rw [Function.update_of_ne (by simp), numbered.unused.2]
    rw [added.holds, added.log, added.next, release, Option.map_some]
    exact (moved.share kept unshared).grows (Nat.le_succ _)

/-- `ArrowSchema::importFromC` keeps the owners consistent. -/
theorem Consistent.importSchema (consistent : Consistent state) {address : Int} {after : State}
    {reply : Except Thrown Reply} (ran : importSchema state address = some (after, reply)) :
    Consistent after := by
  rw [ArrowChunks.importSchema] at ran
  split at ran
  · obtain ⟨rfl, -⟩ := ran
    exact consistent
  · obtain ⟨checked, -, ran⟩ := Option.bind_eq_some_iff.mp ran
    split at ran
    · obtain ⟨rfl, -⟩ := ran
      exact consistent
    · obtain ⟨producer, release, made⟩ := Option.bind_eq_some_iff.mp ran
      obtain ⟨unowned, unshared⟩ := consistent.unused
      have has : state.holds (.schemaAt address) = some (.schema producer) := by
        rw [State.holds, release, Option.map_some]
      have moved := consistent.owned.move (consistent.owned.schemas address _ has) has unshared
      dsimp only at made
      refine Numbered.addSchema ?_ (added_newObject (Option.some.inj made)) ?_
      · exact consistent.toNumbered.same rfl le_rfl
      · rw [holds_clearSchema]
        exact moved

/-- `ArrowSchema::exportToC` keeps the owners consistent. -/
theorem Consistent.exportSchema (consistent : Consistent state) {data : Nat} {address : Int}
    {after : State} {reply : Except Thrown Reply}
    (ran : exportSchema state data address = some (after, reply)) : Consistent after := by
  rw [ArrowChunks.exportSchema] at ran
  split at ran
  · obtain ⟨rfl, -⟩ := ran
    exact consistent
  · split at ran
    · obtain ⟨rfl, -⟩ := ran
      exact consistent
    · rename_i empty
      obtain ⟨checked, -, ran⟩ := Option.bind_eq_some_iff.mp ran
      split at ran
      · obtain ⟨rfl, -⟩ := ran
        exact consistent
      · obtain ⟨copy, -, made⟩ := Option.bind_eq_some_iff.mp ran
        obtain ⟨rfl, -⟩ := made
        exact consistent.produceSchema (not_not.mp empty)

/-- A native array that was released is not valid. -/
theorem validateArray_released {depths : Nat} {struct : ArrayStruct} {schema : ArrowSchema}
    (released : struct.release = none) : validateArray depths struct.view schema =
      some (.error (valueError "Invalid, released, or incompatible Arrow array")) := by
  obtain ⟨⟨fields, children, dictionary⟩, release⟩ := struct
  obtain ⟨described, schemas, meanings⟩ := schema
  subst released
  rw [ArrayStruct.view, validateArray, validateFields, if_pos (by simp)]

/-- What can be imported was not released. -/
theorem importable_release {schema : ArrowSchema} {address : Int} {source : ArrayStruct}
    (passes : importable schema address source = some (.ok ())) :
    ∃ producer, source.release = some producer := by
  rw [← Option.ne_none_iff_exists']
  intro released
  obtain ⟨valid, -, passes⟩ := Option.bind_eq_some_iff.mp passes
  split at passes
  · cases passes
  · obtain ⟨fields, children, dictionary⟩ := schema
    obtain ⟨format, -, passes⟩ := Option.bind_eq_some_iff.mp passes
    split at passes
    · cases passes
    · split at passes
      · cases passes
      · rw [validateArray_released released] at passes
        cases passes

/-- `ArrowChunk::importFromC` keeps the owners consistent. -/
theorem Consistent.importChunk (consistent : Consistent state) {number data : Nat} {address : Int}
    {after : State} {reply : Except Thrown Reply}
    (schema : state.objects number = some (.schema data))
    (ran : importChunk state data address = some (after, reply)) : Consistent after := by
  obtain ⟨checked, passes, ran⟩ := Option.bind_eq_some_iff.mp ran
  split at ran
  · obtain ⟨rfl, -⟩ := ran
    exact consistent
  · dsimp only at ran
    obtain ⟨producer, release⟩ := importable_release passes
    have takes : state.holds (.arrayAt address) = some (.array producer) := by
      rw [State.holds, release, Option.map_some]
    refine Numbered.addOwner ?_ (added_newObject (Option.some.inj ran)) release consistent.owned
      takes consistent.unused.1 (holds_clearArray address _) (?_ : State.holds _ (.schemaOf number) = _)
    · exact consistent.toNumbered.same rfl le_rfl
    · rw [holds_clearArray, Function.update_of_ne (by simp), holds_schemaOf schema]
      rfl

/-- The array of a chunk is moved to a native struct. -/
theorem Consistent.exportChunk (consistent : Consistent state) {number : Nat}
    {data : ArrowChunkData} {address : Int} {after : State} {reply : Except Thrown Reply}
    (chunk : state.objects number = some (.chunk data))
    (ran : exportChunk state number data address = (after, reply)) : Consistent after := by
  rw [ArrowChunks.exportChunk] at ran
  split at ran
  · obtain ⟨rfl, -⟩ := Prod.mk.inj ran
    exact consistent
  · rename_i unconsumed
    split at ran
    · obtain ⟨rfl, -⟩ := Prod.mk.inj ran
      exact consistent
    · split at ran
      · obtain ⟨rfl, -⟩ := Prod.mk.inj ran
        exact consistent
      · rename_i empty
        obtain ⟨rfl, -⟩ := Prod.mk.inj ran
        obtain ⟨producer, release⟩ := Option.ne_none_iff_exists'.mp unconsumed
        have takes := holds_arrayOf chunk release
        have free : state.holds (.arrayAt address) = none := by
          rw [State.holds, not_not.mp empty, Option.map_none]
        have moved := consistent.owned.move (consistent.owned.arrays producer) takes free
        refine ⟨consistent.toNumbered.put rfl le_rfl (consistent.inside chunk) (by simp), ?_⟩
        rw [holds_setArray, holds_taken chunk, release, Option.map_some]
        exact moved

/-- What an import makes borrows from the array of the chunk and keeps its schema. -/
theorem imported_owner {answers : Answers} {schema : ArrowSchema} {arrow : ArrowChunkData}
    {imported : Imported}
    (ran : duckdbImportArrowChunk answers schema arrow = some imported) :
    (∃ thrown, imported = .refused thrown) ∨
      ((∃ producer, arrow.array.release = some producer) ∧
        ∃ data : DataChunkData, data.arrowOwner = arrow ∧
          (imported = .imported data ∨ ∃ thrown native, imported = .failed thrown data native)) := by
  obtain ⟨fields, children, meanings⟩ := schema
  rw [duckdbImportArrowChunk] at ran
  split at ran
  · exact .inl ⟨_, (Option.some.inj ran).symm⟩
  · rename_i unconsumed
    split at ran
    · exact .inl ⟨_, (Option.some.inj ran).symm⟩
    · obtain ⟨names, -, ran⟩ := Option.bind_eq_some_iff.mp ran
      obtain ⟨normalized, -, ran⟩ := Option.bind_eq_some_iff.mp ran
      split at ran
      · exact .inl ⟨_, (Option.some.inj ran).symm⟩
      · refine .inr ⟨Option.ne_none_iff_exists'.mp unconsumed, ?_⟩
        dsimp only at ran
        split at ran
        · exact ⟨_, rfl, .inr ⟨_, _, (Option.some.inj ran).symm⟩⟩
        · exact ⟨_, rfl, .inr ⟨_, _, (Option.some.inj ran).symm⟩⟩
        · exact ⟨_, rfl, .inl (Option.some.inj ran).symm⟩

/-- The array of a chunk is taken by a data chunk that does not outlive the call. -/
theorem Consistent.consume (consistent : Consistent state) {number : Nat} {data : ArrowChunkData}
    {made : DataChunkData} (chunk : state.objects number = some (.chunk data))
    (owner : made.arrowOwner = data) (native : Bool) {uses : List (Use Handle)}
    (reading : Owned state.holds (state.log ++ uses) state.next) :
    Consistent ((state.setObject number (some (.chunk data.taken))).logged
      (uses ++ destroysData made native)) := by
  refine ⟨consistent.toNumbered.put rfl le_rfl (consistent.inside chunk) (by simp), ?_⟩
  have has : state.holds (.arrayOf number) = made.arrowOwner.array.release.map .array := by
    rw [State.holds, chunk, owner]
    rfl
  have destroyed := reading.destroysData has native
  rw [holds_logged, holds_taken chunk]
  rw [List.append_assoc] at destroyed
  exact destroyed

/-- The buffers of a chunk are read. -/
theorem Consistent.readsChunk (consistent : Consistent state) {number : Nat} {data : ArrowChunkData}
    (chunk : state.objects number = some (.chunk data)) :
    Owned state.holds (state.log ++ reads data.array) state.next := by
  refine consistent.owned.reads (?_ : state.holds (.arrayOf number) = _)
  rw [State.holds, chunk]
  rfl

/-- `Connection::dataChunkFromArrow` keeps the owners consistent. -/
theorem Consistent.dataChunkFromArrow (consistent : Consistent state) {number : Nat}
    {data : ArrowChunkData} {access : Access} {answers : Answers} {after : State}
    {reply : Except Thrown Reply} (chunk : state.objects number = some (.chunk data))
    (ran : dataChunkFromArrow state number data access answers = some (after, reply)) :
    Consistent after := by
  rw [ArrowChunks.dataChunkFromArrow] at ran
  split at ran
  · obtain ⟨rfl, -⟩ := ran
    exact consistent
  · obtain ⟨rfl, -⟩ := ran
    exact consistent
  · obtain ⟨imported, made, ran⟩ := Option.bind_eq_some_iff.mp ran
    obtain ⟨thrown, rfl⟩ | ⟨⟨producer, release⟩, created, owner, rfl | ⟨thrown, native, rfl⟩⟩ :=
      imported_owner made
    · obtain ⟨rfl, -⟩ := ran
      exact consistent
    · dsimp only at ran
      have takes := holds_arrayOf chunk release
      refine Numbered.addOwner ?_ (added_newObject (Option.some.inj ran)) (?_ : _ = some producer)
        (consistent.readsChunk chunk) takes consistent.unused.1 (holds_taken chunk)
        (?_ : State.holds _ (.schemaOf number) = _)
      · exact consistent.toNumbered.put rfl le_rfl (consistent.inside chunk) (by simp)
      · rw [Object.release, owner, release]
      · rw [holds_logged, holds_taken chunk, Function.update_of_ne (by simp), holds_schemaOf chunk,
          Object.schemaData, Object.schemaData, owner]
    · obtain ⟨rfl, -⟩ := ran
      exact consistent.consume chunk owner native (consistent.readsChunk chunk)

/-- `Appender::appendArrow` keeps the owners consistent. -/
theorem Consistent.appendArrow (consistent : Consistent state) {number : Nat}
    {data : ArrowChunkData} {refusal : Option Thrown} {answers : Answers} {appended : Option Thrown}
    {after : State} {reply : Except Thrown Reply}
    (chunk : state.objects number = some (.chunk data))
    (ran : appendArrow state number data refusal answers appended = some (after, reply)) :
    Consistent after := by
  unfold ArrowChunks.appendArrow at ran
  split at ran
  · obtain ⟨rfl, -⟩ := ran
    exact consistent
  · obtain ⟨imported, made, ran⟩ := Option.bind_eq_some_iff.mp ran
    obtain ⟨thrown, rfl⟩ | ⟨-, created, owner, rfl | ⟨thrown, native, rfl⟩⟩ := imported_owner made
    · obtain ⟨rfl, -⟩ := ran
      exact consistent
    · obtain ⟨rfl, -⟩ := ran
      have twice : Owned state.holds (state.log ++ (reads data.array ++ reads data.array))
          state.next := by
        rw [← List.append_assoc]
        refine (consistent.readsChunk chunk).reads (?_ : state.holds (.arrayOf number) = _)
        rw [State.holds, chunk]
        rfl
      exact consistent.consume chunk owner true twice
    · obtain ⟨rfl, -⟩ := ran
      exact consistent.consume chunk owner native (consistent.readsChunk chunk)

/-- `ArrowChunk::schema` keeps the owners consistent. -/
theorem Consistent.schemaOf (consistent : Consistent state) {number : Nat} {data : ArrowChunkData}
    {after : State} {reply : Except Thrown Reply}
    (chunk : state.objects number = some (.chunk data))
    (made : state.newObject (.schema data.schema) = (after, reply)) : Consistent after :=
  consistent.toNumbered.addSchema (added_newObject made)
    (consistent.owned.share (holds_schemaOf chunk) consistent.unused.2)

/-- The rows of a data chunk are read. -/
theorem Consistent.read (consistent : Consistent state) {number : Nat} {data : DataChunkData}
    (is : state.objects number = some (.data data)) :
    Consistent (state.logged (reads data.arrowOwner.array)) := by
  refine ⟨consistent.toNumbered.same rfl le_rfl, ?_⟩
  refine consistent.owned.reads (?_ : state.holds (.arrayOf number) = _)
  rw [State.holds, is]
  rfl

/-- `data_chunk_export` keeps the owners consistent. -/
theorem Consistent.exportData (consistent : Consistent state) {number : Nat} {data : DataChunkData}
    {schema : ArrowSchema} {array : Option (ArrowArray × Nat)} {after : State}
    {reply : Except Thrown Reply} (is : state.objects number = some (.data data))
    (ran : exportData state data schema array = (after, reply)) : Consistent after := by
  have read := consistent.read is
  cases array with
  | none =>
    have added := added_newObject ran
    have empty : state.holds (.schemaOf (state.next + 1)) = none := by
      simp [State.holds, consistent.objects (state.next + 1) (Nat.le_succ _)]
    refine Numbered.addSchema ?_ added (read.owned.create empty rfl)
    exact consistent.toNumbered.same rfl (Nat.le_succ _)
  | some exported =>
    obtain ⟨array, rows⟩ := exported
    have added := added_newObject ran
    have unused : state.objects (state.next + 2) = none := consistent.objects _ (by omega)
    have first : state.holds (.schemaOf (state.next + 2)) = none := by simp [State.holds, unused]
    have second : state.holds (.arrayOf (state.next + 2)) = none := by simp [State.holds, unused]
    have owned : Owned state.holds (state.log ++ reads data.arrowOwner.array) state.next := read.owned
    have made := (owned.create first (rfl : (Handle.schema state.next).producer = _)).create
      ((Function.update_of_ne (by simp) _ _).trans second)
      (rfl : (Handle.array (state.next + 1)).producer = _)
    rw [Function.update_comm (by simp)] at made
    refine ⟨Numbered.added ?_ added (by simp), ?_⟩
    · refine consistent.toNumbered.same rfl ?_
      simp only [State.create, State.setSchemaData, State.logged]
      omega
    · rw [added.holds, added.log, added.next]
      exact made.grows (Nat.le_succ _)

/-- The destructor of an object's data lets go of its array. -/
theorem Consistent.frees (consistent : Consistent state) {number : Nat} {object : Object}
    (is : state.objects number = some object) :
    Owned (Function.update state.holds (.arrayOf number) none) (state.log ++ object.frees)
      state.next := by
  have has : state.holds (.arrayOf number) = object.release.map .array := by
    rw [State.holds, is, Option.bind_some]
  cases object with
  | schema data =>
    rw [Object.frees, List.append_nil, Function.update_eq_self_iff.mpr has.symm]
    exact consistent.owned
  | chunk arrow => exact consistent.owned.releases has
  | data imported => exact consistent.owned.destroysData has true

/-- Freeing a PHP object keeps the owners consistent. -/
theorem Consistent.free (consistent : Consistent state) {number : Nat} {object : Object}
    (is : state.objects number = some object) : Consistent (free state number object) := by
  have left : Numbered ((state.setObject number none).logged object.frees) :=
    consistent.toNumbered.put rfl le_rfl (consistent.inside is) (by simp)
  have dropped := @Consistent.dropSchema _ ((state.setObject number none).logged object.frees)
    number object.schemaData (consistent.frees is)
    (by rw [Function.update_of_ne (by simp), holds_schemaOf is])
    (@holds_setObject state number none) left.objects
  rw [ArrowChunks.free, State.dropSchema] at *
  split
  · rename_i keeps
    rw [if_pos keeps] at dropped
    exact ⟨left, dropped⟩
  · rename_i alone
    rw [if_neg alone] at dropped
    exact ⟨left.same rfl le_rfl, dropped⟩

/-- Every event keeps the owners consistent. -/
theorem consistent_step {event : Event} {after : State} (consistent : Consistent state)
    (stepped : chunks.step state event = some after) : Consistent after := by
  obtain ⟨⟨next, reply⟩, ran, rfl⟩ := Option.map_eq_some_iff.mp stepped
  cases event with
  | produceArray address array =>
    rw [step] at ran
    split at ran
    · cases ran
    · rename_i empty
      obtain ⟨rfl, -⟩ := ran
      exact consistent.produceArray (not_not.mp empty)
  | produceSchema address schema =>
    rw [step] at ran
    split at ran
    · cases ran
    · rename_i empty
      obtain ⟨rfl, -⟩ := ran
      exact consistent.produceSchema (not_not.mp empty)
  | releaseArray address =>
    rw [step] at ran
    split at ran
    · cases ran
    · obtain ⟨rfl, -⟩ := ran
      exact consistent.releaseArray address
  | releaseSchema address =>
    rw [step] at ran
    split at ran
    · cases ran
    · rename_i producer release
      obtain ⟨rfl, -⟩ := ran
      exact consistent.releaseSchema release
  | importSchema address => exact consistent.importSchema ran
  | exportSchema number address =>
    rw [step] at ran
    split at ran
    · exact consistent.exportSchema ran
    · cases ran
  | importChunk number address =>
    rw [step] at ran
    split at ran
    · exact consistent.importChunk ‹_› ran
    · cases ran
  | exportChunk number address =>
    rw [step] at ran
    split at ran
    · exact consistent.exportChunk ‹_› (Option.some.inj ran)
    · cases ran
  | schemaOf number =>
    rw [step] at ran
    split at ran
    · exact consistent.schemaOf ‹_› (Option.some.inj ran)
    · cases ran
  | dataChunkFromArrow number access answers =>
    rw [step] at ran
    split at ran
    · exact consistent.dataChunkFromArrow ‹_› ran
    · cases ran
  | appendArrow number refusal answers appended =>
    rw [step] at ran
    split at ran
    · exact consistent.appendArrow ‹_› ran
    · cases ran
  | read number =>
    rw [step] at ran
    split at ran
    · obtain ⟨rfl, -⟩ := ran
      exact consistent.read ‹_›
    · cases ran
  | exportData number schema array =>
    rw [step] at ran
    split at ran
    · exact consistent.exportData ‹_› (Option.some.inj ran)
    · cases ran
  | free number =>
    rw [step] at ran
    split at ran
    · obtain ⟨rfl, -⟩ := ran
      exact consistent.free ‹_›
    · cases ran

/-- Every state that events lead to is consistent. -/
theorem consistent_run {events : List Event} (ran : chunks.run .start events = some state) :
    Consistent state :=
  chunks.run_preserves (fun _ _ _ => consistent_step) consistent_start ran

/-! ## Consumed chunks -/

/-- What becomes of the objects that there are: nothing, but that one may be freed or the array of a
chunk taken. -/
structure Stays (before after : State) : Prop where
  /-- Numbers are not used again. -/
  next : before.next ≤ after.next
  /-- What becomes of an object. -/
  objects : ∀ number < before.next, after.objects number = before.objects number ∨
    after.objects number = none ∨ ∃ data, before.objects number = some (.chunk data) ∧
      after.objects number = some (.chunk data.taken)

/-- Other objects stay when none of them changes. -/
theorem stays_same {before after : State} (next : before.next ≤ after.next)
    (objects : after.objects = before.objects) : Stays before after :=
  ⟨next, fun number _ => .inl (congrFun objects number)⟩

/-- Other objects stay when one is added. -/
theorem Stays.added {before middle after : State} {object : Object} (stays : Stays before middle)
    (added : Added middle after object) : Stays before after where
  next := by
    have grows := stays.next
    rw [added.next]
    omega
  objects number old := by
    have grows := stays.next
    rw [added.objects, Function.update_of_ne (by omega)]
    exact stays.objects number old

/-- Other objects stay when the array of a chunk is taken. -/
theorem stays_taken {before after : State} {number : Nat} {data : ArrowChunkData}
    (chunk : before.objects number = some (.chunk data)) (next : before.next ≤ after.next)
    (objects : after.objects = Function.update before.objects number (some (.chunk data.taken))) :
    Stays before after where
  next := next
  objects other old := by
    by_cases same : other = number
    · subst same
      exact .inr (.inr ⟨data, chunk, by rw [objects, Function.update_self]⟩)
    · exact .inl (by rw [objects, Function.update_of_ne same])

/-- Other objects stay when one is freed. -/
theorem stays_free (number : Nat) (object : Object) : Stays state (free state number object) := by
  have objects : (free state number object).objects = Function.update state.objects number none := by
    rw [free, State.dropSchema]
    split <;> rfl
  have next : (free state number object).next = state.next := by
    rw [free, State.dropSchema]
    split <;> rfl
  refine ⟨next.ge, fun other old => ?_⟩
  by_cases same : other = number
  · subst same
    exact .inr (.inl (by rw [objects, Function.update_self]))
  · exact .inl (by rw [objects, Function.update_of_ne same])

/-- A conversion takes the array of its chunk at most. -/
theorem stays_dataChunkFromArrow {number : Nat} {data : ArrowChunkData} {access : Access}
    {answers : Answers} {after : State} {reply : Except Thrown Reply}
    (chunk : state.objects number = some (.chunk data))
    (ran : dataChunkFromArrow state number data access answers = some (after, reply)) :
    Stays state after := by
  rw [dataChunkFromArrow] at ran
  split at ran
  · obtain ⟨rfl, -⟩ := ran
    exact stays_same le_rfl rfl
  · obtain ⟨rfl, -⟩ := ran
    exact stays_same le_rfl rfl
  · obtain ⟨imported, -, ran⟩ := Option.bind_eq_some_iff.mp ran
    cases imported with
    | refused thrown =>
      obtain ⟨rfl, -⟩ := ran
      exact stays_same le_rfl rfl
    | failed thrown made native =>
      obtain ⟨rfl, -⟩ := ran
      exact stays_taken chunk le_rfl rfl
    | imported made =>
      dsimp only at ran
      refine Stays.added ?_ (added_newObject (Option.some.inj ran))
      exact stays_taken chunk le_rfl rfl

/-- A chunk stays consumed when `Appender::appendArrow` is called on any chunk. -/
theorem stays_appendArrow {number : Nat} {data : ArrowChunkData} {refusal : Option Thrown}
    {answers : Answers} {appended : Option Thrown} {after : State} {reply : Except Thrown Reply}
    (chunk : state.objects number = some (.chunk data))
    (ran : appendArrow state number data refusal answers appended = some (after, reply)) :
    Stays state after := by
  unfold appendArrow at ran
  split at ran
  · obtain ⟨rfl, -⟩ := ran
    exact stays_same le_rfl rfl
  · obtain ⟨imported, -, ran⟩ := Option.bind_eq_some_iff.mp ran
    cases imported with
    | refused thrown =>
      obtain ⟨rfl, -⟩ := ran
      exact stays_same le_rfl rfl
    | failed thrown made native | imported made =>
      obtain ⟨rfl, -⟩ := ran
      exact stays_taken chunk le_rfl rfl

/-- What one event does to the objects that there are. -/
theorem stays_step {event : Event} {after : State} {reply : Except Thrown Reply}
    (ran : step state event = some (after, reply)) : Stays state after := by
  cases event with
  | produceArray address array | produceSchema address schema | releaseArray address =>
    rw [step] at ran
    split at ran
    · cases ran
    · obtain ⟨rfl, -⟩ := ran
      exact stays_same (by simp [State.create, State.setArray, State.setSchema, State.logged]) rfl
  | releaseSchema address =>
    rw [step] at ran
    split at ran
    · cases ran
    · obtain ⟨rfl, -⟩ := ran
      exact stays_same le_rfl rfl
  | importSchema address =>
    rw [step, importSchema] at ran
    split at ran
    · obtain ⟨rfl, -⟩ := ran
      exact stays_same le_rfl rfl
    · obtain ⟨checked, -, ran⟩ := Option.bind_eq_some_iff.mp ran
      split at ran
      · obtain ⟨rfl, -⟩ := ran
        exact stays_same le_rfl rfl
      · obtain ⟨producer, -, made⟩ := Option.bind_eq_some_iff.mp ran
        dsimp only at made
        refine Stays.added ?_ (added_newObject (Option.some.inj made))
        exact stays_same le_rfl rfl
  | exportSchema number address =>
    rw [step] at ran
    split at ran
    · rw [exportSchema] at ran
      split at ran
      · obtain ⟨rfl, -⟩ := ran
        exact stays_same le_rfl rfl
      · split at ran
        · obtain ⟨rfl, -⟩ := ran
          exact stays_same le_rfl rfl
        · obtain ⟨checked, -, ran⟩ := Option.bind_eq_some_iff.mp ran
          split at ran
          · obtain ⟨rfl, -⟩ := ran
            exact stays_same le_rfl rfl
          · obtain ⟨copy, -, made⟩ := Option.bind_eq_some_iff.mp ran
            obtain ⟨rfl, -⟩ := made
            exact stays_same (Nat.le_succ _) rfl
    · cases ran
  | importChunk number address =>
    rw [step] at ran
    split at ran
    · obtain ⟨checked, -, ran⟩ := Option.bind_eq_some_iff.mp ran
      split at ran
      · obtain ⟨rfl, -⟩ := ran
        exact stays_same le_rfl rfl
      · dsimp only at ran
        refine Stays.added ?_ (added_newObject (Option.some.inj ran))
        exact stays_same le_rfl rfl
    · cases ran
  | exportChunk number address =>
    rw [step] at ran
    split at ran
    · rename_i data chunk
      rw [exportChunk] at ran
      split at ran
      · obtain ⟨rfl, -⟩ := ran
        exact stays_same le_rfl rfl
      · split at ran
        · obtain ⟨rfl, -⟩ := ran
          exact stays_same le_rfl rfl
        · split at ran
          · obtain ⟨rfl, -⟩ := ran
            exact stays_same le_rfl rfl
          · obtain ⟨rfl, -⟩ := ran
            exact stays_taken chunk le_rfl rfl
    · cases ran
  | schemaOf number =>
    rw [step] at ran
    split at ran
    · exact (stays_same le_rfl rfl).added (added_newObject (Option.some.inj ran))
    · cases ran
  | dataChunkFromArrow number access answers =>
    rw [step] at ran
    split at ran
    · exact stays_dataChunkFromArrow ‹_› ran
    · cases ran
  | appendArrow number refusal answers appended =>
    rw [step] at ran
    split at ran
    · exact stays_appendArrow ‹_› ran
    · cases ran
  | read number =>
    rw [step] at ran
    split at ran
    · obtain ⟨rfl, -⟩ := ran
      exact stays_same le_rfl rfl
    · cases ran
  | exportData number schema array =>
    rw [step] at ran
    split at ran
    · rename_i data is
      have made := Option.some.inj ran
      cases array with
      | none =>
        refine Stays.added ?_ (added_newObject made)
        exact stays_same (Nat.le_succ _) rfl
      | some exported =>
        refine Stays.added ?_ (added_newObject made)
        refine stays_same ?_ rfl
        simp only [State.create, State.setSchemaData, State.logged]
        omega
    · cases ran
  | free number =>
    rw [step] at ran
    split at ran
    · obtain ⟨rfl, -⟩ := ran
      exact stays_free _ _
    · cases ran

/-- The array of the chunk is gone, if there still is a chunk. -/
def Consumed (state : State) (number : Nat) : Prop :=
  number < state.next ∧ ∀ object, state.objects number = some object →
    ∃ data, object = .chunk data ∧ data.array.release = none

/-- A chunk that is consumed stays consumed through every event. -/
theorem consumed_step {event : Event} {after : State} {number : Nat}
    (consumed : Consumed state number) (stepped : chunks.step state event = some after) :
    Consumed after number := by
  obtain ⟨⟨next, reply⟩, ran, rfl⟩ := Option.map_eq_some_iff.mp stepped
  obtain ⟨old, taken⟩ := consumed
  have stays := stays_step ran
  refine ⟨lt_of_lt_of_le old stays.next, fun object is => ?_⟩
  obtain same | gone | ⟨data, -, became⟩ := stays.objects number old
  · exact taken object (same ▸ is)
  · rw [gone] at is
    cases is
  · rw [became] at is
    exact ⟨data.taken, (Option.some.inj is).symm, rfl⟩

/-- A consumed chunk stays consumed in every run. -/
theorem consumed_run {events : List Event} {last : State} {number : Nat}
    (consumed : Consumed state number) (ran : chunks.run state events = some last) :
    Consumed last number := by
  have keeps : ∀ state event next, Consumed state number → chunks.step state event = some next →
      Consumed next number := fun _ _ _ consumed => consumed_step consumed
  exact chunks.run_preserves keeps consumed ran

/-- A method call that takes the array of a chunk. -/
def Event.takes (number : Nat) : Event → Prop
  | .exportChunk chunk _ | .dataChunkFromArrow chunk _ _ | .appendArrow chunk _ _ _ => chunk = number
  | _ => False

/-- The connection or the appender lets the call in. -/
def Event.admitted : Event → Prop
  | .dataChunkFromArrow _ access _ => access.closed = false ∧ access.busy = false
  | .appendArrow _ refusal _ _ => refusal = none
  | _ => True

/-- A method call that converts a chunk. -/
def Event.converts (number : Nat) : Event → Prop
  | .dataChunkFromArrow chunk _ _ | .appendArrow chunk _ _ _ => chunk = number
  | _ => False

/-- The import of a consumed chunk is refused. -/
theorem duckdbImportArrowChunk_consumed {answers : Answers} {schema : ArrowSchema}
    {arrow : ArrowChunkData} (released : arrow.array.release = none) :
    duckdbImportArrowChunk answers schema arrow = some (.refused consumed) := by
  obtain ⟨fields, children, meanings⟩ := schema
  rw [duckdbImportArrowChunk, if_pos released]

/-- A consumed chunk reports that it is. -/
theorem consumed_reports {event : Event} {number : Nat} {data : ArrowChunkData}
    (chunk : state.objects number = some (.chunk data)) (released : data.array.release = none)
    (takes : event.takes number) (admitted : event.admitted) :
    step state event = some (state, .error consumed) := by
  cases event with
  | exportChunk used address =>
    obtain rfl : used = number := takes
    simp [step, chunk, exportChunk, released]
  | dataChunkFromArrow used access answers =>
    obtain rfl : used = number := takes
    obtain ⟨opened, idle⟩ := admitted
    simp [step, chunk, dataChunkFromArrow, duckdbConnectionGuard, duckdbConnEnter, opened, idle,
      duckdbImportArrowChunk_consumed released]
  | appendArrow used refusal answers appended =>
    obtain rfl : used = number := takes
    obtain rfl : refusal = none := admitted
    simp [step, chunk, appendArrow, duckdbImportArrowChunk_consumed released]
  | _ => cases takes

/-- A chunk whose array was taken is consumed. -/
theorem consumed_taken {after : State} {number : Nat} {data : ArrowChunkData}
    (old : number < after.next) (is : after.objects number = some (.chunk data.taken)) :
    Consumed after number :=
  ⟨old, fun _ found => ⟨data.taken, Option.some.inj (found.symm.trans is), rfl⟩⟩

/-- A call that takes the array of a chunk consumes it. -/
theorem takes_consumes {event : Event} {number : Nat} {after : State} {reply : Reply}
    (numbered : Numbered state) (takes : event.takes number)
    (ran : step state event = some (after, .ok reply)) : Consumed after number := by
  cases event with
  | exportChunk used address =>
    obtain rfl : used = number := takes
    rw [step] at ran
    split at ran
    · rename_i data chunk
      rw [exportChunk] at ran
      split at ran
      · cases ran
      · split at ran
        · cases ran
        · split at ran
          · cases ran
          · obtain ⟨rfl, -⟩ := ran
            exact consumed_taken (numbered.inside chunk) (Function.update_self ..)
    · cases ran
  | dataChunkFromArrow used access answers =>
    obtain rfl : used = number := takes
    rw [step] at ran
    split at ran
    · rename_i data chunk
      rw [dataChunkFromArrow] at ran
      split at ran
      · cases ran
      · cases ran
      · obtain ⟨imported, -, ran⟩ := Option.bind_eq_some_iff.mp ran
        cases imported with
        | refused thrown | failed thrown made native => cases ran
        | imported made =>
          dsimp only at ran
          have added := added_newObject (Option.some.inj ran)
          have inside := numbered.inside chunk
          have apart : used ≠ state.next := by omega
          refine consumed_taken ?_ (?_ : _ = some (Object.chunk data.taken))
          · rw [added.next]
            exact Nat.lt_succ_of_lt inside
          · rw [added.objects]
            exact (Function.update_of_ne apart ..).trans (Function.update_self ..)
    · cases ran
  | appendArrow used refusal answers appended =>
    obtain rfl : used = number := takes
    rw [step] at ran
    split at ran
    · rename_i data chunk
      unfold appendArrow at ran
      split at ran
      · cases ran
      · obtain ⟨imported, -, ran⟩ := Option.bind_eq_some_iff.mp ran
        cases imported with
        | refused thrown | failed thrown made native => cases ran
        | imported made =>
          obtain ⟨same, -⟩ := Prod.mk.inj (Option.some.inj ran)
          rw [← same]
          exact consumed_taken (numbered.inside chunk) (Function.update_self ..)
    · cases ran
  | _ => cases takes

/-- An import whose normalization fails is refused before it takes anything. -/
theorem duckdbImportArrowChunk_refuses {answers : Answers} {schema : ArrowSchema}
    {arrow : ArrowChunkData} {thrown : Thrown} {imported : Imported}
    (fails : normalizeArrowArray arrow.array.view schema 0 (-1) = some (.error thrown))
    (ran : duckdbImportArrowChunk answers schema arrow = some imported) :
    ∃ thrown, imported = .refused thrown := by
  obtain ⟨fields, children, meanings⟩ := schema
  rw [duckdbImportArrowChunk] at ran
  split at ran
  · exact ⟨_, (Option.some.inj ran).symm⟩
  · split at ran
    · exact ⟨_, (Option.some.inj ran).symm⟩
    · obtain ⟨names, -, ran⟩ := Option.bind_eq_some_iff.mp ran
      rw [fails] at ran
      exact ⟨thrown, (Option.some.inj ran).symm⟩

/-- A conversion whose normalization fails throws and leaves the state as it was. -/
theorem normalization_refuses {event : Event} {number : Nat} {data : ArrowChunkData}
    {thrown : Thrown} {after : State} {reply : Except Thrown Reply}
    (chunk : state.objects number = some (.chunk data)) (converts : event.converts number)
    (fails : normalizeArrowArray data.array.view (state.schemaData data.schema) 0 (-1) =
      some (.error thrown))
    (ran : step state event = some (after, reply)) :
    after = state ∧ ∃ thrown, reply = .error thrown := by
  cases event with
  | dataChunkFromArrow used access answers =>
    obtain rfl : used = number := converts
    rw [step, chunk] at ran
    unfold dataChunkFromArrow at ran
    dsimp only at ran
    split at ran
    · obtain ⟨rfl, rfl⟩ := ran
      exact ⟨rfl, _, rfl⟩
    · obtain ⟨rfl, rfl⟩ := ran
      exact ⟨rfl, _, rfl⟩
    · obtain ⟨imported, made, ran⟩ := Option.bind_eq_some_iff.mp ran
      obtain ⟨refused, rfl⟩ := duckdbImportArrowChunk_refuses fails made
      obtain ⟨rfl, rfl⟩ := ran
      exact ⟨rfl, _, rfl⟩
  | appendArrow used refusal answers appended =>
    obtain rfl : used = number := converts
    rw [step, chunk] at ran
    unfold appendArrow at ran
    dsimp only at ran
    split at ran
    · obtain ⟨rfl, rfl⟩ := ran
      exact ⟨rfl, _, rfl⟩
    · obtain ⟨imported, made, ran⟩ := Option.bind_eq_some_iff.mp ran
      obtain ⟨refused, rfl⟩ := duckdbImportArrowChunk_refuses fails made
      obtain ⟨rfl, rfl⟩ := ran
      exact ⟨rfl, _, rfl⟩
  | _ => cases converts

/-- A rejected `ArrowChunk::importFromC` leaves everything as it is. -/
theorem importChunk_rejected {number : Nat} {address : Int} {after : State} {thrown : Thrown}
    (ran : step state (.importChunk number address) = some (after, .error thrown)) :
    after = state := by
  rw [step] at ran
  split at ran
  · obtain ⟨checked, -, ran⟩ := Option.bind_eq_some_iff.mp ran
    split at ran
    · obtain ⟨rfl, -⟩ := ran
      rfl
    · cases ran
  · cases ran

/-! ## Ownership in every run -/

/-- What holds in every state of the ownership of arrays. -/
structure Linear (state : State) : Prop where
  /-- An array that something owns was not released, one that nothing owns any more was released
  once, and none is released twice. -/
  released : ∀ producer,
    Told (∃ place, state.holds place = some (.array producer)) state.log (.array producer)
  /-- Nothing reads an array after its release. -/
  unread : ∀ producer before after, state.log = before ++ .destroy (.array producer) :: after →
    .touch (.array producer) ∉ after
  /-- The array that a live data chunk borrows from was not released. -/
  borrowed : ∀ number data, state.objects number = some (.data data) →
    ∃ producer, data.arrowOwner.array.release = some producer ∧
      .destroy (.array producer) ∉ state.log
  /-- A rejected `ArrowChunk::importFromC` leaves everything as it is. -/
  rejected : ∀ number address after thrown,
    step state (.importChunk number address) = some (after, .error thrown) → after = state
  /-- So does a conversion whose normalization fails. -/
  normalized : ∀ event number data after reply thrown, event.converts number →
    state.objects number = some (.chunk data) →
    normalizeArrowArray data.array.view (state.schemaData data.schema) 0 (-1) =
      some (.error thrown) →
    step state event = some (after, reply) → after = state ∧ ∃ thrown, reply = .error thrown
  /-- After a call that took its array, every use of the chunk reports that it is consumed. -/
  consumed : ∀ event number after reply, event.takes number →
    step state event = some (after, .ok reply) →
    ∀ later last data, chunks.run after later = some last →
      last.objects number = some (.chunk data) → isConsumed data = true ∧
        ∀ use : Event, use.takes number → use.admitted →
          step last use = some (last, .error ArrowChunks.consumed)

/-- In every run of imports, exports, conversions and destructions, whatever fails in them, the
ownership of an Arrow array is linear. -/
theorem chunk_ownership {events : List Event} (ran : chunks.run .start events = some state) :
    Linear state := by
  have consistent := consistent_run ran
  refine ⟨fun producer => Leaves.told consistent.owned.held _, fun producer before after parts =>
    (Leaves.never_after consistent.owned.held parts).1, fun number data is => ?_,
    fun number address after thrown stepped => importChunk_rejected stepped,
    fun event number data after reply thrown converts chunk fails stepped =>
      normalization_refuses chunk converts fails stepped,
    fun event number after reply takes stepped later last data onwards chunk => ?_⟩
  · obtain ⟨producer, release⟩ :=
      Option.ne_none_iff_exists'.mp (consistent.borrows number data is)
    exact ⟨producer, release, (Leaves.told consistent.owned.held _).kept ⟨_, holds_arrayOf is release⟩⟩
  · obtain ⟨-, taken⟩ :=
      consumed_run (takes_consumes consistent.toNumbered takes stepped) onwards
    obtain ⟨other, same, released⟩ := taken _ chunk
    obtain rfl : data = other := Object.chunk.inj same
    exact ⟨by simp [isConsumed, released], fun use takes admitted =>
      consumed_reports chunk released takes admitted⟩

/-- The format of a STRUCT has no NUL byte. -/
theorem structFormat_clean : (0 : UInt8) ∉ SqlText.lit "+s" := by decide

/-- The schema of a batch without columns. -/
def noColumns : ArrowSchema :=
  .mk ⟨some ⟨SqlText.lit "+s", structFormat_clean⟩, none, none, 0, 0, false, true⟩ .nil .null

/-- An array of two rows without columns. -/
def twoRows : ArrowArray := .mk ⟨2, 0, 0, 1, 0, true, [none], false, true⟩ .nil .null

/-- A batch is imported, converted to a data chunk, read and freed; converting it again fails. -/
def passedOn : List Event :=
  [.produceSchema 8 noColumns, .importSchema 8, .produceArray 16 twoRows, .importChunk 1 16,
    .dataChunkFromArrow 3 .granted ⟨none, none, none⟩, .dataChunkFromArrow 3 .granted ⟨none, none, none⟩,
    .read 4, .free 4, .free 3, .free 1]

/-- What the producers see of the run that passes a chunk on. -/
theorem passedOn_log : (chunks.run .start passedOn).map State.log =
    some [.create (.schema 0), .create (.array 2), .touch (.array 2), .touch (.array 2),
      .touch (.array 2), .destroy (.array 2), .destroy (.schema 0)] := by
  decide +kernel

/-- The batch is released once, after its last use. -/
theorem chunk_ownership_passedOn : ∃ state, chunks.run .start passedOn = some state ∧
    Linear state ∧ .destroy (.array 2) ∈ state.log := by
  obtain ⟨state, ran, log⟩ := Option.map_eq_some_iff.mp passedOn_log
  exact ⟨state, ran, chunk_ownership ran, by simp [log]⟩

/-! ## Shared schemas -/

/-- In every run a schema is kept as long as a native struct or a PHP object keeps it, is never
released twice, and was released once it was created and none of them keeps it any more. -/
theorem schema_shared {events : List Event} (ran : chunks.run .start events = some state)
    (producer : Nat) :
    (∀ address, (state.schemas address).release = some producer →
      .destroy (.schema producer) ∉ state.log) ∧
    (∀ number object, state.objects number = some object → object.schemaData = producer →
      .destroy (.schema producer) ∉ state.log) ∧
    state.log.count (.destroy (.schema producer)) ≤ 1 ∧
    (.create (.schema producer) ∈ state.log →
      (∀ address, (state.schemas address).release ≠ some producer) →
      (∀ number object, state.objects number = some object → object.schemaData ≠ producer) →
      state.log.count (.destroy (.schema producer)) = 1) := by
  have told := Leaves.told (consistent_run ran).owned.held (.schema producer)
  refine ⟨fun address release => told.kept ⟨.schemaAt address, ?_⟩,
    fun number object is keeps => told.kept ⟨.schemaOf number, ?_⟩, told.twice,
    fun created native php => told.once created ?_⟩
  · rw [State.holds, release, Option.map_some]
  · rw [holds_schemaOf is, keeps]
  · rintro ⟨place, found⟩
    cases place with
    | arrayAt address | arrayOf number =>
      rw [State.holds, Option.map_eq_some_iff] at found
      obtain ⟨_, _, same⟩ := found
      cases same
    | schemaAt address =>
      rw [State.holds, Option.map_eq_some_iff] at found
      obtain ⟨other, release, same⟩ := found
      obtain rfl := Handle.schema.inj same
      exact native address release
    | schemaOf number =>
      rw [State.holds, Option.map_eq_some_iff] at found
      obtain ⟨object, is, same⟩ := found
      exact php number object is (Handle.schema.inj same)

/-- While the `ArrowSchema` of the batch is there its schema is not released. -/
theorem schema_shared_passedOn : ∃ state, chunks.run .start (passedOn.take 9) = some state ∧
    .destroy (.schema 0) ∉ state.log := by
  have kept : (chunks.run .start (passedOn.take 9)).bind
      (fun state => (state.objects 1).map Object.schemaData) = some 0 := by
    decide +kernel
  obtain ⟨state, ran, found⟩ := Option.bind_eq_some_iff.mp kept
  obtain ⟨object, is, keeps⟩ := Option.map_eq_some_iff.mp found
  exact ⟨state, ran, (schema_shared ran 0).2.1 1 object is keeps⟩

end PhpDuckdb.ArrowChunks
