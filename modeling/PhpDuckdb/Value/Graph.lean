import PhpDuckdb.Lib.Worklist
import PhpDuckdb.Value.Zval

/-!
# Graphs of PHP values

PHP values in memory: an array is the address of its table, so arrays can be shared and, through
references, contain themselves. `convertValues_typed_iff` says that the search for typed values ends
on every such graph with the right answer, and so takes the typed path when it should.
-/

namespace PhpDuckdb.ValueGraph

open SqlText Value

/-- What a zval holds: a scalar, or the address of what it points to. -/
inductive Cell where
  | null
  | bool (value : Bool)
  | long (value : Int64)
  /-- The bits of a double. -/
  | double (bits : UInt64)
  | string (text : Bytes)
  /-- `Z_ARRVAL_P`. -/
  | array (table : Nat)
  /-- `Z_OBJ_P`. -/
  | object (handle : Nat)
  | resource
  /-- `Z_REF_P`. -/
  | reference (target : Nat)
deriving DecidableEq, Repr

/-- `IS_REFERENCE`: the cell refers to another one. -/
def Cell.isReference : Cell → Bool
  | .reference _ => true
  | _ => false

/-- What an object of PHP is to the conversion. -/
inductive Object where
  /-- A `DuckDB\Value`: its type and its input, once its constructor ran. -/
  | value (content : Option (CanonicalType × Cell))
  /-- A `DuckDB\Interval`. -/
  | interval (months days : Int32) (micros : Int64)
  /-- A DateTime, or a DateTimeImmutable: epoch seconds and microseconds, once its constructor
  ran. -/
  | date (immutable : Bool) (time : Option (Int64 × Int64))
  /-- Any other object, by its class. -/
  | other (className : Bytes)

/-- `instanceof_function(Z_OBJCE_P(v), value_ce)`: the object is a wrapper. -/
def Object.isValue : Object → Bool
  | .value _ => true
  | _ => false

end PhpDuckdb.ValueGraph

namespace PhpDuckdb

open SqlText Value ValueGraph

/-- The values of a program in memory, by addresses. Nothing is behind an address that was not given
out, and it reads as empty. -/
structure ValueGraph where
  /-- The tables of arrays. -/
  tables : List (List (Key × Cell))
  /-- The targets of references. -/
  targets : List Cell
  /-- The objects. -/
  objects : List Object
  /-- PHP never nests references. -/
  flat : ∀ target ∈ targets, target.isReference = false

namespace ValueGraph

variable (graph : ValueGraph)

/-- The entries of a table in order. -/
def table (address : Nat) : List (Key × Cell) := graph.tables[address]?.getD []

/-- What is at the target of a reference, or null where nothing is. -/
def target (address : Nat) : Cell := graph.targets[address]?.getD .null

/-- The object of a handle, or an empty one where nothing is. -/
def object (address : Nat) : Object := graph.objects[address]?.getD (.other [])

/-- `ZVAL_DEREF`: one reference is followed, which is enough as PHP nests none. -/
def deref : Cell → Cell
  | .reference address => graph.target address
  | cell => cell

/-- The target of a reference is not a reference. -/
theorem target_flat (address : Nat) : (graph.target address).isReference = false := by
  rw [target]
  cases found : graph.targets[address]? with
  | none => rfl
  | some cell => exact graph.flat cell (List.mem_of_getElem? found)

/-- What is no reference is followed to itself. -/
theorem deref_direct {cell : Cell} (direct : cell.isReference = false) :
    graph.deref cell = cell := by
  cases cell with
  | reference => cases direct
  | _ => rfl

/-- A dereferenced value is not a reference. -/
theorem deref_flat (cell : Cell) : (graph.deref cell).isReference = false := by
  cases cell with
  | reference address => exact graph.target_flat address
  | _ => rfl

/-- Following a reference twice changes nothing. -/
@[simp]
theorem deref_deref (cell : Cell) : graph.deref (graph.deref cell) = graph.deref cell :=
  graph.deref_direct (graph.deref_flat cell)

/-- A value leads to another: a reference to its target, an array to its elements. -/
inductive Follows : Cell → Cell → Prop
  | target (address : Nat) : Follows (.reference address) (graph.target address)
  | element {address : Nat} {key : Key} {item : Cell} (member : (key, item) ∈ graph.table address) :
      Follows (.array address) item

/-- A value is a `DuckDB\Value` object. -/
def isValue : Cell → Bool
  | .object handle => (graph.object handle).isValue
  | _ => false

/-- A typed value can be reached by following references and elements. -/
def ReachesTyped (root : Cell) : Prop :=
  ∃ node, Relation.ReflTransGen graph.Follows root node ∧ graph.isValue node = true

/-- The address of an array's table, and none of anything else. -/
def arrayOf : Cell → Option Nat
  | .array address => some address
  | _ => none

/-- The graph that `duckdb_value_contains_typed` searches: a value is looked at through its
reference, and each table is expanded once. -/
def typedGraph : Worklist.Graph Cell Nat where
  goal cell := graph.isValue (graph.deref cell)
  key cell := arrayOf (graph.deref cell)
  children address := (graph.table address).map Prod.snd
  keys := Finset.range graph.tables.length
  finite address outside := by
    rw [Finset.mem_range, Nat.not_lt] at outside
    rw [table, List.getElem?_eq_none outside]
    rfl

/-- `duckdb_value_contains_typed`: the tables seen are those whose elements were pushed. -/
def containsTyped (root : Cell) : Bool := graph.typedGraph.search ∅ [root]

/-- The search expands a cell exactly when it is an array. -/
theorem arrayOf_eq_some {cell : Cell} {address : Nat} :
    arrayOf cell = some address ↔ cell = .array address := by
  constructor
  · intro isArray
    cases cell with
    | array other => exact congrArg Cell.array (Option.some.inj isArray)
    | _ => cases isArray
  · rintro rfl
    rfl

/-- A value reaches what it holds behind a reference. -/
theorem reaches_deref (cell : Cell) :
    Relation.ReflTransGen graph.Follows cell (graph.deref cell) := by
  cases cell with
  | reference address => exact .single (.target address)
  | _ => exact .refl

/-- One step of the search follows a reference and an element. -/
theorem leads_reaches {cell next : Cell} (leads : graph.typedGraph.Leads cell next) :
    Relation.ReflTransGen graph.Follows cell next := by
  obtain ⟨address, isArray, member⟩ := leads
  obtain ⟨⟨key, item⟩, inside, rfl⟩ := List.mem_map.mp member
  have through : graph.deref cell = .array address := arrayOf_eq_some.mp isArray
  have reaches := graph.reaches_deref cell
  rw [through] at reaches
  exact reaches.tail (.element inside)

/-- The search sees a reference as its target. -/
theorem leads_target {address : Nat} {found : Cell}
    (leads : Relation.ReflTransGen graph.typedGraph.Leads (graph.target address) found)
    (goal : graph.typedGraph.goal found = true) :
    ∃ other, Relation.ReflTransGen graph.typedGraph.Leads (.reference address) other ∧
      graph.typedGraph.goal other = true := by
  have direct := graph.deref_direct (graph.target_flat address)
  cases leads.cases_head with
  | inl same =>
    subst same
    refine ⟨.reference address, .refl, ?_⟩
    change graph.isValue (graph.deref (graph.target address)) = true at goal
    rw [direct] at goal
    exact goal
  | inr further =>
    obtain ⟨next, ⟨inside, isArray, member⟩, rest⟩ := further
    change arrayOf (graph.deref (graph.target address)) = some inside at isArray
    rw [direct] at isArray
    exact ⟨found, .head ⟨inside, isArray, member⟩ rest, goal⟩

/-- What the search looks for is what can be reached. -/
theorem finds_iff_reachesTyped (root : Cell) :
    graph.typedGraph.Finds ∅ root ↔ graph.ReachesTyped root := by
  rw [Worklist.Graph.finds_iff_reaches]
  constructor
  · rintro ⟨last, leads, goal⟩
    have reaches : Relation.ReflTransGen graph.Follows root last := by
      clear goal
      induction leads with
      | refl => exact .refl
      | tail _ step ih => exact ih.trans (graph.leads_reaches step)
    exact ⟨graph.deref last, reaches.trans (graph.reaches_deref last), goal⟩
  · rintro ⟨node, reaches, isValue⟩
    induction reaches using Relation.ReflTransGen.head_induction_on with
    | refl =>
      refine ⟨node, .refl, ?_⟩
      cases node with
      | object handle => exact isValue
      | _ => cases isValue
    | head step _ ih =>
      obtain ⟨last, leads, goal⟩ := ih
      cases step with
      | target address => exact graph.leads_target leads goal
      | @element address key item member =>
        exact ⟨last, .head ⟨address, rfl, List.mem_map.mpr ⟨_, member, rfl⟩⟩ leads, goal⟩

/-- `duckdb_value_contains_typed` answers whether a typed value can be reached. -/
theorem containsTyped_reaches (root : Cell) :
    graph.containsTyped root = true ↔ graph.ReachesTyped root := by
  rw [containsTyped, Worklist.Graph.search_iff]
  simp only [List.mem_singleton, exists_eq_left]
  exact graph.finds_iff_reachesTyped root

/-! ## The path of a conversion -/

/-- The loop of `duckdb_convert_values` over its inputs. -/
def anyTyped : List Cell → Bool
  | [] => false
  | input :: rest => if graph.containsTyped input then true else anyTyped rest

/-- The loop of the plain path over the inputs, up to the first that fails. -/
def plainPath {Converted : Type} (convert : Cell → Option Converted) :
    List Cell → Option (List Converted)
  | [] => some []
  | input :: rest =>
    match convert input with
    | none => none
    | some value => (plainPath convert rest).map (value :: ·)

/-- `duckdb_convert_values`, over what its two paths do. -/
def duckdbConvertValues {Converted : Type} (convert : Cell → Option Converted)
    (typedPath : List Cell → Option (List Converted)) (inputs : List Cell) :
    Option (List Converted) :=
  if graph.anyTyped inputs then typedPath inputs else plainPath convert inputs

/-- The loop looks for a typed value in any input. -/
theorem anyTyped_iff (inputs : List Cell) :
    graph.anyTyped inputs = true ↔ ∃ input ∈ inputs, graph.ReachesTyped input := by
  induction inputs with
  | nil => exact iff_of_false Bool.false_ne_true nofun
  | cons input rest ih =>
    rw [anyTyped, List.exists_mem_cons_iff, ← graph.containsTyped_reaches input, ← ih]
    cases graph.containsTyped input <;> simp

/-- **The search for a typed value ends on every graph of values and finds one exactly when one can
be reached, and a conversion takes the typed path exactly when that is so of one of its inputs.** -/
theorem convertValues_typed_iff (graph : ValueGraph) :
    (∀ root, graph.containsTyped root = true ↔ graph.ReachesTyped root) ∧
      ∀ {Converted : Type} (convert : Cell → Option Converted)
        (typedPath : List Cell → Option (List Converted)) (inputs : List Cell),
        ((∃ input ∈ inputs, graph.ReachesTyped input) →
            graph.duckdbConvertValues convert typedPath inputs = typedPath inputs) ∧
          ((∀ input ∈ inputs, ¬ graph.ReachesTyped input) →
            graph.duckdbConvertValues convert typedPath inputs = plainPath convert inputs) := by
  refine ⟨graph.containsTyped_reaches, ?_⟩
  intro Converted convert typedPath inputs
  constructor
  · intro typed
    rw [duckdbConvertValues, if_pos ((graph.anyTyped_iff inputs).mpr typed)]
  · intro none
    have plain : ¬ graph.anyTyped inputs = true := fun found => by
      obtain ⟨input, member, reaches⟩ := (graph.anyTyped_iff inputs).mp found
      exact none input member reaches
    rw [duckdbConvertValues, if_neg plain]

/-- An array with a typed value behind an element that is the array itself. -/
def selfReferring : ValueGraph :=
  ⟨[[(.index 0, .reference 0), (.index 1, .object 0)]], [.array 0], [.value none], by decide⟩

/-- The search goes on behind the array that it has seen. -/
theorem convertValues_typed_selfReferring :
    selfReferring.duckdbConvertValues (fun _ => none) (fun _ => some [true]) [.array 0] =
      some [true] := by
  apply ((convertValues_typed_iff selfReferring).2 _ _ _).1
  exact ⟨.array 0, List.mem_singleton_self _, .object 0,
    .single (.element (List.mem_cons_of_mem _ List.mem_cons_self)), rfl⟩

/-! ## Trees -/

/-- A value reaches a typed value from itself or from where it leads. -/
theorem reachesTyped_iff (cell : Cell) :
    graph.ReachesTyped cell ↔
      graph.isValue cell = true ∨ ∃ next, graph.Follows cell next ∧ graph.ReachesTyped next := by
  constructor
  · rintro ⟨node, reaches, isValue⟩
    cases reaches.cases_head with
    | inl same => exact .inl (same ▸ isValue)
    | inr further =>
      obtain ⟨next, step, rest⟩ := further
      exact .inr ⟨next, step, node, rest, isValue⟩
  · intro typed
    cases typed with
    | inl here => exact ⟨cell, .refl, here⟩
    | inr further =>
      obtain ⟨next, step, node, rest, isValue⟩ := further
      exact ⟨node, .head step rest, isValue⟩

mutual

/-- A value of the graph read as a tree, which is what it is when no array contains itself. -/
inductive Unfolds : Cell → Zval → Prop
  | null : Unfolds .null .null
  | bool (value : Bool) : Unfolds (.bool value) (.bool value)
  | long (value : Int64) : Unfolds (.long value) (.long value)
  | double (bits : UInt64) : Unfolds (.double bits) (.double bits)
  | string (text : Bytes) : Unfolds (.string text) (.string text)
  | array {address : Nat} {elements : Elements}
      (entries : UnfoldsEntries (graph.table address) elements) :
      Unfolds (.array address) (.array elements)
  | fresh {handle : Nat} {input : Zval} (found : graph.object handle = .value none) :
      Unfolds (.object handle) (.value none input)
  | value {handle : Nat} {type : CanonicalType} {stored : Cell} {input : Zval}
      (found : graph.object handle = .value (some (type, stored))) (inside : Unfolds stored input) :
      Unfolds (.object handle) (.value (some type) input)
  | interval {handle : Nat} {months days : Int32} {micros : Int64}
      (found : graph.object handle = .interval months days micros) :
      Unfolds (.object handle) (.interval months days micros)
  | date {handle : Nat} {immutable : Bool} {time : Option (Int64 × Int64)}
      (found : graph.object handle = .date immutable time) :
      Unfolds (.object handle) (.dateTime time)
  | other {handle : Nat} {className : Bytes} (found : graph.object handle = .other className) :
      Unfolds (.object handle) (.object className)
  | resource : Unfolds .resource .resource
  | reference {address : Nat} {value : Zval} (inside : Unfolds (graph.target address) value) :
      Unfolds (.reference address) (.reference value)

/-- The entries of a table read as elements. -/
inductive UnfoldsEntries : List (Key × Cell) → Elements → Prop
  | nil : UnfoldsEntries [] .nil
  | cons {key : Key} {item : Cell} {value : Zval} {rest : List (Key × Cell)} {others : Elements}
      (head : Unfolds item value) (more : UnfoldsEntries rest others) :
      UnfoldsEntries ((key, item) :: rest) (.cons key value others)

end

/-- An object reaches a typed value when it is one. -/
theorem reachesTyped_object (handle : Nat) :
    graph.ReachesTyped (.object handle) ↔ (graph.object handle).isValue = true := by
  rw [reachesTyped_iff, or_iff_left]
  · rfl
  · rintro ⟨next, step, -⟩
    cases step

/-- An array reaches what its elements reach. -/
theorem reachesTyped_array (address : Nat) :
    graph.ReachesTyped (.array address) ↔
      ∃ entry ∈ graph.table address, graph.ReachesTyped entry.2 := by
  have untyped : ¬ graph.isValue (.array address) = true := Bool.false_ne_true
  rw [reachesTyped_iff, or_iff_right untyped]
  constructor
  · rintro ⟨next, step, reaches⟩
    cases step with
    | element member => exact ⟨_, member, reaches⟩
  · rintro ⟨entry, member, reaches⟩
    exact ⟨entry.2, .element member, reaches⟩

/-- A reference reaches what its target reaches. -/
theorem reachesTyped_reference (address : Nat) :
    graph.ReachesTyped (.reference address) ↔ graph.ReachesTyped (graph.target address) := by
  have untyped : ¬ graph.isValue (.reference address) = true := Bool.false_ne_true
  rw [reachesTyped_iff, or_iff_right untyped]
  constructor
  · rintro ⟨next, step, reaches⟩
    cases step with
    | target => exact reaches
  · exact fun reaches => ⟨_, .target address, reaches⟩

/-- A scalar that is no wrapper reaches none. -/
theorem reachesTyped_scalar {cell : Cell} (leaf : ∀ next, ¬ graph.Follows cell next)
    (untyped : graph.isValue cell = false) : ¬ graph.ReachesTyped cell := by
  rw [reachesTyped_iff, untyped]
  rintro (isValue | ⟨next, step, -⟩)
  · cases isValue
  · exact leaf next step

mutual

/-- A typed value can be reached when the tree contains one. -/
theorem Unfolds.reachesTyped : ∀ {cell : Cell} {value : Zval}, graph.Unfolds cell value →
    (graph.ReachesTyped cell ↔ value.containsTyped = true)
  | _, _, .null => iff_of_false (graph.reachesTyped_scalar nofun rfl) Bool.false_ne_true
  | _, _, .bool _ => iff_of_false (graph.reachesTyped_scalar nofun rfl) Bool.false_ne_true
  | _, _, .long _ => iff_of_false (graph.reachesTyped_scalar nofun rfl) Bool.false_ne_true
  | _, _, .double _ => iff_of_false (graph.reachesTyped_scalar nofun rfl) Bool.false_ne_true
  | _, _, .string _ => iff_of_false (graph.reachesTyped_scalar nofun rfl) Bool.false_ne_true
  | _, _, .resource => iff_of_false (graph.reachesTyped_scalar nofun rfl) Bool.false_ne_true
  | _, _, .array entries => (graph.reachesTyped_array _).trans entries.reachesTyped
  | _, _, .fresh found => by
    rw [reachesTyped_object, found]
    rfl
  | _, _, .value found _ => by
    rw [reachesTyped_object, found]
    rfl
  | _, _, .interval found => by
    rw [reachesTyped_object, found]
    rfl
  | _, _, .date found => by
    rw [reachesTyped_object, found]
    rfl
  | _, _, .other found => by
    rw [reachesTyped_object, found]
    rfl
  | _, _, .reference inside => (graph.reachesTyped_reference _).trans inside.reachesTyped

/-- Some entry reaches a wrapper exactly when its unfolded elements contain one. -/
theorem UnfoldsEntries.reachesTyped : ∀ {entries : List (Key × Cell)} {elements : Elements},
    graph.UnfoldsEntries entries elements →
      ((∃ entry ∈ entries, graph.ReachesTyped entry.2) ↔ elements.containsTyped = true)
  | _, _, .nil => iff_of_false nofun Bool.false_ne_true
  | _, _, .cons head more => by
    rw [List.exists_mem_cons_iff, Elements.containsTyped, Bool.or_eq_true]
    exact or_congr head.reachesTyped more.reachesTyped

end

/-- On a tree the search finds what `Zval.containsTyped` finds. -/
theorem containsTyped_unfolds {cell : Cell} {value : Zval} (unfolds : graph.Unfolds cell value) :
    graph.containsTyped cell = value.containsTyped := by
  rw [Bool.eq_iff_iff, containsTyped_reaches]
  exact unfolds.reachesTyped

end ValueGraph

end PhpDuckdb
