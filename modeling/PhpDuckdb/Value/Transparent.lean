import PhpDuckdb.Value.Evaluation
import PhpDuckdb.Value.NonInterference
import PhpDuckdb.Value.Obstacles

/-!
# When references are transparent

References make a difference to a conversion where the plain converter comes upon one, unless the
inputs cannot be converted without them either. What cannot be converted is said by the shape of the
inputs: for the plain converter by `Zval.obstacles`, for the builder by `AsInferred`, which follows
the declared types.
-/

namespace PhpDuckdb.Value

open SqlText Lockstep

/-! ## What the builder writes -/

/-- A type that `sql_type` can spell within its limit. -/
def Named (type : LogicalType) : Prop := ∃ text, sqlType 65 type = .ok text

/-- The type of the member that a UNION tag names. -/
def Members.named (tag : Bytes) : Members → Option LogicalType
  | .nil => none
  | .cons name type rest => if name = tag then some type else rest.named tag

/-- A field of a STRUCT has a value that its type accepts. -/
def AsField (accepts : Zval → LogicalType → Prop) (elements : Elements)
    (member : Bytes × LogicalType) : Prop :=
  ∃ value, elements.find (symKey member.1) = some value ∧ Named member.2 ∧ accepts value member.2

/-- An entry of a MAP has a key and a value that their types accept. -/
def AsEntry (accepts : Zval → LogicalType → Prop) (key value : LogicalType) (entry : Zval) : Prop :=
  (entry.deref.isArray && entry.deref.elements.count = 2) = true ∧
    ∃ k v, entry.deref.elements.find (.name (lit "key")) = some k ∧
      entry.deref.elements.find (.name (lit "value")) = some v ∧
      Named key ∧ accepts k key ∧ Named value ∧ accepts v value

/-- An array has the tag of a UNION and a value that the type of the tag's member accepts. -/
def AsUnion (accepts : Zval → LogicalType → Prop) (members : Members) (elements : Elements) : Prop :=
  ∃ tag payload, elements.find (.name (lit "tag")) = some tag ∧
    elements.find (.name (lit "value")) = some payload ∧ tag.deref.isString = true ∧
    ∃ type, members.named tag.deref.stringBytes = some type ∧ Named type ∧ accepts payload type

/-- Nothing stands in the way of the plain converter. -/
def Unobstructed (makesVarchar : Bytes → Bool) (v : Zval) : Prop :=
  v.obstacles makesVarchar (maxNestingDepth + 1) = []

section Writes

variable (native : Native)

mutual

/-- A value that `builder::inferred` writes without a failure. -/
def AsInferred : Nat → Zval → Prop
  | 0, _ => False
  | room + 1, v =>
    match v.deref with
    | .value none _ => False
    | .value (some type) input =>
      ∃ metadata, native.prepare (resolveSql type.text) = .ok metadata ∧ AsTyped room input metadata
    | .array elements =>
      if elements.containsTyped then ∀ entry ∈ elements.toList, AsInferred room entry.2
      else Unobstructed native.makesVarchar (.array elements)
    | other => Unobstructed native.makesVarchar other

/-- A value that `builder::variant_source` writes without a failure. -/
def AsVariant : Nat → Zval → Prop
  | 0, _ => False
  | room + 1, v =>
    match v.deref with
    | .array elements => ∀ entry ∈ elements.toList, AsVariant room entry.2
    | other => AsInferred room other

/-- A value that `builder::typed` writes at a type. -/
def AsTyped : Nat → Zval → LogicalType → Prop
  | 0, _, _ => False
  | room + 1, v, t =>
    match v.deref with
    | .null => True
    | .value type input => AsInferred room (.value type input)
    | v =>
      match t with
      | .list child =>
        (v.isArray && v.elements.isList) = true ∧ Named child ∧
          ∀ entry ∈ v.elements.toList, AsTyped room entry.2 child
      | .array child size =>
        (v.isArray && v.elements.isList) = true ∧ v.elements.count = size ∧ Named child ∧
          ∀ entry ∈ v.elements.toList, AsTyped room entry.2 child
      | .struct members =>
        v.isArray = true ∧ v.elements.count = members.count ∧
          ∀ member ∈ members.toList, AsField (AsTyped room) v.elements member
      | .map key value =>
        (v.isArray && v.elements.isList) = true ∧
          (∀ entry ∈ v.elements.toList, AsEntry (AsTyped room) key value entry.2) ∧
          Named key ∧ Named value
      | .union members =>
        (v.isArray && v.elements.count = 2) = true ∧ AsUnion (AsTyped room) members v.elements
      | .plain .variant _ =>
        match v with
        | .array elements => AsVariant room (.array elements)
        | v => AsInferred room v
      | .plain .blob _ =>
        match v with
        | .string _ => True
        | v => AsInferred room v
      | _ => AsInferred room v

end

/-! ## Steps -/

/-- A step runs when it can, and fails otherwise. -/
structure Runs {α : Type} (step : Build α) (can : Prop) : Prop where
  /-- It runs. -/
  runs : can → ∀ builder, Resolved native builder →
    ∃ result after, step builder = .ok (result, after) ∧ Resolved native after
  /-- It fails. -/
  fails : ¬can → ∀ builder, Resolved native builder → ∃ failure, step builder = .error failure

variable {native} {α β : Type}

/-- A step that only returns runs whatever its input is. -/
theorem runs_pure (result : α) : Runs native (pure result) True :=
  ⟨fun _ builder resolved => ⟨result, builder, rfl, resolved⟩, fun never => absurd trivial never⟩

/-- A step that only fails never runs. -/
theorem runs_fail (failure : Failure) : Runs native (fail failure : Build α) False :=
  ⟨False.elim, fun _ _ _ => ⟨failure, rfl⟩⟩

/-- A step runs under every condition equivalent to its own. -/
theorem Runs.when {step : Build α} {can could : Prop} (step_runs : Runs native step can)
    (same : can ↔ could) : Runs native step could := by
  rwa [← same]

/-- One step after the other runs when both do. -/
theorem Runs.bind {first : Build α} {second : α → Build β} {can could : Prop}
    (one : Runs native first can) (two : ∀ result, Runs native (second result) could) :
    Runs native (first >>= second) (can ∧ could) where
  runs := by
    rintro ⟨able, later⟩ builder resolved
    obtain ⟨result, middle, run, kept⟩ := one.runs able builder resolved
    obtain ⟨last, after, rest, still⟩ := (two result).runs later middle kept
    refine ⟨last, after, ?_, still⟩
    show (first builder >>= fun pair => second pair.1 pair.2) = _
    rw [run]
    exact rest
  fails := by
    intro cannot builder resolved
    show ∃ failure, (first builder >>= fun pair => second pair.1 pair.2) = .error failure
    by_cases able : can
    · obtain ⟨result, middle, run, kept⟩ := one.runs able builder resolved
      rw [run]
      exact (two result).fails (fun later => cannot ⟨able, later⟩) middle kept
    · obtain ⟨failure, run⟩ := one.fails able builder resolved
      rw [run]
      exact ⟨failure, rfl⟩

/-- What is written of a step's result. -/
theorem Runs.map {first : Build α} {can : Prop} (one : Runs native first can) (write : α → β) :
    Runs native (do let result ← first; pure (write result)) can :=
  (one.bind fun result => runs_pure (write result)).when (and_iff_left trivial)

/-- A check of the builder runs exactly when its condition holds. -/
theorem shape_runs (ok : Bool) (message : String) : Runs native (shape ok message) (ok = true) := by
  cases ok with
  | false => exact (runs_fail _).when (by simp)
  | true => exact (runs_pure ()).when (by simp)

/-- What begins with a check that fails never runs. -/
theorem refused_runs (message : String) (rest : Build α) :
    Runs native (do shape false message; rest) False :=
  ⟨False.elim, fun _ _ _ => ⟨_, rfl⟩⟩

/-- The text of a type is made when the type has one. -/
theorem sqlText_runs (type : LogicalType) : Runs native (sqlText type) (Named type) := by
  unfold sqlText
  cases rendered : sqlType 65 type with
  | error what => exact (runs_fail _).when (by simp [Named, rendered])
  | ok text => exact (runs_pure text).when (by simp [Named, rendered])

/-- A declaration that is resolved for what follows. -/
theorem resolve_runs (type : Bytes) {second : LogicalType → Build α} {could : LogicalType → Prop}
    (two : ∀ metadata, Runs native (second metadata) (could metadata)) :
    Runs native (resolve native type >>= second)
      (∃ metadata, native.prepare (resolveSql type) = .ok metadata ∧ could metadata) where
  runs := by
    rintro ⟨metadata, prepared, able⟩ builder resolved
    show ∃ result after, (resolve native type builder >>= fun pair => second pair.1 pair.2) =
      .ok (result, after) ∧ Resolved native after
    rcases resolve_run resolved type with ⟨thrown, differs, -⟩ | ⟨found, middle, same, run, kept⟩
    · cases prepared.symm.trans differs
    · obtain rfl := Except.ok.inj (prepared.symm.trans same)
      rw [run]
      exact (two metadata).runs able middle kept
  fails := by
    intro cannot builder resolved
    show ∃ failure, (resolve native type builder >>= fun pair => second pair.1 pair.2) =
      .error failure
    rcases resolve_run resolved type with ⟨thrown, -, run⟩ | ⟨metadata, middle, prepared, run, kept⟩
    · rw [run]
      exact ⟨_, rfl⟩
    · rw [run]
      exact (two metadata).fails (fun able => cannot ⟨metadata, prepared, able⟩) middle kept

/-- A value that the plain converter is given. -/
theorem plain_runs (v : Zval) :
    Runs native (parameter (duckdbPhpToDuckdbValue native.makesVarchar v))
      (Unobstructed native.makesVarchar v) := by
  have ends : EndsBy (duckdbPhpToDuckdbValue native.makesVarchar v) _ :=
    depth_obstacles (maxNestingDepth + 1) v
  have converts := ends.ok_iff
  rw [Unobstructed, ← converts]
  cases duckdbPhpToDuckdbValue native.makesVarchar v with
  | error pending => exact (runs_fail _).when (by simp)
  | ok value => exact ⟨fun _ builder resolved => ⟨_, _, rfl, resolved⟩, fun never => by simp at never⟩

/-- A value that is made is collected. -/
theorem parameter_runs (value : DuckValue) : Runs native (parameter (.ok value)) True :=
  ⟨fun _ _ resolved => ⟨_, _, rfl, resolved⟩, fun never => absurd trivial never⟩

/-! ## Loops -/

/-- The elements of an array that becomes a list or a STRUCT. -/
theorem packed_runs {expression : Zval → Build Text} {can : Zval → Prop}
    (each : ∀ item, Runs native (expression item) (can item)) (list : Bool) :
    ∀ (leading : Bool) (elements : Elements),
      Runs native (packed expression list leading elements) (∀ entry ∈ elements.toList, can entry.2)
  | _, .nil => (runs_pure []).when (by simp [Elements.toList])
  | _, .cons _ item rest =>
    ((each item).bind fun _ => (packed_runs each list false rest).map _).when
      (by simp [Elements.toList])

/-- The elements of a LIST or an ARRAY. -/
theorem items_runs {expression : Zval → Build Text} {can : Zval → Prop}
    (each : ∀ item, Runs native (expression item) (can item)) :
    ∀ (leading : Bool) (elements : Elements),
      Runs native (items expression leading elements) (∀ entry ∈ elements.toList, can entry.2)
  | _, .nil => (runs_pure []).when (by simp [Elements.toList])
  | _, .cons _ item rest =>
    ((each item).bind fun _ => (items_runs each false rest).map _).when (by simp [Elements.toList])

section Typed

variable {expression : Zval → LogicalType → Bytes → Build Text}
  {accepts : Zval → LogicalType → Prop}
  (each : ∀ item type declared, Runs native (expression item type declared) (accepts item type))

include each

/-- The fields of a STRUCT are written when each member finds an accepted value. -/
theorem fields_runs (elements : Elements) (leading : Bool) (members : Members) :
    Runs native (fields expression elements leading members)
      (∀ member ∈ members.toList, AsField accepts elements member) := by
  cases members with
  | nil => exact (runs_pure []).when (by simp [Members.toList])
  | cons name type rest =>
    unfold fields
    cases found : elements.find (symKey name) with
    | none => exact (refused_runs _ _).when (by simp [Members.toList, AsField, found])
    | some value =>
      refine ((sqlText_runs type).bind fun declared => (each value type declared).bind fun _ =>
        (fields_runs elements false rest).map _).when ?_
      simp [Members.toList, AsField, found, and_assoc]

/-- The entries of a MAP are written when each is a pair of accepted values. -/
theorem entries_runs (key value : LogicalType) (leading : Bool) (elements : Elements) :
    Runs native (entries expression key value leading elements)
      (∀ entry ∈ elements.toList, AsEntry accepts key value entry.2) := by
  match elements with
  | .nil => exact (runs_pure ([], [])).when (by simp [Elements.toList])
  | .cons index entry rest =>
    have all : (∀ pair ∈ (Elements.cons index entry rest).toList,
          AsEntry accepts key value pair.2) ↔
        AsEntry accepts key value entry ∧
          ∀ pair ∈ rest.toList, AsEntry accepts key value pair.2 := by
      simp [Elements.toList]
    rw [all]
    unfold entries
    refine ((shape_runs _ _).bind fun _ => ?_).when and_assoc.symm
    cases hasKey : entry.deref.elements.find (.name (lit "key")) with
    | none => exact (refused_runs _ _).when (by simp)
    | some k =>
      cases hasValue : entry.deref.elements.find (.name (lit "value")) with
      | none => exact (refused_runs _ _).when (by simp)
      | some v =>
        refine ((sqlText_runs key).bind fun keyDeclared => (each k key keyDeclared).bind fun _ =>
          (sqlText_runs value).bind fun valueDeclared => (each v value valueDeclared).bind fun _ =>
            (entries_runs key value false rest).map _).when ?_
        simp [and_assoc]

/-- The value of a UNION is written when its tag names a member that accepts the payload. -/
theorem unionValue_runs (tag : Bytes) (payload : Zval) (members : Members) :
    Runs native (unionValue expression tag payload members)
      (∃ type, members.named tag = some type ∧ Named type ∧ accepts payload type) := by
  cases members with
  | nil => exact (refused_runs _ _).when (by simp [Members.named])
  | cons name type rest =>
    unfold unionValue Members.named
    split
    · refine ((sqlText_runs type).bind fun declared => (each payload type declared).map _).when ?_
      simp
    · exact unionValue_runs tag payload rest

end Typed

/-! ## Expressions -/

variable (native) in
/-- The three recursions of the builder with some room left. -/
structure RunsAt (room : Nat) : Prop where
  /-- `builder::inferred`. -/
  inferred : ∀ v, Runs native (inferred native room v) (AsInferred native room v)
  /-- `builder::variant_source`. -/
  variantSource : ∀ v, Runs native (variantSource native room v) (AsVariant native room v)
  /-- `builder::typed`. -/
  typed : ∀ v t declared, Runs native (typed native room v t declared) (AsTyped native room v t)

/-- `builder::inferred` runs as described when everything with less room does. -/
theorem inferred_runs {room : Nat} (at_ : RunsAt native room) (v : Zval) :
    Runs native (inferred native (room + 1) v) (AsInferred native (room + 1) v) := by
  rw [inferred, AsInferred]
  generalize v.deref = v
  cases v with
  | value type input =>
    cases type with
    | none => exact runs_fail _
    | some type => exact resolve_runs type.text fun metadata => at_.typed input metadata type.text
  | array elements =>
    dsimp only
    split
    · exact (packed_runs at_.inferred _ true elements).map _
    · exact plain_runs _
  | null | bool | long | double | string | interval | dateTime | object | resource | reference =>
    exact plain_runs _

/-- `builder::variant_source` runs as described when everything with less room does. -/
theorem variantSource_runs {room : Nat} (at_ : RunsAt native room) (v : Zval) :
    Runs native (variantSource native (room + 1) v) (AsVariant native (room + 1) v) := by
  rw [variantSource, AsVariant]
  generalize v.deref = v
  cases v with
  | array elements =>
    exact ((packed_runs at_.variantSource _ true elements).map _).map _
  | null | bool | long | double | string | value | interval | dateTime | object | resource
    | reference => exact (at_.inferred _).map _

/-- A list of elements that is cast. -/
theorem listValue_runs {room : Nat} (at_ : RunsAt native room) (child : LogicalType)
    (elements : Elements) (declared : Bytes) :
    Runs native (do
      let ct ← sqlText child
      let inner ← items (fun x => typed native room x child ct) true elements
      pure (cast (sql "list_value(" ++ inner ++ sql ")") declared))
      (Named child ∧ ∀ entry ∈ elements.toList, AsTyped native room entry.2 child) :=
  (sqlText_runs child).bind fun ct =>
    (items_runs (fun item => at_.typed item child ct) true elements).map _

/-- A STRUCT is built when its input is an array that has a value for each member. -/
theorem structValue_runs {room : Nat} (at_ : RunsAt native room) (members : Members) (v : Zval)
    (declared : Bytes) :
    Runs native (do
      shape v.isArray "STRUCT input must be an associative PHP array"
      shape (v.elements.count = members.count) "STRUCT input has missing or unknown fields"
      let inner ← fields (typed native room) v.elements true members
      pure (cast (sql "struct_pack(" ++ inner ++ sql ")") declared))
      (v.isArray = true ∧ v.elements.count = members.count ∧
        ∀ member ∈ members.toList, AsField (AsTyped native room) v.elements member) :=
  ((shape_runs _ _).bind fun _ => (shape_runs _ _).bind fun _ =>
    (fields_runs at_.typed v.elements true members).map _).when (by simp)

/-- A MAP is built when its input is a list of accepted pairs. -/
theorem mapValue_runs {room : Nat} (at_ : RunsAt native room) (key value : LogicalType) (v : Zval)
    (declared : Bytes) :
    Runs native (do
      shape (v.isArray && v.elements.isList)
        "MAP input must be a sequential array of key/value pairs"
      let (keys, vals) ← entries (typed native room) key value true v.elements
      let kt ← sqlText key
      let vt ← sqlText value
      pure (cast (sql "map(" ++
        cast (sql "list_value(" ++ keys ++ sql ")") (kt ++ lit "[]") ++ sql ", " ++
        cast (sql "list_value(" ++ vals ++ sql ")") (vt ++ lit "[]") ++ sql ")") declared))
      ((v.isArray && v.elements.isList) = true ∧
        (∀ entry ∈ v.elements.toList, AsEntry (AsTyped native room) key value entry.2) ∧
        Named key ∧ Named value) :=
  (shape_runs _ _).bind fun _ => (entries_runs at_.typed key value true v.elements).bind fun _ =>
    (sqlText_runs key).bind fun _ => (sqlText_runs value).map _

/-- A UNION is built when its input has a tag and a value that its member accepts. -/
theorem union_runs {room : Nat} (at_ : RunsAt native room) (members : Members) (v : Zval)
    (declared : Bytes) :
    Runs native (do
      shape (v.isArray && v.elements.count = 2) "UNION input requires tag and value"
      match v.elements.find (.name (lit "tag")), v.elements.find (.name (lit "value")) with
      | some tag, some payload => do
        shape tag.deref.isString "UNION tag must be a string"
        let value ← unionValue (typed native room) tag.deref.stringBytes payload members
        pure (cast value declared)
      | _, _ => do
        shape false "UNION input requires tag and value"
        pure [])
      ((v.isArray && v.elements.count = 2) = true ∧
        AsUnion (AsTyped native room) members v.elements) := by
  refine (shape_runs _ _).bind fun _ => ?_
  unfold AsUnion
  cases v.elements.find (.name (lit "tag")) with
  | none => exact (refused_runs _ _).when (by simp)
  | some tag =>
    cases v.elements.find (.name (lit "value")) with
    | none => exact (refused_runs _ _).when (by simp)
    | some payload =>
      refine ((shape_runs _ _).bind fun _ =>
        (unionValue_runs at_.typed tag.deref.stringBytes payload members).map _).when ?_
      simp

/-- A wrapper at a type was resolved before, so its source is written. -/
theorem wrapper_runs {room : Nat} (at_ : RunsAt native room) (type : Option CanonicalType)
    (input : Zval) (t : LogicalType) (declared : Bytes) :
    Runs native (do
      let source ← inferred native room (.value type input)
      let source ← wrapperSource native t type source
      pure (cast source declared)) (AsInferred native room (.value type input)) := by
  have inner := at_.inferred (.value type input)
  cases t with
  | geometry crs =>
    cases type with
    | none =>
      refine (inner.bind fun source => runs_fail (α := Text) uninitializedValue).when ?_
      cases room <;> simp [AsInferred, Zval.deref]
    | some type =>
      refine (inner.bind fun source => (resolve_runs type.text fun metadata =>
        (?_ : Runs native _ True)).map _).when ?_
      · cases metadata with
        | plain id alias_ => cases id <;> exact runs_pure _
        | _ => exact runs_pure _
      · cases room with
        | zero => simp [AsInferred]
        | succ room =>
          simp only [AsInferred, Zval.deref]
          constructor
          · exact And.left
          · rintro ⟨metadata, prepared, able⟩
            exact ⟨⟨metadata, prepared, able⟩, metadata, prepared, trivial⟩
  | _ => exact inner.map _

/-- `builder::typed` runs as described when everything with less room does. -/
theorem typed_runs {room : Nat} (at_ : RunsAt native room) (v : Zval) (t : LogicalType)
    (declared : Bytes) :
    Runs native (typed native (room + 1) v t declared) (AsTyped native (room + 1) v t) := by
  rw [typed, AsTyped]
  generalize v.deref = v
  cases v with
  | null => exact (parameter_runs .null).map _
  | value type input => exact wrapper_runs at_ type input t declared
  | bool | long | double | string | array | interval | dateTime | object | resource | reference =>
    cases t with
    | list child => exact (shape_runs _ _).bind fun _ => listValue_runs at_ child _ declared
    | array child size =>
      exact ((shape_runs _ _).bind fun _ => (shape_runs _ _).bind fun _ =>
        listValue_runs at_ child _ declared).when (by simp)
    | struct members => exact structValue_runs at_ members _ declared
    | map key value => exact mapValue_runs at_ key value _ declared
    | union members => exact union_runs at_ members _ declared
    | plain id _ =>
      -- Only an array that becomes a VARIANT and a string that becomes a BLOB are not inferred.
      cases id <;> first
        | exact (at_.inferred _).map _
        | exact at_.variantSource _
        | exact (parameter_runs _).map _
    | _ => exact (at_.inferred _).map _

variable (native) in
/-- The builder writes what it can at every nesting. -/
theorem runsAt : ∀ room, RunsAt native room
  | 0 => ⟨fun _ => runs_fail _, fun _ => runs_fail _, fun _ _ _ => runs_fail _⟩
  | room + 1 =>
    ⟨inferred_runs (runsAt room), variantSource_runs (runsAt room), typed_runs (runsAt room)⟩

/-! ## Batches -/

/-- The arguments of a statement are written when every input is inferred. -/
theorem arguments_runs : ∀ (leading : Bool) (inputs : List Zval),
    Runs native (arguments native leading inputs) (∀ input ∈ inputs, AsInferred native 65 input)
  | _, [] => (runs_pure []).when (by simp)
  | _, input :: rest =>
    (((runsAt native 65).inferred input).bind fun _ => (arguments_runs false rest).map _).when
      (by simp)

/-- The statement of a batch is written when every input is inferred. -/
theorem conversionSql_runs (capture : Bytes) (inputs : List Zval) :
    Runs native (conversionSql native capture inputs)
      (∀ input ∈ inputs, AsInferred native 65 input) :=
  ((arguments_runs true inputs).bind fun _ => (parameter_runs (.bigint 0)).map _).when
    (and_iff_left trivial)

end Writes

section Outcomes

variable (makesVarchar : Bytes → Bool) (engine : Engine) (inputs : List Zval)

/-- DuckDB refuses the statement of a batch, or it captures another number of values. -/
def Refused : Prop :=
  ∃ text builder,
    conversionSql (engine.native makesVarchar) engine.capture inputs ⟨[], []⟩ =
      .ok (text, builder) ∧
    ∀ values, engine.execute text.bytes builder.params = .ok values →
      values.length ≠ inputs.length + 1

/-- A batch that cannot be converted: in one without wrappers there is an obstacle; in one with
wrappers the registry is not there, the builder cannot write an input, or DuckDB refuses. -/
def Obstructed : Prop :=
  if inputs.any Zval.containsTyped then
    engine.registry.isSome = true ∨
      (∃ input ∈ inputs, ¬AsInferred (engine.native makesVarchar) 65 input) ∨
      Refused makesVarchar engine inputs
  else ∃ input ∈ inputs, ¬Unobstructed makesVarchar input

/-- Inputs are converted by the plain converter when there is no obstacle in any. -/
theorem mapM_obstacles : ∀ inputs : List Zval,
    (∃ values, inputs.mapM (duckdbPhpToDuckdbValue makesVarchar) = .ok values) ↔
      ∀ input ∈ inputs, Unobstructed makesVarchar input
  | [] => iff_of_true ⟨[], rfl⟩ (by simp)
  | input :: rest => by
    have ends : EndsBy (duckdbPhpToDuckdbValue makesVarchar input) _ :=
      depth_obstacles (maxNestingDepth + 1) input
    have first : (∃ value, duckdbPhpToDuckdbValue makesVarchar input = .ok value) ↔
        Unobstructed makesVarchar input := ends.ok_iff
    rw [List.mapM_cons, List.forall_mem_cons, ← first, ← mapM_obstacles rest]
    constructor
    · rintro ⟨values, converted⟩
      obtain ⟨value, made, later⟩ := Outcome.bind_eq_ok.mp converted
      obtain ⟨others, tail, -⟩ := Outcome.bind_eq_ok.mp later
      exact ⟨⟨value, made⟩, others, tail⟩
    · rintro ⟨⟨value, made⟩, others, tail⟩
      exact ⟨value :: others, by rw [made, tail]; rfl⟩

/-- A batch converts unless it is obstructed. -/
theorem convertValues_obstructed :
    (∃ values, convertValues makesVarchar engine inputs = .ok values) ↔
      ¬Obstructed makesVarchar engine inputs := by
  unfold convertValues Obstructed
  split
  · have fresh : Resolved (engine.native makesVarchar) ⟨[], []⟩ :=
      fun type metadata never => nomatch never
    have written : Runs (engine.native makesVarchar) _ _ :=
      conversionSql_runs engine.capture inputs
    cases registry : engine.registry with
    | some failure => simp
    | none =>
      by_cases can : ∀ input ∈ inputs, AsInferred (engine.native makesVarchar) 65 input
      · obtain ⟨text, builder, run, -⟩ := written.runs can _ fresh
        have none_left : ¬∃ input ∈ inputs, ¬AsInferred (engine.native makesVarchar) 65 input := by
          rintro ⟨input, inside, cannot⟩
          exact cannot (can input inside)
        simp only [run, none_left, Refused, Option.isSome_none, Bool.false_eq_true, false_or]
        cases executed : engine.execute text.bytes builder.params with
        | error failure => simp [executed]
        | ok values =>
          by_cases length : values.length = inputs.length + 1
          · simp [executed, length]
          · simp [executed, length]
      · obtain ⟨failure, run⟩ := written.fails can _ fresh
        have stuck : ∃ input ∈ inputs, ¬AsInferred (engine.native makesVarchar) 65 input := by
          simpa using can
        simp [run, stuck]
  · rw [mapM_obstacles]
    simp

/-- Turning elements of inputs, or inputs themselves, into references makes no difference to the
outcome of a conversion exactly when no reference is where the plain converter reads, or when the
inputs cannot be converted anyway. -/
theorem references_transparent (others : List Zval)
    (referenced : List.Forall₂ Referenced inputs others) :
    (∀ values, convertValues makesVarchar engine inputs = .ok values ↔
        convertValues makesVarchar engine others = .ok values) ↔
      Readable others ∨ Obstructed makesVarchar engine inputs := by
  have readable_same := convertValues_referenced makesVarchar engine referenced
  constructor
  · intro same
    by_cases obstructed : Obstructed makesVarchar engine inputs
    · exact .inr obstructed
    · obtain ⟨values, converted⟩ :=
        (convertValues_obstructed makesVarchar engine inputs).mpr obstructed
      exact .inl (convertValues_readable ((same values).mp converted))
  · rintro (readable | obstructed) values
    · rw [readable_same readable]
    · have fails : convertValues makesVarchar engine inputs ≠ .ok values := fun converted =>
        (convertValues_obstructed makesVarchar engine inputs).mp ⟨values, converted⟩ obstructed
      refine iff_of_false fails fun converted => fails ?_
      rw [readable_same (convertValues_readable converted), converted]

end Outcomes

/-- The wrapper of a BIGINT around a number. -/
def wrappedNumber : Zval := .value (some ⟨lit "BIGINT", lit "BIGINT", by decide +kernel⟩) (.long 1)

/-- An engine that captures a list of one number. -/
def capturesList : Engine where
  registry := none
  prepare _ := .ok (plainType .bigint)
  capture := lit "capture"
  execute _ params := .ok [.list (plainType .bigint) (params.take 1), .bigint 0]

/-- A list of two elements. -/
def pairOf (first second : Zval) : Zval :=
  .array (.cons (.index 0) first (.cons (.index 1) second .nil))

/-- A reference to a wrapper in a list makes no difference, nor does a reference next to an object
that has no DuckDB value. -/
theorem references_transparent_wrapped :
    (∀ values,
      convertValues everyText capturesList [pairOf wrappedNumber .null] = .ok values ↔
        convertValues everyText capturesList [pairOf (.reference wrappedNumber) .null] =
          .ok values) ∧
    ∀ values,
      convertValues everyText capturesList [pairOf (.object (lit "stdClass")) (.long 1)] =
          .ok values ↔
        convertValues everyText capturesList
          [pairOf (.object (lit "stdClass")) (.reference (.long 1))] = .ok values := by
  have turned : Referenced (pairOf wrappedNumber .null) (pairOf (.reference wrappedNumber) .null) :=
    .array (.cons _ (.turned rfl rfl (.same _)) (.cons _ (.same _) .nil))
  have beside : Referenced (pairOf (.object (lit "stdClass")) (.long 1))
      (pairOf (.object (lit "stdClass")) (.reference (.long 1))) :=
    .array (.cons _ (.same _) (.cons _ (.turned rfl rfl (.same _)) .nil))
  constructor
  · refine (references_transparent everyText capturesList _ _ (.cons turned .nil)).mpr (.inl ?_)
    intro input inside
    obtain rfl := List.mem_singleton.mp inside
    rfl
  · refine (references_transparent everyText capturesList _ _ (.cons beside .nil)).mpr (.inr ?_)
    exact ⟨_, List.mem_cons_self, nofun⟩

/-- A list of one number converts, and the same list with a reference to the number does not. -/
theorem references_not_transparent :
    ¬∀ (makesVarchar : Bytes → Bool) (engine : Engine) (value other : Zval), Referenced value other →
      ∀ result, convertValues makesVarchar engine [value] = .ok result ↔
        convertValues makesVarchar engine [other] = .ok result := by
  intro transparent
  have turned : Referenced (.array (.cons (.index 0) (.long 1) .nil))
      (.array (.cons (.index 0) (.reference (.long 1)) .nil)) :=
    .array (.cons _ (.turned rfl rfl (.same _)) .nil)
  have converted : convertValues everyText capturesList
      [.array (.cons (.index 0) (.long 1) .nil)] =
      .ok [.list (plainType .bigint) [.bigint 1]] := rfl
  cases (transparent everyText capturesList _ _ turned _).mp converted

end PhpDuckdb.Value
