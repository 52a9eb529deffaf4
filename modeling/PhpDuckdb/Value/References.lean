import PhpDuckdb.Lib.Outcome
import PhpDuckdb.Value.Builder

/-!
# References in inputs

The typed builder follows a PHP reference wherever it meets one; the plain converter follows none.
Inputs with a reference that the plain converter reads do not convert, and others convert as if they
had no references.
-/

namespace PhpDuckdb.Value

open SqlText Lockstep

/-- What the typed path of `duckdb_convert_values` asks DuckDB for. -/
structure Engine where
  /-- `duckdb_initialize_typed_registry` fails, with the exception that it leaves. -/
  registry : Option (Option Thrown)
  /-- The type of the column of a prepared statement. -/
  prepare : Bytes → Except Thrown LogicalType
  /-- The name of the capture function. -/
  capture : Bytes
  /-- The values that the capture function is given when a statement is bound with parameters. -/
  execute : Bytes → List DuckValue → Except (Option Thrown) (List DuckValue)

/-- What the builder asks a connection's conversion for. -/
def Engine.native (engine : Engine) (makesVarchar : Bytes → Bool) : Native :=
  ⟨makesVarchar, engine.prepare⟩

/-- `duckdb_convert_values`: one wrapper sends the whole batch through the builder. -/
def convertValues (makesVarchar : Bytes → Bool) (engine : Engine) (inputs : List Zval) :
    Except (Option Thrown) (List DuckValue) :=
  if inputs.any Zval.containsTyped then
    match engine.registry with
    | some failure => .error failure
    | none =>
      match conversionSql (engine.native makesVarchar) engine.capture inputs ⟨[], []⟩ with
      | .error failure => .error (some failure.thrown)
      | .ok (text, builder) =>
        match engine.execute text.bytes builder.params with
        | .error failure => .error failure
        | .ok values =>
          if values.length ≠ inputs.length + 1 then
            .error (some ⟨.exception, lit "Typed conversion did not capture every native value"⟩)
          else .ok values.dropLast
  else inputs.mapM (duckdbPhpToDuckdbValue makesVarchar)

/-- `IS_REFERENCE`: the value is a reference to another one. -/
def Zval.isReference : Zval → Bool
  | .reference _ => true
  | _ => false

mutual

/-- The second value is the first with some elements, or the value itself, turned into references to
equal values. -/
inductive Referenced : Zval → Zval → Prop
  | same (value : Zval) : Referenced value value
  | array {first second : Elements} (elements : ReferencedElements first second) :
      Referenced (.array first) (.array second)
  | inside {first second : Zval} (targets : Referenced first second) :
      Referenced (.reference first) (.reference second)
  | turned {first second : Zval} (direct : first.isReference = false)
      (target : second.isReference = false) (targets : Referenced first second) :
      Referenced first (.reference second)

/-- The elements of two arrays are under the same keys and differ only in references. -/
inductive ReferencedElements : Elements → Elements → Prop
  | nil : ReferencedElements .nil .nil
  | cons {first second : Zval} {rest others : Elements} (key : Key)
      (value : Referenced first second) (more : ReferencedElements rest others) :
      ReferencedElements (.cons key first rest) (.cons key second others)

end

mutual

/-- No reference is in a value, wrappers apart. -/
def Zval.unreferenced : Zval → Bool
  | .array elements => elements.unreferenced
  | .reference _ => false
  | _ => true

/-- No reference is in the elements of an array. -/
def Elements.unreferenced : Elements → Bool
  | .nil => true
  | .cons _ item rest => item.unreferenced && rest.unreferenced

end

mutual

/-- No reference is in an array without wrappers; those around wrappers are followed. -/
def Zval.followed : Zval → Bool
  | .array elements => if elements.containsTyped then elements.followed else elements.unreferenced
  | .reference target => !target.isReference && target.followed
  | _ => true

/-- No reference is in an element without wrappers; those around wrappers are followed. -/
def Elements.followed : Elements → Bool
  | .nil => true
  | .cons _ item rest => item.followed && rest.followed

end

/-- No reference is where the plain converter reads the inputs of a batch. -/
def Readable (inputs : List Zval) : Prop :=
  if inputs.any Zval.containsTyped then ∀ input ∈ inputs, input.followed = true
  else ∀ input ∈ inputs, input.unreferenced = true

/-! ## The relation -/

/-- Following a reference on both sides keeps the values related. -/
theorem Referenced.deref {first second : Zval} (referenced : Referenced first second) :
    Referenced first.deref second.deref := by
  cases referenced with
  | same => exact .same _
  | array elements => exact .array elements
  | inside targets => exact targets
  | turned direct target targets =>
    cases first with
    | reference => cases direct
    | _ => exact targets

mutual

/-- A value contains a wrapper whether its parts are references or not. -/
theorem Referenced.containsTyped : ∀ {first second : Zval}, Referenced first second →
    first.containsTyped = second.containsTyped
  | _, _, .same _ => rfl
  | _, _, .array elements => elements.containsTyped
  | _, _, .inside targets => targets.containsTyped
  | _, _, .turned _ _ targets => targets.containsTyped

/-- Elements contain a wrapper whether their parts are references or not. -/
theorem ReferencedElements.containsTyped : ∀ {first second : Elements},
    ReferencedElements first second → first.containsTyped = second.containsTyped
  | _, _, .nil => rfl
  | _, _, .cons _ value more => by
    rw [Elements.containsTyped, Elements.containsTyped, value.containsTyped, more.containsTyped]

end

/-- References do not change whether elements are a list. -/
theorem ReferencedElements.isListFrom : ∀ {first second : Elements},
    ReferencedElements first second → ∀ next, first.isListFrom next = second.isListFrom next
  | _, _, .nil, _ => rfl
  | _, _, .cons _ _ more, next => by
    rw [Elements.isListFrom, Elements.isListFrom, more.isListFrom]

/-- Two arrays that differ only in references are both lists or neither is one. -/
theorem ReferencedElements.isList {first second : Elements}
    (referenced : ReferencedElements first second) : first.isList = second.isList :=
  referenced.isListFrom 0

mutual

/-- Without references nothing was turned into one. -/
theorem Referenced.eq : ∀ {first second : Zval}, Referenced first second →
    second.unreferenced = true → first = second
  | _, _, .same _, _ => rfl
  | _, _, .array elements, free => congrArg Zval.array (elements.eq free)

/-- Elements without references are equal to those that they were made of. -/
theorem ReferencedElements.eq : ∀ {first second : Elements}, ReferencedElements first second →
    second.unreferenced = true → first = second
  | _, _, .nil, _ => rfl
  | _, _, .cons key value more, free => by
    rw [Elements.unreferenced, Bool.and_eq_true] at free
    rw [value.eq free.1, more.eq free.2]

end

/-- What a followed value stands for is no reference. -/
theorem Zval.followed_deref {value : Zval} (followed : value.followed = true) :
    value.deref.isReference = false ∧ value.deref.followed = true := by
  cases value with
  | reference target =>
    rw [Zval.followed, Bool.and_eq_true, Bool.not_eq_true'] at followed
    exact followed
  | null | bool | long | double | string | array | value | interval | dateTime | object | resource =>
    exact ⟨rfl, followed⟩

/-! ## The plain converter -/

/-- The loop over the elements of a list accepts no reference. -/
theorem convertElements_unreferenced {convert : Zval → Except (Option Thrown) DuckValue}
    (each : ∀ value built, convert value = .ok built → value.unreferenced = true)
    {child : LogicalType} : ∀ {elements : Elements} {index : Nat} {children : List DuckValue},
      convertElements convert child index elements = .ok children → elements.unreferenced = true
  | .nil, _, _, _ => rfl
  | .cons key value rest, index, children, converted => by
    obtain ⟨built, made, later⟩ := Outcome.bind_eq_ok.mp converted
    obtain ⟨_, later⟩ := Outcome.ite_error_eq_ok.mp later
    obtain ⟨others, tail, _⟩ := Outcome.bind_eq_ok.mp later
    rw [Elements.unreferenced, each value built made, convertElements_unreferenced each tail]
    rfl

/-- The loop over the members of a STRUCT succeeds only on elements that hold no reference. -/
theorem convertMembers_unreferenced {infer : Zval → Except Thrown (Option LogicalType)}
    {convert : Zval → Except (Option Thrown) DuckValue}
    (each : ∀ value built, convert value = .ok built → value.unreferenced = true) :
    ∀ {elements : Elements} {result : Members × List DuckValue},
      convertMembers infer convert elements = .ok result → elements.unreferenced = true
  | .nil, _, _ => rfl
  | .cons key value rest, result, converted => by
    rw [convertMembers] at converted
    dsimp only at converted
    split at converted
    · cases converted
    · cases converted
    · obtain ⟨built, made, later⟩ := Outcome.bind_eq_ok.mp converted
      obtain ⟨others, tail, _⟩ := Outcome.bind_eq_ok.mp later
      rw [Elements.unreferenced, each value built made, convertMembers_unreferenced each tail]
      rfl

/-- A value that the plain converter accepts holds no reference. -/
theorem depth_unreferenced {makesVarchar : Bytes → Bool} {room : Nat} {value : Zval}
    {built : DuckValue}
    (converted : duckdbPhpToDuckdbValueDepth makesVarchar room value = .ok built) :
    value.unreferenced = true := by
  induction room generalizing value built with
  | zero => cases converted
  | succ room ih =>
    cases value with
    | array elements =>
      simp only [duckdbPhpToDuckdbValueDepth] at converted
      split at converted
      · unfold duckdbPhpArrayToListValue at converted
        obtain ⟨_, converted⟩ := Outcome.ite_error_eq_ok.mp converted
        dsimp only at converted
        split at converted
        · cases converted
        · cases converted
        · obtain ⟨children, made, _⟩ := Outcome.bind_eq_ok.mp converted
          exact convertElements_unreferenced (fun value built => ih) made
      · obtain ⟨result, made, _⟩ := Outcome.bind_eq_ok.mp converted
        exact convertMembers_unreferenced (fun value built => ih) made
    | reference target => cases converted
    | null | bool | long | double | string | value | interval | dateTime | object | resource => rfl

/-! ## The builder -/

section Builder

variable (native : Native)

/-- Elements that are followed are packed like those without references. -/
theorem packed_referenced {expression : Zval → Build Text} {list : Bool}
    (each : ∀ first second : Zval, Referenced first second → second.followed = true →
      expression first = expression second) : ∀ {first second : Elements},
      ReferencedElements first second → second.followed = true →
        ∀ leading, packed expression list leading first = packed expression list leading second
  | _, _, .nil, _, _ => rfl
  | _, _, .cons key value more, followed, leading => by
    rw [Elements.followed, Bool.and_eq_true] at followed
    rw [packed, packed, each _ _ value followed.1, packed_referenced each more followed.2]

/-- A value that is followed is written like one without references. -/
theorem inferred_referenced (room : Nat) {first second : Zval} (referenced : Referenced first second)
    (followed : second.followed = true) :
    inferred native room first = inferred native room second := by
  induction room generalizing first second with
  | zero => rfl
  | succ room ih =>
    obtain ⟨direct, further⟩ := Zval.followed_deref followed
    have derefs := referenced.deref
    rw [inferred, inferred]
    generalize first.deref = one at derefs
    generalize second.deref = two at derefs direct further
    cases derefs with
    | same => rfl
    | inside targets => cases direct
    | turned _ _ targets => cases direct
    | array elements =>
      dsimp only
      rw [elements.containsTyped]
      rw [Zval.followed] at further
      split at further
      · rename_i typed
        rw [if_pos typed, if_pos typed, packedArray, packedArray]
        rw [elements.isList, packed_referenced (fun one two => ih) elements further]
      · rename_i untyped
        rw [if_neg untyped, if_neg untyped, elements.eq further]

/-- The builder writes nothing for a reference that it does not follow. -/
theorem packed_followed {expression : Zval → Build Text} {list : Bool}
    (each : ∀ value builder result, expression value builder = .ok result →
      value.followed = true) : ∀ {elements : Elements} {leading : Bool} {builder : Builder}
      {result : Text × Builder}, packed expression list leading elements builder = .ok result →
        elements.followed = true
  | .nil, _, _, _, _ => rfl
  | .cons key value rest, leading, builder, result, written => by
    obtain ⟨_, _, first, later⟩ := bind_ok written
    obtain ⟨_, _, others, _⟩ := bind_ok later
    rw [Elements.followed, each value _ _ first, packed_followed each others]
    rfl

/-- A parameter is a value that the plain converter accepts. -/
theorem parameter_ok {value : Except (Option Thrown) DuckValue} {builder : Builder}
    {result : Text × Builder} (written : parameter value builder = .ok result) :
    ∃ built, value = .ok built := by
  cases value with
  | error pending => cases written
  | ok built => exact ⟨built, rfl⟩

/-- A value is written like what it refers to. -/
theorem inferred_deref (room : Nat) {value : Zval} (direct : value.deref.isReference = false) :
    inferred native room value.deref = inferred native room value := by
  cases value with
  | reference target =>
    have end_ : target.deref = target := by
      cases target with
      | reference => cases direct
      | _ => rfl
    cases room with
    | zero => rfl
    | succ room =>
      show inferred native (room + 1) target = _
      rw [inferred, inferred, end_]
      rfl
  | null | bool | long | double | string | array | value | interval | dateTime | object | resource =>
    rfl

/-- An array that is written is followed. -/
theorem array_followed {room : Nat} {elements : Elements} {builder : Builder}
    {result : Text × Builder}
    (each : ∀ value builder result, inferred native room value builder = .ok result →
      value.followed = true)
    (written : (if elements.containsTyped then packedArray (inferred native room) elements
      else parameter (duckdbPhpToDuckdbValue native.makesVarchar (.array elements))) builder =
        .ok result) :
    (Zval.array elements).followed = true := by
  rw [Zval.followed]
  split at written
  · rename_i typed
    rw [if_pos typed]
    obtain ⟨_, _, inner, _⟩ := bind_ok written
    exact packed_followed each inner
  · rename_i untyped
    rw [if_neg untyped]
    obtain ⟨built, converted⟩ := parameter_ok written
    exact depth_unreferenced converted

/-- A value that is written is followed. -/
theorem inferred_followed (room : Nat) {value : Zval} {builder : Builder}
    {result : Text × Builder} (written : inferred native room value builder = .ok result) :
    value.followed = true := by
  induction room generalizing value builder result with
  | zero => cases written
  | succ room ih =>
    rw [inferred] at written
    cases value with
    | array elements => exact array_followed native (fun value builder result => ih) written
    | reference target =>
      cases target with
      | array elements =>
        have further := array_followed native (fun value builder result => ih) written
        rw [Zval.followed]
        exact further
      | reference target =>
        obtain ⟨built, converted⟩ := parameter_ok written
        cases converted
      | null | bool | long | double | string | value | interval | dateTime | object | resource =>
        rfl
    | null | bool | long | double | string | value | interval | dateTime | object | resource => rfl

/-- Inputs that are followed are written like those without references. -/
theorem arguments_referenced : ∀ {inputs others : List Zval},
    List.Forall₂ Referenced inputs others → (∀ input ∈ others, input.followed = true) →
      ∀ leading, arguments native leading inputs = arguments native leading others
  | _, _, .nil, _, _ => rfl
  | _, _, .cons value more, followed, leading => by
    rw [arguments, arguments, inferred_referenced native 65 value (followed _ List.mem_cons_self),
      arguments_referenced more fun input inside => followed input (List.mem_cons_of_mem _ inside)]

/-- Every reference in inputs that the builder writes is followed. -/
theorem arguments_followed : ∀ {inputs : List Zval} {leading : Bool} {builder : Builder}
    {result : Text × Builder}, arguments native leading inputs builder = .ok result →
      ∀ input ∈ inputs, input.followed = true
  | [], _, _, _, _, _, never => by cases never
  | first :: rest, leading, builder, result, written, input, inside => by
    obtain ⟨_, _, argument, later⟩ := bind_ok written
    obtain ⟨_, _, others, _⟩ := bind_ok later
    rcases List.mem_cons.mp inside with rfl | further
    · exact inferred_followed native 65 argument
    · exact arguments_followed others input further

end Builder

/-! ## Batches -/

/-- Wrappers are in both inputs or in neither. -/
theorem any_containsTyped : ∀ {inputs others : List Zval}, List.Forall₂ Referenced inputs others →
    inputs.any Zval.containsTyped = others.any Zval.containsTyped
  | _, _, .nil => rfl
  | _, _, .cons value more => by
    rw [List.any_cons, List.any_cons, value.containsTyped, any_containsTyped more]

/-- Inputs that hold no reference are those they were made of. -/
theorem unreferenced_eq : ∀ {inputs others : List Zval}, List.Forall₂ Referenced inputs others →
    (∀ input ∈ others, input.unreferenced = true) → inputs = others
  | _, _, .nil, _ => rfl
  | _, _, .cons value more, free => by
    rw [value.eq (free _ List.mem_cons_self),
      unreferenced_eq more fun input inside => free input (List.mem_cons_of_mem _ inside)]

/-- The plain converter accepts only inputs without references. -/
theorem mapM_unreferenced {makesVarchar : Bytes → Bool} :
    ∀ {inputs : List Zval} {values : List DuckValue},
    inputs.mapM (duckdbPhpToDuckdbValue makesVarchar) = .ok values →
      ∀ input ∈ inputs, input.unreferenced = true
  | [], _, _, _, never => by cases never
  | first :: rest, values, converted, input, inside => by
    rw [List.mapM_cons] at converted
    obtain ⟨built, made, later⟩ := Outcome.bind_eq_ok.mp converted
    obtain ⟨others, tail, _⟩ := Outcome.bind_eq_ok.mp later
    rcases List.mem_cons.mp inside with rfl | further
    · exact depth_unreferenced made
    · exact mapM_unreferenced tail input further

/-- The plain converter gives every input one value. -/
theorem mapM_length {makesVarchar : Bytes → Bool} : ∀ {inputs : List Zval} {values : List DuckValue},
    inputs.mapM (duckdbPhpToDuckdbValue makesVarchar) = .ok values →
      values.length = inputs.length
  | [], values, converted => by
    obtain rfl := Except.ok.inj converted
    rfl
  | first :: rest, values, converted => by
    rw [List.mapM_cons] at converted
    obtain ⟨built, -, later⟩ := Outcome.bind_eq_ok.mp converted
    obtain ⟨others, tail, same⟩ := Outcome.bind_eq_ok.mp later
    obtain rfl := Except.ok.inj same
    rw [List.length_cons, List.length_cons, mapM_length tail]

/-- A batch that converts has one value for every input. -/
theorem convertValues_length {makesVarchar : Bytes → Bool} {engine : Engine} {inputs : List Zval}
    {values : List DuckValue} (converted : convertValues makesVarchar engine inputs = .ok values) :
    values.length = inputs.length := by
  unfold convertValues at converted
  split at converted
  · split at converted
    · cases converted
    · split at converted
      · cases converted
      · split at converted
        · cases converted
        · split at converted
          · cases converted
          · rename_i counted
            obtain rfl := Except.ok.inj converted
            rw [List.length_dropLast, not_not.mp counted, Nat.add_sub_cancel]
  · exact mapM_length converted

/-- In inputs that convert no reference hides an unreadable value. -/
theorem convertValues_readable {makesVarchar : Bytes → Bool} {engine : Engine} {inputs : List Zval}
    {values : List DuckValue}
    (converted : convertValues makesVarchar engine inputs = .ok values) : Readable inputs := by
  unfold convertValues at converted
  unfold Readable
  split at converted
  · rename_i typed
    rw [if_pos typed]
    split at converted
    · cases converted
    · split at converted
      · cases converted
      · rename_i text builder written
        obtain ⟨_, _, inner, _⟩ := bind_ok written
        exact arguments_followed (engine.native makesVarchar) inner
  · rename_i untyped
    rw [if_neg untyped]
    exact mapM_unreferenced converted

/-- Readable inputs convert as if they had no references. -/
theorem convertValues_referenced (makesVarchar : Bytes → Bool) (engine : Engine)
    {inputs others : List Zval}
    (referenced : List.Forall₂ Referenced inputs others) (readable : Readable others) :
    convertValues makesVarchar engine inputs = convertValues makesVarchar engine others := by
  unfold Readable at readable
  unfold convertValues
  rw [any_containsTyped referenced]
  split at readable
  · rename_i typed
    rw [if_pos typed, if_pos typed, conversionSql, conversionSql,
      arguments_referenced (engine.native makesVarchar) referenced readable, referenced.length_eq]
  · rename_i untyped
    rw [if_neg untyped, if_neg untyped, unreferenced_eq referenced readable]

end PhpDuckdb.Value
