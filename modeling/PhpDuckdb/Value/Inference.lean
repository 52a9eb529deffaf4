import PhpDuckdb.Lib.Outcome
import PhpDuckdb.Value.Conversion

/-!
# Inferred types are the types that are built

Inference and conversion are two recursions over a PHP value. `inferred_type_built` says that a
value which conversion builds has the type that inference finds at the same depth, and that the
elements of every LIST in it have its element type.
-/

namespace PhpDuckdb.Value

open SqlText

mutual

/-- A type that can be inferred from a PHP value. -/
def LogicalType.Inferable : LogicalType → Prop
  | .plain _ alias_ => alias_ = none
  | .list child => child.Inferable
  | .struct members => members.Inferable
  | _ => False

/-- Members whose types can be inferred; their names are C strings. -/
def Members.Inferable : Members → Prop
  | .nil => True
  | .cons name type rest => cString name = name ∧ type.Inferable ∧ rest.Inferable

end

/-- The value is the NULL value. -/
def DuckValue.isNull : DuckValue → Bool
  | .null => true
  | _ => false

mutual

/-- The elements of every LIST in a value are NULL or have its element type. -/
def DuckValue.Uniform : DuckValue → Prop
  | .list child children =>
    (∀ element ∈ children, element.isNull = false → element.type = child) ∧
      EachUniform children
  | .struct _ children => EachUniform children
  | _ => True

/-- Each of some values is uniform. -/
def EachUniform : List DuckValue → Prop
  | [] => True
  | value :: rest => value.Uniform ∧ EachUniform rest

end

/-! ## Comparing types -/

mutual

/-- The comparison of the converter finds every type equal to itself. -/
theorem logicalTypesEqual_refl : ∀ type, logicalTypesEqual type type = true
  | .plain _ _ => by simp [logicalTypesEqual]
  | .decimal _ _ => rfl
  | .enum _ => rfl
  | .geometry _ => rfl
  | .list child => by
    rw [logicalTypesEqual]
    exact logicalTypesEqual_refl child
  | .array child _ => by
    rw [logicalTypesEqual, logicalTypesEqual_refl child]
    simp
  | .map _ _ => rfl
  | .struct members => by
    rw [logicalTypesEqual]
    exact membersEqual_refl members
  | .union _ => rfl

/-- The comparison of the converter finds all members equal to themselves. -/
theorem membersEqual_refl : ∀ members, membersEqual members members = true
  | .nil => rfl
  | .cons _ type rest => by
    rw [membersEqual, logicalTypesEqual_refl type, membersEqual_refl rest]
    simp

end

mutual

/-- Types that can be inferred and that compare equal are the same. -/
theorem eq_of_logicalTypesEqual : ∀ {first second : LogicalType}, first.Inferable →
    second.Inferable → logicalTypesEqual first second = true → first = second
  | .plain _ _, .plain _ _, one, two, same => by
    have ids := of_decide_eq_true same
    rw [ids, show _ = none from one, show _ = none from two]
  | .list _, .list _, one, two, same =>
    congrArg LogicalType.list (eq_of_logicalTypesEqual one two same)
  | .struct _, .struct _, one, two, same =>
    congrArg LogicalType.struct (eq_of_membersEqual one two same)

/-- Members whose types can be inferred and that compare equal are the same. -/
theorem eq_of_membersEqual : ∀ {first second : Members}, first.Inferable → second.Inferable →
    membersEqual first second = true → first = second
  | .nil, .nil, _, _, _ => rfl
  | .cons _ _ _, .cons _ _ _, one, two, same => by
    rw [membersEqual, Bool.and_eq_true, Bool.and_eq_true] at same
    obtain ⟨⟨names, types⟩, rests⟩ := same
    have cut := of_decide_eq_true names
    rw [one.1, two.1] at cut
    rw [cut, eq_of_logicalTypesEqual one.2.1 two.2.1 types,
      eq_of_membersEqual one.2.2 two.2.2 rests]

end

/-! ## Inference -/

/-- The members that are inferred have types that can be inferred. -/
theorem inferMembers_inferable {infer : Zval → Except Thrown (Option LogicalType)}
    (each : ∀ value type, infer value = .ok (some type) → type.Inferable) :
    ∀ {elements : Elements} {members : Members},
      inferMembers infer elements = .ok (some members) → members.Inferable
  | .nil, members, inferred => by
    obtain rfl := Option.some.inj (Except.ok.inj inferred)
    exact trivial
  | .cons key value rest, members, inferred => by
    obtain ⟨found, first, later⟩ := Outcome.bind_eq_ok.mp inferred
    cases found with
    | none => cases later
    | some type =>
      obtain ⟨others, tail, same⟩ := Outcome.bind_eq_ok.mp later
      cases others with
      | none => cases same
      | some others =>
        obtain rfl := Option.some.inj (Except.ok.inj same)
        refine ⟨cString_cString key.fieldName, ?_, inferMembers_inferable each tail⟩
        split at first
        · obtain rfl := Option.some.inj (Except.ok.inj first)
          rfl
        · exact each value type first

/-- Inference finds types that can be inferred. -/
theorem infer_inferable {room : Nat} {value : Zval} {type : LogicalType}
    (inferred : duckdbPhpInferLogicalType room value = .ok (some type)) : type.Inferable := by
  induction room generalizing value type with
  | zero => cases inferred
  | succ room ih =>
    cases value with
    | array elements =>
      simp only [duckdbPhpInferLogicalType] at inferred
      split at inferred
      · cases inferred
      · split at inferred
        · split at inferred
          · cases inferred
          · obtain ⟨child, found, same⟩ := Outcome.bind_eq_ok.mp inferred
            obtain ⟨child, rfl, rfl⟩ := Option.map_eq_some_iff.mp (Except.ok.inj same)
            have inferable : child.Inferable := ih found
            exact inferable
        · obtain ⟨members, found, same⟩ := Outcome.bind_eq_ok.mp inferred
          obtain ⟨members, rfl, rfl⟩ := Option.map_eq_some_iff.mp (Except.ok.inj same)
          exact inferMembers_inferable (fun value type => ih) found
    | bool | long | double | string | interval | dateTime =>
      obtain rfl := Option.some.inj (Except.ok.inj inferred)
      rfl
    | null | value | object | resource | reference => cases inferred

/-! ## Conversion -/

/-- A text that became a value was one of which DuckDB makes values. -/
theorem createVarchar_ok {makesVarchar : Bytes → Bool} {text : Bytes} {built : DuckValue}
    (made : duckdbCreateVarcharLength makesVarchar text = .ok built) :
    makesVarchar text = true ∧ built = .varchar text := by
  unfold duckdbCreateVarcharLength at made
  split at made
  · rename_i makes
    exact ⟨makes, (Except.ok.inj made).symm⟩
  · cases made

/-- What the loop over the elements of a list builds. -/
theorem convertElements_uniform {convert : Zval → Except (Option Thrown) DuckValue}
    {child : LogicalType} (inferable : child.Inferable)
    (built : ∀ value converted, convert value = .ok converted →
      converted.Uniform ∧ (value.isNull = false → converted.type.Inferable) ∧
        (value.isNull = true → converted = .null)) :
    ∀ {elements : Elements} {index : Nat} {children : List DuckValue},
      convertElements convert child index elements = .ok children →
        EachUniform children ∧
          ∀ element ∈ children, element.isNull = false → element.type = child
  | .nil, index, children, converted => by
    obtain rfl := Except.ok.inj converted
    exact ⟨trivial, fun _ never => by cases never⟩
  | .cons key value rest, index, children, converted => by
    obtain ⟨first, made, later⟩ := Outcome.bind_eq_ok.mp converted
    obtain ⟨uniform, types, nulls⟩ := built value first made
    obtain ⟨fits, later⟩ := Outcome.ite_error_eq_ok.mp later
    obtain ⟨others, tail, same⟩ := Outcome.bind_eq_ok.mp later
    obtain rfl := Except.ok.inj same
    obtain ⟨each, elements⟩ := convertElements_uniform inferable built tail
    refine ⟨⟨uniform, each⟩, fun element inside notNull => ?_⟩
    rcases List.mem_cons.mp inside with rfl | further
    · cases null : value.isNull with
      | true =>
        rw [nulls null] at notNull
        cases notNull
      | false =>
        have same : logicalTypesEqual child element.type = true := by
          simpa [null] using fits
        exact (eq_of_logicalTypesEqual inferable (types null) same).symm
    · exact elements element further notNull

/-- What the loop over the members of a STRUCT builds. -/
theorem convertMembers_uniform {infer : Zval → Except Thrown (Option LogicalType)}
    {convert : Zval → Except (Option Thrown) DuckValue}
    (built : ∀ value converted, convert value = .ok converted → converted.Uniform) :
    ∀ {elements : Elements} {members : Members} {children : List DuckValue},
      convertMembers infer convert elements = .ok (members, children) →
        inferMembers infer elements = .ok (some members) ∧ EachUniform children
  | .nil, members, children, converted => by
    obtain ⟨rfl, rfl⟩ := Outcome.ok_pair converted
    exact ⟨rfl, trivial⟩
  | .cons key value rest, members, children, converted => by
    rw [convertMembers] at converted
    dsimp only at converted
    rw [inferMembers]
    split at converted
    · cases converted
    · cases converted
    · rename_i type found
      obtain ⟨first, made, later⟩ := Outcome.bind_eq_ok.mp converted
      obtain ⟨⟨others, values⟩, tail, same⟩ := Outcome.bind_eq_ok.mp later
      obtain ⟨rfl, rfl⟩ := Outcome.ok_pair same
      obtain ⟨inferred, uniform⟩ := convertMembers_uniform built tail
      refine ⟨?_, built value first made, uniform⟩
      rw [found, inferred]
      rfl

section Depth

variable {makesVarchar : Bytes → Bool}

/-- What conversion builds: a uniform value of the type that inference finds at the same depth. -/
structure Builds (room : Nat) (value : Zval) (built : DuckValue) : Prop where
  /-- Lists in it are uniform. -/
  uniform : built.Uniform
  /-- Inference finds its type. -/
  inferred : value.isNull = false → duckdbPhpInferLogicalType room value = .ok (some built.type)
  /-- NULL becomes NULL. -/
  null : value.isNull = true → built = .null

/-- The type of what conversion builds can be inferred. -/
theorem Builds.inferable {room : Nat} {value : Zval} {built : DuckValue}
    (builds : Builds room value built) :
    built.Uniform ∧ (value.isNull = false → built.type.Inferable) ∧
      (value.isNull = true → built = .null) :=
  ⟨builds.uniform, fun notNull => infer_inferable (builds.inferred notNull), builds.null⟩

/-- A list is built of the inferred element type. -/
theorem arrayToListValue_builds {room : Nat} {elements : Elements} {built : DuckValue}
    (each : ∀ value converted, duckdbPhpToDuckdbValueDepth makesVarchar room value = .ok converted →
      Builds room value converted) (list : elements.isList = true)
    (converted : duckdbPhpArrayToListValue (duckdbPhpInferLogicalType room)
      (duckdbPhpToDuckdbValueDepth makesVarchar room) elements = .ok built) :
    Builds (room + 1) (.array elements) built := by
  unfold duckdbPhpArrayToListValue at converted
  obtain ⟨counted, converted⟩ := Outcome.ite_error_eq_ok.mp converted
  cases first : elements.firstNonNull with
  | none =>
    rw [first] at converted
    cases converted
  | some element =>
    rw [first] at converted
    dsimp only at converted
    split at converted
    · cases converted
    · cases converted
    · rename_i child found
      obtain ⟨children, made, same⟩ := Outcome.bind_eq_ok.mp converted
      obtain rfl := Except.ok.inj same
      obtain ⟨uniform, types⟩ := convertElements_uniform (infer_inferable found)
        (fun value converted made => (each value converted made).inferable) made
      refine ⟨⟨types, uniform⟩, fun _ => ?_, fun never => by cases never⟩
      simp only [duckdbPhpInferLogicalType, counted, if_false, list, if_true, first]
      rw [found]
      rfl

/-- A STRUCT is built of the inferred members. -/
theorem arrayToStructValue_builds {room : Nat} {elements : Elements} {members : Members}
    {children : List DuckValue}
    (each : ∀ value converted, duckdbPhpToDuckdbValueDepth makesVarchar room value = .ok converted →
      Builds room value converted) (list : elements.isList = false)
    (converted : convertMembers (duckdbPhpInferLogicalType room)
      (duckdbPhpToDuckdbValueDepth makesVarchar room) elements = .ok (members, children)) :
    Builds (room + 1) (.array elements) (.struct members children) := by
  obtain ⟨inferred, uniform⟩ := convertMembers_uniform
    (fun value converted made => (each value converted made).uniform) converted
  refine ⟨uniform, fun _ => ?_, fun never => by cases never⟩
  have counted : elements.count ≠ 0 := by
    intro empty
    cases elements with
    | nil => cases list
    | cons key value rest => cases empty
  simp only [duckdbPhpInferLogicalType, counted, if_false, list]
  rw [if_neg (by simp), inferred]
  rfl

/-- Conversion builds a value of the inferred type, at every depth. -/
theorem depth_builds {room : Nat} {value : Zval} {built : DuckValue}
    (converted : duckdbPhpToDuckdbValueDepth makesVarchar room value = .ok built) :
    Builds room value built := by
  induction room generalizing value built with
  | zero => cases converted
  | succ room ih =>
    cases value with
    | array elements =>
      simp only [duckdbPhpToDuckdbValueDepth] at converted
      cases list : elements.isList with
      | true =>
        rw [list, if_pos rfl] at converted
        exact arrayToListValue_builds (fun value converted => ih) list converted
      | false =>
        rw [list, if_neg (by simp)] at converted
        obtain ⟨⟨members, children⟩, made, same⟩ := Outcome.bind_eq_ok.mp converted
        obtain rfl := Except.ok.inj same
        exact arrayToStructValue_builds (fun value converted => ih) list made
    | dateTime time =>
      cases time with
      | none => cases converted
      | some time =>
        obtain rfl := Except.ok.inj converted
        exact ⟨trivial, fun _ => rfl, fun never => by cases never⟩
    | null =>
      obtain rfl := Except.ok.inj converted
      exact ⟨trivial, (fun never => by cases never), fun _ => rfl⟩
    | string text =>
      obtain ⟨_, rfl⟩ := createVarchar_ok converted
      exact ⟨trivial, fun _ => rfl, fun never => by cases never⟩
    | bool | long | double | interval =>
      obtain rfl := Except.ok.inj converted
      exact ⟨trivial, fun _ => rfl, fun never => by cases never⟩
    | value | object | resource | reference => cases converted

/-- A value that conversion builds has the type that inference finds for it at the same depth, and
the elements of every LIST in it that are not NULL have its element type. -/
theorem inferred_type_built (room : Nat) (value : Zval) (built : DuckValue)
    (converted : duckdbPhpToDuckdbValueDepth makesVarchar room value = .ok built) :
    built.Uniform ∧ ∀ type, duckdbPhpInferLogicalType room value = .ok (some type) →
      logicalTypesEqual built.type type = true ∧ built.type = type := by
  have builds := depth_builds converted
  refine ⟨builds.uniform, fun type inferred => ?_⟩
  have notNull : value.isNull = false := by
    cases value with
    | null => cases room <;> cases inferred
    | bool | long | double | string | array | value | interval | dateTime | object | resource
      | reference => rfl
  have same : built.type = type := by
    have found := (builds.inferred notNull).symm.trans inferred
    exact Option.some.inj (Except.ok.inj found)
  rw [same]
  exact ⟨logicalTypesEqual_refl type, rfl⟩

end Depth

/-- A list of STRUCTs with NULL members and elements. -/
def nestedList : Zval :=
  .array (.cons (.index 0) (.array (.cons (.name (lit "a")) (.long 1)
    (.cons (.name (lit "b")) .null .nil))) (.cons (.index 1) .null .nil))

/-- The nested list is built with the type that is inferred of it. -/
theorem inferred_type_built_nestedList :
    ∃ (built : DuckValue) (type : LogicalType),
      duckdbPhpInferLogicalType 513 nestedList = .ok (some type) ∧
        logicalTypesEqual built.type type = true ∧ built.Uniform := by
  have converted : duckdbPhpToDuckdbValueDepth everyText 513 nestedList = .ok
      (.list (.struct (.cons (lit "a") (plainType .bigint)
        (.cons (lit "b") (plainType .varchar) .nil)))
        [.struct (.cons (lit "a") (plainType .bigint)
          (.cons (lit "b") (plainType .varchar) .nil)) [.bigint 1, .null], .null]) := by
    rfl
  obtain ⟨uniform, types⟩ := inferred_type_built 513 nestedList _ converted
  exact ⟨_, _, rfl, (types _ rfl).1, uniform⟩

end PhpDuckdb.Value
