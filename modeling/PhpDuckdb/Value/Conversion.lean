import PhpDuckdb.Value.LogicalType

/-!
# Plain conversion of PHP values

`duckdb_php_to_duckdb_value` turns a PHP value without typed wrappers into a DuckDB value. Lists
take their element type from the first non-NULL element, other arrays become STRUCTs; nesting is
bounded. A null handle is a failure, with the PHP exception that it left pending, if any.
-/

namespace PhpDuckdb.Value

open SqlText

/-- The classes of PHP exceptions that the extension throws. -/
inductive ExceptionClass
  | error
  | typeError
  | valueError
  /-- `DuckDB\BinderException`. -/
  | binder
  /-- `DuckDB\ConnectionException`. -/
  | connection
  /-- `DuckDB\Exception` itself. -/
  | exception
  /-- Another class of the extension, by DuckDB's category of the error. -/
  | engine (category : Bytes)
  deriving DecidableEq, Repr

/-- A PHP exception with its class and message. -/
structure Thrown where
  /-- Its class. -/
  class_ : ExceptionClass
  /-- Its message. -/
  message : Bytes
  deriving DecidableEq, Repr

/-- `zend_value_error`: the exception for a value that cannot be taken. -/
def valueError (message : String) : Thrown := ⟨.valueError, lit message⟩

/-- `zend_type_error`: the exception for a value of the wrong type. -/
def typeError (message : String) : Thrown := ⟨.typeError, lit message⟩

/-- A DuckDB value with what its handle tells of it. -/
inductive DuckValue
  | null
  | bool (value : Bool)
  | bigint (value : Int64)
  | double (bits : UInt64)
  | varchar (text : Bytes)
  | blob (text : Bytes)
  | interval (months days : Int32) (micros : Int64)
  | timestamp (micros : Int64)
  | list (child : LogicalType) (children : List DuckValue)
  | struct (members : Members) (children : List DuckValue)
  /-- A value that DuckDB computed, by its type and its text. -/
  | computed (type : LogicalType) (text : Bytes)

/-- A logical type without parameters and alias. -/
def plainType (id : TypeId) : LogicalType := .plain id none

/-- `duckdb_get_value_type`: the logical type that DuckDB reports of a value. -/
def DuckValue.type : DuckValue → LogicalType
  | .null => plainType .sqlnull
  | .bool _ => plainType .boolean
  | .bigint _ => plainType .bigint
  | .double _ => plainType .double
  | .varchar _ => plainType .varchar
  | .blob _ => plainType .blob
  | .interval _ _ _ => plainType .interval
  | .timestamp _ => plainType .timestamp
  | .list child _ => .list child
  | .struct members _ => .struct members
  | .computed type _ => type

/-- A C string ends at its first NUL. -/
def cString (text : Bytes) : Bytes := text.takeWhile (· ≠ 0)

/-- A text without NUL bytes is a C string. -/
theorem cString_eq {text : Bytes} : cString text = text ↔ 0 ∉ text := by
  rw [cString, List.takeWhile_eq_self_iff]
  constructor
  · intro clean inside
    exact absurd (clean 0 inside) (by simp)
  · intro absent byte inside
    simp only [decide_eq_true_eq]
    rintro rfl
    exact absent inside

/-- A cut text is cut again to itself. -/
theorem cString_cString (text : Bytes) : cString (cString text) = cString text := by
  rw [cString_eq]
  intro inside
  have kept := List.mem_takeWhile_imp inside
  exact absurd kept (by decide)

mutual

/-- `duckdb_logical_types_equal`: types are compared part by part, and names as C strings. -/
def logicalTypesEqual : LogicalType → LogicalType → Bool
  | .plain first _, .plain second _ => first = second
  | .decimal _ _, .decimal _ _ => true
  | .enum _, .enum _ => true
  | .geometry _, .geometry _ => true
  | .list first, .list second => logicalTypesEqual first second
  | .array first size, .array second other => size = other && logicalTypesEqual first second
  | .map _ _, .map _ _ => true
  | .struct first, .struct second => membersEqual first second
  | .union _, .union _ => true
  | _, _ => false

/-- The members of two STRUCTs in `duckdb_logical_types_equal`. -/
def membersEqual : Members → Members → Bool
  | .nil, .nil => true
  | .cons name type rest, .cons other second others =>
    cString name = cString other && logicalTypesEqual type second && membersEqual rest others
  | _, _ => false

end

/-- `DUCKDB_MAX_NESTING_DEPTH`: how deep a value is converted before it is refused. -/
def maxNestingDepth : Nat := 512

/-- The failure of a value that is nested too deeply. -/
def nestedTooDeeply : Thrown :=
  valueError "Cannot convert a value nested deeper than 512 levels to a DuckDB value"

/-- The field name of an array key. -/
def Key.fieldName : Key → Bytes
  | .index number => signedDecimal number.toInt
  | .name text => text

/-- `IS_NULL`: the value is null itself, not a reference to it. -/
def Zval.isNull : Zval → Bool
  | .null => true
  | _ => false

/-- The first element that is not NULL. -/
def Elements.firstNonNull : Elements → Option Zval
  | .nil => none
  | .cons _ value rest => if value.isNull then rest.firstNonNull else some value

/-- The members of the STRUCT type inferred from an array; `none` once a member has no type. -/
def inferMembers (infer : Zval → Except Thrown (Option LogicalType)) :
    Elements → Except Thrown (Option Members)
  | .nil => .ok (some .nil)
  | .cons key value rest => do
    let type ← (if value.isNull then .ok (some (plainType .varchar)) else infer value)
    match type with
    | none => .ok none
    | some type => do
      let members ← inferMembers infer rest
      .ok (members.map fun members => .cons (cString key.fieldName) type members)

/-- `duckdb_php_infer_logical_type`: `none` is a null handle without an exception. `room` is how
many levels of nesting are left, 513 at depth 0. -/
def duckdbPhpInferLogicalType : Nat → Zval → Except Thrown (Option LogicalType)
  | 0, _ => .error nestedTooDeeply
  | room + 1, value =>
    match value with
    | .bool _ => .ok (some (plainType .boolean))
    | .long _ => .ok (some (plainType .bigint))
    | .double _ => .ok (some (plainType .double))
    | .string _ => .ok (some (plainType .varchar))
    | .interval _ _ _ => .ok (some (plainType .interval))
    | .dateTime _ => .ok (some (plainType .timestamp))
    | .array elements =>
      if elements.count = 0 then .ok none
      else if elements.isList then
        match elements.firstNonNull with
        | none => .ok none
        | some element => do
          let child ← duckdbPhpInferLogicalType room element
          .ok (child.map .list)
      else do
        let members ← inferMembers (duckdbPhpInferLogicalType room) elements
        .ok (members.map .struct)
    | _ => .ok none

/-- The elements of a list, each checked against the inferred element type. -/
def convertElements (convert : Zval → Except (Option Thrown) DuckValue) (child : LogicalType) :
    Nat → Elements → Except (Option Thrown) (List DuckValue)
  | _, .nil => .ok []
  | index, .cons _ value rest => do
    let converted ← convert value
    if !value.isNull && !logicalTypesEqual child converted.type then
      .error (some ⟨.valueError, lit "Cannot convert array to a DuckDB LIST: element " ++
        decimal index ++ lit " has a different type than the inferred element type " ++
        lit child.idName⟩)
    else do
      let others ← convertElements convert child (index + 1) rest
      .ok (converted :: others)

/-- `duckdb_php_array_to_list_value`: a LIST of the type that its first element with a value infers.
-/
def duckdbPhpArrayToListValue (infer : Zval → Except Thrown (Option LogicalType))
    (convert : Zval → Except (Option Thrown) DuckValue) (elements : Elements) :
    Except (Option Thrown) DuckValue :=
  if elements.count = 0 then
    .error (some (valueError
      "Cannot convert an empty array to a DuckDB LIST (the element type cannot be inferred)"))
  else
    let child : Except Thrown (Option LogicalType) := match elements.firstNonNull with
      | none => .ok none
      | some element => infer element
    match child with
    | .error thrown => .error (some thrown)
    | .ok none =>
      .error (some (valueError <| "Cannot convert an array of only NULL values to a DuckDB LIST " ++
        "(the element type cannot be inferred)"))
    | .ok (some child) => do
      let children ← convertElements convert child 0 elements
      .ok (.list child children)

/-- The members of a STRUCT value; a member whose type cannot be inferred fails without an
exception of its own. -/
def convertMembers (infer : Zval → Except Thrown (Option LogicalType))
    (convert : Zval → Except (Option Thrown) DuckValue) :
    Elements → Except (Option Thrown) (Members × List DuckValue)
  | .nil => .ok (.nil, [])
  | .cons key value rest =>
    let type : Except Thrown (Option LogicalType) :=
      if value.isNull then .ok (some (plainType .varchar)) else infer value
    match type with
    | .error thrown => .error (some thrown)
    | .ok none => .error none
    | .ok (some type) => do
      let converted ← convert value
      let (members, children) ← convertMembers infer convert rest
      .ok (.cons (cString key.fieldName) type members, converted :: children)

/-- `duckdb_php_datetime_to_value`: the microseconds since the epoch, in a word that wraps. -/
def duckdbPhpDatetimeToValue : Option (Int64 × Int64) → Except (Option Thrown) DuckValue
  | none => .error (some (typeError "Cannot bind an uninitialized DateTimeInterface object"))
  | some (seconds, micros) => .ok (.timestamp (seconds * 1000000 + micros))

/-- `duckdb_create_varchar_length`, where `makesVarchar` says of which texts DuckDB makes a value. It
makes none of a text that is not UTF-8, and throws nothing then. -/
def duckdbCreateVarcharLength (makesVarchar : Bytes → Bool) (text : Bytes) :
    Except (Option Thrown) DuckValue :=
  if makesVarchar text then .ok (.varchar text) else .error none

/-- DuckDB makes a value of every text. -/
def everyText : Bytes → Bool := fun _ => true

/-- The failure of an object that is no DuckDB value. -/
def unsupportedObject (className : Bytes) : Thrown :=
  ⟨.typeError, lit "Cannot convert an object of class " ++ className ++
    lit " to a DuckDB value (supported: DuckDB\\Interval, DateTimeInterface)"⟩

section Depth

variable (makesVarchar : Bytes → Bool)

/-- `duckdb_php_to_duckdb_value_depth`. `room` is how many levels of nesting are left, 513 at
depth 0. -/
def duckdbPhpToDuckdbValueDepth : Nat → Zval → Except (Option Thrown) DuckValue
  | 0, _ => .error (some nestedTooDeeply)
  | room + 1, value =>
    match value with
    | .null => .ok .null
    | .bool value => .ok (.bool value)
    | .long value => .ok (.bigint value)
    | .double bits => .ok (.double bits)
    | .string text => duckdbCreateVarcharLength makesVarchar text
    | .interval months days micros => .ok (.interval months days micros)
    | .dateTime time => duckdbPhpDatetimeToValue time
    | .value _ _ => .error (some (unsupportedObject (lit "DuckDB\\Value")))
    | .object className => .error (some (unsupportedObject className))
    | .array elements =>
      if elements.isList then
        duckdbPhpArrayToListValue (duckdbPhpInferLogicalType room)
          (duckdbPhpToDuckdbValueDepth room) elements
      else do
        let (members, children) ← convertMembers (duckdbPhpInferLogicalType room)
          (duckdbPhpToDuckdbValueDepth room) elements
        .ok (.struct members children)
    | .resource =>
      .error (some (typeError "Cannot convert a value of type resource to a DuckDB value"))
    | .reference target =>
      .error (some ⟨.typeError, lit "Cannot convert a value of type " ++ lit target.typeName ++
        lit " to a DuckDB value"⟩)

/-- `duckdb_php_to_duckdb_value`: the conversion of a value from the outermost level. -/
def duckdbPhpToDuckdbValue (value : Zval) : Except (Option Thrown) DuckValue :=
  duckdbPhpToDuckdbValueDepth makesVarchar (maxNestingDepth + 1) value

end Depth

end PhpDuckdb.Value
