import PhpDuckdb.Lib.Allocation
import PhpDuckdb.Lib.Outcome
import PhpDuckdb.Value.Conversion

/-!
# The handles of conversion

Every logical type and value that conversion makes on the way is a handle of DuckDB that it has to
destroy. The functions below are those of plain conversion with their handles; what they compute is
what the functions without handles compute, and they leave no handle but that of their result.
-/

namespace PhpDuckdb.Value

open SqlText Allocation

/-- A handle and what it is of. -/
structure Owned (α : Type) where
  /-- Its number. -/
  handle : Nat
  /-- What it is of. -/
  it : α

/-- Make a handle for a type or a value. -/
def made {α : Type} (it : α) : Program (Owned α) := do
  let handle ← create
  pure ⟨handle, it⟩

/-! ## Comparing types -/

mutual

/-- `duckdb_logical_types_equal`: the child types are handles of their own. -/
def typesEqual : LogicalType → LogicalType → Program Bool
  | .list first, .list second => do
    let ca ← create
    let cb ← create
    let same ← typesEqual first second
    destroy cb
    destroy ca
    pure same
  | .array first size, .array second other =>
    if size ≠ other then pure false
    else do
      let ca ← create
      let cb ← create
      let same ← typesEqual first second
      destroy cb
      destroy ca
      pure same
  | .struct first, .struct second =>
    if first.count ≠ second.count then pure false else structsEqual first second
  | first, second => pure (logicalTypesEqual first second)

/-- The loop over the members of two STRUCTs. -/
def structsEqual : Members → Members → Program Bool
  | .cons name type rest, .cons other second others =>
    if cString name ≠ cString other then pure false
    else do
      let ca ← create
      let cb ← create
      let same ← typesEqual type second
      destroy cb
      destroy ca
      if same then structsEqual rest others else pure false
  | _, _ => pure true

end

/-! ## Inference -/

/-- What inference returns: a type, a null handle or the same with an exception. -/
abbrev InferredType := Except Thrown (Option (Owned LogicalType))

/-- The loop over the members of an array that becomes a STRUCT: the handles of the member types
that were made, and the members. -/
def memberTypes (infer : Zval → Program InferredType) :
    Elements → Program (List Nat × Except Thrown (Option Members))
  | .nil => pure ([], .ok (some .nil))
  | .cons key value rest => do
    let type ← (if value.isNull then do
        let varchar ← made (plainType .varchar)
        pure (.ok (some varchar))
      else infer value)
    match type with
    | .error thrown => pure ([], .error thrown)
    | .ok none => pure ([], .ok none)
    | .ok (some type) => do
      let (handles, members) ← memberTypes infer rest
      pure (type.handle :: handles, members.map fun members =>
        members.map fun members => .cons (cString key.fieldName) type.it members)

/-- `duckdb_create_logical_type` in `duckdb_php_infer_logical_type`: the handle of a plain type. -/
def inferredPlain (id : TypeId) : Program InferredType := do
  let type ← made (plainType id)
  pure (.ok (some type))

/-- `duckdb_php_infer_logical_type`, with the handles of the types that it makes and frees. -/
def inferType : Nat → Zval → Program InferredType
  | 0, _ => pure (.error nestedTooDeeply)
  | room + 1, value =>
    match value with
    | .bool _ => inferredPlain .boolean
    | .long _ => inferredPlain .bigint
    | .double _ => inferredPlain .double
    | .string _ => inferredPlain .varchar
    | .interval _ _ _ => inferredPlain .interval
    | .dateTime _ => inferredPlain .timestamp
    | .array elements =>
      if elements.count = 0 then pure (.ok none)
      else if elements.isList then
        match elements.firstNonNull with
        | none => pure (.ok none)
        | some element => do
          let child ← inferType room element
          match child with
          | .error thrown => pure (.error thrown)
          | .ok none => pure (.ok none)
          | .ok (some child) => do
            let list ← made (.list child.it)
            destroy child.handle
            pure (.ok (some list))
      else do
        let (handles, members) ← memberTypes (inferType room) elements
        match members with
        | .error thrown => do
          destroyAll handles
          pure (.error thrown)
        | .ok none => do
          destroyAll handles
          pure (.ok none)
        | .ok (some members) => do
          let result ← made (.struct members)
          destroyAll handles
          pure (.ok (some result))
    | _ => pure (.ok none)

/-! ## Conversion -/

/-- What conversion returns: a value, or a null handle with the exception that is pending. -/
abbrev ConvertedValue := Except (Option Thrown) (Owned DuckValue)

/-- A value that one of DuckDB's constructors makes, with its handle. -/
def converted (value : DuckValue) : Program ConvertedValue := do
  let value ← made value
  pure (.ok value)

/-- The loop over the elements of a list: the handles of the children, and the children. -/
def elementValues (convert : Zval → Program ConvertedValue) (child : LogicalType) :
    Nat → Elements → Program (List Nat × Except (Option Thrown) (List DuckValue))
  | _, .nil => pure ([], .ok [])
  | index, .cons _ value rest => do
    let element ← convert value
    match element with
    | .error pending => pure ([], .error pending)
    | .ok element => do
      let same ← (if value.isNull then pure true else typesEqual child element.it.type)
      if same then do
        let (handles, children) ← elementValues convert child (index + 1) rest
        pure (element.handle :: handles, children.map fun children => element.it :: children)
      else
        pure ([element.handle], .error (some ⟨.valueError,
          lit "Cannot convert array to a DuckDB LIST: element " ++ decimal index ++
            lit " has a different type than the inferred element type " ++ lit child.idName⟩))

/-- `duckdb_php_array_to_list_value`, with the handles that it makes and frees. -/
def listValue (infer : Zval → Program InferredType) (convert : Zval → Program ConvertedValue)
    (elements : Elements) : Program ConvertedValue :=
  if elements.count = 0 then
    pure (.error (some (valueError
      "Cannot convert an empty array to a DuckDB LIST (the element type cannot be inferred)")))
  else do
    let child ← (match elements.firstNonNull with
      | none => pure (.ok none)
      | some element => infer element)
    match child with
    | .error thrown => pure (.error (some thrown))
    | .ok none =>
      pure (.error (some (valueError <| "Cannot convert an array of only NULL values to a DuckDB LIST " ++
        "(the element type cannot be inferred)")))
    | .ok (some child) => do
      let (handles, children) ← elementValues convert child.it 0 elements
      match children with
      | .error pending => do
        destroyAll handles
        destroy child.handle
        pure (.error pending)
      | .ok children => do
        let list ← made (.list child.it children)
        destroyAll handles
        destroy child.handle
        pure (.ok list)

/-- The loop over the members of a STRUCT value: the handles of the member types and the children,
and the members. -/
def memberValues (infer : Zval → Program InferredType) (convert : Zval → Program ConvertedValue) :
    Elements → Program (List Nat × Except (Option Thrown) (Members × List DuckValue))
  | .nil => pure ([], .ok (.nil, []))
  | .cons key value rest => do
    let type ← (if value.isNull then do
        let varchar ← made (plainType .varchar)
        pure (.ok (some varchar))
      else infer value)
    match type with
    | .error thrown => pure ([], .error (some thrown))
    | .ok none => pure ([], .error none)
    | .ok (some type) => do
      let child ← convert value
      match child with
      | .error pending => pure ([type.handle], .error pending)
      | .ok child => do
        let (handles, others) ← memberValues infer convert rest
        pure (type.handle :: child.handle :: handles, others.map fun others =>
          (.cons (cString key.fieldName) type.it others.1, child.it :: others.2))

/-- `duckdb_php_array_to_struct_value`, with the handles that it makes and frees. -/
def structValue (infer : Zval → Program InferredType) (convert : Zval → Program ConvertedValue)
    (elements : Elements) : Program ConvertedValue := do
  let (handles, members) ← memberValues infer convert elements
  match members with
  | .error pending => do
    destroyAll handles
    pure (.error pending)
  | .ok (members, children) => do
    let type ← create
    let value ← made (.struct members children)
    destroy type
    destroyAll handles
    pure (.ok value)

/-- A constructor of DuckDB that may make no value. -/
def convertedIf (value : Except (Option Thrown) DuckValue) : Program ConvertedValue :=
  match value with
  | .error pending => pure (.error pending)
  | .ok value => converted value

/-- `duckdb_php_to_duckdb_value_depth`, with the handles that it makes and frees. -/
def convertValue (makesVarchar : Bytes → Bool) : Nat → Zval → Program ConvertedValue
  | 0, _ => pure (.error (some nestedTooDeeply))
  | room + 1, value =>
    match value with
    | .null => converted .null
    | .bool value => converted (.bool value)
    | .long value => converted (.bigint value)
    | .double bits => converted (.double bits)
    | .string text => convertedIf (duckdbCreateVarcharLength makesVarchar text)
    | .interval months days micros => converted (.interval months days micros)
    | .dateTime time => convertedIf (duckdbPhpDatetimeToValue time)
    | .value _ _ => pure (.error (some (unsupportedObject (lit "DuckDB\\Value"))))
    | .object className => pure (.error (some (unsupportedObject className)))
    | .array elements =>
      if elements.isList then listValue (inferType room) (convertValue makesVarchar room) elements
      else structValue (inferType room) (convertValue makesVarchar room) elements
    | .resource =>
      pure (.error (some (typeError "Cannot convert a value of type resource to a DuckDB value")))
    | .reference target =>
      pure (.error (some ⟨.typeError, lit "Cannot convert a value of type " ++
        lit target.typeName ++ lit " to a DuckDB value"⟩))

end PhpDuckdb.Value
