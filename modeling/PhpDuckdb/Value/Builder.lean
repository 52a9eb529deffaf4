import PhpDuckdb.Lib.Lockstep
import PhpDuckdb.Lib.OrderedTable
import PhpDuckdb.Types.Interpolation
import PhpDuckdb.Value.Conversion

/-!
# The builder of typed conversions

`builder` writes one SQL expression for each input of a typed conversion and collects the values
that the statement is executed with. Text is kept in fragments: a parameter fragment is the `$i`
of the text together with the value that was collected for it at that place, which its bytes do
not show.
-/

namespace PhpDuckdb.Value

open SqlText

/-! ## Text -/

/-- A part of generated SQL: a text, or a parameter and its value. -/
inductive Fragment
  | text (bytes : Bytes)
  /-- The text of a parameter, and the value it was returned for. -/
  | param (index : Nat) (value : DuckValue)

/-- Generated SQL, with a mark for each parameter. -/
abbrev Text := List Fragment

/-- The bytes that a fragment is written as. -/
def Fragment.bytes : Fragment → Bytes
  | .text bytes => bytes
  | .param index _ => 36 :: decimal index

/-- The bytes that a generated text is written as. -/
def Text.bytes (text : Text) : Bytes := text.flatMap Fragment.bytes

/-- The parameter that a fragment shows, if it is one. -/
def Fragment.parameter? : Fragment → Option (Nat × DuckValue)
  | .text _ => none
  | .param index value => some (index, value)

/-- The parameters of a text, with the value that each was returned for. -/
def Text.parameters (text : Text) : List (Nat × DuckValue) := text.filterMap Fragment.parameter?

/-- A part of the generated text that does not depend on the input. -/
def sql (text : String) : Text := [.text (lit text)]

/-- `quote` of a name, as a generated text. -/
def quote (name : Bytes) : Text := [.text (quoted 34 name)]

/-! ## State -/

/-- Why a conversion stopped: the PHP exception that is pending, if any, and the C++ exception
that ended the builder. -/
structure Failure where
  /-- The pending PHP exception. -/
  pending : Option Thrown
  /-- `what()` of the C++ exception. -/
  what : String

/-- The exception that `duckdb_convert_values` leaves behind. -/
def Failure.thrown (failure : Failure) : Thrown :=
  failure.pending.getD (valueError failure.what)

/-- `builder`: the values that its parameters stand for, and the types it resolved. -/
structure Builder where
  /-- The collected values. -/
  params : List DuckValue
  /-- The declarations that this conversion resolved. -/
  types : List (Bytes × LogicalType)

/-- A step of the builder, which can fail. -/
abbrev Build (α : Type) := StateT Builder (Except Failure) α

/-- Stop the generation with a failure. -/
def fail {α : Type} (failure : Failure) : Build α := fun _ => .error failure

/-- `builder::max_cached_types`: how many resolved types a builder keeps. -/
def maxCachedTypes : Nat := 64

/-- `builder::parameter`; a conversion that fails has no handle. -/
def parameter : Except (Option Thrown) DuckValue → Build Text
  | .error pending => fail ⟨pending, "PHP input conversion failed"⟩
  | .ok value => fun builder =>
    .ok ([.param (builder.params.length + 1) value],
      { builder with params := builder.params ++ [value] })

/-- `builder::cast`: the text of a cast around the text of a value. -/
def cast (s : Text) (t : Bytes) : Text := sql "CAST(" ++ s ++ [.text (lit " AS " ++ t ++ lit ")")]

/-- The statement that is prepared to resolve a declaration. -/
def resolveSql (type : Bytes) : Bytes := lit "SELECT CAST(NULL AS " ++ type ++ lit ")"

/-- The failure of a value that is nested too deeply. -/
def exceedsNesting : Failure := ⟨some (valueError "Value exceeds nesting limit"), "depth"⟩

/-- The failure of a wrapper whose constructor was bypassed. -/
def uninitializedValue : Failure :=
  ⟨some ⟨.error, lit "Uninitialized DuckDB\\Value"⟩, "uninitialized"⟩

/-- `builder::shape`: fails with a message when an input has the wrong shape. -/
def shape (ok : Bool) (message : String) : Build Unit :=
  if ok then pure () else fail ⟨some (valueError message), message⟩

/-- `sql_type` in the builder: its C++ exception leaves no PHP exception pending. -/
def sqlText (type : LogicalType) : Build Bytes :=
  match sqlType 65 type with
  | .ok text => pure text
  | .error what => fail ⟨none, what⟩

/-! ## PHP values in the builder -/

/-- `IS_ARRAY`: the value is an array itself, not a reference to one. -/
def Zval.isArray : Zval → Bool
  | .array _ => true
  | _ => false

/-- `Z_ARRVAL_P`: the elements of an array, and none of anything else. -/
def Zval.elements : Zval → Elements
  | .array elements => elements
  | _ => .nil

/-- `IS_STRING`: the value is a string itself, not a reference to one. -/
def Zval.isString : Zval → Bool
  | .string _ => true
  | _ => false

/-- `Z_STRVAL_P` and `Z_STRLEN_P`: the bytes of a string, and none of any other value. -/
def Zval.stringBytes : Zval → Bytes
  | .string text => text
  | _ => []

/-- The name of an array key in `struct_pack`; an index is printed as a `zend_ulong`. -/
def Key.packName : Key → Bytes
  | .index number => decimal number.toUInt64.toNat
  | .name text => text

/-! ## Expressions -/

/-- What the builder asks DuckDB for. -/
structure Native where
  /-- `duckdb_create_varchar_length` makes a value of a text. -/
  makesVarchar : Bytes → Bool
  /-- The type of the column of a prepared statement. -/
  prepare : Bytes → Except Thrown LogicalType

section Expressions

variable (native : Native)

/-- `builder::resolve`: the type of a declaration, asked of DuckDB once and then remembered. -/
def resolve (type : Bytes) : Build LogicalType := fun builder =>
  match OrderedTable.find type builder.types with
  | some found => .ok (found, builder)
  | none =>
    match native.prepare (resolveSql type) with
    | .error thrown => .error ⟨some thrown, "Type resolution failed"⟩
    | .ok metadata =>
      if maxCachedTypes ≤ builder.types.length then .ok (metadata, builder)
      else .ok (metadata, { builder with types := OrderedTable.update type metadata builder.types })

/-- What stands before an element of an argument list. -/
def separator (first : Bool) : Text := if first then [] else sql ", "

/-- The loop over the elements of an array that becomes a list or a STRUCT. -/
def packed (expression : Zval → Build Text) (list : Bool) : Bool → Elements → Build Text
  | _, .nil => pure []
  | first, .cons key value rest => do
    let name := if list then [] else quote key.packName ++ sql " := "
    let element ← expression value
    let others ← packed expression list false rest
    pure (separator first ++ name ++ element ++ others)

/-- The loop over the elements of a LIST or an ARRAY. -/
def items (expression : Zval → Build Text) : Bool → Elements → Build Text
  | _, .nil => pure []
  | first, .cons _ value rest => do
    let element ← expression value
    let others ← items expression false rest
    pure (separator first ++ element ++ others)

/-- The loop over the fields of a STRUCT. -/
def fields (expression : Zval → LogicalType → Bytes → Build Text) (elements : Elements) :
    Bool → Members → Build Text
  | _, .nil => pure []
  | first, .cons name type rest =>
    match elements.find (symKey name) with
    | none => do
      shape false "STRUCT input has missing or unknown fields"
      pure []
    | some value => do
      let declared ← sqlText type
      let field ← expression value type declared
      let others ← fields expression elements false rest
      pure (separator first ++ (quote name ++ sql " := " ++ field) ++ others)

/-- The loop over the entries of a MAP; keys and values go to lists of their own. -/
def entries (expression : Zval → LogicalType → Bytes → Build Text) (key value : LogicalType) :
    Bool → Elements → Build (Text × Text)
  | _, .nil => pure ([], [])
  | first, .cons _ entry rest => do
    let entry := entry.deref
    shape (entry.isArray && entry.elements.count = 2) "MAP entries must contain key and value"
    match entry.elements.find (.name (lit "key")), entry.elements.find (.name (lit "value")) with
    | some k, some v => do
      let keyDeclared ← sqlText key
      let keyText ← expression k key keyDeclared
      let valueDeclared ← sqlText value
      let valueText ← expression v value valueDeclared
      let (keys, vals) ← entries expression key value false rest
      pure (separator first ++ keyText ++ keys, separator first ++ valueText ++ vals)
    | _, _ => do
      shape false "MAP entries must contain key and value"
      pure ([], [])

/-- The loop that looks for the member of a UNION. -/
def unionValue (expression : Zval → LogicalType → Bytes → Build Text) (tag : Bytes)
    (payload : Zval) : Members → Build Text
  | .nil => do
    shape false "Unknown UNION tag"
    pure []
  | .cons name type rest =>
    if name = tag then do
      let declared ← sqlText type
      let value ← expression payload type declared
      pure (sql "union_value(" ++ quote name ++ (sql " := " ++ value ++ sql ")"))
    else unionValue expression tag payload rest

/-- `inferred` or `variant_source` of an array whose elements become expressions. -/
def packedArray (expression : Zval → Build Text) (elements : Elements) : Build Text := do
  let list := elements.isList
  let inner ← packed expression list true elements
  pure ((if list then sql "list_value(" else sql "struct_pack(") ++ inner ++ sql ")")

/-- The conversion of a `DuckDB\Value` to GEOMETRY, by the type that the wrapper declares. -/
def geometrySource (type : Option CanonicalType) (source : Text) : Build Text :=
  match type with
  | none => fail uninitializedValue
  | some type => do
    let st ← resolve native type.text
    match st with
    | .plain .blob _ => pure (sql "ST_GeomFromWKB(" ++ source ++ sql ")")
    | _ => pure (cast source (lit "GEOMETRY"))

/-- What `builder::typed` casts when it is given a wrapper. -/
def wrapperSource (t : LogicalType) (type : Option CanonicalType) (source : Text) : Build Text :=
  match t with
  | .geometry _ => geometrySource native type source
  | _ => pure source

mutual

/-- `builder::inferred`. `room` is how many levels of nesting are left, 65 at depth 0. -/
def inferred : Nat → Zval → Build Text
  | 0, _ => fail exceedsNesting
  | room + 1, v =>
    match v.deref with
    | .value none _ => fail uninitializedValue
    | .value (some type) input => do
      let metadata ← resolve native type.text
      typed room input metadata type.text
    | .array elements =>
      if elements.containsTyped then packedArray (inferred room) elements
      else parameter (duckdbPhpToDuckdbValue native.makesVarchar (.array elements))
    | other => parameter (duckdbPhpToDuckdbValue native.makesVarchar other)

/-- `builder::variant_source`: an input of a VARIANT, its arrays cast element by element. -/
def variantSource : Nat → Zval → Build Text
  | 0, _ => fail exceedsNesting
  | room + 1, v =>
    match v.deref with
    | .array elements => do
      let source ← packedArray (variantSource room) elements
      pure (cast source (lit "VARIANT"))
    | other => do
      let source ← inferred room other
      pure (cast source (lit "VARIANT"))

/-- `builder::typed`: the text of an input at a resolved type, with its shape checked. -/
def typed : Nat → Zval → LogicalType → Bytes → Build Text
  | 0, _, _, _ => fail exceedsNesting
  | room + 1, v, t, decl =>
    match v.deref with
    | .null => do
      let null ← parameter (.ok .null)
      pure (cast null decl)
    | .value type input => do
      let source ← inferred room (.value type input)
      let source ← wrapperSource native t type source
      pure (cast source decl)
    | v =>
      match t with
      | .list child => do
        shape (v.isArray && v.elements.isList) "LIST/ARRAY input must be a sequential PHP array"
        let ct ← sqlText child
        let inner ← items (fun x => typed room x child ct) true v.elements
        pure (cast (sql "list_value(" ++ inner ++ sql ")") decl)
      | .array child size => do
        shape (v.isArray && v.elements.isList) "LIST/ARRAY input must be a sequential PHP array"
        shape (v.elements.count = size) "Fixed ARRAY input has the wrong length"
        let ct ← sqlText child
        let inner ← items (fun x => typed room x child ct) true v.elements
        pure (cast (sql "list_value(" ++ inner ++ sql ")") decl)
      | .struct members => do
        shape v.isArray "STRUCT input must be an associative PHP array"
        shape (v.elements.count = members.count) "STRUCT input has missing or unknown fields"
        let inner ← fields (typed room) v.elements true members
        pure (cast (sql "struct_pack(" ++ inner ++ sql ")") decl)
      | .map key value => do
        shape (v.isArray && v.elements.isList)
          "MAP input must be a sequential array of key/value pairs"
        let (keys, vals) ← entries (typed room) key value true v.elements
        let kt ← sqlText key
        let vt ← sqlText value
        pure (cast (sql "map(" ++
          cast (sql "list_value(" ++ keys ++ sql ")") (kt ++ lit "[]") ++ sql ", " ++
          cast (sql "list_value(" ++ vals ++ sql ")") (vt ++ lit "[]") ++ sql ")") decl)
      | .union members => do
        shape (v.isArray && v.elements.count = 2) "UNION input requires tag and value"
        match v.elements.find (.name (lit "tag")), v.elements.find (.name (lit "value")) with
        | some tag, some payload => do
          shape tag.deref.isString "UNION tag must be a string"
          let value ← unionValue (typed room) tag.deref.stringBytes payload members
          pure (cast value decl)
        | _, _ => do
          shape false "UNION input requires tag and value"
          pure []
      | .plain .variant _ =>
        match v with
        | .array elements => variantSource room (.array elements)
        | v => do
          let source ← inferred room v
          pure (cast source decl)
      | .plain .blob _ =>
        match v with
        | .string text => do
          let blob ← parameter (.ok (.blob text))
          pure (cast blob decl)
        | v => do
          let source ← inferred room v
          pure (cast source decl)
      | _ => do
        let source ← inferred room v
        pure (cast source decl)

end

/-- The inputs of a conversion, each as an argument of the capture function. -/
def arguments : Bool → List Zval → Build Text
  | _, [] => pure []
  | first, input :: rest => do
    let argument ← inferred native 65 input
    let others ← arguments false rest
    pure (separator first ++ argument ++ others)

/-- The statement of `duckdb_convert_values`; its last argument is a bare parameter. -/
def conversionSql (capture : Bytes) (inputs : List Zval) : Build Text := do
  let inner ← arguments native true inputs
  let last ← parameter (.ok (.bigint 0))
  pure (sql "SELECT " ++ quote capture ++ (sql "(" ++ inner ++ (sql ", " ++ last ++ sql ")")))

end Expressions

end PhpDuckdb.Value
