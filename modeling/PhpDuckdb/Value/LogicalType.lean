import PhpDuckdb.Value.Zval

/-!
# DuckDB logical types

The type metadata that the extension asks DuckDB for, and the two renderings that depend on
nothing else: the SQL text of a type (`sql_type`) and the name of a type id.
-/

namespace PhpDuckdb.Value

open SqlText

/-- The ids of the types without parameters, and those without a name. -/
inductive TypeId
  | boolean
  | tinyint
  | smallint
  | integer
  | bigint
  | utinyint
  | usmallint
  | uinteger
  | ubigint
  | float
  | double
  | timestamp
  | date
  | time
  | interval
  | hugeint
  | uhugeint
  | varchar
  | blob
  | timestampS
  | timestampMs
  | timestampNs
  | uuid
  | bit
  | timeTz
  | timestampTz
  | timestampTzNs
  | timeNs
  | variant
  | bignum
  | sqlnull
  /-- An id that `duckdb_type_name` does not know. -/
  | unknown (id : Nat)
  deriving DecidableEq, Repr

mutual

/-- A logical type of DuckDB with everything that its handle tells. -/
inductive LogicalType
  /-- A type without parameters and its alias, such as JSON for VARCHAR. -/
  | plain (id : TypeId) (alias_ : Option Bytes)
  | decimal (width scale : Nat)
  | enum (labels : List Bytes)
  | geometry (crs : Option Bytes)
  | list (child : LogicalType)
  | array (child : LogicalType) (size : Nat)
  | map (key value : LogicalType)
  | struct (members : Members)
  | union (members : Members)

/-- The members of a STRUCT or a UNION, in order. -/
inductive Members
  | nil
  | cons (name : Bytes) (type : LogicalType) (rest : Members)

end

/-- `duckdb_type_name` of a type without parameters. -/
def TypeId.name : TypeId → String
  | .boolean => "BOOLEAN"
  | .tinyint => "TINYINT"
  | .smallint => "SMALLINT"
  | .integer => "INTEGER"
  | .bigint => "BIGINT"
  | .utinyint => "UTINYINT"
  | .usmallint => "USMALLINT"
  | .uinteger => "UINTEGER"
  | .ubigint => "UBIGINT"
  | .float => "FLOAT"
  | .double => "DOUBLE"
  | .timestamp => "TIMESTAMP"
  | .date => "DATE"
  | .time => "TIME"
  | .interval => "INTERVAL"
  | .hugeint => "HUGEINT"
  | .uhugeint => "UHUGEINT"
  | .varchar => "VARCHAR"
  | .blob => "BLOB"
  | .timestampS => "TIMESTAMP_S"
  | .timestampMs => "TIMESTAMP_MS"
  | .timestampNs => "TIMESTAMP_NS"
  | .uuid => "UUID"
  | .bit => "BIT"
  | .timeTz => "TIME_TZ"
  | .timestampTz => "TIMESTAMP_TZ"
  | .timestampTzNs => "TIMESTAMPTZ_NS"
  | .timeNs => "TIME_NS"
  | .variant => "VARIANT"
  | .bignum => "BIGNUM"
  | .sqlnull => "SQLNULL"
  | .unknown _ => "UNKNOWN"

/-- `duckdb_type_name` knows a name for the id. -/
def TypeId.known : TypeId → Bool
  | .unknown _ => false
  | _ => true

/-- `duckdb_type_name` of the id of a type. -/
def LogicalType.idName : LogicalType → String
  | .plain id _ => id.name
  | .decimal _ _ => "DECIMAL"
  | .enum _ => "ENUM"
  | .geometry _ => "GEOMETRY"
  | .list _ => "LIST"
  | .array _ _ => "ARRAY"
  | .map _ _ => "MAP"
  | .struct _ => "STRUCT"
  | .union _ => "UNION"

/-- The number of members of a STRUCT or a UNION. -/
def Members.count : Members → Nat
  | .nil => 0
  | .cons _ _ rest => rest.count + 1

/-- The labels of an ENUM, quoted and separated. -/
def quotedLabels : List Bytes → Bytes
  | [] => []
  | [label] => quoted 39 label
  | label :: rest => quoted 39 label ++ lit ", " ++ quotedLabels rest

/-- The SQL text of a type without parameters; the names of the C API differ from DuckDB's SQL
spellings. -/
def plainSql (id : TypeId) (alias_ : Option Bytes) : Bytes :=
  match id with
  | .timeTz => lit "TIMETZ"
  | .timestampTz => lit "TIMESTAMPTZ"
  | id => if alias_ = some (lit "JSON") then lit "JSON" else lit id.name

mutual

/-- `sql_type`. `room` is how many levels of nesting are left, 65 at depth 0. -/
def sqlType : Nat → LogicalType → Except String Bytes
  | 0, _ => .error "Type exceeds nesting limit"
  | _ + 1, .plain id alias_ => .ok (plainSql id alias_)
  | _ + 1, .decimal width scale =>
    .ok (lit "DECIMAL(" ++ decimal width ++ lit "," ++ decimal scale ++ lit ")")
  | _ + 1, .enum labels => .ok (lit "ENUM(" ++ quotedLabels labels ++ lit ")")
  | _ + 1, .geometry none => .ok (lit "GEOMETRY")
  | _ + 1, .geometry (some crs) => .ok (lit "GEOMETRY" ++ (lit "(" ++ quoted 39 crs ++ lit ")"))
  | room + 1, .list child => do
    let child ← sqlType room child
    .ok (child ++ lit "[]")
  | room + 1, .array child size => do
    let child ← sqlType room child
    .ok (child ++ lit "[" ++ decimal size ++ lit "]")
  | room + 1, .map key value => do
    let key ← sqlType room key
    let value ← sqlType room value
    .ok (lit "MAP(" ++ key ++ lit ", " ++ value ++ lit ")")
  | room + 1, .struct members => do
    let fields ← sqlMembers room members true
    .ok (lit "STRUCT(" ++ fields ++ lit ")")
  | room + 1, .union members => do
    let fields ← sqlMembers room members true
    .ok (lit "UNION(" ++ fields ++ lit ")")

/-- The members of a STRUCT or UNION in `sql_type`. -/
def sqlMembers : Nat → Members → Bool → Except String Bytes
  | _, .nil, _ => .ok []
  | room, .cons name type rest, first => do
    let field ← sqlType room type
    let fields ← sqlMembers room rest false
    .ok ((if first then [] else lit ", ") ++ (quoted 34 name ++ lit " " ++ field) ++ fields)

end

end PhpDuckdb.Value
