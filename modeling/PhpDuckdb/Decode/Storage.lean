import PhpDuckdb.Decode.Nested
import PhpDuckdb.Value.Inference

/-!
# Vectors of bound values

DuckDB stores values of a type in the rows of a vector: a LIST as a window of the rows of its child, a
STRUCT as a row of each of its children. The types are those that plain conversion gives to booleans,
numbers, strings, intervals, lists and arrays of these.
-/

namespace PhpDuckdb.Value

open SqlText

/-- The elements of a LIST, and none of any other value. -/
def DuckValue.items : DuckValue → List DuckValue
  | .list _ children => children
  | _ => []

/-- The fields of a STRUCT, and none of any other value. -/
def DuckValue.fields : DuckValue → List DuckValue
  | .struct _ children => children
  | _ => []

/-- The integer of a value that is stored as a BIGINT. -/
def DuckValue.number : DuckValue → Int64
  | .bigint value => value
  | _ => 0

/-- The bytes of a value that is stored as a VARCHAR. -/
def DuckValue.text : DuckValue → Bytes
  | .varchar text => text
  | _ => []

end PhpDuckdb.Value

namespace PhpDuckdb.Decode

open SqlText Value

/-- The value that a row of a column stores. -/
def rowOf (rows : List DuckValue) (row : Nat) : DuckValue := rows.getD row .null

/-- The validity mask of a vector of values. -/
def validity (rows : List DuckValue) (row : Nat) : Bool := !(rowOf rows row).isNull

/-- The rows of the lists before a row come first in the child. -/
def firstItem (rows : List DuckValue) (row : Nat) : Nat :=
  ((rows.take row).flatMap DuckValue.items).length

/-- A list without rows is in memory. -/
theorem none_inMemory : 0 < 2 ^ 63 := by decide

/-- The rows of the child that hold the elements of a list. -/
def listEntry (rows : List DuckValue) (row : Nat) : ListEntry :=
  if inMemory : (rowOf rows row).items.length < 2 ^ 63 then
    ⟨firstItem rows row, (rowOf rows row).items.length, inMemory⟩
  else ⟨0, 0, none_inMemory⟩

/-- The cases of `duckdb_decode_value` for BOOLEAN, DOUBLE and INTERVAL. -/
def decodeLeaf : DuckValue → Except String Zval
  | .bool value => .ok (.bool value)
  | .double bits => .ok (.double bits)
  | .interval months days micros => .ok (.interval months days micros)
  | _ => .error "Values of this type are not stored here"

mutual

/-- The vector of a type with the values in its rows. -/
def vectorOf : LogicalType → List DuckValue → Vec
  | .plain .bigint _, rows => .scalar .bigint (validity rows) fun row => (rowOf rows row).number
  | .plain .varchar _, rows => .scalar .varchar (validity rows) fun row => (rowOf rows row).text
  | .list child, rows =>
    .list (validity rows) (listEntry rows) (vectorOf child (rows.flatMap DuckValue.items))
  | .struct members, rows =>
    .struct (validity rows) (columnsOf members (rows.map DuckValue.fields))
  | _, rows => .scalar .other (validity rows) fun row => decodeLeaf (rowOf rows row)

/-- The children of a STRUCT vector, whose fields are in the rows. -/
def columnsOf : Members → List (List DuckValue) → Children
  | .nil, _ => .nil
  | .cons name type rest, rows =>
    .cons (some name) (vectorOf type (rows.map fun fields => fields.headD .null))
      (columnsOf rest (rows.map List.tail))

end

end PhpDuckdb.Decode
