import PhpDuckdb.Decode.Integers
import PhpDuckdb.Value.PhpArray

/-!
# Nested values

The decoder walks a flat vector and its children: lists and arrays become PHP lists, structs become
arrays under the names of their fields, maps become arrays under their keys or lists of pairs.
-/

namespace PhpDuckdb.Decode

open SqlText Value OrderedTable

/-! ## Vectors -/

/-- The types without children, as far as their cells can be keys of a MAP. -/
inductive ScalarType where
  /-- TINYINT. -/
  | tinyint
  /-- SMALLINT. -/
  | smallint
  /-- INTEGER. -/
  | integer
  /-- BIGINT. -/
  | bigint
  /-- UTINYINT. -/
  | utinyint
  /-- USMALLINT. -/
  | usmallint
  /-- UINTEGER. -/
  | uinteger
  /-- UBIGINT. -/
  | ubigint
  /-- VARCHAR. -/
  | varchar
  /-- ENUM. -/
  | enum
  /-- Any other type. -/
  | other
deriving DecidableEq, Repr

/-- A cell of a type: an ENUM's is the label that the dictionary has for it, if any; one of another
type is what the decoder makes of it. -/
abbrev ScalarType.Native : ScalarType → Type
  | .tinyint => Int8
  | .smallint => Int16
  | .integer => Int32
  | .bigint => Int64
  | .utinyint => UInt8
  | .usmallint => UInt16
  | .uinteger => UInt32
  | .ubigint => UInt64
  | .varchar => Bytes
  | .enum => Option Bytes
  | .other => Except String Zval

/-- `duckdb_list_entry`: the rows of the child that a LIST holds. -/
structure ListEntry where
  /-- The first row of the child. -/
  offset : Nat
  /-- The number of rows. -/
  length : Nat
  /-- The rows are in memory. -/
  inMemory : length < 2 ^ 63

mutual

/-- A flat vector and its logical type: for every row whether it is not NULL, and what its data or
its children hold. -/
inductive Vec where
  /-- A vector without children. -/
  | scalar (type : ScalarType) (valid : Nat → Bool) (data : Nat → type.Native)
  /-- A LIST. -/
  | list (valid : Nat → Bool) (entries : Nat → ListEntry) (child : Vec)
  /-- An ARRAY of a size. -/
  | array (valid : Nat → Bool) (size : Nat) (child : Vec)
  /-- A STRUCT. -/
  | struct (valid : Nat → Bool) (children : Children)
  /-- A MAP: a list of keys and values. -/
  | map (valid : Nat → Bool) (entries : Nat → ListEntry) (key value : Vec)
  /-- A UNION: a tag for every row. -/
  | union (valid : Nat → Bool) (tags : Nat → UInt8) (members : Children)

/-- The children of a STRUCT or a UNION in order, with their names. -/
inductive Children where
  /-- No child. -/
  | nil
  /-- A child; `duckdb_struct_type_child_name` may give no name. -/
  | cons (name : Option Bytes) (child : Vec) (rest : Children)

end

/-- The rows of a vector that are not NULL. -/
def Vec.valid : Vec → Nat → Bool
  | .scalar _ valid _ => valid
  | .list valid _ _ => valid
  | .array valid _ _ => valid
  | .struct valid _ => valid
  | .map valid _ _ _ => valid
  | .union valid _ _ => valid

/-! ## The decoder -/

/-- `DUCKDB_MAX_NESTING_DEPTH`: how deep a value is decoded before it is refused. -/
def maxNestingDepth : Nat := 512

/-- The PHP array with some entries, in their order. -/
def arrayOf : List (Key × Zval) → Elements
  | [] => .nil
  | (key, value) :: rest => .cons key value (arrayOf rest)

/-- A PHP array as a value. -/
def arrayZval (array : PhpArray Zval) : Zval := .array (arrayOf array.entries)

/-- The cases of `duckdb_decode_value` for a cell that is not NULL. -/
def decodeScalar : (type : ScalarType) → type.Native → Except String Zval
  | .tinyint, value => .ok (.long (Int64.ofInt value.toInt))
  | .smallint, value => .ok (.long (Int64.ofInt value.toInt))
  | .integer, value => .ok (.long (Int64.ofInt value.toInt))
  | .bigint, value => .ok (.long value)
  | .utinyint, value => .ok (.long (Int64.ofInt value.toNat))
  | .usmallint, value => .ok (.long (Int64.ofInt value.toNat))
  | .uinteger, value => .ok (.long (Int64.ofInt value.toNat))
  | .ubigint, value => .ok (decodeUbigint value)
  | .varchar, text => .ok (.string text)
  | .enum, none => .ok .null
  | .enum, some label => .ok (.string (cString label))
  | .other, decoded => decoded

/-- The check of `duckdb_decode_child` that a value is not nested too deeply. -/
def nested (depth : Nat) (decoded : Except String Zval) : Except String Zval :=
  if maxNestingDepth ≤ depth then
    .error "Value is nested deeper than 512 levels and cannot be decoded"
  else decoded

/-- The loop of `duckdb_decode_list` and `duckdb_decode_array`: rows of the child from one on. -/
def decodeItems (item : Nat → Except String Zval) :
    Nat → Nat → PhpArray Zval → Except String (PhpArray Zval)
  | _, 0, array => .ok array
  | row, left + 1, array => do
    let elem ← item row
    decodeItems item (row + 1) left (array.addNextIndex elem)

/-- The keys of a MAP have a type for which `scalar_keys` is set. -/
def Vec.scalarKeys : Vec → Bool
  | .scalar type _ _ => type ≠ .other
  | _ => false

/-- The insertion of a pair under its key. -/
def storePair (array : PhpArray Zval) (key value : Zval) : PhpArray Zval :=
  match key with
  | .long number => array.addIndex number value
  | .string text => array.addAssoc (cString text) value
  | _ => array.addAssoc [] value

/-- The pair of a key and a value. -/
def keyValuePair (version : PhpVersion) (key value : Zval) : Zval :=
  arrayZval (((PhpArray.empty version).addAssoc (lit "key") key).addAssoc (lit "value") value)

/-- The loop of `duckdb_decode_map` over the entries of a MAP. -/
def decodePairs (version : PhpVersion) (scalarKeys : Bool) (key value : Nat → Except String Zval) :
    Nat → Nat → PhpArray Zval → Except String (PhpArray Zval)
  | _, 0, array => .ok array
  | row, left + 1, array => do
    let keyZv ← key row
    let valueZv ← value row
    decodePairs version scalarKeys key value (row + 1) left
      (if scalarKeys then storePair array keyZv valueZv
        else array.addNextIndex (keyValuePair version keyZv valueZv))

mutual

/-- `duckdb_decode_value`, for a row of a vector at a depth. -/
def decode (version : PhpVersion) : Nat → Vec → Nat → Except String Zval
  | _, .scalar type valid data, row =>
    if valid row then decodeScalar type (data row) else .ok .null
  | depth, .list valid entries child, row =>
    if valid row then
      (decodeItems (fun row => nested depth (decode version (depth + 1) child row))
        (entries row).offset (entries row).length (.empty version)).map arrayZval
    else .ok .null
  | depth, .array valid size child, row =>
    if valid row then
      (decodeItems (fun row => nested depth (decode version (depth + 1) child row))
        (row * size) size (.empty version)).map arrayZval
    else .ok .null
  | depth, .struct valid children, row =>
    if valid row then (decodeStruct version depth row children (.empty version)).map arrayZval
    else .ok .null
  | depth, .map valid entries key value, row =>
    if valid row then
      (decodePairs version key.scalarKeys
        (fun row => nested depth (decode version (depth + 1) key row))
        (fun row => nested depth (decode version (depth + 1) value row))
        (entries row).offset (entries row).length (.empty version)).map arrayZval
    else .ok .null
  | depth, .union valid tags members, row =>
    if valid row then decodeMember version depth row (tags row).toNat members else .ok .null

/-- The loop of `duckdb_decode_struct` over the fields of a STRUCT. -/
def decodeStruct (version : PhpVersion) (depth row : Nat) :
    Children → PhpArray Zval → Except String (PhpArray Zval)
  | .nil, array => .ok array
  | .cons name child rest, array => do
    let elem ← nested depth (decode version (depth + 1) child row)
    decodeStruct version depth row rest (array.addAssoc (cString (name.getD (lit "?"))) elem)

/-- `duckdb_decode_union` with the tag of the row: NULL when there is no such member. -/
def decodeMember (version : PhpVersion) (depth row : Nat) : Nat → Children → Except String Zval
  | _, .nil => .ok .null
  | 0, .cons _ child _ => nested depth (decode version (depth + 1) child row)
  | tag + 1, .cons _ _ rest => decodeMember version depth row tag rest

end

/-! ## What a decoder has made -/

/-- What is made into a value has been decoded. -/
theorem map_ok {array : Except String (PhpArray Zval)} {decoded : Zval}
    (ok : array.map arrayZval = .ok decoded) : ∃ made, array = .ok made ∧ decoded = arrayZval made := by
  cases array with
  | error message => cases ok
  | ok made => exact ⟨made, rfl, (Except.ok.inj ok).symm⟩

/-- A child below the last level is what it decodes to. -/
theorem nested_ok {depth : Nat} {decoded : Except String Zval} {value : Zval}
    (ok : nested depth decoded = .ok value) : decoded = .ok value := by
  unfold nested at ok
  split at ok
  · cases ok
  · exact ok

/-- The elements of a list that decodes go into the array in order. -/
theorem decodeItems_ok {item : Nat → Except String Zval} {first count : Nat}
    {array decoded : PhpArray Zval} (ok : decodeItems item first count array = .ok decoded) :
    ∃ values : List Zval, (List.range' first count).map item = values.map Except.ok ∧
      decoded = values.foldl PhpArray.addNextIndex array := by
  induction count generalizing first array with
  | zero =>
    obtain rfl := Except.ok.inj ok
    exact ⟨[], rfl, rfl⟩
  | succ count ih =>
    rw [decodeItems] at ok
    cases head : item first with
    | error message =>
      rw [head] at ok
      cases ok
    | ok elem =>
      rw [head] at ok
      obtain ⟨values, others, shape⟩ := ih ok
      refine ⟨elem :: values, ?_, shape⟩
      rw [List.range'_succ, List.map_cons, List.map_cons, head, others]

/-- How a decoded pair gets into the array of a MAP. -/
def insertPair (version : PhpVersion) (scalarKeys : Bool) (array : PhpArray Zval)
    (pair : Zval × Zval) : PhpArray Zval :=
  if scalarKeys then storePair array pair.1 pair.2
  else array.addNextIndex (keyValuePair version pair.1 pair.2)

/-- The pairs of a map that decodes go into the array in order. -/
theorem decodePairs_ok {version : PhpVersion} {scalarKeys : Bool}
    {key value : Nat → Except String Zval} {first count : Nat} {array decoded : PhpArray Zval}
    (ok : decodePairs version scalarKeys key value first count array = .ok decoded) :
    ∃ pairs : List (Zval × Zval),
      (List.range' first count).map key = pairs.map (fun pair => .ok pair.1) ∧
        (List.range' first count).map value = pairs.map (fun pair => .ok pair.2) ∧
        decoded = pairs.foldl (insertPair version scalarKeys) array := by
  induction count generalizing first array with
  | zero =>
    obtain rfl := Except.ok.inj ok
    exact ⟨[], rfl, rfl, rfl⟩
  | succ count ih =>
    rw [decodePairs] at ok
    cases head : key first with
    | error message =>
      rw [head] at ok
      cases ok
    | ok keyZv =>
      cases next : value first with
      | error message =>
        rw [head, next] at ok
        cases ok
      | ok valueZv =>
        rw [head, next] at ok
        obtain ⟨pairs, keys, values, shape⟩ := ih ok
        refine ⟨(keyZv, valueZv) :: pairs, ?_, ?_, shape⟩
        · rw [List.range'_succ, List.map_cons, List.map_cons, head, keys]
        · rw [List.range'_succ, List.map_cons, List.map_cons, next, values]

/-- The children of a STRUCT with their names, in order. -/
def Children.toList : Children → List (Option Bytes × Vec)
  | .nil => []
  | .cons name child rest => (name, child) :: rest.toList

/-- The name that a field is stored under. -/
def fieldKey (name : Option Bytes) : Bytes := cString (name.getD (lit "?"))

/-- The names that the fields are stored under. -/
def Children.names (children : Children) : List Bytes :=
  children.toList.map fun child => fieldKey child.1

/-- The children decode to the values, in order. -/
def DecodesTo (version : PhpVersion) (depth row : Nat) (children : Children) (values : List Zval) :
    Prop :=
  children.toList.map (fun child => nested depth (decode version (depth + 1) child.2 row)) =
    values.map Except.ok

/-- The fields of a STRUCT that decodes go into the array in order. -/
theorem decodeStruct_ok {version : PhpVersion} {depth row : Nat} (children : Children)
    {array decoded : PhpArray Zval}
    (ok : decodeStruct version depth row children array = .ok decoded) :
    ∃ values, DecodesTo version depth row children values ∧
      decoded = array.addAll (children.names.zip values) := by
  match children with
  | .nil =>
    rw [decodeStruct] at ok
    obtain rfl := Except.ok.inj ok
    exact ⟨[], rfl, rfl⟩
  | .cons name child rest =>
    rw [decodeStruct] at ok
    cases head : nested depth (decode version (depth + 1) child row) with
    | error message =>
      rw [head] at ok
      cases ok
    | ok elem =>
      rw [head] at ok
      obtain ⟨values, others, shape⟩ := decodeStruct_ok rest ok
      refine ⟨elem :: values, ?_, shape⟩
      unfold DecodesTo at others ⊢
      rw [Children.toList, List.map_cons, List.map_cons, head, others]

/-- The member of a UNION that decodes decodes. -/
theorem decodeMember_ok {version : PhpVersion} {depth row tag : Nat} (members : Children)
    {decoded : Zval} (ok : decodeMember version depth row tag members = .ok decoded)
    {member : Option Bytes × Vec} (tagged : members.toList[tag]? = some member) :
    nested depth (decode version (depth + 1) member.2 row) = .ok decoded := by
  match members, tag with
  | .nil, _ => cases tagged
  | .cons name child rest, 0 =>
    obtain rfl := Option.some.inj tagged
    rw [decodeMember] at ok
    exact ok
  | .cons name child rest, tag + 1 =>
    rw [decodeMember] at ok
    exact decodeMember_ok rest ok tagged

/-- The keys and values of an array, in order. -/
def entriesOf : Elements → List (Key × Zval)
  | .nil => []
  | .cons key value rest => (key, value) :: entriesOf rest

/-- An array that is made of entries has these entries. -/
@[simp]
theorem entriesOf_arrayOf (entries : List (Key × Zval)) : entriesOf (arrayOf entries) = entries := by
  induction entries with
  | nil => rfl
  | cons entry rest ih => exact congrArg (entry :: ·) ih

end PhpDuckdb.Decode
