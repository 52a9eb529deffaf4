import Mathlib.Algebra.Ring.Int.Defs
import Mathlib.Data.List.Basic
import PhpDuckdb.Types.Grammar

/-!
# PHP values

The PHP values that reach the extension as inputs: scalars, arrays with their keys in order, the
objects it knows and PHP references. A `DuckDB\Value` carries a canonical declaration, since its
constructor canonicalizes the one it is given, and the snapshot of its input.
-/

namespace PhpDuckdb.Value

open SqlText

/-- A text that `duckdb_canonicalize_type` gave for some declaration. -/
structure CanonicalType where
  /-- The text. -/
  text : Bytes
  /-- `duckdb_value_initialize` stores nothing else. -/
  canonical : ∃ declaration, Types.duckdbCanonicalizeType declaration = .ok text

/-- A key of a PHP array. -/
inductive Key
  | index (number : Int64)
  | name (text : Bytes)
  deriving DecidableEq, Repr

mutual

/-- A PHP value, with what the converter asks of objects. -/
inductive Zval
  | null
  | bool (value : Bool)
  | long (value : Int64)
  /-- The bits of a double. -/
  | double (bits : UInt64)
  | string (text : Bytes)
  | array (elements : Elements)
  /-- A `DuckDB\Value`, without a type before its constructor ran. -/
  | value (type : Option CanonicalType) (input : Zval)
  /-- A `DuckDB\Interval`. -/
  | interval (months days : Int32) (micros : Int64)
  /-- A DateTimeInterface: epoch seconds and microseconds, or nothing before its constructor
  ran. -/
  | dateTime (time : Option (Int64 × Int64))
  /-- Any other object, by its class. -/
  | object (className : Bytes)
  | resource
  /-- A PHP reference. -/
  | reference (target : Zval)

/-- The elements of a PHP array, in order. -/
inductive Elements
  | nil
  | cons (key : Key) (value : Zval) (rest : Elements)

end

/-- `ZVAL_DEREF`: what a reference refers to, as PHP never nests references. -/
def Zval.deref : Zval → Zval
  | .reference target => target
  | other => other

/-- `zend_hash_num_elements`: the number of elements of an array. -/
def Elements.count : Elements → Nat
  | .nil => 0
  | .cons _ _ rest => rest.count + 1

/-- The keys are the numbers from `next` on. -/
def Elements.isListFrom : Int64 → Elements → Bool
  | _, .nil => true
  | next, .cons key _ rest => key = .index next && rest.isListFrom (next + 1)

/-- `zend_array_is_list`: the keys are the integers from zero on, in order. -/
def Elements.isList (elements : Elements) : Bool := elements.isListFrom 0

/-- `zend_hash_find`: the value under a key. -/
def Elements.find (wanted : Key) : Elements → Option Zval
  | .nil => none
  | .cons key value rest => if key = wanted then some value else rest.find wanted

/-- The keys and values in order. -/
def Elements.toList : Elements → List (Key × Zval)
  | .nil => []
  | .cons key value rest => (key, value) :: rest.toList

/-- The decimal text of a number. -/
def decimal (number : Nat) : Bytes := (Nat.toDigits 10 number).map fun char => UInt8.ofNat char.toNat

/-- The decimal text of a signed number, as `zend_long_to_str` writes it. -/
def signedDecimal (number : Int) : Bytes :=
  if number < 0 then 45 :: decimal number.natAbs else decimal number.natAbs

/-- The bits of a number that is not negative are the number. -/
theorem toUInt64_toNat {number : Int64} (positive : 0 ≤ number.toInt) :
    number.toUInt64.toNat = number.toInt.natAbs := by
  have signed : number.toInt = number.toUInt64.toBitVec.toInt := rfl
  have bits : number.toUInt64.toBitVec.toNat = number.toUInt64.toNat := rfl
  rw [BitVec.toInt_eq_toNat_cond] at signed
  split at signed
  · omega
  · have below := number.toUInt64.toBitVec.isLt
    omega

/-- The canonical decimal spelling of a `zend_long` that PHP reads as an integer key. -/
def numericKey (text : Bytes) : Option Int64 :=
  let negative := text.head? = some 45
  let digits := if negative then text.tail else text
  let magnitude : Nat := digits.foldl (fun total byte => total * 10 + (byte.toNat - 48)) 0
  let number : Int := if negative then -(magnitude : Int) else magnitude
  if digits.all isDigit && digits.length ≤ 19 && signedDecimal number = text &&
      -(2 ^ 63) ≤ number && number < 2 ^ 63 then some (Int64.ofInt number)
  else none

/-- The key that `zend_symtable_str_find` looks a name up by. -/
def symKey (text : Bytes) : Key :=
  match numericKey text with
  | some number => .index number
  | none => .name text

mutual

/-- `duckdb_value_contains_typed`, over the tree of a value. -/
def Zval.containsTyped : Zval → Bool
  | .value _ _ => true
  | .array elements => elements.containsTyped
  | .reference target => target.containsTyped
  | _ => false

/-- Some element contains a typed value. -/
def Elements.containsTyped : Elements → Bool
  | .nil => false
  | .cons _ value rest => value.containsTyped || rest.containsTyped

end

/-- `zend_zval_type_name`: the name of a value's type in an error message. -/
def Zval.typeName : Zval → String
  | .null => "null"
  | .bool _ => "bool"
  | .long _ => "int"
  | .double _ => "float"
  | .string _ => "string"
  | .array _ => "array"
  | .value _ _ => "object"
  | .interval _ _ _ => "object"
  | .dateTime _ => "object"
  | .object _ => "object"
  | .resource => "resource"
  | .reference target => target.typeName

end PhpDuckdb.Value
