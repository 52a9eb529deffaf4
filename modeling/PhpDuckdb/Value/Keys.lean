import PhpDuckdb.Value.Builder
import PhpDuckdb.Value.Numbering

/-!
# Array keys and field names

A PHP array never has a text that spells an integer as a key, so the field name of a key tells it:
looking the name up as PHP does finds the key again.
-/

namespace PhpDuckdb.Value

open SqlText

/-- The keys of an array in the order of its elements. -/
def Elements.keys : Elements → List Key
  | .nil => []
  | .cons key _ rest => key :: rest.keys

/-- The keys of a PHP array: they are different, and a text that spells an integer is that
integer. -/
structure PhpKeys (keys : List Key) : Prop where
  /-- They are different. -/
  distinct : keys.Nodup
  /-- Texts spell no integers. -/
  spelled : ∀ text, .name text ∈ keys → numericKey text = none

/-- The bytes of a number are its digits. -/
theorem decimal_value (number : Nat) :
    (decimal number).foldl (fun total byte => total * 10 + (byte.toNat - 48)) 0 = number := by
  have folded : ∀ (chars : List Char) (start : Nat), (∀ char ∈ chars, char.isDigit = true) →
      (chars.map fun char => UInt8.ofNat char.toNat).foldl
        (fun total byte => total * 10 + (byte.toNat - 48)) start =
          Nat.ofDigitChars 10 chars start := by
    intro chars
    induction chars with
    | nil => exact fun _ _ => rfl
    | cons char rest ih =>
      intro start digits
      have small := (digit_code (digits char List.mem_cons_self)).2.2
      rw [List.map_cons, List.foldl_cons, Nat.ofDigitChars_cons,
        ih _ fun other inside => digits other (List.mem_cons_of_mem _ inside), small,
        Nat.mul_comm]
      rfl
  rw [decimal, folded _ 0 fun char inside => Nat.isDigit_of_mem_toDigits (by decide) (by decide) inside,
    Nat.ofDigitChars_ten_toDigits]

/-- A number has as many digits as its size allows. -/
theorem decimal_length {number : Nat} (small : number < 10 ^ 19) : (decimal number).length ≤ 19 := by
  rw [decimal, List.length_map]
  exact (Nat.length_toDigits_le_iff (by decide) (by decide)).mpr small

/-- The digits of a number do not begin with a sign. -/
theorem decimal_head (number : Nat) : (decimal number).head? ≠ some 45 := by
  intro sign
  have inside : (45 : UInt8) ∈ decimal number := List.mem_of_mem_head? sign
  have digit := (decimal_digits number).2 45 inside
  cases digit

/-- The decimal spelling of an integer is read back as it. -/
theorem numericKey_signedDecimal (number : Int64) :
    numericKey (signedDecimal number.toInt) = some number := by
  have low := number.le_toInt
  have high := number.toInt_lt
  have digits := List.all_eq_true.mpr (decimal_digits number.toInt.natAbs).2
  have short : (decimal number.toInt.natAbs).length ≤ 19 := decimal_length (by omega)
  have back : Int64.ofInt number.toInt = number := Int64.ofInt_toInt number
  unfold numericKey
  by_cases negative : number.toInt < 0
  · have text : signedDecimal number.toInt = 45 :: decimal number.toInt.natAbs := if_pos negative
    have magnitude : -(number.toInt.natAbs : Int) = number.toInt := by omega
    simp only [text, List.head?_cons, decide_true, if_true, List.tail_cons, decimal_value,
      magnitude, digits, short, back]
    simp [show (-9223372036854775808 : Int) ≤ number.toInt by omega,
      show number.toInt < 9223372036854775808 by omega]
  · have text : signedDecimal number.toInt = decimal number.toInt.natAbs := if_neg negative
    have magnitude : (number.toInt.natAbs : Int) = number.toInt := by omega
    have unsigned := decimal_head number.toInt.natAbs
    simp only [text, unsigned, if_false, decimal_value, magnitude, digits, short, back]
    simp [show (-9223372036854775808 : Int) ≤ number.toInt by omega,
      show number.toInt < 9223372036854775808 by omega]

/-- Looking the field name of a key up finds the key. -/
theorem symKey_fieldName {keys : List Key} (php : PhpKeys keys) {key : Key} (inside : key ∈ keys) :
    symKey key.fieldName = key := by
  cases key with
  | index number => rw [Key.fieldName, symKey, numericKey_signedDecimal]
  | name text => rw [Key.fieldName, symKey, php.spelled text inside]

/-- Different keys have different field names. -/
theorem fieldNames_distinct {keys : List Key} (php : PhpKeys keys) :
    (keys.map Key.fieldName).Nodup := by
  refine List.Nodup.map_on (fun first one second two same => ?_) php.distinct
  rw [← symKey_fieldName php one, ← symKey_fieldName php two, same]

end PhpDuckdb.Value
