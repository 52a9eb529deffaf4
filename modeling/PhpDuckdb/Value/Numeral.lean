import Mathlib.Data.Rat.Cast.Order
import PhpDuckdb.Lib.Numerals
import PhpDuckdb.Value.Keys

/-!
# Reading numerals

A reader of decimal numerals that knows nothing of the code that writes them, and what it reads from
the numerals of integers.
-/

namespace PhpDuckdb.Value

open Numerals SqlText

/-- A text as a reader of numbers takes it apart. -/
structure Numeral where
  /-- There is a sign. -/
  negative : Bool
  /-- The digits before the point. -/
  whole : Bytes
  /-- The digits after it. -/
  fraction : Bytes
  deriving DecidableEq

/-- The number that some decimal digits spell. -/
def spelled (digits : Bytes) : Nat :=
  digits.foldl (fun total byte => total * 10 + (byte.toNat - 48)) 0

/-- Read a number: a sign, at least one digit, and digits after a point if there is one. -/
def readNumeral (text : Bytes) : Option Numeral :=
  let negative := text.head? = some 45
  let body := if negative then text.tail else text
  let whole := body.takeWhile isDigit
  if whole = [] then none
  else match body.dropWhile isDigit with
    | [] => some ⟨negative, whole, []⟩
    | point :: fraction =>
      if point = 46 ∧ fraction ≠ [] ∧ fraction.all isDigit = true then
        some ⟨negative, whole, fraction⟩
      else none

/-- The rational number that a numeral denotes. -/
def Numeral.value (numeral : Numeral) : ℚ :=
  (if numeral.negative then -1 else 1) * (spelled (numeral.whole ++ numeral.fraction) : ℚ) /
    10 ^ numeral.fraction.length

/-- Digits spell the number that their prefix and they make. -/
theorem spelled_append (first second : Bytes) :
    spelled (first ++ second) = spelled first * 10 ^ second.length + spelled second := by
  unfold spelled
  exact foldl_append 10 (fun byte : UInt8 => byte.toNat - 48) first second

/-- Zeros in front of digits spell nothing. -/
theorem spelled_zeros (count : Nat) (digits : Bytes) :
    spelled (List.replicate count 48 ++ digits) = spelled digits := by
  have zeros : ∀ count, spelled (List.replicate count 48) = 0 := by
    intro count
    induction count with
    | zero => rfl
    | succ count ih =>
      rw [List.replicate_succ', spelled_append, ih, Nat.zero_mul]
      rfl
  rw [spelled_append, zeros, Nat.zero_mul, Nat.zero_add]

/-- The digits of a number spell it. -/
theorem spelled_decimal (number : Nat) : spelled (decimal number) = number := decimal_value number

/-- What a sign in front of a text is. -/
def signed (negative : Bool) (text : Bytes) : Bytes := if negative then 45 :: text else text

/-- Digits after a sign, with a point and more digits or none, are read as such. -/
theorem readNumeral_signed (negative : Bool) {whole : Bytes} (some_ : whole ≠ [])
    (digits : ∀ byte ∈ whole, isDigit byte = true) {rest fraction : Bytes}
    (pointed : (rest = [] ∧ fraction = []) ∨
      (rest = 46 :: fraction ∧ fraction ≠ [] ∧ ∀ byte ∈ fraction, isDigit byte = true)) :
    readNumeral (signed negative (whole ++ rest)) = some ⟨negative, whole, fraction⟩ := by
  have stops : ∀ byte, rest.head? = some byte → isDigit byte = false := by
    intro byte first
    cases pointed with
    | inl none_ =>
      rw [none_.1] at first
      cases first
    | inr more =>
      rw [more.1] at first
      obtain rfl := Option.some.inj first
      decide
  have taken : (whole ++ rest).takeWhile isDigit = whole := by
    rw [List.takeWhile_append_of_pos digits]
    cases rest with
    | nil => exact List.append_nil _
    | cons byte others => rw [List.takeWhile_cons, stops byte rfl]; exact List.append_nil _
  have left : (whole ++ rest).dropWhile isDigit = rest := by
    rw [List.dropWhile_append_of_pos digits]
    cases rest with
    | nil => rfl
    | cons byte others => rw [List.dropWhile_cons, stops byte rfl]; rfl
  have unsigned : (whole ++ rest).head? ≠ some 45 := by
    cases whole with
    | nil => exact absurd rfl some_
    | cons byte others =>
      intro first
      have sign : byte = 45 := Option.some.inj first
      have digit := digits byte List.mem_cons_self
      rw [sign] at digit
      exact absurd digit (by decide)
  have body : (if (signed negative (whole ++ rest)).head? = some 45 then
        (signed negative (whole ++ rest)).tail else signed negative (whole ++ rest)) =
      whole ++ rest := by
    cases negative with
    | true => rfl
    | false => exact if_neg unsigned
  have sign : decide ((signed negative (whole ++ rest)).head? = some 45) = negative := by
    cases negative with
    | true => rfl
    | false => exact decide_eq_false unsigned
  unfold readNumeral
  simp only [sign] at body ⊢
  rw [body, taken, left, if_neg some_]
  cases pointed with
  | inl none_ => rw [none_.1, none_.2]
  | inr more =>
    rw [more.1]
    exact if_pos ⟨rfl, more.2.1, List.all_eq_true.mpr more.2.2⟩

/-- The value of a numeral whose digits spell the magnitude of a number. -/
theorem Numeral.value_signed (number : Int) {numeral : Numeral}
    (digits : spelled (numeral.whole ++ numeral.fraction) = number.natAbs)
    (sign : numeral.negative = true ↔ number < 0) :
    numeral.value = (number : ℚ) / 10 ^ numeral.fraction.length := by
  unfold Numeral.value
  rw [digits]
  cases negative : numeral.negative with
  | true =>
    have minus := sign.mp negative
    have magnitude : (number.natAbs : Int) = -number := by omega
    have cast_ : ((number.natAbs : Nat) : ℚ) = -(number : ℚ) := by
      rw [← Int.cast_natCast, magnitude, Int.cast_neg]
    rw [cast_, if_pos rfl, neg_mul_neg, one_mul]
  | false =>
    have plus : ¬number < 0 := fun minus => by
      rw [sign.mpr minus] at negative
      cases negative
    have magnitude : (number.natAbs : Int) = number := by omega
    have cast_ : ((number.natAbs : Nat) : ℚ) = (number : ℚ) := by
      rw [← Int.cast_natCast, magnitude]
    rw [cast_, if_neg Bool.false_ne_true, one_mul]

/-- A signed numeral is a sign and a numeral. -/
theorem signedDecimal_signed (number : Int) :
    signedDecimal number = signed (decide (number < 0)) (decimal number.natAbs ++ []) := by
  rw [signedDecimal, signed, List.append_nil]
  by_cases negative : number < 0
  · rw [if_pos negative, if_pos (decide_eq_true negative)]
  · rw [if_neg negative, if_neg]
    exact fun minus => negative (of_decide_eq_true minus)

/-- A signed numeral is read back as the integer. -/
theorem readNumeral_signedDecimal (number : Int) :
    (readNumeral (signedDecimal number)).map Numeral.value = some (number : ℚ) := by
  have digits := decimal_digits number.natAbs
  rw [signedDecimal_signed, readNumeral_signed _ digits.1 digits.2 (Or.inl ⟨rfl, rfl⟩), Option.map_some,
    Numeral.value_signed number]
  · rw [List.length_nil, pow_zero, div_one]
  · rw [List.append_nil, spelled_decimal]
  · exact decide_eq_true_iff

/-- Read an integer: a numeral without a fraction. -/
def readInteger (text : Bytes) : Option Int :=
  (readNumeral text).bind fun numeral =>
    if numeral.fraction = [] then
      some (if numeral.negative then -(spelled numeral.whole : Int) else spelled numeral.whole)
    else none

/-- A signed numeral is read as the integer. -/
theorem readInteger_signedDecimal (number : Int) :
    readInteger (signedDecimal number) = some number := by
  have digits := decimal_digits number.natAbs
  rw [signedDecimal_signed, readInteger,
    readNumeral_signed _ digits.1 digits.2 (Or.inl ⟨rfl, rfl⟩), Option.bind_some, if_pos rfl,
    spelled_decimal]
  by_cases negative : number < 0
  · rw [decide_eq_true negative, if_pos rfl]
    congr 1
    omega
  · rw [decide_eq_false negative, if_neg Bool.false_ne_true]
    congr 1
    omega

/-- The last digits of a number as bytes. -/
def lastBytes (width number : Nat) : Bytes :=
  (lastDigits 10 width number).map fun char => UInt8.ofNat char.toNat

/-- The last digits of a number are digit characters. -/
theorem lastBytes_digits (width number : Nat) :
    ∀ byte ∈ lastBytes width number, isDigit byte = true := by
  intro byte inside
  obtain ⟨char, within, rfl⟩ := List.mem_map.mp inside
  have digits : ∀ width number, ∀ char ∈ lastDigits 10 width number, char.isDigit = true := by
    intro width
    induction width with
    | zero => exact fun _ _ => nofun
    | succ width ih =>
      intro number char inside
      cases List.mem_append.mp inside with
      | inl above => exact ih _ char above
      | inr last =>
        rw [List.mem_singleton.mp last, Nat.isDigit_digitChar]
        exact decide_eq_true (Nat.mod_lt _ (by decide))
  exact (digit_byte (digits width number char within)).1

/-- The last digits spell the number below the power. -/
theorem spelled_lastBytes (width number : Nat) :
    spelled (lastBytes width number) = number % 10 ^ width := by
  induction width generalizing number with
  | zero =>
    rw [Nat.pow_zero, Nat.mod_one]
    rfl
  | succ width ih =>
    have small : number % 10 < 10 := Nat.mod_lt _ (by decide)
    have last : spelled [UInt8.ofNat (number % 10).digitChar.toNat] = number % 10 := by
      rw [Nat.toNat_digitChar_of_lt_ten small]
      show 0 * 10 + ((UInt8.ofNat (48 + number % 10)).toNat - 48) = _
      rw [UInt8.toNat_ofNat']
      omega
    rw [lastBytes, lastDigits, List.map_append, List.map_singleton, ← lastBytes, spelled_append,
      ih, last, List.length_singleton, Nat.pow_one, Nat.pow_succ, Nat.mul_comm (10 ^ width),
      Nat.mod_mul]
    omega

end PhpDuckdb.Value
