import PhpDuckdb.Value.Zval

/-!
# Numbers and strings as text

How a floating point number is written, from the shortest digits that `zend_dtoa` gives, and how a
byte string is quoted. The quoted string is read back by a reader of JSON string literals, which
knows nothing of the writer.
-/

namespace PhpDuckdb.Variant

open SqlText Value

/-! ## Floating point numbers -/

/-- What `zend_dtoa` gives for a finite number other than zero: at least one digit. -/
structure Shortest where
  /-- The sign. -/
  negative : Bool
  /-- The place of the decimal point after the first digit's. -/
  point : Int
  /-- The digits. -/
  digits : Bytes
  /-- There is a digit. -/
  some : digits ≠ []

/-- The bits of a double without its sign. -/
def magnitudeBits (bits : UInt64) : UInt64 := bits &&& 0x7fffffffffffffff

/-- `std::isnan`: the magnitude is above that of infinity. -/
def isNan (bits : UInt64) : Bool := 0x7ff0000000000000 < magnitudeBits bits

/-- `std::isinf`: the magnitude is that of infinity. -/
def isInf (bits : UInt64) : Bool := magnitudeBits bits = 0x7ff0000000000000

/-- `std::signbit`: the highest bit is set, also that of a zero. -/
def signBit (bits : UInt64) : Bool := bits >>> 63 = 1

/-- The digits of a number with its point and without an exponent. -/
def fixedNotation (digits : Bytes) (exponent : Int) (geometry : Bool) : Bytes :=
  let point := exponent + 1
  if point ≤ 0 then lit "0." ++ List.replicate (-point).toNat 48 ++ digits
  else if digits.length ≤ point.toNat then
    digits ++ List.replicate (point.toNat - digits.length) 48 ++
      if geometry then [] else lit ".0"
  else digits.take point.toNat ++ lit "." ++ digits.drop point.toNat

/-- The digits of a number with an exponent behind them. -/
def exponentNotation (digits : Bytes) (exponent : Int) (geometry : Bool) : Bytes :=
  digits.take 1 ++ (if 1 < digits.length then lit "." ++ digits.drop 1 else []) ++ lit "e" ++
    (if geometry ∧ 0 ≤ exponent then lit "+" else []) ++
    (if geometry ∧ exponent.natAbs < 10 then lit (if exponent < 0 then "-0" else "0")
      else if exponent < 0 then lit "-" else []) ++
    decimal exponent.natAbs

/-- `real`: the text of a double, in a geometry or in a JSON text. -/
def real (dtoa : UInt64 → Shortest) (bits : UInt64) (geometry : Bool) : Bytes :=
  if isNan bits then lit (if geometry then "nan" else "NaN")
  else if isInf bits then
    if geometry then lit (if signBit bits then "-inf" else "inf")
    else lit (if signBit bits then "-Infinity" else "Infinity")
  else if magnitudeBits bits = 0 then
    if signBit bits then lit (if geometry then "-0" else "-0.0")
    else lit (if geometry then "0" else "0.0")
  else
    let exponent := (dtoa bits).point - 1
    (if (dtoa bits).negative then lit "-" else []) ++
      if (if geometry then -4 else -6) ≤ exponent ∧ exponent < (if geometry then 16 else 21) then
        fixedNotation (dtoa bits).digits exponent geometry
      else exponentNotation (dtoa bits).digits exponent geometry

/-! ## Quoted strings -/

/-- The digit that `hex` has at a place. -/
def hexDigit (value : UInt8) : UInt8 := if value < 10 then 48 + value else 87 + value

/-- The case of `quote` for a byte: a backslash and a character, `\u00` and two digits, or the byte. -/
def quoteByte (byte : UInt8) : Bytes :=
  if byte = 34 then [92, 34]
  else if byte = 92 then [92, 92]
  else if byte = 8 then [92, 98]
  else if byte = 12 then [92, 102]
  else if byte = 10 then [92, 110]
  else if byte = 13 then [92, 114]
  else if byte = 9 then [92, 116]
  else if byte < 32 then [92, 117, 48, 48, hexDigit (byte >>> 4), hexDigit (byte &&& 15)]
  else [byte]

/-- `quote`: a text as a JSON string, with its quotes and escapes. -/
def quote (bytes : Bytes) : Bytes := 34 :: (bytes.flatMap quoteByte ++ [34])

/-! ## JSON string literals -/

/-- The value of a hexadecimal digit. -/
def hexValue (digit : UInt8) : Option Nat :=
  if 48 ≤ digit ∧ digit ≤ 57 then some (digit.toNat - 48)
  else if 65 ≤ digit ∧ digit ≤ 70 then some (digit.toNat - 55)
  else if 97 ≤ digit ∧ digit ≤ 102 then some (digit.toNat - 87)
  else none

/-- The byte of an escape of two characters. -/
def escapedByte (letter : UInt8) : Option UInt8 :=
  if letter = 34 ∨ letter = 92 ∨ letter = 47 then some letter
  else if letter = 98 then some 8
  else if letter = 102 then some 12
  else if letter = 110 then some 10
  else if letter = 114 then some 13
  else if letter = 116 then some 9
  else none

/-- The UTF-8 bytes of a code point of the basic plane; the halves of a pair have none. -/
def codePoint (code : Nat) : Option Bytes :=
  if code < 0x80 then some [UInt8.ofNat code]
  else if code < 0x800 then some [UInt8.ofNat (0xc0 + code / 64), UInt8.ofNat (0x80 + code % 64)]
  else if 0xd800 ≤ code ∧ code < 0xe000 then none
  else some [UInt8.ofNat (0xe0 + code / 4096), UInt8.ofNat (0x80 + code / 64 % 64),
    UInt8.ofNat (0x80 + code % 64)]

/-- Where a reader is inside a literal. -/
inductive Place where
  /-- Before a character. -/
  | plain
  /-- After a backslash. -/
  | escape
  /-- Before a hexadecimal digit, with the digits after it and the code so far. -/
  | unicode (left code : Nat)

/-- What the characters of a JSON string literal stand for, up to its closing quote at the end. -/
def jsonCharacters : Place → Bytes → Option Bytes
  | _, [] => none
  | .plain, byte :: rest =>
    if byte = 34 then if rest = [] then some [] else none
    else if byte = 92 then jsonCharacters .escape rest
    else if byte < 32 then none
    else (jsonCharacters .plain rest).map (byte :: ·)
  | .escape, letter :: rest =>
    if letter = 117 then jsonCharacters (.unicode 3 0) rest
    else
      match escapedByte letter with
      | some byte => (jsonCharacters .plain rest).map (byte :: ·)
      | none => none
  | .unicode left code, digit :: rest =>
    match hexValue digit with
    | none => none
    | some value =>
      match left with
      | left + 1 => jsonCharacters (.unicode left (code * 16 + value)) rest
      | 0 =>
        match codePoint (code * 16 + value) with
        | some bytes => (jsonCharacters .plain rest).map (bytes ++ ·)
        | none => none

/-- What a JSON string literal stands for. -/
def jsonString : Bytes → Option Bytes
  | [] => none
  | byte :: rest => if byte = 34 then jsonCharacters .plain rest else none

/-- The digits of a control byte stand for it. -/
theorem hexDigit_control (byte : UInt8) : byte < 32 →
    ∃ high low, hexValue (hexDigit (byte >>> 4)) = some high ∧
      hexValue (hexDigit (byte &&& 15)) = some low ∧ high * 16 + low = byte.toNat := by
  intro control
  have small : (byte >>> 4).toNat = byte.toNat / 16 := by
    rw [UInt8.toNat_shiftRight]
    exact Nat.shiftRight_eq_div_pow byte.toNat 4
  have rest : (byte &&& 15).toNat = byte.toNat % 16 := by
    rw [UInt8.toNat_and]
    exact Nat.and_two_pow_sub_one_eq_mod byte.toNat 4
  have digit : ∀ value : UInt8, value < 16 → hexValue (hexDigit value) = some value.toNat := by
    apply forall_byte
    decide +kernel
  have below : byte.toNat < 32 := UInt8.lt_iff_toNat_lt.mp control
  refine ⟨byte.toNat / 16, byte.toNat % 16, ?_, ?_, by omega⟩
  · rw [digit _ (UInt8.lt_iff_toNat_lt.mpr (by rw [small]; show _ < 16; omega)), small]
  · rw [digit _ (UInt8.lt_iff_toNat_lt.mpr (by rw [rest]; show _ < 16; omega)), rest]

/-- What `quote` writes for a byte is read back as it. -/
theorem jsonCharacters_quoteByte (byte : UInt8) (rest : Bytes) :
    jsonCharacters .plain (quoteByte byte ++ rest) =
      (jsonCharacters .plain rest).map (byte :: ·) := by
  unfold quoteByte
  by_cases named : byte = 34 ∨ byte = 92 ∨ byte = 8 ∨ byte = 12 ∨ byte = 10 ∨ byte = 13 ∨ byte = 9
  · rcases named with rfl | rfl | rfl | rfl | rfl | rfl | rfl <;> rfl
  · simp only [not_or] at named
    obtain ⟨quoted, slash, back, feed, line, carriage, tab⟩ := named
    rw [if_neg quoted, if_neg slash, if_neg back, if_neg feed, if_neg line, if_neg carriage,
      if_neg tab]
    by_cases control : byte < 32
    · obtain ⟨high, low, first, second, whole⟩ := hexDigit_control byte control
      have small : byte.toNat < 128 := Nat.lt_trans (UInt8.lt_iff_toNat_lt.mp control) (by decide)
      have stands : codePoint ((0 * 16 + high) * 16 + low) = some [byte] := by
        rw [Nat.zero_mul, Nat.zero_add, whole, codePoint, if_pos small, UInt8.ofNat_toNat]
      rw [if_pos control]
      show jsonCharacters (.unicode 1 0)
        (hexDigit (byte >>> 4) :: hexDigit (byte &&& 15) :: rest) = _
      simp only [jsonCharacters, first, second, stands]
      rfl
    · rw [if_neg control]
      show jsonCharacters .plain (byte :: rest) = _
      rw [jsonCharacters, if_neg quoted, if_neg slash, if_neg control]

/-- A quoted string is a JSON string literal of exactly its bytes. -/
theorem jsonString_quote (bytes : Bytes) : jsonString (quote bytes) = some bytes := by
  show jsonCharacters .plain (bytes.flatMap quoteByte ++ [34]) = _
  induction bytes with
  | nil => rfl
  | cons byte rest ih =>
    rw [List.flatMap_cons, List.append_assoc, jsonCharacters_quoteByte, ih]
    rfl

end PhpDuckdb.Variant
