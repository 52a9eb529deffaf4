import PhpDuckdb.Value.Numeral

/-!
# Wide integers and decimals

How the result decoder writes integers that may not fit a PHP int. A 128-bit integer is divided by
10^9 again and again, in 32-bit limbs; a DECIMAL is the integer it is stored as, with a point.
-/

namespace PhpDuckdb.Decode

open Numerals SqlText Value

/-! ## 128-bit integers -/

/-- The number that a PHP value denotes, as an int or as a text. -/
def denoted : Zval → Option ℚ
  | .long number => some (number.toInt : ℚ)
  | .string text => (readNumeral text).map Numeral.value
  | _ => none

/-- `duckdb_hugeint`: a signed integer of 128 bits in two words. -/
structure Hugeint where
  /-- `lower`. -/
  lower : UInt64
  /-- `upper`. -/
  upper : Int64
  deriving DecidableEq

/-- `duckdb_uhugeint`: an unsigned integer of 128 bits in two words. -/
structure Uhugeint where
  /-- `lower`. -/
  lower : UInt64
  /-- `upper`. -/
  upper : UInt64
  deriving DecidableEq

/-- The integer it stores in two's complement. -/
def Hugeint.toInt (value : Hugeint) : Int := value.upper.toInt * 2 ^ 64 + value.lower.toNat

/-- The integer that the two words of a UHUGEINT store. -/
def Uhugeint.toNat (value : Uhugeint) : Nat := value.upper.toNat * 2 ^ 64 + value.lower.toNat

/-! ### Words -/

/-- The bits of a negative number are the number past the last word. -/
theorem toUInt64_negative {number : Int64} (negative : number.toInt < 0) :
    (number.toUInt64.toNat : Int) = number.toInt + 2 ^ 64 := by
  have signed : number.toInt = number.toUInt64.toBitVec.toInt := rfl
  have bits : number.toUInt64.toBitVec.toNat = number.toUInt64.toNat := rfl
  rw [BitVec.toInt_eq_toNat_cond] at signed
  split at signed
  · omega
  · omega

/-- The bits of a number that is not negative are the number. -/
theorem toUInt64_positive {number : Int64} (positive : 0 ≤ number.toInt) :
    (number.toUInt64.toNat : Int) = number.toInt := by
  rw [toUInt64_toNat positive]
  exact Int.natAbs_of_nonneg positive

/-- A 64-bit number below 2^63 is the same int. -/
theorem toInt64_small {word : UInt64} (small : word.toNat < 2 ^ 63) :
    word.toInt64.toInt = word.toNat := by
  have signed : word.toInt64.toInt = word.toBitVec.toInt := rfl
  have bits : word.toBitVec.toNat = word.toNat := rfl
  rw [BitVec.toInt_eq_toNat_cond] at signed
  split at signed
  · omega
  · omega

/-- A 64-bit number from 2^63 on is a negative int. -/
theorem toInt64_large {word : UInt64} (large : 2 ^ 63 ≤ word.toNat) :
    word.toInt64.toInt = word.toNat - 2 ^ 64 := by
  have bound := word.toNat_lt
  have signed : word.toInt64.toInt = word.toBitVec.toInt := rfl
  have bits : word.toBitVec.toNat = word.toNat := rfl
  rw [BitVec.toInt_eq_toNat_cond] at signed
  split at signed
  · omega
  · omega

/-! ### Unsigned -/

/-- One division of the limbs, the lowest first, by 10^9, and its remainder. -/
def divideLimbs : List UInt32 → List UInt32 × UInt64
  | [] => ([], 0)
  | limb :: higher =>
    let above := divideLimbs higher
    let cur := above.2 <<< 32 ||| limb.toUInt64
    ((cur / 1000000000).toUInt32 :: above.1, cur % 1000000000)

/-- The number that limbs stand for. -/
def limbsValue (limbs : List UInt32) : Nat := Nat.ofDigits (2 ^ 32) (limbs.map UInt32.toNat)

/-- The division is that of the number: no step of it overflows. -/
theorem divideLimbs_divMod (limbs : List UInt32) :
    (divideLimbs limbs).1.map UInt32.toNat =
        (divMod (2 ^ 32) (10 ^ 9) (limbs.map UInt32.toNat)).1 ∧
      (divideLimbs limbs).2.toNat = (divMod (2 ^ 32) (10 ^ 9) (limbs.map UInt32.toNat)).2 := by
  induction limbs with
  | nil => exact ⟨rfl, rfl⟩
  | cons limb higher ih =>
    have rest : (divideLimbs higher).2.toNat < 10 ^ 9 := by
      rw [ih.2]
      exact divMod_rest (by decide) _
    have cur := joined_toNat (show (divideLimbs higher).2.toNat < 2 ^ 32 by omega) limb
    have quotient : (((divideLimbs higher).2 <<< 32 ||| limb.toUInt64) / 1000000000).toUInt32.toNat =
        ((divideLimbs higher).2.toNat * 2 ^ 32 + limb.toNat) / 10 ^ 9 := by
      rw [UInt64.toNat_toUInt32, UInt64.toNat_div, cur]
      exact Nat.mod_eq_of_lt (quotient_fits rest limb.toNat_lt)
    have remainder : (((divideLimbs higher).2 <<< 32 ||| limb.toUInt64) % 1000000000).toNat =
        ((divideLimbs higher).2.toNat * 2 ^ 32 + limb.toNat) % 10 ^ 9 := by
      rw [UInt64.toNat_mod, cur]
      rfl
    rw [ih.2] at quotient remainder
    apply And.intro
    · show _ :: _ = _ :: _
      rw [quotient, ih.1]
    · exact remainder

/-- The divided limbs stand for the quotient. -/
theorem divideLimbs_value (limbs : List UInt32) :
    limbsValue (divideLimbs limbs).1 = limbsValue limbs / 10 ^ 9 := by
  rw [limbsValue, (divideLimbs_divMod limbs).1]
  exact divMod_quotient (by decide) _

/-- What is left over is the remainder. -/
theorem divideLimbs_remainder (limbs : List UInt32) :
    (divideLimbs limbs).2.toNat = limbsValue limbs % 10 ^ 9 := by
  rw [(divideLimbs_divMod limbs).2]
  exact divMod_remainder (by decide) _

/-- Some limb is not zero when the number is not. -/
theorem any_limb (limbs : List UInt32) : limbs.any (· ≠ 0) = decide (limbsValue limbs ≠ 0) := by
  induction limbs with
  | nil => rfl
  | cons limb higher ih =>
    have value : limbsValue (limb :: higher) = limb.toNat + 2 ^ 32 * limbsValue higher :=
      Nat.ofDigits_cons
    have zero : limb = 0 ↔ limb.toNat = 0 := UInt32.toNat_inj.symm
    rw [List.any_cons, ih, value, ← Bool.decide_or]
    apply decide_eq_decide.mpr
    rw [ne_eq, zero]
    omega

/-- The groups of nine digits, the lowest first, while the array has room for them: nothing when
a group has no place. -/
def collectGroups : Nat → List UInt32 → Option (List UInt32)
  | 0, limbs => if limbs.any (· ≠ 0) then none else some []
  | room + 1, limbs =>
    if limbs.any (· ≠ 0) then
      let divided := divideLimbs limbs
      (collectGroups room divided.1).map (divided.2.toUInt32 :: ·)
    else some []

/-- When the array has room for the number, the groups are its digits in base 10^9. -/
theorem collectGroups_digits {room : Nat} {limbs : List UInt32}
    (fits : limbsValue limbs < (10 ^ 9) ^ room) :
    ∃ groups, collectGroups room limbs = some groups ∧ groups.length ≤ room ∧
      groups.map UInt32.toNat = Nat.digits (10 ^ 9) (limbsValue limbs) := by
  induction room generalizing limbs with
  | zero =>
    have zero : limbsValue limbs = 0 := Nat.lt_one_iff.mp fits
    have none_ := any_limb limbs
    rw [zero] at none_
    refine ⟨[], ?_, Nat.le_refl 0, ?_⟩
    · rw [collectGroups, none_]
      rfl
    · rw [zero, Nat.digits_zero]
      rfl
  | succ room ih =>
    have some_ := any_limb limbs
    by_cases zero : limbsValue limbs = 0
    · rw [zero] at some_
      refine ⟨[], ?_, Nat.zero_le _, ?_⟩
      · rw [collectGroups, some_]
        rfl
      · rw [zero, Nat.digits_zero]
        rfl
    · rw [decide_eq_true zero] at some_
      have smaller : limbsValue (divideLimbs limbs).1 < (10 ^ 9) ^ room := by
        rw [divideLimbs_value]
        apply (Nat.div_lt_iff_lt_mul (by decide)).mpr
        rwa [← Nat.pow_succ]
      obtain ⟨groups, collected, short, digits⟩ := ih smaller
      have group : (divideLimbs limbs).2.toUInt32.toNat = limbsValue limbs % 10 ^ 9 := by
        have below := Nat.mod_lt (limbsValue limbs) (show 0 < 10 ^ 9 by decide)
        rw [UInt64.toNat_toUInt32, divideLimbs_remainder]
        exact Nat.mod_eq_of_lt (Nat.lt_trans below (by decide))
      refine ⟨(divideLimbs limbs).2.toUInt32 :: groups, ?_, Nat.succ_le_succ short, ?_⟩
      · rw [collectGroups, some_, if_pos rfl]
        show Option.map _ (collectGroups room (divideLimbs limbs).1) = _
        rw [collected]
        rfl
      · rw [List.map_cons, group, digits, divideLimbs_value]
        exact (Nat.digits_def' (by decide) (Nat.pos_of_ne_zero zero)).symm

/-- `%09u`: a group of nine digits, with zeros in front. -/
def paddedGroup (group : UInt32) : Bytes :=
  List.replicate (9 - (decimal group.toNat).length) 48 ++ decimal group.toNat

/-- A group is padded to its nine digits. -/
theorem paddedGroup_digits {group : UInt32} (small : group.toNat < 10 ^ 9) :
    paddedGroup group = lastBytes 9 group.toNat := by
  rw [lastBytes, lastDigits_padded (by decide) (by decide) small, List.map_append,
    List.map_replicate, paddedGroup, decimal, List.length_map]
  rfl

/-- The numeral of a number is that of its top group and the digits of the others. -/
theorem decimal_groups (groups : List Nat) (small : ∀ group ∈ groups, group < 10 ^ 9) {top : Nat}
    (positive : 0 < top) :
    decimal (Nat.ofDigits (10 ^ 9) (groups ++ [top])) =
      decimal top ++ groups.reverse.flatMap (lastBytes 9) := by
  rw [decimal, toDigits_groups (by decide) 9 groups small positive, List.map_append,
    List.map_flatMap]
  rfl

/-- The numeral of a nonzero number from its digits in base 10^9, the highest first. -/
theorem decimal_digits_reverse {number : Nat} {top : Nat} {rest : List Nat}
    (digits : (Nat.digits (10 ^ 9) number).reverse = top :: rest) :
    decimal number = decimal top ++ rest.flatMap (lastBytes 9) := by
  have order : Nat.digits (10 ^ 9) number = rest.reverse ++ [top] := by
    rw [← List.reverse_reverse (Nat.digits (10 ^ 9) number), digits, List.reverse_cons]
  have value : Nat.ofDigits (10 ^ 9) (rest.reverse ++ [top]) = number := by
    rw [← order, Nat.ofDigits_digits]
  have small : ∀ group ∈ rest.reverse, group < 10 ^ 9 := by
    intro group inside
    apply Nat.digits_lt_base (b := 10 ^ 9) (m := number) (by decide)
    rw [order]
    exact List.mem_append_left _ inside
  have nonzero : number ≠ 0 := by
    intro zero
    rw [zero, Nat.digits_zero] at digits
    cases digits
  have positive : 0 < top := by
    have last := Nat.getLast_digit_ne_zero (10 ^ 9) nonzero
    simp only [order, List.getLast_append_singleton] at last
    exact Nat.pos_of_ne_zero last
  have text := decimal_groups rest.reverse small positive
  rw [value, List.reverse_reverse] at text
  exact text

/-- The limbs of a pair of words. -/
def limbsOf (hi lo : UInt64) : List UInt32 :=
  [lo.toUInt32, (lo >>> 32).toUInt32, hi.toUInt32, (hi >>> 32).toUInt32]

/-- `duckdb_u128_to_string`; nothing when it leaves its array of groups. -/
def duckdbU128ToString (hi lo : UInt64) : Option Bytes :=
  if hi = 0 then some (decimal lo.toNat)
  else (collectGroups 5 (limbsOf hi lo)).bind fun groups =>
    match groups.reverse with
    | [] => none
    | top :: rest => some (decimal top.toNat ++ rest.flatMap paddedGroup)

/-- The limbs of a pair of words stand for the pair. -/
theorem limbsOf_value (hi lo : UInt64) :
    limbsValue (limbsOf hi lo) = hi.toNat * 2 ^ 64 + lo.toNat := by
  have high := halves_toNat hi
  have low := halves_toNat lo
  rw [limbsValue, limbsOf]
  simp only [List.map_cons, List.map_nil, Nat.ofDigits_cons, Nat.ofDigits_nil]
  omega

/-- The groups of a pair of words are at most five. -/
theorem groups_five (hi lo : UInt64) :
    ∃ groups, collectGroups 5 (limbsOf hi lo) = some groups ∧ groups.length ≤ 5 ∧
      groups.map UInt32.toNat = Nat.digits (10 ^ 9) (hi.toNat * 2 ^ 64 + lo.toNat) := by
  have high := hi.toNat_lt
  have low := lo.toNat_lt
  rw [← limbsOf_value]
  apply collectGroups_digits
  rw [limbsOf_value]
  omega

/-- The text of a pair of words is the numeral of the pair. -/
theorem u128ToString_decimal (hi lo : UInt64) :
    duckdbU128ToString hi lo = some (decimal (hi.toNat * 2 ^ 64 + lo.toNat)) := by
  unfold duckdbU128ToString
  by_cases zero : hi = 0
  · have none_ : hi.toNat = 0 := by rw [zero]; rfl
    rw [if_pos zero, none_, Nat.zero_mul, Nat.zero_add]
  · rw [if_neg zero]
    obtain ⟨groups, collected, -, digits⟩ := groups_five hi lo
    have positive : hi.toNat ≠ 0 := fun none_ => zero (UInt64.toNat_inj.mp none_)
    have reversed := congrArg List.reverse digits
    rw [← List.map_reverse] at reversed
    rw [collected, Option.bind_some]
    cases order : groups.reverse with
    | nil =>
      rw [order] at reversed
      have empty := List.reverse_eq_nil_iff.mp reversed.symm
      have none_ := Nat.digits_eq_nil_iff_eq_zero.mp empty
      omega
    | cons top rest =>
      rw [order] at reversed
      have text := decimal_digits_reverse reversed.symm
      have padded : rest.flatMap paddedGroup = (rest.map UInt32.toNat).flatMap (lastBytes 9) := by
        rw [List.flatMap_map]
        apply List.flatMap_congr
        intro group inside
        apply paddedGroup_digits
        apply Nat.digits_lt_base (b := 10 ^ 9) (m := hi.toNat * 2 ^ 64 + lo.toNat) (by decide)
        rw [← digits]
        have member : group ∈ groups := by
          rw [← List.mem_reverse, order]
          exact List.mem_cons_of_mem _ inside
        exact List.mem_map_of_mem member
      show some (decimal top.toNat ++ rest.flatMap paddedGroup) = _
      rw [text, padded]

/-! ### Signed -/

/-- The two's complement of a pair of words: the high and the low word. -/
def negated (upper : Int64) (lower : UInt64) : UInt64 × UInt64 :=
  let lo := ~~~lower + 1
  (~~~upper.toUInt64 + (if lo = 0 then 1 else 0), lo)

/-- `duckdb_hugeint_to_string`: a sign in front of the digits of the magnitude. -/
def duckdbHugeintToString (value : Hugeint) : Option Bytes :=
  if value.upper < 0 then
    (duckdbU128ToString (negated value.upper value.lower).1
      (negated value.upper value.lower).2).map (45 :: ·)
  else duckdbU128ToString value.upper.toUInt64 value.lower

/-- `duckdb_uhugeint_to_string`: the digits of an unsigned integer of 128 bits. -/
def duckdbUhugeintToString (value : Uhugeint) : Option Bytes :=
  duckdbU128ToString value.upper value.lower

/-- The two's complement of a negative number is its magnitude. -/
theorem negated_value {value : Hugeint} (negative : value.upper < 0) :
    ((negated value.upper value.lower).1.toNat * 2 ^ 64 +
        (negated value.upper value.lower).2.toNat : Int) = -value.toInt := by
  have sign : value.upper.toInt < 0 := Int64.lt_iff_toInt_lt.mp negative
  have low := value.upper.le_toInt
  have bits := toUInt64_negative sign
  have lower := value.lower.toNat_lt
  have upper := value.upper.toUInt64.toNat_lt
  have lo : (~~~value.lower + 1).toNat = (2 ^ 64 - 1 - value.lower.toNat + 1) % 2 ^ 64 := by
    rw [UInt64.toNat_add, UInt64.toNat_not]
    rfl
  have hi : (~~~value.upper.toUInt64).toNat = 2 ^ 64 - 1 - value.upper.toUInt64.toNat :=
    UInt64.toNat_not _
  have zero : ~~~value.lower + 1 = 0 ↔ value.lower.toNat = 0 := by
    rw [← UInt64.toNat_inj, lo]
    show _ = 0 ↔ _
    omega
  unfold negated Hugeint.toInt
  by_cases carry : ~~~value.lower + 1 = 0
  · -- The low word is zero: the carry goes into the high word.
    have none_ := zero.mp carry
    have high : (~~~value.upper.toUInt64 + 1).toNat =
        (2 ^ 64 - 1 - value.upper.toUInt64.toNat + 1) % 2 ^ 64 := by
      rw [UInt64.toNat_add, hi]
      rfl
    simp only [if_pos carry, high, lo]
    omega
  · have some_ := mt zero.mpr carry
    simp only [if_neg carry, UInt64.add_zero, hi, lo]
    omega

/-- The text of a two's complement integer is its signed numeral. -/
theorem hugeintToString_signed (value : Hugeint) :
    duckdbHugeintToString value = some (signedDecimal value.toInt) := by
  have below := value.lower.toNat_lt
  unfold duckdbHugeintToString
  by_cases negative : value.upper < 0
  · have sign : value.upper.toInt < 0 := Int64.lt_iff_toInt_lt.mp negative
    have magnitude := negated_value negative
    have minus : value.toInt < 0 := by
      rw [Hugeint.toInt]
      omega
    have digits : (negated value.upper value.lower).1.toNat * 2 ^ 64 +
        (negated value.upper value.lower).2.toNat = value.toInt.natAbs := by omega
    rw [if_pos negative, u128ToString_decimal, digits, signedDecimal, if_pos minus]
    rfl
  · have sign : 0 ≤ value.upper.toInt := by
      apply Int.not_lt.mp
      exact fun minus => negative (Int64.lt_iff_toInt_lt.mpr minus)
    have bits := toUInt64_positive sign
    have plus : ¬value.toInt < 0 := by
      rw [Hugeint.toInt]
      omega
    have digits : value.upper.toUInt64.toNat * 2 ^ 64 + value.lower.toNat =
        value.toInt.natAbs := by
      rw [Hugeint.toInt]
      omega
    rw [if_neg negative, u128ToString_decimal, digits, signedDecimal, if_neg plus]

/-! ## Decimals -/

/-- A DECIMAL as a vector stores it, by its internal type. -/
inductive DecimalCell
  | smallint (value : Int16)
  | integer (value : Int32)
  | bigint (value : Int64)
  | hugeint (value : Hugeint)

/-- The integer that a DECIMAL is stored as. -/
def DecimalCell.toInt : DecimalCell → Int
  | .smallint value => value.toInt
  | .integer value => value.toInt
  | .bigint value => value.toInt
  | .hugeint value => value.toInt

/-- The sign of a stored DECIMAL, and the high and low words of its magnitude. -/
def DecimalCell.magnitude : DecimalCell → Bool × UInt64 × UInt64
  | .smallint v =>
    let negative := v < 0
    (negative, 0, if negative then (-v.toInt64).toUInt64 else v.toInt64.toUInt64)
  | .integer v =>
    let negative := v < 0
    (negative, 0, if negative then (-v.toInt64).toUInt64 else v.toInt64.toUInt64)
  | .bigint v =>
    let negative := v < 0
    (negative, 0, if negative then 0 - v.toUInt64 else v.toUInt64)
  | .hugeint v =>
    let negative := v.upper < 0
    (negative, if negative then negated v.upper v.lower else (v.upper.toUInt64, v.lower))

/-- A 64-bit number and its negation, as the sign and magnitude of a number that fits. -/
theorem magnitude_small {value : Int64} :
    (if value < 0 then 0 - value.toUInt64 else value.toUInt64).toNat = value.toInt.natAbs := by
  by_cases negative : value < 0
  · have sign : value.toInt < 0 := Int64.lt_iff_toInt_lt.mp negative
    have low := value.le_toInt
    have bits := toUInt64_negative sign
    have bound := value.toUInt64.toNat_lt
    rw [if_pos negative, UInt64.toNat_sub]
    show (2 ^ 64 - value.toUInt64.toNat + 0) % 2 ^ 64 = _
    omega
  · have sign : 0 ≤ value.toInt := by
      apply Int.not_lt.mp
      exact fun minus => negative (Int64.lt_iff_toInt_lt.mpr minus)
    rw [if_neg negative, toUInt64_toNat sign]

/-- Negating the bits is negating the number. -/
theorem toUInt64_neg (value : Int64) : (-value).toUInt64 = 0 - value.toUInt64 := by
  apply UInt64.toBitVec_inj.mp
  show -value.toBitVec = 0#64 - value.toBitVec
  rw [BitVec.zero_sub]

/-- The magnitude of a number of at most 64 bits, and whether it is negative. -/
theorem magnitude_word (value : Int64) :
    (0 : UInt64).toNat * 2 ^ 64 +
        (if value < 0 then (-value).toUInt64 else value.toUInt64).toNat = value.toInt.natAbs ∧
      (decide (value < 0) = true ↔ value.toInt < 0) := by
  apply And.intro
  · rw [toUInt64_neg, magnitude_small]
    exact Nat.zero_add _
  · rw [decide_eq_true_eq]
    exact Int64.lt_iff_toInt_lt

/-- The magnitude of a stored integer, and whether it is negative. -/
theorem magnitude_exact (cell : DecimalCell) :
    cell.magnitude.2.1.toNat * 2 ^ 64 + cell.magnitude.2.2.toNat = cell.toInt.natAbs ∧
      (cell.magnitude.1 = true ↔ cell.toInt < 0) := by
  cases cell with
  | smallint value =>
    have widened : value.toInt64.toInt = value.toInt := Int16.toInt_toInt64 value
    have sign : value.toInt64 < 0 ↔ value < 0 := by
      rw [Int64.lt_iff_toInt_lt, Int16.lt_iff_toInt_lt, widened]
      rfl
    have word := magnitude_word value.toInt64
    simp only [sign, widened] at word
    exact word
  | integer value =>
    have widened : value.toInt64.toInt = value.toInt := Int32.toInt_toInt64 value
    have sign : value.toInt64 < 0 ↔ value < 0 := by
      rw [Int64.lt_iff_toInt_lt, Int32.lt_iff_toInt_lt, widened]
      rfl
    have word := magnitude_word value.toInt64
    simp only [sign, widened] at word
    exact word
  | bigint value =>
    have word := magnitude_word value
    rw [toUInt64_neg] at word
    exact word
  | hugeint value =>
    have below := value.lower.toNat_lt
    have sign : value.upper < 0 ↔ value.toInt < 0 := by
      rw [Int64.lt_iff_toInt_lt, Hugeint.toInt]
      show value.upper.toInt < 0 ↔ _
      omega
    apply And.intro
    · show (if value.upper < 0 then negated value.upper value.lower
        else (value.upper.toUInt64, value.lower)).1.toNat * 2 ^ 64 +
        (if value.upper < 0 then negated value.upper value.lower
          else (value.upper.toUInt64, value.lower)).2.toNat = value.toInt.natAbs
      by_cases negative : value.upper < 0
      · have magnitude := negated_value negative
        have minus := sign.mp negative
        rw [if_pos negative]
        omega
      · have plus := mt sign.mpr negative
        have upper : 0 ≤ value.upper.toInt := by
          apply Int.not_lt.mp
          exact fun minus => negative (Int64.lt_iff_toInt_lt.mpr minus)
        have bits := toUInt64_positive upper
        rw [if_neg negative]
        rw [Hugeint.toInt] at plus ⊢
        show value.upper.toUInt64.toNat * 2 ^ 64 + value.lower.toNat = _
        omega
    · show decide (value.upper < 0) = true ↔ _
      rw [decide_eq_true_eq]
      exact sign

/-- Put the point before the last digits, after zeros when there are too few. -/
def insertPoint (scale : Nat) (digits : Bytes) : Bytes :=
  if 0 < scale then
    let padded := if digits.length ≤ scale then
        List.replicate (scale - digits.length + 1) 48 ++ digits
      else digits
    padded.take (padded.length - scale) ++ 46 :: padded.drop (padded.length - scale)
  else digits

/-- Where the point stands: the digits before it and after it. -/
theorem insertPoint_split {scale : Nat} (positive : 0 < scale) (digits : Bytes) :
    ∃ whole fraction, insertPoint scale digits = whole ++ 46 :: fraction ∧ whole ≠ [] ∧
      fraction.length = scale ∧ spelled (whole ++ fraction) = spelled digits ∧
      ∀ byte ∈ whole ++ fraction, byte = 48 ∨ byte ∈ digits := by
  have padding : ∃ padded, (if digits.length ≤ scale then
        List.replicate (scale - digits.length + 1) 48 ++ digits else digits) = padded ∧
      scale < padded.length ∧ spelled padded = spelled digits ∧
      ∀ byte ∈ padded, byte = 48 ∨ byte ∈ digits := by
    by_cases short : digits.length ≤ scale
    · refine ⟨_, if_pos short, ?_, spelled_zeros _ _, ?_⟩
      · rw [List.length_append, List.length_replicate]
        omega
      · intro byte inside
        cases List.mem_append.mp inside with
        | inl zero => exact Or.inl (List.eq_of_mem_replicate zero)
        | inr digit => exact Or.inr digit
    · exact ⟨_, if_neg short, Nat.lt_of_not_le short, rfl, fun _ inside => Or.inr inside⟩
  obtain ⟨padded, chosen, longer, value, bytes⟩ := padding
  have joined := List.take_append_drop (padded.length - scale) padded
  refine ⟨padded.take (padded.length - scale), padded.drop (padded.length - scale),
    ?_, ?_, ?_, ?_, ?_⟩
  · rw [insertPoint, if_pos positive]
    simp only [chosen]
  · apply List.ne_nil_of_length_pos
    rw [List.length_take]
    omega
  · rw [List.length_drop]
    omega
  · rw [joined, value]
  · rw [joined]
    exact bytes

/-- `duckdb_decimal_render`: the digits of a DECIMAL with its point and its sign. -/
def duckdbDecimalRender (scale : UInt8) (cell : DecimalCell) : Option Bytes :=
  (duckdbU128ToString cell.magnitude.2.1 cell.magnitude.2.2).map fun text =>
    let digits := insertPoint scale.toNat text
    if cell.magnitude.1 then 45 :: digits else digits

/-- A rendered DECIMAL has the digits of its scale and denotes the stored integer over it. -/
theorem decimalRender_denotes (scale : UInt8) (cell : DecimalCell) :
    ∃ text numeral, duckdbDecimalRender scale cell = some text ∧
      readNumeral text = some numeral ∧ numeral.whole ≠ [] ∧
      numeral.fraction.length = scale.toNat ∧
      numeral.value = (cell.toInt : ℚ) / 10 ^ scale.toNat := by
  have magnitude := magnitude_exact cell
  have digits := decimal_digits cell.toInt.natAbs
  have rendered : duckdbDecimalRender scale cell = some (signed cell.magnitude.1
      (insertPoint scale.toNat (decimal cell.toInt.natAbs))) := by
    rw [duckdbDecimalRender, u128ToString_decimal, magnitude.1]
    rfl
  by_cases none_ : scale.toNat = 0
  · -- Without a scale there is no point.
    have plain : insertPoint scale.toNat (decimal cell.toInt.natAbs) =
        decimal cell.toInt.natAbs ++ [] := by
      rw [insertPoint, none_, if_neg (Nat.lt_irrefl 0), List.append_nil]
    refine ⟨_, ⟨cell.magnitude.1, decimal cell.toInt.natAbs, []⟩, rendered, ?_, digits.1,
      none_.symm, ?_⟩
    · rw [plain]
      exact readNumeral_signed _ digits.1 digits.2 (Or.inl ⟨rfl, rfl⟩)
    · rw [Numeral.value_signed cell.toInt, none_]
      · rfl
      · rw [List.append_nil, spelled_decimal]
      · exact magnitude.2
  · have positive : 0 < scale.toNat := Nat.pos_of_ne_zero none_
    obtain ⟨whole, fraction, split, some_, places, value, bytes⟩ :=
      insertPoint_split positive (decimal cell.toInt.natAbs)
    have allDigits : ∀ byte ∈ whole ++ fraction, isDigit byte = true := by
      intro byte inside
      cases bytes byte inside with
      | inl zero => rw [zero]; decide
      | inr digit => exact digits.2 byte digit
    have more : fraction ≠ [] := by
      apply List.ne_nil_of_length_pos
      omega
    refine ⟨_, ⟨cell.magnitude.1, whole, fraction⟩, rendered, ?_, some_, places, ?_⟩
    · rw [split]
      exact readNumeral_signed _ some_ (fun byte inside =>
        allDigits byte (List.mem_append_left _ inside))
        (Or.inr ⟨rfl, more, fun byte inside => allDigits byte (List.mem_append_right _ inside)⟩)
    · rw [Numeral.value_signed cell.toInt, places]
      · rw [value, spelled_decimal]
      · exact magnitude.2

/-! ## The choice between int and string -/

/-- `ZEND_LONG_MAX`: the largest PHP integer, as an unsigned word. -/
def zendLongMax : UInt64 := 0x7fffffffffffffff

/-- The UBIGINT case of `duckdb_decode_value`: an integer as long as PHP has it. -/
def decodeUbigint (v : UInt64) : Zval :=
  if v ≤ zendLongMax then .long v.toInt64 else .string (decimal v.toNat)

/-- A word up to the largest int is below 2^63. -/
theorem small_word {word : UInt64} : word ≤ zendLongMax ↔ word.toNat < 2 ^ 63 := by
  rw [UInt64.le_iff_toNat_le]
  show word.toNat ≤ 9223372036854775807 ↔ _
  omega

/-- The decoded value of a UBIGINT denotes the stored integer. -/
theorem decodeUbigint_denotes (v : UInt64) : denoted (decodeUbigint v) = some (v.toNat : ℚ) := by
  unfold decodeUbigint
  by_cases small : v ≤ zendLongMax
  · rw [if_pos small, denoted, toInt64_small (small_word.mp small), Int.cast_natCast]
  · have text : decimal v.toNat = signedDecimal (v.toNat : Int) := by
      rw [signedDecimal, if_neg (by omega)]
      rfl
    rw [if_neg small, denoted, text, readNumeral_signedDecimal, Int.cast_natCast]

/-- The HUGEINT case of `duckdb_decode_value`: an integer as long as PHP has it. -/
def decodeHugeint (v : Hugeint) : Option Zval :=
  if v.upper = 0 ∧ v.lower ≤ zendLongMax then some (.long v.lower.toInt64)
  else if v.upper = -1 ∧ (1 : UInt64) <<< 63 ≤ v.lower then some (.long v.lower.toInt64)
  else (duckdbHugeintToString v).map .string

/-- The UHUGEINT case of `duckdb_decode_value`: an integer as long as PHP has it. -/
def decodeUhugeint (v : Uhugeint) : Option Zval :=
  if v.upper = 0 ∧ v.lower ≤ zendLongMax then some (.long v.lower.toInt64)
  else (duckdbUhugeintToString v).map .string

/-- The decoded value of a HUGEINT denotes the stored integer. -/
theorem decodeHugeint_denotes (v : Hugeint) :
    (decodeHugeint v).bind denoted = some (v.toInt : ℚ) := by
  have below := v.lower.toNat_lt
  unfold decodeHugeint
  by_cases small : v.upper = 0 ∧ v.lower ≤ zendLongMax
  · have lower := small_word.mp small.2
    have number : v.toInt = v.lower.toNat := by
      rw [Hugeint.toInt, small.1]
      show 0 * 2 ^ 64 + _ = _
      omega
    rw [if_pos small, Option.bind_some, denoted, toInt64_small lower, number]
  · rw [if_neg small]
    by_cases negative : v.upper = -1 ∧ (1 : UInt64) <<< 63 ≤ v.lower
    · have power : ((1 : UInt64) <<< 63).toNat = 2 ^ 63 := by decide
      have lower : 2 ^ 63 ≤ v.lower.toNat := by
        rw [← power]
        exact UInt64.le_iff_toNat_le.mp negative.2
      have number : v.toInt = v.lower.toNat - 2 ^ 64 := by
        rw [Hugeint.toInt, negative.1]
        show -1 * 2 ^ 64 + _ = _
        omega
      rw [if_pos negative, Option.bind_some, denoted, toInt64_large lower, number]
    · rw [if_neg negative, hugeintToString_signed, Option.map_some, Option.bind_some, denoted,
        readNumeral_signedDecimal]

/-- The decoded value of a UHUGEINT denotes the stored integer. -/
theorem decodeUhugeint_denotes (v : Uhugeint) :
    (decodeUhugeint v).bind denoted = some (v.toNat : ℚ) := by
  unfold decodeUhugeint
  by_cases small : v.upper = 0 ∧ v.lower ≤ zendLongMax
  · have lower := small_word.mp small.2
    have number : v.toNat = v.lower.toNat := by
      rw [Uhugeint.toNat, small.1, UInt64.toNat_zero, Nat.zero_mul, Nat.zero_add]
    rw [if_pos small, Option.bind_some, denoted, toInt64_small lower, number, Int.cast_natCast]
  · have text : decimal v.toNat = signedDecimal (v.toNat : Int) := by
      rw [signedDecimal, if_neg (by omega), Int.natAbs_natCast]
    rw [if_neg small, duckdbUhugeintToString, u128ToString_decimal, ← Uhugeint.toNat,
      Option.map_some, Option.bind_some, denoted, text, readNumeral_signedDecimal,
      Int.cast_natCast]

/-- The renderings of integers are exact: of pairs of words, with at most five groups, of 128-bit
two's complement, of DECIMAL values of every stored width and scale, and of the integers that may
or may not fit a PHP int. -/
theorem integers_exact :
    (∀ hi lo, duckdbU128ToString hi lo = some (decimal (hi.toNat * 2 ^ 64 + lo.toNat)) ∧
      ∃ groups, collectGroups 5 (limbsOf hi lo) = some groups ∧ groups.length ≤ 5) ∧
    (∀ value, duckdbHugeintToString value = some (signedDecimal value.toInt)) ∧
    (∀ (scale : UInt8) cell, ∃ text numeral, duckdbDecimalRender scale cell = some text ∧
      readNumeral text = some numeral ∧ numeral.whole ≠ [] ∧
      numeral.fraction.length = scale.toNat ∧
      numeral.value = (cell.toInt : ℚ) / 10 ^ scale.toNat) ∧
    (∀ v, denoted (decodeUbigint v) = some (v.toNat : ℚ)) ∧
    (∀ v, (decodeHugeint v).bind denoted = some (v.toInt : ℚ)) ∧
    ∀ v, (decodeUhugeint v).bind denoted = some (v.toNat : ℚ) := by
  refine ⟨fun hi lo => ⟨u128ToString_decimal hi lo, ?_⟩, hugeintToString_signed,
    decimalRender_denotes, decodeUbigint_denotes, decodeHugeint_denotes, decodeUhugeint_denotes⟩
  obtain ⟨groups, collected, short, -⟩ := groups_five hi lo
  exact ⟨groups, collected, short⟩

end PhpDuckdb.Decode
