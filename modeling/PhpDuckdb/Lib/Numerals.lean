import Mathlib.Algebra.Order.Ring.Int
import Mathlib.Data.Nat.Digits.Defs
import Mathlib.Data.Nat.Digits.Lemmas
import Mathlib.Tactic.Ring

/-!
# Positional numerals

Numbers as lists of digits, the lowest first, as programs keep them in arrays of words: what one
pass of a multiplication or of a long division over the digits does to the number, and how the text
of a number splits into groups of a fixed width.
-/

namespace PhpDuckdb.Numerals

/-! ## Passes over the digits -/

/-- Multiply the digits in place and add the carry, from the lowest digit up. -/
def mulAdd (base factor : Nat) : List Nat → Nat → List Nat × Nat
  | [], carry => ([], carry)
  | digit :: higher, carry =>
    let product := digit * factor + carry
    let above := mulAdd base factor higher (product / base)
    (product % base :: above.1, above.2)

/-- A pass multiplies its first digit and carries into the others. -/
theorem mulAdd_cons (base factor digit : Nat) (higher : List Nat) (carry : Nat) :
    mulAdd base factor (digit :: higher) carry =
      ((digit * factor + carry) % base ::
          (mulAdd base factor higher ((digit * factor + carry) / base)).1,
        (mulAdd base factor higher ((digit * factor + carry) / base)).2) := rfl

/-- The pass keeps the number of digits. -/
@[simp]
theorem mulAdd_length (base factor : Nat) (digits : List Nat) (carry : Nat) :
    (mulAdd base factor digits carry).1.length = digits.length := by
  induction digits generalizing carry with
  | nil => rfl
  | cons digit higher ih => exact congrArg (· + 1) (ih _)

/-- The digits and the last carry stand for the product and the first carry. -/
theorem mulAdd_value (base factor : Nat) (digits : List Nat) (carry : Nat) :
    Nat.ofDigits base (mulAdd base factor digits carry).1 +
        base ^ digits.length * (mulAdd base factor digits carry).2 =
      Nat.ofDigits base digits * factor + carry := by
  induction digits generalizing carry with
  | nil =>
    show 0 + base ^ 0 * carry = 0 * factor + carry
    rw [Nat.pow_zero, Nat.one_mul, Nat.zero_mul]
  | cons digit higher ih =>
    have above := ih ((digit * factor + carry) / base)
    have split := Nat.mod_add_div (digit * factor + carry) base
    show Nat.ofDigits base (_ :: _) + base ^ (higher.length + 1) * _ = _
    rw [Nat.ofDigits_cons, Nat.ofDigits_cons]
    calc (digit * factor + carry) % base +
          base * Nat.ofDigits base
            (mulAdd base factor higher ((digit * factor + carry) / base)).1 +
          base ^ (higher.length + 1) *
            (mulAdd base factor higher ((digit * factor + carry) / base)).2
        = (digit * factor + carry) % base +
          base * (Nat.ofDigits base
              (mulAdd base factor higher ((digit * factor + carry) / base)).1 +
            base ^ higher.length *
              (mulAdd base factor higher ((digit * factor + carry) / base)).2) := by
          rw [Nat.pow_succ]
          ring
      _ = (digit * factor + carry) % base + base * ((digit * factor + carry) / base) +
          base * (Nat.ofDigits base higher * factor) := by
          rw [above]
          ring
      _ = (digit + base * Nat.ofDigits base higher) * factor + carry := by
          rw [split]
          ring

/-- Multiplying and adding leaves digits of the base. -/
theorem mulAdd_digits {base : Nat} (positive : 0 < base) (factor : Nat) (digits : List Nat)
    (carry : Nat) : ∀ digit ∈ (mulAdd base factor digits carry).1, digit < base := by
  induction digits generalizing carry with
  | nil => exact fun _ inside => absurd inside List.not_mem_nil
  | cons digit higher ih =>
    intro other inside
    cases List.mem_cons.mp inside with
    | inl first =>
      rw [first]
      exact Nat.mod_lt _ positive
    | inr later => exact ih _ other later

/-- A carry below the factor gives one, when the digits are below the base. -/
theorem carry_fits {base factor digit carry : Nat} (small : digit < base) (fits : carry < factor) :
    (digit * factor + carry) / base < factor := by
  have positive : 0 < base := by omega
  apply (Nat.div_lt_iff_lt_mul positive).mpr
  calc digit * factor + carry < digit * factor + factor := Nat.add_lt_add_left fits _
    _ = (digit + 1) * factor := by ring
    _ ≤ base * factor := Nat.mul_le_mul_right _ small
    _ = factor * base := Nat.mul_comm _ _

/-- Divide the digits in place, from the highest digit down. -/
def divMod (base divisor : Nat) : List Nat → List Nat × Nat
  | [] => ([], 0)
  | digit :: higher =>
    let above := divMod base divisor higher
    let current := above.2 * base + digit
    (current / divisor :: above.1, current % divisor)

/-- The digits stand for the quotient, with the rest left over. -/
theorem divMod_value (base divisor : Nat) (digits : List Nat) :
    Nat.ofDigits base (divMod base divisor digits).1 * divisor + (divMod base divisor digits).2 =
      Nat.ofDigits base digits := by
  induction digits with
  | nil =>
    show 0 * divisor + 0 = 0
    omega
  | cons digit higher ih =>
    have split := Nat.mod_add_div ((divMod base divisor higher).2 * base + digit) divisor
    show Nat.ofDigits base (_ :: _) * divisor + _ = _
    rw [Nat.ofDigits_cons, Nat.ofDigits_cons]
    calc (((divMod base divisor higher).2 * base + digit) / divisor +
            base * Nat.ofDigits base (divMod base divisor higher).1) * divisor +
          ((divMod base divisor higher).2 * base + digit) % divisor
        = (((divMod base divisor higher).2 * base + digit) % divisor +
            divisor * (((divMod base divisor higher).2 * base + digit) / divisor)) +
          base * (Nat.ofDigits base (divMod base divisor higher).1 * divisor) := by ring
      _ = digit + base * (Nat.ofDigits base (divMod base divisor higher).1 * divisor +
            (divMod base divisor higher).2) := by
          rw [split]
          ring
      _ = digit + base * Nat.ofDigits base higher := by rw [ih]

/-- What is left over is below the divisor. -/
theorem divMod_rest {base divisor : Nat} (positive : 0 < divisor) (digits : List Nat) :
    (divMod base divisor digits).2 < divisor := by
  cases digits with
  | nil => exact positive
  | cons digit higher => exact Nat.mod_lt _ positive

/-- The digits of a division stand for the quotient. -/
theorem divMod_quotient {base divisor : Nat} (positive : 0 < divisor) (digits : List Nat) :
    Nat.ofDigits base (divMod base divisor digits).1 = Nat.ofDigits base digits / divisor := by
  rw [← divMod_value base divisor digits, Nat.add_comm, Nat.add_mul_div_right _ _ positive,
    Nat.div_eq_of_lt (divMod_rest positive digits), Nat.zero_add]

/-- What is left over is the rest of the division. -/
theorem divMod_remainder {base divisor : Nat} (positive : 0 < divisor) (digits : List Nat) :
    (divMod base divisor digits).2 = Nat.ofDigits base digits % divisor := by
  rw [← divMod_value base divisor digits, Nat.mul_add_mod_self_right,
    Nat.mod_eq_of_lt (divMod_rest positive digits)]

/-- A rest below the divisor and a digit give a quotient digit. -/
theorem quotient_fits {base divisor rest digit : Nat} (left : rest < divisor)
    (small : digit < base) : (rest * base + digit) / divisor < base := by
  have positive : 0 < divisor := by omega
  apply (Nat.div_lt_iff_lt_mul positive).mpr
  calc rest * base + digit < rest * base + base := Nat.add_lt_add_left small _
    _ = (rest + 1) * base := by ring
    _ ≤ divisor * base := Nat.mul_le_mul_right _ left
    _ = base * divisor := Nat.mul_comm _ _

/-- The carry of a pass over digits with a nonzero top is not zero, when the factor is not below the
base. -/
theorem mulAdd_carries {base factor : Nat} (positive : 0 < base) (grows : base ≤ factor)
    {digits : List Nat} (some : digits ≠ []) (top : digits.getLast some ≠ 0) (carry : Nat) :
    0 < (mulAdd base factor digits carry).2 := by
  induction digits generalizing carry with
  | nil => exact absurd rfl some
  | cons digit higher ih =>
    cases higher with
    | nil =>
      have nonzero : 0 < digit := Nat.pos_of_ne_zero top
      show 0 < (digit * factor + carry) / base
      apply Nat.div_pos _ positive
      calc base ≤ 1 * factor := by omega
        _ ≤ digit * factor := Nat.mul_le_mul_right _ nonzero
        _ ≤ digit * factor + carry := Nat.le_add_right _ _
    | cons next rest => exact ih (List.cons_ne_nil _ _) top _

/-- The number of a list of digits, the highest first, from those of its parts. -/
theorem foldl_append {α : Type} (base : Nat) (digit : α → Nat) (first second : List α) :
    (first ++ second).foldl (fun total next => total * base + digit next) 0 =
      first.foldl (fun total next => total * base + digit next) 0 * base ^ second.length +
        second.foldl (fun total next => total * base + digit next) 0 := by
  have folded : ∀ (digits : List α) (start : Nat),
      digits.foldl (fun total next => total * base + digit next) start =
        start * base ^ digits.length +
          digits.foldl (fun total next => total * base + digit next) 0 := by
    intro digits
    induction digits with
    | nil =>
      intro start
      rw [List.foldl_nil, List.foldl_nil, List.length_nil, Nat.pow_zero, Nat.mul_one, Nat.add_zero]
    | cons next rest ih =>
      intro start
      rw [List.foldl_cons, List.foldl_cons, ih, ih (0 * base + digit next), List.length_cons,
        Nat.pow_succ]
      ring
  rw [List.foldl_append]
  exact folded second _

/-! ## Words -/

/-- Bits below a shifted number are added to it. -/
theorem lor_low {high low width : Nat} (small : low < 2 ^ width) :
    high * 2 ^ width ||| low = high * 2 ^ width + low := by
  rw [← Nat.shiftLeft_eq, Nat.shiftLeft_add_eq_or_of_lt small]

/-- A shift that does not leave 32 bits multiplies by a power of two. -/
theorem shifted_toNat {word shift : UInt32} (inside : shift.toNat < 32)
    (fits : word.toNat * 2 ^ shift.toNat < 2 ^ 32) :
    (word <<< shift).toNat = word.toNat * 2 ^ shift.toNat := by
  rw [UInt32.toNat_shiftLeft, Nat.mod_eq_of_lt inside, Nat.shiftLeft_eq]
  exact Nat.mod_eq_of_lt fits

/-- Three bytes make one word, the first of them the highest. -/
theorem three_toNat {first second third : UInt32} (one : first.toNat < 256)
    (two : second.toNat < 256) (three : third.toNat < 256) :
    (first <<< 16 ||| second <<< 8 ||| third).toNat =
      first.toNat * 65536 + second.toNat * 256 + third.toNat := by
  have high : (first <<< 16).toNat = first.toNat * 2 ^ 16 :=
    shifted_toNat (by decide) (show first.toNat * 65536 < 4294967296 by omega)
  have middle : (second <<< 8).toNat = second.toNat * 2 ^ 8 :=
    shifted_toNat (by decide) (show second.toNat * 256 < 4294967296 by omega)
  have above : first.toNat * 2 ^ 16 ||| second.toNat * 2 ^ 8 =
      (first.toNat * 256 + second.toNat) * 2 ^ 8 := by
    rw [lor_low (show second.toNat * 256 < 65536 by omega)]
    omega
  rw [UInt32.toNat_or, UInt32.toNat_or, high, middle, above,
    lor_low (show third.toNat < 256 from three)]
  omega

/-- Four bytes make one word, the first of them the highest. -/
theorem four_toNat {first second third fourth : UInt32} (one : first.toNat < 256)
    (two : second.toNat < 256) (three : third.toNat < 256) (four : fourth.toNat < 256) :
    (first <<< 24 ||| second <<< 16 ||| third <<< 8 ||| fourth).toNat =
      ((first.toNat * 256 + second.toNat) * 256 + third.toNat) * 256 + fourth.toNat := by
  have highest : (first <<< 24).toNat = first.toNat * 2 ^ 24 :=
    shifted_toNat (by decide) (show first.toNat * 16777216 < 4294967296 by omega)
  have high : (second <<< 16).toNat = second.toNat * 2 ^ 16 :=
    shifted_toNat (by decide) (show second.toNat * 65536 < 4294967296 by omega)
  have middle : (third <<< 8).toNat = third.toNat * 2 ^ 8 :=
    shifted_toNat (by decide) (show third.toNat * 256 < 4294967296 by omega)
  have upper : first.toNat * 2 ^ 24 ||| second.toNat * 2 ^ 16 =
      (first.toNat * 256 + second.toNat) * 2 ^ 16 := by
    rw [lor_low (show second.toNat * 65536 < 16777216 by omega)]
    omega
  have above : (first.toNat * 256 + second.toNat) * 2 ^ 16 ||| third.toNat * 2 ^ 8 =
      ((first.toNat * 256 + second.toNat) * 256 + third.toNat) * 2 ^ 8 := by
    rw [lor_low (show third.toNat * 256 < 65536 by omega)]
    omega
  rw [UInt32.toNat_or, UInt32.toNat_or, UInt32.toNat_or, highest, high, middle, upper, above,
    lor_low (show fourth.toNat < 256 from four)]
  omega

/-- A small word shifted above a 32-bit word is the number with that word as its last digit. -/
theorem joined_toNat {high : UInt64} (small : high.toNat < 2 ^ 32) (low : UInt32) :
    (high <<< 32 ||| low.toUInt64).toNat = high.toNat * 2 ^ 32 + low.toNat := by
  have shifted : (high <<< 32).toNat = high.toNat <<< 32 := by
    rw [UInt64.toNat_shiftLeft]
    apply Nat.mod_eq_of_lt
    show high.toNat <<< 32 < 2 ^ 64
    rw [Nat.shiftLeft_eq]
    omega
  rw [UInt64.toNat_or, shifted, UInt32.toNat_toUInt64,
    ← Nat.shiftLeft_add_eq_or_of_lt low.toNat_lt, Nat.shiftLeft_eq]

/-- The digits of a 64-bit word in base 2^32. -/
theorem halves_toNat (word : UInt64) :
    word.toUInt32.toNat + 2 ^ 32 * (word >>> 32).toUInt32.toNat = word.toNat := by
  have bound := word.toNat_lt
  have low : word.toUInt32.toNat = word.toNat % 2 ^ 32 := UInt64.toNat_toUInt32 word
  have shifted : (word >>> 32).toNat = word.toNat / 2 ^ 32 := by
    rw [UInt64.toNat_shiftRight]
    exact Nat.shiftRight_eq_div_pow _ _
  have high : (word >>> 32).toUInt32.toNat = word.toNat / 2 ^ 32 % 2 ^ 32 := by
    rw [UInt64.toNat_toUInt32, shifted]
  omega

/-! ## Texts -/

/-- The last digits of a number, as many as asked for. -/
def lastDigits (base : Nat) : Nat → Nat → List Char
  | 0, _ => []
  | width + 1, number => lastDigits base width (number / base) ++ [(number % base).digitChar]

/-- The last digits of a number are as many as are asked for. -/
@[simp]
theorem lastDigits_length (base width number : Nat) :
    (lastDigits base width number).length = width := by
  induction width generalizing number with
  | zero => rfl
  | succ width ih => rw [lastDigits, List.length_append, ih, List.length_singleton]

/-- A number that is not below the base is written as what is above its last digit, and it. -/
theorem toDigits_last {base : Nat} (large : 1 < base) {number : Nat} (several : base ≤ number) :
    Nat.toDigits base number =
      Nat.toDigits base (number / base) ++ [(number % base).digitChar] :=
  Nat.toDigits_of_base_le large several

/-- The text of a number splits into the text of its high part and its last digits. -/
theorem toDigits_split {base : Nat} (large : 1 < base) (width : Nat) {high : Nat}
    (positive : 0 < high) {low : Nat} (small : low < base ^ width) :
    Nat.toDigits base (high * base ^ width + low) =
      Nat.toDigits base high ++ lastDigits base width low := by
  induction width generalizing low with
  | zero =>
    have none : low = 0 := Nat.lt_one_iff.mp small
    rw [none, lastDigits, List.append_nil, Nat.pow_zero, Nat.mul_one, Nat.add_zero]
  | succ width ih =>
    have split := Nat.mod_add_div low base
    have above : low / base < base ^ width := by
      apply (Nat.div_lt_iff_lt_mul (by omega)).mpr
      rwa [← Nat.pow_succ]
    have below : low % base < base := Nat.mod_lt _ (by omega)
    have number : high * base ^ (width + 1) + low =
        base * (high * base ^ width + low / base) + low % base := by
      calc high * base ^ (width + 1) + low
          = high * base ^ (width + 1) + (low % base + base * (low / base)) := by rw [split]
        _ = base * (high * base ^ width + low / base) + low % base := by
            rw [Nat.pow_succ]
            ring
    have more : 0 < high * base ^ width + low / base :=
      Nat.add_pos_left (Nat.mul_pos positive (Nat.pow_pos (by omega))) _
    rw [number, ← Nat.toDigits_append_toDigits large more below, ih above,
      Nat.toDigits_of_lt_base below, lastDigits, List.append_assoc]

/-- The last digits of a small number are its text after zeros. -/
theorem lastDigits_padded {base : Nat} (large : 1 < base) {width number : Nat}
    (some : 0 < width) (small : number < base ^ width) :
    lastDigits base width number =
      List.replicate (width - (Nat.toDigits base number).length) '0' ++
        Nat.toDigits base number := by
  induction width generalizing number with
  | zero => omega
  | succ width ih =>
    by_cases single : number < base
    · -- One digit: everything above it is zero.
      have zeros : ∀ width, lastDigits base width 0 = List.replicate width '0' := by
        intro width
        induction width with
        | zero => rfl
        | succ width ih =>
          rw [lastDigits, Nat.zero_div, ih, Nat.zero_mod, List.replicate_succ']
          rfl
      rw [lastDigits, Nat.div_eq_of_lt single, zeros, Nat.mod_eq_of_lt single,
        Nat.toDigits_of_lt_base single, List.length_singleton, Nat.add_sub_cancel]
    · have several : base ≤ number := by omega
      have positive : 0 < width := by
        apply Nat.pos_of_ne_zero
        intro none
        rw [none, Nat.zero_add, Nat.pow_one] at small
        exact single small
      have above : number / base < base ^ width := by
        apply (Nat.div_lt_iff_lt_mul (by omega)).mpr
        rwa [← Nat.pow_succ]
      rw [lastDigits, ih positive above, toDigits_last large several, List.length_append,
        List.length_singleton, Nat.add_sub_add_right, List.append_assoc]

/-- The text of a number is the text of its top group and the fixed-width texts of the others. -/
theorem toDigits_groups {base : Nat} (large : 1 < base) (width : Nat) (groups : List Nat)
    (small : ∀ group ∈ groups, group < base ^ width) {top : Nat} (positive : 0 < top) :
    Nat.toDigits base (Nat.ofDigits (base ^ width) (groups ++ [top])) =
      Nat.toDigits base top ++ groups.reverse.flatMap (lastDigits base width) := by
  induction groups with
  | nil => rw [List.nil_append, Nat.ofDigits_singleton, List.reverse_nil, List.flatMap_nil,
      List.append_nil]
  | cons group higher ih =>
    have rest := ih fun other inside => small other (List.mem_cons_of_mem _ inside)
    have more : 0 < Nat.ofDigits (base ^ width) (higher ++ [top]) := by
      rw [Nat.ofDigits_append, Nat.ofDigits_singleton]
      exact Nat.add_pos_right _ (Nat.mul_pos (Nat.pow_pos (Nat.pow_pos (by omega))) positive)
    rw [List.cons_append, Nat.ofDigits_cons, Nat.add_comm, Nat.mul_comm,
      toDigits_split large width more (small group List.mem_cons_self), rest,
      List.reverse_cons, List.flatMap_append, List.flatMap_singleton, List.append_assoc]

end PhpDuckdb.Numerals
