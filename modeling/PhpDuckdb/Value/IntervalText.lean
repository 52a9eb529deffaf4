import PhpDuckdb.Value.Numeral

/-!
# The text of an interval

`Interval::__toString` writes years, months and days with their units and the microseconds as a
time, the parts that are zero left out. A reader of such texts gets the three components back as
long as the hours fit the `int` that they are printed as.
-/

namespace PhpDuckdb.Value

open Numerals SqlText

/-! ## Writing -/

/-- `duckdb_interval_append_unit`: the text, and whether nothing has been written. -/
def duckdbIntervalAppendUnit (state : Bytes × Bool) (value : Int64) (unit : String) :
    Bytes × Bool :=
  if value = 0 then state
  else
    ((if state.2 then state.1 else state.1 ++ [32]) ++ signedDecimal value.toInt ++ [32] ++
      lit unit ++ (if value ≠ 1 ∧ value ≠ -1 then [115] else []), false)

/-- `%0*d`: the digits after zeros, and after a sign, which counts as one of them. -/
def zeroPadded (width : Nat) (number : Int) : Bytes :=
  let digits := decimal number.natAbs
  if number < 0 then 45 :: (List.replicate (width - 1 - digits.length) 48 ++ digits)
  else List.replicate (width - digits.length) 48 ++ digits

/-- The time of microseconds, whose sign has been written. -/
def timeText (micros : Int64) : Bytes :=
  let hours := micros / 3600000000
  let minutes := micros / 60000000 % 60
  let seconds := micros / 1000000 % 60
  let fraction := micros % 1000000
  let whole := zeroPadded 2 hours.toInt32.toInt ++ 58 :: zeroPadded 2 minutes.toInt32.toInt ++
    58 :: zeroPadded 2 seconds.toInt32.toInt
  if fraction = 0 then whole else whole ++ 46 :: zeroPadded 6 fraction.toInt32.toInt

/-- The time of microseconds with their sign. -/
def signedTime (micros : Int64) : Bytes :=
  if micros < 0 then 45 :: timeText (-micros) else timeText micros

/-- `Interval::__toString`: the parts of an interval that are not zero, then its time. -/
def intervalToString (months days : Int32) (micros : Int64) : Bytes :=
  let years := months / 12
  let rest := months % 12
  let str := duckdbIntervalAppendUnit ([], true) years.toInt64 "year"
  let str := duckdbIntervalAppendUnit str rest.toInt64 "month"
  let str := duckdbIntervalAppendUnit str days.toInt64 "day"
  let str :=
    if micros ≠ 0 then ((if str.2 then str.1 else str.1 ++ [32]) ++ signedTime micros, false)
    else str
  if str.2 then lit "00:00:00" else str.1

/-! ## Reading -/

/-- Read a number with a unit, if the words begin with one; nothing is zero. -/
def readUnit (unit : Bytes) : List Bytes → Option (Int × List Bytes)
  | number :: word :: rest =>
    if word = unit ∨ word = unit ++ [115] then
      (readInteger number).map fun value => (value, rest)
    else some (0, number :: word :: rest)
  | words => some (0, words)

/-- The number of two digits, below sixty. -/
def readSixtieth (tens ones : UInt8) : Option Nat :=
  if isDigit tens ∧ isDigit ones ∧ spelled [tens, ones] < 60 then some (spelled [tens, ones])
  else none

/-- Read six digits after a point, if there is one. -/
def readFraction : Bytes → Option Nat
  | [] => some 0
  | point :: digits =>
    if point = 46 ∧ digits.length = 6 ∧ digits.all isDigit = true then some (spelled digits)
    else none

/-- Read a time of the form `H:MM:SS[.ffffff]` as microseconds. -/
def readTime (word : Bytes) : Option Nat :=
  let hours := word.takeWhile isDigit
  if hours = [] then none
  else match word.dropWhile isDigit with
    | 58 :: m :: n :: 58 :: s :: t :: rest => do
      let minutes ← readSixtieth m n
      let seconds ← readSixtieth s t
      let fraction ← readFraction rest
      some (((spelled hours * 60 + minutes) * 60 + seconds) * 1000000 + fraction)
    | _ => none

/-- Read a time with its sign. -/
def readSignedTime (word : Bytes) : Option Int :=
  if word.head? = some 45 then (readTime word.tail).map fun micros : Nat => -(micros : Int)
  else (readTime word).map fun micros : Nat => (micros : Int)

/-- Read the time that is left of the words, if it is there. -/
def readLast : List Bytes → Option Int
  | [] => some 0
  | [word] => readSignedTime word
  | _ => none

/-- Read an interval: years, months and days, each if it is there, and a time if it is there. The
result is the months, the days and the microseconds. -/
def readInterval (text : Bytes) : Option (Int × Int × Int) :=
  (readUnit (lit "year") (text.splitOn 32)).bind fun years =>
    (readUnit (lit "month") years.2).bind fun months =>
      (readUnit (lit "day") months.2).bind fun days =>
        (readLast days.2).map fun micros => (years.1 * 12 + months.1, days.1, micros)

/-! ## Words -/

/-- What has been written after some words. -/
def written (words : List Bytes) : Bytes × Bool := ([32].intercalate words, words.isEmpty)

/-- One word more is written after a space, or first. -/
theorem written_concat (words : List Bytes) (word : Bytes) :
    written (words ++ [word]) =
      ((if (written words).2 then (written words).1 else (written words).1 ++ [32]) ++ word,
        false) := by
  induction words with
  | nil => simp [written, List.intercalate]
  | cons first rest ih =>
    cases rest with
    | nil => simp [written, List.intercalate]
    | cons second others =>
      have joined : ∀ tail, [32].intercalate (first :: second :: tail) =
          first ++ [32] ++ [32].intercalate (second :: tail) := by
        intro tail
        simp [List.intercalate]
      have earlier := congrArg Prod.fst ih
      simp only [written, List.isEmpty_cons, List.cons_append, joined] at earlier ⊢
      rw [earlier]
      simp

/-- The words of a number with its unit. -/
def unitWords (value : Int) (unit : String) : List Bytes :=
  if value = 0 then []
  else [signedDecimal value, lit unit ++ (if value ≠ 1 ∧ value ≠ -1 then [115] else [])]

/-- A number with its unit adds its words. -/
theorem appendUnit_written (words : List Bytes) (value : Int64) (unit : String) :
    duckdbIntervalAppendUnit (written words) value unit =
      written (words ++ unitWords value.toInt unit) := by
  have zero : value = 0 ↔ value.toInt = 0 := Int64.toInt_inj.symm
  have one : value = 1 ↔ value.toInt = 1 := Int64.toInt_inj.symm
  have minus : value = -1 ↔ value.toInt = -1 := Int64.toInt_inj.symm
  unfold duckdbIntervalAppendUnit unitWords
  by_cases none : value = 0
  · rw [if_pos none, if_pos (zero.mp none), List.append_nil]
  · have two : ∀ number word : Bytes, words ++ [number, word] = words ++ [number] ++ [word] := by
      intro number word
      rw [List.append_assoc]
      rfl
    rw [if_neg none, if_neg (mt zero.mpr none), two, written_concat, written_concat]
    simp only [ne_eq, one, minus, Bool.false_eq_true, if_false, List.append_assoc]

/-- The words that the text of an interval is made of. -/
def intervalWords (months days : Int32) (micros : Int64) : List Bytes :=
  unitWords (months.toInt.tdiv 12) "year" ++ unitWords (months.toInt.tmod 12) "month" ++
    unitWords days.toInt "day" ++ (if micros ≠ 0 then [signedTime micros] else [])

/-- The text of an interval is its words, or the zero time when there are none. -/
theorem intervalToString_words (months days : Int32) (micros : Int64) :
    intervalToString months days micros =
      if (intervalWords months days micros).isEmpty then lit "00:00:00"
      else [32].intercalate (intervalWords months days micros) := by
  have years : (months / 12).toInt64.toInt = months.toInt.tdiv 12 := by
    rw [Int32.toInt_toInt64, Int32.toInt_div_of_ne_right _ _ (by decide)]
    rfl
  have rest : (months % 12).toInt64.toInt = months.toInt.tmod 12 := by
    rw [Int32.toInt_toInt64, Int32.toInt_mod]
    rfl
  have day : days.toInt64.toInt = days.toInt := Int32.toInt_toInt64 days
  have start : (([], true) : Bytes × Bool) = written [] := rfl
  unfold intervalToString
  simp only [start, appendUnit_written, years, rest, day, List.nil_append]
  by_cases time : micros = 0
  · simp only [intervalWords, time, ne_eq, not_true_eq_false, if_false, List.append_nil]
    rfl
  · have concat := written_concat (unitWords (months.toInt.tdiv 12) "year" ++
      unitWords (months.toInt.tmod 12) "month" ++ unitWords days.toInt "day") (signedTime micros)
    have some_words : intervalWords months days micros =
        unitWords (months.toInt.tdiv 12) "year" ++ unitWords (months.toInt.tmod 12) "month" ++
          unitWords days.toInt "day" ++ [signedTime micros] := by
      rw [intervalWords, if_pos time]
    simp only [ne_eq, time, not_false_eq_true, if_true]
    rw [some_words]
    have nonempty : (unitWords (months.toInt.tdiv 12) "year" ++
        unitWords (months.toInt.tmod 12) "month" ++ unitWords days.toInt "day" ++
        [signedTime micros]).isEmpty = false := by simp
    rw [nonempty]
    exact (congrArg Prod.fst concat).symm

/-! ### No word has a space -/

/-- A word that holds no space. -/
def Spaceless (word : Bytes) : Prop := (32 : UInt8) ∉ word

/-- A word of digits has no space. -/
theorem spaceless_digits {word : Bytes} (digits : ∀ byte ∈ word, isDigit byte = true) :
    Spaceless word := by
  intro space
  exact absurd (digits 32 space) (by decide)

/-- Two words without spaces are one without spaces. -/
theorem spaceless_append {first second : Bytes} (one : Spaceless first) (two : Spaceless second) :
    Spaceless (first ++ second) := by
  intro space
  cases List.mem_append.mp space with
  | inl early => exact one early
  | inr late => exact two late

/-- A byte that is no space before a word. -/
theorem spaceless_cons {byte : UInt8} {word : Bytes} (other : byte ≠ 32) (rest : Spaceless word) :
    Spaceless (byte :: word) := by
  intro space
  cases List.mem_cons.mp space with
  | inl here => exact other here.symm
  | inr later => exact rest later

/-- Zeros and the digits behind them hold no space. -/
theorem spaceless_padding (count number : Nat) :
    Spaceless (List.replicate count 48 ++ decimal number) := by
  apply spaceless_append
  · intro space
    exact absurd (List.eq_of_mem_replicate space) (by decide)
  · exact spaceless_digits (decimal_digits number).2

/-- A padded number has no space, even when it has a sign. -/
theorem spaceless_zeroPadded (width : Nat) (number : Int) : Spaceless (zeroPadded width number) := by
  unfold zeroPadded
  by_cases negative : number < 0
  · rw [if_pos negative]
    exact spaceless_cons (by decide) (spaceless_padding _ _)
  · rw [if_neg negative]
    exact spaceless_padding _ _

/-- The text of a time has no space. -/
theorem spaceless_signedTime (micros : Int64) : Spaceless (signedTime micros) := by
  have time : ∀ micros, Spaceless (timeText micros) := by
    intro micros
    have whole : Spaceless (zeroPadded 2 (micros / 3600000000).toInt32.toInt ++
        58 :: zeroPadded 2 (micros / 60000000 % 60).toInt32.toInt ++
        58 :: zeroPadded 2 (micros / 1000000 % 60).toInt32.toInt) :=
      spaceless_append (spaceless_append (spaceless_zeroPadded _ _)
        (spaceless_cons (by decide) (spaceless_zeroPadded _ _)))
        (spaceless_cons (by decide) (spaceless_zeroPadded _ _))
    unfold timeText
    by_cases none : micros % 1000000 = 0
    · simp only [if_pos none]
      exact whole
    · simp only [if_neg none]
      exact spaceless_append whole (spaceless_cons (by decide) (spaceless_zeroPadded _ _))
  unfold signedTime
  by_cases negative : micros < 0
  · rw [if_pos negative]
    exact spaceless_cons (by decide) (time _)
  · rw [if_neg negative]
    exact time _

/-- A number and its unit have no spaces. -/
theorem spaceless_unitWords (value : Int) {unit : String} (plain : Spaceless (lit unit)) :
    ∀ word ∈ unitWords value unit, Spaceless word := by
  intro word inside
  unfold unitWords at inside
  by_cases zero : value = 0
  · rw [if_pos zero] at inside
    cases inside
  · rw [if_neg zero] at inside
    cases List.mem_cons.mp inside with
    | inl number =>
      rw [number, signedDecimal]
      by_cases negative : value < 0
      · rw [if_pos negative]
        exact spaceless_cons (by decide) (spaceless_digits (decimal_digits _).2)
      · rw [if_neg negative]
        exact spaceless_digits (decimal_digits _).2
    | inr name =>
      rw [List.mem_singleton.mp name]
      apply spaceless_append plain
      by_cases several : value ≠ 1 ∧ value ≠ -1
      · rw [if_pos several]
        exact spaceless_cons (by decide) List.not_mem_nil
      · rw [if_neg several]
        exact List.not_mem_nil

/-- The words of an interval have no spaces. -/
theorem spaceless_intervalWords (months days : Int32) (micros : Int64) :
    ∀ word ∈ intervalWords months days micros, Spaceless word := by
  intro word inside
  rw [intervalWords, List.mem_append, List.mem_append, List.mem_append] at inside
  rcases inside with ((year | month) | day) | time
  · exact spaceless_unitWords _ (by decide : (32 : UInt8) ∉ lit "year") word year
  · exact spaceless_unitWords _ (by decide : (32 : UInt8) ∉ lit "month") word month
  · exact spaceless_unitWords _ (by decide : (32 : UInt8) ∉ lit "day") word day
  · by_cases some : micros ≠ 0
    · rw [if_pos some] at time
      rw [List.mem_singleton.mp time]
      exact spaceless_signedTime micros
    · rw [if_neg some] at time
      cases time

/-- The words are read from the text. -/
theorem split_words (months days : Int32) (micros : Int64) :
    (intervalToString months days micros).splitOn 32 =
      if (intervalWords months days micros).isEmpty then [lit "00:00:00"]
      else intervalWords months days micros := by
  rw [intervalToString_words]
  cases empty : (intervalWords months days micros).isEmpty with
  | true => rfl
  | false =>
    rw [if_neg Bool.false_ne_true, if_neg Bool.false_ne_true]
    apply List.splitOn_intercalate
    · exact spaceless_intervalWords months days micros
    · intro none
      rw [none] at empty
      cases empty

/-! ## Numbers with units -/

/-- No number with this unit comes first. -/
def Clear (unit : Bytes) (words : List Bytes) : Prop :=
  ∀ number word rest, words = number :: word :: rest → word ≠ unit ∧ word ≠ unit ++ [115]

/-- Words that begin with no such number are left. -/
theorem readUnit_clear {unit : Bytes} {words : List Bytes} (clear : Clear unit words) :
    readUnit unit words = some (0, words) := by
  match words with
  | [] => rfl
  | [_] => rfl
  | number :: word :: rest =>
    obtain ⟨single, several⟩ := clear number word rest rfl
    rw [readUnit, if_neg]
    intro named
    cases named with
    | inl one => exact single one
    | inr many => exact several many

/-- A number with its unit is read back. -/
theorem readUnit_words (value : Int) {unit : String} {rest : List Bytes}
    (clear : Clear (lit unit) rest) :
    readUnit (lit unit) (unitWords value unit ++ rest) = some (value, rest) := by
  unfold unitWords
  by_cases zero : value = 0
  · rw [if_pos zero, List.nil_append, zero]
    exact readUnit_clear clear
  · have named : lit unit ++ (if value ≠ 1 ∧ value ≠ -1 then [115] else []) = lit unit ∨
        lit unit ++ (if value ≠ 1 ∧ value ≠ -1 then [115] else []) = lit unit ++ [115] := by
      by_cases several : value ≠ 1 ∧ value ≠ -1
      · rw [if_pos several]
        exact Or.inr rfl
      · rw [if_neg several]
        exact Or.inl (List.append_nil _)
    rw [if_neg zero]
    show readUnit (lit unit) (signedDecimal value :: _ :: rest) = _
    rw [readUnit, if_pos named, readInteger_signedDecimal]
    rfl

/-- Words of another unit, or fewer than two, are clear. -/
theorem clear_unitWords {unit : Bytes} {value : Int} {other : String} {rest : List Bytes}
    (single : lit other ≠ unit ∧ lit other ≠ unit ++ [115])
    (several : lit other ++ [115] ≠ unit ∧ lit other ++ [115] ≠ unit ++ [115])
    (clear : Clear unit rest) : Clear unit (unitWords value other ++ rest) := by
  unfold unitWords
  by_cases zero : value = 0
  · rw [if_pos zero]
    exact clear
  · rw [if_neg zero]
    intro number word others same
    obtain ⟨-, same⟩ := List.cons.inj same
    obtain ⟨name, -⟩ := List.cons.inj same
    rw [← name]
    by_cases many : value ≠ 1 ∧ value ≠ -1
    · rw [if_pos many]
      exact several
    · rw [if_neg many, List.append_nil]
      exact single

/-- A word by itself is clear of the unit. -/
theorem clear_short (unit : Bytes) {words : List Bytes} (short : words.length ≤ 1) :
    Clear unit words := by
  intro number word rest same
  rw [same, List.length_cons, List.length_cons] at short
  omega

/-- The months, days and the time of the words of an interval. -/
theorem readInterval_words {months days : Int} {last : List Bytes} {text : Bytes}
    (words : text.splitOn 32 = unitWords (months.tdiv 12) "year" ++
      unitWords (months.tmod 12) "month" ++ unitWords days "day" ++ last)
    (short : last.length ≤ 1) :
    readInterval text = (readLast last).map fun micros => (months, days, micros) := by
  have three := clear_short (lit "day") short
  have two : Clear (lit "month") (unitWords days "day" ++ last) :=
    clear_unitWords (by decide) (by decide) (clear_short _ short)
  have one : Clear (lit "year") (unitWords (months.tmod 12) "month" ++
      (unitWords days "day" ++ last)) :=
    clear_unitWords (by decide) (by decide)
      (clear_unitWords (by decide) (by decide) (clear_short _ short))
  have total : months.tdiv 12 * 12 + months.tmod 12 = months := by
    rw [Int.mul_comm]
    exact Int.mul_tdiv_add_tmod months 12
  rw [readInterval, words, List.append_assoc, List.append_assoc, readUnit_words _ one,
    Option.bind_some, readUnit_words _ two, Option.bind_some, readUnit_words _ three,
    Option.bind_some, total]

/-! ## Times -/

/-- Padding a number that is not negative. -/
theorem zeroPadded_natural (width : Nat) (number : Nat) :
    zeroPadded width number =
      List.replicate (width - (decimal number).length) 48 ++ decimal number := by
  rw [zeroPadded, if_neg (Int.not_lt.mpr (Int.natCast_nonneg number)), Int.natAbs_natCast]

/-- Padding a small number gives its last digits. -/
theorem zeroPadded_last (width : Nat) {number : Nat} (some : 0 < width) (small : number < 10 ^ width) :
    zeroPadded width number = lastBytes width number := by
  rw [zeroPadded_natural, lastBytes, lastDigits_padded (by decide) some small, List.map_append,
    List.map_replicate, decimal, List.length_map]
  rfl

/-- The time of a number of microseconds. -/
def clock (micros : Nat) : Bytes :=
  zeroPadded 2 (micros / 3600000000 : Nat) ++ 58 :: (lastBytes 2 (micros / 60000000 % 60) ++
    58 :: (lastBytes 2 (micros / 1000000 % 60) ++
      if micros % 1000000 = 0 then [] else 46 :: lastBytes 6 (micros % 1000000)))

/-- The cast to an `int` keeps a number that is small enough. -/
theorem toInt32_natural {number : Int64} {value : Nat} (same : number.toInt = value)
    (small : value < 2 ^ 31) : number.toInt32.toInt = value := by
  rw [Int64.toInt_toInt32, same]
  apply Int.bmod_eq_of_le
  · show -(4294967296 / 2) ≤ (value : Int)
    omega
  · show (value : Int) < (4294967296 + 1) / 2
    omega

/-- The quotient of a number that is not negative. -/
theorem quotient_natural {number divisor : Int64} {value by_ : Nat} (same : number.toInt = value)
    (divided : divisor.toInt = by_) (large : 1 < by_) : (number / divisor).toInt = (value / by_ : Nat) := by
  have positive : divisor ≠ -1 := by
    intro minus
    have wrong : divisor.toInt = -1 := by rw [minus]; rfl
    omega
  rw [Int64.toInt_div_of_ne_right _ _ positive, same, divided]
  exact Int.ofNat_tdiv value by_

/-- The remainder of a number that is not negative. -/
theorem remainder_natural {number divisor : Int64} {value by_ : Nat} (same : number.toInt = value)
    (divided : divisor.toInt = by_) : (number % divisor).toInt = (value % by_ : Nat) := by
  rw [Int64.toInt_mod, same, divided]
  exact Int.ofNat_tmod value by_

/-- A number of microseconds whose hours fit an `int` is written as its time. -/
theorem timeText_clock {micros : Int64} {value : Nat} (same : micros.toInt = value)
    (small : value < 7730941132800000000) : timeText micros = clock value := by
  have hours : (micros / 3600000000).toInt32.toInt = (value / 3600000000 : Nat) :=
    toInt32_natural (quotient_natural same rfl (by decide)) (by omega)
  have minutes : (micros / 60000000 % 60).toInt32.toInt = (value / 60000000 % 60 : Nat) :=
    toInt32_natural (remainder_natural (quotient_natural same rfl (by decide)) rfl) (by omega)
  have seconds : (micros / 1000000 % 60).toInt32.toInt = (value / 1000000 % 60 : Nat) :=
    toInt32_natural (remainder_natural (quotient_natural same rfl (by decide)) rfl) (by omega)
  have rest : (micros % 1000000).toInt = (value % 1000000 : Nat) := remainder_natural same rfl
  have fraction : (micros % 1000000).toInt32.toInt = (value % 1000000 : Nat) :=
    toInt32_natural rest (by omega)
  have none : micros % 1000000 = 0 ↔ value % 1000000 = 0 := by
    rw [← Int64.toInt_inj, rest]
    show ((value % 1000000 : Nat) : Int) = 0 ↔ _
    omega
  have minute := zeroPadded_last 2 (by decide)
    (show value / 60000000 % 60 < 100 by omega)
  have second := zeroPadded_last 2 (by decide)
    (show value / 1000000 % 60 < 100 by omega)
  have micro := zeroPadded_last 6 (by decide) (show value % 1000000 < 1000000 by omega)
  unfold timeText clock
  simp only [hours, minutes, seconds, fraction, none, minute, second, micro]
  by_cases zero : value % 1000000 = 0
  · simp only [if_pos zero, List.append_assoc, List.cons_append, List.append_nil]
  · simp only [if_neg zero, List.append_assoc, List.cons_append]

/-- Hours past the largest `int` are written as a negative number. -/
theorem timeText_negative {micros : Int64} {value : Nat} (same : micros.toInt = value)
    (large : 7730941132800000000 ≤ value) (bound : value < 2 ^ 63) :
    ∃ rest, timeText micros = 45 :: rest := by
  have hours : (micros / 3600000000).toInt = (value / 3600000000 : Nat) :=
    quotient_natural same rfl (by decide)
  have wraps : (micros / 3600000000).toInt32.toInt < 0 := by
    rw [Int64.toInt_toInt32, hours, Int.bmod_def]
    show (if ((value / 3600000000 : Nat) : Int) % 4294967296 < (4294967296 + 1) / 2 then
      ((value / 3600000000 : Nat) : Int) % 4294967296 else
      ((value / 3600000000 : Nat) : Int) % 4294967296 - 4294967296) < 0
    rw [if_neg (by omega)]
    omega
  unfold timeText zeroPadded
  simp only [if_pos wraps]
  by_cases zero : micros % 1000000 = 0
  · rw [if_pos zero]
    exact ⟨_, rfl⟩
  · rw [if_neg zero]
    exact ⟨_, rfl⟩

/-- Two digits below sixty are read as the number. -/
theorem lastBytes_sixtieth {number : Nat} (small : number < 60) :
    ∃ tens ones, lastBytes 2 number = [tens, ones] ∧ readSixtieth tens ones = some number := by
  have length : (lastBytes 2 number).length = 2 := by rw [lastBytes, List.length_map,
    lastDigits_length]
  obtain ⟨tens, ones, same⟩ := List.length_eq_two.mp length
  have digits := lastBytes_digits 2 number
  have value := spelled_lastBytes 2 number
  rw [same] at digits value
  refine ⟨tens, ones, same, ?_⟩
  rw [readSixtieth, if_pos, value, Nat.mod_eq_of_lt (by omega)]
  refine ⟨digits tens List.mem_cons_self, digits ones (by simp), ?_⟩
  rw [value]
  omega

/-- A time is read as its microseconds. -/
theorem readTime_clock (value : Nat) : readTime (clock value) = some value := by
  have digits : ∀ byte ∈ zeroPadded 2 (value / 3600000000 : Nat), isDigit byte = true := by
    intro byte inside
    rw [zeroPadded_natural] at inside
    cases List.mem_append.mp inside with
    | inl zero =>
      rw [List.eq_of_mem_replicate zero]
      decide
    | inr digit => exact (decimal_digits _).2 byte digit
  have nonempty : zeroPadded 2 (value / 3600000000 : Nat) ≠ [] := by
    rw [zeroPadded_natural]
    exact List.append_ne_nil_of_right_ne_nil _ (decimal_digits _).1
  have hours : spelled (zeroPadded 2 (value / 3600000000 : Nat)) = value / 3600000000 := by
    rw [zeroPadded_natural, spelled_zeros, spelled_decimal]
  obtain ⟨m, n, minute, minutes⟩ := lastBytes_sixtieth (show value / 60000000 % 60 < 60 by omega)
  obtain ⟨s, t, second, seconds⟩ := lastBytes_sixtieth (show value / 1000000 % 60 < 60 by omega)
  have taken : ∀ rest, (zeroPadded 2 (value / 3600000000 : Nat) ++ 58 :: rest).takeWhile isDigit =
      zeroPadded 2 (value / 3600000000 : Nat) := by
    intro rest
    rw [List.takeWhile_append_of_pos digits]
    exact List.append_nil _
  have left : ∀ rest, (zeroPadded 2 (value / 3600000000 : Nat) ++ 58 :: rest).dropWhile isDigit =
      58 :: rest := by
    intro rest
    rw [List.dropWhile_append_of_pos digits]
    rfl
  have joined : ((value / 3600000000 * 60 + value / 60000000 % 60) * 60 +
      value / 1000000 % 60) * 1000000 + value % 1000000 = value := by omega
  have fraction : readFraction (if value % 1000000 = 0 then []
      else 46 :: lastBytes 6 (value % 1000000)) = some (value % 1000000) := by
    by_cases zero : value % 1000000 = 0
    · rw [if_pos zero, zero]
      rfl
    · have six : (lastBytes 6 (value % 1000000)).length = 6 := by
        rw [lastBytes, List.length_map, lastDigits_length]
      have spells := spelled_lastBytes 6 (value % 1000000)
      rw [Nat.mod_eq_of_lt (by omega : value % 1000000 < 10 ^ 6)] at spells
      rw [if_neg zero, readFraction, if_pos, spells]
      exact ⟨rfl, six, List.all_eq_true.mpr (lastBytes_digits _ _)⟩
  unfold clock
  rw [minute, second, readTime, taken, if_neg nonempty, left]
  show ((readSixtieth m n).bind fun minutes => (readSixtieth s t).bind fun seconds =>
    (readFraction (if value % 1000000 = 0 then []
      else 46 :: lastBytes 6 (value % 1000000))).bind fun fraction =>
      some (((spelled _ * 60 + minutes) * 60 + seconds) * 1000000 + fraction)) = _
  rw [minutes, Option.bind_some, seconds, Option.bind_some, fraction, Option.bind_some, hours,
    joined]

/-- The time of an interval is read back exactly when its hours fit an `int`. -/
theorem readSignedTime_exact (micros : Int64) :
    readSignedTime (signedTime micros) = some micros.toInt ↔
      -7730941132800000000 < micros.toInt ∧ micros.toInt < 7730941132800000000 := by
  have low := micros.le_toInt
  have high := micros.toInt_lt
  by_cases negative : micros < 0
  · have sign : micros.toInt < 0 := Int64.lt_iff_toInt_lt.mp negative
    rw [signedTime, if_pos negative]
    by_cases least : micros = Int64.minValue
    · -- The smallest number is its own negation.
      rw [least]
      decide +kernel
    · have above : micros.toInt ≠ -(2 ^ 63) := by
        intro same
        apply least
        rw [← Int64.toInt_inj, same]
        rfl
      have magnitude : (-micros).toInt = (micros.toInt.natAbs : Int) := by
        rw [Int64.toInt_neg]
        have value : (micros.toInt.natAbs : Int) = -micros.toInt := by omega
        rw [value]
        apply Int.bmod_eq_of_le
        · show -(18446744073709551616 / 2) ≤ -micros.toInt
          omega
        · show -micros.toInt < (18446744073709551616 + 1) / 2
          omega
      by_cases small : micros.toInt.natAbs < 7730941132800000000
      · rw [timeText_clock magnitude small]
        apply iff_of_true
        · rw [readSignedTime, if_pos List.head?_cons, List.tail_cons, readTime_clock,
            Option.map_some]
          congr 1
          omega
        · omega
      · obtain ⟨rest, text⟩ := timeText_negative magnitude (by omega) (by omega)
        rw [text]
        apply iff_of_false
        · exact nofun
        · omega
  · have sign : 0 ≤ micros.toInt := by
      apply Int.not_lt.mp
      exact fun minus => negative (Int64.lt_iff_toInt_lt.mpr minus)
    have magnitude : micros.toInt = (micros.toInt.natAbs : Int) := by omega
    rw [signedTime, if_neg negative]
    by_cases small : micros.toInt.natAbs < 7730941132800000000
    · rw [timeText_clock magnitude small]
      have unsigned : (clock micros.toInt.natAbs).head? ≠ some 45 := by
        intro minus
        have read := readTime_clock micros.toInt.natAbs
        cases text : clock micros.toInt.natAbs with
        | nil =>
          rw [text] at minus
          cases minus
        | cons byte rest =>
          rw [text] at minus read
          rw [Option.some.inj minus] at read
          cases read
      apply iff_of_true
      · rw [readSignedTime, if_neg unsigned, readTime_clock, Option.map_some]
        congr 1
        omega
      · omega
    · obtain ⟨rest, text⟩ := timeText_negative magnitude (by omega) (by omega)
      rw [text]
      apply iff_of_false
      · intro read
        obtain ⟨value, -, same⟩ := Option.map_eq_some_iff.mp read
        omega
      · omega

/-! ## The contract -/

/-- The text is read as the reader of its time reads that; without microseconds there is none. -/
theorem readInterval_text (months days : Int32) (micros : Int64) :
    readInterval (intervalToString months days micros) =
      (if micros = 0 then some 0 else readSignedTime (signedTime micros)).map fun read =>
        (months.toInt, days.toInt, read) := by
  have split := split_words months days micros
  by_cases time : micros = 0
  · rw [if_pos time]
    cases empty : (intervalWords months days micros).isEmpty with
    | true =>
      -- Nothing but zeros: the text is a time.
      rw [empty, if_pos rfl] at split
      have none := List.isEmpty_iff.mp empty
      rw [intervalWords, List.append_eq_nil_iff, List.append_eq_nil_iff,
        List.append_eq_nil_iff] at none
      obtain ⟨⟨⟨years, rest⟩, day⟩, -⟩ := none
      have words : (intervalToString months days micros).splitOn 32 =
          unitWords (months.toInt.tdiv 12) "year" ++ unitWords (months.toInt.tmod 12) "month" ++
            unitWords days.toInt "day" ++ [lit "00:00:00"] := by
        rw [split, years, rest, day]
        rfl
      exact readInterval_words words (Nat.le_refl 1)
    | false =>
      rw [empty, if_neg Bool.false_ne_true, intervalWords, if_neg (not_not_intro time)] at split
      exact readInterval_words split (Nat.zero_le 1)
  · have some_words : (intervalWords months days micros).isEmpty = false := by
      rw [intervalWords, if_pos time]
      simp
    rw [some_words, if_neg Bool.false_ne_true, intervalWords, if_pos time] at split
    rw [if_neg time]
    exact readInterval_words split (Nat.le_refl 1)

/-- The text of an interval denotes exactly its three components. -/
def TextDenotes (months days : Int32) (micros : Int64) : Prop :=
  readInterval (intervalToString months days micros) =
    some (months.toInt, days.toInt, micros.toInt)

/-- The text of an interval denotes its components exactly when its hours fit an `int`; so two such
intervals with the same text are the same. -/
theorem interval_text (months days : Int32) (micros : Int64) :
    (TextDenotes months days micros ↔
      -7730941132800000000 < micros.toInt ∧ micros.toInt < 7730941132800000000) ∧
    ∀ otherMonths otherDays otherMicros,
      (-7730941132800000000 < micros.toInt ∧ micros.toInt < 7730941132800000000) →
      (-7730941132800000000 < otherMicros.toInt ∧ otherMicros.toInt < 7730941132800000000) →
      intervalToString months days micros = intervalToString otherMonths otherDays otherMicros →
      months = otherMonths ∧ days = otherDays ∧ micros = otherMicros := by
  have denotes : ∀ months days micros, TextDenotes months days micros ↔
      -7730941132800000000 < micros.toInt ∧ micros.toInt < 7730941132800000000 := by
    intro months days micros
    rw [TextDenotes, readInterval_text]
    by_cases zero : micros = 0
    · rw [if_pos zero, zero]
      exact iff_of_true rfl (by decide)
    · rw [if_neg zero, ← readSignedTime_exact, Option.map_eq_some_iff]
      constructor
      · intro ⟨read, found, same⟩
        rw [found, (Prod.mk.inj (Prod.mk.inj same).2).2]
      · intro found
        exact ⟨_, found, rfl⟩
  refine ⟨denotes months days micros, ?_⟩
  intro otherMonths otherDays otherMicros small otherSmall same
  have first := (denotes months days micros).mpr small
  have second := (denotes otherMonths otherDays otherMicros).mpr otherSmall
  rw [TextDenotes, same] at first
  have components := Option.some.inj (first.symm.trans second)
  obtain ⟨month, rest⟩ := Prod.mk.inj components
  obtain ⟨day, micro⟩ := Prod.mk.inj rest
  exact ⟨Int32.toInt_inj.mp month, Int32.toInt_inj.mp day, Int64.toInt_inj.mp micro⟩

/-- An interval of 2147483648 hours has a text that denotes another interval. -/
theorem longHours_misread : ¬TextDenotes 0 0 7730941132800000000 := by
  intro denotes
  have within := (readSignedTime_exact 7730941132800000000).mp
  rw [TextDenotes, readInterval_text, if_neg (by decide)] at denotes
  obtain ⟨read, found, same⟩ := Option.map_eq_some_iff.mp denotes
  rw [(Prod.mk.inj (Prod.mk.inj same).2).2] at found
  exact absurd (within found) (by decide)

end PhpDuckdb.Value
