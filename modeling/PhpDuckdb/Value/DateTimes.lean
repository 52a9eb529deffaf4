import PhpDuckdb.Value.Obstacles

/-!
# Dates are bound as instants

A date becomes a TIMESTAMP of its epoch seconds in microseconds and its microseconds. The sum is
computed in 64 bits, so an instant that does not fit becomes another one; lists and STRUCTs carry
it along.
-/

namespace PhpDuckdb.Value

open SqlText

/-- The microseconds since the epoch of an instant. -/
def instant (time : Int64 × Int64) : Int := time.1.toInt * 10 ^ 6 + time.2.toInt

/-- A number that a TIMESTAMP can hold. -/
def Fits (micros : Int) : Prop := -(2 ^ 63) ≤ micros ∧ micros < 2 ^ 63

mutual

/-- Every date that is a leaf of a value is an instant that fits. -/
def Zval.DatesFit : Zval → Prop
  | .dateTime (some time) => Fits (instant time)
  | .array elements => elements.DatesFit
  | .reference target => target.DatesFit
  | _ => True

/-- Every date in the elements of an array fits. -/
def Elements.DatesFit : Elements → Prop
  | .nil => True
  | .cons _ value rest => value.DatesFit ∧ rest.DatesFit

end

mutual

/-- A DuckDB value holds the instant of every date at its place. -/
def Zval.DatesHeld : Zval → DuckValue → Prop
  | .dateTime (some time), built =>
    ∃ micros, built = .timestamp micros ∧ micros.toInt = instant time
  | .array elements, built =>
    match built with
    | .list _ children => elements.DatesHeld children
    | .struct _ children => elements.DatesHeld children
    | _ => False
  | _, _ => True

/-- The values of elements hold their dates. -/
def Elements.DatesHeld : Elements → List DuckValue → Prop
  | .nil, children => children = []
  | .cons _ value rest, children =>
    ∃ first others, children = first :: others ∧ value.DatesHeld first ∧ rest.DatesHeld others

end

/-- The sum is the instant when that fits, and only then. -/
theorem timestamp_instant (time : Int64 × Int64) :
    (time.1 * 1000000 + time.2).toInt = instant time ↔ Fits (instant time) := by
  have low := (time.1 * 1000000 + time.2).le_toInt
  have high := (time.1 * 1000000 + time.2).toInt_lt
  have wraps : (time.1 * 1000000 + time.2).toInt = (instant time).bmod (2 ^ 64) := by
    rw [Int64.toInt_add, Int64.toInt_mul, Int.bmod_add_bmod]
    rfl
  constructor
  · intro same
    rw [same] at low high
    exact ⟨low, high⟩
  · intro fits
    rw [wraps]
    apply Int.bmod_eq_of_le
    · show -(18446744073709551616 / 2) ≤ instant time
      have below := fits.1
      omega
    · show instant time < (18446744073709551616 + 1) / 2
      have above := fits.2
      omega

/-! ## Lists and STRUCTs -/

/-- One more element that holds its dates when they fit. -/
theorem datesHeld_cons {key : Key} {value : Zval} {rest : Elements} {first : DuckValue}
    {others : List DuckValue} (here : value.DatesHeld first ↔ value.DatesFit)
    (there : rest.DatesHeld others ↔ rest.DatesFit) :
    (Elements.cons key value rest).DatesHeld (first :: others) ↔
      (Elements.cons key value rest).DatesFit := by
  rw [Elements.DatesHeld, Elements.DatesFit, ← here, ← there]
  constructor
  · intro ⟨head, tail, same, held, later⟩
    obtain ⟨rfl, rfl⟩ := List.cons.inj same
    exact ⟨held, later⟩
  · intro ⟨held, later⟩
    exact ⟨first, others, rfl, held, later⟩

section

variable {convert : Zval → Except (Option Thrown) DuckValue}
  (exactly : ∀ value built, convert value = .ok built → (value.DatesHeld built ↔ value.DatesFit))

include exactly

/-- The elements of a list hold the dates that fit. -/
theorem convertElements_dates {child : LogicalType} {elements : Elements} {index : Nat}
    {children : List DuckValue}
    (converted : convertElements convert child index elements = .ok children) :
    elements.DatesHeld children ↔ elements.DatesFit := by
  match elements, converted with
  | .nil, converted =>
    obtain rfl := Except.ok.inj converted
    exact iff_of_true rfl trivial
  | .cons key value rest, converted =>
    obtain ⟨first, made, later⟩ := Outcome.bind_eq_ok.mp converted
    obtain ⟨-, later⟩ := Outcome.ite_error_eq_ok.mp later
    obtain ⟨others, tail, same⟩ := Outcome.bind_eq_ok.mp later
    obtain rfl := Except.ok.inj same
    exact datesHeld_cons (exactly value first made) (convertElements_dates tail)

/-- The members of a STRUCT hold the dates that fit. -/
theorem convertMembers_dates {infer : Zval → Except Thrown (Option LogicalType)}
    {elements : Elements} {members : Members} {children : List DuckValue}
    (converted : convertMembers infer convert elements = .ok (members, children)) :
    elements.DatesHeld children ↔ elements.DatesFit := by
  match elements, converted with
  | .nil, converted =>
    obtain ⟨-, rfl⟩ := Outcome.ok_pair converted
    exact iff_of_true rfl trivial
  | .cons key value rest, converted =>
    rw [convertMembers] at converted
    dsimp only at converted
    split at converted
    · cases converted
    · cases converted
    · obtain ⟨first, made, later⟩ := Outcome.bind_eq_ok.mp converted
      obtain ⟨⟨names, others⟩, tail, same⟩ := Outcome.bind_eq_ok.mp later
      obtain ⟨-, rfl⟩ := Outcome.ok_pair same
      exact datesHeld_cons (exactly value first made) (convertMembers_dates tail)

end

section Contract

variable {makesVarchar : Bytes → Bool}

/-- Conversion at any depth holds the dates of a value exactly when they fit. -/
theorem depth_dates {room : Nat} {value : Zval} {built : DuckValue}
    (converted : duckdbPhpToDuckdbValueDepth makesVarchar room value = .ok built) :
    value.DatesHeld built ↔ value.DatesFit := by
  induction room generalizing value built with
  | zero => cases converted
  | succ room ih =>
    cases value with
    | array elements =>
      simp only [duckdbPhpToDuckdbValueDepth] at converted
      split at converted
      · -- A list: its elements are all that can hold a date.
        unfold duckdbPhpArrayToListValue at converted
        obtain ⟨-, converted⟩ := Outcome.ite_error_eq_ok.mp converted
        dsimp only at converted
        split at converted
        · cases converted
        · cases converted
        · obtain ⟨children, made, same⟩ := Outcome.bind_eq_ok.mp converted
          obtain rfl := Except.ok.inj same
          exact convertElements_dates (fun _ _ => ih) made
      · obtain ⟨⟨members, children⟩, made, same⟩ := Outcome.bind_eq_ok.mp converted
        obtain rfl := Except.ok.inj same
        exact convertMembers_dates (fun _ _ => ih) made
    | dateTime time =>
      cases time with
      | none => cases converted
      | some time =>
        obtain rfl := Except.ok.inj converted
        have sum := timestamp_instant time
        constructor
        · intro given
          obtain ⟨micros, same, held⟩ := given
          rw [← DuckValue.timestamp.inj same] at held
          exact sum.mp held
        · intro fits
          exact ⟨_, rfl, sum.mpr fits⟩
    | null | bool | long | double | string | interval => exact iff_of_true trivial trivial
    | value | object | resource | reference => cases converted

/-! ## The contract -/

variable (makesVarchar)

/-- What a caller relies on of the dates in a value. -/
structure BindsDates (value : Zval) : Prop where
  /-- What is built holds the instant of every date at its place. -/
  held : ∀ built, duckdbPhpToDuckdbValue makesVarchar value = .ok built → value.DatesHeld built
  /-- An instant that does not fit is refused with an exception. -/
  refused : ¬value.DatesFit →
    ∃ thrown, duckdbPhpToDuckdbValue makesVarchar value = .error (some thrown)

/-- Dates are bound exactly or refused exactly when they all fit, or when something else stands in
the way of the conversion, the first of which leaves an exception: a date that does not fit is none
of these. -/
theorem dates_bound (value : Zval) :
    BindsDates makesVarchar value ↔ value.DatesFit ∨
      ∃ obstacle, (value.obstacles makesVarchar (maxNestingDepth + 1)).head? = some obstacle ∧
        obstacle.silent = false := by
  have ends : EndsBy (duckdbPhpToDuckdbValue makesVarchar value) _ :=
    depth_obstacles (maxNestingDepth + 1) value
  cases met : value.obstacles makesVarchar (maxNestingDepth + 1) with
  | nil =>
    obtain ⟨built, converted⟩ := ends.clear met
    have exactly := depth_dates converted
    constructor
    · intro binds
      exact .inl (exactly.mp (binds.held built converted))
    · rintro (fits | ⟨obstacle, never, -⟩)
      · constructor
        · intro other made
          obtain rfl := Except.ok.inj (converted.symm.trans made)
          exact exactly.mpr fits
        · exact fun misfit => absurd fits misfit
      · cases never
  | cons first rest =>
    obtain ⟨pending, stopped, silent⟩ := ends.stopped first rest met
    have nothing : ∀ built, duckdbPhpToDuckdbValue makesVarchar value = .ok built →
        value.DatesHeld built := fun built made => nomatch stopped.symm.trans made
    constructor
    · intro binds
      by_cases fits : value.DatesFit
      · exact .inl fits
      · obtain ⟨thrown, loud⟩ := binds.refused fits
        refine .inr ⟨first, rfl, ?_⟩
        rw [← Bool.not_eq_true, ← silent]
        rintro rfl
        cases stopped.symm.trans loud
    · rintro (fits | ⟨obstacle, same, loud⟩)
      · exact ⟨nothing, fun misfit => absurd fits misfit⟩
      · obtain rfl := Option.some.inj same
        refine ⟨nothing, fun _ => ?_⟩
        cases pending with
        | none =>
          rw [silent.mp rfl] at loud
          cases loud
        | some thrown => exact ⟨thrown, stopped⟩

end Contract

/-- A date in the year 294247. -/
def lateDate : Zval := .dateTime (some (9223372036855, 0))

/-- The late date is bound as another instant, also where DuckDB makes a value of every text. -/
theorem lateDate_wraps : ¬BindsDates everyText lateDate := by
  intro binds
  obtain ⟨micros, same, held⟩ := binds.held (.timestamp (-9223372036854551616)) rfl
  rw [← DuckValue.timestamp.inj same] at held
  exact absurd held (by decide)

end PhpDuckdb.Value
