import PhpDuckdb.Value.Inference

/-!
# What stands in the way of a conversion

A conversion stops at the first thing in its value that it cannot convert. `Zval.obstacles` lists
all of them in the order of the conversion, by the shape of the value and the types that are
inferred in it; `depth_obstacles` says that a value converts exactly when there are none, and
otherwise whether the first one leaves an exception.
-/

namespace PhpDuckdb.Value

open SqlText

/-- Something in a value that the plain conversion stops at. -/
inductive Obstacle
  /-- A value that is nested too deeply. -/
  | tooDeep
  /-- A text of which DuckDB makes no value. -/
  | refusedText
  /-- A DateTimeInterface whose constructor was bypassed. -/
  | uninitializedDate
  /-- An object that is no Interval or DateTimeInterface, a resource or a PHP reference. -/
  | unsupported
  /-- An empty array. -/
  | emptyList
  /-- A list in which no element that is not NULL comes first with a type. -/
  | untypedList
  /-- An element of a list that has another type than the first one. -/
  | otherType
  /-- A member of a STRUCT that has no type. -/
  | untypedMember
  deriving DecidableEq, Repr

/-- Conversion stops at the obstacle without an exception. -/
def Obstacle.silent : Obstacle → Bool
  | .refusedText | .untypedMember => true
  | _ => false

/-- The type of a member of a STRUCT. -/
def memberType (room : Nat) (value : Zval) : Except Thrown (Option LogicalType) :=
  if value.isNull then .ok (some (plainType .varchar)) else duckdbPhpInferLogicalType room value

/-- An element of a list is NULL or of its element type. -/
def fitsType (room : Nat) (child : LogicalType) (value : Zval) : Bool :=
  value.isNull ||
    match duckdbPhpInferLogicalType room value with
    | .ok (some type) => logicalTypesEqual child type
    | _ => false

section Depth

variable (makesVarchar : Bytes → Bool)

/-- The obstacles in a value, in the order in which conversion comes to them. `room` is how many
levels of nesting are left. -/
def Zval.obstacles : Nat → Zval → List Obstacle
  | 0, _ => [.tooDeep]
  | room + 1, it =>
    match it with
    | .null | .bool _ | .long _ | .double _ | .interval _ _ _ => []
    | .string text => if makesVarchar text then [] else [.refusedText]
    | .dateTime time => if time.isSome then [] else [.uninitializedDate]
    | .value _ _ | .object _ | .resource | .reference _ => [.unsupported]
    | .array elements =>
      if elements.isList then
        match elements.firstNonNull with
        | none => [if elements.count = 0 then .emptyList else .untypedList]
        | some element =>
          match duckdbPhpInferLogicalType room element with
          | .error _ => [.tooDeep]
          | .ok none => [.untypedList]
          | .ok (some child) =>
            elements.toList.flatMap fun entry =>
              entry.2.obstacles room ++ if fitsType room child entry.2 then [] else [.otherType]
      else
        elements.toList.flatMap fun entry =>
          match memberType room entry.2 with
          | .error _ => [.tooDeep]
          | .ok none => [.untypedMember]
          | .ok (some _) => entry.2.obstacles room

/-! ## The end of a conversion -/

/-- A conversion succeeds without obstacles, and otherwise ends as the first one says. -/
structure EndsBy {α : Type} (result : Except (Option Thrown) α) (obstacles : List Obstacle) :
    Prop where
  /-- It succeeds. -/
  clear : obstacles = [] → ∃ value, result = .ok value
  /-- It stops, without an exception when the first obstacle is silent. -/
  stopped : ∀ first rest, obstacles = first :: rest →
    ∃ pending, result = .error pending ∧ (pending = none ↔ first.silent = true)

/-- A value that is made met no obstacle. -/
theorem endsBy_ok {α : Type} (value : α) : EndsBy (.ok value) [] :=
  ⟨fun _ => ⟨value, rfl⟩, nofun⟩

/-- An obstacle that is come to first and leaves an exception. -/
theorem endsBy_thrown {α : Type} {obstacle : Obstacle} (loud : obstacle.silent = false)
    (thrown : Thrown) (rest : List Obstacle) :
    EndsBy (.error (some thrown) : Except (Option Thrown) α) (obstacle :: rest) := by
  refine ⟨nofun, fun first others same => ⟨_, rfl, ?_⟩⟩
  obtain ⟨rfl, -⟩ := List.cons.inj same
  simp [loud]

/-- An obstacle that is come to first and leaves none. -/
theorem endsBy_silent {α : Type} {obstacle : Obstacle} (silent : obstacle.silent = true)
    (rest : List Obstacle) :
    EndsBy (.error none : Except (Option Thrown) α) (obstacle :: rest) := by
  refine ⟨nofun, fun first others same => ⟨_, rfl, ?_⟩⟩
  obtain ⟨rfl, -⟩ := List.cons.inj same
  simp [silent]

variable {α β : Type} {result : Except (Option Thrown) α} {next : α → Except (Option Thrown) β}
  {obstacles others : List Obstacle}

/-- One conversion after another ends by the first obstacle of both. -/
theorem EndsBy.bind (ends : EndsBy result obstacles)
    (later : ∀ value, result = .ok value → EndsBy (next value) others) :
    EndsBy (result >>= next) (obstacles ++ others) := by
  cases obstacles with
  | nil =>
    obtain ⟨value, made⟩ := ends.clear rfl
    have further := later value made
    rw [made]
    exact further
  | cons first rest =>
    obtain ⟨pending, stopped, silent⟩ := ends.stopped first rest rfl
    rw [stopped]
    refine ⟨nofun, fun head tail same => ⟨pending, rfl, ?_⟩⟩
    obtain ⟨rfl, -⟩ := List.cons.inj same
    exact silent

/-- What is made of a converted value. -/
theorem EndsBy.map (ends : EndsBy result obstacles) (make : α → β) :
    EndsBy (result >>= fun value => .ok (make value)) obstacles := by
  have whole : EndsBy (result >>= fun value => .ok (make value)) (obstacles ++ []) :=
    ends.bind fun value _ => endsBy_ok (make value)
  rwa [List.append_nil] at whole

/-- A conversion succeeds exactly when nothing stands in its way. -/
theorem EndsBy.ok_iff (ends : EndsBy result obstacles) :
    (∃ value, result = .ok value) ↔ obstacles = [] := by
  refine ⟨fun ⟨value, made⟩ => ?_, ends.clear⟩
  cases obstacles with
  | nil => rfl
  | cons first rest =>
    obtain ⟨pending, stopped, -⟩ := ends.stopped first rest rfl
    cases made.symm.trans stopped

/-- A conversion stops without an exception exactly when its first obstacle is silent. -/
theorem EndsBy.silent_iff (ends : EndsBy result obstacles) :
    result = .error none ↔ ∃ first, obstacles.head? = some first ∧ first.silent = true := by
  cases obstacles with
  | nil =>
    obtain ⟨value, made⟩ := ends.clear rfl
    simp [made]
  | cons first rest =>
    obtain ⟨pending, stopped, silent⟩ := ends.stopped first rest rfl
    simp [stopped, silent]

/-! ## Lists and STRUCTs -/

/-- The elements of a list end by their first obstacle, a mismatch of types included. -/
theorem convertElements_endsBy {convert : Zval → Except (Option Thrown) DuckValue}
    {obstacles : Zval → List Obstacle} {child : LogicalType} {fits : Zval → Bool}
    (each : ∀ value, EndsBy (convert value) (obstacles value))
    (typed : ∀ value built, convert value = .ok built →
      fits value = (value.isNull || logicalTypesEqual child built.type)) :
    ∀ index elements, EndsBy (convertElements convert child index elements)
      (elements.toList.flatMap fun entry =>
        obstacles entry.2 ++ if fits entry.2 then [] else [.otherType])
  | _, .nil => endsBy_ok []
  | index, .cons key value rest => by
    rw [convertElements, Elements.toList, List.flatMap_cons, List.append_assoc (obstacles value)]
    refine (each value).bind fun built made => ?_
    have mismatch : (!value.isNull && !logicalTypesEqual child built.type) = !fits value := by
      rw [typed value built made, Bool.not_or]
    rw [mismatch]
    cases fits value with
    | true => exact (convertElements_endsBy each typed (index + 1) rest).map _
    | false => exact endsBy_thrown rfl _ _

variable {makesVarchar}

/-- The members of a STRUCT end by their first obstacle. -/
theorem convertMembers_endsBy {room : Nat}
    (each : ∀ value : Zval, EndsBy (duckdbPhpToDuckdbValueDepth makesVarchar room value)
      (value.obstacles makesVarchar room)) :
    ∀ elements, EndsBy
      (convertMembers (duckdbPhpInferLogicalType room)
        (duckdbPhpToDuckdbValueDepth makesVarchar room) elements)
      (elements.toList.flatMap fun entry =>
        match memberType room entry.2 with
        | .error _ => [.tooDeep]
        | .ok none => [.untypedMember]
        | .ok (some _) => entry.2.obstacles makesVarchar room)
  | .nil => endsBy_ok (Members.nil, [])
  | .cons key value rest => by
    rw [convertMembers, Elements.toList, List.flatMap_cons]
    have folded : (if value.isNull then .ok (some (plainType .varchar))
        else duckdbPhpInferLogicalType room value) = memberType room value := rfl
    dsimp only
    rw [folded]
    cases memberType room value with
    | error thrown => exact endsBy_thrown rfl thrown _
    | ok found =>
      cases found with
      | none => exact endsBy_silent rfl _
      | some type =>
        exact (each value).bind fun built _ => (convertMembers_endsBy each rest).map _

/-- A list ends by the obstacles of its type and then of its elements. -/
theorem arrayToListValue_endsBy {room : Nat}
    (each : ∀ value : Zval, EndsBy (duckdbPhpToDuckdbValueDepth makesVarchar room value)
      (value.obstacles makesVarchar room))
    (elements : Elements) (list : elements.isList = true) :
    EndsBy (duckdbPhpArrayToListValue (duckdbPhpInferLogicalType room)
      (duckdbPhpToDuckdbValueDepth makesVarchar room) elements)
      ((Zval.array elements).obstacles makesVarchar (room + 1)) := by
  have typed : ∀ child value built,
      duckdbPhpToDuckdbValueDepth makesVarchar room value = .ok built →
      fitsType room child value = (value.isNull || logicalTypesEqual child built.type) := by
    intro child value built made
    rw [fitsType]
    cases null : value.isNull with
    | true => rfl
    | false => rw [(depth_builds made).inferred null]
  unfold duckdbPhpArrayToListValue
  simp only [Zval.obstacles, list, if_true]
  by_cases empty : elements.count = 0
  · have none_left : elements.firstNonNull = none := by
      cases elements with
      | nil => rfl
      | cons key value rest => cases empty
    rw [if_pos empty, none_left]
    simp only [if_pos empty]
    exact endsBy_thrown rfl _ _
  · rw [if_neg empty]
    cases elements.firstNonNull with
    | none =>
      simp only [if_neg empty]
      exact endsBy_thrown rfl _ _
    | some element =>
      dsimp only
      cases duckdbPhpInferLogicalType room element with
      | error thrown => exact endsBy_thrown rfl _ _
      | ok found =>
        cases found with
        | none => exact endsBy_thrown rfl _ _
        | some child => exact (convertElements_endsBy each (typed child) 0 elements).map _

/-- A conversion ends by the obstacles in its value. -/
theorem depth_obstacles (room : Nat) (value : Zval) :
    EndsBy (duckdbPhpToDuckdbValueDepth makesVarchar room value)
      (value.obstacles makesVarchar room) := by
  induction room generalizing value with
  | zero => exact endsBy_thrown rfl _ _
  | succ room ih =>
    cases value with
    | array elements =>
      cases list : elements.isList with
      | true =>
        simp only [duckdbPhpToDuckdbValueDepth, list, if_true]
        exact arrayToListValue_endsBy ih elements list
      | false =>
        simp only [duckdbPhpToDuckdbValueDepth, Zval.obstacles, list]
        exact (convertMembers_endsBy ih elements).map _
    | dateTime time =>
      cases time with
      | none => exact endsBy_thrown rfl _ _
      | some time => exact endsBy_ok _
    | string text =>
      simp only [duckdbPhpToDuckdbValueDepth, Zval.obstacles, duckdbCreateVarcharLength]
      cases makesVarchar text with
      | true => exact endsBy_ok _
      | false => exact endsBy_silent rfl _
    | null | bool | long | double | interval => exact endsBy_ok _
    | value | object | resource | reference => exact endsBy_thrown rfl _ _

end Depth

end PhpDuckdb.Value
