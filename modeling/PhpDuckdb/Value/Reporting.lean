import PhpDuckdb.Value.Handles
import PhpDuckdb.Value.Obstacles

/-!
# Failures of conversion are reported

Conversion leaves no handle behind but that of its result. It should also leave a PHP exception
whenever it returns no value; it does so exactly when the first obstacle in the value is no silent
one: a member of a STRUCT whose type cannot be inferred and for which inference throws nothing, or a
text of which DuckDB makes no value.
-/

namespace PhpDuckdb.Value

open SqlText Allocation

/-! ## Handles do not change what is computed -/

/-- A handle is of what it was made for. -/
theorem made_returns {α : Type} (it : α) : Returns (made it) fun owned => owned.it = it :=
  Returns.after fun _ => returns_pure rfl

/-- Members that compare equal are as many. -/
theorem membersEqual_count : ∀ {first second : Members},
    membersEqual first second = true → first.count = second.count
  | .nil, .nil, _ => rfl
  | .cons _ _ _, .cons _ _ _, same => by
    rw [membersEqual, Bool.and_eq_true] at same
    exact congrArg (· + 1) (membersEqual_count same.2)

mutual

/-- Comparing types over handles returns what the pure comparison does. -/
theorem typesEqual_returns : ∀ first second,
    Returns (typesEqual first second) fun same => same = logicalTypesEqual first second
  | .list first, second => by
    cases second with
    | list second =>
      refine Returns.after fun _ => Returns.after fun _ => ?_
      refine (typesEqual_returns first second).bind fun same is => ?_
      exact Returns.after fun _ => Returns.after fun _ => returns_pure (by rw [is, logicalTypesEqual])
    | _ => exact returns_pure rfl
  | .array first size, second => by
    cases second with
    | array second other =>
      rw [typesEqual]
      split
      · rename_i different
        exact returns_pure (by simp [logicalTypesEqual, different])
      · rename_i same_size
        refine Returns.after fun _ => Returns.after fun _ => ?_
        refine (typesEqual_returns first second).bind fun same is => ?_
        refine Returns.after fun _ => Returns.after fun _ => returns_pure ?_
        rw [is, logicalTypesEqual]
        simp [not_not.mp same_size]
    | _ => exact returns_pure rfl
  | .struct first, second => by
    cases second with
    | struct second =>
      have equal : logicalTypesEqual (.struct first) (.struct second) = membersEqual first second := by
        rw [logicalTypesEqual]
      rw [typesEqual, equal]
      split
      · rename_i different
        refine returns_pure ?_
        cases same : membersEqual first second with
        | false => rfl
        | true => exact absurd (membersEqual_count same) different
      · rename_i counted
        exact structsEqual_returns first second (not_not.mp counted)
    | _ => exact returns_pure rfl
  | .plain _ _, second => by cases second <;> exact returns_pure rfl
  | .decimal _ _, second => by cases second <;> exact returns_pure rfl
  | .enum _, second => by cases second <;> exact returns_pure rfl
  | .geometry _, second => by cases second <;> exact returns_pure rfl
  | .map _ _, second => by cases second <;> exact returns_pure rfl
  | .union _, second => by cases second <;> exact returns_pure rfl

/-- Comparing members over handles returns what the pure comparison does. -/
theorem structsEqual_returns : ∀ first second, first.count = second.count →
    Returns (structsEqual first second) fun same => same = membersEqual first second
  | .nil, .nil, _ => returns_pure rfl
  | .cons name type rest, .cons other second others, counted => by
    rw [structsEqual, membersEqual]
    split
    · rename_i different
      exact returns_pure (by simp [different])
    · rename_i names
      refine Returns.after fun _ => Returns.after fun _ => ?_
      refine (typesEqual_returns type second).bind fun same is => ?_
      refine Returns.after fun _ => Returns.after fun _ => ?_
      subst is
      rw [decide_eq_true (not_not.mp names), Bool.true_and]
      cases logicalTypesEqual type second with
      | true => exact structsEqual_returns rest others (Nat.succ.inj counted)
      | false => exact returns_pure rfl

end

/-! ### Inference -/

/-- What inference returns without its handle. -/
def InferredType.erase (result : InferredType) : Except Thrown (Option LogicalType) :=
  result.map (Option.map Owned.it)

/-- The type of a member over handles is that of the pure inference. -/
theorem memberType_returns {infer : Zval → Program InferredType}
    {plain : Zval → Except Thrown (Option LogicalType)}
    (each : ∀ value, Returns (infer value) fun result => result.erase = plain value) (value : Zval) :
    Returns (if value.isNull then do
        let varchar ← made (plainType .varchar)
        pure (.ok (some varchar))
      else infer value) fun result : InferredType => result.erase =
        if value.isNull then .ok (some (plainType .varchar)) else plain value := by
  split
  · refine (made_returns _).bind fun varchar is => returns_pure ?_
    rw [← is]
    rfl
  · exact each value

/-- The loop over the members of an array over handles. -/
theorem memberTypes_returns {infer : Zval → Program InferredType}
    {plain : Zval → Except Thrown (Option LogicalType)}
    (each : ∀ value, Returns (infer value) fun result => result.erase = plain value) :
    ∀ elements, Returns (memberTypes infer elements) fun result =>
      result.2 = inferMembers plain elements
  | .nil => returns_pure rfl
  | .cons key value rest => by
    rw [memberTypes, inferMembers]
    refine (memberType_returns each value).bind fun result erased => ?_
    rw [← erased]
    cases result with
    | error thrown => exact returns_pure rfl
    | ok found =>
      cases found with
      | none => exact returns_pure rfl
      | some type =>
        refine (memberTypes_returns each rest).bind fun result others => returns_pure ?_
        obtain ⟨handles, members⟩ := result
        dsimp only at others
        subst others
        cases inferMembers plain rest <;> rfl

/-- A plain type over handles is that of the pure inference. -/
theorem inferredPlain_returns (id : TypeId) :
    Returns (inferredPlain id) fun result => result.erase = .ok (some (plainType id)) := by
  refine (made_returns _).bind fun type is => returns_pure ?_
  rw [← is]
  rfl

/-- Inference over handles returns what the pure inference does. -/
theorem inferType_returns (room : Nat) (value : Zval) :
    Returns (inferType room value) fun result =>
      result.erase = duckdbPhpInferLogicalType room value := by
  induction room generalizing value with
  | zero => exact returns_pure rfl
  | succ room ih =>
    cases value with
    | array elements =>
      simp only [inferType, duckdbPhpInferLogicalType]
      split
      · exact returns_pure rfl
      · split
        · cases elements.firstNonNull with
          | none => exact returns_pure rfl
          | some element =>
            dsimp only
            refine (ih element).bind fun result erased => ?_
            rw [← erased]
            cases result with
            | error thrown => exact returns_pure rfl
            | ok found =>
              cases found with
              | none => exact returns_pure rfl
              | some child =>
                refine (made_returns _).bind fun list is => Returns.after fun _ => returns_pure ?_
                rw [InferredType.erase, Except.map, Option.map, is]
                rfl
        · refine (memberTypes_returns ih elements).bind fun result others => ?_
          obtain ⟨handles, members⟩ := result
          rw [← show members = _ from others]
          cases members with
          | error thrown => exact Returns.after fun _ => returns_pure rfl
          | ok found =>
            cases found with
            | none => exact Returns.after fun _ => returns_pure rfl
            | some members =>
              refine (made_returns _).bind fun result is => Returns.after fun _ => returns_pure ?_
              rw [InferredType.erase, Except.map, Option.map, is]
              rfl
    | bool | long | double | string | interval | dateTime => exact inferredPlain_returns _
    | null | value | object | resource | reference => exact returns_pure rfl

/-! ### Conversion -/

/-- What conversion returns without its handle. -/
def ConvertedValue.erase (result : ConvertedValue) : Except (Option Thrown) DuckValue :=
  result.map Owned.it

/-- The loop over the elements of a list over handles. -/
theorem elementValues_returns {convert : Zval → Program ConvertedValue}
    {plain : Zval → Except (Option Thrown) DuckValue}
    (each : ∀ value, Returns (convert value) fun result => result.erase = plain value)
    (child : LogicalType) : ∀ index elements,
      Returns (elementValues convert child index elements) fun result =>
        result.2 = convertElements plain child index elements
  | _, .nil => returns_pure rfl
  | index, .cons key value rest => by
    rw [elementValues, convertElements]
    refine (each value).bind fun result erased => ?_
    rw [← erased]
    cases result with
    | error pending => exact returns_pure rfl
    | ok element =>
      have compared : Returns (if value.isNull then pure true
          else typesEqual child element.it.type) fun same =>
            same = (value.isNull || logicalTypesEqual child element.it.type) := by
        cases value.isNull with
        | true => exact returns_pure rfl
        | false => exact typesEqual_returns child element.it.type
      refine compared.bind fun same is => ?_
      have guard : (!value.isNull && !logicalTypesEqual child element.it.type) = !same := by
        rw [is, Bool.not_or]
      have bound : ∀ next : DuckValue → Except (Option Thrown) (List DuckValue),
          (ConvertedValue.erase (.ok element) >>= next) = next element.it := fun _ => rfl
      rw [bound, guard]
      cases same with
      | false => exact returns_pure rfl
      | true =>
        refine (elementValues_returns each child (index + 1) rest).bind fun result others =>
          returns_pure ?_
        obtain ⟨handles, children⟩ := result
        dsimp only at others
        subst others
        cases convertElements plain child (index + 1) rest <;> rfl

/-- Converting a list over handles returns what the pure conversion does. -/
theorem listValue_returns {infer : Zval → Program InferredType}
    {plainType : Zval → Except Thrown (Option LogicalType)}
    {convert : Zval → Program ConvertedValue} {plain : Zval → Except (Option Thrown) DuckValue}
    (types : ∀ value, Returns (infer value) fun result => result.erase = plainType value)
    (each : ∀ value, Returns (convert value) fun result => result.erase = plain value)
    (elements : Elements) : Returns (listValue infer convert elements) fun result =>
      result.erase = duckdbPhpArrayToListValue plainType plain elements := by
  unfold listValue duckdbPhpArrayToListValue
  split
  · exact returns_pure rfl
  · cases elements.firstNonNull with
    | none => exact returns_pure rfl
    | some element =>
      refine (types element).bind fun result erased => ?_
      dsimp only
      rw [← erased]
      cases result with
      | error thrown => exact returns_pure rfl
      | ok found =>
        cases found with
        | none => exact returns_pure rfl
        | some child =>
          refine (elementValues_returns each child.it 0 elements).bind fun result others => ?_
          obtain ⟨handles, children⟩ := result
          dsimp only at others ⊢
          have bound : InferredType.erase (.ok (some child)) = .ok (some child.it) := rfl
          rw [bound]
          dsimp only
          rw [← others]
          cases children with
          | error pending => exact Returns.after fun _ => Returns.after fun _ => returns_pure rfl
          | ok children =>
            refine (made_returns _).bind fun list is => ?_
            refine Returns.after fun _ => Returns.after fun _ => returns_pure ?_
            rw [ConvertedValue.erase, Except.map, is]
            rfl

/-- The loop over the members of a STRUCT over handles. -/
theorem memberValues_returns {infer : Zval → Program InferredType}
    {plainType : Zval → Except Thrown (Option LogicalType)}
    {convert : Zval → Program ConvertedValue} {plain : Zval → Except (Option Thrown) DuckValue}
    (types : ∀ value, Returns (infer value) fun result => result.erase = plainType value)
    (each : ∀ value, Returns (convert value) fun result => result.erase = plain value) :
    ∀ elements, Returns (memberValues infer convert elements) fun result =>
      result.2 = convertMembers plainType plain elements
  | .nil => returns_pure rfl
  | .cons key value rest => by
    rw [memberValues, convertMembers]
    refine (memberType_returns types value).bind fun result erased => ?_
    dsimp only
    rw [← erased]
    cases result with
    | error thrown => exact returns_pure rfl
    | ok found =>
      cases found with
      | none => exact returns_pure rfl
      | some type =>
        refine (each value).bind fun result erased => ?_
        have bound : InferredType.erase (.ok (some type)) = .ok (some type.it) := rfl
        rw [bound]
        dsimp only
        rw [← erased]
        cases result with
        | error pending => exact returns_pure rfl
        | ok child =>
          refine (memberValues_returns types each rest).bind fun result others => returns_pure ?_
          obtain ⟨handles, members⟩ := result
          dsimp only at others
          subst others
          cases convertMembers plainType plain rest <;> rfl

/-- Converting a STRUCT over handles returns what the pure conversion does. -/
theorem structValue_returns {infer : Zval → Program InferredType}
    {plainType : Zval → Except Thrown (Option LogicalType)}
    {convert : Zval → Program ConvertedValue} {plain : Zval → Except (Option Thrown) DuckValue}
    (types : ∀ value, Returns (infer value) fun result => result.erase = plainType value)
    (each : ∀ value, Returns (convert value) fun result => result.erase = plain value)
    (elements : Elements) : Returns (structValue infer convert elements) fun result =>
      result.erase = (do
        let (members, children) ← convertMembers plainType plain elements
        .ok (.struct members children)) := by
  refine (memberValues_returns types each elements).bind fun result others => ?_
  obtain ⟨handles, members⟩ := result
  rw [← show members = _ from others]
  cases members with
  | error pending => exact Returns.after fun _ => returns_pure rfl
  | ok members =>
    refine Returns.after fun _ => (made_returns _).bind fun value is => ?_
    refine Returns.after fun _ => Returns.after fun _ => returns_pure ?_
    rw [ConvertedValue.erase, Except.map, is]
    rfl

/-- A value that is made over handles. -/
theorem converted_returns (value : DuckValue) :
    Returns (converted value) fun result => result.erase = .ok value := by
  refine (made_returns _).bind fun value is => returns_pure ?_
  rw [ConvertedValue.erase, Except.map, is]

/-- A constructor that may make no value over handles. -/
theorem convertedIf_returns (value : Except (Option Thrown) DuckValue) :
    Returns (convertedIf value) fun result => result.erase = value := by
  cases value with
  | error pending => exact returns_pure rfl
  | ok value => exact converted_returns value

section Depth

variable (makesVarchar : Bytes → Bool)

/-- Conversion over handles returns what the pure conversion does. -/
theorem convertValue_returns (room : Nat) (value : Zval) :
    Returns (convertValue makesVarchar room value) fun result =>
      result.erase = duckdbPhpToDuckdbValueDepth makesVarchar room value := by
  induction room generalizing value with
  | zero => exact returns_pure rfl
  | succ room ih =>
    cases value with
    | array elements =>
      simp only [convertValue, duckdbPhpToDuckdbValueDepth]
      split
      · exact listValue_returns (inferType_returns room) ih elements
      · exact structValue_returns (inferType_returns room) ih elements
    | dateTime time => exact convertedIf_returns _
    | string text => exact convertedIf_returns _
    | null | bool | long | double | interval => exact converted_returns _
    | value | object | resource | reference => exact returns_pure rfl

/-! ## No handle is left behind -/

/-- The handle of what inference returns. -/
def InferredType.held : InferredType → List Nat
  | .ok (some type) => [type.handle]
  | _ => []

/-- The handle of what conversion returns. -/
def ConvertedValue.held : ConvertedValue → List Nat
  | .ok value => [value.handle]
  | .error _ => []

/-- Making a handle adds it to those that are held. -/
theorem made_triple {α : Type} (it : α) (held : List Nat) :
    Triple held (made it) fun owned => owned.handle :: held :=
  (triple_create held).bind fun _ => triple_pure rfl

/-- Comparing the child types of two types destroys them. -/
theorem children_triple {compare : Program Bool} (compares : Triple [] compare fun _ => []) :
    Triple [] (do
      let ca ← create
      let cb ← create
      let same ← compare
      destroy cb
      destroy ca
      pure same) fun _ => [] := by
  refine (triple_create []).bind fun ca => (triple_create [ca]).bind fun cb => ?_
  refine (compares.frame [cb, ca]).bind fun same => ?_
  refine (triple_destroy cb [ca]).bind fun _ => (triple_destroy ca []).bind fun _ => ?_
  exact triple_pure rfl

mutual

/-- Comparing two types destroys every child type that it asks for. -/
theorem typesEqual_triple : ∀ first second, Triple [] (typesEqual first second) fun _ => []
  | .list first, second => by
    cases second with
    | list second => exact children_triple (typesEqual_triple first second)
    | _ => exact triple_pure rfl
  | .array first size, second => by
    cases second with
    | array second other =>
      rw [typesEqual]
      split
      · exact triple_pure rfl
      · exact children_triple (typesEqual_triple first second)
    | _ => exact triple_pure rfl
  | .struct first, second => by
    cases second with
    | struct second =>
      rw [typesEqual]
      split
      · exact triple_pure rfl
      · exact structsEqual_triple first second
    | _ => exact triple_pure rfl
  | .plain _ _, second => by cases second <;> exact triple_pure rfl
  | .decimal _ _, second => by cases second <;> exact triple_pure rfl
  | .enum _, second => by cases second <;> exact triple_pure rfl
  | .geometry _, second => by cases second <;> exact triple_pure rfl
  | .map _ _, second => by cases second <;> exact triple_pure rfl
  | .union _, second => by cases second <;> exact triple_pure rfl

/-- Comparing the members of two types destroys every child type that it asks for. -/
theorem structsEqual_triple : ∀ first second, Triple [] (structsEqual first second) fun _ => []
  | .nil, second => by cases second <;> exact triple_pure rfl
  | .cons _ _ _, .nil => triple_pure rfl
  | .cons name type rest, .cons other second others => by
    rw [structsEqual]
    split
    · exact triple_pure rfl
    · refine (triple_create []).bind fun ca => (triple_create [ca]).bind fun cb => ?_
      refine ((typesEqual_triple type second).frame [cb, ca]).bind fun same => ?_
      refine (triple_destroy cb [ca]).bind fun _ => (triple_destroy ca []).bind fun _ => ?_
      split
      · exact structsEqual_triple rest others
      · exact triple_pure rfl

end

/-- Destroying all handles leaves none of them. -/
theorem destroysAll (handles : List Nat) : Triple handles (destroyAll handles) fun _ => [] :=
  (triple_destroyAll handles []).given (by rw [List.append_nil])

/-- Destroying all handles but one leaves it. -/
theorem destroysAll_keeping (handles : List Nat) (kept : Nat) :
    Triple (kept :: handles) (destroyAll handles) fun _ => [kept] :=
  (triple_destroyAll handles [kept]).given (List.perm_append_singleton _ _).symm

/-- The type of a member is left. -/
theorem memberType_triple {infer : Zval → Program InferredType}
    (each : ∀ value, Triple [] (infer value) InferredType.held) (value : Zval) :
    Triple [] (if value.isNull then do
        let varchar ← made (plainType .varchar)
        pure (.ok (some varchar))
      else infer value) InferredType.held := by
  split
  · exact (made_triple _ []).bind fun _ => triple_pure rfl
  · exact each value

/-- The loop over the members of an array leaves their types. -/
theorem memberTypes_triple {infer : Zval → Program InferredType}
    (each : ∀ value, Triple [] (infer value) InferredType.held) :
    ∀ elements, Triple [] (memberTypes infer elements) Prod.fst
  | .nil => triple_pure rfl
  | .cons key value rest => by
    rw [memberTypes]
    refine (memberType_triple each value).bind fun result => ?_
    match result with
    | .error thrown => exact triple_pure rfl
    | .ok none => exact triple_pure rfl
    | .ok (some type) =>
      refine ((memberTypes_triple each rest).frame [type.handle]).bind fun result => ?_
      exact (triple_pure rfl).given (List.perm_append_singleton _ _)

/-- Inference leaves the handle of its result. -/
theorem inferType_triple (room : Nat) (value : Zval) :
    Triple [] (inferType room value) InferredType.held := by
  induction room generalizing value with
  | zero => exact triple_pure rfl
  | succ room ih =>
    cases value with
    | array elements =>
      simp only [inferType]
      split
      · exact triple_pure rfl
      · split
        · split
          · exact triple_pure rfl
          · refine (ih _).bind fun result => ?_
            match result with
            | .error thrown => exact triple_pure rfl
            | .ok none => exact triple_pure rfl
            | .ok (some child) =>
              refine (made_triple _ [child.handle]).bind fun list => ?_
              refine ((triple_destroy child.handle [list.handle]).given
                (List.Perm.swap _ _ _)).bind fun _ => triple_pure rfl
        · refine (memberTypes_triple ih elements).bind fun result => ?_
          obtain ⟨handles, members⟩ := result
          match members with
          | .error thrown => exact (destroysAll handles).bind fun _ => triple_pure rfl
          | .ok none => exact (destroysAll handles).bind fun _ => triple_pure rfl
          | .ok (some members) =>
            refine (made_triple _ handles).bind fun result => ?_
            refine (destroysAll_keeping handles result.handle).bind fun _ => triple_pure rfl
    | bool | long | double | string | interval | dateTime =>
      exact (made_triple _ []).bind fun _ => triple_pure rfl
    | null | value | object | resource | reference => exact triple_pure rfl

/-- The loop over the elements of a list leaves the children. -/
theorem elementValues_triple {convert : Zval → Program ConvertedValue}
    (each : ∀ value, Triple [] (convert value) ConvertedValue.held) (child : LogicalType) :
    ∀ index elements, Triple [] (elementValues convert child index elements) Prod.fst
  | _, .nil => triple_pure rfl
  | index, .cons key value rest => by
    rw [elementValues]
    refine (each value).bind fun result => ?_
    match result with
    | .error pending => exact triple_pure rfl
    | .ok element =>
      have compared : Triple [] (if value.isNull then pure true
          else typesEqual child element.it.type) fun _ => [] := by
        split
        · exact triple_pure rfl
        · exact typesEqual_triple child element.it.type
      refine (compared.frame [element.handle]).bind fun same => ?_
      split
      · refine ((elementValues_triple each child (index + 1) rest).frame [element.handle]).bind
          fun result => ?_
        exact (triple_pure rfl).given (List.perm_append_singleton _ _)
      · exact triple_pure rfl

/-- A list leaves the handle of its result. -/
theorem listValue_triple {infer : Zval → Program InferredType}
    {convert : Zval → Program ConvertedValue}
    (types : ∀ value, Triple [] (infer value) InferredType.held)
    (each : ∀ value, Triple [] (convert value) ConvertedValue.held) (elements : Elements) :
    Triple [] (listValue infer convert elements) ConvertedValue.held := by
  unfold listValue
  split
  · exact triple_pure rfl
  · refine Triple.bind (?_ : Triple [] _ InferredType.held) fun result => ?_
    · split
      · exact triple_pure rfl
      · exact types _
    cases result with
    | error thrown => exact triple_pure rfl
    | ok found =>
      cases found with
      | none => exact triple_pure rfl
      | some child =>
        refine ((elementValues_triple each child.it 0 elements).frame [child.handle]).bind
          fun result => ?_
        obtain ⟨handles, children⟩ := result
        cases children with
        | error pending =>
          refine (triple_destroyAll handles [child.handle]).bind fun _ => ?_
          exact (triple_destroy child.handle []).bind fun _ => triple_pure rfl
        | ok children =>
          refine (made_triple _ (handles ++ [child.handle])).bind fun list => ?_
          refine ((triple_destroyAll handles [child.handle, list.handle]).given ?_).bind fun _ => ?_
          · simpa using (List.perm_append_singleton list.handle (handles ++ [child.handle])).symm
          · exact (triple_destroy child.handle [list.handle]).bind fun _ => triple_pure rfl

/-- The loop over the members of a STRUCT leaves their types and the children. -/
theorem memberValues_triple {infer : Zval → Program InferredType}
    {convert : Zval → Program ConvertedValue}
    (types : ∀ value, Triple [] (infer value) InferredType.held)
    (each : ∀ value, Triple [] (convert value) ConvertedValue.held) :
    ∀ elements, Triple [] (memberValues infer convert elements) Prod.fst
  | .nil => triple_pure rfl
  | .cons key value rest => by
    rw [memberValues]
    refine (memberType_triple types value).bind fun result => ?_
    match result with
    | .error thrown => exact triple_pure rfl
    | .ok none => exact triple_pure rfl
    | .ok (some type) =>
      refine ((each value).frame [type.handle]).bind fun result => ?_
      match result with
      | .error pending => exact triple_pure rfl
      | .ok child =>
        refine ((memberValues_triple types each rest).frame [child.handle, type.handle]).bind
          fun result => ?_
        exact (triple_pure rfl).given (List.perm_append_comm.trans (List.Perm.swap _ _ _))

/-- A STRUCT leaves the handle of its result. -/
theorem structValue_triple {infer : Zval → Program InferredType}
    {convert : Zval → Program ConvertedValue}
    (types : ∀ value, Triple [] (infer value) InferredType.held)
    (each : ∀ value, Triple [] (convert value) ConvertedValue.held) (elements : Elements) :
    Triple [] (structValue infer convert elements) ConvertedValue.held := by
  refine (memberValues_triple types each elements).bind fun result => ?_
  obtain ⟨handles, members⟩ := result
  match members with
  | .error pending => exact (destroysAll handles).bind fun _ => triple_pure rfl
  | .ok (members, children) =>
    refine (triple_create handles).bind fun type => (made_triple _ (type :: handles)).bind fun value => ?_
    refine ((triple_destroy type (value.handle :: handles)).given (List.Perm.swap _ _ _)).bind
      fun _ => ?_
    exact (destroysAll_keeping handles value.handle).bind fun _ => triple_pure rfl

/-- A constructor that may make no value leaves the handle of its result. -/
theorem convertedIf_triple (value : Except (Option Thrown) DuckValue) :
    Triple [] (convertedIf value) ConvertedValue.held := by
  cases value with
  | error pending => exact triple_pure rfl
  | ok value => exact (made_triple _ []).bind fun _ => triple_pure rfl

/-- Conversion leaves the handle of its result. -/
theorem convertValue_triple (room : Nat) (value : Zval) :
    Triple [] (convertValue makesVarchar room value) ConvertedValue.held := by
  induction room generalizing value with
  | zero => exact triple_pure rfl
  | succ room ih =>
    cases value with
    | array elements =>
      simp only [convertValue]
      split
      · exact listValue_triple (inferType_triple room) ih elements
      · exact structValue_triple (inferType_triple room) ih elements
    | dateTime time => exact convertedIf_triple _
    | string text => exact convertedIf_triple _
    | null | bool | long | double | interval =>
      exact (made_triple _ []).bind fun _ => triple_pure rfl
    | value | object | resource | reference => exact triple_pure rfl

end Depth

/-! ## The contract -/

section Contract

variable (makesVarchar : Bytes → Bool)

/-- `duckdb_php_to_duckdb_value` from an empty heap, with the handles it leaves. -/
def phpToDuckdbValue (value : Zval) : ConvertedValue × Heap :=
  (convertValue makesVarchar (maxNestingDepth + 1) value).run Heap.empty

/-- What a caller of the conversion relies on: every failure is an exception, and no handle is left.
-/
structure Reports (value : Zval) : Prop where
  /-- A null handle is returned exactly when a PHP exception is pending. -/
  reported : (∃ pending, (phpToDuckdbValue makesVarchar value).1 = .error pending) ↔
    ∃ thrown, (phpToDuckdbValue makesVarchar value).1 = .error (some thrown)
  /-- After a failure every handle that was made was destroyed once. -/
  destroyed : ∀ pending, (phpToDuckdbValue makesVarchar value).1 = .error pending →
    ∀ handle, (phpToDuckdbValue makesVarchar value).2.log.count (.destroy handle) =
      if handle < (phpToDuckdbValue makesVarchar value).2.next then 1 else 0

/-- Conversion reports its failures exactly when the first obstacle that it comes to, if there is
one, is no silent one. -/
theorem conversion_reports (value : Zval) :
    Reports makesVarchar value ↔
      ∀ obstacle, (value.obstacles makesVarchar (maxNestingDepth + 1)).head? = some obstacle →
        obstacle.silent = false := by
  have erased := convertValue_returns makesVarchar (maxNestingDepth + 1) value Heap.empty
  change (phpToDuckdbValue makesVarchar value).1.erase = _ at erased
  have silent : (phpToDuckdbValue makesVarchar value).1 = .error none ↔
      ∃ first, (value.obstacles makesVarchar (maxNestingDepth + 1)).head? = some first ∧
        first.silent = true := by
    rw [← (depth_obstacles (maxNestingDepth + 1) value).silent_iff, ← erased]
    cases (phpToDuckdbValue makesVarchar value).1 <;> simp [ConvertedValue.erase, Except.map]
  constructor
  · intro reports obstacle first
    rw [← Bool.not_eq_true]
    intro quiet
    have failed := silent.mpr ⟨obstacle, first, quiet⟩
    obtain ⟨thrown, pending⟩ := reports.reported.mp ⟨none, failed⟩
    rw [failed] at pending
    cases pending
  · intro outspoken
    have loud : (phpToDuckdbValue makesVarchar value).1 ≠ .error none := by
      intro failed
      obtain ⟨obstacle, first, quiet⟩ := silent.mp failed
      rw [outspoken obstacle first] at quiet
      cases quiet
    constructor
    · constructor
      · rintro ⟨pending, failed⟩
        cases pending with
        | none => exact absurd failed loud
        | some thrown => exact ⟨thrown, failed⟩
      · rintro ⟨thrown, failed⟩
        exact ⟨some thrown, failed⟩
    · intro pending failed handle
      have once :=
        (convertValue_triple makesVarchar (maxNestingDepth + 1) value).destroyed_once handle
      change (phpToDuckdbValue makesVarchar value).2.log.count _ =
        if handle < (phpToDuckdbValue makesVarchar value).2.next ∧
          handle ∉ (phpToDuckdbValue makesVarchar value).1.held then 1 else 0 at once
      rw [once, failed]
      simp [ConvertedValue.held]

end Contract

/-- An array with an empty array under a name. -/
def emptyMember : Zval := .array (.cons (.name (lit "a")) (.array .nil) .nil)

/-- The conversion of the empty member returns a null handle and throws nothing, also where DuckDB
makes a value of every text. -/
theorem emptyMember_unreported : ¬Reports everyText emptyMember := by
  intro reports
  obtain ⟨thrown, pending⟩ := reports.reported.mp ⟨none, rfl⟩
  cases pending

end PhpDuckdb.Value
