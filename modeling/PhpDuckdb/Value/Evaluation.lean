import PhpDuckdb.Value.References

/-!
# The value of an input

What an expression of a typed conversion means does not depend on the numbers of its parameters, so
it does not depend on the other inputs of the batch. `convertValues_each` says so of a conversion,
given that DuckDB evaluates the arguments of its statement one by one.
-/

namespace PhpDuckdb.Value

open SqlText Lockstep

/-- What a fragment stands for: its text, or the value that is bound to its parameter. -/
def Fragment.piece : Fragment → Bytes ⊕ DuckValue
  | .text bytes => .inl bytes
  | .param _ value => .inr value

/-- What a text stands for: its bytes, and the values of its parameters. -/
def Text.pieces (text : Text) : List (Bytes ⊕ DuckValue) := text.map Fragment.piece

/-- Texts that stand for the same pieces, but for the numbers of their parameters. -/
def SamePieces (text twin : Text) : Prop := text.pieces = twin.pieces

@[simp]
theorem pieces_append (text rest : Text) :
    Text.pieces (text ++ rest) = text.pieces ++ rest.pieces := List.map_append

/-- The same text between two texts keeps both results the same but for numbers. -/
theorem SamePieces.around {text twin : Text} (same : SamePieces text twin) (before after : Text) :
    SamePieces (before ++ text ++ after) (before ++ twin ++ after) := by
  rw [SamePieces, pieces_append, pieces_append, pieces_append, pieces_append, same]

/-- Texts that are the same but for numbers are so one after the other. -/
theorem SamePieces.append {text twin rest other : Text} (first : SamePieces text twin)
    (second : SamePieces rest other) : SamePieces (text ++ rest) (twin ++ other) := by
  rw [SamePieces, pieces_append, pieces_append, first, second]

/-- A text is the same as itself. -/
theorem SamePieces.refl (text : Text) : SamePieces text text := rfl

/-- Casts of texts that are the same but for numbers are so too. -/
theorem SamePieces.cast {text twin : Text} (same : SamePieces text twin) (declared : Bytes) :
    SamePieces (cast text declared) (Value.cast twin declared) :=
  same.around _ _

/-! ## Builders -/

section Steps

variable {native : Native}

/-- Each declaration is remembered as it was resolved. -/
def Resolved (native : Native) (builder : Builder) : Prop :=
  ∀ type metadata, OrderedTable.find type builder.types = some metadata →
    native.prepare (resolveSql type) = .ok metadata

/-- Two builders that remember what DuckDB says. -/
def BothResolved (native : Native) (before other : Builder) : Prop :=
  Resolved native before ∧ Resolved native other

/-- A step writes the same wherever it runs. -/
abbrev Steady (native : Native) (step : Build Text) : Prop :=
  Together (BothResolved native) step step SamePieces

/-- Collecting a value does not depend on what was collected before. -/
theorem parameter_steady (converted : Except (Option Thrown) DuckValue) :
    Steady native (parameter converted) := by
  cases converted with
  | error pending => exact together_fail _ _
  | ok value =>
    intro before other resolved
    exact .inr ⟨_, _, _, _, rfl, rfl, rfl, resolved⟩

/-- A check passes or fails whatever was collected before. -/
theorem shape_together (ok : Bool) (message : String) :
    Together (BothResolved native) (shape ok message) (shape ok message) fun _ _ => ok = true := by
  cases ok with
  | false => exact together_fail _ _
  | true => exact together_pure rfl

/-- The text of a type does not depend on what was collected before. -/
theorem sqlText_together (type : LogicalType) :
    Together (BothResolved native) (sqlText type) (sqlText type) Eq := by
  unfold sqlText
  cases sqlType 65 type with
  | error what => exact together_fail _ _
  | ok text => exact together_pure rfl

/-- A builder that resolves a declaration answers as DuckDB does and remembers it. -/
theorem resolve_run {builder : Builder} (resolved : Resolved native builder) (type : Bytes) :
    (∃ thrown, native.prepare (resolveSql type) = .error thrown ∧
      resolve native type builder = .error ⟨some thrown, "Type resolution failed"⟩) ∨
    ∃ metadata after, native.prepare (resolveSql type) = .ok metadata ∧
      resolve native type builder = .ok (metadata, after) ∧ Resolved native after := by
  unfold resolve
  cases found : OrderedTable.find type builder.types with
  | some known => exact .inr ⟨known, builder, resolved type known found, rfl, resolved⟩
  | none =>
    cases prepared : native.prepare (resolveSql type) with
    | error thrown => exact .inl ⟨thrown, rfl, rfl⟩
    | ok metadata =>
      by_cases full : maxCachedTypes ≤ builder.types.length
      · exact .inr ⟨metadata, builder, rfl, if_pos full, resolved⟩
      · refine .inr ⟨metadata, _, rfl, if_neg full, fun name other stored => ?_⟩
        rw [OrderedTable.find_update] at stored
        split at stored
        · rename_i here
          obtain rfl := Option.some.inj stored
          rw [← here, prepared]
        · exact resolved name other stored

/-- A declaration resolves alike whatever was collected before. -/
theorem resolve_together (type : Bytes) :
    Together (BothResolved native) (resolve native type) (resolve native type) Eq := by
  intro before other both
  cases resolve_run both.1 type with
  | inl failed =>
    obtain ⟨thrown, prepared, run⟩ := failed
    cases resolve_run both.2 type with
    | inl also =>
      obtain ⟨again, same, run'⟩ := also
      obtain rfl := Except.error.inj (prepared.symm.trans same)
      exact .inl ⟨_, run, run'⟩
    | inr differs =>
      obtain ⟨metadata, after, same, -⟩ := differs
      cases prepared.symm.trans same
  | inr succeeded =>
    obtain ⟨metadata, after, prepared, run, kept⟩ := succeeded
    cases resolve_run both.2 type with
    | inl differs =>
      obtain ⟨thrown, same, -⟩ := differs
      cases prepared.symm.trans same
    | inr also =>
      obtain ⟨again, later, same, run', kept'⟩ := also
      obtain rfl := Except.ok.inj (prepared.symm.trans same)
      exact .inr ⟨metadata, after, metadata, later, run, run', rfl, kept, kept'⟩

/-- A value that is nested too deeply, or a wrapper that was never constructed. -/
theorem fail_steady (failure : Failure) : Steady native (fail failure) := together_fail _ _

/-! ## Loops -/

/-- The elements of an array that becomes a list or a STRUCT. -/
theorem packed_steady {expression : Zval → Build Text}
    (steady : ∀ item, Steady native (expression item)) (list : Bool) :
    ∀ (leading : Bool) (elements : Elements),
      Steady native (packed expression list leading elements)
  | _, .nil => together_pure rfl
  | _, .cons _ item rest =>
    (steady item).bind fun _ _ same =>
      (packed_steady steady list false rest).bind fun _ _ also =>
        together_pure (((SamePieces.refl _).append same).append also)

/-- The elements of a LIST or an ARRAY. -/
theorem items_steady {expression : Zval → Build Text}
    (steady : ∀ item, Steady native (expression item)) :
    ∀ (leading : Bool) (elements : Elements), Steady native (items expression leading elements)
  | _, .nil => together_pure rfl
  | _, .cons _ item rest =>
    (steady item).bind fun _ _ same =>
      (items_steady steady false rest).bind fun _ _ also =>
        together_pure (((SamePieces.refl _).append same).append also)

/-- The fields of a STRUCT are steady when the expressions of their values are. -/
theorem fields_steady {expression : Zval → LogicalType → Bytes → Build Text}
    (steady : ∀ item type declared, Steady native (expression item type declared))
    (elements : Elements) :
    ∀ (leading : Bool) (members : Members),
      Steady native (fields expression elements leading members)
  | _, .nil => together_pure rfl
  | leading, .cons name type rest => by
    unfold fields
    cases elements.find (symKey name) with
    | none => exact (shape_together _ _).bind fun _ _ never => absurd never Bool.false_ne_true
    | some item =>
      refine (sqlText_together type).bind fun declared _ same => ?_
      subst same
      refine (steady item type declared).bind fun field twin same => ?_
      refine (fields_steady steady elements false rest).bind fun others copy also => ?_
      exact together_pure (((SamePieces.refl _).append ((SamePieces.refl _).append same)).append also)

/-- The entries of a MAP are steady when the expressions of keys and values are. -/
theorem entries_steady {expression : Zval → LogicalType → Bytes → Build Text}
    (steady : ∀ item type declared, Steady native (expression item type declared))
    (key value : LogicalType) :
    ∀ (leading : Bool) (elements : Elements),
      Together (BothResolved native) (entries expression key value leading elements)
        (entries expression key value leading elements)
        fun texts twins => SamePieces texts.1 twins.1 ∧ SamePieces texts.2 twins.2
  | _, .nil => together_pure ⟨rfl, rfl⟩
  | _, .cons _ entry rest => by
    unfold entries
    refine (shape_together _ _).bind fun _ _ _ => ?_
    cases entry.deref.elements.find (.name (lit "key")) with
    | none =>
      exact (shape_together _ _).bind fun _ _ never => absurd never Bool.false_ne_true
    | some k =>
      cases entry.deref.elements.find (.name (lit "value")) with
      | none =>
        exact (shape_together _ _).bind fun _ _ never => absurd never Bool.false_ne_true
      | some v =>
        refine (sqlText_together key).bind fun keyDeclared _ same => ?_
        subst same
        refine (steady k key keyDeclared).bind fun keyText keyTwin sameKey => ?_
        refine (sqlText_together value).bind fun valueDeclared _ same => ?_
        subst same
        refine (steady v value valueDeclared).bind fun valueText valueTwin sameValue => ?_
        refine (entries_steady steady key value false rest).bind fun texts twins also => ?_
        exact together_pure
          ⟨((SamePieces.refl _).append sameKey).append also.1,
            ((SamePieces.refl _).append sameValue).append also.2⟩

/-- The member of a UNION is steady when the expression of its payload is. -/
theorem unionValue_steady {expression : Zval → LogicalType → Bytes → Build Text}
    (steady : ∀ item type declared, Steady native (expression item type declared)) (tag : Bytes)
    (payload : Zval) (members : Members) :
    Steady native (unionValue expression tag payload members) := by
  cases members with
  | nil => exact (shape_together _ _).bind fun _ _ never => absurd never Bool.false_ne_true
  | cons name type rest =>
    unfold unionValue
    split
    · refine (sqlText_together type).bind fun declared _ same => ?_
      subst same
      refine (steady payload type declared).bind fun item twin same => ?_
      exact together_pure ((SamePieces.refl _).append ((SamePieces.refl _).append same |>.append
        (SamePieces.refl _)))
    · exact unionValue_steady steady tag payload rest

/-- An array is written steadily when its elements are. -/
theorem packedArray_steady {expression : Zval → Build Text}
    (steady : ∀ item, Steady native (expression item)) (elements : Elements) :
    Steady native (packedArray expression elements) :=
  (packed_steady steady _ true elements).bind fun _ _ same => together_pure (same.around _ _)

/-- A wrapper that is cast to GEOMETRY. -/
theorem geometrySource_steady (type : Option CanonicalType) {source twin : Text}
    (same : SamePieces source twin) :
    Together (BothResolved native) (geometrySource native type source)
      (geometrySource native type twin) SamePieces := by
  cases type with
  | none => exact together_fail _ _
  | some type =>
    refine (resolve_together type.text).bind fun metadata _ equal => ?_
    subst equal
    split
    · exact together_pure (same.around _ _)
    · exact together_pure (same.cast _)

/-- What a wrapper becomes at a type. -/
theorem wrapperSource_steady (t : LogicalType) (type : Option CanonicalType) {source twin : Text}
    (same : SamePieces source twin) :
    Together (BothResolved native) (wrapperSource native t type source)
      (wrapperSource native t type twin) SamePieces := by
  cases t with
  | geometry crs => exact geometrySource_steady type same
  | _ => exact together_pure same

/-- A cast of a steady expression is steady. -/
theorem cast_steady {step : Build Text} (steady : Steady native step) (declared : Bytes) :
    Steady native (do let source ← step; pure (cast source declared)) :=
  steady.bind fun _ _ same => together_pure (same.cast declared)

/-! ## Expressions -/

/-- The three recursions of the builder with some room left. -/
structure SteadyAt (native : Native) (room : Nat) : Prop where
  /-- `builder::inferred`. -/
  inferred : ∀ v, Steady native (inferred native room v)
  /-- `builder::variant_source`. -/
  variantSource : ∀ v, Steady native (variantSource native room v)
  /-- `builder::typed`. -/
  typed : ∀ v t declared, Steady native (typed native room v t declared)

/-- `builder::inferred` is steady when everything with less room is. -/
theorem inferred_steady {room : Nat} (at_ : SteadyAt native room) (v : Zval) :
    Steady native (inferred native (room + 1) v) := by
  unfold inferred
  split
  · exact fail_steady _
  · rename_i type input _
    refine (resolve_together type.text).bind fun metadata _ same => ?_
    subst same
    exact at_.typed input metadata type.text
  · split
    · exact packedArray_steady at_.inferred _
    · exact parameter_steady _
  · exact parameter_steady _

/-- `builder::variant_source` is steady when everything with less room is. -/
theorem variantSource_steady {room : Nat} (at_ : SteadyAt native room) (v : Zval) :
    Steady native (variantSource native (room + 1) v) := by
  unfold variantSource
  split
  · exact cast_steady (packedArray_steady at_.variantSource _) _
  · exact cast_steady (at_.inferred _) _

/-- A list of elements that is cast. -/
theorem listValue_steady {room : Nat} (at_ : SteadyAt native room) (child : LogicalType)
    (elements : Elements) (declared : Bytes) :
    Steady native (do
      let ct ← sqlText child
      let inner ← items (fun x => typed native room x child ct) true elements
      pure (cast (sql "list_value(" ++ inner ++ sql ")") declared)) := by
  refine (sqlText_together child).bind fun ct _ same => ?_
  subst same
  refine (items_steady (fun item => at_.typed item child ct) true elements).bind fun _ _ same => ?_
  exact together_pure ((same.around _ _).cast declared)

/-- `builder::typed` is steady when everything with less room is. -/
theorem typed_steady {room : Nat} (at_ : SteadyAt native room) (v : Zval) (t : LogicalType)
    (declared : Bytes) : Steady native (typed native (room + 1) v t declared) := by
  unfold typed
  split
  · exact cast_steady (parameter_steady _) _
  · rename_i type input _
    refine (at_.inferred _).bind fun source twin same => ?_
    refine (wrapperSource_steady t type same).bind fun _ _ also => ?_
    exact together_pure (also.cast declared)
  · split
    · exact (shape_together _ _).bind fun _ _ _ => listValue_steady at_ _ _ _
    · exact (shape_together _ _).bind fun _ _ _ =>
        (shape_together _ _).bind fun _ _ _ => listValue_steady at_ _ _ _
    · refine (shape_together _ _).bind fun _ _ _ => (shape_together _ _).bind fun _ _ _ => ?_
      refine (fields_steady at_.typed _ true _).bind fun _ _ same => ?_
      exact together_pure ((same.around _ _).cast declared)
    · rename_i key value
      refine (shape_together _ _).bind fun _ _ _ => ?_
      refine (entries_steady at_.typed key value true _).bind fun texts twins same => ?_
      refine (sqlText_together key).bind fun kt _ equal => ?_
      subst equal
      refine (sqlText_together value).bind fun vt _ equal => ?_
      subst equal
      exact together_pure (SamePieces.cast (((SamePieces.refl _).append
        ((same.1.around _ _).cast _)).append (SamePieces.refl _) |>.append
          ((same.2.around _ _).cast _) |>.append (SamePieces.refl _)) declared)
    · refine (shape_together _ _).bind fun _ _ _ => ?_
      split
      · refine (shape_together _ _).bind fun _ _ _ => ?_
        exact cast_steady (unionValue_steady at_.typed _ _ _) _
      · exact (shape_together _ _).bind fun _ _ never => absurd never Bool.false_ne_true
    · split
      · exact at_.variantSource _
      · exact cast_steady (at_.inferred _) _
    · split
      · exact cast_steady (parameter_steady _) _
      · exact cast_steady (at_.inferred _) _
    · exact cast_steady (at_.inferred _) _

/-- The builder writes the same wherever it runs. -/
theorem steadyAt : ∀ room, SteadyAt native room
  | 0 => ⟨fun _ => fail_steady _, fun _ => fail_steady _, fun _ _ _ => fail_steady _⟩
  | room + 1 =>
    ⟨inferred_steady (steadyAt room), variantSource_steady (steadyAt room),
      typed_steady (steadyAt room)⟩

/-! ## Batches -/

/-- The arguments of the statement of a conversion, one text each. -/
def argumentTexts (native : Native) : List Zval → Build (List Text)
  | [] => pure []
  | input :: rest => do
    let argument ← inferred native 65 input
    let others ← argumentTexts native rest
    pure (argument :: others)

/-- The arguments that a statement is built with are the texts it lists. -/
theorem arguments_texts : ∀ {leading : Bool} {inputs : List Zval} {before after : Builder}
    {text : Text}, arguments native leading inputs before = .ok (text, after) →
      ∃ texts, argumentTexts native inputs before = .ok (texts, after)
  | _, [], before, after, text, run => by
    obtain ⟨-, rfl⟩ := Prod.mk.inj (Except.ok.inj run)
    exact ⟨[], rfl⟩
  | _, input :: rest, before, after, text, run => by
    obtain ⟨argument, middle, head, more⟩ := bind_ok run
    obtain ⟨others, last, tail, done⟩ := bind_ok more
    obtain ⟨-, rfl⟩ := Prod.mk.inj (Except.ok.inj done)
    obtain ⟨texts, same⟩ := arguments_texts tail
    refine ⟨argument :: texts, ?_⟩
    show (inferred native 65 input before >>= fun pair => _) = _
    rw [head]
    show (argumentTexts native rest middle >>= fun pair => _) = _
    rw [same]
    rfl

/-- Each argument is what its input alone is written as. -/
theorem argumentTexts_each : ∀ {inputs : List Zval} {before after : Builder} {texts : List Text},
    Resolved native before → argumentTexts native inputs before = .ok (texts, after) →
      List.Forall₂ (fun input text => ∃ alone last,
        inferred native 65 input ⟨[], []⟩ = .ok (alone, last) ∧ SamePieces text alone) inputs texts
  | [], before, after, texts, _, run => by
    obtain ⟨rfl, -⟩ := Prod.mk.inj (Except.ok.inj run)
    exact .nil
  | input :: rest, before, after, texts, resolved, run => by
    obtain ⟨argument, middle, head, more⟩ := bind_ok run
    obtain ⟨others, last, tail, done⟩ := bind_ok more
    obtain ⟨rfl, -⟩ := Prod.mk.inj (Except.ok.inj done)
    have fresh : Resolved native ⟨[], []⟩ := fun type metadata never => nomatch never
    cases (steadyAt 65).inferred input before ⟨[], []⟩ ⟨resolved, fresh⟩ with
    | inl failed =>
      obtain ⟨failure, differs, -⟩ := failed
      cases head.symm.trans differs
    | inr succeeded =>
      obtain ⟨text, reached, alone, final, here, there, pieces, kept, -⟩ := succeeded
      obtain ⟨rfl, rfl⟩ := Prod.mk.inj (Except.ok.inj (head.symm.trans here))
      exact .cons ⟨alone, final, there, pieces⟩ (argumentTexts_each kept tail)

end Steps

/-- Lists that are related through a third one. -/
theorem forall₂_through {α β γ : Type} {one : α → β → Prop} {two : β → γ → Prop}
    {both : α → γ → Prop} (compose : ∀ first middle last, one first middle → two middle last →
      both first last) : ∀ {firsts : List α} {middles : List β} {lasts : List γ},
      List.Forall₂ one firsts middles → List.Forall₂ two middles lasts →
        List.Forall₂ both firsts lasts
  | _, _, _, .nil, .nil => .nil
  | _, _, _, .cons head tail, .cons next rest =>
    .cons (compose _ _ _ head next) (forall₂_through compose tail rest)

/-- DuckDB gives the capture function the values of the arguments of its statement, each of which
means what it means anywhere. -/
def EvaluatesEach (makesVarchar : Bytes → Bool) (engine : Engine)
    (meaning : List (Bytes ⊕ DuckValue) → Except (Option Thrown) DuckValue) (inputs : List Zval) :
    Prop :=
  ∀ texts middle text builder values,
    argumentTexts (engine.native makesVarchar) inputs ⟨[], []⟩ = .ok (texts, middle) →
    conversionSql (engine.native makesVarchar) engine.capture inputs ⟨[], []⟩ =
      .ok (text, builder) →
    engine.execute text.bytes builder.params = .ok values → values.length = inputs.length + 1 →
    List.Forall₂ (fun argument item => meaning argument.pieces = .ok item) texts values.dropLast

/-- The value of an input by itself. -/
def ConvertsTo (makesVarchar : Bytes → Bool) (engine : Engine)
    (meaning : List (Bytes ⊕ DuckValue) → Except (Option Thrown) DuckValue) (input : Zval)
    (result : DuckValue) : Prop :=
  ∃ text after, inferred (engine.native makesVarchar) 65 input ⟨[], []⟩ = .ok (text, after) ∧
    meaning text.pieces = .ok result

/-- A typed conversion gives every input its own value. -/
theorem convertValues_each {makesVarchar : Bytes → Bool} {engine : Engine}
    {meaning : List (Bytes ⊕ DuckValue) → Except (Option Thrown) DuckValue} {inputs : List Zval}
    (evaluates : EvaluatesEach makesVarchar engine meaning inputs)
    (wrapped : inputs.any Zval.containsTyped = true) {values : List DuckValue}
    (converted : convertValues makesVarchar engine inputs = .ok values) :
    List.Forall₂ (ConvertsTo makesVarchar engine meaning) inputs values := by
  rw [convertValues, if_pos wrapped] at converted
  split at converted
  · cases converted
  · split at converted
    · cases converted
    · rename_i text builder built
      split at converted
      · cases converted
      · rename_i captured executed
        split at converted
        · cases converted
        · rename_i length
          obtain rfl := Except.ok.inj converted
          obtain ⟨inner, middle, head, -⟩ := bind_ok built
          obtain ⟨texts, written⟩ := arguments_texts head
          have fresh : Resolved (engine.native makesVarchar) ⟨[], []⟩ :=
            fun type metadata never => nomatch never
          have alone := argumentTexts_each fresh written
          have each := evaluates texts middle text builder captured written built executed
            (not_not.mp length)
          refine forall₂_through (fun input argument item alone value => ?_) alone each
          obtain ⟨single, last, run, pieces⟩ := alone
          exact ⟨single, last, run, pieces ▸ value⟩

end PhpDuckdb.Value
