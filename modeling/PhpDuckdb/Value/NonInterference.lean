import PhpDuckdb.Value.Numbering

/-!
# Typed conversion does not interfere

Two inputs that differ only in scalar payloads are converted by the same text: what the builder
writes depends on keys, wrappers, declared types and UNION tags, and every payload is a parameter.
Which strings are UNION tags depends on the type that a value is converted to, so `Similar`
follows the types that DuckDB resolves the declarations to.
-/

namespace PhpDuckdb.Value

open SqlText Lockstep

/-! ## Inputs that differ in payloads -/

/-- The names and types of members in their order. -/
def Members.toList : Members → List (Bytes × LogicalType)
  | .nil => []
  | .cons name type rest => (name, type) :: rest.toList

/-- What a value is converted to: a declared type, an inferred one or an entry of a MAP. -/
inductive Target
  /-- A type that is inferred. -/
  | free
  /-- A declared type. -/
  | at_ (type : LogicalType)
  /-- An entry of a MAP. -/
  | entry (key value : LogicalType)

/-- The member of a UNION that an array names as its tag. -/
def tagOf (elements : Elements) : Option Bytes :=
  match (elements.find (.name (lit "tag"))).map Zval.deref with
  | some (.string text) => some text
  | _ => none

/-- The declared types that the value under a key of an array is converted to, given the UNION
tag of the array. -/
def Target.child (tag : Option Bytes) : Target → Key → Target → Prop
  | .at_ (.list child), _, target => target = .at_ child
  | .at_ (.array child _), _, target => target = .at_ child
  | .at_ (.map key value), _, target => target = .entry key value
  | .at_ (.struct members), key, target =>
    ∃ name type, (name, type) ∈ members.toList ∧ symKey name = key ∧ target = .at_ type
  | .at_ (.union members), key, target =>
    key = .name (lit "value") ∧
      ∃ name type, tag = some name ∧ (name, type) ∈ members.toList ∧ target = .at_ type
  | .entry keyType valueType, key, target =>
    key = .name (lit "key") ∧ target = .at_ keyType ∨
      key = .name (lit "value") ∧ target = .at_ valueType
  | _, _, _ => False

/-- A value that is bound as one parameter. -/
def Zval.isScalar : Zval → Bool
  | .null => true
  | .bool _ => true
  | .long _ => true
  | .double _ => true
  | .string _ => true
  | .interval _ _ _ => true
  | .dateTime _ => true
  | _ => false

/-- A value that is no array, wrapper or reference. -/
def Zval.isLeaf : Zval → Bool
  | .array _ => false
  | .value _ _ => false
  | .reference _ => false
  | _ => true

mutual

/-- Inputs that differ only in scalar payloads, when they are converted to a target. -/
inductive Similar (native : Native) : Target → Zval → Zval → Prop
  /-- Scalars may differ. -/
  | scalar {target : Target} {first second : Zval} (one : first.isScalar = true)
      (two : second.isScalar = true) : Similar native target first second
  | object {target : Target} (className : Bytes) :
      Similar native target (.object className) (.object className)
  | resource {target : Target} : Similar native target .resource .resource
  | reference {target : Target} {first second : Zval} (targets : Similar native target first second) :
      Similar native target (.reference first) (.reference second)
  | uninitialized {target : Target} (first second : Zval) :
      Similar native target (.value none first) (.value none second)
  /-- Wrappers have the same declaration. -/
  | value {target : Target} {first second : Zval} (type : CanonicalType)
      (inputs : ∀ resolved, native.prepare (resolveSql type.text) = .ok resolved →
        Similar native (.at_ resolved) first second) :
      Similar native target (.value (some type) first) (.value (some type) second)
  /-- Arrays have the same keys, and the same tag where they become a UNION. -/
  | array {target : Target} {first second : Elements}
      (tags : ∀ members, target = .at_ (.union members) → tagOf first = tagOf second)
      (elements : SimilarElements native target (tagOf first) first second) :
      Similar native target (.array first) (.array second)

/-- Elements that differ only in scalar payloads. -/
inductive SimilarElements (native : Native) :
    Target → Option Bytes → Elements → Elements → Prop
  | nil {target : Target} {tag : Option Bytes} : SimilarElements native target tag .nil .nil
  | cons {target : Target} {tag : Option Bytes} {first second : Zval} {rest others : Elements}
      (key : Key) (free : Similar native .free first second)
      (typed : ∀ child, target.child tag key child → Similar native child first second)
      (more : SimilarElements native target tag rest others) :
      SimilarElements native target tag (.cons key first rest) (.cons key second others)

end

section Relation

variable {native : Native} {target : Target} {tag : Option Bytes}

/-- Similar values stay similar when references are followed. -/
theorem Similar.deref {first second : Zval} (similar : Similar native target first second) :
    Similar native target first.deref second.deref := by
  cases similar with
  | scalar one two =>
    have direct (v : Zval) (scalar : v.isScalar = true) : v.deref = v := by
      cases v <;> first | rfl | simp [Zval.isScalar] at scalar
    rw [direct first one, direct second two]
    exact .scalar one two
  | object className => exact .object className
  | resource => exact .resource
  | reference targets => exact targets
  | uninitialized first second => exact .uninitialized first second
  | value type inputs => exact .value type inputs
  | array tags elements => exact .array tags elements

mutual

/-- Of two similar values both contain a wrapper or neither does. -/
theorem Similar.containsTyped : ∀ {target : Target} {first second : Zval},
    Similar native target first second → first.containsTyped = second.containsTyped
  | _, _, _, .scalar one two => by
    have plain (v : Zval) (scalar : v.isScalar = true) : v.containsTyped = false := by
      cases v <;> first | rfl | simp [Zval.isScalar] at scalar
    rw [plain _ one, plain _ two]
  | _, _, _, .object className => rfl
  | _, _, _, .resource => rfl
  | _, _, _, .reference targets => targets.containsTyped
  | _, _, _, .uninitialized first second => rfl
  | _, _, _, .value type inputs => rfl
  | _, _, _, .array _ elements => elements.containsTyped

/-- Elements have wrappers at the same places. -/
theorem SimilarElements.containsTyped : ∀ {target : Target} {tag : Option Bytes}
    {first second : Elements}, SimilarElements native target tag first second →
    first.containsTyped = second.containsTyped
  | _, _, _, _, .nil => rfl
  | _, _, _, _, .cons key free typed more => by
    simp only [Elements.containsTyped, free.containsTyped, more.containsTyped]

end

/-- Similar arrays have the same number of elements. -/
theorem SimilarElements.count : ∀ {first second : Elements},
    SimilarElements native target tag first second → first.count = second.count
  | _, _, .nil => rfl
  | _, _, .cons key free typed more => by simp only [Elements.count, more.count]

/-- Two similar arrays have the same numbers as keys, or neither has. -/
theorem SimilarElements.isListFrom : ∀ {first second : Elements},
    SimilarElements native target tag first second →
      ∀ next, first.isListFrom next = second.isListFrom next
  | _, _, .nil, _ => rfl
  | _, _, .cons key free typed more, next => by
    simp only [Elements.isListFrom, more.isListFrom (next + 1)]

/-- Two similar arrays are both lists or neither is one. -/
theorem SimilarElements.isList {first second : Elements}
    (similar : SimilarElements native target tag first second) : first.isList = second.isList :=
  similar.isListFrom 0

/-- A key is found in both or in neither, with values that differ only in payloads. -/
theorem SimilarElements.find (key : Key) : ∀ {first second : Elements},
    SimilarElements native target tag first second →
      (first.find key = none ∧ second.find key = none) ∨
        ∃ one two, first.find key = some one ∧ second.find key = some two ∧
          Similar native .free one two ∧
          ∀ child, target.child tag key child → Similar native child one two
  | _, _, .nil => .inl ⟨rfl, rfl⟩
  | _, _, .cons stored free typed more => by
    by_cases same : stored = key
    · subst same
      exact .inr ⟨_, _, by simp [Elements.find], by simp [Elements.find], free, typed⟩
    · simpa [Elements.find, same] using more.find key

/-- What is similar to an array is an array. -/
theorem Similar.arrays {first second : Zval} (similar : Similar native target first second)
    (array : first.isArray = true) : ∃ elements others, first = .array elements ∧
      second = .array others ∧
      (∀ members, target = .at_ (.union members) → tagOf elements = tagOf others) ∧
      SimilarElements native target (tagOf elements) elements others := by
  cases similar with
  | array tags elements => exact ⟨_, _, rfl, rfl, tags, elements⟩
  | scalar one two => cases first <;> simp [Zval.isArray, Zval.isScalar] at array one
  | object className => simp [Zval.isArray] at array
  | resource => simp [Zval.isArray] at array
  | reference targets => simp [Zval.isArray] at array
  | uninitialized first second => simp [Zval.isArray] at array
  | value type inputs => simp [Zval.isArray] at array

end Relation

/-! ## Builders in lockstep -/

/-- Builders that have collected as many values and resolved the same declarations. -/
structure Same (native : Native) (before other : Builder) : Prop where
  /-- As many values. -/
  count : before.params.length = other.params.length
  /-- The same declarations. -/
  types : before.types = other.types
  /-- Each is remembered as it was resolved. -/
  resolved : ∀ type metadata, OrderedTable.find type before.types = some metadata →
    native.prepare (resolveSql type) = .ok metadata

/-- Two texts have the same bytes, however they were put together. -/
def SameBytes (text twin : Text) : Prop := text.bytes = twin.bytes

/-- A step that collects one value and writes around its parameter. -/
def Collects (write : Bytes → Bytes) (before : Builder) (text : Text) (after : Builder) : Prop :=
  text.bytes = write (36 :: decimal (before.params.length + 1)) ∧
    after.params.length = before.params.length + 1 ∧ after.types = before.types

section Steps

variable {native : Native}

/-- Steps that collect one value each and write alike agree. -/
theorem agree_collects {first second : Build Text} {write : Bytes → Bytes}
    (one : Ensures first (Collects write)) (two : Ensures second (Collects write)) :
    Agree (Same native) first second SameBytes := by
  intro before other text twin after later same run also
  obtain ⟨bytes, count, types⟩ := one before text after run
  obtain ⟨bytes', count', types'⟩ := two other twin later also
  refine ⟨?_, ?_, ?_, ?_⟩
  · rw [SameBytes, bytes, bytes', same.count]
  · rw [count, count', same.count]
  · rw [types, types', same.types]
  · rw [types]
    exact same.resolved

/-- `parameter` collects its own value and nothing else. -/
theorem parameter_collects (converted : Except (Option Thrown) DuckValue) :
    Ensures (parameter converted) (Collects id) := by
  cases converted with
  | error pending => exact ensures_fail _ _
  | ok value =>
    intro before text after run
    obtain ⟨rfl, rfl⟩ := Prod.mk.inj (Except.ok.inj run)
    exact ⟨by simp, by simp, rfl⟩

/-- A cast collects what its source collects. -/
theorem cast_collects {source : Build Text} (collects : Ensures source (Collects id)) (t : Bytes) :
    Ensures (do let s ← source; pure (cast s t)) (Collects fun bytes => Types.cast bytes t) := by
  intro before text after run
  obtain ⟨inner, middle, head, done⟩ := bind_ok run
  obtain ⟨rfl, rfl⟩ := Prod.mk.inj (Except.ok.inj done)
  obtain ⟨bytes, count, types⟩ := collects before inner middle head
  exact ⟨by simp [bytes], count, types⟩

/-- A check on both sides lets through only when it passes on both. -/
theorem shape_agree (one two : Bool) (message : String) :
    Agree (Same native) (shape one message) (shape two message)
      fun _ _ => one = true ∧ two = true := by
  cases one with
  | false => exact agree_fail _ _ _
  | true =>
    cases two with
    | false => exact agree_fail_right _ _ _
    | true => exact agree_pure ⟨rfl, rfl⟩

/-- The text of a type is the same for both. -/
theorem sqlText_agree (type : LogicalType) :
    Agree (Same native) (sqlText type) (sqlText type) Eq := by
  unfold sqlText
  cases sqlType 65 type with
  | error what => exact agree_fail (Failure.mk none what) _ _
  | ok text => exact agree_pure rfl

/-- A declaration resolves to what DuckDB says, for both. -/
theorem resolve_agree (type : Bytes) :
    Agree (Same native) (resolve native type) (resolve native type)
      fun metadata twin => metadata = twin ∧ native.prepare (resolveSql type) = .ok metadata := by
  intro before other metadata twin after later same run also
  unfold resolve at run also
  rw [← same.types] at also
  cases found : OrderedTable.find type before.types with
  | some known =>
    simp only [found] at run also
    obtain ⟨rfl, rfl⟩ := Prod.mk.inj (Except.ok.inj run)
    obtain ⟨rfl, rfl⟩ := Prod.mk.inj (Except.ok.inj also)
    exact ⟨⟨rfl, same.resolved type _ found⟩, same⟩
  | none =>
    simp only [found] at run also
    cases prepared : native.prepare (resolveSql type) with
    | error thrown => simp [prepared] at run
    | ok resolved =>
      simp only [prepared] at run also
      split at run
      · rename_i full
        rw [if_pos full] at also
        obtain ⟨rfl, rfl⟩ := Prod.mk.inj (Except.ok.inj run)
        obtain ⟨rfl, rfl⟩ := Prod.mk.inj (Except.ok.inj also)
        exact ⟨⟨rfl, rfl⟩, same⟩
      · rename_i space
        rw [if_neg space] at also
        obtain ⟨rfl, rfl⟩ := Prod.mk.inj (Except.ok.inj run)
        obtain ⟨rfl, rfl⟩ := Prod.mk.inj (Except.ok.inj also)
        refine ⟨⟨rfl, rfl⟩, same.count, rfl, ?_⟩
        intro name metadata stored
        rw [OrderedTable.find_update] at stored
        split at stored
        · rename_i here
          obtain rfl := Option.some.inj stored
          rw [← here, prepared]
        · exact same.resolved name metadata stored

/-- What the expressions of similar values at a declared type do. -/
def AgreeTyped (native : Native)
    (expression : Zval → LogicalType → Bytes → Build Text) : Prop :=
  ∀ {type first second}, Similar native (.at_ type) first second → ∀ declared,
    Agree (Same native) (expression first type declared) (expression second type declared)
      SameBytes

/-- The builder writes the elements of similar arrays alike. -/
theorem packed_agree {expression : Zval → Build Text}
    (agrees : ∀ {first second}, Similar native .free first second →
      Agree (Same native) (expression first) (expression second) SameBytes)
    (list : Bool) {target : Target} {tag : Option Bytes} :
    ∀ {elements others : Elements}, SimilarElements native target tag elements others →
      ∀ first, Agree (Same native) (packed expression list first elements)
        (packed expression list first others) SameBytes
  | _, _, .nil, _ => agree_pure rfl
  | _, _, .cons key free typed more, first => by
    refine (agrees free).bind fun element twin bytes => ?_
    refine (packed_agree agrees list more false).bind fun rest copy also => ?_
    refine agree_pure ?_
    simp only [SameBytes, Text.bytes_append] at bytes also ⊢
    rw [bytes, also]

/-- The elements of a LIST or an ARRAY agree. -/
theorem items_agree {expression : Zval → Build Text} {target : Target} {tag : Option Bytes}
    {child : Target} (each : ∀ key, target.child tag key child)
    (agrees : ∀ {first second}, Similar native child first second →
      Agree (Same native) (expression first) (expression second) SameBytes) :
    ∀ {elements others : Elements}, SimilarElements native target tag elements others →
      ∀ first, Agree (Same native) (items expression first elements)
        (items expression first others) SameBytes
  | _, _, .nil, _ => agree_pure rfl
  | _, _, .cons key free typed more, first => by
    refine (agrees (typed child (each key))).bind fun element twin bytes => ?_
    refine (items_agree each agrees more false).bind fun rest copy also => ?_
    refine agree_pure ?_
    simp only [SameBytes, Text.bytes_append] at bytes also ⊢
    rw [bytes, also]

/-- The builder writes the fields of similar STRUCT inputs alike. -/
theorem fields_agree {expression : Zval → LogicalType → Bytes → Build Text}
    (agrees : AgreeTyped native expression) {tag : Option Bytes} {all : Members}
    {elements others : Elements}
    (similar : SimilarElements native (.at_ (.struct all)) tag elements others) :
    ∀ (members : Members), members.toList ⊆ all.toList → ∀ first,
      Agree (Same native) (fields expression elements first members)
        (fields expression others first members) SameBytes
  | .nil, _, _ => agree_pure rfl
  | .cons name type rest, within, first => by
    rw [fields, fields]
    have known : (name, type) ∈ all.toList := within List.mem_cons_self
    rcases similar.find (symKey name) with ⟨none_, also⟩ | ⟨one, two, found, also, free, typed⟩
    · rw [none_, also]
      exact (shape_agree _ _ _).bind fun _ _ refused => by simp at refused
    · rw [found, also]
      have here := typed (.at_ type) ⟨name, type, known, rfl, rfl⟩
      have later : rest.toList ⊆ all.toList := fun _ member => within (List.mem_cons_of_mem _ member)
      refine (sqlText_agree type).bind fun declared twin same => ?_
      subst same
      refine (agrees here declared).bind fun field copy bytes => ?_
      refine (fields_agree agrees similar rest later false).bind fun texts copies same => ?_
      refine agree_pure ?_
      simp only [SameBytes, Text.bytes_append] at bytes same ⊢
      rw [bytes, same]

/-- The builder writes the value of a UNION alike for similar inputs. -/
theorem unionValue_agree {expression : Zval → LogicalType → Bytes → Build Text}
    (agrees : AgreeTyped native expression) {tag : Bytes} {payload other : Zval} :
    ∀ (members : Members), (∀ type, (tag, type) ∈ members.toList →
      Similar native (.at_ type) payload other) →
      Agree (Same native) (unionValue expression tag payload members)
        (unionValue expression tag other members) SameBytes
  | .nil, _ => (shape_agree _ _ _).bind fun _ _ refused => by simp at refused
  | .cons name type rest, similar => by
    rw [unionValue, unionValue]
    split
    · rename_i named
      subst named
      refine (sqlText_agree type).bind fun declared twin same => ?_
      subst same
      refine (agrees (similar type List.mem_cons_self) declared).bind fun value copy bytes => ?_
      refine agree_pure ?_
      simp only [SameBytes, Text.bytes_append] at bytes ⊢
      rw [bytes]
    · exact unionValue_agree agrees rest fun type member =>
        similar type (List.mem_cons_of_mem _ member)

/-- The two lists of a MAP have the same bytes. -/
def SameEntries (texts twins : Text × Text) : Prop :=
  SameBytes texts.1 twins.1 ∧ SameBytes texts.2 twins.2

/-- The builder writes the entries of a MAP alike for similar inputs. -/
theorem entries_agree {expression : Zval → LogicalType → Bytes → Build Text}
    (agrees : AgreeTyped native expression) {key value : LogicalType} {tag : Option Bytes} :
    ∀ {elements others : Elements},
      SimilarElements native (.at_ (.map key value)) tag elements others → ∀ first,
      Agree (Same native) (entries expression key value first elements)
        (entries expression key value first others) SameEntries
  | _, _, .nil, _ => agree_pure ⟨rfl, rfl⟩
  | _, _, .cons index free typed more, first => by
    have entry := (typed (.entry key value) rfl).deref
    rw [entries, entries]
    refine (shape_agree _ _ _).bind fun _ _ shaped => ?_
    have isArray := (Bool.and_eq_true_iff.mp shaped.1).1
    obtain ⟨pairs, twins, one, two, _, similar⟩ := entry.arrays isArray
    rw [one, two]
    simp only [Zval.elements]
    rcases similar.find (.name (lit "key")) with
      ⟨none_, also⟩ | ⟨k, otherK, foundK, alsoK, _, typedK⟩
    · rw [none_, also]
      exact (shape_agree _ _ _).bind fun _ _ refused => by simp at refused
    rcases similar.find (.name (lit "value")) with
      ⟨none_, also⟩ | ⟨v, otherV, foundV, alsoV, _, typedV⟩
    · rw [none_, also, foundK, alsoK]
      exact (shape_agree _ _ _).bind fun _ _ refused => by simp at refused
    rw [foundK, alsoK, foundV, alsoV]
    have similarKey := typedK (.at_ key) (.inl ⟨rfl, rfl⟩)
    have similarValue := typedV (.at_ value) (.inr ⟨rfl, rfl⟩)
    refine (sqlText_agree key).bind fun keyDeclared twin same => ?_
    subst same
    refine (agrees similarKey keyDeclared).bind fun keyText keyTwin keyBytes => ?_
    refine (sqlText_agree value).bind fun valueDeclared twin same => ?_
    subst same
    refine (agrees similarValue valueDeclared).bind fun valueText valueTwin valueBytes => ?_
    refine (entries_agree agrees more false).bind fun texts copies same => ?_
    refine agree_pure ⟨?_, ?_⟩
    · have keys := same.1
      simp only [SameBytes, Text.bytes_append] at keys keyBytes ⊢
      rw [keyBytes, keys]
    · have vals := same.2
      simp only [SameBytes, Text.bytes_append] at vals valueBytes ⊢
      rw [valueBytes, vals]

/-- Similar arrays are packed into the same text when their elements are. -/
theorem packedArray_agree {expression : Zval → Build Text}
    (agrees : ∀ {first second}, Similar native .free first second →
      Agree (Same native) (expression first) (expression second) SameBytes)
    {target : Target} {tag : Option Bytes} {elements others : Elements}
    (similar : SimilarElements native target tag elements others) :
    Agree (Same native) (packedArray expression elements) (packedArray expression others)
      SameBytes := by
  unfold packedArray
  rw [← similar.isList]
  refine (packed_agree agrees elements.isList similar true).bind fun inner twin bytes => ?_
  refine agree_pure ?_
  simp only [SameBytes, Text.bytes_append] at bytes ⊢
  rw [bytes]

/-- Casts of steps that agree to the same type agree. -/
theorem cast_agree {first second : Build Text}
    (agree : Agree (Same native) first second SameBytes) (t : Bytes) :
    Agree (Same native) (do let s ← first; pure (cast s t)) (do let s ← second; pure (cast s t))
      SameBytes := by
  refine agree.bind fun text twin bytes => agree_pure ?_
  simp only [SameBytes, Text.bytes_cast] at bytes ⊢
  rw [bytes]

/-- A leaf is collected as one value. -/
theorem inferred_collects {v : Zval} (leaf : v.deref.isLeaf = true) :
    ∀ room, Ensures (inferred native room v) (Collects id)
  | 0 => ensures_fail exceedsNesting _
  | room + 1 => by
    rw [inferred]
    split
    · exact ensures_fail _ _
    · rename_i wrapper
      simp [wrapper, Zval.isLeaf] at leaf
    · rename_i array
      simp [array, Zval.isLeaf] at leaf
    · exact parameter_collects _

/-- A leaf is collected as one value at every declared type. -/
theorem typed_collects {v : Zval} (leaf : v.deref.isLeaf = true) (t : LogicalType) (decl : Bytes) :
    ∀ room, Ensures (typed native room v t decl) (Collects fun bytes => Types.cast bytes decl)
  | 0 => ensures_fail exceedsNesting _
  | room + 1 => by
    rw [typed]
    generalize v.deref = v at leaf ⊢
    have direct : v.deref.isLeaf = true := by
      cases v <;> first | rfl | simp [Zval.isLeaf] at leaf
    have notArray : v.isArray = false := by
      cases v <;> first | rfl | simp [Zval.isLeaf] at leaf
    have source : Ensures (inferred native room v) (Collects id) := inferred_collects direct room
    have fallback := cast_collects source decl
    split
    · exact cast_collects (parameter_collects _) decl
    · simp [Zval.isLeaf] at leaf
    · simp only [notArray, Bool.false_and]
      split
      · exact refused_ensures _ _ _
      · exact refused_ensures _ _ _
      · exact refused_ensures _ _ _
      · exact refused_ensures _ _ _
      · exact refused_ensures _ _ _
      · split
        · simp [Zval.isLeaf] at leaf
        · exact fallback
      · split
        · exact cast_collects (parameter_collects _) decl
        · exact fallback
      · exact fallback

/-- A leaf is collected as one value as a VARIANT. -/
theorem variantSource_collects {v : Zval} (leaf : v.deref.isLeaf = true) :
    ∀ room, Ensures (variantSource native room v)
      (Collects fun bytes => Types.cast bytes (lit "VARIANT"))
  | 0 => ensures_fail exceedsNesting _
  | room + 1 => by
    rw [variantSource]
    generalize v.deref = v at leaf ⊢
    have direct : v.deref.isLeaf = true := by
      cases v <;> first | rfl | simp [Zval.isLeaf] at leaf
    split
    · simp [Zval.isLeaf] at leaf
    · exact cast_collects (inferred_collects direct room) _

/-! ## The induction on nesting -/

/-- The three functions of the builder with some levels of nesting left. -/
structure LockstepAt (native : Native) (room : Nat) : Prop where
  /-- `inferred`. -/
  inferred : ∀ {target first second}, Similar native target first second →
    Agree (Same native) (inferred native room first) (inferred native room second) SameBytes
  /-- `variant_source`. -/
  variantSource : ∀ {target first second}, Similar native target first second →
    Agree (Same native) (variantSource native room first) (variantSource native room second)
      SameBytes
  /-- `typed`. -/
  typed : AgreeTyped native (typed native room)

/-- Every scalar is a leaf, which the builder collects as one parameter. -/
theorem isLeaf_of_isScalar {v : Zval} (scalar : v.isScalar = true) : v.isLeaf = true := by
  cases v <;> first | rfl | simp [Zval.isScalar] at scalar

/-- `inferred` agrees on similar values when everything with less room does. -/
theorem inferred_agree {room : Nat} (at_ : LockstepAt native room) {target : Target}
    {first second : Zval} (similar : Similar native target first second) :
    Agree (Same native) (inferred native (room + 1) first) (inferred native (room + 1) second)
      SameBytes := by
  have direct := similar.deref
  generalize one : first.deref = v at direct
  generalize two : second.deref = w at direct
  cases direct with
  | scalar leaf also =>
    refine agree_collects (inferred_collects ?_ _) (inferred_collects ?_ _)
    · rw [one]
      exact isLeaf_of_isScalar leaf
    · rw [two]
      exact isLeaf_of_isScalar also
  | object className =>
    exact agree_collects (inferred_collects (by rw [one]; rfl) _)
      (inferred_collects (by rw [two]; rfl) _)
  | resource =>
    exact agree_collects (inferred_collects (by rw [one]; rfl) _)
      (inferred_collects (by rw [two]; rfl) _)
  | reference targets =>
    rw [inferred, inferred, one, two]
    exact agree_fail _ _ _
  | uninitialized inner other =>
    rw [inferred, inferred, one, two]
    exact agree_fail _ _ _
  | value type inputs =>
    rw [inferred, inferred, one, two]
    refine (resolve_agree type.text).bind fun metadata twin resolved => ?_
    obtain ⟨rfl, known⟩ := resolved
    exact at_.typed (inputs metadata known) type.text
  | array tags elements =>
    rw [inferred, inferred, one, two]
    simp only [← elements.containsTyped]
    split
    · exact packedArray_agree (fun similar => at_.inferred similar) elements
    · exact agree_collects (parameter_collects _) (parameter_collects _)

/-- `variant_source` agrees on similar values when everything with less room does. -/
theorem variantSource_agree {room : Nat} (at_ : LockstepAt native room) {target : Target}
    {first second : Zval} (similar : Similar native target first second) :
    Agree (Same native) (variantSource native (room + 1) first)
      (variantSource native (room + 1) second) SameBytes := by
  have direct := similar.deref
  generalize one : first.deref = v at direct
  generalize two : second.deref = w at direct
  have whole := direct
  cases direct with
  | scalar leaf also =>
    refine agree_collects (variantSource_collects ?_ _) (variantSource_collects ?_ _)
    · rw [one]
      exact isLeaf_of_isScalar leaf
    · rw [two]
      exact isLeaf_of_isScalar also
  | object className =>
    exact agree_collects (variantSource_collects (by rw [one]; rfl) _)
      (variantSource_collects (by rw [two]; rfl) _)
  | resource =>
    exact agree_collects (variantSource_collects (by rw [one]; rfl) _)
      (variantSource_collects (by rw [two]; rfl) _)
  | reference targets =>
    rw [variantSource, variantSource, one, two]
    exact cast_agree (at_.inferred whole) _
  | uninitialized inner other =>
    rw [variantSource, variantSource, one, two]
    exact cast_agree (at_.inferred whole) _
  | value type inputs =>
    rw [variantSource, variantSource, one, two]
    exact cast_agree (at_.inferred whole) _
  | array tags elements =>
    rw [variantSource, variantSource, one, two]
    exact cast_agree (packedArray_agree (fun similar => at_.variantSource similar) elements) _

/-- The builder writes the source of a GEOMETRY alike for texts of the same bytes. -/
theorem geometrySource_agree (type : Option CanonicalType) {source twin : Text}
    (bytes : SameBytes source twin) :
    Agree (Same native) (geometrySource native type source) (geometrySource native type twin)
      SameBytes := by
  cases type with
  | none => exact agree_fail _ _ _
  | some type =>
    refine (resolve_agree type.text).bind fun metadata copy resolved => ?_
    obtain ⟨rfl, _⟩ := resolved
    split
    · refine agree_pure ?_
      simp only [SameBytes, Text.bytes_append] at bytes ⊢
      rw [bytes]
    · refine agree_pure ?_
      simp only [SameBytes, Text.bytes_cast] at bytes ⊢
      rw [bytes]

/-- The builder writes the source of a wrapper alike for texts of the same bytes. -/
theorem wrapperSource_agree (t : LogicalType) (type : Option CanonicalType) {source twin : Text}
    (bytes : SameBytes source twin) :
    Agree (Same native) (wrapperSource native t type source) (wrapperSource native t type twin)
      SameBytes := by
  unfold wrapperSource
  split
  · exact geometrySource_agree type bytes
  · exact agree_pure bytes

/-- The elements of a LIST or an ARRAY agree as an expression. -/
theorem listValue_agree {room : Nat} (at_ : LockstepAt native room) {t : LogicalType}
    {tag : Option Bytes} {elements others : Elements} {child : LogicalType}
    (each : ∀ key, (Target.at_ t).child tag key (.at_ child))
    (similar : SimilarElements native (.at_ t) tag elements others) (decl : Bytes) :
    Agree (Same native)
      (do
        let ct ← sqlText child
        let inner ← items (fun x => typed native room x child ct) true elements
        pure (cast (sql "list_value(" ++ inner ++ sql ")") decl))
      (do
        let ct ← sqlText child
        let inner ← items (fun x => typed native room x child ct) true others
        pure (cast (sql "list_value(" ++ inner ++ sql ")") decl)) SameBytes := by
  refine (sqlText_agree child).bind fun ct twin same => ?_
  subst same
  refine (items_agree each (fun here => at_.typed here ct) similar true).bind
    fun inner copy bytes => agree_pure ?_
  simp only [SameBytes, Text.bytes_cast, Text.bytes_append] at bytes ⊢
  rw [bytes]

/-- The builder writes a UNION alike for similar arrays. -/
theorem union_agree {room : Nat} (at_ : LockstepAt native room) {members : Members}
    {elements others : Elements} (tags : tagOf elements = tagOf others)
    (similar : SimilarElements native (.at_ (.union members)) (tagOf elements) elements others)
    (decl : Bytes) :
    Agree (Same native)
      (match elements.find (.name (lit "tag")), elements.find (.name (lit "value")) with
        | some tag, some payload => do
          shape tag.deref.isString "UNION tag must be a string"
          let value ← unionValue (typed native room) tag.deref.stringBytes payload members
          pure (cast value decl)
        | _, _ => do
          shape false "UNION input requires tag and value"
          pure [])
      (match others.find (.name (lit "tag")), others.find (.name (lit "value")) with
        | some tag, some payload => do
          shape tag.deref.isString "UNION tag must be a string"
          let value ← unionValue (typed native room) tag.deref.stringBytes payload members
          pure (cast value decl)
        | _, _ => do
          shape false "UNION input requires tag and value"
          pure []) SameBytes := by
  have refused : Agree (Same native)
      (do shape false "UNION input requires tag and value"; pure [])
      (do shape false "UNION input requires tag and value"; pure []) SameBytes :=
    (shape_agree _ _ _).bind fun _ _ refused => by simp at refused
  rcases similar.find (.name (lit "tag")) with ⟨none_, also⟩ | ⟨tag, other, found, also, _, _⟩
  · rw [none_, also]
    exact refused
  rcases similar.find (.name (lit "value")) with
    ⟨none_, absent⟩ | ⟨payload, copy, here, there, _, typed⟩
  · rw [none_, absent, found, also]
    exact refused
  rw [found, also, here, there]
  refine (shape_agree _ _ _).bind fun _ _ strings => ?_
  obtain ⟨text, isText⟩ : ∃ text, tag.deref = .string text := by
    cases shape : tag.deref <;> simp_all [Zval.isString]
  obtain ⟨spelled, isSpelled⟩ : ∃ text, other.deref = .string text := by
    cases shape : other.deref <;> simp_all [Zval.isString]
  have first : tagOf elements = some text := by simp [tagOf, found, isText]
  have second : tagOf others = some spelled := by simp [tagOf, also, isSpelled]
  have same : text = spelled := by
    rw [first, second] at tags
    exact Option.some.inj tags
  subst same
  rw [isText, isSpelled]
  refine cast_agree (unionValue_agree at_.typed members fun type member => ?_) decl
  exact typed (.at_ type) ⟨rfl, text, type, first, member, rfl⟩

/-- `typed` agrees on similar arrays when everything with less room does. -/
theorem typedArray_agree {room : Nat} (at_ : LockstepAt native room) {t : LogicalType}
    {elements others : Elements}
    (tags : ∀ members, Target.at_ t = .at_ (.union members) → tagOf elements = tagOf others)
    (similar : SimilarElements native (.at_ t) (tagOf elements) elements others) (decl : Bytes) :
    Agree (Same native) (typed native (room + 1) (.array elements) t decl)
      (typed native (room + 1) (.array others) t decl) SameBytes := by
  have whole : Similar native (.at_ t) (.array elements) (.array others) := .array tags similar
  have inferred_ := cast_agree (at_.inferred whole) decl
  rw [typed, typed]
  cases t with
  | list child =>
    have each (key : Key) : (Target.at_ (.list child)).child (tagOf elements) key (.at_ child) := rfl
    refine (shape_agree _ _ _).bind fun _ _ _ => ?_
    exact listValue_agree at_ each similar decl
  | array child size =>
    have each (key : Key) :
        (Target.at_ (.array child size)).child (tagOf elements) key (.at_ child) := rfl
    refine (shape_agree _ _ _).bind fun _ _ _ => (shape_agree _ _ _).bind fun _ _ _ => ?_
    exact listValue_agree at_ each similar decl
  | struct members =>
    refine (shape_agree _ _ _).bind fun _ _ _ => (shape_agree _ _ _).bind fun _ _ _ => ?_
    refine (fields_agree at_.typed similar members (fun _ member => member) true).bind
      fun inner twin bytes => agree_pure ?_
    simp only [SameBytes, Text.bytes_cast, Text.bytes_append] at bytes ⊢
    rw [bytes]
  | map key value =>
    refine (shape_agree _ _ _).bind fun _ _ _ => ?_
    refine (entries_agree at_.typed similar true).bind fun texts twins bytes => ?_
    refine (sqlText_agree key).bind fun kt twin same => ?_
    subst same
    refine (sqlText_agree value).bind fun vt twin same => ?_
    subst same
    refine agree_pure ?_
    obtain ⟨keys, vals⟩ := bytes
    simp only [SameBytes, Text.bytes_cast, Text.bytes_append] at keys vals ⊢
    rw [keys, vals]
  | union members =>
    refine (shape_agree _ _ _).bind fun _ _ _ => ?_
    exact union_agree at_ (tags members rfl) similar decl
  | plain id alias_ =>
    cases id with
    | variant => exact at_.variantSource whole
    | _ => exact inferred_
  | decimal width scale => exact inferred_
  | enum labels => exact inferred_
  | geometry crs => exact inferred_

/-- `typed` agrees on similar values when everything with less room does. -/
theorem typed_agree {room : Nat} (at_ : LockstepAt native room) :
    AgreeTyped native (typed native (room + 1)) := by
  intro t first second similar decl
  have direct := similar.deref
  generalize one : first.deref = v at direct
  generalize two : second.deref = w at direct
  have whole := direct
  cases direct with
  | scalar leaf also =>
    refine agree_collects (typed_collects ?_ t decl _) (typed_collects ?_ t decl _)
    · rw [one]
      exact isLeaf_of_isScalar leaf
    · rw [two]
      exact isLeaf_of_isScalar also
  | object className =>
    exact agree_collects (typed_collects (by rw [one]; rfl) t decl _)
      (typed_collects (by rw [two]; rfl) t decl _)
  | resource =>
    exact agree_collects (typed_collects (by rw [one]; rfl) t decl _)
      (typed_collects (by rw [two]; rfl) t decl _)
  | reference targets =>
    rw [typed, typed, one, two]
    have fallback := cast_agree (at_.inferred whole) decl
    have refused (message : String) (rest other : Build Text) :
        Agree (Same native) (do shape false message; rest) (do shape false message; other)
          SameBytes :=
      (shape_agree _ _ _).bind fun _ _ refused => by simp at refused
    cases t with
    | list child => exact refused _ _ _
    | array child size => exact refused _ _ _
    | struct members => exact refused _ _ _
    | map key value => exact refused _ _ _
    | union members => exact refused _ _ _
    | plain id alias_ => cases id <;> exact fallback
    | decimal width scale => exact fallback
    | enum labels => exact fallback
    | geometry crs => exact fallback
  | uninitialized inner other =>
    have wrapper := at_.inferred whole
    rw [typed, typed, one, two]
    exact wrapper.bind fun source twin bytes =>
      cast_agree (wrapperSource_agree t none bytes) decl
  | value type inputs =>
    have wrapper := at_.inferred whole
    rw [typed, typed, one, two]
    exact wrapper.bind fun source twin bytes =>
      cast_agree (wrapperSource_agree t (some type) bytes) decl
  | array tags elements =>
    have arrays := typedArray_agree at_ tags elements decl
    rw [typed, typed] at arrays ⊢
    rw [one, two]
    exact arrays

/-- Builders stay in lockstep at every nesting. -/
theorem lockstepAt : ∀ room, LockstepAt native room
  | 0 => {
      inferred := fun _ => agree_fail exceedsNesting _ _
      variantSource := fun _ => agree_fail exceedsNesting _ _
      typed := fun _ _ => agree_fail exceedsNesting _ _ }
  | room + 1 => {
      inferred := inferred_agree (lockstepAt room)
      variantSource := variantSource_agree (lockstepAt room)
      typed := typed_agree (lockstepAt room) }

end Steps

/-! ## Conversions -/

/-- A type text that `typed` is called with. -/
structure Declared where
  /-- The text. -/
  text : Bytes
  /-- A wrapper's declaration, or the text of a type. -/
  known : (∃ type : CanonicalType, text = type.text) ∨ ∃ type, sqlType 65 type = .ok text

/-- The text of a declared type shows no parameter. -/
theorem Declared.shows (declared : Declared) : Shows declared.text [] := by
  rcases declared.known with ⟨type, same⟩ | ⟨type, rendered⟩
  · rw [same]
    exact type.shows
  · exact shows_sqlType rendered

/-- A call of the builder, with a type to write or without one. -/
inductive Call
  | inferring
  | typing (type : LogicalType) (declared : Declared)

/-- What the value of a call is converted to. -/
def Call.target : Call → Target
  | .inferring => .free
  | .typing type _ => .at_ type

/-- The call on a value with some levels of nesting left. -/
def Call.run (native : Native) (room : Nat) (v : Zval) :
    Call → Build Text
  | .inferring => inferred native room v
  | .typing type declared => typed native room v type declared.text

/-- The placeholders of a text, for the values collected between two states of the builder. -/
structure Placeholders (before : Builder) (text : Text) (after : Builder) : Prop where
  /-- Values that were collected before stay where they are. -/
  kept : before.params <+: after.params
  /-- The text reads as SQL, and these are its placeholders, no two of them alike. -/
  read : ∃ pieces, lex text.bytes = some pieces ∧ (placeholders pieces).Nodup ∧
    placeholders pieces = text.parameters.map fun parameter => decimal parameter.1
  /-- They are the numbers of the collected values, each once. -/
  once : (text.parameters.map Prod.fst).Perm
    (List.range' (before.params.length + 1) (after.params.length - before.params.length))
  /-- The placeholder `$i` stands where the value `params[i - 1]` was converted. -/
  stands : ∀ index value, (index, value) ∈ text.parameters → after.params[index - 1]? = some value

/-- What the builder writes has its placeholders. -/
theorem Writes.placeholders {before after : Builder} {text : Text}
    (writes : Writes before text after) : Placeholders before text after := by
  obtain ⟨numbered, pieces, read, shown⟩ := writes
  refine ⟨numbered.kept, ⟨pieces, read, ?_, shown⟩, numbered.once, numbered.stands⟩
  have distinct : (text.parameters.map Prod.fst).Nodup :=
    numbered.once.nodup_iff.mpr List.nodup_range'
  have digits := distinct.map fun _ _ same => decimal_injective same
  rw [List.map_map] at digits
  rw [shown]
  exact digits

/-- Inputs that differ only in scalar payloads are converted by the same text, whose placeholders
are the collected values, each once. -/
theorem conversion_nonInterfering {native : Native} (call : Call)
    (room : Nat) {first second : Zval} (similar : Similar native call.target first second)
    {before other after later : Builder} {text twin : Text} (same : Same native before other)
    (one : call.run native room first before = .ok (text, after))
    (two : call.run native room second other = .ok (twin, later)) :
    text.bytes = twin.bytes ∧ Placeholders before text after ∧ Placeholders other twin later := by
  cases call with
  | inferring =>
    have bytes := ((lockstepAt room).inferred similar _ _ _ _ _ _ same one two).1
    have writes (v : Zval) : Ensures (inferred native room v) Writes := (writesAt room).inferred v
    exact ⟨bytes, (writes first _ _ _ one).placeholders, (writes second _ _ _ two).placeholders⟩
  | typing type declared =>
    have bytes := ((lockstepAt room).typed similar declared.text _ _ _ _ _ _ same one two).1
    have writes (v : Zval) : Ensures (typed native room v type declared.text) Writes :=
      (writesAt room).typed v type _ declared.shows
    exact ⟨bytes, (writes first _ _ _ one).placeholders, (writes second _ _ _ two).placeholders⟩

/-- The canonical declaration `INTEGER[]`. -/
def integerList : CanonicalType := ⟨lit "INTEGER[]", lit "integer[]", by decide +kernel⟩

/-- A wrapper of a list with two elements. -/
def wrappedPair (first second : Zval) : Zval :=
  .value (some integerList)
    (.array (.cons (.index 0) first (.cons (.index 1) second .nil)))

/-- A DuckDB that makes values of all texts and resolves every declaration to a list. -/
def resolvesList : Native := ⟨everyText, fun _ => .ok (.list (plainType .integer))⟩

/-- Numbers and strings in a list of the same declaration. -/
theorem conversion_nonInterfering_list :
    ∃ text twin after later,
      inferred resolvesList 65
        (wrappedPair (.long 1) (.long 2)) ⟨[], []⟩ = .ok (text, after) ∧
      inferred resolvesList 65
        (wrappedPair (.string (lit "$2")) (.long 3)) ⟨[], []⟩ = .ok (twin, later) ∧
      text.bytes = twin.bytes ∧ Placeholders ⟨[], []⟩ text after ∧
      Placeholders ⟨[], []⟩ twin later := by
  have similar : Similar resolvesList .free
      (wrappedPair (.long 1) (.long 2)) (wrappedPair (.string (lit "$2")) (.long 3)) := by
    refine .value integerList fun resolved known => ?_
    obtain rfl := Except.ok.inj known
    refine .array (fun members union => by simp at union) ?_
    exact .cons _ (.scalar rfl rfl) (fun _ _ => .scalar rfl rfl)
      (.cons _ (.scalar rfl rfl) (fun _ _ => .scalar rfl rfl) .nil)
  refine ⟨_, _, _, _, rfl, rfl, ?_⟩
  exact conversion_nonInterfering .inferring 65 similar ⟨rfl, rfl, by simp⟩ rfl rfl

/-! ## Statements -/

/-- The arguments of a statement write their parameters in order. -/
theorem arguments_writes {native : Native} :
    ∀ (first : Bool) (inputs : List Zval),
      Ensures (arguments native first inputs) (WritesList first)
  | first, [] => (ensures_pure []).weaken fun before text after same => by
    obtain ⟨rfl, rfl⟩ := same
    exact ⟨numbered_refl rfl, Text.listed_nil first⟩
  | first, input :: rest => by
    intro before text after run
    obtain ⟨argument, middle, head, more⟩ := bind_ok run
    obtain ⟨others, last, tail, done⟩ := bind_ok more
    obtain ⟨rfl, rfl⟩ := Prod.mk.inj (Except.ok.inj done)
    obtain ⟨numbered, shown⟩ := (writesAt 65).inferred input before argument middle head
    obtain ⟨later, listed⟩ := arguments_writes false rest middle others last tail
    exact ⟨by simpa using numbered.trans later, shown.listed listed first⟩

/-- The statement of a conversion writes its parameters in order, the bare one last. -/
theorem conversionSql_writes {native : Native} (capture : Bytes)
    (inputs : List Zval) : Ensures (conversionSql native capture inputs) Writes := by
  intro before text after run
  obtain ⟨inner, middle, head, more⟩ := bind_ok run
  obtain ⟨last, final, bare, done⟩ := bind_ok more
  obtain ⟨rfl, rfl⟩ := Prod.mk.inj (Except.ok.inj done)
  obtain ⟨numbered, listed⟩ := arguments_writes true inputs _ _ _ head
  obtain ⟨later, shown⟩ := parameter_writes _ _ _ _ bare
  refine ⟨by simpa using numbered.trans later, ?_⟩
  have select : Opens (lit "SELECT ") :=
    (shows_piece (.word (lit "SELECT")) (by decide)).opens .space trivial rfl
  have opening : Opens (lit "(") := opens_loose (.mark 40) (by decide) rfl
  have both : Text.Shown (inner ++ (sql ", " ++ last)) := by
    have joined := Shows.between listed.shown opens_comma (stops_comma _) shown
    simpa [Text.Shown] using joined
  have closed : Text.Shown (sql "(" ++ (inner ++ (sql ", " ++ last)) ++ sql ")") := both.call opening
  have named := (shows_quoted 34 (by decide) capture).append
    (by exact (by decide : breaks 40 = true)) closed
  have whole := select _ _ named
  simpa [Text.Shown] using whole

/-- The builder writes the inputs of a statement alike when they are similar. -/
theorem arguments_agree {native : Native} {inputs others : List Zval}
    (similar : List.Forall₂ (Similar native .free) inputs others) :
    ∀ first, Agree (Same native) (arguments native first inputs) (arguments native first others)
      SameBytes := by
  induction similar with
  | nil => exact fun first => agree_pure rfl
  | cons head tail ih =>
    intro first
    refine ((lockstepAt 65).inferred head).bind fun argument twin bytes => ?_
    refine (ih false).bind fun rest copy also => agree_pure ?_
    simp only [SameBytes, Text.bytes_append] at bytes also ⊢
    rw [bytes, also]

/-- A batch of inputs that differ only in scalar payloads is converted by the same statement,
whose placeholders are `$1` to `$n`. -/
theorem conversionSql_nonInterfering {native : Native}
    (capture : Bytes) {inputs others : List Zval}
    (similar : List.Forall₂ (Similar native .free) inputs others) {after later : Builder}
    {text twin : Text} (one : conversionSql native capture inputs ⟨[], []⟩ = .ok (text, after))
    (two : conversionSql native capture others ⟨[], []⟩ = .ok (twin, later)) :
    text.bytes = twin.bytes ∧ Placeholders ⟨[], []⟩ text after ∧
      Placeholders ⟨[], []⟩ twin later := by
  have same : Same native ⟨[], []⟩ ⟨[], []⟩ := ⟨rfl, rfl, by simp⟩
  have agree : Agree (Same native) (conversionSql native capture inputs)
      (conversionSql native capture others) SameBytes := by
    refine (arguments_agree similar true).bind fun inner copy bytes => ?_
    refine (agree_collects (parameter_collects _) (parameter_collects _)).bind
      fun last final also => agree_pure ?_
    simp only [SameBytes, Text.bytes_append] at bytes also ⊢
    rw [bytes, also]
  exact ⟨(agree _ _ _ _ _ _ same one two).1,
    (conversionSql_writes capture inputs _ _ _ one).placeholders,
    (conversionSql_writes capture others _ _ _ two).placeholders⟩

end PhpDuckdb.Value
