import PhpDuckdb.Types.Lexer
import PhpDuckdb.Value.LogicalType
import PhpDuckdb.Value.Numbering

/-!
# Displayed types

`duckdb_logical_type_render` displays a type as DuckDB does, except that it writes the names of
fields and members and the labels of an ENUM as they are. `render_unambiguous` says for which of
them the text still tells which type it is.
-/

namespace PhpDuckdb.Value

open SqlText PhpDuckdb.Types

/-! ## The text of a type -/

/-- The labels of an ENUM, with a separator unless the first of them is the first label. -/
def renderLabels : Bool → List Bytes → Bytes
  | _, [] => []
  | first, label :: rest =>
    (if first then [] else lit ", ") ++ (39 :: (label ++ 39 :: renderLabels false rest))

mutual

/-- `duckdb_logical_type_render`. The parts of a type that is there can be resolved. -/
def duckdbLogicalTypeRender : LogicalType → Bytes
  | .plain id _ => lit id.name
  | .decimal width scale =>
    lit "DECIMAL(" ++ (decimal width ++ 44 :: (decimal scale ++ [41]))
  | .enum labels => lit "ENUM(" ++ (renderLabels true labels ++ [41])
  | .geometry none => lit "GEOMETRY"
  | .geometry (some crs) =>
    if crs = [] then lit "GEOMETRY" else lit "GEOMETRY('" ++ (escape 39 crs ++ lit "')")
  | .list child => duckdbLogicalTypeRender child ++ lit "[]"
  | .array child size => duckdbLogicalTypeRender child ++ 91 :: (decimal size ++ [93])
  | .map key value =>
    lit "MAP(" ++ (duckdbLogicalTypeRender key ++ (lit ", " ++
      (duckdbLogicalTypeRender value ++ [41])))
  | .struct members => lit "STRUCT(" ++ (renderMembers true members ++ [41])
  | .union members => lit "UNION(" ++ (renderMembers true members ++ [41])

/-- The members of a STRUCT or a UNION, with a separator unless the first of them is the first
member. -/
def renderMembers : Bool → Members → Bytes
  | _, .nil => []
  | first, .cons name type rest =>
    (if first then [] else lit ", ") ++ (name ++ 32 :: (duckdbLogicalTypeRender type ++
      renderMembers false rest))

end

/-- A type id as it is displayed: those that have no name are displayed as one. -/
def TypeId.displayed : TypeId → TypeId
  | .unknown _ => .unknown 0
  | id => id

/-- The id that a type is displayed with has the same name. -/
theorem displayed_name (id : TypeId) : id.displayed.name = id.name := by
  cases id <;> rfl

mutual

/-- A type with its aliases replaced by the types that they stand for. -/
def LogicalType.physical : LogicalType → LogicalType
  | .plain id _ => .plain id.displayed none
  | .decimal width scale => .decimal width scale
  | .enum labels => .enum labels
  | .geometry crs => .geometry crs
  | .list child => .list child.physical
  | .array child size => .array child.physical size
  | .map key value => .map key.physical value.physical
  | .struct members => .struct members.physical
  | .union members => .union members.physical

/-- The members of a STRUCT with the aliases in their types replaced. -/
def Members.physical : Members → Members
  | .nil => .nil
  | .cons name type rest => .cons name type.physical rest.physical

end

/-- A name that can be written without quotes: behind its first space is nothing that ends a type
or begins its parameters. -/
def PlainName (name : Bytes) : Prop :=
  ∀ before after, name = before ++ 32 :: after → 40 ∉ after ∧ 44 ∉ after

mutual

/-- What is written without quotes needs none: no label has a quote, and the names of members are
plain. A STRUCT and a UNION have a member, and a coordinate system is not empty. -/
def LogicalType.Displayable : LogicalType → Prop
  | .plain _ _ => True
  | .decimal _ _ => True
  | .enum labels => ∀ label ∈ labels, 39 ∉ label
  | .geometry crs => crs ≠ some []
  | .list child => child.Displayable
  | .array child _ => child.Displayable
  | .map key value => key.Displayable ∧ value.Displayable
  | .struct members => members ≠ .nil ∧ members.Displayable
  | .union members => members ≠ .nil ∧ members.Displayable

/-- Every member has a plain name and a type that can be displayed. -/
def Members.Displayable : Members → Prop
  | .nil => True
  | .cons name type rest => PlainName name ∧ type.Displayable ∧ rest.Displayable

end

/-! ## Ends of parts -/

/-- A run of bytes of a class ends where another byte follows. -/
theorem run_unique {class_ : UInt8 → Bool} {one two rest after : Bytes}
    (within : ∀ byte ∈ one, class_ byte = true) (also : ∀ byte ∈ two, class_ byte = true)
    (beyond : ∀ byte, rest.head? = some byte → class_ byte = false)
    (further : ∀ byte, after.head? = some byte → class_ byte = false)
    (same : one ++ rest = two ++ after) : one = two ∧ rest = after := by
  obtain ⟨run, left⟩ := span_of_stops within beyond
  obtain ⟨other, last⟩ := span_of_stops also further
  rw [same] at run left
  exact ⟨run.symm.trans other, left.symm.trans last⟩

/-- A number ends where no digit follows. -/
theorem decimal_unique {one two : Nat} {rest after : Bytes}
    (beyond : ∀ byte, rest.head? = some byte → isDigit byte = false)
    (further : ∀ byte, after.head? = some byte → isDigit byte = false)
    (same : decimal one ++ rest = decimal two ++ after) : one = two ∧ rest = after := by
  obtain ⟨digits, left⟩ :=
    run_unique (decimal_digits one).2 (decimal_digits two).2 beyond further same
  exact ⟨decimal_injective digits, left⟩

/-- A text whose first space has a parenthesis or a comma before it. -/
def Guarded (text : Bytes) : Prop :=
  ∀ before after, text = before ++ 32 :: after → 40 ∈ before ∨ 44 ∈ before

/-- The empty text has no space outside of brackets. -/
theorem guarded_nil : Guarded [] := by
  intro before after same
  cases before <;> cases same

/-- A parenthesis or a comma guards what follows. -/
theorem guarded_mark {byte : UInt8} (mark : byte = 40 ∨ byte = 44) (rest : Bytes) :
    Guarded (byte :: rest) := by
  intro before after same
  cases before with
  | nil =>
    obtain ⟨rfl, -⟩ := List.cons.inj same
    exact absurd mark (by decide)
  | cons first more =>
    obtain ⟨rfl, -⟩ := List.cons.inj same
    cases mark with
    | inl opens =>
      rw [opens]
      exact .inl List.mem_cons_self
    | inr comma =>
      rw [comma]
      exact .inr List.mem_cons_self

/-- Bytes that are no spaces change nothing. -/
theorem Guarded.behind {rest : Bytes} (guarded : Guarded rest) {text : Bytes}
    (spaceless : ∀ byte ∈ text, byte ≠ 32) : Guarded (text ++ rest) := by
  induction text with
  | nil => exact guarded
  | cons byte more ih =>
    obtain ⟨other, further⟩ := List.forall_mem_cons.mp spaceless
    intro before after same
    cases before with
    | nil => exact absurd (List.cons.inj same).1 other
    | cons first others =>
      obtain ⟨-, same⟩ := List.cons.inj same
      exact (ih further others after same).imp (List.mem_cons_of_mem first)
        (List.mem_cons_of_mem first)

/-- A plain name ends where something guarded follows a space. -/
theorem name_unique {one two rest after : Bytes} (plain : PlainName one) (also : PlainName two)
    (guarded : Guarded rest) (further : Guarded after)
    (same : one ++ 32 :: rest = two ++ 32 :: after) : one = two ∧ rest = after := by
  -- a longer name would go on behind a space with what guards the rest of the other
  have shorter {name other text last : Bytes} (plain : PlainName other) (guarded : Guarded text)
      {more : Bytes} (longer : other = name ++ more) (left : 32 :: text = more ++ 32 :: last) :
      name = other ∧ text = last := by
    cases more with
    | nil => exact ⟨(longer.trans (List.append_nil name)).symm, (List.cons.inj left).2⟩
    | cons byte more =>
      obtain ⟨rfl, behind⟩ := List.cons.inj left
      obtain ⟨noOpen, noComma⟩ := plain name more longer
      cases guarded more last behind with
      | inl opens => exact absurd opens noOpen
      | inr comma => exact absurd comma noComma
  cases List.append_eq_append_iff.mp same with
  | inl longer =>
    obtain ⟨more, goesOn, left⟩ := longer
    exact shorter also guarded goesOn left
  | inr longer =>
    obtain ⟨more, goesOn, left⟩ := longer
    obtain ⟨names, texts⟩ := shorter plain further goesOn left
    exact ⟨names.symm, texts.symm⟩

/-- Labels without quotes end where no label follows. -/
theorem labels_unique {one two : List Bytes} {first : Bool} {rest after : Bytes}
    (clean : ∀ label ∈ one, 39 ∉ label) (also : ∀ label ∈ two, 39 ∉ label)
    (same : renderLabels first one ++ 41 :: rest = renderLabels first two ++ 41 :: after) :
    one = two ∧ rest = after := by
  induction one generalizing two first with
  | nil =>
    cases two with
    | nil => exact ⟨rfl, (List.cons.inj same).2⟩
    | cons => cases first <;> cases (List.cons.inj same).1
  | cons label labels ih =>
    cases two with
    | nil => cases first <;> cases (List.cons.inj same).1
    | cons other others =>
      obtain ⟨unquoted, clean⟩ := List.forall_mem_cons.mp clean
      obtain ⟨free, also⟩ := List.forall_mem_cons.mp also
      rw [renderLabels, renderLabels, List.append_assoc, List.append_assoc] at same
      have text := List.append_cancel_left same
      rw [List.cons_append, List.cons_append, List.append_assoc, List.append_assoc,
        List.cons_append, List.cons_append] at text
      obtain ⟨-, text⟩ := List.cons.inj text
      obtain ⟨labels_, text⟩ := @run_unique (fun byte => byte != 39) _ _ _ _
        (fun byte inside => bne_iff_ne.mpr fun quote => unquoted (quote ▸ inside))
        (fun byte inside => bne_iff_ne.mpr fun quote => free (quote ▸ inside))
        (by simp) (by simp) text
      obtain ⟨more, left⟩ := ih clean also (List.cons.inj text).2
      exact ⟨by rw [labels_, more], left⟩

/-! ## Array suffixes -/

/-- The digits of the size of an array. A list has none. -/
def sizeDigits : Option Nat → Bytes
  | none => []
  | some size => decimal size

/-- The suffix of a list, or of an array of a size. -/
def dimension (size : Option Nat) : Bytes := 91 :: (sizeDigits size ++ [93])

/-- The suffixes of arrays and lists, the innermost first. -/
def dimensions : List (Option Nat) → Bytes
  | [] => []
  | size :: rest => dimension size ++ dimensions rest

/-- A type inside lists and arrays, the innermost first. -/
def wrapped : List (Option Nat) → LogicalType → LogicalType
  | [], type => type
  | none :: rest, type => wrapped rest (.list type)
  | some size :: rest, type => wrapped rest (.array type size)

/-- What stands between the brackets of a suffix is digits. -/
theorem sizeDigits_digits (size : Option Nat) :
    ∀ byte ∈ sizeDigits size, isDigit byte = true := by
  cases size with
  | none => nofun
  | some size => exact (decimal_digits size).2

/-- Different sizes have different digits, and a list has others. -/
theorem sizeDigits_injective {one two : Option Nat} (same : sizeDigits one = sizeDigits two) :
    one = two := by
  cases one with
  | none =>
    cases two with
    | none => rfl
    | some size => exact absurd same.symm (decimal_digits size).1
  | some size =>
    cases two with
    | none => exact absurd same (decimal_digits size).1
    | some other => rw [decimal_injective same]

/-- What can follow a type: a separator, the end of a list, or nothing. -/
structure Ends (rest : Bytes) : Prop where
  /-- Nothing else comes next. -/
  next : ∀ byte, rest.head? = some byte → byte = 44 ∨ byte = 41
  /-- Its first space is not behind a name. -/
  guarded : Guarded rest

/-- The suffixes of arrays and lists hold no space. -/
theorem dimensions_spaceless (sizes : List (Option Nat)) :
    ∀ byte ∈ dimensions sizes, byte ≠ 32 := by
  induction sizes with
  | nil => nofun
  | cons size rest ih =>
    intro byte inside
    cases List.mem_append.mp inside with
    | inr later => exact ih byte later
    | inl here =>
      rintro rfl
      simp only [dimension, List.mem_cons, List.mem_append, List.not_mem_nil, or_false] at here
      obtain bracket | digit | bracket := here
      · exact absurd bracket (by decide)
      · exact absurd (sizeDigits_digits size 32 digit) (by decide)
      · exact absurd bracket (by decide)

/-- Where no further bracket opens, the suffixes of a type end. -/
theorem dimensions_unique {one two : List (Option Nat)} {rest after : Bytes} (ends : Ends rest)
    (also : Ends after) (same : dimensions one ++ rest = dimensions two ++ after) :
    one = two ∧ rest = after := by
  have closed {size : Option Nat} {more text last : Bytes} (ends : Ends text) :
      text ≠ dimension size ++ more ++ last := by
    intro same
    have opens : text.head? = some 91 := by
      rw [same]
      cases size <;> rfl
    exact absurd (ends.next 91 opens) (by decide)
  induction one generalizing two with
  | nil =>
    cases two with
    | nil => exact ⟨rfl, same⟩
    | cons => exact absurd same (closed ends)
  | cons size sizes ih =>
    cases two with
    | nil => exact absurd same.symm (closed also)
    | cons other others =>
      simp only [dimensions, dimension, List.cons_append, List.append_assoc] at same
      obtain ⟨digits, behind⟩ := run_unique (sizeDigits_digits size) (sizeDigits_digits other)
        (by simp [isDigit]) (by simp [isDigit]) (List.cons.inj same).2
      obtain ⟨sizes_, left⟩ := ih (List.cons.inj behind).2
      exact ⟨by rw [sizeDigits_injective digits, sizes_], left⟩

/-! ## Heads -/

/-- A type that is no list and no array. -/
def LogicalType.isCore : LogicalType → Bool
  | .list _ => false
  | .array _ _ => false
  | _ => true

/-- What is written behind the name of a type. -/
def typeArguments : LogicalType → Bytes
  | .plain _ _ => []
  | .decimal width scale => 40 :: (decimal width ++ 44 :: (decimal scale ++ [41]))
  | .enum labels => 40 :: (renderLabels true labels ++ [41])
  | .geometry none => []
  | .geometry (some crs) => if crs = [] then [] else 40 :: 39 :: (escape 39 crs ++ [39, 41])
  | .list _ => []
  | .array _ _ => []
  | .map key value =>
    40 :: (duckdbLogicalTypeRender key ++ 44 :: 32 :: (duckdbLogicalTypeRender value ++ [41]))
  | .struct members => 40 :: (renderMembers true members ++ [41])
  | .union members => 40 :: (renderMembers true members ++ [41])

/-- A type is its name and what is behind it. -/
theorem render_core {type : LogicalType} (core : type.isCore = true) :
    duckdbLogicalTypeRender type = lit type.idName ++ typeArguments type := by
  have decimal_ : lit "DECIMAL(" = lit "DECIMAL" ++ [40] := by decide +kernel
  have enum_ : lit "ENUM(" = lit "ENUM" ++ [40] := by decide +kernel
  have geometry_ : lit "GEOMETRY('" = lit "GEOMETRY" ++ [40, 39] := by decide +kernel
  have quote_ : lit "')" = [39, 41] := by decide +kernel
  have map_ : lit "MAP(" = lit "MAP" ++ [40] := by decide +kernel
  have comma_ : lit ", " = [44, 32] := by decide +kernel
  have struct_ : lit "STRUCT(" = lit "STRUCT" ++ [40] := by decide +kernel
  have union_ : lit "UNION(" = lit "UNION" ++ [40] := by decide +kernel
  cases type with
  | plain id alias_ => exact (List.append_nil _).symm
  | decimal width scale => simp [duckdbLogicalTypeRender, typeArguments, LogicalType.idName, decimal_]
  | enum labels => simp [duckdbLogicalTypeRender, typeArguments, LogicalType.idName, enum_]
  | geometry crs =>
    cases crs with
    | none => exact (List.append_nil _).symm
    | some crs =>
      rw [duckdbLogicalTypeRender, typeArguments]
      split <;> simp [LogicalType.idName, geometry_, quote_]
  | list child => cases core
  | array child size => cases core
  | map key value =>
    simp [duckdbLogicalTypeRender, typeArguments, LogicalType.idName, map_, comma_]
  | struct members => simp [duckdbLogicalTypeRender, typeArguments, LogicalType.idName, struct_]
  | union members => simp [duckdbLogicalTypeRender, typeArguments, LogicalType.idName, union_]

/-- The names that types are rendered with are words. -/
theorem name_word :
    (∀ id : TypeId, ∀ byte ∈ lit id.name, isWordPart byte = true ∧ byte ≠ 32) ∧
      ∀ name ∈ ["DECIMAL", "ENUM", "GEOMETRY", "LIST", "ARRAY", "MAP", "STRUCT", "UNION"],
        ∀ byte ∈ lit name, isWordPart byte = true ∧ byte ≠ 32 := by
  refine ⟨fun id => ?_, by decide +kernel⟩
  cases id with
  | unknown other =>
    show ∀ byte ∈ lit "UNKNOWN", _
    decide +kernel
  | _ => decide +kernel

/-- The name of a type is one. -/
theorem idName_word (type : LogicalType) :
    ∀ byte ∈ lit type.idName, isWordPart byte = true ∧ byte ≠ 32 := by
  cases type with
  | plain id alias_ => exact name_word.1 id
  | _ => exact name_word.2 _ (by simp [LogicalType.idName])

/-- What is behind a name begins with a parenthesis. -/
theorem arguments_head {type : LogicalType} {byte : UInt8}
    (head : (typeArguments type).head? = some byte) : byte = 40 := by
  cases type with
  | geometry crs =>
    cases crs with
    | none => cases head
    | some crs =>
      rw [typeArguments] at head
      split at head
      · cases head
      · exact (Option.some.inj head).symm
  | plain => cases head
  | list => cases head
  | array => cases head
  | _ => exact (Option.some.inj head).symm

/-- What is written behind the arguments of a type, its suffixes included. -/
structure Behind (rest : Bytes) : Prop where
  /-- Nothing else comes next. -/
  next : ∀ byte, rest.head? = some byte → byte = 44 ∨ byte = 41 ∨ byte = 91
  /-- Its first space is not behind a name. -/
  guarded : Guarded rest

/-- Array suffixes can follow a type, and then its end. -/
theorem Ends.behind {rest : Bytes} (ends : Ends rest) (sizes : List (Option Nat)) :
    Behind (dimensions sizes ++ rest) where
  next byte head := by
    cases sizes with
    | nil =>
      cases ends.next byte head with
      | inl comma => exact .inl comma
      | inr closes => exact .inr (.inl closes)
    | cons size others => exact .inr (.inr (Option.some.inj head).symm)
  guarded := ends.guarded.behind (dimensions_spaceless sizes)

/-- Behind the name of a type no word goes on. -/
theorem arguments_end {rest : Bytes} (behind : Behind rest) (type : LogicalType) (byte : UInt8)
    (head : (typeArguments type ++ rest).head? = some byte) : isWordPart byte = false := by
  rw [List.head?_append] at head
  cases opens : (typeArguments type).head? with
  | none =>
    rw [opens] at head
    obtain rfl | rfl | rfl := behind.next byte head <;> decide
  | some other =>
    rw [opens] at head
    obtain rfl := Option.some.inj head
    rw [arguments_head opens]
    decide

/-- Types of one constructor, whatever their parts; plain ones are displayed as one id. -/
inductive SameKind : LogicalType → LogicalType → Prop
  | plain (id last : TypeId) (alias_ other : Option Bytes) (same : id.displayed = last.displayed) :
    SameKind (.plain id alias_) (.plain last other)
  | decimal (width scale other last : Nat) : SameKind (.decimal width scale) (.decimal other last)
  | enum (labels others : List Bytes) : SameKind (.enum labels) (.enum others)
  | geometry (crs other : Option Bytes) : SameKind (.geometry crs) (.geometry other)
  | map (key value other last : LogicalType) : SameKind (.map key value) (.map other last)
  | struct (members others : Members) : SameKind (.struct members) (.struct others)
  | union (members others : Members) : SameKind (.union members) (.union others)

/-- The types without parameters, by their names. -/
def plainNames : List (TypeId × Bytes) :=
  [.boolean, .tinyint, .smallint, .integer, .bigint, .utinyint, .usmallint, .uinteger, .ubigint,
    .float, .double, .timestamp, .date, .time, .interval, .hugeint, .uhugeint, .varchar, .blob,
    .timestampS, .timestampMs, .timestampNs, .uuid, .bit, .timeTz, .timestampTz, .timestampTzNs,
    .timeNs, .variant, .bignum, .sqlnull, .unknown 0].map fun id : TypeId => (id, lit id.name)

/-- The list has the name of every plain type. -/
theorem known_plain (id : TypeId) : (id.displayed, lit id.name) ∈ plainNames := by
  rw [plainNames, ← displayed_name]
  apply List.mem_map_of_mem
  cases id with
  | unknown other =>
    show TypeId.unknown 0 ∈ _
    decide
  | _ => decide

/-- Two plain types of one name are displayed alike. -/
theorem name_injective {one two : TypeId} (same : lit one.name = lit two.name) :
    one.displayed = two.displayed := by
  have distinct : (plainNames.map Prod.snd).Nodup := by decide +kernel
  have pair := List.inj_on_of_nodup_map distinct (known_plain one) (known_plain two) same
  exact congrArg Prod.fst pair

/-- The names of types with parameters. -/
def parameterNames : List Bytes := ["DECIMAL", "ENUM", "GEOMETRY", "MAP", "STRUCT", "UNION"].map lit

/-- No plain type has the name of a type with parameters. -/
theorem name_other (id : TypeId) {name : Bytes} (known : name ∈ parameterNames) :
    lit id.name ≠ name := by
  have none : ∀ name ∈ parameterNames, name ∉ plainNames.map Prod.snd := by decide +kernel
  intro same
  apply none name known
  rw [← same]
  exact List.mem_map.mpr ⟨_, known_plain id, rfl⟩

/-- The kind of a type with parameters, by the first byte of its name. -/
theorem parameterName_head :
    (lit "DECIMAL").head? = some 68 ∧ (lit "ENUM").head? = some 69 ∧
      (lit "GEOMETRY").head? = some 71 ∧ (lit "MAP").head? = some 77 ∧
      (lit "STRUCT").head? = some 83 ∧ (lit "UNION").head? = some 85 := by
  decide +kernel

/-- Types with one name are of one kind. -/
theorem sameKind_of_idName {one two : LogicalType} (core : one.isCore = true)
    (also : two.isCore = true) (same : lit one.idName = lit two.idName) : SameKind one two := by
  have known : ∀ name ∈ ["DECIMAL", "ENUM", "GEOMETRY", "MAP", "STRUCT", "UNION"],
      lit name ∈ parameterNames := fun name inside => List.mem_map_of_mem inside
  obtain ⟨decimal_, enum_, geometry_, map_, struct_, union_⟩ := parameterName_head
  have heads := congrArg List.head? same
  cases one with
  | list => cases core
  | array => cases core
  | plain id alias_ =>
    cases two with
    | plain other last =>
      exact .plain _ other alias_ last (name_injective same)
    | list => cases also
    | array => cases also
    | _ => exact absurd same (name_other id (known _ (by simp [LogicalType.idName])))
  | _ =>
    cases two with
    | plain other last =>
      exact absurd same.symm (name_other other (known _ (by simp [LogicalType.idName])))
    | list => cases also
    | array => cases also
    | _ =>
      first
      | constructor
      | simp [LogicalType.idName, decimal_, enum_, geometry_, map_, struct_, union_] at heads

/-- Two types are told apart by their names and what is behind them. -/
theorem heads_unique {one two : LogicalType} {rest after : Bytes} (core : one.isCore = true)
    (also : two.isCore = true) (behind : Behind rest) (further : Behind after)
    (same : duckdbLogicalTypeRender one ++ rest = duckdbLogicalTypeRender two ++ after) :
    SameKind one two ∧ typeArguments one ++ rest = typeArguments two ++ after := by
  rw [render_core core, render_core also, List.append_assoc, List.append_assoc] at same
  obtain ⟨names, left⟩ := run_unique (fun byte inside => (idName_word one byte inside).1)
    (fun byte inside => (idName_word two byte inside).1) (arguments_end behind one)
    (arguments_end further two) same
  exact ⟨sameKind_of_idName core also names, left⟩

/-! ## Whole types -/

/-- The text of a type that is no list and no array guards its spaces. -/
theorem guarded_core {type : LogicalType} (core : type.isCore = true) {rest : Bytes}
    (guarded : Guarded rest) : Guarded (duckdbLogicalTypeRender type ++ rest) := by
  rw [render_core core, List.append_assoc]
  apply Guarded.behind _ fun byte inside => (idName_word type byte inside).2
  cases shape : typeArguments type with
  | nil => exact guarded
  | cons byte more =>
    have opens : byte = 40 := arguments_head (by rw [shape]; rfl)
    exact guarded_mark (.inl opens) _

/-- The suffix of an array comes before those of its dimensions. -/
theorem dimensions_array (size : Nat) (sizes : List (Option Nat)) (rest : Bytes) :
    91 :: (decimal size ++ [93]) ++ (dimensions sizes ++ rest) =
      dimensions (some size :: sizes) ++ rest := by
  rw [dimensions, List.append_assoc]
  rfl

/-- The text of every type guards its spaces by brackets or quotes. -/
theorem guarded_render {rest : Bytes} : ∀ (type : LogicalType) (sizes : List (Option Nat)),
    Guarded rest → Guarded (duckdbLogicalTypeRender type ++ (dimensions sizes ++ rest))
  | .list child, sizes, guarded => by
    rw [duckdbLogicalTypeRender, List.append_assoc]
    exact guarded_render child (none :: sizes) guarded
  | .array child size, sizes, guarded => by
    rw [duckdbLogicalTypeRender, List.append_assoc, dimensions_array]
    exact guarded_render child (some size :: sizes) guarded
  | .plain _ _, sizes, guarded => guarded_core rfl (guarded.behind (dimensions_spaceless sizes))
  | .decimal _ _, sizes, guarded => guarded_core rfl (guarded.behind (dimensions_spaceless sizes))
  | .enum _, sizes, guarded => guarded_core rfl (guarded.behind (dimensions_spaceless sizes))
  | .geometry _, sizes, guarded => guarded_core rfl (guarded.behind (dimensions_spaceless sizes))
  | .map _ _, sizes, guarded => guarded_core rfl (guarded.behind (dimensions_spaceless sizes))
  | .struct _, sizes, guarded => guarded_core rfl (guarded.behind (dimensions_spaceless sizes))
  | .union _, sizes, guarded => guarded_core rfl (guarded.behind (dimensions_spaceless sizes))

/-- Two types in their suffixes, small together, are told apart by their texts. -/
def Unique (bound : Nat) : Prop :=
  ∀ (one two : LogicalType) (sizes others : List (Option Nat)) (rest after : Bytes),
    sizeOf one + sizeOf two < bound → one.Displayable → two.Displayable → Ends rest → Ends after →
      duckdbLogicalTypeRender one ++ (dimensions sizes ++ rest) =
        duckdbLogicalTypeRender two ++ (dimensions others ++ after) →
      wrapped sizes one.physical = wrapped others two.physical ∧ rest = after

/-- Types without suffixes are told apart when all smaller types are. -/
theorem Unique.bare {bound : Nat} (unique : Unique bound) {one two : LogicalType}
    {rest after : Bytes} (small : sizeOf one + sizeOf two < bound) (clean : one.Displayable)
    (also : two.Displayable) (ends : Ends rest) (further : Ends after)
    (same : duckdbLogicalTypeRender one ++ rest = duckdbLogicalTypeRender two ++ after) :
    one.physical = two.physical ∧ rest = after :=
  unique one two [] [] rest after small clean also ends further same

/-- A comma can stand behind the text of a type. -/
theorem ends_comma (rest : Bytes) : Ends (44 :: rest) :=
  ⟨fun _ head => .inl (Option.some.inj head).symm, guarded_mark (.inr rfl) rest⟩

/-- The closing parenthesis of a list can stand behind the text of a type. -/
theorem ends_close {rest : Bytes} (guarded : Guarded rest) : Ends (41 :: rest) where
  next _ head := .inr (Option.some.inj head).symm
  guarded := @Guarded.behind rest guarded [41] (List.forall_mem_singleton.mpr (by decide))

/-- More members and the closing parenthesis can stand behind the text of a type. -/
theorem ends_members {rest : Bytes} (guarded : Guarded rest) (members : Members) :
    Ends (renderMembers false members ++ 41 :: rest) := by
  cases members with
  | nil => exact ends_close guarded
  | cons name type more => exact ends_comma _

/-- Members are told apart by their texts when their types are. -/
theorem members_unique {bound : Nat} (unique : Unique bound) : ∀ (one two : Members) {first : Bool}
    {rest after : Bytes}, sizeOf one + sizeOf two < bound →
      (first = true → one ≠ .nil ∧ two ≠ .nil) → one.Displayable → two.Displayable →
      Guarded rest → Guarded after →
      renderMembers first one ++ 41 :: rest = renderMembers first two ++ 41 :: after →
      one.physical = two.physical ∧ rest = after
  | .nil, .nil, _, _, _, _, _, _, _, _, _, same => ⟨rfl, (List.cons.inj same).2⟩
  | .nil, .cons _ _ _, first, _, _, _, some_, _, _, _, _, same => by
    cases first with
    | true => exact absurd rfl (some_ rfl).1
    | false => cases (List.cons.inj same).1
  | .cons _ _ _, .nil, first, _, _, _, some_, _, _, _, _, same => by
    cases first with
    | true => exact absurd rfl (some_ rfl).2
    | false => cases (List.cons.inj same).1
  | .cons name type rest_, .cons other last others, first, rest, after, small, _, clean, also,
      guarded, further, same => by
    rw [Members.cons.sizeOf_spec, Members.cons.sizeOf_spec] at small
    obtain ⟨plain, displayable, clean⟩ := clean
    obtain ⟨unquoted, readable, also⟩ := also
    simp only [renderMembers, List.append_assoc, List.cons_append] at same
    have text := List.append_cancel_left same
    have ends := ends_members guarded rest_
    have ends_ := ends_members further others
    obtain ⟨names, text⟩ := name_unique plain unquoted (guarded_render type [] ends.guarded)
      (guarded_render last [] ends_.guarded) text
    obtain ⟨types, text⟩ := unique.bare (by omega) displayable readable ends ends_ text
    obtain ⟨more, left⟩ := @members_unique bound unique rest_ others false rest after (by omega)
      nofun clean also guarded further text
    exact ⟨by rw [Members.physical, Members.physical, names, types, more], left⟩

/-- Coordinate systems are told apart, since they are quoted. -/
theorem geometry_unique {crs other : Option Bytes} {rest after : Bytes} (some_ : crs ≠ some [])
    (also : other ≠ some []) (behind : Behind rest) (further : Behind after)
    (same : typeArguments (.geometry crs) ++ rest = typeArguments (.geometry other) ++ after) :
    (LogicalType.geometry crs).physical = (LogicalType.geometry other).physical ∧ rest = after := by
  have written {text : Bytes} (some_ : some text ≠ some []) (last : Bytes) :
      typeArguments (.geometry (some text)) ++ last =
        40 :: 39 :: (escape 39 text ++ 39 :: 41 :: last) := by
    have whole : text ≠ [] := fun none => some_ (congrArg some none)
    rw [typeArguments, if_neg whole]
    simp
  cases crs with
  | none =>
    cases other with
    | none => exact ⟨rfl, same⟩
    | some text =>
      rw [written also] at same
      exact absurd (behind.next 40 (congrArg List.head? same)) (by decide)
  | some crs =>
    rw [written some_] at same
    cases other with
    | none => exact absurd (further.next 40 (congrArg List.head? same).symm) (by decide)
    | some other =>
      rw [written also] at same
      obtain ⟨-, text⟩ := List.cons.inj same
      obtain ⟨-, text⟩ := List.cons.inj text
      have first := @quotedToken_escape 39 crs (41 :: rest) (by simp)
      rw [text, quotedToken_escape other (by simp)] at first
      obtain ⟨contents, left⟩ := Prod.mk.inj (Option.some.inj first)
      exact ⟨by rw [contents], (List.cons.inj left).2.symm⟩

/-- Types of one kind are told apart by what is behind their names. -/
theorem arguments_unique {bound : Nat} (unique : Unique bound) {one two : LogicalType}
    {rest after : Bytes} (kind : SameKind one two) (small : sizeOf one + sizeOf two ≤ bound)
    (clean : one.Displayable) (also : two.Displayable) (behind : Behind rest)
    (further : Behind after) (same : typeArguments one ++ rest = typeArguments two ++ after) :
    one.physical = two.physical ∧ rest = after := by
  cases kind with
  | plain id last alias_ other alike =>
    exact ⟨by rw [LogicalType.physical, LogicalType.physical, alike], same⟩
  | decimal width scale other last =>
    simp only [typeArguments, List.cons_append, List.append_assoc] at same
    obtain ⟨widths, text⟩ := decimal_unique (by simp [isDigit]) (by simp [isDigit])
      (List.cons.inj same).2
    obtain ⟨scales, text⟩ := decimal_unique (by simp [isDigit]) (by simp [isDigit])
      (List.cons.inj text).2
    exact ⟨by rw [widths, scales], (List.cons.inj text).2⟩
  | enum labels others =>
    simp only [typeArguments, List.cons_append, List.append_assoc] at same
    obtain ⟨labels_, left⟩ := labels_unique clean also (List.cons.inj same).2
    exact ⟨by rw [labels_], left⟩
  | geometry crs other => exact geometry_unique clean also behind further same
  | map key value other last =>
    rw [LogicalType.map.sizeOf_spec, LogicalType.map.sizeOf_spec] at small
    simp only [typeArguments, List.cons_append, List.append_assoc] at same
    obtain ⟨keys, text⟩ := unique.bare (by omega) clean.1 also.1 (ends_comma _) (ends_comma _)
      (List.cons.inj same).2
    obtain ⟨values, text⟩ := unique.bare (by omega) clean.2 also.2 (ends_close behind.guarded)
      (ends_close further.guarded) (List.cons.inj (List.cons.inj text).2).2
    exact ⟨by rw [LogicalType.physical, LogicalType.physical, keys, values],
      (List.cons.inj text).2⟩
  | struct members others =>
    rw [LogicalType.struct.sizeOf_spec, LogicalType.struct.sizeOf_spec] at small
    simp only [typeArguments, List.cons_append, List.append_assoc] at same
    obtain ⟨members_, left⟩ := members_unique unique members others (by omega)
      (fun _ => ⟨clean.1, also.1⟩) clean.2 also.2 behind.guarded further.guarded
      (List.cons.inj same).2
    exact ⟨by rw [LogicalType.physical, LogicalType.physical, members_], left⟩
  | union members others =>
    rw [LogicalType.union.sizeOf_spec, LogicalType.union.sizeOf_spec] at small
    simp only [typeArguments, List.cons_append, List.append_assoc] at same
    obtain ⟨members_, left⟩ := members_unique unique members others (by omega)
      (fun _ => ⟨clean.1, also.1⟩) clean.2 also.2 behind.guarded further.guarded
      (List.cons.inj same).2
    exact ⟨by rw [LogicalType.physical, LogicalType.physical, members_], left⟩

/-- Types in their suffixes are told apart by their texts. -/
theorem render_unique : ∀ bound, Unique bound := by
  intro bound
  induction bound with
  | zero => exact fun _ _ _ _ _ _ small => absurd small (Nat.not_lt_zero _)
  | succ bound ih =>
    intro one two sizes others rest after small clean also ends further same
    cases first : one.isCore with
    | false =>
      cases one with
      | list child =>
        rw [LogicalType.list.sizeOf_spec] at small
        rw [duckdbLogicalTypeRender, List.append_assoc] at same
        exact ih child two (none :: sizes) others rest after (by omega) clean also ends further same
      | array child size =>
        rw [LogicalType.array.sizeOf_spec] at small
        rw [duckdbLogicalTypeRender, List.append_assoc, dimensions_array] at same
        exact ih child two (some size :: sizes) others rest after (by omega) clean also ends further
          same
      | _ => cases first
    | true =>
      cases second : two.isCore with
      | false =>
        cases two with
        | list child =>
          rw [LogicalType.list.sizeOf_spec] at small
          rw [@duckdbLogicalTypeRender.eq_def (.list child), List.append_assoc] at same
          exact ih one child sizes (none :: others) rest after (by omega) clean also ends further
            same
        | array child size =>
          rw [LogicalType.array.sizeOf_spec] at small
          rw [@duckdbLogicalTypeRender.eq_def (.array child size), List.append_assoc,
            dimensions_array] at same
          exact ih one child sizes (some size :: others) rest after (by omega) clean also ends
            further same
        | _ => cases second
      | true =>
        obtain ⟨kind, left⟩ := heads_unique first second (ends.behind sizes) (further.behind others)
          same
        obtain ⟨types, left⟩ := arguments_unique ih kind (Nat.le_of_lt_succ small) clean also
          (ends.behind sizes) (further.behind others) left
        obtain ⟨suffixes, left⟩ := dimensions_unique ends further left
        exact ⟨by rw [types, suffixes], left⟩

mutual

/-- An alias is displayed as the type that it stands for. -/
theorem render_physical : ∀ type : LogicalType,
    duckdbLogicalTypeRender type.physical = duckdbLogicalTypeRender type
  | .plain id _ => congrArg lit (displayed_name id)
  | .decimal _ _ => rfl
  | .enum _ => rfl
  | .geometry _ => rfl
  | .list child => by
    rw [LogicalType.physical, duckdbLogicalTypeRender, duckdbLogicalTypeRender,
      render_physical child]
  | .array child size => by
    rw [LogicalType.physical, duckdbLogicalTypeRender, duckdbLogicalTypeRender,
      render_physical child]
  | .map key value => by
    rw [LogicalType.physical, duckdbLogicalTypeRender, duckdbLogicalTypeRender,
      render_physical key, render_physical value]
  | .struct members => by
    rw [LogicalType.physical, duckdbLogicalTypeRender, duckdbLogicalTypeRender,
      renderMembers_physical]
  | .union members => by
    rw [LogicalType.physical, duckdbLogicalTypeRender, duckdbLogicalTypeRender,
      renderMembers_physical]

/-- The aliases in the types of members do not show in their text. -/
theorem renderMembers_physical : ∀ (first : Bool) (members : Members),
    renderMembers first members.physical = renderMembers first members
  | _, .nil => rfl
  | first, .cons name type rest => by
    rw [Members.physical, renderMembers, renderMembers, render_physical type,
      renderMembers_physical false rest]

end

/-- **Types whose names and labels need no quotes are displayed alike exactly when they differ in
nothing but aliases.** -/
theorem render_unambiguous {one two : LogicalType} (clean : one.Displayable)
    (also : two.Displayable) :
    duckdbLogicalTypeRender one = duckdbLogicalTypeRender two ↔ one.physical = two.physical := by
  constructor
  · intro same
    have ends : Ends [] := ⟨nofun, guarded_nil⟩
    have texts : duckdbLogicalTypeRender one ++ [] = duckdbLogicalTypeRender two ++ [] := by
      rw [same]
    exact ((render_unique _).bare (Nat.lt_succ_self _) clean also ends ends texts).1
  · intro same
    rw [← render_physical one, same, render_physical two]

/-- The name of a field may have spaces. -/
theorem render_unambiguous_spaced :
    duckdbLogicalTypeRender (.struct (.cons [97, 32, 98] (.decimal 10 2) .nil)) =
        duckdbLogicalTypeRender (.list (.decimal 10 2)) ↔
      (LogicalType.struct (.cons [97, 32, 98] (.decimal 10 2) .nil)).physical =
        (LogicalType.list (.decimal 10 2)).physical := by
  refine render_unambiguous ⟨nofun, ?_, trivial, trivial⟩ trivial
  intro before after same
  have inside : ∀ byte ∈ after, byte ∈ [97, 32, 98] := fun byte member => by
    rw [same]
    exact List.mem_append_right before (List.mem_cons_of_mem 32 member)
  exact ⟨fun opens => absurd (inside 40 opens) (by decide),
    fun comma => absurd (inside 44 comma) (by decide)⟩

/-! ## What needs quotes -/

/-- Two labels are displayed like one that has the end of one and the beginning of another in it. -/
theorem labels_alike (first : Bool) (label other : Bytes) (rest : List Bytes) :
    renderLabels first (label :: other :: rest) =
      renderLabels first ((label ++ lit "', '" ++ other) :: rest) := by
  have separator : lit "', '" = 39 :: (lit ", " ++ [39]) := by decide +kernel
  simp [renderLabels, separator]

/-- Two members are displayed like one whose name has the first of them in it. -/
theorem members_alike (first : Bool) (name other : Bytes) (type last : LogicalType)
    (rest : Members) :
    renderMembers first (.cons name type (.cons other last rest)) =
      renderMembers first
        (.cons (name ++ 32 :: (duckdbLogicalTypeRender type ++ lit ", " ++ other)) last rest) := by
  simp [renderMembers]

/-- **An ENUM of two labels and one of one label, and a STRUCT of two fields and one of one field,
are displayed alike.** -/
theorem displayed_alike :
    ((LogicalType.enum [lit "a", lit "b"]).physical ≠ (LogicalType.enum [lit "a', 'b"]).physical ∧
        duckdbLogicalTypeRender (.enum [lit "a", lit "b"]) =
          duckdbLogicalTypeRender (.enum [lit "a', 'b"])) ∧
      (LogicalType.struct (.cons (lit "a") (.plain .integer none)
            (.cons (lit "b") (.plain .integer none) .nil))).physical ≠
          (LogicalType.struct (.cons (lit "a INTEGER, b") (.plain .integer none) .nil)).physical ∧
        duckdbLogicalTypeRender (.struct (.cons (lit "a") (.plain .integer none)
            (.cons (lit "b") (.plain .integer none) .nil))) =
          duckdbLogicalTypeRender
            (.struct (.cons (lit "a INTEGER, b") (.plain .integer none) .nil)) := by
  refine ⟨⟨fun same => ?_, by decide +kernel⟩, fun same => ?_, by decide +kernel⟩
  · exact absurd (congrArg List.length (LogicalType.enum.inj same)) (by decide)
  · obtain ⟨-, -, rest⟩ := Members.cons.inj (LogicalType.struct.inj same)
    cases rest

end PhpDuckdb.Value
