import PhpDuckdb.Value.FieldNames
import PhpDuckdb.Value.Signature

/-!
# Declarations of the typed classes

The constructors of the typed classes assemble a declaration from the texts of their element types
and from quoted labels and names, and the parser reads it. What they assemble is canonical text
already: the parser finds the labels and names that were quoted, and the element types as they are.
-/

namespace PhpDuckdb.Value

open SqlText PhpDuckdb.Types

/-! ## The constructors -/

/-- The loop over the labels of an ENUM. -/
def enumLabels : Bool → Elements → Except Thrown Bytes
  | _, .nil => .ok []
  | first, .cons _ label rest =>
    match label.deref with
    | .string text => do
      let others ← enumLabels false rest
      .ok ((if first then [] else lit ", ") ++ quoted 39 text ++ others)
    | _ => .error (typeError "Enum labels must be strings")

/-- The declaration that `DuckDB\Enum` makes of its labels. -/
def enumType (labels : Elements) : Except Thrown Bytes :=
  if !labels.isList || labels.count = 0 then
    .error (valueError "Enum labels must be a non-empty sequential array of strings")
  else do
    let inner ← enumLabels true labels
    .ok (lit "ENUM(" ++ inner ++ lit ")")

/-- The declaration that `DuckDB\ListValue` makes of its element. -/
def listType (element : Zval) : Except Thrown Bytes := do
  let type ← typeSpec element
  .ok (type ++ lit "[]")

/-- The declaration that `DuckDB\ArrayValue` makes of its element and its length. -/
def arrayType (element : Zval) (length : Int64) : Except Thrown Bytes :=
  if length < 1 then .error (valueError "ArrayValue length must be positive")
  else do
    let type ← typeSpec element
    .ok (type ++ lit "[" ++ signedDecimal length.toInt ++ lit "]")

/-- The declaration that `DuckDB\Struct` makes of its fields. -/
def structType (fields : Elements) : Except Thrown Bytes := fieldType "STRUCT" fields

/-- The declaration that `DuckDB\Map` makes of its key and its value. -/
def mapType (key item : Zval) : Except Thrown Bytes := do
  let keyType ← typeSpec key
  let valueType ← typeSpec item
  .ok (lit "MAP(" ++ keyType ++ lit ", " ++ valueType ++ lit ")")

/-- The declaration that `DuckDB\Union` makes of its members. -/
def unionType (members : Elements) : Except Thrown Bytes := fieldType "UNION" members

/-- The declaration that `DuckDB\Geometry` makes of its reference system. -/
def geometryType (crs : Option Bytes) : Except Thrown Bytes :=
  .ok (lit "GEOMETRY" ++
    match crs with
    | some text => lit "(" ++ quoted 39 text ++ lit ")"
    | none => [])

/-- An identifier is given and empty. -/
def emptyName (identifier : Option Bytes) : Bool := identifier = some []

/-- The declaration that `DuckDB\CatalogValue` makes of its names. -/
def catalogType (name : Bytes) (schema catalog : Option Bytes) : Except Thrown Bytes :=
  if name = [] || emptyName schema || catalog.isSome && (emptyName catalog || schema.isNone) then
    .error (valueError
      "CatalogValue requires non-empty identifiers and a schema when catalog is specified")
  else
    .ok ((match catalog with
        | some text => quoted 34 text ++ lit "."
        | none => []) ++
      (match schema with
        | some text => quoted 34 text ++ lit "."
        | none => []) ++ quoted 34 name)

/-- A call of a constructor, without the value. -/
inductive Construction where
  /-- `DuckDB\Enum`. -/
  | enum (labels : Elements)
  /-- `DuckDB\ListValue`. -/
  | list (element : Zval)
  /-- `DuckDB\ArrayValue`. -/
  | array (element : Zval) (length : Int64)
  /-- `DuckDB\Struct`. -/
  | struct (fields : Elements)
  /-- `DuckDB\Map`. -/
  | map (key item : Zval)
  /-- `DuckDB\Union`. -/
  | union (members : Elements)
  /-- `DuckDB\Geometry`. -/
  | geometry (crs : Option Bytes)
  /-- `DuckDB\CatalogValue`. -/
  | catalog (name : Bytes) (schema catalog : Option Bytes)

/-- The declaration that the constructor assembles. -/
def Construction.declaration : Construction → Except Thrown Bytes
  | .enum labels => enumType labels
  | .list element => listType element
  | .array element length => arrayType element length
  | .struct fields => structType fields
  | .map key item => mapType key item
  | .union members => unionType members
  | .geometry crs => geometryType crs
  | .catalog name schema database => catalogType name schema database

/-! ## What they assemble -/

/-- A part of the declaration that a constructor makes. -/
inductive Part where
  /-- Text of the constructor. -/
  | mark (text : Bytes)
  /-- A label. -/
  | label (text : Bytes)
  /-- A name. -/
  | name (text : Bytes)
  /-- The canonical text of an element type. -/
  | type (text : Bytes)

/-- The text that a part of a declaration is written as. -/
def Part.bytes : Part → Bytes
  | .mark text => text
  | .label text => quoted 39 text
  | .name text => quoted 34 text
  | .type text => text

/-- The tokens that a text has by itself. -/
def scanned (text : Bytes) : List Token := (tokens text).toOption.getD []

/-- The tokens that a part of a declaration is read as. -/
def Part.tokens : Part → List Token
  | .mark text => scanned text
  | .label text => [⟨text, .label⟩]
  | .name text => [⟨text, .name⟩]
  | .type text => scanned text

/-- The label or the name of a part. -/
def Part.quotedText : Part → Option Bytes
  | .mark _ => none
  | .label text => some text
  | .name text => some text
  | .type _ => none

/-- The values of an array, in order. -/
def Elements.values : Elements → List Zval
  | .nil => []
  | .cons _ value rest => value :: rest.values

/-- The strings of an array, in order. -/
def Elements.strings : Elements → List Bytes
  | .nil => []
  | .cons _ value rest =>
    match value.deref with
    | .string text => text :: rest.strings
    | _ => rest.strings

/-- The element types that are specified. -/
def Construction.specs : Construction → List Zval
  | .enum _ => []
  | .list element => [element]
  | .array element _ => [element]
  | .struct fields => fields.values
  | .map key item => [key, item]
  | .union members => members.values
  | .geometry _ => []
  | .catalog _ _ _ => []

/-- The labels and names that a constructor quotes. -/
def Construction.names : Construction → List Bytes
  | .enum labels => labels.strings
  | .list _ => []
  | .array _ _ => []
  | .struct fields => fields.keys.map Key.packName
  | .map _ _ => []
  | .union members => members.keys.map Key.packName
  | .geometry crs => crs.toList
  | .catalog name schema database => database.toList ++ (schema.toList ++ [name])

/-- The labels of an ENUM, separated. -/
def labelParts : Bool → List Bytes → List Part
  | _, [] => []
  | first, label :: rest =>
    (if first then [] else [.mark (lit ", ")]) ++ (.label label :: labelParts false rest)

/-- The fields of a STRUCT or a UNION, separated. -/
def fieldParts : Bool → List Bytes → List Bytes → List Part
  | first, name :: names, type :: types =>
    (if first then [] else [.mark (lit ", ")]) ++
      (.name name :: .mark (lit " ") :: .type type :: fieldParts false names types)
  | _, _, _ => []

/-- The parts of a qualified name with dots between them. -/
def nameParts : List Bytes → List Part
  | [] => []
  | [name] => [.name name]
  | name :: rest => .name name :: .mark (lit ".") :: nameParts rest

/-- The parts of the declaration with the texts of the element types. -/
def Construction.parts : Construction → List Bytes → List Part
  | .enum labels, _ => .mark (lit "ENUM(") :: (labelParts true labels.strings ++ [.mark (lit ")")])
  | .list _, types => types.map .type ++ [.mark (lit "[]")]
  | .array _ length, types =>
    types.map .type ++ [.mark (lit "["), .mark (signedDecimal length.toInt), .mark (lit "]")]
  | .struct fields, types =>
    .mark (lit "STRUCT(") ::
      (fieldParts true (fields.keys.map Key.packName) types ++ [.mark (lit ")")])
  | .map _ _, types =>
    .mark (lit "MAP(") :: ((types.map .type).intersperse (.mark (lit ", ")) ++ [.mark (lit ")")])
  | .union members, types =>
    .mark (lit "UNION(") ::
      (fieldParts true (members.keys.map Key.packName) types ++ [.mark (lit ")")])
  | .geometry none, _ => [.mark (lit "GEOMETRY")]
  | .geometry (some crs), _ => [.mark (lit "GEOMETRY("), .label crs, .mark (lit ")")]
  | .catalog name schema database, _ => nameParts (database.toList ++ (schema.toList ++ [name]))

/-! ## Element types -/

/-- An accepted text is the text of a declaration. -/
theorem accepted_declared {declaration canonical : Bytes}
    (accepted : duckdbCanonicalizeType declaration = .ok canonical) :
    ∃ decl : Decl, decl.WellFormed ∧ canonical = render decl.pieces := by
  obtain ⟨decl, _, _, same, _, wellFormed, _⟩ := duckdbCanonicalizeType_sound accepted
  exact ⟨decl, wellFormed, same⟩

/-- The type of a scalar value class is the text of a declaration. -/
theorem scalarClassType_declared {name : Bytes} {type : String}
    (known : scalarClassType name = some type) :
    ∃ decl : Decl, decl.WellFormed ∧ lit type = render decl.pieces := by
  have heads : ∀ entry ∈ scalarValueClasses, HeadName (lit entry.2) := by decide +kernel
  obtain ⟨entry, found, rfl⟩ := Option.map_eq_some_iff.mp known
  refine ⟨declared (lit entry.2) .nil, ?_, ?_⟩
  · exact declared_wellFormed (heads entry (List.mem_of_find?_eq_some found)) trivial
  · exact (List.append_nil (lit entry.2)).symm

/-- An element type is the text of a declaration. -/
theorem typeSpec_declared {spec : Zval} {type : Bytes} (resolved : typeSpec spec = .ok type) :
    ∃ decl : Decl, decl.WellFormed ∧ type = render decl.pieces := by
  unfold typeSpec at resolved
  split at resolved
  · next text _ =>
    split at resolved
    · next known =>
      obtain rfl := Except.ok.inj resolved
      exact scalarClassType_declared known
    · split at resolved
      · cases resolved
      · next accepted =>
        obtain rfl := Except.ok.inj resolved
        exact accepted_declared accepted
  · next canonical _ _ =>
    obtain rfl := Except.ok.inj resolved
    obtain ⟨declaration, accepted⟩ := canonical.canonical
    exact accepted_declared accepted
  · cases resolved
  · cases resolved

/-- The text of a declaration has the tokens of the declaration. -/
theorem scanned_render {decl : Decl} (ok : decl.WellFormed) :
    scanned (render decl.pieces) = pieceTokens decl.pieces := by
  rw [scanned, ok.tokens]
  rfl

/-! ## Parts and pieces -/

/-- Parts with the text and the tokens of pieces. -/
structure Stands (parts : List Part) (pieces : List Piece) : Prop where
  /-- The text. -/
  bytes : parts.flatMap Part.bytes = render pieces
  /-- The tokens. -/
  tokens : parts.flatMap Part.tokens = pieceTokens pieces

/-- Parts after parts stand for the pieces of both. -/
theorem Stands.append {first second : List Part} {one two : List Piece} (left : Stands first one)
    (right : Stands second two) : Stands (first ++ second) (one ++ two) := by
  constructor
  · rw [List.flatMap_append, left.bytes, right.bytes, render_append]
  · rw [List.flatMap_append, left.tokens, right.tokens, pieceTokens_append]

/-- A part before parts stands for its pieces before theirs. -/
theorem Stands.cons {part : Part} {parts : List Part} {one two : List Piece}
    (left : Stands [part] one) (right : Stands parts two) : Stands (part :: parts) (one ++ two) :=
  left.append right

/-- Where nothing is written, nothing is read. -/
theorem stands_nil : Stands [] [] := ⟨rfl, rfl⟩

/-- A label stands for its text in single quotes. -/
theorem stands_label (text : Bytes) : Stands [.label text] [.quoted 39 text] := ⟨rfl, rfl⟩

/-- A name stands for its text in double quotes. -/
theorem stands_name (text : Bytes) : Stands [.name text] [.quoted 34 text] := ⟨rfl, rfl⟩

/-- An element type stands for the pieces of its declaration. -/
theorem stands_type {decl : Decl} (ok : decl.WellFormed) :
    Stands [.type (render decl.pieces)] decl.pieces := by
  constructor
  · exact List.append_nil (render decl.pieces)
  · exact (List.append_nil _).trans (scanned_render ok)

/-- Text of a constructor that is spelled as pieces. -/
theorem stands_mark {text : Bytes} {pieces : List Piece} (same : text = render pieces)
    (read : scanned text = pieceTokens pieces) : Stands [.mark text] pieces :=
  ⟨(List.append_nil text).trans same, (List.append_nil _).trans read⟩

/-- A separator stands for a comma and a space. -/
theorem stands_comma : Stands [.mark (lit ", ")] [.mark 44, .space] :=
  stands_mark (by decide) (by decide +kernel)

/-- The end of parameters stands for a closing parenthesis. -/
theorem stands_close : Stands [.mark (lit ")")] [.mark 41] :=
  stands_mark (by decide) (by decide +kernel)

/-- What stands before a parameter is a separator, unless the parameter is the first. -/
theorem stands_lead (first : Bool) :
    Stands (if first then [] else [.mark (lit ", ")]) (lead first) := by
  cases first with
  | true => exact stands_nil
  | false => exact stands_comma

/-- The labels of an ENUM, to the closing parenthesis. -/
theorem stands_labels : ∀ (first : Bool) (labels : List Bytes),
    Stands (labelParts first labels ++ [.mark (lit ")")]) ((labelParams labels).pieces first)
  | _, [] => stands_close
  | first, label :: rest => by
    rw [labelParts, List.append_assoc, List.cons_append]
    exact (stands_lead first).append ((stands_label label).cons (stands_labels false rest))

/-- The fields of a STRUCT or a UNION as parameters. -/
def fieldParams : List Bytes → List Decl → Params
  | name :: names, type :: types => .field (.quoted name) type (fieldParams names types)
  | _, _ => .nil

/-- The fields of a STRUCT or a UNION, to the closing parenthesis. -/
theorem stands_fields : ∀ (first : Bool) (names : List Bytes) {decls : List Decl},
    (∀ decl ∈ decls, decl.WellFormed) →
    Stands (fieldParts first names (decls.map fun decl => render decl.pieces) ++ [.mark (lit ")")])
      ((fieldParams names decls).pieces first)
  | _, [], _, _ => stands_close
  | _, _ :: _, [], _ => stands_close
  | first, name :: names, decl :: decls, ok => by
    obtain ⟨head, tail⟩ := List.forall_mem_cons.mp ok
    rw [List.map_cons, fieldParts, List.append_assoc]
    have space : Stands [.mark (lit " ")] [.space] := stands_mark (by decide) (by decide +kernel)
    have others := (stands_type head).cons (stands_fields false names tail)
    exact (stands_lead first).append ((stands_name name).cons (space.cons others))

/-- Fields are the parameters of a STRUCT or a UNION. -/
theorem fieldParams_wellFormed {base : Bytes} (fields : hasFields base = true) :
    ∀ {names : List Bytes} {decls : List Decl}, (∀ name ∈ names, 0 ∉ name) →
      (∀ decl ∈ decls, decl.WellFormed) → (fieldParams names decls).WellFormed base
  | [], _, _, _ => trivial
  | _ :: _, [], _, _ => trivial
  | name :: names, decl :: decls, clean, ok => by
    obtain ⟨head, tail⟩ := List.forall_mem_cons.mp ok
    obtain ⟨noNul, others⟩ := List.forall_mem_cons.mp clean
    exact ⟨fields, noNul, head, fieldParams_wellFormed fields others tail⟩

/-- A qualified name stands for its parts in double quotes with dots between them. -/
theorem stands_names : ∀ (head : Bytes) (rest : List Bytes),
    Stands (nameParts (head :: rest)) (.quoted 34 head :: dotPieces (rest.map .quoted))
  | head, [] => stands_name head
  | head, next :: rest => by
    have dot : Stands [.mark (lit ".")] [.mark 46] := stands_mark (by decide) (by decide +kernel)
    exact (stands_name head).cons (dot.cons (stands_names next rest))

/-! ## Assembled declarations -/

/-- What the parser makes of an assembled declaration. -/
structure Assembled (parts : List Part) (text : Bytes) : Prop where
  /-- It is the text of its parts. -/
  bytes : text = parts.flatMap Part.bytes
  /-- Its tokens are those of its parts. -/
  tokens : tokens text = .ok (parts.flatMap Part.tokens)
  /-- It is its own canonical form unless it exceeds the nesting limit. -/
  accepted : Limited (duckdbCanonicalizeType text) (.ok text)

/-- Parts that stand for a well-formed declaration are assembled to its text. -/
theorem Stands.assembled {parts : List Part} {decl : Decl} (stands : Stands parts decl.pieces)
    (ok : decl.WellFormed) : Assembled parts (render decl.pieces) :=
  ⟨stands.bytes.symm, ok.tokens.trans (congrArg Except.ok stands.tokens.symm), ok.limited⟩

/-- A declaration is assembled from the texts of the element types. -/
def Construction.Agrees (call : Construction) (text : Bytes) : Prop :=
  ∃ types, List.Forall₂ (fun spec type => typeSpec spec = .ok type) call.specs types ∧
    Assembled (call.parts types) text

/-- The texts of element types are those of declarations. -/
theorem typeSpecs_declared {specs : List Zval} {types : List Bytes}
    (resolved : List.Forall₂ (fun spec type => typeSpec spec = .ok type) specs types) :
    ∃ decls : List Decl, (∀ decl ∈ decls, decl.WellFormed) ∧
      types = decls.map fun decl => render decl.pieces := by
  induction resolved with
  | nil => exact ⟨[], nofun, rfl⟩
  | cons first _ ih =>
    obtain ⟨decls, ok, rfl⟩ := ih
    obtain ⟨decl, head, rfl⟩ := typeSpec_declared first
    exact ⟨decl :: decls, List.forall_mem_cons.mpr ⟨head, ok⟩, rfl⟩

/-- The labels of an ENUM are its strings. -/
theorem enumLabels_parts : ∀ {first : Bool} {labels : Elements} {inner : Bytes},
    enumLabels first labels = .ok inner →
    inner = (labelParts first labels.strings).flatMap Part.bytes ∧
      labels.strings.length = labels.count
  | _, .nil, inner, run => ⟨(Except.ok.inj run).symm, rfl⟩
  | first, .cons key label rest, inner, run => by
    rw [enumLabels] at run
    split at run
    · next text string =>
      obtain ⟨others, more, done⟩ := Outcome.bind_eq_ok.mp run
      obtain rfl := Except.ok.inj done
      obtain ⟨rfl, length⟩ := enumLabels_parts more
      rw [Elements.strings, string, Elements.count]
      refine ⟨?_, congrArg (· + 1) length⟩
      cases first with
      | true => rfl
      | false => exact List.append_assoc (lit ", ") _ _
    · cases run

/-- The fields of a declaration are named by their keys. -/
theorem declaredFields_parts {kind : String} : ∀ {first : Bool} {fields : Elements} {inner : Bytes},
    declaredFields kind first fields = .ok inner →
    ∃ types, List.Forall₂ (fun spec type => typeSpec spec = .ok type) fields.values types ∧
      inner = (fieldParts first (fields.keys.map Key.packName) types).flatMap Part.bytes
  | _, .nil, inner, run => ⟨[], .nil, (Except.ok.inj run).symm⟩
  | first, .cons key spec rest, inner, run => by
    obtain ⟨child, resolved, more⟩ := Outcome.bind_eq_ok.mp run
    obtain ⟨_, named⟩ := Outcome.ite_error_eq_ok.mp more
    obtain ⟨others, later, done⟩ := Outcome.bind_eq_ok.mp named
    obtain rfl := Except.ok.inj done
    obtain ⟨types, all, rfl⟩ := declaredFields_parts later
    refine ⟨child :: types, .cons resolved all, ?_⟩
    cases first with
    | true => simp [Elements.keys, fieldParts, Part.bytes]
    | false => simp [Elements.keys, fieldParts, Part.bytes]

/-- The declaration of an ENUM agrees with the labels it was made of. -/
theorem enum_agrees {labels : Elements} {text : Bytes} (run : enumType labels = .ok text)
    (clean : ∀ label ∈ labels.strings, 0 ∉ label) : (Construction.enum labels).Agrees text := by
  obtain ⟨listed, more⟩ := Outcome.ite_error_eq_ok.mp run
  obtain ⟨inner, looped, done⟩ := Outcome.bind_eq_ok.mp more
  obtain rfl := Except.ok.inj done
  obtain ⟨rfl, length⟩ := enumLabels_parts looped
  have some_ : (labelParams labels.strings).isNil = false := by
    cases strings : labels.strings with
    | nil =>
      rw [strings] at length
      exact absurd (by simp [← length]) listed
    | cons label rest => rfl
  have wellFormed : (declared (lit "ENUM") (labelParams labels.strings)).WellFormed :=
    declared_wellFormed (parameterized_head (by decide)) (labelParams_wellFormed clean (by decide))
  have opening : Stands [.mark (lit "ENUM(")] [.word (lit "ENUM"), .mark 40] :=
    stands_mark (by decide) (by decide +kernel)
  have stands := opening.cons (stands_labels true labels.strings)
  rw [← declared_pieces (lit "ENUM") some_] at stands
  have same := stands.assembled wellFormed
  rw [← stands.bytes] at same
  refine ⟨[], .nil, ?_⟩
  simpa [Construction.parts, Part.bytes] using same

/-- The declaration of a STRUCT or a UNION agrees with the fields it was made of. -/
theorem fieldType_agrees {kind : String} {fields : Elements} {text : Bytes}
    (run : fieldType kind fields = .ok text)
    (clean : ∀ name ∈ fields.keys.map Key.packName, 0 ∉ name)
    (isFields : hasFields (lit kind) = true) (head : HeadName (lit kind))
    (opening : Stands [.mark (lit kind ++ lit "(")] [.word (lit kind), .mark 40]) :
    ∃ types, List.Forall₂ (fun spec type => typeSpec spec = .ok type) fields.values types ∧
      Assembled (.mark (lit kind ++ lit "(") ::
        (fieldParts true (fields.keys.map Key.packName) types ++ [.mark (lit ")")])) text := by
  obtain ⟨some_, more⟩ := Outcome.ite_error_eq_ok.mp run
  obtain ⟨inner, looped, done⟩ := Outcome.bind_eq_ok.mp more
  obtain rfl := Except.ok.inj done
  obtain ⟨types, resolved, rfl⟩ := declaredFields_parts looped
  obtain ⟨decls, ok, rfl⟩ := typeSpecs_declared resolved
  have filled : (fieldParams (fields.keys.map Key.packName) decls).isNil = false := by
    cases fields with
    | nil => exact absurd rfl some_
    | cons key spec rest =>
      cases decls with
      | nil => cases resolved
      | cons decl decls => rfl
  have wellFormed :
      (declared (lit kind) (fieldParams (fields.keys.map Key.packName) decls)).WellFormed :=
    declared_wellFormed head (fieldParams_wellFormed isFields clean ok)
  have stands := opening.cons (stands_fields true (fields.keys.map Key.packName) ok)
  rw [← declared_pieces (lit kind) filled] at stands
  have same := stands.assembled wellFormed
  rw [← stands.bytes] at same
  refine ⟨_, resolved, ?_⟩
  simpa [Part.bytes] using same

/-- The declaration of a LIST agrees with the element type it was made of. -/
theorem list_agrees {element : Zval} {text : Bytes} (run : listType element = .ok text) :
    (Construction.list element).Agrees text := by
  obtain ⟨type, resolved, done⟩ := Outcome.bind_eq_ok.mp run
  obtain rfl := Except.ok.inj done
  obtain ⟨decl, ok, rfl⟩ := typeSpec_declared resolved
  have brackets : Stands [.mark (lit "[]")] (arrayPieces [none]) :=
    stands_mark (by decide) (by decide +kernel)
  have stands := (stands_type ok).cons brackets
  rw [← suffixed_pieces] at stands
  have same := stands.assembled (suffixed_wellFormed ok (by simp))
  rw [← stands.bytes] at same
  refine ⟨_, .cons resolved .nil, ?_⟩
  simpa [Construction.parts, Part.bytes] using same

/-- A positive number is spelled as its digits. -/
theorem signedDecimal_positive {length : Int64} (positive : ¬ length < 1) :
    signedDecimal length.toInt = decimal length.toInt.natAbs := by
  have lower : ¬ length.toInt < 0 := by
    rw [Int64.lt_iff_toInt_lt, Int64.toInt_one] at positive
    omega
  rw [signedDecimal, if_neg lower]

/-- The declaration of an ARRAY agrees with the element type and length it was made of. -/
theorem array_agrees {element : Zval} {length : Int64} {text : Bytes}
    (run : arrayType element length = .ok text) :
    (Construction.array element length).Agrees text := by
  obtain ⟨positive, more⟩ := Outcome.ite_error_eq_ok.mp run
  obtain ⟨type, resolved, done⟩ := Outcome.bind_eq_ok.mp more
  obtain rfl := Except.ok.inj done
  obtain ⟨decl, ok, rfl⟩ := typeSpec_declared resolved
  have digits : Stands [.mark (signedDecimal length.toInt)]
      [.number (decimal length.toInt.natAbs)] := by
    rw [signedDecimal_positive positive]
    apply stands_mark (List.append_nil _).symm
    rw [scanned, (spelling_number length.toInt.natAbs).tokens]
    rfl
  have opening : Stands [.mark (lit "[")] [.mark 91] := stands_mark (by decide) (by decide +kernel)
  have closing : Stands [.mark (lit "]")] [.mark 93] := stands_mark (by decide) (by decide +kernel)
  have stands := (stands_type ok).cons (opening.cons (digits.cons closing))
  have pieces : decl.pieces ++ ([.mark 91] ++ ([.number (decimal length.toInt.natAbs)] ++
      [.mark 93])) = (suffixed (some (decimal length.toInt.natAbs)) decl).pieces := by
    rw [suffixed_pieces]
    rfl
  rw [pieces] at stands
  have wellFormed : (suffixed (some (decimal length.toInt.natAbs)) decl).WellFormed := by
    apply suffixed_wellFormed ok
    intro size same
    obtain rfl := Option.some.inj same
    exact decimal_digits length.toInt.natAbs
  have same := stands.assembled wellFormed
  rw [← stands.bytes] at same
  refine ⟨_, .cons resolved .nil, ?_⟩
  simpa [Construction.parts, Part.bytes] using same

/-- The declaration of a MAP agrees with the key and value types it was made of. -/
theorem map_agrees {key item : Zval} {text : Bytes} (run : mapType key item = .ok text) :
    (Construction.map key item).Agrees text := by
  obtain ⟨keyType, first, more⟩ := Outcome.bind_eq_ok.mp run
  obtain ⟨valueType, second, done⟩ := Outcome.bind_eq_ok.mp more
  obtain rfl := Except.ok.inj done
  obtain ⟨one, ok, rfl⟩ := typeSpec_declared first
  obtain ⟨two, also, rfl⟩ := typeSpec_declared second
  have opening : Stands [.mark (lit "MAP(")] [.word (lit "MAP"), .mark 40] :=
    stands_mark (by decide) (by decide +kernel)
  have stands := opening.cons ((stands_type ok).cons
    (stands_comma.cons ((stands_type also).cons stands_close)))
  have pieces : [Piece.word (lit "MAP"), .mark 40] ++ (one.pieces ++ ([.mark 44, .space] ++
      (two.pieces ++ [.mark 41]))) = (declared (lit "MAP") (.type one (.type two .nil))).pieces := by
    rw [declared_pieces (lit "MAP") rfl]
    rfl
  rw [pieces] at stands
  have wellFormed : (declared (lit "MAP") (.type one (.type two .nil))).WellFormed :=
    declared_wellFormed (parameterized_head (by decide))
      ⟨by decide, by decide, ok, by decide, by decide, also, trivial⟩
  have same := stands.assembled wellFormed
  rw [← stands.bytes] at same
  refine ⟨_, .cons first (.cons second .nil), ?_⟩
  simpa [Construction.parts, Part.bytes] using same

/-- The declaration of a GEOMETRY agrees with the coordinate system it was made of. -/
theorem geometry_agrees {crs : Option Bytes} {text : Bytes} (run : geometryType crs = .ok text)
    (clean : ∀ label ∈ crs.toList, 0 ∉ label) : (Construction.geometry crs).Agrees text := by
  obtain rfl := Except.ok.inj run
  refine ⟨[], .nil, ?_⟩
  cases crs with
  | none =>
    have stands : Stands [.mark (lit "GEOMETRY")] (declared (lit "GEOMETRY") .nil).pieces :=
      stands_mark (by decide) (by decide +kernel)
    have same := stands.assembled (declared_wellFormed (parameterized_head (by decide)) trivial)
    rw [← stands.bytes] at same
    simpa [Construction.parts, Part.bytes] using same
  | some label =>
    have opening : Stands [.mark (lit "GEOMETRY(")] [.word (lit "GEOMETRY"), .mark 40] :=
      stands_mark (by decide) (by decide +kernel)
    have stands := opening.cons (stands_labels true [label])
    rw [← declared_pieces (lit "GEOMETRY") rfl] at stands
    have wellFormed : (declared (lit "GEOMETRY") (labelParams [label])).WellFormed :=
      declared_wellFormed (parameterized_head (by decide))
        (labelParams_wellFormed (List.forall_mem_singleton.mpr (clean label List.mem_cons_self))
          (by decide))
    have same := stands.assembled wellFormed
    rw [← stands.bytes] at same
    have joined : lit "GEOMETRY(" = lit "GEOMETRY" ++ lit "(" := by decide
    simpa [Construction.parts, labelParts, Part.bytes, joined] using same

/-- A qualified name of quoted parts is a declaration that the grammar reads. -/
theorem names_wellFormed {head : Bytes} {rest : List Bytes}
    (clean : ∀ name ∈ head :: rest, 0 ∉ name) :
    (Decl.mk (.quoted head) (rest.map .quoted) [] .nil []).WellFormed := by
  obtain ⟨first, others⟩ := List.forall_mem_cons.mp clean
  refine ⟨first, trivial, ?_, ?_, trivial, nofun⟩
  · intro part member
    obtain ⟨name, found, rfl⟩ := List.mem_map.mp member
    exact others name found
  · apply Phrase.plain
    intro same
    have starts := congrArg List.head? same
    cases starts

/-- The declaration of a type in the catalog agrees with the names it was made of. -/
theorem catalog_agrees {name : Bytes} {schema catalog : Option Bytes} {text : Bytes}
    (run : catalogType name schema catalog = .ok text)
    (clean : ∀ part ∈ catalog.toList ++ (schema.toList ++ [name]), 0 ∉ part) :
    (Construction.catalog name schema catalog).Agrees text := by
  obtain ⟨_, done⟩ := Outcome.ite_error_eq_ok.mp run
  obtain rfl := Except.ok.inj done
  refine ⟨[], .nil, ?_⟩
  obtain ⟨head, rest, names⟩ : ∃ head rest,
      catalog.toList ++ (schema.toList ++ [name]) = head :: rest := by
    cases catalog with
    | some database => exact ⟨database, _, rfl⟩
    | none =>
      cases schema with
      | some owner => exact ⟨owner, _, rfl⟩
      | none => exact ⟨name, [], rfl⟩
  have stands := stands_names head rest
  have pieces : Piece.quoted 34 head :: dotPieces (rest.map .quoted) =
      (Decl.mk (.quoted head) (rest.map .quoted) [] .nil []).pieces := by
    simp [Decl.pieces, basePieces, namePieces, wordPieces, Params.isNil, arrayPieces, Ident.piece]
  rw [pieces] at stands
  rw [names] at clean
  have same := stands.assembled (names_wellFormed clean)
  rw [← stands.bytes, ← names] at same
  rw [Construction.parts]
  cases catalog <;> cases schema <;> simpa [nameParts, Part.bytes] using same

/-! ## Labels and names -/

/-- The labels of an ENUM are what is quoted. -/
theorem quotedText_labels : ∀ (first : Bool) (labels : List Bytes),
    (labelParts first labels).filterMap Part.quotedText = labels
  | _, [] => rfl
  | true, label :: rest => congrArg (label :: ·) (quotedText_labels false rest)
  | false, label :: rest => congrArg (label :: ·) (quotedText_labels false rest)

/-- The names of fields are what is quoted. -/
theorem quotedText_fields : ∀ (first : Bool) {names types : List Bytes},
    names.length = types.length →
    (fieldParts first names types).filterMap Part.quotedText = names
  | _, [], _, _ => by simp [fieldParts]
  | _, _ :: _, [], length => by cases length
  | true, name :: names, type :: types, length =>
    congrArg (name :: ·) (quotedText_fields false (Nat.succ.inj length))
  | false, name :: names, type :: types, length =>
    congrArg (name :: ·) (quotedText_fields false (Nat.succ.inj length))

/-- The quoted texts of a qualified name are its parts. -/
theorem quotedText_names : ∀ names : List Bytes, (nameParts names).filterMap Part.quotedText = names
  | [] => rfl
  | [_] => rfl
  | name :: next :: rest => congrArg (name :: ·) (quotedText_names (next :: rest))

/-- There is one field name for each element type. -/
theorem packNames_length : ∀ {fields : Elements} {types : List Bytes},
    List.Forall₂ (fun spec type => typeSpec spec = .ok type) fields.values types →
    (fields.keys.map Key.packName).length = types.length
  | .nil, _, .nil => rfl
  | .cons _ _ _, _, .cons _ others => congrArg (· + 1) (packNames_length others)

/-- Exactly the labels and names of a construction are quoted by it. -/
theorem quotedText_parts {call : Construction} {types : List Bytes}
    (resolved : List.Forall₂ (fun spec type => typeSpec spec = .ok type) call.specs types) :
    (call.parts types).filterMap Part.quotedText = call.names := by
  cases call with
  | enum labels =>
    show (labelParts true labels.strings ++ [Part.mark (lit ")")]).filterMap _ = _
    rw [List.filterMap_append, quotedText_labels]
    exact List.append_nil _
  | list element | array element length =>
    cases resolved with
    | cons _ rest =>
      cases rest
      rfl
  | struct fields | union fields =>
    show (fieldParts true _ types ++ [Part.mark (lit ")")]).filterMap _ = _
    rw [List.filterMap_append, quotedText_fields true (packNames_length resolved)]
    exact List.append_nil _
  | map key item =>
    cases resolved with
    | cons _ rest =>
      cases rest with
      | cons _ others =>
        cases others
        rfl
  | geometry crs => cases crs <;> rfl
  | catalog name schema database => exact quotedText_names _

/-- The parser reads the declaration that a constructor assembles as its labels and names, quoted and
in order, among the tokens that the element types have by themselves; the declaration is its own
canonical form, with the texts of the element types in it, unless it exceeds the nesting limit. -/
theorem constructors_agree {call : Construction} {text : Bytes}
    (assembled : call.declaration = .ok text) (clean : ∀ name ∈ call.names, 0 ∉ name) :
    ∃ types, List.Forall₂ (fun spec type => typeSpec spec = .ok type) call.specs types ∧
      (call.parts types).filterMap Part.quotedText = call.names ∧
      Assembled (call.parts types) text := by
  have agrees : call.Agrees text := by
    cases call with
    | enum labels => exact enum_agrees assembled clean
    | list element => exact list_agrees assembled
    | array element length => exact array_agrees assembled
    | struct fields =>
      have joined : lit "STRUCT" ++ lit "(" = lit "STRUCT(" := by decide
      have fields := fieldType_agrees assembled clean (by decide) (parameterized_head (by decide))
        (stands_mark (by decide) (by decide +kernel))
      rwa [joined] at fields
    | map key item => exact map_agrees assembled
    | union members =>
      have joined : lit "UNION" ++ lit "(" = lit "UNION(" := by decide
      have fields := fieldType_agrees assembled clean (by decide) (parameterized_head (by decide))
        (stands_mark (by decide) (by decide +kernel))
      rwa [joined] at fields
    | geometry crs => exact geometry_agrees assembled clean
    | catalog name schema database => exact catalog_agrees assembled clean
  obtain ⟨types, resolved, read⟩ := agrees
  exact ⟨types, resolved, quotedText_parts resolved, read⟩

/-- A STRUCT whose first name looks like a field of its own, with a list in it. -/
def oddFields : Elements :=
  .cons (.name (lit "a\" INTEGER, \"b")) (.string (lit "double precision[]"))
    (.cons (.index 7) (.string (lit "\\duckdb\\timestamptz")) .nil)

/-- The declaration of a STRUCT with such names is read as two fields. -/
theorem constructors_agree_struct :
    ∃ types, List.Forall₂ (fun spec type => typeSpec spec = .ok type)
        (Construction.struct oddFields).specs types ∧
      ((Construction.struct oddFields).parts types).filterMap Part.quotedText =
        (Construction.struct oddFields).names ∧
      Assembled ((Construction.struct oddFields).parts types)
        (lit "STRUCT(\"a\"\" INTEGER, \"\"b\" DOUBLE PRECISION[], \"7\" TIMESTAMPTZ)") :=
  constructors_agree (by decide +kernel) (by decide +kernel)

end PhpDuckdb.Value
