import PhpDuckdb.Callback.Registration
import PhpDuckdb.Value.Declared

/-!
# Types by their SQL text

`sql_type` spells a logical type, and scalar functions are told apart by the spelling of their
parameters and of their result. The spelling is a declaration: the parser reads the names, labels
and sizes of the type back, so types with one spelling are one type.
-/

namespace PhpDuckdb.Value

open SqlText PhpDuckdb.Types

/-! ## Tokens of the spelling -/

/-- A text without NUL reads as tokens wherever it stands, if it ends in a solid piece only before
text that stops one. -/
structure Spelling (solid : Bool) (text : Bytes) (ts : List Token) : Prop where
  /-- It has no NUL. -/
  noNul : 0 ∉ text
  /-- Its tokens stand before those of the text behind it. -/
  reads : ∀ rest, (solid = true → Stops rest) →
    scanAll (text ++ rest) = (scanAll rest).map (ts ++ ·)

/-- A clean piece is read as the one token it spells. -/
theorem spelling_piece {piece : Piece} (clean : Clean piece) :
    Spelling piece.solid piece.bytes (pieceToken piece).toList :=
  ⟨clean.noNul, fun _ stops => scanAll_piece clean.valid clean.decl stops⟩

/-- A text that may stand anywhere may stand before text that stops a piece. -/
theorem Spelling.weaken {text : Bytes} {ts : List Token} (spelled : Spelling false text ts) :
    Spelling true text ts := ⟨spelled.noNul, fun rest _ => spelled.reads rest nofun⟩

/-- Two texts read as their tokens, one after the other. -/
theorem Spelling.append {solid last : Bool} {one two : Bytes} {ts us : List Token}
    (first : Spelling solid one ts) (second : Spelling last two us)
    (meets : solid = true → ∀ rest, Stops (two ++ rest)) : Spelling last (one ++ two) (ts ++ us) := by
  constructor
  · intro found
    exact (List.mem_append.mp found).elim first.noNul second.noNul
  · intro rest stops
    rw [List.append_assoc, first.reads (two ++ rest) fun solid => meets solid rest,
      second.reads rest stops]
    cases scanAll rest with
    | error message => rfl
    | ok tokens => exact congrArg Except.ok (List.append_assoc ts us tokens).symm

/-- A whole text has the tokens that it reads as. -/
theorem Spelling.tokens {solid : Bool} {text : Bytes} {ts : List Token}
    (spelled : Spelling solid text ts) : tokens text = .ok ts := by
  have read := spelled.reads [] fun _ => trivial
  rw [List.append_nil] at read
  rw [Types.tokens, if_neg spelled.noNul]
  exact read.trans (congrArg Except.ok (List.append_nil ts))

/-- A punctuation mark is read as the one token it spells. -/
theorem spelling_mark {byte : UInt8} {kind : Kind} (known : punctuation byte = some kind) :
    Spelling false [byte] [⟨[byte], kind⟩] := by
  have some_ : (punctuation byte).isSome = true := by rw [known]; rfl
  have read := spelling_piece (clean_mark some_)
  rwa [pieceToken, known] at read

/-- A space between two tokens spells no token of its own. -/
theorem spelling_space : Spelling false [32] [] := spelling_piece clean_space

/-- A valid word spells its own token. -/
theorem spelling_word {text : Bytes} (valid : (Piece.word text).Valid) :
    Spelling true text [⟨text, .word⟩] := spelling_piece (clean_word valid)

/-- A number is read as the one token of its digits. -/
theorem spelling_number (number : Nat) : Spelling true (decimal number) [⟨decimal number, .number⟩] :=
  spelling_piece (clean_number (decimal_digits number))

/-- A quoted text reads as it is. -/
theorem spelling_quoted {quote : UInt8} (opens : isQuote quote = true) {text : Bytes}
    (noNul : 0 ∉ text) : Spelling true (quoted quote text) [⟨text, quotedKind quote⟩] :=
  spelling_piece (clean_quoted opens noNul)

/-- The pieces of a name with parameters. -/
theorem declared_pieces (name : Bytes) {params : Params} (some_ : params.isNil = false) :
    (declared name params).pieces = [.word name, .mark 40] ++ params.pieces true := by
  rw [declared, Decl.pieces, some_, if_neg Bool.false_ne_true, arrayPieces, List.append_nil]
  rfl

/-- The tokens of a name with parameters. -/
theorem declared_tokens (name : Bytes) {params : Params} (some_ : params.isNil = false) :
    pieceTokens (declared name params).pieces =
      ⟨name, .word⟩ :: ⟨[40], .openParen⟩ :: pieceTokens (params.pieces true) := by
  rw [declared_pieces name some_, pieceTokens_append]
  rfl

/-- A declaration with another suffix has the pieces of the suffix at its end. -/
theorem suffixed_pieces (size : Option Bytes) (decl : Decl) :
    (suffixed size decl).pieces = decl.pieces ++ arrayPieces [size] := by
  obtain ⟨head, dots, words, params, arrays⟩ := decl
  have appended : arrayPieces (arrays ++ [size]) = arrayPieces arrays ++ arrayPieces [size] := by
    induction arrays with
    | nil => rfl
    | cons array rest ih =>
      cases array with
      | none => exact congrArg (.mark 91 :: .mark 93 :: ·) ih
      | some digits => exact congrArg (.mark 91 :: .number digits :: .mark 93 :: ·) ih
  simp only [suffixed, Decl.pieces, appended, List.append_assoc]

/-- A declaration with another suffix has the tokens of the suffix at its end. -/
theorem suffixed_tokens (size : Option Bytes) (decl : Decl) :
    pieceTokens (suffixed size decl).pieces =
      pieceTokens decl.pieces ++ pieceTokens (arrayPieces [size]) := by
  rw [suffixed_pieces, pieceTokens_append]

/-- A name and its parameters in parentheses. -/
theorem spelling_declared {name inner call : Bytes} {params : Params}
    (valid : (Piece.word name).Valid) (some_ : params.isNil = false)
    (spelled : Spelling false (inner ++ [41]) (pieceTokens (params.pieces true)))
    (called : call = name ++ [40]) :
    Spelling true (call ++ inner ++ lit ")") (pieceTokens (declared name params).pieces) := by
  have opening := (spelling_mark (rfl : punctuation 40 = some .openParen)).append spelled nofun
  have whole := (spelling_word valid).append opening fun _ _ => (by exact rfl : breaks 40 = true)
  have closing : lit ")" = [41] := by decide
  rw [declared_tokens name some_, called, closing, List.append_assoc, List.append_assoc]
  exact whole.weaken

/-- An element type and its array suffix spell the tokens of the array type. -/
theorem spelling_suffixed {inner sized : Bytes} {size : Option Bytes} {decl : Decl}
    (spelled : Spelling true inner (pieceTokens decl.pieces))
    (read : Spelling false sized (pieceTokens (arrayPieces [size])))
    (opens : ∀ rest, Stops (sized ++ rest)) :
    Spelling true (inner ++ sized) (pieceTokens (suffixed size decl).pieces) := by
  rw [suffixed_tokens]
  exact (spelled.append read fun _ => opens).weaken

/-- A comma and a space before text that is spelled. -/
theorem spelling_separated {solid : Bool} {text : Bytes} {ts : List Token}
    (spelled : Spelling solid text ts) :
    Spelling solid (lit ", " ++ text) (⟨[44], .comma⟩ :: ts) := by
  have comma : lit ", " = [44] ++ [32] := by decide
  rw [comma, List.append_assoc]
  exact (spelling_mark (rfl : punctuation 44 = some .comma)).append
    (spelling_space.append spelled nofun) nofun

/-- Text behind a comma ends a piece. -/
theorem stops_separated (text rest : Bytes) : Stops (lit ", " ++ text ++ rest) :=
  (by exact rfl : breaks 44 = true)

/-- The labels of an ENUM in their order spell the tokens of its parameters. -/
theorem spelling_labels : ∀ {labels : List Bytes}, labels ≠ [] → (∀ label ∈ labels, 0 ∉ label) →
    Spelling false (quotedLabels labels ++ [41]) (pieceTokens ((labelParams labels).pieces true))
  | [], some_, _ => absurd rfl some_
  | [label], _, clean =>
    (spelling_quoted rfl (clean label List.mem_cons_self)).append (spelling_mark rfl) fun _ _ => rfl
  | label :: next :: rest, _, clean => by
    have later := spelling_separated (spelling_labels (List.cons_ne_nil next rest)
      fun other inside => clean other (List.mem_cons_of_mem _ inside))
    have whole := (spelling_quoted (rfl : isQuote 39 = true) (clean label List.mem_cons_self)).append
      later fun _ => stops_separated _
    rw [quotedLabels, List.append_assoc, List.append_assoc]
    · exact whole
    · exact nofun

/-- The width and the scale of a DECIMAL spell the tokens of its parameters. -/
theorem spelling_decimal (width scale : Nat) :
    Spelling false (decimal width ++ lit "," ++ decimal scale ++ [41])
      (pieceTokens ((Params.number (decimal width) (.number (decimal scale) .nil)).pieces true)) := by
  have closed := (spelling_number scale).append (spelling_mark (rfl : punctuation 41 = some .closeParen))
    fun _ _ => (by exact rfl : breaks 41 = true)
  have later := (spelling_mark (rfl : punctuation 44 = some .comma)).append closed nofun
  have comma : lit "," = [44] := by decide
  rw [comma, List.append_assoc, List.append_assoc]
  exact (spelling_number width).append later fun _ _ => (by exact rfl : breaks 44 = true)

mutual

/-- The spelling of a type reads as its declaration. -/
theorem sqlType_spelling : ∀ {room : Nat} {type : LogicalType} {text : Bytes}, type.Sql →
    sqlType room type = .ok text → Spelling true text (pieceTokens type.decl.pieces)
  | 0, type, text, _, run => by
    rw [sqlType] at run
    cases run
  | room + 1, .plain id alias_, text, sql, run => by
    rw [sqlType] at run
    obtain rfl := Except.ok.inj run
    exact spelling_word (plainSql_head sql).1.1
  | room + 1, .decimal width scale, text, _, run => by
    rw [sqlType] at run
    obtain rfl := Except.ok.inj run
    have whole := spelling_declared (by decide : (Piece.word (lit "DECIMAL")).Valid) rfl
      (spelling_decimal width scale) (by decide : lit "DECIMAL(" = lit "DECIMAL" ++ [40])
    simp only [List.append_assoc] at whole ⊢
    exact whole
  | room + 1, .enum labels, text, sql, run => by
    rw [sqlType] at run
    obtain rfl := Except.ok.inj run
    have some_ : (labelParams labels).isNil = false := by
      cases labels with
      | nil => exact absurd rfl sql.1
      | cons label rest => rfl
    exact spelling_declared (by decide) some_ (spelling_labels sql.1 sql.2) (by decide)
  | room + 1, .geometry none, text, _, run => by
    rw [sqlType] at run
    obtain rfl := Except.ok.inj run
    exact spelling_word (by decide)
  | room + 1, .geometry (some crs), text, sql, run => by
    rw [sqlType] at run
    obtain rfl := Except.ok.inj run
    rw [← List.append_assoc, ← List.append_assoc]
    have read := spelling_labels (List.cons_ne_nil crs []) (List.forall_mem_singleton.mpr (sql crs rfl))
    exact spelling_declared (by decide) rfl read (by decide)
  | room + 1, .list child, text, sql, run => by
    rw [sqlType] at run
    obtain ⟨inner, nested, done⟩ := Outcome.bind_eq_ok.mp run
    obtain rfl := Except.ok.inj done
    have read := (spelling_mark (rfl : punctuation 91 = some .openBracket)).append
      (spelling_mark (rfl : punctuation 93 = some .closeBracket)) nofun
    have brackets : lit "[]" = [91] ++ [93] := by decide
    rw [brackets]
    exact spelling_suffixed (sqlType_spelling sql nested) read fun _ =>
      (by exact rfl : breaks 91 = true)
  | room + 1, .array child size, text, sql, run => by
    rw [sqlType] at run
    obtain ⟨inner, nested, done⟩ := Outcome.bind_eq_ok.mp run
    obtain rfl := Except.ok.inj done
    have closed := (spelling_number size).append
      (spelling_mark (rfl : punctuation 93 = some .closeBracket))
      fun _ _ => (by exact rfl : breaks 93 = true)
    have read := (spelling_mark (rfl : punctuation 91 = some .openBracket)).append closed nofun
    have opening : lit "[" = [91] := by decide
    have closing : lit "]" = [93] := by decide
    rw [opening, closing, List.append_assoc, List.append_assoc]
    exact spelling_suffixed (sqlType_spelling sql nested) read fun _ =>
      (by exact rfl : breaks 91 = true)
  | room + 1, .map key value, text, sql, run => by
    rw [sqlType] at run
    obtain ⟨one, first, more⟩ := Outcome.bind_eq_ok.mp run
    obtain ⟨two, second, done⟩ := Outcome.bind_eq_ok.mp more
    obtain rfl := Except.ok.inj done
    have closed := (sqlType_spelling sql.2 second).append
      (spelling_mark (rfl : punctuation 41 = some .closeParen))
      fun _ _ => (by exact rfl : breaks 41 = true)
    have inner := (sqlType_spelling sql.1 first).append (spelling_separated closed)
      fun _ => stops_separated _
    have tokens : pieceTokens ((Params.type key.decl (.type value.decl .nil)).pieces true) =
        pieceTokens key.decl.pieces ++ (⟨[44], .comma⟩ :: (pieceTokens value.decl.pieces ++
          [⟨[41], .closeParen⟩])) := by
      simp [Params.pieces, lead]
    rw [← tokens, ← List.append_assoc, ← List.append_assoc] at inner
    have whole := spelling_declared (by decide : (Piece.word (lit "MAP")).Valid) rfl
      inner (by decide : lit "MAP(" = lit "MAP" ++ [40])
    simp only [List.append_assoc] at whole ⊢
    exact whole
  | room + 1, .struct members, text, sql, run => by
    rw [sqlType] at run
    obtain ⟨inner, nested, done⟩ := Outcome.bind_eq_ok.mp run
    obtain rfl := Except.ok.inj done
    exact spelling_declared (by decide) (params_isNil sql.1) (sqlMembers_spelling sql.2 nested).1
      (by decide)
  | room + 1, .union members, text, sql, run => by
    rw [sqlType] at run
    obtain ⟨inner, nested, done⟩ := Outcome.bind_eq_ok.mp run
    obtain rfl := Except.ok.inj done
    exact spelling_declared (by decide) (params_isNil sql.1) (sqlMembers_spelling sql.2 nested).1
      (by decide)

/-- The spelling of members reads as their parameters, to the closing parenthesis. -/
theorem sqlMembers_spelling : ∀ {room : Nat} {members : Members} {first : Bool} {text : Bytes},
    members.Sql → sqlMembers room members first = .ok text →
    Spelling false (text ++ [41]) (pieceTokens (members.params.pieces first)) ∧
      (first = false → ∀ rest, Stops (text ++ [41] ++ rest))
  | room, .nil, first, text, _, run => by
    rw [sqlMembers] at run
    obtain rfl := Except.ok.inj run
    exact ⟨spelling_mark rfl, fun _ _ => rfl⟩
  | room, .cons name type rest, first, text, sql, run => by
    rw [sqlMembers] at run
    obtain ⟨field, nested, more⟩ := Outcome.bind_eq_ok.mp run
    obtain ⟨fields, others, done⟩ := Outcome.bind_eq_ok.mp more
    obtain rfl := Except.ok.inj done
    obtain ⟨later, stops⟩ := sqlMembers_spelling sql.2.2 others
    have typed := (sqlType_spelling sql.2.1 nested).append later fun _ => stops rfl
    have named := (spelling_quoted (rfl : isQuote 34 = true) sql.1).append
      (spelling_space.append typed nofun) fun _ _ => (by exact rfl : breaks 32 = true)
    have space : lit " " = [32] := by decide
    have body : Spelling false ((quoted 34 name ++ lit " " ++ field) ++ fields ++ [41])
        (⟨name, .name⟩ :: (pieceTokens type.decl.pieces ++
          pieceTokens (rest.params.pieces false))) := by
      rw [space]
      simp only [List.append_assoc]
      exact named
    have tokens := field_tokens (.quoted name) type.decl rest.params first []
    simp only [List.append_nil] at tokens
    rw [Members.params, tokens]
    cases first with
    | true => exact ⟨body, nofun⟩
    | false =>
      simp only [Bool.false_eq_true, if_false, List.append_assoc] at body ⊢
      exact ⟨spelling_separated body, fun _ _ => (by exact rfl : breaks 44 = true)⟩

end

/-! ## Signatures -/

/-- The declaration of a type is its own canonical form. -/
theorem decl_canonical {type : LogicalType} (sql : type.Sql) (levels : type.depth ≤ 64) :
    duckdbCanonicalizeType (render type.decl.pieces) = .ok (render type.decl.pieces) := by
  have fits := height_decl type
  exact (decl_wellFormed sql).canonical (by omega)

/-- What the spelling of a type keeps. -/
structure Spelled (type : LogicalType) (text : Bytes) : Prop where
  /-- Its tokens are the names, labels, sizes and marks of the type. -/
  tokens : tokens text = .ok (pieceTokens type.decl.pieces)
  /-- It is accepted as the declaration of the type. -/
  accepted : duckdbCanonicalizeType text = .ok (render type.decl.pieces)
  /-- The canonical text declares nothing else. -/
  only : ∀ decl : Decl, decl.WellFormed → render decl.pieces = render type.decl.pieces →
    decl = type.decl
  /-- It nests as deep as the type. -/
  levels : type.decl.nesting = type.depth

/-- `sql_type` spells a type that nests within its limit. -/
theorem sqlType_spelled {type : LogicalType} (sql : type.Sql) (levels : type.depth ≤ 64) :
    ∃ text, sqlType 65 type = .ok text ∧ Spelled type text := by
  obtain ⟨text, spelled⟩ := (sqlType_ok 65 type).mpr (Nat.lt_succ_of_le levels)
  have wellFormed := decl_wellFormed sql
  have read : tokens text = .ok (pieceTokens type.decl.pieces) :=
    (sqlType_spelling sql spelled).tokens
  refine ⟨text, spelled, read, ?_, ?_, nesting_decl sql⟩
  · have same := decl_canonical sql levels
    rw [duckdbCanonicalizeType, wellFormed.tokens] at same
    rw [duckdbCanonicalizeType, read]
    exact same
  · intro decl ok same
    exact Decl.render_injective ok wellFormed same

/-- Types are told apart by their spellings. -/
theorem sqlType_inj {one two : LogicalType} (sql : one.Sql) (also : two.Sql)
    (levels : one.depth ≤ 64) (deep : two.depth ≤ 64) :
    sqlType 65 one = sqlType 65 two ↔ one = two := by
  constructor
  · intro same
    obtain ⟨text, spelled, first⟩ := sqlType_spelled sql levels
    obtain ⟨other, spelled', second⟩ := sqlType_spelled also deep
    obtain rfl : text = other := Except.ok.inj (spelled.symm.trans (same.trans spelled'))
    have texts : render one.decl.pieces = render two.decl.pieces :=
      Except.ok.inj (first.accepted.symm.trans second.accepted)
    exact decl_injective sql also (second.only one.decl (decl_wellFormed sql) texts)
  · intro same
    rw [same]

/-- The signature that `ensure_slot` keeps: the spellings of the parameters and of the result. -/
def signature : List LogicalType → Except String (List Bytes)
  | [] => .ok []
  | type :: rest => do
    let spelling ← sqlType 65 type
    let others ← signature rest
    .ok (spelling :: others)

/-- A type of SQL values that nests within the limit. -/
def Declarable (type : LogicalType) : Prop := type.Sql ∧ type.depth ≤ 64

/-- Signatures are told apart by their types. -/
theorem signature_inj : ∀ {one two : List LogicalType} {kept given : List Bytes},
    (∀ type ∈ one, Declarable type) → (∀ type ∈ two, Declarable type) →
    signature one = .ok kept → signature two = .ok given → (kept = given ↔ one = two)
  | [], [], kept, given, _, _, run, also => by
    obtain rfl := Except.ok.inj run
    obtain rfl := Except.ok.inj also
    exact iff_of_true rfl rfl
  | [], type :: two, kept, given, _, _, run, also => by
    obtain rfl := Except.ok.inj run
    obtain ⟨spelling, _, more⟩ := Outcome.bind_eq_ok.mp also
    obtain ⟨others, _, done⟩ := Outcome.bind_eq_ok.mp more
    obtain rfl := Except.ok.inj done
    exact iff_of_false nofun nofun
  | type :: one, [], kept, given, _, _, run, also => by
    obtain rfl := Except.ok.inj also
    obtain ⟨spelling, _, more⟩ := Outcome.bind_eq_ok.mp run
    obtain ⟨others, _, done⟩ := Outcome.bind_eq_ok.mp more
    obtain rfl := Except.ok.inj done
    exact iff_of_false nofun nofun
  | type :: one, other :: two, kept, given, declarable, declarable', run, also => by
    obtain ⟨spelling, spelled, more⟩ := Outcome.bind_eq_ok.mp run
    obtain ⟨others, rest, done⟩ := Outcome.bind_eq_ok.mp more
    obtain rfl := Except.ok.inj done
    obtain ⟨spelling', spelled', more'⟩ := Outcome.bind_eq_ok.mp also
    obtain ⟨others', rest', done'⟩ := Outcome.bind_eq_ok.mp more'
    obtain rfl := Except.ok.inj done'
    obtain ⟨head, tail⟩ := List.forall_mem_cons.mp declarable
    obtain ⟨head', tail'⟩ := List.forall_mem_cons.mp declarable'
    have types := sqlType_inj head.1 head'.1 head.2 head'.2
    rw [spelled, spelled', Except.ok.injEq] at types
    rw [List.cons.injEq, List.cons.injEq, types, signature_inj tail tail' rest rest']

/-- A function's types keep their signature as long as they are the same types, and nothing but
their spellings is compared. -/
theorem signature_identifies :
    (∀ type : LogicalType, type.Sql → type.depth ≤ 64 →
      ∃ text, sqlType 65 type = .ok text ∧ Spelled type text) ∧
    (∀ one two : LogicalType, one.Sql → two.Sql → one.depth ≤ 64 → two.depth ≤ 64 →
      (sqlType 65 one = sqlType 65 two ↔ one = two)) ∧
    ∀ (call : Registration.Call) (slots : List (Bytes × Registration.Slot)) (key : Bytes)
      (slot : Registration.Slot) (declared given : List LogicalType),
      call.kind = .scalar → OrderedTable.find key slots = some slot →
      (∀ type ∈ declared, Declarable type) → (∀ type ∈ given, Declarable type) →
      signature declared = .ok slot.signature → signature given = .ok call.signature →
      ((Registration.ensureSlot call slots key).isSome ↔ declared = given) := by
  refine ⟨fun type => sqlType_spelled, fun one two => sqlType_inj, ?_⟩
  intro call slots key slot declared given scalar found kept also first second
  rw [Registration.ensureSlot, found, ← signature_inj kept also first second]
  dsimp only
  rw [scalar]
  split <;> simp_all

/-- A STRUCT whose field name looks like two fields. -/
def oddStruct : LogicalType :=
  .struct (.cons (lit "a\" INTEGER, \"b") (.list (.decimal 18 3)) .nil)

/-- The types that a scalar function had, an INTEGER list and its result. -/
def listTypes : List LogicalType := [.list (.plain .integer none), oddStruct]

/-- The types that it is registered with again. -/
def arrayTypes : List LogicalType := [.array (.plain .integer none) 3, oddStruct]

/-- A function that was registered for lists is not registered for arrays. -/
theorem signature_identifies_arrays :
    (∃ text, sqlType 65 oddStruct = .ok text ∧ Spelled oddStruct text) ∧
    (sqlType 65 oddStruct = sqlType 65 (.plain .integer none) ↔
      oddStruct = .plain .integer none) ∧
    ((Registration.ensureSlot
        ⟨.scalar, lit "f", [lit "INTEGER[3]", lit "STRUCT(\"a\"\" INTEGER, \"\"b\" DECIMAL(18,3)[])"],
          false, false, false⟩
        [(lit "f", ⟨[lit "INTEGER[]", lit "STRUCT(\"a\"\" INTEGER, \"\"b\" DECIMAL(18,3)[])"], []⟩)]
        (lit "f")).isSome ↔ listTypes = arrayTypes) := by
  have plain : (LogicalType.plain .integer none).Sql := ⟨by decide, by decide, .inl rfl⟩
  have odd : oddStruct.Sql := ⟨Nat.one_ne_zero, by decide, trivial, trivial⟩
  have lists : ∀ type ∈ listTypes, Declarable type :=
    List.forall_mem_cons.mpr ⟨⟨plain, by decide⟩, List.forall_mem_singleton.mpr ⟨odd, by decide⟩⟩
  have arrays : ∀ type ∈ arrayTypes, Declarable type :=
    List.forall_mem_cons.mpr ⟨⟨plain, by decide⟩, List.forall_mem_singleton.mpr ⟨odd, by decide⟩⟩
  exact ⟨signature_identifies.1 oddStruct odd (by decide),
    signature_identifies.2.1 oddStruct _ odd plain (by decide) (by decide),
    signature_identifies.2.2 _ _ _ _ listTypes arrayTypes rfl rfl lists arrays
      (by decide +kernel) (by decide +kernel)⟩

end PhpDuckdb.Value
