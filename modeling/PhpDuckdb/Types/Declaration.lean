import PhpDuckdb.Types.Grammar

/-!
# The structure of an accepted declaration

`Decl` is what the grammar finds in a declaration: a qualified name, the other words of its
phrase, parameters and array suffixes. `Decl.pieces` are the pieces of its canonical text;
`Decl.WellFormed` says which structures the grammar builds and `Decl.height` how much nesting it
counts for them.
-/

namespace PhpDuckdb.Types

open SqlText

/-- A name as it stands in a declaration. -/
inductive Ident
  | word (text : Bytes)
  | quoted (text : Bytes)
  deriving DecidableEq, Repr

mutual

/-- A type declaration in the form that the canonicalizer prints. -/
inductive Decl
  /-- The first name, the qualified names after it, the words of its phrase, the parameters and
  the sizes of the array suffixes. -/
  | mk (head : Ident) (dots : List Ident) (words : List Bytes) (params : Params)
      (arrays : List (Option Bytes))

/-- The parameters of a type; a type without parentheses has none. -/
inductive Params
  | nil
  /-- A field of a STRUCT or a member of a UNION. -/
  | field (name : Ident) (type : Decl) (rest : Params)
  /-- A nested type of a MAP, LIST or ARRAY. -/
  | type (type : Decl) (rest : Params)
  /-- A number. -/
  | number (digits : Bytes) (rest : Params)
  /-- A quoted label. -/
  | label (text : Bytes) (rest : Params)

end

/-- The piece that a name is written as. -/
def Ident.piece : Ident → Piece
  | .word text => .word text
  | .quoted text => .quoted 34 text

/-- The pieces of the qualified names. -/
def dotPieces : List Ident → List Piece
  | [] => []
  | part :: rest => .mark 46 :: part.piece :: dotPieces rest

/-- The pieces of the words of a phrase. -/
def wordPieces : List Bytes → List Piece
  | [] => []
  | text :: rest => .space :: .word text :: wordPieces rest

/-- The pieces of the array suffixes. -/
def arrayPieces : List (Option Bytes) → List Piece
  | [] => []
  | some size :: rest => .mark 91 :: .number size :: .mark 93 :: arrayPieces rest
  | none :: rest => .mark 91 :: .mark 93 :: arrayPieces rest

/-- The pieces of a qualified name. -/
def namePieces (head : Ident) (dots : List Ident) : List Piece := head.piece :: dotPieces dots

/-- The pieces of a type's whole name, which its parameters depend on. -/
def basePieces (head : Ident) (dots : List Ident) (words : List Bytes) : List Piece :=
  namePieces head dots ++ wordPieces words

/-- What stands before a parameter: nothing before the first, a comma before the others. -/
def lead : Bool → List Piece
  | true => []
  | false => [.mark 44, .space]

/-- The type has no parameters at all. -/
def Params.isNil : Params → Bool
  | .nil => true
  | _ => false

mutual

/-- The pieces of a canonical declaration. -/
def Decl.pieces : Decl → List Piece
  | .mk head dots words params arrays =>
    basePieces head dots words ++
      ((if params.isNil then [] else .mark 40 :: params.pieces true) ++ arrayPieces arrays)

/-- The pieces of the parameters from one of them on, to the closing parenthesis. -/
def Params.pieces : Params → Bool → List Piece
  | .nil, _ => [.mark 41]
  | .field name type rest, first =>
    lead first ++ (name.piece :: .space :: (type.pieces ++ rest.pieces false))
  | .type type rest, first => lead first ++ (type.pieces ++ rest.pieces false)
  | .number digits rest, first => lead first ++ (.number digits :: rest.pieces false)
  | .label text rest, first => lead first ++ (.quoted 39 text :: rest.pieces false)

end

/-- A name that a token can be. -/
def Ident.WellFormed : Ident → Prop
  | .word text => (Piece.word text).Valid
  | .quoted text => 0 ∉ text

/-- A first name: folded to upper case and not internal. -/
def Ident.IsHead : Ident → Prop
  | .word text => upper text = text ∧ text ∉ internal
  | .quoted _ => True

/-- The words that may follow a name. -/
inductive Phrase : Bytes → List Bytes → Prop
  | plain (name : Bytes) (other : name ≠ lit "NATIONAL") : Phrase name []
  | doublePrecision : Phrase (lit "DOUBLE") [lit "PRECISION"]
  | timeZone (name how : Bytes) (named : name = lit "TIME" ∨ name = lit "TIMESTAMP")
      (kind : how = lit "WITH" ∨ how = lit "WITHOUT") :
      Phrase name [how, lit "TIME", lit "ZONE"]
  | varying (name : Bytes)
      (named : name = lit "CHARACTER" ∨ name = lit "CHAR" ∨ name = lit "NCHAR") :
      Phrase name [lit "VARYING"]
  | national (kind : Bytes) (named : kind = lit "CHAR" ∨ kind = lit "CHARACTER") :
      Phrase (lit "NATIONAL") [kind]
  | nationalVarying (kind : Bytes) (named : kind = lit "CHAR" ∨ kind = lit "CHARACTER") :
      Phrase (lit "NATIONAL") [kind, lit "VARYING"]
  | unit (unit : Bytes) (known : unit ∈ units) : Phrase (lit "INTERVAL") [unit]
  | range (first last : Bytes) (known : first ∈ units) (also : last ∈ units) :
      Phrase (lit "INTERVAL") [first, lit "TO", last]

/-- A type whose parameters are named fields. -/
def hasFields (base : Bytes) : Bool := base = lit "STRUCT" || base = lit "UNION"

/-- A base type whose parameters are types. -/
def hasTypes (base : Bytes) : Bool :=
  base = lit "MAP" || base = lit "LIST" || base = lit "ARRAY"

mutual

/-- A declaration of the shape that the grammar builds. -/
def Decl.WellFormed : Decl → Prop
  | .mk head dots words params arrays =>
    head.WellFormed ∧ head.IsHead ∧ (∀ part ∈ dots, part.WellFormed) ∧
      Phrase (render (namePieces head dots)) words ∧
      params.WellFormed (render (basePieces head dots words)) ∧
      ∀ size, some size ∈ arrays → (Piece.number size).Valid

/-- Parameters that a type of this name takes. -/
def Params.WellFormed : Params → Bytes → Prop
  | .nil, _ => True
  | .field name type rest, base =>
    hasFields base = true ∧ name.WellFormed ∧ type.WellFormed ∧ rest.WellFormed base
  | .type type rest, base =>
    hasFields base = false ∧ hasTypes base = true ∧ type.WellFormed ∧ rest.WellFormed base
  | .number digits rest, base =>
    hasFields base = false ∧ (Piece.number digits).Valid ∧ rest.WellFormed base
  | .label text rest, base =>
    hasFields base = false ∧ hasTypes base = false ∧ 0 ∉ text ∧ rest.WellFormed base

end

mutual

/-- The nesting that the grammar counts: one level, and the deeper of the parameters and the
array suffixes. -/
def Decl.height : Decl → Nat
  | .mk _ _ _ params arrays => 1 + max params.height arrays.length

/-- The nesting of the deepest parameter. -/
def Params.height : Params → Nat
  | .nil => 0
  | .field _ type rest => max type.height rest.height
  | .type type rest => max type.height rest.height
  | .number _ rest => rest.height
  | .label _ rest => rest.height

end

/-! ## Canonical text is clean -/

/-- A piece that canonical text may contain. -/
structure Clean (piece : Piece) : Prop where
  /-- It reads back as itself. -/
  valid : piece.Valid
  /-- The grammar has a token for it. -/
  decl : DeclPiece piece
  /-- It has no NUL. -/
  noNul : 0 ∉ piece.bytes

/-- Doubling the quotes of a text without NULs adds none. -/
theorem noNul_escape {quote : UInt8} {text : Bytes} (opens : isQuote quote = true)
    (clean : 0 ∉ text) : 0 ∉ escape quote text := by
  have notNul := (isQuote_class opens).2.2
  induction text with
  | nil => simp [escape]
  | cons byte rest ih =>
    simp only [List.mem_cons, not_or] at clean
    have tail := ih clean.2
    unfold escape
    split
    · simp [Ne.symm notNul, tail]
    · simp [clean.1, tail]

/-- A quoted region is clean when its content has no NUL. -/
theorem clean_quoted {quote : UInt8} {text : Bytes} (opens : isQuote quote = true)
    (noNul : 0 ∉ text) : Clean (.quoted quote text) := by
  have notNul := (isQuote_class opens).2.2
  refine ⟨opens, trivial, ?_⟩
  simp [Piece.bytes, quoted, Ne.symm notNul, noNul_escape opens noNul]

/-- A valid word has no NUL and is no placeholder. -/
theorem clean_word {text : Bytes} (valid : (Piece.word text).Valid) : Clean (.word text) := by
  refine ⟨valid, trivial, ?_⟩
  cases text with
  | nil => exact valid.elim
  | cons first rest =>
    obtain ⟨begins, parts⟩ := valid
    intro found
    rcases List.mem_cons.mp found with same | later
    · subst same
      exact absurd begins (by decide)
    · exact absurd (parts 0 later) (by decide)

/-- A valid number has no NUL and is no placeholder. -/
theorem clean_number {digits : Bytes} (valid : (Piece.number digits).Valid) :
    Clean (.number digits) := by
  refine ⟨valid, trivial, ?_⟩
  intro found
  exact absurd (valid.2 0 found) (by decide)

/-- Punctuation has no NUL and is no placeholder. -/
theorem clean_mark {byte : UInt8} (known : (punctuation byte).isSome = true) :
    Clean (.mark byte) := by
  obtain ⟨_, notNul, _, _, _, breaking, notSpace⟩ := punctuation_class known
  exact ⟨⟨breaking, notSpace⟩, known, by simp [Piece.bytes, Ne.symm notNul]⟩

/-- A space has no NUL and is no placeholder. -/
theorem clean_space : Clean .space := ⟨trivial, trivial, by decide⟩

/-- The piece of a well-formed name is clean. -/
theorem Ident.WellFormed.clean {name : Ident} (ok : name.WellFormed) : Clean name.piece := by
  cases name with
  | word text => exact clean_word ok
  | quoted text => exact clean_quoted (by decide) ok

/-- The pieces of a qualified name of well-formed parts are clean. -/
theorem clean_dotPieces {dots : List Ident} (ok : ∀ part ∈ dots, part.WellFormed) :
    ∀ piece ∈ dotPieces dots, Clean piece := by
  induction dots with
  | nil => simp [dotPieces]
  | cons part rest ih =>
    simp only [List.mem_cons, forall_eq_or_imp] at ok
    simp only [dotPieces, List.mem_cons, forall_eq_or_imp]
    exact ⟨clean_mark (by decide), ok.1.clean, ih ok.2⟩

/-- Every unit of an interval is a valid word. -/
theorem valid_unit {unit : Bytes} (known : unit ∈ units) : (Piece.word unit).Valid := by
  simp only [units, List.map_cons, List.map_nil, List.mem_cons, List.not_mem_nil, or_false] at known
  rcases known with rfl | rfl | rfl | rfl | rfl | rfl <;> exact (by decide)

/-- The words of a phrase are words. -/
theorem Phrase.valid {name : Bytes} {words : List Bytes} (phrase : Phrase name words) :
    ∀ text ∈ words, (Piece.word text).Valid := by
  cases phrase with
  | plain name other => simp
  | doublePrecision =>
    simp only [List.mem_singleton, forall_eq]
    exact (by decide)
  | timeZone name how named kind =>
    simp only [List.mem_cons, List.not_mem_nil, or_false, forall_eq_or_imp, forall_eq]
    refine ⟨?_, (by decide), (by decide)⟩
    rcases kind with rfl | rfl <;> exact (by decide)
  | varying name named =>
    simp only [List.mem_singleton, forall_eq]
    exact (by decide)
  | national kind named =>
    simp only [List.mem_singleton, forall_eq]
    rcases named with rfl | rfl <;> exact (by decide)
  | nationalVarying kind named =>
    simp only [List.mem_cons, List.not_mem_nil, or_false, forall_eq_or_imp, forall_eq]
    refine ⟨?_, (by decide)⟩
    rcases named with rfl | rfl <;> exact (by decide)
  | unit unit known =>
    simp only [List.mem_singleton, forall_eq]
    exact valid_unit known
  | range first last known also =>
    simp only [List.mem_cons, List.not_mem_nil, or_false, forall_eq_or_imp, forall_eq]
    exact ⟨valid_unit known, (by decide), valid_unit also⟩

/-- The words of a phrase are clean. -/
theorem clean_wordPieces {words : List Bytes} (ok : ∀ text ∈ words, (Piece.word text).Valid) :
    ∀ piece ∈ wordPieces words, Clean piece := by
  induction words with
  | nil => simp [wordPieces]
  | cons text rest ih =>
    simp only [List.mem_cons, forall_eq_or_imp] at ok
    simp only [wordPieces, List.mem_cons, forall_eq_or_imp]
    exact ⟨clean_space, clean_word ok.1, ih ok.2⟩

/-- The pieces of array suffixes with valid sizes are clean. -/
theorem clean_arrayPieces {arrays : List (Option Bytes)}
    (ok : ∀ size, some size ∈ arrays → (Piece.number size).Valid) :
    ∀ piece ∈ arrayPieces arrays, Clean piece := by
  induction arrays with
  | nil => simp [arrayPieces]
  | cons array rest ih =>
    have tail := ih fun size found => ok size (List.mem_cons_of_mem _ found)
    cases array with
    | none =>
      simp only [arrayPieces, List.mem_cons, forall_eq_or_imp]
      exact ⟨clean_mark (by decide), clean_mark (by decide), tail⟩
    | some size =>
      simp only [arrayPieces, List.mem_cons, forall_eq_or_imp]
      exact ⟨clean_mark (by decide), clean_number (ok size (by simp)), clean_mark (by decide), tail⟩

/-- What stands before a parameter is clean. -/
theorem clean_lead (first : Bool) : ∀ piece ∈ lead first, Clean piece := by
  cases first with
  | true => simp [lead]
  | false =>
    simp only [lead, List.mem_cons, List.not_mem_nil, or_false, forall_eq_or_imp, forall_eq]
    exact ⟨clean_mark (by decide), clean_space⟩

mutual

/-- Every piece of a well-formed declaration is clean. -/
theorem Decl.WellFormed.clean : ∀ {decl : Decl}, decl.WellFormed →
    ∀ piece ∈ decl.pieces, Clean piece
  | .mk head dots words params arrays, ok => by
    obtain ⟨named, _, qualified, phrase, inner, sizes⟩ := ok
    have group := inner.clean true
    simp only [Decl.pieces, basePieces, namePieces, List.mem_append, List.mem_cons]
    rintro piece (((rfl | found) | found) | found | found)
    · exact named.clean
    · exact clean_dotPieces qualified piece found
    · exact clean_wordPieces phrase.valid piece found
    · split at found
      · simp at found
      · rcases List.mem_cons.mp found with rfl | later
        · exact clean_mark (by decide)
        · exact group piece later
    · exact clean_arrayPieces sizes piece found

/-- Every piece of well-formed parameters is clean. -/
theorem Params.WellFormed.clean : ∀ {params : Params} {base : Bytes}, params.WellFormed base →
    ∀ (first : Bool), ∀ piece ∈ params.pieces first, Clean piece
  | .nil, _, _, _ => by
    simp only [Params.pieces, List.mem_singleton, forall_eq]
    exact clean_mark (by decide)
  | .field name type rest, _, ok, first => by
    obtain ⟨_, named, inner, others⟩ := ok
    have tail := others.clean false
    have nested := inner.clean
    simp only [Params.pieces, List.mem_append, List.mem_cons]
    rintro piece (found | rfl | rfl | found | found)
    · exact clean_lead first piece found
    · exact named.clean
    · exact clean_space
    · exact nested piece found
    · exact tail piece found
  | .type type rest, _, ok, first => by
    obtain ⟨_, _, inner, others⟩ := ok
    have tail := others.clean false
    have nested := inner.clean
    simp only [Params.pieces, List.mem_append]
    rintro piece (found | found | found)
    · exact clean_lead first piece found
    · exact nested piece found
    · exact tail piece found
  | .number digits rest, _, ok, first => by
    obtain ⟨_, valid, others⟩ := ok
    have tail := others.clean false
    simp only [Params.pieces, List.mem_append, List.mem_cons]
    rintro piece (found | rfl | found)
    · exact clean_lead first piece found
    · exact clean_number valid
    · exact tail piece found
  | .label text rest, _, ok, first => by
    obtain ⟨_, _, noNul, others⟩ := ok
    have tail := others.clean false
    simp only [Params.pieces, List.mem_append, List.mem_cons]
    rintro piece (found | rfl | found)
    · exact clean_lead first piece found
    · exact clean_quoted (by decide) noNul
    · exact tail piece found

end

/-! ## Canonical text keeps its pieces apart -/

/-- The dots of a qualified name may follow its first part. -/
theorem trailing_dotPieces {rest : List Piece} (trailing : Trailing rest) (dots : List Ident) :
    Trailing (dotPieces dots ++ rest) := by
  induction dots with
  | nil => exact trailing
  | cons part others ih => exact (ih.cons part.piece).loose_cons rfl

/-- The words of a phrase may follow a name. -/
theorem trailing_wordPieces {rest : List Piece} (trailing : Trailing rest) (words : List Bytes) :
    Trailing (wordPieces words ++ rest) := by
  induction words with
  | nil => exact trailing
  | cons text others ih => exact (ih.cons (.word text)).loose_cons rfl

/-- The suffixes of arrays may follow a type. -/
theorem trailing_arrayPieces {rest : List Piece} (trailing : Trailing rest)
    (arrays : List (Option Bytes)) : Trailing (arrayPieces arrays ++ rest) := by
  induction arrays with
  | nil => exact trailing
  | cons array others ih =>
    cases array with
    | none => exact (ih.separated.loose_cons rfl).separated.loose_cons rfl
    | some size =>
      have closing : Trailing (.mark 93 :: (arrayPieces others ++ rest)) :=
        ih.separated.loose_cons rfl
      exact (closing.cons (.number size)).loose_cons rfl

/-- A comma and a space may stand between any pieces. -/
theorem trailing_comma {rest : List Piece} (separated : Separated rest) :
    Trailing (.mark 44 :: .space :: rest) := by
  have spaced : Trailing (.space :: rest) := separated.loose_cons rfl
  exact spaced.separated.loose_cons rfl

/-- The comma keeps two parameters apart. -/
theorem separated_lead {rest : List Piece} (separated : Separated rest) (first : Bool) :
    Separated (lead first ++ rest) := by
  cases first with
  | true => exact separated
  | false => exact (trailing_comma separated).separated

mutual

/-- A canonical declaration is separated, whatever may follow a solid piece. -/
theorem Decl.separated : ∀ (decl : Decl) {rest : List Piece}, Trailing rest →
    Separated (decl.pieces ++ rest)
  | .mk head dots words params arrays, rest, trailing => by
    have sized := trailing_arrayPieces trailing arrays
    have group : Trailing
        ((if params.isNil then [] else .mark 40 :: params.pieces true) ++
          (arrayPieces arrays ++ rest)) := by
      split
      · exact sized
      · exact (params.separated sized true).1.loose_cons rfl
    have whole := (trailing_dotPieces (trailing_wordPieces group words) dots).cons head.piece
    simpa [Decl.pieces, basePieces, namePieces, List.append_assoc] using whole

/-- Canonical parameters are separated, and after the first one they may follow a solid piece. -/
theorem Params.separated : ∀ (params : Params) {rest : List Piece}, Trailing rest →
    ∀ first, Separated (params.pieces first ++ rest) ∧
      (first = false → Trailing (params.pieces first ++ rest))
  | .nil, rest, trailing, first => by
    have closing : Trailing (.mark 41 :: rest) := trailing.separated.loose_cons rfl
    exact ⟨closing.separated, fun _ => closing⟩
  | .field name type others, rest, trailing, first => by
    have tail := (others.separated trailing false).2 rfl
    have field : Trailing (.space :: (type.pieces ++ (others.pieces false ++ rest))) :=
      (type.separated tail).loose_cons rfl
    have named := field.cons name.piece
    have whole : Separated (lead first ++ (name.piece :: .space ::
        (type.pieces ++ (others.pieces false ++ rest)))) := separated_lead named first
    refine ⟨by simpa [Params.pieces, List.append_assoc] using whole, ?_⟩
    rintro rfl
    simpa [Params.pieces, lead, List.append_assoc] using trailing_comma named
  | .type type others, rest, trailing, first => by
    have tail := (others.separated trailing false).2 rfl
    have nested := type.separated tail
    have whole : Separated (lead first ++ (type.pieces ++ (others.pieces false ++ rest))) :=
      separated_lead nested first
    refine ⟨by simpa [Params.pieces, List.append_assoc] using whole, ?_⟩
    rintro rfl
    simpa [Params.pieces, lead, List.append_assoc] using trailing_comma nested
  | .number digits others, rest, trailing, first => by
    have tail := (others.separated trailing false).2 rfl
    have numbered := tail.cons (.number digits)
    have whole : Separated (lead first ++ (.number digits :: (others.pieces false ++ rest))) :=
      separated_lead numbered first
    refine ⟨by simpa [Params.pieces, List.append_assoc] using whole, ?_⟩
    rintro rfl
    simpa [Params.pieces, lead, List.append_assoc] using trailing_comma numbered
  | .label text others, rest, trailing, first => by
    have tail := (others.separated trailing false).2 rfl
    have labelled := tail.cons (.quoted 39 text)
    have whole : Separated (lead first ++ (.quoted 39 text :: (others.pieces false ++ rest))) :=
      separated_lead labelled first
    refine ⟨by simpa [Params.pieces, List.append_assoc] using whole, ?_⟩
    rintro rfl
    simpa [Params.pieces, lead, List.append_assoc] using trailing_comma labelled

end

end PhpDuckdb.Types
