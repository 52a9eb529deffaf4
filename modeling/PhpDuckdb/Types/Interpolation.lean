import PhpDuckdb.Types.Canonical

/-!
# Canonical declarations inside generated SQL

`builder::cast` writes a canonical declaration unchanged into SQL text. Such a text has no NUL,
closes its quoted regions, contains nothing but names, numbers, spaces and `()[],.` outside of
them and nests its brackets, so it reads as pieces of its own wherever it stands and leaves every
bracket that is open around it open.
-/

namespace PhpDuckdb.Types

open SqlText

/-- `builder::cast`: the text of a cast of a value to a declared type. -/
def cast (value declared : Bytes) : Bytes :=
  lit "CAST(" ++ value ++ lit " AS " ++ declared ++ lit ")"

/-- A piece that a declaration may show outside quoted regions, or a quoted region. -/
def Confined : Piece → Prop
  | .word text => ∀ byte ∈ text, isWordPart byte = true
  | .number digits => ∀ byte ∈ digits, isDigit byte = true
  | .quoted quote _ => isQuote quote = true
  | .space => True
  | .mark byte => byte ∈ lit "()[],."
  | .placeholder _ => False

/-- A clean piece cannot reach beyond its own bytes. -/
theorem Clean.confined {piece : Piece} (clean : Clean piece) : Confined piece := by
  cases piece with
  | word text =>
    cases text with
    | nil => exact clean.valid.elim
    | cons first rest =>
      obtain ⟨begins, parts⟩ := clean.valid
      intro byte found
      rcases List.mem_cons.mp found with rfl | later
      · exact isWordPart_of_isWordStart begins
      · exact parts byte later
  | number digits => exact clean.valid.2
  | quoted quote text => exact clean.valid
  | space => trivial
  | mark byte =>
    have known : (punctuation byte).isSome = true := clean.decl
    unfold punctuation at known
    split_ifs at known with opens closes opensSquare closesSquare comma dot
    · subst opens
      exact (by decide : 40 ∈ lit "()[],.")
    · subst closes
      exact (by decide : 41 ∈ lit "()[],.")
    · subst opensSquare
      exact (by decide : 91 ∈ lit "()[],.")
    · subst closesSquare
      exact (by decide : 93 ∈ lit "()[],.")
    · subst comma
      exact (by decide : 44 ∈ lit "()[],.")
    · subst dot
      exact (by decide : 46 ∈ lit "()[],.")
    · simp at known
  | placeholder digits => exact clean.decl

/-! ## Brackets -/

/-- The pieces of a qualified name touch no bracket. -/
theorem nest_dotPieces (opened : List UInt8) (dots : List Ident) :
    nest opened (dotPieces dots) = some opened := by
  induction dots with
  | nil => rfl
  | cons part rest ih =>
    cases part <;> simp [dotPieces, nest, Ident.piece, Piece.bracket, ih]

/-- The words of a phrase touch no bracket. -/
theorem nest_wordPieces (opened : List UInt8) (words : List Bytes) :
    nest opened (wordPieces words) = some opened := by
  induction words with
  | nil => rfl
  | cons text rest ih => simp [wordPieces, nest, Piece.bracket, ih]

/-- An array suffix closes its own bracket. -/
theorem nest_arrayPieces (opened : List UInt8) (arrays : List (Option Bytes)) :
    nest opened (arrayPieces arrays) = some opened := by
  induction arrays with
  | nil => rfl
  | cons array rest ih =>
    cases array <;> simp [arrayPieces, nest, Piece.bracket, closeBracket, ih]

/-- What stands before a parameter touches no bracket. -/
theorem nest_lead (opened : List UInt8) (first : Bool) : nest opened (lead first) = some opened := by
  cases first <;> simp [lead, nest, Piece.bracket]

/-- A qualified name and its phrase touch no bracket. -/
theorem nest_basePieces (opened : List UInt8) (head : Ident) (dots : List Ident)
    (words : List Bytes) : nest opened (basePieces head dots words) = some opened := by
  have named : head.piece.bracket opened = some opened := by cases head <;> rfl
  simp [basePieces, namePieces, nest_append, nest, named, nest_dotPieces, nest_wordPieces]

mutual

/-- A declaration closes the brackets that it opens. -/
theorem Decl.nest_pieces : ∀ (decl : Decl) (opened : List UInt8),
    nest opened decl.pieces = some opened
  | .mk head dots words params arrays, opened => by
    have group := params.nest_pieces opened true
    cases empty : params.isNil <;>
      simp [Decl.pieces, nest_append, nest_basePieces, nest_arrayPieces, empty, nest,
        Piece.bracket, group]

/-- The pieces of parameters close the parenthesis that was opened around them. -/
theorem Params.nest_pieces : ∀ (params : Params) (opened : List UInt8) (first : Bool),
    nest (40 :: opened) (params.pieces first) = some opened
  | .nil, opened, first => by simp [Params.pieces, nest, Piece.bracket, closeBracket]
  | .field name type rest, opened, first => by
    have tail := rest.nest_pieces opened false
    have inner := type.nest_pieces (40 :: opened)
    cases name <;>
      simp [Params.pieces, nest_append, nest_lead, nest, Ident.piece, Piece.bracket, inner, tail]
  | .type type rest, opened, first => by
    have tail := rest.nest_pieces opened false
    have inner := type.nest_pieces (40 :: opened)
    simp [Params.pieces, nest_append, nest_lead, inner, tail]
  | .number digits rest, opened, first => by
    have tail := rest.nest_pieces opened false
    simp [Params.pieces, nest_append, nest_lead, nest, Piece.bracket, tail]
  | .label text rest, opened, first => by
    have tail := rest.nest_pieces opened false
    simp [Params.pieces, nest_append, nest_lead, nest, Piece.bracket, tail]

end

/-! ## Labels -/

/-- The pieces end with an opening parenthesis or a comma separator. -/
def Led (before : List Piece) : Prop :=
  (∃ earlier, before = earlier ++ [.mark 40]) ∨ ∃ earlier, before = earlier ++ [.mark 44, .space]

/-- Every label of the pieces is led, given the pieces before them. -/
def LabelsLed (before : List Piece) : List Piece → Prop
  | [] => True
  | piece :: rest =>
    (∀ text, piece = .quoted 39 text → Led before) ∧ LabelsLed (before ++ [piece]) rest

/-- The labels of an append are led when those of both parts are, each after what precedes it. -/
theorem labelsLed_append (before first second : List Piece) :
    LabelsLed before (first ++ second) ↔
      LabelsLed before first ∧ LabelsLed (before ++ first) second := by
  induction first generalizing before with
  | nil => simp [LabelsLed]
  | cons piece rest ih => simp [LabelsLed, ih, and_assoc]

/-- Pieces without labels have all their labels led. -/
theorem labelsLed_of_none {pieces : List Piece} (none : ∀ text, .quoted 39 text ∉ pieces)
    (before : List Piece) : LabelsLed before pieces := by
  induction pieces generalizing before with
  | nil => trivial
  | cons piece rest ih =>
    refine ⟨fun text same => absurd (by simp [same]) (none text), ih ?_ _⟩
    exact fun text found => none text (List.mem_cons_of_mem _ found)

/-- A led label is led where it stands. -/
theorem LabelsLed.led {pieces before earlier later : List Piece} {text : Bytes}
    (labels : LabelsLed before pieces) (shape : pieces = earlier ++ .quoted 39 text :: later) :
    Led (before ++ earlier) := by
  subst shape
  obtain ⟨_, here⟩ := (labelsLed_append before earlier (.quoted 39 text :: later)).mp labels
  exact here.1 text rfl

/-- The piece of a name is never a label. -/
theorem ident_not_label (name : Ident) (text : Bytes) : name.piece ≠ .quoted 39 text := by
  cases name <;> simp [Ident.piece]

/-- No piece of a qualified name is a label. -/
theorem labels_dotPieces (dots : List Ident) (text : Bytes) : .quoted 39 text ∉ dotPieces dots := by
  induction dots with
  | nil => simp [dotPieces]
  | cons part rest ih => simp [dotPieces, ih, Ne.symm (ident_not_label part text)]

/-- No piece of a phrase is a label. -/
theorem labels_wordPieces (words : List Bytes) (text : Bytes) :
    .quoted 39 text ∉ wordPieces words := by
  induction words with
  | nil => simp [wordPieces]
  | cons word rest ih => simp [wordPieces, ih]

/-- No piece of array suffixes is a label. -/
theorem labels_arrayPieces (arrays : List (Option Bytes)) (text : Bytes) :
    .quoted 39 text ∉ arrayPieces arrays := by
  induction arrays with
  | nil => simp [arrayPieces]
  | cons array rest ih => cases array <;> simp [arrayPieces, ih]

/-- What stands before a parameter leads it. -/
theorem led_lead {before : List Piece} (first : Bool) (starts : first = true → Led before) :
    Led (before ++ lead first) := by
  cases first with
  | true => simpa [lead] using starts rfl
  | false => exact .inr ⟨before, rfl⟩

/-- What stands before a parameter has no labels. -/
theorem labels_lead (before : List Piece) (first : Bool) : LabelsLed before (lead first) :=
  labelsLed_of_none (by cases first <;> simp [lead]) before

mutual

/-- The labels of a declaration are led. -/
theorem Decl.labelsLed : ∀ (decl : Decl) (before : List Piece), LabelsLed before decl.pieces
  | .mk head dots words params arrays, before => by
    have base : LabelsLed before (basePieces head dots words) := labelsLed_of_none (fun text => by
      simp [basePieces, namePieces, Ne.symm (ident_not_label head text), labels_dotPieces,
        labels_wordPieces]) before
    simp only [Decl.pieces, labelsLed_append]
    refine ⟨base, ?_, labelsLed_of_none (labels_arrayPieces arrays) _⟩
    split
    · trivial
    · have opened : Led (before ++ basePieces head dots words ++ [.mark 40]) := .inl ⟨_, rfl⟩
      exact ⟨by simp, params.labelsLed true _ fun _ => opened⟩

/-- Before every label of the parameters stands what may stand before one. -/
theorem Params.labelsLed : ∀ (params : Params) (first : Bool) (before : List Piece),
    (first = true → Led before) → LabelsLed before (params.pieces first)
  | .nil, _, _, _ => ⟨by simp, trivial⟩
  | .field name type rest, first, before, starts => by
    simp only [Params.pieces, labelsLed_append, LabelsLed]
    refine ⟨labels_lead before first, fun text same => absurd same (ident_not_label name text),
      by simp, type.labelsLed _, rest.labelsLed false _ (by simp)⟩
  | .type type rest, first, before, starts => by
    simp only [Params.pieces, labelsLed_append]
    exact ⟨labels_lead before first, type.labelsLed _, rest.labelsLed false _ (by simp)⟩
  | .number digits rest, first, before, starts => by
    simp only [Params.pieces, labelsLed_append, LabelsLed]
    exact ⟨labels_lead before first, by simp, rest.labelsLed false _ (by simp)⟩
  | .label text rest, first, before, starts => by
    simp only [Params.pieces, labelsLed_append, LabelsLed]
    exact ⟨labels_lead before first, fun _ _ => led_lead first starts,
      rest.labelsLed false _ (by simp)⟩

end

/-! ## Interpolation -/

/-- A cast of a text that reads as pieces to a declaration that reads as pieces. -/
def castPieces (value declared : List Piece) : List Piece :=
  .word (lit "CAST") :: .mark 40 :: (value ++ .space :: .word (lit "AS") :: .space ::
    (declared ++ [.mark 41]))

/-- A cast reads as the pieces of its two texts and its own. -/
theorem lex_cast {value declared : Bytes} {values pieces : List Piece}
    (read : lex value = some values) (also : lex declared = some pieces) :
    lex (cast value declared) = some (castPieces values pieces) := by
  have closing : Piece.Valid (.mark 41) := (by decide)
  have opening : Piece.Valid (.mark 40) := (by decide)
  have spaced : Piece.Valid .space := trivial
  have keyword : lex (lit "AS") = some [.word (lit "AS")] := by decide
  have word : lex (lit "CAST") = some [.word (lit "CAST")] := by decide
  have text : cast value declared = lit "CAST" ++ (Piece.bytes (.mark 40) ++ (value ++
      (Piece.bytes .space ++ (lit "AS" ++ (Piece.bytes .space ++
        (declared ++ (Piece.bytes (.mark 41) ++ []))))))) := by
    simp [cast, Piece.bytes, lit]
  rw [text, lex_around word opening rfl, lex_around read spaced rfl,
    lex_around keyword spaced rfl, lex_around also closing rfl]
  simp [castPieces, lex, lexFrom, Mode.finish]

/-- What a canonical declaration looks like inside SQL text. -/
structure Interpolates (canonical : Bytes) (pieces : List Piece) : Prop where
  /-- It has no NUL. -/
  noNul : 0 ∉ canonical
  /-- It closes every quoted region and reads as these pieces. -/
  closed : lex canonical = some pieces
  /-- Outside quoted regions it has only identifier bytes, spaces and `()[],.`. -/
  confined : ∀ piece ∈ pieces, Confined piece
  /-- Its brackets nest, and none is closed that it did not open. -/
  balanced : Balanced pieces
  /-- Every single-quoted literal follows an opening parenthesis or a comma separator. -/
  labelled : ∀ earlier text later, pieces = earlier ++ .quoted 39 text :: later → Led earlier
  /-- Within a cast it reads as these pieces, and no part of it closes a bracket of the cast. -/
  withinCast : ∀ value values, lex value = some values →
    lex (cast value canonical) = some (castPieces values pieces) ∧
      ∀ opened first second, pieces = first ++ second →
        ∃ inner, nest opened first = some (inner ++ opened)

/-- Every declaration that is accepted has a canonical text that cannot leave a cast. -/
theorem canonical_interpolates {declaration canonical : Bytes}
    (accepted : duckdbCanonicalizeType declaration = .ok canonical) :
    ∃ pieces, Interpolates canonical pieces := by
  obtain ⟨decl, _, _, rfl, _, ok, _⟩ := duckdbCanonicalizeType_sound accepted
  have clean := ok.clean
  have closed := lex_render (fun piece found => (clean piece found).valid) decl.pieces_separated
  have balanced : Balanced decl.pieces := decl.nest_pieces []
  refine ⟨decl.pieces, noNul_render clean, closed, fun piece found => (clean piece found).confined,
    balanced, ?_, ?_⟩
  · intro earlier text later shape
    simpa using (decl.labelsLed []).led shape
  · intro value values read
    refine ⟨lex_cast read closed, ?_⟩
    intro opened first second shape
    rw [shape] at balanced
    exact balanced.prefix_nest opened

/-- An ENUM whose labels look like the end of a cast and a comment. -/
theorem canonical_interpolates_enum :
    ∃ pieces, Interpolates (lit "ENUM(');--', 'it''s')") pieces := by
  have accepted : duckdbCanonicalizeType (lit "enum(');--','it''s')") =
      .ok (lit "ENUM(');--', 'it''s')") := by decide +kernel
  exact canonical_interpolates accepted

end PhpDuckdb.Types
