import PhpDuckdb.Types.Soundness

/-!
# Canonical declarations

The grammar accepts the tokens of every well-formed structure that fits its nesting limit, with
the text of the structure's pieces. With what it accepts being such a structure, a canonical
declaration has the tokens of the declaration it came from and is its own canonical form, and
what it may contain is read off its pieces.
-/

namespace PhpDuckdb.Types

open SqlText

/-- The tokens that some pieces are read as. -/
def pieceTokens (pieces : List Piece) : List Token := pieces.filterMap pieceToken

@[simp]
theorem pieceTokens_append (first second : List Piece) :
    pieceTokens (first ++ second) = pieceTokens first ++ pieceTokens second :=
  List.filterMap_append

@[simp]
theorem pieceTokens_nil : pieceTokens [] = [] := rfl

@[simp]
theorem pieceTokens_ident (name : Ident) (rest : List Piece) :
    pieceTokens (name.piece :: rest) = name.token :: pieceTokens rest := by
  simp [pieceTokens]

@[simp]
theorem pieceTokens_space (rest : List Piece) :
    pieceTokens (.space :: rest) = pieceTokens rest := rfl

@[simp]
theorem pieceTokens_word (text : Bytes) (rest : List Piece) :
    pieceTokens (.word text :: rest) = ⟨text, .word⟩ :: pieceTokens rest := rfl

@[simp]
theorem pieceTokens_number (digits : Bytes) (rest : List Piece) :
    pieceTokens (.number digits :: rest) = ⟨digits, .number⟩ :: pieceTokens rest := rfl

@[simp]
theorem pieceTokens_label (text : Bytes) (rest : List Piece) :
    pieceTokens (.quoted 39 text :: rest) = ⟨text, .label⟩ :: pieceTokens rest := rfl

@[simp]
theorem pieceTokens_comma (rest : List Piece) :
    pieceTokens (.mark 44 :: rest) = ⟨[44], .comma⟩ :: pieceTokens rest := rfl

@[simp]
theorem pieceTokens_dot (rest : List Piece) :
    pieceTokens (.mark 46 :: rest) = ⟨[46], .dot⟩ :: pieceTokens rest := rfl

@[simp]
theorem pieceTokens_openParen (rest : List Piece) :
    pieceTokens (.mark 40 :: rest) = ⟨[40], .openParen⟩ :: pieceTokens rest := rfl

@[simp]
theorem pieceTokens_closeParen (rest : List Piece) :
    pieceTokens (.mark 41 :: rest) = ⟨[41], .closeParen⟩ :: pieceTokens rest := rfl

@[simp]
theorem pieceTokens_openBracket (rest : List Piece) :
    pieceTokens (.mark 91 :: rest) = ⟨[91], .openBracket⟩ :: pieceTokens rest := rfl

@[simp]
theorem pieceTokens_closeBracket (rest : List Piece) :
    pieceTokens (.mark 93 :: rest) = ⟨[93], .closeBracket⟩ :: pieceTokens rest := rfl

/-- The kind of the next token, if there is one. -/
def nextKind : List Token → Option Kind
  | [] => none
  | token :: _ => some token.kind

/-- The tokens behind which a declaration is complete. -/
def Follows (rest : List Token) : Prop :=
  nextKind rest = none ∨ nextKind rest = some .comma ∨ nextKind rest = some .closeParen

/-- `at` compares the kind of the next token. -/
theorem atKind_eq (kind : Kind) (ts : List Token) : atKind kind ts = (nextKind ts = some kind) := by
  cases ts <;> simp [atKind, nextKind]

/-- No keyword stands where no word does. -/
theorem word_other {ts : List Token} (other : nextKind ts ≠ some .word) (spelling : String) :
    word spelling ts = false := by
  cases ts with
  | nil => rfl
  | cons token rest =>
    have notWord : token.kind ≠ .word := by simpa [nextKind] using other
    simp [word, notWord]

/-- No unit stands where no word does. -/
theorem atUnit_other {ts : List Token} (other : nextKind ts ≠ some .word) : atUnit ts = false := by
  cases ts with
  | nil => rfl
  | cons token rest =>
    have notWord : token.kind ≠ .word := by simpa [nextKind] using other
    simp [atUnit, notWord]

/-- `ident` reads the token of a name back as its text. -/
theorem ident_token (name : Ident) (rest : List Token) :
    ident (name.token :: rest) = .ok (name.piece.bytes, rest) := by
  cases name <;> rfl

/-- A canonical first name is in the case that folding gives it. -/
theorem fold_head {head : Ident} (ok : head.WellFormed) (isHead : head.IsHead) :
    fold head.piece.bytes = head.piece.bytes ∧ internal.contains head.piece.bytes = false := by
  cases head with
  | quoted text =>
    refine ⟨rfl, ?_⟩
    have starts : ∀ name ∈ internal, name.head? ≠ some 34 := by decide
    simp only [Ident.piece, Piece.bytes, quoted, List.contains_eq_mem, decide_eq_false_iff_not]
    exact fun found => starts _ found rfl
  | word text =>
    refine ⟨?_, by simpa [Ident.piece, Piece.bytes] using isHead.2⟩
    unfold fold
    split
    · rfl
    · exact isHead.1

/-- `dotted` reads the names of a qualified name back as they are rendered. -/
theorem dotted_complete (name : Bytes) (dots : List Ident) {rest : List Token}
    (ends : nextKind rest ≠ some .dot) :
    dotted name (pieceTokens (dotPieces dots) ++ rest) =
      .ok (name ++ render (dotPieces dots), rest) := by
  induction dots generalizing name with
  | nil =>
    cases rest with
    | nil => simp [dotPieces, dotted]
    | cons token more =>
      obtain ⟨text, kind⟩ := token
      have notDot : kind ≠ .dot := by simpa [nextKind] using ends
      cases kind <;> simp_all [dotPieces, dotted]
  | cons part others ih =>
    have read : identText part.token = some part.piece.bytes := by cases part <;> rfl
    simp [dotPieces, dotted, read, ih, Piece.bytes, lit]

/-- A suffix without a number has no size. -/
theorem arraySize_plain (name : Bytes) {ts : List Token} (other : nextKind ts ≠ some .number) :
    arraySize name ts = (name ++ lit "[", ts) := by
  cases ts with
  | nil => rfl
  | cons token rest =>
    obtain ⟨text, kind⟩ := token
    have notNumber : kind ≠ .number := by simpa [nextKind] using other
    cases kind <;> simp_all [arraySize]

/-- `suffixes` reads array suffixes back as they are rendered. -/
theorem suffixes_complete {room : Nat} (name : Bytes) {arrays : List (Option Bytes)}
    {rest : List Token} (ends : nextKind rest ≠ some .openBracket) (fits : arrays.length ≤ room) :
    suffixes room name (pieceTokens (arrayPieces arrays) ++ rest) =
      .ok (name ++ render (arrayPieces arrays), rest) := by
  induction arrays generalizing name room with
  | nil =>
    unfold suffixes
    simp [arrayPieces, atKind_eq, ends]
  | cons array others ih =>
    obtain ⟨less, rfl⟩ : ∃ less, room = less + 1 := ⟨room - 1, by simp at fits; omega⟩
    have tail : ∀ name, suffixes less name (pieceTokens (arrayPieces others) ++ rest) =
        .ok (name ++ render (arrayPieces others), rest) := fun name => ih name (by simpa using fits)
    unfold suffixes
    cases array with
    | none =>
      have plain : arraySize name (⟨[93], .closeBracket⟩ ::
          (pieceTokens (arrayPieces others) ++ rest)) = (name ++ lit "[", ⟨[93], .closeBracket⟩ ::
          (pieceTokens (arrayPieces others) ++ rest)) := arraySize_plain name (by simp [nextKind])
      simp [arrayPieces, atKind, plain, need, tail, bind, Except.bind, Piece.bytes, lit]
    | some size =>
      simp [arrayPieces, atKind, arraySize, need, tail, bind, Except.bind, Piece.bytes, lit]

/-! ## Phrases -/

/-- A keyword stands where its spelling does. -/
theorem word_here {text : Bytes} {spelling : String} (same : upper text = lit spelling)
    (rest : List Token) : word spelling (⟨text, .word⟩ :: rest) = true := by
  simp [word, same]

/-- Without a word to follow, `doublePrecision` changes nothing. -/
theorem doublePrecision_end (name : Bytes) {ts : List Token} (ends : nextKind ts ≠ some .word) :
    doublePrecision name ts = (name, ts) := by
  simp [doublePrecision, word_other ends]

/-- `doublePrecision` leaves every name but DOUBLE alone. -/
theorem doublePrecision_other {name : Bytes} (other : name ≠ lit "DOUBLE") (ts : List Token) :
    doublePrecision name ts = (name, ts) := by
  simp [doublePrecision, other]

/-- Without a word to follow, `timeZone` changes nothing. -/
theorem timeZone_end (name : Bytes) {ts : List Token} (ends : nextKind ts ≠ some .word) :
    timeZone name ts = .ok (name, ts) := by
  cases ts with
  | nil => rfl
  | cons token rest => simp [timeZone, word_other ends]

/-- Without a word to follow, `varying` changes nothing. -/
theorem varying_end (name : Bytes) {ts : List Token} (ends : nextKind ts ≠ some .word) :
    varying name ts = (name, ts) := by
  simp [varying, word_other ends]

/-- Without a word to follow, `interval` changes nothing. -/
theorem interval_end (name : Bytes) {ts : List Token} (ends : nextKind ts ≠ some .word) :
    interval name ts = .ok (name, ts) := by
  cases ts with
  | nil => rfl
  | cons token rest => simp [interval, atUnit_other ends]

/-- The time zone of a type is read back. -/
theorem timeZone_here {name how : Bytes} (named : name = lit "TIME" ∨ name = lit "TIMESTAMP")
    (kind : how = lit "WITH" ∨ how = lit "WITHOUT") (rest : List Token) :
    timeZone name (⟨how, .word⟩ :: ⟨lit "TIME", .word⟩ :: ⟨lit "ZONE", .word⟩ :: rest) =
      .ok (name ++ render (wordPieces [how, lit "TIME", lit "ZONE"]), rest) := by
  have time := word_here (by decide : upper (lit "TIME") = lit "TIME")
    (⟨lit "ZONE", .word⟩ :: rest)
  have zone := word_here (by decide : upper (lit "ZONE") = lit "ZONE") rest
  have same : upper how = how := by rcases kind with rfl | rfl <;> decide
  have found : (word "WITH" (⟨how, .word⟩ :: ⟨lit "TIME", .word⟩ :: ⟨lit "ZONE", .word⟩ :: rest) ||
      word "WITHOUT" (⟨how, .word⟩ :: ⟨lit "TIME", .word⟩ :: ⟨lit "ZONE", .word⟩ :: rest)) =
      true := by
    rcases kind with rfl | rfl
    · rw [word_here (by decide : upper (lit "WITH") = lit "WITH"), Bool.true_or]
    · rw [word_here (by decide : upper (lit "WITHOUT") = lit "WITHOUT"), Bool.or_true]
  have guard : (name = lit "TIME" || name = lit "TIMESTAMP") = true := by simpa using named
  simp only [timeZone, guard, found, Bool.and_self, ↓reduceIte, time, zone, List.tail_cons,
    Bool.not_true, Bool.false_eq_true, same]
  simp [wordPieces, Piece.bytes, lit]

/-- The word after `NATIONAL` is read back. -/
theorem national_here {kind : Bytes} (named : kind = lit "CHAR" ∨ kind = lit "CHARACTER")
    (rest : List Token) :
    national (lit "NATIONAL") (⟨kind, .word⟩ :: rest) =
      .ok (lit "NATIONAL" ++ render (wordPieces [kind]), rest) := by
  have blank : lit " " = [32] := by decide
  have same : upper kind = kind := by rcases named with rfl | rfl <;> decide
  rcases named with rfl | rfl
  · simp [national, word_here same, same, wordPieces, Piece.bytes, blank]
  · simp [national, word_here same, same, wordPieces, Piece.bytes, blank]

/-- `VARYING` after the name of a character type is read back as it is rendered. -/
theorem varying_here {name : Bytes} (named : name ∈ characterNames) (rest : List Token) :
    varying name (⟨lit "VARYING", .word⟩ :: rest) =
      (name ++ render (wordPieces [lit "VARYING"]), rest) := by
  have found := word_here (by decide : upper (lit "VARYING") = lit "VARYING") rest
  have spelled : lit " VARYING" = 32 :: lit "VARYING" := by decide
  simp only [characterNames, List.map_cons, List.map_nil, List.mem_cons, List.not_mem_nil,
    or_false] at named
  rcases named with rfl | rfl | rfl | rfl | rfl <;>
    simp [varying, found, spelled, wordPieces, Piece.bytes]

/-- A unit is found where it stands. -/
theorem atUnit_here {unit : Bytes} (known : unit ∈ units) (rest : List Token) :
    upper unit = unit ∧ atUnit (⟨unit, .word⟩ :: rest) = true := by
  have folded : ∀ name ∈ units, upper name = name := by decide
  have same := folded unit known
  exact ⟨same, by simp [atUnit, same, known]⟩

/-- A unit after `INTERVAL` is read back. -/
theorem interval_unit {unit : Bytes} (known : unit ∈ units) {rest : List Token}
    (ends : nextKind rest ≠ some .word) :
    interval (lit "INTERVAL") (⟨unit, .word⟩ :: rest) =
      .ok (lit "INTERVAL" ++ render (wordPieces [unit]), rest) := by
  have blank : lit " " = [32] := by decide
  obtain ⟨same, found⟩ := atUnit_here known rest
  simp [interval, found, word_other ends, same, wordPieces, Piece.bytes, blank]

/-- A range of units after `INTERVAL` is read back. -/
theorem interval_range {first last : Bytes} (known : first ∈ units) (also : last ∈ units)
    (rest : List Token) :
    interval (lit "INTERVAL") (⟨first, .word⟩ :: ⟨lit "TO", .word⟩ :: ⟨last, .word⟩ :: rest) =
      .ok (lit "INTERVAL" ++ render (wordPieces [first, lit "TO", last]), rest) := by
  have blank : lit " " = [32] := by decide
  have spelled : lit " TO " = 32 :: lit "TO" ++ [32] := by decide
  have linked := word_here (by decide : upper (lit "TO") = lit "TO") (⟨last, .word⟩ :: rest)
  obtain ⟨same, found⟩ := atUnit_here known (⟨lit "TO", .word⟩ :: ⟨last, .word⟩ :: rest)
  obtain ⟨alike, there⟩ := atUnit_here also rest
  simp [interval, found, linked, there, same, alike, wordPieces, Piece.bytes, blank, spelled]

/-- The tokens of a phrase are its words. -/
@[simp]
theorem pieceTokens_wordPieces (words : List Bytes) :
    pieceTokens (wordPieces words) = words.map fun text => ⟨text, .word⟩ := by
  induction words with
  | nil => rfl
  | cons text rest ih => simp [wordPieces, ih]

/-- Names that begin no phrase of `DOUBLE` or a time go straight to the other phrases. -/
theorem phrase_character {name : Bytes} (other : name ≠ lit "DOUBLE" ∧ name ≠ lit "TIME" ∧
    name ≠ lit "TIMESTAMP") (ts : List Token) : phrase name ts = characterPhrase name ts := by
  simp only [phrase, doublePrecision_other other.1, timeZone_other other.2]
  rfl

/-- After `national`, the rest of a phrase is read by `varying` and `interval`. -/
theorem characterPhrase_eq {name second : Bytes} {ts left : List Token}
    (read : national name ts = .ok (second, left)) :
    characterPhrase name ts = interval (varying second left).1 (varying second left).2 := by
  rw [characterPhrase, read]
  rfl

/-- The words of a phrase are read back. -/
theorem phrase_complete {name : Bytes} {words : List Bytes} (ok : Phrase name words)
    {rest : List Token} (ends : nextKind rest ≠ some .word) :
    phrase name (pieceTokens (wordPieces words) ++ rest) =
      .ok (name ++ render (wordPieces words), rest) := by
  rw [pieceTokens_wordPieces]
  cases ok with
  | plain _ other =>
    simp [phrase, doublePrecision_end name ends, timeZone_end name ends, national_other other,
      varying_end name ends, interval_end name ends, bind, Except.bind, wordPieces]
  | doublePrecision =>
    have found := word_here (by decide : upper (lit "PRECISION") = lit "PRECISION") rest
    have first : doublePrecision (lit "DOUBLE") (⟨lit "PRECISION", .word⟩ :: rest) =
        (lit "DOUBLE PRECISION", rest) := by
      simp only [doublePrecision, found]
      rfl
    have last := characterPhrase_other (by decide : lit "DOUBLE PRECISION" ≠ lit "NATIONAL" ∧
      lit "DOUBLE PRECISION" ∉ characterNames ∧ lit "DOUBLE PRECISION" ≠ lit "INTERVAL") rest
    simp only [List.map_cons, List.map_nil, List.cons_append, List.nil_append, phrase, first,
      timeZone_other (by decide : lit "DOUBLE PRECISION" ≠ lit "TIME" ∧
        lit "DOUBLE PRECISION" ≠ lit "TIMESTAMP")]
    exact last
  | timeZone _ how named kind =>
    have notDouble : name ≠ lit "DOUBLE" := by rcases named with rfl | rfl <;> decide
    have other : name ++ render (wordPieces [how, lit "TIME", lit "ZONE"]) ≠ lit "NATIONAL" ∧
        name ++ render (wordPieces [how, lit "TIME", lit "ZONE"]) ∉ characterNames ∧
        name ++ render (wordPieces [how, lit "TIME", lit "ZONE"]) ≠ lit "INTERVAL" := by
      rcases named with rfl | rfl <;> rcases kind with rfl | rfl <;> decide
    have last := characterPhrase_other other rest
    simp only [List.map_cons, List.map_nil, List.cons_append, List.nil_append, phrase,
      doublePrecision_other notDouble, timeZone_here named kind rest]
    exact last
  | varying _ named =>
    have member : name ∈ characterNames := by rcases named with rfl | rfl | rfl <;> decide
    have other : (name ≠ lit "DOUBLE" ∧ name ≠ lit "TIME" ∧ name ≠ lit "TIMESTAMP") ∧
        name ≠ lit "NATIONAL" ∧ name ++ render (wordPieces [lit "VARYING"]) ≠ lit "INTERVAL" := by
      rcases named with rfl | rfl | rfl <;> decide
    rw [phrase_character other.1, characterPhrase_eq (national_other other.2.1 _)]
    simp only [List.map_cons, List.map_nil, List.cons_append, List.nil_append,
      varying_here member rest]
    exact interval_other other.2.2 rest
  | national kind named =>
    have other : lit "NATIONAL" ++ render (wordPieces [kind]) ≠ lit "INTERVAL" := by
      rcases named with rfl | rfl <;> decide
    simp only [List.map_cons, List.map_nil, List.cons_append, List.nil_append]
    rw [phrase_character (by decide), characterPhrase_eq (national_here named rest),
      varying_end _ ends]
    exact interval_other other rest
  | nationalVarying kind named =>
    have member : lit "NATIONAL" ++ render (wordPieces [kind]) ∈ characterNames := by
      rcases named with rfl | rfl <;> decide
    have other : lit "NATIONAL" ++ render (wordPieces [kind, lit "VARYING"]) ≠ lit "INTERVAL" := by
      rcases named with rfl | rfl <;> decide
    have whole : lit "NATIONAL" ++ render (wordPieces [kind]) ++
        render (wordPieces [lit "VARYING"]) =
        lit "NATIONAL" ++ render (wordPieces [kind, lit "VARYING"]) := by
      simp [wordPieces]
    simp only [List.map_cons, List.map_nil, List.cons_append, List.nil_append]
    rw [phrase_character (by decide), characterPhrase_eq (national_here named _),
      varying_here member rest, whole]
    exact interval_other other rest
  | unit unit known =>
    simp only [List.map_cons, List.map_nil, List.cons_append, List.nil_append]
    rw [phrase_character (by decide), characterPhrase_eq (national_other (by decide) _),
      varying_other (by decide)]
    exact interval_unit known ends
  | range first last known also =>
    simp only [List.map_cons, List.map_nil, List.cons_append, List.nil_append]
    rw [phrase_character (by decide), characterPhrase_eq (national_other (by decide) _),
      varying_other (by decide)]
    exact interval_range known also rest

/-! ## Whole declarations -/

/-- One parameter is read back, with what stands before it. -/
theorem parameters_step {read : List Token → Except String (Bytes × List Token)}
    {base text : Bytes} (fuel : Nat) (first : Bool) (name : Bytes) {item more : List Token}
    (starts : nextKind (item ++ more) ≠ some .closeParen)
    (one : ∀ name, parameter read base name (item ++ more) = .ok (name ++ text, more))
    (goesOn : more ≠ []) :
    parameters read base (fuel + 1) first name (pieceTokens (lead first) ++ (item ++ more)) =
      parameters read base fuel false (name ++ render (lead first) ++ text) more := by
  rw [parameters]
  cases first with
  | true =>
    simp only [lead, pieceTokens_nil, List.nil_append, atKind_eq, starts, ↓reduceIte, bind,
      Except.bind, one, goesOn, render_nil, List.append_nil]
  | false =>
    have comma : atKind .closeParen (pieceTokens (lead false) ++ (item ++ more)) = false := by
      simp [lead, atKind]
    rw [comma]
    simp [lead, need, Except.map, bind, Except.bind, one, goesOn, Piece.bytes, lit]

/-- The parameters after the first begin with a comma or end with a parenthesis. -/
theorem params_follow (params : Params) (rest : List Token) :
    Follows (pieceTokens (params.pieces false) ++ rest) ∧
      pieceTokens (params.pieces false) ++ rest ≠ [] := by
  cases params <;> simp [Params.pieces, lead, Follows, nextKind]

/-- The tokens of a declaration begin with that of its name. -/
theorem pieceTokens_decl (decl : Decl) :
    ∃ (head : Ident) (more : List Token), pieceTokens decl.pieces = head.token :: more := by
  cases decl with
  | mk head dots words params arrays =>
    exact ⟨head, _, by simp only [Decl.pieces, basePieces, namePieces, List.cons_append,
      pieceTokens_ident]; rfl⟩

/-- The token of a name is a word or a quoted name, never a number. -/
theorem ident_kind (name : Ident) : name.token.kind = .word ∨ name.token.kind = .name := by
  cases name <;> simp [Ident.token]

/-- What follows the words of a phrase. -/
theorem nextKind_group (params : Params) (arrays : List (Option Bytes)) (rest : List Token) :
    nextKind (pieceTokens ((if params.isNil then [] else .mark 40 :: params.pieces true) ++
        arrayPieces arrays) ++ rest) = some .openParen ∨
      nextKind (pieceTokens ((if params.isNil then [] else .mark 40 :: params.pieces true) ++
        arrayPieces arrays) ++ rest) = some .openBracket ∨
      nextKind (pieceTokens ((if params.isNil then [] else .mark 40 :: params.pieces true) ++
        arrayPieces arrays) ++ rest) = nextKind rest := by
  split
  · rcases arrays with _ | ⟨_ | _, _⟩ <;> simp [arrayPieces, nextKind]
  · simp [nextKind]

/-- After array suffixes comes an opening bracket, or what follows them. -/
theorem nextKind_arrays (arrays : List (Option Bytes)) (rest : List Token) :
    nextKind (pieceTokens (arrayPieces arrays) ++ rest) = some .openBracket ∨
      nextKind (pieceTokens (arrayPieces arrays) ++ rest) = nextKind rest := by
  rcases arrays with _ | ⟨_ | _, _⟩ <;> simp [arrayPieces, nextKind]

/-- After a phrase comes a word, or what follows the phrase. -/
theorem nextKind_words (words : List Bytes) (rest : List Token) :
    nextKind (pieceTokens (wordPieces words) ++ rest) = some .word ∨
      nextKind (pieceTokens (wordPieces words) ++ rest) = nextKind rest := by
  cases words <;> simp [nextKind]

mutual

/-- A well-formed declaration that fits the room is read back, with the text of its pieces. -/
theorem Decl.parse : ∀ (decl : Decl) {room : Nat} {rest : List Token}, decl.WellFormed →
    decl.height ≤ room → Follows rest →
    type room (pieceTokens decl.pieces ++ rest) = .ok (render decl.pieces, rest)
  | .mk head dots words params arrays, room, rest, ok, fits, follows => by
    obtain ⟨headOk, isHead, dotsOk, phraseOk, paramsOk, sizes⟩ := ok
    simp only [Decl.height] at fits
    obtain ⟨less, rfl⟩ : ∃ less, room = less + 1 := ⟨room - 1, by omega⟩
    have inner : params.height ≤ less := by omega
    have few : arrays.length ≤ less := by omega
    -- The three cuts of the tokens: after the qualified name, its phrase and its parameters.
    have afterWords := nextKind_group params arrays rest
    have afterDots := nextKind_words words (pieceTokens
      ((if params.isNil then [] else .mark 40 :: params.pieces true) ++ arrayPieces arrays) ++ rest)
    have afterParams := nextKind_arrays arrays rest
    have notDot : nextKind (pieceTokens (wordPieces words) ++ (pieceTokens
        ((if params.isNil then [] else .mark 40 :: params.pieces true) ++ arrayPieces arrays) ++
          rest)) ≠ some .dot := by
      unfold Follows at follows
      grind
    have notWord : nextKind (pieceTokens
        ((if params.isNil then [] else .mark 40 :: params.pieces true) ++ arrayPieces arrays) ++
          rest) ≠ some .word := by
      unfold Follows at follows
      grind
    have notParen : nextKind (pieceTokens (arrayPieces arrays) ++ rest) ≠ some .openParen := by
      unfold Follows at follows
      grind
    have notBracket : nextKind rest ≠ some .openBracket := by
      unfold Follows at follows
      grind
    obtain ⟨folded, outer⟩ := fold_head headOk isHead
    have tokens : pieceTokens (Decl.mk head dots words params arrays).pieces ++ rest =
        head.token :: (pieceTokens (dotPieces dots) ++ (pieceTokens (wordPieces words) ++
          (pieceTokens ((if params.isNil then [] else .mark 40 :: params.pieces true) ++
            arrayPieces arrays) ++ rest))) := by
      simp [Decl.pieces, basePieces, namePieces]
    have base : head.piece.bytes ++ render (dotPieces dots) ++ render (wordPieces words) =
        render (basePieces head dots words) := by simp [basePieces, namePieces]
    have qualified : head.piece.bytes ++ render (dotPieces dots) =
        render (namePieces head dots) := by simp [namePieces]
    have group : (if atKind .openParen (pieceTokens
          ((if params.isNil then [] else .mark 40 :: params.pieces true) ++ arrayPieces arrays) ++
            rest) then
          parameters (type less) (render (basePieces head dots words))
            ((pieceTokens ((if params.isNil then [] else .mark 40 :: params.pieces true) ++
              arrayPieces arrays) ++ rest).tail.length + 1) true
            (render (basePieces head dots words) ++ lit "(")
            (pieceTokens ((if params.isNil then [] else .mark 40 :: params.pieces true) ++
              arrayPieces arrays) ++ rest).tail
        else .ok (render (basePieces head dots words), pieceTokens
          ((if params.isNil then [] else .mark 40 :: params.pieces true) ++ arrayPieces arrays) ++
            rest)) = .ok (render (basePieces head dots words) ++
              render (if params.isNil then [] else .mark 40 :: params.pieces true),
              pieceTokens (arrayPieces arrays) ++ rest) := by
      cases empty : params.isNil with
      | true => simp [atKind_eq, notParen]
      | false =>
        have read := params.parse ((pieceTokens (params.pieces true) ++
          (pieceTokens (arrayPieces arrays) ++ rest)).length + 1) true
          (render (basePieces head dots words) ++ lit "(")
          (pieceTokens (arrayPieces arrays) ++ rest) paramsOk inner (by simp; omega)
          (fun _ => empty)
        have opening : lit "(" = [40] := by decide
        simp only [Bool.false_eq_true, ↓reduceIte, List.cons_append, pieceTokens_openParen,
          atKind, decide_true, List.tail_cons, pieceTokens_append, List.append_assoc, read]
        simp [Piece.bytes, opening]
    rw [tokens, type]
    simp only [bind, Except.bind, ident_token, folded, outer, Bool.false_eq_true, ↓reduceIte,
      dotted_complete _ dots notDot, qualified, phrase_complete phraseOk notWord]
    rw [← qualified, base, group]
    simp only [suffixes_complete _ notBracket few]
    simp [Decl.pieces]

/-- Well-formed parameters that fit the room are read back, to the closing parenthesis. -/
theorem Params.parse : ∀ (params : Params) {base : Bytes} {room : Nat} (fuel : Nat)
    (first : Bool) (name : Bytes) (rest : List Token), params.WellFormed base → params.height ≤ room →
    (pieceTokens (params.pieces first)).length ≤ fuel → (first = true → params.isNil = false) →
    parameters (type room) base fuel first name (pieceTokens (params.pieces first) ++ rest) =
      .ok (name ++ render (params.pieces first), rest)
  | .nil, base, room, fuel, first, name, rest, _, _, enough, nonempty => by
    obtain ⟨less, rfl⟩ : ∃ less, fuel = less + 1 :=
      ⟨fuel - 1, by simp [Params.pieces] at enough; omega⟩
    cases first with
    | true => simp [Params.isNil] at nonempty
    | false => simp [Params.pieces, parameters, atKind, Piece.bytes, lit]
  | .field field type_ others, base, room, fuel, first, name, rest, ok, fits, enough, _ => by
    obtain ⟨isFields, named, nested, more⟩ := ok
    obtain ⟨less, rfl⟩ : ∃ less, fuel = less + 1 :=
      ⟨fuel - 1, by simp [Params.pieces] at enough; omega⟩
    simp only [Params.height] at fits
    obtain ⟨follows, goesOn⟩ := params_follow others rest
    have inside := type_.parse nested (Nat.le_trans (Nat.le_max_left _ _) fits) follows
    have tail := others.parse less false
      (name ++ render (lead first) ++ (field.piece.bytes ++ (32 :: render type_.pieces))) rest more
      (Nat.le_trans (Nat.le_max_right _ _) fits)
      (by simp [Params.pieces] at enough; omega) (by simp)
    have one : ∀ name, parameter (type room) base name
        ((field.token :: pieceTokens type_.pieces) ++ (pieceTokens (others.pieces false) ++ rest)) =
        .ok (name ++ (field.piece.bytes ++ (32 :: render type_.pieces)),
          pieceTokens (others.pieces false) ++ rest) := by
      intro name
      have guard : (base = lit "STRUCT" || base = lit "UNION") = true := isFields
      have blank : lit " " = [32] := by decide
      simp [parameter, guard, bind, Except.bind, ident_token, inside, blank]
    have starts : nextKind ((field.token :: pieceTokens type_.pieces) ++
        (pieceTokens (others.pieces false) ++ rest)) ≠ some .closeParen := by
      rcases ident_kind field with kind | kind <;> simp [nextKind, kind]
    have step := parameters_step less first name starts one goesOn
    rw [tail] at step
    simpa [Params.pieces, Piece.bytes] using step
  | .type type_ others, base, room, fuel, first, name, rest, ok, fits, enough, _ => by
    obtain ⟨notFields, isTypes, nested, more⟩ := ok
    obtain ⟨head, inner, shape⟩ := pieceTokens_decl type_
    obtain ⟨less, rfl⟩ : ∃ less, fuel = less + 1 :=
      ⟨fuel - 1, by simp [Params.pieces, shape] at enough; omega⟩
    simp only [Params.height] at fits
    obtain ⟨follows, goesOn⟩ := params_follow others rest
    have inside := type_.parse nested (Nat.le_trans (Nat.le_max_left _ _) fits) follows
    have tail := others.parse less false
      (name ++ render (lead first) ++ render type_.pieces) rest more
      (Nat.le_trans (Nat.le_max_right _ _) fits)
      (by simp [Params.pieces, shape] at enough; omega) (by simp)
    have one : ∀ name, parameter (type room) base name
        (pieceTokens type_.pieces ++ (pieceTokens (others.pieces false) ++ rest)) =
        .ok (name ++ render type_.pieces, pieceTokens (others.pieces false) ++ rest) := by
      intro name
      have first : (base = lit "STRUCT" || base = lit "UNION") = false := notFields
      have second : (base = lit "MAP" || base = lit "LIST" || base = lit "ARRAY") = true := isTypes
      rw [shape] at inside ⊢
      rcases ident_kind head with kind | kind <;> cases head <;>
        simp_all [parameter, bind, Except.bind, Ident.token]
    have starts : nextKind (pieceTokens type_.pieces ++
        (pieceTokens (others.pieces false) ++ rest)) ≠ some .closeParen := by
      rw [shape]
      rcases ident_kind head with kind | kind <;> simp [nextKind, kind]
    have step := parameters_step less first name starts one goesOn
    rw [tail] at step
    simpa [Params.pieces] using step
  | .number digits others, base, room, fuel, first, name, rest, ok, fits, enough, _ => by
    obtain ⟨notFields, _, more⟩ := ok
    obtain ⟨less, rfl⟩ : ∃ less, fuel = less + 1 :=
      ⟨fuel - 1, by simp [Params.pieces] at enough; omega⟩
    obtain ⟨follows, goesOn⟩ := params_follow others rest
    have tail := others.parse less false
      (name ++ render (lead first) ++ digits) rest more fits
      (by simp [Params.pieces] at enough; omega) (by simp)
    have one : ∀ name, parameter (type room) base name
        ([⟨digits, .number⟩] ++ (pieceTokens (others.pieces false) ++ rest)) =
        .ok (name ++ digits, pieceTokens (others.pieces false) ++ rest) := by
      intro name
      have first : (base = lit "STRUCT" || base = lit "UNION") = false := notFields
      simp only [parameter, first, Bool.false_eq_true, ↓reduceIte, List.singleton_append]
      split <;> rfl
    have step := parameters_step less first name
      (by simp [nextKind]) one goesOn
    rw [tail] at step
    simpa [Params.pieces, Piece.bytes] using step
  | .label text others, base, room, fuel, first, name, rest, ok, fits, enough, _ => by
    obtain ⟨notFields, notTypes, _, more⟩ := ok
    obtain ⟨less, rfl⟩ : ∃ less, fuel = less + 1 :=
      ⟨fuel - 1, by simp [Params.pieces] at enough; omega⟩
    obtain ⟨follows, goesOn⟩ := params_follow others rest
    have tail := others.parse less false
      (name ++ render (lead first) ++ quoted 39 text) rest more fits
      (by simp [Params.pieces] at enough; omega) (by simp)
    have one : ∀ name, parameter (type room) base name
        ([⟨text, .label⟩] ++ (pieceTokens (others.pieces false) ++ rest)) =
        .ok (name ++ quoted 39 text, pieceTokens (others.pieces false) ++ rest) := by
      intro name
      have first : (base = lit "STRUCT" || base = lit "UNION") = false := notFields
      have second : (base = lit "MAP" || base = lit "LIST" || base = lit "ARRAY") = false := notTypes
      simp only [parameter, first, second, Bool.false_eq_true, ↓reduceIte, List.singleton_append]
    have step := parameters_step less first name
      (by simp [nextKind]) one goesOn
    rw [tail] at step
    simpa [Params.pieces, Piece.bytes] using step

end

/-! ## Canonicalization -/

/-- A canonical text is the text of a well-formed structure with tokens like the declaration's. -/
theorem duckdbCanonicalizeType_sound {declaration canonical : Bytes}
    (accepted : duckdbCanonicalizeType declaration = .ok canonical) :
    ∃ (decl : Decl) (ts : List Token), tokens declaration = .ok ts ∧
      canonical = render decl.pieces ∧ List.Forall₂ Token.Like ts (pieceTokens decl.pieces) ∧
      decl.WellFormed ∧ decl.height ≤ 65 := by
  obtain ⟨ts, lexed, parsed⟩ := Outcome.bind_eq_ok.mp accepted
  obtain ⟨⟨text, rest⟩, typed, ended⟩ := Outcome.bind_eq_ok.mp parsed
  obtain ⟨none, same⟩ := Outcome.ite_error_eq_ok.mp ended
  obtain rfl := Except.ok.inj same
  obtain rfl : rest = [] := by simpa using none
  obtain ⟨decl, rfl, ⟨used, rfl, alike⟩, ok, fits⟩ :=
    type_sound 65 _ _ _ (tokens_valid lexed) typed
  exact ⟨decl, _, lexed, rfl, by simpa [pieceTokens] using alike, ok, fits⟩

/-- Clean pieces have a text without NUL. -/
theorem noNul_render {pieces : List Piece} (clean : ∀ piece ∈ pieces, Clean piece) :
    0 ∉ render pieces := by
  induction pieces with
  | nil => simp
  | cons piece rest ih =>
    simp only [List.mem_cons, forall_eq_or_imp] at clean
    simp [clean.1.noNul, ih clean.2]

/-- The pieces of a declaration are separated. -/
theorem Decl.pieces_separated (decl : Decl) : Separated decl.pieces := by
  simpa using decl.separated trailing_nil

/-- The text of a well-formed structure has the structure's tokens. -/
theorem Decl.WellFormed.tokens {decl : Decl} (ok : decl.WellFormed) :
    tokens (render decl.pieces) = .ok (pieceTokens decl.pieces) := by
  have clean := ok.clean
  have read := scanAll_render (fun piece found => (clean piece found).valid)
    (fun piece found => (clean piece found).decl) decl.pieces_separated
  rw [Types.tokens, if_neg (noNul_render clean)]
  exact read

/-- The text of a well-formed structure that fits the limit is its own canonical form. -/
theorem Decl.WellFormed.canonical {decl : Decl} (ok : decl.WellFormed) (fits : decl.height ≤ 65) :
    duckdbCanonicalizeType (render decl.pieces) = .ok (render decl.pieces) := by
  have parsed := decl.parse ok fits (Or.inl rfl : Follows [])
  rw [List.append_nil] at parsed
  simp [duckdbCanonicalizeType, ok.tokens, parsed, bind, Except.bind]

/-- Canonicalizing keeps the tokens of a declaration, unquoted words up to their case, and a
canonical declaration is its own canonical form. -/
theorem canonical_keeps_meaning {declaration canonical : Bytes}
    (accepted : duckdbCanonicalizeType declaration = .ok canonical) :
    (∃ ts cs, tokens declaration = .ok ts ∧ tokens canonical = .ok cs ∧
      List.Forall₂ Token.Like ts cs) ∧
      duckdbCanonicalizeType canonical = .ok canonical := by
  obtain ⟨decl, ts, lexed, rfl, alike, ok, fits⟩ := duckdbCanonicalizeType_sound accepted
  exact ⟨⟨ts, _, lexed, ok.tokens, alike⟩, ok.canonical fits⟩

/-- A nested declaration with a quoted name and a phrase of several words. -/
theorem canonical_keeps_meaning_struct :
    (∃ ts cs, tokens (lit "struct( \"a\"\"b\" national character varying(3) [])") = .ok ts ∧
      tokens (lit "STRUCT(\"a\"\"b\" NATIONAL CHARACTER VARYING(3)[])") = .ok cs ∧
      List.Forall₂ Token.Like ts cs) ∧
      duckdbCanonicalizeType (lit "STRUCT(\"a\"\"b\" NATIONAL CHARACTER VARYING(3)[])") =
        .ok (lit "STRUCT(\"a\"\"b\" NATIONAL CHARACTER VARYING(3)[])") :=
  canonical_keeps_meaning (by decide +kernel)

end PhpDuckdb.Types
