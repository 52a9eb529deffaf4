import PhpDuckdb.Types.Declaration

/-!
# What the grammar accepts is a declaration

Every helper of the grammar appends the text of some pieces to the name and consumes tokens like
theirs. Put together, an accepted declaration has a well-formed structure whose pieces are the
canonical text and whose tokens are the declaration's own, unquoted words up to their case.
-/

namespace PhpDuckdb.Types

open SqlText

/-- Two tokens of one meaning: unquoted words agree up to their case, other tokens exactly. -/
structure Token.Like (first second : Token) : Prop where
  /-- They are of one kind. -/
  kind : first.kind = second.kind
  /-- Words have one upper case, other tokens one text. -/
  text : if first.kind = .word then upper first.text = upper second.text
    else first.text = second.text

/-- Every token is like itself in any case of its letters. -/
theorem Token.Like.refl (token : Token) : token.Like token := ⟨rfl, by split <;> rfl⟩

/-- Upper case is its own upper case. -/
theorem upper_upper (text : Bytes) : upper (upper text) = upper text := by
  simp [upper, toUpper_toUpper]

/-- A word is like its upper case. -/
theorem like_upper {text : Bytes} {kind : Kind} (isWord : kind = .word) :
    Token.Like ⟨text, kind⟩ ⟨upper text, .word⟩ :=
  ⟨isWord, by simp [isWord, upper_upper]⟩

/-- A valid word stays one in upper case. -/
theorem valid_upper {text : Bytes} (valid : (Piece.word text).Valid) :
    (Piece.word (upper text)).Valid := by
  cases text with
  | nil => exact valid.elim
  | cons first rest =>
    obtain ⟨begins, parts⟩ := valid
    refine ⟨by rw [isWordStart_toUpper]; exact begins, ?_⟩
    intro byte found
    obtain ⟨original, member, rfl⟩ := List.mem_map.mp found
    rw [isWordPart_toUpper]
    exact parts original member

/-- The tokens consumed between two parser states are like those of some pieces. -/
def Reads (ts rest : List Token) (pieces : List Piece) : Prop :=
  ∃ used, ts = used ++ rest ∧ List.Forall₂ Token.Like used (pieces.filterMap pieceToken)

/-- Consuming no token reads no pieces. -/
theorem reads_nil (ts : List Token) : Reads ts ts [] := ⟨[], rfl, .nil⟩

/-- Consuming in two parts reads the pieces of both, in order. -/
theorem Reads.append {ts middle rest : List Token} {first second : List Piece}
    (early : Reads ts middle first) (late : Reads middle rest second) :
    Reads ts rest (first ++ second) := by
  obtain ⟨used, rfl, alike⟩ := early
  obtain ⟨more, rfl, also⟩ := late
  refine ⟨used ++ more, by simp, ?_⟩
  rw [List.filterMap_append]
  exact List.rel_append alike also

/-- A space is a piece that consumes no token. -/
theorem Reads.space {ts rest : List Token} {pieces : List Piece} (reads : Reads ts rest pieces) :
    Reads ts rest (.space :: pieces) := reads

/-- Consuming one token reads a piece that lexes to one like it. -/
theorem reads_token {token same : Token} {piece : Piece} (reads : pieceToken piece = some same)
    (alike : token.Like same) (rest : List Token) : Reads (token :: rest) rest [piece] :=
  ⟨[token], rfl, by simp [reads, alike]⟩

/-- Consuming one token before others reads its piece before theirs. -/
theorem Reads.cons {token same : Token} {piece : Piece} {ts rest : List Token}
    {pieces : List Piece} (reads : Reads ts rest pieces) (read : pieceToken piece = some same)
    (alike : token.Like same) : Reads (token :: ts) rest (piece :: pieces) :=
  (reads_token read alike ts).append reads

/-- The tokens that are left were there before. -/
theorem Reads.subset {ts rest : List Token} {pieces : List Piece} (reads : Reads ts rest pieces) :
    rest ⊆ ts := by
  obtain ⟨used, rfl, _⟩ := reads
  exact List.subset_append_right used rest

/-- Every token of a parser state is valid. -/
def AllValid (ts : List Token) : Prop := ∀ token ∈ ts, token.Valid

/-- The tokens that are left after consuming some are still valid. -/
theorem AllValid.after {ts rest : List Token} {pieces : List Piece} (valid : AllValid ts)
    (reads : Reads ts rest pieces) : AllValid rest :=
  fun token found => valid token (reads.subset found)

/-- The tokens after the first are valid. -/
theorem AllValid.tail {token : Token} {rest : List Token} (valid : AllValid (token :: rest)) :
    AllValid rest := fun other found => valid other (List.mem_cons_of_mem _ found)

/-- The token that a name is read from. -/
def Ident.token : Ident → Token
  | .word text => ⟨text, .word⟩
  | .quoted text => ⟨text, .name⟩

/-- The piece of a name reads as the token of that name. -/
@[simp]
theorem pieceToken_ident (name : Ident) : pieceToken name.piece = some name.token := by
  cases name <;> rfl

/-- A token that `identText` accepts is that of a name. -/
theorem identText_sound {token : Token} {text : Bytes} (valid : token.Valid)
    (read : identText token = some text) :
    ∃ name : Ident, token = name.token ∧ text = name.piece.bytes ∧ name.WellFormed := by
  obtain ⟨content, kind⟩ := token
  cases kind with
  | name =>
    obtain rfl := Option.some.inj read
    exact ⟨.quoted content, rfl, rfl, valid⟩
  | word =>
    obtain rfl := Option.some.inj read
    exact ⟨.word content, rfl, rfl, valid⟩
  | label => simp [identText] at read
  | number => simp [identText] at read
  | openParen => simp [identText] at read
  | closeParen => simp [identText] at read
  | openBracket => simp [identText] at read
  | closeBracket => simp [identText] at read
  | comma => simp [identText] at read
  | dot => simp [identText] at read

/-- What `ident` accepts is the token of a well-formed name, and the result is its text. -/
theorem ident_sound {ts rest : List Token} {text : Bytes} (valid : AllValid ts)
    (read : ident ts = .ok (text, rest)) :
    ∃ name : Ident, ts = name.token :: rest ∧ text = name.piece.bytes ∧ name.WellFormed := by
  cases ts with
  | nil => simp [ident] at read
  | cons token more =>
    simp only [ident] at read
    split at read
    · rename_i found known
      simp only [Except.ok.injEq, Prod.mk.injEq] at read
      obtain ⟨rfl, rfl⟩ := read
      obtain ⟨name, rfl, same, ok⟩ := identText_sound (valid token (by simp)) known
      exact ⟨name, rfl, same, ok⟩
    · simp at read

/-- A first name is folded as a piece. -/
theorem fold_sound {name : Ident} (ok : name.WellFormed)
    (outer : internal.contains (fold name.piece.bytes) = false) :
    ∃ head : Ident, fold name.piece.bytes = head.piece.bytes ∧ head.WellFormed ∧ head.IsHead ∧
      name.token.Like head.token := by
  cases name with
  | quoted text => exact ⟨.quoted text, rfl, ok, trivial, .refl _⟩
  | word text =>
    have unquoted : fold text = upper text := by
      cases text with
      | nil => exact ok.elim
      | cons first rest =>
        have notQuote := (isWordStart_class ok.1).2.1
        have other : first ≠ 34 := by
          rintro rfl
          exact absurd notQuote (by decide)
        simp [fold, other]
    have notInternal : upper text ∉ internal := by
      simpa [Ident.piece, Piece.bytes, unquoted] using outer
    exact ⟨.word (upper text), unquoted, valid_upper ok, ⟨upper_upper text, notInternal⟩,
      like_upper rfl⟩

/-- What `dotted` consumes is the rest of a qualified name. -/
theorem dotted_sound {name result : Bytes} {ts rest : List Token} (valid : AllValid ts)
    (read : dotted name ts = .ok (result, rest)) :
    ∃ dots : List Ident, result = name ++ render (dotPieces dots) ∧
      Reads ts rest (dotPieces dots) ∧ ∀ part ∈ dots, part.WellFormed := by
  fun_induction dotted name ts with
  | case1 name text part others more known ih =>
    have dot : text = [46] := valid ⟨text, .dot⟩ (by simp)
    obtain ⟨field, rfl, same, ok⟩ := identText_sound (valid part (by simp)) known
    obtain ⟨dots, shape, reads, oks⟩ := ih valid.tail.tail read
    refine ⟨field :: dots, ?_, ?_, by simpa using ⟨ok, oks⟩⟩
    · simp [shape, same, dotPieces, Piece.bytes, lit]
    · subst dot
      exact (reads.cons (pieceToken_ident field) (.refl _)).cons rfl (.refl _)
  | case2 => simp at read
  | case3 => simp at read
  | case4 name ts _ _ =>
    simp only [Except.ok.injEq, Prod.mk.injEq] at read
    obtain ⟨rfl, rfl⟩ := read
    exact ⟨[], by simp [dotPieces], reads_nil ts, by simp⟩

/-! ## Phrases -/

/-- The token that a keyword was found at. -/
theorem word_sound {spelling : String} {ts : List Token} (found : word spelling ts = true) :
    ∃ token rest, ts = token :: rest ∧ token.kind = .word ∧ upper token.text = lit spelling := by
  cases ts with
  | nil => simp [word] at found
  | cons token rest =>
    simp only [word, Bool.and_eq_true, decide_eq_true_eq] at found
    exact ⟨token, rest, rfl, found⟩

/-- The token that a unit was found at. -/
theorem atUnit_sound {ts : List Token} (found : atUnit ts = true) :
    ∃ token rest, ts = token :: rest ∧ token.kind = .word ∧ upper token.text ∈ units := by
  cases ts with
  | nil => simp [atUnit] at found
  | cons token rest =>
    simp only [atUnit, Bool.and_eq_true, decide_eq_true_eq, List.contains_iff_mem] at found
    exact ⟨token, rest, rfl, found⟩

/-- Consuming a word of a phrase reads a space and the word in upper case. -/
theorem reads_word {token : Token} {text : Bytes} (isWord : token.kind = .word)
    (same : upper token.text = text) (rest : List Token) :
    Reads (token :: rest) rest [.space, .word text] := by
  subst same
  exact (reads_token rfl (like_upper isWord) rest).space

/-- `timeZone` leaves every name but TIME and TIMESTAMP alone. -/
theorem timeZone_other {name : Bytes} (other : name ≠ lit "TIME" ∧ name ≠ lit "TIMESTAMP")
    (ts : List Token) : timeZone name ts = .ok (name, ts) := by
  cases ts <;> simp [timeZone, other]

/-- `national` leaves every name but NATIONAL alone. -/
theorem national_other {name : Bytes} (other : name ≠ lit "NATIONAL") (ts : List Token) :
    national name ts = .ok (name, ts) := by
  simp [national, other]

/-- `varying` leaves names alone that are not those of character types. -/
theorem varying_other {name : Bytes}
    (other : name ∉ ["CHARACTER", "CHAR", "NCHAR", "NATIONAL CHAR", "NATIONAL CHARACTER"].map lit)
    (ts : List Token) : varying name ts = (name, ts) := by
  simp only [List.map_cons, List.map_nil, List.mem_cons, List.not_mem_nil, or_false,
    not_or] at other
  simp [varying, other]

/-- `interval` leaves every name but INTERVAL alone. -/
theorem interval_other {name : Bytes} (other : name ≠ lit "INTERVAL") (ts : List Token) :
    interval name ts = .ok (name, ts) := by
  cases ts <;> simp [interval, other]

/-- The words of a phrase that a step of `phrase` consumed. -/
def Takes (name result : Bytes) (ts rest : List Token) (words : List Bytes) : Prop :=
  result = name ++ render (wordPieces words) ∧ Reads ts rest (wordPieces words)

/-- A name with no more words takes no token. -/
theorem takes_nil (name : Bytes) (ts : List Token) : Takes name name ts ts [] :=
  ⟨by simp [wordPieces], reads_nil ts⟩

/-- A word takes its token and is added to the name. -/
theorem takes_word {token : Token} {text : Bytes} (isWord : token.kind = .word)
    (same : upper token.text = text) (name : Bytes) (rest : List Token) :
    Takes name (name ++ 32 :: text) (token :: rest) rest [text] :=
  ⟨by simp [wordPieces, Piece.bytes], reads_word isWord same rest⟩

/-- The pieces of words in two parts are those of both. -/
theorem wordPieces_append (first second : List Bytes) :
    wordPieces (first ++ second) = wordPieces first ++ wordPieces second := by
  induction first with
  | nil => rfl
  | cons text rest ih => simp [wordPieces, ih]

/-- The words of one step and then of the next are taken together. -/
theorem Takes.trans {name middle result : Bytes} {ts left rest : List Token}
    {first second : List Bytes} (early : Takes name middle ts left first)
    (late : Takes middle result left rest second) : Takes name result ts rest (first ++ second) := by
  obtain ⟨rfl, reads⟩ := early
  obtain ⟨rfl, more⟩ := late
  rw [Takes, wordPieces_append]
  exact ⟨by simp, reads.append more⟩

/-- `timeZone` consumes its three words or none. -/
theorem timeZone_sound {name result : Bytes} {ts rest : List Token}
    (read : timeZone name ts = .ok (result, rest)) :
    (result = name ∧ rest = ts) ∨
      ∃ how, (how = lit "WITH" ∨ how = lit "WITHOUT") ∧
        Takes name result ts rest [how, lit "TIME", lit "ZONE"] := by
  cases ts with
  | nil => simp_all [timeZone]
  | cons token more =>
    simp only [timeZone] at read
    split at read
    · rename_i guard
      obtain ⟨time, read⟩ := Outcome.ite_error_eq_ok.mp read
      obtain ⟨zone, read⟩ := Outcome.ite_error_eq_ok.mp read
      simp only [Except.ok.injEq, Prod.mk.injEq] at read
      obtain ⟨rfl, rfl⟩ := read
      obtain ⟨second, left, rfl, isTime, sameTime⟩ := word_sound (by simpa using time)
      obtain ⟨third, after, shape, isZone, sameZone⟩ := word_sound (by simpa using zone)
      subst shape
      simp only [Bool.and_eq_true, Bool.or_eq_true, decide_eq_true_eq] at guard
      have first : token.kind = .word ∧
          (upper token.text = lit "WITH" ∨ upper token.text = lit "WITHOUT") := by
        rcases guard.2 with how | how
        · obtain ⟨_, _, same, isWord, spelled⟩ := word_sound how
          obtain ⟨rfl, _⟩ := List.cons.inj same
          exact ⟨isWord, .inl spelled⟩
        · obtain ⟨_, _, same, isWord, spelled⟩ := word_sound how
          obtain ⟨rfl, _⟩ := List.cons.inj same
          exact ⟨isWord, .inr spelled⟩
      right
      refine ⟨upper token.text, first.2, ?_⟩
      have words := (takes_word first.1 rfl name (second :: third :: after)).trans
        ((takes_word isTime sameTime _ (third :: after)).trans
          (takes_word isZone sameZone _ after))
      have spelled : lit " TIME ZONE" = 32 :: lit "TIME" ++ 32 :: lit "ZONE" := by decide
      have blank : lit " " = [32] := by decide
      simpa [spelled, blank] using words
    · simp only [Except.ok.injEq, Prod.mk.injEq] at read
      exact .inl ⟨read.1.symm, read.2.symm⟩

/-- After NATIONAL, `national` consumes CHAR or CHARACTER and nothing else. -/
theorem national_sound {result : Bytes} {ts rest : List Token}
    (read : national (lit "NATIONAL") ts = .ok (result, rest)) :
    ∃ kind, (kind = lit "CHAR" ∨ kind = lit "CHARACTER") ∧
      Takes (lit "NATIONAL") result ts rest [kind] := by
  cases ts with
  | nil => simp [national] at read
  | cons token more =>
    simp only [national, ↓reduceIte] at read
    obtain ⟨guard, read⟩ := Outcome.ite_error_eq_ok.mp read
    simp only [Except.ok.injEq, Prod.mk.injEq] at read
    obtain ⟨rfl, rfl⟩ := read
    have found : token.kind = .word ∧
        (upper token.text = lit "CHAR" ∨ upper token.text = lit "CHARACTER") := by
      simp only [word, Bool.and_eq_true, Bool.not_eq_true', Bool.and_eq_false_iff,
        decide_eq_false_iff_not] at guard
      tauto
    refine ⟨upper token.text, found.2, ?_⟩
    have blank : lit " " = [32] := by decide
    simpa [blank] using takes_word found.1 rfl (lit "NATIONAL") more

/-- `varying` consumes the word it looks for, or nothing. -/
theorem varying_sound (name : Bytes) (ts : List Token) :
    varying name ts = (name, ts) ∨
      Takes name (varying name ts).1 ts (varying name ts).2 [lit "VARYING"] := by
  unfold varying
  split
  · rename_i guard
    right
    simp only [Bool.and_eq_true] at guard
    obtain ⟨token, rest, rfl, isWord, same⟩ := word_sound guard.2
    have spelled : lit " VARYING" = 32 :: lit "VARYING" := by decide
    rw [spelled]
    exact takes_word isWord same name rest
  · exact .inl rfl

/-- `interval` consumes a unit, a range of units or nothing. -/
theorem interval_sound {result : Bytes} {ts rest : List Token}
    (read : interval (lit "INTERVAL") ts = .ok (result, rest)) :
    (result = lit "INTERVAL" ∧ rest = ts) ∨
      (∃ unit ∈ units, Takes (lit "INTERVAL") result ts rest [unit]) ∨
      ∃ first ∈ units, ∃ last ∈ units,
        Takes (lit "INTERVAL") result ts rest [first, lit "TO", last] := by
  have blank : lit " " = [32] := by decide
  cases ts with
  | nil => simp_all [interval]
  | cons token more =>
    simp only [interval] at read
    split at read
    · rename_i guard
      simp only [Bool.and_eq_true] at guard
      obtain ⟨_, _, same, isWord, known⟩ := atUnit_sound guard.2
      obtain ⟨rfl, rfl⟩ := List.cons.inj same
      have one := takes_word isWord rfl (lit "INTERVAL") more
      split at read
      · rename_i linked
        obtain ⟨link, left, rfl, isTo, sameTo⟩ := word_sound linked
        simp only [List.tail_cons] at read
        cases left with
        | nil => simp at read
        | cons last after =>
          obtain ⟨also, read⟩ := Outcome.ite_error_eq_ok.mp read
          obtain ⟨_, _, same, lastWord, lastKnown⟩ := atUnit_sound (by simpa using also)
          obtain ⟨rfl, rfl⟩ := List.cons.inj same
          simp only [Except.ok.injEq, Prod.mk.injEq] at read
          obtain ⟨rfl, rfl⟩ := read
          refine .inr (.inr ⟨_, known, _, lastKnown, ?_⟩)
          have words := one.trans ((takes_word isTo sameTo _ (last :: after)).trans
            (takes_word lastWord rfl _ after))
          have spelled : lit " TO " = 32 :: lit "TO" ++ [32] := by decide
          simpa [spelled, blank] using words
      · simp only [Except.ok.injEq, Prod.mk.injEq] at read
        obtain ⟨rfl, rfl⟩ := read
        exact .inr (.inl ⟨_, known, by simpa [blank] using one⟩)
    · simp only [Except.ok.injEq, Prod.mk.injEq] at read
      exact .inl ⟨read.1.symm, read.2.symm⟩

/-- Where `doublePrecision` consumes nothing, it changes nothing. -/
theorem doublePrecision_sound (name : Bytes) (ts : List Token) :
    doublePrecision name ts = (name, ts) ∨ name = lit "DOUBLE" ∧
      Takes name (doublePrecision name ts).1 ts (doublePrecision name ts).2 [lit "PRECISION"] := by
  unfold doublePrecision
  split
  · rename_i guard
    simp only [Bool.and_eq_true, decide_eq_true_eq] at guard
    obtain ⟨token, rest, rfl, isWord, same⟩ := word_sound guard.2
    have spelled : lit " PRECISION" = 32 :: lit "PRECISION" := by decide
    rw [spelled]
    exact .inr ⟨guard.1, takes_word isWord same name rest⟩
  · exact .inl rfl

/-- The names that the word `VARYING` can follow. -/
def characterNames : List Bytes :=
  ["CHARACTER", "CHAR", "NCHAR", "NATIONAL CHAR", "NATIONAL CHARACTER"].map lit

/-- The part of `phrase` after the time zone. -/
def characterPhrase (name : Bytes) (ts : List Token) : Except String (Bytes × List Token) := do
  let (name, ts) ← national name ts
  let (name, ts) := varying name ts
  interval name ts

/-- A name that begins no phrase keeps its tokens. -/
theorem characterPhrase_other {name : Bytes} (other : name ≠ lit "NATIONAL" ∧
    name ∉ characterNames ∧ name ≠ lit "INTERVAL") (ts : List Token) :
    characterPhrase name ts = .ok (name, ts) := by
  rw [characterPhrase, national_other other.1]
  show (let (name, ts) := varying name ts; interval name ts) = _
  rw [varying_other other.2.1]
  exact interval_other other.2.2 ts

/-- The part of `phrase` after `national`, for a name that is not `INTERVAL` with or without
`VARYING`. -/
theorem varying_then_interval {name result : Bytes} {ts rest : List Token}
    (other : name ≠ lit "INTERVAL" ∧ name ++ render (wordPieces [lit "VARYING"]) ≠ lit "INTERVAL")
    (read : interval (varying name ts).1 (varying name ts).2 = .ok (result, rest)) :
    Takes name result ts rest [] ∨ Takes name result ts rest [lit "VARYING"] := by
  rcases varying_sound name ts with same | takes
  · rw [same, interval_other other.1] at read
    obtain ⟨rfl, rfl⟩ := Outcome.ok_pair read
    exact .inl (takes_nil _ _)
  · rw [interval_other (by rw [takes.1]; exact other.2)] at read
    obtain ⟨rfl, rfl⟩ := Outcome.ok_pair read
    exact .inr takes

/-- The phrases of `NATIONAL`, the character types and `INTERVAL`. -/
theorem characterPhrase_sound {name result : Bytes} {ts rest : List Token}
    (single : name ≠ lit "NATIONAL CHAR" ∧ name ≠ lit "NATIONAL CHARACTER")
    (read : characterPhrase name ts = .ok (result, rest)) :
    ∃ words, Takes name result ts rest words ∧ Phrase name words := by
  obtain ⟨⟨second, left⟩, nationalized, remaining⟩ := Outcome.bind_eq_ok.mp read
  have last : interval (varying second left).1 (varying second left).2 = .ok (result, rest) :=
    remaining
  by_cases isNational : name = lit "NATIONAL"
  · rw [isNational] at nationalized ⊢
    obtain ⟨kind, known, takes⟩ := national_sound nationalized
    have other : second ≠ lit "INTERVAL" ∧
        second ++ render (wordPieces [lit "VARYING"]) ≠ lit "INTERVAL" := by
      rw [takes.1]
      rcases known with rfl | rfl <;> decide
    rcases varying_then_interval other last with more | more
    · exact ⟨_, takes.trans more, .national kind known⟩
    · exact ⟨_, takes.trans more, .nationalVarying kind known⟩
  · rw [national_other isNational] at nationalized
    obtain ⟨rfl, rfl⟩ := Outcome.ok_pair nationalized
    by_cases isCharacter : name = lit "CHARACTER" ∨ name = lit "CHAR" ∨ name = lit "NCHAR"
    · have other : name ≠ lit "INTERVAL" ∧
          name ++ render (wordPieces [lit "VARYING"]) ≠ lit "INTERVAL" := by
        rcases isCharacter with rfl | rfl | rfl <;> decide
      rcases varying_then_interval other last with more | more
      · exact ⟨[], more, .plain name isNational⟩
      · exact ⟨_, more, .varying name isCharacter⟩
    · have notCharacter : name ∉ characterNames := by
        simp only [characterNames, List.map_cons, List.map_nil, List.mem_cons, List.not_mem_nil,
          or_false]
        tauto
      rw [varying_other notCharacter] at last
      by_cases isInterval : name = lit "INTERVAL"
      · rw [isInterval] at last isNational ⊢
        rcases interval_sound last with ⟨rfl, rfl⟩ | ⟨unit, known, takes⟩ |
          ⟨first, known, final, also, takes⟩
        · exact ⟨[], takes_nil _ _, .plain _ isNational⟩
        · exact ⟨_, takes, .unit unit known⟩
        · exact ⟨_, takes, .range first final known also⟩
      · rw [interval_other isInterval] at last
        obtain ⟨rfl, rfl⟩ := Outcome.ok_pair last
        exact ⟨[], takes_nil _ _, .plain name isNational⟩

/-- What `phrase` accepts after `DOUBLE` is a phrase of words. -/
theorem timePhrase_sound {name result : Bytes} {ts rest : List Token}
    (single : name ≠ lit "NATIONAL CHAR" ∧ name ≠ lit "NATIONAL CHARACTER")
    (read : (do
      let (name, ts) ← timeZone name ts
      characterPhrase name ts) = Except.ok (result, rest)) :
    ∃ words, Takes name result ts rest words ∧ Phrase name words := by
  obtain ⟨⟨second, left⟩, zoned, remaining⟩ := Outcome.bind_eq_ok.mp read
  have last : characterPhrase second left = .ok (result, rest) := remaining
  by_cases named : name = lit "TIME" ∨ name = lit "TIMESTAMP"
  · rcases timeZone_sound zoned with ⟨rfl, rfl⟩ | ⟨how, kind, takes⟩
    · exact characterPhrase_sound single last
    · have other : second ≠ lit "NATIONAL" ∧ second ∉ characterNames ∧
          second ≠ lit "INTERVAL" := by
        rw [takes.1]
        rcases named with rfl | rfl <;> rcases kind with rfl | rfl <;> decide
      rw [characterPhrase_other other] at last
      obtain ⟨rfl, rfl⟩ := Outcome.ok_pair last
      exact ⟨_, takes, .timeZone name how named kind⟩
  · rw [timeZone_other (not_or.mp named)] at zoned
    obtain ⟨rfl, rfl⟩ := Outcome.ok_pair zoned
    exact characterPhrase_sound single last

/-- `phrase` consumes the words of one phrase. -/
theorem phrase_sound {name result : Bytes} {ts rest : List Token}
    (single : name ≠ lit "NATIONAL CHAR" ∧ name ≠ lit "NATIONAL CHARACTER")
    (read : phrase name ts = .ok (result, rest)) :
    ∃ words, Takes name result ts rest words ∧ Phrase name words := by
  have whole : (do
      let (name, ts) ← timeZone (doublePrecision name ts).1 (doublePrecision name ts).2
      characterPhrase name ts) = Except.ok (result, rest) := read
  rcases doublePrecision_sound name ts with same | ⟨rfl, takes⟩
  · rw [same] at whole
    exact timePhrase_sound single whole
  · have other : (doublePrecision (lit "DOUBLE") ts).1 = lit "DOUBLE PRECISION" := by
      rw [takes.1]
      decide
    rw [other, timeZone_other (by decide)] at whole
    have last : characterPhrase (lit "DOUBLE PRECISION") (doublePrecision (lit "DOUBLE") ts).2 =
        .ok (result, rest) := whole
    rw [characterPhrase_other (by decide)] at last
    obtain ⟨rfl, rfl⟩ := Outcome.ok_pair last
    rw [other] at takes
    exact ⟨_, takes, .doublePrecision⟩

/-- A qualified name has no space outside its quotes. -/
theorem single_name {head : Ident} {dots : List Ident} (named : head.WellFormed)
    (qualified : ∀ part ∈ dots, part.WellFormed) :
    render (namePieces head dots) ≠ lit "NATIONAL CHAR" ∧
      render (namePieces head dots) ≠ lit "NATIONAL CHARACTER" := by
  have valid : ∀ piece ∈ namePieces head dots, piece.Valid := by
    simp only [namePieces, List.mem_cons, forall_eq_or_imp]
    exact ⟨named.clean.valid, fun piece found => (clean_dotPieces qualified piece found).valid⟩
  have separated : Separated (namePieces head dots) := by
    have trailing := trailing_dotPieces trailing_nil dots
    rw [List.append_nil] at trailing
    exact trailing.cons head.piece
  have read := lex_render valid separated
  -- The second piece of a qualified name is a dot, that of the two keywords a space.
  have second : ∀ piece, (namePieces head dots)[1]? = some piece → piece = .mark 46 := by
    intro piece found
    cases dots with
    | nil => simp [namePieces, dotPieces] at found
    | cons part rest => simpa [namePieces, dotPieces] using found.symm
  constructor <;> intro same <;> rw [same] at read
  · have spaced : lex (lit "NATIONAL CHAR") =
        some [.word (lit "NATIONAL"), .space, .word (lit "CHAR")] := by decide
    rw [spaced, Option.some.injEq] at read
    exact absurd (second .space (by rw [← read]; rfl)) (by decide)
  · have spaced : lex (lit "NATIONAL CHARACTER") =
        some [.word (lit "NATIONAL"), .space, .word (lit "CHARACTER")] := by decide
    rw [spaced, Option.some.injEq] at read
    exact absurd (second .space (by rw [← read]; rfl)) (by decide)

/-! ## Parameters and suffixes -/

/-- A token of a kind that is there. -/
theorem atKind_sound {kind : Kind} {ts : List Token} (found : atKind kind ts = true) :
    ∃ token rest, ts = token :: rest ∧ token.kind = kind := by
  cases ts with
  | nil => simp [atKind] at found
  | cons token rest => exact ⟨token, rest, rfl, by simpa [atKind] using found⟩

/-- `need` consumes a token of its kind. -/
theorem need_sound {kind : Kind} {ts rest : List Token} (read : need kind ts = .ok rest) :
    ∃ token, ts = token :: rest ∧ token.kind = kind := by
  cases ts with
  | nil => simp [need] at read
  | cons token more =>
    simp only [need] at read
    split at read
    · rename_i same
      obtain rfl := Except.ok.inj read
      exact ⟨token, rfl, same⟩
    · simp at read

/-- A mark and the token it reads as, by the kind. -/
theorem mark_token {token : Token} (byte : UInt8) {kind : Kind} (valid : token.Valid)
    (isKind : token.kind = kind) (known : punctuation byte = some kind) :
    pieceToken (.mark byte) = some token := by
  have other := punctuation_valid known
  obtain ⟨text, found⟩ := token
  obtain rfl : found = kind := isKind
  have same : text = [byte] := by
    cases found with
    | label | name | word | number =>
      unfold punctuation at known
      split_ifs at known <;> simp at known
    | openParen | closeParen | openBracket | closeBracket | comma | dot =>
      exact (show text = _ from valid).trans (show [byte] = _ from other).symm
  simp [pieceToken, known, same]

/-- What a reader of nested declarations returns. -/
def ReadsTypes (read : List Token → Except String (Bytes × List Token)) (room : Nat) : Prop :=
  ∀ ts rest text, AllValid ts → read ts = .ok (text, rest) →
    ∃ decl : Decl, text = render decl.pieces ∧ Reads ts rest decl.pieces ∧ decl.WellFormed ∧
      decl.height ≤ room

/-- A suffix has a size or none. -/
theorem arraySize_cases (name : Bytes) (ts : List Token) :
    (∃ digits rest, ts = ⟨digits, .number⟩ :: rest ∧
      arraySize name ts = (name ++ lit "[" ++ digits, rest)) ∨
      arraySize name ts = (name ++ lit "[", ts) := by
  unfold arraySize
  split
  · exact .inl ⟨_, _, rfl, rfl⟩
  · exact .inr rfl

/-- Array suffixes within the room that nesting leaves. -/
theorem suffixes_sound {room : Nat} {name result : Bytes} {ts rest : List Token}
    (valid : AllValid ts) (read : suffixes room name ts = .ok (result, rest)) :
    ∃ arrays : List (Option Bytes), result = name ++ render (arrayPieces arrays) ∧
      Reads ts rest (arrayPieces arrays) ∧ arrays.length ≤ room ∧
      ∀ size, some size ∈ arrays → (Piece.number size).Valid := by
  induction room generalizing name ts with
  | zero =>
    unfold suffixes at read
    split at read
    · simp at read
    · obtain ⟨rfl, rfl⟩ := Outcome.ok_pair read
      exact ⟨[], by simp [arrayPieces], reads_nil ts, by simp, by simp⟩
  | succ room ih =>
    unfold suffixes at read
    split at read
    · rename_i bracket
      obtain ⟨opening, left, rfl, opens⟩ := atKind_sound bracket
      have openToken := mark_token 91 (valid opening (by simp)) opens rfl
      have spelled : (do
          let ts ← need .closeBracket (arraySize name left).2
          suffixes room ((arraySize name left).1 ++ lit "]") ts) = .ok (result, rest) := read
      rcases arraySize_cases name left with ⟨digits, others, rfl, same⟩ | same
      · rw [same] at spelled
        obtain ⟨after, closing, more⟩ := Outcome.bind_eq_ok.mp spelled
        obtain ⟨token, rfl, closes⟩ := need_sound closing
        have number : (Piece.number digits).Valid := valid ⟨digits, .number⟩ (by simp)
        have closeToken := mark_token 93 (valid token (by simp)) closes rfl
        obtain ⟨arrays, shape, reads, short, sizes⟩ := ih valid.tail.tail.tail more
        refine ⟨some digits :: arrays, ?_, ?_, by simpa using short, ?_⟩
        · simp [shape, arrayPieces, Piece.bytes, lit]
        · exact ((reads.cons closeToken (.refl _)).cons rfl (.refl _)).cons openToken (.refl _)
        · simp only [List.mem_cons, Option.some.injEq]
          rintro size (rfl | found)
          · exact number
          · exact sizes size found
      · rw [same] at spelled
        obtain ⟨after, closing, more⟩ := Outcome.bind_eq_ok.mp spelled
        obtain ⟨token, rfl, closes⟩ := need_sound closing
        have closeToken := mark_token 93 (valid token (by simp)) closes rfl
        obtain ⟨arrays, shape, reads, short, sizes⟩ := ih valid.tail.tail more
        refine ⟨none :: arrays, ?_, ?_, by simpa using short, ?_⟩
        · simp [shape, arrayPieces, Piece.bytes, lit]
        · exact (reads.cons closeToken (.refl _)).cons openToken (.refl _)
        · simp only [List.mem_cons, reduceCtorEq, false_or]
          exact sizes
    · obtain ⟨rfl, rfl⟩ := Outcome.ok_pair read
      exact ⟨[], by simp [arrayPieces], reads_nil ts, by simp, by simp⟩

/-- The pieces of one parameter and what it makes of the parameters after it. -/
structure Item (base : Bytes) (room : Nat) where
  /-- Its pieces. -/
  pieces : List Piece
  /-- The parameters that begin with it. -/
  before : Params → Params
  /-- They are written one after the other. -/
  shape : ∀ rest first, (before rest).pieces first = lead first ++ (pieces ++ rest.pieces false)
  /-- They are parameters of the same type. -/
  wellFormed : ∀ rest, rest.WellFormed base → (before rest).WellFormed base
  /-- Nested declarations fit the room. -/
  height : ∀ rest, rest.height ≤ room → (before rest).height ≤ room
  /-- There is a parameter. -/
  some : ∀ rest, (before rest).isNil = false

/-- What `parameter` accepts is one parameter of its base type. -/
theorem parameter_sound {read : List Token → Except String (Bytes × List Token)} {room : Nat}
    (types : ReadsTypes read room) {base name result : Bytes} {ts rest : List Token}
    (valid : AllValid ts) (parsed : parameter read base name ts = .ok (result, rest)) :
    ∃ item : Item base room, result = name ++ render item.pieces ∧ Reads ts rest item.pieces := by
  unfold parameter at parsed
  split at parsed
  · rename_i isFields
    obtain ⟨⟨text, left⟩, named, parsed⟩ := Outcome.bind_eq_ok.mp parsed
    obtain ⟨⟨inner, after⟩, typed, parsed⟩ := Outcome.bind_eq_ok.mp parsed
    obtain ⟨rfl, rfl⟩ := Outcome.ok_pair parsed
    obtain ⟨field, rfl, rfl, ok⟩ := ident_sound valid named
    obtain ⟨decl, rfl, reads, inside, short⟩ := types _ _ _ valid.tail typed
    refine ⟨⟨field.piece :: .space :: decl.pieces, .field field decl, ?_, ?_, ?_, ?_⟩, ?_, ?_⟩
    · intro others first
      simp [Params.pieces]
    · exact fun others also => ⟨isFields, ok, inside, also⟩
    · exact fun others fits => Nat.max_le.mpr ⟨short, fits⟩
    · exact fun others => rfl
    · simp [Piece.bytes, lit]
    · exact reads.space.cons (pieceToken_ident field) (.refl _)
  · rename_i notFields
    have plain : hasFields base = false := by simpa [hasFields] using notFields
    split at parsed
    · rename_i isTypes
      split at parsed
      · rename_i digits others
        obtain ⟨rfl, rfl⟩ := Outcome.ok_pair parsed
        have number : (Piece.number digits).Valid := valid ⟨digits, .number⟩ (by simp)
        refine ⟨⟨[.number digits], .number digits, ?_, ?_, ?_, ?_⟩, ?_, ?_⟩
        · intro others first
          simp [Params.pieces]
        · exact fun others also => ⟨plain, number, also⟩
        · exact fun others fits => fits
        · exact fun others => rfl
        · simp [Piece.bytes]
        · exact reads_token rfl (.refl _) _
      · obtain ⟨⟨inner, after⟩, typed, parsed⟩ := Outcome.bind_eq_ok.mp parsed
        obtain ⟨rfl, rfl⟩ := Outcome.ok_pair parsed
        obtain ⟨decl, rfl, reads, inside, short⟩ := types _ _ _ valid typed
        refine ⟨⟨decl.pieces, .type decl, ?_, ?_, ?_, ?_⟩, rfl, reads⟩
        · exact fun others first => rfl
        · exact fun others also => ⟨plain, isTypes, inside, also⟩
        · exact fun others fits => Nat.max_le.mpr ⟨short, fits⟩
        · exact fun others => rfl
    · rename_i notTypes
      have simple : hasTypes base = false := by simpa [hasTypes] using notTypes
      split at parsed
      · rename_i text others
        obtain ⟨rfl, rfl⟩ := Outcome.ok_pair parsed
        have noNul : 0 ∉ text := valid ⟨text, .label⟩ (by simp)
        refine ⟨⟨[.quoted 39 text], .label text, ?_, ?_, ?_, ?_⟩, ?_, ?_⟩
        · intro others first
          simp [Params.pieces]
        · exact fun others also => ⟨plain, simple, noNul, also⟩
        · exact fun others fits => fits
        · exact fun others => rfl
        · simp [Piece.bytes]
        · exact reads_token rfl (.refl _) _
      · rename_i digits others
        obtain ⟨rfl, rfl⟩ := Outcome.ok_pair parsed
        have number : (Piece.number digits).Valid := valid ⟨digits, .number⟩ (by simp)
        refine ⟨⟨[.number digits], .number digits, ?_, ?_, ?_, ?_⟩, ?_, ?_⟩
        · intro others first
          simp [Params.pieces]
        · exact fun others also => ⟨plain, number, also⟩
        · exact fun others fits => fits
        · exact fun others => rfl
        · simp [Piece.bytes]
        · exact reads_token rfl (.refl _) _
      · simp at parsed

/-- `parameters` consumes parameters and the closing parenthesis. -/
theorem parameters_sound {read : List Token → Except String (Bytes × List Token)} {room : Nat}
    (types : ReadsTypes read room) {base : Bytes} {fuel : Nat} {first : Bool}
    {name result : Bytes} {ts rest : List Token} (valid : AllValid ts)
    (parsed : parameters read base fuel first name ts = .ok (result, rest)) :
    ∃ params : Params, result = name ++ render (params.pieces first) ∧
      Reads ts rest (params.pieces first) ∧ params.WellFormed base ∧ params.height ≤ room ∧
      (first = true → params.isNil = false) := by
  induction fuel generalizing first name ts with
  | zero => simp [parameters] at parsed
  | succ fuel ih =>
    unfold parameters at parsed
    split at parsed
    · rename_i closes
      obtain ⟨token, left, rfl, isClose⟩ := atKind_sound closes
      cases first with
      | true => simp at parsed
      | false =>
        obtain ⟨rfl, rfl⟩ := Outcome.ok_pair parsed
        have closing := mark_token 41 (valid token (by simp)) isClose rfl
        exact ⟨.nil, by simp [Params.pieces, Piece.bytes, lit],
          reads_token closing (.refl _) left, trivial, Nat.zero_le _, by simp⟩
    · obtain ⟨⟨second, left⟩, led, parsed⟩ := Outcome.bind_eq_ok.mp parsed
      obtain ⟨⟨third, after⟩, one, parsed⟩ := Outcome.bind_eq_ok.mp parsed
      obtain ⟨_, others⟩ := Outcome.ite_error_eq_ok.mp parsed
      have leads : second = name ++ render (lead first) ∧ Reads ts left (lead first) := by
        cases first with
        | true =>
          obtain ⟨rfl, rfl⟩ := Outcome.ok_pair led
          exact ⟨by simp [lead], reads_nil _⟩
        | false =>
          obtain ⟨found, needed, shape⟩ := Outcome.map_eq_ok.mp led
          obtain ⟨rfl, rfl⟩ := Prod.mk.inj shape
          obtain ⟨token, rfl, isComma⟩ := need_sound needed
          have comma := mark_token 44 (valid token (by simp)) isComma rfl
          exact ⟨by simp [lead, Piece.bytes, lit],
            ((reads_nil _).space).cons comma (.refl _)⟩
      obtain ⟨item, shape, reads⟩ := parameter_sound types (valid.after leads.2) one
      obtain ⟨params, more, readsMore, ok, short, _⟩ :=
        ih ((valid.after leads.2).after reads) others
      refine ⟨item.before params, ?_, ?_, item.wellFormed params ok, item.height params short,
        fun _ => item.some params⟩
      · rw [more, shape, leads.1, item.shape]
        simp
      · rw [item.shape]
        exact leads.2.append (reads.append readsMore)

/-- What `type` accepts is a well-formed declaration, its text the text of its pieces. -/
theorem type_sound (room : Nat) : ReadsTypes (type room) room := by
  induction room with
  | zero =>
    intro ts rest text valid read
    simp [type] at read
  | succ room ih =>
    intro ts rest text valid read
    unfold type at read
    obtain ⟨⟨first, left⟩, named, checked⟩ := Outcome.bind_eq_ok.mp read
    obtain ⟨outer, known⟩ := Outcome.ite_error_eq_ok.mp checked
    obtain ⟨⟨second, after⟩, qualified, spelled⟩ := Outcome.bind_eq_ok.mp known
    obtain ⟨⟨third, beyond⟩, phrased, based⟩ := Outcome.bind_eq_ok.mp spelled
    obtain ⟨⟨fourth, final⟩, grouped, sized⟩ := Outcome.bind_eq_ok.mp based
    simp only at outer qualified phrased grouped sized
    obtain ⟨name, rfl, rfl, ok⟩ := ident_sound valid named
    obtain ⟨head, folded, headOk, isHead, alike⟩ := fold_sound ok (by simpa using outer)
    obtain ⟨dots, rfl, readsDots, dotsOk⟩ := dotted_sound valid.tail qualified
    have nameText : fold name.piece.bytes ++ render (dotPieces dots) =
        render (namePieces head dots) := by simp [folded, namePieces]
    rw [nameText] at phrased
    obtain ⟨words, takes, phraseOk⟩ := phrase_sound (single_name headOk dotsOk) phrased
    have baseText : third = render (basePieces head dots words) := by
      rw [takes.1]
      simp [basePieces]
    have base : Reads (name.token :: left) beyond (basePieces head dots words) := by
      have whole := (readsDots.append takes.2).cons (pieceToken_ident head) alike
      simpa [basePieces, namePieces] using whole
    have baseValid := valid.after base
    obtain ⟨params, groupText, group, paramsOk, short⟩ : ∃ params : Params,
        fourth = third ++ render (if params.isNil then [] else .mark 40 :: params.pieces true) ∧
        Reads beyond final (if params.isNil then [] else .mark 40 :: params.pieces true) ∧
        params.WellFormed third ∧ params.height ≤ room := by
      split at grouped
      · rename_i opens
        obtain ⟨token, inner, rfl, isOpen⟩ := atKind_sound opens
        have opening := mark_token 40 (baseValid token (by simp)) isOpen rfl
        obtain ⟨params, shape, reads, inside, short, nonempty⟩ :=
          parameters_sound ih baseValid.tail grouped
        refine ⟨params, ?_, ?_, inside, short⟩
        · simp [nonempty rfl, shape, Piece.bytes, lit]
        · simpa [nonempty rfl] using reads.cons opening (.refl _)
      · obtain ⟨rfl, rfl⟩ := Outcome.ok_pair grouped
        exact ⟨.nil, by simp [Params.isNil], by simpa [Params.isNil] using reads_nil _, trivial,
          Nat.zero_le _⟩
    obtain ⟨arrays, arrayText, readsArrays, few, sizes⟩ :=
      suffixes_sound (baseValid.after group) sized
    refine ⟨.mk head dots words params arrays, ?_, ?_, ?_, ?_⟩
    · rw [arrayText, groupText, baseText]
      simp [Decl.pieces]
    · rw [Decl.pieces]
      exact base.append (group.append readsArrays)
    · exact ⟨headOk, isHead, dotsOk, phraseOk, baseText ▸ paramsOk, sizes⟩
    · simp only [Decl.height]
      omega

end PhpDuckdb.Types
