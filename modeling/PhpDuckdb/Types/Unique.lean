import PhpDuckdb.Types.Canonical

/-!
# Declarations are told apart by their tokens

The grammar is deterministic: what begins a part of a declaration never continues the part before
it. So two well-formed declarations with the same tokens are one, whatever may follow them.
-/

namespace PhpDuckdb.Types

open SqlText

/-! ## Parts of a declaration -/

/-- Names are told apart by their tokens. -/
theorem Ident.token_injective {one two : Ident} (same : one.token = two.token) : one = two := by
  cases one with
  | word text =>
    cases two with
    | word other => exact congrArg Ident.word (congrArg Token.text same)
    | quoted other => cases same
  | quoted text =>
    cases two with
    | word other => cases same
    | quoted other => exact congrArg Ident.quoted (congrArg Token.text same)

/-- Qualified names end where no dot follows. -/
theorem dotPieces_unique : ∀ {one two : List Ident} {rest after : List Token},
    nextKind rest ≠ some .dot → nextKind after ≠ some .dot →
    pieceTokens (dotPieces one) ++ rest = pieceTokens (dotPieces two) ++ after →
    one = two ∧ rest = after
  | [], [], _, _, _, _, same => ⟨rfl, same⟩
  | [], _ :: _, _, _, ends, _, same => by
    rw [dotPieces, dotPieces, pieceTokens_dot] at same
    exact absurd (congrArg nextKind same) ends
  | _ :: _, [], _, _, _, ends, same => by
    rw [dotPieces, dotPieces, pieceTokens_dot] at same
    exact absurd (congrArg nextKind same.symm) ends
  | part :: one, other :: two, rest, after, ends, also, same => by
    rw [dotPieces, dotPieces, pieceTokens_dot, pieceTokens_dot, pieceTokens_ident,
      pieceTokens_ident] at same
    obtain ⟨_, same⟩ := List.cons.inj same
    obtain ⟨head, same⟩ := List.cons.inj same
    obtain ⟨parts, left⟩ := dotPieces_unique ends also same
    exact ⟨by rw [Ident.token_injective head, parts], left⟩

/-- The words of a phrase end where no word follows. -/
theorem words_unique : ∀ {one two : List Bytes} {rest after : List Token},
    nextKind rest ≠ some .word → nextKind after ≠ some .word →
    pieceTokens (wordPieces one) ++ rest = pieceTokens (wordPieces two) ++ after →
    one = two ∧ rest = after
  | [], [], _, _, _, _, same => ⟨rfl, same⟩
  | [], _ :: _, _, _, ends, _, same => by
    rw [wordPieces, wordPieces, pieceTokens_space, pieceTokens_word] at same
    exact absurd (congrArg nextKind same) ends
  | _ :: _, [], _, _, _, ends, same => by
    rw [wordPieces, wordPieces, pieceTokens_space, pieceTokens_word] at same
    exact absurd (congrArg nextKind same.symm) ends
  | text :: one, other :: two, rest, after, ends, also, same => by
    rw [wordPieces, wordPieces, pieceTokens_space, pieceTokens_space, pieceTokens_word,
      pieceTokens_word] at same
    obtain ⟨head, same⟩ := List.cons.inj same
    obtain ⟨parts, left⟩ := words_unique ends also same
    exact ⟨congrArg₂ List.cons (congrArg Token.text head) parts, left⟩

/-- Array suffixes end where no bracket opens. -/
theorem arrays_unique : ∀ {one two : List (Option Bytes)} {rest after : List Token},
    nextKind rest ≠ some .openBracket → nextKind after ≠ some .openBracket →
    pieceTokens (arrayPieces one) ++ rest = pieceTokens (arrayPieces two) ++ after →
    one = two ∧ rest = after
  | [], [], _, _, _, _, same => ⟨rfl, same⟩
  | [], some _ :: _, _, _, ends, _, same => absurd (congrArg nextKind same) ends
  | [], none :: _, _, _, ends, _, same => absurd (congrArg nextKind same) ends
  | some _ :: _, [], _, _, _, ends, same => absurd (congrArg nextKind same.symm) ends
  | none :: _, [], _, _, _, ends, same => absurd (congrArg nextKind same.symm) ends
  | some size :: one, some other :: two, rest, after, ends, also, same => by
    obtain ⟨_, same⟩ := List.cons.inj same
    obtain ⟨head, same⟩ := List.cons.inj same
    obtain ⟨_, same⟩ := List.cons.inj same
    obtain ⟨parts, left⟩ := arrays_unique ends also same
    exact ⟨congrArg₂ List.cons (congrArg (some ∘ Token.text) head) parts, left⟩
  | some size :: one, none :: two, rest, after, ends, also, same => by
    obtain ⟨_, same⟩ := List.cons.inj same
    cases (List.cons.inj same).1
  | none :: one, some size :: two, rest, after, ends, also, same => by
    obtain ⟨_, same⟩ := List.cons.inj same
    cases (List.cons.inj same).1
  | none :: one, none :: two, rest, after, ends, also, same => by
    obtain ⟨_, same⟩ := List.cons.inj same
    obtain ⟨_, same⟩ := List.cons.inj same
    obtain ⟨parts, left⟩ := arrays_unique ends also same
    exact ⟨by rw [parts], left⟩

/-- What stands before a parameter is the same before any. -/
theorem lead_cancels {first : Bool} {one two : List Token}
    (same : pieceTokens (lead first) ++ one = pieceTokens (lead first) ++ two) : one = two :=
  List.append_cancel_left same

/-! ## Whole declarations -/

/-- The tokens of a declaration in its four parts. -/
theorem pieceTokens_parts (head : Ident) (dots : List Ident) (words : List Bytes) (params : Params)
    (arrays : List (Option Bytes)) (rest : List Token) :
    pieceTokens (Decl.mk head dots words params arrays).pieces ++ rest =
      head.token :: (pieceTokens (dotPieces dots) ++ (pieceTokens (wordPieces words) ++
        (pieceTokens ((if params.isNil then [] else .mark 40 :: params.pieces true) ++
          arrayPieces arrays) ++ rest))) := by
  simp [Decl.pieces, basePieces, namePieces]

/-- Where a declaration may end none of its parts goes on. -/
theorem parts_end (words : List Bytes) (params : Params) (arrays : List (Option Bytes))
    {rest : List Token} (follows : Follows rest) :
    nextKind (pieceTokens (wordPieces words) ++ (pieceTokens
        ((if params.isNil then [] else .mark 40 :: params.pieces true) ++ arrayPieces arrays) ++
          rest)) ≠ some .dot ∧
      nextKind (pieceTokens ((if params.isNil then [] else .mark 40 :: params.pieces true) ++
        arrayPieces arrays) ++ rest) ≠ some .word ∧
      nextKind (pieceTokens (arrayPieces arrays) ++ rest) ≠ some .openParen ∧
      nextKind rest ≠ some .openBracket := by
  have afterWords := nextKind_group params arrays rest
  have afterDots := nextKind_words words (pieceTokens
    ((if params.isNil then [] else .mark 40 :: params.pieces true) ++ arrayPieces arrays) ++ rest)
  have afterParams := nextKind_arrays arrays rest
  unfold Follows at follows
  grind

/-- The tokens of a declaration begin with a word or a quoted name. -/
theorem decl_start (decl : Decl) {kind : Kind} (rest : List Token) (notWord : kind ≠ .word)
    (notName : kind ≠ .name) : nextKind (pieceTokens decl.pieces ++ rest) ≠ some kind := by
  obtain ⟨head, more, shape⟩ := pieceTokens_decl decl
  rw [shape]
  intro same
  have named : head.token.kind = kind := Option.some.inj same
  cases ident_kind head with
  | inl word => exact notWord (named.symm.trans word)
  | inr name => exact notName (named.symm.trans name)

/-- The tokens of a field are those of its name and of its type. -/
theorem field_tokens (name : Ident) (type : Decl) (others : Params) (first : Bool)
    (rest : List Token) :
    pieceTokens ((Params.field name type others).pieces first) ++ rest =
      pieceTokens (lead first) ++ (name.token :: (pieceTokens type.pieces ++
        (pieceTokens (others.pieces false) ++ rest))) := by
  simp [Params.pieces]

/-- The tokens of a nested type are those of its declaration. -/
theorem type_tokens (type : Decl) (others : Params) (first : Bool) (rest : List Token) :
    pieceTokens ((Params.type type others).pieces first) ++ rest =
      pieceTokens (lead first) ++ (pieceTokens type.pieces ++
        (pieceTokens (others.pieces false) ++ rest)) := by
  simp [Params.pieces]

/-- The tokens of a number begin with its digits. -/
theorem number_tokens (digits : Bytes) (others : Params) (first : Bool) (rest : List Token) :
    pieceTokens ((Params.number digits others).pieces first) ++ rest =
      pieceTokens (lead first) ++ (⟨digits, .number⟩ ::
        (pieceTokens (others.pieces false) ++ rest)) := by
  simp [Params.pieces]

/-- The tokens of a label begin with its text. -/
theorem label_tokens (text : Bytes) (others : Params) (first : Bool) (rest : List Token) :
    pieceTokens ((Params.label text others).pieces first) ++ rest =
      pieceTokens (lead first) ++ (⟨text, .label⟩ ::
        (pieceTokens (others.pieces false) ++ rest)) := by
  simp [Params.pieces]

/-- A parameter does not begin with a closing parenthesis. -/
theorem params_start (params : Params) (first : Bool) (some_ : params.isNil = false)
    (rest : List Token) :
    nextKind (pieceTokens (params.pieces first) ++ rest) ≠ some .closeParen := by
  cases first with
  | false =>
    cases params with
    | nil => cases some_
    | field | type | number | label => exact nofun
  | true =>
    cases params with
    | nil => cases some_
    | field name type others =>
      rw [field_tokens]
      cases name <;> exact nofun
    | type type others =>
      rw [type_tokens]
      exact decl_start type _ (by decide) (by decide)
    | number digits others => exact nofun
    | label text others => exact nofun

mutual

/-- A declaration is told by its tokens. -/
theorem Decl.unique : ∀ {one two : Decl} {rest after : List Token}, one.WellFormed →
    two.WellFormed → Follows rest → Follows after →
    pieceTokens one.pieces ++ rest = pieceTokens two.pieces ++ after → one = two ∧ rest = after
  | .mk head dots words params arrays, .mk head' dots' words' params' arrays', rest, after, ok, also,
      follows, ends, same => by
    rw [pieceTokens_parts, pieceTokens_parts] at same
    obtain ⟨notDot, notWord, notParen, notBracket⟩ := parts_end words params arrays follows
    obtain ⟨notDot', notWord', notParen', notBracket'⟩ := parts_end words' params' arrays' ends
    obtain ⟨first, qualified⟩ := List.cons.inj same
    obtain rfl := Ident.token_injective first
    obtain ⟨rfl, phrased⟩ := dotPieces_unique notDot notDot' qualified
    obtain ⟨rfl, grouped⟩ := words_unique notWord notWord' phrased
    rw [pieceTokens_append, pieceTokens_append, List.append_assoc, List.append_assoc] at grouped
    cases empty : params.isNil with
    | true =>
      rw [empty, if_pos rfl, pieceTokens_nil, List.nil_append] at grouped
      cases empty' : params'.isNil with
      | true =>
        rw [empty', if_pos rfl, pieceTokens_nil, List.nil_append] at grouped
        obtain ⟨rfl, left⟩ := arrays_unique notBracket notBracket' grouped
        cases params with
        | nil =>
          cases params' with
          | nil => exact ⟨rfl, left⟩
          | field | type | number | label => cases empty'
        | field | type | number | label => cases empty
      | false =>
        rw [empty', if_neg Bool.false_ne_true, pieceTokens_openParen] at grouped
        exact absurd (congrArg nextKind grouped) notParen
    | false =>
      rw [empty, if_neg Bool.false_ne_true, pieceTokens_openParen] at grouped
      cases empty' : params'.isNil with
      | true =>
        rw [empty', if_pos rfl, pieceTokens_nil, List.nil_append] at grouped
        exact absurd (congrArg nextKind grouped.symm) notParen'
      | false =>
        rw [empty', if_neg Bool.false_ne_true, pieceTokens_openParen] at grouped
        obtain ⟨_, inner⟩ := List.cons.inj grouped
        obtain ⟨rfl, sized⟩ := Params.unique ok.2.2.2.2.1 also.2.2.2.2.1 inner
        obtain ⟨rfl, left⟩ := arrays_unique notBracket notBracket' sized
        exact ⟨rfl, left⟩

/-- Parameters are told by their tokens, to the closing parenthesis. -/
theorem Params.unique : ∀ {one two : Params} {base : Bytes} {first : Bool} {rest after : List Token},
    one.WellFormed base → two.WellFormed base →
    pieceTokens (one.pieces first) ++ rest = pieceTokens (two.pieces first) ++ after →
    one = two ∧ rest = after
  | .nil, two, _, first, rest, after, _, _, same => by
    cases empty : two.isNil with
    | true =>
      cases two with
      | nil => exact ⟨rfl, (List.cons.inj same).2⟩
      | field | type | number | label => cases empty
    | false => exact absurd (congrArg nextKind same.symm) (params_start two first empty after)
  | .field name type others, two, _, first, rest, after, ok, also, same => by
    obtain ⟨isFields, _, nested, more⟩ := ok
    cases two with
    | nil => exact absurd (congrArg nextKind same) (params_start _ first rfl rest)
    | field name' type' others' =>
      obtain ⟨_, _, nested', more'⟩ := also
      rw [field_tokens, field_tokens] at same
      obtain ⟨head, inner⟩ := List.cons.inj (lead_cancels same)
      obtain rfl := Ident.token_injective head
      obtain ⟨rfl, later⟩ := Decl.unique nested nested' (params_follow others rest).1
        (params_follow others' after).1 inner
      obtain ⟨rfl, left⟩ := Params.unique more more' later
      exact ⟨rfl, left⟩
    | type | number | label => exact absurd isFields (by rw [also.1]; exact Bool.false_ne_true)
  | .type type others, two, _, first, rest, after, ok, also, same => by
    obtain ⟨notFields, isTypes, nested, more⟩ := ok
    cases two with
    | nil => exact absurd (congrArg nextKind same) (params_start _ first rfl rest)
    | field => exact absurd also.1 (by rw [notFields]; exact Bool.false_ne_true)
    | type type' others' =>
      obtain ⟨_, _, nested', more'⟩ := also
      rw [type_tokens, type_tokens] at same
      obtain ⟨rfl, later⟩ := Decl.unique nested nested' (params_follow others rest).1
        (params_follow others' after).1 (lead_cancels same)
      obtain ⟨rfl, left⟩ := Params.unique more more' later
      exact ⟨rfl, left⟩
    | number digits others' =>
      rw [type_tokens, number_tokens] at same
      exact absurd (congrArg nextKind (lead_cancels same)) (decl_start type _ nofun nofun)
    | label => exact absurd isTypes (by rw [also.2.1]; exact Bool.false_ne_true)
  | .number digits others, two, _, first, rest, after, ok, also, same => by
    obtain ⟨notFields, _, more⟩ := ok
    cases two with
    | nil => exact absurd (congrArg nextKind same) (params_start _ first rfl rest)
    | field => exact absurd also.1 (by rw [notFields]; exact Bool.false_ne_true)
    | type type others' =>
      rw [type_tokens, number_tokens] at same
      exact absurd (congrArg nextKind (lead_cancels same).symm) (decl_start type _ nofun nofun)
    | number digits' others' =>
      rw [number_tokens, number_tokens] at same
      obtain ⟨head, later⟩ := List.cons.inj (lead_cancels same)
      have text : digits = digits' := congrArg Token.text head
      subst text
      obtain ⟨rfl, left⟩ := Params.unique more also.2.2 later
      exact ⟨rfl, left⟩
    | label text others' =>
      rw [number_tokens, label_tokens] at same
      cases (List.cons.inj (lead_cancels same)).1
  | .label text others, two, _, first, rest, after, ok, also, same => by
    obtain ⟨notFields, notTypes, _, more⟩ := ok
    cases two with
    | nil => exact absurd (congrArg nextKind same) (params_start _ first rfl rest)
    | field => exact absurd also.1 (by rw [notFields]; exact Bool.false_ne_true)
    | type => exact absurd also.2.1 (by rw [notTypes]; exact Bool.false_ne_true)
    | number digits others' =>
      rw [number_tokens, label_tokens] at same
      cases (List.cons.inj (lead_cancels same)).1
    | label text' others' =>
      rw [label_tokens, label_tokens] at same
      obtain ⟨head, later⟩ := List.cons.inj (lead_cancels same)
      have text : text = text' := congrArg Token.text head
      subst text
      obtain ⟨rfl, left⟩ := Params.unique more also.2.2.2 later
      exact ⟨rfl, left⟩

end

/-- Well-formed declarations with one text are one declaration. -/
theorem Decl.render_injective {one two : Decl} (ok : one.WellFormed) (also : two.WellFormed)
    (same : render one.pieces = render two.pieces) : one = two := by
  have read : pieceTokens one.pieces = pieceTokens two.pieces :=
    Except.ok.inj (ok.tokens.symm.trans (same ▸ also.tokens))
  refine (Decl.unique ok also (Or.inl rfl : Follows []) (Or.inl rfl : Follows []) ?_).1
  rw [List.append_nil, List.append_nil, read]

end PhpDuckdb.Types
