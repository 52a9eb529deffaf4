import Mathlib.Data.List.TakeWhile
import PhpDuckdb.Lib.Outcome
import PhpDuckdb.Lib.SqlText

/-!
# Tokens of a type declaration

`parser::parser` splits a declaration into tokens before any grammar applies: quoted names and
labels with their doubled quotes undone, unquoted words, digits and single punctuation marks, in
the C locale. `tokens_render` says that a text written from pieces has the tokens of its pieces.
-/

namespace PhpDuckdb.Types

open SqlText

/-- `token::kind`: what a token of a declaration is, by its first byte. -/
inductive Kind
  /-- `'`, a quoted label. -/
  | label
  /-- `"`, a quoted name. -/
  | name
  /-- `i`, an unquoted word. -/
  | word
  /-- `n`, digits. -/
  | number
  /-- `(`. -/
  | openParen
  /-- `)`. -/
  | closeParen
  /-- `[`. -/
  | openBracket
  /-- `]`. -/
  | closeBracket
  /-- `,`. -/
  | comma
  /-- `.`. -/
  | dot
  deriving DecidableEq, Repr

/-- `token`: a kind with the text that it covers. -/
structure Token where
  /-- The content, without the quotes of a quoted token. -/
  text : Bytes
  /-- What the token is. -/
  kind : Kind
  deriving DecidableEq, Repr

/-- The kind of a quoted token, by its quote. -/
def quotedKind (quote : UInt8) : Kind := if quote = 39 then .label else .name

/-- The kind of a punctuation mark. -/
def punctuation (byte : UInt8) : Option Kind :=
  if byte = 40 then some .openParen
  else if byte = 41 then some .closeParen
  else if byte = 91 then some .openBracket
  else if byte = 93 then some .closeBracket
  else if byte = 44 then some .comma
  else if byte = 46 then some .dot
  else none

/-- The loop over a quoted token: its content and what follows the closing quote. -/
def quotedToken (quote : UInt8) : Bytes → Option (Bytes × Bytes)
  | [] => none
  | [last] => if last = quote then some ([], []) else none
  | byte :: next :: rest =>
    if byte = quote then
      if next = quote then
        (quotedToken quote rest).map fun read => (quote :: read.1, read.2)
      else some ([], next :: rest)
    else (quotedToken quote (next :: rest)).map fun read => (byte :: read.1, read.2)

/-- The loop of `parser::parser`; every turn consumes a byte, so the length of the text is fuel
enough. -/
def scan : Nat → Bytes → Except String (List Token)
  | _, [] => .ok []
  | 0, _ :: _ => .error "unreachable"
  | fuel + 1, byte :: rest =>
    if isSpace byte then scan fuel rest
    else if byte = 0 then .error "NUL in type declaration"
    else if isQuote byte then
      match quotedToken byte rest with
      | none => .error "Unterminated quoted token"
      | some (text, after) => (scan fuel after).map (⟨text, quotedKind byte⟩ :: ·)
    else if isWordStart byte then
      (scan fuel (rest.dropWhile isWordPart)).map (⟨byte :: rest.takeWhile isWordPart, .word⟩ :: ·)
    else if isDigit byte then
      (scan fuel (rest.dropWhile isDigit)).map (⟨byte :: rest.takeWhile isDigit, .number⟩ :: ·)
    else
      match punctuation byte with
      | some kind => (scan fuel rest).map (⟨[byte], kind⟩ :: ·)
      | none => .error "Invalid token in type declaration"

/-- `parser::parser`: the tokens of a declaration, which may hold no NUL. -/
def tokens (text : Bytes) : Except String (List Token) :=
  if 0 ∈ text then .error "NUL in type declaration" else scan text.length text

/-! ## Fuel -/

/-- A quoted token leaves less text than it starts with. -/
theorem quotedToken_shrinks {quote : UInt8} {text content after : Bytes}
    (read : quotedToken quote text = some (content, after)) : after.length < text.length := by
  fun_induction quotedToken quote text generalizing content with
  | case1 => simp at read
  | case2 => simp_all
  | case3 => simp at read
  | case4 rest ih =>
    simp only [Option.map_eq_some_iff, Prod.mk.injEq, Prod.exists] at read
    obtain ⟨inner, left, tail, _, rfl⟩ := read
    have shorter := ih tail
    simp only [List.length_cons]
    omega
  | case5 next rest other =>
    simp only [Option.some.injEq, Prod.mk.injEq] at read
    simp [← read.2]
  | case6 byte next rest other ih =>
    simp only [Option.map_eq_some_iff, Prod.mk.injEq, Prod.exists] at read
    obtain ⟨inner, left, tail, _, rfl⟩ := read
    have shorter := ih tail
    simp only [List.length_cons] at shorter ⊢
    omega

/-- Fuel for the whole text is as good as any more. -/
theorem scan_fuel {fuel : Nat} {text : Bytes} (enough : text.length ≤ fuel) :
    scan fuel text = scan text.length text := by
  induction fuel using Nat.strongRecOn generalizing text with
  | ind fuel ih =>
    cases text with
    | nil => cases fuel <;> rfl
    | cons byte rest =>
      obtain ⟨less, rfl⟩ : ∃ less, fuel = less + 1 := ⟨fuel - 1, by simp at enough; omega⟩
      simp only [List.length_cons] at enough
      -- Both sides scan the same shorter text, with more and with less fuel than it needs.
      have same : ∀ after : Bytes, after.length ≤ rest.length →
          scan less after = scan rest.length after := by
        intro after shorter
        rw [ih less (by omega) (by omega)]
        rcases Nat.lt_or_ge rest.length (less + 1) with within | beyond
        · rw [ih rest.length (by omega) shorter]
        · omega
      have word := List.length_dropWhile_le isWordPart rest
      have digits := List.length_dropWhile_le isDigit rest
      simp only [scan, List.length_cons, same rest (Nat.le_refl _), same _ word, same _ digits]
      cases read : quotedToken byte rest with
      | none => rfl
      | some pair =>
        obtain ⟨content, after⟩ := pair
        simp only [same after (Nat.le_of_lt (quotedToken_shrinks read))]

/-- The tokens of a text whose NUL bytes were not looked for yet. -/
def scanAll (text : Bytes) : Except String (List Token) := scan text.length text

/-- One turn of the loop, free of fuel. -/
theorem scanAll_cons (byte : UInt8) (rest : Bytes) :
    scanAll (byte :: rest) =
      if isSpace byte then scanAll rest
      else if byte = 0 then .error "NUL in type declaration"
      else if isQuote byte then
        match quotedToken byte rest with
        | none => .error "Unterminated quoted token"
        | some (text, after) => (scanAll after).map (⟨text, quotedKind byte⟩ :: ·)
      else if isWordStart byte then
        (scanAll (rest.dropWhile isWordPart)).map (⟨byte :: rest.takeWhile isWordPart, .word⟩ :: ·)
      else if isDigit byte then
        (scanAll (rest.dropWhile isDigit)).map (⟨byte :: rest.takeWhile isDigit, .number⟩ :: ·)
      else
        match punctuation byte with
        | some kind => (scanAll rest).map (⟨[byte], kind⟩ :: ·)
        | none => .error "Invalid token in type declaration" := by
  have word := List.length_dropWhile_le isWordPart rest
  have digits := List.length_dropWhile_le isDigit rest
  simp only [scanAll, List.length_cons, scan, scan_fuel word, scan_fuel digits]
  cases read : quotedToken byte rest with
  | none => rfl
  | some pair =>
    obtain ⟨content, after⟩ := pair
    simp only [scan_fuel (Nat.le_of_lt (quotedToken_shrinks read))]

/-! ## Tokens that a text can have -/

/-- What the text of a token looks like, by its kind. -/
def Token.Valid (token : Token) : Prop :=
  match token.kind with
  | .label => 0 ∉ token.text
  | .name => 0 ∉ token.text
  | .word => (Piece.word token.text).Valid
  | .number => (Piece.number token.text).Valid
  | .openParen => token.text = [40]
  | .closeParen => token.text = [41]
  | .openBracket => token.text = [91]
  | .closeBracket => token.text = [93]
  | .comma => token.text = [44]
  | .dot => token.text = [46]

/-- A mark is the text of its kind. -/
theorem punctuation_valid {byte : UInt8} {kind : Kind} (known : punctuation byte = some kind) :
    Token.Valid ⟨[byte], kind⟩ := by
  unfold punctuation at known
  split_ifs at known with opens closes opensSquare closesSquare comma dot
  all_goals
    obtain rfl := Option.some.inj known
    subst byte
    rfl

/-- The content of a quoted token and the text after it are bytes of the text. -/
theorem quotedToken_subset {quote : UInt8} {text content after : Bytes}
    (read : quotedToken quote text = some (content, after)) :
    content ⊆ text ∧ after ⊆ text := by
  fun_induction quotedToken quote text generalizing content with
  | case1 => simp at read
  | case2 => simp_all
  | case3 => simp at read
  | case4 rest ih =>
    simp only [Option.map_eq_some_iff, Prod.mk.injEq, Prod.exists] at read
    obtain ⟨inner, left, tail, rfl, rfl⟩ := read
    obtain ⟨within, beyond⟩ := ih tail
    refine ⟨?_, fun byte found => by simp [beyond found]⟩
    intro byte found
    rcases List.mem_cons.mp found with rfl | later
    · simp
    · simp [within later]
  | case5 next rest other =>
    simp only [Option.some.injEq, Prod.mk.injEq] at read
    obtain ⟨rfl, rfl⟩ := read
    exact ⟨by simp, by simp⟩
  | case6 byte next rest other ih =>
    simp only [Option.map_eq_some_iff, Prod.mk.injEq, Prod.exists] at read
    obtain ⟨inner, left, tail, rfl, rfl⟩ := read
    obtain ⟨within, beyond⟩ := ih tail
    exact ⟨List.cons_subset_cons byte within, fun _ member => List.mem_cons_of_mem _ (beyond member)⟩

/-- Every token of a text without NUL is valid. -/
theorem scan_valid {fuel : Nat} {text : Bytes} {ts : List Token} (noNul : 0 ∉ text)
    (read : scan fuel text = .ok ts) : ∀ token ∈ ts, token.Valid := by
  fun_induction scan fuel text generalizing ts with
  | case1 =>
    obtain rfl := Except.ok.inj read
    simp
  | case2 => simp at read
  | case3 fuel byte rest blank ih => exact ih (by simp_all) read
  | case4 => simp at read
  | case5 => simp at read
  | case6 fuel byte rest _ _ quote content after inner ih =>
    obtain ⟨later, tail, rfl⟩ := Outcome.map_eq_ok.mp read
    obtain ⟨within, beyond⟩ := quotedToken_subset inner
    have clean : 0 ∉ rest := fun found => noNul (List.mem_cons_of_mem _ found)
    intro token found
    rcases List.mem_cons.mp found with rfl | inLater
    · have noNulInside : 0 ∉ content := fun member => clean (within member)
      unfold quotedKind
      split <;> exact noNulInside
    · exact ih (fun member => clean (beyond member)) tail token inLater
  | case7 fuel byte rest _ _ _ begins ih =>
    obtain ⟨later, tail, rfl⟩ := Outcome.map_eq_ok.mp read
    have clean : 0 ∉ rest := fun found => noNul (List.mem_cons_of_mem _ found)
    intro token found
    rcases List.mem_cons.mp found with rfl | inLater
    · exact ⟨begins, fun part member => List.mem_takeWhile_imp member⟩
    · exact ih (fun member => clean (List.dropWhile_sublist _ |>.subset member)) tail token inLater
  | case8 fuel byte rest _ _ _ _ begins ih =>
    obtain ⟨later, tail, rfl⟩ := Outcome.map_eq_ok.mp read
    have clean : 0 ∉ rest := fun found => noNul (List.mem_cons_of_mem _ found)
    intro token found
    rcases List.mem_cons.mp found with rfl | inLater
    · refine ⟨by simp, fun part member => ?_⟩
      rcases List.mem_cons.mp member with rfl | more
      · exact begins
      · exact List.mem_takeWhile_imp more
    · exact ih (fun member => clean (List.dropWhile_sublist _ |>.subset member)) tail token inLater
  | case9 fuel byte rest _ _ _ _ _ kind known ih =>
    obtain ⟨later, tail, rfl⟩ := Outcome.map_eq_ok.mp read
    intro token found
    rcases List.mem_cons.mp found with rfl | inLater
    · exact punctuation_valid known
    · exact ih (fun member => noNul (List.mem_cons_of_mem _ member)) tail token inLater
  | case10 => simp at read

/-- Every token of a declaration is valid. -/
theorem tokens_valid {text : Bytes} {ts : List Token} (read : tokens text = .ok ts) :
    ∀ token ∈ ts, token.Valid := by
  obtain ⟨noNul, scanned⟩ := Outcome.ite_error_eq_ok.mp read
  exact scan_valid noNul scanned

/-! ## Tokens of rendered text -/

/-- The token that a piece reads as; spaces read as none. -/
def pieceToken : Piece → Option Token
  | .word text => some ⟨text, .word⟩
  | .number digits => some ⟨digits, .number⟩
  | .quoted quote text => some ⟨text, quotedKind quote⟩
  | .mark byte => (punctuation byte).map fun kind => ⟨[byte], kind⟩
  | .space => none
  | .placeholder _ => none

/-- A piece that a declaration may contain. -/
def DeclPiece : Piece → Prop
  | .mark byte => (punctuation byte).isSome = true
  | .placeholder _ => False
  | _ => True

/-- Punctuation is neither space nor quote nor part of a word. -/
theorem punctuation_class {byte : UInt8} : (punctuation byte).isSome = true →
    isSpace byte = false ∧ byte ≠ 0 ∧ isQuote byte = false ∧ isWordStart byte = false ∧
      isDigit byte = false ∧ breaks byte = true ∧ byte ≠ 32 := by
  revert byte
  apply forall_byte
  decide +kernel

/-- A region reads back as its content unless another quote follows it. -/
theorem quotedToken_escape {quote : UInt8} (text : Bytes) {rest : Bytes}
    (ends : rest.head? ≠ some quote) :
    quotedToken quote (escape quote text ++ quote :: rest) = some (text, rest) := by
  induction text with
  | nil =>
    cases rest with
    | nil => simp [escape, quotedToken]
    | cons next more =>
      have other : next ≠ quote := by simpa using ends
      simp [escape, quotedToken, other]
  | cons byte more ih =>
    by_cases same : byte = quote
    · subst same
      simp [escape, quotedToken, ih]
    · obtain ⟨next, after, shape⟩ :
          ∃ next after, escape quote more ++ quote :: rest = next :: after := by
        cases escape quote more with
        | nil => exact ⟨quote, rest, rfl⟩
        | cons next after => exact ⟨next, _, rfl⟩
      simp only [escape, same, ↓reduceIte, List.cons_append]
      rw [shape] at ih ⊢
      simp [quotedToken, same, ih]

/-- A run of bytes of a class ends where the text stops. -/
theorem span_of_stops {class_ : UInt8 → Bool} {run rest : Bytes}
    (within : ∀ byte ∈ run, class_ byte = true) (beyond : ∀ byte, rest.head? = some byte →
      class_ byte = false) :
    (run ++ rest).takeWhile class_ = run ∧ (run ++ rest).dropWhile class_ = rest := by
  rw [List.takeWhile_append_of_pos within, List.dropWhile_append_of_pos within]
  cases rest with
  | nil => simp
  | cons byte more => simp [beyond byte rfl]

/-- Where text stops, no word or number goes on and no quote follows. -/
theorem stops_head {rest : Bytes} (stops : Stops rest) {byte : UInt8}
    (head : rest.head? = some byte) :
    isWordPart byte = false ∧ isDigit byte = false ∧ isQuote byte = false := by
  cases rest with
  | nil => simp at head
  | cons first more =>
    obtain rfl := Option.some.inj head
    obtain ⟨notPart, notQuote, _, notDigit, _⟩ := breaks_class stops
    exact ⟨notPart, notDigit, notQuote⟩

/-- A piece reads as its token. -/
theorem scanAll_piece {piece : Piece} (valid : piece.Valid) (decl : DeclPiece piece) {rest : Bytes}
    (stops : piece.solid = true → Stops rest) :
    scanAll (piece.bytes ++ rest) = (scanAll rest).map ((pieceToken piece).toList ++ ·) := by
  cases piece with
  | word text =>
    cases text with
    | nil => exact valid.elim
    | cons first more =>
      obtain ⟨begins, parts⟩ := valid
      obtain ⟨_, notQuote, notSpace, notNul⟩ := isWordStart_class begins
      obtain ⟨took, left⟩ :=
        span_of_stops parts fun byte head => (stops_head (stops rfl) head).1
      simp [Piece.bytes, scanAll_cons, notSpace, notNul, notQuote, begins, took, left, pieceToken]
  | number digits =>
    obtain ⟨nonempty, parts⟩ := valid
    cases digits with
    | nil => contradiction
    | cons first more =>
      simp only [List.mem_cons, forall_eq_or_imp] at parts
      obtain ⟨_, notStart, notQuote, notSpace, notNul⟩ := isDigit_class parts.1
      obtain ⟨took, left⟩ :=
        span_of_stops parts.2 fun byte head => (stops_head (stops rfl) head).2.1
      simp [Piece.bytes, scanAll_cons, notSpace, notNul, notQuote, notStart, parts.1, took, left,
        pieceToken]
  | quoted quote text =>
    have opens : isQuote quote = true := valid
    obtain ⟨_, notSpace, notNul⟩ := isQuote_class opens
    have ends : rest.head? ≠ some quote := by
      intro head
      simp [(stops_head (stops rfl) head).2.2] at opens
    simp [Piece.bytes, quoted, scanAll_cons, notSpace, notNul, opens, quotedToken_escape text ends,
      pieceToken]
  | placeholder digits => exact decl.elim
  | space =>
    have blank : isSpace 32 = true := by decide
    cases read : scanAll rest <;> simp [Piece.bytes, scanAll_cons, blank, pieceToken, read, Except.map]
  | mark byte =>
    have known : (punctuation byte).isSome = true := decl
    obtain ⟨notSpace, notNul, notQuote, notStart, notDigit, _, _⟩ := punctuation_class known
    obtain ⟨kind, named⟩ := Option.isSome_iff_exists.mp known
    simp [Piece.bytes, scanAll_cons, notSpace, notNul, notQuote, notStart, notDigit, named,
      pieceToken]

/-- A text has the tokens of the pieces it was written from. -/
theorem scanAll_render {pieces : List Piece} (valid : ∀ piece ∈ pieces, piece.Valid)
    (decl : ∀ piece ∈ pieces, DeclPiece piece) (separated : Separated pieces) :
    scanAll (render pieces) = .ok (pieces.filterMap pieceToken) := by
  induction pieces with
  | nil => rfl
  | cons piece rest ih =>
    simp only [List.mem_cons, forall_eq_or_imp] at valid decl
    have tail : scanAll (render rest) = .ok (rest.filterMap pieceToken) := by
      refine ih valid.2 decl.2 ?_
      cases rest with
      | nil => trivial
      | cons second more => exact separated.2
    have stops : piece.solid = true → Stops (render rest) := by
      intro solid
      cases rest with
      | nil => trivial
      | cons second more =>
        exact stops_of_not_solid (valid.2 second (by simp)) (separated.1 solid) (render more)
    rw [render_cons, scanAll_piece valid.1 decl.1 stops, tail]
    cases token : pieceToken piece <;> simp [Except.map, token]

end PhpDuckdb.Types
