import Mathlib.Data.List.Basic
import Mathlib.Tactic.SplitIfs

/-!
# Lexical pieces of generated SQL

Generated SQL text is a concatenation of words, numbers, quoted regions, positional parameters
and single marks. `render` writes pieces down and `lex` reads a byte string back with maximal
munch, doubled quotes included. `lex_render` is the rule that a text reads back as the pieces it
was built from when no two solid pieces touch; the bracket and parameter structure of a text is
then a matter of its pieces alone.
-/

namespace PhpDuckdb.SqlText

/-- A byte string, as C++ and PHP have it. -/
abbrev Bytes := List UInt8

/-- The bytes of an ASCII string. -/
def lit (text : String) : Bytes := text.toList.map fun char => UInt8.ofNat char.toNat

/-! ## Character classes of the C locale -/

/-- `isspace`: a blank, or one of the control bytes from tab to carriage return. -/
def isSpace (byte : UInt8) : Bool := byte == 32 || (9 ≤ byte && byte ≤ 13)

/-- `isdigit`: a byte from `0` to `9`. -/
def isDigit (byte : UInt8) : Bool := 48 ≤ byte && byte ≤ 57

/-- `isupper`: a byte from `A` to `Z`. -/
def isUpper (byte : UInt8) : Bool := 65 ≤ byte && byte ≤ 90

/-- `islower`: a byte from `a` to `z`. -/
def isLower (byte : UInt8) : Bool := 97 ≤ byte && byte ≤ 122

/-- `isalpha`: a letter of either case, without accents. -/
def isAlpha (byte : UInt8) : Bool := isUpper byte || isLower byte

/-- `isalnum`: a letter or a digit. -/
def isAlnum (byte : UInt8) : Bool := isAlpha byte || isDigit byte

/-- `toupper`: the capital of a small letter; other bytes stay as they are. -/
def toUpper (byte : UInt8) : UInt8 := if isLower byte then byte - 32 else byte

/-- A byte that an unquoted identifier starts with: a letter, `_` or a byte of a multibyte
character. -/
def isWordStart (byte : UInt8) : Bool := isAlpha byte || byte == 95 || 128 ≤ byte

/-- A byte that continues an unquoted identifier. -/
def isWordPart (byte : UInt8) : Bool :=
  isAlnum byte || byte == 95 || byte == 36 || 128 ≤ byte

/-- A single or a double quote. -/
def isQuote (byte : UInt8) : Bool := byte == 39 || byte == 34

/-- What holds of the 256 bytes holds of every byte. -/
theorem forall_byte {holds : UInt8 → Prop} (each : ∀ index : Fin 256, holds (UInt8.ofFin index))
    (byte : UInt8) : holds byte := each byte.toFin

/-- A word goes on with any byte that starts one. -/
theorem isWordPart_of_isWordStart {byte : UInt8} :
    isWordStart byte = true → isWordPart byte = true := by
  revert byte
  apply forall_byte
  decide +kernel

/-- Digits go on in a word and start no piece but a number. -/
theorem isDigit_class {byte : UInt8} : isDigit byte = true →
    isWordPart byte = true ∧ isWordStart byte = false ∧ isQuote byte = false ∧
      isSpace byte = false ∧ byte ≠ 0 := by
  revert byte
  apply forall_byte
  decide +kernel

/-- What starts a word starts no other piece. -/
theorem isWordStart_class {byte : UInt8} : isWordStart byte = true →
    isDigit byte = false ∧ isQuote byte = false ∧ isSpace byte = false ∧ byte ≠ 0 := by
  revert byte
  apply forall_byte
  decide +kernel

/-- Quotes are neither spaces nor parts of words. -/
theorem isQuote_class {byte : UInt8} : isQuote byte = true →
    isWordPart byte = false ∧ isSpace byte = false ∧ byte ≠ 0 := by
  revert byte
  apply forall_byte
  decide +kernel

/-- Upper case keeps what starts a word. -/
theorem isWordStart_toUpper (byte : UInt8) : isWordStart (toUpper byte) = isWordStart byte := by
  revert byte
  apply forall_byte
  decide +kernel

/-- Upper case keeps what continues a word. -/
theorem isWordPart_toUpper (byte : UInt8) : isWordPart (toUpper byte) = isWordPart byte := by
  revert byte
  apply forall_byte
  decide +kernel

/-- Upper case is its own upper case. -/
theorem toUpper_toUpper (byte : UInt8) : toUpper (toUpper byte) = toUpper byte := by
  revert byte
  apply forall_byte
  decide +kernel

/-! ## Pieces -/

/-- A lexical piece of an SQL text. -/
inductive Piece
  /-- An unquoted identifier or keyword. -/
  | word (text : Bytes)
  /-- A run of digits. -/
  | number (digits : Bytes)
  /-- A quoted region with its unescaped content. -/
  | quoted (quote : UInt8) (text : Bytes)
  /-- `$` and the digits after it. -/
  | placeholder (digits : Bytes)
  /-- A space. -/
  | space
  /-- Any other byte. -/
  | mark (byte : UInt8)
  deriving DecidableEq, Repr

/-- The content of a quoted region, its quotes doubled. -/
def escape (quote : UInt8) : Bytes → Bytes
  | [] => []
  | byte :: rest =>
    if byte = quote then quote :: quote :: escape quote rest else byte :: escape quote rest

/-- A quoted region with its quotes, doubled inside. -/
def quoted (quote : UInt8) (text : Bytes) : Bytes := quote :: (escape quote text ++ [quote])

/-- The bytes that a piece of SQL is written as. -/
def Piece.bytes : Piece → Bytes
  | .word text => text
  | .number digits => digits
  | .quoted quote text => SqlText.quoted quote text
  | .placeholder digits => 36 :: digits
  | .space => [32]
  | .mark byte => [byte]

/-- The bytes of some pieces, one behind the other. -/
def render : List Piece → Bytes
  | [] => []
  | piece :: rest => piece.bytes ++ render rest

@[simp]
theorem render_nil : render [] = [] := rfl

@[simp]
theorem render_cons (piece : Piece) (rest : List Piece) :
    render (piece :: rest) = piece.bytes ++ render rest := rfl

@[simp]
theorem render_append (first second : List Piece) :
    render (first ++ second) = render first ++ render second := by
  induction first with
  | nil => rfl
  | cons piece rest ih => simp [ih]

/-- A piece that merges with a neighbour of its kind. -/
def Piece.solid : Piece → Bool
  | .space => false
  | .mark _ => false
  | _ => true

/-- A byte that no solid piece starts with. -/
def breaks (byte : UInt8) : Bool := !isWordPart byte && !isQuote byte

/-- Pieces whose bytes read back as themselves. -/
def Piece.Valid : Piece → Prop
  | .word [] => False
  | .word (first :: rest) => isWordStart first ∧ ∀ byte ∈ rest, isWordPart byte
  | .number digits => digits ≠ [] ∧ ∀ byte ∈ digits, isDigit byte
  | .quoted quote _ => isQuote quote
  | .placeholder digits => digits ≠ [] ∧ ∀ byte ∈ digits, isDigit byte
  | .space => True
  | .mark byte => breaks byte ∧ byte ≠ 32

/-- Whether the bytes of a piece read back as itself. -/
def Piece.check : Piece → Bool
  | .word [] => false
  | .word (first :: rest) => isWordStart first && rest.all isWordPart
  | .number digits => !digits.isEmpty && digits.all isDigit
  | .quoted quote _ => isQuote quote
  | .placeholder digits => !digits.isEmpty && digits.all isDigit
  | .space => true
  | .mark byte => breaks byte && byte != 32

/-- The check accepts exactly the valid pieces. -/
theorem Piece.check_iff (piece : Piece) : piece.check = true ↔ piece.Valid := by
  cases piece with
  | word text => cases text <;> simp [check, Valid]
  | number digits => cases digits <;> simp [check, Valid]
  | quoted quote text => simp [check, Valid]
  | placeholder digits => cases digits <;> simp [check, Valid]
  | space => simp [check, Valid]
  | mark byte => simp [check, Valid]

instance : DecidablePred Piece.Valid := fun piece => decidable_of_iff _ piece.check_iff

/-- A breaking byte is in no word, number, parameter or quoted region that it could join. -/
theorem breaks_class {byte : UInt8} : breaks byte = true →
    isWordPart byte = false ∧ isQuote byte = false ∧ isWordStart byte = false ∧
      isDigit byte = false ∧ byte ≠ 36 := by
  revert byte
  apply forall_byte
  decide +kernel

/-- Nowhere do two solid pieces stand side by side. -/
def Separated : List Piece → Prop
  | [] => True
  | [_] => True
  | first :: second :: rest =>
    (first.solid = true → second.solid = false) ∧ Separated (second :: rest)

/-- Text after which a solid piece ends. -/
def Stops : Bytes → Prop
  | [] => True
  | byte :: _ => breaks byte = true

/-! ## Reading text -/

/-- What a reader of SQL text has begun and not ended. -/
inductive Mode
  | outside
  | word (text : Bytes)
  | number (digits : Bytes)
  | placeholder (digits : Bytes)
  | inside (quote : UInt8) (text : Bytes)
  /-- Right after a quote inside a region of that quote. -/
  | ended (quote : UInt8) (text : Bytes)
  deriving DecidableEq, Repr

/-- Begin a piece with its first byte. -/
def start (byte : UInt8) : List Piece × Mode :=
  if isQuote byte then ([], .inside byte [])
  else if isWordStart byte then ([], .word [byte])
  else if isDigit byte then ([], .number [byte])
  else if byte = 36 then ([], .placeholder [])
  else if byte = 32 then ([.space], .outside)
  else ([.mark byte], .outside)

/-- End a piece and begin the next. -/
def endThen (piece : Piece) (byte : UInt8) : List Piece × Mode :=
  (piece :: (start byte).1, (start byte).2)

/-- Read one byte in the middle of a piece. -/
def Mode.next : Mode → UInt8 → List Piece × Mode
  | .outside, byte => start byte
  | .word text, byte =>
    if isWordPart byte then ([], .word (text ++ [byte])) else endThen (.word text) byte
  | .number digits, byte =>
    if isDigit byte then ([], .number (digits ++ [byte])) else endThen (.number digits) byte
  | .placeholder digits, byte =>
    if isDigit byte then ([], .placeholder (digits ++ [byte]))
    else endThen (.placeholder digits) byte
  | .inside quote text, byte =>
    if byte = quote then ([], .ended quote text) else ([], .inside quote (text ++ [byte]))
  | .ended quote text, byte =>
    if byte = quote then ([], .inside quote (text ++ [byte]))
    else endThen (.quoted quote text) byte

/-- The piece that the end of the text completes; a region that is still open has none. -/
def Mode.finish : Mode → Option (List Piece)
  | .outside => some []
  | .word text => some [.word text]
  | .number digits => some [.number digits]
  | .placeholder digits => some [.placeholder digits]
  | .inside _ _ => none
  | .ended quote text => some [.quoted quote text]

/-- Read a text from a mode on. -/
def lexFrom : Mode → Bytes → Option (List Piece)
  | mode, [] => mode.finish
  | mode, byte :: rest =>
    (lexFrom (mode.next byte).2 rest).map fun pieces => (mode.next byte).1 ++ pieces

/-- Read a text; `none` when a quoted region is not closed. -/
def lex (text : Bytes) : Option (List Piece) := lexFrom .outside text

/-- A breaking byte ends the piece that is being read. -/
theorem Mode.next_breaks {mode : Mode} {pieces : List Piece} {byte : UInt8}
    (finished : mode.finish = some pieces) (breaking : breaks byte = true)
    (quotes : ∀ quote text, mode = .ended quote text → isQuote quote = true) :
    mode.next byte = (pieces ++ (start byte).1, (start byte).2) := by
  obtain ⟨notPart, notQuote, _, notDigit, _⟩ := breaks_class breaking
  cases mode with
  | outside =>
    obtain rfl := Option.some.inj finished
    rfl
  | word text =>
    obtain rfl := Option.some.inj finished
    simp [next, notPart, endThen]
  | number digits =>
    obtain rfl := Option.some.inj finished
    simp [next, notDigit, endThen]
  | placeholder digits =>
    obtain rfl := Option.some.inj finished
    simp [next, notDigit, endThen]
  | inside quote text => simp [finish] at finished
  | ended quote text =>
    obtain rfl := Option.some.inj finished
    have other : byte ≠ quote := by
      rintro rfl
      simp [quotes byte text rfl] at notQuote
    simp [next, other, endThen]

/-- The quote of a region that is being read. -/
def Mode.Quotes : Mode → Prop
  | .inside quote _ => isQuote quote = true
  | .ended quote _ => isQuote quote = true
  | _ => True

/-- A piece begins with a quote only where it opens a region. -/
theorem quotes_start (byte : UInt8) : (start byte).2.Quotes := by
  unfold start
  split
  · assumption
  · split
    · trivial
    · split
      · trivial
      · split
        · trivial
        · split <;> trivial

/-- Reading on keeps the quote of the region. -/
theorem Mode.quotes_next {mode : Mode} (quotes : mode.Quotes) (byte : UInt8) :
    (mode.next byte).2.Quotes := by
  cases mode with
  | outside => exact quotes_start byte
  | word text => simp only [next]; split <;> first | trivial | exact quotes_start byte
  | number digits => simp only [next]; split <;> first | trivial | exact quotes_start byte
  | placeholder digits => simp only [next]; split <;> first | trivial | exact quotes_start byte
  | inside quote text => simp only [next]; split <;> exact quotes
  | ended quote text => simp only [next]; split <;> first | exact quotes | exact quotes_start byte

/-- A text that ends outside quoted regions reads apart from what follows it, when no piece can
join the two. -/
theorem lexFrom_append {mode : Mode} {first second : Bytes} {pieces : List Piece}
    (quotes : mode.Quotes) (read : lexFrom mode first = some pieces) (stops : Stops second) :
    lexFrom mode (first ++ second) = (lex second).map (pieces ++ ·) := by
  induction first generalizing mode pieces with
  | nil =>
    have finished : mode.finish = some pieces := read
    cases second with
    | nil => simp only [List.append_nil, lex, lexFrom, finished]; simp [Mode.finish]
    | cons byte rest =>
      have ended : ∀ quote text, mode = .ended quote text → isQuote quote = true := by
        rintro quote text rfl
        exact quotes
      have begun : Mode.outside.next byte = start byte := rfl
      simp [lex, lexFrom, Mode.next_breaks finished stops ended, begun, Function.comp_def]
  | cons byte rest ih =>
    simp only [lexFrom, Option.map_eq_some_iff] at read
    obtain ⟨later, tail, rfl⟩ := read
    simp [lexFrom, ih (mode.quotes_next quotes byte) tail, Function.comp_def]

/-- A word is read to the end when only word characters follow. -/
theorem lexFrom_word (text more : Bytes) (parts : ∀ byte ∈ more, isWordPart byte = true) :
    lexFrom (.word text) more = some [.word (text ++ more)] := by
  induction more generalizing text with
  | nil => simp [lexFrom, Mode.finish]
  | cons byte rest ih =>
    simp only [List.mem_cons, forall_eq_or_imp] at parts
    simp [lexFrom, Mode.next, parts.1, ih (text ++ [byte]) parts.2]

/-- A number is read to the end when only digits follow. -/
theorem lexFrom_number (digits more : Bytes) (parts : ∀ byte ∈ more, isDigit byte = true) :
    lexFrom (.number digits) more = some [.number (digits ++ more)] := by
  induction more generalizing digits with
  | nil => simp [lexFrom, Mode.finish]
  | cons byte rest ih =>
    simp only [List.mem_cons, forall_eq_or_imp] at parts
    simp [lexFrom, Mode.next, parts.1, ih (digits ++ [byte]) parts.2]

/-- A positional parameter is read to the end when only digits follow. -/
theorem lexFrom_placeholder (digits more : Bytes) (parts : ∀ byte ∈ more, isDigit byte = true) :
    lexFrom (.placeholder digits) more = some [.placeholder (digits ++ more)] := by
  induction more generalizing digits with
  | nil => simp [lexFrom, Mode.finish]
  | cons byte rest ih =>
    simp only [List.mem_cons, forall_eq_or_imp] at parts
    simp [lexFrom, Mode.next, parts.1, ih (digits ++ [byte]) parts.2]

/-- The rest of a quoted region; doubled quotes read back as one. -/
theorem lexFrom_inside (quote : UInt8) (text more : Bytes) :
    lexFrom (.inside quote text) (escape quote more ++ [quote]) =
      some [.quoted quote (text ++ more)] := by
  induction more generalizing text with
  | nil => simp [escape, lexFrom, Mode.next, Mode.finish]
  | cons byte rest ih =>
    by_cases same : byte = quote
    · subst same
      simp [escape, lexFrom, Mode.next, ih (text ++ [byte])]
    · simp [escape, same, lexFrom, Mode.next, ih (text ++ [byte])]

/-- A valid piece reads back as itself. -/
theorem lex_piece {piece : Piece} (valid : piece.Valid) : lex piece.bytes = some [piece] := by
  cases piece with
  | word text =>
    cases text with
    | nil => exact valid.elim
    | cons first rest =>
      obtain ⟨begins, parts⟩ := valid
      obtain ⟨_, notQuote, _, _⟩ := isWordStart_class begins
      simp [Piece.bytes, lex, lexFrom, Mode.next, start, notQuote, begins,
        lexFrom_word [first] rest parts]
  | number digits =>
    obtain ⟨nonempty, parts⟩ := valid
    cases digits with
    | nil => contradiction
    | cons first rest =>
      simp only [List.mem_cons, forall_eq_or_imp] at parts
      obtain ⟨_, notStart, notQuote, _, _⟩ := isDigit_class parts.1
      simp [Piece.bytes, lex, lexFrom, Mode.next, start, notQuote, notStart, parts.1,
        lexFrom_number [first] rest parts.2]
  | quoted quote text =>
    have opens : isQuote quote = true := valid
    simp [Piece.bytes, quoted, lex, lexFrom, Mode.next, start, opens, lexFrom_inside]
  | placeholder digits =>
    obtain ⟨_, parts⟩ := valid
    have dollar : start 36 = ([], .placeholder []) := by decide
    simp [Piece.bytes, lex, lexFrom, Mode.next, dollar, lexFrom_placeholder [] digits parts]
  | space => rfl
  | mark byte =>
    obtain ⟨breaking, notSpace⟩ := valid
    obtain ⟨_, notQuote, notStart, notDigit, notDollar⟩ := breaks_class breaking
    simp [Piece.bytes, lex, lexFrom, Mode.next, start, Mode.finish, notQuote, notStart, notDigit,
      notDollar, notSpace]

/-- Spaces and marks stop the piece before them. -/
theorem stops_of_not_solid {piece : Piece} (valid : piece.Valid) (loose : piece.solid = false)
    (rest : Bytes) : Stops (piece.bytes ++ rest) := by
  cases piece with
  | space => exact (by decide : breaks 32 = true)
  | mark byte => exact valid.1
  | word text => simp [Piece.solid] at loose
  | number digits => simp [Piece.solid] at loose
  | quoted quote text => simp [Piece.solid] at loose
  | placeholder digits => simp [Piece.solid] at loose

/-- A space or a mark reads as itself whatever follows it. -/
theorem lex_loose {piece : Piece} (valid : piece.Valid) (loose : piece.solid = false)
    (rest : Bytes) : lex (piece.bytes ++ rest) = (lex rest).map (piece :: ·) := by
  cases piece with
  | space => rfl
  | mark byte =>
    obtain ⟨breaking, notSpace⟩ := valid
    obtain ⟨_, notQuote, notStart, notDigit, notDollar⟩ := breaks_class breaking
    simp [Piece.bytes, lex, lexFrom, Mode.next, start, notQuote, notStart, notDigit, notDollar,
      notSpace]
  | word text => simp [Piece.solid] at loose
  | number digits => simp [Piece.solid] at loose
  | quoted quote text => simp [Piece.solid] at loose
  | placeholder digits => simp [Piece.solid] at loose

/-- Pieces that begin with no solid one. -/
def Loose (pieces : List Piece) : Prop := ∀ piece, pieces.head? = some piece → piece.solid = false

/-- Separated pieces that may follow a solid one. -/
structure Trailing (pieces : List Piece) : Prop where
  /-- No two solid pieces touch. -/
  separated : Separated pieces
  /-- The first piece is not solid. -/
  loose : Loose pieces

/-- Nothing at the end of a text may follow any piece. -/
theorem trailing_nil : Trailing [] := ⟨trivial, by simp [Loose]⟩

/-- Any piece may stand before pieces that may follow a solid one. -/
theorem Trailing.cons {rest : List Piece} (trailing : Trailing rest) (piece : Piece) :
    Separated (piece :: rest) := by
  cases rest with
  | nil => trivial
  | cons second more => exact ⟨fun _ => trailing.loose second rfl, trailing.separated⟩

/-- A loose piece may stand before any separated pieces. -/
theorem Separated.loose_cons {rest : List Piece} (separated : Separated rest) {piece : Piece}
    (loose : piece.solid = false) : Trailing (piece :: rest) := by
  refine ⟨?_, fun first head => by obtain rfl := Option.some.inj head; exact loose⟩
  cases rest with
  | nil => trivial
  | cons second more => exact ⟨fun solid => by simp [loose] at solid, separated⟩

/-- A text reads back as the pieces it was built from. -/
theorem lex_render {pieces : List Piece} (valid : ∀ piece ∈ pieces, piece.Valid)
    (separated : Separated pieces) : lex (render pieces) = some pieces := by
  induction pieces with
  | nil => rfl
  | cons piece rest ih =>
    simp only [List.mem_cons, forall_eq_or_imp] at valid
    have tail : lex (render rest) = some rest := by
      refine ih valid.2 ?_
      cases rest with
      | nil => trivial
      | cons second more => exact separated.2
    cases loose : piece.solid with
    | false => simp [lex_loose valid.1 loose, tail]
    | true =>
      have stops : Stops (render rest) := by
        cases rest with
        | nil => trivial
        | cons second more =>
          exact stops_of_not_solid (valid.2 second (by simp)) (separated.1 loose) (render more)
      have outside : Mode.outside.Quotes := trivial
      rw [render_cons, lex, lexFrom_append outside (lex_piece valid.1) stops, tail]
      rfl

/-- A loose piece between two texts keeps them apart. -/
theorem lex_around {first : Bytes} {pieces : List Piece} {piece : Piece}
    (read : lex first = some pieces) (valid : piece.Valid) (loose : piece.solid = false)
    (rest : Bytes) :
    lex (first ++ (piece.bytes ++ rest)) = (lex rest).map fun more => pieces ++ piece :: more := by
  have outside : Mode.outside.Quotes := trivial
  rw [lex, lexFrom_append outside read (stops_of_not_solid valid loose rest),
    lex_loose valid loose, Option.map_map]
  rfl

/-! ## Positional parameters -/

/-- The digits of a positional parameter. -/
def Piece.placeholder? : Piece → Option Bytes
  | .placeholder digits => some digits
  | _ => none

/-- The positional parameters among pieces, in order. -/
def placeholders (pieces : List Piece) : List Bytes := pieces.filterMap Piece.placeholder?

/-- A text that reads as pieces with these positional parameters. -/
def Shows (text : Bytes) (digits : List Bytes) : Prop :=
  ∃ pieces, lex text = some pieces ∧ placeholders pieces = digits

/-- A text that may stand before any other without changing its parameters. -/
def Opens (text : Bytes) : Prop :=
  ∀ rest digits, Shows rest digits → Shows (text ++ rest) digits

/-- The empty text shows no parameter. -/
theorem shows_nil : Shows [] [] := ⟨[], rfl, rfl⟩

/-- The text of a valid piece shows its own placeholder and nothing else. -/
theorem shows_piece (piece : Piece) (valid : piece.Valid) :
    Shows piece.bytes piece.placeholder?.toList :=
  ⟨[piece], lex_piece valid, by cases piece <;> rfl⟩

/-- Texts that do not join show the parameters of both. -/
theorem Shows.append {first second : Bytes} {one two : List Bytes} (shows_ : Shows first one)
    (stops : Stops second) (also : Shows second two) : Shows (first ++ second) (one ++ two) := by
  obtain ⟨pieces, read, rfl⟩ := shows_
  obtain ⟨more, later, rfl⟩ := also
  have outside : Mode.outside.Quotes := trivial
  refine ⟨pieces ++ more, ?_, List.filterMap_append⟩
  rw [lex, lexFrom_append outside read stops, later]
  rfl

/-- Spaces and marks may stand before anything. -/
theorem opens_loose (piece : Piece) (valid : piece.Valid) (loose : piece.solid = false) :
    Opens piece.bytes := by
  intro rest digits shown
  obtain ⟨pieces, read, rfl⟩ := shown
  refine ⟨piece :: pieces, by simp [lex_loose valid loose, read], ?_⟩
  cases piece with
  | space => rfl
  | mark byte => rfl
  | word text => simp [Piece.solid] at loose
  | number digits => simp [Piece.solid] at loose
  | quoted quote text => simp [Piece.solid] at loose
  | placeholder digits => simp [Piece.solid] at loose

/-- Texts that may stand before anything do so together. -/
theorem Opens.append {first second : Bytes} (opens : Opens first) (also : Opens second) :
    Opens (first ++ second) := by
  intro rest digits shown
  rw [List.append_assoc]
  exact opens _ digits (also rest digits shown)

/-- A text without parameters and a loose piece after it may stand before anything. -/
theorem Shows.opens {text : Bytes} (shown : Shows text []) (piece : Piece) (valid : piece.Valid)
    (loose : piece.solid = false) : Opens (text ++ piece.bytes) := by
  intro rest digits later
  rw [List.append_assoc]
  exact shown.append (stops_of_not_solid valid loose rest)
    (opens_loose piece valid loose rest digits later)

/-- Two texts with a separator between them show the parameters of both. -/
theorem Shows.between {first separator second : Bytes} {one two : List Bytes}
    (shown : Shows first one) (opens : Opens separator) (stops : Stops (separator ++ second))
    (also : Shows second two) : Shows (first ++ separator ++ second) (one ++ two) := by
  rw [List.append_assoc]
  exact shown.append stops (opens second two also)

/-- A text between two others shows its own parameters. -/
theorem Shows.enclosed {left text right : Bytes} {digits : List Bytes} (shown : Shows text digits)
    (opens : Opens left) (stops : Stops right) (ends : Shows right []) :
    Shows (left ++ text ++ right) digits := by
  rw [List.append_assoc]
  simpa using opens _ _ (shown.append stops ends)

/-! ## Brackets -/

/-- Close the innermost open bracket, if it is this one. -/
def closeBracket (byte : UInt8) : List UInt8 → Option (List UInt8)
  | top :: outer => if top = byte then some outer else none
  | [] => none

/-- What a piece does to the stack of open brackets, the innermost first. -/
def Piece.bracket (opened : List UInt8) : Piece → Option (List UInt8)
  | .mark byte =>
    if byte = 40 ∨ byte = 91 then some (byte :: opened)
    else if byte = 41 then closeBracket 40 opened
    else if byte = 93 then closeBracket 91 opened
    else some opened
  | _ => some opened

/-- Read round and square brackets against a stack of open ones; `none` when a bracket closes
one that it does not match. -/
def nest : List UInt8 → List Piece → Option (List UInt8)
  | opened, [] => some opened
  | opened, piece :: rest => (piece.bracket opened).bind fun inner => nest inner rest

/-- Every bracket is closed by its own kind, and none that was not opened is closed. -/
def Balanced (pieces : List Piece) : Prop := nest [] pieces = some []

/-- Brackets of an append are read one part after the other. -/
theorem nest_append (opened : List UInt8) (first second : List Piece) :
    nest opened (first ++ second) = (nest opened first).bind fun left => nest left second := by
  induction first generalizing opened with
  | nil => rfl
  | cons piece rest ih =>
    simp only [List.cons_append, nest, Option.bind_assoc]
    congr 1
    funext inner
    exact ih inner

/-- A piece leaves the brackets alone that were open outside. -/
theorem Piece.bracket_frame {piece : Piece} {opened left : List UInt8}
    (read : piece.bracket opened = some left) (outer : List UInt8) :
    piece.bracket (opened ++ outer) = some (left ++ outer) := by
  cases piece with
  | mark byte =>
    simp only [bracket] at read ⊢
    split_ifs at read ⊢ with opens round square
    · obtain rfl := Option.some.inj read
      rfl
    · cases opened with
      | nil => simp [closeBracket] at read
      | cons top rest => simp_all [closeBracket]
    · cases opened with
      | nil => simp [closeBracket] at read
      | cons top rest => simp_all [closeBracket]
    · obtain rfl := Option.some.inj read
      rfl
  | word text => simpa [bracket] using read
  | number digits => simpa [bracket] using read
  | quoted quote text => simpa [bracket] using read
  | placeholder digits => simpa [bracket] using read
  | space => simpa [bracket] using read

/-- Brackets that are open outside stay open. -/
theorem nest_frame {opened left : List UInt8} {pieces : List Piece}
    (read : nest opened pieces = some left) (outer : List UInt8) :
    nest (opened ++ outer) pieces = some (left ++ outer) := by
  induction pieces generalizing opened with
  | nil =>
    obtain rfl := Option.some.inj read
    rfl
  | cons piece rest ih =>
    obtain ⟨inner, first, later⟩ := Option.bind_eq_some_iff.mp read
    simp only [nest, Piece.bracket_frame first outer, Option.bind_some]
    exact ih later

/-- Within balanced pieces, no bracket that was open before them is closed. -/
theorem Balanced.prefix_nest {first second : List Piece} (balanced : Balanced (first ++ second))
    (opened : List UInt8) :
    ∃ inner, SqlText.nest opened first = some (inner ++ opened) := by
  rw [Balanced, nest_append] at balanced
  obtain ⟨inner, read, _⟩ := Option.bind_eq_some_iff.mp balanced
  exact ⟨inner, by simpa using nest_frame read opened⟩

end PhpDuckdb.SqlText
