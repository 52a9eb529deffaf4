import PhpDuckdb.Lib.Outcome
import PhpDuckdb.Types.Lexer

/-!
# The grammar of type declarations

`parser::type` reads one declaration from the tokens and writes its canonical text on the way:
names, the phrases of several words, parameters in parentheses and array suffixes.
`duckdb_canonicalize_type` runs it over a whole declaration. A parser state is the list of the
tokens that are left; nesting is counted down from the limit instead of up to it.
-/

namespace PhpDuckdb.Types

open SqlText

/-- `parser::upper`: a text with its letters capital. -/
def upper (text : Bytes) : Bytes := text.map toUpper

/-- `parser::at`: the next token is of a kind. -/
def atKind (kind : Kind) : List Token → Bool
  | token :: _ => token.kind = kind
  | [] => false

/-- `parser::word`: the next token is an unquoted word, in any case. -/
def word (spelling : String) : List Token → Bool
  | token :: _ => token.kind = .word && upper token.text = lit spelling
  | [] => false

/-- The text that `parser::ident` returns for a token. -/
def identText (token : Token) : Option Bytes :=
  match token.kind with
  | .name => some (quoted 34 token.text)
  | .word => some token.text
  | _ => none

/-- `parser::ident`: takes a name, quoted or not. -/
def ident : List Token → Except String (Bytes × List Token)
  | token :: rest =>
    match identText token with
    | some text => .ok (text, rest)
    | none => .error "Expected type or field name"
  | [] => .error "Expected type or field name"

/-- `parser::need`: takes a token of a kind, and fails at any other. -/
def need (kind : Kind) : List Token → Except String (List Token)
  | token :: rest => if token.kind = kind then .ok rest else .error "Malformed type declaration"
  | [] => .error "Malformed type declaration"

/-- The type names that are no SQL value types. -/
def internal : List Bytes :=
  ["INVALID", "ANY", "UNKNOWN", "SQLNULL", "INTEGER_LITERAL", "STRING_LITERAL", "LAMBDA", "TABLE",
    "POINTER", "VALIDITY"].map lit

/-- The first name of a type: unquoted names are folded to upper case. -/
def fold (name : Bytes) : Bytes := if name.head? = some 34 then name else upper name

/-- The parts of a qualified name behind its first. -/
def dotted (name : Bytes) : List Token → Except String (Bytes × List Token)
  | ⟨_, .dot⟩ :: part :: rest =>
    match identText part with
    | some more => dotted (name ++ lit "." ++ more) rest
    | none => .error "Expected type or field name"
  | [⟨_, .dot⟩] => .error "Expected type or field name"
  | rest => .ok (name, rest)

/-- `DOUBLE PRECISION`: the second word belongs to the name. -/
def doublePrecision (name : Bytes) (ts : List Token) : Bytes × List Token :=
  if name = lit "DOUBLE" && word "PRECISION" ts then (name ++ lit " PRECISION", ts.tail)
  else (name, ts)

/-- `TIME` and `TIMESTAMP`, `WITH` or `WITHOUT TIME ZONE`. -/
def timeZone (name : Bytes) : List Token → Except String (Bytes × List Token)
  | [] => .ok (name, [])
  | token :: rest =>
    if (name = lit "TIME" || name = lit "TIMESTAMP") &&
        (word "WITH" (token :: rest) || word "WITHOUT" (token :: rest)) then
      if !word "TIME" rest then .error "Expected TIME ZONE"
      else if !word "ZONE" rest.tail then .error "Expected TIME ZONE"
      else .ok (name ++ lit " " ++ upper token.text ++ lit " TIME ZONE", rest.tail.tail)
    else .ok (name, token :: rest)

/-- `NATIONAL CHAR` and `NATIONAL CHARACTER`: the second word belongs to the name. -/
def national (name : Bytes) (ts : List Token) : Except String (Bytes × List Token) :=
  if name = lit "NATIONAL" then
    match ts with
    | token :: rest =>
      if !word "CHAR" (token :: rest) && !word "CHARACTER" (token :: rest) then
        .error "Expected CHAR or CHARACTER"
      else .ok (name ++ lit " " ++ upper token.text, rest)
    | [] => .error "Expected CHAR or CHARACTER"
  else .ok (name, ts)

/-- `VARYING` after the character types: the word belongs to the name. -/
def varying (name : Bytes) (ts : List Token) : Bytes × List Token :=
  if (name = lit "CHARACTER" || name = lit "CHAR" || name = lit "NCHAR" ||
      name = lit "NATIONAL CHAR" || name = lit "NATIONAL CHARACTER") && word "VARYING" ts then
    (name ++ lit " VARYING", ts.tail)
  else (name, ts)

/-- The units that an `INTERVAL` can be declared with. -/
def units : List Bytes := ["YEAR", "MONTH", "DAY", "HOUR", "MINUTE", "SECOND"].map lit

/-- The next token is a unit of an INTERVAL. -/
def atUnit : List Token → Bool
  | token :: _ => token.kind = .word && units.contains (upper token.text)
  | [] => false

/-- The units after `INTERVAL`: one of them, or one to another. -/
def interval (name : Bytes) : List Token → Except String (Bytes × List Token)
  | [] => .ok (name, [])
  | token :: rest =>
    if name = lit "INTERVAL" && atUnit (token :: rest) then
      let name := name ++ lit " " ++ upper token.text
      if word "TO" rest then
        match rest.tail with
        | last :: after =>
          if !atUnit (last :: after) then .error "Expected INTERVAL unit"
          else .ok (name ++ lit " TO " ++ upper last.text, after)
        | [] => .error "Expected INTERVAL unit"
      else .ok (name, rest)
    else .ok (name, token :: rest)

/-- The types that are spelled with several words. -/
def phrase (name : Bytes) (ts : List Token) : Except String (Bytes × List Token) := do
  let (name, ts) := doublePrecision name ts
  let (name, ts) ← timeZone name ts
  let (name, ts) ← national name ts
  let (name, ts) := varying name ts
  interval name ts

/-- One parameter of a type whose name is `base`; `type` reads a nested declaration. -/
def parameter (type : List Token → Except String (Bytes × List Token)) (base name : Bytes)
    (ts : List Token) : Except String (Bytes × List Token) :=
  if base = lit "STRUCT" || base = lit "UNION" then do
    let (field, ts) ← ident ts
    let (inner, ts) ← type ts
    .ok (name ++ field ++ lit " " ++ inner, ts)
  else if base = lit "MAP" || base = lit "LIST" || base = lit "ARRAY" then
    match ts with
    | ⟨digits, .number⟩ :: rest => .ok (name ++ digits, rest)
    | ts => do
      let (inner, ts) ← type ts
      .ok (name ++ inner, ts)
  else
    match ts with
    | ⟨text, .label⟩ :: rest => .ok (name ++ quoted 39 text, rest)
    | ⟨digits, .number⟩ :: rest => .ok (name ++ digits, rest)
    | _ => .error "Expected type parameter"

/-- The loop over the parameters up to the closing parenthesis. Every turn consumes a token, so
their number is fuel enough. -/
def parameters (type : List Token → Except String (Bytes × List Token)) (base : Bytes) :
    Nat → Bool → Bytes → List Token → Except String (Bytes × List Token)
  | 0, _, _, _ => .error "unreachable"
  | fuel + 1, first, name, ts =>
    if atKind .closeParen ts then
      if first then .error "Empty type parameters" else .ok (name ++ lit ")", ts.tail)
    else do
      let (name, ts) ← (if first then .ok (name, ts)
        else (need .comma ts).map fun ts => (name ++ lit ", ", ts))
      let (name, ts) ← parameter type base name ts
      if ts = [] then .error "Unterminated type parameters"
      else parameters type base fuel false name ts

/-- The opening bracket of an array suffix and its size, if it has one. -/
def arraySize (name : Bytes) : List Token → Bytes × List Token
  | ⟨digits, .number⟩ :: rest => (name ++ lit "[" ++ digits, rest)
  | rest => (name ++ lit "[", rest)

/-- The array suffixes, at most as many as nesting leaves room for. -/
def suffixes : Nat → Bytes → List Token → Except String (Bytes × List Token)
  | room, name, ts =>
    if atKind .openBracket ts then
      match room with
      | 0 => .error "Type declaration exceeds nesting limit"
      | room + 1 => do
        let (name, ts) := arraySize name ts.tail
        let ts ← need .closeBracket ts
        suffixes room (name ++ lit "]") ts
    else .ok (name, ts)

/-- `parser::type`. `room` is how many levels of nesting are left, 65 at depth 0. -/
def type : Nat → List Token → Except String (Bytes × List Token)
  | 0, _ => .error "Type declaration exceeds nesting limit"
  | room + 1, ts => do
    let (name, ts) ← ident ts
    let name := fold name
    if internal.contains name then .error "Internal DuckDB type is not a SQL value type"
    else do
      let (name, ts) ← dotted name ts
      let (name, ts) ← phrase name ts
      let (name, ts) ← (if atKind .openParen ts then
          parameters (type room) name (ts.tail.length + 1) true (name ++ lit "(") ts.tail
        else .ok (name, ts))
      suffixes room name ts

/-- `duckdb_canonicalize_type`; the error is the text of the ValueError. -/
def duckdbCanonicalizeType (declaration : Bytes) : Except String Bytes := do
  let ts ← tokens declaration
  let (canonical, rest) ← type 65 ts
  if rest ≠ [] then .error "Trailing tokens in type declaration" else .ok canonical

end PhpDuckdb.Types
