import PhpDuckdb.Lib.SqlText

/-!
# DuckDB's errors

An error of DuckDB is a category and a message. The prepare and pending calls return only the
message, so its category is read back from the text in front of it.
-/

namespace PhpDuckdb.Connection

open SqlText

/-- The values of `duckdb_error_type` that the extension names, and the others by their code. -/
inductive ErrorType
  | invalid
  | connection
  | parse
  | syntaxError
  | binder
  | catalog
  | constraint
  | transaction
  | sequence
  | conversion
  | outOfRange
  | mismatchType
  | divideByZero
  | invalidInput
  | invalidConfiguration
  | dataCorruption
  | resourceInUse
  | notImplemented
  | inputOutput
  | http
  | network
  | permission
  | missingExtension
  | autoload
  | interrupt
  | internal
  | fatal
  | other (code : Nat)
  deriving DecidableEq, Repr

/-- What `duckdb_throw_error` is called with: a category and a message. -/
structure NativeError where
  /-- The category. -/
  type : ErrorType
  /-- The message. -/
  message : Bytes
  deriving DecidableEq, Repr

/-- The texts that `duckdb_classify_error_message` looks for, in their order. -/
def classifiedTexts : List (Bytes × ErrorType) :=
  [(lit "Parser Error:", .parse),
    (lit "Syntax Error:", .syntaxError),
    (lit "Binder Error:", .binder),
    (lit "Catalog Error:", .catalog),
    (lit "Constraint Error:", .constraint),
    (lit "Transaction Error:", .transaction),
    (lit "TransactionContext Error:", .transaction),
    (lit "Sequence Error:", .sequence),
    (lit "Conversion Error:", .conversion),
    (lit "Out of Range Error:", .outOfRange),
    (lit "Type Mismatch Error:", .mismatchType),
    (lit "Divide By Zero Error:", .divideByZero),
    (lit "Invalid Input Error:", .invalidInput),
    (lit "Invalid Configuration Error:", .invalidConfiguration),
    (lit "Data Corruption Error:", .dataCorruption),
    (lit "Resource In Use Error:", .resourceInUse),
    (lit "Not implemented Error:", .notImplemented),
    (lit "IO Error:", .inputOutput),
    (lit "HTTP Error:", .http),
    (lit "Network Error:", .network),
    (lit "Permission Error:", .permission),
    (lit "Missing Extension Error:", .missingExtension),
    (lit "Autoloading Error:", .autoload),
    (lit "Interrupted Error:", .interrupt),
    (lit "INTERRUPT Error:", .interrupt),
    (lit "INTERNAL Error:", .internal),
    (lit "FATAL Error:", .fatal),
    (lit "Invalid Error:", .invalidInput)]

/-- `duckdb_classify_error_message`: the error type is told by how the message begins. -/
def duckdbClassifyErrorMessage (message : Bytes) : ErrorType :=
  match classifiedTexts.find? fun text => text.1.isPrefixOf message with
  | some (_, type) => type
  | none => .invalid

/-- `duckdb_throw_prepare_error`: the error of a failed prepare, classified by its message. -/
def prepareError (message : Bytes) : NativeError := ⟨duckdbClassifyErrorMessage message, message⟩

/-- `duckdb_throw_start_error`: an error that the message does not classify is an internal one. -/
def startError (message : Bytes) : NativeError :=
  let type := duckdbClassifyErrorMessage message
  ⟨if type = .invalid then .internal else type, message⟩

/-- What `duckdb_throw_result_error` throws for the error of a result. -/
def resultError (type : ErrorType) (message : Option Bytes) : NativeError :=
  ⟨type, message.getD (lit "Query failed")⟩

/-- A message, or what stands in for a missing or an empty one. -/
def orFallback (message : Option Bytes) (fallback : Bytes) : Bytes :=
  match message with
  | none => fallback
  | some text => if text = [] then fallback else text

/-- A fallback with a text is never empty. -/
theorem orFallback_ne_nil (message : Option Bytes) {fallback : Bytes} (given : fallback ≠ []) :
    orFallback message fallback ≠ [] := by
  cases message with
  | none => exact given
  | some text =>
    simp only [orFallback]
    split
    · exact given
    · assumption

end PhpDuckdb.Connection
