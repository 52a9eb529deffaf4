import PhpDuckdb.Connection.Errors
import PhpDuckdb.Lib.Ownership

/-!
# Pumped queries

While a handler is registered, `Connection::query` does not call `duckdb_query` but extracts the
statements and pumps them one by one, so that their callbacks reach PHP. `duckdb_pump_query` keeps
one result while it goes on: the first that returns rows, else the latest. What DuckDB answers is
a script, and the model lists the calls it makes on DuckDB's handles.
-/

namespace PhpDuckdb.Query

open SqlText Connection Ownership

/-- A handle that a pumped query may own. A statement is named by its position. -/
inductive Handle
  | extracted
  | session (index : Nat)
  | statement (index : Nat)
  | pending (index : Nat)
  | result (index : Nat)
  /-- The result that `duckdb_discard_pending` executes into. -/
  | discarded (index : Nat)
  /-- The result and the session of `duckdb_query`. -/
  | queryResult
  | querySession
  deriving DecidableEq, Repr

/-- A call that the pump makes for a query. -/
inductive Call
  /-- A statement starts to execute. -/
  | execute (index : Nat)
  /-- `duckdb_query` runs. -/
  | query
  /-- A call on a handle. -/
  | use (use : Use Handle)
  deriving DecidableEq, Repr

/-- The creation of a handle that DuckDB may have left null. -/
def create (given : Bool) (handle : Handle) : List Call :=
  if given then [.use (.create handle)] else []

/-- The destruction of a handle, which does nothing for a null one. -/
def destroy (given : Bool) (handle : Handle) : List Call :=
  if given then [.use (.destroy handle)] else []

/-- A use of a handle that is not null. -/
def touch (given : Bool) (handle : Handle) : List Call :=
  if given then [.use (.touch handle)] else []

/-- What preparing a statement gives: a failure may leave a handle with a message. -/
inductive Prepare
  | prepared
  | failed (handle : Option (Option Bytes))
  deriving DecidableEq, Repr

/-- What starting a prepared statement gives: a failure may leave a handle with a message. -/
inductive Start
  | started
  | failed (handle : Option (Option Bytes))
  deriving DecidableEq, Repr

/-- What the tasks of a pending query end in. -/
inductive Drive
  | ready
  | error (message : Option Bytes)
  deriving DecidableEq, Repr

/-- What executing into a result gives: a failure may write a result with a category and a
message. -/
inductive Execute
  | success (rows : Bool)
  | failed (written : Option (ErrorType × Option Bytes))
  deriving DecidableEq, Repr

/-- The error that `duckdb_throw_result_error` reads from a result, written or not. -/
def writtenError : Option (ErrorType × Option Bytes) → NativeError
  | some (type, message) => resultError type message
  | none => resultError .invalid none

/-- What DuckDB and the helper thread answer about one statement. -/
structure Native where
  /-- `duckdb_prepare_extracted_statement`. -/
  prepare : Prepare
  /-- `duckdb_prepared_statement_type`. -/
  statementType : Nat
  /-- `duckdb_pending_prepared`. -/
  start : Start
  /-- Why the helper thread could not start, if it could not. -/
  helper : Option Bytes
  /-- `drive_pending`. -/
  drive : Drive
  /-- `duckdb_copy_unwinding`, after a failed task. -/
  unwinding : Bool
  /-- `closed_reason` of the session then. -/
  closedReason : Bytes
  /-- `duckdb_execute_pending`. -/
  execute : Execute
  /-- `duckdb_execute_pending` wrote the result that is discarded. -/
  discards : Bool
  deriving DecidableEq, Repr

/-- `duckdb_lease_failure`: the closing reason stands for an interrupt that the unwinding made. -/
def duckdbLeaseFailure (unwinding : Bool) (closedReason : Bytes) (error : Option Bytes)
    (fallback : Bytes) : Bytes :=
  let interrupted := (error.map duckdbClassifyErrorMessage).getD .invalid = .interrupt
  if unwinding && interrupted && closedReason ≠ [] then closedReason else orFallback error fallback

/-- `duckdb_discard_pending` on a handle that is not null. -/
def duckdbDiscardPending (index : Nat) (discards : Bool) : List Call :=
  [.use (.touch (.pending index)), .use (.touch (.pending index))] ++
    create discards (.discarded index) ++ destroy discards (.discarded index) ++
    [.use (.destroy (.pending index))]

/-- What `duckdb_pump_execute` leaves its caller: how it ended, and the result it wrote. -/
structure Executed where
  /-- It returned `DuckDBSuccess`. -/
  success : Bool
  /-- `start_error`. -/
  startError : Bytes
  /-- A result was written into `out`. -/
  written : Bool
  /-- The error of that result. -/
  error : NativeError
  /-- That result returns rows. -/
  rows : Bool
  deriving DecidableEq, Repr

/-- A statement that never wrote its result. -/
def Executed.notRun (startError : Bytes) : Executed :=
  ⟨false, startError, false, writtenError none, false⟩

/-- `duckdb_pump_execute`. `streamSession` says that it streams for a caller that takes over the
session. -/
def duckdbPumpExecute (index : Nat) (native : Native) (streamSession : Bool) :
    List Call × Executed :=
  let opened : List Call := [.use (.create (.session index)), .execute index,
    .use (.touch (.statement index))]
  let ended : List Call := [.use (.destroy (.session index))]
  match native.start with
  | .failed handle =>
    (opened ++ create handle.isSome (.pending index) ++ touch handle.isSome (.pending index) ++
        ended ++ destroy handle.isSome (.pending index),
      .notRun (orFallback handle.join (lit "Failed to start query")))
  | .started =>
    let opened := opened ++ create true (.pending index)
    match native.helper with
    | some what =>
      (opened ++ ended ++ duckdbDiscardPending index native.discards,
        .notRun (lit "Unable to start the DuckDB helper thread: " ++ what))
    | none =>
      let driven := opened ++ touch true (.pending index)
      match native.drive with
      | .error message =>
        (driven ++ touch true (.pending index) ++ ended ++
            duckdbDiscardPending index native.discards,
          .notRun (duckdbLeaseFailure native.unwinding native.closedReason message
            (lit "Query execution failed")))
      | .ready =>
        let executed := driven ++ touch true (.pending index)
        let closed := destroy true (.pending index)
        match native.execute with
        | .success rows =>
          (executed ++ create true (.result index) ++ (if streamSession then [] else ended) ++
              closed,
            ⟨true, [], true, writtenError none, rows⟩)
        | .failed written =>
          (executed ++ create written.isSome (.result index) ++ ended ++ closed,
            ⟨false, [], written.isSome, writtenError written, false⟩)

/-- The result that a pumped query holds: `held`, `held_rows`, `out` and `out_type`. -/
structure Held where
  /-- The statement it is the result of. -/
  index : Nat
  /-- It returns rows. -/
  rows : Bool
  /-- The type of that statement. -/
  statementType : Nat
  deriving DecidableEq, Repr

/-- The destruction of the held result, if there is one. -/
def destroyHeld : Option Held → List Call
  | some held => destroy true (.result held.index)
  | none => []

/-- The loop of `duckdb_pump_query` from a position on. -/
def duckdbPumpStatements (index : Nat) (held : Option Held) :
    List Native → List Call × Except NativeError (Option Held)
  | [] => (destroy true .extracted, .ok held)
  | native :: rest =>
    let preparing : List Call := [.use (.touch .extracted)]
    match native.prepare with
    | .failed handle =>
      (preparing ++ create handle.isSome (.statement index) ++
          touch handle.isSome (.statement index) ++ destroy handle.isSome (.statement index) ++
          destroy true .extracted ++ destroyHeld held,
        .error (prepareError (handle.join.getD (lit "Failed to prepare statement"))))
    | .prepared =>
      let (calls, executed) := duckdbPumpExecute index native false
      let executing := preparing ++ create true (.statement index) ++
        touch true (.statement index) ++ calls ++ destroy true (.statement index)
      if executed.startError ≠ [] || !executed.success then
        let failed := executing ++ destroy true .extracted ++ destroyHeld held
        if executed.startError ≠ [] then (failed, .error (startError executed.startError))
        else
          (failed ++ touch executed.written (.result index) ++
            destroy executed.written (.result index), .error executed.error)
      else
        match held with
        | some ⟨first, true, type⟩ =>
          let (later, outcome) := duckdbPumpStatements (index + 1) (some ⟨first, true, type⟩) rest
          (executing ++ destroy executed.written (.result index) ++ later, outcome)
        | held =>
          let (later, outcome) := duckdbPumpStatements (index + 1)
            (some ⟨index, executed.rows, native.statementType⟩) rest
          (executing ++ destroyHeld held ++ touch true (.result index) ++ later, outcome)

/-- What DuckDB and the helper thread answer to one query. -/
structure Script where
  /-- `duckdb_extract_statements` left a handle although it found no statement. -/
  handle : Bool
  /-- The extracted statements. -/
  statements : List Native
  /-- Why the helper thread could not start for `duckdb_query`, if it could not. -/
  helper : Option Bytes
  /-- `duckdb_query`. -/
  query : Execute
  deriving DecidableEq, Repr

/-- What a query returns: the result it holds, or that of `duckdb_query`. -/
inductive Returned
  | statement (held : Held)
  | query
  deriving DecidableEq, Repr

/-- The handle of a returned result. -/
def Returned.handle : Returned → Handle
  | .statement held => .result held.index
  | .query => .queryResult

/-- `duckdb_pump_query` for a script of which no statement could be extracted. -/
def duckdbPumpWhole (script : Script) : List Call × Except NativeError Returned :=
  let opened := create script.handle .extracted ++ destroy script.handle .extracted ++
    create true .querySession
  let ended := destroy true .querySession
  match script.helper with
  | some what =>
    (opened ++ ended,
      .error (startError (lit "Unable to start the DuckDB helper thread: " ++ what)))
  | none =>
    match script.query with
    | .success _ => (opened ++ [.query] ++ create true .queryResult ++ ended, .ok .query)
    | .failed written =>
      (opened ++ [.query] ++ create written.isSome .queryResult ++
          touch written.isSome .queryResult ++ ended ++ touch written.isSome .queryResult ++
          destroy written.isSome .queryResult,
        .error (writtenError written))

/-- `duckdb_pump_query`: runs the statements of a script one by one, and the script whole when there
are none. -/
def duckdbPumpQuery (script : Script) : List Call × Except NativeError (Option Returned) :=
  match script.statements with
  | [] => ((duckdbPumpWhole script).1, (duckdbPumpWhole script).2.map some)
  | statements =>
    let (calls, outcome) := duckdbPumpStatements 0 none statements
    (create true .extracted ++ calls, outcome.map fun held => held.map .statement)

end PhpDuckdb.Query
