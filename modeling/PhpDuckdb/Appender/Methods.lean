import PhpDuckdb.Statement.Bindings
import PhpDuckdb.Vector.Native

/-!
# The appender's methods

`DuckDB\Appender` drives a native appender with three flags: a row is open, a native call has
failed, the appender is closed. Every native call is logged with its success, so that a run tells
what reached the handle. Destruction can be deferred while the calling thread runs a PHP handler
of the connection.
-/

namespace PhpDuckdb.Appender

open SqlText Value Connection Statement

/-- A row of a data chunk. -/
abbrev Row := List DuckValue

/-- A call that changes the native appender. -/
inductive NativeCall
  /-- `duckdb_appender_begin_row`. -/
  | beginRow
  /-- `duckdb_append_value`. -/
  | append (value : DuckValue)
  /-- `duckdb_append_default`. -/
  | appendDefault
  /-- `duckdb_appender_end_row`. -/
  | endRow
  /-- `duckdb_appender_flush`. -/
  | flush
  /-- `duckdb_appender_close`. -/
  | close
  /-- `duckdb_append_data_chunk`. -/
  | appendDataChunk (rows : List Row)
  /-- `duckdb_appender_clear`. -/
  | clear
  /-- `duckdb_appender_destroy`. -/
  | destroy

/-- A native call that was made. -/
structure Entry where
  /-- The call. -/
  call : NativeCall
  /-- It succeeded. -/
  succeeded : Bool

/-- What is left of an appender. -/
inductive Lifecycle
  /-- The PHP object is alive. -/
  | live
  /-- The object is gone; the cleanup waits for a handler to return. -/
  | deferred (wasFailed flush : Bool)
  /-- The native handle was destroyed. -/
  | destroyed
  deriving DecidableEq, Repr

/-- `appender_inner`, with the native calls so far. -/
structure State where
  /-- `row_open`. -/
  rowOpen : Bool
  /-- `failed`. -/
  failed : Bool
  /-- `closed`. -/
  closed : Bool
  /-- What is left of it. -/
  lifecycle : Lifecycle
  /-- The native calls so far. -/
  log : List Entry

/-- An appender that was just created. -/
def State.fresh : State := ⟨false, false, false, .live, []⟩

/-- What a method call meets: the guards, the environment of its casts and DuckDB's answers. -/
structure Setting (Env : Type) where
  /-- What the guards look at. -/
  access : Access
  /-- A result is open on the connection and holds it. -/
  openResult : Bool
  /-- The environment that values are converted in. -/
  env : Env
  /-- `duckdb_appender_column_count`. -/
  columnCount : Nat
  /-- `duckdb_vector_size`. -/
  vectorSize : Vector.VectorSize
  /-- The errors of the native calls that the method makes, by their number in it. -/
  native : Nat → Option Thrown

/-- Where a method threw, which tells whether DuckDB was asked. -/
inductive Reason
  /-- A guard, a flag or an argument refused it. -/
  | refused
  /-- A result that is open on the connection. -/
  | openResult
  /-- A value or a batch could not be converted. -/
  | conversion
  /-- A native call failed. -/
  | native
  deriving DecidableEq, Repr

/-- How a method ended: it returned, or it threw for a reason. -/
inductive Outcome
  | returned
  /-- It threw; a failed conversion may leave no exception of its own. -/
  | threw (reason : Reason) (thrown : Option Thrown)

/-! ## Native calls -/

/-- Make native calls in order until one fails. -/
def issue (native : Nat → Option Thrown) : Nat → List NativeCall → List Entry × Option Thrown
  | _, [] => ([], none)
  | number, call :: rest =>
    match native number with
    | some thrown => ([⟨call, false⟩], some thrown)
    | none =>
      let (entries, thrown) := issue native (number + 1) rest
      (⟨call, true⟩ :: entries, thrown)

/-- Native calls of a method; `duckdb_appender_fail` keeps a failure. -/
def State.submit (state : State) (native : Nat → Option Thrown) (calls : List NativeCall) :
    State × Outcome :=
  match issue native 0 calls with
  | (entries, none) => ({ state with log := state.log ++ entries }, .returned)
  | (entries, some thrown) =>
    ({ state with failed := true, log := state.log ++ entries }, .threw .native (some thrown))

/-! ## Guards -/

/-- The refusal of `duckdb_conn_check_no_open_result` while a result is open on the connection. -/
def openResultRefusal : Thrown :=
  ⟨.engine (lit "RESOURCE_IN_USE"), lit "Resource In Use Error: connection has an open result; " ++
    lit "drain or destroy it before starting a new query"⟩

/-- The refusal of a closed appender. -/
def appenderClosed : Thrown := ⟨.exception, lit "Appender is closed"⟩

section Calls

variable {Env : Type} (database : Database Env)

/-- `duckdb_appender_get`: refuses an appender that is not initialized, is closed or has failed. -/
def duckdbAppenderGet (setting : Setting Env) (state : State) : Except Thrown Unit := do
  duckdbInitializedGuard setting.access "DuckDB\\Appender"
  if state.closed then .error appenderClosed
  else if state.failed then
    .error ⟨.exception, lit "Appender has failed; call clear() before reusing it"⟩
  else duckdbConnectionGuard setting.access

/-- `duckdb_appender_enter_write`: a write is refused on a busy connection and while a result is
open. -/
def duckdbAppenderEnterWrite (setting : Setting Env) : Except (Reason × Thrown) Unit :=
  match duckdbConnEnter setting.access with
  | .error thrown => .error (.refused, thrown)
  | .ok () => if setting.openResult then .error (.openResult, openResultRefusal) else .ok ()

/-- The refusal to open a second row. -/
def rowAlreadyOpen : Thrown :=
  ⟨.error, lit "DuckDB\\Appender: a row is already open (call endRow() first)"⟩

/-- The refusal to go on without a row. -/
def noRowOpen : Thrown := ⟨.error, lit "DuckDB\\Appender: no row is open (call beginRow() first)"⟩

/-- A method that threw before it changed anything. -/
def State.refuse (state : State) (thrown : Thrown) : State × Outcome :=
  (state, .threw .refused (some thrown))

/-! ## The methods -/

/-- `Appender::beginRow`: opens a row, unless one is open or the appender is refused. -/
def beginRow (setting : Setting Env) (state : State) : State × Outcome :=
  match duckdbAppenderGet setting state with
  | .error thrown => state.refuse thrown
  | .ok () =>
    if state.rowOpen then state.refuse rowAlreadyOpen
    else
      match duckdbConnEnter setting.access with
      | .error thrown => state.refuse thrown
      | .ok () =>
        match state.submit setting.native [.beginRow] with
        | (next, .returned) => ({ next with rowOpen := true }, .returned)
        | threw => threw

/-- `Appender::append`: the value is converted before it is submitted. -/
def append (setting : Setting Env) (value : Zval) (state : State) : State × Outcome :=
  match duckdbAppenderGet setting state with
  | .error thrown => state.refuse thrown
  | .ok () =>
    if !state.rowOpen then state.refuse noRowOpen
    else
      match duckdbConnEnter setting.access with
      | .error thrown => state.refuse thrown
      | .ok () =>
        match duckdbConvertValues database setting.env [value] with
        | .error failure => (state, .threw .conversion failure)
        | .ok converted => state.submit setting.native (converted.map .append)

/-- `Appender::appendDefault`: appends the default of the next column to the open row. -/
def appendDefault (setting : Setting Env) (state : State) : State × Outcome :=
  match duckdbAppenderGet setting state with
  | .error thrown => state.refuse thrown
  | .ok () =>
    if !state.rowOpen then state.refuse noRowOpen
    else
      match duckdbConnEnter setting.access with
      | .error thrown => state.refuse thrown
      | .ok () => state.submit setting.native [.appendDefault]

/-- `Appender::endRow`: ends the open row, unless the write is refused. -/
def endRow (setting : Setting Env) (state : State) : State × Outcome :=
  match duckdbAppenderGet setting state with
  | .error thrown => state.refuse thrown
  | .ok () =>
    if !state.rowOpen then state.refuse noRowOpen
    else
      match duckdbAppenderEnterWrite setting with
      | .error (reason, thrown) => (state, .threw reason (some thrown))
      | .ok () => { state with rowOpen := false }.submit setting.native [.endRow]

/-- The native calls of one row. -/
def wholeRow (values : List DuckValue) : List NativeCall :=
  .beginRow :: (values.map .append ++ [.endRow])

/-- `Appender::appendRow`: all values are converted before the row is begun. -/
def appendRow (setting : Setting Env) (values : Elements) (state : State) : State × Outcome :=
  match duckdbAppenderGet setting state with
  | .error thrown => state.refuse thrown
  | .ok () =>
    if state.rowOpen then state.refuse rowAlreadyOpen
    else if values.count ≠ setting.columnCount then
      state.refuse ⟨.valueError, lit "must contain exactly " ++ decimal setting.columnCount ++
        lit " values (one per column), " ++ decimal values.count ++ lit " given"⟩
    else
      match duckdbAppenderEnterWrite setting with
      | .error (reason, thrown) => (state, .threw reason (some thrown))
      | .ok () =>
        match duckdbConvertValues database setting.env (values.toList.map Prod.snd) with
        | .error failure => (state, .threw .conversion failure)
        | .ok converted => state.submit setting.native (wholeRow converted)

/-- `Appender::flush`: writes the rows that are buffered, unless the write is refused. -/
def flush (setting : Setting Env) (state : State) : State × Outcome :=
  match duckdbAppenderGet setting state with
  | .error thrown => state.refuse thrown
  | .ok () =>
    match duckdbAppenderEnterWrite setting with
    | .error (reason, thrown) => (state, .threw reason (some thrown))
    | .ok () => state.submit setting.native [.flush]

/-- The bounded chunks that a larger one is submitted in. -/
def batches (vectorSize : Vector.VectorSize) (rows : List Row) : List (List Row) :=
  if rows = [] then []
  else rows.take vectorSize.val.toNat :: batches vectorSize (rows.drop vectorSize.val.toNat)
termination_by rows.length
decreasing_by
  rename_i full
  have some_ := List.length_pos_iff.mpr full
  have positive := vectorSize.toNat_pos
  rw [List.length_drop]
  omega

/-- The native calls of one chunk. -/
def chunkCalls (vectorSize : Vector.VectorSize) (rows : List Row) : List NativeCall :=
  if rows.length ≤ vectorSize.val.toNat then [.appendDataChunk rows]
  else (batches vectorSize rows).map .appendDataChunk

/-- `duckdb_appender_append_chunk`, with the rows of its chunk or the failure to import them. -/
def duckdbAppenderAppendChunk (setting : Setting Env)
    (chunk : Except (Option Thrown) (List Row)) (state : State) : State × Outcome :=
  match duckdbAppenderGet setting state with
  | .error thrown => state.refuse thrown
  | .ok () =>
    if state.rowOpen then state.refuse rowAlreadyOpen
    else
      match duckdbAppenderEnterWrite setting with
      | .error (reason, thrown) => (state, .threw reason (some thrown))
      | .ok () =>
        match chunk with
        | .error failure => (state, .threw .conversion failure)
        | .ok rows => state.submit setting.native (chunkCalls setting.vectorSize rows)

/-- `Appender::clear`: the one method that a failed appender accepts. -/
def clear (setting : Setting Env) (state : State) : State × Outcome :=
  match duckdbInitializedGuard setting.access "DuckDB\\Appender" with
  | .error thrown => state.refuse thrown
  | .ok () =>
    if state.closed then state.refuse appenderClosed
    else
      match do duckdbConnectionGuard setting.access; duckdbConnEnter setting.access with
      | .error thrown => state.refuse thrown
      | .ok () =>
        match state.submit setting.native [.clear] with
        | (next, .returned) => ({ next with rowOpen := false, failed := false }, .returned)
        | threw => threw

/-- `Appender::close`: writes what is buffered and closes the appender; of a failed one the buffers
are discarded. -/
def close (setting : Setting Env) (state : State) : State × Outcome :=
  match duckdbInitializedGuard setting.access "DuckDB\\Appender" with
  | .error thrown => state.refuse thrown
  | .ok () =>
    if state.closed then (state, .returned)
    else if !state.failed then
      match duckdbAppenderEnterWrite setting with
      | .error (reason, thrown) => (state, .threw reason (some thrown))
      | .ok () => { state with closed := true, rowOpen := false }.submit setting.native [.close]
    else
      -- A failed appender is closed even when its buffers cannot be discarded now.
      let state := { state with closed := true, rowOpen := false }
      match duckdbConnEnter setting.access with
      | .error thrown => state.refuse thrown
      | .ok () => state.submit setting.native [.clear]

/-- A method call on an appender, with its arguments. -/
inductive Method
  | beginRow
  | append (value : Zval)
  | appendDefault
  | endRow
  | appendRow (values : Elements)
  | flush
  /-- `appendChunk` or `appendArrow`. -/
  | appendChunk (chunk : Except (Option Thrown) (List Row))
  | clear
  | close

/-- A method call on an appender. -/
def call (setting : Setting Env) (state : State) : Method → State × Outcome
  | .beginRow => beginRow setting state
  | .append value => append database setting value state
  | .appendDefault => appendDefault setting state
  | .endRow => endRow setting state
  | .appendRow values => appendRow database setting values state
  | .flush => flush setting state
  | .appendChunk chunk => duckdbAppenderAppendChunk setting chunk state
  | .clear => clear setting state
  | .close => close setting state

/-! ## Destruction -/

/-- The cleanup of `~appender_inner`: what it calls, by the errors of its calls. -/
def cleanup (native : Nat → Option Thrown) (wasFailed flush : Bool) : List Entry :=
  (if wasFailed then [⟨.clear, (native 0).isNone⟩] else []) ++
  (if flush then
    if (native 1).isNone then [⟨.close, true⟩]
    else [⟨.close, false⟩, ⟨.clear, (native 2).isNone⟩]
  else []) ++
  [⟨.destroy, true⟩]

/-- One step of an appender's life. -/
inductive Event (Env : Type)
  /-- A method call on the live object. -/
  | call (method : Method) (setting : Setting Env)
  /-- The object is destroyed, inside a PHP handler of its connection or not. -/
  | destruct (busy : Bool) (native : Nat → Option Thrown)
  /-- Deferred cleanup runs. -/
  | drain (native : Nat → Option Thrown)

/-- A method call, the destruction of the object or its deferred cleanup. -/
def step (state : State) : Event Env → Option State
  | .call method setting =>
    if state.lifecycle = .live then some (call database setting state method).1 else none
  | .destruct busy native =>
    if state.lifecycle = .live then
      let wasFailed := state.failed
      let flush := !state.closed && !state.failed
      if busy then some { state with lifecycle := .deferred wasFailed flush }
      else some { state with
        lifecycle := .destroyed, log := state.log ++ cleanup native wasFailed flush }
    else none
  | .drain native =>
    match state.lifecycle with
    | .deferred wasFailed flush =>
      some { state with
        lifecycle := .destroyed, log := state.log ++ cleanup native wasFailed flush }
    | _ => none

/-- The machine of one appender: method calls, the destruction and the deferred cleanup. -/
def appender : Machine State (Event Env) := ⟨step database⟩

end Calls

end PhpDuckdb.Appender
