import PhpDuckdb.Connection.Errors
import PhpDuckdb.Lib.Ownership

/-!
# Pending queries

An asynchronous query runs on a worker thread, with or without a prepared statement, or step by
step on the request thread. The task owns the native result until one `await` hands it to a
`Result`; the native pending handle of a polled query belongs to its open-result record. PHP
handlers of the connection may run between the steps, and refuse the methods.
-/

namespace PhpDuckdb.PendingQuery

open SqlText Connection Ownership

/-- `task_mode`: whether a thread runs the query, a thread runs a statement, or PHP polls. -/
inductive Mode
  | threadQuery
  | threadPrepared
  | polling
  deriving DecidableEq, Repr

/-- The native handles of a task. -/
inductive Handle
  | pending
  | result
  /-- The result of a query that is discarded. -/
  | discarded
  /-- `owned_stmt`. -/
  | statement
  deriving DecidableEq, Repr

/-- A call on a native handle. -/
inductive Call
  | create (handle : Handle)
  | touch (handle : Handle)
  | destroy (handle : Handle)
  /-- A result goes to a `Result`, or a statement to `duckdb_conn_destroy_prepare`. -/
  | hand (handle : Handle)
  deriving DecidableEq, Repr

/-- The task gives up a handle by destroying it or by handing it on. -/
def Call.use : Call → Use Handle
  | .create handle => .create handle
  | .touch handle => .touch handle
  | .destroy handle | .hand handle => .destroy handle

/-- The open-result record of a polled query. -/
structure Record where
  /-- It has a callback session, so its steps are leases. -/
  session : Bool
  /-- `pending` is not null. -/
  pending : Bool
  deriving DecidableEq, Repr

/-- `async_task`: the flags and the error that the threads of a task share. -/
structure Task where
  /-- `mode`. -/
  mode : Mode
  /-- `done`. -/
  done : Bool
  /-- `cancel_requested`. -/
  cancelRequested : Bool
  /-- `worker_running`. -/
  workerRunning : Bool
  /-- `error`. -/
  error : Bool
  /-- `consumed`. -/
  consumed : Bool
  /-- `error_type` and `error_msg`. -/
  nativeError : NativeError
  /-- `result` holds a native result. -/
  result : Bool
  /-- `record`. -/
  record : Option Record
  /-- `owned_stmt` is not null. -/
  ownedStmt : Bool
  deriving DecidableEq, Repr

/-- What the destructor of a task leaves to clean up. -/
structure Cleanup where
  /-- `owned_record`. -/
  record : Option Record
  /-- `destroy_result`. -/
  destroyResult : Bool
  /-- `owned_result` holds a native result. -/
  result : Bool
  /-- `statement` is not null. -/
  statement : Bool
  deriving DecidableEq, Repr

/-- Where the worker of a task is. -/
inductive Worker
  /-- A polled query has none. -/
  | absent
  /-- It waits for the connection's mutex. -/
  | queued
  /-- It has the mutex and read `cancel_requested`. -/
  | entered (cancelled : Bool)
  /-- The outcome is recorded. -/
  | executed
  /-- A failed result is destroyed. -/
  | cleaned
  /-- `done` is set. -/
  | published
  /-- It gave its reference up. -/
  | gone
  deriving DecidableEq, Repr

/-- The method of `PendingQuery` that runs on the request thread. -/
inductive Method
  | isReady
  | await
  deriving DecidableEq, Repr

/-- What an `await` does once the task is done. -/
inductive Await
  /-- It returns a `Result`. -/
  | returned
  /-- `duckdb_throw_error` with the error of the task. -/
  | failed (error : NativeError)
  /-- It throws that the result has already been consumed. -/
  | consumed
  /-- It throws that the connection is busy executing a handler. -/
  | refused
  deriving DecidableEq, Repr

/-- A task and its surroundings: worker, PHP object, handlers and native handles. -/
structure State where
  /-- The task. -/
  task : Task
  /-- Its worker. -/
  worker : Worker
  /-- The PHP object lives. -/
  object : Bool
  /-- Its method that is running. -/
  method : Option Method
  /-- `handler_depth` of the connection. -/
  handlerDepth : Nat
  /-- The deferred cleanup of the task. -/
  cleanup : Option Cleanup
  /-- The calls on native handles. -/
  log : List Call
  /-- What each `await` did. -/
  awaits : List Await
  deriving DecidableEq, Repr

/-- A new task, which its `PendingQuery` was made for. A polled query has its prepared statement
and its record. -/
def State.fresh (mode : Mode) (session : Bool) : State where
  task :=
    { mode
      done := false
      cancelRequested := false
      workerRunning := false
      error := false
      consumed := false
      nativeError := ⟨.invalid, []⟩
      result := false
      record := if mode = .polling then some ⟨session, true⟩ else none
      ownedStmt := mode = .polling }
  worker := if mode = .polling then .absent else .queued
  object := true
  method := none
  handlerDepth := 0
  cleanup := none
  log := if mode = .polling then [.create .statement, .create .pending] else []
  awaits := []

/-- `duckdb_conn_busy_here`: a handler runs on the request thread. -/
def State.busyHere (state : State) : Bool := state.handlerDepth ≠ 0

/-- The state with more calls on native handles in its log. -/
def State.call (state : State) (calls : List Call) : State :=
  { state with log := state.log ++ calls }

/-- The error of a query that was cancelled. -/
def interrupted : NativeError := ⟨.interrupt, lit "Query interrupted"⟩

/-- What executing a query gives: on failure too there may be a native result. -/
inductive Executed
  | succeeded
  | failed (result : Bool) (type : ErrorType) (message : Option Bytes)
  deriving DecidableEq, Repr

/-- The execution left a native result, also when it failed. -/
def Executed.result : Executed → Bool
  | .succeeded => true
  | .failed result _ _ => result

/-- Executing a query creates its native result. -/
def Executed.calls (executed : Executed) : List Call :=
  if executed.result then [.create .result] else []

/-- `duckdb_destroy_result` of the task's own result. -/
def destroyResult (state : State) : State :=
  if state.task.result then
    { state.call [.destroy .result] with task := { state.task with result := false } }
  else state

/-- `duckdb_discard_pending`; executing the query may give a native result to destroy. -/
def discardPending (result : Bool) : List Call :=
  [.touch .pending, .touch .pending] ++
    (if result then [.create .discarded, .destroy .discarded] else []) ++ [.destroy .pending]

/-- `duckdb_open_result_destroy`: the calls that give up the record of a pending query. -/
def openResultDestroy (record : Record) (result : Bool) : List Call :=
  if record.pending then discardPending result else []

/-- `duckdb_task_finish_pending`: records how the execution ended and gives up the pending result.
-/
def taskFinishPending (state : State) (executed : Executed) : State :=
  let recorded := match executed with
    | .succeeded => state.task
    | .failed _ type message =>
      { state.task with
        error := true
        nativeError := ⟨type, orFallback message (lit "Query execution failed")⟩ }
  let drained :=
    { state.call [.destroy .pending] with task := { recorded with record := none } }
  if drained.task.error then
    let cleared := destroyResult drained
    { cleared with task := { cleared.task with consumed := true } }
  else drained

/-- What a step of a polled query gives. -/
inductive Stepped
  /-- The lease was refused. -/
  | refused (message : Bytes) (result : Bool)
  | notReady
  /-- The query is ready or failed, and was executed. -/
  | executed (outcome : Executed)
  deriving DecidableEq, Repr

/-- `duckdb_task_step_once` of a polled query with a record. -/
def taskStepOnce (state : State) (record : Record) : Stepped → Option State
  | .refused message result =>
    if record.session then
      let task :=
        { state.task with
          error := true
          nativeError := ⟨.internal, message⟩
          consumed := true
          record := none
          done := true }
      some { state.call (openResultDestroy record result) with task }
    else none
  | .notReady => some (state.call [.touch .pending])
  | .executed outcome =>
    let ran := state.call ([.touch .pending, .touch .pending] ++ outcome.calls)
    let finished :=
      taskFinishPending { ran with task := { ran.task with result := outcome.result } } outcome
    some { finished with task := { finished.task with done := true } }

/-- `duckdb_pending_complete`: what `await()` answers once a task is done. -/
def pendingComplete (state : State) : State :=
  if state.task.error then
    { state with awaits := state.awaits ++ [.failed state.task.nativeError] }
  else if state.task.consumed then { state with awaits := state.awaits ++ [.consumed] }
  else
    { state.call [.hand .result] with
      task := { state.task with consumed := true, result := false }
      awaits := state.awaits ++ [.returned] }

/-- `duckdb_task_cancel`; the cancellation thread may fail to start. -/
def taskCancel (state : State) (starts result : Bool) : State :=
  if state.task.done then state
  else if state.task.mode = .polling then
    let destroyed := match state.task.record with
      | some record =>
        { state.call (openResultDestroy record result) with
          task := { state.task with record := none } }
      | none => state
    let cleared := destroyResult destroyed
    let task :=
      { cleared.task with consumed := true, error := true, nativeError := interrupted, done := true }
    { cleared with task }
  else if state.task.cancelRequested then state
  else if starts then { state with task := { state.task with cancelRequested := true } }
  else state

/-- The state after the cleanup of a task, which gives up what the task still owns. -/
def runCleanup (state : State) (cleanup : Cleanup) (result : Bool) : State :=
  state.call ((cleanup.record.elim [] fun record => openResultDestroy record result) ++
    (if cleanup.destroyResult && cleanup.result then [.destroy .result] else []) ++
    if cleanup.statement then [.destroy .statement] else [])

/-- `~async_task`; in a handler of the connection its cleanup is deferred. -/
def destruct (state : State) (inHandler result : Bool) : State :=
  if state.task.record.isSome || !state.task.consumed then
    let cleanup : Cleanup :=
      ⟨state.task.record, !state.task.consumed, state.task.result, state.task.ownedStmt⟩
    let task :=
      { state.task with record := none, result := false, consumed := true, ownedStmt := false }
    if inHandler then { state with task, cleanup := some cleanup }
    else runCleanup { state with task } cleanup result
  else if state.task.ownedStmt then
    { state.call [.hand .statement] with task := { state.task with ownedStmt := false } }
  else state

/-- One step of the worker, of the request thread or of the connection. -/
inductive Event
  /-- The worker takes the connection's mutex and reads `cancel_requested`. -/
  | workerEnter
  /-- It executes the query, unless it was cancelled. -/
  | workerExecute (outcome : Executed)
  /-- It destroys a failed result. -/
  | workerClean
  /-- It publishes the completion. -/
  | workerPublish
  /-- It gives its reference up; that may destroy the task. -/
  | workerGone (result : Bool)
  /-- `PendingQuery::isReady()` is called. -/
  | isReady
  /-- `PendingQuery::await()` is called. -/
  | await
  /-- `PendingQuery::cancel()` is called. -/
  | cancel (starts result : Bool)
  /-- The running method steps a polled query; PHP may be unwinding then. -/
  | step (outcome : Stepped) (unwinding : Bool)
  /-- `await` sees the completion. -/
  | complete
  /-- A PHP handler of the connection starts. -/
  | enter
  /-- It returns. -/
  | leave
  /-- The PHP object is destroyed; that may destroy the task. -/
  | release (result : Bool)
  /-- The deferred cleanup runs. -/
  | drain (result : Bool)
  deriving DecidableEq, Repr

/-- What a worker records of the execution of its query. -/
def workerExecute (state : State) : Executed → State
  | .succeeded =>
    { state.call [.create .result] with
      task := { state.task with result := true }
      worker := .executed }
  | .failed result type message =>
    { state.call (if result then [.create .result] else []) with
      task := { state.task with
        result
        error := true
        nativeError := resultError type message }
      worker := .executed }

/-- One step. A method keeps its own object, and a busy connection refuses it. -/
def step (state : State) : Event → Option State
  | .workerEnter =>
    if state.worker = .queued then
      let cancelled := state.task.cancelRequested
      some { state with
        task := { state.task with workerRunning := !cancelled }
        worker := .entered cancelled }
    else none
  | .workerExecute outcome =>
    match state.worker with
    | .entered cancelled =>
      if cancelled then
        some { state with
          task := { state.task with error := true, nativeError := interrupted }
          worker := .executed }
      else some (workerExecute state outcome)
    | _ => none
  | .workerClean =>
    if state.worker = .executed then
      if state.task.error then
        let cleared := destroyResult state
        some { cleared with task := { cleared.task with consumed := true }, worker := .cleaned }
      else some { state with worker := .cleaned }
    else none
  | .workerPublish =>
    if state.worker = .cleaned then
      some { state with
        task := { state.task with workerRunning := false, done := true }
        worker := .published }
    else none
  | .workerGone result =>
    if state.worker = .published then
      let gone := { state with worker := .gone }
      some (if state.object then gone else destruct gone false result)
    else none
  | .isReady =>
    if !state.object then none
    else if state.busyHere then some state
    else if state.method ≠ none then none
    else if state.task.record.isSome then some { state with method := some .isReady }
    else some state
  | .await =>
    if !state.object then none
    else if state.busyHere then some { state with awaits := state.awaits ++ [.refused] }
    else if state.method ≠ none then none
    else some { state with method := some .await }
  | .cancel starts result =>
    if !state.object then none
    else if state.busyHere then some state
    else if state.method ≠ none then none
    else some (taskCancel state starts result)
  | .step outcome unwinding =>
    if state.busyHere then none
    else
      match state.method, state.task.record with
      | some method, some record =>
        (taskStepOnce state record outcome).map fun next =>
          if method = .isReady && (next.task.done || !unwinding) then { next with method := none }
          else next
      | _, _ => none
  | .complete =>
    if state.method = some .await ∧ !state.busyHere ∧ state.task.done then
      some { pendingComplete state with method := none }
    else none
  | .enter => some { state with handlerDepth := state.handlerDepth + 1 }
  | .leave =>
    if state.busyHere then some { state with handlerDepth := state.handlerDepth - 1 } else none
  | .release result =>
    if !state.object ∨ state.method ≠ none then none
    else
      let released := { state with object := false }
      some (if state.worker = .absent ∨ state.worker = .gone then
        destruct released state.busyHere result else released)
  | .drain result =>
    match state.cleanup with
    | some cleanup =>
      if state.busyHere then none
      else some { runCleanup state cleanup result with cleanup := none }
    | none => none

/-- The machine of one task, from its creation to its destruction. -/
def pendingQuery : Machine State Event := ⟨step⟩

end PhpDuckdb.PendingQuery
