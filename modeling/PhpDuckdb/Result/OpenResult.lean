import PhpDuckdb.Lib.Machine
import PhpDuckdb.Lib.OrderedTable
import PhpDuckdb.Lib.Ownership

/-!
# Open results of a connection

While a streaming or a pending result is open, DuckDB refuses new statements, so the connection
registers it. Its record is shared with a PHP object, and whoever finishes it first, under the
connection's mutex, destroys the native handle. PHP handlers run while the mutex is held; what
they release is deferred. The record's number names its native handle.
-/

namespace PhpDuckdb.OpenResult

open OrderedTable Ownership

/-- What a record stands for: a stream or a pending query. -/
inductive Kind
  | stream
  | pending
  deriving DecidableEq, Repr

/-- `open_result_state`: where a registered result is between its creation and its release. -/
inductive Lifecycle
  /-- Registered; the native handle is live. -/
  | opened
  /-- A fetch failed; still registered. -/
  | errored
  /-- Finished cleanly and unregistered. -/
  | drained
  /-- Released. -/
  | destroyed
  deriving DecidableEq, Repr

/-- `open_result`, with what its PHP owner keeps about it. -/
structure Record where
  /-- What it is of. -/
  kind : Kind
  /-- The thread of its PHP owner. -/
  thread : Nat
  /-- It has a callback session, so its native calls run as leases. -/
  session : Bool
  /-- `state`. -/
  state : Lifecycle
  /-- `streaming`, or `pending` is not null. -/
  native : Bool
  /-- The owner's `record` points to it. -/
  owned : Bool
  /-- `result_data::exhausted`. -/
  exhausted : Bool
  deriving DecidableEq, Repr

/-- What a thread takes the mutex for. -/
inductive Action
  /-- `queryStreaming`, `executeStreaming` or `queryPending`. -/
  | start (kind : Kind) (session : Bool)
  /-- `duckdb_result_fetch_stream_chunk`. -/
  | fetch (record : Nat)
  /-- `duckdb_task_step_once` of a task with a record. -/
  | step (record : Nat)
  /-- `duckdb_task_cancel` of such a task. -/
  | cancel (record : Nat)
  /-- Cleanups, of an owner's destructor or of a drain. -/
  | destroy (records : List Nat)
  /-- Anything else, on a worker or on a request thread. -/
  | other
  deriving DecidableEq, Repr

/-- Where a thread is in its use of the records. -/
inductive Op
  | idle
  /-- It waits for the mutex. -/
  | entering (action : Action)
  /-- It holds the mutex. -/
  | locked (action : Action)
  /-- A step is over, and the record's session ends: with an outcome, or with a refused lease. -/
  | settling (record : Nat) (executed : Bool)
  /-- A stream ended, by an error or drained, and its session ends. -/
  | leaving (record : Nat) (drained : Bool)
  deriving DecidableEq, Repr

/-- A call on a native handle, by the thread that made it and the holder of the mutex then. -/
structure NativeCall where
  /-- The thread. -/
  thread : Nat
  /-- The holder of the mutex. -/
  mutex : Option Nat
  /-- The call. -/
  use : Use Nat
  deriving DecidableEq, Repr

/-- A connection with its results, its threads and its mutex. -/
structure State where
  /-- The records by their numbers. -/
  records : Nat → Option Record
  /-- How many numbers were given. -/
  count : Nat
  /-- `open_results`. -/
  registry : List Nat
  /-- The holder of `mutex`. -/
  mutex : Option Nat
  /-- `handler_depth`. -/
  handlerDepth : Nat
  /-- `handler_thread`. -/
  handlerThread : Nat
  /-- Where each thread is. -/
  ops : List (Nat × Op)
  /-- The records whose release is deferred. -/
  deferred : List Nat
  /-- The calls on native handles. -/
  log : List NativeCall
  /-- The destructor of the connection was entered. -/
  destructing : Bool

/-- A new connection, on which no result is open. -/
def State.fresh : State := ⟨fun _ => none, 0, [], none, 0, 0, [], [], [], false⟩

/-- Where a thread is in a state. -/
def State.op (state : State) (thread : Nat) : Op := lookup .idle thread state.ops

/-- The state with a thread at another place. -/
def State.setOp (state : State) (thread : Nat) (op : Op) : State :=
  { state with ops := update thread op state.ops }

/-- `duckdb_conn_busy_here`: a handler runs on the thread that asks. -/
def State.busyHere (state : State) (thread : Nat) : Bool :=
  state.handlerDepth ≠ 0 && state.handlerThread = thread

/-- Change the record of a result. -/
def State.setRecord (state : State) (id : Nat) (record : Record) : State :=
  { state with records := Function.update state.records id (some record) }

/-- A thread calls DuckDB on a native handle. -/
def State.call (state : State) (thread : Nat) (use : Use Nat) : State :=
  { state with log := state.log ++ [⟨thread, state.mutex, use⟩] }

/-- The state after a thread releases the mutex. -/
def State.unlock (state : State) (thread : Nat) : State :=
  { state.setOp thread .idle with mutex := none }

/-- `duckdb_open_result_unregister`: takes a result out of the connection's list. -/
def unregister (state : State) (id : Nat) : State :=
  { state with registry := state.registry.filter fun entry => entry ≠ id }

/-- `duckdb_open_result_stream` and `duckdb_open_result_pending`: a new record in the registry. -/
def register (state : State) (thread : Nat) (kind : Kind) (session : Bool) : State :=
  let created := state.call thread (.create state.count)
  { created.setRecord state.count ⟨kind, thread, session, .opened, true, true, false⟩ with
    count := state.count + 1
    registry := state.registry ++ [state.count] }

/-- `duckdb_open_result_release`: a handle is destroyed unless it is gone already. A pending query
is executed first. -/
def release (state : State) (thread id : Nat) (record : Record) : State :=
  if record.native then
    let used := match record.kind with
      | .pending => state.call thread (.touch id)
      | .stream => state
    (used.call thread (.destroy id)).setRecord id { record with native := false }
  else state.setRecord id record

/-- `duckdb_open_result_destroy`: releases the native handle of a result and unregisters it. -/
def openResultDestroy (state : State) (thread id : Nat) (record : Record) : State :=
  unregister (release state thread id { record with state := .destroyed }) id

/-- `duckdb_open_result_drained`: unregisters a stream that was read to its end. -/
def openResultDrained (state : State) (id : Nat) (record : Record) : State :=
  unregister (state.setRecord id { record with state := .drained }) id

/-- `duckdb_task_finish_pending`, after `duckdb_execute_pending`: the pending handle is given up. -/
def taskFinishPending (state : State) (thread id : Nat) (record : Record) : State :=
  openResultDrained ((state.call thread (.touch id)).call thread (.destroy id)) id
    { record with native := false, owned := false }

/-- What starting a statement gives: a result, or a failure with or without a handle. -/
inductive Started
  | opened
  /-- It failed; a pending handle may hold the error. -/
  | failed (handle : Bool)
  deriving DecidableEq, Repr

/-- What the fetch of a chunk gives to the thread that asks. -/
inductive Fetched
  /-- The lease was refused. -/
  | refused
  | chunk
  | failed
  /-- No more rows. -/
  | ended
  deriving DecidableEq, Repr

/-- What one step of a polled query gives to the thread that asks. -/
inductive Stepped
  /-- The lease was refused. -/
  | refused
  | notReady
  /-- The query is ready or failed. -/
  | executed
  deriving DecidableEq, Repr

/-- One step of a thread that uses the connection's results. -/
inductive Event
  /-- A thread begins to start a statement, or to do anything else under the mutex. -/
  | begin (thread : Nat) (action : Action)
  /-- A PHP owner of a record is destroyed. -/
  | release (thread record : Nat)
  /-- A thread gets the mutex. -/
  | lock (thread : Nat)
  /-- The statement of a thread starts or does not. -/
  | started (thread : Nat) (outcome : Started)
  /-- The fetch of a thread returns. -/
  | fetched (thread : Nat) (outcome : Fetched)
  /-- The step of a thread returns. -/
  | stepped (thread : Nat) (outcome : Stepped)
  /-- The rest of a thread's critical section. -/
  | settle (thread : Nat)
  /-- A thread enters a PHP handler. -/
  | enter (thread : Nat)
  /-- It leaves the handler. -/
  | leave (thread : Nat)
  /-- A thread takes the deferred cleanups. -/
  | drain (thread : Nat)
  /-- The last reference goes, and the destructor runs. -/
  | destruct (thread : Nat)
  deriving DecidableEq, Repr

/-- A thread may begin an action: a fetch of a stream that is not exhausted, or a step or a cancel
of a task that still has its record, by the owner's thread. -/
def State.Begins (state : State) (thread : Nat) : Action → Prop
  | .start _ _ | .other => True
  | .fetch id => ∃ record ∈ state.records id,
    record.kind = .stream ∧ record.thread = thread ∧ record.owned ∧ !record.exhausted
  | .step id | .cancel id => ∃ record ∈ state.records id,
    record.kind = .pending ∧ record.thread = thread ∧ record.owned
  | .destroy _ => False

instance (state : State) (thread : Nat) (action : Action) :
    Decidable (state.Begins thread action) := by
  cases action <;> simp only [State.Begins] <;> infer_instance

/-- The record that a thread works on. -/
def Op.record? : Op → Option Nat
  | .entering (.fetch id) | .entering (.step id) | .entering (.cancel id)
  | .locked (.fetch id) | .locked (.step id) | .locked (.cancel id)
  | .settling id _ | .leaving id _ => some id
  | _ => none

/-- A thread waits for the mutex. -/
def Op.waits : Op → Bool
  | .entering _ => true
  | _ => false

/-- An owner is destroyed: in a handler its cleanup is deferred, else it waits for the mutex. A
method that runs keeps its own object. -/
def releaseOwner (state : State) (thread id : Nat) (record : Record) : Option State :=
  if record.thread ≠ thread ∨ !record.owned ∨ (state.op thread).record? = some id then none
  else
    let disowned := state.setRecord id { record with owned := false }
    if state.busyHere thread then some { disowned with deferred := state.deferred ++ [id] }
    else if state.op thread = .idle then
      some (disowned.setOp thread (.entering (.destroy [id])))
    else none

/-- One step in a critical section after its native call. -/
def settle (state : State) (thread : Nat) : Op → Option State
  | .locked (.cancel id) =>
    (state.records id).map fun record =>
      (openResultDestroy state thread id { record with owned := false }).unlock thread
  | .locked (.destroy []) => some (state.unlock thread)
  | .locked (.destroy (id :: rest)) =>
    (state.records id).map fun record =>
      (openResultDestroy state thread id record).setOp thread (.locked (.destroy rest))
  | .locked .other => some (state.unlock thread)
  | .settling id executed =>
    (state.records id).map fun record =>
      if executed then (taskFinishPending state thread id record).unlock thread
      else (openResultDestroy state thread id { record with owned := false }).unlock thread
  | .leaving id drained =>
    (state.records id).map fun record =>
      if drained then (state.setRecord id { record with exhausted := true }).unlock thread
      else state.unlock thread
  | _ => none

/-- The fetch of a thread: a failed stream only repeats its error. -/
def fetched (state : State) (thread id : Nat) (record : Record) (outcome : Fetched) :
    Option State :=
  if record.state = .errored then some (state.unlock thread)
  else
    match outcome with
    | .refused => if record.session then some (state.unlock thread) else none
    | .chunk => some ((state.call thread (.touch id)).unlock thread)
    | .failed =>
      some (((state.call thread (.touch id)).setRecord id
        { record with state := .errored }).setOp thread (.leaving id false))
    | .ended =>
      some ((openResultDrained (state.call thread (.touch id)) id record).setOp thread
        (.leaving id true))

/-- What a thread does after a step of a polled query. -/
def stepped (state : State) (thread id : Nat) (record : Record) (outcome : Stepped) :
    Option State :=
  match outcome with
  | .refused => if record.session then some (state.setOp thread (.settling id false)) else none
  | .notReady => some ((state.call thread (.touch id)).unlock thread)
  | .executed =>
    some ((state.call thread (.touch id)).setOp thread (.settling id true))

/-- `~conn_inner` locks the mutex and runs what is deferred. -/
def destruct (state : State) (thread : Nat) : State :=
  { state.setOp thread (.locked (.destroy state.deferred)) with
    mutex := some thread
    deferred := []
    destructing := true }

/-- One step. The owners of records and the threads that are not idle hold references to the
connection; so does the deferred cleanup of a stream, through its statement. -/
def step (state : State) (event : Event) : Option State :=
  if state.destructing then
    match event with
    | .settle thread => settle state thread (state.op thread)
    | _ => none
  else
    match event with
    | .begin thread action =>
      if state.op thread ≠ .idle ∨ state.busyHere thread ∨ ¬state.Begins thread action then none
      else some (state.setOp thread (.entering action))
    | .release thread id =>
      (state.records id).bind fun record => releaseOwner state thread id record
    | .lock thread =>
      match state.op thread, state.mutex with
      | .entering action, none =>
        some { state.setOp thread (.locked action) with mutex := some thread }
      | _, _ => none
    | .started thread outcome =>
      match state.op thread with
      | .locked (.start kind session) =>
        match outcome with
        | .opened => some ((register state thread kind session).unlock thread)
        | .failed handle =>
          if handle then
            some { ((state.call thread (.create state.count)).call thread
              (.destroy state.count)).unlock thread with count := state.count + 1 }
          else some (state.unlock thread)
      | _ => none
    | .fetched thread outcome =>
      match state.op thread with
      | .locked (.fetch id) =>
        (state.records id).bind fun record => fetched state thread id record outcome
      | _ => none
    | .stepped thread outcome =>
      match state.op thread with
      | .locked (.step id) =>
        (state.records id).bind fun record => stepped state thread id record outcome
      | _ => none
    | .settle thread => settle state thread (state.op thread)
    | .enter thread =>
      if (state.handlerDepth ≠ 0 ∧ state.handlerThread ≠ thread) ∨
          (state.op thread).waits then none
      else some { state with handlerDepth := state.handlerDepth + 1, handlerThread := thread }
    | .leave thread =>
      if state.busyHere thread then some { state with handlerDepth := state.handlerDepth - 1 }
      else none
    | .drain thread =>
      if state.op thread ≠ .idle ∨ state.busyHere thread then none
      else
        some { state.setOp thread (.entering (.destroy state.deferred)) with deferred := [] }
    | .destruct thread =>
      if state.mutex = none ∧ state.handlerDepth = 0 ∧ (∀ entry ∈ state.ops, entry.2 = .idle) ∧
          (∀ id < state.count, ∀ record ∈ state.records id,
            !record.owned ∧ (id ∈ state.deferred → record.kind = .pending)) then
        some (destruct state thread)
      else none

/-- The machine of one connection's open results. -/
def registry : Machine State Event := ⟨step⟩

end PhpDuckdb.OpenResult
