import PhpDuckdb.Lib.Machine
import PhpDuckdb.Lib.OrderedTable

/-!
# Releasing prepared statements

A prepared statement is destroyed at once only when neither a worker of its connection is counted
nor the calling thread runs a PHP handler of it. Otherwise it waits in `worker_prepares` for the
last worker, or among the connection's deferred cleanups for a drain or for the connection's
destructor. Threads interleave between the steps of a release; the connection's mutex, which the
cleanups also take, only delays them and is left out.
-/

namespace PhpDuckdb.Release

open OrderedTable

/-- A cleanup that waits for a handler to return. -/
inductive Cleanup
  /-- The destruction of a prepared statement. -/
  | prepare (statement : Nat)
  /-- Another native cleanup. -/
  | other
  deriving DecidableEq, Repr

/-- The statement that a cleanup destroys. -/
def Cleanup.statement? : Cleanup → Option Nat
  | .prepare statement => some statement
  | .other => none

/-- What a thread is in the middle of. -/
inductive Op
  | idle
  /-- It called `duckdb_conn_destroy_prepare`. -/
  | releasing (statement : Nat)
  /-- It found no worker, when so many workers had begun. -/
  | unqueued (statement begun : Nat)
  /-- It found itself in a handler. -/
  | deferring (statement : Nat)
  /-- It found neither. -/
  | destroying (statement begun : Nat)
  /-- It ended the last worker and destroys what was queued. -/
  | ending (released : List Nat)
  /-- It runs the deferred cleanups that it took. -/
  | draining (work : List (Nat × Cleanup))
  deriving DecidableEq, Repr

/-- The statements that a thread is about to destroy or to pass on. -/
def Op.statements : Op → List Nat
  | .idle => []
  | .releasing statement | .unqueued statement _ | .deferring statement
  | .destroying statement _ => [statement]
  | .ending released => released
  | .draining work => work.filterMap fun item => item.2.statement?

/-- The deferred cleanups that a thread is about to run. -/
def Op.work : Op → List Nat
  | .draining work => work.map Prod.fst
  | _ => []

/-- A connection and the threads that use it. Deferred cleanups are numbered. -/
structure State where
  /-- `workers`. -/
  workers : Nat
  /-- How many workers were counted so far. -/
  begun : Nat
  /-- `worker_prepares`. -/
  workerPrepares : List Nat
  /-- `deferred`. -/
  deferred : List (Nat × Cleanup)
  /-- `handler_depth`. -/
  handlerDepth : Nat
  /-- `handler_thread`. -/
  handlerThread : Nat
  /-- What each thread is in the middle of. -/
  ops : List (Nat × Op)
  /-- The threads whose `duckdb_deferred_connections` names the connection. -/
  deferredConnections : List Nat
  /-- The statements handed to `duckdb_conn_destroy_prepare`. -/
  handed : List Nat
  /-- How many cleanups were deferred. -/
  tickets : Nat
  /-- The calls of `duckdb_destroy_prepare`. -/
  destroyed : List Nat
  /-- The deferred cleanups that ran. -/
  ran : List Nat
  /-- The connection is not destroyed. -/
  alive : Bool
  deriving DecidableEq, Repr

/-- A new connection, on which nothing was prepared. -/
def State.fresh : State := ⟨0, 0, [], [], 0, 0, [], [], [], 0, [], [], true⟩

/-- What a thread is in the middle of. -/
def State.op (state : State) (thread : Nat) : Op := lookup .idle thread state.ops

/-- A thread goes on to something else. -/
def State.setOp (state : State) (thread : Nat) (op : Op) : State :=
  { state with ops := update thread op state.ops }

/-- `duckdb_conn_busy_here`: a handler runs on the thread that asks. -/
def State.busyHere (state : State) (thread : Nat) : Bool :=
  state.handlerDepth ≠ 0 && state.handlerThread = thread

/-- One step of a thread that uses or destroys the connection's statements. -/
inductive Event
  /-- `duckdb_conn_worker_begin`. -/
  | workerBegin
  /-- `duckdb_conn_worker_end` up to the end of its critical section. -/
  | workerEnd (thread : Nat)
  /-- `duckdb_conn_destroy_prepare` is called. -/
  | release (thread statement : Nat)
  /-- `duckdb_conn_cleanup` is called with other work. -/
  | cleanup (thread : Nat)
  /-- The next step of what the thread is in the middle of. -/
  | advance (thread : Nat)
  /-- The thread enters a PHP handler of the connection. -/
  | enter (thread : Nat)
  /-- It leaves the handler. -/
  | leave (thread : Nat)
  /-- `duckdb_drain_deferred_connections` comes to the connection. -/
  | drain (thread : Nat)
  /-- The last reference goes, and the destructor runs. -/
  | destruct
  deriving DecidableEq, Repr

/-- `duckdb_conn_cleanup` in a handler: defer the work and list the connection. -/
def State.defer (state : State) (thread : Nat) (cleanup : Cleanup) : State :=
  { state with
    deferred := state.deferred ++ [(state.tickets, cleanup)]
    tickets := state.tickets + 1
    deferredConnections := state.deferredConnections ++ [thread] }

/-- The state after a deferred cleanup, which destroys its statements. -/
def State.runCleanup (state : State) (ticket : Nat) (cleanup : Cleanup) : State :=
  { state with
    destroyed := state.destroyed ++ cleanup.statement?.toList
    ran := state.ran ++ [ticket] }

/-- The next step of what a thread is in the middle of. -/
def advance (state : State) (thread : Nat) : Op → Option State
  | .idle => none
  | .releasing statement =>
    if state.workers > 0 then
      some { state.setOp thread .idle with
        workerPrepares := state.workerPrepares ++ [statement] }
    else some (state.setOp thread (.unqueued statement state.begun))
  | .unqueued statement begun =>
    if state.busyHere thread then some (state.setOp thread (.deferring statement))
    else some (state.setOp thread (.destroying statement begun))
  | .deferring statement =>
    -- `duckdb_conn_cleanup` tests again
    if state.busyHere thread then
      some ((state.setOp thread .idle).defer thread (.prepare statement))
    else
      some { state.setOp thread .idle with destroyed := state.destroyed ++ [statement] }
  | .destroying statement _ =>
    some { state.setOp thread .idle with destroyed := state.destroyed ++ [statement] }
  | .ending released =>
    match released with
    | [] => some (state.setOp thread .idle)
    | statement :: rest =>
      some { state.setOp thread (.ending rest) with
        destroyed := state.destroyed ++ [statement] }
  | .draining work =>
    match work with
    | [] => some (state.setOp thread .idle)
    | (ticket, cleanup) :: rest =>
      some ((state.setOp thread (.draining rest)).runCleanup ticket cleanup)

/-- `~conn_inner`: run what is still deferred. -/
def destruct (state : State) : State :=
  { state with
    deferred := []
    destroyed := state.destroyed ++ state.deferred.filterMap fun item => item.2.statement?
    ran := state.ran ++ state.deferred.map Prod.fst
    alive := false }

/-- One step. A thread begins something only when it is in the middle of nothing; the handlers of a
connection run on one thread; and workers, handlers and threads in the middle of something hold
references to the connection. -/
def step (state : State) (event : Event) : Option State :=
  if !state.alive then none
  else
    match event with
    | .workerBegin =>
      some { state with workers := state.workers + 1, begun := state.begun + 1 }
    | .workerEnd thread =>
      if state.op thread ≠ .idle ∨ state.workers = 0 then none
      else if state.workers - 1 = 0 then
        some { state.setOp thread (.ending state.workerPrepares) with
          workers := state.workers - 1
          workerPrepares := [] }
      else some { state with workers := state.workers - 1 }
    | .release thread statement =>
      if state.op thread ≠ .idle ∨ statement ∈ state.handed then none
      else
        some { state.setOp thread (.releasing statement) with
          handed := state.handed ++ [statement] }
    | .cleanup thread =>
      if state.op thread ≠ .idle then none
      else if state.busyHere thread then some (state.defer thread .other)
      else some state
    | .advance thread => advance state thread (state.op thread)
    | .enter thread =>
      if state.op thread ≠ .idle ∨ (state.handlerDepth ≠ 0 ∧ state.handlerThread ≠ thread) then
        none
      else
        some { state with handlerDepth := state.handlerDepth + 1, handlerThread := thread }
    | .leave thread =>
      if state.op thread ≠ .idle ∨ !state.busyHere thread then none
      else some { state with handlerDepth := state.handlerDepth - 1 }
    | .drain thread =>
      if state.op thread ≠ .idle ∨ thread ∉ state.deferredConnections then none
      else if state.busyHere thread then some state
      else
        some { state.setOp thread (.draining state.deferred) with
          deferred := []
          deferredConnections := state.deferredConnections.erase thread }
    | .destruct =>
      if state.workers = 0 ∧ state.handlerDepth = 0 ∧ ∀ entry ∈ state.ops, entry.2 = .idle then
        some (destruct state)
      else none

/-- The machine of one connection with the cleanups that wait on it. -/
def connection : Machine State Event := ⟨step⟩

end PhpDuckdb.Release
