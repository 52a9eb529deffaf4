import PhpDuckdb.Copy.Protocol
import PhpDuckdb.Session.Handoff

/-!
# Executions of COPY formats

DuckDB threads run the sinks of a COPY and then its finalize, each in `run_callback`, which keeps a
second one out with a flag of the execution and hands its work to the session's request thread. One
event below is one atomic access of the flag or the session, or the work on the request thread.
-/

namespace PhpDuckdb.CopyWriter

open Handoff (RequestId)

/-- `duckdb_callback_outcome`: the four ways in which a call of PHP code ends. -/
inductive CallOutcome
  | ok
  | exception
  | exit
  | bailout
  deriving DecidableEq, Repr

/-- What `call_handler` gives back: how the handler ended, with its failure or its value. -/
structure Handled where
  /-- How the handler ended. -/
  outcome : CallOutcome
  /-- Its failure. -/
  message : String
  /-- The exception that it threw. -/
  thrown : Option Nat
  /-- The object that it returned, and whether that is a `DuckDB\CopyToWriter`. A handler that an
  exit in a nested statement did not stop returns all the same. -/
  retval : Option (Nat × Bool)
  deriving DecidableEq, Repr

/-- A writer that the handler returned. -/
def Handled.writer (handled : Handled) : Option Nat :=
  handled.retval.bind fun (object, writer) => if writer then some object else none

/-- `copy_php_state::writer`: a writer's object, and whether `close()` was called on it. -/
structure Writer where
  object : Option Nat
  closed : Bool
  deriving DecidableEq, Repr

/-- `copy_php_state`, with the writer of the execution. -/
structure PhpState where
  /-- The format was alive when the session began. -/
  pinned : Bool
  writer : Writer
  cause : Option Nat
  deriving DecidableEq, Repr

/-- `keep_cause`: the first exception of an execution is the one that is kept. -/
def PhpState.keepCause (php : PhpState) (thrown : Option Nat) : PhpState :=
  { php with cause := php.cause <|> thrown }

/-- A format that was released after the statement was prepared. -/
def staleMessage (format : String) : String :=
  "COPY format '" ++ format ++
    "' was registered again or released after this statement was prepared; prepare it again"

/-- `describe`: the message of a handler's failure, which names the format and the method. -/
def describe (format method : String) (handled : Handled) : String :=
  if handled.outcome = .exception then
    "COPY format '" ++ format ++ "' " ++ method ++ "(): " ++ handled.message
  else handled.message

/-- `parallel_message`: the reason for which a second global state is refused. -/
def parallelMessage : String :=
  "PHP COPY formats do not support PARTITION_BY, PER_THREAD_OUTPUT or EXPORT DATABASE"

/-- `open_writer`: the writer or an error, and the calls. -/
def openWriter (format : String) (php : PhpState) (opened : Handled) :
    PhpState × List Call × Except String Nat :=
  match php.writer.object with
  | some writer => (php, [], .ok writer)
  | none =>
    if php.pinned = false then (php, [], .error (staleMessage format))
    else if opened.outcome = .ok then
      match opened.writer with
      | some writer =>
        ({ php with writer := { php.writer with object := some writer } },
          [.openWriter (some writer) true], .ok writer)
      | none =>
        (php, [.openWriter none false],
          .error ("COPY format '" ++ format ++ "' open() must return a DuckDB\\CopyToWriter"))
    else
      -- Only an exit in a nested statement leaves a value, which nothing releases.
      (php.keepCause opened.thrown,
        [.openWriter (if opened.outcome = .exit then opened.writer else none) false],
        .error (describe format "open" opened))

/-- `php_write`: opens the writer when it must, writes the rows, and gives the error, if any. -/
def phpWrite (format : String) (php : PhpState) (opened done : Handled) :
    PhpState × List Call × Option String :=
  match openWriter format php opened with
  | (php, calls, .error error) => (php, calls, some error)
  | (php, calls, .ok writer) =>
    if done.outcome = .ok then (php, calls ++ [.write writer true], none)
    else (php.keepCause done.thrown, calls ++ [.write writer false],
      some (describe format "write" done))

/-- `php_finalize`: opens the writer when it must, closes it, and gives the error, if any. -/
def phpFinalize (format : String) (php : PhpState) (opened done : Handled) :
    PhpState × List Call × Option String :=
  match openWriter format php opened with
  | (php, calls, .error error) => (php, calls, some error)
  | (php, calls, .ok writer) =>
    if done.outcome = .ok then
      ({ php with writer := { php.writer with closed := true } },
        calls ++ [.close writer true], none)
    else (php.keepCause done.thrown, calls ++ [.close writer false],
      some (describe format "close" done))

/-- `finish_session`: the calls for the writer of the execution. -/
def finishSession (php : PhpState) (failure : String) (callPhp made : Bool) : List Call :=
  match php.writer.object with
  | none => []
  | some writer =>
    let aborts := !php.writer.closed && failure != "" && callPhp && (php.cause.isSome || made)
    (if aborts then [.abort writer failure] else []) ++ [.release writer]

/-- Where a callback of DuckDB is in `run_callback`; an error is one that it fails with. -/
inductive Callback
  /-- Not called. -/
  | absent
  /-- Saw the session open. -/
  | entered
  /-- Has the execution's flag. -/
  | guarded
  /-- Submitted its work, which did not run. -/
  | submitted
  /-- Its submitted work ran. -/
  | worked (error : Option String)
  /-- On the request thread, about to run its work. -/
  | direct
  /-- On the request thread, ran its work or did not find the session open. -/
  | ran (error : Option String)
  /-- Dropped the flag. -/
  | dropped (error : Option String)
  /-- Returned. -/
  | returned (error : Option String)
  deriving DecidableEq, Repr

/-- A session and its one execution. -/
structure State where
  /-- The name of the format. -/
  format : String
  /-- The session. -/
  session : Handoff.State
  /-- `copy_inits`. -/
  copyInits : Nat
  /-- DuckDB has a `copy_exec`. -/
  exec : Bool
  /-- `in_callback`. -/
  inCallback : Bool
  /-- The callbacks; their requests have the same numbers. -/
  callback : RequestId → Callback
  /-- The sinks that were called. -/
  sinks : List RequestId
  /-- The finalize, once it is called. -/
  finalize : Option RequestId
  /-- `php_state`, until the session ends. -/
  phpState : Option PhpState
  /-- The calls. -/
  calls : List Call

/-- A new session; connections without COPY formats attach no PHP state. -/
def State.start (format : String) (attached : Option Bool) : State where
  format := format
  session := .new
  copyInits := 0
  exec := false
  inCallback := false
  callback := fun _ => .absent
  sinks := []
  finalize := none
  phpState := attached.map fun pinned => ⟨pinned, ⟨none, false⟩, none⟩
  calls := []

/-- `closed_reason`: why the session is closed, or nothing while it is open. -/
def State.closedReason (state : State) : String :=
  if state.session.isOpen then "" else state.session.closeReason

/-- Close the session of the execution. -/
def State.close (state : State) (reason : String) : State :=
  { state with session := state.session.close reason }

/-- Put a callback in another place. -/
def State.setCallback (state : State) (number : RequestId) (place : Callback) : State :=
  { state with callback := Function.update state.callback number place }

/-- The callbacks that DuckDB called: the sinks and the one that finalizes. -/
def State.called (state : State) : List RequestId := state.finalize.toList ++ state.sinks

/-- What happens in an execution: native callbacks, PHP calls and the session's own steps. -/
inductive Event
  /-- `copy_global_init_callback`. -/
  | globalInit
  /-- `copy_sink_callback` looks whether the session is open. -/
  | sink (number : RequestId)
  /-- `copy_finalize_callback` does. -/
  | finalize (number : RequestId)
  /-- `run_callback` takes the flag. -/
  | exchange (number : RequestId)
  /-- `duckdb_callback_on_request_thread` submits the work. -/
  | submit (number : RequestId) (now : Int)
  /-- It is on the request thread itself. -/
  | onRequestThread (number : RequestId)
  /-- The request thread runs the work that `service` took. -/
  | work (opened done : Handled)
  /-- The request thread runs the work of a callback that DuckDB called there. -/
  | workDirect (number : RequestId) (opened done : Handled)
  /-- `run_callback` drops the flag. -/
  | store (number : RequestId)
  /-- `run_callback` closes the session after a failure and returns. -/
  | finish (number : RequestId)
  /-- What other requests, the request thread and closers do with the session. -/
  | session (event : Handoff.Event)
  /-- `duckdb_session_end`; whether a reason can be made for `abort()`. -/
  | sessionEnd (failure : String) (canCallPhp bailout made : Bool)
  deriving DecidableEq, Repr

/-- Events of the session that have no event of their own here. The request thread services the session
in one call of `service` at a time. -/
def State.allows (state : State) : Handoff.Event → Bool
  | .submit request _ => state.callback request = .absent
  | .wake _ _ | .close _ | .drive _ => true
  | .enter call | .take call | .finish call | .unwind call _ => call = 0
  | .work _ => false

/-- The work of a callback on the request thread. -/
def State.runWork (state : State) (number : RequestId) (opened done : Handled) :
    State × Option String :=
  match state.phpState with
  | none => (state, some "COPY format is not registered on this connection")
  | some php =>
    let (after, calls, error) :=
      if state.finalize = some number then phpFinalize state.format php opened done
      else phpWrite state.format php opened done
    ({ state with phpState := some after, calls := state.calls ++ calls }, error)

/-- `run_callback` until it saw the session. -/
def State.enter (state : State) (number : RequestId) : State :=
  if state.closedReason = "" then state.setCallback number .entered
  else state.setCallback number (.returned (some state.closedReason))

/-- A callback that was not called and whose number no request has. -/
def State.unused (state : State) (number : RequestId) : Bool :=
  state.callback number = .absent && state.session.submit number = .absent

/-- The callback is a sink that returned to DuckDB. -/
def Callback.isReturned : Callback → Bool
  | .returned _ => true
  | _ => false

/-- How the wait for a callback's work ended. -/
def State.result (state : State) (number : RequestId) : Option (Option String) :=
  match state.callback number, state.session.submit number with
  | .worked error, .succeeded => some error
  | .submitted, .failed error => some (some error)
  | .ran error, _ => some error
  | _, _ => none

/-- `copy_global_init_callback`: the first one is counted, a second one closes the session. -/
def State.globalInit (state : State) : State :=
  if state.closedReason ≠ "" ∨ state.phpState = none then state
  else if 0 < state.copyInits then
    { state with copyInits := state.copyInits + 1 }.close parallelMessage
  else { state with copyInits := 1, exec := true }

/-- `duckdb_session_end`: closes the session and finishes the writers that are left. -/
def State.sessionEnd (state : State) (failure : String) (canCallPhp bailout made : Bool) : State :=
  let closed := state.close (if failure = "" then "COPY statement finished" else failure)
  match state.phpState with
  | none => closed
  | some php =>
    { closed with
      phpState := none
      calls := state.calls ++ finishSession php failure (canCallPhp && !bailout) made }

section Executions

variable (self : Nat) (stuckLimit : Int)

/-- One event. Events that cannot happen have no step. -/
def step (state : State) : Event → Option State
  | .globalInit => some state.globalInit
  | .sink number =>
    if state.exec = true ∧ state.finalize = none ∧ state.unused number = true then
      some { state.enter number with sinks := number :: state.sinks }
    else none
  | .finalize number =>
    if state.exec = true ∧ state.finalize = none ∧ state.unused number = true ∧
        (∀ sink ∈ state.sinks, (state.callback sink).isReturned = true) then
      some { state.enter number with finalize := some number }
    else none
  | .exchange number =>
    if state.callback number = .entered then
      if state.inCallback then
        some ((state.close parallelMessage).setCallback number (.returned (some parallelMessage)))
      else some { state.setCallback number .guarded with inCallback := true }
    else none
  | .submit number now =>
    if state.callback number = .guarded then
      (Handoff.step self stuckLimit state.session (.submit number now)).map fun session =>
        { state.setCallback number .submitted with session := session }
    else none
  | .onRequestThread number =>
    if state.callback number = .guarded then
      if state.session.isOpen then some (state.setCallback number .direct)
      else some (state.setCallback number (.ran (some state.session.closeReason)))
    else none
  | .work opened done =>
    match state.session.service 0 with
    | .holding request =>
      (Handoff.step self stuckLimit state.session (.work 0)).bind fun session =>
        match state.callback request with
        | .absent => some { state with session := session }
        | .submitted =>
          let (worked, error) := state.runWork request opened done
          some { worked.setCallback request (.worked error) with session := session }
        | _ => none
    | _ => none
  | .workDirect number opened done =>
    if state.callback number = .direct then
      let (worked, error) := state.runWork number opened done
      some (worked.setCallback number (.ran error))
    else none
  | .store number =>
    (state.result number).map fun error =>
      { state.setCallback number (.dropped error) with inCallback := false }
  | .finish number =>
    match state.callback number with
    | .dropped none => some (state.setCallback number (.returned none))
    | .dropped (some error) =>
      some ((state.close error).setCallback number (.returned (some error)))
    | _ => none
  | .session event =>
    if state.allows event then
      (Handoff.step self stuckLimit state.session event).map fun session =>
        { state with session := session }
    else none
  | .sessionEnd failure canCallPhp bailout made =>
    if state.session.service 0 = .idle ∧
        (∀ number ∈ state.called, state.callback number ≠ .direct) then
      some (state.sessionEnd failure canCallPhp bailout made)
    else none

/-- The machine of one execution of a COPY format. -/
def execution : Machine State Event := ⟨step self stuckLimit⟩

end Executions

/-! ## Where a failure lets another callback in -/

/-- The request thread is about to begin the work of a callback. -/
def State.begins (state : State) : Event → Bool
  | .session (.take _) => state.session.queue.head?.any fun request => state.callback request ≠ .absent
  | .onRequestThread _ => true
  | _ => false

/-- A callback that dropped the flag after a failure. -/
def Callback.droppedFailed : Callback → Bool
  | .dropped error => error.isSome
  | _ => false

/-- After a failed call a callback dropped the flag and did not close the session yet. -/
def State.unsettled (state : State) : Bool :=
  state.session.isOpen && state.calls.any Call.failed &&
    state.called.any fun number => (state.callback number).droppedFailed

/-- `open()` returns a writer with an exit pending. -/
def Event.leaks : Event → Bool
  | .work opened _ | .workDirect _ opened _ => opened.outcome = .exit && opened.writer.isSome
  | _ => false

/-- No work begins before a failure has closed the session, and no writer comes with an exit. -/
def Settled (state : State) (event : Event) : Prop :=
  ¬(state.begins event = true ∧ state.unsettled = true) ∧ event.leaks = false

instance (state : State) (event : Event) : Decidable (Settled state event) :=
  inferInstanceAs (Decidable (_ ∧ _))

end PhpDuckdb.CopyWriter
