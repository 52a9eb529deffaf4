import PhpDuckdb.Session.Handoff

/-!
# The helper thread and its leases

A lease (`duckdb_session_lease`) hands DuckDB work to the connection's helper thread and runs the
session's callbacks on the request thread until the work is done. Two condition variables join the
threads, `conn_helper::cv` and `copy_session::cv`. One event below is one critical section of
their mutexes or a step between two of them; a thread in a wait looks again only when it is
notified, or when it wakes by itself.
-/

namespace PhpDuckdb.ConnHelper

open Handoff (State.new)

/-- A call of `duckdb_session_lease`, which is also its calls of `service`. -/
abbrev LeaseId := Nat

/-- The number of a `copy_session` of the connection. -/
abbrev SessionId := Nat

/-- The number of a call of `duckdb_conn_helper_stop`. -/
abbrev StopId := Nat

/-- Where `helper_main` is in its loop. -/
inductive Helper
  /-- About to look at what it waits for, with the mutex. -/
  | looking
  /-- In the wait. -/
  | asleep
  /-- Runs a lease's work. -/
  | working (lease : LeaseId)
  /-- The work returned, the lease's `done` is not set. -/
  | reporting (lease : LeaseId)
  /-- Set `done`, not marked free. -/
  | parking
  /-- Returned. -/
  | gone
  deriving DecidableEq, Repr

/-- The lease whose frame the helper may access. -/
def Helper.frame : Helper → Option LeaseId
  | .working lease => some lease
  | .reporting lease => some lease
  | _ => none

/-- Where the request thread of a lease is. -/
inductive Place
  /-- Not called yet. -/
  | absent
  /-- In `helper_post`, about to look whether the helper is free. -/
  | posting
  /-- In the wait of `helper_post`. -/
  | blocked
  /-- At the head of the loop. -/
  | looping
  /-- Past the first check, in `service` or past it. -/
  | serving
  /-- Past the second check, about to take the session's mutex. -/
  | deciding
  /-- In the wait of the loop. -/
  | asleep
  /-- Returned true. -/
  | returned
  deriving DecidableEq, Repr

/-- The lease is in its loop, where its work is posted. -/
def Place.inLoop : Place → Bool
  | .looping => true
  | .serving => true
  | .deciding => true
  | .asleep => true
  | _ => false

/-- The lease is called and did not return. -/
def Place.active (place : Place) : Bool :=
  place.inLoop || place == .posting || place == .blocked

/-- A lease with the local variables of its frame. -/
structure Lease where
  /-- Where its thread is. -/
  place : Place
  /-- The session that it services. -/
  session : SessionId
  /-- It never services its callbacks, which is a switch of the tests. -/
  stuck : Bool
  /-- It saw an exit or a fatal error. -/
  unwinding : Bool
  /-- The helper's word that the work returned. -/
  done : Bool
  deriving DecidableEq, Repr

/-- Where a call of `duckdb_conn_helper_stop` is. -/
inductive Stop
  /-- Not called yet. -/
  | absent
  /-- Set the flag and did not notify; whether it took the thread. -/
  | marked (took : Bool)
  /-- Notified, about to join the thread if it took it. -/
  | joining (took : Bool)
  /-- Past the join. -/
  | joined (took : Bool)
  deriving DecidableEq, Repr

/-- A connection's helper, its leases and the connection's sessions. -/
structure State where
  /-- Where the helper thread is. -/
  helper : Helper
  /-- `conn_helper::work`, by the lease that posted it. -/
  work : Option LeaseId
  /-- `conn_helper::busy`. -/
  busy : Bool
  /-- `conn_helper::stop`. -/
  stop : Bool
  /-- `conn_helper::thread` was not moved out. -/
  joinable : Bool
  /-- The leases. -/
  lease : LeaseId → Lease
  /-- The calls that stop the helper. -/
  stops : StopId → Stop
  /-- The sessions. -/
  session : SessionId → Handoff.State
  /-- The lease that holds `conn_inner::mutex`. -/
  holder : Option LeaseId
  /-- Leases whose work returned, in order. -/
  ran : List LeaseId
  /-- `abort_unparked_helper` ended the process. -/
  aborted : Bool

/-- A connection with a started helper, before its first lease. -/
def State.new : State where
  helper := .looking
  work := none
  busy := false
  stop := false
  joinable := true
  lease _ := ⟨.absent, 0, false, false, false⟩
  stops _ := .absent
  session _ := Handoff.State.new
  holder := none
  ran := []
  aborted := false

/-- Write one lease of the connection. -/
def State.setLease (state : State) (lease : LeaseId) (written : Lease) : State :=
  { state with lease := Function.update state.lease lease written }

/-- Move one lease to another place. -/
def State.setPlace (state : State) (lease : LeaseId) (place : Place) : State :=
  state.setLease lease { state.lease lease with place := place }

/-- Write one session of the connection. -/
def State.setSession (state : State) (which : SessionId) (written : Handoff.State) : State :=
  { state with session := Function.update state.session which written }

/-- The state with one stopping call at another place. -/
def State.setStop (state : State) (call : StopId) (place : Stop) : State :=
  { state with stops := Function.update state.stops call place }

/-- What a notification of a session does to a lease. -/
def Lease.notified (lease : Lease) (session : SessionId) : Lease :=
  if lease.place = .asleep ∧ lease.session = session then { lease with place := .looping }
  else lease

/-- `notify_all` of a session, as far as its leases are concerned. -/
def State.notifySession (state : State) (session : SessionId) : State :=
  { state with lease := fun lease => (state.lease lease).notified session }

/-- `notify_all` of the helper: it and the leases in `helper_post` look again. -/
def State.notifyHelper (state : State) : State :=
  { state with
    helper := if state.helper = .asleep then .looking else state.helper
    lease := fun lease =>
      if (state.lease lease).place = .blocked then { state.lease lease with place := .posting }
      else state.lease lease }

/-- What the threads do: leases, the helper, and those that stop it. -/
inductive Event
  /-- A lease is called for a session, with the connection's mutex. -/
  | begin (lease : LeaseId) (session : SessionId) (stuck : Bool)
  /-- `helper_post` looks whether the helper is free. -/
  | post (lease : LeaseId)
  /-- The loop's first `check_unwinding`, with the reason if an exit or fatal error is recorded,
  and the call of `service`. -/
  | look (lease : LeaseId) (reason : Option String)
  /-- The loop's second `check_unwinding`. -/
  | recheck (lease : LeaseId) (reason : Option String)
  /-- The rest of the loop's turn, with the session's mutex. -/
  | decide (lease : LeaseId)
  /-- A lease in a wait wakes by itself. -/
  | stir (lease : LeaseId)
  /-- The wait of an unwinding lease times out. -/
  | giveUp (lease : LeaseId)
  /-- The helper looks for work. -/
  | pick
  /-- The work returns. -/
  | complete
  /-- The helper sets the lease's `done`. -/
  | report
  /-- The helper marks itself free. -/
  | park
  /-- The helper wakes by itself. -/
  | rouse
  /-- `duckdb_conn_helper_stop` sets the flag and takes the thread. -/
  | stop (call : StopId)
  /-- `duckdb_conn_helper_stop` notifies. -/
  | ring (call : StopId)
  /-- `duckdb_conn_helper_stop` joins the thread that it took. -/
  | join (call : StopId)
  /-- A session's `submit`, `close` or driver, or the `service` call of a lease. -/
  | session (which : SessionId) (event : Handoff.Event)
  deriving DecidableEq, Repr

/-- `check_unwinding`: the first recorded reason closes the session. -/
def checkUnwinding (state : State) (lease : LeaseId) : Option String → State
  | none => state
  | some reason =>
    if (state.lease lease).unwinding then state
    else
      (state.setSession (state.lease lease).session
        ((state.session (state.lease lease).session).close reason)).setLease lease
        { state.lease lease with unwinding := true }

/-- `helper_post` with the helper's mutex: wait while it is busy, else post. -/
def helperPost (state : State) (lease : LeaseId) : State :=
  if state.busy then state.setPlace lease .blocked
  else
    ({ state with busy := true, work := some lease }).notifyHelper.setPlace lease .looping

/-- The call of `service`, which a stuck lease leaves out. -/
def callService (state : State) (lease : LeaseId) : State :=
  if (state.lease lease).stuck then state.setPlace lease .serving
  else
    (state.setSession (state.lease lease).session
      ((state.session (state.lease lease).session).setService lease .polling)).setPlace lease
      .serving

/-- The loop with the session's mutex: another turn for queued requests, the end when the work is
done, else the wait. -/
def decideTurn (state : State) (lease : LeaseId) : State :=
  let session := state.session (state.lease lease).session
  if !(state.lease lease).stuck && session.isOpen && !session.queue.isEmpty then
    state.setPlace lease .looping
  else if (state.lease lease).done then
    { state.setPlace lease .returned with holder := none }
  else state.setPlace lease .asleep

/-- `helper_main` at its wait: take the work, return if there is none and the flag is set, or
sleep. -/
def helperPick (state : State) : State :=
  match state.work with
  | some lease => { state with helper := .working lease, work := none }
  | none => { state with helper := if state.stop then .gone else .asleep }

/-- The helper's last access to a lease's frame. -/
def helperReport (state : State) (lease : LeaseId) : State :=
  ({ state.setLease lease { state.lease lease with done := true } with
    helper := .parking }).notifySession (state.lease lease).session

/-- Whether a thread is where this happens on a session. Only a lease calls `service`. -/
def State.allows (state : State) (which : SessionId) : Handoff.Event → Bool
  | .enter _ => false
  | .take call => decide ((state.lease call).place = .serving ∧ (state.lease call).session = which)
  | .work call => decide ((state.lease call).place = .serving ∧ (state.lease call).session = which)
  | .finish call =>
    decide ((state.lease call).place = .serving ∧ (state.lease call).session = which)
  | .unwind call _ =>
    decide ((state.lease call).place = .serving ∧ (state.lease call).session = which)
  | _ => true

/-- Whether it notifies the session while it holds the mutex. -/
def State.notifies (state : State) (which : SessionId) : Handoff.Event → Bool
  | .submit _ _ => (state.session which).isOpen
  | _ => false

section Machine

variable (stuckLimit : Int)

/-- One step on a session, if the helper and the leases allow it. -/
def sessionStep (state : State) (which : SessionId) (event : Handoff.Event) : Option State :=
  if state.allows which event then
    (Handoff.step which stuckLimit (state.session which) event).map fun after =>
      if state.notifies which event then (state.setSession which after).notifySession which
      else state.setSession which after
  else none

/-- One event of a thread that is ready for it. The helper is stopped when its connection is
destroyed or the module shuts down, when no lease holds the connection and none will. -/
def step (state : State) (event : Event) : Option State :=
  if state.aborted then none
  else
    match event with
    | .begin lease session stuck =>
      if (state.lease lease).place = .absent ∧ state.holder = none ∧ state.stop = false then
        some { state.setLease lease ⟨.posting, session, stuck, false, false⟩ with
          holder := some lease }
      else none
    | .post lease =>
      if (state.lease lease).place = .posting then some (helperPost state lease) else none
    | .look lease reason =>
      if (state.lease lease).place = .looping then
        some (callService (checkUnwinding state lease reason) lease)
      else none
    | .recheck lease reason =>
      if (state.lease lease).place = .serving ∧
          (state.session (state.lease lease).session).service lease = .idle then
        some ((checkUnwinding state lease reason).setPlace lease .deciding)
      else none
    | .decide lease =>
      if (state.lease lease).place = .deciding then some (decideTurn state lease) else none
    | .stir lease =>
      match (state.lease lease).place with
      | .blocked => some (state.setPlace lease .posting)
      | .asleep => some (state.setPlace lease .looping)
      | _ => none
    | .giveUp lease =>
      if (state.lease lease).place = .asleep ∧ (state.lease lease).unwinding ∧
          (state.lease lease).done = false then
        some { state with aborted := true }
      else none
    | .pick => if state.helper = .looking then some (helperPick state) else none
    | .complete =>
      match state.helper with
      | .working lease =>
        some { state with helper := .reporting lease, ran := state.ran ++ [lease] }
      | _ => none
    | .report =>
      match state.helper with
      | .reporting lease => some (helperReport state lease)
      | _ => none
    | .park =>
      if state.helper = .parking then
        some ({ state with busy := false, helper := .looking }).notifyHelper
      else none
    | .rouse => if state.helper = .asleep then some { state with helper := .looking } else none
    | .stop call =>
      if state.stops call = .absent ∧ state.holder = none then
        some ({ state with stop := true, joinable := false }.setStop call
          (.marked state.joinable))
      else none
    | .ring call =>
      match state.stops call with
      | .marked took => some (state.notifyHelper.setStop call (.joining took))
      | _ => none
    | .join call =>
      match state.stops call with
      | .joining took =>
        if took = false ∨ state.helper = .gone then some (state.setStop call (.joined took))
        else none
      | _ => none
    | .session which event => sessionStep stuckLimit state which event

/-- The machine of one connection's leases. -/
def leases : Machine State Event := ⟨step stuckLimit⟩

end Machine

end PhpDuckdb.ConnHelper
