import Mathlib.Data.List.Basic
import Mathlib.Data.List.Nodup
import PhpDuckdb.Lib.Machine

/-!
# Handing callbacks to the request thread

DuckDB threads queue callbacks with `copy_session::submit` and wait; the request thread runs
them in `copy_session::service`; any thread may `close` the session, and a submitter closes it
when the request thread stayed away past the stuck limit. One event below is one critical
section of `copy_session::mutex`, or one step between two of them, so an event list is an
interleaving of any number of submitters, service calls and closers.
-/

namespace PhpDuckdb.Handoff

/-- A request; every submit call queues a request of its own. -/
abbrev RequestId := Nat

/-- The number of a call of `copy_session::service`. -/
abbrev ServiceId := Nat

/-- The flags of a `copy_request`, and when it was queued. -/
structure CopyRequest where
  /-- Steady-clock nanoseconds when the request was queued. -/
  queuedAt : Int
  /-- The request thread took the request. -/
  started : Bool
  /-- Its work returned. -/
  finished : Bool
  deriving DecidableEq, Repr

/-- `copy_driver`: what waiting DuckDB threads see of the request thread. -/
structure CopyDriver where
  /-- The session whose lease the thread services, if any. -/
  serving : Option Nat
  /-- Since when the thread services no other session; 0 while it is in no lease and outside
  DuckDB. -/
  awaySince : Int
  deriving DecidableEq, Repr

/-- `copy_driver::unserviced_for`: for how long nothing served a session's request; it counts from
when the driver went away, or from when the request was queued. -/
def CopyDriver.unservicedFor (driver : CopyDriver) (session : Nat) (queuedAt now : Int) : Int :=
  if driver.awaySince = 0 ∨ driver.serving = some session then 0
  else now - max driver.awaySince queuedAt

/-- Where a call of `submit` is, and how it ended. -/
inductive Submit
  /-- Not called yet. -/
  | absent
  /-- Waiting on the condition variable. -/
  | waiting
  /-- Returned true. -/
  | succeeded
  /-- Returned false with this error. -/
  | failed (error : String)
  deriving DecidableEq, Repr

/-- Where a call of `service` is in its loop. -/
inductive Service
  /-- Not in `service`. -/
  | idle
  /-- At the head of the loop. -/
  | polling
  /-- Took the request and has not run its work. -/
  | holding (request : RequestId)
  /-- The work returned and its request is not marked finished. -/
  | worked (request : RequestId)
  /-- Marked the request finished, about to look for an exit or a fatal error. -/
  | checking
  deriving DecidableEq, Repr

/-- The request whose work a service call is in charge of. -/
def Service.carries : Service → Option RequestId
  | .holding request => some request
  | .worked request => some request
  | _ => none

/-- One session, its requests and the calls on it. -/
structure State where
  /-- `copy_session::open`. -/
  isOpen : Bool
  /-- `copy_session::close_reason`. -/
  closeReason : String
  /-- `copy_session::queue`, its front first. -/
  queue : List RequestId
  /-- The request of each submit call. -/
  request : RequestId → CopyRequest
  /-- The submit calls. -/
  submit : RequestId → Submit
  /-- The service calls. -/
  service : ServiceId → Service
  /-- The request thread's state as its sessions see it. -/
  driver : CopyDriver
  /-- Requests whose work ran, in order. -/
  ran : List RequestId

/-- A new session that nothing called yet. -/
def State.new : State where
  isOpen := true
  closeReason := ""
  queue := []
  request _ := ⟨0, false, false⟩
  submit _ := .absent
  service _ := .idle
  driver := ⟨none, 0⟩
  ran := []

/-- The state with one submit call at another place. -/
def State.setSubmit (state : State) (request : RequestId) (phase : Submit) : State :=
  { state with submit := Function.update state.submit request phase }

/-- The state with one service call at another place. -/
def State.setService (state : State) (call : ServiceId) (phase : Service) : State :=
  { state with service := Function.update state.service call phase }

/-- Write one request of the session. -/
def State.setRequest (state : State) (request : RequestId) (flags : CopyRequest) : State :=
  { state with request := Function.update state.request request flags }

section Fields

variable (state : State) (request other : RequestId) (call which : ServiceId) (phase : Submit)
  (place : Service) (flags : CopyRequest)

@[simp, grind =]
theorem State.setSubmit_submit : (state.setSubmit request phase).submit other =
    if other = request then phase else state.submit other := Function.update_apply ..

@[simp, grind =]
theorem State.setSubmit_request :
    (state.setSubmit request phase).request other = state.request other := rfl

@[simp, grind =]
theorem State.setSubmit_queue : (state.setSubmit request phase).queue = state.queue := rfl

@[simp, grind =]
theorem State.setSubmit_isOpen : (state.setSubmit request phase).isOpen = state.isOpen := rfl

@[simp, grind =]
theorem State.setSubmit_service :
    (state.setSubmit request phase).service which = state.service which := rfl

@[simp, grind =]
theorem State.setSubmit_ran : (state.setSubmit request phase).ran = state.ran := rfl

@[simp, grind =]
theorem State.setService_service : (state.setService call place).service which =
    if which = call then place else state.service which := Function.update_apply ..

@[simp, grind =]
theorem State.setService_request :
    (state.setService call place).request other = state.request other := rfl

@[simp, grind =]
theorem State.setService_queue : (state.setService call place).queue = state.queue := rfl

@[simp, grind =]
theorem State.setService_isOpen : (state.setService call place).isOpen = state.isOpen := rfl

@[simp, grind =]
theorem State.setService_submit :
    (state.setService call place).submit other = state.submit other := rfl

@[simp, grind =]
theorem State.setService_ran : (state.setService call place).ran = state.ran := rfl

@[simp, grind =]
theorem State.setRequest_request : (state.setRequest request flags).request other =
    if other = request then flags else state.request other := Function.update_apply ..

@[simp, grind =]
theorem State.setRequest_queue : (state.setRequest request flags).queue = state.queue := rfl

@[simp, grind =]
theorem State.setRequest_isOpen : (state.setRequest request flags).isOpen = state.isOpen := rfl

@[simp, grind =]
theorem State.setRequest_submit :
    (state.setRequest request flags).submit other = state.submit other := rfl

@[simp, grind =]
theorem State.setRequest_service :
    (state.setRequest request flags).service which = state.service which := rfl

@[simp, grind =]
theorem State.setRequest_ran : (state.setRequest request flags).ran = state.ran := rfl

end Fields

/-- The critical section of `copy_session::close`: the first reason is the one that stays. -/
def State.close (state : State) (reason : String) : State :=
  if !state.isOpen then state
  else { state with isOpen := false, closeReason := reason, queue := [] }

/-- The reason of a `submit` that gives up waiting. -/
def abandonedReason : String :=
  "COPY callback abandoned: the driving thread stayed inside DuckDB too long"

/-- What the calls and their environment do. -/
inductive Event
  /-- `submit` takes the mutex for the first time. -/
  | submit (request : RequestId) (now : Int)
  /-- A waiting `submit` wakes, notified or after its 50 ms. -/
  | wake (request : RequestId) (now : Int)
  /-- `service` is called. -/
  | enter (call : ServiceId)
  /-- `service` takes the mutex at the head of its loop. -/
  | take (call : ServiceId)
  /-- `service` runs the work of the request it took. -/
  | work (call : ServiceId)
  /-- `service` marks its request finished. -/
  | finish (call : ServiceId)
  /-- `service` looks for an exit or fatal error in the work, given with its reason. -/
  | unwind (call : ServiceId) (reason : Option String)
  /-- `close`. -/
  | close (reason : String)
  /-- The request thread enters or leaves a lease or a DuckDB call. -/
  | drive (driver : CopyDriver)
  deriving DecidableEq, Repr

section Session

variable (self : Nat) (stuckLimit : Int)

/-- One turn of the loop in `submit`, from the check of `finished` to the next wait. -/
def submitTurn (state : State) (request : RequestId) (now : Int) : State :=
  if (state.request request).finished then state.setSubmit request .succeeded
  else if !(state.request request).started then
    if !state.isOpen then state.setSubmit request (.failed state.closeReason)
    else if stuckLimit <
        state.driver.unservicedFor self (state.request request).queuedAt now then
      ({ state with isOpen := false, closeReason := abandonedReason, queue := [] }).setSubmit
        request (.failed abandonedReason)
    else state
  else state

/-- `copy_session::submit` until its first wait: a closed session refuses the request. -/
def submitEnter (state : State) (request : RequestId) (now : Int) : State :=
  if !state.isOpen then state.setSubmit request (.failed state.closeReason)
  else
    let queued := { state.setRequest request { state.request request with queuedAt := now } with
      queue := state.queue ++ [request] }
    submitTurn self stuckLimit (queued.setSubmit request .waiting) request now

/-- The head of the loop in `service`: return, or take the first queued request. -/
def serviceTake (state : State) (call : ServiceId) : State :=
  if !state.isOpen then state.setService call .idle
  else
    match state.queue with
    | [] => state.setService call .idle
    | request :: rest =>
      (({ state with queue := rest }).setRequest request
        { state.request request with started := true }).setService call (.holding request)

/-- One event of a call that is ready for it. -/
def step (state : State) : Event → Option State
  | .submit request now =>
    if state.submit request = .absent then some (submitEnter self stuckLimit state request now)
    else none
  | .wake request now =>
    if state.submit request = .waiting then some (submitTurn self stuckLimit state request now)
    else none
  | .enter call =>
    if state.service call = .idle then some (state.setService call .polling) else none
  | .take call =>
    if state.service call = .polling then some (serviceTake state call) else none
  | .work call =>
    match state.service call with
    | .holding request =>
      some { state.setService call (.worked request) with ran := state.ran ++ [request] }
    | _ => none
  | .finish call =>
    match state.service call with
    | .worked request =>
      some ((state.setRequest request { state.request request with finished := true }).setService
        call .checking)
    | _ => none
  | .unwind call reason =>
    if state.service call = .checking then
      match reason with
      | some reason => some ((state.close reason).setService call .idle)
      | none => some (state.setService call .polling)
    else none
  | .close reason => some (state.close reason)
  | .drive driver => some { state with driver := driver }

/-- The machine of one session with all of its calls. -/
def session : Machine State Event := ⟨step self stuckLimit⟩

end Session

/-! ## The invariant of a session -/

/-- What holds of a session between any two critical sections. -/
structure Consistent (state : State) : Prop where
  /-- A closed session has no queued request. -/
  closed : state.isOpen = false → state.queue = []
  /-- A request is queued once. -/
  nodup : state.queue.Nodup
  /-- A queued request has a waiting submitter and was not taken. -/
  queued : ∀ request ∈ state.queue, state.submit request = .waiting ∧
    (state.request request).started = false
  /-- While the session is open, an untaken request of a waiting submitter is queued. -/
  waiting : ∀ request, state.submit request = .waiting →
    (state.request request).started = false → state.isOpen = true → request ∈ state.queue
  /-- A taken request had a submitter that did not fail. -/
  taken : ∀ request, (state.request request).started = true →
    state.submit request = .waiting ∨ state.submit request = .succeeded
  /-- Only taken requests finish. -/
  finished : ∀ request, (state.request request).finished = true →
    (state.request request).started = true
  /-- A successful submitter saw its request finished. -/
  succeeded : ∀ request, state.submit request = .succeeded →
    (state.request request).finished = true
  /-- An untaken request did not run. -/
  untaken : ∀ request, (state.request request).started = false → state.ran.count request = 0
  /-- A finished request ran once. -/
  once : ∀ request, (state.request request).finished = true → state.ran.count request = 1
  /-- A request that a service call took has not run before the call runs it. -/
  holding : ∀ call request, state.service call = .holding request →
    (state.request request).started = true ∧ (state.request request).finished = false ∧
      state.ran.count request = 0
  /-- A request whose work returned ran once and is not marked finished. -/
  worked : ∀ call request, state.service call = .worked request →
    (state.request request).started = true ∧ (state.request request).finished = false ∧
      state.ran.count request = 1
  /-- Two service calls never carry one request. -/
  unique : ∀ call other request, (state.service call).carries = some request →
    (state.service other).carries = some request → call = other
  /-- A taken request is finished or carried. -/
  carried : ∀ request, (state.request request).started = true →
    (state.request request).finished = true ∨
      ∃ call, (state.service call).carries = some request

/-- A new session has no requests and is consistent. -/
theorem consistent_new : Consistent State.new := by
  constructor <;> simp [State.new, Service.carries]

/-- A service call carries a request while it holds it or has run it. -/
theorem Service.carries_eq_some {service : Service} {request : RequestId} :
    service.carries = some request ↔ service = .holding request ∨ service = .worked request := by
  cases service <;> simp [Service.carries]

/-- A carried request was taken and is not finished. -/
theorem Consistent.of_carries {state : State} (ok : Consistent state) {call : ServiceId}
    {request : RequestId} (carries : (state.service call).carries = some request) :
    (state.request request).started = true ∧ (state.request request).finished = false := by
  rcases Service.carries_eq_some.mp carries with held | held
  · exact ⟨(ok.holding call request held).1, (ok.holding call request held).2.1⟩
  · exact ⟨(ok.worked call request held).1, (ok.worked call request held).2.1⟩

/-- Closing drops the queue with the flag. -/
theorem consistent_close {state : State} (ok : Consistent state) (reason : String) :
    Consistent (state.close reason) := by
  unfold State.close
  split
  · exact ok
  · exact { ok with
      closed := fun _ => rfl
      nodup := List.nodup_nil
      queued := by simp
      waiting := by simp }

/-- A submitter that sees its request finished returns true. -/
theorem consistent_succeed {state : State} (ok : Consistent state) {request : RequestId}
    (finished : (state.request request).finished = true) :
    Consistent (state.setSubmit request .succeeded) := by
  have started := ok.finished request finished
  have queued := ok.queued
  have waiting := ok.waiting
  have taken := ok.taken
  have succeeded := ok.succeeded
  exact { ok with
    queued := by grind
    waiting := by grind
    taken := by grind
    succeeded := by grind }

/-- A submitter of a closed session whose request was not taken returns false. -/
theorem consistent_fail {state : State} (ok : Consistent state) {request : RequestId}
    (untaken : (state.request request).started = false) (closed : state.isOpen = false)
    (error : String) : Consistent (state.setSubmit request (.failed error)) := by
  have empty := ok.closed closed
  have waiting := ok.waiting
  have taken := ok.taken
  have succeeded := ok.succeeded
  exact { ok with
    queued := by simp [empty]
    waiting := by grind
    taken := by grind
    succeeded := by grind }

/-- Queuing the request of a new submit call of an open session. -/
theorem consistent_enqueue {state : State} (ok : Consistent state) {request : RequestId}
    (absent : state.submit request = .absent) (isOpen : state.isOpen = true) (now : Int) :
    Consistent (State.setSubmit
      { state.setRequest request { state.request request with queuedAt := now } with
        queue := state.queue ++ [request] } request .waiting) := by
  have untaken : (state.request request).started = false := by
    cases started : (state.request request).started with
    | false => rfl
    | true => simpa [absent] using ok.taken request started
  have unfinished : (state.request request).finished = false := by
    cases finished : (state.request request).finished with
    | false => rfl
    | true => simp [ok.finished request finished] at untaken
  have unqueued : request ∉ state.queue := fun inside => by
    simpa [absent] using (ok.queued request inside).1
  obtain ⟨closed, nodup, queued, waiting, taken, finished, succeeded, zero, once, holding, worked,
    unique, carried⟩ := ok
  constructor
  · simp [isOpen]
  · exact nodup.append (List.nodup_singleton _) (by simpa using unqueued)
  · grind
  · grind
  · grind
  · grind
  · grind
  · grind
  · grind
  · grind
  · grind
  · exact unique
  · intro other started
    have distinct : other ≠ request := by
      rintro rfl
      simp [untaken] at started
    have before := carried other (by simpa [distinct] using started)
    simpa [distinct] using before

section Calls

variable {self : Nat} {stuckLimit : Int}

/-- A turn of a waiting submitter, whichever way it leaves. -/
theorem consistent_submitTurn {state : State} (ok : Consistent state) (request : RequestId)
    (now : Int) : Consistent (submitTurn self stuckLimit state request now) := by
  unfold submitTurn
  split
  · rename_i finished
    exact consistent_succeed ok finished
  · split
    · rename_i untaken
      have untaken : (state.request request).started = false := by simpa using untaken
      split
      · rename_i closed
        exact consistent_fail ok untaken (by simpa using closed) _
      · split
        · rename_i isOpen _
          have abandoned := consistent_close ok abandonedReason
          simp only [State.close, if_neg isOpen] at abandoned
          exact consistent_fail abandoned untaken rfl _
        · exact ok
    · exact ok

/-- A submit call that begins keeps the session consistent. -/
theorem consistent_submitEnter {state : State} (ok : Consistent state) {request : RequestId}
    (absent : state.submit request = .absent) (now : Int) :
    Consistent (submitEnter self stuckLimit state request now) := by
  unfold submitEnter
  split
  · rename_i closed
    have untaken : (state.request request).started = false := by
      cases started : (state.request request).started with
      | false => rfl
      | true => simpa [absent] using ok.taken request started
    exact consistent_fail ok untaken (by simpa using closed) _
  · rename_i isOpen
    exact consistent_submitTurn (consistent_enqueue ok absent (by simpa using isOpen) now) _ _

end Calls

/-- A service call that carries nothing moves to where it carries nothing. -/
theorem consistent_move {state : State} (ok : Consistent state) {call : ServiceId}
    {place : Service} (free : (state.service call).carries = none)
    (freed : place.carries = none) : Consistent (state.setService call place) := by
  have before : ∀ which request,
      ((state.setService call place).service which).carries = some request →
        (state.service which).carries = some request := by
    intro which request
    by_cases same : which = call <;> simp [same, freed]
  refine { ok with holding := ?_, worked := ?_, unique := ?_, carried := ?_ }
  · intro which request holds
    refine ok.holding which request ?_
    by_cases same : which = call <;> simp_all [Service.carries]
  · intro which request works
    refine ok.worked which request ?_
    by_cases same : which = call <;> simp_all [Service.carries]
  · intro first second request one two
    exact ok.unique first second request (before _ _ one) (before _ _ two)
  · intro request started
    refine (ok.carried request started).imp_right ?_
    rintro ⟨which, carries⟩
    have distinct : which ≠ call := by
      rintro rfl
      simp [free] at carries
    exact ⟨which, by simpa [distinct] using carries⟩

/-- Taking the first request of an open session's queue. -/
theorem consistent_hold {state : State} (ok : Consistent state) {call : ServiceId}
    {request : RequestId} {rest : List RequestId} (free : (state.service call).carries = none)
    (front : state.queue = request :: rest) :
    Consistent ((({ state with queue := rest } : State).setRequest request
      { state.request request with started := true }).setService call (.holding request)) := by
  obtain ⟨waits, untaken⟩ := ok.queued request (by simp [front])
  have nodup := ok.nodup
  rw [front, List.nodup_cons] at nodup
  have unfinished : (state.request request).finished = false := by
    cases finished : (state.request request).finished with
    | false => rfl
    | true => simp [ok.finished request finished] at untaken
  have uncarried : ∀ which, (state.service which).carries ≠ some request := by
    intro which carries
    simp [(ok.of_carries carries).1] at untaken
  have unran := ok.untaken request untaken
  obtain ⟨closed, -, queued, waiting, taken, finished, succeeded, zero, once, holding, worked,
    unique, carried⟩ := ok
  rw [front] at queued waiting
  constructor
  · grind
  · exact nodup.2
  · grind
  · grind
  · grind
  · grind
  · grind
  · grind
  · grind
  · grind
  · grind
  · grind [Service.carries_eq_some]
  · intro other started
    by_cases same : other = request
    · exact Or.inr ⟨call, by simp [same, Service.carries]⟩
    · have before : (state.request other).started = true := by simpa [same] using started
      rcases carried other before with done | ⟨which, carries⟩
      · exact Or.inl (by simpa [same] using done)
      · have distinct : which ≠ call := by
          rintro rfl
          simp [free] at carries
        exact Or.inr ⟨which, by simpa [distinct] using carries⟩

/-- Taking a request, or waiting for one, keeps the session consistent. -/
theorem consistent_serviceTake {state : State} (ok : Consistent state) {call : ServiceId}
    (polling : state.service call = .polling) : Consistent (serviceTake state call) := by
  have free : (state.service call).carries = none := by simp [polling, Service.carries]
  unfold serviceTake
  split
  · exact consistent_move ok free rfl
  · cases front : state.queue with
    | nil => exact consistent_move ok free rfl
    | cons request rest => exact consistent_hold ok free front

/-- Running the work of a held request. -/
theorem consistent_work {state : State} (ok : Consistent state) {call : ServiceId}
    {request : RequestId} (held : state.service call = .holding request) :
    Consistent { state.setService call (.worked request) with ran := state.ran ++ [request] } := by
  obtain ⟨started, unfinished, unran⟩ := ok.holding call request held
  have carries : (state.service call).carries = some request := by simp [held, Service.carries]
  obtain ⟨closed, nodup, queued, waiting, taken, finished, succeeded, zero, once, holding, worked,
    unique, carried⟩ := ok
  have alone : ∀ which, (state.service which).carries = some request → which = call :=
    fun which other => unique which call request other carries
  constructor
  · exact closed
  · exact nodup
  · exact queued
  · exact waiting
  · exact taken
  · exact finished
  · exact succeeded
  · grind
  · grind
  · grind [Service.carries_eq_some]
  · grind [Service.carries_eq_some]
  · grind [Service.carries_eq_some]
  · intro other taken
    refine (carried other taken).imp_right ?_
    rintro ⟨which, stays⟩
    by_cases same : which = call
    · subst same
      rw [carries, Option.some.injEq] at stays
      exact ⟨which, by simp [stays, Service.carries]⟩
    · exact ⟨which, by simpa [same] using stays⟩

/-- Marking a request whose work returned keeps the session consistent. -/
theorem consistent_finish {state : State} (ok : Consistent state) {call : ServiceId}
    {request : RequestId} (ran : state.service call = .worked request) :
    Consistent ((state.setRequest request
      { state.request request with finished := true }).setService call .checking) := by
  obtain ⟨started, unfinished, count⟩ := ok.worked call request ran
  have carries : (state.service call).carries = some request := by simp [ran, Service.carries]
  obtain ⟨closed, nodup, queued, waiting, taken, finished, succeeded, zero, once, holding, worked,
    unique, carried⟩ := ok
  have alone : ∀ which, (state.service which).carries = some request → which = call :=
    fun which other => unique which call request other carries
  constructor
  · exact closed
  · exact nodup
  · grind
  · grind
  · grind
  · grind
  · grind
  · grind
  · grind
  · grind [Service.carries_eq_some]
  · grind [Service.carries_eq_some]
  · grind [Service.carries_eq_some]
  · intro other taken
    by_cases same : other = request
    · exact Or.inl (by simp [same])
    · have before : (state.request other).started = true := by simpa [same] using taken
      rcases carried other before with done | ⟨which, stays⟩
      · exact Or.inl (by simpa [same] using done)
      · have distinct : which ≠ call := by
          rintro rfl
          rw [carries, Option.some.injEq] at stays
          exact same stays.symm
        exact Or.inr ⟨which, by simpa [distinct] using stays⟩

section Runs

variable {self : Nat} {stuckLimit : Int}

/-- Every event keeps the session consistent. -/
theorem consistent_step (state : State) (event : Event) (next : State) (ok : Consistent state)
    (stepped : (session self stuckLimit).step state event = some next) : Consistent next := by
  cases event with
  | submit request now =>
    simp only [session, step] at stepped
    split at stepped
    · rename_i absent
      obtain rfl := Option.some.inj stepped
      exact consistent_submitEnter ok absent now
    · contradiction
  | wake request now =>
    simp only [session, step] at stepped
    split at stepped
    · obtain rfl := Option.some.inj stepped
      exact consistent_submitTurn ok request now
    · contradiction
  | enter call =>
    simp only [session, step] at stepped
    split at stepped
    · rename_i idle
      obtain rfl := Option.some.inj stepped
      exact consistent_move ok (by simp [idle, Service.carries]) rfl
    · contradiction
  | take call =>
    simp only [session, step] at stepped
    split at stepped
    · rename_i polling
      obtain rfl := Option.some.inj stepped
      exact consistent_serviceTake ok polling
    · contradiction
  | work call =>
    simp only [session, step] at stepped
    split at stepped
    · rename_i request held
      obtain rfl := Option.some.inj stepped
      exact consistent_work ok held
    · contradiction
  | finish call =>
    simp only [session, step] at stepped
    split at stepped
    · rename_i request ran
      obtain rfl := Option.some.inj stepped
      exact consistent_finish ok ran
    · contradiction
  | unwind call reason =>
    simp only [session, step] at stepped
    split at stepped
    · rename_i checking
      cases reason with
      | some reason =>
        obtain rfl := Option.some.inj stepped
        refine consistent_move (consistent_close ok reason) ?_ rfl
        unfold State.close
        split <;> simp [checking, Service.carries]
      | none =>
        obtain rfl := Option.some.inj stepped
        exact consistent_move ok (by simp [checking, Service.carries]) rfl
    · contradiction
  | close reason =>
    obtain rfl := Option.some.inj stepped
    exact consistent_close ok reason
  | drive driver =>
    obtain rfl := Option.some.inj stepped
    exact { ok with }

/-- What stays once it holds: a submitter's failure, a request's flag, and of a closed session
which requests were taken. -/
structure Onward (state later : State) : Prop where
  /-- A failed submit call stays failed. -/
  failed : ∀ request error, state.submit request = .failed error →
    later.submit request = .failed error
  /-- A taken request stays taken. -/
  started : ∀ request, (state.request request).started = true →
    (later.request request).started = true
  /-- A closed session stays closed and takes no request. -/
  closed : state.isOpen = false → later.isOpen = false ∧
    ∀ request, (later.request request).started = (state.request request).started

/-- A state is onward of itself, as nothing was taken back. -/
theorem Onward.refl (state : State) : Onward state state :=
  ⟨fun _ _ failed => failed, fun _ started => started, fun closed => ⟨closed, fun _ => rfl⟩⟩

/-- What is onward of a later state is onward of the first one. -/
theorem Onward.trans {first second third : State} (early : Onward first second)
    (late : Onward second third) : Onward first third where
  failed request error failed := late.failed request error (early.failed request error failed)
  started request started := late.started request (early.started request started)
  closed closed := by
    obtain ⟨shut, same⟩ := early.closed closed
    obtain ⟨stays, also⟩ := late.closed shut
    exact ⟨stays, fun request => (also request).trans (same request)⟩

/-- Closing a session undoes no failure and no request that was taken. -/
theorem onward_close (state : State) (reason : String) : Onward state (state.close reason) := by
  unfold State.close
  split
  · exact Onward.refl state
  · rename_i isOpen
    exact ⟨fun _ _ failed => failed, fun _ started => started, fun closed => by simp_all⟩

/-- A state with a service call at another place is onward. -/
theorem onward_setService (state : State) (call : ServiceId) (place : Service) :
    Onward state (state.setService call place) :=
  ⟨fun _ _ failed => failed, fun _ started => started, fun closed => ⟨closed, fun _ => rfl⟩⟩

/-- A submit call that has not failed may move anywhere. -/
theorem onward_setSubmit {state : State} {request : RequestId} (phase : Submit)
    (alive : ∀ error, state.submit request ≠ .failed error) :
    Onward state (state.setSubmit request phase) where
  failed other error failed := by
    have distinct : other ≠ request := by
      rintro rfl
      exact alive error failed
    simpa [distinct] using failed
  started _ started := started
  closed closed := ⟨closed, fun _ => rfl⟩

/-- A turn of a submit call that has not failed goes onward. -/
theorem onward_submitTurn {state : State} {request : RequestId} (now : Int)
    (alive : ∀ error, state.submit request ≠ .failed error) :
    Onward state (submitTurn self stuckLimit state request now) := by
  unfold submitTurn
  split
  · exact onward_setSubmit _ alive
  · split
    · split
      · exact onward_setSubmit _ alive
      · split
        · rename_i isOpen _
          have abandoned := onward_close state abandonedReason
          simp only [State.close, if_neg isOpen] at abandoned
          exact abandoned.trans (onward_setSubmit _ alive)
        · exact Onward.refl state
    · exact Onward.refl state

/-- A state with a new submit call is onward. -/
theorem onward_submitEnter {state : State} {request : RequestId} (now : Int)
    (absent : state.submit request = .absent) :
    Onward state (submitEnter self stuckLimit state request now) := by
  have alive : ∀ error, state.submit request ≠ .failed error := by simp [absent]
  unfold submitEnter
  split
  · exact onward_setSubmit _ alive
  · rename_i isOpen
    have queued : Onward state
        { state.setRequest request { state.request request with queuedAt := now } with
          queue := state.queue ++ [request] } := by
      refine ⟨fun _ _ failed => failed, ?_, fun closed => by simp_all⟩
      intro other started
      by_cases same : other = request
      · subst same
        simpa using started
      · simpa [same] using started
    refine (queued.trans (onward_setSubmit .waiting alive)).trans (onward_submitTurn now ?_)
    simp

/-- The head of the loop in `service` goes onward. -/
theorem onward_serviceTake (state : State) (call : ServiceId) :
    Onward state (serviceTake state call) := by
  unfold serviceTake
  split
  · exact onward_setService state call _
  · rename_i isOpen
    split
    · exact onward_setService state call _
    · refine ⟨fun _ _ failed => failed, ?_, fun closed => by simp_all⟩
      intro other started
      simp only [State.setService_request, State.setRequest_request]
      split <;> simp_all

/-- No event undoes a failure, a request that was taken or the end of a session. -/
theorem onward_step (state : State) (event : Event) (next : State) (ok : Consistent state)
    (stepped : (session self stuckLimit).step state event = some next) : Onward state next := by
  cases event with
  | submit request now =>
    simp only [session, step] at stepped
    split at stepped
    · rename_i absent
      obtain rfl := Option.some.inj stepped
      exact onward_submitEnter now absent
    · contradiction
  | wake request now =>
    simp only [session, step] at stepped
    split at stepped
    · rename_i waiting
      obtain rfl := Option.some.inj stepped
      exact onward_submitTurn now (by simp [waiting])
    · contradiction
  | enter call =>
    simp only [session, step] at stepped
    split at stepped
    · obtain rfl := Option.some.inj stepped
      exact onward_setService state call _
    · contradiction
  | take call =>
    simp only [session, step] at stepped
    split at stepped
    · obtain rfl := Option.some.inj stepped
      exact onward_serviceTake state call
    · contradiction
  | work call =>
    simp only [session, step] at stepped
    split at stepped
    · obtain rfl := Option.some.inj stepped
      exact ⟨fun _ _ failed => failed, fun _ started => started,
        fun closed => ⟨closed, fun _ => rfl⟩⟩
    · contradiction
  | finish call =>
    simp only [session, step] at stepped
    split at stepped
    · rename_i request ran
      have started := (ok.worked call request ran).1
      obtain rfl := Option.some.inj stepped
      refine ⟨fun _ _ failed => failed, fun other before => ?_, fun closed => ⟨closed, ?_⟩⟩
      · by_cases same : other = request
        · simp [same, started]
        · simpa [same] using before
      · intro other
        by_cases same : other = request
        · simp [same]
        · simp [same]
    · contradiction
  | unwind call reason =>
    simp only [session, step] at stepped
    split at stepped
    · cases reason with
      | some reason =>
        obtain rfl := Option.some.inj stepped
        exact (onward_close state reason).trans (onward_setService _ call _)
      | none =>
        obtain rfl := Option.some.inj stepped
        exact onward_setService state call _
    · contradiction
  | close reason =>
    obtain rfl := Option.some.inj stepped
    exact onward_close state reason
  | drive driver =>
    obtain rfl := Option.some.inj stepped
    exact ⟨fun _ _ failed => failed, fun _ started => started,
      fun closed => ⟨closed, fun _ => rfl⟩⟩

/-- A run from a consistent state goes onward. -/
theorem onward_run {state later : State} (ok : Consistent state)
    (reached : (session self stuckLimit).Reaches state later) : Onward state later :=
  reached.relates consistent_step Onward.refl (fun _ _ _ => Onward.trans) onward_step ok

/-- What submitters and the request thread may rely on in a state of a session. -/
structure HandsOver (self : Nat) (stuckLimit : Int) (state : State) : Prop where
  /-- No request's work runs twice. -/
  once : ∀ request, state.ran.count request ≤ 1
  /-- A submit call that returned true saw its work run once and finish. -/
  returnedTrue : ∀ request, state.submit request = .succeeded →
    state.ran.count request = 1 ∧ (state.request request).finished = true
  /-- A submit call whose work finished has not returned false, and its next turn returns
  true. -/
  returnsTrue : ∀ request, (state.request request).finished = true →
    (∀ error, state.submit request ≠ .failed error) ∧
      (state.submit request = .waiting → ∀ now, ∃ next,
        (session self stuckLimit).step state (.wake request now) = some next ∧
          next.submit request = .succeeded)
  /-- The work of a submit call that returned false has not started and never will. -/
  returnedFalse : ∀ request error, state.submit request = .failed error →
    ∀ later, (session self stuckLimit).Reaches state later →
      (later.request request).started = false ∧ later.ran.count request = 0
  /-- A taken request never fails its submitter: it is finished or a service call has it. -/
  keptOnceTaken : ∀ request, (state.request request).started = true →
    ∀ later, (session self stuckLimit).Reaches state later →
      (∀ error, later.submit request ≠ .failed error) ∧
        ((later.request request).finished = true ∨
          ∃ call, (later.service call).carries = some request)
  /-- A closed session takes no request. -/
  closed : state.isOpen = false → ∀ later, (session self stuckLimit).Reaches state later →
    ∀ request, (later.request request).started = (state.request request).started

/-- A request that was taken did not fail its submitter. -/
theorem Consistent.not_failed {state : State} (ok : Consistent state) {request : RequestId}
    (started : (state.request request).started = true) (error : String) :
    state.submit request ≠ .failed error := by
  intro failed
  simpa [failed] using ok.taken request started

/-- A finished request ends its submitter's next turn. -/
theorem wake_finished {state : State} {request : RequestId}
    (finished : (state.request request).finished = true)
    (waiting : state.submit request = .waiting) (now : Int) : ∃ next,
      (session self stuckLimit).step state (.wake request now) = some next ∧
        next.submit request = .succeeded :=
  ⟨state.setSubmit request .succeeded, by simp [session, step, waiting, submitTurn, finished],
    by simp⟩

/-- No work runs twice in a consistent state. -/
theorem Consistent.count_le {state : State} (ok : Consistent state) (request : RequestId) :
    state.ran.count request ≤ 1 := by
  cases started : (state.request request).started with
  | false => simp [ok.untaken request started]
  | true =>
    rcases ok.carried request started with finished | ⟨call, carries⟩
    · simp [ok.once request finished]
    · rcases Service.carries_eq_some.mp carries with held | ran
      · simp [(ok.holding call request held).2.2]
      · simp [(ok.worked call request ran).2.2]

/-- In every interleaving what is submitted is handed over, or fails with the session. -/
theorem handsOver {state : State} (reached : (session self stuckLimit).Reaches .new state) :
    HandsOver self stuckLimit state := by
  have ok := reached.preserves consistent_step consistent_new
  refine ⟨ok.count_le, ?_, ?_, ?_, ?_, ?_⟩
  · intro request succeeded
    have finished := ok.succeeded request succeeded
    exact ⟨ok.once request finished, finished⟩
  · intro request finished
    exact ⟨ok.not_failed (ok.finished request finished), wake_finished finished⟩
  · intro request error failed later onward
    have laterOk := onward.preserves consistent_step ok
    have stays := (onward_run ok onward).failed request error failed
    have untaken : (later.request request).started = false := by
      cases started : (later.request request).started with
      | false => rfl
      | true => exact absurd stays (laterOk.not_failed started error)
    exact ⟨untaken, laterOk.untaken request untaken⟩
  · intro request started later onward
    have laterOk := onward.preserves consistent_step ok
    have stays := (onward_run ok onward).started request started
    exact ⟨laterOk.not_failed stays, laterOk.carried request stays⟩
  · intro closed later onward
    exact ((onward_run ok onward).closed closed).2

/-- A session that closes while a service call runs the only request. -/
theorem handsOver_closing : ∃ state,
    (session 3 60000000000).Reaches .new state ∧ state.isOpen = false ∧
      HandsOver 3 60000000000 state :=
  have reached : (session 3 60000000000).Reaches .new _ :=
    ⟨[.enter 0, .submit 0 5, .take 0, .close "Result discarded", .work 0], rfl⟩
  ⟨_, reached, rfl, handsOver reached⟩

end Runs

end PhpDuckdb.Handoff
