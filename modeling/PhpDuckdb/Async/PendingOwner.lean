import PhpDuckdb.Async.Pending

/-!
# Who owns the handles of a pending query

`pending_owned` says what holds after every run of a task's methods, of its worker and of its
destruction, in each mode: its native handles are used in order and given up once, at most one
`await` returns a result, and later ones repeat the error of the task, or say that the result was
consumed. A cancellation that took effect is such an error.
-/

namespace PhpDuckdb.PendingQuery

open SqlText Connection Ownership

/-- The handles that a task or its deferred cleanup still has to give up. -/
def State.owns (state : State) : Handle → Bool
  | .pending =>
    state.task.record.any Record.pending ||
      state.cleanup.any fun cleanup => cleanup.record.any Record.pending
  | .result =>
    state.task.result ||
      state.cleanup.any fun cleanup => cleanup.destroyResult && cleanup.result
  | .discarded => false
  | .statement => state.task.ownedStmt || state.cleanup.any Cleanup.statement

/-- The worker has not executed the query. -/
def Worker.before : Worker → Bool
  | .queued | .entered _ => true
  | _ => false

/-- The worker holds no reference to the task. -/
def Worker.away : Worker → Bool
  | .absent | .gone => true
  | _ => false

/-- The handles that were not created yet. -/
def State.unused (state : State) : Handle → Bool
  | .result => state.task.record.isSome || state.worker.before
  | .discarded => state.owns .pending
  | _ => false

/-- The task failed with an error. -/
def State.failed (state : State) (error : NativeError) : Prop :=
  state.task.done = true ∧ state.task.error = true ∧ state.task.nativeError = error

/-- What holds of a task at every moment. -/
structure Owned (state : State) : Prop where
  /-- The calls on its native handles are in order: none after it was given up. -/
  in_order : ∃ statuses, handles.run allFresh (state.log.map Call.use) = some statuses ∧
    ∀ handle, statuses handle = .live ↔ state.owns handle = true
  /-- Each handle is given up once. -/
  given_up_once : ∀ handle,
    state.log.count (.destroy handle) + state.log.count (.hand handle) =
      if .create handle ∈ state.log ∧ state.owns handle = false then 1 else 0
  /-- The pending handle is only ever destroyed. -/
  pending_destroyed : Call.hand .pending ∉ state.log
  /-- A result is handed over once for each `await` that returns one. -/
  handed : state.log.count (.hand .result) = state.awaits.count .returned
  /-- At most one `await` returns. -/
  returned_once : state.awaits.count .returned ≤ 1
  /-- An error that an `await` threw is the failure of the task. -/
  thrown : ∀ error, .failed error ∈ state.awaits → state.failed error
  /-- Once the task is destroyed and its cleanup ran, it owns nothing. -/
  nothing_left : state.object = false → state.worker.away = true → state.cleanup = none →
    ∀ handle, state.owns handle = false

/-- An `await` in a handler of the connection: it is refused and changes nothing. -/
def State.refuses (state after : State) : Prop :=
  state.busyHere = true ∧ after = { state with awaits := state.awaits ++ [.refused] }

/-- What later calls of `await` do after a state. -/
structure Repeats (state : State) (later : List Await) : Prop where
  /-- After a failure they throw its error. -/
  failed : ∀ error, state.failed error →
    ∀ outcome ∈ later, outcome = .failed error ∨ outcome = .refused
  /-- After a result was returned they throw that it was consumed. -/
  returned : .returned ∈ state.awaits →
    ∀ outcome ∈ later, outcome = .consumed ∨ outcome = .refused

/-- The worker has not executed the query, and finds the request to cancel it. -/
def State.cancelSeen (state : State) : Prop :=
  state.worker = .queued ∧ state.task.cancelRequested = true ∨ state.worker = .entered true

/-- A call of `cancel()` on a polled query that is not done, outside of handlers. -/
def State.cancelsPolled (state : State) : Prop :=
  state.task.mode = .polling ∧ state.task.done = false ∧ state.busyHere = false

/-- A finished task has its result, its error, or neither any more. -/
structure Settled (task : Task) : Prop where
  /-- Its record is gone. -/
  record : task.record = none
  /-- After an error nothing is left to consume. -/
  error : task.error = true → task.consumed = true
  /-- It has a result unless that was consumed. -/
  result : task.result = !task.consumed

/-- A task that was not executed. -/
structure Waiting (task : Task) : Prop where
  /-- It is not done. -/
  done : task.done = false
  /-- It has no error. -/
  error : task.error = false
  /-- There is nothing to consume yet. -/
  consumed : task.consumed = false
  /-- It has no result. -/
  result : task.result = false

/-- What the worker knows of its task. -/
def Worker.Fits (worker : Worker) (task : Task) : Prop :=
  match worker with
  | .absent => task.mode = .polling
  | .queued | .entered _ => task.mode ≠ .polling ∧ task.record = none ∧ Waiting task
  | .executed =>
    task.mode ≠ .polling ∧ task.record = none ∧ task.done = false ∧ task.consumed = false ∧
      (task.error = false → task.result = true)
  | .cleaned => task.mode ≠ .polling ∧ task.done = false ∧ Settled task
  | .published | .gone => task.mode ≠ .polling ∧ task.done = true

/-- What every step of a pending query keeps. -/
structure Consistent (state : State) : Prop where
  /-- The calls on native handles are in order. -/
  in_order : Leaves allFresh (state.log.map Call.use) (fun handle => state.owns handle = true)
    fun handle => state.unused handle = true
  /-- The worker knows its task. -/
  worker : state.worker.Fits state.task
  /-- A record belongs to a polled query that was not executed. -/
  record : ∀ record, state.task.record = some record →
    record.pending = true ∧ state.object = true ∧ state.worker = .absent ∧ Waiting state.task
  /-- A task that is done is settled. -/
  settled : state.task.done = true → Settled state.task
  /-- A polled query without a record is done. -/
  polled : state.worker = .absent → state.task.record = none → state.object = true →
    state.task.done = true
  /-- A destroyed task has nothing. -/
  dead : state.object = false → state.worker.away = true →
    state.task.record = none ∧ state.task.consumed = true ∧ state.task.result = false ∧
      state.task.ownedStmt = false
  /-- A deferred cleanup is of a destroyed task. -/
  cleanup : ∀ cleanup, state.cleanup = some cleanup →
    (state.object = false ∧ state.worker.away = true) ∧
      (cleanup.result = true → cleanup.destroyResult = true) ∧
      ∀ record, cleanup.record = some record → record.pending = true
  /-- A method keeps its object. -/
  method : state.method ≠ none → state.object = true
  /-- Only results and statements are handed on. -/
  hands : Call.hand .pending ∉ state.log
  /-- A result is handed over for each `await` that returns. -/
  handed : state.log.count (.hand .result) = state.awaits.count .returned
  /-- A returned result was consumed. -/
  returned : .returned ∈ state.awaits →
    state.task.done = true ∧ state.task.error = false ∧ state.task.consumed = true
  /-- A thrown error is that of the task. -/
  thrown : ∀ error, .failed error ∈ state.awaits → state.failed error

/-- A new task is consistent in each mode. -/
theorem consistent_fresh (mode : Mode) (session : Bool) : Consistent (.fresh mode session) where
  in_order := by
    cases mode with
    | polling =>
      have created : Leaves allFresh ([] ++ [.create Handle.statement] ++ [.create .pending])
          (fun handle => (False ∨ handle = .statement) ∨ handle = .pending)
          fun handle => (True ∧ handle ≠ .statement) ∧ handle ≠ .pending := by
        have nothing : Leaves allFresh [] (fun _ : Handle => False) fun _ => True :=
          ⟨allFresh, rfl, by simp [allFresh], fun _ _ => rfl⟩
        exact (nothing.create trivial).create ⟨trivial, by simp⟩
      refine created.weaken ?_ ?_
      · intro handle
        cases handle <;> simp [State.fresh, State.owns]
      · intro handle new
        cases handle <;> simp_all [State.fresh, State.unused, State.owns]
    | threadQuery | threadPrepared =>
      refine ⟨allFresh, rfl, ?_, fun _ _ => rfl⟩
      intro handle
      cases handle <;> simp [State.fresh, State.owns, allFresh]
  worker := by
    cases mode with
    | polling => rfl
    | threadQuery | threadPrepared => exact ⟨by simp [State.fresh], rfl, rfl, rfl, rfl, rfl⟩
  record record given := by
    cases mode with
    | polling =>
      obtain rfl := Option.some.inj given
      exact ⟨rfl, rfl, rfl, rfl, rfl, rfl, rfl⟩
    | threadQuery | threadPrepared => cases given
  settled done := by cases done
  polled absent none := by
    cases mode with
    | polling => cases none
    | threadQuery | threadPrepared => cases absent
  dead gone := by cases gone
  cleanup cleanup given := by cases given
  method running := absurd rfl running
  hands := by cases mode <;> simp [State.fresh]
  handed := by cases mode <;> rfl
  returned inside := by cases inside
  thrown error inside := by cases inside

section Calls

variable {log : List Call} {alive fresh : Handle → Prop}

/-- Discarding a pending query uses and destroys its handle, and a result of its own. -/
theorem leaves_discard (leaves : Leaves allFresh (log.map Call.use) alive fresh)
    (living : alive .pending) (absent : ¬alive .discarded) (new : fresh .discarded)
    (result : Bool) :
    Leaves allFresh ((log ++ discardPending result).map Call.use)
      (fun handle => alive handle ∧ handle ≠ .pending)
      fun handle => fresh handle ∧ handle ≠ .pending ∧ handle ≠ .discarded := by
  have used := (leaves.touch living).touch living
  cases result with
  | false =>
    have calls : (log ++ discardPending false).map Call.use =
        log.map Call.use ++ [.touch .pending] ++ [.touch .pending] ++ [.destroy .pending] := by
      simp [discardPending, Call.use]
    rw [calls]
    exact (used.destroy living).weaken (fun _ => Iff.rfl) fun _ unused => ⟨unused.1, unused.2.1⟩
  | true =>
    have calls : (log ++ discardPending true).map Call.use =
        log.map Call.use ++ [.touch .pending] ++ [.touch .pending] ++ [.create .discarded] ++
          [.destroy .discarded] ++ [.destroy .pending] := by
      simp [discardPending, Call.use]
    rw [calls]
    have ended := ((used.create new).destroy (Or.inr rfl)).destroy ⟨Or.inl living, by simp⟩
    refine ended.weaken ?_ ?_
    · intro handle
      constructor
      · rintro ⟨⟨either, apart⟩, ended⟩
        exact ⟨either.resolve_right apart, ended⟩
      · rintro ⟨living, ended⟩
        refine ⟨⟨Or.inl living, ?_⟩, ended⟩
        rintro rfl
        exact absent living
    · rintro handle ⟨unused, notPending, notDiscarded⟩
      exact ⟨⟨⟨unused, notDiscarded⟩, notDiscarded⟩, notPending⟩

/-- An execution that may create a result leaves the handles in order. -/
theorem leaves_executed (leaves : Leaves allFresh (log.map Call.use) alive fresh)
    (new : fresh .result) (result : Bool) :
    Leaves allFresh ((log ++ if result then [Call.create .result] else []).map Call.use)
      (fun handle => alive handle ∨ handle = .result ∧ result = true)
      fun handle => fresh handle ∧ handle ≠ .result := by
  cases result with
  | false =>
    simp only [Bool.false_eq_true, if_false, List.append_nil, and_false, or_false]
    exact leaves.weaken (fun _ => Iff.rfl) fun _ unused => unused.1
  | true =>
    simp only [if_true, and_true, List.map_append, List.map_cons, List.map_nil]
    exact leaves.create new

/-- A handle is destroyed if there is one. -/
theorem leaves_destroyed (leaves : Leaves allFresh (log.map Call.use) alive fresh)
    (handle : Handle) (held : Bool) (living : held = true ↔ alive handle) :
    Leaves allFresh ((log ++ if held then [Call.destroy handle] else []).map Call.use)
      (fun other => alive other ∧ other ≠ handle) fun other => fresh other ∧ other ≠ handle := by
  cases held with
  | false =>
    simp only [Bool.false_eq_true, if_false, List.append_nil]
    refine leaves.weaken ?_ fun _ unused => unused.1
    intro other
    refine ⟨fun alive_other => ⟨alive_other, ?_⟩, And.left⟩
    rintro rfl
    exact absurd (living.mpr alive_other) (by simp)
  | true =>
    simp only [if_true, List.map_append, List.map_cons, List.map_nil]
    exact leaves.destroy (living.mp rfl)

/-- A cleanup gives up everything that is still owned. -/
theorem leaves_cleanup (state : State) (cleanup : Cleanup) (result : Bool)
    (leaves : Leaves allFresh (state.log.map Call.use) alive fresh)
    (pending : cleanup.record.any Record.pending = true ↔ alive .pending)
    (held : (cleanup.destroyResult && cleanup.result) = true ↔ alive .result)
    (statement : cleanup.statement = true ↔ alive .statement) (absent : ¬alive .discarded)
    (new : alive .pending → fresh .discarded) :
    Leaves allFresh ((runCleanup state cleanup result).log.map Call.use) (fun _ => False)
      fun _ => False := by
  have discarded : Leaves allFresh
      ((state.log ++ cleanup.record.elim [] fun record => openResultDestroy record result).map
        Call.use) (fun handle => alive handle ∧ handle ≠ .pending) fun _ => False := by
    cases given : cleanup.record with
    | none =>
      rw [Option.elim_none, List.append_nil]
      refine leaves.weaken (fun handle => ⟨fun living => ⟨living, ?_⟩, And.left⟩)
        fun _ never => never.elim
      rintro rfl
      have gone := pending.mpr living
      rw [given] at gone
      cases gone
    | some record =>
      rw [Option.elim_some, openResultDestroy]
      rw [given] at pending
      split
      · rename_i here
        have living := pending.mp here
        exact (leaves_discard leaves living absent (new living) result).weaken
          (fun _ => Iff.rfl) fun _ never => never.elim
      · rename_i gone
        rw [List.append_nil]
        refine leaves.weaken (fun handle => ⟨fun living => ⟨living, ?_⟩, And.left⟩)
          fun _ never => never.elim
        rintro rfl
        exact gone (pending.mpr living)
  have cleared := leaves_destroyed discarded .result (cleanup.destroyResult && cleanup.result)
    (held.trans ⟨fun living => ⟨living, by simp⟩, And.left⟩)
  have ended := leaves_destroyed cleared .statement cleanup.statement
    (statement.trans ⟨fun living => ⟨⟨living, by simp⟩, by simp⟩, fun living => living.1.1⟩)
  have log : (runCleanup state cleanup result).log =
      (state.log ++ cleanup.record.elim [] fun record => openResultDestroy record result) ++
        (if cleanup.destroyResult && cleanup.result then [.destroy .result] else []) ++
        if cleanup.statement then [.destroy .statement] else [] := by
    simp [runCleanup, State.call]
  rw [log]
  refine ended.weaken (fun handle => ⟨?_, False.elim⟩) fun _ never => never.elim
  rintro ⟨⟨⟨living, notPending⟩, notResult⟩, notStatement⟩
  cases handle with
  | pending => exact notPending rfl
  | result => exact notResult rfl
  | statement => exact notStatement rfl
  | discarded => exact absent living

/-- A cleanup hands no handle on to PHP. -/
theorem cleanup_hands (state : State) (cleanup : Cleanup) (result : Bool) (handle : Handle) :
    (runCleanup state cleanup result).log.count (.hand handle) =
      state.log.count (.hand handle) := by
  have discards : ∀ record : Record,
      (openResultDestroy record result).count (.hand handle) = 0 := by
    intro record
    unfold openResultDestroy discardPending
    split
    · cases result <;> simp
    · rfl
  have first : (cleanup.record.elim [] fun record => openResultDestroy record result).count
      (.hand handle) = 0 := by
    cases cleanup.record with
    | none => rfl
    | some record => exact discards record
  have second : (if cleanup.destroyResult && cleanup.result then [Call.destroy .result]
      else []).count (.hand handle) = 0 := by
    split <;> simp
  have third : (if cleanup.statement then [Call.destroy .statement] else []).count
      (.hand handle) = 0 := by
    split <;> simp
  simp only [runCleanup, State.call, List.count_append, first, second, third, Nat.add_zero]

end Calls

/-- A task's own result is destroyed if it has one. -/
theorem destroyResult_eq (state : State) :
    destroyResult state =
      { state with
        log := state.log ++ if state.task.result then [.destroy .result] else []
        task := { state.task with result := false } } := by
  unfold destroyResult
  split
  · rename_i held
    simp [State.call]
  · rename_i free
    obtain ⟨⟨mode, done, cancel, running, error, consumed, native, result, record, statement⟩,
      worker, object, method, depth, cleanup, log, awaits⟩ := state
    cases result with
    | true => exact absurd rfl free
    | false => simp

/-- The worker of a task that is done has executed it, if there is one. -/
theorem Worker.Fits.not_before {worker : Worker} {task : Task} (fits : worker.Fits task)
    (done : task.done = true) : worker.before = false := by
  cases worker with
  | queued | entered cancelled =>
    have unfinished := fits.2.2.done
    rw [done] at unfinished
    cases unfinished
  | absent | executed | cleaned | published | gone => rfl

/-- Once a task is done, its worker looks only at that. -/
theorem Worker.Fits.finished {worker : Worker} {task other : Task} (fits : worker.Fits task)
    (done : task.done = true) (mode : other.mode = task.mode) (still : other.done = true) :
    worker.Fits other := by
  have unfinished : task.done ≠ false := by simp [done]
  cases worker with
  | absent => exact mode.trans fits
  | published | gone => exact ⟨mode ▸ fits.1, still⟩
  | queued | entered cancelled => exact absurd fits.2.2.done unfinished
  | executed => exact absurd fits.2.2.1 unfinished
  | cleaned => exact absurd fits.2.1 unfinished

section Steps

variable {state after : State}

/-- Nothing is deferred for a task that lives. -/
theorem Consistent.not_deferred (before : Consistent state)
    (living : state.object = true ∨ state.worker.away = false) : state.cleanup = none := by
  cases given : state.cleanup with
  | none => rfl
  | some cleanup =>
    obtain ⟨⟨gone, away⟩, _⟩ := before.cleanup cleanup given
    rcases living with object | busy
    · rw [gone] at object
      cases object
    · rw [away] at busy
      cases busy

/-- A task stays consistent when a method starts or ends. -/
theorem Consistent.running (before : Consistent state) (object : state.object = true)
    (method : Option Method) : Consistent { state with method } where
  in_order := before.in_order
  worker := before.worker
  record := before.record
  settled := before.settled
  polled := before.polled
  dead := before.dead
  cleanup := before.cleanup
  method _ := object
  hands := before.hands
  handed := before.handed
  returned := before.returned
  thrown := before.thrown

/-- A task stays consistent when a handler of the connection starts or ends. -/
theorem Consistent.handler (before : Consistent state) (depth : Nat) :
    Consistent { state with handlerDepth := depth } where
  in_order := before.in_order
  worker := before.worker
  record := before.record
  settled := before.settled
  polled := before.polled
  dead := before.dead
  cleanup := before.cleanup
  method := before.method
  hands := before.hands
  handed := before.handed
  returned := before.returned
  thrown := before.thrown

/-- An `await` throws: the error of the task only if it failed. -/
theorem Consistent.threw (before : Consistent state) {outcome : Await}
    (threw : outcome ≠ .returned) (fits : ∀ error, outcome = .failed error → state.failed error) :
    Consistent { state with awaits := state.awaits ++ [outcome] } where
  in_order := before.in_order
  worker := before.worker
  record := before.record
  settled := before.settled
  polled := before.polled
  dead := before.dead
  cleanup := before.cleanup
  method := before.method
  hands := before.hands
  handed := by
    rw [List.count_append, List.count_singleton, if_neg (by simpa using threw)]
    exact before.handed
  returned inside := by
    rcases List.mem_append.mp inside with earlier | last
    · exact before.returned earlier
    · exact absurd (List.mem_singleton.mp last).symm threw
  thrown error inside := by
    rcases List.mem_append.mp inside with earlier | last
    · exact before.thrown error earlier
    · exact fits error (List.mem_singleton.mp last).symm

/-- Before the worker executes the query, or while it has a record, no `await` has thrown its error
or returned. -/
theorem Consistent.untouched (before : Consistent state) (unfinished : state.task.done = false) :
    .returned ∉ state.awaits ∧ ∀ error, .failed error ∉ state.awaits := by
  constructor
  · intro inside
    have done := (before.returned inside).1
    rw [unfinished] at done
    cases done
  · intro error inside
    have done := (before.thrown error inside).1
    rw [unfinished] at done
    cases done

/-- The worker reads the flag of its task. -/
theorem Consistent.workerEnter (before : Consistent state) (queued : state.worker = .queued) :
    Consistent { state with
      task := { state.task with workerRunning := !state.task.cancelRequested }
      worker := .entered state.task.cancelRequested } := by
  have fits := before.worker
  rw [queued] at fits
  obtain ⟨threaded, none, waiting⟩ := fits
  exact {
    in_order := by
      refine before.in_order.weaken (fun handle => ?_) fun handle unused => ?_
      · cases handle <;> rfl
      · cases handle with
        | result => simp [State.unused, queued, Worker.before]
        | pending | statement | discarded => exact unused
    worker := ⟨threaded, none, waiting.done, waiting.error, waiting.consumed, waiting.result⟩
    record := fun record given => by
      rw [none] at given
      cases given
    settled := fun done => by
      rw [waiting.done] at done
      cases done
    polled := fun absent => by cases absent
    dead := fun _ away => by cases away
    cleanup := fun cleanup given => by
      rw [before.not_deferred (Or.inr (by rw [queued]; rfl))] at given
      cases given
    method := before.method
    hands := before.hands
    handed := before.handed
    returned := before.returned
    thrown := before.thrown }

/-- The worker records an outcome, with a native result if there is one. -/
theorem Consistent.workerExecute (before : Consistent state) {cancelled : Bool}
    (entered : state.worker = .entered cancelled) (result error : Bool) (native : NativeError)
    (outcome : error = false → result = true) :
    Consistent { state.call (if result then [.create .result] else []) with
      task := { state.task with result, error, nativeError := native }
      worker := .executed } := by
  have fits := before.worker
  rw [entered] at fits
  obtain ⟨threaded, none, waiting⟩ := fits
  have nothing := before.not_deferred (Or.inr (by rw [entered]; rfl))
  obtain ⟨unreturned, unthrown⟩ := before.untouched waiting.done
  exact {
    in_order := by
      have new : state.unused .result = true := by simp [State.unused, entered, Worker.before]
      refine (leaves_executed before.in_order new result).weaken (fun handle => ?_)
        fun handle unused => ?_
      · cases handle <;> simp [State.owns, State.call, waiting.result, nothing]
      · cases handle with
        | result =>
          simp [State.unused, none, Worker.before] at unused
        | pending | statement | discarded => exact ⟨unused, by simp⟩
    worker := ⟨threaded, none, waiting.done, waiting.consumed, outcome⟩
    record := fun record given => by
      have given' : state.task.record = some record := given
      rw [none] at given'
      cases given'
    settled := fun done => by
      have done' : state.task.done = true := done
      rw [waiting.done] at done'
      cases done'
    polled := fun absent => by cases absent
    dead := fun _ away => by cases away
    cleanup := fun cleanup given => by
      have given' : state.cleanup = some cleanup := given
      rw [nothing] at given'
      cases given'
    method := before.method
    hands := by
      have absent : Call.hand .pending ∉ (if result then [Call.create .result] else []) := by
        split <;> simp
      exact fun inside => (List.mem_append.mp inside).elim before.hands absent
    handed := by
      have absent : (if result then [Call.create .result] else []).count (.hand .result) = 0 := by
        split <;> simp
      show (state.log ++ _).count _ = _
      rw [List.count_append, absent]
      exact before.handed
    returned := fun inside => absurd inside unreturned
    thrown := fun error inside => absurd inside (unthrown error) }

/-- The worker keeps a result for an `await`. -/
theorem Consistent.workerKeep (before : Consistent state) (executed : state.worker = .executed)
    (succeeded : state.task.error = false) : Consistent { state with worker := .cleaned } := by
  have fits := before.worker
  rw [executed] at fits
  obtain ⟨threaded, none, unfinished, unconsumed, outcome⟩ := fits
  exact {
    in_order := by
      refine before.in_order.weaken (fun handle => ?_) fun handle unused => ?_
      · cases handle <;> rfl
      · cases handle with
        | result => simp [State.unused, none, Worker.before] at unused
        | pending | statement | discarded => exact unused
    worker := by
      refine ⟨threaded, unfinished, none, fun failed => ?_, ?_⟩
      · rw [succeeded] at failed
        cases failed
      · rw [outcome succeeded, unconsumed]
        rfl
    record := fun record given => by
      rw [none] at given
      cases given
    settled := before.settled
    polled := fun absent => by cases absent
    dead := fun _ away => by cases away
    cleanup := fun cleanup given => by
      rw [before.not_deferred (Or.inr (by rw [executed]; rfl))] at given
      cases given
    method := before.method
    hands := before.hands
    handed := before.handed
    returned := before.returned
    thrown := before.thrown }

/-- The destruction of a failed result by the worker keeps the task consistent. -/
theorem Consistent.workerClean (before : Consistent state) (executed : state.worker = .executed) :
    Consistent { destroyResult state with
      task := { (destroyResult state).task with consumed := true }
      worker := .cleaned } := by
  have fits := before.worker
  rw [executed] at fits
  obtain ⟨threaded, none, unfinished, unconsumed, outcome⟩ := fits
  have nothing := before.not_deferred (Or.inr (by rw [executed]; rfl))
  obtain ⟨unreturned, unthrown⟩ := before.untouched unfinished
  rw [destroyResult_eq]
  exact {
    in_order := by
      have held : state.task.result = true ↔ state.owns .result = true := by
        simp [State.owns, nothing]
      refine (leaves_destroyed before.in_order .result state.task.result held).weaken
        (fun handle => ?_) fun handle unused => ?_
      · cases handle <;> simp [State.owns, nothing]
      · cases handle with
        | result => simp [State.unused, none, Worker.before] at unused
        | pending | statement | discarded => exact ⟨unused, by simp⟩
    worker := ⟨threaded, unfinished, none, fun _ => rfl, rfl⟩
    record := fun record given => by
      have given' : state.task.record = some record := given
      rw [none] at given'
      cases given'
    settled := fun done => by
      have done' : state.task.done = true := done
      rw [unfinished] at done'
      cases done'
    polled := fun absent => by cases absent
    dead := fun _ away => by cases away
    cleanup := fun cleanup given => by
      have given' : state.cleanup = some cleanup := given
      rw [nothing] at given'
      cases given'
    method := before.method
    hands := by
      have absent : Call.hand .pending ∉
          (if state.task.result then [Call.destroy .result] else []) := by
        split <;> simp
      exact fun inside => (List.mem_append.mp inside).elim before.hands absent
    handed := by
      have absent : (if state.task.result then [Call.destroy .result] else []).count
          (.hand .result) = 0 := by
        split <;> simp
      show (state.log ++ _).count _ = _
      rw [List.count_append, absent]
      exact before.handed
    returned := fun inside => absurd inside unreturned
    thrown := fun error inside => absurd inside (unthrown error) }

/-- A task stays consistent when its worker publishes the completion. -/
theorem Consistent.workerPublish (before : Consistent state) (cleaned : state.worker = .cleaned) :
    Consistent { state with
      task := { state.task with workerRunning := false, done := true }
      worker := .published } := by
  have fits := before.worker
  rw [cleaned] at fits
  obtain ⟨threaded, unfinished, settled⟩ := fits
  obtain ⟨unreturned, unthrown⟩ := before.untouched unfinished
  exact {
    in_order := by
      refine before.in_order.weaken (fun handle => ?_) fun handle unused => ?_
      · cases handle <;> rfl
      · cases handle with
        | result => simp [State.unused, settled.record, Worker.before] at unused
        | pending | statement | discarded => exact unused
    worker := ⟨threaded, rfl⟩
    record := fun record given => by
      have given' : state.task.record = some record := given
      rw [settled.record] at given'
      cases given'
    settled := fun _ => ⟨settled.record, settled.error, settled.result⟩
    polled := fun absent => by cases absent
    dead := fun _ away => by cases away
    cleanup := fun cleanup given => by
      rw [before.not_deferred (Or.inr (by rw [cleaned]; rfl))] at given
      cases given
    method := before.method
    hands := before.hands
    handed := before.handed
    returned := fun inside => absurd inside unreturned
    thrown := fun error inside => absurd inside (unthrown error) }

/-- A task stays consistent when an `await` sees the completion. -/
theorem Consistent.complete (before : Consistent state) (object : state.object = true)
    (done : state.task.done = true) : Consistent (pendingComplete state) := by
  have settled := before.settled done
  have nothing := before.not_deferred (Or.inl object)
  unfold pendingComplete
  split
  · rename_i failed
    refine before.threw (by simp) fun error same => ?_
    obtain rfl := Await.failed.inj same
    exact ⟨done, failed, rfl⟩
  · rename_i succeeded
    have clear : state.task.error = false := Bool.eq_false_iff.mpr succeeded
    split
    · exact before.threw (by simp) fun error same => by cases same
    · rename_i open_
      have unconsumed : state.task.consumed = false := Bool.eq_false_iff.mpr open_
      have held : state.task.result = true := by
        rw [settled.result, unconsumed]
        rfl
      exact {
        in_order := by
          have living : state.owns .result = true := by simp [State.owns, held]
          show Leaves _ ((state.log ++ [Call.hand .result]).map Call.use) _ _
          rw [List.map_append]
          refine (before.in_order.destroy living).weaken (fun handle => ?_) fun handle unused => ?_
          · cases handle <;> simp [State.owns, State.call, nothing]
          · cases handle with
            | result =>
              have unused' : state.unused .result = true := unused
              simp only [State.unused, settled.record] at unused'
              rw [before.worker.not_before done] at unused'
              cases unused'
            | pending | statement | discarded => exact ⟨unused, by simp⟩
        worker := before.worker.finished done rfl done
        record := fun record given => by
          have given' : state.task.record = some record := given
          rw [settled.record] at given'
          cases given'
        settled := fun _ => ⟨settled.record, fun _ => rfl, rfl⟩
        polled := fun _ _ _ => done
        dead := fun gone => by
          have gone' : state.object = false := gone
          rw [object] at gone'
          cases gone'
        cleanup := fun cleanup given => by
          have given' : state.cleanup = some cleanup := given
          rw [nothing] at given'
          cases given'
        method := before.method
        hands := fun inside =>
          (List.mem_append.mp inside).elim before.hands fun last => by
            cases List.mem_singleton.mp last
        handed := by
          show (state.log ++ _).count _ = (state.awaits ++ _).count _
          rw [List.count_append, List.count_append, before.handed]
          rfl
        returned := fun _ => ⟨done, clear, rfl⟩
        thrown := fun error inside => by
          rcases List.mem_append.mp inside with earlier | last
          · exact before.thrown error earlier
          · cases List.mem_singleton.mp last }

/-- The deferred cleanup of a destroyed task runs. -/
theorem Consistent.drain (before : Consistent state) {cleanup : Cleanup}
    (given : state.cleanup = some cleanup) (result : Bool) :
    Consistent { runCleanup state cleanup result with cleanup := none } := by
  obtain ⟨⟨gone, away⟩, kept, pending⟩ := before.cleanup cleanup given
  obtain ⟨noRecord, consumed, noResult, noStatement⟩ := before.dead gone away
  have hands := cleanup_hands state cleanup result
  exact {
    in_order := by
      refine (leaves_cleanup state cleanup result before.in_order ?_ ?_ ?_ ?_ ?_).weaken
        (fun handle => ?_) fun handle unused => ?_
      · simp [State.owns, given, noRecord]
      · simp [State.owns, given, noResult]
      · simp [State.owns, given, noStatement]
      · simp [State.owns]
      · exact fun living => living
      · cases handle <;>
          simp [State.owns, runCleanup, State.call, noRecord, noResult, noStatement]
      · have away' : state.worker.before = false := by
          cases worker : state.worker with
          | queued | entered cancelled => simp [worker, Worker.away] at away
          | absent | executed | cleaned | published | gone => rfl
        cases handle <;>
          simp [State.unused, State.owns, runCleanup, State.call, noRecord, away'] at unused
    worker := before.worker
    record := before.record
    settled := before.settled
    polled := before.polled
    dead := before.dead
    cleanup := fun _ never => by cases never
    method := before.method
    hands := by
      rw [← List.count_eq_zero]
      exact (hands .pending).trans (List.count_eq_zero.mpr before.hands)
    handed := (hands .result).trans before.handed
    returned := before.returned
    thrown := before.thrown }

/-- The last reference to a task goes. -/
theorem Consistent.destruct (before : Consistent state)
    (living : state.object = true ∨ state.worker.away = false) (idle : state.method = none)
    {worker : Worker} (away : worker.away = true) (fits : worker.Fits state.task)
    (whole : state.task.record = none → state.task.done = true) (inHandler result : Bool) :
    Consistent (destruct { state with object := false, worker } inHandler result) := by
  have nothing := before.not_deferred living
  have not_before : worker.before = false := by
    cases worker with
    | queued | entered cancelled => cases away
    | absent | executed | cleaned | published | gone => rfl
  have whole_result : (!state.task.consumed && state.task.result) = state.task.result := by
    cases given : state.task.record with
    | some record => simp [(before.record record given).2.2.2.result]
    | none => simp [(before.settled (whole given)).result]
  have fits_other : ∀ task : Task, task.mode = state.task.mode → task.done = state.task.done →
      worker.Fits task := by
    intro task mode done
    cases worker with
    | absent => exact mode.trans fits
    | gone => exact ⟨mode ▸ fits.1, done.trans fits.2⟩
    | queued | entered | executed | cleaned | published => cases away
  have settled : ∀ task : Task, task.record = none → task.consumed = true → task.result = false →
      Settled task :=
    fun task none consumed result => ⟨none, fun _ => consumed, by rw [consumed, result]; rfl⟩
  have returned : .returned ∈ state.awaits →
      state.task.done = true ∧ state.task.error = false ∧ true = true := fun inside =>
    ⟨(before.returned inside).1, (before.returned inside).2.1, rfl⟩
  unfold PendingQuery.destruct
  dsimp only
  split
  · split
    · exact {
        in_order := by
          refine before.in_order.weaken (fun handle => ?_) fun handle unused => ?_
          · cases handle <;> simp [State.owns, nothing, whole_result]
          · cases handle with
            | discarded =>
              simpa [State.unused, State.owns, nothing] using unused
            | result => simp [State.unused, not_before] at unused
            | pending | statement => exact unused
        worker := fits_other _ rfl rfl
        record := fun _ never => by cases never
        settled := fun _ => settled _ rfl rfl rfl
        polled := fun _ _ never => by cases never
        dead := fun _ _ => ⟨rfl, rfl, rfl, rfl⟩
        cleanup := fun cleanup given => by
          obtain rfl := Option.some.inj given
          refine ⟨⟨rfl, away⟩, fun held => ?_, fun record here => (before.record record here).1⟩
          have held' : state.task.result = true := held
          rw [held', Bool.and_true] at whole_result
          exact whole_result
        method := fun busy => absurd idle busy
        hands := before.hands
        handed := before.handed
        returned := returned
        thrown := before.thrown }
    · exact {
        in_order := by
          refine (leaves_cleanup _ _ result before.in_order ?_ ?_ ?_ ?_ ?_).weaken
            (fun handle => ?_) fun handle unused => ?_
          · simp [State.owns, nothing]
          · simp [State.owns, nothing, whole_result]
          · simp [State.owns, nothing]
          · simp [State.owns]
          · exact fun living => living
          · cases handle <;> simp [State.owns, runCleanup, State.call, nothing]
          · cases handle <;>
              simp [State.unused, State.owns, runCleanup, State.call, nothing, not_before] at unused
        worker := fits_other _ rfl rfl
        record := fun _ never => by cases never
        settled := fun _ => settled _ rfl rfl rfl
        polled := fun _ _ never => by cases never
        dead := fun _ _ => ⟨rfl, rfl, rfl, rfl⟩
        cleanup := fun cleanup given => by
          have given' : state.cleanup = some cleanup := given
          rw [nothing] at given'
          cases given'
        method := fun busy => absurd idle busy
        hands := by
          rw [← List.count_eq_zero, cleanup_hands]
          exact List.count_eq_zero.mpr before.hands
        handed := (cleanup_hands _ _ result .result).trans before.handed
        returned := returned
        thrown := before.thrown }
  · rename_i finished
    simp only [Bool.or_eq_true, Bool.not_eq_true', not_or, Bool.not_eq_false] at finished
    obtain ⟨unrecorded, consumed⟩ := finished
    have noRecord : state.task.record = none := Option.not_isSome_iff_eq_none.mp unrecorded
    have noResult : state.task.result = false := by
      rw [consumed] at whole_result
      exact whole_result.symm
    split
    · rename_i held
      exact {
        in_order := by
          have living : state.owns .statement = true := by simp [State.owns, held]
          show Leaves _ ((state.log ++ [Call.hand .statement]).map Call.use) _ _
          rw [List.map_append]
          refine (before.in_order.destroy living).weaken (fun handle => ?_) fun handle unused => ?_
          · cases handle <;> simp [State.owns, State.call, nothing]
          · cases handle with
            | discarded =>
              simp [State.unused, State.owns, State.call, nothing, noRecord] at unused
            | result => simp [State.unused, State.call, noRecord, not_before] at unused
            | pending | statement => cases unused
        worker := fits_other _ rfl rfl
        record := fun record given => by
          have given' : state.task.record = some record := given
          rw [noRecord] at given'
          cases given'
        settled := fun _ => settled _ noRecord consumed noResult
        polled := fun _ _ never => by cases never
        dead := fun _ _ => ⟨noRecord, consumed, noResult, rfl⟩
        cleanup := fun cleanup given => by
          have given' : state.cleanup = some cleanup := given
          rw [nothing] at given'
          cases given'
        method := fun busy => absurd idle busy
        hands := fun inside =>
          (List.mem_append.mp inside).elim before.hands fun last => by
            cases List.mem_singleton.mp last
        handed := by
          show (state.log ++ _).count _ = _
          rw [List.count_append]
          exact before.handed
        returned := before.returned
        thrown := before.thrown }
    · rename_i free
      have noStatement : state.task.ownedStmt = false := Bool.eq_false_iff.mpr free
      exact {
        in_order := by
          refine before.in_order.weaken (fun handle => ?_) fun handle unused => ?_
          · cases handle <;> rfl
          · cases handle with
            | result => simp [State.unused, noRecord, not_before] at unused
            | discarded | pending | statement => exact unused
        worker := fits
        record := fun record given => by
          have given' : state.task.record = some record := given
          rw [noRecord] at given'
          cases given'
        settled := before.settled
        polled := fun _ _ never => by cases never
        dead := fun _ _ => ⟨noRecord, consumed, noResult, noStatement⟩
        cleanup := fun cleanup given => by
          have given' : state.cleanup = some cleanup := given
          rw [nothing] at given'
          cases given'
        method := fun busy => absurd idle busy
        hands := before.hands
        handed := before.handed
        returned := before.returned
        thrown := before.thrown }

/-- A polled query that is not done has its record. -/
theorem Consistent.recorded (before : Consistent state) {record : Record}
    (given : state.task.record = some record) :
    record.pending = true ∧ state.object = true ∧ state.worker = .absent ∧
      Waiting state.task ∧ state.cleanup = none ∧ state.owns .pending = true ∧
      state.unused .result = true ∧ .returned ∉ state.awaits ∧
      ∀ error, .failed error ∉ state.awaits := by
  obtain ⟨pending, object, absent, waiting⟩ := before.record record given
  refine ⟨pending, object, absent, waiting, before.not_deferred (Or.inl object), ?_, ?_,
    before.untouched waiting.done⟩
  · simp [State.owns, given, pending]
  · simp [State.unused, given]

/-- A polled query is discarded with an error. -/
theorem Consistent.discarded (before : Consistent state) {record : Record}
    (given : state.task.record = some record) (native : NativeError) (result : Bool) :
    Consistent { state.call (openResultDestroy record result) with
      task := { state.task with
        error := true, nativeError := native, consumed := true, record := none, done := true } } := by
  obtain ⟨pending, object, absent, waiting, nothing, living, _, unreturned, unthrown⟩ :=
    before.recorded given
  have calls : openResultDestroy record result = discardPending result := by
    rw [openResultDestroy, if_pos pending]
  have quiet : ∀ handle, (discardPending result).count (.hand handle) = 0 := by
    intro handle
    cases result <;> simp [discardPending]
  rw [calls]
  exact {
    in_order := by
      refine (leaves_discard before.in_order living (by simp [State.owns]) living result).weaken
        (fun handle => ?_) fun handle unused => ?_
      · cases handle <;> simp [State.owns, State.call, nothing, waiting.result]
      · cases handle with
        | result => simp [State.unused, State.call, absent, Worker.before] at unused
        | discarded => simp [State.unused, State.owns, State.call, nothing] at unused
        | pending | statement => cases unused
    worker := by
      have fits := before.worker
      rw [absent] at fits
      show state.worker.Fits _
      rw [absent]
      exact fits
    record := fun record given => by cases given
    settled := fun _ => ⟨rfl, fun _ => rfl, waiting.result⟩
    polled := fun _ _ _ => rfl
    dead := fun gone => by
      have gone' : state.object = false := gone
      rw [object] at gone'
      cases gone'
    cleanup := fun cleanup given => by
      have given' : state.cleanup = some cleanup := given
      rw [nothing] at given'
      cases given'
    method := before.method
    hands := by
      have silent := List.count_eq_zero.mp (quiet .pending)
      exact fun inside => (List.mem_append.mp inside).elim before.hands silent
    handed := by
      show (state.log ++ _).count _ = _
      rw [List.count_append, quiet]
      exact before.handed
    returned := fun inside => absurd inside unreturned
    thrown := fun error inside => absurd inside (unthrown error) }

/-- A step that is not the last one uses the pending handle. -/
theorem Consistent.stepping (before : Consistent state) {record : Record}
    (given : state.task.record = some record) : Consistent (state.call [.touch .pending]) := by
  obtain ⟨_, _, _, _, _, living, _, _, _⟩ := before.recorded given
  exact {
    in_order := by
      show Leaves _ ((state.log ++ [Call.touch .pending]).map Call.use) _ _
      rw [List.map_append]
      exact before.in_order.touch living
    worker := before.worker
    record := before.record
    settled := before.settled
    polled := before.polled
    dead := before.dead
    cleanup := before.cleanup
    method := before.method
    hands := fun inside =>
      (List.mem_append.mp inside).elim before.hands fun last => by
        cases List.mem_singleton.mp last
    handed := by
      show (state.log ++ _).count _ = _
      rw [List.count_append]
      exact before.handed
    returned := before.returned
    thrown := before.thrown }

/-- The task of a polled query that was executed. -/
def executedTask (task : Task) : Executed → Task
  | .succeeded => { task with result := true, record := none, done := true }
  | .failed _ type message =>
    { task with
      result := false
      error := true
      nativeError := ⟨type, orFallback message (lit "Query execution failed")⟩
      record := none
      consumed := true
      done := true }

/-- The calls of executing a polled query. -/
def executedCalls : Executed → List Call
  | .succeeded => [.touch .pending, .touch .pending, .create .result, .destroy .pending]
  | .failed true _ _ =>
    [.touch .pending, .touch .pending, .create .result, .destroy .pending, .destroy .result]
  | .failed false _ _ => [.touch .pending, .touch .pending, .destroy .pending]

/-- What the last step of a polled query does. -/
theorem taskStepOnce_executed {record : Record} {outcome : Executed}
    (unconsumed : state.task.error = false)
    (stepped : taskStepOnce state record (.executed outcome) = some after) :
    after = { state.call (executedCalls outcome) with task := executedTask state.task outcome } := by
  obtain rfl := Option.some.inj stepped
  cases outcome with
  | succeeded =>
    simp [taskFinishPending, State.call, Executed.calls, Executed.result, executedCalls,
      executedTask, unconsumed]
  | failed result type message =>
    cases result <;>
      simp [taskFinishPending, destroyResult, State.call, Executed.calls, Executed.result,
        executedCalls, executedTask]

/-- A task stays consistent when a polled query is executed in its last step. -/
theorem Consistent.executed (before : Consistent state) {record : Record}
    (given : state.task.record = some record) (outcome : Executed) :
    Consistent { state.call (executedCalls outcome) with
      task := executedTask state.task outcome } := by
  obtain ⟨pending, object, absent, waiting, nothing, living, new, unreturned, unthrown⟩ :=
    before.recorded given
  have quiet : ∀ handle, (executedCalls outcome).count (.hand handle) = 0 := by
    intro handle
    cases outcome with
    | succeeded => simp [executedCalls]
    | failed result => cases result <;> simp [executedCalls]
  have flags : (executedTask state.task outcome).mode = state.task.mode ∧
      (executedTask state.task outcome).done = true ∧
      (executedTask state.task outcome).ownedStmt = state.task.ownedStmt ∧
      Settled (executedTask state.task outcome) := by
    cases outcome with
    | succeeded =>
      refine ⟨rfl, rfl, rfl, rfl, fun failed => ?_, ?_⟩
      · rw [executedTask, waiting.error] at failed
        cases failed
      · rw [executedTask, waiting.consumed]
        rfl
    | failed => exact ⟨rfl, rfl, rfl, rfl, fun _ => rfl, rfl⟩
  obtain ⟨mode, done, statement, settled⟩ := flags
  have used := (before.in_order.touch living).touch living
  exact {
    in_order := by
      have ended : Leaves allFresh ((state.log ++ executedCalls outcome).map Call.use)
          (fun handle => (state.owns handle = true ∨
            handle = .result ∧ (executedTask state.task outcome).result = true) ∧
              handle ≠ .pending) fun _ => False := by
        cases outcome with
        | succeeded =>
          have calls : (state.log ++ executedCalls .succeeded).map Call.use =
              state.log.map Call.use ++ [.touch .pending] ++ [.touch .pending] ++
                [.create .result] ++ [.destroy .pending] := by
            simp [executedCalls, Call.use]
          rw [calls]
          refine ((used.create new).destroy (Or.inl living)).weaken (fun handle => ?_)
            fun _ never => never.elim
          simp [executedTask]
        | failed result type message =>
          cases result with
          | true =>
            have calls : (state.log ++ executedCalls (.failed true type message)).map Call.use =
                state.log.map Call.use ++ [.touch .pending] ++ [.touch .pending] ++
                  [.create .result] ++ [.destroy .pending] ++ [.destroy .result] := by
              simp [executedCalls, Call.use]
            rw [calls]
            have destroyed := (used.create new).destroy (Or.inl living)
            refine (destroyed.destroy ⟨Or.inr rfl, by simp⟩).weaken (fun handle => ?_)
              fun _ never => never.elim
            cases handle <;> simp [executedTask, State.owns, waiting.result, nothing]
          | false =>
            have calls : (state.log ++ executedCalls (.failed false type message)).map Call.use =
                state.log.map Call.use ++ [.touch .pending] ++ [.touch .pending] ++
                  [.destroy .pending] := by
              simp [executedCalls, Call.use]
            rw [calls]
            refine (used.destroy living).weaken (fun handle => ?_) fun _ never => never.elim
            simp [executedTask]
      refine ended.weaken (fun handle => ?_) fun handle unused => ?_
      · cases handle <;>
          simp [State.owns, State.call, nothing, waiting.result, settled.record, statement]
      · cases handle with
        | result =>
          simp [State.unused, State.call, settled.record, absent, Worker.before] at unused
        | discarded =>
          simp [State.unused, State.owns, State.call, nothing, settled.record] at unused
        | pending | statement => cases unused
    worker := by
      have fits := before.worker
      rw [absent] at fits
      show state.worker.Fits _
      rw [absent]
      exact mode.trans fits
    record := fun record given => by
      have given' : (executedTask state.task outcome).record = some record := given
      rw [settled.record] at given'
      cases given'
    settled := fun _ => settled
    polled := fun _ _ _ => done
    dead := fun gone => by
      have gone' : state.object = false := gone
      rw [object] at gone'
      cases gone'
    cleanup := fun cleanup given => by
      have given' : state.cleanup = some cleanup := given
      rw [nothing] at given'
      cases given'
    method := before.method
    hands := by
      have silent := List.count_eq_zero.mp (quiet .pending)
      exact fun inside => (List.mem_append.mp inside).elim before.hands silent
    handed := by
      show (state.log ++ _).count _ = _
      rw [List.count_append, quiet]
      exact before.handed
    returned := fun inside => absurd inside unreturned
    thrown := fun error inside => absurd inside (unthrown error) }

/-- A task stays consistent when the cancellation of its thread is requested. -/
theorem Consistent.requested (before : Consistent state) :
    Consistent { state with task := { state.task with cancelRequested := true } } where
  in_order := by
    refine before.in_order.weaken (fun handle => ?_) fun handle unused => ?_
    · cases handle <;> rfl
    · cases handle <;> exact unused
  worker := by
    have fits := before.worker
    show state.worker.Fits _
    cases worker : state.worker with
    | absent | executed | published | gone =>
      rw [worker] at fits
      exact fits
    | queued | entered cancelled =>
      rw [worker] at fits
      obtain ⟨threaded, none, waiting⟩ := fits
      exact ⟨threaded, none, waiting.done, waiting.error, waiting.consumed, waiting.result⟩
    | cleaned =>
      rw [worker] at fits
      obtain ⟨threaded, unfinished, settled⟩ := fits
      exact ⟨threaded, unfinished, settled.record, settled.error, settled.result⟩
  record record given := by
    obtain ⟨pending, object, absent, waiting⟩ := before.record record given
    exact ⟨pending, object, absent, waiting.done, waiting.error, waiting.consumed, waiting.result⟩
  settled done := by
    have settled := before.settled done
    exact ⟨settled.record, settled.error, settled.result⟩
  polled := before.polled
  dead := before.dead
  cleanup := before.cleanup
  method := before.method
  hands := before.hands
  handed := before.handed
  returned := before.returned
  thrown := before.thrown

/-- A polled query that is not done fails when it is cancelled. -/
theorem taskCancel_polling {record : Record} (waiting : Waiting state.task)
    (polling : state.task.mode = .polling) (given : state.task.record = some record)
    (starts result : Bool) :
    taskCancel state starts result =
      { state.call (openResultDestroy record result) with
        task := { state.task with
          error := true, nativeError := interrupted, consumed := true, record := none,
          done := true } } := by
  simp [taskCancel, destroyResult, State.call, waiting.done, polling, given, waiting.result]

/-- A polled query has no worker. -/
theorem Consistent.absent (before : Consistent state) (polling : state.task.mode = .polling) :
    state.worker = .absent := by
  have fits := before.worker
  cases worker : state.worker with
  | absent => rfl
  | queued | entered | executed | cleaned | published | gone =>
    rw [worker] at fits
    exact absurd polling fits.1

/-- A call of `cancel()` keeps the task consistent, whether or not a thread starts. -/
theorem Consistent.cancel (before : Consistent state) (object : state.object = true)
    (starts result : Bool) : Consistent (taskCancel state starts result) := by
  by_cases done : state.task.done = true
  · rw [taskCancel, if_pos done]
    exact before
  · by_cases polling : state.task.mode = .polling
    · cases given : state.task.record with
      | some record =>
        obtain ⟨_, _, _, waiting⟩ := before.record record given
        rw [taskCancel_polling waiting polling given]
        exact before.discarded given interrupted result
      | none =>
        exact absurd (before.polled (before.absent polling) given object) done
    · rw [taskCancel, if_neg done, if_neg polling]
      split
      · exact before
      · split
        · exact before.requested
        · exact before

/-- A step of a polled query keeps it consistent, and its method goes on or ends. -/
theorem Consistent.stepped (before : Consistent state) {record : Record}
    (given : state.task.record = some record) {outcome : Stepped}
    (stepped : taskStepOnce state record outcome = some after) :
    Consistent after ∧ after.object = true := by
  obtain ⟨_, object, _, waiting⟩ := before.record record given
  cases outcome with
  | refused message result =>
    simp only [taskStepOnce] at stepped
    split at stepped
    · obtain rfl := Option.some.inj stepped
      exact ⟨before.discarded given ⟨.internal, message⟩ result, object⟩
    · cases stepped
  | notReady =>
    obtain rfl := Option.some.inj stepped
    exact ⟨before.stepping given, object⟩
  | executed outcome =>
    rw [taskStepOnce_executed waiting.error stepped]
    exact ⟨before.executed given outcome, object⟩

/-- The worker of a task that still has its object gives its reference up. -/
theorem Consistent.workerLeaves (before : Consistent state)
    (published : state.worker = .published) (object : state.object = true) :
    Consistent { state with worker := .gone } := by
  have fits := before.worker
  rw [published] at fits
  have settled := before.settled fits.2
  exact {
    in_order := by
      refine before.in_order.weaken (fun handle => ?_) fun handle unused => ?_
      · cases handle <;> rfl
      · cases handle with
        | result => simp [State.unused, settled.record, Worker.before] at unused
        | discarded | pending | statement => exact unused
    worker := fits
    record := fun record given => by
      rw [settled.record] at given
      cases given
    settled := before.settled
    polled := fun absent => by cases absent
    dead := fun gone => by
      rw [object] at gone
      cases gone
    cleanup := fun cleanup given => by
      rw [before.not_deferred (Or.inl object)] at given
      cases given
    method := before.method
    hands := before.hands
    handed := before.handed
    returned := before.returned
    thrown := before.thrown }

/-- The last reference to a task goes with its worker. -/
theorem Consistent.workerLast (before : Consistent state) (published : state.worker = .published)
    (gone : state.object = false) (result : Bool) :
    Consistent (PendingQuery.destruct { state with worker := .gone } false result) := by
  have fits := before.worker
  rw [published] at fits
  have idle : state.method = none := by
    by_contra busy
    rw [before.method busy] at gone
    cases gone
  have same : { state with worker := .gone } = { state with object := false, worker := .gone } := by
    rw [← gone]
  rw [same]
  exact before.destruct (Or.inr (by rw [published]; rfl)) idle rfl
    (show Worker.gone.Fits state.task from fits) (fun _ => fits.2) false result

/-- The PHP object goes while the worker has its task. -/
theorem Consistent.objectLeaves (before : Consistent state) (object : state.object = true)
    (idle : state.method = none) (going : state.worker.away = false) :
    Consistent { state with object := false } := by
  have present : state.worker ≠ .absent := by
    intro absent
    rw [absent] at going
    cases going
  exact {
    in_order := by
      refine before.in_order.weaken (fun handle => ?_) fun handle unused => ?_
      · cases handle <;> rfl
      · cases handle <;> exact unused
    worker := before.worker
    record := fun record given => absurd (before.record record given).2.2.1 present
    settled := before.settled
    polled := fun absent => absurd absent present
    dead := fun _ away => by
      rw [going] at away
      cases away
    cleanup := fun cleanup given => by
      rw [before.not_deferred (Or.inl object)] at given
      cases given
    method := fun running => absurd idle running
    hands := before.hands
    handed := before.handed
    returned := before.returned
    thrown := before.thrown }

/-- The PHP object has the last reference to its task. -/
theorem Consistent.objectLast (before : Consistent state) (object : state.object = true)
    (idle : state.method = none) (away : state.worker.away = true) (inHandler result : Bool) :
    Consistent (PendingQuery.destruct { state with object := false } inHandler result) := by
  have fits := before.worker
  refine before.destruct (Or.inl object) idle away fits (fun none => ?_) inHandler result
  cases worker : state.worker with
  | absent => exact before.polled worker none object
  | gone =>
    rw [worker] at fits
    exact fits.2
  | queued | entered | executed | cleaned | published =>
    rw [worker] at away
    cases away

/-- A worker that starts finds whether the query was cancelled. -/
theorem Consistent.stepWorkerEnter (before : Consistent state)
    (stepped : step state .workerEnter = some after) : Consistent after := by
  simp only [PendingQuery.step] at stepped
  split at stepped
  · rename_i queued
    obtain rfl := Option.some.inj stepped
    exact before.workerEnter queued
  · cases stepped

/-- A worker executes the query, or skips one that was cancelled. -/
theorem Consistent.stepWorkerExecute {outcome : Executed} (before : Consistent state)
    (stepped : step state (.workerExecute outcome) = some after) : Consistent after := by
  simp only [PendingQuery.step] at stepped
  split at stepped
  · rename_i cancelled entered
    split at stepped
    · -- A cancelled query is not executed.
      obtain rfl := Option.some.inj stepped
      have waiting := before.worker
      rw [entered] at waiting
      have skipped := before.workerExecute entered false true interrupted (by simp)
      have same : { state.task with error := true, nativeError := interrupted } =
          { state.task with result := false, error := true, nativeError := interrupted } := by
        rw [← waiting.2.2.result]
      rw [same]
      simpa [State.call] using skipped
    · obtain rfl := Option.some.inj stepped
      cases outcome with
      | succeeded =>
        have waiting := before.worker
        rw [entered] at waiting
        have ran := before.workerExecute entered true false state.task.nativeError fun _ => rfl
        simpa [PendingQuery.workerExecute, ← waiting.2.2.error] using ran
      | failed result type message =>
        exact before.workerExecute entered result true (resultError type message) (by simp)
  · cases stepped

/-- A worker destroys the result of a query that failed. -/
theorem Consistent.stepWorkerClean (before : Consistent state)
    (stepped : step state .workerClean = some after) : Consistent after := by
  simp only [PendingQuery.step] at stepped
  split at stepped
  · rename_i executed
    split at stepped
    · obtain rfl := Option.some.inj stepped
      exact before.workerClean executed
    · rename_i succeeded
      obtain rfl := Option.some.inj stepped
      exact before.workerKeep executed (Bool.eq_false_iff.mpr succeeded)
  · cases stepped

/-- A worker that has cleaned up publishes the completion. -/
theorem Consistent.stepWorkerPublish (before : Consistent state)
    (stepped : step state .workerPublish = some after) : Consistent after := by
  simp only [PendingQuery.step] at stepped
  split at stepped
  · rename_i cleaned
    obtain rfl := Option.some.inj stepped
    exact before.workerPublish cleaned
  · cases stepped

/-- A worker gives up its reference, and with the last one the task goes. -/
theorem Consistent.stepWorkerGone {result : Bool} (before : Consistent state)
    (stepped : step state (.workerGone result) = some after) : Consistent after := by
  simp only [PendingQuery.step] at stepped
  split at stepped
  · rename_i published
    obtain rfl := Option.some.inj stepped
    split
    · rename_i object
      exact before.workerLeaves published object
    · rename_i gone
      exact before.workerLast published (Bool.eq_false_iff.mpr gone) result
  · cases stepped

/-- A call of `isReady` starts polling, or finds nothing to do. -/
theorem Consistent.stepIsReady (before : Consistent state)
    (stepped : step state .isReady = some after) : Consistent after := by
  simp only [PendingQuery.step] at stepped
  split at stepped
  · cases stepped
  · rename_i object
    split at stepped
    · obtain rfl := Option.some.inj stepped
      exact before
    · split at stepped
      · cases stepped
      · split at stepped
        · obtain rfl := Option.some.inj stepped
          exact before.running (by simpa using object) (some .isReady)
        · obtain rfl := Option.some.inj stepped
          exact before

/-- A call of `await` starts waiting, or is refused in a handler. -/
theorem Consistent.stepAwait (before : Consistent state)
    (stepped : step state .await = some after) : Consistent after := by
  simp only [PendingQuery.step] at stepped
  split at stepped
  · cases stepped
  · rename_i object
    split at stepped
    · obtain rfl := Option.some.inj stepped
      exact before.threw (by simp) fun error same => by cases same
    · split at stepped
      · cases stepped
      · obtain rfl := Option.some.inj stepped
        exact before.running (by simpa using object) (some .await)

/-- A call of `cancel` requests or makes the cancellation. -/
theorem Consistent.stepCancel {starts result : Bool} (before : Consistent state)
    (stepped : step state (.cancel starts result) = some after) : Consistent after := by
  simp only [PendingQuery.step] at stepped
  split at stepped
  · cases stepped
  · rename_i object
    split at stepped
    · obtain rfl := Option.some.inj stepped
      exact before
    · split at stepped
      · cases stepped
      · obtain rfl := Option.some.inj stepped
        exact before.cancel (by simpa using object) starts result

/-- A step of the task is taken for the method that is running. -/
theorem Consistent.stepPolled {outcome : Stepped} {unwinding : Bool} (before : Consistent state)
    (stepped : step state (.step outcome unwinding) = some after) : Consistent after := by
  simp only [PendingQuery.step] at stepped
  split at stepped
  · cases stepped
  · split at stepped
    · rename_i method record running given
      obtain ⟨next, away, rfl⟩ := Option.map_eq_some_iff.mp stepped
      obtain ⟨holds, object⟩ := before.stepped given away
      split
      · exact holds.running object none
      · exact holds
    · cases stepped

/-- An `await` ends with the outcome of the task. -/
theorem Consistent.stepComplete (before : Consistent state)
    (stepped : step state .complete = some after) : Consistent after := by
  simp only [PendingQuery.step] at stepped
  split at stepped
  · rename_i ready
    obtain ⟨awaiting, _, done⟩ := ready
    obtain rfl := Option.some.inj stepped
    have object := before.method (by rw [awaiting]; simp)
    have completed := before.complete object done
    refine completed.running ?_ none
    unfold pendingComplete
    split
    · exact object
    · split <;> exact object
  · cases stepped

/-- The PHP object goes, and the task with it unless a worker holds it. -/
theorem Consistent.stepRelease {result : Bool} (before : Consistent state)
    (stepped : step state (.release result) = some after) : Consistent after := by
  simp only [PendingQuery.step] at stepped
  split at stepped
  · cases stepped
  · rename_i allowed
    obtain rfl := Option.some.inj stepped
    simp only [Bool.not_eq_true', ne_eq, not_or, Bool.not_eq_false, not_not] at allowed
    obtain ⟨object, idle⟩ := allowed
    split
    · rename_i away
      refine before.objectLast object idle ?_ state.busyHere result
      rcases away with absent | gone
      · have absent' : state.worker = .absent := absent
        rw [absent']
        rfl
      · have gone' : state.worker = .gone := gone
        rw [gone']
        rfl
    · rename_i going
      refine before.objectLeaves object idle ?_
      cases worker : state.worker with
      | absent => exact absurd (Or.inl worker) going
      | gone => exact absurd (Or.inr worker) going
      | queued | entered | executed | cleaned | published => rfl

/-- The deferred cleanup runs once no handler is running. -/
theorem Consistent.stepDrain {result : Bool} (before : Consistent state)
    (stepped : step state (.drain result) = some after) : Consistent after := by
  simp only [PendingQuery.step] at stepped
  split at stepped
  · rename_i cleanup given
    split at stepped
    · cases stepped
    · obtain rfl := Option.some.inj stepped
      exact before.drain given result
  · cases stepped

/-- Every step keeps the task consistent. -/
theorem Consistent.step {event : Event} (before : Consistent state)
    (stepped : step state event = some after) : Consistent after := by
  cases event with
  | workerEnter => exact before.stepWorkerEnter stepped
  | workerExecute _ => exact before.stepWorkerExecute stepped
  | workerClean => exact before.stepWorkerClean stepped
  | workerPublish => exact before.stepWorkerPublish stepped
  | workerGone _ => exact before.stepWorkerGone stepped
  | isReady => exact before.stepIsReady stepped
  | await => exact before.stepAwait stepped
  | cancel _ _ => exact before.stepCancel stepped
  | step _ _ => exact before.stepPolled stepped
  | complete => exact before.stepComplete stepped
  | enter =>
    obtain rfl := Option.some.inj stepped
    exact before.handler _
  | leave =>
    simp only [PendingQuery.step] at stepped
    split at stepped
    · obtain rfl := Option.some.inj stepped
      exact before.handler _
    · cases stepped
  | release _ => exact before.stepRelease stepped
  | drain _ => exact before.stepDrain stepped

end Steps

/-- What every step keeps says what holds of a task. -/
theorem Consistent.owned {state : State} (holds : Consistent state) : Owned state := by
  obtain ⟨statuses, ran, live, _⟩ := holds.in_order
  have given_up : ∀ handle,
      state.log.count (.destroy handle) + state.log.count (.hand handle) =
        if .create handle ∈ state.log ∧ state.owns handle = false then 1 else 0 := by
    intro handle
    have once := destroyed_once ran handle
    have split : ∀ log : List Call, (log.map Call.use).count (.destroy handle) =
        log.count (.destroy handle) + log.count (.hand handle) := by
      intro log
      induction log with
      | nil => rfl
      | cons call rest ih =>
        rw [List.map_cons, List.count_cons, List.count_cons, List.count_cons, ih]
        cases call with
        | create | touch => simp [Call.use]
        | destroy | hand => simp [Call.use]; omega
    have created : .create handle ∈ state.log.map Call.use ↔ .create handle ∈ state.log := by
      constructor
      · intro inside
        obtain ⟨call, there, same⟩ := List.mem_map.mp inside
        cases call with
        | create other =>
          obtain rfl := Use.create.inj same
          exact there
        | touch | destroy | hand => cases same
      · exact fun inside => List.mem_map.mpr ⟨_, inside, rfl⟩
    rw [split state.log] at once
    rw [once]
    simp only [created, ne_eq, live handle, Bool.not_eq_true]
  refine ⟨⟨statuses, ran, live⟩, given_up, holds.hands, holds.handed, ?_, holds.thrown, ?_⟩
  · have once := given_up .result
    rw [← holds.handed]
    split at once <;> omega
  · intro gone away nothing handle
    obtain ⟨noRecord, _, noResult, noStatement⟩ := holds.dead gone away
    cases handle <;> simp [State.owns, nothing, noRecord, noResult, noStatement]

section Outcomes

variable {state after : State}

/-- The outcome of a task stays. -/
def SameOutcome (task other : Task) : Prop :=
  other.done = task.done ∧ other.error = task.error ∧ other.nativeError = task.nativeError ∧
    other.cancelRequested = task.cancelRequested

/-- The worker finds, or has recorded, that its query was cancelled. -/
def State.doomed (state : State) : Prop :=
  match state.worker with
  | .absent => False
  | .queued => state.task.cancelRequested = true
  | .entered cancelled => cancelled = true
  | .executed | .cleaned | .published | .gone =>
    state.task.error = true ∧ state.task.nativeError = interrupted

/-- What an `await` of a task that is done does. -/
def verdict (task : Task) : Await :=
  if task.error then .failed task.nativeError else if task.consumed then .consumed else .returned

/-- What a step does to the outcome of a task. -/
structure Follows (state after : State) : Prop where
  /-- Once the task is done its outcome stays. -/
  outcome : state.task.done = true → after.task.done = true ∧
    after.task.error = state.task.error ∧ after.task.nativeError = state.task.nativeError
  /-- An `await` is refused, or tells the outcome. -/
  awaits : ∃ later, after.awaits = state.awaits ++ later ∧
    ∀ told ∈ later, (told = .refused ∧ state.refuses after) ∨
      state.task.done = true ∧ told = verdict state.task
  /-- The worker keeps finding a cancellation. -/
  doomed : state.doomed → after.doomed

/-- A step that changes nothing of the outcome follows from the state before. -/
theorem Follows.quiet (same : SameOutcome state.task after.task)
    (worker : after.worker = state.worker) (awaits : after.awaits = state.awaits) :
    Follows state after where
  outcome done := ⟨same.1.trans done, same.2.1, same.2.2.1⟩
  awaits := ⟨[], by rw [awaits, List.append_nil], by simp⟩
  doomed doomed := by
    obtain ⟨_, error, native, requested⟩ := same
    unfold State.doomed at doomed ⊢
    rw [worker, error, native, requested]
    exact doomed

/-- An `await` that tells the outcome or is refused changes nothing else. -/
theorem Follows.tells {told : Await}
    (truth : (told = .refused ∧ state.refuses after) ∨
      state.task.done = true ∧ told = verdict state.task)
    (same : SameOutcome state.task after.task) (worker : after.worker = state.worker)
    (awaits : after.awaits = state.awaits ++ [told]) : Follows state after := by
  have silent : Follows state { after with awaits := state.awaits } :=
    Follows.quiet same worker rfl
  refine ⟨silent.outcome, ⟨[told], awaits, ?_⟩, silent.doomed⟩
  intro other inside
  rw [List.mem_singleton.mp inside]
  exact truth

/-- A step of a task that is not done. -/
theorem Follows.unfinished (unfinished : state.task.done = false)
    (awaits : after.awaits = state.awaits) (doomed : state.doomed → after.doomed) :
    Follows state after where
  outcome done := by
    rw [unfinished] at done
    cases done
  awaits := ⟨[], by rw [awaits, List.append_nil], by simp⟩
  doomed := doomed

/-- The destruction of a task keeps the outcome that was recorded. -/
theorem destruct_outcome (state : State) (inHandler result : Bool) :
    SameOutcome state.task (destruct state inHandler result).task ∧
      (destruct state inHandler result).awaits = state.awaits ∧
      (destruct state inHandler result).worker = state.worker := by
  unfold destruct
  dsimp only
  split
  · split <;> exact ⟨⟨rfl, rfl, rfl, rfl⟩, rfl, rfl⟩
  · split <;> exact ⟨⟨rfl, rfl, rfl, rfl⟩, rfl, rfl⟩

/-- The completion of an `await` tells the outcome. -/
theorem pendingComplete_follows (done : state.task.done = true) :
    Follows state (pendingComplete state) := by
  unfold pendingComplete
  split
  · rename_i failed
    exact Follows.tells (Or.inr ⟨done, by rw [verdict, if_pos failed]⟩) ⟨rfl, rfl, rfl, rfl⟩ rfl rfl
  · rename_i succeeded
    split
    · rename_i consumed
      exact Follows.tells (Or.inr ⟨done, by rw [verdict, if_neg succeeded, if_pos consumed]⟩)
        ⟨rfl, rfl, rfl, rfl⟩ rfl rfl
    · rename_i unconsumed
      exact Follows.tells (Or.inr ⟨done, by rw [verdict, if_neg succeeded, if_neg unconsumed]⟩)
        ⟨rfl, rfl, rfl, rfl⟩ rfl rfl

/-- A cancellation keeps the outcome of a task that is done, and what a worker finds. -/
theorem taskCancel_follows (before : Consistent state) (starts result : Bool) :
    Follows state (taskCancel state starts result) := by
  unfold taskCancel
  split
  · exact Follows.quiet ⟨rfl, rfl, rfl, rfl⟩ rfl rfl
  · rename_i running
    have unfinished : state.task.done = false := Bool.eq_false_iff.mpr running
    split
    · rename_i polling
      refine Follows.unfinished unfinished ?_ fun doomed => ?_
      · dsimp only
        rw [destroyResult_eq]
        cases state.task.record <;> rfl
      · have fits := before.worker
        unfold State.doomed at doomed
        cases worker : state.worker with
        | absent => simp [worker] at doomed
        | queued | entered | executed | cleaned | published | gone =>
          rw [worker] at fits
          exact absurd polling fits.1
    · split
      · exact Follows.quiet ⟨rfl, rfl, rfl, rfl⟩ rfl rfl
      · split
        · refine Follows.unfinished unfinished rfl fun doomed => ?_
          unfold State.doomed at doomed ⊢
          dsimp only
          cases worker : state.worker with
          | queued => rfl
          | absent | entered | executed | cleaned | published | gone =>
            rw [worker] at doomed
            exact doomed
        · exact Follows.quiet ⟨rfl, rfl, rfl, rfl⟩ rfl rfl

/-- A worker that takes the connection has a task that is not done. -/
theorem workerEnter_follows (before : Consistent state)
    (stepped : step state .workerEnter = some after) : Follows state after := by
  have fits := before.worker
  simp only [step] at stepped
  split at stepped
  · rename_i queued
    obtain rfl := Option.some.inj stepped
    rw [queued] at fits
    refine Follows.unfinished fits.2.2.done rfl fun doomed => ?_
    unfold State.doomed at doomed
    rw [queued] at doomed
    exact doomed
  · cases stepped

/-- When the worker executes, or finds a cancellation, the task is not done. -/
theorem workerExecute_follows (before : Consistent state) (outcome : Executed)
    (stepped : step state (.workerExecute outcome) = some after) : Follows state after := by
  have fits := before.worker
  simp only [step] at stepped
  split at stepped
  · rename_i cancelled entered
    rw [entered] at fits
    split at stepped
    · obtain rfl := Option.some.inj stepped
      exact Follows.unfinished fits.2.2.done rfl fun _ => ⟨rfl, rfl⟩
    · rename_i executes
      obtain rfl := Option.some.inj stepped
      refine Follows.unfinished fits.2.2.done (by cases outcome <;> rfl) fun doomed => ?_
      unfold State.doomed at doomed
      rw [entered] at doomed
      exact absurd doomed executes
  · cases stepped

/-- When the worker cleans up, the task is not done, and the worker keeps what it found. -/
theorem workerClean_follows (before : Consistent state)
    (stepped : step state .workerClean = some after) : Follows state after := by
  have fits := before.worker
  simp only [step] at stepped
  split at stepped
  · rename_i executed
    rw [executed] at fits
    have keeps : state.doomed → state.task.error = true ∧
        state.task.nativeError = interrupted := by
      intro doomed
      unfold State.doomed at doomed
      rw [executed] at doomed
      exact doomed
    split at stepped
    · obtain rfl := Option.some.inj stepped
      rw [destroyResult_eq]
      exact Follows.unfinished fits.2.2.1 rfl keeps
    · obtain rfl := Option.some.inj stepped
      exact Follows.unfinished fits.2.2.1 rfl keeps
  · cases stepped

/-- When the worker publishes, the outcome is the one it recorded. -/
theorem workerPublish_follows (before : Consistent state)
    (stepped : step state .workerPublish = some after) : Follows state after := by
  have fits := before.worker
  simp only [step] at stepped
  split at stepped
  · rename_i cleaned
    obtain rfl := Option.some.inj stepped
    rw [cleaned] at fits
    refine Follows.unfinished fits.2.1 rfl fun doomed => ?_
    unfold State.doomed at doomed
    rw [cleaned] at doomed
    exact doomed
  · cases stepped

/-- A worker that goes leaves the outcome, and may destroy the task with it. -/
theorem workerGone_follows (result : Bool)
    (stepped : step state (.workerGone result) = some after) : Follows state after := by
  simp only [step] at stepped
  split at stepped
  · rename_i published
    obtain rfl := Option.some.inj stepped
    have gone : Follows state { state with worker := .gone } := by
      refine ⟨fun done => ⟨done, rfl, rfl⟩, ⟨[], by simp, by simp⟩, fun doomed => ?_⟩
      unfold State.doomed at doomed
      rw [published] at doomed
      exact doomed
    split
    · exact gone
    · obtain ⟨same, awaits, worker⟩ := destruct_outcome { state with worker := .gone } false result
      have quiet := Follows.quiet same worker awaits
      refine ⟨quiet.outcome, ?_, fun doomed => quiet.doomed (gone.doomed doomed)⟩
      exact ⟨[], by rw [awaits, List.append_nil], by simp⟩
  · cases stepped

/-- A call of `await()` is refused from a handler, and tells nothing yet otherwise. -/
theorem await_follows (stepped : step state .await = some after) : Follows state after := by
  simp only [step] at stepped
  split at stepped
  · cases stepped
  · split at stepped
    · rename_i busy
      obtain rfl := Option.some.inj stepped
      exact Follows.tells (Or.inl ⟨rfl, busy, rfl⟩) ⟨rfl, rfl, rfl, rfl⟩ rfl rfl
    · split at stepped
      · cases stepped
      · obtain rfl := Option.some.inj stepped
        exact Follows.quiet ⟨rfl, rfl, rfl, rfl⟩ rfl rfl

/-- A call of `cancel()` keeps the outcome, also when it is refused. -/
theorem cancel_follows (before : Consistent state) (starts result : Bool)
    (stepped : step state (.cancel starts result) = some after) : Follows state after := by
  simp only [step] at stepped
  split at stepped
  · cases stepped
  · split at stepped
    · obtain rfl := Option.some.inj stepped
      exact Follows.quiet ⟨rfl, rfl, rfl, rfl⟩ rfl rfl
    · split at stepped
      · cases stepped
      · obtain rfl := Option.some.inj stepped
        exact taskCancel_follows before starts result

/-- A step of a polled query is one of a task that is not done and has no worker. -/
theorem polled_follows (before : Consistent state) (outcome : Stepped) (unwinding : Bool)
    (stepped : step state (.step outcome unwinding) = some after) : Follows state after := by
  simp only [step] at stepped
  split at stepped
  · cases stepped
  · split at stepped
    · rename_i method record running given
      obtain ⟨next, away, rfl⟩ := Option.map_eq_some_iff.mp stepped
      obtain ⟨_, _, absent, waiting⟩ := before.record record given
      have never : ¬state.doomed := by
        intro doomed
        unfold State.doomed at doomed
        rw [absent] at doomed
        exact doomed
      have awaits : next.awaits = state.awaits := by
        cases outcome with
        | refused message result =>
          simp only [taskStepOnce] at away
          split at away
          · obtain rfl := Option.some.inj away
            rfl
          · cases away
        | notReady =>
          obtain rfl := Option.some.inj away
          rfl
        | executed outcome =>
          rw [taskStepOnce_executed waiting.error away]
          rfl
      refine Follows.unfinished waiting.done ?_ fun doomed => absurd doomed never
      split <;> exact awaits
    · cases stepped

/-- The end of an `await` tells the outcome of the task. -/
theorem complete_follows (stepped : step state .complete = some after) : Follows state after := by
  simp only [step] at stepped
  split at stepped
  · rename_i ready
    obtain rfl := Option.some.inj stepped
    have completed := pendingComplete_follows ready.2.2
    have free : state.busyHere = false := by simpa using ready.2.1
    obtain ⟨later, appended, tells⟩ := completed.awaits
    refine ⟨completed.outcome, ⟨later, appended, fun told inside => ?_⟩, completed.doomed⟩
    exact (tells told inside).imp_left fun refused => absurd refused.2.1 (by simp [free])
  · cases stepped

/-- Giving up the PHP object keeps the outcome, and may destroy the task. -/
theorem release_follows (result : Bool)
    (stepped : step state (.release result) = some after) : Follows state after := by
  simp only [step] at stepped
  split at stepped
  · cases stepped
  · obtain rfl := Option.some.inj stepped
    split
    · obtain ⟨same, awaits, worker⟩ :=
        destruct_outcome { state with object := false } state.busyHere result
      exact Follows.quiet same worker awaits
    · exact Follows.quiet ⟨rfl, rfl, rfl, rfl⟩ rfl rfl

/-- Once a task is done its outcome stays, and every `await` tells it or is refused. -/
theorem step_follows {event : Event} (before : Consistent state)
    (stepped : step state event = some after) : Follows state after := by
  cases event with
  | workerEnter => exact workerEnter_follows before stepped
  | workerExecute outcome => exact workerExecute_follows before outcome stepped
  | workerClean => exact workerClean_follows before stepped
  | workerPublish => exact workerPublish_follows before stepped
  | workerGone result => exact workerGone_follows result stepped
  | isReady =>
    simp only [step] at stepped
    repeat' split at stepped
    all_goals cases stepped
    all_goals exact Follows.quiet ⟨rfl, rfl, rfl, rfl⟩ rfl rfl
  | await => exact await_follows stepped
  | cancel starts result => exact cancel_follows before starts result stepped
  | step outcome unwinding => exact polled_follows before outcome unwinding stepped
  | complete => exact complete_follows stepped
  | enter =>
    obtain rfl := Option.some.inj stepped
    exact Follows.quiet ⟨rfl, rfl, rfl, rfl⟩ rfl rfl
  | leave =>
    simp only [step] at stepped
    split at stepped
    · obtain rfl := Option.some.inj stepped
      exact Follows.quiet ⟨rfl, rfl, rfl, rfl⟩ rfl rfl
    · cases stepped
  | release result => exact release_follows result stepped
  | drain result =>
    simp only [step] at stepped
    split at stepped
    · split at stepped
      · cases stepped
      · obtain rfl := Option.some.inj stepped
        exact Follows.quiet ⟨rfl, rfl, rfl, rfl⟩ rfl rfl
    · cases stepped

/-- A run continues what the state before it told. -/
structure Continues (state final : State) : Prop where
  /-- Later calls of `await` repeat it. -/
  awaits : ∃ later, final.awaits = state.awaits ++ later ∧ Repeats state later
  /-- A failure stays. -/
  failed : ∀ error, state.failed error → final.failed error
  /-- A cancellation is found. -/
  doomed : state.doomed → final.doomed

/-- A state continues itself, with no more awaits and the same error. -/
theorem Continues.refl (state : State) : Continues state state where
  awaits := ⟨[], by rw [List.append_nil], by simp, by simp⟩
  failed _ failed := failed
  doomed doomed := doomed

/-- What continues a continuation continues the first state. -/
theorem Continues.trans {first second third : State} (early : Continues first second)
    (late : Continues second third) : Continues first third where
  awaits := by
    obtain ⟨some, appended, repeats⟩ := early.awaits
    obtain ⟨more, further, again⟩ := late.awaits
    refine ⟨some ++ more, by rw [further, appended, List.append_assoc], ?_, ?_⟩
    · intro error failed outcome inside
      rcases List.mem_append.mp inside with before | after
      · exact repeats.failed error failed outcome before
      · exact again.failed error (early.failed error failed) outcome after
    · intro returned outcome inside
      rcases List.mem_append.mp inside with before | after
      · exact repeats.returned returned outcome before
      · exact again.returned (by rw [appended]; exact List.mem_append_left _ returned) outcome after
  failed error failed := late.failed error (early.failed error failed)
  doomed doomed := late.doomed (early.doomed doomed)

/-- The state after a step continues the one before it. -/
theorem step_continues {event : Event} (before : Consistent state)
    (stepped : step state event = some after) : Continues state after := by
  have follows := step_follows before stepped
  refine ⟨?_, ?_, follows.doomed⟩
  · obtain ⟨later, appended, tells⟩ := follows.awaits
    refine ⟨later, appended, ?_, ?_⟩
    · rintro error ⟨_, failed, native⟩ outcome inside
      rcases tells outcome inside with ⟨refused, _⟩ | ⟨_, told⟩
      · exact Or.inr refused
      · rw [verdict, if_pos failed, native] at told
        exact Or.inl told
    · intro returned outcome inside
      obtain ⟨_, succeeded, consumed⟩ := before.returned returned
      rcases tells outcome inside with ⟨refused, _⟩ | ⟨_, told⟩
      · exact Or.inr refused
      · rw [verdict, if_neg (by simp [succeeded]), if_pos consumed] at told
        exact Or.inl told
  · rintro error ⟨done, failed, native⟩
    obtain ⟨still, same, kept⟩ := follows.outcome done
    exact ⟨still, same.trans failed, kept.trans native⟩

/-- An `await` is refused in a handler of the connection only, and there every `await` is. -/
theorem step_refuses {event : Event} (before : Consistent state)
    (stepped : step state event = some after) :
    (after.awaits = state.awaits ++ [.refused] → state.refuses after) ∧
      (event = .await → state.busyHere = true → state.refuses after) := by
  constructor
  · intro told
    obtain ⟨later, appended, tells⟩ := (step_follows before stepped).awaits
    have same : later = [.refused] := List.append_cancel_left (appended.symm.trans told)
    rcases tells .refused (same ▸ List.mem_singleton_self _) with ⟨_, refuses⟩ | ⟨_, other⟩
    · exact refuses
    · rw [verdict] at other
      split at other
      · cases other
      · split at other <;> cases other
  · rintro rfl busy
    simp only [step, busy] at stepped
    split at stepped
    · cases stepped
    · exact ⟨busy, (Option.some.inj stepped).symm⟩

/-- Every step of the machine keeps the task consistent. -/
theorem pendingQuery_consistent (state : State) (event : Event) (after : State)
    (before : Consistent state) (stepped : pendingQuery.step state event = some after) :
    Consistent after :=
  before.step stepped

/-- A run keeps a task consistent and continues what was told. -/
theorem run_continues {first last : State} {events : List Event} (before : Consistent first)
    (ran : pendingQuery.run first events = some last) :
    Consistent last ∧ Continues first last :=
  ⟨Machine.run_preserves pendingQuery_consistent before ran,
    Machine.Reaches.relates pendingQuery_consistent Continues.refl
      (fun _ _ _ early late => early.trans late)
      (fun _ _ _ holds stepped => step_continues holds stepped) ⟨events, ran⟩ before⟩

/-- A worker that is doomed ends with the error of an interrupted query. -/
theorem Consistent.interrupted (holds : Consistent state) (doomed : state.doomed)
    (done : state.task.done = true) : state.failed interrupted := by
  have fits := holds.worker
  unfold State.doomed at doomed
  cases worker : state.worker with
  | absent => simp [worker] at doomed
  | queued | entered cancelled =>
    rw [worker] at fits
    rw [fits.2.2.done] at done
    cases done
  | executed | cleaned | published | gone =>
    rw [worker] at doomed
    exact ⟨done, doomed⟩

/-- After every run of a task in each mode its handles are owned as they should be; an `await` is
refused in a handler of the connection and nowhere else; in every later run the awaits repeat its
failure, or that its result was consumed; a worker that finds the request to cancel it fails as
interrupted; and so does a polled query that is cancelled before it is done. -/
theorem pending_owned (mode : Mode) (session : Bool) (events : List Event) (last : State)
    (ran : pendingQuery.run (.fresh mode session) events = some last) :
    Owned last ∧
      (∀ (event : Event) (next : State), pendingQuery.step last event = some next →
        (next.awaits = last.awaits ++ [.refused] → last.refuses next) ∧
          (event = .await → last.busyHere = true → last.refuses next)) ∧
      (∀ (more : List Event) (final : State), pendingQuery.run last more = some final →
        (∃ later, final.awaits = last.awaits ++ later ∧ Repeats last later) ∧
          (last.cancelSeen → final.task.done = true → final.failed interrupted)) ∧
      ∀ (starts result : Bool) (next : State), last.cancelsPolled →
        pendingQuery.step last (.cancel starts result) = some next →
          next.failed interrupted := by
  obtain ⟨holds, _⟩ := run_continues (consistent_fresh mode session) ran
  refine ⟨holds.owned, fun event next stepped => step_refuses holds stepped, ?_, ?_⟩
  · intro more final further
    obtain ⟨later, continues⟩ := run_continues holds further
    refine ⟨continues.awaits, fun seen done => later.interrupted (continues.doomed ?_) done⟩
    unfold State.doomed
    rcases seen with ⟨queued, requested⟩ | entered
    · rw [queued]
      exact requested
    · rw [entered]
  · rintro starts result next ⟨polling, unfinished, free⟩ stepped
    simp only [pendingQuery, step, free] at stepped
    split at stepped
    · cases stepped
    · rename_i object
      rw [if_neg (by simp)] at stepped
      split at stepped
      · cases stepped
      · obtain rfl := Option.some.inj stepped
        cases given : last.task.record with
        | some record =>
          rw [taskCancel_polling (holds.record record given).2.2.2 polling given]
          exact ⟨rfl, rfl, rfl⟩
        | none =>
          have absent : last.worker = .absent := holds.absent polling
          have done := holds.polled absent given (by simpa using object)
          rw [unfinished] at done
          cases done

/-- A polled query that is stepped, cancelled and awaited twice, once in a handler. -/
def cancelledPolled : List Event :=
  [.isReady, .step .notReady false, .cancel true true, .await, .complete, .enter, .await, .leave,
    .release false]

/-- A run that cancels a polled query ends with everything given up. -/
theorem pending_owned_cancelledPolled :
    ∃ last, pendingQuery.run (.fresh .polling true) cancelledPolled = some last ∧
      (Owned last ∧
        (∀ (event : Event) (next : State), pendingQuery.step last event = some next →
          (next.awaits = last.awaits ++ [.refused] → last.refuses next) ∧
            (event = .await → last.busyHere = true → last.refuses next)) ∧
        (∀ (more : List Event) (final : State), pendingQuery.run last more = some final →
          (∃ later, final.awaits = last.awaits ++ later ∧ Repeats last later) ∧
            (last.cancelSeen → final.task.done = true → final.failed interrupted)) ∧
        ∀ (starts result : Bool) (next : State), last.cancelsPolled →
          pendingQuery.step last (.cancel starts result) = some next →
            next.failed interrupted) :=
  ⟨_, rfl, pending_owned .polling true cancelledPolled _ rfl⟩

/-- An `await` after a call of `cancel()` may return a result, when the query was done or the worker
was already executing it; and an `await` in a handler of the connection does not throw the error of
the task. -/
theorem await_not_always_failed :
    (¬∀ (mode : Mode) (session : Bool) (earlier later : List Event) (starts result : Bool)
      (last : State), .await ∉ earlier →
        pendingQuery.run (.fresh mode session) (earlier ++ .cancel starts result :: later) =
          some last →
            ∀ outcome ∈ last.awaits, ∃ error, outcome = .failed error) ∧
    ¬∀ (mode : Mode) (session : Bool) (events more : List Event) (middle last : State)
      (error : NativeError),
        pendingQuery.run (.fresh mode session) events = some middle → middle.failed error →
          pendingQuery.run middle more = some last →
            ∀ outcome ∈ last.awaits, outcome ∉ middle.awaits → outcome = .failed error := by
  constructor
  · intro alwaysFailed
    have told := alwaysFailed .threadQuery false [.workerEnter]
      [.workerExecute .succeeded, .workerClean, .workerPublish, .await, .complete] true false _
      (by decide) rfl .returned (by decide)
    obtain ⟨error, same⟩ := told
    cases same
  · intro staysFailed
    have told := staysFailed .polling false [.cancel true false] [.enter, .await] _ _ interrupted rfl
      ⟨rfl, rfl, rfl⟩ rfl .refused (by decide) (by decide)
    cases told

end Outcomes

end PhpDuckdb.PendingQuery
