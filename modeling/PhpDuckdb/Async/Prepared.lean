import PhpDuckdb.Statement.Bindings

/-!
# Prepared statements on background workers

`Statement::executeAsync` binds on the request thread, under the connection's mutex, and hands the
statement to a worker, which takes the mutex later and executes the native prepared statement as
it is bound then. A task records the values that its own call bound, so that a run tells whether
its worker executed with them.
-/

namespace PhpDuckdb.Prepared

open SqlText Value Connection Statement

/-- Where the worker of a task is. -/
inductive Phase
  /-- Its thread started and waits for the connection's mutex. -/
  | queued
  /-- It holds the mutex and has read the task's cancellation flag. -/
  | holding (cancelled : Bool)
  /-- It holds the mutex, and the statement has run or was skipped. -/
  | ended
  /-- It published completion and released the mutex. -/
  | done
  deriving DecidableEq, Repr

/-- A `THREAD_PREPARED` task with the statement and the values that it executes. -/
structure Task where
  /-- Its statement. -/
  statement : Nat
  /-- What its `executeAsync` call left bound. -/
  bound : Nat → Option DuckValue
  /-- `cancel_requested`. -/
  cancelRequested : Bool
  /-- Where its worker is. -/
  phase : Phase
  /-- The values that its statement ran with. -/
  ran : Option (Nat → Option DuckValue)
  /-- Its error. -/
  error : Option Thrown

/-- A task whose thread has just started. -/
def Task.start (statement : Nat) (bound : Nat → Option DuckValue) : Task :=
  ⟨statement, bound, false, .queued, none, none⟩

/-- One connection with its statement and the tasks that were started from it. -/
structure State where
  /-- The bindings of its statements. -/
  statements : Nat → Bindings
  /-- Its tasks. -/
  tasks : Nat → Option Task
  /-- How many tasks were started. -/
  started : Nat
  /-- The task whose worker holds the mutex. -/
  holder : Option Nat

/-- A connection with freshly prepared statements. -/
def State.fresh : State := ⟨fun _ => Bindings.fresh, fun _ => none, 0, none⟩

/-- What `executeAsync` looks at besides its arguments. -/
structure Start where
  /-- The statement uses a PHP COPY format. -/
  usesCopyFormat : Bool
  /-- The statement uses a PHP scalar function. -/
  usesScalarFunction : Bool
  /-- The outcome of creating the pipe and the thread. -/
  thread : Except Thrown Unit

/-- The refusal of a statement that needs the request thread. -/
def notPumped (what : String) : Thrown :=
  ⟨.exception, lit what ++ lit " run only through query(), execute(), prepared statements and " ++
    lit "queryPending(), not queryAsync() or executeAsync()"⟩

section Runs

variable {Env : Type} (signature : Nat → Signature) (database : Database Env)
  (accepts : Nat → DuckValue → Bool)

/-- The guards of `executeAsync`, in their order. -/
def executeAsyncGuards (access : Access) (start : Start) : Except Thrown Unit := do
  duckdbInitializedGuard access "DuckDB\\Statement"
  duckdbConnectionGuard access
  if start.usesCopyFormat then .error (notPumped "PHP COPY formats")
  else if start.usesScalarFunction then .error (notPumped "PHP scalar functions")
  else duckdbConnEnter access

/-- `Statement::executeAsync` up to its task: the bindings afterwards, and the values it left bound
for a task that was started. -/
def executeAsync (signature : Signature) (access : Access) (start : Start) (env : Env)
    (params : Option Elements) (bindings : Bindings) :
    Bindings × Except (Option Thrown) (Nat → Option DuckValue) :=
  match executeAsyncGuards access start with
  | .error thrown => (bindings, .error (some thrown))
  | .ok () =>
    match duckdbStatementBindExecution signature database accepts env params bindings with
    | (next, .error failure) => (next, .error failure)
    | (next, .ok ()) =>
      match start.thread with
      | .error thrown => (next, .error (some thrown))
      | .ok () => (next, .ok next.native)

/-- One step on the connection, by the request thread or by a task's thread. -/
inductive Event (Env : Type)
  /-- A synchronous call of the request thread on a statement. -/
  | call (statement : Nat) (access : Access) (call : Call Env)
  /-- `executeAsync` on a statement. -/
  | executeAsync (statement : Nat) (access : Access) (start : Start) (env : Env)
      (params : Option Elements)
  /-- `cancel` on a task. -/
  | cancel (task : Nat)
  /-- A worker takes the mutex and reads the task's flag. -/
  | acquire (task : Nat)
  /-- A worker executes its statement, with DuckDB's outcome, or skips it. -/
  | execute (task : Nat) (outcome : Except Thrown Unit)
  /-- A worker publishes completion and releases the mutex. -/
  | release (task : Nat)

/-- Replace the task of an id. -/
def State.setTask (state : State) (id : Nat) (task : Task) : State :=
  { state with tasks := Function.update state.tasks id (some task) }

/-- Replace the bindings of a statement. -/
def State.setBindings (state : State) (statement : Nat) (bindings : Bindings) : State :=
  { state with statements := Function.update state.statements statement bindings }

/-- The execution of a worker that holds the mutex, in `duckdb_async_run_task`. -/
def Task.execute (task : Task) (cancelled : Bool) (native : Nat → Option DuckValue)
    (outcome : Except Thrown Unit) : Task :=
  if cancelled then { task with phase := .ended, error := some interrupted }
  else
    { task with
      phase := .ended
      ran := some native
      error := match outcome with | .ok () => none | .error thrown => some thrown }

/-- One step. Calls of the request thread and workers wait while the mutex is held. -/
def step (state : State) : Event Env → Option State
  | .call statement access request =>
    if state.holder.isSome then none
    else
      let (bindings, _) := Statement.call (signature statement) database accepts access
        (state.statements statement) request
      some (state.setBindings statement bindings)
  | .executeAsync statement access start env params =>
    if state.holder.isSome then none
    else
      match executeAsync database accepts (signature statement) access start env params
        (state.statements statement) with
      | (bindings, .error _) => some (state.setBindings statement bindings)
      | (bindings, .ok bound) =>
        some { (state.setBindings statement bindings).setTask state.started
          (.start statement bound) with started := state.started + 1 }
  | .cancel id =>
    match state.tasks id with
    | none => none
    | some task =>
      if task.phase = .done then some state
      else some (state.setTask id { task with cancelRequested := true })
  | .acquire id =>
    match state.tasks id with
    | none => none
    | some task =>
      if task.phase = .queued ∧ state.holder = none then
        some { state.setTask id { task with phase := .holding task.cancelRequested } with
          holder := some id }
      else none
  | .execute id outcome =>
    match state.tasks id with
    | none => none
    | some task =>
      match task.phase with
      | .holding cancelled =>
        some (state.setTask id
          (task.execute cancelled (state.statements task.statement).native outcome))
      | _ => none
  | .release id =>
    match state.tasks id with
    | none => none
    | some task =>
      if task.phase = .ended then
        some { state.setTask id { task with phase := .done } with holder := none }
      else none

/-- The machine of one connection with its statements and tasks. -/
def connection : Machine State (Event Env) := ⟨step signature database accepts⟩

/-! ## Calls that bind again -/

/-- An execution reaches DuckDB's bindings with another value for some parameter. -/
def RebindsExecution (signature : Signature) (env : Env) (params : Option Elements)
    (bindings : Bindings) : Prop :=
  ∃ supplied, duckdbCollectParams signature (params.getD .nil) = .ok supplied ∧
    ∃ converted, duckdbConvertValues database env
        ((supplied ++ notOverridden supplied bindings.deferred).map Prod.snd) = .ok converted ∧
      ∃ entry ∈ (((supplied ++ notOverridden supplied bindings.deferred).map Prod.fst).zip
          converted).takeWhile (fun entry => accepts entry.1 entry.2),
        bindings.native entry.1 ≠ some entry.2

/-- A call that is let in reaches DuckDB's bindings with another value for some parameter, or takes
one away. -/
def Rebinds (signature : Signature) (bindings : Bindings) : Call Env → Prop
  | .bindValue param value =>
    value.containsTyped = false ∧ ∃ index, duckdbResolveParamIndex signature param = .ok index ∧
      ∃ converted, duckdbPhpToDuckdbValue database.makesVarchar value = .ok converted ∧
        accepts index converted = true ∧ bindings.native index ≠ some converted
  | .bindBlob param value =>
    isString value = true ∧ ∃ index, duckdbResolveParamIndex signature param = .ok index ∧
      accepts index (.blob (stringText value)) = true ∧
        bindings.native index ≠ some (.blob (stringText value))
  | .clearBindings => ∃ index, bindings.native index ≠ none
  | .execute _ env params _ => RebindsExecution database accepts signature env params bindings

/-- Some task on the statement, not cancelled, still waits for the connection. -/
def State.Waits (state : State) (statement : Nat) : Prop :=
  ∃ id task, state.tasks id = some task ∧ task.statement = statement ∧
    task.cancelRequested = false ∧ task.phase = .queued

/-- A step does not rebind a statement that a task waits to execute. -/
def Undisturbed (state : State) : Event Env → Prop
  | .call statement access request =>
    access = .granted → state.Waits statement →
      ¬Rebinds database accepts (signature statement) (state.statements statement) request
  | .executeAsync statement access start env params =>
    executeAsyncGuards access start = .ok () → state.Waits statement →
      ¬RebindsExecution database accepts (signature statement) env params (state.statements statement)
  | _ => True

/-! ## What undisturbed steps keep -/

variable {signature database accepts}

/-- Binding the values that are bound already changes nothing. -/
theorem duckdbBindConverted_same (values : List (Nat × DuckValue))
    (native : Nat → Option DuckValue)
    (same : ∀ entry ∈ values.takeWhile (fun entry => accepts entry.1 entry.2),
      native entry.1 = some entry.2) :
    (duckdbBindConverted accepts values native).1 = native := by
  induction values with
  | nil => rfl
  | cons entry rest ih =>
    obtain ⟨index, value⟩ := entry
    rw [duckdbBindConverted]
    split
    · rename_i accepted
      rw [List.takeWhile_cons_of_pos (by exact accepted)] at same
      have bound := same (index, value) (List.mem_cons_self ..)
      rw [← bound, Function.update_eq_self]
      exact ih fun entry found => same entry (List.mem_cons_of_mem _ found)
    · rfl

/-- An execution that does not rebind leaves the native bindings alone. -/
theorem bindExecution_native {signature : Signature} {env : Env} {params : Option Elements}
    {bindings : Bindings}
    (kept : ¬RebindsExecution database accepts signature env params bindings) :
    (duckdbStatementBindExecution signature database accepts env params bindings).1.native =
      bindings.native := by
  unfold duckdbStatementBindExecution
  split
  · rfl
  · rename_i supplied collected
    dsimp only
    split
    · rfl
    · rename_i converted values
      have same := duckdbBindConverted_same
        (((supplied ++ notOverridden supplied bindings.deferred).map Prod.fst).zip converted)
        bindings.native fun entry found => by
          by_contra other
          exact kept ⟨supplied, collected, converted, values, entry, found, other⟩
      split
      · rename_i failed
        rw [failed] at same
        exact same
      · rename_i bound
        rw [bound] at same
        exact same

/-- A call that does not rebind leaves the native bindings alone. -/
theorem call_native {signature : Signature} {access : Access} {bindings : Bindings}
    {request : Call Env}
    (kept : access = .granted → ¬Rebinds database accepts signature bindings request) :
    (Statement.call signature database accepts access bindings request).1.native =
      bindings.native := by
  cases request with
  | bindValue param value =>
    simp only [Statement.call, duckdbStatementBindImpl, Bool.false_and, Bool.false_eq_true,
      ↓reduceIte, Bool.not_false, Bool.true_and]
    split
    · rfl
    · rename_i entered
      have quiet := kept (enter_eq_ok.mp entered)
      split
      · rfl
      · rename_i index resolved
        split
        · rfl
        · rename_i plain
          split
          · rfl
          · rename_i converted input
            split
            · rename_i accepted
              dsimp only
              rw [Function.update_eq_iff]
              refine ⟨?_, fun _ _ => rfl⟩
              by_contra other
              exact quiet ⟨by simpa using plain, index, resolved, converted, input, accepted,
                Ne.symm other⟩
            · rfl
  | bindBlob param value =>
    simp only [Statement.call, duckdbStatementBindImpl, Bool.true_and, Bool.not_true,
      Bool.false_and, Bool.false_eq_true, ↓reduceIte]
    split
    · rfl
    · rename_i isText
      split
      · rfl
      · rename_i entered
        have quiet := kept (enter_eq_ok.mp entered)
        split
        · rfl
        · rename_i index resolved
          simp only [bindInput, ↓reduceIte]
          split
          · rename_i accepted
            dsimp only
            rw [Function.update_eq_iff]
            refine ⟨?_, fun _ _ => rfl⟩
            by_contra other
            exact quiet ⟨by simpa using isText, index, resolved, accepted, Ne.symm other⟩
          · rfl
  | clearBindings =>
    simp only [Statement.call, clearBindings]
    split
    · rfl
    · rename_i entered
      have quiet := kept (enter_eq_ok.mp entered)
      funext index
      by_contra other
      exact quiet ⟨index, Ne.symm other⟩
  | execute streaming env params outcome =>
    simp only [Statement.call, duckdbStatementExecuteImpl]
    split
    · rfl
    · rename_i entered
      have same := bindExecution_native (kept (enter_eq_ok.mp entered))
      split
      · rename_i failed
        rw [failed] at same
        exact same
      · rename_i bound
        rw [bound] at same
        exact same

/-- An `executeAsync` that does not rebind leaves the native bindings alone. -/
theorem executeAsync_native {signature : Signature} {access : Access} {start : Start} {env : Env}
    {params : Option Elements} {bindings : Bindings}
    (kept : executeAsyncGuards access start = .ok () →
      ¬RebindsExecution database accepts signature env params bindings) :
    (executeAsync database accepts signature access start env params bindings).1.native =
      bindings.native := by
  unfold executeAsync
  split
  · rfl
  · rename_i entered
    have same := bindExecution_native (kept entered)
    split
    · rename_i failed
      rw [failed] at same
      exact same
    · rename_i bound
      rw [bound] at same
      split <;> exact same

/-- A task records what its own call left bound. -/
theorem executeAsync_bound {signature : Signature} {access : Access} {start : Start} {env : Env}
    {params : Option Elements} {bindings next : Bindings} {bound : Nat → Option DuckValue}
    (started : executeAsync database accepts signature access start env params bindings =
      (next, .ok bound)) : bound = next.native := by
  unfold executeAsync at started
  split at started
  · simp at started
  · split at started
    · simp at started
    · split at started
      · simp at started
      · obtain ⟨rfl, same⟩ := Prod.mk.inj started
        exact (Except.ok.inj same).symm

/-- Tasks on their way to execution find their own values bound. -/
structure OwnBindings (state : State) : Prop where
  /-- A waiting task that is not cancelled finds its values. -/
  waiting : ∀ id task, state.tasks id = some task → task.cancelRequested = false →
    task.phase = .queued → (state.statements task.statement).native = task.bound
  /-- So does a task about to execute. -/
  holding : ∀ id task, state.tasks id = some task → task.phase = .holding false →
    (state.statements task.statement).native = task.bound
  /-- A worker past the mutex holds it. -/
  holder : ∀ id task, state.tasks id = some task →
    task.phase = .ended ∨ (∃ cancelled, task.phase = .holding cancelled) → state.holder = some id
  /-- Statements ran with their tasks' own values. -/
  ran : ∀ id task, state.tasks id = some task → ∀ values, task.ran = some values →
    values = task.bound

/-- A new statement has started no task whose bindings could differ. -/
theorem ownBindings_fresh : OwnBindings State.fresh where
  waiting := by simp [State.fresh]
  holding := by simp [State.fresh]
  holder := by simp [State.fresh]
  ran := by simp [State.fresh]

/-- New bindings of a statement disturb no task, when they are the old ones for DuckDB or nothing
waits for the statement. -/
theorem OwnBindings.setBindings {state : State} (own : OwnBindings state)
    (free : state.holder = none) {statement : Nat} {bindings : Bindings}
    (same : state.Waits statement → bindings.native = (state.statements statement).native) :
    OwnBindings (state.setBindings statement bindings) where
  waiting := by
    intro id task found live queued
    have before := own.waiting id task found live queued
    by_cases here : task.statement = statement
    · have kept := same ⟨id, task, found, here, live, queued⟩
      subst here
      simp only [State.setBindings, Function.update_self]
      rw [kept]
      exact before
    · simpa [State.setBindings, here] using before
  holding := by
    intro id task found holding
    have held := own.holder id task found (.inr ⟨false, holding⟩)
    rw [free] at held
    simp at held
  holder := own.holder
  ran := own.ran

/-- A task may be replaced by one that is no nearer to executing other values, when workers past
the mutex go on holding it. -/
theorem OwnBindings.setTask {state : State} (own : OwnBindings state) {id : Nat} {task : Task}
    (holder : Option Nat)
    (others : ∀ other, other ≠ id → state.holder = some other → holder = some other)
    (waiting : task.cancelRequested = false → task.phase = .queued →
      (state.statements task.statement).native = task.bound)
    (holding : task.phase = .holding false →
      (state.statements task.statement).native = task.bound)
    (holds : task.phase = .ended ∨ (∃ cancelled, task.phase = .holding cancelled) →
      holder = some id)
    (ran : ∀ values, task.ran = some values → values = task.bound) :
    OwnBindings { state.setTask id task with holder := holder } where
  waiting := by
    intro other found there
    simp only [State.setTask, Function.update_apply] at there
    split at there
    · obtain rfl := Option.some.inj there
      exact waiting
    · exact own.waiting other found there
  holding := by
    intro other found there
    simp only [State.setTask, Function.update_apply] at there
    split at there
    · obtain rfl := Option.some.inj there
      exact holding
    · exact own.holding other found there
  holder := by
    intro other found there past
    simp only [State.setTask, Function.update_apply] at there
    split at there
    · rename_i same
      subst same
      obtain rfl := Option.some.inj there
      exact holds past
    · rename_i elsewhere
      exact others other elsewhere (own.holder other found there past)
  ran := by
    intro other found there
    simp only [State.setTask, Function.update_apply] at there
    split at there
    · obtain rfl := Option.some.inj there
      exact ran
    · exact own.ran other found there

/-- Undisturbed steps keep the tasks' own bindings. -/
theorem step_ownBindings {state next : State} {event : Event Env} (own : OwnBindings state)
    (undisturbed : Undisturbed signature database accepts state event)
    (stepped : step signature database accepts state event = some next) : OwnBindings next := by
  cases event with
  | call statement access request =>
    simp only [step, Option.isSome_iff_ne_none] at stepped
    split at stepped
    · simp at stepped
    · rename_i free
      obtain rfl := Option.some.inj stepped
      refine own.setBindings (by simpa using free) fun waits => ?_
      exact call_native fun granted => undisturbed granted waits
  | executeAsync statement access start env params =>
    simp only [step] at stepped
    split at stepped
    · simp at stepped
    · rename_i taken
      have free : state.holder = none := by simpa using taken
      have kept : OwnBindings (state.setBindings statement
          (executeAsync database accepts (signature statement) access start env params
            (state.statements statement)).1) :=
        own.setBindings free fun waits =>
          executeAsync_native fun entered => undisturbed entered waits
      split at stepped
      · rename_i failed
        obtain rfl := Option.some.inj stepped
        rw [failed] at kept
        exact kept
      · rename_i bindings bound started
        obtain rfl := Option.some.inj stepped
        rw [started] at kept
        have recorded := executeAsync_bound started
        have added : OwnBindings
            { (state.setBindings statement bindings).setTask state.started
              (.start statement bound) with holder := state.holder } :=
          kept.setTask state.holder (fun _ _ held => held)
            (fun _ _ => by simp [State.setBindings, Task.start, recorded])
            (by simp [Task.start]) (by simp [Task.start]) (by simp [Task.start])
        exact ⟨added.waiting, added.holding, added.holder, added.ran⟩
  | cancel id =>
    simp only [step] at stepped
    split at stepped
    · simp at stepped
    · rename_i task found
      split at stepped
      · obtain rfl := Option.some.inj stepped
        exact own
      · obtain rfl := Option.some.inj stepped
        exact own.setTask state.holder (fun _ _ held => held) (by simp)
          (own.holding id task found) (own.holder id task found) (own.ran id task found)
  | acquire id =>
    simp only [step] at stepped
    split at stepped
    · simp at stepped
    · rename_i task found
      split at stepped
      · rename_i ready
        obtain rfl := Option.some.inj stepped
        refine own.setTask (some id) ?_ (by simp) ?_ (by simp) (own.ran id task found)
        · intro other _ held
          rw [ready.2] at held
          simp at held
        · intro holding
          exact own.waiting id task found (by simpa using holding) ready.1
      · simp at stepped
  | execute id outcome =>
    simp only [step] at stepped
    split at stepped
    · simp at stepped
    · rename_i task found
      split at stepped
      · rename_i cancelled holding
        obtain rfl := Option.some.inj stepped
        have held := own.holder id task found (.inr ⟨cancelled, holding⟩)
        cases cancelled with
        | true =>
          exact own.setTask state.holder (fun _ _ held => held) (by simp [Task.execute])
            (by simp [Task.execute]) (fun _ => held) (own.ran id task found)
        | false =>
          refine own.setTask state.holder (fun _ _ held => held) (by simp [Task.execute])
            (by simp [Task.execute]) (fun _ => held) ?_
          intro values ran
          obtain rfl := Option.some.inj ran
          exact own.holding id task found holding
      · simp at stepped
  | release id =>
    simp only [step] at stepped
    split at stepped
    · simp at stepped
    · rename_i task found
      split at stepped
      · rename_i ended
        obtain rfl := Option.some.inj stepped
        have held := own.holder id task found (.inl ended)
        refine own.setTask none ?_ (by simp) (by simp) (by simp) (own.ran id task found)
        intro other elsewhere there
        rw [held] at there
        exact absurd (Option.some.inj there).symm elsewhere
      · simp at stepped

/-- In every run that rebinds no statement while a task waits to execute it, all tasks execute with
the values that their own `executeAsync` calls left bound. -/
theorem undisturbed_ownBindings {events : List (Event Env)} {state : State}
    (undisturbed : (connection signature database accepts).Along
      (Undisturbed signature database accepts) State.fresh events)
    (ran : (connection signature database accepts).run State.fresh events = some state)
    {id : Nat} {task : Task} (found : state.tasks id = some task)
    {values : Nat → Option DuckValue} (executed : task.ran = some values) :
    values = task.bound := by
  have keeps : ∀ before event after, OwnBindings before →
      Undisturbed signature database accepts before event →
        (connection signature database accepts).step before event = some after →
          OwnBindings after :=
    fun _ _ _ own meets stepped => step_ownBindings own meets stepped
  have own := Machine.run_preserves_along keeps ownBindings_fresh undisturbed ran
  exact own.ran id task found values executed

end Runs

/-! ## Statements that are bound again -/

/-- A start that nothing refuses. -/
def Start.granted : Start := ⟨false, false, .ok ()⟩

/-- The connection of statements with one parameter, whose values DuckDB accepts. -/
def oneParameterConnection : Machine State (Event LogicalType) :=
  connection (fun _ => oneParameter) castsSeven (fun _ _ => true)

/-- A call of `executeAsync([1])` on a statement. -/
def executeAsyncOne (statement : Nat) : Event LogicalType :=
  .executeAsync statement .granted .granted (plainType .integer)
    (some (.cons (.index 0) (.long 1) .nil))

/-- `executeAsync([1])` executes with 2 when `bindValue(1, 2)` comes before its worker. -/
theorem bindValue_overtakes_task : ∃ state task values,
    oneParameterConnection.run State.fresh
      [executeAsyncOne 0, .call 0 .granted (.bindValue (.long 1) (.long 2)),
        .acquire 0, .execute 0 (.ok ())] = some state ∧
    state.tasks 0 = some task ∧ task.ran = some values ∧
    task.bound 1 = some (.bigint 1) ∧ values 1 = some (.bigint 2) :=
  ⟨_, _, _, rfl, rfl, rfl, rfl, rfl⟩

/-- A run that binds another statement leaves every task its own bindings. -/
theorem undisturbed_ownBindings_other : ∃ state task values,
    oneParameterConnection.run State.fresh
      [executeAsyncOne 0, .call 1 .granted (.bindValue (.long 1) (.long 2)),
        .acquire 0, .execute 0 (.ok ())] = some state ∧
    state.tasks 0 = some task ∧ task.ran = some values ∧ values = task.bound := by
  refine ⟨_, _, _, rfl, rfl, rfl, ?_⟩
  refine @undisturbed_ownBindings _ (fun _ => oneParameter) castsSeven (fun _ _ => true)
    [executeAsyncOne 0, .call 1 .granted (.bindValue (.long 1) (.long 2)),
      .acquire 0, .execute 0 (.ok ())] _ ?_ rfl 0 _ rfl _ rfl
  refine ⟨?_, fun started first => ⟨?_, fun _ _ => ⟨trivial, fun _ _ => ⟨trivial, ?_⟩⟩⟩⟩
  · rintro _ ⟨id, task, found, _⟩
    simp [State.fresh] at found
  · rintro _ ⟨id, task, found, other, _⟩
    obtain rfl := Option.some.inj first
    simp only [State.setTask, State.setBindings, State.fresh, Function.update_apply] at found
    split at found
    · obtain rfl := Option.some.inj found
      simp [Task.start] at other
    · simp at found
  · exact fun _ _ => trivial

end PhpDuckdb.Prepared
