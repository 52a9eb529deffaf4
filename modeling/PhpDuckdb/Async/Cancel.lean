import PhpDuckdb.Connection.Guard
import PhpDuckdb.Lib.Machine

/-!
# Cancelling background tasks

A background task has a worker, which runs its statement under the connection's mutex, a
cancellation helper, which `cancel()` starts and which repeats the interrupt, and the calls of
`cancel()` themselves. All of them share the task's flags under the mutex `m` of the task. DuckDB's
interrupt is for whatever runs on the connection, so every interrupt is recorded with what runs
then. Other statements take the connection's mutex from their start to their finish.
-/

namespace PhpDuckdb.Cancel

open SqlText Value Connection

/-- Who may hold a task's `m`. -/
inductive Owner
  | worker
  | canceller
  | helper
  deriving DecidableEq, Repr

/-- Where the worker is, in `duckdb_async_run_task`. -/
inductive Worker
  /-- It waits for the connection's mutex. -/
  | waiting
  /-- It holds the connection's mutex and waits for `m`. -/
  | locked
  /-- It holds `m` and is about to read `cancel_requested`. -/
  | checking
  /-- It released `m`, with what it read. -/
  | checked (cancelled : Bool)
  /-- Its statement runs. -/
  | executing
  /-- Its statement has run, or was skipped; it waits for `m`. -/
  | ended
  /-- It holds `m` and is about to publish completion. -/
  | publishing
  /-- It released `m`. -/
  | published
  /-- It released the connection's mutex and joins the helper. -/
  | released
  /-- It joined the helper. -/
  | joined
  deriving DecidableEq, Repr

/-- Where the current call of `duckdb_task_cancel` is. -/
inductive Canceller
  /-- No call is under way. -/
  | idle
  /-- It holds `m` and is about to look at `done`. -/
  | first
  /-- It released `m`, since the task was not done. -/
  | between
  /-- It holds `m` again and is about to look at the flags. -/
  | second
  /-- It started the helper. -/
  | spawned
  /-- It set `cancel_requested`. -/
  | requested
  deriving DecidableEq, Repr

/-- Where `cancellation_worker` is in its loop. -/
inductive Helper
  /-- There is none. -/
  | absent
  /-- It waits for `m`, at its start or in `wait_for`. -/
  | waiting
  /-- It holds `m` at the head of its loop. -/
  | looping
  /-- It ended. -/
  | exited
  deriving DecidableEq, Repr

/-- A background task with the flags that its threads share. -/
structure Task where
  /-- `cancel_requested`. -/
  cancelRequested : Bool
  /-- `worker_running`. -/
  workerRunning : Bool
  /-- `done`. -/
  done : Bool
  /-- Its error. -/
  error : Option Thrown
  /-- Who holds its `m`. -/
  m : Option Owner
  /-- Where its worker is. -/
  worker : Worker
  /-- Where the call of `cancel()` is. -/
  canceller : Canceller
  /-- Where its helper is. -/
  helper : Helper
  /-- What the last call of `cancel()` threw. -/
  cancelThrown : Option Thrown
  /-- How often its statement started. -/
  executions : Nat
  /-- How often `done` was set. -/
  publications : Nat

/-- A task whose thread has just started. -/
def Task.start : Task :=
  ⟨false, false, false, none, none, .waiting, .idle, .absent, none, 0, 0⟩

/-- What a step of a task does to its connection. -/
inductive Effect
  /-- Nothing. -/
  | silent
  /-- It takes the connection's mutex. -/
  | lock
  /-- It starts its statement. -/
  | start
  /-- Its statement ends. -/
  | finish
  /-- It releases the connection's mutex. -/
  | unlock
  /-- It interrupts the connection. -/
  | interrupt
  deriving DecidableEq, Repr

/-- The next step of `duckdb_async_run_task`, with DuckDB's outcome of the statement. -/
def duckdbAsyncRunTask (outcome : Except Thrown Unit) (task : Task) : Option (Task × Effect) :=
  match task.worker with
  | .waiting => some ({ task with worker := .locked }, .lock)
  | .locked =>
    if task.m = none then some ({ task with m := some .worker, worker := .checking }, .silent)
    else none
  | .checking =>
    some ({ task with
      workerRunning := !task.cancelRequested
      worker := .checked task.cancelRequested
      m := none }, .silent)
  | .checked true => some ({ task with error := some interrupted, worker := .ended }, .silent)
  | .checked false =>
    some ({ task with executions := task.executions + 1, worker := .executing }, .start)
  | .executing =>
    some ({ task with
      error := match outcome with | .ok () => none | .error thrown => some thrown
      worker := .ended }, .finish)
  | .ended =>
    if task.m = none then some ({ task with m := some .worker, worker := .publishing }, .silent)
    else none
  | .publishing =>
    some ({ task with
      workerRunning := false
      done := true
      publications := task.publications + 1
      worker := .published
      m := none }, .silent)
  | .published => some ({ task with worker := .released }, .unlock)
  | .released =>
    if task.helper = .absent ∨ task.helper = .exited then some ({ task with worker := .joined }, .silent)
    else none
  | .joined => none

/-- The next step of `duckdb_task_cancel`, with the outcome of starting the helper. -/
def duckdbTaskCancel (spawn : Except Thrown Unit) (task : Task) : Option (Task × Effect) :=
  match task.canceller with
  | .idle =>
    if task.m = none then
      some ({ task with m := some .canceller, canceller := .first, cancelThrown := none }, .silent)
    else none
  | .first =>
    some ({ task with canceller := if task.done then .idle else .between, m := none }, .silent)
  | .between =>
    if task.m = none then some ({ task with m := some .canceller, canceller := .second }, .silent)
    else none
  | .second =>
    if task.done || task.cancelRequested then
      some ({ task with canceller := .idle, m := none }, .silent)
    else
      match spawn with
      | .error thrown =>
        some ({ task with canceller := .idle, cancelThrown := some thrown, m := none }, .silent)
      | .ok () => some ({ task with helper := .waiting, canceller := .spawned }, .silent)
  | .spawned => some ({ task with cancelRequested := true, canceller := .requested }, .silent)
  | .requested =>
    some ({ task with canceller := .idle, m := none },
      if task.workerRunning then .interrupt else .silent)

/-- The next step of `cancellation_worker`: `wait_for` may return at any time. -/
def cancellationWorker (task : Task) : Option (Task × Effect) :=
  match task.helper with
  | .absent => none
  | .waiting =>
    if task.m = none then some ({ task with m := some .helper, helper := .looping }, .silent) else none
  | .looping =>
    if task.done then some ({ task with helper := .exited, m := none }, .silent)
    else
      some ({ task with helper := .waiting, m := none },
        if task.workerRunning then .interrupt else .silent)
  | .exited => none

/-- Who takes a step on a task. -/
inductive Actor
  | worker (outcome : Except Thrown Unit)
  | canceller (spawn : Except Thrown Unit)
  | helper

/-- The next step of an actor. -/
def Actor.move : Actor → Task → Option (Task × Effect)
  | .worker outcome => duckdbAsyncRunTask outcome
  | .canceller spawn => duckdbTaskCancel spawn
  | .helper => cancellationWorker

/-! ## The connection -/

/-- Who holds the connection's mutex, or runs a statement. -/
inductive Runner
  /-- The worker of a task. -/
  | worker (task : Nat)
  /-- A statement of the request thread. -/
  | request
  deriving DecidableEq, Repr

/-- An interrupt, with the connection as it was then. -/
structure Interrupt where
  /-- The cancelled task. -/
  task : Nat
  /-- Who held the connection's mutex. -/
  holder : Option Runner
  /-- Whose statement ran. -/
  running : Option Runner

/-- One connection with its tasks and its mutexes. -/
structure State where
  /-- Its background tasks. -/
  tasks : Nat → Option Task
  /-- How many tasks were started. -/
  started : Nat
  /-- Who holds the connection's mutex. -/
  holder : Option Runner
  /-- Whose statement runs. -/
  running : Option Runner
  /-- The interrupts of the cancellation path, in order. -/
  interrupts : List Interrupt

/-- A new connection, on which no task was started. -/
def State.fresh : State := ⟨fun _ => none, 0, none, none, []⟩

/-- The effect of a task's step. -/
def Effect.apply (state : State) (id : Nat) : Effect → Option State
  | .silent => some state
  | .lock =>
    if state.holder = none then some { state with holder := some (.worker id) } else none
  | .start => some { state with running := some (.worker id) }
  | .finish => some { state with running := none }
  | .unlock => some { state with holder := none }
  | .interrupt =>
    some { state with
      interrupts := state.interrupts ++ [⟨id, state.holder, state.running⟩] }

/-- What the request thread does on the connection. -/
inductive RequestMove
  | lock
  | start
  | finish
  | unlock

/-- One step on the connection, by one of the threads that share it. -/
inductive Event
  /-- A background task is started. -/
  | start
  /-- An actor of a task takes a step. -/
  | task (id : Nat) (actor : Actor)
  /-- The request thread takes a step with another statement. -/
  | request (move : RequestMove)

/-- A step of the request thread. -/
def requestStep (state : State) : RequestMove → Option State
  | .lock => if state.holder = none then some { state with holder := some .request } else none
  | .start =>
    if state.holder = some .request ∧ state.running = none then
      some { state with running := some .request }
    else none
  | .finish =>
    if state.running = some .request then some { state with running := none } else none
  | .unlock =>
    if state.holder = some .request ∧ state.running = none then some { state with holder := none }
    else none

/-- Replace the task of an id. -/
def State.setTask (state : State) (id : Nat) (task : Task) : State :=
  { state with tasks := Function.update state.tasks id (some task) }

/-- One move of a worker, a caller of `cancel()`, the helper or another statement. -/
def step (state : State) : Event → Option State
  | .start => some { state.setTask state.started .start with started := state.started + 1 }
  | .task id actor => do
    let task ← state.tasks id
    let (task, effect) ← actor.move task
    let state ← effect.apply state id
    some (state.setTask id task)
  | .request move => requestStep state move

/-- The machine of one connection with all of its background tasks. -/
def connection : Machine State Event := ⟨step⟩

/-! ## The steps of one task -/

/-- The worker holds the connection's mutex. -/
def Worker.holdsConnection : Worker → Bool
  | .waiting => false
  | .released => false
  | .joined => false
  | _ => true

/-- The worker holds the mutex `m` of its task. -/
def Worker.holdsTask : Worker → Bool
  | .checking => true
  | .publishing => true
  | _ => false

/-- The worker has not looked at `cancel_requested`. -/
def Worker.unchecked : Worker → Bool
  | .waiting => true
  | .locked => true
  | .checking => true
  | _ => false

/-- The worker published that the task is done. -/
def Worker.hasPublished : Worker → Bool
  | .published => true
  | .released => true
  | .joined => true
  | _ => false

/-- The call of `cancel()` holds `m`. -/
def Canceller.holdsTask : Canceller → Bool
  | .idle => false
  | .between => false
  | _ => true

/-- How the parts of a task fit together. -/
structure Task.Consistent (task : Task) : Prop where
  /-- The worker holds `m` where it locked it. -/
  worker : task.m = some .worker ↔ task.worker.holdsTask = true
  /-- The call of `cancel()` holds `m` where it locked it. -/
  canceller : task.m = some .canceller ↔ task.canceller.holdsTask = true
  /-- The helper holds `m` at the head of its loop. -/
  helper : task.m = some .helper ↔ task.helper = .looping
  /-- `worker_running` is set only between the check and the publication. -/
  running : task.workerRunning = true →
    task.worker.holdsConnection = true ∧ task.worker.hasPublished = false
  /-- The publication sets `done`. -/
  done : task.done = task.worker.hasPublished
  /-- It happens once. -/
  published : task.publications = if task.done then 1 else 0
  /-- A call of `cancel()` that started the helper goes on with a task that is not done. -/
  requesting : task.canceller = .spawned ∨ task.canceller = .requested → task.done = false
  /-- The statement starts after the check. -/
  unexecuted : task.worker.unchecked = true → task.executions = 0

/-- The flags of a new task fit together. -/
theorem consistent_start : Task.start.Consistent := by
  constructor <;> simp [Task.start, Worker.holdsTask, Canceller.holdsTask, Worker.hasPublished]

/-- A call of `cancel()` that does not hold `m` did not start the helper. -/
theorem Canceller.not_requesting (canceller : Canceller) (unheld : canceller.holdsTask = false) :
    canceller ≠ .spawned ∧ canceller ≠ .requested := by
  cases canceller <;> simp_all [holdsTask]

/-- A step of the worker leaves the flags of its task consistent. -/
theorem duckdbAsyncRunTask_consistent {outcome : Except Thrown Unit} {task next : Task}
    {effect : Effect} (consistent : task.Consistent)
    (moved : duckdbAsyncRunTask outcome task = some (next, effect)) : next.Consistent := by
  obtain ⟨worker, canceller, helper, running, done, published, requesting, unexecuted⟩ := consistent
  cases at_ : task.worker with
  | waiting =>
    simp only [duckdbAsyncRunTask, at_] at moved
    obtain ⟨rfl, rfl⟩ := Prod.mk.inj (Option.some.inj moved)
    constructor <;> simp_all [Worker.holdsTask, Worker.holdsConnection, Worker.hasPublished,
      Worker.unchecked]
  | locked =>
    simp only [duckdbAsyncRunTask, at_] at moved
    split at moved
    · obtain ⟨rfl, rfl⟩ := Prod.mk.inj (Option.some.inj moved)
      constructor <;> simp_all [Worker.holdsTask, Worker.holdsConnection, Worker.hasPublished,
        Worker.unchecked]
    · simp at moved
  | checking =>
    simp only [duckdbAsyncRunTask, at_] at moved
    obtain ⟨rfl, rfl⟩ := Prod.mk.inj (Option.some.inj moved)
    constructor <;> simp_all [Worker.holdsTask, Worker.holdsConnection, Worker.hasPublished,
      Worker.unchecked]
  | checked skip =>
    cases skip with
    | true =>
      simp only [duckdbAsyncRunTask, at_] at moved
      obtain ⟨rfl, rfl⟩ := Prod.mk.inj (Option.some.inj moved)
      constructor <;> simp_all [Worker.holdsTask, Worker.holdsConnection, Worker.hasPublished,
        Worker.unchecked]
    | false =>
      simp only [duckdbAsyncRunTask, at_] at moved
      obtain ⟨rfl, rfl⟩ := Prod.mk.inj (Option.some.inj moved)
      constructor <;> simp_all [Worker.holdsTask, Worker.holdsConnection, Worker.hasPublished,
        Worker.unchecked]
  | executing =>
    simp only [duckdbAsyncRunTask, at_] at moved
    obtain ⟨rfl, rfl⟩ := Prod.mk.inj (Option.some.inj moved)
    constructor <;> simp_all [Worker.holdsTask, Worker.holdsConnection, Worker.hasPublished,
      Worker.unchecked]
  | ended =>
    simp only [duckdbAsyncRunTask, at_] at moved
    split at moved
    · obtain ⟨rfl, rfl⟩ := Prod.mk.inj (Option.some.inj moved)
      constructor <;> simp_all [Worker.holdsTask, Worker.holdsConnection, Worker.hasPublished,
        Worker.unchecked]
    · simp at moved
  | publishing =>
    simp only [duckdbAsyncRunTask, at_] at moved
    obtain ⟨rfl, rfl⟩ := Prod.mk.inj (Option.some.inj moved)
    have idle := task.canceller.not_requesting
    constructor <;> simp_all [Worker.holdsTask, Worker.holdsConnection, Worker.hasPublished,
      Worker.unchecked]
  | published =>
    simp only [duckdbAsyncRunTask, at_] at moved
    obtain ⟨rfl, rfl⟩ := Prod.mk.inj (Option.some.inj moved)
    constructor <;> simp_all [Worker.holdsTask, Worker.holdsConnection, Worker.hasPublished,
      Worker.unchecked]
  | released =>
    simp only [duckdbAsyncRunTask, at_] at moved
    split at moved
    · obtain ⟨rfl, rfl⟩ := Prod.mk.inj (Option.some.inj moved)
      constructor <;> simp_all [Worker.holdsTask, Worker.holdsConnection, Worker.hasPublished,
        Worker.unchecked]
    · simp at moved
  | joined => simp [duckdbAsyncRunTask, at_] at moved

/-- A call of `cancel()` leaves the flags of a task consistent. -/
theorem duckdbTaskCancel_consistent {spawn : Except Thrown Unit} {task next : Task}
    {effect : Effect} (consistent : task.Consistent)
    (moved : duckdbTaskCancel spawn task = some (next, effect)) : next.Consistent := by
  obtain ⟨worker, canceller, helper, running, done, published, requesting, unexecuted⟩ := consistent
  cases at_ : task.canceller with
  | idle =>
    simp only [duckdbTaskCancel, at_] at moved
    split at moved
    · obtain ⟨rfl, rfl⟩ := Prod.mk.inj (Option.some.inj moved)
      constructor <;> simp_all [Canceller.holdsTask]
    · simp at moved
  | first =>
    simp only [duckdbTaskCancel, at_] at moved
    obtain ⟨rfl, rfl⟩ := Prod.mk.inj (Option.some.inj moved)
    cases finished : task.done <;> constructor <;> simp_all [Canceller.holdsTask]
  | between =>
    simp only [duckdbTaskCancel, at_] at moved
    split at moved
    · obtain ⟨rfl, rfl⟩ := Prod.mk.inj (Option.some.inj moved)
      constructor <;> simp_all [Canceller.holdsTask]
    · simp at moved
  | second =>
    simp only [duckdbTaskCancel, at_] at moved
    split at moved
    · obtain ⟨rfl, rfl⟩ := Prod.mk.inj (Option.some.inj moved)
      constructor <;> simp_all [Canceller.holdsTask]
    · rename_i open_
      cases spawn with
      | error thrown =>
        obtain ⟨rfl, rfl⟩ := Prod.mk.inj (Option.some.inj moved)
        constructor <;> simp_all [Canceller.holdsTask]
      | ok _ =>
        obtain ⟨rfl, rfl⟩ := Prod.mk.inj (Option.some.inj moved)
        constructor <;> simp_all [Canceller.holdsTask]
  | spawned =>
    simp only [duckdbTaskCancel, at_] at moved
    obtain ⟨rfl, rfl⟩ := Prod.mk.inj (Option.some.inj moved)
    constructor <;> simp_all [Canceller.holdsTask]
  | requested =>
    simp only [duckdbTaskCancel, at_] at moved
    obtain ⟨rfl, rfl⟩ := Prod.mk.inj (Option.some.inj moved)
    constructor <;> simp_all [Canceller.holdsTask]

/-- The helper's steps keep the flags of a task fitting together. -/
theorem cancellationWorker_consistent {task next : Task} {effect : Effect}
    (consistent : task.Consistent) (moved : cancellationWorker task = some (next, effect)) :
    next.Consistent := by
  obtain ⟨worker, canceller, helper, running, done, published, requesting, unexecuted⟩ := consistent
  cases at_ : task.helper with
  | absent => simp [cancellationWorker, at_] at moved
  | waiting =>
    simp only [cancellationWorker, at_] at moved
    split at moved
    · obtain ⟨rfl, rfl⟩ := Prod.mk.inj (Option.some.inj moved)
      constructor <;> simp_all [Canceller.holdsTask]
    · simp at moved
  | looping =>
    simp only [cancellationWorker, at_] at moved
    split at moved
    · obtain ⟨rfl, rfl⟩ := Prod.mk.inj (Option.some.inj moved)
      constructor <;> simp_all
    · obtain ⟨rfl, rfl⟩ := Prod.mk.inj (Option.some.inj moved)
      constructor <;> simp_all
  | exited => simp [cancellationWorker, at_] at moved

/-- A step of any actor keeps its task consistent. -/
theorem move_consistent {actor : Actor} {task next : Task} {effect : Effect}
    (consistent : task.Consistent) (moved : actor.move task = some (next, effect)) :
    next.Consistent := by
  cases actor with
  | worker outcome => exact duckdbAsyncRunTask_consistent consistent moved
  | canceller spawn => exact duckdbTaskCancel_consistent consistent moved
  | helper => exact cancellationWorker_consistent consistent moved

/-- How the worker of a task stands to the effect of a step. -/
def Effect.Fits (before after : Task) : Effect → Prop
  | .silent =>
    after.worker.holdsConnection = before.worker.holdsConnection ∧
      (before.worker = .executing → after.worker = .executing)
  | .lock => before.worker = .waiting ∧ after.worker.holdsConnection = true
  | .start => before.worker.holdsConnection = true ∧ after.worker = .executing
  | .finish => before.worker = .executing ∧ after.worker.holdsConnection = true
  | .unlock =>
    before.worker.holdsConnection = true ∧ before.worker ≠ .executing ∧
      after.worker.holdsConnection = false
  | .interrupt => before.workerRunning = true ∧ after.worker = before.worker

/-- Every step has an effect that fits. -/
theorem move_fits {actor : Actor} {task next : Task} {effect : Effect}
    (moved : actor.move task = some (next, effect)) : effect.Fits task next := by
  cases actor with
  | worker outcome =>
    simp only [Actor.move, duckdbAsyncRunTask] at moved
    split at moved <;> (try split at moved) <;>
      simp only [Option.some.injEq, Prod.mk.injEq, reduceCtorEq] at moved <;>
      obtain ⟨rfl, rfl⟩ := moved <;> simp_all [Effect.Fits, Worker.holdsConnection]
  | canceller spawn =>
    simp only [Actor.move, duckdbTaskCancel] at moved
    split at moved <;> (try split at moved) <;> (try split at moved) <;>
      simp only [Option.some.injEq, Prod.mk.injEq, reduceCtorEq] at moved <;>
      obtain ⟨rfl, rfl⟩ := moved <;> simp_all [Effect.Fits]
  | helper =>
    simp only [Actor.move, cancellationWorker] at moved
    split at moved <;> (try split at moved) <;>
      simp only [Option.some.injEq, Prod.mk.injEq, reduceCtorEq] at moved <;>
      obtain ⟨rfl, rfl⟩ := moved <;> (try split) <;> simp_all [Effect.Fits]

/-! ## The steps of the connection -/

/-- The task of an id after another was put in place. -/
theorem setTask_tasks (state : State) (id : Nat) (task : Task) (other : Nat) :
    (state.setTask id task).tasks other = if other = id then some task else state.tasks other := by
  simp [State.setTask, Function.update_apply]

/-- What a task's step does to the connection leaves the tasks alone. -/
theorem apply_tasks {effect : Effect} {state next : State} {id : Nat}
    (applied : effect.apply state id = some next) :
    next.tasks = state.tasks ∧ next.started = state.started := by
  cases effect with
  | lock =>
    simp only [Effect.apply] at applied
    split at applied
    · obtain rfl := Option.some.inj applied
      exact ⟨rfl, rfl⟩
    · simp at applied
  | _ =>
    obtain rfl := Option.some.inj applied
    exact ⟨rfl, rfl⟩

/-- What a step of a task is made of. -/
theorem step_task {state next : State} {id : Nat} {actor : Actor} :
    step state (.task id actor) = some next ↔
      ∃ task after effect middle, state.tasks id = some task ∧
        actor.move task = some (after, effect) ∧ effect.apply state id = some middle ∧
          middle.setTask id after = next := by
  simp only [step, Option.bind_eq_bind, Option.bind_eq_some_iff, Option.some.injEq, Prod.exists]
  constructor
  · rintro ⟨task, found, after, effect, moved, middle, applied, same⟩
    exact ⟨task, after, effect, middle, found, moved, applied, same⟩
  · rintro ⟨task, after, effect, middle, found, moved, applied, same⟩
    exact ⟨task, found, after, effect, moved, middle, applied, same⟩

/-- The interrupt came while the worker of its own task held the connection and no other statement
ran. -/
def Interrupt.Own (interrupt : Interrupt) : Prop :=
  interrupt.holder = some (.worker interrupt.task) ∧
    ∀ runner, interrupt.running = some runner → runner = .worker interrupt.task

/-- How the tasks of a connection fit its mutex and its statement. -/
structure Invariant (state : State) : Prop where
  /-- Every task fits together. -/
  consistent : ∀ id task, state.tasks id = some task → task.Consistent
  /-- Ids are new. -/
  fresh : ∀ id, state.started ≤ id → state.tasks id = none
  /-- The workers past the connection's mutex hold it. -/
  holder : ∀ id, state.holder = some (.worker id) ↔
    ∃ task, state.tasks id = some task ∧ task.worker.holdsConnection = true
  /-- Statements run under the mutex. -/
  running : ∀ runner, state.running = some runner → state.holder = some runner
  /-- A worker's statement runs where the worker waits for it. -/
  executing : ∀ id task, state.tasks id = some task → state.running = some (.worker id) →
    task.worker = .executing
  /-- Interrupts reach their own task. -/
  interrupts : ∀ interrupt ∈ state.interrupts, interrupt.Own

/-- A new connection without tasks meets the invariant. -/
theorem invariant_fresh : Invariant State.fresh := by
  constructor <;> simp [State.fresh]

/-- Starting a task keeps the invariant. -/
theorem start_invariant {state next : State} (inv : Invariant state)
    (stepped : step state .start = some next) : Invariant next := by
  obtain rfl := Option.some.inj stepped
  have new := inv.fresh state.started (Nat.le_refl _)
  have unheld : state.holder ≠ some (.worker state.started) := by
    intro held
    obtain ⟨task, found, _⟩ := (inv.holder _).mp held
    rw [new] at found
    simp at found
  constructor
  · intro id task found
    simp only [setTask_tasks] at found
    split at found
    · obtain rfl := Option.some.inj found
      exact consistent_start
    · exact inv.consistent id task found
  · intro id later
    have beyond : state.started + 1 ≤ id := later
    simp only [setTask_tasks]
    rw [if_neg (by omega)]
    exact inv.fresh id (by omega)
  · intro id
    simp only [setTask_tasks]
    split
    · rename_i same
      subst same
      constructor
      · intro held
        exact absurd held unheld
      · rintro ⟨task, found, holds⟩
        obtain rfl := Option.some.inj found
        simp [Task.start, Worker.holdsConnection] at holds
    · exact inv.holder id
  · exact inv.running
  · intro id task found running
    simp only [setTask_tasks] at found
    split at found
    · rename_i same
      subst same
      exact absurd (inv.running _ running) unheld
    · exact inv.executing id task found running
  · exact inv.interrupts

/-- What a fitting effect makes of the connection. -/
structure Effect.Made (before after : State) (id : Nat) (task : Task) : Prop where
  /-- The worker of the task holds the mutex when it is past it. -/
  holder : after.holder = some (.worker id) ↔ task.worker.holdsConnection = true
  /-- Other workers hold it as before. -/
  others : ∀ other, other ≠ id →
    (after.holder = some (.worker other) ↔ before.holder = some (.worker other))
  /-- Statements run under the mutex. -/
  running : ∀ runner, after.running = some runner → after.holder = some runner
  /-- The statement of the task runs where its worker waits for it. -/
  executing : after.running = some (.worker id) → task.worker = .executing
  /-- The statements of other tasks run as before. -/
  elsewhere : ∀ other, other ≠ id → after.running = some (.worker other) →
    before.running = some (.worker other)
  /-- Interrupts reach their own task. -/
  interrupts : ∀ interrupt ∈ after.interrupts, interrupt.Own

/-- A fitting effect makes of the connection what it should. -/
theorem apply_made {state next : State} {id : Nat} {task after : Task} {effect : Effect}
    (inv : Invariant state) (found : state.tasks id = some task) (fits : effect.Fits task after)
    (applied : effect.apply state id = some next) : Effect.Made state next id after := by
  have consistent := inv.consistent id task found
  have holder : state.holder = some (.worker id) ↔ task.worker.holdsConnection = true := by
    rw [inv.holder id, found]
    simp
  have executing := inv.executing id task found
  cases effect with
  | silent =>
    obtain rfl := Option.some.inj applied
    exact ⟨by rw [holder, fits.1], fun _ _ => Iff.rfl, inv.running,
      fun running => fits.2 (executing running), fun _ _ running => running, inv.interrupts⟩
  | lock =>
    simp only [Effect.apply] at applied
    split at applied
    · rename_i free
      obtain rfl := Option.some.inj applied
      have idle : state.running = none := by
        cases running : state.running with
        | none => rfl
        | some runner =>
          have held := inv.running runner running
          rw [free] at held
          simp at held
      constructor
      · simp [fits.2]
      · intro other elsewhere
        simp [free, Ne.symm elsewhere]
      · intro runner running
        simp [idle] at running
      · intro running
        simp [idle] at running
      · exact fun _ _ running => running
      · exact inv.interrupts
    · simp at applied
  | start =>
    obtain rfl := Option.some.inj applied
    have held := holder.mpr fits.1
    constructor
    · simp [held, fits.2, Worker.holdsConnection]
    · exact fun _ _ => Iff.rfl
    · intro runner running
      obtain rfl := Option.some.inj running
      exact held
    · exact fun _ => fits.2
    · intro other elsewhere running
      exact absurd (Runner.worker.inj (Option.some.inj running)).symm elsewhere
    · exact inv.interrupts
  | finish =>
    obtain rfl := Option.some.inj applied
    have held := holder.mpr (by rw [fits.1]; rfl)
    constructor
    · simp [held, fits.2]
    · exact fun _ _ => Iff.rfl
    · simp
    · simp
    · simp
    · exact inv.interrupts
  | unlock =>
    obtain rfl := Option.some.inj applied
    have held := holder.mpr fits.1
    have idle : state.running = none := by
      cases running : state.running with
      | none => rfl
      | some runner =>
        have same := inv.running runner running
        rw [held] at same
        obtain rfl := Option.some.inj same
        exact absurd (executing running) fits.2.1
    constructor
    · simp [fits.2.2]
    · intro other elsewhere
      simp [held, Ne.symm elsewhere]
    · simp [idle]
    · simp [idle]
    · simp [idle]
    · exact inv.interrupts
  | interrupt =>
    obtain rfl := Option.some.inj applied
    have held := holder.mpr (consistent.running fits.1).1
    constructor
    · rw [fits.2]
      exact holder
    · exact fun _ _ => Iff.rfl
    · exact inv.running
    · rw [fits.2]
      exact executing
    · exact fun _ _ running => running
    · intro interrupt member
      rcases List.mem_append.mp member with old | new
      · exact inv.interrupts interrupt old
      · obtain rfl := List.mem_singleton.mp new
        refine ⟨held, fun runner running => ?_⟩
        have same := inv.running runner running
        rw [held] at same
        exact (Option.some.inj same).symm

/-- An actor takes a step on a task. -/
theorem task_invariant {state next : State} {id : Nat} {actor : Actor} (inv : Invariant state)
    (stepped : step state (.task id actor) = some next) : Invariant next := by
  obtain ⟨task, after, effect, middle, found, moved, applied, rfl⟩ := step_task.mp stepped
  obtain ⟨sameTasks, sameStarted⟩ := apply_tasks applied
  have made := apply_made inv found (move_fits moved) applied
  constructor
  · intro other task there
    rw [setTask_tasks, sameTasks] at there
    split at there
    · obtain rfl := Option.some.inj there
      exact move_consistent (inv.consistent id _ found) moved
    · exact inv.consistent other task there
  · intro other later
    have unused := inv.fresh other (by rw [← sameStarted]; exact later)
    rw [setTask_tasks, sameTasks, if_neg, unused]
    rintro rfl
    rw [found] at unused
    simp at unused
  · intro other
    rw [setTask_tasks, sameTasks]
    split
    · rename_i same
      subst same
      simp only [Option.some.injEq, exists_eq_left']
      exact made.holder
    · rename_i elsewhere
      exact (made.others other elsewhere).trans (inv.holder other)
  · exact made.running
  · intro other task there running
    rw [setTask_tasks, sameTasks] at there
    split at there
    · rename_i same
      subst same
      obtain rfl := Option.some.inj there
      exact made.executing running
    · rename_i elsewhere
      exact inv.executing other task there (made.elsewhere other elsewhere running)
  · exact made.interrupts

/-- A step of the request thread keeps the connection's invariant. -/
theorem request_invariant {state next : State} {move : RequestMove} (inv : Invariant state)
    (stepped : requestStep state move = some next) : Invariant next := by
  have unheld : state.holder = none ∨ state.holder = some .request →
      ∀ id task, state.tasks id = some task → task.worker.holdsConnection = false := by
    intro held id task found
    by_contra holds
    have mine := (inv.holder id).mpr ⟨task, found, by simpa using holds⟩
    rcases held with free | request
    · simp [free] at mine
    · simp [request] at mine
  cases move with
  | lock =>
    simp only [requestStep] at stepped
    split at stepped
    · rename_i free
      obtain rfl := Option.some.inj stepped
      have idle : ∀ runner, state.running ≠ some runner := by
        intro runner running
        have held := inv.running runner running
        simp [free] at held
      refine ⟨inv.consistent, inv.fresh, ?_, ?_, inv.executing, inv.interrupts⟩
      · intro id
        have free := unheld (.inl free) id
        simp only [Option.some.injEq, reduceCtorEq, false_iff, not_exists, not_and,
          Bool.not_eq_true]
        exact free
      · intro runner running
        exact absurd running (idle runner)
    · simp at stepped
  | start =>
    simp only [requestStep] at stepped
    split at stepped
    · rename_i ready
      obtain rfl := Option.some.inj stepped
      refine ⟨inv.consistent, inv.fresh, inv.holder, ?_, ?_, inv.interrupts⟩
      · intro runner running
        obtain rfl := Option.some.inj running
        exact ready.1
      · simp
    · simp at stepped
  | finish =>
    simp only [requestStep] at stepped
    split at stepped
    · obtain rfl := Option.some.inj stepped
      exact ⟨inv.consistent, inv.fresh, inv.holder, by simp, by simp, inv.interrupts⟩
    · simp at stepped
  | unlock =>
    simp only [requestStep] at stepped
    split at stepped
    · rename_i ready
      obtain rfl := Option.some.inj stepped
      refine ⟨inv.consistent, inv.fresh, ?_, ?_, inv.executing, inv.interrupts⟩
      · intro id
        have free := unheld (.inr ready.1) id
        simp only [reduceCtorEq, false_iff, not_exists, not_and, Bool.not_eq_true]
        exact free
      · intro runner running
        simp [ready.2] at running
    · simp at stepped

/-- Every step keeps the connection's invariant. -/
theorem step_invariant {state next : State} {event : Event} (inv : Invariant state)
    (stepped : step state event = some next) : Invariant next := by
  cases event with
  | start => exact start_invariant inv stepped
  | task id actor => exact task_invariant inv stepped
  | request move => exact request_invariant inv stepped

end PhpDuckdb.Cancel
