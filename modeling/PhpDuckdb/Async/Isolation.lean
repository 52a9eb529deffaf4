import PhpDuckdb.Async.Cancel

/-!
# Cancellation stays with its task

Over every run of a connection with background tasks: interrupts reach only the task that was
cancelled, a task cancelled before its worker's check is skipped, a task that is done is left
alone, and completion is published once. Completion can always be reached, whatever the actors
have done so far.
-/

namespace PhpDuckdb.Cancel

open SqlText Value Connection

/-! ## Skipped tasks -/

/-- The task was cancelled before its worker's check: it is skipped, or will be. -/
structure Task.Skipping (task : Task) : Prop where
  /-- The cancellation stays. -/
  requested : task.cancelRequested = true
  /-- The statement does not run. -/
  unexecuted : task.executions = 0
  /-- The worker read the cancellation, or will. -/
  read : task.worker.unchecked = true ∨ task.worker = .checked true ∨
    task.worker ≠ .checked false ∧ task.worker ≠ .executing ∧ task.error = some interrupted

/-- A cancelled task whose worker has not looked yet will be skipped. -/
theorem Task.Consistent.skipping {task : Task} (consistent : task.Consistent)
    (requested : task.cancelRequested = true) (unchecked : task.worker.unchecked = true) :
    task.Skipping :=
  ⟨requested, consistent.unexecuted unchecked, .inl unchecked⟩

/-- A task that skips its query goes on skipping it, whoever moves. -/
theorem move_skipping {actor : Actor} {task next : Task} {effect : Effect}
    (skipping : task.Skipping) (moved : actor.move task = some (next, effect)) :
    next.Skipping := by
  obtain ⟨requested, unexecuted, read⟩ := skipping
  cases actor with
  | worker outcome =>
    simp only [Actor.move, duckdbAsyncRunTask] at moved
    split at moved <;> (try split at moved) <;>
      simp only [Option.some.injEq, Prod.mk.injEq, reduceCtorEq] at moved <;>
      obtain ⟨rfl, rfl⟩ := moved <;> constructor <;> simp_all [Worker.unchecked]
  | canceller spawn =>
    simp only [Actor.move, duckdbTaskCancel] at moved
    split at moved <;> (try split at moved) <;> (try split at moved) <;>
      simp only [Option.some.injEq, Prod.mk.injEq, reduceCtorEq] at moved <;>
      obtain ⟨rfl, rfl⟩ := moved <;> exact ⟨by simp_all, unexecuted, read⟩
  | helper =>
    simp only [Actor.move, cancellationWorker] at moved
    split at moved <;> (try split at moved) <;>
      simp only [Option.some.injEq, Prod.mk.injEq, reduceCtorEq] at moved <;>
      obtain ⟨rfl, rfl⟩ := moved <;> exact ⟨requested, unexecuted, read⟩

/-- A skipped task that is done has the interrupt error. -/
theorem Task.Skipping.error {task : Task} (skipping : task.Skipping)
    (consistent : task.Consistent) (done : task.done = true) : task.error = some interrupted := by
  rw [consistent.done] at done
  rcases skipping.read with unchecked | read | ⟨_, _, error⟩
  · cases at_ : task.worker <;> simp_all [Worker.unchecked, Worker.hasPublished]
  · simp [read, Worker.hasPublished] at done
  · exact error

/-- A step keeps a skipped task skipped. -/
theorem step_skipping {state next : State} {event : Event} (inv : Invariant state)
    (stepped : step state event = some next) {id : Nat}
    (skipping : ∃ task, state.tasks id = some task ∧ task.Skipping) :
    ∃ task, next.tasks id = some task ∧ task.Skipping := by
  obtain ⟨task, found, skipping⟩ := skipping
  cases event with
  | start =>
    obtain rfl := Option.some.inj stepped
    refine ⟨task, ?_, skipping⟩
    simp only [setTask_tasks]
    rw [if_neg, found]
    rintro rfl
    rw [inv.fresh _ (Nat.le_refl _)] at found
    simp at found
  | task other actor =>
    obtain ⟨before, after, effect, middle, there, moved, applied, rfl⟩ := step_task.mp stepped
    rw [setTask_tasks, (apply_tasks applied).1]
    split
    · rename_i same
      subst same
      rw [found] at there
      obtain rfl := Option.some.inj there
      exact ⟨after, rfl, move_skipping skipping moved⟩
    · exact ⟨task, found, skipping⟩
  | request move =>
    refine ⟨task, ?_, skipping⟩
    rw [← found]
    cases move <;> simp only [step, requestStep] at stepped <;>
      split at stepped <;> (try simp at stepped) <;> obtain rfl := stepped <;> rfl

/-! ## Late cancellations -/

/-- What a call of `cancel()` may change of a task that is done: who holds `m`, and where the call
is. -/
def Task.SameOutcome (before after : Task) : Prop :=
  ∃ m canceller cancelThrown, after =
    { before with m := m, canceller := canceller, cancelThrown := cancelThrown }

/-- Cancelling a task that is done changes nothing and interrupts nothing. -/
theorem duckdbTaskCancel_done {spawn : Except Thrown Unit} {task next : Task} {effect : Effect}
    (consistent : task.Consistent) (done : task.done = true)
    (moved : duckdbTaskCancel spawn task = some (next, effect)) :
    effect = .silent ∧ task.SameOutcome next := by
  have settled : task.canceller ≠ .spawned ∧ task.canceller ≠ .requested := by
    constructor <;> intro at_
    · simp [consistent.requesting (.inl at_)] at done
    · simp [consistent.requesting (.inr at_)] at done
  unfold duckdbTaskCancel at moved
  split at moved
  · split at moved
    · obtain ⟨rfl, rfl⟩ := moved
      exact ⟨rfl, _, _, _, rfl⟩
    · simp at moved
  · obtain ⟨rfl, rfl⟩ := moved
    exact ⟨rfl, _, _, _, rfl⟩
  · split at moved
    · obtain ⟨rfl, rfl⟩ := moved
      exact ⟨rfl, _, _, _, rfl⟩
    · simp at moved
  · split at moved
    · obtain ⟨rfl, rfl⟩ := moved
      exact ⟨rfl, _, _, _, rfl⟩
    · rename_i open_
      simp [done] at open_
  · rename_i at_
    exact absurd at_ settled.1
  · rename_i at_
    exact absurd at_ settled.2

/-! ## Completion -/

/-- How many steps the worker still takes, the join aside. -/
def Worker.remaining : Worker → Nat
  | .waiting => 9
  | .locked => 8
  | .checking => 7
  | .checked _ => 6
  | .executing => 5
  | .ended => 4
  | .publishing => 3
  | .published => 2
  | .released => 1
  | .joined => 0

/-- How many steps a call of `cancel()` takes until it releases `m`. -/
def Canceller.remaining : Canceller → Nat
  | .first => 1
  | .second => 3
  | .spawned => 2
  | .requested => 1
  | _ => 0

/-- How many steps the helper takes until it releases `m`. -/
def Helper.remaining : Helper → Nat
  | .looping => 1
  | _ => 0

/-- How many steps bring the worker to its release of the connection. -/
def Task.remaining (task : Task) : Nat :=
  6 * task.worker.remaining + task.canceller.remaining + task.helper.remaining

/-- A step that brings the worker nearer to its release of the connection. -/
structure Advances (task : Task) (actor : Actor) (next : Task) (effect : Effect) : Prop where
  /-- The actor can take it. -/
  moved : actor.move task = some (next, effect)
  /-- It is one step less. -/
  nearer : next.remaining < task.remaining
  /-- Only a waiting worker takes the mutex. -/
  lock : effect = .lock → task.worker = .waiting
  /-- The worker releases the mutex after the publication. -/
  unlock : effect = .unlock → next.worker = .released
  /-- Otherwise it goes on. -/
  goesOn : effect ≠ .unlock → next.worker = task.worker ∧ effect ≠ .lock ∨
    next.worker.holdsConnection = true

/-- A call of `cancel()` that holds `m` comes nearer to releasing it. -/
theorem canceller_advances {task : Task} (consistent : task.Consistent)
    (held : task.m = some .canceller) :
    ∃ next effect, Advances task (.canceller (.ok ())) next effect := by
  have holds := consistent.canceller.mp held
  have free : task.helper ≠ .looping := fun looping => by
    have other := consistent.helper.mpr looping
    simp [held] at other
  cases at_ : task.canceller with
  | idle => simp [at_, Canceller.holdsTask] at holds
  | between => simp [at_, Canceller.holdsTask] at holds
  | first =>
    refine ⟨_, _, by simp only [Actor.move, duckdbTaskCancel, at_]; rfl, ?_, by simp, by simp,
      by simp⟩
    simp only [Task.remaining, at_]
    split <;> simp [Canceller.remaining]
  | second =>
    by_cases past : (task.done || task.cancelRequested) = true
    · refine ⟨_, _, by simp only [Actor.move, duckdbTaskCancel, at_, past]; rfl, ?_, by simp,
        by simp, by simp⟩
      simp [Task.remaining, at_, Canceller.remaining]
    · refine ⟨_, _, by simp only [Actor.move, duckdbTaskCancel, at_, past]; rfl, ?_, by simp,
        by simp, by simp⟩
      simp only [Task.remaining, at_, Canceller.remaining, Helper.remaining]
      omega
  | spawned =>
    refine ⟨_, _, by simp only [Actor.move, duckdbTaskCancel, at_]; rfl, ?_, by simp, by simp,
      by simp⟩
    simp [Task.remaining, at_, Canceller.remaining]
  | requested =>
    refine ⟨_, _, by simp only [Actor.move, duckdbTaskCancel, at_]; rfl, ?_, ?_, ?_, ?_⟩
    · simp [Task.remaining, at_, Canceller.remaining]
    all_goals
      split
      · simp
      · simp

/-- A helper that holds `m` comes nearer to releasing it. -/
theorem helper_advances {task : Task} (consistent : task.Consistent)
    (held : task.m = some .helper) : ∃ next effect, Advances task .helper next effect := by
  have looping := consistent.helper.mp held
  cases finished : task.done with
  | true =>
    refine ⟨_, _, by simp only [Actor.move, cancellationWorker, looping, finished]; rfl, ?_,
      by simp, by simp, by simp⟩
    simp [Task.remaining, looping, Helper.remaining]
  | false =>
    refine ⟨_, _, by simp only [Actor.move, cancellationWorker, looping, finished]; rfl, ?_, ?_,
      ?_, ?_⟩
    · simp [Task.remaining, looping, Helper.remaining]
    all_goals
      split
      · simp
      · simp

/-- A worker on its way advances, unless `m` is held by someone else. -/
theorem worker_advances {task : Task} (consistent : task.Consistent)
    (working : task.worker = .waiting ∨ task.worker.holdsConnection = true)
    (free : task.m = none ∨ task.m = some .worker) :
    ∃ next effect, Advances task (.worker (.ok ())) next effect := by
  have unlocked : task.worker.holdsTask = false → task.m = none := by
    intro holds
    rcases free with none | mine
    · exact none
    · simp [consistent.worker.mp mine] at holds
  cases at_ : task.worker with
  | waiting =>
    exact ⟨_, _, by simp only [Actor.move, duckdbAsyncRunTask, at_]; rfl, by
      simp [Task.remaining, at_, Worker.remaining], fun _ => at_, by simp, by
      simp [Worker.holdsConnection]⟩
  | locked =>
    have none := unlocked (by simp [at_, Worker.holdsTask])
    exact ⟨_, _, by simp only [Actor.move, duckdbAsyncRunTask, at_, none]; rfl, by
      simp [Task.remaining, at_, Worker.remaining], by simp, by simp, by
      simp [Worker.holdsConnection]⟩
  | checking =>
    exact ⟨_, _, by simp only [Actor.move, duckdbAsyncRunTask, at_]; rfl, by
      simp [Task.remaining, at_, Worker.remaining], by simp, by simp, by
      simp [Worker.holdsConnection]⟩
  | checked cancelled =>
    cases cancelled
    all_goals exact ⟨_, _, by simp only [Actor.move, duckdbAsyncRunTask, at_]; rfl, by
      simp [Task.remaining, at_, Worker.remaining], by simp, by simp, by
      simp [Worker.holdsConnection]⟩
  | executing =>
    exact ⟨_, _, by simp only [Actor.move, duckdbAsyncRunTask, at_]; rfl, by
      simp [Task.remaining, at_, Worker.remaining], by simp, by simp, by
      simp [Worker.holdsConnection]⟩
  | ended =>
    have none := unlocked (by simp [at_, Worker.holdsTask])
    exact ⟨_, _, by simp only [Actor.move, duckdbAsyncRunTask, at_, none]; rfl, by
      simp [Task.remaining, at_, Worker.remaining], by simp, by simp, by
      simp [Worker.holdsConnection]⟩
  | publishing =>
    exact ⟨_, _, by simp only [Actor.move, duckdbAsyncRunTask, at_]; rfl, by
      simp [Task.remaining, at_, Worker.remaining], by simp, by simp, by
      simp [Worker.holdsConnection]⟩
  | published =>
    exact ⟨_, _, by simp only [Actor.move, duckdbAsyncRunTask, at_]; rfl, by
      simp [Task.remaining, at_, Worker.remaining], by simp, by simp, by simp⟩
  | released => simp [at_, Worker.holdsConnection] at working
  | joined => simp [at_, Worker.holdsConnection] at working

/-- Some actor brings a worker on its way nearer to its release of the connection. -/
theorem task_advances {task : Task} (consistent : task.Consistent)
    (working : task.worker = .waiting ∨ task.worker.holdsConnection = true) :
    ∃ actor next effect, Advances task actor next effect := by
  cases held : task.m with
  | none => exact ⟨_, worker_advances consistent working (.inl held)⟩
  | some owner =>
    cases owner with
    | worker => exact ⟨_, worker_advances consistent working (.inr held)⟩
    | canceller => exact ⟨_, canceller_advances consistent held⟩
    | helper => exact ⟨_, helper_advances consistent held⟩

/-- The invariant holds in whatever a connection can still reach. -/
theorem reaches_invariant {state later : State} (reached : connection.Reaches state later)
    (inv : Invariant state) : Invariant later := by
  have keeps : ∀ (before : State) event after, Invariant before →
      connection.step before event = some after → Invariant after :=
    fun _ _ _ inv stepped => step_invariant inv stepped
  exact reached.preserves keeps inv

/-- A worker that holds the connection, or may take it, can go on until it releases it; other
tasks stay as they are. -/
theorem worker_finishes {state : State} (inv : Invariant state) {id : Nat} {task : Task}
    (found : state.tasks id = some task)
    (ready : task.worker = .waiting ∧ state.holder = none ∨ task.worker.holdsConnection = true) :
    ∃ later, connection.Reaches state later ∧ later.holder = none ∧
      (∃ now, later.tasks id = some now ∧ now.worker = .released) ∧
      ∀ other, other ≠ id → later.tasks other = state.tasks other := by
  induction steps : task.remaining using Nat.strong_induction_on generalizing state task with
  | _ count ih =>
    have working : task.worker = .waiting ∨ task.worker.holdsConnection = true :=
      ready.imp_left And.left
    obtain ⟨actor, next, effect, advances⟩ := task_advances (inv.consistent id task found) working
    have free : effect = .lock → state.holder = none := by
      intro locks
      rcases ready with ⟨_, free⟩ | holds
      · exact free
      · simp [advances.lock locks, Worker.holdsConnection] at holds
    obtain ⟨middle, applied⟩ : ∃ middle, effect.apply state id = some middle := by
      cases effect with
      | lock => exact ⟨_, if_pos (free rfl)⟩
      | _ => exact ⟨_, rfl⟩
    have stepped : connection.step state (.task id actor) = some (middle.setTask id next) :=
      step_task.mpr ⟨task, next, effect, middle, found, advances.moved, applied, rfl⟩
    have here : (middle.setTask id next).tasks id = some next := by simp [setTask_tasks]
    have elsewhere : ∀ other, other ≠ id →
        (middle.setTask id next).tasks other = state.tasks other := by
      intro other different
      rw [setTask_tasks, if_neg different, (apply_tasks applied).1]
    by_cases unlocks : effect = .unlock
    · subst unlocks
      obtain rfl := Option.some.inj applied
      exact ⟨_, Machine.Reaches.step stepped, rfl, ⟨next, here, advances.unlock rfl⟩, elsewhere⟩
    · have readyNext : next.worker = .waiting ∧ (middle.setTask id next).holder = none ∨
          next.worker.holdsConnection = true := by
        rcases advances.goesOn unlocks with ⟨same, silent⟩ | holds
        · rw [same]
          rcases ready with ⟨waiting, unheld⟩ | holds
          · refine .inl ⟨waiting, ?_⟩
            cases effect with
            | lock => exact absurd rfl silent
            | unlock => exact absurd rfl unlocks
            | _ =>
              obtain rfl := Option.some.inj applied
              exact unheld
          · exact .inr holds
        · exact .inr holds
      obtain ⟨later, reached, released, finished, others⟩ :=
        ih next.remaining (by rw [← steps]; exact advances.nearer)
          (task_invariant inv stepped) here readyNext rfl
      refine ⟨later, (Machine.Reaches.step stepped).trans reached, released, finished, ?_⟩
      intro other different
      rw [others other different, elsewhere other different]

/-- The connection's mutex can always be released, with the tasks that wait for it waiting on. -/
theorem connection_freed {state : State} (inv : Invariant state) :
    ∃ later, connection.Reaches state later ∧ later.holder = none ∧
      ∀ id task, state.tasks id = some task → task.worker = .waiting →
        later.tasks id = some task := by
  cases held : state.holder with
  | none => exact ⟨state, Machine.Reaches.refl _ state, held, fun _ _ found _ => found⟩
  | some runner =>
    cases runner with
    | worker other =>
      obtain ⟨task, found, holds⟩ := (inv.holder other).mp held
      obtain ⟨later, reached, free, _, others⟩ := worker_finishes inv found (.inr holds)
      refine ⟨later, reached, free, fun id waiting there at_ => ?_⟩
      rw [others id, there]
      rintro rfl
      rw [found] at there
      obtain rfl := Option.some.inj there
      simp [at_, Worker.holdsConnection] at holds
    | request =>
      cases running : state.running with
      | none =>
        refine ⟨{ state with holder := none }, ⟨[.request .unlock], ?_⟩, rfl,
          fun _ _ found _ => found⟩
        simp [Machine.run, connection, step, requestStep, running, held]
      | some runner =>
        have same := inv.running runner running
        rw [held] at same
        obtain rfl := Option.some.inj same
        refine ⟨{ state with running := none, holder := none },
          ⟨[.request .finish, .request .unlock], ?_⟩, rfl, fun _ _ found _ => found⟩
        simp [Machine.run, connection, step, requestStep, running, held]

/-- Every task can always be brought to completion. -/
theorem task_completes {state : State} (inv : Invariant state) {id : Nat} {task : Task}
    (found : state.tasks id = some task) :
    ∃ later now, connection.Reaches state later ∧ later.tasks id = some now ∧
      now.done = true := by
  have released : ∀ later, connection.Reaches state later →
      (∃ now, later.tasks id = some now ∧ now.worker = .released) →
        ∃ later now, connection.Reaches state later ∧ later.tasks id = some now ∧
          now.done = true := by
    rintro later reached ⟨now, there, at_⟩
    have kept := reaches_invariant reached inv
    refine ⟨later, now, reached, there, ?_⟩
    rw [(kept.consistent id now there).done, at_]
    rfl
  by_cases waiting : task.worker = .waiting
  · obtain ⟨middle, freed, free, waits⟩ := connection_freed inv
    have kept := reaches_invariant freed inv
    obtain ⟨later, reached, _, finished, _⟩ :=
      worker_finishes kept (waits id task found waiting) (.inl ⟨waiting, free⟩)
    exact released later (freed.trans reached) finished
  · by_cases holds : task.worker.holdsConnection = true
    · obtain ⟨later, reached, _, finished, _⟩ := worker_finishes inv found (.inr holds)
      exact released later reached finished
    · refine ⟨state, task, Machine.Reaches.refl _ state, found, ?_⟩
      rw [(inv.consistent id task found).done]
      cases at_ : task.worker <;> simp_all [Worker.holdsConnection, Worker.hasPublished]

/-! ## Every run -/

/-- What holds of a connection and all that it can still do. -/
structure CancelIsolation (state : State) : Prop where
  /-- Every interrupt so far reached its own task alone. -/
  interrupts : ∀ interrupt ∈ state.interrupts, interrupt.Own
  /-- A task cancelled before its worker's check never executes, and has the interrupt error when
  it is done. -/
  skipped : ∀ id task, state.tasks id = some task → task.cancelRequested = true →
    task.worker.unchecked = true → ∀ later, connection.Reaches state later →
      ∃ now, later.tasks id = some now ∧ now.executions = 0 ∧
        (now.done = true → now.error = some interrupted)
  /-- Every task can be brought to completion. -/
  completes : ∀ id task, state.tasks id = some task → ∃ later now,
    connection.Reaches state later ∧ later.tasks id = some now ∧ now.done = true
  /-- A call of `cancel()` on a task that is done changes nothing but its own progress. -/
  late : ∀ id task, state.tasks id = some task → task.done = true → ∀ spawn next,
    connection.step state (.task id (.canceller spawn)) = some next →
      ∃ now, task.SameOutcome now ∧ next = state.setTask id now
  /-- Completion is published once. -/
  published : ∀ id task, state.tasks id = some task →
    task.publications = if task.done then 1 else 0

/-- Cancellation stays with its task in every interleaving of the workers, their helpers, the calls
of `cancel()` and other statements. -/
theorem cancel_isolated {state : State} (reached : connection.Reaches State.fresh state) :
    CancelIsolation state := by
  have inv := reaches_invariant reached invariant_fresh
  refine ⟨inv.interrupts, ?_, fun _ _ => task_completes inv, ?_, ?_⟩
  · intro id task found requested unchecked later went
    have skipping := (inv.consistent id task found).skipping requested unchecked
    have keeps : ∀ (before : State) event after,
        (Invariant before ∧ ∃ task, before.tasks id = some task ∧ task.Skipping) →
          connection.step before event = some after →
            Invariant after ∧ ∃ task, after.tasks id = some task ∧ task.Skipping :=
      fun _ _ _ holds stepped =>
        ⟨step_invariant holds.1 stepped, step_skipping holds.1 stepped holds.2⟩
    obtain ⟨kept, now, there, skipped⟩ := went.preserves keeps ⟨inv, task, found, skipping⟩
    exact ⟨now, there, skipped.unexecuted, skipped.error (kept.consistent id now there)⟩
  · intro id task found done spawn next stepped
    obtain ⟨before, after, effect, middle, there, moved, applied, rfl⟩ := step_task.mp stepped
    rw [found] at there
    obtain rfl := Option.some.inj there
    obtain ⟨rfl, same⟩ := duckdbTaskCancel_done (inv.consistent id task found) done moved
    obtain rfl := Option.some.inj applied
    exact ⟨after, same, rfl⟩
  · intro id task found
    exact (inv.consistent id task found).published

/-- The next step of a task's worker. -/
def workerStep : Event := .task 0 (.worker (.ok ()))

/-- The next step of a call of `cancel()` on the task. -/
def cancelStep : Event := .task 0 (.canceller (.ok ()))

/-- A task cancelled while its statement runs: the call of `cancel()` interrupts it. -/
theorem cancel_isolated_running : ∃ state, CancelIsolation state ∧
    state.interrupts = [⟨0, some (.worker 0), some (.worker 0)⟩] :=
  ⟨_, cancel_isolated ⟨[.start, workerStep, workerStep, workerStep, workerStep, cancelStep,
    cancelStep, cancelStep, cancelStep, cancelStep, cancelStep], rfl⟩, rfl⟩

end PhpDuckdb.Cancel
