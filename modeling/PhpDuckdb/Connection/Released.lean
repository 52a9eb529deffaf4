import PhpDuckdb.Connection.Release

/-!
# Every prepared statement is released once

Wherever a statement is on its way to its destruction, it is there once: `released_once` counts it
over the threads, the queue of the workers, the deferred cleanups and the destructions, in every
interleaving, and the same for the deferred cleanups themselves.
-/

namespace PhpDuckdb.Release

open OrderedTable

/-- How often a statement is on its way to its destruction. -/
def State.pending (state : State) (statement : Nat) : Nat :=
  total (fun op => op.statements.count statement) state.ops +
    state.workerPrepares.count statement +
    (state.deferred.filterMap fun item => item.2.statement?).count statement

/-- How often a deferred cleanup waits or is about to run. -/
def State.waiting (state : State) (ticket : Nat) : Nat :=
  total (fun op => op.work.count ticket) state.ops + (state.deferred.map Prod.fst).count ticket

/-- How many places a cleanup has: one from the moment it is deferred. -/
def issued (tickets ticket : Nat) : Nat := if ticket < tickets then 1 else 0

/-- A new cleanup takes the next number. -/
theorem issued_succ (tickets ticket : Nat) :
    issued (tickets + 1) ticket = issued tickets ticket + [tickets].count ticket := by
  simp only [issued, List.count_singleton, beq_iff_eq]
  by_cases earlier : ticket < tickets
  · rw [if_pos (by omega), if_pos earlier, if_neg (by omega)]
  · by_cases same : tickets = ticket
    · rw [if_pos (by omega), if_neg earlier, if_pos same]
    · rw [if_neg (by omega), if_neg earlier, if_neg same]

/-- What holds of a connection and its statements at every moment. -/
structure Released (state : State) : Prop where
  /-- A statement that was handed over is on its way or was destroyed, and only once. -/
  placed : ∀ statement ∈ state.handed,
    state.pending statement + state.destroyed.count statement = 1
  /-- No other statement is destroyed. -/
  only_handed : ∀ statement ∉ state.handed, state.destroyed.count statement = 0
  /-- No later than the connection every statement is destroyed. -/
  gone : state.alive = false → ∀ statement ∈ state.handed, state.destroyed.count statement = 1
  /-- Statements are queued only while a worker is counted. -/
  queue_empty : state.workers = 0 → state.workerPrepares = []
  /-- Every worker that is counted while a release destroys its statement at once began after the
  release found no worker. -/
  no_worker : ∀ thread statement begun, state.op thread = .destroying statement begun →
    begun + state.workers ≤ state.begun
  /-- A release that destroys its statement at once is not in a handler. -/
  no_handler : ∀ thread statement begun, state.op thread = .destroying statement begun →
    state.busyHere thread = false
  /-- A deferred cleanup waits or ran, and only once. -/
  cleanups : ∀ ticket, state.waiting ticket + state.ran.count ticket =
    issued state.tickets ticket
  /-- No later than the connection every deferred cleanup ran. -/
  cleanups_gone : state.alive = false → ∀ ticket < state.tickets, state.ran.count ticket = 1
  /-- While cleanups wait, some thread will drain the connection. -/
  listed : state.deferred ≠ [] → state.alive = true ∧ state.deferredConnections ≠ []

/-- What a thread in the middle of something may rely on. -/
def Op.Relies (workers begun : Nat) (busy : Bool) : Op → Prop
  | .unqueued _ before => before + workers ≤ begun
  | .destroying _ before => before + workers ≤ begun ∧ busy = false
  | .deferring _ => busy = true
  | _ => True

/-- What every step of a connection keeps. -/
structure Consistent (state : State) : Prop where
  /-- Statements are counted once. -/
  placed : ∀ statement, state.pending statement + state.destroyed.count statement =
    state.handed.count statement
  /-- No statement is handed over twice. -/
  nodup : state.handed.Nodup
  /-- Statements are queued only while a worker is counted. -/
  queue_empty : state.workers = 0 → state.workerPrepares = []
  /-- Every thread has what it relies on. -/
  relies : ∀ thread,
    (state.op thread).Relies state.workers state.begun (state.busyHere thread)
  /-- Cleanups are counted once. -/
  cleanups : ∀ ticket, state.waiting ticket + state.ran.count ticket =
    issued state.tickets ticket
  /-- Nothing is left once the connection is destroyed. -/
  gone : state.alive = false → (∀ statement, state.pending statement = 0) ∧
    (∀ ticket, state.waiting ticket = 0) ∧ state.deferred = []
  /-- Waiting cleanups are listed. -/
  listed : state.deferred ≠ [] → state.deferredConnections ≠ []

/-- A new connection has handed nothing over and is consistent. -/
theorem consistent_fresh : Consistent .fresh where
  placed _ := rfl
  nodup := List.nodup_nil
  queue_empty _ := rfl
  relies _ := trivial
  cleanups ticket := by simp [issued, State.waiting, State.fresh, total]
  gone dead := by cases dead
  listed waits := absurd rfl waits

/-- What a thread is in the middle of, after one went on. -/
theorem op_setOp (state : State) (thread other : Nat) (op : Op) :
    (state.setOp thread op).op other = if thread = other then op else state.op other :=
  lookup_update Op.idle thread other op state.ops

/-- A thread that goes on trades the statements it had for those it has now. -/
theorem statements_setOp (state : State) (thread : Nat) (op : Op) (statement : Nat) :
    total (fun op => op.statements.count statement) (update thread op state.ops) +
        (state.op thread).statements.count statement =
      total (fun op => op.statements.count statement) state.ops + op.statements.count statement :=
  total_update Op.idle rfl thread op state.ops

/-- What a thread has yet to clean up moves with its operation. -/
theorem work_setOp (state : State) (thread : Nat) (op : Op) (ticket : Nat) :
    total (fun op => op.work.count ticket) (update thread op state.ops) +
        (state.op thread).work.count ticket =
      total (fun op => op.work.count ticket) state.ops + op.work.count ticket :=
  total_update Op.idle rfl thread op state.ops

/-- A thread that goes on relies on what its next step needs; the others are as before. -/
theorem Consistent.relies_setOp {state : State} (before : Consistent state) (thread : Nat) (op : Op)
    (next : op.Relies state.workers state.begun (state.busyHere thread)) (other : Nat) :
    ((state.setOp thread op).op other).Relies state.workers state.begun (state.busyHere other) := by
  rw [op_setOp]
  split
  · rename_i same
    subst same
    exact next
  · exact before.relies other

section Steps

variable {state : State} {thread : Nat}

/-- A thread keeps what it relies on while every worker that is new has begun since. -/
theorem Op.Relies.mono {op : Op} {workers begun later since : Nat} {busy : Bool}
    (held : op.Relies workers begun busy)
    (more : ∀ before, before + workers ≤ begun → before + later ≤ since) :
    op.Relies later since busy := by
  cases op with
  | unqueued statement before => exact more before held
  | destroying statement before => exact ⟨more before held.1, held.2⟩
  | deferring statement => exact held
  | idle | releasing | ending | draining => trivial

/-- Counting a worker keeps the connection consistent. -/
theorem Consistent.workerBegin (before : Consistent state) :
    Consistent { state with workers := state.workers + 1, begun := state.begun + 1 } where
  placed := before.placed
  nodup := before.nodup
  queue_empty := by
    intro none
    cases none
  relies other := (before.relies other).mono fun _ _ => by
    dsimp only
    omega
  cleanups := before.cleanups
  gone := before.gone
  listed := before.listed

/-- A worker that is not the last one ends. -/
theorem Consistent.workerEnd (before : Consistent state) (others : state.workers - 1 ≠ 0) :
    Consistent { state with workers := state.workers - 1 } where
  placed := before.placed
  nodup := before.nodup
  queue_empty none := absurd none others
  relies other := (before.relies other).mono fun _ _ => by
    dsimp only
    omega
  cleanups := before.cleanups
  gone := before.gone
  listed := before.listed

/-- The last worker ends and takes the queue. -/
theorem Consistent.lastWorkerEnd (before : Consistent state) (idle : state.op thread = .idle)
    (living : state.alive = true) :
    Consistent { state.setOp thread (.ending state.workerPrepares) with
      workers := state.workers - 1
      workerPrepares := [] } where
  placed := by
    intro statement
    have place := before.placed statement
    have trade := statements_setOp state thread (.ending state.workerPrepares) statement
    simp only [State.pending, State.setOp, idle, Op.statements, List.count_nil] at place trade ⊢
    omega
  nodup := before.nodup
  queue_empty _ := rfl
  relies other := by
    have held := before.relies_setOp thread (.ending state.workerPrepares)
      trivial other
    exact held.mono fun _ _ => by
      dsimp only [State.setOp]
      omega
  cleanups := by
    intro ticket
    have place := before.cleanups ticket
    have trade := work_setOp state thread (.ending state.workerPrepares) ticket
    simp only [State.waiting, State.setOp, idle, Op.work, List.count_nil] at place trade ⊢
    omega
  gone dead := absurd (living.symm.trans dead) (by decide)
  listed := before.listed

/-- Handing a statement over for its release keeps the connection consistent. -/
theorem Consistent.release (before : Consistent state) (idle : state.op thread = .idle)
    (living : state.alive = true) {statement : Nat} (new : statement ∉ state.handed) :
    Consistent { state.setOp thread (.releasing statement) with
      handed := state.handed ++ [statement] } where
  placed := by
    intro other
    have place := before.placed other
    have trade := statements_setOp state thread (.releasing statement) other
    simp only [State.pending, State.setOp, idle, Op.statements, List.count_nil,
      List.count_append] at place trade ⊢
    omega
  nodup := by
    rw [List.nodup_append]
    refine ⟨before.nodup, List.nodup_singleton statement, ?_⟩
    rintro other inside one single rfl
    obtain rfl := List.mem_singleton.mp single
    exact new inside
  queue_empty := before.queue_empty
  relies := before.relies_setOp thread (.releasing statement) trivial
  cleanups := by
    intro ticket
    have place := before.cleanups ticket
    have trade := work_setOp state thread (.releasing statement) ticket
    simp only [State.waiting, State.setOp, idle, Op.work, List.count_nil] at place trade ⊢
    omega
  gone dead := absurd (living.symm.trans dead) (by decide)
  listed := before.listed

/-- A thread goes on with the same statement and no cleanup. -/
theorem Consistent.pass (before : Consistent state) (living : state.alive = true) {old next : Op}
    (doing : state.op thread = old) (statements : next.statements = old.statements)
    (work : next.work = old.work)
    (relies : next.Relies state.workers state.begun (state.busyHere thread)) :
    Consistent (state.setOp thread next) where
  placed := by
    intro other
    have place := before.placed other
    have trade := statements_setOp state thread next other
    simp only [State.pending, State.setOp, doing, statements] at place trade ⊢
    omega
  nodup := before.nodup
  queue_empty := before.queue_empty
  relies := before.relies_setOp thread next relies
  cleanups := by
    intro ticket
    have place := before.cleanups ticket
    have trade := work_setOp state thread next ticket
    simp only [State.waiting, State.setOp, doing, work] at place trade ⊢
    omega
  gone dead := absurd (living.symm.trans dead) (by decide)
  listed := before.listed

/-- A release that finds a worker queues its statement. -/
theorem Consistent.queued (before : Consistent state) (living : state.alive = true)
    {statement : Nat} (doing : state.op thread = .releasing statement)
    (counted : state.workers > 0) :
    Consistent { state.setOp thread .idle with
      workerPrepares := state.workerPrepares ++ [statement] } where
  placed := by
    intro other
    have place := before.placed other
    have trade := statements_setOp state thread .idle other
    simp only [State.pending, State.setOp, doing, Op.statements, List.count_nil,
      List.count_append] at place trade ⊢
    omega
  nodup := before.nodup
  queue_empty none := absurd none (Nat.ne_of_gt counted)
  relies := before.relies_setOp thread .idle trivial
  cleanups := by
    intro ticket
    have place := before.cleanups ticket
    have trade := work_setOp state thread .idle ticket
    simp only [State.waiting, State.setOp, doing, Op.work, List.count_nil] at place trade ⊢
    omega
  gone dead := absurd (living.symm.trans dead) (by decide)
  listed := before.listed

/-- A cleanup is deferred by a thread that has its statement, if it has one. -/
theorem Consistent.defer (before : Consistent state) (living : state.alive = true)
    {cleanup : Cleanup} (statements : (state.op thread).statements = cleanup.statement?.toList)
    (work : (state.op thread).work = []) :
    Consistent ((state.setOp thread .idle).defer thread cleanup) where
  placed := by
    intro other
    have place := before.placed other
    have trade := statements_setOp state thread .idle other
    rw [statements] at trade
    have one : (List.filterMap (fun item : Nat × Cleanup => item.2.statement?)
        [(state.tickets, cleanup)]) = cleanup.statement?.toList := by
      cases cleanup <;> rfl
    simp only [State.pending, State.setOp, State.defer, List.filterMap_append, one,
      List.count_append] at place trade ⊢
    have none : Op.idle.statements.count other = 0 := rfl
    omega
  nodup := before.nodup
  queue_empty := before.queue_empty
  relies := before.relies_setOp thread .idle trivial
  cleanups := by
    intro ticket
    have place := before.cleanups ticket
    have trade := work_setOp state thread .idle ticket
    have none : Op.idle.work.count ticket = 0 := rfl
    rw [work] at trade
    simp only [State.waiting, State.setOp, State.defer, List.count_nil, List.map_append,
      List.map_cons, List.map_nil, List.count_append, issued_succ] at place trade ⊢
    omega
  gone dead := absurd (living.symm.trans dead) (by decide)
  listed _ := by simp [State.defer]

/-- Deferring a cleanup of another kind keeps the connection consistent. -/
theorem Consistent.deferOther (before : Consistent state) (living : state.alive = true) :
    Consistent (state.defer thread .other) where
  placed := by
    intro other
    have place := before.placed other
    have none : [(state.tickets, Cleanup.other)].filterMap
        (fun item : Nat × Cleanup => item.2.statement?) = [] := rfl
    simp only [State.pending, State.defer, List.filterMap_append, none, List.append_nil]
      at place ⊢
    exact place
  nodup := before.nodup
  queue_empty := before.queue_empty
  relies := before.relies
  cleanups := by
    intro ticket
    have place := before.cleanups ticket
    simp only [State.waiting, State.defer, List.map_append, List.map_cons, List.map_nil,
      List.count_append, issued_succ] at place ⊢
    omega
  gone dead := absurd (living.symm.trans dead) (by decide)
  listed _ := by simp [State.defer]

/-- A thread destroys the first of its statements. -/
theorem Consistent.destroy (before : Consistent state) (living : state.alive = true)
    {statement : Nat} {next : Op}
    (statements : (state.op thread).statements = statement :: next.statements)
    (work : (state.op thread).work = next.work)
    (relies : next.Relies state.workers state.begun (state.busyHere thread)) :
    Consistent { state.setOp thread next with destroyed := state.destroyed ++ [statement] } where
  placed := by
    intro other
    have place := before.placed other
    have trade := statements_setOp state thread next other
    simp only [State.pending, State.setOp, statements, List.count_append, List.count_cons,
      List.count_nil] at place trade ⊢
    omega
  nodup := before.nodup
  queue_empty := before.queue_empty
  relies := before.relies_setOp thread next relies
  cleanups := by
    intro ticket
    have place := before.cleanups ticket
    have trade := work_setOp state thread next ticket
    simp only [State.waiting, State.setOp, work] at place trade ⊢
    omega
  gone dead := absurd (living.symm.trans dead) (by decide)
  listed := before.listed

/-- A drain runs the first of its cleanups. -/
theorem Consistent.runCleanup (before : Consistent state) (living : state.alive = true)
    {ticket : Nat} {cleanup : Cleanup} {rest : List (Nat × Cleanup)}
    (doing : state.op thread = .draining ((ticket, cleanup) :: rest)) :
    Consistent ((state.setOp thread (.draining rest)).runCleanup ticket cleanup) where
  placed := by
    intro other
    have place := before.placed other
    have trade := statements_setOp state thread (.draining rest) other
    have first : ((ticket, cleanup) :: rest).filterMap (fun item => item.2.statement?) =
        cleanup.statement?.toList ++ rest.filterMap fun item => item.2.statement? := by
      cases cleanup <;> rfl
    simp only [State.pending, State.setOp, State.runCleanup, doing, Op.statements, first,
      List.count_append] at place trade ⊢
    omega
  nodup := before.nodup
  queue_empty := before.queue_empty
  relies := before.relies_setOp thread (.draining rest) trivial
  cleanups := by
    intro other
    have place := before.cleanups other
    have trade := work_setOp state thread (.draining rest) other
    simp only [State.waiting, State.setOp, State.runCleanup, doing, Op.work, List.map_cons,
      List.count_append, List.count_cons, List.count_nil] at place trade ⊢
    omega
  gone dead := absurd (living.symm.trans dead) (by decide)
  listed := before.listed

/-- A drain that takes every deferred cleanup keeps the connection consistent. -/
theorem Consistent.drain (before : Consistent state) (living : state.alive = true)
    (idle : state.op thread = .idle) (lists : List Nat) :
    Consistent { state.setOp thread (.draining state.deferred) with
      deferred := []
      deferredConnections := lists } where
  placed := by
    intro other
    have place := before.placed other
    have trade := statements_setOp state thread (.draining state.deferred) other
    simp only [State.pending, State.setOp, idle, Op.statements, List.count_nil,
      List.filterMap_nil] at place trade ⊢
    omega
  nodup := before.nodup
  queue_empty := before.queue_empty
  relies := before.relies_setOp thread (.draining state.deferred) trivial
  cleanups := by
    intro ticket
    have place := before.cleanups ticket
    have trade := work_setOp state thread (.draining state.deferred) ticket
    simp only [State.waiting, State.setOp, idle, Op.work, List.count_nil, List.map_nil]
      at place trade ⊢
    omega
  gone dead := absurd (living.symm.trans dead) (by decide)
  listed waits := absurd rfl waits

/-- A thread enters or leaves a handler: whether the other threads are in one stays as it is. -/
theorem Consistent.handler (before : Consistent state) (idle : state.op thread = .idle)
    (depth handler : Nat)
    (others : ∀ other, other ≠ thread →
      State.busyHere { state with handlerDepth := depth, handlerThread := handler } other =
        state.busyHere other) :
    Consistent { state with handlerDepth := depth, handlerThread := handler } where
  placed := before.placed
  nodup := before.nodup
  queue_empty := before.queue_empty
  relies := by
    intro other
    by_cases same : other = thread
    · subst same
      change (state.op other).Relies _ _ _
      rw [idle]
      trivial
    · rw [others other same]
      exact before.relies other
  cleanups := before.cleanups
  gone := before.gone
  listed := before.listed

/-- The destructor runs what is still deferred. -/
theorem Consistent.destruct (before : Consistent state) (workers : state.workers = 0)
    (idle : ∀ entry ∈ state.ops, entry.2 = .idle) : Consistent (destruct state) := by
  have nothing : ∀ statement,
      total (fun op : Op => op.statements.count statement) state.ops = 0 := fun statement =>
    total_eq_zero fun entry inside => by
      rw [idle entry inside]
      rfl
  have no_work : ∀ ticket, total (fun op : Op => op.work.count ticket) state.ops = 0 :=
    fun ticket => total_eq_zero fun entry inside => by
      rw [idle entry inside]
      rfl
  have queue := before.queue_empty workers
  exact {
    placed := by
      intro other
      have place := before.placed other
      simp only [State.pending, Release.destruct, nothing, queue, List.count_nil,
        List.filterMap_nil, List.count_append] at place ⊢
      omega
    nodup := before.nodup
    queue_empty := before.queue_empty
    relies := before.relies
    cleanups := by
      intro ticket
      have place := before.cleanups ticket
      simp only [State.waiting, Release.destruct, no_work, List.map_nil, List.count_nil,
        List.count_append] at place ⊢
      omega
    gone := by
      intro dead
      refine ⟨?_, ?_, rfl⟩
      · intro statement
        simp [State.pending, Release.destruct, nothing, queue]
      · intro ticket
        simp [State.waiting, Release.destruct, no_work]
    listed := fun waits => absurd rfl waits }

/-- The next step of a thread keeps the connection consistent. -/
theorem Consistent.advance (before : Consistent state) (living : state.alive = true)
    {next : State} (stepped : advance state thread (state.op thread) = some next) :
    Consistent next := by
  have held := before.relies thread
  cases doing : state.op thread with
  | idle =>
    rw [doing] at stepped
    cases stepped
  | releasing statement =>
    simp only [doing, Release.advance] at stepped
    split at stepped
    · rename_i counted
      obtain rfl := Option.some.inj stepped
      exact before.queued living doing counted
    · rename_i uncounted
      obtain rfl := Option.some.inj stepped
      refine before.pass living doing rfl rfl ?_
      change state.begun + state.workers ≤ state.begun
      omega
  | unqueued statement begun =>
    rw [doing] at held
    simp only [doing, Release.advance] at stepped
    cases busy : state.busyHere thread with
    | true =>
      rw [busy, if_pos rfl] at stepped
      obtain rfl := Option.some.inj stepped
      exact before.pass living doing rfl rfl busy
    | false =>
      rw [busy, if_neg Bool.false_ne_true] at stepped
      obtain rfl := Option.some.inj stepped
      exact before.pass living doing rfl rfl ⟨held, busy⟩
  | deferring statement =>
    rw [doing] at held
    simp only [doing, Release.advance] at stepped
    have busy : state.busyHere thread = true := held
    rw [if_pos busy] at stepped
    obtain rfl := Option.some.inj stepped
    exact before.defer living (by rw [doing]; rfl) (by rw [doing]; rfl)
  | destroying statement begun =>
    simp only [doing, Release.advance] at stepped
    obtain rfl := Option.some.inj stepped
    exact before.destroy living (by rw [doing]; rfl) (by rw [doing]; rfl) trivial
  | ending released =>
    cases released with
    | nil =>
      simp only [doing, Release.advance] at stepped
      obtain rfl := Option.some.inj stepped
      exact before.pass living doing rfl rfl trivial
    | cons statement rest =>
      simp only [doing, Release.advance] at stepped
      obtain rfl := Option.some.inj stepped
      exact before.destroy living (by rw [doing]; rfl) (by rw [doing]; rfl) trivial
  | draining work =>
    cases work with
    | nil =>
      simp only [doing, Release.advance] at stepped
      obtain rfl := Option.some.inj stepped
      exact before.pass living doing rfl rfl trivial
    | cons item rest =>
      simp only [doing, Release.advance] at stepped
      obtain rfl := Option.some.inj stepped
      exact before.runCleanup living doing

/-- Every step keeps the connection consistent. -/
theorem Consistent.step (before : Consistent state) {event : Event} {next : State}
    (stepped : step state event = some next) : Consistent next := by
  have living : state.alive = true := by
    by_contra dead
    simp [Release.step, dead] at stepped
  unfold Release.step at stepped
  rw [if_neg (by simp [living])] at stepped
  cases event with
  | workerBegin =>
    obtain rfl := Option.some.inj stepped
    exact before.workerBegin
  | workerEnd thread =>
    simp only at stepped
    split at stepped
    · cases stepped
    · rename_i allowed
      simp only [not_or, not_not] at allowed
      split at stepped
      · obtain rfl := Option.some.inj stepped
        exact before.lastWorkerEnd allowed.1 living
      · rename_i others
        obtain rfl := Option.some.inj stepped
        exact before.workerEnd others
  | release thread statement =>
    simp only at stepped
    split at stepped
    · cases stepped
    · rename_i allowed
      simp only [not_or, not_not] at allowed
      obtain rfl := Option.some.inj stepped
      exact before.release allowed.1 living allowed.2
  | cleanup thread =>
    simp only at stepped
    split at stepped
    · cases stepped
    · split at stepped
      · obtain rfl := Option.some.inj stepped
        exact before.deferOther living
      · obtain rfl := Option.some.inj stepped
        exact before
  | advance thread => exact before.advance living stepped
  | enter thread =>
    simp only at stepped
    split at stepped
    · cases stepped
    · rename_i allowed
      simp only [not_or, not_not, not_and] at allowed
      obtain rfl := Option.some.inj stepped
      refine before.handler allowed.1 _ thread fun other apart => ?_
      have elsewhere : state.busyHere other = false := by
        by_contra busy
        simp only [State.busyHere, Bool.not_eq_false, Bool.and_eq_true, decide_eq_true_eq] at busy
        exact apart (busy.2.symm.trans (allowed.2 busy.1))
      rw [elsewhere]
      simp [State.busyHere, Ne.symm apart]
  | leave thread =>
    simp only at stepped
    split at stepped
    · cases stepped
    · rename_i allowed
      simp only [not_or, not_not] at allowed
      obtain rfl := Option.some.inj stepped
      refine before.handler allowed.1 _ state.handlerThread fun other apart => ?_
      have here : state.handlerThread = thread := by
        have busy := allowed.2
        simp only [State.busyHere, Bool.not_eq_true', Bool.not_eq_false, Bool.and_eq_true,
          decide_eq_true_eq] at busy
        exact busy.2
      simp [State.busyHere, here, Ne.symm apart]
  | drain thread =>
    simp only at stepped
    split at stepped
    · cases stepped
    · rename_i allowed
      simp only [not_or, not_not] at allowed
      split at stepped
      · obtain rfl := Option.some.inj stepped
        exact before
      · obtain rfl := Option.some.inj stepped
        exact before.drain living allowed.1 _
  | destruct =>
    simp only at stepped
    split at stepped
    · rename_i unused
      obtain rfl := Option.some.inj stepped
      exact before.destruct unused.1 unused.2.2
    · cases stepped

end Steps

/-- A consistent connection releases its statements once. -/
theorem Consistent.released {state : State} (holds : Consistent state) : Released state where
  placed := by
    intro statement inside
    rw [holds.placed, List.count_eq_one_of_mem holds.nodup inside]
  only_handed := by
    intro statement outside
    have place := holds.placed statement
    rw [List.count_eq_zero_of_not_mem outside] at place
    omega
  gone := by
    intro dead statement inside
    have place := holds.placed statement
    rw [(holds.gone dead).1 statement, List.count_eq_one_of_mem holds.nodup inside] at place
    omega
  queue_empty := holds.queue_empty
  no_worker := by
    intro thread statement begun doing
    have held := holds.relies thread
    rw [doing] at held
    exact held.1
  no_handler := by
    intro thread statement begun doing
    have held := holds.relies thread
    rw [doing] at held
    exact held.2
  cleanups := holds.cleanups
  cleanups_gone := by
    intro dead ticket earlier
    have place := holds.cleanups ticket
    rw [(holds.gone dead).2.1 ticket, issued, if_pos earlier] at place
    omega
  listed := by
    intro waits
    refine ⟨?_, holds.listed waits⟩
    by_contra dead
    exact waits (holds.gone (by simpa using dead)).2.2

/-- Every interleaving releases the statements that were handed over, and runs the cleanups that
were deferred, once and no later than the connection. -/
theorem released_once (events : List Event) (last : State)
    (ran : connection.run .fresh events = some last) : Released last :=
  Consistent.released <|
    Machine.run_preserves (fun _ _ _ before stepped => before.step stepped) consistent_fresh ran

/-- Three releases, one during a worker, one in a handler and one at once. -/
def threeRoutes : List Event :=
  [.workerBegin, .release 1 7, .advance 1, .workerEnd 2, .advance 2, .advance 2, .enter 1,
    .release 1 8, .advance 1, .advance 1, .advance 1, .leave 1, .drain 1, .advance 1, .advance 1,
    .release 1 9, .advance 1, .advance 1, .advance 1, .destruct]

/-- Each of the three statements is destroyed once. -/
theorem released_once_threeRoutes : ∃ last, connection.run .fresh threeRoutes = some last ∧
    last.destroyed = [7, 8, 9] ∧ last.alive = false ∧ Released last :=
  ⟨_, rfl, rfl, rfl, released_once threeRoutes _ rfl⟩

end PhpDuckdb.Release
