import Mathlib.Algebra.Order.Ring.Int
import PhpDuckdb.Session.Handoff

/-!
# Nested leases

The request thread enters a lease to service one session and may enter leases of other sessions in
its callbacks. Each lease saves what the thread was doing and restores it at its end, in a
`driver_away` of its own. The threads that wait for the request thread see only its driver state, by
which they tell a session that is serviced from one that is stuck.
-/

namespace PhpDuckdb.Leases

open Handoff

/-! ## The request thread -/

/-- `driver_away`: what is restored at its end. -/
structure DriverAway where
  /-- `outer_serving`. -/
  outerServing : Option Nat
  /-- `outer_since`. -/
  outerSince : Int
  deriving DecidableEq, Repr

/-- A request thread with the leases that it holds. -/
structure Thread where
  /-- What other threads see of it. -/
  driver : CopyDriver
  /-- The leases that it is in, the innermost first. -/
  away : List DriverAway
  /-- `lease_depth`. -/
  leaseDepth : Nat
  deriving DecidableEq, Repr

/-- A thread that is in no lease. -/
def Thread.idle : Thread := ⟨⟨none, 0⟩, [], 0⟩

/-- What the thread does: it enters leases and leaves them. -/
inductive Event
  /-- It enters a lease of a session, at a reading of the steady clock. -/
  | enter (session : Nat) (now : Int)
  /-- It leaves the innermost lease. -/
  | leave
  deriving DecidableEq, Repr

/-- `stuck_lease_depth`: the leases at least this deep never service their callbacks; 0 disables
the switch. -/
def isStuck (stuckLeaseDepth leaseDepth : Nat) : Bool :=
  0 < stuckLeaseDepth && stuckLeaseDepth ≤ leaseDepth

/-- `duckdb_session_lease` enters and leaves the scope of its `driver_away`. -/
def step (stuckLeaseDepth : Nat) (thread : Thread) : Event → Option Thread
  | .enter session now =>
    some ⟨⟨if isStuck stuckLeaseDepth (thread.leaseDepth + 1) then none else some session, now⟩,
      ⟨thread.driver.serving, thread.driver.awaySince⟩ :: thread.away, thread.leaseDepth + 1⟩
  | .leave =>
    match thread.away with
    | [] => none
    | outer :: rest =>
      some ⟨⟨outer.outerServing, outer.outerSince⟩, rest, thread.leaseDepth - 1⟩

/-- The machine of a request thread. -/
def leases (stuckLeaseDepth : Nat) : Machine Thread Event := ⟨step stuckLeaseDepth⟩

/-- `stuck_limit_ns`, from the seconds that `DUCKDB_PHP_COPY_STUCK_SECONDS` names (0 where it is
unset). The product is one of 64 bits and wraps. -/
def stuckLimitNs (seconds : Int64) : Int64 := (if seconds ≤ 0 then 60 else seconds) * 1000000000

/-- The product of the seconds does not reach the sign bit: 60 seconds are taken for none, and up to
9223372036 seconds fit. -/
def LimitFits (seconds : Int64) : Prop :=
  seconds ≤ 0 ∨ seconds.toInt * 1000000000 % 2 ^ 64 < 2 ^ 63

/-! ## Nesting -/

/-- Leases that are entered and left one in the other. -/
inductive Nested : List Event → Prop
  | nil : Nested []
  | lease (session : Nat) (now : Int) {inner rest : List Event} (within : Nested inner)
      (after : Nested rest) : Nested (.enter session now :: (inner ++ .leave :: rest))

variable {stuckLeaseDepth : Nat}

/-- Nested leases leave the thread as it was. -/
theorem nested_restores {events : List Event} (nested : Nested events) (thread : Thread) :
    (leases stuckLeaseDepth).run thread events = some thread := by
  induction nested generalizing thread with
  | nil => rfl
  | lease session now _ _ first second =>
    rw [Machine.run_cons]
    show (some _ >>= _) = _
    rw [Option.bind_eq_bind, Option.bind_some, Machine.run_append, first, Option.bind_some,
      Machine.run_cons]
    exact second thread

/-! ## Open leases -/

/-- The leases that are not left yet, the innermost first: their sessions and when they began. -/
def openLeases : List Event → List (Nat × Int) → List (Nat × Int)
  | [], leased => leased
  | .enter session now :: rest, leased => openLeases rest ((session, now) :: leased)
  | .leave :: rest, leased => openLeases rest leased.tail

/-- The driver state of a thread inside some leases, the innermost first. -/
def driverIn (stuckLeaseDepth : Nat) : List (Nat × Int) → CopyDriver
  | [] => ⟨none, 0⟩
  | (session, start) :: outer =>
    ⟨if isStuck stuckLeaseDepth (outer.length + 1) then none else some session, start⟩

/-- The thread in some leases: the driver state of each is saved by the lease in it. -/
def threadIn (stuckLeaseDepth : Nat) : List (Nat × Int) → Thread
  | [] => Thread.idle
  | (session, start) :: outer =>
    ⟨driverIn stuckLeaseDepth ((session, start) :: outer),
      ⟨(driverIn stuckLeaseDepth outer).serving, (driverIn stuckLeaseDepth outer).awaySince⟩ ::
        (threadIn stuckLeaseDepth outer).away, outer.length + 1⟩

/-- The driver state is that of the leases. -/
theorem threadIn_driver (leased : List (Nat × Int)) :
    (threadIn stuckLeaseDepth leased).driver = driverIn stuckLeaseDepth leased := by
  cases leased <;> rfl

/-- The depth is the number of the leases. -/
theorem threadIn_depth (leased : List (Nat × Int)) :
    (threadIn stuckLeaseDepth leased).leaseDepth = leased.length := by
  cases leased <;> rfl

/-- A run keeps the thread in the leases that are open. -/
theorem run_threadIn {events : List Event} {leased : List (Nat × Int)} {thread : Thread}
    (ran : (leases stuckLeaseDepth).run (threadIn stuckLeaseDepth leased) events = some thread) :
    thread = threadIn stuckLeaseDepth (openLeases events leased) := by
  induction events generalizing leased with
  | nil => exact (Option.some.inj ran).symm
  | cons event rest ih =>
    obtain ⟨next, stepped, tail⟩ := (Machine.run_cons_some _).mp ran
    cases event with
    | enter session now =>
      have entered : next = threadIn stuckLeaseDepth ((session, now) :: leased) := by
        rw [← Option.some.inj stepped, threadIn_depth, threadIn_driver]
        rfl
      rw [entered] at tail
      exact ih tail
    | leave =>
      cases leased with
      | nil => cases stepped
      | cons lease outer =>
        have left : next = threadIn stuckLeaseDepth outer := by
          rw [← Option.some.inj stepped]
          cases outer <;> rfl
        rw [left] at tail
        exact ih tail

/-- From a thread in no lease on, the thread is in the leases that the run left open. -/
theorem run_idle {events : List Event} {thread : Thread}
    (ran : (leases stuckLeaseDepth).run Thread.idle events = some thread) :
    thread = threadIn stuckLeaseDepth (openLeases events []) :=
  run_threadIn (show (leases stuckLeaseDepth).run (threadIn stuckLeaseDepth []) events = _ from ran)

/-- A lease that is open was open at the start or entered since. -/
theorem openLeases_entered {events : List Event} {leased : List (Nat × Int)} {lease : Nat × Int}
    (member : lease ∈ openLeases events leased) :
    lease ∈ leased ∨ .enter lease.1 lease.2 ∈ events := by
  induction events generalizing leased with
  | nil => exact .inl member
  | cons event rest ih =>
    cases event with
    | enter session now =>
      cases ih member with
      | inl inside =>
        cases List.mem_cons.mp inside with
        | inl same => exact .inr (by rw [same]; exact List.mem_cons_self)
        | inr older => exact .inl older
      | inr later => exact .inr (List.mem_cons_of_mem _ later)
    | leave =>
      cases ih member with
      | inl inside => exact .inl (List.mem_of_mem_tail inside)
      | inr later => exact .inr (List.mem_cons_of_mem _ later)

/-! ## What waiting threads see -/

/-- The limit is negative where the product of the seconds reaches the sign bit, and only there. -/
theorem stuckLimitNs_nonneg_iff (seconds : Int64) :
    0 ≤ (stuckLimitNs seconds).toInt ↔ LimitFits seconds := by
  unfold stuckLimitNs LimitFits
  split
  next few => exact iff_of_true (by decide) (.inl few)
  next many =>
    have scale : (1000000000 : Int64).toInt = 1000000000 := rfl
    rw [or_iff_right many, Int64.toInt_mul, scale, Int.bmod_def]
    have bounded := Int.emod_lt_of_pos (seconds.toInt * 1000000000) (b := 2 ^ 64) (by decide)
    split <;> omega

/-- A session that is not waited for is not abandoned while the limit is not negative. -/
theorem submitTurn_keeps {session request : Nat} {stuckLimit now : Int} {state : State}
    (patient : ¬ stuckLimit < 0)
    (serviced : state.driver.unservicedFor session (state.request request).queuedAt now = 0) :
    (submitTurn session stuckLimit state request now).isOpen = state.isOpen ∧
      (submitTurn session stuckLimit state request now).queue = state.queue := by
  unfold submitTurn
  rw [serviced, if_neg patient]
  split
  · exact ⟨rfl, rfl⟩
  · split
    · split
      · exact ⟨rfl, rfl⟩
      · exact ⟨rfl, rfl⟩
    · exact ⟨rfl, rfl⟩

/-- What the driver state says after any part of a nested run. -/
structure Serviced (thread : Thread) (leased : List (Nat × Int)) : Prop where
  /-- In no lease every session is serviced. -/
  idle : leased = [] → ∀ session queuedAt now,
    thread.driver.unservicedFor session queuedAt now = 0
  /-- So is the session that the innermost lease serves. -/
  served : ∀ session, thread.driver.serving = some session → ∀ queuedAt now,
    thread.driver.unservicedFor session queuedAt now = 0
  /-- The others wait since they queued the request, or since that lease began. -/
  outer : ∀ session start rest, leased = (session, start) :: rest →
    ∀ other, thread.driver.serving ≠ some other → ∀ queuedAt now,
      thread.driver.unservicedFor other queuedAt now = now - max start queuedAt

/-- No request of a session that is serviced is abandoned as stuck: a submit call that looks at it
leaves the session open and its queue as it was. -/
def Patient (seconds : Int64) (thread : Thread) (leased : List (Nat × Int)) : Prop :=
  ∀ session, leased = [] ∨ thread.driver.serving = some session →
    ∀ (state : State) (now : Int) (request : RequestId), state.driver = thread.driver →
      (submitTurn session (stuckLimitNs seconds).toInt state request now).isOpen = state.isOpen ∧
        (submitTurn session (stuckLimitNs seconds).toInt state request now).queue = state.queue

/-- The driver state in open leases says who is serviced. -/
theorem serviced_threadIn {leased : List (Nat × Int)} (clock : ∀ lease ∈ leased, 0 < lease.2) :
    Serviced (threadIn stuckLeaseDepth leased) leased := by
  have idle : leased = [] → ∀ session queuedAt now,
      (threadIn stuckLeaseDepth leased).driver.unservicedFor session queuedAt now = 0 := by
    intro none_ session queuedAt now
    rw [none_]
    rfl
  have served : ∀ session, (threadIn stuckLeaseDepth leased).driver.serving = some session →
      ∀ queuedAt now,
        (threadIn stuckLeaseDepth leased).driver.unservicedFor session queuedAt now = 0 :=
    fun session serving queuedAt now => if_pos (.inr serving)
  refine ⟨idle, served, ?_⟩
  intro session start rest shape other unserved queuedAt now
  have began : (threadIn stuckLeaseDepth leased).driver.awaySince = start := by
    rw [shape]
    rfl
  have positive : 0 < start := clock (session, start) (by rw [shape]; exact List.mem_cons_self)
  have waits : ¬ ((threadIn stuckLeaseDepth leased).driver.awaySince = 0 ∨
      (threadIn stuckLeaseDepth leased).driver.serving = some other) := by
    rw [began, not_or]
    exact ⟨Int.ne_of_gt positive, unserved⟩
  rw [CopyDriver.unservicedFor, if_neg waits, began]

/-- A run from a thread in no lease keeps what `Serviced` says of its leases. -/
theorem serviced_run {events : List Event} {thread : Thread}
    (ran : (leases stuckLeaseDepth).run Thread.idle events = some thread)
    (clock : ∀ session now, .enter session now ∈ events → 0 < now) :
    Serviced thread (openLeases events []) := by
  have positive : ∀ lease ∈ openLeases events [], 0 < lease.2 := by
    intro lease member
    cases openLeases_entered member with
    | inl never => cases never
    | inr entered => exact clock lease.1 lease.2 entered
  rw [run_idle ran]
  exact serviced_threadIn positive

/-- Sessions that are serviced are not abandoned when the limit is not negative. -/
theorem Serviced.patient {thread : Thread} {leased : List (Nat × Int)} {seconds : Int64}
    (serviced : Serviced thread leased) (fits : LimitFits seconds) :
    Patient seconds thread leased := by
  intro session reason state now request same
  have limit := (stuckLimitNs_nonneg_iff seconds).mpr fits
  apply submitTurn_keeps (Int.not_lt.mpr limit)
  rw [same]
  cases reason with
  | inl none_ => exact serviced.idle none_ session _ now
  | inr serving => exact serviced.served session serving _ now

/-- A session with one request in its queue that waits for the request thread. -/
def oneWaiting (driver : CopyDriver) : State :=
  { State.new with queue := [0], submit := fun _ => .waiting, driver := driver }

/-- With a negative limit the request of a session that is serviced is abandoned at once. -/
theorem oneWaiting_abandoned {session : Nat} {stuckLimit now : Int} {driver : CopyDriver}
    (negative : stuckLimit < 0) (serviced : driver.unservicedFor session 0 now = 0) :
    (submitTurn session stuckLimit (oneWaiting driver) 0 now).isOpen = false := by
  have abandons : stuckLimit < (oneWaiting driver).driver.unservicedFor session
      ((oneWaiting driver).request 0).queuedAt now := by
    show stuckLimit < driver.unservicedFor session 0 now
    rw [serviced]
    exact negative
  have opened : (!(oneWaiting driver).isOpen) = false := rfl
  have fresh : (!((oneWaiting driver).request 0).started) = true := rfl
  have unfinished : ((oneWaiting driver).request 0).finished = false := rfl
  simp [submitTurn, opened, fresh, unfinished, abandons]

/-- A lease restores what the thread was doing, whatever leases are nested in it. At every moment of a
run the session that the innermost lease serves, and every session in no lease, is serviced; the
others wait since the innermost lease began or since they queued the request. Whoever is serviced is
never abandoned as stuck exactly when the seconds that are configured give no negative limit. -/
theorem leases_restore (stuckLeaseDepth : Nat) (seconds : Int64) :
    (∀ (session : Nat) (now : Int) (inner : List Event) (thread : Thread), Nested inner →
      (leases stuckLeaseDepth).run thread (.enter session now :: (inner ++ [.leave])) =
        some thread) ∧
    (∀ (events : List Event) (thread : Thread),
      (leases stuckLeaseDepth).run Thread.idle events = some thread →
      (∀ session now, .enter session now ∈ events → 0 < now) →
      Serviced thread (openLeases events []) ∧
      ∀ session start rest, openLeases events [] = (session, start) :: rest →
        isStuck stuckLeaseDepth (rest.length + 1) = false →
        thread.driver.serving = some session) ∧
    ((∀ (events : List Event) (thread : Thread),
      (leases stuckLeaseDepth).run Thread.idle events = some thread →
      (∀ session now, .enter session now ∈ events → 0 < now) →
      Patient seconds thread (openLeases events [])) ↔ LimitFits seconds) := by
  refine ⟨?_, ?_, ?_, ?_⟩
  · intro session now inner thread nested
    exact nested_restores (Nested.lease session now nested Nested.nil) thread
  · intro events thread ran clock
    refine ⟨serviced_run ran clock, ?_⟩
    intro session start rest leased serves
    rw [run_idle ran, leased, threadIn_driver, driverIn, serves]
    rfl
  · intro patient
    by_contra wraps
    have negative := Int.not_le.mp (mt (stuckLimitNs_nonneg_iff seconds).mp wraps)
    have kept := (patient [] Thread.idle rfl nofun 0 (.inl rfl)
      (oneWaiting Thread.idle.driver) 0 0 rfl).1
    rw [oneWaiting_abandoned negative rfl] at kept
    cases kept
  · intro fits events thread ran clock
    exact (serviced_run ran clock).patient fits

/-- Two leases, one in the other: leaving the inner one restores the outer one, which meanwhile
waits, and with a limit of an hour nobody who is serviced is abandoned. -/
theorem leases_restore_two :
    (leases 0).run ⟨⟨some 1, 100⟩, [⟨none, 0⟩], 1⟩ [.enter 2 200, .leave] =
        some ⟨⟨some 1, 100⟩, [⟨none, 0⟩], 1⟩ ∧
      Serviced ⟨⟨some 2, 200⟩, [⟨some 1, 100⟩, ⟨none, 0⟩], 2⟩ [(2, 200), (1, 100)] ∧
      (⟨some 2, 200⟩ : CopyDriver).unservicedFor 1 150 500 = 300 ∧
      Patient 3600 ⟨⟨some 2, 200⟩, [⟨some 1, 100⟩, ⟨none, 0⟩], 2⟩ [(2, 200), (1, 100)] :=
  have clock : ∀ session now, Event.enter session now ∈ [Event.enter 1 100, .enter 2 200] →
      0 < now := by
    intro session now member
    simp only [List.mem_cons, Event.enter.injEq, List.not_mem_nil, or_false] at member
    omega
  ⟨(leases_restore 0 3600).1 2 200 [] _ .nil,
    ((leases_restore 0 3600).2.1 [.enter 1 100, .enter 2 200] _ rfl clock).1,
    ((leases_restore 0 3600).2.1 [.enter 1 100, .enter 2 200] _ rfl clock).1.outer 2 200 [(1, 100)]
      rfl 1 (by decide) 150 500,
    (leases_restore 0 3600).2.2.mpr (.inr (by decide)) [.enter 1 100, .enter 2 200] _ rfl clock⟩

/-- With 9999999999 seconds the limit is negative. The session that the only lease serves has no
unserviced time, and its request is abandoned as stuck all the same. -/
theorem longLimit_abandons :
    (leases 0).run Thread.idle [.enter 1 100] = some ⟨⟨some 1, 100⟩, [⟨none, 0⟩], 1⟩ ∧
      (⟨some 1, 100⟩ : CopyDriver).unservicedFor 1 0 200 = 0 ∧
      stuckLimitNs 9999999999 = -8446744074709551616 ∧
      (submitTurn 1 (stuckLimitNs 9999999999).toInt (oneWaiting ⟨some 1, 100⟩) 0 200).isOpen = false ∧
      ¬ Patient 9999999999 ⟨⟨some 1, 100⟩, [⟨none, 0⟩], 1⟩ [(1, 100)] := by
  have abandoned : (submitTurn 1 (stuckLimitNs 9999999999).toInt (oneWaiting ⟨some 1, 100⟩) 0
      200).isOpen = false := by decide
  refine ⟨rfl, rfl, by decide, abandoned, ?_⟩
  intro patient
  have kept := (patient 1 (.inr rfl) (oneWaiting ⟨some 1, 100⟩) 200 0 rfl).1
  rw [abandoned] at kept
  cases kept

end PhpDuckdb.Leases
