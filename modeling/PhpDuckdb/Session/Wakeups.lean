import PhpDuckdb.Session.LeaseInvariant

/-!
# Leases return, and their frames outlive the helper

The helper touches a lease's frame only while the lease is in its loop, and runs its work once. No
wakeup is lost: from every reachable state the helper and the request thread can bring the current
lease to its end, and a stopping call can return, by steps of their own and without waking by
themselves.
-/

namespace PhpDuckdb.ConnHelper

variable {stuckLimit : Int} {state : State}

/-! ## Frames -/

/-- What the helper does with the leases' frames. -/
structure FramesOutlive (state : State) : Prop where
  /-- Posted or taken work belongs to a lease in its loop, which has not seen it done. -/
  frame : ∀ lease, state.work = some lease ∨ state.helper.frame = some lease →
    (state.lease lease).place.inLoop = true ∧ (state.lease lease).done = false
  /-- At most one lease is under way on the connection. -/
  one : ∀ lease other, (state.lease lease).place.active = true →
    (state.lease other).place.active = true → lease = other
  /-- No work runs twice. -/
  once : ∀ lease, state.ran.count lease ≤ 1
  /-- The work of a lease that returned ran. -/
  returned : ∀ lease, (state.lease lease).place = .returned → state.ran.count lease = 1
  /-- When the call that joins the helper's thread returns, the thread ended with no work left, and
  no lease is under way. -/
  joined : ∀ call, state.stops call = .joined true → state.helper = .gone ∧ state.work = none ∧
    ∀ lease, (state.lease lease).place.active = false

/-- Every state that is reached from a new connection is consistent. -/
theorem consistent_reached (reached : (leases stuckLimit).Reaches .new state) :
    Consistent state :=
  reached.preserves consistent_step consistent_new

/-- In every run the helper accesses a lease's frame only while the lease is in its loop, and runs
its work exactly once before the lease returns. -/
theorem frames_outlive (reached : (leases stuckLimit).Reaches .new state) :
    FramesOutlive state := by
  have ok := consistent_reached reached
  constructor
  · intro lease has
    have busy : ¬ state.Idle := fun idle => by
      simp [idle.1, idle.2] at has
    obtain ⟨current, held, inside, undone, carries⟩ := ok.engaged busy
    have same : current = lease := by
      obtain ⟨posted, looking, -⟩ | ⟨empty, working, -⟩ | ⟨empty, reporting, -⟩ := carries
      · simpa [posted, looking, Helper.frame] using has
      · simpa [empty, working, Helper.frame] using has
      · simpa [empty, reporting, Helper.frame] using has
    rw [← same]
    exact ⟨inside, undone⟩
  · intro lease other first second
    have one := (ok.holder lease).mp first
    rw [(ok.holder other).mp second] at one
    exact (Option.some.inj one).symm
  · exact List.nodup_iff_count_le_one.mp ok.once
  · intro lease returned
    have most := List.nodup_iff_count_le_one.mp ok.once lease
    have least := List.count_pos_iff.mpr (ok.returned lease returned)
    omega
  · intro call joined
    have flagged := ok.flagged call (by simp [joined])
    have free := ok.stopped flagged
    refine ⟨ok.joined call joined, (ok.unheld free).1, fun lease => ?_⟩
    cases active : (state.lease lease).place.active with
    | false => rfl
    | true =>
      have held := (ok.holder lease).mp active
      rw [free] at held
      contradiction

/-- A lease of session 3 that slept until a callback came, and another that waits while the helper
parks. -/
def twoLeases : List Event :=
  [.pick, .begin 0 3 false, .post 0, .pick, .look 0 none, .session 3 (.take 0), .recheck 0 none,
    .decide 0, .session 3 (.submit 7 5), .look 0 none, .session 3 (.take 0),
    .session 3 (.work 0), .session 3 (.finish 0), .session 3 (.unwind 0 none),
    .session 3 (.take 0), .recheck 0 none, .decide 0, .complete, .report, .look 0 none,
    .session 3 (.take 0), .recheck 0 none, .decide 0, .begin 1 3 false, .post 1]

/-- A run of two leases reaches a state in which one returned and the frames of the other live. -/
theorem frames_outlive_twoLeases : ∃ state,
    (leases 60000000000).Reaches .new state ∧ (state.lease 0).place = .returned ∧
      (state.lease 1).place = .blocked ∧ (state.session 3).ran = [7] ∧ FramesOutlive state :=
  have reached : (leases 60000000000).Reaches .new _ := ⟨twoLeases, rfl⟩
  ⟨_, reached, rfl, rfl, rfl, frames_outlive reached⟩

/-! ## A lease can always return -/

/-- A step of the helper's work or of a lease's own thread. -/
def Event.drives (lease : LeaseId) : Event → Bool
  | .post which => which == lease
  | .look which _ => which == lease
  | .recheck which _ => which == lease
  | .decide which => which == lease
  | .pick => true
  | .complete => true
  | .report => true
  | .park => true
  | .session _ (.take call) => call == lease
  | .session _ (.work call) => call == lease
  | .session _ (.finish call) => call == lease
  | .session _ (.unwind call _) => call == lease
  | _ => false

/-- The process runs, and the lease is under way. -/
structure Underway (lease : LeaseId) (state : State) : Prop where
  /-- The invariant. -/
  consistent : Consistent state
  /-- The process did not abort. -/
  alive : state.aborted = false
  /-- The lease holds the connection. -/
  held : state.holder = some lease

/-- How far the work of the current lease is from being done. -/
def State.distance (state : State) (lease : LeaseId) : Nat :=
  if (state.lease lease).place.inLoop then
    match state.work, state.helper with
    | some _, _ => 3
    | none, .working _ => 2
    | none, .reporting _ => 1
    | none, _ => 0
  else if state.busy then 5 else 4

/-- While a lease's work is not done, the helper or `helper_post` has a step that brings it
closer. -/
theorem Underway.works {lease : LeaseId} (under : Underway lease state) :
    ((state.lease lease).place.inLoop = true ∧ (state.lease lease).done = true) ∨
      ∃ event next, event.drives lease = true ∧ (leases stuckLimit).step state event = some next ∧
        Underway lease next ∧ next.distance lease < state.distance lease := by
  obtain ⟨ok, alive, held⟩ := under
  have active := (ok.holder lease).mpr held
  have keeps : ∀ event next, (leases stuckLimit).step state event = some next →
      Consistent next := fun event next stepped => consistent_step state event next ok stepped
  by_cases inside : (state.lease lease).place.inLoop = true
  · cases done : (state.lease lease).done with
    | true => exact Or.inl ⟨inside, rfl⟩
    | false =>
      right
      obtain ⟨posted, looking, -⟩ | ⟨empty, working, -⟩ | ⟨empty, reporting, -⟩ :=
        ok.carried lease inside done
      · have stepped : (leases stuckLimit).step state .pick =
            some { state with helper := .working lease, work := none } := by
          simp [leases, step, alive, looking, helperPick, posted]
        refine ⟨.pick, _, rfl, stepped, ⟨keeps _ _ stepped, alive, held⟩, ?_⟩
        simp [State.distance, inside, posted]
      · have stepped : (leases stuckLimit).step state .complete =
            some { state with helper := .reporting lease, ran := state.ran ++ [lease] } := by
          simp [leases, step, alive, working]
        refine ⟨.complete, _, rfl, stepped, ⟨keeps _ _ stepped, alive, held⟩, ?_⟩
        simp [State.distance, inside, empty, working]
      · have stepped : (leases stuckLimit).step state .report =
            some (helperReport state lease) := by
          simp [leases, step, alive, reporting]
        refine ⟨.report, _, rfl, stepped, ⟨keeps _ _ stepped, alive, held⟩, ?_⟩
        have still : ((helperReport state lease).lease lease).place.inLoop = true := by
          simp only [helperReport, State.notifySession, State.setLease, Function.update_self,
            Lease.notified]
          grind [Place.inLoop]
        have before : state.distance lease = 1 := by
          simp [State.distance, inside, empty, reporting]
        have after : (helperReport state lease).distance lease = 0 := by
          rw [State.distance, if_pos still]
          simp [helperReport, State.notifySession, State.setLease, empty]
        omega
  · right
    have waits : (state.lease lease).place = .posting ∨ (state.lease lease).place = .blocked := by
      grind [Place.active]
    have idle := (ok.waiting lease waits).1
    cases busy : state.busy with
    | true =>
      have parking : state.helper = .parking := (ok.busy.mp busy).resolve_left (not_not_intro idle)
      have stepped : (leases stuckLimit).step state .park =
          some ({ state with busy := false, helper := .looking }).notifyHelper := by
        simp [leases, step, alive, parking]
      refine ⟨.park, _, rfl, stepped, ⟨keeps _ _ stepped, alive, held⟩, ?_⟩
      have still : (({ state with busy := false, helper := .looking }).notifyHelper.lease
          lease).place.inLoop = false := by
        simp only [State.notifyHelper]
        grind [Place.inLoop]
      rw [State.distance, State.distance, still, if_neg inside, busy]
      exact Nat.lt_succ_self 4
    | false =>
      have posting : (state.lease lease).place = .posting := by
        refine waits.resolve_right fun blocked => ?_
        rw [ok.blocked lease blocked] at busy
        contradiction
      have stepped : (leases stuckLimit).step state (.post lease) =
          some (({ state with busy := true, work := some lease }).notifyHelper.setPlace lease
            .looping) := by
        simp [leases, step, alive, posting, helperPost, busy]
      refine ⟨.post lease, _, beq_self_eq_true lease, stepped,
        ⟨keeps _ _ stepped, alive, held⟩, ?_⟩
      rw [State.distance, State.distance, if_neg inside, busy]
      simp [State.notifyHelper, State.setPlace, State.setLease, Place.inLoop]

/-! Once the work is done, the request thread services what is queued and leaves. -/

/-- The requests that a lease has yet to service. -/
def State.waitingRequests (state : State) (lease : LeaseId) : Nat :=
  if (state.lease lease).stuck then 0
  else (state.session (state.lease lease).session).queue.length

/-- How far a lease is from the end of its loop, by its place, by where it is in `service`, and by
the number of requests that wait. -/
def turnsLeft (place : Place) (service : Handoff.Service) (requests : Nat) : Nat :=
  16 * requests +
    match place, service with
    | .looping, _ => 8
    | .serving, .polling => 7
    | .serving, .holding _ => 10
    | .serving, .worked _ => 9
    | .serving, .checking => 8
    | .serving, .idle => if requests = 0 then 2 else 10
    | .deciding, _ => if requests = 0 then 1 else 9
    | _, _ => 0

/-- How far a lease is from the end of its loop in a state. -/
def State.turnsLeft (state : State) (lease : LeaseId) : Nat :=
  ConnHelper.turnsLeft (state.lease lease).place
    ((state.session (state.lease lease).session).service lease) (state.waitingRequests lease)

/-- The lease is in its loop with its work done, or past it. -/
def Leaving (lease : LeaseId) (state : State) : Prop :=
  (Underway lease state ∧ (state.lease lease).place.inLoop = true ∧
    (state.lease lease).done = true) ∨ (state.lease lease).place = .returned

/-- A step of the lease's thread brings a lease closer to the end of its loop. -/
def Closer (stuckLimit : Int) (lease : LeaseId) (state : State) : Prop :=
  ∃ event next, event.drives lease = true ∧ (leases stuckLimit).step state event = some next ∧
    Leaving lease next ∧ next.turnsLeft lease < state.turnsLeft lease

section Leave

variable {lease : LeaseId}

/-- A step that moves a lease within its loop. -/
theorem Underway.turns (under : Underway lease state) (done : (state.lease lease).done = true)
    {event : Event} {next : State} {place : Place}
    (stepped : (leases stuckLimit).step state event = some next)
    (drives : event.drives lease = true) (alive : next.aborted = false)
    (held : next.holder = some lease)
    (moved : next.lease lease = { state.lease lease with place := place })
    (stays : place.inLoop = true) (closer : next.turnsLeft lease < state.turnsLeft lease) :
    Closer stuckLimit lease state := by
  have kept : Consistent next := consistent_step state event next under.consistent stepped
  refine ⟨event, next, drives, stepped, Or.inl ⟨⟨kept, alive, held⟩, ?_, ?_⟩, closer⟩
  · rw [moved]
    exact stays
  · rw [moved]
    exact done

/-- A step of `service` keeps a lease under way whose work has returned. -/
theorem Underway.services (under : Underway lease state)
    (serving : (state.lease lease).place = .serving) (done : (state.lease lease).done = true)
    (services : (state.lease lease).stuck = false) (event : Handoff.Event) {after : Handoff.State}
    (drives : (Event.session (state.lease lease).session event).drives lease = true)
    (allowed : state.allows (state.lease lease).session event = true)
    (silent : state.notifies (state.lease lease).session event = false)
    (moved : Handoff.step (state.lease lease).session stuckLimit
      (state.session (state.lease lease).session) event = some after)
    (closer : turnsLeft .serving (after.service lease) after.queue.length <
      turnsLeft .serving ((state.session (state.lease lease).session).service lease)
        (state.session (state.lease lease).session).queue.length) :
    Closer stuckLimit lease state := by
  have stepped : (leases stuckLimit).step state (.session (state.lease lease).session event) =
      some (state.setSession (state.lease lease).session after) := by
    simp [leases, step, under.alive, sessionStep, allowed, silent, moved]
  refine ⟨_, _, drives, stepped, Or.inl ⟨⟨consistent_step _ _ _ under.consistent stepped,
    under.alive, under.held⟩, ?_, done⟩, ?_⟩
  · exact (congrArg Place.inLoop serving).trans rfl
  · have before : state.turnsLeft lease = turnsLeft .serving
        ((state.session (state.lease lease).session).service lease)
        (state.session (state.lease lease).session).queue.length := by
      simp [State.turnsLeft, State.waitingRequests, serving, services]
    have later : (state.setSession (state.lease lease).session after).turnsLeft lease =
        turnsLeft .serving (after.service lease) after.queue.length := by
      simp [State.turnsLeft, State.waitingRequests, serving, services, State.setSession]
    omega

/-- A lease in `service` is not stuck. -/
theorem Consistent.unstuck (ok : Consistent state) {service : Handoff.Service}
    (here : (state.session (state.lease lease).session).service lease = service)
    (busy : service ≠ .idle) : (state.lease lease).stuck = false := by
  rw [← here] at busy
  exact (ok.serviced (state.lease lease).session lease busy).2.2

/-- A lease that serves a request can always take a step. -/
theorem Underway.serves (under : Underway lease state)
    (serving : (state.lease lease).place = .serving) (done : (state.lease lease).done = true) :
    Closer stuckLimit lease state := by
  have ok := under.consistent
  cases service : (state.session (state.lease lease).session).service lease with
  | idle =>
    have stepped : (leases stuckLimit).step state (.recheck lease none) =
        some (state.setPlace lease .deciding) := by
      simp [leases, step, under.alive, serving, service, checkUnwinding]
    refine under.turns done stepped (beq_self_eq_true lease) under.alive under.held
      (Function.update_self ..) rfl ?_
    have before : state.turnsLeft lease = 16 * state.waitingRequests lease +
        if state.waitingRequests lease = 0 then 2 else 10 := by
      simp only [State.turnsLeft, turnsLeft, serving, service]
    have after : (state.setPlace lease .deciding).turnsLeft lease =
        16 * state.waitingRequests lease +
          if state.waitingRequests lease = 0 then 1 else 9 := by
      simp [State.turnsLeft, State.waitingRequests, State.setPlace, State.setLease, turnsLeft]
    rw [before, after]
    split <;> omega
  | polling =>
    have services := ok.unstuck service (by simp)
    have closed := (ok.sessions (state.lease lease).session).closed
    refine under.services serving done services (.take lease) (beq_self_eq_true lease)
      (by simp [State.allows, serving]) rfl (if_pos service) ?_
    rw [service, Handoff.serviceTake]
    split
    · rename_i shut
      rw [Handoff.State.setService_queue, closed (by simpa using shut)]
      simp [turnsLeft]
    · split
      · rename_i empty
        rw [Handoff.State.setService_queue, empty]
        simp [turnsLeft]
      · rename_i request rest queued
        simp [turnsLeft, queued]
        omega
  | holding request =>
    have services := ok.unstuck service (by simp)
    refine under.services serving done services (.work lease) (beq_self_eq_true lease)
      (by simp [State.allows, serving]) rfl
      (by simp only [Handoff.step, service]; rfl) ?_
    simp [service, turnsLeft, Handoff.State.setService]
  | worked request =>
    have services := ok.unstuck service (by simp)
    refine under.services serving done services (.finish lease) (beq_self_eq_true lease)
      (by simp [State.allows, serving]) rfl
      (by simp only [Handoff.step, service]; rfl) ?_
    simp [service, turnsLeft]
  | checking =>
    have services := ok.unstuck service (by simp)
    refine under.services serving done services (.unwind lease none)
      (beq_self_eq_true lease) (by simp [State.allows, serving]) rfl (if_pos service) ?_
    simp [service, turnsLeft]

/-- A lease that decides goes on, or returns. -/
theorem Underway.decides (under : Underway lease state)
    (deciding : (state.lease lease).place = .deciding) (done : (state.lease lease).done = true) :
    Closer stuckLimit lease state := by
  have ok := under.consistent
  have closed := (ok.sessions (state.lease lease).session).closed
  have stepped : (leases stuckLimit).step state (.decide lease) =
      some (decideTurn state lease) := by
    simp [leases, step, under.alive, deciding]
  by_cases further : (!(state.lease lease).stuck &&
      (state.session (state.lease lease).session).isOpen &&
      !(state.session (state.lease lease).session).queue.isEmpty) = true
  · have turn : decideTurn state lease = state.setPlace lease .looping := by
      rw [decideTurn, if_pos further]
    rw [turn] at stepped
    refine under.turns done stepped (beq_self_eq_true lease) under.alive under.held
      (Function.update_self ..) rfl ?_
    simp only [Bool.and_eq_true, Bool.not_eq_true'] at further
    simp [State.turnsLeft, State.waitingRequests, State.setPlace, State.setLease, deciding,
      turnsLeft, further.1.1]
    grind
  · have turn : decideTurn state lease =
        { state.setPlace lease .returned with holder := none } := by
      rw [decideTurn, if_neg further, if_pos done]
    have quiet : state.waitingRequests lease = 0 := by
      rw [State.waitingRequests]
      split
      · rfl
      · rename_i services
        cases isOpen : (state.session (state.lease lease).session).isOpen with
        | false => rw [closed isOpen, List.length_nil]
        | true => simpa [services, isOpen] using further
    rw [turn] at stepped
    refine ⟨.decide lease, _, beq_self_eq_true lease, stepped, Or.inr ?_, ?_⟩
    · simp [State.setPlace, State.setLease]
    · have before : state.turnsLeft lease = 1 := by
        simp [State.turnsLeft, deciding, turnsLeft, quiet]
      have after : ({ state.setPlace lease .returned with holder := none } : State).turnsLeft
          lease = 16 * state.waitingRequests lease := by
        simp [State.turnsLeft, State.waitingRequests, State.setPlace, State.setLease, turnsLeft]
      omega

/-- A lease at the head of its loop enters `service`, or goes past it. -/
theorem Underway.looks (under : Underway lease state)
    (looping : (state.lease lease).place = .looping) (done : (state.lease lease).done = true) :
    Closer stuckLimit lease state := by
  have ok := under.consistent
  have idle := ok.idle lease (by rw [looping]; decide) (state.lease lease).session
  have stepped : (leases stuckLimit).step state (.look lease none) =
      some (callService state lease) := by
    simp [leases, step, under.alive, looping, checkUnwinding]
  by_cases stuck : (state.lease lease).stuck = true
  · have called : callService state lease = state.setPlace lease .serving := by
      rw [callService, if_pos stuck]
    rw [called] at stepped
    refine under.turns done stepped (beq_self_eq_true lease) under.alive under.held
      (Function.update_self ..) rfl ?_
    simp [State.turnsLeft, State.waitingRequests, State.setPlace, State.setLease, looping,
      turnsLeft, stuck, idle]
  · have called : callService state lease = (state.setSession (state.lease lease).session
        ((state.session (state.lease lease).session).setService lease .polling)).setPlace lease
        .serving := by
      rw [callService, if_neg stuck]
    rw [called] at stepped
    refine under.turns done stepped (beq_self_eq_true lease) under.alive under.held
      (Function.update_self ..) rfl ?_
    simp [State.turnsLeft, State.waitingRequests, State.setPlace, State.setLease,
      State.setSession, looping, turnsLeft, stuck]

/-- A lease whose work is done can always come closer to the end of its loop. -/
theorem Underway.leaves (under : Underway lease state)
    (inside : (state.lease lease).place.inLoop = true) (done : (state.lease lease).done = true) :
    Closer stuckLimit lease state := by
  cases place : (state.lease lease).place with
  | looping => exact under.looks place done
  | serving => exact under.serves place done
  | deciding => exact under.decides place done
  | asleep =>
    have undone := (under.consistent.asleep lease place).1
    rw [done] at undone
    contradiction
  | absent | posting | blocked | returned =>
    rw [place] at inside
    contradiction

end Leave

/-- No wakeup is lost: from every reachable state of a running process the lease that is under way
can return by steps of the helper and of its own thread, none of which wakes by itself. -/
theorem lease_returns (reached : (leases stuckLimit).Reaches .new state) {lease : LeaseId}
    (alive : state.aborted = false) (active : (state.lease lease).place.active = true) :
    ∃ events last, (∀ event ∈ events, event.drives lease = true) ∧
      (leases stuckLimit).run state events = some last ∧ (last.lease lease).place = .returned := by
  have ok := consistent_reached reached
  have under : Underway lease state := ⟨ok, alive, (ok.holder lease).mp active⟩
  obtain ⟨works, middle, driven, ran, still, inside, done⟩ :=
    (leases stuckLimit).exists_run_of_rank (fun event => event.drives lease = true)
      (Underway lease)
      (fun state => (state.lease lease).place.inLoop = true ∧ (state.lease lease).done = true)
      (fun state => state.distance lease) (fun _ under => under.works) under
  obtain ⟨leaves, last, also, later, -, returned⟩ :=
    (leases stuckLimit).exists_run_of_rank (fun event => event.drives lease = true)
      (Leaving lease) (fun state => (state.lease lease).place = .returned)
      (fun state => state.turnsLeft lease) (fun _ leaving => leaving.symm.imp_right fun inside =>
        inside.1.leaves inside.2.1 inside.2.2) (Or.inl ⟨still, inside, done⟩)
  refine ⟨works ++ leaves, last, fun event member => ?_, ?_, returned⟩
  · exact (List.mem_append.mp member).elim (driven event) (also event)
  · rw [Machine.run_append, ran]
    exact later

/-- The second of the two leases can return. -/
theorem lease_returns_twoLeases : ∃ state, (leases 60000000000).Reaches .new state ∧
    ∃ events last, (∀ event ∈ events, event.drives 1 = true) ∧
      (leases 60000000000).run state events = some last ∧ (last.lease 1).place = .returned :=
  have reached : (leases 60000000000).Reaches .new _ := ⟨twoLeases, rfl⟩
  ⟨_, reached, lease_returns reached rfl rfl⟩

/-! ## A stopping call can always return -/

/-- A step of the helper or of a stopping call. -/
def Event.ends : Event → Bool
  | .pick => true
  | .park => true
  | .ring _ => true
  | .join _ => true
  | _ => false

/-- The process runs, and a stopping call set the flag. -/
structure Stopping (call : StopId) (state : State) : Prop where
  /-- The invariant. -/
  consistent : Consistent state
  /-- The process did not abort. -/
  alive : state.aborted = false
  /-- The call was made. -/
  called : state.stops call ≠ .absent

/-- How far the helper is from its end once it is stopped. -/
def Helper.left : Helper → Nat
  | .gone => 0
  | .looking => 1
  | _ => 2

/-- How far a stopping call is from its end. -/
def Stop.left : Stop → Nat
  | .marked _ => 2
  | .joining _ => 1
  | _ => 0

/-- A stopping call that did not return can come closer to its end. -/
theorem Stopping.goes {call : StopId} (stopping : Stopping call state) :
    (∃ took, state.stops call = .joined took) ∨
      ∃ event next, event.ends = true ∧ (leases stuckLimit).step state event = some next ∧
        Stopping call next ∧ next.helper.left + (next.stops call).left <
          state.helper.left + (state.stops call).left := by
  obtain ⟨ok, alive, called⟩ := stopping
  have keeps : ∀ event next, (leases stuckLimit).step state event = some next →
      Consistent next := fun event next stepped => consistent_step state event next ok stepped
  have flagged := ok.flagged call called
  have idle := ok.unheld (ok.stopped flagged)
  have ringing : ∀ other took, state.stops other = .marked took →
      (leases stuckLimit).step state (.ring other) =
        some (state.notifyHelper.setStop other (.joining took)) := by
    intro other took marked
    simp [leases, step, alive, marked]
  have rung : state.notifyHelper.helper.left ≤ state.helper.left := by
    rw [State.notifyHelper]
    grind [Helper.left]
  cases place : state.stops call with
  | absent => exact absurd place called
  | joined took => exact Or.inl ⟨took, rfl⟩
  | marked took =>
    have stepped := ringing call took place
    refine Or.inr ⟨.ring call, _, rfl, stepped, ⟨keeps _ _ stepped, alive, ?_⟩, ?_⟩
    · simp [State.setStop]
    · simp only [State.setStop, Function.update_self, Stop.left]
      omega
  | joining took =>
    right
    have joins : took = false ∨ state.helper = .gone → (leases stuckLimit).step state (.join call) =
        some (state.setStop call (.joined took)) := by
      intro left
      simp [leases, step, alive, place, left]
    cases took with
    | false =>
      have stepped := joins (Or.inl rfl)
      refine ⟨.join call, _, rfl, stepped, ⟨keeps _ _ stepped, alive, ?_⟩, ?_⟩
      · simp [State.setStop]
      · simp [State.setStop, Stop.left]
    | true =>
      cases helper : state.helper with
      | working lease => simp [State.Idle, helper, Helper.frame] at idle
      | reporting lease => simp [State.Idle, helper, Helper.frame] at idle
      | gone =>
        have stepped := joins (Or.inr helper)
        refine ⟨.join call, _, rfl, stepped, ⟨keeps _ _ stepped, alive, ?_⟩, ?_⟩
        · simp [State.setStop]
        · simp [State.setStop, Stop.left, helper]
      | looking =>
        have stepped : (leases stuckLimit).step state .pick =
            some { state with helper := .gone } := by
          simp [leases, step, alive, helper, helperPick, idle.1, flagged]
        refine ⟨.pick, _, rfl, stepped, ⟨keeps _ _ stepped, alive, called⟩, ?_⟩
        simp [Helper.left, Stop.left, place]
      | parking =>
        have stepped : (leases stuckLimit).step state .park =
            some ({ state with busy := false, helper := .looking }).notifyHelper := by
          simp [leases, step, alive, helper]
        refine ⟨.park, _, rfl, stepped, ⟨keeps _ _ stepped, alive, called⟩, ?_⟩
        simp [State.notifyHelper, Helper.left, Stop.left, place]
      | asleep =>
        -- The call that set the flag last has not notified the helper yet.
        obtain ⟨other, took, marked⟩ := ok.rung helper flagged
        have different : call ≠ other := by
          rintro rfl
          rw [place] at marked
          contradiction
        have stepped := ringing other took marked
        refine ⟨.ring other, _, rfl, stepped, ⟨keeps _ _ stepped, alive, ?_⟩, ?_⟩
        · simp [State.setStop, different, State.notifyHelper, place]
        · simp [State.setStop, different, State.notifyHelper, helper, Helper.left, Stop.left, place]

/-- From every reachable state of a running process a call that stops the helper can return by
steps of the helper and of such calls, none of which wakes by itself. -/
theorem stop_returns (reached : (leases stuckLimit).Reaches .new state) {call : StopId}
    (alive : state.aborted = false) (called : state.stops call ≠ .absent) :
    ∃ events last, (∀ event ∈ events, event.ends = true) ∧
      (leases stuckLimit).run state events = some last ∧
        ∃ took, last.stops call = .joined took := by
  obtain ⟨events, last, all, ran, -, returned⟩ :=
    (leases stuckLimit).exists_run_of_rank (fun event => event.ends = true) (Stopping call)
      (fun state => ∃ took, state.stops call = .joined took)
      (fun state => state.helper.left + (state.stops call).left)
      (fun _ stopping => stopping.goes) ⟨consistent_reached reached, alive, called⟩
  exact ⟨events, last, all, ran, returned⟩

/-- The helper sleeps when its connection is destroyed while the module shuts down. -/
theorem stop_returns_asleep : ∃ state, (leases 60000000000).Reaches .new state ∧
    ∃ events last, (∀ event ∈ events, event.ends = true) ∧
      (leases 60000000000).run state events = some last ∧
        ∃ took, last.stops 1 = .joined took :=
  have reached : (leases 60000000000).Reaches .new _ := ⟨[.pick, .stop 0, .stop 1], rfl⟩
  ⟨_, reached, stop_returns reached rfl nofun⟩

end PhpDuckdb.ConnHelper
