import PhpDuckdb.Session.Helper

/-!
# The invariant of a connection's leases

The invariant says at every moment where the current lease's work is: posted, in the helper, or
done. Around it stand the wakeups: a lease sleeps only while the helper has its work and no request
waits, and the helper sleeps only without work.
-/

namespace PhpDuckdb.ConnHelper

variable {stuckLimit : Int}

/-! ## The invariant -/

/-- The helper has no work and no frame. -/
def State.Idle (state : State) : Prop := state.work = none ∧ state.helper.frame = none

/-- The work of a lease is posted or in the helper, and is counted once it returned. -/
def State.Carries (state : State) (lease : LeaseId) : Prop :=
  (state.work = some lease ∧ state.helper = .looking ∧ lease ∉ state.ran) ∨
    (state.work = none ∧ state.helper = .working lease ∧ lease ∉ state.ran) ∨
    (state.work = none ∧ state.helper = .reporting lease ∧ lease ∈ state.ran)

/-- What holds between any two critical sections. -/
structure Consistent (state : State) : Prop where
  /-- Every session is consistent. -/
  sessions : ∀ which, Handoff.Consistent (state.session which)
  /-- The lease that is called and did not return holds the connection. -/
  holder : ∀ lease, (state.lease lease).place.active = true ↔ state.holder = some lease
  /-- Without a lease the helper is idle. -/
  unheld : state.holder = none → state.Idle
  /-- Before a lease posts its work the helper is idle. -/
  waiting : ∀ lease, (state.lease lease).place = .posting ∨ (state.lease lease).place = .blocked →
    state.Idle ∧ lease ∉ state.ran ∧ (state.lease lease).done = false
  /-- In the loop the work is on its way until it is done. -/
  carried : ∀ lease, (state.lease lease).place.inLoop = true → (state.lease lease).done = false →
    state.Carries lease
  /-- Work that is done ran, and the helper is idle. -/
  reported : ∀ lease, (state.lease lease).place.inLoop = true → (state.lease lease).done = true →
    state.Idle ∧ lease ∈ state.ran
  /-- The work of a lease that returned ran. -/
  returned : ∀ lease, (state.lease lease).place = .returned → lease ∈ state.ran
  /-- The work of a lease that was not called did not run. -/
  fresh : ∀ lease, (state.lease lease).place = .absent → lease ∉ state.ran
  /-- No work runs twice. -/
  once : state.ran.Nodup
  /-- The helper is busy with work or about to park. -/
  busy : state.busy = true ↔ ¬ state.Idle ∨ state.helper = .parking
  /-- A lease sleeps only when its work is not done and it has nothing to service. -/
  asleep : ∀ lease, (state.lease lease).place = .asleep → (state.lease lease).done = false ∧
    ((state.lease lease).stuck = true ∨ (state.session (state.lease lease).session).queue = [])
  /-- `helper_post` sleeps only while the helper is busy. -/
  blocked : ∀ lease, (state.lease lease).place = .blocked → state.busy = true
  /-- Only a serving lease is in `service`. -/
  serviced : ∀ which call, (state.session which).service call ≠ .idle →
    (state.lease call).place = .serving ∧ (state.lease call).session = which ∧
      (state.lease call).stuck = false
  /-- The helper is stopped without a lease. -/
  stopped : state.stop = true → state.holder = none
  /-- While the helper sleeps, the stopping call that set the flag has yet to notify it. -/
  rung : state.helper = .asleep → state.stop = true → ∃ call took, state.stops call = .marked took
  /-- The helper returns only when it is stopped. -/
  gone : state.helper = .gone → state.stop = true
  /-- A call that joined the thread saw it return. -/
  joined : ∀ call, state.stops call = .joined true → state.helper = .gone
  /-- A stopping call set the flag. -/
  flagged : ∀ call, state.stops call ≠ .absent → state.stop = true

/-- A new connection without leases is consistent. -/
theorem consistent_new : Consistent State.new := by
  constructor
  case sessions => exact fun _ => Handoff.consistent_new
  case once => exact List.nodup_nil
  all_goals simp [State.new, State.Idle, Helper.frame, Place.active, Place.inLoop,
    Handoff.State.new]

variable {state : State}

/-- Only the lease that holds the connection is under way. -/
theorem Consistent.alone (ok : Consistent state) {lease : LeaseId}
    (held : state.holder = some lease) (other : LeaseId)
    (active : (state.lease other).place.active = true) : other = lease := by
  have holds := (ok.holder other).mp active
  exact Option.some.inj (holds.symm.trans held)

/-! ## Moves of a lease -/

/-- A lease that is called while nothing holds the mutex keeps the invariant. -/
theorem Consistent.begins (ok : Consistent state) {lease : LeaseId} (session : SessionId)
    (stuck : Bool) (absent : (state.lease lease).place = .absent) (free : state.holder = none)
    (runs : state.stop = false) :
    Consistent { state.setLease lease ⟨.posting, session, stuck, false, false⟩ with
      holder := some lease } := by
  have idle := ok.unheld free
  have new := ok.fresh lease absent
  constructor
  all_goals simp only [State.setLease, State.Idle, State.Carries, Function.update_apply]
  case sessions => exact ok.sessions
  case holder =>
    have holder := ok.holder
    grind [Place.active, Place.inLoop]
  case unheld => grind
  case waiting =>
    have waiting := ok.waiting
    grind [State.Idle]
  case carried =>
    have carried := ok.carried
    grind [Place.inLoop, State.Carries]
  case reported =>
    have reported := ok.reported
    grind [Place.inLoop, State.Idle]
  case returned =>
    have returned := ok.returned
    grind
  case fresh =>
    have fresh := ok.fresh
    grind
  case once => exact ok.once
  case busy => exact ok.busy
  case asleep =>
    have asleep := ok.asleep
    grind
  case blocked =>
    have blocked := ok.blocked
    grind
  case serviced =>
    have serviced := ok.serviced
    grind
  case stopped => grind
  case rung => exact ok.rung
  case gone => exact ok.gone
  case joined => exact ok.joined
  case flagged => exact ok.flagged

/-- A lease that stays in its loop, in the same session and with the same word of the helper. It
is in `service` only while it serves, and sleeps only without work to do. -/
theorem Consistent.moves (ok : Consistent state) {lease : LeaseId} {written : Lease}
    (inside : (state.lease lease).place.inLoop = true) (stays : written.place.inLoop = true)
    (session : written.session = (state.lease lease).session)
    (stuck : written.stuck = (state.lease lease).stuck)
    (done : written.done = (state.lease lease).done)
    (quiet : ∀ which, (state.session which).service lease ≠ .idle → written.place = .serving)
    (sleeps : written.place = .asleep → written.done = false ∧
      (written.stuck = true ∨ (state.session written.session).queue = [])) :
    Consistent (state.setLease lease written) := by
  constructor
  all_goals simp only [State.setLease, State.Idle, State.Carries, Function.update_apply]
  case sessions => exact ok.sessions
  case holder =>
    have holder := ok.holder
    grind [Place.active]
  case unheld => exact ok.unheld
  case waiting =>
    have waiting := ok.waiting
    grind [Place.inLoop, State.Idle]
  case carried =>
    have carried := ok.carried
    grind [State.Carries]
  case reported =>
    have reported := ok.reported
    grind [State.Idle]
  case returned =>
    have returned := ok.returned
    grind [Place.inLoop]
  case fresh =>
    have fresh := ok.fresh
    grind [Place.inLoop]
  case once => exact ok.once
  case busy => exact ok.busy
  case asleep =>
    have asleep := ok.asleep
    grind
  case blocked =>
    have blocked := ok.blocked
    grind [Place.inLoop]
  case serviced =>
    have serviced := ok.serviced
    grind
  case stopped => exact ok.stopped
  case rung => exact ok.rung
  case gone => exact ok.gone
  case joined => exact ok.joined
  case flagged => exact ok.flagged

/-- A session moves on. The leases in its `service` are serving, and none sleeps on a request. -/
theorem Consistent.replaces (ok : Consistent state) {which : SessionId} {after : Handoff.State}
    (keeps : Handoff.Consistent after)
    (serviced : ∀ call, after.service call ≠ .idle → (state.lease call).place = .serving ∧
      (state.lease call).session = which ∧ (state.lease call).stuck = false)
    (awake : ∀ lease, (state.lease lease).place = .asleep → (state.lease lease).session = which →
      (state.lease lease).stuck = true ∨ after.queue = []) :
    Consistent (state.setSession which after) := by
  refine { ok with sessions := ?_, asleep := ?_, serviced := ?_ }
  all_goals simp only [State.setSession, Function.update_apply]
  · have sessions := ok.sessions
    grind
  · have asleep := ok.asleep
    grind
  · have before := ok.serviced
    grind

/-- Waking the leases that sleep on a session keeps the invariant. -/
theorem Consistent.notifySession (ok : Consistent state) (which : SessionId) :
    Consistent (state.notifySession which) := by
  have same : ∀ lease, ((state.lease lease).notified which).session =
      (state.lease lease).session ∧ ((state.lease lease).notified which).stuck =
      (state.lease lease).stuck ∧ ((state.lease lease).notified which).done =
      (state.lease lease).done ∧ (((state.lease lease).notified which).place =
      (state.lease lease).place ∨ (state.lease lease).place = .asleep ∧
      ((state.lease lease).notified which).place = .looping) := by
    intro lease
    grind [Lease.notified]
  constructor
  all_goals simp only [State.notifySession, State.Idle, State.Carries]
  case sessions => exact ok.sessions
  case holder =>
    have holder := ok.holder
    grind [Place.active, Place.inLoop]
  case unheld => exact ok.unheld
  case waiting =>
    have waiting := ok.waiting
    grind [State.Idle]
  case carried =>
    have carried := ok.carried
    grind [Place.inLoop, State.Carries]
  case reported =>
    have reported := ok.reported
    grind [Place.inLoop, State.Idle]
  case returned =>
    have returned := ok.returned
    grind
  case fresh =>
    have fresh := ok.fresh
    grind
  case once => exact ok.once
  case busy => exact ok.busy
  case asleep =>
    have asleep := ok.asleep
    grind
  case blocked =>
    have blocked := ok.blocked
    grind
  case serviced =>
    have serviced := ok.serviced
    grind
  case stopped => exact ok.stopped
  case rung => exact ok.rung
  case gone => exact ok.gone
  case joined => exact ok.joined
  case flagged => exact ok.flagged

/-- No lease sleeps on a session that was notified. -/
theorem notifySession_awake (which : SessionId) (lease : LeaseId)
    (asleep : ((state.notifySession which).lease lease).place = .asleep) :
    ((state.notifySession which).lease lease).session ≠ which := by
  grind [State.notifySession, Lease.notified]

/-- Waking the helper and the leases that wait to post. -/
theorem Consistent.notifyHelper (ok : Consistent state) : Consistent state.notifyHelper := by
  constructor
  all_goals simp only [State.notifyHelper, State.Idle, State.Carries]
  case sessions => exact ok.sessions
  case holder =>
    have holder := ok.holder
    grind [Place.active, Place.inLoop]
  case unheld =>
    have unheld := ok.unheld
    grind [State.Idle, Helper.frame]
  case waiting =>
    have waiting := ok.waiting
    grind [State.Idle, Helper.frame]
  case carried =>
    have carried := ok.carried
    grind [Place.inLoop, State.Carries]
  case reported =>
    have reported := ok.reported
    grind [Place.inLoop, State.Idle, Helper.frame]
  case returned =>
    have returned := ok.returned
    grind
  case fresh =>
    have fresh := ok.fresh
    grind
  case once => exact ok.once
  case busy =>
    have busy := ok.busy
    grind [State.Idle, Helper.frame]
  case asleep =>
    have asleep := ok.asleep
    grind
  case blocked =>
    have blocked := ok.blocked
    grind
  case serviced =>
    have serviced := ok.serviced
    grind
  case stopped => exact ok.stopped
  case rung => grind
  case gone =>
    have gone := ok.gone
    grind
  case joined =>
    have joined := ok.joined
    grind
  case flagged => exact ok.flagged

/-- A lease that waits in `helper_post` wakes or, while the helper is busy, sleeps. -/
theorem Consistent.waits (ok : Consistent state) {lease : LeaseId} {place : Place}
    (before : (state.lease lease).place = .posting ∨ (state.lease lease).place = .blocked)
    (after : place = .posting ∨ place = .blocked) (sleeps : place = .blocked → state.busy = true) :
    Consistent (state.setPlace lease place) := by
  have waiting := ok.waiting lease before
  constructor
  all_goals simp only [State.setPlace, State.setLease, State.Idle, State.Carries,
    Function.update_apply]
  case sessions => exact ok.sessions
  case holder =>
    have holder := ok.holder
    grind [Place.active]
  case unheld => exact ok.unheld
  case waiting =>
    have others := ok.waiting
    grind [State.Idle]
  case carried =>
    have carried := ok.carried
    grind [Place.inLoop, State.Carries]
  case reported =>
    have reported := ok.reported
    grind [Place.inLoop, State.Idle]
  case returned =>
    have returned := ok.returned
    grind
  case fresh =>
    have fresh := ok.fresh
    grind
  case once => exact ok.once
  case busy => exact ok.busy
  case asleep =>
    have asleep := ok.asleep
    grind
  case blocked =>
    have blocked := ok.blocked
    grind
  case serviced =>
    have serviced := ok.serviced
    grind
  case stopped => exact ok.stopped
  case rung => exact ok.rung
  case gone => exact ok.gone
  case joined => exact ok.joined
  case flagged => exact ok.flagged

/-- `helper_post` posts the work to a helper that is free. -/
theorem Consistent.posts (ok : Consistent state) {lease : LeaseId}
    (posting : (state.lease lease).place = .posting) (free : state.busy = false) :
    Consistent (({ state with busy := true, work := some lease }).notifyHelper.setPlace lease
      .looping) := by
  obtain ⟨idle, unrun, undone⟩ := ok.waiting lease (Or.inl posting)
  have held : state.holder = some lease := (ok.holder lease).mp (by rw [posting]; rfl)
  have parked : ¬ state.helper = .parking := fun parking => by
    rw [ok.busy.mpr (Or.inr parking)] at free
    contradiction
  have runs : state.stop = false := by
    have stopped := ok.stopped
    grind
  have here : state.helper = .asleep ∨ state.helper = .looking := by
    have gone := ok.gone
    cases place : state.helper <;> grind [State.Idle, Helper.frame]
  have alone := ok.alone held
  constructor
  all_goals simp only [State.notifyHelper, State.setPlace, State.setLease, State.Idle,
    State.Carries, Function.update_apply]
  case sessions => exact ok.sessions
  case holder =>
    have holder := ok.holder
    grind [Place.active, Place.inLoop]
  case unheld => grind
  case waiting => grind [Place.active, Place.inLoop]
  case carried => grind [Place.active]
  case reported => grind [Place.active]
  case returned =>
    have returned := ok.returned
    grind
  case fresh =>
    have fresh := ok.fresh
    grind
  case once => exact ok.once
  case busy => grind
  case asleep =>
    have asleep := ok.asleep
    grind
  case blocked => grind
  case serviced =>
    have serviced := ok.serviced
    grind
  case stopped => exact ok.stopped
  case rung => grind
  case gone => grind
  case joined =>
    have joined := ok.joined
    grind
  case flagged => exact ok.flagged

/-- A lease returns when its work is done. -/
theorem Consistent.returns (ok : Consistent state) {lease : LeaseId}
    (deciding : (state.lease lease).place = .deciding) (done : (state.lease lease).done = true) :
    Consistent { state.setPlace lease .returned with holder := none } := by
  have inside : (state.lease lease).place.inLoop = true := by rw [deciding]; rfl
  obtain ⟨idle, counted⟩ := ok.reported lease inside done
  have held : state.holder = some lease :=
    (ok.holder lease).mp (by rw [deciding]; rfl)
  constructor
  all_goals simp only [State.setPlace, State.setLease, State.Idle, State.Carries,
    Function.update_apply]
  case sessions => exact ok.sessions
  case holder =>
    have holder := ok.holder
    grind [Place.active, Place.inLoop]
  case unheld => grind [State.Idle]
  case waiting =>
    have waiting := ok.waiting
    grind [State.Idle]
  case carried =>
    have carried := ok.carried
    grind [Place.inLoop, State.Carries]
  case reported =>
    have reported := ok.reported
    grind [Place.inLoop, State.Idle]
  case returned =>
    have returned := ok.returned
    grind
  case fresh =>
    have fresh := ok.fresh
    grind
  case once => exact ok.once
  case busy => exact ok.busy
  case asleep =>
    have asleep := ok.asleep
    grind
  case blocked =>
    have blocked := ok.blocked
    grind
  case serviced =>
    have serviced := ok.serviced
    grind
  case stopped => grind
  case rung => exact ok.rung
  case gone => exact ok.gone
  case joined => exact ok.joined
  case flagged => exact ok.flagged

/-! ## Moves of the helper -/

/-- While a lease waits to post its work the helper is idle, and otherwise the current lease is in
its loop. -/
theorem Consistent.engaged (ok : Consistent state) (busy : ¬ state.Idle) :
    ∃ lease, state.holder = some lease ∧ (state.lease lease).place.inLoop = true ∧
      (state.lease lease).done = false ∧ state.Carries lease := by
  cases held : state.holder with
  | none => exact absurd (ok.unheld held) busy
  | some lease =>
    have active := (ok.holder lease).mpr held
    have waiting := ok.waiting lease
    have reported := ok.reported lease
    have inside : (state.lease lease).place.inLoop = true := by
      grind [Place.active]
    have undone : (state.lease lease).done = false := by
      grind
    exact ⟨lease, rfl, inside, undone, ok.carried lease inside undone⟩

/-- The helper that takes the posted work keeps the leases consistent. -/
theorem Consistent.takes (ok : Consistent state) {lease : LeaseId}
    (posted : state.work = some lease) :
    Consistent { state with helper := .working lease, work := none } := by
  have busy : ¬ state.Idle := fun idle => by
    rw [idle.1] at posted
    contradiction
  obtain ⟨current, held, inside, undone, carries⟩ := ok.engaged busy
  have same : current = lease ∧ state.helper = .looking ∧ lease ∉ state.ran := by
    grind [State.Carries]
  obtain ⟨rfl, looking, unrun⟩ := same
  have alone := ok.alone held
  constructor
  all_goals simp only [State.Idle, State.Carries]
  case sessions => exact ok.sessions
  case holder => exact ok.holder
  case unheld => grind
  case waiting =>
    have waiting := ok.waiting
    grind [State.Idle]
  case carried => grind [Place.active]
  case reported => grind [Place.active]
  case returned => exact ok.returned
  case fresh => exact ok.fresh
  case once => exact ok.once
  case busy =>
    have before := ok.busy
    grind [Helper.frame]
  case asleep => exact ok.asleep
  case blocked => exact ok.blocked
  case serviced => exact ok.serviced
  case stopped => exact ok.stopped
  case rung => grind
  case gone => grind
  case joined =>
    have joined := ok.joined
    grind
  case flagged => exact ok.flagged

/-- The helper finds no work: it returns if it is stopped, else it sleeps. -/
theorem Consistent.rests (ok : Consistent state) (looking : state.helper = .looking)
    (empty : state.work = none) :
    Consistent { state with helper := if state.stop then .gone else .asleep } := by
  have idle : state.Idle := ⟨empty, by rw [looking]; rfl⟩
  have joined := ok.joined
  constructor
  all_goals simp only [State.Idle, State.Carries]
  case sessions => exact ok.sessions
  case holder => exact ok.holder
  case unheld => grind [Helper.frame]
  case waiting =>
    have waiting := ok.waiting
    grind [Helper.frame]
  case carried =>
    have carried := ok.carried
    grind [State.Carries]
  case reported =>
    have reported := ok.reported
    grind [Helper.frame]
  case returned => exact ok.returned
  case fresh => exact ok.fresh
  case once => exact ok.once
  case busy =>
    have busy := ok.busy
    grind [Helper.frame]
  case asleep => exact ok.asleep
  case blocked => exact ok.blocked
  case serviced => exact ok.serviced
  case stopped => exact ok.stopped
  case rung => grind
  case gone => grind
  case joined => grind
  case flagged => exact ok.flagged

/-- The invariant holds when the work of a lease returns. -/
theorem Consistent.completes (ok : Consistent state) {lease : LeaseId}
    (working : state.helper = .working lease) :
    Consistent { state with helper := .reporting lease, ran := state.ran ++ [lease] } := by
  have busy : ¬ state.Idle := fun idle => by
    rw [State.Idle, working] at idle
    exact Option.some_ne_none _ idle.2
  obtain ⟨current, held, inside, undone, carries⟩ := ok.engaged busy
  have same : current = lease ∧ state.work = none ∧ lease ∉ state.ran := by
    grind [State.Carries]
  obtain ⟨rfl, empty, unrun⟩ := same
  have alone := ok.alone held
  constructor
  all_goals simp only [State.Idle, State.Carries]
  case sessions => exact ok.sessions
  case holder => exact ok.holder
  case unheld => grind
  case waiting =>
    have waiting := ok.waiting
    grind [State.Idle]
  case carried => grind [Place.active]
  case reported => grind [Place.active]
  case returned =>
    have returned := ok.returned
    grind
  case fresh =>
    have fresh := ok.fresh
    grind [Place.inLoop]
  case once =>
    have once := ok.once
    grind
  case busy =>
    have before := ok.busy
    grind [Helper.frame, State.Idle]
  case asleep => exact ok.asleep
  case blocked => exact ok.blocked
  case serviced => exact ok.serviced
  case stopped => exact ok.stopped
  case rung => grind
  case gone => grind
  case joined =>
    have joined := ok.joined
    grind
  case flagged => exact ok.flagged

/-- The helper sets `done` of the lease whose work returned. -/
theorem Consistent.reports (ok : Consistent state) {lease : LeaseId}
    (reporting : state.helper = .reporting lease) : Consistent (helperReport state lease) := by
  have busy : ¬ state.Idle := fun idle => by
    rw [State.Idle, reporting] at idle
    exact Option.some_ne_none _ idle.2
  obtain ⟨current, held, inside, undone, carries⟩ := ok.engaged busy
  have same : current = lease ∧ state.work = none ∧ lease ∈ state.ran := by
    grind [State.Carries]
  obtain ⟨rfl, empty, counted⟩ := same
  have alone := ok.alone held
  have moved : ∀ other, (Function.update state.lease current
      { state.lease current with done := true } other).notified (state.lease current).session =
      if other = current then
        { state.lease current with
          done := true
          place := if (state.lease current).place = .asleep then .looping
            else (state.lease current).place }
      else state.lease other := by
    intro other
    by_cases this : other = current
    · grind [Lease.notified]
    · have awake : (state.lease other).place ≠ .asleep := fun sleeping =>
        this (alone other (by rw [sleeping]; rfl))
      rw [Function.update_of_ne this, Lease.notified, if_neg fun both => awake both.1, if_neg this]
  constructor
  all_goals simp only [helperReport, State.notifySession, State.setLease, State.Idle,
    State.Carries]
  case sessions => exact ok.sessions
  case holder =>
    have holder := ok.holder
    grind [Place.active, Place.inLoop]
  case unheld => grind
  case waiting =>
    have waiting := ok.waiting
    grind [State.Idle, Place.inLoop]
  case carried => grind [Place.active]
  case reported => grind [Place.active, Helper.frame]
  case returned =>
    have returned := ok.returned
    grind [Place.inLoop]
  case fresh =>
    have fresh := ok.fresh
    grind [Place.inLoop]
  case once => exact ok.once
  case busy =>
    have before := ok.busy
    grind
  case asleep =>
    have asleep := ok.asleep
    grind [Lease.notified]
  case blocked =>
    have blocked := ok.blocked
    grind
  case serviced =>
    have serviced := ok.serviced
    grind
  case stopped => exact ok.stopped
  case rung => grind
  case gone => grind
  case joined =>
    have joined := ok.joined
    grind
  case flagged => exact ok.flagged

/-- The invariant holds when the helper marks itself free and goes to sleep. -/
theorem Consistent.parks (ok : Consistent state) (parking : state.helper = .parking) :
    Consistent ({ state with busy := false, helper := .looking }).notifyHelper := by
  have idle : state.Idle := by
    by_contra busy
    obtain ⟨lease, held, inside, undone, carries⟩ := ok.engaged busy
    grind [State.Carries]
  constructor
  all_goals simp only [State.notifyHelper, State.Idle, State.Carries]
  case sessions => exact ok.sessions
  case holder =>
    have holder := ok.holder
    grind [Place.active, Place.inLoop]
  case unheld => grind [State.Idle, Helper.frame]
  case waiting =>
    have waiting := ok.waiting
    grind [State.Idle, Helper.frame]
  case carried =>
    have carried := ok.carried
    grind [Place.inLoop, State.Carries]
  case reported =>
    have reported := ok.reported
    grind [Place.inLoop, State.Idle, Helper.frame]
  case returned =>
    have returned := ok.returned
    grind
  case fresh =>
    have fresh := ok.fresh
    grind
  case once => exact ok.once
  case busy => grind [State.Idle, Helper.frame]
  case asleep =>
    have asleep := ok.asleep
    grind
  case blocked => grind
  case serviced =>
    have serviced := ok.serviced
    grind
  case stopped => exact ok.stopped
  case rung => grind
  case gone => grind
  case joined =>
    have joined := ok.joined
    grind
  case flagged => exact ok.flagged

/-- The invariant holds when the helper wakes without being notified. -/
theorem Consistent.rouses (ok : Consistent state) (asleep : state.helper = .asleep) :
    Consistent { state with helper := .looking } := by
  constructor
  all_goals simp only [State.Idle, State.Carries]
  case sessions => exact ok.sessions
  case holder => exact ok.holder
  case unheld =>
    have unheld := ok.unheld
    grind [State.Idle, Helper.frame]
  case waiting =>
    have waiting := ok.waiting
    grind [State.Idle, Helper.frame]
  case carried =>
    have carried := ok.carried
    grind [State.Carries]
  case reported =>
    have reported := ok.reported
    grind [State.Idle, Helper.frame]
  case returned => exact ok.returned
  case fresh => exact ok.fresh
  case once => exact ok.once
  case busy =>
    have busy := ok.busy
    grind [State.Idle, Helper.frame]
  case asleep => exact ok.asleep
  case blocked => exact ok.blocked
  case serviced => exact ok.serviced
  case stopped => exact ok.stopped
  case rung => grind
  case gone => grind
  case joined =>
    have joined := ok.joined
    grind
  case flagged => exact ok.flagged

/-! ## Stopping the helper -/

/-- The invariant holds when the helper is told to stop. -/
theorem Consistent.stops (ok : Consistent state) {call : StopId} (free : state.holder = none) :
    Consistent (({ state with stop := true, joinable := false }).setStop call
      (.marked state.joinable)) := by
  refine { ok with
    stopped := fun _ => free, rung := ?_, gone := fun _ => rfl, joined := ?_,
    flagged := fun _ _ => rfl }
  · intro _ _
    exact ⟨call, state.joinable, Function.update_self ..⟩
  · have joined := ok.joined
    simp only [State.setStop, Function.update_apply]
    grind

/-- A stopping call goes on. It notified the helper, and it is past the join of a thread only when
the thread returned. -/
theorem Consistent.goesOn (ok : Consistent state) {call : StopId} {place : Stop}
    (flag : state.stop = true)
    (awake : state.helper = .asleep → ∀ took, state.stops call ≠ .marked took)
    (left : place = .joined true → state.helper = .gone) :
    Consistent (state.setStop call place) := by
  refine { ok with rung := ?_, joined := ?_, flagged := fun _ _ => flag }
  all_goals simp only [State.setStop, Function.update_apply]
  · have rung := ok.rung
    grind
  · have joined := ok.joined
    grind

/-- The helper is awake after it was notified. -/
theorem notifyHelper_awake : state.notifyHelper.helper ≠ .asleep := by
  grind [State.notifyHelper]

/-! ## Steps -/

/-- Closing a session leaves the calls of `service` where they are. -/
theorem close_service (session : Handoff.State) (reason : String) :
    (session.close reason).service = session.service := by
  rw [Handoff.State.close]
  split <;> rfl

/-- Closing a session leaves an empty queue empty. -/
theorem close_queue (session : Handoff.State) (reason : String) (empty : session.queue = []) :
    (session.close reason).queue = [] := by
  rw [Handoff.State.close]
  split
  · exact empty
  · rfl

/-- `check_unwinding` keeps the invariant for a lease in its loop. -/
theorem Consistent.unwinds (ok : Consistent state) {lease : LeaseId}
    (inside : (state.lease lease).place.inLoop = true) (reason : Option String) :
    Consistent (checkUnwinding state lease reason) := by
  cases reason with
  | none => exact ok
  | some reason =>
    rw [checkUnwinding]
    split
    · exact ok
    · have closed : Consistent (state.setSession (state.lease lease).session
          ((state.session (state.lease lease).session).close reason)) := by
        refine ok.replaces (Handoff.consistent_close (ok.sessions _) reason) ?_ ?_
        · intro call busy
          rw [close_service] at busy
          exact ok.serviced _ call busy
        · intro other sleeping session
          have empty := (ok.asleep other sleeping).2
          rw [session] at empty
          exact empty.imp_right (close_queue _ reason)
      have still := closed.serviced
      have sleeps := closed.asleep lease
      exact closed.moves inside inside rfl rfl rfl
        (fun which busy => (still which lease busy).1) sleeps

/-- `check_unwinding` leaves the lease where it is. -/
theorem checkUnwinding_lease (state : State) (lease : LeaseId) (reason : Option String) :
    ((checkUnwinding state lease reason).lease lease).place = (state.lease lease).place ∧
      ((checkUnwinding state lease reason).lease lease).session = (state.lease lease).session := by
  cases reason with
  | none => exact ⟨rfl, rfl⟩
  | some reason =>
    rw [checkUnwinding]
    split
    · exact ⟨rfl, rfl⟩
    · simp [State.setLease]

/-- `check_unwinding` leaves the calls of `service` where they are. -/
theorem checkUnwinding_service (lease : LeaseId) (reason : Option String) (which : SessionId)
    (call : LeaseId) : ((checkUnwinding state lease reason).session which).service call =
      (state.session which).service call := by
  cases reason with
  | none => rfl
  | some reason =>
    rw [checkUnwinding]
    split
    · rfl
    · rw [State.setLease, State.setSession]
      by_cases same : which = (state.lease lease).session
      · rw [same]
        simp only [Function.update_self]
        rw [close_service]
      · simp only [Function.update_of_ne same]

/-- Only a lease that enters `service` begins to service a session, and a queue stays empty unless
a request is queued. -/
theorem handoff_step {which : SessionId} {before after : Handoff.State} {event : Handoff.Event}
    (outside : ∀ call, event ≠ .enter call)
    (stepped : Handoff.step which stuckLimit before event = some after) :
    (∀ call, after.service call ≠ .idle → before.service call ≠ .idle) ∧
      (before.queue = [] → (∀ request now, event = .submit request now → before.isOpen = false) →
        after.queue = []) := by
  cases event with
  | enter call => exact absurd rfl (outside call)
  | submit request now =>
    simp only [Handoff.step] at stepped
    split at stepped
    · obtain rfl := Option.some.inj stepped
      simp only [Handoff.submitEnter, Handoff.submitTurn]
      grind
    · contradiction
  | wake request now =>
    simp only [Handoff.step] at stepped
    split at stepped
    · obtain rfl := Option.some.inj stepped
      simp only [Handoff.submitTurn]
      grind
    · contradiction
  | take call =>
    simp only [Handoff.step] at stepped
    split at stepped
    · obtain rfl := Option.some.inj stepped
      simp only [Handoff.serviceTake]
      grind
    · contradiction
  | work call =>
    simp only [Handoff.step] at stepped
    split at stepped
    · obtain rfl := Option.some.inj stepped
      simp only [Handoff.State.setService, Function.update_apply]
      grind
    · contradiction
  | finish call =>
    simp only [Handoff.step] at stepped
    split at stepped
    · obtain rfl := Option.some.inj stepped
      grind
    · contradiction
  | unwind call reason =>
    simp only [Handoff.step] at stepped
    split at stepped
    · cases reason with
      | some reason =>
        obtain rfl := Option.some.inj stepped
        have service := close_service before reason
        have queue := close_queue before reason
        grind
      | none =>
        obtain rfl := Option.some.inj stepped
        grind
    · contradiction
  | close reason =>
    obtain rfl := Option.some.inj stepped
    rw [close_service]
    exact ⟨fun _ busy => busy, fun empty _ => close_queue before reason empty⟩
  | drive driver =>
    obtain rfl := Option.some.inj stepped
    exact ⟨fun _ busy => busy, fun empty _ => empty⟩

/-- A step on a session keeps the invariant. -/
theorem Consistent.sessionStep (ok : Consistent state) {which : SessionId} {event : Handoff.Event}
    {next : State} (stepped : sessionStep stuckLimit state which event = some next) :
    Consistent next := by
  rw [ConnHelper.sessionStep] at stepped
  split at stepped
  · rename_i allowed
    obtain ⟨after, moved, rfl⟩ := Option.map_eq_some_iff.mp stepped
    have outside : ∀ call, event ≠ .enter call := by
      rintro call rfl
      simp [State.allows] at allowed
    obtain ⟨calls, queue⟩ := handoff_step outside moved
    have keeps := Handoff.consistent_step _ _ _ (ok.sessions which) moved
    split
    · refine (ok.notifySession which).replaces keeps ?_ ?_
      · intro call busy
        exact (ok.notifySession which).serviced which call (calls call busy)
      · intro lease sleeping session
        exact absurd session (notifySession_awake which lease sleeping)
    · rename_i silent
      refine ok.replaces keeps (fun call busy => ok.serviced which call (calls call busy)) ?_
      intro lease sleeping session
      have empty := (ok.asleep lease sleeping).2
      rw [session] at empty
      refine empty.imp_right fun empty => queue empty ?_
      rintro request now rfl
      simpa [State.notifies] using silent
  · contradiction

/-- A lease at the head of its loop is in no `service` call. -/
theorem Consistent.idle (ok : Consistent state) (lease : LeaseId)
    (away : (state.lease lease).place ≠ .serving) (which : SessionId) :
    (state.session which).service lease = .idle := by
  by_contra busy
  exact away (ok.serviced which lease busy).1

/-- A lease that enters `service` keeps the invariant. -/
theorem Consistent.calls (ok : Consistent state) {lease : LeaseId}
    (looping : (state.lease lease).place = .looping) : Consistent (callService state lease) := by
  have inside : (state.lease lease).place.inLoop = true := by rw [looping]; rfl
  have idle := ok.idle lease (by rw [looping]; decide)
  have serving : Consistent (state.setPlace lease .serving) :=
    ok.moves inside rfl rfl rfl rfl (fun which busy => absurd (idle which) busy) nofun
  rw [callService]
  split
  · exact serving
  · rename_i services
    have entered : Handoff.Consistent
        ((state.session (state.lease lease).session).setService lease .polling) :=
      Handoff.consistent_move (ok.sessions _) (by simp [idle, Handoff.Service.carries]) rfl
    have session : Consistent ((state.setPlace lease .serving).setSession
        (state.lease lease).session
        ((state.session (state.lease lease).session).setService lease .polling)) := by
      refine serving.replaces entered ?_ ?_
      · intro call busy
        by_cases same : call = lease
        · subst same
          simp [State.setPlace, State.setLease, services]
        · rw [Handoff.State.setService_service, if_neg same] at busy
          exact serving.serviced (state.lease lease).session call busy
      · intro other sleeping session
        have empty := (serving.asleep other sleeping).2
        rw [session] at empty
        exact empty
    exact session

/-- The end of the loop's turn keeps the invariant. -/
theorem Consistent.decides (ok : Consistent state) {lease : LeaseId}
    (deciding : (state.lease lease).place = .deciding) : Consistent (decideTurn state lease) := by
  have inside : (state.lease lease).place.inLoop = true := by rw [deciding]; rfl
  have idle := ok.idle lease (by rw [deciding]; decide)
  have quiet : ∀ which, (state.session which).service lease = .idle → ∀ place : Place,
      (state.session which).service lease ≠ .idle → place = .serving :=
    fun _ idle _ busy => absurd idle busy
  simp only [decideTurn]
  split
  · exact ok.moves inside rfl rfl rfl rfl (fun which => quiet which (idle which) _) nofun
  · rename_i serviced
    split
    · rename_i done
      exact ok.returns deciding done
    · rename_i undone
      refine ok.moves inside rfl rfl rfl rfl (fun which => quiet which (idle which) _)
        fun _ => ⟨by simpa using undone, ?_⟩
      have closed := (ok.sessions (state.lease lease).session).closed
      show (state.lease lease).stuck = true ∨
        (state.session (state.lease lease).session).queue = []
      cases stuck : (state.lease lease).stuck with
      | true => exact Or.inl rfl
      | false =>
        right
        cases isOpen : (state.session (state.lease lease).session).isOpen with
        | false => exact closed isOpen
        | true => simpa [stuck, isOpen] using serviced

/-- Every event of leases, helper and stop calls keeps the invariant. -/
theorem consistent_step (state : State) (event : Event) (next : State) (ok : Consistent state)
    (stepped : (leases stuckLimit).step state event = some next) : Consistent next := by
  simp only [leases, step] at stepped
  split at stepped
  · contradiction
  cases event with
  | begin lease session stuck =>
    simp only at stepped
    split at stepped
    · rename_i ready
      obtain rfl := Option.some.inj stepped
      exact ok.begins session stuck ready.1 ready.2.1 ready.2.2
    · contradiction
  | post lease =>
    simp only at stepped
    split at stepped
    · rename_i posting
      obtain rfl := Option.some.inj stepped
      rw [helperPost]
      split
      · rename_i busy
        exact ok.waits (Or.inl posting) (Or.inr rfl) fun _ => busy
      · rename_i free
        exact ok.posts posting (by simpa using free)
    · contradiction
  | look lease reason =>
    simp only at stepped
    split at stepped
    · rename_i looping
      obtain rfl := Option.some.inj stepped
      have inside : (state.lease lease).place.inLoop = true := by rw [looping]; rfl
      refine (ok.unwinds inside reason).calls ?_
      rw [(checkUnwinding_lease state lease reason).1, looping]
    · contradiction
  | recheck lease reason =>
    simp only at stepped
    split at stepped
    · rename_i ready
      obtain rfl := Option.some.inj stepped
      have inside : (state.lease lease).place.inLoop = true := by rw [ready.1]; rfl
      have after := ok.unwinds inside reason
      have same := checkUnwinding_lease state lease reason
      refine after.moves (by rw [same.1]; exact inside) rfl rfl rfl rfl ?_ nofun
      intro which busy
      have here := after.serviced which lease busy
      rw [checkUnwinding_service] at busy
      rw [same.2] at here
      exact absurd (here.2.1 ▸ ready.2) busy
    · contradiction
  | decide lease =>
    simp only at stepped
    split at stepped
    · rename_i deciding
      obtain rfl := Option.some.inj stepped
      exact ok.decides deciding
    · contradiction
  | stir lease =>
    simp only at stepped
    split at stepped
    · rename_i blocked
      obtain rfl := Option.some.inj stepped
      exact ok.waits (Or.inr blocked) (Or.inl rfl) nofun
    · rename_i asleep
      obtain rfl := Option.some.inj stepped
      have idle := ok.idle lease (by rw [asleep]; decide)
      exact ok.moves (by rw [asleep]; rfl) rfl rfl rfl rfl
        (fun which busy => absurd (idle which) busy) nofun
    · contradiction
  | giveUp lease =>
    simp only at stepped
    split at stepped
    · obtain rfl := Option.some.inj stepped
      exact { ok with }
    · contradiction
  | pick =>
    simp only at stepped
    split at stepped
    · rename_i looking
      obtain rfl := Option.some.inj stepped
      rw [helperPick]
      split
      · rename_i lease posted
        exact ok.takes posted
      · rename_i empty
        exact ok.rests looking empty
    · contradiction
  | complete =>
    simp only at stepped
    split at stepped
    · rename_i lease working
      obtain rfl := Option.some.inj stepped
      exact ok.completes working
    · contradiction
  | report =>
    simp only at stepped
    split at stepped
    · rename_i lease reporting
      obtain rfl := Option.some.inj stepped
      exact ok.reports reporting
    · contradiction
  | park =>
    simp only at stepped
    split at stepped
    · rename_i parking
      obtain rfl := Option.some.inj stepped
      exact ok.parks parking
    · contradiction
  | rouse =>
    simp only at stepped
    split at stepped
    · rename_i asleep
      obtain rfl := Option.some.inj stepped
      exact ok.rouses asleep
    · contradiction
  | stop call =>
    simp only at stepped
    split at stepped
    · rename_i ready
      obtain rfl := Option.some.inj stepped
      exact ok.stops ready.2
    · contradiction
  | ring call =>
    simp only at stepped
    split at stepped
    · rename_i took marked
      obtain rfl := Option.some.inj stepped
      exact ok.notifyHelper.goesOn (ok.flagged call (by rw [marked]; nofun))
        (fun asleep => absurd asleep notifyHelper_awake) nofun
    · contradiction
  | join call =>
    simp only at stepped
    split at stepped
    · rename_i took joining
      split at stepped
      · rename_i left
        obtain rfl := Option.some.inj stepped
        refine ok.goesOn (ok.flagged call (by rw [joining]; nofun)) (fun _ other marked => ?_)
          fun joined => ?_
        · rw [joining] at marked
          contradiction
        · exact left.resolve_left (by simpa using joined)
      · contradiction
    · contradiction
  | session which event => exact ok.sessionStep stepped

end PhpDuckdb.ConnHelper
