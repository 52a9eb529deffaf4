import PhpDuckdb.Result.OpenResult

/-!
# The registry of open results

`registry_exact` says what holds after every interleaving: the registry holds the open and the
errored records, each once; a native handle lives as long as its record has it and is destroyed
once, under the mutex; and a record that was finished stays so.
-/

namespace PhpDuckdb.OpenResult

open OrderedTable Ownership

/-- A record that the registry holds. -/
def Record.registered (record : Record) : Bool :=
  record.state = .opened || record.state = .errored

/-- A record that was drained or destroyed. -/
def Record.Finished (record : Record) : Prop :=
  record.state = .drained ∨ record.state = .destroyed

/-- How often the registry should hold a record. -/
def State.registrations (state : State) (id : Nat) : Nat :=
  (state.records id).elim 0 fun record => if record.registered then 1 else 0

/-- What holds of a connection's open results at every moment. -/
structure Registered (state : State) : Prop where
  /-- The registry holds the open and the errored records, each once. -/
  exact : ∀ id, state.registry.count id = state.registrations id
  /-- The calls on native handles are in order, and a handle lives while its record has it. -/
  in_order : ∃ statuses, handles.run allFresh (state.log.map NativeCall.use) = some statuses ∧
    ∀ id, statuses id = .live ↔ ∃ record, state.records id = some record ∧ record.native = true
  /-- Every handle that was created and that no record has any more was destroyed once. -/
  destroyed_once : ∀ id, (state.log.map NativeCall.use).count (.destroy id) =
    if .create id ∈ state.log.map NativeCall.use ∧
      ¬∃ record, state.records id = some record ∧ record.native = true then 1 else 0
  /-- Every call on a handle is made by the thread that holds the mutex. -/
  under_mutex : ∀ call ∈ state.log, call.mutex = some call.thread
  /-- Open and errored records have their handles, destroyed ones do not, and a drained pending
  query does not either. -/
  natives : ∀ id record, state.records id = some record →
    (record.registered = true → record.native = true) ∧
      (record.state = .destroyed → record.native = false) ∧
      (record.state = .drained → (record.native = true ↔ record.kind = .stream))
  /-- Once the connection's destructor has run, no handle is left. -/
  gone : state.destructing = true → state.mutex = none → ∀ id record,
    state.records id = some record → record.native = false

/-- What is true of a record in each part of its life. -/
def Record.Lawful (record : Record) : Prop :=
  match record.state with
  | .opened => record.native = true ∧ record.exhausted = false
  | .errored => record.kind = .stream ∧ record.native = true ∧ record.exhausted = false
  | .drained => (record.native = true ↔ record.kind = .stream) ∧
      (record.kind = .pending → record.owned = false)
  | .destroyed => record.native = false ∧ record.owned = false

/-- The thread holds the mutex of the connection. -/
def Op.holds : Op → Bool
  | .locked _ | .settling _ _ | .leaving _ _ => true
  | _ => false

/-- The records that a thread is about to destroy for owners that are gone. -/
def Op.destroys : Op → List Nat
  | .entering (.destroy ids) | .locked (.destroy ids) => ids
  | _ => []

/-- A thread's own record of some kind. -/
def Mine (records : Nat → Option Record) (thread id : Nat) (kind : Kind)
    (also : Record → Prop) : Prop :=
  ∃ record, records id = some record ∧ record.thread = thread ∧ record.owned = true ∧
    record.kind = kind ∧ also record

/-- The owner of a record is gone. -/
def Disowned (records : Nat → Option Record) (id : Nat) : Prop :=
  ∃ record, records id = some record ∧ record.owned = false

/-- What a thread may rely on of the record it works on. -/
def Fits (records : Nat → Option Record) (thread : Nat) : Op → Prop
  | .entering (.fetch id) | .locked (.fetch id) =>
    Mine records thread id .stream fun record => record.registered = true
  | .entering (.step id) | .locked (.step id) | .entering (.cancel id) | .locked (.cancel id)
  | .settling id _ => Mine records thread id .pending fun record => record.state = .opened
  | .leaving id drained =>
    Mine records thread id .stream fun record => drained = true → record.state = .drained
  | .entering (.destroy ids) | .locked (.destroy ids) => ∀ id ∈ ids, Disowned records id
  | _ => True

/-- What every step on the registry keeps. -/
structure Consistent (state : State) : Prop where
  /-- Every record is lawful. -/
  lawful : ∀ id record, state.records id = some record → record.Lawful
  /-- Numbers that were not given have no record. -/
  bound : ∀ id, state.count ≤ id → state.records id = none
  /-- The registry is exact. -/
  exact : ∀ id, state.registry.count id = state.registrations id
  /-- The calls on native handles are in order. -/
  in_order : ∃ statuses, handles.run allFresh (state.log.map NativeCall.use) = some statuses ∧
    (∀ id, statuses id = .live ↔
      ∃ record, state.records id = some record ∧ record.native = true) ∧
    ∀ id, state.count ≤ id → statuses id = .fresh
  /-- They are made under the mutex. -/
  calls : ∀ call ∈ state.log, call.mutex = some call.thread
  /-- A thread in a critical section holds the mutex. -/
  mutex : ∀ thread, (state.op thread).holds = true → state.mutex = some thread
  /-- Every thread has what it relies on. -/
  fits : ∀ thread, Fits state.records thread (state.op thread)
  /-- Deferred cleanups are of owners that are gone. -/
  deferred : ∀ id ∈ state.deferred, Disowned state.records id
  /-- A handle without an owner will be destroyed. -/
  covered : ∀ id record, state.records id = some record → record.native = true →
    record.owned = false →
      id ∈ state.deferred ∨ ∃ thread, id ∈ (state.op thread).destroys
  /-- A drained stream is exhausted, or its thread is about to say so. -/
  drained : ∀ id record, state.records id = some record → record.kind = .stream →
    record.owned = true → record.state = .drained →
      record.exhausted = true ∨ state.op record.thread = .leaving id true
  /-- In the destructor no owner is left, nothing is deferred, and whoever is busy has the
  mutex. -/
  destructing : state.destructing = true →
    (∀ id record, state.records id = some record → record.owned = false) ∧
      state.deferred = [] ∧ ∀ thread, state.op thread ≠ .idle → (state.op thread).holds = true

/-- A new connection without results is consistent. -/
theorem consistent_fresh : Consistent .fresh where
  lawful id record given := by cases given
  bound _ _ := rfl
  exact _ := rfl
  in_order := ⟨allFresh, rfl, by simp [State.fresh, allFresh], fun _ _ => rfl⟩
  calls call inside := by cases inside
  mutex thread holds := by cases holds
  fits _ := trivial
  deferred id inside := by cases inside
  covered id record given := by cases given
  drained id record given := by cases given
  destructing never := by cases never

/-- A pending query that still has its owner is open. -/
theorem Record.Lawful.opened {record : Record} (lawful : record.Lawful)
    (pending : record.kind = .pending) (owned : record.owned = true) :
    record.state = .opened := by
  cases state : record.state with
  | opened => rfl
  | errored =>
    simp only [Lawful, state] at lawful
    rw [pending] at lawful
    cases lawful.1
  | drained =>
    simp only [Lawful, state] at lawful
    rw [lawful.2 pending] at owned
    cases owned
  | destroyed =>
    simp only [Lawful, state] at lawful
    rw [lawful.2] at owned
    cases owned

/-- A registered record has its handle. -/
theorem Record.Lawful.native {record : Record} (lawful : record.Lawful)
    (registered : record.registered = true) : record.native = true := by
  simp only [Record.registered, Bool.or_eq_true, decide_eq_true_eq] at registered
  rcases registered with opened | errored
  · simp only [Lawful, opened] at lawful
    exact lawful.1
  · simp only [Lawful, errored] at lawful
    exact lawful.2.1

/-- A record that a thread works on is its own. -/
theorem Fits.mine {records : Nat → Option Record} {thread id : Nat} {op : Op}
    (fits : Fits records thread op) (works : op.record? = some id) :
    ∃ record, records id = some record ∧ record.thread = thread ∧ record.owned = true := by
  cases op with
  | idle => cases works
  | entering action | locked action =>
    cases action with
    | fetch other | step other | cancel other =>
      obtain rfl := Option.some.inj works
      obtain ⟨record, given, own, owned, _⟩ := fits
      exact ⟨record, given, own, owned⟩
    | start | destroy | other => cases works
  | settling other executed | leaving other drained =>
    obtain rfl := Option.some.inj works
    obtain ⟨record, given, own, owned, _⟩ := fits
    exact ⟨record, given, own, owned⟩

/-- What a thread relies on does not depend on numbers without a record. -/
theorem Fits.extend {records others : Nat → Option Record} {thread : Nat} {op : Op}
    (fits : Fits records thread op)
    (more : ∀ id record, records id = some record → others id = some record) :
    Fits others thread op := by
  have kept : ∀ id kind also, Mine records thread id kind also → Mine others thread id kind also :=
    fun id kind also => fun ⟨record, given, rest⟩ => ⟨record, more id record given, rest⟩
  have away : ∀ id, Disowned records id → Disowned others id :=
    fun id => fun ⟨record, given, gone⟩ => ⟨record, more id record given, gone⟩
  cases op with
  | idle => trivial
  | entering action | locked action =>
    cases action with
    | fetch id | step id | cancel id => exact kept _ _ _ fits
    | destroy ids => exact fun id inside => away id (fits id inside)
    | start | other => trivial
  | settling id executed | leaving id drained => exact kept _ _ _ fits

/-- What a thread relies on survives a change of another record that keeps owners away. -/
theorem Fits.update {records : Nat → Option Record} {thread id : Nat} {op : Op}
    {record next : Record} (fits : Fits records thread op) (here : records id = some record)
    (apart : op.record? ≠ some id) (disowned : record.owned = false → next.owned = false) :
    Fits (Function.update records id (some next)) thread op := by
  have kept : ∀ other kind also, other ≠ id → Mine records thread other kind also →
      Mine (Function.update records id (some next)) thread other kind also := by
    rintro other kind also different ⟨found, given, rest⟩
    exact ⟨found, (Function.update_of_ne different _ _).trans given, rest⟩
  have away : ∀ other, Disowned records other →
      Disowned (Function.update records id (some next)) other := by
    rintro other ⟨found, given, gone⟩
    by_cases same : other = id
    · subst same
      obtain rfl := Option.some.inj (here.symm.trans given)
      exact ⟨next, Function.update_self _ _ _, disowned gone⟩
    · exact ⟨found, (Function.update_of_ne same _ _).trans given, gone⟩
  have different : ∀ other, op.record? = some other → other ≠ id := by
    rintro other works rfl
    exact apart works
  cases op with
  | idle => trivial
  | entering action | locked action =>
    cases action with
    | fetch other | step other | cancel other => exact kept _ _ _ (different _ rfl) fits
    | destroy ids => exact fun other inside => away other (fits other inside)
    | start | other => trivial
  | settling other executed | leaving other drained => exact kept _ _ _ (different _ rfl) fits

section Steps

variable {state after : State} {thread : Nat} {op : Op}

/-- How a thread's next place goes with the mutex. -/
structure Moves (state after : State) (thread : Nat) (op : Op) : Prop where
  /-- Only this thread goes on. -/
  ops : ∀ other, after.op other = if thread = other then op else state.op other
  /-- In a critical section it holds the mutex. -/
  holds : op.holds = true → after.mutex = some thread
  /-- It takes the mutex from nobody else. -/
  mutex : after.mutex = state.mutex ∨ state.mutex = some thread ∨ state.mutex = none
  /-- In the destructor it goes on or ends. -/
  destructing : after.destructing = true →
    state.destructing = true ∧ (op ≠ .idle → op.holds = true)

/-- A thread that goes on leaves the others in their critical sections. -/
theorem Moves.all_hold (moves : Moves state after thread op) (before : Consistent state)
    (other : Nat) (holds : (after.op other).holds = true) : after.mutex = some other := by
  rw [moves.ops other] at holds
  split at holds
  · rename_i same
    subst same
    exact moves.holds holds
  · rename_i apart
    have held := before.mutex other holds
    rcases moves.mutex with kept | own | free
    · exact kept.trans held
    · exact absurd (Option.some.inj (own.symm.trans held)) apart
    · exact absurd (free.symm.trans held) (by simp)

/-- In the destructor whoever is busy still has the mutex. -/
theorem Moves.all_busy (moves : Moves state after thread op) (before : Consistent state)
    (destructing : after.destructing = true) (other : Nat) (busy : after.op other ≠ .idle) :
    (after.op other).holds = true := by
  obtain ⟨already, next⟩ := moves.destructing destructing
  rw [moves.ops other] at busy ⊢
  split
  · rename_i same
    rw [if_pos same] at busy
    exact next busy
  · rename_i apart
    rw [if_neg apart] at busy
    exact (before.destructing already).2.2 other busy

/-- A thread goes on without changing a record. -/
theorem Consistent.goOn (before : Consistent state) (moves : Moves state after thread op)
    (records : after.records = state.records) (count : after.count = state.count)
    (registry : after.registry = state.registry) (log : after.log = state.log)
    (fits : Fits state.records thread op)
    (deferred : ∀ id ∈ after.deferred, id ∈ state.deferred)
    (covered : ∀ id, id ∈ state.deferred ∨ id ∈ (state.op thread).destroys →
      id ∈ after.deferred ∨ id ∈ op.destroys)
    (stays : ∀ id, state.op thread ≠ .leaving id true) : Consistent after where
  lawful := by
    rw [records]
    exact before.lawful
  bound := by
    rw [records, count]
    exact before.bound
  exact id := by
    rw [State.registrations, records, registry]
    exact before.exact id
  in_order := by
    rw [log, records, count]
    exact before.in_order
  calls := by
    rw [log]
    exact before.calls
  mutex := moves.all_hold before
  fits other := by
    rw [moves.ops other, records]
    split
    · rename_i same
      exact same ▸ fits
    · exact before.fits other
  deferred id inside := by
    rw [records]
    exact before.deferred id (deferred id inside)
  covered id record given native gone := by
    rw [records] at given
    have either : (id ∈ state.deferred ∨ id ∈ (state.op thread).destroys) ∨
        ∃ other, thread ≠ other ∧ id ∈ (state.op other).destroys := by
      rcases before.covered id record given native gone with waits | ⟨other, inside⟩
      · exact Or.inl (Or.inl waits)
      · by_cases same : thread = other
        · subst same
          exact Or.inl (Or.inr inside)
        · exact Or.inr ⟨other, same, inside⟩
    rcases either with here | ⟨other, apart, inside⟩
    · rcases covered id here with waits | inside
      · exact Or.inl waits
      · exact Or.inr ⟨thread, by rw [moves.ops, if_pos rfl]; exact inside⟩
    · exact Or.inr ⟨other, by rw [moves.ops, if_neg apart]; exact inside⟩
  drained id record given stream owned ended := by
    rw [records] at given
    rcases before.drained id record given stream owned ended with exhausted | leaves
    · exact Or.inl exhausted
    · refine Or.inr ?_
      rw [moves.ops]
      split
      · rename_i same
        rw [← same] at leaves
        exact absurd leaves (stays id)
      · exact leaves
  destructing entered := by
    obtain ⟨already, _⟩ := moves.destructing entered
    obtain ⟨disowned, empty, _⟩ := before.destructing already
    refine ⟨by rw [records]; exact disowned, ?_, moves.all_busy before entered⟩
    apply List.eq_nil_iff_forall_not_mem.mpr
    intro id inside
    have waits := deferred id inside
    rw [empty] at waits
    cases waits

/-- A thread changes one record: its own, or one whose owner is gone. -/
structure Changes (state after : State) (thread id : Nat) (record next : Record) (op : Op) :
    Prop where
  /-- The record is there. -/
  here : state.records id = some record
  /-- No other thread may rely on it. -/
  mine : record.thread = thread ∨ record.owned = false
  /-- Nor does this one afterwards rely on another that it had. -/
  apart : ∀ other, other ≠ thread → (state.op other).record? ≠ some id
  /-- Its thread and its kind stay. -/
  same : next.thread = record.thread ∧ next.kind = record.kind
  /-- The new record is lawful. -/
  lawful : next.Lawful
  /-- An owner does not come back. -/
  disowned : record.owned = false → next.owned = false
  /-- Only this record changes. -/
  records : after.records = Function.update state.records id (some next)
  /-- No number is given. -/
  count : after.count = state.count
  /-- The registry follows the record. -/
  registry : after.registry =
    if next.registered then state.registry else state.registry.filter fun entry => entry ≠ id
  /-- A finished record is not registered again. -/
  finished : next.registered = true → record.registered = true
  /-- What the thread relies on next. -/
  fits : Fits after.records thread op
  /-- Only this record may be deferred. -/
  deferred : ∀ other ∈ after.deferred, other ∈ state.deferred ∨ other = id ∧ next.owned = false
  /-- In the destructor nothing is deferred. -/
  not_deferred : after.destructing = true → after.deferred = state.deferred
  /-- The other cleanups are not lost. -/
  covered : ∀ other, other ≠ id →
    other ∈ state.deferred ∨ other ∈ (state.op thread).destroys →
      other ∈ after.deferred ∨ other ∈ op.destroys
  /-- Nor is that of the record. -/
  covered_here : next.native = true → next.owned = false →
    id ∈ after.deferred ∨ id ∈ op.destroys ∨
      ∃ other, other ≠ thread ∧ id ∈ (state.op other).destroys
  /-- A drained stream is exhausted, or about to be. -/
  drained : next.kind = .stream → next.owned = true → next.state = .drained →
    next.exhausted = true ∨ op = .leaving id true
  /-- The thread leaves no other drained stream behind. -/
  stays : ∀ other, other ≠ id → state.op thread = .leaving other true →
    op = .leaving other true

/-- A change of a record keeps the connection consistent when the calls on its handle are in
order. -/
theorem Consistent.change (before : Consistent state) (moves : Moves state after thread op)
    (id : Nat) (record next : Record) (changes : Changes state after thread id record next op)
    (in_order : ∃ statuses,
      handles.run allFresh (after.log.map NativeCall.use) = some statuses ∧
        (∀ other, statuses other = .live ↔
          ∃ found, after.records other = some found ∧ found.native = true) ∧
        ∀ other, after.count ≤ other → statuses other = .fresh)
    (calls : ∀ call ∈ after.log, call.mutex = some call.thread) : Consistent after where
  lawful other found given := by
    rw [changes.records] at given
    by_cases same : other = id
    · subst same
      rw [Function.update_self] at given
      obtain rfl := Option.some.inj given
      exact changes.lawful
    · rw [Function.update_of_ne same] at given
      exact before.lawful other found given
  bound other beyond := by
    rw [changes.count] at beyond
    have none := before.bound other beyond
    have apart : other ≠ id := by
      rintro rfl
      exact absurd (changes.here.symm.trans none) (by simp)
    rw [changes.records, Function.update_of_ne apart]
    exact none
  exact other := by
    have count := before.exact other
    by_cases same : other = id
    · subst same
      simp only [State.registrations, changes.here, Option.elim_some] at count
      simp only [State.registrations, changes.records, Function.update_self, Option.elim_some]
      rw [changes.registry]
      cases registered : next.registered with
      | true =>
        rw [changes.finished registered] at count
        simpa using count
      | false =>
        have gone : (state.registry.filter fun entry => entry ≠ other).count other = 0 :=
          List.count_eq_zero_of_not_mem (by simp)
        simpa using gone
    · have kept : after.registry.count other = state.registry.count other := by
        rw [changes.registry]
        split
        · rfl
        · rw [List.count_filter (by simpa using same)]
      simp only [State.registrations, changes.records, Function.update_of_ne same] at count ⊢
      exact kept.trans count
  in_order := in_order
  calls := calls
  mutex := moves.all_hold before
  fits other := by
    rw [moves.ops other]
    split
    · rename_i same
      exact same ▸ changes.fits
    · rename_i apart
      rw [changes.records]
      exact (before.fits other).update changes.here (changes.apart other (Ne.symm apart))
        changes.disowned
  deferred other inside := by
    rw [changes.records]
    by_cases same : other = id
    · subst same
      refine ⟨next, Function.update_self _ _ _, ?_⟩
      rcases changes.deferred other inside with waits | ⟨_, gone⟩
      · obtain ⟨found, given, gone⟩ := before.deferred other waits
        obtain rfl := Option.some.inj (changes.here.symm.trans given)
        exact changes.disowned gone
      · exact gone
    · rcases changes.deferred other inside with waits | ⟨here, _⟩
      · obtain ⟨found, given, gone⟩ := before.deferred other waits
        exact ⟨found, (Function.update_of_ne same _ _).trans given, gone⟩
      · exact absurd here same
  covered other found given native gone := by
    have thread_op : after.op thread = op := by rw [moves.ops, if_pos rfl]
    rw [changes.records] at given
    by_cases same : other = id
    · subst same
      rw [Function.update_self] at given
      obtain rfl := Option.some.inj given
      rcases changes.covered_here native gone with waits | inside | ⟨away, apart, inside⟩
      · exact Or.inl waits
      · exact Or.inr ⟨thread, by rw [thread_op]; exact inside⟩
      · exact Or.inr ⟨away, by rw [moves.ops, if_neg (Ne.symm apart)]; exact inside⟩
    · rw [Function.update_of_ne same] at given
      have either : (other ∈ state.deferred ∨ other ∈ (state.op thread).destroys) ∨
          ∃ away, thread ≠ away ∧ other ∈ (state.op away).destroys := by
        rcases before.covered other found given native gone with waits | ⟨away, inside⟩
        · exact Or.inl (Or.inl waits)
        · by_cases here : thread = away
          · subst here
            exact Or.inl (Or.inr inside)
          · exact Or.inr ⟨away, here, inside⟩
      rcases either with here | ⟨away, apart, inside⟩
      · rcases changes.covered other same here with waits | inside
        · exact Or.inl waits
        · exact Or.inr ⟨thread, by rw [thread_op]; exact inside⟩
      · exact Or.inr ⟨away, by rw [moves.ops, if_neg apart]; exact inside⟩
  drained other found given stream owned ended := by
    rw [changes.records] at given
    by_cases same : other = id
    · subst same
      rw [Function.update_self] at given
      obtain rfl := Option.some.inj given
      rcases changes.drained stream owned ended with exhausted | leaves
      · exact Or.inl exhausted
      · refine Or.inr ?_
        have own : next.thread = thread := by
          rcases changes.mine with own | gone
          · exact changes.same.1.trans own
          · rw [changes.disowned gone] at owned
            cases owned
        rw [moves.ops, own, if_pos rfl, leaves]
    · rw [Function.update_of_ne same] at given
      rcases before.drained other found given stream owned ended with exhausted | leaves
      · exact Or.inl exhausted
      · refine Or.inr ?_
        rw [moves.ops]
        split
        · rename_i own
          rw [← own] at leaves
          exact changes.stays other same leaves
        · exact leaves
  destructing entered := by
    obtain ⟨already, _⟩ := moves.destructing entered
    obtain ⟨disowned, empty, _⟩ := before.destructing already
    refine ⟨?_, ?_, moves.all_busy before entered⟩
    · intro other found given
      rw [changes.records] at given
      by_cases same : other = id
      · subst same
        rw [Function.update_self] at given
        obtain rfl := Option.some.inj given
        exact changes.disowned (disowned other record changes.here)
      · rw [Function.update_of_ne same] at given
        exact disowned other found given
    · rw [changes.not_deferred entered]
      exact empty

/-- A thread with the mutex uses a handle that its record has. -/
theorem Consistent.touch (before : Consistent state) (mutex : state.mutex = some thread) {id : Nat}
    {record : Record} (here : state.records id = some record) (native : record.native = true) :
    Consistent (state.call thread (.touch id)) where
  lawful := before.lawful
  bound := before.bound
  exact := before.exact
  in_order := by
    obtain ⟨statuses, ran, live, fresh⟩ := before.in_order
    refine ⟨statuses, ?_, live, fresh⟩
    have living : statuses id = .live := (live id).mpr ⟨record, here, native⟩
    simp only [State.call, List.map_append, List.map_cons, List.map_nil, Machine.run_append, ran,
      Option.bind_some]
    exact run_touch living
  calls call inside := by
    rcases List.mem_append.mp inside with earlier | last
    · exact before.calls call earlier
    · obtain rfl := List.mem_singleton.mp last
      exact mutex
  mutex := before.mutex
  fits := before.fits
  deferred := before.deferred
  covered := before.covered
  drained := before.drained
  destructing := before.destructing

/-- The calls stay in order when a record keeps its handle and no call is made. -/
theorem Consistent.in_order_kept (before : Consistent state) {id : Nat} {record : Record}
    (next : Record) (here : state.records id = some record) (native : next.native = record.native) :
    ∃ statuses, handles.run allFresh (state.log.map NativeCall.use) = some statuses ∧
      (∀ other, statuses other = .live ↔
        ∃ found, Function.update state.records id (some next) other = some found ∧
          found.native = true) ∧
      ∀ other, state.count ≤ other → statuses other = .fresh := by
  obtain ⟨statuses, ran, live, fresh⟩ := before.in_order
  refine ⟨statuses, ran, ?_, fresh⟩
  intro other
  rw [live other]
  by_cases same : other = id
  · subst same
    simp [here, native]
  · rw [Function.update_of_ne same]

/-- The calls stay in order when a record gives its handle up and it is destroyed. -/
theorem Consistent.in_order_destroyed (before : Consistent state) (thread : Nat) {id : Nat}
    {record : Record} (next : Record) (here : state.records id = some record)
    (native : record.native = true) (gone : next.native = false) :
    ∃ statuses, handles.run allFresh
        ((state.call thread (.destroy id)).log.map NativeCall.use) = some statuses ∧
      (∀ other, statuses other = .live ↔
        ∃ found, Function.update state.records id (some next) other = some found ∧
          found.native = true) ∧
      ∀ other, state.count ≤ other → statuses other = .fresh := by
  obtain ⟨statuses, ran, live, fresh⟩ := before.in_order
  have living : statuses id = .live := (live id).mpr ⟨record, here, native⟩
  refine ⟨Function.update statuses id .destroyed, ?_, ?_, ?_⟩
  · simp only [State.call, List.map_append, List.map_cons, List.map_nil, Machine.run_append, ran,
      Option.bind_some]
    exact run_destroy living
  · intro other
    by_cases same : other = id
    · subst same
      simp [gone]
    · rw [Function.update_of_ne same, Function.update_of_ne same]
      exact live other
  · intro other beyond
    have apart : other ≠ id := by
      rintro rfl
      exact absurd (here.symm.trans (before.bound other beyond)) (by simp)
    rw [Function.update_of_ne apart]
    exact fresh other beyond

/-- No other thread works on a record that is a thread's own, or whose owner is gone. -/
theorem Consistent.apart (before : Consistent state) {id : Nat} {record : Record}
    (here : state.records id = some record)
    (mine : record.thread = thread ∨ record.owned = false) (other : Nat) (away : other ≠ thread) :
    (state.op other).record? ≠ some id := by
  intro works
  obtain ⟨found, given, own, owned⟩ := (before.fits other).mine works
  obtain rfl := Option.some.inj (here.symm.trans given)
  rcases mine with same | gone
  · exact away (own.symm.trans same)
  · rw [gone] at owned
    cases owned

/-- A record after its release, without a native handle. -/
def Record.gone (record : Record) : Record :=
  { record with state := .destroyed, native := false, owned := false }

/-- The native calls that the release of a record makes. -/
def releaseCalls (id : Nat) (record : Record) : List (Use Nat) :=
  if record.native then
    match record.kind with
    | .pending => [.touch id, .destroy id]
    | .stream => [.destroy id]
  else []

/-- A log of calls by one thread. -/
def State.calls (state : State) (thread : Nat) (uses : List (Use Nat)) : State :=
  { state with log := state.log ++ uses.map fun use => ⟨thread, state.mutex, use⟩ }

/-- What releasing a record of an owner that is gone does. -/
theorem openResultDestroy_eq (state : State) (thread id : Nat) (record : Record) :
    openResultDestroy state thread id { record with owned := false } =
      unregister ((state.calls thread (releaseCalls id record)).setRecord id record.gone) id := by
  obtain ⟨kind, owner, session, lifecycle, native, owned, exhausted⟩ := record
  cases native <;> cases kind <;>
    simp [openResultDestroy, release, releaseCalls, State.calls, State.call, State.setRecord,
      Record.gone, unregister]

/-- The calls of a release are in order. -/
theorem Consistent.in_order_released (before : Consistent state)
    (mutex : state.mutex = some thread) {id : Nat} {record : Record}
    (here : state.records id = some record) :
    (∃ statuses, handles.run allFresh
        ((state.calls thread (releaseCalls id record)).log.map NativeCall.use) = some statuses ∧
      (∀ other, statuses other = .live ↔
        ∃ found, Function.update state.records id (some record.gone) other = some found ∧
          found.native = true) ∧
      ∀ other, state.count ≤ other → statuses other = .fresh) ∧
    ∀ call ∈ (state.calls thread (releaseCalls id record)).log, call.mutex = some call.thread := by
  refine ⟨?_, ?_⟩
  · cases native : record.native with
    | false =>
      have kept := before.in_order_kept record.gone here native.symm
      simpa [State.calls, releaseCalls, native] using kept
    | true =>
      cases kind : record.kind with
      | stream =>
        have ended := before.in_order_destroyed thread record.gone here native rfl
        simpa [State.calls, State.call, releaseCalls, native, kind] using ended
      | pending =>
        have ended := (before.touch mutex here native).in_order_destroyed thread record.gone
          here native rfl
        simpa [State.calls, State.call, releaseCalls, native, kind] using ended
  · intro call inside
    rcases List.mem_append.mp inside with earlier | last
    · exact before.calls call earlier
    · obtain ⟨use, _, rfl⟩ := List.mem_map.mp last
      exact mutex

/-- A thread with the mutex releases a record, its own or one whose owner is gone. -/
theorem Consistent.destroyed (before : Consistent state) (mutex : state.mutex = some thread)
    {id : Nat} {record : Record} (here : state.records id = some record)
    (mine : record.thread = thread ∨ record.owned = false)
    (moves : Moves state after thread op)
    (result : after = { unregister ((state.calls thread (releaseCalls id record)).setRecord id
      record.gone) id with ops := after.ops, mutex := after.mutex })
    (fits : Fits after.records thread op)
    (covered : ∀ other, other ≠ id → other ∈ (state.op thread).destroys → other ∈ op.destroys)
    (stays : ∀ other, other ≠ id → state.op thread ≠ .leaving other true) : Consistent after := by
  have records : after.records = Function.update state.records id (some record.gone) := by
    rw [result]
    rfl
  have count : after.count = state.count := by
    rw [result]
    rfl
  have deferred : after.deferred = state.deferred := by
    rw [result]
    rfl
  have log : after.log = (state.calls thread (releaseCalls id record)).log := by
    rw [result]
    rfl
  obtain ⟨in_order, calls⟩ := before.in_order_released mutex here
  refine before.change moves id record record.gone ?_ ?_ ?_
  · exact {
      here := here
      mine := mine
      apart := before.apart here mine
      same := ⟨rfl, rfl⟩
      lawful := ⟨rfl, rfl⟩
      disowned := fun _ => rfl
      records := records
      count := count
      registry := by
        rw [result]
        rfl
      finished := by
        intro registered
        cases registered
      fits := fits
      deferred := by
        intro other inside
        rw [deferred] at inside
        exact Or.inl inside
      not_deferred := fun _ => deferred
      covered := by
        intro other apart inside
        rw [deferred]
        exact inside.imp_right (covered other apart)
      covered_here := by
        intro native
        cases native
      drained := by
        intro _ _ ended
        cases ended
      stays := fun other apart leaves => absurd leaves (stays other apart) }
  · rw [log, records, count]
    exact in_order
  · rw [log]
    exact calls

/-- Where a thread is, after one went on. -/
theorem op_update {other : Nat} (ops : after.ops = update thread op state.ops) :
    after.op other = if thread = other then op else state.op other := by
  rw [State.op, ops]
  exact lookup_update Op.idle thread other op state.ops

/-- A thread goes on and leaves the destructor's flag as it is. -/
theorem Moves.intro (ops : after.ops = update thread op state.ops)
    (holds : op.holds = true → after.mutex = some thread)
    (mutex : after.mutex = state.mutex ∨ state.mutex = some thread ∨ state.mutex = none)
    (flag : after.destructing = state.destructing)
    (next : state.destructing = true → op ≠ .idle → op.holds = true) :
    Moves state after thread op where
  ops _ := op_update ops
  holds := holds
  mutex := mutex
  destructing entered := by
    rw [flag] at entered
    exact ⟨entered, next entered⟩

/-- A thread that releases the mutex moves on its own. -/
theorem Moves.unlock (ops : after.ops = update thread .idle state.ops)
    (mutex : state.mutex = some thread) (flag : after.destructing = state.destructing) :
    Moves state after thread .idle :=
  Moves.intro ops (fun holds => by cases holds) (Or.inr (Or.inl mutex)) flag
    fun _ busy => absurd rfl busy

/-- A thread goes on in its critical section. -/
theorem Moves.stay (ops : after.ops = update thread op state.ops)
    (mutex : state.mutex = some thread) (same : after.mutex = state.mutex) (holds : op.holds = true)
    (flag : after.destructing = state.destructing) : Moves state after thread op :=
  Moves.intro ops (fun _ => same.trans mutex) (Or.inl same) flag fun _ _ => holds

/-- A thread that has nothing to destroy leaves its critical section. -/
theorem Consistent.unlock (before : Consistent state) (mutex : state.mutex = some thread)
    (nothing : (state.op thread).destroys = [])
    (stays : ∀ id, state.op thread ≠ .leaving id true) : Consistent (state.unlock thread) := by
  refine before.goOn (Moves.unlock rfl mutex rfl) rfl rfl rfl rfl trivial (fun _ inside => inside)
    ?_ stays
  intro id inside
  rw [nothing] at inside
  exact inside.imp_right fun never => by cases never

/-- A thread begins to wait for the mutex. -/
theorem Consistent.begin (before : Consistent state) (idle : state.op thread = .idle)
    (living : state.destructing = false) {action : Action}
    (begins : state.Begins thread action) :
    Consistent (state.setOp thread (.entering action)) := by
  have moves : Moves state (state.setOp thread (.entering action)) thread (.entering action) :=
    Moves.intro rfl (fun holds => by cases holds) (Or.inl rfl) rfl fun entered => by
      rw [living] at entered
      cases entered
  refine before.goOn moves rfl rfl rfl rfl ?_ (fun _ inside => inside) ?_ ?_
  · cases action with
    | start kind session => trivial
    | other => trivial
    | fetch id =>
      obtain ⟨record, given, stream, own, owned, unread⟩ := begins
      refine ⟨record, given, own, owned, stream, ?_⟩
      have lawful := before.lawful id record given
      cases lifecycle : record.state with
      | opened => simp [Record.registered, lifecycle]
      | errored => simp [Record.registered, lifecycle]
      | drained =>
        rcases before.drained id record given stream owned lifecycle with exhausted | leaves
        · simp [exhausted] at unread
        · rw [own, idle] at leaves
          cases leaves
      | destroyed =>
        simp only [Record.Lawful, lifecycle] at lawful
        rw [lawful.2] at owned
        cases owned
    | step id | cancel id =>
      obtain ⟨record, given, pending, own, owned⟩ := begins
      exact ⟨record, given, own, owned, pending,
        (before.lawful id record given).opened pending owned⟩
    | destroy ids => exact begins.elim
  · intro id inside
    rw [idle] at inside
    exact inside.imp_right fun never => by cases never
  · intro id leaves
    rw [idle] at leaves
    cases leaves

/-- A thread that waits for the free mutex gets it, and the registry stays consistent. -/
theorem Consistent.lock (before : Consistent state) {action : Action}
    (waits : state.op thread = .entering action) (free : state.mutex = none)
    (living : state.destructing = false) :
    Consistent { state.setOp thread (.locked action) with mutex := some thread } := by
  have moves : Moves state { state.setOp thread (.locked action) with mutex := some thread } thread
      (.locked action) :=
    Moves.intro rfl (fun _ => rfl) (Or.inr (Or.inr free)) rfl fun entered => by
      rw [living] at entered
      cases entered
  have fits := before.fits thread
  rw [waits] at fits
  refine before.goOn moves rfl rfl rfl rfl ?_ (fun _ inside => inside) ?_ ?_
  · cases action <;> exact fits
  · intro id inside
    rw [waits] at inside
    refine inside.imp_right fun listed => ?_
    cases action <;> exact listed
  · intro id leaves
    rw [waits] at leaves
    cases leaves

/-- A record's number is not the next one. -/
theorem Consistent.given_ne (before : Consistent state) {id : Nat} {record : Record}
    (given : state.records id = some record) : id ≠ state.count := by
  rintro rfl
  exact absurd (given.symm.trans (before.bound _ (Nat.le_refl _))) (by simp)

/-- A statement started, and its open result is registered. -/
theorem Consistent.register (before : Consistent state) (mutex : state.mutex = some thread)
    (living : state.destructing = false) (kind : Kind) (session : Bool) :
    Consistent (register state thread kind session) where
  lawful id record given := by
    by_cases same : id = state.count
    · subst same
      simp only [OpenResult.register, State.setRecord, State.call, Function.update_self,
        Option.some.injEq] at given
      subst given
      exact ⟨rfl, rfl⟩
    · simp only [OpenResult.register, State.setRecord, State.call,
        Function.update_of_ne same] at given
      exact before.lawful id record given
  bound id beyond := by
    have further : state.count + 1 ≤ id := beyond
    have apart : id ≠ state.count := by omega
    simp only [OpenResult.register, State.setRecord, State.call, Function.update_of_ne apart]
    exact before.bound id (by omega)
  exact id := by
    have count := before.exact id
    simp only [State.registrations, OpenResult.register, State.setRecord, State.call,
      List.count_append, List.count_singleton] at count ⊢
    by_cases same : id = state.count
    · subst same
      rw [before.bound state.count (Nat.le_refl _)] at count
      simpa [Record.registered] using count
    · simpa [Function.update_of_ne same, Ne.symm same] using count
  in_order := by
    obtain ⟨statuses, ran, live, fresh⟩ := before.in_order
    refine ⟨Function.update statuses state.count .live, ?_, ?_, ?_⟩
    · simp only [OpenResult.register, State.setRecord, State.call, List.map_append, List.map_cons,
        List.map_nil, Machine.run_append, ran, Option.bind_some]
      exact run_create (fresh state.count (Nat.le_refl _))
    · intro id
      by_cases same : id = state.count
      · subst same
        simp [OpenResult.register, State.setRecord]
      · simp only [OpenResult.register, State.setRecord, State.call, Function.update_of_ne same]
        exact live id
    · intro id beyond
      have further : state.count + 1 ≤ id := beyond
      have apart : id ≠ state.count := by omega
      rw [Function.update_of_ne apart]
      exact fresh id (by omega)
  calls call inside := by
    rcases List.mem_append.mp inside with earlier | last
    · exact before.calls call earlier
    · obtain rfl := List.mem_singleton.mp last
      exact mutex
  mutex := before.mutex
  fits other := (before.fits other).extend fun _ _ given =>
    (Function.update_of_ne (before.given_ne given) _ _).trans given
  deferred id inside := by
    obtain ⟨record, given, gone⟩ := before.deferred id inside
    exact ⟨record, (Function.update_of_ne (before.given_ne given) _ _).trans given, gone⟩
  covered id record given native gone := by
    by_cases same : id = state.count
    · subst same
      simp only [OpenResult.register, State.setRecord, State.call, Function.update_self,
        Option.some.injEq] at given
      subst given
      cases gone
    · simp only [OpenResult.register, State.setRecord, State.call,
        Function.update_of_ne same] at given
      exact before.covered id record given native gone
  drained id record given stream owned ended := by
    by_cases same : id = state.count
    · subst same
      simp only [OpenResult.register, State.setRecord, State.call, Function.update_self,
        Option.some.injEq] at given
      subst given
      cases ended
    · simp only [OpenResult.register, State.setRecord, State.call,
        Function.update_of_ne same] at given
      exact before.drained id record given stream owned ended
  destructing entered := by
    have already : state.destructing = true := entered
    rw [living] at already
    cases already

/-- A start that failed leaves at most a handle that it destroyed. -/
theorem Consistent.startFailed (before : Consistent state) (mutex : state.mutex = some thread) :
    Consistent { (state.call thread (.create state.count)).call thread (.destroy state.count) with
      count := state.count + 1 } where
  lawful := before.lawful
  bound id beyond := by
    have further : state.count + 1 ≤ id := beyond
    exact before.bound id (by omega)
  exact := before.exact
  in_order := by
    obtain ⟨statuses, ran, live, fresh⟩ := before.in_order
    have unused := fresh state.count (Nat.le_refl _)
    refine ⟨Function.update (Function.update statuses state.count .live) state.count .destroyed,
      ?_, ?_, ?_⟩
    · simp only [State.call, List.map_append, List.map_cons, List.map_nil, List.append_assoc,
        Machine.run_append, ran, Option.bind_some]
      rw [run_create unused, Machine.run_nil, Option.bind_some]
      exact run_destroy (Function.update_self _ _ _)
    · intro id
      by_cases same : id = state.count
      · subst same
        simp [State.call, before.bound state.count (Nat.le_refl _)]
      · rw [Function.update_of_ne same, Function.update_of_ne same]
        exact live id
    · intro id beyond
      have further : state.count + 1 ≤ id := beyond
      have apart : id ≠ state.count := by omega
      rw [Function.update_of_ne apart, Function.update_of_ne apart]
      exact fresh id (by omega)
  calls call inside := by
    rcases List.mem_append.mp inside with earlier | last
    · rcases List.mem_append.mp earlier with first | middle
      · exact before.calls call first
      · obtain rfl := List.mem_singleton.mp middle
        exact mutex
    · obtain rfl := List.mem_singleton.mp last
      exact mutex
  mutex := before.mutex
  fits := before.fits
  deferred := before.deferred
  covered := before.covered
  drained := before.drained
  destructing := before.destructing

/-- A thread that fetches has its own stream, open unless it repeats an error. -/
theorem Consistent.fetching (before : Consistent state) {id : Nat}
    (doing : state.op thread = .locked (.fetch id)) {record : Record}
    (here : state.records id = some record) :
    record.thread = thread ∧ record.owned = true ∧ record.kind = .stream ∧
      record.registered = true ∧ record.native = true ∧ record.exhausted = false := by
  have fits := before.fits thread
  rw [doing] at fits
  obtain ⟨found, given, own, owned, stream, registered⟩ := fits
  obtain rfl := Option.some.inj (here.symm.trans given)
  have lawful := before.lawful id record here
  have native := lawful.native registered
  refine ⟨own, owned, stream, registered, native, ?_⟩
  simp only [Record.registered, Bool.or_eq_true, decide_eq_true_eq] at registered
  rcases registered with opened | errored
  · simp only [Record.Lawful, opened] at lawful
    exact lawful.2
  · simp only [Record.Lawful, errored] at lawful
    exact lawful.2.2

/-- A thread that steps or cancels has its own open pending query. -/
theorem Consistent.stepping (before : Consistent state) {id : Nat}
    (doing : state.op thread = .locked (.step id) ∨ state.op thread = .locked (.cancel id) ∨
      ∃ executed, state.op thread = .settling id executed) {record : Record}
    (here : state.records id = some record) :
    record.thread = thread ∧ record.owned = true ∧ record.kind = .pending ∧
      record.state = .opened ∧ record.native = true := by
  have fits := before.fits thread
  have mine : Mine state.records thread id .pending fun record => record.state = .opened := by
    rcases doing with step | cancel | ⟨executed, settling⟩
    · rw [step] at fits
      exact fits
    · rw [cancel] at fits
      exact fits
    · rw [settling] at fits
      exact fits
  obtain ⟨found, given, own, owned, pending, opened⟩ := mine
  obtain rfl := Option.some.inj (here.symm.trans given)
  have lawful := before.lawful id record here
  simp only [Record.Lawful, opened] at lawful
  exact ⟨own, owned, pending, opened, lawful.1⟩

/-- The registry stays consistent when the fetch of a stream fails. -/
theorem Consistent.streamFailed (before : Consistent state) (mutex : state.mutex = some thread)
    {id : Nat} (doing : state.op thread = .locked (.fetch id)) {record : Record}
    (here : state.records id = some record) :
    Consistent ((state.setRecord id { record with state := .errored }).setOp thread
      (.leaving id false)) := by
  obtain ⟨own, owned, stream, registered, native, unread⟩ := before.fetching doing here
  refine before.change (Moves.stay rfl mutex rfl rfl rfl) id record { record with state := .errored } ?_
    (before.in_order_kept _ here rfl) before.calls
  exact {
    here := here
    mine := Or.inl own
    apart := before.apart here (Or.inl own)
    same := ⟨rfl, rfl⟩
    lawful := ⟨stream, native, unread⟩
    disowned := fun gone => gone
    records := rfl
    count := rfl
    registry := rfl
    finished := fun _ => registered
    fits := ⟨_, Function.update_self _ _ _, own, owned, stream, fun never => by cases never⟩
    deferred := fun _ inside => Or.inl inside
    not_deferred := fun _ => rfl
    covered := by
      intro other apart inside
      rw [doing] at inside
      exact inside.imp_right fun never => by cases never
    covered_here := by
      intro _ gone
      exact absurd (owned.symm.trans gone) (by decide)
    drained := by
      intro _ _ ended
      cases ended
    stays := by
      intro other apart leaves
      rw [doing] at leaves
      cases leaves }

/-- The registry stays consistent when a stream returns its last row. -/
theorem Consistent.streamDrained (before : Consistent state) (mutex : state.mutex = some thread)
    {id : Nat} (doing : state.op thread = .locked (.fetch id)) {record : Record}
    (here : state.records id = some record) :
    Consistent ((openResultDrained state id record).setOp thread (.leaving id true)) := by
  obtain ⟨own, owned, stream, registered, native, unread⟩ := before.fetching doing here
  refine before.change (Moves.stay rfl mutex rfl rfl rfl) id record { record with state := .drained } ?_
    (before.in_order_kept _ here rfl) before.calls
  exact {
    here := here
    mine := Or.inl own
    apart := before.apart here (Or.inl own)
    same := ⟨rfl, rfl⟩
    lawful := ⟨by simp [native, stream], fun pending => by
      rw [stream] at pending
      cases pending⟩
    disowned := fun gone => gone
    records := rfl
    count := rfl
    registry := rfl
    finished := by
      intro never
      cases never
    fits := ⟨_, Function.update_self _ _ _, own, owned, stream, fun _ => rfl⟩
    deferred := fun _ inside => Or.inl inside
    not_deferred := fun _ => rfl
    covered := by
      intro other apart inside
      rw [doing] at inside
      exact inside.imp_right fun never => by cases never
    covered_here := by
      intro _ gone
      exact absurd (owned.symm.trans gone) (by decide)
    drained := fun _ _ _ => Or.inr rfl
    stays := by
      intro other apart leaves
      rw [doing] at leaves
      cases leaves }

/-- Marking a drained stream as exhausted keeps the registry consistent. -/
theorem Consistent.streamExhausted (before : Consistent state)
    (mutex : state.mutex = some thread) {id : Nat} (doing : state.op thread = .leaving id true)
    {record : Record} (here : state.records id = some record) :
    Consistent ((state.setRecord id { record with exhausted := true }).unlock thread) := by
  have fits := before.fits thread
  rw [doing] at fits
  obtain ⟨found, given, own, owned, stream, ended⟩ := fits
  obtain rfl := Option.some.inj (here.symm.trans given)
  have drained : record.state = .drained := ended rfl
  have lawful := before.lawful id record here
  simp only [Record.Lawful, drained] at lawful
  refine before.change (Moves.unlock rfl mutex rfl) id record { record with exhausted := true } ?_
    (before.in_order_kept _ here rfl) before.calls
  exact {
    here := here
    mine := Or.inl own
    apart := before.apart here (Or.inl own)
    same := ⟨rfl, rfl⟩
    lawful := by
      simp only [Record.Lawful, drained]
      exact lawful
    disowned := fun gone => gone
    records := rfl
    count := rfl
    registry := by
      have unregistered : state.registry.count id = 0 := by
        rw [before.exact id]
        simp [State.registrations, here, Record.registered, drained]
      have absent := List.count_eq_zero.mp unregistered
      simp only [Record.registered, drained, reduceCtorEq, decide_false, Bool.or_self,
        Bool.false_eq_true, if_false]
      refine (List.filter_eq_self.mpr ?_).symm
      intro entry inside
      simpa using fun same : entry = id => absent (same ▸ inside)
    finished := fun registered => registered
    fits := trivial
    deferred := fun _ inside => Or.inl inside
    not_deferred := fun _ => rfl
    covered := by
      intro other apart inside
      rw [doing] at inside
      exact inside.imp_right fun never => by cases never
    covered_here := by
      intro _ gone
      exact absurd (owned.symm.trans gone) (by decide)
    drained := fun _ _ _ => Or.inl rfl
    stays := by
      intro other apart leaves
      rw [doing] at leaves
      obtain ⟨rfl, _⟩ := Op.leaving.inj leaves
      exact absurd rfl apart }

/-- Settling a pending query that finished keeps the registry consistent. -/
theorem Consistent.pendingFinished (before : Consistent state)
    (mutex : state.mutex = some thread) {id : Nat} (doing : state.op thread = .settling id true)
    {record : Record} (here : state.records id = some record) :
    Consistent ((taskFinishPending state thread id record).unlock thread) := by
  obtain ⟨own, owned, pending, opened, native⟩ :=
    before.stepping (Or.inr (Or.inr ⟨true, doing⟩)) here
  have touched := before.touch mutex here native
  have moves : Moves (state.call thread (.touch id))
      ((taskFinishPending state thread id record).unlock thread) thread .idle :=
    Moves.unlock rfl mutex rfl
  refine touched.change moves id record
    { record with native := false, owned := false, state := .drained } ?_
    (touched.in_order_destroyed thread _ here native rfl) ?_
  · exact {
      here := here
      mine := Or.inl own
      apart := before.apart here (Or.inl own)
      same := ⟨rfl, rfl⟩
      lawful := ⟨by simp [pending], fun _ => rfl⟩
      disowned := fun _ => rfl
      records := rfl
      count := rfl
      registry := rfl
      finished := by
        intro never
        cases never
      fits := trivial
      deferred := fun _ inside => Or.inl inside
      not_deferred := fun _ => rfl
      covered := by
        intro other apart inside
        refine inside.imp_right fun listed => ?_
        have here_op : (state.op thread).destroys = [] := by rw [doing]; rfl
        have listed' : other ∈ (state.op thread).destroys := listed
        rw [here_op] at listed'
        cases listed'
      covered_here := by
        intro never
        cases never
      drained := by
        intro stream
        rw [pending] at stream
        cases stream
      stays := by
        intro other apart leaves
        exact absurd (doing.symm.trans leaves) (by simp) }
  · intro call inside
    rcases List.mem_append.mp inside with earlier | last
    · exact touched.calls call earlier
    · obtain rfl := List.mem_singleton.mp last
      exact mutex

/-- A thread destroys nothing while it fetches or steps. -/
theorem destroys_of {action : Action} (doing : state.op thread = .locked action)
    (uses : ∀ ids, action ≠ .destroy ids) :
    (state.op thread).destroys = [] ∧ ∀ id, state.op thread ≠ .leaving id true := by
  rw [doing]
  refine ⟨?_, fun id leaves => by cases leaves⟩
  cases action with
  | destroy ids => exact absurd rfl (uses ids)
  | start | fetch | step | cancel | other => rfl

/-- The end of a fetch keeps the registry consistent. -/
theorem Consistent.fetched (before : Consistent state) {id : Nat}
    (doing : state.op thread = .locked (.fetch id)) {record : Record}
    (here : state.records id = some record) {outcome : Fetched}
    (stepped : fetched state thread id record outcome = some after) : Consistent after := by
  have mutex : state.mutex = some thread := before.mutex thread (by rw [doing]; rfl)
  obtain ⟨_, _, _, _, native, _⟩ := before.fetching doing here
  have touched := before.touch mutex here native
  obtain ⟨nothing, stays⟩ := destroys_of doing (fun ids same => by cases same)
  unfold OpenResult.fetched at stepped
  split at stepped
  · obtain rfl := Option.some.inj stepped
    exact before.unlock mutex nothing stays
  · cases outcome with
    | refused =>
      dsimp only at stepped
      split at stepped
      · obtain rfl := Option.some.inj stepped
        exact before.unlock mutex nothing stays
      · cases stepped
    | chunk =>
      obtain rfl := Option.some.inj stepped
      exact touched.unlock mutex nothing stays
    | failed =>
      obtain rfl := Option.some.inj stepped
      exact touched.streamFailed mutex doing here
    | ended =>
      obtain rfl := Option.some.inj stepped
      exact touched.streamDrained mutex doing here

/-- A thread that has stepped a pending query ends its session. -/
theorem Consistent.settling (before : Consistent state) {id : Nat}
    (doing : state.op thread = .locked (.step id)) {record : Record}
    (here : state.records id = some record) (executed : Bool) :
    Consistent (state.setOp thread (.settling id executed)) := by
  have mutex : state.mutex = some thread := before.mutex thread (by rw [doing]; rfl)
  obtain ⟨own, owned, pending, opened, _⟩ := before.stepping (Or.inl doing) here
  obtain ⟨nothing, stays⟩ := destroys_of doing (fun ids same => by cases same)
  refine before.goOn (Moves.stay rfl mutex rfl rfl rfl) rfl rfl rfl rfl
    ⟨record, here, own, owned, pending, opened⟩ (fun _ inside => inside) ?_ stays
  intro other inside
  rw [nothing] at inside
  exact inside.imp_right fun never => by cases never

/-- The end of a step of a polled query keeps the registry consistent. -/
theorem Consistent.stepped (before : Consistent state) {id : Nat}
    (doing : state.op thread = .locked (.step id)) {record : Record}
    (here : state.records id = some record) {outcome : Stepped}
    (stepped : stepped state thread id record outcome = some after) : Consistent after := by
  have mutex : state.mutex = some thread := before.mutex thread (by rw [doing]; rfl)
  obtain ⟨_, _, _, _, native⟩ := before.stepping (Or.inl doing) here
  have touched := before.touch mutex here native
  obtain ⟨nothing, stays⟩ := destroys_of doing (fun ids same => by cases same)
  cases outcome with
  | refused =>
    simp only [OpenResult.stepped] at stepped
    split at stepped
    · obtain rfl := Option.some.inj stepped
      exact before.settling doing here false
    · cases stepped
  | notReady =>
    obtain rfl := Option.some.inj stepped
    exact touched.unlock mutex nothing stays
  | executed =>
    obtain rfl := Option.some.inj stepped
    exact touched.settling doing here true

/-- A thread that cancels its task, or whose lease was refused, destroys its record. -/
theorem Consistent.cancelled (before : Consistent state) {id : Nat}
    (doing : state.op thread = .locked (.cancel id) ∨ state.op thread = .settling id false)
    {record : Record} (here : state.records id = some record) :
    Consistent ((openResultDestroy state thread id { record with owned := false }).unlock
      thread) := by
  have mutex : state.mutex = some thread := by
    apply before.mutex thread
    rcases doing with cancel | settling
    · rw [cancel]
      rfl
    · rw [settling]
      rfl
  have own : record.thread = thread := by
    have stepping : state.op thread = .locked (.step id) ∨ state.op thread = .locked (.cancel id) ∨
        ∃ executed, state.op thread = .settling id executed :=
      Or.inr (doing.imp_right fun settling => ⟨false, settling⟩)
    exact (before.stepping stepping here).1
  rw [openResultDestroy_eq]
  refine before.destroyed mutex here (Or.inl own) (Moves.unlock rfl mutex rfl) rfl trivial ?_ ?_
  · intro other _ inside
    rcases doing with cancel | settling
    · rw [cancel] at inside
      cases inside
    · rw [settling] at inside
      cases inside
  · intro other _ leaves
    rcases doing with cancel | settling
    · exact absurd (cancel.symm.trans leaves) (by simp)
    · exact absurd (settling.symm.trans leaves) (by simp)

/-- A cleanup destroys the record of an owner that is gone. -/
theorem Consistent.cleaned (before : Consistent state) {id : Nat} {rest : List Nat}
    (doing : state.op thread = .locked (.destroy (id :: rest)))
    {record : Record} (here : state.records id = some record) :
    Consistent ((openResultDestroy state thread id record).setOp thread
      (.locked (.destroy rest))) := by
  have mutex : state.mutex = some thread := before.mutex thread (by rw [doing]; rfl)
  have fits := before.fits thread
  rw [doing] at fits
  obtain ⟨found, given, gone⟩ := fits id List.mem_cons_self
  obtain rfl := Option.some.inj (here.symm.trans given)
  have same : { record with owned := false } = record := by
    rw [← gone]
  have cleaned := openResultDestroy_eq state thread id record
  rw [same] at cleaned
  rw [cleaned]
  refine before.destroyed mutex here (Or.inr gone) (Moves.stay rfl mutex rfl rfl rfl) rfl ?_ ?_ ?_
  · intro other inside
    by_cases here_too : other = id
    · subst here_too
      exact ⟨_, Function.update_self _ _ _, rfl⟩
    · obtain ⟨kept, there, away⟩ := fits other (List.mem_cons_of_mem id inside)
      exact ⟨kept, (Function.update_of_ne here_too _ _).trans there, away⟩
  · intro other apart inside
    rw [doing] at inside
    rcases List.mem_cons.mp inside with never | listed
    · exact absurd never apart
    · exact listed
  · intro other _ leaves
    exact absurd (doing.symm.trans leaves) (by simp)

/-- The rest of a critical section keeps the connection consistent. -/
theorem Consistent.settle (before : Consistent state)
    (stepped : settle state thread (state.op thread) = some after) : Consistent after := by
  have mutex : (state.op thread).holds = true → state.mutex = some thread := before.mutex thread
  cases doing : state.op thread with
  | idle | entering action => rw [doing] at stepped; cases stepped
  | locked action =>
    rw [doing] at stepped mutex
    cases action with
    | start | fetch | step => cases stepped
    | cancel id =>
      obtain ⟨record, here, rfl⟩ := Option.map_eq_some_iff.mp stepped
      exact before.cancelled (Or.inl doing) here
    | other =>
      obtain rfl := Option.some.inj stepped
      obtain ⟨nothing, stays⟩ := destroys_of doing (fun ids same => by cases same)
      exact before.unlock (mutex rfl) nothing stays
    | destroy ids =>
      cases ids with
      | nil =>
        obtain rfl := Option.some.inj stepped
        exact before.unlock (mutex rfl) (by rw [doing]; rfl) fun id leaves =>
          absurd (doing.symm.trans leaves) (by simp)
      | cons id rest =>
        obtain ⟨record, here, rfl⟩ := Option.map_eq_some_iff.mp stepped
        exact before.cleaned doing here
  | settling id executed =>
    rw [doing] at stepped
    obtain ⟨record, here, rfl⟩ := Option.map_eq_some_iff.mp stepped
    cases executed with
    | true => exact before.pendingFinished (before.mutex thread (by rw [doing]; rfl)) doing here
    | false => exact before.cancelled (Or.inr doing) here
  | leaving id drained =>
    rw [doing] at stepped mutex
    obtain ⟨record, here, rfl⟩ := Option.map_eq_some_iff.mp stepped
    cases drained with
    | true => exact before.streamExhausted (mutex rfl) doing here
    | false =>
      exact before.unlock (mutex rfl) (by rw [doing]; rfl) fun other leaves =>
        absurd (doing.symm.trans leaves) (by simp)

/-- The owner of a record is destroyed, and its cleanup is deferred or waits for the mutex. -/
theorem Consistent.releaseOwner (before : Consistent state) (living : state.destructing = false)
    {id : Nat} {record : Record} (here : state.records id = some record)
    (stepped : releaseOwner state thread id record = some after) : Consistent after := by
  unfold OpenResult.releaseOwner at stepped
  split at stepped
  · cases stepped
  · rename_i allowed
    push Not at allowed
    obtain ⟨own, owned, free⟩ := allowed
    have kept := before.in_order_kept { record with owned := false } here rfl
    have lawful : ({ record with owned := false } : Record).Lawful := by
      have old := before.lawful id record here
      cases lifecycle : record.state with
      | opened | errored =>
        simp only [Record.Lawful, lifecycle] at old ⊢
        exact old
      | drained =>
        simp only [Record.Lawful, lifecycle] at old ⊢
        exact ⟨old.1, fun _ => trivial⟩
      | destroyed =>
        simp only [Record.Lawful, lifecycle] at old ⊢
        exact ⟨old.1, trivial⟩
    have registry : state.registry =
        if ({ record with owned := false } : Record).registered then state.registry
        else state.registry.filter fun entry => entry ≠ id := by
      split
      · rfl
      · rename_i unregistered
        have count := before.exact id
        have absent : state.registry.count id = 0 := by
          rw [count]
          simp only [State.registrations, here, Option.elim_some]
          exact if_neg unregistered
        refine (List.filter_eq_self.mpr ?_).symm
        intro entry inside
        simpa using fun same : entry = id => List.count_eq_zero.mp absent (same ▸ inside)
    have disowned : ∀ op, (∀ other, op.record? = some other → other ≠ id) →
        Fits state.records thread op →
        Fits (Function.update state.records id (some { record with owned := false })) thread op :=
      fun op apart fits => fits.update here (fun works => apart id works rfl) fun _ => rfl
    dsimp only at stepped
    split at stepped
    · -- A handler runs on this thread: the cleanup waits for a drain.
      obtain rfl := Option.some.inj stepped
      have moves : Moves state { state.setRecord id { record with owned := false } with
          deferred := state.deferred ++ [id] } thread (state.op thread) := by
        refine ⟨fun other => ?_, before.mutex thread, Or.inl rfl, fun entered => ?_⟩
        · split
          · rename_i same
            rw [← same]
            rfl
          · rfl
        · have entered' : state.destructing = true := entered
          rw [living] at entered'
          cases entered'
      refine before.change moves id record { record with owned := false } ?_ kept before.calls
      exact {
        here := here
        mine := Or.inl own
        apart := before.apart here (Or.inl own)
        same := ⟨rfl, rfl⟩
        lawful := lawful
        disowned := fun _ => rfl
        records := rfl
        count := rfl
        registry := registry
        finished := fun registered => registered
        fits := disowned _ (fun other works same => free (same ▸ works)) (before.fits thread)
        deferred := by
          intro other inside
          rcases List.mem_append.mp inside with earlier | last
          · exact Or.inl earlier
          · exact Or.inr ⟨List.mem_singleton.mp last, rfl⟩
        not_deferred := by
          intro entered
          have entered' : state.destructing = true := entered
          rw [living] at entered'
          cases entered'
        covered := fun other _ inside => inside.imp_left (List.mem_append_left _)
        covered_here := fun _ _ => Or.inl (List.mem_append_right _ (List.mem_singleton_self id))
        drained := by
          intro _ never
          cases never
        stays := fun other _ leaves => leaves }
    · split at stepped
      · rename_i idle
        obtain rfl := Option.some.inj stepped
        have moves : Moves state ((state.setRecord id { record with owned := false }).setOp thread
            (.entering (.destroy [id]))) thread (.entering (.destroy [id])) :=
          Moves.intro rfl (fun holds => by cases holds) (Or.inl rfl) rfl fun entered => by
            rw [living] at entered
            cases entered
        refine before.change moves id record { record with owned := false } ?_ kept before.calls
        exact {
          here := here
          mine := Or.inl own
          apart := before.apart here (Or.inl own)
          same := ⟨rfl, rfl⟩
          lawful := lawful
          disowned := fun _ => rfl
          records := rfl
          count := rfl
          registry := registry
          finished := fun registered => registered
          fits := by
            intro other inside
            obtain rfl := List.mem_singleton.mp inside
            exact ⟨_, Function.update_self _ _ _, rfl⟩
          deferred := fun _ inside => Or.inl inside
          not_deferred := fun _ => rfl
          covered := by
            intro other _ inside
            rw [idle] at inside
            exact inside.imp_right fun never => by cases never
          covered_here := fun _ _ => Or.inr (Or.inl (List.mem_singleton_self id))
          drained := by
            intro _ never
            cases never
          stays := by
            intro other _ leaves
            rw [idle] at leaves
            cases leaves }
      · cases stepped

/-- A handler starts or ends, and no open result changes. -/
theorem Consistent.handler (before : Consistent state) (depth owner : Nat) :
    Consistent { state with handlerDepth := depth, handlerThread := owner } where
  lawful := before.lawful
  bound := before.bound
  exact := before.exact
  in_order := before.in_order
  calls := before.calls
  mutex := before.mutex
  fits := before.fits
  deferred := before.deferred
  covered := before.covered
  drained := before.drained
  destructing := before.destructing

/-- A thread that takes the deferred cleanups keeps the registry consistent. -/
theorem Consistent.drain (before : Consistent state) (idle : state.op thread = .idle)
    (living : state.destructing = false) :
    Consistent { state.setOp thread (.entering (.destroy state.deferred)) with
      deferred := [] } := by
  have moves : Moves state { state.setOp thread (.entering (.destroy state.deferred)) with
      deferred := [] } thread (.entering (.destroy state.deferred)) :=
    Moves.intro rfl (fun holds => by cases holds) (Or.inl rfl) rfl fun entered => by
      rw [living] at entered
      cases entered
  refine before.goOn moves rfl rfl rfl rfl before.deferred (fun _ never => by cases never) ?_ ?_
  · intro id inside
    rw [idle] at inside
    rcases inside with waits | never
    · exact Or.inr waits
    · cases never
  · intro id leaves
    rw [idle] at leaves
    cases leaves

/-- The destructor takes the mutex and what is deferred, when no owner is left and no thread is
busy. -/
theorem Consistent.destruct (before : Consistent state)
    (idle : ∀ entry ∈ state.ops, entry.2 = Op.idle)
    (disowned : ∀ id record, state.records id = some record → record.owned = false) :
    Consistent (destruct state thread) := by
  have all_idle : ∀ other, state.op other = .idle := by
    intro other
    cases found : find other state.ops with
    | none => simp [State.op, lookup, found]
    | some op =>
      have inside := mem_of_find found
      rw [State.op, lookup, found]
      exact idle _ inside
  have ops : ∀ other, (OpenResult.destruct state thread).op other =
      if thread = other then .locked (.destroy state.deferred) else state.op other :=
    fun other => op_update rfl
  refine {
    lawful := before.lawful
    bound := before.bound
    exact := before.exact
    in_order := before.in_order
    calls := before.calls
    mutex := ?_
    fits := ?_
    deferred := fun _ never => by cases never
    covered := ?_
    drained := ?_
    destructing := fun _ => ⟨disowned, rfl, ?_⟩ }
  · intro other holds
    rw [ops, all_idle] at holds
    split at holds
    · rename_i same
      rw [← same]
      rfl
    · cases holds
  · intro other
    rw [ops, all_idle]
    split
    · exact before.deferred
    · trivial
  · intro id record given native gone
    refine Or.inr ⟨thread, ?_⟩
    rw [ops, if_pos rfl]
    rcases before.covered id record given native gone with waits | ⟨other, inside⟩
    · exact waits
    · rw [all_idle] at inside
      cases inside
  · intro id record given _ owned
    have gone := disowned id record given
    rw [owned] at gone
    cases gone
  · intro other busy
    rw [ops, all_idle] at busy ⊢
    split
    · rfl
    · rename_i apart
      rw [if_neg apart] at busy
      exact absurd rfl busy

/-- Every step keeps the connection consistent. -/
theorem Consistent.step {event : Event} (before : Consistent state)
    (stepped : step state event = some after) : Consistent after := by
  unfold OpenResult.step at stepped
  split at stepped
  · cases event with
    | settle thread => exact before.settle stepped
    | _ => cases stepped
  · rename_i alive
    have living : state.destructing = false := Bool.eq_false_iff.mpr alive
    cases event with
    | begin thread action =>
      dsimp only at stepped
      split at stepped
      · cases stepped
      · rename_i allowed
        push Not at allowed
        obtain ⟨idle, _, begins⟩ := allowed
        obtain rfl := Option.some.inj stepped
        exact before.begin idle living begins
    | release thread id =>
      obtain ⟨record, here, released⟩ := Option.bind_eq_some_iff.mp stepped
      exact before.releaseOwner living here released
    | lock thread =>
      dsimp only at stepped
      split at stepped
      · rename_i waits free
        obtain rfl := Option.some.inj stepped
        exact before.lock waits free living
      · cases stepped
    | started thread outcome =>
      dsimp only at stepped
      split at stepped
      · rename_i kind session doing
        have mutex : state.mutex = some thread := before.mutex thread (by rw [doing]; rfl)
        obtain ⟨nothing, stays⟩ := destroys_of doing (fun ids same => by cases same)
        cases outcome with
        | opened =>
          obtain rfl := Option.some.inj stepped
          exact (before.register mutex living kind session).unlock mutex nothing stays
        | failed handle =>
          dsimp only at stepped
          split at stepped
          · obtain rfl := Option.some.inj stepped
            exact (before.startFailed mutex).unlock mutex nothing stays
          · obtain rfl := Option.some.inj stepped
            exact before.unlock mutex nothing stays
      · cases stepped
    | fetched thread outcome =>
      dsimp only at stepped
      split at stepped
      · rename_i id doing
        obtain ⟨record, here, fetched⟩ := Option.bind_eq_some_iff.mp stepped
        exact before.fetched doing here fetched
      · cases stepped
    | stepped thread outcome =>
      dsimp only at stepped
      split at stepped
      · rename_i id doing
        obtain ⟨record, here, away⟩ := Option.bind_eq_some_iff.mp stepped
        exact before.stepped doing here away
      · cases stepped
    | settle thread => exact before.settle stepped
    | enter thread =>
      dsimp only at stepped
      split at stepped
      · cases stepped
      · obtain rfl := Option.some.inj stepped
        exact before.handler _ _
    | leave thread =>
      dsimp only at stepped
      split at stepped
      · obtain rfl := Option.some.inj stepped
        exact before.handler _ _
      · cases stepped
    | drain thread =>
      dsimp only at stepped
      split at stepped
      · cases stepped
      · rename_i allowed
        push Not at allowed
        obtain rfl := Option.some.inj stepped
        exact before.drain allowed.1 living
    | destruct thread =>
      dsimp only at stepped
      split at stepped
      · rename_i allowed
        obtain ⟨free, _, idle, disowned⟩ := allowed
        obtain rfl := Option.some.inj stepped
        refine before.destruct idle ?_
        intro id record given
        have inside : id < state.count := by
          by_contra beyond
          exact absurd (given.symm.trans (before.bound id (Nat.not_lt.mp beyond))) (by simp)
        simpa using (disowned id inside record given).1
      · cases stepped

end Steps

/-- Records stay, and the finished ones stay finished. -/
def Lasts (records others : Nat → Option Record) : Prop :=
  ∀ id record, records id = some record →
    ∃ later, others id = some later ∧ (record.Finished → later.Finished)

/-- Records that did not change stay what they are. -/
theorem Lasts.refl (records : Nat → Option Record) : Lasts records records :=
  fun _ record given => ⟨record, given, fun finished => finished⟩

/-- Records that last through two changes last through both. -/
theorem Lasts.trans {first second third : Nat → Option Record} (early : Lasts first second)
    (late : Lasts second third) : Lasts first third := by
  intro id record given
  obtain ⟨middle, there, kept⟩ := early id record given
  obtain ⟨later, last, still⟩ := late id middle there
  exact ⟨later, last, fun finished => still (kept finished)⟩

/-- A record changes, and is finished if it was. -/
theorem Lasts.update {records : Nat → Option Record} {id : Nat} (next : Record)
    (keeps : ∀ record, records id = some record → record.Finished → next.Finished) :
    Lasts records (Function.update records id (some next)) := by
  intro other record given
  by_cases same : other = id
  · subst same
    exact ⟨next, Function.update_self _ _ _, keeps record given⟩
  · exact ⟨record, (Function.update_of_ne same _ _).trans given, fun finished => finished⟩

/-- A release leaves a record that is destroyed for good. -/
theorem Lasts.destroyed (state : State) (thread id : Nat) (record : Record) :
    Lasts state.records (openResultDestroy state thread id record).records := by
  have records : (openResultDestroy state thread id record).records =
      Function.update state.records id
        (some { record with state := .destroyed, native := false }) := by
    obtain ⟨kind, owner, session, lifecycle, native, owned, exhausted⟩ := record
    cases native <;> cases kind <;> rfl
  rw [records]
  exact Lasts.update _ fun _ _ _ => Or.inr rfl

section Steps

variable {state after : State} {thread : Nat}

/-- The rest of a critical section keeps finished records finished. -/
theorem settle_lasts (stepped : settle state thread (state.op thread) = some after) :
    Lasts state.records after.records := by
  cases doing : state.op thread with
  | idle | entering action => rw [doing] at stepped; cases stepped
  | locked action =>
    rw [doing] at stepped
    cases action with
    | start | fetch | step => cases stepped
    | cancel id =>
      obtain ⟨record, _, rfl⟩ := Option.map_eq_some_iff.mp stepped
      exact Lasts.destroyed state thread id _
    | other =>
      obtain rfl := Option.some.inj stepped
      exact Lasts.refl _
    | destroy ids =>
      cases ids with
      | nil =>
        obtain rfl := Option.some.inj stepped
        exact Lasts.refl _
      | cons id rest =>
        obtain ⟨record, _, rfl⟩ := Option.map_eq_some_iff.mp stepped
        exact Lasts.destroyed state thread id record
  | settling id executed =>
    rw [doing] at stepped
    obtain ⟨record, _, rfl⟩ := Option.map_eq_some_iff.mp stepped
    cases executed with
    | true => exact Lasts.update _ fun _ _ _ => Or.inl rfl
    | false => exact Lasts.destroyed state thread id _
  | leaving id drained =>
    rw [doing] at stepped
    obtain ⟨record, here, rfl⟩ := Option.map_eq_some_iff.mp stepped
    cases drained with
    | true =>
      refine Lasts.update _ fun found given finished => ?_
      obtain rfl := Option.some.inj (here.symm.trans given)
      exact finished
    | false => exact Lasts.refl _

/-- A fetch keeps finished records finished: it never fetches from one. -/
theorem fetched_lasts (before : Consistent state) {id : Nat}
    (doing : state.op thread = .locked (.fetch id)) {record : Record}
    (here : state.records id = some record) {outcome : Fetched}
    (stepped : fetched state thread id record outcome = some after) :
    Lasts state.records after.records := by
  obtain ⟨_, _, _, registered, _, _⟩ := before.fetching doing here
  unfold OpenResult.fetched at stepped
  split at stepped
  · obtain rfl := Option.some.inj stepped
    exact Lasts.refl _
  · cases outcome with
    | refused =>
      dsimp only at stepped
      split at stepped
      · obtain rfl := Option.some.inj stepped
        exact Lasts.refl _
      · cases stepped
    | chunk =>
      obtain rfl := Option.some.inj stepped
      exact Lasts.refl _
    | failed =>
      obtain rfl := Option.some.inj stepped
      refine Lasts.update _ fun found given finished => ?_
      obtain rfl := Option.some.inj (here.symm.trans given)
      rcases finished with drained | destroyed
      · simp [Record.registered, drained] at registered
      · simp [Record.registered, destroyed] at registered
    | ended =>
      obtain rfl := Option.some.inj stepped
      exact Lasts.update _ fun _ _ _ => Or.inl rfl

/-- Every step keeps finished records finished. -/
theorem step_lasts {event : Event} (before : Consistent state)
    (stepped : step state event = some after) : Lasts state.records after.records := by
  unfold step at stepped
  split at stepped
  · cases event with
    | settle thread => exact settle_lasts stepped
    | _ => cases stepped
  · cases event with
    | begin thread action =>
      dsimp only at stepped
      split at stepped
      · cases stepped
      · obtain rfl := Option.some.inj stepped
        exact Lasts.refl _
    | release thread id =>
      obtain ⟨record, here, released⟩ := Option.bind_eq_some_iff.mp stepped
      have disowned : Lasts state.records
          (Function.update state.records id (some { record with owned := false })) := by
        refine Lasts.update _ fun found given finished => ?_
        obtain rfl := Option.some.inj (here.symm.trans given)
        exact finished
      unfold releaseOwner at released
      split at released
      · cases released
      · dsimp only at released
        split at released
        · obtain rfl := Option.some.inj released
          exact disowned
        · split at released
          · obtain rfl := Option.some.inj released
            exact disowned
          · cases released
    | lock thread =>
      dsimp only at stepped
      split at stepped
      · obtain rfl := Option.some.inj stepped
        exact Lasts.refl _
      · cases stepped
    | started thread outcome =>
      dsimp only at stepped
      split at stepped
      · cases outcome with
        | opened =>
          obtain rfl := Option.some.inj stepped
          refine Lasts.update _ fun found given _ => ?_
          exact absurd rfl (before.given_ne given)
        | failed handle =>
          dsimp only at stepped
          split at stepped
          · obtain rfl := Option.some.inj stepped
            exact Lasts.refl _
          · obtain rfl := Option.some.inj stepped
            exact Lasts.refl _
      · cases stepped
    | fetched thread outcome =>
      dsimp only at stepped
      split at stepped
      · rename_i id doing
        obtain ⟨record, here, fetched⟩ := Option.bind_eq_some_iff.mp stepped
        exact fetched_lasts before doing here fetched
      · cases stepped
    | stepped thread outcome =>
      dsimp only at stepped
      split at stepped
      · rename_i id doing
        obtain ⟨record, here, away⟩ := Option.bind_eq_some_iff.mp stepped
        cases outcome with
        | refused =>
          simp only [OpenResult.stepped] at away
          split at away
          · obtain rfl := Option.some.inj away
            exact Lasts.refl _
          · cases away
        | notReady | executed =>
          obtain rfl := Option.some.inj away
          exact Lasts.refl _
      · cases stepped
    | settle thread => exact settle_lasts stepped
    | enter thread | leave thread | drain thread | destruct thread =>
      dsimp only at stepped
      split at stepped <;> cases stepped
      exact Lasts.refl _

end Steps

/-- Every step of the machine keeps the connection consistent. -/
theorem registry_consistent (state : State) (event : Event) (after : State)
    (before : Consistent state) (stepped : registry.step state event = some after) :
    Consistent after :=
  before.step stepped

/-- A run keeps the connection consistent. -/
theorem run_consistent {first last : State} {events : List Event} (before : Consistent first)
    (ran : registry.run first events = some last) : Consistent last :=
  Machine.run_preserves registry_consistent before ran

/-- A run keeps finished records finished. -/
theorem run_lasts {first last : State} {events : List Event} (before : Consistent first)
    (ran : registry.run first events = some last) : Lasts first.records last.records :=
  @Machine.Reaches.relates _ _ registry Consistent
    (fun state later => Lasts state.records later.records) registry_consistent
    (fun state => Lasts.refl state.records) (fun _ _ _ early late => early.trans late)
    (fun _ _ _ holds stepped => step_lasts holds stepped) first last ⟨events, ran⟩ before

/-- What every step keeps says what holds of the open results. -/
theorem Consistent.registered {state : State} (holds : Consistent state) : Registered state where
  exact := holds.exact
  in_order := by
    obtain ⟨statuses, ran, live, _⟩ := holds.in_order
    exact ⟨statuses, ran, live⟩
  destroyed_once id := by
    obtain ⟨statuses, ran, live, _⟩ := holds.in_order
    rw [destroyed_once ran id]
    simp only [ne_eq, live id]
  under_mutex := holds.calls
  natives id record given := by
    have lawful := holds.lawful id record given
    refine ⟨lawful.native, fun destroyed => ?_, fun drained => ?_⟩
    · simp only [Record.Lawful, destroyed] at lawful
      exact lawful.1
    · simp only [Record.Lawful, drained] at lawful
      exact lawful.1
  gone destructing free id record given := by
    obtain ⟨disowned, empty, busy⟩ := holds.destructing destructing
    by_contra native
    have living : record.native = true := Bool.not_eq_false _ ▸ native
    rcases holds.covered id record given living (disowned id record given) with waits | destroys
    · rw [empty] at waits
      cases waits
    · obtain ⟨thread, inside⟩ := destroys
      have held : (state.op thread).holds = true := by
        apply busy thread
        intro idle
        rw [idle] at inside
        cases inside
      exact absurd (free.symm.trans (holds.mutex thread held)) (by simp)

/-- After every run on a connection the registry is exact, the native handles are used in order
under the mutex and each is destroyed once, and no later step opens a finished record again. -/
theorem registry_exact (events : List Event) (last : State)
    (ran : registry.run .fresh events = some last) :
    Registered last ∧ ∀ (more : List Event) (final : State),
      registry.run last more = some final → ∀ id record, last.records id = some record →
        record.Finished → ∃ later, final.records id = some later ∧ later.Finished := by
  have holds := run_consistent consistent_fresh ran
  refine ⟨holds.registered, ?_⟩
  intro more final further id record given finished
  obtain ⟨later, there, still⟩ := run_lasts holds further id record given
  exact ⟨later, there, still finished⟩

/-- A stream is read to its end and released in a handler; a pending query loses its lease. -/
def streamAndPending : List Event :=
  [.begin 1 (.start .stream false), .lock 1, .started 1 .opened,
    .begin 1 (.fetch 0), .lock 1, .fetched 1 .chunk,
    .begin 1 (.fetch 0), .lock 1, .fetched 1 .ended, .settle 1,
    .begin 1 (.start .pending true), .lock 1, .started 1 .opened,
    .begin 1 (.step 1), .lock 1, .stepped 1 .refused, .settle 1,
    .enter 1, .release 1 0, .leave 1,
    .drain 1, .lock 1, .settle 1, .settle 1, .destruct 1, .settle 1]

/-- A run with a stream and a pending query leaves both records destroyed. -/
theorem registry_exact_streamAndPending :
    ∃ last, registry.run .fresh streamAndPending = some last ∧
      (Registered last ∧ ∀ (more : List Event) (final : State),
        registry.run last more = some final → ∀ id record, last.records id = some record →
          record.Finished → ∃ later, final.records id = some later ∧ later.Finished) :=
  ⟨_, rfl, registry_exact streamAndPending _ rfl⟩

end PhpDuckdb.OpenResult
