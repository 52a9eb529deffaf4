import PhpDuckdb.Logging.Storage

/-!
# Accounting of the log storage

The unsigned counter of a storage equals the sizes of what it buffers, and the loop that evicts
never meets an empty queue: with nothing buffered the counter is zero and the capacity is not
reached. `storage_accounts` lifts this to every interleaving of writes and drains, with the place
of every write that was ever entered.
-/

namespace PhpDuckdb.Logging

/-- The sizes of the buffered entries. -/
def State.buffered (layout : Layout) (state : State) : Nat :=
  (state.entries.map fun entry => entry.2.bytes layout).sum

/-- How often a write is in flight with the mutex, or popped by the write that holds it. -/
def Holder.places (holder : Holder) (id : Nat) : Nat :=
  (if holder.id = id then 1 else 0) + if holder.victim = some id then 1 else 0

/-- How often a write is in flight, buffered, drained or counted as dropped. -/
def State.places (state : State) (id : Nat) : Nat :=
  ((state.flight id).elim 0 fun _ => 1) + (state.holder.elim 0 fun held => held.places id) +
    (state.entries.map Prod.fst).count id + state.drained.count id + state.counted.count id

/-- How many places a write has: one from the moment it is entered. -/
def entered (started id : Nat) : Nat := if id < started then 1 else 0

/-- An event of the write that holds the mutex and meets no failure. -/
def Event.OfHolder (event : Event) : Prop :=
  event = .evict ∨ event = .dropVictim ∨ event = .push

/-- What holds of a storage at every moment. -/
structure Accounts (layout : Layout) (capacity : Nat) (state : State) : Prop where
  /-- The counter is the sum of the buffered sizes. -/
  bytes_eq : state.bytes = state.buffered layout
  /-- The counter stays within the budget. -/
  bytes_le : state.bytes ≤ logStorageMaxBytes
  /-- The queue stays within the capacity. -/
  length_le : state.entries.length ≤ capacity
  /-- No front of an empty queue was popped. -/
  no_underflow : state.underflow = false
  /-- A holder evicts at most what it found. -/
  evicted : ∀ holder, state.holder = some holder →
    holder.evicted + state.entries.length = holder.found
  /-- A holder's loop ends: some of its own steps store its entry. -/
  terminates : state.holder.isSome →
    ∃ events last, (∀ event ∈ events, event.OfHolder) ∧
      (storage layout capacity).run state events = some last ∧ last.holder = none
  /-- The queue is the end of what was accepted since the last drain. -/
  suffix : state.entries <:+ state.accepted
  /-- So was what each drain returned. -/
  drained_suffix : ∀ batch ∈ state.batches, batch.returned <:+ batch.accepted
  /-- Every write that was entered has exactly one place. -/
  placed : ∀ id, state.places id = entered state.started id
  /-- `dropped` counts the dropped writes until it saturates. -/
  dropped_eq : state.dropped = min state.counted.length zendLongMax

/-- The sum of two sizes wraps to at most their sum. -/
theorem sizeAdd_le (left right : Nat) : sizeAdd left right ≤ left + right :=
  Nat.mod_le _ _

/-- Sizes whose sum fits do not wrap. -/
theorem sizeAdd_eq {left right : Nat} (fits : left + right < 2 ^ 64) :
    sizeAdd left right = left + right :=
  Nat.mod_eq_of_lt fits

/-- A size minus a smaller one does not wrap. -/
theorem sizeSub_eq {left right : Nat} (fits : left < 2 ^ 64) (smaller : right ≤ left) :
    sizeSub left right = left - right := by
  unfold sizeSub
  omega

/-- A scan reads at most the room it was given. -/
theorem scan_le (value : List UInt8) (room length : Nat) :
    scan value room length ≤ length + room := by
  induction room generalizing length with
  | zero => exact Nat.le_refl _
  | succ room ih =>
    unfold scan
    split
    · have later := ih (length + 1)
      omega
    · omega

/-- A measured string takes its length out of the budget. -/
theorem logStringLength_some {value : CString} {remaining length left : Nat}
    (fits : remaining < 2 ^ 64)
    (measured : logStringLength value remaining = some (length, left)) :
    length + left = remaining := by
  cases value with
  | none =>
    simp only [logStringLength, Option.some.injEq, Prod.mk.injEq] at measured
    omega
  | some value =>
    have bound := scan_le value remaining 0
    simp only [logStringLength] at measured
    split at measured
    · cases measured
    · simp only [Option.some.injEq, Prod.mk.injEq] at measured
      obtain ⟨rfl, rfl⟩ := measured
      rw [sizeSub_eq fits (by omega)]
      omega

/-- An entry that passed the measurement fits the budget by itself. -/
theorem nativeEntry_bytes {layout : Layout} {record : Record} {entry : NativeLogEntry}
    (built : nativeEntry layout record = some entry) :
    entry.bytes layout ≤ logStorageMaxBytes := by
  have small : logStorageMaxBytes < 2 ^ 64 := by decide
  have budget := sizeSub_eq small layout.fits
  simp only [nativeEntry, bind, Option.bind_eq_some_iff, Prod.exists] at built
  obtain ⟨levelLength, afterLevel, level, typeLength, afterType, type, messageLength, afterMessage,
    message, same⟩ := built
  rw [budget] at level
  have levelSum := logStringLength_some (by omega) level
  have typeSum := logStringLength_some (by omega) type
  have messageSum := logStringLength_some (by omega) message
  obtain rfl := Option.some.inj same
  have fits := layout.fits
  have levelTake := List.length_take_le levelLength (record.level.getD [])
  have typeTake := List.length_take_le typeLength (record.type.getD [])
  have messageTake := List.length_take_le messageLength (record.message.getD [])
  calc
    _ ≤ sizeAdd (sizeAdd layout.entrySize _) _ + _ := sizeAdd_le _ _
    _ ≤ sizeAdd layout.entrySize _ + _ + _ := Nat.add_le_add_right (sizeAdd_le _ _) _
    _ ≤ layout.entrySize + _ + _ + _ :=
      Nat.add_le_add_right (Nat.add_le_add_right (sizeAdd_le _ _) _) _
    _ ≤ logStorageMaxBytes := by
      simp only
      omega

/-- What every step of the storage keeps. -/
structure Consistent (layout : Layout) (capacity : Nat) (state : State) : Prop where
  /-- The counter is the sum of the buffered sizes. -/
  bytes_eq : state.bytes = state.buffered layout
  /-- The counter stays within the budget. -/
  bytes_le : state.bytes ≤ logStorageMaxBytes
  /-- The queue stays within the capacity. -/
  length_le : state.entries.length ≤ capacity
  /-- No front of an empty queue was popped. -/
  no_underflow : state.underflow = false
  /-- An entry that waits for the mutex fits the budget by itself. -/
  built_le : ∀ id entry, state.flight id = some (.built entry) →
    entry.bytes layout ≤ logStorageMaxBytes
  /-- So does the holder's. -/
  held_le : ∀ holder, state.holder = some holder →
    holder.entry.bytes layout ≤ logStorageMaxBytes
  /-- A holder evicts at most what it found. -/
  evicted : ∀ holder, state.holder = some holder →
    holder.evicted + state.entries.length = holder.found
  /-- The queue is the end of what was accepted since the last drain. -/
  suffix : state.entries <:+ state.accepted
  /-- So was what each drain returned. -/
  drained_suffix : ∀ batch ∈ state.batches, batch.returned <:+ batch.accepted
  /-- Every write that was entered has exactly one place. -/
  placed : ∀ id, state.places id = entered state.started id
  /-- `dropped` counts the dropped writes until it saturates. -/
  dropped_eq : state.dropped = min state.counted.length zendLongMax

/-- A new storage has no entries and no holders, and is consistent. -/
theorem consistent_empty (layout : Layout) (capacity : Nat) :
    Consistent layout capacity .empty where
  bytes_eq := rfl
  bytes_le := Nat.zero_le _
  length_le := Nat.zero_le _
  no_underflow := rfl
  built_le := by intro id entry built; cases built
  held_le := by intro holder held; cases held
  evicted := by intro holder held; cases held
  suffix := List.suffix_refl _
  drained_suffix := by intro batch inside; cases inside
  placed := by
    intro id
    simp [State.places, State.drained, State.empty, entered]
  dropped_eq := rfl

section Steps

variable {layout : Layout} {capacity : Nat} {state : State}

/-- A write has at most one place. -/
theorem entered_le_one (started id : Nat) : entered started id ≤ 1 := by
  unfold entered
  split <;> omega

/-- A write that is in flight was entered. -/
theorem Consistent.flight_lt (before : Consistent layout capacity state) {id : Nat}
    {phase : Phase} (flying : state.flight id = some phase) : id < state.started := by
  have place := before.placed id
  by_contra late
  simp only [State.places, entered, flying, Option.elim_some, if_neg late] at place
  omega

/-- Counting a write keeps the counter below its limit. -/
theorem dropped_drop {id : Nat} (counts : state.dropped = min state.counted.length zendLongMax) :
    (state.drop id).dropped = min (state.drop id).counted.length zendLongMax := by
  simp only [State.drop, List.length_append, List.length_singleton]
  split <;> omega

/-- With room in the queue and in the budget nothing is evicted: the loop runs only over a queue
that is not empty. -/
theorem Consistent.entries_ne_nil (before : Consistent layout capacity state)
    (positive : 0 < capacity) {bytes : Nat} (evicts : state.MustEvict capacity bytes) :
    state.entries ≠ [] := by
  intro empty
  have counter : state.bytes = 0 := by
    rw [before.bytes_eq, State.buffered, empty]
    rfl
  rcases evicts with full | over_budget
  · rw [empty] at full
    exact absurd full (Nat.not_le.mpr positive)
  · rw [counter] at over_budget
    exact absurd over_budget (Nat.not_lt_zero _)

/-- Moving a write between phases outside the mutex keeps the rest. -/
theorem Consistent.setFlight (before : Consistent layout capacity state) {id : Nat}
    {phase next : Phase} (flying : state.flight id = some phase)
    (fits : ∀ entry, next = .built entry → entry.bytes layout ≤ logStorageMaxBytes) :
    Consistent layout capacity (state.setFlight id (some next)) where
  bytes_eq := before.bytes_eq
  bytes_le := before.bytes_le
  length_le := before.length_le
  no_underflow := before.no_underflow
  built_le := by
    intro other entry built
    by_cases same : other = id
    · subst same
      simp only [State.setFlight, Function.update_self, Option.some.injEq] at built
      exact fits entry built
    · simp only [State.setFlight, Function.update_of_ne same] at built
      exact before.built_le other entry built
  held_le := before.held_le
  evicted := before.evicted
  suffix := before.suffix
  drained_suffix := before.drained_suffix
  placed := by
    intro other
    have place := before.placed other
    by_cases same : other = id
    · subst same
      simpa [State.places, State.setFlight, State.drained, flying] using place
    · simpa [State.places, State.setFlight, State.drained, Function.update_of_ne same] using place
  dropped_eq := before.dropped_eq

/-- A new write takes a fresh number. -/
theorem Consistent.write (before : Consistent layout capacity state) (record : Record) :
    Consistent layout capacity { state.setFlight state.started (some (.called record)) with
      started := state.started + 1 } where
  bytes_eq := before.bytes_eq
  bytes_le := before.bytes_le
  length_le := before.length_le
  no_underflow := before.no_underflow
  built_le := by
    intro other entry built
    by_cases same : other = state.started
    · subst same
      simp [State.setFlight] at built
    · simp only [State.setFlight, Function.update_of_ne same] at built
      exact before.built_le other entry built
  held_le := before.held_le
  evicted := before.evicted
  suffix := before.suffix
  drained_suffix := before.drained_suffix
  placed := by
    intro other
    have place := before.placed other
    by_cases same : other = state.started
    · subst same
      have idle : state.flight state.started = none := by
        cases flying : state.flight state.started with
        | none => rfl
        | some phase => exact absurd (before.flight_lt flying) (Nat.lt_irrefl _)
      simp only [State.places, State.setFlight, State.drained, Function.update_self, idle,
        Option.elim_some, Option.elim_none, if_true, Nat.lt_irrefl, if_false, Nat.lt_succ_self,
        entered] at place ⊢
      omega
    · have order : other < state.started + 1 ↔ other < state.started := by omega
      simpa [State.places, State.setFlight, State.drained, Function.update_of_ne same, entered,
        order] using place
  dropped_eq := before.dropped_eq

/-- A write that counts itself as dropped leaves the storage consistent. -/
theorem Consistent.drop (before : Consistent layout capacity state) {id : Nat}
    {phase : Phase} (flying : state.flight id = some phase) :
    Consistent layout capacity ((state.setFlight id none).drop id) where
  bytes_eq := before.bytes_eq
  bytes_le := before.bytes_le
  length_le := before.length_le
  no_underflow := before.no_underflow
  built_le := by
    intro other entry built
    by_cases same : other = id
    · subst same
      simp [State.setFlight, State.drop] at built
    · simp only [State.setFlight, State.drop, Function.update_of_ne same] at built
      exact before.built_le other entry built
  held_le := before.held_le
  evicted := before.evicted
  suffix := before.suffix
  drained_suffix := before.drained_suffix
  placed := by
    intro other
    have place := before.placed other
    by_cases same : other = id
    · subst same
      simp only [State.places, State.setFlight, State.drop, State.drained, Function.update_self,
        flying, Option.elim_some, Option.elim_none, List.count_append,
        List.count_singleton_self] at place ⊢
      omega
    · simpa [State.places, State.setFlight, State.drop, State.drained,
        Function.update_of_ne same, List.count_append, List.count_singleton, Ne.symm same]
        using place
  dropped_eq := dropped_drop before.dropped_eq

/-- A write that gets the mutex becomes its holder. -/
theorem Consistent.lock (before : Consistent layout capacity state) {id : Nat}
    {entry : NativeLogEntry} (flying : state.flight id = some (.built entry))
    (free : state.holder = none) :
    Consistent layout capacity { state.setFlight id none with
      holder := some ⟨id, entry, state.entries.length, 0, none⟩ } where
  bytes_eq := before.bytes_eq
  bytes_le := before.bytes_le
  length_le := before.length_le
  no_underflow := before.no_underflow
  built_le := by
    intro other built_entry built
    by_cases same : other = id
    · subst same
      simp [State.setFlight] at built
    · simp only [State.setFlight, Function.update_of_ne same] at built
      exact before.built_le other built_entry built
  held_le := by
    intro holder held
    obtain rfl := Option.some.inj held
    exact before.built_le id entry flying
  evicted := by
    intro holder held
    obtain rfl := Option.some.inj held
    exact Nat.zero_add _
  suffix := before.suffix
  drained_suffix := before.drained_suffix
  placed := by
    intro other
    have place := before.placed other
    by_cases same : other = id
    · subst same
      simpa [State.places, State.setFlight, State.drained, Holder.places, flying, free] using place
    · simpa [State.places, State.setFlight, State.drained, Holder.places, free,
        Function.update_of_ne same, Ne.symm same] using place
  dropped_eq := before.dropped_eq

/-- Popping the front takes its size out of the counter. -/
theorem Consistent.evict (before : Consistent layout capacity state) {holder : Holder}
    (held : state.holder = some holder) (settled : holder.victim = none)
    {front : Nat × NativeLogEntry} {rest : List (Nat × NativeLogEntry)}
    (queue : state.entries = front :: rest) :
    Consistent layout capacity { state with
      entries := rest
      bytes := sizeSub state.bytes (front.2.bytes layout)
      holder := some { holder with evicted := holder.evicted + 1, victim := some front.1 } } := by
  have total : state.bytes = front.2.bytes layout +
      (rest.map fun entry => entry.2.bytes layout).sum := by
    rw [before.bytes_eq, State.buffered, queue]
    rfl
  have budget := before.bytes_le
  have small : logStorageMaxBytes < 2 ^ 64 := by decide
  have left : sizeSub state.bytes (front.2.bytes layout) =
      (rest.map fun entry => entry.2.bytes layout).sum := by
    rw [sizeSub_eq (by omega) (by omega)]
    omega
  have shorter : state.entries.length = rest.length + 1 := by
    rw [queue]
    rfl
  exact {
    bytes_eq := left
    bytes_le := by
      simp only [left]
      omega
    length_le := by
      have bound := before.length_le
      simp only
      omega
    no_underflow := before.no_underflow
    built_le := before.built_le
    held_le := by
      intro other other_held
      obtain rfl := Option.some.inj other_held
      exact before.held_le holder held
    evicted := by
      intro other other_held
      obtain rfl := Option.some.inj other_held
      have count := before.evicted holder held
      simp only
      omega
    suffix := by
      have inside := before.suffix
      rw [queue] at inside
      exact (List.suffix_cons front rest).trans inside
    drained_suffix := before.drained_suffix
    placed := by
      intro other
      have place := before.placed other
      simp only [State.places, State.drained, held, queue, Option.elim_some, Holder.places,
        settled, List.map_cons, List.count_cons, beq_iff_eq, Option.some.injEq, reduceCtorEq,
        if_false] at place ⊢
      omega
    dropped_eq := before.dropped_eq }

/-- Counting the popped entry gives its write its place. -/
theorem Consistent.dropVictim (before : Consistent layout capacity state) {holder : Holder}
    (held : state.holder = some holder) {id : Nat} (victim : holder.victim = some id) :
    Consistent layout capacity
      { state.drop id with holder := some { holder with victim := none } } where
  bytes_eq := before.bytes_eq
  bytes_le := before.bytes_le
  length_le := before.length_le
  no_underflow := before.no_underflow
  built_le := before.built_le
  held_le := by
    intro other other_held
    obtain rfl := Option.some.inj other_held
    exact before.held_le holder held
  evicted := by
    intro other other_held
    obtain rfl := Option.some.inj other_held
    exact before.evicted holder held
  suffix := before.suffix
  drained_suffix := before.drained_suffix
  placed := by
    intro other
    have place := before.placed other
    simp only [State.places, State.drop, State.drained, held, Option.elim_some, Holder.places,
      victim, List.count_append, List.count_singleton, beq_iff_eq, Option.some.injEq,
      reduceCtorEq, if_false] at place ⊢
    omega
  dropped_eq := dropped_drop before.dropped_eq

/-- A loop that ended leaves room for the entry. -/
theorem Consistent.push (before : Consistent layout capacity state) {holder : Holder}
    (held : state.holder = some holder) (settled : holder.victim = none)
    (room : ¬state.MustEvict capacity (holder.entry.bytes layout)) :
    Consistent layout capacity { state with
      entries := state.entries ++ [(holder.id, holder.entry)]
      bytes := sizeAdd state.bytes (holder.entry.bytes layout)
      accepted := state.accepted ++ [(holder.id, holder.entry)]
      holder := none } := by
  have fits := before.held_le holder held
  have small : logStorageMaxBytes < 2 ^ 64 := by decide
  simp only [State.MustEvict, not_or, Nat.not_le, Nat.not_lt] at room
  obtain ⟨shorter, below⟩ := room
  rw [sizeSub_eq small fits] at below
  have total : sizeAdd state.bytes (holder.entry.bytes layout) =
      state.bytes + holder.entry.bytes layout := sizeAdd_eq (by omega)
  exact {
    bytes_eq := by
      simpa [total, State.buffered] using before.bytes_eq
    bytes_le := by
      simp only [total]
      omega
    length_le := by
      simp only [List.length_append, List.length_singleton]
      omega
    no_underflow := before.no_underflow
    built_le := before.built_le
    held_le := by intro other other_held; cases other_held
    evicted := by intro other other_held; cases other_held
    suffix := by
      obtain ⟨earlier, whole⟩ := before.suffix
      exact ⟨earlier, by simp [← whole]⟩
    drained_suffix := before.drained_suffix
    placed := by
      intro other
      have place := before.placed other
      simp only [State.places, State.drained, held, Option.elim_some, Option.elim_none,
        Holder.places, settled, List.map_append, List.map_cons, List.map_nil, List.count_append,
        List.count_singleton, beq_iff_eq, reduceCtorEq, if_false] at place ⊢
      omega
    dropped_eq := before.dropped_eq }

/-- A queue that cannot be extended leaves the write to be counted. -/
theorem Consistent.pushFailure (before : Consistent layout capacity state) {holder : Holder}
    (held : state.holder = some holder) (settled : holder.victim = none) :
    Consistent layout capacity
      { state.setFlight holder.id (some .dropping) with holder := none } where
  bytes_eq := before.bytes_eq
  bytes_le := before.bytes_le
  length_le := before.length_le
  no_underflow := before.no_underflow
  built_le := by
    intro other entry built
    by_cases same : other = holder.id
    · subst same
      simp [State.setFlight] at built
    · simp only [State.setFlight, Function.update_of_ne same] at built
      exact before.built_le other entry built
  held_le := by intro other other_held; cases other_held
  evicted := by intro other other_held; cases other_held
  suffix := before.suffix
  drained_suffix := before.drained_suffix
  placed := by
    intro other
    have place := before.placed other
    by_cases same : other = holder.id
    · subst same
      simp only [State.places, State.setFlight, State.drained, Function.update_self, held,
        Option.elim_some, Option.elim_none, Holder.places, settled, if_true, reduceCtorEq,
        if_false] at place ⊢
      have once := entered_le_one state.started holder.id
      omega
    · simpa [State.places, State.setFlight, State.drained, Holder.places, held, settled,
        Function.update_of_ne same, Ne.symm same] using place
  dropped_eq := before.dropped_eq

/-- A drain takes everything that is buffered. -/
theorem Consistent.drain (before : Consistent layout capacity state)
    (free : state.holder = none) : Consistent layout capacity (drain state) where
  bytes_eq := rfl
  bytes_le := Nat.zero_le _
  length_le := Nat.zero_le _
  no_underflow := before.no_underflow
  built_le := before.built_le
  held_le := before.held_le
  evicted := by
    intro holder held
    exact absurd (free.symm.trans held) (by simp)
  suffix := List.suffix_refl _
  drained_suffix := by
    intro batch inside
    rcases List.mem_append.mp inside with earlier | now
    · exact before.drained_suffix batch earlier
    · obtain rfl := List.mem_singleton.mp now
      exact before.suffix
  placed := by
    intro other
    have place := before.placed other
    simp only [State.places, Logging.drain, State.drained, List.flatMap_append, List.flatMap_cons,
      List.flatMap_nil, List.append_nil, List.count_append, List.map_nil, List.count_nil]
      at place ⊢
    omega
  dropped_eq := before.dropped_eq

/-- A step of the holder keeps the storage consistent. -/
theorem Consistent.stepHolder (positive : 0 < capacity)
    (before : Consistent layout capacity state) {holder : Holder}
    (held : state.holder = some holder) {event : Event} {next : State}
    (stepped : stepHolder layout capacity state holder event = some next) :
    Consistent layout capacity next := by
  cases event with
  | evict =>
    simp only [Logging.stepHolder] at stepped
    split at stepped
    · rename_i loops
      obtain ⟨settled, evicts⟩ := loops
      cases queue : state.entries with
      | nil => exact absurd queue (before.entries_ne_nil positive evicts)
      | cons front rest =>
        rw [queue] at stepped
        obtain rfl := Option.some.inj stepped
        exact before.evict held settled queue
    · cases stepped
  | dropVictim =>
    simp only [Logging.stepHolder] at stepped
    split at stepped
    · rename_i id victim
      obtain rfl := Option.some.inj stepped
      exact before.dropVictim held victim
    · cases stepped
  | push =>
    simp only [Logging.stepHolder] at stepped
    split at stepped
    · rename_i loop_ended
      obtain rfl := Option.some.inj stepped
      exact before.push held loop_ended.1 loop_ended.2
    · cases stepped
  | pushFailure =>
    simp only [Logging.stepHolder] at stepped
    split at stepped
    · rename_i loop_ended
      obtain rfl := Option.some.inj stepped
      exact before.pushFailure held loop_ended.1
    · cases stepped
  | write | measure | allocationFailure | lock | contend | drop | drain => cases stepped

/-- A step of a write outside the mutex keeps the storage consistent. -/
theorem Consistent.stepFlight (before : Consistent layout capacity state) {id : Nat}
    {phase : Phase} (flying : state.flight id = some phase) {event : Event} {next : State}
    (stepped : stepFlight layout state id phase event = some next) :
    Consistent layout capacity next := by
  cases event with
  | measure other =>
    cases phase with
    | called record =>
      simp only [Logging.stepFlight] at stepped
      cases built : nativeEntry layout record with
      | some entry =>
        rw [built] at stepped
        obtain rfl := Option.some.inj stepped
        refine before.setFlight flying fun other same => ?_
        obtain rfl := Phase.built.inj same
        exact nativeEntry_bytes built
      | none =>
        rw [built] at stepped
        obtain rfl := Option.some.inj stepped
        exact before.setFlight flying fun other same => by cases same
    | built | dropping => cases stepped
  | allocationFailure other | contend other =>
    cases phase with
    | built entry =>
      obtain rfl := Option.some.inj stepped
      exact before.setFlight flying fun other same => by cases same
    | called | dropping => cases stepped
  | lock other =>
    cases phase with
    | built entry =>
      simp only [Logging.stepFlight] at stepped
      cases free : state.holder with
      | some holder =>
        rw [free] at stepped
        cases stepped
      | none =>
        rw [free] at stepped
        obtain rfl := Option.some.inj stepped
        exact before.lock flying free
    | called | dropping => cases stepped
  | drop other =>
    cases phase with
    | dropping =>
      obtain rfl := Option.some.inj stepped
      exact before.drop flying
    | called | built => cases stepped
  | write | evict | dropVictim | push | pushFailure | drain => cases stepped

/-- Every step keeps the storage consistent. -/
theorem Consistent.step (positive : 0 < capacity) (before : Consistent layout capacity state)
    {event : Event} {next : State} (stepped : step layout capacity state event = some next) :
    Consistent layout capacity next := by
  cases event with
  | write record =>
    obtain rfl := Option.some.inj stepped
    exact before.write record
  | drain =>
    cases free : state.holder with
    | some holder => simp [Logging.step, free] at stepped
    | none =>
      simp only [Logging.step, free, Option.isSome_none, Bool.false_eq_true, if_false] at stepped
      obtain rfl := Option.some.inj stepped
      exact before.drain free
  | measure id | allocationFailure id | lock id | contend id | drop id =>
    obtain ⟨phase, flying, moved⟩ := Option.bind_eq_some_iff.mp stepped
    exact before.stepFlight flying moved
  | evict | dropVictim | push | pushFailure =>
    obtain ⟨holder, held, moved⟩ := Option.bind_eq_some_iff.mp stepped
    exact before.stepHolder positive held moved

end Steps

section Termination

variable {layout : Layout} {capacity : Nat}

/-- A loop whose condition is false ends by storing the entry. -/
theorem push_ends {state : State} {holder : Holder} (held : state.holder = some holder)
    (settled : holder.victim = none)
    (room : ¬state.MustEvict capacity (holder.entry.bytes layout)) :
    ∃ next, step layout capacity state .push = some next ∧ next.holder = none := by
  let next : State := { state with
    entries := state.entries ++ [(holder.id, holder.entry)]
    bytes := sizeAdd state.bytes (holder.entry.bytes layout)
    accepted := state.accepted ++ [(holder.id, holder.entry)]
    holder := none }
  refine ⟨next, ?_, rfl⟩
  simp [step, Event.flight?, held, stepHolder, settled, room, next]

/-- A round of the loop counts what it pops and leaves one entry less. -/
theorem evict_round {state : State} {holder : Holder} (held : state.holder = some holder)
    (settled : holder.victim = none)
    (evicts : state.MustEvict capacity (holder.entry.bytes layout))
    {front : Nat × NativeLogEntry} {rest : List (Nat × NativeLogEntry)}
    (queue : state.entries = front :: rest) :
    ∃ next, (storage layout capacity).run state [.evict, .dropVictim] = some next ∧
      next.entries = rest ∧
      next.holder = some { holder with evicted := holder.evicted + 1, victim := none } := by
  let popped : State := { state with
    entries := rest
    bytes := sizeSub state.bytes (front.2.bytes layout)
    holder := some { holder with evicted := holder.evicted + 1, victim := some front.1 } }
  have pops : step layout capacity state .evict = some popped := by
    simp [step, Event.flight?, held, stepHolder, settled, evicts, queue, popped]
  refine ⟨{ popped.drop front.1 with
    holder := some { holder with evicted := holder.evicted + 1, victim := none } }, ?_, rfl, rfl⟩
  simp only [Machine.run_cons, Machine.run_nil, storage, pops]
  rfl

/-- From a consistent state the holder's loop ends: induction on the queue, which every round
shortens. -/
theorem loop_terminates (positive : 0 < capacity) (length : Nat) :
    ∀ {state : State} {holder : Holder}, Consistent layout capacity state →
      state.holder = some holder → holder.victim = none → state.entries.length = length →
      ∃ events last, (∀ event ∈ events, event.OfHolder) ∧
        (storage layout capacity).run state events = some last ∧ last.holder = none := by
  induction length with
  | zero =>
    intro state holder before held settled empty
    have room : ¬state.MustEvict capacity (holder.entry.bytes layout) := fun evicts =>
      before.entries_ne_nil positive evicts (List.eq_nil_of_length_eq_zero empty)
    obtain ⟨last, stored, ended⟩ := push_ends held settled room
    refine ⟨[.push], last, ?_, ?_, ended⟩
    · simp [Event.OfHolder]
    · simpa [storage] using stored
  | succ length ih =>
    intro state holder before held settled more
    by_cases evicts : state.MustEvict capacity (holder.entry.bytes layout)
    · obtain ⟨front, rest, queue⟩ := List.exists_cons_of_length_eq_add_one more
      obtain ⟨next, ran, left, still⟩ := evict_round held settled evicts queue
      have after : Consistent layout capacity next :=
        Machine.run_preserves (fun _ _ _ kept stepped => kept.step positive stepped) before ran
      have shorter : next.entries.length = length := by
        rw [queue] at more
        rw [left]
        exact Nat.succ.inj more
      obtain ⟨events, last, own, rounds, ended⟩ := ih after still rfl shorter
      refine ⟨[.evict, .dropVictim] ++ events, last, ?_, ?_, ended⟩
      · intro event inside
        rcases List.mem_append.mp inside with first | later
        · rcases List.mem_cons.mp first with rfl | second
          · exact Or.inl rfl
          · exact Or.inr (Or.inl (List.mem_singleton.mp second))
        · exact own event later
      · rw [Machine.run_append, ran]
        exact rounds
    · obtain ⟨last, stored, ended⟩ := push_ends held settled evicts
      refine ⟨[.push], last, ?_, ?_, ended⟩
      · simp [Event.OfHolder]
      · simpa [storage] using stored

/-- A holder that still has to count what it popped does so first. -/
theorem holder_terminates (positive : 0 < capacity) {state : State}
    (before : Consistent layout capacity state) (holds : state.holder.isSome) :
    ∃ events last, (∀ event ∈ events, event.OfHolder) ∧
      (storage layout capacity).run state events = some last ∧ last.holder = none := by
  obtain ⟨holder, held⟩ := Option.isSome_iff_exists.mp holds
  cases popped : holder.victim with
  | none => exact loop_terminates positive _ before held popped rfl
  | some id =>
    have counted : step layout capacity state .dropVictim =
        some { state.drop id with holder := some { holder with victim := none } } := by
      simp [step, Event.flight?, held, stepHolder, popped]
    obtain ⟨events, last, own, rounds, ended⟩ :=
      loop_terminates positive _ (before.step positive counted) rfl rfl rfl
    refine ⟨.dropVictim :: events, last, ?_, ?_, ended⟩
    · intro event inside
      rcases List.mem_cons.mp inside with rfl | later
      · exact Or.inr (Or.inl rfl)
      · exact own event later
    · rw [Machine.run_cons]
      simp only [storage] at rounds ⊢
      rw [counted]
      exact rounds

/-- In a consistent storage every message is accounted for. -/
theorem Consistent.accounts (positive : 0 < capacity) {state : State}
    (holds : Consistent layout capacity state) : Accounts layout capacity state where
  bytes_eq := holds.bytes_eq
  bytes_le := holds.bytes_le
  length_le := holds.length_le
  no_underflow := holds.no_underflow
  evicted := holds.evicted
  terminates := holder_terminates positive holds
  suffix := holds.suffix
  drained_suffix := holds.drained_suffix
  placed := holds.placed
  dropped_eq := holds.dropped_eq

end Termination

/-- Every interleaving of writes and drains on a new storage keeps its accounts. -/
theorem storage_accounts (layout : Layout) (capacity : Nat) (positive : 0 < capacity)
    (events : List Event) (last : State)
    (ran : (storage layout capacity).run .empty events = some last) :
    Accounts layout capacity last :=
  Consistent.accounts positive <|
    Machine.run_preserves (fun _ _ _ kept stepped => kept.step positive stepped)
      (consistent_empty layout capacity) ran

/-- A storage of one entry: the second write evicts the first and is drained. -/
def evictingRun : List Event :=
  [.write ⟨some 7, some [73], none, some [97, 98]⟩, .write ⟨none, none, some [0, 99], none⟩,
    .measure 0, .measure 1, .lock 0, .push, .lock 1, .evict, .dropVictim, .push, .drain]

/-- The first entry is dropped for the second, which is drained. -/
theorem storage_accounts_evicting : ∃ last,
    (storage ⟨104, by decide⟩ 1).run .empty evictingRun = some last ∧
      last.counted = [0] ∧ last.drained = [1] ∧ Accounts ⟨104, by decide⟩ 1 last :=
  ⟨_, rfl, rfl, rfl, storage_accounts _ 1 (by decide) evictingRun _ rfl⟩

end PhpDuckdb.Logging
