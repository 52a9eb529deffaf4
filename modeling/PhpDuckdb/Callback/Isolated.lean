import PhpDuckdb.Callback.Registration

/-!
# Registrations stay isolated

`registrations_isolated` says what holds after every run in which no destructor of a replaced COPY
handler registers the same name on the same connection again: slots and tables agree, replaced
registrations are dead, and the counters count the names that are live. `replaced_twice` is a run
where a destructor does so, and the slot and the table name different registrations.
-/

namespace PhpDuckdb.Registration

open SqlText Value Connection OrderedTable

/-- A connection's entry of a slot. -/
def slotEntry (slots : List (Bytes × Slot)) (key : Bytes) (conn : Nat) : Option Nat :=
  (find key slots).bind fun slot => find conn slot.entries

/-- A connection's entry of the slot of a kind and a name. -/
def State.entry (state : State) (kind : Kind) (key : Bytes) (conn : Nat) : Option Nat :=
  slotEntry (state.slots kind) key conn

/-- A registration is of a kind and a name on a connection. -/
def Record.Of (record : Record) (kind : Kind) (key : Bytes) (conn : Nat) : Prop :=
  record.kind = kind ∧ record.key = key ∧ record.conn = conn

instance (record : Record) (kind : Kind) (key : Bytes) (conn : Nat) :
    Decidable (record.Of kind key conn) :=
  inferInstanceAs (Decidable (_ ∧ _ ∧ _))

/-- The latest registration of a kind and a name on a connection. -/
def State.Latest (state : State) (kind : Kind) (key : Bytes) (conn id : Nat) : Prop :=
  (∃ record, state.records id = some record ∧ record.Of kind key conn) ∧
    ∀ other record, state.records other = some record → record.Of kind key conn → other ≤ id

/-- No step of the thread that works on the connection is under way. -/
def State.Quiet (state : State) (conn : Nat) : Prop :=
  ∀ thread, ∀ frame ∈ state.callStacks thread, frame.conn ≠ conn

/-- What holds of the registrations of one connection. -/
structure Agree (state : State) (conn : Nat) (connection : Conn) : Prop where
  /-- A slot has the latest registration of its name, and none of a connection that was freed. -/
  latest : ∀ kind key id, state.entry kind key conn = some id ↔
    connection.freed = false ∧ state.Latest kind key conn id
  /-- The connection's table has the same one. -/
  own : ∀ kind key, find key (connection.tables kind).regs = state.entry kind key conn
  /-- Exactly these registrations are alive. -/
  alive : ∀ id record, state.records id = some record → record.conn = conn →
    (record.alive = true ↔ state.entry record.kind record.key conn = some id)
  /-- The counters count the names that have one. -/
  counted : ∀ kind, (connection.tables kind).registrations = (connection.tables kind).regs.length ∧
    (keys (connection.tables kind).regs).Nodup ∧
      ∀ key, key ∈ keys (connection.tables kind).regs ↔ state.entry kind key conn ≠ none
  /-- Statements are pumped while there is one. -/
  pumped : needsPump false connection = true ↔ ∃ kind key, state.entry kind key conn ≠ none

/-- A replaced handler of the name on the connection is being released. -/
def State.Replacing (state : State) (conn : Nat) (key : Bytes) : Prop :=
  ∃ thread previous id, .replacing conn key previous id ∈ state.callStacks thread

/-- No COPY format is registered while a replaced handler of the same name on the same connection is
being released. -/
def Undisturbed (state : State) : Event → Prop
  | .register _ conn call => call.kind = .copy → ∀ connection key,
    state.conns conn = some connection → registrationKey connection call = .ok key →
      ¬state.Replacing conn key
  | _ => True

section Slots

variable {slots : List (Bytes × Slot)} {key : Bytes} {conn registration : Nat}

/-- A slot that is there has the published entry, and the others stay. -/
theorem slotEntry_publish (there : find key slots ≠ none) (name : Bytes) (other : Nat) :
    slotEntry (publish slots key conn registration) name other =
      if key = name ∧ conn = other then some registration else slotEntry slots name other := by
  cases found : find key slots with
  | none => exact absurd found there
  | some slot =>
    simp only [slotEntry, publish, found, find_update]
    by_cases same : key = name
    · subst same
      simp only [true_and, if_true, Option.bind_some, find_update, found]
    · simp only [same, false_and, if_false]

/-- Only the entry that still is the registration is erased. -/
theorem slotEntry_unpublish (slots : List (Bytes × Slot)) (key : Bytes) (conn registration : Nat)
    (name : Bytes) (other : Nat) :
    slotEntry (unpublish slots key conn registration) name other =
      if (key = name ∧ conn = other) ∧ slotEntry slots key conn = some registration then none
      else slotEntry slots name other := by
  cases found : find key slots with
  | none =>
    have absent : ¬slotEntry slots key conn = some registration := by simp [slotEntry, found]
    rw [if_neg fun both => absent both.2, unpublish, found]
  | some slot =>
    have entry : slotEntry slots key conn = find conn slot.entries := by
      rw [slotEntry, found, Option.bind_some]
    rw [entry]
    simp only [unpublish, found]
    by_cases mine : find conn slot.entries = some registration
    · simp only [mine, if_true, and_true]
      simp only [slotEntry, find_update]
      by_cases same : key = name
      · subst same
        simp only [true_and, if_true, Option.bind_some, find_delete, found]
      · simp only [same, false_and, if_false]
    · simp only [mine, if_false, and_false]

/-- A slot that was ensured is there, and no entry changed. -/
theorem slotEntry_ensureSlot {call : Call} {others : List (Bytes × Slot)}
    (ensured : ensureSlot call slots key = some others) :
    find key others ≠ none ∧ ∀ name conn, slotEntry others name conn = slotEntry slots name conn := by
  unfold ensureSlot at ensured
  split at ensured
  · rename_i slot found
    split at ensured
    · obtain rfl := Option.some.inj ensured
      exact ⟨by simp [found], fun _ _ => rfl⟩
    · cases ensured
  · rename_i absent
    split at ensured
    · obtain rfl := Option.some.inj ensured
      refine ⟨by simp [find_update], fun name conn => ?_⟩
      simp only [slotEntry, find_update]
      by_cases same : key = name
      · subst same
        simp [absent, find]
      · simp only [same, if_false]
    · cases ensured

end Slots

/-- A frame is on some thread's stack. -/
def State.Pending (state : State) (frame : Frame) : Prop :=
  ∃ thread, frame ∈ state.callStacks thread

/-- The handler of a connection's registration is being released with the connection. -/
def State.Retired (state : State) (kind : Kind) (key : Bytes) (conn id : Nat) : Prop :=
  kind = .copy ∧ ∃ rest, state.Pending (.retired conn key id rest)

/-- The registrations that a frame of a connection that is freed still has to come to. -/
def Frame.rest : Frame → List (Bytes × Nat)
  | .replacing _ _ _ _ => []
  | .freeing _ rest => rest
  | .retired _ key id rest => (key, id) :: rest

/-- The name that a frame registers. -/
def Frame.name? : Frame → Option Bytes
  | .replacing _ key _ _ => some key
  | _ => none

/-- Two frames of one connection replace different names. -/
def Frame.Apart (frame other : Frame) : Prop :=
  frame.conn = other.conn →
    ∃ key name, frame.name? = some key ∧ other.name? = some name ∧ key ≠ name

/-- What every step keeps of slots and registrations. -/
structure Entries (state : State) : Prop where
  /-- Numbers that were not given have no registration. -/
  bound : ∀ id, state.count ≤ id → state.records id = none
  /-- A registration is of a connection that was opened. -/
  known : ∀ id record, state.records id = some record → state.conns record.conn ≠ none
  /-- Slots have the latest registrations. -/
  entered : ∀ kind key conn id, state.entry kind key conn = some id →
    state.Latest kind key conn id
  /-- While the connection lives they have one for each of its names. -/
  kept : ∀ conn connection, state.conns conn = some connection → connection.freed = false →
    ∀ id record, state.records id = some record → record.conn = conn →
      state.entry record.kind record.key conn ≠ none
  /-- Only these are alive. -/
  alive : ∀ id record, state.records id = some record → record.alive = true →
    state.entry record.kind record.key record.conn = some id
  /-- They are, unless they are being retired. -/
  living : ∀ kind key conn id, state.entry kind key conn = some id →
    ¬state.Retired kind key conn id →
      ∀ record, state.records id = some record → record.alive = true

/-- What every step keeps of tables and frames. -/
structure Tables (state : State) : Prop where
  /-- A table has the entries of the slots, unless a handler is being replaced. -/
  own : ∀ conn connection, state.conns conn = some connection → connection.freed = false →
    ∀ kind key, (kind = .copy → ¬state.Replacing conn key) →
      find key (connection.tables kind).regs = state.entry kind key conn
  /-- The counters count the names. -/
  counted : ∀ conn connection, state.conns conn = some connection → connection.freed = false →
    ∀ kind, (connection.tables kind).registrations = (connection.tables kind).regs.length ∧
      (keys (connection.tables kind).regs).Nodup
  /-- A connection that was freed has no scalar functions. -/
  scalars : ∀ conn connection, state.conns conn = some connection → connection.freed = true →
    connection.tables .scalar = ⟨[], 0⟩ ∧ ∀ key, state.entry .scalar key conn = none
  /-- Once no frame is left it has no COPY formats either. -/
  copies : ∀ conn connection, state.conns conn = some connection → connection.freed = true →
    state.Quiet conn →
      connection.tables .copy = ⟨[], 0⟩ ∧ ∀ key, state.entry .copy key conn = none
  /-- A frame is of a connection of its thread. -/
  frames : ∀ thread frame, frame ∈ state.callStacks thread →
    ∃ connection, state.conns frame.conn = some connection ∧ connection.thread = thread ∧
      (connection.freed = true ↔ frame.name? = none)
  /-- Frames of one connection replace different names. -/
  apart : ∀ thread, (state.callStacks thread).Pairwise Frame.Apart
  /-- While a handler is replaced the slot is ahead of the table. -/
  replacing : ∀ conn key previous id, state.Pending (.replacing conn key previous id) →
    state.entry .copy key conn = some id ∧ ∀ connection, state.conns conn = some connection →
      find key (connection.tables .copy).regs = some previous
  /-- While a connection is freed its slots have what the frame has left. -/
  freeing : ∀ frame, state.Pending frame → frame.name? = none →
    (keys frame.rest).Nodup ∧
      ∀ key, state.entry .copy key frame.conn = find key frame.rest
  /-- A registration that is being retired is dead. -/
  retired : ∀ conn key id rest, state.Pending (.retired conn key id rest) →
    ∀ record, state.records id = some record → record.alive = false

/-- What every step of a registration keeps, also inside another one. -/
structure Consistent (state : State) : Prop where
  /-- Slots and registrations. -/
  entries : Entries state
  /-- Tables and frames. -/
  tables : Tables state

/-- A new database without connections is consistent. -/
theorem consistent_fresh : Consistent .fresh where
  entries :=
    { bound := fun _ _ => rfl
      known := fun _ _ given => by cases given
      entered := fun _ _ _ _ given => by cases given
      kept := fun _ _ given => by cases given
      alive := fun _ _ given => by cases given
      living := fun _ _ _ _ given => by cases given }
  tables :=
    { own := fun _ _ given => by cases given
      counted := fun _ _ given => by cases given
      scalars := fun _ _ given => by cases given
      copies := fun _ _ given => by cases given
      frames := fun _ _ inside => by cases inside
      apart := fun _ => List.Pairwise.nil
      replacing := fun _ _ _ _ ⟨_, inside⟩ => by cases inside
      freeing := fun _ ⟨_, inside⟩ => by cases inside
      retired := fun _ _ _ _ ⟨_, inside⟩ => by cases inside }

/-- A consistent connection that nothing is under way on agrees with its slots. -/
theorem Consistent.agree {state : State} (holds : Consistent state) {conn : Nat}
    {connection : Conn} (given : state.conns conn = some connection) (quiet : state.Quiet conn) :
    Agree state conn connection := by
  have unreplaced : ∀ key, ¬state.Replacing conn key := by
    rintro key ⟨thread, previous, id, inside⟩
    exact quiet thread _ inside rfl
  have unretired : ∀ kind key id, ¬state.Retired kind key conn id := by
    rintro kind key id ⟨_, rest, thread, inside⟩
    exact quiet thread _ inside rfl
  have empty : connection.freed = true → ∀ kind,
      connection.tables kind = ⟨[], 0⟩ ∧ ∀ key, state.entry kind key conn = none := by
    intro freed kind
    cases kind with
    | copy => exact holds.tables.copies conn connection given freed quiet
    | scalar => exact holds.tables.scalars conn connection given freed
  have own : ∀ kind key,
      find key (connection.tables kind).regs = state.entry kind key conn := by
    intro kind key
    cases freed : connection.freed with
    | false => exact holds.tables.own conn connection given freed kind key fun _ => unreplaced key
    | true =>
      obtain ⟨table, none⟩ := empty freed kind
      rw [table, none key]
      rfl
  have counted : ∀ kind, (connection.tables kind).registrations =
      (connection.tables kind).regs.length ∧ (keys (connection.tables kind).regs).Nodup ∧
        ∀ key, key ∈ keys (connection.tables kind).regs ↔ state.entry kind key conn ≠ none := by
    intro kind
    have numbers : (connection.tables kind).registrations =
        (connection.tables kind).regs.length ∧ (keys (connection.tables kind).regs).Nodup := by
      cases freed : connection.freed with
      | false => exact holds.tables.counted conn connection given freed kind
      | true =>
        rw [(empty freed kind).1]
        exact ⟨rfl, List.nodup_nil⟩
    refine ⟨numbers.1, numbers.2, fun key => ?_⟩
    rw [mem_keys, ← own kind key]
    cases find key (connection.tables kind).regs <;> simp
  refine ⟨?_, own, ?_, counted, ?_⟩
  · intro kind key id
    constructor
    · intro entered
      refine ⟨?_, holds.entries.entered kind key conn id entered⟩
      cases freed : connection.freed with
      | false => rfl
      | true =>
        rw [(empty freed kind).2 key] at entered
        cases entered
    · rintro ⟨living, ⟨record, made, kind_eq, key_eq, conn_eq⟩, last⟩
      have some_entry := holds.entries.kept conn connection given living id record made conn_eq
      rw [kind_eq, key_eq] at some_entry
      cases entered : state.entry kind key conn with
      | none => exact absurd entered some_entry
      | some other =>
        obtain ⟨⟨found, there, of⟩, latest⟩ := holds.entries.entered kind key conn other entered
        have below := last other found there of
        have above := latest id record made ⟨kind_eq, key_eq, conn_eq⟩
        exact congrArg some (Nat.le_antisymm below above)
  · intro id record made same
    subst same
    exact ⟨holds.entries.alive id record made, fun entered =>
      holds.entries.living _ _ _ id entered (unretired _ _ id) record made⟩
  · have positive : ∀ kind, 0 < (connection.tables kind).registrations ↔
        ∃ key, state.entry kind key conn ≠ none := by
      intro kind
      obtain ⟨count, _, present⟩ := counted kind
      rw [count, List.length_pos_iff_exists_mem]
      constructor
      · rintro ⟨entry, inside⟩
        exact ⟨entry.1, (present entry.1).mp (List.mem_map.mpr ⟨entry, inside, rfl⟩)⟩
      · rintro ⟨key, entered⟩
        obtain ⟨entry, inside, _⟩ := List.mem_map.mp ((present key).mpr entered)
        exact ⟨entry, inside⟩
    simp only [needsPump, Bool.false_or, Bool.or_eq_true, decide_eq_true_eq, positive]
    constructor
    · rintro (⟨key, entered⟩ | ⟨key, entered⟩)
      · exact ⟨.copy, key, entered⟩
      · exact ⟨.scalar, key, entered⟩
    · rintro ⟨kind, key, entered⟩
      cases kind with
      | copy => exact Or.inl ⟨key, entered⟩
      | scalar => exact Or.inr ⟨key, entered⟩

section Steps

variable {state after : State} {thread conn : Nat} {connection : Conn}

/-- A lookup of the connections after one was changed. -/
theorem conns_setConn (state : State) (conn : Nat) (connection : Conn) (other : Nat) :
    (state.setConn conn connection).conns other =
      if other = conn then some connection else state.conns other :=
  Function.update_apply _ _ _ _

/-- Opening a connection keeps slots, tables and frames consistent. -/
theorem Consistent.connect (before : Consistent state) (absent : state.conns conn = none)
    (thread : Nat) :
    Consistent (state.setConn conn ⟨thread, false, false, fun _ => ⟨[], 0⟩⟩) := by
  have unrecorded : ∀ id record, state.records id = some record → record.conn ≠ conn := by
    rintro id record made rfl
    exact before.entries.known id record made absent
  have unentered : ∀ kind key, state.entry kind key conn = none := by
    intro kind key
    cases entered : state.entry kind key conn with
    | none => rfl
    | some id =>
      obtain ⟨⟨record, made, of⟩, _⟩ := before.entries.entered kind key conn id entered
      exact absurd of.2.2 (unrecorded id record made)
  have unframed : ∀ thread frame, frame ∈ state.callStacks thread → frame.conn ≠ conn := by
    rintro thread frame inside rfl
    obtain ⟨_, given, _⟩ := before.tables.frames thread frame inside
    rw [absent] at given
    cases given
  have older : ∀ other connection, other ≠ conn →
      (state.setConn conn ⟨thread, false, false, fun _ => ⟨[], 0⟩⟩).conns other =
        some connection → state.conns other = some connection := by
    intro other connection apart given
    rw [conns_setConn, if_neg apart] at given
    exact given
  have newest : ∀ connection,
      (state.setConn conn ⟨thread, false, false, fun _ => ⟨[], 0⟩⟩).conns conn =
        some connection → connection = ⟨thread, false, false, fun _ => ⟨[], 0⟩⟩ := by
    intro connection given
    rw [conns_setConn, if_pos rfl] at given
    exact (Option.some.inj given).symm
  refine ⟨⟨before.entries.bound, ?_, before.entries.entered, ?_, before.entries.alive,
    before.entries.living⟩, ⟨?_, ?_, ?_, ?_, ?_, before.tables.apart, ?_, before.tables.freeing,
    before.tables.retired⟩⟩
  · intro id record made
    rw [conns_setConn, if_neg (unrecorded id record made)]
    exact before.entries.known id record made
  · intro other connection given living id record made same
    by_cases here : other = conn
    · exact absurd (same.trans here) (unrecorded id record made)
    · exact before.entries.kept other connection (older other connection here given) living id
        record made same
  · intro other connection given living kind key free
    by_cases here : other = conn
    · subst here
      obtain rfl := newest connection given
      exact (unentered kind key).symm
    · exact before.tables.own other connection (older other connection here given) living kind key
        free
  · intro other connection given living kind
    by_cases here : other = conn
    · subst here
      obtain rfl := newest connection given
      exact ⟨rfl, List.nodup_nil⟩
    · exact before.tables.counted other connection (older other connection here given) living kind
  · intro other connection given freed
    by_cases here : other = conn
    · subst here
      obtain rfl := newest connection given
      cases freed
    · exact before.tables.scalars other connection (older other connection here given) freed
  · intro other connection given freed quiet
    by_cases here : other = conn
    · subst here
      obtain rfl := newest connection given
      cases freed
    · exact before.tables.copies other connection (older other connection here given) freed quiet
  · intro thread frame inside
    rw [conns_setConn, if_neg (unframed thread frame inside)]
    exact before.tables.frames thread frame inside
  · rintro other key previous id ⟨thread, inside⟩
    obtain ⟨entered, own⟩ := before.tables.replacing other key previous id ⟨thread, inside⟩
    have here := unframed thread _ inside
    exact ⟨entered, fun connection given => own connection (older other connection here given)⟩

/-- Closing a connection keeps slots, tables and frames consistent. -/
theorem Consistent.close (before : Consistent state) (given : state.conns conn = some connection) :
    Consistent (state.setConn conn { connection with closed := true }) := by
  have same : ∀ other later,
      (state.setConn conn { connection with closed := true }).conns other = some later →
        ∃ earlier, state.conns other = some earlier ∧ later.thread = earlier.thread ∧
          later.freed = earlier.freed ∧ later.tables = earlier.tables := by
    intro other later there
    rw [conns_setConn] at there
    split at there
    · rename_i here
      obtain rfl := Option.some.inj there
      exact ⟨connection, here ▸ given, rfl, rfl, rfl⟩
    · exact ⟨later, there, rfl, rfl, rfl⟩
  have still : ∀ other earlier, state.conns other = some earlier →
      ∃ later, (state.setConn conn { connection with closed := true }).conns other = some later ∧
        later.thread = earlier.thread ∧ later.freed = earlier.freed := by
    intro other earlier there
    rw [conns_setConn]
    split
    · rename_i here
      subst here
      obtain rfl := Option.some.inj (given.symm.trans there)
      exact ⟨_, rfl, rfl, rfl⟩
    · exact ⟨earlier, there, rfl, rfl⟩
  refine ⟨⟨before.entries.bound, ?_, before.entries.entered, ?_, before.entries.alive,
    before.entries.living⟩, ⟨?_, ?_, ?_, ?_, ?_, before.tables.apart, ?_, before.tables.freeing,
    before.tables.retired⟩⟩
  · intro id record made
    have present := before.entries.known id record made
    cases there : state.conns record.conn with
    | none => exact absurd there present
    | some earlier =>
      obtain ⟨later, found, _⟩ := still _ earlier there
      simp [found]
  · intro other later there living
    obtain ⟨earlier, found, _, freed, _⟩ := same other later there
    exact before.entries.kept other earlier found (freed ▸ living)
  · intro other later there living
    obtain ⟨earlier, found, _, freed, tables⟩ := same other later there
    rw [tables]
    exact before.tables.own other earlier found (freed ▸ living)
  · intro other later there living
    obtain ⟨earlier, found, _, freed, tables⟩ := same other later there
    rw [tables]
    exact before.tables.counted other earlier found (freed ▸ living)
  · intro other later there gone
    obtain ⟨earlier, found, _, freed, tables⟩ := same other later there
    rw [tables]
    exact before.tables.scalars other earlier found (freed ▸ gone)
  · intro other later there gone
    obtain ⟨earlier, found, _, freed, tables⟩ := same other later there
    rw [tables]
    exact before.tables.copies other earlier found (freed ▸ gone)
  · intro thread frame inside
    obtain ⟨earlier, found, own, freed⟩ := before.tables.frames thread frame inside
    obtain ⟨later, there, same_thread, same_freed⟩ := still _ earlier found
    exact ⟨later, there, same_thread.trans own, same_freed ▸ freed⟩
  · intro other key previous id pending
    obtain ⟨entered, own⟩ := before.tables.replacing other key previous id pending
    refine ⟨entered, fun later there => ?_⟩
    obtain ⟨earlier, found, _, _, tables⟩ := same other later there
    rw [tables]
    exact own earlier found

/-- What a registration does to slots and records. -/
structure Makes (state after : State) (new : Record) (replaced : Option Nat) : Prop where
  /-- It has the next number. -/
  count : after.count = state.count + 1
  /-- It is there. -/
  made : after.records state.count = some new
  /-- It is alive. -/
  alive : new.alive = true
  /-- The replaced one is dead. -/
  killed : ∀ id, replaced = some id → id ≠ state.count → ∀ record, after.records id = some record →
    record.alive = false ∧ ∃ old, state.records id = some old ∧
      record.Of old.kind old.key old.conn
  /-- The others stay. -/
  others : ∀ id, id ≠ state.count → replaced ≠ some id → after.records id = state.records id
  /-- Its entry is set. -/
  entry : ∀ kind key conn, after.entry kind key conn =
    if new.Of kind key conn then some state.count else state.entry kind key conn

/-- Two names of one registration are the same. -/
theorem Record.Of.same {record : Record} {kind other : Kind} {key name : Bytes} {conn id : Nat}
    (first : record.Of kind key conn) (second : record.Of other name id) :
    kind = other ∧ key = name ∧ conn = id :=
  ⟨first.1.symm.trans second.1, first.2.1.symm.trans second.2.1,
    first.2.2.symm.trans second.2.2⟩

/-- A registration that was entered has a number that was given. -/
theorem Entries.given (before : Entries state) {id : Nat} {record : Record}
    (made : state.records id = some record) : id < state.count := by
  by_contra beyond
  have absent := before.bound id (Nat.not_lt.mp beyond)
  rw [made] at absent
  cases absent

/-- A registration keeps slots and records in order when the one that it replaces was its entry. -/
theorem Entries.makes (before : Entries state) {new : Record}
    (makes : Makes state after new (state.entry new.kind new.key new.conn))
    (conns : ∀ other later, after.conns other = some later →
      ∃ earlier, state.conns other = some earlier ∧ later.freed = earlier.freed)
    (present : ∀ other, state.conns other ≠ none → after.conns other ≠ none)
    (owner : state.conns new.conn ≠ none)
    (retired : ∀ kind key conn id, state.Retired kind key conn id →
      after.Retired kind key conn id) : Entries after := by
  -- An entry of another name is not the replaced one.
  have unreplaced : ∀ kind key conn id, state.entry kind key conn = some id →
      ¬new.Of kind key conn → state.entry new.kind new.key new.conn ≠ some id := by
    intro kind key conn id entered other same
    obtain ⟨⟨record, made, of⟩, _⟩ := before.entered kind key conn id entered
    obtain ⟨⟨found, there, named⟩, _⟩ := before.entered _ _ _ id same
    obtain rfl := Option.some.inj (made.symm.trans there)
    obtain ⟨kinds, keys, conns⟩ := named.same of
    exact other ⟨kinds, keys, conns⟩
  -- Every later registration is the new one, or one of before.
  have origin : ∀ id record, after.records id = some record →
      id = state.count ∧ record = new ∨
        id ≠ state.count ∧ ∃ old, state.records id = some old ∧
          record.Of old.kind old.key old.conn := by
    intro id record made
    by_cases newest : id = state.count
    · subst newest
      exact Or.inl ⟨rfl, Option.some.inj (made.symm.trans makes.made)⟩
    · refine Or.inr ⟨newest, ?_⟩
      by_cases replaced : state.entry new.kind new.key new.conn = some id
      · exact (makes.killed id replaced newest record made).2
      · rw [makes.others id newest replaced] at made
        exact ⟨record, made, rfl, rfl, rfl⟩
  have below : ∀ id record, after.records id = some record → id ≤ state.count := by
    intro id record made
    rcases origin id record made with ⟨newest, _⟩ | ⟨_, old, found, _⟩
    · exact newest.le
    · exact (before.given found).le
  refine ⟨?_, ?_, ?_, ?_, ?_, ?_⟩
  · intro id beyond
    rw [makes.count] at beyond
    cases made : after.records id with
    | none => rfl
    | some record =>
      have := below id record made
      omega
  · intro id record made
    apply present
    rcases origin id record made with ⟨_, rfl⟩ | ⟨_, old, found, of⟩
    · exact owner
    · rw [of.2.2]
      exact before.known id old found
  · intro kind key conn id entered
    rw [makes.entry] at entered
    split at entered
    · rename_i of
      obtain rfl := Option.some.inj entered
      exact ⟨⟨new, makes.made, of⟩, fun other record made _ => below other record made⟩
    · rename_i other
      obtain ⟨⟨record, made, of⟩, latest⟩ := before.entered kind key conn id entered
      refine ⟨⟨record, ?_, of⟩, fun third found there named => ?_⟩
      · rw [makes.others id (before.given made).ne (unreplaced kind key conn id entered other)]
        exact made
      · rcases origin third found there with ⟨_, rfl⟩ | ⟨_, old, earlier, same⟩
        · exact absurd named other
        · obtain ⟨kinds, keys, conns⟩ := same.same named
          exact latest third old earlier ⟨kinds, keys, conns⟩
  · intro other later there living id record made same
    obtain ⟨earlier, found, freed⟩ := conns other later there
    rw [makes.entry]
    split
    · simp
    · rcases origin id record made with ⟨_, rfl⟩ | ⟨_, old, here, of⟩
      · rename_i another
        exact absurd ⟨rfl, rfl, same⟩ another
      · rw [of.1, of.2.1]
        exact before.kept other earlier found (freed ▸ living) id old here (of.2.2.symm.trans same)
  · intro id record made alive
    rw [makes.entry]
    by_cases newest : id = state.count
    · subst newest
      obtain rfl := Option.some.inj (made.symm.trans makes.made)
      exact if_pos ⟨rfl, rfl, rfl⟩
    · by_cases replaced : state.entry new.kind new.key new.conn = some id
      · have dead := (makes.killed id replaced newest record made).1
        rw [dead] at alive
        cases alive
      · rw [makes.others id newest replaced] at made
        have entered := before.alive id record made alive
        rw [if_neg]
        · exact entered
        · rintro ⟨kinds, keys, conns⟩
          rw [kinds, keys, conns] at replaced
          exact replaced entered
  · intro kind key conn id entered unretired record made
    rw [makes.entry] at entered
    split at entered
    · obtain rfl := Option.some.inj entered
      obtain rfl := Option.some.inj (made.symm.trans makes.made)
      exact makes.alive
    · rename_i other
      obtain ⟨⟨found, there, _⟩, _⟩ := before.entered kind key conn id entered
      rw [makes.others id (before.given there).ne (unreplaced kind key conn id entered other)]
        at made
      exact before.living kind key conn id entered (fun gone => unretired (retired _ _ _ _ gone))
        record made

/-- A registration that is being retired has a number that was given before. -/
theorem Consistent.retired_given (before : Consistent state) {conn id : Nat} {key : Bytes}
    {rest : List (Bytes × Nat)} (pending : state.Pending (.retired conn key id rest)) :
    ∃ record, state.records id = some record ∧ record.alive = false ∧ id < state.count := by
  obtain ⟨_, left⟩ := before.tables.freeing _ pending rfl
  have entered : state.entry .copy key conn = some id := by
    rw [show state.entry .copy key conn = _ from left key]
    simp [Frame.rest, find]
  obtain ⟨⟨record, made, _⟩, _⟩ := before.entries.entered _ _ _ id entered
  exact ⟨record, made, before.tables.retired conn key id rest pending record made,
    before.entries.given made⟩

/-- A registration that is being retired stays dead when another one is made. -/
theorem Makes.retired {new : Record} {replaced : Option Nat}
    (makes : Makes state after new replaced) (before : Consistent state) {conn id : Nat}
    {key : Bytes} {rest : List (Bytes × Nat)} (pending : state.Pending (.retired conn key id rest))
    {record : Record} (made : after.records id = some record) : record.alive = false := by
  obtain ⟨old, found, dead, given⟩ := before.retired_given pending
  by_cases killed : replaced = some id
  · exact (makes.killed id killed given.ne record made).1
  · rw [makes.others id given.ne killed, found] at made
    obtain rfl := Option.some.inj made
    exact dead

/-- The new table of a connection that registered something. -/
structure Writes (connection later : Conn) (new : Record) (count : Nat) : Prop where
  /-- It is the same connection. -/
  thread : later.thread = connection.thread
  /-- It is not freed. -/
  freed : later.freed = false
  /-- The name has the new registration, and the others stay. -/
  regs : ∀ kind key, find key (later.tables kind).regs =
    if new.kind = kind ∧ new.key = key then some count
    else find key (connection.tables kind).regs
  /-- The counters count. -/
  counted : ∀ kind, (later.tables kind).registrations = (later.tables kind).regs.length ∧
    (keys (later.tables kind).regs).Nodup

/-- A registration that writes its table at once. -/
theorem Tables.written (before : Consistent state) {new : Record} {replaced : Option Nat}
    (makes : Makes state after new replaced)
    (given : state.conns new.conn = some connection) (living : connection.freed = false)
    {later : Conn} (writes : Writes connection later new state.count)
    (conns : ∀ other, after.conns other =
      if other = new.conn then some later else state.conns other)
    (frames : after.callStacks = state.callStacks)
    (undisturbed : new.kind = .copy → ¬state.Replacing new.conn new.key) : Tables after := by
  have others : ∀ other third, other ≠ new.conn → after.conns other = some third →
      state.conns other = some third := by
    intro other third apart there
    rw [conns, if_neg apart] at there
    exact there
  have here : ∀ third, after.conns new.conn = some third → third = later := by
    intro third there
    rw [conns, if_pos rfl] at there
    exact (Option.some.inj there).symm
  have kept : ∀ kind key other, other ≠ new.conn →
      after.entry kind key other = state.entry kind key other := by
    intro kind key other apart
    rw [makes.entry, if_neg]
    exact fun of => apart of.2.2.symm
  have pending : ∀ frame, after.Pending frame ↔ state.Pending frame := by
    intro frame
    simp only [State.Pending, frames]
  have freed_apart : ∀ other third, after.conns other = some third → third.freed = true →
      other ≠ new.conn := by
    rintro other third there gone rfl
    rw [here third there, writes.freed] at gone
    cases gone
  refine ⟨?_, ?_, ?_, ?_, ?_, ?_, ?_, ?_, ?_⟩
  · intro other third there alive kind key free
    have free' : kind = .copy → ¬state.Replacing other key := by
      rintro same ⟨thread, previous, id, inside⟩
      exact free same ⟨thread, previous, id, by rw [frames]; exact inside⟩
    by_cases same : other = new.conn
    · subst same
      obtain rfl := here third there
      rw [writes.regs, makes.entry]
      by_cases of : new.kind = kind ∧ new.key = key
      · rw [if_pos of, if_pos ⟨of.1, of.2, rfl⟩]
      · rw [if_neg of, if_neg fun all => of ⟨all.1, all.2.1⟩]
        exact before.tables.own _ connection given living kind key free'
    · rw [kept kind key other same]
      exact before.tables.own other third (others other third same there) alive kind key free'
  · intro other third there alive kind
    by_cases same : other = new.conn
    · subst same
      obtain rfl := here third there
      exact writes.counted kind
    · exact before.tables.counted other third (others other third same there) alive kind
  · intro other third there gone
    have apart := freed_apart other third there gone
    obtain ⟨table, none⟩ := before.tables.scalars other third (others other third apart there) gone
    exact ⟨table, fun key => (kept _ key other apart).trans (none key)⟩
  · intro other third there gone quiet
    have apart := freed_apart other third there gone
    have quiet' : state.Quiet other := by
      intro thread frame inside
      exact quiet thread frame (by rw [frames]; exact inside)
    obtain ⟨table, none⟩ :=
      before.tables.copies other third (others other third apart there) gone quiet'
    exact ⟨table, fun key => (kept _ key other apart).trans (none key)⟩
  · intro thread frame inside
    rw [frames] at inside
    obtain ⟨third, there, own, named⟩ := before.tables.frames thread frame inside
    by_cases same : frame.conn = new.conn
    · rw [same] at there
      obtain rfl := Option.some.inj (given.symm.trans there)
      refine ⟨later, by rw [conns, if_pos same], writes.thread.trans own, ?_⟩
      rw [writes.freed, ← living]
      exact named
    · exact ⟨third, by rw [conns, if_neg same]; exact there, own, named⟩
  · intro thread
    rw [frames]
    exact before.tables.apart thread
  · intro other key previous id waits
    obtain ⟨entered, own⟩ := before.tables.replacing other key previous id ((pending _).mp waits)
    have apart : ¬new.Of .copy key other := by
      rintro ⟨kinds, rfl, rfl⟩
      obtain ⟨thread, inside⟩ := (pending _).mp waits
      exact undisturbed kinds ⟨thread, previous, id, inside⟩
    refine ⟨by rw [makes.entry, if_neg apart]; exact entered, fun third there => ?_⟩
    by_cases same : other = new.conn
    · subst same
      obtain rfl := here third there
      rw [writes.regs, if_neg fun both => apart ⟨both.1, both.2, rfl⟩]
      exact own connection given
    · exact own third (others other third same there)
  · intro frame waits unnamed
    obtain ⟨distinct, left⟩ := before.tables.freeing frame ((pending frame).mp waits) unnamed
    refine ⟨distinct, fun key => ?_⟩
    have apart : frame.conn ≠ new.conn := by
      intro same
      obtain ⟨thread, inside⟩ := (pending frame).mp waits
      obtain ⟨third, there, _, named⟩ := before.tables.frames thread frame inside
      rw [same] at there
      obtain rfl := Option.some.inj (given.symm.trans there)
      rw [named.mpr unnamed] at living
      cases living
    exact (kept _ key _ apart).trans (left key)
  · intro other key id rest waits record made
    exact makes.retired before ((pending _).mp waits) made

/-- A registration that first releases the handler that it replaces. -/
theorem Tables.replaces (before : Consistent state) {new : Record} {replaced : Option Nat}
    (makes : Makes state after new replaced)
    (given : state.conns new.conn = some connection) (living : connection.freed = false)
    (own_thread : connection.thread = thread) (kind : new.kind = .copy) {previous : Nat}
    (found : find new.key (connection.tables .copy).regs = some previous)
    (conns : after.conns = state.conns)
    (frames : after.callStacks = Function.update state.callStacks thread
      (.replacing new.conn new.key previous state.count :: state.callStacks thread))
    (undisturbed : ¬state.Replacing new.conn new.key) : Tables after := by
  have stack : ∀ other, after.callStacks other = if other = thread then
      .replacing new.conn new.key previous state.count :: state.callStacks thread
      else state.callStacks other := by
    intro other
    rw [frames, Function.update_apply]
  have older : ∀ other frame, frame ∈ state.callStacks other → frame ∈ after.callStacks other := by
    intro other frame inside
    rw [stack]
    split
    · rename_i same
      subst same
      exact List.mem_cons_of_mem _ inside
    · exact inside
  have newer : ∀ other frame, frame ∈ after.callStacks other →
      frame ∈ state.callStacks other ∨
        other = thread ∧ frame = .replacing new.conn new.key previous state.count := by
    intro other frame inside
    rw [stack] at inside
    split at inside
    · rename_i same
      rcases List.mem_cons.mp inside with newest | earlier
      · exact Or.inr ⟨same, newest⟩
      · subst same
        exact Or.inl earlier
    · exact Or.inl inside
  have pending : ∀ frame, after.Pending frame → state.Pending frame ∨
      frame = .replacing new.conn new.key previous state.count := by
    rintro frame ⟨other, inside⟩
    rcases newer other frame inside with earlier | ⟨_, same⟩
    · exact Or.inl ⟨other, earlier⟩
    · exact Or.inr same
  have kept : ∀ kind key other, ¬new.Of kind key other →
      after.entry kind key other = state.entry kind key other := by
    intro kind key other apart
    rw [makes.entry, if_neg apart]
  have replacing_now : after.Replacing new.conn new.key := by
    refine ⟨thread, previous, state.count, ?_⟩
    rw [stack, if_pos rfl]
    exact List.mem_cons_self
  have freed_apart : ∀ other third, state.conns other = some third → third.freed = true →
      other ≠ new.conn := by
    rintro other third there gone rfl
    obtain rfl := Option.some.inj (given.symm.trans there)
    rw [living] at gone
    cases gone
  refine ⟨?_, ?_, ?_, ?_, ?_, ?_, ?_, ?_, ?_⟩
  · intro other third there alive some_kind key free
    rw [conns] at there
    have apart : ¬new.Of some_kind key other := by
      rintro ⟨kinds, rfl, rfl⟩
      exact free (kinds.symm.trans kind) replacing_now
    rw [kept _ _ _ apart]
    refine before.tables.own other third there alive some_kind key ?_
    rintro same ⟨some_thread, previous, id, inside⟩
    exact free same ⟨some_thread, previous, id, older _ _ inside⟩
  · intro other third there
    rw [conns] at there
    exact before.tables.counted other third there
  · intro other third there gone
    rw [conns] at there
    obtain ⟨table, none⟩ := before.tables.scalars other third there gone
    exact ⟨table, fun key =>
      (kept _ _ _ fun of => freed_apart other third there gone of.2.2.symm).trans (none key)⟩
  · intro other third there gone quiet
    rw [conns] at there
    obtain ⟨table, none⟩ := before.tables.copies other third there gone
      fun some_thread frame inside => quiet some_thread frame (older _ _ inside)
    exact ⟨table, fun key =>
      (kept _ _ _ fun of => freed_apart other third there gone of.2.2.symm).trans (none key)⟩
  · intro some_thread frame inside
    rw [conns]
    rcases newer some_thread frame inside with earlier | ⟨same, rfl⟩
    · exact before.tables.frames some_thread frame earlier
    · refine ⟨connection, given, own_thread.trans same.symm, ?_⟩
      rw [living]
      simp [Frame.name?]
  · intro some_thread
    rw [stack]
    split
    · rename_i same
      subst same
      refine List.Pairwise.cons ?_ (before.tables.apart _)
      intro frame inside same
      obtain ⟨third, there, _, named⟩ := before.tables.frames _ frame inside
      rw [← same] at there
      obtain rfl := Option.some.inj (given.symm.trans there)
      cases frame with
      | replacing other key first second =>
        refine ⟨new.key, key, rfl, rfl, ?_⟩
        rintro rfl
        have here : new.conn = other := same
        subst here
        exact undisturbed ⟨_, first, second, inside⟩
      | freeing other rest =>
        rw [named.mpr rfl] at living
        cases living
      | retired other key id rest =>
        rw [named.mpr rfl] at living
        cases living
    · exact before.tables.apart some_thread
  · intro other key first id waits
    rw [conns]
    rcases pending _ waits with earlier | same
    · obtain ⟨entered, own⟩ := before.tables.replacing other key first id earlier
      refine ⟨?_, own⟩
      rw [kept]
      · exact entered
      · rintro ⟨_, rfl, rfl⟩
        obtain ⟨some_thread, inside⟩ := earlier
        exact undisturbed ⟨some_thread, first, id, inside⟩
    · obtain ⟨rfl, rfl, rfl, rfl⟩ := Frame.replacing.inj same
      refine ⟨by rw [makes.entry, if_pos ⟨kind, rfl, rfl⟩], fun third there => ?_⟩
      obtain rfl := Option.some.inj (given.symm.trans there)
      exact found
  · intro frame waits unnamed
    rcases pending frame waits with earlier | rfl
    · obtain ⟨distinct, left⟩ := before.tables.freeing frame earlier unnamed
      refine ⟨distinct, fun key => ?_⟩
      obtain ⟨some_thread, inside⟩ := earlier
      obtain ⟨third, there, _, named⟩ := before.tables.frames some_thread frame inside
      rw [kept]
      · exact left key
      · exact fun of => freed_apart _ third there (named.mpr unnamed) of.2.2.symm
    · cases unnamed
  · intro other key id rest waits record made
    rcases pending _ waits with earlier | same
    · exact makes.retired before earlier made
    · cases same

/-- The registration that a call makes. -/
def Call.record (call : Call) (thread conn : Nat) (key : Bytes) : Record :=
  ⟨call.kind, call.name, key, thread, conn, true, call.kind = .copy⟩

/-- A call that makes its registration enters it and leaves the other entries. -/
theorem entry_make {call : Call} {key : Bytes} {slots : List (Bytes × Slot)}
    (ensured : ensureSlot call (state.slots call.kind) key = some slots) (kind : Kind)
    (name : Bytes) (other : Nat) :
    (state.make thread conn call key slots).entry kind name other =
      if (call.record thread conn key).Of kind name other then some state.count
      else state.entry kind name other := by
  obtain ⟨there, same⟩ := slotEntry_ensureSlot ensured
  by_cases kinds : kind = call.kind
  · subst kinds
    have published : slotEntry (publish slots key conn state.count) name other = _ :=
      slotEntry_publish there name other
    simp only [State.make, State.setSlots, State.entry, Function.update_self]
    rw [published, same]
    simp only [Record.Of, Call.record, true_and]
  · have apart : ¬(call.record thread conn key).Of kind name other := fun of => kinds of.1.symm
    rw [if_neg apart]
    simp only [State.make, State.setSlots, State.entry, Function.update_of_ne kinds]

/-- A call that replaces nothing makes its registration. -/
theorem make_makes (thread conn : Nat) {call : Call} {key : Bytes} {slots : List (Bytes × Slot)}
    (ensured : ensureSlot call (state.slots call.kind) key = some slots) :
    Makes state (state.make thread conn call key slots) (call.record thread conn key) none where
  count := rfl
  made := Function.update_self _ _ _
  alive := rfl
  killed id never := by cases never
  others id apart _ := Function.update_of_ne apart _ _
  entry := entry_make ensured

/-- A call that kills the registration that it replaces. -/
theorem kill_makes {call : Call} {key : Bytes} {slots : List (Bytes × Slot)} {previous : Nat}
    (ensured : ensureSlot call (state.slots call.kind) key = some slots)
    (given : previous < state.count)
    (records : after.records = ((state.make thread conn call key slots).kill previous).records)
    (count : after.count = state.count + 1)
    (kept : after.slots = (state.make thread conn call key slots).slots) :
    Makes state after (call.record thread conn key) (some previous) where
  count := count
  made := by
    rw [records]
    exact (Function.update_of_ne given.ne' _ _).trans (Function.update_self _ _ _)
  alive := rfl
  killed id same apart record made := by
    obtain rfl := Option.some.inj same
    rw [records] at made
    have old : (state.make thread conn call key slots).records previous = state.records previous :=
      Function.update_of_ne apart _ _
    simp only [State.kill, State.setRecord, Function.update_self, old] at made
    obtain ⟨before, found, rfl⟩ := Option.map_eq_some_iff.mp made
    exact ⟨rfl, before, found, rfl, rfl, rfl⟩
  others id apart unreplaced := by
    have different : id ≠ previous := fun same => unreplaced (congrArg some same.symm)
    rw [records]
    exact (Function.update_of_ne different _ _).trans (Function.update_of_ne apart _ _)
  entry kind name other := by
    rw [← entry_make ensured, State.entry, State.entry, kept]

/-- Retiring a registration kills it and changes nothing but registrations. -/
theorem retire_eq (state : State) (id : Nat) :
    (state.retire id).records = (state.kill id).records ∧
      (state.retire id).slots = state.slots ∧ (state.retire id).conns = state.conns ∧
      (state.retire id).count = state.count ∧
      (state.retire id).callStacks = state.callStacks := by
  unfold State.retire
  dsimp only
  split <;> exact ⟨rfl, rfl, rfl, rfl, rfl⟩

/-- The key of a call that replaces something, or of a new one, in its table. -/
theorem writes_table (thread : Nat) {call : Call} {key : Bytes} (before : Consistent state)
    (given : state.conns conn = some connection) (living : connection.freed = false)
    {registrations : Nat} (counts : registrations = (update key state.count
      (connection.tables call.kind).regs).length) :
    Writes connection (connection.setTable call.kind
      ⟨update key state.count (connection.tables call.kind).regs, registrations⟩)
      (call.record thread conn key) state.count where
  thread := rfl
  freed := living
  regs kind name := by
    by_cases kinds : kind = call.kind
    · subst kinds
      simp only [Conn.setTable, Function.update_self, find_update, Call.record, true_and]
    · have apart : ¬((call.record thread conn key).kind = kind ∧
          (call.record thread conn key).key = name) := fun both => kinds both.1.symm
      rw [if_neg apart]
      simp only [Conn.setTable, Function.update_of_ne kinds]
  counted kind := by
    by_cases kinds : kind = call.kind
    · subst kinds
      simp only [Conn.setTable, Function.update_self]
      exact ⟨counts, nodup_update (before.tables.counted conn connection given living _).2 _ _⟩
    · simp only [Conn.setTable, Function.update_of_ne kinds]
      exact before.tables.counted conn connection given living kind

/-- A registering call keeps the database consistent. -/
theorem Consistent.register (before : Consistent state) {call : Call} {key : Bytes}
    {slots : List (Bytes × Slot)} (given : state.conns conn = some connection)
    (own : connection.thread = thread) (living : connection.freed = false)
    (ensured : ensureSlot call (state.slots call.kind) key = some slots)
    (undisturbed : call.kind = .copy → ¬state.Replacing conn key) :
    Consistent (register state thread conn connection call key slots) := by
  have owner : state.conns conn ≠ none := by simp [given]
  have entry : find key (connection.tables call.kind).regs = state.entry call.kind key conn :=
    before.tables.own conn connection given living call.kind key undisturbed
  have numbers := before.tables.counted conn connection given living call.kind
  -- What a table that is written at once does to the connections.
  have written : ∀ (later : Conn) (result : State), later.freed = false →
      result.conns = Function.update state.conns conn (some later) →
        (∀ other third, result.conns other = some third →
          ∃ earlier, state.conns other = some earlier ∧ third.freed = earlier.freed) ∧
        ∀ other, state.conns other ≠ none → result.conns other ≠ none := by
    intro later result freed conns
    refine ⟨fun other third there => ?_, fun other present => ?_⟩
    · rw [conns, Function.update_apply] at there
      split at there
      · rename_i same
        subst same
        obtain rfl := Option.some.inj there
        exact ⟨connection, given, freed.trans living.symm⟩
      · exact ⟨third, there, rfl⟩
    · rw [conns, Function.update_apply]
      split
      · simp
      · exact present
  unfold Registration.register
  dsimp only
  cases replaced : find key (connection.tables call.kind).regs with
  | none =>
    rw [replaced] at entry
    dsimp only
    have makes := make_makes thread conn ensured
    have counts : (connection.tables call.kind).registrations + 1 =
        (update key state.count (connection.tables call.kind).regs).length := by
      rw [length_update, if_pos replaced, numbers.1]
    have writes := writes_table thread before given living counts
    obtain ⟨conns, present⟩ := written (connection.setTable call.kind
      ⟨update key state.count (connection.tables call.kind).regs,
        (connection.tables call.kind).registrations + 1⟩)
      ((state.make thread conn call key slots).setConn conn _) living rfl
    have makes' : Makes state ((state.make thread conn call key slots).setConn conn
        (connection.setTable call.kind
          ⟨update key state.count (connection.tables call.kind).regs,
            (connection.tables call.kind).registrations + 1⟩))
        (call.record thread conn key) none :=
      ⟨makes.count, makes.made, makes.alive, makes.killed, makes.others, makes.entry⟩
    refine ⟨before.entries.makes (entry ▸ makes') conns present owner fun _ _ _ _ gone => gone,
      Tables.written before makes' given living writes (fun other => ?_) rfl undisturbed⟩
    exact Function.update_apply _ _ _ _
  | some previous =>
    rw [replaced] at entry
    obtain ⟨⟨old, found, _⟩, _⟩ := before.entries.entered _ _ _ previous entry.symm
    have below := before.entries.given found
    cases kind : call.kind with
    | copy =>
      dsimp only
      rw [kind] at replaced
      obtain ⟨records, retired_slots, conns, count, frames⟩ :=
        retire_eq (state.make thread conn call key slots) previous
      have makes : Makes state (((state.make thread conn call key slots).retire previous).setStack
          thread (.replacing conn key previous state.count :: state.callStacks thread))
          (call.record thread conn key) (some previous) :=
        kill_makes ensured below records count retired_slots
      refine ⟨before.entries.makes (entry ▸ makes) (fun other third there => ?_)
        (fun other present => ?_) owner (fun _ _ _ _ gone => ?_),
        Tables.replaces before makes given living own kind replaced conns ?_ (undisturbed kind)⟩
      · exact ⟨third, (congrFun conns other).symm.trans there, rfl⟩
      · intro absent
        exact present ((congrFun conns other).symm.trans absent)
      · obtain ⟨copy, rest, some_thread, inside⟩ := gone
        refine ⟨copy, rest, some_thread, ?_⟩
        simp only [State.setStack, Function.update_apply]
        split
        · rename_i same
          subst same
          exact List.mem_cons_of_mem _ inside
        · rw [frames]
          exact inside
      · simp only [State.setStack, frames]
        rfl
    | scalar =>
      dsimp only
      have makes : Makes state (((state.make thread conn call key slots).kill previous).setConn conn
          (connection.setTable .scalar { connection.tables call.kind with
            regs := update key state.count (connection.tables call.kind).regs }))
          (call.record thread conn key) (some previous) :=
        kill_makes ensured below rfl rfl rfl
      have counts : (connection.tables call.kind).registrations =
          (update key state.count (connection.tables call.kind).regs).length := by
        rw [length_update, if_neg (by simp [replaced]), numbers.1]
      have writes := writes_table thread before given living counts
      rw [kind] at makes writes
      obtain ⟨conns, present⟩ := written (connection.setTable .scalar
        { connection.tables .scalar with
          regs := update key state.count (connection.tables .scalar).regs })
        (((state.make thread conn call key slots).kill previous).setConn conn _)
        living rfl
      refine ⟨before.entries.makes (entry ▸ makes) conns present owner fun _ _ _ _ gone => gone,
        Tables.written before makes given living writes (fun other => ?_) rfl undisturbed⟩
      exact Function.update_apply _ _ _ _

/-- What `Tables` says of one connection. -/
structure TablesAt (state : State) (conn : Nat) : Prop where
  /-- Its table has the entries of the slots. -/
  own : ∀ connection, state.conns conn = some connection → connection.freed = false →
    ∀ kind key, (kind = .copy → ¬state.Replacing conn key) →
      find key (connection.tables kind).regs = state.entry kind key conn
  /-- Its counters count the names. -/
  counted : ∀ connection, state.conns conn = some connection → connection.freed = false →
    ∀ kind, (connection.tables kind).registrations = (connection.tables kind).regs.length ∧
      (keys (connection.tables kind).regs).Nodup
  /-- Freed, it has no scalar functions. -/
  scalars : ∀ connection, state.conns conn = some connection → connection.freed = true →
    connection.tables .scalar = ⟨[], 0⟩ ∧ ∀ key, state.entry .scalar key conn = none
  /-- Once no frame is left it has no COPY formats either. -/
  copies : ∀ connection, state.conns conn = some connection → connection.freed = true →
    state.Quiet conn →
      connection.tables .copy = ⟨[], 0⟩ ∧ ∀ key, state.entry .copy key conn = none
  /-- Its frames are on its thread. -/
  frames : ∀ thread frame, frame ∈ state.callStacks thread → frame.conn = conn →
    ∃ connection, state.conns conn = some connection ∧ connection.thread = thread ∧
      (connection.freed = true ↔ frame.name? = none)
  /-- While a handler is replaced the slot is ahead of the table. -/
  replacing : ∀ key previous id, state.Pending (.replacing conn key previous id) →
    state.entry .copy key conn = some id ∧ ∀ connection, state.conns conn = some connection →
      find key (connection.tables .copy).regs = some previous
  /-- While it is freed its slots have what the frame has left. -/
  freeing : ∀ frame, state.Pending frame → frame.conn = conn → frame.name? = none →
    (keys frame.rest).Nodup ∧ ∀ key, state.entry .copy key conn = find key frame.rest
  /-- A registration that is being retired is dead. -/
  retired : ∀ key id rest, state.Pending (.retired conn key id rest) →
    ∀ record, state.records id = some record → record.alive = false

/-- A step on one connection leaves the tables of the others. -/
theorem Tables.local (before : Tables state) (conn : Nat)
    (conns : ∀ other, other ≠ conn → after.conns other = state.conns other)
    (entries : ∀ kind key other, other ≠ conn →
      after.entry kind key other = state.entry kind key other)
    (frames : ∀ thread frame, frame.conn ≠ conn →
      (frame ∈ after.callStacks thread ↔ frame ∈ state.callStacks thread))
    (records : ∀ id record, after.records id = some record →
      ∃ old, state.records id = some old ∧ (old.alive = false → record.alive = false))
    (apart : ∀ thread, (after.callStacks thread).Pairwise Frame.Apart)
    (here : TablesAt after conn) : Tables after := by
  have pending : ∀ frame, frame.conn ≠ conn → (after.Pending frame ↔ state.Pending frame) :=
    fun frame other => exists_congr fun thread => frames thread frame other
  refine ⟨?_, ?_, ?_, ?_, ?_, apart, ?_, ?_, ?_⟩
  · intro other connection given living kind key free
    by_cases same : other = conn
    · subst same
      exact here.own connection given living kind key free
    · rw [conns other same] at given
      rw [entries kind key other same]
      refine before.own other connection given living kind key fun copy => ?_
      rintro ⟨thread, previous, id, inside⟩
      exact free copy ⟨thread, previous, id, (frames thread (.replacing ..) same).mpr inside⟩
  · intro other connection given
    by_cases same : other = conn
    · subst same
      exact here.counted connection given
    · rw [conns other same] at given
      exact before.counted other connection given
  · intro other connection given freed
    by_cases same : other = conn
    · subst same
      exact here.scalars connection given freed
    · rw [conns other same] at given
      obtain ⟨table, none⟩ := before.scalars other connection given freed
      exact ⟨table, fun key => (entries _ key other same).trans (none key)⟩
  · intro other connection given freed quiet
    by_cases same : other = conn
    · subst same
      exact here.copies connection given freed quiet
    · rw [conns other same] at given
      have quiet' : state.Quiet other := by
        rintro thread frame inside rfl
        exact quiet thread frame ((frames thread frame same).mpr inside) rfl
      obtain ⟨table, none⟩ := before.copies other connection given freed quiet'
      exact ⟨table, fun key => (entries _ key other same).trans (none key)⟩
  · intro thread frame inside
    by_cases same : frame.conn = conn
    · obtain ⟨connection, given, rest⟩ := here.frames thread frame inside same
      exact ⟨connection, same ▸ given, rest⟩
    · rw [conns frame.conn same]
      exact before.frames thread frame ((frames thread frame same).mp inside)
  · intro other key previous id waits
    by_cases same : other = conn
    · subst same
      exact here.replacing key previous id waits
    · rw [conns other same, entries _ _ other same]
      exact before.replacing other key previous id ((pending (.replacing ..) same).mp waits)
  · intro frame waits unnamed
    by_cases same : frame.conn = conn
    · obtain ⟨distinct, left⟩ := here.freeing frame waits same unnamed
      exact ⟨distinct, same ▸ left⟩
    · obtain ⟨distinct, left⟩ := before.freeing frame ((pending _ same).mp waits) unnamed
      exact ⟨distinct, fun key => (entries _ key _ same).trans (left key)⟩
  · intro other key id rest waits record made
    by_cases same : other = conn
    · subst same
      exact here.retired key id rest waits record made
    · obtain ⟨old, found, fades⟩ := records id record made
      exact fades (before.retired other key id rest ((pending (.retired ..) same).mp waits) old found)

/-- Registrations stay, and some of them die. -/
structure Fades (state after : State) (dead : Nat → Prop) : Prop where
  /-- No number is given. -/
  count : after.count = state.count
  /-- Nothing else about a registration that matters changes. -/
  records : ∀ id record, after.records id = some record →
    ∃ old, state.records id = some old ∧ record.Of old.kind old.key old.conn ∧
      (dead id → record.alive = false) ∧ (¬dead id → record.alive = old.alive)
  /-- None is lost. -/
  present : ∀ id, state.records id ≠ none → after.records id ≠ none

/-- What a step does to registrations is about nothing else of the state. -/
theorem Fades.congr {middle : State} {dead : Nat → Prop} (fades : Fades state middle dead)
    (records : after.records = middle.records) (count : after.count = middle.count) :
    Fades state after dead where
  count := count.trans fades.count
  records := by
    rw [records]
    exact fades.records
  present := by
    rw [records]
    exact fades.present

/-- Slots and registrations stay in order when entries and registrations go together. -/
theorem Entries.fades (before : Entries state) {dead : Nat → Prop} (fades : Fades state after dead)
    (gone : Kind → Bytes → Nat → Prop)
    (erased : ∀ kind key conn, gone kind key conn → after.entry kind key conn = none)
    (kept : ∀ kind key conn, ¬gone kind key conn →
      after.entry kind key conn = state.entry kind key conn)
    (conns : ∀ other later, after.conns other = some later → later.freed = false →
      ∃ earlier, state.conns other = some earlier ∧ earlier.freed = false)
    (present : ∀ other, state.conns other ≠ none → after.conns other ≠ none)
    (freed : ∀ kind key conn, gone kind key conn → ∀ later, after.conns conn = some later →
      later.freed = true)
    (killed : ∀ kind key conn id, gone kind key conn → state.entry kind key conn = some id →
      ∀ record, after.records id = some record → record.alive = false)
    (dying : ∀ kind key conn id, dead id → state.entry kind key conn = some id →
      gone kind key conn ∨ after.Retired kind key conn id)
    (retired : ∀ kind key conn id, state.Retired kind key conn id →
      gone kind key conn ∨ after.Retired kind key conn id) : Entries after := by
  have kept_some : ∀ kind key conn id, after.entry kind key conn = some id →
      ¬gone kind key conn ∧ state.entry kind key conn = some id := by
    intro kind key conn id entered
    have stays : ¬gone kind key conn := by
      intro leaves
      rw [erased kind key conn leaves] at entered
      cases entered
    exact ⟨stays, (kept kind key conn stays).symm.trans entered⟩
  refine ⟨?_, ?_, ?_, ?_, ?_, ?_⟩
  · intro id beyond
    rw [fades.count] at beyond
    cases made : after.records id with
    | none => rfl
    | some record =>
      obtain ⟨old, found, _⟩ := fades.records id record made
      rw [before.bound id beyond] at found
      cases found
  · intro id record made
    obtain ⟨old, found, of, _⟩ := fades.records id record made
    rw [of.2.2]
    exact present _ (before.known id old found)
  · intro kind key conn id entered
    obtain ⟨_, earlier⟩ := kept_some kind key conn id entered
    obtain ⟨⟨old, found, of⟩, latest⟩ := before.entered kind key conn id earlier
    refine ⟨?_, fun other record made named => ?_⟩
    · cases made : after.records id with
      | none => exact absurd made (fades.present id (by simp [found]))
      | some record =>
        obtain ⟨same, there, names, _⟩ := fades.records id record made
        obtain rfl := Option.some.inj (found.symm.trans there)
        exact ⟨record, rfl, names.1.trans of.1, names.2.1.trans of.2.1, names.2.2.trans of.2.2⟩
    · obtain ⟨third, there, names, _⟩ := fades.records other record made
      obtain ⟨kinds, keys, conns⟩ := names.same named
      exact latest other third there ⟨kinds, keys, conns⟩
  · intro other later given living id record made same
    obtain ⟨earlier, found, living'⟩ := conns other later given living
    obtain ⟨old, there, of, _⟩ := fades.records id record made
    rw [kept, of.1, of.2.1]
    · exact before.kept other earlier found living' id old there (of.2.2.symm.trans same)
    · intro leaves
      rw [freed _ _ _ leaves later given] at living
      cases living
  · intro id record made alive
    obtain ⟨old, found, of, dies, lives⟩ := fades.records id record made
    have spared : ¬dead id := by
      intro deadly
      rw [dies deadly] at alive
      cases alive
    have entered := before.alive id old found ((lives spared).symm.trans alive)
    rw [of.1, of.2.1, of.2.2, kept]
    · exact entered
    · intro leaves
      rw [killed _ _ _ id leaves entered record made] at alive
      cases alive
  · intro kind key conn id entered unretired record made
    obtain ⟨stays, earlier⟩ := kept_some kind key conn id entered
    obtain ⟨old, found, _, _, lives⟩ := fades.records id record made
    have spared : ¬dead id := fun deadly =>
      (dying kind key conn id deadly earlier).elim stays unretired
    rw [lives spared]
    exact before.living kind key conn id earlier
      (fun was => (retired kind key conn id was).elim stays unretired) old found

/-- Slots and registrations stay in order when no entry is erased. -/
theorem Entries.kept_fades (before : Entries state) {dead : Nat → Prop} (fades : Fades state after dead)
    (kept : ∀ kind key conn, after.entry kind key conn = state.entry kind key conn)
    (conns : ∀ other later, after.conns other = some later → later.freed = false →
      ∃ earlier, state.conns other = some earlier ∧ earlier.freed = false)
    (present : ∀ other, state.conns other ≠ none → after.conns other ≠ none)
    (dying : ∀ kind key conn id, dead id → state.entry kind key conn = some id →
      after.Retired kind key conn id)
    (retired : ∀ kind key conn id, state.Retired kind key conn id →
      after.Retired kind key conn id) : Entries after := by
  refine before.fades fades (fun _ _ _ => False) (fun _ _ _ never => never.elim)
    (fun kind key conn _ => kept kind key conn) conns present ?_ ?_ ?_ ?_
  · intro _ _ _ never
    exact never.elim
  · intro _ _ _ _ never
    exact never.elim
  · intro kind key conn id deadly entered
    exact Or.inr (dying kind key conn id deadly entered)
  · intro kind key conn id was
    exact Or.inr (retired kind key conn id was)

/-- Nothing happens to registrations whose fields that matter stay. -/
theorem fades_setRecord (state : State) (id : Nat) (change : Record → Record)
    (named : ∀ record, (change record).Of record.kind record.key record.conn)
    (dead : Nat → Prop) (dies : dead id → ∀ record, (change record).alive = false)
    (lives : ¬dead id → ∀ record, (change record).alive = record.alive)
    (others : ∀ other, dead other → other = id) : Fades state (state.setRecord id change) dead where
  count := rfl
  records other record made := by
    by_cases same : other = id
    · subst same
      simp only [State.setRecord, Function.update_self] at made
      obtain ⟨old, found, rfl⟩ := Option.map_eq_some_iff.mp made
      exact ⟨old, found, named old, fun deadly => dies deadly old, fun spared => lives spared old⟩
    · simp only [State.setRecord, Function.update_of_ne same] at made
      exact ⟨record, made, ⟨rfl, rfl, rfl⟩, fun deadly => absurd (others other deadly) same,
        fun _ => rfl⟩
  present other there := by
    by_cases same : other = id
    · subst same
      simpa [State.setRecord] using there
    · simpa [State.setRecord, Function.update_of_ne same] using there

/-- A registration that is killed is dead. -/
theorem fades_kill (state : State) (id : Nat) :
    Fades state (state.kill id) fun other => other = id :=
  fades_setRecord state id (fun record => { record with alive := false })
    (fun _ => ⟨rfl, rfl, rfl⟩) (fun other => other = id) (fun _ _ => rfl)
    (fun spared => absurd rfl spared) fun _ same => same

/-- A registration whose handler is released does not die. -/
theorem fades_dropFunction (state : State) (id : Nat) :
    Fades state (state.dropFunction id) fun _ => False :=
  fades_setRecord state id (fun record => { record with function := false })
    (fun _ => ⟨rfl, rfl, rfl⟩) (fun _ => False) (fun never => never.elim)
    (fun _ _ => rfl) fun _ never => never.elim

/-- Erasing the scalar functions of a connection from their slots. -/
theorem freeScalars_spec (regs : List (Bytes × Nat)) (distinct : (keys regs).Nodup)
    (own : ∀ key, find key regs = state.entry .scalar key conn) :
    (freeScalars conn regs state).conns = state.conns ∧
      (freeScalars conn regs state).callStacks = state.callStacks ∧
      (∀ key other, (freeScalars conn regs state).entry .copy key other =
        state.entry .copy key other) ∧
      (∀ key other, (freeScalars conn regs state).entry .scalar key other =
        if other = conn then none else state.entry .scalar key other) ∧
      Fades state (freeScalars conn regs state) fun id => id ∈ regs.map Prod.snd := by
  induction regs generalizing state with
  | nil =>
    refine ⟨rfl, rfl, fun _ _ => rfl, fun key other => ?_, rfl, fun id record made => ?_, ?_⟩
    · split
      · rename_i same
        subst same
        exact (own key).symm
      · rfl
    · exact ⟨record, made, ⟨rfl, rfl, rfl⟩, (fun never => by cases never), fun _ => rfl⟩
    · exact fun _ there => there
  | cons entry rest ih =>
    obtain ⟨key, id⟩ := entry
    obtain ⟨absent, others⟩ := List.nodup_cons.mp distinct
    have first : state.entry .scalar key conn = some id := by
      rw [← own key]
      simp [find]
    have next_scalar : ∀ name other,
        ((state.kill id).setSlots .scalar (unpublish (state.slots .scalar) key conn id)).entry
          .scalar name other =
            if key = name ∧ conn = other then none else state.entry .scalar name other := by
      intro name other
      have erased := slotEntry_unpublish (state.slots .scalar) key conn id name other
      simp only [State.setSlots, State.kill, State.setRecord, State.entry, Function.update_self]
      rw [erased]
      have same : slotEntry (state.slots .scalar) key conn = some id := first
      simp only [same, and_true]
    have next_copy : ∀ name other,
        ((state.kill id).setSlots .scalar (unpublish (state.slots .scalar) key conn id)).entry
          .copy name other = state.entry .copy name other := fun _ _ => rfl
    have own' : ∀ name, find name rest =
        ((state.kill id).setSlots .scalar (unpublish (state.slots .scalar) key conn id)).entry
          .scalar name conn := by
      intro name
      rw [next_scalar]
      by_cases same : key = name
      · subst same
        rw [if_pos ⟨rfl, rfl⟩]
        cases found : find key rest with
        | none => rfl
        | some value => exact absurd (mem_keys.mpr ⟨value, found⟩) absent
      · rw [if_neg fun both => same both.1, ← own name]
        simp [find, same]
    obtain ⟨conns, frames, copies, scalars, fades⟩ := ih others own'
    refine ⟨conns, frames, fun name other => (copies name other).trans (next_copy name other),
      fun name other => ?_, fades.count, fun other record made => ?_, fun other there => ?_⟩
    · refine (scalars name other).trans ?_
      rw [next_scalar]
      by_cases here : other = conn
      · rw [if_pos here, if_pos here]
      · rw [if_neg here, if_neg here, if_neg fun both => here both.2.symm]
    · obtain ⟨middle, there, of, dies, lives⟩ := fades.records other record made
      obtain ⟨old, found, names, killed, spared⟩ := (fades_kill state id).records other middle there
      refine ⟨old, found, ?_, fun deadly => ?_, fun safe => ?_⟩
      · exact ⟨of.1.trans names.1, of.2.1.trans names.2.1, of.2.2.trans names.2.2⟩
      · by_cases later : other ∈ rest.map Prod.snd
        · exact dies later
        · have same : other = id := (List.mem_cons.mp deadly).resolve_right later
          exact (lives later).trans (killed same)
      · obtain ⟨apart, later⟩ := not_or.mp (fun either => safe (List.mem_cons.mpr either))
        exact (lives later).trans (spared apart)
    · apply fades.present
      exact (fades_kill state id).present other there

/-- A stack after another thread's, or this one's, was set. -/
theorem stack_setStack (state : State) (thread : Nat) (stack : List Frame) (other : Nat) :
    (state.setStack thread stack).callStacks other =
      if other = thread then stack else state.callStacks other :=
  Function.update_apply _ _ _ _

/-- What the release of a connection changes: its scalar functions go, and its COPY formats come
next. -/
structure Frees (state after : State) (thread conn : Nat) (connection : Conn) : Prop where
  /-- The connection is freed and has no scalar functions. -/
  conns : ∀ other, after.conns other =
    if other = conn then some { connection.setTable .scalar ⟨[], 0⟩ with freed := true }
    else state.conns other
  /-- A frame for its COPY formats is on top of the stack of its thread. -/
  stacked : ∀ other, after.callStacks other =
    if other = thread then .freeing conn (connection.tables .copy).regs :: state.callStacks thread
    else state.callStacks other
  /-- The slots of COPY formats stay. -/
  copies : ∀ key other, after.entry .copy key other = state.entry .copy key other
  /-- Its entries are erased from the slots of scalar functions. -/
  scalars : ∀ key other, after.entry .scalar key other =
    if other = conn then none else state.entry .scalar key other
  /-- Its scalar functions die. -/
  fades : Fades state after fun id => ∃ key, state.entry .scalar key conn = some id

/-- What holds of a connection that is about to be freed. -/
structure Freeable (state : State) (thread conn : Nat) (connection : Conn) : Prop where
  /-- It is open. -/
  given : state.conns conn = some connection
  /-- It is of the thread. -/
  own_thread : connection.thread = thread
  /-- Nothing is under way on it. -/
  quiet : state.Quiet conn
  /-- Its tables have the entries of the slots. -/
  own : ∀ kind key, find key (connection.tables kind).regs = state.entry kind key conn
  /-- Each name of a table is there once. -/
  distinct : ∀ kind, (keys (connection.tables kind).regs).Nodup

/-- A living connection without frames can be freed. -/
theorem Tables.freeable (before : Tables state) (given : state.conns conn = some connection)
    (own_thread : connection.thread = thread) (living : connection.freed = false)
    (idle : ∀ frame ∈ state.callStacks thread, frame.conn ≠ conn) :
    Freeable state thread conn connection := by
  have quiet : state.Quiet conn := by
    rintro other frame inside rfl
    obtain ⟨third, there, same, _⟩ := before.frames other frame inside
    obtain rfl := Option.some.inj (given.symm.trans there)
    exact idle frame (by rw [← own_thread, same]; exact inside) rfl
  refine ⟨given, own_thread, quiet, fun kind key => ?_, fun kind =>
    (before.counted conn connection given living kind).2⟩
  refine before.own conn connection given living kind key fun _ => ?_
  rintro ⟨other, previous, id, inside⟩
  exact quiet other _ inside rfl

/-- `free` makes these changes to a connection that can be freed. -/
theorem free_frees (freeable : Freeable state thread conn connection) :
    Frees state (free state thread conn connection) thread conn connection := by
  obtain ⟨conns, frames, copies, scalars, fades⟩ := freeScalars_spec
    (connection.tables .scalar).regs (freeable.distinct .scalar) (freeable.own .scalar)
  have member : ∀ id, (∃ key, state.entry .scalar key conn = some id) ↔
      id ∈ (connection.tables .scalar).regs.map Prod.snd := by
    intro id
    constructor
    · rintro ⟨key, entered⟩
      rw [← freeable.own .scalar key] at entered
      exact List.mem_map.mpr ⟨_, mem_of_find entered, rfl⟩
    · intro inside
      obtain ⟨⟨key, value⟩, there, rfl⟩ := List.mem_map.mp inside
      refine ⟨key, ?_⟩
      rw [← freeable.own .scalar key]
      exact (mem_iff_find (freeable.distinct .scalar)).mp there
  constructor
  · intro other
    rw [← conns]
    exact Function.update_apply _ _ _ _
  · intro other
    rw [free, stack_setStack]
    split
    · rfl
    · exact congrFun frames other
  · exact copies
  · exact scalars
  · simp only [member]
    exact ⟨fades.count, fades.records, fades.present⟩

section Frees

variable (freeable : Freeable state thread conn connection)
  (frees : Frees state after thread conn connection)

include frees

/-- What was under way still is. -/
theorem Frees.pending {frame : Frame} (waits : state.Pending frame) : after.Pending frame := by
  obtain ⟨other, inside⟩ := waits
  refine ⟨other, ?_⟩
  rw [frees.stacked]
  split
  · rename_i same
    subst same
    exact List.mem_cons_of_mem _ inside
  · exact inside

/-- A frame was there before, or is the one for the COPY formats. -/
theorem Frees.newer {other : Nat} {frame : Frame} (inside : frame ∈ after.callStacks other) :
    frame ∈ state.callStacks other ∨
      other = thread ∧ frame = .freeing conn (connection.tables .copy).regs := by
  rw [frees.stacked] at inside
  split at inside
  · rename_i same
    subst same
    exact (List.mem_cons.mp inside).elim (fun newest => Or.inr ⟨rfl, newest⟩) Or.inl
  · exact Or.inl inside

/-- The connection is freed and has no scalar functions afterwards. -/
theorem Frees.here {later : Conn} (there : after.conns conn = some later) :
    later = { connection.setTable .scalar ⟨[], 0⟩ with freed := true } := by
  rw [frees.conns, if_pos rfl] at there
  exact (Option.some.inj there).symm

include freeable

/-- The one frame of the connection is the one for its COPY formats. -/
theorem Frees.only {other : Nat} {frame : Frame} (inside : frame ∈ after.callStacks other)
    (same : frame.conn = conn) :
    other = thread ∧ frame = .freeing conn (connection.tables .copy).regs := by
  cases frees.newer inside with
  | inl earlier => exact absurd same (freeable.quiet other frame earlier)
  | inr newest => exact newest

omit freeable in
/-- The slots fit the registrations after the release of a connection. -/
theorem Frees.entries (before : Entries state) : Entries after := by
  refine before.fades frees.fades (fun kind _ other => kind = .scalar ∧ other = conn)
    ?_ ?_ ?_ ?_ ?_ ?_ ?_ ?_
  · rintro kind key other ⟨rfl, rfl⟩
    exact (frees.scalars key other).trans (if_pos rfl)
  · intro kind key other stays
    cases kind with
    | copy => exact frees.copies key other
    | scalar => exact (frees.scalars key other).trans (if_neg fun same => stays ⟨rfl, same⟩)
  · intro other later there alive
    rw [frees.conns] at there
    split at there
    · obtain rfl := Option.some.inj there
      cases alive
    · exact ⟨later, there, alive⟩
  · intro other there
    rw [frees.conns]
    split
    · simp
    · exact there
  · rintro kind key other ⟨_, rfl⟩ later there
    rw [frees.here there]
  · rintro kind key other id ⟨rfl, rfl⟩ entered record made
    obtain ⟨_, _, _, dies, _⟩ := frees.fades.records id record made
    exact dies ⟨key, entered⟩
  · rintro kind key other id ⟨name, there⟩ entered
    obtain ⟨⟨record, made, of⟩, _⟩ := before.entered _ _ _ id entered
    obtain ⟨⟨found, here, named⟩, _⟩ := before.entered _ _ _ id there
    obtain rfl := Option.some.inj (made.symm.trans here)
    obtain ⟨kinds, _, conns⟩ := of.same named
    exact Or.inl ⟨kinds, conns⟩
  · rintro kind key other id ⟨copy, rest, waits⟩
    exact Or.inr ⟨copy, rest, frees.pending waits⟩

/-- The tables of the connection that was freed. -/
theorem Frees.tablesAt : TablesAt after conn := by
  refine ⟨?_, ?_, ?_, ?_, ?_, ?_, ?_, ?_⟩
  · intro later there alive
    rw [frees.here there] at alive
    cases alive
  · intro later there alive
    rw [frees.here there] at alive
    cases alive
  · intro later there _
    obtain rfl := frees.here there
    exact ⟨by simp [Conn.setTable], fun key => (frees.scalars key conn).trans (if_pos rfl)⟩
  · intro later there _ none_left
    refine absurd rfl (none_left thread (.freeing conn (connection.tables .copy).regs) ?_)
    rw [frees.stacked, if_pos rfl]
    exact List.mem_cons_self
  · intro other frame inside same
    obtain ⟨rfl, rfl⟩ := frees.only freeable inside same
    exact ⟨_, (frees.conns conn).trans (if_pos rfl), freeable.own_thread, by simp [Frame.name?]⟩
  · rintro key previous id ⟨other, inside⟩
    cases (frees.only freeable inside rfl).2
  · rintro frame ⟨other, inside⟩ same _
    obtain ⟨_, rfl⟩ := frees.only freeable inside same
    exact ⟨freeable.distinct .copy, fun key =>
      (frees.copies key conn).trans (freeable.own .copy key).symm⟩
  · rintro key id rest ⟨other, inside⟩
    cases (frees.only freeable inside rfl).2

/-- The tables and frames after the release of a connection. -/
theorem Frees.tables (before : Tables state) : Tables after := by
  refine before.local conn ?_ ?_ ?_ ?_ ?_ (frees.tablesAt freeable)
  · intro other apart
    rw [frees.conns, if_neg apart]
  · intro kind key other apart
    cases kind with
    | copy => exact frees.copies key other
    | scalar => exact (frees.scalars key other).trans (if_neg apart)
  · intro other frame apart
    constructor
    · intro inside
      rcases frees.newer inside with earlier | ⟨_, rfl⟩
      · exact earlier
      · exact absurd rfl apart
    · intro inside
      rw [frees.stacked]
      split
      · rename_i same
        subst same
        exact List.mem_cons_of_mem _ inside
      · exact inside
  · intro id record made
    obtain ⟨old, found, _, dies, lives⟩ := frees.fades.records id record made
    refine ⟨old, found, fun dead => ?_⟩
    by_cases deadly : ∃ key, state.entry .scalar key conn = some id
    · exact dies deadly
    · exact (lives deadly).trans dead
  · intro other
    rw [frees.stacked]
    split
    · refine List.Pairwise.cons ?_ (before.apart thread)
      intro frame inside same
      exact absurd same.symm (freeable.quiet thread frame inside)
    · exact before.apart other

end Frees

/-- The release of a connection keeps slots, tables and frames consistent. -/
theorem Consistent.free (before : Consistent state) (given : state.conns conn = some connection)
    (own_thread : connection.thread = thread) (living : connection.freed = false)
    (idle : ∀ frame ∈ state.callStacks thread, frame.conn ≠ conn) :
    Consistent (free state thread conn connection) := by
  have freeable := before.tables.freeable given own_thread living idle
  have frees := free_frees freeable
  exact ⟨frees.entries before.entries, frees.tables freeable before.tables⟩

/-- Frames of one connection are on one thread. -/
theorem Tables.thread_of (before : Tables state) {other : Nat} {frame third : Frame}
    (inside : frame ∈ state.callStacks thread) (there : third ∈ state.callStacks other)
    (same : third.conn = frame.conn) : other = thread := by
  obtain ⟨connection, given, own, _⟩ := before.frames thread frame inside
  obtain ⟨found, here, theirs, _⟩ := before.frames other third there
  rw [same] at here
  obtain rfl := Option.some.inj (given.symm.trans here)
  exact theirs.symm.trans own

/-- Below the top of a stack are only frames that replace other names. -/
theorem Tables.below (before : Tables state) {frame : Frame} {stack : List Frame}
    (top : state.callStacks thread = frame :: stack) :
    ∀ third ∈ stack, third.conn = frame.conn →
      ∃ key name, frame.name? = some key ∧ third.name? = some name ∧ key ≠ name := by
  intro third inside same
  have pairs := before.apart thread
  rw [top] at pairs
  exact (List.pairwise_cons.mp pairs).1 third inside same.symm

/-- Frames of other connections stay when the top of a stack changes. -/
theorem frames_top {frame : Frame} {stack others : List Frame}
    (top : state.callStacks thread = frame :: stack)
    (stacked : ∀ other, after.callStacks other =
      if other = thread then others else state.callStacks other)
    (tail : ∀ third, third.conn ≠ frame.conn → (third ∈ others ↔ third ∈ stack)) :
    ∀ other third, third.conn ≠ frame.conn →
      (third ∈ after.callStacks other ↔ third ∈ state.callStacks other) := by
  intro other third apart
  rw [stacked]
  split
  · rename_i same
    subst same
    rw [top, List.mem_cons, tail third apart]
    constructor
    · exact Or.inr
    · rintro (rfl | inside)
      · exact absurd rfl apart
      · exact inside
  · rfl

/-- Where a frame is after the top of a stack changed. -/
theorem mem_top {others : List Frame}
    (stacked : ∀ other, after.callStacks other =
      if other = thread then others else state.callStacks other)
    {other : Nat} {third : Frame} (inside : third ∈ after.callStacks other) :
    other = thread ∧ third ∈ others ∨ other ≠ thread ∧ third ∈ state.callStacks other := by
  rw [stacked] at inside
  split at inside
  · rename_i same
    exact Or.inl ⟨same, inside⟩
  · rename_i apart
    exact Or.inr ⟨apart, inside⟩

/-- A replaced handler is released, and the table gets the new registration. -/
theorem Consistent.replaced (before : Consistent state) {key : Bytes} {previous id : Nat}
    {stack : List Frame}
    (top : state.callStacks thread = .replacing conn key previous id :: stack)
    (given : state.conns conn = some connection) :
    Consistent (((state.dropFunction previous).setConn conn (connection.setTable .copy
      { connection.tables .copy with
        regs := update key id (connection.tables .copy).regs })).setStack thread stack) := by
  have first : Frame.replacing conn key previous id ∈ state.callStacks thread := by
    rw [top]
    exact List.mem_cons_self
  obtain ⟨found, there, own_thread, named⟩ := before.tables.frames thread _ first
  obtain rfl := Option.some.inj (given.symm.trans there)
  have living : connection.freed = false := by
    rw [← Bool.not_eq_true, named]
    simp [Frame.name?]
  obtain ⟨entered, stored⟩ := before.tables.replacing conn key previous id ⟨thread, first⟩
  have old := stored connection given
  have fades : Fades state (((state.dropFunction previous).setConn conn (connection.setTable .copy
      { connection.tables .copy with
        regs := update key id (connection.tables .copy).regs })).setStack thread stack)
      fun _ => False := by
    exact (fades_dropFunction state previous).congr rfl rfl
  generalize later : ((state.dropFunction previous).setConn conn (connection.setTable .copy
      { connection.tables .copy with
        regs := update key id (connection.tables .copy).regs })).setStack thread stack = after
    at fades ⊢
  have entry : ∀ kind name other, after.entry kind name other = state.entry kind name other := by
    rw [← later]
    exact fun _ _ _ => rfl
  have conns : ∀ other, after.conns other = if other = conn then
      some (connection.setTable .copy { connection.tables .copy with
        regs := update key id (connection.tables .copy).regs }) else state.conns other := by
    rw [← later]
    exact fun other => Function.update_apply _ _ _ _
  have stacked : ∀ other, after.callStacks other =
      if other = thread then stack else state.callStacks other := by
    rw [← later]
    exact fun other => Function.update_apply _ _ _ _
  have older : ∀ other third, third ∈ after.callStacks other →
      third ∈ state.callStacks other ∧ (third.conn = conn → third ∈ stack) := by
    intro other third inside
    rcases mem_top stacked inside with ⟨rfl, here⟩ | ⟨apart, there⟩
    · exact ⟨by rw [top]; exact List.mem_cons_of_mem _ here, fun _ => here⟩
    · exact ⟨there, fun same => absurd (before.tables.thread_of first there same) apart⟩
  have kept : ∀ third, state.Pending third → third ≠ .replacing conn key previous id →
      after.Pending third := by
    rintro third ⟨other, inside⟩ apart
    refine ⟨other, ?_⟩
    rw [stacked]
    split
    · rename_i same
      subst same
      rw [top] at inside
      exact (List.mem_cons.mp inside).resolve_left apart
    · exact inside
  have here : ∀ third, after.conns conn = some third → third = connection.setTable .copy
      { connection.tables .copy with
        regs := update key id (connection.tables .copy).regs } := by
    intro third there
    rw [conns, if_pos rfl] at there
    exact (Option.some.inj there).symm
  constructor
  · refine before.entries.fades fades (fun _ _ _ => False) (fun _ _ _ never => never.elim)
      (fun kind name other _ => entry kind name other) ?_ ?_ (fun _ _ _ never => never.elim)
      (fun _ _ _ _ never => never.elim) (fun _ _ _ _ never => never.elim) ?_
    · intro other third there alive
      rw [conns] at there
      split at there
      · rename_i same
        subst same
        exact ⟨connection, given, living⟩
      · exact ⟨third, there, alive⟩
    · intro other there
      rw [conns]
      split
      · simp
      · exact there
    · rintro kind name other third ⟨copy, rest, waits⟩
      exact Or.inr ⟨copy, rest, kept _ waits (by simp)⟩
  · refine before.tables.local conn (fun other apart => by rw [conns, if_neg apart])
      (fun kind name other _ => entry kind name other)
      (frames_top top stacked fun _ _ => Iff.rfl) ?_ ?_ ?_
    · intro other record made
      obtain ⟨third, found, _, _, lives⟩ := fades.records other record made
      exact ⟨third, found, (lives fun never => never).trans⟩
    · intro other
      rw [stacked]
      split
      · have pairs := before.tables.apart thread
        rw [top] at pairs
        exact (List.pairwise_cons.mp pairs).2
      · exact before.tables.apart other
    · refine ⟨?_, ?_, ?_, ?_, ?_, ?_, ?_, ?_⟩
      · intro third there _ kind name free
        rw [here third there, entry]
        have free' : (kind = .copy → key ≠ name) →
            find name (connection.tables kind).regs = state.entry kind name conn := by
          intro apart
          refine before.tables.own conn connection given living kind name fun copy => ?_
          rintro ⟨other, first_id, second_id, inside⟩
          refine free copy ?_
          obtain ⟨other, inside⟩ := kept (.replacing conn name first_id second_id)
            ⟨other, inside⟩ fun same => apart copy (Frame.replacing.inj same).2.1.symm
          exact ⟨other, first_id, second_id, inside⟩
        cases kind with
        | copy =>
          simp only [Conn.setTable, Function.update_self, find_update]
          split
          · rename_i same
            subst same
            exact entered.symm
          · rename_i apart
            exact free' fun _ => apart
        | scalar =>
          simp only [Conn.setTable]
          rw [Function.update_of_ne (by simp)]
          exact free' fun never => by cases never
      · intro third there _ kind
        rw [here third there]
        have counted := before.tables.counted conn connection given living
        cases kind with
        | copy =>
          simp only [Conn.setTable, Function.update_self]
          rw [length_update, if_neg (by simp [old])]
          exact ⟨(counted .copy).1, nodup_update (counted .copy).2 _ _⟩
        | scalar =>
          simp only [Conn.setTable]
          rw [Function.update_of_ne (by simp)]
          exact counted .scalar
      · intro third there freed
        rw [here third there] at freed
        exact absurd (living.symm.trans freed) (by simp)
      · intro third there freed
        rw [here third there] at freed
        exact absurd (living.symm.trans freed) (by simp)
      · intro other frame inside same
        obtain ⟨third, there, own, names⟩ := before.tables.frames other frame (older _ _ inside).1
        rw [same] at there
        obtain rfl := Option.some.inj (given.symm.trans there)
        exact ⟨_, (conns conn).trans (if_pos rfl), own, names⟩
      · rintro name first_id second_id ⟨other, inside⟩
        obtain ⟨earlier, below⟩ := older _ _ inside
        obtain ⟨one, two, first_name, second_name, apart⟩ :=
          before.tables.below top _ (below rfl) rfl
        obtain rfl := Option.some.inj first_name
        obtain rfl := Option.some.inj second_name
        obtain ⟨entry_here, own⟩ :=
          before.tables.replacing conn _ first_id second_id ⟨other, earlier⟩
        refine ⟨(entry _ _ _).trans entry_here, fun third there => ?_⟩
        rw [here third there]
        simp only [Conn.setTable, Function.update_self, find_update]
        rw [if_neg apart]
        exact own connection given
      · rintro frame ⟨other, inside⟩ same unnamed
        obtain ⟨earlier, below⟩ := older _ _ inside
        obtain ⟨_, _, _, second_name, _⟩ := before.tables.below top _ (below same) same
        rw [unnamed] at second_name
        cases second_name
      · rintro name third rest ⟨other, inside⟩
        obtain ⟨earlier, below⟩ := older _ _ inside
        obtain ⟨_, _, _, second_name, _⟩ := before.tables.below top _ (below rfl) rfl
        cases second_name

/-- The frame of a connection that is freed is the only one of the connection. -/
theorem Tables.alone (before : Tables state) {frame : Frame} {stack : List Frame}
    (top : state.callStacks thread = frame :: stack) (unnamed : frame.name? = none) :
    (∀ third ∈ stack, third.conn ≠ frame.conn) ∧
      ∀ other third, other ≠ thread → third ∈ state.callStacks other →
        third.conn ≠ frame.conn := by
  constructor
  · intro third inside same
    obtain ⟨key, _, named, _⟩ := before.below top third inside same
    rw [unnamed] at named
    cases named
  · intro other third apart inside same
    have first : frame ∈ state.callStacks thread := by
      rw [top]
      exact List.mem_cons_self
    exact apart (before.thread_of first inside same)

/-- What a step of a connection's release does. -/
structure Goes (state after : State) (thread conn : Nat) (later : Conn) (next : Option Frame)
    (stack : List Frame) : Prop where
  /-- Only this connection changes. -/
  conns : ∀ other, after.conns other = if other = conn then some later else state.conns other
  /-- The top of the stack changes. -/
  stacked : ∀ other, after.callStacks other =
    if other = thread then next.toList ++ stack else state.callStacks other
  /-- The entries of other connections stay. -/
  entries : ∀ kind key other, other ≠ conn →
    after.entry kind key other = state.entry kind key other
  /-- Those of scalar functions stay. -/
  scalars : ∀ key, after.entry .scalar key conn = state.entry .scalar key conn
  /-- The connection is freed. -/
  freed : later.freed = true
  /-- A registration that was dead is not alive again. -/
  records : ∀ id record, after.records id = some record →
    ∃ old, state.records id = some old ∧ (old.alive = false → record.alive = false)
  /-- The next frame is one of the release. -/
  onward : ∀ frame, next = some frame → frame.conn = conn ∧ frame.name? = none ∧
    (keys frame.rest).Nodup ∧ (∀ key, after.entry .copy key conn = find key frame.rest) ∧
      ∀ key id rest, frame = .retired conn key id rest →
        ∀ record, after.records id = some record → record.alive = false
  /-- After the last one nothing is left. -/
  done : next = none →
    later.tables .copy = ⟨[], 0⟩ ∧ ∀ key, after.entry .copy key conn = none

/-- A frame that is not the top stays when the top changes. -/
theorem Goes.pending {later : Conn} {next : Option Frame} {frame : Frame} {stack : List Frame}
    (goes : Goes state after thread conn later next stack)
    (top : state.callStacks thread = frame :: stack) {third : Frame} (waits : state.Pending third)
    (apart : third ≠ frame) : after.Pending third := by
  obtain ⟨other, inside⟩ := waits
  refine ⟨other, ?_⟩
  rw [goes.stacked]
  split
  · rename_i same
    subst same
    rw [top] at inside
    exact List.mem_append_right _ ((List.mem_cons.mp inside).resolve_left apart)
  · exact inside

/-- A connection that is not freed was not freed before. -/
theorem Goes.living {later : Conn} {next : Option Frame} {stack : List Frame}
    (goes : Goes state after thread conn later next stack) :
    ∀ other third, after.conns other = some third → third.freed = false →
      ∃ earlier, state.conns other = some earlier ∧ earlier.freed = false := by
  intro other third there alive
  rw [goes.conns] at there
  split at there
  · obtain rfl := Option.some.inj there
    rw [goes.freed] at alive
    cases alive
  · exact ⟨third, there, alive⟩

/-- Every connection that was there is there after the step. -/
theorem Goes.present {later : Conn} {next : Option Frame} {stack : List Frame}
    (goes : Goes state after thread conn later next stack) :
    ∀ other, state.conns other ≠ none → after.conns other ≠ none := by
  intro other there
  rw [goes.conns]
  split
  · simp
  · exact there

/-- A step of a connection's release keeps the tables. -/
theorem Tables.goes (before : Tables state) {later : Conn} {next : Option Frame} {frame : Frame}
    {stack : List Frame} (top : state.callStacks thread = frame :: stack)
    (own_conn : frame.conn = conn) (unnamed : frame.name? = none)
    (given : state.conns conn = some connection)
    (goes : Goes state after thread conn later next stack)
    (thread_eq : later.thread = connection.thread)
    (table_eq : later.tables .scalar = connection.tables .scalar) : Tables after := by
  have first : frame ∈ state.callStacks thread := by
    rw [top]
    exact List.mem_cons_self
  obtain ⟨found, there, own_thread, named⟩ := before.frames thread frame first
  rw [own_conn] at there
  obtain rfl := Option.some.inj (given.symm.trans there)
  have was_freed : connection.freed = true := named.mpr unnamed
  obtain ⟨below, elsewhere⟩ := before.alone top unnamed
  rw [own_conn] at below elsewhere
  have here : ∀ third, after.conns conn = some third → third = later := by
    intro third given_later
    rw [goes.conns, if_pos rfl] at given_later
    exact (Option.some.inj given_later).symm
  have only : ∀ other third, third ∈ after.callStacks other → third.conn = conn →
      other = thread ∧ next = some third := by
    intro other third inside same
    rcases mem_top goes.stacked inside with ⟨rfl, here⟩ | ⟨apart, there⟩
    · rcases List.mem_append.mp here with new | old
      · exact ⟨rfl, Option.mem_toList.mp new⟩
      · exact absurd same (below third old)
    · exact absurd same (elsewhere other third apart there)
  refine before.local conn (fun other apart => by rw [goes.conns, if_neg apart]) goes.entries ?_
    goes.records ?_ ?_
  · rw [← own_conn]
    refine frames_top top goes.stacked fun third apart => ?_
    rw [List.mem_append]
    refine or_iff_right fun new => apart ?_
    rw [own_conn]
    exact (goes.onward third (Option.mem_toList.mp new)).1
  · intro other
    rw [goes.stacked]
    split
    · have pairs := before.apart thread
      rw [top] at pairs
      have tail := (List.pairwise_cons.mp pairs).2
      cases given_next : next with
      | none => exact tail
      | some newest =>
        refine List.pairwise_cons.mpr ⟨fun third inside same => ?_, tail⟩
        have new := (goes.onward newest given_next).1
        exact absurd (same.symm.trans new) (below third inside)
    · exact before.apart other
  · refine ⟨?_, ?_, ?_, ?_, ?_, ?_, ?_, ?_⟩
    · intro third there alive
      rw [here third there, goes.freed] at alive
      cases alive
    · intro third there alive
      rw [here third there, goes.freed] at alive
      cases alive
    · intro third there _
      obtain ⟨table, none⟩ := before.scalars conn connection given was_freed
      rw [here third there, table_eq]
      exact ⟨table, fun key => (goes.scalars key).trans (none key)⟩
    · intro third there _ quiet
      rw [here third there]
      cases given_next : next with
      | none => exact goes.done given_next
      | some newest =>
        refine absurd (goes.onward newest given_next).1 (quiet thread newest ?_)
        rw [goes.stacked, if_pos rfl, given_next]
        exact List.mem_cons_self
    · intro other third inside same
      obtain ⟨rfl, given_next⟩ := only other third inside same
      refine ⟨later, by rw [goes.conns, if_pos rfl], thread_eq.trans own_thread, ?_⟩
      rw [goes.freed, (goes.onward third given_next).2.1]
      simp
    · rintro key previous id ⟨other, inside⟩
      obtain ⟨_, given_next⟩ := only other _ inside rfl
      cases (goes.onward _ given_next).2.1
    · rintro third ⟨other, inside⟩ same _
      obtain ⟨_, given_next⟩ := only other third inside same
      obtain ⟨_, _, distinct, left, _⟩ := goes.onward third given_next
      exact ⟨distinct, left⟩
    · rintro key id rest ⟨other, inside⟩
      obtain ⟨_, given_next⟩ := only other _ inside rfl
      exact (goes.onward _ given_next).2.2.2.2 key id rest rfl
/-- The release of a connection comes to an end. -/
theorem Consistent.freed (before : Consistent state) {stack : List Frame}
    (top : state.callStacks thread = .freeing conn [] :: stack)
    (given : state.conns conn = some connection) :
    Consistent ((state.setConn conn (connection.setTable .copy ⟨[], 0⟩)).setStack thread stack) := by
  have first : state.Pending (.freeing conn []) := by
    refine ⟨thread, ?_⟩
    rw [top]
    exact List.mem_cons_self
  obtain ⟨_, left⟩ := before.tables.freeing _ first rfl
  obtain ⟨found, there, _, named⟩ := before.tables.frames thread (.freeing conn [])
    (by rw [top]; exact List.mem_cons_self)
  obtain rfl := Option.some.inj (given.symm.trans there)
  generalize later : (state.setConn conn (connection.setTable .copy ⟨[], 0⟩)).setStack thread stack =
    after
  have goes : Goes state after thread conn (connection.setTable .copy ⟨[], 0⟩) none stack := by
    subst later
    exact
      { conns := fun other => Function.update_apply _ _ _ _
        stacked := fun other => Function.update_apply _ _ _ _
        entries := fun _ _ _ _ => rfl
        scalars := fun _ => rfl
        freed := named.mpr rfl
        records := fun id record made => ⟨record, made, fun dead => dead⟩
        onward := fun _ never => by cases never
        done := fun _ => ⟨by simp [Conn.setTable], left⟩ }
  have fades : Fades state after fun _ => False := by
    subst later
    exact ⟨rfl, fun id record made =>
      ⟨record, made, ⟨rfl, rfl, rfl⟩, (fun never => never.elim), fun _ => rfl⟩, fun _ there => there⟩
  have entry : ∀ kind key other, after.entry kind key other = state.entry kind key other := by
    subst later
    exact fun _ _ _ => rfl
  have table_eq : (connection.setTable .copy ⟨[], 0⟩).tables .scalar = connection.tables .scalar := by
    simp [Conn.setTable]
  refine ⟨before.entries.kept_fades fades entry goes.living goes.present ?_ ?_,
    before.tables.goes top (show Frame.conn _ = conn from rfl) rfl given goes rfl table_eq⟩
  · intro _ _ _ _ never
    exact never.elim
  · rintro kind key other id ⟨copy, rest, waits⟩
    exact ⟨copy, rest, goes.pending top waits (by simp)⟩

/-- The release of a connection comes to its next registration. -/
theorem Consistent.retires (before : Consistent state) {key : Bytes} {id : Nat}
    {rest : List (Bytes × Nat)} {stack : List Frame}
    (top : state.callStacks thread = .freeing conn ((key, id) :: rest) :: stack) :
    Consistent ((state.retire id).setStack thread (.retired conn key id rest :: stack)) := by
  have inside : Frame.freeing conn ((key, id) :: rest) ∈ state.callStacks thread := by
    rw [top]
    exact List.mem_cons_self
  obtain ⟨distinct, left⟩ := before.tables.freeing _ ⟨thread, inside⟩ rfl
  obtain ⟨connection, given, _, named⟩ := before.tables.frames thread _ inside
  have given : state.conns conn = some connection := given
  have entered : state.entry .copy key conn = some id := by
    rw [show state.entry .copy key conn = _ from left key]
    simp [Frame.rest, find]
  obtain ⟨⟨record, made, of⟩, _⟩ := before.entries.entered _ _ _ id entered
  obtain ⟨records, slots, conns, count, _⟩ := retire_eq state id
  have fades : Fades state ((state.retire id).setStack thread (.retired conn key id rest :: stack))
      fun other => other = id := (fades_kill state id).congr records (count.trans rfl)
  generalize later : (state.retire id).setStack thread (.retired conn key id rest :: stack) = after
    at fades ⊢
  have entry : ∀ kind name other, after.entry kind name other = state.entry kind name other := by
    intro kind name other
    rw [← later]
    simp only [State.entry, State.setStack, slots]
  have stacked : ∀ other, after.callStacks other =
      if other = thread then .retired conn key id rest :: stack else state.callStacks other := by
    intro other
    rw [← later, stack_setStack, (retire_eq state id).2.2.2.2]
  have goes : Goes state after thread conn connection (some (.retired conn key id rest)) stack :=
    { conns := fun other => by
        rw [show after.conns = state.conns by rw [← later]; exact conns]
        split
        · rename_i same
          rw [same, given]
        · rfl
      stacked := stacked
      entries := fun kind name other _ => entry kind name other
      scalars := fun name => entry .scalar name conn
      freed := named.mpr rfl
      records := fun other third made' => by
        obtain ⟨old, found, _, dies, lives⟩ := fades.records other third made'
        refine ⟨old, found, fun dead => ?_⟩
        by_cases same : other = id
        · exact dies same
        · exact (lives same).trans dead
      onward := fun frame newest => by
        obtain rfl := Option.some.inj newest
        refine ⟨rfl, rfl, distinct, fun name => (entry .copy name conn).trans (left name), ?_⟩
        intro _ other _ same third made'
        obtain ⟨_, _, rfl, _⟩ := Frame.retired.inj same
        obtain ⟨_, _, _, dies, _⟩ := fades.records id third made'
        exact dies rfl
      done := fun never => by cases never }
  have waits : after.Pending (.retired conn key id rest) := by
    refine ⟨thread, ?_⟩
    rw [stacked, if_pos rfl]
    exact List.mem_cons_self
  refine ⟨before.entries.kept_fades fades entry goes.living goes.present ?_ ?_,
    before.tables.goes top (show Frame.conn _ = conn from rfl) rfl given goes rfl rfl⟩
  · rintro kind name other third rfl theirs
    obtain ⟨⟨found, there, names⟩, _⟩ := before.entries.entered _ _ _ third theirs
    obtain rfl := Option.some.inj (made.symm.trans there)
    obtain ⟨rfl, rfl, rfl⟩ := of.same names
    exact ⟨rfl, rest, waits⟩
  · rintro kind name other third ⟨copy, others, inside'⟩
    exact ⟨copy, others, goes.pending top inside' (by simp)⟩

/-- The handler of a registration of a connection that is freed is released. -/
theorem Consistent.unpublished (before : Consistent state) {key : Bytes} {id : Nat}
    {rest : List (Bytes × Nat)} {stack : List Frame}
    (top : state.callStacks thread = .retired conn key id rest :: stack) :
    Consistent (((state.dropFunction id).setSlots .copy
      (unpublish (state.slots .copy) key conn id)).setStack thread
        (.freeing conn rest :: stack)) := by
  have inside : Frame.retired conn key id rest ∈ state.callStacks thread := by
    rw [top]
    exact List.mem_cons_self
  obtain ⟨distinct, left⟩ := before.tables.freeing _ ⟨thread, inside⟩ rfl
  obtain ⟨connection, given, _, named⟩ := before.tables.frames thread _ inside
  have given : state.conns conn = some connection := given
  have entered : slotEntry (state.slots .copy) key conn = some id := by
    rw [show slotEntry (state.slots .copy) key conn = _ from left key]
    simp [Frame.rest, find]
  have dead := before.tables.retired conn key id rest ⟨thread, inside⟩
  have fades : Fades state (((state.dropFunction id).setSlots .copy
      (unpublish (state.slots .copy) key conn id)).setStack thread (.freeing conn rest :: stack))
      fun _ => False := (fades_dropFunction state id).congr rfl rfl
  have erased := fun name other =>
    slotEntry_unpublish (state.slots .copy) key conn id name other
  simp only [entered, and_true] at erased
  generalize later : ((state.dropFunction id).setSlots .copy
      (unpublish (state.slots .copy) key conn id)).setStack thread (.freeing conn rest :: stack) =
    after at fades ⊢
  have copies : ∀ name other, after.entry .copy name other =
      if key = name ∧ conn = other then none else state.entry .copy name other := by
    intro name other
    rw [← later]
    simp only [State.entry, State.setStack, State.setSlots, Function.update_self]
    exact erased name other
  have scalars : ∀ name other, after.entry .scalar name other = state.entry .scalar name other := by
    rw [← later]
    exact fun _ _ => rfl
  have stacked : ∀ other, after.callStacks other =
      if other = thread then .freeing conn rest :: stack else state.callStacks other := by
    intro other
    rw [← later]
    exact Function.update_apply _ _ _ _
  have absent : find key rest = none := by
    cases found : find key rest with
    | none => rfl
    | some value => exact absurd (mem_keys.mpr ⟨value, found⟩) (List.nodup_cons.mp distinct).1
  have goes : Goes state after thread conn connection (some (.freeing conn rest)) stack :=
    { conns := fun other => by
        rw [show after.conns = state.conns by rw [← later]; rfl]
        split
        · rename_i same
          rw [same, given]
        · rfl
      stacked := stacked
      entries := fun kind name other apart => by
        cases kind with
        | copy => rw [copies, if_neg fun both => apart both.2.symm]
        | scalar => exact scalars name other
      scalars := fun name => scalars name conn
      freed := named.mpr rfl
      records := fun other third made => by
        obtain ⟨old, found, _, _, lives⟩ := fades.records other third made
        exact ⟨old, found, fun dead => (lives fun never => never).trans dead⟩
      onward := fun frame newest => by
        obtain rfl := Option.some.inj newest
        refine ⟨rfl, rfl, (List.nodup_cons.mp distinct).2, fun name => ?_,
          fun _ _ _ never => by cases never⟩
        rw [copies]
        split
        · rename_i both
          rw [← both.1]
          exact absent.symm
        · rename_i apart
          rw [show state.entry .copy name conn = _ from left name]
          have differs : ¬key = name := fun same => apart ⟨same, rfl⟩
          simp [Frame.rest, find, differs]
      done := fun never => by cases never }
  have kept : ∀ kind name other, ¬(kind = .copy ∧ key = name ∧ conn = other) →
      after.entry kind name other = state.entry kind name other := by
    intro kind name other apart
    cases kind with
    | copy => rw [copies, if_neg fun both => apart ⟨rfl, both⟩]
    | scalar => exact scalars name other
  have erases : ∀ kind name other, kind = .copy ∧ key = name ∧ conn = other →
      after.entry kind name other = none := by
    rintro kind name other ⟨rfl, both⟩
    rw [copies, if_pos both]
  refine ⟨before.entries.fades fades _ erases kept goes.living goes.present ?_ ?_ ?_ ?_,
    before.tables.goes top (show Frame.conn _ = conn from rfl) rfl given goes rfl rfl⟩
  · rintro kind name other ⟨_, _, rfl⟩ third there
    rw [goes.conns, if_pos rfl] at there
    obtain rfl := Option.some.inj there
    exact goes.freed
  · rintro kind name other third ⟨rfl, rfl, rfl⟩ theirs record made
    obtain rfl := Option.some.inj (theirs.symm.trans entered)
    obtain ⟨old, found, _, _, lives⟩ := fades.records _ record made
    exact (lives fun never => never).trans (dead old found)
  · intro _ _ _ _ never
    exact never.elim
  · rintro kind name other third ⟨copy, others, waits⟩
    by_cases same : Frame.retired other name third others = .retired conn key id rest
    · obtain ⟨rfl, rfl, _, _⟩ := Frame.retired.inj same
      exact Or.inl ⟨copy, rfl, rfl⟩
    · exact Or.inr ⟨copy, others, goes.pending top waits same⟩

/-- Every step that registers no name whose replaced handler is being released keeps the database
consistent. -/
theorem Consistent.step (before : Consistent state) {event : Event}
    (undisturbed : Undisturbed state event) (stepped : step state event = some after) :
    Consistent after := by
  cases event with
  | connect thread conn =>
    simp only [Registration.step] at stepped
    split at stepped
    · cases stepped
    · rename_i absent
      obtain rfl := Option.some.inj stepped
      exact before.connect (Option.not_isSome_iff_eq_none.mp absent) thread
  | close thread conn =>
    obtain ⟨connection, given, stepped⟩ := Option.bind_eq_some_iff.mp stepped
    split at stepped
    · cases stepped
    · obtain rfl := Option.some.inj stepped
      exact before.close given
  | register thread conn call =>
    obtain ⟨connection, given, stepped⟩ := Option.bind_eq_some_iff.mp stepped
    split at stepped
    · cases stepped
    · rename_i theirs
      obtain ⟨own, alive⟩ := not_or.mp theirs
      split at stepped
      · obtain rfl := Option.some.inj stepped
        exact before
      · rename_i key checked
        split at stepped
        · obtain rfl := Option.some.inj stepped
          exact before
        · rename_i slots ensured
          obtain rfl := Option.some.inj stepped
          exact before.register given (not_not.mp own) (Bool.not_eq_true _ ▸ alive) ensured
            fun copy => undisturbed copy connection key given checked
  | free thread conn =>
    obtain ⟨connection, given, stepped⟩ := Option.bind_eq_some_iff.mp stepped
    split at stepped
    · cases stepped
    · rename_i theirs
      obtain ⟨own, others⟩ := not_or.mp theirs
      obtain ⟨alive, idle⟩ := not_or.mp others
      obtain rfl := Option.some.inj stepped
      exact before.free given (not_not.mp own) (Bool.not_eq_true _ ▸ alive) (not_not.mp idle)
  | advance thread =>
    simp only [Registration.step] at stepped
    split at stepped
    · cases stepped
    · rename_i frame stack top
      unfold advance at stepped
      split at stepped
      · obtain ⟨connection, given, rfl⟩ := Option.map_eq_some_iff.mp stepped
        exact before.replaced top given
      · obtain ⟨connection, given, rfl⟩ := Option.map_eq_some_iff.mp stepped
        exact before.freed top given
      · obtain rfl := Option.some.inj stepped
        exact before.retires top
      · obtain rfl := Option.some.inj stepped
        exact before.unpublished top

end Steps

section Frame

variable {state after : State} {conn other : Nat}

/-- The connection that a step works on. -/
def Event.On (state : State) (conn : Nat) : Event → Prop
  | .connect _ own | .close _ own | .register _ own _ | .free _ own => own = conn
  | .advance thread => ∃ frame stack, state.callStacks thread = frame :: stack ∧ frame.conn = conn

/-- Freeing scalar functions leaves the entries of other connections. -/
theorem entry_freeScalars (regs : List (Bytes × Nat)) (apart : conn ≠ other) (kind : Kind)
    (key : Bytes) : (freeScalars conn regs state).entry kind key other = state.entry kind key other := by
  induction regs generalizing state with
  | nil => rfl
  | cons entry rest ih =>
    obtain ⟨name, id⟩ := entry
    refine ih.trans ?_
    cases kind with
    | copy => rfl
    | scalar =>
      simp only [State.entry, State.setSlots, Function.update_self, slotEntry_unpublish]
      exact if_neg fun both => apart both.1.2

/-- Registering leaves the entries of other connections. -/
theorem entry_register {thread : Nat} {connection : Conn} {call : Call} {key : Bytes}
    {slots : List (Bytes × Slot)} (ensured : ensureSlot call (state.slots call.kind) key = some slots)
    (apart : conn ≠ other) (kind : Kind) (name : Bytes) :
    (register state thread conn connection call key slots).entry kind name other =
      state.entry kind name other := by
  have made : (state.make thread conn call key slots).entry kind name other =
      state.entry kind name other := by
    rw [entry_make ensured, if_neg]
    exact fun of => apart of.2.2
  have retired : ∀ id, ((state.make thread conn call key slots).retire id).entry kind name other =
      state.entry kind name other := by
    intro id
    rw [← made, State.entry, (retire_eq _ id).2.1, State.entry]
  unfold register
  dsimp only
  split
  · split
    · exact retired _
    · exact made
  · exact made

/-- A step leaves the entries of the connections that it does not work on. -/
theorem entry_step {event : Event} (stepped : step state event = some after)
    (apart : ¬event.On state other) (kind : Kind) (key : Bytes) :
    after.entry kind key other = state.entry kind key other := by
  cases event with
  | connect thread conn =>
    simp only [Registration.step] at stepped
    split at stepped
    · cases stepped
    · obtain rfl := Option.some.inj stepped
      rfl
  | close thread conn =>
    obtain ⟨connection, given, stepped⟩ := Option.bind_eq_some_iff.mp stepped
    split at stepped
    · cases stepped
    · obtain rfl := Option.some.inj stepped
      rfl
  | register thread conn call =>
    obtain ⟨connection, given, stepped⟩ := Option.bind_eq_some_iff.mp stepped
    split at stepped
    · cases stepped
    · split at stepped
      · obtain rfl := Option.some.inj stepped
        rfl
      · split at stepped
        · obtain rfl := Option.some.inj stepped
          rfl
        · rename_i slots ensured
          obtain rfl := Option.some.inj stepped
          exact entry_register ensured apart kind key
  | free thread conn =>
    obtain ⟨connection, given, stepped⟩ := Option.bind_eq_some_iff.mp stepped
    split at stepped
    · cases stepped
    · obtain rfl := Option.some.inj stepped
      exact entry_freeScalars _ apart kind key
  | advance thread =>
    simp only [Registration.step] at stepped
    split at stepped
    · cases stepped
    · rename_i frame stack top
      have away : frame.conn ≠ other := fun same => apart ⟨frame, stack, top, same⟩
      unfold advance at stepped
      split at stepped
      · obtain ⟨connection, given, rfl⟩ := Option.map_eq_some_iff.mp stepped
        rfl
      · obtain ⟨connection, given, rfl⟩ := Option.map_eq_some_iff.mp stepped
        rfl
      · obtain rfl := Option.some.inj stepped
        rw [State.entry, State.entry]
        exact congrArg (fun slots => slotEntry (slots kind) key other) (retire_eq state _).2.1
      · obtain rfl := Option.some.inj stepped
        cases kind with
        | scalar => rfl
        | copy =>
          simp only [State.entry, State.setStack, State.setSlots, Function.update_self,
            slotEntry_unpublish]
          exact if_neg fun both => away both.1.2

end Frame

/-- In every run in which no COPY format is registered while a replaced handler of the same name on
the same connection is being released, the slots, the tables, the registrations and the counters of
every connection that no step is under way on agree. A step leaves the entries of the connections
that it does not work on. -/
theorem registrations_isolated (events : List Event) (last : State)
    (along : registrations.Along Undisturbed .fresh events)
    (ran : registrations.run .fresh events = some last) :
    (∀ conn connection, last.conns conn = some connection → last.Quiet conn →
      Agree last conn connection) ∧
      ∀ event next, registrations.step last event = some next → ∀ other, ¬event.On last other →
        ∀ kind key, next.entry kind key other = last.entry kind key other := by
  have consistent : Consistent last :=
    Machine.run_preserves_along (fun state event next holds meets stepped => holds.step meets stepped)
      consistent_fresh along ran
  constructor
  · intro conn connection given quiet
    exact consistent.agree given quiet
  · intro event next stepped other apart kind key
    exact entry_step stepped apart kind key

/-- Nothing is disturbed while no step is under way. -/
theorem undisturbed_idle {state : State} {event : Event}
    (idle : ∀ thread, state.callStacks thread = []) : Undisturbed state event := by
  have unreplaced : ∀ conn key, ¬state.Replacing conn key := by
    rintro conn key ⟨thread, previous, id, inside⟩
    rw [idle thread] at inside
    cases inside
  cases event with
  | register thread conn call => exact fun _ _ key _ _ => unreplaced conn key
  | connect | close | free | advance => exact trivial

/-- A call that registers a COPY format. -/
def copyNamed (name : Bytes) : Call := ⟨.copy, name, [], false, false, true⟩

/-- A call that registers a scalar function. -/
def scalarNamed (name : Bytes) : Call := ⟨.scalar, name, [lit "VARCHAR"], false, false, true⟩

/-- Two connections register, replace and one is freed; a destructor of a replaced handler registers
another name. -/
def undisturbedRun : List Event :=
  [.connect 0 1, .connect 1 2, .register 0 1 (copyNamed (lit "C")),
    .register 1 2 (copyNamed (lit "c")), .register 0 1 (scalarNamed (lit "f")),
    .register 0 1 (scalarNamed (lit "F")), .register 0 1 (copyNamed (lit "c")),
    .register 0 1 (copyNamed (lit "d")), .advance 0, .free 1 2, .advance 1, .advance 1, .advance 1]

/-- The run meets the condition: only the registration of the other name is made by a destructor. -/
theorem undisturbedRun_along : registrations.Along Undisturbed .fresh undisturbedRun := by
  refine ⟨undisturbed_idle fun _ => rfl, fun next stepped => ?_⟩
  obtain rfl := Option.some.inj stepped
  refine ⟨undisturbed_idle fun _ => rfl, fun next stepped => ?_⟩
  obtain rfl := Option.some.inj stepped
  refine ⟨undisturbed_idle fun _ => rfl, fun next stepped => ?_⟩
  obtain rfl := Option.some.inj stepped
  refine ⟨undisturbed_idle fun _ => rfl, fun next stepped => ?_⟩
  obtain rfl := Option.some.inj stepped
  refine ⟨undisturbed_idle fun _ => rfl, fun next stepped => ?_⟩
  obtain rfl := Option.some.inj stepped
  refine ⟨undisturbed_idle fun _ => rfl, fun next stepped => ?_⟩
  obtain rfl := Option.some.inj stepped
  refine ⟨undisturbed_idle fun _ => rfl, fun next stepped => ?_⟩
  obtain rfl := Option.some.inj stepped
  refine ⟨?_, fun _ _ => ⟨trivial, fun _ _ => ⟨trivial, fun _ _ => ⟨trivial, fun _ _ =>
    ⟨trivial, fun _ _ => ⟨trivial, fun _ _ => trivial⟩⟩⟩⟩⟩⟩
  rintro _ connection key given checked ⟨thread, previous, id, inside⟩
  have inside : Frame.replacing 1 key previous id ∈
      Function.update (fun _ => ([] : List Frame)) 0 [.replacing 1 (lit "c") 0 4] thread := inside
  rw [Function.update_apply] at inside
  split at inside
  · obtain rfl : key = lit "c" := (Frame.replacing.inj (List.mem_singleton.mp inside)).2.1
    cases given
    revert checked
    decide +kernel
  · cases inside

/-- After the run with nested registrations slots, tables and counters agree. -/
theorem registrations_isolated_nested :
    ∃ last, registrations.run .fresh undisturbedRun = some last ∧
      (∀ conn connection, last.conns conn = some connection → last.Quiet conn →
        Agree last conn connection) ∧
      ∀ event next, registrations.step last event = some next → ∀ other, ¬event.On last other →
        ∀ kind key, next.entry kind key other = last.entry kind key other :=
  ⟨_, rfl, registrations_isolated undisturbedRun _ undisturbedRun_along rfl⟩

/-- A COPY format is registered three times, the last time by a destructor of the handler that the
second call replaces. -/
def disturbedRun : List Event :=
  [.connect 0 7, .register 0 7 (copyNamed (lit "c")), .register 0 7 (copyNamed (lit "c")),
    .register 0 7 (copyNamed (lit "c")), .advance 0, .advance 0]

/-- Afterwards the slot has the registration that the destructor made, and the connection's table the
one that the interrupted call made; both are alive. -/
theorem replaced_twice :
    ∃ last connection, registrations.run .fresh disturbedRun = some last ∧
      last.conns 7 = some connection ∧ last.Quiet 7 ∧
      last.entry .copy (lit "c") 7 = some 2 ∧
      find (lit "c") (connection.tables .copy).regs = some 1 ∧
      (last.records 1).any Record.alive = true ∧ (last.records 2).any Record.alive = true ∧
      ¬Agree last 7 connection := by
  refine ⟨_, _, rfl, rfl, ?_, by decide +kernel, by decide +kernel, by decide +kernel,
    by decide +kernel, fun agree => ?_⟩
  · intro thread frame inside
    have inside : frame ∈ Function.update (Function.update (Function.update (Function.update
      (fun _ => ([] : List Frame)) 0 [.replacing 7 (lit "c") 0 1])
        0 [.replacing 7 (lit "c") 0 2, .replacing 7 (lit "c") 0 1])
          0 [.replacing 7 (lit "c") 0 1]) 0 [] thread := inside
    by_cases same : thread = 0
    · subst same
      exact absurd inside List.not_mem_nil
    · simp [same] at inside
  · have own := agree.own .copy (lit "c")
    revert own
    decide +kernel

end PhpDuckdb.Registration
