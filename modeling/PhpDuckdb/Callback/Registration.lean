import PhpDuckdb.Connection.Guard
import PhpDuckdb.Lib.Machine
import PhpDuckdb.Lib.OrderedTable

/-!
# Registering callbacks

COPY formats and scalar functions are registered on a connection and found by DuckDB's binder in an
instance-wide slot, under the connection's id. The connection keeps its own table of them. Releasing
a replaced handler may run PHP destructors, which may register again; so a replacement of a COPY
format, and the end of a connection, take several steps.
-/

namespace PhpDuckdb.Registration

open SqlText Value Connection OrderedTable

/-- What is registered: a COPY format or a scalar function. -/
inductive Kind
  | copy
  | scalar
  deriving DecidableEq, Repr

/-- `copy_registration` or `scalar_registration`: what one call registered. -/
structure Record where
  /-- What it registers. -/
  kind : Kind
  /-- `name`. -/
  name : Bytes
  /-- Its name in lower case, which it is found by. -/
  key : Bytes
  /-- `owner`. -/
  owner : Nat
  /-- Its connection. -/
  conn : Nat
  /-- `alive`. -/
  alive : Bool
  /-- `function` of a COPY format is not null. -/
  function : Bool
  deriving DecidableEq, Repr

/-- `copy_slot` or `scalar_slot`: the native function of a name with the registrations behind it. -/
structure Slot where
  /-- The parameter and return types of a scalar function. -/
  signature : List Bytes
  /-- `entries`: registrations by connection ids. -/
  entries : List (Nat × Nat)
  deriving DecidableEq, Repr

/-- The registrations of one kind that a connection knows. -/
structure Table where
  /-- `copy_regs` or `scalar_regs`. -/
  regs : List (Bytes × Nat)
  /-- `copy_registrations` or `scalar_registrations`. -/
  registrations : Nat
  deriving DecidableEq, Repr

/-- A connection of the database with its thread and its tables. -/
structure Conn where
  /-- The thread of its PHP object. -/
  thread : Nat
  /-- `closed`. -/
  closed : Bool
  /-- Its PHP object is being freed. -/
  freed : Bool
  /-- Its tables. -/
  tables : Kind → Table

/-- A step that waits for PHP destructors. -/
inductive Frame
  /-- `registerCopyToFunction` releases a replaced handler. -/
  | replacing (conn : Nat) (key : Bytes) (previous registration : Nat)
  /-- `duckdb_copy_connection_free` comes to its next registrations. -/
  | freeing (conn : Nat) (rest : List (Bytes × Nat))
  /-- It releases the handler of one. -/
  | retired (conn : Nat) (key : Bytes) (registration : Nat) (rest : List (Bytes × Nat))
  deriving DecidableEq, Repr

/-- The connection whose registration a frame is in the middle of. -/
def Frame.conn : Frame → Nat
  | .replacing conn _ _ _ | .freeing conn _ | .retired conn _ _ _ => conn

/-- The database, its connections and the threads that use them. -/
structure State where
  /-- `copy_slots` and `scalar_slots`. -/
  slots : Kind → List (Bytes × Slot)
  /-- The connections by their ids. -/
  conns : Nat → Option Conn
  /-- The registrations by their numbers. -/
  records : Nat → Option Record
  /-- How many registrations were made. -/
  count : Nat
  /-- What each thread is in the middle of. -/
  callStacks : Nat → List Frame
  /-- The COPY handlers that were released, by their registrations. -/
  released : List Nat

/-- A new database, to which nothing is connected. -/
def State.fresh : State := ⟨fun _ => [], fun _ => none, fun _ => none, 0, fun _ => [], []⟩

/-- A registering call, with what it finds. -/
structure Call where
  /-- What it registers. -/
  kind : Kind
  /-- `$name`. -/
  name : Bytes
  /-- The types of a scalar function. -/
  signature : List Bytes
  /-- A PHP callback runs on the thread. -/
  inCallback : Bool
  /-- It is one of this connection. -/
  busy : Bool
  /-- DuckDB takes the function under a new name. -/
  provided : Bool
  deriving DecidableEq, Repr

/-- `tolower` of the extension: only ASCII letters. -/
def toLower (byte : UInt8) : UInt8 := if isUpper byte then byte + 32 else byte

/-- `valid_name`, which `registerScalarFunction` repeats: some bytes, and no NUL. -/
def validName (name : Bytes) : Bool := name ≠ [] && !name.contains 0

/-- `reserved_name`: the formats that DuckDB itself knows, which PHP cannot replace. -/
def reservedNames : List Bytes :=
  [lit "csv", lit "parquet", lit "json", lit "avro", lit "iceberg", lit "ndjson", lit "jsonl"]

/-- The checks of a registering call, up to the key that it registers. -/
def registrationKey (connection : Conn) (call : Call) : Except Thrown Bytes := do
  duckdbConnectionGuard ⟨false, connection.closed, call.busy⟩
  let key := call.name.map toLower
  match call.kind with
  | .copy =>
    if call.inCallback then
      .error ⟨.exception, lit "COPY formats cannot be registered inside a COPY handler"⟩
    else do
      duckdbConnEnter ⟨false, connection.closed, call.busy⟩
      if !validName call.name then
        .error (valueError "must be non-empty and contain no NUL byte")
      else if reservedNames.contains key then
        .error (valueError "must not name a built-in COPY format")
      else .ok key
  | .scalar =>
    if call.inCallback then
      .error ⟨.exception, lit "Scalar functions cannot be registered inside a PHP callback"⟩
    else if !validName call.name then
      .error (valueError "must be non-empty and contain no NUL byte")
    else do
      duckdbConnEnter ⟨false, connection.closed, call.busy⟩
      .ok key

/-- `ensure_slot`: a scalar function keeps its types on every connection. -/
def ensureSlot (call : Call) (slots : List (Bytes × Slot)) (key : Bytes) :
    Option (List (Bytes × Slot)) :=
  match find key slots with
  | some slot =>
    if call.kind = .copy ∨ slot.signature = call.signature then some slots else none
  | none => if call.provided then some (update key ⟨call.signature, []⟩ slots) else none

/-- Set a connection's entry of a slot. -/
def publish (slots : List (Bytes × Slot)) (key : Bytes) (conn registration : Nat) :
    List (Bytes × Slot) :=
  match find key slots with
  | some slot =>
    update key { slot with entries := update conn registration slot.entries } slots
  | none => slots

/-- Erase a connection's entry of a slot if it is still a registration. -/
def unpublish (slots : List (Bytes × Slot)) (key : Bytes) (conn registration : Nat) :
    List (Bytes × Slot) :=
  match find key slots with
  | some slot =>
    if find conn slot.entries = some registration then
      update key { slot with entries := delete conn slot.entries } slots
    else slots
  | none => slots

/-- Change the slots of one kind. -/
def State.setSlots (state : State) (kind : Kind) (slots : List (Bytes × Slot)) : State :=
  { state with slots := Function.update state.slots kind slots }

/-- Change a connection of the database. -/
def State.setConn (state : State) (conn : Nat) (connection : Conn) : State :=
  { state with conns := Function.update state.conns conn (some connection) }

/-- Change one table of a connection. -/
def Conn.setTable (connection : Conn) (kind : Kind) (table : Table) : Conn :=
  { connection with tables := Function.update connection.tables kind table }

/-- Change a registration of the database. -/
def State.setRecord (state : State) (id : Nat) (change : Record → Record) : State :=
  { state with records := Function.update state.records id ((state.records id).map change) }

/-- `alive.store(false)`: from then on no callback runs for the registration. -/
def State.kill (state : State) (id : Nat) : State :=
  state.setRecord id fun record => { record with alive := false }

/-- `retire_registration` up to the release of the handler. -/
def State.retire (state : State) (id : Nat) : State :=
  let killed := state.kill id
  if (state.records id).any Record.function then
    { killed with released := killed.released ++ [id] }
  else killed

/-- The rest of `retire_registration`: the function of a registration is given up. -/
def State.dropFunction (state : State) (id : Nat) : State :=
  state.setRecord id fun record => { record with function := false }

/-- Change the top of a thread's stack. -/
def State.setStack (state : State) (thread : Nat) (stack : List Frame) : State :=
  { state with callStacks := Function.update state.callStacks thread stack }

/-- A new registration, published in its slot. -/
def State.make (state : State) (thread conn : Nat) (call : Call) (key : Bytes)
    (slots : List (Bytes × Slot)) : State :=
  { state.setSlots call.kind (publish slots key conn state.count) with
    records := Function.update state.records state.count
      (some ⟨call.kind, call.name, key, thread, conn, true, call.kind = .copy⟩)
    count := state.count + 1 }

/-- `registerCopyToFunction` and `registerScalarFunction` after their checks. The scalar function
changes its table before any handler is released. -/
def register (state : State) (thread conn : Nat) (connection : Conn) (call : Call) (key : Bytes)
    (slots : List (Bytes × Slot)) : State :=
  let made := state.make thread conn call key slots
  let table := connection.tables call.kind
  match find key table.regs with
  | some previous =>
    match call.kind with
    | .copy =>
      (made.retire previous).setStack thread
        (.replacing conn key previous state.count :: state.callStacks thread)
    | .scalar =>
      (made.kill previous).setConn conn
        (connection.setTable .scalar { table with regs := update key state.count table.regs })
  | none =>
    made.setConn conn (connection.setTable call.kind
      ⟨update key state.count table.regs, table.registrations + 1⟩)

/-- The loop of `duckdb_scalar_connection_free` over the registrations of a connection. -/
def freeScalars (conn : Nat) : List (Bytes × Nat) → State → State
  | [], state => state
  | (key, id) :: rest, state =>
    freeScalars conn rest
      ((state.kill id).setSlots .scalar (unpublish (state.slots .scalar) key conn id))

/-- `duckdb_scalar_connection_free`, up to the release of its handlers; those of the COPY formats
come next. -/
def free (state : State) (thread conn : Nat) (connection : Conn) : State :=
  ((freeScalars conn (connection.tables .scalar).regs state).setConn conn
    { connection.setTable .scalar ⟨[], 0⟩ with freed := true }).setStack thread
      (.freeing conn (connection.tables .copy).regs :: state.callStacks thread)

/-- PHP's destructors are done, and the top of a thread's stack goes on. -/
def advance (state : State) (thread : Nat) (frame : Frame) (stack : List Frame) : Option State :=
  match frame with
  | .replacing conn key previous registration =>
    (state.conns conn).map fun connection =>
      let table := connection.tables .copy
      ((state.dropFunction previous).setConn conn (connection.setTable .copy
        { table with regs := update key registration table.regs })).setStack thread stack
  | .freeing conn [] =>
    (state.conns conn).map fun connection =>
      (state.setConn conn (connection.setTable .copy ⟨[], 0⟩)).setStack thread stack
  | .freeing conn ((key, registration) :: rest) =>
    some ((state.retire registration).setStack thread
      (.retired conn key registration rest :: stack))
  | .retired conn key registration rest =>
    some (((state.dropFunction registration).setSlots .copy
      (unpublish (state.slots .copy) key conn registration)).setStack thread
        (.freeing conn rest :: stack))

/-- One step of a thread that uses the database. -/
inductive Event
  /-- A connection is opened. -/
  | connect (thread conn : Nat)
  /-- `Connection::close()`. -/
  | close (thread conn : Nat)
  /-- `registerCopyToFunction` or `registerScalarFunction`. -/
  | register (thread conn : Nat) (call : Call)
  /-- The PHP object of a connection is freed. -/
  | free (thread conn : Nat)
  /-- The destructors that a thread waits for are done. -/
  | advance (thread : Nat)
  deriving DecidableEq, Repr

/-- The methods of a connection run on its thread, and until its object is freed; a running method
keeps the object. -/
def step (state : State) : Event → Option State
  | .connect thread conn =>
    if (state.conns conn).isSome then none
    else some (state.setConn conn ⟨thread, false, false, fun _ => ⟨[], 0⟩⟩)
  | .close thread conn =>
    (state.conns conn).bind fun connection =>
      if connection.thread ≠ thread ∨ connection.freed then none
      else some (state.setConn conn { connection with closed := true })
  | .register thread conn call =>
    (state.conns conn).bind fun connection =>
      if connection.thread ≠ thread ∨ connection.freed then none
      else
        match registrationKey connection call with
        | .error _ => some state
        | .ok key =>
          match ensureSlot call (state.slots call.kind) key with
          | none => some state
          | some slots => some (register state thread conn connection call key slots)
  | .free thread conn =>
    (state.conns conn).bind fun connection =>
      if connection.thread ≠ thread ∨ connection.freed ∨
          ¬∀ frame ∈ state.callStacks thread, frame.conn ≠ conn then none
      else some (free state thread conn connection)
  | .advance thread =>
    match state.callStacks thread with
    | [] => none
    | frame :: stack => advance state thread frame stack

/-- The machine of one database's registrations. -/
def registrations : Machine State Event := ⟨step⟩

/-- `duckdb_conn_needs_pump`: a function is registered, or `force_pump()` asks for the pump. -/
def needsPump (forcePump : Bool) (connection : Conn) : Bool :=
  forcePump || 0 < (connection.tables .copy).registrations ||
    0 < (connection.tables .scalar).registrations

end PhpDuckdb.Registration
