import PhpDuckdb.Lib.OrderedTable
import PhpDuckdb.Lib.Ownership
import PhpDuckdb.Lib.SqlText

/-!
# PHP objects of scalar functions

DuckDB's bind data and local states hold tokens, never PHP objects. The connection's registry has the
object of each token, and looks for tokens that only it has left to release their objects. DuckDB's
threads copy and free native data at any time; PHP destructors that a release runs may do anything
that a PHP thread does.
-/

namespace PhpDuckdb.ScalarObjects

open SqlText OrderedTable Ownership

/-- `scalar_registration`: a registration with the token of the function it holds. -/
structure Registration where
  /-- Which it is. -/
  number : Nat
  /-- The token of the function. -/
  function : Nat
  deriving DecidableEq, Repr

/-- What DuckDB holds for a scalar function: a registration, a binding or a state. -/
inductive Native
  /-- `scalar_bind`; the token of the binding comes with the return of `bind()`. -/
  | bind (registration : Registration) (binding : Option Nat)
  /-- `scalar_local`; the token of the executor comes with the return of `init()`. -/
  | local (registration : Registration) (executor : Option Nat)
  deriving DecidableEq, Repr

/-- The registration that native data holds. -/
def Native.registration : Native → Registration
  | .bind registration _ | .local registration _ => registration

/-- The token that native data was made for. -/
def Native.token : Native → Option Nat
  | .bind _ token | .local _ token => token

/-- A loop of the PHP thread over the registry's objects, by their tokens. -/
inductive Frame
  /-- `reap_objects` looks for tokens that nothing else has; so far it found these. -/
  | scanning (retired : List (Nat × Nat))
  /-- The objects are released, one after the other. -/
  | releasing (objects : List (Nat × Nat))
  deriving DecidableEq, Repr

/-- The objects that a loop has still to release. -/
def Frame.objects : Frame → List (Nat × Nat)
  | .scanning objects | .releasing objects => objects

/-- The thread that an event is on. -/
inductive Thread
  /-- The connection's PHP thread. -/
  | request
  /-- A thread of DuckDB. -/
  | worker (number : Nat)
  deriving DecidableEq, Repr

/-- The scalar functions of a connection: objects, tokens and the native data behind them. -/
structure State where
  /-- `scalar_state`: the objects of the registry by their tokens. -/
  scalarState : Option (List (Nat × Nat))
  /-- The connection's PHP object was freed. -/
  freed : Bool
  /-- `next` of the registry. -/
  next : Nat
  /-- `alive` of the tokens. -/
  alive : Nat → Bool
  /-- The object that each token was made for. -/
  stored : Nat → Option Nat
  /-- `scalar_regs`. -/
  scalarRegs : List (Bytes × Registration)
  /-- The connection's entries of the slots. -/
  slots : List (Bytes × Registration)
  /-- `alive` of the registrations. -/
  registered : Nat → Bool
  /-- How many registrations were made. -/
  count : Nat
  /-- The native data. -/
  natives : List (Nat × Native)
  /-- The loops that the PHP thread is in, the innermost first. -/
  frames : List Frame
  /-- The references to PHP objects, by their tokens: taken, used for a call, released. -/
  log : List (Use Nat)

/-- A new connection, which registered no function. -/
def State.start : State where
  scalarState := none
  freed := false
  next := 0
  alive := fun _ => false
  stored := fun _ => none
  scalarRegs := []
  slots := []
  registered := fun _ => false
  count := 0
  natives := []
  frames := []
  log := []

/-- The objects of the registry under their tokens. -/
def State.objects (state : State) : List (Nat × Nat) := state.scalarState.getD []

/-- The registrations that something refers to. -/
def State.registrations (state : State) : List Registration :=
  (state.scalarRegs.map Prod.snd ++ state.slots.map Prod.snd ++
    state.natives.map fun native => native.2.registration).dedup

/-- `use_count` of a token in the registry. -/
def State.useCount (state : State) (token : Nat) : Nat :=
  1 + state.registrations.countP (fun registration => registration.function = token) +
    state.natives.countP fun native => native.2.token = some token

/-- `store_object`; the token is `next + 1`. -/
def State.storeObject (state : State) (objects : List (Nat × Nat)) (object : Nat) : State :=
  { state with
    scalarState := some (objects ++ [(state.next + 1, object)])
    next := state.next + 1
    alive := Function.update state.alive (state.next + 1) true
    stored := Function.update state.stored (state.next + 1) (some object)
    log := state.log ++ [.create (state.next + 1)] }

/-- `lookup_object`: the object of a token, as long as the connection and the token live. -/
def State.lookupObject (state : State) (token : Nat) : Option Nat :=
  match state.scalarState with
  | none => none
  | some objects => if state.alive token then find token objects else none

/-- The PHP thread scans the registry and runs nothing else. -/
def State.scanning (state : State) : Bool :=
  match state.frames with
  | .scanning _ :: _ => true
  | _ => false

/-- What happens, and on which thread. -/
inductive Event
  /-- `registerScalarFunction` from `store_object` on. -/
  | register (key : Bytes) (object : Nat)
  /-- `scalar_bind_callback` finds the registration and makes bind data. -/
  | beginBind (thread : Thread) (native : Nat) (key : Bytes)
  /-- `bind()` returned a binding. -/
  | storeBinding (native object : Nat)
  /-- DuckDB copies bind data. -/
  | copyBind (thread : Thread) (native copy : Nat)
  /-- `scalar_init_callback` makes a local state. -/
  | beginLocal (thread : Thread) (bind native : Nat)
  /-- `init()` returned an executor. -/
  | storeExecutor (native object : Nat)
  /-- DuckDB frees native data, or a callback drops what it made. -/
  | freeNative (thread : Thread) (native : Nat)
  /-- An object is looked up for a call. -/
  | lookup (token : Nat)
  /-- `reap_objects`: it starts, it erases an entry, and its scan ends. -/
  | reap
  | retire (token : Nat)
  | scanned
  /-- The loop over the objects: it releases the next one, or ends. -/
  | release
  | finished
  /-- `duckdb_scalar_connection_free` up to the releases. -/
  | freeConnection
  deriving DecidableEq, Repr

/-- The thread that takes the step of an event. -/
def Event.thread : Event → Thread
  | .beginBind thread _ _ | .copyBind thread _ _ | .beginLocal thread _ _
  | .freeNative thread _ => thread
  | _ => .request

/-- `registerScalarFunction` from `store_object` on: a registration under the same name is replaced. -/
def register (state : State) (key : Bytes) (object : Nat) : State :=
  let registration : Registration := ⟨state.count, state.next + 1⟩
  let made := state.storeObject state.objects object
  let registered := match find key state.scalarRegs with
    | some previous => Function.update state.registered previous.number false
    | none => state.registered
  { made with
    count := state.count + 1
    registered := Function.update registered state.count true
    scalarRegs := update key registration state.scalarRegs
    slots := update key registration state.slots }

/-- `duckdb_scalar_connection_free` up to the releases: every token is dead from then on. -/
def freeConnection (state : State) : State :=
  { state with
    scalarState := none
    freed := true
    alive := fun token => state.alive token && !(keys state.objects).contains token
    registered := fun number => state.registered number &&
      !state.scalarRegs.any fun entry => entry.2.number = number
    scalarRegs := []
    slots := state.slots.filter fun slot => find slot.1 state.scalarRegs ≠ some slot.2
    frames := .releasing state.objects :: state.frames }

/-- One event. Events that cannot happen have no step. -/
def step (state : State) (event : Event) : Option State :=
  if event.thread = .request ∧ state.scanning = true then
    match event, state.frames with
    | .retire token, .scanning retired :: outer =>
      match find token state.objects with
      | some object =>
        if state.useCount token = 1 then
          some { state with
            scalarState := state.scalarState.map (delete token)
            alive := Function.update state.alive token false
            frames := .scanning (retired ++ [(token, object)]) :: outer }
        else none
      | none => none
    | .scanned, .scanning retired :: outer =>
      some { state with frames := .releasing retired :: outer }
    | _, _ => none
  else
    match event with
    | .register key object => if state.freed then none else some (register state key object)
    | .beginBind _ native key =>
      match find key state.slots, find native state.natives with
      | some registration, none =>
        if state.registered registration.number then
          some { state with natives := update native (.bind registration none) state.natives }
        else none
      | _, _ => none
    | .storeBinding native object =>
      match find native state.natives, state.scalarState with
      | some (.bind registration none), some objects =>
        some { state.storeObject objects object with
          natives := update native (.bind registration (some (state.next + 1))) state.natives }
      | _, _ => none
    | .copyBind _ native copy =>
      match find native state.natives, find copy state.natives with
      | some (.bind registration binding), none =>
        some { state with natives := update copy (.bind registration binding) state.natives }
      | _, _ => none
    | .beginLocal _ bind native =>
      match find bind state.natives, find native state.natives with
      | some (.bind registration _), none =>
        some { state with natives := update native (.local registration none) state.natives }
      | _, _ => none
    | .storeExecutor native object =>
      match find native state.natives, state.scalarState with
      | some (.local registration none), some objects =>
        some { state.storeObject objects object with
          natives := update native (.local registration (some (state.next + 1))) state.natives }
      | _, _ => none
    | .freeNative _ native =>
      if find native state.natives = none then none
      else some { state with natives := delete native state.natives }
    | .lookup token =>
      match state.lookupObject token with
      | some _ => some { state with log := state.log ++ [.touch token] }
      | none => some state
    | .reap =>
      if state.scalarState = none then some state
      else some { state with frames := .scanning [] :: state.frames }
    | .release =>
      match state.frames with
      | .releasing ((token, _) :: rest) :: outer =>
        some { state with
          frames := .releasing rest :: outer
          log := state.log ++ [.destroy token] }
      | _ => none
    | .finished =>
      match state.frames with
      | .releasing [] :: outer => some { state with frames := outer }
      | _ => none
    | .freeConnection => if state.freed then none else some (freeConnection state)
    | .retire _ | .scanned => none

/-- The states that events lead to. -/
def scalarObjects : Machine State Event := ⟨step⟩

end PhpDuckdb.ScalarObjects
