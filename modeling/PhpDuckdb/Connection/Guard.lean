import PhpDuckdb.Value.Conversion

/-!
# Guards of a connection

Every PHP-thread operation first checks that its object was constructed, that its connection is
open and that the calling thread runs no PHP handler of that connection; only then it takes the
connection's mutex.
-/

namespace PhpDuckdb.Connection

open SqlText Value

/-- What the guards of an operation look at. -/
structure Access where
  /-- The object's constructor was bypassed. -/
  uninitialized : Bool
  /-- `Connection::close()` ran. -/
  closed : Bool
  /-- The calling thread runs a PHP handler of the connection. -/
  busy : Bool
  deriving DecidableEq, Repr

/-- An object and a connection that refuse no operation. -/
def Access.granted : Access := ⟨false, false, false⟩

/-- `duckdb_initialized_guard`: refuses an object whose constructor was bypassed. -/
def duckdbInitializedGuard (access : Access) (className : String) : Except Thrown Unit :=
  if access.uninitialized then
    .error ⟨.error, lit className ++ lit " object is not initialized (its constructor was bypassed)"⟩
  else .ok ()

/-- `duckdb_connection_guard`: refuses a connection that is closed. -/
def duckdbConnectionGuard (access : Access) : Except Thrown Unit :=
  if access.closed then .error ⟨.connection, lit "Connection is closed"⟩ else .ok ()

/-- `duckdb_conn_enter`: refuses instead of locking inside a handler of the connection. -/
def duckdbConnEnter (access : Access) : Except Thrown Unit :=
  if access.busy then
    .error ⟨.connection,
      lit "Connection is busy executing a COPY handler; use another connection"⟩
  else .ok ()

/-- The guards of a method in their order. -/
def enter (access : Access) (className : String) : Except Thrown Unit := do
  duckdbInitializedGuard access className
  duckdbConnectionGuard access
  duckdbConnEnter access

/-- The error of an interrupted query. -/
def interrupted : Thrown := ⟨.engine (lit "INTERRUPT"), lit "Query interrupted"⟩

/-- A method is let in exactly when nothing refuses it. -/
theorem enter_eq_ok {access : Access} {className : String} :
    enter access className = .ok () ↔ access = .granted := by
  obtain ⟨uninitialized, closed, busy⟩ := access
  cases uninitialized <;> cases closed <;> cases busy <;>
    simp [enter, duckdbInitializedGuard, duckdbConnectionGuard, duckdbConnEnter, bind, Except.bind,
      Access.granted]

end PhpDuckdb.Connection
