import Mathlib.Data.List.Basic
import Mathlib.Data.List.Induction
import PhpDuckdb.Lib.Machine

/-!
# Sessions published by connection id

`db_inner::sessions` maps DuckDB's connection id to the session whose request thread runs the
PHP callbacks of that connection, as a weak pointer. `duckdb_session_open` overwrites the entry
of its connection, and `duckdb_session_end` erases it when it still names the ending session.
The entry therefore follows the session opened last, not the stack of sessions that are still
open: `published_exact` says which session an entry names after every run.
-/

namespace PhpDuckdb.Session

/-- Identity of a session object; an address is never reused while a weak pointer names it. -/
abbrev SessionId := Nat

/-- The id that DuckDB gives a connection. -/
abbrev ConnectionId := Nat

/-- The part of `copy_session` that opening, ending and finding read and write. -/
structure CopySession where
  /-- The connection that the session's statement runs on. -/
  connectionId : ConnectionId
  /-- Callbacks may still be queued. -/
  isOpen : Bool
  /-- Why the session closed; empty while it is open. -/
  closeReason : String
  /-- The COPY layer's finish hook is installed and has not been taken. -/
  finish : Bool
  /-- Some shared pointer still owns the object, so a weak pointer to it locks. -/
  alive : Bool
  deriving DecidableEq, Repr

/-- `copy_session::close`: only the first call changes the session. -/
def CopySession.close (session : CopySession) (reason : String) : CopySession :=
  if !session.isOpen then session
  else { session with isOpen := false, closeReason := reason }

/-- A run of a finish hook: its session, the failure and whether PHP may be called. -/
structure FinishCall where
  /-- The session whose hook ran. -/
  session : SessionId
  /-- Empty when the statement succeeded. -/
  failure : String
  /-- PHP may run in the hook. -/
  canCallPhp : Bool
  deriving DecidableEq, Repr

/-- Session objects, the published map and the finish hooks run so far. -/
structure Db where
  /-- Every session object created so far. -/
  heap : SessionId → Option CopySession
  /-- `db_inner::sessions`. -/
  sessions : ConnectionId → Option SessionId
  /-- Finish hooks in the order they ran. -/
  finished : List FinishCall

/-- A database in which no session was ever opened. -/
def Db.empty : Db := ⟨fun _ => none, fun _ => none, []⟩

/-- `weak_ptr::lock`: the object while something owns it. -/
def Db.lock (db : Db) (session : SessionId) : Option SessionId :=
  match db.heap session with
  | some object => if object.alive then some session else none
  | none => none

/-- `duckdb_session_open`: create the session and publish it over any earlier entry. `hooked`
says whether the COPY layer attached a finish hook. -/
def duckdbSessionOpen (db : Db) (session : SessionId) (id : ConnectionId) (hooked : Bool) : Db :=
  { db with
    heap := Function.update db.heap session (some ⟨id, true, "", hooked, true⟩)
    sessions := Function.update db.sessions id (some session) }

/-- `session_close`: close the object and erase its entry if it still names the object. -/
def sessionClose (db : Db) (session : SessionId) (object : CopySession) (failure : String) : Db :=
  let reason := if failure = "" then "COPY statement finished" else failure
  { db with
    heap := Function.update db.heap session (some (object.close reason))
    sessions :=
      if (db.sessions object.connectionId).bind db.lock = some session then
        Function.update db.sessions object.connectionId none
      else db.sessions }

/-- `session_take_finish` and the call of the hook it takes. -/
def sessionTakeFinish (db : Db) (session : SessionId) (failure : String) (canCallPhp : Bool) :
    Db :=
  match db.heap session with
  | some object =>
    if object.finish then
      { db with
        heap := Function.update db.heap session (some { object with finish := false })
        finished := db.finished ++ [⟨session, failure, canCallPhp⟩] }
    else db
  | none => db

/-- `duckdb_session_end`. The caller's reference keeps the object alive. -/
def duckdbSessionEnd (db : Db) (session : SessionId) (failure : String) (canCallPhp : Bool) :
    Option Db :=
  match db.heap session with
  | some object =>
    if object.alive then
      some (sessionTakeFinish (sessionClose db session object failure) session failure canCallPhp)
    else none
  | none => none

/-- `duckdb_session_find`: the session of a connection, as long as something holds it. -/
def duckdbSessionFind (db : Db) (id : ConnectionId) : Option SessionId :=
  match db.sessions id with
  | some session => db.lock session
  | none => none

/-- What happens to sessions: opens, ends, and the release of the last reference, which its
owner drops only after ending the session. -/
inductive Event
  | opened (session : SessionId) (id : ConnectionId) (hooked : Bool)
  | ended (session : SessionId) (failure : String) (canCallPhp : Bool)
  | released (session : SessionId)
  deriving DecidableEq, Repr

/-- One event; opening needs an object that does not exist yet. -/
def step (db : Db) : Event → Option Db
  | .opened session id hooked =>
    match db.heap session with
    | none => some (duckdbSessionOpen db session id hooked)
    | some _ => none
  | .ended session failure canCallPhp => duckdbSessionEnd db session failure canCallPhp
  | .released session =>
    match db.heap session with
    | some object =>
      if object.isOpen then none
      else
        some { db with
          heap := Function.update db.heap session (some { object with alive := false }) }
    | none => none

/-- The machine of the events of sessions. -/
def registry : Machine Db Event := ⟨step⟩

/-- How `duckdb_pump_execute` leaves the session it opened. -/
inductive PumpOutcome
  | startFailed (message : String)
  | leaseFailed (message : String)
  | executionFailed (message : String)
  | streaming
  | finished
  deriving DecidableEq, Repr

/-- The session events of `duckdb_pump_execute`: only a started stream keeps its session. -/
def duckdbPumpExecute (session : SessionId) (id : ConnectionId) (hooked : Bool) :
    PumpOutcome → List Event
  | .startFailed message => [.opened session id hooked, .ended session message true]
  | .leaseFailed message => [.opened session id hooked, .ended session message true]
  | .executionFailed message => [.opened session id hooked, .ended session message true]
  | .streaming => [.opened session id hooked]
  | .finished => [.opened session id hooked, .ended session "" true]

/-! ## Histories of one connection -/

/-- The sessions opened on a connection, in order. -/
def openedOn (id : ConnectionId) : List Event → List SessionId
  | [] => []
  | .opened session at_ _ :: rest =>
    if at_ = id then session :: openedOn id rest else openedOn id rest
  | _ :: rest => openedOn id rest

/-- The sessions that some events ended, in order. -/
def endedIn : List Event → List SessionId
  | [] => []
  | .ended session _ _ :: rest => session :: endedIn rest
  | _ :: rest => endedIn rest

/-- Ends on the connection come in the reverse order of its opens, from a stack of sessions
that are open already. -/
def NestedFrom (id : ConnectionId) : List SessionId → List Event → Prop
  | _, [] => True
  | stack, .opened session at_ _ :: rest =>
    NestedFrom id (if at_ = id then session :: stack else stack) rest
  | stack, .ended session _ _ :: rest =>
    (session ∈ stack → stack.head? = some session) ∧ NestedFrom id (stack.erase session) rest
  | stack, .released _ :: rest => NestedFrom id stack rest

instance (id : ConnectionId) (stack : List SessionId) (trace : List Event) :
    Decidable (NestedFrom id stack trace) :=
  match trace with
  | [] => isTrue trivial
  | .opened session at_ _ :: rest =>
    instDecidableNestedFrom id (if at_ = id then session :: stack else stack) rest
  | .ended session _ _ :: rest =>
    have := instDecidableNestedFrom id (stack.erase session) rest
    inferInstanceAs (Decidable ((session ∈ stack → stack.head? = some session) ∧
      NestedFrom id (stack.erase session) rest))
  | .released _ :: rest => instDecidableNestedFrom id stack rest

/-- A run of properly nested sessions on the connection. -/
abbrev ProperlyNested (id : ConnectionId) (trace : List Event) : Prop := NestedFrom id [] trace

/-- The session is still open and every session opened on its connection after it has ended. -/
def Innermost (id : ConnectionId) (trace : List Event) (session : SessionId) : Prop :=
  session ∉ endedIn trace ∧ ∃ earlier later,
    openedOn id trace = earlier ++ session :: later ∧ ∀ other ∈ later, other ∈ endedIn trace

/-! ## What an entry names -/

/-- Opening appends to the history of its own connection only. -/
@[simp]
theorem openedOn_concat_opened (id at_ : ConnectionId) (trace : List Event) (session : SessionId)
    (hooked : Bool) : openedOn id (trace ++ [.opened session at_ hooked]) =
      openedOn id trace ++ if at_ = id then [session] else [] := by
  induction trace with
  | nil => rfl
  | cons event rest ih =>
    cases event with
    | opened other place flag =>
      simp only [List.cons_append, openedOn, ih]
      split <;> rfl
    | ended other failure canCallPhp => exact ih
    | released other => exact ih

/-- A session that ends opens none on a connection. -/
@[simp]
theorem openedOn_concat_ended (id : ConnectionId) (trace : List Event) (session : SessionId)
    (failure : String) (canCallPhp : Bool) :
    openedOn id (trace ++ [.ended session failure canCallPhp]) = openedOn id trace := by
  induction trace with
  | nil => rfl
  | cons event rest ih => cases event <;> simp [openedOn, ih]

/-- A session that is released opens none on a connection. -/
@[simp]
theorem openedOn_concat_released (id : ConnectionId) (trace : List Event) (session : SessionId) :
    openedOn id (trace ++ [.released session]) = openedOn id trace := by
  induction trace with
  | nil => rfl
  | cons event rest ih => cases event <;> simp [openedOn, ih]

/-- A session ended in an extended history ended before or in the last event. -/
@[simp]
theorem mem_endedIn_concat (trace : List Event) (event : Event) (session : SessionId) :
    session ∈ endedIn (trace ++ [event]) ↔ session ∈ endedIn trace ∨ session ∈ endedIn [event] := by
  induction trace with
  | nil => simp [endedIn]
  | cons first rest ih => cases first <;> simp [endedIn, ih, or_assoc]

/-- What the state records of the history that led to it. -/
structure Tracks (trace : List Event) (db : Db) : Prop where
  /-- The objects are the sessions opened so far, each on its own connection. -/
  heap : ∀ session id, session ∈ openedOn id trace ↔
    ∃ object, db.heap session = some object ∧ object.connectionId = id
  /-- Only sessions that exist were ended. -/
  known : ∀ session ∈ endedIn trace, ∃ object, db.heap session = some object
  /-- An object is open exactly until its session ends. -/
  ended : ∀ session object, db.heap session = some object →
    (object.isOpen = false ↔ session ∈ endedIn trace)
  /-- An open object is owned. -/
  owned : ∀ session object, db.heap session = some object → object.isOpen = true →
    object.alive = true
  /-- An entry names the session opened last on its connection until that session ends. -/
  entry : ∀ id session, db.sessions id = some session ↔
    (openedOn id trace).getLast? = some session ∧ session ∉ endedIn trace

/-- Nothing is published before the first session. -/
theorem tracks_empty : Tracks [] Db.empty where
  heap session id := by simp [openedOn, Db.empty]
  known session found := by simp [endedIn] at found
  ended session object found := by simp [Db.empty] at found
  owned session object found := by simp [Db.empty] at found
  entry id session := by simp [openedOn, Db.empty]

/-- A connection's history names existing objects. -/
theorem Tracks.exists_of_last {trace : List Event} {db : Db} (tracks : Tracks trace db)
    {id : ConnectionId} {session : SessionId}
    (last : (openedOn id trace).getLast? = some session) :
    ∃ object, db.heap session = some object ∧ object.connectionId = id :=
  (tracks.heap session id).mp (List.mem_of_getLast? last)

/-- An object that does not exist yet is in no history. -/
theorem Tracks.fresh {trace : List Event} {db : Db} (tracks : Tracks trace db)
    {session : SessionId} (absent : db.heap session = none) :
    session ∉ endedIn trace ∧ ∀ id, session ∉ openedOn id trace := by
  constructor
  · intro ended
    obtain ⟨object, found⟩ := tracks.known session ended
    simp [absent] at found
  · intro id opened
    obtain ⟨object, found, _⟩ := (tracks.heap session id).mp opened
    simp [absent] at found

/-- Opening a session keeps the record, with the new session last on its connection. -/
theorem tracks_opened {trace : List Event} {db : Db} (tracks : Tracks trace db)
    (session : SessionId) (id : ConnectionId) (hooked : Bool) (absent : db.heap session = none) :
    Tracks (trace ++ [.opened session id hooked]) (duckdbSessionOpen db session id hooked) := by
  obtain ⟨notEnded, notOpened⟩ := tracks.fresh absent
  constructor
  · intro other place
    by_cases same : other = session
    · subst same
      by_cases here : id = place <;> simp [duckdbSessionOpen, here, notOpened]
    · have unchanged := tracks.heap other place
      by_cases here : id = place <;> simp [duckdbSessionOpen, here, same, unchanged]
  · intro other ended
    have before : other ∈ endedIn trace := by simpa [endedIn] using ended
    obtain ⟨object, found⟩ := tracks.known other before
    have distinct : other ≠ session := fun same => by simp [same, absent] at found
    exact ⟨object, by simpa [duckdbSessionOpen, Function.update_of_ne distinct] using found⟩
  · intro other object found
    by_cases same : other = session
    · subst same
      simp only [duckdbSessionOpen, Function.update_self, Option.some.injEq] at found
      simp [← found, endedIn, notEnded]
    · simp only [duckdbSessionOpen, Function.update_of_ne same] at found
      simpa [endedIn] using tracks.ended other object found
  · intro other object found isOpen
    by_cases same : other = session
    · subst same
      simp only [duckdbSessionOpen, Function.update_self, Option.some.injEq] at found
      simp [← found]
    · simp only [duckdbSessionOpen, Function.update_of_ne same] at found
      exact tracks.owned other object found isOpen
  · intro place other
    by_cases here : place = id
    · subst here
      simp only [duckdbSessionOpen, Function.update_self, Option.some.injEq,
        openedOn_concat_opened, ↓reduceIte, List.getLast?_append, List.getLast?_singleton,
        Option.some_or, mem_endedIn_concat, endedIn, List.not_mem_nil, or_false]
      constructor
      · rintro rfl
        exact ⟨rfl, notEnded⟩
      · exact fun named => named.1
    · have unchanged := tracks.entry place other
      simpa [duckdbSessionOpen, Function.update_of_ne here, Ne.symm here, endedIn] using unchanged

/-- A session object is not open after it was closed. -/
@[simp]
theorem CopySession.close_isOpen (session : CopySession) (reason : String) :
    (session.close reason).isOpen = false := by
  unfold CopySession.close
  split
  · rename_i shut
    simpa using shut
  · rfl

/-- Closing moves no object to another connection. -/
@[simp]
theorem CopySession.close_connectionId (session : CopySession) (reason : String) :
    (session.close reason).connectionId = session.connectionId := by
  unfold CopySession.close
  split <;> rfl

/-- Closing a session object does not free it. -/
@[simp]
theorem CopySession.close_alive (session : CopySession) (reason : String) :
    (session.close reason).alive = session.alive := by
  unfold CopySession.close
  split <;> rfl

/-- All that an end does: the object stays on its connection, closed and owned, and the entry
of its connection is erased exactly when it names the object. -/
theorem duckdbSessionEnd_some {db next : Db} {session : SessionId} {failure : String}
    {canCallPhp : Bool} (ended : duckdbSessionEnd db session failure canCallPhp = some next) :
    ∃ object final, db.heap session = some object ∧
      next.heap = Function.update db.heap session (some final) ∧
      final.connectionId = object.connectionId ∧ final.isOpen = false ∧ final.alive = true ∧
      next.sessions = if db.sessions object.connectionId = some session then
        Function.update db.sessions object.connectionId none else db.sessions := by
  unfold duckdbSessionEnd at ended
  cases found : db.heap session with
  | none => simp [found] at ended
  | some object =>
    simp only [found] at ended
    split at ended
    · rename_i alive
      have locked : ∀ other, (some other).bind db.lock = some session ↔ other = session := by
        intro other
        constructor
        · intro names
          simp only [Option.bind_some, Db.lock] at names
          split at names <;> simp_all
        · rintro rfl
          simp [Db.lock, found, alive]
      have entry : ((db.sessions object.connectionId).bind db.lock = some session) ↔
          db.sessions object.connectionId = some session := by
        cases named : db.sessions object.connectionId with
        | none => simp
        | some other => rw [locked]; simp
      obtain rfl := Option.some.inj ended
      simp only [sessionTakeFinish, sessionClose, Function.update_self, entry]
      generalize (if failure = "" then "COPY statement finished" else failure) = reason
      split
      · exact ⟨object, _, rfl, Function.update_idem .., by simp, by simp, by simp [alive], rfl⟩
      · exact ⟨object, _, rfl, rfl, by simp, by simp, by simp [alive], rfl⟩
    · contradiction

/-- Ending a session keeps the record, with the session ended. -/
theorem tracks_ended {trace : List Event} {db next : Db} (tracks : Tracks trace db)
    {session : SessionId} {failure : String} {canCallPhp : Bool}
    (stepped : duckdbSessionEnd db session failure canCallPhp = some next) :
    Tracks (trace ++ [.ended session failure canCallPhp]) next := by
  obtain ⟨object, final, found, heap, place, closed, alive, entries⟩ :=
    duckdbSessionEnd_some stepped
  constructor
  · intro other id
    rw [openedOn_concat_ended, tracks.heap, heap]
    by_cases same : other = session
    · subst same
      simp [found, place]
    · simp [Function.update_of_ne same]
  · intro other ended
    rw [heap]
    by_cases same : other = session
    · exact ⟨final, by simp [same]⟩
    · have before : other ∈ endedIn trace := by simpa [endedIn, same] using ended
      simpa [Function.update_of_ne same] using tracks.known other before
  · intro other stored stays
    rw [heap] at stays
    by_cases same : other = session
    · subst same
      simp only [Function.update_self, Option.some.injEq] at stays
      simp [← stays, closed, endedIn]
    · rw [Function.update_of_ne same] at stays
      simpa [endedIn, same] using tracks.ended other stored stays
  · intro other stored stays isOpen
    rw [heap] at stays
    by_cases same : other = session
    · subst same
      simp only [Function.update_self, Option.some.injEq] at stays
      simp [← stays, alive]
    · rw [Function.update_of_ne same] at stays
      exact tracks.owned other stored stays isOpen
  · intro id other
    have before := tracks.entry id other
    rw [openedOn_concat_ended, entries]
    by_cases same : other = session
    · subst same
      -- The ended session is on one connection only, so no other entry names it.
      have elsewhere : db.sessions id = some other → id = object.connectionId := by
        intro named
        obtain ⟨stored, stays, onId⟩ := tracks.exists_of_last (before.mp named).1
        rw [found, Option.some.injEq] at stays
        rw [← onId, stays]
      simp only [mem_endedIn_concat, endedIn, List.mem_singleton, or_true, not_true_eq_false,
        and_false, iff_false]
      split
      · by_cases here : id = object.connectionId
        · simp [here]
        · rw [Function.update_of_ne here]
          exact fun named => here (elsewhere named)
      · intro named
        have here := elsewhere named
        subst here
        contradiction
    · simp only [mem_endedIn_concat, endedIn, List.mem_singleton, same, or_false, ← before]
      split
      · rename_i names
        by_cases here : id = object.connectionId
        · subst here
          simp [names, Ne.symm same]
        · rw [Function.update_of_ne here]
      · rfl

/-- Releasing the last reference of an ended session keeps the record. -/
theorem tracks_released {trace : List Event} {db : Db} (tracks : Tracks trace db)
    {session : SessionId} {object : CopySession} (found : db.heap session = some object)
    (closed : object.isOpen = false) :
    Tracks (trace ++ [.released session]) { db with
      heap := Function.update db.heap session (some { object with alive := false }) } := by
  constructor
  · intro other id
    rw [openedOn_concat_released, tracks.heap]
    by_cases same : other = session
    · subst same
      simp [found]
    · simp [Function.update_of_ne same]
  · intro other ended
    have before : other ∈ endedIn trace := by simpa [endedIn] using ended
    by_cases same : other = session
    · subst same
      simp
    · simpa [Function.update_of_ne same] using tracks.known other before
  · intro other stored stays
    by_cases same : other = session
    · subst same
      simp only [Function.update_self, Option.some.injEq] at stays
      simpa [← stays, endedIn] using tracks.ended other object found
    · simp only [Function.update_of_ne same] at stays
      simpa [endedIn] using tracks.ended other stored stays
  · intro other stored stays isOpen
    by_cases same : other = session
    · subst same
      simp only [Function.update_self, Option.some.injEq] at stays
      simp [← stays, closed] at isOpen
    · simp only [Function.update_of_ne same] at stays
      exact tracks.owned other stored stays isOpen
  · intro id other
    simpa [endedIn] using tracks.entry id other

/-- Every event keeps the record of the history it extends. -/
theorem tracks_step {trace : List Event} {db next : Db} {event : Event}
    (tracks : Tracks trace db) (stepped : registry.step db event = some next) :
    Tracks (trace ++ [event]) next := by
  cases event with
  | opened session id hooked =>
    cases absent : db.heap session with
    | none =>
      simp only [registry, step, absent, Option.some.injEq] at stepped
      subst stepped
      exact tracks_opened tracks session id hooked absent
    | some object => simp [registry, step, absent] at stepped
  | ended session failure canCallPhp => exact tracks_ended tracks stepped
  | released session =>
    cases found : db.heap session with
    | none => simp [registry, step, found] at stepped
    | some object =>
      simp only [registry, step, found] at stepped
      split at stepped
      · contradiction
      · rename_i closed
        obtain rfl := Option.some.inj stepped
        exact tracks_released tracks found (by simpa using closed)

/-- The registry after every run tracks the history of its sessions. -/
theorem tracks_run {trace : List Event} {db : Db} (ran : registry.run Db.empty trace = some db) :
    Tracks trace db := by
  induction trace using List.reverseRecOn generalizing db with
  | nil =>
    obtain rfl := Option.some.inj ran
    exact tracks_empty
  | append_singleton earlier event ih =>
    obtain ⟨middle, before, stepped⟩ := registry.run_concat_some.mp ran
    exact tracks_step (ih before) stepped

/-- A lookup finds exactly the session opened last on the connection, until that one ends. -/
theorem published_exact {id : ConnectionId} {trace : List Event} {db : Db} {session : SessionId}
    (ran : registry.run Db.empty trace = some db) :
    duckdbSessionFind db id = some session ↔
      (openedOn id trace).getLast? = some session ∧ session ∉ endedIn trace := by
  have tracks := tracks_run ran
  rw [← tracks.entry]
  unfold duckdbSessionFind
  cases named : db.sessions id with
  | none => simp
  | some other =>
    obtain ⟨last, running⟩ := (tracks.entry id other).mp named
    obtain ⟨object, found, _⟩ := tracks.exists_of_last last
    have isOpen : object.isOpen = true := by
      cases state : object.isOpen with
      | true => rfl
      | false => exact absurd ((tracks.ended other object found).mp state) running
    simp [Db.lock, found, tracks.owned other object found isOpen]

/-- A lookup returns the innermost open session exactly when no session was opened on its
connection after it. -/
theorem find_innermost_iff {id : ConnectionId} {trace : List Event} {db : Db}
    {session : SessionId} (ran : registry.run Db.empty trace = some db)
    (innermost : Innermost id trace session) :
    duckdbSessionFind db id = some session ↔ (openedOn id trace).getLast? = some session := by
  rw [published_exact ran]
  exact and_iff_left innermost.1

/-- The condition applies to a stream that is the only session of its connection. -/
theorem find_innermost_stream :
    ∃ db, registry.run Db.empty (duckdbPumpExecute 0 7 false .streaming) = some db ∧
      (duckdbSessionFind db 7 = some 0 ↔
        (openedOn 7 (duckdbPumpExecute 0 7 false .streaming)).getLast? = some 0) :=
  ⟨_, rfl, find_innermost_iff rfl
    ⟨by decide, [], [], by decide, fun other found => absurd found (List.not_mem_nil)⟩⟩

/-- A statement refused beside an open stream takes the stream's session out of the map. -/
theorem refused_statement_unpublishes_stream :
    ¬ ∀ (id : ConnectionId) (trace : List Event) (db : Db) (session : SessionId),
      registry.run Db.empty trace = some db → ProperlyNested id trace →
      Innermost id trace session → duckdbSessionFind db id = some session := by
  intro innermostFound
  have found := innermostFound 7 (duckdbPumpExecute 0 7 false .streaming ++
    duckdbPumpExecute 1 7 false (.startFailed "Resource In Use Error")) _ 0 rfl (by decide)
    ⟨by decide, [], [1], by decide, by decide⟩
  revert found
  decide

end PhpDuckdb.Session
