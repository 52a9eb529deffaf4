import PhpDuckdb.Query.Pump

/-!
# Pumped queries agree with `duckdb_query`

`promisedOutcome` runs the statements in order up to the first failure and returns the first result
with rows, or the last result. `pump_agrees` says that the pumped query does the same for every
script, and that its calls leave no handle behind but the returned result.
-/

namespace PhpDuckdb.Query

open SqlText Connection Ownership

/-- The error of a statement that fails, at whichever point it does. -/
def Native.failure (native : Native) : Option NativeError :=
  match native.prepare with
  | .failed handle =>
    some (prepareError (handle.join.getD (lit "Failed to prepare statement")))
  | .prepared =>
    match native.start with
    | .failed handle => some (startError (orFallback handle.join (lit "Failed to start query")))
    | .started =>
      match native.helper with
      | some what => some (startError (lit "Unable to start the DuckDB helper thread: " ++ what))
      | none =>
        match native.drive with
        | .error message =>
          some (startError (duckdbLeaseFailure native.unwinding native.closedReason message
            (lit "Query execution failed")))
        | .ready =>
          match native.execute with
          | .success _ => none
          | .failed written => some (writtenError written)

/-- The statement succeeds with a result that returns rows. -/
def Native.returnsRows (native : Native) : Bool := native.execute = .success true

/-- A statement's result, by its position. -/
def Native.held (native : Native) (index : Nat) : Held :=
  ⟨index, native.returnsRows, native.statementType⟩

/-- How many statements a query starts: those before the first failure, and the failing one unless
preparing it failed. -/
def startedCount : List Native → Nat
  | [] => 0
  | native :: rest =>
    if native.prepare ≠ .prepared then 0
    else if native.failure.isSome then 1
    else startedCount rest + 1

/-- The first result with rows, else the last result. -/
def firstRows (statements : List Native) (index : Nat) : Option Held :=
  let results := (statements.zipIdx index).map fun statement => statement.1.held statement.2
  (results.find? Held.rows).or results.getLast?

/-- What a query promises: the outcome that `duckdb_query` has for its statements, in the messages of
the pump. No function of the source computes it; the pump is compared with it. -/
def promisedOutcome (script : Script) : Except NativeError (Option Returned) :=
  if script.statements = [] then
    match script.helper, script.query with
    | some what, _ =>
      .error (startError (lit "Unable to start the DuckDB helper thread: " ++ what))
    | none, .success _ => .ok (some .query)
    | none, .failed written => .error (writtenError written)
  else
    match script.statements.findSome? Native.failure with
    | some error => .error error
    | none => .ok ((firstRows script.statements 0).map .statement)

/-- The statement that a call starts. -/
def Call.started? : Call → Option Nat
  | .execute index => some index
  | _ => none

/-- The use of a handle that a call is. -/
def Call.use? : Call → Option (Use Handle)
  | .use call => some call
  | _ => none

/-- The statements that a log starts. -/
def started (calls : List Call) : List Nat := calls.filterMap Call.started?

/-- The uses of handles in a log. -/
def uses (calls : List Call) : List (Use Handle) := calls.filterMap Call.use?

/-- The handle of the result that an outcome returns. -/
def returnedHandle : Except NativeError (Option Returned) → Option Handle
  | .ok (some returned) => some returned.handle
  | _ => none

/-- What a pumped query promises against the script that it runs. -/
structure Agrees (script : Script) (calls : List Call)
    (outcome : Except NativeError (Option Returned)) : Prop where
  /-- The statements ran in order, up to the first failure. -/
  started_eq : started calls = List.range (startedCount script.statements)
  /-- The outcome is the promised one. -/
  outcome_eq : outcome = promisedOutcome script
  /-- A query with statements that did not fail returns a result. -/
  returned : (∃ last, outcome = .ok last) → returnedHandle outcome ≠ none
  /-- The calls on handles are in order, and only the returned result lives on. -/
  in_order : ∃ last, handles.run allFresh (uses calls) = some last ∧
    ∀ handle, last handle = .live ↔ returnedHandle outcome = some handle
  /-- Every other handle that was created was destroyed exactly once. -/
  destroyed_once : ∀ handle, (uses calls).count (.destroy handle) =
    if .create handle ∈ uses calls ∧ returnedHandle outcome ≠ some handle then 1 else 0

@[simp]
theorem started_append (first second : List Call) :
    started (first ++ second) = started first ++ started second :=
  List.filterMap_append

@[simp]
theorem uses_append (first second : List Call) : uses (first ++ second) = uses first ++ uses second :=
  List.filterMap_append

@[simp]
theorem started_use (use : Use Handle) (rest : List Call) :
    started (.use use :: rest) = started rest := rfl

@[simp]
theorem started_execute (index : Nat) (rest : List Call) :
    started (.execute index :: rest) = index :: started rest := rfl

@[simp]
theorem uses_use (use : Use Handle) (rest : List Call) :
    uses (.use use :: rest) = use :: uses rest := rfl

@[simp]
theorem uses_execute (index : Nat) (rest : List Call) : uses (.execute index :: rest) = uses rest :=
  rfl

@[simp]
theorem started_query (rest : List Call) : started (.query :: rest) = started rest := rfl

@[simp]
theorem uses_query (rest : List Call) : uses (.query :: rest) = uses rest := rfl

@[simp]
theorem started_nil : started [] = [] := rfl

@[simp]
theorem uses_nil : uses [] = [] := rfl

@[simp]
theorem started_create (given : Bool) (handle : Handle) : started (create given handle) = [] := by
  cases given <;> rfl

@[simp]
theorem started_destroy (given : Bool) (handle : Handle) :
    started (destroy given handle) = [] := by
  cases given <;> rfl

@[simp]
theorem started_touch (given : Bool) (handle : Handle) : started (touch given handle) = [] := by
  cases given <;> rfl

@[simp]
theorem started_destroyHeld (held : Option Held) : started (destroyHeld held) = [] := by
  cases held <;> rfl

@[simp]
theorem started_discardPending (index : Nat) (discards : Bool) :
    started (duckdbDiscardPending index discards) = [] := by
  cases discards <;> rfl

/-- A failed lease always has a message. -/
theorem leaseFailure_ne_nil (unwinding : Bool) (closedReason : Bytes) (error : Option Bytes)
    {fallback : Bytes} (given : fallback ≠ []) :
    duckdbLeaseFailure unwinding closedReason error fallback ≠ [] := by
  simp only [duckdbLeaseFailure]
  split
  · rename_i closed
    simp only [Bool.and_eq_true, decide_eq_true_eq] at closed
    exact closed.2
  · exact orFallback_ne_nil error given

/-- A pumped statement is started once, whatever comes of it. -/
theorem started_pumpExecute (index : Nat) (native : Native) (streamSession : Bool) :
    started (duckdbPumpExecute index native streamSession).1 = [index] := by
  simp only [duckdbPumpExecute]
  cases native.start with
  | failed handle => simp
  | started =>
    cases native.helper with
    | some what => simp
    | none =>
      cases native.drive with
      | error message => simp
      | ready =>
        cases native.execute with
        | success rows => cases streamSession <;> simp
        | failed written => simp

/-- What a pumped statement reports, against the error that fails it. -/
structure Reports (native : Native) (executed : Executed) : Prop where
  /-- A start error is thrown as one. -/
  start : executed.startError ≠ [] → native.failure = some (startError executed.startError) ∧
    executed.success = false ∧ executed.written = false
  /-- Another failure throws the error of the result. -/
  failed : executed.startError = [] → executed.success = false →
    native.failure = some executed.error
  /-- A success leaves a result. -/
  succeeded : executed.startError = [] → executed.success = true →
    native.failure = none ∧ executed.written = true ∧ executed.rows = native.returnsRows

/-- A statement that was prepared reports what fails it. -/
theorem pumpExecute_reports (index : Nat) (native : Native) (streamSession : Bool)
    (prepared : native.prepare = .prepared) :
    Reports native (duckdbPumpExecute index native streamSession).2 := by
  have texts : lit "Failed to start query" ≠ [] ∧ lit "Query execution failed" ≠ [] ∧
      lit "Unable to start the DuckDB helper thread: " ≠ [] := by decide
  simp only [duckdbPumpExecute]
  cases start : native.start with
  | failed handle =>
    have text := orFallback_ne_nil handle.join texts.1
    constructor <;> simp [Executed.notRun, Native.failure, prepared, start, text]
  | started =>
    cases helper : native.helper with
    | some what =>
      constructor <;>
        simp [Executed.notRun, Native.failure, prepared, start, helper, texts.2.2]
    | none =>
      cases drive : native.drive with
      | error message =>
        have text := leaseFailure_ne_nil native.unwinding native.closedReason message texts.2.1
        constructor <;>
          simp [Executed.notRun, Native.failure, prepared, start, helper, drive, text]
      | ready =>
        cases execute : native.execute with
        | success rows =>
          constructor <;>
            simp [Native.failure, Native.returnsRows, prepared, start, helper, drive, execute]
        | failed written =>
          constructor <;> simp [Native.failure, prepared, start, helper, drive, execute]

/-- The statement that a handle belongs to. -/
def Handle.position : Handle → Option Nat
  | .extracted | .queryResult | .querySession => none
  | .session index | .statement index | .pending index | .result index | .discarded index =>
    some index

/-- The handles after a statement was pumped: only its own changed, and of those it opened itself
only a result that was written lives on. -/
structure Pumped (index : Nat) (before after : Handle → Status) (written : Bool) : Prop where
  /-- Other handles are as they were. -/
  others : ∀ handle, handle.position ≠ some index → after handle = before handle
  /-- The prepared statement still lives. -/
  statement : after (.statement index) = .live
  /-- The session has ended. -/
  session : after (.session index) ≠ .live
  /-- The pending query is gone. -/
  pending : after (.pending index) ≠ .live
  /-- So is the discarded result. -/
  discarded : after (.discarded index) ≠ .live
  /-- The result lives when it was written. -/
  result : after (.result index) = .live ↔ written = true

/-- The handles of one statement are the five of its position. -/
theorem Pumped.intro {index : Nat} {before after : Handle → Status} {written : Bool}
    (others : ∀ handle, handle ≠ .session index → handle ≠ .statement index →
      handle ≠ .pending index → handle ≠ .result index → handle ≠ .discarded index →
      after handle = before handle)
    (statement : after (.statement index) = .live) (session : after (.session index) ≠ .live)
    (pending : after (.pending index) ≠ .live) (discarded : after (.discarded index) ≠ .live)
    (result : after (.result index) = .live ↔ written = true) :
    Pumped index before after written := by
  refine ⟨?_, statement, session, pending, discarded, result⟩
  intro handle elsewhere
  apply others <;>
  · rintro rfl
    exact elsewhere rfl

/-- Pumping a statement keeps the handles in order on every path. -/
theorem pumpExecute_owns (index : Nat) (native : Native) {before : Handle → Status}
    (statement : before (.statement index) = .live)
    (session : before (.session index) = .fresh) (pending : before (.pending index) = .fresh)
    (result : before (.result index) = .fresh)
    (discarded : before (.discarded index) = .fresh) :
    ∃ after, handles.run before (uses (duckdbPumpExecute index native false).1) = some after ∧
      Pumped index before after (duckdbPumpExecute index native false).2.written := by
  simp only [duckdbPumpExecute]
  cases native.start with
  | failed handle =>
    cases handle <;>
    · simp [-Machine.run_cons, create, destroy, touch, run_create, run_touch, run_destroy,
        session, statement, pending, Executed.notRun]
      apply Pumped.intro <;> simp +contextual [statement, pending, result, discarded]
  | started =>
    cases native.helper with
    | some what =>
      cases native.discards <;>
      · simp [-Machine.run_cons, create, destroy, duckdbDiscardPending, run_create, run_touch,
          run_destroy, session, statement, pending, discarded, Executed.notRun]
        apply Pumped.intro <;> simp +contextual [statement, result, discarded]
    | none =>
      cases native.drive with
      | error message =>
        cases native.discards <;>
        · simp [-Machine.run_cons, create, destroy, touch, duckdbDiscardPending, run_create,
            run_touch, run_destroy, session, statement, pending, discarded, Executed.notRun]
          apply Pumped.intro <;> simp +contextual [statement, result, discarded]
      | ready =>
        cases native.execute with
        | success rows =>
          simp [-Machine.run_cons, create, destroy, touch, run_create, run_touch, run_destroy,
            session, statement, pending, result]
          apply Pumped.intro <;> simp +contextual [statement, discarded]
        | failed written =>
          cases written <;>
          · simp [-Machine.run_cons, create, destroy, touch, run_create, run_touch, run_destroy,
              session, statement, pending, result]
            apply Pumped.intro <;> simp +contextual [statement, result, discarded]

/-- Pumping a statement adds at most its result to what lives. -/
theorem pumpExecute_leaves (index : Nat) (native : Native) {before : Handle → Status}
    (statement : before (.statement index) = .live)
    (session : before (.session index) = .fresh) (pending : before (.pending index) = .fresh)
    (result : before (.result index) = .fresh)
    (discarded : before (.discarded index) = .fresh) :
    Leaves before (uses (duckdbPumpExecute index native false).1)
      (fun handle => before handle = .live ∨
        ((duckdbPumpExecute index native false).2.written = true ∧ handle = .result index))
      (fun handle => before handle = .fresh ∧ handle.position ≠ some index) := by
  obtain ⟨after, ran, pumped⟩ :=
    pumpExecute_owns index native statement session pending result discarded
  refine ⟨after, ran, ?_, ?_⟩
  · intro handle
    by_cases own : handle.position = some index
    · cases handle with
      | extracted | queryResult | querySession => cases own
      | session other =>
        obtain rfl := Option.some.inj own
        simp [pumped.session, session]
      | statement other =>
        obtain rfl := Option.some.inj own
        simp [pumped.statement, statement]
      | pending other =>
        obtain rfl := Option.some.inj own
        simp [pumped.pending, pending]
      | result other =>
        obtain rfl := Option.some.inj own
        simp [pumped.result, result]
      | discarded other =>
        obtain rfl := Option.some.inj own
        simp [pumped.discarded, discarded]
    · have apart : handle ≠ .result index := by
        rintro rfl
        exact own rfl
      simp [pumped.others handle own, apart]
  · rintro handle ⟨fresh, elsewhere⟩
    rw [pumped.others handle elsewhere]
    exact fresh

section Logs

variable {start : Handle → Status} {calls : List Call} {alive fresh : Handle → Prop}

/-- A log may be followed by a creation that may have left a null handle. -/
theorem leaves_create (leaves : Leaves start (uses calls) alive fresh) (given : Bool)
    {handle : Handle} (new : fresh handle) :
    Leaves start (uses (calls ++ create given handle))
      (fun other => alive other ∨ given = true ∧ other = handle)
      (fun other => fresh other ∧ other ≠ handle) := by
  rw [uses_append]
  cases given with
  | false =>
    simp only [create, Bool.false_eq_true, if_false, uses_nil, List.append_nil]
    exact leaves.weaken (by simp) (fun other unused => unused.1)
  | true => exact (leaves.create new).weaken (by simp) (fun other unused => unused)

/-- A log may be followed by the use of a handle that lives unless it is null. -/
theorem leaves_touch (leaves : Leaves start (uses calls) alive fresh) (given : Bool)
    {handle : Handle} (living : given = true → alive handle) :
    Leaves start (uses (calls ++ touch given handle)) alive fresh := by
  rw [uses_append]
  cases given with
  | false =>
    simp only [touch, Bool.false_eq_true, if_false, uses_nil, List.append_nil]
    exact leaves
  | true => exact leaves.touch (living rfl)

/-- A log may be followed by the destruction of a handle that lives unless it is null. -/
theorem leaves_destroy (leaves : Leaves start (uses calls) alive fresh) (given : Bool)
    {handle : Handle} (living : given = true → alive handle) :
    Leaves start (uses (calls ++ destroy given handle))
      (fun other => alive other ∧ ¬(given = true ∧ other = handle))
      (fun other => fresh other ∧ other ≠ handle) := by
  rw [uses_append]
  cases given with
  | false =>
    simp only [destroy, Bool.false_eq_true, if_false, uses_nil, List.append_nil]
    exact leaves.weaken (by simp) (fun other unused => unused.1)
  | true => exact (leaves.destroy (living rfl)).weaken (by simp) (fun other unused => unused)

/-- The handle of a held result. -/
def Held.handle (held : Held) : Handle := .result held.index

/-- A log may be followed by the destruction of the held result. -/
theorem leaves_destroyHeld (leaves : Leaves start (uses calls) alive fresh) (held : Option Held)
    (living : ∀ handle, held.map Held.handle = some handle → alive handle) :
    Leaves start (uses (calls ++ destroyHeld held))
      (fun other => alive other ∧ held.map Held.handle ≠ some other)
      (fun other => fresh other ∧ held.map Held.handle ≠ some other) := by
  cases held with
  | none =>
    simp only [destroyHeld, List.append_nil]
    exact leaves.weaken (by simp) (fun other unused => unused.1)
  | some held =>
    refine (leaves_destroy leaves true fun _ => living _ rfl).weaken ?_ ?_
    · intro other
      simp [Held.handle, eq_comm]
    · rintro other ⟨unused, apart⟩
      exact ⟨unused, fun same => apart (congrArg some same.symm)⟩

end Logs

/-- The handles between two statements: the extracted list and the held result live, and what
belongs to later statements is fresh. -/
structure Owns (index : Nat) (held : Option Held) (statuses : Handle → Status) : Prop where
  /-- What lives. -/
  live : ∀ handle, statuses handle = .live ↔
    handle = .extracted ∨ held.map Held.handle = some handle
  /-- What is fresh. -/
  later : ∀ handle position, handle.position = some position → index ≤ position →
    statuses handle = .fresh
  /-- The held result is an earlier statement's. -/
  earlier : ∀ result, held = some result → result.index < index

/-- The held result is the result of an earlier statement. -/
theorem Owns.held_handle {index : Nat} {held : Option Held} {statuses : Handle → Status}
    (owns : Owns index held statuses) {handle : Handle}
    (holds : held.map Held.handle = some handle) :
    ∃ earlier, handle = .result earlier ∧ earlier < index := by
  obtain ⟨result, given, rfl⟩ := Option.map_eq_some_iff.mp holds
  exact ⟨result.index, rfl, owns.earlier result given⟩

/-- The extracted list may be used between two statements. -/
theorem Owns.touch_extracted {index : Nat} {held : Option Held} {statuses : Handle → Status}
    (owns : Owns index held statuses) :
    Leaves statuses (uses [.use (.touch .extracted)]) (fun handle => statuses handle = .live)
      (fun handle => statuses handle = .fresh) :=
  ⟨statuses, run_touch ((owns.live .extracted).mpr (Or.inl rfl)), fun _ => Iff.rfl,
    fun _ unused => unused⟩

/-- Pumping a prepared statement between its preparation and its destruction. -/
theorem executing_leaves {index : Nat} {held : Option Held} {statuses : Handle → Status}
    (owns : Owns index held statuses) (native : Native) :
    Leaves statuses
      (uses ([.use (.touch .extracted)] ++ create true (.statement index) ++
        touch true (.statement index) ++ (duckdbPumpExecute index native false).1 ++
        destroy true (.statement index)))
      (fun handle => handle = .extracted ∨ held.map Held.handle = some handle ∨
        (duckdbPumpExecute index native false).2.written = true ∧ handle = .result index)
      (fun handle => ∃ position, handle.position = some position ∧ index < position) := by
  have fresh : ∀ handle : Handle, handle.position = some index → statuses handle = .fresh :=
    fun handle own => owns.later handle index own (Nat.le_refl _)
  have prepared := leaves_touch
    (leaves_create owns.touch_extracted true (fresh (.statement index) rfl)) true
    fun _ => Or.inr ⟨rfl, rfl⟩
  have executed : Leaves statuses
      (uses ([.use (.touch .extracted)] ++ create true (.statement index) ++
        touch true (.statement index) ++ (duckdbPumpExecute index native false).1))
      (fun handle => statuses handle = .live ∨ handle = .statement index ∨
        (duckdbPumpExecute index native false).2.written = true ∧ handle = .result index)
      (fun handle => statuses handle = .fresh ∧ handle.position ≠ some index) := by
    rw [uses_append]
    refine prepared.append fun middle lives untouched => ?_
    have unused : ∀ handle : Handle, handle.position = some index →
        handle ≠ .statement index → middle handle = .fresh :=
      fun handle own apart => untouched handle ⟨fresh handle own, apart⟩
    refine (pumpExecute_leaves index native ((lives _).mpr (Or.inr ⟨rfl, rfl⟩))
      (unused _ rfl (by simp)) (unused _ rfl (by simp)) (unused _ rfl (by simp))
      (unused _ rfl (by simp))).weaken ?_ ?_
    · intro handle
      simp [lives, or_assoc]
    · rintro handle ⟨new, elsewhere⟩
      refine ⟨untouched handle ⟨new, ?_⟩, elsewhere⟩
      rintro rfl
      exact elsewhere rfl
  refine (leaves_destroy executed true fun _ => Or.inr (Or.inl rfl)).weaken ?_ ?_
  · intro handle
    have gone : statuses (.statement index) ≠ .live := by simp [fresh (.statement index) rfl]
    by_cases same : handle = .statement index
    · subst same
      have absent := (owns.live (.statement index)).not.mp gone
      simpa [not_or] using absent
    · simp [same, owns.live, or_assoc]
  · rintro handle ⟨position, own, later⟩
    have elsewhere : handle.position ≠ some index := by
      rw [own]
      exact fun same => absurd (Option.some.inj same) (Nat.ne_of_gt later)
    refine ⟨⟨owns.later handle position own (Nat.le_of_lt later), elsewhere⟩, ?_⟩
    rintro rfl
    exact elsewhere rfl

/-- The handle of the result that the loop returns. -/
def heldHandle : Except NativeError (Option Held) → Option Handle
  | .ok held => held.map Held.handle
  | .error _ => none

section Results

variable {index : Nat} {held : Option Held} {statuses : Handle → Status}
  {calls later : List Call} {last : Handle → Prop}

/-- A new result replaces the held one before the later statements run. -/
theorem replaced_leaves (owns : Owns index held statuses) (result : Held)
    (own : result.index = index)
    (executing : Leaves statuses (uses calls)
      (fun handle => handle = .extracted ∨ held.map Held.handle = some handle ∨
        true = true ∧ handle = .result index)
      (fun handle => ∃ position, handle.position = some position ∧ index < position))
    (rest : ∀ {middle}, Owns (index + 1) (some result) middle →
      Leaves middle (uses later) last fun _ => False) :
    Leaves statuses (uses (calls ++ destroyHeld held ++ touch true (.result index) ++ later)) last
      (fun _ => False) := by
  have apart : held.map Held.handle ≠ some (.result index) := by
    intro holds
    obtain ⟨earlier, same, before⟩ := owns.held_handle holds
    exact absurd (Handle.result.inj same) (Nat.ne_of_gt before)
  have dropped := leaves_touch (leaves_destroyHeld executing held fun other holds =>
    Or.inr (Or.inl holds)) true fun _ => ⟨Or.inr (Or.inr ⟨rfl, Eq.refl (Handle.result index)⟩), apart⟩
  rw [uses_append]
  refine dropped.append fun middle lives untouched => rest ⟨?_, ?_, ?_⟩
  · intro handle
    rw [lives handle, Option.map_some, Held.handle, own]
    constructor
    · rintro ⟨rfl | holds | ⟨_, rfl⟩, kept⟩
      · exact Or.inl rfl
      · exact absurd holds kept
      · exact Or.inr rfl
    · rintro (rfl | same)
      · refine ⟨Or.inl rfl, ?_⟩
        cases held <;> simp [Held.handle]
      · obtain rfl := Option.some.inj same
        exact ⟨Or.inr (Or.inr ⟨rfl, rfl⟩), apart⟩
  · intro handle position place after
    refine untouched handle ⟨⟨position, place, after⟩, ?_⟩
    intro holds
    obtain ⟨earlier, rfl, before⟩ := owns.held_handle holds
    obtain rfl := Option.some.inj place
    omega
  · intro other same
    obtain rfl := Option.some.inj same
    omega

/-- A further result is destroyed before the later statements run. -/
theorem discarded_leaves (owns : Owns index held statuses)
    (executing : Leaves statuses (uses calls)
      (fun handle => handle = .extracted ∨ held.map Held.handle = some handle ∨
        true = true ∧ handle = .result index)
      (fun handle => ∃ position, handle.position = some position ∧ index < position))
    (rest : ∀ {middle}, Owns (index + 1) held middle →
      Leaves middle (uses later) last fun _ => False) :
    Leaves statuses (uses (calls ++ destroy true (.result index) ++ later)) last
      (fun _ => False) := by
  have dropped := leaves_destroy executing true fun _ =>
    Or.inr (Or.inr ⟨rfl, Eq.refl (Handle.result index)⟩)
  rw [uses_append]
  refine dropped.append fun middle lives untouched => rest ⟨?_, ?_, ?_⟩
  · intro handle
    rw [lives handle]
    constructor
    · rintro ⟨rfl | holds | ⟨_, rfl⟩, kept⟩
      · exact Or.inl rfl
      · exact Or.inr holds
      · exact absurd ⟨rfl, rfl⟩ kept
    · rintro (rfl | holds)
      · exact ⟨Or.inl rfl, by simp⟩
      · obtain ⟨earlier, rfl, before⟩ := owns.held_handle holds
        refine ⟨Or.inr (Or.inl holds), ?_⟩
        rintro ⟨_, same⟩
        exact absurd (Handle.result.inj same) (Nat.ne_of_lt before)
  · intro handle position place after
    refine untouched handle ⟨⟨position, place, after⟩, ?_⟩
    rintro rfl
    obtain rfl := Option.some.inj place
    omega
  · intro other same
    have before := owns.earlier other same
    omega

end Results

/-- From any position on, only the result that the loop returns lives on. -/
theorem statements_leave (natives : List Native) :
    ∀ {index : Nat} {held : Option Held} {statuses : Handle → Status}, Owns index held statuses →
      Leaves statuses (uses (duckdbPumpStatements index held natives).1)
        (fun handle => heldHandle (duckdbPumpStatements index held natives).2 = some handle)
        (fun _ => False) := by
  induction natives with
  | nil =>
    intro index held statuses owns
    have started : Leaves statuses (uses []) (fun handle => statuses handle = .live)
        (fun _ => False) := ⟨statuses, rfl, fun _ => Iff.rfl, fun _ never => never.elim⟩
    refine (leaves_destroy started true fun _ => (owns.live .extracted).mpr (Or.inl rfl)).weaken
      ?_ (fun _ never => never.elim)
    intro handle
    have apart : held.map Held.handle ≠ some .extracted := by
      cases held <;> simp [Held.handle]
    by_cases same : handle = .extracted
    · subst same
      simpa [duckdbPumpStatements, heldHandle] using apart
    · simp [duckdbPumpStatements, heldHandle, owns.live, same]
  | cons native rest ih =>
    intro index held statuses owns
    simp only [duckdbPumpStatements]
    cases prepare : native.prepare with
    | failed handle =>
      have prepared := leaves_create owns.touch_extracted handle.isSome
        (owns.later (.statement index) index rfl (Nat.le_refl _))
      have used := leaves_touch prepared handle.isSome fun given => Or.inr ⟨given, rfl⟩
      have gone := leaves_destroy used handle.isSome fun given => Or.inr ⟨given, rfl⟩
      have released := leaves_destroy gone true fun _ =>
        ⟨Or.inl ((owns.live .extracted).mpr (Or.inl rfl)), by simp⟩
      refine (leaves_destroyHeld released held ?_).weaken ?_ (fun _ never => never.elim)
      · intro other holds
        obtain ⟨earlier, rfl, _⟩ := owns.held_handle holds
        exact ⟨⟨Or.inl ((owns.live _).mpr (Or.inr holds)), by simp⟩, by simp⟩
      · intro other
        simp only [owns.live, heldHandle, reduceCtorEq, iff_false]
        tauto
    | prepared =>
      have executing := executing_leaves owns native
      have reports := pumpExecute_reports index native false prepare
      revert executing reports
      generalize duckdbPumpExecute index native false = pumped
      obtain ⟨calls, executed⟩ := pumped
      intro executing reports
      simp only at executing reports ⊢
      have released := leaves_destroyHeld
        (leaves_destroy executing true fun _ => Or.inl (Eq.refl Handle.extracted)) held
        fun other holds => by
          obtain ⟨earlier, rfl, _⟩ := owns.held_handle holds
          exact ⟨Or.inr (Or.inl holds), by simp⟩
      by_cases start_failed : executed.startError ≠ []
      · obtain ⟨_, unsuccessful, unwritten⟩ := reports.start start_failed
        have fails : (decide (executed.startError ≠ []) || !executed.success) = true := by
          simp [start_failed]
        rw [if_pos fails, if_pos start_failed]
        refine released.weaken ?_ (fun _ never => never.elim)
        intro other
        simp only [heldHandle, unwritten, reduceCtorEq, iff_false]
        tauto
      · have no_start_error : executed.startError = [] := not_not.mp start_failed
        cases success : executed.success with
        | false =>
          have fails : (decide (executed.startError ≠ []) || !false) = true := by simp
          rw [if_pos fails, if_neg start_failed]
          have lives : executed.written = true →
              ((Handle.result index = .extracted ∨
                  held.map Held.handle = some (.result index) ∨
                    executed.written = true ∧ Handle.result index = .result index) ∧
                ¬(true = true ∧ Handle.result index = .extracted)) ∧
              held.map Held.handle ≠ some (.result index) := by
            intro written
            refine ⟨⟨Or.inr (Or.inr ⟨written, rfl⟩), by simp⟩, ?_⟩
            intro holds
            obtain ⟨earlier, same, before⟩ := owns.held_handle holds
            exact absurd (Handle.result.inj same) (Nat.ne_of_gt before)
          refine (leaves_destroy (leaves_touch released executed.written lives) executed.written
            lives).weaken ?_ (fun _ never => never.elim)
          intro other
          simp only [heldHandle, reduceCtorEq, iff_false]
          tauto
        | true =>
          obtain ⟨_, written, _⟩ := reports.succeeded no_start_error success
          have fails : ¬(decide (executed.startError ≠ []) || !true) = true := by
            simp [no_start_error]
          rw [if_neg fails]
          rw [written] at executing ⊢
          let result : Held := ⟨index, executed.rows, native.statementType⟩
          have later : ∀ {middle}, Owns (index + 1) (some result) middle →
              Leaves middle (uses (duckdbPumpStatements (index + 1) (some result) rest).1)
                (fun handle => heldHandle
                  (duckdbPumpStatements (index + 1) (some result) rest).2 = some handle)
                (fun _ => False) := fun owns => ih owns
          have replaced := replaced_leaves owns result rfl executing later
          cases held with
          | none => exact replaced
          | some result =>
            obtain ⟨first, rows, type⟩ := result
            cases rows with
            | false => exact replaced
            | true => exact discarded_leaves owns executing ih

/-- A first statement with rows is returned; another only when no later one is. -/
theorem firstRows_cons (native : Native) (rest : List Native) (index : Nat) :
    firstRows (native :: rest) index =
      if native.returnsRows then some (native.held index)
      else (firstRows rest (index + 1)).or (some (native.held index)) := by
  simp only [firstRows, List.zipIdx_cons, List.map_cons, List.find?_cons]
  cases rows : native.returnsRows with
  | true => simp [Native.held, rows]
  | false =>
    simp only [Native.held, rows, Bool.false_eq_true, if_false]
    cases (rest.zipIdx (index + 1)).map fun statement =>
      (⟨statement.2, statement.1.returnsRows, statement.1.statementType⟩ : Held) with
    | nil => simp
    | cons first others => simp [List.getLast?_cons]

/-- What the loop returns when it holds a result already. -/
def keep (held later : Option Held) : Option Held :=
  match held with
  | some ⟨first, true, type⟩ => some ⟨first, true, type⟩
  | held => later.or held

/-- A result of a pumped statement goes on as the reference has it. -/
theorem keep_cons (held : Option Held) (native : Native) (rest : List Native) (index : Nat) :
    keep held (firstRows (native :: rest) index) =
      match held with
      | some ⟨first, true, type⟩ => some ⟨first, true, type⟩
      | _ => keep (some (native.held index)) (firstRows rest (index + 1)) := by
  have replaced : keep (some (native.held index)) (firstRows rest (index + 1)) =
      firstRows (native :: rest) index := by
    rw [firstRows_cons]
    simp only [Native.held]
    cases native.returnsRows <;> rfl
  have some_first : ∀ other, (firstRows (native :: rest) index).or other =
      firstRows (native :: rest) index := by
    intro other
    rw [firstRows_cons]
    split
    · rfl
    · cases firstRows rest (index + 1) <;> rfl
  rw [replaced]
  match held with
  | none => exact some_first none
  | some ⟨first, true, type⟩ => rfl
  | some ⟨first, false, type⟩ => exact some_first _

/-- From any position on, the loop starts the statements in order, up to the first failure, and
ends in the first failure or in the first result with rows, else the last. -/
theorem statements_agree (natives : List Native) :
    ∀ (index : Nat) (held : Option Held),
      started (duckdbPumpStatements index held natives).1 =
          List.range' index (startedCount natives) ∧
        (duckdbPumpStatements index held natives).2 =
          match natives.findSome? Native.failure with
          | some error => .error error
          | none => .ok (keep held (firstRows natives index)) := by
  induction natives with
  | nil =>
    intro index held
    refine ⟨started_destroy true .extracted, ?_⟩
    match held with
    | none => rfl
    | some ⟨first, true, type⟩ => rfl
    | some ⟨first, false, type⟩ => rfl
  | cons native rest ih =>
    intro index held
    simp only [duckdbPumpStatements]
    cases prepare : native.prepare with
    | failed handle =>
      have fails : native.failure =
          some (prepareError (handle.join.getD (lit "Failed to prepare statement"))) := by
        simp only [Native.failure, prepare]
      simp [startedCount, prepare, fails]
    | prepared =>
      have starts := started_pumpExecute index native false
      have reports := pumpExecute_reports index native false prepare
      revert starts reports
      generalize duckdbPumpExecute index native false = pumped
      obtain ⟨calls, executed⟩ := pumped
      intro starts reports
      simp only at starts reports ⊢
      by_cases start_failed : executed.startError ≠ []
      · obtain ⟨failure, _, _⟩ := reports.start start_failed
        simp [start_failed, startedCount, prepare, failure, starts]
      · have no_start_error : executed.startError = [] := not_not.mp start_failed
        cases success : executed.success with
        | false =>
          have failure := reports.failed no_start_error success
          simp [no_start_error, startedCount, prepare, failure, starts]
        | true =>
          obtain ⟨failure, _, rows⟩ := reports.succeeded no_start_error success
          have count : startedCount (native :: rest) = startedCount rest + 1 := by
            simp [startedCount, prepare, failure]
          have fails : ¬(decide (executed.startError ≠ []) || !true) = true := by
            simp [no_start_error]
          rw [if_neg fails, count, List.range'_succ, List.findSome?_cons, failure, keep_cons, rows]
          match held with
          | some ⟨first, true, type⟩ =>
            obtain ⟨order, outcome⟩ := ih (index + 1) (some ⟨first, true, type⟩)
            exact ⟨by simp [starts, order], outcome⟩
          | none =>
            obtain ⟨order, outcome⟩ := ih (index + 1) (some (native.held index))
            exact ⟨by simpa [starts, Native.held] using order, outcome⟩
          | some ⟨first, false, type⟩ =>
            obtain ⟨order, outcome⟩ := ih (index + 1) (some (native.held index))
            exact ⟨by simpa [starts, Native.held] using order, outcome⟩

/-- What a query leaves of its handles. -/
def Settles (calls : List Call) (outcome : Except NativeError (Option Returned)) : Prop :=
  Leaves allFresh (uses calls) (fun handle => returnedHandle outcome = some handle)
    (fun _ => False)

/-- The loop's result is what the query returns. -/
theorem returned_map (outcome : Except NativeError (Option Held)) :
    returnedHandle (outcome.map fun held => held.map .statement) = heldHandle outcome := by
  cases outcome with
  | error thrown => rfl
  | ok held => cases held <;> rfl

/-- At the start nothing lives and everything is fresh. -/
theorem begun : Leaves allFresh (uses []) (fun _ => False) (fun _ => True) :=
  ⟨allFresh, rfl, by simp [allFresh], fun _ _ => rfl⟩

/-- Without statements only the result of `duckdb_query` may live on. -/
theorem whole_settles (script : Script) :
    Settles (duckdbPumpWhole script).1 ((duckdbPumpWhole script).2.map some) := by
  have extracted := leaves_destroy (leaves_create begun script.handle trivial) script.handle
    fun given => Or.inr ⟨given, Eq.refl Handle.extracted⟩
  have gone : Leaves allFresh
      (uses ([] ++ create script.handle .extracted ++ destroy script.handle .extracted))
      (fun _ => False) (fun handle => handle ≠ .extracted) :=
    extracted.weaken (by simp) fun _ apart => ⟨⟨trivial, apart⟩, apart⟩
  have opened : Leaves allFresh (uses ([] ++ create script.handle .extracted ++
      destroy script.handle .extracted ++ create true .querySession))
      (fun handle => handle = .querySession)
      (fun handle => handle ≠ .extracted ∧ handle ≠ .querySession) :=
    (leaves_create gone true (Handle.noConfusion : Handle.querySession ≠ .extracted)).weaken
      (by simp) fun _ apart => apart
  simp only [Settles, duckdbPumpWhole]
  cases script.helper with
  | some what =>
    refine (leaves_destroy opened true fun _ => rfl).weaken ?_ (fun _ never => never.elim)
    intro handle
    simp [returnedHandle, Except.map]
  | none =>
    have queried : Leaves allFresh (uses ([] ++ create script.handle .extracted ++
        destroy script.handle .extracted ++ create true .querySession ++ [.query]))
        (fun handle => handle = .querySession)
        (fun handle => handle ≠ .extracted ∧ handle ≠ .querySession) := by
      simpa using opened
    have unused : Handle.queryResult ≠ .extracted ∧ Handle.queryResult ≠ .querySession := by
      simp
    cases script.query with
    | success rows =>
      refine (leaves_destroy (leaves_create queried true unused) true
        fun _ => Or.inl rfl).weaken ?_ (fun _ never => never.elim)
      intro handle
      cases handle <;> simp [returnedHandle, Except.map, Returned.handle]
    | failed written =>
      have wrote := leaves_touch (leaves_create queried written.isSome unused) written.isSome
        fun given => Or.inr ⟨given, rfl⟩
      have ended := leaves_destroy wrote true fun _ => Or.inl rfl
      have lives : written.isSome = true →
          ((Handle.queryResult = .querySession ∨ written.isSome = true ∧
              Handle.queryResult = .queryResult) ∧
            ¬(true = true ∧ Handle.queryResult = .querySession)) :=
        fun given => ⟨Or.inr ⟨given, rfl⟩, by simp⟩
      refine (leaves_destroy (leaves_touch ended written.isSome lives) written.isSome
        lives).weaken ?_ (fun _ never => never.elim)
      intro handle
      simp only [returnedHandle, Except.map, reduceCtorEq, iff_false]
      tauto

/-- The calls of a pumped query leave nothing but the returned result. -/
theorem query_settles (script : Script) :
    Settles (duckdbPumpQuery script).1 (duckdbPumpQuery script).2 := by
  simp only [duckdbPumpQuery]
  cases script.statements with
  | nil => exact whole_settles script
  | cons native rest =>
    have extracted : Leaves allFresh (uses ([] ++ create true .extracted))
        (fun handle => handle = .extracted) (fun handle => handle ≠ .extracted) :=
      (leaves_create begun true trivial).weaken (by simp) fun _ apart => ⟨trivial, apart⟩
    rw [Settles, uses_append]
    refine extracted.append fun middle lives untouched => ?_
    have owns : Owns 0 none middle := by
      refine ⟨?_, ?_, ?_⟩
      · intro handle
        simp [lives handle]
      · intro handle position place later
        refine untouched handle ?_
        rintro rfl
        cases place
      · intro result same
        cases same
    refine (statements_leave (native :: rest) owns).weaken ?_ (fun _ never => never.elim)
    intro handle
    rw [returned_map]

/-- A pumped query starts its statements in order and ends as `duckdb_query` does. -/
theorem query_agrees (script : Script) :
    started (duckdbPumpQuery script).1 = List.range (startedCount script.statements) ∧
      (duckdbPumpQuery script).2 = promisedOutcome script := by
  simp only [duckdbPumpQuery, promisedOutcome]
  cases script.statements with
  | nil =>
    simp only [duckdbPumpWhole]
    cases script.helper with
    | some what => exact ⟨by simp [startedCount], rfl⟩
    | none =>
      cases script.query with
      | success rows => exact ⟨by simp [startedCount], rfl⟩
      | failed written => exact ⟨by simp [startedCount], rfl⟩
  | cons native rest =>
    obtain ⟨order, outcome⟩ := statements_agree (native :: rest) 0 none
    refine ⟨?_, ?_⟩
    · simp [order, List.range_eq_range']
    · simp only [outcome, reduceCtorEq, if_false]
      cases (native :: rest).findSome? Native.failure with
      | some error => rfl
      | none => simp [Except.map, keep]

/-- A query that succeeds returns a result. -/
theorem promisedOutcome_returns (script : Script) (last : Option Returned)
    (succeeded : promisedOutcome script = .ok last) :
    returnedHandle (promisedOutcome script) ≠ none := by
  rw [succeeded]
  revert succeeded
  simp only [promisedOutcome]
  cases script.statements with
  | nil =>
    cases script.helper with
    | some what => simp
    | none =>
      cases script.query with
      | success rows =>
        intro same
        obtain rfl := Except.ok.inj same
        simp [returnedHandle]
      | failed written => simp
  | cons native rest =>
    simp only [reduceCtorEq, if_false]
    cases (native :: rest).findSome? Native.failure with
    | some error => simp
    | none =>
      intro same
      obtain rfl := Except.ok.inj same
      rw [firstRows_cons]
      split
      · simp [returnedHandle]
      · cases firstRows rest 1 <;> simp [returnedHandle]

/-- Whatever DuckDB answers, a pumped query does what `duckdb_query` would and releases its
handles. -/
theorem pump_agrees (script : Script) :
    Agrees script (duckdbPumpQuery script).1 (duckdbPumpQuery script).2 := by
  obtain ⟨order, outcome⟩ := query_agrees script
  obtain ⟨last, ran, lives, _⟩ := query_settles script
  refine ⟨order, outcome, ?_, ⟨last, ran, lives⟩, ?_⟩
  · rintro ⟨returned, succeeded⟩
    rw [outcome] at succeeded ⊢
    exact promisedOutcome_returns script returned succeeded
  · intro handle
    rw [Ownership.destroyed_once ran handle]
    simp [lives handle]

end PhpDuckdb.Query
