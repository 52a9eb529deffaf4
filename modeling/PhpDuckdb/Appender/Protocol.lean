import PhpDuckdb.Appender.Methods

/-!
# What reaches the native appender

Over every run of method calls and the destruction of an appender: after a native call failed
nothing is written until a clear succeeded, the handle is destroyed once, and a handle that failed
is cleared before. While the appender is usable its flag tells whether the native appender has an
open row.
-/

namespace PhpDuckdb.Appender

open SqlText Value Connection Statement

/-! ## Reading the log -/

/-- The call writes rows or parts of them. -/
def NativeCall.isWrite : NativeCall → Bool
  | .clear => false
  | .destroy => false
  | _ => true

/-- The native call destroys the handle of the appender. -/
def NativeCall.isDestroy : NativeCall → Bool
  | .destroy => true
  | _ => false

/-- Whether a failure is left after a call: a successful clear takes it back. -/
def Entry.taints (before : Bool) (entry : Entry) : Bool :=
  if entry.succeeded then
    match entry.call with
    | .clear => false
    | _ => before
  else true

/-- A native call has failed since the last successful clear. -/
def tainted (log : List Entry) : Bool := log.foldl Entry.taints false

/-- Whether a row is begun after a call: it is begun, ended, or discarded by a clear. -/
def Entry.begins (before : Bool) (entry : Entry) : Bool :=
  if entry.succeeded then
    match entry.call with
    | .beginRow => true
    | .endRow => false
    | .clear => false
    | _ => before
  else before

/-- The native appender has a row that was begun and not ended. -/
def rowBegun (log : List Entry) : Bool := log.foldl Entry.begins false

/-- Nothing is written while a failure is left. -/
def cleanFrom : Bool → List Entry → Bool
  | _, [] => true
  | before, entry :: rest =>
    !(entry.call.isWrite && before) && cleanFrom (entry.taints before) rest

/-- A log is clean when its parts are. -/
theorem cleanFrom_append (before : Bool) (first second : List Entry) :
    cleanFrom before (first ++ second) =
      (cleanFrom before first && cleanFrom (first.foldl Entry.taints before) second) := by
  induction first generalizing before with
  | nil => simp [cleanFrom]
  | cons entry rest ih =>
    rw [List.cons_append, cleanFrom, cleanFrom, ih, List.foldl_cons, Bool.and_assoc]

/-- In a clean log no failure is left before a write. -/
theorem cleanFrom_write {log before after : List Entry} {entry : Entry}
    (clean : cleanFrom false log = true) (here : log = before ++ entry :: after)
    (write : entry.call.isWrite = true) : tainted before = false := by
  rw [here, cleanFrom_append, cleanFrom, write] at clean
  cases left : tainted before with
  | false => rfl
  | true =>
    have same : before.foldl Entry.taints false = true := left
    simp [same] at clean

/-- The entries of calls that succeeded. -/
def succeeded (calls : List NativeCall) : List Entry := calls.map fun call => ⟨call, true⟩

/-! ## Native calls -/

/-- The native calls of a method stop at the first that fails, and its failure is the outcome. -/
theorem issue_spec (native : Nat → Option Thrown) (number : Nat) (calls : List NativeCall) :
    cleanFrom false (issue native number calls).1 = true ∧
      (tainted (issue native number calls).1 = true → (issue native number calls).2.isSome) ∧
      ((issue native number calls).2 = none → (issue native number calls).1 = succeeded calls) ∧
      ∀ entry ∈ (issue native number calls).1, entry.call ∈ calls := by
  induction calls generalizing number with
  | nil => simp [issue, cleanFrom, tainted, succeeded]
  | cons call rest ih =>
    obtain ⟨clean, taint, whole, known⟩ := ih (number + 1)
    rw [issue]
    split
    · simp [cleanFrom, tainted]
    · have untouched : Entry.taints false ⟨call, true⟩ = false := by
        cases call <;> rfl
      refine ⟨?_, ?_, ?_, ?_⟩
      · simp only [cleanFrom, untouched, Bool.and_false, Bool.not_false, Bool.true_and]
        exact clean
      · intro left
        refine taint ?_
        simpa only [tainted, List.foldl_cons, untouched] using left
      · intro none_
        simp only [succeeded, List.map_cons]
        rw [whole none_]
        rfl
      · intro entry member
        rcases List.mem_cons.mp member with rfl | later
        · exact List.mem_cons_self ..
        · exact List.mem_cons_of_mem _ (known entry later)

/-- Where the log and the flags of an appender stand. -/
structure Sound (state : State) : Prop where
  /-- Nothing was written while a failure was left. -/
  clean : cleanFrom false state.log = true
  /-- A failure that is left is flagged. -/
  failed : tainted state.log = true → state.failed = true
  /-- The flag of a usable appender tells whether a row is begun. -/
  begun : state.failed = false → state.closed = false → state.rowOpen = rowBegun state.log
  /-- The handle exists. -/
  exists_ : ∀ entry ∈ state.log, entry.call.isDestroy = false

/-- A usable appender has no failure left. -/
theorem Sound.untainted {state : State} (sound : Sound state) (usable : state.failed = false) :
    tainted state.log = false := by
  cases left : tainted state.log with
  | false => rfl
  | true => simp [sound.failed left] at usable

/-- What native calls of a method do to an appender without a failure. -/
structure Submitted (before after : State) (calls : List NativeCall) (outcome : Outcome) :
    Prop where
  /-- The flags stay, but for a failure. -/
  flags : after.rowOpen = before.rowOpen ∧ after.closed = before.closed ∧
    after.lifecycle = before.lifecycle
  /-- The log stays clean. -/
  clean : cleanFrom false after.log = true
  /-- A failure is flagged. -/
  failed : tainted after.log = true → after.failed = true
  /-- The handle exists. -/
  exists_ : ∀ entry ∈ after.log, entry.call.isDestroy = false
  /-- Either all calls succeeded, or one failed. -/
  ended : (outcome = .returned ∧ after.failed = before.failed ∧
      after.log = before.log ++ succeeded calls) ∨
    (∃ thrown, outcome = .threw .native (some thrown)) ∧ after.failed = true
  /-- They are added to the log. -/
  added : ∃ entries, after.log = before.log ++ entries

/-- Native calls on an appender without a failure keep its log clean and leave its handle. -/
theorem submit_submitted {state : State} (native : Nat → Option Thrown) (calls : List NativeCall)
    (clean : cleanFrom false state.log = true) (untainted : tainted state.log = false)
    (handle : ∀ entry ∈ state.log, entry.call.isDestroy = false)
    (kept : ∀ call ∈ calls, call.isDestroy = false) :
    Submitted state (state.submit native calls).1 calls (state.submit native calls).2 := by
  obtain ⟨cleanEntries, taint, whole, known⟩ := issue_spec native 0 calls
  have cleanAfter : cleanFrom false (state.log ++ (issue native 0 calls).1) = true := by
    have same : state.log.foldl Entry.taints false = false := untainted
    rw [cleanFrom_append, clean, same, cleanEntries]
    rfl
  have taintAfter : tainted (state.log ++ (issue native 0 calls).1) = true →
      (issue native 0 calls).2.isSome := by
    intro left
    have same : state.log.foldl Entry.taints false = false := untainted
    rw [tainted, List.foldl_append, same] at left
    exact taint left
  have handleAfter : ∀ entry ∈ state.log ++ (issue native 0 calls).1,
      entry.call.isDestroy = false := by
    intro entry member
    rcases List.mem_append.mp member with old | new
    · exact handle entry old
    · exact kept entry.call (known entry new)
  unfold State.submit
  split
  · rename_i entries succeeded_
    rw [succeeded_] at cleanAfter taintAfter handleAfter whole
    refine ⟨⟨rfl, rfl, rfl⟩, cleanAfter, ?_, handleAfter, .inl ⟨rfl, rfl, ?_⟩, _, rfl⟩
    · intro left
      simpa using taintAfter left
    · exact congrArg (state.log ++ ·) (whole rfl)
  · rename_i entries thrown failed
    rw [failed] at cleanAfter taintAfter handleAfter
    exact ⟨⟨rfl, rfl, rfl⟩, cleanAfter, fun _ => rfl, handleAfter, .inr ⟨⟨thrown, rfl⟩, rfl⟩, _, rfl⟩

/-! ## Methods -/

section Calls

variable {Env : Type} {database : Database Env}

/-- What a method does to an appender. -/
structure Called (before after : State) (outcome : Outcome) : Prop where
  /-- The log and the flags stay sound. -/
  sound : Sound after
  /-- The object lives on. -/
  lifecycle : after.lifecycle = before.lifecycle
  /-- A failed conversion and an open result change nothing. -/
  harmless : ∀ reason thrown, outcome = .threw reason thrown →
    reason = .conversion ∨ reason = .openResult → after = before

/-- A method that threw before it changed anything keeps log and flags sound. -/
theorem Sound.threw {state : State} (sound : Sound state) {reason : Reason}
    {thrown : Option Thrown} : Called state state (.threw reason thrown) :=
  ⟨sound, rfl, fun _ _ _ _ => rfl⟩

/-- A method whose native calls are all that it does to the log. -/
theorem Submitted.called {before start after : State} {calls : List NativeCall}
    {outcome : Outcome} (made : Submitted start after calls outcome)
    (same : start.lifecycle = before.lifecycle)
    (begun : outcome = .returned → after.closed = false → after.rowOpen = rowBegun after.log) :
    Called before after outcome := by
  refine ⟨⟨made.clean, made.failed, ?_, made.exists_⟩, made.flags.2.2.trans same, ?_⟩
  · intro usable open_
    rcases made.ended with ⟨returned, _, _⟩ | ⟨_, failed⟩
    · exact begun returned open_
    · simp [usable] at failed
  · rintro reason thrown rfl kind
    rcases made.ended with ⟨returned, _, _⟩ | ⟨⟨_, native⟩, _⟩
    · simp at returned
    · obtain ⟨rfl, _⟩ := Outcome.threw.inj native
      simp at kind

/-- The appender that `duckdb_appender_get` returns is usable. -/
theorem duckdbAppenderGet_ok {setting : Setting Env} {state : State}
    (got : duckdbAppenderGet setting state = .ok ()) :
    state.closed = false ∧ state.failed = false := by
  obtain ⟨_, _, rest⟩ := Outcome.bind_eq_ok.mp got
  cases closed : state.closed <;> cases failed : state.failed <;> simp [closed, failed] at rest ⊢

/-- Native calls of a usable appender, whose row stays as it was. -/
theorem Sound.submit {state : State} (sound : Sound state) (usable : state.failed = false)
    (native : Nat → Option Thrown) (calls : List NativeCall)
    (kept : ∀ call ∈ calls, call.isDestroy = false) :
    Submitted state (state.submit native calls).1 calls (state.submit native calls).2 :=
  submit_submitted native calls sound.clean (sound.untainted usable) sound.exists_ kept

/-- Native calls that neither begin nor end a row. -/
theorem rowBegun_kept (log : List Entry) (calls : List NativeCall)
    (kept : ∀ call ∈ calls, ∀ before, Entry.begins before ⟨call, true⟩ = before) :
    rowBegun (log ++ succeeded calls) = rowBegun log := by
  rw [rowBegun, List.foldl_append]
  have same : ∀ before, (succeeded calls).foldl Entry.begins before = before := by
    induction calls with
    | nil => intro before; rfl
    | cons call rest ih =>
      intro before
      simp only [succeeded, List.map_cons, List.foldl_cons,
        kept call (List.mem_cons_self ..) before]
      exact ih (fun other member => kept other (List.mem_cons_of_mem _ member)) before
  exact same _

/-- Native calls of a usable appender that neither begin nor end a row. -/
theorem Sound.submit_called {state : State} (sound : Sound state) (usable : state.failed = false)
    (native : Nat → Option Thrown) (calls : List NativeCall)
    (handle : ∀ call ∈ calls, call.isDestroy = false)
    (kept : ∀ call ∈ calls, ∀ before, Entry.begins before ⟨call, true⟩ = before) :
    Called state (state.submit native calls).1 (state.submit native calls).2 := by
  have made := sound.submit usable native calls handle
  refine made.called rfl fun returned open_ => ?_
  rcases made.ended with ⟨_, _, log⟩ | ⟨⟨_, threw⟩, _⟩
  · rw [log, made.flags.1, rowBegun_kept _ _ kept]
    exact sound.begun usable (made.flags.2.1.symm.trans open_)
  · simp [returned] at threw

/-- `beginRow` keeps the log and the flags of an appender sound. -/
theorem beginRow_called {state : State} (sound : Sound state) (setting : Setting Env) :
    Called state (beginRow setting state).1 (beginRow setting state).2 := by
  unfold beginRow
  split
  · exact sound.threw
  · rename_i got
    split
    · exact sound.threw
    · split
      · exact sound.threw
      · obtain ⟨open_, usable⟩ := duckdbAppenderGet_ok got
        have made := sound.submit usable setting.native [.beginRow]
          (by simp [NativeCall.isDestroy])
        split
        · rename_i next begun
          rw [begun] at made
          rcases made.ended with ⟨_, _, log⟩ | ⟨⟨_, threw⟩, _⟩
          · refine ⟨⟨made.clean, made.failed, fun _ _ => ?_, made.exists_⟩, made.flags.2.2, by simp⟩
            have after : rowBegun next.log = true := by
              have same : next.log = state.log ++ succeeded [.beginRow] := log
              rw [same, rowBegun, List.foldl_append]
              rfl
            exact after.symm
          · simp at threw
        · rename_i failed
          refine made.called rfl fun returned _ => ?_
          exact (failed _ (Prod.ext rfl returned)).elim

/-- `append` keeps log and flags sound, and changes nothing when the value cannot be converted. -/
theorem append_called {state : State} (sound : Sound state) (setting : Setting Env)
    (value : Zval) :
    Called state (append database setting value state).1 (append database setting value state).2 := by
  unfold append
  split
  · exact sound.threw
  · rename_i got
    split
    · exact sound.threw
    · split
      · exact sound.threw
      · split
        · exact sound.threw
        · rename_i converted _
          refine sound.submit_called (duckdbAppenderGet_ok got).2 setting.native _ ?_ ?_
          all_goals
            intro call member
            obtain ⟨value, _, rfl⟩ := List.mem_map.mp member
          · rfl
          · exact fun _ => rfl

/-- `appendDefault` keeps the log and the flags of an appender sound. -/
theorem appendDefault_called {state : State} (sound : Sound state) (setting : Setting Env) :
    Called state (appendDefault setting state).1 (appendDefault setting state).2 := by
  unfold appendDefault
  split
  · exact sound.threw
  · rename_i got
    split
    · exact sound.threw
    · split
      · exact sound.threw
      · refine sound.submit_called (duckdbAppenderGet_ok got).2 setting.native _ ?_ ?_
        · simp [NativeCall.isDestroy]
        · simp [Entry.begins]

/-- `endRow` keeps log and flags sound, and changes nothing while a result is open. -/
theorem endRow_called {state : State} (sound : Sound state) (setting : Setting Env) :
    Called state (endRow setting state).1 (endRow setting state).2 := by
  unfold endRow
  split
  · exact sound.threw
  · rename_i got
    split
    · exact sound.threw
    · split
      · exact sound.threw
      · obtain ⟨_, usable⟩ := duckdbAppenderGet_ok got
        have made : Submitted { state with rowOpen := false } _ [.endRow] _ :=
          submit_submitted setting.native [.endRow] sound.clean (sound.untainted usable)
            sound.exists_ (by simp [NativeCall.isDestroy])
        refine made.called rfl fun returned _ => ?_
        rcases made.ended with ⟨_, _, log⟩ | ⟨⟨_, threw⟩, _⟩
        · rw [log, made.flags.1, rowBegun, List.foldl_append]
          rfl
        · simp [returned] at threw

/-- A whole row leaves no row begun. -/
theorem rowBegun_wholeRow (log : List Entry) (values : List DuckValue) :
    rowBegun (log ++ succeeded (wholeRow values)) = false := by
  rw [rowBegun, List.foldl_append, wholeRow, succeeded, List.map_cons, List.map_append,
    List.foldl_cons, List.foldl_append]
  rfl

/-- No call of a whole row destroys the handle. -/
theorem wholeRow_kept {values : List DuckValue} {call : NativeCall}
    (member : call ∈ wholeRow values) : call.isDestroy = false := by
  rcases List.mem_cons.mp member with rfl | later
  · rfl
  · rcases List.mem_append.mp later with appended | ended
    · obtain ⟨value, _, rfl⟩ := List.mem_map.mp appended
      rfl
    · obtain rfl := List.mem_singleton.mp ended
      rfl

/-- `appendRow` keeps log and flags sound, and changes nothing when a value cannot be converted or a
result is open. -/
theorem appendRow_called {state : State} (sound : Sound state) (setting : Setting Env)
    (values : Elements) :
    Called state (appendRow database setting values state).1
      (appendRow database setting values state).2 := by
  unfold appendRow
  split
  · exact sound.threw
  · rename_i got
    split
    · exact sound.threw
    · rename_i noRow
      split
      · exact sound.threw
      · split
        · exact sound.threw
        · split
          · exact sound.threw
          · rename_i converted _
            have made := sound.submit (duckdbAppenderGet_ok got).2 setting.native
              (wholeRow converted) fun _ => wholeRow_kept
            refine made.called rfl fun returned _ => ?_
            rcases made.ended with ⟨_, _, log⟩ | ⟨⟨_, threw⟩, _⟩
            · rw [log, made.flags.1, rowBegun_wholeRow]
              simpa using noRow
            · simp [returned] at threw

/-- `flush` keeps log and flags sound, and changes nothing while a result is open. -/
theorem flush_called {state : State} (sound : Sound state) (setting : Setting Env) :
    Called state (flush setting state).1 (flush setting state).2 := by
  unfold flush
  split
  · exact sound.threw
  · rename_i got
    split
    · exact sound.threw
    · refine sound.submit_called (duckdbAppenderGet_ok got).2 setting.native _ ?_ ?_
      · simp [NativeCall.isDestroy]
      · simp [Entry.begins]

/-- The native calls of a chunk are chunk appends. -/
theorem mem_chunkCalls {vectorSize : Vector.VectorSize} {rows : List Row} {call : NativeCall}
    (member : call ∈ chunkCalls vectorSize rows) :
    ∃ part, call = .appendDataChunk part := by
  unfold chunkCalls at member
  split at member
  · exact ⟨rows, List.mem_singleton.mp member⟩
  · obtain ⟨part, _, rfl⟩ := List.mem_map.mp member
    exact ⟨part, rfl⟩

/-- `appendChunk` and `appendArrow` keep log and flags sound, and change nothing when the chunk
cannot be imported or a result is open. -/
theorem duckdbAppenderAppendChunk_called {state : State} (sound : Sound state)
    (setting : Setting Env) (chunk : Except (Option Thrown) (List Row)) :
    Called state (duckdbAppenderAppendChunk setting chunk state).1
      (duckdbAppenderAppendChunk setting chunk state).2 := by
  unfold duckdbAppenderAppendChunk
  split
  · exact sound.threw
  · rename_i got
    split
    · exact sound.threw
    · split
      · exact sound.threw
      · split
        · exact sound.threw
        · refine sound.submit_called (duckdbAppenderGet_ok got).2 setting.native _ ?_ ?_
          all_goals
            intro call member
            obtain ⟨part, rfl⟩ := mem_chunkCalls member
          · rfl
          · exact fun _ => rfl

/-- A native clear of a method, whether or not a failure is left before it. -/
theorem submit_clear (state : State) (native : Nat → Option Thrown) :
    state.submit native [.clear] =
        ({ state with log := state.log ++ [⟨.clear, true⟩] }, .returned) ∨
      ∃ thrown, state.submit native [.clear] =
        ({ state with failed := true, log := state.log ++ [⟨.clear, false⟩] },
          .threw .native (some thrown)) := by
  cases error : native 0 with
  | none => exact .inl (by simp [State.submit, issue, error])
  | some thrown => exact .inr ⟨thrown, by simp [State.submit, issue, error]⟩

/-- A clear may follow any log that is sound, whether it succeeds or not. -/
theorem Sound.clear_clean {state : State} (sound : Sound state) (succeeded : Bool) :
    cleanFrom false (state.log ++ [⟨.clear, succeeded⟩]) = true := by
  rw [cleanFrom_append, sound.clean]
  simp [cleanFrom, NativeCall.isWrite]

/-- A clear does not destroy the native handle. -/
theorem Sound.clear_exists {state : State} (sound : Sound state) (succeeded : Bool) :
    ∀ entry ∈ state.log ++ [⟨.clear, succeeded⟩], entry.call.isDestroy = false := by
  intro entry member
  rcases List.mem_append.mp member with old | new
  · exact sound.exists_ entry old
  · obtain rfl := List.mem_singleton.mp new
    rfl

/-- `clear` keeps the log and the flags of an appender sound. -/
theorem clear_called {state : State} (sound : Sound state) (setting : Setting Env) :
    Called state (clear setting state).1 (clear setting state).2 := by
  unfold clear
  split
  · exact sound.threw
  · split
    · exact sound.threw
    · split
      · exact sound.threw
      · rcases submit_clear state setting.native with cleared | ⟨thrown, failed⟩
        · rw [cleared]
          refine ⟨⟨sound.clear_clean true, ?_, fun _ _ => ?_, sound.clear_exists true⟩, rfl,
            by simp⟩
          · simp [tainted, Entry.taints]
          · simp [rowBegun, Entry.begins]
        · rw [failed]
          exact ⟨⟨sound.clear_clean false, fun _ => rfl, by simp, sound.clear_exists false⟩, rfl,
            by rintro _ _ ⟨⟩ kind; simp at kind⟩

/-- `close` keeps log and flags sound, and changes nothing while a result is open. -/
theorem close_called {state : State} (sound : Sound state) (setting : Setting Env) :
    Called state (close setting state).1 (close setting state).2 := by
  unfold close
  split
  · exact sound.threw
  · split
    · exact ⟨sound, rfl, by simp⟩
    · split
      · rename_i usable
        split
        · exact sound.threw
        · have made : Submitted { state with closed := true, rowOpen := false } _ [.close] _ :=
            submit_submitted setting.native [.close] sound.clean
              (sound.untainted (by simpa using usable)) sound.exists_
              (by simp [NativeCall.isDestroy])
          refine made.called rfl fun _ open_ => ?_
          have closed := made.flags.2.1
          rw [open_] at closed
          simp at closed
      · rename_i failed
        have flagged : state.failed = true := by simpa using failed
        dsimp only
        split
        · exact ⟨⟨sound.clean, fun _ => flagged, by simp [State.refuse], sound.exists_⟩, rfl,
            by rintro _ _ ⟨⟩ kind; simp at kind⟩
        · rcases submit_clear { state with closed := true, rowOpen := false } setting.native with
            cleared | ⟨thrown, failed⟩
          · rw [cleared]
            exact ⟨⟨sound.clear_clean true, fun _ => flagged, by simp, sound.clear_exists true⟩,
              rfl, by simp⟩
          · rw [failed]
            exact ⟨⟨sound.clear_clean false, fun _ => rfl, by simp, sound.clear_exists false⟩,
              rfl, by rintro _ _ ⟨⟩ kind; simp at kind⟩

variable (database) in
/-- Every method keeps log and flags sound, and changes nothing when a conversion fails or a result
is open. -/
theorem call_called {state : State} (sound : Sound state) (setting : Setting Env)
    (method : Method) :
    Called state (call database setting state method).1 (call database setting state method).2 := by
  cases method with
  | beginRow => exact beginRow_called sound setting
  | append value => exact append_called sound setting value
  | appendDefault => exact appendDefault_called sound setting
  | endRow => exact endRow_called sound setting
  | appendRow values => exact appendRow_called sound setting values
  | flush => exact flush_called sound setting
  | appendChunk chunk => exact duckdbAppenderAppendChunk_called sound setting chunk
  | clear => exact clear_called sound setting
  | close => exact close_called sound setting

/-! ## Destruction -/

/-- A log that ends with the destruction of the handle. -/
structure Destroyed (log earlier : List Entry) : Prop where
  /-- It is the last call. -/
  last : log = earlier ++ [⟨.destroy, true⟩]
  /-- Nothing was written while a failure was left. -/
  clean : cleanFrom false earlier = true
  /-- The handle was not destroyed before. -/
  once : ∀ entry ∈ earlier, entry.call.isDestroy = false
  /-- A failure that is left was followed by an attempt to clear the handle. -/
  cleared : tainted earlier = true →
    ∃ before succeeded, earlier = before ++ [⟨.clear, succeeded⟩]

/-- The cleanup destroys the handle, and clears it before when it failed. -/
theorem cleanup_destroyed {state : State} (sound : Sound state) (native : Nat → Option Thrown) :
    ∃ earlier, Destroyed
      (state.log ++ cleanup native state.failed (!state.closed && !state.failed)) earlier := by
  cases failed : state.failed with
  | true =>
    refine ⟨state.log ++ [⟨.clear, (native 0).isNone⟩], by simp [cleanup],
      sound.clear_clean _, sound.clear_exists _, fun _ => ⟨_, _, rfl⟩⟩
  | false =>
    have untainted := sound.untainted failed
    have same : state.log.foldl Entry.taints false = false := untainted
    cases closed : state.closed with
    | true =>
      refine ⟨state.log, by simp [cleanup], sound.clean, sound.exists_, fun left => ?_⟩
      simp [untainted] at left
    | false =>
      cases error : native 1 with
      | none =>
        refine ⟨state.log ++ [⟨.close, true⟩], by simp [cleanup, error], ?_, ?_, fun left => ?_⟩
        · rw [cleanFrom_append, sound.clean, same]
          rfl
        · intro entry member
          rcases List.mem_append.mp member with old | new
          · exact sound.exists_ entry old
          · obtain rfl := List.mem_singleton.mp new
            rfl
        · rw [tainted, List.foldl_append, same] at left
          simp [Entry.taints] at left
      | some thrown =>
        refine ⟨state.log ++ [⟨.close, false⟩, ⟨.clear, (native 2).isNone⟩],
          by simp [cleanup, error], ?_, ?_,
          fun _ => ⟨state.log ++ [⟨.close, false⟩], (native 2).isNone, by simp⟩⟩
        · rw [cleanFrom_append, sound.clean, same]
          rfl
        · intro entry member
          rcases List.mem_append.mp member with old | new
          · exact sound.exists_ entry old
          · rcases List.mem_cons.mp new with rfl | last
            · rfl
            · obtain rfl := List.mem_singleton.mp last
              rfl

/-! ## Runs -/

/-- Where an appender stands in its life. -/
structure Invariant (state : State) : Prop where
  /-- As long as the handle exists, log and flags are sound. -/
  sound : state.lifecycle ≠ .destroyed → Sound state
  /-- Deferred cleanup does what the destructor decided. -/
  deferred : ∀ wasFailed flush, state.lifecycle = .deferred wasFailed flush →
    wasFailed = state.failed ∧ flush = (!state.closed && !state.failed)
  /-- Afterwards the handle was destroyed. -/
  destroyed : state.lifecycle = .destroyed → ∃ earlier, Destroyed state.log earlier

/-- An appender that was just created meets the invariant. -/
theorem invariant_fresh : Invariant State.fresh where
  sound _ := ⟨rfl, by simp [State.fresh, tainted], fun _ _ => rfl, by simp [State.fresh]⟩
  deferred := by simp [State.fresh]
  destroyed := by simp [State.fresh]

/-- Every method call, destruction and deferred cleanup keeps the invariant. -/
theorem step_invariant {state next : State} {event : Event Env} (inv : Invariant state)
    (stepped : step database state event = some next) : Invariant next := by
  cases event with
  | call method setting =>
    simp only [step] at stepped
    split at stepped
    · rename_i live
      obtain rfl := Option.some.inj stepped
      have called := call_called database (inv.sound (by simp [live])) setting method
      refine ⟨fun _ => called.sound, ?_, ?_⟩
      · simp [called.lifecycle, live]
      · simp [called.lifecycle, live]
    · simp at stepped
  | destruct busy native =>
    simp only [step] at stepped
    split at stepped
    · rename_i live
      have sound := inv.sound (by simp [live])
      split at stepped
      · obtain rfl := Option.some.inj stepped
        refine ⟨fun _ => ⟨sound.clean, sound.failed, sound.begun, sound.exists_⟩, ?_, by simp⟩
        rintro wasFailed flush ⟨⟩
        exact ⟨rfl, rfl⟩
      · obtain rfl := Option.some.inj stepped
        exact ⟨by simp, by simp, fun _ => cleanup_destroyed sound native⟩
    · simp at stepped
  | drain native =>
    simp only [step] at stepped
    split at stepped
    · rename_i wasFailed flush waiting
      obtain rfl := Option.some.inj stepped
      have sound := inv.sound (by simp [waiting])
      obtain ⟨rfl, rfl⟩ := inv.deferred wasFailed flush waiting
      exact ⟨by simp, by simp, fun _ => cleanup_destroyed sound native⟩
    · simp at stepped

/-- Every PHP array has as many values as elements. -/
theorem toList_length (values : Elements) : values.toList.length = values.count := by
  match values with
  | .nil => rfl
  | .cons key value rest =>
    rw [Elements.toList, List.length_cons, toList_length rest, Elements.count]

/-- What `appendRow` sends to the native appender: nothing, a whole row, or a row that failed. -/
theorem appendRow_entries {state : State} (sound : Sound state) (setting : Setting Env)
    (values : Elements) :
    ∃ entries, (appendRow database setting values state).1.log = state.log ++ entries ∧
      (entries = [] ∨
        (∃ converted, converted.length = setting.columnCount ∧
          entries = succeeded (wholeRow converted)) ∨
        (appendRow database setting values state).1.failed = true) := by
  have none_ : ∃ entries, state.log = state.log ++ entries ∧ (entries = [] ∨
      (∃ converted, converted.length = setting.columnCount ∧
        entries = succeeded (wholeRow converted)) ∨ state.failed = true) :=
    ⟨[], by simp, .inl rfl⟩
  unfold appendRow
  split
  · exact none_
  · rename_i got
    split
    · exact none_
    · split
      · exact none_
      · rename_i counted
        split
        · exact none_
        · split
          · exact none_
          · rename_i converted whole
            have made := sound.submit (duckdbAppenderGet_ok got).2 setting.native
              (wholeRow converted) fun _ => wholeRow_kept
            rcases made.ended with ⟨_, _, log⟩ | ⟨_, failed⟩
            · refine ⟨_, log, .inr (.inl ⟨converted, ?_, rfl⟩)⟩
              rw [convertValues_length whole, List.length_map, toList_length]
              simpa using counted
            · obtain ⟨entries, log⟩ := made.added
              exact ⟨entries, log, .inr (.inr failed)⟩

/-- The destruction of the handle in a log that ends with it. -/
theorem Destroyed.unique {log earlier before after : List Entry} {entry : Entry}
    (destroyed : Destroyed log earlier) (here : log = before ++ entry :: after)
    (destroys : entry.call.isDestroy = true) : after = [] ∧ before = earlier := by
  have same := destroyed.last.symm.trans here
  rcases List.eq_nil_or_concat after with rfl | ⟨rest, last, rfl⟩
  · have parts := List.append_inj' same rfl
    exact ⟨rfl, parts.1.symm⟩
  · rw [List.concat_eq_append, ← List.cons_append, ← List.append_assoc] at same
    have parts := List.append_inj' same rfl
    have member : entry ∈ earlier := by simp [parts.1]
    simp [destroyed.once entry member] at destroys

/-- What holds of an appender in every run. -/
structure Protocol (database : Database Env) (state : State) : Prop where
  /-- After a native call failed nothing is written until a clear succeeded. -/
  retries : ∀ before entry after, state.log = before ++ entry :: after →
    entry.call.isWrite = true → tainted before = false
  /-- The handle is destroyed once. -/
  once : state.log.countP (fun entry => entry.call.isDestroy) =
    if state.lifecycle = .destroyed then 1 else 0
  /-- The destructor destroys it, at once or when the handler returns. -/
  ends : (state.lifecycle = .live → ∀ busy native, ∃ next,
      (appender database).step state (.destruct busy native) = some next ∧
        (next.lifecycle = .destroyed ∨ ∃ wasFailed flush,
          next.lifecycle = .deferred wasFailed flush)) ∧
    ∀ wasFailed flush, state.lifecycle = .deferred wasFailed flush → ∀ native, ∃ next,
      (appender database).step state (.drain native) = some next ∧ next.lifecycle = .destroyed
  /-- Its destruction is the last call, and follows an attempt to clear it when a failure is left. -/
  discarded : ∀ before entry after, state.log = before ++ entry :: after →
    entry.call.isDestroy = true → after = [] ∧ (tainted before = true →
      ∃ earlier succeeded, before = earlier ++ [⟨.clear, succeeded⟩])
  /-- A failed conversion and an open result change nothing. -/
  harmless : state.lifecycle = .live → ∀ method setting after reason thrown,
    call database setting state method = (after, .threw reason thrown) →
      reason = .conversion ∨ reason = .openResult → after = state
  /-- `appendRow` makes no native call, or those of a whole row, or fails. -/
  rows : state.lifecycle = .live → ∀ setting values, ∃ entries,
    (call database setting state (.appendRow values)).1.log = state.log ++ entries ∧
      (entries = [] ∨
        (∃ converted, converted.length = setting.columnCount ∧
          entries = succeeded (wholeRow converted)) ∨
        (call database setting state (.appendRow values)).1.failed = true)
  /-- The flag of a usable appender tells whether a row is begun. -/
  row : state.lifecycle = .live → state.failed = false → state.closed = false →
    state.rowOpen = rowBegun state.log

/-- Every run of an appender keeps the protocol. -/
theorem appender_protocol {state : State}
    (reached : (appender database).Reaches State.fresh state) : Protocol database state := by
  have keeps : ∀ before event after, Invariant before →
      (appender database).step before event = some after → Invariant after :=
    fun _ _ _ inv stepped => step_invariant inv stepped
  have inv := reached.preserves keeps invariant_fresh
  have live : state.lifecycle = .live → Sound state := fun alive => inv.sound (by simp [alive])
  refine ⟨?_, ?_, ⟨?_, ?_⟩, ?_, ?_, ?_, ?_⟩
  · intro before entry after here write
    by_cases past : state.lifecycle = .destroyed
    · obtain ⟨earlier, destroyed⟩ := inv.destroyed past
      refine cleanFrom_write ?_ here write
      rw [destroyed.last, cleanFrom_append, destroyed.clean]
      rfl
    · exact cleanFrom_write (inv.sound past).clean here write
  · split
    · rename_i past
      obtain ⟨earlier, destroyed⟩ := inv.destroyed past
      have none_ : earlier.countP (fun entry => entry.call.isDestroy) = 0 :=
        List.countP_eq_zero.mpr fun entry member => by simp [destroyed.once entry member]
      rw [destroyed.last, List.countP_append, none_]
      rfl
    · rename_i past
      exact List.countP_eq_zero.mpr fun entry member => by
        simp [(inv.sound past).exists_ entry member]
  · intro alive busy native
    cases busy with
    | true => exact ⟨_, by simp [appender, step, alive]; rfl, .inr ⟨_, _, rfl⟩⟩
    | false => exact ⟨_, by simp [appender, step, alive]; rfl, .inl rfl⟩
  · intro wasFailed flush waiting native
    exact ⟨_, by simp [appender, step, waiting]; rfl, rfl⟩
  · intro before entry after here destroys
    by_cases past : state.lifecycle = .destroyed
    · obtain ⟨earlier, destroyed⟩ := inv.destroyed past
      obtain ⟨rfl, rfl⟩ := destroyed.unique here destroys
      exact ⟨rfl, destroyed.cleared⟩
    · have exists_ := (inv.sound past).exists_ entry (by simp [here])
      simp [exists_] at destroys
  · intro alive method setting after reason thrown called kind
    have result := call_called database (live alive) setting method
    rw [called] at result
    exact result.harmless reason thrown rfl kind
  · intro alive setting values
    exact appendRow_entries (live alive) setting values
  · intro alive usable open_
    exact (live alive).begun usable open_

end Calls

/-- A call's setting on a table with one column, in which nothing fails. -/
def Setting.plain : Setting LogicalType :=
  ⟨.granted, false, plainType .integer, 1, ⟨2048, by decide⟩, fun _ => none⟩

/-- An append that fails, a clear, a whole row and the destruction. -/
theorem appender_protocol_cleared : ∃ state, Protocol castsSeven state ∧
    state.log = [⟨.beginRow, true⟩, ⟨.append (.bigint 1), false⟩, ⟨.clear, true⟩,
      ⟨.beginRow, true⟩, ⟨.append (.bigint 2), true⟩, ⟨.endRow, true⟩, ⟨.close, true⟩,
      ⟨.destroy, true⟩] :=
  ⟨_, @appender_protocol _ castsSeven _
    ⟨[.call .beginRow .plain,
      .call (.append (.long 1)) { Setting.plain with native := fun _ => some interrupted },
      .call .flush .plain, .call .clear .plain,
      .call (.appendRow (.cons (.index 0) (.long 2) .nil)) .plain,
      .destruct false fun _ => none], rfl⟩, rfl⟩

end PhpDuckdb.Appender
