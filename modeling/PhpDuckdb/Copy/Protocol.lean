import Mathlib.Data.List.Count
import Mathlib.Data.List.Induction
import PhpDuckdb.Lib.Machine

/-!
# The calls of a COPY writer

What PHP sees of one execution of a COPY format: calls of its handlers and the release of the writer.
A stage allows the calls that may come next; the calls that the stages allow are orderly.
-/

namespace PhpDuckdb.CopyWriter

/-- A call of a handler, with how it ended, or a release. -/
inductive Call
  /-- `open()`: the writer that it returned, if any, and whether the call counts as done. -/
  | openWriter (returned : Option Nat) (ok : Bool)
  /-- `write()`. -/
  | write (writer : Nat) (ok : Bool)
  /-- `close()`. -/
  | close (writer : Nat) (ok : Bool)
  /-- `abort()`, for the failure of the statement. -/
  | abort (writer : Nat) (failure : String)
  /-- The session drops its reference. -/
  | release (writer : Nat)
  deriving DecidableEq, Repr

namespace Call

/-- The calls of `open()` in a log. -/
def opens : Call → Bool
  | .openWriter _ _ => true
  | _ => false

/-- The calls of `abort()` in a log. -/
def aborts : Call → Bool
  | .abort _ _ => true
  | _ => false

/-- Calls of `open()`, `write()` and `close()`. -/
def handles : Call → Bool
  | .openWriter _ _ | .write _ _ | .close _ _ => true
  | _ => false

/-- The writer of a `write()` or a `close()`. -/
def uses : Call → Option Nat
  | .write writer _ | .close writer _ => some writer
  | _ => none

/-- Calls of `open()`, `write()` and `close()` that failed. -/
def failed : Call → Bool
  | .openWriter _ ok | .write _ ok | .close _ ok => !ok
  | _ => false

end Call

/-- The order in which the methods of a writer may be called. -/
structure Orderly (calls : List Call) : Prop where
  /-- `open()` is called once. -/
  openedOnce : calls.countP Call.opens ≤ 1
  /-- `write()` and `close()` are called on the opened writer, before `close()` succeeds. -/
  onWriter : ∀ before call after writer, calls = before ++ call :: after →
    call.uses = some writer → .openWriter (some writer) true ∈ before ∧ .close writer true ∉ before
  /-- Nothing is opened, written or closed after a failure. -/
  afterFailure : ∀ before call after, calls = before ++ call :: after → call.handles = true →
    ∀ earlier ∈ before, earlier.failed = false
  /-- `abort()` is called once. -/
  abortedOnce : calls.countP Call.aborts ≤ 1
  /-- `abort()` is called on the opened writer of a failed statement, if `close()` did not succeed. -/
  aborted : ∀ before writer failure after, calls = before ++ .abort writer failure :: after →
    failure ≠ "" ∧ .openWriter (some writer) true ∈ before ∧ .close writer true ∉ before
  /-- A writer is released once. -/
  releasedOnce : ∀ writer, calls.count (.release writer) ≤ 1

/-! ## Stages -/

/-- How far the calls of a writer have come. -/
structure Stage where
  /-- `open()` was called. -/
  opened : Bool
  /-- The writer that `open()` returned. -/
  writer : Option Nat
  /-- `close()` succeeded. -/
  closed : Bool
  /-- A call failed. -/
  failed : Bool
  /-- `abort()` was called. -/
  aborted : Bool
  /-- The writer was released. -/
  released : Bool
  deriving DecidableEq, Repr

/-- Nothing was called, and no writer is open. -/
def Stage.start : Stage := ⟨false, none, false, false, false, false⟩

/-- A writer may be written to and closed. -/
def Stage.writable (stage : Stage) (writer : Nat) : Prop :=
  stage.writer = some writer ∧ stage.closed = false ∧ stage.failed = false ∧ stage.released = false

instance (stage : Stage) (writer : Nat) : Decidable (stage.writable writer) :=
  inferInstanceAs (Decidable (_ ∧ _))

/-- A call that the stage allows. -/
def Stage.next (stage : Stage) : Call → Option Stage
  | .openWriter returned ok =>
    if stage.opened = false ∧ returned.isSome = ok then
      some { stage with opened := true, writer := returned, failed := !ok }
    else none
  | .write writer ok =>
    if stage.writable writer then some { stage with failed := !ok } else none
  | .close writer ok =>
    if stage.writable writer then some { stage with closed := ok, failed := !ok } else none
  | .abort writer failure =>
    if stage.writer = some writer ∧ stage.closed = false ∧ stage.aborted = false ∧
        stage.released = false ∧ failure ≠ "" then
      some { stage with aborted := true }
    else none
  | .release writer =>
    if stage.writer = some writer ∧ stage.released = false then some { stage with released := true }
    else none

/-- The stages of a writer as a machine over its calls. -/
def protocol : Machine Stage Call := ⟨Stage.next⟩

/-! ## What a stage says about the calls before it -/

/-- A stage tells which calls there were. -/
structure Reads (stage : Stage) (calls : List Call) : Prop where
  /-- `open()` was called at most once. -/
  opens : calls.countP Call.opens = stage.opened.toNat
  /-- The writer was returned. -/
  writer : ∀ writer, stage.writer = some writer ↔ .openWriter (some writer) true ∈ calls
  /-- Nothing is returned by a failed `open()`. -/
  returned : ∀ returned ok, .openWriter returned ok ∈ calls → returned.isSome = ok
  /-- There is a writer only after `open()`. -/
  opened : ∀ writer, stage.writer = some writer → stage.opened = true
  /-- `close()` succeeded on no writer unless the stage says so. -/
  closed : stage.closed = false → ∀ writer, .close writer true ∉ calls
  /-- No call failed unless the stage says so. -/
  failed : stage.failed = false → ∀ call ∈ calls, call.failed = false
  /-- No call fails after another. -/
  failure : stage.failed = true → ∃ call ∈ calls, call.failed = true
  /-- `open()` did not fail where nothing was called. -/
  sound : stage.opened = false → stage.failed = false
  /-- `abort()` was called at most once. -/
  aborts : calls.countP Call.aborts = stage.aborted.toNat
  /-- Only the writer was released, and once. -/
  released : ∀ writer, calls.count (.release writer) =
    if stage.released = true ∧ stage.writer = some writer then 1 else 0
  /-- Only an opened writer is released. -/
  owned : stage.released = true → stage.opened = true

/-- Before any call the log reads as the starting state. -/
theorem reads_start : Reads .start [] := by
  constructor <;> simp [Stage.start]

variable {stage after : Stage} {calls : List Call} {call : Call}

/-- When no earlier call failed, the last call alone tells whether one of them did. -/
theorem failed_append {ok : Bool} (good : ∀ earlier ∈ calls, earlier.failed = false)
    (last : call.failed = !ok) :
    ((!ok) = false → ∀ earlier ∈ calls ++ [call], earlier.failed = false) ∧
      ((!ok) = true → ∃ earlier ∈ calls ++ [call], earlier.failed = true) := by
  refine ⟨fun fine earlier member => ?_, fun bad => ⟨call, by simp, last.trans bad⟩⟩
  rcases List.mem_append.mp member with before | new
  · exact good earlier before
  · obtain rfl := List.mem_singleton.mp new
    exact last.trans fine

/-- A call of `open()` is read as the first one, and as the one that returned the writer. -/
theorem Reads.openWriter (reads : Reads stage calls) (returned : Option Nat) (ok : Bool)
    (stepped : stage.next (.openWriter returned ok) = some after) :
    Reads after (calls ++ [.openWriter returned ok]) := by
  rw [Stage.next] at stepped
  split at stepped
  · rename_i allowed
    obtain ⟨fresh, same⟩ := allowed
    obtain rfl := Option.some.inj stepped
    have none_ : stage.writer = none := by
      by_contra some_
      obtain ⟨writer, is⟩ := Option.ne_none_iff_exists'.mp some_
      have opened := reads.opened writer is
      rw [fresh] at opened
      cases opened
    have unreleased : stage.released = false := by
      by_contra released
      have opened := reads.owned (by simpa using released)
      rw [fresh] at opened
      cases opened
    have good : ∀ earlier ∈ calls, earlier.failed = false := reads.failed (reads.sound fresh)
    refine ⟨?_, ?_, ?_, fun _ _ => rfl, ?_, ?_, ?_, by simp, ?_, ?_, fun _ => rfl⟩
    · simp [reads.opens, fresh, Call.opens]
    · intro writer
      have before := reads.writer writer
      rw [none_] at before
      simp only [List.mem_append, List.mem_singleton, Call.openWriter.injEq, ← before]
      constructor
      · rintro rfl
        exact .inr ⟨rfl, same⟩
      · rintro (found | ⟨rfl, -⟩)
        · cases found
        · rfl
    · intro other fine member
      rcases List.mem_append.mp member with before | new
      · exact reads.returned other fine before
      · obtain ⟨rfl, rfl⟩ := Call.openWriter.inj (List.mem_singleton.mp new)
        exact same
    · intro unclosed writer
      simpa using reads.closed unclosed writer
    · exact (failed_append good rfl).1
    · exact (failed_append good rfl).2
    · simpa [Call.aborts] using reads.aborts
    · intro writer
      simp [reads.released, unreleased]
  · cases stepped

/-- A call of `write()` is read as one on the writer that is open. -/
theorem Reads.write (reads : Reads stage calls) (writer : Nat) (ok : Bool)
    (stepped : stage.next (.write writer ok) = some after) :
    Reads after (calls ++ [.write writer ok]) := by
  rw [Stage.next] at stepped
  split at stepped
  · rename_i writable
    obtain rfl := Option.some.inj stepped
    refine ⟨?_, ?_, ?_, reads.opened, ?_, ?_, ?_, ?_, ?_, ?_, reads.owned⟩
    · simpa [Call.opens] using reads.opens
    · simpa using reads.writer
    · simpa using reads.returned
    · simpa using reads.closed
    · exact (failed_append (reads.failed writable.2.2.1) rfl).1
    · exact (failed_append (reads.failed writable.2.2.1) rfl).2
    · intro fresh
      have opened := reads.opened writer writable.1
      rw [fresh] at opened
      cases opened
    · simpa [Call.aborts] using reads.aborts
    · simpa using reads.released
  · cases stepped

/-- A call of `close()` is read as one on the writer that is open, and closes it if it succeeds. -/
theorem Reads.close (reads : Reads stage calls) (writer : Nat) (ok : Bool)
    (stepped : stage.next (.close writer ok) = some after) :
    Reads after (calls ++ [.close writer ok]) := by
  rw [Stage.next] at stepped
  split at stepped
  · rename_i writable
    obtain rfl := Option.some.inj stepped
    refine ⟨?_, ?_, ?_, reads.opened, ?_, ?_, ?_, ?_, ?_, ?_, reads.owned⟩
    · simpa [Call.opens] using reads.opens
    · simpa using reads.writer
    · simpa using reads.returned
    · rintro unclosed other member
      rcases List.mem_append.mp member with before | new
      · exact reads.closed writable.2.1 other before
      · obtain ⟨-, rfl⟩ := Call.close.inj (List.mem_singleton.mp new)
        cases unclosed
    · exact (failed_append (reads.failed writable.2.2.1) rfl).1
    · exact (failed_append (reads.failed writable.2.2.1) rfl).2
    · intro fresh
      have opened := reads.opened writer writable.1
      rw [fresh] at opened
      cases opened
    · simpa [Call.aborts] using reads.aborts
    · simpa using reads.released
  · cases stepped

/-- A call of `abort()` is read as the only one. -/
theorem Reads.abort (reads : Reads stage calls) (writer : Nat) (failure : String)
    (stepped : stage.next (.abort writer failure) = some after) :
    Reads after (calls ++ [.abort writer failure]) := by
  rw [Stage.next] at stepped
  split at stepped
  · rename_i allowed
    obtain rfl := Option.some.inj stepped
    refine ⟨?_, ?_, ?_, reads.opened, ?_, ?_, ?_, reads.sound, ?_, ?_, reads.owned⟩
    · simpa [Call.opens] using reads.opens
    · simpa using reads.writer
    · simpa using reads.returned
    · simpa using reads.closed
    · simpa [Call.failed, or_imp, forall_and] using reads.failed
    · intro bad
      obtain ⟨earlier, before, fails⟩ := reads.failure bad
      exact ⟨earlier, List.mem_append_left _ before, fails⟩
    · simp [reads.aborts, allowed.2.2.1, Call.aborts]
    · simpa using reads.released
  · cases stepped

/-- The release of the writer is read as the only one. -/
theorem Reads.release (reads : Reads stage calls) (writer : Nat)
    (stepped : stage.next (.release writer) = some after) :
    Reads after (calls ++ [.release writer]) := by
  rw [Stage.next] at stepped
  split at stepped
  · rename_i allowed
    obtain rfl := Option.some.inj stepped
    refine ⟨?_, ?_, ?_, reads.opened, ?_, ?_, ?_, reads.sound, ?_, ?_,
      fun _ => reads.opened writer allowed.1⟩
    · simpa [Call.opens] using reads.opens
    · simpa using reads.writer
    · simpa using reads.returned
    · simpa using reads.closed
    · simpa [Call.failed, or_imp, forall_and] using reads.failed
    · intro bad
      obtain ⟨earlier, before, fails⟩ := reads.failure bad
      exact ⟨earlier, List.mem_append_left _ before, fails⟩
    · simpa [Call.aborts] using reads.aborts
    · intro other
      by_cases same : other = writer
      · subst same
        simp [reads.released, allowed.1, allowed.2]
      · simp [reads.released, allowed.1, allowed.2, Ne.symm same]
  · cases stepped

/-- A further call is read as well. -/
theorem Reads.next (reads : Reads stage calls) (stepped : stage.next call = some after) :
    Reads after (calls ++ [call]) := by
  cases call with
  | openWriter returned ok => exact reads.openWriter returned ok stepped
  | write writer ok => exact reads.write writer ok stepped
  | close writer ok => exact reads.close writer ok stepped
  | abort writer failure => exact reads.abort writer failure stepped
  | release writer => exact reads.release writer stepped

/-- The stage that calls lead to tells which they were. -/
theorem reads_run : ∀ {calls : List Call} {stage : Stage},
    protocol.run .start calls = some stage → Reads stage calls := by
  intro calls
  induction calls using List.reverseRecOn with
  | nil =>
    intro stage ran
    obtain rfl := Option.some.inj ran
    exact reads_start
  | append_singleton calls call ih =>
    intro stage ran
    obtain ⟨middle, earlier, stepped⟩ := protocol.run_concat_some.mp ran
    exact (ih earlier).next stepped

/-- Calls that the stages allow are orderly. -/
theorem orderly_of_run (ran : protocol.run .start calls = some stage) : Orderly calls := by
  have reads := reads_run ran
  have splits : ∀ before call after, calls = before ++ call :: after →
      ∃ middle next, Reads middle before ∧ middle.next call = some next := by
    rintro before call after rfl
    rw [Machine.run_append, Option.bind_eq_some_iff] at ran
    obtain ⟨middle, earlier, rest⟩ := ran
    obtain ⟨next, stepped, -⟩ := protocol.run_cons_some.mp rest
    exact ⟨middle, next, reads_run earlier, stepped⟩
  refine ⟨?_, ?_, ?_, ?_, ?_, ?_⟩
  · rw [reads.opens]
    exact Bool.toNat_le _
  · intro before call after writer parts uses
    obtain ⟨middle, next, known, stepped⟩ := splits before call after parts
    have writable : middle.writable writer := by
      cases call with
      | write other ok | close other ok =>
        obtain rfl := Option.some.inj uses
        rw [Stage.next] at stepped
        split at stepped
        · assumption
        · cases stepped
      | _ => cases uses
    exact ⟨(known.writer writer).mp writable.1, known.closed writable.2.1 writer⟩
  · intro before call after parts handles
    obtain ⟨middle, next, known, stepped⟩ := splits before call after parts
    refine known.failed ?_
    cases call with
    | openWriter returned ok =>
      rw [Stage.next] at stepped
      split at stepped
      · rename_i allowed
        exact known.sound allowed.1
      · cases stepped
    | write writer ok | close writer ok =>
      rw [Stage.next] at stepped
      split at stepped
      · rename_i writable
        exact writable.2.2.1
      · cases stepped
    | _ => cases handles
  · rw [reads.aborts]
    exact Bool.toNat_le _
  · intro before writer failure after parts
    obtain ⟨middle, next, known, stepped⟩ := splits before _ after parts
    rw [Stage.next] at stepped
    split at stepped
    · rename_i allowed
      exact ⟨allowed.2.2.2.2, (known.writer writer).mp allowed.1, known.closed allowed.2.1 writer⟩
    · cases stepped
  · intro writer
    rw [reads.released]
    split <;> simp

end PhpDuckdb.CopyWriter
