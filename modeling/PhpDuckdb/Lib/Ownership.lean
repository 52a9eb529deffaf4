import PhpDuckdb.Lib.Machine

/-!
# Handles that are created and destroyed

A handle is created once, used while it lives and destroyed once. A log of such calls is in order
when the machine of handles takes it; a run then says how often each handle was destroyed, so that
"exactly once" and "never afterwards" need no counting of their own.
-/

namespace PhpDuckdb.Ownership

universe u

/-- What became of a handle so far. -/
inductive Status
  | fresh
  | live
  | destroyed
  deriving DecidableEq, Repr

/-- A use of a handle, which creates it, touches it or destroys it. -/
inductive Use (Handle : Type u)
  | create (handle : Handle)
  | touch (handle : Handle)
  | destroy (handle : Handle)
  deriving DecidableEq, Repr

variable {Handle : Type u} [DecidableEq Handle]

/-- A call on a handle that is not in the right state is refused. -/
def stepUse (statuses : Handle → Status) : Use Handle → Option (Handle → Status)
  | .create handle =>
    if statuses handle = .fresh then some (Function.update statuses handle .live) else none
  | .touch handle => if statuses handle = .live then some statuses else none
  | .destroy handle =>
    if statuses handle = .live then some (Function.update statuses handle .destroyed) else none

/-- The machine of handles: no step for a use that is out of order. -/
def handles : Machine (Handle → Status) (Use Handle) := ⟨stepUse⟩

/-- The statuses before any handle was created. -/
def allFresh : Handle → Status := fun _ => .fresh

/-- A log that creates a fresh handle goes on with the handle alive. -/
theorem run_create {statuses : Handle → Status} {handle : Handle} {rest : List (Use Handle)}
    (fresh : statuses handle = .fresh) :
    handles.run statuses (.create handle :: rest) =
      handles.run (Function.update statuses handle .live) rest := by
  simp [handles, stepUse, fresh]

/-- A log that uses a live handle goes on as before. -/
theorem run_touch {statuses : Handle → Status} {handle : Handle} {rest : List (Use Handle)}
    (live : statuses handle = .live) :
    handles.run statuses (.touch handle :: rest) = handles.run statuses rest := by
  simp [handles, stepUse, live]

/-- A log that destroys a live handle goes on with the handle destroyed. -/
theorem run_destroy {statuses : Handle → Status} {handle : Handle} {rest : List (Use Handle)}
    (live : statuses handle = .live) :
    handles.run statuses (.destroy handle :: rest) =
      handles.run (Function.update statuses handle .destroyed) rest := by
  simp [handles, stepUse, live]

/-- A step destroys a handle once, exactly when its status becomes destroyed. -/
theorem stepUse_destroys {statuses next : Handle → Status} {use : Use Handle}
    (stepped : handles.step statuses use = some next) (handle : Handle) :
    (if statuses handle = .destroyed then 1 else 0) + [use].count (.destroy handle) =
      if next handle = .destroyed then 1 else 0 := by
  cases use with
  | create other =>
    simp only [handles, stepUse] at stepped
    split at stepped
    · rename_i fresh
      obtain rfl := Option.some.inj stepped
      by_cases same : handle = other
      · subst same
        simp [fresh]
      · simp [Function.update_of_ne same]
    · cases stepped
  | touch other =>
    simp only [handles, stepUse] at stepped
    split at stepped
    · obtain rfl := Option.some.inj stepped
      simp
    · cases stepped
  | destroy other =>
    simp only [handles, stepUse] at stepped
    split at stepped
    · rename_i live
      obtain rfl := Option.some.inj stepped
      by_cases same : handle = other
      · subst same
        simp [live]
      · simp [Function.update_of_ne same, Ne.symm same]
    · cases stepped

/-- A run destroys a handle once when it leaves it destroyed, and never otherwise. -/
theorem run_destroys {start last : Handle → Status} {log : List (Use Handle)}
    (ran : handles.run start log = some last) (handle : Handle) :
    (if start handle = .destroyed then 1 else 0) + log.count (.destroy handle) =
      if last handle = .destroyed then 1 else 0 := by
  induction log generalizing start with
  | nil =>
    obtain rfl := Option.some.inj ran
    simp
  | cons use rest ih =>
    obtain ⟨next, stepped, tail⟩ := (Machine.run_cons_some handles).mp ran
    have first := stepUse_destroys stepped handle
    have later := ih tail
    have counts : (use :: rest).count (.destroy handle) =
        [use].count (.destroy handle) + rest.count (.destroy handle) := by
      rw [← List.singleton_append, List.count_append]
    omega

/-- One step leaves a handle fresh when it does not create it. -/
theorem stepUse_fresh {statuses next : Handle → Status} {use : Use Handle}
    (stepped : handles.step statuses use = some next) (handle : Handle) :
    next handle = .fresh ↔ statuses handle = .fresh ∧ use ≠ .create handle := by
  cases use with
  | create other =>
    simp only [handles, stepUse] at stepped
    split at stepped
    · obtain rfl := Option.some.inj stepped
      by_cases same : handle = other
      · subst same
        simp
      · simp [Function.update_of_ne same, Ne.symm same]
    · cases stepped
  | touch other =>
    simp only [handles, stepUse] at stepped
    split at stepped
    · obtain rfl := Option.some.inj stepped
      simp
    · cases stepped
  | destroy other =>
    simp only [handles, stepUse] at stepped
    split at stepped
    · rename_i live
      obtain rfl := Option.some.inj stepped
      by_cases same : handle = other
      · subst same
        simp [live]
      · simp [Function.update_of_ne same]
    · cases stepped

/-- A run leaves a handle fresh when nothing in it creates it. -/
theorem run_fresh {start last : Handle → Status} {log : List (Use Handle)}
    (ran : handles.run start log = some last) (handle : Handle) :
    last handle = .fresh ↔ start handle = .fresh ∧ .create handle ∉ log := by
  induction log generalizing start with
  | nil =>
    obtain rfl := Option.some.inj ran
    simp
  | cons use rest ih =>
    obtain ⟨next, stepped, tail⟩ := (Machine.run_cons_some handles).mp ran
    rw [ih tail, stepUse_fresh stepped, List.mem_cons, not_or, and_assoc, ne_comm]

/-- From a start without handles, what was created and is not live any more was destroyed once. -/
theorem destroyed_once {last : Handle → Status} {log : List (Use Handle)}
    (ran : handles.run allFresh log = some last) (handle : Handle) :
    log.count (.destroy handle) =
      if .create handle ∈ log ∧ last handle ≠ .live then 1 else 0 := by
  have count := run_destroys ran handle
  have created := run_fresh ran handle
  simp only [allFresh, reduceCtorEq, if_false, true_and, Nat.zero_add] at count created
  rw [count]
  cases status : last handle with
  | fresh => simp [created.mp status]
  | live => simp
  | destroyed =>
    have inside : .create handle ∈ log := by
      by_contra absent
      rw [created.mpr absent] at status
      cases status
    simp [inside]

/-- After the log exactly the handles of the one kind live, and those of the other are fresh. -/
def Leaves (start : Handle → Status) (log : List (Use Handle)) (alive fresh : Handle → Prop) :
    Prop :=
  ∃ last, handles.run start log = some last ∧ (∀ handle, last handle = .live ↔ alive handle) ∧
    ∀ handle, fresh handle → last handle = .fresh

variable {start : Handle → Status} {log : List (Use Handle)} {alive fresh : Handle → Prop}

/-- A log may be followed by another. -/
theorem Leaves.append {others : List (Use Handle)} {later unused : Handle → Prop}
    (first : Leaves start log alive fresh)
    (second : ∀ middle, (∀ handle, middle handle = .live ↔ alive handle) →
      (∀ handle, fresh handle → middle handle = .fresh) → Leaves middle others later unused) :
    Leaves start (log ++ others) later unused := by
  obtain ⟨middle, ran, lives, untouched⟩ := first
  obtain ⟨last, rest, lasts⟩ := second middle lives untouched
  refine ⟨last, ?_, lasts⟩
  rw [Machine.run_append, ran]
  exact rest

/-- A log may be followed by the creation of a fresh handle. -/
theorem Leaves.create (leaves : Leaves start log alive fresh) {handle : Handle}
    (new : fresh handle) :
    Leaves start (log ++ [.create handle]) (fun other => alive other ∨ other = handle)
      (fun other => fresh other ∧ other ≠ handle) := by
  refine leaves.append fun middle lives untouched =>
    ⟨_, run_create (untouched handle new), ?_, ?_⟩
  · intro other
    by_cases same : other = handle
    · simp [same]
    · simp [lives, same]
  · rintro other ⟨unused, apart⟩
    rw [Function.update_of_ne apart]
    exact untouched other unused

/-- A log may be followed by the use of a live handle. -/
theorem Leaves.touch (leaves : Leaves start log alive fresh) {handle : Handle}
    (living : alive handle) : Leaves start (log ++ [.touch handle]) alive fresh :=
  leaves.append fun middle lives untouched =>
    ⟨middle, run_touch ((lives handle).mpr living), lives, untouched⟩

/-- A log may be followed by the destruction of a live handle. -/
theorem Leaves.destroy (leaves : Leaves start log alive fresh) {handle : Handle}
    (living : alive handle) :
    Leaves start (log ++ [.destroy handle]) (fun other => alive other ∧ other ≠ handle)
      (fun other => fresh other ∧ other ≠ handle) := by
  refine leaves.append fun middle lives untouched =>
    ⟨_, run_destroy ((lives handle).mpr living), ?_, ?_⟩
  · intro other
    by_cases same : other = handle
    · simp [same]
    · simp [lives, same]
  · rintro other ⟨unused, apart⟩
    rw [Function.update_of_ne apart]
    exact untouched other unused

/-- What lives may be said in other words, and less of what is fresh. -/
theorem Leaves.weaken {later unused : Handle → Prop} (leaves : Leaves start log alive fresh)
    (same : ∀ handle, alive handle ↔ later handle) (less : ∀ handle, unused handle → fresh handle) :
    Leaves start log later unused := by
  obtain ⟨last, ran, lives, untouched⟩ := leaves
  exact ⟨last, ran, fun handle => (lives handle).trans (same handle),
    fun handle new => untouched handle (less handle new)⟩

end PhpDuckdb.Ownership
