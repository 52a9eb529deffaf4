import PhpDuckdb.Lib.Ownership

/-!
# Programs that allocate handles

Handles get numbers in the order of their creation. `Triple held program left` says what a program
does to the handles that it is given: afterwards exactly those of `left` live, and every other one
that it was given or made was destroyed once. A program that is given nothing may run next to any
handles, so recursion needs no account of what its callers hold.
-/

namespace PhpDuckdb.Allocation

open Ownership

/-- How many handles were made, and what was done with them. -/
structure Heap where
  /-- The number of the next handle. -/
  next : Nat
  /-- The calls on handles. -/
  log : List (Use Nat)

/-- A heap on which nothing was made yet. -/
def Heap.empty : Heap := ⟨0, []⟩

/-- A program that makes and destroys handles. -/
abbrev Program (α : Type) := StateT Heap Id α

/-- Make a handle that was not there before. -/
def create : Program Nat := fun heap =>
  (heap.next, ⟨heap.next + 1, heap.log ++ [.create heap.next]⟩)

/-- Destroy a handle and note it in the log. -/
def destroy (handle : Nat) : Program Unit := fun heap =>
  ((), ⟨heap.next, heap.log ++ [.destroy handle]⟩)

/-- Destroy some handles, one after the other. -/
def destroyAll : List Nat → Program Unit
  | [] => pure ()
  | handle :: rest => do
    destroy handle
    destroyAll rest

/-- Of the handles made between two heaps exactly these live; older ones were not touched. -/
structure Owns (before after : Heap) (held : List Nat) : Prop where
  /-- Numbers grow. -/
  grows : before.next ≤ after.next
  /-- They were made in between. -/
  range : ∀ handle ∈ held, before.next ≤ handle ∧ handle < after.next
  /-- They are different. -/
  distinct : held.Nodup
  /-- The calls in between are in order and leave them. -/
  calls : ∃ log, after.log = before.log ++ log ∧
    ∀ start : Nat → Status, (∀ handle, before.next ≤ handle → start handle = .fresh) →
      ∃ last, handles.run start log = some last ∧
        (∀ handle, handle < before.next → last handle = start handle) ∧
        (∀ handle, before.next ≤ handle → handle < after.next →
          last handle = if handle ∈ held then .live else .destroyed) ∧
        ∀ handle, after.next ≤ handle → last handle = .fresh

/-- A program that does nothing owns nothing new. -/
theorem Owns.refl (heap : Heap) : Owns heap heap [] where
  grows := Nat.le_refl _
  range _ never := by cases never
  distinct := List.nodup_nil
  calls := by
    refine ⟨[], (List.append_nil _).symm, fun start fresh => ⟨start, rfl, fun _ _ => rfl, ?_, fresh⟩⟩
    intro handle above below
    omega

/-- What happens later is held together with what was held before. -/
theorem Owns.trans {first second third : Heap} {early late : List Nat}
    (one : Owns first second early) (two : Owns second third late) :
    Owns first third (late ++ early) where
  grows := Nat.le_trans one.grows two.grows
  range handle inside := by
    have grows := one.grows
    have further := two.grows
    rcases List.mem_append.mp inside with new | old
    · have range := two.range handle new
      omega
    · have range := one.range handle old
      omega
  distinct := by
    refine List.nodup_append.mpr ⟨two.distinct, one.distinct, fun new inside old there same => ?_⟩
    have above := (two.range new inside).1
    have below := (one.range old there).2
    omega
  calls := by
    obtain ⟨log, logged, runs⟩ := one.calls
    obtain ⟨more, later, others⟩ := two.calls
    refine ⟨log ++ more, by rw [later, logged, List.append_assoc], fun start fresh => ?_⟩
    obtain ⟨middle, ran, kept, between, beyond⟩ := runs start fresh
    obtain ⟨last, end_, stays, new, free⟩ := others middle beyond
    have grows := one.grows
    refine ⟨last, ?_, fun handle below => ?_, fun handle above below => ?_, free⟩
    · rw [Machine.run_append, ran]
      exact end_
    · rw [stays handle (by omega), kept handle below]
    · by_cases older : handle < second.next
      · rw [stays handle older, between handle above older]
        have absent : handle ∉ late := by
          intro inside
          have range := two.range handle inside
          omega
        simp [absent]
      · rw [new handle (by omega) below]
        have absent : handle ∉ early := by
          intro inside
          have range := one.range handle inside
          omega
        simp [absent]

/-- The order in which handles are listed does not matter. -/
theorem Owns.perm {before after : Heap} {held others : List Nat} (owns : Owns before after held)
    (same : held.Perm others) : Owns before after others where
  grows := owns.grows
  range handle inside := owns.range handle (same.mem_iff.mpr inside)
  distinct := same.nodup owns.distinct
  calls := by
    obtain ⟨log, logged, runs⟩ := owns.calls
    refine ⟨log, logged, fun start fresh => ?_⟩
    obtain ⟨last, ran, kept, between, beyond⟩ := runs start fresh
    refine ⟨last, ran, kept, fun handle above below => ?_, beyond⟩
    rw [between handle above below]
    simp only [same.mem_iff]

/-- A handle that is made is held. -/
theorem Owns.create {before after : Heap} {held : List Nat} (owns : Owns before after held) :
    Owns before ⟨after.next + 1, after.log ++ [.create after.next]⟩ (after.next :: held) := by
  have made : Owns after ⟨after.next + 1, after.log ++ [.create after.next]⟩ [after.next] :=
    { grows := Nat.le_succ _
      range := by simp
      distinct := by simp
      calls := by
        refine ⟨_, rfl, fun start fresh => ⟨_, run_create (fresh _ (Nat.le_refl _)), ?_, ?_, ?_⟩⟩
        · intro handle below
          exact Function.update_of_ne (by omega) _ _
        · intro handle above below
          dsimp only at below
          obtain rfl : handle = after.next := by omega
          simp
        · intro handle above
          dsimp only at above
          rw [Function.update_of_ne (by omega)]
          exact fresh handle (by omega) }
  exact owns.trans made

/-- A handle that is held may be destroyed. -/
theorem Owns.destroy {before after : Heap} {handle : Nat} {held : List Nat}
    (owns : Owns before after (handle :: held)) :
    Owns before ⟨after.next, after.log ++ [.destroy handle]⟩ held where
  grows := owns.grows
  range other inside := owns.range other (List.mem_cons_of_mem _ inside)
  distinct := (List.nodup_cons.mp owns.distinct).2
  calls := by
    obtain ⟨log, logged, runs⟩ := owns.calls
    refine ⟨log ++ [.destroy handle], by rw [logged, List.append_assoc], fun start fresh => ?_⟩
    obtain ⟨last, ran, kept, between, beyond⟩ := runs start fresh
    obtain ⟨above, below⟩ := owns.range handle List.mem_cons_self
    have live : last handle = .live := by
      rw [between handle above below]
      simp
    refine ⟨Function.update last handle .destroyed, ?_, ?_, ?_, ?_⟩
    · rw [Machine.run_append, ran]
      exact run_destroy live
    · intro other older
      rw [Function.update_of_ne (by omega)]
      exact kept other older
    · intro other further nearer
      by_cases same : other = handle
      · subst same
        rw [Function.update_self, if_neg (List.nodup_cons.mp owns.distinct).1]
      · rw [Function.update_of_ne same, between other further nearer]
        simp [same]
    · intro other new
      dsimp only at new
      rw [Function.update_of_ne (by omega)]
      exact beyond other new

/-! ## Programs -/

section Programs

variable {α β : Type}

/-- The program is given some handles and leaves others. -/
def Triple (held : List Nat) (program : Program α) (left : α → List Nat) : Prop :=
  ∀ before middle, Owns before middle held →
    Owns before (program.run middle).2 (left (program.run middle).1)

/-- A program that returns leaves the handles that it was given. -/
theorem triple_pure {held : List Nat} {value : α} {left : α → List Nat} (leaves : left value = held) :
    Triple held (pure value) left := by
  intro before middle owns
  rw [← leaves] at owns
  exact owns

/-- A sequence is given what its first part is given. -/
theorem Triple.bind {held : List Nat} {first : Program α} {second : α → Program β}
    {between : α → List Nat} {left : β → List Nat} (one : Triple held first between)
    (two : ∀ value, Triple (between value) (second value) left) :
    Triple held (first >>= second) left :=
  fun before middle owns => two _ before _ (one before middle owns)

/-- What is given may be listed in another order. -/
theorem Triple.given {held others : List Nat} {program : Program α} {left : α → List Nat}
    (triple : Triple held program left) (same : others.Perm held) : Triple others program left :=
  fun before middle owns => triple before middle (owns.perm same)

/-- A program that is given nothing may run next to other handles. -/
theorem Triple.frame {program : Program α} {left : α → List Nat} (triple : Triple [] program left)
    (held : List Nat) : Triple held program fun value => left value ++ held :=
  fun _ middle owns => owns.trans (triple middle middle (Owns.refl middle))

/-- A creation leaves one handle more than it was given. -/
theorem triple_create (held : List Nat) : Triple held create fun handle => handle :: held :=
  fun _ _ owns => owns.create

/-- Destroying a held handle leaves the other held ones. -/
theorem triple_destroy (handle : Nat) (held : List Nat) :
    Triple (handle :: held) (destroy handle) fun _ => held :=
  fun _ _ owns => owns.destroy

/-- Destroying a list of held handles leaves the other held ones. -/
theorem triple_destroyAll : ∀ (list held : List Nat),
    Triple (list ++ held) (destroyAll list) fun _ => held
  | [], _ => triple_pure rfl
  | handle :: rest, held =>
    (triple_destroy handle (rest ++ held)).bind fun _ => triple_destroyAll rest held

/-- After a program that is given nothing, every handle that was made was destroyed once, unless
the program left it. -/
theorem Triple.destroyed_once {program : Program α} {left : α → List Nat}
    (triple : Triple [] program left) (handle : Nat) :
    (program.run Heap.empty).2.log.count (.destroy handle) =
      if handle < (program.run Heap.empty).2.next ∧ handle ∉ left (program.run Heap.empty).1 then 1
      else 0 := by
  have owns := triple Heap.empty Heap.empty (Owns.refl _)
  obtain ⟨log, logged, runs⟩ := owns.calls
  obtain ⟨last, ran, _, between, beyond⟩ := runs allFresh fun _ _ => rfl
  have counted := run_destroys ran handle
  rw [logged, show Heap.empty.log = [] from rfl, List.nil_append]
  simp only [allFresh, reduceCtorEq, if_false, Nat.zero_add] at counted
  rw [counted]
  by_cases made : handle < (program.run Heap.empty).2.next
  · rw [between handle (Nat.zero_le _) made]
    by_cases held : handle ∈ left (program.run Heap.empty).1
    · simp [held]
    · simp [held, made]
  · rw [beyond handle (by omega)]
    simp [made]

/-- What a program returns, whatever handles it makes. -/
def Returns (program : Program α) (good : α → Prop) : Prop := ∀ heap, good (program.run heap).1

/-- A returned value that is good is a good result. -/
theorem returns_pure {good : α → Prop} {value : α} (holds : good value) :
    Returns (pure value) good := fun _ => holds

/-- A sequence returns what its second part returns after the first. -/
theorem Returns.bind {first : Program α} {second : α → Program β} {middle : α → Prop}
    {good : β → Prop} (one : Returns first middle)
    (two : ∀ value, middle value → Returns (second value) good) : Returns (first >>= second) good :=
  fun heap => two _ (one heap) _

/-- A part whose result does not matter. -/
theorem Returns.after {first : Program α} {second : α → Program β} {good : β → Prop}
    (two : ∀ value, Returns (second value) good) : Returns (first >>= second) good :=
  fun _ => two _ _

end Programs

end PhpDuckdb.Allocation
