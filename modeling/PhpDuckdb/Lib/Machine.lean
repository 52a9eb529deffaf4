import Mathlib.Logic.Function.Basic
import Mathlib.Order.Basic

/-!
# Machines and their runs

A machine is a partial step function over explicit events: a state either refuses an event or
moves to one successor, so a list of events determines a run. Interleavings of several actors
are event lists whose events name the actor. The rules below lift what one step preserves to
what a whole run preserves; a property of every reachable state follows from its step lemma
alone.
-/

namespace PhpDuckdb

universe u v w

/-- A partial step function over explicit events. -/
structure Machine (State : Type u) (Event : Type v) where
  /-- The successor of a state under an event, or `none` when the event cannot happen. -/
  step : State → Event → Option State

namespace Machine

variable {State : Type u} {Event : Type v} (machine : Machine State Event)

/-- Take the events in order; a refused event refuses the whole list. -/
def run : State → List Event → Option State
  | state, [] => some state
  | state, event :: rest => (machine.step state event).bind fun next => run next rest

@[simp]
theorem run_nil (state : State) : machine.run state [] = some state := rfl

@[simp]
theorem run_cons (state : State) (event : Event) (rest : List Event) :
    machine.run state (event :: rest) =
      (machine.step state event).bind fun next => machine.run next rest := rfl

/-- A run over a nonempty list is its first step followed by the run of the others. -/
theorem run_cons_some {state last : State} {event : Event} {rest : List Event} :
    machine.run state (event :: rest) = some last ↔
      ∃ next, machine.step state event = some next ∧ machine.run next rest = some last := by
  simp [Option.bind_eq_some_iff]

/-- A run over an append is the run of the first part followed by that of the second. -/
theorem run_append (state : State) (first second : List Event) :
    machine.run state (first ++ second) =
      (machine.run state first).bind fun middle => machine.run middle second := by
  induction first generalizing state with
  | nil => rfl
  | cons event rest ih =>
    simp only [List.cons_append, run_cons, Option.bind_assoc]
    congr 1
    funext next
    exact ih next

/-- The last event of a run is a step from a state that the earlier events reach. -/
theorem run_concat_some {state last : State} {earlier : List Event} {event : Event} :
    machine.run state (earlier ++ [event]) = some last ↔
      ∃ middle, machine.run state earlier = some middle ∧
        machine.step middle event = some last := by
  rw [run_append]
  simp [Option.bind_eq_some_iff]

/-- Some event list leads from one state to the other. -/
def Reaches (start last : State) : Prop := ∃ events, machine.run start events = some last

/-- Every state reaches itself, by the run without events. -/
theorem Reaches.refl (state : State) : machine.Reaches state state := ⟨[], rfl⟩

variable {machine}

/-- What is reached from a reachable state is reachable. -/
theorem Reaches.trans {first second third : State} (early : machine.Reaches first second)
    (late : machine.Reaches second third) : machine.Reaches first third := by
  obtain ⟨events, ran⟩ := early
  obtain ⟨others, later⟩ := late
  exact ⟨events ++ others, by rw [run_append, ran]; exact later⟩

/-- The state after one step is reached. -/
theorem Reaches.step {state next : State} {event : Event}
    (stepped : machine.step state event = some next) : machine.Reaches state next :=
  ⟨[event], by simp [stepped]⟩

/-- What every step preserves, every run preserves. -/
theorem run_preserves {inv : State → Prop}
    (keeps : ∀ state event next, inv state → machine.step state event = some next → inv next)
    {start last : State} {events : List Event} (holds : inv start)
    (ran : machine.run start events = some last) : inv last := by
  induction events generalizing start with
  | nil =>
    obtain rfl := Option.some.inj ran
    exact holds
  | cons event rest ih =>
    obtain ⟨next, stepped, tail⟩ := machine.run_cons_some.mp ran
    exact ih (keeps start event next holds stepped) tail

/-- An invariant of the steps holds in every state reached from one where it holds. -/
theorem Reaches.preserves {inv : State → Prop}
    (keeps : ∀ state event next, inv state → machine.step state event = some next → inv next)
    {start last : State} (reached : machine.Reaches start last) (holds : inv start) : inv last := by
  obtain ⟨events, ran⟩ := reached
  exact run_preserves keeps holds ran

/-- A reflexive and transitive relation that every step from an invariant state respects
relates the ends of every run. -/
theorem Reaches.relates {inv : State → Prop} {rel : State → State → Prop}
    (keeps : ∀ state event next, inv state → machine.step state event = some next → inv next)
    (refl : ∀ state, rel state state)
    (trans : ∀ first second third, rel first second → rel second third → rel first third)
    (steps : ∀ state event next, inv state → machine.step state event = some next →
      rel state next)
    {start last : State} (reached : machine.Reaches start last) (holds : inv start) :
    rel start last := by
  obtain ⟨events, ran⟩ := reached
  induction events generalizing start with
  | nil =>
    obtain rfl := Option.some.inj ran
    exact refl start
  | cons event rest ih =>
    obtain ⟨next, stepped, tail⟩ := machine.run_cons_some.mp ran
    exact trans _ _ _ (steps start event next holds stepped)
      (ih (keeps start event next holds stepped) tail)

/-- Every step of the run meets a condition on the state before it and its event. -/
def Along (machine : Machine State Event) (meets : State → Event → Prop) :
    State → List Event → Prop
  | _, [] => True
  | state, event :: rest =>
    meets state event ∧ ∀ next, machine.step state event = some next → Along machine meets next rest

/-- What every step that meets the condition preserves, every run along it preserves. -/
theorem run_preserves_along {meets : State → Event → Prop} {inv : State → Prop}
    (keeps : ∀ state event next, inv state → meets state event →
      machine.step state event = some next → inv next)
    {start last : State} {events : List Event} (holds : inv start)
    (along : machine.Along meets start events)
    (ran : machine.run start events = some last) : inv last := by
  induction events generalizing start with
  | nil =>
    obtain rfl := Option.some.inj ran
    exact holds
  | cons event rest ih =>
    obtain ⟨next, stepped, tail⟩ := machine.run_cons_some.mp ran
    exact ih (keeps start event next holds along.1 stepped) (along.2 next stepped) tail

/-- A condition on events alone is met along a run whose events meet it. -/
theorem along_of_forall {permitted : Event → Prop} {events : List Event}
    (all : ∀ event ∈ events, permitted event) (start : State) :
    machine.Along (fun _ event => permitted event) start events := by
  induction events generalizing start with
  | nil => trivial
  | cons event rest ih =>
    exact ⟨all event List.mem_cons_self, fun next _ =>
      ih (fun other inside => all other (List.mem_cons_of_mem _ inside)) next⟩

/-- While permitted events can lower a rank short of the goal, they can reach the goal. -/
theorem exists_run_of_rank (permitted : Event → Prop) (inv goal : State → Prop)
    (rank : State → Nat)
    (progress : ∀ state, inv state → goal state ∨ ∃ event next, permitted event ∧
      machine.step state event = some next ∧ inv next ∧ rank next < rank state)
    {start : State} (holds : inv start) :
    ∃ events last, (∀ event ∈ events, permitted event) ∧ machine.run start events = some last ∧
      inv last ∧ goal last := by
  induction measured : rank start using Nat.strongRecOn generalizing start with
  | ind bound ih =>
    cases progress start holds with
    | inl reached => exact ⟨[], start, by simp, rfl, holds, reached⟩
    | inr further =>
      obtain ⟨event, next, allowed, stepped, kept, lower⟩ := further
      obtain ⟨events, last, all, ran, holds, reached⟩ := ih (rank next) (measured ▸ lower) kept rfl
      refine ⟨event :: events, last, ?_, ?_, holds, reached⟩
      · exact List.forall_mem_cons.mpr ⟨allowed, all⟩
      · exact machine.run_cons_some.mpr ⟨next, stepped, ran⟩

/-- Check a condition along a run. -/
def checks (machine : Machine State Event) (meets : State → Event → Prop)
    [∀ state event, Decidable (meets state event)] : State → List Event → Bool
  | _, [] => true
  | state, event :: rest =>
    decide (meets state event) &&
      (machine.step state event).all fun next => checks machine meets next rest

/-- A run along which a condition is checked meets it. -/
theorem along_of_checks {meets : State → Event → Prop}
    [∀ state event, Decidable (meets state event)] {events : List Event} :
    ∀ {start : State}, machine.checks meets start events = true →
      machine.Along meets start events := by
  induction events with
  | nil => exact fun _ => trivial
  | cons event rest ih =>
    intro start checked
    obtain ⟨here, later⟩ := Bool.and_eq_true_iff.mp checked
    refine ⟨of_decide_eq_true here, fun next stepped => ih ?_⟩
    rwa [stepped, Option.all_some] at later

end Machine

end PhpDuckdb
