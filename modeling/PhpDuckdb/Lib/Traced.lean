import Mathlib.Data.List.Basic

/-!
# Computations with a trace

A computation that gives a value or stops, and in any case leaves a trace of what it did. What
holds of the result and what holds of the trace are proved together, piece by piece; the result
alone is that of the computation without its trace.
-/

namespace PhpDuckdb

universe u v w

/-- A result and what was noted on the way to it. -/
structure Traced (ε : Type u) (τ : Type v) (α : Type w) where
  /-- A value, or why there is none. -/
  result : Except ε α
  /-- The notes in order. -/
  trace : List τ

namespace Traced

variable {ε τ : Type u} {α β : Type v}

instance : Monad (Traced ε τ) where
  pure value := ⟨.ok value, []⟩
  bind run next :=
    match run.result with
    | .error stop => ⟨.error stop, run.trace⟩
    | .ok value => ⟨(next value).result, run.trace ++ (next value).trace⟩

/-- A result that leaves no note. -/
def lift (result : Except ε α) : Traced ε τ α := ⟨result, []⟩

/-- Add a note to the trace. -/
def note (noted : τ) : Traced ε τ PUnit := ⟨.ok ⟨⟩, [noted]⟩

/-- A value that is given is the result. -/
@[simp]
theorem result_pure (value : α) : (pure value : Traced ε τ α).result = .ok value := rfl

/-- The result of a lifted result is that result. -/
@[simp]
theorem result_lift (result : Except ε α) : (lift result : Traced ε τ α).result = result := rfl

/-- The result of a sequence is that of the results. -/
@[simp]
theorem result_bind (run : Traced ε τ α) (next : α → Traced ε τ β) :
    (run >>= next).result = run.result.bind fun value => (next value).result := by
  show (match run.result with
    | .error stop => Traced.mk (.error stop) run.trace
    | .ok value => ⟨(next value).result, run.trace ++ (next value).trace⟩).result = _
  cases run.result <;> rfl

/-- A computation does not stop fatally, and every note is good. -/
def Keeps (fatal : ε → Prop) (good : τ → Prop) (run : Traced ε τ α) : Prop :=
  (∀ stop, run.result = .error stop → ¬fatal stop) ∧ ∀ noted ∈ run.trace, good noted

variable {fatal : ε → Prop} {good : τ → Prop}

/-- A value that is given notes nothing. -/
theorem keeps_pure (value : α) : Keeps fatal good (pure value : Traced ε τ α) := ⟨nofun, nofun⟩

/-- Lifting a result that stops harmlessly notes nothing. -/
theorem keeps_lift {result : Except ε α} (harmless : ∀ stop, result = .error stop → ¬fatal stop) :
    Keeps fatal good (lift result : Traced ε τ α) := ⟨harmless, nofun⟩

/-- A note that is good keeps all notes good. -/
theorem keeps_note {noted : τ} (fine : good noted) :
    Keeps fatal good (note noted : Traced ε τ PUnit) := by
  refine ⟨nofun, ?_⟩
  intro other found
  exact List.mem_singleton.mp found ▸ fine

/-- Computations in sequence; the second may rely on the first's value. -/
theorem keeps_bind {run : Traced ε τ α} {next : α → Traced ε τ β} (one : Keeps fatal good run)
    (two : ∀ value, run.result = .ok value → Keeps fatal good (next value)) :
    Keeps fatal good (run >>= next) := by
  show Keeps fatal good (match run.result with
    | .error stop => Traced.mk (.error stop) run.trace
    | .ok value => ⟨(next value).result, run.trace ++ (next value).trace⟩)
  cases ran : run.result with
  | error stop =>
    refine ⟨?_, one.2⟩
    intro other stopped
    obtain rfl := Except.error.inj stopped
    exact one.1 stop ran
  | ok value =>
    obtain ⟨harmless, noted⟩ := two value ran
    refine ⟨harmless, ?_⟩
    intro other found
    cases List.mem_append.mp found with
    | inl before => exact one.2 other before
    | inr after => exact noted other after

end Traced

end PhpDuckdb
