import Mathlib.Data.List.Forall2

/-!
# Results and errors

Rules that take a successful `Except` computation apart into the successes of its parts.
-/

namespace PhpDuckdb.Outcome

universe u v w

variable {ε : Type u} {α : Type v} {β : Type v}

/-- A sequence succeeds when both parts do. -/
theorem bind_eq_ok {first : Except ε α} {second : α → Except ε β} {result : β} :
    (first >>= second) = .ok result ↔ ∃ value, first = .ok value ∧ second value = .ok result := by
  cases first with
  | error failure => simp [bind, Except.bind]
  | ok value => simp [bind, Except.bind]

/-- A mapped outcome succeeds exactly when the outcome does, with the mapped value. -/
theorem map_eq_ok {first : Except ε α} {f : α → β} {result : β} :
    first.map f = .ok result ↔ ∃ value, first = .ok value ∧ f value = result := by
  cases first with
  | error failure => simp [Except.map]
  | ok value => simp [Except.map]

/-- A successful pair has its two parts. -/
theorem ok_pair {γ : Type w} {first third : α} {second fourth : γ}
    (same : (Except.ok (first, second) : Except ε (α × γ)) = .ok (third, fourth)) :
    first = third ∧ second = fourth := by
  simpa using same

/-- A guarded failure succeeds only when its guard does not hold. -/
theorem ite_error_eq_ok {guard : Prop} [Decidable guard] {failure : ε} {rest : Except ε α}
    {result : α} :
    (if guard then .error failure else rest) = .ok result ↔ ¬guard ∧ rest = .ok result := by
  split <;> simp_all

end PhpDuckdb.Outcome
