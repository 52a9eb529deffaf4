import Mathlib.Data.List.Basic

/-!
# Computations in lockstep

A computation threads a state and may fail. `Ensures` relates the states before and after each of
its successes; `Agree` compares two computations that both succeed from related states. Both have
a rule for every way to build a computation, so a property of a program follows its text.
-/

namespace PhpDuckdb.Lockstep

universe u v

variable {σ : Type u} {ε : Type v} {α β : Type u}

/-! ## One computation -/

/-- Every success of a computation has an effect on the state. -/
def Ensures (program : StateT σ (Except ε) α) (effect : σ → α → σ → Prop) : Prop :=
  ∀ before result after, program before = .ok (result, after) →
    effect before result after

/-- A success of a sequence is a success of its first part and one of the rest. -/
theorem bind_ok {first : StateT σ (Except ε) α} {second : α → StateT σ (Except ε) β}
    {before after : σ} {result : β} (run : (first >>= second) before = .ok (result, after)) :
    ∃ value middle, first before = .ok (value, middle) ∧
      second value middle = .ok (result, after) := by
  change (first before >>= fun pair => second pair.1 pair.2) = .ok (result, after) at run
  cases step : first before with
  | error failure => simp [step, bind, Except.bind] at run
  | ok pair => exact ⟨pair.1, pair.2, rfl, by simpa [step, bind, Except.bind] using run⟩

/-- Returning a value leaves the state as it was. -/
theorem ensures_pure (value : α) :
    Ensures (pure value : StateT σ (Except ε) α)
      fun before result after => result = value ∧ after = before := by
  intro before result after run
  obtain ⟨rfl, rfl⟩ := Prod.mk.inj (Except.ok.inj run)
  exact ⟨rfl, rfl⟩

/-- A program ensures whatever its effect implies. -/
theorem Ensures.weaken {program : StateT σ (Except ε) α} {one two : σ → α → σ → Prop}
    (ensures : Ensures program one)
    (implies : ∀ before result after, one before result after → two before result after) :
    Ensures program two :=
  fun before result after run => implies before result after (ensures before result after run)

/-- A computation that always fails has any effect. -/
theorem ensures_fail (failure : ε) (effect : σ → α → σ → Prop) :
    Ensures (fun _ => .error failure : StateT σ (Except ε) α) effect := by
  intro before result after run
  simp at run

/-! ## Two computations -/

/-- Successes of two computations from related states have related results and end in related
states. -/
def Agree (same : σ → σ → Prop) (first second : StateT σ (Except ε) α)
    (related : α → α → Prop) : Prop :=
  ∀ before other result twin after later, same before other →
    first before = .ok (result, after) → second other = .ok (twin, later) →
      related result twin ∧ same after later

variable {same : σ → σ → Prop}

/-- Two programs that return related values agree. -/
theorem agree_pure {related : α → α → Prop} {value twin : α} (these : related value twin) :
    Agree same (pure value : StateT σ (Except ε) α) (pure twin) related := by
  intro before other result second after later states one two
  obtain ⟨rfl, rfl⟩ := Prod.mk.inj (Except.ok.inj one)
  obtain ⟨rfl, rfl⟩ := Prod.mk.inj (Except.ok.inj two)
  exact ⟨these, states⟩

/-- Sequences agree when their first parts do and what follows related values does. -/
theorem Agree.bind {first twin : StateT σ (Except ε) α} {second other : α → StateT σ (Except ε) β}
    {one : α → α → Prop} {two : β → β → Prop} (head : Agree same first twin one)
    (tail : ∀ value copy, one value copy → Agree same (second value) (other copy) two) :
    Agree same (first >>= second) (twin >>= other) two := by
  intro before start result copy after later states run also
  obtain ⟨value, middle, begun, rest⟩ := bind_ok run
  obtain ⟨image, between, opened, more⟩ := bind_ok also
  obtain ⟨values, middles⟩ := head _ _ _ _ _ _ states begun opened
  exact tail value image values _ _ _ _ _ _ middles rest more

/-- A computation that fails agrees with any other. -/
theorem agree_fail (failure : ε) (other : StateT σ (Except ε) α) (related : α → α → Prop) :
    Agree same (fun _ => .error failure) other related := by
  intro before start result twin after later states run
  simp at run

/-- Any computation agrees with one that fails. -/
theorem agree_fail_right (first : StateT σ (Except ε) α) (failure : ε)
    (related : α → α → Prop) : Agree same first (fun _ => .error failure) related := by
  intro before start result twin after later states run also
  simp at also

/-! ## Failing together -/

/-- Two computations from related states fail alike, or succeed with related results in related
states. -/
def Together (same : σ → σ → Prop) (first second : StateT σ (Except ε) α)
    (related : α → α → Prop) : Prop :=
  ∀ before other, same before other →
    (∃ failure, first before = .error failure ∧ second other = .error failure) ∨
    ∃ result after twin later, first before = .ok (result, after) ∧
      second other = .ok (twin, later) ∧ related result twin ∧ same after later

/-- Two programs that return related values run together. -/
theorem together_pure {related : α → α → Prop} {value twin : α} (these : related value twin) :
    Together same (pure value : StateT σ (Except ε) α) (pure twin) related :=
  fun before other states => .inr ⟨value, before, twin, other, rfl, rfl, these, states⟩

/-- Two programs that fail with the same error run together. -/
theorem together_fail (failure : ε) (related : α → α → Prop) :
    Together same (fun _ => .error failure) (fun _ => .error failure) related :=
  fun _ _ _ => .inl ⟨failure, rfl, rfl⟩

/-- Two sequences go together when their parts do. -/
theorem Together.bind {first twin : StateT σ (Except ε) α}
    {second other : α → StateT σ (Except ε) β} {one : α → α → Prop} {two : β → β → Prop}
    (head : Together same first twin one)
    (tail : ∀ value copy, one value copy → Together same (second value) (other copy) two) :
    Together same (first >>= second) (twin >>= other) two := by
  intro before start states
  cases head before start states with
  | inl failed =>
    obtain ⟨failure, run, also⟩ := failed
    refine .inl ⟨failure, ?_, ?_⟩
    · show (first before >>= fun pair => second pair.1 pair.2) = _
      rw [run]
      rfl
    · show (twin start >>= fun pair => other pair.1 pair.2) = _
      rw [also]
      rfl
  | inr succeeded =>
    obtain ⟨value, middle, copy, between, run, also, these, middles⟩ := succeeded
    have further := tail value copy these middle between middles
    have one : (first >>= second) before = second value middle := by
      show (first before >>= fun pair => second pair.1 pair.2) = _
      rw [run]
      rfl
    have two : (twin >>= other) start = other copy between := by
      show (twin start >>= fun pair => other pair.1 pair.2) = _
      rw [also]
      rfl
    rwa [one, two]

end PhpDuckdb.Lockstep
