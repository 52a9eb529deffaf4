import Mathlib.Algebra.Order.Ring.Int

/-!
# Loops over windows

The loop `for (offset = 0; offset < size; offset += step)` in machine words, whose body may end it
early, and the rule that carries an invariant over what lies before the offset through it.
-/

namespace PhpDuckdb.Windows

universe u v

variable {ε : Type u} {σ : Type v}

/-- The loop from an offset on; nothing when the fuel runs out. -/
def windows (size step : UInt64) (body : UInt64 → σ → Except ε σ) :
    Nat → UInt64 → σ → Option (Except ε σ)
  | 0, _, _ => none
  | fuel + 1, offset, state =>
    if offset < size then
      match body offset state with
      | .error stopped => some (.error stopped)
      | .ok next => windows size step body fuel (offset + step) next
    else some (.ok state)

/-- `std::min(step, size - offset)`: the length of the window at an offset. -/
def windowLength (size step offset : UInt64) : UInt64 :=
  if size - offset < step then size - offset else step

/-- A window ends at the next offset, or at the end. -/
theorem windowLength_toNat {size step offset : UInt64} (inside : offset < size) :
    (windowLength size step offset).toNat = min step.toNat (size.toNat - offset.toNat) := by
  have before : offset.toNat < size.toNat := UInt64.lt_iff_toNat_lt.mp inside
  have left : (size - offset).toNat = size.toNat - offset.toNat :=
    UInt64.toNat_sub_of_le size offset (UInt64.le_iff_toNat_le.mpr (by omega))
  rw [windowLength]
  split
  · rename_i shorter
    have less := UInt64.lt_iff_toNat_lt.mp shorter
    rw [left] at less ⊢
    omega
  · rename_i longer
    have more := UInt64.le_iff_toNat_le.mp (UInt64.not_lt.mp longer)
    rw [left] at more
    omega

/-- Unless the loop reads past its end at once, the next offset is the sum: it does not wrap. -/
theorem next_toNat {size step offset : UInt64} (small : size.toNat ≤ 2 ^ 63)
    (inside : offset < size) (first : offset = 0 ∨ step.toNat < size.toNat) :
    (offset + step).toNat = offset.toNat + step.toNat := by
  have before : offset.toNat < size.toNat := UInt64.lt_iff_toNat_lt.mp inside
  have bound := step.toNat_lt
  rw [UInt64.toNat_add]
  apply Nat.mod_eq_of_lt
  cases first with
  | inl start =>
    rw [start, UInt64.toNat_zero]
    omega
  | inr shorter => omega

/-- What holds of an outcome: `stops` of an early end, `kept` of any other. -/
def Ends (stops : ε → Prop) (kept : σ → Prop) : Except ε σ → Prop
  | .error stopped => stops stopped
  | .ok state => kept state

/-- What a loop over windows keeps: when the body carries `inv`, a property of what lies before the
offset, over its window, or stops where `stops` holds, so does the loop, within any fuel that
exceeds the size. -/
theorem windows_rule {size step : UInt64} (small : size.toNat ≤ 2 ^ 63) (positive : 0 < step)
    (body : UInt64 → σ → Except ε σ) (inv : Nat → σ → Prop) (stops : ε → Prop)
    (kept : ∀ offset state, offset < size → inv offset.toNat state →
      Ends stops (inv (offset.toNat + (windowLength size step offset).toNat)) (body offset state))
    (start : σ) (initial : inv 0 start) {fuel : Nat} (enough : size.toNat < fuel) :
    ∃ result, windows size step body fuel 0 start = some result ∧
      Ends stops (inv size.toNat) result := by
  have positiveNat : 0 < step.toNat := UInt64.lt_iff_toNat_lt.mp positive
  -- From an offset inside or just past the end, with the invariant for the part before it.
  have later : ∀ (fuel : Nat) (offset : UInt64) (state : σ),
      size.toNat - offset.toNat < fuel → (offset = 0 ∨ step.toNat < size.toNat) →
      inv (min offset.toNat size.toNat) state →
      ∃ result, windows size step body fuel offset state = some result ∧
        Ends stops (inv size.toNat) result := by
    intro fuel
    induction fuel with
    | zero => exact fun _ _ less => absurd less (Nat.not_lt_zero _)
    | succ fuel ih =>
      intro offset state less first holds
      rw [windows]
      by_cases inside : offset < size
      · have before : offset.toNat < size.toNat := UInt64.lt_iff_toNat_lt.mp inside
        have sum := next_toNat small inside first
        have next := kept offset state inside (by rwa [Nat.min_eq_left (by omega)] at holds)
        rw [if_pos inside]
        generalize body offset state = outcome at next ⊢
        cases outcome with
        | error stopped => exact ⟨_, rfl, next⟩
        | ok after =>
          by_cases more : step.toNat < size.toNat
          · refine ih (offset + step) after (by omega) (.inr more) ?_
            rw [Ends, windowLength_toNat inside] at next
            rwa [sum, show min (offset.toNat + step.toNat) size.toNat =
              offset.toNat + min step.toNat (size.toNat - offset.toNat) by omega]
          · -- The first window was the last.
            have start : offset = 0 := first.resolve_right more
            have zero : offset.toNat = 0 := by rw [start, UInt64.toNat_zero]
            rw [Ends, windowLength_toNat inside, zero, Nat.sub_zero, Nat.zero_add,
              Nat.min_eq_right (by omega)] at next
            have fuelLeft : ∃ rest, fuel = rest + 1 := ⟨fuel - 1, by omega⟩
            obtain ⟨rest, rfl⟩ := fuelLeft
            refine ⟨.ok after, ?_, next⟩
            dsimp only
            rw [windows, if_neg]
            intro again
            have further := UInt64.lt_iff_toNat_lt.mp again
            omega
      · have past : size.toNat ≤ offset.toNat := UInt64.le_iff_toNat_le.mp (UInt64.not_lt.mp inside)
        rw [if_neg inside]
        exact ⟨_, rfl, by rwa [Nat.min_eq_right past] at holds⟩
  apply later fuel 0 start (by rw [UInt64.toNat_zero]; omega) (.inl rfl)
  rwa [UInt64.toNat_zero, Nat.zero_min]

end PhpDuckdb.Windows
