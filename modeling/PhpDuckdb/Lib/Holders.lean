import PhpDuckdb.Lib.Ownership

/-!
# The holders of a handle

A place is where a handle may be kept: a field, an entry of a table, a local variable. A handle lives
for as long as some place holds it, whether it has one holder and is moved, or is shared and goes
with the last of them.
-/

namespace PhpDuckdb.Ownership

universe u v

variable {Place : Type u} {Handle : Type v} [DecidableEq Place] [DecidableEq Handle]

/-- After the log the handles live that some place holds. -/
def Held (holds : Place → Option Handle) (log : List (Use Handle)) (fresh : Handle → Prop) : Prop :=
  Leaves allFresh log (fun handle => ∃ place, holds place = some handle) fresh

/-- No two places hold the handle. -/
def Sole (holds : Place → Option Handle) (handle : Handle) : Prop :=
  ∀ first second, holds first = some handle → holds second = some handle → first = second

variable {holds : Place → Option Handle} {log : List (Use Handle)} {fresh : Handle → Prop}
  {place source target other : Place} {handle : Handle}

omit [DecidableEq Place] in
/-- Without places that hold anything nothing lives. -/
theorem held_nil (none_held : ∀ place, holds place = none) : Held holds [] fresh := by
  refine ⟨allFresh, rfl, fun handle => ?_, fun handle _ => rfl⟩
  simp [allFresh, none_held]

omit [DecidableEq Place] in
/-- A handle that some place holds is not fresh. -/
theorem Held.not_fresh (held : Held holds log fresh) (has : holds place = some handle) :
    ¬fresh handle := by
  obtain ⟨last, _, lives, untouched⟩ := held
  intro new
  have live : last handle = .live := (lives handle).mpr ⟨place, has⟩
  rw [untouched handle new] at live
  cases live

omit [DecidableEq Handle] in
/-- What an empty place is given is held, and so is what was held before. -/
theorem exists_update_some (empty : holds place = none) (wanted : Handle) :
    (∃ there, Function.update holds place (some handle) there = some wanted) ↔
      (∃ there, holds there = some wanted) ∨ wanted = handle := by
  constructor
  · rintro ⟨there, has⟩
    by_cases same : there = place
    · subst same
      rw [Function.update_self, Option.some.injEq] at has
      exact .inr has.symm
    · rw [Function.update_of_ne same] at has
      exact .inl ⟨there, has⟩
  · rintro (⟨there, has⟩ | rfl)
    · have apart : there ≠ place := by
        rintro rfl
        rw [empty] at has
        cases has
      exact ⟨there, by rw [Function.update_of_ne apart, has]⟩
    · exact ⟨place, Function.update_self ..⟩

omit [DecidableEq Handle] in
/-- What is left when a place lets go of a handle that no other place holds. -/
theorem exists_update_none (has : holds place = some handle)
    (last : ∀ there, holds there = some handle → there = place) (wanted : Handle) :
    (∃ there, Function.update holds place none there = some wanted) ↔
      (∃ there, holds there = some wanted) ∧ wanted ≠ handle := by
  constructor
  · rintro ⟨there, kept⟩
    by_cases same : there = place
    · subst same
      rw [Function.update_self] at kept
      cases kept
    · rw [Function.update_of_ne same] at kept
      refine ⟨⟨there, kept⟩, ?_⟩
      rintro rfl
      exact same (last there kept)
  · rintro ⟨⟨there, kept⟩, apart⟩
    have elsewhere : there ≠ place := by
      rintro rfl
      rw [has, Option.some.injEq] at kept
      exact apart kept.symm
    exact ⟨there, by rw [Function.update_of_ne elsewhere, kept]⟩

/-- A fresh handle is created into an empty place. -/
theorem Held.create (held : Held holds log fresh) (empty : holds place = none)
    (new : fresh handle) :
    Held (Function.update holds place (some handle)) (log ++ [.create handle])
      fun other => fresh other ∧ other ≠ handle :=
  (Leaves.create held new).weaken (fun wanted => (exists_update_some empty wanted).symm)
    fun _ unused => unused

omit [DecidableEq Place] in
/-- A handle that some place holds may be used. -/
theorem Held.touch (held : Held holds log fresh) (has : holds place = some handle) :
    Held holds (log ++ [.touch handle]) fresh :=
  Leaves.touch held ⟨place, has⟩

/-- A handle is shared with an empty place. -/
theorem Held.share (held : Held holds log fresh) (has : holds source = some handle)
    (empty : holds target = none) : Held (Function.update holds target (some handle)) log fresh := by
  refine Leaves.weaken held (fun wanted => ?_) fun _ unused => unused
  rw [exists_update_some empty]
  constructor
  · exact .inl
  · rintro (kept | rfl)
    · exact kept
    · exact ⟨source, has⟩

/-- A place lets go of a handle that another one keeps. -/
theorem Held.drop (held : Held holds log fresh) (has : holds place = some handle)
    (apart : other ≠ place) (kept : holds other = some handle) :
    Held (Function.update holds place none) log fresh := by
  refine Leaves.weaken held (fun wanted => ?_) fun _ unused => unused
  constructor
  · rintro ⟨there, found⟩
    by_cases same : there = place
    · subst same
      rw [has, Option.some.injEq] at found
      subst found
      exact ⟨other, by rw [Function.update_of_ne apart, kept]⟩
    · exact ⟨there, by rw [Function.update_of_ne same, found]⟩
  · rintro ⟨there, found⟩
    have elsewhere : there ≠ place := by
      rintro rfl
      rw [Function.update_self] at found
      cases found
    rw [Function.update_of_ne elsewhere] at found
    exact ⟨there, found⟩

/-- A handle is moved to an empty place. -/
theorem Held.move (held : Held holds log fresh) (has : holds source = some handle)
    (empty : holds target = none) :
    Held (Function.update (Function.update holds source none) target (some handle)) log fresh := by
  have apart : source ≠ target := by
    rintro rfl
    rw [has] at empty
    cases empty
  have shared := held.share has empty
  have dropped := shared.drop ((Function.update_of_ne apart _ _).trans has) apart.symm
    (Function.update_self ..)
  rwa [Function.update_comm apart.symm] at dropped

/-- The last place that holds a handle destroys it. -/
theorem Held.release (held : Held holds log fresh) (has : holds place = some handle)
    (last : ∀ there, holds there = some handle → there = place) :
    Held (Function.update holds place none) (log ++ [.destroy handle]) fresh := by
  refine (Leaves.destroy held ⟨place, has⟩).weaken
    (fun wanted => (exists_update_none has last wanted).symm) fun unused new => ⟨new, ?_⟩
  rintro rfl
  exact held.not_fresh has new

omit [DecidableEq Place] in
/-- Fewer handles may be said to be fresh. -/
theorem Held.weaken {unused : Handle → Prop} (held : Held holds log fresh)
    (less : ∀ handle, unused handle → fresh handle) : Held holds log unused :=
  Leaves.weaken held (fun _ => Iff.rfl) less

/-! ## Sole holders -/

omit [DecidableEq Handle] in
/-- A handle that nothing holds gets its sole holder. -/
theorem Sole.create (unheld : ∀ there, holds there ≠ some handle) :
    Sole (Function.update holds place (some handle)) handle := by
  have found : ∀ there, Function.update holds place (some handle) there = some handle →
      there = place := by
    intro there has
    by_contra apart
    rw [Function.update_of_ne apart] at has
    exact unheld there has
  intro first second one two
  rw [found first one, found second two]

omit [DecidableEq Handle] in
/-- A holder for another handle does not touch the sole one. -/
theorem Sole.update_other {wanted : Handle} (sole : Sole holds wanted) (apart : wanted ≠ handle) :
    Sole (Function.update holds place (some handle)) wanted := by
  have found : ∀ there, Function.update holds place (some handle) there = some wanted →
      holds there = some wanted := by
    intro there has
    by_cases same : there = place
    · subst same
      rw [Function.update_self, Option.some.injEq] at has
      exact absurd has.symm apart
    · rwa [Function.update_of_ne same] at has
  exact fun first second one two => sole first second (found first one) (found second two)

omit [DecidableEq Handle] in
/-- What a place lets go of has fewer holders. -/
theorem Sole.update_none {wanted : Handle} (sole : Sole holds wanted) :
    Sole (Function.update holds place none) wanted := by
  have found : ∀ there, Function.update holds place none there = some wanted →
      holds there = some wanted := by
    intro there has
    by_cases same : there = place
    · subst same
      rw [Function.update_self] at has
      cases has
    · rwa [Function.update_of_ne same] at has
  exact fun first second one two => sole first second (found first one) (found second two)

omit [DecidableEq Handle] in
/-- The sole holder of a handle may move it. -/
theorem Sole.move {wanted : Handle} (sole : Sole holds wanted) (has : holds source = some handle) :
    Sole (Function.update (Function.update holds source none) target (some handle)) wanted := by
  by_cases same : wanted = handle
  · subst same
    refine Sole.create fun there found => ?_
    by_cases at_source : there = source
    · subst at_source
      rw [Function.update_self] at found
      cases found
    · rw [Function.update_of_ne at_source] at found
      exact at_source (sole there source found has)
  · exact sole.update_none.update_other same

/-! ## Results -/

/-- What the log tells of a handle that is alive or not. -/
structure Told (alive : Prop) (log : List (Use Handle)) (handle : Handle) : Prop where
  /-- A handle that is alive was not destroyed. -/
  kept : alive → .destroy handle ∉ log
  /-- A handle that was created and is not alive any more was destroyed once. -/
  once : .create handle ∈ log → ¬alive → log.count (.destroy handle) = 1
  /-- No handle is destroyed twice. -/
  twice : log.count (.destroy handle) ≤ 1

variable {alive : Handle → Prop}

/-- The log tells of each handle how often it was destroyed. -/
theorem Leaves.told (leaves : Leaves allFresh log alive fresh) (handle : Handle) :
    Told (alive handle) log handle := by
  obtain ⟨last, ran, lives, _⟩ := leaves
  have count := destroyed_once ran handle
  refine ⟨fun living => ?_, fun created gone => ?_, ?_⟩
  · have live : last handle = .live := (lives handle).mpr living
    rw [← List.count_eq_zero, count, if_neg (by simp [live])]
  · have dead : last handle ≠ .live := fun live => gone ((lives handle).mp live)
    rw [count, if_pos ⟨created, dead⟩]
  · rw [count]
    split <;> omega

/-- A handle that a log created is not fresh after it. -/
theorem Leaves.not_fresh (leaves : Leaves allFresh log alive fresh)
    (created : .create handle ∈ log) : ¬fresh handle := by
  obtain ⟨last, ran, _, untouched⟩ := leaves
  intro new
  exact ((run_fresh ran handle).mp (untouched handle new)).2 created

/-- A destroyed handle is neither used nor destroyed again. -/
theorem run_destroyed {start last : Handle → Status} (destroyed : start handle = .destroyed)
    (ran : handles.run start log = some last) : .touch handle ∉ log ∧ .destroy handle ∉ log := by
  induction log generalizing start with
  | nil => simp
  | cons use rest ih =>
    obtain ⟨next, stepped, tail⟩ := (Machine.run_cons_some handles).mp ran
    have steady : next handle = .destroyed ∧ use ≠ .touch handle ∧ use ≠ .destroy handle := by
      cases use with
      | create other =>
        simp only [handles, stepUse] at stepped
        split at stepped
        · rename_i new
          obtain rfl := Option.some.inj stepped
          have apart : handle ≠ other := by
            rintro rfl
            rw [destroyed] at new
            cases new
          simp [Function.update_of_ne apart, destroyed]
        · cases stepped
      | touch other =>
        simp only [handles, stepUse] at stepped
        split at stepped
        · rename_i live
          obtain rfl := Option.some.inj stepped
          refine ⟨destroyed, ?_, by simp⟩
          intro same
          injection same with same
          subst same
          rw [destroyed] at live
          cases live
        · cases stepped
      | destroy other =>
        simp only [handles, stepUse] at stepped
        split at stepped
        · rename_i live
          obtain rfl := Option.some.inj stepped
          have apart : handle ≠ other := by
            rintro rfl
            rw [destroyed] at live
            cases live
          refine ⟨by rw [Function.update_of_ne apart, destroyed], by simp, ?_⟩
          intro same
          injection same with same
          exact apart same.symm
        · cases stepped
    obtain ⟨untouched, kept⟩ := ih steady.1 tail
    simp [untouched, kept, Ne.symm steady.2.1, Ne.symm steady.2.2]

/-- Nothing uses a handle after it was destroyed. -/
theorem Leaves.never_after (leaves : Leaves allFresh log alive fresh)
    {before after : List (Use Handle)} (parts : log = before ++ .destroy handle :: after) :
    .touch handle ∉ after ∧ .destroy handle ∉ after := by
  obtain ⟨last, ran, _⟩ := leaves
  rw [parts, Machine.run_append, Option.bind_eq_some_iff] at ran
  obtain ⟨middle, _, rest⟩ := ran
  obtain ⟨next, stepped, tail⟩ := (Machine.run_cons_some handles).mp rest
  refine run_destroyed ?_ tail
  simp only [handles, stepUse] at stepped
  split at stepped
  · obtain rfl := Option.some.inj stepped
    exact Function.update_self ..
  · cases stepped

end PhpDuckdb.Ownership
