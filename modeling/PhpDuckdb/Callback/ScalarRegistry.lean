import Mathlib.Data.List.Dedup
import PhpDuckdb.Callback.ScalarObjects
import PhpDuckdb.Lib.Holders

/-!
# The registry of scalar functions in every run

A token that native data or a registration has is in the registry until the connection's PHP object is
freed. So its object is found and not released before; and what the registry gave up is released once,
by the loop that took it over.
-/

namespace PhpDuckdb.ScalarObjects

open SqlText OrderedTable Ownership

variable {state : State} {token : Nat}

/-- The objects that loops have still to release. -/
def State.pending (state : State) : List (Nat × Nat) := state.frames.flatMap Frame.objects

/-- Something besides the registry has the token. -/
def State.Holds (state : State) (token : Nat) : Prop :=
  (∃ entry ∈ state.scalarRegs, entry.2.function = token) ∨
    (∃ entry ∈ state.slots, entry.2.function = token) ∨
      ∃ entry ∈ state.natives,
        entry.2.registration.function = token ∨ entry.2.token = some token

/-- `use_count` is one when only the registry has the token. -/
theorem useCount_eq_one : state.useCount token = 1 ↔ ¬state.Holds token := by
  rw [State.useCount, State.Holds, Nat.add_assoc, Nat.add_eq_left, Nat.add_eq_zero_iff,
    List.countP_eq_zero, List.countP_eq_zero]
  simp only [State.registrations, List.mem_dedup, List.mem_append, List.mem_map, decide_eq_true_eq]
  constructor
  · rintro ⟨registrations, natives⟩ (⟨entry, is, same⟩ | ⟨entry, is, same⟩ | ⟨entry, is, same | same⟩)
    · exact registrations entry.2 (.inl (.inl ⟨entry, is, rfl⟩)) same
    · exact registrations entry.2 (.inl (.inr ⟨entry, is, rfl⟩)) same
    · exact registrations _ (.inr ⟨entry, is, rfl⟩) same
    · exact natives entry is same
  · intro nothing
    refine ⟨?_, fun entry is same => nothing (.inr (.inr ⟨entry, is, .inr same⟩))⟩
    rintro registration ((⟨entry, is, rfl⟩ | ⟨entry, is, rfl⟩) | ⟨entry, is, rfl⟩) same
    · exact nothing (.inl ⟨entry, is, same⟩)
    · exact nothing (.inr (.inl ⟨entry, is, same⟩))
    · exact nothing (.inr (.inr ⟨entry, is, .inl same⟩))

/-! ## The invariant -/

/-- What holds of a connection's functions in every state. -/
structure Consistent (state : State) : Prop where
  /-- The references that are left are those of the registry and of the loops. -/
  leaves : Leaves allFresh state.log (fun token => token ∈ keys (state.objects ++ state.pending))
    fun token => state.next < token
  /-- No token has two of them. -/
  distinct : (keys (state.objects ++ state.pending)).Nodup
  /-- They are the references that the tokens were made for. -/
  stored : ∀ entry ∈ state.objects ++ state.pending,
    state.stored entry.1 = some entry.2 ∧ entry.1 ≤ state.next
  /-- The tokens of the registry are alive. -/
  alive : ∀ token, state.alive token = true ↔ token ∈ keys state.objects
  /-- What something else has is in the registry. -/
  held : state.freed = false → ∀ token, state.Holds token → token ∈ keys state.objects
  /-- A freed connection has no registry. -/
  gone : state.freed = true → state.scalarState = none

/-- A new connection has no objects, frames or native data. -/
theorem consistent_start : Consistent .start where
  leaves := ⟨allFresh, rfl, fun token => by simp [allFresh, State.objects, State.pending, State.start],
    fun _ _ => rfl⟩
  distinct := by simp [State.objects, State.pending, State.start]
  stored := by simp [State.objects, State.pending, State.start]
  alive := by simp [State.objects, State.start]
  held := by simp [State.Holds, State.start]
  gone := by simp [State.start]

/-- What is held afterwards was held before. -/
theorem Consistent.same {after : State} (consistent : Consistent state)
    (objects : after.scalarState = state.scalarState) (frames : after.frames = state.frames)
    (next : after.next = state.next) (alive : after.alive = state.alive)
    (stored : after.stored = state.stored) (freed : after.freed = state.freed)
    (log : after.log = state.log) (held : ∀ token, after.Holds token → state.Holds token) :
    Consistent after := by
  have same : after.objects = state.objects := by rw [State.objects, State.objects, objects]
  have pending : after.pending = state.pending := by rw [State.pending, State.pending, frames]
  refine ⟨?_, ?_, ?_, ?_, ?_, ?_⟩
  · rw [same, pending, log, next]
    exact consistent.leaves
  · rw [same, pending]
    exact consistent.distinct
  · rw [same, pending, stored, next]
    exact consistent.stored
  · rw [same, alive]
    exact consistent.alive
  · rw [same, freed]
    exact fun open_ token has => consistent.held open_ token (held token has)
  · rw [freed, objects]
    exact consistent.gone

/-- More native data, that has tokens which something has. -/
theorem Consistent.addNative (consistent : Consistent state) {number : Nat} {native : Native}
    (unused : find number state.natives = none)
    (function : state.Holds native.registration.function)
    (token : ∀ token, native.token = some token → state.Holds token) :
    Consistent { state with natives := update number native state.natives } := by
  refine consistent.same rfl rfl rfl rfl rfl rfl rfl fun wanted has => ?_
  rw [update_new _ (find_eq_none.mp unused)] at has
  obtain regs | slots | ⟨entry, is, has⟩ := has
  · exact .inl regs
  · exact .inr (.inl slots)
  · obtain old | new := List.mem_append.mp is
    · exact .inr (.inr ⟨entry, old, has⟩)
    · obtain rfl := List.mem_singleton.mp new
      obtain rfl | own := has
      · exact function
      · exact token wanted own

/-- `store_object`; afterwards something may have the new token. -/
theorem Consistent.storeObject {after : State} (consistent : Consistent state) {object : Nat}
    (open_ : state.freed = false) (objects : after.scalarState = some (state.objects ++
      [(state.next + 1, object)])) (frames : after.frames = state.frames)
    (next : after.next = state.next + 1)
    (alive : after.alive = Function.update state.alive (state.next + 1) true)
    (stored : after.stored = Function.update state.stored (state.next + 1) (some object))
    (freed : after.freed = state.freed) (log : after.log = state.log ++ [.create (state.next + 1)])
    (held : ∀ token, after.Holds token → state.Holds token ∨ token = state.next + 1) :
    Consistent after := by
  have now : after.objects = state.objects ++ [(state.next + 1, object)] := by
    rw [State.objects, objects, Option.getD_some]
  have pending : after.pending = state.pending := by rw [State.pending, State.pending, frames]
  have old : ∀ entry ∈ state.objects ++ state.pending, entry.1 ≠ state.next + 1 := by
    intro entry is same
    have bound := (consistent.stored entry is).2
    omega
  have fresh : state.next + 1 ∉ keys (state.objects ++ state.pending) := by
    intro is
    obtain ⟨entry, is, same⟩ := List.mem_map.mp is
    exact old entry is same
  refine ⟨?_, ?_, ?_, ?_, ?_, ?_⟩
  · rw [now, pending, log, next]
    refine (consistent.leaves.create (Nat.lt_succ_self _)).weaken (fun token => ?_)
      fun token new => ⟨by omega, by omega⟩
    simp only [keys, List.map_append, List.map_cons, List.map_nil, List.mem_append,
      List.mem_singleton]
    tauto
  · rw [now, pending]
    have parts := consistent.distinct
    simp only [keys, List.map_append, List.map_cons, List.map_nil] at parts fresh ⊢
    rw [List.append_assoc, List.singleton_append, List.nodup_middle, List.nodup_cons]
    exact ⟨fresh, parts⟩
  · rw [now, pending, stored, next]
    intro entry is
    by_cases new : entry = (state.next + 1, object)
    · subst new
      exact ⟨Function.update_self .., le_rfl⟩
    · have is : entry ∈ state.objects ++ state.pending := by
        simp only [List.mem_append, List.mem_singleton] at is ⊢
        tauto
      obtain ⟨same, bound⟩ := consistent.stored entry is
      exact ⟨by rw [Function.update_of_ne (old entry is), same], by omega⟩
  · rw [now, alive]
    intro token
    by_cases new : token = state.next + 1
    · simp [new, keys]
    · rw [Function.update_of_ne new, consistent.alive]
      simp [keys, new]
  · rw [now, freed]
    intro open_ token has
    obtain has | rfl := held token has
    · have is := consistent.held open_ token has
      simp only [keys, List.map_append, List.mem_append] at is ⊢
      exact .inl is
    · simp [keys]
  · rw [freed, open_]
    simp

/-! ## Steps -/

/-- A registration has a new token; what it replaces has less. -/
theorem Consistent.register (consistent : Consistent state) {key : Bytes} {object : Nat}
    (open_ : state.freed = false) : Consistent (register state key object) := by
  refine consistent.storeObject open_ rfl rfl rfl rfl rfl rfl rfl fun token has => ?_
  obtain ⟨entry, is, has⟩ | ⟨entry, is, has⟩ | natives := has
  · obtain old | rfl := mem_update is
    · exact .inl (.inl ⟨entry, old, has⟩)
    · exact .inr has.symm
  · obtain old | rfl := mem_update is
    · exact .inl (.inr (.inl ⟨entry, old, has⟩))
    · exact .inr has.symm
  · exact .inl (.inr (.inr natives))

/-- A connection with a registry was not freed. -/
theorem Consistent.unfreed (consistent : Consistent state) {objects : List (Nat × Nat)}
    (there : state.scalarState = some objects) : state.freed = false := by
  cases freed : state.freed with
  | false => rfl
  | true =>
    rw [consistent.gone freed] at there
    cases there

/-- Native data gets the token of what PHP returned. -/
theorem Consistent.storeNative (consistent : Consistent state) {objects : List (Nat × Nat)}
    {number object : Nat} {before after : Native} (there : state.scalarState = some objects)
    (has : find number state.natives = some before)
    (registration : after.registration = before.registration)
    (token : after.token = some (state.next + 1)) :
    Consistent { state.storeObject objects object with
      natives := update number after state.natives } := by
  have same : state.objects = objects := by rw [State.objects, there, Option.getD_some]
  refine consistent.storeObject (consistent.unfreed there) (same ▸ rfl) rfl rfl rfl rfl rfl rfl
    fun wanted holds => ?_
  obtain regs | slots | ⟨entry, is, holds⟩ := holds
  · exact .inl (.inl regs)
  · exact .inl (.inr (.inl slots))
  · obtain old | rfl := mem_update is
    · exact .inl (.inr (.inr ⟨entry, old, holds⟩))
    · obtain function | own := holds
      · exact .inl (.inr (.inr ⟨(number, before), mem_of_find has, .inl (registration ▸ function)⟩))
      · rw [token, Option.some.injEq] at own
        exact .inr own.symm

/-- Freeing native data keeps the registry consistent. -/
theorem Consistent.freeNative (consistent : Consistent state) (number : Nat) :
    Consistent { state with natives := delete number state.natives } := by
  refine consistent.same rfl rfl rfl rfl rfl rfl rfl fun token has => ?_
  obtain regs | slots | ⟨entry, is, has⟩ := has
  · exact .inl regs
  · exact .inr (.inl slots)
  · exact .inr (.inr ⟨entry, (List.mem_filter.mp is).1, has⟩)

/-- The loops change, and with them the registry, but not what is in either of them. -/
theorem Consistent.passOn {after : State} (consistent : Consistent state)
    (perm : (after.objects ++ after.pending).Perm (state.objects ++ state.pending))
    (log : after.log = state.log) (next : after.next = state.next)
    (stored : after.stored = state.stored)
    (alive : ∀ token, after.alive token = true ↔ token ∈ keys after.objects)
    (held : after.freed = false → ∀ token, after.Holds token → token ∈ keys after.objects)
    (gone : after.freed = true → after.scalarState = none) : Consistent after := by
  refine ⟨?_, ?_, ?_, alive, held, gone⟩
  · rw [log, next]
    exact consistent.leaves.weaken (fun token => ((perm.map Prod.fst).mem_iff).symm) fun _ new => new
  · exact ((perm.map Prod.fst).nodup_iff).mpr consistent.distinct
  · rw [stored, next]
    exact fun entry is => consistent.stored entry (perm.mem_iff.mp is)

/-- A new loop, or an empty one that ends, has nothing to release. -/
theorem Consistent.reframe (consistent : Consistent state) {frames : List Frame}
    (same : frames.flatMap Frame.objects = state.pending) :
    Consistent { state with frames := frames } := by
  refine consistent.passOn ?_ rfl rfl rfl consistent.alive consistent.held consistent.gone
  rw [State.pending, same]
  rfl

/-- A table is its only entry of a key and the rest, up to order. -/
theorem perm_delete {key : Nat} {value : Nat} {table : List (Nat × Nat)}
    (distinct : (keys table).Nodup) (found : find key table = some value) :
    ((key, value) :: delete key table).Perm table := by
  induction table with
  | nil => cases found
  | cons entry rest ih =>
    obtain ⟨stored, old⟩ := entry
    rw [keys_cons, List.nodup_cons] at distinct
    rw [find] at found
    rw [delete_cons]
    split at found
    · rename_i same
      subst same
      rw [if_pos rfl, delete_absent distinct.1, Option.some.inj found]
    · rename_i apart
      rw [if_neg apart]
      exact (List.Perm.swap ..).trans ((ih distinct.2 found).cons _)

/-- `reap_objects` erases an entry that nothing else has. -/
theorem Consistent.retire (consistent : Consistent state) {token object : Nat}
    {retired : List (Nat × Nat)} {outer : List Frame}
    (frames : state.frames = .scanning retired :: outer)
    (found : find token state.objects = some object) (alone : state.useCount token = 1) :
    Consistent { state with
      scalarState := state.scalarState.map (delete token)
      alive := Function.update state.alive token false
      frames := .scanning (retired ++ [(token, object)]) :: outer } := by
  have distinct : (keys state.objects).Nodup := by
    have both := consistent.distinct
    rw [keys, List.map_append] at both
    exact (List.nodup_append.mp both).1
  have left : (state.scalarState.map (delete token)).getD [] = delete token state.objects := by
    rw [State.objects]
    cases state.scalarState <;> rfl
  have others : ∀ other, other ∈ keys (delete token state.objects) ↔
      other ≠ token ∧ other ∈ keys state.objects := by
    intro other
    rw [mem_keys, mem_keys]
    by_cases same : token = other
    · simp [find_delete, same]
    · simp [find_delete, same, Ne.symm same]
  refine consistent.passOn ?_ rfl rfl rfl ?_ ?_ ?_
  · rw [State.objects, left, State.pending, State.pending, frames]
    simp only [List.flatMap_cons, Frame.objects]
    have moved : (delete token state.objects ++ (retired ++ [(token, object)])).Perm
        (state.objects ++ retired) := by
      rw [← List.append_assoc]
      refine (List.perm_append_singleton _ _).trans ?_
      rw [← List.cons_append]
      exact (perm_delete distinct found).append_right _
    have both := moved.append_right (outer.flatMap Frame.objects)
    rwa [List.append_assoc, List.append_assoc state.objects] at both
  · intro other
    rw [State.objects, left, others]
    change Function.update state.alive token false other = true ↔ _
    by_cases same : other = token
    · simp [same]
    · rw [Function.update_of_ne same, consistent.alive]
      simp [same]
  · intro open_ other has
    rw [State.objects, left, others]
    refine ⟨?_, consistent.held open_ other has⟩
    rintro rfl
    exact useCount_eq_one.mp alone has
  · intro freed
    rw [consistent.gone freed]
    rfl

/-- What is found was stored and is in the registry. -/
theorem lookupObject_some {object : Nat} (found : state.lookupObject token = some object) :
    (token, object) ∈ state.objects := by
  rw [State.lookupObject] at found
  split at found
  · cases found
  · rename_i objects there
    split at found
    · rw [State.objects, there, Option.getD_some]
      exact mem_of_find found
    · cases found

/-- An object is looked up for a call. -/
theorem Consistent.lookup (consistent : Consistent state) {object : Nat}
    (found : state.lookupObject token = some object) :
    Consistent { state with log := state.log ++ [.touch token] } := by
  refine ⟨consistent.leaves.touch ?_, consistent.distinct, consistent.stored, consistent.alive,
    consistent.held, consistent.gone⟩
  exact List.mem_map.mpr ⟨_, List.mem_append_left _ (lookupObject_some found), rfl⟩

/-- Releasing the next retired object keeps the registry consistent. -/
theorem Consistent.release (consistent : Consistent state) {token object : Nat}
    {rest : List (Nat × Nat)} {outer : List Frame}
    (frames : state.frames = .releasing ((token, object) :: rest) :: outer) :
    Consistent { state with
      frames := .releasing rest :: outer
      log := state.log ++ [.destroy token] } := by
  have pending : state.pending = (token, object) :: (rest ++ outer.flatMap Frame.objects) := by
    rw [State.pending, frames]
    rfl
  have parts : (state.objects ++ state.pending).Perm
      ((token, object) :: (state.objects ++ (rest ++ outer.flatMap Frame.objects))) := by
    rw [pending]
    exact List.perm_middle
  have split := (parts.map Prod.fst).nodup_iff.mp consistent.distinct
  rw [List.map_cons, List.nodup_cons] at split
  have there : token ∈ keys (state.objects ++ state.pending) :=
    ((parts.map Prod.fst).mem_iff).mpr List.mem_cons_self
  refine ⟨?_, split.2, fun entry is => consistent.stored entry ?_, consistent.alive,
    consistent.held, consistent.gone⟩
  · refine (consistent.leaves.destroy there).weaken (fun other => ?_) fun other new => ⟨new, ?_⟩
    · have same := (parts.map Prod.fst).mem_iff (a := other)
      rw [List.map_cons, List.mem_cons] at same
      change other ∈ (state.objects ++ state.pending).map Prod.fst ∧ other ≠ token ↔
        other ∈ (state.objects ++ (rest ++ outer.flatMap Frame.objects)).map Prod.fst
      rw [same]
      constructor
      · rintro ⟨rfl | kept, apart⟩
        · exact absurd rfl apart
        · exact kept
      · intro kept
        refine ⟨.inr kept, ?_⟩
        rintro rfl
        exact split.1 kept
    · rintro rfl
      obtain ⟨entry, is, same⟩ := List.mem_map.mp there
      have bound := (consistent.stored entry is).2
      change state.next < other at new
      omega
  · exact parts.mem_iff.mpr (List.mem_cons_of_mem _ is)

/-- Freeing the connection's PHP object keeps the registry consistent. -/
theorem Consistent.freeConnection (consistent : Consistent state) :
    Consistent (freeConnection state) := by
  refine consistent.passOn ?_ rfl rfl rfl ?_ ?_ fun _ => rfl
  · rw [ScalarObjects.freeConnection, State.pending, State.objects]
    simp only [Option.getD_none, List.nil_append, List.flatMap_cons, Frame.objects]
    exact List.Perm.refl _
  · intro token
    have alive := consistent.alive token
    simp only [ScalarObjects.freeConnection, Bool.and_eq_true, alive, State.objects]
    simp
  · intro open_
    cases open_

/-- Every event keeps the registry consistent. -/
theorem consistent_step {event : Event} {after : State} (consistent : Consistent state)
    (stepped : scalarObjects.step state event = some after) : Consistent after := by
  change step state event = some after at stepped
  unfold step at stepped
  split at stepped
  · split at stepped
    · -- the loop of `reap_objects`
      rename_i token retired outer frames busy
      split at stepped
      · rename_i object found
        split at stepped
        · rename_i alone
          obtain rfl := Option.some.inj stepped
          exact consistent.retire frames found alone
        · cases stepped
      · cases stepped
    · rename_i retired outer frames busy
      obtain rfl := Option.some.inj stepped
      exact consistent.reframe (by rw [State.pending, frames]; rfl)
    · cases stepped
  · cases event with
    | register key object =>
      dsimp only at stepped
      split at stepped
      · cases stepped
      · rename_i open_
        obtain rfl := Option.some.inj stepped
        exact consistent.register (by simpa using open_)
    | beginBind thread native key =>
      dsimp only at stepped
      split at stepped
      · rename_i registration found unused
        split at stepped
        · obtain rfl := Option.some.inj stepped
          exact consistent.addNative unused (.inr (.inl ⟨_, mem_of_find found, rfl⟩)) (by simp [Native.token])
        · cases stepped
      · cases stepped
    | storeBinding native object =>
      dsimp only at stepped
      split at stepped
      · rename_i registration objects has there
        obtain rfl := Option.some.inj stepped
        exact consistent.storeNative there has rfl rfl
      · cases stepped
    | copyBind thread native copy =>
      dsimp only at stepped
      split at stepped
      · rename_i registration binding has unused
        obtain rfl := Option.some.inj stepped
        exact consistent.addNative unused (.inr (.inr ⟨_, mem_of_find has, .inl rfl⟩))
          fun token own => .inr (.inr ⟨_, mem_of_find has, .inr own⟩)
      · cases stepped
    | beginLocal thread bind native =>
      dsimp only at stepped
      split at stepped
      · rename_i registration binding has unused
        obtain rfl := Option.some.inj stepped
        exact consistent.addNative unused (.inr (.inr ⟨_, mem_of_find has, .inl rfl⟩)) (by simp [Native.token])
      · cases stepped
    | storeExecutor native object =>
      dsimp only at stepped
      split at stepped
      · rename_i registration objects has there
        obtain rfl := Option.some.inj stepped
        exact consistent.storeNative there has rfl rfl
      · cases stepped
    | freeNative thread native =>
      dsimp only at stepped
      split at stepped
      · cases stepped
      · obtain rfl := Option.some.inj stepped
        exact consistent.freeNative native
    | lookup token =>
      dsimp only at stepped
      split at stepped
      · rename_i object found
        obtain rfl := Option.some.inj stepped
        exact consistent.lookup found
      · obtain rfl := Option.some.inj stepped
        exact consistent
    | reap =>
      dsimp only at stepped
      split at stepped
      · obtain rfl := Option.some.inj stepped
        exact consistent
      · obtain rfl := Option.some.inj stepped
        exact consistent.reframe rfl
    | release =>
      dsimp only at stepped
      split at stepped
      · rename_i token object rest outer frames
        obtain rfl := Option.some.inj stepped
        exact consistent.release frames
      · cases stepped
    | finished =>
      dsimp only at stepped
      split at stepped
      · rename_i outer frames
        obtain rfl := Option.some.inj stepped
        exact consistent.reframe (by rw [State.pending, frames]; rfl)
      · cases stepped
    | freeConnection =>
      dsimp only at stepped
      split at stepped
      · cases stepped
      · obtain rfl := Option.some.inj stepped
        exact consistent.freeConnection
    | retire token => cases stepped
    | scanned => cases stepped

/-- Every state that events lead to is consistent. -/
theorem consistent_run {events : List Event} (ran : scalarObjects.run .start events = some state) :
    Consistent state :=
  scalarObjects.run_preserves (fun _ _ _ => consistent_step) consistent_start ran

/-! ## Retired tokens -/

/-- Tokens are made once: what is not alive stays so. -/
structure Fades (before after : State) : Prop where
  /-- Numbers are not used again. -/
  next : before.next ≤ after.next
  /-- No token is revived. -/
  alive : ∀ token ≤ before.next, after.alive token = true → before.alive token = true

/-- A step that leaves the tokens alone. -/
theorem fades_same {before after : State} (next : after.next = before.next)
    (alive : after.alive = before.alive) : Fades before after :=
  ⟨next.ge, fun _ _ living => alive ▸ living⟩

/-- A new token has a new number. -/
theorem fades_store {before after : State} (next : after.next = before.next + 1)
    (alive : after.alive = Function.update before.alive (before.next + 1) true) :
    Fades before after := by
  refine ⟨by omega, fun token old living => ?_⟩
  rwa [alive, Function.update_of_ne (by omega)] at living

/-- What one event does to the tokens. -/
theorem fades_step {event : Event} {after : State}
    (stepped : scalarObjects.step state event = some after) : Fades state after := by
  change step state event = some after at stepped
  unfold step at stepped
  split at stepped
  · split at stepped
    · split at stepped
      · split at stepped
        · obtain rfl := Option.some.inj stepped
          refine ⟨le_rfl, fun token _ living => ?_⟩
          by_contra gone
          dsimp only at living
          rw [Function.update_apply] at living
          split at living
          · cases living
          · exact gone living
        · cases stepped
      · cases stepped
    · obtain rfl := Option.some.inj stepped
      exact fades_same rfl rfl
    · cases stepped
  · cases event with
    | register key object =>
      dsimp only at stepped
      split at stepped
      · cases stepped
      · obtain rfl := Option.some.inj stepped
        exact fades_store rfl rfl
    | storeBinding native object | storeExecutor native object =>
      dsimp only at stepped
      split at stepped
      · obtain rfl := Option.some.inj stepped
        exact fades_store rfl rfl
      · cases stepped
    | beginBind thread native key =>
      dsimp only at stepped
      split at stepped
      · split at stepped
        · obtain rfl := Option.some.inj stepped
          exact fades_same rfl rfl
        · cases stepped
      · cases stepped
    | copyBind thread native copy | beginLocal thread bind native | release | finished =>
      dsimp only at stepped
      split at stepped
      · obtain rfl := Option.some.inj stepped
        exact fades_same rfl rfl
      · cases stepped
    | freeNative thread native =>
      dsimp only at stepped
      split at stepped
      · cases stepped
      · obtain rfl := Option.some.inj stepped
        exact fades_same rfl rfl
    | lookup token | reap =>
      dsimp only at stepped
      split at stepped
      · obtain rfl := Option.some.inj stepped
        exact fades_same rfl rfl
      · obtain rfl := Option.some.inj stepped
        exact fades_same rfl rfl
    | freeConnection =>
      dsimp only at stepped
      split at stepped
      · cases stepped
      · obtain rfl := Option.some.inj stepped
        refine ⟨le_rfl, fun token _ living => ?_⟩
        simp only [freeConnection, Bool.and_eq_true] at living
        exact living.1
    | retire token => cases stepped
    | scanned => cases stepped

/-- A token that was made and is not alive. -/
def Retired (state : State) (token : Nat) : Prop := token ≤ state.next ∧ state.alive token = false

/-- An event leaves a retired token retired. -/
theorem retired_step {event : Event} {after : State} (retired : Retired state token)
    (stepped : scalarObjects.step state event = some after) : Retired after token := by
  have fades := fades_step stepped
  refine ⟨le_trans retired.1 fades.next, ?_⟩
  by_contra living
  have revived := fades.alive token retired.1 (by simpa using living)
  rw [retired.2] at revived
  cases revived

/-- A token that was retired stays retired through every run. -/
theorem retired_run {events : List Event} {last : State} (retired : Retired state token)
    (ran : scalarObjects.run state events = some last) : Retired last token := by
  have keeps : ∀ state event next, Retired state token → scalarObjects.step state event = some next →
      Retired next token := fun _ _ _ retired => retired_step retired
  exact scalarObjects.run_preserves keeps retired ran

/-- The object of a retired token is not found. -/
theorem Retired.lookupObject (retired : Retired state token) : state.lookupObject token = none := by
  rw [State.lookupObject]
  split
  · rfl
  · rw [if_neg (by simp [retired.2])]

/-- A thread of DuckDB neither looks at PHP objects nor releases them. -/
theorem worker_step {event : Event} {after : State} (worker : event.thread ≠ .request)
    (stepped : scalarObjects.step state event = some after) :
    after.log = state.log ∧ after.frames = state.frames ∧ after.scalarState = state.scalarState := by
  change step state event = some after at stepped
  unfold step at stepped
  rw [if_neg (fun busy => worker busy.1)] at stepped
  cases event with
  | beginBind thread native key =>
    dsimp only at stepped
    split at stepped
    · split at stepped
      · obtain rfl := Option.some.inj stepped
        exact ⟨rfl, rfl, rfl⟩
      · cases stepped
    · cases stepped
  | copyBind thread native copy | beginLocal thread bind native =>
    dsimp only at stepped
    split at stepped
    · obtain rfl := Option.some.inj stepped
      exact ⟨rfl, rfl, rfl⟩
    · cases stepped
  | freeNative thread native =>
    dsimp only at stepped
    split at stepped
    · cases stepped
    · obtain rfl := Option.some.inj stepped
      exact ⟨rfl, rfl, rfl⟩
  | _ => exact absurd rfl worker

/-! ## The registry in every run -/

/-- What the registry promises of the objects that PHP handed to it. -/
structure Promises (state : State) : Prop where
  /-- While the connection is live, the object stored for a token that something has is found, and it
  was not released. -/
  found : state.freed = false → ∀ token, state.Holds token →
    (∃ object, state.stored token = some object ∧ state.lookupObject token = some object) ∧
      .destroy token ∉ state.log
  /-- A token whose object is not found any more never finds one again. -/
  retired : ∀ token, .create token ∈ state.log → state.lookupObject token = none →
    ∀ events last, scalarObjects.run state events = some last → last.lookupObject token = none
  /-- A reference that neither the registry nor a loop has any more was released once, one that they
  have was not, and none is released twice. -/
  released : ∀ token, Told (token ∈ keys (state.objects ++ state.pending)) state.log token
  /-- No released object is looked up. -/
  unused : ∀ token before after, state.log = before ++ .destroy token :: after →
    .touch token ∉ after
  /-- Threads of DuckDB release nothing. -/
  worker : ∀ event after, event.thread ≠ .request →
    scalarObjects.step state event = some after → after.log = state.log

/-- In every run, whatever threads of DuckDB do with native data and whatever PHP destructors do during
releases, the registry keeps its promises. -/
theorem registry_promises {events : List Event}
    (ran : scalarObjects.run .start events = some state) : Promises state := by
  have consistent := consistent_run ran
  refine ⟨fun open_ token has => ?_, fun token created lost events last onwards => ?_,
    fun token => Leaves.told consistent.leaves token,
    fun token before after parts => (Leaves.never_after consistent.leaves parts).1,
    fun event after worker stepped => (worker_step worker stepped).1⟩
  · have there := consistent.held open_ token has
    obtain ⟨object, found⟩ := mem_keys.mp there
    have stored := consistent.stored _ (List.mem_append_left _ (mem_of_find found))
    refine ⟨⟨object, stored.1, ?_⟩, (Leaves.told consistent.leaves token).kept ?_⟩
    · have living := (consistent.alive token).mpr there
      rw [State.objects] at found
      cases registry : state.scalarState with
      | none =>
        rw [registry] at found
        cases found
      | some objects =>
        rw [registry] at found
        rw [State.lookupObject, registry]
        dsimp only
        rw [if_pos living]
        exact found
    · simp only [keys, List.map_append, List.mem_append]
      exact .inl there
  · have old : token ≤ state.next := Nat.le_of_not_lt (Leaves.not_fresh consistent.leaves created)
    refine (retired_run ⟨old, ?_⟩ onwards).lookupObject
    by_contra living
    have there := (consistent.alive token).mp (by simpa using living)
    obtain ⟨object, found⟩ := mem_keys.mp there
    rw [State.objects] at found
    rw [State.lookupObject] at lost
    cases registry : state.scalarState with
    | none =>
      rw [registry] at found
      cases found
    | some objects =>
      rw [registry] at found lost
      dsimp only at lost
      rw [if_pos (by simpa using living)] at lost
      cases found.symm.trans lost

/-- A function is bound on two threads and copied, a destructor registers another function, and the
connection is freed while a bind is left. -/
def boundTwice : List Event :=
  [.register [102] 70, .beginBind (.worker 1) 5 [102], .lookup 1, .storeBinding 5 71,
    .copyBind (.worker 2) 5 6, .freeNative (.worker 1) 5, .reap, .scanned, .finished,
    .beginLocal (.worker 2) 6 7, .lookup 2, .storeExecutor 7 72, .lookup 3, .freeNative (.worker 2) 7,
    .reap, .retire 3, .scanned, .release, .register [103] 73, .finished, .lookup 3,
    .freeConnection, .lookup 1, .release, .release, .release, .finished]

/-- The objects of the run are created, used and released in this order. -/
theorem boundTwice_log : (scalarObjects.run .start boundTwice).map State.log =
    some [.create 1, .touch 1, .create 2, .touch 2, .create 3, .touch 3, .destroy 3, .create 4,
      .destroy 1, .destroy 2, .destroy 4] := by
  decide +kernel

/-- The executor, whose local state is gone, is released before the connection is freed. -/
theorem registry_promises_boundTwice : ∃ state, scalarObjects.run .start boundTwice = some state ∧
    Promises state ∧ .destroy 3 ∈ state.log := by
  obtain ⟨state, ran, log⟩ := Option.map_eq_some_iff.mp boundTwice_log
  exact ⟨state, ran, registry_promises ran, by simp [log]⟩

end PhpDuckdb.ScalarObjects
