import Mathlib.Data.List.Infix
import PhpDuckdb.Lib.Allocation
import PhpDuckdb.Lib.OrderedTable
import PhpDuckdb.Lib.SqlText

/-!
# Conversion statements

Typed conversion prepares a statement and keeps it for the next conversion with the same SQL text. A
statement is taken out of the cache before it is used and put back at its end when the conversion
succeeded, so a failed conversion costs its own statement and no other.
-/

namespace PhpDuckdb.Value

open SqlText Allocation OrderedTable

/-! ## The cache -/

/-- `conversion_statements::capacity`: how many prepared statements are kept. -/
def statementCapacity : Nat := 4

/-- The loop of `take_statement` over the entries: the statement and the entries without it. -/
def takeEntry (sql : Bytes) : List (Bytes × Nat) → Option (Nat × List (Bytes × Nat))
  | [] => none
  | (text, statement) :: rest =>
    if text = sql then some (statement, rest)
    else (takeEntry sql rest).map fun taken => (taken.1, (text, statement) :: taken.2)

/-- `take_statement`. A statement that is not prepared carries the error, and it is destroyed like
any other. -/
def takeStatement (statements : Option (List (Bytes × Nat))) (sql : Bytes) (prepares : Bool) :
    Program (Bool × Nat × Option (List (Bytes × Nat))) :=
  match statements.bind (takeEntry sql) with
  | some (statement, rest) => pure (true, statement, some rest)
  | none => do
    let statement ← create
    pure (prepares, statement, statements)

/-- The oldest entry goes when the cache is full. -/
def evict : List (Bytes × Nat) → Program (List (Bytes × Nat))
  | [] => pure []
  | (text, statement) :: rest =>
    if statementCapacity ≤ rest.length + 1 then do
      destroy statement
      pure rest
    else pure ((text, statement) :: rest)

/-- `keep_statement`. Without a cache the statement ends with its scope. -/
def keepStatement (statements : Option (List (Bytes × Nat))) (sql : Bytes) (statement : Nat) :
    Program (Option (List (Bytes × Nat))) :=
  match statements with
  | none => do
    destroy statement
    pure none
  | some entries => do
    let entries ← evict entries
    pure (some (entries ++ [(sql, statement)]))

/-- What one conversion meets: whether it is typed, and how its parts end. -/
structure Meeting where
  /-- Some input contains a typed value. -/
  typed : Bool
  /-- Inputs without typed values convert. -/
  plain : Bool
  /-- The registry of capture functions is there. -/
  registry : Bool
  /-- The SQL text, unless building it fails. -/
  sql : Option Bytes
  /-- The text prepares. -/
  prepares : Bool
  /-- Each parameter binds. -/
  binds : List Bool
  /-- The pending query is created, which folds the inputs. -/
  pending : Bool
  /-- The capture has an error message. -/
  complains : Bool
  /-- Every value was captured. -/
  complete : Bool

/-- A parameter does not bind, the pending query is not created, or the capture is not complete. -/
def Meeting.fails (meeting : Meeting) : Bool :=
  meeting.binds.contains false || !meeting.pending || meeting.complains || !meeting.complete

/-- The part of `duckdb_convert_values` behind the SQL text. -/
def convertWith (meeting : Meeting) (sql : Bytes) (statements : Option (List (Bytes × Nat))) :
    Program (Bool × Option (List (Bytes × Nat))) := do
  let (taken, statement, statements) ← takeStatement statements sql meeting.prepares
  if !taken || meeting.fails then do
    destroy statement
    pure (false, statements)
  else do
    let statements ← keepStatement statements sql statement
    pure (true, statements)

/-- `duckdb_convert_values`: whether it succeeds, and the cache. -/
def duckdbConvertValues (meeting : Meeting) (statements : Option (List (Bytes × Nat))) :
    Program (Bool × Option (List (Bytes × Nat))) :=
  if !meeting.typed then pure (meeting.plain, statements)
  else if !meeting.registry then pure (false, statements)
  else
    match meeting.sql with
    | none => pure (false, statements)
    | some sql => convertWith meeting sql statements

/-- The text of the statement that a conversion uses, if it needs one. -/
def Meeting.use (meeting : Meeting) : Option Bytes :=
  if meeting.typed && meeting.registry then meeting.sql else none

/-- Conversions one after the other: the statements that they used and whether that succeeded, and
the cache. -/
def convertAll : List Meeting → Option (List (Bytes × Nat)) →
    Program (List (Bytes × Bool) × Option (List (Bytes × Nat)))
  | [], statements => pure ([], statements)
  | meeting :: rest, statements => do
    let (done, statements) ← duckdbConvertValues meeting statements
    let (uses, statements) ← convertAll rest statements
    pure ((meeting.use.map fun sql => (sql, done)).toList ++ uses, statements)

/-! ## Uses -/

/-- The last use of a text succeeded. -/
def LastSucceeded (uses : List (Bytes × Bool)) (sql : Bytes) : Prop :=
  ∃ before after, uses = before ++ (sql, true) :: after ∧ ∀ use ∈ after, use.1 ≠ sql

/-- The texts whose last use succeeded, in the order of their last uses. -/
def succeeded : List (Bytes × Bool) → List Bytes
  | [] => []
  | (sql, done) :: later =>
    if done && later.all fun use => use.1 ≠ sql then sql :: succeeded later else succeeded later

/-- One more use makes its text the last, or it drops out. -/
theorem succeeded_concat (uses : List (Bytes × Bool)) (sql : Bytes) (done : Bool) :
    succeeded (uses ++ [(sql, done)]) =
      (succeeded uses).filter (· ≠ sql) ++ if done then [sql] else [] := by
  induction uses with
  | nil => cases done <;> rfl
  | cons use later ih =>
    obtain ⟨text, succeeds⟩ := use
    rw [List.cons_append, succeeded, succeeded, ih, List.all_append]
    by_cases same : text = sql
    · subst same
      cases succeeds && later.all fun use => use.1 ≠ text <;> simp
    · have fresh : ([(sql, done)].all fun use => use.1 ≠ text) = true := by simp [Ne.symm same]
      rw [fresh, Bool.and_true]
      split
      · have keeps : decide (text ≠ sql) = true := decide_eq_true same
        rw [List.filter_cons, if_pos keeps, List.cons_append]
      · rfl

/-- The last use of each of the succeeded texts succeeded. -/
theorem lastSucceeded_of_mem {uses : List (Bytes × Bool)} {sql : Bytes}
    (member : sql ∈ succeeded uses) : LastSucceeded uses sql := by
  induction uses with
  | nil => cases member
  | cons use later ih =>
    obtain ⟨text, done⟩ := use
    have further : sql ∈ succeeded later → LastSucceeded ((text, done) :: later) sql := by
      intro inside
      obtain ⟨before, after, shape, last⟩ := ih inside
      exact ⟨(text, done) :: before, after, by rw [shape]; rfl, last⟩
    rw [succeeded] at member
    split at member
    · next live =>
      obtain ⟨succeeds, last⟩ := Bool.and_eq_true_iff.mp live
      cases List.mem_cons.mp member with
      | inl same =>
        subst same
        refine ⟨[], later, by rw [succeeds]; rfl, ?_⟩
        intro use inside
        exact of_decide_eq_true (List.all_eq_true.mp last use inside)
      | inr inside => exact further inside
    · exact further member

/-- What holds of a cache after some uses. -/
structure Kept (uses : List (Bytes × Bool)) (entries : List (Bytes × Nat)) : Prop where
  /-- It has room for no more. -/
  few : entries.length ≤ statementCapacity
  /-- There is one statement for a text. -/
  once : (keys entries).Nodup
  /-- They are those that were used last, in this order, of all whose last use succeeded. -/
  recent : keys entries <:+ succeeded uses

/-- The last use of every statement that is cached succeeded. -/
theorem Kept.last {uses : List (Bytes × Bool)} {entries : List (Bytes × Nat)}
    (kept : Kept uses entries) : ∀ sql ∈ keys entries, LastSucceeded uses sql :=
  fun _ member => lastSucceeded_of_mem (kept.recent.subset member)

/-! ## One conversion -/

/-- What is left of entries when there is to be room for another. -/
def evicted (entries : List (Bytes × Nat)) : List (Bytes × Nat) :=
  if statementCapacity ≤ entries.length then entries.tail else entries

/-- `evict` leaves the cached entries and destroys the statements of the others. -/
theorem evict_run (entries : List (Bytes × Nat)) (heap : Heap) :
    ((evict entries).run heap).1 = evicted entries := by
  cases entries with
  | nil => rfl
  | cons entry rest =>
    obtain ⟨text, statement⟩ := entry
    rw [evict, evicted, List.length_cons]
    split <;> rfl

/-- The entry that is taken is the one that a lookup finds. -/
theorem takeEntry_eq {entries : List (Bytes × Nat)} (once : (keys entries).Nodup) (sql : Bytes) :
    takeEntry sql entries =
      (find sql entries).map fun statement => (statement, delete sql entries) := by
  induction entries with
  | nil => rfl
  | cons entry rest ih =>
    obtain ⟨text, statement⟩ := entry
    obtain ⟨fresh, others⟩ := List.nodup_cons.mp once
    rw [takeEntry, find, delete_cons]
    by_cases same : text = sql
    · subst same
      rw [if_pos rfl, if_pos rfl, if_pos rfl, delete_absent fresh]
      rfl
    · rw [if_neg same, if_neg same, if_neg same, ih others]
      cases find sql rest <;> rfl

/-- What is left when a statement that is in use fails. -/
def Heap.failed (heap : Heap) (taken : Option Nat) : Heap :=
  match taken with
  | some statement => ⟨heap.next, heap.log ++ [.destroy statement]⟩
  | none => ⟨heap.next + 1, heap.log ++ [.create heap.next] ++ [.destroy heap.next]⟩

/-- What a use of a statement does to the cache. -/
structure Used (sql : Bytes) (entries : List (Bytes × Nat)) (heap : Heap) (done : Bool)
    (statements : Option (List (Bytes × Nat))) (after : Heap) : Prop where
  /-- After a success it is the last entry. -/
  succeeds : done = true → ∃ statement,
    statements = some (evicted (delete sql entries) ++ [(sql, statement)])
  /-- After a failure it is gone and destroyed, and nothing else happened. -/
  fails : done = false →
    statements = some (delete sql entries) ∧ after = Heap.failed heap (find sql entries)

/-- What a statement that is taken from the cache or prepared for it does to the cache. -/
theorem convertWith_run (meeting : Meeting) (sql : Bytes) {entries : List (Bytes × Nat)}
    (once : (keys entries).Nodup) (heap : Heap) {done : Bool}
    {statements : Option (List (Bytes × Nat))} {after : Heap}
    (run : (convertWith meeting sql (some entries)).run heap = ((done, statements), after)) :
    Used sql entries heap done statements after := by
  have taken : takeEntry sql entries = _ := takeEntry_eq once sql
  have keeps (statement : Nat) (others : List (Bytes × Nat)) (heap : Heap) :
      ((keepStatement (some others) sql statement).run heap).1 =
        some (evicted others ++ [(sql, statement)]) := by
    rw [← evict_run others heap]
    rfl
  -- The statement goes at a failure, with the heap that its origin leaves, or it is kept.
  have finish (statement : Nat) (others : List (Bytes × Nat)) (middle : Heap)
      (same : (if meeting.fails then do
          destroy statement
          pure (false, some others)
        else do
          let statements ← keepStatement (some others) sql statement
          pure (true, statements) : Program _).run middle = ((done, statements), after)) :
      (done = true → statements = some (evicted others ++ [(sql, statement)])) ∧
        (done = false → statements = some others ∧
          after = ⟨middle.next, middle.log ++ [.destroy statement]⟩) := by
    cases failing : meeting.fails with
    | true =>
      rw [failing] at same
      obtain ⟨results, rfl⟩ := Prod.mk.inj same
      obtain ⟨rfl, rfl⟩ := Prod.mk.inj results
      exact ⟨nofun, fun _ => ⟨rfl, rfl⟩⟩
    | false =>
      rw [failing] at same
      obtain ⟨results, _⟩ := Prod.mk.inj same
      obtain ⟨rfl, kept⟩ := Prod.mk.inj results
      exact ⟨fun _ => kept.symm.trans (keeps statement others middle), nofun⟩
  rw [convertWith, takeStatement, Option.bind_some, taken] at run
  cases found : find sql entries with
  | some statement =>
    rw [found, Option.map_some] at run
    obtain ⟨succeeds, fails⟩ := finish statement (delete sql entries) heap run
    refine ⟨fun success => ⟨statement, succeeds success⟩, ?_⟩
    intro failure
    rw [found]
    exact fails failure
  | none =>
    have absent : delete sql entries = entries := delete_absent (find_eq_none.mp found)
    rw [found, Option.map_none] at run
    cases prepared : meeting.prepares with
    | true =>
      rw [prepared] at run
      obtain ⟨succeeds, fails⟩ := finish heap.next entries
        ⟨heap.next + 1, heap.log ++ [Ownership.Use.create heap.next]⟩ run
      rw [← absent] at succeeds fails
      refine ⟨fun success => ⟨heap.next, succeeds success⟩, ?_⟩
      intro failure
      rw [found]
      exact fails failure
    | false =>
      rw [prepared] at run
      obtain ⟨results, rfl⟩ := Prod.mk.inj run
      obtain ⟨rfl, rfl⟩ := Prod.mk.inj results
      refine ⟨nofun, fun _ => ?_⟩
      rw [found, absent]
      exact ⟨rfl, rfl⟩

/-- What a conversion does to the cache. -/
theorem duckdbConvertValues_run (meeting : Meeting) {entries : List (Bytes × Nat)}
    (once : (keys entries).Nodup) (heap : Heap) {done : Bool}
    {statements : Option (List (Bytes × Nat))} {after : Heap}
    (run : (duckdbConvertValues meeting (some entries)).run heap = ((done, statements), after)) :
    (meeting.use = none → statements = some entries ∧ after = heap) ∧
      ∀ sql, meeting.use = some sql → Used sql entries heap done statements after := by
  have unused : ∀ result : Bool, (pure (result, some entries) : Program _).run heap =
      ((done, statements), after) → statements = some entries ∧ after = heap := by
    intro result same
    obtain ⟨results, rfl⟩ := Prod.mk.inj same
    exact ⟨(Prod.mk.inj results).2.symm, rfl⟩
  rw [duckdbConvertValues] at run
  rw [Meeting.use]
  cases typed : meeting.typed with
  | false =>
    rw [typed] at run
    exact ⟨fun _ => unused _ run, nofun⟩
  | true =>
    cases there : meeting.registry with
    | false =>
      rw [typed, there] at run
      exact ⟨fun _ => unused _ run, nofun⟩
    | true =>
      cases built : meeting.sql with
      | none =>
        rw [typed, there, built] at run
        exact ⟨fun _ => unused _ run, nofun⟩
      | some sql =>
        rw [typed, there, built] at run
        refine ⟨nofun, ?_⟩
        intro text same
        obtain rfl : sql = text := Option.some.inj same
        exact convertWith_run meeting sql once heap run

/-! ## Handles -/

/-- The prepared statements that a cache holds. -/
def handlesOf (statements : Option (List (Bytes × Nat))) : List Nat :=
  (statements.getD []).map Prod.snd

/-- The statement that is taken was in the cache. -/
theorem takeEntry_perm {sql : Bytes} {entries rest : List (Bytes × Nat)} {statement : Nat}
    (taken : takeEntry sql entries = some (statement, rest)) :
    (entries.map Prod.snd).Perm (statement :: rest.map Prod.snd) := by
  induction entries generalizing rest with
  | nil => cases taken
  | cons entry others ih =>
    obtain ⟨text, handle⟩ := entry
    rw [takeEntry] at taken
    split at taken
    · obtain ⟨rfl, rfl⟩ := Prod.mk.inj (Option.some.inj taken)
      exact List.Perm.refl _
    · obtain ⟨⟨found, left⟩, inner, same⟩ := Option.map_eq_some_iff.mp taken
      obtain ⟨rfl, rfl⟩ := Prod.mk.inj same
      exact ((ih inner).cons handle).trans (List.Perm.swap found handle _)

/-- The statement that is taken is held beside the cache. -/
theorem triple_takeStatement (statements : Option (List (Bytes × Nat))) (sql : Bytes)
    (prepares : Bool) :
    Triple (handlesOf statements) (takeStatement statements sql prepares) fun taken =>
      taken.2.1 :: handlesOf taken.2.2 := by
  unfold takeStatement
  split
  · next statement rest found =>
    obtain ⟨entries, rfl, taken⟩ := Option.bind_eq_some_iff.mp found
    exact (triple_pure rfl).given (takeEntry_perm taken)
  · exact (triple_create (handlesOf statements)).bind fun _ => triple_pure rfl

/-- An eviction destroys the statements that it drops. -/
theorem triple_evict (entries : List (Bytes × Nat)) (held : List Nat) :
    Triple (entries.map Prod.snd ++ held) (evict entries) fun rest => rest.map Prod.snd ++ held := by
  cases entries with
  | nil => exact triple_pure rfl
  | cons entry rest =>
    rw [evict]
    split
    · exact (triple_destroy entry.2 (rest.map Prod.snd ++ held)).bind fun _ => triple_pure rfl
    · exact triple_pure rfl

/-- A statement that is given back is kept in the cache or destroyed. -/
theorem triple_keepStatement (statements : Option (List (Bytes × Nat))) (sql : Bytes)
    (statement : Nat) :
    Triple (statement :: handlesOf statements) (keepStatement statements sql statement)
      handlesOf := by
  cases statements with
  | none => exact (triple_destroy statement []).bind fun _ => triple_pure rfl
  | some entries =>
    apply Triple.given _ (List.perm_append_singleton statement (entries.map Prod.snd)).symm
    apply (triple_evict entries [statement]).bind
    intro rest
    apply triple_pure
    rw [handlesOf, Option.getD_some, List.map_append]
    rfl

/-- A conversion leaves the statements of the cache. -/
theorem triple_convertWith (meeting : Meeting) (sql : Bytes)
    (statements : Option (List (Bytes × Nat))) :
    Triple (handlesOf statements) (convertWith meeting sql statements) fun result =>
      handlesOf result.2 := by
  apply (triple_takeStatement statements sql meeting.prepares).bind
  intro taken
  dsimp only
  split
  · exact (triple_destroy taken.2.1 (handlesOf taken.2.2)).bind fun _ => triple_pure rfl
  · exact (triple_keepStatement taken.2.2 sql taken.2.1).bind fun _ => triple_pure rfl

/-- Every conversion holds the statements of the cache afterwards and nothing else. -/
theorem triple_duckdbConvertValues (meeting : Meeting)
    (statements : Option (List (Bytes × Nat))) :
    Triple (handlesOf statements) (duckdbConvertValues meeting statements) fun result =>
      handlesOf result.2 := by
  unfold duckdbConvertValues
  split
  · exact triple_pure rfl
  · split
    · exact triple_pure rfl
    · split
      · exact triple_pure rfl
      · exact triple_convertWith meeting _ statements

/-- Conversions one after the other turn the handles of a cache into those of the cache they leave.
-/
theorem triple_convertAll : ∀ (meetings : List Meeting) (statements : Option (List (Bytes × Nat))),
    Triple (handlesOf statements) (convertAll meetings statements) fun result => handlesOf result.2
  | [], _ => triple_pure rfl
  | meeting :: rest, statements => by
    apply (triple_duckdbConvertValues meeting statements).bind
    intro first
    apply (triple_convertAll rest first.2).bind
    exact fun _ => triple_pure rfl

/-! ## Conversions one after the other -/

/-- After a removal the other keys are there in their order. -/
theorem keys_delete (sql : Bytes) (entries : List (Bytes × Nat)) :
    keys (delete sql entries) = (keys entries).filter (· ≠ sql) := by
  rw [keys, keys, delete, List.filter_map]
  rfl

/-- What is left for another entry is the end of what there was. -/
theorem evicted_suffix (entries : List (Bytes × Nat)) : evicted entries <:+ entries := by
  unfold evicted
  split
  · exact List.tail_suffix entries
  · exact List.suffix_refl entries

/-- An eviction leaves room for one more entry. -/
theorem evicted_length {entries : List (Bytes × Nat)} (few : entries.length ≤ statementCapacity) :
    (evicted entries).length + 1 ≤ statementCapacity := by
  have some_ : 1 ≤ statementCapacity := by decide
  unfold evicted
  split
  · rw [List.length_tail]
    omega
  · omega

/-- A use keeps the cache in order. -/
theorem Kept.used {uses : List (Bytes × Bool)} {entries : List (Bytes × Nat)} {sql : Bytes}
    {heap after : Heap} {done : Bool} {statements : Option (List (Bytes × Nat))}
    (kept : Kept uses entries) (used : Used sql entries heap done statements after) :
    ∃ others, statements = some others ∧ Kept (uses ++ [(sql, done)]) others := by
  have fewer : (delete sql entries).length ≤ statementCapacity :=
    Nat.le_trans (List.length_filter_le _ entries) kept.few
  have distinct := nodup_delete kept.once sql
  have suffix : keys (delete sql entries) <:+ (succeeded uses).filter (· ≠ sql) := by
    rw [keys_delete]
    exact kept.recent.filter _
  have history := succeeded_concat uses sql done
  cases done with
  | true =>
    obtain ⟨statement, rfl⟩ := used.succeeds rfl
    have within : keys (evicted (delete sql entries)) <:+ keys (delete sql entries) :=
      (evicted_suffix _).map Prod.fst
    have whole : keys (evicted (delete sql entries) ++ [(sql, statement)]) =
        keys (evicted (delete sql entries)) ++ [sql] := List.map_append
    refine ⟨_, rfl, ?_, ?_, ?_⟩
    · rw [List.length_append]
      exact evicted_length fewer
    · rw [whole]
      have absent : sql ∉ keys (evicted (delete sql entries)) := by
        intro member
        have inside := within.subset member
        rw [keys_delete] at inside
        exact absurd rfl (of_decide_eq_true (List.mem_filter.mp inside).2)
      rw [← List.concat_eq_append]
      exact (distinct.sublist within.sublist).concat absent
    · obtain ⟨before, same⟩ := within.trans suffix
      rw [whole, history]
      exact ⟨before, by rw [← same, List.append_assoc]; rfl⟩
  | false =>
    obtain ⟨rfl, _⟩ := used.fails rfl
    refine ⟨_, rfl, fewer, distinct, ?_⟩
    rw [history]
    simpa using suffix

/-- A conversion runs, and those after it go on with the statements that it leaves. -/
theorem convertAll_cons_run (meeting : Meeting) (rest : List Meeting)
    (statements : Option (List (Bytes × Nat))) {heap after : Heap} {done : Bool}
    {others : Option (List (Bytes × Nat))}
    (first : (duckdbConvertValues meeting statements).run heap = ((done, others), after)) :
    (convertAll (meeting :: rest) statements).run heap =
      ((((meeting.use.map fun sql => (sql, done)).toList ++
          ((convertAll rest others).run after).1.1,
        ((convertAll rest others).run after).1.2)), ((convertAll rest others).run after).2) := by
  have whole : (convertAll (meeting :: rest) statements).run heap =
      ((((meeting.use.map fun sql =>
          (sql, ((duckdbConvertValues meeting statements).run heap).1.1)).toList ++
          ((convertAll rest ((duckdbConvertValues meeting statements).run heap).1.2).run
            ((duckdbConvertValues meeting statements).run heap).2).1.1,
        ((convertAll rest ((duckdbConvertValues meeting statements).run heap).1.2).run
          ((duckdbConvertValues meeting statements).run heap).2).1.2)),
        ((convertAll rest ((duckdbConvertValues meeting statements).run heap).1.2).run
          ((duckdbConvertValues meeting statements).run heap).2).2) := rfl
  rw [whole, first]

/-- Conversions keep the cache in the order of their last uses. -/
theorem convertAll_kept : ∀ (meetings : List Meeting) {uses : List (Bytes × Bool)}
    {entries : List (Bytes × Nat)}, Kept uses entries → ∀ heap : Heap,
    ∃ others, ((convertAll meetings (some entries)).run heap).1.2 = some others ∧
      Kept (uses ++ ((convertAll meetings (some entries)).run heap).1.1) others
  | [], uses, entries, kept, heap => by
    refine ⟨entries, rfl, ?_⟩
    rw [← List.append_nil uses] at kept
    exact kept
  | meeting :: rest, uses, entries, kept, heap => by
    cases first : (duckdbConvertValues meeting (some entries)).run heap with
    | mk result after =>
      obtain ⟨done, statements⟩ := result
      obtain ⟨unused, used⟩ := duckdbConvertValues_run meeting kept.once heap first
      rw [convertAll_cons_run meeting rest (some entries) first]
      cases use : meeting.use with
      | none =>
        obtain ⟨rfl, rfl⟩ := unused use
        exact convertAll_kept rest kept after
      | some sql =>
        obtain ⟨others, rfl, next⟩ := kept.used (used sql use)
        obtain ⟨last, there, end_⟩ := convertAll_kept rest next after
        refine ⟨last, there, ?_⟩
        rw [List.append_assoc] at end_
        exact end_

/-- After any conversions through a cache it holds at most its capacity, one statement for a text,
each with a last use that succeeded, and of these the ones that were used last, in order. Every
other statement was destroyed once. One more conversion that fails costs at most the statement that
it uses, which it destroys, and nothing else. -/
theorem conversionStatements_kept (meetings : List Meeting) :
    ∃ (uses : List (Bytes × Bool)) (entries : List (Bytes × Nat)) (heap : Heap),
      (convertAll meetings (some [])).run Heap.empty = ((uses, some entries), heap) ∧
      Kept uses entries ∧ (∀ sql ∈ keys entries, LastSucceeded uses sql) ∧
      (entries.map Prod.snd).Nodup ∧
      (∀ handle, heap.log.count (.destroy handle) =
        if handle < heap.next ∧ handle ∉ entries.map Prod.snd then 1 else 0) ∧
      ∀ (meeting : Meeting) (done : Bool) (statements : Option (List (Bytes × Nat))) (after : Heap),
        (duckdbConvertValues meeting (some entries)).run heap = ((done, statements), after) →
        (meeting.use = none → statements = some entries ∧ after = heap) ∧
        ∀ sql, meeting.use = some sql → Used sql entries heap done statements after := by
  have start : Kept [] [] := ⟨Nat.zero_le _, List.nodup_nil, List.suffix_refl []⟩
  obtain ⟨entries, there, kept⟩ := convertAll_kept meetings start Heap.empty
  have triple := triple_convertAll meetings (some [])
  have owns := triple Heap.empty Heap.empty (Owns.refl Heap.empty)
  have once := triple.destroyed_once
  cases run : (convertAll meetings (some [])).run Heap.empty with
  | mk result heap =>
    obtain ⟨uses, statements⟩ := result
    simp only [run] at there kept once owns
    obtain rfl := there
    refine ⟨uses, entries, heap, rfl, kept, kept.last, owns.distinct, once, ?_⟩
    intro meeting done statements after step
    exact duckdbConvertValues_run meeting kept.once heap step

end PhpDuckdb.Value
