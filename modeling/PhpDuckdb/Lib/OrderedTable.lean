import Mathlib.Algebra.Order.Ring.Int
import Mathlib.Data.List.Basic
import Mathlib.Data.List.Nodup

/-!
# Tables in insertion order

A hash table that iterates in insertion order, as a list of its entries: an update of a present
key keeps its place, a new key goes to the end. `find_update` and `find_delete` are all that a
lookup can see of the two writes, and both keep the keys distinct.
-/

namespace PhpDuckdb.OrderedTable

universe u v

variable {Key : Type u} {Value : Type v} [DecidableEq Key]

/-- The value that a table has under a key. -/
def find (key : Key) : List (Key × Value) → Option Value
  | [] => none
  | (stored, value) :: rest => if stored = key then some value else find key rest

/-- Store a value under a key, in its place or at the end. -/
def update (key : Key) (value : Value) : List (Key × Value) → List (Key × Value)
  | [] => [(key, value)]
  | (stored, old) :: rest =>
    if stored = key then (key, value) :: rest else (stored, old) :: update key value rest

/-- Remove a key with its value. -/
def delete (key : Key) (table : List (Key × Value)) : List (Key × Value) :=
  table.filter fun entry => entry.1 ≠ key

/-- The keys of a table, in the order of their entries. -/
def keys (table : List (Key × Value)) : List Key := table.map Prod.fst

omit [DecidableEq Key] in
@[simp]
theorem keys_nil : keys ([] : List (Key × Value)) = [] := rfl

omit [DecidableEq Key] in
@[simp]
theorem keys_cons (entry : Key × Value) (rest : List (Key × Value)) :
    keys (entry :: rest) = entry.1 :: keys rest := rfl

@[simp]
theorem find_nil (key : Key) : find key ([] : List (Key × Value)) = none := rfl

/-- After an update the key is found with the new value and the others as before. -/
theorem find_update (key other : Key) (value : Value) (table : List (Key × Value)) :
    find other (update key value table) = if key = other then some value else find other table := by
  induction table with
  | nil => rfl
  | cons entry rest ih =>
    obtain ⟨stored, old⟩ := entry
    by_cases same : stored = key
    · subst same
      by_cases here : stored = other <;> simp [update, find, here]
    · by_cases here : stored = other
      · subst here
        simp [update, find, same, Ne.symm same]
      · simp [update, find, same, here, ih]

/-- After a removal the key is not found and the others are found as before. -/
theorem find_delete (key other : Key) (table : List (Key × Value)) :
    find other (delete key table) = if key = other then none else find other table := by
  induction table with
  | nil => simp [delete]
  | cons entry rest ih =>
    obtain ⟨stored, old⟩ := entry
    simp only [delete] at ih ⊢
    by_cases same : stored = key
    · subst same
      by_cases here : stored = other
      · simpa [here] using ih
      · simpa [find, here] using ih
    · by_cases here : stored = other
      · subst here
        simp [find, same, Ne.symm same]
      · simpa [find, same, here] using ih

/-- A key is there when a lookup finds it. -/
theorem mem_keys {key : Key} {table : List (Key × Value)} :
    key ∈ keys table ↔ ∃ value, find key table = some value := by
  induction table with
  | nil => simp
  | cons entry rest ih =>
    obtain ⟨stored, old⟩ := entry
    by_cases same : stored = key
    · simp [find, same]
    · simp [find, same, Ne.symm same, ih]

/-- What a lookup finds is an entry. -/
theorem mem_of_find {key : Key} {value : Value} {table : List (Key × Value)}
    (found : find key table = some value) : (key, value) ∈ table := by
  induction table with
  | nil => cases found
  | cons entry rest ih =>
    obtain ⟨stored, old⟩ := entry
    rw [find] at found
    split at found
    · rename_i same
      obtain rfl := Option.some.inj found
      exact same ▸ List.mem_cons_self
    · exact List.mem_cons_of_mem _ (ih found)

/-- An entry of a table with distinct keys is what a lookup finds. -/
theorem mem_iff_find {table : List (Key × Value)} (distinct : (keys table).Nodup) {key : Key}
    {value : Value} : (key, value) ∈ table ↔ find key table = some value := by
  induction table with
  | nil => simp
  | cons entry rest ih =>
    obtain ⟨stored, old⟩ := entry
    obtain ⟨fresh, others⟩ := List.nodup_cons.mp distinct
    by_cases same : stored = key
    · subst same
      have absent : (stored, value) ∉ rest := fun found =>
        fresh (List.mem_map.mpr ⟨_, found, rfl⟩)
      simp [find, absent, eq_comm]
    · simp [find, same, Ne.symm same, ih others]

/-- An update adds its key to those that were there. -/
theorem mem_keys_update {key other : Key} {value : Value} {table : List (Key × Value)} :
    other ∈ keys (update key value table) ↔ other = key ∨ other ∈ keys table := by
  rw [mem_keys, mem_keys]
  by_cases same : key = other
  · simp [find_update, same]
  · simp [find_update, same, Ne.symm same]

/-- An update adds one entry at most. -/
theorem mem_update {key : Key} {value : Value} {entry : Key × Value} {table : List (Key × Value)}
    (is : entry ∈ update key value table) : entry ∈ table ∨ entry = (key, value) := by
  induction table with
  | nil => exact .inr (List.mem_singleton.mp is)
  | cons first rest ih =>
    rw [update] at is
    split at is
    · obtain rfl | old := List.mem_cons.mp is
      · exact .inr rfl
      · exact .inl (List.mem_cons_of_mem _ old)
    · obtain rfl | later := List.mem_cons.mp is
      · exact .inl List.mem_cons_self
      · exact (ih later).imp_left (List.mem_cons_of_mem _)

/-- An update keeps the keys distinct. -/
theorem nodup_update {table : List (Key × Value)} (distinct : (keys table).Nodup) (key : Key)
    (value : Value) : (keys (update key value table)).Nodup := by
  induction table with
  | nil => simp [update]
  | cons entry rest ih =>
    obtain ⟨stored, old⟩ := entry
    obtain ⟨fresh, others⟩ := List.nodup_cons.mp distinct
    by_cases same : stored = key
    · subst same
      simpa [update] using distinct
    · have absent : stored ∉ keys (update key value rest) := by
        rw [mem_keys_update]
        exact fun found => found.elim same fresh
      simpa [update, same] using ⟨absent, ih others⟩

/-- A new key makes a table longer, and a present one does not. -/
theorem length_update (key : Key) (value : Value) (table : List (Key × Value)) :
    (update key value table).length =
      if find key table = none then table.length + 1 else table.length := by
  induction table with
  | nil => rfl
  | cons entry rest ih =>
    obtain ⟨stored, old⟩ := entry
    by_cases same : stored = key
    · simp [update, find, same]
    · simp only [update, find, same, if_false, List.length_cons, ih]
      split <;> rfl

/-- A key that is not there is not found. -/
theorem find_eq_none {key : Key} {table : List (Key × Value)} :
    find key table = none ↔ key ∉ keys table := by
  rw [mem_keys]
  cases find key table with
  | none => exact iff_of_true rfl nofun
  | some value => exact iff_of_false nofun fun absent => absent ⟨value, rfl⟩

/-- A new key goes to the end. -/
theorem update_new {key : Key} (value : Value) {table : List (Key × Value)}
    (fresh : key ∉ keys table) : update key value table = table ++ [(key, value)] := by
  induction table with
  | nil => rfl
  | cons entry rest ih =>
    obtain ⟨stored, old⟩ := entry
    rw [keys_cons, List.mem_cons, not_or] at fresh
    rw [update, if_neg (Ne.symm fresh.1), ih fresh.2]
    rfl

omit [DecidableEq Key] in
/-- A new value in a place leaves the keys alone. -/
theorem keys_modify (value : Value) (table : List (Key × Value)) (place : Nat) :
    keys (table.modify place fun entry => (entry.1, value)) = keys table := by
  induction table generalizing place with
  | nil => cases place <;> rfl
  | cons entry rest ih =>
    cases place with
    | zero => rfl
    | succ place => exact congrArg (entry.1 :: ·) (ih place)

/-- An update of a key that is present keeps every key in its place. -/
theorem update_present {key : Key} (value : Value) {table : List (Key × Value)}
    (distinct : (keys table).Nodup) {place : Nat} (there : (keys table)[place]? = some key) :
    update key value table = table.modify place fun entry => (entry.1, value) := by
  induction table generalizing place with
  | nil => cases there
  | cons entry rest ih =>
    obtain ⟨stored, old⟩ := entry
    obtain ⟨fresh, others⟩ := List.nodup_cons.mp distinct
    cases place with
    | zero =>
      obtain rfl := Option.some.inj there
      rw [update, if_pos rfl]
      rfl
    | succ place =>
      have later : (keys rest)[place]? = some key := there
      have apart : stored ≠ key := fun same => fresh (same ▸ List.mem_of_getElem? later)
      rw [update, if_neg apart, ih others later]
      rfl

/-- A removal goes through the entries one by one. -/
theorem delete_cons (key : Key) (entry : Key × Value) (rest : List (Key × Value)) :
    delete key (entry :: rest) = if entry.1 = key then delete key rest else entry :: delete key rest := by
  by_cases same : entry.1 = key <;> simp [delete, same]

/-- A key that is not there is removed already. -/
theorem delete_absent {key : Key} {table : List (Key × Value)} (absent : key ∉ keys table) :
    delete key table = table := by
  induction table with
  | nil => rfl
  | cons entry rest ih =>
    rw [keys_cons, List.mem_cons, not_or] at absent
    rw [delete_cons, if_neg (Ne.symm absent.1), ih absent.2]

/-- A removal keeps the keys distinct. -/
theorem nodup_delete {table : List (Key × Value)} (distinct : (keys table).Nodup) (key : Key) :
    (keys (delete key table)).Nodup :=
  distinct.sublist (List.filter_sublist.map Prod.fst)

/-- The value under a key, or what every absent key has. -/
def lookup (absent : Value) (key : Key) (table : List (Key × Value)) : Value :=
  (find key table).getD absent

/-- A lookup with a value for absent keys, after an update. -/
theorem lookup_update (absent : Value) (key other : Key) (value : Value)
    (table : List (Key × Value)) :
    lookup absent other (update key value table) =
      if key = other then value else lookup absent other table := by
  rw [lookup, find_update]
  split <;> rfl

/-- The sum of a measure over a table. -/
def total (measure : Value → Nat) (table : List (Key × Value)) : Nat :=
  (table.map fun entry => measure entry.2).sum

/-- An update takes the measure of the old value out of the sum and adds that of the new one,
when absent keys measure nothing. -/
theorem total_update {measure : Value → Nat} (absent : Value) (nothing : measure absent = 0)
    (key : Key) (value : Value) (table : List (Key × Value)) :
    total measure (update key value table) + measure (lookup absent key table) =
      total measure table + measure value := by
  induction table with
  | nil => simp [total, update, lookup, nothing]
  | cons entry rest ih =>
    obtain ⟨stored, old⟩ := entry
    simp only [total, lookup] at ih ⊢
    by_cases same : stored = key
    · simp only [update, find, same, if_true, List.map_cons, List.sum_cons, Option.getD_some]
      omega
    · simp only [update, find, same, if_false, List.map_cons, List.sum_cons]
      omega

omit [DecidableEq Key] in
/-- A sum over entries that measure nothing is zero. -/
theorem total_eq_zero {measure : Value → Nat} {table : List (Key × Value)}
    (nothing : ∀ entry ∈ table, measure entry.2 = 0) : total measure table = 0 := by
  induction table with
  | nil => rfl
  | cons entry rest ih =>
    have first := nothing entry List.mem_cons_self
    have others := ih fun other inside => nothing other (List.mem_cons_of_mem entry inside)
    simp only [total, List.map_cons, List.sum_cons] at others ⊢
    omega

/-! ## Entries stored one after the other -/

/-- A table with further entries stored in order. -/
def updateAll (entries table : List (Key × Value)) : List (Key × Value) :=
  entries.foldl (fun table entry => update entry.1 entry.2 table) table

/-- A value is the last under its key. -/
def LastUnder (entries : List (Key × Value)) (key : Key) (value : Value) : Prop :=
  ∃ before after, entries = before ++ (key, value) :: after ∧ ∀ entry ∈ after, entry.1 ≠ key

omit [DecidableEq Key] in
/-- A value is the last under its key after the first entry, or that of the first. -/
theorem lastUnder_cons (entry : Key × Value) (rest : List (Key × Value)) (key : Key)
    (value : Value) : LastUnder (entry :: rest) key value ↔
      LastUnder rest key value ∨ (∀ other ∈ rest, other.1 ≠ key) ∧ entry = (key, value) := by
  constructor
  · intro ⟨before, after, split, last⟩
    cases before with
    | nil =>
      obtain ⟨same, tail⟩ := List.cons.inj split
      exact Or.inr ⟨tail ▸ last, same⟩
    | cons first before =>
      obtain ⟨_, tail⟩ := List.cons.inj split
      exact Or.inl ⟨before, after, tail, last⟩
  · intro split
    cases split with
    | inl later =>
      obtain ⟨before, after, split, last⟩ := later
      exact ⟨entry :: before, after, congrArg (entry :: ·) split, last⟩
    | inr first => exact ⟨[], rest, congrArg (· :: rest) first.2, first.1⟩

/-- A lookup after entries finds the last under its key, or what was there before them. -/
theorem find_updateAll (entries table : List (Key × Value)) (key : Key) (value : Value) :
    find key (updateAll entries table) = some value ↔
      LastUnder entries key value ∨
        (∀ entry ∈ entries, entry.1 ≠ key) ∧ find key table = some value := by
  induction entries generalizing table with
  | nil =>
    constructor
    · exact fun found => Or.inr ⟨nofun, found⟩
    · intro split
      cases split with
      | inl last =>
        obtain ⟨before, after, split, _⟩ := last
        cases before <;> cases split
      | inr found => exact found.2
  | cons entry rest ih =>
    obtain ⟨stored, new⟩ := entry
    show find key (updateAll rest (update stored new table)) = some value ↔ _
    rw [ih, lastUnder_cons, find_update, List.forall_mem_cons, Prod.mk.injEq]
    by_cases same : stored = key
    · simp only [same, if_true, Option.some.injEq, ne_eq, not_true_eq_false, false_and, or_false,
        true_and]
    · simp only [same, if_false, ne_eq, not_false_eq_true, true_and, false_and, and_false,
        or_false]

/-- The keys of the table that entries make are theirs. -/
theorem keys_updateAll {entries : List (Key × Value)} {key : Key}
    (there : key ∈ keys (updateAll entries [])) : key ∈ keys entries := by
  obtain ⟨value, found⟩ := mem_keys.mp there
  cases (find_updateAll entries [] key value).mp found with
  | inl last =>
    obtain ⟨before, after, split, _⟩ := last
    rw [split, keys, List.map_append]
    exact List.mem_append_right _ List.mem_cons_self
  | inr absent => cases absent.2

/-- Updating with any entries keeps the keys of a table distinct. -/
theorem nodup_updateAll (entries : List (Key × Value)) {table : List (Key × Value)}
    (distinct : (keys table).Nodup) : (keys (updateAll entries table)).Nodup := by
  induction entries generalizing table with
  | nil => exact distinct
  | cons entry rest ih => exact ih (nodup_update distinct entry.1 entry.2)

/-- Entries with distinct keys that a table does not have go to its end. -/
theorem updateAll_append {entries table : List (Key × Value)}
    (distinct : (keys table ++ keys entries).Nodup) : updateAll entries table = table ++ entries := by
  induction entries generalizing table with
  | nil => exact (List.append_nil table).symm
  | cons entry rest ih =>
    have fresh : entry.1 ∉ keys table := by
      intro there
      exact (List.nodup_append.mp distinct).2.2 _ there _ List.mem_cons_self rfl
    have moved : keys (table ++ [entry]) ++ keys rest = keys table ++ keys (entry :: rest) := by
      rw [keys, keys, keys, keys, List.map_append, List.append_assoc]
      rfl
    show updateAll rest (update entry.1 entry.2 table) = _
    rw [update_new entry.2 fresh, ih (moved ▸ distinct), List.append_assoc]
    rfl

/-- Entries with distinct keys are the table that they make. -/
theorem updateAll_distinct {entries : List (Key × Value)} (distinct : (keys entries).Nodup) :
    updateAll entries [] = entries := updateAll_append distinct

/-- Entries make a table at most as long as they are. -/
theorem length_updateAll_le (entries table : List (Key × Value)) :
    (updateAll entries table).length ≤ table.length + entries.length := by
  induction entries generalizing table with
  | nil => exact Nat.le_refl _
  | cons entry rest ih =>
    have later := ih (update entry.1 entry.2 table)
    have first := length_update entry.1 entry.2 table
    show (updateAll rest (update entry.1 entry.2 table)).length ≤ _
    rw [List.length_cons]
    split at first <;> omega

/-- Entries that all are in the table that they make have distinct keys. -/
theorem distinct_of_length {entries table : List (Key × Value)}
    (all : (updateAll entries table).length = table.length + entries.length)
    (distinct : (keys table).Nodup) : (keys table ++ keys entries).Nodup := by
  induction entries generalizing table with
  | nil =>
    rw [keys_nil, List.append_nil]
    exact distinct
  | cons entry rest ih =>
    have later := length_updateAll_le rest (update entry.1 entry.2 table)
    have first := length_update entry.1 entry.2 table
    have whole : (updateAll rest (update entry.1 entry.2 table)).length =
        table.length + (rest.length + 1) := all
    have longer : (update entry.1 entry.2 table).length = table.length + 1 := by
      split at first <;> omega
    have fresh : entry.1 ∉ keys table := by
      rw [← find_eq_none]
      cases found : find entry.1 table with
      | none => rfl
      | some value =>
        rw [found] at first
        have same : (update entry.1 entry.2 table).length = table.length := first
        omega
    have others := ih (by omega) (nodup_update distinct entry.1 entry.2)
    rw [update_new entry.2 fresh] at others
    have moved : keys (table ++ [entry]) ++ keys rest = keys table ++ keys (entry :: rest) := by
      rw [keys, keys, keys, keys, List.map_append, List.append_assoc]
      rfl
    exact moved ▸ others

end PhpDuckdb.OrderedTable
