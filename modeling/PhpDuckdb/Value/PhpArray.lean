import PhpDuckdb.Lib.OrderedTable
import PhpDuckdb.Value.Conversion
import PhpDuckdb.Value.FieldNames

/-!
# PHP arrays that are built

The insertions into a PHP array: under a name, which PHP turns into an integer when it spells one,
under an integer, and at the next free index, which depends on the integers before it.
-/

namespace PhpDuckdb.Value

open SqlText OrderedTable

/-- The versions of PHP, by the next free index after a negative one. -/
inductive PhpVersion where
  /-- PHP 8.2: the next free index is never negative. -/
  | php82
  /-- PHP 8.3 and later: it is one more than the first index. -/
  | php83
deriving DecidableEq, Repr

/-- A PHP array: its entries in order, and the next free integer key. -/
structure PhpArray (Value : Type) where
  /-- The entries in order. -/
  entries : List (Key × Value)
  /-- `nNextFreeElement`. -/
  next : Int64

/-- `nNextFreeElement` of a new array, which PHP 8.3 changed. -/
def PhpVersion.firstFree : PhpVersion → Int64
  | .php82 => 0
  | .php83 => Int64.minValue

namespace PhpArray

variable {Value : Type}

/-- `array_init`: no entries, and the first free key of the PHP version. -/
def empty (version : PhpVersion) : PhpArray Value := ⟨[], version.firstFree⟩

/-- `zend_hash_index_update`: an entry under an integer key, which can move the next free one. -/
def addIndex (array : PhpArray Value) (index : Int64) (value : Value) : PhpArray Value :=
  ⟨update (.index index) value array.entries,
    if array.next ≤ index then if index < Int64.maxValue then index + 1 else Int64.maxValue
    else array.next⟩

/-- `zend_symtable_str_update`: an entry under a text, which may spell an integer key. -/
def addAssoc (array : PhpArray Value) (name : Bytes) (value : Value) : PhpArray Value :=
  match symKey name with
  | .index index => array.addIndex index value
  | .name text => { array with entries := update (.name text) value array.entries }

/-- The index that `zend_hash_next_index_insert` takes next. -/
def nextIndex (array : PhpArray Value) : Int64 :=
  if array.next = Int64.minValue then 0 else array.next

/-- `zend_hash_next_index_insert`: it inserts nothing when the index is taken. -/
def addNextIndex (array : PhpArray Value) (value : Value) : PhpArray Value :=
  match find (.index array.nextIndex) array.entries with
  | some _ => array
  | none => array.addIndex array.nextIndex value

/-- The entries after an insertion under a name. -/
@[simp]
theorem addAssoc_entries (array : PhpArray Value) (name : Bytes) (value : Value) :
    (array.addAssoc name value).entries = update (symKey name) value array.entries := by
  rw [addAssoc]
  cases symKey name <;> rfl

/-- An insertion under an integer updates the entry of that integer. -/
@[simp]
theorem addIndex_entries (array : PhpArray Value) (index : Int64) (value : Value) :
    (array.addIndex index value).entries = update (.index index) value array.entries := rfl

/-- Insertions under names, one after the other. -/
def addAll (array : PhpArray Value) (columns : List (Bytes × Value)) : PhpArray Value :=
  columns.foldl (fun array column => array.addAssoc column.1 column.2) array

/-- The entries of an array after values were inserted under names. -/
theorem addAll_entries (array : PhpArray Value) (columns : List (Bytes × Value)) :
    (array.addAll columns).entries =
      updateAll (columns.map fun column => (symKey column.1, column.2)) array.entries := by
  induction columns generalizing array with
  | nil => rfl
  | cons column rest ih =>
    show ((array.addAssoc column.1 column.2).addAll rest).entries = _
    rw [ih, addAssoc_entries]
    rfl

/-! ## Lists -/

/-- An array has the indexes below a count, in order, and the next one is free. -/
structure IsList (count : Nat) (array : PhpArray Value) : Prop where
  /-- The indexes in order. -/
  indexes : keys array.entries = (List.range count).map fun index => .index (Int64.ofNat index)
  /-- The next free one. -/
  free : array.next = Int64.ofNat count ∨ count = 0 ∧ array.next = Int64.minValue

/-- An array without entries is a list. -/
theorem isList_empty (version : PhpVersion) : (PhpArray.empty version : PhpArray Value).IsList 0 := by
  refine ⟨rfl, ?_⟩
  cases version with
  | php82 => exact Or.inl rfl
  | php83 => exact Or.inr ⟨rfl, rfl⟩

/-- An index below 2^63 is its number. -/
theorem ofNat_toInt {index : Nat} (small : index < 2 ^ 63) :
    (Int64.ofNat index).toInt = index := by
  rw [← Int64.ofInt_eq_ofNat]
  exact Int64.toInt_ofInt_of_le (by omega) (by omega)

/-- The next value of a list goes to its end. -/
theorem IsList.addNextIndex {array : PhpArray Value} {count : Nat} (list : array.IsList count)
    (small : count + 1 < 2 ^ 63) (value : Value) :
    (array.addNextIndex value).IsList (count + 1) ∧
      (array.addNextIndex value).entries =
        array.entries ++ [(.index (Int64.ofNat count), value)] := by
  have next : array.nextIndex = Int64.ofNat count := by
    unfold nextIndex
    split
    · rename_i lowest
      cases list.free with
      | inl free =>
        have value := congrArg Int64.toInt (free.symm.trans lowest)
        rw [ofNat_toInt (by omega)] at value
        have low : (Int64.minValue).toInt = -9223372036854775808 := rfl
        omega
      | inr free => rw [free.1]; rfl
    · rename_i given
      cases list.free with
      | inl free => exact free
      | inr free => exact absurd free.2 given
  have fresh : Key.index (Int64.ofNat count) ∉ keys array.entries := by
    rw [list.indexes]
    intro there
    obtain ⟨index, below, same⟩ := List.mem_map.mp there
    have value := congrArg Int64.toInt (Key.index.inj same)
    have small := List.mem_range.mp below
    rw [ofNat_toInt (by omega), ofNat_toInt (by omega)] at value
    omega
  have added : array.addNextIndex value = array.addIndex (Int64.ofNat count) value := by
    rw [PhpArray.addNextIndex, next, find_eq_none.mpr fresh]
  have appended : (array.addNextIndex value).entries =
      array.entries ++ [(.index (Int64.ofNat count), value)] := by
    rw [added, addIndex_entries, update_new value fresh]
  refine ⟨⟨?_, Or.inl ?_⟩, appended⟩
  · rw [appended, keys, List.map_append, List.range_succ, List.map_append]
    exact congrArg (· ++ _) list.indexes
  · have reached : array.next ≤ Int64.ofNat count := by
      cases list.free with
      | inl free => exact free ▸ Int64.le_refl _
      | inr free => exact free.2 ▸ Int64.minValue_le _
    have below : Int64.ofNat count < Int64.maxValue := by
      rw [Int64.lt_iff_toInt_lt, ofNat_toInt (by omega)]
      show (count : Int) < 9223372036854775807
      omega
    rw [added, addIndex, if_pos reached, if_pos below]
    exact (Int64.ofNat_add count 1).symm

/-- Values that go to the end of a list one after the other. -/
theorem IsList.append {array : PhpArray Value} {count : Nat} (list : array.IsList count)
    (values : List Value) (small : count + values.length < 2 ^ 63) :
    (values.foldl PhpArray.addNextIndex array).entries = array.entries ++
      (values.zipIdx count).map fun entry => (.index (Int64.ofNat entry.2), entry.1) := by
  induction values generalizing array count with
  | nil => exact (List.append_nil _).symm
  | cons value rest ih =>
    rw [List.length_cons] at small
    obtain ⟨longer, appended⟩ := list.addNextIndex (by omega) value
    rw [List.foldl_cons, ih longer (by omega), appended, List.zipIdx_cons, List.map_cons,
      List.append_assoc]
    rfl

end PhpArray

/-! ## Keys of names -/

/-- A text that is read as an integer key spells it. -/
theorem numericKey_spells {text : Bytes} {number : Int64} (spelled : numericKey text = some number) :
    signedDecimal number.toInt = text := by
  have shape : ∃ (value : Int) (short : Bool), numericKey text =
      if short && decide (signedDecimal value = text) && decide (-(2 ^ 63) ≤ value) &&
        decide (value < 2 ^ 63) then some (Int64.ofInt value) else none := ⟨_, _, rfl⟩
  obtain ⟨value, short, shape⟩ := shape
  rw [shape] at spelled
  split at spelled
  · rename_i checks
    simp only [Bool.and_eq_true, decide_eq_true_eq] at checks
    obtain ⟨⟨⟨_, spells⟩, low⟩, high⟩ := checks
    obtain rfl := Option.some.inj spelled
    rw [Int64.toInt_ofInt_of_le low high]
    exact spells
  · cases spelled

/-- A name is told by its key. -/
theorem symKey_injective {first second : Bytes} (same : symKey first = symKey second) :
    first = second := by
  unfold symKey at same
  cases one : numericKey first with
  | none =>
    cases two : numericKey second with
    | none =>
      rw [one, two] at same
      exact Key.name.inj same
    | some number =>
      rw [one, two] at same
      cases same
  | some number =>
    cases two : numericKey second with
    | none =>
      rw [one, two] at same
      cases same
    | some other =>
      rw [one, two] at same
      rw [← numericKey_spells one, ← numericKey_spells two, Key.index.inj same]

/-- Different integers have different decimal spellings. -/
theorem signedDecimal_injective {first second : Int}
    (same : signedDecimal first = signedDecimal second) : first = second := by
  have signs (number : Int) : (signedDecimal number).head? = some 45 ↔ number < 0 := by
    unfold signedDecimal
    split
    · rename_i negative
      exact iff_of_true rfl negative
    · rename_i positive
      exact iff_of_false (decimal_head _) positive
  have sign : first < 0 ↔ second < 0 := by rw [← signs first, same, signs second]
  unfold signedDecimal at same
  split at same
  · rename_i negative
    rw [if_pos (sign.mp negative)] at same
    have magnitude := decimal_injective (List.cons.inj same).2
    have other := sign.mp negative
    omega
  · rename_i positive
    have other : ¬ second < 0 := fun negative => positive (sign.mpr negative)
    rw [if_neg other] at same
    have magnitude := decimal_injective same
    omega

/-- The name of an integer is its decimal spelling. -/
theorem symKey_eq_index {name : Bytes} {number : Int64} :
    symKey name = .index number ↔ name = signedDecimal number.toInt := by
  constructor
  · intro same
    unfold symKey at same
    cases spelled : numericKey name with
    | none =>
      rw [spelled] at same
      cases same
    | some other =>
      rw [spelled] at same
      rw [← numericKey_spells spelled, Key.index.inj same]
  · intro same
    rw [same, symKey, numericKey_signedDecimal]

end PhpDuckdb.Value
