import PhpDuckdb.Value.PhpArray
import PhpDuckdb.Vector.Batches

/-!
# Rows as PHP arrays

A fetched row is one PHP array with its values under the names of their columns, at the positions of
the columns, or both. PHP turns a name that spells an integer into that integer, and a position is
the next free index; so the names decide whether both views of a row survive in one array.
`views_kept_iff` says which names keep them.
-/

namespace PhpDuckdb.Result

open SqlText OrderedTable Value

universe u v

/-! ## Fetching -/

/-- The insertions of a column into the array of its row. -/
def addCell {Value : Type} (array : PhpArray Value) (mode : FetchMode)
    (name : Bytes) (value : Value) : PhpArray Value :=
  match mode with
  | .assoc => array.addAssoc name value
  | .num => array.addNextIndex value
  | .both => (array.addAssoc name value).addNextIndex value

/-- An insertion of the rows of a chunk. -/
def insert {Value : Type} (array : PhpArray Value) : Vector.Insertion Value → PhpArray Value
  | .assoc name value => array.addAssoc name value
  | .nextIndex value => array.addNextIndex value

variable {Kind : Type u} {Cell : Type v} {Value : Type}

/-- The loop of `duckdb_result_fetch_row_into` over the columns: nothing when a cell cannot be
decoded. -/
def fetchColumns (decode : Vector.DecodeCtx → Kind → Cell → Option Value) (mode : FetchMode)
    (row : UInt64) :
    Nat → List (Vector.Column Kind Cell) → List Cell → PhpArray Value → Option (PhpArray Value)
  | index, column :: columns, cell :: cells, array =>
    match decode ⟨index, row⟩ column.type cell with
    | none => none
    | some value =>
      fetchColumns decode mode row (index + 1) columns cells (addCell array mode column.name value)
  | _, _, _, array => some array

/-- `duckdb_result_fetch_row_into` of a row of a chunk. -/
def fetchRowOf (version : PhpVersion) (decode : Vector.DecodeCtx → Kind → Cell → Option Value)
    (mode : FetchMode) (chunk : Vector.Chunk Kind Cell) (row : Nat) :
    Option (PhpArray Value) :=
  fetchColumns decode mode (UInt64.ofNat row) 0 chunk.columns (chunk.row row) (.empty version)

/-- The insertions of a column, one after the other. -/
theorem insert_cell (array : PhpArray Value) (mode : FetchMode) (name : Bytes)
    (value : Value) :
    (Vector.cellInsertions mode name value).foldl insert array =
      addCell array mode name value := by
  cases mode <;> rfl

/-- A fetched row is the array that the insertions of a converted row make. -/
theorem fetchColumns_eq (decode : Vector.DecodeCtx → Kind → Cell → Option Value)
    (mode : FetchMode) (row : UInt64) (index : Nat) (columns : List (Vector.Column Kind Cell))
    (cells : List Cell) (array : PhpArray Value) :
    fetchColumns decode mode row index columns cells array =
      (Vector.decodeRow decode mode row index columns cells).map
        fun insertions => insertions.foldl insert array := by
  induction columns generalizing index cells array with
  | nil => rfl
  | cons column columns ih =>
    cases cells with
    | nil => rfl
    | cons cell cells =>
      rw [fetchColumns, Vector.decodeRow]
      cases decode ⟨index, row⟩ column.type cell with
      | none => rfl
      | some value =>
        dsimp only [Option.bind_eq_bind, Option.bind_some]
        rw [ih]
        cases Vector.decodeRow decode mode row (index + 1) columns cells with
        | none => rfl
        | some rest =>
          rw [Option.map_some, Option.bind_some, Option.map_some, List.foldl_append, insert_cell]

/-- The rows of a converted chunk are the fetched ones. -/
theorem chunkRows_fetched (version : PhpVersion)
    (native : Vector.NativeChunks Cell) (decode : Vector.DecodeCtx → Kind → Cell → Option Value)
    (vectorSize : Vector.VectorSize) (mode : FetchMode) (chunk : Vector.Chunk Kind Cell)
    {fuel : Nat} (enough : chunk.size.toNat < fuel) :
    (Vector.duckdbDataChunkRows native decode vectorSize mode chunk fuel).map
        (Option.map (List.map fun insertions =>
          insertions.foldl insert (PhpArray.empty version))) =
      some ((List.range' 0 chunk.size.toNat).mapM (fetchRowOf version decode mode chunk)) := by
  rw [Vector.duckdbDataChunkRows_eq native decode vectorSize mode chunk enough, Option.map_some]
  congr 1
  induction List.range' 0 chunk.size.toNat with
  | nil => rfl
  | cons row rest ih =>
    rw [List.mapM_cons, List.mapM_cons, ← ih, fetchRowOf, fetchColumns_eq]
    show Option.map _ (Option.bind (chunk.rowArray decode mode row) _) =
      Option.bind (Option.map _ (chunk.rowArray decode mode row)) _
    cases chunk.rowArray decode mode row with
    | none => rfl
    | some insertions =>
      cases rest.mapM (chunk.rowArray decode mode) <;> rfl

/-! ## Names that keep both views -/

/-- The array of a row with both views. -/
def bothRow (version : PhpVersion) (columns : List (Bytes × Value)) : PhpArray Value :=
  columns.foldl (fun array column => addCell array .both column.1 column.2) (.empty version)

/-- Both views of a row: every value is at the position of its column, and the last value of every
name is under the name. -/
structure KeepsViews (names : List Bytes) (values : List Value) (array : PhpArray Value) : Prop where
  /-- The positional view. -/
  positions : ∀ index value, values[index]? = some value →
    find (.index (Int64.ofNat index)) array.entries = some value
  /-- The named view. -/
  names : ∀ name value, LastUnder (names.zip values) name value →
    find (symKey name) array.entries = some value

/-- A name that takes no position: it spells no integer, or a negative one that leaves the next free
index alone. After a first name `-1` PHP goes on at 0; after another negative one it does so before
PHP 8.3 only. -/
def Harmless (version : PhpVersion) (index : Nat) (name : Bytes) : Prop :=
  ∀ number, symKey name = .index number →
    number < 0 ∧ (index = 0 → version = .php82 ∨ number = -1)

/-- A name that spells the position of its column. -/
def Spells (index : Nat) (name : Bytes) : Prop := symKey name = .index (Int64.ofNat index)

/-- The names of the columns from a position on: harmless ones, and from the first that spells its
position on all do. -/
def KeepingFrom (version : PhpVersion) : Nat → Bool → List Bytes → Prop
  | _, _, [] => True
  | index, spelled, name :: rest =>
    (spelled = false ∧ Harmless version index name ∧ KeepingFrom version (index + 1) false rest) ∨
      (Spells index name ∧ KeepingFrom version (index + 1) true rest)

/-- The array behind some columns whose names keep both views. `named` has the values under their
names in order. Once a name has spelled its position, the last value is also at the next one. -/
structure Kept (version : PhpVersion) (values : List Value) (named : List (Key × Value))
    (spelled : Bool) (array : PhpArray Value) : Prop where
  /-- The positions, and nothing behind them. -/
  positions : ∀ index : Nat, index < 2 ^ 63 → find (.index (Int64.ofNat index)) array.entries =
    if spelled = true ∧ index = values.length then values.getLast? else values[index]?
  /-- The next free index. -/
  free : (spelled = true ∧ array.next = Int64.ofNat (values.length + 1)) ∨
    (spelled = false ∧ array.next = Int64.ofNat values.length) ∨
    (spelled = false ∧ values = [] ∧ version = .php83 ∧ array.next = Int64.minValue)
  /-- What is under other keys. -/
  others : ∀ key, (∀ number, key = .index number → number < 0) →
    find key array.entries = find key (updateAll named [])

/-! ## One insertion -/

/-- Two positions below 2^63 have different keys. -/
theorem index_injective {one two : Nat} (small : one < 2 ^ 63) (also : two < 2 ^ 63)
    (same : Int64.ofNat one = Int64.ofNat two) : one = two := by
  have numbers := congrArg Int64.toInt same
  rw [PhpArray.ofNat_toInt small, PhpArray.ofNat_toInt also] at numbers
  omega

/-- An index that fits a PHP integer is not negative. -/
theorem index_positive {index : Nat} (small : index < 2 ^ 63) : ¬ Int64.ofNat index < 0 := by
  rw [Int64.lt_iff_toInt_lt, PhpArray.ofNat_toInt small, Int64.toInt_zero]
  omega

/-- One more value under a name is found under that name alone. -/
theorem find_named (named : List (Key × Value)) (key other : Key) (value : Value) :
    find other (updateAll (named ++ [(key, value)]) []) =
      if key = other then some value else find other (updateAll named []) := by
  rw [updateAll, List.foldl_append]
  exact find_update key other value (updateAll named [])

variable {version : PhpVersion} {values : List Value} {named : List (Key × Value)}
  {spelled : Bool} {array : PhpArray Value}

/-- A value inserted at the next position is kept with those before it. -/
theorem Kept.addIndex (kept : Kept version values named spelled array)
    (few : values.length + 1 < 2 ^ 63) (value : Value) :
    Kept version (values ++ [value]) named false
      (array.addIndex (Int64.ofNat values.length) value) where
  positions index small := by
    rw [PhpArray.addIndex_entries, find_update, kept.positions index small]
    by_cases here : values.length = index
    · subst here
      simp
    · have differ : Key.index (Int64.ofNat values.length) ≠ .index (Int64.ofNat index) :=
        fun same => here (index_injective (by omega) small (Key.index.inj same))
      have behind : index ≠ values.length := Ne.symm here
      rw [if_neg differ, if_neg (fun both => behind both.2), if_neg (fun both => nomatch both.1)]
      by_cases inside : index < values.length
      · rw [List.getElem?_append_left inside]
      · have past : (values ++ [value]).length ≤ index := by
          rw [List.length_append, List.length_singleton]
          omega
        rw [List.getElem?_eq_none (Nat.le_of_not_lt inside), List.getElem?_eq_none past]
  free := by
    right
    left
    refine ⟨rfl, ?_⟩
    rw [List.length_append, List.length_singleton]
    have below : Int64.ofNat values.length < Int64.maxValue := by
      rw [Int64.lt_iff_toInt_lt, PhpArray.ofNat_toInt (by omega)]
      show (values.length : Int) < 9223372036854775807
      omega
    have successor : Int64.ofNat values.length + 1 = Int64.ofNat (values.length + 1) :=
      (Int64.ofNat_add values.length 1).symm
    obtain ⟨-, next⟩ | ⟨-, next⟩ | ⟨-, none, -, next⟩ := kept.free
    · have ahead : ¬ array.next ≤ Int64.ofNat values.length := by
        rw [next, Int64.le_iff_toInt_le, PhpArray.ofNat_toInt few, PhpArray.ofNat_toInt (by omega)]
        omega
      rw [PhpArray.addIndex, if_neg ahead]
      exact next
    · have reached : array.next ≤ Int64.ofNat values.length := next ▸ Int64.le_refl _
      rw [PhpArray.addIndex, if_pos reached, if_pos below]
      exact successor
    · have reached : array.next ≤ Int64.ofNat values.length := next ▸ Int64.minValue_le _
      rw [PhpArray.addIndex, if_pos reached, if_pos below]
      exact successor
  others key other := by
    have differ : Key.index (Int64.ofNat values.length) ≠ key := fun same =>
      index_positive (by omega) (other _ same.symm)
    rw [PhpArray.addIndex_entries, find_update, if_neg differ]
    exact kept.others key other

/-- The next free index is the next position. -/
theorem Kept.nextIndex (kept : Kept version values named false array)
    (few : values.length < 2 ^ 63) : array.nextIndex = Int64.ofNat values.length := by
  rw [PhpArray.nextIndex]
  obtain ⟨contra, -⟩ | ⟨-, next⟩ | ⟨-, none, -, next⟩ := kept.free
  · cases contra
  · have positive : array.next ≠ Int64.minValue := by
      intro lowest
      have numbers := congrArg Int64.toInt (next.symm.trans lowest)
      rw [PhpArray.ofNat_toInt few] at numbers
      have low : (Int64.minValue).toInt = -9223372036854775808 := rfl
      omega
    rw [if_neg positive]
    exact next
  · rw [if_pos next, none]
    rfl

/-- Nothing is at the next position yet. -/
theorem Kept.absent (kept : Kept version values named false array) (few : values.length < 2 ^ 63) :
    find (.index (Int64.ofNat values.length)) array.entries = none := by
  rw [kept.positions values.length few, if_neg (fun both => nomatch both.1)]
  exact List.getElem?_eq_none (Nat.le_refl _)

/-- The next value takes the next position. -/
theorem Kept.addNextIndex_eq (kept : Kept version values named false array)
    (few : values.length < 2 ^ 63) (value : Value) :
    array.addNextIndex value = array.addIndex (Int64.ofNat values.length) value := by
  rw [PhpArray.addNextIndex, kept.nextIndex few, kept.absent few]

/-- A name that takes no position changes none. -/
theorem Kept.addAssoc (kept : Kept version values named false array)
    (few : values.length < 2 ^ 63) {name : Bytes} (harmless : Harmless version values.length name)
    (value : Value) :
    Kept version values (named ++ [(symKey name, value)]) false (array.addAssoc name value) where
  positions index small := by
    have differ : symKey name ≠ .index (Int64.ofNat index) := fun same =>
      index_positive small (harmless _ same).1
    rw [PhpArray.addAssoc_entries, find_update, if_neg differ]
    exact kept.positions index small
  free := by
    right
    rw [PhpArray.addAssoc]
    cases key : symKey name with
    | name text =>
      cases kept.free with
      | inl contra => cases contra.1
      | inr free => exact free
    | index number =>
      obtain ⟨negative, first⟩ := harmless number key
      obtain ⟨contra, -⟩ | ⟨-, next⟩ | ⟨-, none, version_, next⟩ := kept.free
      · cases contra
      · left
        have ahead : ¬ array.next ≤ number := by
          rw [Int64.lt_iff_toInt_lt, Int64.toInt_zero] at negative
          rw [next, Int64.le_iff_toInt_le, PhpArray.ofNat_toInt few]
          omega
        show false = false ∧ (array.addIndex number value).next = _
        rw [PhpArray.addIndex, if_neg ahead]
        exact ⟨rfl, next⟩
      · left
        have last : number = -1 := by
          cases first (by rw [none]; rfl) with
          | inl older => cases older.symm.trans version_
          | inr last => exact last
        have reached : array.next ≤ number := next ▸ Int64.minValue_le _
        show false = false ∧ (array.addIndex number value).next = _
        rw [PhpArray.addIndex, if_pos reached, last, none]
        refine ⟨rfl, ?_⟩
        show (if (-1 : Int64) < Int64.maxValue then (-1 : Int64) + 1 else Int64.maxValue) =
          Int64.ofNat 0
        decide
  others key other := by
    rw [PhpArray.addAssoc_entries, find_update, find_named, kept.others key other]

/-- A name that spells the next position takes it. -/
theorem Kept.addSpelled (kept : Kept version values named spelled array)
    (few : values.length + 1 < 2 ^ 63) {name : Bytes} (spells : Spells values.length name)
    (value : Value) :
    Kept version (values ++ [value]) (named ++ [(symKey name, value)]) false
      (array.addAssoc name value) := by
  have index : array.addAssoc name value =
      array.addIndex (Int64.ofNat values.length) value := by
    rw [PhpArray.addAssoc, show symKey name = _ from spells]
  obtain ⟨positions, free, others⟩ := kept.addIndex few value
  rw [index]
  refine ⟨positions, free, fun key other => ?_⟩
  have differ : symKey name ≠ key := fun same =>
    index_positive (by omega) (other _ (same.symm.trans spells))
  rw [others key other, find_named, if_neg differ]

/-- A value that is added with both of its keys is also at the position behind. -/
theorem Kept.addTwice {value : Value} (kept : Kept version (values ++ [value]) named false array)
    (few : values.length + 2 < 2 ^ 63) :
    Kept version (values ++ [value]) named true (array.addNextIndex value) := by
  have length : (values ++ [value]).length = values.length + 1 := by simp
  obtain ⟨positions, free, others⟩ := kept.addIndex (by omega) value
  rw [kept.addNextIndex_eq (by omega) value]
  refine ⟨fun index small => ?_, .inl ⟨rfl, ?_⟩, others⟩
  · rw [positions index small, if_neg (fun both => nomatch both.1)]
    by_cases behind : index = (values ++ [value]).length
    · rw [if_pos ⟨rfl, behind⟩, behind]
      simp
    · rw [if_neg (fun both => behind both.2)]
      by_cases inside : index < (values ++ [value]).length
      · rw [List.getElem?_append_left inside]
      · have past : (values ++ [value] ++ [value]).length ≤ index := by
          rw [List.length_append, List.length_singleton]
          omega
        rw [List.getElem?_eq_none (Nat.le_of_not_lt inside), List.getElem?_eq_none past]
  · obtain ⟨contra, -⟩ | ⟨-, next⟩ | ⟨-, none, -⟩ := free
    · cases contra
    · rw [next, @List.length_append _ (values ++ [value]) [value]]
      rfl
    · simp at none

/-- A column whose name takes no position. -/
theorem Kept.harmlessCell (kept : Kept version values named false array)
    (few : values.length + 2 < 2 ^ 63) {name : Bytes} (harmless : Harmless version values.length name)
    (value : Value) :
    Kept version (values ++ [value]) (named ++ [(symKey name, value)]) false
      (addCell array .both name value) := by
  have under := kept.addAssoc (by omega) harmless value
  rw [addCell, under.addNextIndex_eq (by omega) value]
  exact under.addIndex (by omega) value

/-- A column whose name spells its position. -/
theorem Kept.spelledCell (kept : Kept version values named spelled array)
    (few : values.length + 2 < 2 ^ 63) {name : Bytes} (spells : Spells values.length name)
    (value : Value) :
    Kept version (values ++ [value]) (named ++ [(symKey name, value)]) true
      (addCell array .both name value) :=
  (kept.addSpelled (by omega) spells value).addTwice few

/-! ## Whole rows -/

/-- The values of columns under the keys of their names. -/
def keyed (columns : List (Bytes × Value)) : List (Key × Value) :=
  columns.map fun column => (symKey column.1, column.2)

/-- Columns whose names keep both views, one after the other. -/
theorem Kept.run : ∀ {columns : List (Bytes × Value)} {values : List Value}
    {named : List (Key × Value)} {spelled : Bool} {array : PhpArray Value},
    Kept version values named spelled array → values.length + columns.length + 1 < 2 ^ 63 →
    KeepingFrom version values.length spelled (columns.map Prod.fst) →
    ∃ last, Kept version (values ++ columns.map Prod.snd) (named ++ keyed columns) last
      (columns.foldl (fun array column => addCell array .both column.1 column.2) array)
  | [], values, named, spelled, array, kept, _, _ => by
    refine ⟨spelled, ?_⟩
    rw [keyed, List.map_nil, List.map_nil, List.append_nil, List.append_nil]
    exact kept
  | column :: rest, values, named, spelled, array, kept, few, keeping => by
    rw [List.length_cons] at few
    have longer : (values ++ [column.2]).length = values.length + 1 := by simp
    have next : ∃ goesOn, Kept version (values ++ [column.2])
        (named ++ [(symKey column.1, column.2)]) goesOn (addCell array .both column.1 column.2) ∧
        KeepingFrom version (values.length + 1) goesOn (rest.map Prod.fst) := by
      cases keeping with
      | inl plain =>
        obtain ⟨rfl, harmless, more⟩ := plain
        exact ⟨false, kept.harmlessCell (by omega) harmless column.2, more⟩
      | inr spells => exact ⟨true, kept.spelledCell (by omega) spells.1 column.2, spells.2⟩
    obtain ⟨goesOn, kept, more⟩ := next
    rw [← longer] at more
    obtain ⟨last, whole⟩ := kept.run (by omega) more
    rw [List.append_assoc, List.append_assoc] at whole
    exact ⟨last, whole⟩

/-- Before the first column nothing is there. -/
theorem kept_empty (version : PhpVersion) :
    Kept version ([] : List Value) [] false (.empty version) where
  positions index _ := by simp [PhpArray.empty]
  free := by
    cases version with
    | php82 => exact .inr (.inl ⟨rfl, rfl⟩)
    | php83 => exact .inr (.inr ⟨rfl, rfl, rfl, rfl⟩)
  others _ _ := rfl

/-- The names that keep both views take no position or spell theirs. -/
theorem KeepingFrom.name : ∀ {names : List Bytes} {index : Nat} {spelled : Bool},
    KeepingFrom version index spelled names → ∀ {place : Nat} {name : Bytes},
      names[place]? = some name →
        Harmless version (index + place) name ∨ Spells (index + place) name
  | first :: rest, index, spelled, keeping, 0, name, there => by
    obtain rfl := Option.some.inj there
    cases keeping with
    | inl plain => exact .inl plain.2.1
    | inr spells => exact .inr spells.1
  | first :: rest, index, spelled, keeping, place + 1, name, there => by
    have position : index + (place + 1) = index + 1 + place := by omega
    rw [position]
    cases keeping with
    | inl plain => exact KeepingFrom.name plain.2.2 there
    | inr spells => exact KeepingFrom.name spells.2 there

/-- The last value of a name is the last under its key. -/
theorem lastUnder_keyed {columns : List (Bytes × Value)} {name : Bytes} {value : Value}
    (last : LastUnder columns name value) : LastUnder (keyed columns) (symKey name) value := by
  obtain ⟨before, after, rfl, others⟩ := last
  refine ⟨keyed before, keyed after, by simp [keyed], ?_⟩
  intro entry inside
  obtain ⟨column, member, rfl⟩ := List.mem_map.mp inside
  exact fun same => others column member (symKey_injective same)

/-- Names that lose no key keep both views of every row. -/
theorem keepsViews_of_keeping {names : List Bytes} (few : names.length + 1 < 2 ^ 63)
    (keeping : KeepingFrom version 0 false names) {values : List Value}
    (each : values.length = names.length) :
    KeepsViews names values (bothRow version (names.zip values)) := by
  have firsts : (names.zip values).map Prod.fst = names :=
    List.map_fst_zip (Nat.le_of_eq each.symm)
  have seconds : (names.zip values).map Prod.snd = values := List.map_snd_zip (Nat.le_of_eq each)
  have count : (names.zip values).length = names.length := by
    rw [List.length_zip, each, Nat.min_self]
  obtain ⟨last, kept⟩ := @Kept.run _ version (names.zip values) _ _ _ _ (kept_empty version)
    (by simp only [List.length_nil]; omega) (firsts.symm ▸ keeping)
  rw [List.nil_append, List.nil_append, seconds] at kept
  have positions : ∀ index value, values[index]? = some value →
      find (.index (Int64.ofNat index)) (bothRow version (names.zip values)).entries = some value := by
    intro index value there
    have inside := (List.getElem?_eq_some_iff.mp there).1
    rw [bothRow, kept.positions index (by omega), if_neg (fun both => by omega)]
    exact there
  refine ⟨positions, fun name value under => ?_⟩
  by_cases takes : ∀ number, symKey name = .index number → number < 0
  · rw [bothRow, kept.others _ takes, find_updateAll]
    exact .inl (lastUnder_keyed under)
  · -- the name spells the position of its column
    obtain ⟨before, after, split, -⟩ := under
    have place : (names.zip values)[before.length]? = some (name, value) := by
      rw [split]
      simp
    obtain ⟨named, stored⟩ := List.getElem?_zip_eq_some.mp place
    cases keeping.name named with
    | inl harmless => exact absurd (fun number same => (harmless number same).1) takes
    | inr spells =>
      rw [Nat.zero_add] at spells
      rw [show symKey name = _ from spells]
      exact positions before.length value stored

/-! ## Lost positions -/

/-- The next free index has the value, or nothing is inserted. -/
theorem find_addNextIndex (array : PhpArray Value) (key : Key) (value : Value) :
    find key (array.addNextIndex value).entries = find key array.entries ∨
      key = .index array.nextIndex ∧ find key array.entries = none ∧
        find key (array.addNextIndex value).entries = some value := by
  rw [PhpArray.addNextIndex]
  cases taken : find (.index array.nextIndex) array.entries with
  | some _ => exact .inl rfl
  | none =>
    dsimp only
    rw [PhpArray.addIndex_entries, find_update]
    by_cases here : Key.index array.nextIndex = key
    · rw [if_pos here, ← here]
      exact .inr ⟨rfl, taken, rfl⟩
    · rw [if_neg here]
      exact .inl rfl

/-- A key has its old value after a column, or that of the column. -/
theorem find_cell {array : PhpArray Value} {key : Key} {name : Bytes} {value found : Value}
    (there : find key (addCell array .both name value).entries = some found) :
    found = value ∨ find key array.entries = some found := by
  rw [addCell] at there
  obtain same | ⟨-, -, placed⟩ := find_addNextIndex (array.addAssoc name value) key value
  · rw [same, PhpArray.addAssoc_entries, find_update] at there
    split at there
    · exact .inl (Option.some.inj there).symm
    · exact .inr there
  · exact .inl (Option.some.inj (there.symm.trans placed))

/-- A value that a key does not have after some columns it does not get from other values. -/
theorem lost_run {key : Key} {lost : Value} (columns : List (Bytes × Value))
    (others : ∀ column ∈ columns, column.2 ≠ lost) {array : PhpArray Value}
    (gone : find key array.entries ≠ some lost) :
    find key (columns.foldl (fun array column => addCell array .both column.1 column.2)
      array).entries ≠ some lost := by
  induction columns generalizing array with
  | nil => exact gone
  | cons column rest ih =>
    obtain ⟨other, others⟩ := List.forall_mem_cons.mp others
    refine ih others fun there => ?_
    cases find_cell there with
    | inl same => exact other same.symm
    | inr before => exact gone before

/-- One more than an index below the last one. -/
theorem toInt_succ {number : Int64} (below : number < Int64.maxValue) :
    (number + 1).toInt = number.toInt + 1 := by
  have most := Int64.lt_iff_toInt_lt.mp below
  have limit : (Int64.maxValue).toInt = 9223372036854775807 := rfl
  have least := Int64.le_toInt number
  rw [Int64.toInt_add, Int64.toInt_one, Int.bmod_eq_of_le_mul_two (by omega) (by omega)]

/-- A name that spells another integer makes PHP go on behind it, and not at this position. -/
theorem skipped {array : PhpArray Value} {number position : Int64} (value : Value)
    (absent : find (.index position) array.entries = none) (reached : array.next ≤ number)
    (other : number ≠ position) (behind : number.toInt + 1 ≠ position.toInt) :
    find (.index position) ((array.addIndex number value).addNextIndex value).entries = none := by
  have named : find (.index position) (array.addIndex number value).entries = none := by
    rw [PhpArray.addIndex_entries, find_update, if_neg (fun same => other (Key.index.inj same))]
    exact absent
  obtain same | ⟨next, -, -⟩ := find_addNextIndex (array.addIndex number value) (.index position)
    value
  · rw [same]
    exact named
  · exfalso
    have free : (array.addIndex number value).next =
        if number < Int64.maxValue then number + 1 else Int64.maxValue := by
      rw [PhpArray.addIndex, if_pos reached]
    have position_ := Key.index.inj next
    have lowest : (Int64.minValue).toInt = -9223372036854775808 := rfl
    have least := Int64.le_toInt number
    rw [PhpArray.nextIndex, free] at position_
    by_cases below : number < Int64.maxValue
    · have successor := toInt_succ below
      have high : number + 1 ≠ Int64.minValue := by
        intro low
        rw [low, lowest] at successor
        omega
      rw [if_pos below, if_neg high] at position_
      rw [← position_] at successor
      omega
    · have last : number = Int64.maxValue := by
        have most := Int64.toInt_le number
        have limit : (Int64.maxValue).toInt = 9223372036854775807 := rfl
        rw [Int64.lt_iff_toInt_lt] at below
        exact Int64.toInt.inj (by omega)
      rw [if_neg below, if_neg (by decide)] at position_
      exact other (last.trans position_.symm)

/-- A name that is not harmless spells an integer that PHP goes on behind. -/
theorem not_harmless {version : PhpVersion} {index : Nat} {name : Bytes}
    (harms : ¬ Harmless version index name) :
    ∃ number, symKey name = .index number ∧
      (0 ≤ number ∨ index = 0 ∧ version = .php83 ∧ number ≠ -1) := by
  rw [Harmless, not_forall] at harms
  obtain ⟨number, harms⟩ := harms
  rw [Classical.not_imp] at harms
  obtain ⟨same, harms⟩ := harms
  refine ⟨number, same, ?_⟩
  by_cases negative : number < 0
  · right
    rw [not_and, Classical.not_imp, not_or] at harms
    obtain ⟨first, newer, other⟩ := harms negative
    refine ⟨first, ?_, other⟩
    cases version with
    | php82 => exact absurd rfl newer
    | php83 => rfl
  · left
    rw [Int64.lt_iff_toInt_lt] at negative
    rw [Int64.le_iff_toInt_le]
    omega

/-- The values of the columns behind one, none of them the lost one. -/
theorem bothRow_split (version : PhpVersion) {before : List Bytes} {values : List Value}
    (each : values.length = before.length) (name : Bytes) (rest : List Bytes) (value : Value)
    (later : List Value) :
    bothRow version ((before ++ name :: rest).zip (values ++ value :: later)) =
      (rest.zip later).foldl (fun array column => addCell array .both column.1 column.2)
        (addCell (bothRow version (before.zip values)) .both name value) := by
  rw [List.zip_append each.symm, bothRow, List.foldl_append]
  rfl

/-- A column that takes a position from an earlier one, or does not get its own, loses a value. -/
theorem lost_cell {lost kept_ : Value} (differ : lost ≠ kept_) {before : List Bytes}
    {spelled : Bool} (few : before.length + 1 < 2 ^ 63) (some_ : spelled = true → before ≠ [])
    (good : ∀ values : List Value, values.length = before.length →
      ∃ named, Kept version values named spelled (bothRow version (before.zip values)))
    {name : Bytes} (harms : spelled = false → ¬ Harmless version before.length name)
    (other : ¬ Spells before.length name) :
    ∃ (values : List Value) (value : Value) (position : Nat), values.length = before.length ∧
      (values ++ [value])[position]? = some lost ∧
      find (.index (Int64.ofNat position))
        (addCell (bothRow version (before.zip values)) .both name value).entries ≠ some lost := by
  have own : (List.replicate before.length kept_ ++ [lost])[before.length]? = some lost := by
    rw [List.getElem?_append_right (by simp)]
    simp
  cases spelled with
  | true =>
    -- the position of this column has the value of the column before
    obtain ⟨named, kept⟩ := good (List.replicate before.length kept_) List.length_replicate
    refine ⟨List.replicate before.length kept_, lost, before.length, List.length_replicate, own, ?_⟩
    have occupied : find (.index (Int64.ofNat before.length))
        (bothRow version (before.zip (List.replicate before.length kept_))).entries =
          some kept_ := by
      rw [kept.positions before.length (by omega), if_pos ⟨rfl, by simp⟩]
      cases shape : before with
      | nil => exact absurd shape (some_ rfl)
      | cons first more => simp [List.getLast?_replicate]
    have unnamed : find (.index (Int64.ofNat before.length))
        ((bothRow version (before.zip (List.replicate before.length kept_))).addAssoc name
          lost).entries = some kept_ := by
      have apart : symKey name ≠ .index (Int64.ofNat before.length) := other
      rw [PhpArray.addAssoc_entries, find_update, if_neg apart]
      exact occupied
    rw [addCell]
    obtain same | ⟨-, absent, -⟩ := find_addNextIndex
      ((bothRow version (before.zip (List.replicate before.length kept_))).addAssoc name lost)
      (.index (Int64.ofNat before.length)) lost
    · rw [same, unnamed]
      exact fun equal => differ (Option.some.inj equal).symm
    · cases unnamed.symm.trans absent
  | false =>
    obtain ⟨number, key, takes⟩ := not_harmless (harms rfl)
    have elsewhere : number ≠ Int64.ofNat before.length := fun same =>
      other (key.trans (congrArg Key.index same))
    have named (array : PhpArray Value) (value : Value) :
        array.addAssoc name value = array.addIndex number value := by
      rw [PhpArray.addAssoc, key]
    by_cases earlier : 0 ≤ number ∧ number.toInt < before.length
    · -- the position of an earlier column gets the value of this one
      obtain ⟨positive, earlier⟩ := earlier
      rw [Int64.le_iff_toInt_le, Int64.toInt_zero] at positive
      obtain ⟨place, value⟩ : ∃ place : Nat, number.toInt = place :=
        ⟨number.toInt.natAbs, by omega⟩
      have spells : number = Int64.ofNat place := by
        apply Int64.toInt.inj
        rw [PhpArray.ofNat_toInt (by omega), value]
      refine ⟨(List.replicate before.length kept_).set place lost, kept_, place, by simp, ?_, ?_⟩
      · rw [List.getElem?_append_left (by simp; omega), List.getElem?_set_self (by simp; omega)]
      · intro there
        rw [addCell, named, ← spells] at there
        have taken : find (.index number) ((bothRow version (before.zip
            ((List.replicate before.length kept_).set place lost))).addIndex number
              kept_).entries = some kept_ := by
          rw [PhpArray.addIndex_entries, find_update, if_pos rfl]
        obtain same | ⟨-, absent, -⟩ := find_addNextIndex _ (.index number) kept_
        · rw [same, taken] at there
          exact differ (Option.some.inj there).symm
        · cases taken.symm.trans absent
    · -- the position of this column is skipped
      obtain ⟨others, kept⟩ := good (List.replicate before.length kept_) List.length_replicate
      refine ⟨List.replicate before.length kept_, lost, before.length, List.length_replicate, own, ?_⟩
      have absent := kept.absent (by rw [List.length_replicate]; omega)
      rw [List.length_replicate] at absent
      have reached : (bothRow version (before.zip (List.replicate before.length kept_))).next ≤
          number := by
        obtain ⟨contra, -⟩ | ⟨-, next⟩ | ⟨-, -, -, next⟩ := kept.free
        · cases contra
        · cases takes with
          | inl positive =>
            rw [Int64.le_iff_toInt_le, Int64.toInt_zero] at positive
            rw [next, List.length_replicate, Int64.le_iff_toInt_le, PhpArray.ofNat_toInt (by omega)]
            rw [Int64.le_iff_toInt_le, Int64.toInt_zero] at earlier
            omega
          | inr first =>
            obtain ⟨first, rfl, -⟩ := first
            obtain rfl := List.length_eq_zero_iff.mp first
            change Int64.minValue = Int64.ofNat 0 at next
            exact absurd next (by decide)
        · exact next ▸ Int64.minValue_le _
      have behind : number.toInt + 1 ≠ (Int64.ofNat before.length).toInt := by
        rw [PhpArray.ofNat_toInt (by omega)]
        cases takes with
        | inl positive =>
          rw [Int64.le_iff_toInt_le, Int64.toInt_zero] at positive earlier
          omega
        | inr first =>
          obtain ⟨first, -, last⟩ := first
          intro same
          apply last
          apply Int64.toInt.inj
          rw [show (-1 : Int64).toInt = -1 from rfl]
          omega
      rw [addCell, named, skipped lost absent reached elsewhere behind]
      simp

/-- One more column keeps the views of all values when its cell does. -/
theorem kept_snoc {version : PhpVersion} {before : List Bytes} {name : Bytes} {spelled goesOn : Bool}
    (cell : ∀ (values : List Value) (named : List (Key × Value)) (array : PhpArray Value)
      (value : Value), values.length = before.length → Kept version values named spelled array →
        Kept version (values ++ [value]) (named ++ [(symKey name, value)]) goesOn
          (addCell array .both name value))
    (good : ∀ values : List Value, values.length = before.length →
      ∃ named, Kept version values named spelled (bothRow version (before.zip values)))
    (values : List Value) (each : values.length = (before ++ [name]).length) :
    ∃ named, Kept version values named goesOn (bothRow version ((before ++ [name]).zip values)) := by
  rw [List.length_append, List.length_singleton] at each
  obtain ⟨values, value, rfl⟩ : ∃ first last, values = first ++ [last] :=
    ⟨values.dropLast, values.getLast (by rintro rfl; simp at each),
      (List.dropLast_append_getLast _).symm⟩
  rw [List.length_append, List.length_singleton, Nat.add_right_cancel_iff] at each
  obtain ⟨named, kept⟩ := good values each
  rw [bothRow_split version each name [] value []]
  exact ⟨_, cell values named _ value each kept⟩

/-- Names that do not keep both views lose a value for some values. -/
theorem lost_views {version : PhpVersion} {lost kept_ : Value} (differ : lost ≠ kept_) :
    ∀ (rest before : List Bytes) (spelled : Bool), before.length + rest.length + 1 < 2 ^ 63 →
      (spelled = true → before ≠ []) →
      (∀ values : List Value, values.length = before.length →
        ∃ named, Kept version values named spelled (bothRow version (before.zip values))) →
      ¬ KeepingFrom version before.length spelled rest →
      ∃ values : List Value, values.length = (before ++ rest).length ∧
        ∃ position, values[position]? = some lost ∧
          find (.index (Int64.ofNat position))
            (bothRow version ((before ++ rest).zip values)).entries ≠ some lost
  | [], _, _, _, _, _, harms => absurd trivial harms
  | name :: rest, before, spelled, few, some_, good, harms => by
    rw [List.length_cons] at few
    have longer : (before ++ [name]).length = before.length + 1 := by simp
    have joined : before ++ name :: rest = before ++ [name] ++ rest := by simp
    have whole : (before ++ [name]).length + rest.length + 1 < 2 ^ 63 := by omega
    by_cases plain : spelled = false ∧ Harmless version before.length name
    · obtain ⟨rfl, harmless⟩ := plain
      rw [joined]
      refine lost_views differ rest (before ++ [name]) false whole nofun (kept_snoc ?_ good) ?_
      · intro values named array value each kept
        exact kept.harmlessCell (by omega) (each.symm ▸ harmless) value
      · rw [longer]
        exact fun keeps => harms (.inl ⟨rfl, harmless, keeps⟩)
    · by_cases spells : Spells before.length name
      · rw [joined]
        refine lost_views differ rest (before ++ [name]) true whole (fun _ => by simp)
          (kept_snoc ?_ good) ?_
        · intro values named array value each kept
          exact kept.spelledCell (by omega) (each.symm ▸ spells) value
        · rw [longer]
          exact fun keeps => harms (.inr ⟨spells, keeps⟩)
      · obtain ⟨values, value, position, each, own, gone⟩ := lost_cell differ (by omega) some_ good
          (fun first harmless => plain ⟨first, harmless⟩) spells
        refine ⟨values ++ value :: List.replicate rest.length kept_, by simp [each], position, ?_, ?_⟩
        · rw [List.append_cons, List.getElem?_append_left (List.getElem?_eq_some_iff.mp own).1]
          exact own
        · rw [bothRow_split version each]
          apply lost_run _ _ gone
          intro column inside
          have later := (List.of_mem_zip inside).2
          rw [List.eq_of_mem_replicate later]
          exact Ne.symm differ

/-! ## Fetched rows -/

/-- The values of the cells of a row. -/
def cellValues (decode : Vector.DecodeCtx → Kind → Cell → Option Value) (row : UInt64) :
    Nat → List (Vector.Column Kind Cell) → List Cell → Option (List Value)
  | index, column :: columns, cell :: cells =>
    match decode ⟨index, row⟩ column.type cell with
    | none => none
    | some value => (cellValues decode row (index + 1) columns cells).map (value :: ·)
  | _, _, _ => some []

/-- A row fetched with both views has the values of its cells under the names of the columns and at
the next free indexes. -/
theorem fetchColumns_both (decode : Vector.DecodeCtx → Kind → Cell → Option Value) (row : UInt64)
    (index : Nat) (columns : List (Vector.Column Kind Cell)) (cells : List Cell)
    (array : PhpArray Value) :
    fetchColumns decode .both row index columns cells array =
      (cellValues decode row index columns cells).map fun values =>
        ((columns.map fun column => column.name).zip values).foldl
          (fun array column => addCell array .both column.1 column.2) array := by
  induction columns generalizing index cells array with
  | nil => rfl
  | cons column columns ih =>
    cases cells with
    | nil => rfl
    | cons cell cells =>
      rw [fetchColumns, cellValues]
      cases decode ⟨index, row⟩ column.type cell with
      | none => rfl
      | some value =>
        dsimp only
        rw [ih]
        cases cellValues decode row (index + 1) columns cells <;> rfl

/-- There is a value for every cell. -/
theorem cellValues_length (decode : Vector.DecodeCtx → Kind → Cell → Option Value) (row : UInt64)
    (index : Nat) (columns : List (Vector.Column Kind Cell)) (cells : List Cell)
    (each : cells.length = columns.length) {values : List Value}
    (decoded : cellValues decode row index columns cells = some values) :
    values.length = columns.length := by
  induction columns generalizing index cells values with
  | nil =>
    obtain rfl := Option.some.inj decoded
    rfl
  | cons column columns ih =>
    cases cells with
    | nil => cases each
    | cons cell cells =>
      rw [cellValues] at decoded
      split at decoded
      · cases decoded
      · obtain ⟨rest, further, rfl⟩ := Option.map_eq_some_iff.mp decoded
        exact congrArg (· + 1) (ih (index + 1) cells (Nat.succ.inj each) further)

/-- Every row that is fetched with both views from a result with these column names keeps both. -/
def FetchKeepsViews (Value : Type) (version : PhpVersion) (names : List Bytes) : Prop :=
  ∀ (Kind Cell : Type) (chunk : Vector.Chunk Kind Cell)
    (decode : Vector.DecodeCtx → Kind → Cell → Option Value) (row : Nat) (array : PhpArray Value),
    (chunk.columns.map fun column => column.name) = names →
    fetchRowOf version decode .both chunk row = some array →
    ∃ values, cellValues decode (UInt64.ofNat row) 0 chunk.columns (chunk.row row) = some values ∧
      KeepsViews names values array

/-- A chunk of one row with some values. -/
def oneRow (names : List Bytes) (values : List Value) : Vector.Chunk Unit Value :=
  ⟨(names.zip values).map fun column => ⟨column.1, (), fun _ => column.2⟩, 1, by decide⟩

/-- The cells of the chunk with one row are the values it was made of. -/
theorem cellValues_oneRow (columns : List (Bytes × Value)) (row : UInt64) (index place : Nat) :
    cellValues (fun _ _ cell => some cell) row index
        (columns.map fun column => (⟨column.1, (), fun _ => column.2⟩ : Vector.Column Unit Value))
        ((columns.map fun column =>
          (⟨column.1, (), fun _ => column.2⟩ : Vector.Column Unit Value)).map
            fun column => column.rows place) =
      some (columns.map Prod.snd) := by
  induction columns generalizing index with
  | nil => rfl
  | cons column rest ih =>
    rw [List.map_cons, List.map_cons, cellValues]
    dsimp only
    rw [ih]
    rfl

/-- The array of the chunk's one row is made of its names and values. -/
theorem fetchRowOf_oneRow (version : PhpVersion) {names : List Bytes} {values : List Value}
    (each : values.length = names.length) :
    fetchRowOf version (fun _ _ cell => some cell) .both (oneRow names values) 0 =
      some (bothRow version (names.zip values)) := by
  have firsts : (names.zip values).map Prod.fst = names :=
    List.map_fst_zip (Nat.le_of_eq each.symm)
  have seconds : (names.zip values).map Prod.snd = values := List.map_snd_zip (Nat.le_of_eq each)
  rw [fetchRowOf, fetchColumns_both, oneRow, Vector.Chunk.row, cellValues_oneRow, seconds,
    Option.map_some, List.map_map]
  show some (((names.zip values).map Prod.fst).zip values |>.foldl _ _) = _
  rw [firsts]
  rfl

/-- **A row fetched with both views keeps them, for all values, exactly when the names of the
columns are harmless up to one from which on every name spells the position of its column; and the
rows of a converted chunk are the fetched ones in every mode.** -/
theorem views_kept_iff {Value : Type} [Nontrivial Value] (version : PhpVersion) {names : List Bytes}
    (few : names.length + 1 < 2 ^ 63) :
    (FetchKeepsViews Value version names ↔ KeepingFrom version 0 false names) ∧
      ∀ {Kind Cell : Type} (native : Vector.NativeChunks Cell)
        (decode : Vector.DecodeCtx → Kind → Cell → Option Value) (vectorSize : Vector.VectorSize)
        (mode : FetchMode) (chunk : Vector.Chunk Kind Cell) (fuel : Nat),
        chunk.size.toNat < fuel →
          (Vector.duckdbDataChunkRows native decode vectorSize mode chunk fuel).map
              (Option.map (List.map fun insertions =>
                insertions.foldl insert (PhpArray.empty version))) =
            some ((List.range' 0 chunk.size.toNat).mapM (fetchRowOf version decode mode chunk)) := by
  refine ⟨⟨fun keeps => ?_, fun keeping => ?_⟩, ?_⟩
  · by_contra harms
    obtain ⟨lost, kept, differ⟩ := exists_pair_ne Value
    have start : ∀ values : List Value, values.length = ([] : List Bytes).length →
        ∃ named, Kept version values named false (bothRow version (([] : List Bytes).zip values)) := by
      intro values none
      obtain rfl := List.length_eq_zero_iff.mp none
      exact ⟨[], kept_empty version⟩
    obtain ⟨values, each, position, own, gone⟩ := lost_views differ names [] false
      (by simpa using few) nofun start harms
    rw [List.nil_append] at each gone
    have columns : ((oneRow names values).columns.map fun column => column.name) = names := by
      rw [oneRow, List.map_map]
      exact List.map_fst_zip (Nat.le_of_eq each.symm)
    obtain ⟨decoded, cells, views⟩ := keeps Unit Value (oneRow names values)
      (fun _ _ cell => some cell) 0 _ columns (fetchRowOf_oneRow version each)
    rw [oneRow, Vector.Chunk.row, cellValues_oneRow, List.map_snd_zip (Nat.le_of_eq each)] at cells
    obtain rfl := Option.some.inj cells
    exact gone (views.positions position lost own)
  · intro Kind Cell chunk decode row array columns fetched
    rw [fetchRowOf, fetchColumns_both, columns] at fetched
    obtain ⟨values, decoded, rfl⟩ := Option.map_eq_some_iff.mp fetched
    have each := cellValues_length decode _ 0 chunk.columns _ (List.length_map _) decoded
    have count : names.length = chunk.columns.length := columns ▸ List.length_map _
    exact ⟨values, decoded, keepsViews_of_keeping few keeping (each.trans count.symm)⟩
  · intro Kind Cell native decode vectorSize mode chunk fuel enough
    exact chunkRows_fetched version native decode vectorSize mode chunk enough

/-- A row of two columns with ordinary names keeps both views. -/
theorem views_kept_ordinary : FetchKeepsViews Bool .php83 [lit "a", lit "b"] := by
  refine (views_kept_iff .php83 (by decide)).1.mpr ?_
  have plain (name : Bytes) (spelled : numericKey name = none) (index : Nat) :
      Harmless .php83 index name := by
    intro number same
    rw [symKey, spelled] at same
    cases same
  exact .inl ⟨rfl, plain _ (by decide +kernel) 0, .inl ⟨rfl, plain _ (by decide +kernel) 1, trivial⟩⟩

/-- **A column named `5` has its value at 5 and 6 and not at its position.** -/
theorem views_lost : ∃ array : PhpArray Bool,
    fetchRowOf .php83 (fun _ _ cell => some cell) .both (oneRow [lit "5"] [true]) 0 = some array ∧
      find (.index 0) array.entries = none :=
  ⟨_, fetchRowOf_oneRow .php83 rfl, by decide +kernel⟩

end PhpDuckdb.Result
