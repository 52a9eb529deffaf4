import PhpDuckdb.Decode.Nested

/-!
# Entries of MAPs

A MAP whose keys are integers or texts becomes an array under them; the texts reach it as C strings.
`map_kept` says that every pair is stored under the PHP key of its own key exactly when no text has
a NUL byte, and that a MAP with other keys is the list of its pairs.
-/

namespace PhpDuckdb.Decode

open SqlText Value OrderedTable

/-! ## Keys -/

/-- A key of a MAP that can be a key of a PHP array. -/
inductive MapKey where
  /-- An integer of any width. -/
  | integer (number : Int)
  /-- A text or the label of an ENUM. -/
  | text (bytes : Bytes)
deriving DecidableEq, Repr

/-- The key of a cell that is not NULL. -/
def ScalarType.mapKey : (type : ScalarType) → type.Native → Option MapKey
  | .tinyint, value => some (.integer value.toInt)
  | .smallint, value => some (.integer value.toInt)
  | .integer, value => some (.integer value.toInt)
  | .bigint, value => some (.integer value.toInt)
  | .utinyint, value => some (.integer value.toNat)
  | .usmallint, value => some (.integer value.toNat)
  | .uinteger, value => some (.integer value.toNat)
  | .ubigint, value => some (.integer value.toNat)
  | .varchar, text => some (.text text)
  | .enum, label => label.map .text
  | .other, _ => none

/-- The key of a row, unless it is NULL. -/
def Vec.mapKey : Vec → Nat → Option MapKey
  | .scalar type valid data, row => if valid row then type.mapKey (data row) else none
  | _, _ => none

/-- The PHP key of a key: an integer that is too large for one is its decimal text. -/
def MapKey.phpKey : MapKey → Key
  | .integer number =>
    if -(2 ^ 63) ≤ number ∧ number < 2 ^ 63 then .index (Int64.ofInt number)
    else .name (signedDecimal number)
  | .text bytes => symKey bytes

/-- The text that a key of a MAP is written as. -/
def MapKey.spelling : MapKey → Bytes
  | .integer number => signedDecimal number
  | .text bytes => bytes

/-- The PHP key of a key is that of its text. -/
theorem MapKey.phpKey_eq (key : MapKey) : key.phpKey = symKey key.spelling := by
  cases key with
  | text bytes => rfl
  | integer number =>
    rw [MapKey.phpKey, MapKey.spelling]
    split
    · rename_i fits
      rw [eq_comm, symKey_eq_index, Int64.toInt_ofInt_of_le fits.1 fits.2]
    · rename_i large
      rw [symKey]
      cases spelled : numericKey (signedDecimal number) with
      | none => rfl
      | some small =>
        have same := signedDecimal_injective (numericKey_spells spelled)
        have low := small.le_toInt
        have high := small.toInt_lt
        exact absurd ⟨by omega, by omega⟩ large

/-- Keys of one type are told apart by their texts. -/
theorem mapKey_spelling {type : ScalarType} {first second : type.Native} {one two : MapKey}
    (left : type.mapKey first = some one) (right : type.mapKey second = some two)
    (same : one.spelling = two.spelling) : one = two := by
  cases type with
  | tinyint | smallint | integer | bigint | utinyint | usmallint | uinteger | ubigint =>
    obtain rfl := Option.some.inj left
    obtain rfl := Option.some.inj right
    rw [signedDecimal_injective same]
  | varchar =>
    obtain rfl := Option.some.inj left
    obtain rfl := Option.some.inj right
    exact congrArg MapKey.text same
  | enum =>
    obtain ⟨label, _, rfl⟩ := Option.map_eq_some_iff.mp left
    obtain ⟨other, _, rfl⟩ := Option.map_eq_some_iff.mp right
    exact congrArg MapKey.text same
  | other => cases left

/-! ## Stored keys -/

/-- The key that a pair is stored under. -/
def storedKey : Zval → Key
  | .long number => .index number
  | .string text => symKey (cString text)
  | _ => symKey []

/-- Storing a pair updates the entry of its stored key. -/
theorem storePair_entries (array : PhpArray Zval) (key value : Zval) :
    (storePair array key value).entries = update (storedKey key) value array.entries := by
  cases key <;> first | rfl | exact PhpArray.addAssoc_entries ..

/-- Storing pairs in order updates the entries of their stored keys in order. -/
theorem storePairs_entries (version : PhpVersion) (pairs : List (Zval × Zval))
    (array : PhpArray Zval) :
    (pairs.foldl (insertPair version true) array).entries =
      updateAll (pairs.map fun pair => (storedKey pair.1, pair.2)) array.entries := by
  induction pairs generalizing array with
  | nil => rfl
  | cons pair rest ih =>
    rw [List.foldl_cons, ih]
    show updateAll _ (storePair array pair.1 pair.2).entries = _
    rw [storePair_entries]
    rfl

/-- An integer in the range of a PHP integer is stored under itself. -/
theorem storedKey_long {number : Int} (low : -(2 ^ 63) ≤ number) (high : number < 2 ^ 63) :
    storedKey (.long (Int64.ofInt number)) = symKey (cString (signedDecimal number)) := by
  rw [cString_eq.mpr (nul_signedDecimal number), storedKey, eq_comm, symKey_eq_index,
    Int64.toInt_ofInt_of_le low high]

/-- A decoded key is stored under its text up to the first NUL byte. -/
theorem storedKey_decoded {type : ScalarType} {native : type.Native} {key : MapKey} {decoded : Zval}
    (given : type.mapKey native = some key) (ok : decodeScalar type native = .ok decoded) :
    storedKey decoded = symKey (cString key.spelling) := by
  cases type with
  | tinyint =>
    obtain rfl := Option.some.inj given
    obtain rfl := Except.ok.inj ok
    have low := Int8.le_toInt native
    have high := Int8.toInt_lt native
    exact storedKey_long (by omega) (by omega)
  | smallint =>
    obtain rfl := Option.some.inj given
    obtain rfl := Except.ok.inj ok
    have low := Int16.le_toInt native
    have high := Int16.toInt_lt native
    exact storedKey_long (by omega) (by omega)
  | integer =>
    obtain rfl := Option.some.inj given
    obtain rfl := Except.ok.inj ok
    have low := Int32.le_toInt native
    have high := Int32.toInt_lt native
    exact storedKey_long (by omega) (by omega)
  | bigint =>
    obtain rfl := Option.some.inj given
    obtain rfl := Except.ok.inj ok
    have long := storedKey_long (Int64.le_toInt native) (Int64.toInt_lt native)
    rwa [Int64.ofInt_toInt] at long
  | utinyint =>
    obtain rfl := Option.some.inj given
    obtain rfl := Except.ok.inj ok
    have high := UInt8.toNat_lt native
    exact storedKey_long (by omega) (by omega)
  | usmallint =>
    obtain rfl := Option.some.inj given
    obtain rfl := Except.ok.inj ok
    have high := UInt16.toNat_lt native
    exact storedKey_long (by omega) (by omega)
  | uinteger =>
    obtain rfl := Option.some.inj given
    obtain rfl := Except.ok.inj ok
    have high := UInt32.toNat_lt native
    exact storedKey_long (by omega) (by omega)
  | ubigint =>
    obtain rfl := Option.some.inj given
    obtain rfl := Except.ok.inj ok
    unfold decodeUbigint
    split
    · rename_i small
      have value := toInt64_small (small_word.mp small)
      have fits := native.toInt64.toInt_lt
      have long := storedKey_long (Int64.le_toInt native.toInt64) fits
      rw [Int64.ofInt_toInt, value] at long
      exact long
    · rfl
  | varchar =>
    obtain rfl := Option.some.inj given
    obtain rfl := Except.ok.inj ok
    rfl
  | enum =>
    obtain ⟨label, rfl, rfl⟩ := Option.map_eq_some_iff.mp given
    obtain rfl := Except.ok.inj ok
    rw [storedKey, cString_cString]
    rfl
  | other => cases given

/-! ## Pairs -/

/-- The pair of a key and a value as an array. -/
def pairArray (key value : Zval) : Zval :=
  .array (.cons (.name (lit "key")) key (.cons (.name (lit "value")) value .nil))

/-- A MAP row shows all of its pairs: those with integers, texts or labels as keys have one entry
each, under the PHP key of their own key; those with other keys are listed in order. -/
def KeepsPairs (version : PhpVersion) (depth : Nat) (rows : List Nat) (key value : Vec)
    (decoded : Zval) : Prop :=
  ∃ (elements : Elements) (values : List Zval), decoded = .array elements ∧
    rows.map (fun row => nested depth (decode version (depth + 1) value row)) =
      values.map Except.ok ∧
    if key.scalarKeys then
      ∃ mapKeys : List MapKey, rows.map key.mapKey = mapKeys.map some ∧
        (entriesOf elements).Perm ((mapKeys.map MapKey.phpKey).zip values)
    else
      ∃ keyValues : List Zval,
        rows.map (fun row => nested depth (decode version (depth + 1) key row)) =
          keyValues.map Except.ok ∧
        entriesOf elements = (List.zipWith pairArray keyValues values).zipIdx.map
          fun entry => (.index (Int64.ofNat entry.2), entry.1)

/-- The pair of a key and a value has the two. -/
theorem keyValuePair_eq (version : PhpVersion) (key value : Zval) :
    keyValuePair version key value = pairArray key value := by
  rw [keyValuePair, arrayZval, PhpArray.addAssoc_entries, PhpArray.addAssoc_entries]
  rfl

/-- What decodes to equal values is equal. -/
theorem ok_unique {first second : List Zval}
    (same : first.map (Except.ok (ε := String)) = second.map Except.ok) : first = second :=
  List.map_injective_iff.mpr (fun _ _ => Except.ok.inj) same

/-- Rows of keys that decode are stored under their texts up to the first NUL byte. -/
theorem storedKeys_decoded {version : PhpVersion} {depth : Nat} {key : Vec} {rows : List Nat}
    {mapKeys : List MapKey} {keyValues : List Zval} (given : rows.map key.mapKey = mapKeys.map some)
    (ok : rows.map (fun row => nested depth (decode version (depth + 1) key row)) =
      keyValues.map Except.ok) :
    keyValues.map storedKey = mapKeys.map fun mapKey => symKey (cString mapKey.spelling) := by
  induction rows generalizing mapKeys keyValues with
  | nil =>
    obtain rfl := List.map_eq_nil_iff.mp given.symm
    obtain rfl := List.map_eq_nil_iff.mp ok.symm
    rfl
  | cons row rest ih =>
    cases mapKeys with
    | nil => cases given
    | cons mapKey others =>
      cases keyValues with
      | nil => cases ok
      | cons keyZv more =>
        obtain ⟨head, tail⟩ := List.cons.inj given
        obtain ⟨first, later⟩ := List.cons.inj ok
        have made := nested_ok first
        have here : storedKey keyZv = symKey (cString mapKey.spelling) := by
          cases key with
          | scalar type valid data =>
            have head : (if valid row then type.mapKey (data row) else none) = some mapKey := head
            rw [decode] at made
            split at made
            · rename_i present
              rw [if_pos present] at head
              exact storedKey_decoded head made
            · rename_i absent
              rw [if_neg absent] at head
              cases head
          | list | array | struct | map | union => cases head
        rw [List.map_cons, List.map_cons, here, ih tail later]

/-- Keys of one vector that are different have different PHP keys. -/
theorem phpKeys_distinct {key : Vec} {rows : List Nat} {mapKeys : List MapKey}
    (given : rows.map key.mapKey = mapKeys.map some) (distinct : mapKeys.Nodup) :
    (mapKeys.map MapKey.phpKey).Nodup := by
  refine List.Nodup.map_on ?_ distinct
  intro one first two second same
  rw [MapKey.phpKey_eq, MapKey.phpKey_eq] at same
  have spelled := symKey_injective same
  have there (mapKey : MapKey) (inside : mapKey ∈ mapKeys) :
      ∃ row, key.mapKey row = some mapKey := by
    have made : some mapKey ∈ rows.map key.mapKey := given ▸ List.mem_map_of_mem inside
    obtain ⟨row, _, found⟩ := List.mem_map.mp made
    exact ⟨row, found⟩
  obtain ⟨row, left⟩ := there one first
  obtain ⟨other, right⟩ := there two second
  cases key with
  | scalar type valid data =>
    have left : (if valid row then type.mapKey (data row) else none) = some one := left
    have right : (if valid other then type.mapKey (data other) else none) = some two := right
    split at left
    · split at right
      · exact mapKey_spelling left right spelled
      · cases right
    · cases left
  | list | array | struct | map | union => cases left

/-- Pairs that are stored under their texts up to the first NUL byte are all there, under their PHP
keys, exactly when no text has one. -/
theorem stored_kept {mapKeys : List MapKey} {values : List Zval}
    (length : mapKeys.length = values.length) (distinct : (mapKeys.map MapKey.phpKey).Nodup) :
    (updateAll ((mapKeys.map fun mapKey => symKey (cString mapKey.spelling)).zip values) []).Perm
        ((mapKeys.map MapKey.phpKey).zip values) ↔
      ∀ mapKey ∈ mapKeys, 0 ∉ mapKey.spelling := by
  constructor
  · intro same mapKey inside
    have listed : mapKey.phpKey ∈ keys ((mapKeys.map MapKey.phpKey).zip values) := by
      rw [keys, List.map_fst_zip (by rw [List.length_map, length])]
      exact List.mem_map_of_mem inside
    have stored : mapKey.phpKey ∈
        keys ((mapKeys.map fun mapKey => symKey (cString mapKey.spelling)).zip values) :=
      keys_updateAll ((same.map Prod.fst).mem_iff.mpr listed)
    rw [keys, List.map_fst_zip (by rw [List.length_map, length]), MapKey.phpKey_eq] at stored
    obtain ⟨other, _, cut⟩ := List.mem_map.mp stored
    rw [← symKey_injective cut]
    exact cString_eq.mp (cString_cString _)
  · intro clean
    have whole : (mapKeys.map fun mapKey => symKey (cString mapKey.spelling)) =
        mapKeys.map MapKey.phpKey := by
      apply List.map_congr_left
      intro mapKey inside
      rw [cString_eq.mpr (clean mapKey inside), MapKey.phpKey_eq]
    have keyNames : keys ((mapKeys.map MapKey.phpKey).zip values) = mapKeys.map MapKey.phpKey :=
      List.map_fst_zip (by rw [List.length_map, length])
    rw [← keyNames] at distinct
    rw [whole, updateAll_distinct distinct]

/-- The texts among the keys have no NUL byte exactly when none of their spellings has one. -/
theorem texts_clean {key : Vec} {rows : List Nat} {mapKeys : List MapKey}
    (given : rows.map key.mapKey = mapKeys.map some) :
    (∀ mapKey ∈ mapKeys, 0 ∉ mapKey.spelling) ↔
      ∀ place ∈ rows, ∀ text, key.mapKey place = some (.text text) → 0 ∉ text := by
  constructor
  · intro clean place inside text found
    have among : some (MapKey.text text) ∈ mapKeys.map some :=
      given ▸ found ▸ List.mem_map_of_mem inside
    obtain ⟨mapKey, member, same⟩ := List.mem_map.mp among
    obtain rfl := Option.some.inj same
    exact clean _ member
  · intro clean mapKey member
    have among : some mapKey ∈ rows.map key.mapKey := given ▸ List.mem_map_of_mem member
    obtain ⟨place, inside, found⟩ := List.mem_map.mp among
    cases mapKey with
    | integer number => exact nul_signedDecimal number
    | text bytes => exact clean place inside bytes found

/-- What the loop of a MAP with other keys makes is the list of its pairs. -/
theorem listPairs_entries (version : PhpVersion) (pairs : List (Zval × Zval))
    (small : pairs.length < 2 ^ 63) :
    (pairs.foldl (insertPair version false) (.empty version)).entries =
      (pairs.map fun pair => pairArray pair.1 pair.2).zipIdx.map
        fun entry => (.index (Int64.ofNat entry.2), entry.1) := by
  have appended : ∀ array : PhpArray Zval, pairs.foldl (insertPair version false) array =
      (pairs.map fun pair => pairArray pair.1 pair.2).foldl PhpArray.addNextIndex array := by
    intro array
    rw [List.foldl_map]
    refine List.foldl_ext _ _ _ fun array pair _ => ?_
    rw [← keyValuePair_eq version]
    rfl
  rw [appended, (PhpArray.isList_empty version).append _ (by rw [List.length_map]; omega)]
  rfl

/-- Every pair of a MAP row that decodes, with keys that are not NULL and different if they are
integers, texts or labels, is there exactly when none of these keys has a NUL byte. -/
theorem map_kept (version : PhpVersion) (depth row : Nat) (valid : Nat → Bool)
    (entries : Nat → ListEntry) (key value : Vec) (decoded : Zval) (present : valid row = true)
    (distinct : key.scalarKeys = true → ∃ mapKeys : List MapKey, mapKeys.Nodup ∧
      (List.range' (entries row).offset (entries row).length).map key.mapKey = mapKeys.map some)
    (ok : decode version depth (.map valid entries key value) row = .ok decoded) :
    KeepsPairs version depth (List.range' (entries row).offset (entries row).length) key value
        decoded ↔
      ∀ place ∈ List.range' (entries row).offset (entries row).length, ∀ text,
        key.mapKey place = some (.text text) → 0 ∉ text := by
  rw [decode, if_pos present] at ok
  obtain ⟨array, stored, rfl⟩ := map_ok ok
  obtain ⟨pairs, keyOk, valueOk, rfl⟩ := decodePairs_ok stored
  have counted : pairs.length = (entries row).length := by
    have lengths := congrArg List.length keyOk
    rwa [List.length_map, List.length_map, List.length_range', eq_comm] at lengths
  have keyOk := keyOk.trans (List.map_map (g := Except.ok) (f := Prod.fst)).symm
  have valueOk := valueOk.trans (List.map_map (g := Except.ok) (f := Prod.snd)).symm
  cases scalar : key.scalarKeys with
  | true =>
    obtain ⟨mapKeys, different, given⟩ := distinct scalar
    have names := storedKeys_decoded given keyOk
    have length : mapKeys.length = (pairs.map Prod.snd).length := by
      have lengths := congrArg List.length names
      rw [List.length_map, List.length_map, List.length_map] at lengths
      rw [List.length_map, lengths]
    have made : (pairs.foldl (insertPair version true) (.empty version)).entries =
        updateAll ((mapKeys.map fun mapKey => symKey (cString mapKey.spelling)).zip
          (pairs.map Prod.snd)) [] := by
      rw [storePairs_entries, ← names, List.map_map, List.zip_map']
      rfl
    have kept := stored_kept length (phpKeys_distinct given different)
    rw [← made] at kept
    rw [← texts_clean given, ← kept]
    constructor
    · intro ⟨elements, values, shape, valuesOk, pairsKept⟩
      obtain rfl := Zval.array.inj shape
      rw [if_pos scalar, entriesOf_arrayOf] at pairsKept
      obtain ⟨others, again, same⟩ := pairsKept
      have keysSame : mapKeys = others :=
        List.map_injective_iff.mpr (Option.some_injective _) (given.symm.trans again)
      rw [keysSame, ok_unique (valueOk.symm.trans valuesOk)]
      exact same
    · intro same
      refine ⟨_, _, rfl, valueOk, ?_⟩
      rw [if_pos scalar, entriesOf_arrayOf]
      exact ⟨mapKeys, given, same⟩
  | false =>
    refine iff_of_true ?_ ?_
    · refine ⟨_, _, rfl, valueOk, ?_⟩
      rw [if_neg (by rw [scalar]; decide), entriesOf_arrayOf]
      refine ⟨_, keyOk, ?_⟩
      have small := (entries row).inMemory
      rw [listPairs_entries version pairs (counted ▸ small), List.zipWith_map, List.zipWith_self]
    · intro place _ text textKey
      cases key with
      | scalar type keyValid data =>
        have other : type = .other := by
          by_contra different
          exact absurd scalar (by simp [Vec.scalarKeys, different])
        subst other
        have textKey : (if keyValid place then none else none) = some (MapKey.text text) := textKey
        rw [ite_self] at textKey
        cases textKey
      | list | array | struct | map | union => cases textKey

/-- The texts `a` and `a\0b` as keys of numbers. -/
def cutKeys : Vec × Vec :=
  (.scalar .varchar (fun _ => true) fun row => if row = 0 then [97] else [97, 0, 98],
    .scalar .integer (fun _ => true) fun row => if row = 0 then 1 else 2)

/-- The second key is cut to the first, whose number it overwrites. -/
theorem cutKeys_overwritten :
    decode .php83 0 (.map (fun _ => true) (fun _ => ⟨0, 2, by decide⟩) cutKeys.1 cutKeys.2) 0 =
        .ok (.array (.cons (.name [97]) (.long 2) .nil)) ∧
      [0, 1].map cutKeys.1.mapKey = [some (.text [97]), some (.text [97, 0, 98])] ∧
      ¬ KeepsPairs .php83 0 [0, 1] cutKeys.1 cutKeys.2
        (.array (.cons (.name [97]) (.long 2) .nil)) := by
  refine ⟨rfl, rfl, ?_⟩
  intro ⟨elements, values, shape, valuesOk, pairsKept⟩
  obtain rfl := Zval.array.inj shape
  obtain ⟨mapKeys, given, same⟩ := pairsKept
  have one := congrArg List.length valuesOk
  have two := congrArg List.length given
  rw [List.length_map, List.length_map] at one two
  have three := same.length_eq
  rw [List.length_zip, List.length_map, ← one, ← two] at three
  exact absurd three (by decide)

/-- The texts `a` and `b` as keys of numbers. -/
def wholeKeys : Vec :=
  .scalar .varchar (fun _ => true) fun row => if row = 0 then [97] else [98]

/-- The pairs under the texts `a` and `b`, which have no NUL byte, are both there. -/
theorem map_kept_texts :
    KeepsPairs .php83 0 [0, 1] wholeKeys cutKeys.2
        (.array (.cons (.name [97]) (.long 1) (.cons (.name [98]) (.long 2) .nil))) ↔
      ∀ place ∈ [0, 1], ∀ text, wholeKeys.mapKey place = some (.text text) → 0 ∉ text :=
  map_kept .php83 0 0 (fun _ => true) (fun _ => ⟨0, 2, by decide⟩) wholeKeys cutKeys.2 _ rfl
    (fun _ => ⟨[.text [97], .text [98]], by decide, rfl⟩) rfl

end PhpDuckdb.Decode
