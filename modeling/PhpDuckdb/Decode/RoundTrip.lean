import PhpDuckdb.Decode.Maps
import PhpDuckdb.Decode.Storage

/-!
# What is bound is decoded

The converter and the decoder are two recursions that count levels in different ways: the converter has
513 levels left where the decoder is at level 0. A value that the converter accepts decodes, from any
row of a vector of its type, to itself.
-/

namespace PhpDuckdb.Value

open SqlText

mutual

/-- A value made of NULL, booleans, numbers, strings and intervals by PHP arrays whose names have no NUL
byte. -/
def Zval.Plain : Zval → Prop
  | .null | .bool _ | .long _ | .double _ | .string _ | .interval _ _ _ => True
  | .array elements =>
    PhpKeys elements.keys ∧ (∀ text, .name text ∈ elements.keys → 0 ∉ text) ∧
      elements.count < 2 ^ 32 ∧ elements.Plain
  | _ => False

/-- Every element is such a value. -/
def Elements.Plain : Elements → Prop
  | .nil => True
  | .cons _ value rest => value.Plain ∧ rest.Plain

end

end PhpDuckdb.Value

namespace PhpDuckdb.Decode

open SqlText Value OrderedTable

/-! ## PHP arrays and their entries -/

/-- The array of the entries of an array is the array. -/
theorem arrayOf_toList : ∀ elements : Elements, arrayOf elements.toList = elements
  | .nil => rfl
  | .cons key value rest => by rw [Elements.toList, arrayOf, arrayOf_toList rest]

/-- The keys of an array are those of its entries. -/
theorem keys_toList : ∀ elements : Elements, keys elements.toList = elements.keys
  | .nil => rfl
  | .cons key value rest => by rw [Elements.toList, keys_cons, keys_toList rest, Elements.keys]

/-- An array has as many entries as it counts. -/
theorem length_toList : ∀ elements : Elements, elements.toList.length = elements.count
  | .nil => rfl
  | .cons key value rest => by
    rw [Elements.toList, List.length_cons, length_toList rest, Elements.count]

/-- A list has its values under the numbers from the first on. -/
theorem list_toList : ∀ {elements : Elements} {first : Nat},
    elements.isListFrom (Int64.ofNat first) = true →
      elements.toList = ((elements.toList.map Prod.snd).zipIdx first).map fun entry =>
        (.index (Int64.ofNat entry.2), entry.1)
  | .nil, _, _ => rfl
  | .cons key value rest, first, list => by
    rw [Elements.isListFrom, Bool.and_eq_true, decide_eq_true_eq] at list
    obtain ⟨rfl, later⟩ := list
    have further : rest.isListFrom (Int64.ofNat (first + 1)) = true := by
      rwa [Int64.ofNat_add]
    rw [Elements.toList, List.map_cons, List.zipIdx_cons, List.map_cons, ← list_toList further]

/-! ## Rows -/

/-- The rows of one of many lists are a window of all rows. -/
theorem flatMap_window {Row Item : Type} (items : Row → List Item) {rows : List Row} {row : Nat}
    {value : Row} (there : rows[row]? = some value) {index : Nat}
    (inside : index < (items value).length) :
    (rows.flatMap items)[((rows.take row).flatMap items).length + index]? =
      (items value)[index]? := by
  obtain ⟨below, rfl⟩ := List.getElem?_eq_some_iff.mp there
  have parts : rows = rows.take row ++ rows[row] :: rows.drop (row + 1) := by
    rw [List.cons_getElem_drop_succ, List.take_append_drop]
  have flat : rows.flatMap items = (rows.take row).flatMap items ++
      (items rows[row] ++ (rows.drop (row + 1)).flatMap items) := by
    conv_lhs => rw [parts, List.flatMap_append, List.flatMap_cons]
  rw [flat, List.getElem?_append_right (Nat.le_add_right _ _), Nat.add_sub_cancel_left,
    List.getElem?_append_left inside]

/-- The value of a row that exists is read at its position. -/
theorem rowOf_eq {rows : List DuckValue} {row : Nat} {duck : DuckValue}
    (there : rows[row]? = some duck) : rowOf rows row = duck := by
  rw [rowOf, List.getD_eq_getElem?_getD, there, Option.getD_some]

/-- A NULL row of a vector is not valid. -/
theorem vectorOf_null (type : LogicalType) {rows : List DuckValue} {row : Nat}
    (there : rows[row]? = some .null) : (vectorOf type rows).valid row = false := by
  have none_ : validity rows row = false := by rw [validity, rowOf_eq there, DuckValue.isNull]; rfl
  unfold vectorOf
  split <;> exact none_

/-- A row that is not valid decodes to NULL. -/
theorem decode_null (version : PhpVersion) (depth : Nat) {vec : Vec} {row : Nat}
    (invalid : vec.valid row = false) : decode version depth vec row = .ok .null := by
  cases vec <;> (rw [Vec.valid] at invalid; rw [decode, if_neg (by simp [invalid])])

/-- What is related to an element at an index is at the index. -/
theorem forall₂_at {First Second : Type} {related : First → Second → Prop} {firsts : List First}
    {seconds : List Second} (each : List.Forall₂ related firsts seconds) {index : Nat}
    {first : First} (there : firsts[index]? = some first) :
    ∃ second, seconds[index]? = some second ∧ related first second := by
  induction each generalizing index with
  | nil => cases there
  | cons head _ ih =>
    cases index with
    | zero =>
      obtain rfl := Option.some.inj there
      exact ⟨_, rfl, head⟩
    | succ index => exact ih there

/-- The items of a list decode one after the other. -/
theorem decodeItems_of {item : Nat → Except String Zval} : ∀ {values : List Zval} {first : Nat}
    {array : PhpArray Zval},
    (∀ index value, values[index]? = some value → item (first + index) = .ok value) →
      decodeItems item first values.length array = .ok (values.foldl PhpArray.addNextIndex array)
  | [], _, _, _ => rfl
  | value :: rest, first, array, each => by
    have head : item first = .ok value := each 0 value rfl
    have later : ∀ index other, rest[index]? = some other →
        item (first + 1 + index) = .ok other := by
      intro index other there
      have found := each (index + 1) other there
      rwa [Nat.add_comm index, ← Nat.add_assoc] at found
    rw [List.length_cons, decodeItems, head, List.foldl_cons, ← decodeItems_of later]
    rfl

/-- A child above the last level is decoded. -/
theorem nested_above {depth : Nat} (above : depth < maxNestingDepth) (decoded : Except String Zval) :
    nested depth decoded = decoded := if_neg (Nat.not_le_of_lt above)

/-! ## The converter -/

/-- The elements of a list convert one after the other. -/
theorem convertElements_each {convert : Zval → Except (Option Thrown) DuckValue}
    {child : LogicalType} : ∀ {elements : Elements} {index : Nat} {children : List DuckValue},
    convertElements convert child index elements = .ok children →
      List.Forall₂ (fun value item => convert value = .ok item ∧
          (value.isNull = false → logicalTypesEqual child item.type = true))
        (elements.toList.map Prod.snd) children
  | .nil, index, children, converted => by
    obtain rfl := Except.ok.inj converted
    exact .nil
  | .cons key value rest, index, children, converted => by
    obtain ⟨first, made, later⟩ := Outcome.bind_eq_ok.mp converted
    obtain ⟨fits, later⟩ := Outcome.ite_error_eq_ok.mp later
    obtain ⟨others, tail, same⟩ := Outcome.bind_eq_ok.mp later
    obtain rfl := Except.ok.inj same
    exact .cons ⟨made, fun notNull => by simpa [notNull] using fits⟩ (convertElements_each tail)

/-- Every element of a plain array is plain. -/
theorem plain_mem : ∀ {elements : Elements}, elements.Plain →
    ∀ value ∈ elements.toList.map Prod.snd, value.Plain
  | .nil, _, _, never => by cases never
  | .cons key value rest, plain, other, inside => by
    rw [Elements.Plain] at plain
    rw [Elements.toList, List.map_cons, List.mem_cons] at inside
    rcases inside with rfl | further
    · exact plain.1
    · exact plain_mem plain.2 other further

/-- A value that converts has a level left. -/
theorem converts_room {makesVarchar : Bytes → Bool} {room : Nat} {value : Zval} {duck : DuckValue}
    (converted : duckdbPhpToDuckdbValueDepth makesVarchar room value = .ok duck) : 0 < room := by
  cases room with
  | zero => cases converted
  | succ room => exact Nat.succ_pos room

/-! ## The two recursions together -/

/-- What converts with a number of levels left decodes to itself from the level that leaves as many. -/
def DecodesAt (makesVarchar : Bytes → Bool) (version : PhpVersion) (room : Nat) : Prop :=
  ∀ {value : Zval} {duck : DuckValue} {depth : Nat} {type : LogicalType} {rows : List DuckValue}
    {row : Nat}, value.Plain → duckdbPhpToDuckdbValueDepth makesVarchar room value = .ok duck →
    depth + room = maxNestingDepth + 1 → rows[row]? = some duck →
    (value.isNull = false → type = duck.type) →
    decode version depth (vectorOf type rows) row = .ok value

variable {makesVarchar : Bytes → Bool} {version : PhpVersion} {room depth row : Nat}

/-- A child is decoded one level down. -/
theorem DecodesAt.child (each : DecodesAt makesVarchar version room) {value : Zval} {duck : DuckValue}
    {type : LogicalType} {rows : List DuckValue} (plain : value.Plain)
    (converted : duckdbPhpToDuckdbValueDepth makesVarchar room value = .ok duck)
    (levels : depth + (room + 1) = maxNestingDepth + 1) (there : rows[row]? = some duck)
    (typed : value.isNull = false → type = duck.type) :
    nested depth (decode version (depth + 1) (vectorOf type rows) row) = .ok value := by
  have left := converts_room converted
  rw [nested_above (by omega)]
  exact each plain converted (by omega) there typed

/-- The entry of a list that is there. -/
theorem listEntry_eq {rows : List DuckValue} {child : LogicalType} {children : List DuckValue}
    (there : rows[row]? = some (.list child children)) (small : children.length < 2 ^ 63) :
    (listEntry rows row).offset = firstItem rows row ∧
      (listEntry rows row).length = children.length := by
  have items : (rowOf rows row).items = children := by rw [rowOf_eq there, DuckValue.items]
  have inMemory : (rowOf rows row).items.length < 2 ^ 63 := by rwa [items]
  rw [listEntry, dif_pos inMemory]
  exact ⟨rfl, congrArg List.length items⟩

/-- A list whose elements decode to themselves decodes to itself. -/
theorem list_decodes (each : DecodesAt makesVarchar version room) {elements : Elements} {duck : DuckValue}
    {rows : List DuckValue} (plain : elements.Plain) (small : elements.count < 2 ^ 32)
    (list : elements.isList = true)
    (converted : duckdbPhpArrayToListValue (duckdbPhpInferLogicalType room)
      (duckdbPhpToDuckdbValueDepth makesVarchar room) elements = .ok duck)
    (levels : depth + (room + 1) = maxNestingDepth + 1) (there : rows[row]? = some duck) :
    decode version depth (vectorOf duck.type rows) row = .ok (.array elements) := by
  unfold duckdbPhpArrayToListValue at converted
  obtain ⟨-, converted⟩ := Outcome.ite_error_eq_ok.mp converted
  dsimp only at converted
  split at converted
  · cases converted
  · cases converted
  · rename_i child found
    obtain ⟨children, made, same⟩ := Outcome.bind_eq_ok.mp converted
    obtain rfl := Except.ok.inj same
    have inferable : child.Inferable := by
      split at found
      · cases found
      · exact infer_inferable found
    have pairs := convertElements_each made
    have lengths := pairs.length_eq
    have count : (elements.toList.map Prod.snd).length = elements.count := by
      rw [List.length_map, length_toList]
    obtain ⟨offset, length⟩ := listEntry_eq there (by omega)
    have valid : validity rows row = true := by rw [validity, rowOf_eq there]; rfl
    have items : ∀ index value, (elements.toList.map Prod.snd)[index]? = some value →
        nested depth (decode version (depth + 1) (vectorOf child (rows.flatMap DuckValue.items))
          (firstItem rows row + index)) = .ok value := by
      intro index value at_
      obtain ⟨item, stored, converts, same⟩ := forall₂_at pairs at_
      have inside : index < children.length := (List.getElem?_eq_some_iff.mp stored).1
      have window := flatMap_window DuckValue.items there inside
      refine each.child (plain_mem plain value (List.mem_of_getElem? at_)) converts levels
        (window.trans stored) fun notNull => ?_
      have types := (depth_builds converts).inferable.2.1 notNull
      exact eq_of_logicalTypesEqual inferable types (same notNull)
    have entries := (PhpArray.isList_empty version).append (elements.toList.map Prod.snd) (by omega)
    rw [DuckValue.type, vectorOf, decode, if_pos valid, offset, length, ← lengths,
      decodeItems_of items]
    refine congrArg (fun elements => Except.ok (Zval.array elements)) ?_
    have from_zero : elements.isListFrom (Int64.ofNat 0) = true := list
    rw [entries, ← list_toList from_zero]
    exact arrayOf_toList elements

/-- The fields of a STRUCT are stored under the names of the keys. -/
theorem columns_decode (each : DecodesAt makesVarchar version room)
    (levels : depth + (room + 1) = maxNestingDepth + 1) : ∀ {elements : Elements} {members : Members}
      {children : List DuckValue} {rows : List (List DuckValue)} {array : PhpArray Zval},
      elements.Plain →
      convertMembers (duckdbPhpInferLogicalType room)
        (duckdbPhpToDuckdbValueDepth makesVarchar room) elements = .ok (members, children) →
      rows[row]? = some children →
      decodeStruct version depth row (columnsOf members rows) array =
        .ok (array.addAll (elements.toList.map fun entry => (cString entry.1.fieldName, entry.2)))
  | .nil, members, children, rows, array, _, converted, _ => by
    obtain ⟨rfl, rfl⟩ := Outcome.ok_pair converted
    rfl
  | .cons key value rest, members, children, rows, array, plain, converted, there => by
    rw [Elements.Plain] at plain
    rw [convertMembers] at converted
    dsimp only at converted
    split at converted
    · cases converted
    · cases converted
    · rename_i type found
      obtain ⟨first, made, later⟩ := Outcome.bind_eq_ok.mp converted
      obtain ⟨⟨others, values⟩, tail, same⟩ := Outcome.bind_eq_ok.mp later
      obtain ⟨rfl, rfl⟩ := Outcome.ok_pair same
      have typed : value.isNull = false → type = first.type := by
        intro notNull
        rw [notNull, if_neg (by simp)] at found
        exact Option.some.inj (Except.ok.inj (found.symm.trans ((depth_builds made).inferred notNull)))
      have head : (rows.map fun fields => fields.headD .null)[row]? = some first := by
        rw [List.getElem?_map, there]
        rfl
      have further : (rows.map List.tail)[row]? = some values := by
        rw [List.getElem?_map, there]
        rfl
      rw [columnsOf, decodeStruct, each.child plain.1 made levels head typed, Elements.toList,
        List.map_cons]
      show decodeStruct version depth row (columnsOf others (rows.map List.tail))
        (array.addAssoc (cString (cString key.fieldName)) value) = _
      rw [cString_cString, columns_decode each levels plain.2 tail further]
      rfl

/-- The names of the fields are read as the keys. -/
theorem names_read {elements : Elements} (php : PhpKeys elements.keys)
    (clean : ∀ text, .name text ∈ elements.keys → 0 ∉ text) :
    (elements.toList.map fun entry => (cString entry.1.fieldName, entry.2)).map
      (fun column => (symKey column.1, column.2)) = elements.toList := by
  rw [List.map_map]
  refine (List.map_congr_left fun entry inside => ?_).trans (List.map_id _)
  obtain ⟨key, value⟩ := entry
  have member : key ∈ elements.keys := keys_of_mem inside
  have text : cString key.fieldName = key.fieldName := by
    cases key with
    | index number => exact cString_eq.mpr (nul_signedDecimal number.toInt)
    | name text => exact cString_eq.mpr (clean text member)
  show (symKey (cString key.fieldName), value) = (key, value)
  rw [text, symKey_fieldName php member]

/-- An array that is no list decodes to itself. -/
theorem struct_decodes (each : DecodesAt makesVarchar version room) {elements : Elements} {members : Members}
    {children : List DuckValue} {rows : List DuckValue} (plain : (Zval.array elements).Plain)
    (converted : convertMembers (duckdbPhpInferLogicalType room)
      (duckdbPhpToDuckdbValueDepth makesVarchar room) elements = .ok (members, children))
    (levels : depth + (room + 1) = maxNestingDepth + 1)
    (there : rows[row]? = some (.struct members children)) :
    decode version depth (vectorOf (.struct members) rows) row = .ok (.array elements) := by
  rw [Zval.Plain] at plain
  obtain ⟨php, clean, -, each_⟩ := plain
  have valid : validity rows row = true := by rw [validity, rowOf_eq there]; rfl
  have fields : (rows.map DuckValue.fields)[row]? = some children := by
    rw [List.getElem?_map, there]
    rfl
  have distinct : (keys elements.toList).Nodup := keys_toList elements ▸ php.distinct
  rw [vectorOf, decode, if_pos valid, columns_decode each levels each_ converted fields]
  refine congrArg (fun elements => Except.ok (Zval.array elements)) ?_
  rw [PhpArray.addAll_entries, names_read php clean]
  exact (congrArg arrayOf (updateAll_distinct distinct)).trans (arrayOf_toList elements)

/-- A value that is stored as a scalar decodes to itself. -/
theorem leaf_decodes {type : ScalarType} {rows : List DuckValue} {duck : DuckValue}
    {data : Nat → type.Native} {value : Zval} (there : rows[row]? = some duck)
    (notNull : duck.isNull = false) (decoded : decodeScalar type (data row) = .ok value) :
    decode version depth (.scalar type (validity rows) data) row = .ok value := by
  have valid : validity rows row = true := by rw [validity, rowOf_eq there, notNull]; rfl
  rw [decode, if_pos valid, decoded]

/-- What converts decodes to itself, at every level. -/
theorem decodesAt (makesVarchar : Bytes → Bool) (version : PhpVersion) (room : Nat) : DecodesAt makesVarchar version room := by
  induction room with
  | zero =>
    intro value duck depth type rows row plain converted
    cases converted
  | succ room each =>
    intro value duck depth type rows row plain converted levels there typed
    cases value with
    | null =>
      obtain rfl := Except.ok.inj converted
      exact decode_null version depth (vectorOf_null type there)
    | array elements =>
      obtain rfl := typed rfl
      simp only [duckdbPhpToDuckdbValueDepth] at converted
      cases list : elements.isList with
      | true =>
        rw [list, if_pos rfl] at converted
        rw [Zval.Plain] at plain
        exact list_decodes each plain.2.2.2 plain.2.2.1 list converted levels there
      | false =>
        rw [list, if_neg (by simp)] at converted
        obtain ⟨⟨members, children⟩, made, same⟩ := Outcome.bind_eq_ok.mp converted
        obtain rfl := Except.ok.inj same
        exact struct_decodes each plain made levels there
    | string text =>
      obtain rfl := typed rfl
      obtain ⟨-, rfl⟩ := createVarchar_ok converted
      refine leaf_decodes there rfl ?_
      rw [rowOf_eq there]
      rfl
    | bool | long | double | interval =>
      obtain rfl := typed rfl
      obtain rfl := Except.ok.inj converted
      refine leaf_decodes there rfl ?_
      rw [rowOf_eq there]
      rfl
    | value | dateTime | object | resource | reference =>
      exact absurd plain (by simp [Zval.Plain])

/-- A value of NULL, booleans, integers, floats, strings and intervals in lists and non-list arrays that
the converter accepts decodes to itself from any row of a vector of its type, however deeply it is
nested. -/
theorem bind_decodes (makesVarchar : Bytes → Bool) (version : PhpVersion) {value : Zval}
    (plain : value.Plain) {duck : DuckValue}
    (bound : duckdbPhpToDuckdbValue makesVarchar value = .ok duck) {rows : List DuckValue} {row : Nat}
    (there : rows[row]? = some duck) : decode version 0 (vectorOf duck.type rows) row = .ok value :=
  decodesAt makesVarchar version (Value.maxNestingDepth + 1) plain bound (Nat.zero_add _) there fun _ => rfl

/-- A list of a STRUCT and NULL, as DuckDB has it. -/
def boundList : DuckValue :=
  .list (.struct (.cons (lit "a") (plainType .bigint) (.cons (lit "b") (plainType .varchar) .nil)))
    [.struct (.cons (lit "a") (plainType .bigint) (.cons (lit "b") (plainType .varchar) .nil))
      [.bigint 1, .null], .null]

/-- A list of a STRUCT and NULL is read back from the second row. -/
theorem bind_decodes_nestedList : duckdbPhpToDuckdbValue everyText nestedList = .ok boundList ∧
    decode .php83 0 (vectorOf boundList.type [.null, boundList]) 1 = .ok nestedList := by
  have bound : duckdbPhpToDuckdbValue everyText nestedList = .ok boundList := rfl
  have plain : nestedList.Plain := by
    have outer : PhpKeys [.index 0, .index 1] := ⟨by decide, by simp⟩
    have inner : PhpKeys [.name (lit "a"), .name (lit "b")] := by
      refine ⟨by decide, fun text inside => ?_⟩
      simp only [List.mem_cons, Key.name.injEq, List.not_mem_nil, or_false] at inside
      rcases inside with rfl | rfl
      · decide
      · decide
    have clean : ∀ text, Key.name text ∈ [Key.name (lit "a"), .name (lit "b")] → 0 ∉ text := by
      intro text inside
      simp only [List.mem_cons, Key.name.injEq, List.not_mem_nil, or_false] at inside
      rcases inside with rfl | rfl
      · decide
      · decide
    refine ⟨outer, by simp [Elements.keys], by decide, ⟨inner, clean, by decide, trivial, trivial,
      trivial⟩, trivial, trivial⟩
  exact ⟨bound, bind_decodes everyText .php83 plain bound rfl⟩

end PhpDuckdb.Decode
