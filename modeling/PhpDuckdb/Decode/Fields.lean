import Mathlib.Logic.Relation
import PhpDuckdb.Decode.Nested

/-!
# Fields of STRUCTs

A STRUCT becomes an array under the names of its fields, each cut at its first NUL byte. Equal names
overwrite one another, and those of an unnamed ROW are all empty: `fields_kept` says that every
STRUCT in a value shows its fields exactly when the names are different at every level.
-/

namespace PhpDuckdb.Decode

open SqlText Value OrderedTable

/-! ## Fields in order -/

/-- A decoded STRUCT has one entry for every child in order, with the value of the child. -/
def KeepsFields (version : PhpVersion) (depth row : Nat) (children : Children) (decoded : Zval) :
    Prop :=
  ∃ elements values, decoded = .array elements ∧ DecodesTo version depth row children values ∧
    (entriesOf elements).map Prod.snd = values

/-- A row decodes to as many values as there are names. -/
theorem DecodesTo.length_eq {version : PhpVersion} {depth row : Nat} {children : Children}
    {values : List Zval} (decodes : DecodesTo version depth row children values) :
    children.names.length = values.length := by
  have lengths := congrArg List.length decodes
  rw [List.length_map, List.length_map] at lengths
  rw [Children.names, List.length_map, lengths]

/-- The insertions of fields keep all of them exactly when their names are different. -/
theorem insertions_kept {names : List Bytes} {values : List Zval} (version : PhpVersion)
    (length : names.length = values.length) :
    (((PhpArray.empty version).addAll (names.zip values)).entries.map Prod.snd = values ↔
      names.Nodup) := by
  have entries : ((PhpArray.empty version).addAll (names.zip values)).entries =
      updateAll ((names.map symKey).zip values) [] := by
    rw [PhpArray.addAll_entries, List.zip_map_left]
    rfl
  have keyNames : keys ((names.map symKey).zip values) = names.map symKey := by
    rw [keys, List.map_fst_zip (by rw [List.length_map, length])]
  have different : (names.map symKey).Nodup ↔ names.Nodup :=
    List.nodup_map_iff fun _ _ same => symKey_injective same
  have counted : ((names.map symKey).zip values).length = values.length := by
    rw [List.length_zip, List.length_map, length, Nat.min_self]
  rw [entries, ← different]
  constructor
  · intro all
    have stored := congrArg List.length all
    rw [List.length_map] at stored
    have distinct : (keys ([] : List (Key × Zval)) ++ keys ((names.map symKey).zip values)).Nodup :=
      distinct_of_length (by rw [stored, counted, List.length_nil, Nat.zero_add]) List.nodup_nil
    rw [keyNames] at distinct
    exact distinct
  · intro distinct
    rw [← keyNames] at distinct
    rw [updateAll_distinct distinct, List.map_snd_zip]
    rw [List.length_map, length]

/-- A decoded STRUCT keeps its fields exactly when their names are different. -/
theorem struct_kept {version : PhpVersion} {depth row : Nat} {valid : Nat → Bool}
    {children : Children} {decoded : Zval} (present : valid row = true)
    (ok : decode version depth (.struct valid children) row = .ok decoded) :
    KeepsFields version depth row children decoded ↔ children.names.Nodup := by
  rw [decode, if_pos present] at ok
  cases fields : decodeStruct version depth row children (.empty version) with
  | error message =>
    rw [fields] at ok
    cases ok
  | ok array =>
    rw [fields] at ok
    obtain rfl := Except.ok.inj ok
    obtain ⟨values, decodes, rfl⟩ := decodeStruct_ok children fields
    rw [← insertions_kept version (DecodesTo.length_eq decodes)]
    constructor
    · intro ⟨elements, others, same, again, all⟩
      obtain rfl := Zval.array.inj same
      rw [entriesOf_arrayOf] at all
      have unique : others = values := by
        have one : others.map (Except.ok (ε := String)) = values.map Except.ok :=
          again.symm.trans decodes
        exact List.map_injective_iff.mpr (fun _ _ same => Except.ok.inj same) one
      rw [all, unique]
    · intro all
      exact ⟨_, values, rfl, decodes, by rw [entriesOf_arrayOf, all]⟩

/-! ## Every level -/

/-- A row of a vector at a depth. -/
structure Cell where
  /-- `decode_ctx::depth`. -/
  depth : Nat
  /-- The vector. -/
  vec : Vec
  /-- The row. -/
  row : Nat

/-- The rows of children that the decoder reads for a row. -/
def Vec.parts : Vec → Nat → List (Vec × Nat)
  | .scalar _ _ _, _ => []
  | .list _ entries child, row =>
    (List.range' (entries row).offset (entries row).length).map fun row => (child, row)
  | .array _ size child, row => (List.range' (row * size) size).map fun row => (child, row)
  | .struct _ children, row => children.toList.map fun child => (child.2, row)
  | .map _ entries key value, row =>
    (List.range' (entries row).offset (entries row).length).map (fun row => (key, row)) ++
      (List.range' (entries row).offset (entries row).length).map fun row => (value, row)
  | .union _ tags members, row =>
    (members.toList[(tags row).toNat]?).toList.map fun member => (member.2, row)

/-- A row of a child that the decoder reads for a row that is not NULL. -/
def Inside (whole part : Cell) : Prop :=
  whole.vec.valid whole.row = true ∧ part.depth = whole.depth + 1 ∧
    (part.vec, part.row) ∈ whole.vec.parts whole.row

/-- What the decoder makes of a row. -/
def Cell.decoded (version : PhpVersion) (cell : Cell) : Except String Zval :=
  decode version cell.depth cell.vec cell.row

/-- What decodes to values, one each, decodes. -/
theorem decodes_each {Part : Type} {parts : List Part} {decoded : Part → Except String Zval}
    {values : List Zval} (all : parts.map decoded = values.map Except.ok) {part : Part}
    (inside : part ∈ parts) : ∃ value, decoded part = .ok value := by
  have made : decoded part ∈ values.map Except.ok := all ▸ List.mem_map_of_mem inside
  obtain ⟨value, _, same⟩ := List.mem_map.mp made
  exact ⟨value, same.symm⟩

/-- The rows that the decoder reads for a row that decodes decode. -/
theorem inside_ok {version : PhpVersion} {whole part : Cell} (inside : Inside whole part)
    (ok : ∃ value, whole.decoded version = .ok value) :
    ∃ value, part.decoded version = .ok value := by
  obtain ⟨depth, vec, row⟩ := whole
  obtain ⟨below, child, place⟩ := part
  obtain ⟨present, deeper, among⟩ := inside
  obtain ⟨value, ok⟩ := ok
  have level : below = depth + 1 := deeper
  subst level
  -- The child is decoded below the nesting check.
  suffices checked : ∃ value, nested depth (decode version (depth + 1) child place) = .ok value by
    obtain ⟨value, checked⟩ := checked
    exact ⟨value, nested_ok checked⟩
  have ok : decode version depth vec row = .ok value := ok
  have present : vec.valid row = true := present
  have among : (child, place) ∈ vec.parts row := among
  cases vec with
  | scalar type valid data => cases among
  | list valid entries elements =>
    rw [decode, if_pos (show valid row = true from present)] at ok
    obtain ⟨array, items, _⟩ := map_ok ok
    obtain ⟨values, all, _⟩ := decodeItems_ok items
    obtain ⟨index, inRange, same⟩ := List.mem_map.mp among
    cases same
    exact decodes_each all inRange
  | array valid size elements =>
    rw [decode, if_pos (show valid row = true from present)] at ok
    obtain ⟨array, items, _⟩ := map_ok ok
    obtain ⟨values, all, _⟩ := decodeItems_ok items
    obtain ⟨index, inRange, same⟩ := List.mem_map.mp among
    cases same
    exact decodes_each all inRange
  | struct valid children =>
    rw [decode, if_pos (show valid row = true from present)] at ok
    obtain ⟨array, fields, _⟩ := map_ok ok
    obtain ⟨values, all, _⟩ := decodeStruct_ok children fields
    obtain ⟨named, member, same⟩ := List.mem_map.mp among
    cases same
    exact decodes_each all member
  | map valid entries key values =>
    rw [decode, if_pos (show valid row = true from present)] at ok
    obtain ⟨array, stored, _⟩ := map_ok ok
    obtain ⟨pairs, keys, values, _⟩ := decodePairs_ok stored
    cases List.mem_append.mp among with
    | inl first =>
      obtain ⟨index, inRange, same⟩ := List.mem_map.mp first
      cases same
      exact decodes_each (keys.trans (List.map_map ..).symm) inRange
    | inr second =>
      obtain ⟨index, inRange, same⟩ := List.mem_map.mp second
      cases same
      exact decodes_each (values.trans (List.map_map ..).symm) inRange
  | union valid tags members =>
    rw [decode, if_pos (show valid row = true from present)] at ok
    obtain ⟨member, tagged, same⟩ := List.mem_map.mp among
    cases same
    exact ⟨value, decodeMember_ok members ok (Option.mem_toList.mp tagged)⟩

/-- The rows that the decoder reads, at any level, for a row that decodes decode. -/
theorem reached_ok {version : PhpVersion} {whole part : Cell}
    (reached : Relation.ReflTransGen Inside whole part)
    (ok : ∃ value, whole.decoded version = .ok value) :
    ∃ value, part.decoded version = .ok value := by
  induction reached with
  | refl => exact ok
  | tail _ inside ih => exact inside_ok inside ih

/-- The fields of a row of a STRUCT that is not NULL. -/
def Cell.fields (cell : Cell) : Option Children :=
  match cell.vec with
  | .struct valid children => if valid cell.row then some children else none
  | _ => none

/-- Every STRUCT in a value that decodes has one entry for every child in declaration order, with
what the child decodes to, exactly when the names of its fields, each up to its first NUL byte, are
different at every level. -/
theorem fields_kept (version : PhpVersion) (whole : Cell) (decoded : Zval)
    (ok : whole.decoded version = .ok decoded) :
    (∀ cell children, Relation.ReflTransGen Inside whole cell → cell.fields = some children →
      ∃ value, cell.decoded version = .ok value ∧
        KeepsFields version cell.depth cell.row children value) ↔
      ∀ cell children, Relation.ReflTransGen Inside whole cell → cell.fields = some children →
        children.names.Nodup := by
  have each : ∀ cell children, Relation.ReflTransGen Inside whole cell →
      cell.fields = some children → ((∃ value, cell.decoded version = .ok value ∧
        KeepsFields version cell.depth cell.row children value) ↔ children.names.Nodup) := by
    intro cell children reached struct
    obtain ⟨value, made⟩ := reached_ok reached ⟨decoded, ok⟩
    obtain ⟨depth, vec, row⟩ := cell
    cases vec with
    | struct valid fields =>
      have struct : (if valid row then some fields else none) = some children := struct
      have present : valid row = true := by
        by_contra absent
        rw [if_neg absent] at struct
        cases struct
      rw [if_pos present] at struct
      obtain rfl := Option.some.inj struct
      rw [← struct_kept present made]
      constructor
      · intro ⟨other, again, kept⟩
        obtain rfl := Except.ok.inj (made.symm.trans again)
        exact kept
      · intro kept
        exact ⟨value, made, kept⟩
    | scalar | list | array | map | union => cases struct
  constructor
  · intro kept cell children reached struct
    exact (each cell children reached struct).mp (kept cell children reached struct)
  · intro different cell children reached struct
    exact (each cell children reached struct).mpr (different cell children reached struct)

/-- A vector of one value of type INTEGER. -/
def oneInteger (value : Int32) : Vec := .scalar .integer (fun _ => true) fun _ => value

/-- An unnamed ROW of two integers. -/
def unnamedRow : Cell :=
  ⟨0, .struct (fun _ => true) (.cons (some []) (oneInteger 1) (.cons (some []) (oneInteger 2) .nil)),
    0⟩

/-- A STRUCT of two integers under two names. -/
def namedRow : Cell :=
  ⟨0, .struct (fun _ => true)
    (.cons (some [97]) (oneInteger 1) (.cons (some [98]) (oneInteger 2) .nil)), 0⟩

/-- The second field of an unnamed ROW overwrites the first. -/
theorem unnamedRow_overwritten :
    unnamedRow.decoded .php83 = .ok (.array (.cons (.name []) (.long 2) .nil)) ∧
      ¬ ∀ cell children, Relation.ReflTransGen Inside unnamedRow cell →
        cell.fields = some children → ∃ value, cell.decoded .php83 = .ok value ∧
          KeepsFields .php83 cell.depth cell.row children value := by
  refine ⟨rfl, ?_⟩
  intro kept
  obtain ⟨value, ok, elements, values, shape, decodes, all⟩ :=
    kept unnamedRow _ Relation.ReflTransGen.refl rfl
  have one : Except.ok (.array (.cons (.name []) (.long 2) .nil)) = Except.ok value := ok
  obtain rfl := Except.ok.inj one
  obtain rfl := Zval.array.inj shape
  have two : 2 = values.length := by
    have lengths := congrArg List.length decodes
    rwa [List.length_map, List.length_map] at lengths
  rw [← all] at two
  exact absurd two (by decide)

/-- The fields of a STRUCT under two names are kept. -/
theorem fields_kept_named :
    namedRow.decoded .php83 =
      .ok (.array (.cons (.name [97]) (.long 1) (.cons (.name [98]) (.long 2) .nil))) ∧
    ((∀ cell children, Relation.ReflTransGen Inside namedRow cell → cell.fields = some children →
      ∃ value, cell.decoded .php83 = .ok value ∧
        KeepsFields .php83 cell.depth cell.row children value) ↔
      ∀ cell children, Relation.ReflTransGen Inside namedRow cell → cell.fields = some children →
        children.names.Nodup) :=
  ⟨rfl, fields_kept .php83 namedRow _ rfl⟩

end PhpDuckdb.Decode
