import PhpDuckdb.Lib.Outcome
import PhpDuckdb.Value.Keys

/-!
# Field names of STRUCTs

Four places turn the keys of a PHP array into field names: the plain converter, the builder, and the
declarations of `DuckDB\Struct` and `DuckDB\Union`. `struct_keys_survive` says for which keys they
agree with each other and with the keys.
-/

namespace PhpDuckdb.Value

open SqlText

/-! ## Declarations -/

/-- `DUCKDB_SCALAR_VALUE_CLASSES`: the classes of scalar types with the types they stand for. -/
def scalarValueClasses : List (String × String) :=
  [("Boolean", "BOOLEAN"), ("TinyInt", "TINYINT"), ("SmallInt", "SMALLINT"), ("Integer", "INTEGER"),
    ("BigInt", "BIGINT"), ("UTinyInt", "UTINYINT"), ("USmallInt", "USMALLINT"),
    ("UInteger", "UINTEGER"), ("UBigInt", "UBIGINT"), ("HugeInt", "HUGEINT"),
    ("UHugeInt", "UHUGEINT"), ("BigNum", "BIGNUM"), ("Float32", "FLOAT"), ("Double", "DOUBLE"),
    ("Varchar", "VARCHAR"), ("Blob", "BLOB"), ("Bit", "BIT"), ("Uuid", "UUID"), ("Json", "JSON"),
    ("Date", "DATE"), ("Time", "TIME"), ("TimeNs", "TIME_NS"), ("TimeTz", "TIMETZ"),
    ("TimestampS", "TIMESTAMP_S"), ("TimestampMs", "TIMESTAMP_MS"), ("Timestamp", "TIMESTAMP"),
    ("TimestampNs", "TIMESTAMP_NS"), ("TimestampTz", "TIMESTAMPTZ"), ("IntervalValue", "INTERVAL"),
    ("Variant", "VARIANT")]

/-- The type of a scalar value class by its name, in any case. -/
def scalarClassType (name : Bytes) : Option String :=
  (scalarValueClasses.find? fun entry =>
    (lit ("DuckDB\\" ++ entry.1)).map toUpper = name.map toUpper).map Prod.snd

/-- `type_spec`: the declaration that a specification stands for: a class, a text or an object. -/
def typeSpec (spec : Zval) : Except Thrown Bytes :=
  match spec.deref with
  | .string text =>
    match scalarClassType (if text.head? = some 92 then text.tail else text) with
    | some type => .ok (lit type)
    | none =>
      match Types.duckdbCanonicalizeType text with
      | .error what => .error (valueError what)
      | .ok type => .ok type
  | .value (some type) _ => .ok type.text
  | .value none _ => .error ⟨.error, lit "Uninitialized DuckDB\\Value"⟩
  | _ => .error (typeError <|
      "A type specification must be a SQL string, scalar value class name, or DuckDB\\Value")

/-- The loop over the fields of a declaration. -/
def declaredFields (kind : String) : Bool → Elements → Except Thrown Bytes
  | _, .nil => .ok []
  | first, .cons key spec rest => do
    let child ← typeSpec spec
    if key.packName = [] then .error (valueError (kind ++ " field names must not be empty"))
    else do
      let others ← declaredFields kind false rest
      .ok ((if first then [] else lit ", ") ++ (quoted 34 key.packName ++ lit " " ++ child) ++ others)

/-- `field_type`: the declaration of a STRUCT or a UNION with the fields of an array. -/
def fieldType (kind : String) (fields : Elements) : Except Thrown Bytes :=
  if fields.count = 0 then .error (valueError (kind ++ " requires at least one declared field"))
  else do
    let inner ← declaredFields kind true fields
    .ok (lit kind ++ lit "(" ++ inner ++ lit ")")

/-! ## Names -/

/-- The field names of a STRUCT type. -/
def Members.names : Members → List Bytes
  | .nil => []
  | .cons name _ rest => name :: rest.names

/-- The keys are the numbers from `next` on. -/
def listKeys : Int64 → List Key → Bool
  | _, [] => true
  | next, key :: rest => key = .index next && listKeys (next + 1) rest

/-- The arguments of `struct_pack` under given names. -/
def packedUnder (expression : Zval → Build Text) : Bool → List Bytes → Elements → Build Text
  | first, name :: names, .cons _ value rest => do
    let element ← expression value
    let others ← packedUnder expression false names rest
    pure (separator first ++ (quote name ++ sql " := ") ++ element ++ others)
  | _, _, _ => pure []

/-- The types that the specifications of the fields name, where each of them names one. -/
def specTypes : Elements → Except Thrown (List Bytes)
  | .nil => .ok []
  | .cons _ spec rest => do
    let child ← typeSpec spec
    let others ← specTypes rest
    .ok (child :: others)

/-- The text of a declaration's fields, each under its name and with its type. -/
def fieldTexts : Bool → List Bytes → List Bytes → Bytes
  | first, name :: names, type :: types =>
    (if first then [] else lit ", ") ++ (quoted 34 name ++ lit " " ++ type) ++
      fieldTexts false names types
  | _, _, _ => []

/-- What a key of a non-list array becomes is its string form, everywhere. -/
structure KeysSurvive (keys : List Key) : Prop where
  /-- The plain converter names the fields after them. -/
  plain : ∀ makesVarchar room elements built, elements.keys = keys →
    duckdbPhpToDuckdbValueDepth makesVarchar room (.array elements) = .ok built →
      ∃ members children, built = .struct members children ∧
        members.names = keys.map Key.fieldName
  /-- The names are different. -/
  distinct : (keys.map Key.fieldName).Nodup
  /-- So does the builder. -/
  built : ∀ expression elements, elements.keys = keys →
    packed expression false true elements =
      packedUnder expression true (keys.map Key.fieldName) elements
  /-- A declaration of STRUCT or UNION whose specifications all name a type succeeds, and declares
  the fields under them. -/
  declared : ∀ kind fields types, fields.keys = keys → specTypes fields = .ok types →
    fieldType kind fields =
      .ok (lit kind ++ lit "(" ++ fieldTexts true (keys.map Key.fieldName) types ++ lit ")")
  /-- A declared name finds the element of its key. -/
  matched : ∀ elements : Elements, elements.keys = keys → ∀ key value,
    (key, value) ∈ elements.toList →
    elements.find (symKey key.packName) = some value

/-- An integer key is not negative; a string key is not empty and has no NUL byte. -/
def Spellable : Key → Prop
  | .index number => 0 ≤ number.toInt
  | .name text => text ≠ [] ∧ 0 ∉ text

/-! ## What becomes of keys -/

/-- Being a list is about the keys. -/
theorem isListFrom_keys : ∀ (elements : Elements) (next : Int64),
    elements.isListFrom next = listKeys next elements.keys
  | .nil, _ => rfl
  | .cons key value rest, next => by
    rw [Elements.isListFrom, isListFrom_keys rest, Elements.keys, listKeys]

/-- The plain converter names the fields after the C strings of the keys. -/
theorem convertMembers_names {infer : Zval → Except Thrown (Option LogicalType)}
    {convert : Zval → Except (Option Thrown) DuckValue} :
    ∀ {elements : Elements} {members : Members} {children : List DuckValue},
      convertMembers infer convert elements = .ok (members, children) →
        members.names = elements.keys.map fun key => cString key.fieldName
  | .nil, _, _, converted => by
    obtain ⟨rfl, _⟩ := Outcome.ok_pair converted
    rfl
  | .cons key value rest, members, children, converted => by
    rw [convertMembers] at converted
    dsimp only at converted
    split at converted
    · cases converted
    · cases converted
    · obtain ⟨_, _, later⟩ := Outcome.bind_eq_ok.mp converted
      obtain ⟨⟨others, values⟩, tail, same⟩ := Outcome.bind_eq_ok.mp later
      obtain ⟨rfl, _⟩ := Outcome.ok_pair same
      rw [Members.names, convertMembers_names tail, Elements.keys, List.map_cons]

/-- The builder names the fields after the keys, with integers as unsigned ones. -/
theorem packed_names (expression : Zval → Build Text) : ∀ (elements : Elements) (leading : Bool),
    packed expression false leading elements =
      packedUnder expression leading (elements.keys.map Key.packName) elements
  | .nil, _ => rfl
  | .cons key value rest, leading => by
    rw [packed, packed_names expression rest false, Elements.keys, List.map_cons, packedUnder]
    rfl

/-- A declaration spells the keys as names, once every specification names a type and no key is the
empty text. -/
theorem declared_names (kind : String) : ∀ {fields : Elements} {types : List Bytes} (leading : Bool),
    (∀ key ∈ fields.keys, key.packName ≠ []) → specTypes fields = .ok types →
      declaredFields kind leading fields =
        .ok (fieldTexts leading (fields.keys.map Key.packName) types)
  | .nil, types, _, _, accepted => rfl
  | .cons key spec rest, types, leading, named, accepted => by
    obtain ⟨child, first, further⟩ := Outcome.bind_eq_ok.mp accepted
    obtain ⟨others, later, same⟩ := Outcome.bind_eq_ok.mp further
    obtain rfl := Except.ok.inj same
    have tail := declared_names kind false
      (fun key inside => named key (List.mem_cons_of_mem _ inside)) later
    rw [declaredFields, first, tail, Elements.keys, List.map_cons, fieldTexts]
    exact if_neg (named key List.mem_cons_self)

/-- A field under the empty name is not declared. -/
theorem declaredFields_empty (kind : String) {key : Key} (empty : key.packName = []) :
    ∀ {fields : Elements} {leading : Bool} {text : Bytes}, key ∈ fields.keys →
      declaredFields kind leading fields ≠ .ok text
  | .cons first spec rest, leading, text, inside => by
    intro declared
    obtain ⟨child, _, further⟩ := Outcome.bind_eq_ok.mp declared
    split at further
    · cases further
    · rename_i named
      obtain ⟨others, later, _⟩ := Outcome.bind_eq_ok.mp further
      rcases List.mem_cons.mp inside with rfl | tail
      · exact named empty
      · exact declaredFields_empty kind empty tail later

/-- The digits of a number have no NUL byte. -/
theorem nul_signedDecimal (number : Int) : 0 ∉ signedDecimal number := by
  have digits : 0 ∉ decimal number.natAbs := by
    intro inside
    cases (decimal_digits number.natAbs).2 0 inside
  unfold signedDecimal
  split
  · simp [digits]
  · exact digits

/-- The unsigned spelling of a negative integer is no integer key. -/
theorem numericKey_negative {number : Int64} (negative : number.toInt < 0) :
    numericKey (decimal number.toUInt64.toNat) = none := by
  have signed : number.toInt = number.toUInt64.toBitVec.toInt := rfl
  have bits : number.toUInt64.toBitVec.toNat = number.toUInt64.toNat := rfl
  have large : 2 ^ 63 ≤ number.toUInt64.toNat := by
    rw [BitVec.toInt_eq_toNat_cond] at signed
    split at signed
    · omega
    · omega
  have unsigned := decimal_head number.toUInt64.toNat
  have beyond : ¬(number.toUInt64.toNat : Int) < 9223372036854775808 := by omega
  unfold numericKey
  simp only [unsigned, if_false, decimal_value]
  simp [beyond]

/-- An array with the given keys, and a value for each. -/
def Elements.ofKeys (value : Key → Zval) : List Key → Elements
  | [] => .nil
  | key :: rest => .cons key (value key) (ofKeys value rest)

/-- An array that is made of keys has these keys, in order. -/
theorem ofKeys_keys (value : Key → Zval) : ∀ keys, (Elements.ofKeys value keys).keys = keys
  | [] => rfl
  | key :: rest => by rw [Elements.ofKeys, Elements.keys, ofKeys_keys value rest]

/-- An array that is made of keys has each of them with its value. -/
theorem ofKeys_toList (value : Key → Zval) : ∀ {keys : List Key} {key : Key}, key ∈ keys →
    (key, value key) ∈ (Elements.ofKeys value keys).toList
  | first :: rest, key, inside => by
    rw [Elements.ofKeys, Elements.toList]
    rcases List.mem_cons.mp inside with rfl | further
    · exact List.mem_cons_self
    · exact List.mem_cons_of_mem _ (ofKeys_toList value further)

/-- What is found in it is the value of the key. -/
theorem ofKeys_find (value : Key → Zval) {wanted : Key} {found : Zval} : ∀ {keys : List Key},
    (Elements.ofKeys value keys).find wanted = some found → found = value wanted
  | first :: rest, there => by
    rw [Elements.ofKeys, Elements.find] at there
    split at there
    · rename_i same
      rw [← same]
      exact (Option.some.inj there).symm
    · exact ofKeys_find value there

/-- An array with NULLs under its keys converts. -/
theorem ofKeys_null_converts (makesVarchar : Bytes → Bool) : ∀ keys, ∃ members children,
    convertMembers (duckdbPhpInferLogicalType 1) (duckdbPhpToDuckdbValueDepth makesVarchar 1)
      (Elements.ofKeys (fun _ => .null) keys) = .ok (members, children)
  | [] => ⟨_, _, rfl⟩
  | key :: rest => by
    obtain ⟨members, children, converted⟩ := ofKeys_null_converts makesVarchar rest
    refine ⟨.cons (cString key.fieldName) (plainType .varchar) members, .null :: children, ?_⟩
    rw [Elements.ofKeys, convertMembers, converted]
    rfl

/-- An element's key is one of the keys. -/
theorem keys_of_mem : ∀ {elements : Elements} {key : Key} {value : Zval},
    (key, value) ∈ elements.toList → key ∈ elements.keys
  | .cons first item rest, key, value, inside => by
    rw [Elements.toList] at inside
    rw [Elements.keys]
    rcases List.mem_cons.mp inside with same | further
    · obtain ⟨rfl, rfl⟩ := Prod.mk.inj same
      exact List.mem_cons_self
    · exact List.mem_cons_of_mem _ (keys_of_mem further)

/-- In an array of different keys every element is found under its key. -/
theorem find_of_mem : ∀ {elements : Elements} {key : Key} {value : Zval}, elements.keys.Nodup →
    (key, value) ∈ elements.toList → elements.find key = some value
  | .cons first item rest, key, value, distinct, inside => by
    rw [Elements.keys, List.nodup_cons] at distinct
    rw [Elements.toList] at inside
    rw [Elements.find]
    rcases List.mem_cons.mp inside with same | further
    · obtain ⟨rfl, rfl⟩ := Prod.mk.inj same
      exact if_pos rfl
    · have member : key ∈ rest.keys := keys_of_mem further
      rw [if_neg fun same : first = key => distinct.1 (same ▸ member)]
      exact find_of_mem distinct.2 further

/-! ## Names survive -/

/-- The name of a spellable key is not empty. -/
theorem packName_ne_nil {key : Key} (spellable : Spellable key) : key.packName ≠ [] := by
  cases key with
  | index number => exact (decimal_digits _).1
  | name text => exact spellable.1

/-- Keys that are spellable have the same names everywhere. -/
theorem packName_eq {key : Key} (spellable : Spellable key) : key.packName = key.fieldName := by
  cases key with
  | index number =>
    have positive : 0 ≤ number.toInt := spellable
    rw [Key.packName, Key.fieldName, toUInt64_toNat positive, signedDecimal, if_neg (by omega)]
  | name text => rfl

/-- The C string of the field name of a spellable key is the name. -/
theorem cString_fieldName {key : Key} (spellable : Spellable key) :
    cString key.fieldName = key.fieldName := by
  cases key with
  | index number => exact cString_eq.mpr (nul_signedDecimal number.toInt)
  | name text => exact cString_eq.mpr spellable.2

/-- The fields of an array whose elements all are the specification `INTEGER` are INTEGERs. -/
theorem specTypes_ofKeys : ∀ keys : List Key,
    specTypes (Elements.ofKeys (fun _ => .string (lit "INTEGER")) keys) =
      .ok (keys.map fun _ => lit "INTEGER")
  | [] => rfl
  | key :: rest => by
    have first : typeSpec (.string (lit "INTEGER")) = .ok (lit "INTEGER") := by decide +kernel
    rw [Elements.ofKeys, specTypes, first, specTypes_ofKeys rest]
    rfl

/-- The keys of a non-list PHP array keep their string forms in STRUCT values and types, whichever
way they are made, exactly when no integer is negative and no text is empty or has a NUL byte. -/
theorem struct_keys_survive (keys : List Key) (php : PhpKeys keys) (nonList : listKeys 0 keys = false) :
    KeysSurvive keys ↔ ∀ key ∈ keys, Spellable key := by
  have list : ∀ elements : Elements, elements.keys = keys → elements.isList = false := by
    intro elements same
    rw [Elements.isList, isListFrom_keys, same, nonList]
  constructor
  · intro survive key inside
    cases key with
    | index number =>
      by_contra negative
      have found := survive.matched (Elements.ofKeys (fun key => .string key.fieldName) keys)
        (ofKeys_keys _ keys) (.index number) _ (ofKeys_toList _ inside)
      have other := ofKeys_find _ found
      rw [Key.packName, symKey, numericKey_negative (Int.not_le.mp negative)] at other
      have texts := Zval.string.inj other
      have back := numericKey_signedDecimal number
      rw [show signedDecimal number.toInt = _ from texts, Key.fieldName,
        numericKey_negative (Int.not_le.mp negative)] at back
      cases back
    | name text =>
      constructor
      · -- Every specification is accepted, so the declaration must succeed.
        intro empty
        have accepted := survive.declared "STRUCT" _ _ (ofKeys_keys _ keys) (specTypes_ofKeys keys)
        rw [fieldType] at accepted
        split at accepted
        · cases accepted
        · obtain ⟨inner, declared, _⟩ := Outcome.bind_eq_ok.mp accepted
          refine declaredFields_empty "STRUCT" (show Key.packName (.name text) = [] from empty) ?_ declared
          rwa [ofKeys_keys]
      obtain ⟨members, children, converted⟩ := ofKeys_null_converts everyText keys
      have same := ofKeys_keys (fun _ => .null) keys
      have whole : duckdbPhpToDuckdbValueDepth everyText 2
          (.array (Elements.ofKeys (fun _ => .null) keys)) = .ok (.struct members children) := by
        rw [duckdbPhpToDuckdbValueDepth]
        dsimp only
        rw [list _ same, if_neg (by simp), converted]
        rfl
      obtain ⟨others, values, built, named⟩ := survive.plain _ 2 _ _ same whole
      obtain ⟨rfl, rfl⟩ := DuckValue.struct.inj built
      rw [convertMembers_names converted, same] at named
      have each := List.map_inj_left.mp named (.name text) inside
      exact cString_eq.mp each
  · intro spellable
    have packed_eq : keys.map Key.packName = keys.map Key.fieldName :=
      List.map_congr_left fun key inside => packName_eq (spellable key inside)
    refine ⟨?_, fieldNames_distinct php, ?_, ?_, ?_⟩
    · intro makesVarchar room elements built same converted
      cases room with
      | zero => cases converted
      | succ room =>
        rw [duckdbPhpToDuckdbValueDepth] at converted
        dsimp only at converted
        rw [list elements same, if_neg (by simp)] at converted
        obtain ⟨⟨members, children⟩, made, here⟩ := Outcome.bind_eq_ok.mp converted
        obtain rfl := Except.ok.inj here
        refine ⟨members, children, rfl, ?_⟩
        rw [convertMembers_names made, same]
        exact List.map_congr_left fun key inside => cString_fieldName (spellable key inside)
    · intro expression elements same
      rw [packed_names, same, packed_eq]
    · intro kind fields types same accepted
      have named : ∀ key ∈ fields.keys, key.packName ≠ [] := fun key inside =>
        packName_ne_nil (spellable key (same ▸ inside))
      have some : fields.count ≠ 0 := by
        intro none
        have empty : fields = .nil := by
          cases fields with
          | nil => rfl
          | cons key spec rest => cases none
        rw [empty] at same
        rw [← same] at nonList
        cases nonList
      rw [fieldType, if_neg some, declared_names kind true named accepted, same, packed_eq]
      rfl
    · intro elements same key value inside
      have member : key ∈ keys := same ▸ keys_of_mem inside
      rw [packName_eq (spellable key member), symKey_fieldName php member]
      exact find_of_mem (same ▸ php.distinct) inside

/-- Two keys that survive, a text and an integer. -/
def plainKeys : List Key := [.name (lit "a"), .index 5]

/-- The plain keys survive as the names of fields. -/
theorem struct_keys_survive_plainKeys : KeysSurvive plainKeys := by
  have php : PhpKeys plainKeys := by
    refine ⟨by decide, fun text inside => ?_⟩
    rcases List.mem_cons.mp inside with same | further
    · obtain rfl := Key.name.inj same
      decide +kernel
    · cases List.mem_singleton.mp further
  refine (struct_keys_survive plainKeys php (by decide)).mpr fun key inside => ?_
  rcases List.mem_cons.mp inside with rfl | further
  · exact (by decide : lit "a" ≠ [] ∧ (0 : UInt8) ∉ lit "a")
  · obtain rfl := List.mem_singleton.mp further
    exact (by decide : (0 : Int) ≤ (5 : Int64).toInt)

/-- A negative key does not: the builder and the declarations print it as an unsigned number. -/
theorem negative_key_lost : ¬KeysSurvive [.index (-1)] := by
  intro survive
  have found := survive.matched (.cons (.index (-1)) .null .nil) rfl (.index (-1)) .null
    List.mem_cons_self
  have missing : Elements.find (symKey (Key.packName (.index (-1))))
      (.cons (.index (-1)) .null .nil) = none := by
    decide +kernel
  rw [missing] at found
  cases found

end PhpDuckdb.Value
