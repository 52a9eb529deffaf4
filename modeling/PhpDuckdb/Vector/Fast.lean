import PhpDuckdb.Value.Evaluation
import PhpDuckdb.Vector.Data

/-!
# Fast writes

Plain PHP scalars that DuckDB would cast without changing them are written into a vector directly.
`fast_matches` says that this is what the typed conversion of the same input stores, given that
DuckDB's casts of such values are identities.
-/

namespace PhpDuckdb.Vector

open SqlText PhpDuckdb.Value

/-- What a row holds, at the type of its vector. -/
inductive Content
  | null
  | boolean (value : Bool)
  | integer (value : Int)
  | float64 (bits : UInt64)
  /-- A VARCHAR or a BLOB. -/
  | string (bytes : Bytes)
  /-- A value of any other layout. -/
  | native (value : DuckValue)

/-! ## The fast path -/

/-- `std::numeric_limits` of an integer type, as `fits` reads them. -/
structure Limits where
  /-- `is_signed`. -/
  signed : Bool
  /-- `min()`, cast to `zend_long`. -/
  min : Int64
  /-- `max()`, cast to `uint64_t`. -/
  max : UInt64

/-- `fits`: an integer is in the range of a column's type. -/
def fits (limits : Limits) (number : Int64) : Bool :=
  if number < 0 ∧ limits.signed = false then false
  else if limits.signed then limits.min ≤ number && number ≤ limits.max.toInt64
  else number.toUInt64 ≤ limits.max

/-- `IS_LONG`, and a condition on the number. -/
def isLongWith (condition : Int64 → Bool) : Zval → Bool
  | .long number => condition number
  | _ => false

/-- `duckdb_vector_can_write_fast`, where `validUtf8` is `valid_utf8`: an input needs no conversion.
-/
def duckdbVectorCanWriteFast (validUtf8 : Bytes → Bool) (kind : FastKind) (input : Zval) : Bool :=
  match kind with
  | .boolean =>
    match input with
    | .bool _ => true
    | _ => false
  | .int8 => isLongWith (fits ⟨true, -128, 127⟩) input
  | .int16 => isLongWith (fits ⟨true, -32768, 32767⟩) input
  | .int32 => isLongWith (fits ⟨true, -2147483648, 2147483647⟩) input
  | .int64 => isLongWith (fun _ => true) input
  | .uint8 => isLongWith (fits ⟨false, 0, 255⟩) input
  | .uint16 => isLongWith (fits ⟨false, 0, 65535⟩) input
  | .uint32 => isLongWith (fits ⟨false, 0, 4294967295⟩) input
  | .uint64 => isLongWith (fun number => 0 ≤ number) input
  | .float64 =>
    match input with
    | .double _ => true
    | _ => false
  | .varchar =>
    match input with
    | .string text => !text.contains 0 && validUtf8 text
    | _ => false
  | .blob =>
    match input with
    | .string _ => true
    | _ => false
  | .none => false

/-- `Z_DVAL_P`: the bits of a double, read without a check. -/
def dval : Zval → UInt64
  | .double bits => bits
  | _ => 0

/-- `Z_STRVAL_P` and `Z_STRLEN_P`: the bytes of a string. -/
def strval : Zval → Bytes
  | .string text => text
  | _ => []

/-- `IS_TRUE`: the value is the boolean true. -/
def isTrue : Zval → Bool
  | .bool flag => flag
  | _ => false

/-- What `duckdb_vector_write_fast` stores for an input, if it can. -/
def storedFast (kind : FastKind) (input : Zval) : Option Content :=
  match kind with
  | .boolean => some (.boolean (isTrue input))
  | .int8 => some (.integer (lval input).toInt8.toInt)
  | .int16 => some (.integer (lval input).toInt16.toInt)
  | .int32 => some (.integer (lval input).toInt32.toInt)
  | .int64 => some (.integer (lval input).toInt)
  | .uint8 => some (.integer (lval input).toUInt64.toUInt8.toNat)
  | .uint16 => some (.integer (lval input).toUInt64.toUInt16.toNat)
  | .uint32 => some (.integer (lval input).toUInt64.toUInt32.toNat)
  | .uint64 => some (.integer (lval input).toUInt64.toNat)
  | .float64 => some (.float64 (dval input))
  | .varchar => some (.string (strval input))
  | .blob => some (.string (strval input))
  | .none => none

/-- `duckdb_vector_write_fast`: writes an input into a row without a conversion. -/
def duckdbVectorWriteFast (rows : Rows Content) (kind : FastKind) (row : Nat) (input : Zval) :
    Rows Content :=
  match storedFast kind input with
  | some content => Function.update rows row content
  | none => rows

/-! ## Identity casts -/

/-- The integers that a column of the kind can hold. -/
def FastKind.range : FastKind → Option (Int × Int)
  | .int8 => some (-128, 127)
  | .int16 => some (-32768, 32767)
  | .int32 => some (-2147483648, 2147483647)
  | .int64 => some (-9223372036854775808, 9223372036854775807)
  | .uint8 => some (0, 255)
  | .uint16 => some (0, 65535)
  | .uint32 => some (0, 4294967295)
  | .uint64 => some (0, 18446744073709551615)
  | _ => Option.none

/-- What the text `CAST($1 AS type)` stands for. -/
def castPieces (item : DuckValue) (declaration : Bytes) : List (Bytes ⊕ DuckValue) :=
  [.inl (lit "CAST("), .inr item, .inl (lit " AS " ++ declaration ++ lit ")")]

/-- DuckDB's cast of a value to a type gives what a row then holds. -/
def CastsTo (meaning : List (Bytes ⊕ DuckValue) → Except (Option Thrown) DuckValue)
    (held : DuckValue → Content) (declaration : Bytes) (item : DuckValue) (content : Content) :
    Prop :=
  ∃ result, meaning (castPieces item declaration) = .ok result ∧ held result = content

/-- DuckDB's casts of the values of a type's own kind are identities. -/
structure IdentityCasts (validUtf8 : Bytes → Bool)
    (meaning : List (Bytes ⊕ DuckValue) → Except (Option Thrown) DuckValue)
    (held : DuckValue → Content) (kind : FastKind) (declaration : Bytes) : Prop where
  /-- Booleans. -/
  boolean : kind = .boolean → ∀ flag,
    CastsTo meaning held declaration (.bool flag) (.boolean flag)
  /-- Integers in range. -/
  integer : ∀ low high, kind.range = some (low, high) → ∀ number : Int64,
    low ≤ number.toInt → number.toInt ≤ high →
      CastsTo meaning held declaration (.bigint number) (.integer number.toInt)
  /-- Doubles. -/
  float64 : kind = .float64 → ∀ bits,
    CastsTo meaning held declaration (.double bits) (.float64 bits)
  /-- Valid text without NUL bytes. -/
  varchar : kind = .varchar → ∀ text, (0 : UInt8) ∉ text → validUtf8 text = true →
    CastsTo meaning held declaration (.varchar text) (.string text)
  /-- Bytes. -/
  blob : kind = .blob → ∀ text, CastsTo meaning held declaration (.blob text) (.string text)

/-- What the typed conversion of a fast input binds. -/
def boundValue (kind : FastKind) (input : Zval) : DuckValue :=
  match input with
  | .bool flag => .bool flag
  | .long number => .bigint number
  | .double bits => .double bits
  | .string text => if kind = .blob then .blob text else .varchar text
  | _ => .null

/-- An integer that `fits` a signed type is in its range. -/
theorem fits_signed {low high : Int64} {max : UInt64} {number : Int64} (same : max.toInt64 = high)
    (fit : fits ⟨true, low, max⟩ number = true) :
    low.toInt ≤ number.toInt ∧ number.toInt ≤ high.toInt := by
  rw [fits, if_neg (by simp), if_pos rfl, Bool.and_eq_true, decide_eq_true_eq, decide_eq_true_eq,
    same] at fit
  exact ⟨Int64.le_iff_toInt_le.mp fit.1, Int64.le_iff_toInt_le.mp fit.2⟩

/-- An integer that `fits` an unsigned type is in its range. -/
theorem fits_unsigned {max : UInt64} {number : Int64} (fit : fits ⟨false, 0, max⟩ number = true) :
    0 ≤ number.toInt ∧ number.toInt.natAbs ≤ max.toNat := by
  rw [fits] at fit
  by_cases negative : number < 0
  · rw [if_pos ⟨negative, rfl⟩] at fit
    cases fit
  · rw [if_neg fun both => negative both.1, if_neg Bool.false_ne_true, decide_eq_true_eq] at fit
    have zero := Int64.toInt_zero
    have above := Int64.lt_iff_toInt_lt.not.mp negative
    have positive : 0 ≤ number.toInt := by omega
    rw [← toUInt64_toNat positive]
    exact ⟨positive, UInt64.le_iff_toNat_le.mp fit⟩

/-- What a fast write stores is what DuckDB's cast of the same value gives. -/
theorem fast_matches {validUtf8 : Bytes → Bool}
    {meaning : List (Bytes ⊕ DuckValue) → Except (Option Thrown) DuckValue}
    {held : DuckValue → Content} {kind : FastKind} {declaration : Bytes}
    (identity : IdentityCasts validUtf8 meaning held kind declaration) {input : Zval}
    (fast : duckdbVectorCanWriteFast validUtf8 kind input = true) :
    ∃ content, storedFast kind input = some content ∧
      CastsTo meaning held declaration (boundValue kind input) content := by
  cases kind with
  | none => cases fast
  | boolean =>
    cases input with
    | bool flag => exact ⟨_, rfl, identity.boolean rfl flag⟩
    | _ => cases fast
  | float64 =>
    cases input with
    | double bits => exact ⟨_, rfl, identity.float64 rfl bits⟩
    | _ => cases fast
  | varchar =>
    cases input with
    | string text =>
      rw [duckdbVectorCanWriteFast, Bool.and_eq_true, Bool.not_eq_true'] at fast
      refine ⟨_, rfl, identity.varchar rfl text (fun nul => ?_) fast.2⟩
      rw [List.contains_eq_mem, decide_eq_false_iff_not] at fast
      exact fast.1 nul
    | _ => cases fast
  | blob =>
    cases input with
    | string text => exact ⟨_, rfl, identity.blob rfl text⟩
    | _ => cases fast
  | int64 =>
    cases input with
    | long number =>
      have low := number.le_toInt
      have high := number.toInt_lt
      exact ⟨_, rfl, identity.integer _ _ rfl number (by omega) (by omega)⟩
    | _ => cases fast
  | uint64 =>
    cases input with
    | long number =>
      have high := number.toInt_lt
      have positive : 0 ≤ number.toInt := Int64.le_iff_toInt_le.mp (of_decide_eq_true fast)
      refine ⟨_, rfl, ?_⟩
      have casts := identity.integer _ _ rfl number positive (by omega)
      rwa [show (number.toInt : Int) = number.toUInt64.toNat by rw [toUInt64_toNat positive]; omega]
        at casts
    | _ => cases fast
  | int8 =>
    cases input with
    | long number =>
      obtain ⟨low, high⟩ : (-128 : Int64).toInt ≤ number.toInt ∧ number.toInt ≤ (127 : Int64).toInt :=
        fits_signed rfl fast
      have casts := identity.integer _ _ rfl number low high
      have same : number.toInt8.toInt = number.toInt := by
        rw [Int64.toInt_toInt8]
        exact Int.bmod_eq_of_le_mul_two (by
          have least : (-128 : Int64).toInt = -128 := by decide
          omega) (by
          have most : (127 : Int64).toInt = 127 := by decide
          omega)
      exact ⟨_, rfl, same ▸ casts⟩
    | _ => cases fast
  | int16 =>
    cases input with
    | long number =>
      obtain ⟨low, high⟩ : (-32768 : Int64).toInt ≤ number.toInt ∧ number.toInt ≤ (32767 : Int64).toInt :=
        fits_signed rfl fast
      have casts := identity.integer _ _ rfl number low high
      have same : number.toInt16.toInt = number.toInt := by
        rw [Int64.toInt_toInt16]
        exact Int.bmod_eq_of_le_mul_two (by
          have least : (-32768 : Int64).toInt = -32768 := by decide
          omega) (by
          have most : (32767 : Int64).toInt = 32767 := by decide
          omega)
      exact ⟨_, rfl, same ▸ casts⟩
    | _ => cases fast
  | int32 =>
    cases input with
    | long number =>
      obtain ⟨low, high⟩ : (-2147483648 : Int64).toInt ≤ number.toInt ∧ number.toInt ≤ (2147483647 : Int64).toInt :=
        fits_signed rfl fast
      have casts := identity.integer _ _ rfl number low high
      have same : number.toInt32.toInt = number.toInt := by
        rw [Int64.toInt_toInt32]
        exact Int.bmod_eq_of_le_mul_two (by
          have least : (-2147483648 : Int64).toInt = -2147483648 := by decide
          omega) (by
          have most : (2147483647 : Int64).toInt = 2147483647 := by decide
          omega)
      exact ⟨_, rfl, same ▸ casts⟩
    | _ => cases fast
  | uint8 =>
    cases input with
    | long number =>
      obtain ⟨low, high⟩ := fits_unsigned fast
      have bits := toUInt64_toNat low
      have most : (255 : UInt64).toNat = 255 := rfl
      have casts := identity.integer _ _ rfl number low (by omega)
      have same : (number.toInt : Int) = number.toUInt64.toUInt8.toNat := by
        rw [UInt64.toNat_toUInt8, bits]
        omega
      exact ⟨_, rfl, same ▸ casts⟩
    | _ => cases fast
  | uint16 =>
    cases input with
    | long number =>
      obtain ⟨low, high⟩ := fits_unsigned fast
      have bits := toUInt64_toNat low
      have most : (65535 : UInt64).toNat = 65535 := rfl
      have casts := identity.integer _ _ rfl number low (by omega)
      have same : (number.toInt : Int) = number.toUInt64.toUInt16.toNat := by
        rw [UInt64.toNat_toUInt16, bits]
        omega
      exact ⟨_, rfl, same ▸ casts⟩
    | _ => cases fast
  | uint32 =>
    cases input with
    | long number =>
      obtain ⟨low, high⟩ := fits_unsigned fast
      have bits := toUInt64_toNat low
      have most : (4294967295 : UInt64).toNat = 4294967295 := rfl
      have casts := identity.integer _ _ rfl number low (by omega)
      have same : (number.toInt : Int) = number.toUInt64.toUInt32.toNat := by
        rw [UInt64.toNat_toUInt32, bits]
        omega
      exact ⟨_, rfl, same ▸ casts⟩
    | _ => cases fast

/-! ## The typed path -/

/-- The type id of a kind; `DUCKDB_TYPE_INVALID` where it has none. -/
def FastKind.typeId : FastKind → TypeId
  | .boolean => .boolean
  | .int8 => .tinyint
  | .int16 => .smallint
  | .int32 => .integer
  | .int64 => .bigint
  | .uint8 => .utinyint
  | .uint16 => .usmallint
  | .uint32 => .uinteger
  | .uint64 => .ubigint
  | .float64 => .double
  | .varchar => .varchar
  | .blob => .blob
  | .none => .unknown 0

/-- A fast kind belongs to the plain type of its id. -/
theorem type_of_fast {type : LogicalType} (fast : duckdbVectorFastKind type ≠ .none) :
    type = .plain (duckdbVectorFastKind type).typeId none := by
  cases type with
  | plain id alias_ =>
    cases alias_ with
    | some name => exact absurd rfl fast
    | none => cases id <;> first | rfl | exact absurd rfl fast
  | _ => exact absurd rfl fast

/-- Some type has an input's kind when the input is fast. -/
theorem kind_of_fast {validUtf8 : Bytes → Bool} {kind : FastKind} {input : Zval}
    (fast : duckdbVectorCanWriteFast validUtf8 kind input = true) : kind ≠ .none := by
  rintro rfl
  cases fast

/-- An input that may be written fast has a stored form. -/
theorem stored_of_fast {validUtf8 : Bytes → Bool} {kind : FastKind} {input : Zval}
    (fast : duckdbVectorCanWriteFast validUtf8 kind input = true) :
    (storedFast kind input).isSome = true := by
  cases kind with
  | none => cases fast
  | _ => rfl

/-- The typed conversion of a fast input binds it and casts it. -/
theorem typed_fast (native : Native) {validUtf8 : Bytes → Bool}
    (texts : ∀ text, validUtf8 text = true → native.makesVarchar text = true) {kind : FastKind}
    {input : Zval} (fast : duckdbVectorCanWriteFast validUtf8 kind input = true) (declared : Bytes)
    (builder : Builder) :
    typed native 64 input (.plain kind.typeId none) declared builder =
      .ok (cast [.param (builder.params.length + 1) (boundValue kind input)] declared,
        { builder with params := builder.params ++ [boundValue kind input] }) := by
  cases kind with
  | varchar =>
    cases input with
    | string text =>
      have made : duckdbPhpToDuckdbValue native.makesVarchar (.string text) = .ok (.varchar text) :=
        if_pos (texts text ((Bool.and_eq_true _ _).mp fast).2)
      show (parameter (duckdbPhpToDuckdbValue native.makesVarchar (.string text)) >>=
        fun source => pure (cast source declared)) builder = _
      rw [made]
      rfl
    | _ => cases fast
  | _ => cases input <;> first | rfl | cases fast

/-- The typed conversion of a fast input gives what the fast write stores. -/
theorem converts_fast {makesVarchar : Bytes → Bool} {engine : Engine}
    {meaning : List (Bytes ⊕ DuckValue) → Except (Option Thrown) DuckValue}
    {held : DuckValue → Content} {validUtf8 : Bytes → Bool} {type : LogicalType}
    {declaration : CanonicalType}
    (resolves : engine.prepare (resolveSql declaration.text) = .ok type)
    (texts : ∀ text, validUtf8 text = true → makesVarchar text = true)
    (identity : IdentityCasts validUtf8 meaning held (duckdbVectorFastKind type) declaration.text)
    {input : Zval}
    (fast : duckdbVectorCanWriteFast validUtf8 (duckdbVectorFastKind type) input = true) :
    ∃ result, ConvertsTo makesVarchar engine meaning (.value (some declaration) input) result ∧
      storedFast (duckdbVectorFastKind type) input = some (held result) := by
  obtain ⟨content, stored, result, casts, same⟩ := fast_matches identity fast
  have fresh : Resolved (engine.native makesVarchar) ⟨[], []⟩ :=
    fun type metadata never => nomatch never
  refine ⟨result, ?_, by rw [stored, same]⟩
  cases resolve_run fresh declaration.text with
  | inl failed =>
    obtain ⟨thrown, differs, -⟩ := failed
    cases resolves.symm.trans differs
  | inr resolved =>
    obtain ⟨metadata, after, also, run, -⟩ := resolved
    obtain rfl := Except.ok.inj (resolves.symm.trans also)
    have typed := typed_fast (engine.native makesVarchar) texts fast declaration.text after
    rw [← type_of_fast (kind_of_fast fast)] at typed
    have written : inferred (engine.native makesVarchar) 65 (.value (some declaration) input) ⟨[], []⟩ =
        Value.typed (engine.native makesVarchar) 64 input type declaration.text after := by
      show (resolve (engine.native makesVarchar) declaration.text ⟨[], []⟩ >>= fun pair => _) = _
      rw [run]
      rfl
    exact ⟨_, _, written.trans typed, casts⟩

end PhpDuckdb.Vector
