import PhpDuckdb.Types.Nesting
import PhpDuckdb.Value.Numbering

/-!
# Types as declarations

Every logical type of SQL values is declared: by its name, its parameters and its array suffixes.
The declaration is one that the parser builds, it nests as deep as the type, and types with one
declaration are one type. `sql_type` spells the types that nest within its limit.
-/

namespace PhpDuckdb.Value

open SqlText PhpDuckdb.Types

/-! ## The declaration of a type -/

/-- A declaration with another array suffix. -/
def suffixed (size : Option Bytes) : Decl → Decl
  | .mk head dots words params arrays => .mk head dots words params (arrays ++ [size])

/-- The declaration of a type by its name and its parameters. -/
def declared (name : Bytes) (params : Params) : Decl := .mk (.word name) [] [] params []

/-- The labels of an ENUM as parameters. -/
def labelParams : List Bytes → Params
  | [] => .nil
  | label :: rest => .label label (labelParams rest)

mutual

/-- The declaration that spells a type. -/
def LogicalType.decl : LogicalType → Decl
  | .plain id alias_ => declared (plainSql id alias_) .nil
  | .decimal width scale =>
    declared (lit "DECIMAL") (.number (decimal width) (.number (decimal scale) .nil))
  | .enum labels => declared (lit "ENUM") (labelParams labels)
  | .geometry none => declared (lit "GEOMETRY") .nil
  | .geometry (some crs) => declared (lit "GEOMETRY") (.label crs .nil)
  | .list child => suffixed none child.decl
  | .array child size => suffixed (some (decimal size)) child.decl
  | .map key value => declared (lit "MAP") (.type key.decl (.type value.decl .nil))
  | .struct members => declared (lit "STRUCT") members.params
  | .union members => declared (lit "UNION") members.params

/-- The members of a STRUCT or a UNION as parameters. -/
def Members.params : Members → Params
  | .nil => .nil
  | .cons name type rest => .field (.quoted name) type.decl rest.params

end

mutual

/-- How many levels of nesting a type has. -/
def LogicalType.depth : LogicalType → Nat
  | .plain _ _ => 0
  | .decimal _ _ => 0
  | .enum _ => 0
  | .geometry _ => 0
  | .list child => child.depth + 1
  | .array child _ => child.depth + 1
  | .map key value => max key.depth value.depth + 1
  | .struct members => members.depth
  | .union members => members.depth

/-- The levels of a type with members. -/
def Members.depth : Members → Nat
  | .nil => 0
  | .cons _ type rest => max (type.depth + 1) rest.depth

end

mutual

/-- `sql_type` spells the types that nest within its limit. -/
theorem sqlType_ok : ∀ (room : Nat) (type : LogicalType),
    (∃ text, sqlType room type = .ok text) ↔ type.depth < room
  | 0, type => by
    rw [sqlType]
    exact iff_of_false nofun (Nat.not_lt_zero _)
  | room + 1, .plain id alias_ => iff_of_true ⟨_, rfl⟩ (Nat.succ_pos room)
  | room + 1, .decimal width scale => iff_of_true ⟨_, rfl⟩ (Nat.succ_pos room)
  | room + 1, .enum labels => iff_of_true ⟨_, rfl⟩ (Nat.succ_pos room)
  | room + 1, .geometry none => iff_of_true ⟨_, rfl⟩ (Nat.succ_pos room)
  | room + 1, .geometry (some crs) => iff_of_true ⟨_, rfl⟩ (Nat.succ_pos room)
  | room + 1, .list child => by
    rw [LogicalType.depth, Nat.succ_lt_succ_iff, ← sqlType_ok room child, sqlType]
    cases sqlType room child <;> simp [bind, Except.bind]
  | room + 1, .array child size => by
    rw [LogicalType.depth, Nat.succ_lt_succ_iff, ← sqlType_ok room child, sqlType]
    cases sqlType room child <;> simp [bind, Except.bind]
  | room + 1, .map key value => by
    rw [LogicalType.depth, Nat.succ_lt_succ_iff, Nat.max_lt, ← sqlType_ok room key,
      ← sqlType_ok room value, sqlType]
    cases sqlType room key <;> cases sqlType room value <;> simp [bind, Except.bind]
  | room + 1, .struct members => by
    rw [LogicalType.depth, ← sqlMembers_ok room members true, sqlType]
    cases sqlMembers room members true <;> simp [bind, Except.bind]
  | room + 1, .union members => by
    rw [LogicalType.depth, ← sqlMembers_ok room members true, sqlType]
    cases sqlMembers room members true <;> simp [bind, Except.bind]

/-- `sql_type` spells members exactly when they nest within its limit. -/
theorem sqlMembers_ok : ∀ (room : Nat) (members : Members) (first : Bool),
    (∃ text, sqlMembers room members first = .ok text) ↔ members.depth < room + 1
  | room, .nil, first => by
    rw [sqlMembers]
    exact iff_of_true ⟨_, rfl⟩ (Nat.succ_pos room)
  | room, .cons name type rest, first => by
    rw [Members.depth, Nat.max_lt, Nat.succ_lt_succ_iff, ← sqlType_ok room type,
      ← sqlMembers_ok room rest false, sqlMembers]
    cases sqlType room type <;> cases sqlMembers room rest false <;> simp [bind, Except.bind]

end

/-! ## SQL value types -/

mutual

/-- A type that SQL values can have: it has no alias but that of JSON, its ENUMs have labels, its
STRUCTs and UNIONs members, and no text has a NUL byte. -/
def LogicalType.Sql : LogicalType → Prop
  | .plain id alias_ => id ≠ .sqlnull ∧ id.known = true ∧
      (alias_ = none ∨ id = .varchar ∧ alias_ = some (lit "JSON"))
  | .decimal _ _ => True
  | .enum labels => labels ≠ [] ∧ ∀ label ∈ labels, 0 ∉ label
  | .geometry crs => ∀ text, crs = some text → 0 ∉ text
  | .list child => child.Sql
  | .array child _ => child.Sql
  | .map key value => key.Sql ∧ value.Sql
  | .struct members => members.count ≠ 0 ∧ members.Sql
  | .union members => members.count ≠ 0 ∧ members.Sql

/-- Members whose types are those of SQL values. -/
def Members.Sql : Members → Prop
  | .nil => True
  | .cons name type rest => 0 ∉ name ∧ type.Sql ∧ rest.Sql

end

/-- The names of the types with parameters. -/
def parameterized : List Bytes := ["DECIMAL", "ENUM", "GEOMETRY", "MAP", "STRUCT", "UNION"].map lit

/-- A name that a declaration may begin with, and that begins no phrase. -/
def HeadName (name : Bytes) : Prop :=
  (Piece.word name).Valid ∧ upper name = name ∧ name ∉ internal ∧ name ≠ lit "NATIONAL"

instance (name : Bytes) : Decidable (HeadName name) :=
  inferInstanceAs (Decidable (_ ∧ _ ∧ _ ∧ _))

/-- The types without parameters that SQL values can have. -/
def plainTypes : List (TypeId × Option Bytes) :=
  (.varchar, some (lit "JSON")) ::
    [TypeId.boolean, .tinyint, .smallint, .integer, .bigint, .utinyint, .usmallint, .uinteger,
      .ubigint, .float, .double, .timestamp, .date, .time, .interval, .hugeint, .uhugeint, .varchar,
      .blob, .timestampS, .timestampMs, .timestampNs, .uuid, .bit, .timeTz, .timestampTz,
      .timestampTzNs, .timeNs, .variant, .bignum].map fun id => (id, none)

/-- The list has every plain type that has an SQL text. -/
theorem mem_plainTypes {id : TypeId} {alias_ : Option Bytes}
    (sql : (LogicalType.plain id alias_).Sql) : (id, alias_) ∈ plainTypes := by
  obtain ⟨notNull, known, named⟩ := sql
  refine List.mem_cons.mpr ?_
  cases named with
  | inl none_ =>
    subst none_
    refine Or.inr (List.mem_map_of_mem ?_)
    cases id with
    | sqlnull => exact absurd rfl notNull
    | unknown other => cases known
    | _ => decide
  | inr json =>
    obtain ⟨rfl, rfl⟩ := json
    exact Or.inl rfl

/-- The SQL texts of the listed plain types are different. -/
theorem plainTypes_nodup : (plainTypes.map fun plain => plainSql plain.1 plain.2).Nodup := by
  decide +kernel

/-- The name of a type without parameters stands for itself. -/
theorem plainSql_head {id : TypeId} {alias_ : Option Bytes}
    (sql : (LogicalType.plain id alias_).Sql) :
    HeadName (plainSql id alias_) ∧ plainSql id alias_ ∉ parameterized := by
  have all : ∀ plain ∈ plainTypes, HeadName (plainSql plain.1 plain.2) ∧
      plainSql plain.1 plain.2 ∉ parameterized := by
    decide +kernel
  exact all _ (mem_plainTypes sql)

/-- The names of the types with parameters stand for themselves. -/
theorem parameterized_head {name : Bytes} (known : name ∈ parameterized) : HeadName name := by
  revert name
  exact (by decide : ∀ name ∈ parameterized, HeadName name)

/-- The declaration of a name with its parameters is well formed. -/
theorem declared_wellFormed {name : Bytes} {params : Params} (head : HeadName name)
    (ok : params.WellFormed name) : (declared name params).WellFormed := by
  obtain ⟨valid, folded, outer, other⟩ := head
  have single : render (namePieces (.word name) []) = name := List.append_nil name
  have base : render (basePieces (.word name) [] []) = name := List.append_nil name
  refine ⟨valid, ⟨folded, outer⟩, nofun, ?_, ?_, nofun⟩
  · rw [single]
    exact Phrase.plain name other
  · rw [base]
    exact ok

/-- A suffix keeps a declaration well formed. -/
theorem suffixed_wellFormed {decl : Decl} {size : Option Bytes} (ok : decl.WellFormed)
    (valid : ∀ digits, size = some digits → (Piece.number digits).Valid) :
    (suffixed size decl).WellFormed := by
  obtain ⟨head, dots, words, params, arrays⟩ := decl
  obtain ⟨named, isHead, qualified, phrase, inner, sizes⟩ := ok
  refine ⟨named, isHead, qualified, phrase, inner, ?_⟩
  intro digits found
  cases List.mem_append.mp found with
  | inl before => exact sizes digits before
  | inr last => exact valid digits (List.mem_singleton.mp last).symm

/-- The labels of an ENUM are parameters. -/
theorem labelParams_wellFormed {labels : List Bytes} {base : Bytes} (clean : ∀ label ∈ labels, 0 ∉ label)
    (plain : hasFields base = false ∧ hasTypes base = false) :
    (labelParams labels).WellFormed base := by
  induction labels with
  | nil => trivial
  | cons label rest ih =>
    exact ⟨plain.1, plain.2, clean label List.mem_cons_self,
      ih fun other inside => clean other (List.mem_cons_of_mem _ inside)⟩

mutual

/-- The declaration of a type is well formed. -/
theorem decl_wellFormed : ∀ {type : LogicalType}, type.Sql → type.decl.WellFormed
  | .plain id alias_, sql => by
    rw [LogicalType.decl]
    exact declared_wellFormed (plainSql_head sql).1 trivial
  | .decimal width scale, _ => by
    rw [LogicalType.decl]
    exact declared_wellFormed (parameterized_head (by decide))
      ⟨by decide, decimal_digits width, by decide, decimal_digits scale, trivial⟩
  | .enum labels, sql => by
    rw [LogicalType.decl]
    exact declared_wellFormed (parameterized_head (by decide))
      (labelParams_wellFormed sql.2 (by decide))
  | .geometry none, _ => by
    rw [LogicalType.decl]
    exact declared_wellFormed (parameterized_head (by decide)) trivial
  | .geometry (some crs), sql => by
    rw [LogicalType.decl]
    exact declared_wellFormed (parameterized_head (by decide))
      ⟨by decide, by decide, sql crs rfl, trivial⟩
  | .list child, sql => by
    rw [LogicalType.decl]
    exact suffixed_wellFormed (decl_wellFormed sql) nofun
  | .array child size, sql => by
    rw [LogicalType.decl]
    refine suffixed_wellFormed (decl_wellFormed sql) ?_
    intro digits same
    obtain rfl := Option.some.inj same
    exact decimal_digits size
  | .map key value, sql => by
    rw [LogicalType.decl]
    exact declared_wellFormed (parameterized_head (by decide))
      ⟨by decide, by decide, decl_wellFormed sql.1, by decide, by decide, decl_wellFormed sql.2,
        trivial⟩
  | .struct members, sql => by
    rw [LogicalType.decl]
    exact declared_wellFormed (parameterized_head (by decide))
      (params_wellFormed sql.2 (by decide))
  | .union members, sql => by
    rw [LogicalType.decl]
    exact declared_wellFormed (parameterized_head (by decide))
      (params_wellFormed sql.2 (by decide))

/-- The members of a type are parameters. -/
theorem params_wellFormed : ∀ {members : Members} {base : Bytes}, members.Sql →
    hasFields base = true → members.params.WellFormed base
  | .nil, _, _, _ => trivial
  | .cons _ _ _, _, sql, fields =>
    ⟨fields, sql.1, decl_wellFormed sql.2.1, params_wellFormed sql.2.2 fields⟩

end

/-! ## Types are told apart by their declarations -/

/-- A suffix is the last of a declaration. -/
theorem suffixed_injective {one two : Decl} {size other : Option Bytes}
    (same : suffixed size one = suffixed other two) : size = other ∧ one = two := by
  obtain ⟨head, dots, words, params, arrays⟩ := one
  obtain ⟨head', dots', words', params', arrays'⟩ := two
  rw [suffixed, suffixed, Decl.mk.injEq] at same
  obtain ⟨rfl, rfl, rfl, rfl, last⟩ := same
  obtain ⟨rfl, sizes⟩ := List.append_inj' last rfl
  exact ⟨(List.cons.inj sizes).1, rfl⟩

/-- A declaration of a name tells the name and the parameters. -/
theorem declared_injective {name other : Bytes} {params inner : Params}
    (same : declared name params = declared other inner) : name = other ∧ params = inner := by
  rw [declared, declared, Decl.mk.injEq] at same
  exact ⟨Ident.word.inj same.1, same.2.2.2.1⟩

/-- Labels are told apart by the parameters. -/
theorem labelParams_injective : ∀ {one two : List Bytes},
    labelParams one = labelParams two → one = two
  | [], [], _ => rfl
  | [], _ :: _, same => by cases same
  | _ :: _, [], same => by cases same
  | label :: one, other :: two, same => by
    obtain ⟨rfl, rest⟩ := Params.label.inj same
    rw [labelParams_injective rest]

/-- The families of types, each declared in its own way. -/
inductive Family where
  /-- Without parameters. -/
  | plain
  /-- DECIMAL. -/
  | decimal
  /-- ENUM. -/
  | enum
  /-- GEOMETRY. -/
  | geometry
  /-- LIST. -/
  | list
  /-- ARRAY. -/
  | array
  /-- MAP. -/
  | map
  /-- STRUCT. -/
  | struct
  /-- UNION. -/
  | union
deriving DecidableEq

/-- The family that a type belongs to. -/
def LogicalType.family : LogicalType → Family
  | .plain _ _ => .plain
  | .decimal _ _ => .decimal
  | .enum _ => .enum
  | .geometry _ => .geometry
  | .list _ => .list
  | .array _ _ => .array
  | .map _ _ => .map
  | .struct _ => .struct
  | .union _ => .union

/-- The family of types that a name declares. -/
def nameFamily (name : Bytes) : Family :=
  if name = lit "DECIMAL" then .decimal
  else if name = lit "ENUM" then .enum
  else if name = lit "GEOMETRY" then .geometry
  else if name = lit "MAP" then .map
  else if name = lit "STRUCT" then .struct
  else if name = lit "UNION" then .union
  else .plain

/-- The family that a declaration is of. -/
def declFamily : Decl → Family
  | .mk head _ _ _ arrays =>
    match arrays.getLast? with
    | some none => .list
    | some (some _) => .array
    | none => nameFamily head.piece.bytes

/-- The last suffix of a declaration decides its family. -/
theorem declFamily_suffixed (size : Option Bytes) (decl : Decl) :
    declFamily (suffixed size decl) = if size.isNone then .list else .array := by
  obtain ⟨head, dots, words, params, arrays⟩ := decl
  rw [suffixed, declFamily, List.getLast?_concat]
  cases size <;> rfl

/-- A type without parameters is declared under a name of its own. -/
theorem nameFamily_plain {name : Bytes} (other : name ∉ parameterized) :
    nameFamily name = .plain := by
  simp only [parameterized, List.map_cons, List.map_nil, List.mem_cons, List.not_mem_nil, or_false,
    not_or] at other
  obtain ⟨one, two, three, four, five, six⟩ := other
  rw [nameFamily, if_neg one, if_neg two, if_neg three, if_neg four, if_neg five, if_neg six]

/-- The declaration of a type is of its family. -/
theorem declFamily_decl {type : LogicalType} (sql : type.Sql) : declFamily type.decl = type.family := by
  cases type with
  | plain id alias_ =>
    rw [LogicalType.decl]
    exact nameFamily_plain (plainSql_head sql).2
  | decimal =>
    rw [LogicalType.decl]
    exact (by decide : nameFamily (lit "DECIMAL") = .decimal)
  | enum =>
    rw [LogicalType.decl]
    exact (by decide : nameFamily (lit "ENUM") = .enum)
  | geometry crs =>
    have named : nameFamily (lit "GEOMETRY") = .geometry := by decide
    cases crs <;> (rw [LogicalType.decl]; exact named)
  | map =>
    rw [LogicalType.decl]
    exact (by decide : nameFamily (lit "MAP") = .map)
  | struct =>
    rw [LogicalType.decl]
    exact (by decide : nameFamily (lit "STRUCT") = .struct)
  | union =>
    rw [LogicalType.decl]
    exact (by decide : nameFamily (lit "UNION") = .union)
  | list child =>
    rw [LogicalType.decl, declFamily_suffixed]
    rfl
  | array child size =>
    rw [LogicalType.decl, declFamily_suffixed]
    rfl

mutual

/-- Types of SQL values with one declaration are one type. -/
theorem decl_injective : ∀ {one two : LogicalType}, one.Sql → two.Sql → one.decl = two.decl →
    one = two
  | one, two, sql, also, same => by
    have families := congrArg declFamily same
    rw [declFamily_decl sql, declFamily_decl also] at families
    match one, two, families with
    | .plain id alias_, .plain id' alias', _ =>
      rw [LogicalType.decl, LogicalType.decl] at same
      have pair := List.inj_on_of_nodup_map plainTypes_nodup (mem_plainTypes sql)
        (mem_plainTypes also) (declared_injective same).1
      obtain ⟨rfl, rfl⟩ := Prod.mk.inj pair
      rfl
    | .decimal width scale, .decimal width' scale', _ =>
      rw [LogicalType.decl, LogicalType.decl] at same
      obtain ⟨widths, rest⟩ := Params.number.inj (declared_injective same).2
      rw [decimal_injective widths, decimal_injective (Params.number.inj rest).1]
    | .enum labels, .enum labels', _ =>
      rw [LogicalType.decl, LogicalType.decl] at same
      rw [labelParams_injective (declared_injective same).2]
    | .geometry none, .geometry none, _ => rfl
    | .geometry none, .geometry (some crs), _ =>
      rw [LogicalType.decl, LogicalType.decl] at same
      cases (declared_injective same).2
    | .geometry (some crs), .geometry none, _ =>
      rw [LogicalType.decl, LogicalType.decl] at same
      cases (declared_injective same).2
    | .geometry (some crs), .geometry (some crs'), _ =>
      rw [LogicalType.decl, LogicalType.decl] at same
      rw [(Params.label.inj (declared_injective same).2).1]
    | .list child, .list child', _ =>
      rw [LogicalType.decl, LogicalType.decl] at same
      rw [@decl_injective child child' sql also (suffixed_injective same).2]
    | .array child size, .array child' size', _ =>
      rw [LogicalType.decl, LogicalType.decl] at same
      obtain ⟨sizes, children⟩ := suffixed_injective same
      rw [@decl_injective child child' sql also children,
        decimal_injective (Option.some.inj sizes)]
    | .map key value, .map key' value', _ =>
      rw [LogicalType.decl, LogicalType.decl] at same
      obtain ⟨keys, rest⟩ := Params.type.inj (declared_injective same).2
      rw [decl_injective sql.1 also.1 keys, decl_injective sql.2 also.2 (Params.type.inj rest).1]
    | .struct members, .struct members', _ =>
      rw [LogicalType.decl, LogicalType.decl] at same
      rw [params_injective sql.2 also.2 (declared_injective same).2]
    | .union members, .union members', _ =>
      rw [LogicalType.decl, LogicalType.decl] at same
      rw [params_injective sql.2 also.2 (declared_injective same).2]

/-- Members with one declaration are one list of members. -/
theorem params_injective : ∀ {one two : Members}, one.Sql → two.Sql → one.params = two.params →
    one = two
  | .nil, .nil, _, _, _ => rfl
  | .nil, .cons .., _, _, same => by cases same
  | .cons .., .nil, _, _, same => by cases same
  | .cons name type rest, .cons name' type' rest', sql, also, same => by
    obtain ⟨names, types, others⟩ := Params.field.inj same
    obtain rfl := Ident.quoted.inj names
    rw [decl_injective sql.2.1 also.2.1 types, params_injective sql.2.2 also.2.2 others]

end

/-! ## Levels -/

/-- The labels of an ENUM do not nest. -/
theorem labelParams_flat (labels : List Bytes) :
    (labelParams labels).height = 0 ∧ (labelParams labels).leaf = true := by
  induction labels with
  | nil => exact ⟨rfl, rfl⟩
  | cons label rest ih => exact ih

/-- A name without nested declarations has no levels. -/
theorem nesting_flat (name : Bytes) {params : Params} (flat : params.leaf = true) :
    (declared name params).nesting = 0 := by
  rw [declared, Decl.nesting, Params.nesting_leaf flat, listLevel, flat]
  rfl

/-- A suffix is at most one more level. -/
theorem height_suffixed (size : Option Bytes) {decl : Decl} {levels : Nat}
    (below : decl.height ≤ levels + 1) : (suffixed size decl).height ≤ levels + 1 + 1 := by
  obtain ⟨head, dots, words, params, arrays⟩ := decl
  rw [Decl.height] at below
  rw [suffixed, Decl.height, List.length_append, List.length_singleton]
  omega

/-- An array suffix adds one level to a declaration. -/
theorem nesting_suffixed (size : Option Bytes) (decl : Decl) :
    (suffixed size decl).nesting = decl.nesting + 1 := by
  obtain ⟨head, dots, words, params, arrays⟩ := decl
  rw [suffixed, Decl.nesting, Decl.nesting, List.length_append, List.length_singleton]
  omega

/-- The levels of a name with its parameters. -/
theorem nesting_declared (name : Bytes) (params : Params) :
    (declared name params).nesting = listLevel params name + params.nesting := by
  have base : render (basePieces (.word name) [] []) = name := List.append_nil name
  rw [declared, Decl.nesting, base, List.length_nil, Nat.zero_add]

/-- Members are a level above their types. -/
theorem nesting_members {name : Bytes} (nested : nests name = true) :
    ∀ {members : Members}, members.count ≠ 0 → members.params.nesting + 1 = members.depth →
      (declared name members.params).nesting = members.depth
  | .nil, some_, _ => absurd rfl some_
  | .cons _ _ _, _, levels => by
    rw [nesting_declared, ← levels, listLevel, nested, Nat.add_comm]
    rfl

mutual

/-- The declaration of a type has the levels of the type. -/
theorem nesting_decl : ∀ {type : LogicalType}, type.Sql → type.decl.nesting = type.depth
  | .plain _ _, _ => rfl
  | .decimal _ _, _ => by
    rw [LogicalType.decl, LogicalType.depth]
    exact nesting_flat _ rfl
  | .enum labels, _ => by
    rw [LogicalType.decl, LogicalType.depth]
    exact nesting_flat _ (labelParams_flat labels).2
  | .geometry none, _ => rfl
  | .geometry (some _), _ => by
    rw [LogicalType.decl, LogicalType.depth]
    exact nesting_flat _ rfl
  | .list child, sql => by
    rw [LogicalType.decl, LogicalType.depth, nesting_suffixed, @nesting_decl child sql]
  | .array child size, sql => by
    rw [LogicalType.decl, LogicalType.depth, nesting_suffixed, @nesting_decl child sql]
  | .map key value, sql => by
    rw [LogicalType.decl, LogicalType.depth, nesting_declared, Params.nesting, Params.nesting,
      Params.nesting, nesting_decl sql.1, nesting_decl sql.2, Nat.max_zero]
    have nested : nests (lit "MAP") = true := by decide
    rw [listLevel, nested, Nat.add_comm]
    rfl
  | .struct members, sql => by
    rw [LogicalType.decl, LogicalType.depth]
    exact nesting_members (by decide) sql.1 (nesting_params sql.1 sql.2)
  | .union members, sql => by
    rw [LogicalType.decl, LogicalType.depth]
    exact nesting_members (by decide) sql.1 (nesting_params sql.1 sql.2)

/-- The parameters of members have one level less. -/
theorem nesting_params : ∀ {members : Members}, members.count ≠ 0 → members.Sql →
    members.params.nesting + 1 = members.depth
  | .nil, some_, _ => absurd rfl some_
  | .cons name type .nil, _, sql => by
    rw [Members.params, Params.nesting, Members.depth, nesting_decl sql.2.1]
    show max type.depth 0 + 1 = max (type.depth + 1) 0
    omega
  | .cons name type (.cons name' type' rest), _, sql => by
    have others := @nesting_params (.cons name' type' rest) (Nat.succ_ne_zero rest.count) sql.2.2
    rw [Members.params, Params.nesting, Members.depth, nesting_decl sql.2.1, ← others]
    omega

end

mutual

/-- The parser counts no more levels than a type has. -/
theorem height_decl : ∀ type : LogicalType, type.decl.height ≤ type.depth + 1
  | .plain _ _ => Nat.le_refl 1
  | .decimal _ _ => Nat.le_refl 1
  | .enum labels => by
    rw [LogicalType.decl, declared, Decl.height, (labelParams_flat labels).1]
    exact Nat.le_refl 1
  | .geometry none => Nat.le_refl 1
  | .geometry (some _) => Nat.le_refl 1
  | .list child => by
    rw [LogicalType.decl, LogicalType.depth]
    exact height_suffixed none (height_decl child)
  | .array child size => by
    rw [LogicalType.decl, LogicalType.depth]
    exact height_suffixed (some (decimal size)) (height_decl child)
  | .map key value => by
    have one := height_decl key
    have two := height_decl value
    rw [LogicalType.decl, LogicalType.depth, declared, Decl.height, Params.height, Params.height,
      Params.height, List.length_nil]
    omega
  | .struct members => by
    have inner := height_params members
    rw [LogicalType.decl, LogicalType.depth, declared, Decl.height, List.length_nil]
    omega
  | .union members => by
    have inner := height_params members
    rw [LogicalType.decl, LogicalType.depth, declared, Decl.height, List.length_nil]
    omega

/-- The parser counts no more levels than members have. -/
theorem height_params : ∀ members : Members, members.params.height ≤ members.depth
  | .nil => Nat.le_refl 0
  | .cons name type rest => by
    have one := height_decl type
    have two := height_params rest
    rw [Members.params, Members.depth, Params.height]
    omega

end

/-- A type that has members is declared with parameters. -/
theorem params_isNil {members : Members} (some_ : members.count ≠ 0) :
    members.params.isNil = false := by
  cases members with
  | nil => exact absurd rfl some_
  | cons name type rest => rfl

end PhpDuckdb.Value
