import PhpDuckdb.Value.Numeral
import PhpDuckdb.Value.Rendered
import PhpDuckdb.Value.Signature

/-!
# Declarations and the types that they stand for

DuckDB resolves a declaration that the parser accepted: the catalog has a type under every name,
parameter lists make nested types of those, and array suffixes arrays. A name may stand for a type
that is nested itself, so how deep a resolved type nests is told by the declaration and the catalog.
-/

namespace PhpDuckdb.Value

open SqlText PhpDuckdb.Types

/-! ## Resolution -/

/-- A parameter of a declaration with its own declaration resolved. -/
inductive ResolvedParam
  | field (name : Bytes) (type : LogicalType)
  | type (type : LogicalType)
  | number (value : Nat)
  | label (text : Bytes)

/-- The text of a name, quoted or not. -/
def identText : Ident → Bytes
  | .word text => text
  | .quoted text => text

/-- The members that the parameters of a STRUCT or a UNION are. -/
def resolvedMembers : List ResolvedParam → Option Members
  | [] => some .nil
  | .field name type :: rest => (resolvedMembers rest).map (.cons name type)
  | _ => none

/-- The nested type that a name with resolved parameters stands for. -/
def nestedType (base : Bytes) (params : List ResolvedParam) : Option LogicalType :=
  if base = lit "STRUCT" then (resolvedMembers params).map .struct
  else if base = lit "UNION" then (resolvedMembers params).map .union
  else match params with
    | [.type key, .type value] => if base = lit "MAP" then some (.map key value) else none
    | [.type child] => if base = lit "LIST" then some (.list child) else none
    | [.type child, .number size] => if base = lit "ARRAY" then some (.array child size) else none
    | _ => none

section

variable (catalog : Bytes → Option LogicalType)

mutual

/-- The type that a declaration stands for, if it stands for one. -/
def resolveDecl : Decl → Option LogicalType
  | .mk head dots words params arrays =>
    (if params.leaf then catalog (render (Decl.mk head dots words params []).pieces)
      else (resolveParams params).bind (nestedType (render (basePieces head dots words)))).map
        (wrapped (arrays.map (Option.map spelled)))

/-- The parameters with the types that they stand for. -/
def resolveParams : Params → Option (List ResolvedParam)
  | .nil => some []
  | .field name type rest => do
    let type ← resolveDecl type
    let others ← resolveParams rest
    some (.field (identText name) type :: others)
  | .type type rest => do
    let type ← resolveDecl type
    let others ← resolveParams rest
    some (.type type :: others)
  | .number digits rest => (resolveParams rest).map (.number (spelled digits) :: ·)
  | .label text rest => (resolveParams rest).map (.label text :: ·)

end

/-- The levels of the type that the catalog has for a leaf. -/
def leafDepth (leaf : Bytes) : Nat := ((catalog leaf).map LogicalType.depth).getD 0

/-- The levels of the resolved type on the way to a leaf and in the type of the leaf. -/
def resolvedLevels (path : Path) : Nat := path.passed + path.counted + leafDepth catalog path.leaf

end

/-! ## Levels -/

/-- How many levels the types of resolved parameters have. -/
def resolvedDepth : List ResolvedParam → Nat
  | [] => 0
  | .field _ type :: rest => max type.depth (resolvedDepth rest)
  | .type type :: rest => max type.depth (resolvedDepth rest)
  | _ :: rest => resolvedDepth rest

/-- Each array suffix adds one level to a type. -/
theorem depth_wrapped : ∀ (sizes : List (Option Nat)) (type : LogicalType),
    (wrapped sizes type).depth = sizes.length + type.depth
  | [], type => (Nat.zero_add _).symm
  | none :: rest, type => by
    rw [wrapped, depth_wrapped rest, LogicalType.depth, List.length_cons]
    omega
  | some size :: rest, type => by
    rw [wrapped, depth_wrapped rest, LogicalType.depth, List.length_cons]
    omega

/-- Members are a level above their types. -/
theorem depth_resolvedMembers : ∀ {params : List ResolvedParam} {members : Members},
    resolvedMembers params = some members → params ≠ [] →
      members.depth = resolvedDepth params + 1
  | .field name type :: [], members, built, _ => by
    obtain rfl := Option.some.inj built
    show max (type.depth + 1) 0 = max type.depth 0 + 1
    omega
  | .field name type :: next :: rest, members, built, _ => by
    obtain ⟨others, later, rfl⟩ := Option.map_eq_some_iff.mp built
    rw [Members.depth, resolvedDepth, depth_resolvedMembers later (List.cons_ne_nil next rest)]
    omega
  | .type _ :: _, _, built, _ => by cases built
  | .number _ :: _, _, built, _ => by cases built
  | .label _ :: _, _, built, _ => by cases built

/-- A nested type is a level above its parameters. -/
theorem depth_nestedType {base : Bytes} {params : List ResolvedParam} {type : LogicalType}
    (built : nestedType base params = some type) (some_ : params ≠ []) :
    type.depth = resolvedDepth params + 1 := by
  unfold nestedType at built
  split at built
  · obtain ⟨members, found, rfl⟩ := Option.map_eq_some_iff.mp built
    exact depth_resolvedMembers found some_
  · split at built
    · obtain ⟨members, found, rfl⟩ := Option.map_eq_some_iff.mp built
      exact depth_resolvedMembers found some_
    · split at built
      · obtain ⟨-, same⟩ := Option.ite_none_right_eq_some.mp built
        obtain rfl := Option.some.inj same
        simp [LogicalType.depth, resolvedDepth]
      · obtain ⟨-, same⟩ := Option.ite_none_right_eq_some.mp built
        obtain rfl := Option.some.inj same
        simp [LogicalType.depth, resolvedDepth]
      · obtain ⟨-, same⟩ := Option.ite_none_right_eq_some.mp built
        obtain rfl := Option.some.inj same
        simp [LogicalType.depth, resolvedDepth]
      · cases built

section

variable {catalog : Bytes → Option LogicalType}

/-- There is a resolved parameter for every parameter. -/
theorem resolveParams_ne_nil {params : Params} (inner : params.leaf = false) {list : List ResolvedParam}
    (resolved : resolveParams catalog params = some list) : list ≠ [] := by
  cases params with
  | nil => cases inner
  | field name type rest =>
    obtain ⟨_, _, more⟩ := Option.bind_eq_some_iff.mp resolved
    obtain ⟨_, _, same⟩ := Option.bind_eq_some_iff.mp more
    obtain rfl := Option.some.inj same
    exact List.cons_ne_nil _ _
  | type type rest =>
    obtain ⟨_, _, more⟩ := Option.bind_eq_some_iff.mp resolved
    obtain ⟨_, _, same⟩ := Option.bind_eq_some_iff.mp more
    obtain rfl := Option.some.inj same
    exact List.cons_ne_nil _ _
  | number digits rest =>
    obtain ⟨_, _, rfl⟩ := Option.map_eq_some_iff.mp resolved
    exact List.cons_ne_nil _ _
  | label text rest =>
    obtain ⟨_, _, rfl⟩ := Option.map_eq_some_iff.mp resolved
    exact List.cons_ne_nil _ _

/-- A parameter list within a way is a level, whatever it is of, and so are the suffixes behind it. -/
theorem resolvedLevels_within (path : Path) {level : Nat} (one : level ≤ 1) (arrays : Nat) :
    resolvedLevels catalog (path.within level arrays) =
      arrays + (1 + resolvedLevels catalog path) := by
  unfold resolvedLevels Path.counted Path.within
  dsimp only
  omega

mutual

/-- The levels of a resolved type are those of its longest way, to the leaves of the leaves' types. -/
theorem depth_resolve : ∀ {decl : Decl} {type : LogicalType},
    resolveDecl catalog decl = some type → ∀ limit : Nat,
      (type.depth ≤ limit ↔ ∀ path ∈ decl.paths, resolvedLevels catalog path ≤ limit)
  | .mk head dots words params arrays, type, resolved, limit => by
    rw [resolveDecl] at resolved
    obtain ⟨inner, found, rfl⟩ := Option.map_eq_some_iff.mp resolved
    rw [depth_wrapped, List.length_map, Decl.paths]
    cases flat : params.leaf with
    | true =>
      rw [flat, if_pos rfl] at found
      rw [if_pos rfl, List.forall_mem_singleton, resolvedLevels, leafDepth, found]
      show arrays.length + inner.depth ≤ limit ↔ 0 + (0 + 0 + arrays.length) + inner.depth ≤ limit
      omega
    | false =>
      rw [flat, if_neg Bool.false_ne_true] at found
      obtain ⟨list, each, built⟩ := Option.bind_eq_some_iff.mp found
      have longest := depth_resolveParams each
      rw [if_neg Bool.false_ne_true, List.forall_mem_map,
        depth_nestedType built (resolveParams_ne_nil flat each)]
      have level : listLevel params (render (basePieces head dots words)) ≤ 1 := by
        unfold listLevel
        split <;> omega
      simp only [resolvedLevels_within _ level]
      constructor
      · intro within path member
        have below := (longest (limit - (arrays.length + 1))).mp (by omega) path member
        omega
      · intro fits
        obtain ⟨first, member⟩ := params.paths_nonempty flat
        have room := fits first member
        have below : resolvedDepth list ≤ limit - (arrays.length + 1) := by
          apply (longest _).mpr
          intro path inside
          have whole := fits path inside
          omega
        omega

/-- The levels of resolved parameters are those of their longest way. -/
theorem depth_resolveParams : ∀ {params : Params} {list : List ResolvedParam},
    resolveParams catalog params = some list → ∀ limit : Nat,
      (resolvedDepth list ≤ limit ↔ ∀ path ∈ params.paths, resolvedLevels catalog path ≤ limit)
  | .nil, list, resolved, limit => by
    obtain rfl := Option.some.inj resolved
    rw [Params.paths]
    exact iff_of_true (Nat.zero_le limit) nofun
  | .field name type rest, list, resolved, limit => by
    obtain ⟨first, found, more⟩ := Option.bind_eq_some_iff.mp resolved
    obtain ⟨others, later, same⟩ := Option.bind_eq_some_iff.mp more
    obtain rfl := Option.some.inj same
    rw [resolvedDepth, Params.paths, List.forall_mem_append, Nat.max_le, depth_resolve found,
      depth_resolveParams later]
  | .type type rest, list, resolved, limit => by
    obtain ⟨first, found, more⟩ := Option.bind_eq_some_iff.mp resolved
    obtain ⟨others, later, same⟩ := Option.bind_eq_some_iff.mp more
    obtain rfl := Option.some.inj same
    rw [resolvedDepth, Params.paths, List.forall_mem_append, Nat.max_le, depth_resolve found,
      depth_resolveParams later]
  | .number digits rest, list, resolved, limit => by
    obtain ⟨others, later, rfl⟩ := Option.map_eq_some_iff.mp resolved
    rw [resolvedDepth, Params.paths]
    · exact depth_resolveParams later limit
    all_goals exact nofun
  | .label text rest, list, resolved, limit => by
    obtain ⟨others, later, rfl⟩ := Option.map_eq_some_iff.mp resolved
    rw [resolvedDepth, Params.paths]
    · exact depth_resolveParams later limit
    all_goals exact nofun

end

/-- A resolved type has at least the levels of its declaration. -/
theorem nesting_resolved {decl : Decl} {type : LogicalType}
    (resolved : resolveDecl catalog decl = some type) : decl.nesting ≤ type.depth := by
  rw [decl.nesting_le]
  intro path member
  have whole := (depth_resolve resolved type.depth).mp (Nat.le_refl _) path member
  unfold resolvedLevels Path.counted at whole
  unfold Path.levels
  omega

end

/-! ## The limit of accepted declarations -/

/-- An accepted declaration nests within the limit of 64 if and only if, at each of its leaves, the array
suffixes behind the parameter lists around the leaf are no more than the parser's count of the nested types
leaves. `sql_type` spells the type that it stands for if and only if these suffixes and the levels of the
leaf's own type are no more than the depth counter of the parser leaves. -/
theorem nesting_bounded {declaration canonical : Bytes}
    (accepted : duckdbCanonicalizeType declaration = .ok canonical) :
    ∃ decl : Decl, decl.WellFormed ∧ canonical = render decl.pieces ∧
      (∀ other : Decl, other.WellFormed → canonical = render other.pieces → other = decl) ∧
      (decl.nesting ≤ 64 ↔ ∀ path ∈ decl.paths, path.passed ≤ 64 - (path.lists + path.suffixes)) ∧
      ∀ (catalog : Bytes → Option LogicalType) (type : LogicalType),
        resolveDecl catalog decl = some type →
          (decl.nesting ≤ 64 ∧ (∃ text, sqlType 65 type = .ok text) ↔
            ∀ path ∈ decl.paths, path.passed + leafDepth catalog path.leaf ≤ 64 - path.counted) := by
  obtain ⟨decl, _, _, rfl, _, wellFormed, fits⟩ := duckdbCanonicalizeType_sound accepted
  have height : decl.height ≤ 65 := fits
  refine ⟨decl, wellFormed, rfl, ?_, decl.nesting_fits height, ?_⟩
  · intro other ok same
    exact Decl.render_injective ok wellFormed same.symm
  · intro catalog type resolved
    have spelled : (∃ text, sqlType 65 type = .ok text) ↔ type.depth ≤ 64 :=
      (sqlType_ok 65 type).trans Nat.lt_succ_iff
    have covered : type.depth ≤ 64 → decl.nesting ≤ 64 := (nesting_resolved resolved).trans
    rw [spelled, and_iff_right_of_imp covered, depth_resolve resolved]
    apply forall₂_congr
    intro path member
    have counted := decl.paths_counted path member
    unfold resolvedLevels
    omega

/-- The nesting of a STRUCT in two lists is within the bound on every path. -/
theorem nesting_bounded_struct :
    ∃ decl : Decl, decl.WellFormed ∧ lit "STRUCT(a INTEGER[3])[][]" = render decl.pieces ∧
      (∀ other : Decl, other.WellFormed →
        lit "STRUCT(a INTEGER[3])[][]" = render other.pieces → other = decl) ∧
      (decl.nesting ≤ 64 ↔ ∀ path ∈ decl.paths, path.passed ≤ 64 - (path.lists + path.suffixes)) ∧
      ∀ (catalog : Bytes → Option LogicalType) (type : LogicalType),
        resolveDecl catalog decl = some type →
          (decl.nesting ≤ 64 ∧ (∃ text, sqlType 65 type = .ok text) ↔
            ∀ path ∈ decl.paths, path.passed + leafDepth catalog path.leaf ≤ 64 - path.counted) :=
  @nesting_bounded (lit "struct(a integer[3])[][]") _ (by decide +kernel)

/-- A type in so many lists, one in the other. -/
def listsOf : Nat → LogicalType → LogicalType
  | 0, type => type
  | levels + 1, type => .list (listsOf levels type)

/-- A STRUCT inside as many lists as the parser accepts. -/
def deepType : LogicalType :=
  listsOf 64 (.struct (.cons (lit "a") (.plain .integer none) .nil))

/-- The parser accepts 64 lists of a STRUCT, which nest 65 levels, and the name of a type of 66 lists;
`sql_type` fails for both. -/
theorem deepType_accepted :
    (deepType.Sql ∧
      duckdbCanonicalizeType
        (lit "STRUCT(\"a\" INTEGER)" ++ (List.replicate 64 (lit "[]")).flatten) =
        .ok (render deepType.decl.pieces) ∧
      ¬ deepType.decl.nesting ≤ 64 ∧
      sqlType 65 deepType = .error "Type exceeds nesting limit") ∧
    duckdbCanonicalizeType (lit "deep") = .ok (render (declared (lit "DEEP") .nil).pieces) ∧
      resolveDecl (fun _ => some (listsOf 66 (.plain .integer none))) (declared (lit "DEEP") .nil) =
        some (listsOf 66 (.plain .integer none)) ∧
      sqlType 65 (listsOf 66 (.plain .integer none)) = .error "Type exceeds nesting limit" := by
  refine ⟨⟨⟨Nat.one_ne_zero, by decide, ⟨by decide, by decide, .inl rfl⟩, trivial⟩, ?_, ?_, ?_⟩,
    ?_, rfl, ?_⟩
  · decide +kernel
  · decide +kernel
  · decide +kernel
  · decide +kernel
  · decide +kernel

end PhpDuckdb.Value
