import PhpDuckdb.Types.Unique

/-!
# Nesting of declarations

A declaration nests as deep as its parameter lists and array suffixes on the way to a leaf. The
parser counts the lists that it enters and the suffixes of one type at a time: the suffixes after a
list do not count inside it.
-/

namespace PhpDuckdb.Types

open SqlText

/-- A type whose parameter list is a level of nesting. -/
def nests (base : Bytes) : Bool :=
  base = lit "STRUCT" || base = lit "UNION" || base = lit "MAP" || base = lit "LIST"

/-- None of the parameters is a declaration of its own. -/
def Params.leaf : Params → Bool
  | .nil => true
  | .field _ _ _ => false
  | .type _ _ => false
  | .number _ rest => rest.leaf
  | .label _ rest => rest.leaf

/-- The level of a parameter list. -/
def listLevel (params : Params) (base : Bytes) : Nat :=
  if !params.leaf && nests base then 1 else 0

mutual

/-- The levels of a declaration: one for every array suffix and for the parameter list of a nested
type. -/
def Decl.nesting : Decl → Nat
  | .mk head dots words params arrays =>
    arrays.length + (listLevel params (render (basePieces head dots words)) + params.nesting)

/-- The levels of the deepest parameter. -/
def Params.nesting : Params → Nat
  | .nil => 0
  | .field _ type rest => max type.nesting rest.nesting
  | .type type rest => max type.nesting rest.nesting
  | .number _ rest => rest.nesting
  | .label _ rest => rest.nesting

end

/-- A way from a declaration to a leaf. -/
structure Path where
  /-- The parameter lists of nested types that are entered. -/
  lists : Nat
  /-- The other parameter lists that are entered, those of an ARRAY. -/
  others : Nat
  /-- The array suffixes of the leaf. -/
  suffixes : Nat
  /-- The array suffixes that follow the parameter lists that are entered. -/
  passed : Nat
  /-- The leaf without its suffixes. -/
  leaf : Bytes

/-- A way that begins in a type with parameters. -/
def Path.within (path : Path) (level arrays : Nat) : Path :=
  ⟨path.lists + level, path.others + (1 - level), path.suffixes, path.passed + arrays, path.leaf⟩

mutual

/-- The ways from a declaration to the leaves below it. -/
def Decl.paths : Decl → List Path
  | .mk head dots words params arrays =>
    if params.leaf then [⟨0, 0, arrays.length, 0, render (Decl.mk head dots words params []).pieces⟩]
    else params.paths.map fun path =>
      path.within (listLevel params (render (basePieces head dots words))) arrays.length

/-- The ways to the leaves of the parameters. -/
def Params.paths : Params → List Path
  | .nil => []
  | .field _ type rest => type.paths ++ rest.paths
  | .type type rest => type.paths ++ rest.paths
  | .number _ rest => rest.paths
  | .label _ rest => rest.paths

end

/-- The levels that lie on the way to a leaf. -/
def Path.levels (path : Path) : Nat := path.passed + (path.lists + path.suffixes)

/-- What the depth counter of the parser has come to at the end of the way: it counts every parameter
list and the suffixes of the leaf. -/
def Path.counted (path : Path) : Nat := path.lists + path.others + path.suffixes

/-- A parameter list within a way is a level of it, and so are the suffixes behind it. -/
theorem Path.levels_within (path : Path) (level arrays : Nat) :
    (path.within level arrays).levels = arrays + (level + path.levels) := by
  unfold Path.levels Path.within
  dsimp only
  omega

mutual

/-- There is a way to a leaf. -/
theorem Decl.paths_nonempty : ∀ decl : Decl, ∃ path, path ∈ decl.paths
  | .mk head dots words params arrays => by
    rw [Decl.paths]
    split
    · exact ⟨_, List.mem_singleton_self _⟩
    · next inner =>
      obtain ⟨path, member⟩ := params.paths_nonempty (Bool.eq_false_iff.mpr inner)
      exact ⟨_, List.mem_map_of_mem member⟩

/-- There is a way to a leaf of the parameters that are declarations. -/
theorem Params.paths_nonempty : ∀ params : Params, params.leaf = false →
    ∃ path, path ∈ params.paths
  | .nil, inner => by cases inner
  | .field _ type rest, _ => by
    obtain ⟨path, member⟩ := type.paths_nonempty
    exact ⟨path, List.mem_append_left _ member⟩
  | .type type rest, _ => by
    obtain ⟨path, member⟩ := type.paths_nonempty
    exact ⟨path, List.mem_append_left _ member⟩
  | .number _ rest, inner => rest.paths_nonempty inner
  | .label _ rest, inner => rest.paths_nonempty inner

end

/-- Parameters that are no declarations have no levels. -/
theorem Params.nesting_leaf : ∀ {params : Params}, params.leaf = true → params.nesting = 0
  | .nil, _ => rfl
  | .field _ _ _, flat => by cases flat
  | .type _ _, flat => by cases flat
  | .number _ rest, flat => @Params.nesting_leaf rest flat
  | .label _ rest, flat => @Params.nesting_leaf rest flat

mutual

/-- The levels of a declaration are those of its longest way. -/
theorem Decl.nesting_le : ∀ (decl : Decl) (limit : Nat),
    decl.nesting ≤ limit ↔ ∀ path ∈ decl.paths, path.levels ≤ limit
  | .mk head dots words params arrays, limit => by
    have inner := params.nesting_le
    rw [Decl.nesting, Decl.paths]
    cases flat : params.leaf with
    | true =>
      rw [if_pos rfl, List.forall_mem_singleton, Params.nesting_leaf flat, listLevel, flat]
      show arrays.length + (0 + 0) ≤ limit ↔ 0 + (0 + arrays.length) ≤ limit
      omega
    | false =>
      rw [if_neg Bool.false_ne_true, List.forall_mem_map]
      generalize listLevel params (render (basePieces head dots words)) = level
      constructor
      · intro within path member
        have below := (inner (limit - (arrays.length + level))).mp (by omega) path member
        rw [Path.levels_within]
        omega
      · intro fits
        obtain ⟨first, member⟩ := params.paths_nonempty flat
        have room := fits first member
        have below : params.nesting ≤ limit - (arrays.length + level) := by
          apply (inner _).mpr
          intro path found
          have whole := fits path found
          rw [Path.levels_within] at whole
          omega
        rw [Path.levels_within] at room
        omega

/-- The levels of parameters are those of their longest way. -/
theorem Params.nesting_le : ∀ (params : Params) (limit : Nat),
    params.nesting ≤ limit ↔ ∀ path ∈ params.paths, path.levels ≤ limit
  | .nil, limit => by
    rw [Params.nesting, Params.paths]
    exact iff_of_true (Nat.zero_le limit) nofun
  | .field _ type rest, limit => by
    rw [Params.nesting, Params.paths, List.forall_mem_append, Nat.max_le,
      type.nesting_le limit, rest.nesting_le limit]
  | .type type rest, limit => by
    rw [Params.nesting, Params.paths, List.forall_mem_append, Nat.max_le,
      type.nesting_le limit, rest.nesting_le limit]
  | .number _ rest, limit => by
    rw [Params.nesting, Params.paths]
    exact rest.nesting_le limit
  | .label _ rest, limit => by
    rw [Params.nesting, Params.paths]
    exact rest.nesting_le limit

end

mutual

/-- The parser counts the lists that a way enters and the suffixes of its leaf. -/
theorem Decl.paths_counted : ∀ (decl : Decl), ∀ path ∈ decl.paths,
    path.counted + 1 ≤ decl.height
  | .mk head dots words params arrays, path, member => by
    have inner := params.paths_counted
    have level : listLevel params (render (basePieces head dots words)) ≤ 1 := by
      unfold listLevel
      split <;> omega
    rw [Decl.height]
    rw [Decl.paths] at member
    split at member
    · obtain rfl := List.mem_singleton.mp member
      dsimp only [Path.counted]
      omega
    · obtain ⟨way, found, rfl⟩ := List.mem_map.mp member
      have counted := inner way found
      unfold Path.counted at counted ⊢
      unfold Path.within
      dsimp only
      omega

/-- The parser counts the ways of the parameters. -/
theorem Params.paths_counted : ∀ (params : Params), ∀ path ∈ params.paths,
    path.counted + 1 ≤ params.height
  | .nil, _, member => by cases member
  | .field _ type rest, path, member => by
    have first := type.paths_counted path
    have others := rest.paths_counted path
    rw [Params.height]
    cases List.mem_append.mp member with
    | inl here => exact Nat.le_trans (first here) (Nat.le_max_left _ _)
    | inr later => exact Nat.le_trans (others later) (Nat.le_max_right _ _)
  | .type type rest, path, member => by
    have first := type.paths_counted path
    have others := rest.paths_counted path
    rw [Params.height]
    cases List.mem_append.mp member with
    | inl here => exact Nat.le_trans (first here) (Nat.le_max_left _ _)
    | inr later => exact Nat.le_trans (others later) (Nat.le_max_right _ _)
  | .number _ rest, path, member => rest.paths_counted path member
  | .label _ rest, path, member => rest.paths_counted path member

end

/-- A declaration that the parser accepts nests within its limit where the suffixes that it does not
count fit in what it counts of the nested types leaves. -/
theorem Decl.nesting_fits {decl : Decl} {limit : Nat} (accepted : decl.height ≤ limit + 1) :
    decl.nesting ≤ limit ↔
      ∀ path ∈ decl.paths, path.passed ≤ limit - (path.lists + path.suffixes) := by
  rw [Decl.nesting_le]
  constructor
  · intro within path member
    have levels := within path member
    unfold Path.levels at levels
    omega
  · intro fits path member
    have counted := decl.paths_counted path member
    have uncounted := fits path member
    unfold Path.counted at counted
    unfold Path.levels
    omega

/-! ## The limit of the parser -/

/-- A reading stops at the nesting limit, or it is the same as one with more room. -/
def Limited {α : Type} (one two : Except String α) : Prop :=
  one = .error "Type declaration exceeds nesting limit" ∨ one = two

/-- A reading is the same as itself. -/
theorem limited_refl {α : Type} (one : Except String α) : Limited one one := Or.inr rfl

/-- What holds with more room holds with still more. -/
theorem Limited.trans {α : Type} {one two three : Except String α} (first : Limited one two)
    (second : Limited two three) : Limited one three := by
  cases first with
  | inl stopped => exact Or.inl stopped
  | inr same =>
    rw [same]
    exact second

/-- Two readings that agree within the limit still agree after what follows them. -/
theorem Limited.bind {α β : Type} {one two : Except String α} {next more : α → Except String β}
    (first : Limited one two) (second : ∀ read, Limited (next read) (more read)) :
    Limited (one >>= next) (two >>= more) := by
  cases first with
  | inl stopped =>
    rw [stopped]
    exact Or.inl rfl
  | inr same =>
    rw [same]
    cases two with
    | error message => exact Or.inr rfl
    | ok read => exact second read

/-- A parameter is limited by the types in it. -/
theorem limited_parameter {read more : List Token → Except String (Bytes × List Token)}
    (types : ∀ ts, Limited (read ts) (more ts)) (base name : Bytes) (ts : List Token) :
    Limited (parameter read base name ts) (parameter more base name ts) := by
  unfold parameter
  split
  · exact (limited_refl _).bind fun field => (types field.2).bind fun _ => limited_refl _
  · split
    · split
      · exact limited_refl _
      · exact (types _).bind fun _ => limited_refl _
    · exact limited_refl _

/-- Parameters are limited by the types in them. -/
theorem limited_parameters {read more : List Token → Except String (Bytes × List Token)}
    (types : ∀ ts, Limited (read ts) (more ts)) (base : Bytes) :
    ∀ (fuel : Nat) (first : Bool) (name : Bytes) (ts : List Token),
      Limited (parameters read base fuel first name ts) (parameters more base fuel first name ts)
  | 0, _, _, _ => limited_refl _
  | fuel + 1, first, name, ts => by
    rw [parameters, parameters]
    split
    · exact limited_refl _
    · apply (limited_refl _).bind
      intro lead
      apply (limited_parameter types base lead.1 lead.2).bind
      intro item
      dsimp only
      split
      · exact limited_refl _
      · exact limited_parameters types base fuel false item.1 item.2

/-- Array suffixes are limited by the room for them. -/
theorem limited_suffixes : ∀ (room : Nat) (name : Bytes) (ts : List Token),
    Limited (suffixes room name ts) (suffixes (room + 1) name ts)
  | 0, name, ts => by
    rw [suffixes]
    split
    · exact Or.inl rfl
    · next ends =>
      rw [suffixes, if_neg ends]
      exact limited_refl _
  | room + 1, name, ts => by
    rw [suffixes, suffixes]
    split
    · exact (limited_refl _).bind fun left => limited_suffixes room _ left
    · exact limited_refl _

/-- A declaration is limited by the room for it. -/
theorem limited_type : ∀ (room : Nat) (ts : List Token), Limited (type room ts) (type (room + 1) ts)
  | 0, _ => Or.inl rfl
  | room + 1, ts => by
    rw [type, type]
    apply (limited_refl _).bind
    intro head
    dsimp only
    split
    · exact limited_refl _
    · apply (limited_refl _).bind
      intro qualified
      apply (limited_refl _).bind
      intro named
      apply Limited.bind
      · split
        · exact limited_parameters (limited_type room) _ _ _ _ _
        · exact limited_refl _
      · exact fun group => limited_suffixes room group.1 group.2

/-- With any more room a declaration reads the same unless it stops at the limit. -/
theorem limited_room (room more : Nat) (ts : List Token) :
    Limited (type room ts) (type (room + more) ts) := by
  induction more with
  | zero => exact limited_refl _
  | succ more ih => exact ih.trans (limited_type (room + more) ts)

/-- The text of a well-formed declaration is its own canonical form unless it exceeds the limit. -/
theorem Decl.WellFormed.limited {decl : Decl} (ok : decl.WellFormed) :
    Limited (duckdbCanonicalizeType (render decl.pieces)) (.ok (render decl.pieces)) := by
  have read : Limited (type 65 (pieceTokens decl.pieces)) (.ok (render decl.pieces, [])) := by
    have parsed := @Decl.parse decl (65 + decl.height) [] ok (Nat.le_add_left _ _) (Or.inl rfl)
    rw [List.append_nil] at parsed
    rw [← parsed]
    exact limited_room 65 decl.height (pieceTokens decl.pieces)
  rw [duckdbCanonicalizeType, ok.tokens]
  exact read.bind fun _ => limited_refl _

end PhpDuckdb.Types
