import PhpDuckdb.Value.Inference
import PhpDuckdb.Vector.Data

/-!
# Types of vectors

Rows are copied from one vector to another as bytes when the types of the vectors are equal.
`duckdb_vector_types_equal` compares what decides what the bytes mean, names and labels as C strings:
types are equal when they differ in nothing but aliases, coordinate systems and what follows a NUL.
-/

namespace PhpDuckdb.Vector

open SqlText Value

/-! ## What it compares -/

mutual

/-- A type without its aliases and coordinate systems. -/
def bareType : LogicalType → LogicalType
  | .plain id _ => .plain id none
  | .decimal width scale => .decimal width scale
  | .enum labels => .enum labels
  | .geometry _ => .geometry none
  | .list child => .list (bareType child)
  | .array child size => .array (bareType child) size
  | .map key value => .map (bareType key) (bareType value)
  | .struct members => .struct (bareMembers members)
  | .union members => .union (bareMembers members)

/-- Members without the aliases and coordinate systems of their types. -/
def bareMembers : Members → Members
  | .nil => .nil
  | .cons name type rest => .cons name (bareType type) (bareMembers rest)

end

mutual

/-- A type whose ENUM labels and member names end at their first NUL. -/
def cutType : LogicalType → LogicalType
  | .plain id alias_ => .plain id alias_
  | .decimal width scale => .decimal width scale
  | .enum labels => .enum (labels.map cString)
  | .geometry crs => .geometry crs
  | .list child => .list (cutType child)
  | .array child size => .array (cutType child) size
  | .map key value => .map (cutType key) (cutType value)
  | .struct members => .struct (cutMembers members)
  | .union members => .union (cutMembers members)

/-- Members whose names, and those of their types, end at their first NUL. -/
def cutMembers : Members → Members
  | .nil => .nil
  | .cons name type rest => .cons (cString name) (cutType type) (cutMembers rest)

end

mutual

/-- No ENUM label and no member name of a type has a NUL. -/
def NulFree : LogicalType → Prop
  | .plain _ _ => True
  | .decimal _ _ => True
  | .enum labels => ∀ label ∈ labels, 0 ∉ label
  | .geometry _ => True
  | .list child => NulFree child
  | .array child _ => NulFree child
  | .map key value => NulFree key ∧ NulFree value
  | .struct members => NulFreeMembers members
  | .union members => NulFreeMembers members

/-- Neither the names nor the types of some members hold a NUL. -/
def NulFreeMembers : Members → Prop
  | .nil => True
  | .cons name type rest => 0 ∉ name ∧ NulFree type ∧ NulFreeMembers rest

end

/-- Two types that differ, but only behind the first NUL of a label or of a member name. -/
def DifferBehindNul (one two : LogicalType) : Prop :=
  bareType one ≠ bareType two ∧ cutType (bareType one) = cutType (bareType two)

/-! ## Cutting names -/

mutual

/-- Without NULs there is nothing to cut. -/
theorem cutType_nulFree : ∀ {type : LogicalType}, NulFree type →
    cutType (bareType type) = bareType type
  | .plain _ _, _ => rfl
  | .decimal _ _, _ => rfl
  | .enum labels, clean => by
    have whole : labels.map cString = labels.map id :=
      List.map_congr_left fun label inside => cString_eq.mpr (clean label inside)
    rw [bareType, cutType, whole, List.map_id]
  | .geometry _, _ => rfl
  | .list child, clean => by
    rw [bareType, cutType, @cutType_nulFree child clean]
  | .array child _, clean => by
    rw [bareType, cutType, @cutType_nulFree child clean]
  | .map _ _, clean => by
    rw [bareType, cutType, cutType_nulFree clean.1, cutType_nulFree clean.2]
  | .struct members, clean => by
    rw [bareType, cutType, @cutMembers_nulFree members clean]
  | .union members, clean => by
    rw [bareType, cutType, @cutMembers_nulFree members clean]

/-- Cutting names at a NUL leaves members without NULs as they are. -/
theorem cutMembers_nulFree : ∀ {members : Members}, NulFreeMembers members →
    cutMembers (bareMembers members) = bareMembers members
  | .nil, _ => rfl
  | .cons _ _ _, clean => by
    rw [bareMembers, cutMembers, cString_eq.mpr clean.1, cutType_nulFree clean.2.1,
      cutMembers_nulFree clean.2.2]

end

/-- Types without NULs do not differ behind them. -/
theorem not_differBehindNul {one two : LogicalType} (first : NulFree one) (second : NulFree two) :
    ¬ DifferBehindNul one two := by
  rintro ⟨differ, same⟩
  rw [cutType_nulFree first, cutType_nulFree second] at same
  exact differ same

/-! ## The comparison -/

mutual

/-- Types are equal when they are the same without aliases and coordinate systems, up to the first
NUL of labels and names. -/
theorem duckdbVectorTypesEqual_iff : ∀ one two : LogicalType,
    duckdbVectorTypesEqual one two = true ↔ cutType (bareType one) = cutType (bareType two)
  | .plain id _, two => by
    cases two <;> simp [duckdbVectorTypesEqual, bareType, cutType]
  | .decimal width scale, two => by
    cases two <;> simp [duckdbVectorTypesEqual, bareType, cutType]
  | .enum labels, two => by
    have read : takeString = cString := rfl
    cases two <;> simp [duckdbVectorTypesEqual, bareType, cutType, read]
  | .geometry _, two => by
    cases two <;> simp [duckdbVectorTypesEqual, bareType, cutType]
  | .list child, two => by
    cases two with
    | list other =>
      rw [duckdbVectorTypesEqual, bareType, bareType, cutType, cutType, LogicalType.list.injEq]
      exact duckdbVectorTypesEqual_iff child other
    | _ => exact iff_of_false Bool.false_ne_true nofun
  | .array child size, two => by
    cases two with
    | array other last =>
      rw [duckdbVectorTypesEqual, bareType, bareType, cutType, cutType, LogicalType.array.injEq,
        ← duckdbVectorTypesEqual_iff child other, Bool.and_eq_true, decide_eq_true_iff]
      exact and_comm
    | _ => exact iff_of_false Bool.false_ne_true nofun
  | .map key value, two => by
    cases two with
    | map other last =>
      rw [duckdbVectorTypesEqual, bareType, bareType, cutType, cutType, LogicalType.map.injEq,
        ← duckdbVectorTypesEqual_iff key other, ← duckdbVectorTypesEqual_iff value last,
        Bool.and_eq_true]
    | _ => exact iff_of_false Bool.false_ne_true nofun
  | .struct members, two => by
    cases two with
    | struct others =>
      rw [duckdbVectorTypesEqual, bareType, bareType, cutType, cutType, LogicalType.struct.injEq]
      exact vectorMembersEqual_iff members others
    | _ => exact iff_of_false Bool.false_ne_true nofun
  | .union members, two => by
    cases two with
    | union others =>
      rw [duckdbVectorTypesEqual, bareType, bareType, cutType, cutType, LogicalType.union.injEq]
      exact vectorMembersEqual_iff members others
    | _ => exact iff_of_false Bool.false_ne_true nofun

/-- Members are equal exactly when they are so after cutting names and labels at a NUL. -/
theorem vectorMembersEqual_iff : ∀ one two : Members,
    vectorMembersEqual one two = true ↔
      cutMembers (bareMembers one) = cutMembers (bareMembers two)
  | .nil, .nil => iff_of_true rfl rfl
  | .nil, .cons _ _ _ => iff_of_false Bool.false_ne_true nofun
  | .cons _ _ _, .nil => iff_of_false Bool.false_ne_true nofun
  | .cons name type rest, .cons other last others => by
    rw [bareMembers, bareMembers, cutMembers, cutMembers, Members.cons.injEq,
      ← duckdbVectorTypesEqual_iff type last, ← vectorMembersEqual_iff rest others,
      vectorMembersEqual, Bool.and_eq_true, Bool.and_eq_true, decide_eq_true_iff, and_assoc]
    exact Iff.rfl

end

/-- The comparison says whether two types are the same without aliases and coordinate systems,
except where they differ only behind a NUL. -/
theorem duckdbVectorTypesEqual_exact (one two : LogicalType) :
    (duckdbVectorTypesEqual one two = true ↔ bareType one = bareType two) ↔
      ¬ DifferBehindNul one two := by
  rw [duckdbVectorTypesEqual_iff]
  constructor
  · rintro told ⟨differ, same⟩
    exact differ (told.mp same)
  · intro apart
    constructor
    · intro same
      by_contra differ
      exact apart ⟨differ, same⟩
    · exact congrArg cutType

mutual

/-- Types that can be inferred have no aliases, no coordinate systems and nothing to cut. -/
theorem bareType_inferable : ∀ {type : LogicalType}, type.Inferable →
    cutType (bareType type) = type
  | .plain id _, none_ => by
    rw [bareType, cutType, show _ = none from none_]
  | .list child, inferable => by
    rw [bareType, cutType, @bareType_inferable child inferable]
  | .struct members, inferable => by
    rw [bareType, cutType, @bareMembers_inferable members inferable]

/-- Members that can be inferred have nothing to strip or to cut. -/
theorem bareMembers_inferable : ∀ {members : Members}, members.Inferable →
    cutMembers (bareMembers members) = members
  | .nil, _ => rfl
  | .cons _ _ _, inferable => by
    rw [bareMembers, cutMembers, inferable.1, bareType_inferable inferable.2.1,
      bareMembers_inferable inferable.2.2]

end

/-- On types that can be inferred, the two comparisons are one. -/
theorem duckdbVectorTypesEqual_inferable {one two : LogicalType} (first : one.Inferable)
    (second : two.Inferable) : duckdbVectorTypesEqual one two = logicalTypesEqual one two := by
  rw [Bool.eq_iff_iff, duckdbVectorTypesEqual_iff, bareType_inferable first,
    bareType_inferable second]
  constructor
  · intro same
    rw [same]
    exact logicalTypesEqual_refl two
  · intro same
    exact eq_of_logicalTypesEqual first second same

/-- The comparison is an equivalence. Types are equal when they agree on everything but aliases and
coordinate systems, exactly where they do not differ only behind a NUL in a label or member name; types without such NULs
never do. On the types that are inferred from PHP values the comparison is that of the converter. -/
theorem duckdbVectorTypesEqual_sound (one two : LogicalType) :
    Equivalence (fun first second => duckdbVectorTypesEqual first second = true) ∧
    ((duckdbVectorTypesEqual one two = true ↔ bareType one = bareType two) ↔
      ¬ DifferBehindNul one two) ∧
    (NulFree one → NulFree two → ¬ DifferBehindNul one two) ∧
    ∀ (room more : Nat) (value other : Zval),
      duckdbPhpInferLogicalType room value = .ok (some one) →
      duckdbPhpInferLogicalType more other = .ok (some two) →
      duckdbVectorTypesEqual one two = logicalTypesEqual one two := by
  refine ⟨⟨?_, ?_, ?_⟩, duckdbVectorTypesEqual_exact one two, ?_, ?_⟩
  · intro type
    exact (duckdbVectorTypesEqual_iff type type).mpr rfl
  · intro one two same
    rw [duckdbVectorTypesEqual_iff] at same ⊢
    exact same.symm
  · intro one two three first second
    rw [duckdbVectorTypesEqual_iff] at first second ⊢
    exact first.trans second
  · intro first second
    exact not_differBehindNul first second
  · intro room more value other first second
    exact duckdbVectorTypesEqual_inferable (infer_inferable first) (infer_inferable second)

/-- The types of a number and of an array, and two ENUMs that differ in a label. -/
theorem duckdbVectorTypesEqual_sound_array :
    duckdbVectorTypesEqual (.plain .bigint none) (.list (.plain .varchar none)) =
        logicalTypesEqual (.plain .bigint none) (.list (.plain .varchar none)) ∧
      ¬ DifferBehindNul (.enum [lit "a"]) (.enum [lit "b"]) :=
  ⟨(duckdbVectorTypesEqual_sound _ _).2.2.2 512 512 (.long 1)
      (.array (.cons (.index 0) (.string (lit "a")) .nil)) rfl rfl,
    (duckdbVectorTypesEqual_sound (.enum [lit "a"]) (.enum [lit "b"])).2.2.1
      (by simp [NulFree, lit]) (by simp [NulFree, lit])⟩

/-- The ENUMs of one label, `a\0b` and `a\0c`, are equal for the comparison. -/
theorem enumLabels_cut :
    duckdbVectorTypesEqual (.enum [[97, 0, 98]]) (.enum [[97, 0, 99]]) = true ∧
      bareType (.enum [[97, 0, 98]]) ≠ bareType (.enum [[97, 0, 99]]) := by
  refine ⟨by decide, ?_⟩
  intro same
  rw [bareType, bareType, LogicalType.enum.injEq] at same
  exact absurd same (by decide)

end PhpDuckdb.Vector
