import Mathlib.Data.Nat.Bitwise
import PhpDuckdb.Variant.Geometry

/-!
# Exactly complete WKB

A well-formed geometry is a tree that knows how it is spelled and how it is shown. The renderer
succeeds exactly on the spellings of such trees and gives their texts: every piece of it is exact
for a form, and the recursion for the trees that the levels left have room for.
-/

namespace PhpDuckdb.Variant

open SqlText Transducer Reader

/-! ## Well-formed geometries -/

/-- The bytes of a number, the lowest first. -/
def littleBytes : Nat → Nat → Bytes
  | 0, _ => []
  | width + 1, number => UInt8.ofNat (number % 256) :: littleBytes width (number / 256)

/-- A little-endian header: the byte order and the metadata. -/
def header (metadata : UInt32) : Bytes := 1 :: littleBytes 4 metadata.toNat

/-- A geometry: its metadata, its coordinates as the bits of doubles, and its parts. -/
inductive Wkb where
  /-- A vertex. -/
  | point (metadata : UInt32) (vertex : List UInt64)
  /-- Vertices. -/
  | lineString (metadata : UInt32) (vertices : List (List UInt64))
  /-- Rings of vertices. -/
  | polygon (metadata : UInt32) (rings : List (List (List UInt64)))
  /-- Points, each with its metadata. -/
  | multiPoint (metadata : UInt32) (parts : List (UInt32 × List UInt64))
  /-- Lines, each with its metadata. -/
  | multiLineString (metadata : UInt32) (parts : List (UInt32 × List (List UInt64)))
  /-- Polygons, each with its metadata. -/
  | multiPolygon (metadata : UInt32) (parts : List (UInt32 × List (List (List UInt64))))
  /-- Geometries of any type. -/
  | geometryCollection (metadata : UInt32) (parts : List Wkb)

/-- The number that stands for a type in WKB. -/
def GeometryType.number : GeometryType → Nat
  | .point => 1
  | .lineString => 2
  | .polygon => 3
  | .multiPoint => 4
  | .multiLineString => 5
  | .multiPolygon => 6
  | .geometryCollection => 7

/-- The flags that a header declares: the two low bits of the thousands. -/
def declaredFlags (metadata : UInt32) : Flags :=
  ⟨metadata.toNat % 65536 / 1000 % 2 = 1, metadata.toNat % 65536 / 1000 / 2 % 2 = 1⟩

/-- A header declares a type and flags. -/
def Declares (metadata : UInt32) (type : GeometryType) (flags : Flags) : Prop :=
  metadata.toNat % 65536 % 1000 = type.number ∧ declaredFlags metadata = flags

/-- A list that a 32-bit count counts, of valid things. -/
def CountedList {ι : Type} (valid : ι → Prop) (things : List ι) : Prop :=
  things.length < 2 ^ 32 ∧ ∀ thing ∈ things, valid thing

/-- A part that declares a type and flags. -/
def PartOf {ι : Type} (type : GeometryType) (flags : Flags) (valid : ι → Prop)
    (part : UInt32 × ι) : Prop :=
  Declares part.1 type flags ∧ valid part.2

/-- A vertex with a coordinate for every dimension. -/
def FullVertex (flags : Flags) (vertex : List UInt64) : Prop := vertex.length = flags.dims

/-- A vertex: eight bytes for every coordinate. -/
def spelledVertex (vertex : List UInt64) : Bytes :=
  vertex.flatMap fun value => littleBytes 8 value.toNat

/-- A list: its count and its things. -/
def spelledList {ι : Type} (spelled : ι → Bytes) (things : List ι) : Bytes :=
  littleBytes 4 things.length ++ things.flatMap spelled

/-- A part: its header and its contents. -/
def spelledPart {ι : Type} (spelled : ι → Bytes) (part : UInt32 × ι) : Bytes :=
  header part.1 ++ spelled part.2

/-- A vertex as text: its coordinates in order. -/
def textVertex (dtoa : UInt64 → Shortest) (vertex : List UInt64) : Bytes :=
  (lit " ").intercalate (vertex.map fun value => real dtoa value true)

/-- A point as text: its vertex, or `EMPTY` when all is NaN. -/
def textPoint (dtoa : UInt64 → Shortest) (parentheses : Bool) (vertex : List UInt64) : Bytes :=
  if vertex.all isNan then lit "EMPTY"
  else if parentheses then lit "(" ++ textVertex dtoa vertex ++ lit ")"
  else textVertex dtoa vertex

/-- A list as text: its things in order. -/
def textList {ι : Type} (text : ι → Bytes) (things : List ι) : Bytes :=
  if things.isEmpty then lit "EMPTY"
  else lit "(" ++ (lit ", ").intercalate (things.map text) ++ lit ")"

namespace Wkb

/-- The word behind the byte order of a geometry, which holds its type and its flags. -/
def metadata : Wkb → UInt32
  | .point metadata _ => metadata
  | .lineString metadata _ => metadata
  | .polygon metadata _ => metadata
  | .multiPoint metadata _ => metadata
  | .multiLineString metadata _ => metadata
  | .multiPolygon metadata _ => metadata
  | .geometryCollection metadata _ => metadata

/-- The type of a geometry, by the constructor it is built with. -/
def type : Wkb → GeometryType
  | .point _ _ => .point
  | .lineString _ _ => .lineString
  | .polygon _ _ => .polygon
  | .multiPoint _ _ => .multiPoint
  | .multiLineString _ _ => .multiLineString
  | .multiPolygon _ _ => .multiPolygon
  | .geometryCollection _ _ => .geometryCollection

mutual

/-- Every header in a geometry declares the type that its place asks for and the same flags, every
vertex has a coordinate for every dimension and every count has 32 bits. -/
def WellFormed (flags : Flags) : Wkb → Prop
  | .point metadata vertex => Declares metadata .point flags ∧ FullVertex flags vertex
  | .lineString metadata vertices =>
    Declares metadata .lineString flags ∧ CountedList (FullVertex flags) vertices
  | .polygon metadata rings =>
    Declares metadata .polygon flags ∧ CountedList (CountedList (FullVertex flags)) rings
  | .multiPoint metadata parts =>
    Declares metadata .multiPoint flags ∧
      CountedList (PartOf .point flags (FullVertex flags)) parts
  | .multiLineString metadata parts =>
    Declares metadata .multiLineString flags ∧
      CountedList (PartOf .lineString flags (CountedList (FullVertex flags))) parts
  | .multiPolygon metadata parts =>
    Declares metadata .multiPolygon flags ∧
      CountedList (PartOf .polygon flags (CountedList (CountedList (FullVertex flags)))) parts
  | .geometryCollection metadata parts =>
    Declares metadata .geometryCollection flags ∧ parts.length < 2 ^ 32 ∧
      AllWellFormed flags parts

/-- All geometries of a list are well formed. -/
def AllWellFormed (flags : Flags) : List Wkb → Prop
  | [] => True
  | part :: rest => WellFormed flags part ∧ AllWellFormed flags rest

end

mutual

/-- The number of collections around the innermost geometry. -/
def nesting : Wkb → Nat
  | .point _ _ => 0
  | .lineString _ _ => 0
  | .polygon _ _ => 0
  | .multiPoint _ _ => 0
  | .multiLineString _ _ => 0
  | .multiPolygon _ _ => 0
  | .geometryCollection _ parts => nestingOfParts parts

/-- The number of collections around the innermost geometry of the parts of a collection. -/
def nestingOfParts : List Wkb → Nat
  | [] => 0
  | part :: rest => max (nesting part + 1) (nestingOfParts rest)

end

mutual

/-- The WKB bytes that a geometry is stored as. -/
def spelled : Wkb → Bytes
  | .point metadata vertex => header metadata ++ spelledVertex vertex
  | .lineString metadata vertices => header metadata ++ spelledList spelledVertex vertices
  | .polygon metadata rings => header metadata ++ spelledList (spelledList spelledVertex) rings
  | .multiPoint metadata parts =>
    header metadata ++ spelledList (spelledPart spelledVertex) parts
  | .multiLineString metadata parts =>
    header metadata ++ spelledList (spelledPart (spelledList spelledVertex)) parts
  | .multiPolygon metadata parts =>
    header metadata ++ spelledList (spelledPart (spelledList (spelledList spelledVertex))) parts
  | .geometryCollection metadata parts =>
    header metadata ++ (littleBytes 4 parts.length ++ spelledAll parts)

/-- The WKB bytes of geometries, one behind the other. -/
def spelledAll : List Wkb → Bytes
  | [] => []
  | part :: rest => spelled part ++ spelledAll rest

end

/-- The word and the flags in front of a text. -/
def heading (tree : Wkb) : Bytes := tree.type.word ++ (declaredFlags tree.metadata).text

mutual

/-- The text that a geometry is rendered as. -/
def text (dtoa : UInt64 → Shortest) : Wkb → Bytes
  | .point metadata vertex => heading (.point metadata vertex) ++ textPoint dtoa true vertex
  | .lineString metadata vertices =>
    heading (.lineString metadata vertices) ++ textList (textVertex dtoa) vertices
  | .polygon metadata rings =>
    heading (.polygon metadata rings) ++ textList (textList (textVertex dtoa)) rings
  | .multiPoint metadata parts =>
    heading (.multiPoint metadata parts) ++
      textList (fun part => textPoint dtoa false part.2) parts
  | .multiLineString metadata parts =>
    heading (.multiLineString metadata parts) ++
      textList (fun part => textList (textVertex dtoa) part.2) parts
  | .multiPolygon metadata parts =>
    heading (.multiPolygon metadata parts) ++
      textList (fun part => textList (textList (textVertex dtoa)) part.2) parts
  | .geometryCollection metadata parts =>
    heading (.geometryCollection metadata parts) ++
      if parts.isEmpty then lit "EMPTY"
      else lit "(" ++ (lit ", ").intercalate (texts dtoa parts) ++ lit ")"

/-- The texts that geometries are rendered as, in order. -/
def texts (dtoa : UInt64 → Shortest) : List Wkb → List Bytes
  | [] => []
  | part :: rest => text dtoa part :: texts dtoa rest

end

end Wkb

/-! ## Numbers -/

/-- Bytes of a width stand for the number that they spell. -/
theorem littleEndian_iff (width value : Nat) (input : Bytes) :
    input.length = width ∧ value = littleEndian input ↔
      value < 256 ^ width ∧ input = littleBytes width value := by
  induction width generalizing value input with
  | zero =>
    rw [Nat.pow_zero]
    constructor
    · intro ⟨empty, same⟩
      obtain rfl := List.length_eq_zero_iff.mp empty
      exact ⟨same ▸ Nat.one_pos, rfl⟩
    · intro ⟨small, same⟩
      subst same
      exact ⟨rfl, Nat.lt_one_iff.mp small⟩
  | succ width ih =>
    cases input with
    | nil => exact iff_of_false (fun wrong => nomatch wrong.1) (fun wrong => nomatch wrong.2)
    | cons byte rest =>
      have bound := byte.toNat_lt
      have later := ih (value / 256) rest
      have small : value < 256 ^ (width + 1) ↔ value / 256 < 256 ^ width := by
        rw [Nat.pow_succ, Nat.div_lt_iff_lt_mul (by decide)]
      have first : UInt8.ofNat (value % 256) = byte ↔ value % 256 = byte.toNat := by
        rw [← UInt8.toNat_inj, UInt8.toNat_ofNat', Nat.mod_mod]
      rw [small, List.length_cons, littleEndian, littleBytes, List.cons.injEq, Nat.succ_inj]
      constructor
      · intro ⟨length, same⟩
        obtain ⟨fits, spells⟩ := later.mp ⟨length, by omega⟩
        exact ⟨fits, (first.mpr (by omega)).symm, spells⟩
      · intro ⟨fits, same, spells⟩
        obtain ⟨length, stands⟩ := later.mpr ⟨fits, spells⟩
        have low := first.mp same.symm
        exact ⟨length, by omega⟩

/-! ## The tape -/

/-- The reader moves over its input, and the output goes to the end of the buffer. -/
def scanTape : Tape Scan UInt8 UInt8 where
  sound scan := scan.reader.Sound
  moves start input output ends :=
    Reader.tape.moves start.reader input [] ends.reader ∧ ends.buffer = start.buffer ++ output
  keeps := fun sound moved => Reader.tape.keeps sound moved.1
  still := by
    intro start ends sound
    rw [Reader.tape.still sound, List.append_nil]
    constructor
    · intro ⟨same, kept⟩
      cases ends
      cases same
      cases kept
      rfl
    · intro same
      subst same
      exact ⟨rfl, rfl⟩
  joins := by
    intro start ends first second written later sound
    have silent : ∀ last, Reader.tape.moves start.reader (first ++ second) [] last ↔
        ∃ middle, Reader.tape.moves start.reader first [] middle ∧
          Reader.tape.moves middle second [] last :=
      fun last => @Tape.joins _ _ _ Reader.tape _ last first second [] [] sound
    constructor
    · intro ⟨moved, appended⟩
      obtain ⟨middle, before, after⟩ := (silent ends.reader).mp moved
      exact ⟨⟨middle, start.buffer ++ written⟩, ⟨before, rfl⟩, after,
        appended.trans (List.append_assoc _ _ _).symm⟩
    · intro ⟨middle, ⟨before, wrote⟩, after, writes⟩
      refine ⟨(silent ends.reader).mpr ⟨middle.reader, before, after⟩, ?_⟩
      rw [writes, wrote, List.append_assoc]

/-- A computation over a reader and a writer is exact for a meaning. -/
abbrev Means {α : Type} (means : α → Bytes → Bytes → Prop) (run : Writing α) : Prop :=
  Exact scanTape Stop.Fatal means run

/-- A computation reads the spellings of a form and writes their texts. -/
abbrev Renders {ι : Type} (form : Form ι UInt8 UInt8) (run : Writing Unit) : Prop :=
  Transcribes scanTape Stop.Fatal form run

/-- An exact read is exact with a writer beside it. -/
theorem exact_reads {α : Type} {means : α → Bytes → Bytes → Prop} {read : Reading α}
    (exact_ : Exact Reader.tape Stop.Fatal means read) :
    Means (fun value input output => means value input [] ∧ output = []) (reads read) := by
  intro scan sound
  obtain ⟨harmless, given⟩ := exact_ scan.reader sound
  unfold reads
  cases ran : read scan.reader with
  | error stop =>
    refine ⟨?_, ?_⟩
    · intro other stopped
      obtain rfl := Except.error.inj stopped
      exact harmless stop ran
    · intro value ends
      apply iff_of_false nofun
      intro ⟨input, output, ⟨meant, _⟩, moved, _⟩
      have done := (given value ends.reader).mpr ⟨input, [], meant, moved⟩
      rw [ran] at done
      cases done
  | ok pair =>
    obtain ⟨value, reader⟩ := pair
    refine ⟨nofun, ?_⟩
    intro other ends
    constructor
    · intro done
      obtain ⟨same, last⟩ := Prod.mk.inj (Except.ok.inj done)
      subst same last
      obtain ⟨input, output, meant, moved⟩ := (given value reader).mp ran
      obtain rfl := moved.1
      exact ⟨input, [], ⟨meant, rfl⟩, moved, (List.append_nil _).symm⟩
    · intro ⟨input, output, ⟨meant, silent⟩, moved, kept⟩
      have done := (given other ends.reader).mpr ⟨input, [], meant, moved⟩
      rw [ran] at done
      obtain ⟨same, last⟩ := Prod.mk.inj (Except.ok.inj done)
      rw [silent, List.append_nil] at kept
      subst same last
      rw [← kept]

/-- A write is exact for its text. -/
theorem exact_write (text : Bytes) :
    Means (fun _ input output => input = [] ∧ output = text) (write text) := by
  intro scan sound
  refine ⟨nofun, ?_⟩
  intro value ends
  constructor
  · intro done
    obtain ⟨-, last⟩ := Prod.mk.inj (Except.ok.inj done)
    subst last
    exact ⟨[], text, ⟨rfl, rfl⟩, (Reader.tape.still sound).mpr rfl, rfl⟩
  · intro ⟨input, output, ⟨unread, written⟩, moved, kept⟩
    subst unread written
    have same := (Reader.tape.still sound).mp moved
    cases ends
    cases same
    cases kept
    rfl

/-! ## Pieces -/

/-- A number of a width is exact for its bytes. -/
theorem means_native {width : Nat} (small : width < 2 ^ 64) :
    Means (fun value input output =>
      (value < 256 ^ width ∧ input = littleBytes width value) ∧ output = [])
      (reads (native width)) := by
  apply (exact_reads (exact_native small)).of_iff
  intro value input output
  rw [← littleEndian_iff]
  simp only [and_assoc, and_true]

/-- `Read<uint32_t>` reads exactly the four bytes of a word. -/
theorem means_readWord :
    Means (fun word input output => input = littleBytes 4 word.toNat ∧ output = []) readWord := by
  apply (exact_bind (means_native (by decide)) fun _ => exact_pure _).of_iff
  intro word input output
  constructor
  · intro ⟨spells, silent⟩
    exact ⟨word.toNat, input, [], [], [], ⟨⟨word.toNat_lt, spells⟩, rfl⟩,
      ⟨UInt32.ofNat_toNat.symm, rfl, rfl⟩, (List.append_nil _).symm, silent⟩
  · intro ⟨value, read, left, written, later, ⟨⟨small, spells⟩, silent⟩, ⟨same, unread, quiet⟩,
      split, parted⟩
    have back : word.toNat = value := by
      rw [same]
      exact UInt32.toNat_ofNat_of_lt' small
    subst unread silent quiet
    rw [split, List.append_nil, spells, back]
    exact ⟨rfl, parted⟩

/-- `Read<double>` reads exactly the eight bytes of a double. -/
theorem means_readDouble :
    Means (fun bits input output => input = littleBytes 8 bits.toNat ∧ output = []) readDouble := by
  apply (exact_bind (means_native (by decide)) fun _ => exact_pure _).of_iff
  intro bits input output
  constructor
  · intro ⟨spells, silent⟩
    exact ⟨bits.toNat, input, [], [], [], ⟨⟨bits.toNat_lt, spells⟩, rfl⟩,
      ⟨UInt64.ofNat_toNat.symm, rfl, rfl⟩, (List.append_nil _).symm, silent⟩
  · intro ⟨value, read, left, written, later, ⟨⟨small, spells⟩, silent⟩, ⟨same, unread, quiet⟩,
      split, parted⟩
    have back : bits.toNat = value := by
      rw [same]
      exact UInt64.toNat_ofNat_of_lt' small
    subst unread silent quiet
    rw [split, List.append_nil, spells, back]
    exact ⟨rfl, parted⟩

/-- A header is exact for its bytes. -/
theorem means_readHeader :
    Means (fun metadata input output => input = header metadata ∧ output = []) readHeader := by
  apply (exact_bind (means_native (by decide)) fun _ =>
    exact_bind (exact_check (Stop.invalid_harmless _)) fun _ => means_readWord).of_iff
  intro metadata input output
  constructor
  · intro ⟨spells, silent⟩
    exact ⟨1, [1], littleBytes 4 metadata.toNat, [], [], ⟨⟨by decide, rfl⟩, rfl⟩,
      ⟨(), [], _, [], [], ⟨rfl, rfl, rfl⟩, ⟨rfl, rfl⟩, rfl, rfl⟩, spells, silent⟩
  · intro ⟨order, read, left, written, later, ⟨⟨_, spells⟩, silent⟩,
      ⟨_, unread, rest, quiet, last, ⟨one, nothing, still⟩, ⟨word, mute⟩, split, parted⟩,
      whole, all⟩
    subst one silent nothing still mute
    rw [whole, spells, split, word, all, parted]
    exact ⟨rfl, rfl⟩

/-- A computation that first writes a text means its own output behind that text. -/
theorem Means.write_before {α : Type} {means : α → Bytes → Bytes → Prop} {run : Writing α}
    (text : Bytes) (after : Means means run) :
    Means (fun value input output => ∃ later, means value input later ∧ output = text ++ later)
      (do write text; run) := by
  apply (exact_bind (exact_write text) fun _ => after).of_iff
  intro value input output
  constructor
  · intro ⟨later, meant, parted⟩
    exact ⟨(), [], input, text, later, ⟨rfl, rfl⟩, meant, rfl, parted⟩
  · intro ⟨_, read, left, written, later, ⟨unread, wrote⟩, meant, split, parted⟩
    subst unread wrote
    rw [List.nil_append] at split
    subst split
    exact ⟨later, meant, parted⟩

/-- A write after a computation that gives nothing. -/
theorem Means.write_after {means : Bytes → Bytes → Prop} {run : Writing Unit} (text : Bytes)
    (before : Means (fun _ input output => means input output) run) :
    Means (fun _ input output => ∃ earlier, means input earlier ∧ output = earlier ++ text)
      (do run; write text) := by
  apply (exact_bind before fun _ => exact_write text).of_iff
  intro value input output
  constructor
  · intro ⟨earlier, meant, parted⟩
    exact ⟨(), input, [], earlier, text, meant, ⟨rfl, rfl⟩, (List.append_nil _).symm, parted⟩
  · intro ⟨_, read, left, written, later, meant, ⟨unread, wrote⟩, split, parted⟩
    subst unread wrote
    rw [List.append_nil] at split
    subst split
    exact ⟨written, meant, parted⟩

/-- A check in front of a computation adds its condition to the meaning. -/
theorem Means.check_before {α : Type} {means : α → Bytes → Bytes → Prop} {run : Writing α}
    (condition : Prop) [Decidable condition] (message : String) (after : Means means run) :
    Means (fun value input output => condition ∧ means value input output)
      (do check condition (.invalid message); run) := by
  apply (exact_bind (exact_check (Stop.invalid_harmless message)) fun _ => after).of_iff
  intro value input output
  constructor
  · intro ⟨holds, meant⟩
    exact ⟨(), [], input, [], output, ⟨holds, rfl, rfl⟩, meant, rfl, rfl⟩
  · intro ⟨_, read, left, written, later, ⟨holds, unread, silent⟩, meant, split, parted⟩
    subst unread silent
    rw [List.nil_append] at split parted
    subst split parted
    exact ⟨holds, meant⟩

/-- A coordinate is read as eight bytes and written as a number. -/
theorem coordinate_renders (dtoa : UInt64 → Shortest) :
    Renders ⟨fun _ => True, fun value => littleBytes 8 value.toNat,
      fun value => real dtoa value true⟩ (coordinate dtoa) := by
  apply (exact_bind means_readDouble fun bits => exact_write _).of_iff
  intro value input output
  constructor
  · intro ⟨bits, _, spells, shows⟩
    exact ⟨bits, input, [], [], output, ⟨spells, rfl⟩, ⟨rfl, shows⟩,
      (List.append_nil _).symm, rfl⟩
  · intro ⟨bits, read, left, written, later, ⟨spells, silent⟩, ⟨unread, shows⟩, split, parted⟩
    subst silent unread
    exact ⟨bits, trivial, by rw [split, List.append_nil, spells], parted.trans shows⟩

/-- The text of a vertex renders its coordinates, as many as its flags say. -/
theorem vertex_renders (dtoa : UInt64 → Shortest) (flags : Flags) :
    Renders ⟨FullVertex flags, spelledVertex, textVertex dtoa⟩ (vertex dtoa flags.dims) := by
  apply (exact_separated (exact_write (lit " ")) (coordinate_renders dtoa) flags.dims 0).of_iff
  intro value input output
  simp only [separatedText_zero]
  constructor
  · intro ⟨things, full, spells, shows⟩
    exact ⟨things, full, fun _ _ => trivial, spells, shows⟩
  · intro ⟨things, full, _, spells, shows⟩
    exact ⟨things, full, spells, shows⟩

/-- The coordinates of a point are read. -/
theorem means_readVertex (dims : Nat) :
    Means (fun vertex input output =>
      vertex.length = dims ∧ input = spelledVertex vertex ∧ output = []) (readVertex dims) := by
  induction dims with
  | zero =>
    apply (exact_pure _).of_iff
    intro vertex input output
    constructor
    · intro ⟨empty, spells, silent⟩
      obtain rfl := List.length_eq_zero_iff.mp empty
      exact ⟨rfl, spells, silent⟩
    · intro ⟨empty, spells, silent⟩
      subst empty
      exact ⟨rfl, spells, silent⟩
  | succ dims ih =>
    apply (exact_bind means_readDouble fun _ => exact_bind ih fun _ => exact_pure _).of_iff
    intro vertex input output
    constructor
    · intro ⟨full, spells, silent⟩
      cases vertex with
      | nil => cases full
      | cons value others =>
        exact ⟨value, _, spelledVertex others, [], [], ⟨rfl, rfl⟩,
          ⟨others, _, [], [], [], ⟨Nat.succ.inj full, rfl, rfl⟩, ⟨rfl, rfl, rfl⟩,
            (List.append_nil _).symm, rfl⟩, spells, silent⟩
    · intro ⟨value, read, left, written, later, ⟨spells, silent⟩,
        ⟨others, rest, more, wrote, last, ⟨full, spelled, mute⟩, ⟨same, unread, quiet⟩, split,
          parted⟩, whole, all⟩
      subst same silent mute unread quiet
      rw [List.append_nil] at split
      refine ⟨congrArg Nat.succ full, ?_, all.trans parted⟩
      rw [whole, spells, split, spelled, spelledVertex, spelledVertex, List.flatMap_cons]

/-- The coordinates of a point are written. -/
theorem means_writeVertex (dtoa : UInt64 → Shortest) (index : Nat) (vertex : List UInt64) :
    Means (fun _ input output => input = [] ∧ output =
      separatedText (lit " ") index (vertex.map fun value => real dtoa value true))
      (writeVertex dtoa index vertex) := by
  induction vertex generalizing index with
  | nil =>
    apply (exact_pure _).of_iff
    intro value input output
    exact ⟨fun given => ⟨rfl, given.1, given.2⟩, fun given => ⟨given.2.1, given.2.2⟩⟩
  | cons value others ih =>
    have lead : Means (fun _ input output =>
        input = [] ∧ output = if 0 < index then lit " " else [])
        (leading (write (lit " ")) index) := exact_leading (exact_write _) index
    apply (exact_bind lead fun _ => (ih (index + 1)).write_before (real dtoa value true)).of_iff
    intro given input output
    constructor
    · intro given
      obtain ⟨unread, shows⟩ := given
      exact ⟨(), [], [], _, _, ⟨rfl, rfl⟩, ⟨_, ⟨rfl, rfl⟩, rfl⟩, unread,
        by rw [shows, List.map_cons, separatedText, List.append_assoc]⟩
    · intro given
      obtain ⟨_, read, left, written, later, ⟨unread, leads⟩, ⟨last, ⟨nothing, shows⟩, wrote⟩,
        split, parted⟩ := given
      subst unread nothing
      exact ⟨split, by rw [parted, leads, wrote, shows, List.map_cons, separatedText,
        List.append_assoc]⟩

/-- A point is a vertex, or empty when none of its coordinates is a number. -/
theorem pointBody_renders (dtoa : UInt64 → Shortest) (parentheses : Bool) (flags : Flags) :
    Renders ⟨FullVertex flags, spelledVertex, textPoint dtoa parentheses⟩
      (pointBody dtoa parentheses flags.dims) := by
  have shown : ∀ vertex : List UInt64, Means (fun _ input output =>
      input = [] ∧ output = textPoint dtoa parentheses vertex)
      (if vertex.all isNan then write (lit "EMPTY") else do
        write (if parentheses then lit "(" else [])
        writeVertex dtoa 0 vertex
        write (if parentheses then lit ")" else [])) := by
    intro vertex
    by_cases empty : vertex.all isNan = true
    · rw [if_pos empty]
      apply (exact_write _).of_iff
      intro value input output
      rw [textPoint, if_pos empty]
    · rw [if_neg empty]
      apply (((means_writeVertex dtoa 0 vertex).write_after _).write_before _).of_iff
      intro value input output
      rw [textPoint, if_neg empty, textVertex, separatedText_zero]
      constructor
      · intro ⟨unread, shows⟩
        refine ⟨_, ⟨_, ⟨unread, rfl⟩, rfl⟩, ?_⟩
        rw [shows]
        cases parentheses with
        | true => exact List.append_assoc _ _ _
        | false => exact (List.append_nil _).symm
      · intro ⟨later, ⟨earlier, ⟨unread, shows⟩, closed⟩, opened⟩
        refine ⟨unread, ?_⟩
        rw [opened, closed, shows]
        cases parentheses with
        | true => exact (List.append_assoc _ _ _).symm
        | false => exact List.append_nil _
  apply (exact_bind (means_readVertex flags.dims) shown).of_iff
  intro value input output
  constructor
  · intro ⟨vertex, full, spells, shows⟩
    exact ⟨vertex, input, [], [], output, ⟨full, spells, rfl⟩, ⟨rfl, shows⟩,
      (List.append_nil _).symm, rfl⟩
  · intro ⟨vertex, read, left, written, later, ⟨full, spells, silent⟩, ⟨unread, shows⟩, split,
      parted⟩
    subst silent unread
    exact ⟨vertex, full, by rw [split, List.append_nil, spells], parted.trans shows⟩

/-- A counted list is the list of its items. -/
theorem sequence_renders {ι : Type} {form : Form ι UInt8 UInt8} {item : Writing Unit}
    (renders : Renders form item) :
    Renders ⟨CountedList form.valid, spelledList form.spelled, textList form.text⟩
      (sequence item) := by
  have counted : ∀ count : UInt32, Means (fun _ input output => ∃ things : List ι,
      things.length = count.toNat ∧ (∀ thing ∈ things, form.valid thing) ∧
      input = things.flatMap form.spelled ∧ output = textList form.text things)
      (if count = 0 then write (lit "EMPTY") else do
        write (lit "(")
        separated (write (lit ", ")) item 0 count.toNat
        write (lit ")")) := by
    intro count
    by_cases zero : count = 0
    · rw [if_pos zero]
      apply (exact_write _).of_iff
      intro value input output
      constructor
      · intro ⟨things, length, _, spells, shows⟩
        rw [zero] at length
        obtain rfl := List.length_eq_zero_iff.mp length
        exact ⟨spells, shows⟩
      · intro ⟨unread, shows⟩
        exact ⟨[], by rw [zero]; rfl, nofun, unread, shows⟩
    · have some_ : ∀ things : List ι, things.length = count.toNat → things.isEmpty = false := by
        intro things length
        cases things with
        | nil =>
          have none : count.toNat = (0 : UInt32).toNat := length.symm
          exact absurd (UInt32.toNat_inj.mp none) zero
        | cons _ _ => rfl
      rw [if_neg zero]
      have items := Means.write_after (lit ")")
        (exact_separated (exact_write (lit ", ")) renders count.toNat 0)
      apply (items.write_before (lit "(")).of_iff
      intro value input output
      simp only [separatedText_zero]
      constructor
      · intro ⟨things, length, valid, spells, shows⟩
        refine ⟨_, ⟨_, ⟨things, length, valid, spells, rfl⟩, rfl⟩, ?_⟩
        rw [shows, textList, some_ things length]
        exact List.append_assoc _ _ _
      · intro ⟨later, ⟨earlier, ⟨things, length, valid, spells, shows⟩, closed⟩, opened⟩
        refine ⟨things, length, valid, spells, ?_⟩
        rw [opened, closed, shows, textList, some_ things length]
        exact (List.append_assoc _ _ _).symm
  apply (exact_bind means_readWord counted).of_iff
  intro value input output
  constructor
  · intro ⟨things, ⟨short, valid⟩, spells, shows⟩
    have back : (UInt32.ofNat things.length).toNat = things.length :=
      UInt32.toNat_ofNat_of_lt' short
    exact ⟨UInt32.ofNat things.length, _, _, [], output, ⟨rfl, rfl⟩,
      ⟨things, back.symm, valid, rfl, shows⟩, by rw [spells, back]; rfl, rfl⟩
  · intro ⟨count, read, left, written, later, ⟨counts, silent⟩,
      ⟨things, length, valid, spells, shows⟩, split, parted⟩
    subst silent
    refine ⟨things, ⟨length ▸ count.toNat_lt, valid⟩, ?_, parted.trans shows⟩
    rw [split, counts, spells, ← length]
    rfl

/-! ## Headers -/

/-- The low half of a header is the remainder by 65536. -/
theorem lowHalf_toNat (metadata : UInt32) :
    (metadata &&& 0x0000FFFF).toNat = metadata.toNat % 65536 := by
  rw [UInt32.toNat_and]
  exact Nat.and_two_pow_sub_one_eq_mod metadata.toNat 16

/-- The switch finds the type whose number a header has. -/
theorem geometryType_eq (metadata : UInt32) (type : GeometryType) :
    geometryType metadata = some type ↔ metadata.toNat % 65536 % 1000 = type.number := by
  have value : ((metadata &&& 0x0000FFFF) % 1000).toNat = metadata.toNat % 65536 % 1000 := by
    rw [UInt32.toNat_mod, lowHalf_toNat]
    rfl
  rw [← value]
  unfold geometryType
  generalize (metadata &&& 0x0000FFFF) % 1000 = kind
  split
  case h_8 one two three four five six seven =>
    apply iff_of_false nofun
    intro same
    cases type with
    | point => exact one (UInt32.toNat_inj.mp same)
    | lineString => exact two (UInt32.toNat_inj.mp same)
    | polygon => exact three (UInt32.toNat_inj.mp same)
    | multiPoint => exact four (UInt32.toNat_inj.mp same)
    | multiLineString => exact five (UInt32.toNat_inj.mp same)
    | multiPolygon => exact six (UInt32.toNat_inj.mp same)
    | geometryCollection => exact seven (UInt32.toNat_inj.mp same)
  all_goals
    cases type <;> decide

/-- The flags of a header are those that it declares. -/
theorem flagsOf_eq (metadata : UInt32) : flagsOf metadata = declaredFlags metadata := by
  have thousands : ((metadata &&& 0x0000FFFF) / 1000).toNat = metadata.toNat % 65536 / 1000 := by
    rw [UInt32.toNat_div, lowHalf_toNat]
    rfl
  have first : ((metadata &&& 0x0000FFFF) / 1000) &&& 0x01 ≠ 0 ↔
      metadata.toNat % 65536 / 1000 % 2 = 1 := by
    rw [Ne, ← UInt32.toNat_inj, UInt32.toNat_and, thousands]
    show ¬(_ &&& 1 = 0) ↔ _
    rw [Nat.and_one_is_mod]
    omega
  have second : ((metadata &&& 0x0000FFFF) / 1000) &&& 0x02 ≠ 0 ↔
      metadata.toNat % 65536 / 1000 / 2 % 2 = 1 := by
    rw [Ne, ← UInt32.toNat_inj, UInt32.toNat_and, thousands]
    show ¬(_ &&& 2 ^ 1 = 0) ↔ _
    rw [Nat.and_two_pow, Nat.testBit_eq_decide_div_mod_eq]
    show ¬(decide (_ / 2 % 2 = 1)).toNat * 2 = 0 ↔ _
    by_cases set : metadata.toNat % 65536 / 1000 / 2 % 2 = 1
    · rw [decide_eq_true set]
      exact iff_of_true (by decide) set
    · rw [decide_eq_false set]
      exact iff_of_false (by decide) set
  rw [flagsOf, declaredFlags]
  simp only [first, second]

/-- A part is its header and its contents. -/
theorem part_renders {ι : Type} {form : Form ι UInt8 UInt8} {body : Writing Unit}
    (flags : Flags) (type : GeometryType) (renders : Renders form body) :
    Renders ⟨PartOf type flags form.valid, spelledPart form.spelled, fun part => form.text part.2⟩
      (part flags type body) := by
  apply (exact_bind means_readHeader fun metadata =>
    Means.check_before (geometryType metadata = some type) "Invalid VARIANT geometry payload"
      (Means.check_before (flags = flagsOf metadata) "Invalid VARIANT geometry payload"
        renders)).of_iff
  intro value input output
  constructor
  · intro ⟨⟨metadata, thing⟩, ⟨⟨number, declared⟩, valid⟩, spells, shows⟩
    exact ⟨metadata, header metadata, form.spelled thing, [], output, ⟨rfl, rfl⟩,
      ⟨(geometryType_eq metadata type).mpr number, (flagsOf_eq metadata ▸ declared).symm, thing,
        valid, rfl, shows⟩, spells, rfl⟩
  · intro ⟨metadata, read, left, written, later, ⟨spells, silent⟩,
      ⟨typed, flagged, thing, valid, spelled, shows⟩, split, parted⟩
    subst silent
    refine ⟨⟨metadata, thing⟩, ⟨⟨(geometryType_eq metadata type).mp typed, ?_⟩, valid⟩, ?_,
      parted.trans shows⟩
    · rw [flagged, flagsOf_eq]
    · rw [split, spells, spelled]
      rfl

/-! ## Trees -/

namespace Wkb

/-- The bytes of geometries are those of each. -/
theorem spelledAll_eq (parts : List Wkb) : spelledAll parts = parts.flatMap spelled := by
  induction parts with
  | nil => rfl
  | cons part rest ih => rw [spelledAll, List.flatMap_cons, ih]

/-- The texts of geometries are those of each. -/
theorem texts_eq (dtoa : UInt64 → Shortest) (parts : List Wkb) :
    texts dtoa parts = parts.map (text dtoa) := by
  induction parts with
  | nil => rfl
  | cons part rest ih => rw [texts, List.map_cons, ih]

/-- All geometries of a list are well formed when each is. -/
theorem allWellFormed_iff (flags : Flags) (parts : List Wkb) :
    AllWellFormed flags parts ↔ ∀ part ∈ parts, WellFormed flags part := by
  induction parts with
  | nil => exact iff_of_true trivial nofun
  | cons part rest ih => rw [AllWellFormed, ih, List.forall_mem_cons]

/-- Parts are in a collection that they are nested one less than. -/
theorem nestingOfParts_lt (parts : List Wkb) (room : Nat) :
    nestingOfParts parts < room + 1 ↔ ∀ part ∈ parts, nesting part < room := by
  induction parts with
  | nil => exact iff_of_true (Nat.succ_pos room) nofun
  | cons part rest ih =>
    rw [nestingOfParts, Nat.max_lt, ih, List.forall_mem_cons, Nat.succ_lt_succ_iff]

/-- A well-formed geometry has a header that declares its type. -/
theorem WellFormed.declares {flags : Flags} {tree : Wkb} (formed : tree.WellFormed flags) :
    Declares tree.metadata tree.type flags := by
  cases tree <;> exact formed.1

end Wkb

/-- Geometry types of one number are equal. -/
theorem GeometryType.number_injective {one other : GeometryType}
    (same : one.number = other.number) : one = other := by
  cases one <;> cases other <;> first | rfl | cases same

/-- The geometries with a header that a number of levels has room for, by the bytes after the
header. -/
def After (dtoa : UInt64 → Shortest) (metadata : UInt32) (room : Nat) (input output : Bytes) :
    Prop :=
  ∃ tree : Wkb, tree.metadata = metadata ∧ tree.WellFormed (declaredFlags metadata) ∧
    tree.nesting < room ∧ tree.spelled = header metadata ++ input ∧ output = tree.text dtoa

/-- A case of the switch renders the geometries of its type when its body renders their contents:
`make` puts the contents under the header. -/
theorem case_renders {ι : Type} {form : Form ι UInt8 UInt8} {body : Writing Unit}
    (dtoa : UInt64 → Shortest) (metadata : UInt32) (room : Nat) (type : GeometryType)
    (declared : metadata.toNat % 65536 % 1000 = type.number) (renders : Renders form body)
    (make : ι → Wkb)
    (made : ∀ thing, (make thing).metadata = metadata ∧
      ((make thing).WellFormed (declaredFlags metadata) ∧ (make thing).nesting < room ↔
        Declares metadata type (declaredFlags metadata) ∧ form.valid thing) ∧
      (make thing).spelled = header metadata ++ form.spelled thing ∧
      (make thing).text dtoa = type.word ++ (declaredFlags metadata).text ++ form.text thing)
    (covers : ∀ tree : Wkb, tree.metadata = metadata → tree.type = type →
      ∃ thing, tree = make thing) :
    Means (fun _ => After dtoa metadata room)
      (do write (type.word ++ (declaredFlags metadata).text); body) := by
  apply (Means.write_before _ renders).of_iff
  intro value input output
  constructor
  · intro ⟨tree, headed, formed, shallow, spells, shows⟩
    have declares := formed.declares
    have typed : tree.type = type := by
      apply GeometryType.number_injective
      rw [← declares.1, headed, declared]
    obtain ⟨thing, rfl⟩ := covers tree headed typed
    obtain ⟨_, valid, bytes, text⟩ := made thing
    rw [bytes] at spells
    exact ⟨_, ⟨thing, (valid.mp ⟨formed, shallow⟩).2, (List.append_cancel_left spells).symm, rfl⟩,
      shows.trans text⟩
  · intro ⟨later, ⟨thing, good, spells, shows⟩, wrote⟩
    obtain ⟨headed, valid, bytes, text⟩ := made thing
    obtain ⟨formed, shallow⟩ := valid.mpr ⟨⟨declared, rfl⟩, good⟩
    exact ⟨make thing, headed, formed, shallow, by rw [bytes, spells], by rw [wrote, shows, text]⟩

/-! ## The recursion -/

/-- The geometries that a number of levels has room for, under a parent with flags. -/
def Inside (room : Nat) (parent : Flags) (tree : Wkb) : Prop :=
  ∃ flags, (maximumDepth - room = 0 ∨ parent = flags) ∧ tree.WellFormed flags ∧ tree.nesting < room

/-- The form of the geometries under a parent. -/
def nested (dtoa : UInt64 → Shortest) (room : Nat) (parent : Flags) : Form Wkb UInt8 UInt8 :=
  ⟨Inside room parent, Wkb.spelled, Wkb.text dtoa⟩

/-- Below the first level, the flags are those of the parent. -/
theorem inside_deeper {room : Nat} (deeper : room < maximumDepth) (parent : Flags) (tree : Wkb) :
    Inside room parent tree ↔ tree.WellFormed parent ∧ tree.nesting < room := by
  constructor
  · intro ⟨flags, under, formed, shallow⟩
    cases under with
    | inl top => omega
    | inr same => exact ⟨same ▸ formed, shallow⟩
  · intro ⟨formed, shallow⟩
    exact ⟨parent, Or.inr rfl, formed, shallow⟩

/-- The switch renders the geometries with the header that is read, when the recursion renders the
parts of a collection. -/
theorem geometryBody_renders (dtoa : UInt64 → Shortest) {room : Nat} (deeper : room < maximumDepth)
    (recursive : Flags → Writing Unit)
    (parts : ∀ parent, Renders (nested dtoa room parent) (recursive parent)) (metadata : UInt32) :
    Means (fun _ => After dtoa metadata (room + 1)) (geometryBody dtoa recursive metadata) := by
  have room_ : 0 < room + 1 := Nat.succ_pos room
  unfold geometryBody
  rw [flagsOf_eq]
  cases typed : geometryType metadata with
  | none =>
    apply (exact_throw (Stop.invalid_harmless _)).of_iff
    intro value input output
    apply iff_of_false _ id
    intro ⟨tree, headed, formed, _⟩
    have number := (geometryType_eq metadata tree.type).mpr (headed ▸ formed.declares.1)
    rw [typed] at number
    cases number
  | some type =>
    have declared := (geometryType_eq metadata type).mp typed
    cases type with
    | point =>
      apply case_renders dtoa metadata (room + 1) .point declared
        (pointBody_renders dtoa true (declaredFlags metadata)) (Wkb.point metadata)
      · exact fun vertex => ⟨rfl, and_iff_left room_, rfl, rfl⟩
      · intro tree headed typed
        cases tree <;> cases typed
        cases headed
        exact ⟨_, rfl⟩
    | lineString =>
      apply case_renders dtoa metadata (room + 1) .lineString declared
        (sequence_renders (vertex_renders dtoa (declaredFlags metadata))) (Wkb.lineString metadata)
      · exact fun vertices => ⟨rfl, and_iff_left room_, rfl, rfl⟩
      · intro tree headed typed
        cases tree <;> cases typed
        cases headed
        exact ⟨_, rfl⟩
    | polygon =>
      apply case_renders dtoa metadata (room + 1) .polygon declared
        (sequence_renders (sequence_renders (vertex_renders dtoa (declaredFlags metadata))))
        (Wkb.polygon metadata)
      · exact fun rings => ⟨rfl, and_iff_left room_, rfl, rfl⟩
      · intro tree headed typed
        cases tree <;> cases typed
        cases headed
        exact ⟨_, rfl⟩
    | multiPoint =>
      apply case_renders dtoa metadata (room + 1) .multiPoint declared
        (sequence_renders (part_renders (declaredFlags metadata) .point
          (pointBody_renders dtoa false (declaredFlags metadata)))) (Wkb.multiPoint metadata)
      · exact fun parts => ⟨rfl, and_iff_left room_, rfl, rfl⟩
      · intro tree headed typed
        cases tree <;> cases typed
        cases headed
        exact ⟨_, rfl⟩
    | multiLineString =>
      apply case_renders dtoa metadata (room + 1) .multiLineString declared
        (sequence_renders (part_renders (declaredFlags metadata) .lineString
          (sequence_renders (vertex_renders dtoa (declaredFlags metadata)))))
        (Wkb.multiLineString metadata)
      · exact fun parts => ⟨rfl, and_iff_left room_, rfl, rfl⟩
      · intro tree headed typed
        cases tree <;> cases typed
        cases headed
        exact ⟨_, rfl⟩
    | multiPolygon =>
      apply case_renders dtoa metadata (room + 1) .multiPolygon declared
        (sequence_renders (part_renders (declaredFlags metadata) .polygon
          (sequence_renders (sequence_renders (vertex_renders dtoa (declaredFlags metadata))))))
        (Wkb.multiPolygon metadata)
      · exact fun parts => ⟨rfl, and_iff_left room_, rfl, rfl⟩
      · intro tree headed typed
        cases tree <;> cases typed
        cases headed
        exact ⟨_, rfl⟩
    | geometryCollection =>
      apply case_renders dtoa metadata (room + 1) .geometryCollection declared
        (sequence_renders (parts (declaredFlags metadata))) (Wkb.geometryCollection metadata)
      · intro collected
        refine ⟨rfl, ?_, ?_, ?_⟩
        · rw [Wkb.WellFormed, Wkb.nesting, Wkb.nestingOfParts_lt, Wkb.allWellFormed_iff]
          show _ ↔ _ ∧ CountedList (Inside room (declaredFlags metadata)) collected
          unfold CountedList
          simp only [inside_deeper deeper, and_assoc, forall_and]
        · rw [Wkb.spelled, Wkb.spelledAll_eq]
          rfl
        · rw [Wkb.text, Wkb.texts_eq]
          rfl
      · intro tree headed typed
        cases tree <;> cases typed
        cases headed
        exact ⟨_, rfl⟩

/-- With a number of levels left, the renderer is exact for the geometries that they have room
for. -/
theorem toStringRecursive_renders (dtoa : UInt64 → Shortest) (room : Nat)
    (deep : room ≤ maximumDepth) (parent : Flags) :
    Renders (nested dtoa room parent) (toStringRecursive dtoa room parent) := by
  induction room generalizing parent with
  | zero =>
    apply (exact_throw (Stop.invalid_harmless _)).of_iff
    intro value input output
    apply iff_of_false _ id
    intro ⟨tree, ⟨flags, _, _, shallow⟩, _⟩
    exact Nat.not_lt_zero _ shallow
  | succ room ih =>
    have deeper : room < maximumDepth := deep
    have body := geometryBody_renders dtoa deeper (toStringRecursive dtoa room)
      (ih (Nat.le_of_lt deeper))
    apply (exact_bind means_readHeader fun metadata => Means.check_before
      (maximumDepth - (room + 1) = 0 ∨ parent = flagsOf metadata)
      "Invalid VARIANT geometry payload" (body metadata)).of_iff
    intro value input output
    constructor
    · intro ⟨tree, ⟨flags, under, formed, shallow⟩, spells, shows⟩
      have declared := formed.declares.2
      obtain ⟨contents, split⟩ : ∃ contents, tree.spelled = header tree.metadata ++ contents := by
        cases tree <;> exact ⟨_, rfl⟩
      refine ⟨tree.metadata, header tree.metadata, contents, [], output, ⟨rfl, rfl⟩,
        ⟨?_, tree, rfl, declared ▸ formed, shallow, split, shows⟩, spells.trans split, rfl⟩
      rw [flagsOf_eq, declared]
      exact under
    · intro ⟨metadata, read, left, written, later, ⟨spells, silent⟩,
        ⟨under, tree, headed, formed, shallow, split, shows⟩, whole, all⟩
      subst silent
      rw [flagsOf_eq] at under
      exact ⟨tree, ⟨declaredFlags metadata, under, formed, shallow⟩,
        by rw [whole, spells]; exact split.symm, all.trans shows⟩

/-- A geometry is rendered exactly when the bytes are one well-formed geometry, nested fewer than 64
deep, with nothing before, between or after; then all bytes are read and the text is its text. No
read leaves the bytes. -/
theorem geometry_exact (dtoa : UInt64 → Shortest) (region : Region) :
    geometry dtoa region.bytes ≠ .error .outside ∧
    ∀ text, geometry dtoa region.bytes = .ok text ↔
      ∃ (tree : Wkb) (flags : Flags), tree.WellFormed flags ∧ tree.nesting < 64 ∧
        region.bytes = tree.spelled ∧ text = tree.text dtoa := by
  have start := of_sound region
  obtain ⟨harmless, given⟩ := toStringRecursive_renders dtoa maximumDepth (Nat.le_refl _)
    ⟨false, false⟩ ⟨Reader.of region.bytes, []⟩ start
  -- A tree that spells the bytes is rendered, and the reader is then at the end.
  have rendered : ∀ (tree : Wkb) (flags : Flags), tree.WellFormed flags → tree.nesting < 64 →
      region.bytes = tree.spelled →
      toStringRecursive dtoa maximumDepth ⟨false, false⟩ ⟨Reader.of region.bytes, []⟩ =
        .ok ((), ⟨(Reader.of region.bytes).advanced region.bytes.length, tree.text dtoa⟩) := by
    intro tree flags formed shallow spells
    rw [given]
    exact ⟨region.bytes, _, ⟨tree, ⟨flags, Or.inl rfl, formed, shallow⟩, spells, rfl⟩,
      ⟨rfl, List.prefix_refl _, rfl⟩, rfl⟩
  unfold geometry
  cases ran : toStringRecursive dtoa maximumDepth ⟨false, false⟩ ⟨Reader.of region.bytes, []⟩ with
  | error stop =>
    refine ⟨fun stopped => harmless stop ran (Except.error.inj stopped), ?_⟩
    intro text
    apply iff_of_false nofun
    intro ⟨tree, flags, formed, shallow, spells, _⟩
    have done := rendered tree flags formed shallow spells
    rw [ran] at done
    cases done
  | ok pair =>
    obtain ⟨⟨⟩, scan⟩ := pair
    obtain ⟨input, output, ⟨tree, ⟨flags, _, formed, shallow⟩, spells, shows⟩, moved⟩ :=
      (given () scan).mp ran
    obtain ⟨⟨_, before, last⟩, wrote⟩ := moved
    have sound : scan.reader.Sound := by
      rw [last]
      exact start.advanced before.length_le
    have remaining := sound.remaining_toNat
    have left : scan.reader.rest = region.bytes.drop input.length := by
      rw [last, start.advanced_rest before.length_le, of_rest]
    show (if scan.reader.remaining ≠ 0 then Except.error _ else Except.ok scan.buffer) ≠ _ ∧
      ∀ text, (if scan.reader.remaining ≠ 0 then Except.error _ else Except.ok scan.buffer) = _ ↔ _
    by_cases trailing : scan.reader.remaining ≠ 0
    · rw [if_pos trailing]
      refine ⟨nofun, ?_⟩
      intro text
      apply iff_of_false nofun
      intro ⟨other, marks, well, flat, same, _⟩
      have done := rendered other marks well flat same
      rw [ran] at done
      have ending := congrArg Scan.reader (Prod.mk.inj (Except.ok.inj done)).2
      apply trailing
      rw [← UInt64.toNat_inj, remaining, ending]
      show ((Reader.of region.bytes).advanced (Reader.of region.bytes).rest.length).rest.length = 0
      rw [start.advanced_rest (Nat.le_refl _), List.drop_length]
      rfl
    · rw [if_neg trailing]
      have all : region.bytes = input := by
        obtain ⟨tail, whole⟩ := before
        rw [of_rest] at whole
        rw [← whole, List.drop_left] at left
        rw [Decidable.not_not.mp trailing, left] at remaining
        have empty : tail = [] := List.length_eq_zero_iff.mp remaining.symm
        rw [← whole, empty, List.append_nil]
      refine ⟨nofun, ?_⟩
      intro text
      constructor
      · intro same
        refine ⟨tree, flags, formed, shallow, all.trans spells, ?_⟩
        rw [← Except.ok.inj same, wrote, shows]
        rfl
      · intro ⟨other, marks, well, flat, same, shown⟩
        have done := rendered other marks well flat same
        rw [ran] at done
        have ending := congrArg Scan.buffer (Prod.mk.inj (Except.ok.inj done)).2
        rw [ending, shown]

end PhpDuckdb.Variant
