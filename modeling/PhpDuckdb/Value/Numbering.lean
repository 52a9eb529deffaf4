import PhpDuckdb.Value.Builder

/-!
# Placeholders of a typed conversion

Whatever the builder writes shows the positional parameters that it collected, each once: their
numbers follow those of the parameters collected before, and each stands where its own value was
converted.
-/

namespace PhpDuckdb.Value

open SqlText Lockstep

/-! ## Fixed text -/

/-- A word and an opening parenthesis may stand before anything. -/
theorem opens_call (name : Bytes) (valid : (Piece.word name).Valid) : Opens (name ++ [40]) :=
  (shows_piece (.word name) valid).opens (.mark 40) (by decide) rfl

/-- A comma and a space may stand before anything. -/
theorem opens_comma : Opens (lit ", ") :=
  (opens_loose (.mark 44) (by decide) rfl).append (opens_loose .space trivial rfl)

/-- A piece ends before a comma and a space. -/
theorem stops_comma (rest : Bytes) : Stops (lit ", " ++ rest) := (by decide : breaks 44 = true)

/-- `:=` and the spaces around it may stand before anything. -/
theorem opens_assign : Opens (lit " := ") :=
  ((opens_loose .space trivial rfl).append (opens_loose (.mark 58) (by decide) rfl)).append
    ((opens_loose (.mark 61) (by decide) rfl).append (opens_loose .space trivial rfl))

/-- A piece ends before `:=` and the spaces around it. -/
theorem stops_assign (rest : Bytes) : Stops (lit " := " ++ rest) := (by decide : breaks 32 = true)

/-- `AS` and the spaces around it may stand before anything. -/
theorem opens_as : Opens (lit " AS ") :=
  (opens_loose .space trivial rfl).append
    ((shows_piece (.word (lit "AS")) (by decide)).opens .space trivial rfl)

/-- A closing parenthesis shows no parameter. -/
theorem shows_close : Shows (lit ")") [] := ⟨_, rfl, rfl⟩

/-- A piece ends before a closing parenthesis. -/
theorem stops_close : Stops (lit ")") := (by decide : breaks 41 = true)

/-- The code of a decimal digit lies between those of 0 and 9 and fits a byte. -/
theorem digit_code {char : Char} (digit : char.isDigit = true) :
    48 ≤ char.toNat ∧ char.toNat ≤ 57 ∧ (UInt8.ofNat char.toNat).toNat = char.toNat := by
  simp only [Char.isDigit, Bool.and_eq_true, decide_eq_true_eq, ge_iff_le, UInt32.le_iff_toNat_le]
    at digit
  have low : 48 ≤ char.toNat := digit.1
  have high : char.toNat ≤ 57 := digit.2
  refine ⟨low, high, ?_⟩
  simp only [UInt8.toNat_ofNat']
  omega

/-- A decimal digit is one byte. -/
theorem digit_byte {char : Char} (digit : char.isDigit = true) :
    isDigit (UInt8.ofNat char.toNat) = true ∧ Char.ofNat (UInt8.ofNat char.toNat).toNat = char := by
  obtain ⟨low, high, small⟩ := digit_code digit
  have above : (48 : UInt8) ≤ UInt8.ofNat char.toNat := by
    simpa [UInt8.le_iff_toNat_le, small] using low
  have below : UInt8.ofNat char.toNat ≤ (57 : UInt8) := by
    simpa [UInt8.le_iff_toNat_le, small] using high
  exact ⟨by simp [isDigit, above, below], by rw [small, Char.ofNat_toNat]⟩

/-- The digits of a number are digits. -/
theorem decimal_digits (number : Nat) :
    decimal number ≠ [] ∧ ∀ byte ∈ decimal number, isDigit byte = true := by
  refine ⟨by simp [decimal, Nat.toDigits_ne_nil], ?_⟩
  intro byte found
  obtain ⟨char, digit, rfl⟩ := List.mem_map.mp found
  exact (digit_byte (Nat.isDigit_of_mem_toDigits (by decide) (by decide) digit)).1

/-- Two numbers with the same decimal digits are equal. -/
theorem decimal_injective {first second : Nat} (same : decimal first = decimal second) :
    first = second := by
  have back (number : Nat) :
      (decimal number).map (fun byte => Char.ofNat byte.toNat) = Nat.toDigits 10 number := by
    rw [decimal, List.map_map]
    refine (List.map_congr_left fun char digit => ?_).trans (List.map_id _)
    exact (digit_byte (Nat.isDigit_of_mem_toDigits (by decide) (by decide) digit)).2
  have digits : Nat.toDigits 10 first = Nat.toDigits 10 second := by
    rw [← back first, same, back second]
  have value := congrArg (fun chars => Nat.ofDigitChars 10 chars 0) digits
  simpa only [Nat.ofDigitChars_ten_toDigits] using value

/-- A parameter shows the digits of its number. -/
theorem shows_decimal (index : Nat) : Shows (36 :: decimal index) [decimal index] :=
  shows_piece (.placeholder (decimal index)) (decimal_digits index)

/-- A quoted region shows no parameter. -/
theorem shows_quoted (quote : UInt8) (opens : isQuote quote = true) (name : Bytes) :
    Shows (quoted quote name) [] :=
  shows_piece (.quoted quote name) opens

/-! ## Type texts -/

/-- A canonical declaration shows no parameter. -/
theorem CanonicalType.shows (type : CanonicalType) : Shows type.text [] := by
  obtain ⟨declaration, accepted⟩ := type.canonical
  obtain ⟨pieces, interpolates⟩ := Types.canonical_interpolates accepted
  refine ⟨pieces, interpolates.closed, List.filterMap_eq_nil_iff.mpr ?_⟩
  intro piece found
  have confined := interpolates.confined piece found
  cases piece with
  | placeholder digits => exact confined.elim
  | word text => rfl
  | number digits => rfl
  | quoted quote text => rfl
  | space => rfl
  | mark byte => rfl

/-- The name of a plain type shows no parameter. -/
theorem shows_plainSql (id : TypeId) (alias_ : Option Bytes) : Shows (plainSql id alias_) [] := by
  have named (id : TypeId) : Shows (lit id.name) [] := by
    cases id with
    | unknown other => exact (⟨_, rfl, rfl⟩ : Shows (lit "UNKNOWN") [])
    | _ => exact ⟨_, rfl, rfl⟩
  have json : Shows (lit "JSON") [] := ⟨_, rfl, rfl⟩
  unfold plainSql
  split
  · exact ⟨_, rfl, rfl⟩
  · exact ⟨_, rfl, rfl⟩
  · split
    · exact json
    · exact named _

/-- A number in a type shows nothing. -/
theorem shows_number (number : Nat) : Shows (decimal number) [] :=
  shows_piece (.number (decimal number)) (decimal_digits number)

/-- The labels of an ENUM show nothing. -/
theorem shows_quotedLabels : ∀ labels, Shows (quotedLabels labels) []
  | [] => shows_nil
  | [label] => shows_quoted 39 (by decide) label
  | label :: second :: rest =>
    (shows_quoted 39 (by decide) label).between opens_comma (stops_comma _)
      (shows_quotedLabels (second :: rest))

mutual

/-- The text of a type shows nothing. -/
theorem shows_sqlType : ∀ {room : Nat} {type : LogicalType} {text : Bytes},
    sqlType room type = .ok text → Shows text []
  | 0, type, text, run => by simp [sqlType] at run
  | room + 1, .plain id alias_, text, run => by
    obtain rfl := Except.ok.inj run
    exact shows_plainSql id alias_
  | room + 1, .decimal width scale, text, run => by
    obtain rfl := Except.ok.inj run
    have comma : Opens (lit ",") := opens_loose (.mark 44) (by decide) rfl
    have stops : Stops (lit "," ++ decimal scale) := (by decide : breaks 44 = true)
    have call : Opens (lit "DECIMAL(") := opens_call (lit "DECIMAL") (by decide)
    have inner := (shows_number width).between comma stops (shows_number scale)
    simpa only [List.append_assoc, List.append_nil] using inner.enclosed call stops_close shows_close
  | room + 1, .enum labels, text, run => by
    obtain rfl := Except.ok.inj run
    exact (shows_quotedLabels labels).enclosed (opens_call (lit "ENUM") (by decide))
      stops_close shows_close
  | room + 1, .geometry none, text, run => by
    obtain rfl := Except.ok.inj run
    exact ⟨_, rfl, rfl⟩
  | room + 1, .geometry (some crs), text, run => by
    obtain rfl := Except.ok.inj run
    have call : Opens (lit "GEOMETRY(") := opens_call (lit "GEOMETRY") (by decide)
    exact (shows_quoted 39 (by decide) crs).enclosed call stops_close shows_close
  | room + 1, .list child, text, run => by
    obtain ⟨inner, nested, same⟩ := Outcome.bind_eq_ok.mp run
    obtain rfl := Except.ok.inj same
    exact (shows_sqlType nested).append (by exact (by decide : breaks 91 = true)) ⟨_, rfl, rfl⟩
  | room + 1, .array child size, text, run => by
    obtain ⟨inner, nested, same⟩ := Outcome.bind_eq_ok.mp run
    obtain rfl := Except.ok.inj same
    have opens : Opens (lit "[") := opens_loose (.mark 91) (by decide) rfl
    have closes : Stops (lit "]") := (by decide : breaks 93 = true)
    have suffix := (shows_number size).enclosed opens closes ⟨_, rfl, rfl⟩
    simpa only [List.append_assoc, List.append_nil] using
      (shows_sqlType nested).append (by exact (by decide : breaks 91 = true)) suffix
  | room + 1, .map key value, text, run => by
    obtain ⟨first, nested, more⟩ := Outcome.bind_eq_ok.mp run
    obtain ⟨second, also, same⟩ := Outcome.bind_eq_ok.mp more
    obtain rfl := Except.ok.inj same
    have call : Opens (lit "MAP(") := opens_call (lit "MAP") (by decide)
    have inner := (shows_sqlType nested).between opens_comma (stops_comma _) (shows_sqlType also)
    simpa only [List.append_assoc, List.append_nil] using inner.enclosed call stops_close shows_close
  | room + 1, .struct members, text, run => by
    obtain ⟨inner, nested, same⟩ := Outcome.bind_eq_ok.mp run
    obtain rfl := Except.ok.inj same
    exact (shows_sqlMembers nested).1.enclosed (opens_call (lit "STRUCT") (by decide))
      stops_close shows_close
  | room + 1, .union members, text, run => by
    obtain ⟨inner, nested, same⟩ := Outcome.bind_eq_ok.mp run
    obtain rfl := Except.ok.inj same
    exact (shows_sqlMembers nested).1.enclosed (opens_call (lit "UNION") (by decide))
      stops_close shows_close

/-- The members of a type show nothing. -/
theorem shows_sqlMembers : ∀ {room : Nat} {members : Members} {first : Bool} {text : Bytes},
    sqlMembers room members first = .ok text → Shows text [] ∧ (first = false → Stops text)
  | room, .nil, first, text, run => by
    obtain rfl := Except.ok.inj run
    exact ⟨shows_nil, fun _ => trivial⟩
  | room, .cons name type rest, first, text, run => by
    obtain ⟨field, nested, more⟩ := Outcome.bind_eq_ok.mp run
    obtain ⟨fields, also, same⟩ := Outcome.bind_eq_ok.mp more
    obtain rfl := Except.ok.inj same
    have space : Opens (lit " ") := opens_loose .space trivial rfl
    have stops : Stops (lit " " ++ field) := (by decide : breaks 32 = true)
    have named := (shows_quoted 34 (by decide) name).between space stops (shows_sqlType nested)
    obtain ⟨others, loose⟩ := shows_sqlMembers also
    have both := named.append (loose rfl) others
    cases first with
    | true => exact ⟨both, by simp⟩
    | false =>
      rw [List.append_assoc]
      exact ⟨opens_comma _ _ both, fun _ => stops_comma _⟩

end

/-! ## Shown parameters -/

@[simp]
theorem Text.bytes_nil : Text.bytes [] = [] := rfl

@[simp]
theorem Text.bytes_append (first second : Text) :
    Text.bytes (first ++ second) = first.bytes ++ second.bytes :=
  List.flatMap_append

@[simp]
theorem Text.bytes_text (bytes : Bytes) : Text.bytes [.text bytes] = bytes :=
  List.append_nil bytes

@[simp]
theorem Text.bytes_param (index : Nat) (value : DuckValue) :
    Text.bytes [.param index value] = 36 :: decimal index :=
  List.append_nil (36 :: decimal index)

@[simp]
theorem Text.bytes_sql (text : String) : (sql text).bytes = lit text := Text.bytes_text _

@[simp]
theorem Text.bytes_quote (name : Bytes) : (quote name).bytes = quoted 34 name :=
  Text.bytes_text _

@[simp]
theorem Text.parameters_nil : Text.parameters [] = [] := rfl

@[simp]
theorem Text.parameters_append (first second : Text) :
    Text.parameters (first ++ second) = first.parameters ++ second.parameters :=
  List.filterMap_append

@[simp]
theorem Text.parameters_text (bytes : Bytes) : Text.parameters [.text bytes] = [] := rfl

@[simp]
theorem Text.parameters_param (index : Nat) (value : DuckValue) :
    Text.parameters [.param index value] = [(index, value)] := rfl

@[simp]
theorem Text.parameters_sql (text : String) : (sql text).parameters = [] := rfl

@[simp]
theorem Text.parameters_quote (name : Bytes) : (quote name).parameters = [] := rfl

@[simp]
theorem Text.parameters_separator (first : Bool) : (separator first).parameters = [] := by
  cases first <;> rfl

@[simp]
theorem Text.parameters_cast (s : Text) (t : Bytes) : (cast s t).parameters = s.parameters := by
  simp [cast]

/-- The bytes of a cast are those of a cast of the bytes. -/
@[simp]
theorem Text.bytes_cast (s : Text) (t : Bytes) : (cast s t).bytes = Types.cast s.bytes t := by
  simp [cast, Types.cast]

/-- The positional parameters of a text are those that it was built with. -/
def Text.Shown (text : Text) : Prop :=
  Shows text.bytes (text.parameters.map fun parameter => decimal parameter.1)

/-- A loop's text is shown, and it begins with a separator unless it is the first. -/
structure Text.Listed (text : Text) (first : Bool) : Prop where
  /-- Its parameters are shown. -/
  shown : text.Shown
  /-- A piece ends before it. -/
  stops : first = false → Stops text.bytes

/-- A loop without turns lists no parameter. -/
theorem Text.listed_nil (first : Bool) : Text.Listed [] first := ⟨shows_nil, fun _ => trivial⟩

/-- A turn of a loop: its own text and the rest. -/
theorem Text.Shown.listed {element others : Text} (shown : element.Shown)
    (listed : others.Listed false) (first : Bool) :
    Text.Listed (separator first ++ element ++ others) first := by
  have both : Text.Shown (element ++ others) := by
    have joined := Shows.append shown (listed.stops rfl) listed.shown
    simpa [Text.Shown] using joined
  rw [List.append_assoc]
  cases first with
  | true => exact ⟨both, by simp⟩
  | false =>
    refine ⟨?_, fun _ => ?_⟩
    · simpa [Text.Shown, separator] using opens_comma _ _ both
    · simpa [separator] using stops_comma _

/-- A text is shown inside the parentheses of a call. -/
theorem Text.Shown.call {text : Text} (shown : text.Shown) {name : String}
    (opens : Opens (lit name)) : Text.Shown (sql name ++ text ++ sql ")") := by
  simpa [Text.Shown] using Shows.enclosed shown opens stops_close shows_close

/-- A cast to a type that shows nothing. -/
theorem Text.Shown.cast {s : Text} (shown : s.Shown) {t : Bytes} (declared : Shows t []) :
    (cast s t).Shown := by
  have call : Opens (lit "CAST(") := opens_call (lit "CAST") (by decide)
  have right : Shows (lit " AS " ++ t ++ lit ")") [] :=
    declared.enclosed opens_as stops_close shows_close
  have stops : Stops (lit " AS " ++ t ++ lit ")") := (by decide : breaks 32 = true)
  simpa [Text.Shown, Types.cast] using Shows.enclosed shown call stops right

/-- A text is shown as the value of a named argument. -/
theorem Text.Shown.named {field : Text} (shown : field.Shown) (name : Bytes) :
    Text.Shown (quote name ++ sql " := " ++ field) := by
  have both := (shows_quoted 34 (by decide) name).between opens_assign (stops_assign _) shown
  simpa [Text.Shown] using both

/-- The text before the elements of a list opens one parenthesis. -/
theorem opens_listValue : Opens (lit "list_value(") :=
  opens_call (lit "list_value") (by decide)

/-- The text before the fields of a STRUCT opens one parenthesis. -/
theorem opens_structPack : Opens (lit "struct_pack(") :=
  opens_call (lit "struct_pack") (by decide)

/-! ## Numbered parameters -/

/-- What a step of the builder does to the collected values, given the parameters of its text. -/
structure Numbered (before : Builder) (parameters : List (Nat × DuckValue)) (after : Builder) :
    Prop where
  /-- Values that were collected before stay where they are. -/
  kept : before.params <+: after.params
  /-- The numbers of the new values stand in the text, each once. -/
  once : (parameters.map Prod.fst).Perm
    (List.range' (before.params.length + 1) (after.params.length - before.params.length))
  /-- Every parameter stands for the value that it was returned for. -/
  stands : ∀ index value, (index, value) ∈ parameters → after.params[index - 1]? = some value

/-- A step that collects nothing numbers nothing. -/
theorem numbered_refl {before after : Builder} (same : after.params = before.params) :
    Numbered before [] after := by
  exact ⟨same ▸ List.prefix_rfl, by simp [same], by simp⟩

/-- Two steps number what the first collects and then what the second does. -/
theorem Numbered.trans {before middle after : Builder} {one two : List (Nat × DuckValue)}
    (first : Numbered before one middle) (second : Numbered middle two after) :
    Numbered before (one ++ two) after := by
  have earlier := first.kept.length_le
  have later := second.kept.length_le
  refine ⟨first.kept.trans second.kept, ?_, ?_⟩
  · have joined := first.once.append second.once
    have range : List.range' (before.params.length + 1)
          (middle.params.length - before.params.length) ++
        List.range' (middle.params.length + 1) (after.params.length - middle.params.length) =
        List.range' (before.params.length + 1)
          (after.params.length - before.params.length) := by
      have start : middle.params.length + 1 =
          before.params.length + 1 + (middle.params.length - before.params.length) := by omega
      rw [start, List.range'_append_1]
      congr 1
      omega
    rw [← range, List.map_append]
    exact joined
  · intro index value found
    rcases List.mem_append.mp found with early | late
    · obtain ⟨more, same⟩ := second.kept
      have known := first.stands index value early
      have inside := (List.getElem?_eq_some_iff.mp known).1
      rw [← same, List.getElem?_append_left inside, known]
    · exact second.stands index value late

/-- The order of the parameters in the text does not matter. -/
theorem Numbered.perm {before after : Builder} {one two : List (Nat × DuckValue)}
    (numbered : Numbered before one after) (perm : one.Perm two) : Numbered before two after :=
  ⟨numbered.kept, (perm.map Prod.fst).symm.trans numbered.once,
    fun index value found => numbered.stands index value (perm.mem_iff.mpr found)⟩

/-- A parameter is numbered by the values before it. -/
theorem numbered_parameter (before : Builder) (value : DuckValue) :
    Numbered before [(before.params.length + 1, value)]
      { before with params := before.params ++ [value] } := by
  refine ⟨List.prefix_append _ _, by simp, ?_⟩
  intro index stored found
  obtain ⟨rfl, rfl⟩ := Prod.mk.inj (List.mem_singleton.mp found)
  simp

/-- The builder's step writes a text that shows the parameters that it collects. -/
def Writes (before : Builder) (text : Text) (after : Builder) : Prop :=
  Numbered before text.parameters after ∧ text.Shown

/-- What a loop of the builder writes. -/
def WritesList (first : Bool) (before : Builder) (text : Text) (after : Builder) : Prop :=
  Numbered before text.parameters after ∧ text.Listed first

/-- A step of the builder that collects no parameter. -/
def Silent {α : Type} (before : Builder) (_ : α) (after : Builder) : Prop :=
  after.params = before.params

/-! ## The parts of the builder -/

/-- `parameter` writes the number under which it collects its value. -/
theorem parameter_writes (converted : Except (Option Thrown) DuckValue) :
    Ensures (parameter converted) Writes := by
  cases converted with
  | error pending => exact ensures_fail _ _
  | ok value =>
    intro before text after run
    obtain ⟨rfl, rfl⟩ := Prod.mk.inj (Except.ok.inj run)
    refine ⟨by simpa using numbered_parameter before value, ?_⟩
    simpa [Text.Shown] using shows_decimal (before.params.length + 1)

/-- `shape` passes only when its check does, and writes nothing. -/
theorem shape_ensures (ok : Bool) (message : String) :
    Ensures (shape ok message) fun before _ after => ok = true ∧ Silent before () after := by
  cases ok with
  | false => exact ensures_fail _ _
  | true => exact (ensures_pure ()).weaken fun _ _ _ same => ⟨rfl, congrArg _ same.2⟩

/-- A shape that is refused ends the conversion. -/
theorem refused_ensures {α : Type} (message : String) (rest : Build α)
    (effect : Builder → α → Builder → Prop) :
    Ensures (do shape false message; rest) effect := by
  intro before result after run
  obtain ⟨_, _, refused, _⟩ := bind_ok run
  have wrong := (shape_ensures false message _ _ _ refused).1
  simp at wrong

/-- `sql_type` writes nothing, and its text shows nothing. -/
theorem sqlText_ensures (type : LogicalType) :
    Ensures (sqlText type) fun before text after => Shows text [] ∧ Silent before text after := by
  unfold sqlText
  cases typed : sqlType 65 type with
  | error what => exact ensures_fail (Failure.mk none what) _
  | ok text =>
    refine (ensures_pure text).weaken fun before result after same => ?_
    obtain ⟨rfl, rfl⟩ := same
    exact ⟨shows_sqlType typed, rfl⟩

/-- `resolve` writes no parameter and collects no value. -/
theorem resolve_ensures (native : Native) (type : Bytes) :
    Ensures (resolve native type) Silent := by
  intro before metadata after run
  unfold resolve at run
  split at run
  · obtain ⟨rfl, rfl⟩ := Prod.mk.inj (Except.ok.inj run)
    rfl
  · split at run
    · simp at run
    · split at run <;>
      · obtain ⟨rfl, rfl⟩ := Prod.mk.inj (Except.ok.inj run)
        rfl

/-- Silent steps before and after leave the numbers alone. -/
theorem Numbered.silent {α : Type} {before middle after : Builder} {value : α}
    {parameters : List (Nat × DuckValue)} (numbered : Numbered middle parameters after)
    (silent : Silent before value middle) : Numbered before parameters after := by
  simpa using (numbered_refl silent).trans numbered

/-- Silent steps after leave the numbers alone. -/
theorem Numbered.then_silent {α : Type} {before middle after : Builder} {value : α}
    {parameters : List (Nat × DuckValue)} (numbered : Numbered before parameters middle)
    (silent : Silent middle value after) : Numbered before parameters after := by
  simpa using numbered.trans (numbered_refl silent)

/-- What the expression of a value at a declared type has to write. -/
def WritesTyped (expression : Zval → LogicalType → Bytes → Build Text) : Prop :=
  ∀ value type declared, Shows declared [] → Ensures (expression value type declared) Writes

/-- The elements of an array write their parameters in order. -/
theorem packed_writes {expression : Zval → Build Text}
    (writes : ∀ value, Ensures (expression value) Writes) (list : Bool) :
    ∀ (first : Bool) (elements : Elements),
      Ensures (packed expression list first elements) (WritesList first)
  | first, .nil => (ensures_pure []).weaken fun before text after same => by
    obtain ⟨rfl, rfl⟩ := same
    exact ⟨numbered_refl rfl, Text.listed_nil first⟩
  | first, .cons key value rest => by
    intro before text after run
    obtain ⟨element, middle, head, more⟩ := bind_ok run
    obtain ⟨others, last, tail, done⟩ := bind_ok more
    obtain ⟨rfl, rfl⟩ := Prod.mk.inj (Except.ok.inj done)
    obtain ⟨numbered, shown⟩ := writes value before element middle head
    obtain ⟨later, listed⟩ := packed_writes writes list false rest middle others last tail
    cases list with
    | true => exact ⟨by simpa using numbered.trans later, by simpa using shown.listed listed first⟩
    | false =>
      refine ⟨by simpa using numbered.trans later, ?_⟩
      simpa only [Bool.false_eq_true, if_false, List.append_assoc] using
        (shown.named key.packName).listed listed first

/-- The elements of a LIST or an ARRAY write their parameters in order. -/
theorem items_writes {expression : Zval → Build Text}
    (writes : ∀ value, Ensures (expression value) Writes) :
    ∀ (first : Bool) (elements : Elements),
      Ensures (items expression first elements) (WritesList first)
  | first, .nil => (ensures_pure []).weaken fun before text after same => by
    obtain ⟨rfl, rfl⟩ := same
    exact ⟨numbered_refl rfl, Text.listed_nil first⟩
  | first, .cons key value rest => by
    intro before text after run
    obtain ⟨element, middle, head, more⟩ := bind_ok run
    obtain ⟨others, last, tail, done⟩ := bind_ok more
    obtain ⟨rfl, rfl⟩ := Prod.mk.inj (Except.ok.inj done)
    obtain ⟨numbered, shown⟩ := writes value before element middle head
    obtain ⟨later, listed⟩ := items_writes writes false rest middle others last tail
    exact ⟨by simpa using numbered.trans later, shown.listed listed first⟩

/-- The fields of a STRUCT write their parameters in order. -/
theorem fields_writes {expression : Zval → LogicalType → Bytes → Build Text}
    (writes : WritesTyped expression) (elements : Elements) :
    ∀ (first : Bool) (members : Members),
      Ensures (fields expression elements first members) (WritesList first)
  | first, .nil => (ensures_pure []).weaken fun before text after same => by
    obtain ⟨rfl, rfl⟩ := same
    exact ⟨numbered_refl rfl, Text.listed_nil first⟩
  | first, .cons name type rest => by
    intro before text after run
    rw [fields] at run
    cases looked : elements.find (symKey name) with
    | none =>
      rw [looked] at run
      exact refused_ensures _ _ _ _ _ _ run
    | some value =>
      rw [looked] at run
      obtain ⟨declared, start, named, more⟩ := bind_ok run
      obtain ⟨field, middle, head, more⟩ := bind_ok more
      obtain ⟨others, last, tail, done⟩ := bind_ok more
      obtain ⟨rfl, rfl⟩ := Prod.mk.inj (Except.ok.inj done)
      obtain ⟨shows_, silent⟩ := sqlText_ensures type _ _ _ named
      obtain ⟨numbered, shown⟩ := writes value type declared shows_ _ _ _ head
      obtain ⟨later, listed⟩ := fields_writes writes elements false rest _ _ _ tail
      exact ⟨by simpa using (numbered.silent silent).trans later,
        (shown.named name).listed listed first⟩

/-- What the loop over the entries of a MAP writes: both of its lists together. -/
def WritesEntries (first : Bool) (before : Builder) (texts : Text × Text) (after : Builder) :
    Prop :=
  Numbered before (texts.1.parameters ++ texts.2.parameters) after ∧
    texts.1.Listed first ∧ texts.2.Listed first

/-- The entries of a MAP write the parameters of their keys and of their values. -/
theorem entries_writes {expression : Zval → LogicalType → Bytes → Build Text}
    (writes : WritesTyped expression) (key value : LogicalType) :
    ∀ (first : Bool) (elements : Elements),
      Ensures (entries expression key value first elements) (WritesEntries first)
  | first, .nil => (ensures_pure ([], [])).weaken fun before texts after same => by
    obtain ⟨rfl, rfl⟩ := same
    exact ⟨numbered_refl rfl, Text.listed_nil first, Text.listed_nil first⟩
  | first, .cons index entry rest => by
    intro before texts after run
    rw [entries] at run
    obtain ⟨_, checked, shaped, run⟩ := bind_ok run
    have quiet := (shape_ensures _ _ _ _ _ shaped).2
    cases keyFound : entry.deref.elements.find (.name (lit "key")) with
    | none =>
      simp only [keyFound] at run
      exact refused_ensures _ _ _ _ _ _ run
    | some k =>
      cases valueFound : entry.deref.elements.find (.name (lit "value")) with
      | none =>
        simp only [keyFound, valueFound] at run
        exact refused_ensures _ _ _ _ _ _ run
      | some v =>
        simp only [keyFound, valueFound] at run
        obtain ⟨keyDeclared, afterKey, keyNamed, run⟩ := bind_ok run
        obtain ⟨keyText, keyDone, keyRun, run⟩ := bind_ok run
        obtain ⟨valueDeclared, afterValue, valueNamed, run⟩ := bind_ok run
        obtain ⟨valueText, valueDone, valueRun, run⟩ := bind_ok run
        obtain ⟨⟨keys, vals⟩, last, tail, done⟩ := bind_ok run
        obtain ⟨rfl, rfl⟩ := Prod.mk.inj (Except.ok.inj done)
        obtain ⟨keyShows, keySilent⟩ := sqlText_ensures key _ _ _ keyNamed
        obtain ⟨valueShows, valueSilent⟩ := sqlText_ensures value _ _ _ valueNamed
        obtain ⟨keyNumbered, keyShown⟩ := writes k key _ keyShows _ _ _ keyRun
        obtain ⟨valueNumbered, valueShown⟩ := writes v value _ valueShows _ _ _ valueRun
        obtain ⟨later, keysListed, valsListed⟩ :=
          entries_writes writes key value false rest _ _ _ tail
        refine ⟨?_, keyShown.listed keysListed first, valueShown.listed valsListed first⟩
        have all := ((keyNumbered.silent keySilent).silent quiet).trans
          ((valueNumbered.silent valueSilent).trans later)
        refine all.perm ?_
        have swap := List.perm_append_comm_assoc valueText.parameters keys.parameters
          vals.parameters
        simpa using swap.append_left keyText.parameters

/-- The value of a UNION writes the parameters of its payload. -/
theorem unionValue_writes {expression : Zval → LogicalType → Bytes → Build Text}
    (writes : WritesTyped expression) (tag : Bytes) (payload : Zval) (members : Members) :
    Ensures (unionValue expression tag payload members) Writes := by
  cases members with
  | nil => exact refused_ensures _ _ _
  | cons name type rest =>
    intro before text after run
    rw [unionValue] at run
    split at run
    · obtain ⟨declared, start, named, more⟩ := bind_ok run
      obtain ⟨value, middle, head, done⟩ := bind_ok more
      obtain ⟨rfl, rfl⟩ := Prod.mk.inj (Except.ok.inj done)
      obtain ⟨shows_, silent⟩ := sqlText_ensures type _ _ _ named
      obtain ⟨numbered, shown⟩ := writes payload type declared shows_ _ _ _ head
      have call : Opens (lit "union_value(") :=
        opens_call (lit "union_value") (by decide)
      refine ⟨by simpa using numbered.silent silent, ?_⟩
      simpa only [List.append_assoc] using (shown.named name).call call
    · exact unionValue_writes writes tag payload rest before text after run

/-- An array writes the parameters of its elements. -/
theorem packedArray_writes {expression : Zval → Build Text}
    (writes : ∀ value, Ensures (expression value) Writes) (elements : Elements) :
    Ensures (packedArray expression elements) Writes := by
  intro before text after run
  obtain ⟨inner, middle, head, done⟩ := bind_ok run
  obtain ⟨rfl, rfl⟩ := Prod.mk.inj (Except.ok.inj done)
  obtain ⟨numbered, listed⟩ := packed_writes writes _ true elements _ _ _ head
  cases elements.isList with
  | true => exact ⟨by simpa using numbered, listed.shown.call opens_listValue⟩
  | false => exact ⟨by simpa using numbered, listed.shown.call opens_structPack⟩

/-! ## The builder -/

section Builder

variable {native : Native}

/-- What the three functions of the builder write with some levels of nesting left. -/
structure WritesAt (native : Native) (room : Nat) : Prop where
  /-- `inferred`. -/
  inferred : ∀ v, Ensures (inferred native room v) Writes
  /-- `variant_source`. -/
  variantSource : ∀ v, Ensures (variantSource native room v) Writes
  /-- `typed`. -/
  typed : WritesTyped (typed native room)

/-- A cast of what a step writes. -/
theorem cast_writes {source : Build Text} (writes : Ensures source Writes) {t : Bytes}
    (declared : Shows t []) :
    Ensures (do let s ← source; pure (cast s t)) Writes := by
  intro before text after run
  obtain ⟨inner, middle, head, done⟩ := bind_ok run
  obtain ⟨rfl, rfl⟩ := Prod.mk.inj (Except.ok.inj done)
  obtain ⟨numbered, shown⟩ := writes before inner middle head
  exact ⟨by simpa using numbered, shown.cast declared⟩

/-- `inferred` writes its numbers when everything with less room does. -/
theorem inferred_writes {room : Nat} (at_ : WritesAt native room) (v : Zval) :
    Ensures (inferred native (room + 1) v) Writes := by
  rw [inferred]
  split
  · exact ensures_fail _ _
  · rename_i type input _
    intro before text after run
    obtain ⟨metadata, middle, resolved, rest⟩ := bind_ok run
    have silent := resolve_ensures native type.text before metadata middle resolved
    obtain ⟨numbered, shown⟩ := at_.typed input metadata _ type.shows _ _ _ rest
    exact ⟨numbered.silent silent, shown⟩
  · split
    · exact packedArray_writes at_.inferred _
    · exact parameter_writes _
  · exact parameter_writes _

/-- `variant_source` writes its numbers when everything with less room does. -/
theorem variantSource_writes {room : Nat} (at_ : WritesAt native room) (v : Zval) :
    Ensures (variantSource native (room + 1) v) Writes := by
  have variant : Shows (lit "VARIANT") [] := ⟨_, rfl, rfl⟩
  rw [variantSource]
  split
  · exact cast_writes (packedArray_writes at_.variantSource _) variant
  · exact cast_writes (at_.inferred _) variant

/-- The source of a GEOMETRY writes what it wraps. -/
theorem geometrySource_writes (type : Option CanonicalType) (source : Text)
    (before : Builder) (text : Text) (after : Builder) (shown : source.Shown)
    (run : geometrySource native type source before = .ok (text, after)) :
    Silent before text after ∧ text.parameters = source.parameters ∧ text.Shown := by
  have geometry : Shows (lit "GEOMETRY") [] := ⟨_, rfl, rfl⟩
  have wkb : Opens (lit "ST_GeomFromWKB(") :=
    opens_call (lit "ST_GeomFromWKB") (by decide)
  unfold geometrySource at run
  cases type with
  | none => simp [fail] at run
  | some type =>
    obtain ⟨st, middle, resolved, done⟩ := bind_ok run
    have silent := resolve_ensures native type.text before st middle resolved
    split at done
    · obtain ⟨rfl, rfl⟩ := Prod.mk.inj (Except.ok.inj done)
      exact ⟨silent, by simp, shown.call wkb⟩
    · obtain ⟨rfl, rfl⟩ := Prod.mk.inj (Except.ok.inj done)
      exact ⟨silent, by simp, shown.cast geometry⟩

/-- The source of a wrapper writes what it wraps. -/
theorem wrapperSource_writes (t : LogicalType) (type : Option CanonicalType) (source : Text)
    (before : Builder) (text : Text) (after : Builder) (shown : source.Shown)
    (run : wrapperSource native t type source before = .ok (text, after)) :
    Silent before text after ∧ text.parameters = source.parameters ∧ text.Shown := by
  unfold wrapperSource at run
  split at run
  · exact geometrySource_writes type source before text after shown run
  · obtain ⟨rfl, rfl⟩ := Prod.mk.inj (Except.ok.inj run)
    exact ⟨rfl, rfl, shown⟩

/-- A list of typed elements writes the numbers of its elements. -/
theorem listValue_writes {room : Nat} (at_ : WritesAt native room) (child : LogicalType)
    (elements : Elements) {decl : Bytes} (declared : Shows decl []) :
    Ensures (do
      let ct ← sqlText child
      let inner ← items (fun x => typed native room x child ct) true elements
      pure (cast (sql "list_value(" ++ inner ++ sql ")") decl)) Writes := by
  intro before text after run
  obtain ⟨ct, middle, named, rest⟩ := bind_ok run
  obtain ⟨inner, last, head, done⟩ := bind_ok rest
  obtain ⟨rfl, rfl⟩ := Prod.mk.inj (Except.ok.inj done)
  obtain ⟨shows_, silent⟩ := sqlText_ensures child _ _ _ named
  have each (x : Zval) : Ensures (typed native room x child ct) Writes := at_.typed x child ct shows_
  obtain ⟨numbered, listed⟩ := items_writes each true elements _ _ _ head
  exact ⟨by simpa using numbered.silent silent,
    (listed.shown.call opens_listValue).cast declared⟩

/-- What a check of a shape guards writes its numbers as without the check. -/
theorem shaped_writes {ok : Bool} {message : String} {source : Build Text}
    (writes : Ensures source Writes) :
    Ensures (do shape ok message; source) Writes := by
  intro before text after run
  obtain ⟨_, middle, checked, rest⟩ := bind_ok run
  obtain ⟨numbered, shown⟩ := writes middle text after rest
  exact ⟨numbered.silent (shape_ensures _ _ _ _ _ checked).2, shown⟩

/-- The text of a MAP shows the parameters of its keys and then of its values. -/
theorem mapText_shown {keys vals : Text} {kt vt : Bytes} (keysShown : keys.Shown)
    (valsShown : vals.Shown) (keyShows : Shows kt []) (valueShows : Shows vt []) :
    Text.Shown (sql "map(" ++
      cast (sql "list_value(" ++ keys ++ sql ")") (kt ++ lit "[]") ++ sql ", " ++
      cast (sql "list_value(" ++ vals ++ sql ")") (vt ++ lit "[]") ++ sql ")") := by
  have call : Opens (lit "map(") := opens_call (lit "map") (by decide)
  have suffix (text : Bytes) (shows_ : Shows text []) : Shows (text ++ lit "[]") [] :=
    shows_.append (by exact (by decide : breaks 91 = true)) ⟨_, rfl, rfl⟩
  have first := (keysShown.call opens_listValue).cast (suffix kt keyShows)
  have second := (valsShown.call opens_listValue).cast (suffix vt valueShows)
  have both : Text.Shown (cast (sql "list_value(" ++ keys ++ sql ")") (kt ++ lit "[]") ++
      sql ", " ++ cast (sql "list_value(" ++ vals ++ sql ")") (vt ++ lit "[]")) := by
    have joined := Shows.between first opens_comma (stops_comma _) second
    simpa [Text.Shown] using joined
  simpa only [List.append_assoc] using both.call call

/-- `typed` writes its numbers when everything with less room does. -/
theorem typed_writes {room : Nat} (at_ : WritesAt native room) :
    WritesTyped (typed native (room + 1)) := by
  intro v t decl declared
  rw [typed]
  split
  · exact cast_writes (parameter_writes _) declared
  · rename_i type input _
    intro before text after run
    obtain ⟨source, middle, head, rest⟩ := bind_ok run
    obtain ⟨numbered, shown⟩ := at_.inferred (.value type input) _ _ _ head
    obtain ⟨final, last, wrapped, done⟩ := bind_ok rest
    obtain ⟨rfl, rfl⟩ := Prod.mk.inj (Except.ok.inj done)
    obtain ⟨silent, same, shows_⟩ := wrapperSource_writes t type source _ _ _ shown wrapped
    refine ⟨?_, shows_.cast declared⟩
    rw [Text.parameters_cast, same]
    exact numbered.then_silent silent
  · split
    · exact shaped_writes (listValue_writes at_ _ _ declared)
    · exact shaped_writes (shaped_writes (listValue_writes at_ _ _ declared))
    · refine shaped_writes (shaped_writes ?_)
      intro before text after run
      obtain ⟨inner, middle, head, done⟩ := bind_ok run
      obtain ⟨rfl, rfl⟩ := Prod.mk.inj (Except.ok.inj done)
      obtain ⟨numbered, listed⟩ := fields_writes at_.typed _ true _ _ _ _ head
      exact ⟨by simpa using numbered, (listed.shown.call opens_structPack).cast declared⟩
    · refine shaped_writes ?_
      intro before text after run
      obtain ⟨⟨keys, vals⟩, middle, head, rest⟩ := bind_ok run
      obtain ⟨kt, afterKey, keyNamed, rest⟩ := bind_ok rest
      obtain ⟨vt, last, valueNamed, done⟩ := bind_ok rest
      obtain ⟨rfl, rfl⟩ := Prod.mk.inj (Except.ok.inj done)
      obtain ⟨keyShows, keySilent⟩ := sqlText_ensures _ _ _ _ keyNamed
      obtain ⟨valueShows, valueSilent⟩ := sqlText_ensures _ _ _ _ valueNamed
      obtain ⟨numbered, keysListed, valsListed⟩ :=
        entries_writes at_.typed _ _ true _ _ _ _ head
      refine ⟨?_, (mapText_shown keysListed.shown valsListed.shown keyShows valueShows).cast
        declared⟩
      simpa using (numbered.then_silent keySilent).then_silent valueSilent
    · refine shaped_writes ?_
      split
      · refine shaped_writes ?_
        exact cast_writes (unionValue_writes at_.typed _ _ _) declared
      · exact refused_ensures _ _ _
    · split
      · exact at_.variantSource _
      · exact cast_writes (at_.inferred _) declared
    · split
      · exact cast_writes (parameter_writes _) declared
      · exact cast_writes (at_.inferred _) declared
    · exact cast_writes (at_.inferred _) declared

/-- Whatever the builder writes shows the parameters that it collects, each once. -/
theorem writesAt : ∀ room, WritesAt native room
  | 0 => {
      inferred := fun _ => ensures_fail exceedsNesting _
      variantSource := fun _ => ensures_fail exceedsNesting _
      typed := fun _ _ _ _ => ensures_fail exceedsNesting _ }
  | room + 1 => {
      inferred := inferred_writes (writesAt room)
      variantSource := variantSource_writes (writesAt room)
      typed := typed_writes (writesAt room) }

end Builder

end PhpDuckdb.Value
