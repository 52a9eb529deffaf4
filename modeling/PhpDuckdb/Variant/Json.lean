import PhpDuckdb.Variant.Render

/-!
# Objects and arrays as JSON

An object is rendered with its distinct keys in strictly increasing order, each with the rendering
of the last child under it, and an array with all its children in order.
-/

namespace PhpDuckdb.Variant

open SqlText Value OrderedTable

/-! ## What is rendered -/

/-- The text of an object with fields. -/
def objectText (fields : List (Bytes × Bytes)) : Bytes :=
  lit "\x7b" ++ [44].intercalate (fields.map fun field => quote field.1 ++ [58] ++ field.2) ++ lit "\x7d"

/-- The text of an array of values. -/
def arrayText (values : List Bytes) : Bytes := lit "[" ++ [44].intercalate values ++ lit "]"

/-- Fields in strictly increasing bytewise order of their keys, with the last value of every key
that the entries have. -/
structure FieldsOf (entries fields : List (Bytes × Bytes)) : Prop where
  /-- The keys increase. -/
  increasing : fields.Pairwise fun left right => left.1 < right.1
  /-- The fields are the last values under the keys. -/
  last : ∀ key value, (key, value) ∈ fields ↔ LastUnder entries key value

/-- A child is found, and a rendering gives its text. -/
def Decoder.ChildText (decoder : Decoder) (render : UInt32 → Except Stop Bytes) (first : UInt32)
    (i : Nat) (text : Bytes) : Prop :=
  ∃ row child, decoder.childRow first i = .ok row ∧ decoder.childValue row = .ok child ∧
    render child = .ok text

/-- A child is found with its key, and a rendering gives its text. -/
def Decoder.ChildField (decoder : Decoder) (render : UInt32 → Except Stop Bytes) (first : UInt32)
    (i : Nat) (entry : Bytes × Bytes) : Prop :=
  ∃ row child, decoder.childRow first i = .ok row ∧ decoder.childValue row = .ok child ∧
    render child = .ok entry.2 ∧ decoder.childKey row = .ok entry.1

/-! ## Fields by place -/

/-- The positions are the places of the keys. -/
structure Fields.Placed (table : Fields) : Prop where
  /-- Every key is there once. -/
  distinct : (keys table.fields).Nodup
  /-- A key's position is its place. -/
  places : ∀ key place,
    find key table.positions = some place ↔ (keys table.fields)[place]? = some key

/-- A field is stored under its key, and the positions are still the places. -/
theorem Fields.Placed.store {table : Fields} (placed : table.Placed) (key value : Bytes) :
    (table.store key value).Placed ∧
      (table.store key value).fields = update key value table.fields := by
  rw [Fields.store]
  cases found : find key table.positions with
  | none =>
    have fresh : key ∉ keys table.fields := by
      intro there
      obtain ⟨place, here⟩ := List.mem_iff_getElem?.mp there
      rw [(placed.places key place).mpr here] at found
      cases found
    have stored : update key value table.fields = table.fields ++ [(key, value)] :=
      update_new value fresh
    have longer : keys (table.fields ++ [(key, value)]) = keys table.fields ++ [key] :=
      List.map_append
    refine ⟨⟨?_, ?_⟩, stored.symm⟩
    · exact stored ▸ nodup_update placed.distinct key value
    · intro other place
      have count : (keys table.fields).length = table.fields.length := List.length_map _
      show find other (update key table.fields.length table.positions) = _ ↔
        (keys (table.fields ++ [(key, value)]))[place]? = _
      rw [find_update, longer]
      by_cases same : key = other
      · subst same
        rw [if_pos rfl, Option.some.injEq]
        constructor
        · intro last
          rw [← last, ← count, List.getElem?_append_right (Nat.le_refl _), Nat.sub_self]
          rfl
        · intro there
          rw [← count]
          rcases Nat.lt_trichotomy place (keys table.fields).length with before | last | after
          · rw [List.getElem?_append_left before] at there
            exact absurd (List.mem_of_getElem? there) fresh
          · exact last.symm
          · rw [List.getElem?_eq_none (by rw [List.length_append]; exact after)] at there
            cases there
      · rw [if_neg same, placed.places]
        rcases Nat.lt_or_ge place (keys table.fields).length with before | after
        · rw [List.getElem?_append_left before]
        · rw [List.getElem?_append_right after, List.getElem?_eq_none after]
          cases place - (keys table.fields).length with
          | zero => exact iff_of_false nofun fun here => same (Option.some.inj here)
          | succ _ => exact iff_of_false nofun nofun
  | some place =>
    have there := (placed.places key place).mp found
    have stored := update_present value placed.distinct there
    have kept := keys_modify value table.fields place
    refine ⟨⟨?_, ?_⟩, stored.symm⟩
    · show (keys (table.fields.modify place fun field => (field.1, value))).Nodup
      rw [kept]
      exact placed.distinct
    · intro other position
      show _ ↔ (keys (table.fields.modify place fun field => (field.1, value)))[position]? = _
      rw [kept]
      exact placed.places other position

/-! ## The loops -/

variable {decoder : Decoder}

/-- A sequence succeeds exactly when its parts do. -/
theorem bind_eq_ok {ε α β : Type} {result : Except ε α} {next : α → Except ε β} {value : β} :
    result.bind next = .ok value ↔ ∃ given, result = .ok given ∧ next given = .ok value := by
  cases result with
  | error stop => exact iff_of_false nofun fun ⟨_, wrong, _⟩ => nomatch wrong
  | ok given =>
    constructor
    · exact fun done => ⟨given, rfl, done⟩
    · intro ⟨other, same, done⟩
      obtain rfl := Except.ok.inj same
      exact done

/-- The loop over an array's children gives the texts of the children, each after a separator. -/
theorem renderItems_ok (render : UInt32 → Rendering Bytes) (first : UInt32) (i left : Nat)
    (result text : Bytes) :
    (renderItems decoder render first i left result).result = .ok text ↔
      ∃ values : List Bytes, values.length = left ∧
        (∀ j value, values[j]? = some value →
          decoder.ChildText (fun child => (render child).result) first (i + j) value) ∧
        text = result ++ Transducer.separatedText [44] i values := by
  induction left generalizing i result with
  | zero =>
    show Except.ok result = .ok text ↔ _
    constructor
    · intro done
      exact ⟨[], rfl, nofun, (Except.ok.inj done).symm.trans (List.append_nil _).symm⟩
    · intro given
      obtain ⟨values, length, _, same⟩ := given
      obtain rfl := List.length_eq_zero_iff.mp length
      rw [same]
      exact congrArg Except.ok (List.append_nil _).symm
  | succ left ih =>
    have lead : comma i = if 0 < i then [44] else [] := by
      unfold comma
      cases i <;> rfl
    rw [renderItems]
    simp only [Traced.result_bind, Traced.result_lift, bind_eq_ok, ih]
    constructor
    · intro given
      obtain ⟨row, found, child, stored, value, rendered, values, length, others, same⟩ := given
      refine ⟨value :: values, congrArg Nat.succ length, ?_, ?_⟩
      · intro j other there
        cases j with
        | zero =>
          obtain rfl := Option.some.inj there
          exact ⟨row, child, found, stored, rendered⟩
        | succ j =>
          have later := others j other there
          rw [Nat.add_right_comm] at later
          exact later
      · rw [same, Transducer.separatedText, lead]
        simp only [List.append_assoc]
    · intro given
      obtain ⟨values, length, each, same⟩ := given
      cases values with
      | nil => cases length
      | cons value values =>
        obtain ⟨row, child, found, stored, rendered⟩ := each 0 value rfl
        refine ⟨row, found, child, stored, value, rendered, values, Nat.succ.inj length, ?_, ?_⟩
        · intro j other there
          have later := each (j + 1) other there
          rw [← Nat.add_assoc, Nat.add_right_comm] at later
          exact later
        · rw [same, Transducer.separatedText, lead]
          simp only [List.append_assoc]

/-- The loop over an object's children stores their fields in order. -/
theorem renderFields_ok (render : UInt32 → Rendering Bytes) (first : UInt32) (i left : Nat)
    (table final : Fields) :
    (renderFields decoder render first i left table).result = .ok final ↔
      ∃ entries : List (Bytes × Bytes), entries.length = left ∧
        (∀ j entry, entries[j]? = some entry →
          decoder.ChildField (fun child => (render child).result) first (i + j) entry) ∧
        final = entries.foldl (fun table entry => table.store entry.1 entry.2) table := by
  induction left generalizing i table with
  | zero =>
    show Except.ok table = .ok final ↔ _
    constructor
    · intro done
      exact ⟨[], rfl, nofun, (Except.ok.inj done).symm⟩
    · intro ⟨entries, length, _, same⟩
      obtain rfl := List.length_eq_zero_iff.mp length
      rw [same]
      rfl
  | succ left ih =>
    rw [renderFields]
    simp only [Traced.result_bind, Traced.result_lift, bind_eq_ok, ih]
    constructor
    · intro ⟨row, found, child, stored, value, rendered, key, named, entries, length, others,
        same⟩
      refine ⟨(key, value) :: entries, congrArg Nat.succ length, ?_, same⟩
      intro j other there
      cases j with
      | zero =>
        obtain rfl := Option.some.inj there
        exact ⟨row, child, found, stored, rendered, named⟩
      | succ j =>
        have later := others j other there
        rw [Nat.add_right_comm] at later
        exact later
    · intro ⟨entries, length, each, same⟩
      cases entries with
      | nil => cases length
      | cons entry entries =>
        obtain ⟨row, child, found, stored, rendered, named⟩ := each 0 entry rfl
        refine ⟨row, found, child, stored, entry.2, rendered, entry.1, named, entries,
          Nat.succ.inj length, ?_, same⟩
        intro j other there
        have later := each (j + 1) other there
        rw [← Nat.add_assoc, Nat.add_right_comm] at later
        exact later

/-- Stored fields are the entries under their keys, in place. -/
theorem stored_fields (entries : List (Bytes × Bytes)) {table : Fields} (placed : table.Placed) :
    (entries.foldl (fun table entry => table.store entry.1 entry.2) table).fields =
      updateAll entries table.fields := by
  induction entries generalizing table with
  | nil => rfl
  | cons entry rest ih =>
    obtain ⟨still, stored⟩ := placed.store entry.1 entry.2
    show (rest.foldl _ (table.store entry.1 entry.2)).fields =
      updateAll rest (update entry.1 entry.2 table.fields)
    rw [ih still, stored]

/-- Where there are no fields, all are in their places. -/
theorem empty_placed : Fields.Placed ⟨[], []⟩ where
  distinct := List.nodup_nil
  places := fun _ _ => iff_of_false nofun nofun

/-- The texts of fields are joined by separators. -/
theorem fieldsText_eq (i : Nat) (fields : List (Bytes × Bytes)) :
    fieldsText i fields =
      Transducer.separatedText [44] i
        (fields.map fun field => quote field.1 ++ [58] ++ field.2) := by
  induction fields generalizing i with
  | nil => rfl
  | cons field rest ih =>
    have lead : comma i = if 0 < i then [44] else [] := by
      unfold comma
      cases i <;> rfl
    rw [fieldsText, ih, lead, List.map_cons, Transducer.separatedText]
    simp only [List.append_assoc]

/-! ## Sorting -/

/-- Sorted fields with distinct keys are in strictly increasing order. -/
theorem sortFields_increasing {fields : List (Bytes × Bytes)} (distinct : (keys fields).Nodup) :
    (sortFields fields).Pairwise fun left right => left.1 < right.1 := by
  have sorted : (sortFields fields).Pairwise fun left right =>
      (!decide (right.1 < left.1)) = true := by
    apply List.pairwise_mergeSort
    · intro first second third one two
      rw [Bool.not_eq_true', decide_eq_false_iff_not, List.not_lt] at one two ⊢
      exact List.le_trans one two
    · intro first second
      have either := List.le_total first.1 second.1
      rw [Bool.or_eq_true, Bool.not_eq_true', Bool.not_eq_true', decide_eq_false_iff_not,
        decide_eq_false_iff_not, List.not_lt, List.not_lt]
      exact either
  have apart : (sortFields fields).Pairwise fun left right => left.1 ≠ right.1 := by
    rw [← List.pairwise_map (R := fun left right => left ≠ right)]
    exact ((List.mergeSort_perm fields _).map Prod.fst).nodup_iff.mpr distinct
  apply (sorted.and apart).imp
  intro left right both
  rw [Bool.not_eq_true', decide_eq_false_iff_not, List.not_lt] at both
  apply List.not_le.mp
  exact fun other => both.2 (List.le_antisymm both.1 other)

/-- Entries stored one after the other have distinct keys. -/
theorem stored_distinct (entries : List (Bytes × Bytes)) :
    (keys (updateAll entries [])).Nodup := by
  have empty : (keys ([] : List (Bytes × Bytes))).Nodup := List.nodup_nil
  exact nodup_updateAll entries empty

/-- The fields that an object is rendered with. -/
theorem sortFields_fieldsOf (entries : List (Bytes × Bytes)) :
    FieldsOf entries (sortFields (updateAll entries [])) where
  increasing := sortFields_increasing (stored_distinct entries)
  last := by
    intro key value
    have found := find_updateAll entries [] key value
    rw [find_nil] at found
    rw [sortFields, List.mem_mergeSort, mem_iff_find (stored_distinct entries), found]
    constructor
    · intro split
      cases split with
      | inl last => exact last
      | inr before => cases before.2
    · exact Or.inl

/-- Some entries have one list of fields in the order of their keys. -/
theorem FieldsOf.unique {entries fields others : List (Bytes × Bytes)}
    (one : FieldsOf entries fields) (two : FieldsOf entries others) : fields = others := by
  have distinct : ∀ {fields : List (Bytes × Bytes)},
      (fields.Pairwise fun left right => left.1 < right.1) → fields.Nodup := by
    intro fields increasing
    apply increasing.imp
    intro left right less same
    exact List.lt_irrefl _ (same ▸ less)
  have same : fields.Perm others := by
    rw [List.perm_ext_iff_of_nodup (distinct one.increasing) (distinct two.increasing)]
    intro field
    exact (one.last field.1 field.2).trans (two.last field.1 field.2).symm
  apply same.eq_of_pairwise _ one.increasing two.increasing
  intro left right _ _ less more
  exact absurd (List.lt_trans less more) (List.lt_irrefl _)

/-! ## Objects and arrays -/

/-- The result of a rendering with a level left. -/
theorem render_ok (engine : Engine) (room : Nat) (active : List UInt32) (index : UInt32)
    (tag : UInt8) (reader : Reader) (found : decoder.value index = .ok (tag, reader))
    (text : Bytes) :
    (render engine decoder (room + 1) active index).result = .ok text ↔
      index ∉ active ∧ (renderValue engine decoder
        (render engine decoder room (active ++ [index])) tag reader).result = .ok text := by
  rw [render]
  by_cases cyclic : index ∈ active
  · rw [if_pos cyclic]
    exact iff_of_false nofun fun wrong => wrong.1 cyclic
  · rw [if_neg cyclic, and_iff_right cyclic]
    simp only [Traced.result_bind, Traced.result_lift, found]
    rfl

/-- A range of children is in the row's list. -/
theorem childRange_fits {reader : Reader} {count first : UInt32}
    (ranged : decoder.childRange reader = .ok (count, first)) :
    first.toNat + count.toNat ≤ decoder.children.entry.length.toNat := by
  have ends : ∀ found : UInt32 × Reader,
      (if decoder.children.entry.length < found.1.toUInt64 ∨
          decoder.children.entry.length - found.1.toUInt64 < count.toUInt64 then
        invalid "VARIANT child range is out of bounds"
      else .ok (count, found.1)) = (.ok (count, first) : Except Stop (UInt32 × UInt32)) →
      first.toNat + count.toNat ≤ decoder.children.entry.length.toNat := by
    intro found checked
    split at checked
    · cases checked
    · rename_i inside
      obtain ⟨start, enough⟩ := not_or.mp inside
      obtain ⟨-, rfl⟩ := Prod.mk.inj (Except.ok.inj checked)
      have small : found.1.toNat ≤ decoder.children.entry.length.toNat :=
        UInt64.le_iff_toNat_le.mp (UInt64.not_lt.mp start)
      have last : count.toNat ≤ _ := UInt64.le_iff_toNat_le.mp (UInt64.not_lt.mp enough)
      rw [UInt64.toNat_sub_of_le _ _ (UInt64.not_lt.mp start)] at last
      have same : found.1.toUInt64.toNat = found.1.toNat := rfl
      omega
  unfold Decoder.childRange at ranged
  obtain ⟨counted, one, ranged⟩ := bind_eq_ok.mp ranged
  obtain ⟨found, two, ranged⟩ := bind_eq_ok.mp ranged
  have same : counted.1 = count := by
    dsimp only at ranged
    split at ranged
    · cases ranged
    · exact (Prod.mk.inj (Except.ok.inj ranged)).1
  subst same
  exact ends found ranged

/-- Strings and objects are faithful JSON. A quoted string reads back as exactly its bytes. A value
with the tag of an object is rendered exactly when it is not inside of itself, its children are in
the row's list and each of them is rendered; then its text lists the distinct keys in strictly
increasing order, each with the rendering of the last child under it. A value with the tag of an
array is rendered under the same conditions as all its children in order. The children are the rows
of the row's list from the first one on. -/
theorem json_faithful (engine : Engine) (decoder : Decoder) (room : Nat) (active : List UInt32)
    (index : UInt32) (reader : Reader) :
    (∀ bytes, jsonString (quote bytes) = some bytes) ∧
    (decoder.value index = .ok (29, reader) → ∀ text,
      (render engine decoder (room + 1) active index).result = .ok text ↔
        index ∉ active ∧ ∃ count first, decoder.childRange reader = .ok (count, first) ∧
          ∃ entries : List (Bytes × Bytes), entries.length = count.toNat ∧
            (∀ i entry, entries[i]? = some entry →
              decoder.ChildField (fun child =>
                (render engine decoder room (active ++ [index]) child).result) first i entry) ∧
            ∃ fields, FieldsOf entries fields ∧ text = objectText fields) ∧
    (decoder.value index = .ok (30, reader) → ∀ text,
      (render engine decoder (room + 1) active index).result = .ok text ↔
        index ∉ active ∧ ∃ count first, decoder.childRange reader = .ok (count, first) ∧
          ∃ values : List Bytes, values.length = count.toNat ∧
            (∀ i value, values[i]? = some value →
              decoder.ChildText (fun child =>
                (render engine decoder room (active ++ [index]) child).result) first i value) ∧
            text = arrayText values) ∧
    (decoder.children.Inside → decoder.children.entry.length.toNat ≤ 2 ^ 32 →
      ∀ count first, decoder.childRange reader = .ok (count, first) → ∀ i < count.toNat,
        ∃ row, decoder.childRow first i = .ok row ∧
          row.toNat = decoder.children.entry.offset.toNat + first.toNat + i) := by
  refine ⟨jsonString_quote, ?_, ?_, ?_⟩
  · intro found text
    rw [render_ok engine room active index 29 reader found, renderValue, if_pos rfl]
    simp only [Traced.result_bind, Traced.result_lift, bind_eq_ok, renderFields_ok, Prod.exists,
      Nat.zero_add]
    apply and_congr_right
    intro _
    constructor
    · intro ⟨count, first, ranged, table, ⟨entries, length, each, same⟩, shown⟩
      have fields := stored_fields entries empty_placed
      rw [← same] at fields
      refine ⟨count, first, ranged, entries, length, each, _, sortFields_fieldsOf entries, ?_⟩
      rw [← Except.ok.inj shown, fields, fieldsText_eq, Transducer.separatedText_zero]
      rfl
    · intro ⟨count, first, ranged, entries, length, each, fields, are, shown⟩
      have stored := stored_fields entries empty_placed
      refine ⟨count, first, ranged, _, ⟨entries, length, each, rfl⟩, ?_⟩
      rw [are.unique (sortFields_fieldsOf entries)] at shown
      rw [shown, stored, fieldsText_eq, Transducer.separatedText_zero]
      rfl
  · intro found text
    rw [render_ok engine room active index 30 reader found, renderValue, if_neg (by decide),
      if_pos rfl]
    simp only [Traced.result_bind, Traced.result_lift, bind_eq_ok, renderItems_ok, Prod.exists,
      Nat.zero_add, Transducer.separatedText_zero]
    apply and_congr_right
    intro _
    constructor
    · intro ⟨count, first, ranged, result, ⟨values, length, each, same⟩, shown⟩
      refine ⟨count, first, ranged, values, length, each, ?_⟩
      rw [← Except.ok.inj shown, same]
      rfl
    · intro ⟨count, first, ranged, values, length, each, shown⟩
      refine ⟨count, first, ranged, _, ⟨values, length, each, rfl⟩, ?_⟩
      rw [shown]
      rfl
  · intro inside short count first ranged i before
    have whole : decoder.children.entry.offset.toNat + decoder.children.entry.length.toNat ≤
        decoder.children.size.toNat := inside
    have bound := decoder.children.size.toNat_lt
    have fits : first.toNat + count.toNat ≤ decoder.children.entry.length.toNat :=
      childRange_fits ranged
    have relative : (first + UInt32.ofNat i).toNat = first.toNat + i := by
      have small : (UInt32.ofNat i).toNat = i :=
        UInt32.toNat_ofNat_of_lt' (Nat.lt_trans before count.toNat_lt)
      rw [UInt32.toNat_add, small]
      apply Nat.mod_eq_of_lt
      omega
    have index : (first + UInt32.ofNat i).toUInt64.toNat = first.toNat + i := relative
    refine ⟨decoder.children.entry.offset + (first + UInt32.ofNat i).toUInt64, ?_, ?_⟩
    · rw [Decoder.childRow, MetadataList.index, if_neg]
      rw [UInt64.le_iff_toNat_le, index]
      omega
    · rw [UInt64.toNat_add, index, Nat.add_assoc]
      apply Nat.mod_eq_of_lt
      omega

/-- A vector of given cells; every row beyond them reads one further cell. -/
def cellVector {α : Type} (type : VectorType) (cells : List α) (beyond : α) : CellVector α :=
  ⟨some type, none, some fun row => cells.getD row.toNat beyond⟩

/-- An object whose three children have the keys b, a and b. -/
def repeatedKey : Decoder where
  keys := ⟨cellVector .varchar [[98], [97]] [], ⟨0, 2⟩, 2⟩
  children := ⟨⟨some .struct, 2, none, none⟩, ⟨0, 3⟩, 3⟩
  values := ⟨⟨some .struct, 2, none, none⟩, ⟨0, 4⟩, 4⟩
  keysIndex := cellVector .uinteger [0, 1, 0] 0
  valuesIndex := cellVector .uinteger [1, 2, 3] 0
  typeId := cellVector .utinyint [29, 1, 0, 2] 0
  byteOffset := cellVector .uinteger [0, 2, 2, 2] 0
  blob := Reader.of [3, 0]

/-- An engine whose every answer is one. -/
def plainEngine : Engine := ⟨fun _ => ⟨false, 1, [49], by decide⟩, fun _ => some (some [49])⟩

/-- The last child under b counts, and a comes first. -/
theorem json_faithful_repeatedKey :
    (render plainEngine repeatedKey 65 [] 0).result =
      .ok (objectText [([97], lit "null"), ([98], lit "false")]) := by
  have entries : FieldsOf [([98], lit "true"), ([97], lit "null"), ([98], lit "false")]
      [([97], lit "null"), ([98], lit "false")] := by
    refine ⟨by decide, ?_⟩
    intro key value
    have nothing : ¬LastUnder ([] : List (Bytes × Bytes)) key value := by
      intro ⟨before, after, split, _⟩
      cases before <;> cases split
    rw [lastUnder_cons, lastUnder_cons, lastUnder_cons]
    by_cases first : key = [97]
    · subst first
      simp [nothing, eq_comm]
    · by_cases second : key = [98]
      · subst second
        simp [nothing, eq_comm]
      · simp [nothing, first, second, Ne.symm first, Ne.symm second]
  refine ((json_faithful plainEngine repeatedKey 64 [] 0 (Reader.of [3, 0])).2.1 rfl _).mpr
    ⟨nofun, 3, 0, rfl, _, rfl, ?_, _, entries, rfl⟩
  intro i entry there
  match i, there with
  | 0, there =>
    obtain rfl := Option.some.inj there
    exact ⟨0, 1, rfl, rfl, rfl, rfl⟩
  | 1, there =>
    obtain rfl := Option.some.inj there
    exact ⟨1, 2, rfl, rfl, rfl, rfl⟩
  | 2, there =>
    obtain rfl := Option.some.inj there
    exact ⟨2, 3, rfl, rfl, rfl, rfl⟩
  | i + 3, there => cases there

end PhpDuckdb.Variant
