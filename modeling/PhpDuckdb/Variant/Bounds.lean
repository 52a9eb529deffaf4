import PhpDuckdb.Variant.Render

/-!
# Renderings stay in bounds

Whatever a row holds, no read of a rendering leaves the row's own parts of the lists or its blob,
no value is entered inside of itself, and no value is entered more than 64 levels deep.
-/

namespace PhpDuckdb.Variant

open SqlText Value Transducer Reader

/-! ## Scalars -/

/-- A safe read gives a sound reader. -/
theorem gives_of_safe {α : Type} {run : Reading α} (safe : Safe Reader.tape Stop.Fatal run)
    {reader : Reader} (sound : reader.Sound) : Gives (fun pair => pair.2.Sound) (run reader) := by
  obtain ⟨harmless, keeps⟩ := safe reader sound
  cases ran : run reader with
  | error stop => exact harmless stop ran
  | ok pair => exact keeps pair.1 pair.2 ran

/-- A result without a fatal stop is safe. -/
theorem safe_given {α : Type} {result : Except Stop α} (gives : Gives (fun _ => True) result) :
    Safe Reader.tape Stop.Fatal (given result) := by
  intro reader sound
  unfold given
  cases result with
  | error stop =>
    refine ⟨?_, nofun⟩
    intro other stopped
    obtain rfl := Except.error.inj stopped
    exact gives
  | ok value =>
    refine ⟨nofun, ?_⟩
    intro other ends done
    obtain ⟨-, rfl⟩ := Prod.mk.inj (Except.ok.inj done)
    exact sound

/-- A number is read without leaving the bytes. -/
theorem native_safe {width : Nat} (small : width < 2 ^ 64) :
    Safe Reader.tape Stop.Fatal (native width) := (exact_native small).safe

/-- A signed number is read without leaving the bytes. -/
theorem nativeSigned_safe {width : Nat} (small : width < 2 ^ 64) :
    Safe Reader.tape Stop.Fatal (nativeSigned width) :=
  safe_bind (native_safe small) fun _ => safe_pure _

/-- `scalar` fails with a message and never reads outside. -/
theorem scalar_gives (engine : Engine) (value : Scalar) :
    Gives (fun _ => True) (scalar engine value) := by
  rw [scalar]
  split
  · exact gives_invalid _
  · exact gives_invalid _
  · trivial

/-- Quoting a text fails only where the text itself does. -/
theorem quoted_gives {text : Except Stop Bytes} (gives : Gives (fun _ => True) text) :
    Gives (fun _ => True) (quoted text) := by
  cases text with
  | error stop => exact gives
  | ok text => trivial

/-- A BIGNUM fails with a message only. -/
theorem renderBignum_gives (engine : Engine) (data : Bytes) :
    Gives (fun _ => True) (renderBignum engine data) := by
  rw [renderBignum]
  split
  · exact gives_invalid _
  · exact scalar_gives engine _

/-- A bit string fails with a message only. -/
theorem renderBit_gives (engine : Engine) (data : Bytes) :
    Gives (fun _ => True) (renderBit engine data) := by
  rw [renderBit.eq_def]
  split
  · split
    · exact gives_invalid _
    · exact scalar_gives engine _
  · exact gives_invalid _

/-- A geometry fails with a message only. -/
theorem geometry_gives (dtoa : UInt64 → Shortest) {data : Bytes} (fits : data.length < 2 ^ 64) :
    Gives (fun _ => True) (geometry dtoa data) := by
  have inside := (geometry_exact dtoa ⟨data, fits⟩).1
  cases rendered : geometry dtoa data with
  | error stop =>
    intro outside
    exact inside (rendered.trans (congrArg Except.error outside))
  | ok text => trivial

/-- Bytes with a length are read without leaving the blob. -/
theorem renderBytes_safe {render : Bytes → Except Stop Bytes}
    (gives : ∀ data : Bytes, data.length < 2 ^ 64 → Gives (fun _ => True) (render data)) :
    Safe Reader.tape Stop.Fatal (renderBytes render) := by
  refine safe_bind safe_varint fun length => ?_
  refine (exact_take length.toUInt64).safe_bind fun data input output meant => ?_
  exact safe_given (gives data (meant.1 ▸ length.toUInt64.toNat_lt))

/-- A DECIMAL is read without leaving the blob. -/
theorem renderDecimal_safe (engine : Engine) :
    Safe Reader.tape Stop.Fatal (renderDecimal engine) := by
  refine safe_bind safe_varint fun width => safe_bind safe_varint fun scale => ?_
  refine safe_bind (exact_check (Stop.invalid_harmless _)).safe fun _ => ?_
  refine safe_bind ?_ fun number => ?_
  · refine safe_ite (fun _ => nativeSigned_safe (by decide)) fun _ => ?_
    refine safe_ite (fun _ => nativeSigned_safe (by decide)) fun _ => ?_
    exact safe_ite (fun _ => nativeSigned_safe (by decide)) fun _ => nativeSigned_safe (by decide)
  · exact safe_bind (safe_given (scalar_gives engine _)) fun _ => safe_pure _

/-- A signed integer is read without leaving the blob. -/
theorem renderSigned_safe {width : Nat} (small : width < 2 ^ 64) :
    Safe Reader.tape Stop.Fatal (renderSigned width) :=
  safe_bind (nativeSigned_safe small) fun _ => safe_pure _

/-- An unsigned integer is read without leaving the blob. -/
theorem renderUnsigned_safe {width : Nat} (small : width < 2 ^ 64) :
    Safe Reader.tape Stop.Fatal (renderUnsigned width) :=
  safe_bind (native_safe small) fun _ => safe_pure _

/-- A time is read without leaving the blob. -/
theorem renderTime_safe (engine : Engine) (type : TimeType) {width : Nat} (small : width < 2 ^ 64) :
    Safe Reader.tape Stop.Fatal (renderTime engine type width) :=
  safe_bind (nativeSigned_safe small) fun _ => safe_given (quoted_gives (scalar_gives engine _))

/-- An INTERVAL is read without leaving the blob. -/
theorem renderInterval_safe (engine : Engine) :
    Safe Reader.tape Stop.Fatal (renderInterval engine) := by
  refine safe_bind (nativeSigned_safe (by decide)) fun _ => ?_
  refine safe_bind (nativeSigned_safe (by decide)) fun _ => ?_
  refine safe_bind (nativeSigned_safe (by decide)) fun _ => ?_
  exact safe_given (quoted_gives (scalar_gives engine _))

/-- A scalar of any tag is read without leaving the blob. -/
theorem renderScalar_safe (engine : Engine) (tag : UInt8) :
    Safe Reader.tape Stop.Fatal (renderScalar engine tag) := by
  have rendered (value : Scalar) := safe_given (scalar_gives engine value)
  have shown (value : Scalar) := safe_given (quoted_gives (scalar_gives engine value))
  unfold renderScalar
  split
  case h_4 | h_5 | h_6 | h_7 => exact renderSigned_safe (by decide)
  case h_9 | h_10 | h_11 | h_12 => exact renderUnsigned_safe (by decide)
  case h_8 => exact safe_bind (nativeSigned_safe (by decide)) fun _ => rendered _
  case h_13 => exact safe_bind (native_safe (by decide)) fun _ => rendered _
  case h_14 | h_15 => exact safe_bind (native_safe (by decide)) fun _ => safe_pure _
  case h_16 => exact renderDecimal_safe engine
  case h_17 => exact renderBytes_safe fun _ _ => trivial
  case h_18 => exact renderBytes_safe fun _ _ => quoted_gives (scalar_gives engine _)
  case h_19 => exact safe_bind (native_safe (by decide)) fun _ => shown _
  case h_27 => exact safe_bind (native_safe (by decide)) fun _ => shown _
  case h_29 => exact renderInterval_safe engine
  case h_30 => exact renderBytes_safe fun _ _ => renderBignum_gives engine _
  case h_31 => exact renderBytes_safe fun _ _ => quoted_gives (renderBit_gives engine _)
  case h_32 => exact renderBytes_safe fun _ fits => quoted_gives (geometry_gives engine.dtoa fits)
  case h_34 => exact safe_throw (Stop.invalid_harmless _)
  all_goals
    first
    | exact safe_pure _
    | exact renderTime_safe engine _ (by decide)

/-! ## Values -/

/-- The row's parts of the lists are inside of them, and the reader is inside of the blob. -/
structure Decoder.Sound (decoder : Decoder) : Prop where
  /-- The part of the keys. -/
  keys : decoder.keys.Inside
  /-- The part of the children. -/
  children : decoder.children.Inside
  /-- The part of the values. -/
  values : decoder.values.Inside
  /-- The reader. -/
  blob : decoder.blob.Sound

variable {decoder : Decoder}

/-- A value is found without leaving the row. -/
theorem Decoder.Sound.value_gives (sound : decoder.Sound) (index : UInt32) :
    Gives (fun found => found.2.Sound) (decoder.value index) := by
  refine (sound.values.index_gives index).bind fun row owned => ?_
  refine (MetadataList.cell_gives decoder.typeId owned).bind fun tag _ => ?_
  refine (MetadataList.cell_gives decoder.byteOffset owned).bind fun start _ => ?_
  exact (gives_of_safe (safe_offset start.toUInt64) sound.blob).bind fun _ inside => inside

/-- A child is a row of its list. -/
theorem Decoder.Sound.childRow_gives (sound : decoder.Sound) (first : UInt32) (i : Nat) :
    Gives decoder.children.Owns (decoder.childRow first i) :=
  sound.children.index_gives _

/-- The value of a child is found without leaving the row. -/
theorem Decoder.childValue_gives {row : UInt64} (owned : decoder.children.Owns row) :
    Gives (fun _ => True) (decoder.childValue row) :=
  MetadataList.cell_gives decoder.valuesIndex owned

/-- The key of a child is found without leaving the row. -/
theorem Decoder.Sound.childKey_gives (sound : decoder.Sound) {row : UInt64}
    (owned : decoder.children.Owns row) : Gives (fun _ => True) (decoder.childKey row) := by
  refine (MetadataList.cell_gives decoder.keysIndex owned).bind fun relative _ => ?_
  refine (sound.keys.index_gives relative).bind fun keyRow found => ?_
  exact MetadataList.cell_gives decoder.keys.child found

/-- The range of children is read without leaving the blob. -/
theorem Decoder.childRange_gives {reader : Reader} (sound : reader.Sound) :
    Gives (fun _ => True) (decoder.childRange reader) := by
  refine (gives_of_safe safe_varint sound).bind fun counted inside => ?_
  have first : Gives (fun _ => True) (Decoder.firstChild counted.1 counted.2) := by
    unfold firstChild
    by_cases zero : counted.1 = 0
    · rw [if_pos zero]
      trivial
    · rw [if_neg zero]
      exact (gives_of_safe safe_varint inside).of_imp fun _ _ => trivial
  refine first.bind fun found _ => ?_
  dsimp only
  split
  · exact gives_invalid _
  · trivial

/-! ## Renderings -/

/-- A value is entered at a level that the limit allows, and not inside of itself: the values
around it are one for each level above, and all are different. -/
structure Entered.Fine (entered : Entered) : Prop where
  /-- The level is within the limit. -/
  shallow : entered.depth ≤ 64
  /-- There is a value for every level. -/
  levels : entered.active.length = entered.depth + 1
  /-- No value is inside of itself. -/
  distinct : entered.active.Nodup

/-- A rendering stops with a message or not at all, and enters every value as it may. -/
abbrev InBounds {α : Type} (run : Rendering α) : Prop := run.Keeps Stop.Fatal Entered.Fine

/-- A result whose failure is a message reads nothing outside. -/
theorem inBounds_lift {α : Type} {kept : α → Prop} {result : Except Stop α}
    (gives : Gives kept result) : InBounds (Traced.lift result) := by
  apply Traced.keeps_lift
  intro stop stopped
  rw [stopped] at gives
  exact gives

/-- A message about invalid data reads nothing. -/
theorem inBounds_invalid {α : Type} (message : String) :
    InBounds (Traced.lift (invalid message : Except Stop α)) := by
  have message_ : Gives (fun _ : α => True) (invalid message) := gives_invalid message
  exact inBounds_lift message_

/-- A result without a fatal stop, and what follows from it. -/
theorem inBounds_lift_bind {α β : Type} {kept : α → Prop} {result : Except Stop α}
    {next : α → Rendering β} (gives : Gives kept result)
    (two : ∀ value, kept value → InBounds (next value)) :
    InBounds (Traced.lift result >>= next) := by
  apply Traced.keeps_bind (inBounds_lift gives)
  intro value done
  rw [Traced.result_lift] at done
  rw [done] at gives
  exact two value gives

/-- The children of an array stay in bounds when every value does. -/
theorem renderItems_inBounds (sound : decoder.Sound) {render : UInt32 → Rendering Bytes}
    (inBounds : ∀ index, InBounds (render index)) (first : UInt32) (i left : Nat)
    (result : Bytes) : InBounds (renderItems decoder render first i left result) := by
  induction left generalizing i result with
  | zero => exact Traced.keeps_pure _
  | succ left ih =>
    refine inBounds_lift_bind (sound.childRow_gives first i) fun row owned => ?_
    refine inBounds_lift_bind (Decoder.childValue_gives owned) fun child _ => ?_
    exact Traced.keeps_bind (inBounds child) fun value _ => ih _ _

/-- The children of an object stay in bounds when every value does. -/
theorem renderFields_inBounds (sound : decoder.Sound) {render : UInt32 → Rendering Bytes}
    (inBounds : ∀ index, InBounds (render index)) (first : UInt32) (i left : Nat)
    (table : Fields) : InBounds (renderFields decoder render first i left table) := by
  induction left generalizing i table with
  | zero => exact Traced.keeps_pure _
  | succ left ih =>
    refine inBounds_lift_bind (sound.childRow_gives first i) fun row owned => ?_
    refine inBounds_lift_bind (Decoder.childValue_gives owned) fun child _ => ?_
    refine Traced.keeps_bind (inBounds child) fun value _ => ?_
    exact inBounds_lift_bind (sound.childKey_gives owned) fun key _ => ih _ _

/-- A value of any tag stays in bounds when every value below it does. -/
theorem renderValue_inBounds (engine : Engine) (sound : decoder.Sound)
    {render : UInt32 → Rendering Bytes} (inBounds : ∀ index, InBounds (render index))
    (tag : UInt8) {reader : Reader} (inside : reader.Sound) :
    InBounds (renderValue engine decoder render tag reader) := by
  rw [renderValue]
  split
  · refine inBounds_lift_bind (Decoder.childRange_gives inside) fun range _ => ?_
    refine Traced.keeps_bind (renderFields_inBounds sound inBounds _ _ _ _) fun table _ => ?_
    exact Traced.keeps_pure _
  · split
    · refine inBounds_lift_bind (Decoder.childRange_gives inside) fun range _ => ?_
      refine Traced.keeps_bind (renderItems_inBounds sound inBounds _ _ _ _) fun result _ => ?_
      exact Traced.keeps_pure _
    · have scalar := gives_of_safe (renderScalar_safe engine tag) inside
      have text : Gives (fun _ => True) ((renderScalar engine tag reader).map Prod.fst) := by
        cases read : renderScalar engine tag reader with
        | error stop =>
          rw [read] at scalar
          exact scalar
        | ok pair => trivial
      exact inBounds_lift text

/-- A value stays in bounds with any number of levels left: the values around it are one for each
level above, and all are different. -/
theorem render_inBounds (engine : Engine) (sound : decoder.Sound) (room : Nat)
    (limit : room ≤ maximumDepth + 1) (active : List UInt32) (distinct : active.Nodup)
    (levels : active.length + room = maximumDepth + 1) (index : UInt32) :
    InBounds (render engine decoder room active index) := by
  induction room generalizing active index with
  | zero => exact inBounds_invalid _
  | succ room ih =>
    rw [render]
    by_cases cyclic : index ∈ active
    · rw [if_pos cyclic]
      exact inBounds_invalid _
    · have longer : (active ++ [index]).length = active.length + 1 := List.length_append
      have fresh : (active ++ [index]).Nodup := by
        apply List.nodup_append.mpr
        refine ⟨distinct, List.nodup_singleton index, ?_⟩
        intro earlier found other same
        rw [List.mem_singleton.mp same]
        exact fun here => cyclic (here ▸ found)
      have below := ih (Nat.le_of_succ_le limit) (active ++ [index]) fresh (by omega)
      rw [if_neg cyclic]
      refine Traced.keeps_bind (Traced.keeps_note ⟨Nat.sub_le _ _, ?_, fresh⟩) fun _ _ => ?_
      · show (active ++ [index]).length = maximumDepth - room + 1
        omega
      · refine inBounds_lift_bind (sound.value_gives index) fun found inside => ?_
        exact renderValue_inBounds engine sound below found.1 inside

/-! ## Rows -/

/-- A child of an entry layout is checked. -/
theorem field_gives {First Second α : Type} (vector : PairVector First Second)
    (child : PairVector First Second → Option (CellVector α)) (expected : VectorType) :
    Gives (fun _ => True) (field vector child expected) := by
  rw [field]
  split
  · exact gives_invalid _
  · exact requireType_gives _ _ _

/-- The payload of a row is a sound reader. -/
theorem payload_gives (vector : VariantVector) (row : UInt64) :
    Gives Reader.Sound (payload vector row) := by
  refine (requireType_gives vector.blob _ .blob).bind fun child _ => ?_
  split
  · exact gives_invalid _
  · split
    · exact gives_invalid _
    · split
      · exact gives_invalid _
      · exact of_sound _

/-- The decoder of a row is sound. -/
theorem makeDecoder_gives (vector : VariantVector) (row : UInt64) :
    Gives Decoder.Sound (makeDecoder vector row) := by
  refine (metadataList_gives vector.keys row _ .varchar).bind fun keys one => ?_
  refine (metadataList_gives vector.children row _ .struct).bind fun children two => ?_
  refine (metadataList_gives vector.values row _ .struct).bind fun values three => ?_
  refine (field_gives children.child _ .uinteger).bind fun keysIndex _ => ?_
  refine (field_gives children.child _ .uinteger).bind fun valuesIndex _ => ?_
  refine (field_gives values.child _ .utinyint).bind fun typeId _ => ?_
  refine (field_gives values.child _ .uinteger).bind fun byteOffset _ => ?_
  exact (payload_gives vector row).bind fun blob inside => ⟨one, two, three, inside⟩

/-- Rendering a row is total and in bounds, whatever its lists and its blob hold: it ends with a
text, with NULL or with a message, never with a read outside of the row's own parts of the lists or
of the blob; every value is entered at most 64 levels deep, and none inside of itself. -/
theorem variant_inBounds (engine : Engine) (supportedFormat : Bool) (vector : VariantVector)
    (row : UInt64) :
    (duckdbDecodeVariant engine supportedFormat vector row).result ≠ .error .outside ∧
    ∀ entered ∈ (duckdbDecodeVariant engine supportedFormat vector row).trace,
      entered.depth ≤ 64 ∧ entered.active.length = entered.depth + 1 ∧ entered.active.Nodup := by
  have inBounds : InBounds (duckdbDecodeVariant engine supportedFormat vector row) := by
    rw [duckdbDecodeVariant]
    split
    · refine inBounds_lift_bind (requireType_gives _ _ _) fun _ _ => ?_
      split
      · exact Traced.keeps_pure _
      · refine inBounds_lift_bind (makeDecoder_gives vector row) fun decoder sound => ?_
        refine Traced.keeps_bind ?_ fun text _ => Traced.keeps_pure _
        exact render_inBounds engine sound _ (Nat.le_refl _) [] List.nodup_nil (Nat.zero_add _) 0
    · exact inBounds_invalid _
  refine ⟨fun outside => inBounds.1 .outside outside rfl, ?_⟩
  intro entered found
  have fine := inBounds.2 entered found
  exact ⟨fine.shallow, fine.levels, fine.distinct⟩

end PhpDuckdb.Variant
