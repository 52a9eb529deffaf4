import PhpDuckdb.Vector.Fast

/-!
# Writes of PHP values

`Vector::set`, `Vector::setValues` and the results of a scalar function. Inputs are classified,
those that need it are converted in batches, and only then a vector's rows change; a scalar
function's result writes the fast rows on the way. `writes_atomic` says what the rows end up with.
-/

namespace PhpDuckdb.Vector

open SqlText PhpDuckdb.Value Connection

/-! ## Wrappers -/

/-- The elements of an array with a snapshot of each. -/
def snapshotElements (snapshot : Zval → Except Thrown Zval) : Elements → Except Thrown Elements
  | .nil => .ok .nil
  | .cons key item rest => do
    let copy ← snapshot item
    let others ← snapshotElements snapshot rest
    .ok (.cons key copy others)

/-- `snapshot`. `room` is how many levels of nesting are left, 65 at depth 0. -/
def snapshot : Nat → Zval → Except Thrown Zval
  | 0, _ => .error (valueError "Value exceeds nesting limit")
  | room + 1, src =>
    match src.deref with
    | .array elements => do
      let copies ← snapshotElements (snapshot room) elements
      .ok (.array copies)
    | .value none _ => .error (typeError "Cannot snapshot an uninitialized DuckDB\\Value object")
    | .dateTime none => .error (typeError "Cannot snapshot an uninitialized DateTime object")
    | .object className =>
      .error ⟨.typeError, lit "Unsupported object in DuckDB\\Value: " ++ className⟩
    | .resource => .error (typeError "Unsupported resource in DuckDB\\Value")
    | other => .ok other

/-- `duckdb_value_initialize` of a new wrapper: its type and a snapshot of its input. -/
def duckdbValueInitialize (declaration : Bytes) (input : Zval) : Except Thrown Zval :=
  match canonical : Types.duckdbCanonicalizeType declaration with
  | .error what => .error (valueError what)
  | .ok text => do
    let copy ← snapshot 65 input
    .ok (.value (some ⟨text, declaration, canonical⟩) copy)

/-! ## Writing -/

/-- What writing needs besides the vector: the conversion, the guards and the native copy. -/
structure Setting where
  /-- The connection's typed conversion. -/
  engine : Engine
  /-- DuckDB makes a value of a text. -/
  makesVarchar : Bytes → Bool
  /-- The guards of the connection. -/
  access : Access
  /-- `duckdb_vector_copy_sel`. -/
  copier : Copier Content
  /-- `valid_utf8`. -/
  validUtf8 : Bytes → Bool
  /-- What a row holds after DuckDB copied a value into it. -/
  held : DuckValue → Content
  /-- `duckdb_logical_type_render`. -/
  render : LogicalType → Bytes

/-- `conversion_batch`: how many inputs are converted at a time. -/
def conversionBatch : Nat := 1024

/-- The check of the types of converted values. -/
def checkTypes (setting : Setting) (type : LogicalType) :
    List DuckValue → Except (Option Thrown) Unit
  | [] => .ok ()
  | item :: rest =>
    if duckdbVectorTypesEqual item.type type then checkTypes setting type rest
    else .error (some ⟨.engine (lit "CONVERSION"), lit "Converted " ++ setting.render item.type ++
      lit " value does not match the " ++ setting.render type ++ lit " vector type"⟩)

/-- The wrappers of a batch, each of the declaration of the column. -/
def wrapAll (declaration : Bytes) : List Zval → Except (Option Thrown) (List Zval)
  | [] => .ok []
  | input :: rest =>
    match duckdbValueInitialize declaration input with
    | .error thrown => .error (some thrown)
    | .ok wrapper => do
      let wrappers ← wrapAll declaration rest
      .ok (wrapper :: wrappers)

/-- The body of the loop of `convert_inputs`. -/
def convertBatch (setting : Setting) (data : VectorData) (inputs : List Zval) :
    Except (Option Thrown) (List DuckValue) := do
  let wrappers ← wrapAll data.declaration inputs
  let converted ← convertValues setting.makesVarchar setting.engine wrappers
  checkTypes setting data.type converted
  .ok converted

/-- `convert_inputs`: converts the inputs in batches, up to the first that fails. -/
def convertInputs (setting : Setting) (data : VectorData) (inputs : List Zval) :
    Except (Option Thrown) (List DuckValue) :=
  if inputs = [] then .ok []
  else do
    let first ← convertBatch setting data (inputs.take conversionBatch)
    let others ← convertInputs setting data (inputs.drop conversionBatch)
    .ok (first ++ others)
termination_by inputs.length
decreasing_by
  rename_i some_
  have length := List.length_pos_iff.mpr some_
  rw [List.length_drop, conversionBatch]
  omega

/-- `pending_write`: a row with its input, and how the input gets into it. -/
structure PendingWrite where
  row : Nat
  input : Zval
  isNull : Bool
  isFast : Bool
  converted : Nat

/-- The loop of `write_values` that classifies the inputs; the inputs to convert so far grow. -/
def classify (validUtf8 : Bytes → Bool) (kind : FastKind) :
    List (Nat × Zval) → List Zval → List PendingWrite × List Zval
  | [], inputs => ([], inputs)
  | (row, input) :: rest, inputs =>
    if input.deref.isNull then
      let (writes, inputs) := classify validUtf8 kind rest inputs
      (⟨row, input.deref, true, false, 0⟩ :: writes, inputs)
    else if duckdbVectorCanWriteFast validUtf8 kind input.deref then
      let (writes, inputs) := classify validUtf8 kind rest inputs
      (⟨row, input.deref, false, true, 0⟩ :: writes, inputs)
    else
      let write : PendingWrite := ⟨row, input.deref, false, false, inputs.length⟩
      let (writes, inputs) := classify validUtf8 kind rest (inputs ++ [input.deref])
      (write :: writes, inputs)

/-- The second loop of `write_values`, with the copies that are left to do. -/
def writeRows (kind : FastKind) (converted : List DuckValue) :
    List PendingWrite → Rows Content → Rows Content × List (Nat × DuckValue)
  | [], rows => (rows, [])
  | write :: rest, rows =>
    if write.isNull then writeRows kind converted rest (Function.update rows write.row .null)
    else if write.isFast then
      writeRows kind converted rest (duckdbVectorWriteFast rows kind write.row write.input)
    else
      let (rows, copies) := writeRows kind converted rest rows
      (rows, (write.row, converted.getD write.converted .null) :: copies)

/-- Copy a value into a row of a vector of `room` rows, through a one-row constant vector. -/
def copyConstant (setting : Setting) (room : Nat) (item : DuckValue) (rows : Rows Content)
    (row : Nat) : Rows Content :=
  setting.copier.between (fun _ => setting.held item) rows 1 room (fun _ => 0) 1 0 row

/-- `write_converted` on a vector of `room` rows. -/
def writeConverted (setting : Setting) (room : Nat) :
    List (Nat × DuckValue) → Rows Content → Rows Content
  | [], rows => rows
  | (row, item) :: rest, rows =>
    writeConverted setting room rest (copyConstant setting room item rows row)

/-- `write_values`: converts first what needs a conversion, then writes every row. -/
def writeValues (setting : Setting) (data : VectorData) (rows : Rows Content)
    (writes : List (Nat × Zval)) : Rows Content × Except (Option Thrown) Unit :=
  let (writes, inputs) := classify setting.validUtf8 data.fast writes []
  let converted : Except (Option Thrown) (List DuckValue) :=
    if inputs = [] then .ok []
    else
      match duckdbConnEnter setting.access with
      | .error thrown => .error (some thrown)
      | .ok () => convertInputs setting data inputs
  match converted with
  | .error failure => (rows, .error failure)
  | .ok converted =>
    let (rows, copies) := writeRows data.fast converted writes rows
    (writeConverted setting data.capacity.toNat copies rows, .ok ())

/-- Why a write fails: an argument, or what the conversion threw. -/
inductive WriteError
  | argument (error : ArgumentError)
  | thrown (pending : Option Thrown)

/-- What a method of a vector does after its arguments are checked. -/
def writeGuarded (setting : Setting) (data : VectorData) (rows : Rows Content)
    (writes : List (Nat × Zval)) : Rows Content × Except WriteError Unit :=
  match duckdbConnectionGuard setting.access with
  | .error thrown => (rows, .error (.thrown (some thrown)))
  | .ok () =>
    let (rows, outcome) := writeValues setting data rows writes
    (rows, outcome.mapError .thrown)

/-- `Vector::set`: writes one value into a row that is inside the vector. -/
def set (setting : Setting) (data : VectorData) (rows : Rows Content) (row : Int64) (value : Zval) :
    Rows Content × Except WriteError Unit :=
  match checkRow data row 2 with
  | .error rejected => (rows, .error (.argument rejected))
  | .ok () => writeGuarded setting data rows [(row.toUInt64.toNat, value)]

/-- The values of an array in order. -/
def values : Elements → List Zval
  | .nil => []
  | .cons _ item rest => item :: values rest

/-- The rows that the values of a list go to. -/
def rowsFrom (row : Nat) : List Zval → List (Nat × Zval)
  | [] => []
  | item :: rest => (row, item) :: rowsFrom (row + 1) rest

/-- `Vector::setValues`: writes the values of a list from an offset on. -/
def setValues (setting : Setting) (data : VectorData) (rows : Rows Content) (elements : Elements)
    (offset : Int64) : Rows Content × Except WriteError Unit :=
  if elements.isList then
    match checkRange data offset elements.count 3 with
    | .error rejected => (rows, .error (.argument rejected))
    | .ok () => writeGuarded setting data rows (rowsFrom offset.toUInt64.toNat (values elements))
  else (rows, .error (.argument (.value 2 (lit "must be a list"))))

/-! ## Results of a scalar function -/

/-- The loop of `write_results` over the results: the fast rows are written on the way. -/
def resultRows (setting : Setting) (output : VectorData) :
    Nat → List Zval → Rows Content → List Zval → List Nat →
      Rows Content × Except (Option Thrown) (List Zval × List Nat)
  | _, [], rows, inputs, targets => (rows, .ok (inputs, targets))
  | row, result :: rest, rows, inputs, targets =>
    if output.fast ≠ .none ∧ result.deref.isNull = true then
      resultRows setting output (row + 1) rest (Function.update rows row .null) inputs targets
    else if duckdbVectorCanWriteFast setting.validUtf8 output.fast result.deref then
      resultRows setting output (row + 1) rest
        (duckdbVectorWriteFast rows output.fast row result.deref) inputs targets
    else
      match duckdbValueInitialize output.declaration result.deref with
      | .error thrown => (rows, .error (some thrown))
      | .ok wrapper =>
        resultRows setting output (row + 1) rest rows (inputs ++ [wrapper]) (targets ++ [row])

/-- The loop of `write_results` over the converted values; it stops at a value of another type. The
output vector of an execution has a row for every input row. -/
def copyResults (setting : Setting) (type : LogicalType) (room : Nat) :
    List DuckValue → List Nat → Rows Content → Rows Content × Bool
  | item :: items, target :: targets, rows =>
    if duckdbVectorTypesEqual item.type type then
      copyResults setting type room items targets (copyConstant setting room item rows target)
    else (rows, false)
  | _, _, rows => (rows, true)

/-- `capture_exception` and the message that `write_results` leaves without one. -/
def conversionMessage : Option Thrown → Bytes
  | some _ => lit "Scalar function result could not be converted to its declared return type"
  | none => lit "Scalar function result conversion failed"

/-- `write_results`, given the value that a handler returned and the output vector with its slot's
declaration. -/
def writeResults (setting : Setting) (output : VectorData) (results : Zval) (count : Nat)
    (rows : Rows Content) : Rows Content × Except Bytes Unit :=
  if results.isArray = false ∨ results.elements.isList = false ∨ results.elements.count ≠ count then
    (rows, .error (lit <|
      "ScalarExecutor::execute() must return a list containing exactly one value per input row"))
  else
    match resultRows setting output 0 (values results.elements) rows [] [] with
    | (rows, .error failure) => (rows, .error (conversionMessage failure))
    | (rows, .ok (inputs, targets)) =>
      let converted : Except (Option Thrown) (List DuckValue) :=
        if inputs = [] then .ok [] else convertValues setting.makesVarchar setting.engine inputs
      match converted with
      | .error failure => (rows, .error (conversionMessage failure))
      | .ok converted =>
        match copyResults setting output.type count converted targets rows with
        | (rows, true) => (rows, .ok ())
        | (rows, false) =>
          (rows, .error (lit "Scalar result conversion produced a different logical type"))

/-! ## Rows -/

/-- Copying a value changes its row and no other, when the vector has the row. -/
theorem copyConstant_eq (setting : Setting) {room row : Nat} (inside : row < room)
    (item : DuckValue) (rows : Rows Content) :
    copyConstant setting room item rows row = Function.update rows row (setting.held item) := by
  rw [copyConstant, setting.copier.between_eq _ _ (fun _ _ _ => Nat.zero_lt_one) (by omega)]
  funext other
  by_cases here : other = row
  · rw [here, Function.update_self, copySel, if_pos (by omega)]
  · rw [Function.update_of_ne here, copySel, if_neg (by omega)]

/-- Copies to other rows leave a row alone. -/
theorem writeConverted_update (setting : Setting) {room : Nat} {copies : List (Nat × DuckValue)}
    (inside : ∀ target ∈ copies.map Prod.fst, target < room) {row : Nat}
    (apart : row ∉ copies.map Prod.fst) (content : Content) (rows : Rows Content) :
    writeConverted setting room copies (Function.update rows row content) =
      Function.update (writeConverted setting room copies rows) row content := by
  induction copies generalizing rows with
  | nil => rfl
  | cons copy rest ih =>
    obtain ⟨target, item⟩ := copy
    rw [List.map_cons, List.forall_mem_cons] at inside
    rw [List.map_cons, List.mem_cons, not_or] at apart
    rw [writeConverted, writeConverted, copyConstant_eq setting inside.1,
      copyConstant_eq setting inside.1, Function.update_comm apart.1, ih inside.2 apart.2]

/-- What a write puts into its row. -/
def PendingWrite.content (held : DuckValue → Content) (kind : FastKind)
    (converted : List DuckValue) (write : PendingWrite) : Content :=
  if write.isNull then .null
  else if write.isFast then (storedFast kind write.input).getD .null
  else held (converted.getD write.converted .null)

/-- The rows after the pass of the fast writes and that of the converted ones. -/
def writtenRows (setting : Setting) (room : Nat) (kind : FastKind) (converted : List DuckValue)
    (writes : List PendingWrite) (rows : Rows Content) : Rows Content :=
  writeConverted setting room (writeRows kind converted writes rows).2
    (writeRows kind converted writes rows).1

/-- Only rows of the writes are copied to. -/
theorem writeRows_copies (kind : FastKind) (converted : List DuckValue)
    (writes : List PendingWrite) (rows : Rows Content) :
    ∀ row ∈ (writeRows kind converted writes rows).2.map Prod.fst,
      row ∈ writes.map PendingWrite.row := by
  induction writes generalizing rows with
  | nil => exact fun row never => never
  | cons write rest ih =>
    intro row member
    rw [writeRows] at member
    rw [List.map_cons]
    split at member
    · exact List.mem_cons_of_mem _ (ih _ row member)
    · split at member
      · exact List.mem_cons_of_mem _ (ih _ row member)
      · cases List.mem_cons.mp member with
        | inl here => exact here ▸ List.mem_cons_self
        | inr further => exact List.mem_cons_of_mem _ (ih _ row further)

/-- A fast write leaves every other row as it was. -/
theorem duckdbVectorWriteFast_update (kind : FastKind) (input : Zval) {row other : Nat}
    (apart : row ≠ other) (content : Content) (rows : Rows Content) :
    duckdbVectorWriteFast (Function.update rows row content) kind other input =
      Function.update (duckdbVectorWriteFast rows kind other input) row content := by
  rw [duckdbVectorWriteFast, duckdbVectorWriteFast]
  cases storedFast kind input with
  | none => rfl
  | some stored => exact Function.update_comm apart ..

/-- Writes to other rows leave a row alone. -/
theorem writeRows_update (kind : FastKind) (converted : List DuckValue)
    {writes : List PendingWrite} {row : Nat} (apart : row ∉ writes.map PendingWrite.row)
    (content : Content) (rows : Rows Content) :
    writeRows kind converted writes (Function.update rows row content) =
      (Function.update (writeRows kind converted writes rows).1 row content,
        (writeRows kind converted writes rows).2) := by
  induction writes generalizing rows with
  | nil => rfl
  | cons write rest ih =>
    rw [List.map_cons, List.mem_cons, not_or] at apart
    rw [writeRows, writeRows]
    split
    · rw [Function.update_comm apart.1, ih apart.2]
    · split
      · rw [duckdbVectorWriteFast_update kind _ apart.1, ih apart.2]
      · rw [ih apart.2]

/-- Both passes of writes to other rows leave an update of a row in place. -/
theorem writtenRows_update (setting : Setting) {room : Nat} (kind : FastKind)
    (converted : List DuckValue) {writes : List PendingWrite}
    (inside : ∀ target ∈ writes.map PendingWrite.row, target < room) {row : Nat}
    (apart : row ∉ writes.map PendingWrite.row) (content : Content) (rows : Rows Content) :
    writtenRows setting room kind converted writes (Function.update rows row content) =
      Function.update (writtenRows setting room kind converted writes rows) row content := by
  have copies := writeRows_copies kind converted writes rows
  rw [writtenRows, writeRows_update kind converted apart, writtenRows]
  exact writeConverted_update setting (fun target member => inside target (copies target member))
    (fun member => apart (copies row member)) content _

/-- Writes to different rows of the vector all take effect, and no other row changes. -/
theorem writtenRows_eq (setting : Setting) {room : Nat} (kind : FastKind)
    (converted : List DuckValue) {writes : List PendingWrite} (rows : Rows Content)
    (inside : ∀ target ∈ writes.map PendingWrite.row, target < room)
    (distinct : (writes.map PendingWrite.row).Nodup)
    (fast : ∀ write ∈ writes, write.isNull = false → write.isFast = true →
      (storedFast kind write.input).isSome = true) :
    (∀ write ∈ writes, writtenRows setting room kind converted writes rows write.row =
      write.content setting.held kind converted) ∧
    ∀ row, row ∉ writes.map PendingWrite.row →
      writtenRows setting room kind converted writes rows row = rows row := by
  induction writes generalizing rows with
  | nil => exact ⟨fun write never => (List.not_mem_nil never).elim, fun _ _ => rfl⟩
  | cons write rest ih =>
    rw [List.map_cons, List.nodup_cons] at distinct
    rw [List.map_cons, List.forall_mem_cons] at inside
    -- The first write is an update before or after the rest, which does not touch its row.
    have updated : writtenRows setting room kind converted (write :: rest) rows =
        Function.update (writtenRows setting room kind converted rest rows) write.row
          (write.content setting.held kind converted) := by
      rw [← writtenRows_update setting kind converted inside.2 distinct.1]
      by_cases null : write.isNull = true
      · rw [PendingWrite.content, if_pos null, writtenRows, writtenRows, writeRows, if_pos null]
      · by_cases direct : write.isFast = true
        · obtain ⟨stored, same⟩ := Option.isSome_iff_exists.mp
            (fast write List.mem_cons_self (Bool.not_eq_true _ ▸ null) direct)
          rw [PendingWrite.content, if_neg null, if_pos direct, writtenRows, writtenRows, writeRows,
            if_neg null, if_pos direct, duckdbVectorWriteFast, same, Option.getD_some]
        · rw [PendingWrite.content, if_neg null, if_neg direct,
            writtenRows_update setting kind converted inside.2 distinct.1, writtenRows, writtenRows,
            writeRows, if_neg null, if_neg direct]
          have copies := writeRows_copies kind converted rest rows
          dsimp only
          rw [writeConverted, copyConstant_eq setting inside.1, writeConverted_update setting
            (fun target member => inside.2 target (copies target member))
            (fun member => distinct.1 (copies _ member))]
    have later := ih rows inside.2 distinct.2 fun other member =>
      fast other (List.mem_cons_of_mem _ member)
    rw [updated]
    constructor
    · intro other member
      cases List.mem_cons.mp member with
      | inl here => rw [here, Function.update_self]
      | inr further =>
        have different : other.row ≠ write.row := fun same =>
          distinct.1 (same ▸ List.mem_map_of_mem further)
        rw [Function.update_of_ne different]
        exact later.1 other further
    · intro row apart
      rw [List.map_cons, List.mem_cons, not_or] at apart
      rw [Function.update_of_ne apart.1]
      exact later.2 row apart.2

/-! ## Classification -/

/-- The inputs of a write that cannot be written fast. -/
def toConvert (validUtf8 : Bytes → Bool) (kind : FastKind) (inputs : List Zval) : List Zval :=
  (inputs.map Zval.deref).filter fun input =>
    !input.isNull && !duckdbVectorCanWriteFast validUtf8 kind input

/-- What classification finds out about an input, when these inputs are converted. -/
structure Classified (validUtf8 : Bytes → Bool) (kind : FastKind) (pending : List Zval)
    (place : Nat × Zval) (write : PendingWrite) : Prop where
  /-- Its row. -/
  row : write.row = place.1
  /-- The input, references followed. -/
  input : write.input = place.2.deref
  /-- Whether it is NULL. -/
  null : write.isNull = place.2.deref.isNull
  /-- Whether it is fast. -/
  fast : write.isNull = false →
    write.isFast = duckdbVectorCanWriteFast validUtf8 kind place.2.deref
  /-- Where it is converted. -/
  converted : write.isNull = false → write.isFast = false →
    pending[write.converted]? = some write.input

/-- Every input is classified, and those that need it are converted in order. -/
theorem classify_spec (validUtf8 : Bytes → Bool) (kind : FastKind) (places : List (Nat × Zval))
    (before : List Zval) :
    (classify validUtf8 kind places before).2 =
        before ++ toConvert validUtf8 kind (places.map Prod.snd) ∧
      List.Forall₂
        (Classified validUtf8 kind (before ++ toConvert validUtf8 kind (places.map Prod.snd)))
        places (classify validUtf8 kind places before).1 := by
  induction places generalizing before with
  | nil => exact ⟨(List.append_nil before).symm, .nil⟩
  | cons place rest ih =>
    obtain ⟨row, input⟩ := place
    by_cases null : input.deref.isNull = true
    · have same : toConvert validUtf8 kind (((row, input) :: rest).map Prod.snd) =
          toConvert validUtf8 kind (rest.map Prod.snd) := by
        simp [toConvert, null]
      rw [classify, if_pos null, same]
      exact ⟨(ih before).1, .cons ⟨rfl, rfl, null.symm, (nomatch ·), (nomatch ·)⟩ (ih before).2⟩
    · have notNull := Bool.not_eq_true _ ▸ null
      by_cases fast : duckdbVectorCanWriteFast validUtf8 kind input.deref = true
      · have same : toConvert validUtf8 kind (((row, input) :: rest).map Prod.snd) =
            toConvert validUtf8 kind (rest.map Prod.snd) := by
          simp [toConvert, fast]
        rw [classify, if_neg null, if_pos fast, same]
        exact ⟨(ih before).1, .cons ⟨rfl, rfl, notNull.symm, fun _ => fast.symm, fun _ no => nomatch no⟩
          (ih before).2⟩
      · have notFast := Bool.not_eq_true _ ▸ fast
        have same : toConvert validUtf8 kind (((row, input) :: rest).map Prod.snd) =
            input.deref :: toConvert validUtf8 kind (rest.map Prod.snd) := by
          simp [toConvert, notNull, notFast]
        have joined : before ++ input.deref :: toConvert validUtf8 kind (rest.map Prod.snd) =
            before ++ [input.deref] ++ toConvert validUtf8 kind (rest.map Prod.snd) := by
          rw [List.append_assoc, List.singleton_append]
        rw [classify, if_neg null, if_neg fast, same, joined]
        refine ⟨(ih _).1, .cons ⟨rfl, rfl, notNull.symm, fun _ => notFast.symm, fun _ _ => ?_⟩
          (ih _).2⟩
        rw [List.append_assoc, List.getElem?_append_right (Nat.le_refl _), Nat.sub_self]
        rfl

/-! ## Conversion -/

/-- The value of an input at a declaration, by itself. -/
def CastOf (setting : Setting)
    (meaning : List (Bytes ⊕ DuckValue) → Except (Option Thrown) DuckValue) (declaration : Bytes)
    (input : Zval) (result : DuckValue) : Prop :=
  ∃ wrapper, duckdbValueInitialize declaration input = .ok wrapper ∧
    ConvertsTo setting.makesVarchar setting.engine meaning wrapper result

/-- Wrappers are made of the inputs in order. -/
theorem wrapAll_each {declaration : Bytes} : ∀ {inputs wrappers : List Zval},
    wrapAll declaration inputs = .ok wrappers →
      List.Forall₂ (fun input wrapper => duckdbValueInitialize declaration input = .ok wrapper)
        inputs wrappers
  | [], wrappers, wrapped => by
    obtain rfl := Except.ok.inj wrapped
    exact .nil
  | input :: rest, wrappers, wrapped => by
    rw [wrapAll] at wrapped
    cases made : duckdbValueInitialize declaration input with
    | error thrown => rw [made] at wrapped; cases wrapped
    | ok wrapper =>
      rw [made] at wrapped
      obtain ⟨others, further, done⟩ := Outcome.bind_eq_ok.mp wrapped
      obtain rfl := Except.ok.inj done
      exact .cons made (wrapAll_each further)

/-- What is initialized from an input is a wrapper. -/
theorem initialize_typed {declaration : Bytes} {input wrapper : Zval}
    (made : duckdbValueInitialize declaration input = .ok wrapper) :
    wrapper.containsTyped = true := by
  rw [duckdbValueInitialize] at made
  split at made
  · cases made
  · obtain ⟨copy, -, done⟩ := Outcome.bind_eq_ok.mp made
    obtain rfl := Except.ok.inj done
    rfl

/-- What the call relies on of DuckDB and its connection, for the inputs that it converts. -/
structure Faithful (setting : Setting)
    (meaning : List (Bytes ⊕ DuckValue) → Except (Option Thrown) DuckValue) (data : VectorData)
    (pending : List Zval) : Prop where
  /-- The arguments of a statement are evaluated one by one. -/
  evaluates : ∀ batch wrappers, batch <:+: pending →
    wrapAll data.declaration batch = .ok wrappers → EvaluatesEach setting.makesVarchar setting.engine meaning wrappers
  /-- The declaration of a type resolves to the type. -/
  resolves : data.fast ≠ .none →
    setting.engine.prepare (resolveSql data.declaration) = .ok data.type
  /-- DuckDB makes a value of a text that is valid UTF-8. -/
  texts : ∀ text, setting.validUtf8 text = true → setting.makesVarchar text = true
  /-- Casts of values of the type's own kind are identities. -/
  identity : IdentityCasts setting.validUtf8 meaning setting.held data.fast data.declaration
  /-- NULL is NULL at any type that resolves. -/
  nulls : ∀ declaration type, setting.engine.prepare (resolveSql declaration) = .ok type →
    CastsTo meaning setting.held declaration .null .null

/-- Wrapped inputs are converted to their values. -/
theorem wrappers_each {setting : Setting}
    {meaning : List (Bytes ⊕ DuckValue) → Except (Option Thrown) DuckValue} {declaration : Bytes}
    {inputs wrappers : List Zval} {converted : List DuckValue}
    (wrapped : wrapAll declaration inputs = .ok wrappers) (some_ : inputs ≠ [])
    (evaluates : EvaluatesEach setting.makesVarchar setting.engine meaning wrappers)
    (converts : convertValues setting.makesVarchar setting.engine wrappers = .ok converted) :
    List.Forall₂ (CastOf setting meaning declaration) inputs converted := by
  have each := wrapAll_each wrapped
  have typed : wrappers.any Zval.containsTyped = true := by
    cases each with
    | nil => exact absurd rfl some_
    | cons made _ => rw [List.any_cons, initialize_typed made, Bool.true_or]
  exact forall₂_through (fun input wrapper result made value => ⟨wrapper, made, value⟩) each
    (convertValues_each evaluates typed converts)

/-- A batch is converted input by input. -/
theorem convertBatch_each {setting : Setting}
    {meaning : List (Bytes ⊕ DuckValue) → Except (Option Thrown) DuckValue} {data : VectorData}
    {pending batch : List Zval} (faithful : Faithful setting meaning data pending)
    (part : batch <:+: pending) (some_ : batch ≠ []) {converted : List DuckValue}
    (converts : convertBatch setting data batch = .ok converted) :
    List.Forall₂ (CastOf setting meaning data.declaration) batch converted := by
  obtain ⟨wrappers, wrapped, more⟩ := Outcome.bind_eq_ok.mp converts
  obtain ⟨results, converted_, checked⟩ := Outcome.bind_eq_ok.mp more
  obtain ⟨-, -, done⟩ := Outcome.bind_eq_ok.mp checked
  obtain rfl := Except.ok.inj done
  exact wrappers_each wrapped some_ (faithful.evaluates batch wrappers part wrapped) converted_

/-- The inputs of all batches are converted one by one. -/
theorem convertInputs_each {setting : Setting}
    {meaning : List (Bytes ⊕ DuckValue) → Except (Option Thrown) DuckValue} {data : VectorData}
    {pending : List Zval} (faithful : Faithful setting meaning data pending) :
    ∀ {inputs : List Zval} {converted : List DuckValue}, inputs <:+: pending →
      convertInputs setting data inputs = .ok converted →
        List.Forall₂ (CastOf setting meaning data.declaration) inputs converted := by
  intro inputs
  induction length : inputs.length using Nat.strong_induction_on generalizing inputs with
  | _ length_ ih =>
    intro converted part converts
    rw [convertInputs] at converts
    by_cases none : inputs = []
    · rw [if_pos none] at converts
      obtain rfl := Except.ok.inj converts
      rw [none]
      exact .nil
    · have positive := List.length_pos_iff.mpr none
      rw [if_neg none] at converts
      obtain ⟨first, head, more⟩ := Outcome.bind_eq_ok.mp converts
      obtain ⟨others, tail, done⟩ := Outcome.bind_eq_ok.mp more
      obtain rfl := Except.ok.inj done
      have taken := convertBatch_each faithful
        ((List.take_prefix conversionBatch inputs).isInfix.trans part)
        (by rw [ne_eq, List.take_eq_nil_iff, conversionBatch]; simp [none]) head
      have dropped := ih (inputs.drop conversionBatch).length
        (by rw [List.length_drop, conversionBatch]; omega) rfl
        ((List.drop_suffix conversionBatch inputs).isInfix.trans part) tail
      rw [← List.take_append_drop conversionBatch inputs]
      exact List.rel_append taken dropped

/-! ## Cells -/

/-- The SQL text of a fast type is canonical. -/
theorem canonical_fast {kind : FastKind} (fast : kind ≠ .none) :
    Types.duckdbCanonicalizeType (plainSql kind.typeId none) =
      .ok (plainSql kind.typeId none) := by
  cases kind <;> first | exact absurd rfl fast | decide +kernel

/-- The declaration of a vector of a fast type. -/
theorem declaration_fast {data : VectorData} (fast : data.fast ≠ .none) :
    data.declaration = plainSql data.fast.typeId none := by
  have declared := data.declared
  rw [data.kind] at fast ⊢
  rw [type_of_fast fast] at declared
  exact (Except.ok.inj declared).symm

/-- A fast input is its own snapshot. -/
theorem snapshot_fast {validUtf8 : Bytes → Bool} {kind : FastKind} {input : Zval}
    (fast : duckdbVectorCanWriteFast validUtf8 kind input = true) :
    snapshot 65 input = .ok input := by
  cases kind <;> cases input <;> first | rfl | cases fast

/-- A wrapper keeps its declaration and the snapshot of its input. -/
theorem initialize_canonical {declaration text : Bytes} {input copy : Zval}
    (canonical : Types.duckdbCanonicalizeType declaration = .ok text)
    (taken : snapshot 65 input = .ok copy) :
    duckdbValueInitialize declaration input =
      .ok (.value (some ⟨text, declaration, canonical⟩) copy) := by
  rw [duckdbValueInitialize]
  split
  · rename_i what failed
    cases canonical.symm.trans failed
  · rename_i other made
    obtain rfl := Except.ok.inj (canonical.symm.trans made)
    rw [taken]
    rfl

/-- The value of an input is determined. -/
theorem castOf_unique {setting : Setting}
    {meaning : List (Bytes ⊕ DuckValue) → Except (Option Thrown) DuckValue} {declaration : Bytes}
    {input : Zval} {result other : DuckValue} (cast : CastOf setting meaning declaration input result)
    (also : CastOf setting meaning declaration input other) : other = result := by
  obtain ⟨wrapper, made, text, after, written, value⟩ := cast
  obtain ⟨again, remade, twin, last, rewritten, same⟩ := also
  obtain rfl := Except.ok.inj (made.symm.trans remade)
  obtain ⟨rfl, -⟩ := Prod.mk.inj (Except.ok.inj (written.symm.trans rewritten))
  exact Except.ok.inj (same.symm.trans value)

/-- A fast input has the value that the fast write stores. -/
theorem cast_fast {setting : Setting}
    {meaning : List (Bytes ⊕ DuckValue) → Except (Option Thrown) DuckValue} {data : VectorData}
    {pending : List Zval} (faithful : Faithful setting meaning data pending) {input : Zval}
    (fast : duckdbVectorCanWriteFast setting.validUtf8 data.fast input = true) :
    ∃ result, CastOf setting meaning data.declaration input result ∧
      storedFast data.fast input = some (setting.held result) := by
  have kind := kind_of_fast fast
  have same := declaration_fast kind
  have canonical : Types.duckdbCanonicalizeType data.declaration = .ok data.declaration := by
    rw [same]
    exact canonical_fast kind
  have resolves := faithful.resolves kind
  have identity := faithful.identity
  have initialized := initialize_canonical canonical (snapshot_fast fast)
  rw [data.kind] at fast identity ⊢
  obtain ⟨result, converts, stored⟩ := converts_fast
    (show setting.engine.prepare (resolveSql (CanonicalType.mk data.declaration
      ⟨data.declaration, canonical⟩).text) = .ok data.type from resolves) faithful.texts identity fast
  exact ⟨result, ⟨_, initialized, converts⟩, stored⟩

/-- A row holds the cast of an input, or NULL. -/
def CellOf (setting : Setting)
    (meaning : List (Bytes ⊕ DuckValue) → Except (Option Thrown) DuckValue) (declaration : Bytes)
    (input : Zval) (content : Content) : Prop :=
  if input.deref.isNull then content = .null
  else ∃ result, CastOf setting meaning declaration input.deref result ∧
    content = setting.held result

/-- Every converted value is at the place of its input. -/
theorem converted_at {setting : Setting}
    {meaning : List (Bytes ⊕ DuckValue) → Except (Option Thrown) DuckValue} {declaration : Bytes}
    {inputs : List Zval} {converted : List DuckValue}
    (each : List.Forall₂ (CastOf setting meaning declaration) inputs converted) {index : Nat}
    {input : Zval} (here : inputs[index]? = some input) :
    CastOf setting meaning declaration input (converted.getD index .null) := by
  induction each generalizing index with
  | nil => cases here
  | cons head _ ih =>
    cases index with
    | zero =>
      obtain rfl := Option.some.inj here
      exact head
    | succ index => exact ih here

/-- The content of a classified write is its input's. -/
theorem content_cell {setting : Setting}
    {meaning : List (Bytes ⊕ DuckValue) → Except (Option Thrown) DuckValue} {data : VectorData}
    {pending : List Zval} (faithful : Faithful setting meaning data pending)
    {converted : List DuckValue}
    (each : List.Forall₂ (CastOf setting meaning data.declaration) pending converted)
    {place : Nat × Zval} {write : PendingWrite}
    (classified : Classified setting.validUtf8 data.fast pending place write) :
    CellOf setting meaning data.declaration place.2
      (write.content setting.held data.fast converted) := by
  rw [CellOf, PendingWrite.content, classified.null]
  by_cases null : place.2.deref.isNull = true
  · rw [if_pos null, if_pos null]
  · have notNull : write.isNull = false := by
      rw [classified.null, Bool.eq_false_of_not_eq_true null]
    rw [if_neg null, if_neg null, classified.fast notNull]
    by_cases fast : duckdbVectorCanWriteFast setting.validUtf8 data.fast place.2.deref = true
    · obtain ⟨result, value, stored⟩ := cast_fast faithful fast
      exact ⟨result, value, by rw [if_pos fast, classified.input, stored, Option.getD_some]⟩
    · have notFast : write.isFast = false := by
        rw [classified.fast notNull, Bool.eq_false_of_not_eq_true fast]
      have here := classified.converted notNull notFast
      rw [classified.input] at here
      exact ⟨_, converted_at each here, by rw [if_neg fast]⟩

/-- Every element of a list has its partner. -/
theorem forall₂_partner {α β : Type} {related : α → β → Prop} {firsts : List α} {seconds : List β}
    (each : List.Forall₂ related firsts seconds) :
    ∀ first ∈ firsts, ∃ second ∈ seconds, related first second := by
  induction each with
  | nil => exact fun first never => (List.not_mem_nil never).elim
  | cons head _ ih =>
    intro first member
    cases List.mem_cons.mp member with
    | inl here => exact ⟨_, List.mem_cons_self, here ▸ head⟩
    | inr further =>
      obtain ⟨second, inside, holds⟩ := ih first further
      exact ⟨second, List.mem_cons_of_mem _ inside, holds⟩

/-- The writes go to the rows that they were given. -/
theorem classified_rows {validUtf8 : Bytes → Bool} {kind : FastKind} {pending : List Zval}
    {places : List (Nat × Zval)} {writes : List PendingWrite}
    (classified : List.Forall₂ (Classified validUtf8 kind pending) places writes) :
    writes.map PendingWrite.row = places.map Prod.fst := by
  induction classified with
  | nil => rfl
  | cons head _ ih => rw [List.map_cons, List.map_cons, head.row, ih]

/-- `write_values` changes nothing, or gives every row to be written its input's cast and changes no
other. -/
theorem writeValues_atomic {setting : Setting}
    {meaning : List (Bytes ⊕ DuckValue) → Except (Option Thrown) DuckValue} {data : VectorData}
    {places : List (Nat × Zval)}
    (faithful : Faithful setting meaning data
      (toConvert setting.validUtf8 data.fast (places.map Prod.snd)))
    (inside : ∀ row ∈ places.map Prod.fst, row < data.capacity.toNat)
    (distinct : (places.map Prod.fst).Nodup) (rows : Rows Content) :
    ((∃ failure, (writeValues setting data rows places).2 = .error failure) ∧
        (writeValues setting data rows places).1 = rows) ∨
      (writeValues setting data rows places).2 = .ok () ∧
        (∀ place ∈ places, CellOf setting meaning data.declaration place.2
          ((writeValues setting data rows places).1 place.1)) ∧
        ∀ row, row ∉ places.map Prod.fst → (writeValues setting data rows places).1 row = rows row := by
  have spec := classify_spec setting.validUtf8 data.fast places []
  rw [writeValues]
  generalize classify setting.validUtf8 data.fast places [] = classes at spec ⊢
  obtain ⟨writes, inputs⟩ := classes
  obtain ⟨rfl, classified⟩ := spec
  dsimp only
  split
  · rename_i failure failed
    exact .inl ⟨⟨failure, rfl⟩, rfl⟩
  · rename_i converted converts
    refine .inr ⟨rfl, ?_⟩
    have each : List.Forall₂ (CastOf setting meaning data.declaration)
        (toConvert setting.validUtf8 data.fast (places.map Prod.snd)) converted := by
      split at converts
      · rename_i none
        obtain rfl := Except.ok.inj converts
        rw [show toConvert setting.validUtf8 data.fast (places.map Prod.snd) = [] from none]
        exact .nil
      · split at converts
        · cases converts
        · exact convertInputs_each faithful (List.infix_refl _) converts
    have sameRows := classified_rows classified
    obtain ⟨written, others⟩ := writtenRows_eq setting data.fast converted rows
      (sameRows ▸ inside) (sameRows ▸ distinct) fun write member notNull fast => by
        obtain ⟨place, -, holds⟩ := forall₂_partner classified.flip write member
        rw [holds.fast notNull] at fast
        obtain ⟨result, -, stored⟩ := cast_fast faithful fast
        rw [holds.input, stored]
        rfl
    refine ⟨fun place member => ?_, fun row apart => others row (sameRows ▸ apart)⟩
    obtain ⟨write, made, holds⟩ := forall₂_partner classified place member
    have content := content_cell faithful each holds
    rw [← written write made, holds.row] at content
    exact content

/-! ## Methods -/

/-- A write changes nothing, or gives consecutive rows the casts of its inputs and changes no other
row. -/
def Atomic (setting : Setting)
    (meaning : List (Bytes ⊕ DuckValue) → Except (Option Thrown) DuckValue) (declaration : Bytes)
    (rows : Rows Content) (outcome : Rows Content × Except WriteError Unit) (offset : Nat)
    (inputs : List Zval) : Prop :=
  ((∃ error, outcome.2 = .error error) ∧ outcome.1 = rows) ∨
    outcome.2 = .ok () ∧
      (∀ index (inside : index < inputs.length),
        CellOf setting meaning declaration inputs[index] (outcome.1 (offset + index))) ∧
      ∀ row, row < offset ∨ offset + inputs.length ≤ row → outcome.1 row = rows row

/-- An array holds as many values as it counts. -/
theorem values_length : ∀ elements : Elements, (values elements).length = elements.count
  | .nil => rfl
  | .cons _ _ rest => by rw [values, List.length_cons, values_length rest, Elements.count]

/-- Placing the values of a list keeps their order. -/
theorem rowsFrom_values (row : Nat) (inputs : List Zval) :
    (rowsFrom row inputs).map Prod.snd = inputs := by
  induction inputs generalizing row with
  | nil => rfl
  | cons input rest ih => rw [rowsFrom, List.map_cons, ih]

/-- The values of a list are placed in consecutive rows. -/
theorem rowsFrom_rows (row : Nat) (inputs : List Zval) :
    (rowsFrom row inputs).map Prod.fst = List.range' row inputs.length := by
  induction inputs generalizing row with
  | nil => rfl
  | cons input rest ih => rw [rowsFrom, List.map_cons, ih, List.length_cons, List.range'_succ]

/-- The values from an offset on go into the rows behind it. -/
theorem rowsFrom_mem {inputs : List Zval} {index : Nat} (row : Nat)
    (inside : index < inputs.length) : (row + index, inputs[index]) ∈ rowsFrom row inputs := by
  induction inputs generalizing row index with
  | nil => exact absurd inside (Nat.not_lt_zero _)
  | cons input rest ih =>
    cases index with
    | zero => exact List.mem_cons_self
    | succ index =>
      have further := ih (row + 1) (Nat.lt_of_succ_lt_succ inside)
      rw [show row + 1 + index = row + (index + 1) by omega] at further
      exact List.mem_cons_of_mem _ further

/-- A guarded write of consecutive rows is atomic. -/
theorem writeGuarded_atomic {setting : Setting}
    {meaning : List (Bytes ⊕ DuckValue) → Except (Option Thrown) DuckValue} {data : VectorData}
    {inputs : List Zval}
    (faithful : Faithful setting meaning data (toConvert setting.validUtf8 data.fast inputs))
    {offset : Nat} (range : offset + inputs.length ≤ data.capacity.toNat) (rows : Rows Content) :
    Atomic setting meaning data.declaration rows
      (writeGuarded setting data rows (rowsFrom offset inputs)) offset inputs := by
  rw [writeGuarded]
  cases duckdbConnectionGuard setting.access with
  | error thrown => exact .inl ⟨⟨_, rfl⟩, rfl⟩
  | ok =>
    have placed := writeValues_atomic
      (show Faithful setting meaning data (toConvert setting.validUtf8 data.fast
        ((rowsFrom offset inputs).map Prod.snd)) by rw [rowsFrom_values]; exact faithful)
      (fun row member => by
        rw [rowsFrom_rows, List.mem_range'_1] at member
        omega)
      (by rw [rowsFrom_rows]; exact List.nodup_range') rows
    cases placed with
    | inl failed =>
      obtain ⟨⟨failure, failed⟩, same⟩ := failed
      exact .inl ⟨⟨.thrown failure, by dsimp only; rw [failed]; rfl⟩, same⟩
    | inr written =>
      obtain ⟨succeeded, cells, others⟩ := written
      refine .inr ⟨by dsimp only; rw [succeeded]; rfl, fun index inside => ?_, fun row apart => ?_⟩
      · exact cells _ (rowsFrom_mem offset inside)
      · refine others row ?_
        rw [rowsFrom_rows, List.mem_range'_1]
        omega

/-- `set` changes nothing, or gives its row the cast of the value and changes no other row. -/
theorem set_atomic {setting : Setting}
    {meaning : List (Bytes ⊕ DuckValue) → Except (Option Thrown) DuckValue} {data : VectorData}
    {value : Zval}
    (faithful : Faithful setting meaning data (toConvert setting.validUtf8 data.fast [value]))
    (row : Int64) (rows : Rows Content) :
    Atomic setting meaning data.declaration rows (set setting data rows row value) row.toInt.toNat
      [value] := by
  rw [set]
  cases checked : checkRow data row 2 with
  | error rejected => exact .inl ⟨⟨_, rfl⟩, rfl⟩
  | ok =>
    have inside := checkRow_eq_ok.mp checked
    have bits := toUInt64_toNat inside.1
    rw [show row.toInt.toNat = row.toUInt64.toNat by omega]
    refine writeGuarded_atomic faithful ?_ rows
    rw [List.length_singleton]
    omega

/-- `setValues` changes nothing, or gives its rows the casts of the values and changes no other row.
-/
theorem setValues_atomic {setting : Setting}
    {meaning : List (Bytes ⊕ DuckValue) → Except (Option Thrown) DuckValue} {data : VectorData}
    {elements : Elements}
    (faithful : Faithful setting meaning data
      (toConvert setting.validUtf8 data.fast (values elements)))
    (offset : Int64) (rows : Rows Content) :
    Atomic setting meaning data.declaration rows (setValues setting data rows elements offset)
      offset.toInt.toNat (values elements) := by
  rw [setValues]
  split
  · cases checked : checkRange data offset elements.count 3 with
    | error rejected => exact .inl ⟨⟨_, rfl⟩, rfl⟩
    | ok =>
      have inside := checkRange_eq_ok.mp checked
      have bits := toUInt64_toNat inside.1
      rw [show offset.toInt.toNat = offset.toUInt64.toNat by omega]
      refine writeGuarded_atomic faithful ?_ rows
      rw [values_length]
      omega
  · exact .inl ⟨⟨_, rfl⟩, rfl⟩

/-! ## Scalar results -/

/-- The results that `write_results` converts: NULL is written directly only at a fast type. -/
def resultsToConvert (validUtf8 : Bytes → Bool) (kind : FastKind) (results : List Zval) :
    List Zval :=
  (results.map Zval.deref).filter fun result =>
    !(kind ≠ .none && result.isNull) && !duckdbVectorCanWriteFast validUtf8 kind result

/-- What a row holds that is written on the way. -/
def Direct (validUtf8 : Bytes → Bool) (kind : FastKind) (result : Zval) (content : Content) : Prop :=
  (kind ≠ .none ∧ result.isNull = true ∧ content = .null) ∨
    (duckdbVectorCanWriteFast validUtf8 kind result = true ∧
      storedFast kind result = some content)

/-- What the loop over results has done from a row on: `fresh` are the rows left for conversion. -/
structure Looped (setting : Setting) (output : VectorData) (row : Nat) (results : List Zval)
    (before after : Rows Content) (wrappers : List Zval) (fresh : List Nat) : Prop where
  /-- The other results are wrapped. -/
  wrapped : wrapAll output.declaration
    (resultsToConvert setting.validUtf8 output.fast results) = .ok wrappers
  /-- Their rows are different. -/
  distinct : fresh.Nodup
  /-- Their rows are among those of the results, each with its own. -/
  places : List.Forall₂ (fun target result => ∃ index, ∃ inside : index < results.length,
      target = row + index ∧ results[index].deref = result) fresh
    (resultsToConvert setting.validUtf8 output.fast results)
  /-- Every other row is written. -/
  written : ∀ index (inside : index < results.length), row + index ∉ fresh →
    Direct setting.validUtf8 output.fast results[index].deref (after (row + index))
  /-- No other row changes. -/
  others : ∀ other, other < row ∨ row + results.length ≤ other ∨ other ∈ fresh →
    after other = before other

/-- A direct write before the rest of the loop. -/
theorem Looped.direct {setting : Setting} {output : VectorData} {row : Nat} {result : Zval}
    {rest : List Zval} {before after : Rows Content} {wrappers : List Zval} {fresh : List Nat}
    {content : Content}
    (looped : Looped setting output (row + 1) rest (Function.update before row content) after
      wrappers fresh)
    (direct : Direct setting.validUtf8 output.fast result.deref content)
    (skipped : resultsToConvert setting.validUtf8 output.fast (result :: rest) =
      resultsToConvert setting.validUtf8 output.fast rest) :
    Looped setting output row (result :: rest) before after wrappers fresh where
  wrapped := skipped ▸ looped.wrapped
  distinct := looped.distinct
  places := by
    rw [skipped]
    refine looped.places.imp fun target item place => ?_
    obtain ⟨index, inside, rfl, same⟩ := place
    exact ⟨index + 1, Nat.succ_lt_succ inside, by omega, same⟩
  written index inside apart := by
    cases index with
    | zero =>
      have kept := looped.others row (.inl (Nat.lt_succ_self row))
      rw [Function.update_self] at kept
      rw [Nat.add_zero, kept]
      exact direct
    | succ index =>
      rw [show row + (index + 1) = row + 1 + index by omega] at apart ⊢
      exact looped.written index (Nat.lt_of_succ_lt_succ inside) apart
  others other apart := by
    have different : other ≠ row := by
      rintro rfl
      rcases apart with before | past | member
      · omega
      · rw [List.length_cons] at past
        omega
      · obtain ⟨place, -, index, inside, same, -⟩ := forall₂_partner looped.places other member
        omega
    rw [← Function.update_of_ne different content before]
    refine looped.others other ?_
    rw [List.length_cons] at apart
    rcases apart with before | past | member
    · exact .inl (by omega)
    · exact .inr (.inl (by omega))
    · exact .inr (.inr member)

/-- A result that is left for conversion, before the rest of the loop. -/
theorem Looped.deferred {setting : Setting} {output : VectorData} {row : Nat} {result : Zval}
    {rest : List Zval} {before after : Rows Content} {wrapper : Zval} {wrappers : List Zval}
    {fresh : List Nat}
    (looped : Looped setting output (row + 1) rest before after wrappers fresh)
    (made : duckdbValueInitialize output.declaration result.deref = .ok wrapper)
    (kept : resultsToConvert setting.validUtf8 output.fast (result :: rest) =
      result.deref :: resultsToConvert setting.validUtf8 output.fast rest) :
    Looped setting output row (result :: rest) before after (wrapper :: wrappers)
      (row :: fresh) where
  wrapped := by
    rw [kept, wrapAll, made]
    dsimp only
    rw [looped.wrapped]
    rfl
  distinct := by
    refine List.nodup_cons.mpr ⟨fun member => ?_, looped.distinct⟩
    obtain ⟨place, -, index, inside, same, -⟩ := forall₂_partner looped.places row member
    omega
  places := by
    rw [kept]
    refine .cons ⟨0, Nat.zero_lt_succ _, rfl, rfl⟩ (looped.places.imp fun target item place => ?_)
    obtain ⟨index, inside, rfl, same⟩ := place
    exact ⟨index + 1, Nat.succ_lt_succ inside, by omega, same⟩
  written index inside apart := by
    cases index with
    | zero => exact absurd List.mem_cons_self apart
    | succ index =>
      rw [show row + (index + 1) = row + 1 + index by omega] at apart ⊢
      exact looped.written index (Nat.lt_of_succ_lt_succ inside) fun member =>
        apart (List.mem_cons_of_mem _ member)
  others other apart := by
    refine looped.others other ?_
    rw [List.length_cons, List.mem_cons] at apart
    rcases apart with before | past | same | member
    · exact .inl (by omega)
    · exact .inr (.inl (by omega))
    · exact .inl (by omega)
    · exact .inr (.inr member)

/-- The loop over results writes the direct rows and leaves the others for conversion. -/
theorem resultRows_looped {setting : Setting} {output : VectorData} {results : List Zval} :
    ∀ {row : Nat} {before after : Rows Content} {inputs inputs' : List Zval}
      {targets targets' : List Nat},
      resultRows setting output row results before inputs targets =
          (after, .ok (inputs', targets')) →
        ∃ wrappers fresh, inputs' = inputs ++ wrappers ∧ targets' = targets ++ fresh ∧
          Looped setting output row results before after wrappers fresh := by
  induction results with
  | nil =>
    intro row before after inputs inputs' targets targets' run
    obtain ⟨rfl, same⟩ := Prod.mk.inj run
    obtain ⟨rfl, rfl⟩ := Prod.mk.inj (Except.ok.inj same)
    exact ⟨[], [], (List.append_nil _).symm, (List.append_nil _).symm, rfl, List.nodup_nil, .nil,
      fun index inside => absurd inside (Nat.not_lt_zero _), fun _ _ => rfl⟩
  | cons result rest ih =>
    intro row before after inputs inputs' targets targets' run
    rw [resultRows] at run
    by_cases null : output.fast ≠ .none ∧ result.deref.isNull = true
    · rw [if_pos null] at run
      obtain ⟨wrappers, fresh, same, also, looped⟩ := ih run
      refine ⟨wrappers, fresh, same, also, looped.direct (.inl ⟨null.1, null.2, rfl⟩) ?_⟩
      simp [resultsToConvert, null]
    · rw [if_neg null] at run
      by_cases fast : duckdbVectorCanWriteFast setting.validUtf8 output.fast result.deref = true
      · obtain ⟨content, stored⟩ := Option.isSome_iff_exists.mp (stored_of_fast fast)
        rw [if_pos fast, duckdbVectorWriteFast, stored] at run
        obtain ⟨wrappers, fresh, same, also, looped⟩ := ih run
        refine ⟨wrappers, fresh, same, also, looped.direct (.inr ⟨fast, stored⟩) ?_⟩
        simp [resultsToConvert, fast]
      · rw [if_neg fast] at run
        cases made : duckdbValueInitialize output.declaration result.deref with
        | error thrown =>
          rw [made] at run
          cases (Prod.mk.inj run).2
        | ok wrapper =>
          rw [made] at run
          obtain ⟨wrappers, fresh, rfl, rfl, looped⟩ := ih run
          refine ⟨wrapper :: wrappers, row :: fresh, List.append_assoc .., List.append_assoc ..,
            looped.deferred made ?_⟩
          rw [not_and_or, not_not] at null
          rcases null with none | notNull
          · rw [none] at fast
            simp [resultsToConvert, none, fast]
          · simp [resultsToConvert, notNull, fast]

/-- The value of NULL at a declaration is NULL. -/
theorem cast_null {setting : Setting}
    {meaning : List (Bytes ⊕ DuckValue) → Except (Option Thrown) DuckValue} {data : VectorData}
    {pending : List Zval} (faithful : Faithful setting meaning data pending) {declaration : Bytes}
    {input : Zval} (null : input.isNull = true) {result : DuckValue}
    (cast : CastOf setting meaning declaration input result) : setting.held result = .null := by
  obtain ⟨wrapper, made, text, after, written, value⟩ := cast
  have nothing : input = .null := by
    cases input <;> first | rfl | cases null
  rw [nothing, duckdbValueInitialize] at made
  split at made
  · cases made
  · rename_i canonical_ canonical
    obtain rfl := Except.ok.inj made
    obtain ⟨pair, resolved, typed⟩ := Outcome.bind_eq_ok.mp
      (show (resolve (setting.engine.native setting.makesVarchar) canonical_ ⟨[], []⟩ >>= fun pair =>
        Value.typed (setting.engine.native setting.makesVarchar) 64 .null pair.1 canonical_ pair.2) = _ from written)
    have fresh : Resolved (setting.engine.native setting.makesVarchar) ⟨[], []⟩ := fun type metadata never => nomatch never
    cases resolve_run fresh canonical_ with
    | inl failed =>
      obtain ⟨thrown, -, failed⟩ := failed
      cases resolved.symm.trans failed
    | inr succeeded =>
      obtain ⟨metadata, -, prepared, -, -⟩ := succeeded
      obtain ⟨rfl, -⟩ := Prod.mk.inj (Except.ok.inj typed)
      obtain ⟨other, also, held⟩ := faithful.nulls canonical_ metadata prepared
      obtain rfl := Except.ok.inj (value.symm.trans also)
      exact held

/-- Values of the right type are copied like those of other writes. -/
theorem copyResults_rows {setting : Setting} {type : LogicalType} {room : Nat} :
    ∀ {items : List DuckValue} {targets : List Nat} {before after : Rows Content},
      copyResults setting type room items targets before = (after, true) →
        after = writeConverted setting room (targets.zip items) before
  | [], [], before, after, copied => (Prod.mk.inj copied).1.symm
  | [], _ :: _, before, after, copied => (Prod.mk.inj copied).1.symm
  | _ :: _, [], before, after, copied => (Prod.mk.inj copied).1.symm
  | item :: items, target :: targets, before, after, copied => by
    rw [copyResults] at copied
    split at copied
    · have later := copyResults_rows copied
      exact later
    · cases (Prod.mk.inj copied).2

/-- Copies to different rows of the vector all take effect, and no other row changes. -/
theorem writeConverted_rows (setting : Setting) {room : Nat} {related : Nat → DuckValue → Prop}
    {targets : List Nat} {items : List DuckValue} (each : List.Forall₂ related targets items)
    (inside : ∀ target ∈ targets, target < room) (distinct : targets.Nodup)
    (rows : Rows Content) :
    (∀ target ∈ targets, ∃ item, related target item ∧
        writeConverted setting room (targets.zip items) rows target = setting.held item) ∧
      ∀ row, row ∉ targets →
        writeConverted setting room (targets.zip items) rows row = rows row := by
  induction each generalizing rows with
  | nil => exact ⟨fun target never => (List.not_mem_nil never).elim, fun _ _ => rfl⟩
  | @cons target item rest items head _ ih =>
    have fresh := List.nodup_cons.mp distinct
    rw [List.forall_mem_cons] at inside
    obtain ⟨copied, others⟩ :=
      ih inside.2 fresh.2 (Function.update rows target (setting.held item))
    rw [List.zip_cons_cons, writeConverted, copyConstant_eq setting inside.1]
    constructor
    · intro other member
      cases List.mem_cons.mp member with
      | inl here => exact ⟨item, here ▸ head, by rw [here, others target fresh.1,
          Function.update_self]⟩
      | inr further => exact copied other further
    · intro row apart
      rw [List.mem_cons, not_or] at apart
      rw [others row apart.2, Function.update_of_ne apart.1]

/-- A row that was written on the way holds its result's cast. -/
theorem direct_cell {setting : Setting}
    {meaning : List (Bytes ⊕ DuckValue) → Except (Option Thrown) DuckValue} {output : VectorData}
    {pending : List Zval} (faithful : Faithful setting meaning output pending) {result : Zval}
    {content : Content} (direct : Direct setting.validUtf8 output.fast result.deref content) :
    CellOf setting meaning output.declaration result content := by
  rw [CellOf]
  cases direct with
  | inl null => rw [if_pos null.2.1, null.2.2]
  | inr fast =>
    obtain ⟨accepted, stored⟩ := fast
    obtain ⟨value, cast, also⟩ := cast_fast faithful accepted
    split
    · rename_i null
      rw [← cast_null faithful null cast]
      exact Option.some.inj (stored.symm.trans also)
    · exact ⟨value, cast, Option.some.inj (stored.symm.trans also)⟩

/-- Scalar results that are accepted are the casts of the returned values, row by row. -/
theorem writeResults_rows {setting : Setting}
    {meaning : List (Bytes ⊕ DuckValue) → Except (Option Thrown) DuckValue} {output : VectorData}
    {results : Zval}
    (faithful : Faithful setting meaning output
      (resultsToConvert setting.validUtf8 output.fast (values results.elements)))
    {count : Nat} {before after : Rows Content}
    (written : writeResults setting output results count before = (after, .ok ())) :
    (values results.elements).length = count ∧
      (∀ index (inside : index < (values results.elements).length),
        CellOf setting meaning output.declaration (values results.elements)[index] (after index)) ∧
      ∀ row, count ≤ row → after row = before row := by
  rw [writeResults] at written
  split at written
  · cases (Prod.mk.inj written).2
  · rename_i accepted
    rw [not_or, not_or, not_not] at accepted
    have length := (values_length results.elements).trans accepted.2.2
    split at written
    · cases (Prod.mk.inj written).2
    · rename_i middle inputs targets looped
      obtain ⟨_, _, same, also, loop⟩ := resultRows_looped looped
      rw [List.nil_append] at same also
      rw [← same, ← also] at loop
      dsimp only at written
      split at written
      · cases (Prod.mk.inj written).2
      · rename_i converted converts
        have each : List.Forall₂ (CastOf setting meaning output.declaration)
            (resultsToConvert setting.validUtf8 output.fast (values results.elements))
            converted := by
          have wrapped := loop.wrapped
          generalize resultsToConvert setting.validUtf8 output.fast (values results.elements) =
            pending at faithful wrapped
          cases pending with
          | nil =>
            obtain rfl := Except.ok.inj wrapped
            rw [if_pos rfl] at converts
            obtain rfl := Except.ok.inj converts
            exact .nil
          | cons input rest =>
            have some_ : inputs ≠ [] := by
              rintro rfl
              cases wrapAll_each wrapped
            rw [if_neg some_] at converts
            exact wrappers_each wrapped (List.cons_ne_nil _ _)
              (faithful.evaluates _ inputs (List.infix_refl _) wrapped) converts
        cases copied : copyResults setting output.type count converted targets middle with
        | mk last done =>
          rw [copied] at written
          cases done with
          | false => cases (Prod.mk.inj written).2
          | true =>
            obtain rfl := (Prod.mk.inj written).1
            obtain rfl := copyResults_rows copied
            have casts : List.Forall₂ (fun target item =>
                ∃ inside : target < (values results.elements).length,
                  CastOf setting meaning output.declaration
                    (values results.elements)[target].deref item) targets converted := by
              refine forall₂_through (fun target input item place cast => ?_) loop.places each
              obtain ⟨index, inside, rfl, rfl⟩ := place
              simp only [Nat.zero_add]
              exact ⟨inside, cast⟩
            have small : ∀ target ∈ targets, target < count := fun target member => by
              obtain ⟨-, -, index, inside, rfl, -⟩ := forall₂_partner loop.places target member
              omega
            obtain ⟨copies, others⟩ :=
              writeConverted_rows setting casts small loop.distinct middle
            refine ⟨length, fun index inside => ?_, fun row past => ?_⟩
            · by_cases deferred : index ∈ targets
              · obtain ⟨item, ⟨_, cast⟩, copied⟩ := copies index deferred
                rw [copied, CellOf]
                split
                · rename_i null
                  exact cast_null faithful null cast
                · exact ⟨item, cast, rfl⟩
              · rw [others index deferred]
                have direct := loop.written index inside (by rwa [Nat.zero_add])
                rw [Nat.zero_add] at direct
                exact direct_cell faithful direct
            · have apart : row ∉ targets := fun member => Nat.not_lt.mpr past (small row member)
              rw [others row apart]
              exact loop.others row (.inr (.inl (by omega)))

/-! ## All writes -/

/-- `Vector::set` and `Vector::setValues` change nothing or give every row of their range the cast of
its input. The accepted results of a scalar function are the casts of the returned values. A fast
write stores the value of the typed conversion. -/
theorem writes_atomic {setting : Setting}
    {meaning : List (Bytes ⊕ DuckValue) → Except (Option Thrown) DuckValue} {data : VectorData}
    (value results : Zval) (elements : Elements)
    (single : Faithful setting meaning data (toConvert setting.validUtf8 data.fast [value]))
    (many : Faithful setting meaning data
      (toConvert setting.validUtf8 data.fast (values elements)))
    (returned : Faithful setting meaning data
      (resultsToConvert setting.validUtf8 data.fast (values results.elements)))
    (rows : Rows Content) :
    (∀ row, Atomic setting meaning data.declaration rows (set setting data rows row value)
      row.toInt.toNat [value]) ∧
    (∀ offset, Atomic setting meaning data.declaration rows
      (setValues setting data rows elements offset) offset.toInt.toNat (values elements)) ∧
    (∀ count after, writeResults setting data results count rows = (after, .ok ()) →
      (values results.elements).length = count ∧
        (∀ index (inside : index < (values results.elements).length),
          CellOf setting meaning data.declaration (values results.elements)[index]
            (after index)) ∧
        ∀ row, count ≤ row → after row = rows row) ∧
    ∀ input row, duckdbVectorCanWriteFast setting.validUtf8 data.fast input = true →
      (∃ result, CastOf setting meaning data.declaration input result) ∧
        ∀ result, CastOf setting meaning data.declaration input result →
          duckdbVectorWriteFast rows data.fast row input =
            Function.update rows row (setting.held result) := by
  refine ⟨fun row => set_atomic single row rows, fun offset => setValues_atomic many offset rows,
    fun count after written => writeResults_rows returned written, fun input row fast => ?_⟩
  obtain ⟨result, cast, stored⟩ := cast_fast single fast
  refine ⟨⟨result, cast⟩, fun other also => ?_⟩
  rw [duckdbVectorWriteFast, stored, castOf_unique cast also]

/-- The text that is cast to a boolean. -/
def yesInput : Zval := .string (lit "yes")

/-- A database that casts one text to BOOLEAN. -/
def castsYes : Engine where
  registry := none
  prepare _ := .ok (.plain .boolean none)
  capture := lit "capture"
  execute _ params :=
    match params with
    | [.varchar _, .bigint _] => .ok [.bool true, .bigint 0]
    | _ => .error none

/-- A connection to the database that casts the text. -/
def yesSetting : Setting where
  engine := castsYes
  makesVarchar := everyText
  access := Access.granted
  copier := .plain
  validUtf8 _ := true
  held
    | .null => .null
    | .bool flag => .boolean flag
    | other => .native other
  render _ := lit "BOOLEAN"

/-- What the casts of this database mean. -/
def yesMeaning : List (Bytes ⊕ DuckValue) → Except (Option Thrown) DuckValue
  | [_, .inr (.varchar _), _] => .ok (.bool true)
  | [_, .inr item, _] => .ok item
  | _ => .error none

/-- A vector with room for two booleans. -/
def twoBooleans : VectorData where
  vector := 0
  type := .plain .boolean none
  declaration := lit "BOOLEAN"
  capacity := 2
  fast := .boolean
  small := by decide
  declared := rfl
  kind := rfl

/-- Two values, one of which is fast. -/
def mixedInputs : Elements := .cons (.index 0) (.bool false) (.cons (.index 1) yesInput .nil)

/-- The word is wrapped as it is. -/
theorem yesInput_wrapped : duckdbValueInitialize (lit "BOOLEAN") yesInput =
    .ok (.value (some ⟨lit "BOOLEAN", lit "BOOLEAN", by decide +kernel⟩) yesInput) :=
  initialize_canonical (by decide +kernel) rfl

/-- The database answers for the word as it does for its cast. -/
theorem yesInput_faithful : Faithful yesSetting yesMeaning twoBooleans [yesInput] where
  evaluates batch wrappers part wrapped := by
    intro texts middle text builder answers written built executed length
    obtain rfl | rfl := List.sublist_singleton.mp part.sublist
    · obtain rfl := Except.ok.inj wrapped
      obtain ⟨-, rfl⟩ := Prod.mk.inj (Except.ok.inj built)
      cases executed
    · rw [show twoBooleans.declaration = lit "BOOLEAN" from rfl, wrapAll, yesInput_wrapped] at wrapped
      obtain rfl := Except.ok.inj wrapped
      obtain ⟨rfl, -⟩ := Prod.mk.inj (Except.ok.inj written)
      obtain ⟨-, rfl⟩ := Prod.mk.inj (Except.ok.inj built)
      obtain rfl := Except.ok.inj executed
      exact .cons rfl .nil
  resolves _ := rfl
  texts _ _ := rfl
  identity := by
    refine ⟨fun _ flag => ⟨.bool flag, rfl, rfl⟩, fun low high range => ?_, ?_, ?_, ?_⟩
    · cases range
    all_goals exact fun other => nomatch other
  nulls _ _ _ := ⟨.null, rfl, rfl⟩

/-- The database converts the word to true. -/
theorem yesInput_converts :
    convertInputs yesSetting twoBooleans [yesInput] = .ok [.bool true] := by
  have batch : convertBatch yesSetting twoBooleans [yesInput] = .ok [.bool true] := by
    rw [convertBatch, show twoBooleans.declaration = lit "BOOLEAN" from rfl, wrapAll,
      yesInput_wrapped]
    rfl
  have done : convertInputs yesSetting twoBooleans [] = .ok [] := by rw [convertInputs, if_pos rfl]
  rw [convertInputs, if_neg (List.cons_ne_nil _ _),
    show [yesInput].take conversionBatch = [yesInput] from rfl,
    show [yesInput].drop conversionBatch = [] from rfl, batch, done]
  rfl

/-- Both the fast path and the conversion fill a vector of booleans. -/
theorem writes_atomic_booleans :
    ∃ result, CastOf yesSetting yesMeaning (lit "BOOLEAN") yesInput result ∧
      (setValues yesSetting twoBooleans (fun _ => .null) mixedInputs 0).1 1 =
        yesSetting.held result := by
  have written := (writes_atomic yesInput (.array mixedInputs) mixedInputs yesInput_faithful
    yesInput_faithful yesInput_faithful (fun _ => .null)).2.1 0
  cases written with
  | inl failed =>
    obtain ⟨⟨error, failed⟩, -⟩ := failed
    have succeeds : (setValues yesSetting twoBooleans (fun _ => .null) mixedInputs 0).2 =
        .ok () := by
      show Except.mapError WriteError.thrown (Prod.snd
        (match convertInputs yesSetting twoBooleans [yesInput] with
          | .error _ => _
          | .ok _ => _)) = _
      rw [yesInput_converts]
      rfl
    cases succeeds.symm.trans failed
  | inr written => exact written.2.1 1 (by decide)

end PhpDuckdb.Vector
