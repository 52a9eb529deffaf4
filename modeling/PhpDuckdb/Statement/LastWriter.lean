import PhpDuckdb.Lib.OrderedTable
import PhpDuckdb.Statement.Bindings
import PhpDuckdb.Value.Evaluation

/-!
# The last writer of a parameter wins

The ledger of a statement is the value supplied last for every index: a value that was converted
when it was supplied, or a wrapper. The two stores of bindings represent it, and every execution
that reaches DuckDB runs exactly its values, wrappers converted again.
-/

namespace PhpDuckdb.Statement

open SqlText Value Connection

/-- DuckDB evaluates the arguments of the statements that convert typed values one by one: each has
its own meaning, whatever else is in its batch. -/
structure Evaluation {Env : Type} (database : Database Env) where
  /-- The value of an argument. -/
  meaning : Env → List (Bytes ⊕ DuckValue) → Except (Option Thrown) DuckValue
  /-- A batch captures the values of its arguments. -/
  evaluates : ∀ env inputs,
    EvaluatesEach database.makesVarchar (database.engine env) (meaning env) inputs

section Alone

variable {Env : Type} {database : Database Env} (evaluation : Evaluation database)

/-- What an input of a batch with wrappers is converted to, whatever else is in the batch. -/
def alone (env : Env) (input : Zval) : DuckValue :=
  match inferred ((database.engine env).native database.makesVarchar) 65 input ⟨[], []⟩ with
  | .error _ => .null
  | .ok (text, _) =>
    match evaluation.meaning env text.pieces with
    | .ok value => value
    | .error _ => .null

/-- The conversion of one input of a batch. -/
def convertedIn (batchTyped : Bool) (env : Env) (input : Zval) : DuckValue :=
  if batchTyped then alone evaluation env input
  else
    match duckdbPhpToDuckdbValue database.makesVarchar input with
    | .ok value => value
    | .error _ => .null

variable {evaluation}

/-- An input that converts by itself has its value. -/
theorem alone_of_converts {env : Env} {input : Zval} {result : DuckValue}
    (converts : ConvertsTo database.makesVarchar (database.engine env) (evaluation.meaning env)
      input result) : alone evaluation env input = result := by
  obtain ⟨text, after, written, value⟩ := converts
  rw [alone, written]
  dsimp only
  rw [value]

/-- An input converts alone to the value of what it refers to. -/
theorem alone_deref {env : Env} {input : Zval} {result : DuckValue}
    (converts : ConvertsTo database.makesVarchar (database.engine env) (evaluation.meaning env)
      input result) : alone evaluation env input.deref = alone evaluation env input := by
  obtain ⟨text, after, written, -⟩ := converts
  have direct := (Zval.followed_deref (inferred_followed _ 65 written)).1
  rw [alone, alone, inferred_deref _ 65 direct]

/-- The inputs of a batch that converts keep their values when their references are followed. -/
theorem alone_followed {env : Env} {inputs : List Zval} {outputs : List DuckValue}
    (each : List.Forall₂ (ConvertsTo database.makesVarchar (database.engine env)
      (evaluation.meaning env)) inputs outputs) :
    ∀ input ∈ inputs, alone evaluation env input.deref = alone evaluation env input := by
  induction each with
  | nil => exact fun _ never => nomatch never
  | cons head tail ih => exact List.forall_mem_cons.mpr ⟨alone_deref head, ih⟩

variable (evaluation) in
/-- A batch with wrappers that succeeds converts every input by itself. -/
theorem convertsEach {env : Env} {inputs : List Zval} {outputs : List DuckValue}
    (wrapped : inputs.any Zval.containsTyped = true)
    (converted : duckdbConvertValues database env inputs = .ok outputs) :
    List.Forall₂ (ConvertsTo database.makesVarchar (database.engine env) (evaluation.meaning env))
      inputs outputs :=
  convertValues_each (evaluation.evaluates env inputs) wrapped converted

variable (evaluation) in
/-- A batch that succeeds has the conversion of each input. -/
theorem duckdbConvertValues_ok {env : Env} {inputs : List Zval} {outputs : List DuckValue}
    (converted : duckdbConvertValues database env inputs = .ok outputs) :
    outputs = inputs.map (convertedIn evaluation (inputs.any Zval.containsTyped) env) := by
  cases wrapped : inputs.any Zval.containsTyped with
  | true =>
    have each := convertsEach evaluation wrapped converted
    clear wrapped converted
    induction each with
    | nil => rfl
    | cons head tail ih =>
      rw [List.map_cons, ← ih, convertedIn, if_pos rfl, alone_of_converts head]
  | false =>
    have plain : inputs.mapM (duckdbPhpToDuckdbValue database.makesVarchar) = .ok outputs := by
      rw [duckdbConvertValues, convertValues, wrapped] at converted
      exact converted
    clear wrapped converted
    induction inputs generalizing outputs with
    | nil =>
      obtain rfl := Except.ok.inj plain
      rfl
    | cons input rest ih =>
      rw [List.mapM_cons] at plain
      obtain ⟨value, first, later⟩ := Outcome.bind_eq_ok.mp plain
      obtain ⟨values, others, same⟩ := Outcome.bind_eq_ok.mp later
      obtain rfl := Except.ok.inj same
      rw [ih others]
      simp [convertedIn, first]

end Alone

/-- A value that a call supplied. -/
inductive Supply
  /-- Converted when it was supplied. -/
  | plain (value : DuckValue)
  /-- Converted for each execution. -/
  | wrapper (input : Zval)

/-- The value supplied last for every index. -/
abbrev Ledger := Nat → Option Supply

section Runs

variable {Env : Type} (signature : Signature) {database : Database Env}
  (evaluation : Evaluation database) (accepts : Nat → DuckValue → Bool)

/-- The value that a supply stands for in an environment. -/
def Supply.value (env : Env) : Supply → DuckValue
  | .plain value => value
  | .wrapper input => alone evaluation env input

/-- What an execution supplies with an input. -/
def supplyOf (batchTyped : Bool) (env : Env) (input : Zval) : Supply :=
  if input.containsTyped then .wrapper input.deref else .plain (convertedIn evaluation batchTyped env input)

/-- The ledger after some values were supplied in order. -/
def supplyAll (batchTyped : Bool) (env : Env) (ledger : Ledger) (supplied : List (Nat × Zval)) :
    Ledger :=
  supplied.foldl (fun ledger entry =>
    Function.update ledger entry.1 (some (supplyOf evaluation batchTyped env entry.2))) ledger

/-- Some wrapper stays that the values of an execution do not replace. -/
def KeepsWrapper (ledger : Ledger) (supplied : List (Nat × Zval)) : Prop :=
  ∃ index, index ∉ supplied.map Prod.fst ∧ ∃ input, ledger index = some (.wrapper input)

open Classical in
/-- The values of an execution are converted in one batch with the wrappers that stay: the batch
is typed when any of them is. -/
noncomputable def batchTyped (ledger : Ledger) (supplied : List (Nat × Zval)) : Bool :=
  (supplied.map Prod.snd).any Zval.containsTyped || decide (KeepsWrapper ledger supplied)

/-- What a call that did not fail makes of the ledger. An execution supplies the values of its
array. -/
noncomputable def Ledger.after (ledger : Ledger) : Call Env → Ledger
  | .bindValue param value =>
    match duckdbResolveParamIndex signature param with
    | .error _ => ledger
    | .ok index =>
      Function.update ledger index (some (if value.containsTyped then .wrapper value.deref
        else .plain (match duckdbPhpToDuckdbValue database.makesVarchar value with
          | .ok value => value
          | .error _ => .null)))
  | .bindBlob param value =>
    match duckdbResolveParamIndex signature param with
    | .error _ => ledger
    | .ok index => Function.update ledger index (some (.plain (.blob (stringText value))))
  | .clearBindings => fun _ => none
  | .execute _ env params _ =>
    match duckdbCollectParams signature (params.getD .nil) with
    | .error _ => ledger
    | .ok supplied =>
      supplyAll evaluation (batchTyped ledger supplied) env ledger supplied

/-- A statement with its ledger, which only records the calls. -/
structure State where
  /-- The two stores. -/
  bindings : Bindings
  /-- What was supplied last. -/
  ledger : Ledger

/-- A statement that was just prepared. -/
def State.fresh : State := ⟨Bindings.fresh, fun _ => none⟩

/-- A call and what its guards look at. -/
structure Request (Env : Type) where
  /-- What the guards look at. -/
  access : Access
  /-- The call. -/
  call : Call Env

/-- The call failed before the statement ran. -/
def Result.isFailure : Result → Bool
  | .failed _ => true
  | _ => false

/-- One call; it is recorded unless it failed. -/
noncomputable def step (state : State) (request : Request Env) : Option State :=
  let (bindings, result) := call signature database accepts request.access state.bindings request.call
  some ⟨bindings,
    if result.isFailure then state.ledger
    else state.ledger.after signature evaluation request.call⟩

/-- The machine of one statement. -/
noncomputable def statement : Machine State (Request Env) := ⟨step signature evaluation accepts⟩

/-! ## The stores represent the ledger -/

/-- What the stores hold of the ledger. -/
structure Represents (bindings : Bindings) (ledger : Ledger) : Prop where
  /-- An index has one deferred wrapper at most. -/
  distinct : (OrderedTable.keys bindings.deferred).Nodup
  /-- Deferred values contain typed values. -/
  wrappers : ∀ entry ∈ bindings.deferred, entry.2.containsTyped = true
  /-- A deferred wrapper was supplied last. -/
  deferred : ∀ index input, OrderedTable.find index bindings.deferred = some input →
    ledger index = some (.wrapper input)
  /-- Without one, the native binding was supplied last, if anything was. -/
  native : ∀ index, OrderedTable.find index bindings.deferred = none →
    ledger index = (bindings.native index).map .plain

/-- A new statement represents that no value was supplied yet. -/
theorem represents_fresh : Represents Bindings.fresh fun _ => none where
  distinct := List.nodup_nil
  wrappers := by simp [Bindings.fresh]
  deferred := by simp [Bindings.fresh]
  native := by simp [Bindings.fresh]

/-- Following references changes no typed content. -/
theorem containsTyped_deref (input : Zval) : input.deref.containsTyped = input.containsTyped := by
  cases input <;> rfl

variable {signature evaluation accepts}

/-- A wrapper goes to the deferred store. -/
theorem Represents.wrapper {bindings : Bindings} {ledger : Ledger}
    (ok : Represents bindings ledger) (index : Nat) {input : Zval}
    (isTyped : input.containsTyped = true) (native : Nat → Option DuckValue)
    (same : ∀ other, other ≠ index → native other = bindings.native other) :
    Represents ⟨native, OrderedTable.update index input.deref bindings.deferred⟩
      (Function.update ledger index (some (.wrapper input.deref))) where
  distinct := OrderedTable.nodup_update ok.distinct index _
  wrappers := by
    rintro ⟨stored, value⟩ found
    have distinct := OrderedTable.nodup_update ok.distinct index input.deref
    rw [OrderedTable.mem_iff_find distinct, OrderedTable.find_update] at found
    split at found
    · obtain rfl := Option.some.inj found
      rw [containsTyped_deref]
      exact isTyped
    · exact ok.wrappers (stored, value) ((OrderedTable.mem_iff_find ok.distinct).mpr found)
  deferred := by
    intro other value found
    rw [OrderedTable.find_update] at found
    split at found
    · rename_i here
      subst here
      obtain rfl := Option.some.inj found
      simp
    · rename_i elsewhere
      rw [Function.update_of_ne (Ne.symm elsewhere)]
      exact ok.deferred other value found
  native := by
    intro other found
    rw [OrderedTable.find_update] at found
    split at found
    · simp at found
    · rename_i elsewhere
      have stays := ok.native other found
      rw [← same other (Ne.symm elsewhere)] at stays
      rw [Function.update_of_ne (Ne.symm elsewhere)]
      exact stays

/-- A plain value goes to the native store and replaces a wrapper. -/
theorem Represents.plain {bindings : Bindings} {ledger : Ledger} (ok : Represents bindings ledger)
    (index : Nat) (value : DuckValue) :
    Represents ⟨Function.update bindings.native index (some value),
      OrderedTable.delete index bindings.deferred⟩
      (Function.update ledger index (some (.plain value))) where
  distinct := OrderedTable.nodup_delete ok.distinct index
  wrappers := by
    intro entry found
    exact ok.wrappers entry (List.mem_of_mem_filter found)
  deferred := by
    intro other input found
    rw [OrderedTable.find_delete] at found
    split at found
    · simp at found
    · rename_i elsewhere
      rw [Function.update_of_ne (Ne.symm elsewhere)]
      exact ok.deferred other input found
  native := by
    intro other found
    rw [OrderedTable.find_delete] at found
    split at found
    · rename_i here
      subst here
      simp
    · rename_i elsewhere
      rw [Function.update_of_ne (Ne.symm elsewhere)]
      simp only [ne_eq, Ne.symm elsewhere, not_false_eq_true, Function.update_of_ne]
      exact ok.native other found

/-- Native bindings of deferred indices do not matter. -/
theorem Represents.native_irrelevant {bindings : Bindings} {ledger : Ledger}
    (ok : Represents bindings ledger) {native : Nat → Option DuckValue}
    (same : ∀ index, OrderedTable.find index bindings.deferred = none →
      native index = bindings.native index) :
    Represents ⟨native, bindings.deferred⟩ ledger where
  distinct := ok.distinct
  wrappers := ok.wrappers
  deferred := ok.deferred
  native := by
    intro index found
    have stays := ok.native index found
    rw [← same index found] at stays
    exact stays

/-! ## Executions -/

/-- DuckDB's bindings after some values were bound in order. -/
def bindAll (values : List (Nat × DuckValue)) (native : Nat → Option DuckValue) :
    Nat → Option DuckValue :=
  values.foldl (fun native entry => Function.update native entry.1 (some entry.2)) native

/-- When DuckDB accepts every value, all of them are bound. -/
theorem duckdbBindConverted_all (all : ∀ index value, accepts index value = true)
    (values : List (Nat × DuckValue)) (native : Nat → Option DuckValue) :
    duckdbBindConverted accepts values native = (bindAll values native, .ok ()) := by
  induction values generalizing native with
  | nil => rfl
  | cons entry rest ih =>
    obtain ⟨index, value⟩ := entry
    simp only [duckdbBindConverted, all, ↓reduceIte, ih]
    rfl

/-- A binding that no later value replaces stays. -/
theorem bindAll_other (values : List (Nat × DuckValue)) (native : Nat → Option DuckValue)
    {index : Nat} (other : index ∉ values.map Prod.fst) : bindAll values native index =
      native index := by
  induction values generalizing native with
  | nil => rfl
  | cons entry rest ih =>
    simp only [List.map_cons, List.mem_cons, not_or] at other
    have tail := ih (Function.update native entry.1 (some entry.2)) other.2
    rw [Function.update_of_ne other.1] at tail
    exact tail

/-- Among values of distinct indices, each is bound. -/
theorem bindAll_mem {values : List (Nat × DuckValue)} (distinct : (values.map Prod.fst).Nodup)
    (native : Nat → Option DuckValue) {index : Nat} {value : DuckValue}
    (found : (index, value) ∈ values) : bindAll values native index = some value := by
  induction values generalizing native with
  | nil => simp at found
  | cons entry rest ih =>
    obtain ⟨fresh, others⟩ := List.nodup_cons.mp distinct
    rcases List.mem_cons.mp found with rfl | later
    · have stays := bindAll_other rest (Function.update native index (some value)) fresh
      rw [Function.update_self] at stays
      exact stays
    · exact ih others _ later

/-- The values of an execution's own array, in the stores and in the ledger: the stores go on
representing the ledger, and the wrappers among them are bound as this execution converts them. -/
theorem represents_supplied {ledger : Ledger} {native : Nat → Option DuckValue}
    {deferred : List (Nat × Zval)} (ok : Represents ⟨native, deferred⟩ ledger) (env : Env)
    (batchTyped : Bool) (supplied : List (Nat × Zval))
    (isTyped : (supplied.map Prod.snd).any Zval.containsTyped = true → batchTyped = true)
    (followed : batchTyped = true → ∀ entry ∈ supplied,
      alone evaluation env entry.2.deref = alone evaluation env entry.2)
    (before : List Nat) (bound : ∀ index ∈ before, ∀ input,
      OrderedTable.find index deferred = some input →
        native index = some (alone evaluation env input)) :
    Represents ⟨bindAll (supplied.map fun entry =>
        (entry.1, convertedIn evaluation batchTyped env entry.2)) native, persist supplied deferred⟩
      (supplyAll evaluation batchTyped env ledger supplied) ∧
    ∀ index, index ∈ before ∨ index ∈ supplied.map Prod.fst → ∀ input,
      OrderedTable.find index (persist supplied deferred) = some input →
        bindAll (supplied.map fun entry =>
          (entry.1, convertedIn evaluation batchTyped env entry.2)) native index =
            some (alone evaluation env input) := by
  induction supplied generalizing ledger native deferred before with
  | nil => exact ⟨ok, fun index found => bound index (by simpa using found)⟩
  | cons entry rest ih =>
    obtain ⟨index, input⟩ := entry
    simp only [List.map_cons, List.any_cons, Bool.or_eq_true] at isTyped
    have later : (rest.map Prod.snd).any Zval.containsTyped = true → batchTyped = true :=
      fun found => isTyped (.inr found)
    have others : batchTyped = true → ∀ entry ∈ rest,
        alone evaluation env entry.2.deref = alone evaluation env entry.2 :=
      fun whole entry member => followed whole entry (List.mem_cons_of_mem _ member)
    cases contains : input.containsTyped with
    | true =>
      have whole := isTyped (.inl contains)
      have step := ok.wrapper index contains
        (Function.update native index (some (convertedIn evaluation batchTyped env input)))
        (fun other elsewhere => Function.update_of_ne elsewhere ..)
      have boundNow : ∀ other ∈ index :: before, ∀ value,
          OrderedTable.find other (OrderedTable.update index input.deref deferred) = some value →
            Function.update native index (some (convertedIn evaluation batchTyped env input)) other =
              some (alone evaluation env value) := by
        intro other found value stored
        rw [OrderedTable.find_update] at stored
        split at stored
        · rename_i here
          subst here
          obtain rfl := Option.some.inj stored
          simp [convertedIn, whole, followed whole (index, input) List.mem_cons_self]
        · rename_i elsewhere
          have earlier : other ∈ before := by
            rcases List.mem_cons.mp found with same | member
            · exact absurd same.symm elsewhere
            · exact member
          rw [Function.update_of_ne (Ne.symm elsewhere)]
          exact bound other earlier value stored
      obtain ⟨represents, values⟩ := ih step later others (index :: before) boundNow
      have folded : supplyAll evaluation batchTyped env ledger ((index, input) :: rest) =
          supplyAll evaluation batchTyped env
            (Function.update ledger index (some (.wrapper input.deref))) rest := by
        simp [supplyAll, supplyOf, contains]
      rw [folded]
      simp only [persist, contains, ↓reduceIte]
      refine ⟨represents, fun other found => values other ?_⟩
      simpa [or_assoc, or_comm, or_left_comm] using found
    | false =>
      have step := ok.plain index (convertedIn evaluation batchTyped env input)
      have boundNow : ∀ other ∈ index :: before, ∀ value,
          OrderedTable.find other (OrderedTable.delete index deferred) = some value →
            Function.update native index (some (convertedIn evaluation batchTyped env input)) other =
              some (alone evaluation env value) := by
        intro other found value stored
        rw [OrderedTable.find_delete] at stored
        split at stored
        · simp at stored
        · rename_i elsewhere
          have earlier : other ∈ before := by
            rcases List.mem_cons.mp found with same | member
            · exact absurd same.symm elsewhere
            · exact member
          rw [Function.update_of_ne (Ne.symm elsewhere)]
          exact bound other earlier value stored
      obtain ⟨represents, values⟩ := ih step later others (index :: before) boundNow
      have folded : supplyAll evaluation batchTyped env ledger ((index, input) :: rest) =
          supplyAll evaluation batchTyped env (Function.update ledger index
            (some (.plain (convertedIn evaluation batchTyped env input)))) rest := by
        simp [supplyAll, supplyOf, contains]
      rw [folded]
      simp only [persist, contains, Bool.false_eq_true, ↓reduceIte]
      refine ⟨represents, fun other found => values other ?_⟩
      simpa [or_assoc, or_comm, or_left_comm] using found

/-- Indices that an execution does not supply keep their wrapper. -/
theorem find_persist_other {supplied : List (Nat × Zval)} {index : Nat}
    (other : index ∉ supplied.map Prod.fst) (deferred : List (Nat × Zval)) :
    OrderedTable.find index (persist supplied deferred) = OrderedTable.find index deferred := by
  induction supplied generalizing deferred with
  | nil => rfl
  | cons entry rest ih =>
    simp only [List.map_cons, List.mem_cons, not_or] at other
    rw [persist, ih other.2]
    split
    · rw [OrderedTable.find_update, if_neg (Ne.symm other.1)]
    · rw [OrderedTable.find_delete, if_neg (Ne.symm other.1)]

/-- A wrapper stays exactly when one is converted with the values of the execution. -/
theorem keepsWrapper_iff {bindings : Bindings} {ledger : Ledger} (ok : Represents bindings ledger)
    (supplied : List (Nat × Zval)) :
    ((notOverridden supplied bindings.deferred).map Prod.snd).any Zval.containsTyped = true ↔
      KeepsWrapper ledger supplied := by
  constructor
  · intro found
    obtain ⟨input, member, _⟩ := List.any_eq_true.mp found
    obtain ⟨⟨index, stored⟩, kept, _⟩ := List.mem_map.mp member
    obtain ⟨there, other⟩ := List.mem_filter.mp kept
    refine ⟨index, by simpa using other, stored, ?_⟩
    exact ok.deferred index stored ((OrderedTable.mem_iff_find ok.distinct).mp there)
  · rintro ⟨index, other, input, recorded⟩
    cases found : OrderedTable.find index bindings.deferred with
    | none =>
      have plain := ok.native index found
      rw [recorded] at plain
      cases bound : bindings.native index <;> simp [bound] at plain
    | some stored =>
      have there := (OrderedTable.mem_iff_find ok.distinct).mpr found
      refine List.any_eq_true.mpr ⟨stored, ?_, ok.wrappers _ there⟩
      exact List.mem_map.mpr ⟨(index, stored), List.mem_filter.mpr ⟨there, by simpa using other⟩, rfl⟩

open Classical in
/-- The batch of an execution is typed when its inputs are. -/
theorem batchTyped_eq {bindings : Bindings} {ledger : Ledger} (ok : Represents bindings ledger)
    (supplied : List (Nat × Zval)) :
    batchTyped ledger supplied = ((supplied ++ notOverridden supplied bindings.deferred).map
      Prod.snd).any Zval.containsTyped := by
  rw [batchTyped, List.map_append, List.any_append]
  congr 1
  rw [Bool.eq_iff_iff, decide_eq_true_eq]
  exact (keepsWrapper_iff ok supplied).symm

/-- An execution binds exactly what was supplied last, wrappers converted in its environment. -/
theorem duckdbStatementBindExecution_ok (all : ∀ index value, accepts index value = true)
    {bindings next : Bindings} {ledger : Ledger} (ok : Represents bindings ledger) {env : Env}
    {params : Option Elements}
    (bound : duckdbStatementBindExecution signature database accepts env params bindings =
      (next, .ok ())) (streaming : Bool) (outcome : Except Thrown Unit) :
    Represents next (ledger.after signature evaluation (.execute streaming env params outcome)) ∧
      ∀ index, next.native index =
        (ledger.after signature evaluation (.execute streaming env params outcome) index).map
          (Supply.value evaluation env) := by
  unfold duckdbStatementBindExecution at bound
  cases collected : duckdbCollectParams signature (params.getD .nil) with
  | error thrown => simp [collected] at bound
  | ok supplied =>
    simp only [collected, duckdbBindConverted_all all] at bound
    cases converted : duckdbConvertValues database env
        ((supplied ++ notOverridden supplied bindings.deferred).map Prod.snd) with
    | error failure =>
      simp only [converted, Prod.mk.injEq, reduceCtorEq, and_false] at bound
    | ok outputs =>
      have values := duckdbConvertValues_ok evaluation converted
      simp only [converted, Prod.mk.injEq, and_true] at bound
      have flag := batchTyped_eq ok supplied
      have recorded : Ledger.after signature evaluation ledger (.execute streaming env params outcome) =
          supplyAll evaluation (batchTyped ledger supplied) env ledger supplied := by
        simp only [Ledger.after, collected]
      rw [recorded]
      have followed : batchTyped ledger supplied = true → ∀ entry ∈ supplied,
          alone evaluation env entry.2.deref = alone evaluation env entry.2 := by
        intro whole entry member
        have each := convertsEach evaluation (flag ▸ whole) converted
        exact alone_followed each entry.2
          (List.mem_map.mpr ⟨entry, List.mem_append_left _ member, rfl⟩)
      -- One flag says for the whole batch which path converts it.
      generalize batchTyped ledger supplied = batchTyped at flag followed ⊢
      have pairs : ((supplied ++ notOverridden supplied bindings.deferred).map Prod.fst).zip outputs =
          (supplied ++ notOverridden supplied bindings.deferred).map fun entry =>
            (entry.1, convertedIn evaluation batchTyped env entry.2) := by
        rw [values, ← flag, List.map_map, List.zip_map']
        rfl
      rw [pairs, List.map_append, bindAll, List.foldl_append] at bound
      obtain ⟨represents, wrapped⟩ := represents_supplied ok env batchTyped supplied
        (fun isTyped => by rw [flag, List.map_append, List.any_append, isTyped, Bool.true_or])
        followed [] (by simp)
      have kept : ∀ index input, (index, input) ∈ notOverridden supplied bindings.deferred ↔
          index ∉ supplied.map Prod.fst ∧
            OrderedTable.find index bindings.deferred = some input := by
        intro index input
        rw [notOverridden, List.mem_filter, OrderedTable.mem_iff_find ok.distinct]
        simp only [decide_eq_true_eq]
        exact and_comm
      have distinct : (((notOverridden supplied bindings.deferred).map fun entry =>
          (entry.1, convertedIn evaluation batchTyped env entry.2)).map Prod.fst).Nodup := by
        rw [List.map_map]
        exact ok.distinct.sublist (List.filter_sublist.map Prod.fst)
      subst bound
      refine ⟨represents.native_irrelevant ?_, ?_⟩
      · intro index absent
        refine bindAll_other _ _ ?_
        simp only [List.map_map, List.mem_map, Function.comp_apply, Prod.exists, exists_and_right,
          exists_eq_right, not_exists]
        intro input found
        obtain ⟨other, stored⟩ := (kept index input).mp found
        rw [find_persist_other other, stored] at absent
        simp at absent
      · intro index
        cases stored : OrderedTable.find index (persist supplied bindings.deferred) with
        | none =>
          have plain := represents.native index stored
          have stays : bindAll ((notOverridden supplied bindings.deferred).map fun entry =>
              (entry.1, convertedIn evaluation batchTyped env entry.2)) (bindAll (supplied.map fun entry =>
              (entry.1, convertedIn evaluation batchTyped env entry.2)) bindings.native) index =
              bindAll (supplied.map fun entry =>
              (entry.1, convertedIn evaluation batchTyped env entry.2)) bindings.native index := by
            refine bindAll_other _ _ ?_
            simp only [List.map_map, List.mem_map, Function.comp_apply, Prod.exists,
              exists_and_right, exists_eq_right, not_exists]
            intro input found
            obtain ⟨other, there⟩ := (kept index input).mp found
            rw [find_persist_other other, there] at stored
            simp at stored
          rw [plain, Option.map_map]
          exact stays.trans (congrFun Option.map_id _).symm
        | some input =>
          rw [represents.deferred index input stored]
          by_cases other : index ∈ supplied.map Prod.fst
          · refine (bindAll_other _ _ ?_).trans (wrapped index (.inr other) input stored)
            simp only [List.map_map, List.mem_map, Function.comp_apply, Prod.exists,
              exists_and_right, exists_eq_right, not_exists]
            exact fun value found => ((kept index value).mp found).1 other
          · rw [find_persist_other other] at stored
            have member := (kept index input).mpr ⟨other, stored⟩
            have isTyped := ok.wrappers _ ((OrderedTable.mem_iff_find ok.distinct).mpr stored)
            have whole : batchTyped = true := by
              rw [flag]
              exact List.any_eq_true.mpr ⟨input, List.mem_map.mpr
                ⟨_, List.mem_append_right _ member, rfl⟩, isTyped⟩
            refine (bindAll_mem distinct _ (List.mem_map.mpr ⟨_, member, rfl⟩)).trans ?_
            simp [convertedIn, whole, Supply.value]

/-! ## Runs -/

/-- A failed execution leaves the stores alone. -/
theorem duckdbStatementBindExecution_failed (all : ∀ index value, accepts index value = true)
    {bindings next : Bindings} {env : Env} {params : Option Elements} {failure : Option Thrown}
    (bound : duckdbStatementBindExecution signature database accepts env params bindings =
      (next, .error failure)) : next = bindings := by
  unfold duckdbStatementBindExecution at bound
  cases collected : duckdbCollectParams signature (params.getD .nil) with
  | error thrown =>
    simp only [collected] at bound
    exact (Prod.mk.inj bound).1.symm
  | ok supplied =>
    simp only [collected, duckdbBindConverted_all all] at bound
    cases converted : duckdbConvertValues database env
        ((supplied ++ notOverridden supplied bindings.deferred).map Prod.snd) with
    | error thrown =>
      simp only [converted] at bound
      exact (Prod.mk.inj bound).1.symm
    | ok outputs =>
      simp only [converted] at bound
      simp at bound

/-- A call that fails leaves both stores as they were. -/
theorem call_failed (all : ∀ index value, accepts index value = true) {access : Access}
    {bindings next : Bindings} {request : Call Env} {failure : Option Thrown}
    (called : call signature database accepts access bindings request = (next, .failed failure)) :
    next = bindings := by
  cases request with
  | bindValue param value =>
    simp only [call, duckdbStatementBindImpl, all, ↓reduceIte] at called
    grind
  | bindBlob param value =>
    simp only [call, duckdbStatementBindImpl, all, ↓reduceIte] at called
    grind
  | clearBindings =>
    simp only [call, clearBindings] at called
    split at called
    · exact (Prod.mk.inj called).1.symm
    · simp at called
  | execute streaming env params outcome =>
    simp only [call, duckdbStatementExecuteImpl] at called
    split at called
    · exact (Prod.mk.inj called).1.symm
    · split at called
      · rename_i failed
        rw [Prod.mk.injEq] at called
        rw [← called.1]
        exact duckdbStatementBindExecution_failed all failed
      · simp at called

/-- A value that was bound at once: a blob, or a value without typed content. -/
theorem duckdbStatementBindImpl_returned (all : ∀ index value, accepts index value = true)
    {asBlob : Bool} {access : Access} {param value : Zval} {bindings next : Bindings}
    {result : Result} (survived : result.isFailure = false)
    (called : duckdbStatementBindImpl signature database accepts asBlob access param value bindings =
      (next, result)) :
    result = .returned ∧ ∃ index, duckdbResolveParamIndex signature param = .ok index ∧
      ((asBlob = false ∧ value.containsTyped = true ∧
          next = ⟨bindings.native, OrderedTable.update index value.deref bindings.deferred⟩) ∨
        ((asBlob = false → value.containsTyped = false) ∧
          ∃ converted, bindInput database asBlob value = .ok converted ∧
            next = ⟨Function.update bindings.native index (some converted),
              OrderedTable.delete index bindings.deferred⟩)) := by
  unfold duckdbStatementBindImpl at called
  split at called
  · obtain ⟨_, rfl⟩ := Prod.mk.inj called
    simp [Result.isFailure] at survived
  · split at called
    · obtain ⟨_, rfl⟩ := Prod.mk.inj called
      simp [Result.isFailure] at survived
    · split at called
      · obtain ⟨_, rfl⟩ := Prod.mk.inj called
        simp [Result.isFailure] at survived
      · rename_i index resolved
        split at called
        · rename_i isTyped
          obtain ⟨rfl, rfl⟩ := Prod.mk.inj called
          rw [Bool.and_eq_true, Bool.not_eq_true'] at isTyped
          exact ⟨rfl, index, resolved, .inl ⟨isTyped.1, isTyped.2, rfl⟩⟩
        · rename_i notTyped
          split at called
          · obtain ⟨_, rfl⟩ := Prod.mk.inj called
            simp [Result.isFailure] at survived
          · rename_i converted input
            rw [if_pos (all index converted)] at called
            obtain ⟨rfl, rfl⟩ := Prod.mk.inj called
            refine ⟨rfl, index, resolved, .inr ⟨?_, converted, input, rfl⟩⟩
            intro plain
            simpa [plain] using notTyped

/-- A call that does not fail keeps the stores in step with the ledger; an execution among them
ran the ledger's values. -/
theorem call_represents (all : ∀ index value, accepts index value = true) {access : Access}
    {bindings next : Bindings} {ledger : Ledger} (ok : Represents bindings ledger)
    {request : Call Env} {result : Result} (survived : result.isFailure = false)
    (called : call signature database accepts access bindings request = (next, result)) :
    Represents next (ledger.after signature evaluation request) ∧
      ∀ streaming env params outcome, request = .execute streaming env params outcome →
        result = .ran next.native outcome ∧ ∀ index, next.native index =
          (ledger.after signature evaluation request index).map (Supply.value evaluation env) := by
  cases request with
  | bindValue param value =>
    obtain ⟨_, index, resolved, stored⟩ := duckdbStatementBindImpl_returned all survived called
    refine ⟨?_, by simp⟩
    rcases stored with ⟨_, isTyped, rfl⟩ | ⟨plain, converted, input, rfl⟩
    · have kept := ok.wrapper index isTyped bindings.native (fun _ _ => rfl)
      simpa only [Ledger.after, resolved, isTyped, ↓reduceIte] using kept
    · have kept := ok.plain index converted
      have same : duckdbPhpToDuckdbValue database.makesVarchar value = .ok converted := input
      simpa only [Ledger.after, resolved, plain rfl, same, Bool.false_eq_true, ↓reduceIte]
        using kept
  | bindBlob param value =>
    have bound : duckdbStatementBindImpl signature database accepts true access param value
        bindings = (next, result) := called
    obtain ⟨_, index, resolved, stored⟩ := duckdbStatementBindImpl_returned all survived bound
    refine ⟨?_, by simp⟩
    rcases stored with ⟨notBlob, _⟩ | ⟨_, converted, input, rfl⟩
    · simp at notBlob
    · obtain rfl := Except.ok.inj input
      have kept := ok.plain index (.blob (stringText value))
      simpa only [Ledger.after, resolved] using kept
  | clearBindings =>
    simp only [call, clearBindings] at called
    split at called
    · obtain ⟨_, rfl⟩ := Prod.mk.inj called
      simp [Result.isFailure] at survived
    · obtain ⟨rfl, rfl⟩ := Prod.mk.inj called
      exact ⟨represents_fresh, by simp⟩
  | execute streaming env params outcome =>
    simp only [call, duckdbStatementExecuteImpl] at called
    split at called
    · obtain ⟨_, rfl⟩ := Prod.mk.inj called
      simp [Result.isFailure] at survived
    · split at called
      · obtain ⟨_, rfl⟩ := Prod.mk.inj called
        simp [Result.isFailure] at survived
      · rename_i bound
        obtain ⟨rfl, rfl⟩ := Prod.mk.inj called
        obtain ⟨kept, values⟩ := duckdbStatementBindExecution_ok all ok bound streaming outcome
        refine ⟨kept, ?_⟩
        rintro _ _ _ _ ⟨⟩
        exact ⟨rfl, values⟩

/-- The stores of every reachable statement represent its ledger. -/
theorem reaches_represents (all : ∀ index value, accepts index value = true) {state : State}
    (reached : (statement signature evaluation accepts).Reaches State.fresh state) :
    Represents state.bindings state.ledger := by
  have keeps : ∀ (state : State) request next, Represents state.bindings state.ledger →
      (statement signature evaluation accepts).step state request = some next →
        Represents next.bindings next.ledger := by
    intro state request next ok stepped
    simp only [statement, step] at stepped
    obtain rfl := Option.some.inj stepped
    cases called : call signature database accepts request.access state.bindings request.call with
    | mk bindings result =>
      cases result with
      | failed failure =>
        obtain rfl := call_failed all called
        exact ok
      | returned => exact (call_represents all ok rfl called).1
      | ran values outcome => exact (call_represents all ok rfl called).1
  exact reached.preserves keeps represents_fresh

/-- What the next call on a statement does, by the ledger of the calls before it. -/
structure LastWriter (signature : Signature) {database : Database Env}
    (evaluation : Evaluation database) (state : State) (request : Call Env) (next : Bindings)
    (result : Result) : Prop where
  /-- An execution that runs has the value supplied last for every index, its own array included;
  wrappers are converted in its environment. -/
  runs : ∀ streaming env params outcome, request = .execute streaming env params outcome →
    ∀ values ended, result = .ran values ended → ∀ index,
      values index = (state.ledger.after signature evaluation request index).map
        (Supply.value evaluation env)
  /-- A call that fails leaves both stores as they were. -/
  unchanged : ∀ failure, result = .failed failure → next = state.bindings

end Runs

/-- A batch that `castsSeven` converts has one input. -/
theorem sevenEvaluates (resolved : LogicalType) (inputs : List Zval) :
    EvaluatesEach castsSeven.makesVarchar (castsSeven.engine resolved)
      (fun _ => .ok (.computed resolved (lit "7"))) inputs := by
  intro texts middle text builder values written _ executed counted
  have fresh : Resolved ((castsSeven.engine resolved).native castsSeven.makesVarchar) ⟨[], []⟩ :=
    fun type metadata never => nomatch never
  have arguments := (argumentTexts_each fresh written).length_eq
  dsimp only [castsSeven] at executed
  split at executed
  · obtain rfl := Except.ok.inj executed
    have one : texts.length = 1 := by
      rw [← arguments]
      exact (Nat.succ.inj counted).symm
    obtain ⟨argument, rfl⟩ := List.length_eq_one_iff.mp one
    exact .cons rfl .nil
  · cases executed

/-- The one statement that `castsSeven` executes has one argument, the converted string. -/
def sevenEvaluation : Evaluation castsSeven where
  meaning resolved _ := .ok (.computed resolved (lit "7"))
  evaluates := sevenEvaluates

end PhpDuckdb.Statement
