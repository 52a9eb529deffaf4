import Mathlib.Logic.Function.Basic
import PhpDuckdb.Connection.Guard
import PhpDuckdb.Lib.Machine
import PhpDuckdb.Value.References

/-!
# Parameter bindings of a prepared statement

A `DuckDB\Statement` keeps its bindings in two stores: the native bindings of DuckDB's prepared
statement, and the deferred wrappers, which are converted again for each execution. The calls
below move values between the two; `Ledger` says what they are for, the value supplied last for
every index.
-/

namespace PhpDuckdb.Statement

open SqlText Value Connection

/-- What DuckDB knows of a prepared statement's parameters. -/
structure Signature where
  /-- `duckdb_nparams`. -/
  nparams : Nat
  /-- `duckdb_bind_parameter_index`. -/
  parameterIndex : Bytes → Option Nat

/-- What conversion asks DuckDB, in an environment of catalog types and settings. -/
structure Database (Env : Type) where
  /-- `duckdb_create_varchar_length` makes a value of a text. -/
  makesVarchar : Bytes → Bool
  /-- What the typed path asks for. -/
  engine : Env → Engine

/-- The two stores of a statement: DuckDB's own bindings, and the wrappers that are kept for later.
-/
structure Bindings where
  /-- DuckDB's binding of every index. -/
  native : Nat → Option DuckValue
  /-- `deferred_bindings`: the wrapper of an index, in the order of its array. -/
  deferred : List (Nat × Zval)

/-- A statement that was just prepared. -/
def Bindings.fresh : Bindings := ⟨fun _ => none, []⟩

/-! ## Resolution and conversion -/

section Calls

variable {Env : Type} (signature : Signature) (database : Database Env)
  (accepts : Nat → DuckValue → Bool)

/-- `duckdb_resolve_param_index`: the index that a position or a name stands for. -/
def duckdbResolveParamIndex : Zval → Except Thrown Nat
  | .long index =>
    if index < 1 || signature.nparams < index.toInt.toNat then
      .error ⟨.valueError, lit "Invalid parameter index " ++ signedDecimal index.toInt ++
        lit ": parameters are 1-based and this statement has " ++ decimal signature.nparams ++
        lit " parameter(s)"⟩
    else .ok index.toInt.toNat
  | .string text =>
    let name := if text.head? = some 36 || text.head? = some 58 then text.tail else text
    if name = [] then .error (valueError "Invalid empty parameter name")
    else
      match signature.parameterIndex (cString name) with
      | some index => .ok index
      | none =>
        .error ⟨.binder, lit "Unknown named parameter \"" ++ cString name ++ lit "\""⟩
  | other =>
    .error ⟨.typeError, lit "Parameter must be an integer position or a string name, got " ++
      lit other.typeName⟩

/-- The key of an array as a parameter. -/
def keyParameter : Key → Zval
  | .index number => .long number
  | .name text => .string text

/-- The loop of `duckdb_collect_params` over the entries of the array. -/
def collectFrom (positional : Bool) : Nat → Elements → Except Thrown (List (Nat × Zval))
  | _, .nil => .ok []
  | position, .cons key value rest => do
    let index ← (if positional then .ok position
      else duckdbResolveParamIndex signature (keyParameter key))
    let others ← collectFrom positional (position + 1) rest
    .ok ((index, value) :: others)

/-- `duckdb_collect_params`: the values of an array under the indices that their keys resolve to. -/
def duckdbCollectParams (params : Elements) : Except Thrown (List (Nat × Zval)) :=
  if params.isList && signature.nparams < params.count then
    .error ⟨.valueError, lit "Too many values: statement has " ++ decimal signature.nparams ++
      lit " parameter(s), " ++ decimal params.count ++ lit " given"⟩
  else collectFrom signature params.isList 1 params

/-- `duckdb_convert_values` in an environment of catalog types and settings. -/
def duckdbConvertValues (env : Env) (inputs : List Zval) :
    Except (Option Thrown) (List DuckValue) :=
  convertValues database.makesVarchar (database.engine env) inputs

/-- `duckdb_bind_converted`; values bound before a failure stay bound. -/
def duckdbBindConverted : List (Nat × DuckValue) → (Nat → Option DuckValue) →
    (Nat → Option DuckValue) × Except Thrown Unit
  | [], native => (native, .ok ())
  | (index, value) :: rest, native =>
    if accepts index value then
      duckdbBindConverted rest (Function.update native index (some value))
    else (native, .error ⟨.binder, lit "Failed to bind parameter " ++ decimal index⟩)

/-- The deferred wrappers that an execution's own values do not override. -/
def notOverridden (supplied deferred : List (Nat × Zval)) : List (Nat × Zval) :=
  deferred.filter fun entry => entry.1 ∉ supplied.map Prod.fst

/-- The last loop of `duckdb_statement_bind_execution`: typed values persist as wrappers, others
replace one. -/
def persist : List (Nat × Zval) → List (Nat × Zval) → List (Nat × Zval)
  | [], deferred => deferred
  | (index, value) :: rest, deferred =>
    persist rest (if value.containsTyped then OrderedTable.update index value.deref deferred
      else OrderedTable.delete index deferred)

/-- `duckdb_statement_bind_execution`: converts the supplied values with the deferred wrappers,
binds them and keeps the wrappers. -/
def duckdbStatementBindExecution (env : Env) (params : Option Elements) (bindings : Bindings) :
    Bindings × Except (Option Thrown) Unit :=
  match duckdbCollectParams signature (params.getD .nil) with
  | .error thrown => (bindings, .error (some thrown))
  | .ok supplied =>
    let inputs := supplied ++ notOverridden supplied bindings.deferred
    match duckdbConvertValues database env (inputs.map Prod.snd) with
    | .error failure => (bindings, .error failure)
    | .ok converted =>
      match duckdbBindConverted accepts ((inputs.map Prod.fst).zip converted) bindings.native with
      | (native, .error thrown) => ({ bindings with native := native }, .error (some thrown))
      | (native, .ok ()) => (⟨native, persist supplied bindings.deferred⟩, .ok ())

/-! ## The calls -/

/-- A call of a method on a statement, with its arguments. -/
inductive Call (Env : Type)
  | bindValue (param value : Zval)
  | bindBlob (param value : Zval)
  | clearBindings
  /-- `execute` or `executeStreaming`, with the environment that it converts in and DuckDB's
  outcome of the execution itself. -/
  | execute (streaming : Bool) (env : Env) (params : Option Elements)
      (outcome : Except Thrown Unit)

/-- How a call on a statement ended. -/
inductive Result
  /-- It returned without running the statement. -/
  | returned
  /-- It failed before the statement ran, with the exception that is pending, if any. -/
  | failed (failure : Option Thrown)
  /-- The statement ran with these native bindings and this outcome. -/
  | ran (values : Nat → Option DuckValue) (outcome : Except Thrown Unit)

/-- `Z_STRVAL_P` of a string, and nothing of any other value. -/
def stringText : Zval → Bytes
  | .string text => text
  | _ => []

/-- The value that `duckdb_statement_bind_impl` binds at once. -/
def bindInput (asBlob : Bool) (value : Zval) : Except (Option Thrown) DuckValue :=
  if asBlob then .ok (.blob (stringText value))
  else duckdbPhpToDuckdbValue database.makesVarchar value

/-- The argument check of `bindBlob`: only strings are taken. -/
def isString : Zval → Bool
  | .string _ => true
  | _ => false

/-- `duckdb_statement_bind_impl`: binds a plain value at once, and defers one that holds a wrapper.
-/
def duckdbStatementBindImpl (asBlob : Bool) (access : Access) (param value : Zval)
    (bindings : Bindings) : Bindings × Result :=
  if asBlob && !isString value then
    (bindings, .failed (some ⟨.typeError, lit "must be of type string, " ++ lit value.typeName ++
      lit " given"⟩))
  else
    match enter access "DuckDB\\Statement" with
    | .error thrown => (bindings, .failed (some thrown))
    | .ok () =>
      match duckdbResolveParamIndex signature param with
      | .error thrown => (bindings, .failed (some thrown))
      | .ok index =>
        if !asBlob && value.containsTyped then
          ({ bindings with deferred := OrderedTable.update index value.deref bindings.deferred },
            .returned)
        else
          match bindInput database asBlob value with
          | .error failure => (bindings, .failed failure)
          | .ok converted =>
            if accepts index converted then
              (⟨Function.update bindings.native index (some converted),
                OrderedTable.delete index bindings.deferred⟩, .returned)
            else
              (bindings, .failed (some ⟨.binder, lit "Failed to bind parameter " ++
                decimal index⟩))

/-- `clearBindings`: empties both stores, unless the connection refuses the call. -/
def clearBindings (access : Access) (bindings : Bindings) : Bindings × Result :=
  match enter access "DuckDB\\Statement" with
  | .error thrown => (bindings, .failed (some thrown))
  | .ok () => (⟨fun _ => none, []⟩, .returned)

/-- `duckdb_statement_execute_impl`, up to the result: both variants bind alike. -/
def duckdbStatementExecuteImpl (access : Access) (env : Env) (params : Option Elements)
    (outcome : Except Thrown Unit) (bindings : Bindings) : Bindings × Result :=
  match enter access "DuckDB\\Statement" with
  | .error thrown => (bindings, .failed (some thrown))
  | .ok () =>
    match duckdbStatementBindExecution signature database accepts env params bindings with
    | (next, .error failure) => (next, .failed failure)
    | (next, .ok ()) => (next, .ran next.native outcome)

/-- One call of a method of the statement. -/
def call (access : Access) (bindings : Bindings) : Call Env → Bindings × Result
  | .bindValue param value =>
    duckdbStatementBindImpl signature database accepts false access param value bindings
  | .bindBlob param value =>
    duckdbStatementBindImpl signature database accepts true access param value bindings
  | .clearBindings => clearBindings access bindings
  | .execute _ env params outcome =>
    duckdbStatementExecuteImpl signature database accepts access env params outcome bindings

end Calls

/-! ## A database -/

/-- The canonical declaration `INTEGER`. -/
def integerType : CanonicalType := ⟨lit "INTEGER", lit "INTEGER", by decide +kernel⟩

/-- A database that executes one statement, the conversion of the string `7` to the type that the
catalog resolves `INTEGER` to. -/
def castsSeven : Database LogicalType where
  makesVarchar := everyText
  engine resolved := {
    registry := none
    prepare _ := .ok resolved
    capture := lit "capture"
    execute text _ :=
      if text = lit "SELECT \"capture\"(CAST($1 AS INTEGER), $2)" then
        .ok [.computed resolved (lit "7"), .bigint 0]
      else .error none }

/-- Position 1 is also named `p`. -/
def oneParameter : Signature := ⟨1, fun name => if name = lit "p" then some 1 else none⟩

end PhpDuckdb.Statement
