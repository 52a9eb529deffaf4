import Mathlib.Algebra.Order.Ring.Int
import Mathlib.Data.List.Count
import Mathlib.Logic.Function.Basic
import PhpDuckdb.Lib.Machine

/-!
# Log storage

`log_storage_write` runs on DuckDB's threads, measures its three C strings, builds an entry, tries
the storage's mutex once and evicts from the front of the queue until the entry fits; a write that
cannot go on is counted as dropped. `LogStorage::drain` swaps the queue out under the mutex. The
queue's counter is unsigned and wraps, so nothing but its use keeps it equal to what is stored.
-/

namespace PhpDuckdb.Logging

/-- `log_storage_max_bytes`: the eight megabytes that the storage may hold. -/
def logStorageMaxBytes : Nat := 8 * 1024 * 1024

/-- `ZEND_LONG_MAX`: the largest PHP integer, at which the drop counter saturates. -/
def zendLongMax : Nat := 2 ^ 63 - 1

/-- Addition of `size_t`, which wraps around. -/
def sizeAdd (left right : Nat) : Nat := (left + right) % 2 ^ 64

/-- Subtraction of `size_t`, which wraps around. -/
def sizeSub (left right : Nat) : Nat := (left + 2 ^ 64 - right) % 2 ^ 64

/-- What the compiler decides about an entry. -/
structure Layout where
  /-- `sizeof(native_log_entry)`. -/
  entrySize : Nat
  /-- The initial budget of a write is not negative. -/
  fits : entrySize ≤ logStorageMaxBytes

/-- A C string, or a null pointer: the bytes of an array whose bytes past the list are zero. -/
abbrev CString := Option (List UInt8)

/-- `value[index]`: a byte of a text, or the NUL behind its end. -/
def byteAt (value : List UInt8) (index : Nat) : UInt8 := value.getD index 0

/-- `native_log_entry`: a log message that waits to be drained. -/
structure NativeLogEntry where
  /-- Microseconds, zero without a timestamp. -/
  timestamp : Int
  /-- `level`. -/
  level : List UInt8
  /-- `type`. -/
  type : List UInt8
  /-- `message`. -/
  message : List UInt8
  deriving DecidableEq, Repr

/-- `native_log_entry::bytes`: what an entry takes, added up in a `size_t` that can wrap. -/
def NativeLogEntry.bytes (layout : Layout) (entry : NativeLogEntry) : Nat :=
  sizeAdd (sizeAdd (sizeAdd layout.entrySize entry.level.length) entry.type.length)
    entry.message.length

/-- The loop of `log_string_length`: at most `room` more bytes, up to the terminator. -/
def scan (value : List UInt8) : (room length : Nat) → Nat
  | 0, length => length
  | room + 1, length => if byteAt value length ≠ 0 then scan value room (length + 1) else length

/-- `log_string_length`: the length and the budget that remains, or `none` for a string that
exceeds it. -/
def logStringLength (value : CString) (remaining : Nat) : Option (Nat × Nat) :=
  match value with
  | none => some (0, remaining)
  | some value =>
    let length := scan value remaining 0
    if byteAt value length ≠ 0 then none else some (length, sizeSub remaining length)

/-- The arguments that DuckDB calls the write callback with. -/
structure Record where
  /-- `timestamp->micros`, when there is a timestamp. -/
  timestamp : Option Int
  /-- `level`. -/
  level : CString
  /-- `type`. -/
  type : CString
  /-- `message`. -/
  message : CString
  deriving DecidableEq, Repr

/-- The entry of a callback, or `none` when its strings exceed the budget. -/
def nativeEntry (layout : Layout) (record : Record) : Option NativeLogEntry := do
  let (levelLength, remaining) ← logStringLength record.level
    (sizeSub logStorageMaxBytes layout.entrySize)
  let (typeLength, remaining) ← logStringLength record.type remaining
  let (messageLength, _) ← logStringLength record.message remaining
  pure ⟨record.timestamp.getD 0, (record.level.getD []).take levelLength,
    (record.type.getD []).take typeLength, (record.message.getD []).take messageLength⟩

/-- Where a write is that does not hold the mutex. -/
inductive Phase
  /-- The callback was entered. -/
  | called (record : Record)
  /-- Its strings fit; the entry is not locked in yet. -/
  | built (entry : NativeLogEntry)
  /-- It is about to count itself as dropped and to return. -/
  | dropping
  deriving DecidableEq, Repr

/-- The write that holds the mutex. -/
structure Holder where
  /-- The write. -/
  id : Nat
  /-- Its entry. -/
  entry : NativeLogEntry
  /-- How many entries it found. -/
  found : Nat
  /-- How many of them it evicted. -/
  evicted : Nat
  /-- The write whose entry it popped and has not counted yet. -/
  victim : Option Nat
  deriving DecidableEq, Repr

/-- What one `drain` returned, beside everything accepted since the drain before it. -/
structure Batch where
  /-- The entries, with the writes they come from. -/
  returned : List (Nat × NativeLogEntry)
  /-- Every entry that was stored since the last drain, in the order of the stores. -/
  accepted : List (Nat × NativeLogEntry)
  deriving DecidableEq, Repr

/-- `log_storage_state`, its writes in flight and what became of the others. Writes are numbered
in the order in which they enter. -/
structure State where
  /-- `entries`, with the writes they come from. -/
  entries : List (Nat × NativeLogEntry)
  /-- `bytes`. -/
  bytes : Nat
  /-- `dropped`. -/
  dropped : Nat
  /-- The write that holds `mutex`. -/
  holder : Option Holder
  /-- The other writes in flight. -/
  flight : Nat → Option Phase
  /-- How many writes were entered. -/
  started : Nat
  /-- What was stored since the last drain. -/
  accepted : List (Nat × NativeLogEntry)
  /-- What the drains returned. -/
  batches : List Batch
  /-- The writes that a call of `drop` counted. -/
  counted : List Nat
  /-- The front of an empty queue was popped. -/
  underflow : Bool

/-- A new storage, to which nothing was written. -/
def State.empty : State := ⟨[], 0, 0, none, fun _ => none, 0, [], [], [], false⟩

/-- The writes whose entries the drains returned. -/
def State.drained (state : State) : List Nat :=
  state.batches.flatMap fun batch => batch.returned.map Prod.fst

/-- `log_storage_state::drop` for a write: the counter grows up to its largest value. -/
def State.drop (state : State) (id : Nat) : State :=
  { state with
    dropped := if state.dropped < zendLongMax then state.dropped + 1 else state.dropped
    counted := state.counted ++ [id] }

/-- The condition of the eviction loop. -/
def State.MustEvict (capacity : Nat) (state : State) (bytes : Nat) : Prop :=
  capacity ≤ state.entries.length ∨ sizeSub logStorageMaxBytes bytes < state.bytes

instance (capacity : Nat) (state : State) (bytes : Nat) :
    Decidable (state.MustEvict capacity bytes) :=
  inferInstanceAs (Decidable (_ ∨ _))

/-- One step of a thread at the storage. -/
inductive Event
  /-- DuckDB enters the callback. -/
  | write (record : Record)
  /-- A write measures its strings. -/
  | measure (id : Nat)
  /-- A write's strings cannot be allocated. -/
  | allocationFailure (id : Nat)
  /-- A write gets the mutex. -/
  | lock (id : Nat)
  /-- A write finds the mutex taken; `try_lock` may also fail for no reason. -/
  | contend (id : Nat)
  /-- A write counts itself as dropped. -/
  | drop (id : Nat)
  /-- The holder pops the front. -/
  | evict
  /-- The holder counts what it popped. -/
  | dropVictim
  /-- The holder stores its entry. -/
  | push
  /-- The queue cannot be extended; the lock is released before the failure is counted. -/
  | pushFailure
  /-- A request thread drains the storage. -/
  | drain
  deriving DecidableEq, Repr

/-- Move a write outside the mutex to another phase. -/
def State.setFlight (state : State) (id : Nat) (phase : Option Phase) : State :=
  { state with flight := Function.update state.flight id phase }

section Steps

variable (layout : Layout) (capacity : Nat)

/-- One step of the write that holds the mutex. -/
def stepHolder (state : State) (holder : Holder) : Event → Option State
  | .evict =>
    if holder.victim = none ∧ state.MustEvict capacity (holder.entry.bytes layout) then
      match state.entries with
      | [] => some { state with underflow := true }
      | front :: rest =>
        some { state with
          entries := rest
          bytes := sizeSub state.bytes (front.2.bytes layout)
          holder := some { holder with evicted := holder.evicted + 1, victim := some front.1 } }
    else none
  | .dropVictim =>
    match holder.victim with
    | some id => some { state.drop id with holder := some { holder with victim := none } }
    | none => none
  | .push =>
    if holder.victim = none ∧ ¬state.MustEvict capacity (holder.entry.bytes layout) then
      some { state with
        entries := state.entries ++ [(holder.id, holder.entry)]
        bytes := sizeAdd state.bytes (holder.entry.bytes layout)
        accepted := state.accepted ++ [(holder.id, holder.entry)]
        holder := none }
    else none
  | .pushFailure =>
    if holder.victim = none ∧ ¬state.MustEvict capacity (holder.entry.bytes layout) then
      some { state.setFlight holder.id (some .dropping) with holder := none }
    else none
  | _ => none

/-- One step of a write outside the mutex. -/
def stepFlight (state : State) (id : Nat) (phase : Phase) : Event → Option State
  | .measure _ =>
    match phase with
    | .called record =>
      match nativeEntry layout record with
      | some entry => some (state.setFlight id (some (.built entry)))
      | none => some (state.setFlight id (some .dropping))
    | _ => none
  | .allocationFailure _ =>
    match phase with
    | .built _ => some (state.setFlight id (some .dropping))
    | _ => none
  | .lock _ =>
    match phase with
    | .built entry =>
      if state.holder.isSome then none
      else
        some { state.setFlight id none with
          holder := some ⟨id, entry, state.entries.length, 0, none⟩ }
    | _ => none
  | .contend _ =>
    match phase with
    | .built _ => some (state.setFlight id (some .dropping))
    | _ => none
  | .drop _ =>
    match phase with
    | .dropping => some ((state.setFlight id none).drop id)
    | _ => none
  | _ => none

/-- `LogStorage::drain`: hands out the entries and the accepted count, and starts anew. -/
def drain (state : State) : State :=
  { state with
    entries := []
    bytes := 0
    accepted := []
    batches := state.batches ++ [⟨state.entries, state.accepted⟩] }

/-- The write that an event outside the mutex belongs to. -/
def Event.flight? : Event → Option Nat
  | .measure id | .allocationFailure id | .lock id | .contend id | .drop id => some id
  | _ => none

/-- One step. A drain waits for the mutex. -/
def step (state : State) (event : Event) : Option State :=
  match event with
  | .write record =>
    some { state.setFlight state.started (some (.called record)) with
      started := state.started + 1 }
  | .drain => if state.holder.isSome then none else some (drain state)
  | event =>
    match event.flight? with
    | some id => (state.flight id).bind fun phase => stepFlight layout state id phase event
    | none => state.holder.bind fun holder => stepHolder layout capacity state holder event

/-- The machine of one storage, written to by any number of threads. -/
def storage : Machine State Event := ⟨step layout capacity⟩

end Steps

end PhpDuckdb.Logging
