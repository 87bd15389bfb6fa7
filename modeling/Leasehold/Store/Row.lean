/-
**Entities as table rows.**

A row keeps an entity in columns: the state as its code, every instant as whole milliseconds, and
trace context and payload as JSON texts. A row need not come from an entity, so reading one can
fail.

* `Row.ofEntity`: the row of an entity;
* `Row.isReadable`: the columns have values that can be handed out;
* `Row.toEntity`: the entity of a row, or the first fault of the row in the order of its columns;
* `Row.load`: the entity of a row, if it is readable;
* `TraceContext.read?`: a trace context from its text.
-/

import Leasehold.Json.Reader
import Leasehold.Json.Record
import Leasehold.Json.Writer
import Leasehold.Store.Error
import Leasehold.Entity.Basic

namespace Leasehold

/-- One row of an entity table. -/
structure Row where
  id : String
  state : Int
  stateCount : Int
  stateTimestamp : Int
  createdAt : Int
  updatedAt : Int
  traceContext : String
  errorDetail : Option String
  leaseHolder : Option String
  leaseExpiry : Option Int
  cancelRequested : Bool
  version : Int
  payload : String
deriving DecidableEq, Repr

/-! ### Versions -/

/-- The version that a column cannot hold as a whole number any more. -/
def versionLimit : Int := 0x8000000000000000

/-- The version after a conditional write. One that reaches the limit stays there. -/
def nextVersion (version : Int) : Int := min (version + 1) versionLimit

/-- Below the limit a conditional write adds one. -/
theorem nextVersion_of_lt {version : Int} (below : version < versionLimit) :
    nextVersion version = version + 1 :=
  Int.min_eq_left (Int.add_one_le_of_lt below)

/-! ### Trace contexts -/

/-- The JSON object of a trace context. -/
def TraceContext.toJson (context : Dictionary String) : Json := .ofDictionary .string context

/-- The trace context of a JSON object whose members are texts. -/
def TraceContext.ofJson? : Json → Option (Dictionary String) := Json.dictionary? Json.text?

/-- The trace context that a text writes. -/
def TraceContext.read? (text : String) : Option (Dictionary String) :=
  (Json.read? text).bind TraceContext.ofJson?

namespace Row

variable {S P : Type} [ProcessState S] [Payload P]

/-! ### Writing -/

/-- The row of an entity. -/
def ofEntity (entity : Entity S P) : Row where
  id := entity.id
  state := code entity.state
  stateCount := entity.stateCount
  stateTimestamp := entity.stateTimestamp.millis
  createdAt := entity.createdAt.millis
  updatedAt := entity.updatedAt.millis
  traceContext := (TraceContext.toJson entity.traceContext).text
  errorDetail := entity.errorDetail
  leaseHolder := entity.lease.map (·.holder)
  leaseExpiry := entity.lease.map (·.expiry.millis)
  cancelRequested := entity.cancelRequested
  version := entity.version
  payload := (Payload.toJson entity.payload).text

/-! ### Reading -/

/-- Whether the state code fits 32 bits and the version 64. -/
def isReadable (row : Row) : Bool :=
  decide (-0x80000000 ≤ row.state ∧ row.state < 0x80000000 ∧ row.version < versionLimit)

/-- The fault of a row. -/
def corrupt (row : Row) (reason : String) : StoreError := .corrupt row.id reason

/-- An instant from its column. -/
def instant (row : Row) (column : String) (millis : Int) : Except StoreError Instant :=
  match Instant.ofMillis? millis with
  | some instant => .ok instant
  | none => .error (row.corrupt s!"{column} out of range: {millis}")

/-- The state from its column. -/
def readState (row : Row) : Except StoreError S :=
  match ProcessState.ofCode? row.state with
  | some state => .ok state
  | none => .error (row.corrupt s!"unknown state code {row.state}")

/-- The count from its column. -/
def readCount (row : Row) : Except StoreError Nat :=
  if 0 ≤ row.stateCount ∧ row.stateCount < UInt32.size then .ok row.stateCount.toNat
  else .error (row.corrupt s!"state_count out of range: {row.stateCount}")

/-- The lease from its columns; a holder or an expiry alone is no lease. -/
def readLease (row : Row) : Except StoreError (Option Lease) :=
  match row.leaseHolder, row.leaseExpiry with
  | some holder, some expiry => do
    let expiry ← row.instant "lease_expiry" expiry
    .ok (some ⟨holder, expiry⟩)
  | _, _ => .ok none

/-- The trace context from its column. -/
def readTraceContext (row : Row) : Except StoreError (Dictionary String) :=
  match TraceContext.read? row.traceContext with
  | some context => .ok context
  | none => .error (.serialization "invalid trace context")

/-- The payload from its column. -/
def readPayload (row : Row) : Except StoreError P :=
  match (Json.readAs? (Payload.shape P) row.payload).bind Payload.ofJson? with
  | some payload => .ok payload
  | none => .error (.serialization "invalid payload")

/-- The entity of a row. -/
def toEntity (row : Row) : Except StoreError (Entity S P) := do
  let state ← row.readState
  let stateCount ← row.readCount
  let stateTimestamp ← row.instant "state_timestamp" row.stateTimestamp
  let createdAt ← row.instant "created_at" row.createdAt
  let updatedAt ← row.instant "updated_at" row.updatedAt
  let lease ← row.readLease
  let traceContext ← row.readTraceContext
  let payload ← row.readPayload
  .ok {
    id := row.id
    state := state
    stateCount := stateCount
    stateTimestamp := stateTimestamp
    createdAt := createdAt
    updatedAt := updatedAt
    traceContext := traceContext
    errorDetail := row.errorDetail
    lease := lease
    cancelRequested := row.cancelRequested
    version := row.version
    payload := payload }

/-- The fault of a row that is not readable. -/
def unreadable : StoreError := .database "column out of range"

/-- The entity of a row that is handed out. -/
def load (row : Row) : Except StoreError (Entity S P) :=
  if row.isReadable then row.toEntity else .error unreadable

end Row

end Leasehold
