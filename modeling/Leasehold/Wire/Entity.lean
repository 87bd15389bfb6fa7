/-
**Entities in requests and answers.**

* `Wire.entity`, `Wire.ofEntity`: an entity; a request gives what differs from a fresh one;
* `Wire.change`, `Wire.changes`: changes of an entity;
* `Wire.criteria`: what a query selects;
* `Wire.row`: a table row, with defaults for its columns.
-/

import Leasehold.Store.Criteria
import Leasehold.Store.Row
import Leasehold.Wire.Value

namespace Leasehold.Wire

variable {S P : Type} [DecidableEq S] [ProcessState S] [Payload P]

/-- A state by its code. -/
def state (json : Json) : Read S := do orRefuse (ProcessState.ofCode? (← int32 json))

/-- The name of a state. -/
def ofState (state : S) : Json := .string (label state)

/-- The names of some states. -/
def ofStates (states : List S) : Json := .array (states.map ofState)

/-- A payload of the process type. -/
def payload (json : Json) : Read P :=
  match Payload.ofJson? json with
  | some payload => .ok payload
  | none => .error .unfitPayload

/-- The payload in a field, where an absent one is null. -/
def payloadField (json : Json) : Read P := payload ((json.field? "payload").getD .null)

/-- A lease. -/
def lease (json : Json) : Read Lease := do
  return ⟨← field json "holder" text, ← field json "expiry" instant⟩

/-- A lease as an object, or null. -/
def ofLease : Option Lease → Json
  | some lease => .object [("holder", .string lease.holder), ("expiry", ofInstant lease.expiry)]
  | none => .null

/-! ### Entities -/

/-- An entity as an object. -/
def ofEntity (entity : Entity S P) : Json :=
  .object [
    ("id", .string entity.id),
    ("state", ofState entity.state),
    ("code", .int (code entity.state)),
    ("state_count", .nat entity.stateCount),
    ("state_timestamp", ofInstant entity.stateTimestamp),
    ("created_at", ofInstant entity.createdAt),
    ("updated_at", ofInstant entity.updatedAt),
    ("trace_context", TraceContext.toJson entity.traceContext),
    ("error_detail", .ofOption (entity.errorDetail.map .string)),
    ("lease", ofLease entity.lease),
    ("cancel_requested", .bool entity.cancelRequested),
    ("version", .int entity.version),
    ("payload", Payload.toJson entity.payload)]

/-- Entities as an array. -/
def ofEntities (entities : List (Entity S P)) : Json := .array (entities.map ofEntity)

/-- A change of an entity. -/
abbrev Change (S P : Type) : Type := Entity S P → Entity S P

/-- A field that may also be set to nothing, if it is given. -/
def clearable? {α : Type} (json : Json) (name : String) (read : Json → Read α) :
    Read (Option (Option α)) :=
  if (json.field? name).isSome then some <$> field? json name read else return none

/-- The fields that a request gives for an entity, beside those that make it up. -/
def overwrite (json : Json) : Read (Change S P) := do
  let stateCount ← field? json "state_count" halfWord
  let stateTimestamp ← field? json "state_timestamp" instant
  let createdAt ← field? json "created_at" instant
  let updatedAt ← field? json "updated_at" instant
  let errorDetail ← clearable? json "error_detail" text
  let lease ← clearable? json "lease" lease
  let cancelRequested ← field? json "cancel_requested" bool
  let version ← field? json "version" int64
  return fun entity => { entity with
    stateCount := stateCount.getD entity.stateCount
    stateTimestamp := stateTimestamp.getD entity.stateTimestamp
    createdAt := createdAt.getD entity.createdAt
    updatedAt := updatedAt.getD entity.updatedAt
    errorDetail := errorDetail.getD entity.errorDetail
    lease := lease.getD entity.lease
    cancelRequested := cancelRequested.getD entity.cancelRequested
    version := version.getD entity.version }

/-- An entity. -/
def entity (json : Json) : Read (Entity S P) := do
  let id ← field json "id" text
  let state ← field json "state" state
  let payload ← payloadField json
  let start ← field json "at" instant
  let traceContext ← fieldOr json "trace_context" Dictionary.empty textMap
  return (← overwrite json) (Entity.fresh id state payload traceContext start)

/-- Any fields of an entity. -/
def setFields (json : Json) : Read (Change S P) := do
  let _ ← members json
  let id ← field? json "id" text
  let state ← field? json "state" state
  let payload ← (json.field? "payload").mapM payload
  let traceContext ← field? json "trace_context" textMap
  let others ← overwrite json
  return fun entity => others { entity with
    id := id.getD entity.id
    state := state.getD entity.state
    payload := payload.getD entity.payload
    traceContext := traceContext.getD entity.traceContext }

/-- One change of an entity. -/
def change (json : Json) : Read (Change S P) := do
  match ← field json "do" text with
  | "transition_to" =>
    let state ← field json "state" state
    let now ← field json "now" instant
    return (·.transitionTo state now)
  | "record_retry" =>
    let reason ← field json "reason" text
    let now ← field json "now" instant
    return (·.recordRetry reason now)
  | "fail" =>
    let state ← field json "state" state
    let reason ← field json "reason" text
    let now ← field json "now" instant
    return (·.fail state reason now)
  | "set" => setFields (← need json "fields")
  | "is_leased_at" =>
    let _ ← field json "now" instant
    return id
  | _ => refuse

/-- Changes of an entity, one after the other. -/
def changes (json : Json) : Read (Change S P) := do
  let all ← listOf change json
  return fun entity => all.foldl (fun changed next => next changed) entity

/-! ### Queries -/

/-- A due filter: its cutoffs, or the policy and the instant that it comes from. -/
def due (json : Json) : Read DueFilter := do
  let _ ← members json
  if (given? json "cutoffs").isSome then
    return ⟨← field json "cutoffs" (listOf instant), ← field json "fallback" instant⟩
  else return (← fieldOr json "policy" {} policy).dueFilter (← field json "now" instant)

/-- The direction of an ordering. -/
def sortOrder (json : Json) : Read SortOrder := do
  match ← text json with
  | "asc" => return .ascending
  | "desc" => return .descending
  | _ => refuse

/-- What a query selects. -/
def criteria (json : Json) : Read (Criteria S) := do
  let _ ← members json
  let states ← field? json "states" (listOf state)
  let notLeasedAt ← field? json "not_leased_at" instant
  let due ← field? json "due" due
  let leasedBy ← field? json "leased_by" text
  let limit ← field? json "limit" word
  let offset ← fieldOr json "offset" 0 word
  let order ← fieldOr json "order" .ascending sortOrder
  return ⟨states, notLeasedAt, due, leasedBy, limit, offset, order⟩

/-- The criteria in a field, where absent ones select everything. -/
def criteriaField (json : Json) : Read (Criteria S) := fieldOr json "criteria" {} criteria

/-! ### Rows -/

/-- A table row. -/
def row (json : Json) : Read Row := do
  let id ← field json "id" text
  let state ← fieldOr json "state" 100 int64
  let stateCount ← fieldOr json "state_count" 0 int64
  let stateTimestamp ← fieldOr json "state_timestamp" 0 int64
  let createdAt ← fieldOr json "created_at" 0 int64
  let updatedAt ← fieldOr json "updated_at" 0 int64
  let version ← fieldOr json "version" 0 int64
  let cancelRequested ← fieldOr json "cancel_requested" 0 int64
  let traceContext ← fieldOr json "trace_context" "\x7b\x7d" text
  let payload ← fieldOr json "payload" "null" text
  let errorDetail ← field? json "error_detail" text
  let leaseHolder ← field? json "lease_holder" text
  let leaseExpiry ← field? json "lease_expiry" int64
  return ⟨id, state, stateCount, stateTimestamp, createdAt, updatedAt, traceContext, errorDetail,
    leaseHolder, leaseExpiry, cancelRequested ≠ 0, version, payload⟩

end Leasehold.Wire
