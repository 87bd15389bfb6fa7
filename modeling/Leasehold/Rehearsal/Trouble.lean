/-
**Rehearsed troubles of a store.**

In a rehearsal a store follows a list of troubles, one list for each kind of operation: it fails, or
a rival is faster, or an entity moves on behind the caller's back.

* `Rehearsal.Trouble`: one trouble;
* `Trouble.around`: an operation of a store in trouble;
* `Rehearsal.troubles`: the lists of a request.
-/

import Leasehold.Rehearsal.Partners
import Leasehold.Store.Operation
import Leasehold.Wire.Entity

namespace Leasehold.Rehearsal

/-- What happens in the place of an operation, or beside it. -/
inductive Trouble (S : Type) where
  /-- The operation fails, with an error about an id. -/
  | failure (error : String → StoreError)
  /-- A rival leases the entity first. -/
  | rival
  /-- A rival leases the entity first and gives it up. -/
  | touch
  /-- The entity cannot be seen. -/
  | vanish
  /-- The entity reaches a state when it could not be cancelled. -/
  | finish (state : S)

/-- The name of an operation, and the id that its failures are about. -/
def operationName {S P : Type} : Operation S P → String × String
  | .find id => ("find", id)
  | .create entity => ("create", entity.id)
  | .update entity => ("update", entity.id)
  | .query _ => ("query", "?")
  | .lease id .. => ("lease", id)
  | .renew id .. => ("renew_lease", id)
  | .release id _ => ("release_lease", id)
  | .releaseAll _ => ("release_leases_held_by", "?")
  | .cancelIfFree id .. => ("cancel_if_free", id)
  | .requestCancel id _ => ("request_cancel", id)

namespace Trouble

variable {σ S P : Type}

/-- An operation that fails. -/
def failing (error : StoreError) (operation : Operation S P) : operation.Answer := .error error

/-- Leases an entity, after a rival leased it and perhaps gave it up. -/
def leaseAfterRival (store : Backend σ S P) (gaveUp : Bool) (id holder : String)
    (duration : Duration) (now : Instant) : StateM σ (Except StoreError (Entity S P)) := do
  match ← store (.lease id "rival" duration now) with
  | .error error => return .error error
  | .ok _ =>
    if gaveUp then
      let _ ← store (.release id "rival")
    store (.lease id holder duration now)

/-- Moves an entity on, if it could not be cancelled. -/
def moveOn (store : Backend σ S P) (state : S) (id : String) (now : Instant)
    (answer : Except StoreError Bool) : StateM σ (Except StoreError Bool) := do
  match answer with
  | .ok false =>
    match ← store (.find id) with
    | .ok (some entity) =>
      let _ ← store (.update { entity.transitionTo state now with lease := none })
      return answer
    | _ => return answer
  | _ => return answer

/-- An operation of a store in trouble. -/
def around (store : Backend σ S P) (id : String) :
    Option (Trouble S) → (operation : Operation S P) → StateM σ operation.Answer
  | some (.failure error), operation => return failing (error id) operation
  | some .vanish, .find _ => return .ok none
  | some .rival, .lease id holder duration now => leaseAfterRival store false id holder duration now
  | some .touch, .lease id holder duration now => leaseAfterRival store true id holder duration now
  | some (.finish state), .cancelIfFree id cancelled terminal now => do
    moveOn store state id now (← store (.cancelIfFree id cancelled terminal now))
  | _, operation => store operation

end Trouble

/-! ### Requests -/

open Wire

/-- The state at which an entity arrives, after the word for it. -/
def finishState {S : Type} [ProcessState S] (name : String) : Read S :=
  match name.toList with
  | 'f' :: 'i' :: 'n' :: 'i' :: 's' :: 'h' :: ':' :: digits =>
    orRefuse ((String.ofList digits).toInt?.bind ProcessState.ofCode?)
  | _ => refuse

/-- One trouble of an operation, or null for none. -/
def trouble {S : Type} [ProcessState S] (operation : String) :
    Json → Read (Option (Trouble S))
  | .null => return none
  | json => do
    match ← text json, operation with
    | "database", _ => return some (.failure fun _ => .database "injected")
    | "corrupt", _ => return some (.failure fun id => .corrupt id "injected")
    | "not_found", _ => return some (.failure .notFound)
    | "conflict", _ => return some (.failure .leased)
    | "concurrency", _ => return some (.failure fun id => .concurrency id 0)
    | "steal", "lease" => return some .rival
    | "touch", "lease" => return some .touch
    | "none", "find" => return some .vanish
    | name, "cancel_if_free" => return some (.finish (← finishState name))
    | _, _ => refuse

/-- The operations that can be in trouble. -/
def troubledOperations : List String :=
  ["find", "create", "update", "query", "lease", "release_lease", "release_leases_held_by",
    "cancel_if_free", "request_cancel"]

/-- The troubles of each operation, in order. -/
def troubles {S : Type} [ProcessState S] (json : Json) : Read (Replies (Option (Trouble S))) := do
  (← members json).mapM fun entry => do
    if troubledOperations.contains entry.1 then
      return (entry.1, ← listOf (trouble entry.1) entry.2)
    else refuse

end Leasehold.Rehearsal
