/-
**The trigger service.**

Besides the engines only the service writes to a store: it creates entities in their initial state
and cancels them. An entity that somebody works on is not cancelled at once; the request is kept
with it.

* `Service.create`: a new entity;
* `Service.cancel`: a cancellation, at once or later;
* `ServiceError.message`: the text of an error.
-/

import Leasehold.Registry.Basic
import Leasehold.Store.Operation

namespace Leasehold

/-- Creates, cancels and looks up entities of one process type. -/
structure Service (σ S P Call : Type) (Response : Call → Type) where
  store : Backend σ S P
  registry : Registry S P Call Response

/-- Why the service refuses. -/
inductive ServiceError where
  | notFound (id : String)
  /-- The entity is in a terminal state, given by its name. -/
  | alreadyTerminal (id state : String)
  | store (error : StoreError)
deriving DecidableEq, Repr

namespace ServiceError

/-- The text of an error. -/
def message : ServiceError → String
  | .notFound id => s!"Entity '{id}' not found"
  | .alreadyTerminal id state => s!"Entity '{id}' is already in terminal state {state}"
  | .store error => error.message

/-- A store error, where an unknown entity is the caller's mistake. -/
def ofLookup : StoreError → ServiceError
  | .notFound id => .notFound id
  | error => .store error

end ServiceError

/-- How a cancellation went. -/
inductive CancelOutcome where
  /-- The entity was free and is cancelled. -/
  | cancelled
  /-- Somebody works on the entity; the request waits. -/
  | pending
deriving DecidableEq, Repr

namespace CancelOutcome

/-- The name of an outcome. -/
def name : CancelOutcome → String
  | .cancelled => "cancelled"
  | .pending => "pending"

end CancelOutcome

namespace Service

variable {σ S P Call : Type} {Response : Call → Type} [DecidableEq S] [ProcessState S]
variable (service : Service σ S P Call Response) (world : World σ Call Response)

/-- The field with the process type. -/
def typeField : String × Log.Value := ("entity_type", .text service.registry.entityType)

/-- Creates an entity in the initial state. -/
def create (id : String) (payload : P) (traceContext : Dictionary String) :
    StateM σ (Except ServiceError (Entity S P)) := do
  let entity := Entity.fresh id service.registry.initial payload traceContext (world.now (← get))
  match ← service.store (.create entity) with
  | .error error => return .error (.store error)
  | .ok () =>
    world.log ⟨.info, "Entity created",
      [("entity_id", .text id), service.typeField, ("state", .text (label entity.state))]⟩
    return .ok entity

/-- Names the terminal state of an entity that cannot be cancelled. -/
def refuse (id : String) : StateM σ (Except ServiceError CancelOutcome) := do
  match ← service.store (.find id) with
  | .error error => return .error (.store error)
  | .ok none => return .error (.notFound id)
  | .ok (some entity) => return .error (.alreadyTerminal id (label entity.state))

/-- Asks for a cancellation. -/
def requestCancel (id : String) : StateM σ (Except ServiceError CancelOutcome) := do
  match ← service.store (.requestCancel id service.registry.terminalStates) with
  | .error error => return .error (.ofLookup error)
  | .ok false => service.refuse id
  | .ok true =>
    world.log ⟨.debug, "Entity is leased, cancellation queued",
      [("entity_id", .text id), service.typeField]⟩
    return .ok .pending

/-- Cancels an entity that is free; otherwise asks for the cancellation. -/
def cancel (id : String) : StateM σ (Except ServiceError CancelOutcome) := do
  let now := world.now (← get)
  let registry := service.registry
  match ← service.store (.cancelIfFree id registry.cancelled registry.terminalStates now) with
  | .error error => return .error (.ofLookup error)
  | .ok false => service.requestCancel world id
  | .ok true =>
    world.log ⟨.info, "Entity cancelled", [("entity_id", .text id), service.typeField]⟩
    return .ok .cancelled

/-- The entities that some criteria select. -/
def query (criteria : Criteria S) : StateM σ (Except ServiceError (List (Entity S P))) := do
  return (← service.store (.query criteria)).mapError .store

/-- The entities in a state, the oldest first. -/
def byState (state : S) : StateM σ (Except ServiceError (List (Entity S P))) :=
  service.query { states := some [state] }

/-- The entity with an id. -/
def find (id : String) : StateM σ (Except ServiceError (Option (Entity S P))) := do
  return (← service.store (.find id)).mapError .store

end Service

end Leasehold
