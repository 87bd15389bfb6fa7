/-
**Transitions and their events.**

One transition is reported for every attempt whose outcome was written.

* `Outcome`: how an attempt ended;
* `Transition`: what the attempt did to the entity;
* `TransitionEvent.toJson`, `TransitionEvent.logEntry`: the two forms in which it is passed on.
-/

import Leasehold.Json.Basic
import Leasehold.Log

namespace Leasehold

/-- How an attempt ended. -/
inductive Outcome where
  | success
  | retry
  | fatal
  | exhausted
  | cancelled
deriving DecidableEq, Repr

namespace Outcome

/-- The name of an outcome. -/
def name : Outcome → String
  | .success => "success"
  | .retry => "retry"
  | .fatal => "fatal"
  | .exhausted => "exhausted"
  | .cancelled => "cancelled"

/-- The outcome with a name. -/
def ofName? (name : String) : Option Outcome :=
  [success, retry, fatal, exhausted, cancelled].find? (·.name == name)

end Outcome

/-- What an attempt did to an entity, as it was written. -/
structure Transition where
  entityId : String
  entityType : String
  fromState : String
  toState : String
  outcome : Outcome
  /-- The count after the attempt. -/
  stateCount : Nat
  errorDetail : Option String
deriving DecidableEq, Repr

/-- A transition with the time that the attempt took. -/
structure TransitionEvent extends Transition where
  durationMillis : Nat
deriving DecidableEq, Repr

namespace Transition

/-- The members of the JSON object of a transition. -/
def members (transition : Transition) : List (String × Json) :=
  [("entity_id", .string transition.entityId),
    ("entity_type", .string transition.entityType),
    ("from_state", .string transition.fromState),
    ("to_state", .string transition.toState),
    ("outcome", .string transition.outcome.name),
    ("state_count", .nat transition.stateCount),
    ("error_detail", .ofOption (transition.errorDetail.map .string))]

end Transition

namespace TransitionEvent

/-- The event as a JSON object. -/
def toJson (event : TransitionEvent) : Json :=
  .object (event.members ++ [("duration_ms", .nat event.durationMillis)])

/-- The log entry of an event: a failure warns. -/
def logEntry (event : TransitionEvent) : Log.Entry :=
  let entity : List (String × Log.Value) :=
    [("entity_id", .text event.entityId), ("entity_type", .text event.entityType)]
  let moved : List (String × Log.Value) :=
    [("from_state", .text event.fromState), ("to_state", .text event.toState),
      ("outcome", .text event.outcome.name)]
  let error : String × Log.Value := ("error", .text (event.errorDetail.getD ""))
  let duration : String × Log.Value := ("duration_ms", .count event.durationMillis)
  match event.outcome with
  | .success | .cancelled => ⟨.info, "Entity transitioned", entity ++ moved ++ [duration]⟩
  | .retry =>
    ⟨.info, "Entity will be retried",
      entity ++ [("state", .text event.fromState), ("state_count", .count event.stateCount), error,
        duration]⟩
  | .fatal | .exhausted =>
    ⟨.warn, "Entity failed", entity ++ moved ++ [error, duration]⟩

end TransitionEvent

end Leasehold
