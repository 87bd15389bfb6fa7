/-
**Store operations.**

The operations that every entity store offers, as data, each with the type of its value. A store
runs one operation at a time, and each in one step.

* `Operation`: the operations;
* `Operation.Value`, `Operation.Answer`: what an operation gives back, or an error in its place;
* `Backend`: how a store with states of a type `σ` runs an operation.
-/

import Leasehold.Store.Criteria
import Leasehold.Store.Error

namespace Leasehold

/-- One operation on an entity store. -/
inductive Operation (S P : Type) where
  /-- Look an entity up. -/
  | find (id : String)
  /-- Add an entity under a new id. -/
  | create (entity : Entity S P)
  /--
  Write an entity, if the stored version is still the one it carries. The time of creation and the
  request to cancel stay as they are stored.
  -/
  | update (entity : Entity S P)
  /-- Select entities. -/
  | query (criteria : Criteria S)
  /-- Claim an entity that is free. -/
  | lease (id holder : String) (duration : Duration) (now : Instant)
  /-- Move the end of a claim that the holder has. -/
  | renew (id holder : String) (duration : Duration) (now : Instant)
  /-- Give up a claim that the holder has. -/
  | release (id holder : String)
  /-- Give up all claims of a holder. -/
  | releaseAll (holder : String)
  /-- Move an entity that is free and in none of the terminal states to the cancelled one. -/
  | cancelIfFree (id : String) (cancelled : S) (terminal : List S) (now : Instant)
  /-- Ask for the cancellation of an entity in none of the terminal states. -/
  | requestCancel (id : String) (terminal : List S)

namespace Operation

variable {S P : Type}

/-- What an operation gives back. -/
abbrev Value : Operation S P → Type
  | .find _ => Option (Entity S P)
  | .create _ => Unit
  | .update _ => Entity S P
  | .query _ => List (Entity S P)
  | .lease .. => Entity S P
  | .renew .. => Entity S P
  | .release .. => Bool
  | .releaseAll _ => Nat
  | .cancelIfFree .. => Bool
  | .requestCancel .. => Bool

/-- What an operation gives back, or why it failed. -/
abbrev Answer (operation : Operation S P) : Type := Except StoreError operation.Value

end Operation

/-- A store: how an operation answers and changes the state. -/
abbrev Backend (σ S P : Type) : Type := (operation : Operation S P) → StateM σ operation.Answer

end Leasehold
