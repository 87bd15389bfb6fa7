/-
**Entities.**

An entity is one long-running process: where it stands, how often it was tried there, who works on
it, and its payload. A lease is the claim of one holder until an instant.

* `Entity.fresh`: a new entity in a state;
* `Entity.transitionTo`, `Entity.recordRetry`, `Entity.fail`: the three ways an attempt ends;
* `Lease.isLiveAt`: a lease excludes others until its expiry;
* `Entity.isFreeAt`: nobody holds a live lease.
-/

import Leasehold.Time.Instant
import Leasehold.Dictionary
import Leasehold.Entity.State

namespace Leasehold

/-- The claim of a holder on an entity until an instant. -/
structure Lease where
  holder : String
  expiry : Instant
deriving DecidableEq, Repr

namespace Lease

/-- The lease of a holder from an instant on for a duration. -/
def start (holder : String) (now : Instant) (duration : Duration) : Lease :=
  ⟨holder, now.plus duration⟩

/-- Whether the lease still excludes other holders. -/
def isLiveAt (lease : Lease) (now : Instant) : Bool := now < lease.expiry

/-- The lease moved to end a duration from now, if the holder is the one who has it. -/
def renew? (lease : Lease) (holder : String) (now : Instant) (duration : Duration) :
    Option Lease :=
  if lease.holder = holder then some { lease with expiry := now.plus duration } else none

end Lease

/-- The largest number of attempts that an entity counts. -/
def maxStateCount : Nat := UInt32.size - 1

/-- One process of a type with states `S` and payloads `P`. -/
structure Entity (S P : Type) where
  id : String
  state : S
  /-- Attempts in the current state. -/
  stateCount : Nat
  /-- When the state was entered or the last attempt in it ended. -/
  stateTimestamp : Instant
  createdAt : Instant
  updatedAt : Instant
  /-- What correlates the entity with requests elsewhere. -/
  traceContext : Dictionary String
  /-- Why the last attempt failed. -/
  errorDetail : Option String
  lease : Option Lease
  /-- Whether a cancellation waits for the lease to end. -/
  cancelRequested : Bool
  /-- Counts the conditional writes. -/
  version : Int
  payload : P
deriving DecidableEq

namespace Entity

variable {S P : Type}

/-- A new entity. -/
def fresh (id : String) (state : S) (payload : P) (traceContext : Dictionary String)
    (now : Instant) : Entity S P where
  id := id
  state := state
  stateCount := 0
  stateTimestamp := now
  createdAt := now
  updatedAt := now
  traceContext := traceContext
  errorDetail := none
  lease := none
  cancelRequested := false
  version := 0
  payload := payload

/-! ### How attempts end -/

/-- Enters a state: the count starts again and the last error is cleared. -/
def transitionTo (entity : Entity S P) (state : S) (now : Instant) : Entity S P :=
  { entity with
    state := state
    stateCount := 0
    errorDetail := none
    stateTimestamp := now
    updatedAt := now }

/-- Stays in the state after a failed attempt, which is counted. -/
def recordRetry (entity : Entity S P) (reason : String) (now : Instant) : Entity S P :=
  { entity with
    stateCount := min (entity.stateCount + 1) maxStateCount
    errorDetail := some reason
    stateTimestamp := now
    updatedAt := now }

/-- Enters a failure state and keeps the reason. -/
def fail (entity : Entity S P) (state : S) (reason : String) (now : Instant) : Entity S P :=
  { entity.transitionTo state now with errorDetail := some reason }

/-! ### Leases -/

/-- Whether somebody holds a live lease. -/
def isLeasedAt (entity : Entity S P) (now : Instant) : Bool :=
  entity.lease.any (·.isLiveAt now)

/-- Whether nobody holds a live lease. -/
def isFreeAt (entity : Entity S P) (now : Instant) : Bool :=
  entity.lease.all fun lease => !lease.isLiveAt now

/-- Whether the entity has a lease that no longer excludes anybody. -/
def hasLapsedLeaseAt (entity : Entity S P) (now : Instant) : Bool :=
  entity.lease.any fun lease => !lease.isLiveAt now

/-- Whether the recorded lease is the holder's, live or not. -/
def isLeasedBy (entity : Entity S P) (holder : String) : Bool :=
  entity.lease.any (·.holder = holder)

/-- An entity is free exactly if it is not leased. -/
theorem isFreeAt_eq_not_isLeasedAt (entity : Entity S P) (now : Instant) :
    entity.isFreeAt now = !entity.isLeasedAt now := by
  unfold isFreeAt isLeasedAt
  cases entity.lease <;> rfl

end Entity

end Leasehold
