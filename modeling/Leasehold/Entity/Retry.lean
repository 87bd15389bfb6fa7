/-
**Retry policies.**

The delay before the next attempt doubles with every attempt in a state, up to a cap, and the
number of attempts is bounded. Which entities are due at an instant is answered for all of them at
once by a list of cutoffs, one for each count.

* `RetryPolicy.delayFor`: the delay after so many attempts;
* `RetryPolicy.isDue`: whether an entity may be tried again;
* `RetryPolicy.dueFilter`: the same question as cutoffs on the state timestamp;
* `DueFilter.admits`: whether a filter lets an entity pass.
-/

import Leasehold.Entity.Basic

namespace Leasehold

/-- How often and how soon failed attempts are repeated. -/
structure RetryPolicy where
  /-- Attempts in one state after the first before the entity fails. -/
  maxRetries : Nat := 7
  /-- The delay before the first attempt in a state. -/
  baseDelay : Duration := Duration.ofSeconds 1
  /-- The longest delay. -/
  maxDelay : Duration := Duration.ofSeconds 60
deriving DecidableEq, Repr

/-- Per-count cutoffs on the state timestamp. -/
structure DueFilter where
  /-- The cutoffs for the counts from zero on. -/
  cutoffs : List Instant
  /-- The cutoff for every higher count. -/
  fallback : Instant
deriving DecidableEq, Repr

namespace DueFilter

/-- The latest state timestamp that is due with a count. -/
def cutoffFor (filter : DueFilter) (stateCount : Nat) : Instant :=
  filter.cutoffs[stateCount]?.getD filter.fallback

/-- Whether an entity with this count and timestamp is due. -/
def admits (filter : DueFilter) (stateCount : Nat) (stateTimestamp : Instant) : Bool :=
  stateTimestamp ≤ filter.cutoffFor stateCount

end DueFilter

namespace RetryPolicy

variable {S P : Type}

/--
The base delay doubled for each attempt, at most the longest delay. It is the longest delay too
when the doubling leaves 32 bits or the product leaves the range of durations.
-/
def delayFor (policy : RetryPolicy) (stateCount : Nat) : Duration :=
  match if stateCount < 32 then policy.baseDelay.scale? (1 <<< stateCount) else none with
  | some delay => min delay policy.maxDelay
  | none => policy.maxDelay

/-- When an entity may be tried again. -/
def nextDueAt (policy : RetryPolicy) (entity : Entity S P) : Instant :=
  entity.stateTimestamp.plus (policy.delayFor entity.stateCount)

/-- Whether an entity may be tried again now. -/
def isDue (policy : RetryPolicy) (entity : Entity S P) (now : Instant) : Bool :=
  policy.nextDueAt entity ≤ now

/-- Whether an entity has used up its attempts. -/
def isExhausted (policy : RetryPolicy) (entity : Entity S P) : Bool :=
  policy.maxRetries < entity.stateCount

/-- The cutoffs from a count on, up to the first count with the longest delay. -/
def cutoffsFrom (policy : RetryPolicy) (now : Instant) (stateCount : Nat) : Nat → DueFilter
  | 0 => ⟨[], now.minus (policy.delayFor stateCount)⟩
  | steps + 1 =>
    let delay := policy.delayFor stateCount
    if policy.maxDelay ≤ delay then ⟨[], now.minus delay⟩
    else
      let rest := policy.cutoffsFrom now (stateCount + 1) steps
      ⟨now.minus delay :: rest.cutoffs, rest.fallback⟩

/-- The entities that are due at an instant. -/
def dueFilter (policy : RetryPolicy) (now : Instant) : DueFilter :=
  if policy.baseDelay.isZero then ⟨[], now⟩ else policy.cutoffsFrom now 0 64

end RetryPolicy

end Leasehold
