/-
**Selection criteria.**

What a query selects, in which order, and which page of it. Entities are ordered by their state
timestamp and then by their id.

* `Criteria.matchesEntity`: whether an entity is selected;
* `Criteria.arrange`: the page of some entities in the order of the criteria;
* `pageOf`: that page for any kind of record with a timestamp and an id.
-/

import Leasehold.Entity.Retry

namespace Leasehold

/-- The direction of an ordering. -/
inductive SortOrder where
  | ascending
  | descending
deriving DecidableEq, Repr

/-- What a query selects; an absent part selects everything. -/
structure Criteria (S : Type) where
  states : Option (List S) := none
  /-- Without a live lease at this instant. -/
  notLeasedAt : Option Instant := none
  due : Option DueFilter := none
  /-- With a lease of this holder, live or not. -/
  leasedBy : Option String := none
  limit : Option Nat := none
  offset : Nat := 0
  order : SortOrder := .ascending
deriving DecidableEq

/-- Whether one record comes before another, or is the same, by timestamp and id. -/
def notAfter {α : Type} (timestamp : α → Int) (id : α → String) (first second : α) : Bool :=
  timestamp first < timestamp second
    || (timestamp first == timestamp second && decide (id first ≤ id second))

/-- Records by timestamp and id, in one direction, after `offset` of them and up to a limit. -/
def pageOf {α : Type} (timestamp : α → Int) (id : α → String) (order : SortOrder) (offset : Nat)
    (limit : Option Nat) (records : List α) : List α :=
  let sorted := records.mergeSort (notAfter timestamp id)
  let directed := match order with
    | .ascending => sorted
    | .descending => sorted.reverse
  let rest := directed.drop offset
  match limit with
  | some count => rest.take count
  | none => rest

namespace Criteria

variable {S P : Type} [DecidableEq S]

/-- Whether an entity is selected; order and page do not matter. -/
def matchesEntity (criteria : Criteria S) (entity : Entity S P) : Bool :=
  criteria.states.all (·.contains entity.state)
    && criteria.notLeasedAt.all (fun now => !entity.isLeasedAt now)
    && criteria.due.all (·.admits entity.stateCount entity.stateTimestamp)
    && criteria.leasedBy.all entity.isLeasedBy

/-- The page of some entities that the criteria ask for. -/
def arrange (criteria : Criteria S) (entities : List (Entity S P)) : List (Entity S P) :=
  pageOf (·.stateTimestamp.nanos) (·.id) criteria.order criteria.offset criteria.limit entities

end Criteria

end Leasehold
