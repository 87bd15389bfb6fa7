/-
**Permits.**

A pool of permits bounds how many handlers work at the same time. It may be shared by several
engines, each in a lane of its own. Who finds no free permit waits, and a permit that comes back
goes to the one who has waited longest. An engine without a pool needs no permits.

However many permits are free, only so many seats go on in one turn; then the others get theirs.

* `Permits.take?`: a free permit;
* `Permits.enqueue`: waiting for one;
* `Permits.giveBack`: the return of a permit;
* `Permits.collect`: the seats of a lane whose wait is over;
* `Permits.spend`, `Permits.isSpent`, `Permits.refresh`: what is left of a turn.
-/

namespace Leasehold

/-- A seat in a lane that waits for a permit. -/
structure Ticket where
  lane : Nat
  seat : Nat
deriving DecidableEq, Repr

/-- A pool of permits, and what is left of the turn. -/
structure Permits where
  size : Nat
  /-- Free permits, if permits are needed. -/
  available : Option Nat
  /-- How many seats can still go on in the turn, if there is a bound. -/
  allowance : Option Nat
  /-- Who waits, the longest wait first. -/
  queue : List Ticket
  /-- Who waited and has a permit now. -/
  granted : List Ticket
deriving DecidableEq, Repr

namespace Permits

/-- How many seats go on in one turn. -/
def turn : Nat := 128

/-- A pool of so many permits, at least one. -/
def ofSize (size : Nat) : Permits := ⟨max size 1, some (max size 1), some turn, [], []⟩

/-- No pool: nobody needs a permit. -/
def unneeded : Permits := ⟨0, none, some turn, [], []⟩

/-! ### The pool -/

/-- Whether a permit is needed to go on. -/
def areNeeded (permits : Permits) : Bool := permits.available.isSome

/-- The pool with one permit taken from those that are free, if one is needed. -/
def take? (permits : Permits) : Option Permits :=
  match permits.available with
  | none => some permits
  | some 0 => none
  | some (available + 1) => some { permits with available := some available }

/-- The pool with one more who waits. -/
def enqueue (permits : Permits) (ticket : Ticket) : Permits :=
  { permits with queue := permits.queue ++ [ticket] }

/-- The pool after the return of a permit. -/
def giveBack (permits : Permits) : Permits :=
  match permits.queue with
  | [] => { permits with available := permits.available.map (· + 1) }
  | ticket :: rest => { permits with queue := rest, granted := permits.granted ++ [ticket] }

/-- The seats of a lane that were granted a permit, and the pool without these grants. -/
def collect (permits : Permits) (lane : Nat) : List Nat × Permits :=
  (permits.granted.filterMap fun ticket => if ticket.lane = lane then some ticket.seat else none,
    { permits with granted := permits.granted.filter fun ticket => ticket.lane ≠ lane })

/-! ### Turns -/

/-- Whether no seat can go on in the turn any more. -/
def isSpent (permits : Permits) : Bool := permits.allowance == some 0

/-- After one more seat has gone on. -/
def spend (permits : Permits) : Permits :=
  { permits with allowance := permits.allowance.map (· - 1) }

/-- At the beginning of a turn. -/
def refresh (permits : Permits) : Permits :=
  { permits with allowance := permits.allowance.map fun _ => turn }

end Permits

end Leasehold
