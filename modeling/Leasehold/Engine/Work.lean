/-
**The work of a handler.**

A handler works on one entity: it may call services, read the clock and log, one step after the
other, and ends with a reply. What it does is a tree, with a branch for every response to a call,
so that a handler can be followed step by step next to other actors.

* `Work`: the tree;
* `Reply.verdict`: what a reply means for the entity; a handler that fails or crashes is retried;
* `World`: the surroundings in which work is done;
* `Work.drive`: work in a world, up to its end or to a call that takes time.
-/

import Leasehold.Entity.Basic
import Leasehold.Log
import Leasehold.Engine.Transition

namespace Leasehold

/-- What a handler decides about its entity. -/
inductive Verdict (S P : Type) where
  /-- Enter a state with a payload. -/
  | success (next : S) (payload : P)
  /-- Stay, and try again after the delay. -/
  | retry (reason : String)
  /-- Enter the failed state. -/
  | fatal (reason : String)
deriving DecidableEq, Repr

/-- How a handler ends. -/
inductive Reply (S P : Type) where
  | decided (verdict : Verdict S P)
  | failed (text : String)
  /-- The handler broke off, with a message if it left one. -/
  | crashed (message : Option String)
deriving DecidableEq, Repr

namespace Reply

variable {S P : Type}

/-- The verdict of a reply. -/
def verdict : Reply S P → Verdict S P
  | .decided verdict => verdict
  | .failed text => .retry text
  | .crashed message => .retry ("handler panicked: " ++ message.getD "unknown panic payload")

end Reply

/-- Work in steps, with calls that are answered from outside. -/
inductive Work (Call : Type) (Response : Call → Type) (α : Type) where
  | done (result : α)
  | call (request : Call) (next : Response request → Work Call Response α)
  | readClock (next : Instant → Work Call Response α)
  | log (entry : Log.Entry) (next : Work Call Response α)

/-- A handler: the work on an entity. -/
abbrev Handler (S P Call : Type) (Response : Call → Type) : Type :=
  Entity S P → Work Call Response (Reply S P)

/-- What surrounds a store and its engines, in a state of a type `σ`. -/
structure World (σ Call : Type) (Response : Call → Type) where
  /-- What the clock shows. -/
  now : σ → Instant
  /-- Time passes, to so many milliseconds from the start. -/
  tick : Nat → StateM σ Unit
  /-- An entry is logged. -/
  log : Log.Entry → StateM σ Unit
  /-- A transition is reported to the listener. -/
  emit : Transition → StateM σ Unit
  /-- A service is called; it takes some milliseconds to respond. -/
  call : (request : Call) → StateM σ (Nat × Response request)

/-- How far work came. -/
inductive Progress (Call : Type) (Response : Call → Type) (α : Type) where
  | finished (result : α)
  /-- A call takes so many milliseconds; then there is more to do. -/
  | waiting (millis : Nat) (rest : Work Call Response α)

namespace Work

variable {σ Call : Type} {Response : Call → Type} {α : Type}

/-- Works up to the end, or to the first call that takes time. -/
def drive (world : World σ Call Response) :
    Work Call Response α → StateM σ (Progress Call Response α)
  | .done result => pure (.finished result)
  | .call request next => do
    let (millis, response) ← world.call request
    if millis = 0 then (next response).drive world else pure (.waiting millis (next response))
  | .readClock next => do (next (world.now (← get))).drive world
  | .log entry next => do
    world.log entry
    next.drive world

end Work

end Leasehold
