/-
**Batches.**

The entities that one poll selected form a batch. They take their seats in the order of the
selection, so many at a time as the settings allow, and whoever leaves makes room for the next. A
seat first needs a permit; then its attempt goes on until it ends or its handler waits. At the end
of a turn the seats that could go on pause, and in the next turn the last of them comes first.

* `Engine.serve`: the first seat in line goes on as far as it can;
* `Engine.settle`: all seats go on as far as they can at one time;
* `Engine.runBatch`: a batch from one time to another;
* `Engine.poll`: a whole poll cycle.

Times are milliseconds from the start of the run.
-/

import Leasehold.Engine.Attempt
import Leasehold.Engine.Permits

namespace Leasehold

/-- The seat of one selected entity. -/
inductive Seat (S P Call : Type) (Response : Call → Type) where
  /-- It has not asked for a permit yet. -/
  | arrived (candidate : Entity S P)
  /-- It waits for a permit. -/
  | queued (candidate : Entity S P)
  /-- Its attempt could go on, but the turn is over. -/
  | paused (attempt : Attempt S P Call Response)
  /-- It has a permit, and its attempt rests until a time. -/
  | resting (wakes : Nat) (attempt : Attempt S P Call Response)
  | left

/-- The entities of one poll. -/
structure Batch (S P Call : Type) (Response : Call → Type) where
  /-- Who has no seat yet. -/
  outside : List (Entity S P)
  /-- The seats in the order in which they were taken. -/
  seats : List (Seat S P Call Response)
  /-- The numbers of the seats that can go on, first come first. -/
  line : List Nat
  /-- The numbers of the seats that rest, in the order in which they went to rest. -/
  sleepers : List Nat
  /-- The numbers of the seats that pause, in the order in which they began to. -/
  paused : List Nat
  report : CycleReport

namespace Batch

variable {S P Call : Type} {Response : Call → Type}

/-- A batch whose first entities have taken their seats. -/
def ofSelection (places : Nat) (selection : List (Entity S P)) : Batch S P Call Response :=
  let seated := selection.take places
  { outside := selection.drop places
    seats := seated.map .arrived
    line := List.range seated.length
    sleepers := []
    paused := []
    report := { selected := selection.length } }

/-- Whether all have left. -/
def isOver (batch : Batch S P Call Response) : Bool :=
  batch.outside.isEmpty && batch.seats.all fun seat => match seat with
    | .left => true
    | _ => false

/-- The batch with a seat changed. -/
def reseat (batch : Batch S P Call Response) (number : Nat) (seat : Seat S P Call Response) :
    Batch S P Call Response :=
  { batch with seats := batch.seats.set number seat }

/-- The batch with a seat that rests until a time. -/
def lull (batch : Batch S P Call Response) (number wakes : Nat)
    (attempt : Attempt S P Call Response) : Batch S P Call Response :=
  { batch.reseat number (.resting wakes attempt) with sleepers := batch.sleepers ++ [number] }

/-- The batch with a seat that pauses. -/
def pause (batch : Batch S P Call Response) (number : Nat)
    (attempt : Attempt S P Call Response) : Batch S P Call Response :=
  { batch.reseat number (.paused attempt) with paused := batch.paused ++ [number] }

/-- The batch with the seats that paused in line, the last first. -/
def rouse (batch : Batch S P Call Response) : Batch S P Call Response :=
  { batch with line := batch.line ++ batch.paused.reverse, paused := [] }

/-- The batch with the seats that were granted a permit in line, and the pool without the grants. -/
def takeGrants (batch : Batch S P Call Response) (lane : Nat) (permits : Permits) :
    Batch S P Call Response × Permits :=
  let (seats, permits) := permits.collect lane
  ({ batch with line := batch.line ++ seats }, permits)

/-- The batch with the next entity from outside on a new seat in line. -/
def fill (batch : Batch S P Call Response) : Batch S P Call Response :=
  match batch.outside with
  | [] => batch
  | candidate :: rest =>
    { batch with
      outside := rest
      seats := batch.seats ++ [.arrived candidate]
      line := batch.line ++ [batch.seats.length] }

/-- When a seat wakes. -/
def wakeTime? : Seat S P Call Response → Option Nat
  | .resting wakes _ => some wakes
  | _ => none

/-- The times at which seats wake. -/
def wakeTimes (batch : Batch S P Call Response) : List Nat := batch.seats.filterMap wakeTime?

/-- The time at which the next seat wakes. -/
def nextWake? (batch : Batch S P Call Response) : Option Nat := batch.wakeTimes.min?

/-- The batch with the seats in line whose rest is over. -/
def wake (batch : Batch S P Call Response) (now : Nat) : Batch S P Call Response :=
  let (awake, asleep) := batch.sleepers.partition fun number =>
    (batch.seats[number]?.bind wakeTime?).any (· ≤ now)
  { batch with line := batch.line ++ awake, sleepers := asleep }

/--
How often seats can be served at one time, and turns begun. Each of the places asks for a permit,
goes on with it and begins to rest, and may pause before it does so; a turn lets at least one of
those that pause go on.
-/
def servings (batch : Batch S P Call Response) : Nat :=
  let steps := 4 * (batch.outside.length + batch.seats.length) + 1
  steps * steps

end Batch

namespace Engine

variable {σ S P Call : Type} {Response : Call → Type} [DecidableEq S] [ProcessState S]
variable (engine : Engine σ S P Call Response) (world : World σ Call Response)

/-- An attempt goes on; at its end the permit goes back, and somebody else takes a seat. -/
def goOn (lane now number : Nat) (attempt : Attempt S P Call Response)
    (batch : Batch S P Call Response) (permits : Permits) :
    StateM σ (Batch S P Call Response × Permits) := do
  match ← engine.advance world attempt with
  | .ended ending =>
    let (batch, permits) := { batch.reseat number .left with
      report := batch.report.record ending }.takeGrants lane permits.giveBack
    return (batch.fill, permits)
  | .waiting millis leased rest =>
    let attempt := .waiting millis leased rest
    if permits.isSpent then return (batch.pause number attempt, permits)
    else return (batch.lull number (now + millis) attempt, permits)
  | attempt => return (batch.lull number now attempt, permits)

/-- An attempt goes on in the turn, or pauses at its end. -/
def goOnInTurn (lane now number : Nat) (attempt : Attempt S P Call Response)
    (batch : Batch S P Call Response) (permits : Permits) :
    StateM σ (Batch S P Call Response × Permits) := do
  if permits.isSpent then return (batch.pause number attempt, permits)
  else engine.goOn world lane now number attempt batch permits.spend

/-- The first seat in line goes on. -/
def serve (lane now : Nat) (batch : Batch S P Call Response) (permits : Permits) :
    StateM σ (Batch S P Call Response × Permits) := do
  match batch.line with
  | [] => return (batch, permits)
  | number :: line =>
    let batch : Batch S P Call Response := { batch with line := line }
    match batch.seats[number]? with
    | some (.arrived candidate) =>
      match permits.take? with
      | some permits =>
        if permits.areNeeded then
          engine.goOnInTurn world lane now number (.selected candidate) batch permits
        else engine.goOn world lane now number (.selected candidate) batch permits
      | none => return (batch.reseat number (.queued candidate), permits.enqueue ⟨lane, number⟩)
    | some (.queued candidate) =>
      engine.goOnInTurn world lane now number (.selected candidate) batch permits
    | some (.paused (.waiting millis leased rest)) =>
      return (batch.lull number (now + millis) (.waiting millis leased rest), permits)
    | some (.paused attempt) => engine.goOnInTurn world lane now number attempt batch permits
    | some (.resting _ attempt) =>
      engine.goOnInTurn world lane now number attempt.resume batch permits
    | _ => return (batch, permits)

/-- A number of servings and turns, or fewer if nobody can go on any more. -/
def serveAll (lane now : Nat) : Nat → Batch S P Call Response → Permits →
    StateM σ (Batch S P Call Response × Permits)
  | 0, batch, permits => return (batch, permits)
  | count + 1, batch, permits => do
    match batch.line, batch.paused with
    | [], [] => return (batch, permits)
    | [], _ :: _ => serveAll lane now count batch.rouse permits.refresh
    | _ :: _, _ =>
      let (batch, permits) ← engine.serve world lane now batch permits
      serveAll lane now count batch permits

/-- All that can go on at one time goes on. -/
def settle (lane now : Nat) (batch : Batch S P Call Response) (permits : Permits) :
    StateM σ (Batch S P Call Response × Permits) :=
  engine.serveAll world lane now batch.servings batch permits

/-- A batch from one time on, until it is over or its next seat wakes after the limit. -/
def runBatch (lane limit now : Nat) (batch : Batch S P Call Response) (permits : Permits) :
    StateM σ (Batch S P Call Response × Permits) := do
  let (batch, permits) ← engine.settle world lane now batch permits
  match batch.nextWake? with
  | none => return (batch, permits)
  | some next =>
    if _inTime : now < next ∧ next ≤ limit then
      world.tick next
      runBatch lane limit next (batch.wake next) permits.refresh
    else return (batch, permits)
termination_by limit - now

/-- The entities that are due. -/
def select : StateM σ (Except StoreError (List (Entity S P))) := do
  let now := world.now (← get)
  engine.store (.query (engine.criteria now))

/-- Says that nothing is due. -/
def noteIdle : StateM σ Unit :=
  world.log ⟨.debug, "No due entities", [("entity_type", .text engine.registry.entityType)]⟩

/-- The batch of a selection. -/
def seatSelection (selection : List (Entity S P)) : Batch S P Call Response :=
  .ofSelection engine.config.concurrency selection

/--
One poll cycle, with a pool of permits. Only a failing selection is an error; what happens to one
entity is counted in the report. A handler that would wait beyond the limit is not waited for.
-/
def poll (limit : Nat) (permits : Permits) :
    StateM σ (Except StoreError CycleReport × Permits) := do
  match ← engine.select world with
  | .error error => return (.error error, permits)
  | .ok [] =>
    engine.noteIdle world
    return (.ok {}, permits)
  | .ok selection =>
    let (batch, permits) ← engine.runBatch world 0 limit 0 (engine.seatSelection selection) permits
    return (.ok batch.report, permits)

end Engine

end Leasehold
