/-
**Lanes.**

A lane is the run of one engine: it polls, pauses, and polls again, until it sees the signal to
stop. Then it gives up the leases of its holder. A signal that comes during a poll is seen after it.

* `Signal`: what a lane knows of the signal to stop;
* `Phase`, `Lane`: where a run stands;
* `Engine.move`: one move of a lane;
* `Engine.runLane`: the moves of a lane up to a time;
* `Engine.runScript`: a whole run, with the times at which the signal changes.

Times are milliseconds from the start of the run.
-/

import Leasehold.Engine.Batch

namespace Leasehold

/-- What a lane knows of the signal to stop. -/
structure Signal where
  /-- The signal asks to stop. -/
  raised : Bool := false
  /-- The signal was given since the lane last looked. -/
  unseen : Bool := false
  /-- Nobody can give the signal any more. -/
  closed : Bool := false
deriving DecidableEq, Repr

/-- What happens to a signal. -/
inductive SignalChange where
  /-- It asks to stop. -/
  | raise
  /-- It asks to stop no more. -/
  | lower
  /-- It is given, but says what it said before. -/
  | notify
  /-- Whoever could give it goes away. -/
  | close
deriving DecidableEq, Repr

namespace Signal

/-- The signal after a change. -/
def apply (signal : Signal) : SignalChange → Signal
  | .raise => { signal with raised := true, unseen := true }
  | .lower => { signal with raised := false, unseen := true }
  | .notify => { signal with unseen := true }
  | .close => { signal with closed := true }

end Signal

/-- Where the run of an engine stands. -/
inductive Phase (S P Call : Type) (Response : Call → Type) where
  | fresh
  /-- It looks at the signal before a poll. -/
  | checking
  | polling (batch : Batch S P Call Response)
  /-- It waits for the next poll or for the signal. -/
  | pausing (wakes : Nat)
  /-- It gives up its leases. -/
  | stopping
  | stopped (time : Nat)

/-- The run of one engine. -/
structure Lane (S P Call : Type) (Response : Call → Type) where
  /-- The number by which a pool of permits knows the lane. -/
  number : Nat
  phase : Phase S P Call Response := .fresh
  signal : Signal := {}

namespace Lane

variable {S P Call : Type} {Response : Call → Type}

/-- When the run ended, if it did. -/
def stopTime? (lane : Lane S P Call Response) : Option Nat :=
  match lane.phase with
  | .stopped time => some time
  | _ => none

/-- The lane after a change of the signal. -/
def receive (lane : Lane S P Call Response) (change : SignalChange) : Lane S P Call Response :=
  { lane with signal := lane.signal.apply change }

/-- Whether the lane can move without time passing. -/
def canMove (lane : Lane S P Call Response) (now : Nat) : Bool :=
  match lane.phase with
  | .fresh | .checking | .stopping => true
  | .polling batch => !batch.line.isEmpty || batch.isOver
  | .pausing wakes => lane.signal.unseen || lane.signal.closed || decide (wakes ≤ now)
  | .stopped _ => false

/-- The times at which the lane can move again, if nobody gives it a signal or a permit. -/
def wakeTimes (lane : Lane S P Call Response) : List Nat :=
  match lane.phase with
  | .polling batch => batch.wakeTimes
  | .pausing wakes => [wakes]
  | _ => []

/-- The first of these times. -/
def nextWake? (lane : Lane S P Call Response) : Option Nat := lane.wakeTimes.min?

/-- The lane at a time, with the seats in line that wake or were granted a permit. -/
def rouse (lane : Lane S P Call Response) (now : Nat) (permits : Permits) :
    Lane S P Call Response × Permits :=
  match lane.phase with
  | .polling batch =>
    let (batch, permits) := (batch.wake now).takeGrants lane.number permits
    ({ lane with phase := .polling batch }, permits)
  | _ => (lane, permits)

/-- The servings that the batch of the lane may still need. -/
def servings (lane : Lane S P Call Response) : Nat :=
  match lane.phase with
  | .polling batch => batch.servings
  | _ => 0

/--
How often a lane moves at one time at most: a pause takes a millisecond or longer, and a signal is
seen once.
-/
def movesAtOnce : Nat := 12

end Lane

namespace Engine

variable {σ S P Call : Type} {Response : Call → Type} [DecidableEq S] [ProcessState S]
variable (engine : Engine σ S P Call Response) (world : World σ Call Response)

/-! ### Log entries of a run -/

/-- The field with the process type. -/
def typeField : String × Log.Value := ("entity_type", .text engine.registry.entityType)

/-- Says that the run begins. -/
def startEntry : Log.Entry :=
  ⟨.info, "Process engine started",
    [engine.typeField, ("holder_id", .text engine.holder),
      ("batch_size", .count engine.config.batchSize),
      ("poll_interval_ms", .count engine.config.pollInterval.shownMillis),
      ("lease_duration_ms", .count engine.config.leaseDuration.shownMillis)]⟩

/-- Says what a poll cycle did. -/
def cycleEntry (report : CycleReport) : Log.Entry :=
  ⟨.debug, "Poll cycle completed",
    [engine.typeField, ("selected", .count report.selected), ("leased", .count report.leased),
      ("succeeded", .count report.succeeded), ("retried", .count report.retried),
      ("failed", .count report.failed)]⟩

/-- Says that a poll cycle could not select. -/
def failureEntry (error : StoreError) : Log.Entry :=
  ⟨.error, "Poll cycle failed", [engine.typeField, ("error", .text error.message)]⟩

/-- Says that the signal to stop was seen. -/
def signalEntry : Log.Entry :=
  ⟨.info, "Process engine received shutdown signal", [engine.typeField]⟩

/-- Says how the run ended. -/
def stopEntry : Except StoreError Nat → Log.Entry
  | .ok released =>
    ⟨.info, "Process engine stopped", [engine.typeField, ("released", .count released)]⟩
  | .error error =>
    ⟨.warn, "Process engine stopped without releasing its leases; they will expire",
      [engine.typeField, ("error", .text error.message)]⟩

/-! ### Moves -/

/-- The pause between two polls, which takes a millisecond at least. -/
def pauseMillis : Nat := max 1 engine.config.pollInterval.timerMillis

/-- Selects a batch; without one the lane pauses at once. -/
def beginPoll (now : Nat) : StateM σ (Phase S P Call Response) := do
  match ← engine.select world with
  | .error error =>
    world.log (engine.failureEntry error)
    return .pausing (now + engine.pauseMillis)
  | .ok [] =>
    engine.noteIdle world
    return .pausing (now + engine.pauseMillis)
  | .ok selection => return .polling (engine.seatSelection selection)

/-- Ends a poll whose batch is over. -/
def endPoll (now : Nat) (batch : Batch S P Call Response) : StateM σ (Phase S P Call Response) := do
  if 0 < batch.report.selected then world.log (engine.cycleEntry batch.report)
  return .pausing (now + engine.pauseMillis)

/-- Ends a pause: because of the signal, if there is one, or because the time has come. -/
def endPause (signal : Signal) : StateM σ (Phase S P Call Response) := do
  let stops := if signal.unseen then signal.raised else signal.closed
  if stops then
    world.log engine.signalEntry
    return .stopping
  else return .checking

/-- Gives up the leases of the holder. -/
def stop (now : Nat) : StateM σ (Phase S P Call Response) := do
  world.log (engine.stopEntry (← engine.store (.releaseAll engine.holder)))
  return .stopped now

/-- One move of a lane. -/
def move (now : Nat) (lane : Lane S P Call Response) (permits : Permits) :
    StateM σ (Lane S P Call Response × Permits) := do
  match lane.phase with
  | .fresh =>
    world.log engine.startEntry
    return ({ lane with phase := .checking }, permits)
  | .checking =>
    let phase ← if lane.signal.raised then pure .stopping else engine.beginPoll world now
    return ({ lane with phase := phase }, permits)
  | .polling batch =>
    if batch.isOver then
      return ({ lane with phase := ← engine.endPoll world now batch }, permits)
    else
      let (batch, permits) ← engine.settle world lane.number now batch permits
      return ({ lane with phase := .polling batch }, permits)
  | .pausing _ =>
    let phase ← engine.endPause world lane.signal
    let signal := { lane.signal with unseen := false }
    return ({ lane with phase := phase, signal := signal }, permits.spend)
  | .stopping => return ({ lane with phase := ← engine.stop world now }, permits)
  | .stopped _ => return (lane, permits)

/-- A number of moves, or fewer if the lane cannot move. -/
def moves (now : Nat) : Nat → Lane S P Call Response → Permits →
    StateM σ (Lane S P Call Response × Permits)
  | 0, lane, permits => return (lane, permits)
  | count + 1, lane, permits => do
    if lane.canMove now then
      let (lane, permits) ← engine.move world now lane permits
      moves now count lane permits
    else return (lane, permits)

/-- All moves of a lane at one time. -/
def settleLane (now : Nat) (lane : Lane S P Call Response) (permits : Permits) :
    StateM σ (Lane S P Call Response × Permits) :=
  let (lane, permits) := lane.rouse now permits.refresh
  engine.moves world now Lane.movesAtOnce lane permits

/-- The moves of a lane from one time on, before another. -/
def runLane (limit now : Nat) (lane : Lane S P Call Response) (permits : Permits) :
    StateM σ (Lane S P Call Response × Permits) := do
  if _early : now < limit then
    world.tick now
    let (lane, permits) ← engine.settleLane world now lane permits
    match lane.nextWake? with
    | none => return (lane, permits)
    | some next => runLane limit (max next (now + 1)) lane permits
  else return (lane, permits)
termination_by limit - now

/--
A run with the times at which the signal changes, in order. After the last change the run goes on
up to the limit.
-/
def runScript (limit : Nat) : List (Nat × SignalChange) → Nat → Lane S P Call Response → Permits →
    StateM σ (Lane S P Call Response × Permits)
  | [], now, lane, permits => engine.runLane world limit now lane permits
  | (time, change) :: rest, now, lane, permits => do
    let (lane, permits) ← engine.runLane world time now lane permits
    runScript limit rest time (lane.receive change) permits

end Engine

end Leasehold
