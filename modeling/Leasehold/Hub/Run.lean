/-
**Running a hub.**

The three engines of a hub run in lanes next to each other and share the pool of permits. Lanes that
wait for the same time go on in the order in which they began to wait. After them come the lanes
that were granted a permit, the first grant first.

* `HubRun.takeDue`: the lanes whose turn it is at a time;
* `Hub.start`: the lanes of a hub that was started;
* `Hub.runTo`: the lanes up to a time;
* `Hub.shutdown`: the signal to stop for all lanes, and what became of them.

Times are milliseconds from the start of the hub.
-/

import Leasehold.Hub.Basic

namespace Leasehold

open Credential

/-- The lane of a credential process. -/
abbrev CredentialLane (S P : Type) : Type := Lane S P Call Response

/-- The lanes of a hub. -/
inductive LaneName where
  | issuance
  | holder
  | statusList
deriving DecidableEq, Repr

namespace LaneName

/-- All lanes, in the order of their registration. -/
def all : List LaneName := [issuance, holder, statusList]

/-- The number by which the pool of permits knows a lane. -/
def number : LaneName → Nat
  | issuance => 0
  | holder => 1
  | statusList => 2

/-- The lane with a number. -/
def ofNumber? (number : Nat) : Option LaneName := all[number]?

end LaneName

/-- A lane that waits for a time. -/
structure Alarm where
  time : Nat
  lane : LaneName
deriving DecidableEq, Repr

/-- Where the lanes of a hub stand. -/
structure HubRun where
  issuance : CredentialLane Issuance.State Issuance.Submission
  holder : CredentialLane HolderRequest.State HolderRequest.Request
  statusList : CredentialLane StatusList.State StatusList.Publication
  permits : Permits
  /-- The lanes that can go on without an alarm, first come first. -/
  ready : List LaneName
  /-- The alarms, in the order in which they were set. -/
  alarms : List Alarm

namespace HubRun

/-- Lanes that have not begun. -/
def fresh (permits : Permits) : HubRun where
  issuance := { number := LaneName.issuance.number }
  holder := { number := LaneName.holder.number }
  statusList := { number := LaneName.statusList.number }
  permits := permits
  ready := LaneName.all
  alarms := []

/-- The lanes after a change of the signal. -/
def receive (run : HubRun) (change : SignalChange) : HubRun :=
  { run with
    issuance := run.issuance.receive change
    holder := run.holder.receive change
    statusList := run.statusList.receive change
    ready := run.ready ++ LaneName.all }

/-- The lanes after a new alarm, unless it was set before. -/
def setAlarm (run : HubRun) (alarm : Alarm) : HubRun :=
  if alarm ∈ run.alarms then run else { run with alarms := run.alarms ++ [alarm] }

/-- The lanes after the alarms for the times at which one of them can go on. -/
def setAlarms (lane : LaneName) (times : List Nat) (run : HubRun) : HubRun :=
  times.foldl (fun run time => run.setAlarm ⟨time, lane⟩) run

/-- The lanes whose turn it is at a time, and the hub without their alarms. -/
def takeDue (now : Nat) (run : HubRun) : List LaneName × HubRun :=
  let (due, later) := run.alarms.partition (·.time ≤ now)
  ((due.map (·.lane) ++ run.ready).eraseDups, { run with ready := [], alarms := later })

/-- The lane that was granted a permit first and has not used it. -/
def granted? (run : HubRun) : Option LaneName :=
  run.permits.granted.head?.bind fun ticket => LaneName.ofNumber? ticket.lane

/-- The time at which the next lane can go on. -/
def nextWake? (run : HubRun) : Option Nat := (run.alarms.map (·.time)).min?

/-- How often a permit can pass from one lane to another at one time, at most. -/
def servings (run : HubRun) : Nat :=
  run.issuance.servings + run.holder.servings + run.statusList.servings

/-- The end of a lane, if there was one. -/
def taskEnd : Option Nat → TaskEnd
  | some time => .returns time
  | none => .never

/-- The ends of the lanes. -/
def taskEnds (run : HubRun) : List TaskEnd :=
  [run.issuance.stopTime?, run.holder.stopTime?, run.statusList.stopTime?].map taskEnd

end HubRun

namespace Hub

variable {σ : Type} (hub : Hub σ) (world : World σ Call Response)

/-- Says that the hub starts. -/
def startEntry : Log.Entry := ⟨.info, "Starting trust hub", [("instance_id", .text hub.instanceId)]⟩

/-- Says that the hub is shut down. -/
def shutdownEntry : Log.Entry :=
  ⟨.info, "Shutting down trust hub", [("instance_id", .text hub.instanceId)]⟩

/-- Starts the hub; its lanes begin when time passes. -/
def start : StateM σ HubRun := do
  world.log hub.startEntry
  world.log hub.supervisor.startEntry
  return .fresh hub.permits

/-- A lane goes on as far as it can at one time. -/
def settleLane (now : Nat) (run : HubRun) : LaneName → StateM σ HubRun
  | .issuance => do
    let (lane, permits) ← hub.issuance.settleLane world now run.issuance run.permits
    return { run with issuance := lane, permits := permits }.setAlarms .issuance lane.wakeTimes
  | .holder => do
    let (lane, permits) ← hub.holder.settleLane world now run.holder run.permits
    return { run with holder := lane, permits := permits }.setAlarms .holder lane.wakeTimes
  | .statusList => do
    let (lane, permits) ← hub.statusList.settleLane world now run.statusList run.permits
    return { run with statusList := lane, permits := permits }.setAlarms .statusList lane.wakeTimes

/-- Some lanes go on, one after the other. -/
def settleLanes (now : Nat) : List LaneName → HubRun → StateM σ HubRun
  | [], run => return run
  | lane :: rest, run => do settleLanes now rest (← hub.settleLane world now run lane)

/-- A number of times the lane that was granted a permit first goes on, if there is one. -/
def settleGranted (now : Nat) : Nat → HubRun → StateM σ HubRun
  | 0, run => return run
  | count + 1, run => do
    match run.granted? with
    | some lane => settleGranted now count (← hub.settleLane world now run lane)
    | none => return run

/-- All lanes go on as far as they can at one time. -/
def settle (now : Nat) (run : HubRun) : StateM σ HubRun := do
  let (due, run) := run.takeDue now
  let run ← hub.settleLanes world now due run
  hub.settleGranted world now run.servings run

/-- The lanes from one time on, before another. -/
def runTo (limit now : Nat) (run : HubRun) : StateM σ HubRun := do
  if _early : now < limit then
    world.tick now
    let run ← hub.settle world now run
    match run.nextWake? with
    | none => return run
    | some next => runTo limit (max next (now + 1)) run
  else return run
termination_by limit - now

/-- Logs some entries. -/
def logAll : List Log.Entry → StateM σ Unit
  | [] => return
  | entry :: rest => do
    world.log entry
    logAll rest

/--
Stops the lanes and waits for them up to the deadline: the report, and when it is over. Without a
deadline the shutdown crashes, with a message, and nobody waits for the lanes.
-/
def shutdown (now : Nat) (run : HubRun) : StateM σ (Except String ShutdownReport × Nat) := do
  world.log hub.shutdownEntry
  world.log hub.supervisor.shutdownEntry
  let limit := (hub.supervisor.deadline? now).getD now
  let stopped ← hub.runTo world limit now (run.receive .raise)
  match hub.supervisor.shutdown now stopped.taskEnds with
  | .error message => return (.error message, now)
  | .ok (fates, finished) =>
    world.tick finished
    logAll world (Supervisor.closingEntries fates)
    return (.ok (.ofFates fates), finished)

end Hub

end Leasehold
