/-
**Stages.**

A stage is all that the hub of a rehearsal works with: stores in memory, a clock that shows the time
that has passed since the start, partners, and a record of what happened.

* `Stage.stores`: the stores of the three processes;
* `Stage.world`: the stage as surroundings of a hub;
* `Stage.events`, `Stage.calls`: what happened since the last step, process by process.
-/

import Leasehold.Hub.Run
import Leasehold.Rehearsal.Partners
import Leasehold.Store.Memory

namespace Leasehold.Rehearsal

open Credential

/-- All that a hub works with. -/
structure Stage where
  issuance : Memory Issuance.State Issuance.Submission := Memory.empty
  holder : Memory HolderRequest.State HolderRequest.Request := Memory.empty
  statusList : Memory StatusList.State StatusList.Publication := Memory.empty
  start : Instant
  /-- Milliseconds since the start. -/
  time : Nat := 0
  partners : Partners
  /-- The transitions since the last step, the last one first. -/
  transitions : List Transition := []
  /-- The log, the last entry first. -/
  log : List Log.Entry := []
  /-- How many ids were made up. -/
  automatic : Nat := 0
  /-- The lanes, until the hub is shut down. -/
  run : Option HubRun := none

namespace Stage

/-- The stores of the three processes. -/
def stores : HubStores Stage where
  issuance operation := fun stage =>
    let (answer, memory) := Memory.run operation stage.issuance
    (answer, { stage with issuance := memory })
  holder operation := fun stage =>
    let (answer, memory) := Memory.run operation stage.holder
    (answer, { stage with holder := memory })
  statusList operation := fun stage =>
    let (answer, memory) := Memory.run operation stage.statusList
    (answer, { stage with statusList := memory })

/-- The stage as surroundings of a hub. -/
def world : World Stage Call Response where
  now stage := stage.start.plus (.ofMillis (.ofNat stage.time))
  tick time := modify fun stage => { stage with time := time }
  log entry := modify fun stage => { stage with log := entry :: stage.log }
  emit transition := modify fun stage =>
    { stage with transitions := transition :: stage.transitions }
  call request := fun stage =>
    let (answer, partners) := (Partners.respond request).run stage.partners
    (answer, { stage with partners := partners })

/-- The stage at the beginning of a step. -/
def cleared (stage : Stage) : Stage :=
  { stage with transitions := [], partners := { stage.partners with calls := [] } }

/-- The transitions since the last step, by the name of their process type. -/
def events (stage : Stage) : List Transition :=
  [HolderRequest.entityType, Issuance.entityType, StatusList.entityType].flatMap fun name =>
    stage.transitions.reverse.filter (·.entityType == name)

/-- The calls of partners since the last step, by their process type. -/
def calls (stage : Stage) : List CallRecord :=
  [Group.issuance, .holder, .statusList].flatMap fun group =>
    stage.partners.calls.reverse.filter (·.group = group)

end Stage

end Leasehold.Rehearsal
