/-
**Scenes.**

A scene is all that the engines of a rehearsal work with: a store with its troubles, a clock that
moves only when it is told to, partners and scripts, and a record of what happened.

* `Scene.sound`, `Scene.troubled`: the store without and with its troubles;
* `Scene.runEffect`: a change behind the engines' back;
* `Scene.answerCue`, `Scene.answerCall`: what scripted handlers and partners do;
* `Scene.world`: the scene as surroundings of engines.
-/

import Leasehold.Rehearsal.Script
import Leasehold.Rehearsal.Trouble
import Leasehold.Store.Any
import Leasehold.Wire.Answer

namespace Leasehold.Rehearsal

open Credential

/-- All that the engines of a rehearsal work with. -/
structure Scene (S P : Type) where
  store : AnyStore S P
  clock : ManualClock
  troubles : Replies (Option (Trouble S)) := []
  partners : Partners := {}
  /-- What is left of the script of each handler. -/
  scripts : List (Script S P) := []
  /-- Entities that were put aside under a name. -/
  slots : List (String × Entity S P) := []
  /-- The calls since the last step, the last one first. -/
  calls : List Json := []
  /-- The transitions since the last step, the last one first. -/
  events : List Transition := []
  /-- The log, the last entry first. -/
  log : List Log.Entry := []
  /-- Scripted handlers at work. -/
  inFlight : Nat := 0
  /-- The most scripted handlers at work at the same time since the last step. -/
  peak : Nat := 0
  /-- How many ids were made up. -/
  automatic : Nat := 0
  /-- What is left of the turn of the engines, if turns are bounded. -/
  allowance : Option Nat := some Permits.turn

namespace Scene

variable {S P : Type} [DecidableEq S] [ProcessState S] [Payload P]

/-! ### The store -/

/-- The store without its troubles. -/
def sound : Backend (Scene S P) S P := fun operation scene =>
  let (answer, store) := AnyStore.run operation scene.store
  (answer, { scene with store := store })

/-- The store with its troubles. -/
def troubled : Backend (Scene S P) S P := fun operation scene =>
  let (name, id) := operationName operation
  let (trouble, troubles) := Replies.next name scene.troubles
  Trouble.around sound id trouble.join operation { scene with troubles := troubles }

/-! ### Scripted handlers -/

/-- The version of an entity after an effect. -/
def versionJson (entity : Entity S P) : Json := .int entity.version

/-- Writes an entity with a change; an entity that is not there stays so. -/
def writeChanged (id : String) (change : Entity S P → Entity S P) : StateM (Scene S P) Json := do
  match ← sound (.find id) with
  | .error error => return Wire.ofStoreError error
  | .ok none => return .null
  | .ok (some entity) =>
    return Wire.ofStoreAnswer versionJson (← sound (.update (change entity)))

/-- A change behind the engines' back, on the entity with an id. -/
def runEffect (id : String) (effect : Effect S P) : StateM (Scene S P) Json := do
  let now := (← get).clock.now
  match effect with
  | .requestCancel terminal =>
    return Wire.ofStoreAnswer .bool (← sound (.requestCancel id terminal))
  | .cancelIfFree cancelled terminal =>
    return Wire.ofStoreAnswer .bool (← sound (.cancelIfFree id cancelled terminal now))
  | .release holder => return Wire.ofStoreAnswer .bool (← sound (.release id holder))
  | .renew holder duration =>
    return Wire.ofStoreAnswer versionJson (← sound (.renew id holder duration now))
  | .lease holder duration =>
    return Wire.ofStoreAnswer versionJson (← sound (.lease id holder duration now))
  | .advance duration =>
    modify fun scene => { scene with clock := scene.clock.advance duration }
    return Wire.ofInstant (← get).clock.now
  | .write change => writeChanged id change

/-- A call of a scripted handler on paper, with what its effects gave back. -/
def callJson (entity : Entity S P) (effects : List Json) : Json :=
  .array [.string entity.id, Wire.ofState entity.state, .nat entity.stateCount,
    .int entity.version,
    .ofOption (entity.lease.map fun lease => Wire.ofInstant lease.expiry), .array effects]

/-- The next line in the script of a handler. -/
def nextLine? (handler : Nat) : StateM (Scene S P) (Option (Line S P)) := do
  let scene ← get
  match scene.scripts[handler]? with
  | none => return none
  | some script =>
    let (line, script) := script.next
    set { scene with scripts := scene.scripts.set handler script }
    return some line

/-- What the surroundings give back to a scripted handler, and after how many milliseconds. -/
def answerCue : (cue : Cue S P) → StateM (Scene S P) (Nat × cue.Response)
  | .enter handler entity => do
    match ← nextLine? handler with
    | none => return (0, .failed "no script")
    | some line =>
      let effects ← line.effects.mapM (runEffect entity.id)
      modify fun scene => { scene with
        calls := callJson entity effects :: scene.calls
        inFlight := scene.inFlight + 1
        peak := max scene.peak (scene.inFlight + 1) }
      return (line.millis, line.reply entity)
  | .leave => do
    modify fun scene => { scene with inFlight := scene.inFlight - 1 }
    return (0, ())

/-! ### Partners -/

/-- What partners respond, and after how many milliseconds. -/
def answerCall (call : Call) : StateM (Scene S P) (Nat × Response call) := fun scene =>
  let (response, partners) := (Partners.respond call).run { scene.partners with calls := [] }
  (response, { scene with
    partners := partners
    calls := partners.calls.map CallRecord.toJson ++ scene.calls })

/-! ### Surroundings -/

/-- The scene as surroundings of engines. Its clock does not move by itself. -/
def world {C : Type} {R : C → Type} (call : (c : C) → StateM (Scene S P) (Nat × R c)) :
    World (Scene S P) C R where
  now scene := scene.clock.now
  tick _ := pure ()
  log entry := modify fun scene => { scene with log := entry :: scene.log }
  emit transition := modify fun scene => { scene with events := transition :: scene.events }
  call := call

/-- The scene at the beginning of a step. -/
def cleared (scene : Scene S P) : Scene S P :=
  { scene with calls := [], events := [], inFlight := 0, peak := 0 }

end Scene

end Leasehold.Rehearsal
