/-
**A fleet of engines over one store in memory.**

Any number of engines work on one store, and callers outside the fleet work on it too. The store
runs one operation at a time; in between everybody may move, in any order. A schedule is a list of
actions, so a statement about all schedules is a statement about all such lists.

* `Site`: the store, its surroundings, and a record of the operations carried out;
* `Fleet`: the engines by their names, each with the services and the clock around it;
* `Fleet.State`: the site, and the attempts of the last poll of every engine;
* `Fleet.Action`, `Fleet.step`: one action. An engine polls only when its last batch is over, and
  stops only then; the attempts of a batch go on in any order, one step at a time;
* `Fleet.run`: a schedule.

The steps are `Engine.select`, `Engine.step` and `Engine.stop`. The surroundings may change between
any two of them, so nothing is assumed of clocks, services and handlers.
-/

import Leasehold.Engine.Lane
import Leasehold.Proofs.Store.Version
import Mathlib.Logic.Function.Basic

set_option linter.unusedSectionVars false

namespace Leasehold

/-- An operation that was carried out, for a member of the fleet or for a caller outside. -/
structure Deed (ι S P : Type) where
  actor : Option ι
  operation : Operation S P

/-- A store in memory, what surrounds it, and what happened there. -/
structure Site (ι ε S P : Type) where
  memory : Memory S P
  surroundings : ε
  /-- The operations carried out, the first first. -/
  deeds : List (Deed ι S P)
  /-- The transitions reported, the first first. -/
  transitions : List Transition

variable {ι ε S P Call : Type} {Response : Call → Type}

/-- The operations of some deeds. -/
abbrev operations (deeds : List (Deed ι S P)) : List (Operation S P) := deeds.map (·.operation)

/-- What is around an engine does not reach the store: calls, log entries and time change the
surroundings alone. A transition that is reported is recorded too. -/
def World.onSite (world : World ε Call Response) : World (Site ι ε S P) Call Response where
  now site := world.now site.surroundings
  tick millis site := ((), { site with surroundings := (world.tick millis site.surroundings).2 })
  log entry site := ((), { site with surroundings := (world.log entry site.surroundings).2 })
  emit transition site := ((), { site with
    surroundings := (world.emit transition site.surroundings).2
    transitions := site.transitions ++ [transition] })
  call request site :=
    let (response, surroundings) := world.call request site.surroundings
    (response, { site with surroundings := surroundings })

/-- One engine of a fleet. -/
structure Member (ε S P Call : Type) (Response : Call → Type) where
  registry : Registry S P Call Response
  config : EngineConfig
  /-- The name under which the engine leases. -/
  holder : String
  sound : config.fault? = none
  world : World ε Call Response
  /-- How the surroundings change while the store carries out an operation of the engine. -/
  elapse : ε → ε

/-- Engines by their names. -/
abbrev Fleet (ι ε S P Call : Type) (Response : Call → Type) : Type :=
  ι → Member ε S P Call Response

namespace Attempt

/-- Whether the attempt has ended. -/
def isOver : Attempt S P Call Response → Bool
  | .ended _ => true
  | _ => false

end Attempt

variable [DecidableEq S]

namespace Site

/-- The store of a site, for one caller: it records what it carries out. -/
def perform (actor : Option ι) (elapse : ε → ε) : Backend (Site ι ε S P) S P :=
  fun operation site =>
    (site.memory.answer operation,
      { site with
        memory := site.memory.after operation
        surroundings := elapse site.surroundings
        deeds := site.deeds ++ [⟨actor, operation⟩] })

end Site

namespace Member

/-- The engine of a member, on the store of its site. -/
def engine (member : Member ε S P Call Response) (name : ι) :
    Engine (Site ι ε S P) S P Call Response where
  store := Site.perform (some name) member.elapse
  registry := member.registry
  config := member.config
  holder := member.holder
  sound := member.sound

end Member

namespace Fleet

/-- A site, and the attempts of the last poll of every member. -/
structure State (ι ε S P Call : Type) (Response : Call → Type) where
  site : Site ι ε S P
  batches : ι → List (Attempt S P Call Response)

/-- A fleet before its first action. -/
def State.start (memory : Memory S P) (surroundings : ε) : State ι ε S P Call Response :=
  ⟨⟨memory, surroundings, [], []⟩, fun _ => []⟩

/-- What may happen next. -/
inductive Action (ι ε S P : Type) where
  /-- Time passes, clocks are set, services change. -/
  | pass (surroundings : ε)
  /-- A caller outside the fleet, or a handler, uses the store. -/
  | call (operation : Operation S P)
  /-- A member whose last batch is over selects the next one. -/
  | poll (name : ι)
  /-- An attempt of a member makes one step. -/
  | proceed (name : ι) (number : Nat)
  /-- A member whose last batch is over gives up its leases. -/
  | stop (name : ι)

variable [ProcessState S] [DecidableEq ι]

/-- One action; one that is not possible changes nothing. -/
def step (fleet : Fleet ι ε S P Call Response) (state : State ι ε S P Call Response) :
    Action ι ε S P → State ι ε S P Call Response
  | .pass surroundings => { state with site := { state.site with surroundings := surroundings } }
  | .call operation => { state with site := (Site.perform none id operation state.site).2 }
  | .poll name =>
    if (state.batches name).all (·.isOver) then
      let member := fleet name
      match (member.engine name).select member.world.onSite state.site with
      | (.ok selection, site) =>
        ⟨site, Function.update state.batches name (selection.map .selected)⟩
      | (.error _, site) => ⟨site, state.batches⟩
    else state
  | .proceed name number =>
    match (state.batches name)[number]? with
    | some attempt =>
      let member := fleet name
      let (attempt, site) := (member.engine name).step member.world.onSite attempt state.site
      ⟨site, Function.update state.batches name ((state.batches name).set number attempt)⟩
    | none => state
  | .stop name =>
    if (state.batches name).all (·.isOver) then
      let member := fleet name
      { state with site := ((member.engine name).stop member.world.onSite 0 state.site).2 }
    else state

/-- A schedule of actions. -/
def run (fleet : Fleet ι ε S P Call Response) (state : State ι ε S P Call Response)
    (actions : List (Action ι ε S P)) : State ι ε S P Call Response :=
  actions.foldl fleet.step state

end Fleet

end Leasehold
