/-
**Engines.**

An engine drives the entities of one process type through its registry. It works under the name of
a lease holder, on a store that it shares with others.

* `Engine.assemble`: an engine from its parts, if they are there and the settings make sense;
* `Engine.criteria`: the entities that a poll selects.
-/

import Leasehold.Config.Engine
import Leasehold.Registry.Basic
import Leasehold.Store.Operation

namespace Leasehold

/-- The driver of one process type. -/
structure Engine (σ S P Call : Type) (Response : Call → Type) where
  store : Backend σ S P
  registry : Registry S P Call Response
  config : EngineConfig
  /-- The name under which the engine leases. -/
  holder : String
  sound : config.fault? = none

/-- Why an engine cannot be put together. -/
inductive AssemblyError where
  | missing (part : String)
  | config (error : ConfigError)
deriving DecidableEq, Repr

namespace AssemblyError

/-- The text of an error. -/
def message : AssemblyError → String
  | .missing part => s!"{part} is required"
  | .config error => error.message

end AssemblyError

namespace Engine

variable {σ S P Call : Type} {Response : Call → Type}

/-- An engine from its parts. -/
def assemble (store : Option (Backend σ S P)) (registry : Option (Registry S P Call Response))
    (config : EngineConfig) (holder : String) :
    Except AssemblyError (Engine σ S P Call Response) :=
  match store, registry with
  | none, _ => .error (.missing "store")
  | some _, none => .error (.missing "registry")
  | some store, some registry =>
    match check : config.fault? with
    | some reason => .error (.config (.invalid reason))
    | none => .ok ⟨store, registry, config, holder, check⟩

variable [DecidableEq S] [ProcessState S]

/-- The due entities in handled states that nobody works on. -/
def criteria (engine : Engine σ S P Call Response) (now : Instant) : Criteria S :=
  { states := some engine.registry.handledStates
    notLeasedAt := some now
    due := some (engine.config.retry.dueFilter now)
    limit := some engine.config.batchSize }

end Engine

end Leasehold
