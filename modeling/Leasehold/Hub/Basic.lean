/-
**Hubs.**

A hub runs the three credential processes: an engine for each, one pool of permits for all, and a
supervisor.

* `Hub.assemble`: a hub from its parts, or the first fault of the parts.
-/

import Leasehold.Credential.Issuance
import Leasehold.Credential.StatusList
import Leasehold.Engine.Lane
import Leasehold.Hub.Config
import Leasehold.Service
import Leasehold.Supervisor

namespace Leasehold

open Credential

/-- The engine of a credential process. -/
abbrev CredentialEngine (σ S P : Type) : Type := Engine σ S P Call Response

/-- The stores of the three processes. -/
structure HubStores (σ : Type) where
  issuance : Backend σ Issuance.State Issuance.Submission
  holder : Backend σ HolderRequest.State HolderRequest.Request
  statusList : Backend σ StatusList.State StatusList.Publication

/-- What a hub is put together from. -/
structure HubParts (σ : Type) where
  stores : Option (HubStores σ)
  /-- Whether the partners of the issuance processes are there. -/
  hasIssuancePartners : Bool := true
  /-- Whether the partners of the credential requests are there. -/
  hasHolderPartners : Bool := true
  /-- Whether the partners of the publications are there. -/
  hasStatusListPartners : Bool := true
  config : HubConfig := {}
  /-- The name of the instance, if the settings give none. -/
  freshId : String
  /-- What the clock of the machine showed at the start of the run, in nanoseconds. -/
  uptime : Nat := 0

/-- Why a hub cannot be put together. -/
inductive HubError where
  | missing (parts : String)
  | engine (error : AssemblyError)
  | supervisor (error : SupervisorError)
deriving DecidableEq, Repr

namespace HubError

/-- The text of an error. -/
def message : HubError → String
  | .missing parts => s!"{parts} are required"
  | .engine error => error.message
  | .supervisor error => error.message

end HubError

/-- The three engines with what they share. -/
structure Hub (σ : Type) where
  instanceId : String
  issuance : CredentialEngine σ Issuance.State Issuance.Submission
  holder : CredentialEngine σ HolderRequest.State HolderRequest.Request
  statusList : CredentialEngine σ StatusList.State StatusList.Publication
  permits : Permits
  supervisor : Supervisor

namespace Engine

variable {σ S P Call : Type} {Response : Call → Type}

/-- The trigger service on the store of an engine. -/
def service (engine : Engine σ S P Call Response) : Service σ S P Call Response :=
  ⟨engine.store, engine.registry⟩

end Engine

namespace Hub

variable {σ : Type}

/-- The stores among the parts, if nothing is missing. -/
def requireParts (parts : HubParts σ) : Except HubError (HubStores σ) :=
  match parts.stores with
  | none => .error (.missing "stores")
  | some stores =>
    if !parts.hasIssuancePartners then .error (.missing "issuance collaborators")
    else if !parts.hasHolderPartners then .error (.missing "holder collaborators")
    else if !parts.hasStatusListPartners then .error (.missing "status list collaborators")
    else .ok stores

/-- A hub from its parts. -/
def assemble (parts : HubParts σ) : Except HubError (Hub σ) := do
  let stores ← requireParts parts
  let config := parts.config
  let instanceId := config.instanceId.getD parts.freshId
  let issuance ←
    (Engine.assemble (some stores.issuance) (some Issuance.registry) config.issuance
      instanceId).mapError .engine
  let holder ←
    (Engine.assemble (some stores.holder) (some (HolderRequest.registry config.holderStatusTimeout))
      config.holderRequest instanceId).mapError .engine
  let statusList ←
    (Engine.assemble (some stores.statusList) (some StatusList.registry) config.statusList
      instanceId).mapError .engine
  let supervisor ←
    (Supervisor.assemble
      [issuance.registry.entityType, holder.registry.entityType, statusList.registry.entityType]
      config.shutdownTimeout).mapError .supervisor
  let permits := .ofSize config.maxConcurrentHandlers
  return ⟨instanceId, issuance, holder, statusList, permits,
    { supervisor with uptime := parts.uptime }⟩

end Hub

end Leasehold
