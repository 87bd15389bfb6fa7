/-
**Settings of a hub.**

* `HubConfig`: the settings, with defaults;
* `HubConfig.ofVariables`: the settings in the variables of the hub.
-/

import Leasehold.Config.Engine
import Leasehold.Credential.HolderRequest

namespace Leasehold

/-- The settings of a hub with its three engines. -/
structure HubConfig where
  /-- Where entities are kept; without it they are kept in memory. -/
  databaseUrl : Option String := none
  /-- The name under which the engines lease; without it the hub gets a new one. -/
  instanceId : Option String := none
  /-- How long a shutdown waits for the engines. -/
  shutdownTimeout : Duration := Duration.ofSeconds 30
  /-- Handlers of all engines at work at the same time. -/
  maxConcurrentHandlers : Nat := 8
  /-- How long a credential request waits for its issuer. -/
  holderStatusTimeout : Duration := Credential.HolderRequest.defaultStatusTimeout
  issuance : EngineConfig := {}
  holderRequest : EngineConfig :=
    { retry := { maxRetries := Credential.HolderRequest.defaultMaxRetries } }
  statusList : EngineConfig := {}
deriving DecidableEq, Repr

namespace HubConfig

/-- The scope of the variables of a hub. -/
def scope : String := "TRUSTHUB"

/-- The database that the variables name; a blank name is none. -/
def readDatabaseUrl (environment : Variables) : Option String :=
  (environment (scope ++ "_DATABASE_URL")).filter fun url => !(Text.trimBlanks url).isEmpty

/-- The settings in the variables of the hub. -/
def ofVariables (environment : Variables) : Except ConfigError HubConfig := do
  let defaults : HubConfig := {}
  let databaseUrl := readDatabaseUrl environment
  let instanceId ← readVariable environment scope "INSTANCE_ID" some
  let shutdownTimeout ←
    readSeconds environment scope "SHUTDOWN_TIMEOUT_SECS" defaults.shutdownTimeout
  let maxConcurrentHandlers ←
    readCount environment scope "MAX_CONCURRENT_HANDLERS" UInt64.size defaults.maxConcurrentHandlers
  let holderStatusTimeout ←
    readSeconds environment scope "HOLDER_STATUS_TIMEOUT_SECS" defaults.holderStatusTimeout
  let issuance ← EngineConfig.ofVariables environment (scope ++ "_ISSUANCE") defaults.issuance
  let holderRequest ←
    EngineConfig.ofVariables environment (scope ++ "_HOLDER_REQUEST") defaults.holderRequest
  let statusList ←
    EngineConfig.ofVariables environment (scope ++ "_STATUS_LIST") defaults.statusList
  if maxConcurrentHandlers = 0 then
    throw (.invalid "max_concurrent_handlers must be greater than zero")
  return ⟨databaseUrl, instanceId, shutdownTimeout, maxConcurrentHandlers, holderStatusTimeout,
    issuance, holderRequest, statusList⟩

end HubConfig

end Leasehold
