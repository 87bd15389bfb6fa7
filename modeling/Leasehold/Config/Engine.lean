/-
**Engine settings.**

* `EngineConfig.validate`: settings that an engine cannot run with are refused;
* `EngineConfig.ofVariables`: settings from the variables of one scope, with defaults.
-/

import Leasehold.Config.Variables
import Leasehold.Entity.Retry

namespace Leasehold

/-- The settings of one engine. -/
structure EngineConfig where
  /-- Entities selected in one poll at most. -/
  batchSize : Nat := 5
  /-- The pause between two polls. -/
  pollInterval : Duration := Duration.ofSeconds 1
  /-- How long a lease protects an entity. -/
  leaseDuration : Duration := Duration.ofSeconds 60
  retry : RetryPolicy := {}
  /-- Entities of one batch in work at the same time. -/
  concurrency : Nat := 1
deriving DecidableEq, Repr

namespace EngineConfig

/-- The reason why an engine cannot run with the settings, if there is one. -/
def fault? (config : EngineConfig) : Option String :=
  if config.batchSize = 0 then some "batch_size must be greater than zero"
  else if config.concurrency = 0 then some "concurrency must be greater than zero"
  else if config.leaseDuration.isZero then some "lease_duration must be greater than zero"
  else if config.retry.maxDelay < config.retry.baseDelay then
    some "max_delay must not be smaller than base_delay"
  else none

/-- Refuses settings that an engine cannot run with. -/
def validate (config : EngineConfig) : Except ConfigError Unit :=
  match config.fault? with
  | some reason => .error (.invalid reason)
  | none => .ok ()

/-- The settings in the variables of a scope, with defaults for those that are not set. -/
def ofVariables (environment : Variables) (scope : String) (defaults : EngineConfig) :
    Except ConfigError EngineConfig := do
  let batchSize ← readCount environment scope "BATCH_SIZE" UInt64.size defaults.batchSize
  let pollInterval ← readMillis environment scope "POLL_INTERVAL_MS" defaults.pollInterval
  let leaseDuration ← readMillis environment scope "LEASE_DURATION_MS" defaults.leaseDuration
  let maxRetries ← readCount environment scope "MAX_RETRIES" UInt32.size defaults.retry.maxRetries
  let baseDelay ← readMillis environment scope "BASE_DELAY_MS" defaults.retry.baseDelay
  let maxDelay ← readMillis environment scope "MAX_DELAY_MS" defaults.retry.maxDelay
  let concurrency ← readCount environment scope "CONCURRENCY" UInt64.size defaults.concurrency
  let config : EngineConfig :=
    ⟨batchSize, pollInterval, leaseDuration, ⟨maxRetries, baseDelay, maxDelay⟩, concurrency⟩
  config.validate
  return config

end EngineConfig

end Leasehold
