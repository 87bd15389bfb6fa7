/-
**Times and settings in requests and answers.**

An instant is a number of milliseconds, or an object with seconds and nanoseconds where it is not
whole milliseconds. A duration is read in both forms and written in the second.

* `Wire.instant`, `Wire.ofInstant`: instants;
* `Wire.duration`, `Wire.ofDuration`, `Wire.timer`: durations;
* `Wire.policy`, `Wire.ofPolicy`, `Wire.engineConfig`, `Wire.ofEngineConfig`,
  `Wire.hubConfig`, `Wire.ofHubConfig`: settings;
* `Wire.environment`: the variables that settings are read from.
-/

import Leasehold.Hub.Config
import Leasehold.Wire.Reader

namespace Leasehold.Wire

/-! ### Times -/

/-- An instant. -/
def instant (json : Json) : Read Instant :=
  match json with
  | .number (.whole millis) => orRefuse (Instant.ofMillis? millis)
  | .object _ => do
    let seconds ← field json "s" int64
    let nanos ← field json "n" (natBelow nanosPerSecond)
    orRefuse (Instant.ofNanos? (seconds * nanosPerSecond + nanos))
  | _ => refuse

/-- An instant, in milliseconds if they say it exactly. -/
def ofInstant (instant : Instant) : Json :=
  if instant.nanos % 1000000 = 0 then .int instant.millis
  else .object [("s", .int (instant.nanos / 1000000000)),
    ("n", .int (instant.nanos % 1000000000))]

/-- A duration. -/
def duration (json : Json) : Read Duration :=
  match json with
  | .number _ => return Duration.ofMillis (.ofNat (← word json))
  | .object _ => do
    let seconds ← field json "s" word
    let nanos ← field json "n" (natBelow nanosPerSecond)
    orRefuse (Duration.ofNanos? (seconds * nanosPerSecond + nanos))
  | _ => refuse

/-- The milliseconds of a timer for a duration. -/
def timer (json : Json) : Read Nat := Duration.timerMillis <$> duration json

/-- A duration in seconds and nanoseconds. -/
def ofDuration (duration : Duration) : Json :=
  .object [("s", .nat duration.wholeSeconds), ("n", .nat duration.subsecNanos)]

/-! ### Settings -/

/-- A retry policy; what is not given has its default. -/
def policy (json : Json) : Read RetryPolicy := do
  let _ ← members json
  let defaults : RetryPolicy := {}
  let maxRetries ← fieldOr json "max_retries" defaults.maxRetries halfWord
  let baseDelay ← fieldOr json "base_delay" defaults.baseDelay duration
  let maxDelay ← fieldOr json "max_delay" defaults.maxDelay duration
  return ⟨maxRetries, baseDelay, maxDelay⟩

/-- A retry policy as an object. -/
def ofPolicy (policy : RetryPolicy) : Json :=
  .object [("max_retries", .nat policy.maxRetries), ("base_delay", ofDuration policy.baseDelay),
    ("max_delay", ofDuration policy.maxDelay)]

/-- Settings of an engine; what is not given has its default. -/
def engineConfig (defaults : EngineConfig) (json : Json) : Read EngineConfig := do
  let _ ← members json
  let batchSize ← fieldOr json "batch_size" defaults.batchSize word
  let pollInterval ← fieldOr json "poll_interval" defaults.pollInterval duration
  let leaseDuration ← fieldOr json "lease_duration" defaults.leaseDuration duration
  let retry ← fieldOr json "retry" defaults.retry policy
  let concurrency ← fieldOr json "concurrency" defaults.concurrency word
  return ⟨batchSize, pollInterval, leaseDuration, retry, concurrency⟩

/-- Settings of an engine as an object. -/
def ofEngineConfig (config : EngineConfig) : Json :=
  .object [("batch_size", .nat config.batchSize),
    ("poll_interval", ofDuration config.pollInterval),
    ("lease_duration", ofDuration config.leaseDuration), ("retry", ofPolicy config.retry),
    ("concurrency", .nat config.concurrency)]

/-- Settings of a hub; what is not given has its default. -/
def hubConfig (json : Json) : Read HubConfig := do
  let _ ← members json
  let defaults : HubConfig := {}
  let instanceId ← field? json "instance_id" text
  let shutdownTimeout ← fieldOr json "shutdown_timeout" defaults.shutdownTimeout duration
  let maxHandlers ← fieldOr json "max_concurrent_handlers" defaults.maxConcurrentHandlers word
  let statusTimeout ← fieldOr json "holder_status_timeout" defaults.holderStatusTimeout duration
  let issuance ← fieldOr json "issuance" defaults.issuance (engineConfig defaults.issuance)
  let holderRequest ←
    fieldOr json "holder_request" defaults.holderRequest (engineConfig defaults.holderRequest)
  let statusList ← fieldOr json "status_list" defaults.statusList (engineConfig defaults.statusList)
  return ⟨none, instanceId, shutdownTimeout, maxHandlers, statusTimeout, issuance, holderRequest,
    statusList⟩

/-- A name that is made up where none is given. -/
def ofName : Option String → Json
  | some name => .string name
  | none => .object [("uuid", .bool true)]

/-- Settings of a hub as an object. -/
def ofHubConfig (config : HubConfig) : Json :=
  .object [
    ("database_url", .ofOption (config.databaseUrl.map .string)),
    ("instance_id", ofName config.instanceId),
    ("shutdown_timeout", ofDuration config.shutdownTimeout),
    ("max_concurrent_handlers", .nat config.maxConcurrentHandlers),
    ("holder_status_timeout", ofDuration config.holderStatusTimeout),
    ("issuance", ofEngineConfig config.issuance),
    ("holder_request", ofEngineConfig config.holderRequest),
    ("status_list", ofEngineConfig config.statusList)]

/-- Whether a variable can have this name and value. -/
def isVariable (entry : String × String) : Bool :=
  !entry.1.isEmpty && !entry.1.contains '=' && !entry.1.contains '\x00' && !entry.2.contains '\x00'

/-- Variables with their values. -/
def environment (json : Json) : Read Variables := do
  let entries ← textMap json
  if entries.entries.all isVariable then return entries.get? else refuse

end Leasehold.Wire
