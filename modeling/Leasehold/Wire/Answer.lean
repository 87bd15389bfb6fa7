/-
**Answers.**

* `Wire.ofStoreError`, `Wire.ofServiceError`, `Wire.ofRegistryError`, `Wire.ofConfigError`,
  `Wire.ofAssemblyError`, `Wire.ofHubError`, `Wire.ofSupervisorError`: errors, each with its kind
  and its text;
* `Wire.ofReport`, `Wire.ofShutdownReport`, `Wire.ofTransition`: what engines did;
* `Wire.ofLogEntry`: log entries.
-/

import Leasehold.Hub.Basic
import Leasehold.Hub.Database
import Leasehold.Wire.Value

namespace Leasehold.Wire

/-! ### Errors -/

/-- An error with its kind and its text. -/
def ofError (kind message : String) : Json :=
  .object [("error", .string kind), ("message", .string message)]

/-- A value, or an error in its place. -/
def ofExcept {ε α : Type} (error : ε → Json) (write : α → Json) : Except ε α → Json
  | .ok value => write value
  | .error fault => error fault

/-- A store error. What a database says about itself is not passed on. -/
def ofStoreError (error : StoreError) : Json :=
  let message : List (String × Json) := match error with
    | .database _ | .serialization _ => []
    | error => [("message", .string error.message)]
  .object ([("error", .string error.code), ("conflict", .bool error.isConflict)] ++ message)

/-- A store's answer, written on success. -/
def ofStoreAnswer {α : Type} (write : α → Json) : Except StoreError α → Json :=
  ofExcept ofStoreError write

/-- A service error. -/
def ofServiceError : ServiceError → Json
  | .store error => ofStoreError error
  | .notFound id => ofError "NotFound" (ServiceError.notFound id).message
  | .alreadyTerminal id state =>
    ofError "AlreadyTerminal" (ServiceError.alreadyTerminal id state).message

/-- A service's answer, written on success. -/
def ofServiceAnswer {α : Type} (write : α → Json) : Except ServiceError α → Json :=
  ofExcept ofServiceError write

/-- The kind of a registry error. -/
def registryErrorKind : RegistryError → String
  | .missingState .. => "MissingState"
  | .handlerOnTerminalState .. => "HandlerOnTerminalState"
  | .duplicateHandler .. => "DuplicateHandler"
  | .illegalDeclaredTransition .. => "IllegalDeclaredTransition"
  | .transitionFromTerminal .. => "TransitionFromTerminal"

/-- A registry error. -/
def ofRegistryError (error : RegistryError) : Json :=
  ofError (registryErrorKind error) error.message

/-- An error in settings. -/
def ofConfigError : ConfigError → Json
  | .invalidValue name value => ofError "InvalidValue" (ConfigError.invalidValue name value).message
  | .invalid reason => ofError "Invalid" (ConfigError.invalid reason).message

/-- An engine that cannot be put together. -/
def ofAssemblyError : AssemblyError → Json
  | .missing part => ofError "Build" (AssemblyError.missing part).message
  | .config error => ofConfigError error

/-- Engines that cannot be supervised. -/
def ofSupervisorError : SupervisorError → Json
  | .noEngines => ofError "NoEngines" SupervisorError.noEngines.message
  | .duplicateEngine name =>
    ofError "DuplicateEngine" (SupervisorError.duplicateEngine name).message

/-- A hub that cannot be put together. -/
def ofHubError : HubError → Json
  | .missing parts => ofError "Build" (HubError.missing parts).message
  | .engine error => ofAssemblyError error
  | .supervisor error => ofSupervisorError error

/-- A database that cannot be used. -/
def ofConnectError (error : Database.ConnectError) : Json := ofError "Connect" error.message

/-! ### Results -/

/-- The report of a poll cycle. -/
def ofReport (report : CycleReport) : Json :=
  .object [("selected", .nat report.selected), ("leased", .nat report.leased),
    ("lease_conflicts", .nat report.leaseConflicts), ("succeeded", .nat report.succeeded),
    ("retried", .nat report.retried), ("failed", .nat report.failed),
    ("cancelled", .nat report.cancelled), ("abandoned", .nat report.abandoned)]

/-- The report of a shutdown, unless it crashed. -/
def ofShutdownReport : Except String ShutdownReport → Json
  | .error _ => .object [("panic", .bool true)]
  | .ok report =>
    .object [("stopped", .ofTexts report.stopped), ("aborted", .ofTexts report.aborted),
      ("panicked", .ofTexts report.panicked), ("clean", .bool report.isClean)]

/-- A transition. -/
def ofTransition (transition : Transition) : Json := .object transition.members

/-- The value of a field of a log entry. -/
def ofLogValue : Log.Value → Json
  | .text value => .string value
  | .count value => .int value

/-- A log entry with its fields. -/
def ofLogEntry (entry : Log.Entry) : Json :=
  .object [("level", .string entry.level.name), ("message", .string entry.message),
    ("fields", .object (entry.fields.map fun part => (part.1, ofLogValue part.2)))]

/-- The level and the message of a log entry. -/
def ofLogLine (entry : Log.Entry) : Json :=
  .array [.string entry.level.name, .string entry.message]

end Leasehold.Wire
