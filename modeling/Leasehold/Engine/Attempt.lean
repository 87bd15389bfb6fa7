/-
**Attempts.**

An attempt is the work of one engine on one selected entity: lease it, run the handler of its
state, and write the outcome in the place of the lease. Others may work on the same store, so an
attempt is cut into steps, and each step makes one store operation at most.

* `Attempt`: where an attempt stands;
* `Engine.judge`: the outcome that a verdict of the handler asks for;
* `Engine.step`: one step;
* `Engine.advance`: the steps up to the end, or to a call of the handler that takes time.
-/

import Leasehold.Engine.Basic
import Leasehold.Engine.Report

namespace Leasehold

/-- Where the work on one selected entity stands. -/
inductive Attempt (S P Call : Type) (Response : Call → Type) where
  /-- The entity was selected. -/
  | selected (candidate : Entity S P)
  /-- The entity is leased, and its handler has work to do. -/
  | working (leased : Entity S P) (work : Work Call Response (Reply S P))
  /-- The handler waits for a response. -/
  | waiting (millis : Nat) (leased : Entity S P) (work : Work Call Response (Reply S P))
  /-- The handler succeeded at an instant, and nobody may have asked for a cancellation. -/
  | confirming (leased : Entity S P) (next : S) (payload : P) (now : Instant)
  /-- An outcome is to be written. -/
  | persisting (leased result : Entity S P) (outcome : Outcome)
  /-- The lease is to be given up without an outcome. -/
  | releasing (leased : Entity S P)
  | ended (ending : Ending)

namespace Attempt

variable {S P Call : Type} {Response : Call → Type}

/-- How many steps an attempt can still take without waiting. -/
def stepsLeft : Attempt S P Call Response → Nat
  | .selected _ => 5
  | .working .. => 4
  | .confirming .. => 3
  | .persisting .. => 2
  | .releasing _ => 1
  | .waiting .. => 0
  | .ended _ => 0

/-- The attempt after its wait. -/
def resume : Attempt S P Call Response → Attempt S P Call Response
  | .waiting _ leased work => .working leased work
  | attempt => attempt

end Attempt

namespace Engine

variable {σ S P Call : Type} {Response : Call → Type} [DecidableEq S] [ProcessState S]

/-! ### Outcomes -/

/-- The outcome that a verdict asks for; an undeclared next state fails the entity. -/
def judge (engine : Engine σ S P Call Response) (leased : Entity S P) (now : Instant) :
    Verdict S P → Attempt S P Call Response
  | .success next payload =>
    if engine.registry.allows leased.state next then .confirming leased next payload now
    else
      let reason := s!"illegal transition from {label leased.state} to {label next}"
      .persisting leased (leased.fail engine.registry.failed reason now) .fatal
  | .retry reason =>
    let tried := leased.recordRetry reason now
    if engine.config.retry.isExhausted tried then
      let reason := s!"retries exhausted after {tried.stateCount} attempts: {reason}"
      .persisting leased (tried.fail engine.registry.failed reason now) .exhausted
    else .persisting leased tried .retry
  | .fatal reason => .persisting leased (leased.fail engine.registry.failed reason now) .fatal

/-- What a verdict gives reason to log. -/
def remark (engine : Engine σ S P Call Response) (leased : Entity S P) :
    Verdict S P → Option Log.Entry
  | .success next _ =>
    if engine.registry.allows leased.state next then none
    else some ⟨.error, "Handler returned an undeclared next state",
      [("to_state", .text (label next))]⟩
  | _ => none

/-- The outcome of a success, after a look at the request to cancel. -/
def confirm (engine : Engine σ S P Call Response) (leased : Entity S P) (next : S) (payload : P)
    (now : Instant) (cancelRequested : Bool) : Attempt S P Call Response :=
  if cancelRequested then
    .persisting leased (leased.transitionTo engine.registry.cancelled now) .cancelled
  else .persisting leased ({ leased with payload := payload }.transitionTo next now) .success

/-- The transition that a written outcome is reported as. -/
def transition (engine : Engine σ S P Call Response) (leased saved : Entity S P)
    (outcome : Outcome) : Transition where
  entityId := saved.id
  entityType := engine.registry.entityType
  fromState := label leased.state
  toState := label saved.state
  outcome := outcome
  stateCount := saved.stateCount
  errorDetail := saved.errorDetail

/-! ### Steps -/

variable (engine : Engine σ S P Call Response) (world : World σ Call Response)

/-- What follows on a lease: an entity that was changed since its selection is let go. -/
def afterLease (candidate leased : Entity S P) : StateM σ (Attempt S P Call Response) := do
  if leased.version ≠ candidate.version + 1 then
    world.log ⟨.debug, "Entity changed since selection, releasing",
      [("expected_version", .count (candidate.version + 1)), ("version", .count leased.version)]⟩
    return .releasing leased
  else if leased.cancelRequested then
    let now := world.now (← get)
    return .persisting leased (leased.transitionTo engine.registry.cancelled now) .cancelled
  else
    match engine.registry.handler? leased.state with
    | some handler => return .working leased (handler leased)
    | none =>
      world.log ⟨.error, "No handler registered for selected state", []⟩
      return .releasing leased

/-- Leases the selected entity. -/
def claim (candidate : Entity S P) : StateM σ (Attempt S P Call Response) := do
  let now := world.now (← get)
  match ← engine.store (.lease candidate.id engine.holder engine.config.leaseDuration now) with
  | .ok leased => engine.afterLease world candidate leased
  | .error error =>
    if error.isConflict then
      world.log ⟨.debug, "Entity leased by another worker, skipping", []⟩
      return .ended .leaseConflict
    else
      world.log ⟨.warn, "Failed to lease entity",
        [("error", .text error.message), ("code", .text error.code)]⟩
      return .ended .leaseFailed

/-- Lets the handler work. -/
def work (leased : Entity S P) (rest : Work Call Response (Reply S P)) :
    StateM σ (Attempt S P Call Response) := do
  match ← rest.drive world with
  | .waiting millis rest => return .waiting millis leased rest
  | .finished reply =>
    match engine.remark leased reply.verdict with
    | some entry => world.log entry
    | none => pure ()
    return engine.judge leased (world.now (← get)) reply.verdict

/-- Looks whether a cancellation was asked for; an entity that cannot be read counts as not. -/
def isCancelRequested (id : String) : StateM σ Bool := do
  match ← engine.store (.find id) with
  | .ok found => return found.any (·.cancelRequested)
  | .error error =>
    world.log ⟨.warn, "Failed to re-read cancellation flag", [("error", .text error.message)]⟩
    return false

/-- Writes an outcome in the place of the lease. -/
def persist (leased result : Entity S P) (outcome : Outcome) :
    StateM σ (Attempt S P Call Response) := do
  match ← engine.store (.update { result with lease := none }) with
  | .ok saved =>
    world.emit (engine.transition leased saved outcome)
    return .ended (.persisted outcome)
  | .error error =>
    if error.isConflict then
      world.log ⟨.warn, "Entity modified concurrently, abandoning",
        [("error", .text error.message)]⟩
      return .ended .abandoned
    else
      world.log ⟨.error, "Failed to persist outcome",
        [("error", .text error.message), ("code", .text error.code)]⟩
      return .releasing leased

/-- Gives the lease up. -/
def release (leased : Entity S P) : StateM σ (Attempt S P Call Response) := do
  match ← engine.store (.release leased.id engine.holder) with
  | .ok _ => pure ()
  | .error error =>
    world.log ⟨.debug, "Failed to release lease; it will expire",
      [("error", .text error.message)]⟩
  return .ended .abandoned

/-- One step of an attempt. -/
def step : Attempt S P Call Response → StateM σ (Attempt S P Call Response)
  | .selected candidate => engine.claim world candidate
  | .working leased rest => engine.work world leased rest
  | .waiting _ leased rest => return .working leased rest
  | .confirming leased next payload now => do
    return engine.confirm leased next payload now (← engine.isCancelRequested world leased.id)
  | .persisting leased result outcome => engine.persist world leased result outcome
  | .releasing leased => engine.release world leased
  | .ended ending => return .ended ending

/-- Some steps of an attempt, up to its next wait. -/
def steps : Nat → Attempt S P Call Response → StateM σ (Attempt S P Call Response)
  | 0, attempt => return attempt
  | count + 1, attempt => do
    match attempt with
    | .waiting .. | .ended _ => return attempt
    | attempt => steps count (← engine.step world attempt)

/-- The steps of an attempt up to its end or its next wait. -/
def advance (attempt : Attempt S P Call Response) : StateM σ (Attempt S P Call Response) :=
  engine.steps world attempt.stepsLeft attempt

end Engine

end Leasehold
