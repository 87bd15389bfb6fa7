/-
**One attempt that nobody disturbs.**

An attempt on a free entity leases it, lets its handler work, and writes what follows from the reply:

* `Settlement`, `Registry.settlement`: what a reply settles of an entity;
* `Entity.settle`: the entity as it is written in the end;
* `Member.claimed`, `Member.settled`: an entity while and after its attempt is made;
* `step_persisting`, `step_confirming`, `step_asked`, `step_selected`: single steps of an attempt,
  of any member or of a steady one;
* `steps_persisting`, `steps_judged`, `advance_working`: the steps of an attempt from its end back to
  the reply of the handler;
* `advance_asked`, `advance_selected`: its beginning.
-/

import Leasehold.Proofs.Poll.Steady

set_option linter.unusedSectionVars false

namespace Leasehold

variable {ι ε X S P Call : Type} {Response : Call → Type} [DecidableEq S] [ProcessState S]

/-! ### What is settled -/

/-- What an attempt settles of its entity. -/
structure Settlement (S P : Type) where
  state : S
  payload : P
  /-- The attempts in this state. -/
  stateCount : Nat
  errorDetail : Option String
  outcome : Outcome

namespace Registry

/-- An entity is tried again, or fails if its attempts are used up. -/
def retried (registry : Registry S P Call Response) (policy : RetryPolicy) (entity : Entity S P)
    (reason : String) : Settlement S P :=
  let attempts := min (entity.stateCount + 1) maxStateCount
  if policy.maxRetries < attempts then
    ⟨registry.failed, entity.payload, 0,
      some s!"retries exhausted after {attempts} attempts: {reason}", .exhausted⟩
  else ⟨entity.state, entity.payload, attempts, some reason, .retry⟩

/-- What a reply settles of an entity. A request to cancel settles it without a reply. -/
def settlement (registry : Registry S P Call Response) (policy : RetryPolicy)
    (entity : Entity S P) (reply : Reply S P) : Settlement S P :=
  if entity.cancelRequested then ⟨registry.cancelled, entity.payload, 0, none, .cancelled⟩
  else
    match reply with
    | .decided (.success next payload) =>
      if registry.allows entity.state next then ⟨next, payload, 0, none, .success⟩
      else
        ⟨registry.failed, entity.payload, 0,
          some s!"illegal transition from {label entity.state} to {label next}", .fatal⟩
    | .decided (.retry reason) | .failed reason => registry.retried policy entity reason
    | .crashed message =>
      registry.retried policy entity
        ("handler panicked: " ++ message.getD "unknown panic payload")
    | .decided (.fatal reason) => ⟨registry.failed, entity.payload, 0, some reason, .fatal⟩

end Registry

namespace Entity

/-- The entity with what was settled at an instant. -/
def resolve (entity : Entity S P) (settlement : Settlement S P) (now : Instant) : Entity S P :=
  { entity with
    state := settlement.state
    payload := settlement.payload
    stateCount := settlement.stateCount
    errorDetail := settlement.errorDetail
    stateTimestamp := now
    updatedAt := now }

/-- The entity as it is written: without a lease, after a conditional write that leased it and one
that settled it. -/
def settle (entity : Entity S P) (settlement : Settlement S P) (now : Instant) : Entity S P :=
  { entity.resolve settlement now with lease := none, version := entity.version + 2 }

end Entity

namespace Member

variable (member : Member ε S P Call Response) (now : Instant) (reply : Entity S P → Reply S P)
  (entity : Entity S P)

/-- An entity as the handler of a member gets it. -/
def claimed : Entity S P :=
  { entity with
    lease := some ⟨member.holder, now.plus member.config.leaseDuration⟩
    version := entity.version + 1 }

/-- What the reply of a handler settles. -/
def settlement : Settlement S P :=
  member.registry.settlement member.config.retry entity (reply (member.claimed now entity))

/-- An entity after an attempt. -/
def settled : Entity S P := entity.settle (member.settlement now reply entity) now

/-- What is reported of an attempt. -/
def transition : Transition :=
  member.registry.report entity (member.settled now reply entity)
    (member.settlement now reply entity).outcome

end Member

/-! ### The steps of an attempt -/

namespace Engine

variable {σ : Type} (engine : Engine σ S P Call Response) (world : World σ Call Response)

theorem steps_ended (count : Nat) (ending : Ending) (state : σ) :
    engine.steps world count (.ended ending) state = (.ended ending, state) := by
  cases count <;> rfl

/-- An attempt that has steps left makes them one by one. -/
theorem steps_succ (count : Nat) {attempt : Attempt S P Call Response}
    (left : attempt.stepsLeft ≠ 0) (state : σ) :
    engine.steps world (count + 1) attempt state =
      engine.steps world count (engine.step world attempt state).1
        (engine.step world attempt state).2 := by
  cases attempt with
  | waiting _ _ _ | ended _ => exact absurd rfl left
  | _ => rfl

/-- An entity that was leased as it was selected is given to its handler. -/
theorem step_selected_of_ok {candidate leased : Entity S P} {state next : σ}
    {handler : Handler S P Call Response}
    (answered : engine.store
      (.lease candidate.id engine.holder engine.config.leaseDuration (world.now state)) state =
        (.ok leased, next))
    (unchanged : leased.version = candidate.version + 1)
    (notAsked : leased.cancelRequested = false)
    (handled : engine.registry.handler? leased.state = some handler) :
    engine.step world (.selected candidate) state = (.working leased (handler leased), next) := by
  show engine.claim world candidate state = _
  rw [claim_of_ok engine world answered]
  unfold afterLease
  rw [if_neg (not_not.mpr unchanged), if_neg (Bool.eq_false_iff.mp notAsked), handled]
  rfl

/-- A handler goes on with the rest of its work. -/
theorem advance_of_drive {leased : Entity S P} {work rest : Work Call Response (Reply S P)}
    {state after : σ} (same : work.drive world state = rest.drive world after) :
    engine.advance world (.working leased work) state =
      engine.advance world (.working leased rest) after := by
  have works : engine.work world leased work state = engine.work world leased rest after := by
    unfold Engine.work
    rw [bind_apply, bind_apply, same]
  show engine.steps world 3 (engine.work world leased work state).1
    (engine.work world leased work state).2 = _
  rw [works]
  rfl

/-- A handler that waits is left to wait. -/
theorem advance_of_waiting {leased : Entity S P} {work rest : Work Call Response (Reply S P)}
    {millis : Nat} {state after : σ}
    (driven : work.drive world state = (.waiting millis rest, after)) :
    engine.advance world (.working leased work) state = (.waiting millis leased rest, after) := by
  show engine.steps world 3 (engine.work world leased work state).1
    (engine.work world leased work state).2 = _
  rw [work_of_waiting engine world driven]
  rfl

end Engine

namespace Member

variable (member : Member ε S P Call Response) (name : ι) (now : Instant) {later : Instant}
  {entity : Entity S P}

/-- A claimed entity is stored as it was claimed. -/
theorem find?_put_claimed {memory : Memory S P} (found : memory.find? entity.id = some entity) :
    (memory.put (member.claimed now entity)).find? entity.id =
      some (member.claimed now entity) := by
  rw [Memory.find?_put, found]
  exact congrArg some (if_pos rfl)

/-- Nothing is left of a claim once it is settled. -/
theorem put_settle (memory : Memory S P) (settlement : Settlement S P) :
    (memory.put (member.claimed now entity)).put (entity.settle settlement later) =
      memory.put (entity.settle settlement later) :=
  Memory.put_put memory rfl

/-- What was settled is written in the place of the claim. -/
theorem run_update_resolve {memory : Memory S P}
    (leased : memory.find? entity.id = some (member.claimed now entity))
    (settlement : Settlement S P) :
    Memory.run (.update { (member.claimed now entity).resolve settlement later with lease := none })
        memory =
      (.ok (entity.settle settlement later), memory.put (entity.settle settlement later)) := by
  have twice : entity.version + 1 + 1 = entity.version + 2 := by omega
  have written : (Operation.update { (member.claimed now entity).resolve settlement later with
      lease := none }).rewrite (member.claimed now entity) = entity.settle settlement later :=
    congrArg (fun version => { entity.settle settlement later with version := version }) twice
  rw [← written]
  exact Memory.run_update_of_found leased rfl

/-- A reason to try again is judged as it settles. -/
theorem judge_retry (later : Instant) (reason : String) :
    let settlement := member.registry.retried member.config.retry entity reason
    (member.engine name).judge (member.claimed now entity) later (.retry reason) =
      .persisting (member.claimed now entity) ((member.claimed now entity).resolve settlement later)
        settlement.outcome := by
  intro settlement
  have settles : settlement = member.registry.retried member.config.retry entity reason := rfl
  unfold Registry.retried at settles
  unfold Engine.judge RetryPolicy.isExhausted
  dsimp only at settles ⊢
  by_cases used : member.config.retry.maxRetries < min (entity.stateCount + 1) maxStateCount
  · rw [if_pos used] at settles
    rw [settles]
    exact if_pos (decide_eq_true used)
  · rw [if_neg used] at settles
    rw [settles]
    exact if_neg fun isUsed => used (of_decide_eq_true isUsed)

/-- **A reply is judged as it settles.** A success waits for a look at the request to cancel. -/
theorem judge_claimed (later : Instant) (notAsked : entity.cancelRequested = false)
    (answer : Reply S P) :
    let settlement := member.registry.settlement member.config.retry entity answer
    (member.engine name).judge (member.claimed now entity) later answer.verdict =
        .persisting (member.claimed now entity)
          ((member.claimed now entity).resolve settlement later) settlement.outcome ∨
      ∃ next payload,
        (member.engine name).judge (member.claimed now entity) later answer.verdict =
          .confirming (member.claimed now entity) next payload later ∧
        settlement = ⟨next, payload, 0, none, .success⟩ := by
  unfold Registry.settlement
  rw [notAsked, if_neg Bool.false_ne_true]
  cases answer with
  | failed reason => exact .inl (member.judge_retry name now later reason)
  | crashed message => exact .inl (member.judge_retry name now later _)
  | decided verdict =>
    cases verdict with
    | retry reason => exact .inl (member.judge_retry name now later reason)
    | fatal reason => exact .inl rfl
    | success next payload =>
      by_cases allowed : member.registry.allows entity.state next = true
      · dsimp only
        rw [if_pos allowed]
        exact .inr ⟨next, payload, if_pos allowed, rfl⟩
      · dsimp only
        rw [if_neg allowed]
        exact .inl (if_neg allowed)

variable {name now} {site : Site ι ε S P}

/-- A free entity is leased. -/
theorem store_lease_of_free (found : site.memory.find? entity.id = some entity)
    (free : entity.isFreeAt now = true) (clock : member.world.now site.surroundings = now) :
    ∃ after, (member.engine name).store (.lease entity.id member.holder
          member.config.leaseDuration (member.world.onSite.now site)) site =
        (.ok (member.claimed now entity), after) ∧
      after.memory = site.memory.put (member.claimed now entity) ∧
      after.transitions = site.transitions ∧
      after.surroundings = member.elapse site.surroundings := by
  have reads : member.world.onSite.now site = now := clock
  rw [reads]
  exact store_of_run (Memory.run_lease_of_free found free _ _)

/-- Nobody asked for a cancellation of an entity that was leased without a request. -/
theorem step_confirming (leased : site.memory.find? entity.id = some (member.claimed now entity))
    (notAsked : entity.cancelRequested = false) (next : S) (payload : P) :
    ∃ after, (member.engine name).step member.world.onSite
          (.confirming (member.claimed now entity) next payload later) site =
        (.persisting (member.claimed now entity)
          ((member.claimed now entity).resolve ⟨next, payload, 0, none, .success⟩ later) .success,
            after) ∧
      after.memory = site.memory ∧ after.transitions = site.transitions ∧
      after.surroundings = member.elapse site.surroundings := by
  have looks : Memory.run (.find (member.claimed now entity).id) site.memory =
      (.ok (some (member.claimed now entity)), site.memory) := by
    rw [← leased]
    rfl
  obtain ⟨after, found, kept⟩ := store_of_run looks
  refine ⟨after, ?_, kept⟩
  have unmarked : (member.claimed now entity).cancelRequested = false := notAsked
  rw [Engine.step_confirming_of_ok _ _ found, Option.any_some, unmarked]
  rfl

/-- What was settled is written in the place of the lease, and reported. -/
theorem step_persisting (leased : site.memory.find? entity.id = some (member.claimed now entity))
    (settlement : Settlement S P) :
    let report := member.registry.report entity (entity.settle settlement later) settlement.outcome
    ∃ after, (member.engine name).step member.world.onSite
          (.persisting (member.claimed now entity)
            ((member.claimed now entity).resolve settlement later) settlement.outcome) site =
        (.ended (.persisted settlement.outcome), after) ∧
      after.memory = site.memory.put (entity.settle settlement later) ∧
      after.transitions = site.transitions ++ [report] ∧
      after.surroundings = (member.world.emit report (member.elapse site.surroundings)).2 := by
  intro report
  obtain ⟨saved, answered, stored, unreported, elapsed⟩ :=
    store_of_run (member.run_update_resolve now leased settlement)
  refine ⟨_, Engine.persist_of_ok _ _ answered, stored, ?_, ?_⟩
  · rw [← unreported]
    rfl
  · rw [← elapsed]
    rfl

end Member

namespace Member.IsSteady

variable {member : Member ε S P Call Response} {now : Instant} {shows : List X → ε → Prop}
  {note : Entity S P → List X} {reply : Entity S P → Reply S P}
  (steady : member.IsSteady now shows note reply) (name : ι) {site : Site ι ε S P}
  {memory : Memory S P} {transitions : List Transition} {notes : List X} {entity : Entity S P}

include steady

/-- What was settled is written in the place of the lease, and reported. -/
theorem step_persisting (reads : site.Reads shows memory transitions notes)
    (leased : memory.find? entity.id = some (member.claimed now entity))
    (settlement : Settlement S P) :
    ∃ after, (member.engine name).step member.world.onSite
          (.persisting (member.claimed now entity)
            ((member.claimed now entity).resolve settlement now) settlement.outcome) site =
        (.ended (.persisted settlement.outcome), after) ∧
      after.Reads shows (memory.put (entity.settle settlement now))
        (transitions ++ [member.registry.report entity (entity.settle settlement now)
          settlement.outcome]) notes := by
  obtain ⟨rfl, rfl, shown⟩ := reads
  obtain ⟨after, steps, stored, reported, emitted⟩ := member.step_persisting leased settlement
  refine ⟨after, steps, stored, reported, ?_⟩
  rw [emitted]
  exact steady.emits _ (steady.elapses shown)

/-- Nothing is left to do once it is written. -/
theorem steps_persisting (reads : site.Reads shows memory transitions notes)
    (leased : memory.find? entity.id = some (member.claimed now entity))
    (settlement : Settlement S P) (count : Nat) :
    ∃ after, (member.engine name).steps member.world.onSite (count + 1)
          (.persisting (member.claimed now entity)
            ((member.claimed now entity).resolve settlement now) settlement.outcome) site =
        (.ended (.persisted settlement.outcome), after) ∧
      after.Reads shows (memory.put (entity.settle settlement now))
        (transitions ++ [member.registry.report entity (entity.settle settlement now)
          settlement.outcome]) notes := by
  obtain ⟨after, persisted, afterReads⟩ := steady.step_persisting name reads leased settlement
  refine ⟨after, ?_, afterReads⟩
  rw [Engine.steps_succ, persisted, Engine.steps_ended]
  exact Nat.succ_ne_zero 1

/-- Nobody asked for a cancellation of an entity that was leased without a request. -/
theorem step_confirming (reads : site.Reads shows memory transitions notes)
    (leased : memory.find? entity.id = some (member.claimed now entity))
    (notAsked : entity.cancelRequested = false) (next : S) (payload : P) :
    ∃ after, (member.engine name).step member.world.onSite
          (.confirming (member.claimed now entity) next payload now) site =
        (.persisting (member.claimed now entity)
          ((member.claimed now entity).resolve ⟨next, payload, 0, none, .success⟩ now) .success,
            after) ∧
      after.Reads shows memory transitions notes := by
  obtain ⟨rfl, rfl, shown⟩ := reads
  obtain ⟨after, steps, kept, unreported, elapsed⟩ :=
    member.step_confirming leased notAsked next payload
  refine ⟨after, steps, kept, unreported, ?_⟩
  rw [elapsed]
  exact steady.elapses shown

/-- A reply is judged, and what it settles is written. A success is written after a look at the
request to cancel, which nobody made. -/
theorem steps_judged (reads : site.Reads shows memory transitions notes)
    (leased : memory.find? entity.id = some (member.claimed now entity))
    (notAsked : entity.cancelRequested = false) (answer : Reply S P) :
    let settlement := member.registry.settlement member.config.retry entity answer
    ∃ after, (member.engine name).steps member.world.onSite 3
          ((member.engine name).judge (member.claimed now entity) now answer.verdict) site =
        (.ended (.persisted settlement.outcome), after) ∧
      after.Reads shows (memory.put (entity.settle settlement now))
        (transitions ++ [member.registry.report entity (entity.settle settlement now)
          settlement.outcome]) notes := by
  intro settlement
  rcases member.judge_claimed name now now notAsked answer with
    judged | ⟨next, payload, judged, settles⟩
  · rw [judged]
    exact steady.steps_persisting name reads leased settlement 2
  · rw [judged]
    obtain ⟨after, confirms, afterReads⟩ :=
      steady.step_confirming name reads leased notAsked next payload
    obtain ⟨final, persists, finalReads⟩ :=
      steady.steps_persisting name afterReads leased settlement 1
    refine ⟨final, ?_, finalReads⟩
    change settlement = _ at settles
    rw [← persists, Engine.steps_succ, confirms, settles]
    exact Nat.succ_ne_zero 2

/-- A handler that has come to its end is judged. -/
theorem advance_working (reads : site.Reads shows memory transitions notes)
    (leased : memory.find? entity.id = some (member.claimed now entity))
    (notAsked : entity.cancelRequested = false) (answer : Reply S P) :
    let settlement := member.registry.settlement member.config.retry entity answer
    ∃ after, (member.engine name).advance member.world.onSite
          (.working (member.claimed now entity) (.done answer)) site =
        (.ended (.persisted settlement.outcome), after) ∧
      after.Reads shows (memory.put (entity.settle settlement now))
        (transitions ++ [member.registry.report entity (entity.settle settlement now)
          settlement.outcome]) notes := by
  intro settlement
  obtain ⟨after, reached, worked⟩ := Engine.work_of_finished (member.engine name)
    member.world.onSite (member.claimed now entity)
    (show (Work.done answer : Work Call Response _).drive member.world.onSite site =
      (.finished answer, site) from rfl)
  have afterReads : after.Reads shows memory transitions notes := by
    rcases reached with rfl | ⟨entry, rfl⟩
    · exact reads
    · exact steady.log reads entry
  obtain ⟨final, ends, finalReads⟩ := steady.steps_judged name afterReads leased notAsked answer
  refine ⟨final, ?_, finalReads⟩
  have judged : (member.engine name).step member.world.onSite
      (.working (member.claimed now entity) (.done answer)) site = _ := worked
  show (member.engine name).steps member.world.onSite 4 _ site = _
  rw [Engine.steps_succ, judged, steady.now_eq afterReads]
  · exact ends
  · exact Nat.succ_ne_zero 3

/-- A free entity is leased. -/
theorem claims (reads : site.Reads shows memory transitions notes)
    (found : memory.find? entity.id = some entity) (free : entity.isFreeAt now = true) :
    ∃ after, (member.engine name).store (.lease entity.id member.holder
          member.config.leaseDuration (member.world.onSite.now site)) site =
        (.ok (member.claimed now entity), after) ∧
      after.Reads shows (memory.put (member.claimed now entity)) transitions notes := by
  obtain ⟨rfl, rfl, shown⟩ := reads
  obtain ⟨after, answered, stored, unreported, elapsed⟩ :=
    member.store_lease_of_free found free (steady.clock shown)
  refine ⟨after, answered, stored, unreported, ?_⟩
  rw [elapsed]
  exact steady.elapses shown

/-- An entity with a request to cancel is leased to be cancelled. -/
theorem step_asked (reads : site.Reads shows memory transitions notes)
    (found : memory.find? entity.id = some entity) (free : entity.isFreeAt now = true)
    (asked : entity.cancelRequested = true) :
    ∃ after, (member.engine name).step member.world.onSite (.selected entity) site =
        (.persisting (member.claimed now entity)
          ((member.claimed now entity).resolve (member.settlement now reply entity) now)
            (member.settlement now reply entity).outcome, after) ∧
      after.Reads shows (memory.put (member.claimed now entity)) transitions notes := by
  have settles : member.settlement now reply entity =
      ⟨member.registry.cancelled, entity.payload, 0, none, .cancelled⟩ := if_pos asked
  obtain ⟨leased, claimed, leasedReads⟩ := steady.claims name reads found free
  refine ⟨leased, ?_, leasedReads⟩
  have marked : (member.claimed now entity).cancelRequested = true := asked
  show (member.engine name).claim member.world.onSite entity site = _
  rw [Engine.claim_of_ok _ _ claimed, settles]
  unfold Engine.afterLease
  rw [if_neg fun other => other rfl, if_pos marked]
  show (Attempt.persisting _ ((member.claimed now entity).transitionTo _
    (member.world.onSite.now leased)) _, leased) = _
  rw [steady.now_eq leasedReads]
  rfl

/-- Another entity is leased for its handler. -/
theorem step_selected (reads : site.Reads shows memory transitions notes)
    (found : memory.find? entity.id = some entity) (free : entity.isFreeAt now = true)
    (notAsked : entity.cancelRequested = false) {handler : Handler S P Call Response}
    (handled : member.registry.handler? entity.state = some handler) :
    ∃ after, (member.engine name).step member.world.onSite (.selected entity) site =
        (.working (member.claimed now entity) (handler (member.claimed now entity)), after) ∧
      after.Reads shows (memory.put (member.claimed now entity)) transitions notes := by
  obtain ⟨leased, claimed, leasedReads⟩ := steady.claims name reads found free
  exact ⟨leased, Engine.step_selected_of_ok _ _ claimed rfl notAsked handled, leasedReads⟩

/-- An entity with a request to cancel is cancelled, and no handler sees it. -/
theorem advance_asked (reads : site.Reads shows memory transitions notes)
    (found : memory.find? entity.id = some entity) (free : entity.isFreeAt now = true)
    (asked : entity.cancelRequested = true) :
    ∃ after, (member.engine name).advance member.world.onSite (.selected entity) site =
        (.ended (.persisted (member.settlement now reply entity).outcome), after) ∧
      after.Reads shows (memory.put (member.settled now reply entity))
        (transitions ++ [member.transition now reply entity]) notes := by
  obtain ⟨leased, cancels, leasedReads⟩ := steady.step_asked name reads found free asked
  obtain ⟨after, persists, afterReads⟩ := steady.steps_persisting name leasedReads
    (member.find?_put_claimed now found) (member.settlement now reply entity) 3
  rw [member.put_settle now] at afterReads
  refine ⟨after, ?_, afterReads⟩
  show (member.engine name).steps member.world.onSite 5 _ site = _
  rw [Engine.steps_succ, cancels]
  · exact persists
  · exact Nat.succ_ne_zero 4

/-- The handler of another entity gets it as it was leased. -/
theorem advance_selected (reads : site.Reads shows memory transitions notes)
    (found : memory.find? entity.id = some entity) (free : entity.isFreeAt now = true)
    (notAsked : entity.cancelRequested = false) {handler : Handler S P Call Response}
    (handled : member.registry.handler? entity.state = some handler) :
    ∃ after, (member.engine name).advance member.world.onSite (.selected entity) site =
        (member.engine name).advance member.world.onSite
          (.working (member.claimed now entity) (handler (member.claimed now entity))) after ∧
      after.Reads shows (memory.put (member.claimed now entity)) transitions notes := by
  obtain ⟨leased, begins, leasedReads⟩ :=
    steady.step_selected name reads found free notAsked handled
  refine ⟨leased, ?_, leasedReads⟩
  show (member.engine name).steps member.world.onSite 5 _ site = _
  rw [Engine.steps_succ, begins]
  · rfl
  · exact Nat.succ_ne_zero 4

end Member.IsSteady

end Leasehold
