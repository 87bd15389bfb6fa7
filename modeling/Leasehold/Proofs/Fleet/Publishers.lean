/-
**Polls, and a fleet that publishes status lists.**

* `matchesEntity_criteria_iff`: which entities are due for an engine;
* `mem_query_criteria`: a poll selects stored entities in handled states;
* `step_poll_of_single`: in a store with one entity that is due, a poll selects this entity;
* `publishers`: engines of the status list process, one for every holder name. Their partners answer
  as a table says; their clock shows what it is set to.
-/

import Leasehold.Credential.StatusList
import Leasehold.Proofs.Fleet.Flight
import Leasehold.Proofs.Registry.Build

set_option linter.unusedSectionVars false

namespace Leasehold

variable {ι ε σ S P Call : Type} {Response : Call → Type} [DecidableEq S] [ProcessState S]

/-! ### What a poll selects -/

/-- An entity is due for an engine if its state is handled, it is free, and its delay is over. -/
theorem matchesEntity_criteria_iff {engine : Engine σ S P Call Response} {now : Instant}
    {entity : Entity S P} :
    (engine.criteria now).matchesEntity entity = true ↔
      entity.state ∈ engine.registry.handledStates ∧ entity.isLeasedAt now = false ∧
        (engine.config.retry.dueFilter now).admits entity.stateCount entity.stateTimestamp =
          true := by
  show (engine.registry.handledStates.contains entity.state && !entity.isLeasedAt now &&
    (engine.config.retry.dueFilter now).admits entity.stateCount entity.stateTimestamp &&
    true) = true ↔ _
  rw [Bool.and_true, Bool.and_assoc, Bool.and_eq_true, Bool.and_eq_true, Bool.not_eq_true',
    List.contains_iff_mem]

/-- A poll selects stored entities in handled states. -/
theorem mem_query_criteria {memory : Memory S P} {engine : Engine σ S P Call Response}
    {now : Instant} {candidate : Entity S P}
    (selected : candidate ∈ memory.query (engine.criteria now)) :
    memory.find? candidate.id = some candidate ∧
      candidate.state ∈ engine.registry.handledStates := by
  obtain ⟨stored, matched⟩ := Memory.mem_query selected
  exact ⟨Memory.find?_of_mem stored, (matchesEntity_criteria_iff.mp matched).1⟩

/-- An entity is due if its state has a registration, it is free, and its delay is over. -/
theorem matches_criteria {engine : Engine σ S P Call Response} {now : Instant}
    {entity : Entity S P}
    (handled : ∃ registration, engine.registry.registration? entity.state = some registration)
    (free : entity.isLeasedAt now = false)
    (due : (engine.config.retry.dueFilter now).admits entity.stateCount entity.stateTimestamp =
      true) :
    (engine.criteria now).matchesEntity entity = true :=
  matchesEntity_criteria_iff.mpr ⟨Registry.mem_handledStates.mpr handled, free, due⟩

/-- Settings without a fault leave room for an entity. -/
theorem EngineConfig.batchSize_ne_zero {config : EngineConfig} (sound : config.fault? = none) :
    config.batchSize ≠ 0 := by
  intro empty
  unfold EngineConfig.fault? at sound
  rw [if_pos empty] at sound
  cases sound

theorem EngineConfig.concurrency_ne_zero {config : EngineConfig} (sound : config.fault? = none) :
    config.concurrency ≠ 0 := by
  intro none
  have sized := batchSize_ne_zero sound
  unfold EngineConfig.fault? at sound
  rw [if_neg sized, if_pos none] at sound
  cases sound

/-- In a store with one entity, which is due, a poll selects this entity. -/
theorem query_criteria_of_single {memory : Memory S P} {engine : Engine σ S P Call Response}
    {now : Instant} {entity : Entity S P} (alone : memory.entities = [entity])
    (due : (engine.criteria now).matchesEntity entity = true) :
    memory.query (engine.criteria now) = [entity] := by
  obtain ⟨size, filled⟩ := Nat.exists_eq_succ_of_ne_zero
    (EngineConfig.batchSize_ne_zero engine.sound)
  show pageOf _ _ SortOrder.ascending 0 (some engine.config.batchSize)
    (memory.entities.filter (engine.criteria now).matchesEntity) = [entity]
  rw [alone, List.filter_cons_of_pos due, filled]
  unfold pageOf
  rw [List.filter_nil, List.mergeSort_singleton]
  show List.take (size + 1) [entity] = [entity]
  rw [List.take_succ_cons, List.take_nil]

namespace Fleet

variable [DecidableEq ι] (fleet : Fleet ι ε S P Call Response)

/-- A state after a member polled and selected one entity. -/
def State.polled (state : State ι ε S P Call Response) (name : ι) (entity : Entity S P) :
    State ι ε S P Call Response :=
  ⟨(Site.perform (some name) (fleet name).elapse (.query (((fleet name).engine name).criteria
      ((fleet name).world.now state.site.surroundings))) state.site).2,
    Function.update state.batches name [.selected entity]⟩

/-- A poll of a member without work, in a store with one entity that is due. -/
theorem step_poll_of_single (state : State ι ε S P Call Response) (name : ι) (entity : Entity S P)
    (finished : (state.batches name).all (·.isOver) = true)
    (alone : state.site.memory.entities = [entity])
    (handled : ∃ registration,
      (fleet name).registry.registration? entity.state = some registration)
    (free : entity.isLeasedAt ((fleet name).world.now state.site.surroundings) = false)
    (due : ((fleet name).config.retry.dueFilter
      ((fleet name).world.now state.site.surroundings)).admits entity.stateCount
        entity.stateTimestamp = true) :
    fleet.step state (.poll name) = state.polled fleet name entity := by
  have selects : state.site.memory.query (((fleet name).engine name).criteria
      ((fleet name).world.onSite.now state.site)) = [entity] :=
    query_criteria_of_single alone (matches_criteria handled free due)
  simp only [step]
  rw [if_pos finished]
  show State.mk _ (Function.update state.batches name
    ((state.site.memory.query _).map Attempt.selected)) = _
  rw [selects]
  rfl

end Fleet

/-! ### Publishers -/

namespace Fleet

open Credential StatusList

/-- Engines of the status list process, one for every holder name. A lease lasts for a tenth of a
second. -/
def publishers (partners : (request : Credential.Call) → Nat × Credential.Response request) :
    Fleet String Instant StatusList.State Publication Credential.Call Credential.Response :=
  fun holder =>
    { registry := StatusList.registry
      config := { leaseDuration := { nanos := 100000000 } }
      holder := holder
      sound := rfl
      world := {
        now := fun clock => clock
        tick := fun _ => pure ()
        log := fun _ => pure ()
        emit := fun _ => pure ()
        call := fun request => pure (partners request) }
      elapse := fun clock => clock }

theorem publishers_alone
    (partners : (request : Credential.Call) → Nat × Credential.Response request) :
    Function.Injective fun name => (publishers partners name).holder :=
  fun _ _ same => same

/-- Publishers whose partners do not answer within a second. -/
abbrev slowPublishers :
    Fleet String Instant StatusList.State Publication Credential.Call Credential.Response :=
  publishers fun _ => (1000, .transient "busy")

/-- Publishers whose partners refuse at once. -/
abbrev busyPublishers :
    Fleet String Instant StatusList.State Publication Credential.Call Credential.Response :=
  publishers fun _ => (0, .transient "busy")

/-- A status list that waits to be signed. -/
def unsigned : Entity StatusList.State Publication :=
  .fresh "list" .created ⟨"issuer", "credential", "revocation", [], none, none⟩ .empty Instant.epoch

/-- A list is left as it is once it is published, failed or cancelled. -/
theorem terminalStates_registry :
    StatusList.registry.terminalStates = [.published, .failed, .cancelled] := by
  have inOrder : [State.published, .failed, .cancelled].Pairwise fun first second =>
      decide (code first ≤ code second) = true := by decide
  show (List.mergeSort [State.published, .failed, .cancelled] _).eraseDups = _
  rw [List.mergeSort_of_pairwise inOrder]
  rfl

/-- So many milliseconds after the epoch. -/
def atMillis (millis : Nat) : Instant :=
  Instant.epoch.plus ((Duration.ofNanos? (millis * nanosPerMilli)).getD .zero)

/-- The publishers when one of them has selected the first list, one second after the epoch. -/
def selectedBy (partners : (request : Credential.Call) → Nat × Credential.Response request)
    (name : String) :
    State String Instant StatusList.State Publication Credential.Call Credential.Response :=
  ((publishers partners).run (.start .empty (atMillis 1000)) [.call (.create unsigned)]).polled
    (publishers partners) name unsigned

/-- A list is created, a publisher selects it, and other actions follow. -/
theorem run_selectedBy
    (partners : (request : Credential.Call) → Nat × Credential.Response request) (name : String)
    (actions : List (Action String Instant StatusList.State Publication)) :
    (publishers partners).run (.start .empty (atMillis 1000))
        (.call (.create unsigned) :: .poll name :: actions) =
      (publishers partners).run (selectedBy partners name) actions := by
  have due : (({} : RetryPolicy).dueFilter (atMillis 1000)).admits 0 Instant.epoch = true := by
    decide
  have selects := (publishers partners).step_poll_of_single
    ((publishers partners).run (.start .empty (atMillis 1000)) [.call (.create unsigned)]) name
    unsigned rfl rfl ⟨_, rfl⟩ (by rfl) due
  show (publishers partners).run ((publishers partners).step ((publishers partners).run
    (.start .empty (atMillis 1000)) [.call (.create unsigned)]) (.poll name)) actions = _
  rw [selects]
  rfl

end Fleet

end Leasehold
