/-
**The history of an entity is a legal path.**

Here all engines work with one registry that was built from a draft, and under one retry policy. The
callers outside the fleet are triggers of this registry: they create entities in the initial state
and cancel them. Handlers leave the store alone, but may do anything else.

* `Registry.Legal`: the ways in which an entity may change, each with the transitions it is reported
  as;
* `Attempt.IsDue`, `due_run`: attempts are about entities that were selected in a handled state;
* `Change.legal`: an action changes an entity in a legal way only;
* `State.Traced`, `traced_run`: the transitions of an entity follow on each other;
* `legal_history`: the two together, for every schedule.
-/

import Leasehold.Proofs.Fleet.Claim
import Leasehold.Proofs.Fleet.Publishers
import Mathlib.Data.List.Chain

set_option linter.unusedSectionVars false

namespace Leasehold

variable {ι ε S P Call : Type} {Response : Call → Type} [DecidableEq S] [ProcessState S]

/-! ### Legal changes -/

namespace Entity

/-- The entities agree in every field, except for the claim on the entity, its version and the
request to cancel. -/
def SameButClaim (before after : Entity S P) : Prop :=
  after = { before with
    lease := after.lease
    version := after.version
    cancelRequested := after.cancelRequested }

/-- What never changes about an entity. -/
structure SameIdentity (before after : Entity S P) : Prop where
  id : after.id = before.id
  createdAt : after.createdAt = before.createdAt
  traceContext : after.traceContext = before.traceContext

theorem SameButClaim.sameIdentity {before after : Entity S P} (same : before.SameButClaim after) :
    before.SameIdentity after := by
  unfold SameButClaim at same
  rw [same]
  exact ⟨rfl, rfl, rfl⟩

end Entity

namespace Registry

/-- The ways in which an entity may change under a registry and a retry policy, each with the
transitions that report it. -/
inductive Legal (registry : Registry S P Call Response) (policy : RetryPolicy)
    (before after : Entity S P) : List Transition → Prop where
  /-- A handler led to a state that it declared. -/
  | succeeds (alive : registry.isTerminal before.state = false)
      (declared : after.state ∈ registry.declaredNextStates before.state)
      (legal : after.state ∈ registry.legalNextStates before.state)
      (count : after.stateCount = 0) (noError : after.errorDetail = none) :
      Legal registry policy before after [registry.report before after .success]
  /-- An attempt is counted. -/
  | retries (alive : registry.isTerminal before.state = false)
      (state : after.state = before.state) (payload : after.payload = before.payload)
      (count : after.stateCount = before.stateCount + 1)
      (atMost : after.stateCount ≤ policy.maxRetries) :
      Legal registry policy before after [registry.report before after .retry]
  /-- An attempt failed for good. -/
  | fails {outcome : Outcome} (kind : outcome = .fatal ∨ outcome = .exhausted)
      (alive : registry.isTerminal before.state = false) (state : after.state = registry.failed)
      (payload : after.payload = before.payload) (count : after.stateCount = 0) :
      Legal registry policy before after [registry.report before after outcome]
  /-- An engine saw the request to cancel. -/
  | yields (alive : registry.isTerminal before.state = false)
      (state : after.state = registry.cancelled) (payload : after.payload = before.payload)
      (count : after.stateCount = 0) :
      Legal registry policy before after [registry.report before after .cancelled]
  /-- A trigger cancelled the free entity, which is not reported. -/
  | stops (alive : registry.isTerminal before.state = false)
      (state : after.state = registry.cancelled) (payload : after.payload = before.payload)
      (count : after.stateCount = 0) : Legal registry policy before after []
  /-- Only the claim or the request to cancel changed. -/
  | stays (same : before.SameButClaim after) : Legal registry policy before after []

variable {registry : Registry S P Call Response} {source target : S}

/-- A legal change is not reported, or it is reported as it is and began outside the terminal
states. -/
theorem Legal.reported {policy : RetryPolicy} {before after : Entity S P}
    {events : List Transition} (legal : registry.Legal policy before after events) :
    events = [] ∨ registry.isTerminal before.state = false ∧
      ∃ outcome, events = [registry.report before after outcome] := by
  cases legal with
  | succeeds alive | retries alive | fails _ alive | yields alive => exact .inr ⟨alive, _, rfl⟩
  | stops | stays => exact .inl rfl

theorem Legal.state_of_unreported {policy : RetryPolicy} {before after : Entity S P}
    (legal : registry.Legal policy before after []) :
    after.state = before.state ∨ after.state = registry.cancelled := by
  cases legal with
  | stops _ state => exact .inr state
  | stays same =>
    unfold Entity.SameButClaim at same
    rw [same]
    exact .inl rfl

/-- What a handler may lead to was declared with it. -/
theorem mem_declaredNextStates_of_allows (allowed : registry.allows source target = true) :
    target ∈ registry.declaredNextStates source := by
  unfold allows at allowed
  unfold declaredNextStates
  rw [mem_sortedStates]
  cases found : registry.registration? source with
  | none =>
    rw [found] at allowed
    cases allowed
  | some registration =>
    rw [found] at allowed
    exact List.contains_iff_mem.mp allowed

end Registry

/-- **What an attempt writes over its entity is legal**, if it leased the entity in a handled
state. -/
theorem Warrant.legal {registry : Registry S P Call Response} {policy : RetryPolicy}
    (sound : registry.IsSound) (few : policy.maxRetries < maxStateCount)
    {leased result stored : Entity S P} {outcome : Outcome} {version : Int}
    (warranted : Warrant registry policy leased result outcome)
    (handled : leased.state ∈ registry.handledStates) (same : leased.SameButRequest stored) :
    let saved := { result with
      lease := none
      version := version
      createdAt := stored.createdAt
      cancelRequested := stored.cancelRequested }
    stored.SameIdentity saved ∧
      registry.Legal policy stored saved [registry.report leased saved outcome] := by
  obtain ⟨request, rfl⟩ : ∃ request, stored = { leased with cancelRequested := request } :=
    ⟨_, same.eq⟩
  have alive : registry.isTerminal leased.state = false := sound.handled handled
  cases warranted with
  | success target payload now allowed =>
    exact ⟨⟨rfl, rfl, rfl⟩, .succeeds alive (Registry.mem_declaredNextStates_of_allows allowed)
      (sound.declared allowed) rfl rfl⟩
  | cancelled now => exact ⟨⟨rfl, rfl, rfl⟩, .yields alive rfl rfl rfl⟩
  | retry reason now remaining =>
    -- The count cannot reach its end before the attempts are used up.
    have left : min (leased.stateCount + 1) maxStateCount ≤ policy.maxRetries :=
      Nat.not_lt.mp (of_decide_eq_false remaining)
    have counted : min (leased.stateCount + 1) maxStateCount = leased.stateCount + 1 := by omega
    exact ⟨⟨rfl, rfl, rfl⟩, .retries alive rfl rfl counted left⟩
  | fatal reason now => exact ⟨⟨rfl, rfl, rfl⟩, .fails (.inl rfl) alive rfl rfl rfl⟩
  | exhausted reason now used => exact ⟨⟨rfl, rfl, rfl⟩, .fails (.inr rfl) alive rfl rfl rfl⟩

namespace Operation

/-- Whether an operation is one of those that a trigger of a registry makes. -/
def IsTriggerOf (registry : Registry S P Call Response) : Operation S P → Prop
  | .find _ | .query _ => True
  | .create entity => ∃ id payload traceContext now,
      entity = .fresh id registry.initial payload traceContext now
  | .cancelIfFree _ cancelled terminal _ =>
      cancelled = registry.cancelled ∧ terminal = registry.terminalStates
  | .requestCancel _ terminal => terminal = registry.terminalStates
  | _ => False

/-- Whether an operation leaves everything but the claim on an entity and the request to cancel. -/
def isUpkeep : Operation S P → Bool
  | .update _ | .cancelIfFree _ _ _ _ => false
  | _ => true

/-- Upkeep changes only the claim and the request to cancel. -/
theorem sameButClaim_revise {operation : Operation S P} (upkeep : operation.isUpkeep = true)
    (stored : Entity S P) : stored.SameButClaim (operation.revise stored) := by
  unfold revise
  split
  · cases operation with
    | update _ | cancelIfFree _ _ _ _ => cases upkeep
    | find _ | create _ | query _ | requestCancel _ _ => rfl
    | lease _ _ _ _ | renew _ _ _ _ | release _ _ | releaseAll _ => rfl
  · split
    · rfl
    · rfl

/-- A cancellation of a trigger moves a free entity that is alive to the cancelled state, or changes
nothing. -/
theorem legal_revise_of_isTriggerOf {registry : Registry S P Call Response} (policy : RetryPolicy)
    {operation : Operation S P} (trigger : operation.IsTriggerOf registry) (stored : Entity S P) :
    stored.SameIdentity (operation.revise stored) ∧
      registry.Legal policy stored (operation.revise stored) [] := by
  cases operation with
  | cancelIfFree id cancelled terminal now =>
    obtain ⟨rfl, rfl⟩ := trigger
    cases effective : (Operation.cancelIfFree id registry.cancelled registry.terminalStates
        now : Operation S P).takesEffect stored with
    | true =>
      have meets : (decide (stored.id = id) &&
        (!registry.terminalStates.contains stored.state && stored.isFreeAt now)) = true := effective
      rw [Registry.contains_terminalStates, Bool.and_eq_true, Bool.and_eq_true] at meets
      rw [revise_of_takesEffect effective]
      exact ⟨⟨rfl, rfl, rfl⟩, .stops (by simpa using meets.2.1) rfl rfl rfl⟩
    | false =>
      have unchanged : (Operation.cancelIfFree id registry.cancelled registry.terminalStates
          now : Operation S P).revise stored = stored := by
        unfold revise
        rw [if_neg (by simp [effective])]
        rfl
      rw [unchanged]
      exact ⟨⟨rfl, rfl, rfl⟩, .stays rfl⟩
  | find _ | create _ | query _ | requestCancel _ _ =>
    exact ⟨(sameButClaim_revise rfl stored).sameIdentity, .stays (sameButClaim_revise rfl stored)⟩
  | update _ | lease _ _ _ _ | renew _ _ _ _ | release _ _ | releaseAll _ => cases trigger

end Operation

/-! ### Attempts that are due -/

namespace Attempt

/-- An attempt is about an entity that was selected in a handled state, and is in a handled state
unless it is let go. -/
def IsDue (member : Member ε S P Call Response) (memory : Memory S P) :
    Attempt S P Call Response → Prop
  | .selected candidate => candidate.state ∈ member.registry.handledStates ∧
      ∃ stored, memory.find? candidate.id = some stored ∧ candidate.Precedes stored
  | .working leased _ | .waiting _ leased _ | .confirming leased _ _ _ | .persisting leased _ _ =>
      leased.state ∈ member.registry.handledStates
  | .releasing _ | .ended _ => True

variable {member : Member ε S P Call Response} {memory : Memory S P}
  {attempt : Attempt S P Call Response}

/-- An attempt stays due while others act. -/
theorem IsDue.replay (due : attempt.IsDue member memory) (operations : List (Operation S P)) :
    attempt.IsDue member (memory.replay operations) := by
  cases attempt with
  | selected candidate =>
    obtain ⟨handled, stored, found, follows⟩ := due
    obtain ⟨later, there, after⟩ := Memory.find?_replay found operations
    exact ⟨handled, later, there, follows.trans after⟩
  | working _ _ | waiting _ _ _ | confirming _ _ _ _ | persisting _ _ _ => exact due
  | releasing _ | ended _ => trivial

end Attempt

namespace Member

variable {member : Member ε S P Call Response} {memory : Memory S P}
  {attempt next : Attempt S P Call Response} {operation : Option (Operation S P)}
  {transitions : List Transition}

/-- An entity that was leased as it was selected is in the state in which it was selected. -/
theorem state_of_leased {candidate leased : Entity S P} {holder : String} {duration : Duration}
    {now : Instant} (present : ∃ stored, memory.find? candidate.id = some stored ∧
      candidate.Precedes stored)
    (claimed : memory.answer (.lease candidate.id holder duration now) = .ok leased)
    (unchanged : leased.version = candidate.version + 1) : leased.state = candidate.state := by
  obtain ⟨stored, _, same, leases⟩ := Memory.exists_stored_of_lease present claimed unchanged
  rw [leases.state, same.eq]

/-- A step leads to an attempt that is due. -/
theorem Move.due (move : member.Move memory attempt operation transitions next)
    (due : attempt.IsDue member memory) : next.IsDue member memory := by
  cases move with
  | cancels later claimed unchanged asked =>
    show _ ∈ member.registry.handledStates
    rw [state_of_leased due.2 claimed unchanged]
    exact due.1
  | begins claimed unchanged notAsked handled =>
    show _ ∈ member.registry.handledStates
    rw [state_of_leased due.2 claimed unchanged]
    exact due.1
  | waits | succeeds | concludes | resumes | yields | confirms => exact due
  | refused | withdraws | persists | overtaken | releases | rests => trivial

end Member

namespace Fleet

variable [DecidableEq ι] {fleet : Fleet ι ε S P Call Response}
  {state after : State ι ε S P Call Response} {action : Action ι ε S P}

/-- All attempts are due. -/
def State.Due (fleet : Fleet ι ε S P Call Response) (state : State ι ε S P Call Response) : Prop :=
  ∀ name number attempt, state.attempt? name number = some attempt →
    attempt.IsDue (fleet name) state.site.memory

/-- An action keeps the attempts due. -/
theorem State.Due.kept (due : state.Due fleet) (change : fleet.Change state action after) :
    after.Due fleet := by
  obtain ⟨deed, transitions, extended⟩ := change.extended
  intro name number attempt there
  rw [extended.memory]
  refine Attempt.IsDue.replay ?_ _
  cases change with
  | rests unchanged => exact due name number attempt there
  | calls performed => exact due name number attempt there
  | stops finished performed => exact due name number attempt there
  | polls finished selects performed =>
    rw [State.attempt?_poll] at there
    split at there
    · next same =>
      subst same
      obtain ⟨candidate, listed, rfl⟩ := Option.map_eq_some_iff.mp there
      obtain ⟨now, rfl⟩ := selects
      obtain ⟨found, handled⟩ := mem_query_criteria (List.mem_of_getElem? listed)
      exact ⟨handled, candidate, found, .refl candidate⟩
    · exact due name number attempt there
  | proceeds reached move performed =>
    rw [State.attempt?_proceed reached] at there
    split at there
    · next here =>
      obtain ⟨rfl, rfl⟩ := here
      cases there
      exact move.due (due name number _ reached)
    · exact due name number attempt there

/-- **Every schedule keeps the attempts due.** -/
theorem due_run (fleet : Fleet ι ε S P Call Response) (memory : Memory S P) (surroundings : ε)
    (actions : List (Action ι ε S P)) :
    (fleet.run (.start memory surroundings) actions).Due fleet :=
  fleet.run_keeps (fun state => state.Due fleet) (fun _ => True)
    (fun _ _ _ there => by cases there) (fun _ due change => due.kept change) fun _ _ => trivial

/-! ### One action -/

/-- A caller outside the fleet is a trigger of a registry. -/
def Action.IsTriggerOf (registry : Registry S P Call Response) : Action ι ε S P → Prop
  | .call operation => operation.IsTriggerOf registry
  | _ => True

/-- The transitions of one entity. -/
abbrev transitionsOf (id : String) (transitions : List Transition) : List Transition :=
  transitions.filter (·.entityId = id)

theorem transitionsOf_append (id : String) (first second : List Transition) :
    transitionsOf id (first ++ second) = transitionsOf id first ++ transitionsOf id second :=
  List.filter_append first second

variable {memory : Memory S P} {registry : Registry S P Call Response} {policy : RetryPolicy}

/-- An operation that is upkeep changes an entity in a legal way. -/
theorem legal_of_isUpkeep {operation : Operation S P} (upkeep : operation.isUpkeep = true)
    (stored : Entity S P) : stored.SameIdentity (operation.revise stored) ∧
      registry.Legal policy stored (operation.revise stored) [] :=
  ⟨(Operation.sameButClaim_revise upkeep stored).sameIdentity,
    .stays (Operation.sameButClaim_revise upkeep stored)⟩

/-- An entity with a claim on it that still has the version of the claim is as it was leased. -/
theorem State.Honest.sameButRequest (honest : state.Honest fleet memory) {name : ι} {number : Nat}
    {leased stored : Entity S P} (claimed : state.claim? name number = some leased)
    (found : state.site.memory.find? leased.id = some stored)
    (sameVersion : stored.version = leased.version) : leased.SameButRequest stored := by
  obtain ⟨past, now, since, claim⟩ := honest.recorded claimed
  obtain ⟨seen, there, follows⟩ := claim.stored
  rw [← honest.replayed] at there
  obtain rfl : seen = stored := Option.some.inj (there.symm.trans found)
  exact follows.same sameVersion.symm

/-- A write leaves the other entities alone, and is not reported of them. -/
theorem write_of_other (registry : Registry S P Call Response) (leased : Entity S P)
    (outcome : Outcome) {id : String} {stored result saved : Entity S P}
    (found : memory.find? id = some stored) (savedId : saved.id = result.id)
    (other : result.id ≠ id) :
    (memory.after (.update result)).find? id = some stored ∧
      transitionsOf id [registry.report leased saved outcome] = [] := by
  constructor
  · have apart : stored.id ≠ result.id := by
      rw [Memory.id_of_find? found]
      exact other.symm
    rw [Memory.find?_after_of_found found, Operation.revise_update_of_ne apart]
  · refine List.filter_cons_of_neg fun same => other ?_
    exact savedId.symm.trans (of_decide_eq_true same)

/-- A write of an attempt changes its entity in a legal way, and is reported of it. -/
theorem write_of_own (sound : registry.IsSound) (few : policy.maxRetries < maxStateCount)
    (honest : state.Honest fleet memory) {name : ι} {number : Nat}
    {leased result stored saved : Entity S P} {outcome : Outcome}
    (claimed : state.claim? name number = some leased)
    (handled : leased.state ∈ registry.handledStates)
    (warranted : Warrant registry policy leased result outcome)
    (written : state.site.memory.answer (.update { result with lease := none }) = .ok saved)
    (found : state.site.memory.find? leased.id = some stored) :
    stored.SameIdentity saved ∧ registry.Legal policy stored saved
      (transitionsOf leased.id [registry.report leased saved outcome]) := by
  obtain ⟨sameId, sameVersion, _⟩ := warranted.keeps
  obtain ⟨met, atWrite, metVersion, equal⟩ := Memory.answer_update_eq_ok_iff.mp written
  -- The stored entity is the leased one, or the write would have failed.
  have atWrite : state.site.memory.find? leased.id = some met := by
    rw [← sameId]
    exact atWrite
  obtain rfl : met = stored := Option.some.inj (atWrite.symm.trans found)
  have same := honest.sameButRequest claimed found (metVersion.trans sameVersion)
  obtain ⟨sameIdentity, legal⟩ := warranted.legal sound few handled same
  have savedId : saved.id = leased.id := by
    rw [equal]
    exact sameId
  have listed : transitionsOf leased.id [registry.report leased saved outcome] =
      [registry.report leased saved outcome] :=
    List.filter_cons_of_pos (decide_eq_true savedId)
  rw [listed, equal]
  exact ⟨sameIdentity, legal⟩

/-- **An action changes an entity in a legal way only**, and reports the change as it is. -/
theorem Change.legal (change : fleet.Change state action after) (sound : registry.IsSound)
    (few : policy.maxRetries < maxStateCount)
    (shared : ∀ name, (fleet name).registry = registry ∧ (fleet name).config.retry = policy)
    (trigger : action.IsTriggerOf registry) (honest : state.Honest fleet memory)
    (due : state.Due fleet) {id : String} {stored : Entity S P}
    (found : state.site.memory.find? id = some stored) :
    ∃ next events, after.site.memory.find? id = some next ∧
      after.site.transitions = state.site.transitions ++ events ∧ stored.SameIdentity next ∧
      registry.Legal policy stored next (transitionsOf id events) := by
  cases change with
  | rests unchanged =>
    exact ⟨stored, [], unchanged.find?_kept found, unchanged.transitions, ⟨rfl, rfl, rfl⟩, .stays rfl⟩
  | calls performed =>
    exact ⟨_, [], performed.find?_revised found, performed.transitions,
      Operation.legal_revise_of_isTriggerOf policy trigger stored⟩
  | polls finished selects performed =>
    exact ⟨_, [], performed.find?_revised found, performed.transitions, legal_of_isUpkeep rfl stored⟩
  | stops finished performed =>
    exact ⟨_, [], performed.find?_revised found, performed.transitions, legal_of_isUpkeep rfl stored⟩
  | @proceeds name number attempt next operation transitions _ there move performed =>
    cases move with
    | waits | succeeds | concludes | resumes | rests =>
      exact ⟨stored, [], performed.find?_kept found, performed.transitions, ⟨rfl, rfl, rfl⟩, .stays rfl⟩
    | refused | withdraws | cancels | begins | yields | confirms | releases =>
      exact ⟨_, [], performed.find?_revised found, performed.transitions, legal_of_isUpkeep rfl stored⟩
    | overtaken failed =>
      refine ⟨stored, [], ?_, performed.transitions, ⟨rfl, rfl, rfl⟩, .stays rfl⟩
      rw [performed.memory]
      show (state.site.memory.after _).find? id = some stored
      rw [Memory.after, Memory.run_update_of_error failed]
      exact found
    | @persists leased result saved outcome written =>
      obtain ⟨sameRegistry, samePolicy⟩ := shared name
      have warranted := honest.tidy.warranted there
      have handled := due name number _ there
      rw [Attempt.IsWarranted, sameRegistry, samePolicy] at warranted
      rw [Attempt.IsDue, sameRegistry] at handled
      rw [sameRegistry] at performed
      have sameId : result.id = leased.id := warranted.keeps.1
      by_cases mine : leased.id = id
      · subst mine
        have claimed : state.claim? name number = some leased := by
          unfold State.claim? State.attempt?
          rw [there]
          rfl
        refine ⟨saved, _, ?_, performed.transitions,
          write_of_own sound few honest claimed handled warranted written found⟩
        rw [performed.memory, ← sameId]
        exact Memory.find?_after_update written
      · obtain ⟨_, _, _, equal⟩ := Memory.answer_update_eq_ok_iff.mp written
        have savedId : saved.id = ({ result with lease := none } : Entity S P).id :=
          congrArg (·.id) equal
        obtain ⟨still, unlisted⟩ := write_of_other registry leased outcome found savedId
          fun same => mine (sameId.symm.trans same)
        refine ⟨stored, _, ?_, performed.transitions, ⟨rfl, rfl, rfl⟩, ?_⟩
        · rw [performed.memory]
          exact still
        · rw [unlisted]
          exact .stays rfl

/-- An entity that was not there is created in the initial state, and nothing is reported of it. -/
theorem Change.creates (change : fleet.Change state action after)
    (trigger : action.IsTriggerOf registry) {id : String}
    (absent : state.site.memory.find? id = none) :
    (∀ entity, after.site.memory.find? id = some entity → ∃ payload traceContext now,
      entity = .fresh id registry.initial payload traceContext now) ∧
    ∃ events, after.site.transitions = state.site.transitions ++ events ∧
      transitionsOf id events = [] := by
  have one : ∀ {site : Site ι ε S P} {actor : Option ι} {operation : Operation S P}
      {events : List Transition}, state.site.Extends site [⟨actor, operation⟩] events →
        site.memory.find? id = operation.addition? id := by
    intro site actor operation events performed
    rw [performed.memory]
    show (state.site.memory.after operation).find? id = _
    rw [Memory.find?_after, absent]
    rfl
  have nobody : ∀ {site : Site ι ε S P}, site.memory.find? id = none →
      ∀ entity, site.memory.find? id = some entity → ∃ payload traceContext now,
        entity = .fresh id registry.initial payload traceContext now := by
    intro site missing entity found
    rw [missing] at found
    cases found
  have unchanged : ∀ {site : Site ι ε S P} {events : List Transition},
      state.site.Extends site [] events → site.memory.find? id = none := by
    intro site events extended
    rw [extended.memory]
    exact absent
  cases change with
  | rests idle => exact ⟨nobody (unchanged idle), [], idle.transitions, rfl⟩
  | @calls operation _ performed =>
    refine ⟨fun entity found => ?_, [], performed.transitions, rfl⟩
    rw [one performed] at found
    cases operation with
    | create created =>
      obtain ⟨other, payload, traceContext, now, rfl⟩ := trigger
      unfold Operation.addition? at found
      dsimp only at found
      split at found
      · next same =>
        cases found
        cases same
        exact ⟨payload, traceContext, now, rfl⟩
      · cases found
    | _ => cases found
  | polls finished selects performed =>
    exact ⟨nobody (one performed), [], performed.transitions, rfl⟩
  | stops finished performed => exact ⟨nobody (one performed), [], performed.transitions, rfl⟩
  | proceeds there move performed =>
    cases move with
    | waits | succeeds | concludes | resumes | rests =>
      exact ⟨nobody (unchanged performed), [], performed.transitions, rfl⟩
    | refused | withdraws | cancels | begins | yields | confirms | releases | overtaken =>
      exact ⟨nobody (one performed), [], performed.transitions, rfl⟩
    | persists written =>
      refine ⟨nobody (one performed), _, performed.transitions, ?_⟩
      obtain ⟨met, atWrite, _, rfl⟩ := Memory.answer_update_eq_ok_iff.mp written
      refine List.filter_cons_of_neg fun same => ?_
      rw [← of_decide_eq_true same] at absent
      exact absurd (absent.symm.trans atWrite) nofun

/-! ### Transitions that follow on each other -/

/-- Where some transitions lead from a state, all by their names. -/
def arrival (initial : String) (events : List Transition) : String :=
  (events.getLast?.map (·.toState)).getD initial

/-- Transitions that begin in a state, each where the one before it ended. -/
structure Connected (initial : String) (events : List Transition) : Prop where
  first : ∀ event ∈ events.head?, event.fromState = initial
  chain : events.IsChain fun previous next => next.fromState = previous.toState

/-- One more transition that begins where the others lead. -/
theorem Connected.append {initial : String} {events : List Transition}
    (connected : Connected initial events) {event : Transition}
    (follows : event.fromState = arrival initial events) :
    Connected initial (events ++ [event]) := by
  cases events with
  | nil =>
    refine ⟨fun only isOnly => ?_, List.isChain_singleton _⟩
    cases isOnly
    exact follows
  | cons head rest =>
    refine ⟨connected.first, connected.chain.append (List.isChain_singleton _) ?_⟩
    intro last isLast next isNext
    cases isNext
    rw [follows, arrival, Option.mem_def.mp isLast]
    rfl

theorem arrival_append (initial : String) (events : List Transition) (event : Transition) :
    arrival initial (events ++ [event]) = event.toState := by
  unfold arrival
  rw [List.getLast?_concat]
  rfl

/-- The transitions of an entity are connected, and lead to the state of the entity unless it is
terminal. -/
structure State.Traced (registry : Registry S P Call Response) (id : String)
    (state : State ι ε S P Call Response) : Prop where
  absent : state.site.memory.find? id = none → transitionsOf id state.site.transitions = []
  connected : Connected (label registry.initial) (transitionsOf id state.site.transitions)
  present : ∀ stored, state.site.memory.find? id = some stored →
    registry.isTerminal stored.state = true ∨
      arrival (label registry.initial) (transitionsOf id state.site.transitions) =
        label stored.state

/-- The transitions of an entity stay connected when it is created. -/
theorem State.Traced.of_created {id : String} (traced : state.Traced registry id)
    {events : List Transition} (absent : state.site.memory.find? id = none)
    (fresh : ∀ entity, after.site.memory.find? id = some entity → ∃ payload traceContext now,
      entity = .fresh id registry.initial payload traceContext now)
    (reported : after.site.transitions = state.site.transitions ++ events)
    (nothing : transitionsOf id events = []) : after.Traced registry id := by
  have still : transitionsOf id after.site.transitions = [] := by
    rw [reported, transitionsOf_append, traced.absent absent, nothing]
    rfl
  refine ⟨fun _ => still, ?_, fun stored created => ?_⟩
  · rw [still]
    exact ⟨fun _ nothing => (by cases nothing), .nil⟩
  · obtain ⟨payload, traceContext, now, rfl⟩ := fresh stored created
    rw [still]
    exact .inr rfl

/-- The transitions of an entity stay connected when it changes in a legal way. -/
theorem State.Traced.of_legal {id : String} (traced : state.Traced registry id)
    (sound : registry.IsSound) {stored next : Entity S P} {events : List Transition}
    (found : state.site.memory.find? id = some stored)
    (there : after.site.memory.find? id = some next)
    (reported : after.site.transitions = state.site.transitions ++ events)
    (legal : registry.Legal policy stored next (transitionsOf id events)) :
    after.Traced registry id := by
  have longer : transitionsOf id after.site.transitions =
      transitionsOf id state.site.transitions ++ transitionsOf id events := by
    rw [reported, transitionsOf_append]
  have kept : ¬after.site.memory.find? id = none := by
    rw [there]
    exact nofun
  rcases legal.reported with nothing | ⟨alive, outcome, single⟩
  · rw [nothing] at legal
    rw [nothing, List.append_nil] at longer
    refine ⟨fun gone => absurd gone kept, ?_, fun last isLast => ?_⟩
    · rw [longer]
      exact traced.connected
    · obtain rfl : next = last := Option.some.inj (there.symm.trans isLast)
      rw [longer]
      rcases legal.state_of_unreported with same | cancelled
      · rw [same]
        exact traced.present stored found
      · rw [cancelled]
        exact .inl sound.cancelled
  · rw [single] at longer
    -- A reported change begins outside the terminal states, so the transitions lead to its start.
    have arrived : arrival (label registry.initial) (transitionsOf id state.site.transitions) =
        label stored.state := by
      rcases traced.present stored found with terminal | arrived
      · rw [alive] at terminal
        cases terminal
      · exact arrived
    refine ⟨fun gone => absurd gone kept, ?_, fun last isLast => ?_⟩
    · rw [longer]
      exact traced.connected.append arrived.symm
    · obtain rfl : next = last := Option.some.inj (there.symm.trans isLast)
      rw [longer, arrival_append]
      exact .inr rfl

/-- An action keeps the transitions of an entity connected. -/
theorem State.Traced.kept {id : String} (traced : state.Traced registry id)
    (change : fleet.Change state action after) (sound : registry.IsSound)
    (few : policy.maxRetries < maxStateCount)
    (shared : ∀ name, (fleet name).registry = registry ∧ (fleet name).config.retry = policy)
    (trigger : action.IsTriggerOf registry) (honest : state.Honest fleet memory)
    (due : state.Due fleet) : after.Traced registry id := by
  cases found : state.site.memory.find? id with
  | none =>
    obtain ⟨fresh, events, reported, nothing⟩ := change.creates trigger found
    exact traced.of_created found fresh reported nothing
  | some stored =>
    obtain ⟨next, events, there, reported, _, legal⟩ :=
      change.legal sound few shared trigger honest due found
    exact traced.of_legal sound found there reported legal

/-! ### Schedules -/

/-- **Every schedule keeps the transitions of an entity connected**, if it was not there at the
start. -/
theorem traced_run (sound : registry.IsSound) (few : policy.maxRetries < maxStateCount)
    (shared : ∀ name, (fleet name).registry = registry ∧ (fleet name).config.retry = policy)
    (surroundings : ε) {id : String} (absent : memory.find? id = none)
    {actions : List (Action ι ε S P)} (trigger : ∀ action ∈ actions, action.IsTriggerOf registry) :
    (fleet.run (.start memory surroundings) actions).Traced registry id := by
  have initially : (State.start memory surroundings :
      State ι ε S P Call Response).Traced registry id := by
    refine ⟨fun _ => rfl, ⟨fun _ nothing => (by cases nothing), .nil⟩, fun stored found => ?_⟩
    exact absurd (absent.symm.trans found) nofun
  exact (fleet.run_keeps
    (fun state => (state.Honest fleet memory ∧ state.Due fleet) ∧ state.Traced registry id)
    (fun action => action.IsTriggerOf registry)
    ⟨⟨fleet.honest_run memory surroundings [], fleet.due_run memory surroundings []⟩, initially⟩
    (fun trigger kept change => ⟨⟨kept.1.1.kept change, kept.1.2.kept change⟩,
      kept.2.kept change sound few shared trigger kept.1.1 kept.1.2⟩) trigger).2

/-- What never changes about an entity stays the same in every schedule. -/
theorem sameIdentity_run (sound : registry.IsSound) (few : policy.maxRetries < maxStateCount)
    (shared : ∀ name, (fleet name).registry = registry ∧ (fleet name).config.retry = policy)
    {id : String} {stored : Entity S P} (honest : state.Honest fleet memory)
    (due : state.Due fleet) (found : state.site.memory.find? id = some stored)
    {actions : List (Action ι ε S P)} (trigger : ∀ action ∈ actions, action.IsTriggerOf registry) :
    ∃ next, (fleet.run state actions).site.memory.find? id = some next ∧
      stored.SameIdentity next := by
  have kept := fleet.run_keeps
    (fun state => (state.Honest fleet memory ∧ state.Due fleet) ∧
      ∃ next, state.site.memory.find? id = some next ∧ stored.SameIdentity next)
    (fun action => action.IsTriggerOf registry) ⟨⟨honest, due⟩, stored, found, rfl, rfl, rfl⟩
    (fun trigger kept change => ?_) trigger
  · exact kept.2
  · obtain ⟨⟨honest, due⟩, before, there, same⟩ := kept
    obtain ⟨next, _, nextThere, _, still, _⟩ :=
      change.legal sound few shared trigger honest due there
    exact ⟨⟨honest.kept change, due.kept change⟩, next, nextThere,
      still.id.trans same.id, still.createdAt.trans same.createdAt,
      still.traceContext.trans same.traceContext⟩

/-- **The history of an entity is a legal path.** An entity that was not there at the start is
created in the initial state; every action changes it in a legal way only, and reports the change as
it is; its id, its time of creation and its trace context never change. The transitions reported of
it begin in the initial state, and each begins where the one before it ended. -/
theorem legal_history {draft : Draft S P Call Response} {registry : Registry S P Call Response}
    (built : draft.build = .ok registry) {policy : RetryPolicy}
    (few : policy.maxRetries < maxStateCount) (fleet : Fleet ι ε S P Call Response)
    (shared : ∀ name, (fleet name).registry = registry ∧ (fleet name).config.retry = policy)
    (memory : Memory S P) (surroundings : ε) (id : String) (absent : memory.find? id = none)
    (actions : List (Action ι ε S P))
    (trigger : ∀ action ∈ actions, action.IsTriggerOf registry) :
    (∀ earlier action later, actions = earlier ++ action :: later →
      let before := fleet.run (.start memory surroundings) earlier
      let after := fleet.step before action
      (before.site.memory.find? id = none →
        ∀ entity, after.site.memory.find? id = some entity → ∃ payload traceContext now,
          entity = .fresh id registry.initial payload traceContext now) ∧
      (∀ stored, before.site.memory.find? id = some stored →
        ∃ next events, after.site.memory.find? id = some next ∧
          after.site.transitions = before.site.transitions ++ events ∧
          stored.SameIdentity next ∧
          registry.Legal policy stored next (transitionsOf id events))) ∧
    (∀ earlier later stored, actions = earlier ++ later →
      (fleet.run (.start memory surroundings) earlier).site.memory.find? id = some stored →
        ∃ last, (fleet.run (.start memory surroundings) actions).site.memory.find? id = some last ∧
          stored.SameIdentity last) ∧
    Connected (label registry.initial)
      (transitionsOf id (fleet.run (.start memory surroundings) actions).site.transitions) := by
  have sound := Draft.isSound_of_build built
  refine ⟨?_, ?_, (traced_run sound few shared surroundings absent trigger).connected⟩
  · rintro earlier action later rfl
    have honest := fleet.honest_run memory surroundings earlier
    have due := fleet.due_run memory surroundings earlier
    have change := fleet.change_step (fleet.run (.start memory surroundings) earlier) action
    have allowed : action.IsTriggerOf registry := trigger action (by simp)
    exact ⟨fun missing => (change.creates allowed missing).1,
      fun stored found => change.legal sound few shared allowed honest due found⟩
  · rintro earlier later stored rfl found
    rw [run_append]
    exact sameIdentity_run sound few shared (fleet.honest_run memory surroundings earlier)
      (fleet.due_run memory surroundings earlier) found
      fun action member => trigger action (List.mem_append_right earlier member)

/-! ### A publisher whose partners refuse -/

section Refused

open Credential StatusList

/-- A publisher counts an attempt, and then the list is cancelled. -/
def refusedSchedule : List (Action String Instant StatusList.State Publication) :=
  .call (.create unsigned) :: .poll "a" :: [.proceed "a" 0, .proceed "a" 0, .proceed "a" 0,
    .call (.cancelIfFree "list" .cancelled StatusList.registry.terminalStates (atMillis 1100))]

theorem refusedSchedule_trigger :
    ∀ action ∈ refusedSchedule, action.IsTriggerOf StatusList.registry := by
  intro action member
  simp only [refusedSchedule, List.mem_cons, List.not_mem_nil, or_false] at member
  rcases member with rfl | rfl | rfl | rfl | rfl | rfl
  · exact ⟨"list", _, _, _, rfl⟩
  · trivial
  · trivial
  · trivial
  · trivial
  · exact ⟨rfl, rfl⟩

/-- The list is tried once and stays what it is, and its one transition begins in the initial
state. -/
theorem legal_history_refused :
    let state := busyPublishers.run (.start .empty (atMillis 1000)) refusedSchedule
    (transitionsOf "list" state.site.transitions).map (·.outcome) = [.retry] ∧
      Connected (label StatusList.State.created) (transitionsOf "list" state.site.transitions) ∧
      ∃ last, state.site.memory.find? "list" = some last ∧ unsigned.SameIdentity last := by
  intro state
  have few : ({} : RetryPolicy).maxRetries < maxStateCount := by decide
  have history := legal_history StatusList.build_draft few busyPublishers (fun _ => ⟨rfl, rfl⟩)
    .empty (atMillis 1000) "list" rfl refusedSchedule refusedSchedule_trigger
  refine ⟨?_, history.2.2, history.2.1 [.call (.create unsigned)] _ unsigned rfl rfl⟩
  have reached : state = busyPublishers.run (selectedBy _ "a") [.proceed "a" 0, .proceed "a" 0,
      .proceed "a" 0, .call (.cancelIfFree "list" .cancelled
        StatusList.registry.terminalStates (atMillis 1100))] := run_selectedBy _ "a" _
  rw [reached]
  rfl

end Refused

end Fleet

end Leasehold
