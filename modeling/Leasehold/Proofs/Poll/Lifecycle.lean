/-
**What payloads have in each state.**

The handler of a state relies on what an earlier handler wrote into the payload. This holds if every
handler, whatever its calls are answered, leads to a state only with a payload that has what this
state asks for; for an engine writes what a handler decided, or the payload as it was leased.

* `Lifecycle`: what payloads have in each state, which part of them never changes, and the words with
  which no handler of a state gives up;
* `Registry.Observes`: the handlers of a registry have their part in it;
* `Attempt.Observes`: what an attempt is about to write has it too;
* `Attempt.Observes.step`, `State.Observes.step`: no step of an attempt, and no action, loses it;
* `Fleet.Upholds`, `lifecycle_run`: so every schedule upholds the lifecycle.
-/

import Leasehold.Proofs.Fleet.Path
import Leasehold.Proofs.Poll.Handler
import Leasehold.Proofs.Poll.Way

set_option linter.unusedSectionVars false

namespace Leasehold

variable {ι ε S P Call : Type} {Response : Call → Type} [DecidableEq S] [ProcessState S]

/-! ### Lifecycles -/

/-- What the payloads of a process type have in each state. -/
structure Lifecycle (S P : Type) where
  fits : S → P → Prop
  /-- The payload without what handlers add to it. -/
  core : P → P
  /-- The reasons for which no handler of a state gives up. -/
  ruledOut : S → String → Prop

namespace Lifecycle

variable (life : Lifecycle S P) (origin : P)

/-- A payload fits a state, and only handlers have added to it. -/
structure Suits (state : S) (payload : P) : Prop where
  fits : life.fits state payload
  core : life.core payload = life.core origin

/-- A handler may reply so about an entity. -/
def Admits (leased : Entity S P) : Reply S P → Prop
  | .decided (.success next payload) => life.Suits leased.payload next payload
  | .decided (.fatal reason) => ¬life.ruledOut leased.state reason
  | .decided (.retry _) | .failed _ | .crashed _ => True

end Lifecycle

/-- The handlers of a registry keep to a lifecycle, whatever the world answers to their calls. Every
payload is good enough for a beginning, for a failure and for a cancellation. -/
structure Registry.Observes (registry : Registry S P Call Response) (life : Lifecycle S P) :
    Prop where
  initial : ∀ payload, life.fits registry.initial payload
  failed : ∀ payload, life.fits registry.failed payload
  cancelled : ∀ payload, life.fits registry.cancelled payload
  handled : ∀ {ε : Type} (world : World ε Call Response) {entity : Entity S P}
    {handler : Handler S P Call Response}, registry.handler? entity.state = some handler →
      life.fits entity.state entity.payload →
      (handler entity).EndsIn world (fun _ => True) (life.Admits entity)

/-- What an attempt is about to write over an entity suits its lifecycle. -/
def Attempt.Observes (life : Lifecycle S P) (member : Member ε S P Call Response) (origin : P) :
    Attempt S P Call Response → Prop
  | .selected _ | .releasing _ | .ended _ => True
  | .working leased work | .waiting _ leased work =>
      life.Suits origin leased.state leased.payload ∧
        work.EndsIn member.world (fun _ => True) (life.Admits leased)
  | .confirming leased next payload _ =>
      life.core leased.payload = life.core origin ∧ life.Suits origin next payload
  | .persisting _ result _ => life.Suits origin result.state result.payload

variable {life : Lifecycle S P} {member : Member ε S P Call Response} {origin : P}

/-! ### Attempts -/

/-- What a handler wrote counts from one payload as from another with the same core. -/
theorem Attempt.Observes.congr {attempt : Attempt S P Call Response} {other : P}
    (observes : attempt.Observes life member origin) (same : life.core other = life.core origin) :
    attempt.Observes life member other := by
  have suits : ∀ {state payload}, life.Suits origin state payload →
      life.Suits other state payload := fun suits => ⟨suits.fits, suits.core.trans same.symm⟩
  cases attempt with
  | selected _ | releasing _ | ended _ => trivial
  | working _ _ | waiting _ _ _ => exact ⟨suits observes.1, observes.2⟩
  | confirming _ _ _ _ => exact ⟨observes.1.trans same.symm, suits observes.2⟩
  | persisting _ _ _ => exact suits observes

/-- Whatever the engine makes of an admitted reply suits the lifecycle. -/
theorem Member.observes_judge (name : ι) (registered : member.registry.Observes life)
    {leased : Entity S P} (suits : life.Suits origin leased.state leased.payload) (now : Instant)
    {reply : Reply S P} (admitted : life.Admits leased reply) :
    ((member.engine name).judge leased now reply.verdict).Observes life member origin := by
  have fails : ∀ reason outcome, (Attempt.persisting leased
      (leased.fail member.registry.failed reason now) outcome :
        Attempt S P Call Response).Observes life member origin :=
    fun _ _ => ⟨registered.failed _, suits.core⟩
  have retries : ∀ reason,
      ((member.engine name).judge leased now (.retry reason)).Observes life member origin := by
    intro reason
    unfold Engine.judge
    dsimp only
    split
    · exact ⟨registered.failed _, suits.core⟩
    · exact suits
  cases reply with
  | decided verdict =>
    cases verdict with
    | success next payload =>
      show ((member.engine name).judge leased now (.success next payload)).Observes life member _
      unfold Engine.judge
      dsimp only
      split
      · exact ⟨suits.core, admitted.fits, admitted.core.trans suits.core⟩
      · exact fails _ _
    | retry reason => exact retries reason
    | fatal reason => exact fails reason _
  | failed text => exact retries text
  | crashed message => exact retries _

variable {attempt next : Attempt S P Call Response} {stored : Entity S P} {name : ι}
  {site after : Site ι ε S P}

/-- What was leased is the stored entity, with a claim on it. -/
theorem Lifecycle.suits_of_leased {memory : Memory S P} {candidate leased : Entity S P}
    {holder : String} {duration : Duration} {now : Instant}
    (claimed : memory.answer (.lease candidate.id holder duration now) = .ok leased)
    (found : memory.find? candidate.id = some stored)
    (fits : life.fits stored.state stored.payload) :
    life.Suits stored.payload leased.state leased.payload := by
  obtain ⟨seen, there, _, rfl⟩ := Memory.answer_lease_eq_ok_iff.mp claimed
  obtain rfl : seen = stored := Option.some.inj (there.symm.trans found)
  exact ⟨fits, rfl⟩

/-- **No step of an attempt loses what the payload has.** -/
theorem Attempt.Observes.step (observes : attempt.Observes life member stored.payload)
    (registered : member.registry.Observes life)
    (fits : life.fits stored.state stored.payload)
    (found : ∀ subject, attempt.subject? = some subject →
      site.memory.find? subject.id = some stored)
    (steps : (member.engine name).step member.world.onSite attempt site = (next, after)) :
    next.Observes life member stored.payload := by
  have made : member.Makes name site attempt (next, after) := steps ▸ Member.makes_step attempt
  obtain ⟨_, _, move, _⟩ := made
  cases attempt with
  | selected candidate =>
    cases move with
    | refused | withdraws => trivial
    | cancels later claimed _ _ =>
      have suits := Lifecycle.suits_of_leased claimed (found _ rfl) fits
      exact ⟨registered.cancelled _, suits.core⟩
    | begins claimed _ _ handled =>
      have suits := Lifecycle.suits_of_leased claimed (found _ rfl) fits
      exact ⟨suits, registered.handled member.world handled suits.fits⟩
  | working leased work =>
    -- The move does not tell what the handler replied, so the step itself is followed.
    have calm : (fun _ => True) site.surroundings := trivial
    obtain ⟨reached, final, works, _, _, goesOn⟩ := member.step_working name observes.2
      (fun _ _ => trivial) calm leased
    cases works.symm.trans steps
    rcases goesOn with ⟨millis, rest, rfl, ends, _⟩ | ⟨reply, admitted, rfl⟩
    · exact ⟨observes.1, ends⟩
    · exact member.observes_judge name registered observes.1 _ admitted
  | waiting millis leased work =>
    cases move
    exact observes
  | confirming leased target payload now =>
    cases move with
    | yields _ _ => exact ⟨registered.cancelled _, observes.1⟩
    | confirms _ => exact observes.2
  | persisting leased result outcome => cases move <;> trivial
  | releasing leased =>
    cases move
    trivial
  | ended ending =>
    cases move
    trivial

/-- A handler replies what the lifecycle admits. -/
theorem Attempt.Observes.admits {leased : Entity S P} {reply : Reply S P}
    (observes : attempt.Observes life member origin) (handles : attempt.handled? = some leased)
    (replies : member.reply? site attempt = some reply) : life.Admits leased reply := by
  cases attempt with
  | working entity work =>
    cases handles
    have calm : (fun _ => True) site.surroundings := trivial
    have stops : work.Stops member.world (fun _ => True) (life.Admits leased)
        (work.drive member.world.onSite site).1 := (observes.2.drive calm).1
    unfold Member.reply? at replies
    dsimp only at replies
    split at replies
    · next result came =>
      cases replies
      rw [came] at stops
      cases stops with
      | finished right => exact right
    · cases replies
  | selected _ | waiting _ _ _ | confirming _ _ _ _ | persisting _ _ _ | releasing _ | ended _ =>
    cases replies

/-! ### Schedules -/

namespace Fleet

variable [DecidableEq ι] {fleet : Fleet ι ε S P Call Response} {id : String}
  {registry : Registry S P Call Response} {state : State ι ε S P Call Response}
  {action : Action ι ε S P}

/-- A trigger does not touch the payload of an entity, and moves it to the cancelled state at most. -/
theorem suits_of_trigger (outside : registry.Observes life) {operation : Operation S P}
    (trigger : operation.IsTriggerOf registry) (fits : life.fits stored.state stored.payload) :
    life.Suits stored.payload (operation.revise stored).state (operation.revise stored).payload := by
  obtain ⟨_, legal⟩ := Operation.legal_revise_of_isTriggerOf {} trigger stored
  generalize operation.revise stored = next at legal
  cases legal with
  | stops _ cancelled kept _ =>
    rw [cancelled, kept]
    exact ⟨outside.cancelled _, rfl⟩
  | stays same =>
    unfold Entity.SameButClaim at same
    rw [same]
    exact ⟨fits, rfl⟩

/-- An entity keeps its lifecycle, and so does every attempt on it. -/
structure State.Observes (fleet : Fleet ι ε S P Call Response) (life : Lifecycle S P) (id : String)
    (state : State ι ε S P Call Response) : Prop where
  fits : ∀ stored, state.site.memory.find? id = some stored →
    life.fits stored.state stored.payload
  attempts : ∀ {name number attempt subject}, state.attempt? name number = some attempt →
    attempt.subject? = some subject → subject.id = id →
    ∃ stored, state.site.memory.find? id = some stored ∧
      attempt.Observes life (fleet name) stored.payload

/-- **An action leaves an entity with what its payload has.** -/
theorem State.Observes.revised (observes : state.Observes fleet life id) (tidy : state.Tidy fleet)
    (outside : registry.Observes life) (trigger : action.IsTriggerOf registry)
    (found : state.site.memory.find? id = some stored) :
    ∃ next, (fleet.step state action).site.memory.find? id = some next ∧
      life.Suits stored.payload next.state next.payload := by
  have fits := observes.fits stored found
  obtain ⟨next, there, touch⟩ := (fleet.change_step state action).touches tidy found
  refine ⟨next, there, ?_⟩
  cases touch with
  | holds same =>
    rw [same.eq]
    exact ⟨fits, rfl⟩
  | calls operation => exact suits_of_trigger outside trigger fits
  | writes attempted written own =>
    obtain ⟨seen, isStored, suits⟩ :=
      observes.attempts attempted rfl (own.trans (Memory.id_of_find? found))
    obtain rfl : seen = stored := Option.some.inj (isStored.symm.trans found)
    obtain ⟨_, _, _, rfl⟩ := Memory.answer_update_eq_ok_iff.mp written
    exact suits

/-- An entity that was created fits the initial state. -/
theorem fits_of_created (outside : registry.Observes life) (trigger : action.IsTriggerOf registry)
    (absent : state.site.memory.find? id = none)
    (found : (fleet.step state action).site.memory.find? id = some stored) :
    life.fits stored.state stored.payload := by
  obtain ⟨created, _⟩ := (fleet.change_step state action).creates trigger absent
  obtain ⟨payload, _, _, rfl⟩ := created stored found
  exact outside.initial payload

/-- The attempt that makes a step does not lose what the payload of its entity has. -/
theorem State.Observes.attempts_proceed (observes : state.Observes fleet life id)
    (registered : (fleet name).registry.Observes life) {number : Nat} {subject : Entity S P}
    (there : (fleet.step state (.proceed name number)).attempt? name number = some next)
    (about : next.subject? = some subject) (sameId : subject.id = id) :
    ∃ stored, state.site.memory.find? id = some stored ∧
      next.Observes life (fleet name) stored.payload := by
  cases before : state.attempt? name number with
  | none =>
    rw [step_proceed_of_none before] at there
    exact observes.attempts there about sameId
  | some attempt =>
    rcases steps : ((fleet name).engine name).step (fleet name).world.onSite attempt state.site
      with ⟨reached, after⟩
    have made : (fleet name).Makes name state.site attempt (reached, after) :=
      steps ▸ Member.makes_step attempt
    obtain ⟨_, _, move, _⟩ := made
    rw [step_proceed before steps, State.attempt?_proceed before, if_pos ⟨rfl, rfl⟩] at there
    cases there
    obtain ⟨earlier, isSubject, same⟩ := move.subject about
    obtain ⟨stored, found, kept⟩ := observes.attempts before isSubject (same.symm.trans sameId)
    refine ⟨stored, found, kept.step registered (observes.fits stored found) ?_ steps⟩
    intro one isOne
    obtain rfl := Option.some.inj (isOne.symm.trans isSubject)
    rw [← same, sameId]
    exact found

/-- **An action leaves every attempt on an entity with what its payload has.** -/
theorem State.Observes.attempts_step (observes : state.Observes fleet life id)
    (registered : ∀ name, (fleet name).registry.Observes life) {number : Nat}
    {subject : Entity S P}
    (there : (fleet.step state action).attempt? name number = some next)
    (about : next.subject? = some subject) (sameId : subject.id = id) :
    ∃ stored, state.site.memory.find? id = some stored ∧
      next.Observes life (fleet name) stored.payload := by
  by_cases polls : action = .poll name
  · subst polls
    cases idle : state.isIdle name with
    | true =>
      rw [attempt?_step_poll idle] at there
      obtain ⟨candidate, chosen, rfl⟩ := Option.map_eq_some_iff.mp there
      cases about
      obtain ⟨found, _⟩ := mem_query_criteria (List.mem_of_getElem? chosen)
      exact ⟨subject, sameId ▸ found, trivial⟩
    | false =>
      rw [step_poll_of_busy idle] at there
      exact observes.attempts there about sameId
  by_cases proceeds : action = .proceed name number
  · subst proceeds
    exact observes.attempts_proceed (registered name) there about sameId
  · rw [attempt?_step_of_ne polls proceeds] at there
    exact observes.attempts there about sameId

/-- **An action keeps the lifecycle of an entity.** -/
theorem State.Observes.step (observes : state.Observes fleet life id) (tidy : state.Tidy fleet)
    (registered : ∀ name, (fleet name).registry.Observes life)
    (outside : registry.Observes life) (trigger : action.IsTriggerOf registry) :
    (fleet.step state action).Observes fleet life id where
  fits := by
    intro later found
    cases before : state.site.memory.find? id with
    | none => exact fits_of_created outside trigger before found
    | some stored =>
      obtain ⟨next, there, suits⟩ := observes.revised tidy outside trigger before
      obtain rfl : next = later := Option.some.inj (there.symm.trans found)
      exact suits.fits
  attempts := by
    intro name number attempt subject there about sameId
    obtain ⟨stored, found, kept⟩ := observes.attempts_step registered there about sameId
    obtain ⟨next, after, suits⟩ := observes.revised tidy outside trigger found
    exact ⟨next, after, kept.congr suits.core⟩

/-- **Every schedule keeps the lifecycle of an entity**, and the core of its payload. -/
theorem State.Observes.run (observes : state.Observes fleet life id) (tidy : state.Tidy fleet)
    (registered : ∀ name, (fleet name).registry.Observes life)
    (outside : registry.Observes life) {actions : List (Action ι ε S P)}
    (trigger : ∀ action ∈ actions, action.IsTriggerOf registry) :
    (fleet.run state actions).Observes fleet life id ∧
      ∀ stored, state.site.memory.find? id = some stored →
        ∃ last, (fleet.run state actions).site.memory.find? id = some last ∧
          life.core last.payload = life.core stored.payload := by
  induction actions generalizing state with
  | nil => exact ⟨observes, fun stored found => ⟨stored, found, rfl⟩⟩
  | cons action rest ih =>
    have now := trigger action List.mem_cons_self
    obtain ⟨kept, cores⟩ := ih (observes.step tidy registered outside now)
      (tidy.kept (fleet.change_step state action))
      fun other listed => trigger other (List.mem_cons_of_mem action listed)
    refine ⟨kept, fun stored found => ?_⟩
    obtain ⟨next, there, suits⟩ := observes.revised tidy outside now found
    obtain ⟨last, stands, same⟩ := cores next there
    exact ⟨last, stands, same.trans suits.core⟩

/-- A handler does not give up for a reason that is ruled out. -/
theorem State.Observes.not_ruledOut (observes : state.Observes fleet life id) {number : Nat}
    {leased : Entity S P} {reason : String} (handles : state.handled? name number = some leased)
    (sameId : leased.id = id)
    (replies : .decided (.fatal reason) ∈ fleet.replied name id state (.proceed name number)) :
    ¬life.ruledOut leased.state reason := by
  obtain ⟨attempt, there, working⟩ := Option.bind_eq_some_iff.mp handles
  have about := Attempt.subject?_of_leased? (Attempt.leased?_of_handled? working)
  have same : ∀ subject, attempt.subject? = some subject → subject.id = id := by
    intro subject isSubject
    obtain rfl := Option.some.inj (isSubject.symm.trans about)
    exact sameId
  rw [replied_proceed there same] at replies
  obtain ⟨_, _, kept⟩ := observes.attempts there about sameId
  exact kept.admits working (Option.mem_toList.mp replies)

/-- What a lifecycle promises of an entity at the end of a schedule. -/
structure Upholds (fleet : Fleet ι ε S P Call Response) (life : Lifecycle S P) (id : String)
    (start : State ι ε S P Call Response) (actions : List (Action ι ε S P)) : Prop where
  /-- The payload has what its state asks for. -/
  fits : ∀ stored, (fleet.run start actions).site.memory.find? id = some stored →
    life.fits stored.state stored.payload
  /-- The handler that goes on next does not give up for a reason that is ruled out. -/
  goesOn : ∀ name number leased reason,
    (fleet.run start actions).handled? name number = some leased → leased.id = id →
    .decided (.fatal reason) ∈
      fleet.replied name id (fleet.run start actions) (.proceed name number) →
    ¬life.ruledOut leased.state reason
  /-- The payload is what it ever was, but for what handlers added. -/
  core : ∀ earlier later stored, actions = earlier ++ later →
    (fleet.run start earlier).site.memory.find? id = some stored →
    ∃ last, (fleet.run start actions).site.memory.find? id = some last ∧
      life.core last.payload = life.core stored.payload

/-- **Every schedule upholds the lifecycle of an entity** that was not there at the start. -/
theorem lifecycle_run (registered : ∀ name, (fleet name).registry.Observes life)
    (outside : registry.Observes life) {memory : Memory S P} (surroundings : ε)
    (absent : memory.find? id = none) {actions : List (Action ι ε S P)}
    (trigger : ∀ action ∈ actions, action.IsTriggerOf registry) :
    fleet.Upholds life id (.start memory surroundings) actions := by
  have initially : (State.start memory surroundings :
      State ι ε S P Call Response).Observes fleet life id := by
    refine ⟨fun stored found => ?_, fun there => ?_⟩
    · exact absurd (absent.symm.trans found) nofun
    · cases there
  obtain ⟨observes, _⟩ :=
    initially.run (fleet.tidy_run memory surroundings []) registered outside trigger
  refine ⟨observes.fits, fun _ _ _ _ => observes.not_ruledOut, ?_⟩
  rintro earlier later stored rfl found
  obtain ⟨midway, _⟩ := initially.run (fleet.tidy_run memory surroundings []) registered outside
    fun action listed => trigger action (List.mem_append_left later listed)
  rw [run_append]
  exact (midway.run (fleet.tidy_run memory surroundings earlier) registered outside
    fun action listed => trigger action (List.mem_append_right earlier listed)).2 stored found

end Fleet

end Leasehold
