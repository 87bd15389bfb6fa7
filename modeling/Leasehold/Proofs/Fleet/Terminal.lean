/-
**Entities in terminal states.**

All engines work with one registry that was built from a draft, and the callers outside the fleet
are its triggers. An entity in a terminal state is left as it is: what was selected or leased while
it was in another state carries an older version, so it is not written any more.

* `Operation.revise_of_terminal`, `Touch.of_terminal`: nobody changes more than the lease and the
  version;
* `State.AtRest`, `atRest_run`: every attempt on the entity is older, or gives its lease up;
* `terminal_frozen`: what that means for the entity, for selections and for attempts.
-/

import Leasehold.Proofs.Fleet.Exclusion
import Leasehold.Proofs.Fleet.Path
import Leasehold.Proofs.Fleet.Record
import Leasehold.Proofs.Fleet.Touch

set_option linter.unusedSectionVars false

namespace Leasehold

variable {ι ε S P Call : Type} {Response : Call → Type} [DecidableEq S] [ProcessState S]

/-! ### One action -/

/-- A trigger leaves an entity in a terminal state alone. -/
theorem Operation.revise_of_terminal {registry : Registry S P Call Response}
    {operation : Operation S P} (trigger : operation.IsTriggerOf registry) {stored : Entity S P}
    (terminal : registry.isTerminal stored.state = true) : operation.revise stored = stored := by
  have listed : registry.terminalStates.contains stored.state = true := by
    rw [Registry.contains_terminalStates]
    exact terminal
  cases operation with
  | find _ | query _ | create _ => rfl
  | cancelIfFree id cancelled states now =>
    obtain ⟨rfl, rfl⟩ := trigger
    have ineffective : (cancelIfFree id registry.cancelled registry.terminalStates now :
        Operation S P).takesEffect stored = false := by
      show (decide _ && (!registry.terminalStates.contains stored.state && _)) = false
      rw [listed, Bool.not_true, Bool.false_and, Bool.and_false]
    unfold revise
    rw [if_neg (by simp [ineffective])]
    rfl
  | requestCancel id states =>
    obtain rfl := trigger
    have unmarked : (requestCancel id registry.terminalStates : Operation S P).marks stored =
        false := by
      show (decide _ && !registry.terminalStates.contains stored.state) = false
      rw [listed, Bool.not_true, Bool.and_false]
    unfold revise
    rw [unmarked]
    rfl
  | update _ | lease _ _ _ _ | renew _ _ _ _ | release _ _ | releaseAll _ => cases trigger

namespace Fleet

variable [DecidableEq ι] {fleet : Fleet ι ε S P Call Response} {memory : Memory S P}
  {registry : Registry S P Call Response} {state after : State ι ε S P Call Response}
  {action : Action ι ε S P} {stored : Entity S P}

/-- An attempt with a claim on an entity in a terminal state was leased in an older version, or lets
the entity go. -/
theorem State.Honest.stale_of_terminal (honest : state.Honest fleet memory)
    (due : state.Due fleet) (sound : registry.IsSound)
    (shared : ∀ name, (fleet name).registry = registry) {name : ι} {number : Nat}
    {attempt : Attempt S P Call Response} {leased : Entity S P}
    (there : state.attempt? name number = some attempt) (claimed : attempt.leased? = some leased)
    (found : state.site.memory.find? leased.id = some stored)
    (terminal : registry.isTerminal stored.state = true) :
    attempt = .releasing leased ∨ leased.version < stored.version := by
  have held : state.claim? name number = some leased := by
    unfold State.claim?
    rw [there]
    exact claimed
  obtain ⟨past, now, since, claim⟩ := honest.recorded held
  obtain ⟨met, isMet, follows⟩ := claim.stored
  rw [← honest.replayed, found] at isMet
  obtain rfl := Option.some.inj isMet
  -- With the version of the claim the entity would be in the handled state that was leased.
  have newer : leased.state ∈ registry.handledStates → leased.version < stored.version := by
    intro handled
    refine Int.lt_iff_le_and_ne.mpr ⟨follows.version, fun same => ?_⟩
    have sameState : stored.state = leased.state := by rw [(follows.same same).eq]
    rw [sameState, sound.handled handled] at terminal
    cases terminal
  have isDue := due name number attempt there
  cases attempt with
  | selected _ | ended _ => cases claimed
  | releasing _ =>
    cases claimed
    exact .inl rfl
  | working _ _ | waiting _ _ _ | confirming _ _ _ _ | persisting _ _ _ =>
    cases claimed
    rw [Attempt.IsDue, shared name] at isDue
    exact .inr (newer isDue)

/-- An attempt that has just leased an entity in a terminal state lets it go. -/
theorem State.Honest.releases_of_leased (honest : state.Honest fleet memory)
    (due : state.Due fleet) (sound : registry.IsSound)
    (shared : ∀ name, (fleet name).registry = registry) {name : ι} {number : Nat}
    {attempt : Attempt S P Call Response} {leased : Entity S P}
    (there : state.attempt? name number = some attempt) (claimed : attempt.leased? = some leased)
    (found : state.site.memory.find? leased.id = some leased)
    (terminal : registry.isTerminal leased.state = true) : attempt = .releasing leased := by
  rcases honest.stale_of_terminal due sound shared there claimed found terminal with lets | older
  · exact lets
  · exact absurd older (Int.lt_irrefl _)

/-- **An action changes no more than the lease and the version** of an entity in a terminal
state. -/
theorem Touch.of_terminal {next : Entity S P} (touch : Touch state stored action next)
    (trigger : action.IsTriggerOf registry) (honest : state.Honest fleet memory)
    (due : state.Due fleet) (sound : registry.IsSound)
    (shared : ∀ name, (fleet name).registry = registry)
    (found : state.site.memory.find? stored.id = some stored)
    (terminal : registry.isTerminal stored.state = true) : stored.SameButLease next := by
  cases touch with
  | holds same => exact same
  | calls operation =>
    rw [Operation.revise_of_terminal trigger terminal]
    exact .refl stored
  | @writes name number leased result saved outcome there written own =>
    obtain ⟨sameId, sameVersion, _⟩ := (honest.tidy.warranted there).keeps
    obtain ⟨met, isMet, metVersion, _⟩ := Memory.answer_update_eq_ok_iff.mp written
    have atWrite : state.site.memory.find? stored.id = some met := by
      rw [← own, ← sameId]
      exact isMet
    obtain rfl : met = stored := Option.some.inj (atWrite.symm.trans found)
    rcases honest.stale_of_terminal due sound shared there rfl (own ▸ found) terminal with
      lets | older
    · cases lets
    · rw [metVersion, sameVersion] at older
      exact absurd older (Int.lt_irrefl _)

/-! ### Schedules -/

/-- An entity that was seen in a terminal state is as it was, up to the lease and the version, and
the attempts on it were leased before, or let it go. -/
structure State.AtRest (state : State ι ε S P Call Response) (seen : Entity S P) : Prop where
  held : ∃ last, state.site.memory.find? seen.id = some last ∧ seen.SameButLease last
  stale : ∀ {name number attempt leased}, state.attempt? name number = some attempt →
    attempt.leased? = some leased → leased.id = seen.id →
      attempt = .releasing leased ∨ leased.version ≤ seen.version

/-- An action keeps an entity in a terminal state at rest. -/
theorem State.AtRest.kept {seen : Entity S P} (atRest : state.AtRest seen)
    (change : fleet.Change state action after) (trigger : action.IsTriggerOf registry)
    (honest : state.Honest fleet memory) (due : state.Due fleet) (sound : registry.IsSound)
    (shared : ∀ name, (fleet name).registry = registry)
    (terminal : registry.isTerminal seen.state = true) : after.AtRest seen := by
  obtain ⟨last, found, same⟩ := atRest.held
  obtain ⟨next, there, touch⟩ := change.touches honest.tidy found
  have lastTerminal : registry.isTerminal last.state = true := by
    rw [same.state]
    exact terminal
  have stays : last.SameButLease next := by
    refine touch.of_terminal trigger honest due sound shared ?_ lastTerminal
    rw [same.id]
    exact found
  have laterHonest := honest.kept change
  have laterDue := due.kept change
  refine ⟨⟨next, there, same.trans stays⟩, ?_⟩
  intro name number attempt leased reached claimed sameId
  cases change with
  | rests | calls | stops => exact atRest.stale reached claimed sameId
  | polls finished selects performed =>
    rw [State.attempt?_poll] at reached
    split at reached
    · obtain ⟨candidate, _, rfl⟩ := Option.map_eq_some_iff.mp reached
      cases claimed
    · exact atRest.stale reached claimed sameId
  | @proceeds moved place earlier later operation transitions site reachedBefore move performed =>
    have atAttempt := reached
    rw [State.attempt?_proceed reachedBefore] at reached
    split at reached
    · next here =>
      obtain ⟨rfl, rfl⟩ := here
      cases reached
      cases move with
      | refused | persists | overtaken | releases | rests => cases claimed
      | withdraws =>
        cases claimed
        exact .inl rfl
      | waits | succeeds | concludes | resumes | yields | confirms =>
        cases claimed
        rcases atRest.stale reachedBefore rfl sameId with lets | older
        · cases lets
        · exact .inr older
      | cancels _ taken | begins taken =>
        -- The entity is stored as it was leased, so the claim would be older than itself.
        cases claimed
        have stored : site.memory.find? leased.id = some leased := by
          rw [performed.memory, Member.id_of_leased taken]
          exact Memory.find?_after_lease taken
        have isNext : next = leased := by
          rw [sameId] at stored
          exact Option.some.inj (there.symm.trans stored)
        have leasedTerminal : registry.isTerminal leased.state = true := by
          rw [← isNext, stays.state]
          exact lastTerminal
        cases laterHonest.releases_of_leased laterDue sound shared atAttempt rfl stored
          leasedTerminal
    · exact atRest.stale reached claimed sameId

/-- **Every schedule keeps an entity in a terminal state at rest.** -/
theorem atRest_run (sound : registry.IsSound) (shared : ∀ name, (fleet name).registry = registry)
    {seen : Entity S P} (honest : state.Honest fleet memory) (due : state.Due fleet)
    (found : state.site.memory.find? seen.id = some seen)
    (terminal : registry.isTerminal seen.state = true) {actions : List (Action ι ε S P)}
    (trigger : ∀ action ∈ actions, action.IsTriggerOf registry) :
    (fleet.run state actions).AtRest seen := by
  have initially : state.AtRest seen := by
    refine ⟨⟨seen, found, .refl seen⟩, fun there claimed sameId => ?_⟩
    rw [← sameId] at found
    rcases honest.stale_of_terminal due sound shared there claimed found terminal with
      lets | older
    · exact .inl lets
    · exact .inr (Int.le_of_lt older)
  exact (fleet.run_keeps
    (fun state => (state.Honest fleet memory ∧ state.Due fleet) ∧ state.AtRest seen)
    (fun action => action.IsTriggerOf registry) ⟨⟨honest, due⟩, initially⟩
    (fun trigger kept change => ⟨⟨kept.1.1.kept change, kept.1.2.kept change⟩,
      kept.2.kept change trigger kept.1.1 kept.1.2 sound shared terminal⟩) trigger).2

/-- A selection leaves out the entities in terminal states. -/
theorem ne_of_selected (sound : registry.IsSound)
    (shared : ∀ name, (fleet name).registry = registry) {seen last candidate : Entity S P}
    {name : ι} {now : Instant} (found : state.site.memory.find? seen.id = some last)
    (terminal : registry.isTerminal last.state = true)
    (selected : candidate ∈ state.site.memory.query (((fleet name).engine name).criteria now)) :
    candidate.id ≠ seen.id := by
  intro sameId
  obtain ⟨isCandidate, handled⟩ := mem_query_criteria selected
  rw [sameId, found] at isCandidate
  obtain rfl := Option.some.inj isCandidate
  have handled : last.state ∈ (fleet name).registry.handledStates := handled
  rw [shared name] at handled
  rw [sound.handled handled] at terminal
  cases terminal

/-- An attempt on an entity at rest that is only selected leases it to let it go, or is refused. -/
theorem State.AtRest.proceed_of_selected {seen candidate : Entity S P}
    (atRest : state.AtRest seen) (honest : state.Honest fleet memory) (due : state.Due fleet)
    (sound : registry.IsSound) (shared : ∀ name, (fleet name).registry = registry)
    (terminal : registry.isTerminal seen.state = true) {name : ι} {number : Nat}
    (selected : state.attempt? name number = some (.selected candidate))
    (sameId : candidate.id = seen.id) :
    let after := fleet.step state (.proceed name number)
    ∃ next now, after.attempt? name number = some next ∧
      after.site.deeds = state.site.deeds ++ [⟨some name, .lease seen.id (fleet name).holder
        (fleet name).config.leaseDuration now⟩] ∧
      ((∃ ending, next = .ended ending) ∨ ∃ leased, next = .releasing leased ∧
        leased.id = seen.id) := by
  intro after
  obtain ⟨last, found, same⟩ := atRest.held
  have change := fleet.change_step state (.proceed name number)
  obtain ⟨operation, transitions, next, move, there, performed⟩ :=
    fleet.move_proceed selected
  have taken : ∀ {now : Instant} {leased : Entity S P}, next.leased? = some leased →
      state.site.memory.answer (.lease candidate.id (fleet name).holder
        (fleet name).config.leaseDuration now) = .ok leased →
      state.site.Extends after.site [⟨some name, .lease candidate.id (fleet name).holder
        (fleet name).config.leaseDuration now⟩] [] →
      next = .releasing leased ∧ leased.id = seen.id := by
    intro now leased claimed answered extended
    have isLeased := Member.id_of_leased answered
    have stored : after.site.memory.find? leased.id = some leased := by
      rw [extended.memory, isLeased]
      exact Memory.find?_after_lease answered
    obtain ⟨met, isMet, _, rfl⟩ := Memory.answer_lease_eq_ok_iff.mp answered
    rw [sameId, found] at isMet
    obtain rfl := Option.some.inj isMet
    refine ⟨?_, isLeased.trans sameId⟩
    refine (honest.kept change).releases_of_leased (due.kept change) sound shared there claimed
      stored ?_
    show registry.isTerminal last.state = true
    rw [same.state]
    exact terminal
  cases move with
  | refused ending denied =>
    exact ⟨_, _, there, by rw [← sameId]; exact performed.deeds, .inl ⟨ending, rfl⟩⟩
  | withdraws answered | cancels _ answered | begins answered =>
    exact ⟨_, _, there, by rw [← sameId]; exact performed.deeds,
      .inr ⟨_, taken rfl answered performed⟩⟩

/-- An attempt that lets its entity go gives up the lease, and ends. -/
theorem proceed_of_releasing {leased : Entity S P} {name : ι} {number : Nat}
    (releasing : state.attempt? name number = some (.releasing leased)) :
    let after := fleet.step state (.proceed name number)
    after.attempt? name number = some (.ended .abandoned) ∧
      after.site.deeds = state.site.deeds ++
        [⟨some name, .release leased.id (fleet name).holder⟩] := by
  obtain ⟨operation, transitions, next, move, there, performed⟩ :=
    fleet.move_proceed releasing
  cases move with
  | releases => exact ⟨there, performed.deeds⟩

/-- **Entities in terminal states are frozen.** Once an entity is in a terminal state, it stays as it
is, up to the lease and the version, whatever follows. No engine selects it, and every handler that
works on it was given it under a lease from before. An attempt on it that is only selected makes one
call for the lease, and with the lease one call to give it up. -/
theorem terminal_frozen {draft : Draft S P Call Response} {registry : Registry S P Call Response}
    (built : draft.build = .ok registry) (fleet : Fleet ι ε S P Call Response)
    (shared : ∀ name, (fleet name).registry = registry) (memory : Memory S P) (surroundings : ε)
    (earlier later : List (Action ι ε S P))
    (trigger : ∀ action ∈ earlier ++ later, action.IsTriggerOf registry) (seen : Entity S P)
    (found : (fleet.run (.start memory surroundings) earlier).site.memory.find? seen.id =
      some seen) (terminal : registry.isTerminal seen.state = true) :
    let past := (fleet.run (.start memory surroundings) earlier).site.deeds
    let state := fleet.run (.start memory surroundings) (earlier ++ later)
    (∃ last, state.site.memory.find? seen.id = some last ∧ seen.SameButLease last) ∧
    (∀ name now, ∀ candidate ∈ state.site.memory.query (((fleet name).engine name).criteria now),
      candidate.id ≠ seen.id) ∧
    (∀ name number leased, state.handled? name number = some leased → leased.id = seen.id →
      fleet.Leased memory past name leased) ∧
    (∀ name number candidate, state.attempt? name number = some (.selected candidate) →
      candidate.id = seen.id →
        let after := fleet.step state (.proceed name number)
        ∃ next now, after.attempt? name number = some next ∧
          after.site.deeds = state.site.deeds ++ [⟨some name, .lease seen.id (fleet name).holder
            (fleet name).config.leaseDuration now⟩] ∧
          ((∃ ending, next = .ended ending) ∨ ∃ leased, next = .releasing leased ∧
            leased.id = seen.id)) ∧
    (∀ name number leased, state.attempt? name number = some (.releasing leased) →
      let after := fleet.step state (.proceed name number)
      after.attempt? name number = some (.ended .abandoned) ∧
        after.site.deeds = state.site.deeds ++
          [⟨some name, .release leased.id (fleet name).holder⟩]) := by
  intro past state
  have sound := Draft.isSound_of_build built
  have honest := fleet.honest_run memory surroundings (earlier ++ later)
  have due := fleet.due_run memory surroundings (earlier ++ later)
  have atRest : state.AtRest seen := by
    show (fleet.run _ (earlier ++ later)).AtRest seen
    rw [run_append]
    exact atRest_run sound shared (fleet.honest_run memory surroundings earlier)
      (fleet.due_run memory surroundings earlier) found terminal
      fun action member => trigger action (List.mem_append_right earlier member)
  refine ⟨atRest.held, ?_, ?_, ?_, ?_⟩
  · intro name now candidate selected
    obtain ⟨last, isLast, same⟩ := atRest.held
    refine ne_of_selected sound shared isLast ?_ selected
    rw [same.state]
    exact terminal
  · intro name number leased works sameId
    obtain ⟨attempt, there, works⟩ := Option.bind_eq_some_iff.mp works
    have claimed := Attempt.leased?_of_handled? works
    obtain ⟨_, _, _, claim⟩ :=
      honest.recorded (Option.bind_eq_some_iff.mpr ⟨attempt, there, claimed⟩)
    have order : past <+: state.site.deeds := by
      show _ <+: (fleet.run _ (earlier ++ later)).site.deeds
      rw [run_append]
      exact deeds_prefix_run _ later
    rw [fleet.memory_run, ← sameId] at found
    refine claim.leased_of_le order found ?_
    rcases atRest.stale there claimed sameId with rfl | older
    · cases works
    · exact older
  · intro name number candidate selected sameId
    exact atRest.proceed_of_selected honest due sound shared terminal selected sameId
  · intro name number leased releasing
    exact proceed_of_releasing releasing

/-! ### A list that was cancelled before it was leased -/

section Overtaken

open Credential StatusList

/-- A publisher selects a list, and then the list is cancelled. -/
def overtakenSchedule : List (Action String Instant StatusList.State Publication) :=
  [.call (.create unsigned), .poll "a",
    .call (.cancelIfFree "list" .cancelled StatusList.registry.terminalStates (atMillis 1000))]

/-- The list after its cancellation. -/
def overtaken : Entity StatusList.State Publication :=
  { unsigned with
    state := .cancelled
    stateTimestamp := atMillis 1000
    updatedAt := atMillis 1000
    version := 1 }

theorem overtakenSchedule_trigger :
    ∀ action ∈ overtakenSchedule ++ [.proceed "a" 0], action.IsTriggerOf StatusList.registry := by
  intro action member
  simp only [overtakenSchedule, List.cons_append, List.nil_append, List.mem_cons,
    List.not_mem_nil, or_false] at member
  rcases member with rfl | rfl | rfl | rfl
  · exact ⟨"list", _, _, _, rfl⟩
  · trivial
  · exact ⟨rfl, rfl⟩
  · trivial

/-- The publisher leases the cancelled list, and can only give the lease up again. -/
theorem terminal_frozen_overtaken :
    let state := busyPublishers.run (.start .empty (atMillis 1000))
      (overtakenSchedule ++ [.proceed "a" 0])
    (∃ last, state.site.memory.find? "list" = some last ∧ overtaken.SameButLease last ∧
        last.lease = some ⟨"a", atMillis 1100⟩) ∧
      (busyPublishers.step state (.proceed "a" 0)).attempt? "a" 0 = some (.ended .abandoned) := by
  intro state
  have found : (busyPublishers.run (.start .empty (atMillis 1000))
      overtakenSchedule).site.memory.find? overtaken.id = some overtaken := by
    unfold overtakenSchedule
    rw [run_selectedBy, terminalStates_registry]
    rfl
  have reached : state = busyPublishers.run (selectedBy (fun _ => (0, .transient "busy")) "a")
      [.call (.cancelIfFree "list" .cancelled [.published, .failed, .cancelled] (atMillis 1000)),
        .proceed "a" 0] := by
    rw [← terminalStates_registry]
    exact run_selectedBy _ "a" _
  have leased : state.site.memory.find? "list" = some { overtaken with
      lease := some ⟨"a", atMillis 1100⟩
      version := 2 } := by
    rw [reached]
    rfl
  have releasing : state.attempt? "a" 0 = some (.releasing { overtaken with
      lease := some ⟨"a", atMillis 1100⟩
      version := 2 }) := by
    rw [reached]
    rfl
  obtain ⟨⟨last, isLast, same⟩, _, _, _, gives⟩ := terminal_frozen StatusList.build_draft
    busyPublishers (fun _ => rfl) .empty (atMillis 1000) overtakenSchedule [.proceed "a" 0]
    overtakenSchedule_trigger overtaken found rfl
  refine ⟨⟨last, isLast, same, ?_⟩, (gives "a" 0 _ releasing).1⟩
  obtain rfl := Option.some.inj (isLast.symm.trans leased)
  rfl

end Overtaken

end Fleet

end Leasehold
