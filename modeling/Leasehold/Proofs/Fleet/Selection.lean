/-
**What a handler is given was due.**

Whether an entity is due is only asked when a poll selects it. From then on its version stands for
it: an attempt goes on to the handler only if nobody else wrote the entity between the selection and
the lease.

* `State.selection`: what a poll of a member selects;
* `LastPoll`: the last poll that a member made in a schedule;
* `Attempt.IsAbout`: an attempt works on an entity as it was selected;
* `exists_lastPoll`: every attempt works on what the last poll of its member selected;
* `handled_was_due`: so every handler is given an entity that was due at this poll.

Nothing is assumed of the callers outside the fleet.
-/

import Leasehold.Proofs.Entity.Retry
import Leasehold.Proofs.Fleet.Exclusion
import Leasehold.Proofs.Fleet.Touch

set_option linter.unusedSectionVars false

namespace Leasehold

variable {ι ε S P Call : Type} {Response : Call → Type} [DecidableEq S] [ProcessState S]

/-! ### Attempts and candidates -/

namespace Attempt

/-- The attempt works on a candidate as it was selected: it has not leased it yet, or its handler
was given the candidate, up to the lease and the version. -/
def IsAbout (candidate : Entity S P) (memory : Memory S P) : Attempt S P Call Response → Prop
  | .selected chosen => chosen = candidate ∧
      ∃ stored, memory.find? candidate.id = some stored ∧ candidate.Precedes stored
  | .working leased _ | .waiting _ leased _ =>
      candidate.SameButLease leased ∧ candidate.cancelRequested = false
  | .confirming _ _ _ _ | .persisting _ _ _ | .releasing _ | .ended _ => True

variable {candidate : Entity S P} {memory : Memory S P} {attempt : Attempt S P Call Response}

/-- An attempt stays with its candidate while others act. -/
theorem IsAbout.replay (about : attempt.IsAbout candidate memory)
    (operations : List (Operation S P)) : attempt.IsAbout candidate (memory.replay operations) := by
  cases attempt with
  | selected chosen =>
    obtain ⟨chosenIs, stored, found, follows⟩ := about
    obtain ⟨later, there, after⟩ := Memory.find?_replay found operations
    exact ⟨chosenIs, later, there, follows.trans after⟩
  | working _ _ | waiting _ _ _ => exact about
  | confirming _ _ _ _ | persisting _ _ _ | releasing _ | ended _ => trivial

end Attempt

/-- What was leased with the next version and without a request is as it was selected. -/
theorem sameButLease_of_leased {candidate leased : Entity S P} {memory : Memory S P}
    {holder : String} {duration : Duration} {now : Instant}
    (present : ∃ stored, memory.find? candidate.id = some stored ∧ candidate.Precedes stored)
    (claimed : memory.answer (.lease candidate.id holder duration now) = .ok leased)
    (unchanged : leased.version = candidate.version + 1)
    (notAsked : leased.cancelRequested = false) :
    candidate.SameButLease leased ∧ candidate.cancelRequested = false := by
  obtain ⟨stored, follows, same, leases⟩ := Memory.exists_stored_of_lease present claimed unchanged
  have quiet : stored.cancelRequested = false := by
    rw [leases.eq] at notAsked
    exact notAsked
  have before : candidate.cancelRequested = false :=
    Bool.eq_false_iff.mpr fun asked => Bool.eq_false_iff.mp quiet (follows.request asked)
  have unmarked : stored = candidate := by
    rw [same.eq, quiet, ← before]
  rw [unmarked] at leases
  exact ⟨leases, before⟩

/-- A step stays with the candidate. -/
theorem Member.Move.about {member : Member ε S P Call Response} {memory : Memory S P}
    {attempt next : Attempt S P Call Response} {operation : Option (Operation S P)}
    {transitions : List Transition} {candidate : Entity S P}
    (move : member.Move memory attempt operation transitions next)
    (about : attempt.IsAbout candidate memory) : next.IsAbout candidate memory := by
  cases move with
  | begins claimed unchanged notAsked handled =>
    obtain ⟨rfl, present⟩ := about
    exact sameButLease_of_leased present claimed unchanged notAsked
  | waits | resumes => exact about
  | refused | withdraws | cancels | succeeds | concludes | yields | confirms | persists | overtaken
  | releases | rests => trivial

namespace Fleet

variable [DecidableEq ι] (fleet : Fleet ι ε S P Call Response)

/-! ### Polls -/

/-- Whether the last batch of a member is over. -/
def State.isIdle (state : State ι ε S P Call Response) (name : ι) : Bool :=
  (state.batches name).all (·.isOver)

/-- What a poll of a member selects. -/
def State.selection (state : State ι ε S P Call Response) (name : ι) : List (Entity S P) :=
  state.site.memory.query
    (((fleet name).engine name).criteria ((fleet name).world.now state.site.surroundings))

/-- A member makes its last poll after some actions, and none in those that come later. -/
structure LastPoll (start : State ι ε S P Call Response) (name : ι)
    (earlier later : List (Action ι ε S P)) : Prop where
  made : (fleet.run start earlier).isIdle name = true
  last : ∀ between rest, later = between ++ .poll name :: rest →
    (fleet.run start (earlier ++ .poll name :: between)).isIdle name = false

variable {fleet} {start state : State ι ε S P Call Response} {name : ι} {number : Nat}

/-- One more action, which is no poll of the member. -/
theorem LastPoll.concat {earlier later : List (Action ι ε S P)} {action : Action ι ε S P}
    (poll : fleet.LastPoll start name earlier later)
    (none : action = .poll name →
      (fleet.run start (earlier ++ .poll name :: later)).isIdle name = false) :
    fleet.LastPoll start name earlier (later ++ [action]) where
  made := poll.made
  last := by
    intro between rest split
    rcases List.eq_nil_or_concat rest with rfl | ⟨rest, final, rfl⟩
    · obtain ⟨rfl, same⟩ := List.append_inj' split rfl
      exact none (List.singleton_inj.mp same)
    · rw [List.concat_eq_append, ← List.cons_append, ← List.append_assoc] at split
      exact poll.last between rest (List.append_inj' split rfl).1

/-- A member without work polls. -/
theorem step_poll (idle : state.isIdle name = true) :
    fleet.step state (.poll name) =
      ⟨(Site.perform (some name) (fleet name).elapse (.query (((fleet name).engine name).criteria
          ((fleet name).world.now state.site.surroundings))) state.site).2,
        Function.update state.batches name ((state.selection fleet name).map .selected)⟩ := by
  have finished : (state.batches name).all (·.isOver) = true := idle
  simp only [step, finished, if_true]
  rfl

/-- A member at work does not poll. -/
theorem step_poll_of_busy (busy : state.isIdle name = false) :
    fleet.step state (.poll name) = state := by
  have working : ¬(state.batches name).all (·.isOver) = true := Bool.eq_false_iff.mp busy
  simp only [step, if_neg working]

/-- The attempts of a member after it made a poll. -/
theorem attempt?_step_poll (idle : state.isIdle name = true) :
    (fleet.step state (.poll name)).attempt? name number =
      (state.selection fleet name)[number]?.map .selected := by
  have finished : (state.batches name).all (·.isOver) = true := idle
  simp only [step]
  rw [if_pos finished]
  exact (State.attempt?_poll _ _ name number).trans (if_pos rfl)

/-- An action that is no poll of a member leads its attempts on, each with its candidate. -/
theorem exists_attempt_before {action : Action ι ε S P} {next : Attempt S P Call Response}
    (none : action = .poll name → state.isIdle name = false)
    (there : (fleet.step state action).attempt? name number = some next) :
    ∃ attempt, state.attempt? name number = some attempt ∧
      ∀ candidate, attempt.IsAbout candidate state.site.memory →
        next.IsAbout candidate (fleet.step state action).site.memory := by
  have change := fleet.change_step state action
  generalize fleet.step state action = after at change there
  obtain ⟨_, _, extended⟩ := change.extended
  have stays : state.attempt? name number = some next →
      ∃ attempt, state.attempt? name number = some attempt ∧
        ∀ candidate, attempt.IsAbout candidate state.site.memory →
          next.IsAbout candidate after.site.memory := by
    refine fun before => ⟨next, before, fun candidate about => ?_⟩
    rw [extended.memory]
    exact about.replay _
  cases change with
  | rests | calls | stops => exact stays there
  | @polls other _ _ finished =>
    rw [State.attempt?_poll] at there
    split at there
    · next same =>
      subst same
      exact absurd finished (Bool.eq_false_iff.mp (none rfl))
    · exact stays there
  | @proceeds _ _ attempt _ operation _ _ reached move performed =>
    rw [State.attempt?_proceed reached] at there
    split at there
    · next here =>
      obtain ⟨rfl, rfl⟩ := here
      cases there
      refine ⟨attempt, reached, fun candidate about => ?_⟩
      rw [extended.memory]
      exact (move.about about).replay _
    · exact stays there

/-- **Every attempt works on what the last poll of its member selected**, under the same number. -/
theorem exists_lastPoll (fresh : start.batches name = []) {actions : List (Action ι ε S P)}
    {attempt : Attempt S P Call Response}
    (there : (fleet.run start actions).attempt? name number = some attempt) :
    ∃ earlier later candidate, actions = earlier ++ .poll name :: later ∧
      fleet.LastPoll start name earlier later ∧
      ((fleet.run start earlier).selection fleet name)[number]? = some candidate ∧
      attempt.IsAbout candidate (fleet.run start actions).site.memory := by
  induction actions using List.reverseRecOn generalizing attempt with
  | nil =>
    have nothing : (start.batches name)[number]? = some attempt := there
    rw [fresh] at nothing
    cases nothing
  | append_singleton actions action ih =>
    rw [run_concat] at there ⊢
    by_cases polls : action = .poll name ∧ (fleet.run start actions).isIdle name = true
    · obtain ⟨rfl, idle⟩ := polls
      rw [attempt?_step_poll idle] at there
      obtain ⟨candidate, chosen, rfl⟩ := Option.map_eq_some_iff.mp there
      refine ⟨actions, [], candidate, rfl, ⟨idle, fun between rest split => ?_⟩, chosen, rfl, ?_⟩
      · exact absurd split.symm (List.append_ne_nil_of_right_ne_nil _ (List.cons_ne_nil _ _))
      · obtain ⟨found, _⟩ := mem_query_criteria (List.mem_of_getElem? chosen)
        obtain ⟨_, _, extended⟩ := (fleet.change_step (fleet.run start actions)
          (.poll name)).extended
        rw [extended.memory]
        exact Memory.find?_replay found _
    · have none : action = .poll name → (fleet.run start actions).isIdle name = false :=
        fun poll => Bool.eq_false_iff.mpr fun idle => polls ⟨poll, idle⟩
      obtain ⟨before, reached, leads⟩ := exists_attempt_before none there
      obtain ⟨earlier, later, candidate, rfl, poll, chosen, about⟩ := ih reached
      refine ⟨earlier, later ++ [action], candidate, ?_, poll.concat none, chosen,
        leads candidate about⟩
      rw [List.append_assoc, List.cons_append]

/-! ### Handlers -/

/-- **No handler runs early, and none on an entity that was changed.** A handler at work belongs to
the last poll of its member. When this poll made its selection, the entity was stored as the handler
got it, up to the lease and the version; its state was handled and not terminal, nobody held it, no
cancellation was asked for, and its delay was over. -/
theorem handled_was_due {draft : Draft S P Call Response} {registry : Registry S P Call Response}
    (built : draft.build = .ok registry) (fleet : Fleet ι ε S P Call Response)
    (shared : ∀ name, (fleet name).registry = registry)
    (delayed : ∀ name, (fleet name).config.retry.baseDelay.isZero = false) (memory : Memory S P)
    (surroundings : ε) (actions : List (Action ι ε S P)) (name : ι) (number : Nat)
    (leased : Entity S P)
    (works : (fleet.run (.start memory surroundings) actions).handled? name number =
      some leased) :
    ∃ earlier later candidate, actions = earlier ++ .poll name :: later ∧
      fleet.LastPoll (.start memory surroundings) name earlier later ∧
      let state := fleet.run (.start memory surroundings) earlier
      let now := (fleet name).world.now state.site.surroundings
      (state.selection fleet name)[number]? = some candidate ∧
        state.site.memory.find? candidate.id = some candidate ∧
        candidate.SameButLease leased ∧
        candidate.state ∈ registry.handledStates ∧
        registry.isTerminal candidate.state = false ∧
        candidate.isLeasedAt now = false ∧
        candidate.cancelRequested = false ∧
        (Instant.first < candidate.stateTimestamp →
          candidate.stateTimestamp.nanos +
              ((fleet name).config.retry.delayFor candidate.stateCount).nanos ≤ now.nanos) := by
  obtain ⟨attempt, there, works⟩ := Option.bind_eq_some_iff.mp works
  obtain ⟨earlier, later, candidate, split, poll, chosen, about⟩ := exists_lastPoll rfl there
  have sound := Draft.isSound_of_build built
  have selected := List.mem_of_getElem? chosen
  obtain ⟨handled, free, due⟩ := matchesEntity_criteria_iff.mp (Memory.mem_query selected).2
  have handled : candidate.state ∈ (fleet name).registry.handledStates := handled
  rw [shared name] at handled
  have asSelected : candidate.SameButLease leased ∧ candidate.cancelRequested = false := by
    cases attempt with
    | working _ _ | waiting _ _ _ =>
      cases works
      exact about
    | selected _ | confirming _ _ _ _ | persisting _ _ _ | releasing _ | ended _ => cases works
  exact ⟨earlier, later, candidate, split, poll, chosen, (mem_query_criteria selected).1,
    asSelected.1, handled, sound.handled handled, free, asSelected.2,
    fun inside => RetryPolicy.due_of_admits _ (delayed name) inside due⟩

/-! ### A list that waits to be signed -/

section Waiting

open Credential StatusList

/-- A publisher works on the first list, which was due when it was selected. -/
theorem handled_was_due_unsigned :
    let actions := [.call (.create unsigned), .poll "a", .proceed "a" 0]
    (slowPublishers.run (.start .empty (atMillis 1000)) actions).handled? "a" 0 =
        some lateFirst ∧
      ∃ earlier later, actions = earlier ++ .poll "a" :: later ∧
        slowPublishers.LastPoll (.start .empty (atMillis 1000)) "a" earlier later ∧
        unsigned.stateTimestamp.nanos + (({} : RetryPolicy).delayFor 0).nanos ≤
          (slowPublishers.run (.start .empty (atMillis 1000)) earlier).site.surroundings.nanos := by
  intro actions
  have works : (slowPublishers.run (.start .empty (atMillis 1000)) actions).handled? "a" 0 =
      some lateFirst := by
    rw [run_selectedBy _ "a" [.proceed "a" 0]]
    rfl
  obtain ⟨earlier, later, candidate, split, poll, _, _, same, _, _, _, _, due⟩ :=
    handled_was_due StatusList.build_draft slowPublishers (fun _ => rfl) (fun _ => rfl) .empty
      (atMillis 1000) actions "a" 0 lateFirst works
  have stamp : unsigned.stateTimestamp = candidate.stateTimestamp :=
    congrArg (·.stateTimestamp) same.eq
  have count : 0 = candidate.stateCount := congrArg (·.stateCount) same.eq
  rw [← stamp, ← count] at due
  exact ⟨works, earlier, later, split, poll, due (by decide)⟩

end Waiting

end Fleet

end Leasehold
