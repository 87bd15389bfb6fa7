/-
**A request to cancel that waits.**

Nothing is assumed of the callers outside the fleet. Once a cancellation was asked for, whoever
leases the entity sees the request. So only what was leased before can still lead elsewhere, and of
all that the first write is the last one.

* `Attempt.pursued?`: the claim of an attempt that works towards an outcome of its own;
* `State.Heedful`, `heedful_run`: no such attempt leased its entity with a request;
* `leased_of_pursued`, `leased_of_written`: so it leased the entity before the request;
* `queued_cancellation`: what that means for handlers, and for the outcomes that are written.
-/

import Leasehold.Proofs.Fleet.Exclusion
import Leasehold.Proofs.Fleet.Outcome

set_option linter.unusedSectionVars false

namespace Leasehold

variable {ι ε S P Call : Type} {Response : Call → Type} [DecidableEq S] [ProcessState S]

/-! ### Attempts that were not asked to cancel -/

namespace Attempt

/-- The claim of an attempt that works towards an outcome other than a cancellation. -/
def pursued? : Attempt S P Call Response → Option (Entity S P)
  | .working leased _ | .waiting _ leased _ | .confirming leased _ _ _ => some leased
  | .persisting leased _ outcome => if outcome = .cancelled then none else some leased
  | .selected _ | .releasing _ | .ended _ => none

variable {attempt : Attempt S P Call Response} {leased : Entity S P}

theorem leased?_of_pursued? (pursues : attempt.pursued? = some leased) :
    attempt.leased? = some leased := by
  cases attempt with
  | working _ _ | waiting _ _ _ | confirming _ _ _ _ => exact pursues
  | persisting _ _ outcome =>
    unfold pursued? at pursues
    dsimp only at pursues
    split at pursues
    · cases pursues
    · exact pursues
  | selected _ | releasing _ | ended _ => cases pursues

theorem pursued?_of_handled? (works : attempt.handled? = some leased) :
    attempt.pursued? = some leased := by
  cases attempt with
  | working _ _ | waiting _ _ _ => exact works
  | selected _ | confirming _ _ _ _ | persisting _ _ _ | releasing _ | ended _ => cases works

end Attempt

/-- A step pursues what was pursued before, or an entity that was just leased without a request. -/
theorem Member.Move.pursued {member : Member ε S P Call Response} {memory : Memory S P}
    {attempt next : Attempt S P Call Response} {operation : Option (Operation S P)}
    {transitions : List Transition} {leased : Entity S P}
    (move : member.Move memory attempt operation transitions next)
    (pursues : next.pursued? = some leased) :
    attempt.pursued? = some leased ∨ leased.cancelRequested = false := by
  cases move with
  | refused | withdraws | cancels | yields | persists | overtaken | releases | rests =>
    cases pursues
  | begins claimed unchanged notAsked =>
    cases pursues
    exact .inr notAsked
  | concludes =>
    cases Attempt.leased?_of_pursued? pursues
    exact .inl rfl
  | waits | succeeds | resumes | confirms =>
    cases pursues
    exact .inl rfl

namespace Fleet

variable [DecidableEq ι] {fleet : Fleet ι ε S P Call Response} {memory : Memory S P}
  {state after : State ι ε S P Call Response} {action : Action ι ε S P}

/-- No attempt that works towards an outcome of its own leased its entity with a request to
cancel. -/
def State.Heedful (state : State ι ε S P Call Response) : Prop :=
  ∀ {name number attempt leased}, state.attempt? name number = some attempt →
    attempt.pursued? = some leased → leased.cancelRequested = false

/-- An action keeps the attempts heedful. -/
theorem State.Heedful.kept (heedful : state.Heedful) (change : fleet.Change state action after) :
    after.Heedful := by
  intro name number attempt leased there pursues
  cases change with
  | rests | calls | stops => exact heedful there pursues
  | polls finished due performed =>
    rw [State.attempt?_poll] at there
    split at there
    · obtain ⟨candidate, _, rfl⟩ := Option.map_eq_some_iff.mp there
      cases pursues
    · exact heedful there pursues
  | proceeds reached move performed =>
    rw [State.attempt?_proceed reached] at there
    split at there
    · cases there
      rcases move.pursued pursues with before | notAsked
      · exact heedful reached before
      · exact notAsked
    · exact heedful there pursues

/-- **Every schedule keeps the attempts heedful**, and their claims in the record. -/
theorem heedful_run (honest : state.Honest fleet memory) (heedful : state.Heedful)
    (actions : List (Action ι ε S P)) :
    (fleet.run state actions).Honest fleet memory ∧ (fleet.run state actions).Heedful :=
  fleet.run_keeps (fun state => state.Honest fleet memory ∧ state.Heedful) (fun _ => True)
    ⟨honest, heedful⟩ (fun _ kept change => ⟨kept.1.kept change, State.Heedful.kept kept.2 change⟩)
    fun _ _ => trivial

/-! ### After a request -/

section Asked

variable {seen : Entity S P} {actions : List (Action ι ε S P)}

/-- **Who works towards an outcome of its own leased the entity before the request.** -/
theorem leased_of_pursued (honest : state.Honest fleet memory) (heedful : state.Heedful)
    (found : state.site.memory.find? seen.id = some seen) (asked : seen.cancelRequested = true)
    {name : ι} {number : Nat} {attempt : Attempt S P Call Response} {leased : Entity S P}
    (there : (fleet.run state actions).attempt? name number = some attempt)
    (pursues : attempt.pursued? = some leased) (sameId : leased.id = seen.id) :
    fleet.Leased memory state.site.deeds name leased := by
  obtain ⟨laterHonest, laterHeedful⟩ := heedful_run honest heedful actions
  obtain ⟨past, now, since, claim⟩ := laterHonest.recorded
    (Option.bind_eq_some_iff.mpr ⟨attempt, there, Attempt.leased?_of_pursued? pursues⟩)
  rw [honest.replayed, ← sameId] at found
  rcases claim.leased_or_follows (deeds_prefix_run state actions) found with
    taken | ⟨stored, follows, handed⟩
  · exact taken
  · have request : leased.cancelRequested = stored.cancelRequested :=
      congrArg (·.cancelRequested) handed
    rw [follows.request asked, laterHeedful there pursues] at request
    cases request

/-- An outcome other than a cancellation comes from a lease before the request. -/
theorem leased_of_written (honest : state.Honest fleet memory) (heedful : state.Heedful)
    (found : state.site.memory.find? seen.id = some seen) (asked : seen.cancelRequested = true)
    {one : Written ι S P} (writes : (fleet.run state actions).writes? action = some one)
    (sameId : one.leased.id = seen.id) (proper : one.outcome ≠ .cancelled) :
    fleet.Leased memory state.site.deeds one.name one.leased := by
  obtain ⟨number, result, saved, _, there, _⟩ := exists_of_writes writes
  exact leased_of_pursued honest heedful found asked there (if_neg proper) sameId

/-- After another outcome only a cancellation is written. -/
theorem cancelled_of_written (honest : state.Honest fleet memory) (heedful : state.Heedful)
    (found : state.site.memory.find? seen.id = some seen) (asked : seen.cancelRequested = true)
    {one other : Written ι S P} {sooner between : List (Action ι ε S P)}
    {first last : Action ι ε S P} (writes : (fleet.run state sooner).writes? first = some one)
    (writesOther : (fleet.run (fleet.step (fleet.run state sooner) first) between).writes? last =
      some other) (oneId : one.leased.id = seen.id) (otherId : other.leased.id = seen.id) :
    other.outcome = .cancelled := by
  by_contra proper
  obtain ⟨laterHonest, _⟩ := heedful_run honest heedful sooner
  have inOrder : fleet.run (fleet.step (fleet.run state sooner) first) between =
      fleet.run state (sooner ++ first :: between) :=
    (fleet.run_append state sooner (first :: between)).symm
  have higher := version_lt_of_writes laterHonest writes writesOther (oneId.trans otherId.symm)
  rw [inOrder] at writesOther
  have taken := leased_of_written honest heedful found asked writesOther otherId proper
  -- The first outcome was written over a version after the request, the other one before it.
  obtain ⟨stored, isStored, version⟩ := stored_of_writes laterHonest.tidy writes
  obtain ⟨deeds, _, extended⟩ := fleet.extends_run state sooner
  obtain ⟨met, isMet, follows⟩ := Memory.find?_replay found (operations deeds)
  rw [← extended.memory, ← oneId, isStored] at isMet
  obtain rfl := Option.some.inj isMet
  have least := follows.version
  rw [honest.replayed, ← otherId] at found
  have most := (taken.precedes found).version
  omega

end Asked

/-- **A request to cancel that waits stops further work.** After the request every handler that
works on the entity was given it under a lease from before. Of the outcomes written for the entity
after the request, which are those reported, one at most is not a cancellation: it comes from a lease
before the request, it is the first one, and only cancellations are written after it. -/
theorem queued_cancellation (fleet : Fleet ι ε S P Call Response) (memory : Memory S P)
    (surroundings : ε) (earlier later : List (Action ι ε S P)) (id : String) (terminal : List S)
    (asked : (fleet.run (.start memory surroundings) earlier).site.memory.answer
      (.requestCancel id terminal) = .ok true) :
    let before := fleet.run (.start memory surroundings) earlier
    let requested := fleet.step before (.call (.requestCancel id terminal))
    let state := fleet.run requested later
    (∀ name number leased, state.handled? name number = some leased → leased.id = id →
      fleet.Leased memory before.site.deeds name leased) ∧
    (∃ events, state.site.transitions = requested.site.transitions ++ events ∧
      events.map (fun event => (event.entityId, event.outcome)) =
        (fleet.written requested later).map fun one => (one.leased.id, one.outcome)) ∧
    (∀ early one late, fleet.written requested later = early ++ one :: late →
      one.leased.id = id → one.outcome ≠ .cancelled →
        fleet.Leased memory before.site.deeds one.name one.leased ∧
        (∀ other ∈ early, other.leased.id ≠ id) ∧
        (∀ other ∈ late, other.leased.id = id → other.outcome = .cancelled)) := by
  intro before requested state
  have honest := fleet.honest_run memory surroundings earlier
  have heedful : before.Heedful :=
    (heedful_run (fleet.honest_run memory surroundings []) (fun there _ => by cases there)
      earlier).2
  have change := fleet.change_step before (.call (.requestCancel id terminal))
  obtain ⟨laterHonest, laterHeedful⟩ : requested.Honest fleet memory ∧ requested.Heedful :=
    ⟨honest.kept change, State.Heedful.kept heedful change⟩
  obtain ⟨seen, found, rfl, request⟩ := Memory.find?_after_requestCancel asked
  have since : ∀ {name leased}, fleet.Leased memory requested.site.deeds name leased →
      fleet.Leased memory before.site.deeds name leased :=
    fun taken => taken.of_concat fun _ _ _ _ => nofun
  refine ⟨fun name number leased works sameId => ?_, transitions_run laterHonest.tidy later,
    fun early one late split sameId proper => ?_⟩
  · obtain ⟨attempt, there, works⟩ := Option.bind_eq_some_iff.mp works
    exact since (leased_of_pursued laterHonest laterHeedful found request there
      (Attempt.pursued?_of_handled? works) sameId)
  · obtain ⟨sooner, action, rest, rfl, writes, rfl, rfl⟩ := written_split split
    refine ⟨since (leased_of_written laterHonest laterHeedful found request writes sameId proper),
      fun other member otherId => ?_, fun other member otherId => ?_⟩
    · obtain ⟨front, back, parts⟩ := List.append_of_mem member
      obtain ⟨first, earlierAction, between, rfl, writesFirst, _, _⟩ := written_split parts
      rw [run_append] at writes
      exact proper (cancelled_of_written laterHonest laterHeedful found request writesFirst writes
        otherId sameId)
    · obtain ⟨front, back, parts⟩ := List.append_of_mem member
      obtain ⟨between, last, _, rfl, writesLast, _, _⟩ := written_split parts
      exact cancelled_of_written laterHonest laterHeedful found request writes writesLast sameId
        otherId

/-! ### A list that is to be cancelled while a publisher works on it -/

section Awaited

open Credential StatusList

/-- A publisher leases a list, and its partner is busy. -/
def awaitedSchedule : List (Action String Instant StatusList.State Publication) :=
  [.call (.create unsigned), .poll "a", .proceed "a" 0, .proceed "a" 0]

/-- The cancellation is asked for before the publisher writes that it will try again. It leased the
list before. -/
theorem queued_cancellation_awaited :
    let before := busyPublishers.run (.start .empty (atMillis 1000)) awaitedSchedule
    let requested := busyPublishers.step before (.call (.requestCancel "list" []))
    busyPublishers.written requested [.proceed "a" 0] = [⟨"a", lateFirst, .retry⟩] ∧
      busyPublishers.Leased .empty before.site.deeds "a" lateFirst := by
  intro before requested
  have reached : before = busyPublishers.run (selectedBy (fun _ => (0, .transient "busy")) "a")
      [.proceed "a" 0, .proceed "a" 0] := run_selectedBy _ "a" _
  have asked : before.site.memory.answer (.requestCancel "list" []) = .ok true := by
    rw [reached]
    rfl
  have writes : busyPublishers.written requested [.proceed "a" 0] = [⟨"a", lateFirst, .retry⟩] := by
    show busyPublishers.written (busyPublishers.step before (.call (.requestCancel "list" [])))
      [.proceed "a" 0] = _
    rw [reached]
    rfl
  obtain ⟨_, _, single⟩ := queued_cancellation busyPublishers .empty (atMillis 1000)
    awaitedSchedule [.proceed "a" 0] "list" [] asked
  exact ⟨writes, (single [] ⟨"a", lateFirst, .retry⟩ [] writes rfl (by decide)).1⟩

end Awaited

end Fleet

end Leasehold
