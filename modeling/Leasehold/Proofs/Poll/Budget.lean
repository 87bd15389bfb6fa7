/-
**The budget of attempts.**

A handler that asks for another attempt again and again is given its entity once at every poll at
which the entity is due, until the attempts are used up. Then the entity fails, and no poll selects
it any more.

* `Tried`: what becomes of an entity with every attempt;
* `Tried.settle`: one attempt more;
* `Cycle.Effect`: what a poll does to the entity;
* `IsSolitary.effect`, `hasTried_run`: one poll, and any number of polls;
* `retry_budget`: what a poll does after any number of polls.
-/

import Leasehold.Proofs.Fleet.Service
import Leasehold.Proofs.Poll.Solitary
import Mathlib.Algebra.BigOperators.Group.Finset.Basic

set_option linter.unusedSectionVars false

namespace Leasehold

variable {ι ε S P Call : Type} {Response : Call → Type} [DecidableEq S] [ProcessState S]

/-! ### Attempts that ask for another one -/

/-- How an entity stands after attempts that asked for another one for these reasons. -/
structure Tried (registry : Registry S P Call Response) (policy : RetryPolicy)
    (origin : Entity S P) (reasons : List String) (stored : Entity S P) : Prop where
  id : stored.id = origin.id
  payload : stored.payload = origin.payload
  free : stored.lease = none
  notAsked : stored.cancelRequested = false
  inside : Instant.first < stored.stateTimestamp
  /-- As long as the attempts last, the entity stays in its state, and they are counted. -/
  going : reasons.length ≤ policy.maxRetries → stored.state = origin.state ∧
    stored.stateCount = reasons.length ∧ stored.errorDetail = reasons.getLast?
  /-- With one attempt more, the entity fails. There is no other attempt. -/
  spent : policy.maxRetries < reasons.length → reasons.length = policy.maxRetries + 1 ∧
    stored.state = registry.failed ∧ stored.stateCount = 0 ∧
      stored.errorDetail = reasons.getLast?.map fun reason =>
        s!"retries exhausted after {policy.maxRetries + 1} attempts: {reason}"

/-- After so many attempts there is one left, and its delay is over. -/
def RetryPolicy.IsDueAfter (policy : RetryPolicy) (attempts : Nat) (stamp now : Instant) : Prop :=
  attempts ≤ policy.maxRetries ∧ stamp.nanos + (policy.delayFor attempts).nanos ≤ now.nanos

/-- What a member needs to spend its attempts on a state. -/
structure Member.HasBudget (member : Member ε S P Call Response) (state : S) : Prop where
  sound : member.registry.IsSound
  handled : state ∈ member.registry.handledStates
  delayed : member.config.retry.baseDelay.isZero = false
  /-- The attempts can be counted. -/
  countable : member.config.retry.maxRetries < maxStateCount

variable {member : Member ε S P Call Response} {registry : Registry S P Call Response}
  {policy : RetryPolicy} {origin stored : Entity S P} {reasons : List String} {reason : String}
  {reply : Reply S P} {now : Instant}

/-- Whether a handler asks for another attempt, errs or breaks off: the entity is tried again. -/
theorem Registry.settlement_of_verdict (notAsked : stored.cancelRequested = false)
    (asks : reply.verdict = .retry reason) :
    registry.settlement policy stored reply = registry.retried policy stored reason := by
  unfold Registry.settlement
  rw [notAsked, if_neg Bool.false_ne_true]
  cases reply with
  | decided _ | failed _ | crashed _ =>
    cases asks
    rfl

namespace Tried

/-- What an attempt settles that is still in the budget. -/
theorem settlement_eq (tried : Tried registry policy origin reasons stored)
    (countable : policy.maxRetries < maxStateCount) (left : reasons.length ≤ policy.maxRetries)
    (asks : reply.verdict = .retry reason) :
    registry.settlement policy stored reply =
      if reasons.length < policy.maxRetries then
        ⟨origin.state, stored.payload, reasons.length + 1, some reason, .retry⟩
      else
        ⟨registry.failed, stored.payload, 0,
          some s!"retries exhausted after {policy.maxRetries + 1} attempts: {reason}",
          .exhausted⟩ := by
  obtain ⟨state, count, _⟩ := tried.going left
  have attempts : min (stored.stateCount + 1) maxStateCount = reasons.length + 1 := by
    rw [count]
    omega
  rw [Registry.settlement_of_verdict tried.notAsked asks]
  unfold Registry.retried
  dsimp only
  rw [attempts, state]
  by_cases more : reasons.length < policy.maxRetries
  · rw [if_pos more, if_neg (by omega)]
  · have last : reasons.length = policy.maxRetries := by omega
    rw [if_neg more, if_pos (by omega), last]

theorem outcome_eq (tried : Tried registry policy origin reasons stored)
    (countable : policy.maxRetries < maxStateCount) (left : reasons.length ≤ policy.maxRetries)
    (asks : reply.verdict = .retry reason) :
    (registry.settlement policy stored reply).outcome =
      if reasons.length < policy.maxRetries then .retry else .exhausted := by
  rw [tried.settlement_eq countable left asks]
  split <;> rfl

/-- **One attempt more.** -/
theorem settle (tried : Tried registry policy origin reasons stored)
    (countable : policy.maxRetries < maxStateCount)
    (due : policy.IsDueAfter reasons.length stored.stateTimestamp now)
    (asks : reply.verdict = .retry reason) :
    Tried registry policy origin (reasons ++ [reason])
      (stored.settle (registry.settlement policy stored reply) now) := by
  obtain ⟨left, waited⟩ := due
  have inside : Instant.first < now := by
    have before : Instant.first.nanos < stored.stateTimestamp.nanos := tried.inside
    show Instant.first.nanos < now.nanos
    omega
  rw [tried.settlement_eq countable left asks]
  have counted : (reasons ++ [reason]).length = reasons.length + 1 := List.length_append
  by_cases more : reasons.length < policy.maxRetries
  · rw [if_pos more]
    exact {
      id := tried.id
      payload := tried.payload
      free := rfl
      notAsked := tried.notAsked
      inside := inside
      going := fun _ => ⟨rfl, counted.symm, List.getLast?_concat.symm⟩
      spent := fun exceeded => by omega }
  · rw [if_neg more]
    refine ⟨tried.id, tried.payload, rfl, tried.notAsked, inside, fun _ => by omega, fun _ =>
      ⟨by omega, rfl, rfl, ?_⟩⟩
    rw [List.getLast?_concat]
    rfl

/-- When the entity is due: its attempts are not used up, and it has waited for its delay. -/
theorem isDueAt_iff (tried : Tried member.registry member.config.retry origin reasons stored)
    (budget : member.HasBudget origin.state) :
    member.isDueAt now stored = true ↔
      member.config.retry.IsDueAfter reasons.length stored.stateTimestamp now := by
  have free : stored.isFreeAt now = true := by
    unfold Entity.isFreeAt
    rw [tried.free]
    rfl
  rw [Member.isDueAt_iff, free, RetryPolicy.admits_iff _ budget.delayed tried.inside]
  by_cases left : reasons.length ≤ member.config.retry.maxRetries
  · obtain ⟨state, count, _⟩ := tried.going left
    rw [state, count]
    exact ⟨fun due => ⟨left, due.2.2⟩, fun due => ⟨budget.handled, rfl, due.2⟩⟩
  · obtain ⟨_, state, _⟩ := tried.spent (by omega)
    rw [state]
    refine ⟨fun due => ?_, fun due => absurd due.1 left⟩
    exact absurd budget.sound.failed (Bool.eq_false_iff.mp (budget.sound.handled due.1))

end Tried

/-! ### Polls -/

/-- An idle member has made attempts on an entity, each of which asked for another one. -/
structure Fleet.State.HasTried (fleet : Fleet ι ε S P Call Response) (name : ι)
    (origin : Entity S P) (reasons : List String) (state : Fleet.State ι ε S P Call Response) :
    Prop where
  tidy : state.Tidy fleet
  idle : state.isIdle name = true
  stands : ∃ stored, state.site.memory.find? origin.id = some stored ∧
    Tried (fleet name).registry (fleet name).config.retry origin reasons stored

/-- As long as an entity is tried, it has waited for the delays before all its attempts, and no
longer. -/
def Fleet.State.IsPaced (fleet : Fleet ι ε S P Call Response) (name : ι) (origin : Entity S P)
    (reasons : List String) (state : Fleet.State ι ε S P Call Response) : Prop :=
  ∀ stored, state.site.memory.find? origin.id = some stored →
    reasons.length ≤ (fleet name).config.retry.maxRetries →
      stored.stateTimestamp.nanos = origin.createdAt.nanos +
        ∑ count ∈ Finset.range reasons.length, ((fleet name).config.retry.delayFor count).nanos

namespace Cycle

variable [DecidableEq ι] (fleet : Fleet ι ε S P Call Response) (name : ι)

/-- What a poll does to an entity on which attempts were made. -/
inductive Effect (origin : Entity S P) (reasons : List String) (stored : Entity S P)
    (cycle : Cycle ι ε S P) (start : Fleet.State ι ε S P Call Response) : List String → Prop where
  /-- It is not due, and nothing happens to it. -/
  | rests
      (early : ¬(fleet name).config.retry.IsDueAfter reasons.length stored.stateTimestamp cycle.now)
      (left : stored ∉ (cycle.opening fleet start).selection fleet name)
      (unhandled : cycle.given fleet name origin.id start = [])
      (silent : cycle.replies fleet name origin.id start = [])
      (kept : (cycle.closing fleet name start).site.memory.find? origin.id = some stored) :
      Effect origin reasons stored cycle start []
  /-- It is due, and its handler is given it once. -/
  | tries (reply : Reply S P) (reason : String) (saved : Entity S P)
      (due : (fleet name).config.retry.IsDueAfter reasons.length stored.stateTimestamp cycle.now)
      (selected : stored ∈ (cycle.opening fleet start).selection fleet name)
      (handled : cycle.given fleet name origin.id start = [(fleet name).claimed cycle.now stored])
      (replied : cycle.replies fleet name origin.id start = [reply])
      (asks : reply.verdict = .retry reason)
      (found : (cycle.closing fleet name start).site.memory.find? origin.id = some saved)
      (tried : Tried (fleet name).registry (fleet name).config.retry origin (reasons ++ [reason])
        saved)
      (stamped : saved.stateTimestamp = cycle.now)
      (reported : (fleet name).registry.report stored saved
          (if reasons.length < (fleet name).config.retry.maxRetries then .retry else .exhausted) ∈
        (cycle.closing fleet name start).site.transitions) :
      Effect origin reasons stored cycle start [reason]

/-- If an entity is due at a poll, then the poll takes place when it became due. -/
def IsPunctual (id : String) (cycle : Cycle ι ε S P)
    (start : Fleet.State ι ε S P Call Response) : Prop :=
  ∀ stored, (cycle.opening fleet start).site.memory.find? id = some stored →
    (fleet name).isDueAt cycle.now stored = true →
      cycle.now = (fleet name).config.retry.nextDueAt stored

variable {fleet name} {cycle : Cycle ι ε S P} {cycles : List (Cycle ι ε S P)}
  {start : Fleet.State ι ε S P Call Response} {more : List String}

/-- **One poll.** -/
theorem IsSolitary.effect (solitary : cycle.IsSolitary fleet name origin.id start)
    (budget : (fleet name).HasBudget origin.state)
    (hasTried : start.HasTried fleet name origin reasons)
    (asks : ∀ reply ∈ cycle.replies fleet name origin.id start,
      ∃ reason, reply.verdict = .retry reason)
    (found : start.site.memory.find? origin.id = some stored)
    (tried : Tried (fleet name).registry (fleet name).config.retry origin reasons stored) :
    ∃ more, cycle.Effect fleet name origin reasons stored start more ∧
      (cycle.closing fleet name start).HasTried fleet name origin (reasons ++ more) := by
  have tidy := hasTried.tidy
  have sameId := tried.id
  rw [← sameId] at solitary found
  obtain ⟨_, _, selects, _⟩ := solitary.opens tidy hasTried.idle found
  by_cases due : (fleet name).isDueAt cycle.now stored = true
  · obtain ⟨reply, handled, replied, tidyLast, foundLast, reported⟩ :=
      solitary.settles tidy hasTried.idle found tried.notAsked due
    rw [sameId] at handled replied foundLast
    obtain ⟨reason, asks⟩ := asks reply (by rw [replied]; exact List.mem_singleton_self reply)
    have dueNow := (tried.isDueAt_iff budget).mp due
    have triedOn := tried.settle budget.countable dueNow asks
    unfold Member.reports Member.settles at reported
    rw [tried.outcome_eq budget.countable dueNow.1 asks] at reported
    exact ⟨[reason], .tries reply reason _ dueNow (selects.mpr due) handled replied asks foundLast
      triedOn rfl reported, tidyLast, solitary.ends, _, foundLast, triedOn⟩
  · obtain ⟨unhandled, silent, tidyLast, foundLast⟩ :=
      solitary.rests tidy hasTried.idle found (Bool.eq_false_iff.mpr due)
    rw [sameId] at unhandled silent foundLast
    refine ⟨[], .rests (mt (tried.isDueAt_iff budget).mpr due) (mt selects.mp due) unhandled silent
      foundLast, tidyLast, solitary.ends, stored, foundLast, ?_⟩
    rw [List.append_nil]
    exact tried

/-- A punctual attempt takes place when one delay more is over. -/
theorem IsPunctual.now_eq (punctual : cycle.IsPunctual fleet name origin.id start)
    (budget : (fleet name).HasBudget origin.state)
    (tried : Tried (fleet name).registry (fleet name).config.retry origin reasons stored)
    (paced : start.IsPaced fleet name origin reasons)
    (found : start.site.memory.find? origin.id = some stored)
    (due : (fleet name).config.retry.IsDueAfter reasons.length stored.stateTimestamp cycle.now)
    (selected : stored ∈ (cycle.opening fleet start).selection fleet name) :
    cycle.now.nanos = origin.createdAt.nanos + ∑ count ∈ Finset.range (reasons.length + 1),
      ((fleet name).config.retry.delayFor count).nanos := by
  have opens := (mem_query_criteria selected).1
  rw [tried.id] at opens
  have when := congrArg Instant.nanos (punctual stored opens ((tried.isDueAt_iff budget).mpr due))
  obtain ⟨left, waited⟩ := due
  obtain ⟨_, count, _⟩ := tried.going left
  have inRange : cycle.now.nanos ≤ Instant.last.nanos := cycle.now.upper
  have waitedBefore := paced stored found left
  unfold RetryPolicy.nextDueAt at when
  rw [Instant.nanos_plus, count] at when
  rw [Finset.sum_range_succ]
  omega

namespace Effect

variable (effect : cycle.Effect fleet name origin reasons stored start more)

include effect

theorem replies_eq :
    (cycle.replies fleet name origin.id start).map (·.verdict) = more.map .retry := by
  cases effect with
  | rests _ _ _ silent _ =>
    rw [silent]
    rfl
  | tries _ _ _ _ _ _ replied asks _ _ _ _ =>
    rw [replied, List.map_singleton, asks]
    rfl

theorem length_given : (cycle.given fleet name origin.id start).length = more.length := by
  cases effect with
  | rests _ _ unhandled _ _ =>
    rw [unhandled]
    rfl
  | tries _ _ _ _ _ handled _ _ _ _ _ _ =>
    rw [handled]
    rfl

/-- After a punctual poll an entity has not waited for longer than before. -/
theorem paced (punctual : cycle.IsPunctual fleet name origin.id start)
    (budget : (fleet name).HasBudget origin.state)
    (tried : Tried (fleet name).registry (fleet name).config.retry origin reasons stored)
    (found : start.site.memory.find? origin.id = some stored)
    (paced : start.IsPaced fleet name origin reasons) :
    (cycle.closing fleet name start).IsPaced fleet name origin (reasons ++ more) := by
  intro saved foundLast left
  cases effect with
  | rests _ _ _ _ kept =>
    cases kept.symm.trans foundLast
    rw [List.append_nil] at left ⊢
    exact paced stored found left
  | tries _ _ _ due selected _ _ _ kept _ stamped _ =>
    cases kept.symm.trans foundLast
    rw [stamped, List.length_append]
    exact punctual.now_eq budget tried paced found due selected

end Effect

/-- **Any number of polls.** Every invocation of the handler uses up an attempt. If all the polls are
punctual, then the entity waits for no longer than its delays. -/
theorem hasTried_run (budget : (fleet name).HasBudget origin.state)
    (hasTried : start.HasTried fleet name origin reasons)
    (solitary : Throughout fleet name
      (fun start cycle => cycle.IsSolitary fleet name origin.id start) start cycles)
    (asks : ∀ reply ∈ fleet.observe (fleet.replied name origin.id) start (schedule name cycles),
      ∃ reason, reply.verdict = .retry reason) :
    ∃ more : List String,
      (fleet.observe (fleet.replied name origin.id) start (schedule name cycles)).map (·.verdict) =
        more.map .retry ∧
      (fleet.observe (fleet.given name origin.id) start (schedule name cycles)).length =
        more.length ∧
      (fleet.run start (schedule name cycles)).HasTried fleet name origin (reasons ++ more) ∧
      (Throughout fleet name (fun start cycle => cycle.IsPunctual fleet name origin.id start) start
          cycles → start.IsPaced fleet name origin reasons →
        (fleet.run start (schedule name cycles)).IsPaced fleet name origin (reasons ++ more)) := by
  induction cycles generalizing start reasons with
  | nil =>
    refine ⟨[], rfl, rfl, ?_, fun _ paced => ?_⟩
    · rw [List.append_nil]
      exact hasTried
    · rw [List.append_nil]
      exact paced
  | cons cycle rest ih =>
    obtain ⟨first, others⟩ := solitary
    rw [observe_schedule_cons] at asks
    obtain ⟨stored, found, tried⟩ := hasTried.stands
    obtain ⟨one, effect, triedOnce⟩ := first.effect budget hasTried
      (fun reply listed => asks reply (List.mem_append_left _ listed)) found tried
    obtain ⟨more, verdicts, count, triedOn, pacedOn⟩ := ih triedOnce others
      fun reply listed => asks reply (List.mem_append_right _ listed)
    rw [List.append_assoc] at triedOn pacedOn
    rw [observe_schedule_cons, observe_schedule_cons, run_schedule_cons]
    refine ⟨one ++ more, ?_, ?_, triedOn, fun punctual paced => ?_⟩
    · rw [List.map_append, List.map_append, ← verdicts, ← effect.replies_eq]
      rfl
    · rw [List.length_append, List.length_append, ← count, ← effect.length_given]
      rfl
    · exact pacedOn punctual.2 (effect.paced punctual.1 budget tried found paced)

end Cycle

/-! ### The budget -/

namespace Fleet

variable [DecidableEq ι] {fleet : Fleet ι ε S P Call Response} {name : ι} {memory : Memory S P}
  {surroundings : ε} {past : List (Action ι ε S P)} {caller : World ε Call Response} {id : String}
  {payload : P} {traceContext : Dictionary String} {entity : Entity S P}
  {start : State ι ε S P Call Response}

/-- No attempt was made yet on an entity that the service has just created. -/
theorem hasTried_of_create (idle : start.isIdle name = true)
    (others : start.batches = (fleet.run (.start memory surroundings) past).batches)
    (creates : (trigger registry).create caller.onSite id payload traceContext
      (fleet.run (.start memory surroundings) past).site = (.ok entity, start.site))
    (inside : Instant.first < entity.createdAt) :
    start.HasTried fleet name entity [] ∧ start.IsPaced fleet name entity [] := by
  have served : Serves registry (fleet.run (.start memory surroundings) past).site start.site := by
    have leads : Serves registry (fleet.run (.start memory surroundings) past).site
        ((trigger registry).create caller.onSite id payload traceContext
          (fleet.run (.start memory surroundings) past).site).2 := serves_create payload traceContext
    rw [creates] at leads
    exact leads
  obtain ⟨calls, _, ran⟩ := served
  have reached : fleet.run (.start memory surroundings) (past ++ calls) = start := by
    rw [run_append]
    exact (ran fleet _).trans (congrArg (State.mk start.site) others.symm)
  have tidy := fleet.tidy_run memory surroundings (past ++ calls)
  rw [reached] at tidy
  obtain ⟨rfl, found⟩ := find?_of_create creates
  refine ⟨⟨tidy, idle, _, found, ?_⟩, fun stored stands _ => ?_⟩
  · exact ⟨rfl, rfl, rfl, rfl, inside, fun _ => ⟨rfl, rfl, rfl⟩, fun exceeded => by cases exceeded⟩
  · cases found.symm.trans stands
    rw [List.length_nil, Finset.sum_range_zero]
    exact (Int.add_zero _).symm

/-- **The budget of attempts is spent exactly.** The service creates an entity in a state that is
handled, and nobody but one member writes it. If every attempt asks for another one, then after any
number of polls the entity has been given to its handler once for each attempt: it is still in its
state with so many attempts counted, or it failed after one attempt more than may be repeated. The
next poll makes another attempt exactly if one is left and its delay is over. If all polls with
attempts are punctual, then an attempt takes place when all the delays up to it are over. -/
theorem retry_budget {draft : Draft S P Call Response} (built : draft.build = .ok registry)
    (fleet : Fleet ι ε S P Call Response) (name : ι) (memory : Memory S P) (surroundings : ε)
    (past : List (Action ι ε S P)) (start : State ι ε S P Call Response)
    (cycles : List (Cycle ι ε S P)) (cycle : Cycle ι ε S P)
    (uses : (fleet name).registry = registry)
    (handled : registry.initial ∈ registry.handledStates)
    (delayed : (fleet name).config.retry.baseDelay.isZero = false)
    (countable : (fleet name).config.retry.maxRetries < maxStateCount)
    (idle : start.isIdle name = true)
    (others : start.batches = (fleet.run (.start memory surroundings) past).batches)
    (creates : (trigger registry).create caller.onSite id payload traceContext
      (fleet.run (.start memory surroundings) past).site = (.ok entity, start.site))
    (inside : Instant.first < entity.createdAt)
    (solitary : Cycle.Throughout fleet name
      (fun start cycle => cycle.IsSolitary fleet name id start) start (cycles ++ [cycle]))
    (asks : ∀ reply ∈ fleet.observe (fleet.replied name id) start
      (Cycle.schedule name (cycles ++ [cycle])), ∃ reason, reply.verdict = .retry reason) :
    ∃ reasons stored more,
      let before := fleet.run start (Cycle.schedule name cycles)
      (fleet.observe (fleet.replied name id) start (Cycle.schedule name cycles)).map (·.verdict) =
          reasons.map .retry ∧
        (fleet.observe (fleet.given name id) start (Cycle.schedule name cycles)).length =
          reasons.length ∧
        before.site.memory.find? id = some stored ∧
        Tried registry (fleet name).config.retry entity reasons stored ∧
        cycle.Effect fleet name entity reasons stored before more ∧
        (Cycle.Throughout fleet name (fun start cycle => cycle.IsPunctual fleet name id start) start
            (cycles ++ [cycle]) →
          (cycle.given fleet name id before ≠ [] ↔
            reasons.length ≤ (fleet name).config.retry.maxRetries ∧
              cycle.now.nanos = entity.createdAt.nanos + ∑ count ∈ Finset.range (reasons.length + 1),
                ((fleet name).config.retry.delayFor count).nanos)) := by
  obtain ⟨rfl, _⟩ := find?_of_create creates
  obtain ⟨hasTried, paced⟩ := hasTried_of_create idle others creates inside
  have sound : (fleet name).registry.IsSound := by
    rw [uses]
    exact Draft.isSound_of_build built
  have budget : (fleet name).HasBudget registry.initial := by
    refine ⟨sound, ?_, delayed, countable⟩
    rw [uses]
    exact handled
  obtain ⟨polls, solitary⟩ := (Cycle.throughout_concat fleet name).mp solitary
  have splits : Cycle.schedule name (cycles ++ [cycle]) =
      Cycle.schedule name cycles ++ cycle.actions name := by
    unfold Cycle.schedule
    rw [List.flatMap_append, List.flatMap_singleton]
  rw [splits, observe_append] at asks
  obtain ⟨reasons, verdicts, count, triedOn, pacedOn⟩ := Cycle.hasTried_run budget hasTried polls
    fun reply listed => asks reply (List.mem_append_left _ listed)
  rw [List.nil_append] at triedOn pacedOn
  obtain ⟨stored, found, tried⟩ := triedOn.stands
  obtain ⟨more, effect, _⟩ := solitary.effect budget triedOn
    (fun reply listed => asks reply (List.mem_append_right _ listed)) found tried
  refine ⟨reasons, stored, more, verdicts, count, found, uses ▸ tried, effect, fun punctual => ?_⟩
  obtain ⟨punctual, punctualLast⟩ := (Cycle.throughout_concat fleet name).mp punctual
  have pacedLast := pacedOn punctual paced
  cases effect with
  | rests early _ unhandled _ _ =>
    refine ⟨fun handled => absurd unhandled handled, fun ⟨left, when⟩ => absurd ⟨left, ?_⟩ early⟩
    have waited := pacedLast stored found left
    rw [Finset.sum_range_succ] at when
    omega
  | tries _ _ _ due selected handled _ _ _ _ _ _ =>
    refine ⟨fun _ => ⟨due.1, punctualLast.now_eq budget tried pacedLast found due selected⟩, ?_⟩
    intro _ none
    cases handled.symm.trans none

/-! ### A list that is tried twice -/

section Lists

open Credential StatusList

/-- Publishers that try a second time at most. Their partners refuse at once. -/
abbrev hastyPublishers :
    Fleet String Instant StatusList.State Publication Credential.Call Credential.Response :=
  fun name => { busyPublishers name with config := { retry := { maxRetries := 1 } }, sound := rfl }

/-- A publisher polls, and works on what it selects. -/
def round (now : Instant) : Cycle String Instant StatusList.State Publication where
  now := now
  before := [.pass now]
  after := [.proceed "a" 0, .proceed "a" 0, .proceed "a" 0]

/-- The service has created the first list at an instant. -/
def createdAt (now : Instant) :
    State String Instant StatusList.State Publication Credential.Call Credential.Response :=
  ⟨((trigger StatusList.registry).create (busyPublishers "a").world.onSite "list" unsigned.payload
    .empty ⟨.empty, now, [], []⟩).2, fun _ => []⟩

/-- The first list after one attempt. -/
def triedOnce : Entity StatusList.State Publication :=
  { unsigned with
    stateCount := 1
    errorDetail := some "sign status list: busy"
    stateTimestamp := atMillis 1000
    updatedAt := atMillis 1000
    version := 2 }

/-- The first list was selected a second after it was created. -/
def firstRound :
    State String Instant StatusList.State Publication Credential.Call Credential.Response :=
  ((round (atMillis 1000)).opening hastyPublishers (createdAt .epoch)).polled hastyPublishers "a"
    unsigned

/-- It was selected again two seconds later. -/
def secondRound :
    State String Instant StatusList.State Publication Credential.Call Credential.Response :=
  ((round (atMillis 3000)).opening hastyPublishers
    (hastyPublishers.run firstRound (round (atMillis 1000)).after)).polled hastyPublishers "a"
      triedOnce

theorem step_firstRound : hastyPublishers.step
    ((round (atMillis 1000)).opening hastyPublishers (createdAt .epoch)) (.poll "a") =
      firstRound :=
  hastyPublishers.step_poll_of_single _ "a" unsigned rfl rfl ⟨_, rfl⟩ rfl (by decide)

theorem closing_firstRound : (round (atMillis 1000)).closing hastyPublishers "a" (createdAt .epoch) =
    hastyPublishers.run firstRound (round (atMillis 1000)).after := by
  rw [Cycle.closing_eq, step_firstRound]

theorem step_secondRound : hastyPublishers.step ((round (atMillis 3000)).opening hastyPublishers
    (hastyPublishers.run firstRound (round (atMillis 1000)).after)) (.poll "a") = secondRound :=
  hastyPublishers.step_poll_of_single _ "a" triedOnce (by decide +kernel) (by decide +kernel)
    ⟨_, rfl⟩ rfl (by decide)

/-- Nobody but the publisher writes the list. -/
theorem solitary_hasty : Cycle.Throughout hastyPublishers "a"
    (fun start cycle => cycle.IsSolitary hastyPublishers "a" "list" start) (createdAt .epoch)
    [round (atMillis 1000), round (atMillis 3000)] := by
  refine ⟨Cycle.IsSolitary.of_single ⟨⟨nofun, fun _ => rfl⟩, trivial⟩ rfl rfl rfl step_firstRound ?_ ?_,
    ?_, trivial⟩
  · exact ⟨⟨isAlone_proceed 0, rfl, rfl⟩, ⟨isAlone_proceed 0, rfl, rfl⟩,
      ⟨isAlone_proceed 0, rfl, rfl⟩, trivial⟩
  · decide +kernel
  · rw [closing_firstRound]
    refine Cycle.IsSolitary.of_single ⟨⟨nofun, fun _ => rfl⟩, trivial⟩ (by decide +kernel) rfl
      (by decide +kernel) step_secondRound ?_ ?_
    · exact ⟨⟨isAlone_proceed 0, by decide +kernel⟩, ⟨isAlone_proceed 0, by decide +kernel⟩,
        ⟨isAlone_proceed 0, by decide +kernel⟩, trivial⟩
    · decide +kernel

/-- The partners of the publisher are busy. -/
theorem asks_hasty : ∀ reply ∈ hastyPublishers.observe (hastyPublishers.replied "a" "list")
    (createdAt .epoch) (Cycle.schedule "a" [round (atMillis 1000), round (atMillis 3000)]),
      ∃ reason, reply.verdict = .retry reason := by
  have first : (round (atMillis 1000)).replies hastyPublishers "a" "list" (createdAt .epoch) =
      [.decided (.retry "sign status list: busy")] := by
    rw [Cycle.replies_eq rfl, step_firstRound]
    decide +kernel
  have second : (round (atMillis 3000)).replies hastyPublishers "a" "list"
      (hastyPublishers.run firstRound (round (atMillis 1000)).after) =
        [.decided (.retry "sign status list: busy")] := by
    rw [Cycle.replies_eq rfl, step_secondRound]
    decide +kernel
  intro reply listed
  rw [Cycle.observe_schedule_cons, closing_firstRound, Cycle.observe_schedule_cons] at listed
  change reply ∈ (round (atMillis 1000)).replies hastyPublishers "a" "list" (createdAt .epoch) ++
    ((round (atMillis 3000)).replies hastyPublishers "a" "list" _ ++ []) at listed
  rw [first, second, List.append_nil] at listed
  rcases List.mem_pair.mp listed with rfl | rfl
  · exact ⟨_, rfl⟩
  · exact ⟨_, rfl⟩

/-- Both polls take place when the list has become due. -/
theorem punctual_hasty : Cycle.Throughout hastyPublishers "a"
    (fun start cycle => cycle.IsPunctual hastyPublishers "a" "list" start) (createdAt .epoch)
    [round (atMillis 1000), round (atMillis 3000)] := by
  refine ⟨fun stored found _ => ?_, ?_, trivial⟩
  · cases (show _ = some unsigned from rfl).symm.trans found
    decide
  · rw [closing_firstRound]
    intro stored found _
    have stands : ((round (atMillis 3000)).opening hastyPublishers
        (hastyPublishers.run firstRound (round (atMillis 1000)).after)).site.memory.find? "list" =
          some triedOnce := by decide +kernel
    cases stands.symm.trans found
    decide

/-- The list is tried when it is due, once and again, and then it fails. -/
theorem retry_budget_hasty :
    let before := hastyPublishers.run (createdAt .epoch)
      (Cycle.schedule "a" [round (atMillis 1000)])
    (round (atMillis 3000)).given hastyPublishers "a" "list" before ≠ [] ∧
      ∃ saved, ((round (atMillis 3000)).closing hastyPublishers "a" before).site.memory.find?
          "list" = some saved ∧
        saved.state = .failed ∧ saved.stateCount = 0 := by
  intro before
  have creates : (trigger StatusList.registry).create (busyPublishers "a").world.onSite "list"
      unsigned.payload .empty (hastyPublishers.run (.start .empty .epoch) []).site =
        (.ok unsigned, (createdAt .epoch).site) := rfl
  obtain ⟨reasons, stored, more, _, count, _, _, effect, times⟩ :=
    retry_budget StatusList.build_draft hastyPublishers "a" .empty .epoch [] (createdAt .epoch)
      [round (atMillis 1000)] (round (atMillis 3000)) rfl (Registry.mem_handledStates.mpr ⟨_, rfl⟩)
      rfl (by decide) rfl rfl creates (by decide) solitary_hasty asks_hasty
  have once : reasons.length = 1 := by
    have given : (round (atMillis 1000)).given hastyPublishers "a" "list" (createdAt .epoch) =
        [(hastyPublishers "a").claimed (atMillis 1000) unsigned] := by
      rw [Cycle.given_eq rfl, step_firstRound]
      decide +kernel
    rw [← count]
    exact congrArg List.length given
  have again := (times punctual_hasty).mpr (by
    rw [once]
    decide)
  refine ⟨again, ?_⟩
  cases effect with
  | rests _ _ unhandled _ _ => exact absurd unhandled again
  | tries _ reason saved _ _ _ _ _ found tried _ _ =>
    have fails : (hastyPublishers "a").config.retry.maxRetries < (reasons ++ [reason]).length := by
      rw [List.length_append, once]
      exact Nat.lt_succ_self 1
    obtain ⟨_, state, count, _⟩ := tried.spent fails
    exact ⟨saved, found, state, count⟩

/-- The first list, created at the first instant. -/
def earliest : Entity StatusList.State Publication :=
  { unsigned with stateTimestamp := .first, createdAt := .first, updatedAt := .first }

theorem step_earliest : hastyPublishers.step
    ((round .first).opening hastyPublishers (createdAt .first)) (.poll "a") =
      ((round .first).opening hastyPublishers (createdAt .first)).polled hastyPublishers "a"
        earliest :=
  hastyPublishers.step_poll_of_single _ "a" earliest rfl rfl ⟨_, rfl⟩ rfl (by decide)

/-- At the first instant an attempt is made without its delay. -/
theorem undue_attempt_at_first :
    (createdAt .first).site.memory.find? "list" = some earliest ∧
      (hastyPublishers "a").config.retry.isDue earliest .first = false ∧
      (round .first).IsSolitary hastyPublishers "a" "list" (createdAt .first) ∧
      (round .first).replies hastyPublishers "a" "list" (createdAt .first) =
        [.decided (.retry "sign status list: busy")] ∧
      (round .first).given hastyPublishers "a" "list" (createdAt .first) =
        [(hastyPublishers "a").claimed .first earliest] := by
  refine ⟨rfl, by decide, ?_, ?_, ?_⟩
  · refine Cycle.IsSolitary.of_single ⟨⟨nofun, fun _ => rfl⟩, trivial⟩ rfl rfl rfl step_earliest ?_ ?_
    · exact ⟨⟨isAlone_proceed 0, rfl, rfl⟩, ⟨isAlone_proceed 0, rfl, rfl⟩,
        ⟨isAlone_proceed 0, rfl, rfl⟩, trivial⟩
    · decide +kernel
  · rw [Cycle.replies_eq rfl, step_earliest]
    decide +kernel
  · rw [Cycle.given_eq rfl, step_earliest]
    decide +kernel

end Lists

end Fleet

end Leasehold
