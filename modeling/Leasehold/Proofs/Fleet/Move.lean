/-
**What one step of an attempt can do.**

Whatever an attempt does in one step, it carries out one store operation at most, and what it does
next follows from the answer.

* `Warrant`: the results that an engine may write for a leased entity, with their outcomes;
* `Member.Move`: the steps of an attempt, each with its store operation and what it reports;
* `Member.makes_step`: `Engine.step` makes no other steps;
* `Site.Extends`: how a site differs from the same site before some deeds.
-/

import Leasehold.Proofs.Fleet.Basic

set_option linter.unusedSectionVars false

namespace Leasehold

variable {ι ε S P Call : Type} {Response : Call → Type} [DecidableEq S] [ProcessState S]

/-! ### Calls -/

namespace Work

variable {σ α : Type} {world : World σ Call Response} {request : Call}
  {next : Response request → Work Call Response α} {state : σ}

/-- A call that is answered at once. -/
theorem drive_call_of_eq (atOnce : (world.call request state).1.1 = 0) :
    (call request next).drive world state =
      (next (world.call request state).1.2).drive world (world.call request state).2 := by
  show (ite _ _ _ : StateM _ _) _ = _
  rw [if_pos atOnce]

/-- A call that takes time. -/
theorem drive_call_of_ne (later : (world.call request state).1.1 ≠ 0) :
    (call request next).drive world state =
      (.waiting (world.call request state).1.1 (next (world.call request state).1.2),
        (world.call request state).2) := by
  show (ite _ _ _ : StateM _ _) _ = _
  rw [if_neg later]
  rfl

end Work

/-! ### Sites and their records -/

/-- One site is another one after some deeds, which reported some transitions. -/
structure Site.Extends (before after : Site ι ε S P) (deeds : List (Deed ι S P))
    (transitions : List Transition) : Prop where
  memory : after.memory = before.memory.replay (operations deeds)
  deeds : after.deeds = before.deeds ++ deeds
  transitions : after.transitions = before.transitions ++ transitions

namespace Site.Extends

variable {before middle after : Site ι ε S P}

theorem refl (site : Site ι ε S P) : site.Extends site [] [] :=
  ⟨rfl, (List.append_nil _).symm, (List.append_nil _).symm⟩

theorem trans {first second : List (Deed ι S P)} {early late : List Transition}
    (left : before.Extends middle first early) (right : middle.Extends after second late) :
    before.Extends after (first ++ second) (early ++ late) where
  memory := by
    rw [right.memory, left.memory, ← Memory.replay_append, ← List.map_append]
  deeds := by rw [right.deeds, left.deeds, List.append_assoc]
  transitions := by rw [right.transitions, left.transitions, List.append_assoc]

theorem log (world : World ε Call Response) (entry : Log.Entry) (site : Site ι ε S P) :
    site.Extends (world.onSite.log entry site).2 [] [] :=
  ⟨rfl, (List.append_nil _).symm, (List.append_nil _).symm⟩

theorem emit (world : World ε Call Response) (transition : Transition) (site : Site ι ε S P) :
    site.Extends (world.onSite.emit transition site).2 [] [transition] :=
  ⟨rfl, (List.append_nil _).symm, rfl⟩

theorem perform (actor : Option ι) (elapse : ε → ε) (operation : Operation S P)
    (site : Site ι ε S P) :
    site.Extends (Site.perform actor elapse operation site).2 [⟨actor, operation⟩] [] :=
  ⟨rfl, rfl, (List.append_nil _).symm⟩

theorem drive (world : World ε Call Response) {α : Type} (work : Work Call Response α)
    (site : Site ι ε S P) : site.Extends (work.drive world.onSite site).2 [] [] := by
  induction work generalizing site with
  | done result => exact refl site
  | call request next ih =>
    have called : site.Extends (world.onSite.call request site).2 [] [] :=
      ⟨rfl, (List.append_nil _).symm, (List.append_nil _).symm⟩
    by_cases atOnce : (world.onSite.call request site).1.1 = 0
    · rw [Work.drive_call_of_eq atOnce]
      exact called.trans (ih _ _)
    · rw [Work.drive_call_of_ne atOnce]
      exact called
  | readClock next ih => exact ih _ site
  | log entry next ih => exact (log world entry site).trans (ih _)

/-- One deed revises what is stored. -/
theorem find?_revised {actor : Option ι} {operation : Operation S P} {events : List Transition}
    (performed : before.Extends after [⟨actor, operation⟩] events) {id : String}
    {stored : Entity S P} (found : before.memory.find? id = some stored) :
    after.memory.find? id = some (operation.revise stored) := by
  rw [performed.memory]
  exact Memory.find?_after_of_found found operation

/-- Without a deed everything stays stored. -/
theorem find?_kept {events : List Transition} (unchanged : before.Extends after [] events)
    {id : String} {stored : Entity S P} (found : before.memory.find? id = some stored) :
    after.memory.find? id = some stored := by
  rw [unchanged.memory]
  exact found

end Site.Extends

/-! ### The steps of an engine, one store operation at a time -/

namespace Engine

variable {σ : Type} (engine : Engine σ S P Call Response) (world : World σ Call Response)
  {state next : σ}

theorem bind_apply {α β : Type} (first : StateM σ α) (rest : α → StateM σ β) (state : σ) :
    (first >>= rest) state = rest (first state).1 (first state).2 := rfl

theorem get_apply (state : σ) : (get : StateM σ σ) state = (state, state) := rfl

theorem claim_of_ok {candidate leased : Entity S P}
    (answered : engine.store
      (.lease candidate.id engine.holder engine.config.leaseDuration (world.now state)) state =
        (.ok leased, next)) :
    engine.claim world candidate state = engine.afterLease world candidate leased next := by
  unfold claim
  simp only [bind_apply, get_apply, answered]

theorem claim_of_error {candidate : Entity S P} {error : StoreError}
    (answered : engine.store
      (.lease candidate.id engine.holder engine.config.leaseDuration (world.now state)) state =
        (.error error, next)) :
    ∃ ending entry,
      engine.claim world candidate state = (.ended ending, (world.log entry next).2) := by
  unfold claim
  simp only [bind_apply, get_apply, answered]
  split
  · exact ⟨_, _, rfl⟩
  · exact ⟨_, _, rfl⟩

theorem work_of_waiting {leased : Entity S P} {work rest : Work Call Response (Reply S P)}
    {millis : Nat} (driven : work.drive world state = (.waiting millis rest, next)) :
    engine.work world leased work state = (.waiting millis leased rest, next) := by
  unfold Engine.work
  simp only [bind_apply, driven]
  rfl

/-- A handler that comes to an end is judged, after a log entry perhaps. -/
theorem work_of_finished (leased : Entity S P) {work : Work Call Response (Reply S P)}
    {reply : Reply S P} (driven : work.drive world state = (.finished reply, next)) :
    ∃ after, (after = next ∨ ∃ entry, after = (world.log entry next).2) ∧
      engine.work world leased work state =
        (engine.judge leased (world.now after) reply.verdict, after) := by
  unfold Engine.work
  simp only [bind_apply, driven]
  cases engine.remark leased reply.verdict with
  | none => exact ⟨next, .inl rfl, rfl⟩
  | some entry => exact ⟨(world.log entry next).2, .inr ⟨entry, rfl⟩, rfl⟩

theorem step_confirming_of_ok {leased : Entity S P} {target : S} {payload : P} {now : Instant}
    {found : Option (Entity S P)}
    (answered : engine.store (.find leased.id) state = (.ok found, next)) :
    engine.step world (.confirming leased target payload now) state =
      (engine.confirm leased target payload now (found.any (·.cancelRequested)), next) := by
  unfold Engine.step isCancelRequested
  simp only [bind_apply, answered]
  rfl

theorem persist_of_ok {leased result saved : Entity S P} {outcome : Outcome}
    (answered : engine.store (.update { result with lease := none }) state = (.ok saved, next)) :
    engine.persist world leased result outcome state =
      (.ended (.persisted outcome),
        (world.emit (engine.transition leased saved outcome) next).2) := by
  unfold persist
  simp only [bind_apply, answered]
  rfl

theorem persist_of_conflict (leased : Entity S P) (outcome : Outcome) {result : Entity S P}
    {error : StoreError}
    (answered : engine.store (.update { result with lease := none }) state = (.error error, next))
    (conflict : error.isConflict = true) :
    ∃ entry, engine.persist world leased result outcome state =
      (.ended .abandoned, (world.log entry next).2) := by
  unfold persist
  simp only [bind_apply, answered]
  rw [if_pos conflict]
  exact ⟨_, rfl⟩

theorem release_of_ok {leased : Entity S P} {had : Bool}
    (answered : engine.store (.release leased.id engine.holder) state = (.ok had, next)) :
    engine.release world leased state = (.ended .abandoned, next) := by
  unfold release
  simp only [bind_apply, answered]
  rfl

end Engine

/-! ### Results -/

/-- The transition that a written outcome is reported as. -/
def Registry.report (registry : Registry S P Call Response) (leased saved : Entity S P)
    (outcome : Outcome) : Transition where
  entityId := saved.id
  entityType := registry.entityType
  fromState := label leased.state
  toState := label saved.state
  outcome := outcome
  stateCount := saved.stateCount
  errorDetail := saved.errorDetail

/-- The results that an engine may write for a leased entity, with their outcomes. -/
inductive Warrant (registry : Registry S P Call Response) (policy : RetryPolicy)
    (leased : Entity S P) : Entity S P → Outcome → Prop where
  | success (next : S) (payload : P) (now : Instant)
      (allowed : registry.allows leased.state next = true) :
      Warrant registry policy leased
        (({ leased with payload := payload } : Entity S P).transitionTo next now) .success
  | cancelled (now : Instant) :
      Warrant registry policy leased (leased.transitionTo registry.cancelled now) .cancelled
  | retry (reason : String) (now : Instant)
      (remaining : policy.isExhausted (leased.recordRetry reason now) = false) :
      Warrant registry policy leased (leased.recordRetry reason now) .retry
  | fatal (reason : String) (now : Instant) :
      Warrant registry policy leased (leased.fail registry.failed reason now) .fatal
  | exhausted (reason : String) (now : Instant)
      (used : ∃ why, policy.isExhausted (leased.recordRetry why now) = true) :
      Warrant registry policy leased (leased.fail registry.failed reason now) .exhausted

/-! ### Steps -/

namespace Member

/-- The steps of an attempt over a store: its operation, what it reports, and where it leads. -/
inductive Move (member : Member ε S P Call Response) (memory : Memory S P) :
    Attempt S P Call Response → Option (Operation S P) → List Transition →
      Attempt S P Call Response → Prop where
  /-- The entity could not be leased. -/
  | refused {candidate : Entity S P} {now : Instant} {error : StoreError} (ending : Ending)
      (denied : memory.answer (.lease candidate.id member.holder member.config.leaseDuration now) =
        .error error) :
      Move member memory (.selected candidate)
        (some (.lease candidate.id member.holder member.config.leaseDuration now)) []
        (.ended ending)
  /-- The entity was leased, but is to be let go: it was changed since, or nobody handles it. -/
  | withdraws {candidate leased : Entity S P} {now : Instant}
      (claimed : memory.answer (.lease candidate.id member.holder member.config.leaseDuration now) =
        .ok leased) :
      Move member memory (.selected candidate)
        (some (.lease candidate.id member.holder member.config.leaseDuration now)) []
        (.releasing leased)
  /-- The entity was leased as it was selected, and is to be cancelled. -/
  | cancels {candidate leased : Entity S P} {now : Instant} (later : Instant)
      (claimed : memory.answer (.lease candidate.id member.holder member.config.leaseDuration now) =
        .ok leased)
      (unchanged : leased.version = candidate.version + 1)
      (asked : leased.cancelRequested = true) :
      Move member memory (.selected candidate)
        (some (.lease candidate.id member.holder member.config.leaseDuration now)) []
        (.persisting leased (leased.transitionTo member.registry.cancelled later) .cancelled)
  /-- The entity was leased as it was selected, and its handler begins. -/
  | begins {candidate leased : Entity S P} {now : Instant} {handler : Handler S P Call Response}
      (claimed : memory.answer (.lease candidate.id member.holder member.config.leaseDuration now) =
        .ok leased)
      (unchanged : leased.version = candidate.version + 1)
      (notAsked : leased.cancelRequested = false)
      (handled : member.registry.handler? leased.state = some handler) :
      Move member memory (.selected candidate)
        (some (.lease candidate.id member.holder member.config.leaseDuration now)) []
        (.working leased (handler leased))
  /-- The handler waits. -/
  | waits {leased : Entity S P} {work : Work Call Response (Reply S P)} (millis : Nat)
      (rest : Work Call Response (Reply S P)) :
      Move member memory (.working leased work) none [] (.waiting millis leased rest)
  /-- The handler asks for a next state that it declared. -/
  | succeeds {leased : Entity S P} {work : Work Call Response (Reply S P)} (next : S) (payload : P)
      (now : Instant) (allowed : member.registry.allows leased.state next = true) :
      Move member memory (.working leased work) none [] (.confirming leased next payload now)
  /-- The handler ends in another way. -/
  | concludes {leased : Entity S P} {work : Work Call Response (Reply S P)} {result : Entity S P}
      {outcome : Outcome}
      (warranted : Warrant member.registry member.config.retry leased result outcome)
      (unlike : outcome ≠ .success) :
      Move member memory (.working leased work) none [] (.persisting leased result outcome)
  /-- The wait of the handler is over. -/
  | resumes {leased : Entity S P} {work : Work Call Response (Reply S P)} (millis : Nat) :
      Move member memory (.waiting millis leased work) none [] (.working leased work)
  /-- A cancellation was asked for while the handler worked. -/
  | yields {leased stored : Entity S P} {next : S} {payload : P} {now : Instant}
      (found : memory.find? leased.id = some stored) (asked : stored.cancelRequested = true) :
      Move member memory (.confirming leased next payload now) (some (.find leased.id)) []
        (.persisting leased (leased.transitionTo member.registry.cancelled now) .cancelled)
  /-- Nobody asked for a cancellation. -/
  | confirms {leased : Entity S P} {next : S} {payload : P} {now : Instant}
      (notAsked : ∀ stored, memory.find? leased.id = some stored → stored.cancelRequested = false) :
      Move member memory (.confirming leased next payload now) (some (.find leased.id)) []
        (.persisting leased
          (({ leased with payload := payload } : Entity S P).transitionTo next now) .success)
  /-- The outcome is written and reported. -/
  | persists {leased result saved : Entity S P} {outcome : Outcome}
      (written : memory.answer (.update { result with lease := none }) = .ok saved) :
      Move member memory (.persisting leased result outcome)
        (some (.update { result with lease := none }))
        [member.registry.report leased saved outcome]
        (.ended (.persisted outcome))
  /-- Somebody else was faster. -/
  | overtaken {leased result : Entity S P} {outcome : Outcome} {error : StoreError}
      (failed : memory.answer (.update { result with lease := none }) = .error error) :
      Move member memory (.persisting leased result outcome)
        (some (.update { result with lease := none })) [] (.ended .abandoned)
  /-- The lease is given up. -/
  | releases {leased : Entity S P} :
      Move member memory (.releasing leased) (some (.release leased.id member.holder)) []
        (.ended .abandoned)
  /-- There is nothing left to do. -/
  | rests {ending : Ending} : Move member memory (.ended ending) none [] (.ended ending)

/-! ### Members make these steps -/

section Steps

variable (member : Member ε S P Call Response) (name : ι)

/-- The result of a step is a move of the attempt, and the site records its operation. -/
def Makes (site : Site ι ε S P) (attempt : Attempt S P Call Response)
    (made : Attempt S P Call Response × Site ι ε S P) : Prop :=
  ∃ operation transitions, member.Move site.memory attempt operation transitions made.1 ∧
    site.Extends made.2 (operation.toList.map fun operation => ⟨some name, operation⟩) transitions

variable {member name} {site : Site ι ε S P}

theorem store_engine {operation : Operation S P} {answer : operation.Answer}
    (answered : site.memory.answer operation = answer) :
    (member.engine name).store operation site =
      (answer, (Site.perform (some name) member.elapse operation site).2) := by
  rw [← answered]
  rfl

/-- The store carries an operation out, and the surroundings go on. -/
theorem store_of_run {operation : Operation S P} {answer : operation.Answer} {memory : Memory S P}
    (ran : Memory.run operation site.memory = (answer, memory)) :
    ∃ after, (member.engine name).store operation site = (answer, after) ∧
      after.memory = memory ∧ after.transitions = site.transitions ∧
      after.surroundings = member.elapse site.surroundings :=
  ⟨_, store_engine (congrArg Prod.fst ran), congrArg Prod.snd ran, rfl, rfl⟩

theorem makes_claim (candidate : Entity S P) :
    member.Makes name site (.selected candidate)
      ((member.engine name).claim member.world.onSite candidate site) := by
  have performed := Site.Extends.perform (some name) member.elapse
    (.lease candidate.id member.holder member.config.leaseDuration (member.world.onSite.now site))
    site
  cases answered : site.memory.answer
      (.lease candidate.id member.holder member.config.leaseDuration
        (member.world.onSite.now site)) with
  | error error =>
    obtain ⟨ending, entry, ends⟩ := Engine.claim_of_error _ _ (store_engine answered)
    rw [ends]
    exact ⟨_, _, .refused ending answered, performed.trans (.log member.world entry _)⟩
  | ok leased =>
    rw [Engine.claim_of_ok _ _ (store_engine answered)]
    unfold Engine.afterLease
    split
    · exact ⟨_, _, .withdraws answered, performed.trans (.log member.world _ _)⟩
    · next unchanged =>
      split
      · next asked =>
        exact ⟨_, _, .cancels _ answered (not_not.mp unchanged) asked, performed⟩
      · next notAsked =>
        cases handled : member.registry.handler? leased.state with
        | some handler =>
          have known : (member.engine name).registry.handler? leased.state = some handler := handled
          rw [known]
          exact ⟨_, _,
            .begins answered (not_not.mp unchanged) (eq_false_of_ne_true notAsked) handled,
            performed⟩
        | none =>
          have unknown : (member.engine name).registry.handler? leased.state = none := handled
          rw [unknown]
          exact ⟨_, _, .withdraws answered, performed.trans (.log member.world _ _)⟩

theorem move_judge (memory : Memory S P) (leased : Entity S P) (now : Instant)
    (verdict : Verdict S P) (work : Work Call Response (Reply S P)) :
    member.Move memory (.working leased work) none []
      ((member.engine name).judge leased now verdict) := by
  cases verdict with
  | success target payload =>
    unfold Engine.judge
    dsimp only
    split
    · next allowed => exact .succeeds target payload now allowed
    · exact .concludes (.fatal _ now) nofun
  | retry reason =>
    unfold Engine.judge
    dsimp only
    split
    · next used => exact .concludes (.exhausted _ now ⟨reason, used⟩) nofun
    · next remaining => exact .concludes (.retry reason now (eq_false_of_ne_true remaining)) nofun
  | fatal reason => exact .concludes (.fatal reason now) nofun

theorem makes_work (leased : Entity S P) (work : Work Call Response (Reply S P)) :
    member.Makes name site (.working leased work)
      ((member.engine name).work member.world.onSite leased work site) := by
  have driven := Site.Extends.drive member.world work site
  rcases came : work.drive member.world.onSite site with ⟨progress, after⟩
  rw [came] at driven
  cases progress with
  | waiting millis rest =>
    rw [Engine.work_of_waiting _ _ came]
    exact ⟨none, [], .waits millis rest, driven⟩
  | finished reply =>
    obtain ⟨final, reached, worked⟩ :=
      Engine.work_of_finished (member.engine name) _ leased came
    rw [worked]
    refine ⟨none, [], move_judge site.memory leased _ reply.verdict work, ?_⟩
    rcases reached with rfl | ⟨entry, rfl⟩
    · exact driven
    · exact driven.trans (.log member.world entry after)

theorem makes_confirm (leased : Entity S P) (target : S) (payload : P) (now : Instant) :
    member.Makes name site (.confirming leased target payload now)
      ((member.engine name).step member.world.onSite (.confirming leased target payload now)
        site) := by
  have answered : site.memory.answer (.find leased.id) = .ok (site.memory.find? leased.id) := rfl
  have performed := Site.Extends.perform (some name) member.elapse (.find leased.id) site
  rw [Engine.step_confirming_of_ok _ _ (store_engine answered)]
  unfold Engine.confirm
  split
  · next asked =>
    obtain ⟨stored, found, requested⟩ := (Option.any_eq_true _ _).mp asked
    exact ⟨_, _, .yields found requested, performed⟩
  · next notAsked =>
    refine ⟨_, _, .confirms fun stored found => ?_, performed⟩
    rw [found] at notAsked
    exact eq_false_of_ne_true notAsked

theorem makes_persist (leased result : Entity S P) (outcome : Outcome) :
    member.Makes name site (.persisting leased result outcome)
      ((member.engine name).persist member.world.onSite leased result outcome site) := by
  have performed := Site.Extends.perform (some name) member.elapse
    (.update { result with lease := none }) site
  cases answered : site.memory.answer (.update { result with lease := none }) with
  | error error =>
    have conflict : error.isConflict = true := by
      have named := Memory.run_update_of_error answered
      have same : site.memory.answer (.update { result with lease := none }) =
        .error (.concurrency result.id result.version) := congrArg Prod.fst named
      rw [answered] at same
      cases same
      rfl
    obtain ⟨entry, ends⟩ :=
      Engine.persist_of_conflict (member.engine name) member.world.onSite leased outcome
        (store_engine answered) conflict
    rw [ends]
    exact ⟨_, _, .overtaken answered, performed.trans (.log member.world entry _)⟩
  | ok saved =>
    rw [Engine.persist_of_ok _ _ (store_engine answered)]
    exact ⟨_, _, .persists answered, performed.trans (.emit member.world _ _)⟩

/-- **Engines make no other steps than the moves.** -/
theorem makes_step (attempt : Attempt S P Call Response) :
    member.Makes name site attempt
      ((member.engine name).step member.world.onSite attempt site) := by
  cases attempt with
  | selected candidate => exact makes_claim candidate
  | working leased work => exact makes_work leased work
  | waiting millis leased work => exact ⟨none, [], .resumes millis, .refl site⟩
  | confirming leased target payload now => exact makes_confirm leased target payload now
  | persisting leased result outcome => exact makes_persist leased result outcome
  | releasing leased =>
    have performed := Site.Extends.perform (some name) member.elapse
      (.release leased.id member.holder) site
    obtain ⟨had, answered⟩ := site.memory.answer_release leased.id member.holder
    have ends : (member.engine name).step member.world.onSite (.releasing leased) site = _ :=
      Engine.release_of_ok _ _ (store_engine answered)
    rw [ends]
    exact ⟨_, _, .releases, performed⟩
  | ended ending => exact ⟨none, [], .rests, .refl site⟩

end Steps

end Member

end Leasehold
