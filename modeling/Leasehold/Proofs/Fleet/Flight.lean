/-
**Attempts in flight.**

An attempt is about one entity from its selection to its end. Once it has leased the entity it has a
claim: the entity as it was leased, from which the outcome is made.

* `Attempt.subject?`, `Attempt.leased?`: what an attempt is about, and its claim;
* `Member.Turn`, `Move.turn`: what a step means for the claim. There are six ways;
* `Fleet.Shift`, `Change.shift`: what an action of a fleet means for all claims;
* `State.Tidy`, `tidy_run`: the attempts of a member are about different entities, and what they are
  about to write is warranted by their claims.
-/

import Leasehold.Proofs.Fleet.Run
import Leasehold.Proofs.Store.Page

set_option linter.unusedSectionVars false

namespace Leasehold

variable {ι ε S P Call : Type} {Response : Call → Type} [DecidableEq S] [ProcessState S]

/-! ### Claims -/

namespace Attempt

/-- The entity that an attempt is about, as it was selected or leased. -/
def subject? : Attempt S P Call Response → Option (Entity S P)
  | .selected entity | .working entity _ | .waiting _ entity _ | .confirming entity _ _ _
  | .persisting entity _ _ | .releasing entity => some entity
  | .ended _ => none

/-- The claim of an attempt: the entity as it was leased. -/
def leased? : Attempt S P Call Response → Option (Entity S P)
  | .working leased _ | .waiting _ leased _ | .confirming leased _ _ _ | .persisting leased _ _
  | .releasing leased => some leased
  | .selected _ | .ended _ => none

/-- An attempt is about its claim. -/
theorem subject?_of_leased? {attempt : Attempt S P Call Response} {leased : Entity S P}
    (claimed : attempt.leased? = some leased) : attempt.subject? = some leased := by
  cases attempt with
  | selected _ | ended _ => cases claimed
  | working _ _ | waiting _ _ _ | confirming _ _ _ _ | persisting _ _ _ | releasing _ =>
    exact claimed

/-- What an attempt is about to write is warranted by its claim. -/
def IsWarranted (member : Member ε S P Call Response) : Attempt S P Call Response → Prop
  | .confirming leased next _ _ => member.registry.allows leased.state next = true
  | .persisting leased result outcome =>
    Warrant member.registry member.config.retry leased result outcome
  | _ => True

end Attempt

namespace Warrant

variable {registry : Registry S P Call Response} {policy : RetryPolicy}
  {leased result : Entity S P} {outcome : Outcome}

/-- A result keeps what tells an entity from others, and its version and lease. -/
theorem keeps (warranted : Warrant registry policy leased result outcome) :
    result.id = leased.id ∧ result.version = leased.version ∧
      result.createdAt = leased.createdAt ∧ result.traceContext = leased.traceContext := by
  cases warranted <;> exact ⟨rfl, rfl, rfl, rfl⟩

end Warrant

/-! ### Steps and claims -/

namespace Member

/-- What a step means for the claim of its attempt. -/
inductive Turn (member : Member ε S P Call Response) (memory : Memory S P) :
    Option (Entity S P) → Option (Operation S P) → Option (Entity S P) → Prop where
  | rests {claim : Option (Entity S P)} : Turn member memory claim none claim
  | looks {claim : Option (Entity S P)} (id : String) :
      Turn member memory claim (some (.find id)) claim
  | misses {id : String} {now : Instant} {error : StoreError}
      (denied : memory.answer (.lease id member.holder member.config.leaseDuration now) =
        .error error) :
      Turn member memory none (some (.lease id member.holder member.config.leaseDuration now)) none
  | gains {leased : Entity S P} {now : Instant}
      (claimed : memory.answer
        (.lease leased.id member.holder member.config.leaseDuration now) = .ok leased) :
      Turn member memory none
        (some (.lease leased.id member.holder member.config.leaseDuration now)) (some leased)
  | writes {leased result : Entity S P} (sameId : result.id = leased.id)
      (sameVersion : result.version = leased.version) :
      Turn member memory (some leased) (some (.update result)) none
  | yields {leased : Entity S P} :
      Turn member memory (some leased) (some (.release leased.id member.holder)) none

variable {member : Member ε S P Call Response} {memory : Memory S P}
  {attempt next : Attempt S P Call Response} {operation : Option (Operation S P)}
  {transitions : List Transition}

/-- An entity is leased under its own id. -/
theorem id_of_leased {id holder : String} {duration : Duration} {now : Instant}
    {leased : Entity S P} (claimed : memory.answer (.lease id holder duration now) = .ok leased) :
    leased.id = id := by
  obtain ⟨stored, found, _, rfl⟩ := Memory.answer_lease_eq_ok_iff.mp claimed
  show stored.id = id
  exact Memory.id_of_find? found

/-- **A step takes one of the turns.** -/
theorem Move.turn (move : member.Move memory attempt operation transitions next)
    (warranted : attempt.IsWarranted member) :
    member.Turn memory attempt.leased? operation next.leased? := by
  have gained : ∀ {id : String} {now : Instant} {leased : Entity S P},
      memory.answer (.lease id member.holder member.config.leaseDuration now) = .ok leased →
        member.Turn memory none
          (some (.lease id member.holder member.config.leaseDuration now)) (some leased) := by
    intro id now leased claimed
    obtain rfl := id_of_leased claimed
    exact .gains claimed
  cases move with
  | refused ending denied => exact .misses denied
  | withdraws claimed => exact gained claimed
  | cancels later claimed unchanged asked => exact gained claimed
  | begins claimed unchanged notAsked handled => exact gained claimed
  | waits | succeeds | concludes | resumes | rests => exact .rests
  | yields | confirms => exact .looks _
  | persists written =>
    have kept := Warrant.keeps warranted
    exact .writes kept.1 kept.2.1
  | overtaken failed =>
    have kept := Warrant.keeps warranted
    exact .writes kept.1 kept.2.1
  | releases => exact .yields

/-- A step leads to a warranted attempt. -/
theorem Move.warranted (move : member.Move memory attempt operation transitions next)
    (warranted : attempt.IsWarranted member) : next.IsWarranted member := by
  cases move with
  | cancels later claimed unchanged asked => exact .cancelled later
  | succeeds target payload now allowed => exact allowed
  | concludes concluded => exact concluded
  | yields found asked => exact .cancelled _
  | confirms notAsked => exact .success _ _ _ warranted
  | refused | withdraws | begins | waits | resumes | persists | overtaken | releases | rests =>
    trivial

/-- A step stays with its entity, or ends the attempt. -/
theorem Move.subject (move : member.Move memory attempt operation transitions next)
    {later : Entity S P} (about : next.subject? = some later) :
    ∃ earlier, attempt.subject? = some earlier ∧ later.id = earlier.id := by
  cases move with
  | refused | persists | overtaken | releases | rests => cases about
  | withdraws claimed | cancels _ claimed | begins claimed =>
    cases about
    exact ⟨_, rfl, id_of_leased claimed⟩
  | waits | succeeds | concludes | resumes | yields | confirms =>
    exact ⟨_, rfl, by cases about; rfl⟩

end Member

namespace Fleet

variable [DecidableEq ι]

/-! ### The attempts of a fleet -/

namespace State

variable (state : State ι ε S P Call Response)

/-- The attempt of a member with a number. -/
def attempt? (name : ι) (number : Nat) : Option (Attempt S P Call Response) :=
  (state.batches name)[number]?

/-- What the attempt of a member with a number is about. -/
def subject? (name : ι) (number : Nat) : Option (Entity S P) :=
  (state.attempt? name number).bind Attempt.subject?

/-- The claim of the attempt of a member with a number. -/
def claim? (name : ι) (number : Nat) : Option (Entity S P) :=
  (state.attempt? name number).bind Attempt.leased?

/-- The attempts of a member are about different entities, and write what is warranted. -/
structure Tidy (fleet : Fleet ι ε S P Call Response) : Prop where
  distinct : ∀ {name first second one other}, state.subject? name first = some one →
    state.subject? name second = some other → one.id = other.id → first = second
  warranted : ∀ {name number attempt}, state.attempt? name number = some attempt →
    attempt.IsWarranted (fleet name)

variable {state} {name : ι}

/-- The attempts after one of them made a step. -/
theorem attempt?_proceed {number : Nat} {attempt next : Attempt S P Call Response}
    (there : (state.batches name)[number]? = some attempt) (after : Site ι ε S P) (other : ι)
    (place : Nat) :
    (State.mk after (Function.update state.batches name ((state.batches name).set number next))
      ).attempt? other place =
      if other = name ∧ place = number then some next else state.attempt? other place := by
  unfold attempt?
  dsimp only
  by_cases same : other = name
  · subst same
    rw [Function.update_self]
    by_cases atPlace : place = number
    · subst atPlace
      obtain ⟨inside, _⟩ := List.getElem?_eq_some_iff.mp there
      rw [if_pos ⟨rfl, rfl⟩, List.getElem?_set_self inside]
    · rw [if_neg fun both => atPlace both.2, List.getElem?_set_ne fun equal => atPlace equal.symm]
  · rw [Function.update_of_ne same, if_neg fun both => same both.1]

/-- The attempts after a poll. -/
theorem attempt?_poll (after : Site ι ε S P) (selection : List (Entity S P)) (other : ι)
    (place : Nat) :
    (State.mk after (Function.update state.batches name (selection.map .selected))).attempt? other
        place =
      if other = name then selection[place]?.map .selected else state.attempt? other place := by
  unfold attempt?
  dsimp only
  by_cases same : other = name
  · subst same
    rw [Function.update_self, if_pos rfl, List.getElem?_map]
  · rw [Function.update_of_ne same, if_neg same]

/-- A member whose batch is over has no claims. -/
theorem claim?_of_over (finished : (state.batches name).all (·.isOver) = true) (number : Nat) :
    state.claim? name number = none := by
  unfold claim? attempt?
  cases there : (state.batches name)[number]? with
  | none => rfl
  | some attempt =>
    have ended := List.all_eq_true.mp finished attempt (List.mem_of_getElem? there)
    cases attempt with
    | ended ending => rfl
    | _ => cases ended

/-- The holder of a claim is about it. -/
theorem subject?_of_claim? {number : Nat} {leased : Entity S P}
    (claimed : state.claim? name number = some leased) :
    state.subject? name number = some leased := by
  obtain ⟨attempt, there, claimed⟩ := Option.bind_eq_some_iff.mp claimed
  exact Option.bind_eq_some_iff.mpr ⟨attempt, there, Attempt.subject?_of_leased? claimed⟩

end State

/-! ### Actions and claims -/

/-- What an action of a fleet means for the store and for all claims. -/
inductive Shift (fleet : Fleet ι ε S P Call Response) (state : State ι ε S P Call Response)
    (action : Action ι ε S P) (after : State ι ε S P Call Response) : Prop where
  | rests (same : ∀ other place, after.claim? other place = state.claim? other place)
      (unchanged : state.site.Extends after.site [] [])
  | calls {operation : Operation S P} (called : action = .call operation)
      (same : ∀ other place, after.claim? other place = state.claim? other place)
      (performed : state.site.Extends after.site [⟨none, operation⟩] [])
  | polls {name : ι} {criteria : Criteria S}
      (same : ∀ other place, after.claim? other place = state.claim? other place)
      (performed : state.site.Extends after.site [⟨some name, .query criteria⟩] [])
  | turns {name : ι} {number : Nat} {operation : Option (Operation S P)}
      {transitions : List Transition}
      (turn : (fleet name).Turn state.site.memory (state.claim? name number) operation
        (after.claim? name number))
      (others : ∀ other place, ¬(other = name ∧ place = number) →
        after.claim? other place = state.claim? other place)
      (performed : state.site.Extends after.site
        (operation.toList.map fun operation => ⟨some name, operation⟩) transitions)
  | stops {name : ι} (free : ∀ place, state.claim? name place = none)
      (same : ∀ other place, after.claim? other place = state.claim? other place)
      (performed : state.site.Extends after.site
        [⟨some name, .releaseAll (fleet name).holder⟩] [])

variable {fleet : Fleet ι ε S P Call Response} {state after : State ι ε S P Call Response}
  {action : Action ι ε S P}

/-- **An action means one of these things for the claims.** -/
theorem Change.shift (change : fleet.Change state action after) (tidy : state.Tidy fleet) :
    fleet.Shift state action after := by
  cases change with
  | rests unchanged => exact .rests (fun _ _ => rfl) unchanged
  | calls performed => exact .calls rfl (fun _ _ => rfl) performed
  | @polls name after criteria finished due performed =>
    refine .polls (fun other place => ?_) performed
    unfold State.claim?
    rw [State.attempt?_poll]
    split
    · next same =>
      subst same
      have none : state.claim? other place = none := State.claim?_of_over finished place
      unfold State.claim? at none
      rw [none]
      cases (state.site.memory.query criteria)[place]? <;> rfl
    · rfl
  | @proceeds name number attempt next operation transitions after there move performed =>
    have before : state.claim? name number = attempt.leased? := by
      unfold State.claim? State.attempt?
      rw [there]
      rfl
    have afterwards : (State.mk after (Function.update state.batches name
        ((state.batches name).set number next))).claim? name number = next.leased? := by
      unfold State.claim?
      rw [State.attempt?_proceed there, if_pos ⟨rfl, rfl⟩]
      rfl
    have turn := move.turn (tidy.warranted there)
    rw [← before, ← afterwards] at turn
    refine .turns turn (fun other place elsewhere => ?_) performed
    unfold State.claim?
    rw [State.attempt?_proceed there, if_neg elsewhere]
  | stops finished performed =>
    exact .stops (State.claim?_of_over finished) (fun _ _ => rfl) performed

/-- An attempt takes the step of the engine. -/
theorem step_proceed {name : ι} {number : Nat} {attempt next : Attempt S P Call Response}
    {after : Site ι ε S P} (there : state.attempt? name number = some attempt)
    (steps : ((fleet name).engine name).step (fleet name).world.onSite attempt state.site =
      (next, after)) :
    fleet.step state (.proceed name number) =
      ⟨after, Function.update state.batches name ((state.batches name).set number next)⟩ := by
  have listed : (state.batches name)[number]? = some attempt := there
  simp only [step, listed, steps]

/-- Where there is no attempt, nothing happens. -/
theorem step_proceed_of_none {name : ι} {number : Nat}
    (missing : state.attempt? name number = none) :
    fleet.step state (.proceed name number) = state := by
  have nobody : (state.batches name)[number]? = none := missing
  simp only [step, nobody]

/-- An attempt that goes on makes one of its moves. -/
theorem move_proceed (fleet : Fleet ι ε S P Call Response) {name : ι} {number : Nat}
    {attempt : Attempt S P Call Response} (there : state.attempt? name number = some attempt) :
    let after := fleet.step state (.proceed name number)
    ∃ operation transitions next,
      (fleet name).Move state.site.memory attempt operation transitions next ∧
      after.attempt? name number = some next ∧
      state.site.Extends after.site (operation.toList.map fun operation => ⟨some name, operation⟩)
        transitions := by
  have listed : (state.batches name)[number]? = some attempt := there
  have made : (fleet name).Makes name state.site attempt _ := Member.makes_step attempt
  obtain ⟨operation, transitions, move, performed⟩ := made
  refine ⟨operation, transitions, _, move, ?_, ?_⟩
  · simp only [step, listed]
    exact (State.attempt?_proceed listed _ _ _).trans (if_pos ⟨rfl, rfl⟩)
  · simp only [step, listed]
    exact performed

/-! ### Tidy states -/

/-- What was just selected at a place has the id at this place of the query. -/
theorem id_of_selected {candidates : List (Entity S P)} {place : Nat} {entity : Entity S P}
    (about : (candidates[place]?.map Attempt.selected :
      Option (Attempt S P Call Response)).bind Attempt.subject? = some entity) :
    (candidates.map (·.id))[place]? = some entity.id := by
  rw [List.getElem?_map]
  cases found : candidates[place]? with
  | none =>
    rw [found] at about
    cases about
  | some candidate =>
    rw [found] at about
    cases about
    rfl

/-- A poll keeps a state tidy, since a query hands out no entity twice. -/
theorem State.Tidy.poll (tidy : state.Tidy fleet) (name : ι) (site : Site ι ε S P)
    (criteria : Criteria S) :
    (State.mk site (Function.update state.batches name
      ((state.site.memory.query criteria).map Attempt.selected))).Tidy fleet := by
  constructor
  · intro other first second one another firstAbout secondAbout sameId
    unfold State.subject? at firstAbout secondAbout
    rw [State.attempt?_poll] at firstAbout secondAbout
    split at firstAbout
    · next same =>
      rw [if_pos same] at secondAbout
      have apart := state.site.memory.nodup_query criteria
      have firstId := id_of_selected firstAbout
      have secondId := id_of_selected secondAbout
      rw [sameId] at firstId
      exact (List.getElem?_inj (List.getElem?_eq_some_iff.mp firstId).1 apart).mp
        (firstId.trans secondId.symm)
    · next elsewhere =>
      rw [if_neg elsewhere] at secondAbout
      exact tidy.distinct firstAbout secondAbout sameId
  · intro other number attempt there
    rw [State.attempt?_poll] at there
    split at there
    · obtain ⟨candidate, _, rfl⟩ := Option.map_eq_some_iff.mp there
      trivial
    · exact tidy.warranted there

/-- A step of an attempt keeps a state tidy, since the attempt stays with its entity. -/
theorem State.Tidy.proceed (tidy : state.Tidy fleet) {name : ι} {number : Nat}
    {attempt next : Attempt S P Call Response} {operation : Option (Operation S P)}
    {transitions : List Transition} (there : state.attempt? name number = some attempt)
    (move : (fleet name).Move state.site.memory attempt operation transitions next)
    (site : Site ι ε S P) :
    (State.mk site (Function.update state.batches name
      ((state.batches name).set number next))).Tidy fleet := by
  -- What an attempt is about after the step, it was about before.
  have earlier : ∀ {other : ι} {place : Nat} {later : Entity S P},
      (State.mk site (Function.update state.batches name
        ((state.batches name).set number next))).subject? other place = some later →
        ∃ before, state.subject? other place = some before ∧ later.id = before.id := by
    intro other place later about
    unfold State.subject? at about
    rw [State.attempt?_proceed there] at about
    split at about
    · next here =>
      obtain ⟨rfl, rfl⟩ := here
      obtain ⟨before, subject, sameId⟩ := move.subject about
      refine ⟨before, ?_, sameId⟩
      unfold State.subject?
      rw [there]
      exact subject
    · exact ⟨later, about, rfl⟩
  constructor
  · intro other first second one another firstAbout secondAbout sameId
    obtain ⟨oneBefore, firstBefore, oneId⟩ := earlier firstAbout
    obtain ⟨otherBefore, secondBefore, otherId⟩ := earlier secondAbout
    exact tidy.distinct firstBefore secondBefore (oneId.symm.trans (sameId.trans otherId))
  · intro other place found reached
    rw [State.attempt?_proceed there] at reached
    split at reached
    · next here =>
      obtain ⟨rfl, rfl⟩ := here
      cases reached
      exact move.warranted (tidy.warranted there)
    · exact tidy.warranted reached

/-- An action keeps a state tidy. -/
theorem State.Tidy.kept (tidy : state.Tidy fleet) (change : fleet.Change state action after) :
    after.Tidy fleet := by
  cases change with
  | rests unchanged => exact ⟨tidy.distinct, tidy.warranted⟩
  | calls performed => exact ⟨tidy.distinct, tidy.warranted⟩
  | stops finished performed => exact ⟨tidy.distinct, tidy.warranted⟩
  | polls finished due performed => exact tidy.poll _ _ _
  | proceeds there move performed => exact tidy.proceed there move _

/-- **Every schedule keeps the attempts tidy.** -/
theorem State.Tidy.run (tidy : state.Tidy fleet) (actions : List (Action ι ε S P)) :
    (fleet.run state actions).Tidy fleet :=
  fleet.run_keeps (fun state => state.Tidy fleet) (fun _ => True) tidy
    (fun _ tidy change => tidy.kept change) fun _ _ => trivial

/-- The attempts are tidy from the start on. -/
theorem tidy_run (fleet : Fleet ι ε S P Call Response) (memory : Memory S P) (surroundings : ε)
    (actions : List (Action ι ε S P)) :
    (fleet.run (.start memory surroundings) actions).Tidy fleet := by
  refine State.Tidy.run ?_ actions
  constructor
  · intro name first second one other about
    cases about
  · intro name number attempt there
    cases there

end Fleet

end Leasehold
