/-
**An entity that a member spares.**

If nobody but a member writes an entity, and no attempt of the member is about it, then nothing
happens to the entity. Other entities, the other members and the surroundings do as they like.

* `Move.revises_of_apart`: a step of an attempt on another entity leaves an entity as it is;
* `Fleet.given`, `Fleet.replied`: what the handlers of a member are given, and what they reply;
* `Fleet.IsAlone`: the steps in which nobody but a member writes an entity;
* `State.Spares`: no attempt of a member is about an entity, except the one at a place;
* `step_spared`, `spared_run`: nothing happens to an entity that a member spares.
-/

import Leasehold.Proofs.Fleet.Selection

set_option linter.unusedSectionVars false

namespace Leasehold

variable {ι ε S P Call : Type} {Response : Call → Type} [DecidableEq S] [ProcessState S]

/-! ### Attempts on other entities -/

namespace Member

variable {member : Member ε S P Call Response} {memory : Memory S P}
  {attempt next : Attempt S P Call Response} {operation : Option (Operation S P)}
  {transitions : List Transition}

/-- A step of an attempt on another entity leaves an entity as it is. -/
theorem Move.revises_of_apart (move : member.Move memory attempt operation transitions next)
    (warranted : attempt.IsWarranted member) {stored : Entity S P}
    (apart : ∀ subject, attempt.subject? = some subject → subject.id ≠ stored.id)
    {performed : Operation S P} (performs : operation = some performed) :
    performed.revise stored = stored := by
  have leases : ∀ {id : String} {now : Instant}, id ≠ stored.id →
      (Operation.lease id member.holder member.config.leaseDuration now).revise stored = stored := by
    intro id now other
    have missed : (Operation.lease id member.holder member.config.leaseDuration now).takesEffect
        stored = false := by
      show (decide (stored.id = id) && stored.isFreeAt now) = false
      rw [decide_eq_false other.symm, Bool.false_and]
    unfold Operation.revise
    rw [missed]
    rfl
  cases move with
  | refused | withdraws | cancels | begins =>
    cases performs
    exact leases (apart _ rfl)
  | waits | succeeds | concludes | resumes | rests => cases performs
  | yields | confirms =>
    cases performs
    rfl
  | persists | overtaken =>
    cases performs
    exact Operation.revise_update_of_ne fun same =>
      apart _ rfl ((Warrant.keeps warranted).1.symm.trans same.symm)
  | @releases leased =>
    cases performs
    have missed : (Operation.release leased.id member.holder).takesEffect stored = false := by
      show (decide (stored.id = leased.id) && stored.isLeasedBy member.holder) = false
      rw [decide_eq_false (apart _ rfl).symm, Bool.false_and]
    unfold Operation.revise
    rw [missed]
    rfl

end Member

/-! ### Handlers -/

/-- What a handler is given with a step of its attempt. -/
def Attempt.handed? : Attempt S P Call Response → Attempt S P Call Response →
    Option (Entity S P)
  | .selected _, .working leased _ => some leased
  | _, _ => none

/-- What a handler replies with the next step of its attempt. -/
def Member.reply? (member : Member ε S P Call Response) (site : Site ι ε S P) :
    Attempt S P Call Response → Option (Reply S P)
  | .working _ work =>
    match (work.drive member.world.onSite site).1 with
    | .finished reply => some reply
    | .waiting _ _ => none
  | _ => none

namespace Fleet

variable [DecidableEq ι] (fleet : Fleet ι ε S P Call Response) (name : ι) (id : String)

/-- The entity with an id, if the handlers of a member are given it with an action. -/
def given (state : State ι ε S P Call Response) (action : Action ι ε S P) : List (Entity S P) :=
  match action with
  | .proceed other number =>
    if other = name then
      (((state.attempt? name number).bind fun attempt =>
        ((fleet.step state action).attempt? name number).bind attempt.handed?).filter
          (·.id = id)).toList
    else []
  | .pass _ | .call _ | .poll _ | .stop _ => []

/-- What the handlers of a member reply with an action about the entity with an id. -/
def replied (state : State ι ε S P Call Response) (action : Action ι ε S P) : List (Reply S P) :=
  match action with
  | .proceed other number =>
    if other = name then
      (((state.attempt? name number).filter fun attempt => attempt.subject?.any (·.id = id)).bind
        ((fleet name).reply? state.site)).toList
    else []
  | .pass _ | .call _ | .poll _ | .stop _ => []

variable {fleet name id} {state : State ι ε S P Call Response} {action : Action ι ε S P}

/-- A handler is given what its attempt leased. -/
theorem exists_of_mem_given {leased : Entity S P} (member : leased ∈ fleet.given name id state action) :
    ∃ number, action = .proceed name number ∧
      (fleet.step state action).subject? name number = some leased ∧ leased.id = id := by
  cases action with
  | proceed other number =>
    simp only [given] at member
    split at member
    · next own =>
      subst own
      obtain ⟨handed, sameId⟩ := Option.filter_eq_some_iff.mp (Option.mem_toList.mp member)
      obtain ⟨attempt, _, handed⟩ := Option.bind_eq_some_iff.mp handed
      obtain ⟨next, later, handed⟩ := Option.bind_eq_some_iff.mp handed
      refine ⟨number, rfl, ?_, of_decide_eq_true sameId⟩
      unfold State.subject?
      rw [later]
      cases attempt with
      | selected _ =>
        cases next with
        | working _ _ => exact handed
        | _ => cases handed
      | _ => cases handed
    · cases member
  | pass _ | call _ | poll _ | stop _ => cases member

/-- A handler replies about what its attempt leased. -/
theorem exists_of_mem_replied {reply : Reply S P}
    (member : reply ∈ fleet.replied name id state action) :
    ∃ number subject, action = .proceed name number ∧
      state.subject? name number = some subject ∧ subject.id = id := by
  cases action with
  | proceed other number =>
    simp only [replied] at member
    split at member
    · next own =>
      subst own
      obtain ⟨attempt, there, _⟩ := Option.bind_eq_some_iff.mp (Option.mem_toList.mp member)
      obtain ⟨there, about⟩ := Option.filter_eq_some_iff.mp there
      cases isSubject : attempt.subject? with
      | none =>
        rw [isSubject] at about
        cases about
      | some subject =>
        rw [isSubject] at about
        exact ⟨number, subject, rfl, Option.bind_eq_some_iff.mpr ⟨attempt, there, isSubject⟩,
          of_decide_eq_true about⟩
    · cases member
  | pass _ | call _ | poll _ | stop _ => cases member

/-- What a handler is given in a step of an attempt. -/
theorem given_proceed {number : Nat} {attempt next : Attempt S P Call Response}
    (there : state.attempt? name number = some attempt)
    (reached : (fleet.step state (.proceed name number)).attempt? name number = some next)
    (sameId : ∀ leased, attempt.handed? next = some leased → leased.id = id) :
    fleet.given name id state (.proceed name number) = (attempt.handed? next).toList := by
  simp only [Fleet.given, if_true, there, reached, Option.bind_some]
  cases handed : attempt.handed? next with
  | none => rfl
  | some leased => simp only [Option.filter_some, sameId leased handed, decide_true, if_true]

/-- What a handler replies in a step of an attempt. -/
theorem replied_proceed {number : Nat} {attempt : Attempt S P Call Response}
    (there : state.attempt? name number = some attempt)
    (sameId : ∀ subject, attempt.subject? = some subject → subject.id = id) :
    fleet.replied name id state (.proceed name number) =
      ((fleet name).reply? state.site attempt).toList := by
  simp only [Fleet.replied, if_true, there, Option.filter_some]
  cases about : attempt.subject? with
  | none =>
    cases attempt with
    | ended _ => rfl
    | _ => cases about
  | some subject =>
    simp only [Option.any_some, sameId subject about, decide_true, if_true, Option.bind_some]

/-! ### Steps of the others -/

variable (fleet name id)

/-- Nobody but a member writes an entity with a step, and the member does not poll. -/
structure IsAlone (state : State ι ε S P Call Response) (action : Action ι ε S P) : Prop where
  noPoll : action ≠ .poll name
  unwritten : (∀ number, action ≠ .proceed name number) →
    (fleet.step state action).site.memory.find? id = state.site.memory.find? id

/-- No attempt of a member is about the entity with an id, except the one at a place. -/
def State.Spares (place? : Option Nat) (state : State ι ε S P Call Response) : Prop :=
  ∀ number subject, some number ≠ place? → state.subject? name number = some subject →
    subject.id ≠ id

variable {fleet name id} {place? : Option Nat}

/-- What the member does itself is not done by anybody else. -/
theorem isAlone_proceed (number : Nat) : fleet.IsAlone name id state (.proceed name number) :=
  ⟨nofun, fun others => absurd rfl (others number)⟩

/-- An idle member spares every entity. -/
theorem State.Spares.of_isIdle (idle : state.isIdle name = true) :
    state.Spares name id place? := by
  intro number subject _ about
  obtain ⟨attempt, there, about⟩ := Option.bind_eq_some_iff.mp about
  have ended := List.all_eq_true.mp idle attempt (List.mem_of_getElem? there)
  cases attempt with
  | ended _ => cases about
  | _ => cases ended

/-- What the attempts of a member are about, they were about before. -/
theorem exists_subject_before (noPoll : action ≠ .poll name) {number : Nat} {later : Entity S P}
    (about : (fleet.step state action).subject? name number = some later) :
    ∃ earlier, state.subject? name number = some earlier ∧ later.id = earlier.id := by
  have change := fleet.change_step state action
  generalize fleet.step state action = after at change about
  cases change with
  | rests | calls | stops => exact ⟨later, about, rfl⟩
  | @polls other =>
    unfold State.subject? at about ⊢
    rw [State.attempt?_poll, if_neg] at about
    · exact ⟨later, about, rfl⟩
    · rintro rfl
      exact noPoll rfl
  | proceeds there move performed =>
    unfold State.subject? at about
    rw [State.attempt?_proceed there] at about
    split at about
    · next here =>
      obtain ⟨rfl, rfl⟩ := here
      obtain ⟨earlier, before, sameId⟩ := move.subject about
      refine ⟨earlier, ?_, sameId⟩
      unfold State.subject?
      have reached : state.attempt? name number = some _ := there
      rw [reached]
      exact before
    · exact ⟨later, about, rfl⟩

/-- Whoever is spared stays spared. -/
theorem State.Spares.step (spares : state.Spares name id place?) (noPoll : action ≠ .poll name) :
    (fleet.step state action).Spares name id place? := by
  intro number subject elsewhere about
  obtain ⟨earlier, before, sameId⟩ := exists_subject_before noPoll about
  rw [sameId]
  exact spares number earlier elsewhere before

/-- Nothing happens to an entity while nobody is about it but the attempt at a place, and this
attempt waits. -/
theorem step_spared (tidy : state.Tidy fleet) (spares : state.Spares name id place?)
    (alone : fleet.IsAlone name id state action)
    (elsewhere : ∀ number, action = .proceed name number → some number ≠ place?)
    {stored : Entity S P} (found : state.site.memory.find? id = some stored) :
    (fleet.step state action).site.memory.find? id = some stored ∧
      fleet.given name id state action = [] ∧ fleet.replied name id state action = [] := by
  refine ⟨?_, ?_, ?_⟩
  · by_cases own : ∃ number, action = .proceed name number
    · obtain ⟨number, rfl⟩ := own
      have change := fleet.change_step state (.proceed name number)
      generalize fleet.step state (.proceed name number) = after at change
      cases change with
      | rests unchanged =>
        rw [unchanged.memory]
        exact found
      | @proceeds _ _ attempt next operation _ _ there move performed =>
        have apart : ∀ subject, attempt.subject? = some subject → subject.id ≠ stored.id := by
          intro subject about
          rw [Memory.id_of_find? found]
          exact spares number subject (elsewhere number rfl)
            (Option.bind_eq_some_iff.mpr ⟨attempt, there, about⟩)
        rw [performed.memory]
        cases performs : operation with
        | none => exact found
        | some deed =>
          have kept := move.revises_of_apart (tidy.warranted there) apart performs
          exact (Memory.find?_after_of_found found deed).trans (congrArg some kept)
    · rw [alone.unwritten fun number same => own ⟨number, same⟩]
      exact found
  · refine List.eq_nil_iff_forall_not_mem.mpr fun leased member => ?_
    obtain ⟨number, rfl, about, sameId⟩ := exists_of_mem_given member
    obtain ⟨earlier, before, same⟩ := exists_subject_before alone.noPoll about
    exact spares number earlier (elsewhere number rfl) before (same.symm.trans sameId)
  · refine List.eq_nil_iff_forall_not_mem.mpr fun reply member => ?_
    obtain ⟨number, subject, rfl, about, sameId⟩ := exists_of_mem_replied member
    exact spares number subject (elsewhere number rfl) about sameId

/-- Nothing happens to an entity that a member spares. -/
theorem spared_run (tidy : state.Tidy fleet) (spares : state.Spares name id none)
    {actions : List (Action ι ε S P)} (alone : fleet.Along (fleet.IsAlone name id) state actions)
    {stored : Entity S P} (found : state.site.memory.find? id = some stored) :
    (fleet.run state actions).Tidy fleet ∧ (fleet.run state actions).Spares name id none ∧
      (fleet.run state actions).site.memory.find? id = some stored ∧
      fleet.observe (fleet.given name id) state actions = [] ∧
      fleet.observe (fleet.replied name id) state actions = [] := by
  induction actions generalizing state with
  | nil => exact ⟨tidy, spares, found, rfl, rfl⟩
  | cons action rest ih =>
    obtain ⟨here, later⟩ := alone
    obtain ⟨kept, givesNone, repliesNone⟩ :=
      step_spared tidy spares here (fun number _ => Option.some_ne_none number) found
    obtain ⟨tidyLast, sparesLast, foundLast, givenLater, repliedLater⟩ :=
      ih (tidy.kept (fleet.change_step state action)) (spares.step here.noPoll) later kept
    refine ⟨tidyLast, sparesLast, foundLast, ?_, ?_⟩
    · show fleet.given name id state action ++ _ = []
      rw [givesNone, givenLater]
      rfl
    · show fleet.replied name id state action ++ _ = []
      rw [repliesNone, repliedLater]
      rfl

end Fleet

end Leasehold
