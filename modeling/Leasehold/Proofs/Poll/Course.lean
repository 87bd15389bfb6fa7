/-
**The attempt on one entity.**

If nobody but a member writes an entity, then the attempt of the member comes its way from the
selection to the end, whatever happens in between. Only the reply of the handler decides what it
comes to.

* `Member.Course`: how far the attempt is, what is stored meanwhile, and what the handler replied;
* `Member.step_course`: its next step, while the clock of the member stands still;
* `isWay_course`: no step leaves this course;
* `State.OnCourse`, `onCourse_run`: the attempt in a fleet in which the others go on too.
-/

import Leasehold.Proofs.Poll.Settlement
import Leasehold.Proofs.Poll.Way

set_option linter.unusedSectionVars false

namespace Leasehold

variable {ι ε S P Call : Type} {Response : Call → Type} [DecidableEq S] [ProcessState S]

/-! ### The attempt on the entity -/

namespace Member

variable (member : Member ε S P Call Response) (now : Instant) (entity : Entity S P)

/-- What a reply settles of an entity. -/
abbrev settles (reply : Reply S P) : Settlement S P :=
  member.registry.settlement member.config.retry entity reply

/-- What is reported of an entity that a reply settled. -/
abbrev reports (reply : Reply S P) : Transition :=
  member.registry.report entity (entity.settle (member.settles entity reply) now)
    (member.settles entity reply).outcome

/-- How far an attempt on an entity is, with what is stored for the entity meanwhile, what a handler
was given, and what it replied. -/
inductive Course : Attempt S P Call Response → Entity S P → List (Entity S P) → List (Reply S P) →
    Prop where
  | selected (handled : ∃ handler, member.registry.handler? entity.state = some handler) :
      Course (.selected entity) entity [] []
  | working (work : Work Call Response (Reply S P)) :
      Course (.working (member.claimed now entity) work) (member.claimed now entity)
        [member.claimed now entity] []
  | waiting (millis : Nat) (work : Work Call Response (Reply S P)) :
      Course (.waiting millis (member.claimed now entity) work) (member.claimed now entity)
        [member.claimed now entity] []
  | confirming {reply : Reply S P} {next : S} {payload : P}
      (settled : member.settles entity reply = ⟨next, payload, 0, none, .success⟩) :
      Course (.confirming (member.claimed now entity) next payload now) (member.claimed now entity)
        [member.claimed now entity] [reply]
  | persisting {reply : Reply S P} {settlement : Settlement S P}
      (settled : member.settles entity reply = settlement) :
      Course
        (.persisting (member.claimed now entity)
          ((member.claimed now entity).resolve settlement now) settlement.outcome)
        (member.claimed now entity) [member.claimed now entity] [reply]
  | ended (reply : Reply S P) :
      Course (.ended (.persisted (member.settles entity reply).outcome))
        (entity.settle (member.settles entity reply) now) [member.claimed now entity] [reply]

variable {member now entity} {name : ι} {site after : Site ι ε S P} {stored : Entity S P}
  {attempt next : Attempt S P Call Response} {given : List (Entity S P)}
  {replies : List (Reply S P)}

/-- A handler at work comes to a call that takes time, or replies and is judged. -/
theorem step_course_working (notAsked : entity.cancelRequested = false)
    {work : Work Call Response (Reply S P)}
    (found : site.memory.find? entity.id = some (member.claimed now entity))
    (steps : (member.engine name).step member.world.onSite
      (.working (member.claimed now entity) work) site = (next, after))
    (afterwards : member.world.now after.surroundings = now) :
    member.Course now entity next (member.claimed now entity) [member.claimed now entity]
        (member.reply? site (.working (member.claimed now entity) work)).toList ∧
      after.memory.find? entity.id = some (member.claimed now entity) ∧ next.isOver = false := by
  have extended := Site.Extends.drive member.world work site
  rcases came : work.drive member.world.onSite site with ⟨progress, reached⟩
  rw [came] at extended
  cases progress with
  | waiting millis rest =>
    cases (Engine.work_of_waiting (member.engine name) member.world.onSite came).symm.trans steps
    have silent : member.reply? site (.working (member.claimed now entity) work) = none := by
      simp only [reply?, came]
    rw [silent, extended.memory]
    exact ⟨.waiting millis rest, found, rfl⟩
  | finished reply =>
    obtain ⟨final, leads, works⟩ := Engine.work_of_finished (member.engine name)
      member.world.onSite (member.claimed now entity) came
    have speaks : member.reply? site (.working (member.claimed now entity) work) = some reply := by
      simp only [reply?, came]
    have stands : final.memory.find? entity.id = some (member.claimed now entity) := by
      rcases leads with rfl | ⟨entry, rfl⟩
      · rw [extended.memory]
        exact found
      · show reached.memory.find? entity.id = _
        rw [extended.memory]
        exact found
    have judges := works.symm.trans steps
    obtain rfl : final = after := congrArg Prod.snd judges
    have clock : member.world.onSite.now final = now := afterwards
    rw [clock] at judges
    rw [speaks]
    rcases member.judge_claimed name now now notAsked reply with
      judged | ⟨target, payload, judged, settled⟩
    · cases judges.symm.trans (congrArg (·, final) judged)
      exact ⟨.persisting rfl, stands, rfl⟩
    · cases judges.symm.trans (congrArg (·, final) judged)
      exact ⟨.confirming settled, stands, rfl⟩

/-- **The next step of the attempt**, while the clock of the member stands still. -/
theorem step_course (course : member.Course now entity attempt stored given replies)
    (free : entity.isFreeAt now = true) (notAsked : entity.cancelRequested = false)
    (found : site.memory.find? entity.id = some stored)
    (reported : attempt.isOver = true →
      ∀ reply ∈ replies, member.reports now entity reply ∈ site.transitions)
    (before : member.world.now site.surroundings = now)
    (steps : (member.engine name).step member.world.onSite attempt site = (next, after))
    (afterwards : member.world.now after.surroundings = now) :
    ∃ later, member.Course now entity next later (given ++ (attempt.handed? next).toList)
        (replies ++ (member.reply? site attempt).toList) ∧
      after.memory.find? entity.id = some later ∧
      (next.isOver = true → ∀ reply ∈ replies ++ (member.reply? site attempt).toList,
        member.reports now entity reply ∈ after.transitions) := by
  cases course with
  | selected handled =>
    obtain ⟨handler, handled⟩ := handled
    obtain ⟨leased, answered, stored, _⟩ := member.store_lease_of_free found free before
    cases (Engine.step_selected_of_ok (member.engine name) member.world.onSite answered rfl notAsked
      handled).symm.trans steps
    refine ⟨_, .working _, ?_, nofun⟩
    rw [stored]
    exact Memory.find?_put_self found rfl
  | working work =>
    obtain ⟨nextCourse, stands, pending⟩ := step_course_working notAsked found steps afterwards
    have unhanded : (Attempt.working (member.claimed now entity) work).handed? next = none := by
      cases next <;> rfl
    rw [unhanded]
    exact ⟨_, nextCourse, stands, fun isOver => absurd isOver (Bool.eq_false_iff.mp pending)⟩
  | waiting millis work =>
    cases steps
    exact ⟨_, .working work, found, nofun⟩
  | @confirming reply target payload settled =>
    obtain ⟨looked, confirms, kept, _⟩ := member.step_confirming found notAsked target payload
    cases confirms.symm.trans steps
    refine ⟨_, .persisting settled, ?_, nofun⟩
    rw [kept]
    exact found
  | @persisting reply settlement settled =>
    subst settled
    obtain ⟨saved, persists, stored, reports, _⟩ :=
      member.step_persisting found (member.settles entity reply)
    cases persists.symm.trans steps
    refine ⟨_, .ended reply, ?_, fun _ other listed => ?_⟩
    · rw [stored]
      exact Memory.find?_put_self found rfl
    · obtain rfl := List.mem_singleton.mp listed
      rw [reports]
      exact List.mem_append_right _ (List.mem_singleton_self _)
  | ended reply =>
    cases steps
    exact ⟨_, .ended reply, found, reported⟩

/-- What an attempt has come to in the end. -/
theorem Course.settled (course : member.Course now entity attempt stored given replies)
    (isOver : attempt.isOver = true) :
    ∃ reply, given = [member.claimed now entity] ∧ replies = [reply] ∧
      stored = entity.settle (member.settles entity reply) now := by
  cases course with
  | ended reply => exact ⟨reply, rfl, rfl, rfl⟩
  | selected _ | working _ | waiting _ _ | confirming _ | persisting _ => cases isOver

/-- What a handler was given is the entity. -/
theorem Course.id_of_given (course : member.Course now entity attempt stored given replies) :
    ∀ leased ∈ given, leased.id = entity.id := by
  cases course with
  | selected _ => exact fun _ listed => nomatch listed
  | working _ | waiting _ _ | confirming _ | persisting _ | ended _ =>
    intro leased listed
    rw [List.mem_singleton.mp listed]
    rfl

/-- The attempt is about the entity. -/
theorem Course.id_of_subject (course : member.Course now entity attempt stored given replies) :
    ∀ subject, attempt.subject? = some subject → subject.id = entity.id := by
  cases course with
  | selected _ | working _ | waiting _ _ | confirming _ | persisting _ =>
    intro subject about
    have same := congrArg Entity.id (Option.some.inj about)
    exact same.symm
  | ended _ => exact fun _ about => nomatch about

/-- **No step leaves the course**, while the clock of the member stands still. -/
theorem isWay_course (member : Member ε S P Call Response) (name : ι)
    (free : entity.isFreeAt now = true) (notAsked : entity.cancelRequested = false) :
    member.IsWay name entity.id
      (fun before after => member.world.now before.surroundings = now ∧
        member.world.now after.surroundings = now)
      fun attempt stored reported given replies =>
        member.Course now entity attempt stored given replies ∧ (attempt.isOver = true →
          ∀ reply ∈ replies, member.reports now entity reply ∈ reported) where
  given way := way.1.id_of_given
  subject way := way.1.id_of_subject
  reported later way :=
    ⟨way.1, fun isOver reply listed => List.mem_append_left later (way.2 isOver reply listed)⟩
  step way found steps clock := by
    obtain ⟨later, course, stands, reports⟩ :=
      step_course way.1 free notAsked found way.2 clock.1 steps clock.2
    exact ⟨later, ⟨course, reports⟩, stands⟩

end Member

namespace Fleet

variable [DecidableEq ι] {fleet : Fleet ι ε S P Call Response} {name : ι}
  {state : State ι ε S P Call Response} {action : Action ι ε S P} {now : Instant}
  {entity : Entity S P} {place : Nat} {given : List (Entity S P)} {replies : List (Reply S P)}

/-- The clock of a member stands still during a step. -/
def IsFrozen (fleet : Fleet ι ε S P Call Response) (name : ι) (now : Instant)
    (state : State ι ε S P Call Response) (action : Action ι ε S P) : Prop :=
  (fleet name).world.now state.site.surroundings = now ∧
    (fleet name).world.now (fleet.step state action).site.surroundings = now

instance (state : State ι ε S P Call Response) (action : Action ι ε S P) :
    Decidable (fleet.IsFrozen name now state action) :=
  inferInstanceAs (Decidable (_ ∧ _))

/-- The attempt at a place of a member comes its way. -/
structure State.OnCourse (fleet : Fleet ι ε S P Call Response) (name : ι) (now : Instant)
    (entity : Entity S P) (place : Nat) (given : List (Entity S P)) (replies : List (Reply S P))
    (state : State ι ε S P Call Response) : Prop where
  tidy : state.Tidy fleet
  spares : state.Spares name entity.id (some place)
  course : ∃ attempt stored, state.attempt? name place = some attempt ∧
    state.site.memory.find? entity.id = some stored ∧
    (fleet name).Course now entity attempt stored given replies ∧
    (attempt.isOver = true →
      ∀ reply ∈ replies, (fleet name).reports now entity reply ∈ state.site.transitions)

/-- **The attempt comes its way, whatever happens in between.** -/
theorem onCourse_run (onCourse : state.OnCourse fleet name now entity place given replies)
    (free : entity.isFreeAt now = true) (notAsked : entity.cancelRequested = false)
    {actions : List (Action ι ε S P)}
    (along : fleet.Along (fun state action => fleet.IsAlone name entity.id state action ∧
      fleet.IsFrozen name now state action) state actions) :
    (fleet.run state actions).OnCourse fleet name now entity place
      (given ++ fleet.observe (fleet.given name entity.id) state actions)
      (replies ++ fleet.observe (fleet.replied name entity.id) state actions) := by
  have onWay := onWay_run ⟨onCourse.tidy, onCourse.spares, onCourse.course⟩
    ((fleet name).isWay_course name free notAsked) along
  exact ⟨onWay.tidy, onWay.spares, onWay.reached⟩

end Fleet

end Leasehold
