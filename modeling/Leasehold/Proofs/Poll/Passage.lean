/-
**The attempt on one entity, cut off at any point.**

A member may stop for good at any step of an attempt, and its clock may show anything meanwhile. If
nobody else writes the entity, then what is stored is either the entity as it was selected, up to the
lease, or the entity with all that its attempt settled.

* `Member.Decides`: what an attempt settles, and from which reply;
* `Member.Passage`: how far an attempt is, with what is stored for its entity meanwhile;
* `Member.step_passage`, `isWay_passage`: no step of the attempt leaves it;
* `passage_run`: the attempt after a poll, in a fleet in which the others go on too.
-/

import Leasehold.Proofs.Poll.Course
import Leasehold.Proofs.Poll.Solitary

set_option linter.unusedSectionVars false

namespace Leasehold

variable {ι ε S P Call : Type} {Response : Call → Type} [DecidableEq S] [ProcessState S]

/-- An entity that another holder has is not worked on. -/
theorem Engine.claim_of_conflict {σ : Type} (engine : Engine σ S P Call Response)
    (world : World σ Call Response) {candidate : Entity S P} {error : StoreError} {state next : σ}
    (answered : engine.store
      (.lease candidate.id engine.holder engine.config.leaseDuration (world.now state)) state =
        (.error error, next)) (conflict : error.isConflict = true) :
    ∃ entry, engine.claim world candidate state =
      (.ended .leaseConflict, (world.log entry next).2) := by
  unfold claim
  simp only [bind_apply, get_apply, answered]
  rw [if_pos conflict]
  exact ⟨_, rfl⟩

/-! ### The attempt on the entity -/

namespace Member

variable (member : Member ε S P Call Response) (shown : Instant → Prop) (entity : Entity S P)

/-- What a request to cancel settles. -/
abbrev cancellation : Settlement S P :=
  ⟨member.registry.cancelled, entity.payload, 0, none, .cancelled⟩

/-- What an attempt settles, with what its handler was given and what it replied. A request to
cancel settles it without the handler. -/
inductive Decides (leasedAt : Instant) :
    List (Entity S P) → List (Reply S P) → Settlement S P → Prop where
  | asked (asked : entity.cancelRequested = true) :
      Decides leasedAt [] [] (member.cancellation entity)
  | replied (notAsked : entity.cancelRequested = false) (reply : Reply S P) :
      Decides leasedAt [member.claimed leasedAt entity] [reply] (member.settles entity reply)

/-- How far an attempt on an entity is, with what is stored for the entity meanwhile, what a handler
was given, and what it replied. The clock shows instants of one kind. -/
inductive Passage : Attempt S P Call Response → Entity S P → List (Entity S P) →
    List (Reply S P) → Prop where
  | selected (handled : ∃ handler, member.registry.handler? entity.state = some handler) :
      Passage (.selected entity) entity [] []
  /-- The clock went back, and the entity was not free any more. -/
  | refused {now : Instant} (read : shown now) (held : entity.isFreeAt now = false) :
      Passage (.ended .leaseConflict) entity [] []
  | working (leasedAt : Instant) (notAsked : entity.cancelRequested = false)
      (work : Work Call Response (Reply S P)) :
      Passage (.working (member.claimed leasedAt entity) work) (member.claimed leasedAt entity)
        [member.claimed leasedAt entity] []
  | waiting (leasedAt : Instant) (notAsked : entity.cancelRequested = false) (millis : Nat)
      (work : Work Call Response (Reply S P)) :
      Passage (.waiting millis (member.claimed leasedAt entity) work)
        (member.claimed leasedAt entity) [member.claimed leasedAt entity] []
  | confirming (leasedAt : Instant) (notAsked : entity.cancelRequested = false)
      {judgedAt : Instant} (read : shown judgedAt) {reply : Reply S P} {next : S} {payload : P}
      (settled : member.settles entity reply = ⟨next, payload, 0, none, .success⟩) :
      Passage (.confirming (member.claimed leasedAt entity) next payload judgedAt)
        (member.claimed leasedAt entity) [member.claimed leasedAt entity] [reply]
  | persisting {leasedAt judgedAt : Instant} (read : shown judgedAt) {given : List (Entity S P)}
      {replies : List (Reply S P)} {settlement : Settlement S P}
      (decides : member.Decides entity leasedAt given replies settlement) :
      Passage
        (.persisting (member.claimed leasedAt entity)
          ((member.claimed leasedAt entity).resolve settlement judgedAt) settlement.outcome)
        (member.claimed leasedAt entity) given replies
  | ended {leasedAt judgedAt : Instant} (read : shown judgedAt) {given : List (Entity S P)}
      {replies : List (Reply S P)} {settlement : Settlement S P}
      (decides : member.Decides entity leasedAt given replies settlement) :
      Passage (.ended (.persisted settlement.outcome)) (entity.settle settlement judgedAt) given
        replies

variable {member shown entity} {name : ι} {site after : Site ι ε S P} {stored : Entity S P}
  {attempt next : Attempt S P Call Response} {given : List (Entity S P)}
  {replies : List (Reply S P)} {leasedAt : Instant}

/-- What a handler was given is the entity. -/
theorem Passage.id_of_given
    (passage : member.Passage shown entity attempt stored given replies) :
    ∀ leased ∈ given, leased.id = entity.id := by
  have decided : ∀ {leasedAt settlement},
      member.Decides entity leasedAt given replies settlement → ∀ leased ∈ given,
        leased.id = entity.id := by
    intro leasedAt settlement decides
    cases decides with
    | asked _ => exact fun _ listed => nomatch listed
    | replied _ _ =>
      intro leased listed
      rw [List.mem_singleton.mp listed]
      rfl
  cases passage with
  | selected _ | refused _ _ => exact fun _ listed => nomatch listed
  | working _ _ _ | waiting _ _ _ _ | confirming _ _ _ _ =>
    intro leased listed
    rw [List.mem_singleton.mp listed]
    rfl
  | persisting _ decides => exact decided decides
  | ended _ decides => exact decided decides

/-- The attempt is about the entity. -/
theorem Passage.id_of_subject
    (passage : member.Passage shown entity attempt stored given replies) :
    ∀ subject, attempt.subject? = some subject → subject.id = entity.id := by
  cases passage with
  | selected _ | working _ _ _ | waiting _ _ _ _ | confirming _ _ _ _ | persisting _ _ =>
    intro subject about
    have same := congrArg Entity.id (Option.some.inj about)
    exact same.symm
  | refused _ _ | ended _ _ => exact fun _ about => nomatch about

/-- An entity that was leased with a request to cancel is to be cancelled. -/
theorem afterLease_of_asked (now : Instant) (asked : entity.cancelRequested = true)
    (site : Site ι ε S P) :
    (member.engine name).afterLease member.world.onSite entity (member.claimed now entity) site =
      (.persisting (member.claimed now entity)
        ((member.claimed now entity).resolve (member.cancellation entity)
          (member.world.now site.surroundings)) .cancelled, site) := by
  have marked : (member.claimed now entity).cancelRequested = true := asked
  unfold Engine.afterLease
  rw [if_neg fun other => other rfl, if_pos marked]
  rfl

/-- An entity that was selected is leased, unless it is not free any more. -/
theorem step_passage_selected
    (handled : ∃ handler, member.registry.handler? entity.state = some handler)
    (found : site.memory.find? entity.id = some entity)
    (steps : (member.engine name).step member.world.onSite (.selected entity) site = (next, after))
    (before : shown (member.world.now site.surroundings))
    (afterwards : shown (member.world.now after.surroundings)) :
    ∃ later, member.Passage shown entity next later
        ((Attempt.selected entity).handed? next).toList [] ∧
      after.memory.find? entity.id = some later := by
  let now := member.world.now site.surroundings
  cases free : entity.isFreeAt now with
  | false =>
    obtain ⟨refused, answered, kept, _⟩ := store_of_run
      (Memory.run_lease_of_not_free found free member.holder member.config.leaseDuration)
    obtain ⟨entry, ends⟩ := (member.engine name).claim_of_conflict member.world.onSite answered rfl
    cases ends.symm.trans steps
    refine ⟨entity, .refused before free, ?_⟩
    show refused.memory.find? entity.id = some entity
    rw [kept]
    exact found
  | true =>
    obtain ⟨leased, answered, stored, _⟩ := member.store_lease_of_free found free rfl
    have claims : (member.engine name).step member.world.onSite (.selected entity) site = _ :=
      Engine.claim_of_ok (member.engine name) member.world.onSite answered
    have stands : leased.memory.find? entity.id = some (member.claimed now entity) := by
      rw [stored]
      exact Memory.find?_put_self found rfl
    cases asked : entity.cancelRequested with
    | true =>
      cases (claims.trans (afterLease_of_asked now asked leased)).symm.trans steps
      exact ⟨_, .persisting afterwards (.asked asked), stands⟩
    | false =>
      obtain ⟨handler, handled⟩ := handled
      cases (Engine.step_selected_of_ok (member.engine name) member.world.onSite answered rfl asked
        handled).symm.trans steps
      exact ⟨_, .working now asked _, stands⟩

/-- A handler at work comes to a call that takes time, or replies and is judged. -/
theorem step_passage_working (notAsked : entity.cancelRequested = false)
    (work : Work Call Response (Reply S P))
    (found : site.memory.find? entity.id = some (member.claimed leasedAt entity))
    (steps : (member.engine name).step member.world.onSite
      (.working (member.claimed leasedAt entity) work) site = (next, after))
    (afterwards : shown (member.world.now after.surroundings)) :
    member.Passage shown entity next (member.claimed leasedAt entity)
        [member.claimed leasedAt entity]
        (member.reply? site (.working (member.claimed leasedAt entity) work)).toList ∧
      after.memory.find? entity.id = some (member.claimed leasedAt entity) := by
  have extended := Site.Extends.drive member.world work site
  rcases came : work.drive member.world.onSite site with ⟨progress, reached⟩
  rw [came] at extended
  cases progress with
  | waiting millis rest =>
    cases (Engine.work_of_waiting (member.engine name) member.world.onSite came).symm.trans steps
    have silent : member.reply? site (.working (member.claimed leasedAt entity) work) = none := by
      simp only [reply?, came]
    rw [silent, extended.memory]
    exact ⟨.waiting leasedAt notAsked millis rest, found⟩
  | finished reply =>
    obtain ⟨final, leads, works⟩ := Engine.work_of_finished (member.engine name)
      member.world.onSite (member.claimed leasedAt entity) came
    have speaks : member.reply? site (.working (member.claimed leasedAt entity) work) =
        some reply := by
      simp only [reply?, came]
    have stands : final.memory.find? entity.id = some (member.claimed leasedAt entity) := by
      rcases leads with rfl | ⟨entry, rfl⟩
      · rw [extended.memory]
        exact found
      · show reached.memory.find? entity.id = _
        rw [extended.memory]
        exact found
    have judges := works.symm.trans steps
    obtain rfl : final = after := congrArg Prod.snd judges
    rw [speaks]
    refine ⟨?_, stands⟩
    rcases member.judge_claimed name leasedAt (member.world.onSite.now final) notAsked reply with
      judged | ⟨target, payload, judged, settled⟩
    · cases judges.symm.trans (congrArg (·, final) judged)
      exact .persisting afterwards (.replied notAsked reply)
    · cases judges.symm.trans (congrArg (·, final) judged)
      exact .confirming leasedAt notAsked afterwards settled

/-- **The next step of the attempt.** -/
theorem step_passage (passage : member.Passage shown entity attempt stored given replies)
    (found : site.memory.find? entity.id = some stored)
    (steps : (member.engine name).step member.world.onSite attempt site = (next, after))
    (before : shown (member.world.now site.surroundings))
    (afterwards : shown (member.world.now after.surroundings)) :
    ∃ later, member.Passage shown entity next later (given ++ (attempt.handed? next).toList)
        (replies ++ (member.reply? site attempt).toList) ∧
      after.memory.find? entity.id = some later := by
  cases passage with
  | selected handled => exact step_passage_selected handled found steps before afterwards
  | refused read held =>
    cases steps
    exact ⟨_, .refused read held, found⟩
  | working leasedAt notAsked work =>
    obtain ⟨goesOn, stands⟩ := step_passage_working notAsked work found steps afterwards
    have unhanded : (Attempt.working (member.claimed leasedAt entity) work).handed? next =
        none := by
      cases next <;> rfl
    rw [unhanded]
    exact ⟨_, goesOn, stands⟩
  | waiting leasedAt notAsked millis work =>
    cases steps
    exact ⟨_, .working leasedAt notAsked work, found⟩
  | @confirming leasedAt notAsked judgedAt read reply target payload settled =>
    obtain ⟨looked, confirms, kept, _⟩ := member.step_confirming found notAsked target payload
    cases confirms.symm.trans steps
    refine ⟨member.claimed leasedAt entity, ?_, ?_⟩
    · have decides : member.Decides entity leasedAt [member.claimed leasedAt entity] [reply]
          ⟨target, payload, 0, none, .success⟩ := settled ▸ .replied notAsked reply
      exact .persisting read decides
    · rw [kept]
      exact found
  | @persisting leasedAt judgedAt read given replies settlement decides =>
    obtain ⟨saved, persists, stored, _⟩ := member.step_persisting found settlement
    cases persists.symm.trans steps
    refine ⟨entity.settle settlement judgedAt, ?_, ?_⟩
    · have written := Passage.ended read decides
      rw [← List.append_nil given, ← List.append_nil replies] at written
      exact written
    · rw [stored]
      exact Memory.find?_put_self found rfl
  | ended read decides =>
    cases steps
    have written := Passage.ended read decides
    rw [← List.append_nil given, ← List.append_nil replies] at written
    exact ⟨_, written, found⟩

/-- **No step leaves the passage.** -/
theorem isWay_passage (member : Member ε S P Call Response) (name : ι) (shown : Instant → Prop)
    (entity : Entity S P) :
    member.IsWay name entity.id
      (fun before after => shown (member.world.now before.surroundings) ∧
        shown (member.world.now after.surroundings))
      fun attempt stored _ given replies =>
        member.Passage shown entity attempt stored given replies where
  given passage := passage.id_of_given
  subject passage := passage.id_of_subject
  reported _ passage := passage
  step passage found steps reads := step_passage passage found steps reads.1 reads.2

end Member

namespace Fleet

variable [DecidableEq ι] (fleet : Fleet ι ε S P Call Response) (name : ι)
  (shown : Instant → Prop)

/-- What the clock of a member shows. -/
abbrev clock (state : State ι ε S P Call Response) : Instant :=
  (fleet name).world.now state.site.surroundings

/-- Nobody but a member writes an entity with a step, and the clock of the member shows instants of
one kind before and after it. -/
def IsLeftAlone (id : String) (state : State ι ε S P Call Response) (action : Action ι ε S P) :
    Prop :=
  fleet.IsAlone name id state action ∧ shown (fleet.clock name state) ∧
    shown (fleet.clock name (fleet.step state action))

variable {fleet name shown} {state : State ι ε S P Call Response} {entity : Entity S P}
  {place : Nat}

/-- A member that has selected an entity tries it at one place. -/
theorem exists_place (tidy : state.Tidy fleet) (idle : state.isIdle name = true)
    (selected : entity ∈ state.selection fleet name) :
    ∃ place, (fleet.step state (.poll name)).attempt? name place = some (.selected entity) ∧
      (fleet.step state (.poll name)).site.memory.find? entity.id = some entity ∧
      (fleet.step state (.poll name)).Spares name entity.id (some place) ∧
      ∃ handler, (fleet name).registry.handler? entity.state = some handler := by
  obtain ⟨found, _⟩ := mem_query_criteria selected
  obtain ⟨place, begins⟩ := State.OnCourse.start tidy idle found rfl selected
  obtain ⟨attempt, stored, there, stands, course, _⟩ := begins.course
  cases course with
  | selected handled => exact ⟨place, there, stands, begins.spares, handled⟩

/-- **An attempt comes its way after a poll**, whatever happens in between. -/
theorem passage_run (tidy : state.Tidy fleet) (idle : state.isIdle name = true)
    (selected : entity ∈ state.selection fleet name) :
    let polled := fleet.step state (.poll name)
    ∃ place, polled.attempt? name place = some (.selected entity) ∧
      ∀ {shown : Instant → Prop} {actions : List (Action ι ε S P)},
        fleet.Along (fleet.IsLeftAlone name shown entity.id) polled actions →
        ∃ attempt stored, (fleet.run polled actions).attempt? name place = some attempt ∧
          (fleet.run polled actions).site.memory.find? entity.id = some stored ∧
          (fleet name).Passage shown entity attempt stored
            (fleet.observe (fleet.given name entity.id) polled actions)
            (fleet.observe (fleet.replied name entity.id) polled actions) := by
  obtain ⟨place, there, found, spares, handled⟩ := exists_place tidy idle selected
  refine ⟨place, there, fun {shown actions} along => ?_⟩
  have onWay := onWay_run ⟨tidy.kept (fleet.change_step state _), spares, _, _, there, found,
    Member.Passage.selected handled⟩ ((fleet name).isWay_passage name shown entity) along
  exact onWay.reached

end Fleet

end Leasehold
