/-
**An attempt that comes its way.**

An attempt on an entity that nobody else writes goes on by its own steps alone. So what one step
leads to, whatever the site, is all there is to know of a whole schedule.

* `Member.IsWay`: a relation of an attempt, of what is stored for its entity, and of what was reported,
  given and replied so far, which every step of the attempt keeps;
* `State.OnWay`: the attempt at a place of a member is so far;
* `OnWay.proceed`, `OnWay.step`, `onWay_run`: what it keeps in a fleet in which the others go on too.
-/

import Leasehold.Proofs.Poll.Watch

set_option linter.unusedSectionVars false

namespace Leasehold

variable {ι ε S P Call : Type} {Response : Call → Type} [DecidableEq S] [ProcessState S]

/-- How far an attempt may be, with what is stored for its entity, what was reported at the site,
what a handler was given, and what it replied. -/
abbrev Way (S P Call : Type) (Response : Call → Type) : Type :=
  Attempt S P Call Response → Entity S P → List Transition → List (Entity S P) →
    List (Reply S P) → Prop

/-- A way that an attempt on the entity with an id does not leave by steps that are allowed. -/
structure Member.IsWay (member : Member ε S P Call Response) (name : ι) (id : String)
    (allowed : Site ι ε S P → Site ι ε S P → Prop) (way : Way S P Call Response) : Prop where
  given : ∀ {attempt stored reported given replies}, way attempt stored reported given replies →
    ∀ leased ∈ given, leased.id = id
  subject : ∀ {attempt stored reported given replies}, way attempt stored reported given replies →
    ∀ subject, attempt.subject? = some subject → subject.id = id
  /-- Others may report something. -/
  reported : ∀ {attempt stored reported given replies} later,
    way attempt stored reported given replies → way attempt stored (reported ++ later) given replies
  step : ∀ {attempt next stored given replies} {site after : Site ι ε S P},
    way attempt stored site.transitions given replies → site.memory.find? id = some stored →
    (member.engine name).step member.world.onSite attempt site = (next, after) →
    allowed site after →
    ∃ later, way next later after.transitions (given ++ (attempt.handed? next).toList)
        (replies ++ (member.reply? site attempt).toList) ∧
      after.memory.find? id = some later

namespace Fleet

variable [DecidableEq ι] {fleet : Fleet ι ε S P Call Response} {name : ι} {id : String}
  {allowed : Site ι ε S P → Site ι ε S P → Prop} {way : Way S P Call Response}
  {state : State ι ε S P Call Response} {action : Action ι ε S P} {place : Nat}
  {given : List (Entity S P)} {replies : List (Reply S P)}

/-- An attempt waits while others act. -/
theorem attempt?_step_of_ne (noPoll : action ≠ .poll name) (elsewhere : action ≠ .proceed name place) :
    (fleet.step state action).attempt? name place = state.attempt? name place := by
  have change := fleet.change_step state action
  generalize fleet.step state action = after at change
  cases change with
  | rests | calls | stops => rfl
  | polls =>
    rw [State.attempt?_poll, if_neg]
    rintro rfl
    exact noPoll rfl
  | proceeds there move performed =>
    rw [State.attempt?_proceed there, if_neg]
    rintro ⟨rfl, rfl⟩
    exact elsewhere rfl

/-- The attempt at a place of a member is so far, and the member spares the entity elsewhere. -/
structure State.OnWay (fleet : Fleet ι ε S P Call Response) (name : ι) (id : String)
    (way : Way S P Call Response) (place : Nat) (given : List (Entity S P))
    (replies : List (Reply S P)) (state : State ι ε S P Call Response) : Prop where
  tidy : state.Tidy fleet
  spares : state.Spares name id (some place)
  reached : ∃ attempt stored, state.attempt? name place = some attempt ∧
    state.site.memory.find? id = some stored ∧
    way attempt stored state.site.transitions given replies

/-- The attempt makes a step. -/
theorem State.OnWay.proceed (onWay : state.OnWay fleet name id way place given replies)
    (isWay : (fleet name).IsWay name id allowed way)
    (allows : allowed state.site (fleet.step state (.proceed name place)).site) :
    (fleet.step state (.proceed name place)).OnWay fleet name id way place
      (given ++ fleet.given name id state (.proceed name place))
      (replies ++ fleet.replied name id state (.proceed name place)) := by
  obtain ⟨attempt, stored, there, found, before⟩ := onWay.reached
  rcases steps : ((fleet name).engine name).step (fleet name).world.onSite attempt state.site
    with ⟨next, after⟩
  have stepped := step_proceed there steps
  rw [stepped] at allows
  obtain ⟨later, afterwards, stands⟩ := isWay.step before found steps allows
  have reached : (fleet.step state (.proceed name place)).attempt? name place = some next := by
    rw [stepped, State.attempt?_proceed there, if_pos ⟨rfl, rfl⟩]
  have sameId : ∀ leased, attempt.handed? next = some leased → leased.id = id :=
    fun leased handed =>
      isWay.given afterwards leased (List.mem_append_right _ (Option.mem_toList.mpr handed))
  rw [given_proceed there reached sameId, replied_proceed there (isWay.subject before)]
  refine ⟨onWay.tidy.kept (fleet.change_step state _), onWay.spares.step nofun, next, later,
    reached, ?_, ?_⟩
  · rw [stepped]
    exact stands
  · rw [stepped]
    exact afterwards

/-- **Whatever happens, the attempt comes its way.** -/
theorem State.OnWay.step (onWay : state.OnWay fleet name id way place given replies)
    (isWay : (fleet name).IsWay name id allowed way) (alone : fleet.IsAlone name id state action)
    (allows : allowed state.site (fleet.step state action).site) :
    (fleet.step state action).OnWay fleet name id way place
      (given ++ fleet.given name id state action)
      (replies ++ fleet.replied name id state action) := by
  by_cases here : action = .proceed name place
  · subst here
    exact onWay.proceed isWay allows
  · obtain ⟨attempt, stored, there, found, before⟩ := onWay.reached
    obtain ⟨kept, givesNone, repliesNone⟩ := step_spared onWay.tidy onWay.spares alone
      (fun number same => by
        rintro equal
        cases equal
        exact here same) found
    rw [givesNone, repliesNone, List.append_nil, List.append_nil]
    obtain ⟨_, transitions, extended⟩ := (fleet.change_step state action).extended
    refine ⟨onWay.tidy.kept (fleet.change_step state action), onWay.spares.step alone.noPoll,
      attempt, stored, ?_, kept, ?_⟩
    · rw [attempt?_step_of_ne alone.noPoll here]
      exact there
    · rw [extended.transitions]
      exact isWay.reported transitions before

/-- **The attempt comes its way, whatever happens in between.** -/
theorem onWay_run (onWay : state.OnWay fleet name id way place given replies)
    (isWay : (fleet name).IsWay name id allowed way) {actions : List (Action ι ε S P)}
    (along : fleet.Along (fun state action => fleet.IsAlone name id state action ∧
      allowed state.site (fleet.step state action).site) state actions) :
    (fleet.run state actions).OnWay fleet name id way place
      (given ++ fleet.observe (fleet.given name id) state actions)
      (replies ++ fleet.observe (fleet.replied name id) state actions) := by
  induction actions generalizing state given replies with
  | nil =>
    unfold observe
    rw [List.append_nil, List.append_nil]
    exact onWay
  | cons action rest ih =>
    obtain ⟨⟨alone, allows⟩, later⟩ := along
    have last := ih (onWay.step isWay alone allows) later
    rw [List.append_assoc, List.append_assoc] at last
    exact last

end Fleet

end Leasehold
