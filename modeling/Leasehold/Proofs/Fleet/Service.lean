/-
**The trigger service as a caller outside the fleet.**

What a caller of the service does is a schedule: calls of a trigger, and time that passes. So what
holds of all schedules with such calls holds next to a caller.

* `Action.IsOutside`: a caller makes the calls of a trigger, and time passes;
* `Serves`: a site comes from another one by the calls of a trigger;
* `serves_create`: a creation leads to such a site;
* `find?_of_create`: what the service creates is stored.
-/

import Leasehold.Proofs.Fleet.Path
import Leasehold.Service

set_option linter.unusedSectionVars false

namespace Leasehold

variable {ι ε S P Call : Type} {Response : Call → Type} [DecidableEq S] [ProcessState S]

namespace Fleet

variable [DecidableEq ι]

/-- A caller makes the calls of a trigger, and time passes. -/
def Action.IsOutside (registry : Registry S P Call Response) : Action ι ε S P → Prop
  | .call operation => operation.IsTriggerOf registry
  | .pass _ => True
  | .poll _ | .proceed _ _ | .stop _ => False

/-- One site comes from another by what a caller does, whatever the fleet around it. -/
def Serves (registry : Registry S P Call Response) (before after : Site ι ε S P) : Prop :=
  ∃ actions : List (Action ι ε S P), (∀ action ∈ actions, action.IsOutside registry) ∧
    ∀ (fleet : Fleet ι ε S P Call Response) (batches : ι → List (Attempt S P Call Response)),
      fleet.run ⟨before, batches⟩ actions = ⟨after, batches⟩

namespace Serves

variable {registry : Registry S P Call Response} {before middle after : Site ι ε S P}

theorem trans (first : Serves registry before middle) (second : Serves registry middle after) :
    Serves registry before after := by
  obtain ⟨early, earlyOutside, ran⟩ := first
  obtain ⟨late, lateOutside, ranOn⟩ := second
  refine ⟨early ++ late, fun action member => ?_, fun fleet batches => ?_⟩
  · rcases List.mem_append.mp member with inEarly | inLate
    · exact earlyOutside action inEarly
    · exact lateOutside action inLate
  · rw [run_append, ran, ranOn]

theorem call {operation : Operation S P} (trigger : operation.IsTriggerOf registry)
    (site : Site ι ε S P) : Serves registry site (Site.perform none id operation site).2 := by
  refine ⟨[.call operation], fun action member => ?_, fun _ _ => rfl⟩
  rw [List.mem_singleton.mp member]
  exact trigger

theorem log (world : World ε Call Response) (entry : Log.Entry) (site : Site ι ε S P) :
    Serves registry site (world.onSite.log entry site).2 := by
  refine ⟨[.pass (world.log entry site.surroundings).2], fun action member => ?_, fun _ _ => rfl⟩
  rw [List.mem_singleton.mp member]
  trivial

end Serves

/-! ### The functions of the service -/

/-- The service of a registry, on the store of a site. -/
def trigger (registry : Registry S P Call Response) : Service (Site ι ε S P) S P Call Response where
  store := Site.perform none id
  registry := registry

variable {registry : Registry S P Call Response} {world : World ε Call Response}
  {site next : Site ι ε S P} {entityId : String}

theorem Serves.answered {operation : Operation S P} {answer : operation.Answer}
    (answered : (trigger registry).store operation site = (answer, next))
    (allowed : operation.IsTriggerOf registry) : Serves registry site next := by
  have ran : (Site.perform none id operation site).2 = next := congrArg Prod.snd answered
  rw [← ran]
  exact .call allowed site

theorem serves_create (payload : P) (traceContext : Dictionary String) :
    Serves registry site
      ((trigger registry).create world.onSite entityId payload traceContext site).2 := by
  rcases answered : (trigger registry).store (.create (.fresh entityId
    (trigger registry).registry.initial payload traceContext (world.onSite.now site))) site with
    ⟨_ | _, next⟩
  all_goals
    have called := Serves.answered answered ⟨_, _, _, _, rfl⟩
    unfold Service.create
    simp only [Engine.bind_apply, Engine.get_apply]
    rw [answered]
  · exact called
  · exact called.trans (.log world _ next)

/-- An entity that the service creates is stored as it was created. -/
theorem find?_of_create {payload : P} {traceContext : Dictionary String} {entity : Entity S P}
    (creates : (trigger registry).create world.onSite entityId payload traceContext site =
      (.ok entity, next)) :
    entity = .fresh entityId registry.initial payload traceContext (world.now site.surroundings) ∧
      next.memory.find? entityId = some entity := by
  rcases answered : (trigger registry).store (.create (.fresh entityId
    (trigger registry).registry.initial payload traceContext (world.onSite.now site))) site with
    ⟨_ | _, called⟩
  all_goals
    unfold Service.create at creates
    simp only [Engine.bind_apply, Engine.get_apply] at creates
    rw [answered] at creates
    cases creates
  have stores : called.memory = site.memory.after (.create (.fresh entityId registry.initial payload
      traceContext (world.now site.surroundings))) := (congrArg (·.2.memory) answered).symm
  refine ⟨rfl, ?_⟩
  show called.memory.find? entityId = _
  rw [stores]
  exact Memory.find?_after_create_of_ok (congrArg Prod.fst answered)

end Fleet

end Leasehold
