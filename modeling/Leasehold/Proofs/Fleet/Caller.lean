/-
**A caller of the service in company.**

A function of the service makes its calls one after the other, and before each of them everybody
else may act: the engines, the other callers, the clock. What the others do before a call is a
schedule, so the function runs as it is, on a store that carries such a schedule out first.

* `Company`: a fleet, what the others do before the next calls, and the calls made so far;
* `Company.store`, `World.inCompany`: what a call and a log entry make of it;
* `Company.IsSound`: what every call keeps, as long as all callers are triggers of one registry;
* `Fleet.Lasts`: what holds of an entity from now on, whatever follows;
* `cancel_cases`, `requestCancel_cases`: how a cancellation goes on, by what its call met;
* `CancelReport`, `cancel_reports`: what each of its answers means.
-/

import Leasehold.Proofs.Fleet.Service
import Leasehold.Proofs.Fleet.Terminal

set_option linter.unusedSectionVars false

namespace Leasehold

variable {ι ε S P Call : Type} {Response : Call → Type} [DecidableEq S] [ProcessState S]

/-! ### The calls of a cancellation -/

namespace Registry

variable (registry : Registry S P Call Response) (id : String) (now : Instant)

/-- The call that cancels an entity at once. -/
abbrev cancellation : Operation S P :=
  .cancelIfFree id registry.cancelled registry.terminalStates now

/-- The call that asks for a cancellation. -/
abbrev request : Operation S P := .requestCancel id registry.terminalStates

end Registry

namespace Memory

variable (registry : Registry S P Call Response) {memory : Memory S P} {id : String}
  {stored : Entity S P}

theorem run_cancellation_of_absent (absent : memory.find? id = none) (now : Instant) :
    Memory.run (registry.cancellation id now) memory = (.error (.notFound id), memory) := by
  show cancelIfFree id registry.cancelled registry.terminalStates now memory = _
  unfold cancelIfFree
  rw [absent]

theorem run_cancellation_of_found (found : memory.find? id = some stored) (now : Instant) :
    Memory.run (registry.cancellation id now) memory =
      if registry.isTerminal stored.state || stored.isLeasedAt now then (.ok false, memory)
      else (.ok true, memory.put (released (stored.transitionTo registry.cancelled now))) := by
  show cancelIfFree id registry.cancelled registry.terminalStates now memory = _
  unfold cancelIfFree
  rw [found]
  dsimp only
  rw [Registry.contains_terminalStates, stored.isFreeAt_eq_not_isLeasedAt, Bool.not_not]

theorem run_request_of_found (found : memory.find? id = some stored) :
    Memory.run (registry.request id) memory =
      if registry.isTerminal stored.state then (.ok false, memory)
      else (.ok true, memory.put { stored with cancelRequested := true }) := by
  show requestCancel id registry.terminalStates memory = _
  unfold requestCancel
  rw [found]
  dsimp only
  rw [Registry.contains_terminalStates]

end Memory

/-! ### The functions of the service, by the answers of its store -/

namespace Service

variable {σ : Type} {service : Service σ S P Call Response} {world : World σ Call Response}
  {id : String} {state next : σ} {error : StoreError}

theorem cancel_of_error (answered : service.store
      (service.registry.cancellation id (world.now state)) state = (.error error, next)) :
    service.cancel world id state = (.error (.ofLookup error), next) := by
  unfold cancel
  simp only [Engine.bind_apply, Engine.get_apply, answered]
  rfl

theorem cancel_of_true (answered : service.store
      (service.registry.cancellation id (world.now state)) state = (.ok true, next)) :
    ∃ entry, service.cancel world id state = (.ok .cancelled, (world.log entry next).2) := by
  unfold cancel
  simp only [Engine.bind_apply, Engine.get_apply, answered]
  exact ⟨_, rfl⟩

theorem cancel_of_false (answered : service.store
      (service.registry.cancellation id (world.now state)) state = (.ok false, next)) :
    service.cancel world id state = service.requestCancel world id next := by
  unfold cancel
  simp only [Engine.bind_apply, Engine.get_apply, answered]

theorem requestCancel_of_true
    (answered : service.store (service.registry.request id) state = (.ok true, next)) :
    ∃ entry, service.requestCancel world id state = (.ok .pending, (world.log entry next).2) := by
  unfold requestCancel
  simp only [Engine.bind_apply, answered]
  exact ⟨_, rfl⟩

theorem requestCancel_of_false
    (answered : service.store (service.registry.request id) state = (.ok false, next)) :
    service.requestCancel world id state = service.refuse id next := by
  unfold requestCancel
  simp only [Engine.bind_apply, answered]

theorem refuse_of_some {entity : Entity S P}
    (answered : service.store (.find id) state = (.ok (some entity), next)) :
    service.refuse id state = (.error (.alreadyTerminal id (label entity.state)), next) := by
  unfold refuse
  simp only [Engine.bind_apply, answered]
  rfl

end Service

namespace Fleet

variable [DecidableEq ι] (fleet : Fleet ι ε S P Call Response)

/-! ### Company -/

/-- A call, and the store that it met. -/
structure Meeting (S P : Type) where
  memory : Memory S P
  operation : Operation S P

/-- A fleet with one more caller. -/
structure Company (ι ε S P Call : Type) (Response : Call → Type) where
  state : State ι ε S P Call Response
  /-- What the others do before each of the next calls; then they let the caller alone. -/
  turns : List (List (Action ι ε S P))
  /-- The calls of the caller, the first first. -/
  calls : List (Meeting S P)

namespace Company

/-- The fleet when the next call comes. -/
def met (company : Company ι ε S P Call Response) : State ι ε S P Call Response :=
  fleet.run company.state (company.turns.headD [])

/-- The company after a call. -/
def after (company : Company ι ε S P Call Response) (operation : Operation S P) :
    Company ι ε S P Call Response where
  state := fleet.step (company.met fleet) (.call operation)
  turns := company.turns.tail
  calls := company.calls ++ [⟨(company.met fleet).site.memory, operation⟩]

/-- The store as the caller uses it. -/
def store : Backend (Company ι ε S P Call Response) S P := fun operation company =>
  ((company.met fleet).site.memory.answer operation, company.after fleet operation)

/-- The company at another site. -/
def move (company : Company ι ε S P Call Response) (site : Site ι ε S P) :
    Company ι ε S P Call Response :=
  { company with state := { company.state with site := site } }

/-- What is around the fleet is around the caller. -/
def world (world : World ε Call Response) :
    World (Company ι ε S P Call Response) Call Response where
  now company := world.onSite.now company.state.site
  tick millis company := ((), company.move (world.onSite.tick millis company.state.site).2)
  log entry company := ((), company.move (world.onSite.log entry company.state.site).2)
  emit transition company :=
    ((), company.move (world.onSite.emit transition company.state.site).2)
  call request company :=
    let (response, site) := world.onSite.call request company.state.site
    (response, company.move site)

end Company

/-- The service of a registry, for the caller. -/
def caller (registry : Registry S P Call Response) :
    Service (Company ι ε S P Call Response) S P Call Response where
  store := Company.store fleet
  registry := registry

variable {fleet} {memory : Memory S P} {registry : Registry S P Call Response}
  {state : State ι ε S P Call Response} {company : Company ι ε S P Call Response}

/-! ### Whatever follows -/

/-- Every schedule keeps the claims in the record and the attempts due. -/
theorem State.Honest.run (honest : state.Honest fleet memory) (due : state.Due fleet)
    (actions : List (Action ι ε S P)) :
    (fleet.run state actions).Honest fleet memory ∧ (fleet.run state actions).Due fleet :=
  fleet.run_keeps (fun state => state.Honest fleet memory ∧ state.Due fleet) (fun _ => True)
    ⟨honest, due⟩ (fun _ kept change => ⟨kept.1.kept change, kept.2.kept change⟩)
    fun _ _ => trivial

/-- An entity has a property from now on, whatever the members and the triggers of a registry do. -/
def Lasts (fleet : Fleet ι ε S P Call Response) (registry : Registry S P Call Response)
    (state : State ι ε S P Call Response) (id : String) (property : Entity S P → Prop) : Prop :=
  ∀ later : List (Action ι ε S P), (∀ action ∈ later, action.IsTriggerOf registry) →
    ∃ last, (fleet.run state later).site.memory.find? id = some last ∧ property last

/-- A terminal state lasts. -/
theorem lasts_of_terminal (checked : registry.IsSound)
    (shared : ∀ name, (fleet name).registry = registry) (honest : state.Honest fleet memory)
    (due : state.Due fleet) {id : String} {stored : Entity S P}
    (found : state.site.memory.find? id = some stored)
    (terminal : registry.isTerminal stored.state = true) :
    fleet.Lasts registry state id fun last => last.state = stored.state := by
  intro later trigger
  obtain rfl := Memory.id_of_find? found
  obtain ⟨last, isLast, same⟩ :=
    (atRest_run checked shared honest due found terminal trigger).held
  exact ⟨last, isLast, same.state⟩

/-- An entity that is stored is stored in every schedule, and follows on what it was. -/
theorem find?_run {id : String} {stored : Entity S P}
    (found : state.site.memory.find? id = some stored) (actions : List (Action ι ε S P)) :
    ∃ last, (fleet.run state actions).site.memory.find? id = some last ∧
      stored.Precedes last := by
  obtain ⟨deeds, _, extended⟩ := fleet.extends_run state actions
  rw [extended.memory]
  exact Memory.find?_replay found _

/-- A request to cancel lasts. -/
theorem lasts_of_requested {id : String} {stored : Entity S P}
    (found : state.site.memory.find? id = some stored) (asked : stored.cancelRequested = true) :
    fleet.Lasts registry state id fun last => last.cancelRequested = true := by
  intro later _
  obtain ⟨last, isLast, follows⟩ := find?_run found later
  exact ⟨last, isLast, follows.request asked⟩

/-! ### Calls keep the company sound -/

namespace Company

/-- The claims of the fleet are in the record, its attempts are due, and the others make the calls
of a trigger. -/
structure IsSound (company : Company ι ε S P Call Response) (fleet : Fleet ι ε S P Call Response)
    (memory : Memory S P) (registry : Registry S P Call Response) : Prop where
  honest : company.state.Honest fleet memory
  due : company.state.Due fleet
  trigger : ∀ action ∈ company.turns.flatten, action.IsTriggerOf registry

namespace IsSound

variable (sound : company.IsSound fleet memory registry)

include sound

theorem met : (company.met fleet).Honest fleet memory ∧ (company.met fleet).Due fleet :=
  sound.honest.run sound.due _

theorem after (operation : Operation S P) :
    (company.after fleet operation).IsSound fleet memory registry := by
  obtain ⟨honest, due⟩ := sound.met
  have change := fleet.change_step (company.met fleet) (.call operation)
  refine ⟨honest.kept change, due.kept change, fun action member => ?_⟩
  obtain ⟨turn, listed, inTurn⟩ := List.mem_flatten.mp member
  exact sound.trigger action (List.mem_flatten.mpr ⟨turn, List.mem_of_mem_tail listed, inTurn⟩)

theorem log (around : World ε Call Response) (entry : Log.Entry) :
    ((Company.world around).log entry company).2.IsSound fleet memory registry := by
  have change := fleet.change_step company.state
    (.pass (around.log entry company.state.site.surroundings).2)
  exact ⟨sound.honest.kept change, sound.due.kept change, sound.trigger⟩

/-- An entity in a terminal state is in the same state when the next call comes. -/
theorem state_of_terminal (checked : registry.IsSound)
    (shared : ∀ name, (fleet name).registry = registry) {id : String} {stored : Entity S P}
    (found : company.state.site.memory.find? id = some stored)
    (terminal : registry.isTerminal stored.state = true) :
    ∃ last, (company.met fleet).site.memory.find? id = some last ∧
      last.state = stored.state := by
  refine lasts_of_terminal checked shared sound.honest sound.due found terminal _ ?_
  intro action member
  cases turns : company.turns with
  | nil =>
    rw [turns] at member
    cases member
  | cons turn rest =>
    rw [turns] at member
    refine sound.trigger action ?_
    rw [turns]
    exact List.mem_append_left _ member

end IsSound

end Company

/-! ### How a cancellation goes on -/

section Steps

variable {id : String} {stored : Entity S P}

/-- A call is answered by the store that it meets. -/
theorem store_caller {operation : Operation S P} {answer : operation.Answer} {next : Memory S P}
    (ran : Memory.run operation (company.met fleet).site.memory = (answer, next)) :
    (caller fleet registry).store operation company = (answer, company.after fleet operation) :=
  congrArg (·, company.after fleet operation) (congrArg Prod.fst ran)

variable (registry) (around : World ε Call Response)

/-- The call that is to cancel an entity at once, by the clock of the caller. -/
abbrev Company.cancellation (company : Company ι ε S P Call Response)
    (registry : Registry S P Call Response) (around : World ε Call Response) (id : String) :
    Operation S P :=
  registry.cancellation id ((Company.world around).now company)

/-- An unknown entity is not found. -/
theorem cancel_of_absent (absent : (company.met fleet).site.memory.find? id = none) :
    (caller fleet registry).cancel (Company.world around) id company =
        (.error (.notFound id), company.after fleet (company.cancellation registry around id)) ∧
      (company.met fleet).site.memory.after (company.cancellation registry around id) =
        (company.met fleet).site.memory := by
  have ran := Memory.run_cancellation_of_absent registry absent
    ((Company.world around).now company)
  exact ⟨Service.cancel_of_error (store_caller ran), congrArg Prod.snd ran⟩

/-- An entity that is alive and free is cancelled. -/
theorem cancel_of_free (found : (company.met fleet).site.memory.find? id = some stored)
    (alive : registry.isTerminal stored.state = false)
    (free : stored.isLeasedAt ((Company.world around).now company) = false) :
    (∃ entry, (caller fleet registry).cancel (Company.world around) id company =
      (.ok .cancelled, ((Company.world around).log entry
        (company.after fleet (company.cancellation registry around id))).2)) ∧
      (company.met fleet).site.memory.after (company.cancellation registry around id) =
        (company.met fleet).site.memory.put (Memory.released
          (stored.transitionTo registry.cancelled ((Company.world around).now company))) := by
  have ran := Memory.run_cancellation_of_found registry found
    ((Company.world around).now company)
  rw [alive, free, Bool.or_self, if_neg Bool.false_ne_true] at ran
  exact ⟨Service.cancel_of_true (store_caller ran), congrArg Prod.snd ran⟩

/-- Any other entity is left as it is, and a request is made. -/
theorem cancel_of_kept (found : (company.met fleet).site.memory.find? id = some stored)
    (kept : (registry.isTerminal stored.state ||
      stored.isLeasedAt ((Company.world around).now company)) = true) :
    (caller fleet registry).cancel (Company.world around) id company =
        (caller fleet registry).requestCancel (Company.world around) id
          (company.after fleet (company.cancellation registry around id)) ∧
      (company.met fleet).site.memory.after (company.cancellation registry around id) =
        (company.met fleet).site.memory := by
  have ran := Memory.run_cancellation_of_found registry found
    ((Company.world around).now company)
  rw [if_pos kept] at ran
  exact ⟨Service.cancel_of_false (store_caller ran), congrArg Prod.snd ran⟩

/-- A request for an entity that is alive is noted. -/
theorem requestCancel_of_alive (found : (company.met fleet).site.memory.find? id = some stored)
    (alive : registry.isTerminal stored.state = false) :
    (∃ entry, (caller fleet registry).requestCancel (Company.world around) id company =
      (.ok .pending,
        ((Company.world around).log entry (company.after fleet (registry.request id))).2)) ∧
      (company.met fleet).site.memory.after (registry.request id) =
        (company.met fleet).site.memory.put { stored with cancelRequested := true } := by
  have ran := Memory.run_request_of_found registry found
  rw [if_neg (Bool.eq_false_iff.mp alive)] at ran
  exact ⟨Service.requestCancel_of_true (store_caller ran), congrArg Prod.snd ran⟩

/-- A request for another entity leads to a look at it. -/
theorem requestCancel_of_terminal
    (found : (company.met fleet).site.memory.find? id = some stored)
    (terminal : registry.isTerminal stored.state = true) :
    (caller fleet registry).requestCancel (Company.world around) id company =
        (caller fleet registry).refuse id (company.after fleet (registry.request id)) ∧
      (company.met fleet).site.memory.after (registry.request id) =
        (company.met fleet).site.memory := by
  have ran := Memory.run_request_of_found registry found
  rw [if_pos terminal] at ran
  exact ⟨Service.requestCancel_of_false (store_caller ran), congrArg Prod.snd ran⟩

/-- What the look finds is named. -/
theorem refuse_of_found (found : (company.met fleet).site.memory.find? id = some stored) :
    (caller fleet registry).refuse id company =
      (.error (.alreadyTerminal id (label stored.state)), company.after fleet (.find id)) := by
  have ran : Memory.run (.find id) (company.met fleet).site.memory =
      (.ok (some stored), (company.met fleet).site.memory) := by
    rw [← found]
    rfl
  exact Service.refuse_of_some (store_caller ran)

end Steps

/-! ### What the answers mean -/

/-- What each answer to a cancellation means for the entity, with the calls that were made for it,
the clock of the caller, and the state of the fleet when the answer comes. -/
inductive CancelReport (fleet : Fleet ι ε S P Call Response)
    (registry : Registry S P Call Response) (id : String) (now : Instant)
    (answered : State ι ε S P Call Response) :
    List (Meeting S P) → Except ServiceError CancelOutcome → Prop where
  /-- One call moved an entity that was alive and free to the cancelled state, where it stays. -/
  | cancelled {met : Memory S P} {stored : Entity S P} (found : met.find? id = some stored)
      (alive : registry.isTerminal stored.state = false) (free : stored.isLeasedAt now = false)
      (moved : (met.after (registry.cancellation id now)).find? id =
        some { stored.transitionTo registry.cancelled now with
          lease := none
          version := stored.version + 1 })
      (stays : fleet.Lasts registry answered id fun last => last.state = registry.cancelled) :
      CancelReport fleet registry id now answered [⟨met, registry.cancellation id now⟩]
        (.ok .cancelled)
  /-- The second call noted the request with an entity that was alive. Nothing else of the entity was
  changed, and the note stays. -/
  | pending {first second : Memory S P} {stored : Entity S P}
      (unchanged : first.after (registry.cancellation id now) = first)
      (found : second.find? id = some stored)
      (alive : registry.isTerminal stored.state = false)
      (noted : (second.after (registry.request id)).find? id =
        some { stored with cancelRequested := true })
      (left : answered.site.memory = second.after (registry.request id))
      (stays : fleet.Lasts registry answered id fun last => last.cancelRequested = true) :
      CancelReport fleet registry id now answered
        [⟨first, registry.cancellation id now⟩, ⟨second, registry.request id⟩] (.ok .pending)
  /-- Three calls changed nothing. The last one found the entity in the terminal state that is
  named, where it stays. -/
  | alreadyTerminal {first second third : Memory S P} {stored : Entity S P}
      (unchanged : first.after (registry.cancellation id now) = first)
      (unchangedToo : second.after (registry.request id) = second)
      (found : third.find? id = some stored)
      (terminal : registry.isTerminal stored.state = true)
      (stays : fleet.Lasts registry answered id fun last => last.state = stored.state) :
      CancelReport fleet registry id now answered
        [⟨first, registry.cancellation id now⟩, ⟨second, registry.request id⟩, ⟨third, .find id⟩]
        (.error (.alreadyTerminal id (label stored.state)))
  /-- One call met a store without the entity, and changed nothing. -/
  | notFound {met : Memory S P} (absent : met.find? id = none)
      (unchanged : met.after (registry.cancellation id now) = met) :
      CancelReport fleet registry id now answered [⟨met, registry.cancellation id now⟩]
        (.error (.notFound id))

/-- The answer to a request tells the truth and keeps the company sound, after a first call that
found the entity. -/
theorem report_of_requestCancel (checked : registry.IsSound)
    (shared : ∀ name, (fleet name).registry = registry)
    (sound : company.IsSound fleet memory registry) {id : String} {now : Instant}
    {first : Memory S P} (made : company.calls = [⟨first, registry.cancellation id now⟩])
    (unchanged : first.after (registry.cancellation id now) = first) {seen : Entity S P}
    (found : company.state.site.memory.find? id = some seen) (around : World ε Call Response) :
    let answer := (caller fleet registry).requestCancel (Company.world around) id company
    answer.2.IsSound fleet memory registry ∧
      fleet.CancelReport registry id now answer.2.state answer.2.calls answer.1 := by
  obtain ⟨stored, isStored, _⟩ := find?_run found (company.turns.headD [])
  have met : (company.met fleet).site.memory.find? id = some stored := isStored
  cases terminal : registry.isTerminal stored.state with
  | false =>
    obtain ⟨⟨entry, answered⟩, noted⟩ := requestCancel_of_alive registry around met terminal
    have marked : ((company.met fleet).site.memory.after (registry.request id)).find? id =
        some { stored with cancelRequested := true } := by
      rw [noted]
      exact Memory.find?_put_self met rfl
    rw [answered]
    refine ⟨(sound.after (registry.request id)).log around entry, ?_⟩
    show fleet.CancelReport registry id now _ (company.calls ++ [_]) _
    rw [made]
    exact .pending unchanged met terminal marked rfl (lasts_of_requested marked rfl)
  | true =>
    obtain ⟨asked, still⟩ := requestCancel_of_terminal registry around met terminal
    -- From here on the entity is at rest, so the look finds the state that stopped the request.
    have later := sound.after (registry.request id)
    have isTerminal : (company.after fleet (registry.request id)).state.site.memory.find? id =
        some stored := by
      rw [← met]
      exact congrArg (·.find? id) still
    obtain ⟨last, isLast, sameState⟩ := later.state_of_terminal checked shared isTerminal terminal
    have ended : registry.isTerminal last.state = true := by
      rw [sameState]
      exact terminal
    have answered := later.after (.find id)
    rw [asked, refuse_of_found registry isLast]
    refine ⟨answered, ?_⟩
    show fleet.CancelReport registry id now _ ((company.calls ++ [_]) ++ [_]) _
    rw [made]
    exact .alreadyTerminal unchanged still isLast ended
      (lasts_of_terminal checked shared answered.honest answered.due isLast ended)

/-- The answer to a cancellation tells the truth and keeps the company sound. -/
theorem report_of_cancel (checked : registry.IsSound)
    (shared : ∀ name, (fleet name).registry = registry)
    (sound : company.IsSound fleet memory registry) (fresh : company.calls = []) (id : String)
    (around : World ε Call Response) :
    let answer := (caller fleet registry).cancel (Company.world around) id company
    answer.2.IsSound fleet memory registry ∧
      fleet.CancelReport registry id ((Company.world around).now company) answer.2.state
        answer.2.calls answer.1 := by
  have later := sound.after (company.cancellation registry around id)
  have made : (company.after fleet (company.cancellation registry around id)).calls =
      [⟨(company.met fleet).site.memory, company.cancellation registry around id⟩] := by
    show company.calls ++ [_] = _
    rw [fresh]
    rfl
  cases found : (company.met fleet).site.memory.find? id with
  | none =>
    obtain ⟨answered, unchanged⟩ := cancel_of_absent registry around found
    rw [answered]
    refine ⟨later, ?_⟩
    show fleet.CancelReport registry id _ _ (company.after fleet _).calls _
    rw [made]
    exact .notFound found unchanged
  | some stored =>
    cases kept : registry.isTerminal stored.state ||
        stored.isLeasedAt ((Company.world around).now company) with
    | false =>
      obtain ⟨alive, free⟩ := Bool.or_eq_false_iff.mp kept
      obtain ⟨⟨entry, answered⟩, moves⟩ := cancel_of_free registry around found alive free
      have moved : (company.after fleet (company.cancellation registry around
          id)).state.site.memory.find? id = some (Memory.released (stored.transitionTo
            registry.cancelled ((Company.world around).now company))) := by
        show ((company.met fleet).site.memory.after _).find? id = _
        rw [moves]
        exact Memory.find?_put_self found rfl
      have logged := later.log around entry
      rw [answered]
      refine ⟨logged, ?_⟩
      show fleet.CancelReport registry id _ _ (company.after fleet _).calls _
      rw [made]
      exact .cancelled found alive free moved
        (lasts_of_terminal checked shared logged.honest logged.due moved checked.cancelled)
    | true =>
      obtain ⟨answered, unchanged⟩ := cancel_of_kept registry around found kept
      have still : (company.after fleet (company.cancellation registry around
          id)).state.site.memory.find? id = some stored := by
        rw [← found]
        exact congrArg (·.find? id) unchanged
      rw [answered]
      exact report_of_requestCancel checked shared later made unchanged still around

/-- **A cancellation tells the truth**, whatever the engines and the other callers do before each of
its calls. -/
theorem cancel_reports {draft : Draft S P Call Response} {registry : Registry S P Call Response}
    (built : draft.build = .ok registry) (fleet : Fleet ι ε S P Call Response)
    (shared : ∀ name, (fleet name).registry = registry) (memory : Memory S P) (surroundings : ε)
    (around : World ε Call Response) (earlier : List (Action ι ε S P))
    (turns : List (List (Action ι ε S P)))
    (trigger : ∀ action ∈ turns.flatten, action.IsTriggerOf registry) (id : String) :
    let before := fleet.run (.start memory surroundings) earlier
    let answer := (caller fleet registry).cancel (Company.world around) id ⟨before, turns, []⟩
    fleet.CancelReport registry id (around.now before.site.surroundings) answer.2.state
      answer.2.calls answer.1 := by
  intro before
  have sound : (⟨before, turns, []⟩ : Company ι ε S P Call Response).IsSound fleet memory
      registry :=
    ⟨fleet.honest_run memory surroundings earlier, fleet.due_run memory surroundings earlier,
      trigger⟩
  exact (report_of_cancel (Draft.isSound_of_build built) shared sound rfl id around).2

/-! ### A list that is cancelled under the eyes of a caller -/

section Overtaken

open Credential StatusList

/-- A publisher leases the list. -/
def leasedSchedule : List (Action String Instant StatusList.State Publication) :=
  [.call (.create unsigned), .poll "a", .proceed "a" 0]

/-- The lease ends after the first call, and another caller cancels the list. -/
def rivalTurns : List (List (Action String Instant StatusList.State Publication)) :=
  [[], [.pass (atMillis 1200), .call (StatusList.registry.cancellation "list" (atMillis 1200))]]

theorem rivalTurns_trigger :
    ∀ action ∈ rivalTurns.flatten, action.IsTriggerOf StatusList.registry := by
  intro action member
  simp only [rivalTurns, List.flatten_cons, List.nil_append, List.flatten_nil, List.append_nil,
    List.mem_cons, List.not_mem_nil, or_false] at member
  rcases member with rfl | rfl
  · trivial
  · exact ⟨rfl, rfl⟩

/-- The caller is told that the list is cancelled. -/
theorem cancel_overtaken :
    ((caller slowPublishers StatusList.registry).cancel (Company.world (slowPublishers "a").world)
      "list" ⟨slowPublishers.run (.start .empty (atMillis 1000)) leasedSchedule, rivalTurns,
        []⟩).1 = .error (.alreadyTerminal "list" "CANCELLED") := by
  let leased := slowPublishers.run (selectedBy (fun _ => (1000, .transient "busy")) "a")
    [.proceed "a" 0]
  let company : Company String Instant StatusList.State Publication Credential.Call
    Credential.Response := ⟨leased, rivalTurns, []⟩
  let world := (slowPublishers "a").world
  let asked := company.after slowPublishers
    (company.cancellation StatusList.registry world "list")
  let cancelled : Entity StatusList.State Publication :=
    { overtaken with stateTimestamp := atMillis 1200, updatedAt := atMillis 1200, version := 2 }
  have reached : slowPublishers.run (.start .empty (atMillis 1000)) leasedSchedule = leased :=
    run_selectedBy _ "a" _
  have held : (company.met slowPublishers).site.memory.find? "list" = some lateFirst := rfl
  have gone : (asked.met slowPublishers).site.memory.find? "list" = some cancelled := by
    show (slowPublishers.run (slowPublishers.step leased (.call
      (StatusList.registry.cancellation "list" (atMillis 1000)))) [.pass (atMillis 1200), .call
        (StatusList.registry.cancellation "list" (atMillis 1200))]).site.memory.find? "list" = _
    unfold Registry.cancellation
    rw [terminalStates_registry]
    rfl
  obtain ⟨asks, _⟩ := cancel_of_kept StatusList.registry world held rfl
  obtain ⟨looks, unchanged⟩ := requestCancel_of_terminal StatusList.registry world gone rfl
  have still : ((asked.after slowPublishers (StatusList.registry.request "list")).met
      slowPublishers).site.memory.find? "list" = some cancelled := by
    rw [← gone]
    exact congrArg (·.find? "list") unchanged
  rw [reached, asks, looks, refuse_of_found StatusList.registry still]
  rfl

/-- The caller finds the list leased and then cancelled, and says so. -/
theorem cancel_reports_overtaken :
    let before := slowPublishers.run (.start .empty (atMillis 1000)) leasedSchedule
    let answer := (caller slowPublishers StatusList.registry).cancel
      (Company.world (slowPublishers "a").world) "list" ⟨before, rivalTurns, []⟩
    answer.1 = .error (.alreadyTerminal "list" "CANCELLED") ∧
      slowPublishers.Lasts StatusList.registry answer.2.state "list"
        fun last => last.state = .cancelled := by
  intro before answer
  have named : answer.1 = .error (.alreadyTerminal "list" "CANCELLED") := cancel_overtaken
  have told := cancel_reports StatusList.build_draft slowPublishers (fun _ => rfl) .empty
    (atMillis 1000) (slowPublishers "a").world leasedSchedule rivalTurns rivalTurns_trigger "list"
  change slowPublishers.CancelReport _ _ _ answer.2.state answer.2.calls answer.1 at told
  refine ⟨named, ?_⟩
  generalize answer.1 = reported at told named
  generalize answer.2.calls = calls at told
  cases told with
  | cancelled | pending | notFound => cases named
  | @alreadyTerminal _ _ _ stored _ _ _ _ stays =>
    have cancelled : stored.state = .cancelled := by
      injection named with same
      injection same with _ same
      revert same
      cases stored.state <;> decide
    rw [cancelled] at stays
    exact stays

end Overtaken

end Fleet

end Leasehold
