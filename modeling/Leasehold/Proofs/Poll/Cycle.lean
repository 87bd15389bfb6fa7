/-
**A poll cycle that nobody disturbs.**

A poll in steady surroundings, with one place for all entities, is a function of the store: it
selects the first entities that are due, and each of them is settled.

* `Member.isDueAt`: the entities that a poll may select;
* `settleAll_entities`: attempts on some entities of a store change these entities alone;
* `poll_settles`: what a poll selects, which handlers it calls, and what it leaves in the store.
-/

import Leasehold.Proofs.Fleet.Publishers
import Leasehold.Proofs.Poll.Sequence
import Leasehold.Proofs.Store.Order

set_option linter.unusedSectionVars false

namespace Leasehold

variable {ι ε σ X S P Call : Type} {Response : Call → Type} [DecidableEq S] [ProcessState S]

/-! ### Polls and batches -/

namespace Engine

variable {engine : Engine σ S P Call Response} {world : World σ Call Response} {state next : σ}
  {permits : Permits}

/-- A poll that selects nothing says so. -/
theorem poll_of_nil (selects : engine.select world state = (.ok [], next)) (limit : Nat) :
    engine.poll world limit permits state = ((.ok {}, permits), (engine.noteIdle world next).2) := by
  unfold poll
  rw [bind_apply, selects]
  rfl

/-- A poll whose selection fails does nothing else. -/
theorem poll_of_error {error : StoreError}
    (selects : engine.select world state = (.error error, next)) (limit : Nat) :
    engine.poll world limit permits state = ((.error error, permits), next) := by
  unfold poll
  rw [bind_apply, selects]
  rfl

/-- A poll that selects something runs its batch. -/
theorem poll_of_runBatch {selection : List (Entity S P)} {limit : Nat}
    {later : Batch S P Call Response} {left : Permits} {after : σ} (chosen : selection ≠ [])
    (selects : engine.select world state = (.ok selection, next))
    (ran : engine.runBatch world 0 limit 0 (engine.seatSelection selection) permits next =
      ((later, left), after)) :
    engine.poll world limit permits state = ((.ok later.report, left), after) := by
  obtain ⟨candidate, rest, rfl⟩ := List.exists_cons_of_ne_nil chosen
  unfold poll
  rw [bind_apply, selects]
  dsimp only
  rw [bind_apply, ran]
  rfl

/-- A batch in which nobody sleeps is over once it has settled. -/
theorem runBatch_of_settle {lane limit now : Nat} {batch later : Batch S P Call Response}
    {left : Permits} {after : σ}
    (settled : engine.settle world lane now batch permits state = ((later, left), after))
    (noneWakes : later.nextWake? = none) :
    engine.runBatch world lane limit now batch permits state = ((later, left), after) := by
  rw [runBatch, bind_apply, settled]
  dsimp only
  rw [noneWakes]
  rfl

/-- A poll is as long as its batch. -/
theorem poll_of_ends {selection : List (Entity S P)}
    {final : (Batch S P Call Response × Permits) × σ → Prop} (chosen : selection ≠ [])
    (selects : engine.select world state = (.ok selection, next))
    (ends : engine.Ends world 0 0 (engine.seatSelection selection).servings
      ((engine.seatSelection selection, permits), next) final) :
    ∃ bound result, final result ∧ ∀ limit, bound ≤ limit →
      engine.poll world limit permits state =
        ((.ok result.1.1.report, result.1.2), result.2) := by
  obtain ⟨bound, result, holds, served⟩ := ends
  refine ⟨bound, result, holds, fun limit long => poll_of_runBatch chosen selects ?_⟩
  rw [runBatch_eq_serveFrom]
  exact served limit long

end Engine

namespace Member

variable (member : Member ε S P Call Response) (now : Instant) {memory : Memory S P}

/-- An entity may be selected if its state is handled, nobody holds it, and its delay is over. -/
def isDueAt (entity : Entity S P) : Bool :=
  member.registry.handledStates.contains entity.state && !entity.isLeasedAt now &&
    (member.config.retry.dueFilter now).admits entity.stateCount entity.stateTimestamp

theorem matchesEntity_criteria (name : ι) :
    ((member.engine name).criteria now).matchesEntity =
      (member.isDueAt now : Entity S P → Bool) := by
  funext entity
  exact Bool.and_true _

/-- **A poll selects the first entities that are due.** -/
theorem isFirst_query (name : ι) (memory : Memory S P) :
    IsFirst (fun entity : Entity S P => entity.stateTimestamp.nanos) (·.id)
      member.config.batchSize (memory.entities.filter (member.isDueAt now))
      (memory.query ((member.engine name).criteria now)) := by
  have distinct : ((memory.entities.filter (member.isDueAt now)).map (·.id)).Nodup :=
    memory.distinct.sublist (List.filter_sublist.map _)
  show IsFirst _ _ _ _ (pageOf _ _ .ascending 0 (some member.config.batchSize)
    (memory.entities.filter ((member.engine name).criteria now).matchesEntity))
  rw [matchesEntity_criteria]
  exact isFirst_pageOf distinct _

/-- What a poll selects is ready. -/
theorem isReady_of_selected {name : ι} {entity : Entity S P}
    (selected : entity ∈ memory.query ((member.engine name).criteria now)) :
    member.IsReady now memory entity := by
  obtain ⟨handled, free, _⟩ := matchesEntity_criteria_iff.mp (Memory.mem_query selected).2
  obtain ⟨registration, registered⟩ := Registry.mem_handledStates.mp handled
  refine ⟨(mem_query_criteria selected).1, ?_, registration.handler, ?_⟩
  · rw [entity.isFreeAt_eq_not_isLeasedAt, free]
    rfl
  · exact congrArg (Option.map _) registered

/-- **Attempts on some entities of a store change these entities alone.** -/
theorem settleAll_entities (reply : Entity S P → Reply S P) {selection : List (Entity S P)}
    (distinct : (selection.map (·.id)).Nodup)
    (stored : ∀ entity ∈ selection, memory.find? entity.id = some entity) :
    (member.settleAll now reply memory selection).entities = memory.entities.map fun entity =>
      if entity.id ∈ selection.map (·.id) then member.settled now reply entity else entity := by
  induction selection generalizing memory with
  | nil => simp [settleAll]
  | cons chosen rest ih =>
    obtain ⟨apart, distinct⟩ := List.nodup_cons.mp distinct
    have later : ∀ entity ∈ rest,
        (memory.put (member.settled now reply chosen)).find? entity.id = some entity := by
      intro entity listed
      rw [Memory.find?_put, stored entity (List.mem_cons_of_mem chosen listed)]
      exact congrArg some (if_neg fun same => apart (List.mem_map.mpr ⟨entity, listed, same⟩))
    refine (ih distinct later).trans ?_
    show (memory.entities.map _).map _ = _
    rw [List.map_map]
    refine List.map_congr_left fun entity listed => ?_
    rw [Function.comp_apply]
    by_cases same : entity.id = chosen.id
    · -- Only the chosen entity is stored under its id.
      obtain rfl : entity = chosen := by
        have found := stored chosen List.mem_cons_self
        rw [← same, Memory.find?_of_mem listed] at found
        exact Option.some.inj found
      have replaced : (if entity.id = (member.settled now reply entity).id then
          member.settled now reply entity else entity) = member.settled now reply entity :=
        if_pos rfl
      rw [replaced]
      exact (if_neg apart).trans (if_pos (List.mem_map_of_mem List.mem_cons_self)).symm
    · have kept : (if entity.id = (member.settled now reply chosen).id then
          member.settled now reply chosen else entity) = entity := if_neg same
      have moved : entity.id ∈ rest.map (·.id) ↔ entity.id ∈ (chosen :: rest).map (·.id) := by
        rw [List.map_cons, List.mem_cons]
        exact (or_iff_right same).symm
      rw [kept]
      exact if_congr moved rfl rfl

end Member

/-! ### The cycle -/

/-- **A poll that nobody disturbs.** There is one place for all entities, the clock stands still,
and every handler replies to an entity and leaves its notes. Then the poll selects the first
entities that are due, so many as its batch may hold. Each of them is settled by the reply of its
handler, which is given the entity as it was leased; with a request to cancel it is settled without
the handler. Every handler is called once, in the order of the selection. Nothing else changes in
the store. -/
theorem poll_settles (member : Member ε S P Call Response) (name : ι)
    (single : member.config.concurrency = 1) {now : Instant} {shows : List X → ε → Prop}
    {note : Entity S P → List X} {reply : Entity S P → Reply S P}
    (steady : member.IsSteady now shows note reply) (site : Site ι ε S P) {notes : List X}
    (shown : shows notes site.surroundings) {permits : Permits} (free : permits.IsFree) :
    ∃ selection bound left after,
      (∀ limit, bound ≤ limit →
        (member.engine name).poll member.world.onSite limit permits site =
          ((.ok (member.recordAll now reply { selected := selection.length } selection), left),
            after)) ∧
      IsFirst (fun entity => entity.stateTimestamp.nanos) (·.id) member.config.batchSize
        (site.memory.entities.filter (member.isDueAt now)) selection ∧
      shows (notes ++ selection.flatMap (member.noted now note)) after.surroundings ∧
      after.memory.entities = (site.memory.entities.map fun entity =>
        if entity.id ∈ selection.map (·.id) then member.settled now reply entity else entity) ∧
      after.transitions = site.transitions ++ selection.map (member.transition now reply) ∧
      left.IsFree := by
  have reads : site.Reads shows site.memory site.transitions notes := ⟨rfl, rfl, shown⟩
  have ran : Memory.run (.query ((member.engine name).criteria now)) site.memory =
      (.ok (site.memory.query ((member.engine name).criteria now)), site.memory) := rfl
  obtain ⟨next, performed, nextReads⟩ := steady.perform reads name ran
  have selects : (member.engine name).select member.world.onSite site =
      (.ok (site.memory.query ((member.engine name).criteria now)), next) := by
    rw [← steady.now_eq reads] at performed ⊢
    exact performed
  have ready : ∀ entity ∈ site.memory.query ((member.engine name).criteria now),
      member.IsReady now site.memory entity := fun entity => member.isReady_of_selected now
  have distinct := site.memory.nodup_query ((member.engine name).criteria now)
  have first := member.isFirst_query now name site.memory
  -- From here on the selection is any list of entities that are ready.
  generalize site.memory.query ((member.engine name).criteria now) = selection
    at selects ready distinct first
  have settled := member.settleAll_entities now reply distinct fun entity listed =>
    (ready entity listed).found
  by_cases nothing : selection = []
  · subst nothing
    have idle := steady.log nextReads ⟨.debug, "No due entities",
      [("entity_type", .text member.registry.entityType)]⟩
    refine ⟨[], 0, permits, _, fun limit _ => Engine.poll_of_nil selects limit, first, ?_, ?_, ?_,
      free⟩
    · rw [List.flatMap_nil, List.append_nil]
      exact idle.shown
    · rw [← settled]
      exact congrArg Memory.entities idle.memory
    · rw [List.map_nil, List.append_nil]
      exact idle.transitions
  · have seated : (member.engine name).seatSelection selection =
        (Batch.between 0 selection { selected := selection.length }).fill := by
      unfold Engine.seatSelection
      rw [show (member.engine name).config.concurrency = 1 from single]
      exact Batch.ofSelection_one selection
    have enough : 5 * selection.length ≤
        ((member.engine name).seatSelection selection).servings := by
      have most := Batch.five_mul_le_servings ((member.engine name).seatSelection selection)
      rw [seated, Batch.length_fill_between] at most
      rw [seated]
      exact most
    have ends : (member.engine name).Ends member.world.onSite 0 0
        ((member.engine name).seatSelection selection).servings
        (((member.engine name).seatSelection selection, permits), next) fun result =>
          result.1.1.report =
              member.recordAll now reply { selected := selection.length } selection ∧
            result.1.2.IsFree ∧
            result.2.Reads shows (member.settleAll now reply site.memory selection)
              (site.transitions ++ selection.map (member.transition now reply))
              (notes ++ selection.flatMap (member.noted now note)) := by
      rw [seated] at enough ⊢
      exact steady.proceeds name 0 selection distinct ready
        (fun _ _ _ free reads => ⟨rfl, free, reads⟩) 0 _ permits next free enough nextReads
    obtain ⟨bound, result, ⟨reported, leftFree, afterReads⟩, polls⟩ :=
      Engine.poll_of_ends nothing selects ends
    rw [reported] at polls
    refine ⟨selection, bound, result.1.2, result.2, polls, first, afterReads.shown, ?_,
      afterReads.transitions, leftFree⟩
    rw [afterReads.memory]
    exact settled

/-! ### A poll of a publisher -/

section Recorded

open Credential StatusList Fleet

/-- A publisher in surroundings that record its calls. Its partners refuse at once. -/
def recorder : Member (Instant × List Credential.Call) StatusList.State Publication Credential.Call
    Credential.Response where
  registry := StatusList.registry
  config := (busyPublishers "a").config
  holder := "a"
  sound := (busyPublishers "a").sound
  world := {
    now := fun surroundings => surroundings.1
    tick := fun _ => pure ()
    log := fun _ => pure ()
    emit := fun _ => pure ()
    call := fun request surroundings =>
      ((0, .transient "busy"), (surroundings.1, surroundings.2 ++ [request])) }
  elapse := fun surroundings => surroundings

/-- What the handlers of a publisher ask for. -/
def requests (list : Entity StatusList.State Publication) : List Credential.Call :=
  let job := list.payload
  match list.state, job.signed with
  | .created, _ => [.sign job.participantContext job.credential job.purpose job.revoked]
  | .signed, some signed => [.publish job.participantContext job.credential signed]
  | _, _ => []

/-- How the handlers of a publisher end if its partners are busy. -/
def excuse (list : Entity StatusList.State Publication) : Reply StatusList.State Publication :=
  match list.state, list.payload.signed with
  | .created, _ => .decided (.retry "sign status list: busy")
  | .signed, some _ => .decided (.retry "publish status list: busy")
  | _, _ => .decided (.fatal "status list was never signed")

theorem recorder_isSteady (now : Instant) :
    recorder.IsSteady now (fun calls surroundings => surroundings = (now, calls)) requests excuse where
  clock := by
    rintro calls _ rfl
    rfl
  ticks _ shown := shown
  logs _ shown := shown
  emits _ shown := shown
  elapses shown := shown
  handles := by
    intro list handler handled
    have asked : ∀ {request : Credential.Call} {next : Credential.Response request →
        Work Credential.Call Credential.Response (Reply StatusList.State Publication)}
        {answer : Reply StatusList.State Publication},
        next (.transient "busy") = .done answer →
          (Work.call request next).Gives recorder.world now
            (fun calls surroundings => surroundings = (now, calls)) [request] answer := by
      intro request next answer ends
      show (Work.call request next).Gives _ _ _ ([request] ++ []) answer
      refine .call ?_ ?_
      · rintro calls _ rfl
        rfl
      · rintro calls _ rfl
        show (next (.transient "busy")).Gives _ _ _ _ _
        rw [ends]
        exact .done
    obtain ⟨_, state, _, _, _, _, _, _, _, _, _, payload⟩ := list
    cases state with
    | created =>
      obtain rfl : signList = handler := Option.some.inj handled
      exact asked rfl
    | signed =>
      obtain rfl : publishList = handler := Option.some.inj handled
      obtain ⟨_, _, _, _, signed, _⟩ := payload
      cases signed with
      | none => exact .done
      | some credential => exact asked rfl
    | published | failed | cancelled => cases handled

/-- A publisher selects the list that waits, and leaves a published one as it is. -/
theorem poll_settles_unsigned :
    let published : Entity StatusList.State Publication :=
      { unsigned with id := "old", state := .published }
    let site : Site String (Instant × List Credential.Call) StatusList.State Publication :=
      ⟨⟨[unsigned, published], by decide⟩, (atMillis 1000, []), [], []⟩
    ∃ bound left after,
      (∀ limit, bound ≤ limit →
        (recorder.engine "a").poll recorder.world.onSite limit .unneeded site =
          ((.ok { selected := 1, leased := 1, retried := 1 }, left), after)) ∧
      after.surroundings.2 = [.sign "issuer" "credential" "revocation" []] ∧
      after.memory.entities =
        [{ unsigned with
            stateCount := 1
            errorDetail := some "sign status list: busy"
            stateTimestamp := atMillis 1000
            updatedAt := atMillis 1000
            version := 2 }, published] := by
  intro published site
  obtain ⟨selection, bound, left, after, polls, first, shown, stored, _, _⟩ :=
    poll_settles recorder "a" rfl (recorder_isSteady (atMillis 1000)) site rfl
      (⟨⟨rfl, rfl⟩, by decide⟩ : Permits.unneeded.IsFree)
  have due : site.memory.entities.filter (recorder.isDueAt (atMillis 1000)) = [unsigned] := by
    rw [← recorder.matchesEntity_criteria _ "a"]
    have waits : (((recorder.engine "a").criteria (atMillis 1000)).matchesEntity unsigned) = true :=
      matches_criteria ⟨_, rfl⟩ rfl (by decide)
    have rests : ¬((recorder.engine "a").criteria (atMillis 1000)).matchesEntity published = true := by
      intro chosen
      obtain ⟨_, registered⟩ := Registry.mem_handledStates.mp
        (matchesEntity_criteria_iff.mp chosen).1
      cases registered
    exact (List.filter_cons_of_pos waits).trans
      (congrArg (unsigned :: ·) (List.filter_cons_of_neg rests))
  have alone : IsFirst (fun list : Entity StatusList.State Publication =>
      list.stateTimestamp.nanos) (·.id) 5 [unsigned] [unsigned] :=
    ⟨fun _ listed => listed, List.pairwise_singleton _ _, by decide,
      fun _ listed missing => absurd listed missing⟩
  rw [due] at first
  obtain rfl := first.unique alone
  exact ⟨bound, left, after, polls, congrArg Prod.snd shown, stored⟩

end Recorded

end Leasehold
