/-
**What an operation does to one entity.**

Every operation on a store in memory treats each entity on its own. So an operation is known by what
it makes of a stored entity, and by the entity that it adds:

* `Operation.takesEffect`: the operation is a conditional write whose condition the entity meets;
* `Operation.marks`: the operation asks for the cancellation of the entity;
* `Operation.revise`: what it makes of the entity, in all cases;
* `find?_after`: a look-up after an operation is the look-up before it, revised. Whatever holds of a
  store after an operation follows from this one statement;
* `answer_lease_eq_ok_iff`, `answer_update_eq_ok_iff`: when a claim and a write succeed, and what
  they hand out.
-/

import Leasehold.Store.Memory

set_option linter.unusedSectionVars false

namespace Leasehold

variable {S P : Type}

namespace Memory

/-! ### Look-ups -/

theorem id_of_find? {memory : Memory S P} {id : String} {stored : Entity S P}
    (found : memory.find? id = some stored) : stored.id = id := by
  simpa using List.find?_some found

/-- Looking up in a store whose entities were all changed. -/
theorem find?_mapEntities (memory : Memory S P) (change : Entity S P → Entity S P)
    (keeps : ∀ entity, (change entity).id = entity.id) (id : String) :
    (memory.mapEntities change keeps).find? id = (memory.find? id).map change := by
  unfold find? mapEntities
  rw [List.find?_map]
  congr 2
  funext entity
  show ((change entity).id == id) = (entity.id == id)
  rw [keeps]

/-- Looking up after one entity was replaced. -/
theorem find?_put (memory : Memory S P) (entity : Entity S P) (id : String) :
    (memory.put entity).find? id =
      (memory.find? id).map fun stored => if stored.id = entity.id then entity else stored :=
  find?_mapEntities memory _ _ id

/-- What was put in the place of an entity is found there. -/
theorem find?_put_self {memory : Memory S P} {id : String} {stored entity : Entity S P}
    (found : memory.find? id = some stored) (sameId : entity.id = stored.id) :
    (memory.put entity).find? id = some entity := by
  rw [find?_put, found, Option.map_some, if_pos sameId.symm]

/-- Looking another entity up after one was replaced. -/
theorem find?_put_of_ne {memory : Memory S P} {entity : Entity S P} {id : String}
    (apart : id ≠ entity.id) : (memory.put entity).find? id = memory.find? id := by
  rw [find?_put]
  cases found : memory.find? id with
  | none => rfl
  | some stored =>
    rw [← id_of_find? found] at apart
    exact congrArg some (if_neg apart)

/-- Of two replacements of one entity the second one stays. -/
theorem put_put {first second : Entity S P} (memory : Memory S P)
    (sameId : first.id = second.id) : (memory.put first).put second = memory.put second := by
  unfold put mapEntities
  simp only [List.map_map, mk.injEq]
  refine List.map_congr_left fun stored _ => ?_
  by_cases same : stored.id = second.id
  · simp [same, sameId]
  · simp [same, sameId]

/-- Looking up after an entity was added. -/
theorem find?_add? {memory grown : Memory S P} {entity : Entity S P}
    (added : memory.add? entity = some grown) (id : String) :
    memory.find? entity.id = none ∧
      grown.find? id = (memory.find? id).or (if entity.id = id then some entity else none) := by
  unfold add? at added
  split at added
  · cases added
  · next notTaken =>
    cases added
    constructor
    · refine List.find?_eq_none.mpr fun stored member => ?_
      intro same
      exact notTaken (List.mem_map.mpr ⟨stored, member, by simpa using same⟩)
    · unfold find?
      rw [List.find?_append]
      by_cases same : entity.id = id
      · simp [same]
      · simp [same]

/-- An entity cannot be added exactly if its id is taken. -/
theorem add?_eq_none_iff {memory : Memory S P} {entity : Entity S P} :
    memory.add? entity = none ↔ ∃ stored, memory.find? entity.id = some stored := by
  unfold add?
  constructor
  · intro refused
    split at refused
    · next taken =>
      obtain ⟨stored, member, same⟩ := List.mem_map.mp taken
      refine Option.isSome_iff_exists.mp (List.find?_isSome.mpr ⟨stored, member, ?_⟩)
      simpa using same
    · cases refused
  · rintro ⟨stored, found⟩
    refine dif_pos (List.mem_map.mpr ⟨stored, List.mem_of_find?_eq_some found, id_of_find? found⟩)

/-- Looking up after the entity under one id was rewritten, if it met a condition. -/
theorem find?_rewritten {memory rewritten : Memory S P} {target : String}
    (condition : Entity S P → Bool) (rewrite : Entity S P → Entity S P)
    (keeps : ∀ stored, stored.id = target → (rewrite stored).id = target)
    (result : rewritten = match memory.find? target with
      | some stored => if condition stored then memory.put (rewrite stored) else memory
      | none => memory)
    (id : String) :
    rewritten.find? id = (memory.find? id).map fun stored =>
      if stored.id = target ∧ condition stored then rewrite stored else stored := by
  subst result
  cases located : memory.find? target with
  | none =>
    cases found : memory.find? id with
    | none => rfl
    | some stored =>
      have other : stored.id ≠ target := by
        intro same
        rw [← same, id_of_find? found, found] at located
        cases located
      rw [Option.map_some, if_neg fun both => other both.1]
  | some held =>
    have atTarget := id_of_find? located
    show (if condition held then memory.put (rewrite held) else memory).find? id = _
    cases found : memory.find? id with
    | none =>
      split
      · rw [find?_put, found]
        rfl
      · exact found
    | some stored =>
      by_cases same : stored.id = target
      · have equal : stored = held := by
          rw [← same, id_of_find? found, found] at located
          exact Option.some.inj located
        subst equal
        by_cases holds : condition stored
        · rw [if_pos holds, find?_put, found, Option.map_some, Option.map_some, keeps stored same,
            if_pos same, if_pos ⟨same, holds⟩]
        · simpa [holds] using found
      · have notWritten : stored.id ≠ (rewrite held).id := by
          rw [keeps held atTarget]
          exact same
        split
        · rw [find?_put, found, Option.map_some, Option.map_some, if_neg notWritten,
            if_neg fun both => same both.1]
        · simpa [same] using found

end Memory

/-! ### One operation and one entity -/

variable [DecidableEq S]

namespace Operation

/-- Whether an operation is a conditional write whose condition an entity meets. -/
def takesEffect : Operation S P → Entity S P → Bool
  | .update result, stored => decide (stored.id = result.id ∧ stored.version = result.version)
  | .lease id _ _ now, stored => decide (stored.id = id) && stored.isFreeAt now
  | .renew id holder _ _, stored => decide (stored.id = id) && stored.isLeasedBy holder
  | .release id holder, stored => decide (stored.id = id) && stored.isLeasedBy holder
  | .releaseAll holder, stored => stored.isLeasedBy holder
  | .cancelIfFree id _ terminal now, stored =>
    decide (stored.id = id) && (!terminal.contains stored.state && stored.isFreeAt now)
  | .find _, _ | .create _, _ | .query _, _ | .requestCancel _ _, _ => false

/-- Whether an operation asks for the cancellation of an entity. -/
def marks : Operation S P → Entity S P → Bool
  | .requestCancel id terminal, stored =>
    decide (stored.id = id) && !terminal.contains stored.state
  | _, _ => false

/-- What a conditional write makes of an entity that meets its condition. -/
def rewrite : Operation S P → Entity S P → Entity S P
  | .update result, stored =>
    { result with
      version := result.version + 1
      createdAt := stored.createdAt
      cancelRequested := stored.cancelRequested }
  | .lease _ holder duration now, stored =>
    { stored with
      lease := some (Lease.start holder now duration)
      version := stored.version + 1 }
  | .renew _ holder duration now, stored =>
    { stored with
      lease := some (Lease.start holder now duration)
      version := stored.version + 1 }
  | .release _ _, stored | .releaseAll _, stored => Memory.released stored
  | .cancelIfFree _ cancelled _ now, stored =>
    Memory.released (stored.transitionTo cancelled now)
  | .find _, stored | .create _, stored | .query _, stored | .requestCancel _ _, stored => stored

/-- What an operation makes of a stored entity. -/
def revise (operation : Operation S P) (stored : Entity S P) : Entity S P :=
  if operation.takesEffect stored then operation.rewrite stored
  else if operation.marks stored then { stored with cancelRequested := true }
  else stored

/-- The entity that an operation adds under an id that is not taken. -/
def addition? : Operation S P → String → Option (Entity S P)
  | .create entity, id => if entity.id = id then some entity else none
  | _, _ => none

end Operation

namespace Memory

/-- The store after an operation. -/
def after (memory : Memory S P) (operation : Operation S P) : Memory S P :=
  (Memory.run operation memory).2

/-- What a store answers to an operation. -/
def answer (memory : Memory S P) (operation : Operation S P) : operation.Answer :=
  (Memory.run operation memory).1

/-- Looking up after an operation that rewrites the entity under one id if it meets a condition. -/
theorem find?_after_of_target {memory : Memory S P} {operation : Operation S P} (target : String)
    (condition : Entity S P → Bool) (rewrite : Entity S P → Entity S P)
    (keeps : ∀ stored, stored.id = target → (rewrite stored).id = target)
    (result : memory.after operation = match memory.find? target with
      | some stored => if condition stored then memory.put (rewrite stored) else memory
      | none => memory)
    (revises : ∀ stored, operation.revise stored =
      if stored.id = target ∧ condition stored then rewrite stored else stored)
    {id : String} (nothingNew : operation.addition? id = none) :
    (memory.after operation).find? id =
      ((memory.find? id).map operation.revise).or (operation.addition? id) := by
  rw [nothingNew, Option.or_none, find?_rewritten condition rewrite keeps result]
  congr 1
  funext stored
  exact (revises stored).symm

theorem renew_of_found {memory : Memory S P} {id : String} {stored : Entity S P}
    (found : memory.find? id = some stored) (holder : String) (duration : Duration)
    (now : Instant) :
    renew id holder duration now memory =
      if stored.isLeasedBy holder then
        (.ok ((Operation.renew id holder duration now).rewrite stored),
          memory.put ((Operation.renew id holder duration now).rewrite stored))
      else (.error (.leased id), memory) := by
  unfold renew
  rw [found]
  obtain ⟨_, _, _, _, _, _, _, _, claim, _, _, _⟩ := stored
  cases claim with
  | none => rfl
  | some held =>
    by_cases own : held.holder = holder
    · simp [own, Entity.isLeasedBy, Lease.renew?, Operation.rewrite, Lease.start]
    · simp [own, Entity.isLeasedBy, Lease.renew?]

/-- Looking up after an entity was to be added: what is there stays as it is. -/
theorem find?_after_create (memory : Memory S P) (entity : Entity S P) (id : String) :
    (memory.after (.create entity)).find? id =
      ((memory.find? id).map (Operation.create entity).revise).or
        ((Operation.create entity).addition? id) := by
  have addition : (Operation.create entity).addition? id =
      if entity.id = id then some entity else none := rfl
  have revised : (Operation.create entity).revise = fun stored => stored := rfl
  rw [addition, revised, Option.map_id']
  simp only [after, run]
  cases added : memory.add? entity with
  | some grown => exact (find?_add? added id).2
  | none =>
    obtain ⟨stored, taken⟩ := add?_eq_none_iff.mp added
    by_cases same : entity.id = id
    · subst same
      rw [taken]
      rfl
    · rw [if_neg same, Option.or_none]

/-- An entity that could be added is there afterwards. -/
theorem find?_after_create_of_ok {memory : Memory S P} {entity : Entity S P}
    (added : memory.answer (.create entity) = .ok ()) :
    (memory.after (.create entity)).find? entity.id = some entity := by
  simp only [answer, after, run] at added ⊢
  cases grows : memory.add? entity with
  | some grown =>
    obtain ⟨absent, found⟩ := find?_add? grows entity.id
    rw [absent, if_pos rfl] at found
    exact found
  | none =>
    rw [grows] at added
    cases added

/-- **A look-up after an operation is the look-up before it, revised**; an entity that was not
there is the one that was added. -/
theorem find?_after (memory : Memory S P) (operation : Operation S P) (id : String) :
    (memory.after operation).find? id =
      ((memory.find? id).map operation.revise).or (operation.addition? id) := by
  cases operation with
  | find _ | query _ =>
    show memory.find? id = ((memory.find? id).map fun stored => stored).or none
    rw [Option.or_none, Option.map_id']
  | create entity => exact find?_after_create memory entity id
  | update result =>
    refine find?_after_of_target result.id (fun stored => decide (stored.version = result.version))
      (Operation.update result).rewrite (fun _ _ => rfl) ?_ (fun stored => ?_) rfl
    · show (update result memory).2 = _
      unfold update
      cases memory.find? result.id with
      | none => rfl
      | some stored =>
        dsimp only
        by_cases same : stored.version = result.version
        · rw [if_pos same, if_pos (decide_eq_true same)]
          rfl
        · rw [if_neg same, if_neg (by simpa using same)]
    · simp [Operation.revise, Operation.takesEffect, Operation.marks]
  | lease target holder duration now =>
    refine find?_after_of_target target (fun stored => stored.isFreeAt now)
      (Operation.lease target holder duration now).rewrite (fun _ same => same) ?_
      (fun stored => ?_) rfl
    · show (lease target holder duration now memory).2 = _
      unfold lease
      cases memory.find? target with
      | none => rfl
      | some stored =>
        dsimp only
        cases stored.isFreeAt now <;> rfl
    · simp [Operation.revise, Operation.takesEffect, Operation.marks]
  | renew target holder duration now =>
    refine find?_after_of_target target (fun stored => stored.isLeasedBy holder)
      (Operation.renew target holder duration now).rewrite (fun _ same => same) ?_
      (fun stored => ?_) rfl
    · show (renew target holder duration now memory).2 = _
      cases found : memory.find? target with
      | none =>
        unfold renew
        rw [found]
      | some stored =>
        rw [renew_of_found found]
        dsimp only
        cases stored.isLeasedBy holder <;> rfl
    · simp [Operation.revise, Operation.takesEffect, Operation.marks]
  | release target holder =>
    refine find?_after_of_target target (fun stored => stored.isLeasedBy holder)
      (Operation.release target holder).rewrite (fun _ same => same) ?_ (fun stored => ?_) rfl
    · show (release target holder memory).2 = _
      unfold release
      cases memory.find? target with
      | none => rfl
      | some stored =>
        dsimp only
        cases stored.isLeasedBy holder <;> rfl
    · simp [Operation.revise, Operation.takesEffect, Operation.marks]
  | releaseAll holder =>
    show (releaseAll holder memory).2.find? id = (Option.map _ _).or none
    unfold releaseAll
    rw [Option.or_none, find?_mapEntities]
    rfl
  | cancelIfFree target cancelled terminal now =>
    refine find?_after_of_target target
      (fun stored => !terminal.contains stored.state && stored.isFreeAt now)
      (Operation.cancelIfFree target cancelled terminal now).rewrite (fun _ same => same) ?_
      (fun stored => ?_) rfl
    · show (cancelIfFree target cancelled terminal now memory).2 = _
      unfold cancelIfFree
      cases memory.find? target with
      | none => rfl
      | some stored =>
        dsimp only
        cases terminal.contains stored.state <;> cases stored.isFreeAt now <;> rfl
    · simp [Operation.revise, Operation.takesEffect, Operation.marks]
  | requestCancel target terminal =>
    refine find?_after_of_target target (fun stored => !terminal.contains stored.state)
      (fun stored => { stored with cancelRequested := true }) (fun _ same => same) ?_
      (fun stored => ?_) rfl
    · show (requestCancel target terminal memory).2 = _
      unfold requestCancel
      cases memory.find? target with
      | none => rfl
      | some stored =>
        dsimp only
        cases terminal.contains stored.state <;> rfl
    · simp [Operation.revise, Operation.takesEffect, Operation.marks]

/-! ### Answers -/

theorem lease_of_found {memory : Memory S P} {id : String} {stored : Entity S P}
    (found : memory.find? id = some stored) (holder : String) (duration : Duration)
    (now : Instant) :
    lease id holder duration now memory =
      if stored.isFreeAt now then
        (.ok ((Operation.lease id holder duration now).rewrite stored),
          memory.put ((Operation.lease id holder duration now).rewrite stored))
      else (.error (.leased id), memory) := by
  unfold lease
  rw [found]
  rfl

/-- **A claim succeeds exactly on an entity that is free**, and hands it out as it is stored
afterwards. -/
theorem answer_lease_eq_ok_iff {memory : Memory S P} {id holder : String} {duration : Duration}
    {now : Instant} {leased : Entity S P} :
    memory.answer (.lease id holder duration now) = .ok leased ↔
      ∃ stored, memory.find? id = some stored ∧ stored.isFreeAt now = true ∧
        leased = { stored with
          lease := some (Lease.start holder now duration)
          version := stored.version + 1 } := by
  show (lease id holder duration now memory).1 = .ok leased ↔ _
  cases found : memory.find? id with
  | none =>
    unfold lease
    rw [found]
    simp
  | some stored =>
    rw [lease_of_found found]
    cases free : stored.isFreeAt now with
    | false => simp [free]
    | true =>
      rw [if_pos rfl]
      constructor
      · intro handed
        exact ⟨stored, rfl, free, (Except.ok.inj handed).symm⟩
      · rintro ⟨_, same, _, rfl⟩
        cases same
        rfl

/-- A claim on an entity that is free is carried out. -/
theorem run_lease_of_free {memory : Memory S P} {id : String} {stored : Entity S P}
    {now : Instant} (found : memory.find? id = some stored) (free : stored.isFreeAt now = true)
    (holder : String) (duration : Duration) :
    Memory.run (.lease id holder duration now) memory =
      (.ok ((Operation.lease id holder duration now).rewrite stored),
        memory.put ((Operation.lease id holder duration now).rewrite stored)) := by
  show lease id holder duration now memory = _
  rw [lease_of_found found, if_pos free]

/-- A claim on an entity that is not free is refused and changes nothing. -/
theorem run_lease_of_not_free {memory : Memory S P} {id : String} {stored : Entity S P}
    {now : Instant} (found : memory.find? id = some stored) (held : stored.isFreeAt now = false)
    (holder : String) (duration : Duration) :
    Memory.run (.lease id holder duration now) memory = (.error (.leased id), memory) := by
  show lease id holder duration now memory = _
  rw [lease_of_found found, held]
  rfl

/-- A cancellation of an entity that is not free answers no and changes nothing. -/
theorem run_cancelIfFree_of_not_free {memory : Memory S P} {id : String} {stored : Entity S P}
    {now : Instant} (found : memory.find? id = some stored) (held : stored.isFreeAt now = false)
    (cancelled : S) (terminal : List S) :
    Memory.run (.cancelIfFree id cancelled terminal now) memory = (.ok false, memory) := by
  show cancelIfFree id cancelled terminal now memory = _
  unfold cancelIfFree
  rw [found]
  dsimp only
  rw [held, Bool.not_false, Bool.or_true]
  rfl

/-- Giving a claim up never fails. -/
theorem answer_release (memory : Memory S P) (id holder : String) :
    ∃ had, memory.answer (.release id holder) = .ok had := by
  show ∃ had, (release id holder memory).1 = .ok had
  unfold release
  cases memory.find? id with
  | none => exact ⟨false, rfl⟩
  | some stored =>
    dsimp only
    split
    · exact ⟨true, rfl⟩
    · exact ⟨false, rfl⟩

theorem update_of_found {memory : Memory S P} {result stored : Entity S P}
    (found : memory.find? result.id = some stored) :
    update result memory =
      if stored.version = result.version then
        (.ok ((Operation.update result).rewrite stored),
          memory.put ((Operation.update result).rewrite stored))
      else (.error (.concurrency result.id result.version), memory) := by
  unfold update
  rw [found]
  rfl

/-- A write that carries the stored version is carried out. -/
theorem run_update_of_found {memory : Memory S P} {result stored : Entity S P}
    (found : memory.find? result.id = some stored) (same : stored.version = result.version) :
    Memory.run (.update result) memory =
      (.ok ((Operation.update result).rewrite stored),
        memory.put ((Operation.update result).rewrite stored)) := by
  show update result memory = _
  rw [update_of_found found, if_pos same]

/-- **A write succeeds exactly if the stored version is the one that it carries.** It keeps the
time of creation and the request to cancel. -/
theorem answer_update_eq_ok_iff {memory : Memory S P} {result saved : Entity S P} :
    memory.answer (.update result) = .ok saved ↔
      ∃ stored, memory.find? result.id = some stored ∧ stored.version = result.version ∧
        saved = { result with
          version := result.version + 1
          createdAt := stored.createdAt
          cancelRequested := stored.cancelRequested } := by
  show (update result memory).1 = .ok saved ↔ _
  cases found : memory.find? result.id with
  | none =>
    unfold update
    rw [found]
    simp
  | some stored =>
    rw [update_of_found found]
    by_cases same : stored.version = result.version
    · rw [if_pos same]
      constructor
      · intro handed
        exact ⟨stored, rfl, same, (Except.ok.inj handed).symm⟩
      · rintro ⟨_, equal, _, rfl⟩
        cases equal
        rfl
    · simp [same]

/-- A write that fails says that somebody else was faster, and changes nothing. -/
theorem run_update_of_error {memory : Memory S P} {result : Entity S P} {error : StoreError}
    (failed : memory.answer (.update result) = .error error) :
    Memory.run (.update result) memory =
      (.error (.concurrency result.id result.version), memory) := by
  change (update result memory).1 = .error error at failed
  show update result memory = _
  cases found : memory.find? result.id with
  | none =>
    unfold update
    rw [found]
  | some stored =>
    rw [update_of_found found] at failed ⊢
    by_cases same : stored.version = result.version
    · rw [if_pos same] at failed
      cases failed
    · rw [if_neg same]

end Memory

end Leasehold
