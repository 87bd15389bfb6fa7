/-
**Versions count the conditional writes.**

A version grows by one with every conditional write that takes effect, and a request to cancel is
the only change that it does not count. So two sights of one entity with the same version differ in
nothing but that request:

* `Entity.SameButRequest`, `Entity.SameButLease`: entities that agree in all but a request to cancel,
  or but the lease and the version;
* `Entity.Precedes`: what holds between two sights of one entity, the second not before the first;
* `precedes_revise`, `find?_replay`: one operation, and then any number of them, keep to it;
* `exists_stored_of_lease`: a claim with the next version is one on what was seen before;
* `conditionalWrites`: how many conditional writes to an entity took effect;
* `version_replay`: the version counts them, exactly.
-/

import Leasehold.Proofs.Store.Revision

set_option linter.unusedSectionVars false

namespace Leasehold

variable {S P : Type}

namespace Entity

/-- The entities agree in every field, except that cancellation may be asked for in one of them. -/
def SameButRequest (first second : Entity S P) : Prop :=
  second = { first with cancelRequested := second.cancelRequested }

namespace SameButRequest

theorem eq {first second : Entity S P} (same : SameButRequest first second) :
    second = { first with cancelRequested := second.cancelRequested } := same

theorem id {first second : Entity S P} (same : SameButRequest first second) :
    second.id = first.id := by rw [same.eq]

theorem createdAt {first second : Entity S P} (same : SameButRequest first second) :
    second.createdAt = first.createdAt := by rw [same.eq]

theorem version {first second : Entity S P} (same : SameButRequest first second) :
    second.version = first.version := by rw [same.eq]

theorem refl (entity : Entity S P) : SameButRequest entity entity := rfl

theorem symm {first second : Entity S P} (same : SameButRequest first second) :
    SameButRequest second first := by
  unfold SameButRequest at same ⊢
  rw [same]

theorem trans {first second third : Entity S P} (left : SameButRequest first second)
    (right : SameButRequest second third) : SameButRequest first third := by
  unfold SameButRequest at left right ⊢
  rw [right, left]

end SameButRequest

/-- The entities agree in every field, except for the lease and the version. -/
def SameButLease (before after : Entity S P) : Prop :=
  after = { before with lease := after.lease, version := after.version }

namespace SameButLease

theorem eq {before after : Entity S P} (same : before.SameButLease after) :
    after = { before with lease := after.lease, version := after.version } := same

theorem refl (entity : Entity S P) : entity.SameButLease entity := rfl

theorem trans {first second third : Entity S P} (left : first.SameButLease second)
    (right : second.SameButLease third) : first.SameButLease third := by
  unfold SameButLease at left right ⊢
  rw [right, left]

theorem id {before after : Entity S P} (same : before.SameButLease after) :
    after.id = before.id := by rw [same.eq]

theorem state {before after : Entity S P} (same : before.SameButLease after) :
    after.state = before.state := by rw [same.eq]

end SameButLease

/-- What holds between two sights of one entity, the second not before the first. -/
structure Precedes (earlier later : Entity S P) : Prop where
  id : later.id = earlier.id
  createdAt : later.createdAt = earlier.createdAt
  version : earlier.version ≤ later.version
  /-- With the same version nothing else has changed. -/
  same : earlier.version = later.version → SameButRequest earlier later
  /-- A request to cancel is never taken back. -/
  request : earlier.cancelRequested = true → later.cancelRequested = true

namespace Precedes

theorem refl (entity : Entity S P) : Precedes entity entity :=
  ⟨rfl, rfl, Int.le_refl _, fun _ => .refl entity, fun asked => asked⟩

theorem trans {first second third : Entity S P} (left : Precedes first second)
    (right : Precedes second third) : Precedes first third where
  id := right.id.trans left.id
  createdAt := right.createdAt.trans left.createdAt
  version := Int.le_trans left.version right.version
  same equal := by
    have least := left.version
    have most := right.version
    exact (left.same (by omega)).trans (right.same (by omega))
  request asked := right.request (left.request asked)

end Precedes

end Entity

variable [DecidableEq S]

/-! ### One operation -/

namespace Operation

theorem version_rewrite {operation : Operation S P} {stored : Entity S P}
    (effective : operation.takesEffect stored = true) :
    (operation.rewrite stored).version = stored.version + 1 := by
  cases operation with
  | update result =>
    have same : stored.id = result.id ∧ stored.version = result.version :=
      of_decide_eq_true effective
    show result.version + 1 = stored.version + 1
    rw [same.2]
  | find _ | create _ | query _ | requestCancel _ _ => cases effective
  | lease _ _ _ _ | renew _ _ _ _ | release _ _ | releaseAll _ | cancelIfFree _ _ _ _ => rfl

/-- A conditional write keeps the id, the time of creation and the request to cancel. -/
theorem rewrite_keeps {operation : Operation S P} {stored : Entity S P}
    (effective : operation.takesEffect stored = true) :
    (operation.rewrite stored).id = stored.id ∧
      (operation.rewrite stored).createdAt = stored.createdAt ∧
      (operation.rewrite stored).cancelRequested = stored.cancelRequested := by
  cases operation with
  | update result =>
    have same : stored.id = result.id ∧ stored.version = result.version :=
      of_decide_eq_true effective
    exact ⟨same.1.symm, rfl, rfl⟩
  | find _ | create _ | query _ | requestCancel _ _ => cases effective
  | lease _ _ _ _ | renew _ _ _ _ | release _ _ | releaseAll _ | cancelIfFree _ _ _ _ =>
    exact ⟨rfl, rfl, rfl⟩

theorem revise_of_takesEffect {operation : Operation S P} {stored : Entity S P}
    (effective : operation.takesEffect stored = true) :
    operation.revise stored = operation.rewrite stored :=
  if_pos effective

/-- An operation that does not take effect asks for a cancellation at most. -/
theorem sameButRequest_revise {operation : Operation S P} {stored : Entity S P}
    (ineffective : operation.takesEffect stored = false) :
    stored.SameButRequest (operation.revise stored) := by
  unfold revise
  rw [if_neg (by simp [ineffective])]
  split
  · rfl
  · rfl

/-- A write leaves an entity alone that it is not about. -/
theorem revise_update_of_ne {result stored : Entity S P} (other : stored.id ≠ result.id) :
    (Operation.update result).revise stored = stored := by
  unfold revise
  have ineffective : (Operation.update result).takesEffect stored = false :=
    decide_eq_false fun both => other both.1
  rw [if_neg (by simp [ineffective])]
  rfl

/-- The version after an operation. -/
theorem version_revise (operation : Operation S P) (stored : Entity S P) :
    (operation.revise stored).version =
      stored.version + (if operation.takesEffect stored then 1 else 0) := by
  cases effective : operation.takesEffect stored with
  | true =>
    rw [revise_of_takesEffect effective, version_rewrite effective]
    rfl
  | false =>
    rw [(sameButRequest_revise effective).version]
    simp

/-- **An operation keeps the order of sights.** -/
theorem precedes_revise (operation : Operation S P) (stored : Entity S P) :
    stored.Precedes (operation.revise stored) := by
  have versions := version_revise operation stored
  cases effective : operation.takesEffect stored with
  | true =>
    obtain ⟨id, createdAt, request⟩ := rewrite_keeps effective
    rw [effective, revise_of_takesEffect effective] at versions
    rw [revise_of_takesEffect effective]
    rw [if_pos rfl] at versions
    refine ⟨id, createdAt, by omega, fun equal => ?_, fun asked => ?_⟩
    · omega
    · rw [request]
      exact asked
  | false =>
    have same := sameButRequest_revise effective
    refine ⟨same.id, same.createdAt, Int.le_of_eq same.version.symm, fun _ => same,
      fun asked => ?_⟩
    unfold revise
    rw [if_neg (by simp [effective])]
    split
    · rfl
    · exact asked

end Operation

namespace Memory

/-- An entity that is there is revised. -/
theorem find?_after_of_found {memory : Memory S P} {id : String} {stored : Entity S P}
    (found : memory.find? id = some stored) (operation : Operation S P) :
    (memory.after operation).find? id = some (operation.revise stored) := by
  rw [find?_after, found]
  rfl

/-! ### Any number of operations -/

/-- The store after some operations, one after the other. -/
def replay (memory : Memory S P) (operations : List (Operation S P)) : Memory S P :=
  operations.foldl after memory

@[simp] theorem replay_nil (memory : Memory S P) : memory.replay [] = memory := rfl

@[simp] theorem replay_cons (memory : Memory S P) (operation : Operation S P)
    (rest : List (Operation S P)) :
    memory.replay (operation :: rest) = (memory.after operation).replay rest := rfl

@[simp] theorem replay_append (memory : Memory S P) (first second : List (Operation S P)) :
    memory.replay (first ++ second) = (memory.replay first).replay second :=
  List.foldl_append

/-- **An entity stays in the store, and every later sight of it follows on the earlier one.** -/
theorem find?_replay {memory : Memory S P} {id : String} {stored : Entity S P}
    (found : memory.find? id = some stored) (operations : List (Operation S P)) :
    ∃ later, (memory.replay operations).find? id = some later ∧ stored.Precedes later := by
  induction operations generalizing memory stored with
  | nil => exact ⟨stored, found, .refl stored⟩
  | cons operation rest ih =>
    obtain ⟨later, there, follows⟩ := ih (find?_after_of_found found operation)
    exact ⟨later, there, (operation.precedes_revise stored).trans follows⟩

/-- A claim is stored as it was handed out. -/
theorem find?_after_lease {memory : Memory S P} {id holder : String} {duration : Duration}
    {now : Instant} {leased : Entity S P}
    (claimed : memory.answer (.lease id holder duration now) = .ok leased) :
    (memory.after (.lease id holder duration now)).find? id = some leased := by
  obtain ⟨stored, found, free, rfl⟩ := answer_lease_eq_ok_iff.mp claimed
  have effective : (Operation.lease id holder duration now).takesEffect stored = true := by
    show (decide (stored.id = id) && stored.isFreeAt now) = true
    rw [free, decide_eq_true (id_of_find? found)]
    rfl
  rw [find?_after_of_found found, Operation.revise_of_takesEffect effective]
  rfl

/-- What was written is stored as it was handed out. -/
theorem find?_after_update {memory : Memory S P} {written saved : Entity S P}
    (answered : memory.answer (.update written) = .ok saved) :
    (memory.after (.update written)).find? written.id = some saved := by
  obtain ⟨stored, found, same, rfl⟩ := answer_update_eq_ok_iff.mp answered
  have effective : (Operation.update written).takesEffect stored = true :=
    decide_eq_true ⟨id_of_find? found, same⟩
  rw [find?_after_of_found found, Operation.revise_of_takesEffect effective]
  rfl

/-- What a cancellation was asked for is stored with the request. -/
theorem find?_after_requestCancel {memory : Memory S P} {id : String} {terminal : List S}
    (asked : memory.answer (.requestCancel id terminal) = .ok true) :
    ∃ stored, (memory.after (.requestCancel id terminal)).find? id = some stored ∧
      stored.id = id ∧ stored.cancelRequested = true := by
  change (requestCancel id terminal memory).1 = .ok true at asked
  unfold requestCancel at asked
  cases found : memory.find? id with
  | none =>
    rw [found] at asked
    cases asked
  | some stored =>
    rw [found] at asked
    have active : terminal.contains stored.state = false := by
      refine Bool.eq_false_iff.mpr fun ended => ?_
      dsimp only at asked
      rw [if_pos ended] at asked
      cases asked
    have sameId := id_of_find? found
    have marked : (Operation.requestCancel id terminal).marks stored = true := by
      show (decide (stored.id = id) && !terminal.contains stored.state) = true
      rw [decide_eq_true sameId, active]
      rfl
    have revised : (Operation.requestCancel id terminal).revise stored =
        { stored with cancelRequested := true } := if_pos marked
    refine ⟨_, find?_after_of_found found _, ?_⟩
    rw [revised]
    exact ⟨sameId, rfl⟩

/-- **A claim with the next version is one on what was seen before**, up to a request to cancel. -/
theorem exists_stored_of_lease {memory : Memory S P} {seen leased : Entity S P} {holder : String}
    {duration : Duration} {now : Instant}
    (present : ∃ stored, memory.find? seen.id = some stored ∧ seen.Precedes stored)
    (claimed : memory.answer (.lease seen.id holder duration now) = .ok leased)
    (next : leased.version = seen.version + 1) :
    ∃ stored, seen.Precedes stored ∧ seen.SameButRequest stored ∧ stored.SameButLease leased := by
  obtain ⟨stored, found, follows⟩ := present
  obtain ⟨met, there, _, rfl⟩ := answer_lease_eq_ok_iff.mp claimed
  obtain rfl : met = stored := Option.some.inj (there.symm.trans found)
  have sameVersion : met.version + 1 = seen.version + 1 := next
  exact ⟨met, follows, follows.same (by omega), rfl⟩

/-- A claim has a higher version than every earlier claim on the same entity. -/
theorem version_lt_of_lease {memory : Memory S P} {id holder other : String}
    {duration rest : Duration} {now later : Instant} {first second : Entity S P}
    {between : List (Operation S P)}
    (claimed : memory.answer (.lease id holder duration now) = .ok first)
    (again : ((memory.after (.lease id holder duration now)).replay between).answer
      (.lease id other rest later) = .ok second) : first.version < second.version := by
  obtain ⟨stored, found, follows⟩ := find?_replay (find?_after_lease claimed) between
  obtain ⟨held, there, _, rfl⟩ := answer_lease_eq_ok_iff.mp again
  obtain rfl : held = stored := Option.some.inj (there.symm.trans found)
  show first.version < held.version + 1
  have notBefore := follows.version
  omega

/-- How many of some conditional writes to the entity with an id take effect. -/
def conditionalWrites (id : String) : List (Operation S P) → Memory S P → Nat
  | [], _ => 0
  | operation :: rest, memory =>
    (if (memory.find? id).any operation.takesEffect then 1 else 0) +
      conditionalWrites id rest (memory.after operation)

/-- **The version counts the conditional writes that took effect.** -/
theorem version_replay {memory : Memory S P} {id : String} {stored later : Entity S P}
    (found : memory.find? id = some stored) {operations : List (Operation S P)}
    (there : (memory.replay operations).find? id = some later) :
    later.version = stored.version + conditionalWrites id operations memory := by
  induction operations generalizing memory stored with
  | nil =>
    rw [replay_nil, found] at there
    cases there
    simp [conditionalWrites]
  | cons operation rest ih =>
    have counted := ih (find?_after_of_found found operation) there
    rw [Operation.version_revise] at counted
    rw [counted, conditionalWrites, found, Option.any_some]
    split <;> push_cast <;> omega

end Memory

end Leasehold
