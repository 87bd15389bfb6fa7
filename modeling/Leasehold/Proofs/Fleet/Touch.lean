/-
**What one action does to one entity.**

Whoever acts, an entity that is stored changes in one of three ways: a member takes or gives up a
claim on it, a caller outside the fleet revises it, or an attempt writes its outcome.

* `Operation.isClaiming`: the operations that can change no more than a lease and a version;
* `Fleet.Touch`, `Change.touches`: the three ways, and that there are no others.
-/

import Leasehold.Proofs.Fleet.Flight

set_option linter.unusedSectionVars false

namespace Leasehold

variable {ι ε S P Call : Type} {Response : Call → Type} [DecidableEq S] [ProcessState S]

namespace Operation

/-- Whether an operation can change no more of a stored entity than the lease and the version. -/
def isClaiming : Operation S P → Bool
  | .update _ | .cancelIfFree _ _ _ _ | .requestCancel _ _ => false
  | _ => true

theorem sameButLease_revise {operation : Operation S P} (claiming : operation.isClaiming = true)
    (stored : Entity S P) : stored.SameButLease (operation.revise stored) := by
  unfold revise
  split
  · cases operation with
    | update _ | cancelIfFree _ _ _ _ | requestCancel _ _ => cases claiming
    | find _ | create _ | query _ => rfl
    | lease _ _ _ _ | renew _ _ _ _ | release _ _ | releaseAll _ => rfl
  · split
    · next marked =>
      cases operation with
      | requestCancel _ _ => cases claiming
      | _ => cases marked
    · rfl

end Operation

namespace Fleet

variable [DecidableEq ι]

/-- The ways in which an action of a fleet changes a stored entity. -/
inductive Touch (state : State ι ε S P Call Response) (stored : Entity S P) :
    Action ι ε S P → Entity S P → Prop where
  /-- Nothing happens, or a member takes or gives up a claim. -/
  | holds {action : Action ι ε S P} {next : Entity S P} (same : stored.SameButLease next) :
      Touch state stored action next
  /-- A caller outside the fleet uses the store. -/
  | calls (operation : Operation S P) :
      Touch state stored (.call operation) (operation.revise stored)
  /-- An attempt writes its outcome. -/
  | writes {name : ι} {number : Nat} {leased result saved : Entity S P} {outcome : Outcome}
      (there : state.attempt? name number = some (.persisting leased result outcome))
      (written : state.site.memory.answer (.update { result with lease := none }) = .ok saved)
      (own : leased.id = stored.id) : Touch state stored (.proceed name number) saved

variable {fleet : Fleet ι ε S P Call Response} {state after : State ι ε S P Call Response}
  {action : Action ι ε S P}

/-- **An action changes a stored entity in one of these ways.** -/
theorem Change.touches (change : fleet.Change state action after) (tidy : state.Tidy fleet)
    {id : String} {stored : Entity S P} (found : state.site.memory.find? id = some stored) :
    ∃ next, after.site.memory.find? id = some next ∧ Touch state stored action next := by
  have claims : ∀ {operation : Operation S P}, operation.isClaiming = true →
      Touch state stored action (operation.revise stored) :=
    fun claiming => .holds (Operation.sameButLease_revise claiming stored)
  cases change with
  | rests unchanged => exact ⟨stored, unchanged.find?_kept found, .holds (.refl stored)⟩
  | calls performed => exact ⟨_, performed.find?_revised found, .calls _⟩
  | polls finished due performed => exact ⟨_, performed.find?_revised found, claims rfl⟩
  | stops finished performed => exact ⟨_, performed.find?_revised found, claims rfl⟩
  | @proceeds name number attempt next operation transitions _ there move performed =>
    cases move with
    | waits | succeeds | concludes | resumes | rests =>
      exact ⟨stored, performed.find?_kept found, .holds (.refl stored)⟩
    | refused | withdraws | cancels | begins | yields | confirms | releases =>
      exact ⟨_, performed.find?_revised found, claims rfl⟩
    | overtaken failed =>
      refine ⟨stored, ?_, .holds (.refl stored)⟩
      rw [performed.memory]
      show (state.site.memory.after _).find? id = some stored
      rw [Memory.after, Memory.run_update_of_error failed]
      exact found
    | @persists leased result saved outcome written =>
      have sameId : result.id = leased.id := (tidy.warranted there).keeps.1
      by_cases mine : leased.id = id
      · refine ⟨saved, ?_, .writes there written (mine.trans (Memory.id_of_find? found).symm)⟩
        rw [performed.memory, ← mine, ← sameId]
        exact Memory.find?_after_update written
      · refine ⟨_, performed.find?_revised found, ?_⟩
        have other : stored.id ≠ ({ result with lease := none } : Entity S P).id := by
          rw [Memory.id_of_find? found]
          exact fun same => mine (sameId.symm.trans same.symm)
        rw [Operation.revise_update_of_ne other]
        exact .holds (.refl stored)

end Fleet

end Leasehold
