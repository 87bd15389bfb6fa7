/-
**What a lane adds to its record.**

A lane leaves three kinds of entries in the record of its engine: the selections of its polls, what
the attempts of a batch do, and the release of all its leases. All that a batch does at one time
adds entries of one kind only.

* `Occurrence.isPoll`, `Occurrence.isClearance`, `Occurrence.IsOfAttempt`: the three kinds;
* `Adds`: an action only adds to a record, and entries of one kind only;
* `adds_step`, `adds_settle`: the steps of attempts, and all that a batch does at one time.
-/

import Leasehold.Proofs.Poll.Account

set_option linter.unusedSectionVars false

namespace Leasehold

variable {σ S P Call : Type} {Response : Call → Type} [DecidableEq S] [ProcessState S]

/-! ### Kinds of entries -/

namespace Occurrence

/-- The selection of a poll. -/
def isPoll : Occurrence S P → Bool
  | .ran (.query _) _ => true
  | _ => false

/-- The release of all leases of a holder. -/
def isClearance : Occurrence S P → Bool
  | .ran (.releaseAll _) _ => true
  | _ => false

/-- What an attempt does: neither the selection of a poll nor the release of all leases. -/
structure IsOfAttempt (occurrence : Occurrence S P) : Prop where
  poll : occurrence.isPoll = false
  clearance : occurrence.isClearance = false

end Occurrence

/-! ### Actions that only add to a record -/

/-- An action adds entries of one kind to a record, and changes nothing else in it. -/
def Adds {α β : Type} (notes : σ → List β) (kind : β → Prop) (action : StateM σ α) : Prop :=
  ∀ state, ∃ more, notes (action state).2 = notes state ++ more ∧ ∀ entry ∈ more, kind entry

namespace Adds

variable {α γ β : Type} {notes : σ → List β} {kind : β → Prop} {action : StateM σ α}

/-- What changes no record adds nothing to it. -/
theorem of_same (same : ∀ state, notes (action state).2 = notes state) :
    Adds notes kind action := fun state =>
  ⟨[], (same state).trans (List.append_nil _).symm, List.forall_mem_nil _⟩

theorem pure (result : α) : Adds notes kind (pure result : StateM σ α) := of_same fun _ => rfl

/-- One action after the other. -/
theorem bind {rest : α → StateM σ γ} (first : Adds notes kind action)
    (second : ∀ result, Adds notes kind (rest result)) : Adds notes kind (action >>= rest) := by
  intro state
  obtain ⟨more, recorded, kinds⟩ := first state
  obtain ⟨others, recorded', kinds'⟩ := second (action state).1 (action state).2
  refine ⟨more ++ others, ?_, List.forall_mem_append.mpr ⟨kinds, kinds'⟩⟩
  rw [Engine.bind_apply, recorded', recorded, List.append_assoc]

/-- A look at the state. -/
theorem read {next : σ → StateM σ γ} (rest : ∀ state, Adds notes kind (next state)) :
    Adds notes kind (get >>= next) := fun state => rest state state

end Adds

namespace Engine

variable {engine : Engine σ S P Call Response} {world : World σ Call Response}
  {notes : σ → List (Occurrence S P)} (noted : engine.IsNoted world notes)

include noted

theorem IsNoted.adds_store (operation : Operation S P) {kind : Occurrence S P → Prop}
    (kinds : ∀ answer, kind (.ran operation answer)) : Adds notes kind (engine.store operation) :=
  fun state => ⟨_, noted.store operation state, List.forall_mem_singleton.mpr (kinds _)⟩

theorem IsNoted.adds_log (entry : Log.Entry) {kind : Occurrence S P → Prop} :
    Adds notes kind (world.log entry) := .of_same (noted.log entry)

theorem IsNoted.adds_emit (transition : Transition) :
    Adds notes Occurrence.IsOfAttempt (world.emit transition) := fun state =>
  ⟨_, noted.emit transition state, List.forall_mem_singleton.mpr ⟨rfl, rfl⟩⟩

/-! ### Attempts -/

theorem IsNoted.adds_claim (candidate : Entity S P) :
    Adds notes Occurrence.IsOfAttempt (engine.claim world candidate) := by
  refine .read fun state => .bind (noted.adds_store _ fun _ => ⟨rfl, rfl⟩) fun answer => ?_
  cases answer with
  | ok leased =>
    exact .of_same fun state => (noted.afterLease rfl).1
  | error error =>
    dsimp only
    split
    · exact .bind (noted.adds_log _) fun _ => .pure _
    · exact .bind (noted.adds_log _) fun _ => .pure _

theorem IsNoted.adds_isCancelRequested (id : String) :
    Adds notes Occurrence.IsOfAttempt (engine.isCancelRequested world id) := by
  refine .bind (noted.adds_store _ fun _ => ⟨rfl, rfl⟩) fun answer => ?_
  cases answer with
  | ok found => exact .pure _
  | error error => exact .bind (noted.adds_log _) fun _ => .pure _

theorem IsNoted.adds_persist (leased result : Entity S P) (outcome : Outcome) :
    Adds notes Occurrence.IsOfAttempt (engine.persist world leased result outcome) := by
  refine .bind (noted.adds_store _ fun _ => ⟨rfl, rfl⟩) fun answer => ?_
  cases answer with
  | ok saved => exact .bind (noted.adds_emit _) fun _ => .pure _
  | error error =>
    dsimp only
    split
    · exact .bind (noted.adds_log _) fun _ => .pure _
    · exact .bind (noted.adds_log _) fun _ => .pure _

theorem IsNoted.adds_release (leased : Entity S P) :
    Adds notes Occurrence.IsOfAttempt (engine.release world leased) := by
  refine .bind (noted.adds_store _ fun _ => ⟨rfl, rfl⟩) fun answer => ?_
  cases answer with
  | ok had => exact .bind (.pure _) fun _ => .pure _
  | error error => exact .bind (noted.adds_log _) fun _ => .pure _

/-- **A step of an attempt** selects nothing, and gives up one lease at most. -/
theorem IsNoted.adds_step (attempt : Attempt S P Call Response) :
    Adds notes Occurrence.IsOfAttempt (engine.step world attempt) := by
  cases attempt with
  | selected candidate => exact noted.adds_claim candidate
  | working leased work => exact .of_same fun state => (noted.work rfl).1
  | waiting millis leased work => exact .pure _
  | confirming leased target payload now =>
    exact .bind (noted.adds_isCancelRequested leased.id) fun _ => .pure _
  | persisting leased result outcome => exact noted.adds_persist leased result outcome
  | releasing leased => exact noted.adds_release leased
  | ended ending => exact .pure _

theorem IsNoted.adds_steps (count : Nat) (attempt : Attempt S P Call Response) :
    Adds notes Occurrence.IsOfAttempt (engine.steps world count attempt) := by
  induction count generalizing attempt with
  | zero => exact .pure _
  | succ count ih =>
    unfold Engine.steps
    split
    · exact .pure _
    · exact .pure _
    · exact .bind (noted.adds_step _) ih

/-! ### Batches -/

variable (lane now : Nat)

theorem IsNoted.adds_goOn (number : Nat) (attempt : Attempt S P Call Response)
    (batch : Batch S P Call Response) (permits : Permits) :
    Adds notes Occurrence.IsOfAttempt
      (engine.goOn world lane now number attempt batch permits) := by
  refine .bind (noted.adds_steps _ attempt) fun next => ?_
  cases next with
  | waiting millis leased rest =>
    dsimp only
    split
    · exact .pure _
    · exact .pure _
  | _ => exact .pure _

theorem IsNoted.adds_goOnInTurn (number : Nat) (attempt : Attempt S P Call Response)
    (batch : Batch S P Call Response) (permits : Permits) :
    Adds notes Occurrence.IsOfAttempt
      (engine.goOnInTurn world lane now number attempt batch permits) := by
  unfold Engine.goOnInTurn
  split
  · exact .pure _
  · exact noted.adds_goOn lane now number attempt batch _

theorem IsNoted.adds_serve (batch : Batch S P Call Response) (permits : Permits) :
    Adds notes Occurrence.IsOfAttempt (engine.serve world lane now batch permits) := by
  unfold Engine.serve
  split
  · exact .pure _
  · dsimp only
    split
    · split
      · split
        · exact noted.adds_goOnInTurn lane now _ _ _ _
        · exact noted.adds_goOn lane now _ _ _ _
      · exact .pure _
    · exact noted.adds_goOnInTurn lane now _ _ _ _
    · exact .pure _
    · exact noted.adds_goOnInTurn lane now _ _ _ _
    · exact noted.adds_goOnInTurn lane now _ _ _ _
    · exact .pure _

/-- **All that a batch does at one time** is what its attempts do. -/
theorem IsNoted.adds_settle (batch : Batch S P Call Response) (permits : Permits) :
    Adds notes Occurrence.IsOfAttempt (engine.settle world lane now batch permits) := by
  unfold Engine.settle
  generalize batch.servings = count
  induction count generalizing batch permits with
  | zero => exact .pure _
  | succ count ih =>
    unfold Engine.serveAll
    split
    · exact .pure _
    · exact ih _ _
    · exact .bind (noted.adds_serve lane now batch permits) fun served => ih served.1 served.2

end Engine

end Leasehold
