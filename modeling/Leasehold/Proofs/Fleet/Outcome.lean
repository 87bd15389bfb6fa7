/-
**The outcomes that a schedule writes.**

* `State.writes?`, `Fleet.written`: the outcome that an action writes, and those of a schedule;
* `written_split`: every outcome of a schedule was written by one of its actions;
* `transitions_run`: the transitions reported are the outcomes written, in the same order;
* `version_lt_of_writes`: an outcome is written over a higher version than every earlier one.
-/

import Leasehold.Proofs.Fleet.Record

set_option linter.unusedSectionVars false

namespace Leasehold

/-- An outcome that a member wrote over an entity, which is given as it was leased. -/
structure Written (ι S P : Type) where
  name : ι
  leased : Entity S P
  outcome : Outcome

namespace Fleet

variable {ι ε S P Call : Type} {Response : Call → Type} [DecidableEq S] [ProcessState S]
  [DecidableEq ι] {fleet : Fleet ι ε S P Call Response} {memory : Memory S P}
  {state : State ι ε S P Call Response} {action : Action ι ε S P} {one : Written ι S P}

/-- The outcome that an action writes, if it writes one. -/
def State.writes? (state : State ι ε S P Call Response) : Action ι ε S P → Option (Written ι S P)
  | .proceed name number =>
    match state.attempt? name number with
    | some (.persisting leased result outcome) =>
      match state.site.memory.answer (.update { result with lease := none }) with
      | .ok _ => some ⟨name, leased, outcome⟩
      | .error _ => none
    | _ => none
  | _ => none

/-- The outcomes that a schedule writes, the first first. -/
def written (fleet : Fleet ι ε S P Call Response) :
    State ι ε S P Call Response → List (Action ι ε S P) → List (Written ι S P)
  | _, [] => []
  | state, action :: rest =>
    (state.writes? action).toList ++ fleet.written (fleet.step state action) rest

/-! ### One outcome -/

/-- An outcome is written by an attempt that is about to write it. -/
theorem exists_of_writes (writes : state.writes? action = some one) :
    ∃ number result saved, action = .proceed one.name number ∧
      state.attempt? one.name number = some (.persisting one.leased result one.outcome) ∧
      state.site.memory.answer (.update { result with lease := none }) = .ok saved := by
  cases action with
  | pass _ | call _ | poll _ | stop _ => cases writes
  | proceed name number =>
    unfold State.writes? at writes
    dsimp only at writes
    split at writes
    · next leased result outcome there =>
      split at writes
      · next saved answered =>
        cases writes
        exact ⟨number, result, saved, rfl, there, answered⟩
      · cases writes
    · cases writes

/-- An outcome is written over the version that was leased. -/
theorem stored_of_writes (tidy : state.Tidy fleet) (writes : state.writes? action = some one) :
    ∃ stored, state.site.memory.find? one.leased.id = some stored ∧
      stored.version = one.leased.version := by
  obtain ⟨number, result, saved, _, there, answered⟩ := exists_of_writes writes
  obtain ⟨sameId, sameVersion, _⟩ := (tidy.warranted there).keeps
  obtain ⟨stored, found, same, _⟩ := Memory.answer_update_eq_ok_iff.mp answered
  refine ⟨stored, ?_, same.trans sameVersion⟩
  rw [← sameId]
  exact found

/-- An action that writes no outcome reports nothing. -/
theorem Change.unreported {after : State ι ε S P Call Response}
    (change : fleet.Change state action after) (nothing : state.writes? action = none) :
    after.site.transitions = state.site.transitions := by
  have silent : ∀ {site : Site ι ε S P} {deeds : List (Deed ι S P)},
      state.site.Extends site deeds [] → site.transitions = state.site.transitions :=
    fun extended => extended.transitions.trans (List.append_nil _)
  cases change with
  | rests unchanged => exact silent unchanged
  | calls performed => exact silent performed
  | polls finished due performed => exact silent performed
  | stops finished performed => exact silent performed
  | proceeds there move performed =>
    cases move with
    | persists answered =>
      unfold State.writes? State.attempt? at nothing
      simp only [there, answered] at nothing
      cases nothing
    | refused | withdraws | cancels | begins | waits | succeeds | concludes | resumes | yields
    | confirms | overtaken | releases | rests => exact silent performed

/-- **An action reports what it writes**, and nothing else. -/
theorem transitions_step (tidy : state.Tidy fleet) (action : Action ι ε S P) :
    ∃ events,
      (fleet.step state action).site.transitions = state.site.transitions ++ events ∧
      events.map (fun event => (event.entityId, event.outcome)) =
        (state.writes? action).toList.map fun one => (one.leased.id, one.outcome) := by
  cases writes : state.writes? action with
  | none =>
    refine ⟨[], ?_, rfl⟩
    rw [List.append_nil]
    exact (fleet.change_step state action).unreported writes
  | some one =>
    obtain ⟨number, result, saved, rfl, there, answered⟩ := exists_of_writes writes
    obtain ⟨operation, events, next, move, _, performed⟩ := fleet.move_proceed there
    have sameId : result.id = one.leased.id := (tidy.warranted there).keeps.1
    cases move with
    | overtaken failed =>
      rw [answered] at failed
      cases failed
    | persists written =>
      refine ⟨_, performed.transitions, ?_⟩
      obtain ⟨stored, _, _, rfl⟩ := Memory.answer_update_eq_ok_iff.mp written
      show [(result.id, one.outcome)] = [(one.leased.id, one.outcome)]
      rw [sameId]

/-! ### The outcomes of a schedule -/

/-- Every outcome of a schedule was written by one of its actions. -/
theorem written_split {state : State ι ε S P Call Response} {actions : List (Action ι ε S P)}
    {early late : List (Written ι S P)}
    (split : fleet.written state actions = early ++ one :: late) :
    ∃ sooner action rest, actions = sooner ++ action :: rest ∧
      (fleet.run state sooner).writes? action = some one ∧
      fleet.written state sooner = early ∧
      fleet.written (fleet.step (fleet.run state sooner) action) rest = late := by
  induction actions generalizing state early with
  | nil => exact absurd split.symm (List.append_ne_nil_of_right_ne_nil _ (List.cons_ne_nil _ _))
  | cons action rest ih =>
    unfold written at split
    cases writes : state.writes? action with
    | none =>
      rw [writes] at split
      obtain ⟨sooner, last, after, rfl, writesLast, isEarly, isLate⟩ := ih split
      refine ⟨action :: sooner, last, after, rfl, writesLast, ?_, isLate⟩
      unfold written
      rw [writes]
      exact isEarly
    | some first =>
      rw [writes] at split
      cases early with
      | nil =>
        obtain ⟨rfl, isLate⟩ := List.cons.inj split
        exact ⟨[], action, rest, rfl, writes, rfl, isLate⟩
      | cons head early =>
        obtain ⟨rfl, remaining⟩ := List.cons.inj split
        obtain ⟨sooner, last, after, rfl, writesLast, isEarly, isLate⟩ := ih remaining
        refine ⟨action :: sooner, last, after, rfl, writesLast, ?_, isLate⟩
        unfold written
        rw [writes]
        exact congrArg (first :: ·) isEarly

/-- **The transitions that a schedule reports are the outcomes that it writes**, in the same
order. -/
theorem transitions_run (tidy : state.Tidy fleet) (actions : List (Action ι ε S P)) :
    ∃ events,
      (fleet.run state actions).site.transitions = state.site.transitions ++ events ∧
      events.map (fun event => (event.entityId, event.outcome)) =
        (fleet.written state actions).map fun one => (one.leased.id, one.outcome) := by
  induction actions generalizing state with
  | nil => exact ⟨[], (List.append_nil _).symm, rfl⟩
  | cons action rest ih =>
    obtain ⟨first, reported, same⟩ := transitions_step tidy action
    obtain ⟨others, reportedLater, sameLater⟩ := ih (tidy.kept (fleet.change_step state action))
    refine ⟨first ++ others, ?_, ?_⟩
    · rw [← List.append_assoc, ← reported]
      exact reportedLater
    · unfold written
      rw [List.map_append, List.map_append, same, sameLater]

/-- **An outcome is written over a higher version than every earlier one** of its entity. -/
theorem version_lt_of_writes (honest : state.Honest fleet memory)
    (writes : state.writes? action = some one) {between : List (Action ι ε S P)}
    {last : Action ι ε S P} {other : Written ι S P}
    (writesOther : (fleet.run (fleet.step state action) between).writes? last = some other)
    (sameId : one.leased.id = other.leased.id) : one.leased.version < other.leased.version := by
  have afterTidy := honest.tidy.kept (fleet.change_step state action)
  obtain ⟨later, isLater, laterVersion⟩ := stored_of_writes (afterTidy.run between) writesOther
  obtain ⟨number, result, saved, rfl, there, answered⟩ := exists_of_writes writes
  obtain ⟨keptId, keptVersion, _⟩ := (honest.tidy.warranted there).keeps
  obtain ⟨operation, events, next, move, _, performed⟩ := fleet.move_proceed there
  obtain ⟨deeds, _, extended⟩ := fleet.extends_run (fleet.step state (.proceed one.name number))
    between
  cases move with
  | overtaken failed =>
    rw [answered] at failed
    cases failed
  | @persists _ _ saved _ written =>
    have found : (fleet.step state (.proceed one.name number)).site.memory.find?
        one.leased.id = some saved := by
      rw [performed.memory, ← keptId]
      exact Memory.find?_after_update written
    obtain ⟨met, isMet, follows⟩ := Memory.find?_replay found (operations deeds)
    rw [← extended.memory, sameId, isLater] at isMet
    obtain rfl := Option.some.inj isMet
    obtain ⟨_, _, _, rfl⟩ := Memory.answer_update_eq_ok_iff.mp written
    have least : result.version + 1 ≤ later.version := follows.version
    omega

end Fleet

end Leasehold
