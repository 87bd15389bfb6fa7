/-
**Schedules of a lane.**

A lane makes its moves one at a time. Between any two of them time passes, others use the store and
the services, the signal to stop is given, taken back or lost, and the pool of permits changes. A
schedule is a list of such actions in any order, so a statement about all schedules is a statement
about all such lists.

* `Disturbance`: what others do between two moves;
* `LaneAction`, `Engine.act`, `Engine.follow`: one action, and a schedule;
* `IsNoted.follow_keeps`: what every signal and every move keeps, a whole schedule keeps;
* `Engine.Reaches`, `reaches_runScript`: a run with a script of signals is such a schedule;
* `Engine.LeadsTo`, `keeps_of_leadsTo`: what a lane keeps while nobody changes the signal.
-/

import Leasehold.Proofs.Lane.Move

set_option linter.unusedSectionVars false

namespace Leasehold

variable {σ S P Call : Type} {Response : Call → Type} [DecidableEq S] [ProcessState S]

/-- What others do to the state between two moves of a lane. They do not write its record. -/
structure Disturbance (notes : σ → List (Occurrence S P)) where
  change : σ → σ
  unrecorded : ∀ state, notes (change state) = notes state

/-- What may happen next. -/
inductive LaneAction (notes : σ → List (Occurrence S P)) where
  /-- Others do something. -/
  | pass (disturbance : Disturbance notes)
  /-- The signal to stop changes. -/
  | signal (change : SignalChange)
  /-- The seats of a batch that wake, or that were granted a permit, get in line. -/
  | rouse (now : Nat) (permits : Permits)
  /-- The lane makes a move, if it can. -/
  | move (now : Nat) (permits : Permits)

namespace Engine

variable (engine : Engine σ S P Call Response) (world : World σ Call Response)
  {notes : σ → List (Occurrence S P)}

/-- A lane and its surroundings after an action. -/
def act (run : Lane S P Call Response × σ) : LaneAction notes → Lane S P Call Response × σ
  | .pass disturbance => (run.1, disturbance.change run.2)
  | .signal change => (run.1.receive change, run.2)
  | .rouse now permits => ((run.1.rouse now permits).1, run.2)
  | .move now permits =>
    if run.1.canMove now then
      let moved := engine.move world now run.1 permits run.2
      (moved.1.1, moved.2)
    else run

/-- A move that the lane makes. -/
theorem act_move {run : Lane S P Call Response × σ} {now : Nat} (can : run.1.canMove now = true)
    (permits : Permits) :
    engine.act world run (.move now permits : LaneAction notes) =
      ((engine.move world now run.1 permits run.2).1.1,
        (engine.move world now run.1 permits run.2).2) :=
  if_pos can

/-- A move that the lane cannot make. -/
theorem act_move_of_not {run : Lane S P Call Response × σ} {now : Nat}
    (cannot : run.1.canMove now ≠ true) (permits : Permits) :
    engine.act world run (.move now permits : LaneAction notes) = run :=
  if_neg cannot

/-- A lane and its surroundings after a schedule. -/
def follow (run : Lane S P Call Response × σ) (actions : List (LaneAction notes)) :
    Lane S P Call Response × σ :=
  actions.foldl (engine.act world) run

theorem follow_append (run : Lane S P Call Response × σ) (earlier later : List (LaneAction notes)) :
    engine.follow world run (earlier ++ later) =
      engine.follow world (engine.follow world run earlier) later :=
  List.foldl_append

theorem follow_concat (run : Lane S P Call Response × σ) (actions : List (LaneAction notes))
    (action : LaneAction notes) :
    engine.follow world run (actions ++ [action]) =
      engine.act world (engine.follow world run actions) action :=
  List.foldl_concat ..

/-! ### What a schedule keeps -/

section Keeps

variable {engine world}

/-- Seats that get in line are no more than a batch that goes on. -/
theorem moves_rouse (now : Nat) (lane : Lane S P Call Response) (permits : Permits) :
    (lane.rouse now permits).1 = lane ∨ engine.Moves now lane [] (lane.rouse now permits).1 := by
  unfold Lane.rouse
  cases looks : lane.phase with
  | polling batch => exact .inr (.works looks (List.forall_mem_nil _) _)
  | fresh | checking | pausing _ | stopping | stopped _ => exact .inl rfl

variable (noted : engine.IsNoted world notes)

include noted

/-- One action: a signal, a move, or nothing that reaches the lane or its record. -/
theorem IsNoted.act_cases (run : Lane S P Call Response × σ) (action : LaneAction notes) :
    ∃ more, notes (engine.act world run action).2 = notes run.2 ++ more ∧
      ((∃ change, action = .signal change ∧ more = [] ∧
          (engine.act world run action).1 = run.1.receive change) ∨
        (∃ now, engine.Moves now run.1 more (engine.act world run action).1) ∨
        more = [] ∧ (engine.act world run action).1 = run.1) := by
  cases action with
  | pass disturbance =>
    exact ⟨[], (disturbance.unrecorded _).trans (List.append_nil _).symm, .inr (.inr ⟨rfl, rfl⟩)⟩
  | signal change => exact ⟨[], (List.append_nil _).symm, .inl ⟨change, rfl, rfl, rfl⟩⟩
  | rouse now permits =>
    refine ⟨[], (List.append_nil _).symm, .inr ?_⟩
    rcases moves_rouse now run.1 permits with same | moves
    · exact .inr ⟨rfl, same⟩
    · exact .inl ⟨now, moves⟩
  | move now permits =>
    by_cases can : run.1.canMove now = true
    · rw [engine.act_move world can]
      obtain ⟨more, recorded, moves⟩ := noted.moves_move now run.1 permits run.2
      exact ⟨more, recorded, .inr (.inl ⟨now, moves⟩)⟩
    · rw [engine.act_move_of_not world can]
      exact ⟨[], (List.append_nil _).symm, .inr (.inr ⟨rfl, rfl⟩)⟩

/-- **What every signal and every move keeps, a schedule keeps**, together with what was recorded
meanwhile. -/
theorem IsNoted.follow_keeps (holds : Lane S P Call Response → List (Occurrence S P) → Prop)
    (run : Lane S P Call Response × σ) (actions : List (LaneAction notes)) (starts : holds run.1 [])
    (receives : ∀ lane more change, .signal change ∈ actions → holds lane more →
      holds (lane.receive change) more)
    (moves : ∀ now lane more others next, engine.Moves now lane others next → holds lane more →
      holds next (more ++ others)) :
    ∃ more, notes (engine.follow world run actions).2 = notes run.2 ++ more ∧
      holds (engine.follow world run actions).1 more := by
  induction actions using List.reverseRecOn with
  | nil => exact ⟨[], (List.append_nil _).symm, starts⟩
  | append_singleton actions action ih =>
    obtain ⟨more, recorded, kept⟩ := ih fun lane more change listed =>
      receives lane more change (List.mem_append_left _ listed)
    rw [follow_concat]
    obtain ⟨others, recorded', ⟨change, rfl, rfl, given⟩ | ⟨now, moved⟩ | ⟨rfl, same⟩⟩ :=
      noted.act_cases (engine.follow world run actions) action
    · refine ⟨more, ?_, ?_⟩
      · rw [recorded', recorded, List.append_nil]
      · rw [given]
        exact receives _ _ _ (List.mem_append_right _ (List.mem_singleton_self _)) kept
    · refine ⟨more ++ others, ?_, moves _ _ _ _ _ moved kept⟩
      rw [recorded', recorded, List.append_assoc]
    · refine ⟨more, ?_, ?_⟩
      · rw [recorded', recorded, List.append_nil]
      · rw [same]
        exact kept

end Keeps

/-! ### Runs with a script -/

variable (notes) in
/-- Some schedule leads from one point of a run to another. -/
def Reaches (run next : Lane S P Call Response × σ) : Prop :=
  ∃ actions : List (LaneAction notes), engine.follow world run actions = next

variable (notes) in
/-- Some schedule does so in which nobody changes the signal. -/
def LeadsTo (run next : Lane S P Call Response × σ) : Prop :=
  ∃ actions : List (LaneAction notes), (∀ change, .signal change ∉ actions) ∧
    engine.follow world run actions = next

variable {engine world} {run middle next : Lane S P Call Response × σ}

namespace Reaches

/-- One action, and a schedule after it. -/
theorem head (action : LaneAction notes)
    (rest : engine.Reaches world notes (engine.act world run action) next) :
    engine.Reaches world notes run next :=
  let ⟨actions, led⟩ := rest
  ⟨action :: actions, led⟩

theorem trans (first : engine.Reaches world notes run middle)
    (second : engine.Reaches world notes middle next) : engine.Reaches world notes run next := by
  obtain ⟨actions, rfl⟩ := first
  obtain ⟨others, rfl⟩ := second
  exact ⟨actions ++ others, engine.follow_append world run actions others⟩

end Reaches

namespace LeadsTo

theorem reaches (leads : engine.LeadsTo world notes run next) :
    engine.Reaches world notes run next :=
  let ⟨actions, _, led⟩ := leads
  ⟨actions, led⟩

theorem refl (run : Lane S P Call Response × σ) : engine.LeadsTo world notes run run :=
  ⟨[], fun _ => List.not_mem_nil, rfl⟩

/-- One action, and a schedule after it. -/
theorem head (action : LaneAction notes) (given : ∀ change, action ≠ .signal change)
    (rest : engine.LeadsTo world notes (engine.act world run action) next) :
    engine.LeadsTo world notes run next := by
  obtain ⟨actions, none, led⟩ := rest
  refine ⟨action :: actions, fun change listed => ?_, led⟩
  rcases List.mem_cons.mp listed with same | later
  · exact given change same.symm
  · exact none change later

theorem trans (first : engine.LeadsTo world notes run middle)
    (second : engine.LeadsTo world notes middle next) : engine.LeadsTo world notes run next := by
  obtain ⟨actions, none, rfl⟩ := first
  obtain ⟨others, noneToo, rfl⟩ := second
  refine ⟨actions ++ others, fun change listed => ?_, engine.follow_append world run actions others⟩
  exact (List.mem_append.mp listed).elim (none change) (noneToo change)

end LeadsTo

/-- A number of moves is a schedule. -/
theorem leadsTo_moves (now count : Nat) (lane : Lane S P Call Response) (permits : Permits)
    (state : σ) :
    engine.LeadsTo world notes (lane, state)
      ((engine.moves world now count lane permits state).1.1,
        (engine.moves world now count lane permits state).2) := by
  induction count generalizing lane permits state with
  | zero => exact .refl _
  | succ count ih =>
    unfold Engine.moves
    split
    · next can =>
      refine .head (.move now permits) nofun ?_
      rw [engine.act_move world can]
      exact ih _ _ _
    · exact .refl _

/-- All moves at one time are a schedule. -/
theorem leadsTo_settleLane (now : Nat) (lane : Lane S P Call Response) (permits : Permits)
    (state : σ) :
    engine.LeadsTo world notes (lane, state)
      ((engine.settleLane world now lane permits state).1.1,
        (engine.settleLane world now lane permits state).2) :=
  .head (.rouse now permits.refresh) nofun (leadsTo_moves now _ _ _ state)

variable (noted : engine.IsNoted world notes)

include noted

/-- The moves up to a time are a schedule. -/
theorem IsNoted.leadsTo_runLane (limit now : Nat) (lane : Lane S P Call Response)
    (permits : Permits) (state : σ) :
    engine.LeadsTo world notes (lane, state)
      ((engine.runLane world limit now lane permits state).1.1,
        (engine.runLane world limit now lane permits state).2) := by
  induction remains : limit - now using Nat.strongRecOn generalizing now lane permits state with
  | ind remaining ih =>
    unfold Engine.runLane
    split
    · next early =>
      let elapses : Disturbance notes := ⟨fun state => (world.tick now state).2, noted.tick now⟩
      refine .head (.pass elapses) nofun (.trans (leadsTo_settleLane now lane permits _) ?_)
      rw [bind_apply, bind_apply]
      rcases engine.settleLane world now lane permits (world.tick now state).2 with
        ⟨⟨settled, left⟩, reached⟩
      dsimp only
      cases settled.nextWake? with
      | none => exact .refl _
      | some next => exact ih (limit - max next (now + 1)) (by omega) _ _ _ _ rfl
    · exact .refl _

/-- **A run with a script of signals is a schedule.** -/
theorem IsNoted.reaches_runScript (limit : Nat) (changes : List (Nat × SignalChange)) (now : Nat)
    (lane : Lane S P Call Response) (permits : Permits) (state : σ) :
    engine.Reaches world notes (lane, state)
      ((engine.runScript world limit changes now lane permits state).1.1,
        (engine.runScript world limit changes now lane permits state).2) := by
  induction changes generalizing now lane permits state with
  | nil => exact (noted.leadsTo_runLane limit now lane permits state).reaches
  | cons first rest ih =>
    obtain ⟨time, change⟩ := first
    unfold Engine.runScript
    rw [bind_apply]
    exact (noted.leadsTo_runLane time now lane permits state).reaches.trans
      (.head (.signal change) (ih _ _ _ _))

/-- As long as nobody changes the signal, the lane keeps it, and stays alert. Its record grows. -/
theorem IsNoted.keeps_of_leadsTo (leads : engine.LeadsTo world notes run next) :
    run.1.Keeps next.1 ∧ (run.1.IsAlert → next.1.IsAlert) ∧ notes run.2 <+: notes next.2 := by
  obtain ⟨actions, none, rfl⟩ := leads
  obtain ⟨more, recorded, keeps, alert⟩ := noted.follow_keeps
    (fun lane _ => run.1.Keeps lane ∧ (run.1.IsAlert → lane.IsAlert)) run actions ⟨.refl _, id⟩
    (fun _ _ change listed => absurd listed (none change))
    (fun _ _ _ _ _ moves ⟨keeps, alert⟩ =>
      ⟨keeps.trans moves.keeps, fun before => moves.isAlert (alert before)⟩)
  exact ⟨keeps, alert, more, recorded.symm⟩

end Engine

end Leasehold
