/-
**What one action of a fleet can do, and what a schedule keeps.**

* `Fleet.Change`, `change_step`: the ways in which an action changes the state of a fleet;
* `run_keeps`: what the start has and every action keeps, every schedule keeps;
* `Fleet.observe`, `Fleet.Along`: what is seen of a schedule, and what all its steps have;
* `memory_run`: the store after a schedule is the store at the start after the recorded operations;
* `exists_step_of_deed`: every deed in the record was done by one action of the schedule.
-/

import Leasehold.Proofs.Fleet.Move
import Mathlib.Data.List.Induction

set_option linter.unusedSectionVars false

namespace Leasehold.Fleet

variable {ι ε S P Call : Type} {Response : Call → Type} [DecidableEq S] [ProcessState S]
  [DecidableEq ι]

/-! ### One action -/

/-- The ways in which an action changes the state of a fleet. -/
inductive Change (fleet : Fleet ι ε S P Call Response) (state : State ι ε S P Call Response) :
    Action ι ε S P → State ι ε S P Call Response → Prop where
  /-- The store and the attempts stay as they are. -/
  | rests {action : Action ι ε S P} {after : Site ι ε S P}
      (unchanged : state.site.Extends after [] []) :
      Change fleet state action ⟨after, state.batches⟩
  /-- A caller outside the fleet uses the store. -/
  | calls {operation : Operation S P} {after : Site ι ε S P}
      (performed : state.site.Extends after [⟨none, operation⟩] []) :
      Change fleet state (.call operation) ⟨after, state.batches⟩
  /-- A member without work selects entities. -/
  | polls {name : ι} {after : Site ι ε S P} {criteria : Criteria S}
      (finished : (state.batches name).all (·.isOver) = true)
      (due : ∃ now, criteria = ((fleet name).engine name).criteria now)
      (performed : state.site.Extends after [⟨some name, .query criteria⟩] []) :
      Change fleet state (.poll name) ⟨after, Function.update state.batches name
        ((state.site.memory.query criteria).map .selected)⟩
  /-- An attempt makes a step. -/
  | proceeds {name : ι} {number : Nat} {attempt next : Attempt S P Call Response}
      {operation : Option (Operation S P)} {transitions : List Transition} {after : Site ι ε S P}
      (there : (state.batches name)[number]? = some attempt)
      (move : (fleet name).Move state.site.memory attempt operation transitions next)
      (performed : state.site.Extends after
        (operation.toList.map fun operation => ⟨some name, operation⟩) transitions) :
      Change fleet state (.proceed name number)
        ⟨after, Function.update state.batches name ((state.batches name).set number next)⟩
  /-- A member without work gives up its leases. -/
  | stops {name : ι} {after : Site ι ε S P}
      (finished : (state.batches name).all (·.isOver) = true)
      (performed : state.site.Extends after [⟨some name, .releaseAll (fleet name).holder⟩] []) :
      Change fleet state (.stop name) ⟨after, state.batches⟩

variable (fleet : Fleet ι ε S P Call Response)

/-- **An action changes the state in one of these ways.** -/
theorem change_step (state : State ι ε S P Call Response) (action : Action ι ε S P) :
    fleet.Change state action (fleet.step state action) := by
  cases action with
  | pass surroundings =>
    exact .rests ⟨rfl, (List.append_nil _).symm, (List.append_nil _).symm⟩
  | call operation => exact .calls (.perform none id operation state.site)
  | poll name =>
    simp only [step]
    split
    · next finished =>
      exact .polls finished ⟨_, rfl⟩
        (.perform (some name) (fleet name).elapse (.query _) state.site)
    · exact .rests (.refl state.site)
  | proceed name number =>
    simp only [step]
    cases there : (state.batches name)[number]? with
    | none => exact .rests (.refl state.site)
    | some attempt =>
      have made : (fleet name).Makes name state.site attempt _ := Member.makes_step attempt
      obtain ⟨operation, transitions, move, performed⟩ := made
      exact .proceeds there move performed
  | stop name =>
    simp only [step]
    split
    · next finished =>
      have performed := Site.Extends.perform (some name) (fleet name).elapse
        (.releaseAll (fleet name).holder) state.site
      exact .stops finished (performed.trans (.log (fleet name).world _ _))
    · exact .rests (.refl state.site)

/-- An action adds one deed to the record at most. -/
theorem Change.extended {fleet : Fleet ι ε S P Call Response}
    {state after : State ι ε S P Call Response} {action : Action ι ε S P}
    (change : fleet.Change state action after) :
    ∃ deed : Option (Deed ι S P), ∃ transitions,
      state.site.Extends after.site deed.toList transitions := by
  cases change with
  | rests unchanged => exact ⟨none, [], unchanged⟩
  | calls performed => exact ⟨some _, [], performed⟩
  | polls finished due performed => exact ⟨some _, [], performed⟩
  | @proceeds name number attempt next operation transitions after there move performed =>
    exact ⟨operation.map fun operation => ⟨some name, operation⟩, transitions, by
      cases operation <;> exact performed⟩
  | stops finished performed => exact ⟨some _, [], performed⟩

/-! ### Schedules -/

theorem run_append (state : State ι ε S P Call Response) (first second : List (Action ι ε S P)) :
    fleet.run state (first ++ second) = fleet.run (fleet.run state first) second :=
  List.foldl_append

/-- The last action of a schedule comes last. -/
theorem run_concat (state : State ι ε S P Call Response) (actions : List (Action ι ε S P))
    (last : Action ι ε S P) :
    fleet.run state (actions ++ [last]) = fleet.step (fleet.run state actions) last :=
  fleet.run_append state actions [last]

/-- **What a state has and every allowed change keeps, every schedule keeps.** -/
theorem run_keeps (keeps : State ι ε S P Call Response → Prop) (allowed : Action ι ε S P → Prop)
    {state : State ι ε S P Call Response} (initially : keeps state)
    (kept : ∀ {state after action}, allowed action → keeps state →
      fleet.Change state action after → keeps after)
    {actions : List (Action ι ε S P)} (all : ∀ action ∈ actions, allowed action) :
    keeps (fleet.run state actions) := by
  induction actions generalizing state with
  | nil => exact initially
  | cons action rest ih =>
    exact ih (kept (all action List.mem_cons_self) initially (fleet.change_step state action))
      fun other member => all other (List.mem_cons_of_mem action member)

/-- What is seen of a schedule, step by step. -/
def observe {α : Type} (sees : State ι ε S P Call Response → Action ι ε S P → List α) :
    State ι ε S P Call Response → List (Action ι ε S P) → List α
  | _, [] => []
  | state, action :: rest => sees state action ++ observe sees (fleet.step state action) rest

theorem observe_append {α : Type}
    (sees : State ι ε S P Call Response → Action ι ε S P → List α)
    (state : State ι ε S P Call Response) (first second : List (Action ι ε S P)) :
    fleet.observe sees state (first ++ second) =
      fleet.observe sees state first ++ fleet.observe sees (fleet.run state first) second := by
  induction first generalizing state with
  | nil => rfl
  | cons action rest ih =>
    show sees state action ++ fleet.observe sees (fleet.step state action) (rest ++ second) = _
    rw [ih, ← List.append_assoc]
    rfl

/-- What all steps of a schedule have. -/
def Along (holds : State ι ε S P Call Response → Action ι ε S P → Prop) :
    State ι ε S P Call Response → List (Action ι ε S P) → Prop
  | _, [] => True
  | state, action :: rest => holds state action ∧ Along holds (fleet.step state action) rest

theorem Along.imp {fleet : Fleet ι ε S P Call Response}
    {holds follows : State ι ε S P Call Response → Action ι ε S P → Prop}
    (leads : ∀ {state action}, holds state action → follows state action)
    {state : State ι ε S P Call Response} {actions : List (Action ι ε S P)}
    (along : fleet.Along holds state actions) : fleet.Along follows state actions := by
  induction actions generalizing state with
  | nil => trivial
  | cons action rest ih => exact ⟨leads along.1, ih along.2⟩

theorem Along.append {fleet : Fleet ι ε S P Call Response}
    {holds : State ι ε S P Call Response → Action ι ε S P → Prop}
    {state : State ι ε S P Call Response} {first second : List (Action ι ε S P)}
    (early : fleet.Along holds state first) (late : fleet.Along holds (fleet.run state first) second) :
    fleet.Along holds state (first ++ second) := by
  induction first generalizing state with
  | nil => exact late
  | cons action rest ih => exact ⟨early.1, ih early.2 late⟩

/-- What all steps of a schedule have, each has after the actions before it. -/
theorem along_iff {fleet : Fleet ι ε S P Call Response}
    {holds : State ι ε S P Call Response → Action ι ε S P → Prop}
    {state : State ι ε S P Call Response} {actions : List (Action ι ε S P)} :
    fleet.Along holds state actions ↔ ∀ past action rest, actions = past ++ action :: rest →
      holds (fleet.run state past) action := by
  induction actions generalizing state with
  | nil => exact ⟨fun _ past action rest split => absurd split.symm
      (List.append_ne_nil_of_right_ne_nil _ (List.cons_ne_nil _ _)), fun _ => trivial⟩
  | cons first later ih =>
    constructor
    · rintro ⟨here, along⟩ past action rest split
      cases past with
      | nil =>
        obtain ⟨rfl, _⟩ := List.cons.inj split
        exact here
      | cons before past =>
        obtain ⟨rfl, splits⟩ := List.cons.inj split
        exact ih.mp along past action rest splits
    · intro each
      refine ⟨each [] first later rfl, ih.mpr fun past action rest split => ?_⟩
      exact each (first :: past) action rest (congrArg (first :: ·) split)

variable (memory : Memory S P) (surroundings : ε) (actions : List (Action ι ε S P))

/-- **The store after a schedule** is the store at the start after the recorded operations. -/
theorem memory_run :
    (fleet.run (.start memory surroundings) actions).site.memory =
      memory.replay (operations (fleet.run (.start memory surroundings) actions).site.deeds) := by
  refine fleet.run_keeps
    (fun state => state.site.memory = memory.replay (operations state.site.deeds)) (fun _ => True)
    rfl ?_ fun _ _ => trivial
  intro state after action _ same change
  obtain ⟨deed, transitions, extended⟩ := change.extended
  rw [extended.memory, extended.deeds, same, ← Memory.replay_append, ← List.map_append]

/-- **Every deed in the record was done by one action**, after a shorter schedule with a shorter
record. -/
theorem exists_step_of_deed {past since : List (Deed ι S P)} {deed : Deed ι S P}
    (split : (fleet.run (.start memory surroundings) actions).site.deeds = past ++ deed :: since) :
    ∃ earlier action later transitions, actions = earlier ++ action :: later ∧
      (fleet.run (.start memory surroundings) earlier).site.deeds = past ∧
      (fleet.run (.start memory surroundings) earlier).site.Extends
        (fleet.step (fleet.run (.start memory surroundings) earlier) action).site [deed]
          transitions := by
  induction actions using List.reverseRecOn generalizing since with
  | nil =>
    have nothing : [] = past ++ deed :: since := split
    exact absurd nothing.symm (List.append_ne_nil_of_right_ne_nil _ (List.cons_ne_nil _ _))
  | append_singleton actions last ih =>
    rw [run_concat] at split
    obtain ⟨added, transitions, extended⟩ :=
      (fleet.change_step (fleet.run (.start memory surroundings) actions) last).extended
    rw [extended.deeds] at split
    have found : (∃ rest,
        (fleet.run (.start memory surroundings) actions).site.deeds =
          past ++ deed :: rest) ∨
        ((fleet.run (.start memory surroundings) actions).site.deeds = past ∧
          added = some deed) := by
      cases added with
      | none => exact .inl ⟨since, by simpa using split⟩
      | some new =>
        rcases List.eq_nil_or_concat since with rfl | ⟨rest, final, rfl⟩
        · obtain ⟨same, equal⟩ := List.append_inj' split rfl
          cases equal
          exact .inr ⟨same, rfl⟩
        · rw [List.concat_eq_append, ← List.cons_append, ← List.append_assoc] at split
          exact .inl ⟨rest, (List.append_inj' split rfl).1⟩
    rcases found with ⟨rest, split⟩ | ⟨recorded, rfl⟩
    · obtain ⟨earlier, action, later, moved, rfl, recorded, done⟩ := ih split
      exact ⟨earlier, action, later ++ [last], moved, by simp, recorded, done⟩
    · exact ⟨actions, last, [], transitions, rfl, recorded, extended⟩

end Leasehold.Fleet
