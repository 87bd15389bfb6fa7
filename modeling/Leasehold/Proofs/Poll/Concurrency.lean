/-
**A batch is a schedule.**

However many places a batch has, and whatever its permits, all that it does is to let the attempts
of its member make their steps, one at a time. So what holds of all schedules holds of every poll.

* `Fleet.Enacts`: a schedule does what a batch does;
* `keeps_enacted`: one step of an attempt is one action;
* `enacts_runBatch`: a batch is a schedule;
* `poll_enacted`, `poll_works`: a whole poll is a schedule, in which its member alone works;
* `poll_settles_concurrently`: so a poll that nobody disturbs comes to the same with any number of
  places;
* `poll_settles_all`: and with a limit of time that is late enough it settles all that it selects;
* `interleaving_settles`: and the order in which the attempts make their steps does not matter.
-/

import Leasehold.Proofs.Poll.Completion
import Leasehold.Proofs.Poll.Interleaving

set_option linter.unusedSectionVars false

namespace Leasehold

variable {ι ε X S P Call : Type} {Response : Call → Type} [DecidableEq S] [ProcessState S]

/-! ### Schedules of a member's own -/

namespace Fleet

variable [DecidableEq ι] {fleet : Fleet ι ε S P Call Response} {name : ι}
  {state : State ι ε S P Call Response}

/-- Nobody acts but a member, which makes a step of an attempt, or takes its time, or writes a
log. -/
def IsOwnWork (fleet : Fleet ι ε S P Call Response) (name : ι)
    (state : State ι ε S P Call Response) : Action ι ε S P → Prop
  | .pass surroundings =>
    (∃ millis, surroundings = ((fleet name).world.tick millis state.site.surroundings).2) ∨
      ∃ entry, surroundings = ((fleet name).world.log entry state.site.surroundings).2
  | .proceed other _ => other = name
  | .call _ | .poll _ | .stop _ => False

/-- A schedule leads from a state to a site as a batch goes on. -/
def Enacts (fleet : Fleet ι ε S P Call Response) (name : ι) (state : State ι ε S P Call Response)
    (batch later : Batch S P Call Response) (after : Site ι ε S P) : Prop :=
  ∃ actions, fleet.Along (fleet.IsOwnWork name) state actions ∧
    (fleet.run state actions).site = after ∧
    later.Hosts ((fleet.run state actions).batches name) ∧
    later.report = (fleet.endings name state actions).foldl .record batch.report

/-- Every step of an attempt is an action of its member, and so is time that passes. -/
theorem keeps_enacted (fleet : Fleet ι ε S P Call Response) (name : ι)
    (state : State ι ε S P Call Response) (report : CycleReport) :
    ((fleet name).engine name).Keeps (fleet name).world.onSite fun attempts later site =>
      ∃ actions, fleet.Along (fleet.IsOwnWork name) state actions ∧
        (fleet.run state actions).site = site ∧ (fleet.run state actions).batches name = attempts ∧
        later = (fleet.endings name state actions).foldl .record report where
  step := by
    rintro _ _ _ after number attempt next ⟨actions, own, rfl, rfl, rfl⟩ there pending steps
    have stepped := step_proceed there steps
    have works : fleet.Along (fleet.IsOwnWork name) (fleet.run state actions)
        [.proceed name number] := ⟨rfl, trivial⟩
    have told : fleet.endings name (fleet.run state actions) [.proceed name number] =
        next.ending?.toList := by
      show fleet.ended name _ _ ++ [] = _
      rw [List.append_nil]
      exact ended_proceed there pending steps
    refine ⟨actions ++ [.proceed name number], own.append works, ?_, ?_, ?_⟩
    · rw [run_append]
      exact congrArg State.site stepped
    · rw [run_append]
      refine (congrFun (congrArg State.batches stepped) name).trans ?_
      exact Function.update_self ..
    · rw [← told, ← List.foldl_append, endings, endings, ← observe_append]
  tick := by
    rintro _ _ _ millis ⟨actions, own, rfl, rfl, rfl⟩
    let passes : Action ι ε S P := .pass ((fleet name).world.tick millis
      (fleet.run state actions).site.surroundings).2
    have works : fleet.Along (fleet.IsOwnWork name) (fleet.run state actions) [passes] :=
      ⟨.inl ⟨millis, rfl⟩, trivial⟩
    have told : fleet.endings name state (actions ++ [passes]) = fleet.endings name state actions :=
      (fleet.observe_append _ state actions [passes]).trans (List.append_nil _)
    refine ⟨actions ++ [passes], own.append works, ?_, ?_, ?_⟩
    · rw [run_append]
      rfl
    · rw [run_append]
      rfl
    · rw [told]

variable {batch later : Batch S P Call Response} {after : Site ι ε S P} {permits left : Permits}
  {lane now : Nat}

/-- **A batch is a schedule**, from one time to another. -/
theorem enacts_runBatch {limit : Nat} (hosts : batch.Hosts (state.batches name))
    (ran : ((fleet name).engine name).runBatch (fleet name).world.onSite lane limit now batch permits
      state.site = ((later, left), after)) :
    fleet.Enacts name state batch later after := by
  obtain ⟨_, hostsLast, actions, own, reached, rfl, report⟩ :=
    (keeps_enacted fleet name state batch.report).runBatch
      ⟨_, hosts, [], trivial, rfl, rfl, rfl⟩ ran
  exact ⟨actions, own, reached, hostsLast, report⟩

/-- **A poll is a schedule.** A member that has no work selects its batch, and then makes the steps
of its attempts in some order. Its report counts the attempts as they end. If the poll is through,
all of them have ended. -/
theorem poll_enacted (fleet : Fleet ι ε S P Call Response) (name : ι)
    {state : State ι ε S P Call Response} (idle : state.isIdle name = true) (limit : Nat)
    (permits : Permits) :
    let polled := ((fleet name).engine name).poll (fleet name).world.onSite limit permits state.site
    ∃ actions, fleet.Along (fleet.IsOwnWork name) (fleet.step state (.poll name)) actions ∧
      (fleet.run (fleet.step state (.poll name)) actions).site = polled.2 ∧
      polled.1.1 = .ok (fleet.report name state actions) ∧
      (((fleet name).engine name).IsThrough (fleet name).world.onSite limit permits state.site →
        (fleet.run (fleet.step state (.poll name)) actions).isIdle name = true) := by
  intro polled
  have selects : ((fleet name).engine name).select (fleet name).world.onSite state.site =
      (.ok (state.selection fleet name), (fleet.step state (.poll name)).site) := by
    rw [step_poll idle]
    rfl
  have begins : (fleet.step state (.poll name)).batches name =
      (state.selection fleet name).map .selected := by
    rw [step_poll idle]
    exact Function.update_self ..
  by_cases nothing : state.selection fleet name = []
  · rw [nothing] at selects
    have answer : polled = _ := Engine.poll_of_nil selects limit
    let entry : Log.Entry :=
      ⟨.debug, "No due entities", [("entity_type", .text (fleet name).registry.entityType)]⟩
    refine ⟨[.pass ((fleet name).world.log entry (fleet.step state (.poll name)).site.surroundings).2],
      ⟨.inr ⟨entry, rfl⟩, trivial⟩, ?_, ?_, fun _ => ?_⟩
    · rw [answer]
      rfl
    · rw [answer]
      unfold report
      rw [nothing]
      rfl
    · show ((fleet.step state (.poll name)).batches name).all (·.isOver) = true
      rw [begins, nothing]
      rfl
  · have hosts : (((fleet name).engine name).seatSelection (state.selection fleet name)).Hosts
        ((fleet.step state (.poll name)).batches name) := by
      rw [begins]
      exact Batch.hosts_ofSelection _ _
    rcases ran : ((fleet name).engine name).runBatch (fleet name).world.onSite 0 limit 0
      (((fleet name).engine name).seatSelection (state.selection fleet name)) permits
        (fleet.step state (.poll name)).site with ⟨⟨later, left⟩, after⟩
    obtain ⟨actions, own, reached, hostsLast, counted⟩ := enacts_runBatch hosts ran
    have answer : polled = ((.ok later.report, left), after) :=
      Engine.poll_of_runBatch nothing selects ran
    refine ⟨actions, own, ?_, ?_, fun through => ?_⟩
    · rw [answer]
      exact reached
    · rw [answer]
      exact congrArg Except.ok counted
    · have closed := through _ _ selects
      rw [ran] at closed
      exact List.all_eq_true.mpr (hostsLast.isOver closed)

/-! ### Polls that nobody disturbs -/

/-- The report counts who was leased. -/
theorem leased_foldl_record (outcomes : List Outcome) (report : CycleReport) :
    ((outcomes.map Ending.persisted).foldl .record report).leased = report.leased + outcomes.length ∧
      ((outcomes.map Ending.persisted).foldl .record report).selected = report.selected := by
  induction outcomes generalizing report with
  | nil => exact ⟨rfl, rfl⟩
  | cons outcome rest ih =>
    obtain ⟨leased, selected⟩ := ih (report.record (.persisted outcome))
    have one : (report.record (.persisted outcome)).leased = report.leased + 1 ∧
        (report.record (.persisted outcome)).selected = report.selected := by
      cases outcome <;> exact ⟨rfl, rfl⟩
    rw [List.map_cons, List.foldl_cons, leased, selected, one.1, one.2, List.length_cons]
    omega

variable {shows : List X → ε → Prop} {note : Entity S P → List X} {reply : Entity S P → Reply S P}
  {instant : Instant} {before : Site ι ε S P} {selection finished : List (Entity S P)}

/-- The surroundings stay calm while a steady member does its own work. -/
theorem isWorkOf_of_isOwnWork (steady : (fleet name).IsSteady instant shows note reply)
    (distinct : (selection.map (·.id)).Nodup) {actions : List (Action ι ε S P)}
    (inside : state.Interleaved fleet name instant shows reply before selection finished)
    (own : fleet.Along (fleet.IsOwnWork name) state actions) :
    ∀ action ∈ actions, action.IsWorkOf name (Calm shows) := by
  induction actions generalizing state finished with
  | nil => exact fun _ nothing => nomatch nothing
  | cons action rest ih =>
    obtain ⟨here, later⟩ := own
    have works : action.IsWorkOf name (Calm shows) := by
      cases action with
      | pass surroundings =>
        obtain ⟨notes, shown⟩ := inside.calm
        rcases here with ⟨millis, rfl⟩ | ⟨entry, rfl⟩
        · exact ⟨notes, steady.ticks millis shown⟩
        · exact ⟨notes, steady.logs entry shown⟩
      | proceed other place => exact here
      | call _ | poll _ | stop _ => exact here.elim
    have single : ∀ other ∈ [action], other.IsWorkOf name (Calm shows) := by
      intro other listed
      rw [List.mem_singleton.mp listed]
      exact works
    obtain ⟨newly, insideNext, _⟩ := interleaved_run steady distinct single inside
    exact List.forall_mem_cons.mpr ⟨works, ih insideNext later⟩

/-- A poll of a steady member in calm surroundings is work of its own. -/
theorem poll_works (steady : (fleet name).IsSteady instant shows note reply)
    (calm : Calm shows state.site.surroundings) (idle : state.isIdle name = true) (limit : Nat)
    (permits : Permits) :
    let polled := ((fleet name).engine name).poll (fleet name).world.onSite limit permits state.site
    ∃ actions : List (Action ι ε S P), (∀ action ∈ actions, action.IsWorkOf name (Calm shows)) ∧
      (fleet.run (fleet.step state (.poll name)) actions).site = polled.2 ∧
      polled.1.1 = .ok (fleet.report name state actions) ∧
      (((fleet name).engine name).IsThrough (fleet name).world.onSite limit permits state.site →
        (fleet.run (fleet.step state (.poll name)) actions).isIdle name = true) := by
  intro polled
  obtain ⟨actions, own, rest⟩ := poll_enacted fleet name idle limit permits
  have inside := State.Interleaved.start steady calm idle
  have distinct : ((state.selection fleet name).map (·.id)).Nodup :=
    state.site.memory.nodup_query _
  exact ⟨actions, isWorkOf_of_isOwnWork steady distinct inside own, rest⟩

/-- **A poll settles what it selects, however many attempts it makes at a time.** A member in steady
surroundings polls, with any number of places and any permits. If it has leased all that it
selected by the limit of time, then every selected entity is settled, and all is counted and reported, as
if the attempts had been made one after the other in the order of the selection. -/
theorem poll_settles_concurrently (steady : (fleet name).IsSteady instant shows note reply)
    (calm : Calm shows state.site.surroundings) (idle : state.isIdle name = true) (limit : Nat)
    (permits : Permits) :
    let polled := ((fleet name).engine name).poll (fleet name).world.onSite limit permits state.site
    let selection := state.selection fleet name
    ∃ report, polled.1.1 = .ok report ∧ report.selected = selection.length ∧
      (report.leased = report.selected →
        polled.2.memory = (fleet name).settleAll instant reply state.site.memory selection ∧
        report = (fleet name).recordAll instant reply { selected := selection.length } selection ∧
        polled.2.transitions.Perm
          (state.site.transitions ++ selection.map ((fleet name).transition instant reply))) := by
  intro polled selection
  obtain ⟨actions, work, reached, counted, _⟩ := poll_works steady calm idle limit permits
  have inside := State.Interleaved.start steady calm idle
  have distinct : (selection.map (·.id)).Nodup := state.site.memory.nodup_query _
  obtain ⟨finished, insideLast, ends⟩ := interleaved_run steady distinct work inside
  rw [List.nil_append] at insideLast
  have reports : fleet.report name state actions =
      ((finished.map fun entity => ((fleet name).settlement instant reply entity).outcome).map
        Ending.persisted).foldl .record { selected := selection.length } := by
    unfold report
    rw [ends, List.map_map]
    rfl
  obtain ⟨leased, selected⟩ := leased_foldl_record
    (finished.map fun entity => ((fleet name).settlement instant reply entity).outcome)
    { selected := selection.length }
  rw [← reports] at leased selected
  refine ⟨_, counted, selected, fun complete => ?_⟩
  have all : ∀ entity ∈ selection, entity ∈ finished := by
    have enough : selection.length ≤ finished.length := by
      rw [leased, selected, List.length_map, Nat.zero_add] at complete
      exact Nat.le_of_eq complete.symm
    have same := (List.subperm_of_subset insideLast.once insideLast.part).perm_of_length_le enough
    exact fun entity listed => same.mem_iff.mpr listed
  rw [← reached]
  exact settles_of_isIdle steady calm idle work (insideLast.isIdle all)

/-- **An undisturbed poll settles all that it selects**, however many attempts it makes at a time
and however few permits there are. From some limit of time on, the store, the report and the
transitions are the same as if the attempts had been made one after the other in the order of the
selection. -/
theorem poll_settles_all (steady : (fleet name).IsSteady instant shows note reply)
    (calm : Calm shows state.site.surroundings) (idle : state.isIdle name = true)
    {permits : Permits} (free : permits.IsFree) :
    let selection := state.selection fleet name
    ∃ bound, ∀ limit, bound ≤ limit →
      let polled :=
        ((fleet name).engine name).poll (fleet name).world.onSite limit permits state.site
      polled.1.1 =
          .ok ((fleet name).recordAll instant reply { selected := selection.length } selection) ∧
        polled.2.memory = (fleet name).settleAll instant reply state.site.memory selection ∧
        polled.2.transitions.Perm
          (state.site.transitions ++ selection.map ((fleet name).transition instant reply)) := by
  intro selection
  obtain ⟨bound, through⟩ := Engine.exists_isThrough ((fleet name).engine name)
    (fleet name).world.onSite free state.site
  refine ⟨bound, fun limit long => ?_⟩
  intro polled
  obtain ⟨actions, work, reached, counted, ends⟩ := poll_works steady calm idle limit permits
  obtain ⟨memory, reported, transitions⟩ :=
    settles_of_isIdle steady calm idle work (ends (through limit long))
  rw [reached] at memory transitions
  exact ⟨counted.trans (congrArg Except.ok reported), memory, transitions⟩

/-! ### The order of the attempts -/

/-- **The order of the attempts does not matter.** There is one clock that stands still, every
handler replies to an entity, and a member polls that has no work. One schedule makes the attempts on
the selection one after the other: it settles every entity, counts every outcome and reports every
transition in the order of the selection. Every other schedule that ends all attempts, however it
interleaves their steps, leaves the same store, counts the same report and reports the same
transitions. So does a poll with any number of places and any permits, once it has leased all that
it selected; and with one free permit it has done so from some limit of time on. -/
theorem interleaving_settles (fleet : Fleet ι ε S P Call Response) (name : ι)
    (steady : (fleet name).IsSteady instant shows note reply) (state : State ι ε S P Call Response)
    (calm : Calm shows state.site.surroundings) (idle : state.isIdle name = true) :
    let selected := fleet.step state (.poll name)
    let selection := state.selection fleet name
    ∃ counts : List Nat,
      let ordered := fleet.run selected (inOrder name counts)
      (ordered.isIdle name = true ∧
        ordered.site.memory = (fleet name).settleAll instant reply state.site.memory selection ∧
        fleet.report name state (inOrder name counts) =
          (fleet name).recordAll instant reply { selected := selection.length } selection ∧
        ordered.site.transitions =
          state.site.transitions ++ selection.map ((fleet name).transition instant reply)) ∧
      (∀ actions : List (Action ι ε S P), (∀ action ∈ actions, action.IsWorkOf name (Calm shows)) →
        (fleet.run selected actions).isIdle name = true →
          (fleet.run selected actions).site.memory = ordered.site.memory ∧
          fleet.report name state actions = fleet.report name state (inOrder name counts) ∧
          (fleet.run selected actions).site.transitions.Perm ordered.site.transitions) ∧
      (∀ (limit : Nat) (permits : Permits),
        let polled :=
          ((fleet name).engine name).poll (fleet name).world.onSite limit permits state.site
        ∃ report, polled.1.1 = .ok report ∧ report.selected = selection.length ∧
          (report.leased = report.selected →
            polled.2.memory = ordered.site.memory ∧
            report = fleet.report name state (inOrder name counts) ∧
            polled.2.transitions.Perm ordered.site.transitions)) ∧
      ∀ permits : Permits, permits.IsFree → ∃ bound, ∀ limit, bound ≤ limit →
        let polled :=
          ((fleet name).engine name).poll (fleet name).world.onSite limit permits state.site
        polled.1.1 = .ok (fleet.report name state (inOrder name counts)) ∧
          polled.2.memory = ordered.site.memory ∧
          polled.2.transitions.Perm ordered.site.transitions := by
  intro selected selection
  have inside := State.Interleaved.start steady calm idle
  have distinct : (selection.map (·.id)).Nodup := state.site.memory.nodup_query _
  obtain ⟨counts, _, insideLast⟩ := inside.exists_inOrder steady distinct (Nat.le_refl _)
  rw [List.take_length] at insideLast
  have orderedIdle := insideLast.isIdle fun _ listed => listed
  have orderedTransitions := insideLast.transitions
  obtain ⟨memory, reported, _⟩ :=
    settles_of_isIdle steady calm idle (isWorkOf_inOrder name _ counts) orderedIdle
  refine ⟨counts, ⟨orderedIdle, memory, reported, orderedTransitions⟩, ?_, ?_, ?_⟩
  · intro actions work closed
    obtain ⟨memoryToo, reportedToo, same⟩ := settles_of_isIdle steady calm idle work closed
    exact ⟨memoryToo.trans memory.symm, reportedToo.trans reported.symm,
      same.trans (List.Perm.of_eq orderedTransitions.symm)⟩
  · intro limit permits polled
    obtain ⟨report, answer, counted, settled⟩ :=
      poll_settles_concurrently steady calm idle limit permits
    refine ⟨report, answer, counted, fun complete => ?_⟩
    obtain ⟨memoryToo, reportedToo, same⟩ := settled complete
    exact ⟨memoryToo.trans memory.symm, reportedToo.trans reported.symm,
      same.trans (List.Perm.of_eq orderedTransitions.symm)⟩
  · intro permits free
    obtain ⟨bound, settles⟩ := poll_settles_all steady calm idle free
    refine ⟨bound, fun limit long => ?_⟩
    obtain ⟨reportedToo, memoryToo, same⟩ := settles limit long
    exact ⟨reportedToo.trans (congrArg Except.ok reported.symm), memoryToo.trans memory.symm,
      same.trans (List.Perm.of_eq orderedTransitions.symm)⟩

/-! ### Two lists -/

section Lists

open Credential StatusList

/-- A publisher works on two lists. It leases the second list first, and settles it last. -/
theorem interleaving_settles_lists :
    let other : Entity StatusList.State Publication := { unsigned with id := "other" }
    let fleet : Fleet String (Instant × List Credential.Call) StatusList.State Publication
      Credential.Call Credential.Response := fun _ => recorder
    let state : State String (Instant × List Credential.Call) StatusList.State Publication
      Credential.Call Credential.Response := .start ⟨[unsigned, other], by decide⟩ (atMillis 1000, [])
    let actions := [.proceed "a" 1, .proceed "a" 0, .proceed "a" 1, .proceed "a" 0, .proceed "a" 0,
      .proceed "a" 1]
    fleet.report "a" state actions = { selected := 2, leased := 2, retried := 2 } ∧
      ((fleet.run (fleet.step state (.poll "a")) actions).site.transitions.map (·.entityId)).Perm
        ["list", "other"] := by
  intro other fleet state actions
  obtain ⟨counts, ⟨_, _, reported, transitions⟩, same, _⟩ := interleaving_settles fleet "a"
    (recorder_isSteady (atMillis 1000)) state ⟨[], rfl⟩ rfl
  have chosen : state.selection fleet "a" = [unsigned, other] := by
    have first := recorder.isFirst_query (atMillis 1000) "a" state.site.memory
    have waits : ∀ list ∈ state.site.memory.entities,
        recorder.isDueAt (atMillis 1000) list = true := by
      intro list listed
      rw [← recorder.matchesEntity_criteria _ "a"]
      rcases List.mem_pair.mp listed with rfl | rfl
      · exact matches_criteria ⟨_, rfl⟩ rfl (by decide)
      · exact matches_criteria ⟨_, rfl⟩ rfl (by decide)
    rw [List.filter_eq_self.mpr waits] at first
    refine first.unique ⟨fun _ listed => listed, ?_, by decide, fun _ listed missing =>
      absurd listed missing⟩
    exact List.pairwise_pair.mpr (.inr ⟨rfl, by decide⟩)
  have closed : (fleet.run (fleet.step state (.poll "a")) actions).isIdle "a" = true := by
    rw [step_poll rfl, chosen]
    decide +kernel
  obtain ⟨_, reportedToo, sameTransitions⟩ :=
    same actions (by simp [actions, Action.IsWorkOf]) closed
  rw [chosen] at reported transitions
  refine ⟨reportedToo.trans reported, ?_⟩
  rw [transitions] at sameTransitions
  exact sameTransitions.map _

end Lists

end Fleet

end Leasehold
