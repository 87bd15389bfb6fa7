/-
**Every engine has a fate of its own.**

A shutdown waits for its engines one after the other, and an engine that does not end uses up all
the time that is left. Nevertheless the fate of an engine hangs on the end of its own task alone:
whoever comes after it is looked at before the clock. All this holds of a shutdown that has a
deadline; without one there is no report.

* `TaskEnd.fate`, `Supervisor.fates`: the fates of engines by the ends of their own tasks;
* `await_eq_fate`, `awaitAll_eq_fates`: waiting from any time before the deadline finds this fate;
* `awaitAll_bounds`: and is over by the deadline;
* `shutdown_of_deadline`: what a shutdown with a deadline comes to;
* `ShutdownReport.listFor`: the list of a report for a fate;
* `ShutdownReport.Classifies`: how the end of its task places an engine in a report;
* `Supervisor.shutdown_classifies`: the report of a shutdown.
-/

import Leasehold.Supervisor

namespace Leasehold

/-! ### Waiting -/

namespace TaskEnd

/-- What becomes of an engine, by the end of its own task. -/
def fate (deadline : Nat) (task : TaskEnd) : Fate :=
  if task.isOverAt deadline then task.result else .aborted

@[simp] theorem fate_returns (deadline time : Nat) :
    (returns time).fate deadline = if time < deadline then .stopped else .aborted := by
  simp [fate, isOverAt, time?, result]

@[simp] theorem fate_crashes (deadline time : Nat) (message : String) :
    (crashes time message).fate deadline =
      if time < deadline then .panicked message else .aborted := by
  simp [fate, isOverAt, time?, result]

@[simp] theorem fate_never (deadline : Nat) : never.fate deadline = .aborted := rfl

variable {deadline now : Nat} {task : TaskEnd}

/-- Who is over by some time is over by a later time. -/
theorem isOverAt_mono (early : now ≤ deadline) (isOver : task.isOverAt now = true) :
    task.isOverAt deadline = true := by
  obtain ⟨time, ends, before⟩ := (Option.any_eq_true _ _).mp isOver
  have sooner : time < now := of_decide_eq_true before
  exact (Option.any_eq_true _ _).mpr ⟨time, ends, decide_eq_true (Nat.lt_of_lt_of_le sooner early)⟩

/-- **Waiting for an engine finds its own fate**, however much time is left. -/
theorem await_eq_fate (early : now ≤ deadline) :
    (task.await deadline now).1 = task.fate deadline := by
  unfold await
  split
  · next isOver =>
    unfold fate
    rw [if_pos (isOverAt_mono early isOver)]
  · unfold fate isOverAt
    cases task.time? with
    | none => rfl
    | some time =>
      dsimp only [Option.any_some]
      by_cases inTime : time < deadline
      · rw [if_pos inTime, if_pos (decide_eq_true inTime)]
      · rw [if_neg inTime, if_neg (by simpa using inTime)]

/-- Waiting takes time, but not beyond the deadline. -/
theorem await_bounds (early : now ≤ deadline) :
    now ≤ (task.await deadline now).2 ∧ (task.await deadline now).2 ≤ deadline := by
  unfold await
  split
  · exact ⟨Nat.le_refl now, early⟩
  · next waits =>
    unfold isOverAt at waits
    cases ends : task.time? with
    | none => exact ⟨Nat.le_max_left .., Nat.max_le.mpr ⟨early, Nat.le_refl _⟩⟩
    | some time =>
      rw [ends, Option.any_some, decide_eq_true_iff] at waits
      dsimp only
      split
      · next inTime => exact ⟨Nat.le_of_not_lt waits, Nat.le_of_lt inTime⟩
      · exact ⟨Nat.le_max_left .., Nat.max_le.mpr ⟨early, Nat.le_refl _⟩⟩

end TaskEnd

namespace Supervisor

/-- The fates of some engines, each by the end of its own task. -/
def fates (deadline : Nat) (engines : List (String × TaskEnd)) : List (String × Fate) :=
  engines.map fun engine => (engine.1, engine.2.fate deadline)

theorem awaitAll_cons (deadline now : Nat) (name : String) (task : TaskEnd)
    (rest : List (String × TaskEnd)) :
    awaitAll deadline now ((name, task) :: rest) =
      let (fate, later) := task.await deadline now
      ((name, fate) :: (awaitAll deadline later rest).1, (awaitAll deadline later rest).2) := rfl

/-- **Waiting for engines one after the other finds the own fate of each.** That the deadline has
not passed is what each wait leaves to the next one. -/
theorem awaitAll_eq_fates {deadline now : Nat} (early : now ≤ deadline)
    (engines : List (String × TaskEnd)) :
    (awaitAll deadline now engines).1 = fates deadline engines := by
  induction engines generalizing now with
  | nil => rfl
  | cons engine rest ih =>
    obtain ⟨name, task⟩ := engine
    have later : (task.await deadline now).2 ≤ deadline := (TaskEnd.await_bounds early).2
    rw [awaitAll_cons, fates, List.map_cons, ← TaskEnd.await_eq_fate early]
    exact congrArg _ (ih later)

/-- Waiting for engines is over by the deadline. -/
theorem awaitAll_bounds {deadline now : Nat} (early : now ≤ deadline)
    (engines : List (String × TaskEnd)) :
    now ≤ (awaitAll deadline now engines).2 ∧ (awaitAll deadline now engines).2 ≤ deadline := by
  induction engines generalizing now with
  | nil => exact ⟨Nat.le_refl now, early⟩
  | cons engine rest ih =>
    obtain ⟨_, task⟩ := engine
    obtain ⟨after, within⟩ : now ≤ (task.await deadline now).2 ∧ _ := TaskEnd.await_bounds early
    obtain ⟨afterwards, closes⟩ := ih within
    exact ⟨Nat.le_trans after afterwards, closes⟩

/-- **A shutdown with a deadline finds the own fate of each engine**, and is over by then. -/
theorem shutdown_of_deadline {supervisor : Supervisor} {now deadline : Nat}
    (told : supervisor.deadline? now = some deadline) (tasks : List TaskEnd) :
    ∃ finished, now ≤ finished ∧ finished ≤ deadline ∧ supervisor.shutdown now tasks =
      .ok (fates deadline (supervisor.names.zip tasks), finished) := by
  have early : now ≤ deadline := by
    unfold deadline? at told
    rw [Option.ite_none_right_eq_some] at told
    rw [← Option.some.inj told.2]
    exact Nat.le_add_right now _
  obtain ⟨after, within⟩ := awaitAll_bounds early (supervisor.names.zip tasks)
  refine ⟨_, after, within, ?_⟩
  unfold shutdown
  rw [told, ← awaitAll_eq_fates early]

end Supervisor

/-! ### Reports -/

/-- Whether two fates have one list in a report. -/
@[simp] def Fate.isAlike : Fate → Fate → Bool
  | .stopped, .stopped | .aborted, .aborted | .panicked _, .panicked _ => true
  | _, _ => false

namespace ShutdownReport

/-- The list of a report for a fate. -/
def listFor (report : ShutdownReport) : Fate → List String
  | .stopped => report.stopped
  | .aborted => report.aborted
  | .panicked _ => report.panicked

variable {fates : List (String × Fate)}

/-- A list of a report names the engines of its fate, in their order. -/
theorem listFor_ofFates (fates : List (String × Fate)) (fate : Fate) :
    (ofFates fates).listFor fate = (fates.filter (·.2.isAlike fate)).map Prod.fst := by
  induction fates with
  | nil => cases fate <;> rfl
  | cons engine rest ih =>
    obtain ⟨name, found⟩ := engine
    cases found <;> cases fate <;>
      simp only [ofFates, listFor, List.filter_cons, Fate.isAlike, List.map_cons, if_true,
        Bool.false_eq_true, if_false] at ih ⊢ <;> rw [ih]

/-- Every engine is in a report once. -/
theorem perm_ofFates (fates : List (String × Fate)) :
    ((ofFates fates).stopped ++ (ofFates fates).aborted ++ (ofFates fates).panicked).Perm
      (fates.map Prod.fst) := by
  induction fates with
  | nil => exact List.Perm.refl []
  | cons engine rest ih =>
    obtain ⟨name, fate⟩ := engine
    cases fate with
    | stopped => exact ih.cons name
    | aborted =>
      refine .trans ?_ (ih.cons name)
      show ((ofFates rest).stopped ++ name :: (ofFates rest).aborted ++ _).Perm _
      rw [List.append_assoc, List.cons_append, List.append_assoc]
      exact List.perm_middle
    | panicked _ =>
      exact List.perm_middle.trans (ih.cons name)

/-- A report of engines with different names is clean exactly if it lists all of them as stopped. -/
theorem isClean_iff_of_perm {report : ShutdownReport} {names : List String}
    (once : (report.stopped ++ report.aborted ++ report.panicked).Perm names)
    (distinct : names.Nodup) :
    report.isClean = true ↔ ∀ name ∈ names, name ∈ report.stopped := by
  unfold isClean
  rw [Bool.and_eq_true, List.isEmpty_iff, List.isEmpty_iff]
  constructor
  · rintro ⟨noneAborted, nonePanicked⟩ name named
    rw [noneAborted, nonePanicked, List.append_nil, List.append_nil] at once
    exact once.mem_iff.mpr named
  · intro allStopped
    obtain ⟨-, -, apart⟩ := List.nodup_append.mp
      (List.append_assoc .. ▸ once.nodup_iff.mpr distinct)
    have stops : ∀ name ∈ report.aborted ++ report.panicked, name ∈ report.stopped :=
      fun name listed => allStopped name <| once.mem_iff.mp <| by
        rw [List.append_assoc]
        exact List.mem_append_right _ listed
    refine List.append_eq_nil_iff.mp (List.eq_nil_iff_forall_not_mem.mpr fun name listed => ?_)
    exact apart name (stops name listed) name listed rfl

/-- How the end of its task places an engine in a report: before the deadline in the list for its
end, and otherwise among those that were aborted. -/
structure Classifies (report : ShutdownReport) (deadline : Nat) (name : String) (task : TaskEnd) :
    Prop where
  stopped : name ∈ report.stopped ↔ ∃ time < deadline, task = .returns time
  panicked : name ∈ report.panicked ↔ ∃ time < deadline, ∃ message, task = .crashes time message
  aborted : name ∈ report.aborted ↔ ∀ time, task.time? = some time → deadline < time

/-- An engine in the list for its fate is placed by its end, if that is not the deadline itself. -/
theorem classifies_of_mem_iff {report : ShutdownReport} {deadline : Nat} {name : String}
    {task : TaskEnd}
    (placed : ∀ fate, name ∈ report.listFor fate ↔ (task.fate deadline).isAlike fate = true)
    (untied : task.time? ≠ some deadline) : report.Classifies deadline name task := by
  have stopped := placed .stopped
  have panicked := placed (.panicked "")
  have aborted := placed .aborted
  cases task with
  | returns time | crashes time message =>
    have apart : time ≠ deadline := fun same => untied (congrArg some same)
    by_cases inTime : time < deadline <;>
      exact ⟨stopped.trans (by simp [inTime]), panicked.trans (by simp [inTime]),
        aborted.trans (by simp [inTime, TaskEnd.time?]; omega)⟩
  | never =>
    exact ⟨stopped.trans (by simp), panicked.trans (by simp),
      aborted.trans (by simp [TaskEnd.time?])⟩

end ShutdownReport

namespace Supervisor

variable {supervisor : Supervisor} {deadline : Nat} {tasks : List TaskEnd} {name : String}
  {task : TaskEnd}

/-- An engine is in the list for its fate, and in no other. -/
theorem mem_listFor_iff (listed : (name, task) ∈ supervisor.names.zip tasks) (fate : Fate) :
    name ∈ (ShutdownReport.ofFates (fates deadline (supervisor.names.zip tasks))).listFor fate ↔
      (task.fate deadline).isAlike fate = true := by
  rw [ShutdownReport.listFor_ofFates, fates, List.filter_map, List.map_map]
  constructor
  · intro found
    obtain ⟨⟨other, otherTask⟩, kept, rfl⟩ := List.mem_map.mp found
    obtain ⟨otherListed, alike⟩ := List.mem_filter.mp kept
    -- names differ, so the engine with this name is the one at hand
    have sameTask : otherTask = task := by
      obtain ⟨place, located⟩ := List.mem_iff_getElem?.mp listed
      obtain ⟨place', located'⟩ := List.mem_iff_getElem?.mp otherListed
      obtain ⟨named, has⟩ := List.getElem?_zip_eq_some.mp located
      obtain ⟨named', has'⟩ := List.getElem?_zip_eq_some.mp located'
      obtain rfl : place = place' :=
        (List.getElem?_inj (List.getElem?_eq_some_iff.mp named).1 supervisor.distinct).mp
          (named.trans named'.symm)
      exact Option.some.inj (has'.symm.trans has)
    rw [← sameTask]
    exact alike
  · intro alike
    exact List.mem_map.mpr ⟨(name, task), List.mem_filter.mpr ⟨listed, alike⟩, rfl⟩

/-- **The report of a shutdown.** A shutdown that has a deadline gives a report by then. Every
engine is in one list, once, and by the end of its own task; the lists keep the order of
registration; and the report is clean exactly if all engines stopped. In a shutdown of other engines
beside it, in another order or with other ends, and with the same deadline, an engine that ends in
the same way is in the same list. -/
theorem shutdown_classifies (supervisor : Supervisor) (now : Nat) (tasks : List TaskEnd)
    {deadline : Nat} (told : supervisor.deadline? now = some deadline)
    (each : tasks.length = supervisor.names.length)
    (untied : ∀ task ∈ tasks, task.time? ≠ some deadline) :
    ∃ fates finished, supervisor.shutdown now tasks = .ok (fates, finished) ∧
      now ≤ finished ∧ finished ≤ deadline ∧
      let report := ShutdownReport.ofFates fates
      (report.stopped ++ report.aborted ++ report.panicked).Perm supervisor.names ∧
      (∀ name task, (name, task) ∈ supervisor.names.zip tasks →
        report.Classifies deadline name task) ∧
      (∀ fate, (report.listFor fate).Sublist supervisor.names) ∧
      (report.isClean = true ↔ ∀ name ∈ supervisor.names, name ∈ report.stopped) ∧
      ∀ (other : Supervisor) (now' : Nat) (tasks' : List TaskEnd),
        other.deadline? now' = some deadline →
          ∃ fates' finished', other.shutdown now' tasks' = .ok (fates', finished') ∧
            ∀ name task, (name, task) ∈ supervisor.names.zip tasks →
              (name, task) ∈ other.names.zip tasks' → ∀ fate,
                (name ∈ report.listFor fate ↔
                  name ∈ (ShutdownReport.ofFates fates').listFor fate) := by
  obtain ⟨finished, after, within, closes⟩ := shutdown_of_deadline told tasks
  refine ⟨_, finished, closes, after, within, ?_⟩
  intro report
  have names : (fates deadline (supervisor.names.zip tasks)).map Prod.fst = supervisor.names := by
    rw [fates, List.map_map]
    exact List.map_fst_zip (Nat.le_of_eq each.symm)
  have once := ShutdownReport.perm_ofFates (fates deadline (supervisor.names.zip tasks))
  rw [names] at once
  refine ⟨once, ?_, ?_, ?_, ?_⟩
  · intro name task listed
    exact ShutdownReport.classifies_of_mem_iff (mem_listFor_iff listed)
      (untied task (List.of_mem_zip listed).2)
  · intro fate
    rw [ShutdownReport.listFor_ofFates]
    have part : (((fates deadline (supervisor.names.zip tasks)).filter
        (·.2.isAlike fate)).map Prod.fst).Sublist _ := List.filter_sublist.map Prod.fst
    rwa [names] at part
  · exact ShutdownReport.isClean_iff_of_perm once supervisor.distinct
  · intro other now' tasks' toldToo
    obtain ⟨finished', _, _, closesToo⟩ := shutdown_of_deadline toldToo tasks'
    refine ⟨_, finished', closesToo, fun name task listed listed' fate => ?_⟩
    rw [mem_listFor_iff listed, mem_listFor_iff listed']

/-! ### A stuck engine in front -/

section Stuck

/-- Four engines, with one second for their shutdown. -/
def quartet : Supervisor where
  names := ["stuck", "slow", "quick", "broken"]
  timeout := .ofSeconds 1
  distinct := by decide

/-- The first never ends, the second ends too late, the third ended before the shutdown began, and
the last crashes in time. -/
def quartetEnds : List TaskEnd := [.never, .returns 2000, .returns 40, .crashes 700 "broken"]

/-- The stuck engine uses up the whole timeout, and yet those behind it are not aborted for that. -/
theorem shutdown_classifies_stuck :
    quartet.deadline? 50 = some 1050 ∧
      ∃ fates, quartet.shutdown 50 quartetEnds = .ok (fates, 1050) ∧
        let report := ShutdownReport.ofFates fates
        report = ⟨["quick"], ["stuck", "slow"], ["broken"]⟩ ∧
          report.Classifies 1050 "quick" (.returns 40) ∧
          report.Classifies 1050 "broken" (.crashes 700 "broken") ∧
          (report.stopped ++ report.aborted ++ report.panicked).Perm quartet.names := by
  have told : quartet.deadline? 50 = some 1050 := by decide
  obtain ⟨fates, finished, closes, _, _, once, placed, _⟩ :=
    shutdown_classifies quartet 50 quartetEnds told rfl (by decide)
  have known : quartet.shutdown 50 quartetEnds =
      .ok ([("stuck", .aborted), ("slow", .aborted), ("quick", .stopped),
        ("broken", .panicked "broken")], 1050) := by
    unfold shutdown
    rw [told]
    exact congrArg Except.ok (by decide)
  cases closes.symm.trans known
  exact ⟨told, _, known, rfl, placed "quick" (.returns 40) (by decide),
    placed "broken" (.crashes 700 "broken") (by decide), once⟩

end Stuck

end Supervisor

end Leasehold
