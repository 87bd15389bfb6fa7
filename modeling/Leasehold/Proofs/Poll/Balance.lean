/-
**The report of a poll balances.**

What a poll reports is what can be counted in the record of its store operations and events, whoever
else works on the store meanwhile, and whichever operations fail:

* `CycleReport.Counts`: a report counts some endings;
* `Account.counts`, `Account.leases`: what one attempt adds to the record, and to the report;
* `IsFiled.counts`, `IsFiled.distinct`, `IsFiled.tells`: the same for all attempts of a batch;
* `Engine.Balances`, `CycleReport.Closes`: how a report balances, at any time and in the end;
* `poll_balances_of_noted`: the report of every poll balances.
-/

import Leasehold.Proofs.Poll.Account
import Leasehold.Proofs.Poll.Cycle

set_option linter.unusedSectionVars false

namespace Leasehold

variable {σ S P Call : Type} {Response : Call → Type} [DecidableEq S] [ProcessState S]

/-! ### Reports and endings -/

/-- Whether the entity was leased. -/
def Ending.isLeased : Ending → Bool
  | .abandoned | .persisted _ => true
  | .leaseConflict | .leaseFailed => false

/-- All kinds of endings. -/
theorem length_endings (endings : List Ending) :
    endings.length = endings.countP Ending.isLeased + endings.count .leaseConflict +
      endings.count .leaseFailed := by
  induction endings with
  | nil => rfl
  | cons ending rest ih =>
    cases ending <;> simp [List.countP_cons, Ending.isLeased, ih] <;> omega

namespace CycleReport

/-- A report counts the endings of attempts on so many entities. -/
structure Counts (report : CycleReport) (selected : Nat) (endings : List Ending) : Prop where
  selected : report.selected = selected
  leased : report.leased = endings.countP Ending.isLeased
  leaseConflicts : report.leaseConflicts = endings.count .leaseConflict
  succeeded : report.succeeded = endings.count (.persisted .success)
  retried : report.retried = endings.count (.persisted .retry)
  failed : report.failed =
    endings.count (.persisted .fatal) + endings.count (.persisted .exhausted)
  cancelled : report.cancelled = endings.count (.persisted .cancelled)
  total : report.leased =
    report.succeeded + report.retried + report.failed + report.cancelled + report.abandoned

variable {report : CycleReport} {selected : Nat} {endings : List Ending}

/-- One more ending is counted. -/
theorem Counts.record (counts : report.Counts selected endings) (ending : Ending) :
    (report.record ending).Counts selected (endings ++ [ending]) := by
  obtain ⟨selected, leased, leaseConflicts, succeeded, retried, failed, cancelled, total⟩ := counts
  cases ending with
  | leaseConflict | leaseFailed | abandoned =>
    constructor <;>
      simp [CycleReport.record, Ending.isLeased, List.countP_append, List.count_append, *]
    omega
  | persisted outcome =>
    cases outcome <;> constructor <;>
      simp [CycleReport.record, recordOutcome, Ending.isLeased, List.countP_append,
        List.count_append, *] <;> omega

/-- Any endings are counted. -/
theorem counts_foldl (selected : Nat) (endings : List Ending) :
    (endings.foldl CycleReport.record { selected := selected }).Counts selected endings := by
  induction endings using List.reverseRecOn with
  | nil => exact ⟨rfl, rfl, rfl, rfl, rfl, rfl, rfl, rfl⟩
  | append_singleton earlier ending ih =>
    rw [List.foldl_concat]
    exact ih.record ending

end CycleReport

/-! ### What can be counted in a record -/

namespace Occurrence

/-- An entity was leased. -/
def isLease (occurrence : Occurrence S P) : Bool := occurrence.leased?.isSome

/-- A lease failed because another holder was faster. -/
def isConflict (occurrence : Occurrence S P) : Bool := occurrence.refusal?.any (·.isConflict)

/-- A lease failed for another reason. -/
def isFailure (occurrence : Occurrence S P) : Bool := occurrence.refusal?.any (!·.isConflict)

/-- An entity was written. -/
def isWrite (occurrence : Occurrence S P) : Bool := occurrence.saved?.isSome

/-- A transition with an outcome was reported. -/
def reports (outcome : Outcome) (occurrence : Occurrence S P) : Bool :=
  occurrence.reported?.any (·.outcome == outcome)

/-- What is silent counts as nothing. -/
theorem countP_of_silent {counted : Occurrence S P → Bool} {quiet : List (Occurrence S P)}
    (ignores : ∀ {occurrence : Occurrence S P}, occurrence.IsSilent → counted occurrence = false)
    (silent : ∀ occurrence ∈ quiet, occurrence.IsSilent) : quiet.countP counted = 0 :=
  List.countP_eq_zero.mpr fun occurrence listed => by
    rw [ignores (silent occurrence listed)]
    exact Bool.false_ne_true

theorem countP_cons_of_silent {counted : Occurrence S P → Bool} {occurrence : Occurrence S P}
    (ignores : ∀ {occurrence : Occurrence S P}, occurrence.IsSilent → counted occurrence = false)
    (silent : occurrence.IsSilent) (rest : List (Occurrence S P)) :
    (occurrence :: rest).countP counted = rest.countP counted :=
  List.countP_cons_of_neg <| by
    rw [ignores silent]
    exact Bool.false_ne_true

variable {occurrence : Occurrence S P}

theorem IsSilent.isLease (silent : occurrence.IsSilent) : occurrence.isLease = false := by
  unfold Occurrence.isLease
  rw [silent.leased]
  rfl

theorem IsSilent.isConflict (silent : occurrence.IsSilent) : occurrence.isConflict = false := by
  unfold Occurrence.isConflict
  rw [silent.refusal]
  rfl

theorem IsSilent.isFailure (silent : occurrence.IsSilent) : occurrence.isFailure = false := by
  unfold Occurrence.isFailure
  rw [silent.refusal]
  rfl

theorem IsSilent.isWrite (silent : occurrence.IsSilent) : occurrence.isWrite = false := by
  unfold Occurrence.isWrite
  rw [silent.saved]
  rfl

theorem IsSilent.reports (outcome : Outcome) (silent : occurrence.IsSilent) :
    occurrence.reports outcome = false := by
  unfold Occurrence.reports
  rw [silent.reported]
  rfl

end Occurrence

/-- The transitions that were reported, the first first. -/
abbrev eventsOf (record : List (Occurrence S P)) : List Transition :=
  record.filterMap Occurrence.reported?

/-- The events have all kinds of outcomes. -/
theorem length_events (record : List (Occurrence S P)) :
    (eventsOf record).length =
      record.countP (·.reports .success) + record.countP (·.reports .retry) +
        (record.countP (·.reports .fatal) + record.countP (·.reports .exhausted)) +
        record.countP (·.reports .cancelled) := by
  induction record with
  | nil => rfl
  | cons occurrence rest ih =>
    cases told : occurrence.reported? with
    | none => simp [Occurrence.reports, told, ih]
    | some event =>
      cases kind : event.outcome <;> simp [Occurrence.reports, told, kind, ih] <;> omega

/-- How a report balances once all attempts have ended: every entity that was selected was leased,
or its lease failed with a conflict or with another error. -/
structure CycleReport.Closes (report : CycleReport) (record : List (Occurrence S P)) : Prop where
  leased : record.countP Occurrence.isLease = report.leased
  leaseConflicts : record.countP Occurrence.isConflict = report.leaseConflicts
  selected : report.leased + report.leaseConflicts + record.countP Occurrence.isFailure =
    report.selected

/-! ### One attempt -/

namespace Engine

variable {engine : Engine σ S P Call Response} {candidate : Entity S P}
  {trace : List (Occurrence S P)} {attempt : Attempt S P Call Response}

/-- An attempt on a leased entity has not ended. -/
theorem isOver_of_isOn {leased : Entity S P} (isOn : attempt.IsOn leased) :
    attempt.isOver = false := by
  cases attempt with
  | ended ending => cases isOn
  | _ => rfl

section Leased

variable {now : Instant} {leased written saved : Entity S P} {outcome : Outcome}
  {quiet : List (Occurrence S P)} (silent : ∀ occurrence ∈ quiet, occurrence.IsSilent)

include silent

/-- What is left on a leased entity is one lease, and nothing else that counts. -/
theorem countP_leased :
    let trace : List (Occurrence S P) :=
      .ran (engine.leasing candidate.id now) (.ok leased) :: quiet
    trace.countP Occurrence.isLease = 1 ∧ trace.countP Occurrence.isConflict = 0 ∧
      trace.countP Occurrence.isFailure = 0 ∧ trace.countP Occurrence.isWrite = 0 ∧
        ∀ outcome, trace.countP (·.reports outcome) = 0 := by
  intro trace
  refine ⟨?_, ?_, ?_, ?_, fun outcome => ?_⟩
  · rw [List.countP_cons_of_pos rfl, Occurrence.countP_of_silent (·.isLease) silent]
  · rw [List.countP_cons_of_neg Bool.false_ne_true,
      Occurrence.countP_of_silent (·.isConflict) silent]
  · rw [List.countP_cons_of_neg Bool.false_ne_true,
      Occurrence.countP_of_silent (·.isFailure) silent]
  · rw [List.countP_cons_of_neg Bool.false_ne_true,
      Occurrence.countP_of_silent (·.isWrite) silent]
  · rw [List.countP_cons_of_neg Bool.false_ne_true,
      Occurrence.countP_of_silent (·.reports outcome) silent]

theorem events_leased :
    eventsOf (.ran (engine.leasing candidate.id now) (.ok leased) :: quiet) = [] :=
  (List.filterMap_cons_none rfl).trans
    (List.filterMap_eq_nil_iff.mpr fun occurrence listed => (silent occurrence listed).reported)

/-- What was written is the only event. -/
theorem events_persisted :
    eventsOf (.ran (engine.leasing candidate.id now) (.ok leased) :: (quiet ++
      [.ran (.update written) (.ok saved), .reported (engine.transition leased saved outcome)])) =
      [engine.transition leased saved outcome] := by
  rw [← List.cons_append, eventsOf, List.filterMap_append]
  exact congrArg (· ++ _) (events_leased silent)

end Leased

/-- What one attempt leaves is counted with its ending. -/
theorem Account.counts (account : engine.Account candidate trace attempt) :
    trace.countP Occurrence.isConflict = attempt.ending?.toList.countP (· == .leaseConflict) ∧
      trace.countP Occurrence.isFailure = attempt.ending?.toList.countP (· == .leaseFailed) ∧
      ∀ outcome, trace.countP (·.reports outcome) =
        attempt.ending?.toList.countP (· == .persisted outcome) := by
  cases account with
  | selected => exact ⟨rfl, rfl, fun _ => rfl⟩
  | refused now error =>
    cases conflict : error.isConflict <;>
      simp [Occurrence.isConflict, Occurrence.isFailure, Occurrence.refusal?, Occurrence.reports,
        Occurrence.reported?, Attempt.ending?, conflict]
  | underway same silent isOn =>
    obtain ⟨_, conflicts, failures, _, none⟩ := countP_leased silent
    rw [conflicts, failures, Attempt.ending?_of_pending (isOver_of_isOn isOn)]
    exact ⟨rfl, rfl, none⟩
  | abandoned same silent =>
    obtain ⟨_, conflicts, failures, _, none⟩ := countP_leased silent
    rw [conflicts, failures]
    exact ⟨rfl, rfl, none⟩
  | @persisted _ leased _ saved outcome _ same silent sameSaved =>
    obtain ⟨_, conflicts, failures, _, none⟩ := countP_leased silent
    rw [← List.cons_append, List.countP_append, List.countP_append, conflicts, failures]
    refine ⟨rfl, rfl, fun other => ?_⟩
    rw [List.countP_append, none, Nat.zero_add]
    show [outcome].countP (· == other) = [Ending.persisted outcome].countP (· == .persisted other)
    simp only [List.countP_singleton, beq_iff_eq, Ending.persisted.injEq]

/-- An attempt that has ended left one lease if its entity was leased. -/
theorem Account.leases (account : engine.Account candidate trace attempt)
    (closed : attempt.isOver = true) :
    trace.countP Occurrence.isLease = attempt.ending?.toList.countP Ending.isLeased := by
  cases account with
  | selected => cases closed
  | refused now error => cases conflict : error.isConflict <;> rfl
  | underway same silent isOn =>
    rw [isOver_of_isOn isOn] at closed
    cases closed
  | abandoned same silent => exact (countP_leased silent).1
  | persisted same silent sameSaved =>
    rw [← List.cons_append, List.countP_append, (countP_leased silent).1]
    rfl

/-- What one attempt writes is what it reports. -/
theorem Account.writes (account : engine.Account candidate trace attempt) :
    trace.countP Occurrence.isWrite = (eventsOf trace).length := by
  cases account with
  | selected => rfl
  | refused now error => rfl
  | underway same silent isOn =>
    rw [events_leased silent]
    exact (countP_leased silent).2.2.2.1
  | abandoned same silent =>
    rw [events_leased silent]
    exact (countP_leased silent).2.2.2.1
  | persisted same silent sameSaved =>
    rw [events_persisted silent, ← List.cons_append, List.countP_append,
      (countP_leased silent).2.2.2.1]
    rfl

/-- The events of one attempt are about its entity. -/
theorem Account.distinct (account : engine.Account candidate trace attempt) :
    ((eventsOf trace).map (·.entityId)).Sublist [candidate.id] := by
  cases account with
  | selected => exact List.nil_sublist _
  | refused now error => exact List.nil_sublist _
  | underway same silent isOn =>
    rw [events_leased silent]
    exact List.nil_sublist _
  | abandoned same silent =>
    rw [events_leased silent]
    exact List.nil_sublist _
  | persisted same silent sameSaved =>
    rw [events_persisted silent, ← sameSaved]
    exact List.Sublist.refl _

/-- What an event says of a leased entity and of what its update gave back. -/
structure Reports (engine : Engine σ S P Call Response) (leased saved : Entity S P)
    (event : Transition) : Prop where
  leasedId : leased.id = event.entityId
  savedId : saved.id = event.entityId
  entityType : event.entityType = engine.registry.entityType
  fromState : event.fromState = label leased.state
  toState : event.toState = label saved.state
  stateCount : event.stateCount = saved.stateCount
  errorDetail : event.errorDetail = saved.errorDetail

/-- An event tells what a lease and then an update of its entity gave back. -/
def Tells (engine : Engine σ S P Call Response) (record : List (Occurrence S P))
    (event : Transition) : Prop :=
  ∃ now leased written saved,
    [.ran (engine.leasing event.entityId now) (.ok leased), .ran (.update written) (.ok saved),
      .reported event].Sublist record ∧
    engine.Reports leased saved event

/-- The event of an attempt tells what its lease and its update gave back. -/
theorem Account.tells (account : engine.Account candidate trace attempt) {event : Transition}
    (listed : event ∈ eventsOf trace) : engine.Tells trace event := by
  cases account with
  | selected => cases listed
  | refused now error => cases listed
  | underway same silent isOn =>
    rw [events_leased silent] at listed
    cases listed
  | abandoned same silent =>
    rw [events_leased silent] at listed
    cases listed
  | @persisted now leased written saved outcome _ same silent sameSaved =>
    rw [events_persisted silent, List.mem_singleton] at listed
    subst listed
    refine ⟨now, leased, written, saved, ?_,
      ⟨same.trans sameSaved.symm, rfl, rfl, rfl, rfl, rfl, rfl⟩⟩
    have named : (engine.transition leased saved outcome).entityId = candidate.id := sameSaved
    rw [named]
    exact (List.sublist_append_right _ _).cons_cons _

/-! ### All attempts of a batch -/

variable {selection : List (Entity S P)} {files : List (File S P Call Response)}
  {since : List (Occurrence S P)} {report : CycleReport}

namespace IsFiled

variable (filed : engine.IsFiled selection files since report)

include filed

/-- What is counted alike in every account is counted alike in the whole file. -/
theorem countP_eq {counted : Occurrence S P → Bool} {kind : Ending → Bool} {endings : List Ending}
    (all : endings.Perm (files.flatMap (·.attempt.ending?.toList)))
    (alike : ∀ file ∈ files,
      file.trace.countP counted = file.attempt.ending?.toList.countP kind) :
    since.countP counted = endings.countP kind := by
  rw [filed.recorded.countP_eq, all.countP_eq, List.countP_flatMap, List.countP_flatMap]
  exact congrArg List.sum (List.map_congr_left alike)

/-- The endings of the attempts are counted in the report, and in what the attempts left. -/
theorem counts : ∃ endings : List Ending,
    endings.Perm (files.flatMap (·.attempt.ending?.toList)) ∧
    report.Counts selection.length endings ∧
    since.countP Occurrence.isConflict = endings.count .leaseConflict ∧
    since.countP Occurrence.isFailure = endings.count .leaseFailed ∧
    ∀ outcome, since.countP (·.reports outcome) = endings.count (.persisted outcome) := by
  obtain ⟨endings, all, counted⟩ := filed.counted
  refine ⟨endings, all, ?_, ?_, ?_, fun outcome => ?_⟩
  · rw [counted]
    exact CycleReport.counts_foldl selection.length endings
  · exact filed.countP_eq all fun file listed => (filed.accounts file listed).counts.1
  · exact filed.countP_eq all fun file listed => (filed.accounts file listed).counts.2.1
  · exact filed.countP_eq all fun file listed => (filed.accounts file listed).counts.2.2 outcome

/-- What is written is what is reported. -/
theorem writes : since.countP Occurrence.isWrite = (eventsOf since).length := by
  rw [filed.recorded.countP_eq, (filed.recorded.filterMap _).length_eq, List.filterMap_flatMap,
    List.countP_flatMap, List.length_flatMap]
  exact congrArg List.sum (List.map_congr_left fun file listed =>
    (filed.accounts file listed).writes)

/-- Different entities, different events. -/
theorem distinct (apart : (selection.map (·.id)).Nodup) :
    ((eventsOf since).map (·.entityId)).Nodup := by
  have same : ((eventsOf since).map (·.entityId)).Perm
      (files.flatMap fun file => (eventsOf file.trace).map (·.entityId)) := by
    refine ((filed.recorded.filterMap _).map _).trans (.of_eq ?_)
    rw [List.filterMap_flatMap, List.map_flatMap]
  have part : (files.flatMap fun file => (eventsOf file.trace).map (·.entityId)).Sublist
      (selection.map (·.id)) := by
    rw [← filed.candidates, List.map_map, List.map_eq_flatMap]
    exact List.Sublist.flatMap_right files fun file listed => (filed.accounts file listed).distinct
  exact same.nodup_iff.mpr (apart.sublist part)

/-- Every event tells what its lease and its update gave back. -/
theorem tells {event : Transition} (listed : event ∈ eventsOf since) :
    engine.Tells since event := by
  obtain ⟨occurrence, recorded, told⟩ := List.mem_filterMap.mp listed
  obtain ⟨file, there, left⟩ := List.mem_flatMap.mp (filed.recorded.mem_iff.mp recorded)
  obtain ⟨now, leased, written, saved, order, facts⟩ :=
    (filed.accounts file there).tells (List.mem_filterMap.mpr ⟨occurrence, left, told⟩)
  exact ⟨now, leased, written, saved, order.trans (filed.ordered file there), facts⟩

end IsFiled

/-! ### Polls -/

/-- How a report balances at any time. -/
structure Balances (engine : Engine σ S P Call Response) (report : CycleReport)
    (record : List (Occurrence S P)) : Prop where
  /-- The selection is a page of the store, and not longer than a batch may be. -/
  selected : ∃ now selection rest,
    record = .ran (.query (engine.criteria now)) (.ok selection) :: rest ∧
      report.selected = selection.length ∧ selection.length ≤ engine.config.batchSize
  within : report.leased + report.leaseConflicts ≤ report.selected
  endings : report.leased =
    report.succeeded + report.retried + report.failed + report.cancelled + report.abandoned
  /-- There is an event for every outcome that was written. -/
  events : (eventsOf record).length =
    report.succeeded + report.retried + report.failed + report.cancelled
  succeeded : record.countP (·.reports .success) = report.succeeded
  retried : record.countP (·.reports .retry) = report.retried
  failed : record.countP (·.reports .fatal) + record.countP (·.reports .exhausted) = report.failed
  cancelled : record.countP (·.reports .cancelled) = report.cancelled
  /-- Whatever was written was reported. -/
  written : record.countP Occurrence.isWrite = (eventsOf record).length
  distinct : ((eventsOf record).map (·.entityId)).Nodup
  tells : ∀ event ∈ eventsOf record, engine.Tells record event

/-- A poll is through with its selection at a limit of time: all attempts have ended by then. A poll
that waits for all its handlers does not end before. -/
def IsThrough (engine : Engine σ S P Call Response) (world : World σ Call Response) (limit : Nat)
    (permits : Permits) (state : σ) : Prop :=
  ∀ selection next, engine.select world state = (.ok selection, next) →
    (engine.runBatch world 0 limit 0 (engine.seatSelection selection) permits next).1.1.isOver =
      true

/-- An attempt has one ending at most. -/
theorem length_endings_le (files : List (File S P Call Response)) :
    (files.flatMap (·.attempt.ending?.toList)).length ≤ files.length := by
  rw [← List.filterMap_eq_flatMap_toList]
  exact List.length_filterMap_le _ _

/-- Attempts that are over have one ending each. -/
theorem length_endings_of_isOver (closed : ∀ file ∈ files, file.attempt.isOver = true) :
    (files.flatMap (·.attempt.ending?.toList)).length = files.length := by
  rw [← List.filterMap_eq_flatMap_toList]
  refine List.filterMap_length_eq_length.mpr fun file listed => ?_
  have isOver := closed file listed
  cases ends : file.attempt with
  | ended ending => rfl
  | _ =>
    rw [ends] at isOver
    cases isOver

/-- A selection is silent. -/
theorem silent_query (now : Instant) (answer : Except StoreError (List (Entity S P))) :
    (Occurrence.ran (.query (engine.criteria now)) answer : Occurrence S P).IsSilent :=
  ⟨rfl, rfl, rfl, rfl⟩

section Filed

variable (filed : engine.IsFiled selection files since report) (now : Instant)

include filed

theorem IsFiled.length_files : files.length = selection.length := by
  rw [← filed.candidates, List.length_map]

/-- The record of a batch balances with its report. -/
theorem IsFiled.balances (apart : (selection.map (·.id)).Nodup)
    (page : selection.length ≤ engine.config.batchSize) :
    engine.Balances report (.ran (.query (engine.criteria now)) (.ok selection) :: since) := by
  obtain ⟨endings, all, counts, _, _, outcomes⟩ := filed.counts
  have kinds := length_endings endings
  rw [← counts.leased, ← counts.leaseConflicts, all.length_eq] at kinds
  have most := length_endings_le files
  rw [filed.length_files] at most
  have first : ∀ outcome, (Occurrence.ran (.query (engine.criteria now)) (.ok selection) ::
      since).countP (·.reports outcome) = endings.count (.persisted outcome) := fun outcome =>
    (Occurrence.countP_cons_of_silent (·.reports outcome) (silent_query now _) since).trans
      (outcomes outcome)
  exact {
    selected := ⟨now, selection, since, rfl, counts.selected, page⟩
    within := by
      rw [counts.selected]
      omega
    endings := counts.total
    events := by
      rw [length_events]
      simp only [first, counts.succeeded, counts.retried, counts.failed, counts.cancelled]
    succeeded := (first _).trans counts.succeeded.symm
    retried := (first _).trans counts.retried.symm
    failed := by rw [first, first, counts.failed]
    cancelled := (first _).trans counts.cancelled.symm
    written := (Occurrence.countP_cons_of_silent (·.isWrite) (silent_query now _) since).trans
      filed.writes
    distinct := filed.distinct apart
    tells := fun event listed => by
      obtain ⟨instant, leased, written, saved, order, facts⟩ := filed.tells listed
      exact ⟨instant, leased, written, saved, order.cons _, facts⟩ }

/-- The report closes if all attempts have ended. -/
theorem IsFiled.closes (closed : ∀ file ∈ files, file.attempt.isOver = true) :
    report.Closes (.ran (.query (engine.criteria now)) (.ok selection) :: since) := by
  obtain ⟨endings, all, counts, conflicts, failures, _⟩ := filed.counts
  have kinds := length_endings endings
  rw [← counts.leased, ← counts.leaseConflicts, all.length_eq, length_endings_of_isOver closed,
    filed.length_files] at kinds
  refine ⟨?_, ?_, ?_⟩
  · rw [Occurrence.countP_cons_of_silent (·.isLease) (silent_query now _), counts.leased]
    exact filed.countP_eq all fun file listed =>
      (filed.accounts file listed).leases (closed file listed)
  · rw [Occurrence.countP_cons_of_silent (·.isConflict) (silent_query now _), conflicts,
      counts.leaseConflicts]
  · rw [Occurrence.countP_cons_of_silent (·.isFailure) (silent_query now _), failures,
      counts.selected]
    exact kinds.symm

end Filed

/-- **The report of every poll balances** with the record of its operations and events. A poll that
fails leaves nothing but its selection. -/
theorem poll_balances_of_noted {world : World σ Call Response} {notes : σ → List (Occurrence S P)}
    (noted : engine.IsNoted world notes) (limit : Nat) (permits : Permits) (state : σ) :
    let polled := engine.poll world limit permits state
    ∃ record, notes polled.2 = notes state ++ record ∧
      match polled.1.1 with
      | .error error => ∃ now, record = [.ran (.query (engine.criteria now)) (.error error)]
      | .ok report => engine.Balances report record ∧
          (engine.IsThrough world limit permits state → report.Closes record) := by
  intro polled
  let now := world.now state
  rcases selects : engine.select world state with ⟨answer, next⟩
  obtain ⟨recorded, suits⟩ := noted.ran
    (show engine.store (.query (engine.criteria now)) state = (answer, next) from selects)
  cases answer with
  | error error =>
    have fails : polled = ((.error error, permits), next) := poll_of_error selects limit
    rw [fails]
    exact ⟨_, recorded, now, rfl⟩
  | ok selection =>
    obtain ⟨apart, bounded⟩ := suits
    have page := bounded _ rfl
    by_cases chosen : selection = []
    · subst chosen
      have rests : polled = _ := poll_of_nil selects limit
      have filed : engine.IsFiled [] [] [] { selected := 0 } := isFiled_start []
      rw [rests]
      exact ⟨_, (noted.log _ next).trans recorded, filed.balances now apart page,
        fun _ => filed.closes now fun _ nothing => by cases nothing⟩
    · rcases ran : engine.runBatch world 0 limit 0 (engine.seatSelection selection) permits next
        with ⟨⟨later, left⟩, after⟩
      have answers : polled = ((.ok later.report, left), after) :=
        poll_of_runBatch chosen selects ran
      obtain ⟨_, hosts, files, since, rfl, record, filed⟩ :=
        (keeps_isFiled noted selection (notes next)).runBatch
          ⟨_, Batch.hosts_ofSelection _ selection, _, [], List.map_map ..,
            (List.append_nil _).symm, isFiled_start selection⟩ ran
      rw [answers]
      refine ⟨_, ?_, filed.balances now apart page, fun through =>
        filed.closes now fun file listed => ?_⟩
      · rw [record, recorded, List.append_assoc]
        rfl
      · have closed := through selection next selects
        rw [ran] at closed
        exact hosts.isOver closed _ (List.mem_map_of_mem listed)

end Engine

end Leasehold
