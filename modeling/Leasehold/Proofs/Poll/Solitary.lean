/-
**Polls in which one entity is left to a member.**

A complete poll decides what becomes of an entity that nobody but the member writes: nothing, if it
is not due, and otherwise what its handler replies.

* `Member.HasRoom`: the batch has room for an entity;
* `Cycle`: a poll, with what happens before it and until it is over;
* `Cycle.IsSolitary`: nobody but the member writes an entity in such a cycle;
* `IsSolitary.rests`, `IsSolitary.settles`: what the cycle does to the entity;
* `Cycle.schedule`, `Cycle.Throughout`: several polls, one after the other.
-/

import Leasehold.Proofs.Poll.Course
import Leasehold.Proofs.Poll.Cycle

set_option linter.unusedSectionVars false

namespace Leasehold

variable {ι ε S P Call : Type} {Response : Call → Type} [DecidableEq S] [ProcessState S]

/-! ### The selection -/

namespace Member

variable (member : Member ε S P Call Response) (now : Instant) {memory : Memory S P}
  {entity : Entity S P}

/-- Fewer of the entities that are due come before an entity than a batch holds. -/
def HasRoom (memory : Memory S P) (entity : Entity S P) : Prop :=
  ∀ earlier : List (Entity S P), earlier.Nodup →
    (∀ other ∈ earlier, other ∈ memory.entities ∧ member.isDueAt now other = true ∧
      IsBefore (fun entity : Entity S P => entity.stateTimestamp.nanos) (·.id) other entity) →
    earlier.length < member.config.batchSize

variable {member now}

theorem isDueAt_iff : member.isDueAt now entity = true ↔
    entity.state ∈ member.registry.handledStates ∧ entity.isFreeAt now = true ∧
      (member.config.retry.dueFilter now).admits entity.stateCount entity.stateTimestamp = true := by
  unfold isDueAt
  rw [Bool.and_eq_true, Bool.and_eq_true, entity.isFreeAt_eq_not_isLeasedAt, List.contains_iff_mem,
    and_assoc]

/-- With room in the batch, an entity is selected if it is due. -/
theorem HasRoom.mem_query_iff (room : member.HasRoom now memory entity)
    (found : memory.find? entity.id = some entity) (name : ι) :
    entity ∈ memory.query ((member.engine name).criteria now) ↔
      member.isDueAt now entity = true := by
  have first := member.isFirst_query now name memory
  constructor
  · exact fun selected => (List.mem_filter.mp (first.part entity selected)).2
  · intro due
    by_contra missing
    have stored : entity ∈ memory.entities := List.mem_of_find?_eq_some found
    obtain ⟨full, before⟩ := first.others entity (List.mem_filter.mpr ⟨stored, due⟩) missing
    have distinct := (memory.nodup_query ((member.engine name).criteria now)).of_map
    have fits := room _ distinct fun other chosen =>
      ⟨(List.mem_filter.mp (first.part other chosen)).1,
        (List.mem_filter.mp (first.part other chosen)).2, before other chosen⟩
    omega

end Member

namespace Fleet

variable [DecidableEq ι] {fleet : Fleet ι ε S P Call Response} {name : ι}
  {state : State ι ε S P Call Response} {now : Instant} {entity : Entity S P}

/-- An attempt on an entity that was selected is at the beginning of its way. -/
theorem State.OnCourse.start (tidy : state.Tidy fleet) (idle : state.isIdle name = true)
    (found : state.site.memory.find? entity.id = some entity)
    (clock : (fleet name).world.now state.site.surroundings = now)
    (selected : entity ∈ state.selection fleet name) :
    ∃ place, (fleet.step state (.poll name)).OnCourse fleet name now entity place [] [] := by
  obtain ⟨place, chosen⟩ := List.getElem?_of_mem selected
  refine ⟨place, tidy.kept (fleet.change_step state (.poll name)), ?_, .selected entity, entity, ?_,
    ?_, .selected ?_, nofun⟩
  · intro number subject elsewhere about
    unfold State.subject? at about
    rw [attempt?_step_poll idle] at about
    obtain ⟨candidate, there, isSubject⟩ := Option.bind_eq_some_iff.mp about
    obtain ⟨_, chosenToo, rfl⟩ := Option.map_eq_some_iff.mp there
    cases isSubject
    exact fun same => elsewhere (congrArg some (Memory.place_eq_of_id
      (state.site.memory.nodup_query _) chosenToo chosen same))
  · rw [attempt?_step_poll idle, chosen]
    rfl
  · rw [step_poll idle]
    exact found
  · unfold State.selection at selected
    rw [clock] at selected
    exact ((fleet name).isReady_of_selected now selected).handled

/-- An entity that is not selected is spared by the poll. -/
theorem State.Spares.poll (idle : state.isIdle name = true)
    (found : state.site.memory.find? entity.id = some entity)
    (left : entity ∉ state.selection fleet name) :
    (fleet.step state (.poll name)).Spares name entity.id none := by
  intro number subject _ about
  unfold State.subject? at about
  rw [attempt?_step_poll idle] at about
  obtain ⟨candidate, there, isSubject⟩ := Option.bind_eq_some_iff.mp about
  obtain ⟨_, chosen, rfl⟩ := Option.map_eq_some_iff.mp there
  cases isSubject
  intro same
  have stored := (mem_query_criteria (List.mem_of_getElem? chosen)).1
  rw [same, found] at stored
  obtain rfl := Option.some.inj stored
  exact left (List.mem_of_getElem? chosen)

end Fleet

/-! ### Whole polls -/

/-- A poll of a member at an instant, with what happens before and after it. -/
structure Cycle (ι ε S P : Type) where
  now : Instant
  /-- What happens since the last poll of the member was over. -/
  before : List (Fleet.Action ι ε S P)
  /-- What happens until this poll is over. -/
  after : List (Fleet.Action ι ε S P)

namespace Cycle

variable [DecidableEq ι] (fleet : Fleet ι ε S P Call Response) (name : ι) (id : String)
  (cycle : Cycle ι ε S P) (start : Fleet.State ι ε S P Call Response)

/-- All that happens. -/
def actions : List (Fleet.Action ι ε S P) := cycle.before ++ .poll name :: cycle.after

/-- When the member polls. -/
def opening : Fleet.State ι ε S P Call Response := fleet.run start cycle.before

/-- When the poll is over. -/
def closing : Fleet.State ι ε S P Call Response := fleet.run start (cycle.actions name)

/-- What the handlers of the member are given of an entity. -/
def given : List (Entity S P) := fleet.observe (fleet.given name id) start (cycle.actions name)

/-- What the handlers of the member reply about an entity. -/
def replies : List (Reply S P) :=
  fleet.observe (fleet.replied name id) start (cycle.actions name)

/-- A complete poll in which the clock of the member stands still. Nobody but the member writes an
entity, and the batch has room for the entity. -/
structure IsSolitary : Prop where
  waits : fleet.Along (fleet.IsAlone name id) start cycle.before
  idle : (cycle.opening fleet start).isIdle name = true
  clock : (fleet name).world.now (cycle.opening fleet start).site.surroundings = cycle.now
  room : ∀ stored, (cycle.opening fleet start).site.memory.find? id = some stored →
    (fleet name).HasRoom cycle.now (cycle.opening fleet start).site.memory stored
  works : fleet.Along (fun state action => fleet.IsAlone name id state action ∧
    fleet.IsFrozen name cycle.now state action)
      (fleet.step (cycle.opening fleet start) (.poll name)) cycle.after
  ends : (cycle.closing fleet name start).isIdle name = true

variable {fleet name id cycle start} {entity : Entity S P}

/-- When the member polls, nothing has happened to the entity. -/
theorem IsSolitary.opens (solitary : cycle.IsSolitary fleet name entity.id start)
    (tidy : start.Tidy fleet) (idle : start.isIdle name = true)
    (found : start.site.memory.find? entity.id = some entity) :
    (cycle.opening fleet start).Tidy fleet ∧
      (cycle.opening fleet start).site.memory.find? entity.id = some entity ∧
      (entity ∈ (cycle.opening fleet start).selection fleet name ↔
        (fleet name).isDueAt cycle.now entity = true) ∧
      fleet.observe (fleet.given name entity.id) start cycle.before = [] ∧
      fleet.observe (fleet.replied name entity.id) start cycle.before = [] := by
  obtain ⟨tidyOpening, _, foundOpening, givenNone, repliedNone⟩ :=
    Fleet.spared_run tidy (.of_isIdle idle) solitary.waits found
  refine ⟨tidyOpening, foundOpening, ?_, givenNone, repliedNone⟩
  unfold Fleet.State.selection
  rw [solitary.clock]
  exact (solitary.room entity foundOpening).mem_query_iff foundOpening name

theorem given_eq (before : fleet.observe (fleet.given name id) start cycle.before = []) :
    cycle.given fleet name id start = fleet.observe (fleet.given name id)
      (fleet.step (cycle.opening fleet start) (.poll name)) cycle.after := by
  unfold given actions
  rw [Fleet.observe_append, before]
  rfl

theorem replies_eq (before : fleet.observe (fleet.replied name id) start cycle.before = []) :
    cycle.replies fleet name id start = fleet.observe (fleet.replied name id)
      (fleet.step (cycle.opening fleet start) (.poll name)) cycle.after := by
  unfold replies actions
  rw [Fleet.observe_append, before]
  rfl

theorem closing_eq : cycle.closing fleet name start =
    fleet.run (fleet.step (cycle.opening fleet start) (.poll name)) cycle.after := by
  unfold closing actions
  rw [Fleet.run_append]
  rfl

/-- A poll leaves an entity alone that is not due. -/
theorem IsSolitary.rests (solitary : cycle.IsSolitary fleet name entity.id start)
    (tidy : start.Tidy fleet) (idle : start.isIdle name = true)
    (found : start.site.memory.find? entity.id = some entity)
    (early : (fleet name).isDueAt cycle.now entity = false) :
    cycle.given fleet name entity.id start = [] ∧ cycle.replies fleet name entity.id start = [] ∧
      (cycle.closing fleet name start).Tidy fleet ∧
      (cycle.closing fleet name start).site.memory.find? entity.id = some entity := by
  obtain ⟨tidyOpening, foundOpening, selects, givenNone, repliedNone⟩ :=
    solitary.opens tidy idle found
  have left : entity ∉ (cycle.opening fleet start).selection fleet name := by
    rw [selects, early]
    exact Bool.false_ne_true
  have foundPolled : (fleet.step (cycle.opening fleet start) (.poll name)).site.memory.find?
      entity.id = some entity := by
    rw [Fleet.step_poll solitary.idle]
    exact foundOpening
  obtain ⟨tidyLast, _, foundLast, givenLater, repliedLater⟩ :=
    Fleet.spared_run (tidyOpening.kept (fleet.change_step _ (.poll name)))
      (.poll solitary.idle foundOpening left) (solitary.works.imp And.left) foundPolled
  rw [given_eq givenNone, replies_eq repliedNone, closing_eq]
  exact ⟨givenLater, repliedLater, tidyLast, foundLast⟩

/-- **A poll settles an entity that is due.** Its handler is given the entity once, as it was leased,
and what it replies decides what is stored and what is reported. -/
theorem IsSolitary.settles (solitary : cycle.IsSolitary fleet name entity.id start)
    (tidy : start.Tidy fleet) (idle : start.isIdle name = true)
    (found : start.site.memory.find? entity.id = some entity)
    (notAsked : entity.cancelRequested = false)
    (due : (fleet name).isDueAt cycle.now entity = true) :
    ∃ reply, cycle.given fleet name entity.id start = [(fleet name).claimed cycle.now entity] ∧
      cycle.replies fleet name entity.id start = [reply] ∧
      (cycle.closing fleet name start).Tidy fleet ∧
      (cycle.closing fleet name start).site.memory.find? entity.id =
        some (entity.settle ((fleet name).settles entity reply) cycle.now) ∧
      (fleet name).reports cycle.now entity reply ∈
        (cycle.closing fleet name start).site.transitions := by
  obtain ⟨tidyOpening, foundOpening, selects, givenNone, repliedNone⟩ :=
    solitary.opens tidy idle found
  obtain ⟨_, free, _⟩ := Member.isDueAt_iff.mp due
  obtain ⟨place, begins⟩ := Fleet.State.OnCourse.start tidyOpening solitary.idle foundOpening
    solitary.clock (selects.mpr due)
  have last := Fleet.onCourse_run begins free notAsked solitary.works
  rw [← given_eq givenNone, ← replies_eq repliedNone, ← closing_eq] at last
  obtain ⟨attempt, stored, there, foundLast, course, reported⟩ := last.course
  have isOver := List.all_eq_true.mp solitary.ends attempt (List.mem_of_getElem? there)
  obtain ⟨reply, given, replies, rfl⟩ := course.settled isOver
  refine ⟨reply, given, replies, last.tidy, foundLast, reported isOver reply ?_⟩
  rw [replies]
  exact List.mem_singleton_self reply

/-- A poll that finds one entity, and selects it, is solitary if its work is. -/
theorem IsSolitary.of_single {chosen : Entity S P}
    (waits : fleet.Along (fleet.IsAlone name id) start cycle.before)
    (finished : (cycle.opening fleet start).isIdle name = true)
    (clock : (fleet name).world.now (cycle.opening fleet start).site.surroundings = cycle.now)
    (alone : (cycle.opening fleet start).site.memory.entities = [chosen])
    (selects : fleet.step (cycle.opening fleet start) (.poll name) =
      (cycle.opening fleet start).polled fleet name chosen)
    (works : fleet.Along (fun state action => fleet.IsAlone name id state action ∧
      fleet.IsFrozen name cycle.now state action)
        ((cycle.opening fleet start).polled fleet name chosen) cycle.after)
    (ends : (fleet.run ((cycle.opening fleet start).polled fleet name chosen) cycle.after).isIdle
      name = true) :
    cycle.IsSolitary fleet name id start where
  waits := waits
  idle := finished
  clock := clock
  room := by
    intro stored found earlier _ before
    have single : ∀ other ∈ (cycle.opening fleet start).site.memory.entities, other = chosen := by
      rw [alone]
      exact fun _ => List.mem_singleton.mp
    have none : earlier = [] := by
      refine List.eq_nil_iff_forall_not_mem.mpr fun other listed => ?_
      obtain ⟨stands, _, comes⟩ := before other listed
      rw [single other stands, single stored (List.mem_of_find?_eq_some found)] at comes
      rcases comes with less | ⟨_, less⟩
      · exact absurd less (Int.lt_irrefl _)
      · exact absurd less (String.lt_irrefl _)
    rw [none]
    exact Nat.pos_of_ne_zero (EngineConfig.batchSize_ne_zero (fleet name).sound)
  works := by
    rw [selects]
    exact works
  ends := by
    rw [closing_eq, selects]
    exact ends

/-! ### Several polls -/

variable (fleet name)

/-- The schedule of some polls. -/
def schedule (cycles : List (Cycle ι ε S P)) : List (Fleet.Action ι ε S P) :=
  cycles.flatMap (·.actions name)

/-- What all of some polls have where they begin. -/
def Throughout (holds : Fleet.State ι ε S P Call Response → Cycle ι ε S P → Prop) :
    Fleet.State ι ε S P Call Response → List (Cycle ι ε S P) → Prop
  | _, [] => True
  | start, cycle :: rest => holds start cycle ∧
      Throughout holds (cycle.closing fleet name start) rest

theorem observe_schedule_cons {α : Type}
    (sees : Fleet.State ι ε S P Call Response → Fleet.Action ι ε S P → List α)
    (start : Fleet.State ι ε S P Call Response) (cycle : Cycle ι ε S P)
    (rest : List (Cycle ι ε S P)) :
    fleet.observe sees start (schedule name (cycle :: rest)) =
      fleet.observe sees start (cycle.actions name) ++
        fleet.observe sees (cycle.closing fleet name start) (schedule name rest) :=
  fleet.observe_append sees start (cycle.actions name) (schedule name rest)

theorem run_schedule_cons (start : Fleet.State ι ε S P Call Response) (cycle : Cycle ι ε S P)
    (rest : List (Cycle ι ε S P)) :
    fleet.run start (schedule name (cycle :: rest)) =
      fleet.run (cycle.closing fleet name start) (schedule name rest) :=
  fleet.run_append start (cycle.actions name) (schedule name rest)

theorem throughout_concat
    {holds : Fleet.State ι ε S P Call Response → Cycle ι ε S P → Prop}
    {start : Fleet.State ι ε S P Call Response} {cycles : List (Cycle ι ε S P)}
    {last : Cycle ι ε S P} :
    Throughout fleet name holds start (cycles ++ [last]) ↔ Throughout fleet name holds start cycles ∧
      holds (fleet.run start (schedule name cycles)) last := by
  induction cycles generalizing start with
  | nil => exact ⟨fun both => ⟨trivial, both.1⟩, fun both => ⟨both.2, trivial⟩⟩
  | cons cycle rest ih =>
    rw [run_schedule_cons]
    exact (and_congr_right fun _ => ih).trans and_assoc.symm

end Cycle

end Leasehold
