/-
**The attempts of a poll in any order.**

In steady surroundings the attempts of one poll do not disturb each other. However their steps are
interleaved, and however many are made at the same time, all comes out as if they were made one
after the other.

* `Member.Stage`: how far an attempt is, with what is stored for its entity meanwhile;
* `Member.Leads`, `IsSteady.step_stage`: a step leads to a next stage, and changes no other entity;
* `Fleet.report`: the report of a poll, which counts the attempts as they end;
* `State.Interleaved`, `Interleaved.of_leads`, `Interleaved.proceed`, `interleaved_run`: what a schedule
  of steps keeps;
* `Fleet.inOrder`, `exists_inOrder`: the attempts made to their ends one after the other;
* `settles_of_isIdle`: all schedules that end all attempts come to the same.
-/

import Leasehold.Proofs.Fleet.Selection
import Leasehold.Proofs.Poll.Cycle
import Leasehold.Proofs.Poll.Handler
import Leasehold.Proofs.Poll.Hosting

set_option linter.unusedSectionVars false

namespace Leasehold

variable {ι ε X S P Call : Type} {Response : Call → Type} [DecidableEq S] [ProcessState S]

/-! ### Stores and reports -/

namespace Memory

variable {memory other : Memory S P}

theorem ids_put (memory : Memory S P) (entity : Entity S P) :
    (memory.put entity).entities.map (·.id) = memory.entities.map (·.id) := by
  refine map_id_map fun stored => ?_
  split
  · next same => exact same.symm
  · rfl

theorem eq_of_entities (same : memory.entities = other.entities) : memory = other := by
  cases memory
  cases other
  cases same
  rfl

/-- Stores with the same ids and the same look-ups are the same. -/
theorem eq_of_find? (ids : memory.entities.map (·.id) = other.entities.map (·.id))
    (finds : ∀ id, memory.find? id = other.find? id) : memory = other := by
  have length : memory.entities.length = other.entities.length := by
    simpa using congrArg List.length ids
  refine eq_of_entities (List.ext_getElem length fun place inside insideOther => ?_)
  have sameId : memory.entities[place].id = other.entities[place].id := by
    have there := congrArg (·[place]?) ids
    simpa [List.getElem?_eq_getElem inside, List.getElem?_eq_getElem insideOther] using there
  have found := find?_of_mem (List.getElem_mem inside)
  rw [finds, sameId, find?_of_mem (List.getElem_mem insideOther)] at found
  exact (Option.some.inj found).symm

/-- Putting back what is stored changes nothing. -/
theorem put_of_find? {entity : Entity S P} (found : memory.find? entity.id = some entity) :
    memory.put entity = memory := by
  refine eq_of_find? (ids_put memory entity) fun id => ?_
  by_cases same : id = entity.id
  · rw [same, find?_put_self found rfl, found]
  · exact find?_put_of_ne same

end Memory

/-- Endings may be counted in any order. -/
instance : RightCommutative CycleReport.record where
  right_comm report first second := by
    have outcomes : ∀ (one other : Outcome) (report : CycleReport),
        (report.record (.persisted one)).record (.persisted other) =
          (report.record (.persisted other)).record (.persisted one) := by
      intro one other report
      cases one <;> cases other <;> rfl
    cases first with
    | persisted one =>
      cases second with
      | persisted other => exact outcomes one other report
      | leaseConflict | leaseFailed | abandoned => cases one <;> rfl
    | leaseConflict | leaseFailed | abandoned =>
      cases second with
      | persisted other => cases other <;> rfl
      | leaseConflict | leaseFailed | abandoned => rfl

/-! ### Stages of an attempt -/

/-- The first attempt is what a step of the second one may lead to. -/
inductive Attempt.Nearer : Attempt S P Call Response → Attempt S P Call Response → Prop where
  | begins {candidate leased : Entity S P} {work : Work Call Response (Reply S P)} :
      Nearer (.working leased work) (.selected candidate)
  | cancels {candidate leased result : Entity S P} {outcome : Outcome} :
      Nearer (.persisting leased result outcome) (.selected candidate)
  | waits {leased : Entity S P} {millis : Nat} {work rest : Work Call Response (Reply S P)}
      (later : rest.Later work) : Nearer (.waiting millis leased rest) (.working leased work)
  | resumes {leased : Entity S P} {millis : Nat} {work : Work Call Response (Reply S P)} :
      Nearer (.working leased work) (.waiting millis leased work)
  | succeeds {leased : Entity S P} {work : Work Call Response (Reply S P)} {next : S} {payload : P}
      {now : Instant} : Nearer (.confirming leased next payload now) (.working leased work)
  | concludes {leased result : Entity S P} {work : Work Call Response (Reply S P)}
      {outcome : Outcome} : Nearer (.persisting leased result outcome) (.working leased work)
  | confirms {leased result : Entity S P} {next : S} {payload : P} {now : Instant}
      {outcome : Outcome} :
      Nearer (.persisting leased result outcome) (.confirming leased next payload now)
  | persists {leased result : Entity S P} {outcome : Outcome} {ending : Ending} :
      Nearer (.ended ending) (.persisting leased result outcome)

/-- An attempt does not go on for ever. -/
theorem Attempt.wellFounded_nearer :
    WellFounded (Nearer : Attempt S P Call Response → Attempt S P Call Response → Prop) := by
  have ended : ∀ ending, Acc Nearer (.ended ending : Attempt S P Call Response) :=
    fun ending => ⟨_, fun _ nearer => nomatch nearer⟩
  have persisting : ∀ leased result outcome,
      Acc Nearer (.persisting leased result outcome : Attempt S P Call Response) :=
    fun leased result outcome => ⟨_, fun _ nearer => by cases nearer; exact ended _⟩
  have confirming : ∀ leased next payload now,
      Acc Nearer (.confirming leased next payload now : Attempt S P Call Response) :=
    fun leased next payload now => ⟨_, fun _ nearer => by cases nearer; exact persisting _ _ _⟩
  have resumed : ∀ millis leased (work : Work Call Response (Reply S P)),
      Acc Nearer (.working leased work) → Acc Nearer (.waiting millis leased work) :=
    fun millis leased work acc => ⟨_, fun _ nearer => by cases nearer; exact acc⟩
  have working : ∀ leased (work : Work Call Response (Reply S P)),
      Acc Nearer (.working leased work) := by
    intro leased work
    induction work using Work.wellFounded_later.induction with
    | _ work ih =>
      refine ⟨_, fun next nearer => ?_⟩
      cases nearer with
      | waits later => exact resumed _ _ _ (ih _ later)
      | succeeds => exact confirming _ _ _ _
      | concludes => exact persisting _ _ _
  refine ⟨fun attempt => ?_⟩
  cases attempt with
  | selected candidate =>
    refine ⟨_, fun next nearer => ?_⟩
    cases nearer with
    | begins => exact working _ _
    | cancels => exact persisting _ _ _
  | working leased work => exact working leased work
  | waiting millis leased work => exact resumed _ _ _ (working leased work)
  | confirming leased next payload now => exact confirming _ _ _ _
  | persisting leased result outcome => exact persisting _ _ _
  | releasing leased => exact ⟨_, fun _ nearer => nomatch nearer⟩
  | ended ending => exact ended ending

namespace Member

variable (member : Member ε S P Call Response) (now : Instant) (shows : List X → ε → Prop)
  (reply : Entity S P → Reply S P)

/-- How far an attempt on an entity is, with what is stored for the entity meanwhile. -/
inductive Stage (entity : Entity S P) : Attempt S P Call Response → Entity S P → Prop where
  | selected (free : entity.isFreeAt now = true)
      (handled : ∃ handler, member.registry.handler? entity.state = some handler) :
      Stage entity (.selected entity) entity
  | working {work : Work Call Response (Reply S P)} (notAsked : entity.cancelRequested = false)
      (ends : work.EndsIn member.world (Calm shows) (· = reply (member.claimed now entity))) :
      Stage entity (.working (member.claimed now entity) work) (member.claimed now entity)
  | waiting (millis : Nat) {work : Work Call Response (Reply S P)}
      (notAsked : entity.cancelRequested = false)
      (ends : work.EndsIn member.world (Calm shows) (· = reply (member.claimed now entity))) :
      Stage entity (.waiting millis (member.claimed now entity) work) (member.claimed now entity)
  | confirming {next : S} {payload : P} (notAsked : entity.cancelRequested = false)
      (settles : member.settlement now reply entity = ⟨next, payload, 0, none, .success⟩) :
      Stage entity (.confirming (member.claimed now entity) next payload now)
        (member.claimed now entity)
  | persisting {settlement : Settlement S P}
      (settles : member.settlement now reply entity = settlement) :
      Stage entity
        (.persisting (member.claimed now entity)
          ((member.claimed now entity).resolve settlement now) settlement.outcome)
        (member.claimed now entity)
  | ended :
      Stage entity (.ended (.persisted (member.settlement now reply entity).outcome))
        (member.settled now reply entity)

variable {member now shows reply} {entity stored : Entity S P} {attempt : Attempt S P Call Response}

theorem Stage.id_eq (stage : member.Stage now shows reply entity attempt stored) :
    stored.id = entity.id := by
  cases stage <;> rfl

/-- What is stored in the end. -/
theorem Stage.settled (stage : member.Stage now shows reply entity attempt stored)
    (closed : attempt.isOver = true) :
    attempt = .ended (.persisted (member.settlement now reply entity).outcome) ∧
      stored = member.settled now reply entity := by
  cases stage with
  | ended => exact ⟨rfl, rfl⟩
  | selected _ _ | working _ _ | waiting _ _ _ | confirming _ _ | persisting _ => cases closed

/-- An attempt has come to a next stage, and changed no other entity. It was reported if it ended. -/
structure Leads (member : Member ε S P Call Response) (now : Instant) (shows : List X → ε → Prop)
    (reply : Entity S P → Reply S P) (entity : Entity S P) (attempt : Attempt S P Call Response)
    (site : Site ι ε S P) (next : Attempt S P Call Response) (after : Site ι ε S P)
    (later : Entity S P) : Prop where
  stage : member.Stage now shows reply entity next later
  nearer : next.Nearer attempt
  memory : after.memory = site.memory.put later
  calm : Calm shows after.surroundings
  transitions : after.transitions = site.transitions ++
    if next.isOver then [member.transition now reply entity] else []

section Steps

variable {name : ι} {site after : Site ι ε S P} {next : Attempt S P Call Response}
  {note : Entity S P → List X}

/-- A step before the end is not reported. -/
theorem Leads.of_pending {later : Entity S P}
    (stage : member.Stage now shows reply entity next later) (nearer : next.Nearer attempt)
    (pending : next.isOver = false) (memory : after.memory = site.memory.put later)
    (transitions : after.transitions = site.transitions) (calm : Calm shows after.surroundings) :
    member.Leads now shows reply entity attempt site next after later := by
  refine ⟨stage, nearer, memory, calm, ?_⟩
  rw [transitions, pending]
  exact (List.append_nil _).symm

/-- A step that only reads leaves the store as it is. -/
theorem Leads.of_looked (found : site.memory.find? entity.id = some stored)
    (stage : member.Stage now shows reply entity next stored) (nearer : next.Nearer attempt)
    (pending : next.isOver = false) (memory : after.memory = site.memory)
    (transitions : after.transitions = site.transitions) (calm : Calm shows after.surroundings) :
    member.Leads now shows reply entity attempt site next after stored := by
  refine .of_pending stage nearer pending ?_ transitions calm
  rw [memory]
  exact (Memory.put_of_find? (stage.id_eq ▸ found)).symm

/-- A handler at work comes to a call that takes time, or replies and is judged. -/
theorem IsSteady.step_stage_working (steady : member.IsSteady now shows note reply) (name : ι)
    {work : Work Call Response (Reply S P)} (notAsked : entity.cancelRequested = false)
    (ends : work.EndsIn member.world (Calm shows) (· = reply (member.claimed now entity)))
    (found : site.memory.find? entity.id = some (member.claimed now entity))
    (calm : Calm shows site.surroundings) :
    ∃ next after, (member.engine name).step member.world.onSite
          (.working (member.claimed now entity) work) site = (next, after) ∧
      member.Leads now shows reply entity (.working (member.claimed now entity) work) site next after
        (member.claimed now entity) := by
  obtain ⟨next, after, steps, extended, calmAfter, comes⟩ :=
    member.step_working name ends (fun entry ⟨notes, shown⟩ => ⟨notes, steady.logs entry shown⟩) calm
      (member.claimed now entity)
  have unreported := extended.transitions.trans (List.append_nil _)
  rcases comes with ⟨millis, rest, rfl, restEnds, later⟩ | ⟨answer, rfl, rfl⟩
  · exact ⟨_, after, steps, .of_looked found (.waiting millis notAsked restEnds) (.waits later) rfl
      extended.memory unreported calmAfter⟩
  · have ⟨_, shown⟩ := calmAfter
    rw [steady.clock shown] at steps
    rcases member.judge_claimed name now now notAsked (reply (member.claimed now entity)) with
      judged | ⟨next, payload, judged, settles⟩
    · rw [judged] at steps
      exact ⟨_, after, steps, .of_looked found (.persisting rfl) .concludes rfl extended.memory
        unreported calmAfter⟩
    · rw [judged] at steps
      exact ⟨_, after, steps, .of_looked found (.confirming notAsked settles) .succeeds rfl
        extended.memory unreported calmAfter⟩

/-- **A step of an attempt that nobody disturbs.** -/
theorem IsSteady.step_stage (steady : member.IsSteady now shows note reply) (name : ι)
    (stage : member.Stage now shows reply entity attempt stored)
    (found : site.memory.find? entity.id = some stored) (calm : Calm shows site.surroundings)
    (pending : attempt.isOver = false) :
    ∃ next after later,
      (member.engine name).step member.world.onSite attempt site = (next, after) ∧
        member.Leads now shows reply entity attempt site next after later := by
  have ⟨notes, shown⟩ := calm
  have reads : site.Reads shows site.memory site.transitions notes := ⟨rfl, rfl, shown⟩
  cases stage with
  | selected free handled =>
    cases asked : entity.cancelRequested with
    | true =>
      obtain ⟨after, steps, afterReads⟩ := steady.step_asked name reads found free asked
      exact ⟨_, after, _, steps, .of_pending (.persisting rfl) .cancels rfl afterReads.memory
        afterReads.transitions ⟨_, afterReads.shown⟩⟩
    | false =>
      obtain ⟨handler, handled⟩ := handled
      obtain ⟨after, steps, afterReads⟩ := steady.step_selected name reads found free asked handled
      have known : member.registry.handler? (member.claimed now entity).state = some handler :=
        handled
      have ends := (steady.handles known).endsIn steady.clock steady.logs
      exact ⟨_, after, _, steps, .of_pending (.working asked ends) .begins rfl afterReads.memory
        afterReads.transitions ⟨_, afterReads.shown⟩⟩
  | working notAsked ends =>
    obtain ⟨next, after, steps, leads⟩ := steady.step_stage_working name notAsked ends found calm
    exact ⟨next, after, _, steps, leads⟩
  | waiting millis notAsked ends =>
    exact ⟨_, site, _, rfl, .of_looked found (.working notAsked ends) .resumes rfl rfl rfl calm⟩
  | @confirming next payload notAsked settles =>
    obtain ⟨after, steps, afterReads⟩ :=
      steady.step_confirming name reads found notAsked next payload
    exact ⟨_, after, _, steps, .of_looked found (.persisting settles) .confirms rfl afterReads.memory
      afterReads.transitions ⟨_, afterReads.shown⟩⟩
  | persisting settles =>
    obtain ⟨after, steps, afterReads⟩ := steady.step_persisting name reads found _
    subst settles
    exact ⟨_, after, _, steps, .ended, .persists, afterReads.memory, ⟨_, afterReads.shown⟩,
      afterReads.transitions⟩
  | ended => cases pending

end Steps

end Member

/-! ### Schedules of one batch -/

/-- Surroundings may change, as long as they stay calm, and one member works on its batch. -/
def Fleet.Action.IsWorkOf (name : ι) (calm : ε → Prop) : Action ι ε S P → Prop
  | .pass surroundings => calm surroundings
  | .proceed other _ => other = name
  | .call _ | .poll _ | .stop _ => False

namespace Fleet

variable [DecidableEq ι] (fleet : Fleet ι ε S P Call Response) (name : ι)

/-! ### Reports -/

/-- The endings of the attempts of a member that an action brings about. -/
def ended (state : State ι ε S P Call Response) (action : Action ι ε S P) : List Ending :=
  match action with
  | .proceed _ number =>
    if (state.attempt? name number).any (·.isOver) then []
    else (((fleet.step state action).attempt? name number).bind (·.ending?)).toList
  | .pass _ | .call _ | .poll _ | .stop _ => []

/-- The endings of the attempts of a member, as a schedule brings them about. -/
abbrev endings (state : State ι ε S P Call Response) (actions : List (Action ι ε S P)) :
    List Ending :=
  fleet.observe (fleet.ended name) state actions

/-- The report of a poll that comes before a schedule. It counts the attempts as they end. -/
def report (state : State ι ε S P Call Response) (actions : List (Action ι ε S P)) : CycleReport :=
  (fleet.endings name (fleet.step state (.poll name)) actions).foldl .record
    { selected := (state.selection fleet name).length }

/-! ### What a schedule keeps -/

/-- The attempts on a selection, in the midst of a schedule. The attempts on the finished entities
are over, and were reported in this order. -/
structure State.Interleaved (now : Instant) (shows : List X → ε → Prop)
    (reply : Entity S P → Reply S P) (before : Site ι ε S P) (selection finished : List (Entity S P))
    (state : State ι ε S P Call Response) : Prop where
  calm : Calm shows state.site.surroundings
  ids : state.site.memory.entities.map (·.id) = before.memory.entities.map (·.id)
  others : ∀ id, id ∉ selection.map (·.id) →
    state.site.memory.find? id = before.memory.find? id
  length : (state.batches name).length = selection.length
  staged : ∀ {place : Nat} {entity : Entity S P}, selection[place]? = some entity →
    ∃ attempt stored, state.attempt? name place = some attempt ∧
      state.site.memory.find? entity.id = some stored ∧
      (fleet name).Stage now shows reply entity
        attempt stored ∧
      (attempt.isOver = true ↔ entity ∈ finished)
  part : ∀ entity ∈ finished, entity ∈ selection
  once : finished.Nodup
  transitions : state.site.transitions =
    before.transitions ++ finished.map ((fleet name).transition now reply)

variable {fleet name} {now : Instant} {shows : List X → ε → Prop} {note : Entity S P → List X}
  {reply : Entity S P → Reply S P} {before : Site ι ε S P} {selection finished : List (Entity S P)}
  {state : State ι ε S P Call Response}

/-- A step brings about the ending of its attempt. -/
theorem ended_proceed {place : Nat} {attempt next : Attempt S P Call Response}
    {after : Site ι ε S P} (there : state.attempt? name place = some attempt)
    (pending : attempt.isOver = false)
    (steps : ((fleet name).engine name).step (fleet name).world.onSite attempt state.site =
      (next, after)) :
    fleet.ended name state (.proceed name place) = next.ending?.toList := by
  have later : (fleet.step state (.proceed name place)).attempt? name place = some next := by
    rw [step_proceed there steps, State.attempt?_proceed there, if_pos ⟨rfl, rfl⟩]
  simp only [ended, there, later, Option.any_some, pending, Bool.false_eq_true, if_false,
    Option.bind_some]

/-- With an attempt in the place where it is, the state is the same. -/
theorem State.set_attempt {number : Nat} {attempt : Attempt S P Call Response}
    (there : state.attempt? name number = some attempt) :
    State.mk state.site (Function.update state.batches name
      ((state.batches name).set number attempt)) = state := by
  have same := List.set_getElem_self (List.getElem?_eq_some_iff.mp there).1
  rw [(List.getElem?_eq_some_iff.mp there).2] at same
  rw [same, Function.update_eq_self]

/-- Where no attempt goes on, nothing happens. -/
theorem rests_of_over {place : Nat}
    (closed : ∀ attempt, state.attempt? name place = some attempt → attempt.isOver = true) :
    fleet.step state (.proceed name place) = state ∧
      fleet.ended name state (.proceed name place) = [] := by
  cases there : state.attempt? name place with
  | none =>
    simp only [ended, step_proceed_of_none there, there, Option.any_none, Bool.false_eq_true,
      if_false, Option.bind_none, Option.toList_none, and_self]
  | some attempt =>
    have isOver := closed attempt there
    have rests : fleet.step state (.proceed name place) = state := by
      cases attempt with
      | ended ending => exact (step_proceed there rfl).trans (State.set_attempt there)
      | _ => cases isOver
    simp only [ended, rests, there, Option.any_some, isOver, if_true, and_self]

/-- The attempt in one place has come to a next stage. If it ended, its entity is finished. -/
theorem State.Interleaved.of_leads
    (inside : state.Interleaved fleet name now shows reply before selection finished)
    (distinct : (selection.map (·.id)).Nodup) {place : Nat} {entity stored later : Entity S P}
    {attempt next : Attempt S P Call Response} {after : Site ι ε S P}
    (chosen : selection[place]? = some entity) (there : state.attempt? name place = some attempt)
    (found : state.site.memory.find? entity.id = some stored) (same : stored.id = entity.id)
    (unfinished : entity ∉ finished)
    (leads : (fleet name).Leads now shows reply entity attempt state.site next after later) :
    State.Interleaved fleet name now shows reply before selection
      (finished ++ if next.isOver then [entity] else [])
      ⟨after, Function.update state.batches name ((state.batches name).set place next)⟩ := by
  obtain ⟨nextStage, _, memory, calm, reported⟩ := leads
  have listed : entity ∈ selection := List.mem_of_getElem? chosen
  have stays : ∀ {id}, id ≠ entity.id → after.memory.find? id = state.site.memory.find? id := by
    intro id apart
    rw [memory]
    exact Memory.find?_put_of_ne (nextStage.id_eq ▸ apart)
  have isNew : ∀ {some}, some ∈ (if next.isOver then [entity] else []) ↔
      next.isOver = true ∧ some = entity := by
    intro some
    cases next.isOver <;> simp
  refine ⟨calm, ?_, ?_, ?_, ?_, ?_, ?_, ?_⟩
  · rw [memory, Memory.ids_put]
    exact inside.ids
  · intro id apart
    have other : id ≠ entity.id := by
      rintro rfl
      exact apart (List.mem_map_of_mem listed)
    exact (stays other).trans (inside.others id apart)
  · dsimp only
    rw [Function.update_self, List.length_set]
    exact inside.length
  · intro other some otherChosen
    rw [State.attempt?_proceed there]
    by_cases here : other = place
    · subst here
      obtain rfl : entity = some := Option.some.inj (chosen.symm.trans otherChosen)
      rw [if_pos ⟨rfl, rfl⟩]
      refine ⟨next, later, rfl, ?_, nextStage, ?_⟩
      · rw [memory]
        exact Memory.find?_put_self found (nextStage.id_eq.trans same.symm)
      · rw [List.mem_append, isNew, or_iff_right unfinished, and_iff_left rfl]
    · rw [if_neg fun both => here both.2]
      obtain ⟨attempt, stored, there, found, stage, isFinished⟩ := inside.staged otherChosen
      have apart : some.id ≠ entity.id :=
        fun equal => here (Memory.place_eq_of_id distinct otherChosen chosen equal)
      refine ⟨attempt, stored, there, (stays apart).trans found, stage, ?_⟩
      rw [isFinished, List.mem_append, isNew, or_iff_left]
      rintro ⟨_, rfl⟩
      exact apart rfl
  · intro some member
    rcases List.mem_append.mp member with old | new
    · exact inside.part some old
    · exact (isNew.mp new).2 ▸ listed
  · refine inside.once.append (by split <;> simp) fun some old new => ?_
    exact unfinished ((isNew.mp new).2 ▸ old)
  · rw [reported, inside.transitions, List.append_assoc, List.map_append, apply_ite (List.map _)]
    rfl

/-- **One step of one attempt.** If the attempt ends, its entity is finished. -/
theorem State.Interleaved.exists_next
    (inside : state.Interleaved fleet name now shows reply before selection finished)
    (steady : (fleet name).IsSteady now shows note reply)
    (distinct : (selection.map (·.id)).Nodup) {place : Nat} {entity : Entity S P}
    {attempt : Attempt S P Call Response} (chosen : selection[place]? = some entity)
    (there : state.attempt? name place = some attempt) (pending : attempt.isOver = false) :
    ∃ next, next.Nearer attempt ∧
      (fleet.step state (.proceed name place)).attempt? name place = some next ∧
      let newly := if next.isOver then [entity] else []
      (fleet.step state (.proceed name place)).Interleaved fleet name now shows reply before selection
          (finished ++ newly) ∧
        fleet.ended name state (.proceed name place) =
          newly.map fun entity => .persisted ((fleet name).settlement now reply entity).outcome := by
  obtain ⟨same, stored, thereToo, found, stage, isFinished⟩ := inside.staged chosen
  obtain rfl : attempt = same := Option.some.inj (there.symm.trans thereToo)
  obtain ⟨next, after, later, steps, leads⟩ := steady.step_stage name stage found inside.calm pending
  have unfinished : entity ∉ finished := fun finish =>
    Bool.eq_false_iff.mp pending (isFinished.mpr finish)
  refine ⟨next, leads.nearer, ?_, ?_, ?_⟩
  · rw [step_proceed there steps, State.attempt?_proceed there, if_pos ⟨rfl, rfl⟩]
  · rw [step_proceed there steps]
    exact inside.of_leads distinct chosen there found stage.id_eq unfinished leads
  · rw [ended_proceed there pending steps]
    cases leads.stage <;> rfl

/-- Any step of the attempts. -/
theorem State.Interleaved.proceed
    (inside : state.Interleaved fleet name now shows reply before selection finished)
    (steady : (fleet name).IsSteady now shows note reply)
    (distinct : (selection.map (·.id)).Nodup) (place : Nat) :
    ∃ newly : List (Entity S P),
      (fleet.step state (.proceed name place)).Interleaved fleet name now shows reply before selection
        (finished ++ newly) ∧
      fleet.ended name state (.proceed name place) =
        newly.map fun entity => .persisted ((fleet name).settlement now reply entity).outcome := by
  by_cases pending : ∃ attempt, state.attempt? name place = some attempt ∧ attempt.isOver = false
  · obtain ⟨attempt, there, pending⟩ := pending
    have bounded : place < selection.length := by
      rw [← inside.length]
      exact (List.getElem?_eq_some_iff.mp there).1
    obtain ⟨next, _, _, insideNext, ends⟩ :=
      inside.exists_next steady distinct (List.getElem?_eq_getElem bounded) there pending
    exact ⟨_, insideNext, ends⟩
  · have closed : ∀ attempt, state.attempt? name place = some attempt → attempt.isOver = true :=
      fun attempt there => Bool.not_eq_false _ ▸ fun waits => pending ⟨attempt, there, waits⟩
    obtain ⟨rests, silent⟩ := rests_of_over closed
    rw [rests, silent]
    refine ⟨[], ?_, rfl⟩
    rw [List.append_nil]
    exact inside

/-- Steps of the attempts, in any order. -/
theorem interleaved_run (steady : (fleet name).IsSteady now shows note reply)
    (distinct : (selection.map (·.id)).Nodup) {actions : List (Action ι ε S P)}
    (work : ∀ action ∈ actions, action.IsWorkOf name (Calm shows))
    (inside : state.Interleaved fleet name now shows reply before selection finished) :
    ∃ newly : List (Entity S P),
      (fleet.run state actions).Interleaved fleet name now shows reply before selection
        (finished ++ newly) ∧
      fleet.endings name state actions =
        newly.map fun entity => .persisted ((fleet name).settlement now reply entity).outcome := by
  induction actions generalizing state finished with
  | nil =>
    refine ⟨[], ?_, rfl⟩
    rw [List.append_nil]
    exact inside
  | cons action rest ih =>
    obtain ⟨works, workRest⟩ := List.forall_mem_cons.mp work
    have made : ∃ newly : List (Entity S P),
        (fleet.step state action).Interleaved fleet name now shows reply before selection
          (finished ++ newly) ∧
        fleet.ended name state action = newly.map fun entity =>
          .persisted ((fleet name).settlement now reply entity).outcome := by
      cases action with
      | pass surroundings =>
        refine ⟨[], ?_, rfl⟩
        rw [List.append_nil]
        exact { inside with calm := works }
      | proceed other place =>
        obtain rfl : other = name := works
        exact inside.proceed steady distinct place
      | call _ | poll _ | stop _ => exact works.elim
    obtain ⟨first, insideNext, endsFirst⟩ := made
    obtain ⟨later, insideLast, endsLater⟩ := ih workRest insideNext
    refine ⟨first ++ later, ?_, ?_⟩
    · rw [← List.append_assoc]
      exact insideLast
    · rw [List.map_append, ← endsFirst, ← endsLater]
      rfl

/-! ### From the poll to the end of its batch -/

/-- What a member selected is ready, and no attempt is over. -/
theorem State.Interleaved.start (steady : (fleet name).IsSteady now shows note reply)
    (calm : Calm shows state.site.surroundings) (idle : state.isIdle name = true) :
    (fleet.step state (.poll name)).Interleaved fleet name now shows reply state.site
      (state.selection fleet name) [] := by
  obtain ⟨notes, shown⟩ := calm
  have ready : ∀ entity ∈ state.selection fleet name,
      (fleet name).IsReady now state.site.memory entity := by
    intro entity selected
    unfold State.selection at selected
    rw [steady.clock shown] at selected
    exact (fleet name).isReady_of_selected now selected
  rw [step_poll idle]
  refine ⟨⟨notes, steady.elapses shown⟩, rfl, fun _ _ => rfl, ?_, ?_, ?_, List.nodup_nil, ?_⟩
  · dsimp only
    rw [Function.update_self, List.length_map]
  · intro place entity chosen
    obtain ⟨found, free, handled⟩ := ready entity (List.mem_of_getElem? chosen)
    refine ⟨.selected entity, entity, ?_, found, .selected free handled, ?_⟩
    · rw [State.attempt?_poll, if_pos rfl, chosen, Option.map_some]
    · exact iff_of_false Bool.false_ne_true List.not_mem_nil
  · exact fun _ listed => absurd listed List.not_mem_nil
  · exact (List.append_nil _).symm

/-- A schedule that ended all attempts finished the whole selection, and settled it. -/
theorem State.Interleaved.settled
    (inside : state.Interleaved fleet name now shows reply before selection finished)
    (distinct : (selection.map (·.id)).Nodup)
    (stored : ∀ entity ∈ selection, before.memory.find? entity.id = some entity)
    (idle : state.isIdle name = true) :
    finished.Perm selection ∧
      state.site.memory = (fleet name).settleAll now reply before.memory selection := by
  have closed : ∀ {place attempt}, state.attempt? name place = some attempt →
      attempt.isOver = true := fun there => List.all_eq_true.mp idle _ (List.mem_of_getElem? there)
  constructor
  · refine (List.perm_ext_iff_of_nodup inside.once distinct.of_map).mpr fun entity => ?_
    refine ⟨inside.part entity, fun listed => ?_⟩
    obtain ⟨place, chosen⟩ := List.getElem?_of_mem listed
    obtain ⟨attempt, _, there, _, _, isFinished⟩ := inside.staged chosen
    exact isFinished.mp (closed there)
  · have settles := (fleet name).settleAll_entities now reply distinct stored
    have keeps : ∀ entity : Entity S P, (if entity.id ∈ selection.map (·.id) then
        (fleet name).settled now reply entity else entity).id = entity.id := by
      intro entity
      split <;> rfl
    have settled : (fleet name).settleAll now reply before.memory selection =
        before.memory.mapEntities _ keeps := Memory.eq_of_entities settles
    rw [settled]
    refine Memory.eq_of_find? ?_ fun id => ?_
    · rw [inside.ids]
      exact (Memory.map_id_map keeps).symm
    · rw [Memory.find?_mapEntities]
      by_cases chosen : id ∈ selection.map (·.id)
      · obtain ⟨entity, listed, rfl⟩ := List.mem_map.mp chosen
        obtain ⟨place, chosenAt⟩ := List.getElem?_of_mem listed
        obtain ⟨_, _, there, found, stage, _⟩ := inside.staged chosenAt
        obtain ⟨_, rfl⟩ := stage.settled (closed there)
        rw [found, stored entity listed, Option.map_some, if_pos chosen]
      · rw [inside.others id chosen]
        cases found : before.memory.find? id with
        | none => rfl
        | some entity =>
          rw [← Memory.id_of_find? found] at chosen
          rw [Option.map_some, if_neg chosen]

/-! ### One attempt after the other -/

/-- The attempts of a member make their steps one after the other, each so many as are counted. -/
def inOrder (name : ι) (counts : List Nat) : List (Action ι ε S P) :=
  counts.zipIdx.flatMap fun (count, place) => List.replicate count (.proceed name place)

theorem inOrder_concat (name : ι) (counts : List Nat) (count : Nat) :
    (inOrder name (counts ++ [count]) : List (Action ι ε S P)) =
      inOrder name counts ++ List.replicate count (.proceed name counts.length) := by
  unfold inOrder
  rw [List.zipIdx_append, List.flatMap_append]
  simp

theorem isWorkOf_inOrder (name : ι) (calm : ε → Prop) (counts : List Nat) :
    ∀ action ∈ (inOrder name counts : List (Action ι ε S P)), action.IsWorkOf name calm := by
  intro action listed
  obtain ⟨_, _, made⟩ := List.mem_flatMap.mp listed
  rw [List.eq_of_mem_replicate made]
  rfl

/-- An attempt comes to its end, whatever the others did so far. -/
theorem State.Interleaved.exists_count
    (inside : state.Interleaved fleet name now shows reply before selection finished)
    (steady : (fleet name).IsSteady now shows note reply)
    (distinct : (selection.map (·.id)).Nodup) {place : Nat} {entity : Entity S P}
    {attempt : Attempt S P Call Response} (chosen : selection[place]? = some entity)
    (there : state.attempt? name place = some attempt) (pending : attempt.isOver = false) :
    ∃ count, (fleet.run state (List.replicate count (.proceed name place))).Interleaved fleet name now
      shows reply before selection (finished ++ [entity]) := by
  induction Attempt.wellFounded_nearer.apply attempt generalizing state with
  | intro attempt _ ih =>
    obtain ⟨next, nearer, thereNext, insideNext, _⟩ :=
      inside.exists_next steady distinct chosen there pending
    cases closed : next.isOver with
    | true =>
      rw [closed, if_pos rfl] at insideNext
      exact ⟨1, insideNext⟩
    | false =>
      rw [closed, if_neg Bool.false_ne_true, List.append_nil] at insideNext
      obtain ⟨count, ends⟩ := ih next nearer insideNext thereNext closed
      exact ⟨count + 1, ends⟩

/-- **The attempts come to their ends one after the other.** -/
theorem State.Interleaved.exists_inOrder
    (inside : state.Interleaved fleet name now shows reply before selection [])
    (steady : (fleet name).IsSteady now shows note reply)
    (distinct : (selection.map (·.id)).Nodup) {made : Nat} (some : made ≤ selection.length) :
    ∃ counts : List Nat, counts.length = made ∧
      (fleet.run state (inOrder name counts)).Interleaved fleet name now shows reply before selection
        (selection.take made) := by
  induction made with
  | zero => exact ⟨[], rfl, inside⟩
  | succ made ih =>
    obtain ⟨counts, length, insideSoFar⟩ := ih (by omega)
    have chosen := List.getElem?_eq_getElem (show made < selection.length by omega)
    have grows : selection.take (made + 1) = selection.take made ++ [selection[made]] :=
      (List.take_append_getElem (by omega)).symm
    obtain ⟨attempt, _, there, _, _, isFinished⟩ := insideSoFar.staged chosen
    have pending : attempt.isOver = false := by
      rw [Bool.eq_false_iff, ne_eq, isFinished]
      have once := distinct.of_map.sublist (List.take_sublist (made + 1) selection)
      rw [grows] at once
      exact fun earlier => List.disjoint_of_nodup_append once earlier (List.mem_singleton_self _)
    obtain ⟨count, ends⟩ := insideSoFar.exists_count steady distinct chosen there pending
    refine ⟨counts ++ [count], by rw [List.length_append, length, List.length_singleton], ?_⟩
    rw [inOrder_concat, run_append, length, grows]
    exact ends

/-- A schedule that finished the whole selection ended all attempts. -/
theorem State.Interleaved.isIdle
    (inside : state.Interleaved fleet name now shows reply before selection finished)
    (all : ∀ entity ∈ selection, entity ∈ finished) : state.isIdle name = true := by
  refine List.all_eq_true.mpr fun attempt listed => ?_
  obtain ⟨place, there⟩ := List.getElem?_of_mem listed
  have bounded : place < selection.length := by
    rw [← inside.length]
    exact (List.getElem?_eq_some_iff.mp there).1
  obtain ⟨same, _, thereToo, _, _, isFinished⟩ := inside.staged (List.getElem?_eq_getElem bounded)
  obtain rfl : attempt = same := Option.some.inj (there.symm.trans thereToo)
  exact isFinished.mpr (all _ (List.getElem_mem bounded))

/-! ### All schedules of a batch -/

/-- Whatever schedule ends all attempts on a selection, it settles every entity, counts every outcome
and reports every transition. -/
theorem settles_of_isIdle (steady : (fleet name).IsSteady now shows note reply)
    (calm : Calm shows state.site.surroundings) (idle : state.isIdle name = true)
    {actions : List (Action ι ε S P)}
    (work : ∀ action ∈ actions, action.IsWorkOf name (Calm shows))
    (closed : (fleet.run (fleet.step state (.poll name)) actions).isIdle name = true) :
    let last := fleet.run (fleet.step state (.poll name)) actions
    let selection := state.selection fleet name
    last.site.memory = (fleet name).settleAll now reply state.site.memory selection ∧
      fleet.report name state actions =
        (fleet name).recordAll now reply { selected := selection.length } selection ∧
      last.site.transitions.Perm
        (state.site.transitions ++ selection.map ((fleet name).transition now reply)) := by
  intro last selection
  have distinct : (selection.map (·.id)).Nodup := state.site.memory.nodup_query _
  have stored : ∀ entity ∈ selection, state.site.memory.find? entity.id = some entity :=
    fun entity chosen => (mem_query_criteria chosen).1
  obtain ⟨finished, inside, ends⟩ :=
    interleaved_run steady distinct work (State.Interleaved.start steady calm idle)
  rw [List.nil_append] at inside
  obtain ⟨same, memory⟩ := inside.settled distinct stored closed
  refine ⟨memory, ?_, ?_⟩
  · unfold report
    rw [ends, (same.map _).foldl_eq, List.foldl_map]
    rfl
  · rw [inside.transitions]
    exact (same.map _).append_left _

end Fleet

end Leasehold
