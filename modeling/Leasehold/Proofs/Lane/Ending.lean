/-
**How a run ends.**

A run polls again and again, also after polls that fail, until one of its looks at the signal finds
that it has to stop. After this look there is no poll any more: the lane gives up the leases of its
holder, once, and that is the end.

* `Memory.IsClearedOf`: what the release of all leases of a holder does to a store;
* `Engine.PollsOn`: whatever a poll comes to, the next one follows after a pause;
* `Engine.WindsUp`: what is left to a run that has seen that it has to stop;
* `Engine.EndsOnSignal`: when a run polls, when it ends, and what it does then;
* `Member.run_ends_on_signal`: every run is such, with others at work and failing operations.
-/

import Leasehold.Proofs.Lane.Progress
import Leasehold.Proofs.Poll.Ledger

set_option linter.unusedSectionVars false

namespace Leasehold

variable {σ S P Call : Type} {Response : Call → Type} [DecidableEq S] [ProcessState S]

/-! ### Giving up leases -/

namespace Memory

/-- A store from which a holder has gone: whatever the holder had leased has lost its lease, one
version later, and all else is as it was. -/
structure IsClearedOf (holder : String) (before after : Memory S P) (count : Nat) : Prop where
  entities : List.Forall₂ (fun old new =>
      if old.isLeasedBy holder then new = { old with lease := none, version := old.version + 1 }
      else new = old)
    before.entities after.entities
  unheld : ∀ entity ∈ after.entities, entity.isLeasedBy holder = false
  count : count = before.entities.countP (·.isLeasedBy holder)

/-- **The release of all leases** clears the store of their holder. -/
theorem isClearedOf_releaseAll (holder : String) (memory : Memory S P) :
    ∃ count after, Memory.run (.releaseAll holder) memory = (.ok count, after) ∧
      memory.IsClearedOf holder after count := by
  refine ⟨_, _, rfl, ?_, ?_, rfl⟩
  · refine List.forall₂_map_right_iff.mpr (List.forall₂_same.mpr fun entity _ => ?_)
    by_cases held : entity.isLeasedBy holder = true
    · rw [if_pos held, if_pos held]
      rfl
    · rw [if_neg held, if_neg held]
  · intro entity listed
    obtain ⟨old, _, rfl⟩ := List.mem_map.mp listed
    by_cases held : old.isLeasedBy holder = true
    · rw [if_pos held]
      rfl
    · rw [if_neg held]
      exact Bool.eq_false_iff.mpr held

end Memory

/-! ### One move -/

theorem Lane.stopTime?_of_isAtWork {phase : Phase S P Call Response}
    (atWork : phase.isAtWork = true) (number : Nat) (signal : Signal) :
    ({ number, phase, signal } : Lane S P Call Response).stopTime? = none := by
  cases phase with
  | stopped time => cases atWork
  | fresh | checking | polling _ | pausing _ | stopping => rfl

namespace Engine

variable {engine : Engine σ S P Call Response} {world : World σ Call Response}
  {notes : σ → List (Occurrence S P)} {lane next : Lane S P Call Response} {now : Nat}
  {more : List (Occurrence S P)}

/-- What is left to a lane that has seen that it has to stop, and what it records meanwhile: it is
about to give up its leases, or it did, and is over. -/
def WindsUp (engine : Engine σ S P Call Response) (lane : Lane S P Call Response)
    (more : List (Occurrence S P)) : Prop :=
  (lane.phase = .stopping ∧ more = []) ∨
    ∃ time answer, lane.phase = .stopped time ∧ more = [.ran (.releaseAll engine.holder) answer]

/-- The leases were given up once if the run of a lane is over, and not before. -/
def ClearsOnce (lane : Lane S P Call Response) (more : List (Occurrence S P)) : Prop :=
  more.countP Occurrence.isClearance = if lane.stopTime?.isSome then 1 else 0

/-- A lane that has not polled, and will not, unless the signal is taken back before the lane has
seen it. -/
def Refrains (lane : Lane S P Call Response) (more : List (Occurrence S P)) : Prop :=
  (lane.phase.isEnding = true ∨
      lane.signal.raised = true ∧ (lane.phase = .fresh ∨ lane.phase = .checking)) ∧
    ∀ entry ∈ more, entry.isPoll = false

/-- A signal that goes on asking to stop changes nothing for who refrains from polls. -/
theorem Refrains.receive (refrains : Refrains lane more) {change : SignalChange}
    (kept : change ≠ .lower) : Refrains (lane.receive change) more := by
  refine ⟨refrains.1.imp_right fun ⟨raised, looks⟩ => ⟨?_, looks⟩, refrains.2⟩
  cases change with
  | raise => rfl
  | lower => exact absurd rfl kept
  | notify | close => exact raised

namespace Moves

variable (moves : engine.Moves now lane more next)

include moves

/-- A move on the sight of the signal begins to stop. -/
theorem of_seesStop (sees : lane.seesStop = true) : more = [] ∧ next.phase = .stopping := by
  cases moves with
  | heeds looks raised => exact ⟨rfl, rfl⟩
  | wakes rests => exact ⟨rfl, if_pos sees⟩
  | selects looks lowered _ _ =>
    rw [Lane.seesStop_of_checking looks, lowered] at sees
    cases sees
  | begins looks | works looks _ _ | closes looks _ | clears looks _ | rests looks =>
    unfold Lane.seesStop at sees
    rw [looks] at sees
    cases sees

/-- A lane that has seen that it has to stop does not poll any more. -/
theorem of_isEnding (ends : lane.phase.isEnding = true) :
    next.phase.isEnding = true ∧ ∀ entry ∈ more, entry.isPoll = false := by
  cases moves with
  | clears _ _ => exact ⟨rfl, List.forall_mem_singleton.mpr rfl⟩
  | rests _ => exact ⟨ends, List.forall_mem_nil _⟩
  | begins looks | heeds looks _ | selects looks _ _ _ | works looks _ _ | closes looks _
  | wakes looks =>
    rw [looks] at ends
    cases ends

/-- A lane that does not see that it has to stop polls. -/
theorem polls (looks : lane.phase = .checking) (blind : lane.seesStop = false) :
    ∃ instant answer, more = [.ran (.query (engine.criteria instant)) answer] ∧
      next = { lane with phase := engine.afterSelection now answer } := by
  cases moves with
  | selects _ _ instant answer => exact ⟨instant, answer, rfl, rfl⟩
  | heeds _ raised =>
    rw [Lane.seesStop_of_checking looks, raised] at blind
    cases blind
  | begins looks' | works looks' _ _ | closes looks' _ | wakes looks' | clears looks' _
  | rests looks' => cases looks.symm.trans looks'

/-- A pause that does not end with the signal to stop ends with the next poll. -/
theorem pauses (alert : lane.IsAlert) {time : Nat} (looks : lane.phase = .pausing time)
    (blind : lane.seesStop = false) :
    more = [] ∧ next.phase = .checking ∧ next.seesStop = false := by
  cases moves with
  | wakes _ =>
    have checks : (if lane.seesStop then .stopping else .checking : Phase S P Call Response) =
        .checking := if_neg (by simp [blind])
    refine ⟨rfl, checks, (Lane.seesStop_of_checking checks).trans ?_⟩
    rw [Lane.seesStop_of_pausing looks] at blind
    by_cases unseen : lane.signal.unseen = true
    · rwa [if_pos unseen] at blind
    · exact Bool.eq_false_iff.mpr fun raised => unseen (alert (by rw [looks]; rfl) raised)
  | begins looks' | heeds looks' _ | selects looks' _ _ _ | works looks' _ _ | closes looks' _
  | clears looks' _ | rests looks' => cases looks.symm.trans looks'

/-- A lane that is about to give up its leases does so. -/
theorem returns (looks : lane.phase = .stopping) : next.stopTime? = some now := by
  cases moves with
  | clears _ _ => rfl
  | begins looks' | heeds looks' _ | selects looks' _ _ _ | works looks' _ _ | closes looks' _
  | wakes looks' | rests looks' => cases looks.symm.trans looks'

/-- A lane that winds up goes on with this. -/
theorem windsUp {before : List (Occurrence S P)} (winds : engine.WindsUp lane before) :
    engine.WindsUp next (before ++ more) := by
  rcases winds with ⟨stopping, rfl⟩ | ⟨time, answer, stopped, rfl⟩
  · cases moves with
    | clears _ answer => exact .inr ⟨now, answer, rfl, rfl⟩
    | begins looks | heeds looks _ | selects looks _ _ _ | works looks _ _ | closes looks _
    | wakes looks | rests looks => cases stopping.symm.trans looks
  · cases moves with
    | rests _ => exact .inr ⟨time, answer, stopped, rfl⟩
    | begins looks | heeds looks _ | selects looks _ _ _ | works looks _ _ | closes looks _
    | wakes looks | clears looks _ => cases stopped.symm.trans looks

/-- Only the last move gives up the leases. -/
theorem clearsOnce {before : List (Occurrence S P)} (clears : ClearsOnce lane before) :
    ClearsOnce next (before ++ more) := by
  unfold ClearsOnce at clears ⊢
  rw [List.countP_append, clears]
  cases moves with
  | begins looks | heeds looks _ | closes looks _ =>
    unfold Lane.stopTime?
    rw [looks]
    rfl
  | selects looks _ _ answer =>
    rw [Lane.stopTime?_of_isAtWork (engine.isAtWork_afterSelection now answer)]
    unfold Lane.stopTime?
    rw [looks]
    rfl
  | works looks kinds _ =>
    have none : more.countP Occurrence.isClearance = 0 :=
      List.countP_eq_zero.mpr fun entry listed => by simp [(kinds entry listed).clearance]
    rw [none]
    unfold Lane.stopTime?
    rw [looks]
    rfl
  | wakes looks =>
    unfold Lane.stopTime?
    rw [looks]
    cases lane.seesStop <;> rfl
  | clears looks _ =>
    unfold Lane.stopTime?
    rw [looks]
    rfl
  | rests _ => rfl

/-- Who refrains from polls goes on with this. -/
theorem refrains {before : List (Occurrence S P)} (refrains : Refrains lane before) :
    Refrains next (before ++ more) := by
  obtain ⟨ends | ⟨raised, looks⟩, none⟩ := refrains
  · obtain ⟨ends', none'⟩ := moves.of_isEnding ends
    exact ⟨.inl ends', List.forall_mem_append.mpr ⟨none, none'⟩⟩
  · cases moves with
    | begins _ => exact ⟨.inr ⟨raised, .inr rfl⟩, by rwa [List.append_nil]⟩
    | heeds _ _ => exact ⟨.inl rfl, by rwa [List.append_nil]⟩
    | selects _ lowered _ _ => cases raised.symm.trans lowered
    | works looks' _ _ | closes looks' _ | wakes looks' | clears looks' _ | rests looks' =>
      rw [looks'] at looks
      rcases looks with looks | looks <;> cases looks

end Moves

/-! ### Schedules -/

/-- A pending poll takes place, whatever comes of it. With a selection its batch goes on until it is
over, and then the lane pauses, as it does after a poll without one. Every pause is followed by the
next poll, unless the lane sees that it has to stop. -/
structure PollsOn (engine : Engine σ S P Call Response) (world : World σ Call Response)
    (notes : σ → List (Occurrence S P)) (run : Lane S P Call Response × σ) : Prop where
  polls : run.1.phase = .checking → run.1.seesStop = false → ∀ now permits,
    let next := engine.act world run (.move now permits : LaneAction notes)
    ∃ instant answer,
      notes next.2 = notes run.2 ++ [.ran (.query (engine.criteria instant)) answer] ∧
        next.1 = { run.1 with phase := engine.afterSelection now answer }
  works : ∀ batch, run.1.phase = .polling batch → batch.isOver = false → ∀ now permits,
    let next := engine.act world run (.move now permits : LaneAction notes)
    ∃ later more, next.1 = { run.1 with phase := .polling later } ∧
      notes next.2 = notes run.2 ++ more ∧ ∀ entry ∈ more, entry.IsOfAttempt
  closes : ∀ batch, run.1.phase = .polling batch → batch.isOver = true → ∀ now permits,
    let next := engine.act world run (.move now permits : LaneAction notes)
    next.1 = { run.1 with phase := .pausing (now + engine.pauseMillis) } ∧
      notes next.2 = notes run.2
  pauses : ∀ time, run.1.phase = .pausing time → run.1.seesStop = false → ∀ now permits,
    (time ≤ now ∨ run.1.signal.unseen = true) →
      let next := engine.act world run (.move now permits : LaneAction notes)
      next.1.phase = .checking ∧ next.1.seesStop = false ∧ notes next.2 = notes run.2

/-- **How a run goes on, and how it ends.** -/
structure EndsOnSignal (engine : Engine σ S P Call Response) (world : World σ Call Response)
    (notes : σ → List (Occurrence S P)) (start : Lane S P Call Response × σ)
    (actions : List (LaneAction notes)) : Prop where
  /-- The run polls as long as it does not see that it has to stop. -/
  goesOn : engine.PollsOn world notes (engine.follow world start actions)
  /-- It ends only after it has seen this: the signal asked to stop, or nobody could give it. -/
  saw : (engine.follow world start actions).1.phase.isEnding = true →
    ∃ earlier now permits later, actions = earlier ++ .move now permits :: later ∧
      let before := (engine.follow world start earlier).1
      before.seesStop = true ∧ (before.signal.raised = true ∨ before.signal.closed = true)
  /-- Once it has seen this, it gives up its leases, and does nothing else. -/
  windsUp : ∀ earlier now permits later, actions = earlier ++ .move now permits :: later →
    (engine.follow world start earlier).1.seesStop = true →
      ∃ more, notes (engine.follow world start actions).2 =
          notes (engine.follow world start earlier).2 ++ more ∧
        engine.WindsUp (engine.follow world start actions).1 more
  /-- Its next move is then its last. -/
  returns : (engine.follow world start actions).1.phase = .stopping → ∀ now permits,
    (engine.act world (engine.follow world start actions)
      (.move now permits : LaneAction notes)).1.stopTime? = some now
  /-- The leases are given up once if the run is over, and never before. -/
  clears : ∃ more, notes (engine.follow world start actions).2 = notes start.2 ++ more ∧
    ClearsOnce (engine.follow world start actions).1 more
  /-- If the signal asks to stop from the start until the lane has seen it, there is no poll. -/
  heeds : start.1.signal.raised = true → ∀ earlier later, actions = earlier ++ later →
    .signal .lower ∉ earlier →
    (later = [] ∨ (engine.follow world start earlier).1.phase.isEnding = true) →
      ∃ more, notes (engine.follow world start actions).2 = notes start.2 ++ more ∧
        ∀ entry ∈ more, entry.isPoll = false

section Noted

variable (noted : engine.IsNoted world notes)

include noted

/-- A move that the lane makes, and its record. -/
theorem IsNoted.moves_act {run : Lane S P Call Response × σ} {now : Nat}
    (can : run.1.canMove now = true) (permits : Permits) :
    ∃ more, notes (engine.act world run (.move now permits : LaneAction notes)).2 =
        notes run.2 ++ more ∧
      engine.Moves now run.1 more
        (engine.act world run (.move now permits : LaneAction notes)).1 := by
  rw [engine.act_move world can]
  exact noted.moves_move now run.1 permits run.2

/-- Whoever is alert polls on. -/
theorem IsNoted.pollsOn {run : Lane S P Call Response × σ} (alert : run.1.IsAlert) :
    engine.PollsOn world notes run where
  polls looks blind now permits := by
    obtain ⟨more, recorded, moves⟩ := noted.moves_act (Lane.canMove_of_checking looks) permits
    obtain ⟨instant, answer, rfl, leads⟩ := moves.polls looks blind
    exact ⟨instant, answer, recorded, leads⟩
  works batch looks busy now permits := by
    by_cases can : run.1.canMove now = true
    · obtain ⟨more, recorded, kinds⟩ :=
        noted.adds_settle run.1.number now batch permits run.2
      rw [engine.act_move world can, engine.move_polling world now permits run.2 looks busy]
      exact ⟨_, more, rfl, recorded, kinds⟩
    · have same : run.1 = { run.1 with phase := .polling batch } := by rw [← looks]
      rw [engine.act_move_of_not world can]
      exact ⟨batch, [], same, (List.append_nil _).symm, List.forall_mem_nil _⟩
  closes batch looks isOver now permits := by
    have can : run.1.canMove now = true := by
      rw [Lane.canMove_of_polling looks, isOver, Bool.or_true]
    rw [engine.act_move world can, engine.move_isOver world now permits run.2 looks isOver]
    exact ⟨rfl, noted.endPoll now batch run.2⟩
  pauses time looks blind now permits due := by
    have can : run.1.canMove now = true := by
      rw [Lane.canMove_of_pausing looks]
      rcases due with due | unseen
      · simp [due]
      · simp [unseen]
    obtain ⟨more, recorded, moves⟩ := noted.moves_act can permits
    obtain ⟨rfl, checks, blind'⟩ := moves.pauses alert looks blind
    exact ⟨checks, blind', recorded.trans (List.append_nil _)⟩

/-- A run ends only after it has seen that it has to stop. -/
theorem IsNoted.exists_seesStop (start : Lane S P Call Response × σ)
    (goesOn : start.1.phase.isEnding = false) (actions : List (LaneAction notes))
    (ends : (engine.follow world start actions).1.phase.isEnding = true) :
    ∃ earlier now permits later, actions = earlier ++ .move now permits :: later ∧
      (engine.follow world start earlier).1.seesStop = true := by
  induction actions using List.reverseRecOn with
  | nil => cases goesOn.symm.trans ends
  | append_singleton actions action ih =>
    by_cases already : (engine.follow world start actions).1.phase.isEnding = true
    · obtain ⟨earlier, now, permits, later, rfl, sees⟩ := ih already
      exact ⟨earlier, now, permits, later ++ [action], by simp, sees⟩
    have goesOn := Bool.eq_false_iff.mpr already
    rw [follow_concat] at ends
    cases action with
    | move now permits =>
      refine ⟨actions, now, permits, [], rfl, ?_⟩
      by_cases can : (engine.follow world start actions).1.canMove now = true
      · obtain ⟨more, _, moves⟩ := noted.moves_act can permits
        exact moves.seesStop_of_ending goesOn ends
      · rw [engine.act_move_of_not world can] at ends
        exact absurd ends already
    | rouse now permits => exact absurd ((Lane.isEnding_rouse ..).symm.trans ends) already
    | pass _ | signal _ => exact absurd ends already

/-- **A run goes on until it sees that it has to stop**, and then gives up its leases, once. -/
theorem IsNoted.endsOnSignal (number : Nat) (signal : Signal) (state : σ)
    (actions : List (LaneAction notes)) :
    engine.EndsOnSignal world notes ({ number, signal }, state) actions where
  goesOn := by
    obtain ⟨_, _, alert⟩ := noted.follow_keeps (fun lane _ => lane.IsAlert)
      ({ number, signal }, state) actions (fun atWork => absurd atWork Bool.false_ne_true)
      (fun _ _ change _ alert => alert.receive change)
      (fun _ _ _ _ _ moves alert => moves.isAlert alert)
    exact noted.pollsOn alert
  saw ends := by
    obtain ⟨earlier, now, permits, later, split, sees⟩ := noted.exists_seesStop _ rfl actions ends
    exact ⟨earlier, now, permits, later, split, sees, Lane.asks_of_seesStop sees⟩
  windsUp := by
    rintro earlier now permits later rfl sees
    have can : (engine.follow world _ earlier).1.canMove now = true := Lane.canMove_of_seesStop sees
    obtain ⟨more, recorded, moves⟩ := noted.moves_act can permits
    obtain ⟨rfl, stops⟩ := moves.of_seesStop sees
    rw [follow_append]
    obtain ⟨more, recorded', winds⟩ := noted.follow_keeps engine.WindsUp _ later (.inl ⟨stops, rfl⟩)
      (fun _ _ _ _ winds => winds) (fun _ _ _ _ _ moves winds => moves.windsUp winds)
    refine ⟨more, recorded'.trans ?_, winds⟩
    rw [recorded, List.append_nil]
  returns stops now permits := by
    obtain ⟨_, _, moves⟩ := noted.moves_act (Lane.canMove_of_stopping stops) permits
    exact moves.returns stops
  clears := noted.follow_keeps ClearsOnce _ actions rfl (fun _ _ _ _ clears => clears)
    (fun _ _ _ _ _ moves clears => moves.clearsOnce clears)
  heeds := by
    rintro raised earlier later rfl kept saw
    obtain ⟨more, recorded, refrains⟩ := noted.follow_keeps Refrains ({ number, signal }, state)
      earlier ⟨.inr ⟨raised, .inl rfl⟩, List.forall_mem_nil _⟩
      (fun _ _ change listed refrains => refrains.receive fun lowers => kept (lowers ▸ listed))
      (fun _ _ _ _ _ moves refrains => moves.refrains refrains)
    rcases saw with rfl | saw
    · rw [List.append_nil]
      exact ⟨more, recorded, refrains.2⟩
    · rw [follow_append]
      obtain ⟨others, recorded', refrains'⟩ := noted.follow_keeps
        (fun lane more => lane.phase.isEnding = true ∧ ∀ entry ∈ more, entry.isPoll = false)
        (engine.follow world ({ number, signal }, state) earlier) later
        ⟨saw, List.forall_mem_nil _⟩ (fun _ _ _ _ ends => ends)
        (fun _ _ _ _ _ moves ends => ⟨(moves.of_isEnding ends.1).1,
          List.forall_mem_append.mpr ⟨ends.2, (moves.of_isEnding ends.1).2⟩⟩)
      refine ⟨more ++ others, ?_, List.forall_mem_append.mpr ⟨refrains.2, refrains'.2⟩⟩
      rw [recorded', recorded, List.append_assoc]

end Noted

end Engine

/-! ### Runs among others -/

namespace Member

variable {ε : Type} [Payload P] (member : Member ε S P Call Response) (meddling : Meddling ε S P)

/-- **A run ends only when it has to, and leaves no lease behind**, whatever others do to the store
and to the signal, whichever operations fail, and whenever the lane gets to move. It polls on, also
after polls that fail, until it sees that it has to stop; then it gives up its leases, once. From a
store in memory all leases of the holder are then gone, and nothing else is. A script of signals is
one such course of events. If nobody else uses its permits, a run with a script does get on: once it
is asked to stop for good it stops, and otherwise it polls as often as one likes. -/
theorem run_ends_on_signal (number : Nat) (signal : Signal) (ledger : Ledger ε S P) :
    let engine := member.ledgerEngine meddling
    let world := member.world.onLedger
    let start : Lane S P Call Response × Ledger ε S P := ({ number, signal }, ledger)
    (∀ actions : List (LaneAction Ledger.record),
      engine.EndsOnSignal world Ledger.record start actions ∧
        let run := engine.follow world start actions
        ∀ memory, run.1.phase = .stopping →
          meddling.fault? (.releaseAll member.holder) run.2 = none →
          meddling.leave (.releaseAll member.holder) run.2 = .memory memory →
            ∀ now permits, ∃ count after, memory.IsClearedOf member.holder after count ∧
              let last := engine.act world run (.move now permits : LaneAction Ledger.record)
              last.2.store = .memory after ∧
                last.2.record = run.2.record ++ [.ran (.releaseAll member.holder) (.ok count)]) ∧
      ∀ changes now permits,
        (∀ limit,
          let ran := engine.runScript world limit changes now { number, signal } permits ledger
          engine.Reaches world Ledger.record start (ran.1.1, ran.2)) ∧
        (permits.IsFree → engine.GetsOn world Ledger.record changes now permits start) := by
  intro engine world start
  have noted : engine.IsNoted world Ledger.record := member.isNoted_ledgerEngine meddling
  refine ⟨fun actions => ⟨noted.endsOnSignal number signal ledger actions, ?_⟩,
    fun changes now permits =>
      ⟨fun limit => noted.reaches_runScript limit changes now _ permits ledger,
        fun free => noted.getsOn changes now free number signal ledger⟩⟩
  intro run memory stops works left now permits
  obtain ⟨count, after, answers, cleared⟩ := Memory.isClearedOf_releaseAll member.holder memory
  refine ⟨count, after, cleared, ?_⟩
  have served : meddling.serve (.releaseAll member.holder) run.2 = (.ok count, .memory after) := by
    unfold Meddling.serve AnyStore.run
    rw [works, left]
    dsimp only
    rw [answers]
  have can : run.1.canMove now = true := Lane.canMove_of_stopping stops
  have released : engine.store (.releaseAll member.holder) run.2 =
      (.ok count, ⟨.memory after, member.elapse run.2.surroundings,
        run.2.record ++ [.ran (.releaseAll member.holder) (.ok count)]⟩) := by
    show Ledger.perform meddling member.elapse (.releaseAll member.holder) run.2 = _
    unfold Ledger.perform
    rw [served]
  have stopped : (engine.act world run (.move now permits : LaneAction Ledger.record)).2 =
      (world.log (engine.stopEntry (engine.store (.releaseAll member.holder) run.2).1)
        (engine.store (.releaseAll member.holder) run.2).2).2 := by
    rw [engine.act_move world can]
    unfold Engine.move
    rw [stops]
    rfl
  dsimp only
  rw [stopped, released]
  exact ⟨rfl, rfl⟩

/-! ### Two leased lists -/

section Lists

open Credential StatusList Fleet

/-- Nobody meddles. -/
def undisturbed : Meddling Instant StatusList.State Publication where
  leave _ ledger := ledger.store
  fault? _ _ := none

/-- A list that waits to be signed. -/
def dueList : Entity StatusList.State Publication := { unsigned with id := "third" }

/-- Two lists, leased by an engine and by its rival, and one that is due. -/
def leasedLists : Memory StatusList.State Publication :=
  ⟨[{ unsigned with lease := some ⟨"first", atMillis 5000⟩ },
    { unsigned with id := "other", lease := some ⟨"rival", atMillis 5000⟩ }, dueList], by decide⟩

/-- A publisher with busy partners, by itself. -/
abbrev lonely : Engine (Ledger Instant StatusList.State Publication) StatusList.State Publication
    Credential.Call Credential.Response := (busyPublishers "first").ledgerEngine undisturbed

/-- A poll leaves alone what is leased. -/
theorem query_leasedLists :
    leasedLists.query (lonely.criteria (atMillis 1000)) = [dueList] := by
  have due : leasedLists.entities.filter (lonely.criteria (atMillis 1000)).matchesEntity =
      [dueList] := by
    have free : (lonely.criteria (atMillis 1000)).matchesEntity dueList = true :=
      matches_criteria ⟨_, rfl⟩ rfl (by decide)
    have leased : ∀ list : Entity StatusList.State Publication,
        list.isLeasedAt (atMillis 1000) = true →
          ¬(lonely.criteria (atMillis 1000)).matchesEntity list = true := fun _ held matches_ =>
      Bool.false_ne_true ((matchesEntity_criteria_iff.mp matches_).2.1.symm.trans held)
    unfold leasedLists
    rw [List.filter_cons_of_neg (leased _ rfl), List.filter_cons_of_neg (leased _ rfl),
      List.filter_cons_of_pos free, List.filter_nil]
  unfold Memory.query Criteria.arrange pageOf
  rw [due, List.mergeSort_singleton]
  rfl

/-- The engine polls and works on the list that is due. In the pause after this the signal to stop is
given. The engine sees it, and gives up the list that it has kept. A script that gives the signal
stops the engine, too. -/
theorem run_ends_on_signal_leased :
    let world := (busyPublishers "first").world.onLedger
    let start : Lane StatusList.State Publication Credential.Call Credential.Response ×
      Ledger Instant StatusList.State Publication :=
        ({ number := 0 }, ⟨.memory leasedLists, atMillis 1000, []⟩)
    let run := lonely.follow world start ([.move 0 .unneeded, .move 0 .unneeded,
      .move 0 .unneeded, .move 0 .unneeded, .signal .raise, .move 1 .unneeded] :
        List (LaneAction Ledger.record))
    (run.1.phase = .stopping ∧ run.2.record.countP Occurrence.isPoll = 1 ∧
      ∃ memory count after, run.2.store = .memory memory ∧
        memory.IsClearedOf "first" after count ∧
        let last := lonely.act world run (.move 1 .unneeded : LaneAction Ledger.record)
        last.2.store = .memory after ∧
          last.2.record = run.2.record ++ [.ran (.releaseAll "first") (.ok count)]) ∧
      ∃ bound, ∀ limit, bound ≤ limit →
        (lonely.runScript world limit [(1, .raise)] 0 start.1 .unneeded
          start.2).1.1.stopTime?.isSome = true := by
  intro world start run
  let recorded : Ledger Instant StatusList.State Publication := { start.2 with
    record := [.ran (.query (lonely.criteria (atMillis 1000))) (.ok [dueList])] }
  let seated : Lane StatusList.State Publication Credential.Call Credential.Response :=
    { number := 0, phase := .polling (lonely.seatSelection [dueList]) }
  let rest : List (LaneAction (Ledger.record : Ledger Instant StatusList.State Publication → _)) :=
    [.move 0 .unneeded, .move 0 .unneeded, .signal .raise, .move 1 .unneeded]
  have answered : undisturbed.serve (.query (lonely.criteria (atMillis 1000))) start.2 =
      (.ok [dueList], start.2.store) := by
    show (Except.ok (leasedLists.query (lonely.criteria (atMillis 1000))), _) = _
    rw [query_leasedLists]
  have selects : lonely.select world start.2 = (.ok [dueList], recorded) := by
    show Ledger.perform undisturbed _ (.query (lonely.criteria (atMillis 1000))) start.2 = _
    unfold Ledger.perform
    rw [answered]
    rfl
  have polls : lonely.act world ({ number := 0, phase := .checking }, start.2)
      (.move 0 .unneeded : LaneAction Ledger.record) = (seated, recorded) := by
    have begun : (lonely.beginPoll world 0 start.2).2 = recorded := by
      unfold Engine.beginPoll
      rw [Engine.bind_apply, selects]
      rfl
    rw [lonely.act_move world rfl, lonely.move_polls world 0 .unneeded start.2 rfl rfl, selects,
      begun]
    rfl
  have same : run = lonely.follow world (seated, recorded) rest := by
    show lonely.follow world (lonely.act world _ _) rest = _
    rw [← polls]
    rfl
  have polled : run.2.record.countP Occurrence.isPoll = 1 := by
    rw [same]
    decide +kernel
  have seen : (match run.1.phase with | .stopping => true | _ => false) = true := by
    rw [same]
    decide +kernel
  have stops : run.1.phase = .stopping := by
    split at seen
    · assumption
    · cases seen
  have inMemory : (match run.2.store with | .memory _ => true | .table _ => false) = true := by
    rw [same]
    decide +kernel
  cases stored : run.2.store with
  | table rows =>
    rw [stored] at inMemory
    cases inMemory
  | memory memory =>
    obtain ⟨runs, scripted⟩ := (busyPublishers "first").run_ends_on_signal undisturbed 0 {} start.2
    obtain ⟨count, after, cleared, released⟩ := (runs _).2 memory stops rfl stored 1 .unneeded
    have free : Permits.unneeded.IsFree := ⟨⟨rfl, rfl⟩, nofun⟩
    exact ⟨⟨stops, polled, memory, count, after, rfl, cleared, released⟩,
      ((scripted [(1, .raise)] 0 .unneeded).2 free).stops (.inl rfl)⟩

end Lists

end Member

end Leasehold
