/-
**A lane that is left to itself gets on.**

Nobody else uses the permits of a lane, and nobody changes its signal. Then every poll comes to its
end, however long the handlers take, and after every pause the lane looks at the signal again. So a
run that is asked to stop does so, and a run that is not polls as often as one likes.

* `Phase.IsOrderly`, `Phase.IsReady`: the batch of a lane is in order, or has settled;
* `Lane.movesLeft`, `Engine.isOrderly_moves`: at one time a lane makes all its moves;
* `Engine.isReady_runLane`: a lane stays ready from one time to the next;
* `Engine.Attains`: from some limit of time on, a run has stopped, or has got somewhere;
* `attains_of_concludes`: a poll comes to its end, and the lane pauses;
* `attains_stop`, `attains_polls`: a lane that is asked to stop does so, and others poll again;
* `Engine.GetsOn`, `getsOn`: what becomes of a run with a script of signals.
-/

import Leasehold.Proofs.Lane.Schedule
import Leasehold.Proofs.Poll.Completion

set_option linter.unusedSectionVars false

namespace Leasehold

variable {σ S P Call : Type} {Response : Call → Type} [DecidableEq S] [ProcessState S]

/-! ### All moves at one time -/

namespace Phase

/-- The batch of a poll is in order, and nobody in it waits in vain; all permits are free if there
is no poll. -/
def IsOrderly (number now : Nat) (permits : Permits) : Phase S P Call Response → Prop
  | .polling batch =>
    batch.IsOrderly number now permits [] ∧ batch.IsAttended permits ∧ batch.paused = []
  | _ => permits.IsFree

/-- The batch of a poll has settled, at whatever time; all permits are free if there is no poll. -/
def IsReady (number : Nat) (permits : Permits) : Phase S P Call Response → Prop
  | .polling batch => ∃ now, batch.IsSettled number now permits
  | _ => permits.IsFree

/-- A bound on the moves at one time, with a bound on those of a pause that has just begun. -/
def movesLeft (pause now : Nat) : Phase S P Call Response → Nat
  | .fresh => pause + 4
  | .checking => pause + 3
  | .polling batch => pause + min 2 (batch.line.length + 1)
  | .pausing wakes => if wakes ≤ now then 6 else pause
  | .stopping => 1
  | .stopped _ => 0

end Phase

/-- A bound on the moves at the time at which a pause begins. A signal that was not seen yet ends
the pause, and may lead to another poll. -/
def Signal.movesLeft (signal : Signal) : Nat := if signal.unseen then 6 else 2

theorem Signal.two_le_movesLeft (signal : Signal) : 2 ≤ signal.movesLeft := by
  unfold movesLeft
  split <;> omega

theorem Signal.movesLeft_le_six (signal : Signal) : signal.movesLeft ≤ 6 := by
  unfold movesLeft
  split <;> omega

namespace Lane

/-- A bound on the moves at one time. -/
def movesLeft (lane : Lane S P Call Response) (now : Nat) : Nat :=
  lane.phase.movesLeft lane.signal.movesLeft now

theorem movesLeft_le (lane : Lane S P Call Response) (now : Nat) :
    lane.movesLeft now ≤ movesAtOnce := by
  have most := lane.signal.movesLeft_le_six
  unfold movesLeft movesAtOnce Phase.movesLeft
  split
  · omega
  · omega
  · omega
  · split <;> omega
  · omega
  · omega

/-- A pause that ends without the signal to stop was due, or the signal was not seen yet. -/
theorem five_lt_movesLeft {lane : Lane S P Call Response} {now time : Nat}
    (rests : lane.phase = .pausing time) (can : lane.canMove now = true)
    (blind : lane.seesStop = false) :
    5 < (Phase.pausing time : Phase S P Call Response).movesLeft lane.signal.movesLeft now := by
  show 5 < if time ≤ now then 6 else lane.signal.movesLeft
  rw [seesStop_of_pausing rests] at blind
  rw [canMove_of_pausing rests] at can
  split
  · omega
  · next early =>
    unfold Signal.movesLeft
    split
    · omega
    · next seen =>
      rw [if_neg seen] at blind
      simp [early, seen, blind] at can

end Lane

namespace Engine

variable (engine : Engine σ S P Call Response) (world : World σ Call Response)
  {lane : Lane S P Call Response} {batch : Batch S P Call Response} {now : Nat} {permits : Permits}

theorem pauseMillis_pos : 0 < engine.pauseMillis := Nat.le_max_left 1 _

/-- A pause that has just begun. -/
theorem movesLeft_pausing (pause : Nat) :
    (Phase.pausing (now + engine.pauseMillis) : Phase S P Call Response).movesLeft pause now =
      pause := by
  have begins := engine.pauseMillis_pos
  exact if_neg (by omega)

/-- A poll begins in order. -/
theorem isOrderly_afterSelection (free : permits.IsFree) (number : Nat)
    (answer : Except StoreError (List (Entity S P))) :
    (engine.afterSelection now answer).IsOrderly number now permits := by
  rcases answer with error | _ | ⟨candidate, rest⟩
  · exact free
  · exact free
  · have served := engine.canBeServed_seatSelection free (candidate :: rest) number now
    exact ⟨served.orderly, served.attended, rfl⟩

theorem movesLeft_afterSelection (pause : Nat) (answer : Except StoreError (List (Entity S P))) :
    (engine.afterSelection now answer).movesLeft pause now ≤ pause + 2 := by
  rcases answer with error | _ | ⟨candidate, rest⟩
  · exact Nat.le_trans (Nat.le_of_eq (engine.movesLeft_pausing pause)) (Nat.le_add_right pause 2)
  · exact Nat.le_trans (Nat.le_of_eq (engine.movesLeft_pausing pause)) (Nat.le_add_right pause 2)
  · exact Nat.add_le_add_left (Nat.min_le_left 2 _) pause

/-- All that can go on in an orderly batch goes on. -/
theorem isSettled_settle (orderly : batch.IsOrderly lane.number now permits [])
    (attended : batch.IsAttended permits) (state : σ) :
    let ran := engine.settle world lane.number now batch permits state
    ran.1.1.IsSettled lane.number now ran.1.2 :=
  (engine.isSettled_serveAll world ⟨orderly, attended, Batch.effort_le_servings orderly⟩ state).1

/-- **One move** leaves a lane in order, with fewer moves left. -/
theorem isOrderly_move (orderly : lane.phase.IsOrderly lane.number now permits)
    (can : lane.canMove now = true) (state : σ) :
    let moved := engine.move world now lane permits state
    moved.1.1.phase.IsOrderly moved.1.1.number now moved.1.2 ∧
      moved.1.1.movesLeft now < lane.movesLeft now := by
  intro moved
  rw [show lane.movesLeft now = lane.phase.movesLeft lane.signal.movesLeft now from rfl]
  cases looks : lane.phase with
  | fresh =>
    rw [looks] at orderly
    have goes : moved = _ := engine.move_fresh world now permits state looks
    rw [goes]
    exact ⟨orderly, Nat.lt_succ_self _⟩
  | checking =>
    rw [looks] at orderly
    cases sees : lane.seesStop with
    | true =>
      have goes : moved = _ := engine.move_heeds world now permits state looks sees
      rw [goes]
      refine ⟨orderly, ?_⟩
      show 1 < _ + 3
      omega
    | false =>
      have goes : moved = _ := engine.move_polls world now permits state looks sees
      rw [goes]
      exact ⟨engine.isOrderly_afterSelection orderly _ _,
        Nat.lt_succ_of_le (engine.movesLeft_afterSelection _ _)⟩
  | polling batch =>
    rw [looks] at orderly
    rw [Lane.canMove_of_polling looks] at can
    obtain ⟨placed, attended, _⟩ := orderly
    cases isOver : batch.isOver with
    | true =>
      have goes : moved = _ := engine.move_isOver world now permits state looks isOver
      rw [goes]
      refine ⟨placed.isFree_of_isOver attended isOver, ?_⟩
      show Phase.movesLeft lane.signal.movesLeft now _ < _ + min 2 (batch.line.length + 1)
      rw [engine.movesLeft_pausing]
      omega
    | false =>
      have goes : moved = _ := engine.move_polling world now permits state looks isOver
      have settled := engine.isSettled_settle world placed attended state
      have someone : 0 < batch.line.length := by
        refine List.length_pos_iff.mpr fun none => ?_
        rw [none, isOver] at can
        cases can
      rw [goes]
      refine ⟨⟨settled.orderly, settled.attended, settled.nonePaused⟩, ?_⟩
      show _ + min 2 (List.length _ + 1) < lane.signal.movesLeft + min 2 (batch.line.length + 1)
      rw [settled.noLine, List.length_nil]
      dsimp only
      omega
  | pausing time =>
    rw [looks] at orderly
    have goes : moved = _ := engine.move_pausing world now permits state looks
    rw [goes]
    cases sees : lane.seesStop with
    | true =>
      have least := lane.signal.two_le_movesLeft
      refine ⟨orderly.spend, ?_⟩
      show 1 < if time ≤ now then 6 else lane.signal.movesLeft
      split <;> omega
    | false => exact ⟨orderly.spend, Lane.five_lt_movesLeft looks can sees⟩
  | stopping =>
    rw [looks] at orderly
    have goes : moved = _ := engine.move_stopping world now permits state looks
    rw [goes]
    exact ⟨orderly, Nat.one_pos⟩
  | stopped time =>
    rw [Lane.canMove_of_stopped looks] at can
    cases can

/-- A lane that cannot move makes no moves. -/
theorem moves_of_not (cannot : lane.canMove now ≠ true) (count : Nat) (state : σ) :
    engine.moves world now count lane permits state = ((lane, permits), state) := by
  cases count with
  | zero => rfl
  | succ count =>
    unfold moves
    rw [if_neg cannot]
    rfl

/-- A lane that can move does so first. -/
theorem moves_succ (can : lane.canMove now = true) (count : Nat) (state : σ) :
    engine.moves world now (count + 1) lane permits state =
      let moved := engine.move world now lane permits state
      engine.moves world now count moved.1.1 moved.1.2 moved.2 := by
  rw [moves, if_pos can]
  rfl

/-- **All moves at one time** leave a lane in order, and then it cannot move any more. -/
theorem isOrderly_moves {count : Nat} (orderly : lane.phase.IsOrderly lane.number now permits)
    (enough : lane.movesLeft now ≤ count) (state : σ) :
    let moved := engine.moves world now count lane permits state
    moved.1.1.phase.IsOrderly moved.1.1.number now moved.1.2 ∧ moved.1.1.canMove now ≠ true := by
  induction count generalizing lane permits state with
  | zero =>
    refine ⟨orderly, fun can => ?_⟩
    have fewer := (engine.isOrderly_move world orderly can state).2
    omega
  | succ count ih =>
    by_cases can : lane.canMove now = true
    · obtain ⟨next, fewer⟩ := engine.isOrderly_move world orderly can state
      rw [engine.moves_succ world can]
      exact ih next (by omega) _
    · rw [engine.moves_of_not world can]
      exact ⟨orderly, can⟩

end Engine

/-! ### From one time to the next -/

namespace Lane

variable {lane : Lane S P Call Response} {batch : Batch S P Call Response} {now : Nat}
  {permits : Permits}

/-- A batch whose lane cannot move has settled. -/
theorem isSettled_of_canMove (orderly : lane.phase.IsOrderly lane.number now permits)
    (looks : lane.phase = .polling batch) (cannot : lane.canMove now ≠ true) :
    batch.IsSettled lane.number now permits ∧ batch.isOver = false := by
  rw [looks] at orderly
  obtain ⟨placed, attended, nonePaused⟩ := orderly
  rw [canMove_of_polling looks] at cannot
  obtain ⟨inLine, busy⟩ := Bool.or_eq_false_iff.mp (Bool.eq_false_iff.mpr cannot)
  have noLine : batch.line = [] := by simpa using inLine
  exact ⟨⟨placed, attended, noLine, nonePaused⟩, busy⟩

/-- A lane that cannot move is ready for the next time. -/
theorem isReady_of_isOrderly (orderly : lane.phase.IsOrderly lane.number now permits)
    (cannot : lane.canMove now ≠ true) : lane.phase.IsReady lane.number permits := by
  cases looks : lane.phase with
  | polling batch => exact ⟨now, (isSettled_of_canMove orderly looks cannot).1⟩
  | _ =>
    rw [looks] at orderly
    exact orderly

/-- At the next time the sleepers of a batch wake. -/
theorem rouse_polling (looks : lane.phase = .polling batch) (none : permits.granted = [])
    (now : Nat) :
    lane.rouse now permits = ({ lane with phase := .polling (batch.wake now) }, permits) := by
  have same : (batch.wake now).takeGrants lane.number permits = (batch.wake now, permits) :=
    Batch.takeGrants_of_nil none lane.number
  unfold rouse
  rw [looks]
  dsimp only
  rw [same]

/-- Time that passes changes nothing but a batch. -/
theorem setPhase_rouse (lane : Lane S P Call Response) (now : Nat) (permits : Permits)
    (phase : Phase S P Call Response) :
    ({ (lane.rouse now permits).1 with phase := phase } : Lane S P Call Response) =
      { lane with phase := phase } := by
  unfold rouse
  cases lane.phase <;> rfl

theorem IsAlert.rouse (alert : lane.IsAlert) (now : Nat) (permits : Permits) :
    (lane.rouse now permits).1.IsAlert := by
  unfold Lane.rouse
  cases looks : lane.phase with
  | polling batch => exact fun _ => alert (by rw [looks]; rfl)
  | _ => exact alert

/-- Nobody sleeps in a pause. -/
theorem rouse_pausing {time : Nat} (looks : lane.phase = .pausing time) (now : Nat) :
    lane.rouse now permits = (lane, permits) := by
  unfold rouse
  rw [looks]

/-- A lane that is ready is in order at the next time. -/
theorem isOrderly_rouse (ready : lane.phase.IsReady lane.number permits) (now : Nat) :
    let roused := lane.rouse now permits.refresh
    roused.1.phase.IsOrderly roused.1.number now roused.2 := by
  intro roused
  cases looks : lane.phase with
  | polling batch =>
    rw [looks] at ready
    obtain ⟨before, settled⟩ := ready
    have none : permits.refresh.granted = [] := settled.orderly.granted
    have wakes : roused = _ := rouse_polling looks none now
    rw [wakes]
    exact ⟨settled.orderly.wake settled.noLine settled.nonePaused now, settled.attended.wake now,
      settled.nonePaused⟩
  | _ =>
    have same : roused = (lane, permits.refresh) := by
      show lane.rouse now permits.refresh = _
      unfold rouse
      rw [looks]
    rw [looks] at ready
    rw [same, looks]
    exact ready.refresh

end Lane

namespace Engine

variable (engine : Engine σ S P Call Response) (world : World σ Call Response)
  {lane : Lane S P Call Response} {permits : Permits}

theorem isReady_settleLane (now : Nat) (ready : lane.phase.IsReady lane.number permits)
    (state : σ) :
    let ran := engine.settleLane world now lane permits state
    ran.1.1.phase.IsReady ran.1.1.number ran.1.2 := by
  obtain ⟨orderly, cannot⟩ := engine.isOrderly_moves world (Lane.isOrderly_rouse ready now)
    (Lane.movesLeft_le _ now) state
  exact Lane.isReady_of_isOrderly orderly cannot

/-- **A lane stays ready** from one time to the next. -/
theorem isReady_runLane (limit now : Nat) (ready : lane.phase.IsReady lane.number permits)
    (state : σ) :
    let ran := engine.runLane world limit now lane permits state
    ran.1.1.phase.IsReady ran.1.1.number ran.1.2 := by
  induction remains : limit - now using Nat.strongRecOn generalizing now lane permits state with
  | ind remaining ih =>
    unfold runLane
    split
    · next early =>
      have settled := engine.isReady_settleLane world now ready (world.tick now state).2
      rw [bind_apply, bind_apply]
      rcases moved : engine.settleLane world now lane permits (world.tick now state).2 with
        ⟨⟨later, left⟩, reached⟩
      rw [moved] at settled
      dsimp only
      cases later.nextWake? with
      | none => exact settled
      | some next => exact ih (limit - max next (now + 1)) (by omega) _ settled _ rfl
    · exact ready

/-! ### The rest of a run -/

/-- The rest of a run, with so many moves left at the present time. -/
def runOn (limit now count : Nat) (lane : Lane S P Call Response) (permits : Permits) :
    StateM σ (Lane S P Call Response × Permits) := do
  let (lane, permits) ← engine.moves world now count lane permits
  match lane.nextWake? with
  | none => return (lane, permits)
  | some next => engine.runLane world limit (max next (now + 1)) lane permits

theorem runLane_eq_runOn {limit now : Nat} (early : now < limit) (lane : Lane S P Call Response)
    (permits : Permits) (state : σ) :
    engine.runLane world limit now lane permits state =
      engine.runOn world limit now Lane.movesAtOnce (lane.rouse now permits.refresh).1
        (lane.rouse now permits.refresh).2 (world.tick now state).2 := by
  rw [runLane, dif_pos early]
  rfl

/-- From some limit of time on, a run has stopped as it was asked to, or has got somewhere. -/
def Attains (now : Nat) (lane : Lane S P Call Response) (permits : Permits) (state : σ)
    (goal : σ → Prop) : Prop :=
  ∃ bound, ∀ limit, bound ≤ limit → ∀ count, lane.movesLeft now ≤ count →
    let ran := engine.runOn world limit now count lane permits state
    ran.1.1.stopTime?.isSome = true ∧ lane.IsAsked ∨ goal ran.2

variable {engine world} {notes : σ → List (Occurrence S P)} {batch : Batch S P Call Response}
  {now : Nat} {state : σ} {goal : σ → Prop}

/-- A run that has stopped. -/
theorem Attains.of_stopped {time : Nat} (looks : lane.phase = .stopped time) :
    engine.Attains world now lane permits state goal := by
  refine ⟨0, fun limit _ count _ => .inl ⟨?_, .inl (by rw [looks]; rfl)⟩⟩
  have cannot : lane.canMove now ≠ true :=
    Bool.eq_false_iff.mp (Lane.canMove_of_stopped looks)
  have noneWakes : lane.nextWake? = none := by
    unfold Lane.nextWake? Lane.wakeTimes
    rw [looks]
    rfl
  unfold runOn
  rw [bind_apply, moves_of_not engine world cannot]
  dsimp only
  rw [noneWakes]
  show lane.stopTime?.isSome = true
  unfold Lane.stopTime?
  rw [looks]
  rfl

theorem Attains.mono {other : σ → Prop} (attains : engine.Attains world now lane permits state goal)
    (implies : ∀ after, goal after → other after) :
    engine.Attains world now lane permits state other := by
  obtain ⟨bound, gets⟩ := attains
  exact ⟨bound, fun limit long count enough => (gets limit long count enough).imp_right (implies _)⟩

section Noted

variable (noted : engine.IsNoted world notes)

include noted

theorem grows_runOn (limit now count : Nat) (lane : Lane S P Call Response) (permits : Permits)
    (state : σ) :
    notes state <+: notes (engine.runOn world limit now count lane permits state).2 := by
  have moved : engine.LeadsTo world notes (lane, state) _ :=
    leadsTo_moves now count lane permits state
  unfold runOn
  rw [bind_apply]
  rcases reached : engine.moves world now count lane permits state with ⟨⟨later, left⟩, after⟩
  rw [reached] at moved
  dsimp only
  cases later.nextWake? with
  | none => exact (noted.keeps_of_leadsTo moved).2.2
  | some next => exact (noted.keeps_of_leadsTo (moved.trans (noted.leadsTo_runLane ..))).2.2

/-- A lane that can move does so, and goes on from there. -/
theorem Attains.of_move (orderly : lane.phase.IsOrderly lane.number now permits)
    (can : lane.canMove now = true)
    (rest : let moved := engine.move world now lane permits state
      engine.Attains world now moved.1.1 moved.1.2 moved.2 goal) :
    engine.Attains world now lane permits state goal := by
  obtain ⟨bound, gets⟩ := rest
  refine ⟨bound, fun limit long count enough => ?_⟩
  have fewer := (engine.isOrderly_move world orderly can state).2
  obtain ⟨left, rfl⟩ := Nat.exists_eq_add_of_le' (Nat.lt_of_le_of_lt (Nat.zero_le _)
    (Nat.lt_of_lt_of_le fewer enough))
  obtain ⟨_, _, moves⟩ := noted.moves_move now lane permits state
  unfold runOn
  rw [bind_apply, moves_succ engine world can]
  exact (gets limit long left (by omega)).imp_left (And.imp_right moves.keeps.isAsked)

/-- A lane that cannot move waits for the next time, and goes on from there. -/
theorem Attains.of_wait {next : Nat} (cannot : lane.canMove now ≠ true)
    (wakes : lane.nextWake? = some next) (later : now < next)
    (rest : let roused := lane.rouse next permits.refresh
      engine.Attains world next roused.1 roused.2 (world.tick next state).2 goal) :
    engine.Attains world now lane permits state goal := by
  obtain ⟨bound, gets⟩ := rest
  refine ⟨max bound (next + 1), fun limit long count _ => ?_⟩
  obtain ⟨within, early⟩ := Nat.max_le.mp long
  have goesOn := gets limit within Lane.movesAtOnce (Lane.movesLeft_le _ next)
  unfold runOn
  rw [bind_apply, moves_of_not engine world cannot]
  dsimp only
  rw [wakes]
  dsimp only
  rw [Nat.max_eq_left (Nat.succ_le_of_lt later), runLane_eq_runOn engine world early]
  exact goesOn.imp_left (And.imp_right (lane.keeps_rouse next permits.refresh).isAsked)

/-- A lane that has seen that it has to stop gives up its leases, and is over. -/
theorem attains_of_stopping (free : permits.IsFree) (looks : lane.phase = .stopping) :
    engine.Attains world now lane permits state goal := by
  refine .of_move noted (by rw [looks]; exact free) (Lane.canMove_of_stopping looks) ?_
  rw [engine.move_stopping world now permits state looks]
  exact .of_stopped rfl

/-- A lane that sees that it has to stop does so. -/
theorem attains_of_seesStop (free : permits.IsFree) (sees : lane.seesStop = true) :
    engine.Attains world now lane permits state goal := by
  have can : lane.canMove now = true := Lane.canMove_of_seesStop sees
  cases looks : lane.phase with
  | checking =>
    refine .of_move noted (by rw [looks]; exact free) can ?_
    rw [engine.move_heeds world now permits state looks sees]
    exact attains_of_stopping noted free rfl
  | pausing time =>
    refine .of_move noted (by rw [looks]; exact free) can ?_
    rw [engine.move_pausing world now permits state looks, if_pos sees]
    exact attains_of_stopping noted free.spend rfl
  | fresh | polling _ | stopping | stopped _ =>
    unfold Lane.seesStop at sees
    rw [looks] at sees
    cases sees

/-! ### Every poll comes to its end -/

/-- **A poll comes to its end**, and the lane pauses. -/
theorem attains_of_concludes
    (concludes : engine.Concludes world lane.number now batch permits state)
    (pauses : ∀ last left after, left.IsFree → notes state <+: notes after →
      engine.Attains world last { lane with phase := .pausing (last + engine.pauseMillis) } left
        after goal) :
    engine.Attains world now { lane with phase := .polling batch } permits state goal := by
  induction concludes with
  | @ends now batch permits state settled noneWakes isOver =>
    have can : Lane.canMove { lane with phase := .polling batch } now = true :=
      Bool.or_eq_true_iff.mpr (.inr isOver)
    refine .of_move noted ⟨settled.orderly, settled.attended, settled.nonePaused⟩ can ?_
    rw [engine.move_isOver world now permits state rfl isOver]
    refine pauses now permits _ (settled.orderly.isFree_of_isOver settled.attended isOver) ?_
    rw [noted.endPoll]
  | @wakes now next batch later permits left state after settled wakes settles rest ih =>
    have busy : batch.isOver = false := Batch.isOver_of_nextWake? wakes
    have cannot : Lane.canMove { lane with phase := .polling batch } now ≠ true := by
      show (!batch.line.isEmpty || batch.isOver) ≠ true
      rw [settled.noLine, busy]
      exact Bool.false_ne_true
    obtain ⟨inTime, number, line, first, _⟩ := settled.orderly.wakes settled.noLine wakes
    refine .of_wait noted cannot wakes inTime ?_
    have none : permits.refresh.granted = [] := settled.orderly.granted
    rw [Lane.rouse_polling rfl none]
    have can : Lane.canMove { lane with phase := .polling (batch.wake next) } next = true := by
      show (!(batch.wake next).line.isEmpty || _) = true
      rw [first]
      rfl
    refine .of_move noted ⟨settled.orderly.wake settled.noLine settled.nonePaused next,
      settled.attended.wake next, settled.nonePaused⟩ can ?_
    have busyStill : (batch.wake next).isOver = false := busy
    rw [engine.move_polling world next _ _ rfl busyStill]
    dsimp only
    rw [settles]
    obtain ⟨more, recorded, _⟩ := noted.adds_settle lane.number next (batch.wake next)
      permits.refresh (world.tick next state).2
    rw [settles, noted.tick] at recorded
    exact ih fun last left after free grows =>
      pauses last left after free (List.IsPrefix.trans ⟨more, recorded.symm⟩ grows)

theorem attains_of_polling (orderly : (Phase.polling batch).IsOrderly lane.number now permits)
    (pauses : ∀ last left after, left.IsFree → notes state <+: notes after →
      engine.Attains world last { lane with phase := .pausing (last + engine.pauseMillis) } left
        after goal) :
    engine.Attains world now { lane with phase := .polling batch } permits state goal := by
  obtain ⟨placed, attended, nonePaused⟩ := orderly
  cases inLine : batch.line with
  | nil =>
    have settled : batch.IsSettled lane.number now permits := ⟨placed, attended, inLine, nonePaused⟩
    exact attains_of_concludes noted (engine.concludes_of_isSettled world settled state) pauses
  | cons number line =>
    have settled := engine.isSettled_settle world placed attended state
    have can : Lane.canMove { lane with phase := .polling batch } now = true := by
      show (!batch.line.isEmpty || _) = true
      rw [inLine]
      rfl
    obtain ⟨more, recorded, _⟩ := noted.adds_settle lane.number now batch permits state
    refine .of_move noted ⟨placed, attended, nonePaused⟩ can ?_
    rw [engine.move_polling world now permits state rfl (placed.isOver_of_line inLine)]
    exact attains_of_concludes noted (engine.concludes_of_isSettled world settled _)
      fun last left after free grows =>
        pauses last left after free (List.IsPrefix.trans ⟨more, recorded.symm⟩ grows)

/-- **A look at the signal that sees nothing is followed by a poll**, and then by a pause. -/
theorem attains_of_checking (looks : lane.phase = .checking) (blind : lane.seesStop = false)
    (free : permits.IsFree)
    (pauses : ∀ last left after, left.IsFree →
      (∃ instant answer, notes state ++ [.ran (.query (engine.criteria instant)) answer] <+:
        notes after) →
      engine.Attains world last { lane with phase := .pausing (last + engine.pauseMillis) } left
        after goal) :
    engine.Attains world now lane permits state goal := by
  have recorded := noted.beginPoll now state
  refine .of_move noted (by rw [looks]; exact free) (Lane.canMove_of_checking looks) ?_
  rw [engine.move_polls world now permits state looks blind]
  have orderly : (engine.afterSelection now (engine.select world state).1).IsOrderly lane.number now
    permits := engine.isOrderly_afterSelection free lane.number _
  generalize (engine.select world state).1 = answer at orderly recorded ⊢
  rcases answer with error | _ | ⟨candidate, rest⟩
  · exact pauses now permits _ free ⟨_, _, by rw [recorded]⟩
  · exact pauses now permits _ free ⟨_, _, by rw [recorded]⟩
  · exact attains_of_polling noted orderly fun last left after free grows =>
      pauses last left after free ⟨_, _, recorded ▸ grows⟩

/-- **Whatever a lane does, it comes to a pause or to its end.** -/
theorem attains_of_isOrderly (orderly : lane.phase.IsOrderly lane.number now permits)
    (alert : lane.IsAlert)
    (pauses : ∀ last wakes left after, left.IsFree → notes state <+: notes after →
      ({ lane with phase := .pausing wakes } : Lane S P Call Response).IsAlert →
      engine.Attains world last { lane with phase := .pausing wakes } left after goal) :
    engine.Attains world now lane permits state goal := by
  have looked : ∀ {lane : Lane S P Call Response} {state : σ}, lane.phase = .checking →
      permits.IsFree →
      (∀ last wakes left after, left.IsFree → notes state <+: notes after →
        ({ lane with phase := .pausing wakes } : Lane S P Call Response).IsAlert →
        engine.Attains world last { lane with phase := .pausing wakes } left after goal) →
      engine.Attains world now lane permits state goal := by
    intro lane state looks free pauses
    cases sees : lane.seesStop with
    | true => exact attains_of_seesStop noted free sees
    | false =>
      have lowered := (Lane.seesStop_of_checking looks).symm.trans sees
      refine attains_of_checking noted looks sees free fun last left after free ⟨_, _, grows⟩ => ?_
      exact pauses last _ left after free ((List.prefix_append _ _).trans grows)
        fun _ raised => absurd (lowered.symm.trans raised) Bool.false_ne_true
  cases looks : lane.phase with
  | fresh =>
    rw [looks] at orderly
    refine .of_move noted (by rw [looks]; exact orderly) (Lane.canMove_of_fresh looks) ?_
    rw [engine.move_fresh world now permits state looks]
    exact looked rfl orderly fun last wakes left after free grows =>
      pauses last wakes left after free (noted.log _ state ▸ grows)
  | checking =>
    rw [looks] at orderly
    exact looked looks orderly pauses
  | polling batch =>
    rw [looks] at orderly
    have same : lane = { lane with phase := .polling batch } := by rw [← looks]
    rw [same]
    exact attains_of_polling noted orderly fun last left after free grows =>
      pauses last _ left after free grows fun _ => alert (by rw [looks]; rfl)
  | pausing time =>
    rw [looks] at orderly
    have same : lane = { lane with phase := .pausing time } := by rw [← looks]
    rw [same]
    exact pauses now time permits state orderly List.prefix_rfl fun _ => alert (by rw [looks]; rfl)
  | stopping =>
    rw [looks] at orderly
    exact attains_of_stopping noted orderly looks
  | stopped time => exact .of_stopped looks

/-! ### What follows a pause -/

/-- **A lane that is asked to stop does so.** -/
theorem attains_stop {time : Nat} (looks : lane.phase = .pausing time) (free : permits.IsFree)
    (alert : lane.IsAlert) (asks : lane.signal.Asks) :
    engine.Attains world now lane permits state fun _ => False := by
  cases sees : lane.seesStop with
  | true => exact attains_of_seesStop noted free sees
  | false =>
    -- What the lane has not seen yet does not ask to stop, so nobody can give the signal any more.
    have blind := (Lane.seesStop_of_pausing looks).symm.trans sees
    have unseen : lane.signal.unseen = true := by
      by_contra seen
      rw [if_neg seen] at blind
      rcases asks with raised | closed
      · exact seen (alert (by rw [looks]; rfl) raised)
      · exact Bool.false_ne_true (blind.symm.trans closed)
    rw [if_pos unseen] at blind
    have closed : lane.signal.closed = true :=
      asks.resolve_left fun raised => Bool.false_ne_true (blind.symm.trans raised)
    have can : lane.canMove now = true := by
      rw [Lane.canMove_of_pausing looks, unseen]
      rfl
    refine .of_move noted (by rw [looks]; exact free) can ?_
    rw [engine.move_pausing world now permits state looks, sees]
    exact attains_of_checking noted rfl blind free.spend fun last left after free _ =>
      attains_of_seesStop noted free closed

/-- **A lane that is not asked to stop polls again and again.** -/
theorem attains_polls (count : Nat) {time : Nat} (looks : lane.phase = .pausing time)
    (free : permits.IsFree) :
    engine.Attains world now lane permits state fun after =>
      (notes state).countP Occurrence.isPoll + count ≤ (notes after).countP Occurrence.isPoll := by
  induction count generalizing now time lane permits state with
  | zero =>
    refine ⟨0, fun limit _ moves _ => .inr ?_⟩
    exact (grows_runOn noted limit now moves lane permits state).sublist.countP_le
  | succ count ih =>
    have goesOn : ∀ {now : Nat} {permits : Permits} {state : σ}, permits.IsFree →
        lane.canMove now = true → engine.Attains world now lane permits state fun after =>
          (notes state).countP Occurrence.isPoll + (count + 1) ≤
            (notes after).countP Occurrence.isPoll := by
      intro now permits state free can
      cases sees : lane.seesStop with
      | true => exact attains_of_seesStop noted free sees
      | false =>
        refine .of_move noted (by rw [looks]; exact free) can ?_
        rw [engine.move_pausing world now permits state looks, sees]
        dsimp only
        by_cases raised : lane.signal.raised = true
        · exact attains_of_seesStop noted free.spend raised
        · refine attains_of_checking noted rfl (Bool.eq_false_iff.mpr raised) free.spend ?_
          rintro last left after free ⟨instant, answer, grows⟩
          refine (ih rfl free).mono fun final polls => ?_
          have more := grows.sublist.countP_le (p := Occurrence.isPoll)
          rw [List.countP_append, noted.endPause] at more
          have one : List.countP Occurrence.isPoll
            [(.ran (.query (engine.criteria instant)) answer : Occurrence S P)] = 1 := rfl
          omega
    by_cases can : lane.canMove now = true
    · exact goesOn free can
    · have early : now < time := by
        refine Nat.lt_of_not_le fun due => can ?_
        rw [Lane.canMove_of_pausing looks]
        simp [due]
      have wakes : lane.nextWake? = some time := by
        unfold Lane.nextWake? Lane.wakeTimes
        rw [looks]
        rfl
      have due : lane.canMove time = true := by
        rw [Lane.canMove_of_pausing looks]
        simp
      refine .of_wait noted can wakes early ?_
      rw [Lane.rouse_pausing looks]
      exact (goesOn free.refresh due).mono fun after polls => noted.tick time state ▸ polls

/-! ### Runs with a script -/

/-- From some limit of time on, a lane that is ready has come to its end, or where its pauses
lead. -/
theorem exists_runLane (goal : σ → Prop) (ready : lane.phase.IsReady lane.number permits)
    (alert : lane.IsAlert)
    (pauses : ∀ last wakes left after, left.IsFree → notes state <+: notes after →
      ({ lane with phase := .pausing wakes } : Lane S P Call Response).IsAlert →
      engine.Attains world last { lane with phase := .pausing wakes } left after goal) (now : Nat) :
    ∃ bound, ∀ limit, bound ≤ limit →
      let ran := engine.runLane world limit now lane permits state
      ran.1.1.stopTime?.isSome = true ∧ lane.IsAsked ∨ goal ran.2 := by
  obtain ⟨bound, gets⟩ := attains_of_isOrderly noted (Lane.isOrderly_rouse ready now)
    (alert.rouse now permits.refresh) fun last wakes left after free grows alert => by
      rw [Lane.setPhase_rouse] at alert ⊢
      exact pauses last wakes left after free (noted.tick now state ▸ grows) alert
  refine ⟨max bound (now + 1), fun limit long => ?_⟩
  obtain ⟨within, early⟩ := Nat.max_le.mp long
  rw [runLane_eq_runOn engine world early]
  exact (gets limit within Lane.movesAtOnce (Lane.movesLeft_le _ now)).imp_left
    (And.imp_right (lane.keeps_rouse now permits.refresh).isAsked)

/-- A run with a script ends as it ends after the last change. -/
theorem exists_runScript (goal : σ → Prop) (changes : List (Nat × SignalChange)) (now : Nat)
    (ready : lane.phase.IsReady lane.number permits) (alert : lane.IsAlert)
    (ends : ∀ now (last : Lane S P Call Response) left after, last.phase.IsReady last.number left →
      last.IsAlert → last.signal.Agrees (lane.signal.after changes) → notes state <+: notes after →
      ∃ bound, ∀ limit, bound ≤ limit →
        let ran := engine.runLane world limit now last left after
        ran.1.1.stopTime?.isSome = true ∧ last.IsAsked ∨ goal ran.2) :
    ∃ bound, ∀ limit, bound ≤ limit →
      let ran := engine.runScript world limit changes now lane permits state
      ran.1.1.stopTime?.isSome = true ∧ (lane.phase.isEnding = true ∨
          ∃ earlier, earlier <+: changes ∧ (lane.signal.after earlier).Asks) ∨ goal ran.2 := by
  induction changes generalizing now lane permits state with
  | nil =>
    obtain ⟨bound, gets⟩ := ends now lane permits state ready alert ⟨rfl, rfl⟩ List.prefix_rfl
    refine ⟨bound, fun limit long => (gets limit long).imp_left (And.imp_right fun asked => ?_)⟩
    exact asked.imp_right fun asks => ⟨[], List.nil_prefix, asks⟩
  | cons first rest ih =>
    obtain ⟨time, change⟩ := first
    obtain ⟨keeps, alertStill, grows⟩ :=
      noted.keeps_of_leadsTo (noted.leadsTo_runLane time now lane permits state)
    let ran := engine.runLane world time now lane permits state
    let next := ran.1.1.receive change
    have readyNext : next.phase.IsReady next.number ran.1.2 :=
      engine.isReady_runLane world time now ready state
    have alertNext : next.IsAlert := (alertStill alert).receive change
    have agrees : next.signal.Agrees (lane.signal.apply change) := keeps.signal.apply change
    obtain ⟨bound, gets⟩ := ih time readyNext alertNext
      fun now last left after ready alert same growsToo => ends now last left after ready alert
        (same.trans (agrees.after rest)) (grows.trans growsToo)
    refine ⟨bound, fun limit long => ?_⟩
    unfold runScript
    rw [bind_apply]
    refine (gets limit long).imp_left (And.imp_right fun asked => ?_)
    rcases asked with ending | ⟨earlier, part, asks⟩
    · exact (keeps.asked ending).imp_right fun asks => ⟨[], List.nil_prefix, asks⟩
    · exact .inr ⟨(time, change) :: earlier, List.cons_prefix_cons.mpr ⟨rfl, part⟩,
        (agrees.after earlier).asks asks⟩

end Noted

/-- **What becomes of a run with a script of signals**, if nobody else uses its permits. If the
script leaves it asked to stop, it has stopped from some limit of time on. In any case it has then
polled as often as one likes, unless it has stopped after a part of the script that asked it to. -/
structure GetsOn (engine : Engine σ S P Call Response) (world : World σ Call Response)
    (notes : σ → List (Occurrence S P)) (changes : List (Nat × SignalChange)) (now : Nat)
    (permits : Permits) (start : Lane S P Call Response × σ) : Prop where
  stops : (start.1.signal.after changes).Asks → ∃ bound, ∀ limit, bound ≤ limit →
    (engine.runScript world limit changes now start.1 permits start.2).1.1.stopTime?.isSome = true
  polls : ∀ count, ∃ bound, ∀ limit, bound ≤ limit →
    let ran := engine.runScript world limit changes now start.1 permits start.2
    (ran.1.1.stopTime?.isSome = true ∧
        ∃ earlier, earlier <+: changes ∧ (start.1.signal.after earlier).Asks) ∨
      ∃ more, notes ran.2 = notes start.2 ++ more ∧ count ≤ more.countP Occurrence.isPoll

/-- **Every run gets on.** -/
theorem IsNoted.getsOn (noted : engine.IsNoted world notes) (changes : List (Nat × SignalChange))
    (now : Nat) (free : permits.IsFree) (number : Nat) (signal : Signal) (state : σ) :
    engine.GetsOn world notes changes now permits ({ number, signal }, state) := by
  let fresh : Lane S P Call Response := { number, signal }
  have ready : fresh.phase.IsReady fresh.number permits := free
  have alert : fresh.IsAlert := fun atWork => absurd atWork Bool.false_ne_true
  refine ⟨fun asks => ?_, fun count => ?_⟩
  · obtain ⟨bound, gets⟩ := exists_runScript noted (fun _ => False) changes now ready alert
      fun now last left after ready alert agrees _ => exists_runLane noted _ ready alert
        (fun _ _ _ _ free _ alert => attains_stop noted rfl free alert (agrees.symm.asks asks)) now
    exact ⟨bound, fun limit long => (gets limit long).elim And.left False.elim⟩
  · let polled : List (Occurrence S P) → Nat := List.countP Occurrence.isPoll
    obtain ⟨bound, gets⟩ := exists_runScript noted
      (fun after => polled (notes state) + count ≤ polled (notes after)) changes now ready alert
      fun now last left after ready alert _ grows => exists_runLane noted _ ready alert
        (fun _ _ _ _ free growsToo _ => (attains_polls noted count rfl free).mono
          fun _ polls => Nat.le_trans (Nat.add_le_add_right
            (grows.trans growsToo).sublist.countP_le count) polls) now
    refine ⟨bound, fun limit long => ?_⟩
    intro ran
    obtain ⟨actions, led⟩ := noted.reaches_runScript limit changes now fresh permits state
    obtain ⟨more, recorded, _⟩ := noted.follow_keeps (fun _ _ => True) (fresh, state) actions
      trivial (fun _ _ _ _ _ => trivial) (fun _ _ _ _ _ _ _ => trivial)
    rw [led] at recorded
    rcases gets limit long with ⟨stopped, asked⟩ | polls
    · exact .inl ⟨stopped, asked.resolve_left Bool.false_ne_true⟩
    · have both : polled (notes ran.2) = polled (notes state) + polled more := by
        rw [recorded]
        exact List.countP_append
      have enough : count ≤ polled more := by
        rw [both] at polls
        exact Nat.le_of_add_le_add_left polls
      exact .inr ⟨more, recorded, enough⟩

end Engine

end Leasehold
