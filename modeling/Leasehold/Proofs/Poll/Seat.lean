/-
**A batch with one seat.**

With one place for all, the entities of a batch sit down one after the other.

* `Permits.IsQuiet`, `Permits.IsFree`: pools in which nobody waits;
* `Batch.alone`, `Batch.between`: a batch while its one seat is taken, and before it is taken again;
* `Engine.serveFrom`: a batch with some servings left at the present time;
* `Engine.Ends`: whatever the limit of time, from some limit on the batch ends in the same way;
* `Ends.of_over`, `Ends.of_serve`, `Ends.of_rouse`, `Ends.of_wait`: what a batch does at its end, and
  before it;
* `Ends.of_arrived`, `Ends.of_waiting`: how the attempt in the one seat begins, and how it waits.
-/

import Leasehold.Engine.Batch
import Leasehold.Proofs.Fleet.Move

set_option linter.unusedSectionVars false

namespace Leasehold

variable {σ S P Call : Type} {Response : Call → Type}

/-! ### Permits -/

namespace Permits

/-- Nobody waits for a permit. -/
structure IsQuiet (permits : Permits) : Prop where
  queue : permits.queue = []
  granted : permits.granted = []

/-- Nobody waits for a permit, and the next one who asks gets one. -/
structure IsFree (permits : Permits) : Prop extends permits.IsQuiet where
  available : permits.available ≠ some 0

variable {permits : Permits}

theorem IsQuiet.spend (quiet : permits.IsQuiet) : permits.spend.IsQuiet :=
  ⟨quiet.queue, quiet.granted⟩

theorem IsQuiet.refresh (quiet : permits.IsQuiet) : permits.refresh.IsQuiet :=
  ⟨quiet.queue, quiet.granted⟩

/-- A permit that comes back is free. -/
theorem IsQuiet.giveBack (quiet : permits.IsQuiet) : permits.giveBack.IsFree := by
  unfold Permits.giveBack
  rw [quiet.queue]
  refine ⟨⟨rfl, quiet.granted⟩, fun none => ?_⟩
  obtain ⟨count, _, zero⟩ := Option.map_eq_some_iff.mp none
  exact Nat.succ_ne_zero count zero

theorem collect_of_nil (none : permits.granted = []) (lane : Nat) :
    permits.collect lane = ([], permits) := by
  obtain ⟨_, _, _, _, granted⟩ := permits
  obtain rfl : granted = [] := none
  rfl

theorem IsFree.spend (free : permits.IsFree) : permits.spend.IsFree :=
  ⟨free.toIsQuiet.spend, free.available⟩

theorem IsFree.refresh (free : permits.IsFree) : permits.refresh.IsFree :=
  ⟨free.toIsQuiet.refresh, free.available⟩

theorem IsFree.take? (free : permits.IsFree) :
    ∃ taken, permits.take? = some taken ∧ taken.IsQuiet := by
  unfold Permits.take?
  cases left : permits.available with
  | none => exact ⟨permits, rfl, free.toIsQuiet⟩
  | some count =>
    cases count with
    | zero => exact absurd left free.available
    | succ count => exact ⟨_, rfl, free.queue, free.granted⟩

/-- A turn that has just begun is not over. -/
theorem isSpent_refresh (permits : Permits) : permits.refresh.isSpent = false := by
  unfold isSpent refresh
  cases permits.allowance <;> rfl

end Permits

/-! ### Batches -/

namespace Batch

/-- A batch in which one seat is taken, after those who have left. -/
def alone (gone : Nat) (seat : Seat S P Call Response) (line sleepers paused : List Nat)
    (outside : List (Entity S P)) (report : CycleReport) : Batch S P Call Response where
  outside := outside
  seats := List.replicate gone .left ++ [seat]
  line := line
  sleepers := sleepers
  paused := paused
  report := report

/-- A batch in which no seat is taken. -/
def between (gone : Nat) (outside : List (Entity S P)) (report : CycleReport) :
    Batch S P Call Response where
  outside := outside
  seats := List.replicate gone .left
  line := []
  sleepers := []
  paused := []
  report := report

variable {gone : Nat} {seat next : Seat S P Call Response} {line sleepers paused : List Nat}
  {outside : List (Entity S P)} {report : CycleReport}

/-- One place for all: the first entity sits down. -/
theorem ofSelection_one (selection : List (Entity S P)) :
    (ofSelection 1 selection : Batch S P Call Response) =
      (between 0 selection { selected := selection.length }).fill := by
  cases selection <;> rfl

theorem fill_between (candidate : Entity S P) :
    (between gone (candidate :: outside) report : Batch S P Call Response).fill =
      alone gone (.arrived candidate) [gone] [] [] outside report := by
  unfold between alone fill
  simp only [List.length_replicate, List.nil_append]

/-- Who sits down is not outside any more. -/
theorem length_fill_between :
    (between gone outside report : Batch S P Call Response).fill.outside.length +
        (between gone outside report : Batch S P Call Response).fill.seats.length =
      outside.length + gone := by
  cases outside with
  | nil => simp [between, fill]
  | cons candidate rest =>
    rw [fill_between]
    simp [alone]
    omega

theorem getElem?_seats : (List.replicate gone .left ++ [seat])[gone]? = some seat := by
  simp

theorem reseat_alone :
    (alone gone seat line sleepers paused outside report).reseat gone next =
      alone gone next line sleepers paused outside report := by
  simp [alone, reseat]

/-- Who takes the only seat and leaves makes room for the next. -/
theorem leave_alone (after : CycleReport) :
    { (alone gone seat [] [] [] outside report).reseat gone .left with report := after } =
      between (gone + 1) outside after := by
  rw [reseat_alone]
  simp [alone, between, List.replicate_succ']

theorem lull_alone (wakes : Nat) (attempt : Attempt S P Call Response) :
    (alone gone seat [] [] [] outside report).lull gone wakes attempt =
      alone gone (.resting wakes attempt) [] [gone] [] outside report := by
  unfold lull
  rw [reseat_alone]
  rfl

theorem pause_alone (attempt : Attempt S P Call Response) :
    (alone gone seat [] [] [] outside report).pause gone attempt =
      alone gone (.paused attempt) [] [] [gone] outside report := by
  unfold pause
  rw [reseat_alone]
  rfl

theorem filterMap_wakeTime?_left :
    (List.replicate gone (.left : Seat S P Call Response)).filterMap wakeTime? = [] :=
  List.filterMap_eq_nil_iff.mpr fun seat listed => by
    rw [List.eq_of_mem_replicate listed]
    rfl

theorem nextWake?_alone (wakes : Nat) (attempt : Attempt S P Call Response) :
    (alone gone (.resting wakes attempt) line sleepers paused outside report).nextWake? =
      some wakes := by
  unfold nextWake? wakeTimes alone
  rw [List.filterMap_append, filterMap_wakeTime?_left]
  rfl

theorem nextWake?_between :
    (between gone outside report : Batch S P Call Response).nextWake? = none := by
  unfold nextWake? wakeTimes between
  rw [filterMap_wakeTime?_left]
  rfl

theorem wake_alone (wakes : Nat) (attempt : Attempt S P Call Response) :
    (alone gone (.resting wakes attempt) [] [gone] [] outside report).wake wakes =
      alone gone (.resting wakes attempt) [gone] [] [] outside report := by
  simp [wake, alone, wakeTime?, List.partition_eq_filter_filter]

/-- There are enough servings for everybody. -/
theorem five_mul_le_servings (batch : Batch S P Call Response) :
    5 * (batch.outside.length + batch.seats.length) ≤ batch.servings := by
  unfold servings
  generalize batch.outside.length + batch.seats.length = places
  rcases Nat.eq_zero_or_pos places with rfl | some
  · exact Nat.zero_le _
  · exact Nat.mul_le_mul (by omega) (by omega)

end Batch

/-! ### Servings -/

namespace Engine

variable [DecidableEq S] [ProcessState S] (engine : Engine σ S P Call Response)
  (world : World σ Call Response) (lane : Nat)

/-- A batch with so many servings left at the present time, and then from one time to the next. -/
def serveFrom (limit now fuel : Nat) (batch : Batch S P Call Response) (permits : Permits) :
    StateM σ (Batch S P Call Response × Permits) := do
  let (batch, permits) ← engine.serveAll world lane now fuel batch permits
  match batch.nextWake? with
  | none => return (batch, permits)
  | some next =>
    if now < next ∧ next ≤ limit then
      world.tick next
      engine.runBatch world lane limit next (batch.wake next) permits.refresh
    else return (batch, permits)

theorem runBatch_eq_serveFrom (limit now : Nat) (batch : Batch S P Call Response)
    (permits : Permits) :
    engine.runBatch world lane limit now batch permits =
      engine.serveFrom world lane limit now batch.servings batch permits := by
  rw [runBatch]
  rfl

/-- From some limit of time on, the batch ends in one way, which has a property. -/
def Ends (now fuel : Nat) (reached : (Batch S P Call Response × Permits) × σ)
    (final : (Batch S P Call Response × Permits) × σ → Prop) : Prop :=
  ∃ bound result, final result ∧ ∀ limit, bound ≤ limit →
    engine.serveFrom world lane limit now fuel reached.1.1 reached.1.2 reached.2 = result

variable {engine world lane} {now fuel : Nat} {batch : Batch S P Call Response}
  {permits : Permits} {state : σ} {final : (Batch S P Call Response × Permits) × σ → Prop}

/-- Nobody goes on in a batch in which nobody is in line and nobody pauses. -/
theorem serveAll_of_idle (noLine : batch.line = []) (nonePaused : batch.paused = []) :
    engine.serveAll world lane now fuel batch permits state = ((batch, permits), state) := by
  cases fuel with
  | zero => rfl
  | succ fuel =>
    unfold serveAll
    rw [noLine, nonePaused]
    rfl

/-- The first in line goes on, and then the others. -/
theorem serveAll_of_line {number : Nat} {line : List Nat} (inLine : batch.line = number :: line) :
    engine.serveAll world lane now (fuel + 1) batch permits state =
      let ran := engine.serve world lane now batch permits state
      engine.serveAll world lane now fuel ran.1.1 ran.1.2 ran.2 := by
  rw [serveAll, inLine]
  rfl

/-- When nobody is in line, those who paused go on in the next turn. -/
theorem serveAll_of_paused (noLine : batch.line = []) (pauses : batch.paused ≠ []) :
    engine.serveAll world lane now (fuel + 1) batch permits state =
      engine.serveAll world lane now fuel batch.rouse permits.refresh state := by
  obtain ⟨number, rest, paused⟩ := List.exists_cons_of_ne_nil pauses
  rw [serveAll, noLine, paused]

/-- A batch ends if nobody goes on and nobody sleeps. -/
theorem Ends.of_over (noLine : batch.line = []) (nonePaused : batch.paused = [])
    (noneWakes : batch.nextWake? = none) (holds : final ((batch, permits), state)) :
    engine.Ends world lane now fuel ((batch, permits), state) final := by
  refine ⟨0, _, holds, fun limit _ => ?_⟩
  unfold serveFrom
  rw [bind_apply, serveAll_of_idle noLine nonePaused]
  dsimp only
  rw [noneWakes]
  rfl

/-- A batch goes on with the first in line. -/
theorem Ends.of_serve {number : Nat} {line : List Nat} (inLine : batch.line = number :: line)
    (ends : engine.Ends world lane now fuel (engine.serve world lane now batch permits state)
      final) :
    engine.Ends world lane now (fuel + 1) ((batch, permits), state) final := by
  obtain ⟨bound, result, holds, served⟩ := ends
  refine ⟨bound, result, holds, fun limit long => ?_⟩
  rw [← served limit long]
  unfold serveFrom
  rw [bind_apply, bind_apply, serveAll_of_line inLine]

/-- A batch in which all pause goes on in the next turn. -/
theorem Ends.of_rouse (noLine : batch.line = []) (pauses : batch.paused ≠ [])
    (ends : engine.Ends world lane now fuel ((batch.rouse, permits.refresh), state) final) :
    engine.Ends world lane now (fuel + 1) ((batch, permits), state) final := by
  obtain ⟨bound, result, holds, served⟩ := ends
  refine ⟨bound, result, holds, fun limit long => ?_⟩
  rw [← served limit long]
  unfold serveFrom
  rw [bind_apply, bind_apply, serveAll_of_paused noLine pauses]

/-- A batch in which all sleep goes on when the first of them wakes. -/
theorem Ends.of_wait {next : Nat} (noLine : batch.line = []) (nonePaused : batch.paused = [])
    (wakes : batch.nextWake? = some next) (later : now < next)
    (ends : engine.Ends world lane next (batch.wake next).servings
      ((batch.wake next, permits.refresh), (world.tick next state).2) final) :
    engine.Ends world lane now fuel ((batch, permits), state) final := by
  obtain ⟨bound, result, holds, served⟩ := ends
  refine ⟨max bound next, result, holds, fun limit long => ?_⟩
  rw [← served limit (Nat.max_le.mp long).1, serveFrom, bind_apply,
    serveAll_of_idle noLine nonePaused]
  dsimp only
  rw [wakes]
  dsimp only
  rw [if_pos ⟨later, (Nat.max_le.mp long).2⟩, bind_apply, runBatch_eq_serveFrom]

/-! ### The seat of an attempt -/

variable {number gone : Nat} {seat : Seat S P Call Response} {outside : List (Entity S P)}
  {report : CycleReport} {attempt : Attempt S P Call Response}

/-- An attempt that ends leaves its seat. -/
theorem goOn_of_ended {ending : Ending} {after : σ} (quiet : permits.IsQuiet)
    (ended : engine.advance world attempt state = (.ended ending, after)) :
    engine.goOn world lane now gone attempt (.alone gone seat [] [] [] outside report) permits
        state =
      (((Batch.between (gone + 1) outside (report.record ending)).fill, permits.giveBack),
        after) := by
  unfold goOn Batch.takeGrants
  rw [bind_apply, ended]
  have left : { (Batch.alone gone seat [] [] [] outside report).reseat gone .left with
      report := report.record ending } = Batch.between (gone + 1) outside (report.record ending) :=
    Batch.leave_alone _
  dsimp only
  rw [Permits.collect_of_nil quiet.giveBack.granted lane, ← left]
  rfl

/-- An attempt that waits pauses, if the turn is over, and rests. -/
theorem goOn_of_waiting {millis : Nat} {leased : Entity S P}
    {rest : Work Call Response (Reply S P)} {after : σ}
    (waits : engine.advance world attempt state = (.waiting millis leased rest, after)) :
    engine.goOn world lane now gone attempt (.alone gone seat [] [] [] outside report) permits
        state =
      ((if permits.isSpent then
          .alone gone (.paused (.waiting millis leased rest)) [] [] [gone] outside report
        else .alone gone (.resting (now + millis) (.waiting millis leased rest)) [] [gone] []
          outside report, permits), after) := by
  unfold goOn
  rw [bind_apply, waits]
  dsimp only
  rw [Batch.pause_alone, Batch.lull_alone]
  split <;> rfl

theorem goOn_congr {other : Attempt S P Call Response} {after : σ}
    (same : engine.advance world attempt state = engine.advance world other after) :
    engine.goOn world lane now number attempt batch permits state =
      engine.goOn world lane now number other batch permits after := by
  unfold goOn
  rw [bind_apply, bind_apply, same]

/-- Who arrives and gets a permit goes on. -/
theorem serve_arrived (candidate : Entity S P) {taken : Permits}
    (takes : permits.take? = some taken) :
    engine.serve world lane now (.alone gone (.arrived candidate) [gone] [] [] outside report)
        permits =
      if taken.areNeeded then
        engine.goOnInTurn world lane now gone (.selected candidate)
          (.alone gone (.arrived candidate) [] [] [] outside report) taken
      else
        engine.goOn world lane now gone (.selected candidate)
          (.alone gone (.arrived candidate) [] [] [] outside report) taken := by
  unfold serve Batch.alone
  dsimp only
  rw [Batch.getElem?_seats]
  dsimp only
  rw [takes]

/-- Who pauses before the lease goes on in the next turn. -/
theorem serve_paused (candidate : Entity S P) :
    engine.serve world lane now
        (.alone gone (.paused (.selected candidate)) [gone] [] [] outside report) permits =
      engine.goOnInTurn world lane now gone (.selected candidate)
        (.alone gone (.paused (.selected candidate)) [] [] [] outside report) permits := by
  unfold serve Batch.alone
  dsimp only
  rw [Batch.getElem?_seats]

/-- Who pauses while the handler waits begins to rest in the next turn. -/
theorem serve_pausedWaiting (millis : Nat) (leased : Entity S P)
    (rest : Work Call Response (Reply S P)) :
    engine.serve world lane now
        (.alone gone (.paused (.waiting millis leased rest)) [gone] [] [] outside report) permits
        state =
      ((.alone gone (.resting (now + millis) (.waiting millis leased rest)) [] [gone] [] outside
        report, permits), state) := by
  unfold serve
  rw [← Batch.lull_alone (now + millis) (.waiting millis leased rest)]
  unfold Batch.alone
  dsimp only
  rw [Batch.getElem?_seats]
  rfl

theorem serve_resting (wakes : Nat) (attempt : Attempt S P Call Response) :
    engine.serve world lane now
        (.alone gone (.resting wakes attempt) [gone] [] [] outside report) permits =
      engine.goOnInTurn world lane now gone attempt.resume
        (.alone gone (.resting wakes attempt) [] [] [] outside report) permits := by
  unfold serve Batch.alone
  dsimp only
  rw [Batch.getElem?_seats]

/-- A turn that has just begun lets an attempt go on. -/
theorem goOnInTurn_refresh :
    engine.goOnInTurn world lane now number attempt batch permits.refresh =
      engine.goOn world lane now number attempt batch permits.refresh.spend := by
  unfold goOnInTurn
  rw [permits.isSpent_refresh]
  rfl

/-- **An attempt that waits goes on later**, with servings enough for those who come after it. -/
theorem Ends.of_waiting {millis : Nat} {leased : Entity S P}
    {rest : Work Call Response (Reply S P)} {after : σ} (quiet : permits.IsQuiet)
    (enough : 2 ≤ fuel) (takes : millis ≠ 0)
    (waits : engine.advance world attempt state = (.waiting millis leased rest, after))
    (goesOn : ∀ {seat : Seat S P Call Response} {fuel : Nat} {permits : Permits},
      permits.IsQuiet → 5 * outside.length + 2 ≤ fuel →
        engine.Ends world lane (now + millis) fuel
          (engine.goOn world lane (now + millis) gone (.working leased rest)
            (.alone gone seat [] [] [] outside report) permits
            (world.tick (now + millis) after).2) final) :
    engine.Ends world lane now fuel
      (engine.goOn world lane now gone attempt (.alone gone seat [] [] [] outside report) permits
        state) final := by
  have rests : ∀ {fuel : Nat} {permits : Permits}, permits.IsQuiet →
      engine.Ends world lane now fuel
        ((.alone gone (.resting (now + millis) (.waiting millis leased rest)) [] [gone] [] outside
          report, permits), after) final := by
    intro fuel permits quiet
    refine .of_wait rfl rfl (Batch.nextWake?_alone _ _) (by omega) ?_
    rw [Batch.wake_alone]
    have most := Batch.five_mul_le_servings (.alone gone
      (.resting (now + millis) (.waiting millis leased rest)) [gone] [] [] outside report)
    have places : 1 ≤ (Batch.alone gone (.resting (now + millis) (.waiting millis leased rest))
        [gone] [] [] outside report).seats.length := by simp [Batch.alone]
    obtain ⟨spare, isSpare⟩ := Nat.exists_eq_add_of_le' (Nat.le_trans
      (show 1 ≤ 5 * (outside.length + _) by omega) most)
    have left : 5 * (outside.length + _) ≤ spare + 1 := isSpare ▸ most
    rw [isSpare]
    refine .of_serve rfl ?_
    rw [serve_resting, goOnInTurn_refresh]
    exact goesOn quiet.refresh.spend (by omega)
  rw [goOn_of_waiting waits]
  split
  -- In a turn that is over the attempt only pauses, which takes two servings more.
  · obtain ⟨spare, rfl⟩ := Nat.exists_eq_add_of_le' enough
    refine .of_rouse rfl (List.cons_ne_nil _ _) (.of_serve rfl ?_)
    have roused : (Batch.alone gone (.paused (.waiting millis leased rest)) [] [] [gone] outside
        report).rouse = .alone gone (.paused (.waiting millis leased rest)) [gone] [] [] outside
          report := rfl
    rw [roused, serve_pausedWaiting]
    exact rests quiet.refresh
  · exact rests quiet

/-- **The next entity takes the seat**, and its attempt begins in this turn or in the next. -/
theorem Ends.of_arrived {candidate : Entity S P} (free : permits.IsFree)
    (enough : 5 * outside.length + 5 ≤ fuel)
    (goesOn : ∀ {seat : Seat S P Call Response} {fuel : Nat} {permits : Permits},
      permits.IsQuiet → 5 * outside.length + 2 ≤ fuel →
        engine.Ends world lane now fuel
          (engine.goOn world lane now gone (.selected candidate)
            (.alone gone seat [] [] [] outside report) permits state) final) :
    engine.Ends world lane now fuel
      (((Batch.between gone (candidate :: outside) report).fill, permits), state) final := by
  obtain ⟨taken, takes, quiet⟩ := free.take?
  obtain ⟨spare, rfl⟩ := Nat.exists_eq_add_of_le' (Nat.le_trans (Nat.le_add_left 5 _) enough)
  rw [Batch.fill_between]
  refine .of_serve rfl ?_
  rw [serve_arrived candidate takes]
  split
  · unfold goOnInTurn
    split
    -- The permit used up the turn, so the attempt begins in the next one.
    · rw [Batch.pause_alone]
      refine .of_rouse rfl (List.cons_ne_nil _ _) (.of_serve rfl ?_)
      have roused : (Batch.alone gone (.paused (.selected candidate)) [] [] [gone] outside report :
          Batch S P Call Response).rouse = .alone gone (.paused (.selected candidate)) [gone] [] []
            outside report := rfl
      rw [roused, serve_paused, goOnInTurn_refresh]
      exact goesOn quiet.refresh.spend (by omega)
    · exact goesOn quiet.spend (by omega)
  · exact goesOn quiet (by omega)

end Engine

end Leasehold
