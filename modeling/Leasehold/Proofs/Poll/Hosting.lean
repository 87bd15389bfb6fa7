/-
**What the steps of attempts keep, a batch keeps.**

However many places a batch has, and whatever its permits, all that it does is to let its attempts
make their steps, one at a time, and to let time pass. So an invariant of the attempts, the report
and the state that survives one step of one attempt survives the whole batch.

* `Attempt.ending?`: how an attempt ended;
* `Seat.Holds`, `Batch.Hosts`: where the attempts of a batch are;
* `Engine.Keeps`: every step keeps an invariant;
* `Keeps.steps`: some steps of an attempt;
* `Keeps.goOn`, `Keeps.serve`, `Keeps.serveAll`: the parts of a batch;
* `Keeps.runBatch`: a batch from one time to another.
-/

import Leasehold.Proofs.Poll.Seat
import Leasehold.Proofs.Poll.Settlement

set_option linter.unusedSectionVars false

namespace Leasehold

variable {σ S P Call : Type} {Response : Call → Type} [DecidableEq S] [ProcessState S]

/-! ### Endings -/

/-- How an attempt ended. -/
def Attempt.ending? : Attempt S P Call Response → Option Ending
  | .ended ending => some ending
  | _ => none

theorem Attempt.ending?_of_pending {attempt : Attempt S P Call Response}
    (pending : attempt.isOver = false) : attempt.ending? = none := by
  cases attempt with
  | ended _ => cases pending
  | _ => rfl

/-! ### Seats and attempts -/

/-- How far the attempt in a seat is. -/
inductive Seat.Holds : Seat S P Call Response → Attempt S P Call Response → Prop where
  | arrived (candidate : Entity S P) : Holds (.arrived candidate) (.selected candidate)
  | queued (candidate : Entity S P) : Holds (.queued candidate) (.selected candidate)
  | paused {attempt : Attempt S P Call Response} (pending : attempt.isOver = false) :
      Holds (.paused attempt) attempt
  | resting (wakes : Nat) {attempt : Attempt S P Call Response} (pending : attempt.isOver = false) :
      Holds (.resting wakes attempt) attempt
  | left (ending : Ending) : Holds .left (.ended ending)

namespace Batch

/-- Where the attempts of a batch are: those that began have seats, the others wait outside. -/
structure Hosts (batch : Batch S P Call Response) (attempts : List (Attempt S P Call Response)) :
    Prop where
  length : attempts.length = batch.seats.length + batch.outside.length
  seated : ∀ {number : Nat} {seat : Seat S P Call Response}, batch.seats[number]? = some seat →
    ∃ attempt, attempts[number]? = some attempt ∧ seat.Holds attempt
  outside : ∀ {place : Nat} {candidate : Entity S P}, batch.outside[place]? = some candidate →
    attempts[batch.seats.length + place]? = some (.selected candidate)

variable {batch : Batch S P Call Response} {attempts : List (Attempt S P Call Response)}
  {attempt : Attempt S P Call Response} {number : Nat} {seat : Seat S P Call Response}

/-- The line and the report do not matter. -/
theorem Hosts.congr {other : Batch S P Call Response} (hosts : batch.Hosts attempts)
    (sameSeats : other.seats = batch.seats) (sameOutside : other.outside = batch.outside) :
    other.Hosts attempts := by
  obtain ⟨length, seated, outside⟩ := hosts
  rw [← sameSeats, ← sameOutside] at length
  rw [← sameSeats] at seated outside
  rw [← sameOutside] at outside
  exact ⟨length, seated, outside⟩

/-- The attempt in one seat has gone on. -/
theorem Hosts.reseat (hosts : batch.Hosts attempts) (holds : seat.Holds attempt)
    (bounded : number < batch.seats.length) :
    (batch.reseat number seat).Hosts (attempts.set number attempt) where
  length := by
    show (attempts.set number attempt).length = (batch.seats.set number seat).length + _
    rw [List.length_set, List.length_set]
    exact hosts.length
  seated := by
    intro other taken there
    have there : (batch.seats.set number seat)[other]? = some taken := there
    by_cases same : number = other
    · subst same
      rw [List.getElem?_set_self bounded] at there
      cases there
      have within := hosts.length
      exact ⟨attempt, List.getElem?_set_self (by omega), holds⟩
    · rw [List.getElem?_set_ne same] at there ⊢
      exact hosts.seated there
  outside := by
    intro place candidate there
    show (attempts.set number attempt)[(batch.seats.set number seat).length + place]? = _
    rw [List.length_set, List.getElem?_set_ne (by omega)]
    exact hosts.outside there

/-- The attempt in one seat is where it was. -/
theorem Hosts.reseat_same (hosts : batch.Hosts attempts) (there : attempts[number]? = some attempt)
    (holds : seat.Holds attempt) (bounded : number < batch.seats.length) :
    (batch.reseat number seat).Hosts attempts := by
  have reseated := hosts.reseat holds bounded
  obtain ⟨within, same⟩ := List.getElem?_eq_some_iff.mp there
  rw [← same, List.set_getElem_self] at reseated
  exact reseated

/-- Who takes a seat has not begun yet. -/
theorem Hosts.fill (hosts : batch.Hosts attempts) : batch.fill.Hosts attempts := by
  obtain ⟨length, seated, outside⟩ := hosts
  unfold Batch.fill
  split
  · exact ⟨length, seated, outside⟩
  · next candidate rest waiting =>
    rw [waiting] at length outside
    refine ⟨?_, ?_, ?_⟩
    · show attempts.length = (batch.seats ++ [Seat.arrived candidate]).length + rest.length
      rw [length, List.length_cons, List.length_append, List.length_singleton]
      omega
    · intro number seat there
      have there : (batch.seats ++ [Seat.arrived candidate])[number]? = some seat := there
      by_cases early : number < batch.seats.length
      · rw [List.getElem?_append_left early] at there
        exact seated there
      · obtain rfl : number = batch.seats.length := by
          have within := (List.getElem?_eq_some_iff.mp there).1
          rw [List.length_append, List.length_singleton] at within
          omega
        rw [List.getElem?_concat_length] at there
        cases there
        have first : (candidate :: rest)[0]? = some candidate := rfl
        exact ⟨_, outside first, .arrived candidate⟩
    · intro place other there
      have waits : (candidate :: rest)[place + 1]? = some other := there
      have later := outside waits
      show attempts[(batch.seats ++ [Seat.arrived candidate]).length + place]? = _
      rw [List.length_append, List.length_singleton, Nat.add_assoc, Nat.add_comm 1]
      exact later

theorem reseat_reseat (earlier : Seat S P Call Response) :
    (batch.reseat number earlier).reseat number seat = batch.reseat number seat := by
  unfold reseat
  dsimp only
  rw [List.set_set]

theorem report_fill : batch.fill.report = batch.report := by
  unfold Batch.fill
  split <;> rfl

/-- At the beginning nobody has begun. -/
theorem hosts_ofSelection (places : Nat) (selection : List (Entity S P)) :
    (ofSelection places selection : Batch S P Call Response).Hosts
      (selection.map Attempt.selected) where
  length := by
    show (selection.map _).length = ((selection.take places).map _).length +
      (selection.drop places).length
    rw [List.length_map, List.length_map, ← List.length_append, List.take_append_drop]
  seated := by
    intro number seat there
    have there : ((selection.take places).map Seat.arrived)[number]? = some seat := there
    rw [List.getElem?_map] at there
    obtain ⟨candidate, chosen, rfl⟩ := Option.map_eq_some_iff.mp there
    have listed : selection[number]? = some candidate := by
      rw [List.getElem?_take] at chosen
      split at chosen
      · exact chosen
      · cases chosen
    refine ⟨.selected candidate, ?_, .arrived candidate⟩
    rw [List.getElem?_map, listed]
    rfl
  outside := by
    intro place candidate there
    have there : (selection.drop places)[place]? = some candidate := there
    have full : ((selection.take places).map (Seat.arrived : Entity S P →
        Seat S P Call Response)).length = places := by
      have within := (List.getElem?_eq_some_iff.mp there).1
      rw [List.length_drop] at within
      rw [List.length_map, List.length_take]
      omega
    show (selection.map Attempt.selected)[((selection.take places).map Seat.arrived).length +
      place]? = _
    rw [List.getElem?_drop] at there
    rw [full, List.getElem?_map, there]
    rfl

/-- Once a batch is over, all its attempts are. -/
theorem Hosts.isOver (hosts : batch.Hosts attempts) (closed : batch.isOver = true) :
    ∀ attempt ∈ attempts, attempt.isOver = true := by
  obtain ⟨noneOutside, allLeft⟩ := Bool.and_eq_true_iff.mp closed
  intro attempt listed
  obtain ⟨number, located⟩ := List.mem_iff_getElem?.mp listed
  have bounded : number < batch.seats.length := by
    have within := (List.getElem?_eq_some_iff.mp located).1
    rw [hosts.length, List.isEmpty_iff.mp noneOutside] at within
    exact within
  obtain ⟨other, there, holds⟩ := hosts.seated (List.getElem?_eq_getElem bounded)
  rw [located] at there
  cases there
  have hasLeft := List.all_eq_true.mp allLeft _ (List.getElem_mem bounded)
  generalize batch.seats[number] = seat at holds hasLeft
  cases holds with
  | left ending => rfl
  | arrived _ | queued _ | paused _ | resting _ _ => cases hasLeft

end Batch

/-- Where an attempt was does not matter when it goes on. -/
theorem Engine.goOnInTurn_reseat (engine : Engine σ S P Call Response)
    (world : World σ Call Response) (lane now number : Nat) (attempt : Attempt S P Call Response)
    (batch : Batch S P Call Response) (earlier : Seat S P Call Response) (permits : Permits) :
    engine.goOnInTurn world lane now number attempt (batch.reseat number earlier) permits =
      engine.goOnInTurn world lane now number attempt batch permits := by
  unfold goOnInTurn goOn Batch.lull Batch.pause
  simp only [Batch.reseat_reseat]
  rfl

/-! ### What the steps keep -/

/-- The attempts of a batch are somewhere, with its report and the state as they are to be kept. -/
def Batch.Stands (batch : Batch S P Call Response)
    (kept : List (Attempt S P Call Response) → CycleReport → σ → Prop) (state : σ) : Prop :=
  ∃ attempts, batch.Hosts attempts ∧ kept attempts batch.report state

namespace Engine

variable (engine : Engine σ S P Call Response) (world : World σ Call Response)

/-- An invariant of attempts, of the report that counts their endings, and of the state. Every step
of a pending attempt keeps it, and so does time as it passes. -/
structure Keeps (kept : List (Attempt S P Call Response) → CycleReport → σ → Prop) : Prop where
  step : ∀ {attempts : List (Attempt S P Call Response)} {report : CycleReport} {state after : σ}
    {number : Nat} {attempt next : Attempt S P Call Response},
    kept attempts report state → attempts[number]? = some attempt → attempt.isOver = false →
      engine.step world attempt state = (next, after) →
        kept (attempts.set number next) (next.ending?.toList.foldl .record report) after
  tick : ∀ {attempts : List (Attempt S P Call Response)} {report : CycleReport} {state : σ}
    (millis : Nat), kept attempts report state → kept attempts report (world.tick millis state).2

namespace Keeps

variable {engine world} {kept : List (Attempt S P Call Response) → CycleReport → σ → Prop}
  (keeps : engine.Keeps world kept) {attempts : List (Attempt S P Call Response)}
  {attempt next : Attempt S P Call Response} {report : CycleReport} {state after : σ}
  {lane now number count : Nat} {batch later : Batch S P Call Response} {permits left : Permits}

/-- An attempt that makes no step changes nothing. -/
theorem unmoved (holds : kept attempts report state) (there : attempts[number]? = some attempt)
    (pending : attempt.isOver = false) :
    kept (attempts.set number attempt) (attempt.ending?.toList.foldl .record report) state := by
  obtain ⟨within, same⟩ := List.getElem?_eq_some_iff.mp there
  rw [Attempt.ending?_of_pending pending, ← same, List.set_getElem_self]
  exact holds

include keeps

/-- Some steps of an attempt. -/
theorem steps (holds : kept attempts report state) (there : attempts[number]? = some attempt)
    (pending : attempt.isOver = false)
    (made : engine.steps world count attempt state = (next, after)) :
    kept (attempts.set number next) (next.ending?.toList.foldl .record report) after := by
  induction count generalizing attempts attempt state with
  | zero =>
    cases made
    exact unmoved holds there pending
  | succ count ih =>
    by_cases spent : attempt.stepsLeft = 0
    · have waits : (next, after) = (attempt, state) := by
        rw [← made]
        cases attempt with
        | waiting _ _ _ => rfl
        | _ => cases spent <;> cases pending
      cases waits
      exact unmoved holds there pending
    · rw [Engine.steps_succ _ _ _ spent] at made
      rcases first : engine.step world attempt state with ⟨one, reached⟩
      rw [first] at made
      have stepped := keeps.step holds there pending first
      by_cases isOver : one.isOver = true
      · cases one with
        | ended ending =>
          rw [Engine.steps_ended] at made
          cases made
          exact stepped
        | _ => cases isOver
      · have onGoing := Bool.eq_false_iff.mpr isOver
        have thereNow : (attempts.set number one)[number]? = some one :=
          List.getElem?_set_self (List.getElem?_eq_some_iff.mp there).1
        rw [Attempt.ending?_of_pending onGoing] at stepped
        have goes := ih stepped thereNow onGoing made
        rw [List.set_set] at goes
        exact goes

/-- An attempt goes on, and leaves its seat or rests there. -/
theorem goOn (hosts : batch.Hosts attempts) (holds : kept attempts batch.report state)
    (there : attempts[number]? = some attempt) (pending : attempt.isOver = false)
    (bounded : number < batch.seats.length)
    (ran : engine.goOn world lane now number attempt batch permits state = ((later, left), after)) :
    later.Stands kept after := by
  rcases advanced : engine.advance world attempt state with ⟨next, reached⟩
  have made := keeps.steps holds there pending advanced
  unfold Engine.goOn at ran
  rw [bind_apply, advanced] at ran
  cases next with
  | ended ending =>
    cases ran
    have leaves := hosts.reseat (.left ending) bounded
    refine ⟨_, .fill (.congr leaves rfl rfl), ?_⟩
    rw [Batch.report_fill]
    exact made
  | waiting millis leased rest =>
    dsimp only at ran
    split at ran
    · cases ran
      exact ⟨_, (hosts.reseat (.paused rfl) bounded).congr rfl rfl, made⟩
    · cases ran
      exact ⟨_, (hosts.reseat (.resting _ rfl) bounded).congr rfl rfl, made⟩
  | selected _ | working _ _ | confirming _ _ _ _ | persisting _ _ _ | releasing _ =>
    cases ran
    exact ⟨_, (hosts.reseat (.resting _ rfl) bounded).congr rfl rfl, made⟩

/-- An attempt goes on, or pauses. -/
theorem goOnInTurn (hosts : batch.Hosts attempts) (holds : kept attempts batch.report state)
    (there : attempts[number]? = some attempt) (pending : attempt.isOver = false)
    (bounded : number < batch.seats.length)
    (ran : engine.goOnInTurn world lane now number attempt batch permits state =
      ((later, left), after)) : later.Stands kept after := by
  unfold Engine.goOnInTurn at ran
  split at ran
  · cases ran
    exact ⟨_, (hosts.reseat_same there (.paused pending) bounded).congr rfl rfl, holds⟩
  · exact keeps.goOn hosts holds there pending bounded ran

/-- An attempt goes on after its wait. -/
theorem goOnInTurn_resumed {millis : Nat} {leased : Entity S P}
    {rest : Work Call Response (Reply S P)} (hosts : batch.Hosts attempts)
    (holds : kept attempts batch.report state)
    (there : attempts[number]? = some (.waiting millis leased rest))
    (bounded : number < batch.seats.length)
    (ran : engine.goOnInTurn world lane now number (.working leased rest) batch permits state =
      ((later, left), after)) : later.Stands kept after := by
  have resumed : kept (attempts.set number (.working leased rest)) batch.report state :=
    keeps.step holds there rfl rfl
  -- The seat is as if the attempt had paused there.
  have hostsNow : (batch.reseat number (.paused (.working leased rest))).Hosts
      (attempts.set number (.working leased rest)) := hosts.reseat (.paused rfl) bounded
  have thereNow : (attempts.set number (.working leased rest))[number]? =
      some (.working leased rest) :=
    List.getElem?_set_self (List.getElem?_eq_some_iff.mp there).1
  have boundedNow :
      number < (batch.reseat number (.paused (.working leased rest))).seats.length := by
    show number < (batch.seats.set number _).length
    rw [List.length_set]
    exact bounded
  rw [← Engine.goOnInTurn_reseat _ _ _ _ _ _ _ (.paused (.working leased rest))] at ran
  exact keeps.goOnInTurn hostsNow resumed thereNow rfl boundedNow ran

/-- The first seat in line is served. -/
theorem serve (stands : batch.Stands kept state)
    (ran : engine.serve world lane now batch permits state = ((later, left), after)) :
    later.Stands kept after := by
  unfold Engine.serve at ran
  cases inLine : batch.line with
  | nil =>
    rw [inLine] at ran
    cases ran
    exact stands
  | cons number line =>
    rw [inLine] at ran
    dsimp only at ran
    obtain ⟨attempts, hosts, holds⟩ := stands
    have hosts : ({ batch with line := line } : Batch S P Call Response).Hosts attempts :=
      hosts.congr rfl rfl
    cases taken : batch.seats[number]? with
    | none =>
      rw [taken] at ran
      cases ran
      exact ⟨attempts, hosts, holds⟩
    | some seat =>
      rw [taken] at ran
      have bounded : number < batch.seats.length := (List.getElem?_eq_some_iff.mp taken).1
      obtain ⟨attempt, there, inside⟩ := hosts.seated taken
      cases inside with
      | left ending =>
        cases ran
        exact ⟨attempts, hosts, holds⟩
      | queued candidate => exact keeps.goOnInTurn hosts holds there rfl bounded ran
      | arrived candidate =>
        dsimp only at ran
        cases took : permits.take? with
        | none =>
          rw [took] at ran
          cases ran
          exact ⟨attempts, hosts.reseat_same there (.queued candidate) bounded, holds⟩
        | some rest =>
          rw [took] at ran
          dsimp only at ran
          split at ran
          · exact keeps.goOnInTurn hosts holds there rfl bounded ran
          · exact keeps.goOn hosts holds there rfl bounded ran
      | paused pending =>
        cases attempt with
        | waiting millis leased rest =>
          cases ran
          exact ⟨attempts, (hosts.reseat_same there (.resting _ pending) bounded).congr rfl rfl,
            holds⟩
        | selected _ | working _ _ | confirming _ _ _ _ | persisting _ _ _ | releasing _
        | ended _ =>
          exact keeps.goOnInTurn hosts holds there pending bounded ran
      | resting wakes pending =>
        cases attempt with
        | waiting millis leased rest =>
          exact keeps.goOnInTurn_resumed hosts holds there bounded ran
        | selected _ | working _ _ | confirming _ _ _ _ | persisting _ _ _ | releasing _
        | ended _ =>
          exact keeps.goOnInTurn hosts holds there pending bounded ran

/-- All that can go on at one time goes on. -/
theorem serveAll (stands : batch.Stands kept state)
    (ran : engine.serveAll world lane now count batch permits state = ((later, left), after)) :
    later.Stands kept after := by
  induction count generalizing state batch permits with
  | zero =>
    cases ran
    exact stands
  | succ count ih =>
    cases inLine : batch.line with
    | nil =>
      cases pausing : batch.paused with
      | nil =>
        rw [Engine.serveAll_of_idle inLine pausing] at ran
        cases ran
        exact stands
      | cons number others =>
        rw [Engine.serveAll, inLine, pausing] at ran
        obtain ⟨attempts, hosts, holds⟩ := stands
        have roused : batch.rouse.Stands kept state := ⟨attempts, hosts.congr rfl rfl, holds⟩
        exact ih roused ran
    | cons number others =>
      rw [Engine.serveAll, inLine] at ran
      dsimp only at ran
      rw [bind_apply] at ran
      rcases served : engine.serve world lane now batch permits state with
        ⟨⟨middle, rest⟩, reached⟩
      rw [served] at ran
      exact ih (keeps.serve stands served) ran

/-- **What every step keeps, a batch keeps**, from one time to another. -/
theorem runBatch {limit : Nat} (stands : batch.Stands kept state)
    (ran : engine.runBatch world lane limit now batch permits state = ((later, left), after)) :
    later.Stands kept after := by
  induction remains : limit - now using Nat.strongRecOn
    generalizing now batch permits state with
  | ind remaining ih =>
    rw [Engine.runBatch, bind_apply] at ran
    rcases settled : engine.settle world lane now batch permits state with
      ⟨⟨middle, rest⟩, reached⟩
    rw [settled] at ran
    have settles := keeps.serveAll stands settled
    dsimp only at ran
    cases wakes : middle.nextWake? with
    | none =>
      rw [wakes] at ran
      cases ran
      exact settles
    | some next =>
      rw [wakes] at ran
      dsimp only at ran
      split at ran
      · next inTime =>
        obtain ⟨attempts, hosts, holds⟩ := settles
        have awake : (middle.wake next).Stands kept (world.tick next reached).2 :=
          ⟨attempts, hosts.congr rfl rfl, keeps.tick next holds⟩
        rw [bind_apply] at ran
        exact ih (limit - next) (by omega) awake ran rfl
      · cases ran
        exact settles

end Keeps

end Engine

end Leasehold
