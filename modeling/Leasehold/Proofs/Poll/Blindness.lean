/-
**Polls that cannot tell two states apart.**

An engine uses its store through operations on the entities that it selected. If two states look
alike to these operations and to the surroundings, then a poll that selects the same entities from
both does the same from both.

* `IsBlind`: a program that cannot tell alike states apart, with the rules for its parts;
* `World.IsBlindTo`, `Engine.IsBlindTo`: surroundings and stores that cannot;
* `Attempt.IsWithin`, `Batch.IsWithin`: which entities an attempt and a batch are about;
* `isBlind_step`, `isBlind_advance`: the steps of an attempt;
* `isBlind_goOn`, `isBlind_serve`, `isBlind_serveAll`, `isBlind_runBatch`: the parts of a batch;
* `poll_blind`: a whole poll.
-/

import Leasehold.Engine.Batch
import Leasehold.Proofs.Fleet.Move

set_option linter.unusedSectionVars false

namespace Leasehold

variable {σ S P Call α β : Type} {Response : Call → Type}

/-! ### Programs -/

/-- A program that cannot tell alike states apart: it has the same result from both, which is as
wanted, and leaves them alike. -/
def IsBlind (alike : σ → σ → Prop) (wanted : α → Prop) (program : StateM σ α) : Prop :=
  ∀ one other : σ, alike one other → (program one).1 = (program other).1 ∧
    wanted (program one).1 ∧ alike (program one).2 (program other).2

namespace IsBlind

variable {alike : σ → σ → Prop} {wanted : α → Prop} {desired : β → Prop}

theorem pure {result : α} (right : wanted result) :
    IsBlind alike wanted (pure result : StateM σ α) :=
  fun _ _ same => ⟨rfl, right, same⟩

theorem bind {first : StateM σ α} {rest : α → StateM σ β} (blind : IsBlind alike wanted first)
    (follows : ∀ result, wanted result → IsBlind alike desired (rest result)) :
    IsBlind alike desired (first >>= rest) := by
  intro one other same
  obtain ⟨equal, right, later⟩ := blind one other same
  rw [Engine.bind_apply, Engine.bind_apply, ← equal]
  exact follows _ right _ _ later

/-- The state may be read, if what follows is the same for both. -/
theorem read {rest : σ → StateM σ β} (agrees : ∀ one other, alike one other → rest one = rest other)
    (follows : ∀ state, IsBlind alike desired (rest state)) :
    IsBlind alike desired (get >>= rest) := by
  intro one other same
  rw [Engine.bind_apply, Engine.bind_apply, Engine.get_apply, Engine.get_apply, agrees one other same]
  exact follows other _ _ same

/-- What every result has may be wanted. -/
theorem strengthen {program : StateM σ α} (blind : IsBlind alike (fun _ => True) program)
    (always : ∀ state, wanted (program state).1) : IsBlind alike wanted program := by
  intro one other same
  obtain ⟨equal, _, later⟩ := blind one other same
  exact ⟨equal, always one, later⟩

end IsBlind

/-- Surroundings that cannot tell alike states apart. -/
structure World.IsBlindTo (world : World σ Call Response) (alike : σ → σ → Prop) : Prop where
  now : ∀ one other, alike one other → world.now one = world.now other
  tick : ∀ millis, IsBlind alike (fun _ => True) (world.tick millis)
  log : ∀ entry, IsBlind alike (fun _ => True) (world.log entry)
  emit : ∀ transition, IsBlind alike (fun _ => True) (world.emit transition)
  call : ∀ request, IsBlind alike (fun _ => True) (world.call request)

variable {world : World σ Call Response} {alike : σ → σ → Prop} {own : String → Prop}

/-- The clock may be read. -/
theorem World.IsBlindTo.clock (around : world.IsBlindTo alike) {wanted : β → Prop}
    {rest : σ → StateM σ β} (same : ∀ one other, world.now one = world.now other →
      rest one = rest other)
    (follows : ∀ state, IsBlind alike wanted (rest state)) : IsBlind alike wanted (get >>= rest) :=
  .read (fun one other unseen => same one other (around.now one other unseen)) follows

/-- The work of a handler in such surroundings. -/
theorem Work.isBlind_drive (around : world.IsBlindTo alike) (work : Work Call Response α) :
    IsBlind alike (fun _ => True) (work.drive world) := by
  induction work with
  | done result => exact .pure trivial
  | call request next ih =>
    refine (around.call request).bind fun answer _ => ?_
    obtain ⟨millis, response⟩ := answer
    dsimp only
    split
    · exact ih response
    · exact .pure trivial
  | readClock next ih =>
    refine around.clock (fun one other same => ?_) fun state => ih _
    rw [same]
  | log entry next ih => exact (around.log entry).bind fun _ _ => ih

/-! ### Attempts -/

/-- An operation on one of some entities. -/
def Operation.IsWithin (own : String → Prop) : Operation S P → Prop
  | .find id | .lease id _ _ _ | .release id _ => own id
  | .update entity => own entity.id
  | .create _ | .query _ | .renew _ _ _ _ | .releaseAll _ | .cancelIfFree _ _ _ _
  | .requestCancel _ _ => False

/-- An engine whose store cannot tell alike states apart by operations on some entities. -/
structure Engine.IsBlindTo (engine : Engine σ S P Call Response) (alike : σ → σ → Prop)
    (own : String → Prop) : Prop where
  store : ∀ operation, operation.IsWithin own →
    IsBlind alike (fun _ => True) (engine.store operation)
  leased : ∀ {id holder duration now state leased},
    (engine.store (.lease id holder duration now) state).1 = .ok leased → leased.id = id

/-- An attempt on one of some entities. -/
def Attempt.IsWithin (own : String → Prop) : Attempt S P Call Response → Prop
  | .selected candidate => own candidate.id
  | .working leased _ | .waiting _ leased _ | .confirming leased _ _ _ | .releasing leased =>
    own leased.id
  | .persisting leased result _ => own leased.id ∧ own result.id
  | .ended _ => True

namespace Engine

variable [DecidableEq S] [ProcessState S] {engine : Engine σ S P Call Response}
  {leased : Entity S P}

theorem isWithin_judge (within : own leased.id) (now : Instant) (verdict : Verdict S P) :
    (engine.judge leased now verdict).IsWithin own := by
  cases verdict with
  | success next payload =>
    dsimp only [judge]
    split
    · exact within
    · exact ⟨within, within⟩
  | retry reason =>
    dsimp only [judge]
    split
    · exact ⟨within, within⟩
    · exact ⟨within, within⟩
  | fatal reason => exact ⟨within, within⟩

theorem isWithin_confirm (within : own leased.id) (next : S) (payload : P) (now : Instant)
    (asked : Bool) : (engine.confirm leased next payload now asked).IsWithin own := by
  unfold confirm
  split
  · exact ⟨within, within⟩
  · exact ⟨within, within⟩

variable (blind : engine.IsBlindTo alike own) (around : world.IsBlindTo alike)

include blind around

theorem isBlind_afterLease (candidate : Entity S P) (within : own leased.id) :
    IsBlind alike (Attempt.IsWithin own) (engine.afterLease world candidate leased) := by
  unfold afterLease
  split
  · exact (around.log _).bind fun _ _ => .pure within
  · split
    · refine around.clock (fun one other same => ?_) fun state => .pure ⟨within, within⟩
      dsimp only
      rw [same]
    · split
      · exact .pure within
      · exact (around.log _).bind fun _ _ => .pure within

theorem isBlind_claim {candidate : Entity S P} (within : own candidate.id) :
    IsBlind alike (Attempt.IsWithin own) (engine.claim world candidate) := by
  unfold claim
  refine around.clock (fun one other same => ?_) fun state => ?_
  · dsimp only
    rw [same]
  have leases : IsBlind alike (fun answer => ∀ leased, answer = .ok leased →
      leased.id = candidate.id) (engine.store
        (.lease candidate.id engine.holder engine.config.leaseDuration (world.now state))) :=
    .strengthen (blind.store _ within) fun state leased => blind.leased
  refine leases.bind fun answer named => ?_
  cases answer with
  | ok leased =>
    have within : own leased.id := by
      rw [named leased rfl]
      exact within
    exact isBlind_afterLease blind around candidate within
  | error error =>
    dsimp only
    split
    · exact (around.log _).bind fun _ _ => .pure trivial
    · exact (around.log _).bind fun _ _ => .pure trivial

theorem isBlind_work (within : own leased.id) (rest : Work Call Response (Reply S P)) :
    IsBlind alike (Attempt.IsWithin own) (engine.work world leased rest) := by
  unfold Engine.work
  refine (rest.isBlind_drive around).bind fun progress _ => ?_
  cases progress with
  | waiting millis rest => exact .pure within
  | finished reply =>
    have judged : IsBlind alike (Attempt.IsWithin own) (do
        return engine.judge leased (world.now (← get)) reply.verdict : StateM σ _) := by
      refine around.clock (fun one other same => ?_) fun state => .pure (isWithin_judge within _ _)
      rw [same]
    dsimp only
    split
    · exact (around.log _).bind fun _ _ => judged
    · exact judged

theorem isBlind_persist {result : Entity S P} (within : own leased.id) (withinResult : own result.id)
    (outcome : Outcome) :
    IsBlind alike (Attempt.IsWithin own) (engine.persist world leased result outcome) := by
  unfold persist
  refine (blind.store (.update { result with lease := none }) withinResult).bind fun answer _ => ?_
  cases answer with
  | ok saved => exact (around.emit _).bind fun _ _ => .pure trivial
  | error error =>
    dsimp only
    split
    · exact (around.log _).bind fun _ _ => .pure trivial
    · exact (around.log _).bind fun _ _ => .pure within

/-- **One step of an attempt.** -/
theorem isBlind_step {attempt : Attempt S P Call Response} (within : attempt.IsWithin own) :
    IsBlind alike (Attempt.IsWithin own) (engine.step world attempt) := by
  cases attempt with
  | selected candidate => exact isBlind_claim blind around within
  | working leased rest => exact isBlind_work blind around within rest
  | waiting millis leased rest => exact .pure within
  | confirming leased next payload now =>
    have looks : IsBlind alike (fun _ => True) (engine.isCancelRequested world leased.id) := by
      unfold isCancelRequested
      refine (blind.store (.find leased.id) within).bind fun answer _ => ?_
      cases answer with
      | ok found => exact .pure trivial
      | error error => exact (around.log _).bind fun _ _ => .pure trivial
    exact looks.bind fun asked _ => .pure (isWithin_confirm within next payload now asked)
  | persisting leased result outcome => exact isBlind_persist blind around within.1 within.2 outcome
  | releasing leased =>
    refine (blind.store (.release leased.id engine.holder) within).bind fun answer _ => ?_
    cases answer with
    | ok had => exact .pure trivial
    | error error => exact (around.log _).bind fun _ _ => .pure trivial
  | ended ending => exact .pure trivial

/-- The steps of an attempt up to its next wait. -/
theorem isBlind_advance {attempt : Attempt S P Call Response} (within : attempt.IsWithin own) :
    IsBlind alike (Attempt.IsWithin own) (engine.advance world attempt) := by
  unfold advance
  generalize attempt.stepsLeft = count
  induction count generalizing attempt with
  | zero => exact .pure within
  | succ count ih =>
    unfold steps
    split
    · exact .pure within
    · exact .pure within
    · exact (isBlind_step blind around within).bind fun next withinNext => ih withinNext

end Engine

/-! ### Batches -/

/-- A seat of one of some entities. -/
def Seat.IsWithin (own : String → Prop) : Seat S P Call Response → Prop
  | .arrived candidate | .queued candidate => own candidate.id
  | .paused attempt | .resting _ attempt => attempt.IsWithin own
  | .left => True

namespace Batch

/-- A batch of some entities. -/
structure IsWithin (own : String → Prop) (batch : Batch S P Call Response) : Prop where
  outside : ∀ candidate ∈ batch.outside, own candidate.id
  seats : ∀ seat ∈ batch.seats, seat.IsWithin own

variable {batch : Batch S P Call Response} {number : Nat} {seat : Seat S P Call Response}

theorem isWithin_ofSelection (places : Nat) {selection : List (Entity S P)}
    (within : ∀ candidate ∈ selection, own candidate.id) :
    (ofSelection places selection : Batch S P Call Response).IsWithin own where
  outside candidate listed := within candidate (List.mem_of_mem_drop listed)
  seats := by
    intro seat listed
    obtain ⟨candidate, taken, rfl⟩ := List.mem_map.mp listed
    exact within candidate (List.mem_of_mem_take taken)

/-- Only the seats matter, and who is outside. -/
theorem IsWithin.congr {other : Batch S P Call Response} (within : batch.IsWithin own)
    (sameSeats : other.seats = batch.seats) (sameOutside : other.outside = batch.outside) :
    other.IsWithin own where
  outside := sameOutside ▸ within.outside
  seats := sameSeats ▸ within.seats

theorem IsWithin.reseat (within : batch.IsWithin own) (withinSeat : seat.IsWithin own) :
    (batch.reseat number seat).IsWithin own where
  outside := within.outside
  seats other listed := by
    rcases List.mem_or_eq_of_mem_set listed with earlier | rfl
    · exact within.seats other earlier
    · exact withinSeat

theorem IsWithin.pause (within : batch.IsWithin own) {attempt : Attempt S P Call Response}
    (withinAttempt : attempt.IsWithin own) : (batch.pause number attempt).IsWithin own :=
  have reseated : (batch.reseat number (.paused attempt)).IsWithin own := within.reseat withinAttempt
  reseated.congr rfl rfl

theorem IsWithin.lull (within : batch.IsWithin own) {attempt : Attempt S P Call Response}
    (withinAttempt : attempt.IsWithin own) (wakes : Nat) :
    (batch.lull number wakes attempt).IsWithin own :=
  have reseated : (batch.reseat number (.resting wakes attempt)).IsWithin own :=
    within.reseat withinAttempt
  reseated.congr rfl rfl

theorem IsWithin.fill (within : batch.IsWithin own) : batch.fill.IsWithin own := by
  obtain ⟨outside, seats⟩ := within
  unfold Batch.fill
  split
  · exact ⟨outside, seats⟩
  · next candidate rest waiting =>
    rw [waiting] at outside
    obtain ⟨first, later⟩ := List.forall_mem_cons.mp outside
    refine ⟨later, fun seat listed => ?_⟩
    rcases List.mem_append.mp listed with earlier | new
    · exact seats seat earlier
    · rw [List.mem_singleton.mp new]
      exact first

end Batch

namespace Engine

variable [DecidableEq S] [ProcessState S] {engine : Engine σ S P Call Response}
  (blind : engine.IsBlindTo alike own) (around : world.IsBlindTo alike) (lane now : Nat)
  {attempt : Attempt S P Call Response} {batch : Batch S P Call Response}

include blind around

/-- An attempt goes on. -/
theorem isBlind_goOn (number : Nat) (within : attempt.IsWithin own) (others : batch.IsWithin own)
    (permits : Permits) :
    IsBlind alike (fun result => result.1.IsWithin own)
      (engine.goOn world lane now number attempt batch permits) := by
  unfold goOn
  refine (isBlind_advance blind around within).bind fun reached withinReached => ?_
  cases reached with
  | ended ending =>
    have left : (batch.reseat number .left).IsWithin own := others.reseat trivial
    refine .pure (Batch.IsWithin.fill ?_)
    exact left.congr rfl rfl
  | waiting millis leased rest =>
    dsimp only
    split
    · exact .pure (others.pause withinReached)
    · exact .pure (others.lull withinReached _)
  | selected _ | working _ _ | confirming _ _ _ _ | persisting _ _ _ | releasing _ =>
    exact .pure (others.lull withinReached _)

theorem isBlind_goOnInTurn (number : Nat) (within : attempt.IsWithin own)
    (others : batch.IsWithin own) (permits : Permits) :
    IsBlind alike (fun result => result.1.IsWithin own)
      (engine.goOnInTurn world lane now number attempt batch permits) := by
  unfold goOnInTurn
  split
  · exact .pure (others.pause within)
  · exact isBlind_goOn blind around lane now number within others _

/-- The first seat in line goes on. -/
theorem isBlind_serve (within : batch.IsWithin own) (permits : Permits) :
    IsBlind alike (fun result => result.1.IsWithin own)
      (engine.serve world lane now batch permits) := by
  unfold serve
  split
  · exact .pure within
  · next number line _ =>
    have others : Batch.IsWithin own { batch with line := line } := within.congr rfl rfl
    dsimp only
    cases taken : batch.seats[number]? with
    | none => exact .pure others
    | some seat =>
      have withinSeat := within.seats seat (List.mem_of_getElem? taken)
      cases seat with
      | arrived candidate =>
        have begins : (Attempt.selected candidate : Attempt S P Call Response).IsWithin own :=
          withinSeat
        dsimp only
        split
        · split
          · exact isBlind_goOnInTurn blind around lane now number begins others _
          · exact isBlind_goOn blind around lane now number begins others _
        · exact .pure (others.reseat withinSeat)
      | queued candidate =>
        have begins : (Attempt.selected candidate : Attempt S P Call Response).IsWithin own :=
          withinSeat
        exact isBlind_goOnInTurn blind around lane now number begins others _
      | paused attempt =>
        have goesOn : attempt.IsWithin own := withinSeat
        cases attempt with
        | waiting millis leased rest => exact .pure (others.lull goesOn _)
        | selected _ | working _ _ | confirming _ _ _ _ | persisting _ _ _ | releasing _ | ended _ =>
          exact isBlind_goOnInTurn blind around lane now number goesOn others _
      | resting wakes attempt =>
        have resumed : attempt.resume.IsWithin own := by
          cases attempt <;> exact withinSeat
        exact isBlind_goOnInTurn blind around lane now number resumed others _
      | left => exact .pure others

/-- All that can go on at one time goes on. -/
theorem isBlind_serveAll (count : Nat) (within : batch.IsWithin own) (permits : Permits) :
    IsBlind alike (fun result => result.1.IsWithin own)
      (engine.serveAll world lane now count batch permits) := by
  induction count generalizing batch permits with
  | zero => exact .pure within
  | succ count ih =>
    unfold serveAll
    split
    · exact .pure within
    · have roused : batch.rouse.IsWithin own := within.congr rfl rfl
      exact ih roused _
    · exact (isBlind_serve blind around lane now within permits).bind
        fun result withinResult => ih withinResult _

/-- **A batch from one time to another.** -/
theorem isBlind_runBatch (limit : Nat) (within : batch.IsWithin own) (permits : Permits) :
    IsBlind alike (fun result => result.1.IsWithin own)
      (engine.runBatch world lane limit now batch permits) := by
  induction remains : limit - now using Nat.strongRecOn generalizing now batch permits with
  | ind remaining ih =>
    rw [runBatch]
    have settles : IsBlind alike (fun result => result.1.IsWithin own)
      (engine.settle world lane now batch permits) :=
      isBlind_serveAll blind around lane now _ within permits
    refine settles.bind fun result withinResult => ?_
    obtain ⟨settled, rest⟩ := result
    dsimp only
    split
    · exact .pure withinResult
    · next wakes _ =>
      split
      · next inTime =>
        refine (around.tick wakes).bind fun _ _ => ?_
        have awake : (settled.wake wakes).IsWithin own := withinResult.congr rfl rfl
        exact ih (limit - wakes) (by omega) wakes awake _ rfl
      · exact .pure withinResult

/-- **A poll that selects the same entities from two states does the same from both**, if the states
are alike afterwards. -/
theorem poll_blind (limit : Nat) (permits : Permits) {one other : σ} {selection : List (Entity S P)}
    (within : ∀ candidate ∈ selection, own candidate.id)
    (selects : (engine.select world one).1 = .ok selection)
    (selectsToo : (engine.select world other).1 = .ok selection)
    (same : alike (engine.select world one).2 (engine.select world other).2) :
    (∃ report, (engine.poll world limit permits one).1.1 = .ok report) ∧
      (engine.poll world limit permits one).1 = (engine.poll world limit permits other).1 ∧
      alike (engine.poll world limit permits one).2 (engine.poll world limit permits other).2 := by
  cases selection with
  | nil =>
    let idles : StateM σ (Except StoreError CycleReport × Permits) :=
      engine.noteIdle world >>= fun _ => return (.ok {}, permits)
    have rests : ∀ {state}, (engine.select world state).1 = .ok [] →
        engine.poll world limit permits state = idles (engine.select world state).2 := by
      intro state selected
      unfold poll
      rw [bind_apply, selected]
    have idle : IsBlind alike (fun result => ∃ report, result.1 = .ok report) idles :=
      (around.log _).bind fun _ _ => .pure ⟨_, rfl⟩
    rw [rests selects, rests selectsToo]
    obtain ⟨equal, good, later⟩ := idle _ _ same
    exact ⟨good, equal, later⟩
  | cons first rest =>
    let works : StateM σ (Except StoreError CycleReport × Permits) :=
      engine.runBatch world 0 limit 0 (engine.seatSelection (first :: rest)) permits >>=
        fun result => return (.ok result.1.report, result.2)
    have begins : ∀ {state}, (engine.select world state).1 = .ok (first :: rest) →
        engine.poll world limit permits state = works (engine.select world state).2 := by
      intro state selected
      unfold poll
      rw [bind_apply, selected]
    have seated : (engine.seatSelection (first :: rest) : Batch S P Call Response).IsWithin own :=
      Batch.isWithin_ofSelection _ within
    have goes : IsBlind alike (fun result => ∃ report, result.1 = .ok report) works :=
      (isBlind_runBatch blind around 0 0 limit seated permits).bind fun _ _ => .pure ⟨_, rfl⟩
    rw [begins selects, begins selectsToo]
    obtain ⟨equal, good, later⟩ := goes _ _ same
    exact ⟨good, equal, later⟩

end Engine

end Leasehold
