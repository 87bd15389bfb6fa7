/-
**What one move does to a lane.**

A lane looks at the signal and polls, its batch goes on until it is over, and it pauses until the
next look. Each phase has its own moves, and which entries a move adds to the record can be told
from the phase.

* `Lane.seesStop`: the next move of the lane finds that it has to stop;
* `Lane.IsAlert`: as long as the lane is at work, it has not looked at a signal to stop;
* `Lane.Keeps`: a lane does not change its signal, and does not stop without being asked to;
* `Engine.afterSelection`: where a poll leads with its selection;
* `Engine.Moves`: what a move does to a lane, and what it adds to the record;
* `moves_move`: every move is one of these.
-/

import Leasehold.Engine.Lane
import Leasehold.Proofs.Lane.Record

set_option linter.unusedSectionVars false

namespace Leasehold

variable {σ S P Call : Type} {Response : Call → Type} [DecidableEq S] [ProcessState S]

/-! ### Lanes and signals -/

namespace Signal

/-- Whether a signal asks to stop, or can do so no more. -/
def Asks (signal : Signal) : Prop := signal.raised = true ∨ signal.closed = true

/-- The signal after a script of changes. -/
def after (signal : Signal) (changes : List (Nat × SignalChange)) : Signal :=
  changes.foldl (fun signal change => signal.apply change.2) signal

/-- Two signals that say the same, whether or not they were seen. -/
structure Agrees (signal other : Signal) : Prop where
  raised : signal.raised = other.raised
  closed : signal.closed = other.closed

namespace Agrees

variable {signal other third : Signal}

theorem trans (first : signal.Agrees other) (second : other.Agrees third) : signal.Agrees third :=
  ⟨first.raised.trans second.raised, first.closed.trans second.closed⟩

theorem symm (agrees : signal.Agrees other) : other.Agrees signal :=
  ⟨agrees.raised.symm, agrees.closed.symm⟩

theorem asks (agrees : signal.Agrees other) (asks : signal.Asks) : other.Asks :=
  asks.imp agrees.raised.symm.trans agrees.closed.symm.trans

theorem apply (agrees : signal.Agrees other) (change : SignalChange) :
    (signal.apply change).Agrees (other.apply change) := by
  cases change with
  | raise | lower => exact ⟨rfl, agrees.closed⟩
  | notify => exact ⟨agrees.raised, agrees.closed⟩
  | close => exact ⟨agrees.raised, rfl⟩

theorem after (agrees : signal.Agrees other) (changes : List (Nat × SignalChange)) :
    (signal.after changes).Agrees (other.after changes) := by
  induction changes generalizing signal other with
  | nil => exact agrees
  | cons change rest ih => exact ih (agrees.apply change.2)

end Agrees

end Signal

/-- Whether a lane is between the beginning of a poll and the next look at the signal. -/
def Phase.isAtWork : Phase S P Call Response → Bool
  | .polling _ | .pausing _ => true
  | _ => false

/-- Whether a lane has seen that it has to stop. -/
def Phase.isEnding : Phase S P Call Response → Bool
  | .stopping | .stopped _ => true
  | _ => false

theorem Phase.isEnding_of_isAtWork {phase : Phase S P Call Response}
    (atWork : phase.isAtWork = true) : phase.isEnding = false := by
  cases phase with
  | polling _ | pausing _ => rfl
  | fresh | checking | stopping | stopped _ => cases atWork

/-- Whether the next move of a lane finds that it has to stop. Before a poll it looks at the signal;
in a pause it heeds a signal that it has not seen yet, and otherwise whether one can still come. -/
def Lane.seesStop (lane : Lane S P Call Response) : Bool :=
  match lane.phase with
  | .checking => lane.signal.raised
  | .pausing _ => if lane.signal.unseen then lane.signal.raised else lane.signal.closed
  | _ => false

theorem Lane.seesStop_of_checking {lane : Lane S P Call Response}
    (looks : lane.phase = .checking) : lane.seesStop = lane.signal.raised := by
  unfold Lane.seesStop
  rw [looks]

theorem Lane.seesStop_of_pausing {lane : Lane S P Call Response} {time : Nat}
    (rests : lane.phase = .pausing time) :
    lane.seesStop = if lane.signal.unseen then lane.signal.raised else lane.signal.closed := by
  unfold Lane.seesStop
  rw [rests]

theorem Lane.asks_of_seesStop {lane : Lane S P Call Response} (sees : lane.seesStop = true) :
    lane.signal.Asks := by
  unfold Lane.seesStop at sees
  split at sees
  · exact .inl sees
  · split at sees
    · exact .inl sees
    · exact .inr sees
  · cases sees

/-! #### Whether a lane can move -/

namespace Lane

variable {lane : Lane S P Call Response} {now : Nat}

theorem canMove_of_fresh (fresh : lane.phase = .fresh) : lane.canMove now = true := by
  unfold canMove
  rw [fresh]

theorem canMove_of_checking (looks : lane.phase = .checking) : lane.canMove now = true := by
  unfold canMove
  rw [looks]

theorem canMove_of_polling {batch : Batch S P Call Response}
    (polling : lane.phase = .polling batch) :
    lane.canMove now = (!batch.line.isEmpty || batch.isOver) := by
  unfold canMove
  rw [polling]

theorem canMove_of_pausing {time : Nat} (rests : lane.phase = .pausing time) :
    lane.canMove now = (lane.signal.unseen || lane.signal.closed || decide (time ≤ now)) := by
  unfold canMove
  rw [rests]

theorem canMove_of_stopping (ends : lane.phase = .stopping) : lane.canMove now = true := by
  unfold canMove
  rw [ends]

theorem canMove_of_stopped {time : Nat} (stopped : lane.phase = .stopped time) :
    lane.canMove now = false := by
  unfold canMove
  rw [stopped]

/-- Whoever sees that it has to stop can move. -/
theorem canMove_of_seesStop (sees : lane.seesStop = true) : lane.canMove now = true := by
  cases looks : lane.phase with
  | checking => exact canMove_of_checking looks
  | pausing time =>
    rw [seesStop_of_pausing looks] at sees
    rw [canMove_of_pausing looks]
    cases unseen : lane.signal.unseen with
    | true => rfl
    | false =>
      rw [unseen, if_neg Bool.false_ne_true] at sees
      rw [sees]
      rfl
  | fresh | polling _ | stopping | stopped _ =>
    unfold seesStop at sees
    rw [looks] at sees
    cases sees

end Lane

/-- A signal that asks to stop was not seen yet, as long as a lane is at work. -/
def Lane.IsAlert (lane : Lane S P Call Response) : Prop :=
  lane.phase.isAtWork = true → lane.signal.raised = true → lane.signal.unseen = true

theorem Lane.IsAlert.receive {lane : Lane S P Call Response} (alert : lane.IsAlert)
    (change : SignalChange) : (lane.receive change).IsAlert := by
  cases change with
  | raise | notify => exact fun _ _ => rfl
  | lower => exact fun _ raised => absurd raised Bool.false_ne_true
  | close => exact alert

namespace Lane

/-- Whoever has been asked to stop, or does so already. -/
def IsAsked (lane : Lane S P Call Response) : Prop :=
  lane.phase.isEnding = true ∨ lane.signal.Asks

/-- What nobody but those who give the signal changes in a lane. -/
structure Keeps (lane next : Lane S P Call Response) : Prop where
  signal : next.signal.Agrees lane.signal
  /-- It does not stop without being asked to. -/
  asked : next.phase.isEnding = true → lane.IsAsked

namespace Keeps

variable {lane next last : Lane S P Call Response}

theorem refl (lane : Lane S P Call Response) : lane.Keeps lane := ⟨⟨rfl, rfl⟩, .inl⟩

theorem isAsked (keeps : lane.Keeps next) (asked : next.IsAsked) : lane.IsAsked :=
  asked.elim keeps.asked fun asks => .inr (keeps.signal.asks asks)

theorem trans (first : lane.Keeps next) (second : next.Keeps last) : lane.Keeps last :=
  ⟨second.signal.trans first.signal, fun ends => first.isAsked (second.asked ends)⟩

end Keeps

theorem isEnding_rouse (lane : Lane S P Call Response) (now : Nat) (permits : Permits) :
    (lane.rouse now permits).1.phase.isEnding = lane.phase.isEnding := by
  unfold rouse
  cases looks : lane.phase with
  | polling batch => rfl
  | fresh | checking | pausing _ | stopping | stopped _ =>
    dsimp only
    rw [looks]

/-- Time that passes changes no signal. -/
theorem keeps_rouse (lane : Lane S P Call Response) (now : Nat) (permits : Permits) :
    lane.Keeps (lane.rouse now permits).1 where
  signal := by
    unfold rouse
    cases lane.phase <;> exact ⟨rfl, rfl⟩
  asked ends := .inl ((lane.isEnding_rouse now permits).symm.trans ends)

end Lane

/-! ### One move -/

namespace Engine

/-- Where a lane stands when a poll has selected. With nothing to do it pauses; otherwise the batch
takes its seats. -/
def afterSelection (engine : Engine σ S P Call Response) (now : Nat) :
    Except StoreError (List (Entity S P)) → Phase S P Call Response
  | .error _ | .ok [] => .pausing (now + engine.pauseMillis)
  | .ok (candidate :: rest) => .polling (engine.seatSelection (candidate :: rest))

theorem isAtWork_afterSelection (engine : Engine σ S P Call Response) (now : Nat)
    (answer : Except StoreError (List (Entity S P))) :
    (engine.afterSelection now answer).isAtWork = true := by
  unfold afterSelection
  split <;> rfl

/-- What one move does to a lane, and what it adds to the record. -/
inductive Moves (engine : Engine σ S P Call Response) (now : Nat) (lane : Lane S P Call Response) :
    List (Occurrence S P) → Lane S P Call Response → Prop where
  /-- The run begins. -/
  | begins (fresh : lane.phase = .fresh) : Moves engine now lane [] { lane with phase := .checking }
  /-- The signal to stop was seen before a poll. -/
  | heeds (looks : lane.phase = .checking) (raised : lane.signal.raised = true) :
      Moves engine now lane [] { lane with phase := .stopping }
  /-- A poll makes its selection, or fails with it. -/
  | selects (looks : lane.phase = .checking) (lowered : lane.signal.raised = false)
      (instant : Instant) (answer : Except StoreError (List (Entity S P))) :
      Moves engine now lane [.ran (.query (engine.criteria instant)) answer]
        { lane with phase := engine.afterSelection now answer }
  /-- The batch of a poll goes on. -/
  | works {batch : Batch S P Call Response} (polling : lane.phase = .polling batch)
      {more : List (Occurrence S P)} (kinds : ∀ entry ∈ more, entry.IsOfAttempt)
      (later : Batch S P Call Response) :
      Moves engine now lane more { lane with phase := .polling later }
  /-- The batch of a poll is over, and the lane pauses. -/
  | closes {batch : Batch S P Call Response} (polling : lane.phase = .polling batch)
      (isOver : batch.isOver = true) :
      Moves engine now lane [] { lane with phase := .pausing (now + engine.pauseMillis) }
  /-- A pause ends with the signal to stop, or with the next look at it. -/
  | wakes {time : Nat} (rests : lane.phase = .pausing time) :
      Moves engine now lane []
        { lane with
          phase := if lane.seesStop then .stopping else .checking
          signal := { lane.signal with unseen := false } }
  /-- The leases are given up. -/
  | clears (ends : lane.phase = .stopping)
      (answer : (Operation.releaseAll engine.holder : Operation S P).Answer) :
      Moves engine now lane [.ran (.releaseAll engine.holder) answer]
        { lane with phase := .stopped now }
  /-- The run is over. -/
  | rests {time : Nat} (stopped : lane.phase = .stopped time) : Moves engine now lane [] lane

namespace Moves

variable {engine : Engine σ S P Call Response} {lane next : Lane S P Call Response} {now : Nat}
  {more : List (Occurrence S P)} (moves : engine.Moves now lane more next)

include moves

/-- Whoever begins to stop has seen that it has to. -/
theorem seesStop_of_ending (goesOn : lane.phase.isEnding = false)
    (ends : next.phase.isEnding = true) : lane.seesStop = true := by
  cases moves with
  | heeds looks raised => exact (Lane.seesStop_of_checking looks).trans raised
  | wakes rests =>
    by_cases sees : lane.seesStop = true
    · exact sees
    · dsimp only at ends
      rw [if_neg sees] at ends
      cases ends
  | selects _ _ _ answer =>
    rw [Phase.isEnding_of_isAtWork (engine.isAtWork_afterSelection now answer)] at ends
    cases ends
  | begins _ | works _ _ _ | closes _ _ => cases ends
  | clears looks answer => exact absurd goesOn (by rw [looks]; exact Bool.noConfusion)
  | rests looks => exact absurd goesOn (by rw [looks]; exact Bool.noConfusion)

/-- A move leaves no signal unheeded. -/
theorem isAlert (alert : lane.IsAlert) : next.IsAlert := by
  cases moves with
  | begins _ | heeds _ _ | clears _ _ => exact fun atWork => absurd atWork Bool.false_ne_true
  | selects _ lowered _ _ =>
    exact fun _ raised => absurd (lowered.symm.trans raised) Bool.false_ne_true
  | works polling _ _ | closes polling _ => exact fun _ => alert (by rw [polling]; rfl)
  | wakes rests =>
    intro atWork
    dsimp only at atWork
    split at atWork <;> cases atWork
  | rests _ => exact alert

/-- Whoever stops has been asked to. -/
theorem keeps : lane.Keeps next where
  signal := by cases moves <;> exact ⟨rfl, rfl⟩
  asked ends := by
    cases already : lane.phase.isEnding with
    | true => exact .inl already
    | false => exact .inr (Lane.asks_of_seesStop (moves.seesStop_of_ending already ends))

end Moves

/-! ### The moves of each phase -/

section Phases

variable (engine : Engine σ S P Call Response) (world : World σ Call Response)
  {lane : Lane S P Call Response} (now : Nat) (permits : Permits) (state : σ)

theorem move_fresh (fresh : lane.phase = .fresh) :
    engine.move world now lane permits state =
      (({ lane with phase := .checking }, permits), (world.log engine.startEntry state).2) := by
  unfold move
  rw [fresh]
  rfl

theorem move_heeds (looks : lane.phase = .checking) (sees : lane.seesStop = true) :
    engine.move world now lane permits state =
      (({ lane with phase := .stopping }, permits), state) := by
  rw [Lane.seesStop_of_checking looks] at sees
  unfold move
  rw [looks]
  dsimp only
  rw [sees]
  rfl

/-- A poll begins, and leads where its selection leads. -/
theorem move_polls (looks : lane.phase = .checking) (blind : lane.seesStop = false) :
    engine.move world now lane permits state =
      (({ lane with phase := engine.afterSelection now (engine.select world state).1 }, permits),
        (engine.beginPoll world now state).2) := by
  have leads : (engine.beginPoll world now state).1 =
      engine.afterSelection now (engine.select world state).1 := by
    unfold beginPoll
    rw [bind_apply]
    rcases engine.select world state with ⟨error | _ | ⟨candidate, rest⟩, reached⟩ <;> rfl
  rw [Lane.seesStop_of_checking looks] at blind
  unfold move
  rw [looks]
  dsimp only
  rw [blind, ← leads]
  rfl

/-- The attempts of a poll go on. -/
theorem move_polling {batch : Batch S P Call Response} (polling : lane.phase = .polling batch)
    (busy : batch.isOver = false) :
    engine.move world now lane permits state =
      let settled := engine.settle world lane.number now batch permits state
      (({ lane with phase := .polling settled.1.1 }, settled.1.2), settled.2) := by
  unfold move
  rw [polling]
  dsimp only
  rw [busy]
  rfl

/-- A poll ends when its batch is over. -/
theorem move_isOver {batch : Batch S P Call Response} (polling : lane.phase = .polling batch)
    (isOver : batch.isOver = true) :
    engine.move world now lane permits state =
      (({ lane with phase := .pausing (now + engine.pauseMillis) }, permits),
        (engine.endPoll world now batch state).2) := by
  have pauses : (engine.endPoll world now batch state).1 =
      .pausing (now + engine.pauseMillis) := by
    unfold endPoll
    split <;> rfl
  unfold move
  rw [polling]
  dsimp only
  rw [if_pos isOver, bind_apply, pauses]
  rfl

/-- A pause ends, and the signal was seen. -/
theorem move_pausing {time : Nat} (rests : lane.phase = .pausing time) :
    engine.move world now lane permits state =
      (({ lane with
          phase := if lane.seesStop then .stopping else .checking
          signal := { lane.signal with unseen := false } }, permits.spend),
        (engine.endPause world lane.signal state).2) := by
  have leads : (engine.endPause world lane.signal state).1 =
      (if lane.seesStop then .stopping else .checking : Phase S P Call Response) := by
    unfold endPause
    rw [← Lane.seesStop_of_pausing rests]
    cases lane.seesStop <;> rfl
  unfold move
  rw [rests]
  dsimp only
  rw [bind_apply, leads]
  rfl

theorem move_stopping (ends : lane.phase = .stopping) :
    engine.move world now lane permits state =
      (({ lane with phase := .stopped now }, permits), (engine.stop world now state).2) := by
  unfold move
  rw [ends]
  rfl

end Phases

variable {engine : Engine σ S P Call Response} {world : World σ Call Response}
  {notes : σ → List (Occurrence S P)} (noted : engine.IsNoted world notes)

include noted

/-- A poll begins with its selection, which is recorded. -/
theorem IsNoted.beginPoll (now : Nat) (state : σ) :
    notes (engine.beginPoll world now state).2 = notes state ++
      [.ran (.query (engine.criteria (world.now state))) (engine.select world state).1] := by
  rcases answered : engine.store (.query (engine.criteria (world.now state))) state with
    ⟨answer, reached⟩
  have recorded := (noted.ran answered).1
  have selects : engine.select world state = (answer, reached) := answered
  unfold Engine.beginPoll
  rw [bind_apply, selects]
  rcases answer with error | _ | ⟨candidate, rest⟩
  · exact (noted.log _ reached).trans recorded
  · exact (noted.log _ reached).trans recorded
  · exact recorded

/-- The end of a batch is not recorded. -/
theorem IsNoted.endPoll (now : Nat) (batch : Batch S P Call Response) (state : σ) :
    notes (engine.endPoll world now batch state).2 = notes state := by
  unfold Engine.endPoll
  split
  · exact noted.log _ state
  · rfl

/-- The end of a pause is not recorded. -/
theorem IsNoted.endPause (signal : Signal) (state : σ) :
    notes (engine.endPause world signal state : Phase S P Call Response × σ).2 = notes state := by
  unfold Engine.endPause
  generalize (if signal.unseen then signal.raised else signal.closed) = stops
  cases stops with
  | true => exact noted.log _ state
  | false => rfl

/-- **Every move of a lane is one of these.** -/
theorem IsNoted.moves_move (now : Nat) (lane : Lane S P Call Response) (permits : Permits)
    (state : σ) :
    ∃ more, notes (engine.move world now lane permits state).2 = notes state ++ more ∧
      engine.Moves now lane more (engine.move world now lane permits state).1.1 := by
  have nothing : notes state = notes state ++ [] := (List.append_nil _).symm
  cases looks : lane.phase with
  | fresh =>
    rw [engine.move_fresh world now permits state looks]
    exact ⟨[], (noted.log _ state).trans nothing, .begins looks⟩
  | checking =>
    cases sees : lane.seesStop with
    | true =>
      rw [engine.move_heeds world now permits state looks sees]
      exact ⟨[], nothing, .heeds looks ((Lane.seesStop_of_checking looks).symm.trans sees)⟩
    | false =>
      rw [engine.move_polls world now permits state looks sees]
      exact ⟨_, noted.beginPoll now state,
        .selects looks ((Lane.seesStop_of_checking looks).symm.trans sees) _ _⟩
  | polling batch =>
    cases isOver : batch.isOver with
    | true =>
      rw [engine.move_isOver world now permits state looks isOver]
      exact ⟨[], (noted.endPoll now batch state).trans nothing, .closes looks isOver⟩
    | false =>
      obtain ⟨more, recorded, kinds⟩ := noted.adds_settle lane.number now batch permits state
      rw [engine.move_polling world now permits state looks isOver]
      exact ⟨more, recorded, .works looks kinds _⟩
  | pausing time =>
    rw [engine.move_pausing world now permits state looks]
    exact ⟨[], (noted.endPause _ state).trans nothing, .wakes looks⟩
  | stopping =>
    rw [engine.move_stopping world now permits state looks]
    exact ⟨_, (noted.log _ _).trans (noted.store _ state), .clears looks _⟩
  | stopped time =>
    unfold Engine.move
    rw [looks]
    exact ⟨[], nothing, .rests looks⟩

end Engine

end Leasehold
