/-
**Every poll comes to its end.**

However many places a batch has, however small the pool and however long the handlers take: from
some limit of time on, all attempts of a poll have ended. From one time to the next the plans of a
seat become shorter, which cannot go on for ever. At one time the servings are enough: every seat
goes on a few times, and in every turn somebody does.

* `Batch.everyone`: the seats of a batch, with those that will be taken;
* `Batch.plans`, `Batch.effort`: what a batch has left to do, and how many servings this takes now;
* `Batch.CanBeServed`: a batch in order with servings enough;
* `Engine.canBeServed_goOn`, `Engine.canBeServed_serve`: it stays one with every serving;
* `Batch.IsSettled`, `Engine.isSettled_serveAll`: so all go on as far as they can;
* `Engine.isSettled_settle_wake`: when a sleeper wakes, somebody gets further;
* `Engine.Concludes`, `Engine.concludes_of_isSettled`: so every batch comes to its end;
* `Engine.exists_isThrough`: every poll is through from some limit of time on.
-/

import Leasehold.Proofs.Poll.Balance
import Leasehold.Proofs.Poll.Seating
import Mathlib.Logic.Hydra

set_option linter.unusedSectionVars false

namespace Leasehold

variable {σ S P Call : Type} {Response : Call → Type}

/-! ### What a batch has left to do -/

/-- What is left to do on a seat. -/
def Seat.plans : Seat S P Call Response → Multiset (Option (Work Call Response (Reply S P)))
  | .arrived _ | .queued _ => {none}
  | .paused attempt | .resting _ attempt => {attempt.plan?}
  | .left => 0

/-- How often a seat can go on at one time, and be better off for it. -/
def Seat.chances (now : Nat) : Seat S P Call Response → Nat
  | .arrived _ => 3
  | .queued _ => 2
  | .paused (.waiting ..) => 1
  | .paused _ => 2
  | .resting wakes _ => if wakes ≤ now then 2 else 0
  | .left => 0

/-- A time to wake in the future leaves no chances now. -/
theorem Seat.chances_of_later {attempt : Attempt S P Call Response} {wakes now : Nat}
    (later : now < wakes) : (Seat.resting wakes attempt).chances now = 0 :=
  if_neg (Nat.not_le_of_lt later)

/-- A rest that is over leaves two. -/
theorem Seat.one_lt_chances_of_due {attempt : Attempt S P Call Response} {wakes now : Nat}
    (due : wakes ≤ now) : 1 < (Seat.resting wakes attempt).chances now := by
  rw [show (Seat.resting wakes attempt).chances now = 2 from if_pos due]
  exact Nat.one_lt_two

namespace Batch

/-- The seats of a batch, and those that will be taken. -/
def everyone (batch : Batch S P Call Response) : List (Seat S P Call Response) :=
  batch.seats ++ batch.outside.map .arrived

/-- What is left to do on all seats. -/
def plans (batch : Batch S P Call Response) : Multiset (Option (Work Call Response (Reply S P))) :=
  (batch.everyone.map Seat.plans).sum

/-- How often the seats can go on at one time. -/
def chances (batch : Batch S P Call Response) (now : Nat) : Nat :=
  (batch.everyone.map (Seat.chances now)).sum

/-- A bound on the servings at one time. With each of its chances a seat may add two seats to the
line and end the turn. -/
def effort (batch : Batch S P Call Response) (now : Nat) (permits : Permits) : Nat :=
  batch.chances now * (batch.everyone.length + 3) + batch.line.length +
    if permits.isSpent then batch.everyone.length + 1 else 0

/-- A batch is further than another one, if the plans of one seat have become shorter. -/
def IsAhead (later batch : Batch S P Call Response) : Prop :=
  Relation.CutExpand Work.Shorter later.plans batch.plans

/-- Nobody in a batch has more left to do than in another one. -/
def IsNotBehind (later batch : Batch S P Call Response) : Prop :=
  Relation.ReflTransGen (Relation.CutExpand Work.Shorter) later.plans batch.plans

/-- A batch in order in which nobody waits in vain, and so many servings are enough for now. -/
structure CanBeServed (batch : Batch S P Call Response) (lane now : Nat) (permits : Permits)
    (servings : Nat) : Prop where
  orderly : batch.IsOrderly lane now permits []
  attended : batch.IsAttended permits
  enough : batch.effort now permits ≤ servings

variable {batch later : Batch S P Call Response} {lane now number : Nat} {left permits : Permits}
  {seat : Seat S P Call Response}

/-- In a sum over a list, a change of one item counts as much as the item. -/
theorem sum_map_set {α M : Type} [AddCommMonoid M] (weight : α → M) {items : List α} {place : Nat}
    {item : α} (there : items[place]? = some item) (next : α) :
    ((items.set place next).map weight).sum + weight item =
      (items.map weight).sum + weight next := by
  induction items generalizing place with
  | nil => cases there
  | cons first rest ih =>
    cases place with
    | zero =>
      cases there
      simp only [List.set_cons_zero, List.map_cons, List.sum_cons]
      ac_rfl
    | succ place =>
      simp only [List.set_cons_succ, List.map_cons, List.sum_cons]
      rw [add_assoc, ih there, add_assoc]

/-- Who takes a seat was counted before. -/
theorem everyone_fill : batch.fill.everyone = batch.everyone := by
  cases waiting : batch.outside with
  | nil => rw [fill_of_nil waiting]
  | cons candidate rest =>
    unfold everyone
    rw [fill_of_cons waiting, waiting, List.append_assoc]
    rfl

/-- There are servings enough for the effort. -/
theorem effort_le_servings (orderly : batch.IsOrderly lane now permits []) :
    batch.effort now permits ≤ batch.servings := by
  have three : ∀ seat : Seat S P Call Response, seat.chances now ≤ 3 := by
    intro seat
    unfold Seat.chances
    split <;> first | omega | (split <;> omega)
  have chances : batch.chances now ≤ batch.everyone.length * 3 := by
    have most := List.sum_le_card_nsmul (batch.everyone.map (Seat.chances now)) 3 <| by
      intro count listed
      obtain ⟨seat, _, rfl⟩ := List.mem_map.mp listed
      exact three seat
    rwa [List.length_map, smul_eq_mul] at most
  have places : batch.everyone.length = batch.outside.length + batch.seats.length := by
    unfold everyone
    rw [List.length_append, List.length_map, Nat.add_comm]
  have inLine : batch.line.length ≤ batch.everyone.length := by
    have all := orderly.length_le
    unfold placed at all
    simp only [List.length_append] at all
    omega
  have turn : (if permits.isSpent then batch.everyone.length + 1 else 0) ≤
      batch.everyone.length + 1 := by
    split <;> omega
  unfold effort servings
  rw [← places]
  dsimp only
  have square := Nat.le_mul_self batch.everyone.length
  have product := Nat.mul_le_mul_right (batch.everyone.length + 3) chances
  nlinarith

/-! #### One seat has gone on -/

section Reseated

variable {next : Seat S P Call Response} (there : batch.seats[number]? = some seat)
  (same : later.everyone = (batch.reseat number next).everyone)

include there same

/-- All but one seat are as before. -/
theorem everyone_eq_set : later.everyone = batch.everyone.set number next ∧
    batch.everyone[number]? = some seat := by
  have bounded := (List.getElem?_eq_some_iff.mp there).1
  refine ⟨same.trans ?_, (List.getElem?_append_left bounded).trans there⟩
  exact (List.set_append_left _ _ bounded).symm

theorem length_everyone_eq : later.everyone.length = batch.everyone.length := by
  rw [(everyone_eq_set there same).1, List.length_set]

/-- Whoever uses a chance pays for the line and for the turn. -/
theorem effort_le_of_chance (fewer : next.chances now < seat.chances now)
    (inLine : later.line.length ≤ batch.line.length + 2) (left permits : Permits) :
    later.effort now left ≤ batch.effort now permits := by
  obtain ⟨changed, counted⟩ := everyone_eq_set there same
  have spent := sum_map_set (Seat.chances now) counted next
  rw [← changed] at spent
  have paid : (later.chances now + 1) * (batch.everyone.length + 3) ≤
      batch.chances now * (batch.everyone.length + 3) := by
    refine Nat.mul_le_mul_right _ ?_
    unfold chances
    omega
  have turn : (if left.isSpent then batch.everyone.length + 1 else 0) ≤
      batch.everyone.length + 1 := by
    split <;> omega
  rw [Nat.succ_mul] at paid
  unfold effort
  rw [length_everyone_eq there same]
  omega

/-- Whoever only waits for the next turn pays nothing. -/
theorem effort_le_of_pause (noMore : next.chances now ≤ seat.chances now)
    (sameLine : later.line = batch.line) (permits : Permits) :
    later.effort now permits ≤ batch.effort now permits := by
  obtain ⟨changed, counted⟩ := everyone_eq_set there same
  have spent := sum_map_set (Seat.chances now) counted next
  rw [← changed] at spent
  unfold effort
  rw [length_everyone_eq there same, sameLine]
  refine Nat.add_le_add_right (Nat.add_le_add_right (Nat.mul_le_mul_right _ ?_) _) _
  unfold chances
  omega

/-- Shorter plans of one seat are shorter plans. -/
theorem isAhead_of_shorter {plan : Option (Work Call Response (Reply S P))}
    (planned : seat.plans = {plan}) (shorter : ∀ rest ∈ next.plans, Work.Shorter rest plan) :
    later.IsAhead batch := by
  obtain ⟨changed, counted⟩ := everyone_eq_set there same
  have moved := sum_map_set Seat.plans counted next
  rw [← changed, planned] at moved
  exact ⟨next.plans, plan, shorter, moved⟩

/-- The same plans on one seat are the same plans. -/
theorem plans_eq_of_same (unchanged : next.plans = seat.plans) : later.plans = batch.plans := by
  obtain ⟨changed, counted⟩ := everyone_eq_set there same
  have moved := sum_map_set Seat.plans counted next
  rw [← changed, unchanged] at moved
  exact add_right_cancel moved

end Reseated

end Batch

/-! ### Servings -/

namespace Permits

variable {permits taken : Permits}

/-- Only a used up pool has no permit to take. -/
theorem available_of_take? (none : permits.take? = none) : permits.available = some 0 := by
  unfold take? at none
  split at none
  · cases none
  · assumption
  · cases none

/-- A permit that is taken does not change the turn. -/
theorem isSpent_of_take? (takes : permits.take? = some taken) :
    taken.isSpent = permits.isSpent := by
  unfold take? at takes
  split at takes
  · cases takes
    rfl
  · cases takes
  · cases takes
    rfl

end Permits

namespace Engine

variable [DecidableEq S] [ProcessState S] (engine : Engine σ S P Call Response)
  (world : World σ Call Response) {lane now number : Nat} {batch : Batch S P Call Response}
  {permits : Permits} {seat : Seat S P Call Response} {attempt : Attempt S P Call Response}
  {state : σ}

/-- Who ends leaves the seat, passes the permit on, and makes room for the next. -/
theorem goOn_eq_of_ended {ending : Ending} {after : σ}
    (ended : engine.advance world attempt state = (.ended ending, after)) :
    let left := { batch.reseat number .left with
      report := batch.report.record ending }.takeGrants lane permits.giveBack
    engine.goOn world lane now number attempt batch permits state =
      ((left.1.fill, left.2), after) := by
  unfold goOn
  rw [bind_apply, ended]
  rfl

/-- Who waits rests in the seat, or pauses there if the turn is over. -/
theorem goOn_eq_of_waiting {millis : Nat} {leased : Entity S P}
    {rest : Work Call Response (Reply S P)} {after : σ}
    (waits : engine.advance world attempt state = (.waiting millis leased rest, after)) :
    engine.goOn world lane now number attempt batch permits state =
      ((if permits.isSpent then batch.pause number (.waiting millis leased rest)
        else batch.lull number (now + millis) (.waiting millis leased rest), permits), after) := by
  unfold goOn
  rw [bind_apply, waits]
  dsimp only
  split <;> rfl

section Going

variable (orderly : batch.IsOrderly lane now permits [number])
  (there : batch.seats[number]? = some seat) (underWay : attempt.IsUnderWay)
  (planned : seat.plans = {attempt.plan?}) (chances : 1 < seat.chances now)

include orderly there planned chances

/-- Who ends leaves the batch in order and further than before. -/
theorem canBeServed_of_ended {ending : Ending} {after : σ}
    (ended : engine.advance world attempt state = (.ended ending, after)) (pool : Permits) :
    let ran := engine.goOn world lane now number attempt batch permits state
    ran.1.1.CanBeServed lane now ran.1.2 (batch.effort now pool) ∧ ran.1.1.IsAhead batch := by
  intro ran
  have leaves := orderly.leave (batch.report.record ending)
  obtain ⟨passes, holder⟩ := leaves.passOn
  have went : ran = _ := engine.goOn_eq_of_ended world ended
  have same : ran.1.1.everyone = (batch.reseat number .left).everyone := by
    rw [went]
    exact Batch.everyone_fill
  have inLine : ran.1.1.line.length ≤ batch.line.length + 2 := by
    rw [went]
    exact Nat.le_trans Batch.length_line_fill (Nat.succ_le_succ leaves.length_passOn)
  refine ⟨⟨?_, ?_, ?_⟩, ?_⟩
  · rw [went]
    exact passes.fill
  · rw [went]
    exact .fill holder
  · exact Batch.effort_le_of_chance there same (Nat.lt_of_succ_lt chances) inLine _ pool
  · exact Batch.isAhead_of_shorter there same planned fun _ none => nomatch none

/-- So does who waits with less left to do. -/
theorem canBeServed_of_waiting {millis : Nat} {leased : Entity S P}
    {rest : Work Call Response (Reply S P)} {after : σ} (takes : millis ≠ 0)
    (shorter : Work.Shorter (some rest) attempt.plan?)
    (waits : engine.advance world attempt state = (.waiting millis leased rest, after))
    (pool : Permits) :
    let ran := engine.goOn world lane now number attempt batch permits state
    ran.1.1.CanBeServed lane now ran.1.2 (batch.effort now pool) ∧ ran.1.1.IsAhead batch := by
  intro ran
  have bounded := (List.getElem?_eq_some_iff.mp there).1
  let rests : Attempt S P Call Response := .waiting millis leased rest
  have less : ∀ plan ∈ ({rests.plan?} : Multiset (Option (Work Call Response (Reply S P)))),
      Work.Shorter plan attempt.plan? := by
    intro plan listed
    rw [Multiset.mem_singleton.mp listed]
    exact shorter
  have went : ran = _ := engine.goOn_eq_of_waiting world waits
  rw [went]
  split
  · next spent =>
    have same : (batch.pause number rests).everyone =
      (batch.reseat number (.paused rests)).everyone := rfl
    refine ⟨⟨orderly.pause bounded (.waiting takes leased rest) spent, .pause bounded _, ?_⟩, ?_⟩
    · exact Batch.effort_le_of_chance there same chances (Nat.le_add_right _ 2) _ pool
    · exact Batch.isAhead_of_shorter there same planned less
  · have later : now < now + millis := by omega
    have same : (batch.lull number (now + millis) rests).everyone =
      (batch.reseat number (.resting (now + millis) rests)).everyone := rfl
    have fewer : (Seat.resting (now + millis) rests).chances now < seat.chances now := by
      rw [Seat.chances_of_later later]
      exact Nat.lt_of_succ_lt chances
    refine ⟨⟨orderly.lull bounded (.resting later millis leased rest), .lull bounded _ _, ?_⟩, ?_⟩
    · exact Batch.effort_le_of_chance there same fewer (Nat.le_add_right _ 2) _ pool
    · exact Batch.isAhead_of_shorter there same planned less

include underWay

/-- **An attempt that goes on** leaves its batch in order and further than before. -/
theorem canBeServed_goOn (pool : Permits) (state : σ) :
    let ran := engine.goOn world lane now number attempt batch permits state
    ran.1.1.CanBeServed lane now ran.1.2 (batch.effort now pool) ∧ ran.1.1.IsAhead batch := by
  rcases engine.advance_cases world underWay state with
    ⟨ending, after, ended⟩ | ⟨millis, leased, rest, after, takes, shorter, waits⟩
  · exact engine.canBeServed_of_ended world orderly there planned chances ended pool
  · exact engine.canBeServed_of_waiting world orderly there planned chances takes shorter waits pool

/-- **An attempt goes on in the turn, or pauses.** -/
theorem canBeServed_goOnInTurn (state : σ) :
    let ran := engine.goOnInTurn world lane now number attempt batch permits state
    ran.1.1.CanBeServed lane now ran.1.2 (batch.effort now permits) ∧
      (ran.1.1.plans = batch.plans ∨ ran.1.1.IsAhead batch) := by
  have bounded := (List.getElem?_eq_some_iff.mp there).1
  intro ran
  cases spent : permits.isSpent with
  | true =>
    have pauses : ran = ((batch.pause number attempt, permits), state) := by
      show engine.goOnInTurn world lane now number attempt batch permits state = _
      unfold goOnInTurn
      rw [if_pos spent]
      rfl
    have two : (Seat.paused attempt).chances now = 2 := by
      cases underWay <;> rfl
    have same : (batch.pause number attempt).everyone =
      (batch.reseat number (.paused attempt)).everyone := rfl
    rw [pauses]
    refine ⟨⟨orderly.pause bounded (.underWay underWay) spent, .pause bounded _, ?_⟩, .inl ?_⟩
    · exact Batch.effort_le_of_pause there same (two ▸ chances) rfl permits
    · exact Batch.plans_eq_of_same there same planned.symm
  | false =>
    have goes : ran = engine.goOn world lane now number attempt batch permits.spend state := by
      show engine.goOnInTurn world lane now number attempt batch permits state = _
      unfold goOnInTurn
      rw [if_neg (Bool.eq_false_iff.mp spent)]
    obtain ⟨served, ahead⟩ := engine.canBeServed_goOn world (orderly.spend spent) there underWay
      planned chances permits state
    rw [goes]
    exact ⟨served, .inr ahead⟩

end Going

/-! #### The first in line -/

section First

variable {line : List Nat} (inLine : batch.line = number :: line)

include inLine

/-- Who was granted a permit goes on in the turn. -/
theorem serve_eq_of_queued {candidate : Entity S P}
    (there : batch.seats[number]? = some (.queued candidate)) :
    engine.serve world lane now batch permits =
      engine.goOnInTurn world lane now number (.selected candidate) batch.behind permits := by
  unfold serve
  rw [inLine, Batch.behind_eq inLine]
  dsimp only
  rw [there]

/-- Who finds a free permit goes on, in the turn if permits are needed. -/
theorem serve_eq_of_taken {candidate : Entity S P}
    (there : batch.seats[number]? = some (.arrived candidate)) {taken : Permits}
    (takes : permits.take? = some taken) :
    engine.serve world lane now batch permits =
      if taken.areNeeded then
        engine.goOnInTurn world lane now number (.selected candidate) batch.behind taken
      else engine.goOn world lane now number (.selected candidate) batch.behind taken := by
  unfold serve
  rw [inLine, Batch.behind_eq inLine]
  dsimp only
  rw [there]
  dsimp only
  rw [takes]

/-- Who finds none waits for one. -/
theorem serve_eq_of_none {candidate : Entity S P}
    (there : batch.seats[number]? = some (.arrived candidate)) (none : permits.take? = none) :
    engine.serve world lane now batch permits state =
      ((batch.behind.reseat number (.queued candidate), permits.enqueue ⟨lane, number⟩),
        state) := by
  unfold serve
  rw [inLine, Batch.behind_eq inLine]
  dsimp only
  rw [there]
  dsimp only
  rw [none]
  rfl

/-- Who could go on in the last turn goes on in this one. -/
theorem serve_eq_of_underWay (underWay : attempt.IsUnderWay)
    (there : batch.seats[number]? = some (.paused attempt)) :
    engine.serve world lane now batch permits =
      engine.goOnInTurn world lane now number attempt batch.behind permits := by
  unfold serve
  rw [inLine, Batch.behind_eq inLine]
  dsimp only
  rw [there]
  cases underWay <;> rfl

/-- Who began to wait in the last turn rests from now on. -/
theorem serve_eq_of_waiting {millis : Nat} {leased : Entity S P}
    {work : Work Call Response (Reply S P)}
    (there : batch.seats[number]? = some (.paused (.waiting millis leased work))) :
    engine.serve world lane now batch permits state =
      ((batch.behind.lull number (now + millis) (.waiting millis leased work), permits),
        state) := by
  unfold serve
  rw [inLine, Batch.behind_eq inLine]
  dsimp only
  rw [there]
  rfl

/-- Who wakes goes on with the rest of the work. -/
theorem serve_eq_of_resting {wakes millis : Nat} {leased : Entity S P}
    {work : Work Call Response (Reply S P)}
    (there : batch.seats[number]? = some (.resting wakes (.waiting millis leased work))) :
    engine.serve world lane now batch permits =
      engine.goOnInTurn world lane now number (.working leased work) batch.behind permits := by
  unfold serve
  rw [inLine, Batch.behind_eq inLine]
  dsimp only
  rw [there]
  rfl

/-- Who has just taken a seat begins, or waits for a permit. -/
theorem canBeServed_serve_arrived {candidate : Entity S P}
    (orderly : batch.behind.IsOrderly lane now permits [number])
    (attended : batch.IsAttended permits)
    (there : batch.behind.seats[number]? = some (.arrived candidate)) (state : σ) :
    let ran := engine.serve world lane now batch permits state
    ran.1.1.CanBeServed lane now ran.1.2 (batch.behind.effort now permits) ∧
      (ran.1.1.plans = batch.plans ∨ ran.1.1.IsAhead batch) := by
  have bounded := (List.getElem?_eq_some_iff.mp there).1
  intro ran
  cases takes : permits.take? with
  | none =>
    have queues : ran = _ := engine.serve_eq_of_none world inLine there takes
    have none := Permits.available_of_take? takes
    have fewer : (Seat.queued candidate : Seat S P Call Response).chances now <
      (Seat.arrived candidate : Seat S P Call Response).chances now := Nat.lt_succ_self 2
    rw [queues]
    refine ⟨⟨orderly.enqueue bounded candidate none, attended.enqueue inLine there none, ?_⟩,
      .inl ?_⟩
    · exact Batch.effort_le_of_chance there rfl fewer (Nat.le_add_right _ 2) _ _
    · exact Batch.plans_eq_of_same there rfl rfl
  | some taken =>
    have goes : ran = _ :=
      congrFun (engine.serve_eq_of_taken world inLine there takes) state
    have same : batch.behind.effort now taken = batch.behind.effort now permits := by
      unfold Batch.effort
      rw [Permits.isSpent_of_take? takes]
    have chances : 1 < (Seat.arrived candidate : Seat S P Call Response).chances now := by
      exact Nat.one_lt_succ_succ 1
    cases needed : taken.areNeeded with
    | true =>
      rw [if_pos needed] at goes
      rw [goes, ← same]
      exact engine.canBeServed_goOnInTurn world (orderly.take takes) there (.selected candidate) rfl
        chances state
    | false =>
      rw [if_neg (Bool.eq_false_iff.mp needed)] at goes
      obtain ⟨served, ahead⟩ := engine.canBeServed_goOn world (orderly.take takes) there
        (.selected candidate) rfl chances permits state
      rw [goes]
      exact ⟨served, .inr ahead⟩

/-- Who paused goes on, or begins to rest. -/
theorem canBeServed_serve_roused (orderly : batch.behind.IsOrderly lane now permits [number])
    (there : batch.behind.seats[number]? = some seat) (pauses : seat.Pauses) (state : σ) :
    let ran := engine.serve world lane now batch permits state
    ran.1.1.CanBeServed lane now ran.1.2 (batch.behind.effort now permits) ∧
      (ran.1.1.plans = batch.plans ∨ ran.1.1.IsAhead batch) := by
  have bounded := (List.getElem?_eq_some_iff.mp there).1
  intro ran
  cases pauses with
  | @underWay attempt underWay =>
    have goes : ran = _ :=
      congrFun (engine.serve_eq_of_underWay world inLine underWay there) state
    have two : 1 < (Seat.paused attempt).chances now := by
      cases underWay <;> exact Nat.one_lt_two
    rw [goes]
    exact engine.canBeServed_goOnInTurn world orderly there underWay rfl two state
  | @waiting millis takes leased work =>
    have rests : ran = _ := engine.serve_eq_of_waiting world inLine there
    have later : now < now + millis := by omega
    have fewer : (Seat.resting (now + millis) (.waiting millis leased work)).chances now <
        (Seat.paused (.waiting millis leased work)).chances now := by
      rw [Seat.chances_of_later later]
      exact Nat.one_pos
    rw [rests]
    refine ⟨⟨orderly.lull bounded (.resting later millis leased work), .lull bounded _ _, ?_⟩,
      .inl ?_⟩
    · exact Batch.effort_le_of_chance there rfl fewer (Nat.le_add_right _ 2) _ _
    · exact Batch.plans_eq_of_same there rfl rfl

/-- **The first in line is served.** The batch stays in order, and needs fewer servings. -/
theorem canBeServed_serve (orderly : batch.IsOrderly lane now permits [])
    (attended : batch.IsAttended permits) (state : σ) :
    let ran := engine.serve world lane now batch permits state
    ran.1.1.CanBeServed lane now ran.1.2 (batch.behind.effort now permits) ∧
      (ran.1.1.plans = batch.plans ∨ ran.1.1.IsAhead batch) := by
  obtain ⟨attends, seat, there, goesOn⟩ := orderly.attend inLine
  intro ran
  cases goesOn with
  | arrived candidate =>
    exact engine.canBeServed_serve_arrived world inLine attends attended there state
  | granted queues =>
    cases queues with
    | queued candidate =>
      have goes : ran = _ := congrFun (engine.serve_eq_of_queued world inLine there) state
      rw [goes]
      exact engine.canBeServed_goOnInTurn world attends there (.selected candidate) rfl
        Nat.one_lt_two state
  | roused pauses => exact engine.canBeServed_serve_roused world inLine attends there pauses state
  | awake due millis leased work =>
    have goes : ran = _ := congrFun (engine.serve_eq_of_resting world inLine there) state
    rw [goes]
    exact engine.canBeServed_goOnInTurn world attends there (.working leased work) rfl
      (Seat.one_lt_chances_of_due due) state

/-- **A sleeper that wakes goes on**, as the turn has just begun. -/
theorem canBeServed_serve_awake {wakes millis : Nat} {leased : Entity S P}
    {work : Work Call Response (Reply S P)} (orderly : batch.IsOrderly lane now permits.refresh [])
    (due : wakes ≤ now)
    (there : batch.seats[number]? = some (.resting wakes (.waiting millis leased work)))
    (state : σ) :
    let ran := engine.serve world lane now batch permits.refresh state
    ran.1.1.CanBeServed lane now ran.1.2 (batch.behind.effort now permits.refresh) ∧
      ran.1.1.IsAhead batch := by
  intro ran
  have goes : ran = engine.goOn world lane now number (.working leased work) batch.behind
      permits.refresh.spend state := by
    rw [← goOnInTurn_refresh]
    exact congrFun (engine.serve_eq_of_resting world inLine there) state
  have attends := (orderly.attend inLine).1.spend permits.isSpent_refresh
  rw [goes]
  exact engine.canBeServed_goOn world attends there (.working leased work) rfl
    (Seat.one_lt_chances_of_due due) permits.refresh state

end First

end Engine

/-! ### The end of a batch -/

namespace Batch

variable {batch : Batch S P Call Response} {lane now number more : Nat} {permits : Permits}
  {line : List Nat}

/-- More servings are enough too. -/
theorem CanBeServed.mono {servings : Nat} (served : batch.CanBeServed lane now permits servings)
    (within : servings ≤ more) : batch.CanBeServed lane now permits more :=
  { served with enough := Nat.le_trans served.enough within }

/-- One serving goes to the first in line. -/
theorem effort_behind (inLine : batch.line = number :: line) (now : Nat) (permits : Permits) :
    batch.behind.effort now permits + 1 = batch.effort now permits := by
  rw [behind_eq inLine]
  unfold effort
  rw [inLine, List.length_cons]
  exact Nat.add_right_comm _ _ 1

/-- **The next turn** costs one serving too, and those who paused can be served again. -/
theorem CanBeServed.rouse (served : batch.CanBeServed lane now permits more)
    (noLine : batch.line = []) (pauses : batch.paused ≠ []) :
    ∃ spare, more = spare + 1 ∧ batch.rouse.CanBeServed lane now permits.refresh spare := by
  have less : batch.rouse.effort now permits.refresh + 1 ≤ more := by
    refine Nat.le_trans ?_ served.enough
    have places := served.orderly.length_le
    unfold placed at places
    simp only [List.length_append] at places
    have seats : batch.seats.length ≤ batch.everyone.length := by
      unfold everyone
      rw [List.length_append]
      exact Nat.le_add_right _ _
    unfold effort
    rw [if_pos (served.orderly.spent pauses), permits.isSpent_refresh]
    show batch.chances now * (batch.everyone.length + 3) +
      (batch.line ++ batch.paused.reverse).length + 0 + 1 ≤ _
    rw [noLine, List.nil_append, List.length_reverse, List.length_nil]
    omega
  obtain ⟨spare, rfl⟩ := Nat.exists_eq_add_of_le' (Nat.le_trans (Nat.le_add_left 1 _) less)
  refine ⟨spare, rfl, served.orderly.rouse, served.attended.congr rfl rfl rfl ?_, by omega⟩
  refine List.perm_iff_count.mpr fun one => ?_
  simp only [Batch.rouse, List.count_append, List.count_reverse, List.count_nil]
  omega

/-- Everybody is in place, nobody waits in vain, and nobody goes on at present. -/
structure IsSettled (batch : Batch S P Call Response) (lane now : Nat) (permits : Permits) :
    Prop where
  orderly : batch.IsOrderly lane now permits []
  attended : batch.IsAttended permits
  noLine : batch.line = []
  nonePaused : batch.paused = []

end Batch

namespace Engine

variable [DecidableEq S] [ProcessState S] (engine : Engine σ S P Call Response)
  (world : World σ Call Response) {lane now fuel : Nat} {batch : Batch S P Call Response}
  {permits : Permits}

/-- **With enough servings all go on as far as they can**, and nobody has more left to do. -/
theorem isSettled_serveAll (served : batch.CanBeServed lane now permits fuel) (state : σ) :
    let ran := engine.serveAll world lane now fuel batch permits state
    ran.1.1.IsSettled lane now ran.1.2 ∧ ran.1.1.IsNotBehind batch := by
  induction fuel generalizing batch permits state with
  | zero =>
    have none := served.enough
    unfold Batch.effort at none
    have noLine : batch.line = [] := List.eq_nil_of_length_eq_zero (by omega)
    have nonePaused : batch.paused = [] := by
      by_contra pauses
      rw [if_pos (served.orderly.spent pauses)] at none
      omega
    exact ⟨⟨served.orderly, served.attended, noLine, nonePaused⟩, .refl⟩
  | succ fuel ih =>
    cases inLine : batch.line with
    | nil =>
      by_cases nonePaused : batch.paused = []
      · rw [serveAll_of_idle inLine nonePaused]
        exact ⟨⟨served.orderly, served.attended, inLine, nonePaused⟩, .refl⟩
      · obtain ⟨spare, same, roused⟩ := served.rouse inLine nonePaused
        obtain rfl := Nat.succ.inj same
        rw [serveAll_of_paused inLine nonePaused]
        exact ih roused state
    | cons number line =>
      have enough := served.enough
      rw [← Batch.effort_behind inLine] at enough
      obtain ⟨servedNext, further⟩ :=
        engine.canBeServed_serve world inLine served.orderly served.attended state
      obtain ⟨settled, since⟩ :=
        ih (servedNext.mono (Nat.le_of_succ_le_succ enough))
          (engine.serve world lane now batch permits state).2
      rw [serveAll_of_line inLine]
      refine ⟨settled, ?_⟩
      rcases further with same | ahead
      · unfold Batch.IsNotBehind at since ⊢
        rwa [same] at since
      · exact since.tail ahead

/-- **When a sleeper wakes, all go on as far as they can**, and somebody has less left to do. -/
theorem isSettled_settle_wake {next : Nat} (settled : batch.IsSettled lane now permits)
    (wakes : batch.nextWake? = some next) (state : σ) :
    let ran := engine.settle world lane next (batch.wake next) permits.refresh state
    ran.1.1.IsSettled lane next ran.1.2 ∧
      Relation.TransGen (Relation.CutExpand Work.Shorter) ran.1.1.plans batch.plans := by
  obtain ⟨_, number, line, first, time, millis, leased, work, due, there⟩ :=
    settled.orderly.wakes settled.noLine wakes
  have woken := settled.orderly.wake settled.noLine settled.nonePaused next
  have servings := Batch.effort_le_servings woken
  rw [← Batch.effort_behind first] at servings
  obtain ⟨spare, isSpare⟩ :=
    Nat.exists_eq_add_of_le' (Nat.le_trans (Nat.le_add_left 1 _) servings)
  have enough : (batch.wake next).behind.effort next permits.refresh ≤ spare := by omega
  obtain ⟨served, ahead⟩ := engine.canBeServed_serve_awake world first woken due there state
  obtain ⟨later, since⟩ := engine.isSettled_serveAll world (served.mono enough)
    (engine.serve world lane next (batch.wake next) permits.refresh state).2
  unfold settle
  rw [isSpare, serveAll_of_line first]
  exact ⟨later, .tail' since ahead⟩

/-- All who sit down first can be served, if there is a place and a permit. -/
theorem canBeServed_seatSelection (free : permits.IsFree) (selection : List (Entity S P))
    (lane now : Nat) : (engine.seatSelection selection).CanBeServed lane now permits
      (engine.seatSelection selection).servings :=
  have orderly := Batch.isOrderly_ofSelection free engine.config.concurrency selection
  have places := EngineConfig.concurrency_ne_zero engine.sound
  ⟨orderly, Batch.isAttended_ofSelection free places selection, Batch.effort_le_servings orderly⟩

/-- A batch that has settled comes to its end: all have left, or the next sleeper wakes, all go on
as far as they can, and the batch comes to its end from there. -/
inductive Concludes (lane : Nat) : Nat → Batch S P Call Response → Permits → σ → Prop where
  | ends {now : Nat} {batch : Batch S P Call Response} {permits : Permits} {state : σ}
      (settled : batch.IsSettled lane now permits) (noneWakes : batch.nextWake? = none)
      (isOver : batch.isOver = true) : Concludes lane now batch permits state
  | wakes {now next : Nat} {batch later : Batch S P Call Response} {permits left : Permits}
      {state after : σ} (settled : batch.IsSettled lane now permits)
      (wakes : batch.nextWake? = some next)
      (settles : engine.settle world lane next (batch.wake next) permits.refresh
        (world.tick next state).2 = ((later, left), after))
      (rest : Concludes lane next later left after) : Concludes lane now batch permits state

/-- **Every batch that has settled comes to its end.** Whenever a sleeper wakes, somebody has less
left to do afterwards, and that cannot go on for ever. -/
theorem concludes_of_isSettled (settled : batch.IsSettled lane now permits) (state : σ) :
    engine.Concludes world lane now batch permits state := by
  obtain ⟨plans, planned⟩ : ∃ plans, batch.plans = plans := ⟨_, rfl⟩
  induction Work.wellFounded_shorter.cutExpand.transGen.apply plans
    generalizing batch permits state now with
  | intro plans _ shorter =>
    cases wakes : batch.nextWake? with
    | none =>
      exact .ends settled wakes
        (settled.orderly.isOver settled.attended settled.noLine settled.nonePaused wakes)
    | some next =>
      obtain ⟨later, ahead⟩ := engine.isSettled_settle_wake world settled wakes
        (world.tick next state).2
      exact .wakes settled wakes rfl (shorter _ (planned ▸ ahead) later _ rfl)

variable {engine world} {state : σ}

theorem Concludes.isSettled (concludes : engine.Concludes world lane now batch permits state) :
    batch.IsSettled lane now permits := by
  cases concludes with
  | ends settled _ _ | wakes settled _ _ _ => exact settled

/-- Nothing goes on at present in a batch that has settled. -/
theorem settle_of_isSettled (settled : batch.IsSettled lane now permits) (state : σ) :
    engine.settle world lane now batch permits state = ((batch, permits), state) :=
  serveAll_of_idle settled.noLine settled.nonePaused

/-- A batch that has settled by now goes on from there. -/
theorem runBatch_of_settles {later : Batch S P Call Response} {left : Permits} {after : σ}
    (settled : later.IsSettled lane now left)
    (settles : engine.settle world lane now batch permits state = ((later, left), after))
    (limit : Nat) : engine.runBatch world lane limit now batch permits state =
      engine.runBatch world lane limit now later left after := by
  rw [runBatch, runBatch, bind_apply, bind_apply, settles, settle_of_isSettled settled]

/-- A batch that comes to its end is over from some limit of time on. -/
theorem Concludes.exists_isOver (concludes : engine.Concludes world lane now batch permits state) :
    ∃ bound, ∀ limit, bound ≤ limit →
      (engine.runBatch world lane limit now batch permits state).1.1.isOver = true := by
  induction concludes with
  | ends settled noneWakes isOver =>
    refine ⟨0, fun limit _ => ?_⟩
    rw [runBatch_of_settle (settle_of_isSettled settled _) noneWakes]
    exact isOver
  | @wakes now next batch later permits left state after settled wakes settles rest ih =>
    obtain ⟨bound, closes⟩ := ih
    refine ⟨max bound next, fun limit long => ?_⟩
    have inTime : now < next ∧ next ≤ limit :=
      ⟨(settled.orderly.wakes settled.noLine wakes).1, (Nat.max_le.mp long).2⟩
    rw [runBatch, bind_apply, settle_of_isSettled settled]
    dsimp only
    rw [wakes]
    dsimp only
    rw [dif_pos inTime, bind_apply, runBatch_of_settles rest.isSettled settles]
    exact closes limit (Nat.max_le.mp long).1

/-- **Every poll comes to its end.** Whatever the handlers do, and however the services answer: from
some limit of time on, a poll that finds a free permit is through with its selection. -/
theorem exists_isThrough (engine : Engine σ S P Call Response) (world : World σ Call Response)
    (free : permits.IsFree) (state : σ) :
    ∃ bound, ∀ limit, bound ≤ limit → engine.IsThrough world limit permits state := by
  rcases selects : engine.select world state with ⟨error | selection, next⟩
  · refine ⟨0, fun limit _ selection next selected => ?_⟩
    cases selects.symm.trans selected
  · obtain ⟨settled, _⟩ := engine.isSettled_serveAll world
      (engine.canBeServed_seatSelection free selection 0 0) next
    obtain ⟨bound, closes⟩ := (engine.concludes_of_isSettled world settled
      (engine.settle world 0 0 (engine.seatSelection selection) permits next).2).exists_isOver
    refine ⟨bound, fun limit long selected reached same => ?_⟩
    cases selects.symm.trans same
    rw [runBatch_of_settles settled rfl]
    exact closes limit long

end Engine

end Leasehold
