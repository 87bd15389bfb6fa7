/-
**Everybody in a batch has one place.**

A seat that has not been left is in line, sleeps, pauses, or waits for a permit, and it does so
once. Whoever waits for a permit waits for somebody who has one, and whoever is outside waits for
somebody who has a seat. So nobody is forgotten.

* `Seat.CanGoOn`, `Seat.Sleeps`, `Seat.Pauses`, `Seat.Queues`: the seats that belong into a place;
* `Batch.IsOrderly`: all seats are in their places, except for those that are attended to;
* `IsOrderly.attend`: the first in line leaves its place;
* `IsOrderly.lull`, `IsOrderly.pause`, `IsOrderly.enqueue`, `IsOrderly.leave`: and finds another
  one, or leaves its seat;
* `IsOrderly.rouse`, `IsOrderly.wake`: a turn begins, and time passes;
* `Batch.IsAttended`: nobody waits in vain;
* `IsOrderly.isOver`: if nobody goes on any more, all have left;
* `IsOrderly.isFree_of_isOver`: and all permits have come back.
-/

import Leasehold.Proofs.Poll.Headway
import Mathlib.Data.List.Perm.Subperm

set_option linter.unusedSectionVars false

namespace Leasehold

variable {σ S P Call : Type} {Response : Call → Type}

/-! ### Seats and their places -/

namespace Seat

/-- A seat that waits for a permit. -/
inductive Queues : Seat S P Call Response → Prop where
  | queued (candidate : Entity S P) : Queues (.queued candidate)

/-- A seat that waits for the next turn. -/
inductive Pauses : Seat S P Call Response → Prop where
  | underWay {attempt : Attempt S P Call Response} (underWay : attempt.IsUnderWay) :
      Pauses (.paused attempt)
  | waiting {millis : Nat} (takes : millis ≠ 0) (leased : Entity S P)
      (work : Work Call Response (Reply S P)) : Pauses (.paused (.waiting millis leased work))

/-- A seat whose handler waits. -/
inductive Sleeps (now : Nat) : Seat S P Call Response → Prop where
  | resting {wakes : Nat} (later : now < wakes) (millis : Nat) (leased : Entity S P)
      (work : Work Call Response (Reply S P)) :
      Sleeps now (.resting wakes (.waiting millis leased work))

/-- A seat that can go on: it was just taken or granted a permit, or its pause or sleep is over. -/
inductive CanGoOn (now : Nat) : Seat S P Call Response → Prop where
  | arrived (candidate : Entity S P) : CanGoOn now (.arrived candidate)
  | granted {seat : Seat S P Call Response} (queues : seat.Queues) : CanGoOn now seat
  | roused {seat : Seat S P Call Response} (pauses : seat.Pauses) : CanGoOn now seat
  | awake {wakes : Nat} (due : wakes ≤ now) (millis : Nat) (leased : Entity S P)
      (work : Work Call Response (Reply S P)) :
      CanGoOn now (.resting wakes (.waiting millis leased work))

variable {now : Nat} {seat next : Seat S P Call Response} {seats : List (Seat S P Call Response)}
  {number : Nat} {numbers more : List Nat} {kind other : Seat S P Call Response → Prop}

/-- Some numbers are those of all seats that were not left, each once. -/
structure ArePlaced (seats : List (Seat S P Call Response)) (numbers : List Nat) : Prop where
  distinct : numbers.Nodup
  all : ∀ {number : Nat} {seat : Seat S P Call Response}, seats[number]? = some seat →
    seat ≠ .left → number ∈ numbers

/-- The order of the places does not matter. -/
theorem ArePlaced.perm (placed : ArePlaced seats numbers) (same : more.Perm numbers) :
    ArePlaced seats more :=
  ⟨same.nodup_iff.mpr placed.distinct, fun there stays => same.mem_iff.mpr (placed.all there stays)⟩

/-- All of some numbers belong to seats of a kind. -/
def Lists (seats : List (Seat S P Call Response)) (numbers : List Nat)
    (kind : Seat S P Call Response → Prop) : Prop :=
  ∀ number ∈ numbers, ∃ seat, seats[number]? = some seat ∧ kind seat

namespace Lists

theorem nil : Lists seats [] kind := fun _ none => nomatch none

theorem weaken (lists : Lists seats numbers kind) (implies : ∀ {seat}, kind seat → other seat) :
    Lists seats numbers other := fun number listed =>
  let ⟨seat, there, isKind⟩ := lists number listed
  ⟨seat, there, implies isKind⟩

theorem append (lists : Lists seats numbers kind) (listsMore : Lists seats more kind) :
    Lists seats (numbers ++ more) kind := fun number listed =>
  (List.mem_append.mp listed).elim (lists number) (listsMore number)

theorem concat (lists : Lists seats numbers kind) (there : seats[number]? = some seat)
    (isKind : kind seat) : Lists seats (numbers ++ [number]) kind :=
  lists.append fun _ same => List.mem_singleton.mp same ▸ ⟨seat, there, isKind⟩

theorem subset (lists : Lists seats numbers kind) (fewer : more ⊆ numbers) :
    Lists seats more kind := fun number listed => lists number (fewer listed)

/-- A change of another seat does not matter. -/
theorem set (lists : Lists seats numbers kind) (apart : number ∉ numbers) :
    Lists (seats.set number next) numbers kind := by
  intro one listed
  have other : number ≠ one := fun same => apart (by rwa [same])
  rw [List.getElem?_set_ne other]
  exact lists one listed

/-- One more seat does not matter. -/
theorem concatSeat (lists : Lists seats numbers kind) : Lists (seats ++ [next]) numbers kind := by
  intro one listed
  obtain ⟨seat, there, isKind⟩ := lists one listed
  have bounded := (List.getElem?_eq_some_iff.mp there).1
  exact ⟨seat, (List.getElem?_append_left bounded).trans there, isKind⟩

end Lists

end Seat

/-! ### Orderly batches -/

namespace Batch

/-- The numbers of the seats in all places. -/
def placed (batch : Batch S P Call Response) (permits : Permits) : List Nat :=
  batch.line ++ batch.sleepers ++ batch.paused ++ permits.queue.map (·.seat)

/-- Every seat that was not left has one place, or is busy. Only at the end of a turn somebody
pauses, and somebody waits for a permit only if there is none. -/
structure IsOrderly (batch : Batch S P Call Response) (lane now : Nat) (permits : Permits)
    (busy : List Nat) : Prop where
  inPlace : Seat.ArePlaced batch.seats (busy ++ batch.placed permits)
  line : Seat.Lists batch.seats batch.line (Seat.CanGoOn now)
  sleepers : Seat.Lists batch.seats batch.sleepers (Seat.Sleeps now)
  paused : Seat.Lists batch.seats batch.paused Seat.Pauses
  queue : Seat.Lists batch.seats (permits.queue.map (·.seat)) Seat.Queues
  lane : ∀ ticket ∈ permits.queue, ticket.lane = lane
  granted : permits.granted = []
  spent : batch.paused ≠ [] → permits.isSpent = true
  taken : permits.queue ≠ [] → permits.available = some 0

/-- Nobody waits in vain: if no permit is free, somebody has one, and if somebody is outside,
somebody has a seat. -/
structure IsAttended (batch : Batch S P Call Response) (permits : Permits) : Prop where
  holder : permits.available = some 0 → ∃ number ∈ batch.line ++ batch.sleepers ++ batch.paused,
    ∀ candidate, batch.seats[number]? ≠ some (.arrived candidate)
  guest : batch.outside ≠ [] → batch.line ++ batch.sleepers ++ batch.paused ≠ []

variable {batch : Batch S P Call Response} {permits taken : Permits} {lane now number : Nat}
  {busy line : List Nat} {seat next : Seat S P Call Response}

/-- The batch without the first in line. -/
def behind (batch : Batch S P Call Response) : Batch S P Call Response :=
  { batch with line := batch.line.tail }

theorem behind_eq (inLine : batch.line = number :: line) :
    batch.behind = { batch with line := line } := by
  unfold behind
  rw [inLine]
  rfl

theorem fill_of_nil (nobody : batch.outside = []) : batch.fill = batch := by
  unfold fill
  rw [nobody]

theorem fill_of_cons {candidate : Entity S P} {rest : List (Entity S P)}
    (waiting : batch.outside = candidate :: rest) :
    batch.fill = { batch with
      outside := rest
      seats := batch.seats ++ [.arrived candidate]
      line := batch.line ++ [batch.seats.length] } := by
  unfold fill
  rw [waiting]

/-- Whether the rest of a seat is over. -/
def isDue (batch : Batch S P Call Response) (later number : Nat) : Bool :=
  (batch.seats[number]?.bind wakeTime?).any (· ≤ later)

theorem wake_eq (later : Nat) :
    batch.wake later = { batch with
      line := batch.line ++ batch.sleepers.filter (batch.isDue later)
      sleepers := batch.sleepers.filter fun number => !batch.isDue later number } := by
  unfold wake
  rw [List.partition_eq_filter_filter]
  rfl

/-- A pool without grants lets nobody go on. -/
theorem takeGrants_of_nil (none : permits.granted = []) (lane : Nat) :
    batch.takeGrants lane permits = (batch, permits) := by
  unfold takeGrants
  rw [Permits.collect_of_nil none]
  dsimp only
  rw [List.append_nil]

/-- As long as somebody has to wake, not all have left. -/
theorem isOver_of_nextWake? {next : Nat} (wakes : batch.nextWake? = some next) :
    batch.isOver = false := by
  have timed : next ∈ batch.wakeTimes := (List.min?_eq_some_iff.mp wakes).1
  obtain ⟨seat, listed, rests⟩ := List.mem_filterMap.mp timed
  refine Bool.eq_false_iff.mpr fun isOver => ?_
  have left := List.all_eq_true.mp (Bool.and_eq_true_iff.mp isOver).2 seat listed
  cases seat with
  | left => cases rests
  | _ => cases left

theorem length_line_fill : batch.fill.line.length ≤ batch.line.length + 1 := by
  cases waiting : batch.outside with
  | nil =>
    rw [fill_of_nil waiting]
    exact Nat.le_succ _
  | cons candidate rest =>
    rw [fill_of_cons waiting]
    simp

namespace IsOrderly

/-- Only seats have places that were not left. -/
theorem exists_seat (orderly : batch.IsOrderly lane now permits busy)
    (listed : number ∈ batch.placed permits) :
    ∃ seat, batch.seats[number]? = some seat ∧ seat ≠ .left := by
  rcases List.mem_append.mp listed with listed | queued
  · rcases List.mem_append.mp listed with listed | pauses
    · rcases List.mem_append.mp listed with inLine | sleeps
      · obtain ⟨seat, there, goesOn⟩ := orderly.line number inLine
        refine ⟨seat, there, ?_⟩
        rintro rfl
        cases goesOn with
        | granted queues => cases queues
        | roused pauses => cases pauses
      · obtain ⟨seat, there, asleep⟩ := orderly.sleepers number sleeps
        refine ⟨seat, there, ?_⟩
        rintro rfl
        cases asleep
    · obtain ⟨seat, there, isPaused⟩ := orderly.paused number pauses
      refine ⟨seat, there, ?_⟩
      rintro rfl
      cases isPaused
  · obtain ⟨seat, there, isQueued⟩ := orderly.queue number queued
    refine ⟨seat, there, ?_⟩
    rintro rfl
    cases isQueued

theorem lt_length (orderly : batch.IsOrderly lane now permits busy)
    (listed : number ∈ batch.placed permits) : number < batch.seats.length :=
  let ⟨_, there, _⟩ := orderly.exists_seat listed
  (List.getElem?_eq_some_iff.mp there).1

/-- There are no more places in use than seats. -/
theorem length_le (orderly : batch.IsOrderly lane now permits busy) :
    (batch.placed permits).length ≤ batch.seats.length := by
  have within : batch.placed permits ⊆ List.range batch.seats.length :=
    fun _ listed => List.mem_range.mpr (orderly.lt_length listed)
  have fewer :=
    (List.subperm_of_subset (List.nodup_append.mp orderly.inPlace.distinct).2.1 within).length_le
  rwa [List.length_range] at fewer

/-! #### The one who is attended to -/

/-- The first in line is attended to. -/
theorem attend (orderly : batch.IsOrderly lane now permits [])
    (inLine : batch.line = number :: line) :
    batch.behind.IsOrderly lane now permits [number] ∧
      ∃ seat, batch.seats[number]? = some seat ∧ seat.CanGoOn now := by
  have same : [number] ++ batch.behind.placed permits = [] ++ batch.placed permits := by
    unfold placed behind
    rw [inLine]
    rfl
  have lists := orderly.line
  rw [inLine] at lists
  refine ⟨?_, lists number List.mem_cons_self⟩
  exact { orderly with
    inPlace := same ▸ orderly.inPlace
    line := orderly.line.subset fun _ listed => List.mem_of_mem_tail listed }

/-- Who is attended to has no place. -/
theorem notMem_placed (orderly : batch.IsOrderly lane now permits [number]) :
    number ∉ batch.placed permits := (List.nodup_cons.mp orderly.inPlace.distinct).1

/-- Whatever becomes of the seat that is attended to, the others keep their places. -/
theorem reseat (orderly : batch.IsOrderly lane now permits [number])
    (next : Seat S P Call Response) :
    (batch.reseat number next).IsOrderly lane now permits [number] := by
  have apart := orderly.notMem_placed
  unfold placed at apart
  simp only [List.mem_append, not_or] at apart
  obtain ⟨⟨⟨notInLine, awake⟩, goesOn⟩, notQueued⟩ := apart
  exact { orderly with
    inPlace := by
      refine ⟨orderly.inPlace.distinct, fun {one} _ there stays => ?_⟩
      by_cases same : number = one
      · rw [same]
        exact List.mem_cons_self
      · exact orderly.inPlace.all ((List.getElem?_set_ne same).symm.trans there) stays
    line := orderly.line.set notInLine
    sleepers := orderly.sleepers.set awake
    paused := orderly.paused.set goesOn
    queue := orderly.queue.set notQueued }

/-- Who is attended to may go to sleep. -/
theorem lull (orderly : batch.IsOrderly lane now permits [number])
    (bounded : number < batch.seats.length) {wakes : Nat} {attempt : Attempt S P Call Response}
    (sleeps : (Seat.resting wakes attempt).Sleeps now) :
    (batch.lull number wakes attempt).IsOrderly lane now permits [] := by
  have same : ((batch.lull number wakes attempt).placed permits).Perm
      ([number] ++ batch.placed permits) := by
    refine List.perm_iff_count.mpr fun one => ?_
    simp only [placed, Batch.lull, Batch.reseat, List.count_append]
    omega
  have reseated := orderly.reseat (.resting wakes attempt)
  exact { reseated with
    inPlace := reseated.inPlace.perm same
    sleepers := reseated.sleepers.concat (List.getElem?_set_self bounded) sleeps }

/-- Who is attended to may pause at the end of the turn. -/
theorem pause (orderly : batch.IsOrderly lane now permits [number])
    (bounded : number < batch.seats.length) {attempt : Attempt S P Call Response}
    (pauses : (Seat.paused attempt).Pauses) (spent : permits.isSpent = true) :
    (batch.pause number attempt).IsOrderly lane now permits [] := by
  have same : ((batch.pause number attempt).placed permits).Perm
      ([number] ++ batch.placed permits) := by
    refine List.perm_iff_count.mpr fun one => ?_
    simp only [placed, Batch.pause, Batch.reseat, List.count_append]
    omega
  have reseated := orderly.reseat (.paused attempt)
  exact { reseated with
    inPlace := reseated.inPlace.perm same
    paused := reseated.paused.concat (List.getElem?_set_self bounded) pauses
    spent := fun _ => spent }

/-- Who is attended to may wait for a permit, if there is none. -/
theorem enqueue (orderly : batch.IsOrderly lane now permits [number])
    (bounded : number < batch.seats.length) (candidate : Entity S P)
    (none : permits.available = some 0) :
    (batch.reseat number (.queued candidate)).IsOrderly lane now
      (permits.enqueue ⟨lane, number⟩) [] := by
  have same : ((batch.reseat number (.queued candidate)).placed
      (permits.enqueue ⟨lane, number⟩)).Perm ([number] ++ batch.placed permits) := by
    refine List.perm_iff_count.mpr fun one => ?_
    simp only [placed, Permits.enqueue, Batch.reseat, List.map_append, List.map_singleton,
      List.count_append]
    omega
  have reseated := orderly.reseat (.queued candidate)
  exact { reseated with
    inPlace := reseated.inPlace.perm same
    queue := by
      unfold Permits.enqueue
      rw [List.map_append]
      exact reseated.queue.concat (List.getElem?_set_self bounded) (.queued candidate)
    lane := List.forall_mem_append.mpr ⟨orderly.lane, List.forall_mem_singleton.mpr rfl⟩
    taken := fun _ => none }

/-- Who is attended to may leave its seat. -/
theorem leave (orderly : batch.IsOrderly lane now permits [number]) (report : CycleReport) :
    ({ batch.reseat number .left with report := report } : Batch S P Call Response).IsOrderly lane
      now permits [] := by
  have reseated := orderly.reseat .left
  exact { reseated with
    inPlace := by
      refine ⟨(List.nodup_cons.mp orderly.inPlace.distinct).2, fun there stays => ?_⟩
      rcases List.mem_cons.mp (reseated.inPlace.all there stays) with rfl | listed
      · have bounded := (List.getElem?_eq_some_iff.mp there).1
        rw [Batch.reseat, List.length_set] at bounded
        rw [Batch.reseat, List.getElem?_set_self bounded] at there
        exact absurd (Option.some.inj there).symm stays
      · exact listed }

/-! #### All others -/

/-- The pool may change, if nobody comes or goes there. -/
theorem congrPermits (orderly : batch.IsOrderly lane now permits busy) {other : Permits}
    (sameQueue : other.queue = permits.queue) (sameGranted : other.granted = permits.granted)
    (spent : batch.paused ≠ [] → other.isSpent = true)
    (taken : permits.queue ≠ [] → other.available = some 0) :
    batch.IsOrderly lane now other busy := by
  have same : batch.placed other = batch.placed permits := by
    unfold placed
    rw [sameQueue]
  exact { orderly with
    inPlace := same ▸ orderly.inPlace
    queue := sameQueue ▸ orderly.queue
    lane := sameQueue ▸ orderly.lane
    granted := sameGranted.trans orderly.granted
    spent := spent
    taken := fun waits => taken (sameQueue ▸ waits) }

/-- A turn that goes on may be used. -/
theorem spend (orderly : batch.IsOrderly lane now permits busy) (goesOn : permits.isSpent = false) :
    batch.IsOrderly lane now permits.spend busy := by
  refine orderly.congrPermits rfl rfl (fun pauses => ?_) orderly.taken
  rw [orderly.spent pauses] at goesOn
  cases goesOn

/-- A free permit may be taken. -/
theorem take (orderly : batch.IsOrderly lane now permits busy)
    (takes : permits.take? = some taken) : batch.IsOrderly lane now taken busy := by
  unfold Permits.take? at takes
  split at takes
  · cases takes
    exact orderly
  · cases takes
  · next left =>
    cases takes
    exact orderly.congrPermits rfl rfl orderly.spent fun waits => by
      rw [orderly.taken waits] at left
      cases left

/-- Who gives a permit back passes it on to the one who has waited longest. -/
theorem passOn (orderly : batch.IsOrderly lane now permits []) :
    (batch.takeGrants lane permits.giveBack).1.IsOrderly lane now
        (batch.takeGrants lane permits.giveBack).2 [] ∧
      ((batch.takeGrants lane permits.giveBack).2.available = some 0 →
        ∃ number ∈ (batch.takeGrants lane permits.giveBack).1.line,
          ∃ candidate, batch.seats[number]? = some (.queued candidate)) := by
  cases waiting : permits.queue with
  | nil =>
    have back : batch.takeGrants lane permits.giveBack =
        (batch, { permits with available := permits.available.map (· + 1) }) := by
      unfold takeGrants Permits.giveBack Permits.collect
      simp [waiting, orderly.granted]
    rw [back]
    refine ⟨orderly.congrPermits rfl rfl orderly.spent fun waits => absurd waiting waits, ?_⟩
    intro none
    obtain ⟨count, _, zero⟩ := Option.map_eq_some_iff.mp none
    exact absurd zero (Nat.succ_ne_zero count)
  | cons ticket rest =>
    have ours : ticket.lane = lane := orderly.lane ticket (waiting ▸ List.mem_cons_self)
    have back : batch.takeGrants lane permits.giveBack =
        ({ batch with line := batch.line ++ [ticket.seat] }, { permits with queue := rest }) := by
      unfold takeGrants Permits.giveBack Permits.collect
      simp [waiting, orderly.granted, ours]
    have same : (placed { batch with line := batch.line ++ [ticket.seat] }
        { permits with queue := rest }).Perm ([] ++ batch.placed permits) := by
      refine List.perm_iff_count.mpr fun one => ?_
      simp only [placed, waiting, List.map_cons, List.count_append, List.count_cons, List.count_nil]
      omega
    have queue := orderly.queue
    rw [waiting] at queue
    obtain ⟨seat, there, queues⟩ := queue ticket.seat List.mem_cons_self
    rw [back]
    refine ⟨{ orderly with
      inPlace := orderly.inPlace.perm same
      line := orderly.line.concat there (.granted queues)
      queue := queue.subset (List.subset_cons_self _ _)
      lane := fun other listed => orderly.lane other (waiting ▸ List.mem_cons_of_mem _ listed)
      taken := fun _ => orderly.taken (waiting ▸ List.cons_ne_nil _ _) }, fun _ => ?_⟩
    cases queues with
    | queued candidate =>
      exact ⟨ticket.seat, List.mem_append_right _ List.mem_cons_self, candidate, there⟩

/-- One permit lets one seat go on at most. -/
theorem length_passOn (orderly : batch.IsOrderly lane now permits busy) :
    (batch.takeGrants lane permits.giveBack).1.line.length ≤ batch.line.length + 1 := by
  have one : permits.giveBack.granted.length ≤ 1 := by
    unfold Permits.giveBack
    split
    · simp [orderly.granted]
    · simp [orderly.granted]
  show (batch.line ++ permits.giveBack.granted.filterMap _).length ≤ _
  rw [List.length_append]
  exact Nat.add_le_add_left (Nat.le_trans (List.length_filterMap_le _ _) one) _

/-- The next from outside stands in line. -/
theorem fill (orderly : batch.IsOrderly lane now permits []) :
    batch.fill.IsOrderly lane now permits [] := by
  cases waiting : batch.outside with
  | nil =>
    rw [fill_of_nil waiting]
    exact orderly
  | cons candidate rest =>
    rw [fill_of_cons waiting]
    have same : (placed { batch with
        outside := rest
        seats := batch.seats ++ [.arrived candidate]
        line := batch.line ++ [batch.seats.length] } permits).Perm
        (batch.seats.length :: batch.placed permits) := by
      refine List.perm_iff_count.mpr fun one => ?_
      simp only [placed, List.count_append, List.count_cons, List.count_nil]
      omega
    have fresh : batch.seats.length ∉ batch.placed permits :=
      fun listed => Nat.lt_irrefl _ (orderly.lt_length listed)
    exact { orderly with
      inPlace := by
        refine .perm ⟨List.nodup_cons.mpr ⟨fresh, orderly.inPlace.distinct⟩, ?_⟩ same
        intro one seat there stays
        refine List.mem_cons.mpr ?_
        by_cases early : one < batch.seats.length
        · rw [List.getElem?_append_left early] at there
          exact .inr (orderly.inPlace.all there stays)
        · have within := (List.getElem?_eq_some_iff.mp there).1
          rw [List.length_append, List.length_singleton] at within
          exact .inl (by omega)
      line := orderly.line.concatSeat.concat List.getElem?_concat_length (.arrived candidate)
      sleepers := orderly.sleepers.concatSeat
      paused := orderly.paused.concatSeat
      queue := orderly.queue.concatSeat }

/-- In the next turn those who paused stand in line. -/
theorem rouse (orderly : batch.IsOrderly lane now permits []) :
    batch.rouse.IsOrderly lane now permits.refresh [] := by
  have same : (batch.rouse.placed permits.refresh).Perm (batch.placed permits) := by
    refine List.perm_iff_count.mpr fun one => ?_
    simp only [placed, Batch.rouse, Permits.refresh, List.count_append, List.count_reverse,
      List.count_nil]
    omega
  have roused : Seat.Lists batch.seats batch.paused.reverse (Seat.CanGoOn now) :=
    (orderly.paused.weaken .roused).subset fun _ => List.mem_reverse.mp
  exact { orderly with
    inPlace := orderly.inPlace.perm same
    line := orderly.line.append roused
    paused := .nil
    spent := fun pauses => absurd rfl pauses }

/-- Who is asleep is due once the time to wake is not later. -/
theorem isDue_iff (orderly : batch.IsOrderly lane now permits busy) {later : Nat}
    (sleeps : number ∈ batch.sleepers) :
    ∃ wakes millis leased work,
      batch.seats[number]? = some (.resting wakes (.waiting millis leased work)) ∧
        (batch.isDue later number = true ↔ wakes ≤ later) := by
  obtain ⟨_, there, @⟨wakes, _, millis, leased, work⟩⟩ := orderly.sleepers number sleeps
  refine ⟨wakes, millis, leased, work, there, ?_⟩
  unfold isDue
  rw [there]
  exact decide_eq_true_iff

/-- When time passes, those whose rest is over stand in line. -/
theorem wake (orderly : batch.IsOrderly lane now permits []) (noLine : batch.line = [])
    (nonePaused : batch.paused = []) (later : Nat) :
    (batch.wake later).IsOrderly lane later permits.refresh [] := by
  have same : ((batch.wake later).placed permits.refresh).Perm (batch.placed permits) := by
    refine List.perm_iff_count.mpr fun one => ?_
    have parts := (List.filter_append_perm (batch.isDue later) batch.sleepers).count_eq one
    simp only [wake_eq, placed, Permits.refresh, List.count_append] at parts ⊢
    omega
  rw [wake_eq] at same ⊢
  exact { orderly with
    inPlace := orderly.inPlace.perm same
    line := by
      rw [noLine]
      intro one listed
      obtain ⟨sleeps, due⟩ := List.mem_filter.mp listed
      obtain ⟨wakes, millis, leased, work, there, isDue⟩ := orderly.isDue_iff sleeps
      exact ⟨_, there, .awake (isDue.mp due) millis leased work⟩
    sleepers := by
      intro one listed
      obtain ⟨sleeps, notDue⟩ := List.mem_filter.mp listed
      obtain ⟨wakes, millis, leased, work, there, isDue⟩ := orderly.isDue_iff sleeps
      rw [Bool.not_eq_true', Bool.eq_false_iff, ne_eq, isDue] at notDue
      exact ⟨_, there, .resting (Nat.lt_of_not_le notDue) millis leased work⟩
    spent := fun pauses => absurd nonePaused pauses }

end IsOrderly

/-! ### Nobody waits in vain -/

namespace IsAttended

/-- Who has a permit and a place is somebody to wait for. -/
theorem of_mem (listed : number ∈ batch.line ++ batch.sleepers ++ batch.paused)
    (holds : ∀ candidate, batch.seats[number]? ≠ some (.arrived candidate)) :
    batch.IsAttended permits :=
  ⟨fun _ => ⟨number, listed, holds⟩, fun _ => List.ne_nil_of_mem listed⟩

theorem lull (bounded : number < batch.seats.length) (wakes : Nat)
    (attempt : Attempt S P Call Response) :
    (batch.lull number wakes attempt).IsAttended permits := by
  have listed : number ∈ batch.line ++ (batch.sleepers ++ [number]) ++ batch.paused := by simp
  refine .of_mem listed fun candidate there => ?_
  cases there.symm.trans (List.getElem?_set_self bounded)

theorem pause (bounded : number < batch.seats.length) (attempt : Attempt S P Call Response) :
    (batch.pause number attempt).IsAttended permits := by
  have listed : number ∈ batch.line ++ batch.sleepers ++ (batch.paused ++ [number]) := by simp
  refine .of_mem listed fun candidate there => ?_
  cases there.symm.trans (List.getElem?_set_self bounded)

/-- Who waits for a permit waits for somebody else. -/
theorem enqueue (attended : batch.IsAttended permits) (inLine : batch.line = number :: line)
    {candidate : Entity S P} (there : batch.seats[number]? = some (.arrived candidate))
    (none : permits.available = some 0) :
    (batch.behind.reseat number (.queued candidate)).IsAttended
      (permits.enqueue ⟨lane, number⟩) := by
  obtain ⟨holder, listed, holds⟩ := attended.holder none
  have other : number ≠ holder := by
    rintro rfl
    exact holds candidate there
  rw [inLine] at listed
  have later : holder ∈ line ++ batch.sleepers ++ batch.paused :=
    (List.mem_cons.mp listed).resolve_left fun same => other same.symm
  rw [behind_eq inLine]
  refine .of_mem later fun candidate taken => ?_
  exact holds candidate ((List.getElem?_set_ne other).symm.trans taken)

/-- Who leaves makes room for the next from outside. -/
theorem fill (holder : permits.available = some 0 → ∃ number ∈ batch.line,
      ∃ candidate, batch.seats[number]? = some (.queued candidate)) :
    batch.fill.IsAttended permits := by
  cases waiting : batch.outside with
  | nil =>
    rw [fill_of_nil waiting]
    refine ⟨fun none => ?_, fun someone => absurd waiting someone⟩
    obtain ⟨number, listed, candidate, there⟩ := holder none
    refine ⟨number, List.mem_append_left _ (List.mem_append_left _ listed), fun other taken => ?_⟩
    cases there.symm.trans taken
  | cons guest rest =>
    rw [fill_of_cons waiting]
    refine ⟨fun none => ?_, fun _ => by simp⟩
    obtain ⟨number, listed, candidate, there⟩ := holder none
    refine ⟨number, by simp [listed], fun other taken => ?_⟩
    have bounded := (List.getElem?_eq_some_iff.mp there).1
    cases there.symm.trans ((List.getElem?_append_left bounded).symm.trans taken)

/-- It does not matter in which place somebody is. -/
theorem congr (attended : batch.IsAttended permits) {other : Batch S P Call Response}
    {pool : Permits} (sameSeats : other.seats = batch.seats)
    (sameOutside : other.outside = batch.outside)
    (sameAvailable : pool.available = permits.available)
    (same : (batch.line ++ batch.sleepers ++ batch.paused).Perm
      (other.line ++ other.sleepers ++ other.paused)) : other.IsAttended pool where
  holder none := by
    obtain ⟨number, listed, holds⟩ := attended.holder (sameAvailable ▸ none)
    exact ⟨number, same.mem_iff.mp listed, sameSeats ▸ holds⟩
  guest someone nobody := by
    rw [nobody] at same
    exact attended.guest (sameOutside ▸ someone) same.eq_nil

/-- When time passes, whoever wakes is still there. -/
theorem wake (attended : batch.IsAttended permits) (later : Nat) :
    (batch.wake later).IsAttended permits.refresh := by
  rw [wake_eq]
  refine attended.congr rfl rfl rfl (List.perm_iff_count.mpr fun one => ?_)
  have parts := (List.filter_append_perm (batch.isDue later) batch.sleepers).count_eq one
  simp only [List.count_append] at parts ⊢
  omega

end IsAttended

namespace IsOrderly

/-- Nobody but the sleepers has a time to wake. -/
theorem mem_sleepers (orderly : batch.IsOrderly lane now permits []) (noLine : batch.line = [])
    {wakes : Nat} {attempt : Attempt S P Call Response}
    (there : batch.seats[number]? = some (.resting wakes attempt)) : number ∈ batch.sleepers := by
  have placed : number ∈ batch.placed permits := orderly.inPlace.all there fun left => nomatch left
  unfold Batch.placed at placed
  rw [noLine] at placed
  rcases List.mem_append.mp placed with listed | queued
  · rcases List.mem_append.mp listed with sleeps | pauses
    · exact sleeps
    · obtain ⟨seat, found, isPaused⟩ := orderly.paused number pauses
      cases there.symm.trans found
      cases isPaused
  · obtain ⟨seat, found, isQueued⟩ := orderly.queue number queued
    cases there.symm.trans found
    cases isQueued

/-- **If nobody goes on any more, all have left.** -/
theorem isOver (orderly : batch.IsOrderly lane now permits []) (attended : batch.IsAttended permits)
    (noLine : batch.line = []) (nonePaused : batch.paused = [])
    (noneWakes : batch.nextWake? = none) : batch.isOver = true := by
  have noneSleeps : batch.sleepers = [] := by
    refine List.eq_nil_iff_forall_not_mem.mpr fun number sleeps => ?_
    obtain ⟨_, there, @⟨wakes, _, millis, leased, work⟩⟩ := orderly.sleepers number sleeps
    have timed : wakes ∈ batch.wakeTimes :=
      List.mem_filterMap.mpr ⟨_, List.mem_of_getElem? there, rfl⟩
    exact List.ne_nil_of_mem timed (List.min?_eq_none_iff.mp noneWakes)
  have nobody : batch.line ++ batch.sleepers ++ batch.paused = [] := by
    rw [noLine, noneSleeps, nonePaused]
    rfl
  have noneWaits : permits.queue = [] := by
    by_contra waits
    obtain ⟨number, listed, _⟩ := attended.holder (orderly.taken waits)
    rw [nobody] at listed
    cases listed
  refine Bool.and_eq_true_iff.mpr ⟨?_, List.all_eq_true.mpr fun seat listed => ?_⟩
  · by_contra someone
    exact attended.guest (fun none => someone (List.isEmpty_iff.mpr none)) nobody
  · obtain ⟨number, there⟩ := List.getElem?_of_mem listed
    cases seat with
    | left => rfl
    | _ =>
      have placed : number ∈ batch.placed permits :=
        orderly.inPlace.all there fun left => nomatch left
      unfold Batch.placed at placed
      rw [nobody, noneWaits] at placed
      cases placed

/-- Once all have left, nobody has a place. -/
theorem placed_of_isOver (orderly : batch.IsOrderly lane now permits busy)
    (isOver : batch.isOver = true) : batch.placed permits = [] := by
  refine List.eq_nil_iff_forall_not_mem.mpr fun number listed => ?_
  obtain ⟨seat, there, stays⟩ := orderly.exists_seat listed
  have left := List.all_eq_true.mp (Bool.and_eq_true_iff.mp isOver).2 seat
    (List.mem_of_getElem? there)
  cases seat with
  | left => exact stays rfl
  | _ => cases left

theorem isOver_of_line (orderly : batch.IsOrderly lane now permits busy)
    (inLine : batch.line = number :: line) : batch.isOver = false := by
  refine Bool.eq_false_iff.mpr fun isOver => ?_
  have nobody := orderly.placed_of_isOver isOver
  unfold Batch.placed at nobody
  rw [inLine] at nobody
  cases nobody

/-- Then all permits have come back, and nobody waits for one. -/
theorem isFree_of_isOver (orderly : batch.IsOrderly lane now permits [])
    (attended : batch.IsAttended permits) (isOver : batch.isOver = true) : permits.IsFree := by
  have nobody := orderly.placed_of_isOver isOver
  unfold Batch.placed at nobody
  obtain ⟨noneHasOne, noneWaits⟩ := List.append_eq_nil_iff.mp nobody
  refine ⟨⟨List.map_eq_nil_iff.mp noneWaits, orderly.granted⟩, fun none => ?_⟩
  obtain ⟨number, listed, _⟩ := attended.holder none
  rw [noneHasOne] at listed
  cases listed

/-- The next time to wake is later than now, and then a sleeper is the first in line. -/
theorem wakes (orderly : batch.IsOrderly lane now permits []) (noLine : batch.line = [])
    {next : Nat} (wakes : batch.nextWake? = some next) :
    now < next ∧ ∃ number line, (batch.wake next).line = number :: line ∧
      ∃ time millis leased work, time ≤ next ∧
        batch.seats[number]? = some (.resting time (.waiting millis leased work)) := by
  have timed : next ∈ batch.wakeTimes := (List.min?_eq_some_iff.mp wakes).1
  obtain ⟨seat, listed, rests⟩ := List.mem_filterMap.mp timed
  obtain ⟨sleeper, there⟩ := List.getElem?_of_mem listed
  cases seat with
  | resting time attempt =>
    cases rests
    have sleeps := orderly.mem_sleepers noLine there
    obtain ⟨_, found, @⟨_, later, _, _, _⟩⟩ := orderly.sleepers sleeper sleeps
    cases there.symm.trans found
    have due : batch.isDue next sleeper = true := by
      unfold isDue
      rw [there]
      exact decide_eq_true (Nat.le_refl next)
    have someone : batch.sleepers.filter (batch.isDue next) ≠ [] :=
      List.ne_nil_of_mem (List.mem_filter.mpr ⟨sleeps, due⟩)
    obtain ⟨number, line, awake⟩ := List.exists_cons_of_ne_nil someone
    have first : number ∈ batch.sleepers.filter (batch.isDue next) := by
      rw [awake]
      exact List.mem_cons_self
    obtain ⟨slept, firstDue⟩ := List.mem_filter.mp first
    obtain ⟨time, millis, leased, work, rests, isDue⟩ := orderly.isDue_iff slept
    refine ⟨later, number, line, ?_, time, millis, leased, work, isDue.mp firstDue, rests⟩
    rw [wake_eq, noLine]
    exact awake
  | _ => cases rests

end IsOrderly

/-! ### The first seats -/

/-- Those who sit down first stand in line. -/
theorem isOrderly_ofSelection (free : permits.IsFree) (places : Nat)
    (selection : List (Entity S P)) :
    (ofSelection places selection : Batch S P Call Response).IsOrderly lane now permits [] where
  inPlace := by
    have same : (ofSelection places selection : Batch S P Call Response).placed permits =
        List.range (selection.take places).length := by
      simp [placed, ofSelection, free.queue]
    rw [List.nil_append, same]
    refine ⟨List.nodup_range, fun there _ => List.mem_range.mpr ?_⟩
    have bounded := (List.getElem?_eq_some_iff.mp there).1
    rwa [ofSelection, List.length_map] at bounded
  line := by
    intro number listed
    have bounded : number < (selection.take places).length := List.mem_range.mp listed
    refine ⟨_, ?_, .arrived (selection.take places)[number]⟩
    show ((selection.take places).map Seat.arrived)[number]? = _
    rw [List.getElem?_map, List.getElem?_eq_getElem bounded]
    rfl
  sleepers := .nil
  paused := .nil
  queue := by
    rw [free.queue]
    exact .nil
  lane := by
    rw [free.queue]
    exact fun _ none => nomatch none
  granted := free.granted
  spent pauses := absurd rfl pauses
  taken waits := absurd free.queue waits

theorem isAttended_ofSelection (free : permits.IsFree) {places : Nat} (some : places ≠ 0)
    (selection : List (Entity S P)) :
    (ofSelection places selection : Batch S P Call Response).IsAttended permits where
  holder none := absurd none free.available
  guest someone nobody := by
    have empty : selection.take places = [] := by
      simpa [ofSelection] using nobody
    rcases List.take_eq_nil_iff.mp empty with none | rfl
    · exact some none
    · exact someone List.drop_nil

end Batch

end Leasehold
