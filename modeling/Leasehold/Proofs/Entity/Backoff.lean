/-
**The delays of a policy, and who is due.**

Delays double in 32 bits, so from 32 attempts on the delay is the longest one, whatever the base
delay is. A filter has one cutoff for each count below the first count with the longest delay, which
is therefore at most 32.

* `doubled`: the doubling rule on whole nanoseconds, without any bound on the way;
* `delayFor_exact`: when a delay follows the rule, and what it is when it does not;
* `IsCappedAt`, `cutoffsFrom_eq`: the cutoffs as a list, one for each count before the cap;
* `admits_eq_isDue`: the filter lets pass exactly what is due;
* `dueFilter_exact`: both together.
-/

import Leasehold.Proofs.Entity.Retry
import Mathlib.Algebra.Order.Ring.Nat
import Mathlib.Data.Nat.Find

namespace Leasehold.RetryPolicy

variable {S P : Type} (policy : RetryPolicy)

/-! ### The doubling rule -/

/-- The base delay doubled for each attempt and at most the longest delay, in nanoseconds. No number
on the way is too large. -/
def doubled (count : Nat) : Nat :=
  min (policy.baseDelay.nanos * 2 ^ count) policy.maxDelay.nanos

/-- Below 32 attempts the rule holds: a product out of range is beyond the longest delay too. -/
theorem nanos_delayFor_of_few {count : Nat} (few : count < 32) :
    (policy.delayFor count).nanos = policy.doubled count := by
  have shifted : 1 <<< count = 2 ^ count := Nat.one_shiftLeft count
  have longest := policy.maxDelay.isLt
  unfold doubled
  rw [nanos_delayFor, shifted]
  by_cases inRange : policy.baseDelay.nanos * 2 ^ count < UInt64.size * 1000000000
  · rw [if_pos ⟨few, inRange⟩]
  · rw [if_neg fun both => inRange both.2, Nat.min_eq_right]
    omega

/-- **The delay after so many attempts.** It is the base delay doubled for each of them as long as
they are fewer than 32, and the longest delay from there on. This is the doubling rule exactly if the
rule has reached the longest delay by then. -/
theorem delayFor_exact (count : Nat) :
    (policy.delayFor count).nanos =
        (if count < 32 then policy.doubled count else policy.maxDelay.nanos) ∧
      ((policy.delayFor count).nanos = policy.doubled count ↔
        count < 32 ∨ policy.maxDelay.nanos ≤ policy.baseDelay.nanos * 2 ^ count) := by
  by_cases few : count < 32
  · have same := policy.nanos_delayFor_of_few few
    rw [if_pos few]
    exact ⟨same, fun _ => .inl few, fun _ => same⟩
  · have longest : policy.delayFor count = policy.maxDelay :=
      policy.delayFor_of_many (Nat.le_of_not_lt few)
    rw [if_neg few, longest]
    refine ⟨rfl, fun same => .inr ?_, fun reached => ?_⟩
    · exact min_eq_right_iff.mp same.symm
    · exact (Nat.min_eq_right (reached.resolve_left few)).symm

/-- A policy without a delay before the first attempts. -/
def immediate : RetryPolicy := { baseDelay := Duration.zero }

/-- **The rule fails for a policy without delays**: after 32 attempts its delay is the longest one.
The filter goes on to let everything pass, so it lets an entity pass that is not due. -/
theorem immediate_waits_after_many :
    (immediate.delayFor 32).nanos ≠ immediate.doubled 32 ∧
      (immediate.dueFilter Instant.epoch).admits 32 Instant.epoch = true ∧
      immediate.isDue { Entity.fresh "x" () () Dictionary.empty Instant.epoch with
        stateCount := 32 } Instant.epoch = false := by
  have none : immediate.doubled 32 = 0 := by
    unfold doubled
    rw [show immediate.baseDelay.nanos = 0 from rfl, Nat.zero_mul, Nat.zero_min]
  refine ⟨?_, by decide, by decide⟩
  rw [none]
  decide

/-! ### The cutoffs as a list -/

/-- The first count with the longest delay. -/
structure IsCappedAt (count : Nat) : Prop where
  capped : policy.maxDelay ≤ policy.delayFor count
  growing : ∀ lower < count, policy.delayFor lower < policy.maxDelay

/-- After 32 attempts at the latest a delay is the longest one. -/
theorem exists_isCappedAt : ∃ count ≤ 32, policy.IsCappedAt count := by
  have many : policy.maxDelay ≤ policy.delayFor 32 := by
    rw [policy.delayFor_of_many (Nat.le_refl 32)]
    exact Nat.le_refl _
  have some : ∃ count, policy.maxDelay ≤ policy.delayFor count := ⟨32, many⟩
  refine ⟨Nat.find some, Nat.find_min' some many, Nat.find_spec some, fun lower below => ?_⟩
  exact Nat.lt_of_not_le (Nat.find_min some below)

/-- **The cutoffs from a count on are one for each count before the cap**, and the bound on the
number of steps is not reached. -/
theorem cutoffsFrom_eq (now : Instant) {start length steps : Nat}
    (isCapped : policy.IsCappedAt (start + length)) (enough : length ≤ steps) :
    policy.cutoffsFrom now start steps =
      ⟨(List.range' start length).map fun count => now.minus (policy.delayFor count),
        now.minus policy.maxDelay⟩ := by
  induction length generalizing start steps with
  | zero =>
    have capped : policy.maxDelay ≤ policy.delayFor start := isCapped.capped
    have longest : policy.delayFor start = policy.maxDelay :=
      Duration.ext (Nat.le_antisymm (policy.delayFor_le_maxDelay start) capped)
    cases steps with
    | zero => rw [cutoffsFrom, longest, List.range'_zero, List.map_nil]
    | succ steps => rw [cutoffsFrom, if_pos capped, longest, List.range'_zero, List.map_nil]
  | succ length ih =>
    obtain ⟨steps, rfl⟩ : ∃ fewer, steps = fewer + 1 := ⟨steps - 1, by omega⟩
    have notYet : ¬policy.maxDelay ≤ policy.delayFor start :=
      Nat.not_le_of_lt (isCapped.growing start (by omega))
    have later : policy.IsCappedAt (start + 1 + length) := by
      rwa [Nat.add_right_comm, Nat.add_assoc]
    rw [cutoffsFrom, if_neg notYet, ih later (Nat.le_of_succ_le_succ enough), List.range'_succ,
      List.map_cons]

/-- An earlier or equal delay leaves a later or equal instant. -/
theorem minus_anti (now : Instant) {shorter longer : Duration} (order : shorter ≤ longer) :
    now.minus longer ≤ now.minus shorter := by
  have apart : shorter.nanos ≤ longer.nanos := order
  show (now.minus longer).nanos ≤ (now.minus shorter).nanos
  rw [Instant.nanos_minus, Instant.nanos_minus]
  omega

/-! ### Who is due -/

/-- **The filter lets pass exactly what is due.** The sum of stamp and delay may lie beyond the last
instant, and the difference of instant and delay before the first. -/
theorem admits_eq_isDue (delayed : policy.baseDelay.isZero = false) {now : Instant}
    (before : now < Instant.last) {entity : Entity S P}
    (inside : Instant.first < entity.stateTimestamp) :
    (policy.dueFilter now).admits entity.stateCount entity.stateTimestamp =
      policy.isDue entity now := by
  have below : now.nanos < Instant.last.nanos := before
  have due : policy.isDue entity now = true ↔
      entity.stateTimestamp.nanos + (policy.delayFor entity.stateCount).nanos ≤ now.nanos := by
    unfold isDue nextDueAt
    rw [decide_eq_true_iff]
    show (entity.stateTimestamp.plus _).nanos ≤ now.nanos ↔ _
    rw [Instant.nanos_plus]
    omega
  rw [Bool.eq_iff_iff, policy.admits_iff delayed inside, due]

/-- The cutoffs of a filter, one for each count before the cap. Any bound on the steps that leaves
room for 32 of them gives this list. -/
theorem exists_cutoffsFrom_eq (now : Instant) :
    ∃ length ≤ 32, policy.IsCappedAt length ∧ ∀ bound, 32 ≤ bound →
      policy.cutoffsFrom now 0 bound =
        ⟨(List.range' 0 length).map fun count => now.minus (policy.delayFor count),
          now.minus policy.maxDelay⟩ := by
  obtain ⟨length, most, isCapped⟩ := policy.exists_isCappedAt
  refine ⟨length, most, isCapped, fun bound enough => ?_⟩
  exact policy.cutoffsFrom_eq now (by rwa [Nat.zero_add]) (Nat.le_trans most enough)

/-- **The filter is the due predicate.** It ends at the first count with the longest delay, after at
most 32 cutoffs, so any larger bound on its steps gives the same filter. Its cutoffs do not increase,
and the one for all higher counts is at or below them. -/
theorem dueFilter_exact (delayed : policy.baseDelay.isZero = false) (now : Instant) :
    (∀ entity : Entity S P, Instant.first < entity.stateTimestamp → now < Instant.last →
      (policy.dueFilter now).admits entity.stateCount entity.stateTimestamp =
        policy.isDue entity now) ∧
    (policy.dueFilter now).cutoffs.length ≤ 32 ∧
    policy.IsCappedAt (policy.dueFilter now).cutoffs.length ∧
    (∀ bound, 32 ≤ bound → policy.cutoffsFrom now 0 bound = policy.dueFilter now) ∧
    (policy.dueFilter now).cutoffs.Pairwise (fun earlier later => later ≤ earlier) ∧
    ∀ cutoff ∈ (policy.dueFilter now).cutoffs, (policy.dueFilter now).fallback ≤ cutoff := by
  obtain ⟨length, most, isCapped, listed⟩ := policy.exists_cutoffsFrom_eq now
  have filter : policy.dueFilter now = policy.cutoffsFrom now 0 64 := by
    unfold dueFilter
    rw [delayed, if_neg Bool.false_ne_true]
  refine ⟨fun entity inside before => policy.admits_eq_isDue delayed before inside, ?_⟩
  rw [filter, listed 64 (by decide)]
  dsimp only
  rw [List.length_map, List.length_range']
  refine ⟨most, isCapped, listed, ?_, ?_⟩
  · rw [List.pairwise_map]
    refine (List.pairwise_lt_range' 1).imp fun order => ?_
    exact minus_anti now (policy.delayFor_mono (Nat.le_of_lt order))
  · intro cutoff member
    obtain ⟨count, -, rfl⟩ := List.mem_map.mp member
    exact minus_anti now (policy.delayFor_le_maxDelay count)

/-- A policy whose delays leave the calendar after some attempts and go on growing up to the last
count before the cap. -/
def distant : RetryPolicy where
  baseDelay := Duration.ofSeconds 0x40000000
  maxDelay := Duration.ofSeconds 0xffffffffffffffff

/-- An entity of the first nanosecond that was tried twenty times. -/
def ancient : Entity Unit Unit :=
  { Entity.fresh "x" () () Dictionary.empty { nanos := Instant.first.nanos + 1 } with
    stateCount := 20 }

/-- With as many cutoffs as there can be, and with a delay that is beyond the calendar in both
directions, the filter says of the first nanosecond that it is not due. -/
theorem dueFilter_exact_distant :
    distant.isDue ancient Instant.epoch = false ∧
      (distant.dueFilter Instant.epoch).admits ancient.stateCount ancient.stateTimestamp = false ∧
      (distant.dueFilter Instant.epoch).cutoffs.length = 32 ∧ distant.IsCappedAt 32 := by
  have exactly := distant.dueFilter_exact (S := Unit) (P := Unit) (by decide) Instant.epoch
  have same := exactly.1 ancient (by decide) (by decide)
  have undue : distant.isDue ancient Instant.epoch = false := by decide
  have length : (distant.dueFilter Instant.epoch).cutoffs.length = 32 := by decide
  exact ⟨undue, same.trans undue, length, length ▸ exactly.2.2.1⟩

end Leasehold.RetryPolicy
