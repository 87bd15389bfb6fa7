/-
**The filter of a retry policy.**

The cutoffs of a filter end at the first count with the longest delay. No later delay differs from
this one, so the filter knows the delay of every count.

* `nanos_delayFor`: the delay in nanoseconds;
* `delayFor_mono`, `delayFor_le_maxDelay`: delays grow with the count, up to the longest one;
* `cutoffFor_dueFilter`: the cutoff for a count is its delay before the instant;
* `admits_iff`, `due_of_admits`: the filter lets pass what has waited for its delay;
* `admits_mono`: and lets it pass ever after.
-/

import Leasehold.Entity.Retry
import Mathlib.Data.Nat.Init

namespace Leasehold.RetryPolicy

variable (policy : RetryPolicy)

/-! ### Delays -/

/-- The base delay is doubled for each attempt as long as the result is in range. -/
theorem nanos_delayFor (count : Nat) :
    (policy.delayFor count).nanos =
      if count < 32 ∧ policy.baseDelay.nanos * (1 <<< count) < UInt64.size * 1000000000 then
        min (policy.baseDelay.nanos * (1 <<< count)) policy.maxDelay.nanos
      else policy.maxDelay.nanos := by
  unfold delayFor Duration.scale? Duration.ofNanos?
  by_cases few : count < 32
  · by_cases inRange : policy.baseDelay.nanos * (1 <<< count) < UInt64.size * 1000000000
    · rw [if_pos few, dif_pos inRange, if_pos ⟨few, inRange⟩]
      exact Duration.nanos_min _ _
    · rw [if_pos few, dif_neg inRange, if_neg fun both => inRange both.2]
  · rw [if_neg few, if_neg fun both => few both.1]

theorem delayFor_le_maxDelay (count : Nat) : policy.delayFor count ≤ policy.maxDelay := by
  show (policy.delayFor count).nanos ≤ policy.maxDelay.nanos
  rw [nanos_delayFor]
  split
  · exact Nat.min_le_right _ _
  · exact Nat.le_refl _

theorem delayFor_of_many {count : Nat} (many : 32 ≤ count) :
    policy.delayFor count = policy.maxDelay := by
  refine Duration.ext ?_
  rw [nanos_delayFor, if_neg]
  omega

/-- One more attempt makes no delay shorter. -/
theorem delayFor_le_succ (count : Nat) : policy.delayFor count ≤ policy.delayFor (count + 1) := by
  show (policy.delayFor count).nanos ≤ (policy.delayFor (count + 1)).nanos
  have most : (policy.delayFor count).nanos ≤ policy.maxDelay.nanos :=
    policy.delayFor_le_maxDelay count
  by_cases inRange :
      count + 1 < 32 ∧ policy.baseDelay.nanos * (1 <<< (count + 1)) < UInt64.size * 1000000000
  · have doubled : policy.baseDelay.nanos * (1 <<< (count + 1)) =
        2 * (policy.baseDelay.nanos * (1 <<< count)) := by
      rw [Nat.shiftLeft_succ, Nat.mul_left_comm]
    rw [nanos_delayFor, nanos_delayFor, if_pos inRange, if_pos (by omega)]
    omega
  · rw [nanos_delayFor policy (count + 1), if_neg inRange]
    exact most

/-- **Delays grow with the count.** -/
theorem delayFor_mono {count later : Nat} (order : count ≤ later) :
    policy.delayFor count ≤ policy.delayFor later := by
  induction later, order using Nat.le_induction with
  | base => exact Nat.le_refl _
  | succ later _ ih => exact Nat.le_trans ih (policy.delayFor_le_succ later)

/-- No delay differs from the longest one once that is reached. -/
theorem delayFor_of_reached {count : Nat} (reached : policy.maxDelay ≤ policy.delayFor count)
    (more : Nat) : policy.delayFor (count + more) = policy.delayFor count := by
  have grows : (policy.delayFor count).nanos ≤ (policy.delayFor (count + more)).nanos :=
    policy.delayFor_mono (Nat.le_add_right count more)
  have most : (policy.delayFor (count + more)).nanos ≤ policy.maxDelay.nanos :=
    policy.delayFor_le_maxDelay (count + more)
  have least : policy.maxDelay.nanos ≤ (policy.delayFor count).nanos := reached
  exact Duration.ext (by omega)

/-! ### Cutoffs -/

/-- The cutoffs from a count on are the delays from this count on, before the instant. -/
theorem cutoffFor_cutoffsFrom (now : Instant) (more : Nat) {count steps : Nat}
    (enough : 32 ≤ count + steps) :
    (policy.cutoffsFrom now count steps).cutoffFor more =
      now.minus (policy.delayFor (count + more)) := by
  induction steps generalizing count more with
  | zero =>
    show now.minus (policy.delayFor count) = _
    rw [policy.delayFor_of_many (by omega), policy.delayFor_of_many (by omega)]
  | succ steps ih =>
    unfold cutoffsFrom
    dsimp only
    split
    · next reached =>
      rw [policy.delayFor_of_reached reached]
      rfl
    · cases more with
      | zero => rfl
      | succ more =>
        have rest : (policy.cutoffsFrom now (count + 1) steps).cutoffFor more = _ :=
          ih more (by omega)
        rw [Nat.add_right_comm, Nat.add_assoc] at rest
        exact rest

/-- **The cutoff for a count is its delay before the instant.** -/
theorem cutoffFor_dueFilter (delayed : policy.baseDelay.isZero = false) (now : Instant)
    (count : Nat) :
    (policy.dueFilter now).cutoffFor count = now.minus (policy.delayFor count) := by
  unfold dueFilter
  rw [delayed, if_neg Bool.false_ne_true, cutoffFor_cutoffsFrom policy now count (by decide),
    Nat.zero_add]

/-- **The filter lets pass what has waited for its delay**, except for stamps at the first instant,
which it cannot tell from earlier ones. -/
theorem admits_iff (delayed : policy.baseDelay.isZero = false) {now stamp : Instant} {count : Nat}
    (inside : Instant.first < stamp) :
    (policy.dueFilter now).admits count stamp = true ↔
      stamp.nanos + (policy.delayFor count).nanos ≤ now.nanos := by
  have above : Instant.first.nanos < stamp.nanos := inside
  unfold DueFilter.admits
  rw [decide_eq_true_iff, cutoffFor_dueFilter policy delayed]
  show stamp.nanos ≤ (now.minus (policy.delayFor count)).nanos ↔ _
  rw [Instant.nanos_minus]
  omega

/-- **What passes the filter has waited for its delay**, in whole nanoseconds. -/
theorem due_of_admits (delayed : policy.baseDelay.isZero = false) {now stamp : Instant}
    {count : Nat} (inside : Instant.first < stamp)
    (admitted : (policy.dueFilter now).admits count stamp = true) :
    stamp.nanos + (policy.delayFor count).nanos ≤ now.nanos :=
  (policy.admits_iff delayed inside).mp admitted

/-- **What is due at an instant is due ever after.** -/
theorem admits_mono {earlier later stamp : Instant} {count : Nat} (order : earlier ≤ later)
    (admitted : (policy.dueFilter earlier).admits count stamp = true) :
    (policy.dueFilter later).admits count stamp = true := by
  have apart : earlier.nanos ≤ later.nanos := order
  have cutoff : ((policy.dueFilter earlier).cutoffFor count).nanos ≤
      ((policy.dueFilter later).cutoffFor count).nanos := by
    cases delayed : policy.baseDelay.isZero with
    | true =>
      unfold dueFilter
      rw [if_pos delayed, if_pos delayed]
      exact apart
    | false =>
      rw [policy.cutoffFor_dueFilter delayed, policy.cutoffFor_dueFilter delayed,
        Instant.nanos_minus, Instant.nanos_minus]
      omega
  exact decide_eq_true (Int.le_trans (of_decide_eq_true admitted) cutoff)

end Leasehold.RetryPolicy
