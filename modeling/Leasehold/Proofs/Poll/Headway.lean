/-
**An attempt that goes on has less left to do.**

A handler that waits has done some of its work, and no work goes on for ever. So whenever an attempt
goes on, it ends, or it waits with less left to do than before.

* `Work.Shorter`: how what a handler has left to do becomes less;
* `Attempt.IsUnderWay`: the attempts that can go on;
* `Attempt.KeepsTo`, `Attempt.Nears`: attempts on their way to the next wait or to the end;
* `Engine.nears_step`, `Engine.nears_steps`: the steps on this way;
* `Engine.advance_cases`: where it leads.
-/

import Leasehold.Proofs.Poll.Handler
import Leasehold.Proofs.Poll.Seat
import Leasehold.Proofs.Poll.Settlement

set_option linter.unusedSectionVars false

namespace Leasehold

variable {σ S P Call : Type} {Response : Call → Type}

/-! ### What a handler has left to do -/

namespace Work

variable {α : Type} {world : World σ Call Response} {work rest : Work Call Response α}

/-- Work stops at a call only if the call takes time, and then there is less of it left. -/
theorem later_of_drive {millis : Nat} {state after : σ}
    (driven : work.drive world state = (.waiting millis rest, after)) :
    millis ≠ 0 ∧ rest.Later work := by
  induction work generalizing state with
  | done result => cases driven
  | call request next ih =>
    by_cases atOnce : (world.call request state).1.1 = 0
    · rw [drive_call_of_eq atOnce] at driven
      obtain ⟨takes, later⟩ := ih _ driven
      exact ⟨takes, later.tail (.call _)⟩
    · rw [drive_call_of_ne atOnce] at driven
      cases driven
      exact ⟨atOnce, .single (.call _)⟩
  | readClock next ih =>
    have read : (next (world.now state)).drive world state = (.waiting millis rest, after) := driven
    obtain ⟨takes, later⟩ := ih _ read
    exact ⟨takes, later.tail (.readClock _)⟩
  | log entry next ih =>
    have logged : next.drive world (world.log entry state).2 = (.waiting millis rest, after) :=
      driven
    obtain ⟨takes, later⟩ := ih logged
    exact ⟨takes, later.tail .log⟩

/-- The first work is shorter than the second one. No work is known before the handler begins, and
whatever it turns out to be counts as shorter. -/
inductive Shorter : Option (Work Call Response α) → Option (Work Call Response α) → Prop where
  | begun (work : Work Call Response α) : Shorter (some work) none
  | later {rest work : Work Call Response α} (later : rest.Later work) :
      Shorter (some rest) (some work)

/-- Work does not become shorter for ever. -/
theorem wellFounded_shorter :
    WellFounded (Shorter : Option (Work Call Response α) → Option _ → Prop) := by
  have known : ∀ work : Work Call Response α, Acc Shorter (some work) := by
    intro work
    induction work using wellFounded_later.induction with
    | _ work ih =>
      refine ⟨_, fun shorter less => ?_⟩
      cases less with
      | later later => exact ih _ later
  refine ⟨fun plan => ?_⟩
  cases plan with
  | some work => exact known work
  | none =>
    refine ⟨_, fun shorter less => ?_⟩
    cases less with
    | begun work => exact known work

end Work

/-- An attempt whose handler has not begun, or goes on at once. -/
inductive Attempt.IsUnderWay : Attempt S P Call Response → Prop where
  | selected (candidate : Entity S P) : IsUnderWay (.selected candidate)
  | working (leased : Entity S P) (work : Work Call Response (Reply S P)) :
      IsUnderWay (.working leased work)

namespace Attempt

/-- The work that an attempt has left, if its handler has begun. -/
def plan? : Attempt S P Call Response → Option (Work Call Response (Reply S P))
  | .working _ work | .waiting _ _ work => some work
  | _ => none

/-- An attempt keeps to some work, if its handler waits only once there is less left to do. -/
def KeepsTo (plan : Option (Work Call Response (Reply S P))) : Attempt S P Call Response → Prop
  | .selected _ => plan = none
  | .working _ work => plan = none ∨ plan = some work
  | .waiting millis _ rest => millis ≠ 0 ∧ Work.Shorter (some rest) plan
  | _ => True

/-- An attempt that keeps to some work, and ends or waits in fewer steps than so many. -/
structure Nears (plan : Option (Work Call Response (Reply S P))) (count : Nat)
    (attempt : Attempt S P Call Response) : Prop where
  keeps : attempt.KeepsTo plan
  fewer : attempt.stepsLeft < count

variable {attempt : Attempt S P Call Response} {plan : Option (Work Call Response (Reply S P))}

theorem IsUnderWay.keepsTo (underWay : attempt.IsUnderWay) : attempt.KeepsTo attempt.plan? := by
  cases underWay with
  | selected candidate => exact rfl
  | working leased work => exact .inr rfl

theorem nears_ended (ending : Ending) {count : Nat} :
    (ended ending : Attempt S P Call Response).Nears plan (count + 1) :=
  ⟨trivial, Nat.succ_pos count⟩

theorem nears_releasing (leased : Entity S P) {count : Nat} :
    (releasing leased : Attempt S P Call Response).Nears plan (count + 2) :=
  ⟨trivial, Nat.succ_lt_succ (Nat.succ_pos count)⟩

theorem nears_persisting (leased result : Entity S P) (outcome : Outcome) {count : Nat} :
    (persisting leased result outcome : Attempt S P Call Response).Nears plan (count + 3) :=
  ⟨trivial, Nat.succ_lt_succ (Nat.succ_lt_succ (Nat.succ_pos count))⟩

end Attempt

namespace Engine

variable [DecidableEq S] [ProcessState S] (engine : Engine σ S P Call Response)
  (world : World σ Call Response) {plan : Option (Work Call Response (Reply S P))}
  {attempt : Attempt S P Call Response}

theorem nears_afterLease (candidate leased : Entity S P) (state : σ) :
    (engine.afterLease world candidate leased state).1.Nears none 5 := by
  unfold afterLease
  split
  · exact Attempt.nears_releasing leased
  · split
    · exact Attempt.nears_persisting leased _ .cancelled
    · cases engine.registry.handler? leased.state with
      | some handler => exact ⟨.inl rfl, Nat.lt_succ_self 4⟩
      | none => exact Attempt.nears_releasing leased

theorem nears_judge (leased : Entity S P) (now : Instant) (verdict : Verdict S P) :
    (engine.judge leased now verdict).Nears plan 4 := by
  cases verdict with
  | success next payload =>
    dsimp only [judge]
    split
    · exact ⟨trivial, Nat.lt_succ_self 3⟩
    · exact Attempt.nears_persisting leased _ .fatal
  | retry reason =>
    dsimp only [judge]
    split
    · exact Attempt.nears_persisting leased _ .exhausted
    · exact Attempt.nears_persisting leased _ .retry
  | fatal reason => exact Attempt.nears_persisting leased _ .fatal

theorem nears_persist (leased result : Entity S P) (outcome : Outcome) (state : σ) :
    (engine.persist world leased result outcome state).1.Nears plan 2 := by
  rcases answered : engine.store (.update { result with lease := none }) state
    with ⟨error | saved, next⟩
  · unfold persist
    simp only [bind_apply, answered]
    split
    · exact Attempt.nears_ended .abandoned
    · exact Attempt.nears_releasing leased
  · rw [persist_of_ok engine world answered]
    exact Attempt.nears_ended _

theorem nears_release (leased : Entity S P) (state : σ) :
    (engine.release world leased state).1.Nears plan 1 := by
  unfold release
  rcases answered : engine.store (.release leased.id engine.holder) state with ⟨error | had, next⟩
  · simp only [bind_apply, answered]
    exact Attempt.nears_ended .abandoned
  · simp only [bind_apply, answered]
    exact Attempt.nears_ended .abandoned

/-- **One step** leaves fewer steps to the next wait or the end. -/
theorem nears_step (keeps : attempt.KeepsTo plan) (left : attempt.stepsLeft ≠ 0) (state : σ) :
    (engine.step world attempt state).1.Nears plan attempt.stepsLeft := by
  cases attempt with
  | selected candidate =>
    obtain rfl : plan = none := keeps
    show (engine.claim world candidate state).1.Nears none 5
    rcases answered : engine.store (.lease candidate.id engine.holder engine.config.leaseDuration
      (world.now state)) state with ⟨error | leased, next⟩
    · obtain ⟨ending, entry, ended⟩ := claim_of_error engine world answered
      rw [ended]
      exact Attempt.nears_ended ending
    · rw [claim_of_ok engine world answered]
      exact engine.nears_afterLease world candidate leased next
  | working leased work =>
    show (engine.work world leased work state).1.Nears plan 4
    rcases driven : work.drive world state with ⟨reply | ⟨millis, rest⟩, next⟩
    · obtain ⟨after, _, judged⟩ := work_of_finished engine world leased driven
      rw [judged]
      exact engine.nears_judge leased (world.now after) reply.verdict
    · rw [work_of_waiting engine world driven]
      obtain ⟨takes, later⟩ := Work.later_of_drive driven
      refine ⟨⟨takes, ?_⟩, Nat.succ_pos 3⟩
      rcases keeps with rfl | rfl
      · exact .begun rest
      · exact .later later
  | confirming leased next payload now =>
    have confirmed : ∀ asked, (engine.confirm leased next payload now asked).Nears plan 3 := by
      intro asked
      cases asked with
      | true => exact Attempt.nears_persisting leased _ .cancelled
      | false => exact Attempt.nears_persisting leased _ .success
    exact confirmed _
  | persisting leased result outcome => exact engine.nears_persist world leased result outcome state
  | releasing leased => exact engine.nears_release world leased state
  | waiting millis leased work | ended ending => exact absurd rfl left

/-- An attempt that has ended or waits makes no steps. -/
theorem steps_of_done (done : attempt.stepsLeft = 0) (count : Nat) (state : σ) :
    engine.steps world count attempt state = (attempt, state) := by
  cases count with
  | zero => rfl
  | succ count =>
    cases attempt with
    | waiting _ _ _ | ended _ => rfl
    | _ => cases done

/-- Enough steps lead to an end or a wait. -/
theorem nears_steps {count : Nat} (keeps : attempt.KeepsTo plan)
    (enough : attempt.stepsLeft ≤ count) (state : σ) :
    (engine.steps world count attempt state).1.Nears plan 1 := by
  induction count generalizing attempt state with
  | zero => exact ⟨keeps, Nat.lt_succ_of_le enough⟩
  | succ count ih =>
    by_cases done : attempt.stepsLeft = 0
    · rw [engine.steps_of_done world done]
      exact ⟨keeps, done ▸ Nat.one_pos⟩
    · rw [steps_succ engine world count done]
      obtain ⟨keepsNext, fewer⟩ := engine.nears_step world keeps done state
      exact ih keepsNext (by omega) _

/-- **An attempt that goes on ends, or has less left to do.** -/
theorem advance_cases (underWay : attempt.IsUnderWay) (state : σ) :
    (∃ ending after, engine.advance world attempt state = (.ended ending, after)) ∨
      ∃ millis leased rest after, millis ≠ 0 ∧ Work.Shorter (some rest) attempt.plan? ∧
        engine.advance world attempt state = (.waiting millis leased rest, after) := by
  have nears : (engine.advance world attempt state).1.Nears attempt.plan? 1 :=
    engine.nears_steps world underWay.keepsTo (Nat.le_refl _) state
  rcases advanced : engine.advance world attempt state with ⟨next, after⟩
  rw [advanced] at nears
  obtain ⟨keeps, done⟩ := nears
  cases next with
  | ended ending => exact .inl ⟨ending, after, rfl⟩
  | waiting millis leased rest =>
    exact .inr ⟨millis, leased, rest, after, keeps.1, keeps.2, rfl⟩
  | _ => exact absurd (Nat.lt_one_iff.mp done) (Nat.succ_ne_zero _)

end Engine

end Leasehold
