/-
**The calls of the credential processes.**

A handler of a credential process makes its calls one after the other. An answer leads on, a failure
ends the handler: it is tried again, or fails, for the reason of the partner and under the title of
the call.

* `Call.title`: what a call is named after in a verdict;
* `Fails`: the reply that follows from a failure;
* `runs_askFor_iff`: how a call goes on;
* `Breaks`: events that end with the first failure.
-/

import Leasehold.Credential.Partner
import Leasehold.Proofs.Poll.Dialogue

set_option linter.unusedSectionVars false

namespace Leasehold

open Work (Event calls)

namespace Credential

variable {S P : Type}

/-! ### Failures -/

/-- What a call is named after. -/
def Call.title : Call → String
  | .generate .. => "generate credentials"
  | .register .. => "add credential to status list"
  | .deliver .. => "deliver credentials"
  | .store .. => "store credential"
  | .resolveEndpoint _ => "resolve issuer endpoint"
  | .obtainToken .. => "obtain token"
  | .sendRequest .. => "send credential request"
  | .queryStatus .. => "query request status"
  | .sign .. => "sign status list"
  | .publish .. => "publish status list"

/-- The reply of a handler whose call failed. -/
inductive Fails {α : Type} (title : String) : Answer α → Reply S P → Prop where
  | transient (reason : String) :
      Fails title (.transient reason) (.decided (.retry s!"{title}: {reason}"))
  | fatal (reason : String) : Fails title (.fatal reason) (.decided (.fatal s!"{title}: {reason}"))
  | crashed (message : String) : Fails title (.crashed message) (.crashed (some message))

/-- Whether a partner answered. -/
def Answer.isAnswered {α : Type} : Answer α → Bool
  | .answered _ => true
  | .transient _ | .fatal _ | .crashed _ => false

theorem Fails.not_answered {α : Type} {title : String} {response : Answer α} {reply : Reply S P}
    (fails : Fails title response reply) : response.isAnswered = false := by
  cases fails <;> rfl

/-- Whether an event is not a call that failed. -/
def isDone : Event Call Response → Bool
  | .called _ response => response.isAnswered
  | .read _ | .logged _ => true

/-- No call failed. -/
def Succeed (events : List (Event Call Response)) : Prop := ∀ event ∈ events, isDone event = true

namespace Succeed

variable {early late : List (Event Call Response)}

theorem nil : Succeed [] := fun _ listed => absurd listed List.not_mem_nil

theorem append (first : Succeed early) (second : Succeed late) : Succeed (early ++ late) :=
  fun event listed => (List.mem_append.mp listed).elim (first event) (second event)

/-- A call that was answered, before others that were. -/
theorem cons_answered {request : Call} {value : request.Value} (succeed : Succeed late) :
    Succeed (.called request (.answered value) :: late) :=
  List.forall_mem_cons.mpr ⟨rfl, succeed⟩

end Succeed

/-! ### Steps -/

/-- What is left of a handler whose call failed. -/
theorem Fails.runs_iff {α : Type} {title : String} {response : Answer α} {known reply : Reply S P}
    {events : List (Event Call Response)} (fails : Fails title response known) :
    (.done known : Task S P).Runs events reply ↔ Fails title response reply ∧ events = [] := by
  rw [Work.runs_done_iff]
  constructor
  · rintro ⟨rfl, rfl⟩
    exact ⟨fails, rfl⟩
  · rintro ⟨other, rfl⟩
    cases fails <;> cases other <;> exact ⟨rfl, rfl⟩

/-- **A call leads on, or its failure ends the handler.** -/
theorem runs_askFor_iff {step : String} {call : Call} {next : call.Value → Task S P}
    {events : List (Event Call Response)} {reply : Reply S P} :
    (askFor step call next).Runs events reply ↔ ∃ response later,
      events = .called call response :: later ∧
        ((∃ value, response = .answered value ∧ (next value).Runs later reply) ∨
          (Fails step response reply ∧ later = [])) := by
  unfold askFor
  rw [Work.runs_call_iff]
  refine exists_congr fun response => exists_congr fun later => and_congr_right fun _ => ?_
  have failed : ∀ {known : Reply S P}, Fails step response known →
      ((.done known : Task S P).Runs later reply ↔
        (∃ value, response = .answered value ∧ (next value).Runs later reply) ∨
          (Fails step response reply ∧ later = [])) := by
    refine fun fails => fails.runs_iff.trans (or_iff_right ?_).symm
    rintro ⟨_, rfl, _⟩
    cases fails
  cases response with
  | answered value =>
    refine ⟨fun runs => .inl ⟨value, rfl, runs⟩, ?_⟩
    rintro (⟨_, same, runs⟩ | ⟨fails, _⟩)
    · cases same
      exact runs
    · cases fails
  | transient reason => exact failed (.transient reason)
  | fatal reason => exact failed (.fatal reason)
  | crashed message => exact failed (.crashed message)

/-- The last event is the first call that failed, and its failure is the reply. -/
inductive Breaks : List (Event Call Response) → Reply S P → Prop where
  | of_fails {before : List (Event Call Response)} {request : Call} {response : Response request}
      {reply : Reply S P} (succeed : Succeed before)
      (fails : Fails request.title response reply) :
      Breaks (before ++ [.called request response]) reply

namespace Breaks

variable {events early : List (Event Call Response)} {reply : Reply S P} {request : Call}

/-- A call that fails at once. -/
theorem at_once {response : Response request} (fails : Fails request.title response reply) :
    Breaks [.called request response] reply :=
  of_fails .nil fails

theorem append (succeed : Succeed early) (breaks : Breaks events reply) :
    Breaks (early ++ events) reply := by
  obtain ⟨before, fails⟩ := breaks
  rw [← List.append_assoc]
  exact of_fails (succeed.append before) fails

theorem cons_answered {value : request.Value} (breaks : Breaks events reply) :
    Breaks (.called request (.answered value) :: events) reply := by
  have first : Succeed [.called request (.answered value)] := .cons_answered .nil
  exact append first breaks

/-- Not every call succeeded. -/
theorem not_succeed (breaks : Breaks events reply) : ¬Succeed events := by
  obtain ⟨_, fails⟩ := breaks
  intro succeed
  have answered := succeed _ (List.mem_append_right _ (List.mem_singleton_self _))
  rw [isDone, fails.not_answered] at answered
  cases answered

/-- Calls that followed a plan so far are all of it exactly if none but its last one failed. -/
theorem calls_eq_iff (breaks : Breaks events reply) {plan : List Call}
    (planned : calls events <+: plan) :
    calls events = plan ↔ plan.dropLast <+: calls (events.filter isDone) := by
  obtain @⟨before, failed, response, _, succeed, fails⟩ := breaks
  have dropped : [(.called failed response : Event Call Response)].filter isDone = [] :=
    List.filter_cons_of_neg (by rw [isDone, fails.not_answered]; exact Bool.false_ne_true)
  have answered : (before ++ [Event.called failed response]).filter isDone = before := by
    rw [List.filter_append, List.filter_eq_self.mpr succeed, dropped, List.append_nil]
  have made : calls (before ++ [Event.called failed response]) = calls before ++ [failed] :=
    Work.calls_append ..
  rw [made] at planned ⊢
  rw [answered]
  constructor
  · rintro rfl
    exact ⟨[], by rw [List.dropLast_concat, List.append_nil]⟩
  · intro whole
    have few := whole.length_le
    rw [List.length_dropLast] at few
    refine planned.eq_of_length_le ?_
    rw [List.length_append, List.length_singleton]
    omega

end Breaks

end Credential

end Leasehold
