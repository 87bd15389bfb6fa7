/-
**What the handler of an attempt went through.**

An engine drives a handler in several steps, and waits in between while others act. The attempt
stands where the handler leads with everything that it did and learned since its engine's last poll,
so what an outcome says of these events is true of every schedule.

* `Registry.Leads`, `Registry.Runs`: the events of the handler of an entity;
* `Attempt.Recalls`: an attempt stands where some events lead;
* `Attempt.Recalls.step`: a step of an attempt adds its events;
* `Fleet.dialogue`, `transcript_run`: so the attempts of a fleet recall what their handlers went
  through since the last poll.
-/

import Leasehold.Proofs.Fleet.Selection
import Leasehold.Proofs.Poll.Dialogue
import Leasehold.Proofs.Poll.Way

set_option linter.unusedSectionVars false

namespace Leasehold

open Work (Event)

variable {ι ε S P Call : Type} {Response : Call → Type} [DecidableEq S] [ProcessState S]

/-! ### Attempts -/

namespace Registry

variable (registry : Registry S P Call Response) (leased : Entity S P)
  (events : List (Event Call Response))

/-- The events with which the handler of an entity gets as far as to some other work. -/
def Leads (rest : Work Call Response (Reply S P)) : Prop :=
  ∃ handler, registry.handler? leased.state = some handler ∧ (handler leased).Leads events rest

/-- The events with which the handler of an entity comes to its reply. -/
abbrev Runs (reply : Reply S P) : Prop := registry.Leads leased events (.done reply)

end Registry

namespace Attempt

/-- The events of the next step of an attempt. -/
def events {σ : Type} (world : World σ Call Response) :
    Attempt S P Call Response → σ → List (Event Call Response)
  | .working _ work, state => work.events world state
  | .selected _, _ | .waiting _ _ _, _ | .confirming _ _ _ _, _ | .persisting _ _ _, _
  | .releasing _, _ | .ended _, _ => []

/-- The handler of an attempt got with some events to where the attempt stands. A success that is to
be written is the one that the handler decided. -/
def Recalls (registry : Registry S P Call Response) (events : List (Event Call Response)) :
    Attempt S P Call Response → Prop
  | .selected _ => events = []
  | .working leased work | .waiting _ leased work => registry.Leads leased events work
  | .confirming leased next payload _ =>
      registry.Runs leased events (.decided (.success next payload))
  | .persisting leased result outcome => outcome = .success → ∃ next payload now,
      registry.Runs leased events (.decided (.success next payload)) ∧
        result = ({ leased with payload := payload } : Entity S P).transitionTo next now
  | .releasing _ | .ended _ => True

variable {member : Member ε S P Call Response} {name : ι} {events : List (Event Call Response)}
  {leased : Entity S P}

/-- Nothing is to be recalled of an outcome that is no success. -/
theorem recalls_persisting {result : Entity S P} {outcome : Outcome} (other : outcome ≠ .success) :
    (persisting leased result outcome : Attempt S P Call Response).Recalls member.registry events :=
  fun success => absurd success other

/-- A reply that is a success was decided as one. -/
theorem recalls_judge {reply : Reply S P} (runs : member.registry.Runs leased events reply)
    (now : Instant) :
    ((member.engine name).judge leased now reply.verdict).Recalls member.registry events := by
  have retries : ∀ reason,
      ((member.engine name).judge leased now (.retry reason)).Recalls member.registry events := by
    intro reason
    unfold Engine.judge
    dsimp only
    split <;> exact recalls_persisting (by decide)
  cases reply with
  | decided verdict =>
    cases verdict with
    | success next payload =>
      show ((member.engine name).judge leased now (.success next payload)).Recalls _ _
      unfold Engine.judge
      dsimp only
      split
      · exact runs
      · exact recalls_persisting (by decide)
    | retry reason => exact retries reason
    | fatal reason => exact recalls_persisting (by decide)
  | failed text => exact retries text
  | crashed message => exact retries _

/-- **A step of an attempt adds what its handler did and learned.** -/
theorem Recalls.step {attempt next : Attempt S P Call Response} {site after : Site ι ε S P}
    (recalls : attempt.Recalls member.registry events)
    (steps : (member.engine name).step member.world.onSite attempt site = (next, after)) :
    next.Recalls member.registry (events ++ attempt.events member.world.onSite site) := by
  have made : member.Makes name site attempt (next, after) := steps ▸ Member.makes_step attempt
  obtain ⟨_, _, move, _⟩ := made
  cases attempt with
  | working leased work =>
    -- The move does not tell what the handler did, so the step itself is followed.
    obtain ⟨handler, handled, leads⟩ := recalls
    have led := leads.trans (Work.leads_drive member.world.onSite work site)
    rcases came : work.drive member.world.onSite site with ⟨progress, reached⟩
    rw [came] at led
    have worked : (member.engine name).work member.world.onSite leased work site = (next, after) :=
      steps
    cases progress with
    | waiting millis rest =>
      cases (Engine.work_of_waiting _ _ came).symm.trans worked
      exact ⟨handler, handled, led⟩
    | finished reply =>
      obtain ⟨final, _, judged⟩ := Engine.work_of_finished (member.engine name) _ leased came
      cases judged.symm.trans worked
      exact recalls_judge ⟨handler, handled, led⟩ _
  | selected candidate =>
    obtain rfl : events = [] := recalls
    cases move with
    | refused | withdraws => trivial
    | cancels => exact recalls_persisting (by decide)
    | begins _ _ _ handled => exact ⟨_, handled, .stays⟩
  | waiting millis leased work =>
    cases move
    rw [Attempt.events, List.append_nil]
    exact recalls
  | confirming leased target payload now =>
    rw [Attempt.events, List.append_nil]
    cases move with
    | yields => exact recalls_persisting (by decide)
    | confirms => exact fun _ => ⟨target, payload, now, recalls, rfl⟩
  | persisting leased result outcome => cases move <;> trivial
  | releasing leased =>
    cases move
    trivial
  | ended ending =>
    cases move
    trivial

end Attempt

/-! ### Schedules -/

namespace Fleet

variable [DecidableEq ι] (fleet : Fleet ι ε S P Call Response) (name : ι) (number : Nat)

/-- What the handler of an attempt does and learns with an action. -/
def dialogue (state : State ι ε S P Call Response) (action : Action ι ε S P) :
    List (Event Call Response) :=
  match action with
  | .proceed other place =>
    if other = name ∧ place = number then
      match state.attempt? name number with
      | some attempt => attempt.events (fleet name).world.onSite state.site
      | none => []
    else []
  | .pass _ | .call _ | .poll _ | .stop _ => []

variable {fleet name number} {state start : State ι ε S P Call Response} {action : Action ι ε S P}
  {next : Attempt S P Call Response}

theorem dialogue_of_ne (elsewhere : action ≠ .proceed name number) :
    fleet.dialogue name number state action = [] := by
  cases action with
  | proceed other place =>
    refine if_neg ?_
    rintro ⟨rfl, rfl⟩
    exact elsewhere rfl
  | pass _ | call _ | poll _ | stop _ => rfl

/-- An action that is no poll of a member adds what the handler of an attempt did and learned. -/
theorem exists_recalls_before (noPoll : action = .poll name → state.isIdle name = false)
    (there : (fleet.step state action).attempt? name number = some next) :
    ∃ attempt, state.attempt? name number = some attempt ∧ ∀ events,
      attempt.Recalls (fleet name).registry events →
        next.Recalls (fleet name).registry (events ++ fleet.dialogue name number state action) := by
  by_cases polls : action = .poll name
  · subst polls
    rw [step_poll_of_busy (noPoll rfl)] at there
    refine ⟨next, there, fun events recalls => ?_⟩
    show next.Recalls _ (events ++ [])
    rw [List.append_nil]
    exact recalls
  by_cases proceeds : action = .proceed name number
  · subst proceeds
    cases before : state.attempt? name number with
    | none =>
      rw [step_proceed_of_none before, before] at there
      cases there
    | some attempt =>
      refine ⟨attempt, rfl, fun events recalls => ?_⟩
      rcases steps : ((fleet name).engine name).step (fleet name).world.onSite attempt state.site
        with ⟨reached, after⟩
      rw [step_proceed before steps, State.attempt?_proceed before, if_pos ⟨rfl, rfl⟩] at there
      cases there
      have added : fleet.dialogue name number state (.proceed name number) =
          attempt.events (fleet name).world.onSite state.site := by
        simp only [dialogue, and_self, if_true, before]
      rw [added]
      exact recalls.step steps
  · rw [attempt?_step_of_ne polls proceeds] at there
    refine ⟨next, there, fun events recalls => ?_⟩
    rw [dialogue_of_ne proceeds, List.append_nil]
    exact recalls

/-- Without its last action a schedule has the same last poll. -/
theorem LastPoll.of_concat {earlier later : List (Action ι ε S P)}
    (poll : fleet.LastPoll start name earlier (later ++ [action])) :
    fleet.LastPoll start name earlier later where
  made := poll.made
  last between rest split := by
    refine poll.last between (rest ++ [action]) ?_
    rw [split, List.append_assoc, List.cons_append]

/-- **An attempt recalls what its handler went through since the last poll.** -/
theorem transcript_run {earlier later : List (Action ι ε S P)}
    (poll : fleet.LastPoll start name earlier later) {attempt : Attempt S P Call Response}
    (there : (fleet.run start (earlier ++ .poll name :: later)).attempt? name number =
      some attempt) :
    attempt.Recalls (fleet name).registry (fleet.observe (fleet.dialogue name number)
      (fleet.run start (earlier ++ [.poll name])) later) := by
  rw [List.append_cons, run_append] at there
  induction later using List.reverseRecOn generalizing attempt with
  | nil =>
    have there : (fleet.run start (earlier ++ [.poll name])).attempt? name number = some attempt :=
      there
    rw [run_concat, attempt?_step_poll poll.made] at there
    obtain ⟨candidate, _, rfl⟩ := Option.map_eq_some_iff.mp there
    rfl
  | append_singleton later action ih =>
    rw [run_concat] at there
    have noPoll : action = .poll name →
        (fleet.run (fleet.run start (earlier ++ [.poll name])) later).isIdle name = false := by
      rintro rfl
      rw [← run_append, ← List.append_cons]
      exact poll.last later [] rfl
    obtain ⟨before, reached, leads⟩ := exists_recalls_before noPoll there
    rw [observe_append]
    show attempt.Recalls _ (_ ++ (_ ++ []))
    rw [List.append_nil]
    exact leads _ (ih poll.of_concat reached)

end Fleet

end Leasehold
