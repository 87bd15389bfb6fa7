/-
**What a pending cancellation promises.**

An engine looks for a request to cancel in one step and writes a success in the next one. A request
leaves the version of the entity alone, so it cannot stop a success whose look came first. It stops
every other one: no look after the request misses it.

* `Member.Move.looked`: a success that is to be written follows on a look that saw no request;
* `State.IsBound`, `isBound_run`: after a request no further success comes to be written;
* `State.IsDoomed`, `isDoomed_run`: so an entity can only end up cancelled or failed;
* `pending_honoured`: what that means for the caller who was told that the request waits;
* `pending_overtaken`: an engine that looked just before the request ends the entity in success.
-/

import Leasehold.Proofs.Fleet.Caller
import Leasehold.Proofs.Fleet.Outcome

set_option linter.unusedSectionVars false

namespace Leasehold

variable {ι ε S P Call : Type} {Response : Call → Type} [DecidableEq S] [ProcessState S]

/-- An attempt comes to write a success by a look at its entity that saw no request to cancel. -/
theorem Member.Move.looked {member : Member ε S P Call Response} {memory : Memory S P}
    {attempt : Attempt S P Call Response} {operation : Option (Operation S P)}
    {transitions : List Transition} {leased result : Entity S P}
    (move : member.Move memory attempt operation transitions (.persisting leased result .success)) :
    ∀ stored, memory.find? leased.id = some stored → stored.cancelRequested = false := by
  cases move with
  | concludes _ unlike => exact absurd rfl unlike
  | confirms notAsked => exact notAsked

namespace Fleet

variable [DecidableEq ι] {fleet : Fleet ι ε S P Call Response} {memory : Memory S P}
  {registry : Registry S P Call Response} {start state after : State ι ε S P Call Response}
  {action : Action ι ε S P} {id : String}

/-! ### No further success -/

/-- A cancellation of an entity was asked for, and every success that is to be written over it was
so in an earlier state. -/
structure State.IsBound (start state : State ι ε S P Call Response) (id : String) : Prop where
  asked : ∃ stored, state.site.memory.find? id = some stored ∧ stored.cancelRequested = true
  decided : ∀ {name number leased result},
    state.attempt? name number = some (.persisting leased result .success) → leased.id = id →
      start.attempt? name number = some (.persisting leased result .success)

/-- An action brings no further success. -/
theorem State.IsBound.kept (bound : start.IsBound state id)
    (change : fleet.Change state action after) : start.IsBound after id := by
  obtain ⟨stored, found, asked⟩ := bound.asked
  obtain ⟨deed, transitions, extended⟩ := change.extended
  obtain ⟨next, isNext, follows⟩ := Memory.find?_replay found (operations deed.toList)
  refine ⟨⟨next, ?_, follows.request asked⟩, ?_⟩
  · rw [extended.memory]
    exact isNext
  intro name number leased result there sameId
  cases change with
  | rests | calls | stops => exact bound.decided there sameId
  | polls =>
    rw [State.attempt?_poll] at there
    split at there
    · obtain ⟨candidate, _, selected⟩ := Option.map_eq_some_iff.mp there
      cases selected
    · exact bound.decided there sameId
  | proceeds reached move performed =>
    rw [State.attempt?_proceed reached] at there
    split at there
    · cases there
      -- The look came before this action, and the request even before that.
      have unseen := move.looked stored (by rw [sameId]; exact found)
      rw [asked] at unseen
      cases unseen
    · exact bound.decided there sameId

/-- **After a request no schedule brings a further success.** -/
theorem isBound_run {stored : Entity S P} (found : state.site.memory.find? id = some stored)
    (asked : stored.cancelRequested = true) (actions : List (Action ι ε S P)) :
    state.IsBound (fleet.run state actions) id :=
  fleet.run_keeps (fun later => state.IsBound later id) (fun _ => True)
    ⟨⟨stored, found, asked⟩, fun there _ => there⟩ (fun _ bound change => bound.kept change)
    fun _ _ => trivial

/-! ### Cancelled or failed -/

/-- An entity is not in a terminal state, or it is cancelled or failed. -/
def State.IsDoomed (registry : Registry S P Call Response) (id : String)
    (state : State ι ε S P Call Response) : Prop :=
  ∃ stored, state.site.memory.find? id = some stored ∧
    (registry.isTerminal stored.state = true →
      stored.state = registry.cancelled ∨ stored.state = registry.failed)

/-- An action leads nowhere else, unless it writes a success. -/
theorem State.IsDoomed.kept (doomed : state.IsDoomed registry id)
    (change : fleet.Change state action after) (trigger : action.IsTriggerOf registry)
    (shared : ∀ name, (fleet name).registry = registry) (honest : state.Honest fleet memory)
    (undecided : ∀ {name number leased result},
      state.attempt? name number = some (.persisting leased result .success) → leased.id ≠ id) :
    after.IsDoomed registry id := by
  obtain ⟨stored, found, ends⟩ := doomed
  obtain ⟨next, isNext, touch⟩ := change.touches honest.tidy found
  refine ⟨next, isNext, ?_⟩
  cases touch with
  | holds same =>
    rw [same.state]
    exact ends
  | calls operation =>
    rcases (Operation.legal_revise_of_isTriggerOf {} trigger stored).2.state_of_unreported with
      same | cancelled
    · rw [same]
      exact ends
    · exact fun _ => .inl cancelled
  | @writes name number leased result saved outcome there written own =>
    have warranted := honest.tidy.warranted there
    obtain ⟨sameId, sameVersion, _⟩ := Warrant.keeps warranted
    obtain ⟨met, isMet, metVersion, rfl⟩ := Memory.answer_update_eq_ok_iff.mp written
    have isMet : state.site.memory.find? leased.id = some met := by
      rw [← sameId]
      exact isMet
    have ownId : leased.id = id := own.trans (Memory.id_of_find? found)
    obtain rfl : met = stored := by
      rw [ownId] at isMet
      exact Option.some.inj (isMet.symm.trans found)
    -- The entity has the version of the claim, so it is in the state in which it was leased.
    have same := honest.sameButRequest (Option.bind_eq_some_iff.mpr ⟨_, there, rfl⟩) isMet
      (metVersion.trans sameVersion)
    have sameState : met.state = leased.state := by rw [same.eq]
    rw [Attempt.IsWarranted, shared name] at warranted
    cases warranted with
    | success => exact absurd ownId (undecided there)
    | cancelled now => exact fun _ => .inl rfl
    | fatal | exhausted => exact fun _ => .inr rfl
    | retry reason now =>
      rw [sameState] at ends
      exact ends

/-- **A schedule that writes no success leads nowhere else.** -/
theorem isDoomed_run (shared : ∀ name, (fleet name).registry = registry)
    (honest : state.Honest fleet memory) {stored : Entity S P}
    (found : state.site.memory.find? id = some stored) (asked : stored.cancelRequested = true)
    (alive : registry.isTerminal stored.state = false)
    (undecided : ∀ {name number leased result},
      state.attempt? name number = some (.persisting leased result .success) → leased.id ≠ id)
    {actions : List (Action ι ε S P)} (trigger : ∀ action ∈ actions, action.IsTriggerOf registry) :
    (fleet.run state actions).IsDoomed registry id := by
  have initially : state.IsDoomed registry id := by
    refine ⟨stored, found, fun terminal => ?_⟩
    rw [alive] at terminal
    cases terminal
  have bound : state.IsBound state id := ⟨⟨stored, found, asked⟩, fun there _ => there⟩
  exact (fleet.run_keeps
    (fun later => (later.Honest fleet memory ∧ state.IsBound later id) ∧
      later.IsDoomed registry id)
    (fun action => action.IsTriggerOf registry) ⟨⟨honest, bound⟩, initially⟩
    (fun trigger kept change => ⟨⟨kept.1.1.kept change, kept.1.2.kept change⟩,
      kept.2.kept change trigger shared kept.1.1 fun there sameId =>
        undecided (kept.1.2.decided there sameId) sameId⟩) trigger).2

/-! ### The answer to the caller -/

/-- Who is told that the request waits leaves the entity alive, and with the request. -/
theorem CancelReport.left {now : Instant} {calls : List (Meeting S P)}
    (report : fleet.CancelReport registry id now state calls (.ok .pending)) :
    ∃ stored, state.site.memory.find? id = some stored ∧ stored.cancelRequested = true ∧
      registry.isTerminal stored.state = false := by
  cases report with
  | pending _ _ alive noted remains =>
    rw [remains]
    exact ⟨_, noted, rfl, alive⟩

/-- **Who is told that a request waits is told the truth, but for the successes that were already
decided.** Every success that is written over the entity afterwards comes from an attempt that had
looked for a request before, and was about to write it when the answer came. If there is no such
attempt, no success is written any more, and the entity can only end up cancelled or failed. -/
theorem pending_honoured {draft : Draft S P Call Response} {registry : Registry S P Call Response}
    (built : draft.build = .ok registry) (fleet : Fleet ι ε S P Call Response)
    (shared : ∀ name, (fleet name).registry = registry) (memory : Memory S P) (surroundings : ε)
    (around : World ε Call Response) (earlier : List (Action ι ε S P))
    (turns : List (List (Action ι ε S P))) (later : List (Action ι ε S P))
    (trigger : ∀ action ∈ turns.flatten ++ later, action.IsTriggerOf registry) (id : String) :
    let before := fleet.run (.start memory surroundings) earlier
    let answer := (caller fleet registry).cancel (Company.world around) id ⟨before, turns, []⟩
    let returned := answer.2.state
    answer.1 = .ok .pending →
      (∀ one ∈ fleet.written returned later, one.leased.id = id → one.outcome = .success →
        ∃ number result, returned.attempt? one.name number =
          some (.persisting one.leased result .success)) ∧
      ((∀ name number leased result, returned.attempt? name number =
          some (.persisting leased result .success) → leased.id ≠ id) →
        (∀ one ∈ fleet.written returned later, one.leased.id = id → one.outcome ≠ .success) ∧
        ∀ last, (fleet.run returned later).site.memory.find? id = some last →
          registry.isTerminal last.state = true →
            last.state = registry.cancelled ∨ last.state = registry.failed) := by
  intro before answer returned pending
  have sound : (⟨before, turns, []⟩ : Company ι ε S P Call Response).IsSound fleet memory
      registry :=
    ⟨fleet.honest_run memory surroundings earlier, fleet.due_run memory surroundings earlier,
      fun action member => trigger action (List.mem_append_left _ member)⟩
  obtain ⟨still, told⟩ := report_of_cancel (Draft.isSound_of_build built) shared sound rfl id around
  change fleet.CancelReport registry id _ returned answer.2.calls answer.1 at told
  rw [pending] at told
  obtain ⟨stored, found, asked, alive⟩ := told.left
  have decided : ∀ one ∈ fleet.written returned later, one.leased.id = id →
      one.outcome = .success → ∃ number result, returned.attempt? one.name number =
        some (.persisting one.leased result .success) := by
    intro one member sameId success
    obtain ⟨front, back, split⟩ := List.append_of_mem member
    obtain ⟨sooner, action, rest, rfl, writes, _, _⟩ := written_split split
    obtain ⟨number, result, saved, _, there, _⟩ := exists_of_writes writes
    rw [success] at there
    exact ⟨number, result, (isBound_run found asked sooner).decided there sameId⟩
  refine ⟨decided, fun undecided => ⟨fun one member sameId success => ?_, ?_⟩⟩
  · obtain ⟨number, result, there⟩ := decided one member sameId success
    exact undecided _ _ _ _ there sameId
  · intro last isLast terminal
    obtain ⟨met, isMet, ends⟩ := isDoomed_run shared still.honest found asked alive (undecided _ _ _ _)
      fun action member => trigger action (List.mem_append_right _ member)
    obtain rfl := Option.some.inj (isMet.symm.trans isLast)
    exact ends terminal

/-! ### A list that is published after all -/

/-- Who asks about an entity that is alive and leased, and meets nobody, is told that the request
waits. -/
theorem pending_of_leased {company : Company ι ε S P Call Response} {stored : Entity S P}
    (registry : Registry S P Call Response) (around : World ε Call Response)
    (alone : company.turns = [])
    (found : company.state.site.memory.find? id = some stored)
    (alive : registry.isTerminal stored.state = false)
    (leased : stored.isLeasedAt ((Company.world around).now company) = true) :
    ∃ entry, (caller fleet registry).cancel (Company.world around) id company =
      (.ok .pending, ((Company.world around).log entry ((company.after fleet
        (company.cancellation registry around id)).after fleet (registry.request id))).2) := by
  have met : company.met fleet = company.state := by
    unfold Company.met
    rw [alone]
    rfl
  have kept : (registry.isTerminal stored.state ||
      stored.isLeasedAt ((Company.world around).now company)) = true := by
    rw [leased, Bool.or_true]
  have found : (company.met fleet).site.memory.find? id = some stored := by
    rw [met]
    exact found
  obtain ⟨asks, unchanged⟩ := cancel_of_kept registry around found kept
  have still : ((company.after fleet (company.cancellation registry around
      id)).met fleet).site.memory.find? id = some stored := by
    unfold Company.met Company.after
    rw [alone, ← found]
    exact congrArg (·.find? id) unchanged
  obtain ⟨⟨entry, notes⟩, _⟩ := requestCancel_of_alive registry around still alive
  exact ⟨entry, asks.trans notes⟩

section Overtaken

open Credential StatusList

/-- Partners that sign and publish at once. -/
def promptAnswers : (request : Credential.Call) → Nat × Credential.Response request
  | .sign .. => (0, .answered "signature")
  | .publish .. => (0, .answered "url")
  | _ => (0, .transient "busy")

/-- A status list that waits to be published. -/
def unpublished : Entity StatusList.State Publication :=
  { unsigned with
    state := .signed
    payload := { unsigned.payload with signed := some "signature" } }

/-- A publisher selects the list and takes some steps. -/
def publishing (steps : Nat) :
    State String Instant StatusList.State Publication Credential.Call Credential.Response :=
  (publishers promptAnswers).run (.start ⟨[unpublished], by decide⟩ (atMillis 1000))
    (.poll "a" :: List.replicate steps (.proceed "a" 0))

/-- The list as the publisher leased it. -/
def unpublishedLeased : Entity StatusList.State Publication :=
  { unpublished with lease := some ⟨"a", atMillis 1100⟩, version := 1 }

theorem publishing_eq (steps : Nat) :
    publishing steps = (publishers promptAnswers).run ((State.start ⟨[unpublished], by decide⟩
      (atMillis 1000)).polled (publishers promptAnswers) "a" unpublished)
        (List.replicate steps (.proceed "a" 0)) := by
  have due : (({} : RetryPolicy).dueFilter (atMillis 1000)).admits 0 Instant.epoch = true := by
    decide
  have selects := (publishers promptAnswers).step_poll_of_single
    (.start ⟨[unpublished], by decide⟩ (atMillis 1000)) "a" unpublished rfl rfl ⟨_, rfl⟩ rfl due
  rw [← selects]
  rfl

/-- Who asks while the publisher has the list is told that the request waits. -/
theorem publishing_pending (steps : Nat)
    (found : (publishing steps).site.memory.find? "list" = some unpublishedLeased)
    (clock : (publishing steps).site.surroundings = atMillis 1000) :
    let answer := (caller (publishers promptAnswers) StatusList.registry).cancel
      (Company.world (publishers promptAnswers "a").world) "list" ⟨publishing steps, [], []⟩
    answer.1 = .ok .pending ∧ answer.2.state = (publishers promptAnswers).run (publishing steps)
      [.call (StatusList.registry.cancellation "list" (atMillis 1000)),
        .call (StatusList.registry.request "list")] := by
  have leased : unpublishedLeased.isLeasedAt ((Company.world
      (publishers promptAnswers "a").world).now ⟨publishing steps, [], []⟩) = true := by
    show unpublishedLeased.isLeasedAt (publishing steps).site.surroundings = true
    rw [clock]
    decide
  obtain ⟨entry, answered⟩ := pending_of_leased StatusList.registry
    (publishers promptAnswers "a").world rfl found rfl leased
  rw [answered, ← clock]
  exact ⟨rfl, rfl⟩

/-- A request that comes while the handler works is honoured: the list ends up cancelled. -/
theorem pending_honoured_working :
    let answer := (caller (publishers promptAnswers) StatusList.registry).cancel
      (Company.world (publishers promptAnswers "a").world) "list" ⟨publishing 1, [], []⟩
    let later := List.replicate 3 (.proceed "a" 0)
    answer.1 = .ok .pending ∧
      (∀ one ∈ (publishers promptAnswers).written answer.2.state later, one.leased.id = "list" →
        one.outcome ≠ .success) ∧
      ∃ last, ((publishers promptAnswers).run answer.2.state later).site.memory.find? "list" =
          some last ∧ StatusList.registry.isTerminal last.state = true ∧
        (last.state = StatusList.registry.cancelled ∨
          last.state = StatusList.registry.failed) := by
  intro answer later
  obtain ⟨pending, reached⟩ := publishing_pending 1 (by rw [publishing_eq]; rfl)
    (by rw [publishing_eq]; rfl)
  change answer.2.state = _ at reached
  unfold Registry.cancellation Registry.request at reached
  rw [publishing_eq, terminalStates_registry] at reached
  have undecided : ∀ name number leased result, answer.2.state.attempt? name number =
      some (.persisting leased result .success) → leased.id ≠ "list" := by
    intro name number leased result there
    unfold State.attempt? at there
    by_cases same : name = "a"
    · rw [same, reached] at there
      cases number with
      | zero => cases there
      | succ number => cases there
    · have nobody : answer.2.state.batches name = [] := by
        rw [reached]
        exact (Function.update_of_ne same _ _).trans (Function.update_of_ne same _ _)
      rw [nobody] at there
      cases there
  obtain ⟨_, honours⟩ := pending_honoured StatusList.build_draft (publishers promptAnswers)
    (fun _ => rfl) ⟨[unpublished], by decide⟩ (atMillis 1000) (publishers promptAnswers "a").world
    [.poll "a", .proceed "a" 0] [] later (by simp [later, Action.IsTriggerOf]) "list" pending
  obtain ⟨none, ends⟩ := honours undecided
  have cancelled : ∃ last, ((publishers promptAnswers).run answer.2.state
      later).site.memory.find? "list" = some last ∧
        StatusList.registry.isTerminal last.state = true := by
    rw [reached]
    exact ⟨_, rfl, rfl⟩
  obtain ⟨last, isLast, terminal⟩ := cancelled
  exact ⟨pending, none, last, isLast, terminal, ends last isLast terminal⟩

/-- **A request that comes between the look and the write is overtaken**: the caller is told that it
waits, and then the list is published. -/
theorem pending_overtaken :
    let answer := (caller (publishers promptAnswers) StatusList.registry).cancel
      (Company.world (publishers promptAnswers "a").world) "list" ⟨publishing 3, [], []⟩
    answer.1 = .ok .pending ∧
      (publishers promptAnswers).written answer.2.state [.proceed "a" 0] =
        [⟨"a", unpublishedLeased, .success⟩] ∧
      ∃ last, ((publishers promptAnswers).run answer.2.state [.proceed "a" 0]).site.memory.find?
          "list" = some last ∧
        StatusList.registry.isTerminal last.state = true ∧
        last.state ≠ StatusList.registry.cancelled ∧ last.state ≠ StatusList.registry.failed := by
  intro answer
  obtain ⟨pending, reached⟩ := publishing_pending 3 (by rw [publishing_eq]; rfl)
    (by rw [publishing_eq]; rfl)
  change answer.2.state = _ at reached
  unfold Registry.cancellation Registry.request at reached
  rw [publishing_eq, terminalStates_registry] at reached
  refine ⟨pending, ?_, ?_⟩
  · rw [reached]
    rfl
  · rw [reached]
    exact ⟨_, rfl, rfl, by decide, by decide⟩

end Overtaken

end Fleet

end Leasehold
