/-
**What the attempts of a poll leave in a record.**

A record lists what an engine does in the sight of others: its store operations with their answers,
and the transitions that it reports. Every attempt leaves a trace of few shapes there, and the
record of a poll is an interleaving of the traces of its attempts.

* `Occurrence`: one entry of the record;
* `Engine.IsNoted`: all operations and reports are recorded, and the answers suit their operations;
* `Engine.Account`: where an attempt stands, and the trace that it has left;
* `account_step`: one step of an attempt carries its account on;
* `File`, `Engine.IsFiled`: the attempts of a batch with their traces;
* `keeps_isFiled`: a batch is a file of accounts.
-/

import Leasehold.Proofs.Poll.Hosting
import Leasehold.Proofs.Store.Answers

set_option linter.unusedSectionVars false

namespace Leasehold

variable {σ S P Call : Type} {Response : Call → Type} [DecidableEq S] [ProcessState S]

/-! ### Records -/

/-- What an engine did in the sight of others. -/
inductive Occurrence (S P : Type) where
  /-- The store answered an operation. -/
  | ran (operation : Operation S P) (answer : operation.Answer)
  /-- The listener received a transition. -/
  | reported (transition : Transition)

namespace Occurrence

/-- The entity that was leased. -/
def leased? : Occurrence S P → Option (Entity S P)
  | .ran (.lease _ _ _ _) (.ok leased) => some leased
  | _ => none

/-- Why an entity could not be leased. -/
def refusal? : Occurrence S P → Option StoreError
  | .ran (.lease _ _ _ _) (.error error) => some error
  | _ => none

/-- The entity as it was written. -/
def saved? : Occurrence S P → Option (Entity S P)
  | .ran (.update _) (.ok saved) => some saved
  | _ => none

/-- The transition that was reported. -/
def reported? : Occurrence S P → Option Transition
  | .reported transition => some transition
  | _ => none

/-- Nothing was leased or refused, and nothing was written or reported. -/
structure IsSilent (occurrence : Occurrence S P) : Prop where
  leased : occurrence.leased? = none
  refusal : occurrence.refusal? = none
  saved : occurrence.saved? = none
  reported : occurrence.reported? = none

end Occurrence

namespace Engine

variable (engine : Engine σ S P Call Response) (world : World σ Call Response)
  (notes : σ → List (Occurrence S P))

/-- Every operation of an engine is recorded with its answer, which suits it, and so is every
transition that is reported. Nothing else is recorded. -/
structure IsNoted : Prop where
  store : ∀ (operation : Operation S P) (state : σ), notes (engine.store operation state).2 =
    notes state ++ [.ran operation (engine.store operation state).1]
  suits : ∀ (operation : Operation S P) (state : σ),
    operation.Suits (engine.store operation state).1
  emit : ∀ transition state,
    notes (world.emit transition state).2 = notes state ++ [.reported transition]
  log : ∀ entry state, notes (world.log entry state).2 = notes state
  call : ∀ request state, notes (world.call request state).2 = notes state
  tick : ∀ millis state, notes (world.tick millis state).2 = notes state

end Engine

/-! ### The trace of one attempt -/

/-- The attempt is made on an entity that was leased, and has not ended. -/
def Attempt.IsOn (leased : Entity S P) : Attempt S P Call Response → Prop
  | .working entity _ | .waiting _ entity _ | .confirming entity _ _ _ | .releasing entity =>
    entity = leased
  | .persisting entity result _ => entity = leased ∧ result.id = leased.id
  | .selected _ | .ended _ => False

namespace Engine

section Account

variable (engine : Engine σ S P Call Response)

/-- The lease that an engine asks for. -/
abbrev leasing (id : String) (now : Instant) : Operation S P :=
  .lease id engine.holder engine.config.leaseDuration now

/-- The trace of an attempt on a selected entity, and where the attempt stands. -/
inductive Account (candidate : Entity S P) :
    List (Occurrence S P) → Attempt S P Call Response → Prop where
  /-- It has not begun. -/
  | selected : Account candidate [] (.selected candidate)
  /-- The entity could not be leased. -/
  | refused (now : Instant) (error : StoreError) :
      Account candidate [.ran (engine.leasing candidate.id now) (.error error)]
        (.ended (if error.isConflict then .leaseConflict else .leaseFailed))
  /-- The entity was leased. -/
  | underway {now : Instant} {leased : Entity S P} {quiet : List (Occurrence S P)}
      {attempt : Attempt S P Call Response} (same : leased.id = candidate.id)
      (silent : ∀ occurrence ∈ quiet, occurrence.IsSilent) (isOn : attempt.IsOn leased) :
      Account candidate (.ran (engine.leasing candidate.id now) (.ok leased) :: quiet) attempt
  /-- The entity was leased, but no outcome was written. -/
  | abandoned {now : Instant} {leased : Entity S P} {quiet : List (Occurrence S P)}
      (same : leased.id = candidate.id) (silent : ∀ occurrence ∈ quiet, occurrence.IsSilent) :
      Account candidate (.ran (engine.leasing candidate.id now) (.ok leased) :: quiet)
        (.ended .abandoned)
  /-- The entity was leased, and an outcome was written and reported. -/
  | persisted {now : Instant} {leased written saved : Entity S P} {outcome : Outcome}
      {quiet : List (Occurrence S P)} (same : leased.id = candidate.id)
      (silent : ∀ occurrence ∈ quiet, occurrence.IsSilent) (sameSaved : saved.id = candidate.id) :
      Account candidate
        (.ran (engine.leasing candidate.id now) (.ok leased) :: (quiet ++
          [.ran (.update written) (.ok saved), .reported (engine.transition leased saved outcome)]))
        (.ended (.persisted outcome))

/-- What a step on a leased entity leaves, and where it leads. -/
inductive Leaves (leased : Entity S P) :
    List (Occurrence S P) → Attempt S P Call Response → Prop where
  | goesOn {quiet : List (Occurrence S P)} {next : Attempt S P Call Response}
      (silent : ∀ occurrence ∈ quiet, occurrence.IsSilent) (isOn : next.IsOn leased) :
      Leaves leased quiet next
  | abandons {quiet : List (Occurrence S P)}
      (silent : ∀ occurrence ∈ quiet, occurrence.IsSilent) :
      Leaves leased quiet (.ended .abandoned)
  | persists (written : Entity S P) {saved : Entity S P} {outcome : Outcome}
      (sameSaved : saved.id = leased.id) :
      Leaves leased
        [.ran (.update written) (.ok saved), .reported (engine.transition leased saved outcome)]
        (.ended (.persisted outcome))

end Account

variable {engine : Engine σ S P Call Response} {world : World σ Call Response}
  {notes : σ → List (Occurrence S P)} (noted : engine.IsNoted world notes)
  {candidate leased : Entity S P} {attempt next : Attempt S P Call Response} {state after : σ}
  {trace : List (Occurrence S P)}

include noted

/-- An operation that is answered is recorded. -/
theorem IsNoted.ran {operation : Operation S P} {answer : operation.Answer}
    (answered : engine.store operation state = (answer, after)) :
    notes after = notes state ++ [.ran operation answer] ∧ operation.Suits answer := by
  have recorded := noted.store operation state
  have suits := noted.suits operation state
  rw [answered] at recorded suits
  exact ⟨recorded, suits⟩

/-- The work of a handler is not recorded. -/
theorem IsNoted.drive {α : Type} (work : Work Call Response α) (state : σ) :
    notes (work.drive world state).2 = notes state := by
  induction work generalizing state with
  | done result => rfl
  | call request next ih =>
    by_cases atOnce : (world.call request state).1.1 = 0
    · rw [Work.drive_call_of_eq atOnce, ih, noted.call]
    · rw [Work.drive_call_of_ne atOnce]
      exact noted.call request state
  | readClock next ih => exact ih _ state
  | log entry next ih => exact (ih _).trans (noted.log entry state)

/-- What follows on a lease is not recorded. -/
theorem IsNoted.afterLease
    (made : engine.afterLease world candidate leased state = (next, after)) :
    notes after = notes state ∧ next.IsOn leased := by
  unfold Engine.afterLease at made
  split at made
  · cases made
    exact ⟨noted.log _ state, rfl⟩
  · split at made
    · cases made
      exact ⟨rfl, rfl, rfl⟩
    · cases handled : engine.registry.handler? leased.state with
      | some handler =>
        rw [handled] at made
        cases made
        exact ⟨rfl, rfl⟩
      | none =>
        rw [handled] at made
        cases made
        exact ⟨noted.log _ state, rfl⟩

theorem IsNoted.claim (made : engine.claim world candidate state = (next, after)) :
    ∃ more, notes after = notes state ++ more ∧ engine.Account candidate more next := by
  rcases answered : engine.store (engine.leasing candidate.id (world.now state)) state with
    ⟨answer, reached⟩
  obtain ⟨recorded, suits⟩ := noted.ran answered
  unfold Engine.claim at made
  rw [bind_apply, get_apply, bind_apply, answered] at made
  cases answer with
  | ok entity =>
    obtain ⟨unchanged, isOn⟩ := noted.afterLease made
    exact ⟨_, unchanged.trans recorded, .underway suits (fun _ nothing => by cases nothing) isOn⟩
  | error error =>
    have ends : next = .ended (if error.isConflict then .leaseConflict else .leaseFailed) ∧
        notes after = notes reached := by
      dsimp only at made
      split at made
      · next conflict =>
        cases made
        rw [if_pos conflict]
        exact ⟨rfl, noted.log _ reached⟩
      · next other =>
        cases made
        rw [if_neg other]
        exact ⟨rfl, noted.log _ reached⟩
    obtain ⟨rfl, unchanged⟩ := ends
    exact ⟨_, unchanged.trans recorded, .refused (world.now state) error⟩

omit noted in
/-- What is decided on a reply is decided on the leased entity. -/
theorem isOn_judge (leased : Entity S P) (now : Instant) (verdict : Verdict S P) :
    (engine.judge leased now verdict).IsOn leased := by
  unfold judge
  cases verdict with
  | success target payload =>
    dsimp only
    split
    · rfl
    · exact ⟨rfl, rfl⟩
  | retry reason =>
    dsimp only
    split <;> exact ⟨rfl, rfl⟩
  | fatal reason => exact ⟨rfl, rfl⟩

theorem IsNoted.work {work : Work Call Response (Reply S P)}
    (made : engine.work world leased work state = (next, after)) :
    notes after = notes state ∧ next.IsOn leased := by
  have unchanged := noted.drive work state
  rcases came : work.drive world state with ⟨progress, reached⟩
  rw [came] at unchanged
  cases progress with
  | waiting millis rest =>
    rw [work_of_waiting engine world came] at made
    cases made
    exact ⟨unchanged, rfl⟩
  | finished reply =>
    obtain ⟨final, ends, worked⟩ := work_of_finished engine world leased came
    rw [worked] at made
    cases made
    refine ⟨?_, isOn_judge leased _ _⟩
    rcases ends with rfl | ⟨entry, rfl⟩
    · exact unchanged
    · exact (noted.log entry reached).trans unchanged

/-- The look at the request to cancel is recorded. -/
theorem IsNoted.isCancelRequested {id : String} {asked : Bool}
    (made : engine.isCancelRequested world id state = (asked, after)) :
    ∃ answer, notes after = notes state ++ [.ran (.find id) answer] := by
  rcases answered : engine.store (.find id) state with ⟨answer, reached⟩
  have recorded := (noted.ran answered).1
  unfold Engine.isCancelRequested at made
  rw [bind_apply, answered] at made
  cases answer with
  | ok found =>
    cases made
    exact ⟨_, recorded⟩
  | error error =>
    cases made
    exact ⟨_, (noted.log _ reached).trans recorded⟩

omit noted in
theorem isOn_confirm (leased : Entity S P) (target : S) (payload : P) (now : Instant)
    (asked : Bool) : (engine.confirm leased target payload now asked).IsOn leased := by
  unfold confirm
  split <;> exact ⟨rfl, rfl⟩

/-- A write is recorded. If it succeeds, a transition is reported at once. -/
theorem IsNoted.persist {result : Entity S P} {outcome : Outcome} (same : result.id = leased.id)
    (made : engine.persist world leased result outcome state = (next, after)) :
    ∃ more, notes after = notes state ++ more ∧ engine.Leaves leased more next := by
  rcases answered : engine.store (.update { result with lease := none }) state with
    ⟨answer, reached⟩
  obtain ⟨recorded, suits⟩ := noted.ran answered
  cases answer with
  | ok saved =>
    have sameSaved : saved.id = result.id := suits
    rw [persist_of_ok engine world answered] at made
    cases made
    refine ⟨_, ?_, .persists { result with lease := none } (sameSaved.trans same)⟩
    rw [noted.emit, recorded, List.append_assoc]
    rfl
  | error error =>
    have silent : (Occurrence.ran (.update { result with lease := none })
        (.error error)).IsSilent := ⟨rfl, rfl, rfl, rfl⟩
    unfold Engine.persist at made
    rw [bind_apply, answered] at made
    dsimp only at made
    split at made
    · cases made
      exact ⟨_, (noted.log _ reached).trans recorded,
        .abandons (List.forall_mem_singleton.mpr silent)⟩
    · cases made
      exact ⟨_, (noted.log _ reached).trans recorded,
        .goesOn (List.forall_mem_singleton.mpr silent) rfl⟩

/-- A release is recorded, whether it succeeds or not. -/
theorem IsNoted.release (made : engine.release world leased state = (next, after)) :
    ∃ more, notes after = notes state ++ more ∧ engine.Leaves leased more next := by
  rcases answered : engine.store (.release leased.id engine.holder) state with ⟨answer, reached⟩
  have recorded := (noted.ran answered).1
  have silent : (Occurrence.ran (.release leased.id engine.holder) answer :
      Occurrence S P).IsSilent := ⟨rfl, rfl, rfl, rfl⟩
  unfold Engine.release at made
  rw [bind_apply, answered] at made
  cases answer with
  | ok had =>
    cases made
    exact ⟨_, recorded, .abandons (List.forall_mem_singleton.mpr silent)⟩
  | error error =>
    cases made
    exact ⟨_, (noted.log _ reached).trans recorded,
      .abandons (List.forall_mem_singleton.mpr silent)⟩

/-- A step on a leased entity leaves silence, or what was written and reported. -/
theorem IsNoted.step (isOn : attempt.IsOn leased)
    (made : engine.step world attempt state = (next, after)) :
    ∃ more, notes after = notes state ++ more ∧ engine.Leaves leased more next := by
  have unrecorded : notes after = notes state → next.IsOn leased →
      ∃ more, notes after = notes state ++ more ∧ engine.Leaves leased more next := by
    intro unchanged isOnNext
    refine ⟨[], ?_, .goesOn (List.forall_mem_nil _) isOnNext⟩
    rw [unchanged, List.append_nil]
  cases attempt with
  | selected candidate => cases isOn
  | ended ending => cases isOn
  | working entity work =>
    obtain rfl := isOn
    obtain ⟨unchanged, isOnNext⟩ := noted.work made
    exact unrecorded unchanged isOnNext
  | waiting millis entity work =>
    obtain rfl := isOn
    cases made
    exact unrecorded rfl rfl
  | confirming entity target payload now =>
    obtain rfl := isOn
    rcases looked : engine.isCancelRequested world entity.id state with ⟨asked, reached⟩
    obtain ⟨answer, recorded⟩ := noted.isCancelRequested looked
    have silent : (Occurrence.ran (.find entity.id) answer : Occurrence S P).IsSilent :=
      ⟨rfl, rfl, rfl, rfl⟩
    have steps : engine.step world (.confirming entity target payload now) state =
        (engine.confirm entity target payload now asked, reached) := by
      unfold Engine.step
      dsimp only
      rw [bind_apply, looked]
      rfl
    rw [steps] at made
    cases made
    exact ⟨_, recorded,
      .goesOn (List.forall_mem_singleton.mpr silent) (isOn_confirm _ _ _ _ _)⟩
  | persisting entity result outcome =>
    obtain ⟨rfl, same⟩ := isOn
    exact noted.persist same made
  | releasing entity =>
    obtain rfl := isOn
    exact noted.release made

/-- **One step of an attempt carries its account on.** -/
theorem account_step (account : engine.Account candidate trace attempt)
    (pending : attempt.isOver = false)
    (made : engine.step world attempt state = (next, after)) :
    ∃ more, notes after = notes state ++ more ∧ engine.Account candidate (trace ++ more) next := by
  cases account with
  | selected => exact noted.claim made
  | refused now error => cases pending
  | abandoned same silent => cases pending
  | persisted same silent sameSaved => cases pending
  | underway same silent isOn =>
    obtain ⟨more, recorded, leaves⟩ := noted.step isOn made
    refine ⟨more, recorded, ?_⟩
    cases leaves with
    | goesOn silentToo isOnNext =>
      exact .underway same (List.forall_mem_append.mpr ⟨silent, silentToo⟩) isOnNext
    | abandons silentToo => exact .abandoned same (List.forall_mem_append.mpr ⟨silent, silentToo⟩)
    | persists written sameSaved => exact .persisted same silent (sameSaved.trans same)

end Engine

/-! ### The traces of a batch -/

/-- Where one item of a list grows, the whole grows. -/
theorem perm_flatMap_set {α β : Type} (part : α → List β) {items : List α} {number : Nat}
    {item next : α} {more : List β} (there : items[number]? = some item)
    (grows : part next = part item ++ more) :
    ((items.set number next).flatMap part).Perm (items.flatMap part ++ more) := by
  induction items generalizing number with
  | nil => cases there
  | cons first rest ih =>
    cases number with
    | zero =>
      cases there
      show (part next ++ rest.flatMap part).Perm (part item ++ rest.flatMap part ++ more)
      rw [grows, List.append_assoc, List.append_assoc]
      exact List.perm_append_comm.append_left _
    | succ number =>
      show (part first ++ (rest.set number next).flatMap part).Perm
        (part first ++ rest.flatMap part ++ more)
      rw [List.append_assoc]
      exact (ih there).append_left _

/-- An attempt of a batch, with the entity that was selected and the trace that was left. -/
structure File (S P Call : Type) (Response : Call → Type) where
  candidate : Entity S P
  trace : List (Occurrence S P)
  attempt : Attempt S P Call Response

namespace Engine

variable (engine : Engine σ S P Call Response)

/-- The accounts of a batch. What was recorded since its selection is an interleaving of the traces,
and the report counts the endings. -/
structure IsFiled (selection : List (Entity S P)) (files : List (File S P Call Response))
    (since : List (Occurrence S P)) (report : CycleReport) : Prop where
  candidates : files.map (·.candidate) = selection
  accounts : ∀ file ∈ files, engine.Account file.candidate file.trace file.attempt
  recorded : since.Perm (files.flatMap (·.trace))
  ordered : ∀ file ∈ files, file.trace.Sublist since
  counted : ∃ endings : List Ending, endings.Perm (files.flatMap (·.attempt.ending?.toList)) ∧
    report = endings.foldl .record { selected := selection.length }

variable {engine} {world : World σ Call Response} {notes : σ → List (Occurrence S P)}
  {selection : List (Entity S P)} {files : List (File S P Call Response)}
  {since more : List (Occurrence S P)} {report : CycleReport}

/-- At the beginning nothing is recorded. -/
theorem isFiled_start (selection : List (Entity S P)) :
    engine.IsFiled selection (selection.map fun candidate => ⟨candidate, [], .selected candidate⟩)
      [] { selected := selection.length } where
  candidates := by
    rw [List.map_map]
    exact List.map_id _
  accounts file listed := by
    obtain ⟨candidate, _, rfl⟩ := List.mem_map.mp listed
    exact .selected
  recorded := by
    rw [List.flatMap_map]
    exact .of_eq (List.flatMap_eq_nil_iff.mpr fun _ _ => rfl).symm
  ordered file listed := by
    obtain ⟨candidate, _, rfl⟩ := List.mem_map.mp listed
    exact List.Sublist.refl _
  counted := by
    refine ⟨[], ?_, rfl⟩
    rw [List.flatMap_map]
    exact .of_eq (List.flatMap_eq_nil_iff.mpr fun _ _ => rfl).symm

/-- One account goes on. -/
theorem IsFiled.set (filed : engine.IsFiled selection files since report) {number : Nat}
    {file : File S P Call Response} (there : files[number]? = some file)
    (pending : file.attempt.isOver = false) {next : Attempt S P Call Response}
    (account : engine.Account file.candidate (file.trace ++ more) next) :
    engine.IsFiled selection (files.set number ⟨file.candidate, file.trace ++ more, next⟩)
      (since ++ more) (next.ending?.toList.foldl .record report) where
  candidates := by
    obtain ⟨within, same⟩ := List.getElem?_eq_some_iff.mp there
    rw [← filed.candidates, List.map_set, ← same]
    have unchanged := List.set_getElem_self (show number < (files.map (·.candidate)).length by
      rwa [List.length_map])
    rw [List.getElem_map] at unchanged
    exact unchanged
  accounts other listed := by
    rcases List.mem_or_eq_of_mem_set listed with earlier | rfl
    · exact filed.accounts other earlier
    · exact account
  recorded :=
    (filed.recorded.append_right more).trans (perm_flatMap_set _ there rfl).symm
  ordered other listed := by
    rcases List.mem_or_eq_of_mem_set listed with earlier | rfl
    · exact (filed.ordered other earlier).trans (List.sublist_append_left _ _)
    · exact (filed.ordered file (List.mem_of_getElem? there)).append (List.Sublist.refl more)
  counted := by
    obtain ⟨endings, same, rfl⟩ := filed.counted
    refine ⟨endings ++ next.ending?.toList, ?_, List.foldl_append.symm⟩
    refine (same.append_right _).trans (perm_flatMap_set _ there ?_).symm
    rw [Attempt.ending?_of_pending pending]
    rfl

/-- **A batch is a file of accounts.** -/
theorem keeps_isFiled (noted : engine.IsNoted world notes) (selection : List (Entity S P))
    (past : List (Occurrence S P)) :
    engine.Keeps world fun attempts report state => ∃ files since,
      files.map (·.attempt) = attempts ∧ notes state = past ++ since ∧
        engine.IsFiled selection files since report where
  step := by
    rintro _ report state after number attempt next ⟨files, since, rfl, record, filed⟩ there
      pending made
    rw [List.getElem?_map] at there
    obtain ⟨file, located, rfl⟩ := Option.map_eq_some_iff.mp there
    have account := filed.accounts file (List.mem_of_getElem? located)
    obtain ⟨more, recorded, goesOn⟩ := account_step noted account pending made
    refine ⟨_, since ++ more, ?_, ?_, filed.set located pending goesOn⟩
    · rw [List.map_set]
    · rw [recorded, record, List.append_assoc]
  tick := by
    rintro attempts report state millis ⟨files, since, same, record, filed⟩
    exact ⟨files, since, same, (noted.tick millis state).trans record, filed⟩

end Engine

end Leasehold
