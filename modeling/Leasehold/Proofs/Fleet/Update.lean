/-
**No update is lost.**

Nothing is assumed of the callers outside the fleet: they and the handlers may make any call.

* `writer_of_update`: every write of a member is that of an attempt, and its outcome;
* `sights_in_order`: two sights of one entity, taken at any two times;
* `no_lost_update`: a write of a member succeeds exactly if no conditional write took effect
  since the lease; what it writes over is what was leased; and no version is written over twice.
-/

import Leasehold.Proofs.Fleet.Claim
import Leasehold.Proofs.Fleet.Publishers

set_option linter.unusedSectionVars false

namespace Leasehold.Fleet

variable {ι ε S P Call : Type} {Response : Call → Type} [DecidableEq S] [ProcessState S]
  [DecidableEq ι] {fleet : Fleet ι ε S P Call Response} {memory : Memory S P}

/-! ### Writes and their attempts -/

/-- A write of a member is the step of an attempt that is about to write. -/
theorem Change.writer {state after : State ι ε S P Call Response} {action : Action ι ε S P}
    (change : fleet.Change state action after) {name : ι} {written : Entity S P}
    {transitions : List Transition}
    (done : state.site.Extends after.site [⟨some name, .update written⟩] transitions) :
    ∃ number leased result outcome,
      state.attempt? name number = some (.persisting leased result outcome) ∧
        written = { result with lease := none } := by
  have sameDeed : ∀ {made : List (Deed ι S P)} {moved : List Transition},
      state.site.Extends after.site made moved → made = [⟨some name, .update written⟩] := by
    intro made moved performed
    exact List.append_cancel_left (performed.deeds.symm.trans done.deeds)
  cases change with
  | rests unchanged => cases sameDeed unchanged
  | calls performed => cases sameDeed performed
  | polls finished due performed => cases sameDeed performed
  | stops finished performed => cases sameDeed performed
  | @proceeds moved number attempt next operation _ _ there move performed =>
    have same := sameDeed performed
    cases move with
    | persists written => cases same; exact ⟨number, _, _, _, there, rfl⟩
    | overtaken failed => cases same; exact ⟨number, _, _, _, there, rfl⟩
    | _ => cases same

/-- **Every write of a member is that of an attempt**: it has an open claim, and writes what the
claim warrants. -/
theorem writer_of_update (fleet : Fleet ι ε S P Call Response) (memory : Memory S P)
    (surroundings : ε) (actions : List (Action ι ε S P)) {before after : List (Deed ι S P)}
    {name : ι} {written : Entity S P}
    (split : (fleet.run (.start memory surroundings) actions).site.deeds =
      before ++ ⟨some name, .update written⟩ :: after) :
    ∃ leased past now since result outcome,
      fleet.OpenClaim memory before name leased past now since ∧
        Warrant (fleet name).registry (fleet name).config.retry leased result outcome ∧
        written = { result with lease := none } := by
  obtain ⟨earlier, action, _, transitions, _, recorded, done⟩ :=
    fleet.exists_step_of_deed memory surroundings actions split
  have honest := fleet.honest_run memory surroundings earlier
  obtain ⟨number, leased, result, outcome, there, rfl⟩ :=
    (fleet.change_step _ action).writer done
  have flying : (fleet.run (.start memory surroundings) earlier).claim? name number =
      some leased := by
    unfold State.claim?
    rw [there]
    rfl
  obtain ⟨past, now, since, claim⟩ := honest.recorded flying
  rw [recorded] at claim
  exact ⟨leased, past, now, since, result, outcome, claim, honest.tidy.warranted there, rfl⟩

/-- Since the lease of a claim the version counts the conditional writes. -/
theorem OpenClaim.version_eq {deeds past since : List (Deed ι S P)} {name : ι}
    {leased stored : Entity S P} {now : Instant}
    (claim : fleet.OpenClaim memory deeds name leased past now since)
    (found : (memory.replay (operations deeds)).find? leased.id = some stored) :
    stored.version = leased.version + Memory.conditionalWrites leased.id (operations since)
      ((memory.replay (operations past)).after (.lease leased.id (fleet name).holder
        (fleet name).config.leaseDuration now)) := by
  rw [claim.replay_eq] at found
  exact Memory.version_replay (Memory.find?_after_lease claim.claimed) found

/-! ### Sights -/

/-- **Two sights of one entity**, the second not before the first. -/
theorem sights_in_order {early late : List (Deed ι S P)} (order : early <+: late) {id : String}
    {one other : Entity S P} (first : (memory.replay (operations early)).find? id = some one)
    (second : (memory.replay (operations late)).find? id = some other) : one.Precedes other := by
  obtain ⟨between, rfl⟩ := order
  rw [operations, List.map_append, Memory.replay_append] at second
  obtain ⟨later, found, follows⟩ := Memory.find?_replay first (operations between)
  obtain rfl : later = other := Option.some.inj (found.symm.trans second)
  exact follows

/-! ### What a write does -/

/-- **A write with the version of a claim** succeeds exactly if no conditional write took effect
since the lease. Then it is written over what was leased; otherwise it changes nothing. -/
theorem OpenClaim.update {deeds past since : List (Deed ι S P)} {name : ι}
    {leased written : Entity S P} {now : Instant}
    (claim : fleet.OpenClaim memory deeds name leased past now since)
    (sameId : written.id = leased.id) (sameVersion : written.version = leased.version) :
    let store := memory.replay (operations deeds)
    ((∃ saved, store.answer (.update written) = .ok saved) ↔
      Memory.conditionalWrites leased.id (operations since)
        ((memory.replay (operations past)).after (.lease leased.id (fleet name).holder
          (fleet name).config.leaseDuration now)) = 0) ∧
    (∀ saved, store.answer (.update written) = .ok saved →
      ∃ stored, store.find? leased.id = some stored ∧ leased.SameButRequest stored ∧
        saved = { written with
          version := leased.version + 1
          createdAt := stored.createdAt
          cancelRequested := stored.cancelRequested } ∧
        (store.after (.update written)).find? leased.id = some saved) ∧
    (∀ error, store.answer (.update written) = .error error →
      error = .concurrency leased.id leased.version ∧ store.after (.update written) = store) := by
  intro store
  obtain ⟨stored, found, follows⟩ := claim.stored
  have counted := claim.version_eq found
  have there : store.find? written.id = some stored := by
    rw [sameId]
    exact found
  refine ⟨⟨?_, ?_⟩, ?_, ?_⟩
  · rintro ⟨saved, answered⟩
    obtain ⟨met, atWrite, same, _⟩ := Memory.answer_update_eq_ok_iff.mp answered
    obtain rfl : met = stored := Option.some.inj (atWrite.symm.trans there)
    omega
  · intro none
    exact ⟨_, Memory.answer_update_eq_ok_iff.mpr ⟨stored, there, by omega, rfl⟩⟩
  · intro saved answered
    obtain ⟨met, atWrite, same, equal⟩ := Memory.answer_update_eq_ok_iff.mp answered
    obtain rfl : met = stored := Option.some.inj (atWrite.symm.trans there)
    refine ⟨met, found, follows.same (by omega), ?_, ?_⟩
    · rw [equal, sameVersion]
    · rw [← sameId]
      exact Memory.find?_after_update answered
  · intro error failed
    have ran := Memory.run_update_of_error failed
    have named : store.answer (.update written) =
        .error (.concurrency written.id written.version) :=
      congrArg Prod.fst ran
    rw [failed] at named
    refine ⟨?_, congrArg Prod.snd ran⟩
    rw [← sameId, ← sameVersion]
    exact Except.error.inj named

/-- **No version is written over twice.** -/
theorem update_once {deeds before after before' after' : List (Deed ι S P)}
    {actor actor' : Option ι} {written written' saved saved' : Entity S P}
    (first : deeds = before ++ ⟨actor, .update written⟩ :: after)
    (second : deeds = before' ++ ⟨actor', .update written'⟩ :: after')
    (answered : (memory.replay (operations before)).answer (.update written) = .ok saved)
    (answered' : (memory.replay (operations before')).answer (.update written') = .ok saved')
    (sameId : written.id = written'.id) (sameVersion : written.version = written'.version) :
    before = before' := by
  -- After the first of two writes the version is higher than the second one expects.
  have later : ∀ {early between : List (Deed ι S P)} {actor : Option ι}
      {one other done done' : Entity S P},
      (memory.replay (operations early)).answer (.update one) = .ok done →
      (memory.replay (operations (early ++ ⟨actor, .update one⟩ :: between))).answer
        (.update other) = .ok done' →
      one.id = other.id → one.version ≠ other.version := by
    intro early between actor one other done done' wrote wrote' equal
    have atFirst : (memory.replay (operations (early ++ [⟨actor, .update one⟩]))).find? one.id =
        some done := by
      rw [operations, List.map_append, Memory.replay_append]
      exact Memory.find?_after_update wrote
    obtain ⟨_, _, _, rfl⟩ := Memory.answer_update_eq_ok_iff.mp wrote
    obtain ⟨stored, found, same, _⟩ := Memory.answer_update_eq_ok_iff.mp wrote'
    rw [← equal] at found
    have order : (early ++ [⟨actor, .update one⟩]) <+:
        (early ++ ⟨actor, .update one⟩ :: between) := ⟨between, by simp⟩
    have versions : one.version + 1 ≤ stored.version :=
      (sights_in_order order atFirst found).version
    omega
  rcases places_of_append_eq (first.symm.trans second) with
    ⟨same, _, _⟩ | ⟨between, rfl, _⟩ | ⟨between, rfl, _⟩
  · exact same
  · exact absurd sameVersion (later answered answered' sameId)
  · exact absurd sameVersion.symm (later answered' answered sameId.symm)

/-- **No update is lost.** A member writes with an open claim, and what the claim warrants. The
write succeeds exactly if no conditional write of the entity took effect since the lease; then what
is stored is what was leased, up to a request to cancel, and otherwise nothing changes. Of any two
sights of one entity, those with the same version differ in the request to cancel only, and the
request is never taken back. No version is written over twice. -/
theorem no_lost_update (fleet : Fleet ι ε S P Call Response) (memory : Memory S P)
    (surroundings : ε) (actions : List (Action ι ε S P)) :
    let deeds := (fleet.run (.start memory surroundings) actions).site.deeds
    (∀ before name written after, deeds = before ++ ⟨some name, .update written⟩ :: after →
      ∃ leased past now since result outcome,
        fleet.OpenClaim memory before name leased past now since ∧
        Warrant (fleet name).registry (fleet name).config.retry leased result outcome ∧
        written = { result with lease := none } ∧
        let store := memory.replay (operations before)
        ((∃ saved, store.answer (.update written) = .ok saved) ↔
          Memory.conditionalWrites leased.id (operations since)
            ((memory.replay (operations past)).after (.lease leased.id (fleet name).holder
              (fleet name).config.leaseDuration now)) = 0) ∧
        (∀ saved, store.answer (.update written) = .ok saved →
          ∃ stored, store.find? leased.id = some stored ∧ leased.SameButRequest stored ∧
            saved = { written with
              version := leased.version + 1
              createdAt := stored.createdAt
              cancelRequested := stored.cancelRequested } ∧
            (store.after (.update written)).find? leased.id = some saved) ∧
        (∀ error, store.answer (.update written) = .error error →
          error = .concurrency leased.id leased.version ∧
            store.after (.update written) = store)) ∧
    (∀ early late id one other, early <+: deeds → late <+: deeds →
      (memory.replay (operations early)).find? id = some one →
      (memory.replay (operations late)).find? id = some other →
        (one.version = other.version → one.SameButRequest other) ∧
        (early <+: late → one.cancelRequested = true → other.cancelRequested = true)) ∧
    (∀ before actor written after before' actor' written' after' saved saved',
      deeds = before ++ ⟨actor, .update written⟩ :: after →
      deeds = before' ++ ⟨actor', .update written'⟩ :: after' →
      (memory.replay (operations before)).answer (.update written) = .ok saved →
      (memory.replay (operations before')).answer (.update written') = .ok saved' →
      written.id = written'.id → written.version = written'.version → before = before') := by
  intro deeds
  refine ⟨?_, ?_, ?_⟩
  · intro before name written after split
    obtain ⟨leased, past, now, since, result, outcome, claim, warranted, rfl⟩ :=
      writer_of_update fleet memory surroundings actions split
    obtain ⟨sameId, sameVersion, _⟩ := warranted.keeps
    exact ⟨leased, past, now, since, result, outcome, claim, warranted, rfl,
      claim.update sameId sameVersion⟩
  · intro early late id one other earlyPart latePart first second
    refine ⟨fun sameVersion => ?_, fun order => (sights_in_order order first second).request⟩
    rcases List.prefix_or_prefix_of_prefix earlyPart latePart with order | order
    · exact (sights_in_order order first second).same sameVersion
    · exact ((sights_in_order order second first).same sameVersion.symm).symm
  · intro before actor written after before' actor' written' after' saved saved' first second
      answered answered' sameId sameVersion
    exact update_once first second answered answered' sameId sameVersion

/-! ### A write after a request to cancel -/

section AskedInBetween

open Credential StatusList

/-- Publisher `a` is asked to cancel a list between the lease of the list and the write. -/
def askedSchedule : List (Action String Instant StatusList.State Publication) :=
  [.call (.create unsigned), .poll "a", .proceed "a" 0, .proceed "a" 0,
    .call (.requestCancel "list" []), .proceed "a" 0]

/-- The write of publisher `a` succeeds, so no conditional write took effect since the lease. -/
theorem no_lost_update_asked :
    let deeds := (busyPublishers.run (.start .empty (atMillis 1000)) askedSchedule).site.deeds
    ∃ before written leased past now since,
      before <+: deeds ∧ busyPublishers.OpenClaim .empty before "a" leased past now since ∧
        (∃ saved, (Memory.empty.replay (operations before)).answer (.update written) = .ok saved ∧
          saved.cancelRequested = true) ∧
        Memory.conditionalWrites leased.id (operations since)
          ((Memory.empty.replay (operations past)).after (.lease leased.id "a"
            (busyPublishers "a").config.leaseDuration now)) = 0 := by
  intro deeds
  have reached : deeds = (busyPublishers.run (selectedBy _ "a") [.proceed "a" 0, .proceed "a" 0,
      .call (.requestCancel "list" []), .proceed "a" 0]).site.deeds :=
    congrArg (fun state => state.site.deeds) (run_selectedBy _ "a" _)
  have split : deeds = deeds.take 4 ++ [⟨some "a", .update
      { unsigned.recordRetry "sign status list: busy" (atMillis 1000) with version := 1 }⟩] := by
    rw [reached]
    rfl
  have answered : (Memory.empty.replay (operations (deeds.take 4))).answer (.update
      { unsigned.recordRetry "sign status list: busy" (atMillis 1000) with version := 1 }) =
      .ok { unsigned.recordRetry "sign status list: busy" (atMillis 1000) with
        version := 2
        cancelRequested := true } := by
    rw [reached]
    rfl
  obtain ⟨leased, past, now, since, result, outcome, claim, warranted, same, succeeds, _⟩ :=
    (no_lost_update busyPublishers .empty (atMillis 1000) askedSchedule).1 _ _ _ _ split
  exact ⟨_, _, leased, past, now, since, List.take_prefix 4 deeds, claim, ⟨_, answered, rfl⟩,
    succeeds.mp ⟨_, answered⟩⟩

end AskedInBetween

end Leasehold.Fleet
