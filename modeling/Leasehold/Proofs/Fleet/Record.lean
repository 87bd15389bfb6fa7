/-
**Looking back in the record.**

The record of a site only grows, so a time in the past is a shorter record. A claim was taken before
such a time or after it, and the version of the claim tells which.

* `extends_run`: a schedule adds deeds and transitions to a site, and takes none away;
* `Fleet.Leased`: a record shows that a member leased an entity;
* `OpenClaim.leased_or_follows`: a claim was taken before a sight of its entity, or it hands out what
  followed on this sight;
* `OpenClaim.leased_of_le`: a claim that is not newer than a sight was taken before it.
-/

import Leasehold.Proofs.Fleet.Claim

set_option linter.unusedSectionVars false

namespace Leasehold.Fleet

variable {ι ε S P Call : Type} {Response : Call → Type} [DecidableEq S] [ProcessState S]
  [DecidableEq ι] {fleet : Fleet ι ε S P Call Response} {memory : Memory S P}

/-- A schedule adds to the record of a site. -/
theorem extends_run (fleet : Fleet ι ε S P Call Response) (state : State ι ε S P Call Response)
    (actions : List (Action ι ε S P)) :
    ∃ deeds transitions, state.site.Extends (fleet.run state actions).site deeds transitions := by
  induction actions generalizing state with
  | nil => exact ⟨[], [], .refl state.site⟩
  | cons action rest ih =>
    obtain ⟨deed, transitions, first⟩ := (fleet.change_step state action).extended
    obtain ⟨deeds, later, second⟩ := ih (fleet.step state action)
    exact ⟨_, _, first.trans second⟩

/-- The record of a site after a schedule begins with the record before it. -/
theorem deeds_prefix_run (state : State ι ε S P Call Response)
    (actions : List (Action ι ε S P)) :
    state.site.deeds <+: (fleet.run state actions).site.deeds := by
  obtain ⟨deeds, _, extended⟩ := fleet.extends_run state actions
  exact ⟨deeds, extended.deeds.symm⟩

/-- A record shows that a member leased an entity. -/
def Leased (fleet : Fleet ι ε S P Call Response) (memory : Memory S P) (deeds : List (Deed ι S P))
    (name : ι) (leased : Entity S P) : Prop :=
  ∃ past now since,
    deeds = past ++ ⟨some name, .lease leased.id (fleet name).holder
      (fleet name).config.leaseDuration now⟩ :: since ∧
    (memory.replay (operations past)).answer (.lease leased.id (fleet name).holder
      (fleet name).config.leaseDuration now) = .ok leased

namespace Leased

variable {deeds : List (Deed ι S P)} {name : ι} {leased seen : Entity S P}

/-- What is stored follows on what was leased. -/
theorem precedes (taken : fleet.Leased memory deeds name leased)
    (found : (memory.replay (operations deeds)).find? leased.id = some seen) :
    leased.Precedes seen := by
  obtain ⟨past, now, since, rfl, claimed⟩ := taken
  rw [operations, List.map_append, Memory.replay_append] at found
  obtain ⟨stored, there, follows⟩ :=
    Memory.find?_replay (Memory.find?_after_lease claimed) (operations since)
  obtain rfl : stored = seen := Option.some.inj (there.symm.trans found)
  exact follows

/-- A deed that leases nothing is not the lease of a claim. -/
theorem of_concat {deed : Deed ι S P} (taken : fleet.Leased memory (deeds ++ [deed]) name leased)
    (noLease : ∀ id holder duration now, deed.operation ≠ .lease id holder duration now) :
    fleet.Leased memory deeds name leased := by
  obtain ⟨past, now, since, split, claimed⟩ := taken
  rcases List.eq_nil_or_concat since with rfl | ⟨rest, last, rfl⟩
  · obtain ⟨_, same⟩ := List.append_inj' split rfl
    exact absurd (congrArg Deed.operation (List.singleton_inj.mp same)) (noLease _ _ _ _)
  · rw [List.concat_eq_append, ← List.cons_append, ← List.append_assoc] at split
    exact ⟨past, now, rest, (List.append_inj' split rfl).1, claimed⟩

end Leased

namespace OpenClaim

variable {deeds early past since : List (Deed ι S P)} {name : ι} {leased seen : Entity S P}
  {now : Instant}

/-- A claim is in an earlier record, or it was taken on what followed on an earlier sight. -/
theorem leased_or_follows (claim : fleet.OpenClaim memory deeds name leased past now since)
    (order : early <+: deeds)
    (found : (memory.replay (operations early)).find? leased.id = some seen) :
    fleet.Leased memory early name leased ∨
      ∃ stored, seen.Precedes stored ∧ leased = { stored with
        lease := some (Lease.start (fleet name).holder now (fleet name).config.leaseDuration)
        version := stored.version + 1 } := by
  have handsOut : ∀ gap, past = early ++ gap → ∃ stored, seen.Precedes stored ∧
      leased = { stored with
        lease := some (Lease.start (fleet name).holder now (fleet name).config.leaseDuration)
        version := stored.version + 1 } := by
    rintro gap rfl
    obtain ⟨stored, there, _, handed⟩ := Memory.answer_lease_eq_ok_iff.mp claim.claimed
    rw [operations, List.map_append, Memory.replay_append] at there
    obtain ⟨met, isMet, follows⟩ := Memory.find?_replay found (operations gap)
    obtain rfl : met = stored := Option.some.inj (isMet.symm.trans there)
    exact ⟨met, follows, handed⟩
  obtain ⟨between, split⟩ := order
  rcases List.append_eq_append_iff.mp (split.trans claim.recorded) with
    ⟨gap, later, _⟩ | ⟨gap, rfl, rest⟩
  · exact .inr (handsOut gap later)
  · cases gap with
    | nil => exact .inr (handsOut [] (by simp))
    | cons deed gap =>
      obtain ⟨rfl, _⟩ := List.cons.inj rest
      exact .inl ⟨past, now, gap, rfl, claim.claimed⟩

/-- **A claim that is not newer than a sight of its entity was taken before it.** -/
theorem leased_of_le (claim : fleet.OpenClaim memory deeds name leased past now since)
    (order : early <+: deeds)
    (found : (memory.replay (operations early)).find? leased.id = some seen)
    (old : leased.version ≤ seen.version) : fleet.Leased memory early name leased := by
  rcases claim.leased_or_follows order found with taken | ⟨stored, follows, handed⟩
  · exact taken
  · have newer : leased.version = stored.version + 1 := congrArg (·.version) handed
    have least := follows.version
    omega

end OpenClaim

end Leasehold.Fleet
