/-
**Claims and the record.**

The record of a site tells who has a claim: a member that leased an entity, and did not write or
release it since.

* `Operation.ends`: whether an operation ends a claim on an entity;
* `Fleet.OpenClaim`: the record shows a lease, and nothing that ends it;
* `OpenClaim.unique`: no two claims on an entity have the same version;
* `State.Honest`, `honest_run`: the claims of the attempts in flight are exactly those in the
  record.

Nothing is assumed of the callers outside the fleet.
-/

import Leasehold.Proofs.Fleet.Flight

set_option linter.unusedSectionVars false

namespace Leasehold

variable {ι ε S P Call : Type} {Response : Call → Type} [DecidableEq S] [ProcessState S]

/-- Two places in one list: they are the same, or one is before the other. -/
theorem places_of_append_eq {α : Type} {past since past' since' : List α} {first second : α}
    (same : past ++ first :: since = past' ++ second :: since') :
    (past = past' ∧ first = second ∧ since = since') ∨
      (∃ between, past' = past ++ first :: between ∧ since = between ++ second :: since') ∨
      (∃ between, past = past' ++ second :: between ∧ since' = between ++ first :: since) := by
  rcases List.append_eq_append_iff.mp same with ⟨between, rfl, rest⟩ | ⟨between, rfl, rest⟩
  · cases between with
    | nil =>
      cases rest
      exact .inl ⟨(List.append_nil _).symm, rfl, rfl⟩
    | cons head between =>
      cases rest
      exact .inr (.inl ⟨between, rfl, rfl⟩)
  · cases between with
    | nil =>
      cases rest
      exact .inl ⟨List.append_nil _, rfl, rfl⟩
    | cons head between =>
      cases rest
      exact .inr (.inr ⟨between, rfl, rfl⟩)

/-- Whether an operation ends a claim on the entity with an id: it writes or releases it. -/
def Operation.ends (id : String) : Operation S P → Bool
  | .update result => decide (result.id = id)
  | .release target _ => decide (target = id)
  | _ => false

/-- An operation that ends a claim is one with which its attempt ends it. -/
theorem Member.Turn.claim_of_ends {member : Member ε S P Call Response} {memory : Memory S P}
    {claim claim' : Option (Entity S P)} {operation : Operation S P} {id : String}
    (turn : member.Turn memory claim (some operation) claim')
    (ends : operation.ends id = true) : ∃ leased, claim = some leased ∧ leased.id = id := by
  cases turn with
  | looks | misses | gains => cases ends
  | writes sameId sameVersion => exact ⟨_, rfl, sameId.symm.trans (of_decide_eq_true ends)⟩
  | yields => exact ⟨_, rfl, of_decide_eq_true ends⟩

/-- A lease that succeeds is one with which its attempt gains a claim. -/
theorem Member.Turn.claim_of_lease {member : Member ε S P Call Response} {memory : Memory S P}
    {claim claim' : Option (Entity S P)} {id holder : String} {duration : Duration} {now : Instant}
    {leased : Entity S P}
    (turn : member.Turn memory claim (some (.lease id holder duration now)) claim')
    (claimed : memory.answer (.lease id holder duration now) = .ok leased) :
    claim' = some leased := by
  generalize same : some (Operation.lease id holder duration now) = operation at turn
  cases turn with
  | rests | looks | writes | yields => cases same
  | misses denied =>
    obtain ⟨rfl, rfl, rfl, rfl⟩ := Operation.lease.inj (Option.some.inj same)
    rw [claimed] at denied
    cases denied
  | gains answered =>
    obtain ⟨rfl, rfl, rfl, rfl⟩ := Operation.lease.inj (Option.some.inj same)
    rw [claimed] at answered
    rw [Except.ok.inj answered]

namespace Fleet

/-- A record shows that a member leased an entity at an instant, and did not end the claim since. -/
structure OpenClaim (fleet : Fleet ι ε S P Call Response) (memory : Memory S P)
    (deeds : List (Deed ι S P)) (name : ι) (leased : Entity S P) (past : List (Deed ι S P))
    (now : Instant) (since : List (Deed ι S P)) : Prop where
  recorded : deeds = past ++ ⟨some name, .lease leased.id (fleet name).holder
    (fleet name).config.leaseDuration now⟩ :: since
  claimed : (memory.replay (operations past)).answer
    (.lease leased.id (fleet name).holder (fleet name).config.leaseDuration now) = .ok leased
  lasts : ∀ deed ∈ since, deed.actor = some name → deed.operation.ends leased.id = false

namespace OpenClaim

variable {fleet : Fleet ι ε S P Call Response} {memory : Memory S P}
  {deeds past since : List (Deed ι S P)} {name : ι} {leased : Entity S P} {now : Instant}

/-- A claim is as old as the record, up to what was done since. -/
theorem replay_eq (claim : fleet.OpenClaim memory deeds name leased past now since) :
    memory.replay (operations deeds) =
      ((memory.replay (operations past)).after (.lease leased.id (fleet name).holder
        (fleet name).config.leaseDuration now)).replay (operations since) := by
  rw [claim.recorded, operations, List.map_append, Memory.replay_append]
  rfl

/-- The entity of a claim is stored, and what is stored follows on the claim. -/
theorem stored (claim : fleet.OpenClaim memory deeds name leased past now since) :
    ∃ stored, (memory.replay (operations deeds)).find? leased.id = some stored ∧
      leased.Precedes stored := by
  rw [claim.replay_eq]
  exact Memory.find?_replay (Memory.find?_after_lease claim.claimed) _

/-- A claim lasts if the next deed does not end it. -/
theorem append (claim : fleet.OpenClaim memory deeds name leased past now since)
    {added : List (Deed ι S P)}
    (lasts : ∀ deed ∈ added, deed.actor = some name → deed.operation.ends leased.id = false) :
    fleet.OpenClaim memory (deeds ++ added) name leased past now (since ++ added) where
  recorded := by rw [claim.recorded, List.append_assoc, List.cons_append]
  claimed := claim.claimed
  lasts deed member := by
    rcases List.mem_append.mp member with earlier | later
    · exact claim.lasts deed earlier
    · exact lasts deed later

/-- A claim in a longer record was there before, or it is new. -/
theorem of_append {added : Option (Deed ι S P)}
    (claim : fleet.OpenClaim memory (deeds ++ added.toList) name leased past now since) :
    (∃ earlier, fleet.OpenClaim memory deeds name leased past now earlier ∧
        since = earlier ++ added.toList ∧
        ∀ deed ∈ added, deed.actor = some name → deed.operation.ends leased.id = false) ∨
      (past = deeds ∧ since = [] ∧ added = some ⟨some name, .lease leased.id (fleet name).holder
        (fleet name).config.leaseDuration now⟩) := by
  cases added with
  | none =>
    refine .inl ⟨since, ?_, (List.append_nil _).symm, fun _ nothing => by cases nothing⟩
    have same : deeds ++ (none : Option (Deed ι S P)).toList = deeds := List.append_nil _
    rw [same] at claim
    exact claim
  | some new =>
    have recorded : deeds ++ [new] = _ := claim.recorded
    rcases List.eq_nil_or_concat since with rfl | ⟨earlier, last, rfl⟩
    · obtain ⟨same, equal⟩ := List.append_inj' recorded rfl
      cases equal
      exact .inr ⟨same.symm, rfl, rfl⟩
    · rw [List.concat_eq_append, ← List.cons_append, ← List.append_assoc] at recorded
      obtain ⟨same, equal⟩ := List.append_inj' recorded rfl
      cases equal
      refine .inl ⟨earlier, ⟨same, claim.claimed, fun deed member => ?_⟩,
        List.concat_eq_append, fun deed isNew => ?_⟩
      · exact claim.lasts deed (by simp [member])
      · cases isNew
        exact claim.lasts _ (by simp)

/-- The later of two claims on an entity has the higher version. -/
theorem version_lt {other : ι} {second : Entity S P} {between since' : List (Deed ι S P)}
    {later : Instant} (claim : fleet.OpenClaim memory deeds name leased past now since)
    (claim' : fleet.OpenClaim memory deeds other second (past ++ ⟨some name, .lease leased.id
      (fleet name).holder (fleet name).config.leaseDuration now⟩ :: between) later since')
    (sameId : leased.id = second.id) : leased.version < second.version := by
  have again := claim'.claimed
  rw [operations, List.map_append, Memory.replay_append, ← sameId] at again
  exact Memory.version_lt_of_lease claim.claimed again

/-- **No two claims on an entity have the same version.** -/
theorem unique {other : ι} {second : Entity S P} {past' since' : List (Deed ι S P)}
    {later : Instant} (claim : fleet.OpenClaim memory deeds name leased past now since)
    (claim' : fleet.OpenClaim memory deeds other second past' later since')
    (sameId : leased.id = second.id) (sameVersion : leased.version = second.version) :
    name = other ∧ leased = second := by
  rcases places_of_append_eq (claim.recorded.symm.trans claim'.recorded) with
    ⟨rfl, same, rfl⟩ | ⟨between, rfl, rfl⟩ | ⟨between, rfl, rfl⟩
  · have actor : some name = some other := congrArg Deed.actor same
    obtain rfl := Option.some.inj actor
    have operation := congrArg Deed.operation same
    have claimed := claim.claimed
    have claimed' := claim'.claimed
    rw [Operation.lease.injEq] at operation
    rw [← sameId, ← operation.2.2.2, claimed] at claimed'
    exact ⟨rfl, Except.ok.inj claimed'⟩
  · have lower := claim.version_lt claim' sameId
    omega
  · have higher := claim'.version_lt claim sameId.symm
    omega

end OpenClaim

variable [DecidableEq ι] {fleet : Fleet ι ε S P Call Response} {memory : Memory S P}

/-! ### Claims in flight -/

/-- The claims in flight are those in the record. -/
structure State.Honest (fleet : Fleet ι ε S P Call Response) (memory : Memory S P)
    (state : State ι ε S P Call Response) : Prop where
  tidy : state.Tidy fleet
  replayed : state.site.memory = memory.replay (operations state.site.deeds)
  recorded : ∀ {name number leased}, state.claim? name number = some leased →
    ∃ past now since, fleet.OpenClaim memory state.site.deeds name leased past now since
  inFlight : ∀ {name leased past now since},
    fleet.OpenClaim memory state.site.deeds name leased past now since →
      ∃ number, state.claim? name number = some leased

namespace State.Honest

variable {state after : State ι ε S P Call Response} {action : Action ι ε S P}

/-- A member has one claim on an entity. -/
theorem distinct (honest : state.Honest fleet memory) {name : ι} {first second : Nat}
    {one other : Entity S P} (firstClaim : state.claim? name first = some one)
    (secondClaim : state.claim? name second = some other) (sameId : one.id = other.id) :
    first = second :=
  honest.tidy.distinct (State.subject?_of_claim? firstClaim) (State.subject?_of_claim? secondClaim)
    sameId

/-- What happens to a claim when others act. -/
theorem recorded_kept (honest : state.Honest fleet memory)
    (shift : fleet.Shift state action after) {name : ι} {number : Nat} {leased : Entity S P}
    (claimed : after.claim? name number = some leased) :
    ∃ past now since, fleet.OpenClaim memory after.site.deeds name leased past now since := by
  have before : state.claim? name number = some leased → ∀ added : List (Deed ι S P),
      after.site.deeds = state.site.deeds ++ added →
      (∀ deed ∈ added, deed.actor = some name → deed.operation.ends leased.id = false) →
      ∃ past now since, fleet.OpenClaim memory after.site.deeds name leased past now since := by
    intro earlier added deeds lasts
    obtain ⟨past, now, since, claim⟩ := honest.recorded earlier
    rw [deeds]
    exact ⟨past, now, _, claim.append lasts⟩
  cases shift with
  | rests same unchanged =>
    rw [same] at claimed
    exact before claimed [] unchanged.deeds fun _ nothing => by cases nothing
  | calls called same performed =>
    rw [same] at claimed
    refine before claimed _ performed.deeds fun deed new byName => ?_
    obtain rfl := List.mem_singleton.mp new
    cases byName
  | polls same performed =>
    rw [same] at claimed
    refine before claimed _ performed.deeds fun deed new _ => ?_
    obtain rfl := List.mem_singleton.mp new
    rfl
  | stops free same performed =>
    rw [same] at claimed
    refine before claimed _ performed.deeds fun deed new _ => ?_
    obtain rfl := List.mem_singleton.mp new
    rfl
  | @turns moved place operation transitions turn others performed =>
    by_cases here : name = moved ∧ number = place
    · obtain ⟨rfl, rfl⟩ := here
      rw [claimed] at turn
      generalize held : state.claim? name number = claim at turn
      cases turn with
      | rests => exact before held _ performed.deeds fun deed nothing => by cases nothing
      | looks id =>
        refine before held _ performed.deeds fun deed new _ => ?_
        obtain rfl := List.mem_singleton.mp new
        rfl
      | gains answered =>
        refine ⟨state.site.deeds, _, [], performed.deeds, ?_, fun deed nothing => by cases nothing⟩
        rw [← honest.replayed]
        exact answered
    · have earlier := claimed
      rw [others name number here] at earlier
      refine before earlier _ performed.deeds fun deed new byName => ?_
      obtain ⟨done, isDone, rfl⟩ := List.mem_map.mp new
      cases operation with
      | none => cases isDone
      | some made =>
        obtain rfl := List.mem_singleton.mp isDone
        obtain rfl : moved = name := Option.some.inj byName
        -- A member that ends another claim of its own is about another entity.
        refine Bool.eq_false_iff.mpr fun ends => ?_
        obtain ⟨other, held, sameId⟩ := turn.claim_of_ends ends
        exact here ⟨rfl, honest.distinct earlier held sameId.symm⟩

/-- What the record shows is still in flight. -/
theorem inFlight_kept (honest : state.Honest fleet memory)
    (shift : fleet.Shift state action after) {name : ι} {leased : Entity S P}
    {past since : List (Deed ι S P)} {now : Instant}
    (claim : fleet.OpenClaim memory after.site.deeds name leased past now since) :
    ∃ number, after.claim? name number = some leased := by
  have unchanged : (∀ other place, after.claim? other place = state.claim? other place) →
      ∀ added : Option (Deed ι S P), after.site.deeds = state.site.deeds ++ added.toList →
        (∀ id holder duration instant,
          added ≠ some ⟨some name, .lease id holder duration instant⟩) →
        ∃ number, after.claim? name number = some leased := by
    intro same added deeds noLease
    rw [deeds] at claim
    rcases claim.of_append with ⟨earlier, before, _, _⟩ | ⟨_, _, new⟩
    · obtain ⟨number, held⟩ := honest.inFlight before
      exact ⟨number, (same name number).trans held⟩
    · exact absurd new (noLease _ _ _ _)
  cases shift with
  | rests same extended => exact unchanged same none extended.deeds fun _ _ _ _ => nofun
  | calls called same performed =>
    exact unchanged same (some _) performed.deeds fun _ _ _ _ => nofun
  | polls same performed => exact unchanged same (some _) performed.deeds fun _ _ _ _ => nofun
  | stops free same performed => exact unchanged same (some _) performed.deeds fun _ _ _ _ => nofun
  | @turns moved place operation transitions turn others performed =>
    have deeds : after.site.deeds = state.site.deeds ++
        (operation.map fun operation => (⟨some moved, operation⟩ : Deed ι S P)).toList := by
      rw [performed.deeds]
      cases operation <;> rfl
    rw [deeds] at claim
    rcases claim.of_append with ⟨earlier, before, _, lasts⟩ | ⟨rfl, _, new⟩
    · obtain ⟨number, held⟩ := honest.inFlight before
      by_cases here : name = moved ∧ number = place
      · obtain ⟨rfl, rfl⟩ := here
        generalize later : after.claim? name number = claim' at turn
        rw [held] at turn
        cases turn with
        | rests => exact ⟨number, later⟩
        | looks id => exact ⟨number, later⟩
        | writes sameId sameVersion =>
          have ends : decide (_ = leased.id) = false := lasts _ rfl rfl
          exact absurd sameId (of_decide_eq_false ends)
        | yields =>
          have ends : decide (leased.id = leased.id) = false := lasts _ rfl rfl
          exact absurd rfl (of_decide_eq_false ends)
      · exact ⟨number, (others name number here).trans held⟩
    · obtain ⟨made, rfl, same⟩ := Option.map_eq_some_iff.mp new
      obtain ⟨sameName, rfl⟩ := Deed.mk.inj same
      obtain rfl : moved = name := Option.some.inj sameName
      have claimed := claim.claimed
      rw [← honest.replayed] at claimed
      exact ⟨place, turn.claim_of_lease claimed⟩

/-- An action keeps the claims and the record in agreement. -/
theorem kept (honest : state.Honest fleet memory) (change : fleet.Change state action after) :
    after.Honest fleet memory where
  tidy := honest.tidy.kept change
  replayed := by
    obtain ⟨deed, transitions, extended⟩ := change.extended
    rw [extended.memory, extended.deeds, honest.replayed, ← Memory.replay_append,
      ← List.map_append]
  recorded := honest.recorded_kept (change.shift honest.tidy)
  inFlight := honest.inFlight_kept (change.shift honest.tidy)

end State.Honest

/-- **After every schedule the claims in flight are those in the record.** -/
theorem honest_run (fleet : Fleet ι ε S P Call Response) (memory : Memory S P) (surroundings : ε)
    (actions : List (Action ι ε S P)) :
    (fleet.run (.start memory surroundings) actions).Honest fleet memory := by
  refine fleet.run_keeps (fun state => state.Honest fleet memory) (fun _ => True) ?_
    (fun _ honest change => honest.kept change) fun _ _ => trivial
  refine ⟨fleet.tidy_run memory surroundings [], rfl, fun claimed => ?_, fun claim => ?_⟩
  · cases claimed
  · have nothing := claim.recorded
    exact absurd nothing.symm (List.append_ne_nil_of_right_ne_nil _ (List.cons_ne_nil _ _))

end Fleet

end Leasehold
