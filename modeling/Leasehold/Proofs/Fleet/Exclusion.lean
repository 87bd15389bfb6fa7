/-
**A claim excludes the other handlers.**

Here the callers outside the fleet only make the calls of the trigger service, handlers leave the
store alone, and no two engines share a holder name.

* `Operation.isTrigger`: the calls of the trigger service;
* `Operation.overtakes`: a call on an entity, made as if a lease were over;
* `State.Holds`, `holds_run`: an entity stays as it was leased, up to a request to cancel, while its
  claim is open and nobody overtakes it;
* `leases_exclude`: what that means for leases and cancellations, and for two handlers that
  work on one entity.

A claim is overtaken by the instant of a call, not by a clock: whoever read the clock early may make
the call late.
-/

import Leasehold.Proofs.Fleet.Claim
import Leasehold.Proofs.Fleet.Publishers

set_option linter.unusedSectionVars false

namespace Leasehold

variable {ι ε S P Call : Type} {Response : Call → Type} [DecidableEq S] [ProcessState S]

namespace Attempt

/-- The entity that the handler of an attempt works on, as it was leased. -/
def handled? : Attempt S P Call Response → Option (Entity S P)
  | .working leased _ | .waiting _ leased _ => some leased
  | _ => none

theorem leased?_of_handled? {attempt : Attempt S P Call Response} {leased : Entity S P}
    (working : attempt.handled? = some leased) : attempt.leased? = some leased := by
  cases attempt with
  | working _ _ | waiting _ _ _ => exact working
  | selected _ | confirming _ _ _ _ | persisting _ _ _ | releasing _ | ended _ => cases working

end Attempt

namespace Operation

/-- Whether an operation is one of those that the trigger service makes. -/
def isTrigger : Operation S P → Bool
  | .create _ | .find _ | .query _ | .cancelIfFree _ _ _ _ | .requestCancel _ _ => true
  | .update _ | .lease _ _ _ _ | .renew _ _ _ _ | .release _ _ | .releaseAll _ => false

/-- Whether an operation needs the entity with an id to be free, at an instant not before an
expiry. -/
def overtakes (id : String) (expiry : Instant) : Operation S P → Bool
  | .lease target _ _ now | .cancelIfFree target _ _ now => decide (target = id ∧ expiry ≤ now)
  | _ => false

theorem expiry_le_of_isFreeAt {stored : Entity S P} {lease : Lease} {now : Instant}
    (held : stored.lease = some lease) (free : stored.isFreeAt now = true) :
    lease.expiry ≤ now := by
  unfold Entity.isFreeAt Lease.isLiveAt at free
  rw [held] at free
  have notLive : ¬now < lease.expiry := by simpa using free
  exact Int.not_lt.mp notLive

theorem isFreeAt_of_lt {stored : Entity S P} {lease : Lease} {now : Instant}
    (held : stored.lease = some lease) (before : now < lease.expiry) :
    stored.isFreeAt now = false := by
  refine Bool.eq_false_iff.mpr fun free => ?_
  exact absurd before (Int.not_lt.mpr (expiry_le_of_isFreeAt held free))

end Operation

namespace Fleet

/-- A caller outside the fleet makes the calls of the trigger service only. -/
def Action.IsServed : Action ι ε S P → Prop
  | .call operation => operation.isTrigger = true
  | _ => True

variable [DecidableEq ι] {fleet : Fleet ι ε S P Call Response} {memory : Memory S P}
  {state after : State ι ε S P Call Response} {action : Action ι ε S P}

/-! ### One action -/

/-- The lease of a claim. -/
theorem OpenClaim.lease {deeds past since : List (Deed ι S P)} {name : ι} {leased : Entity S P}
    {now : Instant} (claim : fleet.OpenClaim memory deeds name leased past now since) :
    leased.lease = some ⟨(fleet name).holder, now.plus (fleet name).config.leaseDuration⟩ := by
  obtain ⟨before, _, _, leases⟩ := Memory.answer_lease_eq_ok_iff.mp claim.claimed
  rw [leases]
  rfl

/-- **Only a call that overtakes a claim has an effect on its entity.** -/
theorem overtakes_of_takesEffect (alone : Function.Injective fun name => (fleet name).holder)
    (served : action.IsServed) (honest : state.Honest fleet memory)
    (shift : fleet.Shift state action after) {name : ι} {leased stored : Entity S P}
    {past since : List (Deed ι S P)} {now : Instant}
    (claim : fleet.OpenClaim memory state.site.deeds name leased past now since)
    (same : leased.SameButRequest stored) {deed : Deed ι S P} {transitions : List Transition}
    (extended : state.site.Extends after.site [deed] transitions)
    (lasts : deed.actor = some name → deed.operation.ends leased.id = false)
    (effective : deed.operation.takesEffect stored = true) :
    deed.operation.overtakes leased.id (now.plus (fleet name).config.leaseDuration) = true := by
  have held : stored.lease = some ⟨(fleet name).holder,
      now.plus (fleet name).config.leaseDuration⟩ := by
    rw [same.eq]
    exact claim.lease
  have sameDeed : ∀ {made : Deed ι S P} {moved : List Transition},
      state.site.Extends after.site [made] moved → deed = made := by
    intro made moved performed
    have deeds := extended.deeds.symm.trans performed.deeds
    exact List.singleton_inj.mp (List.append_cancel_left deeds)
  have free : ∀ {id : String} {instant : Instant},
      (decide (stored.id = id) && stored.isFreeAt instant) = true →
        id = leased.id ∧ now.plus (fleet name).config.leaseDuration ≤ instant := by
    intro id instant both
    rw [Bool.and_eq_true, decide_eq_true_eq, same.id] at both
    exact ⟨both.1.symm, Operation.expiry_le_of_isFreeAt held both.2⟩
  have own : ∀ {other : ι}, stored.isLeasedBy (fleet other).holder = true → other = name := by
    intro other byOther
    unfold Entity.isLeasedBy at byOther
    rw [held] at byOther
    exact alone (of_decide_eq_true byOther).symm
  cases shift with
  | rests idle unchanged =>
    have deeds := extended.deeds.symm.trans unchanged.deeds
    exact absurd (List.append_cancel_left deeds) (List.cons_ne_nil _ _)
  | @calls operation called idle performed =>
    obtain rfl := sameDeed performed
    subst called
    cases operation with
    | find _ | create _ | query _ | requestCancel _ _ => cases effective
    | update _ | lease _ _ _ _ | renew _ _ _ _ | release _ _ | releaseAll _ => cases served
    | cancelIfFree id cancelled terminal instant =>
      have meets : (decide (stored.id = id) &&
          (!terminal.contains stored.state && stored.isFreeAt instant)) = true := effective
      rw [Bool.and_left_comm, Bool.and_eq_true] at meets
      exact decide_eq_true (free meets.2)
  | polls idle performed =>
    obtain rfl := sameDeed performed
    cases effective
  | stops noClaim idle performed =>
    obtain rfl := sameDeed performed
    obtain rfl := own effective
    obtain ⟨number, flying⟩ := honest.inFlight claim
    rw [noClaim number] at flying
    cases flying
  | @turns moved place operation _ turn others performed =>
    cases operation with
    | none =>
      have deeds := extended.deeds.symm.trans performed.deeds
      exact absurd (List.append_cancel_left deeds) (List.cons_ne_nil _ _)
    | some operation =>
      obtain rfl := sameDeed performed
      generalize after.claim? moved place = claim' at turn
      generalize flying : state.claim? moved place = current at turn
      cases turn with
      | looks id => cases effective
      | misses denied => exact decide_eq_true (free effective)
      | gains answered => exact decide_eq_true (free effective)
      | writes sameId sameVersion =>
        -- A write with the version of the claim is the write of the claim, which ends it.
        obtain ⟨_, _, _, other⟩ := honest.recorded flying
        obtain ⟨storedId, storedVersion⟩ := of_decide_eq_true effective
        obtain ⟨rfl, rfl⟩ := claim.unique other
          (same.id.symm.trans (storedId.trans sameId))
          (same.version.symm.trans (storedVersion.trans sameVersion))
        exact absurd sameId (of_decide_eq_false (lasts rfl))
      | yields =>
        obtain ⟨storedId, byMoved⟩ := Bool.and_eq_true_iff.mp effective
        obtain rfl := own byMoved
        have sameId := (of_decide_eq_true storedId).symm.trans same.id
        exact absurd sameId (of_decide_eq_false (lasts rfl))

/-! ### Schedules -/

/-- Every entity with an open claim that was not overtaken is as it was leased, up to a request to
cancel. -/
def State.Holds (fleet : Fleet ι ε S P Call Response) (memory : Memory S P)
    (state : State ι ε S P Call Response) : Prop :=
  ∀ name leased past now since,
    fleet.OpenClaim memory state.site.deeds name leased past now since →
      (∃ deed ∈ since, deed.operation.overtakes leased.id
        (now.plus (fleet name).config.leaseDuration) = true) ∨
      ∃ stored, state.site.memory.find? leased.id = some stored ∧ leased.SameButRequest stored

/-- An action keeps what is claimed. -/
theorem State.Holds.kept (holds : state.Holds fleet memory)
    (alone : Function.Injective fun name => (fleet name).holder) (served : action.IsServed)
    (honest : state.Honest fleet memory) (change : fleet.Change state action after) :
    after.Holds fleet memory := by
  intro name leased past now since claim
  obtain ⟨added, transitions, extended⟩ := change.extended
  rw [extended.deeds] at claim
  rcases claim.of_append with ⟨earlier, before, rfl, lasts⟩ | ⟨rfl, rfl, rfl⟩
  · rcases holds name leased past now earlier before with
      ⟨deed, member, overtakes⟩ | ⟨stored, found, same⟩
    · exact .inl ⟨deed, List.mem_append_left _ member, overtakes⟩
    · cases added with
      | none =>
        refine .inr ⟨stored, ?_, same⟩
        rw [extended.memory]
        exact found
      | some deed =>
        cases effective : deed.operation.takesEffect stored with
        | true =>
          refine .inl ⟨deed, by simp, ?_⟩
          exact overtakes_of_takesEffect alone served honest (change.shift honest.tidy) before same
            extended (lasts deed rfl) effective
        | false =>
          refine .inr ⟨_, ?_, same.trans (Operation.sameButRequest_revise effective)⟩
          rw [extended.memory]
          exact Memory.find?_after_of_found found deed.operation
  · refine .inr ⟨leased, ?_, .refl leased⟩
    rw [extended.memory, honest.replayed]
    exact Memory.find?_after_lease claim.claimed

/-- **Every schedule keeps what is claimed**, as long as nobody overtakes the claim. -/
theorem holds_run (alone : Function.Injective fun name => (fleet name).holder)
    (memory : Memory S P) (surroundings : ε) {actions : List (Action ι ε S P)}
    (served : ∀ action ∈ actions, action.IsServed) :
    (fleet.run (.start memory surroundings) actions).Holds fleet memory := by
  have initially : (State.start memory surroundings).Holds fleet memory := by
    intro name leased past now since claim
    have nothing := claim.recorded
    exact absurd nothing.symm (List.append_ne_nil_of_right_ne_nil _ (List.cons_ne_nil _ _))
  exact (fleet.run_keeps (fun state => state.Honest fleet memory ∧ state.Holds fleet memory)
    Action.IsServed ⟨fleet.honest_run memory surroundings [], initially⟩
    (fun served kept change => ⟨kept.1.kept change, kept.2.kept alone served kept.1 change⟩)
    served).2

/-! ### Two claims on one entity -/

/-- The entity that the handler of a member works on in the attempt with a number, as it was
leased. -/
def State.handled? (state : State ι ε S P Call Response) (name : ι) (number : Nat) :
    Option (Entity S P) :=
  (state.attempt? name number).bind Attempt.handled?

theorem State.claim?_of_handled? {name : ι} {number : Nat} {leased : Entity S P}
    (working : state.handled? name number = some leased) :
    state.claim? name number = some leased := by
  obtain ⟨attempt, there, handled⟩ := Option.bind_eq_some_iff.mp working
  exact Option.bind_eq_some_iff.mpr ⟨attempt, there, Attempt.leased?_of_handled? handled⟩

/-- A record shows that two members leased an entity, one after the other, and that the first lease
was over at the instant of the second lease, or at that of a call in between. -/
def LeasedInTurn (fleet : Fleet ι ε S P Call Response) (memory : Memory S P)
    (deeds : List (Deed ι S P)) (first : ι) (one : Entity S P) (second : ι)
    (other : Entity S P) : Prop :=
  ∃ past now between later since,
    fleet.OpenClaim memory deeds first one past now (between ++ ⟨some second, .lease other.id
      (fleet second).holder (fleet second).config.leaseDuration later⟩ :: since) ∧
    fleet.OpenClaim memory deeds second other (past ++ ⟨some first, .lease one.id
      (fleet first).holder (fleet first).config.leaseDuration now⟩ :: between) later since ∧
    (now.plus (fleet first).config.leaseDuration ≤ later ∨
      ∃ deed ∈ between, deed.operation.overtakes one.id
        (now.plus (fleet first).config.leaseDuration) = true)

/-- The later of two claims on an entity came when the earlier one was over. -/
theorem leasedInTurn_of_before (alone : Function.Injective fun name => (fleet name).holder)
    {surroundings : ε} {actions : List (Action ι ε S P)}
    (served : ∀ action ∈ actions, action.IsServed) {deeds : List (Deed ι S P)}
    (ran : deeds = (fleet.run (.start memory surroundings) actions).site.deeds)
    {first second : ι} {one other : Entity S P} {past between since : List (Deed ι S P)}
    {now later : Instant} (sameId : one.id = other.id)
    (claim : fleet.OpenClaim memory deeds first one past now (between ++ ⟨some second, .lease
      other.id (fleet second).holder (fleet second).config.leaseDuration later⟩ :: since))
    (claim' : fleet.OpenClaim memory deeds second other (past ++ ⟨some first, .lease one.id
      (fleet first).holder (fleet first).config.leaseDuration now⟩ :: between) later since) :
    fleet.LeasedInTurn memory deeds first one second other := by
  refine ⟨past, now, between, later, since, claim, claim', ?_⟩
  -- The store that the second lease met is that of a shorter schedule.
  obtain ⟨earlier, action, rest, _, rfl, recorded, _⟩ :=
    fleet.exists_step_of_deed memory surroundings actions (ran.symm.trans claim'.recorded)
  have stillOpen : fleet.OpenClaim memory
      (fleet.run (.start memory surroundings) earlier).site.deeds first one past now between :=
    ⟨recorded, claim.claimed, fun deed member => claim.lasts deed (List.mem_append_left _ member)⟩
  have served := fun action member => served action (List.mem_append_left _ member)
  rcases holds_run alone memory surroundings served _ _ _ _ _ stillOpen with
    overtaken | ⟨stored, found, same⟩
  · exact .inr overtaken
  · rw [fleet.memory_run, recorded] at found
    obtain ⟨met, there, free, _⟩ := Memory.answer_lease_eq_ok_iff.mp claim'.claimed
    rw [← sameId] at there
    obtain rfl : met = stored := Option.some.inj (there.symm.trans found)
    have held := claim.lease
    rw [same.symm.eq] at held
    exact .inl (Operation.expiry_le_of_isFreeAt held free)

/-- Two attempts have claims on one entity together only if they leased it in turn. -/
theorem leasedInTurn_of_claims (alone : Function.Injective fun name => (fleet name).holder)
    {surroundings : ε} {actions : List (Action ι ε S P)}
    (served : ∀ action ∈ actions, action.IsServed)
    (ran : state = fleet.run (.start memory surroundings) actions) {first second : ι}
    {place seat : Nat} {one other : Entity S P} (oneClaim : state.claim? first place = some one)
    (otherClaim : state.claim? second seat = some other) (sameId : one.id = other.id)
    (apart : ¬(first = second ∧ place = seat)) :
    fleet.LeasedInTurn memory state.site.deeds first one second other ∨
      fleet.LeasedInTurn memory state.site.deeds second other first one := by
  subst ran
  have honest := fleet.honest_run memory surroundings actions
  obtain ⟨past, now, since, claim⟩ := honest.recorded oneClaim
  obtain ⟨past', later, since', claim'⟩ := honest.recorded otherClaim
  rcases places_of_append_eq (claim.recorded.symm.trans claim'.recorded) with
    ⟨rfl, sameDeed, rfl⟩ | ⟨between, rfl, rfl⟩ | ⟨between, rfl, rfl⟩
  · obtain ⟨sameActor, sameOperation⟩ := Deed.mk.inj sameDeed
    obtain rfl := Option.some.inj sameActor
    exact absurd ⟨rfl, honest.distinct oneClaim otherClaim sameId⟩ apart
  · exact .inl (leasedInTurn_of_before alone served rfl sameId claim claim')
  · exact .inr (leasedInTurn_of_before alone served rfl sameId.symm claim' claim)

/-- **A claim excludes the others.** As long as no call overtakes it, the lease stays, no lease and
no cancellation of the entity succeeds before it is over, and none changes the store. Two handlers
work on one entity together only if the earlier lease was over at the instant of the later one, or
of a call in between. -/
theorem leases_exclude (fleet : Fleet ι ε S P Call Response)
    (alone : Function.Injective fun name => (fleet name).holder) (memory : Memory S P)
    (surroundings : ε) (actions : List (Action ι ε S P))
    (served : ∀ action ∈ actions, action.IsServed) :
    let state := fleet.run (.start memory surroundings) actions
    (∀ name leased past now since,
      fleet.OpenClaim memory state.site.deeds name leased past now since →
        let expiry := now.plus (fleet name).config.leaseDuration
        (∀ deed ∈ since, deed.operation.overtakes leased.id expiry = false) →
          (∃ stored, state.site.memory.find? leased.id = some stored ∧
            stored.lease = some ⟨(fleet name).holder, expiry⟩) ∧
          (∀ holder duration instant, instant < expiry →
            Memory.run (.lease leased.id holder duration instant) state.site.memory =
              (.error (.leased leased.id), state.site.memory)) ∧
          (∀ cancelled terminal instant, instant < expiry →
            Memory.run (.cancelIfFree leased.id cancelled terminal instant) state.site.memory =
              (.ok false, state.site.memory))) ∧
    (∀ first place one second seat other,
      state.handled? first place = some one → state.handled? second seat = some other →
        one.id = other.id → ¬(first = second ∧ place = seat) →
          fleet.LeasedInTurn memory state.site.deeds first one second other ∨
            fleet.LeasedInTurn memory state.site.deeds second other first one) := by
  intro state
  constructor
  · intro name leased past now since claim expiry notOvertaken
    rcases holds_run alone memory surroundings served _ _ _ _ _ claim with
      ⟨deed, member, overtakes⟩ | ⟨stored, found, same⟩
    · rw [notOvertaken deed member] at overtakes
      cases overtakes
    · have held : stored.lease = some ⟨(fleet name).holder, expiry⟩ := by
        rw [same.eq]
        exact claim.lease
      refine ⟨⟨stored, found, held⟩, fun holder duration instant before => ?_,
        fun cancelled terminal instant before => ?_⟩
      · exact Memory.run_lease_of_not_free found (Operation.isFreeAt_of_lt held before) _ _
      · exact Memory.run_cancelIfFree_of_not_free found (Operation.isFreeAt_of_lt held before) _ _
  · intro first place one second seat other oneWorks otherWorks sameId apart
    exact leasedInTurn_of_claims alone served rfl (State.claim?_of_handled? oneWorks)
      (State.claim?_of_handled? otherWorks) sameId apart

/-! ### A late call -/

section LateCall

open Credential StatusList

/-- Publisher `a` leases a list. Its lease ends, publisher `c` takes the list and lets it go, and
then publisher `b` leases it at an instant that lies before the end of the first lease. -/
def lateSchedule : List (Action String Instant StatusList.State Publication) :=
  [.call (.create unsigned), .poll "a", .poll "c", .proceed "a" 0, .pass (atMillis 1150),
    .proceed "c" 0, .proceed "c" 0, .pass (atMillis 1090), .poll "b", .proceed "b" 0]

/-- The list as publisher `a` leased it. -/
def lateFirst : Entity StatusList.State Publication :=
  { unsigned with version := 1, lease := some ⟨"a", atMillis 1100⟩ }

/-- The list as publisher `b` leased it. -/
def lateSecond : Entity StatusList.State Publication :=
  { unsigned with version := 4, lease := some ⟨"b", atMillis 1190⟩ }

/-- The fleet when publishers `a` and `c` have selected the list. -/
def lateStart :
    State String Instant StatusList.State Publication Credential.Call Credential.Response :=
  (selectedBy (fun _ => (1000, .transient "busy")) "a").polled slowPublishers "c" unsigned

/-- The fleet when publisher `b` has selected the list. -/
def lateMiddle :
    State String Instant StatusList.State Publication Credential.Call Credential.Response :=
  (slowPublishers.run lateStart [.proceed "a" 0, .pass (atMillis 1150), .proceed "c" 0,
    .proceed "c" 0, .pass (atMillis 1090)]).polled slowPublishers "b"
      { unsigned with version := 3 }

/-- What the polls of the schedule select. -/
theorem late_run : slowPublishers.run (.start .empty (atMillis 1000)) lateSchedule =
    slowPublishers.run lateMiddle [.proceed "b" 0] := by
  unfold lateSchedule
  rw [run_selectedBy]
  show slowPublishers.run (slowPublishers.step (selectedBy _ "a") (.poll "c")) _ = _
  rw [slowPublishers.step_poll_of_single _ "c" unsigned rfl rfl ⟨_, rfl⟩ (by decide) (by decide)]
  show slowPublishers.run (slowPublishers.step (slowPublishers.run lateStart [.proceed "a" 0,
    .pass (atMillis 1150), .proceed "c" 0, .proceed "c" 0, .pass (atMillis 1090)]) (.poll "b"))
      [.proceed "b" 0] = _
  rw [slowPublishers.step_poll_of_single _ "b" { unsigned with version := 3 } rfl rfl ⟨_, rfl⟩
    (by decide) (by decide)]
  rfl

theorem lateSchedule_served : ∀ action ∈ lateSchedule, action.IsServed := by
  simp [lateSchedule, Action.IsServed, Operation.isTrigger]

theorem late_handled :
    let state := slowPublishers.run (.start .empty (atMillis 1000)) lateSchedule
    state.handled? "a" 0 = some lateFirst ∧ state.handled? "b" 0 = some lateSecond := by
  intro state
  have reached : state = slowPublishers.run lateMiddle [.proceed "b" 0] := late_run
  rw [reached]
  exact ⟨rfl, rfl⟩

theorem late_claims :
    let state := slowPublishers.run (.start .empty (atMillis 1000)) lateSchedule
    ∃ past between,
      slowPublishers.OpenClaim .empty state.site.deeds "a" lateFirst past (atMillis 1000)
        (between ++ [⟨some "b", .lease "list" "b" (slowPublishers "b").config.leaseDuration
          (atMillis 1090)⟩]) ∧
      slowPublishers.OpenClaim .empty state.site.deeds "b" lateSecond
        (past ++ ⟨some "a", .lease "list" "a" (slowPublishers "a").config.leaseDuration
          (atMillis 1000)⟩ :: between) (atMillis 1090) [] := by
  intro state
  have reached : state = slowPublishers.run lateMiddle [.proceed "b" 0] := late_run
  rw [reached]
  refine ⟨(slowPublishers.run lateMiddle [.proceed "b" 0]).site.deeds.take 3,
    ((slowPublishers.run lateMiddle [.proceed "b" 0]).site.deeds.drop 4).take 3,
    ⟨rfl, rfl, fun deed member byFirst => ?_⟩, ⟨rfl, rfl, fun deed nothing => by cases nothing⟩⟩
  have others : ((slowPublishers.run lateMiddle [.proceed "b" 0]).site.deeds.drop 4).all
      (fun deed => decide (deed.actor ≠ some "a")) = true := rfl
  exact absurd byFirst (of_decide_eq_true (List.all_eq_true.mp others deed member))

/-- **A late call lets two handlers overlap.** Publishers `a` and `b` work on one list, and the
lease of `a`, which came first, was not over at the instant of the lease of `b`. -/
theorem late_call_overlaps :
    let state := slowPublishers.run (.start .empty (atMillis 1000)) lateSchedule
    (∀ action ∈ lateSchedule, action.IsServed) ∧
      state.handled? "a" 0 = some lateFirst ∧ state.handled? "b" 0 = some lateSecond ∧
      lateFirst.id = lateSecond.id ∧
      ∃ past between,
        slowPublishers.OpenClaim .empty state.site.deeds "a" lateFirst past (atMillis 1000)
          (between ++ [⟨some "b", .lease "list" "b" (slowPublishers "b").config.leaseDuration
            (atMillis 1090)⟩]) ∧
        slowPublishers.OpenClaim .empty state.site.deeds "b" lateSecond
          (past ++ ⟨some "a", .lease "list" "a" (slowPublishers "a").config.leaseDuration
            (atMillis 1000)⟩ :: between) (atMillis 1090) [] ∧
        ¬(atMillis 1000).plus (slowPublishers "a").config.leaseDuration ≤ atMillis 1090 := by
  obtain ⟨past, between, first, second⟩ := late_claims
  exact ⟨lateSchedule_served, late_handled.1, late_handled.2, rfl, past, between, first, second,
    by decide⟩

/-- After the schedule nobody can take the list before the lease of publisher `b` is over, and the
two handlers that work on it leased it in turn. -/
theorem leases_exclude_late :
    let state := slowPublishers.run (.start .empty (atMillis 1000)) lateSchedule
    (∃ stored, state.site.memory.find? "list" = some stored ∧
        stored.lease = some ⟨"b", atMillis 1190⟩) ∧
      Memory.run (.lease "list" "c" .zero (atMillis 1189)) state.site.memory =
        (.error (.leased "list"), state.site.memory) ∧
      (slowPublishers.LeasedInTurn .empty state.site.deeds "a" lateFirst "b" lateSecond ∨
        slowPublishers.LeasedInTurn .empty state.site.deeds "b" lateSecond "a" lateFirst) := by
  obtain ⟨kept, inTurn⟩ := leases_exclude slowPublishers (publishers_alone _) .empty
    (atMillis 1000) lateSchedule lateSchedule_served
  obtain ⟨_, _, _, claim⟩ := late_claims
  obtain ⟨held, refused, _⟩ := kept _ _ _ _ _ claim fun deed nothing => by cases nothing
  exact ⟨held, refused "c" .zero (atMillis 1189) (by decide),
    inTurn "a" 0 lateFirst "b" 0 lateSecond late_handled.1 late_handled.2 rfl (by decide)⟩

end LateCall

end Fleet

end Leasehold
