/-
**An attempt is atomic, and is made again if it was cut off.**

A member may stop for good at any step of an attempt on an entity that nobody else writes. The
entity is then stored with all that the attempt settled, or as it was selected, up to the lease. In
the second case any member with the same registry and the same retry policy may select it as soon
as the lease is over, and hands the same entity to its handler.

* `Entity.isFreeAt_of_lapsed`, `matches_again`: what was selected once is due again when its lease is
  over;
* `Member.GoesOn`: a later attempt hands on the entity of an earlier one, or cancels it;
* `Fleet.TakesUp`: what a poll of another member does for an entity that was left behind;
* `takesUp_of_same`: a poll does so for an entity that only was leased;
* `attempt_is_atomic`: so does every poll after an attempt that was cut off.
-/

import Leasehold.Proofs.Poll.Passage

set_option linter.unusedSectionVars false

namespace Leasehold

variable {ι ε S P Call : Type} {Response : Call → Type} [DecidableEq S] [ProcessState S]

/-! ### Due again -/

/-- From the end of its lease on, an entity is free. -/
theorem Entity.isFreeAt_of_lapsed {entity : Entity S P} {now later : Instant}
    (lapsed : ∀ lease, entity.lease = some lease → lease.expiry ≤ now) (order : now ≤ later) :
    entity.isFreeAt later = true := by
  unfold Entity.isFreeAt
  cases leased : entity.lease with
  | none => rfl
  | some lease =>
    have expired : ¬later < lease.expiry := Int.not_lt.mpr (Int.le_trans (lapsed lease leased) order)
    show (!decide (later < lease.expiry)) = true
    rw [decide_eq_false expired]
    rfl

namespace Member

variable {member : Member ε S P Call Response} {entity stored leased : Entity S P}
  {attempt : Attempt S P Call Response} {shown : Instant → Prop} {given : List (Entity S P)}
  {replies : List (Reply S P)} {polledAt now : Instant}

/-- **What was selected once is due again** when its lease is over, for any member with the same
registry and the same retry policy. -/
theorem matches_again {rival : Member ε S P Call Response} {name other : ι}
    (sameRegistry : rival.registry = member.registry)
    (samePolicy : rival.config.retry = member.config.retry)
    (selected : ((member.engine name).criteria polledAt).matchesEntity entity = true)
    (same : entity.SameButLease stored) (order : polledAt ≤ now)
    (lapsed : ∀ lease, stored.lease = some lease → lease.expiry ≤ now) :
    ((rival.engine other).criteria now).matchesEntity stored = true := by
  obtain ⟨handled, _, admitted⟩ := matchesEntity_criteria_iff.mp selected
  have free := Entity.isFreeAt_of_lapsed lapsed (Int.le_refl now.nanos)
  refine matchesEntity_criteria_iff.mpr ⟨?_, ?_, ?_⟩
  · show stored.state ∈ rival.registry.handledStates
    rw [sameRegistry, same.state]
    exact handled
  · rw [stored.isFreeAt_eq_not_isLeasedAt, Bool.not_eq_true'] at free
    exact free
  · show (rival.config.retry.dueFilter now).admits stored.stateCount stored.stateTimestamp = true
    rw [samePolicy, same.eq]
    exact RetryPolicy.admits_mono _ order admitted

/-! ### The attempt that is made again -/

/-- A lease changes nothing else. -/
theorem sameButLease_claimed (member : Member ε S P Call Response) (leasedAt : Instant)
    (entity : Entity S P) : entity.SameButLease (member.claimed leasedAt entity) := rfl

/-- How an attempt goes on with an entity: its handler was given the entity, up to the lease, or the
entity is being cancelled as asked for, or was cancelled. -/
inductive GoesOn (member : Member ε S P Call Response) (entity : Entity S P) :
    Attempt S P Call Response → Entity S P → List (Entity S P) → Prop where
  | handed {attempt : Attempt S P Call Response} {last leased : Entity S P}
      (notAsked : entity.cancelRequested = false) (same : entity.SameButLease leased) :
      GoesOn member entity attempt last [leased]
  | cancels {leased : Entity S P} {judgedAt : Instant} (asked : entity.cancelRequested = true)
      (same : entity.SameButLease leased) :
      GoesOn member entity
        (.persisting leased (leased.resolve (member.cancellation entity) judgedAt) .cancelled)
        leased []
  | cancelled {stored : Entity S P} {judgedAt : Instant} (asked : entity.cancelRequested = true)
      (same : entity.SameButLease stored) :
      GoesOn member entity (.ended (.persisted .cancelled))
        (stored.settle (member.cancellation entity) judgedAt) []

/-- An entity that nobody asked to cancel is handed on. -/
theorem GoesOn.given_eq {last : Entity S P} (goes : member.GoesOn entity attempt last given)
    (notAsked : entity.cancelRequested = false) :
    ∃ leased, given = [leased] ∧ entity.SameButLease leased := by
  cases goes with
  | handed _ same => exact ⟨_, rfl, same⟩
  | cancels asked _ | cancelled asked _ => exact absurd asked (Bool.eq_false_iff.mp notAsked)

/-- An attempt on what was left of an entity goes on with the entity, once it has begun. -/
theorem Passage.goesOn {last : Entity S P}
    (passage : member.Passage shown stored attempt last given replies)
    (same : entity.SameButLease stored) (begun : attempt ≠ .selected stored)
    (free : ∀ later, shown later → stored.isFreeAt later = true) :
    member.GoesOn entity attempt last given := by
  have asLeased : ∀ leasedAt, entity.SameButLease (member.claimed leasedAt stored) :=
    fun leasedAt => same.trans (member.sameButLease_claimed leasedAt stored)
  have unasked : stored.cancelRequested = false → entity.cancelRequested = false := by
    rw [same.eq]
    exact fun notAsked => notAsked
  have marked : stored.cancelRequested = true → entity.cancelRequested = true := by
    rw [same.eq]
    exact fun asked => asked
  have sameSettled : member.cancellation stored = member.cancellation entity := by
    rw [same.eq]
  cases passage with
  | selected _ => exact absurd rfl begun
  | refused read held =>
    rw [free _ read] at held
    cases held
  | working leasedAt notAsked _ | waiting leasedAt notAsked _ _ | confirming leasedAt notAsked _ _ =>
    exact .handed (unasked notAsked) (asLeased leasedAt)
  | persisting read decides =>
    cases decides with
    | asked asked =>
      rw [sameSettled]
      exact .cancels (marked asked) (asLeased _)
    | replied notAsked reply => exact .handed (unasked notAsked) (asLeased _)
  | ended read decides =>
    cases decides with
    | asked asked =>
      rw [sameSettled]
      exact .cancelled (marked asked) same
    | replied notAsked reply => exact .handed (unasked notAsked) (asLeased _)

/-- An attempt that was cut off has settled the entity, or has only leased it. -/
theorem Passage.settled_or_same (passage : member.Passage shown entity attempt stored given replies) :
    (∃ leasedAt judgedAt settlement, shown judgedAt ∧
      member.Decides entity leasedAt given replies settlement ∧
      attempt = .ended (.persisted settlement.outcome) ∧
      stored = entity.settle settlement judgedAt) ∨
    ((∀ outcome, attempt ≠ .ended (.persisted outcome)) ∧ entity.SameButLease stored) := by
  cases passage with
  | selected _ => exact .inr ⟨nofun, .refl entity⟩
  | refused _ _ => exact .inr ⟨nofun, .refl entity⟩
  | working leasedAt _ _ | waiting leasedAt _ _ _ | confirming leasedAt _ _ _ =>
    exact .inr ⟨nofun, member.sameButLease_claimed leasedAt entity⟩
  | persisting _ _ => exact .inr ⟨nofun, member.sameButLease_claimed _ entity⟩
  | ended read decides => exact .inl ⟨_, _, _, read, decides, rfl, rfl⟩

end Member

namespace Fleet

variable [DecidableEq ι] {fleet : Fleet ι ε S P Call Response} {name : ι}
  {state : State ι ε S P Call Response} {action : Action ι ε S P}
  {actions : List (Action ι ε S P)} {place : Nat} {entity stored candidate : Entity S P}

/-- What is only selected after an action was selected before, and has not begun with it. -/
theorem selected_before (noPoll : action ≠ .poll name)
    (there : (fleet.step state action).attempt? name place = some (.selected candidate)) :
    state.attempt? name place = some (.selected candidate) ∧ action ≠ .proceed name place := by
  have elsewhere : action ≠ .proceed name place := by
    rintro rfl
    cases before : state.attempt? name place with
    | none =>
      rw [step_proceed_of_none before, before] at there
      cases there
    | some attempt =>
      obtain ⟨_, _, next, move, reached, _⟩ := fleet.move_proceed before
      cases reached.symm.trans there
      cases move
  rw [attempt?_step_of_ne noPoll elsewhere] at there
  exact ⟨there, elsewhere⟩

/-- An attempt that has not begun was not gone on with. -/
theorem not_mem_of_selected {id : String} (alone : fleet.Along (fleet.IsAlone name id) state actions)
    (there : (fleet.run state actions).attempt? name place = some (.selected candidate)) :
    state.attempt? name place = some (.selected candidate) ∧ .proceed name place ∉ actions := by
  induction actions generalizing state with
  | nil => exact ⟨there, List.not_mem_nil⟩
  | cons action rest ih =>
    obtain ⟨later, notLater⟩ := ih alone.2 there
    obtain ⟨before, notNow⟩ := selected_before alone.1.noPoll later
    refine ⟨before, fun listed => ?_⟩
    rcases List.mem_cons.mp listed with same | listed
    · exact notNow same.symm
    · exact notLater listed

variable (fleet)

/-- What a poll of a member does for an entity that is stored at the end of an attempt that was cut
off. The entity is due; and if the poll selects it, then its handler is given the entity with the
first step of the new attempt, or the entity is cancelled. Meanwhile nobody else writes it, and the
clock of the member does not go back. -/
structure TakesUp (rival : ι) (now : Instant) (entity stored : Entity S P)
    (cut : State ι ε S P Call Response) : Prop where
  due : (((fleet rival).engine rival).criteria now).matchesEntity stored = true
  goesOn : ∀ later, (fleet.run cut later).isIdle rival = true →
    fleet.clock rival (fleet.run cut later) = now →
    stored ∈ (fleet.run cut later).selection fleet rival →
    let polled := fleet.step (fleet.run cut later) (.poll rival)
    ∃ place, polled.attempt? rival place = some (.selected stored) ∧
      ∀ meanwhile, fleet.Along (fleet.IsLeftAlone rival (now ≤ ·) stored.id) polled meanwhile →
        .proceed rival place ∈ meanwhile →
        ∃ attempt last, (fleet.run polled meanwhile).attempt? rival place = some attempt ∧
          (fleet.run polled meanwhile).site.memory.find? stored.id = some last ∧
          (fleet rival).GoesOn entity attempt last
            (fleet.observe (fleet.given rival stored.id) polled meanwhile)

variable {fleet}

/-- **A later poll takes up an entity that was only leased.** -/
theorem takesUp_of_same {rival : ι} {polledAt now : Instant} {memory : Memory S P}
    {cut : State ι ε S P Call Response} (tidy : cut.Tidy fleet)
    (selected : entity ∈ memory.query (((fleet name).engine name).criteria polledAt))
    (same : entity.SameButLease stored)
    (sameRegistry : (fleet rival).registry = (fleet name).registry)
    (samePolicy : (fleet rival).config.retry = (fleet name).config.retry)
    (order : polledAt ≤ now) (lapsed : ∀ lease, stored.lease = some lease → lease.expiry ≤ now) :
    fleet.TakesUp rival now entity stored cut where
  due := Member.matches_again sameRegistry samePolicy (Memory.mem_query selected).2 same order lapsed
  goesOn := by
    intro later idle clock chosen polled
    obtain ⟨place, there, reaches⟩ := passage_run (tidy.run later) idle chosen
    refine ⟨place, there, fun meanwhile along proceeded => ?_⟩
    obtain ⟨attempt, last, reached, stands, passage⟩ := reaches along
    refine ⟨attempt, last, reached, stands, passage.goesOn same ?_ ?_⟩
    · rintro rfl
      exact (not_mem_of_selected (along.imp And.left) reached).2 proceeded
    · exact fun instant notBefore => Entity.isFreeAt_of_lapsed lapsed notBefore

/-- While nobody else writes an entity, the clock of a member shows what it shows. -/
theorem isLeftAlone_of_alone {id : String}
    (alone : fleet.Along (fleet.IsAlone name id) state actions) :
    fleet.Along (fleet.IsLeftAlone name (fun instant => ∃ past, past <+: actions ∧
      fleet.clock name (fleet.run state past) = instant) id) state actions := by
  refine along_iff.mpr fun past action rest split => ⟨along_iff.mp alone past action rest split,
    ⟨past, ⟨action :: rest, split.symm⟩, rfl⟩, past ++ [action], ⟨rest, ?_⟩, ?_⟩
  · rw [split, List.append_assoc]
    rfl
  · rw [run_concat]

/-- **An attempt is atomic.** A member selects an entity with a poll and stops for good at any step of
the attempt on it, while nobody else writes the entity. Then all that the attempt settled is stored,
as it follows from one reply of the handler and from what the clock showed; or the entity is stored
as it was selected, up to the lease. In the second case every poll at an instant which is not before
the first poll, nor before the end of the lease, takes up the entity as it was. -/
theorem attempt_is_atomic {memory : Memory S P} {surroundings : ε}
    (earlier during : List (Action ι ε S P))
    (idle : (fleet.run (.start memory surroundings) earlier).isIdle name = true)
    (selected : entity ∈ (fleet.run (.start memory surroundings) earlier).selection fleet name)
    (alone : fleet.Along (fleet.IsAlone name entity.id)
      (fleet.step (fleet.run (.start memory surroundings) earlier) (.poll name)) during) :
    let opening := fleet.run (.start memory surroundings) earlier
    let polled := fleet.step opening (.poll name)
    let cut := fleet.run polled during
    ∃ place attempt stored, polled.attempt? name place = some (.selected entity) ∧
      cut.attempt? name place = some attempt ∧
      cut.site.memory.find? entity.id = some stored ∧
      ((∃ leasedAt settlement past, past <+: during ∧
          (fleet name).Decides entity leasedAt
            (fleet.observe (fleet.given name entity.id) polled during)
            (fleet.observe (fleet.replied name entity.id) polled during) settlement ∧
          attempt = .ended (.persisted settlement.outcome) ∧
          stored = entity.settle settlement (fleet.clock name (fleet.run polled past))) ∨
        ((∀ outcome, attempt ≠ .ended (.persisted outcome)) ∧ entity.SameButLease stored ∧
          ∀ rival now, (fleet rival).registry = (fleet name).registry →
            (fleet rival).config.retry = (fleet name).config.retry →
            fleet.clock name opening ≤ now →
            (∀ lease, stored.lease = some lease → lease.expiry ≤ now) →
            fleet.TakesUp rival now entity stored cut)) := by
  intro opening polled cut
  have tidy := fleet.tidy_run memory surroundings earlier
  obtain ⟨place, there, reaches⟩ := passage_run tidy idle selected
  obtain ⟨attempt, stored, reached, stands, passage⟩ := reaches (isLeftAlone_of_alone alone)
  refine ⟨place, attempt, stored, there, reached, stands, ?_⟩
  rcases passage.settled_or_same with
    ⟨leasedAt, _, settlement, ⟨past, before, rfl⟩, decides, ended, settled⟩ | ⟨unsettled, same⟩
  · exact .inl ⟨leasedAt, settlement, past, before, decides, ended, settled⟩
  · have tidyCut := (tidy.kept (fleet.change_step opening (.poll name))).run during
    exact .inr ⟨unsettled, same, fun rival now sameRegistry samePolicy order lapsed =>
      takesUp_of_same tidyCut selected same sameRegistry samePolicy order lapsed⟩

/-! ### A list that was left behind -/

section LeftBehind

open Credential StatusList

/-- Publisher `a` has leased the first list, and stops for good. -/
def leftBehind :
    State String Instant StatusList.State Publication Credential.Call Credential.Response :=
  slowPublishers.run (selectedBy (fun _ => (1000, .transient "busy")) "a") [.proceed "a" 0]

/-- Publisher `b` selects the list when the lease is over. -/
def takenUp :
    State String Instant StatusList.State Publication Credential.Call Credential.Response :=
  (slowPublishers.run leftBehind [.pass (atMillis 1100)]).polled slowPublishers "b" lateFirst

/-- The first poll selects the list. -/
theorem selection_unsigned :
    let opening := slowPublishers.run (.start .empty (atMillis 1000)) [.call (.create unsigned)]
    unsigned ∈ opening.selection slowPublishers "a" ∧
      slowPublishers.step opening (.poll "a") =
        selectedBy (fun _ => (1000, .transient "busy")) "a" := by
  intro opening
  have selects : opening.selection slowPublishers "a" = [unsigned] :=
    query_criteria_of_single rfl (matches_criteria ⟨_, rfl⟩ rfl (by decide))
  refine ⟨?_, run_selectedBy _ "a" []⟩
  rw [selects]
  exact List.mem_singleton_self unsigned

/-- The second poll selects what is left of it. -/
theorem selection_leftBehind :
    let later := slowPublishers.run leftBehind [.pass (atMillis 1100)]
    lateFirst ∈ later.selection slowPublishers "b" ∧
      slowPublishers.step later (.poll "b") = takenUp := by
  intro later
  have selects : later.selection slowPublishers "b" = [lateFirst] :=
    query_criteria_of_single rfl (matches_criteria ⟨_, rfl⟩ (by decide) (by decide))
  refine ⟨?_, slowPublishers.step_poll_of_single later "b" lateFirst rfl rfl ⟨_, rfl⟩ (by decide)
    (by decide)⟩
  rw [selects]
  exact List.mem_singleton_self lateFirst

/-- A list that was leased only is given to another handler as soon as the lease is over. -/
theorem attempt_is_atomic_interrupted :
    leftBehind.site.memory.find? "list" = some lateFirst ∧
      lateFirst.lease = some ⟨"a", atMillis 1100⟩ ∧
      ∃ leased, slowPublishers.observe (slowPublishers.given "b" "list") takenUp [.proceed "b" 0] =
          [leased] ∧ unsigned.SameButLease leased := by
  obtain ⟨selected, polls⟩ := selection_unsigned
  obtain ⟨chosen, pollsAgain⟩ := selection_leftBehind
  have left : leftBehind.site.memory.find? "list" = some lateFirst := rfl
  obtain ⟨_, _, stored, _, _, stands, cutOff⟩ :=
    attempt_is_atomic [.call (.create unsigned)] [.proceed "a" 0] rfl selected
      ⟨isAlone_proceed 0, trivial⟩
  rw [polls] at stands cutOff
  obtain rfl : lateFirst = stored := Option.some.inj (left.symm.trans stands)
  rcases cutOff with ⟨_, _, _, _, _, _, settled⟩ | ⟨_, _, takesUp⟩
  · exact absurd (congrArg Entity.lease settled) nofun
  · have lapsed : ∀ lease, lateFirst.lease = some lease → lease.expiry ≤ atMillis 1100 := by
      rintro lease leased
      cases leased
      decide
    have takes : slowPublishers.TakesUp "b" (atMillis 1100) unsigned lateFirst leftBehind :=
      takesUp "b" (atMillis 1100) rfl rfl (by decide) lapsed
    obtain ⟨place, there, goesOn⟩ := takes.goesOn [.pass (atMillis 1100)] rfl rfl chosen
    rw [pollsAgain] at there goesOn
    obtain rfl : place = 0 := by
      cases place with
      | zero => rfl
      | succ _ => cases there
    obtain ⟨_, _, _, _, goes⟩ := goesOn [.proceed "b" 0]
      ⟨⟨isAlone_proceed 0, by decide, by decide⟩, trivial⟩ List.mem_cons_self
    exact ⟨rfl, rfl, goes.given_eq rfl⟩

end LeftBehind

end Fleet

end Leasehold
