/-
**Rows that keep their entity.**

* `Instant.IsWhole`: an instant without a part below a millisecond. Such instants keep their order
  as milliseconds, also against instants that have one;
* `Entity.IsStorable`: what an entity needs so that its row says all about it;
* `load_ofEntity`: the row of such an entity is read back as the entity;
* `isFreeAt_ofEntity`, `any_code_ofEntity`, `isSelected_ofEntity`: a condition on a row is the
  condition on its entity.
-/

import Leasehold.Store.Memory
import Leasehold.Store.Table

set_option linter.unusedSectionVars false

namespace Leasehold

/-! ### Whole milliseconds -/

namespace Instant

/-- An instant without a part below a millisecond. -/
def IsWhole (instant : Instant) : Prop := instant.floorMillis = instant

instance (instant : Instant) : Decidable instant.IsWhole :=
  inferInstanceAs (Decidable (instant.floorMillis = instant))

/-- A whole instant is as many nanoseconds as its milliseconds have. -/
theorem IsWhole.nanos {instant : Instant} (whole : instant.IsWhole) :
    instant.nanos = instant.millis * 1000000 :=
  (congrArg Instant.nanos whole).symm

/-- Whole milliseconds are read back as they were. -/
theorem IsWhole.ofMillis? {instant : Instant} (whole : instant.IsWhole) :
    Instant.ofMillis? instant.millis = some instant := by
  rw [ofMillis?_millis, whole]

/-- A whole instant is not after another instant exactly if its milliseconds are not. -/
theorem IsWhole.millis_le_iff {earlier later : Instant} (whole : earlier.IsWhole) :
    earlier.millis ≤ later.millis ↔ earlier ≤ later := by
  have nanos := whole.nanos
  show _ ↔ earlier.nanos ≤ later.nanos
  unfold millis at *
  omega

/-- A whole duration from a whole instant leads to a whole instant, if that is in range. -/
theorem IsWhole.plus {now : Instant} {duration : Duration} (whole : now.IsWhole)
    (wholeDuration : duration.nanos % nanosPerMilli = 0)
    (inRange : (now.plus? duration).isSome = true) : (now.plus duration).IsWhole := by
  obtain ⟨ending, reached⟩ := Option.isSome_iff_exists.mp inRange
  have nanos : ending.nanos = now.nanos + duration.nanos := by
    unfold plus? ofNanos? at reached
    split at reached
    · cases reached
      rfl
    · cases reached
  have start := whole.nanos
  unfold Instant.plus
  rw [reached]
  refine Instant.ext ?_
  show ending.nanos / 1000000 * 1000000 = ending.nanos
  unfold nanosPerMilli at wholeDuration
  omega

end Instant

/-! ### Storable entities -/

variable {S P : Type} [DecidableEq S] [ProcessState S] [Payload P]

/-- What an entity needs so that its row says all about it. -/
structure Entity.IsStorable (entity : Entity S P) : Prop where
  stateCount : entity.stateCount < UInt32.size
  stateTimestamp : entity.stateTimestamp.IsWhole
  createdAt : entity.createdAt.IsWhole
  updatedAt : entity.updatedAt.IsWhole
  lease : ∀ lease, entity.lease = some lease → lease.expiry.IsWhole
  traceContext : TraceContext.read? (TraceContext.toJson entity.traceContext).text =
    some entity.traceContext
  payload : (Json.readAs? (Payload.shape P) (Payload.toJson entity.payload).text).bind
    Payload.ofJson? = some entity.payload

/-- The codes of all states fit 32 bits. -/
def HasNarrowCodes (S : Type) [ProcessState S] : Prop :=
  ∀ state : S, -0x80000000 ≤ code state ∧ code state < 0x80000000

namespace Row

theorem isReadable_ofEntity (narrow : HasNarrowCodes S) {entity : Entity S P}
    (below : entity.version < versionLimit) : (ofEntity entity).isReadable = true :=
  decide_eq_true ⟨(narrow entity.state).1, (narrow entity.state).2, below⟩

theorem instant_millis {instant : Instant} (whole : instant.IsWhole) (row : Row)
    (column : String) : row.instant column instant.millis = .ok instant := by
  unfold Row.instant
  rw [whole.ofMillis?]

theorem readState_ofEntity (entity : Entity S P) :
    (ofEntity entity).readState = .ok entity.state := by
  have column : (ofEntity entity).state = code entity.state := rfl
  unfold readState
  rw [column, ofCode?_code]

theorem readCount_ofEntity {entity : Entity S P} (storable : entity.IsStorable) :
    (ofEntity entity).readCount = .ok entity.stateCount := by
  have column : (ofEntity entity).stateCount = (entity.stateCount : Int) := rfl
  have bound := storable.stateCount
  unfold readCount
  rw [column, if_pos ⟨by omega, by omega⟩, Int.toNat_natCast]

theorem readLease_ofEntity {entity : Entity S P} (storable : entity.IsStorable) :
    (ofEntity entity).readLease = .ok entity.lease := by
  have holder : (ofEntity entity).leaseHolder = entity.lease.map (·.holder) := rfl
  have expiry : (ofEntity entity).leaseExpiry = entity.lease.map (·.expiry.millis) := rfl
  unfold readLease
  rw [holder, expiry]
  cases held : entity.lease with
  | none => rfl
  | some lease =>
    simp only [Option.map_some]
    rw [instant_millis (storable.lease lease held)]
    rfl

theorem readTraceContext_ofEntity {entity : Entity S P} (storable : entity.IsStorable) :
    (ofEntity entity).readTraceContext = .ok entity.traceContext := by
  have column : (ofEntity entity).traceContext =
    (TraceContext.toJson entity.traceContext).text := rfl
  unfold readTraceContext
  rw [column, storable.traceContext]

theorem readPayload_ofEntity {entity : Entity S P} (storable : entity.IsStorable) :
    (ofEntity entity).readPayload = .ok entity.payload := by
  have column : (ofEntity entity).payload = (Payload.toJson entity.payload).text := rfl
  unfold readPayload
  rw [column, storable.payload]

/-- **The row of a storable entity is read back as the entity.** -/
theorem toEntity_ofEntity {entity : Entity S P} (storable : entity.IsStorable) :
    (ofEntity entity).toEntity = .ok entity := by
  have stamp : (ofEntity entity).instant "state_timestamp" (ofEntity entity).stateTimestamp =
    .ok entity.stateTimestamp := instant_millis storable.stateTimestamp _ _
  have created : (ofEntity entity).instant "created_at" (ofEntity entity).createdAt =
    .ok entity.createdAt := instant_millis storable.createdAt _ _
  have updated : (ofEntity entity).instant "updated_at" (ofEntity entity).updatedAt =
    .ok entity.updatedAt := instant_millis storable.updatedAt _ _
  unfold toEntity
  rw [readState_ofEntity, readCount_ofEntity storable, stamp, created, updated,
    readLease_ofEntity storable, readTraceContext_ofEntity storable, readPayload_ofEntity storable]
  rfl

/-- The row of a storable entity below the limit is handed out as the entity. -/
theorem load_ofEntity (narrow : HasNarrowCodes S) {entity : Entity S P}
    (storable : entity.IsStorable) (below : entity.version < versionLimit) :
    (ofEntity entity).load = .ok entity := by
  unfold load
  rw [if_pos (isReadable_ofEntity narrow below), toEntity_ofEntity storable]

/-! ### Conditions -/

/-- A row is free exactly if its entity is, also at an instant between two milliseconds. -/
theorem isFreeAt_ofEntity {entity : Entity S P} (storable : entity.IsStorable) (now : Instant) :
    (ofEntity entity).isFreeAt now.millis = entity.isFreeAt now := by
  have holder : (ofEntity entity).leaseHolder = entity.lease.map (·.holder) := rfl
  have expiry : (ofEntity entity).leaseExpiry = entity.lease.map (·.expiry.millis) := rfl
  unfold Row.isFreeAt Entity.isFreeAt
  rw [holder, expiry]
  cases held : entity.lease with
  | none => rfl
  | some lease =>
    have order : lease.expiry.millis ≤ now.millis ↔ ¬now < lease.expiry :=
      (storable.lease lease held).millis_le_iff.trans Int.not_lt.symm
    show (false || decide (lease.expiry.millis ≤ now.millis)) = !decide (now < lease.expiry)
    rw [Bool.false_or, ← decide_not]
    exact decide_eq_decide.mpr order

theorem leaseHolder_ofEntity (entity : Entity S P) (holder : String) :
    ((ofEntity entity).leaseHolder == some holder) = entity.isLeasedBy holder := by
  have column : (ofEntity entity).leaseHolder = entity.lease.map (·.holder) := rfl
  unfold Entity.isLeasedBy
  rw [column]
  cases entity.lease with
  | none => rfl
  | some lease =>
    show (some lease.holder == some holder) = decide (lease.holder = holder)
    rw [Bool.eq_iff_iff, beq_iff_eq, decide_eq_true_iff, Option.some.injEq]

/-- A row has the code of a state in a list exactly if its entity is in one of these states. -/
theorem any_code_ofEntity (states : List S) (entity : Entity S P) :
    (states.any fun state => code state == (ofEntity entity).state) =
      states.contains entity.state := by
  have column : (ofEntity entity).state = code entity.state := rfl
  rw [column, Bool.eq_iff_iff, List.any_eq_true, List.contains_iff_mem]
  constructor
  · rintro ⟨state, member, same⟩
    rw [← code_injective (eq_of_beq same)]
    exact member
  · intro member
    exact ⟨entity.state, member, beq_self_eq_true _⟩

/-- Criteria select a row exactly if they select its entity. -/
theorem isSelected_ofEntity {entity : Entity S P} (storable : entity.IsStorable)
    (criteria : Criteria S) :
    (ofEntity entity).isSelected criteria = criteria.matchesEntity entity := by
  have states : (criteria.states.all fun states => states.any fun state =>
      code state == (ofEntity entity).state) =
      criteria.states.all (·.contains entity.state) := by
    congr 1
    funext states
    exact any_code_ofEntity states entity
  have free : (criteria.notLeasedAt.all fun now => (ofEntity entity).isFreeAt now.millis) =
      criteria.notLeasedAt.all fun now => !entity.isLeasedAt now := by
    congr 1
    funext now
    rw [isFreeAt_ofEntity storable, entity.isFreeAt_eq_not_isLeasedAt]
  have due : (criteria.due.all fun due => ((ofEntity entity).cutoff? due).all
      ((ofEntity entity).stateTimestamp ≤ ·)) =
      criteria.due.all (·.admits entity.stateCount entity.stateTimestamp) := by
    congr 1
    funext due
    have column : (ofEntity entity).stateCount = (entity.stateCount : Int) := rfl
    have cutoff : (ofEntity entity).cutoff? due =
        some (due.cutoffFor entity.stateCount).millis := by
      unfold cutoff?
      rw [column, if_neg (by omega), Int.toNat_natCast, Nat.mod_eq_of_lt storable.stateCount]
    rw [cutoff]
    exact decide_eq_decide.mpr storable.stateTimestamp.millis_le_iff
  have held : (criteria.leasedBy.all fun holder => (ofEntity entity).leaseHolder == some holder) =
      criteria.leasedBy.all entity.isLeasedBy := by
    congr 1
    funext holder
    exact leaseHolder_ofEntity entity holder
  unfold isSelected isCandidate Criteria.matchesEntity
  rw [states, free, due, held]

/-- Rows are ordered as their entities are. -/
theorem notAfter_ofEntity {first second : Entity S P} (storable : first.IsStorable)
    (storable' : second.IsStorable) :
    notAfter (fun entity : Entity S P => entity.stateTimestamp.nanos) (·.id) first second =
      notAfter (fun row : Row => row.stateTimestamp) (·.id) (ofEntity first) (ofEntity second) := by
  have one := storable.stateTimestamp.nanos
  have other := storable'.stateTimestamp.nanos
  have before : decide (first.stateTimestamp.nanos < second.stateTimestamp.nanos) =
      decide (first.stateTimestamp.millis < second.stateTimestamp.millis) :=
    decide_eq_decide.mpr (by omega)
  have same : (first.stateTimestamp.nanos == second.stateTimestamp.nanos) =
      (first.stateTimestamp.millis == second.stateTimestamp.millis) := by
    rw [Bool.eq_iff_iff, beq_iff_eq, beq_iff_eq]
    omega
  show (decide (first.stateTimestamp.nanos < second.stateTimestamp.nanos) ||
    (first.stateTimestamp.nanos == second.stateTimestamp.nanos &&
      decide (first.id ≤ second.id))) = _
  rw [before, same]
  rfl

end Row

end Leasehold
