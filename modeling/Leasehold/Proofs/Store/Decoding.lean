/-
**Rows and the entities that they are read as.**

A row is read column by column, and the first column without a value decides the fault. What is read
from the row of an entity is the entity with its instants in whole milliseconds, and what is read
from any row is written back as it stood there.

* `Row.Column`, `Row.Accepts`, `Row.faultOf`: the columns in the order of reading, what each of them
  has to hold, and its fault;
* `Row.ComesTo`: reading some columns in their order comes to a value or to the first fault;
* `Row.comesTo_toEntity`: reading a row is such a reading of all columns;
* `Row.toEntity_floored`: the row of an entity is read as the floored entity;
* `Row.ofEntity_of_toEntity`: the entity of a row is written as the row;
* `Row.reading_exact`: all of this together.
-/

import Leasehold.Proofs.Store.Failure

namespace Leasehold

variable {S P : Type} [ProcessState S] [Payload P]

/-! ### Instants in milliseconds -/

namespace Instant

/-- So many milliseconds are neither before the first instant nor after the last one. -/
def IsInRange (millis : Int) : Prop := first.millis ≤ millis ∧ millis ≤ last.millis

/-- Milliseconds are an instant exactly if they are in range. -/
theorem isInRange_iff {millis : Int} :
    IsInRange millis ↔ ∃ instant, ofMillis? millis = some instant := by
  unfold IsInRange Instant.millis first last ofMillis? ofNanos?
  dsimp only
  constructor
  · intro inRange
    exact ⟨_, dif_pos ⟨by omega, by omega⟩⟩
  · rintro ⟨instant, found⟩
    split at found
    · omega
    · cases found

/-- An instant of so many milliseconds has as many. -/
theorem millis_of_ofMillis? {millis : Int} {instant : Instant}
    (found : ofMillis? millis = some instant) : instant.millis = millis := by
  unfold ofMillis? ofNanos? at found
  split at found
  · cases found
    exact Int.mul_ediv_cancel millis (by decide)
  · cases found

@[simp] theorem millis_floorMillis (instant : Instant) :
    instant.floorMillis.millis = instant.millis := by
  unfold Instant.millis floorMillis
  dsimp only
  omega

/-- A floored instant has no part below a millisecond. -/
theorem isWhole_floorMillis (instant : Instant) : instant.floorMillis.IsWhole := by
  refine Instant.ext ?_
  unfold floorMillis
  dsimp only
  omega

end Instant

/-! ### Floored entities -/

/-- The lease with its end floored to whole milliseconds. -/
def Lease.floored (lease : Lease) : Lease := { lease with expiry := lease.expiry.floorMillis }

/-- The entity with all its instants floored to whole milliseconds. -/
def Entity.floored (entity : Entity S P) : Entity S P :=
  { entity with
    stateTimestamp := entity.stateTimestamp.floorMillis
    createdAt := entity.createdAt.floorMillis
    updatedAt := entity.updatedAt.floorMillis
    lease := entity.lease.map Lease.floored }

namespace Row

/-- An entity and the floored one have the same row. -/
theorem ofEntity_floored (entity : Entity S P) : ofEntity entity.floored = ofEntity entity := by
  unfold ofEntity Entity.floored
  simp only [Instant.millis_floorMillis, Option.map_map, Function.comp_def, Lease.floored]

/-- **The row of an entity is read as the floored entity**, if its texts are read back as they were
written. -/
theorem toEntity_floored [DecidableEq S] {entity : Entity S P} (few : entity.stateCount < UInt32.size)
    (traceContext : TraceContext.read? (TraceContext.toJson entity.traceContext).text =
      some entity.traceContext)
    (payload : (Json.readAs? (Payload.shape P) (Payload.toJson entity.payload).text).bind
      Payload.ofJson? = some entity.payload) :
    (ofEntity entity).toEntity = .ok entity.floored := by
  have storable : entity.floored.IsStorable := {
    stateCount := few
    stateTimestamp := entity.stateTimestamp.isWhole_floorMillis
    createdAt := entity.createdAt.isWhole_floorMillis
    updatedAt := entity.updatedAt.isWhole_floorMillis
    lease := by
      intro lease held
      obtain ⟨whole, -, rfl⟩ := Option.map_eq_some_iff.mp held
      exact whole.expiry.isWhole_floorMillis
    traceContext := traceContext
    payload := payload }
  rw [← ofEntity_floored]
  exact toEntity_ofEntity storable

/-! ### Columns -/

/-- The columns of a row that may be without a value, in the order in which they are read. -/
inductive Column where
  | state
  | stateCount
  | stateTimestamp
  | createdAt
  | updatedAt
  | lease
  | traceContext
  | payload
deriving DecidableEq, Repr

/-- All columns in the order in which they are read. -/
def Column.inOrder : List Column :=
  [.state, .stateCount, .stateTimestamp, .createdAt, .updatedAt, .lease, .traceContext, .payload]

theorem Column.mem_inOrder (column : Column) : column ∈ inOrder := by
  cases column <;> decide

variable (S P) in
/-- What a column has to hold. Of the two columns of a lease the end counts only if the holder is
there too. -/
def Accepts (row : Row) : Column → Prop
  | .state => ∃ state : S, code state = row.state
  | .stateCount => 0 ≤ row.stateCount ∧ row.stateCount < UInt32.size
  | .stateTimestamp => Instant.IsInRange row.stateTimestamp
  | .createdAt => Instant.IsInRange row.createdAt
  | .updatedAt => Instant.IsInRange row.updatedAt
  | .lease => ∀ holder expiry, row.leaseHolder = some holder → row.leaseExpiry = some expiry →
      Instant.IsInRange expiry
  | .traceContext => ∃ context, TraceContext.read? row.traceContext = some context
  | .payload => ∃ payload : P, (Json.readAs? (Payload.shape P) row.payload).bind Payload.ofJson? =
      some payload

/-- The fault of a row by the first column that does not hold what it has to. -/
def faultOf (row : Row) : Column → StoreError
  | .state => .corrupt row.id s!"unknown state code {row.state}"
  | .stateCount => .corrupt row.id s!"state_count out of range: {row.stateCount}"
  | .stateTimestamp => .corrupt row.id s!"state_timestamp out of range: {row.stateTimestamp}"
  | .createdAt => .corrupt row.id s!"created_at out of range: {row.createdAt}"
  | .updatedAt => .corrupt row.id s!"updated_at out of range: {row.updatedAt}"
  | .lease => .corrupt row.id s!"lease_expiry out of range: {row.leaseExpiry.getD 0}"
  | .traceContext => .serialization "invalid trace context"
  | .payload => .serialization "invalid payload"

variable (S P) in
/-- Reading has a value exactly if a column holds what it has to, and the fault of the column
otherwise. -/
structure Checks {α : Type} (row : Row) (column : Column) (reading : Except StoreError α) :
    Prop where
  value : row.Accepts S P column → ∃ value, reading = .ok value
  fault : ¬row.Accepts S P column → reading = .error (row.faultOf column)

variable {row : Row}

/-- A column that is looked up has a value exactly if something is found. -/
theorem Checks.of_lookup {α : Type} {column : Column} {reading : Except StoreError α}
    {found : Option α} (reads : reading = found.elim (.error (row.faultOf column)) .ok)
    (accepts : row.Accepts S P column ↔ ∃ value, found = some value) :
    row.Checks S P column reading where
  value := by
    intro accepted
    obtain ⟨value, rfl⟩ := accepts.mp accepted
    exact ⟨value, reads⟩
  fault := by
    intro refused
    cases found with
    | none => exact reads
    | some value => exact absurd (accepts.mpr ⟨value, rfl⟩) refused

theorem checks_state : row.Checks S P .state (row.readState : Except StoreError S) := by
  have reads : row.readState =
      (ProcessState.ofCode? row.state : Option S).elim (.error (row.faultOf .state)) .ok := by
    unfold readState
    cases (ProcessState.ofCode? row.state : Option S) <;> rfl
  exact .of_lookup reads (exists_congr fun _ => ProcessState.ofCode?_eq_some_iff.symm)

theorem checks_count : row.Checks S P .stateCount row.readCount where
  value inRange := ⟨row.stateCount.toNat, if_pos inRange⟩
  fault outside := if_neg outside

/-- A column with an instant is looked up among the milliseconds in range. -/
theorem checks_instant {column : Column} {name : String} {millis : Int}
    (accepts : row.Accepts S P column ↔ Instant.IsInRange millis)
    (fault : row.faultOf column = .corrupt row.id s!"{name} out of range: {millis}") :
    row.Checks S P column (row.instant name millis) := by
  have reads : row.instant name millis =
      (Instant.ofMillis? millis).elim (.error (row.faultOf column)) .ok := by
    rw [fault]
    unfold Row.instant
    cases Instant.ofMillis? millis <;> rfl
  exact .of_lookup reads (accepts.trans Instant.isInRange_iff)

theorem checks_lease : row.Checks S P .lease row.readLease := by
  unfold readLease
  split
  · next holder expiry held ends =>
    have accepts : row.Accepts S P .lease ↔ Instant.IsInRange expiry := by
      refine ⟨fun all => all holder expiry held ends, fun inRange _ other _ also => ?_⟩
      cases ends.symm.trans also
      exact inRange
    have fault : row.faultOf .lease = .corrupt row.id s!"lease_expiry out of range: {expiry}" := by
      unfold faultOf
      rw [ends]
      rfl
    have checks : row.Checks S P .lease (row.instant "lease_expiry" expiry) :=
      checks_instant accepts fault
    refine ⟨fun accepted => ?_, fun refused => ?_⟩
    · obtain ⟨instant, read⟩ := checks.value accepted
      rw [read]
      exact ⟨_, rfl⟩
    · rw [checks.fault refused]
      rfl
  · next half =>
    refine ⟨fun _ => ⟨none, rfl⟩, fun refused => absurd (fun holder expiry held ends => ?_) refused⟩
    exact (half holder expiry held ends).elim

theorem checks_traceContext : row.Checks S P .traceContext row.readTraceContext := by
  have reads : row.readTraceContext =
      (TraceContext.read? row.traceContext).elim (.error (row.faultOf .traceContext)) .ok := by
    unfold readTraceContext
    cases TraceContext.read? row.traceContext <;> rfl
  exact .of_lookup reads Iff.rfl

theorem checks_payload : row.Checks S P .payload (row.readPayload : Except StoreError P) := by
  have reads : row.readPayload =
      ((Json.readAs? (Payload.shape P) row.payload).bind Payload.ofJson? : Option P).elim
        (.error (row.faultOf .payload)) .ok := by
    unfold readPayload
    cases ((Json.readAs? (Payload.shape P) row.payload).bind Payload.ofJson? : Option P) <;> rfl
  exact .of_lookup reads Iff.rfl

/-! ### The first fault -/

variable (S P) in
/-- What reading some columns in their order comes to. -/
inductive ComesTo {α : Type} (row : Row) : List Column → Except StoreError α → Prop
  /-- There is a value when no column is left. -/
  | value (value : α) : ComesTo row [] (.ok value)
  /-- A column that does not hold what it has to ends the reading. -/
  | fault {column : Column} {rest : List Column} (refused : ¬row.Accepts S P column) :
      ComesTo row (column :: rest) (.error (row.faultOf column))
  /-- Any other column leads to the next one. -/
  | next {column : Column} {rest : List Column} {result : Except StoreError α}
      (accepted : row.Accepts S P column) (goesOn : ComesTo row rest result) :
      ComesTo row (column :: rest) result

namespace ComesTo

variable {α β : Type} {columns : List Column} {result : Except StoreError α}

/-- One column is read before the others. -/
theorem bind {column : Column} {reading : Except StoreError β} {next : β → Except StoreError α}
    (checks : row.Checks S P column reading)
    (others : ∀ value, row.ComesTo S P columns (next value)) :
    row.ComesTo S P (column :: columns) (reading >>= next) := by
  by_cases accepted : row.Accepts S P column
  · obtain ⟨value, read⟩ := checks.value accepted
    rw [read]
    exact .next accepted (others value)
  · rw [checks.fault accepted]
    exact .fault accepted

/-- There is a value exactly if every column holds what it has to. -/
theorem value_iff (reading : row.ComesTo S P columns result) :
    (∃ value, result = .ok value) ↔ ∀ column ∈ columns, row.Accepts S P column := by
  induction reading with
  | value value => exact ⟨fun _ _ none => (List.not_mem_nil none).elim, fun _ => ⟨value, rfl⟩⟩
  | fault refused => exact ⟨nofun, fun all => absurd (all _ List.mem_cons_self) refused⟩
  | next accepted _ ih =>
    rw [ih, List.forall_mem_cons]
    exact ⟨fun rest => ⟨accepted, rest⟩, fun all => all.2⟩

/-- Otherwise it is the fault of the first column that does not. -/
theorem first_fault {before after : List Column} {column : Column}
    (reading : row.ComesTo S P (before ++ column :: after) result)
    (accepted : ∀ earlier ∈ before, row.Accepts S P earlier)
    (refused : ¬row.Accepts S P column) : result = .error (row.faultOf column) := by
  induction before with
  | nil =>
    cases reading with
    | fault _ => rfl
    | next accepted _ => exact absurd accepted refused
  | cons earlier before ih =>
    rw [List.forall_mem_cons] at accepted
    cases reading with
    | fault unsound => exact absurd accepted.1 unsound
    | next _ goesOn => exact ih goesOn accepted.2

end ComesTo

/-- **Reading a row is reading its columns in their order.** -/
theorem comesTo_toEntity :
    row.ComesTo S P Column.inOrder (row.toEntity : Except StoreError (Entity S P)) := by
  unfold toEntity Column.inOrder
  refine .bind checks_state fun state => ?_
  refine .bind checks_count fun stateCount => ?_
  refine .bind (checks_instant Iff.rfl rfl) fun stateTimestamp => ?_
  refine .bind (checks_instant Iff.rfl rfl) fun createdAt => ?_
  refine .bind (checks_instant Iff.rfl rfl) fun updatedAt => ?_
  refine .bind checks_lease fun lease => ?_
  refine .bind checks_traceContext fun traceContext => ?_
  exact .bind checks_payload fun payload => .value _

/-! ### Written again -/

/-- The lease that is read from two columns that are both there or both empty is written into them
as it stood there. -/
theorem lease_of_readLease {lease : Option Lease} (read : row.readLease = .ok lease)
    (both : row.leaseHolder.isSome = row.leaseExpiry.isSome) :
    lease.map (·.holder) = row.leaseHolder ∧ lease.map (·.expiry.millis) = row.leaseExpiry := by
  unfold readLease at read
  split at read
  · next holder expiry held ends =>
    obtain ⟨instant, found, read⟩ := Draft.ok_of_bind read
    cases read
    rw [held, ends]
    exact ⟨rfl, congrArg some (Instant.millis_of_ofMillis? (instant_eq_ok_iff.mp found))⟩
  · next half =>
    cases read
    have neither : row.leaseHolder = none ∧ row.leaseExpiry = none := by
      cases held : row.leaseHolder <;> cases ends : row.leaseExpiry <;> simp_all
    exact ⟨neither.1.symm, neither.2.symm⟩

/-- **The entity of a row is written as the row**, but for the spelling of the two texts, if the
columns of the lease are both there or both empty. -/
theorem ofEntity_of_toEntity {entity : Entity S P} (read : row.toEntity = .ok entity)
    (both : row.leaseHolder.isSome = row.leaseExpiry.isSome) :
    ofEntity entity =
      { row with
        traceContext := (ofEntity entity).traceContext
        payload := (ofEntity entity).payload } := by
  have reads := toEntity_eq_ok_iff.mp read
  have millis {column : String} {millis : Int} {instant : Instant}
      (found : row.instant column millis = .ok instant) : instant.millis = millis :=
    Instant.millis_of_ofMillis? (instant_eq_ok_iff.mp found)
  have state : code entity.state = row.state := by
    have found := reads.state
    unfold readState at found
    split at found
    · next state known =>
      cases found
      exact ProcessState.ofCode?_eq_some_iff.mp known
    · cases found
  have stateCount : (entity.stateCount : Int) = row.stateCount := by
    have found := reads.stateCount
    unfold readCount at found
    split at found
    · next inRange =>
      rw [← Except.ok.inj found]
      exact Int.toNat_of_nonneg inRange.1
    · cases found
  obtain ⟨holder, expiry⟩ := lease_of_readLease reads.lease both
  unfold ofEntity
  dsimp only
  rw [reads.id, state, stateCount, millis reads.stateTimestamp, millis reads.createdAt,
    millis reads.updatedAt, reads.errorDetail, holder, expiry, reads.cancelRequested, reads.version]

variable (S P) in
/-- **Rows and entities.** The row of an entity is read as the entity with floored instants. A row is
read as an entity exactly if every column holds what it has to, and otherwise its fault is that of
the first column that does not. What is read from a row is written back as it stood there. -/
theorem reading_exact [DecidableEq S] :
    (∀ entity : Entity S P, entity.stateCount < UInt32.size →
      TraceContext.read? (TraceContext.toJson entity.traceContext).text =
        some entity.traceContext →
      (Json.readAs? (Payload.shape P) (Payload.toJson entity.payload).text).bind Payload.ofJson? =
        some entity.payload →
      (ofEntity entity).toEntity = .ok entity.floored) ∧
    (∀ row : Row, (∃ entity : Entity S P, row.toEntity = .ok entity) ↔
      ∀ column, row.Accepts S P column) ∧
    (∀ (row : Row) (before : List Column) (column : Column) (after : List Column),
      Column.inOrder = before ++ column :: after →
      (∀ earlier ∈ before, row.Accepts S P earlier) → ¬row.Accepts S P column →
      (row.toEntity : Except StoreError (Entity S P)) = .error (row.faultOf column)) ∧
    ∀ (row : Row) (entity : Entity S P), row.toEntity = .ok entity →
      row.leaseHolder.isSome = row.leaseExpiry.isSome →
      ofEntity entity =
        { row with
          traceContext := (ofEntity entity).traceContext
          payload := (ofEntity entity).payload } := by
  refine ⟨fun entity => toEntity_floored, fun row => ?_, fun row before column after places => ?_,
    fun row entity => ofEntity_of_toEntity⟩
  · rw [comesTo_toEntity.value_iff]
    exact ⟨fun all column => all column column.mem_inOrder, fun all column _ => all column⟩
  · exact (places ▸ comesTo_toEntity).first_fault

section Uneven

open Rehearsal

/-- An entity of the whole calendar, with as many attempts as can be counted, last tried a nanosecond
before the epoch. -/
def uneven : Entity Numbered Anything :=
  { Entity.fresh "list" ⟨999, by decide, by decide⟩ ⟨.string "draft"⟩
      (.ofList [("traceparent", "00-1")]) Instant.last with
    stateCount := maxStateCount
    stateTimestamp := { nanos := -1 }
    createdAt := Instant.first
    lease := some ⟨"first", Instant.last⟩ }

/-- Its row with two faults, of which the count is read first. -/
def miscounted : Row :=
  { ofEntity uneven with stateCount := -1, createdAt := 8210266876800000 }

/-- The last instant is read back without its part below a millisecond, the nanosecond before the
epoch as a millisecond before it, and the row is written again as it was. Of two faults the first
one counts. -/
theorem reading_exact_uneven :
    (ofEntity uneven).toEntity = .ok uneven.floored ∧
      uneven.floored.stateTimestamp.millis = -1 ∧
      uneven.floored.updatedAt.nanos = 8210266876799999000000 ∧
      (∀ column, (ofEntity uneven).Accepts Numbered Anything column) ∧
      (miscounted.toEntity : Except StoreError (Entity Numbered Anything)) =
        .error (.corrupt "list" "state_count out of range: -1") ∧
      ofEntity uneven.floored =
        { ofEntity uneven with
          traceContext := (ofEntity uneven.floored).traceContext
          payload := (ofEntity uneven.floored).payload } := by
  obtain ⟨readBack, accepted, faulty, written⟩ := reading_exact Numbered Anything
  have read : (ofEntity uneven).toEntity = .ok uneven.floored :=
    readBack uneven (by decide) (by cbv) (by cbv)
  have fault : (miscounted.toEntity : Except StoreError (Entity Numbered Anything)) =
      .error (miscounted.faultOf .stateCount) := by
    refine faulty miscounted [.state] .stateCount _ rfl (fun earlier member => ?_) fun inRange => ?_
    · rw [List.mem_singleton.mp member]
      exact ⟨uneven.state, rfl⟩
    · exact absurd inRange.1 (by decide)
  refine ⟨read, by decide, by decide, (accepted _).mp ⟨_, read⟩, fault.trans ?_,
    written _ _ read rfl⟩
  cbv

end Uneven

end Row

end Leasehold
