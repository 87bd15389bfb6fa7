/-
**What a failed operation leaves in a table.**

An update, a lease and a renewal write their row first and read it back afterwards, to hand it out.
A row that cannot be read stays written although the operation fails.

* `Operation.overwrite?`: the row that an operation writes and reads back;
* `Table.run_of_error`, `Table.run_of_overwrite`: an operation without such a row writes nothing if
  it fails, and one with such a row writes it even if it fails;
* `Table.table_after_error`: what a failed operation leaves;
* `Table.failed_claim_is_written`: a claim on a row that cannot be read;
* `Row.toEntity_eq_ok_iff`, `Row.load_eq_ok_iff`: how a row is read column by column;
* `Row.Loads.rewrite`: what may be changed in a row that can be read;
* `Table.unchanged_of_error`: where all rows can be read, a failed operation writes nothing.
-/

import Leasehold.Proofs.Registry.Build
import Leasehold.Proofs.Store.Codec
import Leasehold.Rehearsal.Numbered
import Mathlib

set_option linter.unusedSectionVars false

namespace Leasehold

variable {S P : Type} [ProcessState S] [Payload P]

/-! ### Rows that are read back -/

namespace Operation

/-- The row that an operation writes over a stored one and reads back, if a stored one meets its
condition. -/
def overwrite? (operation : Operation S P) (table : Table) : Option Row :=
  match operation with
  | .update entity => ((table.find? entity.id).filter (·.version = entity.version)).map fun stored =>
      { Row.ofEntity entity with
        createdAt := stored.createdAt
        cancelRequested := stored.cancelRequested
        version := nextVersion stored.version }
  | .lease id holder duration now =>
    ((table.find? id).filter (·.isFreeAt now.millis)).map fun stored =>
      { stored with
        leaseHolder := some holder
        leaseExpiry := some (now.plus duration).millis
        version := nextVersion stored.version }
  | .renew id holder duration now =>
    ((table.find? id).filter (·.leaseHolder == some holder)).map fun stored =>
      { stored with
        leaseExpiry := some (now.plus duration).millis
        version := nextVersion stored.version }
  | .find _ | .create _ | .query _ | .release _ _ | .releaseAll _ | .cancelIfFree _ _ _ _
  | .requestCancel _ _ => none

end Operation

namespace Table

variable {table : Table} {operation : Operation S P} {row : Row} {error : StoreError}

/-- A row is found under its id. -/
theorem id_of_find? {id : String} (found : table.find? id = some row) : row.id = id := by
  simpa using List.find?_some found

/-- An operation that fails without such a row writes nothing. -/
theorem run_of_error (failed : (run operation table).1 = .error error)
    (missed : operation.overwrite? table = none) : (run operation table).2 = table := by
  cases operation with
  | find id =>
    simp only [run]
    split <;> rfl
  | create entity =>
    simp only [run] at failed ⊢
    split at failed
    · cases failed
    · rfl
  | update entity =>
    simp only [Operation.overwrite?, Option.map_eq_none_iff, Option.filter_eq_none_iff] at missed
    simp only [run, update]
    cases found : table.find? entity.id with
    | none => rfl
    | some stored =>
      dsimp only
      rw [if_neg fun same => missed stored found (decide_eq_true same)]
  | query criteria => rfl
  | lease id holder duration now =>
    simp only [Operation.overwrite?, Option.map_eq_none_iff] at missed
    simp only [run, lease, missed]
  | renew id holder duration now =>
    simp only [Operation.overwrite?, Option.map_eq_none_iff] at missed
    simp only [run, renew, missed]
  | release id holder =>
    simp only [run, release] at failed ⊢
    split at failed
    · cases failed
    · rfl
  | releaseAll holder => cases failed
  | cancelIfFree id cancelled terminal now =>
    simp only [run, cancelIfFree] at failed ⊢
    split at failed
    · cases failed
    · rfl
  | requestCancel id terminal =>
    simp only [run, requestCancel] at failed ⊢
    split at failed
    · cases failed
    · rfl

/-- An operation with such a row writes it, and fails exactly if it cannot be read back. -/
theorem run_of_overwrite (overwrites : operation.overwrite? table = some row) :
    (run operation table).2 = table.put row ∧
      ∀ error, (run operation table).1 = .error error ↔
        (row.load : Except StoreError (Entity S P)) = .error error := by
  cases operation with
  | update entity =>
    obtain ⟨stored, met, rfl⟩ := Option.map_eq_some_iff.mp overwrites
    obtain ⟨found, same⟩ := Option.filter_eq_some_iff.mp met
    simp only [run, update, found, if_pos (of_decide_eq_true same)]
    exact ⟨rfl, fun _ => Iff.rfl⟩
  | lease id holder duration now =>
    obtain ⟨stored, met, rfl⟩ := Option.map_eq_some_iff.mp overwrites
    simp only [run, lease, met]
    exact ⟨rfl, fun _ => Iff.rfl⟩
  | renew id holder duration now =>
    obtain ⟨stored, met, rfl⟩ := Option.map_eq_some_iff.mp overwrites
    simp only [run, renew, met]
    exact ⟨rfl, fun _ => Iff.rfl⟩
  | find _ | create _ | query _ | release _ _ | releaseAll _ | cancelIfFree _ _ _ _
  | requestCancel _ _ => cases overwrites

/-- **What a failed operation leaves.** Either the table is as before, or a stored row met the
condition of an update, a lease or a renewal, and the row in its place, which is all that changed,
cannot be read. -/
theorem table_after_error (table : Table) (operation : Operation S P) (error : StoreError)
    (failed : (run operation table).1 = .error error) :
    (operation.overwrite? table = none ∧ (run operation table).2 = table) ∨
      ∃ row, operation.overwrite? table = some row ∧
        (row.load : Except StoreError (Entity S P)) = .error error ∧
        (run operation table).2 = table.put row := by
  cases overwrites : operation.overwrite? table with
  | none => exact .inl ⟨rfl, run_of_error failed overwrites⟩
  | some row =>
    obtain ⟨written, fails⟩ := run_of_overwrite overwrites
    exact .inr ⟨row, rfl, (fails error).mp failed, written⟩

section Faults

open Rehearsal

/-- A row with a payload that is no JSON text. -/
def brokenRow : Row where
  id := "broken"
  state := 100
  stateCount := 0
  stateTimestamp := 0
  createdAt := 0
  updatedAt := 0
  traceContext := "{}"
  errorDetail := none
  leaseHolder := none
  leaseExpiry := none
  cancelRequested := false
  version := 0
  payload := "broken"

/-- A table with one row. -/
def singleton (row : Row) : Table := ⟨[row], List.pairwise_singleton _ _⟩

/-- A claim on the broken row. -/
abbrev faultyClaim : Operation Numbered Anything :=
  .lease "broken" "first" { nanos := 60000000000 } Instant.epoch

/-- The claim on the broken row fails. -/
theorem run_faultyClaim :
    (run faultyClaim (singleton brokenRow)).1 = .error (.serialization "invalid payload") := by
  cbv

theorem table_after_faultyClaim :
    (run faultyClaim (singleton brokenRow)).1 = .error (.serialization "invalid payload") ∧
      ((faultyClaim.overwrite? (singleton brokenRow) = none ∧
          (run faultyClaim (singleton brokenRow)).2 = singleton brokenRow) ∨
        ∃ row, faultyClaim.overwrite? (singleton brokenRow) = some row ∧
          (row.load : Except StoreError (Entity Numbered Anything)) =
            .error (.serialization "invalid payload") ∧
          (run faultyClaim (singleton brokenRow)).2 = (singleton brokenRow).put row) :=
  ⟨run_faultyClaim, table_after_error _ _ _ run_faultyClaim⟩

/-- **A claim that fails is written all the same**: the broken row has a holder afterwards. -/
theorem failed_claim_is_written :
    ¬∀ (table : Table) (operation : Operation Numbered Anything) (error : StoreError),
      (run operation table).1 = .error error → (run operation table).2.rows = table.rows := by
  intro unchanged
  have same := unchanged (singleton brokenRow) faultyClaim _ run_faultyClaim
  have holders : ((run faultyClaim (singleton brokenRow)).2.rows.map (·.leaseHolder)) =
      [some "first"] := rfl
  rw [same] at holders
  cases holders

end Faults

end Table

/-! ### Rows that can be read -/

namespace Row

variable (S P) in
/-- The row can be read as an entity. -/
def Loads (row : Row) : Prop := ∃ entity : Entity S P, row.load = .ok entity

instance (row : Row) : Decidable (row.Loads S P) :=
  match loaded : (row.load : Except StoreError (Entity S P)) with
  | .ok entity => .isTrue ⟨entity, loaded⟩
  | .error _ => .isFalse fun ⟨_, loads⟩ => by
    rw [loaded] at loads
    cases loads

/-- A column is read as an instant if its milliseconds are in range. -/
theorem instant_eq_ok_iff {row : Row} {column : String} {millis : Int} {instant : Instant} :
    row.instant column millis = .ok instant ↔ Instant.ofMillis? millis = some instant := by
  unfold Row.instant
  cases Instant.ofMillis? millis with
  | none => exact ⟨nofun, nofun⟩
  | some value => rw [Except.ok.injEq, Option.some.injEq]

/-- A lease is read if its end is in range. -/
theorem exists_readLease {row : Row}
    (inRange : ∀ expiry, row.leaseExpiry = some expiry → (Instant.ofMillis? expiry).isSome = true) :
    ∃ lease, row.readLease = .ok lease := by
  unfold readLease
  split
  · next holder expiry _ ends =>
    obtain ⟨instant, there⟩ := Option.isSome_iff_exists.mp (inRange expiry ends)
    rw [instant_eq_ok_iff.mpr there]
    exact ⟨_, rfl⟩
  · exact ⟨none, rfl⟩

/-- The columns of a row are read as the parts of an entity. -/
structure Reads (row : Row) (entity : Entity S P) : Prop where
  id : entity.id = row.id
  state : row.readState = .ok entity.state
  stateCount : row.readCount = .ok entity.stateCount
  stateTimestamp : row.instant "state_timestamp" row.stateTimestamp = .ok entity.stateTimestamp
  createdAt : row.instant "created_at" row.createdAt = .ok entity.createdAt
  updatedAt : row.instant "updated_at" row.updatedAt = .ok entity.updatedAt
  traceContext : row.readTraceContext = .ok entity.traceContext
  errorDetail : entity.errorDetail = row.errorDetail
  lease : row.readLease = .ok entity.lease
  cancelRequested : entity.cancelRequested = row.cancelRequested
  version : entity.version = row.version
  payload : row.readPayload = .ok entity.payload

/-- A row is read as an entity if its columns are read as the parts of the entity. -/
theorem toEntity_eq_ok_iff {row : Row} {entity : Entity S P} :
    row.toEntity = .ok entity ↔ row.Reads entity := by
  constructor
  · intro loaded
    obtain ⟨state, readsState, loaded⟩ := Draft.ok_of_bind loaded
    obtain ⟨stateCount, readsCount, loaded⟩ := Draft.ok_of_bind loaded
    obtain ⟨stateTimestamp, readsStamp, loaded⟩ := Draft.ok_of_bind loaded
    obtain ⟨createdAt, readsCreated, loaded⟩ := Draft.ok_of_bind loaded
    obtain ⟨updatedAt, readsUpdated, loaded⟩ := Draft.ok_of_bind loaded
    obtain ⟨lease, readsLease, loaded⟩ := Draft.ok_of_bind loaded
    obtain ⟨traceContext, readsTrace, loaded⟩ := Draft.ok_of_bind loaded
    obtain ⟨payload, readsPayload, loaded⟩ := Draft.ok_of_bind loaded
    cases loaded
    exact ⟨rfl, readsState, readsCount, readsStamp, readsCreated, readsUpdated, readsTrace, rfl,
      readsLease, rfl, rfl, readsPayload⟩
  · intro reads
    unfold toEntity
    rw [reads.state, reads.stateCount, reads.stateTimestamp, reads.createdAt, reads.updatedAt,
      reads.lease, reads.traceContext, reads.payload, ← reads.id, ← reads.errorDetail,
      ← reads.cancelRequested, ← reads.version]
    rfl

/-- A row is handed out as an entity if it is readable and its columns are read so. -/
theorem load_eq_ok_iff {row : Row} {entity : Entity S P} :
    row.load = .ok entity ↔ row.isReadable = true ∧ row.Reads entity := by
  unfold load
  constructor
  · intro loaded
    split at loaded
    · next readable => exact ⟨readable, toEntity_eq_ok_iff.mp loaded⟩
    · cases loaded
  · rintro ⟨readable, reads⟩
    rw [if_pos readable]
    exact toEntity_eq_ok_iff.mpr reads

/-- A row stays one that can be read with the time of creation of another such row, with another
request to cancel, with a lease whose end is in range, and with a version below the limit. -/
theorem Loads.rewrite {row stored : Row} (loads : row.Loads S P) (storedLoads : stored.Loads S P)
    (holder : Option String) {expiry : Option Int} (asked : Bool) {version : Int}
    (inRange : ∀ millis, expiry = some millis → (Instant.ofMillis? millis).isSome = true)
    (below : version < versionLimit) :
    ({ row with
        createdAt := stored.createdAt
        leaseHolder := holder
        leaseExpiry := expiry
        cancelRequested := asked
        version := version } : Row).Loads S P := by
  obtain ⟨entity, loaded⟩ := loads
  obtain ⟨other, loadedOther⟩ := storedLoads
  obtain ⟨readable, reads⟩ := load_eq_ok_iff.mp loaded
  obtain ⟨_, readsOther⟩ := load_eq_ok_iff.mp loadedOther
  have codes := of_decide_eq_true readable
  let final : Row := { row with
    createdAt := stored.createdAt
    leaseHolder := holder
    leaseExpiry := expiry
    cancelRequested := asked
    version := version }
  obtain ⟨lease, readsLease⟩ : ∃ lease, final.readLease = .ok lease := exists_readLease inRange
  refine ⟨{ entity with
    createdAt := other.createdAt
    lease := lease
    cancelRequested := asked
    version := version }, load_eq_ok_iff.mpr ⟨decide_eq_true ⟨codes.1, codes.2.1, below⟩, ?_⟩⟩
  exact {
    reads with
    createdAt := instant_eq_ok_iff.mpr (instant_eq_ok_iff.mp readsOther.createdAt)
    lease := readsLease
    cancelRequested := rfl
    version := rfl }

end Row

namespace Table

variable {table : Table} {operation : Operation S P} {row : Row} {error : StoreError}

variable (S P) in
/-- All rows can be read, also with the next version. -/
def IsReadable (table : Table) : Prop :=
  ∀ row ∈ table.rows, row.Loads S P ∧ row.version < versionLimit - 1

/-- What is written over a row that can be read can be read, unless it is the row of an entity that
cannot. -/
theorem loads_overwrite (readable : table.IsReadable S P)
    (fits : ∀ entity, operation = .update entity → (Row.ofEntity entity).Loads S P)
    (overwrites : operation.overwrite? table = some row) : row.Loads S P := by
  have next : ∀ {id : String} {stored : Row}, table.find? id = some stored →
      stored.Loads S P ∧ nextVersion stored.version < versionLimit := by
    intro id stored found
    obtain ⟨loads, below⟩ := readable stored (List.mem_of_find?_eq_some found)
    refine ⟨loads, ?_⟩
    unfold nextVersion
    omega
  have inRange : ∀ {ending : Instant} (millis : Int), some ending.millis = some millis →
      (Instant.ofMillis? millis).isSome = true := by
    rintro ending _ ⟨⟩
    rw [Instant.ofMillis?_millis]
    rfl
  cases operation with
  | update entity =>
    obtain ⟨stored, met, rfl⟩ := Option.map_eq_some_iff.mp overwrites
    obtain ⟨loads, below⟩ := next (Option.filter_eq_some_iff.mp met).1
    refine (fits entity rfl).rewrite loads _ _ (fun millis ends => ?_) below
    obtain ⟨lease, _, rfl⟩ := Option.map_eq_some_iff.mp ends
    exact inRange _ rfl
  | lease id holder duration now =>
    obtain ⟨stored, met, rfl⟩ := Option.map_eq_some_iff.mp overwrites
    obtain ⟨loads, below⟩ := next (Option.filter_eq_some_iff.mp met).1
    exact loads.rewrite loads _ _ inRange below
  | renew id holder duration now =>
    obtain ⟨stored, met, rfl⟩ := Option.map_eq_some_iff.mp overwrites
    obtain ⟨loads, below⟩ := next (Option.filter_eq_some_iff.mp met).1
    exact loads.rewrite loads _ _ inRange below
  | find _ | create _ | query _ | release _ _ | releaseAll _ | cancelIfFree _ _ _ _
  | requestCancel _ _ => cases overwrites

/-- **Where all rows can be read, a failed operation writes nothing**, unless an update has to write
an entity whose row cannot be read. -/
theorem unchanged_of_error (readable : table.IsReadable S P)
    (fits : ∀ entity, operation = .update entity → (Row.ofEntity entity).Loads S P)
    (failed : (run operation table).1 = .error error) : (run operation table).2 = table := by
  cases overwrites : operation.overwrite? table with
  | none => exact run_of_error failed overwrites
  | some row =>
    obtain ⟨entity, loaded⟩ := loads_overwrite readable fits overwrites
    have fails := ((run_of_overwrite overwrites).2 error).mp failed
    rw [loaded] at fails
    cases fails

end Table

end Leasehold
