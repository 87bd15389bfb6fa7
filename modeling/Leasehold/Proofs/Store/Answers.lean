/-
**What every answer of a store tells.**

Whatever is stored, and in whichever kind of store: a query hands out entities with different ids,
and not more than it was asked for; a lease and an update hand out the entity that they were asked
for.

* `Operation.Suits`: an answer is one of these;
* `Memory.suits`, `Table.suits`, `AnyStore.suits`: a store gives no other answers.
-/

import Leasehold.Proofs.Store.Failure
import Leasehold.Proofs.Store.Page
import Leasehold.Proofs.Store.Revision
import Leasehold.Store.Any

set_option linter.unusedSectionVars false

namespace Leasehold

variable {S P : Type}

/-- An answer is about the entities that the operation is about. An error always is. -/
def Operation.Suits : (operation : Operation S P) → operation.Answer → Prop
  | .query criteria, .ok selection =>
    (selection.map (·.id)).Nodup ∧ ∀ count, criteria.limit = some count → selection.length ≤ count
  | .lease id _ _ _, .ok leased => leased.id = id
  | .update entity, .ok saved => saved.id = entity.id
  | _, _ => True

theorem Operation.suits_error (operation : Operation S P) (error : StoreError) :
    operation.Suits (.error error) := by
  cases operation <;> trivial

/-- A page is not longer than its limit. -/
theorem length_pageOf_le {α : Type} {timestamp : α → Int} {id : α → String} (order : SortOrder)
    (offset count : Nat) (records : List α) :
    (pageOf timestamp id order offset (some count) records).length ≤ count :=
  List.length_take_le _ _

/-! ### Both kinds of stores -/

theorem Memory.suits [DecidableEq S] (operation : Operation S P) (memory : Memory S P) :
    operation.Suits (Memory.run operation memory).1 := by
  cases operation with
  | query criteria =>
    refine ⟨memory.nodup_query criteria, fun count limited => ?_⟩
    show (criteria.arrange _).length ≤ count
    unfold Criteria.arrange
    rw [limited]
    exact length_pageOf_le _ _ _ _
  | lease id holder duration now =>
    cases answered : (Memory.run (.lease id holder duration now) memory).1 with
    | error error => trivial
    | ok leased =>
      obtain ⟨stored, found, _, rfl⟩ := Memory.answer_lease_eq_ok_iff.mp answered
      have named : stored.id = id := Memory.id_of_find? found
      exact named
  | update entity =>
    cases answered : (Memory.run (.update entity) memory).1 with
    | error error => trivial
    | ok saved =>
      obtain ⟨stored, _, _, rfl⟩ := Memory.answer_update_eq_ok_iff.mp answered
      rfl
  | find _ | create _ | renew _ _ _ _ | release _ _ | releaseAll _ | cancelIfFree _ _ _ _
  | requestCancel _ _ => trivial

namespace Table

variable [ProcessState S] [Payload P] {table : Table}

/-- Rows are read as entities with the same ids. -/
theorem map_id_of_mapM {rows : List Row} {entities : List (Entity S P)}
    (reads : rows.mapM Row.toEntity = .ok entities) : entities.map (·.id) = rows.map (·.id) := by
  induction rows generalizing entities with
  | nil =>
    cases reads
    rfl
  | cons row rest ih =>
    rw [List.mapM_cons] at reads
    obtain ⟨entity, first, reads⟩ := Draft.ok_of_bind reads
    obtain ⟨others, later, reads⟩ := Draft.ok_of_bind reads
    cases reads
    rw [List.map_cons, List.map_cons, ih later, (Row.toEntity_eq_ok_iff.mp first).id]

/-- What is read back after a write has the id of the row that was written. -/
theorem id_of_writeRow {row : Row} {entity : Entity S P}
    (written : (writeRow row table).1 = .ok entity) : entity.id = row.id :=
  (Row.load_eq_ok_iff.mp written).2.id

/-- A query that succeeds hands out the rows of its page. -/
theorem map_id_of_query {criteria : Criteria S} {selection : List (Entity S P)}
    (answered : table.query criteria = .ok selection) :
    selection.map (·.id) = (table.select criteria).map (·.id) := by
  unfold query at answered
  dsimp only at answered
  split at answered
  · cases answered
  · split at answered
    · exact map_id_of_mapM answered
    · cases answered

/-- No row is selected twice. -/
theorem nodup_select (table : Table) (criteria : Criteria S) :
    ((table.select criteria).map (·.id)).Nodup := by
  obtain ⟨page, rearranged, part⟩ :
    (table.select criteria).Subperm (table.rows.filter (·.isSelected criteria)) :=
    subperm_pageOf _ _ _ _
  have distinct : (page.map (·.id)).Nodup :=
    table.distinct.sublist ((part.trans List.filter_sublist).map _)
  exact (rearranged.map _).nodup_iff.mp distinct

theorem length_select_le {criteria : Criteria S} {count : Nat}
    (limited : criteria.limit = some count) : (table.select criteria).length ≤ count := by
  unfold select
  rw [limited]
  exact length_pageOf_le _ _ _ _

theorem suits (operation : Operation S P) (table : Table) :
    operation.Suits (run operation table).1 := by
  cases operation with
  | query criteria =>
    cases answered : (run (.query criteria : Operation S P) table).1 with
    | error error => trivial
    | ok selection =>
      have same : selection.map (·.id) = _ := map_id_of_query answered
      refine ⟨?_, fun count limited => ?_⟩
      · rw [same]
        exact table.nodup_select criteria
      · have length := congrArg List.length same
        rw [List.length_map, List.length_map] at length
        rw [length]
        exact length_select_le limited
  | lease id holder duration now =>
    cases answered : (run (.lease id holder duration now : Operation S P) table).1 with
    | error error => trivial
    | ok leased =>
      have answered : (lease id holder duration now table).1 = .ok leased := answered
      unfold lease at answered
      split at answered
      · next stored met =>
        have named : stored.id = id := id_of_find? (Option.filter_eq_some_iff.mp met).1
        exact (id_of_writeRow answered).trans named
      · cases answered
  | update entity =>
    cases answered : (run (.update entity) table).1 with
    | error error => trivial
    | ok saved =>
      have answered : (update entity table).1 = .ok saved := answered
      unfold update at answered
      split at answered
      · split at answered
        · exact id_of_writeRow answered
        · cases answered
      · cases answered
  | find _ | create _ | renew _ _ _ _ | release _ _ | releaseAll _ | cancelIfFree _ _ _ _
  | requestCancel _ _ => trivial

end Table

/-- **A store gives no other answers.** -/
theorem AnyStore.suits [DecidableEq S] [ProcessState S] [Payload P] (operation : Operation S P)
    (store : AnyStore S P) : operation.Suits (AnyStore.run operation store).1 := by
  cases store with
  | memory entities => exact Memory.suits operation entities
  | table rows => exact Table.suits operation rows

end Leasehold
