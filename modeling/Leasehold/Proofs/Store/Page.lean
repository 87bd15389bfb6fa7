/-
**What a query hands out.**

* `subperm_pageOf`: a page holds some of the records, each at most as often as it was there;
* `pageOf_map`: a page of changed records is the changed page, if the order is kept;
* `Memory.mem_query`, `Memory.nodup_query`: a query hands out stored entities that the criteria
  select, and no two of them have the same id.
-/

import Leasehold.Store.Memory
import Mathlib.Data.List.Nodup
import Mathlib.Data.List.Perm.Subperm

set_option linter.unusedSectionVars false

namespace Leasehold

/-! ### Pages -/

section Pages

variable {α β : Type} {timestamp : α → Int} {id : α → String}

/-- A page holds some of the records. -/
theorem subperm_pageOf (order : SortOrder) (offset : Nat) (limit : Option Nat) (records : List α) :
    (pageOf timestamp id order offset limit records).Subperm records := by
  have sorted : (records.mergeSort (notAfter timestamp id)).Perm records := List.mergeSort_perm _ _
  obtain ⟨directed, same, page⟩ : ∃ directed : List α, directed.Perm records ∧
      (pageOf timestamp id order offset limit records).Sublist directed := by
    cases order with
    | ascending =>
      refine ⟨_, sorted, ?_⟩
      cases limit with
      | none => exact List.drop_sublist _ _
      | some count => exact (List.take_sublist _ _).trans (List.drop_sublist _ _)
    | descending =>
      refine ⟨_, (List.reverse_perm _).trans sorted, ?_⟩
      cases limit with
      | none => exact List.drop_sublist _ _
      | some count => exact (List.take_sublist _ _).trans (List.drop_sublist _ _)
  exact page.subperm.trans same.subperm

/-- A page of changed records is the changed page, if the change keeps the order. -/
theorem pageOf_map {stamp : β → Int} {name : β → String} (change : α → β) (order : SortOrder)
    (offset : Nat) (limit : Option Nat) {records : List α}
    (keeps : ∀ first ∈ records, ∀ second ∈ records,
      notAfter timestamp id first second = notAfter stamp name (change first) (change second)) :
    pageOf stamp name order offset limit (records.map change) =
      (pageOf timestamp id order offset limit records).map change := by
  have sorted : (records.map change).mergeSort (notAfter stamp name) =
      (records.mergeSort (notAfter timestamp id)).map change := (List.map_mergeSort keeps).symm
  unfold pageOf
  rw [sorted]
  cases order <;> cases limit <;> simp only [List.map_reverse, List.map_drop, List.map_take]

end Pages

/-! ### Queries -/

namespace Memory

variable {S P : Type} [DecidableEq S] {memory : Memory S P} {criteria : Criteria S}

/-- What a query hands out is stored, and the criteria select it. -/
theorem mem_query {entity : Entity S P} (selected : entity ∈ memory.query criteria) :
    entity ∈ memory.entities ∧ criteria.matchesEntity entity = true :=
  List.mem_filter.mp ((subperm_pageOf _ _ _ _).subset selected)

/-- An entity of a store is the one that is found under its id. -/
theorem find?_of_mem {entity : Entity S P} (member : entity ∈ memory.entities) :
    memory.find? entity.id = some entity := by
  cases found : memory.find? entity.id with
  | none =>
    have missed := List.find?_eq_none.mp found entity member
    simp at missed
  | some other =>
    have sameId : other.id = entity.id := by simpa using List.find?_some found
    rw [List.inj_on_of_nodup_map memory.distinct (List.mem_of_find?_eq_some found) member sameId]

/-- Among entities with different ids the id tells the place. -/
theorem place_eq_of_id {entities : List (Entity S P)} (distinct : (entities.map (·.id)).Nodup)
    {place other : Nat} {one another : Entity S P} (first : entities[place]? = some one)
    (second : entities[other]? = some another) (sameId : one.id = another.id) : place = other := by
  have bounded : place < (entities.map (·.id)).length := by
    rw [List.length_map]
    exact (List.getElem?_eq_some_iff.mp first).1
  refine (List.getElem?_inj bounded distinct).mp ?_
  rw [List.getElem?_map, List.getElem?_map, first, second]
  exact congrArg some sameId

/-- A query hands out entities with different ids. -/
theorem nodup_query (memory : Memory S P) (criteria : Criteria S) :
    ((memory.query criteria).map (·.id)).Nodup := by
  have selected : (memory.query criteria).Subperm
      (memory.entities.filter criteria.matchesEntity) := subperm_pageOf _ _ _ _
  obtain ⟨page, same, part⟩ := selected
  have stored : page.Sublist memory.entities := part.trans List.filter_sublist
  have distinct : (page.map (·.id)).Nodup := memory.distinct.sublist (stored.map _)
  exact (same.map _).nodup_iff.mp distinct

end Memory

end Leasehold
