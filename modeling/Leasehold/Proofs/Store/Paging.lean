/-
**Queries and their pages.**

Without an offset and a limit a query hands out all that its criteria select, in one order that does
not depend on how the store holds its entities. A page is a piece of this list, and pages of one
length, put together, are the list again.

* `Entity.IsOlder`, `SortOrder.Places`: the order of entities, with ids byte by byte;
* `Criteria.whole`, `Criteria.page`: the criteria without their offset and limit, or with those of
  one page;
* `mergeSort_congr`: the sorted list does not depend on the order before;
* `Memory.mem_query_whole`, `Memory.pairwise_query_whole`: what the whole list holds, and how;
* `Memory.getElem?_query`: a query holds a piece of the whole list;
* `Memory.query_congr`: stores with the same entities answer alike;
* `Memory.flatMap_query_page`: the first pages together;
* `Memory.query_exact`: all of this together.
-/

import Leasehold.Proofs.Store.Order
import Leasehold.Proofs.Text.Bytes

namespace Leasehold

/-! ### Sorted records and pages of them -/

section Records

variable {α : Type} {timestamp : α → Int} {id : α → String}

/-- **The sorted list does not depend on the order before**, if the ids differ. -/
theorem mergeSort_congr {records others : List α} (same : records.Perm others)
    (distinct : (records.map id).Nodup) :
    records.mergeSort (notAfter timestamp id) = others.mergeSort (notAfter timestamp id) := by
  have together : (records.mergeSort (notAfter timestamp id)).Perm
      (others.mergeSort (notAfter timestamp id)) :=
    (List.mergeSort_perm records _).trans (same.trans (List.mergeSort_perm others _).symm)
  have distinct' : (others.map id).Nodup := (same.map id).nodup_iff.mp distinct
  exact together.eq_of_pairwise (fun _ _ _ _ before after => absurd after before.asymm)
    (pairwise_sorted distinct) (pairwise_sorted distinct')

theorem pageOf_none (order : SortOrder) (offset : Nat) (records : List α) :
    pageOf timestamp id order offset none records =
      (pageOf timestamp id order 0 none records).drop offset := rfl

theorem pageOf_some (order : SortOrder) (offset count : Nat) (records : List α) :
    pageOf timestamp id order offset (some count) records =
      ((pageOf timestamp id order 0 none records).drop offset).take count := rfl

/-- A page holds the records from its offset on and up to its limit. -/
theorem getElem?_pageOf (order : SortOrder) (offset : Nat) (limit : Option Nat) (records : List α)
    (place : Nat) :
    (pageOf timestamp id order offset limit records)[place]? =
      if limit.all (place < ·) then (pageOf timestamp id order 0 none records)[offset + place]?
      else none := by
  cases limit with
  | none =>
    rw [pageOf_none, List.getElem?_drop]
    rfl
  | some count =>
    rw [pageOf_some, List.getElem?_take, List.getElem?_drop, Option.all_some]
    simp only [decide_eq_true_eq]

/-- The first pages of a list together are its beginning. -/
theorem flatMap_drop_take (records : List α) (length pages : Nat) :
    (List.range pages).flatMap (fun number => (records.drop (number * length)).take length) =
      records.take (pages * length) := by
  induction pages with
  | zero => rw [List.range_zero, List.flatMap_nil, Nat.zero_mul, List.take_zero]
  | succ pages ih =>
    rw [List.range_succ, List.flatMap_append, ih, List.flatMap_singleton, Nat.succ_mul,
      List.take_add]

end Records

/-! ### Criteria of whole lists and of pages -/

variable {S P : Type}

/-- One entity came into its state before another, or at the same time and has the smaller id, byte
by byte. -/
def Entity.IsOlder (first second : Entity S P) : Prop :=
  first.stateTimestamp < second.stateTimestamp ∨
    first.stateTimestamp = second.stateTimestamp ∧ Text.bytes first.id < Text.bytes second.id

/-- In a direction one entity has its place before another. -/
def SortOrder.Places : SortOrder → Entity S P → Entity S P → Prop
  | .ascending, first, second => first.IsOlder second
  | .descending, first, second => second.IsOlder first

/-- The older of two entities comes first. -/
theorem Entity.isOlder_iff {first second : Entity S P} :
    first.IsOlder second ↔
      IsBefore (fun entity : Entity S P => entity.stateTimestamp.nanos) (·.id) first second := by
  have same : first.stateTimestamp = second.stateTimestamp ↔
      first.stateTimestamp.nanos = second.stateTimestamp.nanos :=
    ⟨congrArg Instant.nanos, Instant.ext⟩
  unfold Entity.IsOlder IsBefore
  rw [Text.bytes_lt_iff, same]
  rfl

namespace Criteria

/-- The criteria without an offset and a limit. -/
def whole (criteria : Criteria S) : Criteria S := { criteria with offset := 0, limit := none }

/-- The criteria for one of the pages of a length, counted from zero. -/
def page (criteria : Criteria S) (length number : Nat) : Criteria S :=
  { criteria with offset := number * length, limit := some length }

end Criteria

/-! ### Queries -/

namespace Memory

variable [DecidableEq S] (memory : Memory S P) (criteria : Criteria S)

/-- The selected entities in ascending order. -/
def sorted : List (Entity S P) :=
  (memory.entities.filter criteria.matchesEntity).mergeSort
    (notAfter (·.stateTimestamp.nanos) (·.id))

theorem nodup_selected : ((memory.entities.filter criteria.matchesEntity).map (·.id)).Nodup :=
  memory.distinct.sublist (List.filter_sublist.map _)

theorem pairwise_sorted_isOlder : (memory.sorted criteria).Pairwise Entity.IsOlder :=
  (pairwise_sorted (memory.nodup_selected criteria)).imp fun before =>
    Entity.isOlder_iff.mpr before

/-- **The whole list holds what the criteria select.** -/
theorem mem_query_whole {entity : Entity S P} :
    entity ∈ memory.query criteria.whole ↔
      entity ∈ memory.entities ∧ criteria.matchesEntity entity = true := by
  have listed : entity ∈ memory.sorted criteria ↔
      entity ∈ memory.entities ∧ criteria.matchesEntity entity = true :=
    (List.mergeSort_perm _ _).mem_iff.trans List.mem_filter
  obtain ⟨states, notLeasedAt, due, leasedBy, limit, offset, order⟩ := criteria
  cases order with
  | ascending => exact listed
  | descending => exact List.mem_reverse.trans listed

/-- **The whole list is strictly in the order of the criteria.** -/
theorem pairwise_query_whole : (memory.query criteria.whole).Pairwise criteria.order.Places := by
  have ordered := memory.pairwise_sorted_isOlder criteria
  obtain ⟨states, notLeasedAt, due, leasedBy, limit, offset, order⟩ := criteria
  cases order with
  | ascending => exact ordered
  | descending => exact List.pairwise_reverse.mpr ordered

/-- **A query holds a piece of the whole list.** -/
theorem getElem?_query (place : Nat) :
    (memory.query criteria)[place]? =
      if criteria.limit.all (place < ·) then
        (memory.query criteria.whole)[criteria.offset + place]?
      else none :=
  getElem?_pageOf _ _ _ _ place

/-- **Stores with the same entities answer alike.** -/
theorem query_congr {other : Memory S P} (same : other.entities.Perm memory.entities) :
    other.query criteria = memory.query criteria := by
  have alike : other.sorted criteria = memory.sorted criteria :=
    mergeSort_congr (same.filter _) (other.nodup_selected criteria)
  unfold sorted at alike
  unfold query Criteria.arrange pageOf
  rw [alike]

/-- **The first pages together are the beginning of the whole list.** -/
theorem flatMap_query_page (length pages : Nat) :
    (List.range pages).flatMap (fun number => memory.query (criteria.page length number)) =
      (memory.query criteria.whole).take (pages * length) :=
  flatMap_drop_take (memory.query criteria.whole) length pages

/-- **A query is a page of one list.** Without an offset and a limit it hands out exactly what the
criteria select, each entity once and strictly in order; descending it is the ascending list
reversed. With them it hands out the places from the offset on and up to the limit. It does not
depend on the order in which the store holds its entities, and pages of one length, as many as are
needed, are the whole list together. -/
theorem query_exact :
    (∀ entity, entity ∈ memory.query criteria.whole ↔
      entity ∈ memory.entities ∧ criteria.matchesEntity entity = true) ∧
    ((memory.query criteria.whole).map (·.id)).Nodup ∧
    (memory.query criteria.whole).Pairwise criteria.order.Places ∧
    memory.query { criteria.whole with order := .descending } =
      (memory.query { criteria.whole with order := .ascending }).reverse ∧
    (∀ place : Nat, (memory.query criteria)[place]? =
      if criteria.limit.all (place < ·) then
        (memory.query criteria.whole)[criteria.offset + place]?
      else none) ∧
    (∀ other : Memory S P, other.entities.Perm memory.entities →
      other.query criteria = memory.query criteria) ∧
    ∀ length, 0 < length → ∀ pages, (memory.query criteria.whole).length ≤ pages * length →
      (List.range pages).flatMap (fun number => memory.query (criteria.page length number)) =
        memory.query criteria.whole := by
  refine ⟨fun entity => memory.mem_query_whole criteria, memory.nodup_query criteria.whole,
    memory.pairwise_query_whole criteria, rfl, memory.getElem?_query criteria,
    fun other => memory.query_congr criteria, fun length positive pages enough => ?_⟩
  rw [flatMap_query_page, List.take_of_length_le enough]

section Tied

/-- An entity that came into its state at an instant. -/
def since (instant : Instant) (id : String) : Entity Unit Unit :=
  .fresh id () () Dictionary.empty instant

/-- An entity, and two others of one later instant. The ids of these have one character each, and
which one is smaller depends on the encoding. -/
def tied : Memory Unit Unit :=
  ⟨[since { nanos := 1 } "𝔸", since { nanos := 1 } "ﬀ", since Instant.epoch "zero"],
    by decide⟩

/-- The entities the other way round, which is their order. -/
def tiedReversed : Memory Unit Unit := ⟨tied.entities.reverse, by decide⟩

theorem query_tiedReversed : tiedReversed.query {} = tiedReversed.entities :=
  List.mergeSort_of_pairwise (by decide)

/-- All entities in pages of two. -/
theorem query_exact_tied :
    tied.query {} = tied.entities.reverse ∧
      (tied.query { offset := 1, limit := some 1 })[0]? = tied.entities[1]? ∧
      (List.range 2).flatMap (fun number => tied.query (({} : Criteria Unit).page 2 number)) =
        tied.query {} := by
  obtain ⟨-, -, -, -, -, alike, paged⟩ := tied.query_exact {}
  obtain ⟨-, -, -, -, places, -, -⟩ := tied.query_exact { offset := 1, limit := some 1 }
  have all : tied.query {} = tied.entities.reverse :=
    (alike tiedReversed (List.reverse_perm _)).symm.trans query_tiedReversed
  refine ⟨all, ?_, paged 2 (by decide) 2 ?_⟩
  · rw [places]
    exact congrArg (·[1]?) all
  · exact (congrArg List.length all).le.trans (by decide)

end Tied

end Memory

end Leasehold
