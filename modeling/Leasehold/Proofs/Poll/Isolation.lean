/-
**Rows that cannot be read, and the polls of an engine.**

A poll hands out all rows that it selects or none. So a row that cannot be read does no harm as long
as it is not selected: the poll does to the other rows what it would do without this row. Once it is
selected, the poll fails, and nobody is worked on.

* `Desk`: a table and its surroundings, on which a member works;
* `Desk.Beside`: a desk with rows that another desk does not have;
* `isBlind_perform`: operations on other rows do not see these rows;
* `query_beside`, `query_of_unreadable`: a query with and without such a row;
* `poll_beside`: a poll does not see rows that it does not select;
* `poll_beside_unreadable`: what a poll does next to rows that cannot be read;
* `sound_row_is_stuck`: a row that can be read, and waits for ever next to one that cannot.
-/

import Leasehold.Proofs.Poll.Blindness
import Leasehold.Proofs.Store.Failure
import Leasehold.Proofs.Store.Page
import Mathlib

set_option linter.unusedSectionVars false

namespace Leasehold

variable {ε S P Call : Type} {Response : Call → Type} [DecidableEq S] [ProcessState S] [Payload P]

/-! ### Desks -/

/-- A table and what surrounds it. -/
structure Desk (ε : Type) where
  table : Table
  surroundings : ε

namespace Desk

/-- The store of a desk. -/
def perform (elapse : ε → ε) : Backend (Desk ε) S P := fun operation desk =>
  ((Table.run operation desk.table).1,
    ⟨(Table.run operation desk.table).2, elapse desk.surroundings⟩)

end Desk

/-- What is around an engine does not reach the table. -/
def World.onDesk (world : World ε Call Response) : World (Desk ε) Call Response where
  now desk := world.now desk.surroundings
  tick millis desk := ((), ⟨desk.table, (world.tick millis desk.surroundings).2⟩)
  log entry desk := ((), ⟨desk.table, (world.log entry desk.surroundings).2⟩)
  emit transition desk := ((), ⟨desk.table, (world.emit transition desk.surroundings).2⟩)
  call request desk := ((world.call request desk.surroundings).1,
    ⟨desk.table, (world.call request desk.surroundings).2⟩)

namespace Member

variable (member : Member ε S P Call Response)

/-- The engine of a member, on the table of a desk. -/
def deskEngine : Engine (Desk ε) S P Call Response where
  store := Desk.perform member.elapse
  registry := member.registry
  config := member.config
  holder := member.holder
  sound := member.sound

/-- A poll of a member at a desk. -/
def pollDesk (limit : Nat) (permits : Permits) (desk : Desk ε) :
    (Except StoreError CycleReport × Permits) × Desk ε :=
  member.deskEngine.poll member.world.onDesk limit permits desk

/-- What a member looks for at a desk. -/
def wanted (desk : Desk ε) : Criteria S :=
  member.deskEngine.criteria (member.world.now desk.surroundings)

end Member

/-! ### Rows beside others -/

variable (own : String → Bool) (aside : List Row)

/-- A desk with the rows of another one, and further rows beside them. -/
structure Desk.Beside (one other : Desk ε) : Prop where
  rows : other.table.rows.filter (own ·.id) = one.table.rows
  aside : (other.table.rows.filter fun row => !own row.id) = aside
  surroundings : other.surroundings = one.surroundings

variable {own aside} {one other : Desk ε}

namespace Desk.Beside

/-- The row with an own id is the same on both desks. -/
theorem find? (beside : one.Beside own aside other) {id : String} (about : own id = true) :
    other.table.find? id = one.table.find? id := by
  unfold Table.find?
  rw [← beside.rows, List.find?_filter]
  congr 1
  funext row
  by_cases same : row.id = id
  · rw [same, about]
    simp only [beq_self_eq_true, true_and, decide_true]
  · rw [beq_eq_false_iff_ne.mpr same]
    simp only [Bool.false_eq_true, and_false, decide_false]

/-- Surroundings may change, on both desks alike. -/
theorem surround (beside : one.Beside own aside other) (surroundings : ε) :
    Desk.Beside own aside ⟨one.table, surroundings⟩ ⟨other.table, surroundings⟩ :=
  ⟨beside.rows, beside.aside, rfl⟩

/-- A row with an own id is written on both desks. -/
theorem put (beside : one.Beside own aside other) {row : Row} (about : own row.id = true)
    (surroundings : ε) :
    Desk.Beside own aside ⟨one.table.put row, surroundings⟩ ⟨other.table.put row, surroundings⟩ := by
  have keeps : ∀ stored : Row, own (if stored.id = row.id then row else stored).id = own stored.id := by
    intro stored
    split
    · next same => rw [same]
    · rfl
  refine ⟨?_, ?_, rfl⟩
  · show (other.table.rows.map _).filter _ = one.table.rows.map _
    rw [← beside.rows, List.filter_map]
    congr 1
    exact List.filter_congr fun stored _ => keeps stored
  · show (other.table.rows.map _).filter _ = aside
    rw [← beside.aside, List.filter_map]
    have apart : other.table.rows.filter ((fun row => !own row.id) ∘
        fun stored => if stored.id = row.id then row else stored) =
        other.table.rows.filter fun stored => !own stored.id :=
      List.filter_congr fun stored _ => congrArg Bool.not (keeps stored)
    rw [apart]
    refine (List.map_congr_left fun stored listed => if_neg fun same => ?_).trans (List.map_id _)
    have foreign := List.of_mem_filter listed
    rw [same, about] at foreign
    cases foreign

/-- **An operation on an own id does not see the rows aside**, and leaves them there. -/
theorem run (beside : one.Beside own aside other) {operation : Operation S P}
    (within : operation.IsWithin (own · = true)) (surroundings : ε) :
    (Table.run operation other.table).1 = (Table.run operation one.table).1 ∧
      Desk.Beside own aside ⟨(Table.run operation one.table).2, surroundings⟩
        ⟨(Table.run operation other.table).2, surroundings⟩ := by
  have stays := beside.surround surroundings
  have missed : ∀ {id}, own id = true → other.table.claimMissed id = one.table.claimMissed id := by
    intro id about
    unfold Table.claimMissed
    rw [beside.find? about]
  cases operation with
  | find id =>
    simp only [Table.run, beside.find? within]
    cases one.table.find? id with
    | none => exact ⟨rfl, stays⟩
    | some row => exact ⟨rfl, stays⟩
  | update entity =>
    simp only [Table.run, Table.update, beside.find? within]
    cases found : one.table.find? entity.id with
    | none => exact ⟨rfl, stays⟩
    | some stored =>
      dsimp only
      split
      · refine ⟨rfl, beside.put ?_ surroundings⟩
        exact within
      · exact ⟨rfl, stays⟩
  | lease id holder duration now =>
    simp only [Table.run, Table.lease, beside.find? within, missed within]
    cases met : (one.table.find? id).filter (·.isFreeAt now.millis) with
    | none => exact ⟨rfl, stays⟩
    | some stored =>
      have named : stored.id = id := Table.id_of_find? (Option.filter_eq_some_iff.mp met).1
      refine ⟨rfl, beside.put ?_ surroundings⟩
      show own stored.id = true
      rw [named]
      exact within
  | release id holder =>
    simp only [Table.run, Table.release, beside.find? within]
    cases met : (one.table.find? id).filter (·.leaseHolder == some holder) with
    | none => exact ⟨rfl, stays⟩
    | some stored =>
      have named : stored.id = id := Table.id_of_find? (Option.filter_eq_some_iff.mp met).1
      refine ⟨rfl, beside.put ?_ surroundings⟩
      show own stored.id = true
      rw [named]
      exact within
  | create _ | query _ | renew _ _ _ _ | releaseAll _ | cancelIfFree _ _ _ _
  | requestCancel _ _ => cases within

end Desk.Beside

/-- The engine of a member does not see the rows aside. -/
theorem Member.isBlindTo_deskEngine (member : Member ε S P Call Response) :
    member.deskEngine.IsBlindTo (Desk.Beside own aside) (own · = true) where
  store operation within one other beside := by
    obtain ⟨answers, stays⟩ := beside.run within (member.elapse one.surroundings)
    refine ⟨answers.symm, trivial, ?_⟩
    show Desk.Beside own aside ⟨_, member.elapse one.surroundings⟩
      ⟨_, member.elapse other.surroundings⟩
    rw [beside.surroundings]
    exact stays
  leased {id _ duration now desk leased} answered := by
    have answered : (Table.lease id _ duration now desk.table :
      Except StoreError (Entity S P) × Table).1 = .ok leased := answered
    unfold Table.lease at answered
    split at answered
    · next stored met =>
      have named : stored.id = id := Table.id_of_find? (Option.filter_eq_some_iff.mp met).1
      exact (Row.load_eq_ok_iff.mp answered).2.id.trans named
    · cases answered

/-- What changes the surroundings alone does not see the rows aside. -/
theorem Desk.Beside.isBlind {α : Type} (change : StateM ε α) :
    IsBlind (Desk.Beside own aside) (fun _ => True) fun desk =>
      ((change desk.surroundings).1, ⟨desk.table, (change desk.surroundings).2⟩) := by
  intro one other beside
  dsimp only
  rw [beside.surroundings]
  exact ⟨rfl, trivial, beside.surround _⟩

/-- What surrounds a desk does not see the rows aside. -/
theorem World.isBlindTo_onDesk (world : World ε Call Response) :
    world.onDesk.IsBlindTo (Desk.Beside own aside) where
  now _ _ beside := congrArg world.now beside.surroundings.symm
  tick millis := Desk.Beside.isBlind (world.tick millis)
  log entry := Desk.Beside.isBlind (world.log entry)
  emit transition := Desk.Beside.isBlind (world.emit transition)
  call request := Desk.Beside.isBlind (world.call request)

/-! ### Queries -/

section Records

variable {α β φ : Type} {read : α → Except φ β} {records : List α}

/-- Records that can all be read are read one after the other. -/
theorem mapM_of_ok (reads : ∀ record ∈ records, ∃ result, read record = .ok result) :
    ∃ results, records.mapM read = .ok results ∧
      ∀ result ∈ results, ∃ record ∈ records, read record = .ok result := by
  induction records with
  | nil => exact ⟨[], rfl, fun _ listed => by cases listed⟩
  | cons record rest ih =>
    obtain ⟨result, first⟩ := reads record List.mem_cons_self
    obtain ⟨results, later, come⟩ := ih fun other listed =>
      reads other (List.mem_cons_of_mem record listed)
    refine ⟨result :: results, ?_, ?_⟩
    · rw [List.mapM_cons, first, later]
      rfl
    · intro other listed
      rcases List.mem_cons.mp listed with rfl | behind
      · exact ⟨record, List.mem_cons_self, first⟩
      · obtain ⟨source, there, reads⟩ := come other behind
        exact ⟨source, List.mem_cons_of_mem record there, reads⟩

/-- Records are read only if every one of them can be read. -/
theorem ok_of_mapM {results : List β} (reads : records.mapM read = .ok results) :
    ∀ record ∈ records, ∃ result, read record = .ok result := by
  induction records generalizing results with
  | nil => exact fun _ listed => by cases listed
  | cons record rest ih =>
    rw [List.mapM_cons] at reads
    obtain ⟨result, first, reads⟩ := Draft.ok_of_bind reads
    obtain ⟨others, later, _⟩ := Draft.ok_of_bind reads
    intro other listed
    rcases List.mem_cons.mp listed with rfl | behind
    · exact ⟨result, first⟩
    · exact ih later other behind

end Records

namespace Table

variable {table : Table} {criteria : Criteria S} {row : Row}

/-- A readable row is handed out as its columns are read. -/
theorem load_of_isReadable (readable : row.isReadable = true) :
    (row.load : Except StoreError (Entity S P)) = row.toEntity :=
  if_pos readable

/-- Rows that can all be read are handed out. -/
theorem query_of_loads (found : table.lacksCutoff criteria = false)
    (loads : ∀ row ∈ table.select criteria, row.Loads S P) :
    ∃ selection : List (Entity S P), table.query criteria = .ok selection ∧
      ∀ entity ∈ selection, ∃ row ∈ table.select criteria, entity.id = row.id := by
  have readable : ∀ row ∈ table.select criteria, row.isReadable = true := by
    intro row listed
    obtain ⟨entity, loaded⟩ := loads row listed
    exact (Row.load_eq_ok_iff.mp loaded).1
  have reads : ∀ row ∈ table.select criteria, ∃ entity : Entity S P, row.toEntity = .ok entity := by
    intro row listed
    rw [← load_of_isReadable (readable row listed)]
    exact loads row listed
  obtain ⟨selection, answered, come⟩ := mapM_of_ok reads
  refine ⟨selection, ?_, fun entity chosen => ?_⟩
  · unfold query
    dsimp only
    rw [found, if_neg Bool.false_ne_true, if_pos (List.all_eq_true.mpr readable)]
    exact answered
  · obtain ⟨row, listed, read⟩ := come entity chosen
    rw [← load_of_isReadable (readable row listed)] at read
    exact ⟨row, listed, (Row.load_eq_ok_iff.mp read).2.id⟩

/-- A page with a row that cannot be read is not handed out. -/
theorem query_of_unreadable (listed : row ∈ table.select criteria) (unreadable : ¬row.Loads S P) :
    ∃ error, (table.query criteria : Except StoreError (List (Entity S P))) = .error error := by
  cases answered : (table.query criteria : Except StoreError (List (Entity S P))) with
  | error error => exact ⟨error, rfl⟩
  | ok selection =>
    unfold query at answered
    dsimp only at answered
    split at answered
    · cases answered
    · split at answered
      · next readable =>
        have loads := ok_of_mapM answered row listed
        rw [← load_of_isReadable (List.all_eq_true.mp readable row listed)] at loads
        exact absurd loads unreadable
      · cases answered

/-- A row that can be read has a count for which there is a cutoff. -/
theorem stateCount_of_loads (loads : row.Loads S P) : 0 ≤ row.stateCount := by
  obtain ⟨entity, loaded⟩ := loads
  have counted := (Row.load_eq_ok_iff.mp loaded).2.stateCount
  unfold Row.readCount at counted
  split at counted
  · next bounded => exact bounded.1
  · cases counted

/-- Only a row that cannot be read, and is selected, has no cutoff. -/
theorem lacksCutoff_eq_false (unleased : criteria.leasedBy = none)
    (loads : ∀ row ∈ table.rows, row.isSelected criteria = true → row.Loads S P) :
    table.lacksCutoff criteria = false := by
  unfold lacksCutoff
  rw [Bool.and_eq_false_iff]
  refine .inr (List.any_eq_false.mpr fun row listed lacks => ?_)
  obtain ⟨candidate, negative⟩ := Bool.and_eq_true_iff.mp lacks
  have below := of_decide_eq_true negative
  have selected : row.isSelected criteria = true := by
    have none : ∀ due, row.cutoff? due = none := fun due => if_pos below
    unfold Row.isSelected
    rw [candidate, unleased]
    cases criteria.due with
    | none => rfl
    | some due =>
      show (true && (row.cutoff? due).all _ && true) = true
      rw [none due]
      rfl
  have counted := stateCount_of_loads (loads row listed selected)
  omega

/-- The rows of a page are selected rows of the table. -/
theorem mem_select (listed : row ∈ table.select criteria) :
    row ∈ table.rows ∧ row.isSelected criteria = true :=
  List.mem_filter.mp ((subperm_pageOf _ _ _ _).subset listed)

/-- All selected rows are on the page, if it has room for them. -/
theorem mem_select_of_fits (criteria : Criteria S) {count : Nat} (page : criteria.limit = some count)
    (start : criteria.offset = 0) (order : criteria.order = .ascending)
    (fits : table.rows.countP (·.isSelected criteria) ≤ count) (listed : row ∈ table.rows)
    (selected : row.isSelected criteria = true) : row ∈ table.select criteria := by
  unfold select pageOf
  rw [page, start, order]
  show row ∈ ((List.mergeSort _ _).drop 0).take count
  have same := List.mergeSort_perm (table.rows.filter (·.isSelected criteria))
    (notAfter (·.stateTimestamp) (·.id))
  rw [List.drop_zero, List.take_of_length_le]
  · exact same.symm.subset (List.mem_filter.mpr ⟨listed, selected⟩)
  · rw [same.length_eq, ← List.countP_eq_length_filter]
    exact fits

end Table

/-! ### Polls next to rows that cannot be read -/

/-- **A query does not see rows aside** that it does not select. -/
theorem Desk.Beside.select (beside : one.Beside own aside other) {criteria : Criteria S}
    (unselected : ∀ row ∈ aside, row.isSelected criteria = false) :
    other.table.select criteria = one.table.select criteria := by
  have same : other.table.rows.filter (·.isSelected criteria) =
      one.table.rows.filter (·.isSelected criteria) := by
    rw [← beside.rows, List.filter_filter]
    refine List.filter_congr fun row listed => ?_
    cases selected : row.isSelected criteria with
    | false => rfl
    | true =>
      rw [Bool.true_and]
      by_contra foreign
      have there : row ∈ aside := by
        rw [← beside.aside]
        exact List.mem_filter.mpr ⟨listed, by simpa using Ne.symm foreign⟩
      rw [unselected row there] at selected
      cases selected
  unfold Table.select
  rw [same]

namespace Table

variable (S P) in
/-- The rows that can be read. -/
def readable (table : Table) : Table where
  rows := table.rows.filter (·.Loads S P)
  distinct := table.distinct.sublist (List.filter_sublist.map _)

/-- Whether a table has a row with an id. -/
def names (table : Table) (id : String) : Bool := table.rows.any (·.id = id)

/-- The rows that can be read have their ids for themselves. -/
theorem names_readable {table : Table} {row : Row} (listed : row ∈ table.rows) :
    (table.readable S P).names row.id = decide (row.Loads S P) := by
  rw [Bool.eq_iff_iff, decide_eq_true_iff]
  unfold names
  rw [List.any_eq_true]
  constructor
  · rintro ⟨other, there, sameId⟩
    obtain ⟨stored, loads⟩ := List.mem_filter.mp there
    have same := List.inj_on_of_nodup_map table.distinct stored listed (of_decide_eq_true sameId)
    rw [← same]
    exact of_decide_eq_true loads
  · intro loads
    exact ⟨row, List.mem_filter.mpr ⟨listed, decide_eq_true loads⟩, decide_eq_true rfl⟩

end Table

variable (S P) in
/-- A desk with the rows that can be read, and the others beside them. -/
theorem Desk.beside_readable (desk : Desk ε) :
    Desk.Beside (desk.table.readable S P).names
      (desk.table.rows.filter fun row => !decide (row.Loads S P))
      ⟨desk.table.readable S P, desk.surroundings⟩ desk where
  rows := List.filter_congr fun _ listed => Table.names_readable listed
  aside := List.filter_congr fun _ listed => congrArg Bool.not (Table.names_readable listed)
  surroundings := rfl

namespace Member

variable (member : Member ε S P Call Response) (limit : Nat) (permits : Permits) (desk : Desk ε)

/-- What a member selects at a desk. -/
theorem select_deskEngine :
    member.deskEngine.select member.world.onDesk desk =
      (desk.table.query (member.wanted desk), ⟨desk.table, member.elapse desk.surroundings⟩) :=
  rfl

/-- **A poll does not see rows that cannot be read**, as long as it does not select them. -/
theorem poll_beside
    (unselected : ∀ row ∈ desk.table.rows, ¬row.Loads S P →
      row.isSelected (member.wanted desk) = false) :
    (∃ report, (member.pollDesk limit permits desk).1.1 = .ok report) ∧
      (member.pollDesk limit permits ⟨desk.table.readable S P, desk.surroundings⟩).1 =
        (member.pollDesk limit permits desk).1 ∧
      Desk.Beside (desk.table.readable S P).names
        (desk.table.rows.filter fun row => !decide (row.Loads S P))
        (member.pollDesk limit permits ⟨desk.table.readable S P, desk.surroundings⟩).2
        (member.pollDesk limit permits desk).2 := by
  have beside := desk.beside_readable S P
  have loads : ∀ row ∈ desk.table.rows, row.isSelected (member.wanted desk) = true →
      row.Loads S P := by
    intro row listed selected
    by_contra unreadable
    rw [unselected row listed unreadable] at selected
    cases selected
  have pages : desk.table.select (member.wanted desk) =
      (desk.table.readable S P).select (member.wanted desk) := by
    refine beside.select fun row there => ?_
    obtain ⟨listed, unreadable⟩ := List.mem_filter.mp there
    exact unselected row listed (by simpa using unreadable)
  have found : desk.table.lacksCutoff (member.wanted desk) = false :=
    Table.lacksCutoff_eq_false rfl loads
  have foundAlone : (desk.table.readable S P).lacksCutoff (member.wanted desk) = false :=
    Table.lacksCutoff_eq_false rfl fun row listed _ =>
      of_decide_eq_true (List.mem_filter.mp listed).2
  obtain ⟨selection, answered, come⟩ := Table.query_of_loads (P := P) found fun row listed =>
    loads row (Table.mem_select listed).1 (Table.mem_select listed).2
  have answeredAlone : (desk.table.readable S P).query (member.wanted desk) =
      (.ok selection : Except StoreError (List (Entity S P))) := by
    rw [← answered]
    unfold Table.query
    rw [pages, found, foundAlone]
  have own : ∀ entity ∈ selection, (desk.table.readable S P).names entity.id = true := by
    intro entity chosen
    obtain ⟨row, listed, sameId⟩ := come entity chosen
    obtain ⟨stored, selected⟩ := Table.mem_select listed
    rw [sameId, Table.names_readable stored]
    exact decide_eq_true (loads row stored selected)
  have selects : (member.deskEngine.select member.world.onDesk desk).1 = .ok selection := answered
  have selectsAlone : (member.deskEngine.select member.world.onDesk
    ⟨desk.table.readable S P, desk.surroundings⟩).1 = .ok selection := answeredAlone
  obtain ⟨⟨report, ended⟩, same, after⟩ := Engine.poll_blind member.isBlindTo_deskEngine
    member.world.isBlindTo_onDesk limit permits own selectsAlone selects
    (beside.surround (member.elapse desk.surroundings))
  exact ⟨⟨report, (congrArg Prod.fst same).symm.trans ended⟩, same, after⟩

/-- **A poll that selects a row that cannot be read fails**, and does nothing. -/
theorem poll_of_unreadable
    (fits : desk.table.rows.countP (·.isSelected (member.wanted desk)) ≤ member.config.batchSize)
    {row : Row} (listed : row ∈ desk.table.rows) (unreadable : ¬row.Loads S P)
    (selected : row.isSelected (member.wanted desk) = true) :
    ∃ error, member.pollDesk limit permits desk =
      ((.error error, permits), ⟨desk.table, member.elapse desk.surroundings⟩) := by
  have onPage := Table.mem_select_of_fits (member.wanted desk) rfl rfl rfl fits listed selected
  obtain ⟨error, answered⟩ := Table.query_of_unreadable onPage unreadable
  refine ⟨error, ?_⟩
  unfold pollDesk Engine.poll
  rw [Engine.bind_apply, select_deskEngine, answered]
  rfl

/-- **What a poll does next to rows that cannot be read.** If the batch has room for all rows that
are due, and no row that cannot be read is due, then the poll does to the others what it would do
to them alone, and leaves these rows as they are. If such a row is due, then the poll fails, and the
table stays as it is. -/
theorem poll_beside_unreadable
    (fits : desk.table.rows.countP (·.isSelected (member.wanted desk)) ≤ member.config.batchSize) :
    ((∀ row ∈ desk.table.rows, ¬row.Loads S P → row.isSelected (member.wanted desk) = false) →
      (∃ report, (member.pollDesk limit permits desk).1.1 = .ok report) ∧
        (member.pollDesk limit permits ⟨desk.table.readable S P, desk.surroundings⟩).1 =
          (member.pollDesk limit permits desk).1 ∧
        Desk.Beside (desk.table.readable S P).names
          (desk.table.rows.filter fun row => !decide (row.Loads S P))
          (member.pollDesk limit permits ⟨desk.table.readable S P, desk.surroundings⟩).2
          (member.pollDesk limit permits desk).2) ∧
      ((∃ row ∈ desk.table.rows, ¬row.Loads S P ∧ row.isSelected (member.wanted desk) = true) →
        (∃ error, (member.pollDesk limit permits desk).1.1 = .error error) ∧
          (member.pollDesk limit permits desk).2.table = desk.table) := by
  refine ⟨member.poll_beside limit permits desk, ?_⟩
  rintro ⟨row, listed, unreadable, selected⟩
  obtain ⟨error, fails⟩ := member.poll_of_unreadable limit permits desk fits listed unreadable selected
  rw [fails]
  exact ⟨⟨error, rfl⟩, rfl⟩

end Member

section Neighbours

open Rehearsal

/-- The state with a number, or with the largest one. -/
def numbered (number : Nat) : Numbered := ⟨min number 999, by omega, by omega⟩

/-- A registry whose handler lets every entity pass at once. -/
def passing : Registry Numbered Anything Empty (fun _ => Unit) where
  entityType := "numbered"
  initial := numbered 100
  failed := numbered 400
  cancelled := numbered 500
  terminal := [numbered 300, numbered 400, numbered 500]
  transitions := [(numbered 100, [numbered 300])]
  registrations := [⟨numbered 100, [numbered 300], fun entity =>
    .done (.decided (.success (numbered 300) entity.payload))⟩]

/-- A member that polls a hundred seconds after the epoch. -/
def passer : Member Unit Numbered Anything Empty (fun _ => Unit) where
  registry := passing
  config := {}
  holder := "first"
  sound := rfl
  world := {
    now := fun _ => Instant.epoch.plus { nanos := 100000000000 }
    tick := fun _ => pure ()
    log := fun _ => pure ()
    emit := fun _ => pure ()
    call := fun request => nomatch request }
  elapse := id

/-- A row that can be read. -/
def soundRow : Row := { Table.brokenRow with id := "sound", payload := "null" }

/-- The broken row, with a lease that lasts for long. -/
def heldRow : Row :=
  { Table.brokenRow with leaseHolder := some "second", leaseExpiry := some 1000000000 }

/-- A desk with a row that can be read, and another row. -/
def deskWith (row : Row) (other : row.id = "broken") : Desk Unit :=
  ⟨⟨[soundRow, row], by rw [List.map_cons, List.map_cons, other]; decide⟩, ()⟩

theorem loads_soundRow : soundRow.Loads Numbered Anything := ⟨_, by cbv⟩

theorem handledStates_passing : passing.handledStates = [passing.initial] := by
  show (List.mergeSort [passing.initial] _).eraseDups = _
  rw [List.mergeSort_singleton]
  rfl

/-- The broken row cannot be read, whatever its lease is. -/
theorem not_loads_brokenRow : ¬Table.brokenRow.Loads Numbered Anything := by
  rintro ⟨entity, loaded⟩
  have payload := (Row.load_eq_ok_iff.mp loaded).2.payload
  have fails : (Table.brokenRow.readPayload : Except StoreError Anything) =
    .error (.serialization "invalid payload") := by cbv
  rw [fails] at payload
  cases payload

theorem states_wanted (desk : Desk Unit) :
    (passer.wanted desk).states = some [passing.initial] :=
  congrArg some handledStates_passing

theorem isSelected_brokenRow (desk : Desk Unit) :
    Table.brokenRow.isSelected (passer.wanted desk) = true := by
  unfold Row.isSelected Row.isCandidate
  rw [states_wanted]
  rfl

theorem isSelected_heldRow (desk : Desk Unit) :
    heldRow.isSelected (passer.wanted desk) = false := by
  unfold Row.isSelected Row.isCandidate
  rw [states_wanted]
  rfl

/-- The batch of the member has room for both rows of a desk. -/
theorem fits_deskWith (row : Row) (other : row.id = "broken") :
    (deskWith row other).table.rows.countP (·.isSelected (passer.wanted (deskWith row other))) ≤
      passer.config.batchSize :=
  Nat.le_trans List.countP_le_length (show 2 ≤ 5 by decide)

theorem poll_beside_broken_rows :
    ((∃ report, (passer.pollDesk 0 .unneeded (deskWith heldRow rfl)).1.1 = .ok report) ∧
      (passer.pollDesk 0 .unneeded
          ⟨(deskWith heldRow rfl).table.readable Numbered Anything, ()⟩).1 =
        (passer.pollDesk 0 .unneeded (deskWith heldRow rfl)).1 ∧
      Desk.Beside ((deskWith heldRow rfl).table.readable Numbered Anything).names
        ((deskWith heldRow rfl).table.rows.filter fun row =>
          !decide (row.Loads Numbered Anything))
        (passer.pollDesk 0 .unneeded
          ⟨(deskWith heldRow rfl).table.readable Numbered Anything, ()⟩).2
        (passer.pollDesk 0 .unneeded (deskWith heldRow rfl)).2) ∧
      (∃ error, (passer.pollDesk 0 .unneeded (deskWith Table.brokenRow rfl)).1.1 = .error error) ∧
        (passer.pollDesk 0 .unneeded (deskWith Table.brokenRow rfl)).2.table =
          (deskWith Table.brokenRow rfl).table := by
  refine ⟨(passer.poll_beside_unreadable 0 .unneeded (deskWith heldRow rfl)
      (fits_deskWith heldRow rfl)).1 fun row listed unreadable => ?_,
    (passer.poll_beside_unreadable 0 .unneeded (deskWith Table.brokenRow rfl)
      (fits_deskWith Table.brokenRow rfl)).2 ⟨Table.brokenRow, ?_, not_loads_brokenRow,
        isSelected_brokenRow _⟩⟩
  · rcases List.mem_cons.mp listed with rfl | later
    · exact absurd loads_soundRow unreadable
    · rw [List.mem_singleton.mp later]
      exact isSelected_heldRow _
  · exact List.mem_cons_of_mem soundRow List.mem_cons_self

/-- **A row that can be read is stuck** next to the broken row. Nobody works on it, although it is
due and the batch has room for both. -/
theorem sound_row_is_stuck :
    ¬∀ desk : Desk Unit,
      (∀ row ∈ desk.table.rows, ¬row.Loads Numbered Anything →
        ∃ state ∈ passing.handledStates, code state = row.state) →
      desk.table.rows.countP (·.isSelected (passer.wanted desk)) ≤ passer.config.batchSize →
      (∃ report, (passer.pollDesk 0 .unneeded desk).1.1 = .ok report) ∧
        (passer.pollDesk 0 .unneeded desk).2.table.rows.filter
            (fun row => (desk.table.readable Numbered Anything).names row.id) =
          (passer.pollDesk 0 .unneeded ⟨desk.table.readable Numbered Anything, ()⟩).2.table.rows := by
  intro isolated
  have there : Table.brokenRow ∈ (deskWith Table.brokenRow rfl).table.rows :=
    List.mem_cons_of_mem soundRow List.mem_cons_self
  obtain ⟨⟨report, polled⟩, _⟩ := isolated (deskWith Table.brokenRow rfl)
    (fun row listed _ => ⟨passing.initial, by rw [handledStates_passing]; exact List.mem_cons_self,
      by rcases List.mem_cons.mp listed with rfl | later
         · rfl
         · rw [List.mem_singleton.mp later]; rfl⟩)
    (fits_deskWith Table.brokenRow rfl)
  obtain ⟨error, fails⟩ := passer.poll_of_unreadable 0 .unneeded (deskWith Table.brokenRow rfl)
    (fits_deskWith Table.brokenRow rfl) there not_loads_brokenRow (isSelected_brokenRow _)
  rw [fails] at polled
  cases polled

end Neighbours

end Leasehold
