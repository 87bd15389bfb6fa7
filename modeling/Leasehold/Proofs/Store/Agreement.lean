/-
**Two stores that answer alike.**

The store in a table keeps rows in the place of entities. Both stores give the same answers, as long
as rows say all about their entities:

* `Operation.Fits`: the instants and entities that an operation passes on can be kept in rows;
* `Table.Mirrors`: the table holds the rows of the entities, in the same order;
* `run_agrees`: an operation on both gives the same answer and keeps the rows in step;
* `stores_agree`: from empty stores on, any operations give the same answers.

Queries may ask about any instant. Versions have to stay below the largest one of 64 bits.
-/

import Leasehold.Proofs.Store.Codec
import Leasehold.Proofs.Store.Page
import Leasehold.Proofs.Store.Version
import Leasehold.Rehearsal.Numbered
import Mathlib

set_option linter.unusedSectionVars false

namespace Leasehold

variable {S P : Type} [DecidableEq S] [ProcessState S] [Payload P]

/-! ### What rows can keep -/

namespace Operation

/-- Whether rows can keep what an operation writes: storable entities, and instants and durations in
whole milliseconds. -/
def Fits : Operation S P → Prop
  | .create entity | .update entity => entity.IsStorable
  | .lease _ _ duration now | .renew _ _ duration now =>
    now.IsWhole ∧ duration.nanos % nanosPerMilli = 0 ∧ (now.plus? duration).isSome = true
  | .cancelIfFree _ _ _ now => now.IsWhole
  | .find _ | .query _ | .release _ _ | .releaseAll _ | .requestCancel _ _ => True

/-- An operation that fits makes storable entities of storable ones. -/
theorem isStorable_rewrite {operation : Operation S P} (fits : operation.Fits)
    {stored : Entity S P} (storable : stored.IsStorable) :
    (operation.rewrite stored).IsStorable := by
  have leased : ∀ {holder : String} {duration : Duration} {now : Instant},
      now.IsWhole ∧ duration.nanos % nanosPerMilli = 0 ∧ (now.plus? duration).isSome = true →
        ({ stored with
          lease := some (Lease.start holder now duration)
          version := stored.version + 1 } : Entity S P).IsStorable := by
    rintro holder duration now ⟨whole, wholeDuration, inRange⟩
    refine { storable with lease := fun lease held => ?_ }
    cases held
    exact whole.plus wholeDuration inRange
  cases operation with
  | find _ | create _ | query _ | requestCancel _ _ => exact storable
  | update result =>
    have result : result.IsStorable := fits
    exact { result with createdAt := storable.createdAt }
  | lease _ _ _ _ | renew _ _ _ _ => exact leased fits
  | release _ _ | releaseAll _ => exact { storable with lease := fun _ held => by cases held }
  | cancelIfFree _ _ _ now =>
    exact { storable with
      stateCount := Nat.two_pow_pos 32
      stateTimestamp := fits
      updatedAt := fits
      lease := fun _ held => by cases held }

/-- An operation that fits leaves storable entities storable. -/
theorem isStorable_revise {operation : Operation S P} (fits : operation.Fits)
    {stored : Entity S P} (storable : stored.IsStorable) :
    (operation.revise stored).IsStorable := by
  unfold revise
  split
  · exact isStorable_rewrite fits storable
  · split
    · exact { storable with }
    · exact storable

end Operation

namespace Memory

/-- All entities of a store are storable. -/
def IsStorable (memory : Memory S P) : Prop := ∀ entity ∈ memory.entities, entity.IsStorable

/-- All versions in a store are below the largest one of 64 bits. -/
def IsBounded (memory : Memory S P) : Prop :=
  ∀ entity ∈ memory.entities, entity.version < versionLimit - 1

/-- An operation that fits leaves a store storable. -/
theorem IsStorable.after {memory : Memory S P} (storable : memory.IsStorable)
    {operation : Operation S P} (fits : operation.Fits) : (memory.after operation).IsStorable := by
  intro entity member
  have found := find?_of_mem member
  rw [find?_after] at found
  rcases Option.or_eq_some_iff.mp found with there | ⟨_, added⟩
  · obtain ⟨stored, before, rfl⟩ := Option.map_eq_some_iff.mp there
    exact Operation.isStorable_revise fits (storable stored (List.mem_of_find?_eq_some before))
  · cases operation with
    | create created =>
      unfold Operation.addition? at added
      dsimp only at added
      split at added
      · cases added
        exact fits
      · cases added
    | _ => cases added

/-- A version is at most the number of operations, if entities are added with version zero. -/
theorem version_le_length {operations : List (Operation S P)}
    (fresh : ∀ entity, .create entity ∈ operations → entity.version = 0) {id : String}
    {stored : Entity S P} (found : (Memory.empty.replay operations).find? id = some stored) :
    stored.version ≤ operations.length := by
  induction operations using List.reverseRecOn generalizing stored with
  | nil => cases found
  | append_singleton past operation ih =>
    rw [replay_append, replay_cons, replay_nil, find?_after] at found
    rw [List.length_append, List.length_singleton]
    rcases Option.or_eq_some_iff.mp found with there | ⟨_, added⟩
    · obtain ⟨earlier, before, rfl⟩ := Option.map_eq_some_iff.mp there
      have least := ih (fun entity member => fresh entity (List.mem_append_left _ member)) before
      rw [Operation.version_revise]
      split <;> omega
    · cases operation with
      | create entity =>
        unfold Operation.addition? at added
        dsimp only at added
        split at added
        · cases added
          have zero := fresh stored (List.mem_append_right past List.mem_cons_self)
          omega
        · cases added
      | _ => cases added

/-- Fewer than `2 ^ 63 - 1` operations do not raise a version to the largest one. -/
theorem isBounded_replay {operations : List (Operation S P)}
    (fresh : ∀ entity, .create entity ∈ operations → entity.version = 0)
    (few : operations.length < versionLimit - 1) :
    (Memory.empty.replay operations).IsBounded := by
  intro entity member
  have least := version_le_length fresh (find?_of_mem member)
  omega

end Memory

/-! ### Tables that mirror a store -/

namespace Table

/-- A table holds the rows of the entities of a store, in the same order. -/
def Mirrors (table : Table) (memory : Memory S P) : Prop :=
  table.rows = memory.entities.map Row.ofEntity

variable {table : Table} {memory : Memory S P}

theorem Mirrors.find? (mirrors : table.Mirrors memory) (id : String) :
    table.find? id = (memory.find? id).map Row.ofEntity := by
  unfold Table.find? Memory.find?
  rw [mirrors, List.find?_map]
  rfl

/-- Changing rows as their entities are changed. -/
theorem Mirrors.mapRows (mirrors : table.Mirrors memory) {changeRow : Row → Row}
    {change : Entity S P → Entity S P} (keepsRow : ∀ row, (changeRow row).id = row.id)
    (keeps : ∀ entity, (change entity).id = entity.id)
    (same : ∀ entity ∈ memory.entities,
      changeRow (Row.ofEntity entity) = Row.ofEntity (change entity)) :
    (table.mapRows changeRow keepsRow).Mirrors (memory.mapEntities change keeps) := by
  show table.rows.map changeRow = (memory.entities.map change).map Row.ofEntity
  rw [mirrors, List.map_map, List.map_map]
  exact List.map_congr_left same

/-- Putting the row of an entity in place as the entity is. -/
theorem Mirrors.put (mirrors : table.Mirrors memory) (entity : Entity S P) :
    (table.put (Row.ofEntity entity)).Mirrors (memory.put entity) := by
  refine mirrors.mapRows _ _ fun stored _ => ?_
  have name : ∀ entity : Entity S P, (Row.ofEntity entity).id = entity.id := fun _ => rfl
  rw [name, name]
  split <;> rfl

/-- Adding the row of an entity as the entity is added. -/
theorem Mirrors.insertRow? (mirrors : table.Mirrors memory) (entity : Entity S P) :
    (table.insertRow? (Row.ofEntity entity) = none ∧ memory.add? entity = none) ∨
      ∃ grown larger, table.insertRow? (Row.ofEntity entity) = some grown ∧
        memory.add? entity = some larger ∧ grown.Mirrors larger := by
  have ids : table.rows.map (·.id) = memory.entities.map (·.id) := by
    rw [mirrors, List.map_map]
    rfl
  have name : (Row.ofEntity entity).id = entity.id := rfl
  unfold Table.insertRow? Memory.add?
  by_cases taken : entity.id ∈ memory.entities.map (·.id)
  · rw [dif_pos (by rw [ids]; exact taken), dif_pos taken]
    exact .inl ⟨rfl, rfl⟩
  · rw [dif_neg (by rw [ids]; exact taken), dif_neg taken]
    refine .inr ⟨_, _, rfl, rfl, ?_⟩
    show table.rows ++ [Row.ofEntity entity] = (memory.entities ++ [entity]).map Row.ofEntity
    rw [mirrors, List.map_append]
    rfl

/-! ### One operation -/

/-- An operation on both stores gives the same answer and keeps the rows in step. -/
def Agrees (table : Table) (memory : Memory S P) (operation : Operation S P) : Prop :=
  (Table.run operation table).1 = memory.answer operation ∧
    (Table.run operation table).2.Mirrors (memory.after operation)

/-- A table that mirrors a store whose entities rows can keep. -/
structure InStep (table : Table) (memory : Memory S P) : Prop where
  narrow : HasNarrowCodes S
  mirrors : table.Mirrors memory
  storable : memory.IsStorable
  bounded : memory.IsBounded

/-- Finding a row that meets a condition, where its entity meets the same. -/
theorem Mirrors.filter (mirrors : table.Mirrors memory) {id : String} {condition : Row → Bool}
    {same : Entity S P → Bool} (agrees : ∀ stored, memory.find? id = some stored →
      condition (Row.ofEntity stored) = same stored) :
    (table.find? id).filter condition = ((memory.find? id).filter same).map Row.ofEntity := by
  rw [mirrors.find?]
  cases found : memory.find? id with
  | none => rfl
  | some stored =>
    rw [Option.map_some, Option.filter_some, Option.filter_some, agrees stored found]
    split <;> rfl

namespace InStep

variable (inStep : table.InStep memory) {id : String} {stored : Entity S P}

include inStep

theorem isStorable (found : memory.find? id = some stored) : stored.IsStorable :=
  inStep.storable stored (List.mem_of_find?_eq_some found)

theorem version_lt (found : memory.find? id = some stored) :
    stored.version < versionLimit - 1 :=
  inStep.bounded stored (List.mem_of_find?_eq_some found)

theorem nextVersion_eq (found : memory.find? id = some stored) :
    nextVersion (Row.ofEntity stored).version = stored.version + 1 := by
  have below := inStep.version_lt found
  exact nextVersion_of_lt (by show stored.version < versionLimit; omega)

theorem isReadable (found : memory.find? id = some stored) :
    (Row.ofEntity stored).isReadable = true := by
  have below := inStep.version_lt found
  exact Row.isReadable_ofEntity inStep.narrow (by omega)

/-- Writing the row of a storable entity hands out the entity and keeps the rows in step. -/
theorem writeRow_ofEntity {entity : Entity S P} (storable : entity.IsStorable)
    (below : entity.version < versionLimit) :
    Table.writeRow (Row.ofEntity entity) table = (.ok entity, table.put (Row.ofEntity entity)) := by
  unfold writeRow
  rw [Row.load_ofEntity inStep.narrow storable below]

theorem agrees_find (id : String) : table.Agrees memory (.find id) := by
  have ran : Table.run (.find id : Operation S P) table = (.ok (memory.find? id), table) := by
    simp only [Table.run]
    rw [inStep.mirrors.find?]
    cases found : memory.find? id with
    | none => rfl
    | some stored =>
      have below := inStep.version_lt found
      rw [Option.map_some]
      dsimp only
      rw [Row.load_ofEntity inStep.narrow (inStep.isStorable found) (by omega)]
      rfl
  unfold Agrees
  rw [ran]
  exact ⟨rfl, inStep.mirrors⟩

theorem agrees_create (entity : Entity S P) : table.Agrees memory (.create entity) := by
  unfold Agrees Memory.answer Memory.after
  simp only [Table.run, Memory.run]
  rcases inStep.mirrors.insertRow? entity with
    ⟨refused, refused'⟩ | ⟨grown, larger, added, added', same⟩
  · rw [refused, refused']
    exact ⟨rfl, inStep.mirrors⟩
  · rw [added, added']
    exact ⟨rfl, same⟩

theorem agrees_update {result : Entity S P} (fits : result.IsStorable) :
    table.Agrees memory (.update result) := by
  show (Table.update result table).1 = (Memory.update result memory).1 ∧
    (Table.update result table).2.Mirrors (Memory.update result memory).2
  unfold Table.update
  rw [inStep.mirrors.find?]
  cases found : memory.find? result.id with
  | none =>
    unfold Memory.update
    rw [found]
    exact ⟨rfl, inStep.mirrors⟩
  | some stored =>
    rw [Memory.update_of_found found, Option.map_some]
    dsimp only
    have column : (Row.ofEntity stored).version = stored.version := rfl
    by_cases same : stored.version = result.version
    · have below := inStep.version_lt found
      have written : { Row.ofEntity result with
          createdAt := (Row.ofEntity stored).createdAt
          cancelRequested := (Row.ofEntity stored).cancelRequested
          version := nextVersion (Row.ofEntity stored).version } =
          Row.ofEntity ((Operation.update result).rewrite stored) := by
        rw [inStep.nextVersion_eq found, same]
        rfl
      have storable := Operation.isStorable_rewrite
        (show (Operation.update result).Fits from fits) (inStep.isStorable found)
      rw [if_pos (column.trans same), if_pos same, written,
        inStep.writeRow_ofEntity storable (by show result.version + 1 < _; omega)]
      exact ⟨rfl, inStep.mirrors.put _⟩
    · have differs : ¬(Row.ofEntity stored).version = result.version := same
      rw [if_neg same, if_neg differs]
      exact ⟨rfl, inStep.mirrors⟩

theorem claimMissed_of_found (found : memory.find? id = some stored) :
    table.claimMissed id = .leased id := by
  unfold claimMissed
  rw [inStep.mirrors.find?, found, Option.map_some]
  dsimp only
  rw [if_pos (inStep.isReadable found)]

theorem claimMissed_of_absent (missing : memory.find? id = none) :
    table.claimMissed id = .notFound id := by
  unfold claimMissed
  rw [inStep.mirrors.find?, missing]
  rfl

/-- **A claim on both stores.** Each store writes what meets a condition, and both conditions and
both changes are the same. -/
theorem claim_agrees {onTable : Except StoreError (Entity S P) × Table}
    {inMemory : Except StoreError (Entity S P) × Memory S P} {condition : Row → Bool}
    {same : Entity S P → Bool} {changeRow : Row → Row} {operation : Operation S P}
    (fits : operation.Fits)
    (onRows : onTable = match (table.find? id).filter condition with
      | some row => writeRow (changeRow row) table
      | none => (.error (table.claimMissed id), table))
    (onFound : ∀ stored, memory.find? id = some stored → inMemory =
      if same stored then (.ok (operation.rewrite stored), memory.put (operation.rewrite stored))
      else (.error (.leased id), memory))
    (onMissing : memory.find? id = none → inMemory = (.error (.notFound id), memory))
    (meets : ∀ stored, memory.find? id = some stored →
      condition (Row.ofEntity stored) = same stored)
    (changes : ∀ stored, memory.find? id = some stored → same stored = true →
      changeRow (Row.ofEntity stored) = Row.ofEntity (operation.rewrite stored))
    (raises : ∀ stored, (operation.rewrite stored).version = stored.version + 1) :
    onTable.1 = inMemory.1 ∧ onTable.2.Mirrors inMemory.2 := by
  rw [onRows, inStep.mirrors.filter meets]
  cases found : memory.find? id with
  | none =>
    rw [onMissing found, Option.filter_none, Option.map_none, inStep.claimMissed_of_absent found]
    exact ⟨rfl, inStep.mirrors⟩
  | some stored =>
    rw [onFound stored found, Option.filter_some]
    cases holds : same stored with
    | true =>
      have below := inStep.version_lt found
      have raised := raises stored
      rw [if_pos rfl, if_pos rfl, Option.map_some]
      dsimp only
      rw [changes stored found holds, inStep.writeRow_ofEntity
        (Operation.isStorable_rewrite fits (inStep.isStorable found)) (by omega)]
      exact ⟨rfl, inStep.mirrors.put _⟩
    | false =>
      rw [if_neg nofun, if_neg nofun, Option.map_none, inStep.claimMissed_of_found found]
      exact ⟨rfl, inStep.mirrors⟩

theorem agrees_lease {holder : String} {duration : Duration} {now : Instant}
    (fits : (Operation.lease id holder duration now : Operation S P).Fits) :
    table.Agrees memory (.lease id holder duration now) := by
  refine inStep.claim_agrees fits rfl (fun stored found => Memory.lease_of_found found _ _ _) ?_
    (fun stored found => Row.isFreeAt_ofEntity (inStep.isStorable found) now) ?_ fun _ => rfl
  · intro missing
    show Memory.lease id holder duration now memory = _
    unfold Memory.lease
    rw [missing]
  · intro stored found _
    rw [inStep.nextVersion_eq found]
    rfl

theorem agrees_renew {holder : String} {duration : Duration} {now : Instant}
    (fits : (Operation.renew id holder duration now : Operation S P).Fits) :
    table.Agrees memory (.renew id holder duration now) := by
  refine inStep.claim_agrees fits rfl (fun stored found => Memory.renew_of_found found _ _ _) ?_
    (fun stored _ => Row.leaseHolder_ofEntity stored holder) ?_ fun _ => rfl
  · intro missing
    show Memory.renew id holder duration now memory = _
    unfold Memory.renew
    rw [missing]
  · intro stored found own
    -- The row keeps its holder, and the entity gets a new claim of the same holder.
    have held : (Row.ofEntity stored).leaseHolder = some holder :=
      eq_of_beq ((Row.leaseHolder_ofEntity stored holder).trans own)
    rw [inStep.nextVersion_eq found]
    rw [held]
    rfl

theorem released_ofEntity (found : memory.find? id = some stored) :
    (Row.ofEntity stored).released = Row.ofEntity (Memory.released stored) := by
  unfold Row.released
  rw [inStep.nextVersion_eq found]
  rfl

theorem agrees_release (holder : String) : table.Agrees memory (.release id holder) := by
  show (Table.release id holder table).1 = (Memory.release id holder memory).1 ∧
    (Table.release id holder table).2.Mirrors (Memory.release id holder memory).2
  unfold Table.release Memory.release
  rw [inStep.mirrors.filter fun stored found => Row.leaseHolder_ofEntity stored holder]
  cases found : memory.find? id with
  | none => exact ⟨rfl, inStep.mirrors⟩
  | some stored =>
    rw [Option.filter_some]
    dsimp only
    cases stored.isLeasedBy holder with
    | true =>
      rw [if_pos rfl, if_pos rfl, Option.map_some]
      dsimp only
      rw [inStep.released_ofEntity found]
      exact ⟨rfl, inStep.mirrors.put _⟩
    | false => exact ⟨rfl, inStep.mirrors⟩

theorem agrees_releaseAll (holder : String) : table.Agrees memory (.releaseAll holder) := by
  have counted : table.rows.countP (·.leaseHolder == some holder) =
      memory.entities.countP (·.isLeasedBy holder) := by
    rw [inStep.mirrors, List.countP_map]
    congr 1
    funext entity
    exact Row.leaseHolder_ofEntity entity holder
  constructor
  · show (Except.ok (table.rows.countP (·.leaseHolder == some holder)) : Except StoreError Nat) = _
    rw [counted]
    rfl
  · have keepsRow : ∀ row : Row,
        (if row.leaseHolder = some holder then row.released else row).id = row.id := by
      intro row
      split <;> rfl
    have keeps : ∀ entity : Entity S P,
        (if entity.isLeasedBy holder then Memory.released entity else entity).id = entity.id := by
      intro entity
      split <;> rfl
    refine inStep.mirrors.mapRows keepsRow keeps fun stored member => ?_
    have own := Row.leaseHolder_ofEntity stored holder
    have found := Memory.find?_of_mem member
    by_cases held : (Row.ofEntity stored).leaseHolder = some holder
    · rw [if_pos held, if_pos (own.symm.trans (beq_iff_eq.mpr held)),
        inStep.released_ofEntity found]
    · rw [if_neg held, if_neg fun byHolder => held (eq_of_beq (own.trans byHolder))]

/-- A row has none of some states exactly if its entity has none. -/
theorem outside_ofEntity (terminal : List S) (stored : Entity S P) :
    outside terminal (Row.ofEntity stored) = !terminal.contains stored.state := by
  unfold outside
  rw [Row.any_code_ofEntity]

theorem cancelMissed_of_found (found : memory.find? id = some stored) :
    table.cancelMissed id = .ok false := by
  unfold cancelMissed
  rw [inStep.mirrors.find?, found, Option.map_some]
  dsimp only
  rw [if_pos (inStep.isReadable found)]

theorem cancelMissed_of_absent (missing : memory.find? id = none) :
    table.cancelMissed id = .error (.notFound id) := by
  unfold cancelMissed
  rw [inStep.mirrors.find?, missing]
  rfl

/-- **A cancellation on both stores.** Each store changes what does not meet a condition against it,
and both conditions and both changes are the same. -/
theorem cancellation_agrees {onTable : Except StoreError Bool × Table}
    {inMemory : Except StoreError Bool × Memory S P} {condition : Row → Bool}
    {spared : Entity S P → Bool} {changeRow : Row → Row} {change : Entity S P → Entity S P}
    (onRows : onTable = match (table.find? id).filter condition with
      | some row => (.ok true, table.put (changeRow row))
      | none => (table.cancelMissed id, table))
    (inEntities : inMemory = match memory.find? id with
      | some stored => if spared stored then (.ok false, memory)
        else (.ok true, memory.put (change stored))
      | none => (.error (.notFound id), memory))
    (meets : ∀ stored, memory.find? id = some stored →
      condition (Row.ofEntity stored) = !spared stored)
    (changes : ∀ stored, memory.find? id = some stored →
      changeRow (Row.ofEntity stored) = Row.ofEntity (change stored)) :
    onTable.1 = inMemory.1 ∧ onTable.2.Mirrors inMemory.2 := by
  rw [onRows, inEntities, inStep.mirrors.filter meets]
  cases found : memory.find? id with
  | none =>
    rw [Option.filter_none, Option.map_none, inStep.cancelMissed_of_absent found]
    exact ⟨rfl, inStep.mirrors⟩
  | some stored =>
    rw [Option.filter_some]
    dsimp only
    cases spared stored with
    | true =>
      rw [Bool.not_true, if_neg nofun, Option.map_none, inStep.cancelMissed_of_found found]
      exact ⟨rfl, inStep.mirrors⟩
    | false =>
      rw [Bool.not_false, if_pos rfl, Option.map_some]
      dsimp only
      rw [changes stored found]
      exact ⟨rfl, inStep.mirrors.put _⟩

theorem agrees_cancelIfFree (cancelled : S) (terminal : List S) (now : Instant) :
    table.Agrees memory (.cancelIfFree id cancelled terminal now) := by
  refine inStep.cancellation_agrees rfl rfl (fun stored found => ?_) fun stored found => ?_
  · rw [inStep.outside_ofEntity, Row.isFreeAt_ofEntity (inStep.isStorable found), Bool.not_or,
      Bool.not_not]
  · rw [inStep.released_ofEntity found]
    rfl

theorem agrees_requestCancel (terminal : List S) :
    table.Agrees memory (.requestCancel id terminal) :=
  inStep.cancellation_agrees rfl rfl (fun stored _ => inStep.outside_ofEntity terminal stored)
    fun _ _ => rfl

theorem mapM_toEntity {page : List (Entity S P)} (storable : ∀ entity ∈ page, entity.IsStorable) :
    (page.map Row.ofEntity).mapM Row.toEntity = (.ok page : Except StoreError _) := by
  induction page with
  | nil => rfl
  | cons entity rest ih =>
    rw [List.map_cons, List.mapM_cons, Row.toEntity_ofEntity (storable entity List.mem_cons_self),
      ih fun other member => storable other (List.mem_cons_of_mem entity member)]
    rfl

theorem query_eq (criteria : Criteria S) : table.query criteria = .ok (memory.query criteria) := by
  have page : table.select criteria = (memory.query criteria).map Row.ofEntity := by
    have selected : table.rows.filter (·.isSelected criteria) =
        (memory.entities.filter criteria.matchesEntity).map Row.ofEntity := by
      rw [inStep.mirrors, List.filter_map]
      congr 1
      refine List.filter_congr fun entity member => ?_
      exact Row.isSelected_ofEntity (inStep.storable entity member) criteria
    unfold select
    rw [selected]
    refine pageOf_map Row.ofEntity _ _ _ fun first firstIn second secondIn => ?_
    exact Row.notAfter_ofEntity (inStep.storable first (List.mem_filter.mp firstIn).1)
      (inStep.storable second (List.mem_filter.mp secondIn).1)
  have counted : table.lacksCutoff criteria = false := by
    have counts : (table.rows.any fun row =>
        row.isCandidate criteria && decide (row.stateCount < 0)) = false := by
      rw [inStep.mirrors, List.any_map, List.any_eq_false]
      intro entity _ negative
      have column : (Row.ofEntity entity).stateCount = (entity.stateCount : Int) := rfl
      have below := of_decide_eq_true ((Bool.and_eq_true_iff.mp negative).2)
      omega
    unfold lacksCutoff
    rw [counts, Bool.and_false]
  have readable : (table.select criteria).all Row.isReadable = true := by
    rw [page, List.all_map, List.all_eq_true]
    intro entity member
    exact inStep.isReadable (Memory.find?_of_mem (Memory.mem_query member).1)
  unfold query
  dsimp only
  rw [counted, if_neg nofun, if_pos readable, page]
  exact inStep.mapM_toEntity fun entity member =>
    inStep.storable entity (Memory.mem_query member).1

/-- **An operation on both stores gives the same answer and keeps the rows in step.** -/
theorem run_agrees {operation : Operation S P} (fits : operation.Fits) :
    table.Agrees memory operation := by
  cases operation with
  | find id => exact inStep.agrees_find id
  | create entity => exact inStep.agrees_create entity
  | update result => exact inStep.agrees_update fits
  | query criteria => exact ⟨inStep.query_eq criteria, inStep.mirrors⟩
  | lease id holder duration now => exact inStep.agrees_lease fits
  | renew id holder duration now => exact inStep.agrees_renew fits
  | release id holder => exact inStep.agrees_release holder
  | releaseAll holder => exact inStep.agrees_releaseAll holder
  | cancelIfFree id cancelled terminal now =>
    exact inStep.agrees_cancelIfFree cancelled terminal now
  | requestCancel id terminal => exact inStep.agrees_requestCancel terminal

end InStep

/-! ### Any number of operations -/

/-- The table after some operations, one after the other. -/
def replay (table : Table) (operations : List (Operation S P)) : Table :=
  operations.foldl (fun table operation => (Table.run operation table).2) table

/-- Operations that fit keep the stores in step, as long as versions can be raised. -/
theorem InStep.replay (inStep : table.InStep memory) {operations : List (Operation S P)}
    (fits : ∀ operation ∈ operations, operation.Fits)
    (bounded : ∀ past, past <+: operations → (memory.replay past).IsBounded) :
    (table.replay operations).InStep (memory.replay operations) := by
  induction operations generalizing table memory with
  | nil => exact inStep
  | cons operation rest ih =>
    have fitsFirst := fits operation List.mem_cons_self
    have next : ((Table.run operation table).2).InStep (memory.after operation) :=
      { narrow := inStep.narrow
        mirrors := (inStep.run_agrees fitsFirst).2
        storable := inStep.storable.after fitsFirst
        bounded := bounded [operation] (List.prefix_append [operation] rest) }
    refine ih next (fun later member => fits later (List.mem_cons_of_mem operation member)) ?_
    intro past before
    exact bounded (operation :: past) (List.cons_prefix_cons.mpr ⟨rfl, before⟩)

theorem inStep_empty (narrow : HasNarrowCodes S) :
    Table.empty.InStep (Memory.empty : Memory S P) where
  narrow := narrow
  mirrors := rfl
  storable := fun _ member => by cases member
  bounded := fun _ member => by cases member

end Table

/-- **The two stores agree.** From empty stores on, every operation has the same answer from both,
and in the end both list the same entities in the same order. -/
theorem stores_agree (narrow : HasNarrowCodes S) {operations : List (Operation S P)}
    (fits : ∀ operation ∈ operations, operation.Fits)
    (bounded : ∀ past, past <+: operations → (Memory.empty.replay past).IsBounded) :
    (∀ past operation rest, operations = past ++ operation :: rest →
      (Table.run operation (Table.empty.replay past)).1 =
        (Memory.empty.replay past).answer operation) ∧
    (Table.run (.query {} : Operation S P) (Table.empty.replay operations)).1 =
      .ok ((Memory.empty.replay operations).query {}) := by
  have start : Table.empty.InStep (Memory.empty : Memory S P) := Table.inStep_empty narrow
  constructor
  · rintro past operation rest rfl
    have reached := start.replay
      (fun earlier member => fits earlier (List.mem_append_left _ member))
      fun earlier before => bounded earlier (before.trans (List.prefix_append past _))
    have fitsNext := fits operation (List.mem_append_right past List.mem_cons_self)
    exact (reached.run_agrees fitsNext).1
  · exact (start.replay fits bounded).query_eq {}

section Drafts

open Rehearsal

/-- A draft, created at the epoch. -/
def draft : Entity Numbered Anything :=
  .fresh "list" ⟨100, by decide, by decide⟩ ⟨.string "draft"⟩
    (.ofList [("traceparent", "00-1")]) Instant.epoch

/-- A draft is created, claimed, written and asked to be cancelled, and then looked for. -/
def drafting : List (Operation Numbered Anything) :=
  [.create draft, .lease "list" "first" { nanos := 250000000 } Instant.epoch,
    .update { draft with version := 1, state := ⟨200, by decide, by decide⟩ },
    .requestCancel "list" [], .query { notLeasedAt := some Instant.epoch }]

theorem isStorable_draft : draft.IsStorable where
  stateCount := by decide
  stateTimestamp := by decide
  createdAt := by decide
  updatedAt := by decide
  lease := fun _ held => by cases held
  traceContext := by cbv
  payload := by cbv

theorem stores_agree_draft :
    (Table.run (.query { notLeasedAt := some Instant.epoch } : Operation Numbered Anything)
        (Table.empty.replay (drafting.take 4))).1 =
      (Memory.empty.replay (drafting.take 4)).answer
        (.query { notLeasedAt := some Instant.epoch }) ∧
    (Table.run (.query {} : Operation Numbered Anything) (Table.empty.replay drafting)).1 =
      .ok ((Memory.empty.replay drafting).query {}) := by
  have fits : ∀ operation ∈ drafting, operation.Fits := by
    unfold drafting
    simp only [List.forall_mem_cons]
    refine ⟨isStorable_draft, ⟨by decide, by decide, by decide⟩, { isStorable_draft with },
      trivial, trivial, fun _ none => ?_⟩
    cases none
  have bounded : ∀ past, past <+: drafting → (Memory.empty.replay past).IsBounded := by
    intro past before
    refine Memory.isBounded_replay (fun entity member => ?_) ?_
    · have listed : Operation.create entity ∈ drafting := before.subset member
      have same : entity = draft := by simpa [drafting] using listed
      rw [same]
      rfl
    · have short := before.length_le
      have length : drafting.length = 5 := rfl
      unfold versionLimit
      omega
  have narrow : HasNarrowCodes Numbered := by
    intro state
    have lower := state.lower
    have upper := state.upper
    show -0x80000000 ≤ state.number ∧ state.number < 0x80000000
    omega
  obtain ⟨steps, listing⟩ := stores_agree narrow fits bounded
  exact ⟨steps (drafting.take 4) _ [] rfl, listing⟩

end Drafts

end Leasehold
