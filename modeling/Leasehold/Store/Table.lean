/-
**The store in a table.**

A table of rows with different ids. Conditions are checked on the columns, with every instant as
whole milliseconds; a row is handed out only after the operation has changed it.

* `Table.run`: every operation;
* `Table.insertRow?`: a row written past the store;
* `validTableName`: the names that a table may have.
-/

import Leasehold.Store.Operation
import Leasehold.Store.Row

namespace Leasehold

/-- Rows with different ids. -/
structure Table where
  rows : List Row
  distinct : (rows.map (·.id)).Nodup

namespace Row

/-- Whether nobody has a claim on the row that lasts beyond an instant. -/
def isFreeAt (row : Row) (now : Int) : Bool :=
  row.leaseHolder.isNone || row.leaseExpiry.all (· ≤ now)

/-- The cutoff for the count of a row, of which 32 bits matter; a negative count has none. -/
def cutoff? (row : Row) (due : DueFilter) : Option Int :=
  if row.stateCount < 0 then none
  else some (due.cutoffFor (row.stateCount.toNat % UInt32.size)).millis

/-- Whether the row is in one of the states and free, as far as the criteria ask for it. -/
def isCandidate {S : Type} [ProcessState S] (row : Row) (criteria : Criteria S) : Bool :=
  criteria.states.all (fun states => states.any fun state => code state == row.state)
    && criteria.notLeasedAt.all (fun now => row.isFreeAt now.millis)

/-- Whether the criteria select the row. -/
def isSelected {S : Type} [ProcessState S] (row : Row) (criteria : Criteria S) : Bool :=
  row.isCandidate criteria
    && criteria.due.all (fun due => (row.cutoff? due).all (row.stateTimestamp ≤ ·))
    && criteria.leasedBy.all (fun holder => row.leaseHolder == some holder)

/-- The row without its lease, one version later. -/
def released (row : Row) : Row :=
  { row with leaseHolder := none, leaseExpiry := none, version := nextVersion row.version }

end Row

namespace Table

/-- The table without rows. -/
def empty : Table := ⟨[], List.nodup_nil⟩

instance : Inhabited Table := ⟨empty⟩

/-- The row with an id. -/
def find? (table : Table) (id : String) : Option Row := table.rows.find? (·.id == id)

/-- Every row changed, with its id kept. -/
def mapRows (table : Table) (change : Row → Row) (keeps : ∀ row, (change row).id = row.id) :
    Table :=
  ⟨table.rows.map change, by simpa [Function.comp_def, keeps] using table.distinct⟩

/-- A row in the place of the one with its id. -/
def put (table : Table) (row : Row) : Table :=
  table.mapRows (fun stored => if stored.id = row.id then row else stored) (by
    intro stored
    by_cases same : stored.id = row.id
    · simp [same]
    · simp [same])

/-- A new row, unless its id is taken. -/
def insertRow? (table : Table) (row : Row) : Option Table :=
  if taken : row.id ∈ table.rows.map (·.id) then none
  else some ⟨table.rows ++ [row], by
    simp only [List.map_append, List.map_cons, List.map_nil]
    refine List.nodup_append.mpr ⟨table.distinct, by simp, ?_⟩
    intro id member other single equal
    rw [List.mem_singleton.mp single] at equal
    exact taken (equal ▸ member)⟩

/-! ### Operations -/

variable {S P : Type} [ProcessState S] [Payload P]

/-- Whether a row is there, after no row met a condition on a claim. -/
def claimMissed (id : String) (table : Table) : StoreError :=
  match table.find? id with
  | some row => if row.isReadable then .leased id else Row.unreadable
  | none => .notFound id

/-- Writes a row and hands it out. -/
def writeRow (row : Row) (table : Table) : Except StoreError (Entity S P) × Table :=
  (row.load, table.put row)

/-- Writes an entity over the stored row with its version. -/
def update (entity : Entity S P) (table : Table) : Except StoreError (Entity S P) × Table :=
  match table.find? entity.id with
  | some stored =>
    if stored.version = entity.version then
      writeRow
        { Row.ofEntity entity with
          createdAt := stored.createdAt
          cancelRequested := stored.cancelRequested
          version := nextVersion stored.version } table
    else (.error (.concurrency entity.id entity.version), table)
  | none => (.error (.concurrency entity.id entity.version), table)

/-- Whether a query has to find the cutoff for a row with a negative count. -/
def lacksCutoff (criteria : Criteria S) (table : Table) : Bool :=
  criteria.due.isSome && criteria.limit != some 0 &&
    table.rows.any fun row => row.isCandidate criteria && decide (row.stateCount < 0)

/--
The page of rows that the criteria ask for. A query cuts limits and offsets down to 63 bits; as no
table has so many rows, this changes no page.
-/
def select (criteria : Criteria S) (table : Table) : List Row :=
  pageOf (·.stateTimestamp) (·.id) criteria.order criteria.offset criteria.limit
    (table.rows.filter (·.isSelected criteria))

/-- The page of rows as entities; all of them have to be readable before one is read. -/
def query (criteria : Criteria S) (table : Table) : Except StoreError (List (Entity S P)) :=
  let page := table.select criteria
  if table.lacksCutoff criteria then .error (.database "no cutoff for a negative count")
  else if page.all Row.isReadable then page.mapM Row.toEntity
  else .error Row.unreadable

/-- Claims a row that is free. -/
def lease (id holder : String) (duration : Duration) (now : Instant) (table : Table) :
    Except StoreError (Entity S P) × Table :=
  match (table.find? id).filter (·.isFreeAt now.millis) with
  | some stored =>
    writeRow
      { stored with
        leaseHolder := some holder
        leaseExpiry := some (now.plus duration).millis
        version := nextVersion stored.version } table
  | none => (.error (table.claimMissed id), table)

/-- Moves the end of a claim that the holder has. -/
def renew (id holder : String) (duration : Duration) (now : Instant) (table : Table) :
    Except StoreError (Entity S P) × Table :=
  match (table.find? id).filter (·.leaseHolder == some holder) with
  | some stored =>
    writeRow
      { stored with
        leaseExpiry := some (now.plus duration).millis
        version := nextVersion stored.version } table
  | none => (.error (table.claimMissed id), table)

/-- Gives up a claim that the holder has. -/
def release (id holder : String) (table : Table) : Except StoreError Bool × Table :=
  match (table.find? id).filter (·.leaseHolder == some holder) with
  | some stored => (.ok true, table.put stored.released)
  | none => (.ok false, table)

/-- Gives up all claims of a holder and counts them. -/
def releaseAll (holder : String) (table : Table) : Except StoreError Nat × Table :=
  (.ok (table.rows.countP (·.leaseHolder == some holder)),
    table.mapRows
      (fun stored => if stored.leaseHolder = some holder then stored.released else stored) (by
        intro stored
        by_cases held : stored.leaseHolder = some holder
        · simp [held, Row.released]
        · simp [held]))

/-- Whether a row has none of the states. -/
def outside (terminal : List S) (row : Row) : Bool :=
  !terminal.any fun state => code state == row.state

/-- Whether a row is there, after no row met the condition of a cancellation. -/
def cancelMissed (id : String) (table : Table) : Except StoreError Bool :=
  match table.find? id with
  | some row => if row.isReadable then .ok false else .error Row.unreadable
  | none => .error (.notFound id)

/-- Moves a free row outside the terminal states to the cancelled state. -/
def cancelIfFree (id : String) (cancelled : S) (terminal : List S) (now : Instant)
    (table : Table) : Except StoreError Bool × Table :=
  match (table.find? id).filter fun row => outside terminal row && row.isFreeAt now.millis with
  | some stored =>
    (.ok true, table.put { stored.released with
      state := code cancelled
      stateCount := 0
      stateTimestamp := now.millis
      updatedAt := now.millis
      errorDetail := none })
  | none => (table.cancelMissed id, table)

/-- Marks a row outside the terminal states for cancellation. -/
def requestCancel (id : String) (terminal : List S) (table : Table) :
    Except StoreError Bool × Table :=
  match (table.find? id).filter (outside terminal) with
  | some stored => (.ok true, table.put { stored with cancelRequested := true })
  | none => (table.cancelMissed id, table)

/-- Runs an operation. -/
def run : Backend Table S P := fun operation table =>
  match operation with
  | .find id =>
    match table.find? id with
    | some row => (row.load.map some, table)
    | none => (.ok none, table)
  | .create entity =>
    match table.insertRow? (Row.ofEntity entity) with
    | some grown => (.ok (), grown)
    | none => (.error (.alreadyExists entity.id), table)
  | .update entity => update entity table
  | .query criteria => (query criteria table, table)
  | .lease id holder duration now => lease id holder duration now table
  | .renew id holder duration now => renew id holder duration now table
  | .release id holder => release id holder table
  | .releaseAll holder => releaseAll holder table
  | .cancelIfFree id cancelled terminal now => cancelIfFree id cancelled terminal now table
  | .requestCancel id terminal => requestCancel id terminal table

end Table

/-! ### Table names -/

/-- Whether a character can stand in a table name after the first. -/
def isNameCharacter (character : Char) : Bool := character.isAlphanum || character == '_'

/-- Whether a text is a letter or underscore and then letters, digits and underscores. -/
def validTableName (name : String) : Bool :=
  match name.toList with
  | head :: rest => (head.isAlpha || head == '_') && rest.all isNameCharacter
  | [] => false

/-- A table name, if it is one. -/
def checkTableName (name : String) : Except StoreError String :=
  if validTableName name then .ok name else .error (.invalidTableName name)

end Leasehold
