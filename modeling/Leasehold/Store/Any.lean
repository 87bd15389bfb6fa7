/-
**Stores of either kind.**

* `AnyStore`: a store in memory or in a table;
* `AnyStore.run`: every operation, as the store at hand does it.
-/

import Leasehold.Store.Memory
import Leasehold.Store.Table

namespace Leasehold

/-- A store in memory or in a table. -/
inductive AnyStore (S P : Type) where
  | memory (entities : Memory S P)
  | table (rows : Table)

namespace AnyStore

variable {S P : Type} [DecidableEq S] [ProcessState S] [Payload P]

/-- Runs an operation. -/
def run : Backend (AnyStore S P) S P := fun operation store =>
  match store with
  | .memory entities =>
    let (answer, entities) := Memory.run operation entities
    (answer, .memory entities)
  | .table rows =>
    let (answer, rows) := Table.run operation rows
    (answer, .table rows)

/-- All entities of the store. -/
def all (store : AnyStore S P) : Except StoreError (List (Entity S P)) := (run (.query {}) store).1

end AnyStore

end Leasehold
