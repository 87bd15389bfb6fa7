/-
**What can go wrong in a store.**

* `StoreError.message`: the text of an error;
* `StoreError.code`: its name for callers;
* `StoreError.isConflict`: whether another writer was faster, so that trying again can help.
-/

namespace Leasehold

/-- Why a store operation failed. -/
inductive StoreError where
  | notFound (id : String)
  | alreadyExists (id : String)
  | leased (id : String)
  | concurrency (id : String) (expectedVersion : Int)
  | corrupt (id : String) (reason : String)
  | invalidTableName (name : String)
  | database (detail : String)
  | serialization (detail : String)
deriving DecidableEq, Repr

namespace StoreError

/-- The text of an error. -/
def message : StoreError → String
  | .notFound id => s!"Entity '{id}' not found"
  | .alreadyExists id => s!"Entity '{id}' already exists"
  | .leased id => s!"Entity '{id}' is leased by another holder"
  | .concurrency id version =>
    s!"Entity '{id}' was modified concurrently (expected version {version})"
  | .corrupt id reason => s!"Entity '{id}' has a corrupt record: {reason}"
  | .invalidTableName name => s!"Invalid table name '{name}'"
  | .database detail => s!"Database error: {detail}"
  | .serialization detail => s!"Serialization error: {detail}"

/-- The name of an error for callers. -/
def code : StoreError → String
  | .notFound _ => "ENTITY_NOT_FOUND"
  | .alreadyExists _ => "ENTITY_ALREADY_EXISTS"
  | .leased _ => "LEASE_CONFLICT"
  | .concurrency _ _ => "CONCURRENT_MODIFICATION"
  | .corrupt _ _ => "CORRUPT_RECORD"
  | .invalidTableName _ => "INVALID_TABLE_NAME"
  | .database _ => "DATABASE_ERROR"
  | .serialization _ => "SERIALIZATION_ERROR"

/-- Whether another writer was faster. -/
def isConflict : StoreError → Bool
  | .leased _ => true
  | .concurrency _ _ => true
  | _ => false

end StoreError

end Leasehold
