/-
**The store in memory.**

A list of entities with different ids. An operation that fails leaves it as it was.

Versions are counted without a limit. A store has 63 bits for them, so what is said here holds while
all versions stay below `2 ^ 63 - 1`: `update`, `lease`, `renew`, `release`, `releaseAll` and
`cancelIfFree` take it that the next version exists. A table can be given any version to start from,
and `nextVersion` says what it does at the limit.

* `Memory.run`: every operation;
* `Memory.find?`: the entity with an id;
* `Memory.put`: an entity in the place of the one with its id.
-/

import Leasehold.Store.Operation

namespace Leasehold

/-- Entities with different ids. -/
structure Memory (S P : Type) where
  entities : List (Entity S P)
  distinct : (entities.map (·.id)).Nodup

namespace Memory

variable {S P : Type}

/-- The store without entities. -/
def empty : Memory S P := ⟨[], List.nodup_nil⟩

instance : Inhabited (Memory S P) := ⟨empty⟩

/-- The entity with an id. -/
def find? (memory : Memory S P) (id : String) : Option (Entity S P) :=
  memory.entities.find? (·.id == id)

/-- The number of entities. -/
def size (memory : Memory S P) : Nat := memory.entities.length

/-- Changing entities without their ids keeps the ids. -/
theorem map_id_map {entities : List (Entity S P)} {change : Entity S P → Entity S P}
    (keeps : ∀ entity, (change entity).id = entity.id) :
    (entities.map change).map (·.id) = entities.map (·.id) := by
  simp [Function.comp_def, keeps]

/-- Every entity changed, with its id kept. -/
def mapEntities (memory : Memory S P) (change : Entity S P → Entity S P)
    (keeps : ∀ entity, (change entity).id = entity.id) : Memory S P :=
  ⟨memory.entities.map change, (map_id_map keeps).symm ▸ memory.distinct⟩

/-- An entity in the place of the one with its id. -/
def put (memory : Memory S P) (entity : Entity S P) : Memory S P :=
  memory.mapEntities (fun stored => if stored.id = entity.id then entity else stored) (by
    intro stored
    by_cases same : stored.id = entity.id
    · simp [same]
    · simp [same])

/-- A new entity, unless its id is taken. -/
def add? (memory : Memory S P) (entity : Entity S P) : Option (Memory S P) :=
  if taken : entity.id ∈ memory.entities.map (·.id) then none
  else some ⟨memory.entities ++ [entity], by
    simp only [List.map_append, List.map_cons, List.map_nil]
    refine List.nodup_append.mpr ⟨memory.distinct, by simp, ?_⟩
    intro id member other single equal
    rw [List.mem_singleton.mp single] at equal
    exact taken (equal ▸ member)⟩

/-- An entity without its lease, one version later, which stays below `2 ^ 63`. -/
def released (entity : Entity S P) : Entity S P :=
  { entity with lease := none, version := entity.version + 1 }

/-! ### Operations -/

variable [DecidableEq S]

/-- Writes an entity over the stored one with its version, and counts one version on. -/
def update (entity : Entity S P) (memory : Memory S P) :
    Except StoreError (Entity S P) × Memory S P :=
  match memory.find? entity.id with
  | some stored =>
    if stored.version = entity.version then
      let written := { entity with
        version := entity.version + 1
        createdAt := stored.createdAt
        cancelRequested := stored.cancelRequested }
      (.ok written, memory.put written)
    else (.error (.concurrency entity.id entity.version), memory)
  | none => (.error (.concurrency entity.id entity.version), memory)

/-- Claims an entity that is free, and counts one version on. -/
def lease (id holder : String) (duration : Duration) (now : Instant) (memory : Memory S P) :
    Except StoreError (Entity S P) × Memory S P :=
  match memory.find? id with
  | some stored =>
    if stored.isFreeAt now then
      let claimed := { stored with
        lease := some (Lease.start holder now duration)
        version := stored.version + 1 }
      (.ok claimed, memory.put claimed)
    else (.error (.leased id), memory)
  | none => (.error (.notFound id), memory)

/-- Moves the end of a claim that the holder has. -/
def renew (id holder : String) (duration : Duration) (now : Instant) (memory : Memory S P) :
    Except StoreError (Entity S P) × Memory S P :=
  match memory.find? id with
  | some stored =>
    match stored.lease.bind (·.renew? holder now duration) with
    | some claim =>
      let claimed := { stored with lease := some claim, version := stored.version + 1 }
      (.ok claimed, memory.put claimed)
    | none => (.error (.leased id), memory)
  | none => (.error (.notFound id), memory)

/-- Gives up a claim that the holder has. -/
def release (id holder : String) (memory : Memory S P) : Except StoreError Bool × Memory S P :=
  match memory.find? id with
  | some stored =>
    if stored.isLeasedBy holder then (.ok true, memory.put (released stored))
    else (.ok false, memory)
  | none => (.ok false, memory)

/-- Gives up all claims of a holder and counts them. -/
def releaseAll (holder : String) (memory : Memory S P) : Except StoreError Nat × Memory S P :=
  (.ok (memory.entities.countP (·.isLeasedBy holder)),
    memory.mapEntities
      (fun stored => if stored.isLeasedBy holder then released stored else stored) (by
        intro stored
        by_cases held : stored.isLeasedBy holder = true
        · simp [held, released]
        · simp [held]))

/-- Moves a free entity outside the terminal states to the cancelled state. -/
def cancelIfFree (id : String) (cancelled : S) (terminal : List S) (now : Instant)
    (memory : Memory S P) : Except StoreError Bool × Memory S P :=
  match memory.find? id with
  | some stored =>
    if terminal.contains stored.state || !stored.isFreeAt now then (.ok false, memory)
    else (.ok true, memory.put (released (stored.transitionTo cancelled now)))
  | none => (.error (.notFound id), memory)

/-- Marks an entity outside the terminal states for cancellation. -/
def requestCancel (id : String) (terminal : List S) (memory : Memory S P) :
    Except StoreError Bool × Memory S P :=
  match memory.find? id with
  | some stored =>
    if terminal.contains stored.state then (.ok false, memory)
    else (.ok true, memory.put { stored with cancelRequested := true })
  | none => (.error (.notFound id), memory)

/-- The entities that the criteria select. -/
def query (criteria : Criteria S) (memory : Memory S P) : List (Entity S P) :=
  criteria.arrange (memory.entities.filter criteria.matchesEntity)

/-- Runs an operation. -/
def run : Backend (Memory S P) S P := fun operation memory =>
  match operation with
  | .find id => (.ok (memory.find? id), memory)
  | .create entity =>
    match memory.add? entity with
    | some grown => (.ok (), grown)
    | none => (.error (.alreadyExists entity.id), memory)
  | .update entity => update entity memory
  | .query criteria => (.ok (memory.query criteria), memory)
  | .lease id holder duration now => lease id holder duration now memory
  | .renew id holder duration now => renew id holder duration now memory
  | .release id holder => release id holder memory
  | .releaseAll holder => releaseAll holder memory
  | .cancelIfFree id cancelled terminal now => cancelIfFree id cancelled terminal now memory
  | .requestCancel id terminal => requestCancel id terminal memory

end Memory

end Leasehold
