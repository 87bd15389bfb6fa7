/-
**Databases.**

A hub keeps its entities in memory or in the database that a URL names. A database has one table for
each process type, all of the same columns.

* `Database.connect`: whether the database can be used, and what is logged on the way;
* `Database.tablesAfter`: the tables after some runs of the migrations.
-/

import Leasehold.Credential.Issuance
import Leasehold.Credential.HolderRequest
import Leasehold.Credential.StatusList
import Leasehold.Hub.Database.Opening

namespace Leasehold.Database

/-! ### Connecting -/

/-- Why a database cannot be used. -/
inductive ConnectError where
  | unreachableServer
  | unopenedFile
  | failedMigrations
  | unsupportedScheme
deriving DecidableEq, Repr

namespace ConnectError

/-- The text of an error. -/
def message : ConnectError → String
  | unreachableServer => "Failed to connect to PostgreSQL"
  | unopenedFile => "Failed to open SQLite database"
  | failedMigrations => "Failed to run SQLite migrations"
  | unsupportedScheme => "Unsupported database URL scheme (expected postgres:// or sqlite:)"

end ConnectError

/-- Says that entities are kept in memory. -/
def memoryEntry : Log.Entry := ⟨.info, "No database configured, keeping entities in memory", []⟩

/-- Says that entities are kept in a file. -/
def fileEntry : Log.Entry := ⟨.info, "Using SQLite entity stores", []⟩

/--
Whether the connections to an opened database see what one of them has written. Of a URL that names
a database in memory there is only one connection.
-/
def keepsWrites (url : String) (opened : Opened) : Bool :=
  opened.isShared || url.contains FileUrl.memoryPath

/--
Whether the database of a URL can be used where no server answers, and what is logged on the way. A
database that cannot be written has no place for the tables. The value says whether an entity that
was written can be found.
-/
def connect (hasDirectory : String → Bool) (url : Option String) :
    List Log.Entry × Except ConnectError Bool :=
  match Choice.ofUrl url with
  | .memory => ([memoryEntry], .ok true)
  | .server => ([], .error .unreachableServer)
  | .unsupported => ([], .error .unsupportedScheme)
  | .file url =>
    match ((FileUrl.read? url).bind Opening.ofUrl?).bind (·.result? hasDirectory) with
    | none => ([], .error .unopenedFile)
    | some opened =>
      ([fileEntry],
        if opened.isWritable then .ok (keepsWrites url opened) else .error .failedMigrations)

/-! ### Tables -/

/-- The columns of a table of entities. -/
def columns : List String :=
  ["id", "state", "state_count", "state_timestamp", "created_at", "updated_at", "trace_context",
    "error_detail", "lease_holder", "lease_expiry", "cancel_requested", "version", "payload"]

/-- The tables that one migration creates, unless they are there already. -/
abbrev Migration : Type := List String

/-- The migrations, in order. -/
def migrations : List Migration :=
  [[Credential.Issuance.tableName, Credential.HolderRequest.tableName,
    Credential.StatusList.tableName]]

/-- The tables after a migration. -/
def migrate (tables : List String) (migration : Migration) : List String :=
  tables ++ migration.filter fun name => !tables.contains name

/-- The tables of an empty database after some runs of all migrations, by name. -/
def tablesAfter (runs : Nat) : List String :=
  let tables :=
    (List.replicate runs migrations).foldl (fun tables run => run.foldl migrate tables) []
  tables.mergeSort fun first second => decide (first ≤ second)

end Leasehold.Database
