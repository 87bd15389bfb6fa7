/-
**Database URLs.**

Where a hub keeps its entities is said by a URL.

* `Choice.ofUrl`: the kind of database that a URL asks for;
* `FileUrl.read?`: what a URL says about a database in a file.
-/

import Leasehold.Text.Percent

namespace Leasehold.Database

/-- The kind of database that a URL asks for. -/
inductive Choice where
  /-- No database: entities are kept in memory. -/
  | memory
  /-- A database server. -/
  | server
  /-- A database in a file, given by the whole URL. -/
  | file (url : String)
  | unsupported
deriving DecidableEq, Repr

/-- The kind of database that a URL asks for. -/
def Choice.ofUrl : Option String → Choice
  | none => .memory
  | some url =>
    if url.startsWith "postgres://" || url.startsWith "postgresql://" then .server
    else if url.startsWith "sqlite:" then .file url
    else .unsupported

/-- What a URL says about a database in a file. -/
structure FileUrl where
  path : String
  readOnly : Bool := false
  /-- A file that is not there is created. -/
  creates : Bool := false
  /-- The database is kept in memory. -/
  inMemory : Bool := false
  /-- Connections to one database in memory share it. -/
  sharesCache : Bool := false
  /-- The file is taken not to change. -/
  immutable : Bool := false
  /-- The module that reads and writes files. -/
  fileModule : Option String := none
deriving DecidableEq, Repr

namespace FileUrl

/-- A text without every repetition of another at its start. -/
def withoutStart (start : List Char) (text : List Char) : List Char :=
  if _more : start ≠ [] ∧ start.isPrefixOf text then withoutStart start (text.drop start.length)
  else text
termination_by text.length
decreasing_by
  obtain ⟨nonempty, starts⟩ := _more
  obtain ⟨rest, rfl⟩ := List.isPrefixOf_iff_prefix.mp starts
  have := List.length_pos_iff.mpr nonempty
  simp only [List.drop_left, List.length_append]
  omega

/-- The path that stands for a new database in memory. -/
def memoryPath : String := ":memory:"

/-- What the path of a URL says; a database in memory gets a name of its own. -/
def ofPath? (path : List Char) : Option FileUrl :=
  if String.ofList path = memoryPath then
    some { path := "file:kept-in-memory", inMemory := true, sharesCache := true }
  else (Text.percentText? path).map fun path => { path := path }

/-- A flag. -/
def flag? (value : String) : Option Bool :=
  if value ∈ ["true", "1"] then some true
  else if value ∈ ["false", "0"] then some false
  else none

/-- The URL with one more parameter, if the parameter is known and has a sensible value. -/
def withParameter? (url : FileUrl) (parameter : String × String) : Option FileUrl :=
  match parameter with
  | ("mode", "ro") => some { url with readOnly := true }
  | ("mode", "rw") => some url
  | ("mode", "rwc") => some { url with creates := true }
  | ("mode", "memory") => some { url with inMemory := true, sharesCache := true }
  | ("cache", "private") => some { url with sharesCache := false }
  | ("cache", "shared") => some { url with sharesCache := true }
  | ("immutable", value) => (flag? value).map fun value => { url with immutable := value }
  | ("vfs", value) => some { url with fileModule := some value }
  | _ => none

/-- What a URL says, path and parameters. -/
def read? (url : String) : Option FileUrl := do
  let rest := withoutStart "sqlite:".toList (withoutStart "sqlite://".toList url.toList)
  let path := rest.takeWhile (· ≠ '?')
  let parameters := String.ofList (rest.drop (path.length + 1))
  (Text.formFields parameters).foldlM withParameter? (← ofPath? path)

end FileUrl

end Leasehold.Database
