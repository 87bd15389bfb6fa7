/-
**Opening databases.**

What a URL and the options of a name say together decides how a database is opened: in memory, in a
temporary file or in a file that stays, for reading only or not.

* `Opening.ofUrl?`: how the database of a URL is opened;
* `Opening.result?`: what is opened, where no file is there yet and some directories are;
* `Opened`: what can be done with it.
-/

import Leasehold.Hub.Database.FileName

namespace Leasehold.Database

/-- What may be done with a file. -/
inductive Access where
  | readOnly
  | readWrite
  | readWriteCreate
deriving DecidableEq, Repr

/-- How much an access allows; no access is needed for a database in memory. -/
def Access.rank : Option Access → Nat
  | none => 0
  | some .readOnly => 1
  | some .readWrite => 2
  | some .readWriteCreate => 3

/-- How a database is opened. -/
structure Opening where
  name : FileName
  access : Option Access
  inMemory : Bool
  sharesCache : Bool
  fileModule : String
deriving DecidableEq, Repr

/-- A database that was opened. -/
structure Opened where
  isWritable : Bool
  /-- Every connection sees the same database. -/
  isShared : Bool
deriving DecidableEq, Repr

namespace Opening

/-- The access that the mode in a name stands for; the mode of a database in memory has none. -/
def modeAccess? : String → Option (Option Access)
  | "ro" => some (some .readOnly)
  | "rw" => some (some .readWrite)
  | "rwc" => some (some .readWriteCreate)
  | "memory" => some none
  | _ => none

/-- With one more option of the name, which cannot widen the access to a file. -/
def withOption? (opening : Opening) (option : String × String) : Option Opening :=
  match option with
  | ("vfs", value) => some { opening with fileModule := value }
  | ("cache", "shared") => some { opening with sharesCache := true }
  | ("cache", "private") => some { opening with sharesCache := false }
  | ("cache", _) => none
  | ("mode", value) => do
    let access ← modeAccess? value
    if opening.inMemory || Access.rank access ≤ Access.rank opening.access then
      some { opening with access := access, inMemory := access.isNone }
    else none
  | _ => some opening

/-- The module that reads and writes files unless it is said otherwise. -/
def defaultModule : String := "unix"

/-- The module that keeps files in memory. -/
def memoryModule : String := "memdb"

/-- The modules that can read and write files. -/
def fileModules : List String :=
  [defaultModule, "unix-none", "unix-dotfile", "unix-excl", memoryModule]

/-- How the database of a URL is opened. -/
def ofUrl? (url : FileUrl) : Option Opening := do
  let name ← FileName.ofUrl? url
  let access : Access :=
    if url.readOnly then .readOnly else if url.creates then .readWriteCreate else .readWrite
  let opening ← name.options.foldlM withOption?
    ⟨name, some access, url.inMemory, url.sharesCache, defaultModule⟩
  if opening.fileModule ∈ fileModules then some opening else none

/-- Whether the value of an option says yes: with a word, or with a number other than zero. -/
def isAffirmative (value : String) : Bool :=
  let digits := value.toList.takeWhile Char.isDigit
  let number := Text.digitsValue digits
  value.toLower ∈ ["on", "yes", "true"] || (number < 0x80000000 && number % 256 ≠ 0)

/-- Whether the file is taken not to change; the first option that says so counts. -/
def isImmutable (opening : Opening) : Bool :=
  (opening.name.options.find? fun option => option.1 == "immutable").any fun option =>
    isAffirmative option.2

/-! ### Paths -/

/-- The parts of a path without those that lead nowhere; a part that leads back drops one. -/
def normalParts (path : String) : List String :=
  (path.splitOn "/").foldl (fun parts part =>
    if part ∈ ["", "."] then parts else if part = ".." then parts.dropLast else parts ++ [part]) []

/-- Whether a file with a path can be created, where some directories are. -/
def canCreate (hasDirectory : String → Bool) (path : String) : Bool :=
  let root := if path.startsWith "/" then "/" else ""
  let parts := normalParts path
  !path.endsWith "/" && !path.endsWith "/." && !path.endsWith "/.."
    && !hasDirectory (root ++ "/".intercalate parts)
    && hasDirectory (root ++ "/".intercalate parts.dropLast)

/-! ### Results -/

/-- Whether the module that keeps files in memory shares the file of a path. -/
def isSharedName (path : String) : Bool :=
  1 < path.length && (path.startsWith "/" || path.startsWith "\\")

/--
What is opened, where no file is there yet and some directories are. A database without a name is a
temporary one.
-/
def result? (hasDirectory : String → Bool) (opening : Opening) : Option Opened :=
  let path := opening.name.path
  let isWritable := opening.access ≠ some .readOnly
  if path.isEmpty then some ⟨isWritable, false⟩
  else if opening.inMemory || path == FileUrl.memoryPath then
    some ⟨isWritable, opening.name.isUri && opening.sharesCache⟩
  else if opening.fileModule = memoryModule then
    some ⟨isWritable && !opening.isImmutable, opening.sharesCache || isSharedName path⟩
  else if opening.access = some .readWriteCreate && canCreate hasDirectory path then
    some ⟨!opening.isImmutable, true⟩
  else none

end Opening

end Leasehold.Database
