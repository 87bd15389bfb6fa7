/-
**Names of database files.**

A database in a file is opened under a name with options. The name can be written as a URI, in which
percent signs and options have a meaning.

* `FileName`: a name with its options;
* `FileName.ofUri?`: the name that a URI writes;
* `FileName.ofUrl?`: the name under which the database of a URL is opened.
-/

import Leasehold.Hub.Database.Url

namespace Leasehold.Database

/-- The name under which a database is opened. -/
structure FileName where
  path : String
  options : List (String × String) := []
  /-- The name is written as a URI. -/
  isUri : Bool := false
deriving DecidableEq, Repr

namespace FileName

/-- The start of a URI. -/
def uriStart : List Char := "file:".toList

/--
The characters that a part of a URI stands for, each byte as the character with its number. A zero
byte ends the part.
-/
def uriPart : List Char → List Char
  | [] => []
  | '%' :: high :: low :: rest =>
    match Text.hexByte? high low with
    | some byte => if byte = 0 then [] else Char.ofNat byte.toNat :: uriPart rest
    | none => '%' :: uriPart (high :: low :: rest)
  | character :: rest => character :: uriPart rest

/-- An option of a URI, with its value after the first equals sign. -/
def uriOption (text : String) : String × String :=
  let name := text.toList.takeWhile (· ≠ '=')
  (String.ofList (uriPart name), String.ofList (uriPart (text.toList.drop (name.length + 1))))

/-- A URI after its start, without the name of its host, which can only be this one. -/
def withoutHost? : List Char → Option (List Char)
  | '/' :: '/' :: rest =>
    let host := rest.takeWhile (· ≠ '/')
    if String.ofList host ∈ ["", "localhost"] then some (rest.drop host.length) else none
  | rest => some rest

/-- The name that a URI writes, from after its start to the first number sign. -/
def ofUri? (text : List Char) : Option FileName := do
  let text := (← withoutHost? text).takeWhile (· ≠ '#')
  let path := text.takeWhile (· ≠ '?')
  let options := ((String.ofList (text.drop (path.length + 1))).splitOn "&").map uriOption
  return {
    path := String.ofList (uriPart path)
    options := options.filter fun option => option.1 ≠ ""
    isUri := true }

/-- A text up to its first zero character. -/
def untilZero (text : String) : String := String.ofList (text.toList.takeWhile (· ≠ '\x00'))

/--
The name under which the database of a URL is opened. What the URL says about the module and about
changes of the file becomes options.
-/
def ofUrl? (url : FileUrl) : Option FileName :=
  let path := url.path.toList
  if url.immutable || url.fileModule.isSome then
    some {
      path := untilZero url.path
      options := (if url.immutable then [("immutable", "true")] else [])
        ++ url.fileModule.toList.map fun name => ("vfs", untilZero name)
      isUri := true }
  else if path.contains '\x00' then none
  else if uriStart.isPrefixOf path then ofUri? (path.drop uriStart.length)
  else some { path := url.path }

end FileName

end Leasehold.Database
