/-
**Records in JSON objects.**

A record is an object with named fields. Each known field may be there once, and fields that are not
known do not matter. An array of the values of the fields, in their order, is the same record.

* `Json.recordOf?`: the members of a record;
* `Json.required?`: a field that must be there;
* `Json.optional?`: a field that may be absent or null;
* `Json.defaulted?`: a field with a value of its own when it is absent;
* `Json.text?`, `Json.word?`, `Json.list?`, `Json.dictionary?`: values of fields.
-/

import Leasehold.Json.Basic

namespace Leasehold.Json

variable {α : Type}

/--
The members of a record with some fields. In an array the last fields may be missing, if they may be
absent.
-/
def recordOf? (fields : List String) : Json → Option (List (String × Json))
  | .object members => some members
  | .array values => if values.length ≤ fields.length then some (fields.zip values) else none
  | _ => none

/-- The values of the members with a name. -/
def named (name : String) (members : List (String × Json)) : List Json :=
  (members.filter fun member => member.1 == name).map Prod.snd

/-- The value of a field that must be there. -/
def required? (name : String) (read : Json → Option α) (members : List (String × Json)) :
    Option α :=
  match named name members with
  | [value] => read value
  | _ => none

/-- The value of a field that may be absent or null. -/
def optional? (name : String) (read : Json → Option α) (members : List (String × Json)) :
    Option (Option α) :=
  match named name members with
  | [] => some none
  | [.null] => some none
  | [value] => (read value).map some
  | _ => none

/-- The value of a field with a default for its absence. -/
def defaulted? (name : String) (default : α) (read : Json → Option α)
    (members : List (String × Json)) : Option α :=
  match named name members with
  | [] => some default
  | [value] => read value
  | _ => none

/-- A string. -/
def text? : Json → Option String
  | .string value => some value
  | _ => none

/-- An unsigned number of 64 bits. -/
def word? : Json → Option UInt64
  | .number (.whole value) =>
    if 0 ≤ value ∧ value < UInt64.size then some (UInt64.ofNat value.toNat) else none
  | _ => none

/-- An array of values of one kind. -/
def list? (read : Json → Option α) : Json → Option (List α)
  | .array items => items.mapM read
  | _ => none

/-- An object whose members are values of one kind; of those with one name the last stays. -/
def dictionary? (read : Json → Option α) : Json → Option (Dictionary α)
  | .object members =>
    (members.mapM fun member => (read member.2).map (member.1, ·)).map Dictionary.ofList
  | _ => none

/-- The object of a dictionary. -/
def ofDictionary (write : α → Json) (dictionary : Dictionary α) : Json :=
  .object (dictionary.entries.map fun entry => (entry.1, write entry.2))

/-- The array of some texts. -/
def ofTexts (texts : List String) : Json := .array (texts.map .string)

end Leasehold.Json
