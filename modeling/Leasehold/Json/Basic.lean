/-
**JSON values.**

A value is a tree of the six kinds. Whole numbers of 64 bits are kept apart from binary fractions,
and an object keeps its members in the order of its text, repeated names included.

* `Json.field?`: the last member of an object with a name;
* `Json.canonical`: the same value with the members of each object sorted and without repetition;
* `Json.ofOption`: a value, or null.
-/

import Leasehold.Dictionary
import Leasehold.Json.Binary64

namespace Leasehold

/-- A number: a whole number of 64 bits, signed or not, or a binary fraction. -/
inductive Number where
  | whole (value : Int)
  | fraction (value : Binary64)
deriving DecidableEq, Repr

/-- A JSON value. -/
inductive Json where
  | null
  | bool (value : Bool)
  | number (value : Number)
  | string (value : String)
  | array (items : List Json)
  | object (members : List (String × Json))
deriving Inhabited

namespace Json

/-- A whole number. -/
def int (value : Int) : Json := .number (.whole value)

/-- A natural number. -/
def nat (value : Nat) : Json := .number (.whole value)

/-- A value, or null. -/
def ofOption : Option Json → Json
  | some value => value
  | none => .null

/-- The last member with a name, if the value is an object that has one. -/
def field? (name : String) : Json → Option Json
  | .object members => (members.reverse.find? fun member => member.1 == name).map Prod.snd
  | _ => none

mutual

/-- The value with sorted members; of members with one name the last stays. -/
def canonical : Json → Json
  | .array items => .array (canonicalItems items)
  | .object members => .object (canonicalMembers members [])
  | value => value

/-- The canonical forms of the items of an array. -/
def canonicalItems : List Json → List Json
  | [] => []
  | item :: rest => item.canonical :: canonicalItems rest

/-- Sorted members after more of them. -/
def canonicalMembers : List (String × Json) → List (String × Json) → List (String × Json)
  | [], sorted => sorted
  | (name, value) :: rest, sorted => canonicalMembers rest (insertEntry name value.canonical sorted)

end

end Json

end Leasehold
