/-
**Reading requests.**

A request is a JSON value with named fields. It is read field by field, and the first fault ends the
reading.

* `Wire.Read`: what is read, or the fault;
* `Wire.field`, `Wire.fieldOr`, `Wire.field?`: a field that must be there, that has a default, or
  that may be absent;
* `Wire.listOf`, `Wire.pairOf`, `Wire.intBetween`: values of some kinds.
-/

import Leasehold.Json.Record

namespace Leasehold.Wire

/-- Why a request cannot be read. -/
inductive Fault where
  /-- It does not have the form of a request. -/
  | malformed
  /-- A payload in it is not one of its process type. -/
  | unfitPayload
deriving DecidableEq, Repr

/-- What is read, or the fault. -/
abbrev Read : Type → Type := Except Fault

variable {α β : Type}

/-- The fault of a malformed request. -/
def refuse : Read α := .error .malformed

/-- A value that must be there. -/
def orRefuse : Option α → Read α
  | some value => .ok value
  | none => refuse

/-! ### Fields -/

/-- The members of an object. -/
def members : Json → Read (List (String × Json))
  | .object entries => .ok entries
  | _ => refuse

/-- The value of a field that must be there, null or not. -/
def need (json : Json) (name : String) : Read Json := orRefuse (json.field? name)

/-- The value of a field that may be absent; null counts as absent. -/
def given? (json : Json) (name : String) : Option Json :=
  match json.field? name with
  | some .null => none
  | other => other

/-- A field that must be there. -/
def field (json : Json) (name : String) (read : Json → Read α) : Read α := do
  read (← need json name)

/-- A field that may be absent. -/
def field? (json : Json) (name : String) (read : Json → Read α) : Read (Option α) :=
  (given? json name).mapM read

/-- A field with a default. -/
def fieldOr (json : Json) (name : String) (default : α) (read : Json → Read α) : Read α := do
  return (← field? json name read).getD default

/-! ### Values -/

/-- A text. -/
def text (json : Json) : Read String := orRefuse json.text?

/-- A truth value. -/
def bool : Json → Read Bool
  | .bool value => .ok value
  | _ => refuse

/-- A whole number in a range. -/
def intBetween (low high : Int) : Json → Read Int
  | .number (.whole value) => if low ≤ value ∧ value ≤ high then .ok value else refuse
  | _ => refuse

/-- A signed number of 64 bits. -/
def int64 : Json → Read Int := intBetween (-0x8000000000000000) 0x7fffffffffffffff

/-- A signed number of 32 bits. -/
def int32 : Json → Read Int := intBetween (-0x80000000) 0x7fffffff

/-- A natural number below a bound. -/
def natBelow (bound : Nat) (json : Json) : Read Nat := do
  return (← intBetween 0 (bound - 1) json).toNat

/-- An unsigned number of 64 bits. -/
def word : Json → Read Nat := natBelow UInt64.size

/-- An unsigned number of 32 bits. -/
def halfWord : Json → Read Nat := natBelow UInt32.size

/-- An array of values of one kind. -/
def listOf (read : Json → Read α) : Json → Read (List α)
  | .array items => items.mapM read
  | _ => refuse

/-- An array of two values. -/
def pairOf (first : Json → Read α) (second : Json → Read β) : Json → Read (α × β)
  | .array [one, two] => return (← first one, ← second two)
  | _ => refuse

/-- An object whose members are texts. -/
def textMap (json : Json) : Read (Dictionary String) := orRefuse (Json.dictionary? Json.text? json)

end Leasehold.Wire
