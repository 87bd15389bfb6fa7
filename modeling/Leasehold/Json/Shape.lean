/-
**Shapes of JSON values.**

A reader that looks for certain members need not understand the others. A shape says where such
members can stand.

* `Json.Shape`: the shapes;
* `Shape.item`: the shape of the items of an array;
* `Shape.member?`: the shape of a member that matters;
* `Shape.ofFields`: the shape of a record.
-/

import Leasehold.Json.Basic

namespace Leasehold.Json

/-- Which parts of a value matter. -/
inductive Shape where
  /-- All of it. -/
  | whole
  /-- An object of which only the members with these names matter. -/
  | record (fields : List (String × Shape))
  /-- An array with items of one shape. -/
  | list (item : Shape)
deriving Inhabited

namespace Shape

/-- The shape of the items, if the value is an array. -/
def item : Shape → Shape
  | .list item => item
  | _ => .whole

/-- The shape of the member with a name, if the value is an object and the member matters. -/
def member? (name : String) : Shape → Option Shape
  | .record fields => (fields.find? fun field => field.1 == name).map Prod.snd
  | _ => some .whole

/-- A record whose fields matter as a whole. -/
def ofFields (fields : List String) : Shape := .record (fields.map (·, .whole))

end Shape

end Leasehold.Json
