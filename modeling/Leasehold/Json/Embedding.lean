/-
**Texts in the place of values.**

An object whose first member has a name of its own stands for the value that the string in this
member writes. It has no other member.

* `Json.opened?`: the value with the embedded texts read;
* `Json.settled?`: the same in its canonical form.
-/

import Leasehold.Json.Reader

namespace Leasehold.Json

/-- The name of the member with an embedded text. -/
def embeddingName : String := "$serde_json::private::RawValue"

mutual

/-- The value with every embedded text read. -/
def openWith? (read : String → Option Json) : Json → Option Json
  | .array items => (openItems? read items).map .array
  | .object [] => some (.object [])
  | .object ((name, value) :: rest) =>
    if name = embeddingName then
      match value, rest with
      | .string text, [] => read text
      | _, _ => none
    else do
      let first ← openWith? read value
      let others ← openMembers? read rest
      some (.object ((name, first) :: others))
  | value => some value

/-- Items with every embedded text read. -/
def openItems? (read : String → Option Json) : List Json → Option (List Json)
  | [] => some []
  | item :: rest => do
    let first ← openWith? read item
    let others ← openItems? read rest
    some (first :: others)

/-- Members with every embedded text read. -/
def openMembers? (read : String → Option Json) :
    List (String × Json) → Option (List (String × Json))
  | [] => some []
  | (name, value) :: rest => do
    let first ← openWith? read value
    let others ← openMembers? read rest
    some ((name, first) :: others)

end

/-- The value that an embedded text writes. A text in it is shorter, so `fuel` can be its length. -/
def readEmbedded? : Nat → String → Option Json
  | 0, _ => none
  | fuel + 1, text => (read? text).bind (openWith? (readEmbedded? fuel))

/-- The value with every embedded text read. -/
def opened? (value : Json) : Option Json :=
  openWith? (fun text => readEmbedded? text.length text) value

/-- The canonical form of the value, with every embedded text read. -/
def settled? (value : Json) : Option Json := value.opened?.map canonical

end Leasehold.Json
