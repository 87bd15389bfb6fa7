/-
**Reading JSON texts.**

One value with blanks around it, at most 127 arrays and objects deep. Members that do not matter are
passed over.

* `Json.read?`: the value that a text writes;
* `Json.readAs?`: the same, without the members that do not matter to a shape.
-/

import Leasehold.Json.Shape
import Leasehold.Json.Skip

namespace Leasehold.Json

namespace Reader

mutual

/--
A value of a shape at the front of a text; `depth` bounds the nesting and `fuel` the number of
steps.
-/
def value? (fuel depth : Nat) (shape : Shape) (text : List Char) : Option (Json × List Char) :=
  match fuel with
  | 0 => none
  | fuel + 1 =>
    match skipBlanks text with
    | 'n' :: 'u' :: 'l' :: 'l' :: rest => some (.null, rest)
    | 't' :: 'r' :: 'u' :: 'e' :: rest => some (.bool true, rest)
    | 'f' :: 'a' :: 'l' :: 's' :: 'e' :: rest => some (.bool false, rest)
    | '"' :: rest => (string? rest).map fun (value, rest) => (.string value, rest)
    | '[' :: rest =>
      if depth ≤ 1 then none
      else
        match skipBlanks rest with
        | ']' :: rest => some (.array [], rest)
        | rest =>
          (items? fuel (depth - 1) shape.item rest).map fun (items, rest) => (.array items, rest)
    | '\x7b' :: rest =>
      if depth ≤ 1 then none
      else
        match skipBlanks rest with
        | '\x7d' :: rest => some (.object [], rest)
        | rest =>
          (members? fuel (depth - 1) shape rest).map fun (members, rest) => (.object members, rest)
    | text => (number? text).map fun (found, rest) => (.number found, rest)

/-- One or more items of a shape up to the bracket that closes the array. -/
def items? (fuel depth : Nat) (shape : Shape) (text : List Char) :
    Option (List Json × List Char) :=
  match fuel with
  | 0 => none
  | fuel + 1 => do
    let (item, rest) ← value? fuel depth shape text
    match skipBlanks rest with
    | ',' :: rest =>
      let (items, rest) ← items? fuel depth shape rest
      some (item :: items, rest)
    | ']' :: rest => some ([item], rest)
    | _ => none

/-- One or more members up to the brace that closes an object of a shape. -/
def members? (fuel depth : Nat) (shape : Shape) (text : List Char) :
    Option (List (String × Json) × List Char) :=
  match fuel with
  | 0 => none
  | fuel + 1 =>
    match skipBlanks text with
    | '"' :: rest => do
      let (name, rest) ← string? rest
      match skipBlanks rest with
      | ':' :: rest =>
        let (first, rest) ← match shape.member? name with
          | some shape => (value? fuel depth shape rest).map fun (value, rest) =>
            ([(name, value)], rest)
          | none => (skipValue? rest).map fun rest => ([], rest)
        match skipBlanks rest with
        | ',' :: rest =>
          let (members, rest) ← members? fuel depth shape rest
          some (first ++ members, rest)
        | '\x7d' :: rest => some (first, rest)
        | _ => none
      | _ => none
    | _ => none

end

end Reader

/-- The value that a whole text writes, without the members that do not matter to a shape. -/
def readAs? (shape : Shape) (text : String) : Option Json :=
  match Reader.value? (2 * text.length + 2) 128 shape text.toList with
  | some (value, rest) => if Reader.skipBlanks rest = [] then some value else none
  | none => none

/-- The value that a whole text writes. -/
def read? (text : String) : Option Json := readAs? .whole text

end Leasehold.Json
