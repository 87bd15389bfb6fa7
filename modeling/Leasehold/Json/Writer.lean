/-
**Writing JSON texts.**

A value is written without blanks. In a string only the quote, the backslash and the control
characters are escaped.

* `Json.text`: the text of a value;
* `Json.quoted`: a string with its quotes.
-/

import Leasehold.Json.Basic

namespace Leasehold.Json

/-- A digit of a hexadecimal number. -/
def hexDigit (value : Nat) : Char :=
  if value < 10 then Char.ofNat ('0'.toNat + value) else Char.ofNat ('a'.toNat + value - 10)

/-- A character as it stands in a string. -/
def escape (character : Char) : String :=
  match character with
  | '"' => "\\\""
  | '\\' => "\\\\"
  | '\n' => "\\n"
  | '\r' => "\\r"
  | '\t' => "\\t"
  | '\x08' => "\\b"
  | '\x0c' => "\\f"
  | character =>
    if character.toNat < 0x20 then
      "\\u00" ++ String.ofList [hexDigit (character.toNat / 16), hexDigit (character.toNat % 16)]
    else String.singleton character

/-- A string with its quotes. -/
def quoted (value : String) : String :=
  value.foldl (fun written character => written ++ escape character) "\"" ++ "\""

/-- A number. -/
def numberText : Number → String
  | .whole value => toString value
  | .fraction value => value.text

mutual

/-- What has been written, followed by a value. -/
def append (written : String) : Json → String
  | .null => written ++ "null"
  | .bool value => written ++ if value then "true" else "false"
  | .number value => written ++ numberText value
  | .string value => written ++ quoted value
  | .array [] => written ++ "[]"
  | .array (item :: rest) => appendItems (append (written ++ "[") item) rest ++ "]"
  | .object [] => written ++ "\x7b\x7d"
  | .object ((name, value) :: rest) =>
    appendMembers (append (written ++ "\x7b" ++ quoted name ++ ":") value) rest ++ "\x7d"

/-- What has been written, followed by items with a comma before each. -/
def appendItems (written : String) : List Json → String
  | [] => written
  | item :: rest => appendItems (append (written ++ ",") item) rest

/-- What has been written, followed by members with a comma before each. -/
def appendMembers (written : String) : List (String × Json) → String
  | [] => written
  | (name, value) :: rest =>
    appendMembers (append (written ++ "," ++ quoted name ++ ":") value) rest

end

/-- The text of a value. -/
def text (value : Json) : String := append "" value

end Leasehold.Json
