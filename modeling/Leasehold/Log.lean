/-
**Log entries.**

An entry has a level, a message and named fields. Texts quoted inside a field are written as a
list of quoted strings.

* `Log.Entry`: one entry;
* `Log.quotedList`: a list of texts in brackets, each in quotes.
-/

import Leasehold.Text.Hidden

namespace Leasehold.Log

/-- How much an entry matters. -/
inductive Level where
  | debug
  | info
  | warn
  | error
deriving DecidableEq, Repr

namespace Level

/-- The level in capitals. -/
def name : Level → String
  | .debug => "DEBUG"
  | .info => "INFO"
  | .warn => "WARN"
  | .error => "ERROR"

end Level

/-- The value of a field. -/
inductive Value where
  | text (value : String)
  | count (value : Int)
deriving DecidableEq, Repr

/-- One log entry. -/
structure Entry where
  level : Level
  message : String
  fields : List (String × Value)
deriving DecidableEq, Repr

/-- A character between quotes: quotes, backslashes and what is hidden are escaped. -/
def shown (character : Char) : List Char :=
  match character with
  | '"' => ['\\', '"']
  | '\\' => ['\\', '\\']
  | '\n' => ['\\', 'n']
  | '\r' => ['\\', 'r']
  | '\t' => ['\\', 't']
  | '\x00' => ['\\', '0']
  | character =>
    if Text.isHidden character then
      ['\\', 'u', '\x7b'] ++ Nat.toDigits 16 character.toNat ++ ['\x7d']
    else [character]

/-- A text in quotes. -/
def quoted (text : String) : String :=
  "\"" ++ String.ofList (text.toList.flatMap shown) ++ "\""

/-- Texts in quotes between brackets. -/
def quotedList (texts : List String) : String :=
  "[" ++ ", ".intercalate (texts.map quoted) ++ "]"

end Leasehold.Log
