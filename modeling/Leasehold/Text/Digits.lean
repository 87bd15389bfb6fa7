/-
**Digits.**

Numbers written in ASCII digits, read from the front of a text or taken as a whole text.

* `digitValue?`, `hexValue?`: the value of one digit, decimal or hexadecimal;
* `takeNumber`: the number at the front of a text, and the rest of the text;
* `unsigned?`: a whole text as a number below a bound, with an optional plus sign;
* `padded`: a number in at least so many digits.
-/

namespace Leasehold.Text

/-- The value of an ASCII digit. -/
def digitValue? (character : Char) : Option Nat :=
  if character.isDigit then some (character.toNat - '0'.toNat) else none

/-- The value of a hexadecimal digit. -/
def hexValue? (character : Char) : Option Nat :=
  if character.isDigit then some (character.toNat - '0'.toNat)
  else if 'a' ≤ character ∧ character ≤ 'f' then some (character.toNat - 'a'.toNat + 10)
  else if 'A' ≤ character ∧ character ≤ 'F' then some (character.toNat - 'A'.toNat + 10)
  else none

/-- The number that a list of digits writes. -/
def digitsValue (digits : List Char) : Nat :=
  digits.foldl (fun value digit => value * 10 + (digit.toNat - '0'.toNat)) 0

/-- The digits at the front of a text, at most `limit` of them, and the rest of the text. -/
def spanDigits (limit : Nat) (text : List Char) : List Char × List Char :=
  let digits := (text.take limit).takeWhile Char.isDigit
  (digits, text.drop digits.length)

/-- The number that at most `limit` digits at the front of a text write, and the rest. -/
def takeNumber (limit : Nat) (text : List Char) : Option (Nat × List Char) :=
  match spanDigits limit text with
  | ([], _) => none
  | (digits, rest) => some (digitsValue digits, rest)

/-- A whole text as a number below `bound`: ASCII digits after an optional plus sign. -/
def unsigned? (bound : Nat) (text : String) : Option Nat :=
  let digits := match text.toList with
    | '+' :: rest => rest
    | characters => characters
  if digits ≠ [] ∧ digits.all Char.isDigit ∧ digitsValue digits < bound then
    some (digitsValue digits)
  else none

/-- A number in decimal, with zeros in front up to `width` digits. -/
def padded (width : Nat) (number : Nat) : String :=
  let digits := toString number
  String.ofList (List.replicate (width - digits.length) '0') ++ digits

end Leasehold.Text
