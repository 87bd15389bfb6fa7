/-
**Passing over JSON values.**

The text after a value that does not matter. The value has to be written like one, but its numbers
may be too large, its strings may hold halves of surrogate pairs, and it may be nested to any depth.

* `Json.Reader.skipNumber?`, `Json.Reader.skipString?`: the text after a number or a string;
* `Json.Reader.skipValue?`: the text after a value.
-/

import Leasehold.Json.Scalar

namespace Leasehold.Json.Reader

/-! ### Numbers -/

/-- The text after its leading digits. -/
def skipDigits (text : List Char) : List Char := text.dropWhile Char.isDigit

/-- The text after the exponent that follows an `e`. -/
def skipExponent? (text : List Char) : Option (List Char) :=
  let digits := match text with
    | '+' :: rest => rest
    | '-' :: rest => rest
    | rest => rest
  if startsWithDigit digits then some (skipDigits digits) else none

/-- The text after the exponent, if it has one. -/
def skipPower? : List Char → Option (List Char)
  | 'e' :: rest => skipExponent? rest
  | 'E' :: rest => skipExponent? rest
  | rest => some rest

/-- The text after what follows the digits of a whole number. -/
def skipDecimals? : List Char → Option (List Char)
  | '.' :: rest => if startsWithDigit rest then skipPower? (skipDigits rest) else none
  | rest => skipPower? rest

/-- The text after a number without its sign. -/
def skipMagnitude? : List Char → Option (List Char)
  | '0' :: rest => if startsWithDigit rest then none else skipDecimals? rest
  | text => if startsWithDigit text then skipDecimals? (skipDigits text) else none

/-- The text after a number. -/
def skipNumber? : List Char → Option (List Char)
  | '-' :: rest => skipMagnitude? rest
  | text => skipMagnitude? text

/-! ### Strings -/

/-- The text after a string whose opening quote has been read. -/
def skipString? : List Char → Option (List Char)
  | [] => none
  | '"' :: rest => some rest
  | '\\' :: 'u' :: a :: b :: c :: d :: rest =>
    match codeUnit? a b c d with
    | none => none
    | some _ => skipString? rest
  | '\\' :: character :: rest =>
    match escaped? character with
    | none => none
    | some _ => skipString? rest
  | character :: rest =>
    if character.toNat < 0x20 ∨ character = '\\' then none else skipString? rest

/-! ### Values -/

/-- What is open around a place in a text. -/
inductive Bracket where
  | array
  | object
deriving DecidableEq, Repr

/-- What has to come next in a text. -/
inductive Awaited where
  | value
  /-- The name of a member, with its value after it. -/
  | name
  /-- One more item or member, or the end of what is open. -/
  | more
deriving DecidableEq, Repr

/--
The text after all that is open, the innermost bracket first; `fuel` bounds the number of steps, of
which each but the last takes a character.
-/
def skip? : Nat → Awaited → List Bracket → List Char → Option (List Char)
  | 0, _, _, _ => none
  | fuel + 1, .value, opened, text =>
    match skipBlanks text with
    | 'n' :: 'u' :: 'l' :: 'l' :: rest => skip? fuel .more opened rest
    | 't' :: 'r' :: 'u' :: 'e' :: rest => skip? fuel .more opened rest
    | 'f' :: 'a' :: 'l' :: 's' :: 'e' :: rest => skip? fuel .more opened rest
    | '"' :: rest =>
      match skipString? rest with
      | none => none
      | some rest => skip? fuel .more opened rest
    | '[' :: rest =>
      match skipBlanks rest with
      | ']' :: rest => skip? fuel .more opened rest
      | rest => skip? fuel .value (.array :: opened) rest
    | '\x7b' :: rest =>
      match skipBlanks rest with
      | '\x7d' :: rest => skip? fuel .more opened rest
      | rest => skip? fuel .name (.object :: opened) rest
    | text =>
      match skipNumber? text with
      | none => none
      | some rest => skip? fuel .more opened rest
  | fuel + 1, .name, opened, text =>
    match skipBlanks text with
    | '"' :: rest =>
      match (skipString? rest).map skipBlanks with
      | some (':' :: rest) => skip? fuel .value opened rest
      | _ => none
    | _ => none
  | _ + 1, .more, [], text => some text
  | fuel + 1, .more, .array :: opened, text =>
    match skipBlanks text with
    | ',' :: rest => skip? fuel .value (.array :: opened) rest
    | ']' :: rest => skip? fuel .more opened rest
    | _ => none
  | fuel + 1, .more, .object :: opened, text =>
    match skipBlanks text with
    | ',' :: rest => skip? fuel .name (.object :: opened) rest
    | '\x7d' :: rest => skip? fuel .more opened rest
    | _ => none

/-- The text after a value. -/
def skipValue? (text : List Char) : Option (List Char) := skip? (text.length + 2) .value [] text

end Leasehold.Json.Reader
