/-
**Scalars in JSON texts.**

The parts of a text without a structure of their own, each read at the front of the text. A bare
control character in a string, half of a surrogate pair, or a number too large to be finite is no
scalar.

* `Json.Reader.skipBlanks`: the text after its blanks;
* `Json.Reader.number?`: a number, whole if it is written so and fits 64 bits;
* `Json.Reader.string?`: the characters of a string after its opening quote.
-/

import Leasehold.Json.Basic

namespace Leasehold.Json.Reader

open Leasehold.Text

/-- The text after its leading blanks. -/
def skipBlanks (text : List Char) : List Char :=
  text.dropWhile fun character =>
    character = ' ' || character = '\n' || character = '\t' || character = '\r'

/-! ### Numbers -/

/--
The significand after the digits at the front of a text, as long as it stays below `2 ^ 64`, with
the number of digits taken and the rest of the text.
-/
def growSignificand (significand : Nat) : List Char → Nat × Nat × List Char
  | [] => (significand, 0, [])
  | character :: rest =>
    match digitValue? character with
    | none => (significand, 0, character :: rest)
    | some digit =>
      if significand * 10 + digit < UInt64.size then
        let (grown, taken, rest) := growSignificand (significand * 10 + digit) rest
        (grown, taken + 1, rest)
      else (significand, 0, character :: rest)

/-- Whether a text starts with a digit. -/
def startsWithDigit : List Char → Bool
  | character :: _ => character.isDigit
  | [] => false

/-- A fraction with a sign. -/
def signed (negative : Bool) (number : Binary64) : Number :=
  .fraction (if negative then number.neg else number)

/-- A fraction from its digits and power of ten. -/
def fraction? (negative : Bool) (significand : Nat) (exponent : Int) : Option Number :=
  (Binary64.ofDecimal? significand exponent).map (signed negative)

/--
The digits of an exponent. One beyond 31 bits makes the number too large, or zero when it is
negative or the digits of the number are.
-/
def exponentSize? (negative : Bool) (significand : Nat) (start : Int) (down : Bool)
    (text : List Char) : Option (Number × List Char) :=
  let digits := text.takeWhile Char.isDigit
  let rest := text.drop digits.length
  let size := digitsValue digits
  if digits = [] then none
  else if size < 0x80000000 then
    (fraction? negative significand (if down then start - size else start + size)).map
      fun number => (number, rest)
  else if significand ≠ 0 ∧ ¬ down then none
  else some (signed negative (Binary64.zero false), rest)

/-- The exponent after an `e`. -/
def exponent? (negative : Bool) (significand : Nat) (start : Int) (text : List Char) :
    Option (Number × List Char) :=
  match text with
  | '+' :: rest => exponentSize? negative significand start false rest
  | '-' :: rest => exponentSize? negative significand start true rest
  | rest => exponentSize? negative significand start false rest

/-- The exponent, if the text has one, after all digits. -/
def afterDigits? (negative : Bool) (significand : Nat) (exponent : Int) (text : List Char) :
    Option (Number × List Char) :=
  match text with
  | 'e' :: rest => exponent? negative significand exponent rest
  | 'E' :: rest => exponent? negative significand exponent rest
  | rest => (fraction? negative significand exponent).map fun number => (number, rest)

/-- The digits after a point; those that do not fit the significand are dropped. -/
def decimals? (negative : Bool) (significand : Nat) (dropped : Nat) (text : List Char) :
    Option (Number × List Char) :=
  let (grown, taken, rest) := growSignificand significand text
  let exponent : Int := (dropped : Int) - taken
  if startsWithDigit rest then
    afterDigits? negative grown exponent (rest.dropWhile Char.isDigit)
  else if taken = 0 then none
  else afterDigits? negative grown exponent rest

/-- The number after the digits before its point. -/
def afterWhole? (negative : Bool) (significand : Nat) (text : List Char) :
    Option (Number × List Char) :=
  match text with
  | '.' :: rest => decimals? negative significand 0 rest
  | 'e' :: rest => exponent? negative significand 0 rest
  | 'E' :: rest => exponent? negative significand 0 rest
  | rest =>
    if ¬ negative then some (.whole significand, rest)
    else if 1 ≤ significand ∧ significand ≤ 0x8000000000000000 then
      some (.whole (-significand), rest)
    else (fraction? true significand 0).map fun number => (number, rest)

/-- A number without its sign. -/
def magnitude? (negative : Bool) (text : List Char) : Option (Number × List Char) :=
  match text with
  | '0' :: rest => if startsWithDigit rest then none else afterWhole? negative 0 rest
  | text =>
    let (significand, taken, rest) := growSignificand 0 text
    if taken = 0 then none
    else if startsWithDigit rest then
      let extra := rest.takeWhile Char.isDigit
      match rest.drop extra.length with
      | '.' :: rest => decimals? negative significand extra.length rest
      | rest => afterDigits? negative significand extra.length rest
    else afterWhole? negative significand rest

/-- A number at the front of a text, and the rest. -/
def number? : List Char → Option (Number × List Char)
  | '-' :: rest => magnitude? true rest
  | text => magnitude? false text

/-! ### Strings -/

/-- The code unit that four hexadecimal digits write. -/
def codeUnit? (first second third fourth : Char) : Option Nat := do
  some ((((← hexValue? first) * 16 + (← hexValue? second)) * 16 + (← hexValue? third)) * 16
    + (← hexValue? fourth))

/-- The character that a short escape stands for. -/
def escaped? : Char → Option Char
  | '"' => some '"'
  | '\\' => some '\\'
  | '/' => some '/'
  | 'b' => some '\x08'
  | 'f' => some '\x0c'
  | 'n' => some '\n'
  | 'r' => some '\r'
  | 't' => some '\t'
  | _ => none

/-- The characters up to the closing quote, in reverse before `read`, and the rest of the text. -/
def stringFrom? (read : List Char) : List Char → Option (String × List Char)
  | [] => none
  | '"' :: rest => some (String.ofList read.reverse, rest)
  | '\\' :: 'u' :: a :: b :: c :: d :: rest =>
    match codeUnit? a b c d with
    | none => none
    | some unit =>
      if 0xDC00 ≤ unit ∧ unit ≤ 0xDFFF then none
      else if 0xD800 ≤ unit ∧ unit ≤ 0xDBFF then
        match rest with
        | '\\' :: 'u' :: e :: f :: g :: h :: rest =>
          match codeUnit? e f g h with
          | none => none
          | some low =>
            if 0xDC00 ≤ low ∧ low ≤ 0xDFFF then
              stringFrom?
                (Char.ofNat (0x10000 + (unit - 0xD800) * 0x400 + (low - 0xDC00)) :: read) rest
            else none
        | _ => none
      else stringFrom? (Char.ofNat unit :: read) rest
  | '\\' :: character :: rest =>
    match escaped? character with
    | some meant => stringFrom? (meant :: read) rest
    | none => none
  | character :: rest =>
    if character.toNat < 0x20 ∨ character = '\\' then none else stringFrom? (character :: read) rest

/-- The string whose opening quote has been read. -/
def string? (text : List Char) : Option (String × List Char) := stringFrom? [] text

end Leasehold.Json.Reader
