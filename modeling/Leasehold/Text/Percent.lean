/-
**Percent signs in texts.**

A percent sign with two hexadecimal digits after it stands for the byte that they write. Any other
character stands for itself.

* `percentBytes`: the bytes that a text stands for;
* `percentText?`: the text of these bytes, if they are one;
* `formText`, `formFields`: parts of a form, in which a plus sign stands for a space.
-/

import Leasehold.Text.Digits

namespace Leasehold.Text

/-- The byte that two hexadecimal digits write. -/
def hexByte? (high low : Char) : Option UInt8 := do
  some (UInt8.ofNat ((← hexValue? high) * 16 + (← hexValue? low)))

/-- The bytes that a text stands for. -/
def percentBytes : List Char → List UInt8
  | [] => []
  | '%' :: high :: low :: rest =>
    match hexByte? high low with
    | some byte => byte :: percentBytes rest
    | none => String.utf8EncodeChar '%' ++ percentBytes (high :: low :: rest)
  | character :: rest => String.utf8EncodeChar character ++ percentBytes rest

/-- The text that a text with percent signs stands for, unless its bytes are no text. -/
def percentText? (text : List Char) : Option String :=
  String.fromUTF8? ⟨(percentBytes text).toArray⟩

/-! ### Forms -/

/-- What is shown in the place of bytes that are no text. -/
def replacement : String := "\uFFFD"

/-- The text that a part of a form stands for. -/
def formText (text : List Char) : String :=
  (percentText? (text.map fun character => if character = '+' then ' ' else character)).getD
    replacement

/-- A field of a form, with its value after the first equals sign. -/
def formField (text : String) : String × String :=
  let name := text.toList.takeWhile (· ≠ '=')
  (formText name, formText (text.toList.drop (name.length + 1)))

/-- The fields of a form, with ampersands between them. -/
def formFields (text : String) : List (String × String) :=
  ((text.splitOn "&").filter (· ≠ "")).map formField

end Leasehold.Text
