/-
**Times as RFC 3339 texts.**

A `UtcTime` is what such a text names: an instant, or the inserted second after one. It is written
in UTC with a `Z` and with the fewest of 0, 3, 6 or 9 fractional digits that lose nothing. Reading
takes any offset, blanks between the parts, `t` or a blank for the `T`, and `UTC` for the `Z`.

* `UtcTime.text`: the written form;
* `UtcTime.readFields?`, `Fields.time?`: the parts of a text, and the time that they make up;
* `UtcTime.read?`: what a text names, if it is one of these texts;
* `UtcTime.elapsedNanos`: the time from such a time to an instant.
-/

import Leasehold.Time.Instant
import Leasehold.Time.Calendar
import Leasehold.Text.Blank
import Leasehold.Text.Digits

namespace Leasehold

open Leasehold.Text

/--
A time of the UTC scale. A `leap` time lies in the inserted second, one second after `instant`.
-/
structure UtcTime where
  instant : Instant
  leap : Bool := false
deriving DecidableEq, Repr

namespace UtcTime

/-! ### Parts of a day -/

/-- Seconds from the epoch, rounded toward the past. -/
def seconds (time : UtcTime) : Int := time.instant.nanos / 1000000000

/-- Nanoseconds beyond the second. -/
def subsecNanos (time : UtcTime) : Nat := (time.instant.nanos % 1000000000).toNat

/-- Seconds from the start of the day of an instant. -/
def secondOfDay (instant : Instant) : Int := instant.nanos / 1000000000 % 86400

/--
Nanoseconds from a time to an instant. An inserted second counts as passed once the clock of the
day shows a later second.
-/
def elapsedNanos (time : UtcTime) (now : Instant) : Int :=
  let difference := now.nanos - time.instant.nanos
  if time.leap && secondOfDay now ≤ secondOfDay time.instant then difference - 1000000000
  else difference

/-! ### Writing -/

/-- The year in four digits, or with a sign if four digits do not show it. -/
def yearText (year : Int) : String :=
  if 0 ≤ year ∧ year ≤ 9999 then padded 4 year.toNat
  else (if year < 0 then "-" else "+") ++ padded 4 year.natAbs

/-- The fraction of a second in the fewest of 0, 3, 6 or 9 digits. -/
def fractionText (nanos : Nat) : String :=
  if nanos = 0 then ""
  else if nanos % 1000000 = 0 then "." ++ padded 3 (nanos / 1000000)
  else if nanos % 1000 = 0 then "." ++ padded 6 (nanos / 1000)
  else "." ++ padded 9 nanos

/-- The time in UTC. -/
def text (time : UtcTime) : String :=
  let date := Date.ofDays (time.seconds / 86400)
  let second := (time.seconds % 86400).toNat
  yearText date.year ++ "-" ++ padded 2 date.month ++ "-" ++ padded 2 date.day ++ "T"
    ++ padded 2 (second / 3600) ++ ":" ++ padded 2 (second / 60 % 60) ++ ":"
    ++ padded 2 (second % 60 + if time.leap then 1 else 0)
    ++ fractionText time.subsecNanos ++ "Z"

/-! ### Reading -/

/-- The rest of a text after a character that must come first. -/
def skip (character : Char) : List Char → Option (List Char)
  | first :: rest => if first = character then some rest else none
  | [] => none

/-- A number after blanks, in at most two digits. -/
def readPart (characters : List Char) : Option (Nat × List Char) :=
  takeNumber 2 (dropBlanks characters)

/-- The year: at most four digits, or any number of them after a sign. -/
def readYear (characters : List Char) : Option (Int × List Char) :=
  match dropBlanks characters with
  | '-' :: rest => (takeNumber rest.length rest).map fun (year, rest) => (-(year : Int), rest)
  | '+' :: rest => (takeNumber rest.length rest).map fun (year, rest) => ((year : Int), rest)
  | rest => (takeNumber 4 rest).map fun (year, rest) => ((year : Int), rest)

/-- The nanoseconds after a point, if there is one; digits beyond the ninth are dropped. -/
def readFraction : List Char → Option (Nat × List Char)
  | '.' :: rest =>
    match spanDigits 9 rest with
    | ([], _) => none
    | (digits, rest) =>
      some (digitsValue digits * Nat.pow 10 (9 - digits.length), rest.dropWhile Char.isDigit)
  | rest => some (0, rest)

/-- Seconds east of UTC of an offset without its sign: two digits, blanks and colons, two digits. -/
def readOffsetSize (characters : List Char) : Option (Nat × List Char) :=
  match characters with
  | first :: second :: rest => do
    let hours := (← digitValue? first) * 10 + (← digitValue? second)
    match rest.dropWhile fun character => character = ':' || isBlank character with
    | first :: second :: rest =>
      let tens ← digitValue? first
      let ones ← digitValue? second
      if tens ≤ 5 then some (hours * 3600 + (tens * 10 + ones) * 60, rest) else none
    | _ => none
  | _ => none

/-- Seconds east of UTC: `Z`, `UTC` in any case, or a sign and an offset. -/
def readOffset (characters : List Char) : Option (Int × List Char) :=
  match characters with
  | sign :: rest =>
    if (characters.take 3).map Char.toUpper = ['U', 'T', 'C'] then some (0, characters.drop 3)
    else if sign = 'Z' ∨ sign = 'z' then some (0, rest)
    else if sign = '+' then (readOffsetSize rest).map fun (size, rest) => ((size : Int), rest)
    else if sign = '-' ∨ sign = '−' then
      (readOffsetSize rest).map fun (size, rest) => (-(size : Int), rest)
    else none
  | [] => none

/-- The rest of a text after the character between day and hour. -/
def skipSeparator : List Char → Option (List Char)
  | separator :: rest =>
    if separator = 'T' ∨ separator = 't' ∨ separator = ' ' then some rest else none
  | [] => none

/-- The parts that a text names, which need not make up a time. -/
structure Fields where
  date : Date
  hour : Nat
  minute : Nat
  second : Nat
  /-- Nanoseconds beyond the second. -/
  fraction : Nat
  /-- Seconds east of UTC. -/
  offset : Int
deriving DecidableEq, Repr

/-- The parts at the front of a text, and the rest. -/
def readFields? (characters : List Char) : Option (Fields × List Char) := do
  let (year, rest) ← readYear characters
  let rest ← skip '-' (dropBlanks rest)
  let (month, rest) ← readPart rest
  let rest ← skip '-' (dropBlanks rest)
  let (day, rest) ← readPart rest
  let rest ← skipSeparator rest
  let (hour, rest) ← readPart rest
  let rest ← skip ':' (dropBlanks rest)
  let (minute, rest) ← readPart rest
  let rest ← skip ':' (dropBlanks rest)
  let (second, rest) ← readPart rest
  let (fraction, rest) ← readFraction rest
  let (offset, rest) ← readOffset (dropBlanks rest)
  some (⟨⟨year, month, day⟩, hour, minute, second, fraction, offset⟩, rest)

/-- The time that some parts make up. The second after 59 is an inserted one. -/
def Fields.time? (fields : Fields) : Option UtcTime :=
  if fields.date.isValid ∧ -262143 ≤ fields.date.year ∧ fields.date.year ≤ 262142 ∧
      fields.hour ≤ 23 ∧ fields.minute ≤ 59 ∧ fields.second ≤ 60 ∧
      fields.offset.natAbs < 86400 then
    let clock : Int := fields.hour * 3600 + fields.minute * 60 +
      (if fields.second = 60 then 59 else fields.second) - fields.offset
    (Instant.ofNanos? ((fields.date.toDays * 86400 + clock) * 1000000000 + fields.fraction)).map
      fun instant => ⟨instant, fields.second = 60⟩
  else none

/-- The time that a text names. -/
def read? (text : String) : Option UtcTime := do
  let (fields, rest) ← readFields? text.toList
  if dropBlanks rest = [] then fields.time? else none

end UtcTime

end Leasehold
