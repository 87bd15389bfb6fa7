/-
**Instants.**

An instant is a whole number of nanoseconds from the epoch, within the years that the calendar can
name: `Instant.first` opens the year -262143 and `Instant.last` closes the year 262142.

The calendar's own times can also lie in a leap second. Instants leave these out: no clock shows
one, since clocks count the seconds of the epoch; a row keeps whole milliseconds of these; and no
request carries an instant. Only the text of a time may name a leap second, and `UtcTime` keeps it.

* `Instant.plus`, `Instant.minus`: moving by a duration stops at the end of the range;
* `Instant.plus?`: moving by a duration, if the result is in range;
* `Instant.floorMillis`: the same instant without its part below a millisecond;
* `Instant.nanos_plus`, `Instant.nanos_minus`: both moves as integer formulas;
* `ManualClock`: a clock that moves only when it is told to.
-/

import Leasehold.Time.Duration

namespace Leasehold

/-- A point in time, in nanoseconds from the epoch. -/
structure Instant where
  nanos : Int
  lower : -8334601228800000000000 ≤ nanos := by decide
  upper : nanos ≤ 8210266876799999999999 := by decide
deriving DecidableEq, Repr

namespace Instant

instance : LE Instant := ⟨fun earlier later => earlier.nanos ≤ later.nanos⟩
instance : LT Instant := ⟨fun earlier later => earlier.nanos < later.nanos⟩

instance (earlier later : Instant) : Decidable (earlier ≤ later) :=
  inferInstanceAs (Decidable (earlier.nanos ≤ later.nanos))

instance (earlier later : Instant) : Decidable (earlier < later) :=
  inferInstanceAs (Decidable (earlier.nanos < later.nanos))

/-- Instants with the same nanoseconds are the same. -/
theorem ext {first second : Instant} (same : first.nanos = second.nanos) : first = second := by
  cases first; cases second; simp_all

/-- The earliest instant. -/
def first : Instant := { nanos := -8334601228800000000000 }

/-- The latest instant. -/
def last : Instant := { nanos := 8210266876799999999999 }

/-- The epoch. -/
def epoch : Instant := { nanos := 0 }

instance : Inhabited Instant := ⟨epoch⟩

/-- The instant so many nanoseconds from the epoch, if it is in range. -/
def ofNanos? (nanos : Int) : Option Instant :=
  if inRange : -8334601228800000000000 ≤ nanos ∧ nanos ≤ 8210266876799999999999 then
    some ⟨nanos, inRange.1, inRange.2⟩
  else none

/-- The instant so many milliseconds from the epoch, if it is in range. -/
def ofMillis? (millis : Int) : Option Instant := ofNanos? (millis * 1000000)

/-- Milliseconds from the epoch, rounded toward the past. -/
def millis (instant : Instant) : Int := instant.nanos / 1000000

/-- The instant `duration` later, if it is in range. -/
def plus? (instant : Instant) (duration : Duration) : Option Instant :=
  ofNanos? (instant.nanos + duration.nanos)

/-- The instant `duration` later, or the last instant if that is out of range. -/
def plus (instant : Instant) (duration : Duration) : Instant :=
  (instant.plus? duration).getD last

/-- The instant `duration` earlier, or the first instant if that is out of range. -/
def minus (instant : Instant) (duration : Duration) : Instant :=
  (ofNanos? (instant.nanos - duration.nanos)).getD first

/-- The instant rounded toward the past to whole milliseconds. -/
def floorMillis (instant : Instant) : Instant :=
  ⟨instant.nanos / 1000000 * 1000000,
    by have := instant.lower; omega,
    by have := instant.upper; omega⟩

/-- Moving forward adds the duration and stops at the last instant. -/
theorem nanos_plus (instant : Instant) (duration : Duration) :
    (instant.plus duration).nanos = min (instant.nanos + duration.nanos) last.nanos := by
  have lower := instant.lower
  have upper := instant.upper
  simp only [plus, plus?, ofNanos?, last]
  split <;> simp only [Option.getD_some, Option.getD_none] <;> omega

/-- Moving back subtracts the duration and stops at the first instant. -/
theorem nanos_minus (instant : Instant) (duration : Duration) :
    (instant.minus duration).nanos = max (instant.nanos - duration.nanos) first.nanos := by
  have lower := instant.lower
  have upper := instant.upper
  simp only [minus, ofNanos?, first]
  split <;> simp only [Option.getD_some, Option.getD_none] <;> omega

/-- The nanoseconds of an instant name it. -/
theorem ofNanos?_nanos (instant : Instant) : ofNanos? instant.nanos = some instant :=
  dif_pos ⟨instant.lower, instant.upper⟩

/-- An instant has the nanoseconds that it was made of. -/
theorem nanos_of_ofNanos? {nanos : Int} {instant : Instant}
    (reached : ofNanos? nanos = some instant) : instant.nanos = nanos := by
  unfold ofNanos? at reached
  split at reached
  · cases reached
    rfl
  · cases reached

/-- Reading milliseconds back gives the floored instant. -/
theorem ofMillis?_millis (instant : Instant) :
    ofMillis? instant.millis = some instant.floorMillis :=
  ofNanos?_nanos instant.floorMillis

end Instant

/-- A clock that shows the same instant until it is moved. -/
structure ManualClock where
  now : Instant
deriving DecidableEq, Repr

namespace ManualClock

/-- Moves the clock forward; a move out of range leaves it where it is. -/
def advance (clock : ManualClock) (duration : Duration) : ManualClock :=
  ⟨(clock.now.plus? duration).getD clock.now⟩

/-- Puts the clock to an instant, which may lie in its past. -/
def set (_ : ManualClock) (instant : Instant) : ManualClock := ⟨instant⟩

end ManualClock

end Leasehold
