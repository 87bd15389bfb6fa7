/-
**Durations.**

A duration is a whole number of nanoseconds below `2 ^ 64` seconds, so it always fits the clock's
own fields of seconds and nanoseconds.

* `Duration.ofNanos?`: the duration of that many nanoseconds, if it is in range;
* `Duration.scale?`: a multiple, unless it leaves the range;
* `Duration.wholeSeconds`, `Duration.wholeMillis`: rounded down;
* `Duration.timerMillis`: how long a timer for the duration runs.
-/

namespace Leasehold

/-- Nanoseconds in one second. -/
abbrev nanosPerSecond : Nat := 1000000000

/-- Nanoseconds in one millisecond. -/
abbrev nanosPerMilli : Nat := 1000000

/-- A length of time of less than `2 ^ 64` seconds, to the nanosecond. -/
structure Duration where
  nanos : Nat
  isLt : nanos < UInt64.size * 1000000000 := by decide
deriving DecidableEq, Repr

namespace Duration

instance : LE Duration := ⟨fun first second => first.nanos ≤ second.nanos⟩
instance : LT Duration := ⟨fun first second => first.nanos < second.nanos⟩

instance (first second : Duration) : Decidable (first ≤ second) :=
  inferInstanceAs (Decidable (first.nanos ≤ second.nanos))

instance (first second : Duration) : Decidable (first < second) :=
  inferInstanceAs (Decidable (first.nanos < second.nanos))

instance : Min Duration := ⟨fun first second => if first ≤ second then first else second⟩

/-- Durations with the same nanoseconds are the same. -/
theorem ext {first second : Duration} (same : first.nanos = second.nanos) : first = second := by
  cases first; cases second; simp_all

/-- The smaller duration has the smaller number of nanoseconds. -/
@[simp] theorem nanos_min (first second : Duration) :
    (min first second).nanos = min first.nanos second.nanos := by
  show (if first.nanos ≤ second.nanos then first else second).nanos = _
  rcases Nat.le_total first.nanos second.nanos with below | below
  · rw [if_pos below, Nat.min_eq_left below]
  · by_cases equal : first.nanos ≤ second.nanos
    · rw [if_pos equal, Nat.min_eq_left equal]
    · rw [if_neg equal, Nat.min_eq_right below]

/-- No time at all. -/
def zero : Duration := { nanos := 0 }

instance : Inhabited Duration := ⟨zero⟩

/-- The duration of so many nanoseconds, if it is below `2 ^ 64` seconds. -/
def ofNanos? (nanos : Nat) : Option Duration :=
  if inRange : nanos < UInt64.size * 1000000000 then some ⟨nanos, inRange⟩ else none

/-- The duration of a 64-bit number of milliseconds. -/
def ofMillis (millis : UInt64) : Duration :=
  ⟨millis.toNat * 1000000, by have := millis.toNat_lt_size; omega⟩

/-- The duration of a 64-bit number of seconds. -/
def ofSeconds (seconds : UInt64) : Duration :=
  ⟨seconds.toNat * 1000000000, by have := seconds.toNat_lt_size; omega⟩

/-- So many times the duration, unless that is `2 ^ 64` seconds or more. -/
def scale? (duration : Duration) (factor : Nat) : Option Duration :=
  ofNanos? (duration.nanos * factor)

/-- Whether the duration is no time at all. -/
def isZero (duration : Duration) : Bool := duration.nanos == 0

/-- The whole seconds in the duration. -/
def wholeSeconds (duration : Duration) : Nat := duration.nanos / nanosPerSecond

/-- The nanoseconds beyond the whole seconds. -/
def subsecNanos (duration : Duration) : Nat := duration.nanos % nanosPerSecond

/-- The whole milliseconds in the duration. -/
def wholeMillis (duration : Duration) : Nat := duration.nanos / nanosPerMilli

/-- The whole milliseconds in a log entry, of which 64 bits are shown. -/
def shownMillis (duration : Duration) : Nat := duration.wholeMillis % UInt64.size

/-- The milliseconds in the duration, rounded up. -/
def ceilMillis (duration : Duration) : Nat :=
  (duration.nanos + (nanosPerMilli - 1)) / nanosPerMilli

/-- How long a timer runs whose end cannot be told: thirty years. -/
def farMillis : Nat := 30 * 365 * 86400 * 1000

/--
The milliseconds of the shortest timer that waits for the whole duration, if its end can be told in
63 bits of seconds.
-/
def timerMillis (duration : Duration) : Nat :=
  if duration.wholeSeconds < 0x7fffffffffffffff then duration.ceilMillis else farMillis

end Duration

end Leasehold
