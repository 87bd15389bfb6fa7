/-
**Settings from variables.**

Settings are read from named text variables. A variable that is not set leaves its default; one
that is set must be a number in range, with blanks around it allowed.

* `ConfigError.message`: the text of an error;
* `readVariable`: the value of the variable `SCOPE_NAME`;
* `readCount`, `readMillis`, `readSeconds`: numbers and durations.
-/

import Leasehold.Text.Blank
import Leasehold.Text.Digits
import Leasehold.Time.Duration

namespace Leasehold

/-- Why settings cannot be used. -/
inductive ConfigError where
  /-- A variable has a value that cannot be read. -/
  | invalidValue (name value : String)
  /-- The settings do not fit together. -/
  | invalid (reason : String)
deriving DecidableEq, Repr

namespace ConfigError

/-- The text of an error. -/
def message : ConfigError → String
  | .invalidValue name value => s!"Invalid value for {name}: '{value}'"
  | .invalid reason => s!"Invalid configuration: {reason}"

end ConfigError

/-- The variables that are set. -/
abbrev Variables : Type := String → Option String

/-- The variable `SCOPE_NAME` as `read` takes it from its text without blanks around it. -/
def readVariable {α : Type} (environment : Variables) (scope name : String)
    (read : String → Option α) : Except ConfigError (Option α) :=
  let full := scope ++ "_" ++ name
  match environment full with
  | none => .ok none
  | some value =>
    match read (Text.trimBlanks value) with
    | some setting => .ok (some setting)
    | none => .error (.invalidValue full value)

/-- A 64-bit number from its text. -/
def word64? (text : String) : Option UInt64 := (Text.unsigned? UInt64.size text).map UInt64.ofNat

/-- The number below `bound` in a variable, or a default. -/
def readCount (environment : Variables) (scope name : String) (bound default : Nat) :
    Except ConfigError Nat := do
  return (← readVariable environment scope name (Text.unsigned? bound)).getD default

/-- The duration in a variable that holds milliseconds, or a default. -/
def readMillis (environment : Variables) (scope name : String) (default : Duration) :
    Except ConfigError Duration := do
  return ((← readVariable environment scope name word64?).map Duration.ofMillis).getD default

/-- The duration in a variable that holds seconds, or a default. -/
def readSeconds (environment : Variables) (scope name : String) (default : Duration) :
    Except ConfigError Duration := do
  return ((← readVariable environment scope name word64?).map Duration.ofSeconds).getD default

end Leasehold
