/-
**A process type for rehearsals.**

Its states are small numbers, some of them with names, and its payloads are any JSON values.

* `Rehearsal.Numbered`: the states;
* `Rehearsal.Anything`: the payloads.
-/

import Leasehold.Entity.State
import Leasehold.Json.Embedding

namespace Leasehold.Rehearsal

/-- A state with a number from -5 to 999. -/
structure Numbered where
  number : Int
  lower : -5 ≤ number
  upper : number ≤ 999
deriving DecidableEq, Repr

namespace Numbered

/-- The state with a number, if it is in range. -/
def ofNumber? (number : Int) : Option Numbered :=
  if inRange : -5 ≤ number ∧ number ≤ 999 then some ⟨number, inRange.1, inRange.2⟩ else none

/-- The name of a state. -/
def name (state : Numbered) : String :=
  match state.number with
  | 100 => "INITIAL"
  | 200 => "APPROVED"
  | 300 => "ISSUED"
  | 400 => "FAILED"
  | 500 => "CANCELLED"
  | number => s!"S{number}"

/-- A number in range names the state that has it. -/
theorem ofNumber?_eq_some_iff {number : Int} {state : Numbered} :
    ofNumber? number = some state ↔ state.number = number := by
  unfold ofNumber?
  constructor
  · intro found
    split at found
    · cases found; rfl
    · cases found
  · intro same
    subst same
    exact dif_pos ⟨state.lower, state.upper⟩

instance : ProcessState Numbered where
  code := number
  ofCode? := ofNumber?
  label := name
  ofCode?_eq_some_iff := ofNumber?_eq_some_iff

end Numbered

/-- Any JSON value. -/
structure Anything where
  value : Json

instance : Payload Anything where
  toJson := Anything.value
  ofJson? value := value.settled?.map Anything.mk
  shape := .whole

end Leasehold.Rehearsal
