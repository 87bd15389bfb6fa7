/-
**Process states and payloads.**

Every process type has its own states, kept by their integer codes and shown by their names, and
its own payload, kept as JSON.

* `ProcessState`: codes and names, with the law that a code is read back as its own state only;
* `stateWithCode?`: the state with a code, found among all states;
* `Payload`: the two directions between payloads and JSON values, and what matters in a value;
* `sortedStates`: states in the order of their codes, each once.
-/

import Leasehold.Json.Shape

namespace Leasehold

/-- The states of one process type. -/
class ProcessState (S : Type) where
  /-- The code a state is kept by. -/
  code : S → Int
  /-- The state with a code. -/
  ofCode? : Int → Option S
  /-- The name a state is shown by. -/
  label : S → String
  /-- A code names the state that it is the code of. -/
  ofCode?_eq_some_iff : ∀ {number : Int} {state : S}, ofCode? number = some state ↔
    code state = number

export ProcessState (code label)

/-- The payloads of one process type. -/
class Payload (P : Type) where
  /-- The payload as it is kept. -/
  toJson : P → Json
  /-- The payload that a value stands for. -/
  ofJson? : Json → Option P
  /-- Which parts of a value matter to the payload. -/
  shape : Json.Shape

/-- The code of a state is read back as the state. -/
theorem ofCode?_code {S : Type} [ProcessState S] (state : S) :
    ProcessState.ofCode? (code state) = some state :=
  ProcessState.ofCode?_eq_some_iff.mpr rfl

/-- Different states have different codes. -/
theorem code_injective {S : Type} [ProcessState S] {first second : S}
    (same : code first = code second) : first = second := by
  have fromFirst := ofCode?_code first
  rw [same, ofCode?_code] at fromFirst
  exact (Option.some.inj fromFirst).symm

/-- The first of some states with a code. -/
def stateWithCode? {S : Type} (code : S → Int) (states : List S) (number : Int) : Option S :=
  states.find? fun state => code state == number

/-- Among all states, with different codes, a code finds the state that it is the code of. -/
theorem stateWithCode?_eq_some_iff {S : Type} {code : S → Int} {states : List S}
    (complete : ∀ state, state ∈ states)
    (injective : ∀ first second, code first = code second → first = second)
    {number : Int} {state : S} :
    stateWithCode? code states number = some state ↔ code state = number := by
  constructor
  · intro found
    simpa using List.find?_some found
  · intro same
    cases found : stateWithCode? code states number with
    | none =>
      have missed := List.find?_eq_none.mp found state (complete state)
      simp [same] at missed
    | some other =>
      have sameCode : code other = number := by simpa using List.find?_some found
      rw [injective other state (sameCode.trans same.symm)]

/-- States in the order of their codes, each once. -/
def sortedStates {S : Type} [DecidableEq S] [ProcessState S] (states : List S) : List S :=
  (states.mergeSort fun first second => code first ≤ code second).eraseDups

end Leasehold
