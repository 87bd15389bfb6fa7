/-
**Transition registries.**

A registry says for one process type which states there are ends, which states have a handler, and
which states each handler may lead to.

* `Registry.isTerminal`, `Registry.terminalStates`: the states that are never left;
* `Registry.legalNextStates`: where a state may lead;
* `Registry.allows`: whether the handler of a state declared a next state;
* `Registry.handledStates`, `Registry.handler?`: the states with handlers.
-/

import Leasehold.Engine.Work

namespace Leasehold

/-- The handler of a state, with the states it may lead to. -/
structure Registration (S P Call : Type) (Response : Call → Type) where
  state : S
  declared : List S
  handler : Handler S P Call Response

/-- The transitions and handlers of one process type. -/
structure Registry (S P Call : Type) (Response : Call → Type) where
  entityType : String
  initial : S
  failed : S
  cancelled : S
  terminal : List S
  transitions : List (S × List S)
  registrations : List (Registration S P Call Response)

namespace Registry

variable {S P Call : Type} {Response : Call → Type} [DecidableEq S]

/-- Whether a state is never left. -/
def isTerminal (registry : Registry S P Call Response) (state : S) : Bool :=
  registry.terminal.contains state

/-- The states that some transitions lead to from a state. -/
def targetsFrom (transitions : List (S × List S)) (state : S) : List S :=
  (transitions.filter fun transition => transition.1 = state).flatMap Prod.snd

/-- The registration of a state. -/
def registration? (registry : Registry S P Call Response) (state : S) :
    Option (Registration S P Call Response) :=
  registry.registrations.find? fun registration => registration.state = state

/-- The handler of a state. -/
def handler? (registry : Registry S P Call Response) (state : S) :
    Option (Handler S P Call Response) :=
  (registry.registration? state).map (·.handler)

/-- Whether the handler of one state declared the other as a next state. -/
def allows (registry : Registry S P Call Response) (source target : S) : Bool :=
  (registry.registration? source).any (·.declared.contains target)

variable [ProcessState S]

/-- The terminal states in the order of their codes. -/
def terminalStates (registry : Registry S P Call Response) : List S :=
  sortedStates registry.terminal

/-- The states that a state may lead to, in the order of their codes. -/
def legalNextStates (registry : Registry S P Call Response) (state : S) : List S :=
  sortedStates (targetsFrom registry.transitions state)

/-- The states that the handler of a state declared, in the order of their codes. -/
def declaredNextStates (registry : Registry S P Call Response) (state : S) : List S :=
  sortedStates ((registry.registration? state).elim [] (·.declared))

/-- The states with handlers, in the order of their codes. -/
def handledStates (registry : Registry S P Call Response) : List S :=
  sortedStates (registry.registrations.map (·.state))

end Registry

end Leasehold
