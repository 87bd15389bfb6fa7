/-
**Drafts of registries.**

A draft collects what a registry is to hold, in any order. It becomes a registry if its parts fit
together; otherwise the first fault is reported: missing states, then transitions in the order they
were given, then handlers.

* `Draft.build`: the registry of a draft;
* `RegistryError.message`: the text of a fault.
-/

import Leasehold.Registry.Basic

namespace Leasehold

/-- Why a draft is no registry. States are given by their names. -/
inductive RegistryError where
  | missingState (entityType role : String)
  | handlerOnTerminalState (entityType state : String)
  | duplicateHandler (entityType state : String)
  | illegalDeclaredTransition (entityType source target : String)
  | transitionFromTerminal (entityType source target : String)
deriving DecidableEq, Repr

namespace RegistryError

/-- The text of a fault. -/
def message : RegistryError → String
  | .missingState entityType role => s!"{entityType}: no {role} state configured"
  | .handlerOnTerminalState entityType state =>
    s!"{entityType}: cannot register a handler for terminal state {state}"
  | .duplicateHandler entityType state => s!"{entityType}: duplicate handler for state {state}"
  | .illegalDeclaredTransition entityType source target =>
    s!"{entityType}: handler for {source} declares illegal next state {target}"
  | .transitionFromTerminal entityType source target =>
    s!"{entityType}: terminal state {source} cannot transition to {target}"

end RegistryError

/-- What a registry is to hold. -/
structure Draft (S P Call : Type) (Response : Call → Type) where
  entityType : String
  initial : Option S := none
  failed : Option S := none
  cancelled : Option S := none
  terminal : List S := []
  transitions : List (S × List S) := []
  registrations : List (Registration S P Call Response) := []

namespace Draft

variable {S P Call : Type} {Response : Call → Type}

/-! ### Collecting -/

/-- A draft without any state. -/
def empty (entityType : String) : Draft S P Call Response := { entityType := entityType }

/-- The draft with one more terminal state. -/
def withTerminal (draft : Draft S P Call Response) (state : S) : Draft S P Call Response :=
  { draft with terminal := draft.terminal ++ [state] }

/-- The draft with more transitions from a state. -/
def withTransition (draft : Draft S P Call Response) (source : S) (targets : List S) :
    Draft S P Call Response :=
  { draft with transitions := draft.transitions ++ [(source, targets)] }

/-- The draft with one more handler. -/
def withHandler (draft : Draft S P Call Response) (state : S) (declared : List S)
    (handler : Handler S P Call Response) : Draft S P Call Response :=
  { draft with registrations := draft.registrations ++ [⟨state, declared, handler⟩] }

/-! ### Checking -/

variable [DecidableEq S] [ProcessState S]

/-- The fault of a transition that starts in a terminal state. -/
def transitionFault? (entityType : String) (terminal : List S) (transition : S × List S) :
    Option RegistryError :=
  match transition with
  | (source, target :: _) =>
    if terminal.contains source then
      some (.transitionFromTerminal entityType (label source) (label target))
    else none
  | (_, []) => none

/-- The fault of a handler, after the handlers of some states. -/
def handlerFault? (entityType : String) (terminal : List S) (transitions : List (S × List S))
    (earlier : List S) (registration : Registration S P Call Response) : Option RegistryError :=
  let state := registration.state
  if terminal.contains state then some (.handlerOnTerminalState entityType (label state))
  else if earlier.contains state then some (.duplicateHandler entityType (label state))
  else
    let legal := Registry.targetsFrom transitions state
    (registration.declared.find? fun target => !legal.contains target).map fun target =>
      .illegalDeclaredTransition entityType (label state) (label target)

/-- The first fault of some handlers, after the handlers of some states. -/
def handlersFault? (entityType : String) (terminal : List S) (transitions : List (S × List S)) :
    List S → List (Registration S P Call Response) → Option RegistryError
  | _, [] => none
  | earlier, registration :: rest =>
    match handlerFault? entityType terminal transitions earlier registration with
    | some fault => some fault
    | none => handlersFault? entityType terminal transitions (registration.state :: earlier) rest

/-- A state with a role, or the fault that there is none. -/
def require (draft : Draft S P Call Response) (role : String) : Option S → Except RegistryError S
  | some state => .ok state
  | none => .error (.missingState draft.entityType role)

/-- The registry of a draft, or its first fault. -/
def build (draft : Draft S P Call Response) :
    Except RegistryError (Registry S P Call Response) := do
  let initial ← draft.require "initial" draft.initial
  let failed ← draft.require "failed" draft.failed
  let cancelled ← draft.require "cancelled" draft.cancelled
  let terminal := draft.terminal ++ [failed, cancelled]
  match draft.transitions.findSome? (transitionFault? draft.entityType terminal) with
  | some fault => .error fault
  | none =>
    match handlersFault? draft.entityType terminal draft.transitions [] draft.registrations with
    | some fault => .error fault
    | none =>
      .ok {
        entityType := draft.entityType
        initial := initial
        failed := failed
        cancelled := cancelled
        terminal := terminal
        transitions := draft.transitions
        registrations := draft.registrations }

end Draft

end Leasehold
