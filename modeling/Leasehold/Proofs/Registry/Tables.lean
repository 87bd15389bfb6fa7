/-
**What registries say.**

What a registry says follows from the entries of its draft alone, and not from their order.

* `Registry.Tabulates`: what a registry says of the entries;
* `Registry.SameTables`: registries that say the same;
* `Draft.Reordered`: the same entries in another order;
* `build_exact`: a draft becomes a registry exactly if its entries fit together, the registry says
  what they say in whatever order they come, and a fault is the first one.
-/

import Leasehold.Credential.Issuance
import Leasehold.Proofs.Registry.Checks
import Mathlib.Data.List.Nodup

set_option linter.unusedSectionVars false

namespace Leasehold

variable {S P Call : Type} {Response : Call → Type}

/-! ### What a registry says -/

namespace Registry

open Draft (Entry Ends Leads Consistent)

variable [DecidableEq S] [ProcessState S]

/-- What a registry says of some entries. -/
structure Tabulates (registry : Registry S P Call Response) (entityType : String)
    (entries : List (Entry S P Call Response)) : Prop where
  entityType : registry.entityType = entityType
  initial : (entries.filterMap Entry.initial?).getLast? = some registry.initial
  failed : (entries.filterMap Entry.failed?).getLast? = some registry.failed
  cancelled : (entries.filterMap Entry.cancelled?).getLast? = some registry.cancelled
  terminal : ∀ state, registry.isTerminal state = true ↔ Ends entries state
  terminalStates : ∀ state, state ∈ registry.terminalStates ↔ Ends entries state
  terminalAscending : IsAscending registry.terminalStates
  registered : ∀ {state registration}, registry.registration? state = some registration ↔
    .handler registration ∈ entries ∧ registration.state = state
  handledStates : ∀ state, state ∈ registry.handledStates ↔
    ∃ registration, .handler registration ∈ entries ∧ registration.state = state
  handledAscending : IsAscending registry.handledStates
  disjoint : ∀ state ∈ registry.handledStates, state ∉ registry.terminalStates
  legal : ∀ source target, target ∈ registry.legalNextStates source ↔ Leads entries source target
  legalAscending : ∀ source, IsAscending (registry.legalNextStates source)
  ended : ∀ source, registry.isTerminal source = true → registry.legalNextStates source = []
  allows : ∀ source target, registry.allows source target = true ↔
    ∃ registration, .handler registration ∈ entries ∧ registration.state = source ∧
      target ∈ registration.declared
  allowed : ∀ source target, registry.allows source target = true →
    target ∈ registry.legalNextStates source

/-- Registries that say the same. -/
structure SameTables (one other : Registry S P Call Response) : Prop where
  entityType : one.entityType = other.entityType
  initial : one.initial = other.initial
  failed : one.failed = other.failed
  cancelled : one.cancelled = other.cancelled
  isTerminal : one.isTerminal = other.isTerminal
  terminalStates : one.terminalStates = other.terminalStates
  legalNextStates : one.legalNextStates = other.legalNextStates
  declaredNextStates : one.declaredNextStates = other.declaredNextStates
  allows : one.allows = other.allows
  handledStates : one.handledStates = other.handledStates
  handler? : one.handler? = other.handler?

variable {registry one other : Registry S P Call Response} {entityType : String}
  {entries others : List (Entry S P Call Response)}

/-- Among registrations for different states each is found by its state. -/
theorem find?_state_eq_some_iff {registrations : List (Registration S P Call Response)}
    {registration : Registration S P Call Response} {state : S}
    (distinct : (registrations.map (·.state)).Nodup) :
    registrations.find? (fun other => other.state = state) = some registration ↔
      registration ∈ registrations ∧ registration.state = state := by
  constructor
  · intro found
    exact ⟨List.mem_of_find?_eq_some found, by simpa using List.find?_some found⟩
  · rintro ⟨listed, rfl⟩
    cases found : registrations.find? (fun other => other.state = registration.state) with
    | none =>
      have missed := List.find?_eq_none.mp found registration listed
      simp at missed
    | some other =>
      have same : other.state = registration.state := by simpa using List.find?_some found
      rw [List.inj_on_of_nodup_map distinct (List.mem_of_find?_eq_some found) listed same]

/-- **A registry that was built says what its entries say.** -/
theorem tabulates_of_build (built : (Draft.ofEntries entityType entries).build = .ok registry) :
    registry.Tabulates entityType entries := by
  obtain ⟨consistent, initial, failed, cancelled, first, second, third, rfl⟩ :=
    Draft.build_eq_ok_iff.mp built
  have ends := Draft.contains_terminal_iff second third
  have registered : ∀ {state registration},
      (Draft.registryOf entityType entries initial failed cancelled).registration? state =
        some registration ↔ .handler registration ∈ entries ∧ registration.state = state := by
    intro state registration
    rw [← Draft.mem_filterMap_iff Entry.registration?_eq_some_iff]
    exact find?_state_eq_some_iff consistent.single
  have legal : ∀ source target, target ∈ (Draft.registryOf entityType entries initial failed
      cancelled).legalNextStates source ↔ Leads entries source target := by
    intro source target
    exact mem_sortedStates.trans Draft.mem_targetsFrom_iff
  have terminalStates : ∀ state, state ∈ (Draft.registryOf entityType entries initial failed
      cancelled).terminalStates ↔ Ends entries state := by
    intro state
    rw [← ends, List.contains_iff_mem]
    exact mem_sortedStates
  have handledStates : ∀ state, state ∈ (Draft.registryOf entityType entries initial failed
      cancelled).handledStates ↔ ∃ registration, .handler registration ∈ entries ∧
        registration.state = state := by
    intro state
    rw [mem_handledStates]
    exact exists_congr fun _ => registered
  have allows : ∀ source target, (Draft.registryOf entityType entries initial failed
      cancelled).allows source target = true ↔ ∃ registration, .handler registration ∈ entries ∧
        registration.state = source ∧ target ∈ registration.declared := by
    intro source target
    unfold Registry.allows
    rw [Option.any_eq_true]
    exact exists_congr fun _ => by rw [registered, and_assoc, List.contains_iff_mem]
  exact {
    entityType := rfl
    initial := first
    failed := second
    cancelled := third
    terminal := ends
    terminalStates := terminalStates
    terminalAscending := isAscending_sortedStates _
    registered := registered
    handledStates := handledStates
    handledAscending := isAscending_sortedStates _
    disjoint := by
      intro state handled ended
      obtain ⟨registration, listed, rfl⟩ := (handledStates state).mp handled
      exact consistent.alive registration listed ((terminalStates _).mp ended)
    legal := legal
    legalAscending := fun _ => isAscending_sortedStates _
    ended := by
      intro source ended
      refine List.eq_nil_iff_forall_not_mem.mpr fun target aims => ?_
      obtain ⟨targets, listed, aims⟩ := (legal source target).mp aims
      exact consistent.transitions source targets listed (List.ne_nil_of_mem aims)
        ((ends source).mp ended)
    allows := allows
    allowed := by
      intro source target allowed
      obtain ⟨registration, listed, rfl, declared⟩ := (allows source target).mp allowed
      exact (legal _ _).mpr (consistent.declared registration listed target declared) }

/-- **Registries that say what the same entries say, say the same.** -/
theorem Tabulates.sameTables (tabulates : one.Tabulates entityType entries)
    (tabulatesToo : other.Tabulates entityType others)
    (sameEnds : ∀ state, Ends entries state ↔ Ends others state)
    (sameLeads : ∀ source target, Leads entries source target ↔ Leads others source target)
    (sameHandlers : ∀ registration, .handler registration ∈ entries ↔
      .handler registration ∈ others)
    (sameRoles : entries.filterMap Entry.initial? = others.filterMap Entry.initial? ∧
      entries.filterMap Entry.failed? = others.filterMap Entry.failed? ∧
      entries.filterMap Entry.cancelled? = others.filterMap Entry.cancelled?) :
    one.SameTables other := by
  obtain ⟨initial, failed, cancelled⟩ := sameRoles
  have registration? : one.registration? = other.registration? := by
    funext state
    refine Option.ext fun registration => ?_
    rw [tabulates.registered, tabulatesToo.registered, sameHandlers]
  have isTerminal : one.isTerminal = other.isTerminal := by
    funext state
    rw [Bool.eq_iff_iff, tabulates.terminal, tabulatesToo.terminal, sameEnds]
  exact {
    entityType := tabulates.entityType.trans tabulatesToo.entityType.symm
    initial := Option.some.inj (tabulates.initial.symm.trans (initial ▸ tabulatesToo.initial))
    failed := Option.some.inj (tabulates.failed.symm.trans (failed ▸ tabulatesToo.failed))
    cancelled :=
      Option.some.inj (tabulates.cancelled.symm.trans (cancelled ▸ tabulatesToo.cancelled))
    isTerminal := isTerminal
    terminalStates := tabulates.terminalAscending.eq tabulatesToo.terminalAscending fun state => by
      rw [tabulates.terminalStates, tabulatesToo.terminalStates, sameEnds]
    legalNextStates := funext fun source =>
      (tabulates.legalAscending source).eq (tabulatesToo.legalAscending source) fun target => by
        rw [tabulates.legal, tabulatesToo.legal, sameLeads]
    declaredNextStates := by
      funext state
      unfold declaredNextStates
      rw [registration?]
    allows := by
      funext source target
      unfold Registry.allows
      rw [registration?]
    handledStates := tabulates.handledAscending.eq tabulatesToo.handledAscending fun state => by
      rw [mem_handledStates, mem_handledStates, registration?]
    handler? := by
      funext state
      unfold Registry.handler?
      rw [registration?] }

end Registry

/-! ### Entries in another order -/

namespace Draft

open Registry (SameTables Tabulates tabulates_of_build)

variable [DecidableEq S] [ProcessState S] {entries others : List (Entry S P Call Response)}

/-- The states with a role are found among the entries that give one. -/
theorem filterMap_filter_isRole {role? : Entry S P Call Response → Option S}
    (gives : ∀ entry, entry.isRole = false → role? entry = none) :
    (entries.filter Entry.isRole).filterMap role? = entries.filterMap role? := by
  rw [List.filterMap_filter]
  refine List.filterMap_congr fun entry _ => ?_
  cases role : entry.isRole with
  | true => rfl
  | false => exact (gives entry role).symm

/-- Entries in another order, in which those that give a role keep theirs. -/
structure Reordered (entries others : List (Entry S P Call Response)) : Prop where
  perm : others.Perm entries
  roles : others.filter Entry.isRole = entries.filter Entry.isRole

namespace Reordered

variable (reordered : Reordered entries others)

include reordered

theorem symm : Reordered others entries := ⟨reordered.perm.symm, reordered.roles.symm⟩

theorem filterMap_role {role? : Entry S P Call Response → Option S}
    (gives : ∀ entry, entry.isRole = false → role? entry = none) :
    entries.filterMap role? = others.filterMap role? := by
  rw [← filterMap_filter_isRole gives, ← reordered.roles, filterMap_filter_isRole gives]

theorem sameRoles : entries.filterMap Entry.initial? = others.filterMap Entry.initial? ∧
    entries.filterMap Entry.failed? = others.filterMap Entry.failed? ∧
    entries.filterMap Entry.cancelled? = others.filterMap Entry.cancelled? := by
  refine ⟨reordered.filterMap_role ?_, reordered.filterMap_role ?_, reordered.filterMap_role ?_⟩
  all_goals
    intro entry other
    cases entry <;> first | rfl | cases other

theorem ends (state : S) : Ends entries state ↔ Ends others state := by
  obtain ⟨_, failed, cancelled⟩ := reordered.sameRoles
  unfold Ends
  rw [failed, cancelled, reordered.perm.mem_iff]

theorem leads (source target : S) : Leads entries source target ↔ Leads others source target :=
  exists_congr fun _ => and_congr_left fun _ => reordered.perm.mem_iff.symm

/-- Entries fit together in any order. -/
theorem consistent (fits : Consistent entries) : Consistent others where
  roles := ⟨fits.roles.initial.imp fun _ => reordered.perm.mem_iff.mpr,
    fits.roles.failed.imp fun _ => reordered.perm.mem_iff.mpr,
    fits.roles.cancelled.imp fun _ => reordered.perm.mem_iff.mpr⟩
  transitions source targets listed leaves ended :=
    fits.transitions source targets (reordered.perm.mem_iff.mp listed) leaves
      ((reordered.ends source).mpr ended)
  alive registration listed ended :=
    fits.alive registration (reordered.perm.mem_iff.mp listed) ((reordered.ends _).mpr ended)
  single := ((reordered.perm.filterMap _).map _).nodup_iff.mpr fits.single
  declared registration listed target declares := (reordered.leads _ target).mp
    (fits.declared registration (reordered.perm.mem_iff.mp listed) target declares)

end Reordered

/-- **Entries are checked exactly, and their order does not matter.** A draft becomes a registry if
and only if its entries fit together; the registry says what they say; a fault is the first check
that they fail; and if terminal states, transitions and handlers come in another order, the draft
becomes a registry as before, which says the same. -/
theorem build_exact (entityType : String) (entries : List (Entry S P Call Response)) :
    let draft := ofEntries entityType entries
    ((∃ registry, draft.build = .ok registry) ↔ Consistent entries) ∧
    (∀ registry, draft.build = .ok registry → registry.Tabulates entityType entries) ∧
    (∀ fault, draft.build = .error fault ↔ FirstFault entries entityType fault) ∧
    ∀ others, Reordered entries others →
      ((∃ other, (ofEntries entityType others).build = .ok other) ↔
        ∃ registry, draft.build = .ok registry) ∧
      ∀ registry other, draft.build = .ok registry →
        (ofEntries entityType others).build = .ok other → registry.SameTables other := by
  intro draft
  have exact : ∀ {part : List (Entry S P Call Response)},
      (∃ registry, (ofEntries entityType part).build = .ok registry) ↔ Consistent part := by
    intro part
    constructor
    · rintro ⟨registry, built⟩
      exact (build_eq_ok_iff.mp built).1
    · intro fits
      obtain ⟨initial, first⟩ :=
        (exists_getLast?_iff Entry.initial?_eq_some_iff).mpr fits.roles.initial
      obtain ⟨failed, second⟩ :=
        (exists_getLast?_iff Entry.failed?_eq_some_iff).mpr fits.roles.failed
      obtain ⟨cancelled, third⟩ :=
        (exists_getLast?_iff Entry.cancelled?_eq_some_iff).mpr fits.roles.cancelled
      exact ⟨_, build_eq_ok_iff.mpr ⟨fits, _, _, _, first, second, third, rfl⟩⟩
  refine ⟨exact, fun registry built => tabulates_of_build built, fun fault => build_eq_error_iff,
    fun others reordered => ⟨?_, fun registry other built builtToo => ?_⟩⟩
  · rw [exact, exact]
    exact ⟨reordered.symm.consistent, reordered.consistent⟩
  · exact (tabulates_of_build built).sameTables (tabulates_of_build builtToo) reordered.ends
      reordered.leads (fun registration => reordered.perm.mem_iff.symm) reordered.sameRoles

/-! ### Issuance processes in another order -/

section Reversed

open Credential Issuance

/-- The states of issuance processes that have a role. -/
def issuanceRoles : List (Entry State Submission Credential.Call Credential.Response) :=
  [.initial .submitted, .failed .errored, .cancelled .cancelled]

/-- The other entries of issuance processes. -/
def issuanceRules : List (Entry State Submission Credential.Call Credential.Response) :=
  [.terminal .delivered, .transition .submitted [.approved], .transition .approved [.delivered],
    .handler ⟨.submitted, [.approved], validateSubmission⟩,
    .handler ⟨.approved, [.delivered], issueCredentials⟩]

/-- The registry of issuance processes says the same if its handlers come first, its transitions
next, and its roles last. -/
theorem build_exact_reversed :
    ofEntries Issuance.entityType (issuanceRoles ++ issuanceRules) = Issuance.draft ∧
    Reordered (issuanceRoles ++ issuanceRules) (issuanceRules.reverse ++ issuanceRoles) ∧
    ∃ other, (ofEntries Issuance.entityType
        (issuanceRules.reverse ++ issuanceRoles)).build = .ok other ∧
      registry.SameTables other := by
  have built : (ofEntries Issuance.entityType
      (issuanceRoles ++ issuanceRules)).build = .ok registry := rfl
  have reordered : Reordered (issuanceRoles ++ issuanceRules)
      (issuanceRules.reverse ++ issuanceRoles) :=
    ⟨((List.reverse_perm _).append_right _).trans List.perm_append_comm, rfl⟩
  obtain ⟨_, _, _, anyOrder⟩ := build_exact Issuance.entityType (issuanceRoles ++ issuanceRules)
  obtain ⟨builds, same⟩ := anyOrder _ reordered
  obtain ⟨other, builtToo⟩ := builds.mpr ⟨registry, built⟩
  exact ⟨rfl, reordered, other, builtToo, same registry other built builtToo⟩

end Reversed

end Draft

end Leasehold
