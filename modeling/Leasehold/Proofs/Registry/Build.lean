/-
**What a registry that was built guarantees.**

* `mem_sortedStates`: sorting states neither adds nor loses one;
* `Registry.IsSound`: handlers belong to states that are not terminal, and lead only where the
  transitions lead; failing and being cancelled are terminal;
* `isSound_of_build`: a draft becomes a registry only if the registry is sound.
-/

import Leasehold.Registry.Draft

set_option linter.unusedSectionVars false

namespace Leasehold

variable {S P Call : Type} {Response : Call → Type} [DecidableEq S] [ProcessState S]

/-! ### Sorted states -/

/-- Sorting states neither adds nor loses one. -/
theorem mem_sortedStates {states : List S} {state : S} :
    state ∈ sortedStates states ↔ state ∈ states := by
  unfold sortedStates
  rw [List.mem_eraseDups, List.mem_mergeSort]

namespace Registry

variable {registry : Registry S P Call Response} {state target : S}

/-- The terminal states are listed. -/
theorem contains_terminalStates :
    registry.terminalStates.contains state = registry.isTerminal state := by
  unfold terminalStates isTerminal
  rw [Bool.eq_iff_iff, List.contains_iff_mem, List.contains_iff_mem, mem_sortedStates]

/-- A state is handled if it has a registration. -/
theorem mem_handledStates :
    state ∈ registry.handledStates ↔
      ∃ registration, registry.registration? state = some registration := by
  unfold handledStates registration?
  rw [mem_sortedStates, List.mem_map, ← Option.isSome_iff_exists, List.find?_isSome]
  constructor
  · rintro ⟨registration, listed, same⟩
    exact ⟨registration, listed, decide_eq_true same⟩
  · rintro ⟨registration, listed, same⟩
    exact ⟨registration, listed, of_decide_eq_true same⟩

/-! ### Sound registries -/

/-- Handlers belong to states that are not terminal, and lead only where the transitions lead. -/
structure IsSound (registry : Registry S P Call Response) : Prop where
  failed : registry.isTerminal registry.failed = true
  cancelled : registry.isTerminal registry.cancelled = true
  handled : ∀ {state}, state ∈ registry.handledStates → registry.isTerminal state = false
  declared : ∀ {source target}, registry.allows source target = true →
    target ∈ registry.legalNextStates source

end Registry

namespace Draft

/-- Handlers without a fault belong to states that are not terminal, and lead only where the
transitions lead. -/
theorem handlers_of_no_fault {entityType : String} {terminal : List S}
    {transitions : List (S × List S)} {registrations : List (Registration S P Call Response)}
    {earlier : List S}
    (faultless : handlersFault? entityType terminal transitions earlier registrations = none) :
    ∀ registration ∈ registrations, terminal.contains registration.state = false ∧
      ∀ target ∈ registration.declared,
        target ∈ Registry.targetsFrom transitions registration.state := by
  induction registrations generalizing earlier with
  | nil => exact fun _ nothing => by cases nothing
  | cons head rest ih =>
    unfold handlersFault? at faultless
    split at faultless
    · cases faultless
    · next noFault =>
      intro registration member
      rcases List.mem_cons.mp member with rfl | later
      · unfold handlerFault? at noFault
        dsimp only at noFault
        split at noFault
        · cases noFault
        · next notTerminal =>
          refine ⟨eq_false_of_ne_true notTerminal, fun target declared => ?_⟩
          split at noFault
          · cases noFault
          · have legal := List.find?_eq_none.mp (Option.map_eq_none_iff.mp noFault) target declared
            simpa using legal
      · exact ih faultless registration later

/-- A sequence succeeds only if both of its parts do. -/
theorem ok_of_bind {ε α β : Type} {first : Except ε α} {next : α → Except ε β} {result : β}
    (succeeds : (first >>= next) = .ok result) :
    ∃ value, first = .ok value ∧ next value = .ok result := by
  cases first with
  | error fault => cases succeeds
  | ok value => exact ⟨value, rfl, succeeds⟩

/-- **A draft becomes a registry only if the registry is sound.** -/
theorem isSound_of_build {draft : Draft S P Call Response} {registry : Registry S P Call Response}
    (built : draft.build = .ok registry) : registry.IsSound := by
  obtain ⟨initial, _, built⟩ := ok_of_bind built
  obtain ⟨failed, _, built⟩ := ok_of_bind built
  obtain ⟨cancelled, _, built⟩ := ok_of_bind built
  dsimp only at built
  split at built
  · cases built
  · split at built
    · cases built
    · next noFault =>
      cases built
      have handlers := handlers_of_no_fault noFault
      constructor
      · show (draft.terminal ++ [failed, cancelled]).contains failed = true
        simp
      · show (draft.terminal ++ [failed, cancelled]).contains cancelled = true
        simp
      · intro state handled
        obtain ⟨registration, found⟩ := Registry.mem_handledStates.mp handled
        have same : registration.state = state := by simpa using List.find?_some found
        rw [← same]
        exact (handlers registration (List.mem_of_find?_eq_some found)).1
      · intro source target allowed
        obtain ⟨registration, found, declares⟩ := (Option.any_eq_true _ _).mp allowed
        have same : registration.state = source := by simpa using List.find?_some found
        have legal := (handlers registration (List.mem_of_find?_eq_some found)).2 target
          (List.contains_iff_mem.mp declares)
        rw [same] at legal
        exact mem_sortedStates.mpr legal

end Draft

end Leasehold
