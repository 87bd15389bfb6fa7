/-
**The checks of a draft.**

A draft is checked for its roles first, then its transitions and then its handlers, and fails with
the first fault.

* `handlerFault?_eq_some_iff`, `transitionFault?_eq_some_iff`: one check;
* `handlersFault_eq_some_iff`, `transitionsFault_eq_some_iff`: all checks of one kind;
* `build_eq_error_iff`: a draft fails with its first fault;
* `build_eq_ok_iff`: a draft becomes a registry if its entries fit together.
-/

import Leasehold.Proofs.Registry.Entries

set_option linter.unusedSectionVars false

namespace Leasehold.Draft

variable {S P Call : Type} {Response : Call → Type} [ProcessState S]
  {entries : List (Entry S P Call Response)}

/-! ### One check -/

section Checks

variable [DecidableEq S] {entityType : String} {terminal : List S}
  {fault : RegistryError}

/-- A transition target is one that the entries lead to. -/
theorem mem_targetsFrom_iff {source target : S} :
    target ∈ Registry.targetsFrom (entries.filterMap Entry.transition?) source ↔
      Leads entries source target := by
  unfold Registry.targetsFrom
  rw [List.mem_flatMap]
  constructor
  · rintro ⟨transition, found, aims⟩
    obtain ⟨listed, here⟩ := List.mem_filter.mp found
    obtain rfl : transition.1 = source := of_decide_eq_true here
    exact ⟨_, (mem_filterMap_iff Entry.transition?_eq_some_iff).mp listed, aims⟩
  · rintro ⟨targets, listed, aims⟩
    have found : (source, targets) ∈ entries.filterMap Entry.transition? :=
      (mem_filterMap_iff Entry.transition?_eq_some_iff).mpr listed
    exact ⟨_, List.mem_filter.mpr ⟨found, decide_eq_true rfl⟩, aims⟩

variable (ends : ∀ state, terminal.contains state = true ↔ Ends entries state)

include ends

/-- No fault is found if a transition leads nowhere, or from where the entries do not end. -/
theorem transitionFault?_eq_none_iff {source : S} {targets : List S} :
    transitionFault? entityType terminal (source, targets) = none ↔
      (targets ≠ [] → ¬Ends entries source) := by
  cases targets with
  | nil => simp [transitionFault?]
  | cons target rest => simp [transitionFault?, ← ends]

/-- The fault names the first target. -/
theorem transitionFault?_eq_some_iff {source : S} {targets : List S} :
    transitionFault? entityType terminal (source, targets) = some fault ↔
      ∃ target rest, targets = target :: rest ∧ Ends entries source ∧
        fault = .transitionFromTerminal entityType (label source) (label target) := by
  cases targets with
  | nil => simp [transitionFault?]
  | cons target rest =>
    simp only [transitionFault?, Option.ite_none_right_eq_some, ends, Option.some.injEq,
      List.cons.injEq]
    constructor
    · rintro ⟨ended, rfl⟩
      exact ⟨target, rest, ⟨rfl, rfl⟩, ended, rfl⟩
    · rintro ⟨_, _, ⟨rfl, rfl⟩, ended, rfl⟩
      exact ⟨ended, rfl⟩

variable {earlier : List S} {before : List (Entry S P Call Response)}
  {registration : Registration S P Call Response}
  (knows : ∀ state, earlier.contains state = true ↔
    ∃ other, .handler other ∈ before ∧ other.state = state)

include knows

omit ends in
/-- A state is free if no earlier handler is for it. -/
theorem not_contains_iff {state : S} : ¬earlier.contains state = true ↔
    ∀ other, .handler other ∈ before → other.state ≠ state := by
  rw [knows]
  exact ⟨fun free other listed same => free ⟨other, listed, same⟩,
    fun first ⟨other, listed, same⟩ => first other listed same⟩

/-- The fault that is found is the first thing wrong with a handler. -/
theorem handlerFault?_eq_some_iff :
    handlerFault? entityType terminal (entries.filterMap Entry.transition?) earlier registration =
      some fault ↔ HandlerFault entries entityType before registration fault := by
  unfold handlerFault?
  dsimp only
  constructor
  · intro found
    split at found
    · next ended =>
      cases found
      exact .terminal ((ends _).mp ended)
    · next alive =>
      have alive := fun ended => alive ((ends _).mpr ended)
      split at found
      · next taken =>
        cases found
        obtain ⟨other, listed, same⟩ := (knows _).mp taken
        exact .duplicate alive listed same
      · next free =>
        have first := (not_contains_iff knows).mp free
        obtain ⟨target, strays, rfl⟩ := Option.map_eq_some_iff.mp found
        obtain ⟨astray, legal, rest, split, leads⟩ := List.find?_eq_some_iff_append.mp strays
        refine .illegal alive first split (fun other listed => ?_) fun leads => ?_
        · simpa [mem_targetsFrom_iff] using leads other listed
        · simp [mem_targetsFrom_iff, leads] at astray
  · intro wrong
    cases wrong with
    | terminal ended => rw [if_pos ((ends _).mpr ended)]
    | duplicate alive taken same =>
      rw [if_neg fun ended => alive ((ends _).mp ended), if_pos ((knows _).mpr ⟨_, taken, same⟩)]
    | @illegal alive first legal rest target split leads astray =>
      rw [if_neg fun ended => alive ((ends _).mp ended),
        if_neg ((not_contains_iff knows).mpr first), Option.map_eq_some_iff]
      refine ⟨target, List.find?_eq_some_iff_append.mpr ⟨?_, legal, rest, split, ?_⟩, rfl⟩
      · simpa [mem_targetsFrom_iff] using astray
      · intro other listed
        simpa [mem_targetsFrom_iff] using leads other listed

/-- No fault is found if the handler fits. -/
theorem handlerFault?_eq_none_iff :
    handlerFault? entityType terminal (entries.filterMap Entry.transition?) earlier registration =
      none ↔ HandlerFits entries before registration := by
  unfold handlerFault?
  dsimp only
  constructor
  · intro faultless
    split at faultless
    · cases faultless
    · next alive =>
      split at faultless
      · cases faultless
      · next free =>
        refine ⟨fun ended => alive ((ends _).mpr ended), (not_contains_iff knows).mp free,
          fun target declared => ?_⟩
        have legal := List.find?_eq_none.mp (Option.map_eq_none_iff.mp faultless) target declared
        simpa [mem_targetsFrom_iff] using legal
  · rintro ⟨alive, first, legal⟩
    rw [if_neg fun ended => alive ((ends _).mp ended), if_neg ((not_contains_iff knows).mpr first),
      Option.map_eq_none_iff, List.find?_eq_none]
    intro target declared
    simpa [mem_targetsFrom_iff] using legal target declared

end Checks

/-! ### All checks of one kind -/

section AllChecks

variable [DecidableEq S] (entityType : String) {terminal : List S}
  {fault : RegistryError} {part : List (Entry S P Call Response)}

/-- Handlers are checked one after the other. -/
theorem handlersFault?_append {transitions : List (S × List S)} {earlier : List S}
    {first second : List (Registration S P Call Response)} :
    handlersFault? entityType terminal transitions earlier (first ++ second) =
      (handlersFault? entityType terminal transitions earlier first).or
        (handlersFault? entityType terminal transitions ((first.map (·.state)).reverse ++ earlier)
          second) := by
  induction first generalizing earlier with
  | nil => rfl
  | cons registration rest ih =>
    rw [List.cons_append, handlersFault?, handlersFault?]
    cases handlerFault? entityType terminal transitions earlier registration with
    | some fault => rfl
    | none =>
      dsimp only
      rw [ih, List.map_cons, List.reverse_cons, List.append_assoc]
      rfl

/-- The first fault of some handlers is the fault of a handler, after others that have none. -/
theorem handlersFault?_eq_some_iff {transitions : List (S × List S)}
    {registrations : List (Registration S P Call Response)} :
    handlersFault? entityType terminal transitions [] registrations = some fault ↔
      ∃ before registration after, registrations = before ++ registration :: after ∧
        handlersFault? entityType terminal transitions [] before = none ∧
        handlerFault? entityType terminal transitions (before.map (·.state)).reverse registration =
          some fault := by
  constructor
  · intro found
    induction registrations using List.reverseRecOn with
    | nil => cases found
    | append_singleton registrations last ih =>
      rw [handlersFault?_append, Option.or_eq_some_iff] at found
      rcases found with early | ⟨none, late⟩
      · obtain ⟨before, registration, after, rfl, faultless, wrong⟩ := ih early
        exact ⟨before, registration, after ++ [last], by simp, faultless, wrong⟩
      · refine ⟨registrations, last, [], rfl, none, ?_⟩
        rw [List.append_nil, handlersFault?] at late
        split at late
        · next wrong =>
          rw [wrong]
          exact late
        · cases late
  · rintro ⟨before, registration, after, rfl, faultless, wrong⟩
    rw [handlersFault?_append, faultless, Option.none_or, handlersFault?, List.append_nil, wrong]

/-- The states of earlier handlers are known. -/
theorem contains_reverse_states {state : S} :
    ((part.filterMap Entry.registration?).map (·.state)).reverse.contains state = true ↔
      ∃ other, .handler other ∈ part ∧ other.state = state := by
  rw [List.contains_iff_mem, List.mem_reverse, List.mem_map]
  exact exists_congr fun other =>
    and_congr_left fun _ => mem_filterMap_iff Entry.registration?_eq_some_iff

/-- What all handlers have with the entries before them, the last one has, and those before it. -/
theorem forall_handler_concat {last : Entry S P Call Response}
    {holds : List (Entry S P Call Response) → Registration S P Call Response → Prop} :
    (∀ before registration after, part ++ [last] = before ++ .handler registration :: after →
        holds before registration) ↔
      (∀ before registration after, part = before ++ .handler registration :: after →
        holds before registration) ∧
      ∀ registration, last = .handler registration → holds part registration := by
  constructor
  · intro all
    refine ⟨fun before registration after split => ?_, ?_⟩
    · have longer : part ++ [last] = before ++ .handler registration :: (after ++ [last]) := by
        rw [split, List.append_assoc, List.cons_append]
      exact all _ _ _ longer
    · rintro registration rfl
      exact all _ _ _ rfl
  · rintro ⟨early, late⟩ before registration after split
    rcases List.eq_nil_or_concat after with rfl | ⟨rest, final, rfl⟩
    · obtain ⟨rfl, same⟩ := List.append_inj' split rfl
      exact late registration (List.singleton_inj.mp same)
    · rw [List.concat_eq_append, ← List.cons_append, ← List.append_assoc] at split
      exact early _ _ _ (List.append_inj' split rfl).1

/-- Handlers are for different states if no earlier one is for the state of a later one. -/
theorem nodup_states_iff :
    ((part.filterMap Entry.registration?).map (·.state)).Nodup ↔
      ∀ before registration after, part = before ++ .handler registration :: after →
        ∀ other, .handler other ∈ before → other.state ≠ registration.state := by
  induction part using List.reverseRecOn with
  | nil =>
    refine ⟨fun _ before registration after split => ?_, fun _ => .nil⟩
    exact absurd split.symm (List.append_ne_nil_of_right_ne_nil _ (List.cons_ne_nil _ _))
  | append_singleton part last ih =>
    rw [forall_handler_concat, ← ih, List.filterMap_append, List.map_append]
    cases last with
    | handler registration =>
      show (_ ++ [registration.state]).Nodup ↔ _
      have taken : ∀ other, other ∈ part.filterMap Entry.registration? ↔ .handler other ∈ part :=
        fun _ => mem_filterMap_iff Entry.registration?_eq_some_iff
      rw [List.nodup_append]
      simp [taken]
    | initial _ | failed _ | cancelled _ | terminal _ | transition _ _ =>
      show (_ ++ []).Nodup ↔ _
      rw [List.append_nil]
      exact (and_iff_left fun _ other => (by cases other)).symm

variable (ends : ∀ state, terminal.contains state = true ↔ Ends entries state)

include ends

/-- No fault is found if the transitions fit. -/
theorem transitionsFault_eq_none_iff :
    (part.filterMap Entry.transition?).findSome? (transitionFault? entityType terminal) = none ↔
      TransitionsFit entries part := by
  rw [List.findSome?_eq_none_iff]
  constructor
  · intro faultless source targets listed
    have found : (source, targets) ∈ part.filterMap Entry.transition? :=
      (mem_filterMap_iff Entry.transition?_eq_some_iff).mpr listed
    exact (transitionFault?_eq_none_iff ends).mp (faultless _ found)
  · rintro fits ⟨source, targets⟩ found
    exact (transitionFault?_eq_none_iff ends).mpr
      (fits _ _ ((mem_filterMap_iff Entry.transition?_eq_some_iff).mp found))

/-- The fault that is found is that of a transition, after others that fit. -/
theorem transitionsFault_eq_some_iff :
    (entries.filterMap Entry.transition?).findSome? (transitionFault? entityType terminal) =
      some fault ↔
      ∃ before source target rest after,
        entries = before ++ .transition source (target :: rest) :: after ∧
        TransitionsFit entries before ∧ Ends entries source ∧
        fault = .transitionFromTerminal entityType (label source) (label target) := by
  rw [List.findSome?_eq_some_iff]
  constructor
  · rintro ⟨before, ⟨source, targets⟩, after, split, wrong, faultless⟩
    obtain ⟨target, rest, rfl, ended, rfl⟩ := (transitionFault?_eq_some_iff ends).mp wrong
    obtain ⟨early, one, late, same, rfl, is⟩ := filterMap_eq_append_cons split
    obtain rfl := Entry.transition?_eq_some_iff.mp is
    exact ⟨early, source, target, rest, late, same,
      (transitionsFault_eq_none_iff entityType ends).mp (List.findSome?_eq_none_iff.mpr faultless),
      ended, rfl⟩
  · rintro ⟨before, source, target, rest, after, split, fits, ended, rfl⟩
    refine ⟨before.filterMap Entry.transition?, (source, target :: rest),
      after.filterMap Entry.transition?, ?_,
      (transitionFault?_eq_some_iff ends).mpr ⟨target, rest, rfl, ended, rfl⟩,
      List.findSome?_eq_none_iff.mp ((transitionsFault_eq_none_iff entityType ends).mpr fits)⟩
    rw [split, List.filterMap_append]
    rfl

/-- No fault is found if the handlers fit. -/
theorem handlersFault_eq_none_iff :
    handlersFault? entityType terminal (entries.filterMap Entry.transition?) []
      (part.filterMap Entry.registration?) = none ↔ HandlersFit entries part := by
  induction part using List.reverseRecOn with
  | nil =>
    refine ⟨fun _ before registration after split => ?_, fun _ => rfl⟩
    exact absurd split.symm (List.append_ne_nil_of_right_ne_nil _ (List.cons_ne_nil _ _))
  | append_singleton part last ih =>
    rw [List.filterMap_append, handlersFault?_append, Option.or_eq_none_iff, ih, List.append_nil]
    refine Iff.trans (and_congr_right fun _ => ?_) forall_handler_concat.symm
    cases last with
    | handler registration =>
      have one : handlerFault? entityType terminal (entries.filterMap Entry.transition?)
          ((part.filterMap Entry.registration?).map (·.state)).reverse registration = none ↔
            HandlerFits entries part registration :=
        handlerFault?_eq_none_iff ends fun _ => contains_reverse_states
      show handlersFault? _ _ _ _ [registration] = none ↔ _
      rw [handlersFault?]
      refine Iff.trans ?_ (one.trans ⟨fun fits other same => ?_, fun fits => fits _ rfl⟩)
      · split
        · next wrong => rw [wrong]
        · next right => exact ⟨fun _ => right, fun _ => rfl⟩
      · cases same
        exact fits
    | initial _ | failed _ | cancelled _ | terminal _ | transition _ _ =>
      exact ⟨fun _ _ other => (by cases other), fun _ => rfl⟩

/-- The fault that is found is that of a handler, after others that fit. -/
theorem handlersFault_eq_some_iff :
    handlersFault? entityType terminal (entries.filterMap Entry.transition?) []
      (entries.filterMap Entry.registration?) = some fault ↔
      ∃ before registration after, entries = before ++ .handler registration :: after ∧
        HandlersFit entries before ∧ HandlerFault entries entityType before registration fault := by
  rw [handlersFault?_eq_some_iff]
  constructor
  · rintro ⟨before, registration, after, split, faultless, wrong⟩
    obtain ⟨early, one, late, same, rfl, is⟩ := filterMap_eq_append_cons split
    obtain rfl := Entry.registration?_eq_some_iff.mp is
    exact ⟨early, registration, late, same,
      (handlersFault_eq_none_iff entityType ends).mp faultless,
      (handlerFault?_eq_some_iff ends fun _ => contains_reverse_states).mp wrong⟩
  · rintro ⟨before, registration, after, split, fits, wrong⟩
    refine ⟨before.filterMap Entry.registration?, registration,
      after.filterMap Entry.registration?, ?_, (handlersFault_eq_none_iff entityType ends).mpr fits,
      (handlerFault?_eq_some_iff ends fun _ => contains_reverse_states).mpr wrong⟩
    rw [split, List.filterMap_append]
    rfl

end AllChecks

/-! ### Drafts that become registries -/

section Built

variable [DecidableEq S] {entityType : String} {fault : RegistryError}

/-- Handlers fit if they are for different states, in none of which the entries end, and lead only
where the entries lead. -/
theorem handlersFit_iff {part : List (Entry S P Call Response)} :
    HandlersFit entries part ↔
      (∀ registration, .handler registration ∈ part → ¬Ends entries registration.state) ∧
      ((part.filterMap Entry.registration?).map (·.state)).Nodup ∧
      ∀ registration, .handler registration ∈ part → ∀ target ∈ registration.declared,
        Leads entries registration.state target := by
  rw [nodup_states_iff]
  constructor
  · intro fits
    refine ⟨fun registration listed => ?_, fun _ _ _ split => (fits _ _ _ split).first,
      fun registration listed => ?_⟩
    · obtain ⟨before, after, rfl⟩ := List.append_of_mem listed
      exact (fits _ _ _ rfl).alive
    · obtain ⟨before, after, rfl⟩ := List.append_of_mem listed
      exact (fits _ _ _ rfl).legal
  · rintro ⟨alive, single, legal⟩ before registration after rfl
    have listed : .handler registration ∈ before ++ .handler registration :: after :=
      List.mem_append_right _ List.mem_cons_self
    exact ⟨alive _ listed, single _ _ _ rfl, legal _ listed⟩

/-- Entries fit together if there are states for the roles, and all checks are passed. -/
theorem consistent_iff : Consistent entries ↔
    HasRoles entries ∧ TransitionsFit entries entries ∧ HandlersFit entries entries := by
  rw [handlersFit_iff]
  exact ⟨fun ⟨roles, transitions, alive, single, declared⟩ =>
      ⟨roles, transitions, alive, single, declared⟩,
    fun ⟨roles, transitions, alive, single, declared⟩ =>
      ⟨roles, transitions, alive, single, declared⟩⟩

/-- There is a last state for a role if there is one at all. -/
theorem exists_getLast?_iff {role? : Entry S P Call Response → Option S}
    {make : S → Entry S P Call Response}
    (reads : ∀ {entry state}, role? entry = some state ↔ entry = make state) :
    (∃ state, (entries.filterMap role?).getLast? = some state) ↔ ∃ state, make state ∈ entries := by
  rw [← Option.isSome_iff_exists, ← not_iff_not, Option.not_isSome_iff_eq_none,
    getLast?_filterMap_eq_none_iff reads, not_exists]

/-- The registry of entries that fit together. -/
def registryOf (entityType : String) (entries : List (Entry S P Call Response))
    (initial failed cancelled : S) : Registry S P Call Response where
  entityType := entityType
  initial := initial
  failed := failed
  cancelled := cancelled
  terminal := entries.filterMap Entry.terminal? ++ [failed, cancelled]
  transitions := entries.filterMap Entry.transition?
  registrations := entries.filterMap Entry.registration?

/-- The states in which the entries end are the terminal ones. -/
theorem contains_terminal_iff {failed cancelled : S}
    (second : (entries.filterMap Entry.failed?).getLast? = some failed)
    (third : (entries.filterMap Entry.cancelled?).getLast? = some cancelled) (state : S) :
    (entries.filterMap Entry.terminal? ++ [failed, cancelled]).contains state = true ↔
      Ends entries state := by
  unfold Ends
  rw [List.contains_iff_mem, List.mem_append, mem_filterMap_iff Entry.terminal?_eq_some_iff, second,
    third]
  simp only [List.mem_cons, List.not_mem_nil, or_false, Option.some.injEq, eq_comm]

/-- With a state for each role the transitions are checked, then the handlers. -/
theorem build_of_roles {initial failed cancelled : S}
    (first : (entries.filterMap Entry.initial?).getLast? = some initial)
    (second : (entries.filterMap Entry.failed?).getLast? = some failed)
    (third : (entries.filterMap Entry.cancelled?).getLast? = some cancelled) :
    let terminal := entries.filterMap Entry.terminal? ++ [failed, cancelled]
    let transitions := entries.filterMap Entry.transition?
    (ofEntries entityType entries).build =
      match transitions.findSome? (transitionFault? entityType terminal) with
      | some fault => .error fault
      | none =>
        match handlersFault? entityType terminal transitions []
            (entries.filterMap Entry.registration?) with
        | some fault => .error fault
        | none => .ok (registryOf entityType entries initial failed cancelled) := by
  rw [ofEntries_eq]
  unfold build
  rw [first, second, third]
  rfl

/-- With a state for each role the first fault is that of a transition or that of a handler. -/
theorem firstFault_iff_of_roles (roles : HasRoles entries) : FirstFault entries entityType fault ↔
    (∃ before source target rest after,
      entries = before ++ .transition source (target :: rest) :: after ∧
      TransitionsFit entries before ∧ Ends entries source ∧
      fault = .transitionFromTerminal entityType (label source) (label target)) ∨
    TransitionsFit entries entries ∧
      ∃ before registration after, entries = before ++ .handler registration :: after ∧
        HandlersFit entries before ∧ HandlerFault entries entityType before registration fault := by
  constructor
  · intro wrong
    cases wrong with
    | noInitial missing => exact absurd roles.initial (not_exists.mpr missing)
    | noFailed _ missing => exact absurd roles.failed (not_exists.mpr missing)
    | noCancelled _ _ missing => exact absurd roles.cancelled (not_exists.mpr missing)
    | transition _ split fits ended => exact .inl ⟨_, _, _, _, _, split, fits, ended, rfl⟩
    | handler _ transitions split fits wrong =>
      exact .inr ⟨transitions, _, _, _, split, fits, wrong⟩
  · rintro (⟨_, _, _, _, _, split, fits, ended, rfl⟩ | ⟨transitions, _, _, _, split, fits, wrong⟩)
    · exact .transition roles split fits ended
    · exact .handler roles transitions split fits wrong

/-- Without a state for a role the first fault is that it is missing. -/
theorem firstFault_iff_of_missing {role : String} (wrong : FirstFault entries entityType
    (.missingState entityType role)) (missing : ¬HasRoles entries) :
    FirstFault entries entityType fault ↔ fault = .missingState entityType role := by
  refine ⟨fun first => ?_, fun same => same ▸ wrong⟩
  cases first with
  | noInitial missing =>
    cases wrong with
    | noInitial => rfl
    | noFailed initial | noCancelled initial => exact absurd initial (not_exists.mpr missing)
    | handler roles => exact absurd roles.initial (not_exists.mpr missing)
  | noFailed initial missing =>
    cases wrong with
    | noInitial none => exact absurd initial (not_exists.mpr none)
    | noFailed => rfl
    | noCancelled _ failed => exact absurd failed (not_exists.mpr missing)
    | handler roles => exact absurd roles.failed (not_exists.mpr missing)
  | noCancelled initial failed missing =>
    cases wrong with
    | noInitial none => exact absurd initial (not_exists.mpr none)
    | noFailed _ none => exact absurd failed (not_exists.mpr none)
    | noCancelled => rfl
    | handler roles => exact absurd roles.cancelled (not_exists.mpr missing)
  | transition roles => exact absurd roles missing
  | handler roles => exact absurd roles missing

/-- Without a state for a role there is a first fault. -/
theorem exists_firstFault_of_missing (missing : ¬HasRoles entries) :
    ∃ role, FirstFault entries entityType (.missingState entityType role) := by
  by_cases initial : ∃ state, .initial state ∈ entries
  · by_cases failed : ∃ state, .failed state ∈ entries
    · refine ⟨_, .noCancelled initial failed (not_exists.mp fun cancelled => ?_)⟩
      exact missing ⟨initial, failed, cancelled⟩
    · exact ⟨_, .noFailed initial (not_exists.mp failed)⟩
  · exact ⟨_, .noInitial (not_exists.mp initial)⟩

/-- **A draft fails with its first fault**, and with no other one. -/
theorem build_eq_error_iff :
    (ofEntries entityType entries).build = .error fault ↔ FirstFault entries entityType fault := by
  have refused : ∀ {role : String}, FirstFault entries entityType (.missingState entityType role) →
      ¬HasRoles entries →
      (ofEntries entityType entries).build = .error (.missingState entityType role) →
      ((ofEntries entityType entries).build = .error fault ↔
        FirstFault entries entityType fault) := by
    intro role wrong missing fails
    rw [fails, firstFault_iff_of_missing wrong missing, Except.error.injEq, eq_comm]
  cases first : (entries.filterMap Entry.initial?).getLast? with
  | none =>
    have missing := (getLast?_filterMap_eq_none_iff Entry.initial?_eq_some_iff).mp first
    refine refused (.noInitial missing) (fun roles => not_exists.mpr missing roles.initial) ?_
    rw [ofEntries_eq]
    unfold build
    rw [first]
    rfl
  | some initial =>
  have hasInitial := (exists_getLast?_iff Entry.initial?_eq_some_iff).mp ⟨_, first⟩
  cases second : (entries.filterMap Entry.failed?).getLast? with
  | none =>
    have missing := (getLast?_filterMap_eq_none_iff Entry.failed?_eq_some_iff).mp second
    refine refused (.noFailed hasInitial missing)
      (fun roles => not_exists.mpr missing roles.failed) ?_
    rw [ofEntries_eq]
    unfold build
    rw [first, second]
    rfl
  | some failed =>
  have hasFailed := (exists_getLast?_iff Entry.failed?_eq_some_iff).mp ⟨_, second⟩
  cases third : (entries.filterMap Entry.cancelled?).getLast? with
  | none =>
    have missing := (getLast?_filterMap_eq_none_iff Entry.cancelled?_eq_some_iff).mp third
    refine refused (.noCancelled hasInitial hasFailed missing)
      (fun roles => not_exists.mpr missing roles.cancelled) ?_
    rw [ofEntries_eq]
    unfold build
    rw [first, second, third]
    rfl
  | some cancelled =>
  have roles : HasRoles entries :=
    ⟨hasInitial, hasFailed, (exists_getLast?_iff Entry.cancelled?_eq_some_iff).mp ⟨_, third⟩⟩
  have ends := contains_terminal_iff second third
  rw [build_of_roles first second third, firstFault_iff_of_roles roles,
    ← transitionsFault_eq_some_iff entityType ends, ← transitionsFault_eq_none_iff entityType ends,
    ← handlersFault_eq_some_iff entityType ends]
  cases (entries.filterMap Entry.transition?).findSome? (transitionFault? entityType
    (entries.filterMap Entry.terminal? ++ [failed, cancelled])) with
  | some other => simp
  | none =>
    cases handlersFault? entityType (entries.filterMap Entry.terminal? ++ [failed, cancelled])
      (entries.filterMap Entry.transition?) [] (entries.filterMap Entry.registration?) <;> simp

/-- **A draft becomes a registry if its entries fit together**, and only then. -/
theorem build_eq_ok_iff {registry : Registry S P Call Response} :
    (ofEntries entityType entries).build = .ok registry ↔ Consistent entries ∧
      ∃ initial failed cancelled,
        (entries.filterMap Entry.initial?).getLast? = some initial ∧
        (entries.filterMap Entry.failed?).getLast? = some failed ∧
        (entries.filterMap Entry.cancelled?).getLast? = some cancelled ∧
        registry = registryOf entityType entries initial failed cancelled := by
  constructor
  · intro built
    have roles : HasRoles entries := by
      by_contra missing
      obtain ⟨role, wrong⟩ := exists_firstFault_of_missing missing
      rw [build_eq_error_iff.mpr wrong] at built
      cases built
    obtain ⟨initial, first⟩ := (exists_getLast?_iff Entry.initial?_eq_some_iff).mpr roles.initial
    obtain ⟨failed, second⟩ := (exists_getLast?_iff Entry.failed?_eq_some_iff).mpr roles.failed
    obtain ⟨cancelled, third⟩ :=
      (exists_getLast?_iff Entry.cancelled?_eq_some_iff).mpr roles.cancelled
    have ends := contains_terminal_iff second third
    rw [build_of_roles first second third] at built
    split at built
    · cases built
    · next transitions =>
      split at built
      · cases built
      · next handlers =>
        cases built
        have fits := (transitionsFault_eq_none_iff entityType ends).mp transitions
        have fit := (handlersFault_eq_none_iff entityType ends).mp handlers
        exact ⟨consistent_iff.mpr ⟨roles, fits, fit⟩, initial, failed, cancelled, first, second,
          third, rfl⟩
  · rintro ⟨consistent, initial, failed, cancelled, first, second, third, rfl⟩
    obtain ⟨_, transitions, handlers⟩ := consistent_iff.mp consistent
    have ends := contains_terminal_iff second third
    rw [build_of_roles first second third,
      (transitionsFault_eq_none_iff entityType ends).mpr transitions,
      (handlersFault_eq_none_iff entityType ends).mpr handlers]

end Built

end Leasehold.Draft
