/-
**The entries of a draft.**

A draft is filled entry by entry: states with a role, of which the last one counts, terminal states,
transitions and handlers.

* `IsAscending`: states in the strict order of their codes, as `sortedStates` gives them;
* `Draft.Entry`, `Draft.ofEntries`: the entries of a draft;
* `Draft.Ends`, `Draft.Leads`: which states the entries end in, and where they lead;
* `Draft.Consistent`: the entries fit together;
* `Draft.FirstFault`: the first check that they fail;
* `Draft.ofEntries_eq`: what a draft holds of its entries.
-/

import Leasehold.Proofs.Registry.Build
import Mathlib.Data.List.Induction

set_option linter.unusedSectionVars false

namespace Leasehold

/-! ### Sorted states -/

section Sorted

variable {S : Type} [DecidableEq S]

/-- Without its repetitions a list keeps its order. -/
theorem pairwise_eraseDups {before : S → S → Prop} {states : List S}
    (ordered : states.Pairwise before) :
    states.eraseDups.Pairwise fun first second => before first second ∧ first ≠ second := by
  match states, ordered with
  | [], _ => exact .nil
  | first :: rest, .cons follows ordered =>
    rw [List.eraseDups_cons]
    refine .cons (fun other later => ?_) (pairwise_eraseDups (ordered.filter _))
    obtain ⟨listed, different⟩ := List.mem_filter.mp (List.mem_eraseDups.mp later)
    exact ⟨follows other listed, fun same => by simp [same] at different⟩
termination_by states.length
decreasing_by exact Nat.lt_succ_of_le (List.length_filter_le _ _)

variable [ProcessState S]

/-- States in the strict order of their codes. -/
abbrev IsAscending (states : List S) : Prop :=
  states.Pairwise fun first second => code first < code second

/-- Sorted states are in the strict order of their codes. -/
theorem isAscending_sortedStates (states : List S) : IsAscending (sortedStates states) := by
  have transitive : ∀ first second third : S, decide (code first ≤ code second) = true →
      decide (code second ≤ code third) = true → decide (code first ≤ code third) = true :=
    fun _ _ _ left right =>
      decide_eq_true (Int.le_trans (of_decide_eq_true left) (of_decide_eq_true right))
  have total : ∀ first second : S,
      (decide (code first ≤ code second) || decide (code second ≤ code first)) = true := by
    intro first second
    simpa using Int.le_total (code first) (code second)
  have ordered := List.pairwise_mergeSort transitive total states
  refine (pairwise_eraseDups ordered).imp fun {first second} ⟨before, different⟩ => ?_
  have notAfter : code first ≤ code second := of_decide_eq_true before
  exact Int.lt_iff_le_and_ne.mpr ⟨notAfter, fun same => different (code_injective same)⟩

/-- There is one ascending list of the same states. -/
theorem IsAscending.eq {states others : List S} (ascending : IsAscending states)
    (ascendingToo : IsAscending others) (same : ∀ state, state ∈ states ↔ state ∈ others) :
    states = others := by
  have distinct : ∀ {list : List S}, IsAscending list → list.Nodup := fun ascending =>
    ascending.imp fun {first second} before equal => by
      rw [equal] at before
      exact Int.lt_irrefl _ before
  have together : states.Perm others :=
    (List.perm_ext_iff_of_nodup (distinct ascending) (distinct ascendingToo)).mpr same
  exact together.eq_of_pairwise (fun _ _ _ _ before after => absurd after (Int.lt_asymm before))
    ascending ascendingToo

end Sorted

variable {S P Call : Type} {Response : Call → Type}

namespace Draft

/-! ### Entries -/

/-- What one call enters into a draft. -/
inductive Entry (S P Call : Type) (Response : Call → Type) where
  | initial (state : S)
  | failed (state : S)
  | cancelled (state : S)
  | terminal (state : S)
  | transition (source : S) (targets : List S)
  | handler (registration : Registration S P Call Response)

namespace Entry

/-- The state that is to be the initial one. -/
def initial? : Entry S P Call Response → Option S
  | .initial state => some state
  | _ => none

/-- The state that is to be the failed one. -/
def failed? : Entry S P Call Response → Option S
  | .failed state => some state
  | _ => none

/-- The state that is to be the cancelled one. -/
def cancelled? : Entry S P Call Response → Option S
  | .cancelled state => some state
  | _ => none

/-- A terminal state. -/
def terminal? : Entry S P Call Response → Option S
  | .terminal state => some state
  | _ => none

/-- A transition. -/
def transition? : Entry S P Call Response → Option (S × List S)
  | .transition source targets => some (source, targets)
  | _ => none

/-- A handler. -/
def registration? : Entry S P Call Response → Option (Registration S P Call Response)
  | .handler registration => some registration
  | _ => none

/-- Whether an entry gives a state its role, so that it matters which one comes last. -/
def isRole : Entry S P Call Response → Bool
  | .initial _ | .failed _ | .cancelled _ => true
  | .terminal _ | .transition _ _ | .handler _ => false

end Entry

/-- The draft with one more entry. -/
def enter (draft : Draft S P Call Response) :
    Entry S P Call Response → Draft S P Call Response
  | .initial state => { draft with initial := some state }
  | .failed state => { draft with failed := some state }
  | .cancelled state => { draft with cancelled := some state }
  | .terminal state => draft.withTerminal state
  | .transition source targets => draft.withTransition source targets
  | .handler registration =>
    draft.withHandler registration.state registration.declared registration.handler

/-- The draft of some entries. -/
def ofEntries (entityType : String) (entries : List (Entry S P Call Response)) :
    Draft S P Call Response :=
  entries.foldl enter (empty entityType)

/-- **What a draft holds**: the last state for each role, and all the other entries in order. -/
theorem ofEntries_eq (entityType : String) (entries : List (Entry S P Call Response)) :
    ofEntries entityType entries =
      { entityType := entityType
        initial := (entries.filterMap Entry.initial?).getLast?
        failed := (entries.filterMap Entry.failed?).getLast?
        cancelled := (entries.filterMap Entry.cancelled?).getLast?
        terminal := entries.filterMap Entry.terminal?
        transitions := entries.filterMap Entry.transition?
        registrations := entries.filterMap Entry.registration? } := by
  induction entries using List.reverseRecOn with
  | nil => rfl
  | append_singleton entries last ih =>
    unfold ofEntries at ih ⊢
    rw [List.foldl_append, ih, List.foldl_cons, List.foldl_nil]
    simp only [List.filterMap_append]
    cases last <;>
      simp [enter, withTerminal, withTransition, withHandler, Entry.initial?, Entry.failed?,
        Entry.cancelled?, Entry.terminal?, Entry.transition?, Entry.registration?]

/-! ### What entries say -/

variable (entries : List (Entry S P Call Response))

/-- The entries end in a state: it is listed as terminal, or it is the last failed or cancelled
state. -/
def Ends (state : S) : Prop :=
  .terminal state ∈ entries ∨ (entries.filterMap Entry.failed?).getLast? = some state ∨
    (entries.filterMap Entry.cancelled?).getLast? = some state

/-- The entries lead from one state to another. -/
def Leads (source target : S) : Prop :=
  ∃ targets, .transition source targets ∈ entries ∧ target ∈ targets

/-- There is a state for each role. -/
structure HasRoles : Prop where
  initial : ∃ state, .initial state ∈ entries
  failed : ∃ state, .failed state ∈ entries
  cancelled : ∃ state, .cancelled state ∈ entries

/-- Of some entries, no transition leads on from where all entries end. -/
def TransitionsFit (part : List (Entry S P Call Response)) : Prop :=
  ∀ source targets, .transition source targets ∈ part → targets ≠ [] → ¬Ends entries source

/-- A handler is for a state in which the entries do not end, it is the first one for it, and leads
only where the entries lead. -/
structure HandlerFits (earlier : List (Entry S P Call Response))
    (registration : Registration S P Call Response) : Prop where
  alive : ¬Ends entries registration.state
  first : ∀ other, .handler other ∈ earlier → other.state ≠ registration.state
  legal : ∀ target ∈ registration.declared, Leads entries registration.state target

/-- Of some entries, each handler fits all entries. -/
def HandlersFit (part : List (Entry S P Call Response)) : Prop :=
  ∀ before registration after, part = before ++ .handler registration :: after →
    HandlerFits entries before registration

/-- The entries fit together. -/
structure Consistent : Prop where
  roles : HasRoles entries
  transitions : ∀ source targets, .transition source targets ∈ entries → targets ≠ [] →
    ¬Ends entries source
  alive : ∀ registration, .handler registration ∈ entries → ¬Ends entries registration.state
  single : ((entries.filterMap Entry.registration?).map (·.state)).Nodup
  declared : ∀ registration, .handler registration ∈ entries →
    ∀ target ∈ registration.declared, Leads entries registration.state target

variable [ProcessState S]

/-- What is wrong with a handler after some earlier entries, the first thing first. -/
inductive HandlerFault (entityType : String) (earlier : List (Entry S P Call Response))
    (registration : Registration S P Call Response) : RegistryError → Prop where
  | terminal (ended : Ends entries registration.state) :
      HandlerFault entityType earlier registration
        (.handlerOnTerminalState entityType (label registration.state))
  | duplicate (alive : ¬Ends entries registration.state)
      {other : Registration S P Call Response} (taken : .handler other ∈ earlier)
      (same : other.state = registration.state) :
      HandlerFault entityType earlier registration
        (.duplicateHandler entityType (label registration.state))
  | illegal (alive : ¬Ends entries registration.state)
      (first : ∀ other, .handler other ∈ earlier → other.state ≠ registration.state)
      {legal rest : List S} {target : S} (split : registration.declared = legal ++ target :: rest)
      (leads : ∀ other ∈ legal, Leads entries registration.state other)
      (astray : ¬Leads entries registration.state target) :
      HandlerFault entityType earlier registration
        (.illegalDeclaredTransition entityType (label registration.state) (label target))

/-- The first check that entries fail: roles come first, then transitions, then handlers, the last
two in the order of the entries. -/
inductive FirstFault (entityType : String) : RegistryError → Prop where
  | noInitial (missing : ∀ state, .initial state ∉ entries) :
      FirstFault entityType (.missingState entityType "initial")
  | noFailed (initial : ∃ state, .initial state ∈ entries)
      (missing : ∀ state, .failed state ∉ entries) :
      FirstFault entityType (.missingState entityType "failed")
  | noCancelled (initial : ∃ state, .initial state ∈ entries)
      (failed : ∃ state, .failed state ∈ entries) (missing : ∀ state, .cancelled state ∉ entries) :
      FirstFault entityType (.missingState entityType "cancelled")
  | transition (roles : HasRoles entries) {before after : List (Entry S P Call Response)}
      {source target : S} {rest : List S}
      (split : entries = before ++ .transition source (target :: rest) :: after)
      (fits : TransitionsFit entries before) (ended : Ends entries source) :
      FirstFault entityType (.transitionFromTerminal entityType (label source) (label target))
  | handler (roles : HasRoles entries) (transitions : TransitionsFit entries entries)
      {before after : List (Entry S P Call Response)}
      {registration : Registration S P Call Response}
      (split : entries = before ++ .handler registration :: after)
      (fits : HandlersFit entries before) {fault : RegistryError}
      (wrong : HandlerFault entries entityType before registration fault) :
      FirstFault entityType fault

/-! ### What a draft finds in its entries -/

section Found

variable {α β : Type} {part? : α → Option β} {make : β → α} {list : List α} {part : β}

/-- Parts of one kind are found in a list. -/
theorem mem_filterMap_iff (reads : ∀ {one part}, part? one = some part ↔ one = make part) :
    part ∈ list.filterMap part? ↔ make part ∈ list := by
  rw [List.mem_filterMap]
  constructor
  · rintro ⟨one, listed, is⟩
    rw [← reads.mp is]
    exact listed
  · exact fun listed => ⟨_, listed, reads.mpr rfl⟩

/-- There is no last part of a kind if there is none. -/
theorem getLast?_filterMap_eq_none_iff
    (reads : ∀ {one part}, part? one = some part ↔ one = make part) :
    (list.filterMap part?).getLast? = none ↔ ∀ part, make part ∉ list := by
  rw [List.getLast?_eq_none_iff, List.eq_nil_iff_forall_not_mem]
  exact forall_congr' fun part => not_congr (mem_filterMap_iff reads)

/-- What is found among the parts of a list splits the list. -/
theorem filterMap_eq_append_cons {before after : List β}
    (split : list.filterMap part? = before ++ part :: after) :
    ∃ early one late, list = early ++ one :: late ∧ early.filterMap part? = before ∧
      part? one = some part := by
  obtain ⟨early, others, rfl, same, found⟩ := List.filterMap_eq_append_iff.mp split
  obtain ⟨skipped, one, late, rfl, none, is, _⟩ := List.filterMap_eq_cons_iff.mp found
  refine ⟨early ++ skipped, one, late, (List.append_assoc _ _ _).symm, ?_, is⟩
  rw [List.filterMap_append, same, List.filterMap_eq_nil_iff.mpr none, List.append_nil]

end Found

namespace Entry

variable {entry : Entry S P Call Response} {state : S}

theorem initial?_eq_some_iff : entry.initial? = some state ↔ entry = .initial state := by
  cases entry <;> simp [initial?]

theorem failed?_eq_some_iff : entry.failed? = some state ↔ entry = .failed state := by
  cases entry <;> simp [failed?]

theorem cancelled?_eq_some_iff : entry.cancelled? = some state ↔ entry = .cancelled state := by
  cases entry <;> simp [cancelled?]

theorem terminal?_eq_some_iff : entry.terminal? = some state ↔ entry = .terminal state := by
  cases entry <;> simp [terminal?]

theorem transition?_eq_some_iff {transition : S × List S} :
    entry.transition? = some transition ↔ entry = .transition transition.1 transition.2 := by
  cases entry <;> simp [transition?, Prod.ext_iff]

theorem registration?_eq_some_iff {registration : Registration S P Call Response} :
    entry.registration? = some registration ↔ entry = .handler registration := by
  cases entry <;> simp [registration?]

end Entry

end Draft

end Leasehold
