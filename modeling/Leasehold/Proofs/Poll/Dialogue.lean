/-
**What a handler does and learns.**

A handler works through calls, looks at the clock and log entries, and the answers to its calls and
the instants that it reads decide what it does next. Here all this is written down in order, so that
a statement about every list of events that work can run through is a statement about every way in
which its surroundings may behave.

* `Work.Event`: a call with its answer, a look at the clock, or a log entry;
* `Work.Leads`, `Work.Runs`: the events with which work gets as far as to some other work, or to its
  result;
* `Oracle`, `exists_runs`: however surroundings behave, work comes to a result;
* `Work.events`, `leads_drive`: what an engine drives, it drives along such events.
-/

import Leasehold.Proofs.Fleet.Move

set_option linter.unusedSectionVars false

namespace Leasehold

variable {Call : Type} {Response : Call → Type}

namespace Work

variable {α : Type}

/-- What happens in one step of work. -/
inductive Event (Call : Type) (Response : Call → Type) where
  | called (request : Call) (response : Response request)
  | read (now : Instant)
  | logged (entry : Log.Entry)

/-- The call of an event. -/
def Event.request? : Event Call Response → Option Call
  | .called request _ => some request
  | .read _ | .logged _ => none

/-- The calls among some events, the first first. -/
def calls (events : List (Event Call Response)) : List Call := events.filterMap Event.request?

theorem calls_append (early late : List (Event Call Response)) :
    calls (early ++ late) = calls early ++ calls late := List.filterMap_append

theorem mem_calls_iff {events : List (Event Call Response)} {request : Call} :
    request ∈ calls events ↔ ∃ response, .called request response ∈ events := by
  unfold calls
  rw [List.mem_filterMap]
  constructor
  · rintro ⟨event, listed, is⟩
    cases event with
    | called other response =>
      cases is
      exact ⟨response, listed⟩
    | read _ | logged _ => cases is
  · rintro ⟨response, listed⟩
    exact ⟨_, listed, rfl⟩

/-- Events with which work gets as far as to some other work. -/
inductive Leads : Work Call Response α → List (Event Call Response) → Work Call Response α →
    Prop where
  | stays {work : Work Call Response α} : Leads work [] work
  | call {request : Call} {next : Response request → Work Call Response α}
      {response : Response request} {events : List (Event Call Response)}
      {rest : Work Call Response α} (leads : Leads (next response) events rest) :
      Leads (.call request next) (.called request response :: events) rest
  | readClock {next : Instant → Work Call Response α} {now : Instant}
      {events : List (Event Call Response)} {rest : Work Call Response α}
      (leads : Leads (next now) events rest) : Leads (.readClock next) (.read now :: events) rest
  | log {entry : Log.Entry} {next : Work Call Response α} {events : List (Event Call Response)}
      {rest : Work Call Response α} (leads : Leads next events rest) :
      Leads (.log entry next) (.logged entry :: events) rest

/-- Events with which work comes to its result. -/
abbrev Runs (work : Work Call Response α) (events : List (Event Call Response)) (result : α) :
    Prop :=
  work.Leads events (.done result)

variable {work middle rest : Work Call Response α} {events : List (Event Call Response)}
  {result : α}

theorem Leads.trans {early late : List (Event Call Response)} (first : work.Leads early middle)
    (second : middle.Leads late rest) : work.Leads (early ++ late) rest := by
  induction first with
  | stays => exact second
  | call _ ih => exact .call (ih second)
  | readClock _ ih => exact .readClock (ih second)
  | log _ ih => exact .log (ih second)

/-! ### The steps of a run -/

theorem runs_done_iff {other : α} :
    (done other : Work Call Response α).Runs events result ↔ events = [] ∧ result = other := by
  constructor
  · intro runs
    cases runs
    exact ⟨rfl, rfl⟩
  · rintro ⟨rfl, rfl⟩
    exact .stays

theorem runs_call_iff {request : Call} {next : Response request → Work Call Response α} :
    (call request next).Runs events result ↔
      ∃ response later, events = .called request response :: later ∧
        (next response).Runs later result := by
  constructor
  · intro runs
    cases runs with
    | call leads => exact ⟨_, _, rfl, leads⟩
  · rintro ⟨response, later, rfl, leads⟩
    exact .call leads

theorem runs_readClock_iff {next : Instant → Work Call Response α} :
    (readClock next).Runs events result ↔
      ∃ now later, events = .read now :: later ∧ (next now).Runs later result := by
  constructor
  · intro runs
    cases runs with
    | readClock leads => exact ⟨_, _, rfl, leads⟩
  · rintro ⟨now, later, rfl, leads⟩
    exact .readClock leads

theorem runs_log_iff {entry : Log.Entry} {next : Work Call Response α} :
    (log entry next).Runs events result ↔
      ∃ later, events = .logged entry :: later ∧ next.Runs later result := by
  constructor
  · intro runs
    cases runs with
    | log leads => exact ⟨_, rfl, leads⟩
  · rintro ⟨later, rfl, leads⟩
    exact .log leads

end Work

/-! ### Surroundings that answer -/

open Work (Event)

/-- How surroundings behave: what they answer may depend on everything that happened before. -/
structure Oracle (Call : Type) (Response : Call → Type) where
  respond : List (Event Call Response) → (request : Call) → Response request
  clock : List (Event Call Response) → Instant

namespace Oracle

variable (oracle : Oracle Call Response)

/-- The event is as the surroundings have it after what happened before. -/
def Has (past : List (Event Call Response)) : Event Call Response → Prop
  | .called request response => response = oracle.respond past request
  | .read now => now = oracle.clock past
  | .logged _ => True

/-- Events that are as the surroundings have them, one after the other. -/
def Gives (past : List (Event Call Response)) : List (Event Call Response) → Prop
  | [] => True
  | event :: later => oracle.Has past event ∧ Gives (past ++ [event]) later

end Oracle

namespace Work

variable {σ α : Type}

/-- **Work comes to a result**, however its surroundings behave. -/
theorem exists_runs (oracle : Oracle Call Response) (work : Work Call Response α)
    (past : List (Event Call Response)) :
    ∃ events result, work.Runs events result ∧ oracle.Gives past events := by
  induction work generalizing past with
  | done result => exact ⟨[], result, .stays, trivial⟩
  | call request next ih =>
    obtain ⟨events, result, runs, gives⟩ := ih (oracle.respond past request) _
    exact ⟨_, result, .call runs, rfl, gives⟩
  | readClock next ih =>
    obtain ⟨events, result, runs, gives⟩ := ih (oracle.clock past) _
    exact ⟨_, result, .readClock runs, rfl, gives⟩
  | log entry next ih =>
    obtain ⟨events, result, runs, gives⟩ := ih _
    exact ⟨_, result, .log runs, trivial, gives⟩

/-! ### Work that is driven -/

/-- The events of work that is driven up to its end, or to the first call that takes time. -/
def events (world : World σ Call Response) :
    Work Call Response α → σ → List (Event Call Response)
  | .done _, _ => []
  | .call request next, state =>
    let answered := world.call request state
    .called request answered.1.2 ::
      if answered.1.1 = 0 then (next answered.1.2).events world answered.2 else []
  | .readClock next, state =>
    .read (world.now state) :: (next (world.now state)).events world state
  | .log entry next, state => .logged entry :: next.events world (world.log entry state).2

end Work

/-- What there is left to do. -/
def Progress.rest {α : Type} : Progress Call Response α → Work Call Response α
  | .finished result => .done result
  | .waiting _ rest => rest

namespace Work

variable {σ α : Type}

/-- **Driven work gets as far as its events lead.** -/
theorem leads_drive (world : World σ Call Response) (work : Work Call Response α) (state : σ) :
    work.Leads (work.events world state) (work.drive world state).1.rest := by
  induction work generalizing state with
  | done result => exact .stays
  | call request next ih =>
    unfold events
    by_cases atOnce : (world.call request state).1.1 = 0
    · rw [drive_call_of_eq atOnce]
      dsimp only
      rw [if_pos atOnce]
      exact .call (ih _ _)
    · rw [drive_call_of_ne atOnce]
      dsimp only
      rw [if_neg atOnce]
      exact .call .stays
  | readClock next ih => exact .readClock (ih _ state)
  | log entry next ih => exact .log (ih _)

end Work

end Leasehold
