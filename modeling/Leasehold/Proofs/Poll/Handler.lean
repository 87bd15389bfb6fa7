/-
**What a handler comes to.**

A handler calls services and reads the clock, so it takes its course from its surroundings. What
counts is how it may end, as long as the surroundings stay calm:

* `Work.EndsIn`: work that ends with a wanted result, whatever calm surroundings answer;
* `Work.Later`: what may be left of some work; work does not go on for ever;
* `EndsIn.drive`: how far such work comes at a site;
* `Member.step_working`: the step of an attempt whose handler works.
-/

import Leasehold.Proofs.Poll.Steady

set_option linter.unusedSectionVars false

namespace Leasehold

variable {ι ε X S P Call : Type} {Response : Call → Type}

/-- Surroundings that show some notes. -/
abbrev Calm (shows : List X → ε → Prop) (surroundings : ε) : Prop :=
  ∃ notes, shows notes surroundings

namespace Work

variable {α : Type}

/-! ### Ends of work -/

/-- Work that ends with a wanted result and leaves its surroundings calm. -/
inductive EndsIn (world : World ε Call Response) (calm : ε → Prop) (wanted : α → Prop) :
    Work Call Response α → Prop where
  | done {result : α} (right : wanted result) : EndsIn world calm wanted (.done result)
  | call {request : Call} {next : Response request → Work Call Response α}
      (stays : ∀ {surroundings}, calm surroundings → calm (world.call request surroundings).2)
      (leads : ∀ {surroundings}, calm surroundings →
        EndsIn world calm wanted (next (world.call request surroundings).1.2)) :
      EndsIn world calm wanted (.call request next)
  | readClock {next : Instant → Work Call Response α}
      (leads : ∀ {surroundings}, calm surroundings →
        EndsIn world calm wanted (next (world.now surroundings))) :
      EndsIn world calm wanted (.readClock next)
  | log {entry : Log.Entry} {next : Work Call Response α}
      (stays : ∀ {surroundings}, calm surroundings → calm (world.log entry surroundings).2)
      (leads : EndsIn world calm wanted next) : EndsIn world calm wanted (.log entry next)

/-- Work that leaves notes and has one result ends with this result. -/
theorem Gives.endsIn {world : World ε Call Response} {now : Instant} {shows : List X → ε → Prop}
    {work : Work Call Response α} {left : List X} {result : α}
    (gives : work.Gives world now shows left result)
    (clock : ∀ {notes surroundings}, shows notes surroundings → world.now surroundings = now)
    (logs : ∀ {notes surroundings} (entry : Log.Entry), shows notes surroundings →
      shows notes (world.log entry surroundings).2) :
    work.EndsIn world (Calm shows) (· = result) := by
  induction gives with
  | done => exact .done rfl
  | call leaves _ ih =>
    exact .call (fun ⟨notes, shown⟩ => ⟨_, leaves shown⟩) fun ⟨notes, shown⟩ => ih shown
  | readClock _ ih =>
    refine .readClock fun ⟨notes, shown⟩ => ?_
    rw [clock shown]
    exact ih
  | log _ ih => exact .log (fun ⟨notes, shown⟩ => ⟨notes, logs _ shown⟩) ih

/-! ### What is left of work -/

/-- The first work is what one step of the second one may leave. -/
inductive Follows : Work Call Response α → Work Call Response α → Prop where
  | call {request : Call} {next : Response request → Work Call Response α}
      (response : Response request) : Follows (next response) (.call request next)
  | readClock {next : Instant → Work Call Response α} (now : Instant) :
      Follows (next now) (.readClock next)
  | log {entry : Log.Entry} {next : Work Call Response α} : Follows next (.log entry next)

/-- The first work is what some steps of the second one may leave. -/
abbrev Later : Work Call Response α → Work Call Response α → Prop := Relation.TransGen Follows

/-- Work does not go on for ever. -/
theorem wellFounded_later : WellFounded (Later : Work Call Response α → _ → Prop) := by
  refine WellFounded.transGen ⟨fun work => ?_⟩
  induction work with
  | done result => exact ⟨_, fun _ follows => by cases follows⟩
  | call request next ih => exact ⟨_, fun _ follows => by cases follows; exact ih _⟩
  | readClock next ih => exact ⟨_, fun _ follows => by cases follows; exact ih _⟩
  | log entry next ih => exact ⟨_, fun _ follows => by cases follows; exact ih⟩

variable {world : World ε Call Response} {calm : ε → Prop} {wanted : α → Prop}
  {work : Work Call Response α}

/-- Where some work stops at a site: at its end, or at a call that takes time. -/
inductive Stops (world : World ε Call Response) (calm : ε → Prop) (wanted : α → Prop)
    (work : Work Call Response α) : Progress Call Response α → Prop where
  | finished {result : α} (right : wanted result) : Stops world calm wanted work (.finished result)
  | waiting (millis : Nat) {rest : Work Call Response α}
      (ends : rest.EndsIn world calm wanted) (later : rest.Later work) :
      Stops world calm wanted work (.waiting millis rest)

/-- What stops after a step stops before it. -/
theorem Stops.of_follows {next : Work Call Response α} {progress : Progress Call Response α}
    (stops : next.Stops world calm wanted progress) (follows : next.Follows work) :
    work.Stops world calm wanted progress := by
  cases stops with
  | finished right => exact .finished right
  | waiting millis ends later => exact .waiting millis ends (later.tail follows)

variable [DecidableEq S] [ProcessState S]

/-- **How far work comes in one go.** -/
theorem EndsIn.drive (ends : work.EndsIn world calm wanted) {site : Site ι ε S P}
    (shown : calm site.surroundings) :
    work.Stops world calm wanted (work.drive world.onSite site).1 ∧
      calm (work.drive world.onSite site).2.surroundings := by
  induction ends generalizing site with
  | done right => exact ⟨.finished right, shown⟩
  | @call request next stays leads ih =>
    have called : calm (world.onSite.call request site).2.surroundings := stays shown
    by_cases atOnce : (world.onSite.call request site).1.1 = 0
    · rw [drive_call_of_eq atOnce]
      obtain ⟨stops, after⟩ := ih shown called
      exact ⟨stops.of_follows (.call _), after⟩
    · rw [drive_call_of_ne atOnce]
      exact ⟨.waiting _ (leads shown) (.single (.call _)), called⟩
  | readClock leads ih =>
    obtain ⟨stops, after⟩ := ih shown shown
    exact ⟨stops.of_follows (.readClock _), after⟩
  | @log entry next stays _ ih =>
    have logged : calm (world.onSite.log entry site).2.surroundings := stays shown
    obtain ⟨stops, after⟩ := ih logged
    exact ⟨stops.of_follows .log, after⟩

end Work

variable [DecidableEq S] [ProcessState S]

/-- **A handler at work comes to a call that takes time, or is judged.** -/
theorem Member.step_working (member : Member ε S P Call Response) (name : ι) {calm : ε → Prop}
    {wanted : Reply S P → Prop} {work : Work Call Response (Reply S P)}
    (ends : work.EndsIn member.world calm wanted)
    (logs : ∀ {surroundings} (entry : Log.Entry), calm surroundings →
      calm (member.world.log entry surroundings).2)
    {site : Site ι ε S P} (shown : calm site.surroundings) (leased : Entity S P) :
    ∃ next after, (member.engine name).step member.world.onSite (.working leased work) site =
        (next, after) ∧
      site.Extends after [] [] ∧ calm after.surroundings ∧
      ((∃ millis rest, next = .waiting millis leased rest ∧
          rest.EndsIn member.world calm wanted ∧ rest.Later work) ∨
        ∃ reply, wanted reply ∧ next = (member.engine name).judge leased
          (member.world.now after.surroundings) reply.verdict) := by
  obtain ⟨stops, calmAfter⟩ := ends.drive shown
  have extended := Site.Extends.drive member.world work site
  rcases came : work.drive member.world.onSite site with ⟨progress, after⟩
  rw [came] at stops calmAfter extended
  cases stops with
  | waiting millis ends later =>
    exact ⟨_, after, Engine.work_of_waiting _ _ came, extended, calmAfter,
      .inl ⟨millis, _, rfl, ends, later⟩⟩
  | @finished reply right =>
    obtain ⟨final, reached, worked⟩ := Engine.work_of_finished (member.engine name) _ leased came
    refine ⟨_, final, worked, ?_, ?_, .inr ⟨reply, right, rfl⟩⟩
    · rcases reached with rfl | ⟨entry, rfl⟩
      · exact extended
      · exact extended.trans (.log member.world entry after)
    · rcases reached with rfl | ⟨entry, rfl⟩
      · exact calmAfter
      · exact logs entry calmAfter

end Leasehold
