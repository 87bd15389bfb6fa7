/-
**Surroundings that stand still.**

Nothing disturbs a poll if its clock stands still and every handler, asked about an entity, has one
reply. An observer of the surroundings then sees nothing but what the handlers leave there:

* `Work.Gives`: work that ends with a result, whatever it sees of such surroundings;
* `Member.IsSteady`: a member with such handlers in such surroundings;
* `Site.Reads`: what is in the store of a site, what was reported, and what an observer sees;
* `IsSteady.perform`, `IsSteady.log`, `IsSteady.tick`: what changes of this.

What an observer sees is a family of predicates `shows` on surroundings, one for every list of notes.
It may tell as little of the surroundings as one likes.
-/

import Leasehold.Proofs.Fleet.Move

set_option linter.unusedSectionVars false

namespace Leasehold

variable {ι ε X S P Call : Type} {Response : Call → Type}

/-! ### Work -/

/-- Work that ends with a result at an instant, and leaves some notes in the surroundings. -/
inductive Work.Gives (world : World ε Call Response) (now : Instant) (shows : List X → ε → Prop)
    {α : Type} : Work Call Response α → List X → α → Prop where
  | done {result : α} : Gives world now shows (.done result) [] result
  /-- A call may leave notes, and whatever is answered leads to the result. -/
  | call {request : Call} {next : Response request → Work Call Response α} {left rest : List X}
      {result : α}
      (leaves : ∀ {notes surroundings}, shows notes surroundings →
        shows (notes ++ left) (world.call request surroundings).2)
      (leads : ∀ {notes surroundings}, shows notes surroundings →
        Gives world now shows (next (world.call request surroundings).1.2) rest result) :
      Gives world now shows (.call request next) (left ++ rest) result
  | readClock {next : Instant → Work Call Response α} {notes : List X} {result : α}
      (leads : Gives world now shows (next now) notes result) :
      Gives world now shows (.readClock next) notes result
  | log {entry : Log.Entry} {next : Work Call Response α} {notes : List X} {result : α}
      (leads : Gives world now shows next notes result) :
      Gives world now shows (.log entry next) notes result

variable [DecidableEq S] [ProcessState S]

/-! ### Members and sites -/

/-- A member whose clock stands still at an instant. Its handlers reply to an entity with `reply`
and leave the notes `note`, and nothing else leaves any. -/
structure Member.IsSteady (member : Member ε S P Call Response) (now : Instant)
    (shows : List X → ε → Prop) (note : Entity S P → List X)
    (reply : Entity S P → Reply S P) : Prop where
  clock : ∀ {notes surroundings}, shows notes surroundings → member.world.now surroundings = now
  ticks : ∀ {notes surroundings} (millis : Nat), shows notes surroundings →
    shows notes (member.world.tick millis surroundings).2
  logs : ∀ {notes surroundings} (entry : Log.Entry), shows notes surroundings →
    shows notes (member.world.log entry surroundings).2
  emits : ∀ {notes surroundings} (transition : Transition), shows notes surroundings →
    shows notes (member.world.emit transition surroundings).2
  elapses : ∀ {notes surroundings}, shows notes surroundings →
    shows notes (member.elapse surroundings)
  handles : ∀ {entity : Entity S P} {handler : Handler S P Call Response},
    member.registry.handler? entity.state = some handler →
      (handler entity).Gives member.world now shows (note entity) (reply entity)

/-- A site with a store, with the transitions that were reported, and with the notes that its
surroundings show. -/
structure Site.Reads (site : Site ι ε S P) (shows : List X → ε → Prop) (memory : Memory S P)
    (transitions : List Transition) (notes : List X) : Prop where
  memory : site.memory = memory
  transitions : site.transitions = transitions
  shown : shows notes site.surroundings

namespace Member.IsSteady

variable {member : Member ε S P Call Response} {now : Instant} {shows : List X → ε → Prop}
  {note : Entity S P → List X} {reply : Entity S P → Reply S P} {site : Site ι ε S P}
  {memory : Memory S P} {transitions : List Transition} {notes : List X}

theorem now_eq (steady : member.IsSteady now shows note reply)
    (reads : site.Reads shows memory transitions notes) : member.world.onSite.now site = now :=
  steady.clock reads.shown

theorem tick (steady : member.IsSteady now shows note reply)
    (reads : site.Reads shows memory transitions notes) (millis : Nat) :
    (member.world.onSite.tick millis site).2.Reads shows memory transitions notes :=
  ⟨reads.memory, reads.transitions, steady.ticks millis reads.shown⟩

theorem log (steady : member.IsSteady now shows note reply)
    (reads : site.Reads shows memory transitions notes) (entry : Log.Entry) :
    (member.world.onSite.log entry site).2.Reads shows memory transitions notes :=
  ⟨reads.memory, reads.transitions, steady.logs entry reads.shown⟩

/-- The store carries an operation out. -/
theorem perform (steady : member.IsSteady now shows note reply)
    (reads : site.Reads shows memory transitions notes) (name : ι) {operation : Operation S P}
    {answer : operation.Answer} {next : Memory S P}
    (ran : Memory.run operation memory = (answer, next)) :
    ∃ after, (member.engine name).store operation site = (answer, after) ∧
      after.Reads shows next transitions notes := by
  obtain ⟨rfl, rfl, shown⟩ := reads
  obtain ⟨after, answered, stored, unreported, elapsed⟩ := Member.store_of_run ran
  refine ⟨after, answered, stored, unreported, ?_⟩
  rw [elapsed]
  exact steady.elapses shown

end Member.IsSteady

end Leasehold
