/-
**One attempt after the other.**

In steady surroundings a batch with one seat makes its attempts in order, and each as if it were
alone. It may take its time: handlers wait, and a turn may end before an attempt does.

* `Member.IsReady`: an entity that a member can lease and work on;
* `Member.settleAll`: a store after attempts on some entities;
* `Member.Proceeds`: a batch comes to its end, whenever its next entity takes the seat;
* `ends_of_working`, `ends_of_selected`: the attempt in the seat comes to its end;
* `proceeds`: so do all attempts, and the store, the reports and the notes are what they should be.
-/

import Leasehold.Proofs.Poll.Seat
import Leasehold.Proofs.Poll.Settlement

set_option linter.unusedSectionVars false

namespace Leasehold

variable {ι ε X S P Call : Type} {Response : Call → Type} [DecidableEq S] [ProcessState S]

namespace Member

variable (member : Member ε S P Call Response) (now : Instant)

/-- An entity that a member can lease, and that it has a handler for. -/
structure IsReady (memory : Memory S P) (entity : Entity S P) : Prop where
  found : memory.find? entity.id = some entity
  free : entity.isFreeAt now = true
  handled : ∃ handler, member.registry.handler? entity.state = some handler

variable (reply : Entity S P → Reply S P) (note : Entity S P → List X)

/-- A store after attempts on some entities. -/
def settleAll (memory : Memory S P) (entities : List (Entity S P)) : Memory S P :=
  entities.foldl (fun memory entity => memory.put (member.settled now reply entity)) memory

/-- A report with the outcomes of attempts on some entities. -/
def recordAll (report : CycleReport) (entities : List (Entity S P)) : CycleReport :=
  entities.foldl
    (fun report entity => report.record (.persisted (member.settlement now reply entity).outcome))
    report

/-- The notes of the handler that works on an entity; nobody works on one with a request to
cancel. -/
def noted (entity : Entity S P) : List X :=
  if entity.cancelRequested then [] else note (member.claimed now entity)

variable {member now reply}

/-- An attempt leaves other entities ready. -/
theorem IsReady.put {memory : Memory S P} {entity other : Entity S P}
    (ready : member.IsReady now memory other) (apart : other.id ≠ entity.id) :
    member.IsReady now (memory.put (member.settled now reply entity)) other where
  found := by
    rw [Memory.find?_put, ready.found]
    exact congrArg some (if_neg apart)
  free := ready.free
  handled := ready.handled

variable (member) (shows : List X → ε → Prop) (name : ι) (lane : Nat)

/-- A batch comes to its end, whenever its next entity takes the seat: with a free permit, with
enough servings, and in surroundings that show what happened so far. -/
def Proceeds (gone : Nat) (outside : List (Entity S P)) (report : CycleReport)
    (memory : Memory S P) (transitions : List Transition) (notes : List X)
    (final : (Batch S P Call Response × Permits) × Site ι ε S P → Prop) : Prop :=
  ∀ (time fuel : Nat) (permits : Permits) (site : Site ι ε S P), permits.IsFree →
    5 * outside.length ≤ fuel → site.Reads shows memory transitions notes →
      (member.engine name).Ends member.world.onSite lane time fuel
        (((Batch.between gone outside report).fill, permits), site) final

end Member

namespace Member.IsSteady

variable {member : Member ε S P Call Response} {now : Instant} {shows : List X → ε → Prop}
  {note : Entity S P → List X} {reply : Entity S P → Reply S P}
  (steady : member.IsSteady now shows note reply) (name : ι) (lane : Nat)
  {memory : Memory S P} {transitions : List Transition} {entity : Entity S P}
  {gone : Nat} {outside : List (Entity S P)} {report : CycleReport}
  {final : (Batch S P Call Response × Permits) × Site ι ε S P → Prop}

include steady

/-- **A handler at work comes to its end**, over all its calls and waits. -/
theorem ends_of_working {work : Work Call Response (Reply S P)} {left : List X}
    {answer : Reply S P} (gives : work.Gives member.world now shows left answer)
    (leased : memory.find? entity.id = some (member.claimed now entity))
    (notAsked : entity.cancelRequested = false) {notes : List X}
    (proceeds : let settlement := member.registry.settlement member.config.retry entity answer
      member.Proceeds shows name lane (gone + 1) outside
        (report.record (.persisted settlement.outcome))
        (memory.put (entity.settle settlement now))
        (transitions ++ [member.registry.report entity (entity.settle settlement now)
          settlement.outcome]) (notes ++ left) final)
    {seat : Seat S P Call Response} {time fuel : Nat} {permits : Permits} {site : Site ι ε S P}
    (quiet : permits.IsQuiet) (enough : 5 * outside.length + 2 ≤ fuel)
    (reads : site.Reads shows memory transitions notes) :
    (member.engine name).Ends member.world.onSite lane time fuel
      ((member.engine name).goOn member.world.onSite lane time gone
        (.working (member.claimed now entity) work) (.alone gone seat [] [] [] outside report)
        permits site) final := by
  -- The work may go on in a later turn and at a later time, with other servings left.
  induction gives generalizing notes seat time fuel permits site with
  | done =>
    obtain ⟨after, ended, afterReads⟩ := steady.advance_working name reads leased notAsked _
    rw [Engine.goOn_of_ended quiet ended]
    rw [List.append_nil] at proceeds
    exact proceeds time fuel _ after quiet.giveBack (by omega) afterReads
  | @readClock next _ _ _ ih =>
    have shown : (Work.readClock next).drive member.world.onSite site =
        (next now).drive member.world.onSite site := by
      rw [← steady.now_eq reads]
      rfl
    rw [Engine.goOn_congr (Engine.advance_of_drive _ _ shown)]
    exact ih proceeds quiet enough reads
  | @log entry next _ _ _ ih =>
    have logged : (Work.log entry next).drive member.world.onSite site =
        next.drive member.world.onSite (member.world.onSite.log entry site).2 := rfl
    rw [Engine.goOn_congr (Engine.advance_of_drive _ _ logged)]
    exact ih proceeds quiet enough (steady.log reads entry)
  | @call request next left rest _ leaves _ ih =>
    have called : (member.world.onSite.call request site).2.Reads shows memory transitions
        (notes ++ left) := ⟨reads.memory, reads.transitions, leaves reads.shown⟩
    rw [← List.append_assoc] at proceeds
    by_cases atOnce : (member.world.onSite.call request site).1.1 = 0
    · rw [Engine.goOn_congr (Engine.advance_of_drive _ _ (Work.drive_call_of_eq atOnce))]
      exact ih reads.shown proceeds quiet enough called
    · refine .of_waiting quiet (by omega) atOnce
        (Engine.advance_of_waiting _ _ (Work.drive_call_of_ne atOnce)) ?_
      intro seat fuel permits quiet enough
      exact ih reads.shown proceeds quiet enough (steady.tick called _)

/-- **The attempt on an entity comes to its end.** -/
theorem ends_of_selected (ready : member.IsReady now memory entity) {notes : List X}
    (proceeds : member.Proceeds shows name lane (gone + 1) outside
      (report.record (.persisted (member.settlement now reply entity).outcome))
      (memory.put (member.settled now reply entity))
      (transitions ++ [member.transition now reply entity])
      (notes ++ member.noted now note entity) final)
    {seat : Seat S P Call Response} {time fuel : Nat} {permits : Permits} {site : Site ι ε S P}
    (quiet : permits.IsQuiet) (enough : 5 * outside.length + 2 ≤ fuel)
    (reads : site.Reads shows memory transitions notes) :
    (member.engine name).Ends member.world.onSite lane time fuel
      ((member.engine name).goOn member.world.onSite lane time gone (.selected entity)
        (.alone gone seat [] [] [] outside report) permits site) final := by
  cases asked : entity.cancelRequested with
  | true =>
    obtain ⟨after, ended, afterReads⟩ :=
      steady.advance_asked name reads ready.found ready.free asked
    have silent : member.noted now note entity = [] := if_pos asked
    rw [silent, List.append_nil] at proceeds
    rw [Engine.goOn_of_ended quiet ended]
    exact proceeds time fuel _ after quiet.giveBack (by omega) afterReads
  | false =>
    obtain ⟨handler, handled⟩ := ready.handled
    obtain ⟨after, advanced, afterReads⟩ :=
      steady.advance_selected name reads ready.found ready.free asked handled
    have speaks : member.noted now note entity = note (member.claimed now entity) :=
      if_neg (Bool.eq_false_iff.mp asked)
    have known : member.registry.handler? (member.claimed now entity).state = some handler :=
      handled
    rw [speaks] at proceeds
    rw [Engine.goOn_congr advanced]
    refine steady.ends_of_working name lane (steady.handles known)
      (member.find?_put_claimed now ready.found) asked ?_ quiet enough afterReads
    intro settlement
    rw [member.put_settle now]
    exact proceeds

/-- **All attempts of a batch come to their ends**, one after the other. -/
theorem proceeds (selection : List (Entity S P)) (distinct : (selection.map (·.id)).Nodup)
    (ready : ∀ entity ∈ selection, member.IsReady now memory entity) {notes : List X}
    (holds : ∀ (gone : Nat) (permits : Permits) (site : Site ι ε S P), permits.IsFree →
      site.Reads shows (member.settleAll now reply memory selection)
        (transitions ++ selection.map (member.transition now reply))
        (notes ++ selection.flatMap (member.noted now note)) →
      final ((.between gone [] (member.recordAll now reply report selection), permits), site)) :
    member.Proceeds shows name lane gone selection report memory transitions notes final := by
  induction selection generalizing gone report memory transitions notes with
  | nil =>
    intro time fuel permits site free _ reads
    refine .of_over rfl rfl Batch.nextWake?_between (holds gone permits site free ?_)
    rw [List.map_nil, List.append_nil, List.flatMap_nil, List.append_nil]
    exact reads
  | cons entity rest ih =>
    obtain ⟨apart, distinct⟩ := List.nodup_cons.mp distinct
    intro time fuel permits site free enough reads
    refine .of_arrived free enough ?_
    intro seat fuel permits quiet enough
    refine steady.ends_of_selected name lane (ready entity List.mem_cons_self) ?_ quiet enough reads
    -- The others have other ids, so they are as ready as before.
    refine ih distinct (fun other listed => ?_) (fun gone permits site free reads => ?_)
    · exact (ready other (List.mem_cons_of_mem entity listed)).put fun same =>
        apart (List.mem_map.mpr ⟨other, listed, same⟩)
    · refine holds gone permits site free ?_
      rw [List.append_assoc, List.append_assoc] at reads
      exact reads

end Member.IsSteady

end Leasehold
