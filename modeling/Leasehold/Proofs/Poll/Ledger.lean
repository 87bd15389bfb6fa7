/-
**Polls among others.**

An engine polls a store of either kind on which others work too. Before each operation of the
engine they may do to the store whatever they like, and any operation of the engine may fail with
any error, whether it reached the store or not. What the engine does in the meantime is recorded.

* `Ledger`: a store with its surroundings, and the record of an engine;
* `Meddling`: what others do, and which operations fail;
* `Member.ledgerEngine`: the engine of a member, on a ledger;
* `Member.poll_balances`: the report of every poll balances with its record.
-/

import Leasehold.Proofs.Poll.Balance

set_option linter.unusedSectionVars false

namespace Leasehold

variable {ε S P Call : Type} {Response : Call → Type} [DecidableEq S] [ProcessState S] [Payload P]

/-! ### Ledgers -/

/-- A store, what surrounds it, and what an engine did there, the first first. -/
structure Ledger (ε S P : Type) where
  store : AnyStore S P
  surroundings : ε
  record : List (Occurrence S P)

/-- What others do to a store while an engine works on it, and which operations of the engine
fail. -/
structure Meddling (ε S P : Type) where
  /-- The store as the others leave it to an operation of the engine. -/
  leave : Operation S P → Ledger ε S P → AnyStore S P
  /-- Why an operation fails, if it does, and the store that it leaves behind. -/
  fault? : Operation S P → Ledger ε S P → Option (StoreError × AnyStore S P)

/-- How an operation is answered among others. -/
def Meddling.serve (meddling : Meddling ε S P) (operation : Operation S P) (ledger : Ledger ε S P) :
    operation.Answer × AnyStore S P :=
  match meddling.fault? operation ledger with
  | some (error, store) => (.error error, store)
  | none => AnyStore.run operation (meddling.leave operation ledger)

/-- The store of a ledger. It records what it answers. -/
def Ledger.perform (meddling : Meddling ε S P) (elapse : ε → ε) : Backend (Ledger ε S P) S P :=
  fun operation ledger =>
    let (answer, store) := meddling.serve operation ledger
    (answer, ⟨store, elapse ledger.surroundings, ledger.record ++ [.ran operation answer]⟩)

/-- What is around an engine does not reach the store. A transition that is reported is recorded. -/
def World.onLedger (world : World ε Call Response) : World (Ledger ε S P) Call Response where
  now ledger := world.now ledger.surroundings
  tick millis ledger :=
    ((), { ledger with surroundings := (world.tick millis ledger.surroundings).2 })
  log entry ledger :=
    ((), { ledger with surroundings := (world.log entry ledger.surroundings).2 })
  emit transition ledger := ((), { ledger with
    surroundings := (world.emit transition ledger.surroundings).2
    record := ledger.record ++ [.reported transition] })
  call request ledger := ((world.call request ledger.surroundings).1,
    { ledger with surroundings := (world.call request ledger.surroundings).2 })

/-- An operation that fails among others has a suitable answer too. -/
theorem Meddling.suits (meddling : Meddling ε S P) (operation : Operation S P)
    (ledger : Ledger ε S P) : operation.Suits (meddling.serve operation ledger).1 := by
  unfold serve
  split
  · exact operation.suits_error _
  · exact AnyStore.suits operation _

namespace Member

variable (member : Member ε S P Call Response) (meddling : Meddling ε S P)

/-- The engine of a member, on the store of a ledger. -/
def ledgerEngine : Engine (Ledger ε S P) S P Call Response where
  store := Ledger.perform meddling member.elapse
  registry := member.registry
  config := member.config
  holder := member.holder
  sound := member.sound

/-- The ledger is the record of the engine. -/
theorem isNoted_ledgerEngine :
    (member.ledgerEngine meddling).IsNoted member.world.onLedger Ledger.record where
  store _ _ := rfl
  suits operation ledger := meddling.suits operation ledger
  emit _ _ := rfl
  log _ _ := rfl
  call _ _ := rfl
  tick _ _ := rfl

/-- **The report of every poll balances**, whatever others do to the store, and whichever operations
fail. A poll that fails did nothing but its selection. Otherwise no more is selected than a batch
may hold; who was leased is counted with exactly one ending; and every outcome that was written was
reported once, as its lease and its update gave it back. Once the poll is through with its
selection, who was not leased is a conflict, or a lease that failed with another error. -/
theorem poll_balances (limit : Nat) (permits : Permits) (ledger : Ledger ε S P) :
    let engine := member.ledgerEngine meddling
    let polled := engine.poll member.world.onLedger limit permits ledger
    ∃ record, polled.2.record = ledger.record ++ record ∧
      match polled.1.1 with
      | .error error => ∃ now, record = [.ran (.query (engine.criteria now)) (.error error)]
      | .ok report => engine.Balances report record ∧
          (engine.IsThrough member.world.onLedger limit permits ledger →
            report.Closes record) :=
  Engine.poll_balances_of_noted (member.isNoted_ledgerEngine meddling) limit permits ledger

/-! ### Three lists and a rival -/

section Lists

open Credential StatusList Fleet

/-- Three status lists that wait to be signed. -/
def threeUnsigned : List (Entity StatusList.State Publication) :=
  [unsigned, { unsigned with id := "other" }, { unsigned with id := "third" }]

/-- The store of these lists, one second after the epoch. -/
def unsignedLedger : Ledger Instant StatusList.State Publication :=
  ⟨.memory ⟨threeUnsigned, by decide⟩, atMillis 1000, []⟩

/-- A rival leases the second list just before the engine does, and the lease of the third list does
not reach the store. -/
def rivalry : Meddling Instant StatusList.State Publication where
  leave operation ledger :=
    match operation with
    | .lease "other" _ duration now =>
      (AnyStore.run (.lease "other" "rival" duration now) ledger.store).2
    | _ => ledger.store
  fault? operation ledger :=
    match operation with
    | .lease "third" _ _ _ => some (.database "unreachable", ledger.store)
    | _ => none

/-- A publisher with busy partners, among others. -/
abbrev rivalled : Engine (Ledger Instant StatusList.State Publication) StatusList.State Publication
    Credential.Call Credential.Response := (busyPublishers "first").ledgerEngine rivalry

/-- The ledger after the selection. -/
def selectedLedger : Ledger Instant StatusList.State Publication :=
  { unsignedLedger with
    record := [.ran (.query (rivalled.criteria (atMillis 1000))) (.ok threeUnsigned)] }

theorem query_threeUnsigned :
    Memory.query (rivalled.criteria (atMillis 1000)) ⟨threeUnsigned, by decide⟩ =
      threeUnsigned := by
  have due : threeUnsigned.filter (rivalled.criteria (atMillis 1000)).matchesEntity =
      threeUnsigned := by
    refine List.filter_eq_self.mpr fun list listed => ?_
    simp only [threeUnsigned, List.mem_cons, List.not_mem_nil, or_false] at listed
    rcases listed with rfl | rfl | rfl <;> exact matches_criteria ⟨_, rfl⟩ rfl (by decide)
  have sorted : threeUnsigned.Pairwise fun first second =>
      notAfter (·.stateTimestamp.nanos) (·.id) first second = true := by decide
  unfold Memory.query Criteria.arrange pageOf
  rw [due, List.mergeSort_of_pairwise sorted]
  rfl

theorem select_threeUnsigned :
    rivalled.select (busyPublishers "first").world.onLedger unsignedLedger =
      (.ok threeUnsigned, selectedLedger) := by
  have answered : rivalry.serve (.query (rivalled.criteria (atMillis 1000))) unsignedLedger =
      (.ok threeUnsigned, unsignedLedger.store) := by
    show (Except.ok (Memory.query (rivalled.criteria (atMillis 1000)) ⟨threeUnsigned, _⟩), _) = _
    rw [query_threeUnsigned]
    rfl
  show Ledger.perform rivalry _ (.query (rivalled.criteria (atMillis 1000))) unsignedLedger = _
  unfold Ledger.perform
  rw [answered]
  rfl

/-- One list is leased and tried again, one is lost to the rival, and one cannot be leased. -/
theorem poll_balances_beside_rival :
    let polled := rivalled.poll (busyPublishers "first").world.onLedger 0 .unneeded unsignedLedger
    let report : CycleReport := { selected := 3, leased := 1, leaseConflicts := 1, retried := 1 }
    polled.1.1 = .ok report ∧ rivalled.Balances report polled.2.record ∧
      report.Closes polled.2.record := by
  intro polled report
  let world : World (Ledger Instant StatusList.State Publication) Credential.Call
    Credential.Response := (busyPublishers "first").world.onLedger
  let seated : Batch StatusList.State Publication Credential.Call Credential.Response :=
    rivalled.seatSelection threeUnsigned
  have stops : (rivalled.settle world 0 0 seated .unneeded selectedLedger).1.1.nextWake? =
      none := by decide +kernel
  have isOver : (rivalled.settle world 0 0 seated .unneeded selectedLedger).1.1.isOver = true := by
    decide +kernel
  have counts : (rivalled.settle world 0 0 seated .unneeded selectedLedger).1.1.report =
      report := by decide +kernel
  rcases settled : rivalled.settle world 0 0 seated .unneeded selectedLedger with
    ⟨⟨later, left⟩, after⟩
  rw [settled] at stops isOver counts
  have ran : rivalled.runBatch world 0 0 0 seated .unneeded selectedLedger =
      ((later, left), after) := Engine.runBatch_of_settle settled stops
  have answers : polled = ((.ok report, left), after) := by
    rw [← counts]
    exact Engine.poll_of_runBatch (List.cons_ne_nil _ _) select_threeUnsigned ran
  have through : rivalled.IsThrough world 0 .unneeded unsignedLedger := by
    intro selection next selects
    rw [select_threeUnsigned] at selects
    cases selects
    rw [← isOver]
    exact congrArg (·.1.1.isOver) ran
  obtain ⟨record, recorded, balances⟩ :=
    (busyPublishers "first").poll_balances rivalry 0 .unneeded unsignedLedger
  rw [show rivalled.poll _ _ _ _ = _ from answers] at recorded balances
  rw [answers]
  have all : after.record = record := recorded
  rw [all]
  exact ⟨rfl, balances.1, balances.2 through⟩

end Lists

end Member

end Leasehold
