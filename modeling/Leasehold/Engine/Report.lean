/-
**Reports of poll cycles.**

* `Ending`: how the work on one selected entity ended;
* `CycleReport`: the endings of one cycle, counted by kind.
-/

import Leasehold.Engine.Transition

namespace Leasehold

/-- How the work on one selected entity ended. -/
inductive Ending where
  /-- Another holder was faster. -/
  | leaseConflict
  /-- The lease failed for another reason. -/
  | leaseFailed
  /-- It was leased, but no outcome was written. -/
  | abandoned
  /-- An outcome was written. -/
  | persisted (outcome : Outcome)
deriving DecidableEq, Repr

/-- The counts of one poll cycle. -/
structure CycleReport where
  selected : Nat := 0
  leased : Nat := 0
  leaseConflicts : Nat := 0
  succeeded : Nat := 0
  retried : Nat := 0
  failed : Nat := 0
  cancelled : Nat := 0
  abandoned : Nat := 0
deriving DecidableEq, Repr

namespace CycleReport

/-- The report with one more written outcome. -/
def recordOutcome (report : CycleReport) : Outcome → CycleReport
  | .success => { report with succeeded := report.succeeded + 1 }
  | .retry => { report with retried := report.retried + 1 }
  | .fatal | .exhausted => { report with failed := report.failed + 1 }
  | .cancelled => { report with cancelled := report.cancelled + 1 }

/-- The report with one more ending. -/
def record (report : CycleReport) : Ending → CycleReport
  | .leaseConflict => { report with leaseConflicts := report.leaseConflicts + 1 }
  | .leaseFailed => report
  | .abandoned => { report with leased := report.leased + 1, abandoned := report.abandoned + 1 }
  | .persisted outcome => { report with leased := report.leased + 1 }.recordOutcome outcome

end CycleReport

end Leasehold
