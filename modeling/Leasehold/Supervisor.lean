/-
**The supervisor.**

A supervisor runs engines under different names side by side. On a shutdown it gives all of them the
signal to stop and waits for one after the other, for all of them up to one common deadline. An
engine that is not done by then is aborted. If the clock of the machine cannot show the deadline,
the shutdown crashes once it has given the signal.

* `Supervisor.assemble`: a supervisor for engines with different names;
* `TaskEnd.await`: the wait for one engine, from some time on;
* `Supervisor.deadline?`: the deadline of a shutdown, if there is one;
* `Supervisor.awaitAll`: the wait for some engines, one after the other;
* `Supervisor.shutdown`: what becomes of the engines, and when that is known;
* `ShutdownReport.ofFates`: the engines by their fates.

Times are whole milliseconds from the start of the run, and a deadline between two of them counts as
the later one. Nothing but waiting takes time: a task that ends is seen at once, and so is a deadline
that passes.
-/

import Leasehold.Log
import Leasehold.Time.Duration

namespace Leasehold

/-- Why engines cannot be supervised. -/
inductive SupervisorError where
  | noEngines
  | duplicateEngine (name : String)
deriving DecidableEq, Repr

namespace SupervisorError

/-- The text of an error. -/
def message : SupervisorError → String
  | .noEngines => "at least one engine is required"
  | .duplicateEngine name => s!"engine '{name}' registered twice"

end SupervisorError

/-- How the task of an engine ends. -/
inductive TaskEnd where
  | returns (time : Nat)
  | crashes (time : Nat) (message : String)
  | never
deriving DecidableEq, Repr

/-- What becomes of an engine in a shutdown. -/
inductive Fate where
  | stopped
  | aborted
  | panicked (message : String)
deriving DecidableEq, Repr

namespace TaskEnd

/-- When the task ends. -/
def time? : TaskEnd → Option Nat
  | .returns time => some time
  | .crashes time _ => some time
  | .never => none

/-- Whether the task ended before a time. -/
def isOverAt (task : TaskEnd) (now : Nat) : Bool := task.time?.any (· < now)

/-- What becomes of the engine if its end is awaited. -/
def result : TaskEnd → Fate
  | .returns _ => .stopped
  | .crashes _ message => .panicked message
  | .never => .aborted

/--
Waits for the task from now on, up to a deadline: what becomes of its engine, and when that is
known. The task is looked at before the clock, so one that is over by now is not aborted, even if
the deadline has passed. The end of the task and the deadline are both seen without delay, and a
task that ends at the deadline itself counts as too late.
-/
def await (deadline now : Nat) (task : TaskEnd) : Fate × Nat :=
  if task.isOverAt now then (task.result, now)
  else
    match task.time? with
    | some time => if time < deadline then (task.result, time) else (.aborted, max now deadline)
    | none => (.aborted, max now deadline)

end TaskEnd

/-- The names of the engines by their fates, each in the order of their registration. -/
structure ShutdownReport where
  stopped : List String := []
  aborted : List String := []
  panicked : List String := []
deriving DecidableEq, Repr

namespace ShutdownReport

/-- The report of some fates. -/
def ofFates : List (String × Fate) → ShutdownReport
  | [] => {}
  | (name, fate) :: rest =>
    let report := ofFates rest
    match fate with
    | .stopped => { report with stopped := name :: report.stopped }
    | .aborted => { report with aborted := name :: report.aborted }
    | .panicked _ => { report with panicked := name :: report.panicked }

/-- Whether every engine stopped by itself. -/
def isClean (report : ShutdownReport) : Bool :=
  report.aborted.isEmpty && report.panicked.isEmpty

end ShutdownReport

/-- Engines with different names. -/
structure Supervisor where
  names : List String
  /-- How long a shutdown waits. -/
  timeout : Duration
  distinct : names.Nodup
  /-- What the clock of the machine showed at the start of the run, in nanoseconds. -/
  uptime : Nat := 0
deriving Repr

namespace Supervisor

/-- How long a shutdown waits unless it is said otherwise. -/
def defaultTimeout : Duration := Duration.ofSeconds 30

/-- The first name that was given before. -/
def repeated? : List String → List String → Option String
  | _, [] => none
  | earlier, name :: rest =>
    if name ∈ earlier then some name else repeated? (name :: earlier) rest

/-- Without a repeated name all names differ, also from the earlier ones. -/
theorem nodup_of_repeated? {earlier names : List String} (none : repeated? earlier names = none) :
    names.Nodup ∧ ∀ name ∈ names, name ∉ earlier := by
  induction names generalizing earlier with
  | nil => simp
  | cons name rest ih =>
    simp only [repeated?] at none
    split at none
    · cases none
    · next fresh =>
      obtain ⟨nodup, outside⟩ := ih none
      refine ⟨List.nodup_cons.mpr ⟨fun again => ?_, nodup⟩, ?_⟩
      · exact outside name again List.mem_cons_self
      · intro other member
        rcases List.mem_cons.mp member with equal | inRest
        · exact equal ▸ fresh
        · exact fun before => outside other inRest (List.mem_cons_of_mem _ before)

/-- A supervisor of some engines. -/
def assemble (names : List String) (timeout : Duration) : Except SupervisorError Supervisor :=
  if names.isEmpty then .error .noEngines
  else
    match check : repeated? [] names with
    | some name => .error (.duplicateEngine name)
    | none => .ok { names, timeout, distinct := (nodup_of_repeated? check).1 }

/-- The clock of the machine has 63 bits for the seconds. -/
def clockSeconds : Nat := 0x8000000000000000

/-- The last moment that a shutdown from now on waits for, if the clock can show it. -/
def deadline? (supervisor : Supervisor) (now : Nat) : Option Nat :=
  let shown := supervisor.uptime + nanosPerMilli * now + supervisor.timeout.nanos
  if shown / nanosPerSecond < clockSeconds then some (now + supervisor.timeout.ceilMillis) else none

/--
Waits for some engines from now on, one after the other, up to a deadline: what becomes of them, and
when that is known of the last.
-/
def awaitAll (deadline : Nat) : Nat → List (String × TaskEnd) → List (String × Fate) × Nat
  | now, [] => ([], now)
  | now, (name, task) :: rest =>
    let (fate, later) := task.await deadline now
    let (fates, finished) := awaitAll deadline later rest
    ((name, fate) :: fates, finished)

/-- Why a shutdown crashes. -/
def overflowMessage : String := "overflow when adding duration to instant"

/--
A shutdown from now on: what becomes of the engines, and when that is known of the last. Without a
deadline it crashes, with a message.
-/
def shutdown (supervisor : Supervisor) (now : Nat) (tasks : List TaskEnd) :
    Except String (List (String × Fate) × Nat) :=
  match supervisor.deadline? now with
  | some deadline => .ok (awaitAll deadline now (supervisor.names.zip tasks))
  | none => .error overflowMessage

/-! ### Log entries -/

/-- Says which engines run. -/
def startEntry (supervisor : Supervisor) : Log.Entry :=
  ⟨.info, "Engine supervisor started",
    [("engines", .text (Log.quotedList supervisor.names))]⟩

/-- Says that a shutdown begins. -/
def shutdownEntry (supervisor : Supervisor) : Log.Entry :=
  ⟨.info, "Engine supervisor shutting down",
    [("timeout_secs", .count supervisor.timeout.wholeSeconds)]⟩

/-- Says what became of an engine that did not stop by itself. -/
def fateEntry? : String × Fate → Option Log.Entry
  | (_, .stopped) => none
  | (name, .aborted) =>
    some ⟨.warn, "Engine did not stop in time, aborting", [("engine", .text name)]⟩
  | (name, .panicked message) =>
    some ⟨.error, "Engine task failed", [("engine", .text name), ("error", .text message)]⟩

/-- Says how many engines had which fate. -/
def reportEntry (report : ShutdownReport) : Log.Entry :=
  ⟨.info, "Engine supervisor stopped",
    [("stopped", .count report.stopped.length), ("aborted", .count report.aborted.length),
      ("panicked", .count report.panicked.length)]⟩

/-- The entries of a shutdown after its begin. -/
def closingEntries (fates : List (String × Fate)) : List Log.Entry :=
  fates.filterMap fateEntry? ++ [reportEntry (.ofFates fates)]

end Supervisor

end Leasehold
