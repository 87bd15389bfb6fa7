/-
**Pretended engines.**

In a rehearsal of a supervisor the engines only pretend to work: each ends in a way that is known
from the start.

* `Pretender.taskEnd`: how the task of such an engine ends;
* `Watch`: a supervisor with its engines and the time that has passed;
* `Watch.shutdown`: the shutdown of a supervisor at this time.
-/

import Leasehold.Supervisor

namespace Leasehold.Rehearsal

/-- How an engine pretends to work. -/
inductive Manner where
  /-- It waits for the signal to stop. -/
  | cooperative
  /-- It waits for the signal to stop and crashes. -/
  | panics
  /-- It ends without a signal. -/
  | exits
  /-- It crashes without a signal. -/
  | crashes
  /-- It never ends. -/
  | stubborn
deriving DecidableEq, Repr

/-- The manner with a name; an unknown one is cooperative. -/
def Manner.ofName (name : String) : Manner :=
  match name with
  | "panics" => .panics
  | "exits" => .exits
  | "crashes" => .crashes
  | "stubborn" => .stubborn
  | _ => .cooperative

/-- An engine that only pretends to work. -/
structure Pretender where
  name : String
  manner : Manner
  /-- How long it takes from the signal or from its start on. -/
  millis : Nat
deriving DecidableEq, Repr

namespace Pretender

/-- The message of a crash. -/
def crashMessage : String := "task panicked"

/-- How the task of the engine ends, with the time of the signal to stop if it came. -/
def taskEnd (signal : Option Nat) (pretender : Pretender) : TaskEnd :=
  match pretender.manner, signal with
  | .stubborn, _ => .never
  | .exits, _ => .returns pretender.millis
  | .crashes, _ => .crashes pretender.millis crashMessage
  | .panics, some time => .crashes (time + pretender.millis) crashMessage
  | .cooperative, some time => .returns (time + pretender.millis)
  | .panics, none => .never
  | .cooperative, none => .never

end Pretender

/-- A supervisor with pretended engines. -/
structure Watch where
  supervisor : Supervisor
  engines : List Pretender
  /-- Milliseconds since the start. -/
  time : Nat := 0
  /-- The supervisor was shut down. -/
  isOver : Bool := false
  log : List Log.Entry := []

namespace Watch

/-- A supervisor that has started its engines. -/
def start (supervisor : Supervisor) (engines : List Pretender) : Watch :=
  { supervisor := supervisor, engines := engines, log := [supervisor.startEntry] }

/-- Whether an engine is still at work. -/
def isRunning (watch : Watch) : Bool :=
  !(watch.engines.map (·.taskEnd none)).all (·.isOverAt watch.time)

/-- After some time. -/
def wait (watch : Watch) (millis : Nat) : Watch := { watch with time := watch.time + millis }

/-- The shutdown of the supervisor at this time: its report, or the message of its crash. -/
def shutdown (watch : Watch) : Except String ShutdownReport × Watch :=
  let begun := { watch with
    isOver := true
    log := watch.log ++ [watch.supervisor.shutdownEntry] }
  match watch.supervisor.shutdown watch.time (watch.engines.map (·.taskEnd (some watch.time))) with
  | .error message => (.error message, begun)
  | .ok (fates, finished) =>
    (.ok (.ofFates fates), { begun with
      time := finished
      log := begun.log ++ Supervisor.closingEntries fates })

end Watch

end Leasehold.Rehearsal
