import CyclicBus.Bench.ControllerBench
import CyclicBus.Bench.Directory
import CyclicBus.Command.Work

/-!
# Commands on a virtual clock

A whole command, with files given by name and with its run on a virtual clock.
-/

namespace CyclicBus.Bench

/-- Start a run, let it end, and take back what is left of it. -/
def drive (host : Host) (run : PreparedRun) : Except EngineFault (Option RunSummary) := do
  let (started, b) := (ControllerBench.ofController run.controller).start host run.cycle
  started
  b.waitDone.stop.1

def perform (host : Host) (files : List (String × ByteArray)) (c : Command) : Outcome :=
  match c.plan (read files (c.path?.getD "")) with
  | .finished outcome => outcome
  | .run run => PreparedRun.outcome (drive host run)

end CyclicBus.Bench
