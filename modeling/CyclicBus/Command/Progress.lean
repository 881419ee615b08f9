import CyclicBus.Command.Work

/-!
# Progress of a run

What a run shows while it goes on: its log records, and a line of progress.
-/

namespace CyclicBus.Controller

/-- The lines of the records that a later controller adds to an earlier one. -/
def newLines {M : Type} (verbosity : Nat) (before after : Controller M) : List String :=
  let added :=
    after.log.toList.drop before.log.size ++
      after.shared.trace.sink.records.toList.drop before.shared.trace.sink.records.size
  LogRecord.shownLines verbosity added

def frames (c : Controller SimulatedMaster) : UInt64 :=
  match c.holding with
  | .idle master _ => (master.map (·.frames)).getD 0
  | .running w => w.body.master.frames

/-- Seconds with one decimal place, from nanoseconds. -/
def seconds (nanoseconds : Nat) : String :=
  let tenths := Decimal.roundEven nanoseconds 100000000
  s!"{tenths / 10}.{tenths % 10}"

/-- The line of progress of a run that began `elapsed` nanoseconds ago. -/
def progress (elapsed : Nat) (c : Controller SimulatedMaster) : String :=
  let time := seconds elapsed
  "[" ++ "".pushn ' ' (5 - time.length) ++ time ++ "s] " ++ c.shared.counters.report ++
    s!" frames={c.frames}"

end CyclicBus.Controller
