import CyclicBus.Command.Progress
import CyclicBus.Command.Usage

/-!
# The program

The outer layer of the command line: it reads the arguments, a file and the clock, sleeps, and
prints. What a command does is decided in `Command`. The program asks for no privileges, so that a
run needs a setup without any.
-/

namespace CyclicBus.Program

/-- Nanoseconds between two lines of progress. -/
def reportInterval : Nat := 1000000000

def readFile (path : String) : IO (Except SystemFault ByteArray) := do
  match ← (IO.FS.readBinFile path).toBaseIO with
  | .ok bytes => return .ok bytes
  | .error (.noFileOrDirectory ..) => return .error .noSuchFile
  | .error (.permissionDenied ..) => return .error .accessDenied
  | .error (.inappropriateType ..) => return .error .isDirectory
  | .error fault => return .error ⟨.other, toString fault⟩

def printLines (lines : List String) : IO Unit := lines.forM fun line => IO.println line

def finish (outcome : Outcome) : IO UInt32 := do
  printLines outcome.out
  if let some complaint := outcome.complaint then IO.eprintln complaint
  return outcome.exit.toUInt32

def now : IO UInt64 := return .ofNat (← IO.monoNanosNow)

/-- Wait until the clock has reached a time: sleep for whole milliseconds, then look at the clock.
-/
partial def sleepUntil (wakeup : UInt64) : IO Unit := do
  let time ← now
  if time < wakeup then
    let rest := ((wakeup - time) / 1000000).toNat
    if 0 < rest then IO.sleep (.ofNat rest)
    sleepUntil wakeup

/-- One step of the worker by the clock. -/
def turn (c : Controller SimulatedMaster) : IO (Controller SimulatedMaster) := do
  if let some w := c.worker? then
    if w.phase = .sleep then sleepUntil w.grid.next
  let time ← now
  return c.stepWorker ⟨time, true, false, .still time⟩

/-- Print the log records that a step has added. -/
def printRecords (verbosity : Nat) (before after : Controller SimulatedMaster) : IO Unit :=
  printLines (before.newLines verbosity after)

/-- Let the worker run to its end, with a line of progress now and then. -/
partial def watch (verbosity : Nat) (started : UInt64) (reports : Nat)
    (c : Controller SimulatedMaster) : IO (Controller SimulatedMaster) := do
  if !c.isRunning then return c
  let next ← turn c
  printRecords verbosity c next
  let elapsed := ((← now) - started).toNat
  if reports * reportInterval ≤ elapsed then
    IO.println (next.progress elapsed)
    watch verbosity started (reports + 1) next
  else watch verbosity started reports next

/-- Start a run, let it end, and take back what is left of it. -/
def drive (verbosity : Nat) (run : PreparedRun) : IO Outcome := do
  let started ← now
  let answer (_ : Nat) : Worker.Answer Readings := ⟨started, true, false, .still started⟩
  printLines (LogRecord.shownLines verbosity run.controller.log.toList)
  let (launched, c) := run.controller.start .withoutPrivileges answer run.cycle
  printRecords verbosity run.controller c
  match launched with
  | .error fault => return PreparedRun.outcome (.error fault)
  | .ok () =>
    let ended ← watch verbosity started 1 c
    let (summary, stopped) := ended.stop answer
    printRecords verbosity ended stopped
    return PreparedRun.outcome summary

def perform (verbosity : Nat) (command : Command) : IO UInt32 := do
  let file ←
    match command.path? with
    | some path => readFile path
    | none => pure (.error .noSuchFile)
  match command.plan file with
  | .finished outcome => finish outcome
  | .run run => finish (← drive verbosity run)

end CyclicBus.Program

/-- Exits with 0 after success and with the code of the failure otherwise. -/
def main (arguments : List String) : IO UInt32 :=
  match CyclicBus.Invocation.parse arguments with
  | .error fault => CyclicBus.Program.finish (.ofUsage fault)
  | .ok .help => CyclicBus.Program.finish (.ofLines CyclicBus.Invocation.usageLines)
  | .ok .version => CyclicBus.Program.finish (.ofLines [CyclicBus.Invocation.versionLine])
  | .ok (.command verbosity command) => CyclicBus.Program.perform verbosity command
