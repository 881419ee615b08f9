import CyclicBus.Fault.Engine

/-!
# Failures of commands

Why a command failed, how that is shown, and the exit code. A failure is shown with its context and
its sources, from the outside in.
-/

namespace CyclicBus

inductive CommandFault where
  | invalidConfiguration (violation : Violation)
  | engine (fault : EngineFault)
  | unboundedRun
  deriving DecidableEq, Repr

namespace CommandFault

def message : CommandFault → String
  | invalidConfiguration violation => "Invalid configuration: " ++ violation.message
  | engine fault => "Engine error: " ++ fault.message
  | unboundedRun => "Run needs a duration: set cycle.run_duration_ms or pass --duration-ms"

/-- The wordings of what caused a fault, the nearest cause first. -/
def sources : CommandFault → List String
  | invalidConfiguration violation => [violation.message]
  | engine fault => fault.message :: fault.sources
  | unboundedRun => []

/-- The exit code: 4 for a configuration that cannot be used, 2 for a run without an end, 1 for a
run that could not be started or ended badly. -/
def exitCode : CommandFault → UInt8
  | invalidConfiguration _ => 4
  | engine (.configRead ..) => 4
  | engine (.configParse _) => 4
  | engine (.validation _) => 4
  | unboundedRun => 2
  | engine _ => 1

end CommandFault

/-- A fault, with what was being done. -/
structure CommandFailure where
  context : Option String
  fault : CommandFault
  deriving DecidableEq, Repr

namespace CommandFailure

def ofFault (fault : CommandFault) : CommandFailure := ⟨none, fault⟩

def report (f : CommandFailure) : String :=
  "error: " ++ ": ".intercalate (f.context.toList ++ f.fault.message :: f.fault.sources)

end CommandFailure

end CyclicBus
