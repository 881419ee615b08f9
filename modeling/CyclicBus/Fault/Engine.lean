import CyclicBus.Timing.Fault

/-!
# Engine faults

What starting, stopping and configuring a run can answer. `EngineFault.toFailure` sorts each into
the general classes of failure.
-/

namespace CyclicBus

inductive EngineFault where
  | lifecycle (fault : LifecycleFault)
  | worker (fault : WorkerFault)
  | validation (violation : Violation)
  | configRead (path : String) (cause : SystemFault)
  | configParse (reason : String)
  deriving DecidableEq, Repr

namespace EngineFault

def message : EngineFault → String
  | lifecycle f => f.message
  | worker f => f.message
  | validation v => v.message
  | configRead path cause => "Failed to read configuration " ++ path ++ ": " ++ cause.message
  | configParse reason => "Failed to parse configuration: " ++ reason

/-- The messages of the faults beneath, outermost first. A fault that only wraps another shows that
one's. -/
def sources : EngineFault → List String
  | lifecycle _ => []
  | worker f => f.sources
  | validation _ => []
  | configRead _ cause => [cause.message]
  | configParse reason => [reason]

def isAlreadyRunning : EngineFault → Bool
  | lifecycle .alreadyRunning => true
  | _ => false

def toFailure : EngineFault → Failure
  | lifecycle f => .lifecycle f
  | validation v => .validation v
  | worker (.invalidConfig v) => .validation v
  | worker f => .rt f.rtFault
  | configRead _ cause => .io cause
  | configParse reason => .config reason

/-- The name of a cause, with the names of what it comes from. -/
def name : EngineFault → String
  | lifecycle f => "Lifecycle." ++ f.name
  | worker f => "Scheduler." ++ f.name
  | validation v => "Validation." ++ v.name
  | configRead .. => "ConfigRead"
  | configParse _ => "ConfigParse"

end EngineFault

end CyclicBus
