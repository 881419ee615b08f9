import CyclicBus.Fault.Failure

/-!
# Faults of worker threads

Why a worker could not be launched, or was not handed back.
-/

namespace CyclicBus

/-- The parts of a thread setup that the operating system may refuse. -/
inductive SetupStage where
  | fixedPriority
  | deadline
  | affinity
  | memoryLock
  deriving DecidableEq, Repr

def SetupStage.name : SetupStage → String
  | fixedPriority => "fixed-priority policy"
  | deadline => "deadline policy"
  | affinity => "cpu affinity"
  | memoryLock => "memory lock"

/-- A worker that was refused or lost. -/
inductive WorkerFault where
  | invalidConfig (violation : Violation)
  | setup (stage : SetupStage) (cause : SystemFault)
  | unsupported (stage : SetupStage)
  | spawn (cause : SystemFault)
  | panicked
  | lost
  deriving DecidableEq, Repr

namespace WorkerFault

def message : WorkerFault → String
  | invalidConfig violation => "Invalid scheduler configuration: " ++ violation.message
  | setup stage cause => s!"Failed to apply {stage.name}: " ++ cause.message
  | unsupported stage => s!"{stage.name} is not supported on this platform"
  | spawn cause => "Failed to spawn cycle worker: " ++ cause.message
  | panicked => "Cycle worker panicked"
  | lost => "Cycle worker exited without returning its body"

def rtFault : WorkerFault → RtFault
  | invalidConfig _ => .invalidConfig
  | setup _ _ => .setupFailed
  | unsupported _ => .setupFailed
  | spawn _ => .resourceUnavailable
  | panicked => .pipelineFault
  | lost => .pipelineFault

/-- Whether the system or the platform refused part of the setup. -/
def isSetupRejection : WorkerFault → Bool
  | setup _ _ => true
  | unsupported _ => true
  | _ => false

/-- The messages of the faults beneath, outermost first. -/
def sources : WorkerFault → List String
  | invalidConfig violation => [violation.message]
  | setup _ cause => [cause.message]
  | spawn cause => [cause.message]
  | _ => []

def name : WorkerFault → String
  | invalidConfig violation => "InvalidConfig." ++ violation.name
  | setup .. => "Setup"
  | unsupported _ => "Unsupported"
  | spawn _ => "Spawn"
  | panicked => "WorkerPanicked"
  | lost => "WorkerLost"

end WorkerFault

end CyclicBus
