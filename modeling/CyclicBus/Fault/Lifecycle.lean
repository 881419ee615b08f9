/-!
# Faults of the run life cycle

Why a run could not be started or did not end as it should.
-/

namespace CyclicBus

/-- A refusal to start a run, or a run that was lost. -/
inductive LifecycleFault where
  | alreadyRunning
  | activationFailed (reason : String)
  | referenceClockRejected (device : Nat)
  | masterUnavailable
  | workerPanicked
  | domainTooSmall (required actual : Nat)
  deriving DecidableEq, Repr

def LifecycleFault.message : LifecycleFault → String
  | alreadyRunning => "Communicator is already running"
  | activationFailed reason => "Master activation failed: " ++ reason
  | referenceClockRejected device =>
    s!"Reference clock selection rejected for device {device}"
  | masterUnavailable => "Master session unavailable"
  | workerPanicked => "Cycle worker panicked"
  | domainTooSmall required actual =>
    s!"Domain too small: topology requires {required} bytes, domain has {actual}"

def LifecycleFault.name : LifecycleFault → String
  | alreadyRunning => "AlreadyRunning"
  | activationFailed _ => "ActivationFailed"
  | referenceClockRejected _ => "ReferenceClockRejected"
  | masterUnavailable => "MasterUnavailable"
  | workerPanicked => "WorkerPanicked"
  | domainTooSmall .. => "DomainTooSmall"

end CyclicBus
