import CyclicBus.Text.Quoted

/-!
# Trace events

What a cycle and what the life of a run report. A cycle event belongs to one of four classes; three
kinds of it are anomalies.
-/

namespace CyclicBus

/-- Something that one cycle reports (times in nanoseconds). -/
inductive CycleEvent where
  | domainDegraded (cycle : UInt64) (workingCounter expected : UInt16)
  | domainRecovered (cycle : UInt64) (workingCounter : UInt16)
  | masterHealthChanged (cycle : UInt64) (slaves : UInt16) (alStates : UInt8) (linkUp : Bool)
  | clockBackwardJump (cycle hardware : UInt64) (timeBase : Int64)
  | driftArmed (cycle appTime : UInt64) (firstDiff : Int64)
  | driftSaturated (cycle : UInt64) (adjustment clamp : Int64)
  | referenceUnavailable (cycle : UInt64)
  | deadlineOverrun (cycle exec period : UInt64)
  | snapshotDropped (cycle : UInt64)
  | timingWindow (cycle cycles periodMax execMax latencyMax overruns : UInt64)
  deriving DecidableEq, Repr

inductive CycleEvent.Category where
  | health
  | clock
  | timing
  | buffer
  deriving DecidableEq, Repr

def CycleEvent.Category.name : Category → String
  | health => "Health"
  | clock => "Clock"
  | timing => "Timing"
  | buffer => "Buffer"

def linkName (up : Bool) : String := if up then "up" else "down"

namespace CycleEvent

def cycle : CycleEvent → UInt64
  | domainDegraded c _ _ => c
  | domainRecovered c _ => c
  | masterHealthChanged c _ _ _ => c
  | clockBackwardJump c _ _ => c
  | driftArmed c _ _ => c
  | driftSaturated c _ _ => c
  | referenceUnavailable c => c
  | deadlineOverrun c _ _ => c
  | snapshotDropped c => c
  | timingWindow c _ _ _ _ _ => c

def category : CycleEvent → Category
  | domainDegraded _ _ _ => .health
  | domainRecovered _ _ => .health
  | masterHealthChanged _ _ _ _ => .health
  | clockBackwardJump _ _ _ => .clock
  | driftArmed _ _ _ => .clock
  | driftSaturated _ _ _ => .clock
  | referenceUnavailable _ => .clock
  | deadlineOverrun _ _ _ => .timing
  | timingWindow _ _ _ _ _ _ => .timing
  | snapshotDropped _ => .buffer

/-- Whether an event reports something that should not happen in a healthy run. -/
def isAnomaly : CycleEvent → Bool
  | clockBackwardJump _ _ _ => true
  | driftSaturated _ _ _ => true
  | deadlineOverrun _ _ _ => true
  | _ => false

def kindName : CycleEvent → String
  | domainDegraded _ _ _ => "domain_degraded"
  | domainRecovered _ _ => "domain_recovered"
  | masterHealthChanged _ _ _ _ => "master_health_changed"
  | clockBackwardJump _ _ _ => "clock_backward_jump"
  | driftArmed _ _ _ => "dc_armed"
  | driftSaturated _ _ _ => "drift_saturated"
  | referenceUnavailable _ => "reference_clock_unavailable"
  | deadlineOverrun _ _ _ => "deadline_overrun"
  | snapshotDropped _ => "snapshot_dropped"
  | timingWindow _ _ _ _ _ _ => "timing_window"

def report : CycleEvent → String
  | domainDegraded cycle workingCounter expected =>
    s!"DomainDegraded(cycle={cycle}, wkc={workingCounter}/{expected})"
  | domainRecovered cycle workingCounter =>
    s!"DomainRecovered(cycle={cycle}, wkc={workingCounter})"
  | masterHealthChanged cycle slaves alStates linkUp =>
    s!"MasterHealthChanged(cycle={cycle}, slaves={slaves}, " ++
      s!"al=0x{Text.hexUpper 2 alStates.toNat}, link={linkName linkUp})"
  | clockBackwardJump cycle hardware timeBase =>
    s!"ClockBackwardJump(cycle={cycle}, hw={hardware}ns, base={timeBase}ns)"
  | driftArmed cycle appTime firstDiff =>
    s!"DcArmed(cycle={cycle}, app={appTime}ns, diff={firstDiff}ns)"
  | driftSaturated cycle adjustment clamp =>
    s!"DriftSaturated(cycle={cycle}, adj={adjustment}ns, clamp={clamp}ns)"
  | referenceUnavailable cycle => s!"ReferenceClockUnavailable(cycle={cycle})"
  | deadlineOverrun cycle exec period =>
    s!"DeadlineOverrun(cycle={cycle}, exec={exec}ns, period={period}ns)"
  | snapshotDropped cycle => s!"SnapshotDropped(cycle={cycle})"
  | timingWindow cycle cycles periodMax execMax latencyMax overruns =>
    s!"TimingWindow(cycle={cycle}, cycles={cycles}, period_max={periodMax}ns, " ++
      s!"exec_max={execMax}ns, latency_max={latencyMax}ns, overruns={overruns})"

end CycleEvent

/-- Something that starting or ending a run reports. -/
inductive LifecycleEvent where
  | started (period : UInt64) (policy : String) (devices : Nat)
  | stopped (cycles : UInt64) (reason : String)
  | activationFailed (reason : String)
  | setupRejected (reason : String)
  | workerPanicked
  deriving DecidableEq, Repr

inductive LifecycleEvent.Category where
  | lifecycle
  | fault
  deriving DecidableEq, Repr

def LifecycleEvent.Category.name : Category → String
  | lifecycle => "Lifecycle"
  | fault => "Fault"

namespace LifecycleEvent

def category : LifecycleEvent → Category
  | started _ _ _ => .lifecycle
  | stopped _ _ => .lifecycle
  | activationFailed _ => .fault
  | setupRejected _ => .fault
  | workerPanicked => .fault

def report : LifecycleEvent → String
  | started period policy devices =>
    s!"Started(period={period}ns, policy={policy}, devices={devices})"
  | stopped cycles reason => s!"Stopped(cycles={cycles}, reason={reason})"
  | activationFailed reason => s!"ActivationFailed(reason={reason})"
  | setupRejected reason => s!"SetupRejected(reason={reason})"
  | workerPanicked => "WorkerPanicked"

end LifecycleEvent

end CyclicBus
