import CyclicBus.Saturating
import CyclicBus.Trace.Event

/-!
# Sink metrics

How many events of each class a sink was given. A sink counts modulo the word; `merge`, which joins
the metrics of several sinks, saturates.
-/

namespace CyclicBus

structure SinkMetrics where
  cycleEvents : UInt64
  lifecycleEvents : UInt64
  healthEvents : UInt64
  clockAnomalies : UInt64
  deadlineOverruns : UInt64
  snapshotsDropped : UInt64
  deriving DecidableEq, Repr

namespace SinkMetrics

def zero : SinkMetrics := ⟨0, 0, 0, 0, 0, 0⟩

/-- Count a cycle event: once among all, and once in its class, unless it reports the arming of the
drift filter or a timing window, which belong to no class counter. -/
def countCycle (m : SinkMetrics) (e : CycleEvent) : SinkMetrics :=
  let m := { m with cycleEvents := m.cycleEvents + 1 }
  match e with
  | .domainDegraded _ _ _ => { m with healthEvents := m.healthEvents + 1 }
  | .domainRecovered _ _ => { m with healthEvents := m.healthEvents + 1 }
  | .masterHealthChanged _ _ _ _ => { m with healthEvents := m.healthEvents + 1 }
  | .clockBackwardJump _ _ _ => { m with clockAnomalies := m.clockAnomalies + 1 }
  | .driftSaturated _ _ _ => { m with clockAnomalies := m.clockAnomalies + 1 }
  | .referenceUnavailable _ => { m with clockAnomalies := m.clockAnomalies + 1 }
  | .deadlineOverrun _ _ _ => { m with deadlineOverruns := m.deadlineOverruns + 1 }
  | .snapshotDropped _ => { m with snapshotsDropped := m.snapshotsDropped + 1 }
  | .driftArmed _ _ _ => m
  | .timingWindow _ _ _ _ _ _ => m

def countLifecycle (m : SinkMetrics) : SinkMetrics :=
  { m with lifecycleEvents := m.lifecycleEvents + 1 }

/-- The metrics of two sinks together. -/
def merge (m n : SinkMetrics) : SinkMetrics where
  cycleEvents := m.cycleEvents.satAdd n.cycleEvents
  lifecycleEvents := m.lifecycleEvents.satAdd n.lifecycleEvents
  healthEvents := m.healthEvents.satAdd n.healthEvents
  clockAnomalies := m.clockAnomalies.satAdd n.clockAnomalies
  deadlineOverruns := m.deadlineOverruns.satAdd n.deadlineOverruns
  snapshotsDropped := m.snapshotsDropped.satAdd n.snapshotsDropped

/-- Whether there was neither a clock anomaly nor an overrun. -/
def isHealthy (m : SinkMetrics) : Bool := m.clockAnomalies == 0 && m.deadlineOverruns == 0

def report (m : SinkMetrics) : String :=
  s!"TracingMetrics(cycle={m.cycleEvents}, app={m.lifecycleEvents}, health={m.healthEvents}, " ++
    s!"clock={m.clockAnomalies}, overruns={m.deadlineOverruns}, dropped={m.snapshotsDropped})"

end SinkMetrics

end CyclicBus
