import CyclicBus.Node
import CyclicBus.Trace.Counters
import CyclicBus.Trace.Log
import CyclicBus.Trace.Metrics

/-!
# Trees of traces

What tools see of log records and of counts.
-/

namespace CyclicBus

instance : ToNode LogRecord.Field where
  toNode
    | .number n => toNode n
    | .flag b => toNode b
    | .text s => toNode s

instance : ToNode LogRecord where
  toNode r := .ofFields [
    field "level" r.level.name,
    field "message" r.message,
    field "fields" (Node.ofFields (r.fields.map fun (name, value) => field name value))]

instance : ToNode SinkMetrics where
  toNode m := .ofFields [
    field "cycle" m.cycleEvents,
    field "app" m.lifecycleEvents,
    field "health" m.healthEvents,
    field "clock" m.clockAnomalies,
    field "overruns" m.deadlineOverruns,
    field "dropped" m.snapshotsDropped,
    field "healthy" m.isHealthy]

/-- The counts in the order of their report. -/
instance : ToNode RunCounters where
  toNode c := toNode [c.cycles, c.degradedCycles, c.masterHealthChanges, c.clockAnomalies,
    c.referenceUnavailable, c.driftSaturations, c.overruns]

end CyclicBus
