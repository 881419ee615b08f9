import CyclicBus.Node
import CyclicBus.Worker.Config

/-!
# Trees of timing

What tools see of thread setups, worker configurations and statistics. Times are in nanoseconds.
-/

namespace CyclicBus

instance : ToNode ThreadSetup where
  toNode s := .ofFields [
    field "policy" s.policy.label,
    field "cpus" s.processors,
    field "lock_memory" s.lockMemory,
    field "clock" s.clock.name,
    field "rt_features" s.asksForMore]

/-- A run bound may be longer than a word, so it is a text. -/
instance : ToNode Worker.Config where
  toNode c := .ofFields [
    field "period_ns" c.period,
    field "setup" c.setup,
    field "thread_name" c.threadName,
    field "run_duration_ns" (c.runDuration.map toString),
    field "stats_capacity" c.latencies,
    field "stats_window_cycles" c.windowCycles]

instance : ToNode Statistics.Range where
  toNode r := .ofFields [
    field "min" r.least,
    field "max" r.greatest,
    field "samples" r.samples,
    field "empty" r.isEmpty,
    field "bounds" r.bounds?,
    field "spread" r.spread]

instance : ToNode Statistics.Window where
  toNode w := .ofFields [
    field "period" w.period,
    field "exec" w.exec,
    field "latency" w.latency,
    field "overruns" w.overruns]

end CyclicBus
