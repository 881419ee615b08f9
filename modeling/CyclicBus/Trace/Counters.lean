/-!
# Run counters

How often each notable thing happened in a run. The counters are words that other threads read while
the run goes on.
-/

namespace CyclicBus

structure RunCounters where
  cycles : UInt64
  degradedCycles : UInt64
  masterHealthChanges : UInt64
  clockAnomalies : UInt64
  referenceUnavailable : UInt64
  driftSaturations : UInt64
  overruns : UInt64
  deriving DecidableEq, Repr

namespace RunCounters

def zero : RunCounters := ⟨0, 0, 0, 0, 0, 0, 0⟩

def countCycle (c : RunCounters) : RunCounters := { c with cycles := c.cycles + 1 }

def countDegraded (c : RunCounters) : RunCounters :=
  { c with degradedCycles := c.degradedCycles + 1 }

def countHealthChange (c : RunCounters) : RunCounters :=
  { c with masterHealthChanges := c.masterHealthChanges + 1 }

def countClockAnomaly (c : RunCounters) : RunCounters :=
  { c with clockAnomalies := c.clockAnomalies + 1 }

def countReferenceUnavailable (c : RunCounters) : RunCounters :=
  { c with referenceUnavailable := c.referenceUnavailable + 1 }

def countSaturation (c : RunCounters) : RunCounters :=
  { c with driftSaturations := c.driftSaturations + 1 }

def countOverrun (c : RunCounters) : RunCounters := { c with overruns := c.overruns + 1 }

/-- The share of cycles with a degraded domain. -/
def degradedRate (c : RunCounters) : Float :=
  if c.cycles = 0 then 0 else c.degradedCycles.toFloat / c.cycles.toFloat

def report (c : RunCounters) : String :=
  s!"cycles={c.cycles} degraded={c.degradedCycles} health_changes={c.masterHealthChanges} " ++
    s!"clock_anomalies={c.clockAnomalies} ref_unavailable={c.referenceUnavailable} " ++
    s!"saturations={c.driftSaturations} overruns={c.overruns}"

end RunCounters

end CyclicBus
