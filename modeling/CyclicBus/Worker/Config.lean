import CyclicBus.Timing.Fault
import CyclicBus.Timing.Statistics
import CyclicBus.Timing.ThreadSetup

/-!
# Worker configuration

What a worker is launched with. A configuration is checked once, when a launcher is made from it.
-/

namespace CyclicBus.Worker

/-- Launch parameters of a worker. -/
structure Config where
  /-- Cycle period in nanoseconds, positive. -/
  period : UInt64
  setup : ThreadSetup
  /-- End the run after this many nanoseconds. -/
  runDuration : Option Nat
  threadName : String
  latencies : UInt64
  /-- Cycles in a statistics window; none is ever drained if zero. -/
  windowCycles : UInt64
  deriving DecidableEq, Repr

/-- Statistics windows in a second where nothing is said. -/
def windowsPerSecond : UInt64 := 10

/-- Nanoseconds in a second. -/
def second : UInt64 := 1000000000

/-- The number of cycles in a tenth of a second, and at least one. -/
def standardWindow (period : UInt64) : UInt64 :=
  if period = 0 then 1 else max (second / windowsPerSecond / period) 1

namespace Config

/-- The configuration for a period where nothing else is said. -/
def ofPeriod (period : UInt64) : Config where
  period
  setup := .standard
  runDuration := none
  threadName := "fieldcycle-rt"
  latencies := .ofNat Statistics.standardCapacity
  windowCycles := standardWindow period

/-- Check the period, then the thread setup. -/
def validate (c : Config) : Except Violation Unit := do
  if c.period = 0 then
    throw (.numberOutOfRange "period_ns" 0 1 UInt64.top.toNat)
  c.setup.validate

/-- Accept a configuration for launches. -/
def configure (c : Config) : Except WorkerFault Config :=
  match c.validate with
  | .ok () => .ok c
  | .error violation => .error (.invalidConfig violation)

theorem configure_eq_ok_iff (c d : Config) : c.configure = .ok d ↔ c = d ∧ c.validate = .ok () := by
  unfold configure
  split <;> simp_all

end Config

end CyclicBus.Worker
