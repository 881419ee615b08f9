import CyclicBus.Timing.Host
import CyclicBus.Timing.WakeupGrid

/-!
# Ticker

A wakeup grid on a clock. A tick consumes the next wakeup and tells the cycle about it; the thread
setup is applied once.
-/

namespace CyclicBus

/-- What a cycle learns about the wakeup that it runs in (nanoseconds). -/
structure CycleContext where
  cycle : UInt64
  wakeup : UInt64
  actual : UInt64
  latency : UInt64
  period : UInt64
  deriving DecidableEq, Repr

/-- The context of the next wakeup of a grid, if the thread runs again at `actual`. -/
def WakeupGrid.context (g : WakeupGrid) (actual : UInt64) : CycleContext :=
  ⟨g.index, g.next, actual, actual.satSub g.next, g.period⟩

/-- A grid, its clock, and whether the thread is set up. -/
structure Ticker where
  grid : WakeupGrid
  clock : ClockSource
  applied : Bool
  deriving DecidableEq, Repr

namespace Ticker

/-- A ticker whose first wakeup is one period after `origin`. -/
def starting (origin period : UInt64) (clock : ClockSource) : Ticker :=
  ⟨.starting origin period, clock, false⟩

def tick (t : Ticker) (actual : UInt64) : CycleContext × Ticker :=
  (t.grid.context actual, { t with grid := t.grid.advance })

/-- Apply a thread setup, unless one was applied before. -/
def apply (t : Ticker) (host : Host) (setup : ThreadSetup) : Except WorkerFault Ticker :=
  if t.applied then .ok t
  else (host.apply setup).map fun _ => { t with applied := true }

end Ticker

end CyclicBus
