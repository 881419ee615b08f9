import CyclicBus.Bus.Topology
import CyclicBus.Clock.Sync
import CyclicBus.Worker.Config

/-!
# Cycle configuration

How a run is timed, scheduled and synchronised. `validate` checks the values by themselves,
`validateWith` also that the reference device exists; both report the first violation.
-/

namespace CyclicBus

/-- The cycle section of a document (times in nanoseconds unless said otherwise). -/
structure CycleConfig where
  period : UInt64
  policy : Policy
  processors : List UInt64
  clock : ClockSource
  lockMemory : Bool
  syncMode : SyncMode
  referenceDevice : UInt64
  filterWindow : UInt32
  driftClamp : UInt32
  /-- End the run after this many milliseconds. -/
  runDuration : Option UInt64
  /-- Cycles between two polls of the master's health. -/
  healthInterval : Option UInt32
  deriving DecidableEq, Repr

namespace CycleConfig

/-- The greatest period: one second. -/
def greatestPeriod : UInt64 := Worker.second

/-- Polls of the master's health in a second where nothing is said. -/
def pollsPerSecond : UInt64 := 10

/-- The configuration where nothing is said. -/
def standard : CycleConfig where
  period := 1000000
  policy := .standard
  processors := []
  clock := .monotonic
  lockMemory := true
  syncMode := .masterFollowsReference
  referenceDevice := 0
  filterWindow := 1024
  driftClamp := 1000
  runDuration := none
  healthInterval := none

/-- A configuration that needs no privileges. -/
def unprivileged (period : UInt64) : CycleConfig :=
  { standard with period, policy := .inherit, lockMemory := false }

def withoutPrivileges (c : CycleConfig) : CycleConfig :=
  { c with policy := .inherit, processors := [], lockMemory := false }

/-- Bound the run to a number of nanoseconds, in whole milliseconds. -/
def withRunDuration (c : CycleConfig) (nanoseconds : Nat) : CycleConfig :=
  { c with runDuration := some (.ofNatClamp (nanoseconds / 1000000)) }

def threadSetup (c : CycleConfig) : ThreadSetup :=
  ⟨c.policy, c.processors, c.lockMemory, c.clock⟩

def checkPositive (field : String) (greatest : Nat) : Option Nat → Except Violation Unit
  | some 0 => .error (.numberOutOfRange field 0 1 greatest)
  | _ => .ok ()

/-- Check the values: period, window, polls, duration, then the thread setup. -/
def validate (c : CycleConfig) : Except Violation Unit := do
  if c.period < 1 ∨ greatestPeriod < c.period then
    throw (.numberOutOfRange "period_ns" c.period.toNat 1 greatestPeriod.toNat)
  checkPositive "filter_window" (UInt32.size - 1) (some c.filterWindow.toNat)
  checkPositive "master_health_interval" (UInt32.size - 1) (c.healthInterval.map (·.toNat))
  checkPositive "run_duration_ms" (UInt64.size - 1) (c.runDuration.map (·.toNat))
  c.threadSetup.validate

/-- Check the values, then that the reference device is one of the topology. -/
def validateWith (c : CycleConfig) (t : Topology) : Except Violation Unit := do
  c.validate
  if t.size ≤ c.referenceDevice.toNat then
    throw (.numberOutOfRange "reference_device" c.referenceDevice.toNat 0 (t.size - 1))

def runNanoseconds (c : CycleConfig) : Option Nat := c.runDuration.map fun ms => ms.toNat * 1000000

/-- Cycles between two polls of the master's health: as given, else a tenth of a second. -/
def pollInterval (c : CycleConfig) : UInt32 :=
  c.healthInterval.getD
    (.ofNatClamp (max (Worker.second / pollsPerSecond / max c.period 1) 1).toNat)

def workerConfig (c : CycleConfig) : Worker.Config :=
  { Worker.Config.ofPeriod c.period with
    setup := c.threadSetup
    runDuration := c.runNanoseconds
    windowCycles := c.pollInterval.toUInt64 }

def driftParams (c : CycleConfig) : DriftParams where
  period := c.period
  window := c.filterWindow
  clamp := .ofNat c.driftClamp.toNat
  mode := c.syncMode

end CycleConfig

end CyclicBus
