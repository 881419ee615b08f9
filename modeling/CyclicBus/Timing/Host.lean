import CyclicBus.Timing.Fault
import CyclicBus.Timing.ThreadSetup

/-!
# Host

What the operating system grants to a worker thread. A host answers each request with a fault or
with nothing; `Host.apply` makes the requests of a thread setup in their fixed order and stops at
the first refusal.
-/

namespace CyclicBus

/-- The answers of an operating system to the requests of a worker. -/
structure Host where
  lockMemory : Option SystemFault
  affinity : List UInt64 → Option SystemFault
  fixedPriority : UInt8 → Option SystemFault
  deadline : (runtime deadline period : UInt64) → Option SystemFault
  spawn : Option SystemFault

namespace Host

/-- Pass, or report the refusal of one stage. -/
def stage (s : SetupStage) : Option SystemFault → Except WorkerFault Unit
  | none => .ok ()
  | some cause => .error (.setup s cause)

def applyPolicy (h : Host) : Policy → Except WorkerFault Unit
  | .fixedPriority priority => stage .fixedPriority (h.fixedPriority priority)
  | .deadline runtime limit period => stage .deadline (h.deadline runtime limit period)
  | .inherit => .ok ()

/-- Ask for everything in a setup: locked memory, then processors, then the scheduling class. -/
def apply (h : Host) (s : ThreadSetup) : Except WorkerFault Unit := do
  if s.lockMemory then stage .memoryLock h.lockMemory
  if !s.processors.isEmpty then stage .affinity (h.affinity s.processors)
  h.applyPolicy s.policy

/-- A host that grants whatever its machine has. -/
def ofProcessors (count : UInt64) : Host where
  lockMemory := none
  affinity ps := if ps.any (· < count) then none else some .invalidArgument
  fixedPriority _ := none
  deadline runtime _ _ := if runtime < 1024 then some .invalidArgument else none
  spawn := none

/-- A host that grants threads and nothing else. -/
def withoutPrivileges : Host where
  lockMemory := some .notPermitted
  affinity _ := some .notPermitted
  fixedPriority _ := some .notPermitted
  deadline _ _ _ := some .notPermitted
  spawn := none

/-- A setup that asks for nothing is granted everywhere. -/
@[simp] theorem apply_inherited (h : Host) : h.apply .inherited = .ok () := rfl

end Host

end CyclicBus
