import CyclicBus.Timing.Policy

/-!
# Thread setup

What a worker thread asks of the operating system before its first wait: a scheduling class, a set
of processors, locked memory, and the clock of its wakeups.
-/

namespace CyclicBus

/-- The clock of absolute wakeups and of application time. -/
inductive ClockSource where
  | monotonic
  | realtime
  deriving DecidableEq, Repr, Inhabited

def ClockSource.name : ClockSource → String
  | monotonic => "monotonic"
  | realtime => "realtime"

/-- What a worker thread asks for. -/
structure ThreadSetup where
  policy : Policy
  /-- The processors that the thread may run on; none means no restriction. -/
  processors : List UInt64
  lockMemory : Bool
  clock : ClockSource
  deriving DecidableEq, Repr

namespace ThreadSetup

def greatestProcessor : UInt64 := 1023

/-- A fixed priority and locked memory. -/
def standard : ThreadSetup := ⟨.standard, [], true, .monotonic⟩

/-- Nothing beyond what the starting thread has. -/
def inherited : ThreadSetup := ⟨.inherit, [], false, .monotonic⟩

/-- Whether anything is asked for that the starting thread may not have. -/
def asksForMore (s : ThreadSetup) : Bool :=
  s.policy.isRealTime || s.lockMemory || !s.processors.isEmpty

/-- Check processor numbers in order, given those already seen: each within bounds, then none
twice. -/
def checkProcessors : (seen : List UInt64) → List UInt64 → Except Violation Unit
  | _, [] => .ok ()
  | seen, p :: rest =>
    if greatestProcessor < p then
      .error (.numberOutOfRange "cpu_affinity" p.toNat 0 greatestProcessor.toNat)
    else if p ∈ seen then .error (.notUnique "cpu_affinity" (toString p))
    else checkProcessors (p :: seen) rest

/-- Check the policy, then the processors. -/
def validate (s : ThreadSetup) : Except Violation Unit := do
  s.policy.validate
  checkProcessors [] s.processors

/-- Processor numbers are accepted exactly if all are within bounds and none occurs twice. -/
theorem checkProcessors_eq_ok_iff (seen ps : List UInt64) :
    checkProcessors seen ps = .ok () ↔
      (∀ p ∈ ps, p.toNat ≤ 1023) ∧ ps.Nodup ∧ ∀ p ∈ ps, p ∉ seen := by
  induction ps generalizing seen with
  | nil => simp [checkProcessors]
  | cons p rest ih =>
    have bound : greatestProcessor < p ↔ ¬ p.toNat ≤ 1023 := by
      rw [UInt64.lt_iff_toNat_lt]
      simp [greatestProcessor]
    grind [checkProcessors]

end ThreadSetup

end CyclicBus
