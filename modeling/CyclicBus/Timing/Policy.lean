import CyclicBus.Fault.Violation

/-!
# Scheduling policies

The scheduling class that a worker thread asks for. `validate_eq_ok_iff` says which parameters are
accepted.
-/

namespace CyclicBus

/-- The scheduling class of a worker thread. -/
inductive Policy where
  /-- First in, first out, at a fixed priority. -/
  | fixedPriority (priority : UInt8)
  /-- A budget of run time within a relative deadline, replenished each period (nanoseconds). -/
  | deadline (runtime deadline period : UInt64)
  | inherit
  deriving DecidableEq, Repr

namespace Policy

def leastPriority : UInt8 := 1

def greatestPriority : UInt8 := 99

/-- The class asked for where nothing is said. -/
def standard : Policy := .fixedPriority 80

instance : Inhabited Policy := ⟨standard⟩

/-- Check the parameters: a priority has its bounds, a budget is positive and nested in its deadline
and its period. -/
def validate : Policy → Except Violation Unit
  | fixedPriority priority =>
    if leastPriority ≤ priority ∧ priority ≤ greatestPriority then .ok ()
    else .error (.numberOutOfRange "policy.priority" priority.toNat leastPriority.toNat
      greatestPriority.toNat)
  | deadline runtime limit period =>
    if runtime = 0 then
      .error (.numberOutOfRange "policy.runtime_ns" 0 1 limit.toNat)
    else if runtime ≤ limit ∧ limit ≤ period then .ok ()
    else .error (.constraint
      ("deadline budget must satisfy 0 < runtime <= deadline <= period, " ++
        s!"got {runtime}/{limit}/{period}"))
  | inherit => .ok ()

/-- Whether the class needs privileges. -/
def isRealTime : Policy → Bool
  | inherit => false
  | _ => true

def label : Policy → String
  | fixedPriority priority => s!"fifo({priority})"
  | deadline runtime limit period => s!"deadline({runtime}/{limit}/{period})"
  | inherit => "inherit"

/-- The parameters that `validate` accepts. -/
def Valid : Policy → Prop
  | fixedPriority priority => 1 ≤ priority.toNat ∧ priority.toNat ≤ 99
  | deadline runtime limit period =>
    0 < runtime.toNat ∧ runtime.toNat ≤ limit.toNat ∧ limit.toNat ≤ period.toNat
  | inherit => True

theorem validate_eq_ok_iff (p : Policy) : p.validate = .ok () ↔ p.Valid := by
  cases p with
  | fixedPriority priority =>
    simp [validate, Valid, leastPriority, greatestPriority, UInt8.le_iff_toNat_le]
  | deadline runtime limit period =>
    by_cases h : runtime = 0
    · simp [validate, Valid, h]
    · have : 0 < runtime.toNat := by
        rcases Nat.eq_zero_or_pos runtime.toNat with h0 | h0
        · exact absurd (UInt64.toNat_inj.1 (by simpa using h0)) h
        · exact h0
      simp [validate, Valid, h, this, UInt64.le_iff_toNat_le]
  | inherit => simp [validate, Valid]

end Policy

end CyclicBus
