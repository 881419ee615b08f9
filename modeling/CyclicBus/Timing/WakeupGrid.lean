import CyclicBus.Saturating

/-!
# Wakeup grid

The absolute instants at which a worker wakes: one period apart, each derived from the one before
and never from the time the last cycle ended. `advance` consumes the next instant.
-/

namespace CyclicBus

/-- A sequence of wakeups, seen from its next member. -/
structure WakeupGrid where
  period : UInt64
  next : UInt64
  index : UInt64
  deriving DecidableEq, Repr

namespace WakeupGrid

/-- The grid whose first wakeup is one period after `origin`; a zero period counts as one. -/
def starting (origin period : UInt64) : WakeupGrid :=
  let period := max period 1
  ⟨period, origin.satAdd period, 0⟩

/-- The grid after its next wakeup. -/
def advance (g : WakeupGrid) : WakeupGrid :=
  { g with next := g.next.satAdd g.period, index := g.index.satAdd 1 }

@[simp] theorem period_advance (g : WakeupGrid) : g.advance.period = g.period := rfl

@[simp] theorem next_advance (g : WakeupGrid) : g.advance.next = g.next.satAdd g.period := rfl

@[simp] theorem index_advance (g : WakeupGrid) : g.advance.index = g.index.satAdd 1 := rfl

end WakeupGrid

end CyclicBus
