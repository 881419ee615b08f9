import CyclicBus.Worker.Machine

/-!
# What happens to a body

A worker calls its body, and others may change it between two calls. `BodyCall` and `Happening` write
that down, so that a run of a body is a list. A `CallLog` is a body that does so itself.
-/

namespace CyclicBus

/-- A call that a worker makes of its body. -/
inductive BodyCall (R : Type) where
  | cycle (context : CycleContext) (readings : R)
  | overrun (context : CycleContext) (exec : UInt64)
  | window (context : CycleContext) (drained : Statistics.Window)

/-- A call of a worker, or a change from outside. -/
inductive Happening (C R : Type) where
  | call (c : BodyCall R)
  | outside (change : C)

def Happening.isCycle {C R : Type} : Happening C R → Bool
  | call (.cycle _ _) => true
  | _ => false

def Happening.isOverrun {C R : Type} : Happening C R → Bool
  | call (.overrun _ _) => true
  | _ => false

section

variable {B C R : Type} [CycleBody B R]

def BodyCall.on (b : B) : BodyCall R → B
  | cycle context readings => CycleBody.runCycle context readings b
  | overrun context exec => CycleBody.onOverrun context exec b
  | window context drained => CycleBody.onWindow context drained b

def Happening.on (act : C → B → B) (b : B) : Happening C R → B
  | call c => c.on b
  | outside change => act change b

def Happening.call? : Happening C R → Option (BodyCall R)
  | call c => some c
  | outside _ => none

end

/-- A body that only remembers its calls. -/
structure CallLog where
  calls : List (BodyCall Unit)

namespace CallLog

def empty : CallLog := ⟨[]⟩

instance : CycleBody CallLog Unit where
  runCycle context readings log := ⟨log.calls ++ [.cycle context readings]⟩
  onOverrun context exec log := ⟨log.calls ++ [.overrun context exec]⟩
  onWindow context drained log := ⟨log.calls ++ [.window context drained]⟩

end CallLog

end CyclicBus
