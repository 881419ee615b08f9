/-!
# Real-time fault codes

Faults that the real-time path can name without building a text. `ofCode?_code` says that each fault
reads back from its code.
-/

namespace CyclicBus

/-- A fault of the real-time path. -/
inductive RtFault where
  | pipelineFault
  | timingViolation
  | setupFailed
  | invalidConfig
  | resourceUnavailable
  deriving DecidableEq, Repr

namespace RtFault

def code : RtFault → Nat
  | pipelineFault => 1
  | timingViolation => 2
  | setupFailed => 3
  | invalidConfig => 4
  | resourceUnavailable => 5

def ofCode? : Nat → Option RtFault
  | 1 => some pipelineFault
  | 2 => some timingViolation
  | 3 => some setupFailed
  | 4 => some invalidConfig
  | 5 => some resourceUnavailable
  | _ => none

@[simp] theorem ofCode?_code (f : RtFault) : ofCode? f.code = some f := by
  cases f <;> rfl

def message : RtFault → String
  | pipelineFault => "Cycle worker lost"
  | timingViolation => "Real-time timing violation"
  | setupFailed => "Failed to apply real-time setup"
  | invalidConfig => "Invalid configuration parameter"
  | resourceUnavailable => "RT resource unavailable"

def name : RtFault → String
  | pipelineFault => "PipelineFault"
  | timingViolation => "TimingViolation"
  | setupFailed => "RTSetupFailed"
  | invalidConfig => "InvalidConfig"
  | resourceUnavailable => "ResourceUnavailable"

end RtFault

end CyclicBus
