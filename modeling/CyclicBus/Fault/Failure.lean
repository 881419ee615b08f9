import CyclicBus.Fault.Lifecycle
import CyclicBus.Fault.Realtime
import CyclicBus.Fault.System
import CyclicBus.Fault.Violation

/-!
# Failures

The sum of every fault that a user of the library can meet, with a category for each.
`Failure.message` puts the category's words before the fault's own; `Failure.source` is that fault's
message where one lies beneath.
-/

namespace CyclicBus

/-- Any fault, by origin. -/
inductive Failure where
  | rt (fault : RtFault)
  | lifecycle (fault : LifecycleFault)
  | validation (violation : Violation)
  | io (fault : SystemFault)
  | config (text : String)
  | other (text : String)
  deriving DecidableEq, Repr

inductive Failure.Category where
  | rt
  | lifecycle
  | config
  | io
  | validation
  | other
  deriving DecidableEq, Repr

namespace Failure

def Category.code : Category → Nat
  | rt => 0
  | lifecycle => 1
  | config => 3
  | io => 4
  | validation => 5
  | other => 255

def Category.name : Category → String
  | rt => "RT"
  | lifecycle => "Lifecycle"
  | config => "Config"
  | io => "IO"
  | validation => "Validation"
  | other => "Other"

/-- The category of a failure is its origin. -/
def category : Failure → Category
  | rt _ => .rt
  | lifecycle _ => .lifecycle
  | validation _ => .validation
  | io _ => .io
  | config _ => .config
  | other _ => .other

def message : Failure → String
  | rt f => "RT error: " ++ f.message
  | lifecycle f => "Lifecycle error: " ++ f.message
  | validation v => "Validation error: " ++ v.message
  | io f => "I/O error: " ++ f.message
  | config text => "Configuration error: " ++ text
  | other text => text

/-- The message of the fault beneath, if there is one. -/
def source : Failure → Option String
  | rt f => some f.message
  | lifecycle f => some f.message
  | validation v => some v.message
  | io f => some f.message
  | config _ => none
  | other _ => none

def name : Failure → String
  | rt _ => "RT"
  | lifecycle _ => "Lifecycle"
  | validation _ => "Validation"
  | io _ => "Io"
  | config _ => "Config"
  | other _ => "Other"

end Failure

end CyclicBus
