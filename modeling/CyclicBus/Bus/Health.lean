import CyclicBus.Trace.Event

/-!
# Health of domain and master

What a master session says about the last exchange and about the devices behind it, and why it may
refuse a request.
-/

namespace CyclicBus

/-- A refusal of the master session. -/
inductive MasterFault where
  | rejected (operation : String) (code : Int)
  | noReferenceClock
  | linkDown
  deriving DecidableEq, Repr

def MasterFault.message : MasterFault → String
  | rejected operation code => s!"{operation} rejected by master (code {code})"
  | noReferenceClock => "No reference clock available"
  | linkDown => "Master link down"

def MasterFault.name : MasterFault → String
  | rejected .. => "Rejected"
  | noReferenceClock => "NoReferenceClock"
  | linkDown => "LinkDown"

/-- How far the working counter of an exchange came. -/
inductive Completeness where
  | zero
  | incomplete
  | complete
  deriving DecidableEq, Repr

def Completeness.name : Completeness → String
  | zero => "Zero"
  | incomplete => "Incomplete"
  | complete => "Complete"

/-- The outcome of the last exchange of a domain. -/
structure DomainHealth where
  workingCounter : UInt16
  expected : UInt16
  state : Completeness
  deriving DecidableEq, Repr

namespace DomainHealth

def none : DomainHealth := ⟨0, 0, .zero⟩

def complete (expected : UInt16) : DomainHealth := ⟨expected, expected, .complete⟩

/-- Whether some device did not take part. -/
def isDegraded (h : DomainHealth) : Bool :=
  h.state ≠ .complete || h.workingCounter < h.expected

@[simp] theorem isDegraded_complete (expected : UInt16) :
    (complete expected).isDegraded = false := by
  simp [isDegraded, complete]

end DomainHealth

/-- The state of the master and of the devices that answer it. -/
structure MasterHealth where
  slaves : UInt16
  alStates : UInt8
  linkUp : Bool
  deriving DecidableEq, Repr

namespace MasterHealth

/-- No device and no link. -/
def down : MasterHealth := ⟨0, 0, false⟩

def label (h : MasterHealth) : String :=
  s!"{h.slaves} slave(s), AL states 0x{Text.hexUpper 2 h.alStates.toNat}, link {linkName h.linkUp}"

end MasterHealth

end CyclicBus
