import CyclicBus.Bus.MasterSession

/-!
# Scripted master

A master session that keeps a journal of every call and answers questions from a script. Reference
readings come from a queue, then from a fallback.
-/

namespace CyclicBus

/-- A call of the master session. -/
inductive MasterCall where
  | selectReferenceClock (device : UInt64)
  | activate
  | deactivate
  | receive
  | send
  | processDomain
  | queueDomain
  | domainHealth
  | masterHealth
  | setApplicationTime (appTime : UInt64)
  | referenceClockTime
  | syncReferenceClock
  | syncSlaveClocks
  deriving DecidableEq, Repr

def MasterCall.label : MasterCall → String
  | selectReferenceClock device => s!"SelectReferenceClock({device})"
  | activate => "Activate"
  | deactivate => "Deactivate"
  | receive => "Receive"
  | send => "Send"
  | processDomain => "ProcessDomain"
  | queueDomain => "QueueDomain"
  | domainHealth => "DomainHealth"
  | masterHealth => "MasterHealth"
  | setApplicationTime appTime => s!"SetApplicationTime({appTime})"
  | referenceClockTime => "ReferenceClockTime"
  | syncReferenceClock => "SyncReferenceClock"
  | syncSlaveClocks => "SyncSlaveClocks"

/-- A master that follows a script. -/
structure ScriptedMaster where
  journal : Array MasterCall
  readings : List (Except MasterFault UInt32)
  fallback : Option UInt32
  domainHealth : DomainHealth
  masterHealth : MasterHealth
  activationFault : Option MasterFault
  selectionFault : Option MasterFault
  domain : List UInt8

namespace ScriptedMaster

/-- A healthy master with one device and a domain of zeros. -/
def ofDomainSize (size : Nat) : ScriptedMaster where
  journal := #[]
  readings := []
  fallback := some 0
  domainHealth := .complete 1
  masterHealth := ⟨1, 0x08, true⟩
  activationFault := none
  selectionFault := none
  domain := List.replicate size 0

def note (call : MasterCall) (m : ScriptedMaster) : ScriptedMaster :=
  { m with journal := m.journal.push call }

/-- Pass, or fail with the fault of the script. -/
def outcome : Option MasterFault → Except MasterFault Unit
  | some fault => .error fault
  | none => .ok ()

/-- The reading to come: the head of the queue, then the fallback. -/
def nextReading (m : ScriptedMaster) : Except MasterFault UInt32 :=
  match m.readings with
  | reading :: _ => reading
  | [] =>
    match m.fallback with
    | some reading => .ok reading
    | none => .error .noReferenceClock

instance : MasterSession ScriptedMaster where
  selectReference device m := (outcome m.selectionFault, m.note (.selectReferenceClock device))
  activate m := (outcome m.activationFault, m.note .activate)
  activationRecords _ := []
  deactivate := note .deactivate
  receive := note .receive
  send _ := note .send
  processDomain := note .processDomain
  queueDomain := note .queueDomain
  domainHealth m := (m.domainHealth, m.note .domainHealth)
  masterHealth m := (m.masterHealth, m.note .masterHealth)
  setApplicationTime appTime := note (.setApplicationTime appTime)
  referenceTime _ m :=
    (m.nextReading, { m.note .referenceClockTime with readings := m.readings.tail })
  syncReference := note .syncReferenceClock
  syncSlaves := note .syncSlaveClocks
  domain m := m.domain
  setDomain memory m := { m with domain := memory }

end ScriptedMaster

end CyclicBus
