import CyclicBus.Config.Cycle
import CyclicBus.Trace.Sink

/-!
# Configuration document

A cycle section, a device table, the name of a sink, and a domain size. `validate` accepts a
document with the topology of its device table.
-/

namespace CyclicBus

structure Document where
  cycle : CycleConfig
  devices : List Device
  sinkName : String
  /-- Size of the master's domain; what the devices require if not given. -/
  domainSize : Option UInt64
  deriving DecidableEq, Repr

namespace Document

/-- The sink where nothing is said. -/
def standardSink : String := "log"

/-- The sink that the document names. -/
def sink (d : Document) : Except Violation Sink :=
  match Sink.ofName d.sinkName with
  | .ok sink => .ok sink
  | .error (.unknown name) => .error (.invalidEnum "observability.sink" name "log, null")
  | .error fault => .error (.constraint fault.message)

/-- Check a document: device table, cycle section, declared domain size, sink. -/
def validate (d : Document) : Except Violation Topology := do
  let topology ← Topology.ofDevices d.devices
  d.cycle.validateWith topology
  match d.domainSize with
  | some size => topology.checkDomain size.toNat
  | none => pure ()
  let _ ← d.sink
  return topology

/-- The domain size of a run: as declared, else what the topology requires. -/
def effectiveSize (d : Document) (t : Topology) : UInt64 := d.domainSize.getD t.requiredSize

end Document

end CyclicBus
