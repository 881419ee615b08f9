import CyclicBus.Bus.MasterSession
import CyclicBus.Bus.Topology

/-!
# Simulated master

A master session without a bus. Every device loops its output bytes back into its input range. The
reference device has a clock of its own: the hardware clock with a fixed offset and a drift, read
through a register that the last sent frame latched. Faults can be injected at any time.
-/

namespace CyclicBus

/-- A bus in memory. -/
structure SimulatedMaster where
  topology : Topology
  domain : List UInt8
  active : Bool
  reference : Option UInt64
  appTime : UInt64
  /-- Offset of the reference clock in nanoseconds. -/
  offset : Int64
  /-- Drift of the reference clock in parts per thousand million. -/
  drift : Int64
  slaved : Bool
  latched : Option UInt32
  queued : Bool
  health : DomainHealth
  linkUp : Bool
  degraded : Bool
  failActivation : Bool
  referenceAvailable : Bool
  frames : UInt64
  activations : UInt64
  deactivations : UInt64

namespace SimulatedMaster

/-- A bus that is not active, with a domain of zeros and no fault. -/
def ofDomainSize (topology : Topology) (size : Nat) (offset drift : Int64) : SimulatedMaster where
  topology
  domain := List.replicate size 0
  active := false
  reference := none
  appTime := 0
  offset
  drift
  slaved := false
  latched := none
  queued := false
  health := .none
  linkUp := true
  degraded := false
  failActivation := false
  referenceAvailable := true
  frames := 0
  activations := 0
  deactivations := 0

/-- Working counter increments of one device. -/
def countsPerDevice : Nat := 3

/-- The working counter of a complete exchange, held at the largest word. -/
def expectedCounter (m : SimulatedMaster) : UInt16 :=
  .ofNatClamp (m.topology.size * countsPerDevice)

/-- The number of devices as a word, held at the largest. -/
def deviceCount (m : SimulatedMaster) : UInt16 := .ofNatClamp m.topology.size

/-- The drift of a clock that reads `hardware`, toward zero. -/
def driftAt (m : SimulatedMaster) (hardware : UInt64) : Int :=
  (hardware.toNat * m.drift.toInt).tdiv 1000000000

def referenceNow (m : SimulatedMaster) (now : UInt64) : UInt32 :=
  if m.slaved then m.appTime.toUInt32
  else .ofInt (now.toNat + m.driftAt now + m.offset.toInt)

/-- The domain after one device has looped its outputs back: as many bytes as both ranges have. -/
def loopDevice (domain : List UInt8) (d : Device) : List UInt8 :=
  match d.input.slice? domain, d.output.slice? domain with
  | some input, some output =>
    ByteRange.overwrite d.input.offset.toNat (output.take input.length) domain
  | _, _ => domain

/-- The domain after all devices have looped their outputs back, in index order. -/
def loopback (m : SimulatedMaster) : List UInt8 := m.topology.devices.foldl loopDevice m.domain

/-- Evaluate an exchange: nothing moves while the bus is not active or the link is down. -/
def exchange (m : SimulatedMaster) : SimulatedMaster :=
  let expected := m.expectedCounter
  if !m.active || !m.linkUp then { m with health := ⟨0, expected, .zero⟩ }
  else
    { m with
      domain := m.loopback
      health :=
        if m.degraded then ⟨.ofNat (expected.toNat - 1), expected, .incomplete⟩
        else .complete expected }

def busHealth (m : SimulatedMaster) : MasterHealth :=
  if !m.linkUp then .down else ⟨m.deviceCount, if m.active then 0x08 else 0x01, true⟩

/-- Read the register of the reference clock. -/
def readReference (m : SimulatedMaster) (now : UInt64) : Except MasterFault UInt32 :=
  if m.reference.isNone then .error .noReferenceClock
  else if !m.linkUp then .error .linkDown
  else if !m.referenceAvailable then .error .noReferenceClock
  else .ok (m.latched.getD (m.referenceNow now))

instance : MasterSession SimulatedMaster where
  selectReference device m :=
    if m.topology.size ≤ device.toNat then (.error .noReferenceClock, m)
    else (.ok (), { m with reference := some device })
  activate m :=
    if m.failActivation then (.error (.rejected "activate" (-5)), m)
    else (.ok (), { m with active := true, activations := m.activations + 1 })
  activationRecords m :=
    [⟨.debug, "Simulated master activated", [("domain_size", .number m.domain.length)]⟩]
  deactivate m :=
    if m.active then { m with active := false, deactivations := m.deactivations + 1 } else m
  receive m := m
  send now m :=
    if m.queued then
      { m with queued := false, latched := some (m.referenceNow now), frames := m.frames + 1 }
    else m
  processDomain := exchange
  queueDomain m := { m with queued := true }
  domainHealth m := (m.health, m)
  masterHealth m := (m.busHealth, m)
  setApplicationTime appTime m := { m with appTime }
  referenceTime now m := (m.readReference now, m)
  syncReference m := { m with slaved := true }
  syncSlaves m := m
  domain m := m.domain
  setDomain memory m := { m with domain := memory }

end SimulatedMaster

end CyclicBus
