import CyclicBus.Bus.Topology

/-!
# Snapshots

What one cycle exchanged: its number, its application time, and the input and output bytes of each
device in index order.
-/

namespace CyclicBus

/-- The bytes of one device. -/
structure DeviceBytes where
  device : Nat
  bytes : List UInt8
  deriving DecidableEq, Repr

/-- The process data of one cycle. -/
structure Snapshot where
  cycle : UInt64
  appTime : UInt64
  inputs : List DeviceBytes
  outputs : List DeviceBytes
  deriving DecidableEq, Repr

namespace Snapshot

/-- Zeros for every device. -/
def ofTopology (t : Topology) : Snapshot where
  cycle := 0
  appTime := 0
  inputs := t.devices.mapIdx fun k d => ⟨k, List.replicate d.input.len.toNat 0⟩
  outputs := t.devices.mapIdx fun k d => ⟨k, List.replicate d.output.len.toNat 0⟩

/-- The input bytes of all devices in a row. -/
def inputBytes (s : Snapshot) : List UInt8 := s.inputs.flatMap (·.bytes)

/-- The output bytes of all devices in a row. -/
def outputBytes (s : Snapshot) : List UInt8 := s.outputs.flatMap (·.bytes)

def input? (s : Snapshot) (device : Nat) : Option (List UInt8) := (s.inputs[device]?).map (·.bytes)

def output? (s : Snapshot) (device : Nat) : Option (List UInt8) :=
  (s.outputs[device]?).map (·.bytes)

/-- Entries with new bytes: each takes what is read for it, if that has its length. -/
def refill (read : Nat → Option (List UInt8)) (entries : List DeviceBytes) : List DeviceBytes :=
  entries.map fun e =>
    match read e.device with
    | some bytes => if bytes.length = e.bytes.length then { e with bytes } else e
    | none => e

/-- The snapshot of a domain, in the shape of the one before. -/
def capture (s : Snapshot) (t : Topology) (domain : List UInt8) (cycle appTime : UInt64) :
    Snapshot where
  cycle
  appTime
  inputs := refill (fun k => t.input? k domain) s.inputs
  outputs := refill (fun k => t.output? k domain) s.outputs

end Snapshot

end CyclicBus
