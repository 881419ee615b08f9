import CyclicBus.Bus.ByteRange
import CyclicBus.Text.Blank

/-!
# Topology

The devices of a bus in index order, with the byte ranges that each owns in the domain. A `Topology`
carries the proof that its table was accepted: names and positions are unique, no range is empty and
none overflows. Ranges of two devices may overlap.
-/

namespace CyclicBus

/-- One device of the bus. -/
structure Device where
  name : String
  stationAlias : UInt16
  position : UInt16
  vendorId : UInt32
  productCode : UInt32
  assignActivate : UInt16
  /-- Shift of the first sync signal in nanoseconds. -/
  sync0Shift : UInt32
  input : ByteRange
  output : ByteRange
  deriving DecidableEq, Repr, Inhabited

namespace Device

/-- The activation word of a device where nothing is said. -/
def standardAssignActivate : UInt16 := 0x0300

def range (d : Device) : Direction → ByteRange
  | .input => d.input
  | .output => d.output

/-- Check that a range is not empty and does not overflow. -/
def checkRange (d : Device) (direction : Direction) : Except Violation Unit :=
  let r := d.range direction
  if r.len = 0 then
    .error (.constraint ("device '" ++ d.name ++ "' " ++ direction.name ++
      " range must not be empty"))
  else if r.stop?.isNone then
    .error (.constraint ("device '" ++ d.name ++ "' " ++ direction.name ++ " range overflows"))
  else .ok ()

/-- Check a device against those before it in the table: its name, its place on the bus, and its
ranges, input first. -/
def check (before : List Device) (d : Device) : Except Violation Unit := do
  if Text.isBlank d.name then throw (.required "devices[].name")
  if before.any (·.name == d.name) then throw (.notUnique "devices[].name" d.name)
  if before.any fun e => e.stationAlias == d.stationAlias && e.position == d.position then
    throw (.notUnique "devices[].position" s!"{d.stationAlias}:{d.position}")
  d.checkRange .input
  d.checkRange .output

end Device

namespace Topology

/-- Check the rest of a table, given the devices before it. -/
def checkFrom (before : List Device) : List Device → Except Violation Unit
  | [] => .ok ()
  | d :: rest => do
    d.check before
    checkFrom (before ++ [d]) rest

/-- Check a device table: there is a device, and each passes in its place. -/
def check (devices : List Device) : Except Violation Unit :=
  if devices.isEmpty then .error (.required "devices") else checkFrom [] devices

end Topology

/-- An accepted device table. -/
structure Topology where
  devices : List Device
  accepted : Topology.check devices = .ok ()

namespace Topology

instance : Repr Topology := ⟨fun t p => reprPrec t.devices p⟩

/-- Accept a device table, or say what is wrong with it. -/
def ofDevices (devices : List Device) : Except Violation Topology :=
  match h : check devices with
  | .ok () => .ok ⟨devices, h⟩
  | .error v => .error v

def size (t : Topology) : Nat := t.devices.length

def device? (t : Topology) (index : Nat) : Option Device := t.devices[index]?

/-- The least domain size at which every range fits. -/
def requiredSize (t : Topology) : UInt64 :=
  t.devices.foldl
    (fun size d => max (max size (d.input.stop?.getD 0)) (d.output.stop?.getD 0)) 0

/-- The lengths of one direction added up in index order, unless an addition overflows. -/
def total? (t : Topology) (direction : Direction) : Option UInt64 :=
  t.devices.foldlM (fun n d => n.add? (d.range direction).len) 0

/-- The violation of a range that does not fit a domain. -/
def misfit (size : Nat) (index : Nat) (direction : Direction) (r : ByteRange) : Violation :=
  .rangeOutOfDomain index direction r.offset.toNat r.len.toNat size

/-- Check devices against a domain size, from a given index on. -/
def checkDomainFrom (size : Nat) (index : Nat) : List Device → Except Violation Unit
  | [] => .ok ()
  | d :: rest =>
    if !d.input.fits size then .error (misfit size index .input d.input)
    else if !d.output.fits size then .error (misfit size index .output d.output)
    else checkDomainFrom size (index + 1) rest

/-- Check that every range fits a domain of a given size. -/
def checkDomain (t : Topology) (size : Nat) : Except Violation Unit :=
  checkDomainFrom size 0 t.devices

def input? (t : Topology) (index : Nat) (domain : List UInt8) : Option (List UInt8) :=
  (t.device? index).bind fun d => d.input.slice? domain

def output? (t : Topology) (index : Nat) (domain : List UInt8) : Option (List UInt8) :=
  (t.device? index).bind fun d => d.output.slice? domain

def putOutput? (t : Topology) (index : Nat) (bytes domain : List UInt8) : Option (List UInt8) :=
  (t.device? index).bind fun d => d.output.splice? bytes domain

theorem ofDevices_eq_ok_iff (devices : List Device) (t : Topology) :
    ofDevices devices = .ok t ↔ t.devices = devices := by
  unfold ofDevices
  constructor
  · split <;> intro h
    · cases h; rfl
    · cases h
  · rintro rfl
    split
    · rfl
    · rename_i v h
      rw [t.accepted] at h
      cases h

end Topology

end CyclicBus
