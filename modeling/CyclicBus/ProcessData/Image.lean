import CyclicBus.Bus.Topology

/-!
# Output image

The commanded output bytes of every device, with a generation that moves at every write. Whoever
holds a copy compares generations to learn whether it is current.
-/

namespace CyclicBus

/-- Commanded output bytes in index order. -/
structure OutputImage where
  devices : List (List UInt8)
  generation : UInt64
  deriving DecidableEq, Repr

namespace OutputImage

/-- Zeros for every device. -/
def ofTopology (t : Topology) : OutputImage :=
  ⟨t.devices.map fun d => List.replicate d.output.len.toNat 0, 0⟩

def isZero (i : OutputImage) : Bool := i.devices.all fun d => d.all (· == 0)

def put (i : OutputImage) (device : Nat) (bytes : List UInt8) : OutputImage :=
  ⟨i.devices.set device bytes, i.generation + 1⟩

def zero (i : OutputImage) : OutputImage :=
  ⟨i.devices.map fun d => List.replicate d.length 0, i.generation + 1⟩

/-- A held copy brought up to date: unless its generation is current, each device whose length
agrees takes the bytes of the image. -/
def refresh (i : OutputImage) (held : OutputImage) : OutputImage :=
  if i.generation = held.generation then held
  else
    ⟨held.devices.mapIdx fun k bytes =>
        match i.devices[k]? with
        | some source => if source.length = bytes.length then source else bytes
        | none => bytes,
      i.generation⟩

@[simp] theorem generation_put (i : OutputImage) (device : Nat) (bytes : List UInt8) :
    (i.put device bytes).generation = i.generation + 1 := rfl

@[simp] theorem generation_zero (i : OutputImage) : i.zero.generation = i.generation + 1 := rfl

@[simp] theorem generation_refresh (i held : OutputImage) :
    (i.refresh held).generation = i.generation := by
  unfold refresh
  split <;> simp_all

end OutputImage

end CyclicBus
