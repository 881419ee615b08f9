import CyclicBus.ProcessData.Store

/-!
# Outputs as a last-writer map

An `OutputLedger` holds for each device the bytes that were commanded last, and nothing where none
were since all outputs were made zero. `Recorded t l p`: the output image of `p` shows the ledger
`l`. Accepted commands and zeroings keep it so (`Recorded.command`, `Recorded.zeroOutputs`), and
`devices_refresh` says when a held copy shows the image.
-/

namespace CyclicBus

/-- Whether a device exists and has as many output bytes. -/
def Topology.takes (t : Topology) (device : Nat) (bytes : List UInt8) : Bool :=
  (t.device? device).any fun d => bytes.length = d.output.len.toNat

theorem Topology.takes_iff (t : Topology) (device : Nat) (bytes : List UInt8) :
    t.takes device bytes = true ↔
      ∃ d, t.devices[device]? = some d ∧ bytes.length = d.output.len.toNat := by
  unfold takes device?
  rw [Option.any_eq_true]
  simp only [decide_eq_true_eq]

/-- The lengths of the outputs of a topology. -/
def Topology.outputLengths (t : Topology) : List Nat := t.devices.map fun d => d.output.len.toNat

/-- Two devices with two output bytes each. -/
def Topology.pair : Topology :=
  ⟨[⟨"left", 0, 0, 1, 1, Device.standardAssignActivate, 0, ⟨0, 1⟩, ⟨1, 2⟩⟩,
      ⟨"right", 0, 1, 1, 1, Device.standardAssignActivate, 0, ⟨4, 1⟩, ⟨5, 2⟩⟩], rfl⟩

/-- The output bytes last commanded, by device. -/
abbrev OutputLedger := Nat → Option (List UInt8)

namespace OutputLedger

def empty : OutputLedger := fun _ => none

/-- The last writer wins. -/
def command (l : OutputLedger) (device : Nat) (bytes : List UInt8) : OutputLedger :=
  fun k => if k = device then some bytes else l k

/-- The output bytes of a device: zeros where nothing was commanded. -/
def bytes (l : OutputLedger) (k : Nat) (d : Device) : List UInt8 :=
  (l k).getD (List.replicate d.output.len.toNat 0)

/-- The output bytes of all devices in index order. -/
def table (l : OutputLedger) (t : Topology) : List (List UInt8) := t.devices.mapIdx l.bytes

/-- Every device takes what it was commanded. -/
def Fits (l : OutputLedger) (t : Topology) : Prop :=
  ∀ k bytes, l k = some bytes → t.takes k bytes = true

/-- A domain in which each device whose output range fits shows its output bytes. Where ranges
overlap, the later device shows. -/
def write (l : OutputLedger) (t : Topology) (domain : List UInt8) : List UInt8 :=
  t.devices.zipIdx.foldl
    (fun memory h =>
      if h.1.output.fits domain.length then
        ByteRange.overwrite h.1.output.offset.toNat (l.bytes h.2 h.1) memory
      else memory)
    domain

variable {l : OutputLedger} {t : Topology}

theorem fits_empty (t : Topology) : empty.Fits t := fun _ _ h => nomatch h

theorem Fits.command (h : l.Fits t) {device : Nat} {written : List UInt8}
    (htakes : t.takes device written = true) : (l.command device written).Fits t := by
  intro k last hk
  unfold OutputLedger.command at hk
  split at hk
  · rename_i heq
    cases hk
    rw [heq]
    exact htakes
  · exact h k last hk

theorem length_bytes (h : l.Fits t) {k : Nat} {d : Device} (hd : t.devices[k]? = some d) :
    (l.bytes k d).length = d.output.len.toNat := by
  unfold bytes
  cases hk : l k with
  | none => exact List.length_replicate
  | some written =>
    have htakes := h k written hk
    simpa [Topology.takes, Topology.device?, hd] using htakes

theorem table_empty (t : Topology) :
    empty.table t = t.devices.map fun d => List.replicate d.output.len.toNat 0 :=
  List.mapIdx_eq_iff.2 fun k => by
    rw [List.getElem?_map]
    rfl

/-- What a device takes goes into its place in the table. -/
theorem table_command {device : Nat} {written : List UInt8}
    (h : t.takes device written = true) :
    (l.command device written).table t = (l.table t).set device written := by
  refine List.mapIdx_eq_iff.2 fun k => ?_
  rw [List.getElem?_set, table, List.length_mapIdx, List.getElem?_mapIdx]
  by_cases hk : device = k
  · subst hk
    rw [if_pos rfl]
    unfold Topology.takes Topology.device? at h
    cases hd : t.devices[device]? with
    | none => simp [hd] at h
    | some d =>
      have hlt := (List.getElem?_eq_some_iff.1 hd).1
      simp [hlt, bytes, command]
  · have hsame : (l.command device written).bytes k = l.bytes k := by
      unfold bytes command
      rw [if_neg (Ne.symm hk)]
    rw [if_neg hk, hsame]

theorem map_length_table (h : l.Fits t) :
    (l.table t).map List.length = t.devices.map fun d => d.output.len.toNat := by
  apply List.ext_getElem?
  intro k
  rw [List.getElem?_map, table, List.getElem?_mapIdx, List.getElem?_map]
  cases hd : t.devices[k]? with
  | none => rfl
  | some d => exact congrArg some (length_bytes h hd)

/-- Zeros for every output byte of the table are the table of the empty ledger. -/
theorem map_zero_table (h : l.Fits t) :
    (l.table t).map (fun d => List.replicate d.length 0) = empty.table t := by
  apply List.ext_getElem?
  intro k
  rw [List.getElem?_map, table, List.getElem?_mapIdx, table, List.getElem?_mapIdx]
  cases hd : t.devices[k]? with
  | none => rfl
  | some d =>
    show some (List.replicate (l.bytes k d).length (0 : UInt8)) = some (empty.bytes k d)
    rw [length_bytes h hd]
    rfl

end OutputLedger

/-! ## The image -/

namespace OutputImage

theorem isZero_zero (i : OutputImage) : i.zero.isZero = true := by
  simp [zero, isZero]

/-- A held copy keeps its shape. -/
theorem map_length_refresh (i held : OutputImage) :
    (i.refresh held).devices.map List.length = held.devices.map List.length := by
  unfold refresh
  split
  · rfl
  · refine List.ext_getElem? fun k => ?_
    rw [List.getElem?_map, List.getElem?_mapIdx, List.getElem?_map]
    cases held.devices[k]? with
    | none => rfl
    | some bytes =>
      rw [Option.map_some, Option.map_some, Option.map_some]
      congr 1
      split
      · split
        · assumption
        · rfl
      · rfl

/-- A held copy of the same shape, and current where its generation is, comes to show the image. -/
theorem devices_refresh {i held : OutputImage}
    (shape : held.devices.map List.length = i.devices.map List.length)
    (current : i.generation = held.generation → held.devices = i.devices) :
    (i.refresh held).devices = i.devices := by
  unfold refresh
  split
  · rename_i hgeneration
    exact current hgeneration
  · refine (List.mapIdx_eq_iff.2 fun k => ?_)
    have hlength := congrArg (·[k]?) shape
    simp only [List.getElem?_map] at hlength
    cases hi : i.devices[k]? with
    | none =>
      rw [hi] at hlength
      rw [Option.map_eq_none_iff.1 hlength]
      rfl
    | some source =>
      rw [hi] at hlength
      obtain ⟨bytes, hbytes, heq⟩ := Option.map_eq_some_iff.1 hlength
      rw [hbytes, Option.map_some]
      dsimp only
      rw [if_pos heq.symm]

end OutputImage

namespace ProcessData

variable {p : ProcessData} {device : Nat} {bytes : List UInt8}

theorem image_publish (p : ProcessData) (x : Snapshot) (latestFree subscribersFree : Bool) :
    (p.publish x latestFree subscribersFree).image = p.image := by
  cases latestFree <;> cases subscribersFree <;> rfl

theorem outputLengths_publish (p : ProcessData) (x : Snapshot)
    (latestFree subscribersFree : Bool) :
    (p.publish x latestFree subscribersFree).outputLengths = p.outputLengths := by
  cases latestFree <;> cases subscribersFree <;> rfl

theorem command_of_accepted (h : p.checkCommand device bytes = .ok ()) :
    p.command device bytes = (.ok (), { p with image := p.image.put device bytes }) := by
  rw [command, h]

theorem command_of_refused {v : Violation} (h : p.checkCommand device bytes = .error v) :
    p.command device bytes = (.error v, p) := by
  rw [command, h]

end ProcessData

/-- The outputs of a store are those of a ledger. -/
structure Recorded (t : Topology) (l : OutputLedger) (p : ProcessData) : Prop where
  outputLengths : p.outputLengths = t.devices.map fun d => d.output.len.toNat
  devices : p.image.devices = l.table t
  fits : l.Fits t

namespace Recorded

open OutputLedger

variable {t : Topology} {l : OutputLedger} {p : ProcessData}

theorem ofTopology (t : Topology) : Recorded t empty (.ofTopology t) :=
  ⟨rfl, (table_empty t).symm, fits_empty t⟩

theorem of_outputs (h : Recorded t l p) {q : ProcessData}
    (hlengths : q.outputLengths = p.outputLengths) (himage : q.image = p.image) :
    Recorded t l q :=
  ⟨hlengths.trans h.outputLengths, himage ▸ h.devices, h.fits⟩

/-- A command passes its check exactly if its device takes it. -/
theorem checkCommand_eq_ok_iff (h : Recorded t l p) (device : Nat) (bytes : List UInt8) :
    p.checkCommand device bytes = .ok () ↔ t.takes device bytes = true := by
  unfold ProcessData.checkCommand Topology.takes Topology.device?
  rw [h.outputLengths, List.getElem?_map]
  cases t.devices[device]? with
  | none => simp
  | some d =>
    rw [Option.map_some]
    dsimp only
    split <;> simp_all

theorem command (h : Recorded t l p) {device : Nat} {bytes : List UInt8}
    (hok : p.checkCommand device bytes = .ok ()) :
    Recorded t (l.command device bytes) { p with image := p.image.put device bytes } := by
  have htakes := (h.checkCommand_eq_ok_iff device bytes).1 hok
  refine ⟨h.outputLengths, ?_, h.fits.command htakes⟩
  show p.image.devices.set device bytes = _
  rw [h.devices, table_command htakes]

theorem zeroOutputs (h : Recorded t l p) : Recorded t empty p.zeroOutputs := by
  refine ⟨h.outputLengths, ?_, fits_empty t⟩
  show p.image.devices.map _ = _
  rw [h.devices, map_zero_table h.fits]

end Recorded

end CyclicBus
