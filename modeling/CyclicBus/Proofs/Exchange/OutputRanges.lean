import CyclicBus.Bus.SimulatedMaster
import CyclicBus.Proofs.Bus.DomainBytes
import CyclicBus.Proofs.Exchange.HeldOutputs

/-!
# The output ranges of the domain

The output step writes the held outputs device by device, and ranges of two devices may overlap.
`applyOutputs_shows_held`: in every reachable state each byte of an output range shows what is held
for its device, unless the range of a later device covers it. What carries it is that held outputs
always have the lengths of their devices (`Shaped`), so that in a domain of the required size every
write takes place.
-/

namespace CyclicBus

/-- A master that shows the domain memory that it was given. -/
class KeepsDomain (M : Type) [MasterSession M] : Prop where
  domain_setDomain (memory : List UInt8) (m : M) :
    MasterSession.domain (MasterSession.setDomain memory m) = memory

instance : KeepsDomain ScriptedMaster := ⟨fun _ _ => rfl⟩

instance : KeepsDomain SimulatedMaster := ⟨fun _ _ => rfl⟩

/-! ## Writing the outputs -/

namespace Topology

variable {t : Topology} {size : Nat}

/-- The domain after the outputs of one device. -/
def write (t : Topology) (memory : List UInt8) (e : List UInt8 × Nat) : List UInt8 :=
  (t.putOutput? e.2 e.1 memory).getD memory

/-- Outputs of the right length for a device whose range fits. -/
structure Takes (t : Topology) (size : Nat) (e : List UInt8 × Nat) (d : Device) : Prop where
  device : t.devices[e.2]? = some d
  length : e.1.length = d.output.len.toNat
  fits : d.output.fits size = true

variable {memory : List UInt8} (hm : memory.length = size)

include hm

theorem write_eq {e : List UInt8 × Nat} {d : Device} (h : t.Takes size e d) :
    t.write memory e = ByteRange.overwrite d.output.offset.toNat e.1 memory := by
  rw [write, getD_putOutput? h.device h.length, hm, if_pos h.fits]

theorem length_write {e : List UInt8 × Nat} {d : Device} (h : t.Takes size e d) :
    (t.write memory e).length = size := by
  rw [write_eq hm h, ByteRange.length_overwrite_of_fits (by rw [hm]; exact h.fits) h.length, hm]

theorem getElem?_write {e : List UInt8 × Nat} {d : Device} (h : t.Takes size e d) (i : Nat) :
    (t.write memory e)[i]? =
      if d.output.Covers i then e.1[i - d.output.offset.toNat]? else memory[i]? := by
  rw [write_eq hm h, ByteRange.getElem?_overwrite (by rw [hm]; exact h.fits) h.length]

theorem length_writes {es : List (List UInt8 × Nat)} (h : ∀ e ∈ es, ∃ d, t.Takes size e d) :
    (es.foldl t.write memory).length = size := by
  induction es generalizing memory with
  | nil => exact hm
  | cons e es ih =>
    obtain ⟨d, hd⟩ := h e List.mem_cons_self
    exact ih (length_write hm hd) fun e' he => h e' (List.mem_cons_of_mem _ he)

/-- A byte that no range covers stays as it is. -/
theorem getElem?_writes_of_free {es : List (List UInt8 × Nat)} {i : Nat}
    (h : ∀ e ∈ es, ∃ d, t.Takes size e d ∧ ¬ d.output.Covers i) :
    (es.foldl t.write memory)[i]? = memory[i]? := by
  induction es generalizing memory with
  | nil => rfl
  | cons e es ih =>
    obtain ⟨d, hd, hfree⟩ := h e List.mem_cons_self
    have hrest := ih (length_write hm hd) fun e' he => h e' (List.mem_cons_of_mem _ he)
    rw [List.foldl_cons, hrest, getElem?_write hm hd, if_neg hfree]

end Topology

section Writes

variable {t : Topology} {held : List (List UInt8)} (shape : held.map List.length = t.outputLengths)
  {size : Nat} (hsize : t.requiredSize.toNat ≤ size)

include shape hsize

theorem Topology.takes_of_shape {k : Nat} {bytes : List UInt8} (hb : held[k]? = some bytes) :
    ∃ d, t.Takes size (bytes, k) d := by
  have hlength := congrArg (·[k]?) shape
  unfold outputLengths at hlength
  simp only [List.getElem?_map, hb, Option.map_some] at hlength
  obtain ⟨d, hd, heq⟩ := Option.map_eq_some_iff.1 hlength.symm
  exact ⟨d, hd, heq.symm, fits_of_requiredSize (List.mem_of_getElem? hd) .output hsize⟩

/-- **What the outputs leave in the domain**: a byte of a device, unless a later device covers it. -/
theorem Exchange.getElem?_writeOutputs {k : Nat} {d : Device} {bytes : List UInt8}
    (hd : t.devices[k]? = some d) (hb : held[k]? = some bytes) {domain : List UInt8}
    (hdomain : domain.length = size) {i : Nat} (hi : i < bytes.length)
    (hfree : ∀ j e, k < j → t.devices[j]? = some e →
      ¬ e.output.Covers (d.output.offset.toNat + i)) :
    (writeOutputs t held domain)[d.output.offset.toNat + i]? = bytes[i]? := by
  have htakes : ∀ e ∈ held.zipIdx, ∃ d, t.Takes size e d :=
    fun e he => t.takes_of_shape shape hsize (List.mem_zipIdx_iff_getElem?.1 he)
  -- the devices before it, the device itself, and those after it
  obtain ⟨hlt, hget⟩ := List.getElem?_eq_some_iff.1 hb
  have hsplit : held.zipIdx = held.zipIdx.take k ++ (bytes, k) :: held.zipIdx.drop (k + 1) := by
    have hk : k < held.zipIdx.length := by rwa [List.length_zipIdx]
    have hentry : held.zipIdx[k] = (bytes, k) := by
      rw [List.getElem_zipIdx, hget, Nat.zero_add]
    have happend := (List.take_append_drop k held.zipIdx).symm
    rwa [List.drop_eq_getElem_cons hk, hentry] at happend
  have hself : t.Takes size (bytes, k) d := by
    obtain ⟨d', hd'⟩ := t.takes_of_shape shape hsize hb
    cases hd'.device.symm.trans hd
    exact hd'
  have hbefore : ((held.zipIdx.take k).foldl t.write domain).length = size :=
    t.length_writes hdomain fun e he => htakes e (List.mem_of_mem_take he)
  have hafter : ∀ e ∈ held.zipIdx.drop (k + 1), ∃ d', t.Takes size e d' ∧
      ¬ d'.output.Covers (d.output.offset.toNat + i) := by
    intro e he
    obtain ⟨d', hd'⟩ := htakes e (List.mem_of_mem_drop he)
    obtain ⟨j, hj⟩ := List.mem_iff_getElem?.1 he
    rw [List.getElem?_drop, List.getElem?_zipIdx] at hj
    obtain ⟨_, -, rfl⟩ := Option.map_eq_some_iff.1 hj
    exact ⟨d', hd', hfree _ d' (by dsimp only; omega) hd'.device⟩
  have hcovers : d.output.Covers (d.output.offset.toNat + i) := by
    have := hself.length
    exact ⟨by omega, by dsimp only at this; omega⟩
  show (held.zipIdx.foldl t.write domain)[d.output.offset.toNat + i]? = _
  rw [hsplit, List.foldl_append, List.foldl_cons,
    t.getElem?_writes_of_free (t.length_write hbefore hself) hafter,
    t.getElem?_write hbefore hself, if_pos hcovers, Nat.add_sub_cancel_left]

theorem Exchange.length_writeOutputs {domain : List UInt8} (hdomain : domain.length = size) :
    (writeOutputs t held domain).length = size :=
  t.length_writes hdomain fun _ he =>
    t.takes_of_shape shape hsize (List.mem_zipIdx_iff_getElem?.1 he)

/-- A device whose output range meets no later one shows its outputs. -/
theorem Exchange.output?_writeOutputs {k : Nat} {d : Device} {bytes : List UInt8}
    (hd : t.devices[k]? = some d) (hb : held[k]? = some bytes) {domain : List UInt8}
    (hdomain : domain.length = size)
    (hapart : ∀ j e, k < j → t.devices[j]? = some e → d.output.Apart e.output) :
    t.output? k (writeOutputs t held domain) = some bytes := by
  obtain ⟨d', hself⟩ := t.takes_of_shape shape hsize hb
  cases hself.device.symm.trans hd
  have hlength : bytes.length = d.output.len.toNat := hself.length
  have hfits : d.output.fits (writeOutputs t held domain).length = true := by
    rw [length_writeOutputs shape hsize hdomain]
    exact hself.fits
  unfold Topology.output? Topology.device?
  rw [hd]
  refine ByteRange.slice?_of_getElem? hfits hlength fun i hi => ?_
  refine getElem?_writeOutputs shape hsize hd hb hdomain hi fun j e hj he => ?_
  exact hapart j e hj he _ ⟨by omega, by omega⟩

end Writes

/-! ## Held outputs keep their lengths -/

/-- The image and what a pipeline holds of it have the lengths of the devices. -/
structure Shaped {M : Type} (t : Topology) (p : Plant M) : Prop where
  topology : p.shared.topology = t
  lengths : p.shared.data.outputLengths = t.outputLengths
  image : p.shared.data.image.devices.map List.length = t.outputLengths
  held : ∀ x, p = .exchanging x → x.held.devices.map List.length = t.outputLengths

theorem Exchange.map_length_applyOutputs {M : Type} [MasterSession M] (x : Exchange M)
    (r : Readings) :
    (x.applyOutputs r).held.devices.map List.length = x.held.devices.map List.length := by
  show (if r.outputsFree then x.shared.data.image.refresh x.held else x.held).devices.map _ = _
  split
  · exact OutputImage.map_length_refresh _ _
  · rfl

theorem PlantRun.plant_call {M : Type} [MasterSession M] (r : PlantRun M) (c : PlantCall M) :
    (r.call c).plant = r.plant.call c := by
  unfold PlantRun.call
  split
  · split <;> rfl
  all_goals rfl

theorem ProcessData.length_of_accepted {p : ProcessData} {device : Nat} {bytes : List UInt8}
    (h : p.checkCommand device bytes = .ok ()) : p.outputLengths[device]? = some bytes.length := by
  unfold checkCommand at h
  cases hlength : p.outputLengths[device]? with
  | none =>
    rw [hlength] at h
    cases h
  | some expected =>
    rw [hlength] at h
    dsimp only at h
    split at h
    · rename_i heq
      rw [heq]
    · cases h

namespace Shaped

variable {M : Type} {t : Topology} {p : Plant M}

theorem fresh (t : Topology) (trace : Trace) :
    Shaped t (.resting (.ofTopology t trace) : Plant M) := by
  refine ⟨rfl, rfl, ?_, fun _ h => nomatch h⟩
  show (t.devices.map fun d => List.replicate d.output.len.toNat (0 : UInt8)).map List.length = _
  rw [List.map_map, Topology.outputLengths]
  congr 1
  funext d
  exact List.length_replicate

/-- A change of the image that keeps the lengths. -/
theorem mapData (h : Shaped t p) {f : ProcessData → ProcessData}
    (hlengths : (f p.shared.data).outputLengths = p.shared.data.outputLengths)
    (himage : (f p.shared.data).image.devices.map List.length =
      p.shared.data.image.devices.map List.length) : Shaped t (p.mapData f) := by
  cases p with
  | resting shared =>
    exact ⟨h.topology, hlengths.trans h.lengths, himage.trans h.image, fun _ h => nomatch h⟩
  | exchanging x =>
    refine ⟨h.topology, hlengths.trans h.lengths, himage.trans h.image, ?_⟩
    rintro _ ⟨⟩
    exact h.held x rfl

variable [MasterSession M]

theorem command (h : Shaped t p) (device : Nat) (bytes : List UInt8) :
    Shaped t (p.call (.command device bytes)) := by
  cases hcheck : p.shared.data.checkCommand device bytes with
  | error v =>
    have hsame : p.mapData (fun data => (data.command device bytes).2) = p :=
      Plant.mapData_of_same (congrArg Prod.snd (ProcessData.command_of_refused hcheck))
    show Shaped t (p.mapData fun data => (data.command device bytes).2)
    rwa [hsame]
  | ok =>
    have hput := ProcessData.command_of_accepted hcheck
    have hlength := ProcessData.length_of_accepted hcheck
    rw [h.lengths, ← h.image] at hlength
    obtain ⟨hlt, hget⟩ := List.getElem?_eq_some_iff.1 hlength
    refine h.mapData (f := fun data => (data.command device bytes).2) ?_ ?_
    · rw [hput]
    · rw [hput]
      show (p.shared.data.image.devices.set device bytes).map List.length = _
      rw [List.map_set, ← hget]
      exact List.set_getElem_self hlt

theorem zero (h : Shaped t p) : Shaped t (p.call .zero) := by
  refine h.mapData (f := ProcessData.zeroOutputs) rfl ?_
  show (p.shared.data.image.devices.map fun d => List.replicate d.length (0 : UInt8)).map
    List.length = _
  rw [List.map_map]
  congr 1
  funext d
  exact List.length_replicate

theorem cycle (h : Shaped t p) (cycle : UInt64) (r : Readings) :
    Shaped t (p.call (.cycle cycle r)) := by
  cases p with
  | resting shared => exact h
  | exchanging x =>
    -- of all parts of a cycle only the output step touches the held copy
    have hbefore := Exchange.outputFrame_beforeOutputs x cycle r
    have hafter := Exchange.outputFrame_afterOutputs
      ((x.beforeOutputs cycle r).applyOutputs r) cycle r
    refine ⟨?_, ?_, ?_, ?_⟩
    · exact (hafter.topology.trans hbefore.topology).trans h.topology
    · exact (hafter.outputLengths.trans hbefore.outputLengths).trans h.lengths
    · have himage : (x.execute cycle r).shared.data.image = x.shared.data.image :=
        hafter.image.trans hbefore.image
      show (x.execute cycle r).shared.data.image.devices.map List.length = _
      rw [himage]
      exact h.image
    · rintro _ ⟨⟩
      rw [Exchange.execute_eq, hafter.held, Exchange.map_length_applyOutputs, hbefore.held]
      exact h.held x rfl

theorem call (h : Shaped t p) (c : PlantCall M) : Shaped t (p.call c) := by
  cases c with
  | command device bytes => exact h.command device bytes
  | zero => exact h.zero
  | attach master config =>
    refine ⟨h.topology, h.lengths, h.image, ?_⟩
    rintro _ ⟨⟩
    exact h.image
  | detach => exact ⟨h.topology, h.lengths, h.image, fun _ h => nomatch h⟩
  | cycle cycle r => exact h.cycle cycle r

/-- Whatever the calls, and whoever else holds a part of the data meanwhile. -/
theorem calls {r : PlantRun M} (h : Shaped t r.plant) (cs : List (PlantCall M)) :
    Shaped t (r.calls cs).plant := by
  induction cs generalizing r with
  | nil => exact h
  | cons c cs ih =>
    refine ih ?_
    rw [PlantRun.plant_call]
    exact h.call c

end Shaped

/-! ## Every run -/

/-- **What the domain shows when it is queued**: the bytes held for every device, but for those in
the range of a later device. A device whose output range meets no later one shows all that is held
for it. -/
theorem applyOutputs_shows_held {M : Type} [MasterSession M] [KeepsDomain M] (t : Topology)
    (trace : Trace) (cs : List (PlantCall M)) (x : Exchange M)
    (reached : ((PlantRun.fresh t trace).calls cs).plant = .exchanging x) (cycle : UInt64)
    (r : Readings)
    (large : t.requiredSize.toNat ≤
      (MasterSession.domain (x.beforeOutputs cycle r).master).length) :
    let y := (x.beforeOutputs cycle r).applyOutputs r
    let domain := MasterSession.domain y.master
    x.execute cycle r = y.afterOutputs cycle r ∧
      ∀ k d, t.devices[k]? = some d → ∃ bytes,
        y.held.devices[k]? = some bytes ∧ bytes.length = d.output.len.toNat ∧
          (∀ i < bytes.length,
            (∀ j e, k < j → t.devices[j]? = some e →
              ¬ e.output.Covers (d.output.offset.toNat + i)) →
            domain[d.output.offset.toNat + i]? = bytes[i]?) ∧
          ((∀ j e, k < j → t.devices[j]? = some e → d.output.Apart e.output) →
            t.output? k domain = some bytes) := by
  intro y domain
  refine ⟨Exchange.execute_eq x cycle r, fun k d hd => ?_⟩
  have hframe := Exchange.outputFrame_beforeOutputs x cycle r
  have hshaped : Shaped t (.exchanging x : Plant M) := by
    rw [← reached]
    exact (Shaped.fresh t trace).calls cs
  have shape : y.held.devices.map List.length = t.outputLengths := by
    rw [Exchange.map_length_applyOutputs, hframe.held]
    exact hshaped.held x rfl
  have htopology : (x.beforeOutputs cycle r).shared.topology = t :=
    hframe.topology.trans hshaped.topology
  have hdomain : domain = Exchange.writeOutputs t y.held.devices
      (MasterSession.domain (x.beforeOutputs cycle r).master) := by
    rw [← htopology]
    exact KeepsDomain.domain_setDomain _ _
  have hlength := congrArg (·[k]?) shape
  unfold Topology.outputLengths at hlength
  simp only [List.getElem?_map, hd, Option.map_some] at hlength
  obtain ⟨bytes, hb, hbytes⟩ := Option.map_eq_some_iff.1 hlength
  refine ⟨bytes, hb, hbytes, fun i hi hfree => ?_, fun hapart => ?_⟩
  · rw [hdomain]
    exact Exchange.getElem?_writeOutputs shape large hd hb rfl hi hfree
  · rw [hdomain]
    exact Exchange.output?_writeOutputs shape large hd hb rfl hapart

/-- Two devices whose output ranges share a byte. -/
def Topology.overlapping : Topology :=
  ⟨[⟨"left", 0, 0, 1, 1, Device.standardAssignActivate, 0, ⟨0, 1⟩, ⟨1, 2⟩⟩,
      ⟨"right", 0, 1, 1, 1, Device.standardAssignActivate, 0, ⟨4, 1⟩, ⟨2, 2⟩⟩], rfl⟩

/-- Both devices are commanded while a pipeline is attached. -/
def commanded : List (PlantCall ScriptedMaster) :=
  [.attach (.ofDomainSize 8) (.unprivileged 1000), .command 0 [1, 2], .command 1 [3, 4]]

/-- Of two devices that share a byte the later one shows there. -/
theorem applyOutputs_shows_held_of_overlap :
    ∃ x, ((PlantRun.fresh .overlapping (.ofSink .null)).calls commanded).plant = .exchanging x ∧
      Topology.overlapping.requiredSize.toNat ≤
        (MasterSession.domain (x.beforeOutputs 0 (.still 0)).master).length ∧
      (let y := (x.beforeOutputs 0 (.still 0)).applyOutputs (.still 0)
      x.execute 0 (.still 0) = y.afterOutputs 0 (.still 0) ∧
        (∃ bytes, y.held.devices[1]? = some bytes ∧
          Topology.overlapping.output? 1 (MasterSession.domain y.master) = some bytes) ∧
        y.held.devices = [[1, 2], [3, 4]] ∧
        MasterSession.domain y.master = [0, 1, 3, 4, 0, 0, 0, 0]) := by
  refine ⟨_, rfl, by decide +kernel, ?_⟩
  obtain ⟨hexecute, hshown⟩ := applyOutputs_shows_held .overlapping (.ofSink .null) commanded _ rfl
    0 (.still 0) (by decide +kernel)
  obtain ⟨bytes, hb, -, -, hwhole⟩ := hshown 1 _ rfl
  have hlast : ∀ j e, 1 < j → Topology.overlapping.devices[j]? = some e → False := by
    intro j e hj he
    have := (List.getElem?_eq_some_iff.1 he).1
    change j < 2 at this
    omega
  exact ⟨hexecute, ⟨bytes, hb, hwhole fun j e hj he => (hlast j e hj he).elim⟩,
    by decide +kernel, by decide +kernel⟩

/-- An accepted topology does not keep the outputs of its devices apart. -/
theorem not_every_output_shown : ¬ ∀ (t : Topology) (trace : Trace)
    (cs : List (PlantCall ScriptedMaster)) (x : Exchange ScriptedMaster),
    ((PlantRun.fresh t trace).calls cs).plant = .exchanging x → ∀ cycle r,
    t.requiredSize.toNat ≤ (MasterSession.domain (x.beforeOutputs cycle r).master).length →
    let y := (x.beforeOutputs cycle r).applyOutputs r
    ∀ k bytes, y.held.devices[k]? = some bytes →
      t.output? k (MasterSession.domain y.master) = some bytes := by
  intro h
  have hleft := h .overlapping (.ofSink .null) commanded _ rfl 0 (.still 0) (by decide +kernel) 0
    [1, 2] (by decide +kernel)
  revert hleft
  decide +kernel

end CyclicBus
