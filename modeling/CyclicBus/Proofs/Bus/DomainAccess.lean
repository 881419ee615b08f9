import CyclicBus.Proofs.Bus.DomainBytes

/-!
# Access to the domain

That the domain check, the required size and the accessors of a topology agree on every domain
(`Fitted`), and which range a failed check names: the first that does not fit, in the order of the
table and input before output (`FirstMisfit`).
-/

namespace CyclicBus

namespace ByteRange

/-- Whether a range ends in the first `size` bytes. -/
def Within (r : ByteRange) (size : Nat) : Prop := r.offset.toNat + r.len.toNat ≤ size

/-- Some bytes are those of a memory from the offset of a range on, and as many as it has. -/
structure Shows (r : ByteRange) (memory bytes : List UInt8) : Prop where
  length : bytes.length = r.len.toNat
  getElem? : ∀ i < bytes.length, bytes[i]? = memory[r.offset.toNat + i]?

/-- A memory differs from another in the bytes of a range only, which are the given ones. -/
structure Replaces (r : ByteRange) (bytes memory result : List UInt8) : Prop where
  length : result.length = memory.length
  getElem? : ∀ i, result[i]? = if r.Covers i then bytes[i - r.offset.toNat]? else memory[i]?

theorem slice?_of_fits {r : ByteRange} {memory : List UInt8} (h : r.fits memory.length = true) :
    ∃ bytes, r.slice? memory = some bytes ∧ r.Shows memory bytes := by
  obtain ⟨-, hle⟩ := (fits_iff _ _).1 h
  refine ⟨_, if_pos h, ?_, fun i hi => ?_⟩
  · rw [List.length_take, List.length_drop]
    omega
  · rw [List.length_take] at hi
    rw [List.getElem?_take_of_lt (by omega), List.getElem?_drop]

theorem fits_of_slice? {r : ByteRange} {memory bytes : List UInt8}
    (h : r.slice? memory = some bytes) : r.fits memory.length = true := by
  unfold slice? at h
  split at h
  · assumption
  · cases h

theorem splice?_of_fits {r : ByteRange} {bytes memory : List UInt8}
    (h : r.fits memory.length = true) (hlength : bytes.length = r.len.toNat) :
    ∃ result, r.splice? bytes memory = some result ∧ r.Replaces bytes memory result :=
  ⟨_, (splice?_eq_some_iff _ _ _ _).2 ⟨h, hlength, rfl⟩, length_overwrite_of_fits h hlength,
    getElem?_overwrite h hlength⟩

end ByteRange

namespace Device

theorem Sound.fits_iff_within {d : Device} (hd : d.Sound) (direction : Direction) (size : Nat) :
    (d.range direction).fits size = true ↔ (d.range direction).Within size := by
  rw [ByteRange.fits_iff]
  exact and_iff_right (hd.bounded direction)

end Device

namespace Topology

variable {t : Topology}

/-- Every accessor reaches the bytes of the range that it is for, in a given memory. -/
structure Reaches (t : Topology) (memory : List UInt8) : Prop where
  input : ∀ k d, t.devices[k]? = some d →
    ∃ bytes, t.input? k memory = some bytes ∧ d.input.Shows memory bytes
  output : ∀ k d, t.devices[k]? = some d →
    ∃ bytes, t.output? k memory = some bytes ∧ d.output.Shows memory bytes
  putOutput : ∀ k d, t.devices[k]? = some d → ∀ bytes, bytes.length = d.output.len.toNat →
    ∃ result, t.putOutput? k bytes memory = some result ∧ d.output.Replaces bytes memory result

/-- The first range of a table that does not end in the first `size` bytes: that of device `k` in
one direction. -/
structure FirstMisfit (devices : List Device) (size k : Nat) (d : Device) (direction : Direction) :
    Prop where
  device : devices[k]? = some d
  misfit : ¬ (d.range direction).Within size
  before : ∀ e ∈ devices.take k, ∀ direction, (e.range direction).Within size
  inputFirst : direction = .output → d.input.Within size

/-- What the check of a domain size means. -/
structure Fitted (t : Topology) (size : Nat) : Prop where
  requiredSize : t.checkDomain size = .ok () ↔ t.requiredSize.toNat ≤ size
  accessors : ∀ memory : List UInt8, memory.length = size →
    (t.checkDomain size = .ok () ↔ t.Reaches memory)
  misfit : ∀ v, t.checkDomain size = .error v ↔ ∃ k d direction,
    FirstMisfit t.devices size k d direction ∧
      v = .rangeOutOfDomain k direction (d.range direction).offset.toNat
        (d.range direction).len.toNat size

/-! ## The first misfit -/

/-- No table has two first misfits. -/
theorem FirstMisfit.unique {devices : List Device} {size k k' : Nat} {d d' : Device}
    {direction direction' : Direction} (h : FirstMisfit devices size k d direction)
    (h' : FirstMisfit devices size k' d' direction') :
    k = k' ∧ d = d' ∧ direction = direction' := by
  have hk : k = k' := by
    by_contra hne
    rcases Nat.lt_or_gt_of_ne hne with hlt | hlt
    · have hd := h.device
      rw [← List.getElem?_take_of_lt hlt] at hd
      exact h.misfit (h'.before d (List.mem_of_getElem? hd) direction)
    · have hd' := h'.device
      rw [← List.getElem?_take_of_lt hlt] at hd'
      exact h'.misfit (h.before d' (List.mem_of_getElem? hd') direction')
  subst hk
  obtain rfl : d = d' := Option.some.inj (h.device.symm.trans h'.device)
  refine ⟨rfl, rfl, ?_⟩
  cases direction <;> cases direction'
  · rfl
  · exact absurd (h'.inputFirst rfl) h.misfit
  · exact absurd (h.inputFirst rfl) h'.misfit
  · rfl

/-- A check of sound devices that fails stops at their first misfit, and names it by its place in
the table. -/
theorem exists_firstMisfit {size index : Nat} {devices : List Device} {v : Violation}
    (hsound : ∀ d ∈ devices, d.Sound) (h : checkDomainFrom size index devices = .error v) :
    ∃ k d direction, FirstMisfit devices size k d direction ∧
      v = misfit size (index + k) direction (d.range direction) := by
  induction devices generalizing index with
  | nil => cases h
  | cons e rest ih =>
    rw [List.forall_mem_cons] at hsound
    rcases checkDomainFrom_cons size index e rest with
      ⟨he, hrest⟩ | ⟨direction, hbad, hfirst, herror⟩
    · rw [hrest] at h
      obtain ⟨k, d, direction, hmisfit, rfl⟩ := ih hsound.2 h
      refine ⟨k + 1, d, direction, ⟨hmisfit.device, hmisfit.misfit, ?_, hmisfit.inputFirst⟩, ?_⟩
      · rw [List.take_succ_cons, List.forall_mem_cons]
        exact ⟨fun direction => (hsound.1.fits_iff_within direction size).1 (he direction),
          hmisfit.before⟩
      · rw [Nat.add_assoc, Nat.add_comm 1 k]
    · rw [herror] at h
      cases h
      refine ⟨0, e, direction, ⟨rfl, fun hwithin => ?_, nofun, fun ho => ?_⟩, rfl⟩
      · rw [(hsound.1.fits_iff_within direction size).2 hwithin] at hbad
        cases hbad
      · exact (hsound.1.fits_iff_within .input size).1 (hfirst ho)

theorem checkDomain_eq_ok_iff (size : Nat) :
    t.checkDomain size = .ok () ↔
      ∀ d ∈ t.devices, ∀ direction, (d.range direction).fits size = true := by
  constructor
  · exact fits_of_checkDomainFrom
  · intro hfits
    cases h : t.checkDomain size with
    | ok => rfl
    | error v =>
      obtain ⟨k, d, direction, hmisfit, -⟩ := exists_firstMisfit t.acceptable.sound h
      have hd := List.mem_of_getElem? hmisfit.device
      exact absurd (((t.acceptable.sound d hd).fits_iff_within direction size).1
        (hfits d hd direction)) hmisfit.misfit

theorem checkDomain_eq_error_iff (size : Nat) (v : Violation) :
    t.checkDomain size = .error v ↔ ∃ k d direction,
      FirstMisfit t.devices size k d direction ∧
        v = misfit size k direction (d.range direction) := by
  have hforward : ∀ w, t.checkDomain size = .error w → ∃ k d direction,
      FirstMisfit t.devices size k d direction ∧
        w = misfit size k direction (d.range direction) := by
    intro w hw
    simpa only [Nat.zero_add] using exists_firstMisfit t.acceptable.sound hw
  refine ⟨hforward v, ?_⟩
  rintro ⟨k, d, direction, hmisfit, rfl⟩
  cases h : t.checkDomain size with
  | ok =>
    have hd := List.mem_of_getElem? hmisfit.device
    exact absurd (((t.acceptable.sound d hd).fits_iff_within direction size).1
      ((checkDomain_eq_ok_iff size).1 h d hd direction)) hmisfit.misfit
  | error w =>
    obtain ⟨k', d', direction', hmisfit', rfl⟩ := hforward w h
    obtain ⟨rfl, rfl, rfl⟩ := hmisfit.unique hmisfit'
    rfl

/-! ## Accessors -/

theorem reaches_iff (memory : List UInt8) :
    t.Reaches memory ↔
      ∀ d ∈ t.devices, ∀ direction, (d.range direction).fits memory.length = true := by
  constructor
  · intro h d hd direction
    obtain ⟨k, hk⟩ := List.mem_iff_getElem?.1 hd
    cases direction with
    | input =>
      obtain ⟨bytes, hbytes, -⟩ := h.input k d hk
      rw [input?, device?, hk] at hbytes
      exact ByteRange.fits_of_slice? hbytes
    | output =>
      obtain ⟨bytes, hbytes, -⟩ := h.output k d hk
      rw [output?, device?, hk] at hbytes
      exact ByteRange.fits_of_slice? hbytes
  · intro hfits
    refine ⟨fun k d hk => ?_, fun k d hk => ?_, fun k d hk bytes hlength => ?_⟩
    · rw [input?, device?, hk]
      exact ByteRange.slice?_of_fits (hfits d (List.mem_of_getElem? hk) .input)
    · rw [output?, device?, hk]
      exact ByteRange.slice?_of_fits (hfits d (List.mem_of_getElem? hk) .output)
    · rw [putOutput?, device?, hk]
      exact ByteRange.splice?_of_fits (hfits d (List.mem_of_getElem? hk) .output) hlength

/-! ## Tables and domains -/

theorem fitted (t : Topology) (size : Nat) : t.Fitted size where
  requiredSize := by
    constructor
    · exact requiredSize_le
    · intro h
      exact (checkDomain_eq_ok_iff size).2 fun d hd direction => fits_of_requiredSize hd direction h
  accessors := by
    rintro memory rfl
    rw [checkDomain_eq_ok_iff, reaches_iff]
  misfit := checkDomain_eq_error_iff size

/-- **The checks of a device table.** It becomes a topology, of just these devices, if and only if
it is acceptable. On every domain the check of a topology passes just if the required size is there,
and just if all accessors reach their ranges; otherwise it names the first misfit. -/
theorem acceptable_and_fitted :
    (∀ devices : List Device, ((∃ t, ofDevices devices = .ok t) ↔ Acceptable devices) ∧
      ∀ t, ofDevices devices = .ok t → t.devices = devices) ∧
    ∀ (t : Topology) (size : Nat), t.Fitted size := by
  refine ⟨fun devices => ⟨exists_ofDevices_iff devices, fun t ht => ?_⟩, fitted⟩
  exact (ofDevices_eq_ok_iff devices t).1 ht

end Topology

end CyclicBus
