import CyclicBus.Proofs.Bus.DeviceTable
import Mathlib.Data.UInt

/-!
# Bytes of the domain

The domain byte by byte: what `overwrite` changes and what it leaves, and that the required size of
an accepted topology is the least one that all its ranges fit (`fits_of_requiredSize`,
`requiredSize_le`).
-/

namespace CyclicBus

namespace ByteRange

/-- Whether a byte of the domain belongs to a range. -/
def Covers (r : ByteRange) (i : Nat) : Prop :=
  r.offset.toNat ≤ i ∧ i < r.offset.toNat + r.len.toNat

instance (r : ByteRange) (i : Nat) : Decidable (r.Covers i) :=
  inferInstanceAs (Decidable (_ ∧ _))

/-- Two ranges without a common byte. -/
def Apart (r s : ByteRange) : Prop := ∀ i, r.Covers i → ¬ s.Covers i

theorem length_overwrite_of_fits {r : ByteRange} {bytes memory : List UInt8}
    (hfits : r.fits memory.length = true) (hlength : bytes.length = r.len.toNat) :
    (overwrite r.offset.toNat bytes memory).length = memory.length := by
  obtain ⟨-, hle⟩ := (fits_iff _ _).1 hfits
  exact length_overwrite (by omega)

/-- Where bytes are put in a range that fits, they are there and nothing else changes. -/
theorem getElem?_overwrite {r : ByteRange} {bytes memory : List UInt8}
    (hfits : r.fits memory.length = true) (hlength : bytes.length = r.len.toNat) (i : Nat) :
    (overwrite r.offset.toNat bytes memory)[i]? =
      if r.Covers i then bytes[i - r.offset.toNat]? else memory[i]? := by
  obtain ⟨-, hle⟩ := (fits_iff _ _).1 hfits
  have htake : (memory.take r.offset.toNat).length = r.offset.toNat := by
    rw [List.length_take]
    omega
  unfold overwrite
  by_cases hbefore : i < r.offset.toNat
  · rw [if_neg fun h => by have := h.1; omega, List.append_assoc,
      List.getElem?_append_left (by omega), List.getElem?_take_of_lt hbefore]
  by_cases hinside : i < r.offset.toNat + r.len.toNat
  · rw [if_pos ⟨by omega, hinside⟩, List.getElem?_append_left (by rw [List.length_append]; omega),
      List.getElem?_append_right (by omega), htake]
  · rw [if_neg fun h => hinside h.2, List.getElem?_append_right (by rw [List.length_append]; omega),
      List.length_append, htake, List.getElem?_drop]
    congr 1
    omega

/-- A range that shows some bytes one by one is read as these bytes. -/
theorem slice?_of_getElem? {r : ByteRange} {bytes memory : List UInt8}
    (hfits : r.fits memory.length = true) (hlength : bytes.length = r.len.toNat)
    (h : ∀ i < bytes.length, memory[r.offset.toNat + i]? = bytes[i]?) :
    r.slice? memory = some bytes := by
  rw [slice?, if_pos hfits]
  congr 1
  apply List.ext_getElem?
  intro i
  rw [List.getElem?_take]
  split
  · rw [List.getElem?_drop]
    exact h i (by omega)
  · rw [List.getElem?_eq_none (by omega)]

end ByteRange

namespace Topology

variable {t : Topology}

/-- Output bytes of the right length are put where their range fits. -/
theorem getD_putOutput? {k : Nat} {d : Device} {bytes : List UInt8}
    (hd : t.devices[k]? = some d) (hlength : bytes.length = d.output.len.toNat)
    (memory : List UInt8) :
    (t.putOutput? k bytes memory).getD memory =
      if d.output.fits memory.length then
        ByteRange.overwrite d.output.offset.toNat bytes memory
      else memory := by
  unfold putOutput? device? ByteRange.splice?
  rw [hd, hlength]
  cases hfits : d.output.fits memory.length <;> simp [hfits]

/-! ## Accepted ranges -/

theorem isSome_stop? {d : Device} (hd : d ∈ t.devices) (direction : Direction) :
    (d.range direction).stop?.isSome = true := by
  have hbounded := (t.acceptable.sound d hd).bounded direction
  rw [ByteRange.stop?, UInt64.add?, if_pos hbounded]
  rfl

/-- The required size is at least what it was, and at least the end of every range. -/
theorem le_requiredSize (devices : List Device) (size : UInt64) :
    let required := devices.foldl
      (fun size d => max (max size (d.input.stop?.getD 0)) (d.output.stop?.getD 0)) size
    size.toNat ≤ required.toNat ∧
      ∀ d ∈ devices, ∀ direction, ((d.range direction).stop?.getD 0).toNat ≤ required.toNat := by
  induction devices generalizing size with
  | nil => exact ⟨Nat.le_refl _, fun _ h => nomatch h⟩
  | cons e rest ih =>
    obtain ⟨hstart, hrest⟩ :=
      ih (max (max size (e.input.stop?.getD 0)) (e.output.stop?.getD 0))
    rw [UInt64.toNat_max, UInt64.toNat_max] at hstart
    dsimp only [List.foldl_cons]
    refine ⟨by omega, fun d hd direction => ?_⟩
    rcases List.mem_cons.1 hd with rfl | hd
    · cases direction with
      | input =>
        show (d.input.stop?.getD 0).toNat ≤ _
        omega
      | output =>
        show (d.output.stop?.getD 0).toNat ≤ _
        omega
    · exact hrest d hd direction

/-- Every range fits a domain of the required size. -/
theorem fits_of_requiredSize {d : Device} (hd : d ∈ t.devices) (direction : Direction) {size : Nat}
    (hsize : t.requiredSize.toNat ≤ size) : (d.range direction).fits size = true := by
  obtain ⟨stop, hstop⟩ := Option.isSome_iff_exists.1 (isSome_stop? hd direction)
  have hle := (le_requiredSize t.devices 0).2 d hd direction
  rw [hstop] at hle
  unfold ByteRange.fits
  rw [hstop]
  exact decide_eq_true (Nat.le_trans hle hsize)

/-- The check of a domain goes past a device whose ranges fit, and otherwise stops at its first
range that does not. -/
theorem checkDomainFrom_cons (size index : Nat) (e : Device) (rest : List Device) :
    (∀ direction, (e.range direction).fits size = true) ∧
        checkDomainFrom size index (e :: rest) = checkDomainFrom size (index + 1) rest ∨
      ∃ direction, (e.range direction).fits size = false ∧
        (direction = .output → e.input.fits size = true) ∧
        checkDomainFrom size index (e :: rest) =
          .error (misfit size index direction (e.range direction)) := by
  rw [checkDomainFrom]
  cases hinput : e.input.fits size with
  | false => exact .inr ⟨.input, hinput, nofun, rfl⟩
  | true =>
    cases houtput : e.output.fits size with
    | false => exact .inr ⟨.output, houtput, fun _ => rfl, rfl⟩
    | true =>
      refine .inl ⟨?_, rfl⟩
      rintro (_ | _)
      · exact hinput
      · exact houtput

/-- Devices that pass the check of a domain have ranges that fit it. -/
theorem fits_of_checkDomainFrom {size index : Nat} {devices : List Device}
    (h : checkDomainFrom size index devices = .ok ()) :
    ∀ d ∈ devices, ∀ direction, (d.range direction).fits size = true := by
  induction devices generalizing index with
  | nil => exact fun _ hd => nomatch hd
  | cons e rest ih =>
    rcases checkDomainFrom_cons size index e rest with ⟨he, hrest⟩ | ⟨_, -, -, herror⟩
    · rw [hrest] at h
      exact List.forall_mem_cons.2 ⟨he, ih h⟩
    · rw [herror] at h
      cases h

theorem stop_le_of_fits {r : ByteRange} {size : Nat} (h : r.fits size = true) :
    (r.stop?.getD 0).toNat ≤ size := by
  unfold ByteRange.fits at h
  cases hstop : r.stop? with
  | none => exact Nat.zero_le _
  | some stop =>
    rw [hstop] at h
    exact of_decide_eq_true h

/-- The required size is no more than any size that all ranges fit. -/
theorem requiredSize_le_of_fits (devices : List Device) {size : Nat} (start : UInt64)
    (hstart : start.toNat ≤ size)
    (h : ∀ d ∈ devices, ∀ direction, (d.range direction).fits size = true) :
    (devices.foldl (fun size d => max (max size (d.input.stop?.getD 0)) (d.output.stop?.getD 0))
      start).toNat ≤ size := by
  induction devices generalizing start with
  | nil => exact hstart
  | cons e rest ih =>
    have hinput := stop_le_of_fits (h e List.mem_cons_self .input)
    have houtput := stop_le_of_fits (h e List.mem_cons_self .output)
    rw [List.foldl_cons]
    refine ih _ ?_ fun d hd => h d (List.mem_cons_of_mem e hd)
    rw [UInt64.toNat_max, UInt64.toNat_max]
    exact Nat.max_le.2 ⟨Nat.max_le.2 ⟨hstart, hinput⟩, houtput⟩

theorem requiredSize_le {size : Nat} (h : t.checkDomain size = .ok ()) :
    t.requiredSize.toNat ≤ size :=
  requiredSize_le_of_fits t.devices 0 (Nat.zero_le size) (fits_of_checkDomainFrom h)

end Topology

end CyclicBus
