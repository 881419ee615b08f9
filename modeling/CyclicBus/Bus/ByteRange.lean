import CyclicBus.Fault.Violation
import CyclicBus.Saturating

/-!
# Byte ranges

A range of bytes inside the domain memory of a master. `slice?` reads the bytes of a range and
`splice?` puts others in their place; both give nothing where the range does not fit.
`splice?_eq_some_iff` says when it fits, `length_of_splice?` that the memory keeps its size.
-/

namespace CyclicBus

/-- `len` bytes from `offset` on. -/
structure ByteRange where
  offset : UInt64
  len : UInt64
  deriving DecidableEq, Repr, Inhabited

namespace ByteRange

/-- The first place behind the range, if it is a word. -/
def stop? (r : ByteRange) : Option UInt64 := r.offset.add? r.len

/-- Whether a range lies in the first `size` bytes. -/
def fits (r : ByteRange) (size : Nat) : Bool :=
  match r.stop? with
  | some stop => stop.toNat ≤ size
  | none => false

def slice? (r : ByteRange) (memory : List UInt8) : Option (List UInt8) :=
  if r.fits memory.length then some ((memory.drop r.offset.toNat).take r.len.toNat) else none

/-- A memory with some bytes in place of others, from `offset` on. -/
def overwrite (offset : Nat) (bytes memory : List UInt8) : List UInt8 :=
  memory.take offset ++ bytes ++ memory.drop (offset + bytes.length)

/-- A memory with other bytes in a range, if the range fits and they are as many. -/
def splice? (r : ByteRange) (bytes memory : List UInt8) : Option (List UInt8) :=
  if r.fits memory.length && bytes.length == r.len.toNat then
    some (overwrite r.offset.toNat bytes memory)
  else none

theorem toNat_of_stop? {r : ByteRange} {stop : UInt64} (h : r.stop? = some stop) :
    stop.toNat = r.offset.toNat + r.len.toNat := UInt64.add?_eq_some_iff.1 h

theorem fits_iff (r : ByteRange) (size : Nat) :
    r.fits size ↔
      r.offset.toNat + r.len.toNat < UInt64.size ∧ r.offset.toNat + r.len.toNat ≤ size := by
  unfold fits
  cases h : r.stop? with
  | none =>
    have := UInt64.add?_eq_none_iff.1 h
    simp only [Bool.false_eq_true, false_iff]
    omega
  | some stop =>
    have := toNat_of_stop? h
    have := stop.toNat_lt_size
    simp only [decide_eq_true_eq]
    omega

theorem length_overwrite {offset : Nat} {bytes memory : List UInt8}
    (h : offset + bytes.length ≤ memory.length) :
    (overwrite offset bytes memory).length = memory.length := by
  simp only [overwrite, List.length_append, List.length_take, List.length_drop]
  omega

theorem splice?_eq_some_iff (r : ByteRange) (bytes memory result : List UInt8) :
    r.splice? bytes memory = some result ↔
      r.fits memory.length ∧ bytes.length = r.len.toNat ∧
        result = overwrite r.offset.toNat bytes memory := by
  unfold splice?
  split <;> rename_i h <;> simp only [Bool.and_eq_true, beq_iff_eq] at h
  · exact ⟨fun eq => ⟨h.1, h.2, (Option.some.inj eq).symm⟩, fun eq => congrArg some eq.2.2.symm⟩
  · exact ⟨fun eq => (nomatch eq), fun eq => absurd ⟨eq.1, eq.2.1⟩ h⟩

theorem length_of_splice? {r : ByteRange} {bytes memory result : List UInt8}
    (h : r.splice? bytes memory = some result) : result.length = memory.length := by
  obtain ⟨fit, len, rfl⟩ := (splice?_eq_some_iff ..).1 h
  obtain ⟨_, le⟩ := (fits_iff ..).1 fit
  exact length_overwrite (by omega)

end ByteRange

end CyclicBus
