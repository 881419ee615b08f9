import CyclicBus.Bus.Topology
import Mathlib.Data.List.Nodup

/-!
# Device tables

Which tables `Topology.ofDevices` accepts. A table is checked device by device, each against those
before it, so the walk is read with a prefix that has already passed: `checkFrom_eq_ok_iff`. From
the start of the table this is `Acceptable`, which says nothing of any order.
-/

namespace CyclicBus

namespace ByteRange

theorem len_eq_zero_iff (r : ByteRange) : r.len = 0 ↔ ¬ 0 < r.len.toNat := by
  rw [Nat.pos_iff_ne_zero, not_not, ← UInt64.toNat_zero, UInt64.toNat_inj]

theorem isNone_stop?_iff (r : ByteRange) :
    r.stop?.isNone = true ↔ ¬ r.offset.toNat + r.len.toNat < UInt64.size := by
  rw [Option.isNone_iff_eq_none, stop?, UInt64.add?_eq_none_iff, Nat.not_lt]

end ByteRange

namespace Device

/-- Where a device is on the bus. -/
def place (d : Device) : UInt16 × UInt16 := (d.stationAlias, d.position)

/-- Two devices with neither the name nor the place in common. -/
def Differs (e d : Device) : Prop := e.name ≠ d.name ∧ e.place ≠ d.place

/-- A device that is acceptable by itself: its name is not blank, its ranges are not empty and end
at a word. -/
structure Sound (d : Device) : Prop where
  named : ∃ c ∈ d.name.toList, Text.isSpace c = false
  nonempty : ∀ direction, 0 < (d.range direction).len.toNat
  bounded : ∀ direction,
    (d.range direction).offset.toNat + (d.range direction).len.toNat < UInt64.size

theorem checkRange_eq_ok_iff (d : Device) (direction : Direction) :
    d.checkRange direction = .ok () ↔ 0 < (d.range direction).len.toNat ∧
      (d.range direction).offset.toNat + (d.range direction).len.toNat < UInt64.size := by
  unfold checkRange
  dsimp only
  rw [guard_eq_ok_iff, guard_eq_ok_iff, ByteRange.len_eq_zero_iff,
    ByteRange.isNone_stop?_iff, not_not, not_not]
  exact and_congr_right fun _ => and_iff_left rfl

theorem isBlank_name_iff (d : Device) :
    Text.isBlank d.name = true ↔ ¬ ∃ c ∈ d.name.toList, Text.isSpace c = false := by
  simp [Text.isBlank]

theorem any_name_iff (before : List Device) (d : Device) :
    before.any (·.name == d.name) = true ↔ ¬ ∀ e ∈ before, e.name ≠ d.name := by
  simp

theorem any_place_iff (before : List Device) (d : Device) :
    before.any (fun e => e.stationAlias == d.stationAlias && e.position == d.position) = true ↔
      ¬ ∀ e ∈ before, e.place ≠ d.place := by
  simp [place]

/-- A device passes in its place if it is sound and differs from every device before it. -/
theorem check_eq_ok_iff (before : List Device) (d : Device) :
    d.check before = .ok () ↔ d.Sound ∧ ∀ e ∈ before, e.Differs d := by
  change (if _ then Except.error _ else if _ then Except.error _ else if _ then Except.error _ else
    do d.checkRange .input; d.checkRange .output) = _ ↔ _
  rw [guard_eq_ok_iff, guard_eq_ok_iff, guard_eq_ok_iff, seq_eq_ok_iff, checkRange_eq_ok_iff,
    checkRange_eq_ok_iff, isBlank_name_iff, any_name_iff, any_place_iff, not_not, not_not, not_not]
  constructor
  · rintro ⟨hnamed, hnames, hplaces, ⟨hin, hin'⟩, hout, hout'⟩
    refine ⟨⟨hnamed, ?_, ?_⟩, fun e he => ⟨hnames e he, hplaces e he⟩⟩
    · rintro (_ | _)
      · exact hin
      · exact hout
    · rintro (_ | _)
      · exact hin'
      · exact hout'
  · rintro ⟨hd, hdiffer⟩
    exact ⟨hd.named, fun e he => (hdiffer e he).1, fun e he => (hdiffer e he).2,
      ⟨hd.nonempty .input, hd.bounded .input⟩, hd.nonempty .output, hd.bounded .output⟩

end Device

namespace Topology

/-- The rest of a table passes if its devices are sound, differ from those before and differ among
themselves. -/
theorem checkFrom_eq_ok_iff (before rest : List Device) :
    checkFrom before rest = .ok () ↔
      (∀ d ∈ rest, d.Sound ∧ ∀ e ∈ before, e.Differs d) ∧ rest.Pairwise Device.Differs := by
  induction rest generalizing before with
  | nil => simp [checkFrom]
  | cons d rest ih =>
    unfold checkFrom
    rw [seq_eq_ok_iff, Device.check_eq_ok_iff, ih]
    simp only [List.forall_mem_cons, List.pairwise_cons, List.forall_mem_append,
      List.mem_singleton, forall_eq]
    constructor
    · rintro ⟨hd, hrest, hpairs⟩
      exact ⟨⟨hd, fun e he => ⟨(hrest e he).1, (hrest e he).2.1⟩⟩,
        fun e he => (hrest e he).2.2, hpairs⟩
    · rintro ⟨⟨hd, hrest⟩, hhead, hpairs⟩
      exact ⟨hd, fun e he => ⟨(hrest e he).1, (hrest e he).2, hhead e he⟩, hpairs⟩

/-- What is asked of a device table. -/
structure Acceptable (devices : List Device) : Prop where
  nonempty : devices ≠ []
  sound : ∀ d ∈ devices, d.Sound
  names : (devices.map (·.name)).Nodup
  places : (devices.map Device.place).Nodup

theorem check_eq_ok_iff (devices : List Device) : check devices = .ok () ↔ Acceptable devices := by
  have hdiffer : devices.Pairwise Device.Differs ↔
      (devices.map (·.name)).Nodup ∧ (devices.map Device.place).Nodup := by
    simp only [List.Nodup, List.pairwise_map, ← List.pairwise_and_iff]
    rfl
  have hempty : ¬devices.isEmpty = true ↔ devices ≠ [] := by
    rw [List.isEmpty_iff]
  unfold check
  rw [guard_eq_ok_iff, checkFrom_eq_ok_iff, hempty, hdiffer]
  constructor
  · rintro ⟨hnonempty, hsound, hnames, hplaces⟩
    exact ⟨hnonempty, fun d hd => (hsound d hd).1, hnames, hplaces⟩
  · intro h
    exact ⟨h.nonempty, fun d hd => ⟨h.sound d hd, nofun⟩, h.names, h.places⟩

theorem acceptable (t : Topology) : Acceptable t.devices := (check_eq_ok_iff _).1 t.accepted

/-- A table becomes a topology if it is acceptable. -/
theorem exists_ofDevices_iff (devices : List Device) :
    (∃ t, ofDevices devices = .ok t) ↔ Acceptable devices := by
  constructor
  · rintro ⟨t, ht⟩
    rw [← (ofDevices_eq_ok_iff _ _).1 ht]
    exact t.acceptable
  · intro h
    exact ⟨⟨devices, (check_eq_ok_iff _).2 h⟩, (ofDevices_eq_ok_iff _ _).2 rfl⟩

end Topology

end CyclicBus
