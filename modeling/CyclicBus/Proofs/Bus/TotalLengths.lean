import CyclicBus.Proofs.Bus.DomainBytes
import Mathlib.Data.Fintype.Card
import Mathlib.Data.Fintype.Prod
import Mathlib.Order.Interval.Finset.Nat

/-!
# Total lengths

The lengths of one direction are added up as words, and there is no total where an addition
overflows. `total_exact`: a total is the exact sum, and there is one if and only if the lengths add
up to a word, hence for ranges without a common byte, and for ranges in a domain of fewer than
`2 ^ 32` bytes, since each device has a place of its own on the bus (`size_le`). The check of a
device table asks for neither, and a table of two ranges can already overflow (`not_total_exact`).
-/

namespace CyclicBus

namespace ByteRange

/-- The lengths of some ranges together. -/
def totalLength (rs : List ByteRange) : Nat := (rs.map (·.len.toNat)).sum

theorem totalLength_cons (r : ByteRange) (rs : List ByteRange) :
    totalLength (r :: rs) = r.len.toNat + totalLength rs := List.sum_cons

/-- Words that are added up one by one give their sum as long as it is a word, and else nothing: a
sum that overflows does so for good. -/
theorem foldlM_add?_eq_some_iff {rs : List ByteRange} {start total : UInt64} :
    rs.foldlM (fun n r => n.add? r.len) start = some total ↔
      total.toNat = start.toNat + totalLength rs := by
  induction rs generalizing start with
  | nil =>
    rw [List.foldlM_nil, Option.pure_def, Option.some.injEq, ← UInt64.toNat_inj]
    exact eq_comm
  | cons r rs ih =>
    have hlt := total.toNat_lt_size
    rw [List.foldlM_cons, totalLength_cons]
    cases hadd : start.add? r.len with
    | none =>
      have hover := UInt64.add?_eq_none_iff.1 hadd
      simp only [Option.bind_eq_bind, Option.bind_none, reduceCtorEq, false_iff]
      omega
    | some sum =>
      have hsum := UInt64.add?_eq_some_iff.1 hadd
      rw [Option.bind_eq_bind, Option.bind_some, ih, hsum, Nat.add_assoc]

theorem totalLength_le_mul {rs : List ByteRange} {n : Nat} (h : ∀ r ∈ rs, r.len.toNat ≤ n) :
    totalLength rs ≤ rs.length * n := by
  induction rs with
  | nil => exact Nat.zero_le _
  | cons r rs ih =>
    have hr := h r List.mem_cons_self
    have hrs := ih fun s hs => h s (List.mem_cons_of_mem _ hs)
    rw [totalLength_cons, List.length_cons, Nat.succ_mul]
    omega

/-! ## Ranges without a common byte -/

/-- The bytes that some ranges cover. -/
def covered : List ByteRange → Finset Nat
  | [] => ∅
  | r :: rs => Finset.Ico r.offset.toNat (r.offset.toNat + r.len.toNat) ∪ covered rs

theorem mem_covered {rs : List ByteRange} {i : Nat} : i ∈ covered rs ↔ ∃ r ∈ rs, r.Covers i := by
  induction rs with
  | nil => simp [covered]
  | cons r rs ih => simp [covered, ih, Covers]

/-- Ranges without a common byte cover as many bytes as they have. -/
theorem card_covered {rs : List ByteRange} (h : rs.Pairwise Apart) :
    (covered rs).card = totalLength rs := by
  induction rs with
  | nil => rfl
  | cons r rs ih =>
    obtain ⟨hr, hrs⟩ := List.pairwise_cons.1 h
    have hdisjoint : Disjoint (Finset.Ico r.offset.toNat (r.offset.toNat + r.len.toNat))
        (covered rs) := by
      rw [Finset.disjoint_left]
      intro i hi hcovered
      obtain ⟨s, hs, hsi⟩ := mem_covered.1 hcovered
      exact hr s hs i (Finset.mem_Ico.1 hi) hsi
    rw [covered, Finset.card_union_of_disjoint hdisjoint, Nat.card_Ico, ih hrs, totalLength_cons]
    omega

/-- So many bytes that no two ranges share there are at most. -/
theorem totalLength_le_of_apart {rs : List ByteRange} {n : Nat} (h : rs.Pairwise Apart)
    (hstop : ∀ r ∈ rs, r.offset.toNat + r.len.toNat ≤ n) : totalLength rs ≤ n := by
  have hsub : covered rs ⊆ Finset.range n := by
    intro i hi
    obtain ⟨r, hr, hri⟩ := mem_covered.1 hi
    have := hstop r hr
    exact Finset.mem_range.2 (by have := hri.2; omega)
  have hcard := Finset.card_le_card hsub
  rwa [card_covered h, Finset.card_range] at hcard

end ByteRange

namespace Topology

/-- The ranges of all devices in one direction, in index order. -/
def ranges (t : Topology) (direction : Direction) : List ByteRange :=
  t.devices.map (·.range direction)

variable {t : Topology} {direction : Direction}

theorem total?_eq_some_iff {total : UInt64} :
    t.total? direction = some total ↔ total.toNat = ByteRange.totalLength (t.ranges direction) := by
  have hfold : t.total? direction =
      (t.ranges direction).foldlM (fun n r => n.add? r.len) 0 := by
    rw [total?, ranges, List.foldlM_map]
  rw [hfold, ByteRange.foldlM_add?_eq_some_iff]
  show total.toNat = 0 + _ ↔ _
  rw [Nat.zero_add]

/-- The lengths of one direction have a total, and it is the exact sum. -/
def Exact (t : Topology) (direction : Direction) : Prop :=
  ∃ total, t.total? direction = some total ∧
    total.toNat = ByteRange.totalLength (t.ranges direction)

theorem exact_iff :
    t.Exact direction ↔ ByteRange.totalLength (t.ranges direction) < UInt64.size := by
  constructor
  · rintro ⟨total, -, hexact⟩
    rw [← hexact]
    exact total.toNat_lt_size
  · intro h
    have hword := UInt64.toNat_ofNat_of_lt' h
    exact ⟨_, total?_eq_some_iff.2 hword, hword⟩

theorem exists_of_mem_ranges {r : ByteRange} (hr : r ∈ t.ranges direction) :
    ∃ d ∈ t.devices, d.range direction = r := List.mem_map.1 hr

theorem exact_of_apart (h : (t.ranges direction).Pairwise ByteRange.Apart) :
    t.Exact direction := by
  have hstop : ∀ r ∈ t.ranges direction,
      r.offset.toNat + r.len.toNat ≤ UInt64.size - 1 := by
    intro r hr
    obtain ⟨d, hd, rfl⟩ := exists_of_mem_ranges hr
    have := (t.acceptable.sound d hd).bounded direction
    omega
  have hle := ByteRange.totalLength_le_of_apart h hstop
  have hsize : 0 < UInt64.size := by decide
  exact exact_iff.2 (by omega)

/-- A bus has no more places than two short words number. -/
theorem size_le (t : Topology) : t.size ≤ 2 ^ 32 := by
  let number (p : UInt16 × UInt16) : Fin 65536 × Fin 65536 := (p.1.toFin, p.2.toFin)
  have hinj : Function.Injective number := by
    rintro ⟨a, b⟩ ⟨c, d⟩ h
    obtain ⟨hac, hbd⟩ := Prod.mk.inj h
    obtain rfl : a = c := UInt16.toFin_inj.1 hac
    obtain rfl : b = d := UInt16.toFin_inj.1 hbd
    rfl
  have hcard := (t.acceptable.places.map hinj).length_le_card
  simpa [size] using hcard

theorem exact_of_fits {n : Nat} (hn : n < 2 ^ 32)
    (h : ∀ r ∈ t.ranges direction, r.fits n = true) : t.Exact direction := by
  have hlen : ∀ r ∈ t.ranges direction, r.len.toNat ≤ n := by
    intro r hr
    obtain ⟨-, hstop⟩ := (ByteRange.fits_iff r n).1 (h r hr)
    omega
  have hlength : (t.ranges direction).length ≤ 2 ^ 32 := by
    rw [ranges, List.length_map]
    exact t.size_le
  refine exact_iff.2 ?_
  calc ByteRange.totalLength (t.ranges direction)
      ≤ (t.ranges direction).length * n := ByteRange.totalLength_le_mul hlen
    _ ≤ 2 ^ 32 * n := Nat.mul_le_mul_right n hlength
    _ < 2 ^ 32 * 2 ^ 32 := Nat.mul_lt_mul_of_pos_left hn (by decide)
    _ = UInt64.size := rfl

/-- **When there is a total.** A total is the exact sum of the lengths, and there is one if and only
if they add up to a word. That is so for ranges of which no two share a byte, and for ranges that
all fit a domain of fewer than `2 ^ 32` bytes. -/
theorem total_exact (t : Topology) (direction : Direction) :
    (∀ total, t.total? direction = some total ↔
      total.toNat = ByteRange.totalLength (t.ranges direction)) ∧
      (t.Exact direction ↔ ByteRange.totalLength (t.ranges direction) < UInt64.size) ∧
      ((t.ranges direction).Pairwise ByteRange.Apart → t.Exact direction) ∧
      ∀ n < 2 ^ 32, (∀ r ∈ t.ranges direction, r.fits n = true) → t.Exact direction :=
  ⟨fun _ => total?_eq_some_iff, exact_iff, exact_of_apart, fun _ hn => exact_of_fits hn⟩

/-- Two devices whose inputs both are the first `2 ^ 63` bytes, and whose outputs touch there and
end at the largest word. -/
def halves : Topology :=
  ⟨[⟨"left", 0, 0, 1, 1, Device.standardAssignActivate, 0, ⟨0, 9223372036854775808⟩,
        ⟨0, 9223372036854775808⟩⟩,
      ⟨"right", 0, 1, 1, 1, Device.standardAssignActivate, 0, ⟨0, 9223372036854775808⟩,
        ⟨9223372036854775808, 9223372036854775807⟩⟩], rfl⟩

/-- Two devices whose ranges all are the whole of a domain of the largest size below `2 ^ 32`. -/
def mirrored : Topology :=
  ⟨[⟨"left", 0, 0, 1, 1, Device.standardAssignActivate, 0, ⟨0, 4294967295⟩, ⟨0, 4294967295⟩⟩,
      ⟨"right", 0, 1, 1, 1, Device.standardAssignActivate, 0, ⟨0, 4294967295⟩, ⟨0, 4294967295⟩⟩],
    rfl⟩

/-- Outputs that share no byte add up to at most the largest word, and here to just that; inputs
that share all their bytes add up as well if the domain is small. -/
theorem total_exact_of_touching :
    (halves.ranges .output).Pairwise ByteRange.Apart ∧ halves.Exact .output ∧
      halves.total? .output = some 18446744073709551615 ∧
      (∀ r ∈ mirrored.ranges .input, r.fits 4294967295 = true) ∧ mirrored.Exact .input ∧
      mirrored.total? .input = some 8589934590 := by
  have hapart : (halves.ranges .output).Pairwise ByteRange.Apart := by
    refine List.pairwise_cons.2 ⟨fun s hs i hi hsi => ?_, List.pairwise_singleton _ _⟩
    obtain rfl := List.mem_singleton.1 hs
    exact Nat.lt_irrefl i (Nat.lt_of_lt_of_le hi.2 hsi.1)
  have hfits : ∀ r ∈ mirrored.ranges .input, r.fits 4294967295 = true := by decide +kernel
  obtain ⟨-, -, hexact, -⟩ := total_exact halves .output
  obtain ⟨-, -, -, hsmall⟩ := total_exact mirrored .input
  exact ⟨hapart, hexact hapart, by decide +kernel, hfits, hsmall 4294967295 (by decide) hfits,
    by decide +kernel⟩

/-- An accepted table can be without a total: the two inputs have `2 ^ 63` bytes each. -/
theorem not_total_exact :
    ofDevices halves.devices = .ok halves ∧
      ByteRange.totalLength (halves.ranges .input) = 2 ^ 64 ∧ halves.total? .input = none ∧
      ¬ ∀ (t : Topology) (direction : Direction), t.Exact direction := by
  refine ⟨(ofDevices_eq_ok_iff _ _).2 rfl, by decide +kernel, by decide +kernel, fun h => ?_⟩
  have hlt := exact_iff.1 (h halves .input)
  revert hlt
  decide +kernel

end Topology

end CyclicBus
