import CyclicBus.Timing.Statistics
import Mathlib

/-!
# Fractions of a count

A query turns a count into a floating-point number, multiplies it by a fraction and cuts the product
off. `selected_of_le_zero`: at or below zero that comes to the first place, for every count.
`selected_of_one_le`: at or above one it comes to the last place, for every count up to
`2 ^ 54 + 1`; the next count is rounded down too far (`selected_of_next_count`). Rounding is only
followed as far as that needs: it keeps at least the leading 53 bits (`roundWithAccuracy_ge`).
-/

namespace CyclicBus.Binary64

open Float.Model (Format UnpackedFloat totalExponent)
open Float.Model.UnpackedFloat

/-! ## Integer parts -/

/-- The integer part of a mantissa at an exponent. -/
def whole (m : Nat) (e : Int) : Nat := m * 2 ^ e.toNat / 2 ^ (-e).toNat

theorem whole_mono {m n : Nat} (h : m ≤ n) (e : Int) : whole m e ≤ whole n e :=
  Nat.div_le_div_right (Nat.mul_le_mul_right _ h)

/-- An exponent may be split into any powers to multiply and to divide by. -/
theorem whole_eq (m : Nat) {e : Int} {a b : Nat} (h : e = a - b) :
    whole m e = m * 2 ^ a / 2 ^ b := by
  obtain ⟨c, ha, hb⟩ : ∃ c, a = e.toNat + c ∧ b = (-e).toNat + c :=
    ⟨a - e.toNat, by omega, by omega⟩
  rw [whole, ha, hb, Nat.pow_add, Nat.pow_add, ← Nat.mul_assoc,
    Nat.mul_div_mul_right _ _ (Nat.two_pow_pos c)]

theorem whole_mul_two_pow (m k : Nat) (e : Int) : whole (m * 2 ^ k) (e - k) = whole m e := by
  rw [whole_eq _ (a := e.toNat) (b := (-e).toNat + k) (by omega), whole, Nat.pow_add,
    Nat.mul_right_comm, Nat.mul_div_mul_right _ _ (Nat.two_pow_pos k)]

theorem mantissa_shiftRight (em : ExtendedMantissa) (k : Nat) :
    (em >>> k).mantissa = em.mantissa / 2 ^ k := by
  induction k with
  | zero => exact (Nat.div_one _).symm
  | succ k ih =>
    show (em >>> k).mantissa / 2 = _
    rw [ih, Nat.div_div_eq_div_mul, Nat.pow_succ]

/-- Cutting off a positive number leaves its integer part. -/
theorem toInt_finite (m : Nat) (e : Int) (hpos : 0 < m) (low high : Int) :
    (finite .positive m e hpos).toInt low high = whole m e := by
  show ((ExtendedMantissa.mk (m <<< (e - 0).toNat) false false >>>
    (0 - (e - (e - 0).toNat)).toNat).mantissa : Int) = _
  rw [mantissa_shiftRight, Nat.shiftLeft_eq, Int.sub_zero,
    show (0 - (e - e.toNat)).toNat = (-e).toNat by omega]
  rfl

/-! ## Rounding -/

/-- The leading 53 bits of a number, in their places. -/
def leading (n : Nat) : Nat := n / 2 ^ (n.log2 - 52) * 2 ^ (n.log2 - 52)

theorem leading_le (n : Nat) : leading n ≤ n := Nat.div_mul_le_self n _

/-- Up to `2 ^ 54 + 1` no more than one is lost: of all numbers of 55 bits only the first two are
that small. -/
theorem sub_one_le_leading {n : Nat} (h : n ≤ 2 ^ 54 + 1) : n - 1 ≤ leading n := by
  rcases Nat.eq_zero_or_pos n with rfl | hpos
  · exact Nat.zero_le _
  have hne := Nat.ne_of_gt hpos
  have hlow := Nat.log2_self_le hne
  have hbits : n.log2 < 55 := (Nat.log2_lt hne).2 (by omega)
  unfold leading
  obtain hnone | hone | htwo : n.log2 - 52 = 0 ∨ n.log2 - 52 = 1 ∨ n.log2 = 54 := by omega
  · rw [hnone]
    omega
  · rw [hone]
    omega
  · rw [htwo] at hlow ⊢
    omega

theorem roundedMantissa_bounds (em : ExtendedMantissa) :
    em.mantissa ≤ em.roundedMantissa ∧ em.roundedMantissa ≤ em.mantissa + 1 := by
  obtain ⟨m, round, sticky⟩ := em
  have hparity : m % 2 < 2 := Nat.mod_lt m (by decide)
  cases round <;> cases sticky <;>
    simp [ExtendedMantissa.roundedMantissa, ExtendedMantissa.accuracy, Accuracy.roundToNearestEven]
  omega

/-- A number has 53 bits and `k` more when its quotient by `2 ^ k` has 53. -/
theorem log2_eq_iff {m k : Nat} :
    m.log2 = 52 + k ↔ 2 ^ 52 ≤ m / 2 ^ k ∧ m / 2 ^ k < 2 ^ 53 := by
  rcases Nat.eq_zero_or_pos m with rfl | hpos
  · rw [Nat.log2_zero, Nat.zero_div]
    omega
  · rw [Nat.log2_eq_iff (Nat.ne_of_gt hpos), Nat.le_div_iff_mul_le (Nat.two_pow_pos k),
      Nat.div_lt_iff_lt_mul (Nat.two_pow_pos k), ← Nat.pow_add, ← Nat.pow_add,
      Nat.add_right_comm 52 k 1]

theorem log2_mul_two_pow {m : Nat} (hpos : 0 < m) (k : Nat) :
    (m * 2 ^ k).log2 = m.log2 + k := by
  obtain ⟨hlow, hhigh⟩ := (Nat.log2_eq_iff (Nat.ne_of_gt hpos)).1 rfl
  rw [Nat.log2_eq_iff (Nat.ne_of_gt (Nat.mul_pos hpos (Nat.two_pow_pos k))), Nat.add_right_comm,
    Nat.pow_add, Nat.pow_add _ (m.log2 + 1)]
  exact ⟨Nat.mul_le_mul_right _ hlow, Nat.mul_lt_mul_of_pos_right hhigh (Nat.two_pow_pos k)⟩

/-- Such a number is shifted by `k` places. -/
theorem shiftToTargetExponent_eq {m k : Nat} (hlog : m.log2 = 52 + k) {e : Int}
    (he : -1074 ≤ e + k) :
    shiftToTargetExponent Format.binary64 m e .exact =
      (ExtendedMantissa.mk m false false >>> k, e + k) := by
  have hshift : (Format.binary64.targetExponent (totalExponent m e) - e).toNat = k := by
    show (max ((m.log2 + 1 + e : Int) - 53) (-1074) - e).toNat = k
    omega
  unfold shiftToTargetExponent shiftToExponent
  dsimp only
  rw [hshift]
  rfl

/-- Rounding is two shifts: the second one takes up a carry. -/
theorem roundWithAccuracy_eq {m r k c : Nat} {e : Int} (hlog : m.log2 = 52 + k)
    (he : -1074 ≤ e + k) (hr : (ExtendedMantissa.mk m false false >>> k).roundedMantissa = r)
    (hcarry : r.log2 = 52 + c) (hpos : 0 < r / 2 ^ c) :
    roundWithAccuracy Format.binary64 .positive m e .exact =
      .finite .positive (r / 2 ^ c) (e + k + c) hpos := by
  unfold roundWithAccuracy
  rw [shiftToTargetExponent_eq hlog he]
  dsimp only
  rw [hr, shiftToTargetExponent_eq hcarry (by omega)]
  dsimp only
  rw [dif_neg (by rw [mantissa_shiftRight]; exact Nat.ne_of_gt hpos)]
  simp only [mantissa_shiftRight]

/-- Rounding a number of at least 53 bits leaves no less than its leading 53 bits. -/
theorem roundWithAccuracy_ge {m k : Nat} (hlog : m.log2 = 52 + k) {e : Int}
    (he : -1074 ≤ e + k) :
    ∃ m' e' hpos, roundWithAccuracy Format.binary64 .positive m e .exact =
        .finite .positive m' e' hpos ∧
      m'.log2 = 52 ∧ e + k ≤ e' ∧ e' ≤ e + k + 1 ∧ whole (m / 2 ^ k) (e + k) ≤ whole m' e' := by
  obtain ⟨hlow, hhigh⟩ := log2_eq_iff.1 hlog
  have hbounds := roundedMantissa_bounds (ExtendedMantissa.mk m false false >>> k)
  rw [mantissa_shiftRight] at hbounds
  obtain ⟨r, hr⟩ : ∃ r, (ExtendedMantissa.mk m false false >>> k).roundedMantissa = r := ⟨_, rfl⟩
  rw [hr] at hbounds
  dsimp only at hbounds
  rcases Nat.lt_or_ge r (2 ^ 53) with hfits | hcarries
  · have hlog' : r.log2 = 52 + 0 := log2_eq_iff.2 ⟨by omega, by omega⟩
    have hpos : 0 < r / 2 ^ 0 := by omega
    refine ⟨_, _, hpos, roundWithAccuracy_eq hlog he hr hlog' hpos, ?_, ?_, ?_, ?_⟩
    · rwa [Nat.pow_zero, Nat.div_one]
    · omega
    · omega
    · rw [Nat.pow_zero, Nat.div_one]
      exact (whole_mono hbounds.1 _).trans_eq (by rw [Int.natCast_zero, Int.add_zero])
  · -- all bits were ones, and the carry leaves a power of two
    have hpower : r = 2 ^ 52 * 2 ^ 1 := by omega
    have hlog' : r.log2 = 52 + 1 := log2_eq_iff.2 ⟨by omega, by omega⟩
    have hquotient : r / 2 ^ 1 = 2 ^ 52 := by omega
    have hpos : 0 < r / 2 ^ 1 := by omega
    refine ⟨_, _, hpos, roundWithAccuracy_eq hlog he hr hlog' hpos, ?_, ?_, ?_, ?_⟩
    · rw [hquotient]
      exact Nat.log2_two_pow
    · omega
    · omega
    · calc whole (m / 2 ^ k) (e + k)
        _ ≤ whole (2 ^ 52 * 2 ^ 1) (e + k) := whole_mono (hpower ▸ hbounds.1) _
        _ = whole (r / 2 ^ 1) (e + k + (1 : Nat)) := by
          rw [hquotient, ← whole_mul_two_pow (2 ^ 52) 1, Int.add_sub_cancel]

/-- A count as a double keeps its leading 53 bits. -/
theorem ofNat_ge {n : Nat} (hpos : 0 < n) (hfits : n < 2 ^ 64) :
    ∃ m e hpos, ofNat Format.binary64 n = .finite .positive m e hpos ∧
      m.log2 = 52 ∧ -52 ≤ e ∧ e ≤ 12 ∧
      leading n ≤ whole m e := by
  have hlog : n.log2 < 64 := (Nat.log2_lt (Nat.ne_of_gt hpos)).2 hfits
  have hround : ofNat Format.binary64 n =
      roundWithAccuracy Format.binary64 .positive (n * 2 ^ (52 - n.log2)) (-(52 - n.log2 : Nat))
        .exact := by
    have hcompare : compare (n : Int) 0 = .gt := Int.compare_eq_gt.2 (by omega)
    have hshift : (0 - Format.binary64.targetExponent (totalExponent n 0)).toNat = 52 - n.log2 := by
      show (0 - max ((n.log2 + 1 + 0 : Int) - 53) (-1074)).toNat = _
      omega
    unfold ofNat ofInt UnpackedFloat.normalize
    rw [hcompare]
    dsimp only
    unfold UnpackedFloat.round decreaseExponent
    dsimp only
    rw [Int.toNat_natCast, hshift, Nat.shiftLeft_eq, Int.zero_sub]
  have hscaled : (n * 2 ^ (52 - n.log2)).log2 = 52 + (n.log2 - 52) := by
    rw [log2_mul_two_pow hpos]
    omega
  obtain ⟨m, e, hpos', heq, hm, hlow, hhigh, hge⟩ :=
    roundWithAccuracy_ge hscaled (e := (-(52 - n.log2 : Nat) : Int)) (by omega)
  refine ⟨m, e, hpos', hround.trans heq, hm, by omega, by omega, le_trans (le_of_eq ?_) hge⟩
  -- one of the two powers is one
  unfold leading
  rcases Nat.le_total n.log2 52 with hshort | hlong
  · rw [Nat.sub_eq_zero_of_le hshort, Nat.pow_zero, Nat.div_one, Nat.div_one, Nat.mul_one,
      Int.natCast_zero, Int.add_zero, ← Int.zero_sub, whole_mul_two_pow]
    exact ((Nat.div_one _).trans (Nat.mul_one n)).symm
  · rw [Nat.sub_eq_zero_of_le hlong, Nat.pow_zero, Nat.mul_one,
      whole_eq _ (a := n.log2 - 52) (b := 0) (by omega), Nat.pow_zero, Nat.div_one]

/-! ## Packing -/

theorem pack_finite {m b : Nat} (hlog : m.log2 = 52) (hb : b < 2047) (hpos : 0 < m) :
    pack Format.binary64 (.finite .positive m (b - 1075) hpos) =
      packComponents Format.binary64 .positive (BitVec.ofNat 11 b) (BitVec.ofNat 52 m) := by
  have hbiased : ((b - 1075 : Int) + Format.binary64.exponentBias +
      Format.binary64.mantissaBitsWithoutImplicit).toNat = b := by
    show ((b - 1075 : Int) + 1023 + 52).toNat = b
    omega
  have hroom : ¬ 2 ^ Format.binary64.exponentBits ≤ b + 1 := by
    show ¬ 2 ^ 11 ≤ b + 1
    omega
  unfold pack
  dsimp only
  rw [hbiased, if_neg hroom, if_pos (by rw [hlog]; rfl)]

theorem unpack_packComponents {m b : Nat} (hlog : m.log2 = 52) (hlow : 0 < b) (hhigh : b < 2047)
    (hpos : 0 < m) :
    unpack Format.binary64
        (packComponents Format.binary64 .positive (BitVec.ofNat 11 b) (BitVec.ofNat 52 m)) =
      .finite .positive m (b - 1075) hpos := by
  obtain ⟨hm, hm'⟩ := (Nat.log2_eq_iff (Nat.ne_of_gt hpos)).1 hlog
  have hbits : (BitVec.ofNat 11 b).toNat = b := by
    rw [BitVec.toNat_ofNat]
    omega
  have hmantissa : (1#1 ++ BitVec.ofNat 52 m).toNat = m := by
    rw [BitVec.toNat_append, ← Nat.shiftLeft_add_eq_or_of_lt (BitVec.isLt _), BitVec.toNat_ofNat]
    show 2 ^ 52 + m % 2 ^ 52 = m
    omega
  have hfinite : BitVec.ofNat 11 b ≠ -1#11 := fun h => by
    have hsame : b = 2047 := hbits.symm.trans (congrArg BitVec.toNat h)
    omega
  have hnormal : BitVec.ofNat 11 b ≠ 0#11 := fun h => by
    have hsame : b = 0 := hbits.symm.trans (congrArg BitVec.toNat h)
    omega
  unfold unpack
  simp only [unpackMantissa_packComponents, unpackExponent_packComponents,
    unpackSign_packComponents, Sign.ofBitVec_toBitVec]
  rw [if_neg hfinite, if_neg hnormal]
  congr 1
  show ((BitVec.ofNat 11 b).toNat : Int) - (1023 + 52) = _
  omega

/-- A positive number of 53 bits is packed into a double and unpacked again unchanged. -/
theorem unpack_pack {m : Nat} (hlog : m.log2 = 52) {e : Int} (hlow : -1074 ≤ e) (hhigh : e ≤ 971)
    (hpos : 0 < m) :
    unpack Format.binary64 (pack Format.binary64 (.finite .positive m e hpos)) =
      .finite .positive m e hpos := by
  obtain ⟨b, rfl⟩ : ∃ b : Nat, e = b - 1075 := ⟨(e + 1075).toNat, by omega⟩
  rw [pack_finite hlog (by omega), unpack_packComponents hlog (by omega) (by omega)]

/-! ## Products with a count -/

theorem unpack_mul (f g : Float) : (f * g).toModel.unpack =
    unpack Format.binary64 (pack Format.binary64 (UnpackedFloat.mul Format.binary64
      f.toModel.unpack g.toModel.unpack)) := rfl

theorem unpack_one : (1 : Float).toModel.unpack = .finite .positive (2 ^ 52) (-52) (by decide) :=
  rfl

/-- Nothing more than the rounding happens to a count on its way to a double. -/
theorem unpack_toFloat (n : UInt64) :
    n.toFloat.toModel.unpack = ofNat Format.binary64 n.toNat := by
  show unpack Format.binary64 (pack Format.binary64 (ofNat Format.binary64 n.toNat)) = _
  rcases Nat.eq_zero_or_pos n.toNat with hzero | hpos
  · rw [hzero]
    exact unpack_packedZero
  · obtain ⟨m, e, hpos', heq, hlog, hlow, hhigh, -⟩ := ofNat_ge hpos n.toNat_lt
    rw [heq]
    exact unpack_pack hlog (by omega) (by omega) hpos'

/-- A count by zero, cut off, is zero. -/
theorem toUInt64_toFloat_mul_of_zero (n : UInt64) {f : Float} {s : Sign}
    (hf : f.toModel.unpack = .zero s) : (n.toFloat * f).toUInt64 = 0 := by
  have hproduct : ∃ s, UnpackedFloat.mul Format.binary64 n.toFloat.toModel.unpack
      f.toModel.unpack = .zero s := by
    rw [hf, unpack_toFloat]
    rcases Nat.eq_zero_or_pos n.toNat with hzero | hpos
    · rw [hzero]
      exact ⟨_, rfl⟩
    · obtain ⟨m, e, hpos', heq, -⟩ := ofNat_ge hpos n.toNat_lt
      rw [heq]
      exact ⟨_, rfl⟩
  obtain ⟨s, hs⟩ := hproduct
  show (n.toFloat * f).toModel.unpack.toUInt64 = 0
  rw [unpack_mul, hs]
  exact congrArg toUInt64 unpack_packedZero

/-- A count by one, cut off, keeps the leading 53 bits of the count. -/
theorem toUInt64_toFloat_mul_one_ge (n : UInt64) :
    leading n.toNat ≤ (n.toFloat * 1).toUInt64.toNat := by
  rcases Nat.eq_zero_or_pos n.toNat with hzero | hpos
  · rw [hzero]
    exact Nat.zero_le _
  obtain ⟨m, e, hm, heq, hlog, hlow, hhigh, hge⟩ := ofNat_ge hpos n.toNat_lt
  have hscaled : (m * 2 ^ 52).log2 = 52 + 52 := by rw [log2_mul_two_pow hm, hlog]
  obtain ⟨m', e', hm', heq', hlog', hlow', hhigh', hge'⟩ :=
    roundWithAccuracy_ge hscaled (e := e + -52) (by omega)
  have hproduct : (n.toFloat * 1).toModel.unpack = .finite .positive m' e' hm' := by
    rw [unpack_mul, unpack_one, unpack_toFloat, heq]
    exact (congrArg (fun u => unpack Format.binary64 (pack Format.binary64 u)) heq').trans
      (unpack_pack hlog' (by omega) (by omega) hm')
  have hwhole : leading n.toNat ≤ whole m' e' := by
    rw [Nat.mul_div_cancel _ (Nat.two_pow_pos 52)] at hge'
    exact hge.trans (hge'.trans' (by rw [show e + -52 + (52 : Nat) = e by omega]))
  show _ ≤ (n.toFloat * 1).toModel.unpack.toUInt64.toNat
  unfold UnpackedFloat.toUInt64
  rw [hproduct, toInt_finite, Int.toNat_natCast]
  rcases Nat.lt_or_ge (whole m' e') UInt64.size with hfits | hclamps
  · rwa [UInt64.toNat_ofNatClamp_of_lt hfits]
  · rw [UInt64.toNat_ofNatClamp_of_le hclamps]
    exact (leading_le _).trans (Nat.le_sub_one_of_lt n.toNat_lt)

/-! ## Comparisons -/

theorem le_iff_unpack {f g : Float} : f ≤ g ↔ f.toModel.unpack.le g.toModel.unpack = true :=
  ⟨fun h => of_decide_eq_true h, fun h => decide_eq_true h⟩

theorem le_iff {f g : Float} : f ≤ g ↔ f < g ∨ f == g := by
  have hlt : f < g ↔ f.toModel.unpack.lt g.toModel.unpack = true :=
    ⟨fun h => of_decide_eq_true h, fun h => decide_eq_true h⟩
  have hbeq : (f == g) = f.toModel.unpack.beq g.toModel.unpack := rfl
  rw [le_iff_unpack, hlt, hbeq]
  unfold UnpackedFloat.le UnpackedFloat.lt UnpackedFloat.beq
  match f.toModel.unpack.compare g.toModel.unpack with
  | none => decide
  | some .lt => decide
  | some .eq => decide
  | some .gt => decide

/-- Nothing is at or below zero and at or above one. -/
theorem not_one_le_of_le_zero {f : Float} (h : f ≤ 0) : ¬ 1 ≤ f := by
  rw [le_iff_unpack, unpack_one, Bool.not_eq_true]
  have hzero : f.toModel.unpack.le (.zero .positive) = true := le_iff_unpack.1 h
  match f.toModel.unpack, hzero with
  | .infinity .negative, _ => rfl
  | .zero _, _ => rfl
  | .finite .negative .., _ => rfl

end CyclicBus.Binary64

namespace CyclicBus.Statistics.Ring

open Float.Model.UnpackedFloat

/-! ## Places that a fraction selects -/

/-- What is at or below zero is held at a zero, of either sign. -/
theorem unpack_held_of_le_zero {fraction : Float} (h : fraction ≤ 0) :
    ∃ s, (held fraction).toModel.unpack = .zero s := by
  unfold held
  split_ifs with hbelow habove
  · exact ⟨.positive, rfl⟩
  · exact absurd (Binary64.le_iff.2 (.inl habove)) (Binary64.not_one_le_of_le_zero h)
  · obtain hlt | heq := Binary64.le_iff.1 h
    · exact absurd hlt hbelow
    · obtain ⟨-, -, rfl | ⟨rfl, -⟩ | ⟨rfl, -⟩⟩ := Float.beq_iff_ne_nan_and_eq.1 heq
      · exact ⟨.positive, rfl⟩
      · exact ⟨.positive, rfl⟩
      · exact ⟨.negative, rfl⟩

/-- What is at or above one is held at one. -/
theorem held_of_one_le {fraction : Float} (h : 1 ≤ fraction) : held fraction = 1 := by
  unfold held
  split_ifs with hbelow habove
  · exact absurd h (Binary64.not_one_le_of_le_zero (Binary64.le_iff.2 (.inl hbelow)))
  · rfl
  · obtain hlt | heq := Binary64.le_iff.1 h
    · exact absurd hlt habove
    · obtain ⟨-, -, rfl | ⟨hone, -⟩ | ⟨hone, -⟩⟩ := Float.beq_iff_ne_nan_and_eq.1 heq
      · rfl
      · exact absurd hone (by decide +kernel)
      · exact absurd hone (by decide +kernel)

theorem selected_lt {count : Nat} (h : 0 < count) (fraction : Float) :
    selected count fraction < count := by
  unfold selected
  omega

/-- At or below zero the first place is selected. -/
theorem selected_of_le_zero {fraction : Float} (h : fraction ≤ 0) (count : Nat) :
    selected count fraction = 0 := by
  obtain ⟨s, hs⟩ := unpack_held_of_le_zero h
  unfold selected
  rw [Binary64.toUInt64_toFloat_mul_of_zero _ hs]
  exact Nat.zero_min _

/-- At or above one the last place is selected, up to the count that a double rounds too far. -/
theorem selected_of_one_le {fraction : Float} (h : 1 ≤ fraction) {count : Nat}
    (hcount : count ≤ 2 ^ 54 + 1) : selected count fraction = count - 1 := by
  have hn : count.toUInt64.toNat = count := UInt64.toNat_ofNat_of_lt' (by
    show count < 2 ^ 64
    omega)
  have hge := Binary64.toUInt64_toFloat_mul_one_ge count.toUInt64
  rw [hn] at hge
  unfold selected
  rw [held_of_one_le h]
  exact Nat.min_eq_right ((Binary64.sub_one_le_leading hcount).trans hge)

/-- The next count is rounded down by two. -/
theorem selected_of_next_count : selected (2 ^ 54 + 2) 1 = 2 ^ 54 := by
  decide +kernel

end CyclicBus.Statistics.Ring
