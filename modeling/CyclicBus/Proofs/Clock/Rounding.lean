import CyclicBus.Clock.Sync
import Mathlib.Algebra.Order.Ring.Int

/-!
# The rounding rules on integers

What the word operations of the drift filter do to plain integers. `toInt_centred`: centring is the
balanced remainder, for every difference and every period; `centred_balanced` says what makes it the
only one of its kind. `toInt_roundDiv`: division rounds half away from zero wherever the half that
is added stays in the word. `toInt_clampTo`: the clamp is the clamp of integers.
-/

namespace Int64

theorem toInt_max (a b : Int64) : (max a b).toInt = max a.toInt b.toInt := by
  show (if a ≤ b then b else a).toInt = _
  split <;> rename_i h <;> rw [le_iff_toInt_le] at h <;> omega

theorem toInt_min (a b : Int64) : (min a b).toInt = min a.toInt b.toInt := by
  show (if a ≤ b then a else b).toInt = _
  split <;> rename_i h <;> rw [le_iff_toInt_le] at h <;> omega

/-- The integers of the 64-bit signed words. -/
def Holds (x : Int) : Prop := -9223372036854775808 ≤ x ∧ x ≤ 9223372036854775807

instance (x : Int) : Decidable (Holds x) := inferInstanceAs (Decidable (_ ∧ _))

theorem toInt_neg_of_ne {a : Int64} (h : -9223372036854775808 < a.toInt) :
    (-a).toInt = -a.toInt := by
  have hlt := a.toInt_lt
  rw [toInt_neg, Int.bmod_eq_of_le_mul_two] <;> omega

theorem toInt_abs_of_nonneg {a : Int64} (h : 0 ≤ a.toInt) : a.abs = a := by
  have hmsb : a.toBitVec.msb = false := by
    rw [BitVec.msb_eq_false_iff_two_mul_lt]
    have : a.toInt = a.toBitVec.toInt := rfl
    rw [this, BitVec.toInt_eq_toNat_cond] at h
    split at h <;> omega
  have : a.toBitVec.abs = a.toBitVec := by rw [BitVec.abs, hmsb]; rfl
  exact toBitVec_inj.mp this

/-- A sum that the words hold is not held back. -/
theorem toInt_satAdd_of_holds {a b : Int64} (h : Holds (a.toInt + b.toInt)) :
    (a.satAdd b).toInt = a.toInt + b.toInt := by
  unfold Holds at h
  rw [toInt_satAdd]
  omega

theorem toInt_satSub_of_holds {a b : Int64} (h : Holds (a.toInt - b.toInt)) :
    (a.satSub b).toInt = a.toInt - b.toInt := by
  unfold Holds at h
  rw [toInt_satSub]
  omega

/-- Division by a positive word goes toward zero. -/
theorem toInt_div_of_pos {a b : Int64} (h : 0 < b.toInt) :
    (a / b).toInt = a.toInt.tdiv b.toInt := by
  refine toInt_div_of_ne_right a b ?_
  rintro rfl
  exact absurd h (by decide)

end Int64

namespace CyclicBus.Clock

/-! ## Centring -/

/-- Centring is the remainder of least magnitude; half an even period counts as negative. -/
theorem centredInt_eq_bmod (d : Int) {p : Nat} (hp : 0 < p) : centredInt d p = d.bmod p := by
  have hlo : 0 ≤ (d + (p : Int) / 2) % p := Int.emod_nonneg _ (by omega)
  have hhi : (d + (p : Int) / 2) % p < p := Int.emod_lt_of_pos _ (by omega)
  have hself : (centredInt d p).bmod p = centredInt d p := by
    unfold centredInt
    exact Int.bmod_eq_of_le (by omega) (by omega)
  rw [← hself, centredInt, Int.emod_sub_bmod, Int.add_sub_cancel]

/-- A difference brought into any period is a word, also where the period is none. -/
theorem holds_bmod_period (d : Int) (period : UInt64) :
    Int64.Holds (d.bmod (max period.toNat 1)) := by
  have hsize := period.toNat_lt
  have hp : 0 < max period.toNat 1 := by omega
  have hlo := Int.le_bmod (x := d) hp
  have hhi := Int.bmod_lt (x := d) hp
  unfold Int64.Holds
  omega

theorem ofInt?_centredInt (d : Int) (period : UInt64) :
    Int64.ofInt? (centredInt d (max period.toNat 1)) =
      some (.ofInt (d.bmod (max period.toNat 1))) := by
  have hp : 0 < max period.toNat 1 := by omega
  have hcast : (max (period.toNat : Int) 1) = ((max period.toNat 1 : Nat) : Int) := by omega
  rw [hcast, centredInt_eq_bmod _ hp, Int64.ofInt?]
  exact if_pos (holds_bmod_period d period)

/-- Every centred difference is a word. -/
theorem toInt_centred (d : Int64) (period : UInt64) :
    (centred d period).toInt = d.toInt.bmod (max period.toNat 1) := by
  obtain ⟨hlo, hhi⟩ := holds_bmod_period d.toInt period
  rw [centred, ofInt?_centredInt, Option.getD_some, Int64.toInt_ofInt_of_le (by omega) (by omega)]

/-- A centred difference is at most half a period away from zero. -/
theorem natAbs_bmod_le (d : Int) {p : Nat} (hp : 0 < p) : (d.bmod p).natAbs ≤ p / 2 := by
  have hlo := Int.le_bmod (x := d) hp
  have hhi := Int.bmod_lt (x := d) hp
  omega

/-- A representative of a difference that lies in the half-open period around zero. -/
structure Balanced (d : Int) (p : Nat) (r : Int) : Prop where
  lower : -(p : Int) ≤ 2 * r
  upper : 2 * r < p
  congruent : (p : Int) ∣ d - r

theorem balanced_bmod (d : Int) {p : Nat} (hp : 0 < p) : Balanced d p (d.bmod p) := by
  have hlo := Int.le_bmod (x := d) hp
  have hhi := Int.bmod_lt (x := d) hp
  exact ⟨by omega, by omega, Int.dvd_self_sub_bmod⟩

/-- No difference has two balanced representatives. -/
theorem Balanced.eq_bmod {d r : Int} {p : Nat} (h : Balanced d p r) : r = d.bmod p := by
  have hlo := h.lower
  have hhi := h.upper
  have hself : r.bmod p = r := Int.bmod_eq_of_le_mul_two (by omega) (by omega)
  have hzero : (d - r).bmod p = 0 := Int.bmod_eq_zero_of_dvd h.congruent
  rw [← hself]
  exact (Int.bmod_eq_bmod_iff_bmod_sub_eq_zero.2 hzero).symm

/-- **Centring finds the balanced representative**, for every difference and every period, where a
zero period counts as one. It is always a word; centring leaves it alone, and differences that are
whole periods apart have the same. -/
theorem centred_balanced (d : Int64) (period : UInt64) :
    let p := max period.toNat 1
    (∀ r : Int, Balanced d.toInt p r ↔ r = (centred d period).toInt) ∧
      Int64.ofInt? (centredInt d.toInt (max (period.toNat : Int) 1)) = some (centred d period) ∧
      centred (centred d period) period = centred d period ∧
      ∀ (shifted : Int64) (k : Int), shifted.toInt = d.toInt + k * p →
        centred shifted period = centred d period := by
  intro p
  have hp : 0 < p := by omega
  refine ⟨fun r => ?_, ?_, ?_, ?_⟩
  · rw [toInt_centred]
    constructor
    · exact Balanced.eq_bmod
    · rintro rfl
      exact balanced_bmod _ hp
  · rw [centred, ofInt?_centredInt, Option.getD_some]
  · apply Int64.toInt_inj.1
    rw [toInt_centred, toInt_centred, Int.bmod_bmod]
  · intro shifted k hshifted
    apply Int64.toInt_inj.1
    rw [toInt_centred, toInt_centred, hshifted, Int.add_mul_bmod_self_right]

/-- Half a period counts as negative; the widest period centres the least word, and the word one
period above it to the same. -/
theorem centred_balanced_at_extremes :
    centred 500000 1000000 = -500000 ∧ Balanced 500000 1000000 (-500000) ∧
      centred Int64.minValue 18446744073709551615 = Int64.maxValue ∧
      Balanced (-9223372036854775808) 18446744073709551615 9223372036854775807 ∧
      centred 9223372036854775807 18446744073709551615 =
        centred Int64.minValue 18446744073709551615 := by
  refine ⟨by decide +kernel, ?_, by decide +kernel, ?_, ?_⟩
  · exact ((centred_balanced 500000 1000000).1 _).2 (by decide +kernel)
  · exact ((centred_balanced Int64.minValue 18446744073709551615).1 _).2 (by decide +kernel)
  · exact (centred_balanced Int64.minValue 18446744073709551615).2.2.2 _ 1 (by decide +kernel)

/-! ## Signs and quotients -/

theorem toInt_sign (x : Int64) : (sign x).toInt = x.toInt.sign := by
  have h0 : (0 : Int64).toInt = 0 := rfl
  unfold sign
  split
  · rename_i h
    rw [Int64.lt_iff_toInt_lt, h0] at h
    rw [Int.sign_eq_one_of_pos h]
    rfl
  · split
    · rename_i h
      rw [Int64.lt_iff_toInt_lt, h0] at h
      rw [Int.sign_eq_neg_one_of_neg h]
      rfl
    · rename_i hpos hneg
      rw [Int64.lt_iff_toInt_lt, h0] at hpos hneg
      have : x.toInt = 0 := by omega
      rw [this]
      rfl

/-- The integer quotient to the nearest, ties away from zero. -/
def roundAway (x n : Int) : Int := if 0 ≤ x then (x + n / 2) / n else -((-x + n / 2) / n)

/-- Division by a positive word rounds half away from zero where the half fits. -/
theorem toInt_roundDiv {x n : Int64} (hn : 0 < n.toInt)
    (hx : x.toInt.natAbs + n.toInt / 2 ≤ 9223372036854775807) :
    (roundDiv x n).toInt = roundAway x.toInt n.toInt := by
  have h1 : (1 : Int64).toInt = 1 := rfl
  have h2 : (2 : Int64).toInt = 2 := rfl
  have hmax : max n 1 = n := by
    apply Int64.toInt_inj.mp
    rw [Int64.toInt_max, h1]
    omega
  have hhalf : (n / 2).toInt = n.toInt / 2 := by
    rw [Int64.toInt_div_of_pos (by decide), h2, Int.tdiv_eq_ediv_of_nonneg (by omega)]
  unfold roundDiv roundAway
  simp only [hmax, Int64.le_iff_toInt_le, show (0 : Int64).toInt = 0 from rfl]
  split
  · rename_i h
    rw [Int64.toInt_div_of_pos hn,
      Int64.toInt_satAdd_of_holds (by unfold Int64.Holds; omega), hhalf,
      Int.tdiv_eq_ediv_of_nonneg (by omega)]
  · rename_i h
    have hneg : x.toInt - n.toInt / 2 = -(-x.toInt + n.toInt / 2) := by omega
    rw [Int64.toInt_div_of_pos hn,
      Int64.toInt_satSub_of_holds (by unfold Int64.Holds; omega), hhalf, hneg, Int.neg_tdiv,
      Int.tdiv_eq_ediv_of_nonneg (by omega)]

/-- A quotient by a positive divisor is no larger than what is divided. -/
theorem natAbs_roundAway_le (x : Int) {n : Int} (hn : 0 < n) :
    (roundAway x n).natAbs ≤ x.natAbs := by
  have bound : ∀ y : Int, 0 ≤ y → 0 ≤ (y + n / 2) / n ∧ (y + n / 2) / n ≤ y := by
    intro y hy
    have hstep : y ≤ y * n := le_mul_of_one_le_right hy (by omega)
    refine ⟨Int.ediv_nonneg (by omega) hn.le, Int.le_of_lt_add_one (Int.ediv_lt_of_lt_mul hn ?_)⟩
    rw [Int.add_mul]
    omega
  unfold roundAway
  split
  · rename_i h
    have := bound x h
    omega
  · have := bound (-x) (by omega)
    omega

/-! ## The difference of clocks and the clamp -/

/-- The difference of a clock and a low word, as the 32-bit register wraps it. -/
theorem toInt_lowDiff (appTime : UInt64) (reference : UInt32) :
    (lowDiff appTime reference).toInt =
      ((appTime.toNat : Int) - reference.toNat).bmod 4294967296 := by
  have hr := reference.toNat_lt
  have hword : (lowDiff appTime reference).toInt =
      ((appTime.toUInt32 - reference).toNat : Int).bmod 4294967296 :=
    BitVec.toInt_eq_toNat_bmod _
  rw [hword, UInt32.toNat_sub, UInt64.toNat_toUInt32, Int.bmod_def, Int.bmod_def]
  split <;> split <;> omega

end CyclicBus.Clock

namespace CyclicBus.ClockSync

theorem toInt_clampTo {clamp : Int64} (x : Int64) (h : 0 ≤ clamp.toInt) :
    (clampTo clamp x).toInt = max (-clamp.toInt) (min clamp.toInt x.toInt) := by
  rw [clampTo, Int64.toInt_max, Int64.toInt_min, Int64.toInt_neg_of_ne (by omega)]

end CyclicBus.ClockSync
