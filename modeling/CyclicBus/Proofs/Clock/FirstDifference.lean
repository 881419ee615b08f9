import CyclicBus.Proofs.Clock.ExactFilter

/-!
# A filter that reads one difference

The exact filter on a difference that is followed by none. The first difference starts the filter,
and the step back to zero is then a sample like any other, so that the first window ends with the
difference in its delta total. `step_settled`: the filter stays at rest if that is less than half a
nanosecond for each sample, and as long as the window is open. `cuts_or_adjustment_ne_zero`: else
the end of the window moves the adjustment, unless the clamp cuts it.
-/

namespace CyclicBus

/-- Rounding to the nearest leaves nothing of less than half a divisor. -/
theorem Clock.roundAway_eq_zero_iff (x : Int) {n : Nat} (hn : 0 < n) :
    roundAway x n = 0 ↔ 2 * x.natAbs < n := by
  have hzero (y : Int) (hy : 0 ≤ y) : (y + (n : Int) / 2) / n = 0 ↔ 2 * y < n := by
    have hnonneg : 0 ≤ (y + (n : Int) / 2) / n := Int.ediv_nonneg (by omega) (by omega)
    have hlt : (y + (n : Int) / 2) / n < 1 ↔ y + (n : Int) / 2 < 1 * n :=
      Int.ediv_lt_iff_lt_mul (by omega)
    omega
  unfold roundAway
  split
  · rw [hzero x (by omega)]
    omega
  · rw [Int.neg_eq_zero, hzero (-x) (by omega)]
    omega

namespace ExactFilter

variable (config : CycleConfig)

/-- A step on a difference ends a window whose demand lies beyond the clamp. -/
def Cuts (e : ExactFilter) (raw : Int) : Prop :=
  e.started = true ∧ (e.sampled config raw).filterIndex = config.filterWindow.toNat ∧
    config.driftClamp.toNat < ((e.sampled config raw).unclamped config).natAbs

/-- The filter at rest after a first difference and `k` cycles that read none. The first window keeps
the step back to zero in its delta total. -/
def settled (d : Int) (k : Nat) : ExactFilter where
  started := decide (d.bmod config.period.toNat ≠ 0)
  prevRawDiff := if k = 0 then d else 0
  diffTotal := 0
  deltaTotal :=
    if d.bmod config.period.toNat ≠ 0 ∧ 0 < k ∧ k < config.filterWindow.toNat then -d else 0
  filterIndex := if d.bmod config.period.toNat = 0 then 0 else k % config.filterWindow.toNat
  adjustment := 0
  timeBase := 0

/-- A first difference that leaves the filter at rest, or a first window that is still open. -/
def Rests (d : Int) (k : Nat) : Prop :=
  d.bmod config.period.toNat = 0 ∨ 2 * d.natAbs < config.filterWindow.toNat ∨
    k < config.filterWindow.toNat

variable {config} in
theorem Rests.of_le {d : Int} {k k' : Nat} (h : Rests config d k') (hle : k ≤ k') :
    Rests config d k :=
  h.imp_right fun h => h.imp_right (Nat.lt_of_le_of_lt hle)

theorem step_zero (d : Int) : zero.step config d = settled config d 0 := by
  rw [step_of_not_started rfl]
  simp [settled, zero]

variable {config} {d : Int} {k : Nat} (hw : 0 < config.filterWindow.toNat)

section Started

variable (hstart : d.bmod config.period.toNat ≠ 0)

include hw hstart

/-- What a window adds up to with one more sample. -/
theorem sampled_settled :
    (settled config d k).sampled config 0 =
      { settled config d k with
        prevRawDiff := 0
        deltaTotal := if k < config.filterWindow.toNat then -d else 0
        filterIndex := k % config.filterWindow.toNat + 1 } := by
  have hdelta : (if d.bmod config.period.toNat ≠ 0 ∧ 0 < k ∧ k < config.filterWindow.toNat
      then -d else 0) + (0 - if k = 0 then d else 0) =
      if k < config.filterWindow.toNat then -d else 0 := by
    rcases k with _ | k
    · simp [hw]
    · simp [hstart]
  simp only [sampled, settled, hdelta, Int.zero_bmod, if_neg hstart, Int.add_zero]

/-- The adjustment that the end of a window asks for. -/
theorem unclamped_settled :
    ((settled config d k).sampled config 0).unclamped config =
      Clock.roundAway (if k < config.filterWindow.toNat then -d else 0)
        config.filterWindow.toNat := by
  rw [sampled_settled hw hstart, unclamped]
  simp [settled]

/-- The first window ends with the difference, all later ones with nothing. -/
theorem unclamped_settled_eq_zero (h : Rests config d (k + 1))
    (hend : k % config.filterWindow.toNat + 1 = config.filterWindow.toNat) :
    ((settled config d k).sampled config 0).unclamped config = 0 := by
  rw [unclamped_settled hw hstart, Clock.roundAway_eq_zero_iff _ hw]
  split
  · rename_i hk
    rw [Nat.mod_eq_of_lt hk] at hend
    rw [Int.natAbs_neg]
    rcases h with h | h | h
    · exact absurd h hstart
    · exact h
    · omega
  · exact hw

end Started

include hw

theorem not_cuts_settled (h : Rests config d (k + 1)) : ¬ (settled config d k).Cuts config 0 := by
  rintro ⟨hstarted, hend, hbeyond⟩
  have hstart : d.bmod config.period.toNat ≠ 0 := of_decide_eq_true hstarted
  rw [sampled_settled hw hstart] at hend
  rw [unclamped_settled_eq_zero hw hstart h hend] at hbeyond
  exact Nat.not_lt_zero _ hbeyond

/-- **The filter stays at rest** while the first window is open, and after it if the difference is
less than half a nanosecond for each sample. -/
theorem step_settled (h : Rests config d (k + 1)) :
    (settled config d k).step config 0 = settled config d (k + 1) := by
  by_cases hstart : d.bmod config.period.toNat = 0
  · rw [step_of_not_started (by simp [settled, hstart])]
    simp [settled, hstart]
  · rw [step_of_started (by simp [settled, hstart])]
    have hmod : (k + 1) % config.filterWindow.toNat =
        (k % config.filterWindow.toNat + 1) % config.filterWindow.toNat :=
      (Nat.mod_add_mod ..).symm
    have hlt := Nat.mod_lt k hw
    by_cases hend : k % config.filterWindow.toNat + 1 = config.filterWindow.toNat
    · -- the window ends with nothing that rounding leaves
      have hdemand := unclamped_settled_eq_zero hw hstart h hend
      have hnext : ¬ k + 1 < config.filterWindow.toNat := by
        intro hk
        rw [Nat.mod_eq_of_lt (by omega)] at hend
        omega
      rw [hend, Nat.mod_self] at hmod
      rw [if_pos (by rw [sampled_settled hw hstart]; exact hend), closed, hdemand]
      simp [slewed, sampled, settled, hstart, hmod, hnext]
    · -- the window stays open, and the index alone moves on
      have hnext : k + 1 < config.filterWindow.toNat ↔ k < config.filterWindow.toNat := by
        constructor
        · omega
        · intro hk
          rw [Nat.mod_eq_of_lt hk] at hend
          omega
      have hindex := hmod.trans (Nat.mod_eq_of_lt (by omega))
      rw [if_neg (by rw [sampled_settled hw hstart]; exact hend), sampled_settled hw hstart]
      simp only [slewed, settled, hnext, hindex, hstart, Int.zero_bmod, Int.sign_zero,
        Int.add_zero, ne_eq, not_false_eq_true, true_and, Nat.zero_lt_succ, Nat.succ_ne_zero,
        if_false]

/-- **The first window does not leave the filter at rest** if the difference is half a nanosecond for
each sample or more: the adjustment moves, unless the clamp cuts it. -/
theorem cuts_or_adjustment_ne_zero (hstart : d.bmod config.period.toNat ≠ 0)
    (hlarge : config.filterWindow.toNat ≤ 2 * d.natAbs)
    (hlast : k + 1 = config.filterWindow.toNat) :
    (settled config d k).Cuts config 0 ∨
      ((settled config d k).step config 0).adjustment ≠ 0 := by
  have hmod : k % config.filterWindow.toNat + 1 = config.filterWindow.toNat := by
    rw [Nat.mod_eq_of_lt (by omega), hlast]
  have hend : ((settled config d k).sampled config 0).filterIndex =
      config.filterWindow.toNat := by
    rw [sampled_settled hw hstart]
    exact hmod
  have hdemand : ((settled config d k).sampled config 0).unclamped config ≠ 0 := by
    rw [unclamped_settled hw hstart, if_pos (by omega), ne_eq, Clock.roundAway_eq_zero_iff _ hw,
      Int.natAbs_neg]
    omega
  have hstarted : (settled config d k).started = true := by simp [settled, hstart]
  by_cases hclamp : config.driftClamp.toNat <
      (((settled config d k).sampled config 0).unclamped config).natAbs
  · exact .inl ⟨hstarted, hend, hclamp⟩
  · right
    rw [step_of_started hstarted, if_pos hend]
    show max (-(config.driftClamp.toNat : Int)) (min (config.driftClamp.toNat : Int) _) ≠ 0
    omega

end ExactFilter

end CyclicBus
