import CyclicBus.Proofs.Clock.FilterInvariant

/-!
# The division of the drift filter

`roundDiv` adds half of the divisor before it divides, and the half is held at the ends of the word.
Where it fits (`Roundable`), the quotient is the nearest integer, and of two as near the one farther
from zero (`IsNearest`). A filter step divides at most once, at the end of a window (`division?`):
`roundDiv_nearest` settles that every division of a clock that can occur is of that kind.
-/

namespace CyclicBus

/-! ## Nearest quotients -/

namespace Clock

/-- An integer that is a quotient of `x` by `n` to the nearest, ties away from zero. -/
structure IsNearest (x n q : Int) : Prop where
  near : (2 * (q * n - x)).natAbs ≤ n
  away : (2 * (q * n - x)).natAbs = n → x.natAbs < (q * n).natAbs

variable {x n q : Int}

theorem IsNearest.neg (h : IsNearest x n q) : IsNearest (-x) n (-q) := by
  obtain ⟨near, away⟩ := h
  have hq : -q * n = -(q * n) := Int.neg_mul q n
  constructor
  · rw [hq]
    omega
  · rw [hq]
    omega

/-- Of a number that is not negative, the nearest quotient is found by adding half of the divisor. -/
theorem isNearest_iff_of_nonneg (hn : 0 < n) (hx : 0 ≤ x) :
    IsNearest x n q ↔ q = (x + n / 2) / n := by
  have hself : (x + n / 2) / n * n ≤ x + n / 2 := Int.ediv_mul_le _ (by omega)
  have hnext : x + n / 2 < (x + n / 2) / n * n + n := by
    have := Int.lt_ediv_add_one_mul_self (x + n / 2) hn
    rwa [Int.add_mul, Int.one_mul] at this
  constructor
  · rintro ⟨near, away⟩
    -- a tie below is farther from zero only if it lies a whole divisor below
    have hsign : 0 ≤ q * n ∨ q * n ≤ -n := by
      by_cases hq : 0 ≤ q
      · exact .inl (Int.mul_nonneg hq hn.le)
      · have : q * n ≤ -1 * n := Int.mul_le_mul_of_nonneg_right (by omega) hn.le
        exact .inr (by omega)
    have hlow : q * n ≤ x + n / 2 := by omega
    have hhigh : x + n / 2 < (q + 1) * n := by
      rw [Int.add_mul, Int.one_mul]
      omega
    exact (Int.le_antisymm (Int.le_of_lt_add_one (Int.ediv_lt_of_lt_mul hn hhigh))
      (Int.le_ediv_of_mul_le hn hlow)).symm
  · rintro rfl
    constructor <;> omega

theorem isNearest_iff (hn : 0 < n) : IsNearest x n q ↔ q = roundAway x n := by
  unfold roundAway
  split
  · exact isNearest_iff_of_nonneg hn ‹_›
  · have hneg : IsNearest x n q ↔ IsNearest (-x) n (-q) :=
      ⟨IsNearest.neg, fun h => by simpa using h.neg⟩
    rw [hneg, isNearest_iff_of_nonneg hn (by omega)]
    omega

theorem roundAway_neg (hn : 0 < n) : roundAway (-x) n = -roundAway x n :=
  ((isNearest_iff hn).1 ((isNearest_iff hn).2 rfl).neg).symm

/-- A dividend and a divisor whose half fits on both sides. -/
structure Roundable (x n : Int64) : Prop where
  positive : 1 ≤ n.toInt
  fits : x.toInt.natAbs + n.toInt / 2 ≤ Int64.maxValue.toInt

namespace Roundable

variable {x n : Int64} (h : Roundable x n)

include h in
theorem toInt_roundDiv : (roundDiv x n).toInt = roundAway x.toInt n.toInt :=
  Clock.toInt_roundDiv h.positive h.fits

include h in
theorem toInt_neg : (-x).toInt = -x.toInt := by
  have hhalf : 0 ≤ n.toInt / 2 := Int.ediv_nonneg (by have := h.positive; omega) (by omega)
  have hfits := h.fits
  rw [Int64.toInt_maxValue] at hfits
  exact Int64.toInt_neg_of_ne (by omega)

include h in
theorem neg : Roundable (-x) n :=
  ⟨h.positive, by rw [h.toInt_neg, Int.natAbs_neg]; exact h.fits⟩

end Roundable

end Clock

/-! ## The division of a filter step -/

namespace ClockSync

/-- What a filter step divides, and by what: it divides only where it closes a window. -/
def division? (c : ClockSync) : Option (Int64 × Int64) :=
  if c.params.mode = .masterFollowsReference ∧ c.fresh = true ∧ c.state.started = true ∧
      c.params.window ≤ (sampled c.params c.state).filterIndex then
    some ((sampled c.params c.state).deltaTotal, divisor c.params)
  else none

/-! ### A filter step with any division -/

variable {div : Int64 → Int64 → Int64}

theorem filterBy_eq {p : DriftParams} {s : ClockState}
    (h : s.started = true → p.window ≤ (sampled p s).filterIndex →
      div (sampled p s).deltaTotal (divisor p) =
        Clock.roundDiv (sampled p s).deltaTotal (divisor p)) :
    filterBy div p s = filterBy Clock.roundDiv p s := by
  rcases hs : s.started with _ | _
  · unfold filterBy
    simp [hs]
  · rw [filterBy_of_started div hs, filterBy_of_started Clock.roundDiv hs]
    by_cases hw : p.window ≤ (sampled p s).filterIndex
    · have hdemand : unclampedBy div p (sampled p s) =
          unclampedBy Clock.roundDiv p (sampled p s) := by
        unfold unclampedBy
        rw [h hs hw]
      have hclosed : closeWindowBy div p (sampled p s) =
          closeWindowBy Clock.roundDiv p (sampled p s) := by
        unfold closeWindowBy
        rw [hdemand]
      rw [if_pos hw, if_pos hw, hclosed, hdemand]
    · rw [if_neg hw, if_neg hw]

/-- A filter step depends on the division only through the one that it makes. -/
theorem updateBy_eq {c : ClockSync}
    (h : ∀ x n, c.division? = some (x, n) → div x n = Clock.roundDiv x n) :
    c.updateBy div = c.update := by
  unfold update updateBy
  split
  · rfl
  · rename_i hmode
    by_cases hfresh : c.fresh = true
    · have hfilter : filterBy div c.params c.state = filterBy Clock.roundDiv c.params c.state :=
        filterBy_eq fun hs hw => h _ _ (if_pos ⟨hmode, hfresh, hs, hw⟩)
      rw [hfilter]
    · simp [hfresh]

/-! ### Clocks that can occur -/

/-- The clocks of a configuration: a new one, and those that calls lead to. -/
inductive Reachable (config : CycleConfig) : ClockSync → Prop where
  | fresh : Reachable config (.ofParams config.driftParams)
  | sync {M : Type} [MasterSession M] {c : ClockSync} (x : Surroundings M) :
    Reachable config c → Reachable config (c.synced x)
  | update {c : ClockSync} : Reachable config c → Reachable config c.update.2
  | reset {c : ClockSync} : Reachable config c → Reachable config c.reset

namespace Reachable

variable {config : CycleConfig} {c : ClockSync}

theorem params (h : Reachable config c) : c.params = config.driftParams := by
  induction h with
  | fresh => rfl
  | sync x _ ih => rw [params_synced, ih]
  | update _ ih => rw [params_update, ih]
  | reset _ ih => exact ih

theorem inv (h : Reachable config c) (valid : config.validate = .ok ())
    (mode : config.syncMode = .masterFollowsReference) : ClockInv config c := by
  induction h with
  | fresh => exact .ofParams valid mode
  | sync x _ ih => exact ih.synced x
  | update _ ih => exact ih.update valid
  | reset _ ih =>
    unfold ClockSync.reset
    rw [ih.params]
    exact .ofParams valid mode

/-- The delta total of a full window spans less than two turns of the register, and the divisor is
the window. -/
theorem roundable (h : Reachable config c) (valid : config.validate = .ok ()) {x n : Int64}
    (hdivision : c.division? = some (x, n)) : Clock.Roundable x n := by
  unfold division? at hdivision
  split at hdivision
  · rename_i hcloses
    obtain ⟨rfl, rfl⟩ := Prod.mk.inj (Option.some.inj hdivision)
    have hmode : config.syncMode = .masterFollowsReference := by
      have := hcloses.1
      rwa [h.params] at this
    have inv := (h.inv valid hmode).filter
    have hw := CycleConfig.window_of_validate valid
    have hlt := config.filterWindow.toNat_lt
    have hdelta := (inv.natAbs_sampled_totals valid).2
    rw [h.params]
    refine ⟨?_, ?_⟩
    · rw [FilterInv.toInt_divisor valid]
      omega
    · rw [FilterInv.toInt_divisor valid, Int64.toInt_maxValue]
      omega
  · cases hdivision

end Reachable

end ClockSync

/-- **Division to the nearest integer, ties away from zero.** That is what `roundDiv` does wherever
half of the divisor fits, and there it commutes with the sign. In every division that a clock with
an accepted configuration makes, the half fits: `division?` is the only one of a filter step, which
is the same with any division that agrees there. -/
theorem roundDiv_nearest :
    (∀ x n : Int64, Clock.Roundable x n →
      (∀ q : Int, Clock.IsNearest x.toInt n.toInt q ↔ q = (Clock.roundDiv x n).toInt) ∧
      (-x).toInt = -x.toInt ∧
      (Clock.roundDiv (-x) n).toInt = -(Clock.roundDiv x n).toInt) ∧
    ∀ config : CycleConfig, config.validate = .ok () → ∀ c, ClockSync.Reachable config c →
      (∀ x n, c.division? = some (x, n) → Clock.Roundable x n) ∧
      ∀ div : Int64 → Int64 → Int64,
        (∀ x n, c.division? = some (x, n) → div x n = Clock.roundDiv x n) →
          c.updateBy div = c.update := by
  refine ⟨fun x n h => ⟨fun q => ?_, h.toInt_neg, ?_⟩, fun config valid c hc =>
    ⟨fun x n => hc.roundable valid, fun div => ClockSync.updateBy_eq⟩⟩
  · rw [h.toInt_roundDiv]
    exact Clock.isNearest_iff h.positive
  · rw [h.toInt_roundDiv, h.neg.toInt_roundDiv, h.toInt_neg]
    exact Clock.roundAway_neg h.positive

/-- A clock with a full window: the differences -5, -4 and -12 were read, and the last one is still
to be used. -/
def ClockSync.brimming : ClockSync :=
  (Surroundings.scripted [(1000, some 5), (2000, some 1004), (3000, some 2012)]).foldl
    (fun c x => c.update.2.synced x) (.ofParams CycleConfig.pairwise.driftParams)

/-- The next step of that clock divides -7 by 2, which is a tie. -/
theorem roundDiv_nearest_of_brimming :
    CycleConfig.pairwise.validate = .ok () ∧
      ClockSync.Reachable CycleConfig.pairwise ClockSync.brimming ∧
      ClockSync.brimming.division? = some (-7, 2) ∧ Clock.Roundable (-7) 2 ∧
      Clock.IsNearest (-7) 2 (Clock.roundDiv (-7) 2).toInt ∧ Clock.roundDiv (-7) 2 = -4 ∧
      Clock.roundDiv 7 2 = 4 ∧
      ClockSync.brimming.updateBy (fun x n => if (x, n) = (-7, 2) then -4 else 0) =
        ClockSync.brimming.update ∧
      ClockSync.brimming.update.1 = .adjusted (-3) true := by
  have hreach : ClockSync.Reachable CycleConfig.pairwise ClockSync.brimming :=
    .sync _ (.update (.sync _ (.update (.sync _ (.update .fresh)))))
  have hdivision : ClockSync.brimming.division? = some (-7, 2) := by decide +kernel
  obtain ⟨hnearest, hclocks⟩ := roundDiv_nearest
  obtain ⟨hroundable, hstep⟩ := hclocks CycleConfig.pairwise rfl _ hreach
  have h := hroundable _ _ hdivision
  refine ⟨rfl, hreach, hdivision, h, ((hnearest _ _ h).1 _).2 rfl, by decide +kernel,
    by decide +kernel, hstep _ fun x n hxn => ?_, by decide +kernel⟩
  obtain ⟨rfl, rfl⟩ := Prod.mk.inj (Option.some.inj (hdivision.symm.trans hxn))
  decide +kernel

end CyclicBus
