import CyclicBus.Bus.ScriptedMaster
import CyclicBus.Config.Cycle
import CyclicBus.Proofs.Clock.Rounding
import CyclicBus.Proofs.Config.Validated

/-!
# What the drift filter keeps

`FilterInv` bounds the filter state of a validated configuration: the sample index lies below the
window, the adjustment within the clamp, the difference total grows by at most half a period for
each sample, and the delta total telescopes to a difference of two readings. `ClockInv.synced` and
`ClockInv.update`: every call of a clock keeps it. `FilterInv.unsaturated`: under it no saturating
operation of a filter step but the last one, on the time base, leaves its word.
-/

namespace CyclicBus

/-! ## Accepted configurations -/

namespace CycleConfig

variable {config : CycleConfig}

/-- The clamp of the filter is the clamp of the configuration. -/
theorem toInt_clamp (config : CycleConfig) :
    config.driftParams.clamp.toInt = config.driftClamp.toNat := by
  have := config.driftClamp.toNat_lt
  exact Int64.toInt_ofNat_of_lt (by omega)

theorem natAbs_bmod_period_le (h : config.validate = .ok ()) (d : Int) :
    (d.bmod config.period.toNat).natAbs ≤ 500000000 := by
  have hp := period_of_validate h
  have := Clock.natAbs_bmod_le d hp.1
  omega

end CycleConfig

namespace ClockSync

/-! ## A filter step taken apart -/

/-- The centred difference of the last reading. -/
def diffOf (p : DriftParams) (s : ClockState) : Int64 := Clock.centred s.rawDiff.toInt64 p.period

/-- The change of the difference since the filter used one. -/
def deltaOf (s : ClockState) : Int64 := s.rawDiff.toInt64 - s.prevRawDiff.toInt64

/-- The state after the last reading was taken up as a sample. -/
def sampled (p : DriftParams) (s : ClockState) : ClockState :=
  accumulate { s with prevRawDiff := s.rawDiff } (diffOf p s) (deltaOf s)

/-- The state after the window of a sample was closed. -/
def closed (p : DriftParams) (s : ClockState) : ClockState := closeWindow p (sampled p s)

variable {p : DriftParams} {s : ClockState}

/-- A filter that has not started only looks for a first difference. -/
theorem filter_of_not_started (hs : s.started = false) :
    filter p s =
      if diffOf p s = 0 then (.unarmed, { s with prevRawDiff := s.rawDiff })
      else (.armed (diffOf p s) s.appTime,
        { s with prevRawDiff := s.rawDiff, started := true, startAppTime := s.appTime }) := by
  unfold filter filterBy
  exact if_pos (by simp [hs])

/-- A filter that has started takes up the sample, and closes a full window. -/
theorem filterBy_of_started (div : Int64 → Int64 → Int64) (hs : s.started = true) :
    filterBy div p s =
      if p.window ≤ (sampled p s).filterIndex then
        (.adjusted (closeWindowBy div p (sampled p s)).adjustment
            ((closeWindowBy div p (sampled p s)).adjustment ≠ unclampedBy div p (sampled p s)),
          slew (closeWindowBy div p (sampled p s)) (diffOf p s))
      else (.tracking, slew (sampled p s) (diffOf p s)) := by
  unfold filterBy
  exact if_neg (by simp [hs])

theorem filter_of_started (hs : s.started = true) :
    filter p s =
      if p.window ≤ (sampled p s).filterIndex then
        (.adjusted (closed p s).adjustment
            ((closed p s).adjustment ≠ unclamped p (sampled p s)),
          slew (closed p s) (diffOf p s))
      else (.tracking, slew (sampled p s) (diffOf p s)) :=
  filterBy_of_started Clock.roundDiv hs

theorem toInt_deltaOf (s : ClockState) :
    (deltaOf s).toInt = s.rawDiff.toInt - s.prevRawDiff.toInt := by
  have h1 := s.rawDiff.le_toInt
  have h2 := s.rawDiff.toInt_lt
  have h3 := s.prevRawDiff.le_toInt
  have h4 := s.prevRawDiff.toInt_lt
  rw [deltaOf, Int64.toInt_sub, Int32.toInt_toInt64, Int32.toInt_toInt64,
    Int.bmod_eq_of_le_mul_two] <;> omega

theorem unclamped_eq (p : DriftParams) (s : ClockState) :
    unclamped p s = (s.adjustment.satAdd (Clock.roundDiv s.deltaTotal (divisor p))).satAdd
      (Clock.sign (s.diffTotal / divisor p)) := rfl

/-- Every saturating operation of a filter step but the one on the time base stays in its word. -/
structure Unsaturated (p : DriftParams) (s : ClockState) : Prop where
  diffTotal : Int64.Holds (s.diffTotal.toInt + (diffOf p s).toInt)
  deltaTotal : Int64.Holds (s.deltaTotal.toInt + (deltaOf s).toInt)
  filterIndex : s.filterIndex.toNat + 1 < UInt32.size
  /-- The half that rounding adds or takes away. -/
  half : Int64.Holds ((sampled p s).deltaTotal.toInt + (divisor p / 2).toInt) ∧
    Int64.Holds ((sampled p s).deltaTotal.toInt - (divisor p / 2).toInt)
  mean : Int64.Holds
    (s.adjustment.toInt + (Clock.roundDiv (sampled p s).deltaTotal (divisor p)).toInt)
  trend : Int64.Holds
    (s.adjustment.toInt + (Clock.roundDiv (sampled p s).deltaTotal (divisor p)).toInt +
      (Clock.sign ((sampled p s).diffTotal / divisor p)).toInt)
  /-- The step of the time base inside a window, and at its end. -/
  slewed : Int64.Holds (s.adjustment.toInt + (Clock.sign (diffOf p s)).toInt) ∧
    Int64.Holds ((closed p s).adjustment.toInt + (Clock.sign (diffOf p s)).toInt)

/-! ## The delta total -/

/-- The delta total telescopes: it is the difference used last minus one used before. -/
structure Telescopes (s : ClockState) : Prop where
  anchored : ∃ anchor : Int32, s.deltaTotal.toInt = s.prevRawDiff.toInt - anchor.toInt
  unarmed : s.started = false → s.deltaTotal = 0

namespace Telescopes

theorem zero : Telescopes .zero := ⟨⟨0, rfl⟩, fun _ => rfl⟩

theorem observe (h : Telescopes s) (appTime : UInt64) (rawDiff : Int32) :
    Telescopes { s with appTime, rawDiff } := ⟨h.anchored, h.unarmed⟩

theorem holds (h : Telescopes s) : Int64.Holds (s.deltaTotal.toInt + (deltaOf s).toInt) := by
  obtain ⟨anchor, htotal⟩ := h.anchored
  have := anchor.le_toInt
  have := anchor.toInt_lt
  have := s.rawDiff.le_toInt
  have := s.rawDiff.toInt_lt
  rw [toInt_deltaOf, htotal]
  unfold Int64.Holds
  omega

theorem toInt_sampled (h : Telescopes s) (p : DriftParams) :
    (sampled p s).deltaTotal.toInt = s.deltaTotal.toInt + (deltaOf s).toInt :=
  Int64.toInt_satAdd_of_holds h.holds

/-- The delta total after a sample is again a difference of two readings. -/
theorem anchored_sampled (h : Telescopes s) (p : DriftParams) : ∃ anchor : Int32,
    (sampled p s).deltaTotal.toInt = s.rawDiff.toInt - anchor.toInt := by
  obtain ⟨anchor, htotal⟩ := h.anchored
  refine ⟨anchor, ?_⟩
  rw [h.toInt_sampled, toInt_deltaOf, htotal]
  omega

theorem filter (h : Telescopes s) (p : DriftParams) : Telescopes (ClockSync.filter p s).2 := by
  rcases hs : s.started with _ | _
  · have hanchor : s.deltaTotal.toInt = s.rawDiff.toInt - s.rawDiff.toInt := by
      rw [h.unarmed hs, Int.sub_self]
      rfl
    rw [filter_of_not_started hs]
    split <;> exact ⟨⟨s.rawDiff, hanchor⟩, fun _ => h.unarmed hs⟩
  · rw [filter_of_started hs]
    split
    · exact ⟨⟨s.rawDiff, (Int.sub_self _).symm⟩, fun _ => rfl⟩
    · exact ⟨h.anchored_sampled p, fun h => nomatch hs.symm.trans h⟩

end Telescopes

end ClockSync

/-! ## The invariant -/

/-- What holds of the filter state between two calls. -/
structure FilterInv (config : CycleConfig) (s : ClockState) : Prop where
  index_lt : s.filterIndex.toNat < config.filterWindow.toNat
  adjustment_le : s.adjustment.toInt.natAbs ≤ config.driftClamp.toNat
  diffTotal_le : s.diffTotal.toInt.natAbs ≤ 500000000 * s.filterIndex.toNat
  /-- The delta total telescopes: it is the difference used last minus one used before. -/
  deltaTotal_eq : ∃ anchor : Int32, s.deltaTotal.toInt = s.prevRawDiff.toInt - anchor.toInt
  unarmed : s.started = false → s.timeBase = 0 ∧ s.adjustment = 0 ∧ s.diffTotal = 0 ∧
    s.deltaTotal = 0 ∧ s.filterIndex = 0

namespace FilterInv

open ClockSync

variable {config : CycleConfig} {s : ClockState} (valid : config.validate = .ok ())
  (inv : FilterInv config s)

include valid in
theorem zero : FilterInv config .zero where
  index_lt := CycleConfig.window_of_validate valid
  adjustment_le := Nat.zero_le _
  diffTotal_le := Nat.zero_le _
  deltaTotal_eq := ⟨0, rfl⟩
  unarmed _ := ⟨rfl, rfl, rfl, rfl, rfl⟩

include valid in
theorem toInt_diffOf (s : ClockState) :
    (diffOf config.driftParams s).toInt = s.rawDiff.toInt.bmod config.period.toNat := by
  have hp := (CycleConfig.period_of_validate valid).1
  rw [diffOf, Clock.toInt_centred, Int32.toInt_toInt64]
  show s.rawDiff.toInt.bmod (max config.period.toNat 1) = _
  rw [Nat.max_eq_left hp]

include valid in
theorem toInt_divisor : (divisor config.driftParams).toInt = config.filterWindow.toNat := by
  have hw := CycleConfig.window_of_validate valid
  have hlt := config.filterWindow.toNat_lt
  rw [divisor, Int64.toInt_max]
  show max (Int64.ofNat config.filterWindow.toNat).toInt 1 = _
  rw [Int64.toInt_ofNat_of_lt (by omega)]
  omega

/-! ### One more sample -/

include valid inv in
theorem holds_diffTotal :
    Int64.Holds (s.diffTotal.toInt + (diffOf config.driftParams s).toInt) := by
  have hd := CycleConfig.natAbs_bmod_period_le valid s.rawDiff.toInt
  have htotal := inv.diffTotal_le
  have hindex := s.filterIndex.toNat_lt
  rw [toInt_diffOf valid]
  unfold Int64.Holds
  omega

include inv in
theorem telescopes : Telescopes s := ⟨inv.deltaTotal_eq, fun hs => (inv.unarmed hs).2.2.2.1⟩

include valid inv in
theorem toInt_sampled_diffTotal :
    (sampled config.driftParams s).diffTotal.toInt =
      s.diffTotal.toInt + s.rawDiff.toInt.bmod config.period.toNat := by
  have hholds := inv.holds_diffTotal valid
  rw [← toInt_diffOf valid]
  exact Int64.toInt_satAdd_of_holds hholds

include inv in
theorem toInt_sampled_deltaTotal :
    (sampled config.driftParams s).deltaTotal.toInt =
      s.deltaTotal.toInt + (s.rawDiff.toInt - s.prevRawDiff.toInt) := by
  rw [← toInt_deltaOf]
  exact inv.telescopes.toInt_sampled _

include inv in
theorem toNat_sampled_filterIndex :
    (sampled config.driftParams s).filterIndex.toNat = s.filterIndex.toNat + 1 := by
  have hindex := inv.index_lt
  have hlt := config.filterWindow.toNat_lt
  have hsize : s.filterIndex.toNat + 1 < UInt32.size := by change _ < 4294967296; omega
  exact UInt32.toNat_ofNatClamp_of_lt hsize

/-! ### The end of a window -/

include valid inv in
theorem natAbs_sampled_totals :
    (sampled config.driftParams s).diffTotal.toInt.natAbs ≤ 500000000 * (s.filterIndex.toNat + 1) ∧
      (sampled config.driftParams s).deltaTotal.toInt.natAbs ≤ 4294967295 := by
  have hd := CycleConfig.natAbs_bmod_period_le valid s.rawDiff.toInt
  have htotal := inv.diffTotal_le
  obtain ⟨anchor, hdelta⟩ := inv.telescopes.anchored_sampled config.driftParams
  have := anchor.le_toInt
  have := anchor.toInt_lt
  have := s.rawDiff.le_toInt
  have := s.rawDiff.toInt_lt
  rw [inv.toInt_sampled_diffTotal valid, hdelta]
  omega

include valid inv in
theorem toInt_mean :
    (Clock.roundDiv (sampled config.driftParams s).deltaTotal (divisor config.driftParams)).toInt =
      Clock.roundAway (sampled config.driftParams s).deltaTotal.toInt config.filterWindow.toNat := by
  have hw := CycleConfig.window_of_validate valid
  have hlt := config.filterWindow.toNat_lt
  have hdelta := (inv.natAbs_sampled_totals valid).2
  rw [← toInt_divisor valid]
  refine Clock.toInt_roundDiv ?_ ?_ <;> rw [toInt_divisor valid] <;> omega

include valid in
theorem toInt_trend (x : Int64) :
    (Clock.sign (x / divisor config.driftParams)).toInt =
      (x.toInt.tdiv config.filterWindow.toNat).sign := by
  have hw := CycleConfig.window_of_validate valid
  rw [Clock.toInt_sign, Int64.toInt_div_of_pos (by rw [toInt_divisor valid]; omega),
    toInt_divisor valid]

include valid inv in
theorem natAbs_mean_le :
    (Clock.roundDiv (sampled config.driftParams s).deltaTotal
      (divisor config.driftParams)).toInt.natAbs ≤ 4294967295 := by
  have hw := CycleConfig.window_of_validate valid
  have hdelta := (inv.natAbs_sampled_totals valid).2
  rw [inv.toInt_mean valid]
  exact (Clock.natAbs_roundAway_le _ (by omega)).trans hdelta

theorem natAbs_sign_le (x : Int64) : (Clock.sign x).toInt.natAbs ≤ 1 := by
  rw [Clock.toInt_sign, Int.natAbs_sign]
  split <;> decide

/-- The adjustment after the end of a window is the clamped demand. -/
theorem toInt_closed_adjustment (config : CycleConfig) (s : ClockState) :
    (closed config.driftParams s).adjustment.toInt =
      max (-(config.driftClamp.toNat : Int)) (min (config.driftClamp.toNat : Int)
        (unclamped config.driftParams (sampled config.driftParams s)).toInt) := by
  have hclamp := config.toInt_clamp
  show (clampTo config.driftParams.clamp.abs (unclamped _ _)).toInt = _
  rw [Int64.toInt_abs_of_nonneg (by omega), toInt_clampTo _ (by omega), hclamp]

theorem natAbs_closed_adjustment_le (config : CycleConfig) (s : ClockState) :
    (closed config.driftParams s).adjustment.toInt.natAbs ≤ config.driftClamp.toNat := by
  rw [toInt_closed_adjustment]
  omega

include valid inv in
/-- No saturating operation of a filter step but the one on the time base leaves its word. -/
theorem unsaturated : Unsaturated config.driftParams s := by
  have hw := CycleConfig.window_of_validate valid
  have hwlt := config.filterWindow.toNat_lt
  have hclamp := config.driftClamp.toNat_lt
  have hindex := inv.index_lt
  have hadj := inv.adjustment_le
  have hclosed := natAbs_closed_adjustment_le config s
  have hdelta := (inv.natAbs_sampled_totals valid).2
  have hmean := inv.natAbs_mean_le valid
  have hhalf : (divisor config.driftParams / 2).toInt = (config.filterWindow.toNat : Int) / 2 := by
    rw [Int64.toInt_div_of_pos (by decide), toInt_divisor valid,
      show (2 : Int64).toInt = 2 from rfl, Int.tdiv_eq_ediv_of_nonneg (by omega)]
  have htrend :=
    natAbs_sign_le ((sampled config.driftParams s).diffTotal / divisor config.driftParams)
  have hspot := natAbs_sign_le (diffOf config.driftParams s)
  refine ⟨inv.holds_diffTotal valid, inv.telescopes.holds, ?_, ?_, ?_, ?_, ?_⟩
  · show _ < 4294967296
    omega
  · rw [hhalf]
    unfold Int64.Holds
    omega
  all_goals
    unfold Int64.Holds
    omega

include valid inv in
/-- The demand of a window, without saturation. -/
theorem toInt_unclamped :
    (unclamped config.driftParams (sampled config.driftParams s)).toInt =
      s.adjustment.toInt +
        Clock.roundAway (sampled config.driftParams s).deltaTotal.toInt config.filterWindow.toNat +
        ((sampled config.driftParams s).diffTotal.toInt.tdiv config.filterWindow.toNat).sign := by
  have h := inv.unsaturated valid
  have hmean := Int64.toInt_satAdd_of_holds h.mean
  have htrend := h.trend
  rw [← hmean] at htrend
  rw [unclamped_eq]
  show ((s.adjustment.satAdd _).satAdd _).toInt = _
  rw [Int64.toInt_satAdd_of_holds htrend, hmean, inv.toInt_mean valid, toInt_trend valid]

/-! ### The invariant is kept -/

include inv in
/-- A synchronisation leaves alone what the invariant is about. -/
theorem observe (appTime : UInt64) (rawDiff : Int32) :
    FilterInv config { s with appTime, rawDiff } :=
  ⟨inv.index_lt, inv.adjustment_le, inv.diffTotal_le, inv.deltaTotal_eq, inv.unarmed⟩

include valid inv in
theorem filter : FilterInv config (ClockSync.filter config.driftParams s).2 := by
  have hw := CycleConfig.window_of_validate valid
  have hanchored := (inv.telescopes.filter config.driftParams).anchored
  rcases hs : s.started with _ | _
  · rw [filter_of_not_started hs] at hanchored ⊢
    split at hanchored
    · rename_i hzero
      rw [if_pos hzero]
      exact ⟨inv.index_lt, inv.adjustment_le, inv.diffTotal_le, hanchored, fun _ => inv.unarmed hs⟩
    · rename_i hnonzero
      rw [if_neg hnonzero]
      exact ⟨inv.index_lt, inv.adjustment_le, inv.diffTotal_le, hanchored, fun h => nomatch h⟩
  · rw [filter_of_started hs]
    split
    · exact ⟨hw, natAbs_closed_adjustment_le config s, Nat.zero_le _,
        ⟨s.rawDiff, (Int.sub_self _).symm⟩, fun h => nomatch hs.symm.trans h⟩
    · rename_i hopen
      rw [UInt32.le_iff_toNat_le, inv.toNat_sampled_filterIndex] at hopen
      change ¬ config.filterWindow.toNat ≤ _ at hopen
      refine ⟨?_, inv.adjustment_le, ?_, inv.telescopes.anchored_sampled config.driftParams,
        fun h => nomatch hs.symm.trans h⟩
      · show (sampled config.driftParams s).filterIndex.toNat < _
        rw [inv.toNat_sampled_filterIndex]
        omega
      · show (sampled config.driftParams s).diffTotal.toInt.natAbs ≤
          500000000 * (sampled config.driftParams s).filterIndex.toNat
        rw [inv.toNat_sampled_filterIndex]
        exact (inv.natAbs_sampled_totals valid).1

end FilterInv

/-! ## Calls of a clock -/

/-- What a synchronisation finds: the hardware clock, the clock as the master reads it, and the
session with the master as it is then. -/
structure Surroundings (M : Type) where
  hardware : UInt64
  now : UInt64
  master : M

/-- Hardware readings, each with what a scripted master answers to it. -/
def Surroundings.scripted (cycles : List (UInt64 × Option UInt32)) :
    List (Surroundings ScriptedMaster) :=
  cycles.map fun x => ⟨x.1, x.1, { ScriptedMaster.ofDomainSize 0 with fallback := x.2 }⟩

/-- A configuration whose windows have two samples. -/
def CycleConfig.pairwise : CycleConfig :=
  { CycleConfig.unprivileged 1000 with filterWindow := 2, driftClamp := 3 }

namespace ClockSync

variable {M : Type} [MasterSession M]

/-- The reading that a synchronisation gets. -/
def readingOf (c : ClockSync) (x : Surroundings M) : Option UInt32 :=
  (MasterSession.referenceTime x.now
    (MasterSession.setApplicationTime (c.timeAt x.hardware) x.master)).1.toOption

def synced (c : ClockSync) (x : Surroundings M) : ClockSync :=
  (c.sync x.hardware x.now x.master).2.1

/-- What a synchronisation reports: a failed reading only where the master follows the reference. -/
theorem fst_sync (c : ClockSync) (x : Surroundings M) :
    (c.sync x.hardware x.now x.master).1 =
      ⟨c.timeAt x.hardware, c.anomalyAt x.hardware,
        decide (c.params.mode = .masterFollowsReference) && (c.readingOf x).isNone⟩ := by
  unfold sync readingOf
  cases c.params.mode <;> rfl

theorem synced_eq {c : ClockSync} (hm : c.params.mode = .masterFollowsReference)
    (x : Surroundings M) : c.synced x = c.observe x.hardware (c.readingOf x) := by
  unfold synced sync readingOf
  rw [hm]

/-- A reading is kept as its difference to the last application time, for the filter to use. -/
theorem synced_of_reading {c : ClockSync} (hm : c.params.mode = .masterFollowsReference)
    {x : Surroundings M} {reference : UInt32} (hr : c.readingOf x = some reference) :
    c.synced x =
      { c with
        state :=
          { c.state with
            appTime := c.timeAt x.hardware
            rawDiff := Clock.lowDiff c.state.appTime reference }
        fresh := true } := by
  rw [synced_eq hm, hr]
  unfold observe
  rw [hm]

/-- A failed reading leaves nothing for the filter. -/
theorem synced_of_failure {c : ClockSync} (hm : c.params.mode = .masterFollowsReference)
    {x : Surroundings M} (hr : c.readingOf x = none) :
    c.synced x =
      { c with state := { c.state with appTime := c.timeAt x.hardware }, fresh := false } := by
  rw [synced_eq hm, hr]
  unfold observe
  rw [hm]

/-- A synchronisation leaves the filter alone but for the difference that it shows. -/
theorem state_synced {c : ClockSync} (hm : c.params.mode = .masterFollowsReference)
    (x : Surroundings M) :
    ∃ appTime rawDiff, (c.synced x).state = { c.state with appTime, rawDiff } := by
  cases hr : c.readingOf x with
  | none =>
    rw [synced_of_failure hm hr]
    exact ⟨_, c.state.rawDiff, rfl⟩
  | some reference =>
    rw [synced_of_reading hm hr]
    exact ⟨_, _, rfl⟩

theorem params_sync (c : ClockSync) (hardware now : UInt64) (m : M) :
    (c.sync hardware now m).2.1.params = c.params := by
  have hobserve (reading : Option UInt32) : (c.observe hardware reading).params = c.params := by
    unfold observe
    split <;> rfl
  unfold sync
  dsimp only
  split <;> exact hobserve _

theorem params_synced (c : ClockSync) (x : Surroundings M) : (c.synced x).params = c.params :=
  c.params_sync _ _ _

omit [MasterSession M] in
theorem params_update (c : ClockSync) : c.update.2.params = c.params := by
  unfold update updateBy
  split
  · rfl
  · split <;> rfl

theorem update_of_fresh {c : ClockSync} (hm : c.params.mode = .masterFollowsReference)
    (hf : c.fresh = true) :
    c.update = ((filter c.params c.state).1,
      { c with state := (filter c.params c.state).2, fresh := false }) := by
  unfold update updateBy
  rw [hm, hf]
  rfl

theorem update_of_stale {c : ClockSync} (hm : c.params.mode = .masterFollowsReference)
    (hf : c.fresh = false) : c.update = (.skipped, c) := by
  unfold update updateBy
  rw [hm, hf]
  rfl

end ClockSync

/-! ## The invariant of a clock -/

/-- A clock with the parameters of a configuration in which the master follows the reference, and
with a filter that keeps its invariant. -/
structure ClockInv (config : CycleConfig) (c : ClockSync) : Prop where
  params : c.params = config.driftParams
  mode : c.params.mode = .masterFollowsReference
  filter : FilterInv config c.state

namespace ClockInv

variable {M : Type} [MasterSession M] {config : CycleConfig} {c : ClockSync}

theorem ofParams (valid : config.validate = .ok ())
    (mode : config.syncMode = .masterFollowsReference) :
    ClockInv config (.ofParams config.driftParams) :=
  ⟨rfl, mode, FilterInv.zero valid⟩

theorem synced (inv : ClockInv config c) (x : Surroundings M) : ClockInv config (c.synced x) := by
  have hparams := c.params_synced x
  obtain ⟨appTime, rawDiff, hstate⟩ := ClockSync.state_synced inv.mode x
  refine ⟨hparams.trans inv.params, hparams ▸ inv.mode, ?_⟩
  rw [hstate]
  exact inv.filter.observe appTime rawDiff

theorem update (inv : ClockInv config c) (valid : config.validate = .ok ()) :
    ClockInv config c.update.2 := by
  rcases hf : c.fresh with _ | _
  · rw [ClockSync.update_of_stale inv.mode hf]
    exact inv
  · rw [ClockSync.update_of_fresh inv.mode hf]
    refine ⟨inv.params, inv.mode, ?_⟩
    rw [inv.params]
    exact inv.filter.filter valid

end ClockInv

end CyclicBus
