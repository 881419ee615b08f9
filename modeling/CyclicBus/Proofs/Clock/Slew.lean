import CyclicBus.Proofs.Clock.ExactFilter
import Mathlib.Data.List.Chain

/-!
# How fast the application clock is steered

A filter step moves the time base by the adjustment and by a sign, so by the clamp and a nanosecond
at most. `slewBounded_cycles`: what follows for the time base after some cycles, for the anomalies,
and for two application times in a row. `appTimes_of_paced`: where the cycles are a period apart,
the application time goes back exactly where the time base gains more than a period, and so never
where `greatestSlew` is within the period.
-/

namespace Int64

/-- A saturating sum lies between its first word and the exact sum. -/
theorem satAdd_sub_mem (a b : Int64) :
    min 0 b.toInt ≤ (a.satAdd b).toInt - a.toInt ∧ (a.satAdd b).toInt - a.toInt ≤ max 0 b.toInt := by
  have hlo := a.le_toInt
  have hhi := a.toInt_lt
  rw [toInt_satAdd]
  omega

end Int64

namespace CyclicBus

/-- A centred difference is never positive in a period of two nanoseconds, nor in one of one. -/
theorem Clock.sign_bmod_le_zero (d : Int) {p : Nat} (hp : 0 < p) (h : p ≤ 2) :
    (d.bmod p).sign ≤ 0 := by
  have hlt := Int.bmod_lt (x := d) hp
  have hnonpos : d.bmod p ≤ 0 := by omega
  rcases Int.lt_or_eq_of_le hnonpos with hneg | hzero
  · rw [Int.sign_eq_neg_one_of_neg hneg]
    decide
  · rw [hzero]
    decide

/-! ## One filter step -/

namespace FilterInv

open ClockSync

variable {config : CycleConfig} {s : ClockState}

/-- A move of the time base lies within the clamp and a nanosecond, and forward within the clamp and
the sign of the difference. -/
theorem slew_mem {t : ClockState} (h : t.adjustment.toInt.natAbs ≤ config.driftClamp.toNat)
    (diff : Int64) :
    let moved := (slew t diff).timeBase.toInt - t.timeBase.toInt
    moved ≤ max 0 (config.driftClamp.toNat + diff.toInt.sign) ∧
      -(config.driftClamp.toNat + 1 : Int) ≤ moved := by
  have hclamp := config.driftClamp.toNat_lt
  have hsign := natAbs_sign_le diff
  have hmoved := t.timeBase.satAdd_sub_mem (t.adjustment.satAdd (Clock.sign diff))
  rw [Int64.toInt_satAdd, Clock.toInt_sign] at hmoved
  rw [Clock.toInt_sign] at hsign
  intro moved
  change min 0 _ ≤ moved ∧ moved ≤ max 0 _ at hmoved
  omega

variable (valid : config.validate = .ok ()) (inv : FilterInv config s)

include valid inv in
theorem timeBase_filter_mem :
    let moved := (ClockSync.filter config.driftParams s).2.timeBase.toInt - s.timeBase.toInt
    moved ≤ max 0 (config.driftClamp.toNat + (s.rawDiff.toInt.bmod config.period.toNat).sign) ∧
      -(config.driftClamp.toNat + 1 : Int) ≤ moved := by
  rw [← toInt_diffOf valid]
  rcases hs : s.started with _ | _
  · rw [filter_of_not_started hs]
    split
    all_goals
      dsimp only
      omega
  · rw [filter_of_started hs]
    split
    · exact slew_mem (t := closed config.driftParams s) (natAbs_closed_adjustment_le config s) _
    · exact slew_mem (t := sampled config.driftParams s) inv.adjustment_le _

end FilterInv

namespace ClockSync

variable {M : Type} [MasterSession M]

/-! ## Application times -/

/-- What a synchronisation reports. -/
def report (c : ClockSync) (x : Surroundings M) : SyncReport := (c.sync x.hardware x.now x.master).1

theorem report_eq (c : ClockSync) (x : Surroundings M) :
    (c.report x).appTime = c.timeAt x.hardware ∧ (c.report x).anomaly = c.anomalyAt x.hardware := by
  rw [report, fst_sync]
  exact ⟨rfl, rfl⟩

omit [MasterSession M] in
/-- There is an anomaly exactly where the time base is ahead of the hardware clock. -/
theorem anomalyAt_eq_none_iff (c : ClockSync) (hardware : UInt64) :
    c.anomalyAt hardware = none ↔ c.state.timeBase.toInt ≤ hardware.toNat := by
  unfold anomalyAt applicationTime
  by_cases h : (hardware.toNat : Int) < c.state.timeBase.toInt
  · simp only [if_pos h, reduceCtorEq, false_iff]
    omega
  · simp only [if_neg h, true_iff]
    omega

omit [MasterSession M] in
/-- The application time is hardware time minus time base, held at the largest word. -/
theorem applicationTime_of_le {c : ClockSync} {hardware : UInt64}
    (h : c.state.timeBase.toInt ≤ hardware.toNat) :
    c.applicationTime hardware = .ok (c.timeAt hardware) ∧
      ((c.timeAt hardware).toNat : Int) =
        min (hardware.toNat - c.state.timeBase.toInt) (UInt64.top.toNat) := by
  have hok : c.applicationTime hardware =
      .ok (.ofNatClamp (hardware.toNat - c.state.timeBase.toInt).toNat) :=
    if_neg (by omega)
  unfold timeAt
  rw [hok]
  dsimp only
  refine ⟨rfl, ?_⟩
  rw [UInt64.toNat_ofNatClamp, UInt64.toNat_top]
  have : UInt64.size = 18446744073709551616 := rfl
  omega

theorem timeBase_synced (c : ClockSync) (x : Surroundings M) :
    (c.synced x).state.timeBase = c.state.timeBase := by
  have hobserve (reading : Option UInt32) :
      (c.observe x.hardware reading).state.timeBase = c.state.timeBase := by
    unfold observe
    split <;> rfl
  unfold synced sync
  dsimp only
  split <;> exact hobserve _

end ClockSync

/-! ## Every run -/

namespace ClockInv

variable {M : Type} [MasterSession M] {config : CycleConfig} {c : ClockSync}
  (valid : config.validate = .ok ()) (inv : ClockInv config c)

include valid inv

theorem timeBase_update_mem :
    let moved := c.update.2.state.timeBase.toInt - c.state.timeBase.toInt
    moved ≤ max 0 (config.driftClamp.toNat +
        (c.state.rawDiff.toInt.bmod config.period.toNat).sign) ∧
      -(config.driftClamp.toNat + 1 : Int) ≤ moved := by
  rcases hf : c.fresh with _ | _
  · rw [ClockSync.update_of_stale inv.mode hf]
    dsimp only
    omega
  · rw [ClockSync.update_of_fresh inv.mode hf, inv.params]
    exact inv.filter.timeBase_filter_mem valid

/-- A filter step moves the time base by the clamp and a nanosecond at most. -/
theorem natAbs_timeBase_update_le :
    (c.update.2.state.timeBase.toInt - c.state.timeBase.toInt).natAbs ≤
      config.driftClamp.toNat + 1 := by
  have hmoved := inv.timeBase_update_mem valid
  have hsign := Int.sign_trichotomy (c.state.rawDiff.toInt.bmod config.period.toNat)
  dsimp only at hmoved
  omega

theorem natAbs_timeBase_cycle_le (x : Surroundings M) :
    ((c.cycle x).state.timeBase.toInt - c.state.timeBase.toInt).natAbs ≤
      config.driftClamp.toNat + 1 := by
  have hmoved := (inv.synced x).natAbs_timeBase_update_le valid
  rwa [ClockSync.timeBase_synced] at hmoved

theorem natAbs_timeBase_cycles_le (xs : List (Surroundings M)) :
    ((c.cycles xs).state.timeBase.toInt - c.state.timeBase.toInt).natAbs ≤
      xs.length * (config.driftClamp.toNat + 1) := by
  induction xs using List.reverseRecOn with
  | nil => simp [ClockSync.cycles]
  | append_singleton xs x ih =>
    have hlast := (inv.cycles valid xs).natAbs_timeBase_cycle_le valid x
    rw [ClockSync.cycles_append_singleton, List.length_append, List.length_singleton, Nat.add_mul,
      Nat.one_mul]
    omega

end ClockInv

/-- How a clock is bounded that has run for `k` cycles. -/
structure SlewBounded (M : Type) [MasterSession M] (config : CycleConfig) (k : Nat)
    (c : ClockSync) : Prop where
  timeBase_le : c.state.timeBase.toInt.natAbs ≤ k * (config.driftClamp.toNat + 1)
  /-- A synchronisation leaves the time base alone, and the filter step after it moves it by the
  clamp and a nanosecond at most. -/
  step_le : ∀ x : Surroundings M, (c.synced x).state.timeBase = c.state.timeBase ∧
    ((c.synced x).update.2.state.timeBase.toInt - (c.synced x).state.timeBase.toInt).natAbs ≤
      config.driftClamp.toNat + 1
  sound : ∀ x : Surroundings M,
    k * (config.driftClamp.toNat + 1) ≤ x.hardware.toNat → (c.report x).anomaly = none
  /-- The application time is exact, held at the largest word, and never runs below zero. -/
  applicationTime : ∀ hardware : UInt64,
    let exact : Int := hardware.toNat - c.state.timeBase.toInt
    (exact < 0 → c.applicationTime hardware = .error ⟨hardware, c.state.timeBase⟩) ∧
      (0 ≤ exact → ∃ time, c.applicationTime hardware = .ok time ∧
        (time.toNat : Int) = min exact UInt64.top.toNat)
  /-- Two application times in a row are as far apart as the hardware times, but for the clamp and a
  nanosecond. -/
  paced : ∀ x y : Surroundings M,
    (c.report x).anomaly = none → ((c.cycle x).report y).anomaly = none →
    x.hardware.toNat - c.state.timeBase.toInt ≤ UInt64.top.toNat →
    y.hardware.toNat - (c.cycle x).state.timeBase.toInt ≤ UInt64.top.toNat →
    ((((c.cycle x).report y).appTime.toNat - (c.report x).appTime.toNat : Int) -
      (y.hardware.toNat - x.hardware.toNat)).natAbs ≤ config.driftClamp.toNat + 1

namespace ClockSync

variable {M : Type} [MasterSession M] {c : ClockSync}

theorem toNat_report {x : Surroundings M} (h : (c.report x).anomaly = none) :
    ((c.report x).appTime.toNat : Int) =
      min (x.hardware.toNat - c.state.timeBase.toInt) UInt64.top.toNat := by
  obtain ⟨htime, hanomaly⟩ := c.report_eq x
  rw [hanomaly, anomalyAt_eq_none_iff] at h
  rw [htime]
  exact (applicationTime_of_le h).2

end ClockSync

section Bound

variable {M : Type} [MasterSession M]

/-- **The clock is steered slowly**: over any cycles of a clock with an accepted configuration, each
of which moves the time base by the clamp and a nanosecond at most. -/
theorem slewBounded_cycles (config : CycleConfig) (valid : config.validate = .ok ())
    (mode : config.syncMode = .masterFollowsReference) (xs : List (Surroundings M)) :
    SlewBounded M config xs.length ((ClockSync.ofParams config.driftParams).cycles xs) := by
  have start : ClockInv config (.ofParams config.driftParams) := .ofParams valid mode
  have inv := start.cycles valid xs
  have hbase := start.natAbs_timeBase_cycles_le valid xs
  rw [show (ClockSync.ofParams config.driftParams).state.timeBase.toInt = 0 from rfl,
    Int.sub_zero] at hbase
  generalize (ClockSync.ofParams config.driftParams).cycles xs = c at inv hbase
  refine ⟨hbase, ?_, ?_, ?_, ?_⟩
  · intro x
    exact ⟨c.timeBase_synced x, (inv.synced x).natAbs_timeBase_update_le valid⟩
  · intro x hx
    rw [(c.report_eq x).2, ClockSync.anomalyAt_eq_none_iff]
    omega
  · intro hardware exact
    refine ⟨fun hneg => if_pos (by omega), fun hpos => ?_⟩
    exact ⟨_, ClockSync.applicationTime_of_le (by omega)⟩
  · intro x y hx hy hfits hfits'
    have hmoved := inv.natAbs_timeBase_cycle_le valid x
    rw [ClockSync.toNat_report hx, ClockSync.toNat_report hy]
    omega

end Bound

theorem slewBounded_cycles_at_rollover :
    let config := CycleConfig.pairwise
    let c := (ClockSync.ofParams config.driftParams).cycles rollover
    config.validate = .ok () ∧ config.syncMode = .masterFollowsReference ∧
      SlewBounded ScriptedMaster config 5 c ∧ c.state.timeBase = 9 :=
  ⟨rfl, rfl, slewBounded_cycles CycleConfig.pairwise rfl rfl rollover, by decide +kernel⟩

/-! ## Cycles a period apart -/

/-- A bound on how far the time base moves forward in a cycle. -/
def CycleConfig.greatestSlew (config : CycleConfig) : Nat :=
  if config.syncMode = .referenceFollowsMaster ∨ config.period.toNat = 1 then 0
  else if config.period.toNat = 2 then config.driftClamp.toNat
  else config.driftClamp.toNat + 1

namespace ClockSync

variable {M : Type} [MasterSession M]

/-- A clock that the reference follows keeps its time base. -/
theorem timeBase_cycle_of_followed {c : ClockSync} (hm : c.params.mode = .referenceFollowsMaster)
    (x : Surroundings M) : (c.cycle x).state.timeBase = c.state.timeBase := by
  have hupdate : (c.synced x).update = (.inactive, c.synced x) := by
    unfold update updateBy
    rw [params_synced, hm]
  rw [cycle, hupdate]
  exact timeBase_synced c x

/-- With a period of one nanosecond every difference is centred to zero, and the filter never
starts. -/
theorem started_cycles_of_period_eq_one {config : CycleConfig} (valid : config.validate = .ok ())
    (mode : config.syncMode = .masterFollowsReference) (hp : config.period.toNat = 1)
    (xs : List (Surroundings M)) :
    ((ofParams config.driftParams).cycles xs).state.started = false := by
  induction xs using List.reverseRecOn with
  | nil => rfl
  | append_singleton xs x ih =>
    have inv := clockInv_cycles valid mode xs
    rw [cycles_append_singleton, state_cycle inv.mode, inv.params]
    split
    · have hzero (s : ClockState) : diffOf config.driftParams s = 0 := by
        rw [← Int64.toInt_inj, FilterInv.toInt_diffOf valid, hp, Int.bmod_one]
        rfl
      rw [filter_of_not_started (by exact ih), if_pos (hzero _)]
      exact ih
    · exact ih

/-- No cycle moves the time base further forward than the greatest slew. -/
theorem timeBase_cycle_sub_le (config : CycleConfig) (valid : config.validate = .ok ())
    (xs : List (Surroundings M)) (x : Surroundings M) :
    let c := (ofParams config.driftParams).cycles xs
    (c.cycle x).state.timeBase.toInt - c.state.timeBase.toInt ≤ config.greatestSlew := by
  intro c
  cases mode : config.syncMode with
  | referenceFollowsMaster =>
    have hm : c.params.mode = .referenceFollowsMaster := by
      rw [params_cycles]
      exact mode
    rw [timeBase_cycle_of_followed hm, Int.sub_self]
    exact Int.natCast_nonneg _
  | masterFollowsReference =>
    have inv : ClockInv config c := clockInv_cycles valid mode xs
    have hmoved := (inv.synced x).timeBase_update_mem valid
    rw [timeBase_synced] at hmoved
    change (c.cycle x).state.timeBase.toInt - _ ≤ _ ∧ _ ≤ _ at hmoved
    have hperiod := (CycleConfig.period_of_validate valid).1
    unfold CycleConfig.greatestSlew
    by_cases hone : config.period.toNat = 1
    · have hbase := (inv.filter.unarmed (started_cycles_of_period_eq_one valid mode hone xs)).1
      have hnext : (c.cycle x).state.timeBase = 0 := by
        have hstarted := started_cycles_of_period_eq_one valid mode hone (xs ++ [x])
        rw [cycles_append_singleton] at hstarted
        exact (((inv.synced x).update valid).filter.unarmed hstarted).1
      rw [if_pos (.inr hone), hbase, hnext]
      exact Int.le_refl _
    · rw [if_neg (by simp [mode, hone])]
      have hsign := Int.sign_trichotomy ((c.synced x).state.rawDiff.toInt.bmod config.period.toNat)
      by_cases htwo : config.period.toNat = 2
      · have hnonpos := Clock.sign_bmod_le_zero (c.synced x).state.rawDiff.toInt hperiod (by omega)
        rw [if_pos htwo]
        omega
      · rw [if_neg htwo]
        omega

/-- What the synchronisations of some cycles report. -/
def reports (c : ClockSync) : List (Surroundings M) → List SyncReport
  | [] => []
  | x :: xs => c.report x :: (c.cycle x).reports xs

theorem report_mem_reports (c : ClockSync) (xs ys : List (Surroundings M)) (x : Surroundings M) :
    (c.cycles xs).report x ∈ c.reports (xs ++ x :: ys) := by
  induction xs generalizing c with
  | nil => exact List.mem_cons_self
  | cons z xs ih => exact List.mem_cons_of_mem _ (ih (c.cycle z))

/-- What holds of two synchronisations in a row, wherever they are, holds along all of them. -/
theorem isChain_reports {R : SyncReport → SyncReport → Prop} {c : ClockSync}
    {xs : List (Surroundings M)}
    (h : ∀ ys x y zs, xs = ys ++ x :: y :: zs →
      R ((c.cycles ys).report x) (((c.cycles ys).cycle x).report y)) :
    (c.reports xs).IsChain R := by
  induction xs generalizing c with
  | nil => exact .nil
  | cons x xs ih =>
    cases xs with
    | nil => exact .singleton _
    | cons y zs =>
      refine .cons_cons (h [] x y zs rfl) (ih ?_)
      intro ys a b rest heq
      exact h (x :: ys) a b rest (congrArg (x :: ·) heq)

section Pair

variable {c : ClockSync} {x y : Surroundings M} {period : Nat}
  (hx : (c.report x).anomaly = none) (hy : ((c.cycle x).report y).anomaly = none)
  (paced : y.hardware.toNat = x.hardware.toNat + period)

include hx hy paced

/-- The application time goes back exactly where the time base gains more than the hardware clock. -/
theorem appTime_lt_iff :
    ((c.cycle x).report y).appTime < (c.report x).appTime ↔
      ((c.cycle x).report y).appTime < .top ∧
        period < (c.cycle x).state.timeBase.toInt - c.state.timeBase.toInt := by
  have htime := toNat_report hx
  have htime' := toNat_report hy
  rw [UInt64.lt_iff_toNat_lt, UInt64.lt_iff_toNat_lt]
  omega

/-- It goes back by no more than the time base gains on the hardware clock. -/
theorem appTime_le_add {slew : Nat}
    (hmoved : (c.cycle x).state.timeBase.toInt - c.state.timeBase.toInt ≤ slew) :
    (c.report x).appTime.toNat ≤ ((c.cycle x).report y).appTime.toNat + (slew - period) := by
  have htime := toNat_report hx
  have htime' := toNat_report hy
  omega

end Pair

end ClockSync

section Paced

variable {M : Type} [MasterSession M]

/-- **The application time goes back only where the time base outruns the clock.** Over cycles that
are a period apart and without an anomaly, it goes back exactly where the time base gains more than
a period, and by no more than the greatest slew exceeds a period. So it never goes back where the
greatest slew is within the period. -/
theorem appTimes_of_paced (config : CycleConfig) (valid : config.validate = .ok ())
    (xs : List (Surroundings M))
    (paced : xs.IsChain fun x y => y.hardware.toNat = x.hardware.toNat + config.period.toNat)
    (sound : ∀ r ∈ (ClockSync.ofParams config.driftParams).reports xs, r.anomaly = none) :
    (∀ ys x y zs, xs = ys ++ x :: y :: zs →
      let c := (ClockSync.ofParams config.driftParams).cycles ys
      let time := (c.report x).appTime
      let time' := ((c.cycle x).report y).appTime
      (time' < time ↔ time' < .top ∧
        config.period.toNat < (c.cycle x).state.timeBase.toInt - c.state.timeBase.toInt) ∧
      time.toNat ≤ time'.toNat + (config.greatestSlew - config.period.toNat)) ∧
    (config.greatestSlew ≤ config.period.toNat →
      (((ClockSync.ofParams config.driftParams).reports xs).map SyncReport.appTime).Pairwise
        (· ≤ ·)) := by
  have hpair : ∀ ys x y zs, xs = ys ++ x :: y :: zs →
      let c := (ClockSync.ofParams config.driftParams).cycles ys
      (c.report x).anomaly = none ∧ ((c.cycle x).report y).anomaly = none ∧
        y.hardware.toNat = x.hardware.toNat + config.period.toNat := by
    rintro ys x y zs rfl c
    refine ⟨sound _ (ClockSync.report_mem_reports _ ys (y :: zs) x), sound _ ?_, ?_⟩
    · have hmem := ClockSync.report_mem_reports (.ofParams config.driftParams) (ys ++ [x]) zs y
      rwa [ClockSync.cycles_append_singleton, List.append_assoc] at hmem
    · exact (List.isChain_append_cons_cons.1 paced).2.1
  have hback : ∀ ys x y zs, xs = ys ++ x :: y :: zs →
      let c := (ClockSync.ofParams config.driftParams).cycles ys
      (c.report x).appTime.toNat ≤ ((c.cycle x).report y).appTime.toNat +
        (config.greatestSlew - config.period.toNat) := by
    intro ys x y zs heq c
    obtain ⟨hx, hy, hclock⟩ := hpair ys x y zs heq
    exact ClockSync.appTime_le_add hx hy hclock
      (ClockSync.timeBase_cycle_sub_le config valid ys x)
  refine ⟨fun ys x y zs heq => ?_, fun hslew => ?_⟩
  · obtain ⟨hx, hy, hclock⟩ := hpair ys x y zs heq
    exact ⟨ClockSync.appTime_lt_iff hx hy hclock, hback ys x y zs heq⟩
  · refine List.IsChain.pairwise ((List.isChain_map _).2 (ClockSync.isChain_reports ?_))
    intro ys x y zs heq
    have hle := hback ys x y zs heq
    rw [Nat.sub_eq_zero_of_le hslew] at hle
    exact UInt64.le_iff_toNat_le.2 hle

end Paced

/-- A configuration whose filter answers to every difference at once. -/
def CycleConfig.steep (clamp : UInt32) : CycleConfig :=
  { CycleConfig.unprivileged 1000 with filterWindow := 1, driftClamp := clamp }

/-- Cycles a period apart in which the difference grows by more than a period at once. -/
def outrunning : List (Surroundings ScriptedMaster) :=
  Surroundings.scripted [(5000, some 1), (6000, some 3900), (7000, some 4900)]

/-- With a clamp just within the period the application time stands still at worst. -/
theorem appTimes_of_paced_at_standstill :
    let config := CycleConfig.steep 999
    let reports := (ClockSync.ofParams config.driftParams).reports outrunning
    config.validate = .ok () ∧
      (outrunning.IsChain fun x y =>
        y.hardware.toNat = x.hardware.toNat + config.period.toNat) ∧
      (∀ r ∈ reports, r.anomaly = none) ∧ config.greatestSlew ≤ config.period.toNat ∧
      (reports.map SyncReport.appTime).Pairwise (· ≤ ·) ∧
      reports.map SyncReport.appTime = [5000, 6000, 6000] := by
  intro config reports
  have valid : config.validate = .ok () := rfl
  have paced : outrunning.IsChain fun x y =>
      y.hardware.toNat = x.hardware.toNat + config.period.toNat := by decide +kernel
  have sound : ∀ r ∈ reports, r.anomaly = none := by decide +kernel
  have hslew : config.greatestSlew ≤ config.period.toNat := by decide +kernel
  exact ⟨valid, paced, sound, hslew, (appTimes_of_paced config valid outrunning paced sound).2 hslew,
    by decide +kernel⟩

/-- With the clamp at the period it goes back. -/
theorem not_appTimes_pairwise : ¬ ∀ (config : CycleConfig) (xs : List (Surroundings ScriptedMaster)),
    config.validate = .ok () →
    (xs.IsChain fun x y => y.hardware.toNat = x.hardware.toNat + config.period.toNat) →
    (∀ r ∈ (ClockSync.ofParams config.driftParams).reports xs, r.anomaly = none) →
    (((ClockSync.ofParams config.driftParams).reports xs).map SyncReport.appTime).Pairwise
      (· ≤ ·) := by
  intro h
  have hpairwise := h (.steep 1000) outrunning rfl (by decide +kernel) (by decide +kernel)
  revert hpairwise
  decide +kernel

end CyclicBus
