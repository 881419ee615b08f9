import CyclicBus.Proofs.Clock.FilterInvariant
import Mathlib.Data.List.Induction
import Mathlib.Data.List.Infix

/-!
# The drift filter on integers

`ExactFilter` is the rule of the filter without words: totals, adjustment and time base are plain
integers, and nothing saturates. `cycles_refine_exact`: over any cycles a clock computes the totals,
the sample index and the adjustment of the exact filter, and its time base as long as that stays a
word; so does the exact clock that reads its application time off its own time base.
-/

namespace CyclicBus

/-! ## The exact filter -/

/-- The filter state (nanoseconds). -/
structure ExactFilter where
  started : Bool
  prevRawDiff : Int
  diffTotal : Int
  deltaTotal : Int
  filterIndex : Nat
  adjustment : Int
  timeBase : Int

namespace ExactFilter

variable (config : CycleConfig)

def zero : ExactFilter := ⟨false, 0, 0, 0, 0, 0, 0⟩

/-- The adjustment that a window asks for: the mean change of the difference, to the nearest, and
the sign of the mean difference. -/
def unclamped (e : ExactFilter) : Int :=
  e.adjustment + Clock.roundAway e.deltaTotal config.filterWindow.toNat +
    (e.diffTotal.tdiv config.filterWindow.toNat).sign

def sampled (raw : Int) (e : ExactFilter) : ExactFilter :=
  { e with
    prevRawDiff := raw
    diffTotal := e.diffTotal + raw.bmod config.period.toNat
    deltaTotal := e.deltaTotal + (raw - e.prevRawDiff)
    filterIndex := e.filterIndex + 1 }

def closed (e : ExactFilter) : ExactFilter :=
  { e with
    adjustment := max (-config.driftClamp.toNat) (min config.driftClamp.toNat (e.unclamped config))
    diffTotal := 0
    deltaTotal := 0
    filterIndex := 0 }

/-- The step of the time base in a cycle. -/
def slewed (raw : Int) (e : ExactFilter) : ExactFilter :=
  { e with timeBase := e.timeBase + e.adjustment + (raw.bmod config.period.toNat).sign }

def step (raw : Int) (e : ExactFilter) : ExactFilter :=
  if e.started then
    let e := e.sampled config raw
    (if e.filterIndex = config.filterWindow.toNat then e.closed config else e).slewed config raw
  else { e with prevRawDiff := raw, started := decide (raw.bmod config.period.toNat ≠ 0) }

variable {config} in
theorem step_of_started {e : ExactFilter} (h : e.started = true) (raw : Int) :
    e.step config raw =
      (if (e.sampled config raw).filterIndex = config.filterWindow.toNat then
        (e.sampled config raw).closed config else e.sampled config raw).slewed config raw :=
  if_pos h

variable {config} in
theorem step_of_not_started {e : ExactFilter} (h : e.started = false) (raw : Int) :
    e.step config raw =
      { e with prevRawDiff := raw, started := decide (raw.bmod config.period.toNat ≠ 0) } :=
  if_neg (by rw [h]; decide)

/-- A cycle without a difference leaves the filter alone. -/
def feed (e : ExactFilter) (raw : Option Int) : ExactFilter :=
  match raw with
  | some raw => e.step config raw
  | none => e

def run (raws : List (Option Int)) : ExactFilter := raws.foldl (feed config) zero

end ExactFilter

/-! ## One step of word and integer -/

/-- A filter state shows the values of an exact one, the time base apart. -/
structure Agrees (s : ClockState) (e : ExactFilter) : Prop where
  started : s.started = e.started
  prevRawDiff : s.prevRawDiff.toInt = e.prevRawDiff
  diffTotal : s.diffTotal.toInt = e.diffTotal
  deltaTotal : s.deltaTotal.toInt = e.deltaTotal
  filterIndex : s.filterIndex.toNat = e.filterIndex
  adjustment : s.adjustment.toInt = e.adjustment

namespace Agrees

open ClockSync

variable {config : CycleConfig} {s : ClockState} {e : ExactFilter}

theorem zero : Agrees .zero .zero := ⟨rfl, rfl, rfl, rfl, rfl, rfl⟩

theorem observe (h : Agrees s e) (appTime : UInt64) (rawDiff : Int32) :
    Agrees { s with appTime, rawDiff } e :=
  ⟨h.started, h.prevRawDiff, h.diffTotal, h.deltaTotal, h.filterIndex, h.adjustment⟩

theorem slew (h : Agrees s e) (diff : Int64) (raw : Int) :
    Agrees (ClockSync.slew s diff) (e.slewed config raw) :=
  ⟨h.started, h.prevRawDiff, h.diffTotal, h.deltaTotal, h.filterIndex, h.adjustment⟩

variable (valid : config.validate = .ok ()) (inv : FilterInv config s)

include valid inv in
theorem sampled (h : Agrees s e) :
    Agrees (ClockSync.sampled config.driftParams s) (e.sampled config s.rawDiff.toInt) where
  started := h.started
  prevRawDiff := rfl
  diffTotal := by
    rw [inv.toInt_sampled_diffTotal valid, h.diffTotal]
    rfl
  deltaTotal := by
    rw [inv.toInt_sampled_deltaTotal, h.deltaTotal, h.prevRawDiff]
    rfl
  filterIndex := by
    rw [inv.toNat_sampled_filterIndex, h.filterIndex]
    rfl
  adjustment := h.adjustment

include valid inv in
/-- The word that a window asks for is the exact one. -/
theorem unclamped (h : Agrees s e) :
    (ClockSync.unclamped config.driftParams (ClockSync.sampled config.driftParams s)).toInt =
      (e.sampled config s.rawDiff.toInt).unclamped config := by
  have hs := h.sampled valid inv
  rw [inv.toInt_unclamped valid, hs.deltaTotal, hs.diffTotal, h.adjustment]
  rfl

include valid inv in
theorem closed (h : Agrees s e) :
    Agrees (ClockSync.closed config.driftParams s)
      ((e.sampled config s.rawDiff.toInt).closed config) where
  started := h.started
  prevRawDiff := rfl
  diffTotal := rfl
  deltaTotal := rfl
  filterIndex := rfl
  adjustment := by
    rw [FilterInv.toInt_closed_adjustment, h.unclamped valid inv]
    rfl

include inv in
/-- The code compares with the window from below; the index never jumps over it. -/
theorem window_le_iff :
    config.driftParams.window ≤ (ClockSync.sampled config.driftParams s).filterIndex ↔
      (ClockSync.sampled config.driftParams s).filterIndex.toNat = config.filterWindow.toNat := by
  have hindex := inv.index_lt
  have hsampled := inv.toNat_sampled_filterIndex
  rw [UInt32.le_iff_toNat_le]
  show config.filterWindow.toNat ≤ _ ↔ _
  omega

include valid inv in
theorem step (h : Agrees s e) :
    Agrees (filter config.driftParams s).2 (e.step config s.rawDiff.toInt) := by
  rcases hs : s.started with _ | _
  · rw [filter_of_not_started hs, ExactFilter.step_of_not_started (h.started.symm.trans hs)]
    have hdiff : diffOf config.driftParams s = 0 ↔ s.rawDiff.toInt.bmod config.period.toNat = 0 := by
      rw [← Int64.toInt_inj, FilterInv.toInt_diffOf valid]
      rfl
    by_cases h0 : diffOf config.driftParams s = 0
    · rw [if_pos h0]
      exact ⟨by simp [hs, hdiff.1 h0], rfl, h.diffTotal, h.deltaTotal, h.filterIndex, h.adjustment⟩
    · rw [if_neg h0]
      exact ⟨by simpa using mt hdiff.2 h0, rfl, h.diffTotal, h.deltaTotal, h.filterIndex,
        h.adjustment⟩
  · rw [filter_of_started hs, ExactFilter.step_of_started (h.started.symm.trans hs)]
    have hwindow := window_le_iff inv
    rw [(h.sampled valid inv).filterIndex] at hwindow
    by_cases hw : config.driftParams.window ≤ (ClockSync.sampled config.driftParams s).filterIndex
    · rw [if_pos hw, if_pos (hwindow.1 hw)]
      exact (h.closed valid inv).slew _ _
    · rw [if_neg hw, if_neg (mt hwindow.2 hw)]
      exact (h.sampled valid inv).slew _ _

include valid in
/-- The step of the time base is exact where its result is a word. -/
theorem timeBase_slew {t : ClockState} (h : Agrees t e) (hbase : t.timeBase.toInt = e.timeBase)
    (hspot : Int64.Holds
      (t.adjustment.toInt + (Clock.sign (diffOf config.driftParams s)).toInt))
    (holds : Int64.Holds (e.slewed config s.rawDiff.toInt).timeBase) :
    (ClockSync.slew t (diffOf config.driftParams s)).timeBase.toInt =
      (e.slewed config s.rawDiff.toInt).timeBase := by
  have hsign : (Clock.sign (diffOf config.driftParams s)).toInt =
      (s.rawDiff.toInt.bmod config.period.toNat).sign := by
    rw [Clock.toInt_sign, FilterInv.toInt_diffOf valid]
  have hstep := Int64.toInt_satAdd_of_holds hspot
  rw [hsign, h.adjustment] at hstep
  have hexact : (e.slewed config s.rawDiff.toInt).timeBase =
      t.timeBase.toInt + (t.adjustment.satAdd (Clock.sign (diffOf config.driftParams s))).toInt := by
    rw [hstep, hbase, ← Int.add_assoc]
    rfl
  rw [hexact] at holds ⊢
  exact Int64.toInt_satAdd_of_holds holds

include valid inv in
/-- The time base stays exact as long as it is a word. -/
theorem timeBase_step (h : Agrees s e) (hbase : s.timeBase.toInt = e.timeBase)
    (holds : Int64.Holds (e.step config s.rawDiff.toInt).timeBase) :
    (filter config.driftParams s).2.timeBase.toInt = (e.step config s.rawDiff.toInt).timeBase := by
  have hspot := (inv.unsaturated valid).slewed
  rcases hs : s.started with _ | _
  · rw [filter_of_not_started hs, ExactFilter.step_of_not_started (h.started.symm.trans hs)]
    split <;> exact hbase
  · rw [ExactFilter.step_of_started (h.started.symm.trans hs)] at holds ⊢
    rw [filter_of_started hs]
    have hwindow := window_le_iff inv
    rw [(h.sampled valid inv).filterIndex] at hwindow
    by_cases hw : config.driftParams.window ≤ (ClockSync.sampled config.driftParams s).filterIndex
    · rw [if_pos (hwindow.1 hw)] at holds ⊢
      rw [if_pos hw]
      exact timeBase_slew valid (h.closed valid inv) hbase hspot.2 holds
    · rw [if_neg (mt hwindow.2 hw)] at holds ⊢
      rw [if_neg hw]
      exact timeBase_slew valid (h.sampled valid inv) hbase hspot.1 holds

end Agrees

/-! ## Cycles of a clock -/

namespace ClockSync

variable {M : Type} [MasterSession M]

/-- A cycle of a clock: synchronise, then step the filter. -/
def cycle (c : ClockSync) (x : Surroundings M) : ClockSync := (c.synced x).update.2

def cycles (c : ClockSync) (xs : List (Surroundings M)) : ClockSync := xs.foldl cycle c

/-- The difference that a cycle reads, if it reads one: the last application time minus the
reference, as far as 32 bits show it. -/
def rawDiffOf (c : ClockSync) (x : Surroundings M) : Option Int :=
  (c.readingOf x).map fun reference =>
    ((c.state.appTime.toNat : Int) - reference.toNat).bmod 4294967296

/-- The differences that some cycles read. -/
def rawDiffs (c : ClockSync) : List (Surroundings M) → List (Option Int)
  | [] => []
  | x :: xs => c.rawDiffOf x :: (c.cycle x).rawDiffs xs

theorem cycles_append_singleton (c : ClockSync) (xs : List (Surroundings M)) (x : Surroundings M) :
    c.cycles (xs ++ [x]) = (c.cycles xs).cycle x := by
  simp [cycles]

theorem rawDiffs_append_singleton (c : ClockSync) (xs : List (Surroundings M))
    (x : Surroundings M) :
    c.rawDiffs (xs ++ [x]) = c.rawDiffs xs ++ [(c.cycles xs).rawDiffOf x] := by
  induction xs generalizing c with
  | nil => rfl
  | cons y ys ih => exact congrArg (c.rawDiffOf y :: ·) (ih (c.cycle y))

theorem params_cycle (c : ClockSync) (x : Surroundings M) : (c.cycle x).params = c.params :=
  (params_update _).trans (c.params_synced x)

theorem params_cycles (c : ClockSync) (xs : List (Surroundings M)) :
    (c.cycles xs).params = c.params := by
  induction xs generalizing c with
  | nil => rfl
  | cons x xs ih => exact (ih (c.cycle x)).trans (c.params_cycle x)

/-- A cycle steps the filter on the difference that it reads, and else leaves it alone. -/
theorem state_cycle {c : ClockSync} (hm : c.params.mode = .masterFollowsReference)
    (x : Surroundings M) :
    (c.cycle x).state =
      match c.readingOf x with
      | some reference =>
        (filter c.params
          { c.state with
            appTime := c.timeAt x.hardware
            rawDiff := Clock.lowDiff c.state.appTime reference }).2
      | none => { c.state with appTime := c.timeAt x.hardware } := by
  unfold cycle
  cases hr : c.readingOf x with
  | none =>
    rw [synced_of_failure hm hr, update_of_stale (by exact hm) rfl]
  | some reference =>
    rw [synced_of_reading hm hr, update_of_fresh (by exact hm) rfl]

theorem appTime_filter (p : DriftParams) (s : ClockState) : (filter p s).2.appTime = s.appTime := by
  rcases hs : s.started with _ | _
  · rw [filter_of_not_started hs]
    split <;> rfl
  · rw [filter_of_started hs]
    split <;> rfl

theorem appTime_cycle {c : ClockSync} (hm : c.params.mode = .masterFollowsReference)
    (x : Surroundings M) : (c.cycle x).state.appTime = c.timeAt x.hardware := by
  rw [state_cycle hm]
  split
  · rw [appTime_filter]
  · rfl

end ClockSync

section Cycles

variable {M : Type} [MasterSession M] {config : CycleConfig} {c : ClockSync} {e : ExactFilter}
  (valid : config.validate = .ok ())

include valid

theorem ClockInv.cycles (inv : ClockInv config c) (xs : List (Surroundings M)) :
    ClockInv config (c.cycles xs) := by
  induction xs generalizing c with
  | nil => exact inv
  | cons x xs ih => exact ih ((inv.synced x).update valid)

/-- A cycle of the clock is a step of the exact filter on the difference that the cycle reads. -/
theorem Agrees.cycle (inv : ClockInv config c) (h : Agrees c.state e) (x : Surroundings M) :
    Agrees (c.cycle x).state (e.feed config (c.rawDiffOf x)) := by
  rw [ClockSync.state_cycle inv.mode, ClockSync.rawDiffOf]
  cases hr : c.readingOf x with
  | none => exact h.observe _ c.state.rawDiff
  | some reference =>
    have hstep := (h.observe (c.timeAt x.hardware)
      (Clock.lowDiff c.state.appTime reference)).step valid (inv.filter.observe _ _)
    rw [Clock.toInt_lowDiff] at hstep
    rw [inv.params]
    exact hstep

theorem timeBase_cycle (inv : ClockInv config c) (h : Agrees c.state e)
    (hbase : c.state.timeBase.toInt = e.timeBase) (x : Surroundings M)
    (holds : Int64.Holds (e.feed config (c.rawDiffOf x)).timeBase) :
    (c.cycle x).state.timeBase.toInt = (e.feed config (c.rawDiffOf x)).timeBase := by
  rw [ClockSync.rawDiffOf] at holds ⊢
  rw [ClockSync.state_cycle inv.mode]
  cases hr : c.readingOf x with
  | none => exact hbase
  | some reference =>
    have hstep := (h.observe (c.timeAt x.hardware)
      (Clock.lowDiff c.state.appTime reference)).timeBase_step valid (inv.filter.observe _ _) hbase
    rw [Clock.toInt_lowDiff] at hstep
    rw [hr] at holds
    rw [inv.params]
    exact hstep holds

end Cycles

/-! ## The exact clock -/

/-- An exact filter with the application clock that it steers. -/
structure ExactClock where
  filter : ExactFilter
  appTime : UInt64

namespace ExactClock

variable {M : Type} [MasterSession M]

def zero : ExactClock := ⟨.zero, 0⟩

/-- Hardware time minus the exact time base, held at the largest word; plain hardware time where the
time base is ahead of it. -/
def timeAt (k : ExactClock) (hardware : UInt64) : UInt64 :=
  if (hardware.toNat : Int) < k.filter.timeBase then hardware
  else .ofNatClamp (hardware.toNat - k.filter.timeBase).toNat

def rawDiffOf (k : ExactClock) (x : Surroundings M) : Option Int :=
  (MasterSession.referenceTime x.now
    (MasterSession.setApplicationTime (k.timeAt x.hardware) x.master)).1.toOption.map
      fun reference => ((k.appTime.toNat : Int) - reference.toNat).bmod 4294967296

def cycle (config : CycleConfig) (k : ExactClock) (x : Surroundings M) : ExactClock :=
  ⟨k.filter.feed config (k.rawDiffOf x), k.timeAt x.hardware⟩

def cycles (config : CycleConfig) (xs : List (Surroundings M)) : ExactClock :=
  xs.foldl (cycle config) zero

theorem cycles_append_singleton (config : CycleConfig) (xs : List (Surroundings M))
    (x : Surroundings M) : cycles config (xs ++ [x]) = (cycles config xs).cycle config x := by
  simp [cycles]

theorem timeAt_eq {k : ExactClock} {c : ClockSync}
    (hbase : c.state.timeBase.toInt = k.filter.timeBase) (hardware : UInt64) :
    c.timeAt hardware = k.timeAt hardware := by
  unfold ClockSync.timeAt ClockSync.applicationTime timeAt
  rw [hbase]
  by_cases h : (hardware.toNat : Int) < k.filter.timeBase
  · simp only [if_pos h]
  · simp only [if_neg h]

end ExactClock

section Runs

variable {M : Type} [MasterSession M] {config : CycleConfig} (valid : config.validate = .ok ())
  (mode : config.syncMode = .masterFollowsReference)

include valid mode

theorem clockInv_cycles (xs : List (Surroundings M)) :
    ClockInv config ((ClockSync.ofParams config.driftParams).cycles xs) :=
  (ClockInv.ofParams valid mode).cycles valid xs

theorem agrees_cycles (xs : List (Surroundings M)) :
    Agrees ((ClockSync.ofParams config.driftParams).cycles xs).state
      (ExactFilter.run config ((ClockSync.ofParams config.driftParams).rawDiffs xs)) := by
  induction xs using List.reverseRecOn with
  | nil => exact .zero
  | append_singleton xs x ih =>
    rw [ClockSync.cycles_append_singleton, ClockSync.rawDiffs_append_singleton,
      ExactFilter.run, List.foldl_append]
    exact ih.cycle valid (clockInv_cycles valid mode xs) x

/-- The time base is exact as long as the exact one is a word. -/
theorem timeBase_cycles (xs : List (Surroundings M))
    (holds : ∀ raws, raws <+: (ClockSync.ofParams config.driftParams).rawDiffs xs →
      Int64.Holds (ExactFilter.run config raws).timeBase) :
    ((ClockSync.ofParams config.driftParams).cycles xs).state.timeBase.toInt =
      (ExactFilter.run config ((ClockSync.ofParams config.driftParams).rawDiffs xs)).timeBase := by
  induction xs using List.reverseRecOn with
  | nil => rfl
  | append_singleton xs x ih =>
    have hlast := holds _ List.prefix_rfl
    rw [ClockSync.rawDiffs_append_singleton] at holds hlast ⊢
    rw [ExactFilter.run, List.foldl_append] at hlast ⊢
    rw [ClockSync.cycles_append_singleton]
    exact timeBase_cycle valid (clockInv_cycles valid mode xs) (agrees_cycles valid mode xs)
      (ih fun raws h => holds raws (h.trans (List.prefix_append _ _))) x hlast

/-- The clock is the exact clock as long as the exact time base is a word. -/
theorem exactClock_cycles (xs : List (Surroundings M))
    (holds : ∀ ys, ys <+: xs → Int64.Holds (ExactClock.cycles config ys).filter.timeBase) :
    ((ClockSync.ofParams config.driftParams).cycles xs).state.appTime =
        (ExactClock.cycles config xs).appTime ∧
      Agrees ((ClockSync.ofParams config.driftParams).cycles xs).state
        (ExactClock.cycles config xs).filter ∧
      ((ClockSync.ofParams config.driftParams).cycles xs).state.timeBase.toInt =
        (ExactClock.cycles config xs).filter.timeBase := by
  induction xs using List.reverseRecOn with
  | nil => exact ⟨rfl, .zero, rfl⟩
  | append_singleton xs x ih =>
    have hlast := holds _ List.prefix_rfl
    obtain ⟨happ, hagrees, hbase⟩ := ih fun ys h => holds ys (h.trans (List.prefix_append _ _))
    have inv := clockInv_cycles valid mode xs
    rw [ExactClock.cycles_append_singleton] at hlast ⊢
    rw [ClockSync.cycles_append_singleton]
    have htime := ExactClock.timeAt_eq hbase x.hardware
    have hraw : ((ClockSync.ofParams config.driftParams).cycles xs).rawDiffOf x =
        (ExactClock.cycles config xs).rawDiffOf x := by
      rw [ClockSync.rawDiffOf, ClockSync.readingOf, ExactClock.rawDiffOf, htime, happ]
    rw [ExactClock.cycle, ← hraw] at hlast ⊢
    exact ⟨(ClockSync.appTime_cycle inv.mode x).trans htime, hagrees.cycle valid inv x,
      timeBase_cycle valid inv hagrees hbase x hlast⟩

variable (config) in
/-- **The filter is exact.** Over any cycles of a clock with an accepted configuration, whatever the
hardware clock reads and the master answers, the filter shows the values of the exact filter on the
same differences, and the exact time base as long as that is a word; as long as it is, the clock is
the exact clock altogether. At no step does another saturating operation leave its word. -/
theorem cycles_refine_exact (xs : List (Surroundings M)) :
    let c := (ClockSync.ofParams config.driftParams).cycles xs
    let raws := (ClockSync.ofParams config.driftParams).rawDiffs xs
    let e := ExactFilter.run config raws
    let k := ExactClock.cycles config xs
    Agrees c.state e ∧
    ((∀ raws', raws' <+: raws → Int64.Holds (ExactFilter.run config raws').timeBase) →
      c.state.timeBase.toInt = e.timeBase) ∧
    ((∀ ys, ys <+: xs → Int64.Holds (ExactClock.cycles config ys).filter.timeBase) →
      c.state.appTime = k.appTime ∧ Agrees c.state k.filter ∧
        c.state.timeBase.toInt = k.filter.timeBase) ∧
    ∀ x : Surroundings M, ClockSync.Unsaturated config.driftParams (c.synced x).state :=
  ⟨agrees_cycles valid mode xs, timeBase_cycles valid mode xs, exactClock_cycles valid mode xs,
    fun x => ((clockInv_cycles valid mode xs).synced x).filter.unsaturated valid⟩

end Runs

/-- The first cycle arms, the second one fails, and a window ends at the clamp while the low word of
the application time rolls over. -/
def rollover : List (Surroundings ScriptedMaster) :=
  Surroundings.scripted [(4294966500, some 4294967290), (4294967000, none), (4294967500, some 4294966900),
    (4294968100, some 100), (4294968700, some 700)]

theorem cycles_refine_exact_at_rollover :
    let config := CycleConfig.pairwise
    let c := (ClockSync.ofParams config.driftParams).cycles rollover
    let raws := (ClockSync.ofParams config.driftParams).rawDiffs rollover
    config.validate = .ok () ∧ config.syncMode = .masterFollowsReference ∧
      (∀ raws', raws' <+: raws → Int64.Holds (ExactFilter.run config raws').timeBase) ∧
      (∀ ys, ys <+: rollover → Int64.Holds (ExactClock.cycles config ys).filter.timeBase) ∧
      Agrees c.state (ExactFilter.run config raws) ∧
      c.state.timeBase.toInt = (ExactFilter.run config raws).timeBase ∧
      c.state.appTime = (ExactClock.cycles config rollover).appTime ∧
      (ExactFilter.run config raws).timeBase = 9 := by
  have hopen : ∀ raws', raws' <+: (ClockSync.ofParams CycleConfig.pairwise.driftParams).rawDiffs
      rollover → Int64.Holds (ExactFilter.run CycleConfig.pairwise raws').timeBase := by
    simp only [← List.mem_inits]
    decide +kernel
  have hclosed : ∀ ys, ys <+: rollover →
      Int64.Holds (ExactClock.cycles CycleConfig.pairwise ys).filter.timeBase := by
    simp only [← List.mem_inits]
    decide +kernel
  obtain ⟨hagrees, hbase, hclock, -⟩ := cycles_refine_exact CycleConfig.pairwise rfl rfl rollover
  exact ⟨rfl, rfl, hopen, hclosed, hagrees, hbase hopen, (hclock hclosed).1, by decide +kernel⟩

end CyclicBus
