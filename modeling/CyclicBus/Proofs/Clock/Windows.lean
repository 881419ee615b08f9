import CyclicBus.Proofs.Clock.ExactFilter

/-!
# The windows of the drift filter

A clock under any calls: synchronisations and filter steps in any order and repetition.
`calls_inWindows`: the filter arms once and for good; from then on every `N`-th difference that it
uses closes a window, and only there the adjustment moves, within the clamp.
-/

namespace CyclicBus

/-! ## What the filter steps did -/

namespace DriftUpdate

/-- The filter started. -/
def isArmed : DriftUpdate → Bool
  | armed _ _ => true
  | _ => false

/-- A window was closed. -/
def isAdjusted : DriftUpdate → Bool
  | adjusted _ _ => true
  | _ => false

/-- The differences that were used after the one that started the filter. -/
def samples : List DriftUpdate → Nat
  | [] => 0
  | u :: us => if u.isArmed then us.countP (· ≠ .skipped) else samples us

theorem samples_append_singleton (us : List DriftUpdate) (u : DriftUpdate) :
    samples (us ++ [u]) =
      samples us + if us.any isArmed ∧ u ≠ .skipped then 1 else 0 := by
  induction us with
  | nil => cases h : u.isArmed <;> simp [samples, h]
  | cons v us ih =>
    cases h : v.isArmed
    · simpa [samples, h] using ih
    · simp [samples, h, List.countP_append, List.countP_singleton]

end DriftUpdate

/-! ## Calls -/

/-- A call of a clock. -/
inductive ClockCall (M : Type) where
  | sync (x : Surroundings M)
  | update

/-- A clock with what its filter steps did, oldest first. -/
structure ClockRun where
  clock : ClockSync
  outcomes : List DriftUpdate

namespace ClockRun

variable {M : Type} [MasterSession M]

def fresh (config : CycleConfig) : ClockRun := ⟨.ofParams config.driftParams, []⟩

def call (r : ClockRun) : ClockCall M → ClockRun
  | .sync x => { r with clock := r.clock.synced x }
  | .update => ⟨r.clock.update.2, r.outcomes ++ [r.clock.update.1]⟩

def calls (r : ClockRun) (cs : List (ClockCall M)) : ClockRun := cs.foldl call r

end ClockRun

/-- What holds of a run: the filter is armed if a step armed it, and the sample index counts the
differences used since, modulo the window. -/
structure RunInv (config : CycleConfig) (r : ClockRun) : Prop where
  clock : ClockInv config r.clock
  started : r.clock.state.started = r.outcomes.any DriftUpdate.isArmed
  index : r.clock.state.filterIndex.toNat =
    DriftUpdate.samples r.outcomes % config.filterWindow.toNat

namespace RunInv

open ClockSync DriftUpdate

variable {M : Type} [MasterSession M] {config : CycleConfig} {r : ClockRun}
  (valid : config.validate = .ok ())

include valid in
theorem fresh (mode : config.syncMode = .masterFollowsReference) :
    RunInv config (.fresh config) :=
  ⟨.ofParams valid mode, rfl, (Nat.zero_mod _).symm⟩

theorem sync (inv : RunInv config r) (x : Surroundings M) :
    RunInv config (r.call (.sync x)) := by
  obtain ⟨appTime, rawDiff, hstate⟩ := state_synced inv.clock.mode x
  refine ⟨inv.clock.synced x, ?_, ?_⟩
  · show (r.clock.synced x).state.started = _
    rw [hstate]
    exact inv.started
  · show (r.clock.synced x).state.filterIndex.toNat = _
    rw [hstate]
    exact inv.index

include valid in
/-- The next difference fills the window exactly where it makes their number a multiple. -/
theorem window_le_iff_dvd (inv : RunInv config r) :
    config.driftParams.window ≤ (sampled config.driftParams r.clock.state).filterIndex ↔
      config.filterWindow.toNat ∣ samples r.outcomes + 1 := by
  obtain ⟨b, hb⟩ := Nat.exists_eq_add_one.2 (CycleConfig.window_of_validate valid)
  have hindex := inv.index
  rw [Agrees.window_le_iff inv.clock.filter, inv.clock.filter.toNat_sampled_filterIndex]
  rw [hb] at hindex ⊢
  rw [hindex, Nat.dvd_iff_mod_eq_zero, Nat.succ_mod_succ_eq_zero_iff]
  omega

/-! ### What a filter step does -/

theorem update_of_no_reading (inv : RunInv config r) (hf : r.clock.fresh = false) :
    r.clock.update = (.skipped, r.clock) :=
  update_of_stale inv.clock.mode hf

/-- A filter that has not started waits for a difference to start on. -/
theorem update_of_not_started (inv : RunInv config r) (hf : r.clock.fresh = true)
    (hs : r.clock.state.started = false) :
    r.clock.update.2.state.filterIndex = r.clock.state.filterIndex ∧
      r.clock.update.2.state.adjustment = r.clock.state.adjustment ∧
      (r.clock.update.1 = .unarmed ∧ r.clock.update.2.state.started = false ∨
        r.clock.update.1.isArmed = true ∧ r.clock.update.2.state.started = true) := by
  rw [update_of_fresh inv.clock.mode hf, filter_of_not_started hs]
  split
  · exact ⟨rfl, rfl, .inl ⟨rfl, hs⟩⟩
  · exact ⟨rfl, rfl, .inr ⟨rfl, rfl⟩⟩

include valid in
/-- A filter that has started closes a window with every `N`-th difference. -/
theorem update_of_started (inv : RunInv config r) (hf : r.clock.fresh = true)
    (hs : r.clock.state.started = true) :
    (config.filterWindow.toNat ∣ samples r.outcomes + 1 ∧
      r.clock.update.1 = .adjusted (closed config.driftParams r.clock.state).adjustment
        ((closed config.driftParams r.clock.state).adjustment ≠
          unclamped config.driftParams (sampled config.driftParams r.clock.state)) ∧
      r.clock.update.2.state =
        slew (closed config.driftParams r.clock.state) (diffOf config.driftParams r.clock.state)) ∨
    (¬ config.filterWindow.toNat ∣ samples r.outcomes + 1 ∧ r.clock.update.1 = .tracking ∧
      r.clock.update.2.state =
        slew (sampled config.driftParams r.clock.state)
          (diffOf config.driftParams r.clock.state)) := by
  have hwindow := inv.window_le_iff_dvd valid
  rw [update_of_fresh inv.clock.mode hf, inv.clock.params, filter_of_started hs]
  by_cases hw : config.driftParams.window ≤ (sampled config.driftParams r.clock.state).filterIndex
  · rw [if_pos hw]
    exact .inl ⟨hwindow.1 hw, rfl, rfl⟩
  · rw [if_neg hw]
    exact .inr ⟨mt hwindow.2 hw, rfl, rfl⟩

/-! ### The invariant is kept -/

include valid in
/-- A filter step keeps the invariant if it keeps count. -/
theorem of_update (inv : RunInv config r)
    (hstarted : r.clock.update.2.state.started =
      (r.clock.state.started || r.clock.update.1.isArmed))
    (hindex : r.clock.update.2.state.filterIndex.toNat =
      (samples r.outcomes +
        if r.clock.state.started = true ∧ r.clock.update.1 ≠ .skipped then 1 else 0) %
          config.filterWindow.toNat) :
    RunInv config (r.call (M := M) .update) := by
  rw [inv.started] at hstarted hindex
  refine ⟨inv.clock.update valid, hstarted.trans ?_, hindex.trans ?_⟩
  · show _ = (r.outcomes ++ [r.clock.update.1]).any isArmed
    rw [List.any_append, List.any_cons, List.any_nil, Bool.or_false]
  · show _ = samples (r.outcomes ++ [r.clock.update.1]) % _
    rw [samples_append_singleton]

include valid in
theorem update (inv : RunInv config r) : RunInv config (r.call (M := M) .update) := by
  rcases hf : r.clock.fresh with _ | _
  · have hu := inv.update_of_no_reading hf
    refine inv.of_update valid (by simp [hu, isArmed]) ?_
    rw [hu, if_neg (by simp), Nat.add_zero, inv.index]
  · rcases hs : r.clock.state.started with _ | _
    · obtain ⟨hindex, -, hstarted⟩ := inv.update_of_not_started hf hs
      refine inv.of_update valid ?_ ?_
      · rcases hstarted with ⟨hu, hstarted⟩ | ⟨hu, hstarted⟩
        · rw [hstarted, hs, hu]
          rfl
        · rw [hstarted, hs, hu]
          rfl
      · rw [hindex, hs, if_neg (by simp), Nat.add_zero, inv.index]
    · rcases inv.update_of_started valid hf hs with ⟨hdvd, hu, hstate⟩ | ⟨hdvd, hu, hstate⟩
      · refine inv.of_update valid (by rw [hstate, hs]; exact hs) ?_
        rw [hstate, hu, if_pos ⟨hs, by simp⟩]
        exact (Nat.mod_eq_zero_of_dvd hdvd).symm
      · refine inv.of_update valid (by rw [hstate, hs]; exact hs) ?_
        rw [hstate, hu, if_pos ⟨hs, by simp⟩]
        -- inside a window the index itself is the remainder
        show (sampled config.driftParams r.clock.state).filterIndex.toNat = _
        have hopen := mt (inv.window_le_iff_dvd valid).1 hdvd
        rw [UInt32.le_iff_toNat_le] at hopen
        have hlt : _ < config.filterWindow.toNat := Nat.lt_of_not_le hopen
        rw [inv.clock.filter.toNat_sampled_filterIndex, inv.index] at hlt ⊢
        rw [← Nat.mod_add_mod, Nat.mod_eq_of_lt hlt]

include valid in
theorem call (inv : RunInv config r) (c : ClockCall M) : RunInv config (r.call c) := by
  cases c with
  | sync x => exact inv.sync x
  | update => exact inv.update valid

include valid in
theorem calls (inv : RunInv config r) (cs : List (ClockCall M)) : RunInv config (r.calls cs) := by
  induction cs generalizing r with
  | nil => exact inv
  | cons c cs ih => exact ih (inv.call valid c)

end RunInv

/-! ## What the next call does -/

/-- The exact filter that a state shows. -/
def ExactFilter.ofState (s : ClockState) : ExactFilter :=
  ⟨s.started, s.prevRawDiff.toInt, s.diffTotal.toInt, s.deltaTotal.toInt, s.filterIndex.toNat,
    s.adjustment.toInt, s.timeBase.toInt⟩

namespace ClockSync

/-- The exact adjustment that a window asks for where the last reading fills it. -/
def demand (config : CycleConfig) (s : ClockState) : Int :=
  ((ExactFilter.ofState s).sampled config s.rawDiff.toInt).unclamped config

end ClockSync

namespace RunInv

open ClockSync DriftUpdate

variable {M : Type} [MasterSession M] {config : CycleConfig} {r : ClockRun}
  (valid : config.validate = .ok ())

theorem synced (inv : RunInv config r) (x : Surroundings M) :
    (r.clock.synced x).fresh = (r.clock.readingOf x).isSome ∧
      (r.clock.synced x).state.adjustment = r.clock.state.adjustment := by
  cases hr : r.clock.readingOf x with
  | none =>
    rw [synced_of_failure inv.clock.mode hr]
    exact ⟨rfl, rfl⟩
  | some reference =>
    rw [synced_of_reading inv.clock.mode hr]
    exact ⟨rfl, rfl⟩

theorem fresh_update (inv : RunInv config r) : r.clock.update.2.fresh = false := by
  rcases hf : r.clock.fresh with _ | _
  · rw [inv.update_of_no_reading hf]
    exact hf
  · rw [update_of_fresh inv.clock.mode hf]

/-- A filter that has started stays so, with the application time of its start. -/
theorem started_call (inv : RunInv config r) (hs : r.clock.state.started = true)
    (c : ClockCall M) :
    (r.call c).clock.state.started = true ∧
      (r.call c).clock.state.startAppTime = r.clock.state.startAppTime := by
  cases c with
  | sync x =>
    obtain ⟨appTime, rawDiff, hstate⟩ := state_synced inv.clock.mode x
    show (r.clock.synced x).state.started = true ∧ (r.clock.synced x).state.startAppTime = _
    rw [hstate]
    exact ⟨hs, rfl⟩
  | update =>
    show r.clock.update.2.state.started = true ∧ r.clock.update.2.state.startAppTime = _
    rcases hf : r.clock.fresh with _ | _
    · rw [inv.update_of_no_reading hf]
      exact ⟨hs, rfl⟩
    · rw [update_of_fresh inv.clock.mode hf, filter_of_started hs]
      split <;> exact ⟨hs, rfl⟩

include valid in
theorem started_calls (inv : RunInv config r) (hs : r.clock.state.started = true)
    (cs : List (ClockCall M)) :
    (r.calls cs).clock.state.started = true ∧
      (r.calls cs).clock.state.startAppTime = r.clock.state.startAppTime := by
  induction cs generalizing r with
  | nil => exact ⟨hs, rfl⟩
  | cons c cs ih =>
    obtain ⟨hstarted, htime⟩ := inv.started_call hs c
    obtain ⟨hlater, hsame⟩ := ih (inv.call valid c) hstarted
    exact ⟨hlater, hsame.trans htime⟩

include valid in
/-- What the outcome of a filter step says about the number of differences used. -/
theorem outcome_iff (inv : RunInv config r) :
    let m := samples r.outcomes
    let m' := samples (r.outcomes ++ [r.clock.update.1])
    (r.clock.update.1 = .skipped ↔ r.clock.fresh = false) ∧
      (r.clock.update.1.isAdjusted = true ↔ m' = m + 1 ∧ config.filterWindow.toNat ∣ m') ∧
      (r.clock.update.1 = .tracking ↔ m' = m + 1 ∧ ¬ config.filterWindow.toNat ∣ m') := by
  simp only [samples_append_singleton, ← inv.started]
  rcases hf : r.clock.fresh with _ | _
  · rw [inv.update_of_no_reading hf]
    simp [isAdjusted]
  · rcases hs : r.clock.state.started with _ | _
    · rcases inv.update_of_not_started hf hs with ⟨-, -, ⟨hu, -⟩ | ⟨hu, -⟩⟩
      · simp [hu, isAdjusted]
      · cases hv : r.clock.update.1 <;> simp_all [isArmed, isAdjusted]
    · rcases inv.update_of_started valid hf hs with ⟨hdvd, hu, -⟩ | ⟨hdvd, hu, -⟩
      · simp [hu, isAdjusted, hdvd]
      · simp [hu, isAdjusted, hdvd]

include valid in
/-- The adjustment moves only where a window is closed. -/
theorem adjustment_of_not_adjusted (inv : RunInv config r)
    (hu : r.clock.update.1.isAdjusted = false) :
    r.clock.update.2.state.adjustment = r.clock.state.adjustment := by
  rcases hf : r.clock.fresh with _ | _
  · rw [inv.update_of_no_reading hf]
  · rcases hs : r.clock.state.started with _ | _
    · exact (inv.update_of_not_started hf hs).2.1
    · rcases inv.update_of_started valid hf hs with ⟨-, hv, -⟩ | ⟨-, -, hstate⟩
      · rw [hv] at hu
        cases hu
      · rw [hstate]
        rfl

/-- Only a filter that has started closes windows. -/
theorem started_of_adjusted (inv : RunInv config r) {adjustment : Int64} {saturated : Bool}
    (hu : r.clock.update.1 = .adjusted adjustment saturated) :
    r.clock.fresh = true ∧ r.clock.state.started = true := by
  rcases hf : r.clock.fresh with _ | _
  · rw [inv.update_of_no_reading hf] at hu
    cases hu
  · refine ⟨rfl, ?_⟩
    rcases hs : r.clock.state.started with _ | _
    · obtain ⟨-, -, ⟨hv, -⟩ | ⟨hv, -⟩⟩ := inv.update_of_not_started hf hs
      · cases hu.symm.trans hv
      · rw [hu] at hv
        cases hv
    · rfl

include valid in
/-- The adjustment of a closed window is its demand within the clamp. -/
theorem closed_adjustment (inv : RunInv config r) :
    (unclamped config.driftParams (sampled config.driftParams r.clock.state)).toInt =
        demand config r.clock.state ∧
      (closed config.driftParams r.clock.state).adjustment.toInt =
        max (-(config.driftClamp.toNat : Int))
          (min (config.driftClamp.toNat : Int) (demand config r.clock.state)) := by
  have hagrees : Agrees r.clock.state (.ofState r.clock.state) := ⟨rfl, rfl, rfl, rfl, rfl, rfl⟩
  have hdemand : (unclamped config.driftParams (sampled config.driftParams r.clock.state)).toInt =
      demand config r.clock.state := hagrees.unclamped valid inv.clock.filter
  refine ⟨hdemand, ?_⟩
  rw [FilterInv.toInt_closed_adjustment, hdemand]

include valid in
/-- A closed window reports its clamped demand, and whether the clamp took something away. -/
theorem adjusted_iff (inv : RunInv config r) {adjustment : Int64} {saturated : Bool}
    (hu : r.clock.update.1 = .adjusted adjustment saturated) :
    r.clock.update.2.state.adjustment = adjustment ∧
      (saturated = true ↔ demand config r.clock.state < -config.driftClamp.toNat ∨
        config.driftClamp.toNat < demand config r.clock.state) ∧
      (saturated = true →
        adjustment.toInt = config.driftClamp.toNat ∨
          adjustment.toInt = -config.driftClamp.toNat) := by
  obtain ⟨hf, hs⟩ := inv.started_of_adjusted hu
  obtain ⟨hdemand, hclosed⟩ := inv.closed_adjustment valid
  rcases inv.update_of_started valid hf hs with ⟨-, hv, hstate⟩ | ⟨-, hv, -⟩
  · obtain ⟨hadjustment, hsaturated⟩ := DriftUpdate.adjusted.inj (hu.symm.trans hv)
    have hflag : saturated = true ↔
        (closed config.driftParams r.clock.state).adjustment.toInt ≠
          demand config r.clock.state := by
      rw [hsaturated, decide_eq_true_iff, ne_eq, ← Int64.toInt_inj, hdemand]
    rw [hflag, hadjustment, hstate, hclosed]
    refine ⟨rfl, ?_, ?_⟩ <;> omega
  · cases hu.symm.trans hv

end RunInv

/-! ## Every run -/

/-- How a clock under any calls works in windows. The last five fields are about the next call. -/
structure InWindows (M : Type) [MasterSession M] (config : CycleConfig) (r : ClockRun) : Prop where
  adjustment_le : r.clock.state.adjustment.toInt.natAbs ≤ config.driftClamp.toNat
  index_lt : r.clock.state.filterIndex.toNat < config.filterWindow.toNat
  index_eq : r.clock.state.filterIndex.toNat =
    DriftUpdate.samples r.outcomes % config.filterWindow.toNat
  started_eq : r.clock.state.started = r.outcomes.any DriftUpdate.isArmed
  unarmed : r.clock.state.started = false →
    r.clock.state.timeBase = 0 ∧ r.clock.state.adjustment = 0 ∧ r.clock.state.diffTotal = 0 ∧
      r.clock.state.deltaTotal = 0 ∧ r.clock.state.filterIndex = 0
  armed : r.clock.state.started = true → ∀ later : List (ClockCall M),
    (r.calls later).clock.state.started = true ∧
      (r.calls later).clock.state.startAppTime = r.clock.state.startAppTime
  /-- A synchronisation offers a difference if the master gave a reading, and leaves the adjustment
  alone. -/
  synced : ∀ x : Surroundings M, (r.clock.synced x).fresh = (r.clock.readingOf x).isSome ∧
    (r.clock.synced x).state.adjustment = r.clock.state.adjustment
  /-- A filter step uses a difference up. -/
  used : r.clock.update.2.fresh = false
  outcome :
    let m := DriftUpdate.samples r.outcomes
    let m' := DriftUpdate.samples (r.outcomes ++ [r.clock.update.1])
    (r.clock.update.1 = .skipped ↔ r.clock.fresh = false) ∧
      (r.clock.update.1.isAdjusted = true ↔ m' = m + 1 ∧ config.filterWindow.toNat ∣ m') ∧
      (r.clock.update.1 = .tracking ↔ m' = m + 1 ∧ ¬ config.filterWindow.toNat ∣ m')
  kept : r.clock.update.1.isAdjusted = false →
    r.clock.update.2.state.adjustment = r.clock.state.adjustment
  adjusted : ∀ adjustment saturated, r.clock.update.1 = .adjusted adjustment saturated →
    r.clock.update.2.state.adjustment = adjustment ∧
      (saturated = true ↔ ClockSync.demand config r.clock.state < -config.driftClamp.toNat ∨
        config.driftClamp.toNat < ClockSync.demand config r.clock.state) ∧
      (saturated = true →
        adjustment.toInt = config.driftClamp.toNat ∨
          adjustment.toInt = -config.driftClamp.toNat)

section Runs

variable {M : Type} [MasterSession M]

/-- **The filter works in windows.** After any synchronisations and filter steps, in any order, of a
clock with an accepted configuration. -/
theorem calls_inWindows (config : CycleConfig) (valid : config.validate = .ok ())
    (mode : config.syncMode = .masterFollowsReference) (cs : List (ClockCall M)) :
    InWindows M config ((ClockRun.fresh config).calls cs) := by
  have inv : RunInv config ((ClockRun.fresh config).calls cs) :=
    (RunInv.fresh valid mode).calls valid cs
  exact
    { adjustment_le := inv.clock.filter.adjustment_le
      index_lt := inv.clock.filter.index_lt
      index_eq := inv.index
      started_eq := inv.started
      unarmed := inv.clock.filter.unarmed
      armed := inv.started_calls valid
      synced := inv.synced
      used := inv.fresh_update
      outcome := inv.outcome_iff valid
      kept := inv.adjustment_of_not_adjusted valid
      adjusted := fun _ _ => inv.adjusted_iff valid }

end Runs

/-- Each reading of the cycles is used at once, and once more in vain. -/
def ClockCall.twice {M : Type} (xs : List (Surroundings M)) : List (ClockCall M) :=
  xs.flatMap fun x => [.sync x, .update, .update]

theorem calls_inWindows_at_rollover :
    let r := (ClockRun.fresh CycleConfig.pairwise).calls (ClockCall.twice rollover)
    CycleConfig.pairwise.validate = .ok () ∧
      CycleConfig.pairwise.syncMode = .masterFollowsReference ∧
      InWindows ScriptedMaster CycleConfig.pairwise r ∧
      r.outcomes.filter (· ≠ .skipped) =
        [.armed 6 4294966500, .tracking, .adjusted 3 true, .tracking] ∧
      DriftUpdate.samples r.outcomes = 3 ∧ r.clock.state.filterIndex = 1 :=
  ⟨rfl, rfl, calls_inWindows CycleConfig.pairwise rfl rfl _, by decide +kernel, by decide +kernel,
    by decide +kernel⟩

end CyclicBus
