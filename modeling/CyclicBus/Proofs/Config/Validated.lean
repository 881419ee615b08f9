import CyclicBus.Config.Document
import Mathlib.Data.UInt

/-!
# Validated configurations

What a configuration that passes its check is known to be: the period is at most a second, no count
is zero, and the worker that it asks for is valid too. `validate_eq_ok_iff` says exactly which
configurations pass, and then which documents do.
-/

namespace CyclicBus

namespace CycleConfig

variable {config : CycleConfig}

theorem checkPositive_eq_ok_iff (field : String) (greatest : Nat) (n : Option Nat) :
    checkPositive field greatest n = .ok () ↔ n ≠ some 0 := by
  unfold checkPositive
  split
  · simp
  · rename_i hn
    simpa using hn

/-- What `validate` accepts. -/
structure Valid (config : CycleConfig) : Prop where
  period : 1 ≤ config.period ∧ config.period ≤ greatestPeriod
  window : config.filterWindow ≠ 0
  polls : config.healthInterval ≠ some 0
  duration : config.runDuration ≠ some 0
  setup : config.threadSetup.validate = .ok ()

theorem validate_eq_ok_iff : config.validate = .ok () ↔ config.Valid := by
  have hwindow : some config.filterWindow.toNat ≠ some 0 ↔ config.filterWindow ≠ 0 := by
    simp [← UInt32.toNat_inj]
  have hpolls : config.healthInterval.map (·.toNat) ≠ some 0 ↔
      config.healthInterval ≠ some 0 := by
    cases config.healthInterval <;> simp [← UInt32.toNat_inj]
  have hduration : config.runDuration.map (·.toNat) ≠ some 0 ↔ config.runDuration ≠ some 0 := by
    cases config.runDuration <;> simp [← UInt64.toNat_inj]
  have hperiod : ¬(config.period < 1 ∨ greatestPeriod < config.period) ↔
      1 ≤ config.period ∧ config.period ≤ greatestPeriod := by
    rw [not_or, UInt64.not_lt, UInt64.not_lt]
  change (if _ then Except.error _ else
    do checkPositive _ _ _; checkPositive _ _ _; checkPositive _ _ _; _) = _ ↔ _
  rw [guard_eq_ok_iff, seq_eq_ok_iff, seq_eq_ok_iff, seq_eq_ok_iff, checkPositive_eq_ok_iff,
    checkPositive_eq_ok_iff, checkPositive_eq_ok_iff, hperiod, hwindow, hpolls, hduration]
  constructor
  · rintro ⟨hp, hw, hi, hd, hs⟩
    exact ⟨hp, hw, hi, hd, hs⟩
  · intro h
    exact ⟨h.period, h.window, h.polls, h.duration, h.setup⟩

theorem period_of_validate (h : config.validate = .ok ()) :
    0 < config.period.toNat ∧ config.period.toNat ≤ 1000000000 := by
  have hperiod := (validate_eq_ok_iff.1 h).period
  simp only [UInt64.le_iff_toNat_le] at hperiod
  exact hperiod

theorem window_of_validate (h : config.validate = .ok ()) : 0 < config.filterWindow.toNat := by
  have hwindow := (validate_eq_ok_iff.1 h).window
  rw [Nat.pos_iff_ne_zero]
  exact fun hzero => hwindow (UInt32.toNat_inj.1 hzero)

theorem pollInterval_of_validate (h : config.validate = .ok ()) :
    0 < config.pollInterval.toNat := by
  have hpolls := (validate_eq_ok_iff.1 h).polls
  unfold pollInterval
  cases hn : config.healthInterval with
  | some n =>
    rw [hn] at hpolls
    rw [Option.getD_some, Nat.pos_iff_ne_zero]
    exact fun hzero => hpolls (congrArg some (UInt32.toNat_inj.1 hzero))
  | none =>
    have hpolls :
        1 ≤ (max (Worker.second / pollsPerSecond / max config.period 1) 1).toNat := by
      rw [UInt64.toNat_max]
      exact Nat.le_max_right _ _
    rw [Option.getD_none]
    by_cases hlt :
        (max (Worker.second / pollsPerSecond / max config.period 1) 1).toNat < UInt32.size
    · rw [UInt32.toNat_ofNatClamp_of_lt hlt]
      exact hpolls
    · rw [UInt32.toNat_ofNatClamp_of_le (Nat.le_of_not_lt hlt)]
      decide

/-- The worker of a valid configuration is valid. -/
theorem configure_workerConfig (h : config.validate = .ok ()) :
    config.workerConfig.configure = .ok config.workerConfig := by
  have hperiod : config.workerConfig.period ≠ 0 := by
    intro hzero
    have hpos : 0 < config.workerConfig.period.toNat := (period_of_validate h).1
    rw [hzero] at hpos
    exact Nat.lt_irrefl _ hpos
  rw [Worker.Config.configure_eq_ok_iff]
  refine ⟨rfl, ?_⟩
  unfold Worker.Config.validate
  rw [if_neg hperiod]
  exact (validate_eq_ok_iff.1 h).setup

theorem validateWith_eq_ok_iff {t : Topology} :
    config.validateWith t = .ok () ↔ config.Valid ∧ config.referenceDevice.toNat < t.size := by
  unfold validateWith
  rw [seq_eq_ok_iff, validate_eq_ok_iff]
  change _ ∧ (if _ then Except.error _ else Except.ok ()) = _ ↔ _
  rw [guard_eq_ok_iff, Nat.not_le]
  exact and_congr_right fun _ => and_iff_left rfl

theorem validate_of_validateWith {t : Topology} (h : config.validateWith t = .ok ()) :
    config.validate = .ok () :=
  validate_eq_ok_iff.2 (validateWith_eq_ok_iff.1 h).1

end CycleConfig

namespace Document

/-- Check the domain size that a document declares. -/
def checkSize (d : Document) (t : Topology) : Except Violation Unit :=
  match d.domainSize with
  | some size => t.checkDomain size.toNat
  | none => .ok ()

/-- The checks of a document, one after the other. -/
theorem validate_eq (d : Document) : d.validate = (do
    let t ← Topology.ofDevices d.devices
    d.cycle.validateWith t
    d.checkSize t
    let _ ← d.sink
    return t) := by
  unfold validate checkSize
  cases d.domainSize <;> rfl

theorem validate_eq_ok_iff (d : Document) (t : Topology) :
    d.validate = .ok t ↔ t.devices = d.devices ∧ d.cycle.validateWith t = .ok () ∧
      d.checkSize t = .ok () ∧ ∃ s, d.sink = .ok s := by
  rw [validate_eq, bind_eq_ok_iff]
  constructor
  · rintro ⟨u, hu, h⟩
    obtain ⟨⟨⟩, hcycle, h⟩ := (bind_eq_ok_iff _ _ _).1 h
    obtain ⟨⟨⟩, hsize, h⟩ := (bind_eq_ok_iff _ _ _).1 h
    obtain ⟨s, hsink, ⟨⟩⟩ := (bind_eq_ok_iff _ _ _).1 h
    exact ⟨(Topology.ofDevices_eq_ok_iff _ _).1 hu, hcycle, hsize, s, hsink⟩
  · rintro ⟨hdevices, hcycle, hsize, s, hsink⟩
    refine ⟨t, (Topology.ofDevices_eq_ok_iff _ _).2 hdevices, ?_⟩
    rw [hcycle, hsize, hsink]
    rfl

end Document

end CyclicBus
