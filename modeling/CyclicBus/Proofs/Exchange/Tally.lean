import Mathlib.Algebra.Order.Field.Basic
import Mathlib.Algebra.Order.Field.Rat
import CyclicBus.Proofs.Exchange.Runs
import CyclicBus.Proofs.ProcessData.LastWriter

/-!
# Counters, events and metrics

The counters of a run and the metrics of a sink are kept in different places. Each of them gains in a
step what is seen and told in it (`counters_happen`, `countCycle_eq_plus`), so after a run each is a
number of cycles or of events (`counters_happenings`, `foldl_countCycle`), and they agree.
-/

namespace CyclicBus

/-! ## Gains -/

/-- The counters once more was seen and told. -/
def RunCounters.plus (c : RunCounters) (seen : List Sight) (log : List CycleEvent) :
    RunCounters where
  cycles := c.cycles + .ofNat seen.length
  degradedCycles := c.degradedCycles + .ofNat (seen.countP (·.domain.isDegraded))
  masterHealthChanges := c.masterHealthChanges + .ofNat (log.countP (·.subject = .master))
  clockAnomalies := c.clockAnomalies + .ofNat (log.countP (·.subject = .clock))
  referenceUnavailable := c.referenceUnavailable + .ofNat (seen.countP (·.readFailed))
  driftSaturations := c.driftSaturations + .ofNat (log.countP (·.subject = .saturation))
  overruns := c.overruns + .ofNat (log.countP (·.subject = .overrun))

/-- The metrics once more was told. -/
def SinkMetrics.plus (m : SinkMetrics) (log : List CycleEvent) : SinkMetrics where
  cycleEvents := m.cycleEvents + .ofNat log.length
  lifecycleEvents := m.lifecycleEvents
  healthEvents := m.healthEvents +
    .ofNat (log.countP (·.subject = .domain) + log.countP (·.subject = .master))
  clockAnomalies := m.clockAnomalies +
    .ofNat (log.countP (·.subject = .clock) + log.countP (·.subject = .saturation) +
      log.countP (·.subject = .reference))
  deadlineOverruns := m.deadlineOverruns + .ofNat (log.countP (·.subject = .overrun))
  snapshotsDropped := m.snapshotsDropped + .ofNat (log.countP (·.subject = .snapshot))

theorem RunCounters.plus_nil (c : RunCounters) : c.plus [] [] = c := by
  simp [plus]

theorem RunCounters.plus_append (c : RunCounters) (seen seen' : List Sight)
    (log log' : List CycleEvent) :
    c.plus (seen ++ seen') (log ++ log') = (c.plus seen log).plus seen' log' := by
  simp [plus, List.countP_append, UInt64.ofNat_add, UInt64.add_assoc]

theorem SinkMetrics.plus_nil (m : SinkMetrics) : m.plus [] = m := by
  simp [plus]

theorem SinkMetrics.plus_append (m : SinkMetrics) (log log' : List CycleEvent) :
    m.plus (log ++ log') = (m.plus log).plus log' := by
  simp only [plus, List.countP_append, List.length_append, UInt64.ofNat_add, mk.injEq, true_and]
  refine ⟨?_, ?_, ?_, ?_, ?_⟩ <;> ac_rfl

theorem SinkMetrics.countCycle_eq_plus (m : SinkMetrics) (e : CycleEvent) :
    m.countCycle e = m.plus [e] := by
  cases e <;> simp [countCycle, plus, CycleEvent.subject]

/-- A sink that is told some events gains them. -/
theorem SinkMetrics.foldl_countCycle (m : SinkMetrics) (log : List CycleEvent) :
    log.foldl countCycle m = m.plus log := by
  induction log generalizing m with
  | nil => exact m.plus_nil.symm
  | cons e log ih =>
    rw [List.foldl_cons, ih, countCycle_eq_plus, ← plus_append, List.singleton_append]

/-- Events about different subjects are different events. -/
theorem countP_subjects_le {a b c : CycleEvent.Subject} (hab : a ≠ b) (hac : a ≠ c) (hbc : b ≠ c)
    (log : List CycleEvent) :
    log.countP (·.subject = a) + log.countP (·.subject = b) + log.countP (·.subject = c) ≤
      log.length := by
  induction log with
  | nil => exact Nat.le_refl 0
  | cons e log ih =>
    simp only [List.countP_cons, List.length_cons, decide_eq_true_eq]
    split <;> split <;> split <;> first | omega | simp_all

/-! ## A step -/

namespace Notebook

variable (clamp : Int64) (n : Notebook) (s : Sight)

theorem countP_events (o : CycleEvent.Subject) :
    (n.events clamp s).countP (·.subject = o) = (n.about clamp s o).length := by
  rw [List.countP_eq_length_filter, filter_events]

theorem counters_enter :
    (n.enter clamp s).counters = n.counters.plus [s] (n.events clamp s) := by
  simp only [RunCounters.plus, countP_events, about, List.countP_singleton]
  cases hdegraded : s.domain.isDegraded <;> cases hfailed : s.readFailed <;>
    simp [enter, enterDomain, enterPoll, enterDrop, enterSync, enterDrift, RunCounters.countCycle,
      hdegraded, hfailed]

end Notebook

namespace Exchange

variable {M : Type} [MasterSession M]

theorem counters_happen (x : Exchange M) (h : PipelineHappening M) :
    (x.happen h).shared.counters =
      x.shared.counters.plus (x.found? h).toList (x.events h) := by
  match h with
  | .call (.cycle context r) =>
    have hcounters := congrArg Notebook.counters (notebook_execute x context.cycle r)
    exact hcounters.trans (Notebook.counters_enter _ _ _)
  | .call (.overrun context exec) =>
    simp [happen, Happening.on, BodyCall.on, CycleBody.onOverrun, noteOverrun, count, emit, found?,
      events, RunCounters.plus, RunCounters.countOverrun, CycleEvent.subject]
  | .call (.window context w) =>
    simp [happen, Happening.on, BodyCall.on, CycleBody.onWindow, noteWindow, emit, found?,
      events, RunCounters.plus, CycleEvent.subject]
  | .outside i => exact (RunCounters.plus_nil _).symm

/-- The counters of a run gain what its cycles find and what it tells. -/
theorem counters_happenings (x : Exchange M) (hs : List (PipelineHappening M)) :
    (x.happenings hs).shared.counters = x.shared.counters.plus (x.sights hs) (x.told hs) := by
  induction hs generalizing x with
  | nil => exact (RunCounters.plus_nil _).symm
  | cons h hs ih =>
    show ((x.happen h).happenings hs).shared.counters = _
    rw [ih, counters_happen, sights, told, RunCounters.plus_append]

/-- A subject that only cycles report on is reported at most once in each. -/
theorem countP_told_le {o : CycleEvent.Subject} (hoverrun : o ≠ .overrun) (hwindow : o ≠ .window)
    (x : Exchange M) (hs : List (PipelineHappening M)) :
    (x.told hs).countP (·.subject = o) ≤ (x.sights hs).length := by
  induction x, hs using run_induction with
  | nil x => exact Nat.le_refl 0
  | cycle x context r hs ih =>
    have hone := x.notebook.length_about_le x.clock.params.clamp (x.sight context.cycle r) o
    have hevents := x.notebook.countP_events x.clock.params.clamp (x.sight context.cycle r) o
    rw [sights_cycle, told, List.countP_append, List.length_cons]
    show (Notebook.events _ _ _).countP _ + ((x.execute context.cycle r).told hs).countP _ ≤ _
    omega
  | aside x h hs aside ih =>
    rw [sights_aside aside, told, List.countP_append, List.countP_eq_length_filter,
      filter_events_aside aside hoverrun hwindow, List.length_nil, Nat.zero_add]
    exact ih

end Exchange

/-! ## A whole run -/

/-- Counters and metrics agree with `n` cycles that found `seen`, and with a log. -/
structure Tallied (n : Nat) (seen : List Sight) (log : List CycleEvent) (c : RunCounters)
    (m : SinkMetrics) : Prop where
  cycles : c.cycles.toNat = n
  degraded : c.degradedCycles.toNat = seen.countP (·.domain.isDegraded)
  unavailable : c.referenceUnavailable.toNat = seen.countP (·.readFailed)
  healthChanges : c.masterHealthChanges.toNat = log.countP (·.subject = .master)
  clockAnomalies : c.clockAnomalies.toNat = log.countP (·.subject = .clock)
  saturations : c.driftSaturations.toNat = log.countP (·.subject = .saturation)
  overruns : c.overruns.toNat = log.countP (·.subject = .overrun)
  /-- Every counter except the overruns is at most the number of cycles. -/
  le_cycles : ∀ k ∈ [c.degradedCycles, c.referenceUnavailable, c.masterHealthChanges,
    c.clockAnomalies, c.driftSaturations], k.toNat ≤ n
  rate_le_one : (c.degradedCycles.toNat / c.cycles.toNat : ℚ) ≤ 1
  metrics_overruns : m.deadlineOverruns = c.overruns
  metrics_clock : m.clockAnomalies.toNat =
    c.clockAnomalies.toNat + c.driftSaturations.toNat + log.countP (·.subject = .reference)
  metrics_health : m.healthEvents.toNat =
    log.countP (·.subject = .domain) + c.masterHealthChanges.toNat

/-- Counters and metrics that started at zero agree. -/
theorem tallied_plus {seen : List Sight} {log : List CycleEvent} (hseen : seen.length < UInt64.size)
    (hlog : log.length < UInt64.size)
    (hcycle : ∀ o : CycleEvent.Subject, o ≠ .overrun → o ≠ .window →
      log.countP (·.subject = o) ≤ seen.length) :
    Tallied seen.length seen log (RunCounters.zero.plus seen log) (SinkMetrics.zero.plus log) := by
  have hexact {k : Nat} (hk : k < UInt64.size) : (0 + UInt64.ofNat k).toNat = k := by
    rw [UInt64.zero_add, UInt64.toNat_ofNat_of_lt' hk]
  have hfound (p : Sight → Bool) : (0 + UInt64.ofNat (seen.countP p)).toNat = seen.countP p :=
    hexact (Nat.lt_of_le_of_lt List.countP_le_length hseen)
  have htold (o : CycleEvent.Subject) :
      (0 + UInt64.ofNat (log.countP (·.subject = o))).toNat = log.countP (·.subject = o) :=
    hexact (Nat.lt_of_le_of_lt List.countP_le_length hlog)
  -- sums of two or three counts do not wrap round either
  have hclock := countP_subjects_le (a := .clock) (b := .saturation) (c := .reference) (by decide)
    (by decide) (by decide) log
  have hhealth := countP_subjects_le (a := .domain) (b := .master) (c := .clock) (by decide)
    (by decide) (by decide) log
  refine
    { cycles := hexact hseen
      degraded := hfound _
      unavailable := hfound _
      healthChanges := htold .master
      clockAnomalies := htold .clock
      saturations := htold .saturation
      overruns := htold .overrun
      le_cycles := ?_
      rate_le_one := ?_
      metrics_overruns := rfl
      metrics_clock := ?_
      metrics_health := ?_ }
  · simp only [List.forall_mem_cons, RunCounters.plus, RunCounters.zero]
    rw [hfound, hfound, htold, htold, htold]
    exact ⟨List.countP_le_length, List.countP_le_length, hcycle _ nofun nofun, hcycle _ nofun nofun,
      hcycle _ nofun nofun, nofun⟩
  · show ((0 + UInt64.ofNat _).toNat / (0 + UInt64.ofNat _).toNat : ℚ) ≤ 1
    rw [hfound, hexact hseen]
    exact div_le_one_of_le₀ (by exact_mod_cast List.countP_le_length) (Nat.cast_nonneg _)
  · show (0 + UInt64.ofNat _).toNat = (0 + UInt64.ofNat _).toNat + (0 + UInt64.ofNat _).toNat + _
    rw [hexact (Nat.lt_of_le_of_lt hclock hlog), htold, htold]
  · show (0 + UInt64.ofNat _).toNat = _ + (0 + UInt64.ofNat _).toNat
    rw [hexact (by omega), htold]

namespace Exchange

variable {M : Type} [MasterSession M]

/-- **Counters, events and metrics agree** after any run that is short of `2 ^ 64` cycles and
events. -/
theorem tallied_recorded (master : M) (topology : Topology) (data : ProcessData)
    (config : CycleConfig) (hs : List (PipelineHappening M))
    (short : hs.countP Happening.isCycle < UInt64.size) :
    let x := start master ⟨topology, data, .zero, .ofSink .newRecording⟩ config
    let y := x.happenings hs
    let log := y.shared.trace.sink.cycleEvents.toList
    log.length < UInt64.size →
      Tallied (hs.countP Happening.isCycle) (x.sights hs) log y.shared.counters
        y.shared.trace.sink.metrics := by
  intro x y log few
  have htrace : y.shared.trace = _ :=
    (trace_happenings x hs).trans (Trace.emitCycles_recording .zero #[] #[] (x.told hs))
  have hlog : log = x.told hs := by
    show y.shared.trace.sink.cycleEvents.toList = _
    rw [htrace]
    simp [Trace.ofSink, Sink.cycleEvents]
  have hmetrics : y.shared.trace.sink.metrics = SinkMetrics.zero.plus log := by
    rw [htrace, hlog, ← SinkMetrics.foldl_countCycle]
    rfl
  have hcounters : y.shared.counters = RunCounters.zero.plus (x.sights hs) log := by
    rw [hlog]
    exact counters_happenings x hs
  rw [hcounters, hmetrics, ← length_sights x hs]
  rw [← length_sights x hs] at short
  refine tallied_plus short few fun o hoverrun hwindow => ?_
  rw [hlog]
  exact countP_told_le hoverrun hwindow x hs

/-- The counts of a bus fault. -/
theorem tallied_recorded_of_flapping :
    let config := { CycleConfig.unprivileged 1000 with healthInterval := some 2 }
    let x := start (ScriptedMaster.ofDomainSize 8)
      ⟨.pair, .ofTopology .pair, .zero, .ofSink .newRecording⟩ config
    let y := x.happenings flapping
    let log := y.shared.trace.sink.cycleEvents.toList
    flapping.countP Happening.isCycle = 3 ∧ log.length = 6 ∧
      Tallied 3 (x.sights flapping) log y.shared.counters y.shared.trace.sink.metrics ∧
      y.shared.counters = ⟨3, 1, 2, 0, 2, 0, 1⟩ ∧
      y.shared.trace.sink.metrics = ⟨6, 0, 4, 1, 1, 0⟩ :=
  ⟨by decide +kernel, by decide +kernel,
    tallied_recorded _ _ _ _ flapping (by decide +kernel) (by decide +kernel),
    by decide +kernel, by decide +kernel⟩

end Exchange

end CyclicBus
