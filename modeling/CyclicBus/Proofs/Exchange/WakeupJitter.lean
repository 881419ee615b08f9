import CyclicBus.Proofs.Clock.Slew
import CyclicBus.Proofs.Exchange.PerfectReference
import CyclicBus.Proofs.Exchange.Runs

/-!
# Wakeup jitter

A cycle takes the application time of the cycle before it and the reference clock as it was latched
when that cycle was sent. Both come from one reading of the hardware clock, which drops out of their
difference. `rawDiff_of_consecutive`: the difference is what time base, offset and drift leave, so
that it does not show when the cycles woke up; neither does it show any faults of the bus.
-/

namespace CyclicBus

namespace SimulatedMaster

/-- The faults of a simulated bus that can be set from outside. -/
structure Faults where
  linkUp : Bool
  degraded : Bool
  failActivation : Bool
  referenceAvailable : Bool

def inject (f : Faults) (m : SimulatedMaster) : SimulatedMaster :=
  { m with
    linkUp := f.linkUp
    degraded := f.degraded
    failActivation := f.failActivation
    referenceAvailable := f.referenceAvailable }

/-- A register that was latched once is what a successful reading shows. -/
theorem eq_of_readReference {m : SimulatedMaster} {latched reading : UInt32} {now : UInt64}
    (hlatched : m.latched = some latched) (h : (m.readReference now).toOption = some reading) :
    reading = latched := by
  unfold readReference at h
  split_ifs at h
  · cases h
  · cases h
  · cases h
  · rw [hlatched] at h
    exact (Option.some.inj h).symm

end SimulatedMaster

namespace ClockSync

variable {M : Type} [MasterSession M] {c : ClockSync} {x : Surroundings M}

theorem rawDiff_filter (p : DriftParams) (s : ClockState) : (filter p s).2.rawDiff = s.rawDiff := by
  rcases hs : s.started with _ | _
  · rw [filter_of_not_started hs]
    split <;> rfl
  · rw [filter_of_started hs]
    split <;> rfl

theorem rawDiff_cycle_of_reading (hm : c.params.mode = .masterFollowsReference)
    {reference : UInt32} (h : c.readingOf x = some reference) :
    (c.cycle x).state.rawDiff = Clock.lowDiff c.state.appTime reference := by
  rw [state_cycle hm, h]
  exact rawDiff_filter _ _

/-- A synchronisation that reports no failed reading had one. -/
theorem readingOf_of_report (hm : c.params.mode = .masterFollowsReference)
    (h : (c.report x).referenceUnavailable = false) :
    ∃ reference, c.readingOf x = some reference := by
  rw [report, fst_sync, hm] at h
  cases hr : c.readingOf x with
  | none =>
    rw [hr] at h
    cases h
  | some reference => exact ⟨reference, rfl⟩

end ClockSync

namespace Exchange

/-- From outside the bus is given faults and their repair only. -/
def OnlyFaults (hs : List (PipelineHappening SimulatedMaster)) : Prop :=
  ∀ i, .outside i ∈ hs → ∃ f, i.master = SimulatedMaster.inject f

/-- A pipeline that follows a reference clock which runs on its own. -/
structure Follows (offset drift : Int64) (x : Exchange SimulatedMaster) : Prop where
  mode : x.clock.params.mode = .masterFollowsReference
  slaved : x.master.slaved = false
  offset : x.master.offset = offset
  drift : x.master.drift = drift

section Happenings

variable {x : Exchange SimulatedMaster} {offset drift : Int64}

/-- What is not a cycle leaves the clock and its register alone. -/
theorem happen_of_not_cycle {h : PipelineHappening SimulatedMaster} (hcycle : h.isCycle = false)
    (hfaults : OnlyFaults [h]) :
    (x.happen h).clock = x.clock ∧ ∃ linkUp available,
      (x.happen h).master.referenceClock = { x.master.referenceClock with linkUp, available } := by
  match h with
  | .call (.cycle context r) => cases hcycle
  | .call (.overrun context exec) => exact ⟨rfl, _, _, rfl⟩
  | .call (.window context w) => exact ⟨rfl, _, _, rfl⟩
  | .outside i =>
    obtain ⟨f, hf⟩ := hfaults i List.mem_cons_self
    refine ⟨rfl, f.linkUp, f.referenceAvailable, ?_⟩
    show (i.master x.master).referenceClock = _
    rw [hf]
    rfl

theorem happenings_of_not_cycle {hs : List (PipelineHappening SimulatedMaster)}
    (hcycle : ∀ h ∈ hs, h.isCycle = false) (hfaults : OnlyFaults hs) :
    (x.happenings hs).clock = x.clock ∧ ∃ linkUp available,
      (x.happenings hs).master.referenceClock =
        { x.master.referenceClock with linkUp, available } := by
  induction hs generalizing x with
  | nil => exact ⟨rfl, _, _, rfl⟩
  | cons h hs ih =>
    obtain ⟨hclock, _, _, hbus⟩ := happen_of_not_cycle (x := x) (hcycle h List.mem_cons_self)
      fun i hi => hfaults i (List.mem_cons.2 (.inl (List.mem_singleton.1 hi)))
    obtain ⟨hclocks, linkUp, available, hbuses⟩ := ih (x := x.happen h)
      (fun h' hh => hcycle h' (List.mem_cons_of_mem h hh))
      fun i hi => hfaults i (List.mem_cons_of_mem h hi)
    refine ⟨hclocks.trans hclock, linkUp, available, hbuses.trans ?_⟩
    rw [hbus]

theorem Follows.of_referenceClock (h : Follows offset drift x) {y : Exchange SimulatedMaster}
    (hparams : y.clock.params = x.clock.params) {linkUp available : Bool} {latched : Option UInt32}
    (hbus : y.master.referenceClock =
      { x.master.referenceClock with linkUp, available, latched }) :
    Follows offset drift y where
  mode := hparams ▸ h.mode
  slaved := (congrArg (·.slaved) hbus).trans h.slaved
  offset := (congrArg (·.offset) hbus).trans h.offset
  drift := (congrArg (·.drift) hbus).trans h.drift

theorem Follows.execute (h : Follows offset drift x) (cycle : UInt64) (r : Readings) :
    Follows offset drift (x.execute cycle r) := by
  have hparams : (x.execute cycle r).clock.params = x.clock.params := by
    rw [clock_execute, ClockSync.params_cycle]
  exact h.of_referenceClock hparams (referenceClock_execute x cycle r h.mode h.slaved)

theorem Follows.happen (h : Follows offset drift x) {e : PipelineHappening SimulatedMaster}
    (hfaults : OnlyFaults [e]) : Follows offset drift (x.happen e) := by
  cases hcycle : e.isCycle with
  | true =>
    match e with
    | .call (.cycle context r) => exact h.execute context.cycle r
    | .call (.overrun _ _) | .call (.window _ _) | .outside _ => cases hcycle
  | false =>
    obtain ⟨hclock, _, _, hbus⟩ := happen_of_not_cycle (x := x) hcycle hfaults
    exact h.of_referenceClock (congrArg (·.params) hclock) hbus

theorem Follows.happenings (h : Follows offset drift x)
    {hs : List (PipelineHappening SimulatedMaster)} (hfaults : OnlyFaults hs) :
    Follows offset drift (x.happenings hs) := by
  induction hs generalizing x with
  | nil => exact h
  | cons e hs ih =>
    have hnext := h.happen (e := e) fun i hi =>
      hfaults i (List.mem_cons.2 (.inl (List.mem_singleton.1 hi)))
    exact ih hnext fun i hi => hfaults i (List.mem_cons_of_mem e hi)

end Happenings

end Exchange

/-! ## Two cycles in a row -/

/-- A run of a pipeline over a simulated bus that ends with two cycles in a row. -/
structure Consecutive where
  config : CycleConfig
  master : SimulatedMaster
  shared : Shared
  /-- What happens before the two cycles. -/
  earlier : List (PipelineHappening SimulatedMaster)
  context : CycleContext
  readings : Readings
  /-- What happens between the two cycles. -/
  between : List (PipelineHappening SimulatedMaster)
  nextContext : CycleContext
  nextReadings : Readings

namespace Consecutive

variable (p : Consecutive)

def run : List (PipelineHappening SimulatedMaster) :=
  p.earlier ++ .call (.cycle p.context p.readings) ::
    (p.between ++ [.call (.cycle p.nextContext p.nextReadings)])

/-- The pipeline as the first of the two cycles begins. -/
def first : Exchange SimulatedMaster :=
  (Exchange.start p.master p.shared p.config).happenings p.earlier

/-- The pipeline as the second one begins. -/
def second : Exchange SimulatedMaster :=
  (p.first.execute p.context.cycle p.readings).happenings p.between

/-- The time base that the first synchronisation uses. -/
def timeBase : Int := p.first.clock.state.timeBase.toInt

/-- The difference that the second cycle leaves. -/
def rawDiff : Int32 :=
  ((Exchange.start p.master p.shared p.config).happenings p.run).clock.state.rawDiff

/-- The reference clock runs on its own, the first synchronisation is exact, and the second one has
a reading. -/
structure Comparable : Prop where
  mode : p.config.syncMode = .masterFollowsReference
  slaved : p.master.slaved = false
  faults : Exchange.OnlyFaults p.run
  adjacent : ∀ h ∈ p.between, h.isCycle = false
  steady : p.readings.Steady
  sound : (p.first.clock.report (p.first.found p.readings)).anomaly = none
  unsaturated : p.readings.syncClock.toNat - p.timeBase ≤ UInt64.top.toNat
  read : (p.second.clock.report (p.second.found p.nextReadings)).referenceUnavailable = false

theorem rawDiff_eq :
    p.rawDiff =
      (p.second.execute p.nextContext.cycle p.nextReadings).clock.state.rawDiff := by
  rw [rawDiff, run, Exchange.happenings, List.foldl_append, List.foldl_cons, List.foldl_append]
  rfl

namespace Comparable

variable {p} (h : p.Comparable)

include h

theorem follows_first : Exchange.Follows p.master.offset p.master.drift p.first := by
  have hstart : Exchange.Follows p.master.offset p.master.drift
      (Exchange.start p.master p.shared p.config) := ⟨h.mode, h.slaved, rfl, rfl⟩
  exact hstart.happenings fun i hi => h.faults i (List.mem_append_left _ hi)

/-- What is between the two cycles leaves the clock as the first one left it, and the register as it
was latched then. -/
theorem kept :
    p.second.clock = (p.first.execute p.context.cycle p.readings).clock ∧
      p.second.master.latched =
        some (.ofInt (p.readings.syncClock.toNat + p.master.driftAt p.readings.syncClock +
          p.master.offset.toInt)) := by
  have hfirst := h.follows_first
  obtain ⟨hclock, _, _, hbus⟩ := Exchange.happenings_of_not_cycle
    (x := p.first.execute p.context.cycle p.readings) h.adjacent fun i hi =>
      h.faults i (List.mem_append_right _ (List.mem_cons_of_mem _ (List.mem_append_left _ hi)))
  have hlatch := Exchange.referenceClock_execute p.first p.context.cycle p.readings hfirst.mode
    hfirst.slaved
  rw [SimulatedMaster.referenceNow_of_not_slaved hfirst.slaved, SimulatedMaster.driftAt,
    hfirst.offset, hfirst.drift, h.steady.2.2] at hlatch
  exact ⟨hclock, (congrArg (·.latched) hbus).trans (congrArg (·.latched) hlatch)⟩

/-- The second cycle reads what the first one latched. -/
theorem readingOf_second :
    p.second.clock.readingOf (p.second.found p.nextReadings) =
      some (.ofInt (p.readings.syncClock.toNat + p.master.driftAt p.readings.syncClock +
        p.master.offset.toInt)) := by
  obtain ⟨hclock, hlatched⟩ := h.kept
  have hmode : p.second.clock.params.mode = .masterFollowsReference := by
    rw [hclock]
    exact (h.follows_first.execute p.context.cycle p.readings).mode
  obtain ⟨reference, hread⟩ := ClockSync.readingOf_of_report hmode h.read
  have hregister : (MasterSession.setApplicationTime
      (p.second.clock.timeAt p.nextReadings.syncClock)
      (p.second.prepared p.nextReadings).master).latched = _ :=
    (congrArg (·.latched) (p.second.referenceClock_prepared p.nextReadings)).trans hlatched
  rw [hread, SimulatedMaster.eq_of_readReference hregister hread]

/-- The second cycle takes the difference to the application time of the first one. -/
theorem toNat_appTime_second :
    (p.second.clock.state.appTime.toNat : Int) = p.readings.syncClock.toNat - p.timeBase := by
  have hreport := ClockSync.toNat_report h.sound
  rw [(p.first.clock.report_eq _).1] at hreport
  rw [h.kept.1, Exchange.clock_execute, ClockSync.appTime_cycle h.follows_first.mode, hreport]
  exact Int.min_eq_left h.unsaturated

/-- The reading of the hardware clock drops out of the difference. -/
theorem toInt_rawDiff :
    p.rawDiff.toInt =
      (-p.timeBase - p.master.offset.toInt - p.master.driftAt p.readings.syncClock).bmod
        4294967296 := by
  have hmode : p.second.clock.params.mode = .masterFollowsReference := by
    rw [h.kept.1]
    exact (h.follows_first.execute p.context.cycle p.readings).mode
  rw [rawDiff_eq, Exchange.clock_execute,
    ClockSync.rawDiff_cycle_of_reading hmode h.readingOf_second, Clock.toInt_lowDiff,
    h.toNat_appTime_second]
  show (_ - ((UInt32.ofNat _).toNat : Int)).bmod _ = _
  rw [UInt32.toNat_ofNat', Int.bmod_def, Int.bmod_def]
  split <;> split <;> omega

end Comparable

end Consecutive

/-- **The difference is immune to wakeup jitter.** Of two cycles in a row the second one reads minus
the time base of the first synchronisation, minus the offset and the drift of the reference clock at
that time, as far as 32 bits show it. So without drift any two runs with the same offset read the
same difference where they synchronise with the same time base, whatever their clocks show. -/
theorem rawDiff_of_consecutive (p : Consecutive) (h : p.Comparable) :
    p.rawDiff.toInt =
        (-p.timeBase - p.master.offset.toInt - p.master.driftAt p.readings.syncClock).bmod
          4294967296 ∧
      ∀ q : Consecutive, q.Comparable → p.master.drift = 0 → q.master.drift = 0 →
        q.master.offset = p.master.offset → q.timeBase = p.timeBase → q.rawDiff = p.rawDiff := by
  refine ⟨h.toInt_rawDiff, fun q hq hp hq' hoffset hbase => ?_⟩
  have hdrift {m : SimulatedMaster} (hm : m.drift = 0) (now : UInt64) : m.driftAt now = 0 := by
    rw [SimulatedMaster.driftAt, hm]
    show ((now.toNat : Int) * 0).tdiv 1000000000 = 0
    rw [Int.mul_zero, Int.zero_tdiv]
  rw [← Int32.toInt_inj, hq.toInt_rawDiff, h.toInt_rawDiff, hdrift hp, hdrift hq', hoffset, hbase]

/-- Four cycles that wake up at the given times. The link is down for the third one, which overruns,
and the reference reads half a microsecond ahead. -/
def jittered (drift : Int64) (wakeups : UInt64 × UInt64 × UInt64) : Consecutive where
  config := { CycleConfig.unprivileged 1000000 with filterWindow := 1 }
  master := { SimulatedMaster.freshPerfect .pair 8 0 with offset := 500, drift }
  shared := .ofTopology .pair (.ofSink .null)
  earlier :=
    [.call (.cycle ⟨0, 1000000, 1000000, 0, 1000000⟩ (.still 1000000)),
      .call (.cycle ⟨1, 2000000, wakeups.1, 0, 1000000⟩ (.still wakeups.1)),
      .outside ⟨SimulatedMaster.inject ⟨false, false, true, true⟩, id⟩]
  context := ⟨2, 3000000, wakeups.2.1, 0, 1000000⟩
  readings := .still wakeups.2.1
  between :=
    [.call (.overrun ⟨2, 3000000, wakeups.2.1, 0, 1000000⟩ 1500000),
      .outside ⟨SimulatedMaster.inject ⟨true, true, false, true⟩, id⟩]
  nextContext := ⟨3, 4000000, wakeups.2.2, 0, 1000000⟩
  nextReadings := .still wakeups.2.2

theorem Consecutive.Comparable.jittered {drift : Int64} {wakeups : UInt64 × UInt64 × UInt64}
    (h : let p := jittered drift wakeups
      (p.first.clock.report (p.first.found p.readings)).anomaly = none ∧
        p.readings.syncClock.toNat - p.timeBase ≤ UInt64.top.toNat ∧
        (p.second.clock.report (p.second.found p.nextReadings)).referenceUnavailable = false) :
    (jittered drift wakeups).Comparable where
  mode := rfl
  slaved := rfl
  faults i hi := by
    simp only [run, CyclicBus.jittered, List.cons_append, List.nil_append, List.mem_cons,
      reduceCtorEq, Happening.outside.injEq, List.not_mem_nil, or_false, false_or] at hi
    rcases hi with rfl | rfl
    · exact ⟨_, rfl⟩
    · exact ⟨_, rfl⟩
  adjacent := by
    intro e he
    simp only [CyclicBus.jittered, List.mem_cons, List.not_mem_nil, or_false] at he
    rcases he with rfl | rfl <;> rfl
  steady := ⟨rfl, rfl, rfl⟩
  sound := h.1
  unsaturated := h.2.1
  read := h.2.2

/-- Cycles on time and cycles that are late by up to seven hundred nanoseconds, and with drift. -/
theorem rawDiff_of_consecutive_of_jittered :
    let p := jittered 0 (2000000, 3000000, 4000000)
    let q := jittered 0 (2000300, 3000700, 4000100)
    let d := jittered 50000 (2000300, 3000700, 4000100)
    p.Comparable ∧ q.Comparable ∧ d.Comparable ∧ q.timeBase = p.timeBase ∧ p.timeBase = 999 ∧
      q.rawDiff = p.rawDiff ∧ p.rawDiff.toInt = -1499 ∧ d.rawDiff.toInt = -1649 := by
  intro p q d
  have hp : p.Comparable := .jittered (by decide +kernel)
  have hq : q.Comparable := .jittered (by decide +kernel)
  have hd : d.Comparable := .jittered (by decide +kernel)
  have hbase : q.timeBase = p.timeBase := by decide +kernel
  obtain ⟨hvalue, hsame⟩ := rawDiff_of_consecutive p hp
  obtain ⟨hdrift, -⟩ := rawDiff_of_consecutive d hd
  refine ⟨hp, hq, hd, hbase, by decide +kernel, hsame q hq rfl rfl rfl hbase, ?_, ?_⟩
  · rw [hvalue]
    decide +kernel
  · rw [hdrift]
    decide +kernel

end CyclicBus
