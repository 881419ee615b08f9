import CyclicBus.Bus.SimulatedMaster
import CyclicBus.Proofs.Clock.FirstDifference
import CyclicBus.Proofs.Exchange.PlainCycle
import CyclicBus.Proofs.ProcessData.LastWriter

/-!
# A perfect reference clock

A simulated bus whose reference clock is the hardware clock itself. From the second cycle on the
register shows the low word of the last application time, so that there is no difference. But the
first cycle compares the reference with a clock that has not run: the filter reads the whole
hardware time, as far as 32 bits show it. `atRest_iff` tells when the clock stays at rest all the
same, and no adjustment is cut.
-/

namespace CyclicBus

/-! ## The register of the reference clock -/

namespace SimulatedMaster

/-- What a simulated bus knows of its reference clock. -/
structure ReferenceClock where
  device : Option UInt64
  offset : Int64
  drift : Int64
  slaved : Bool
  latched : Option UInt32
  linkUp : Bool
  available : Bool

/-- A clock that shows the hardware clock, with what its register holds. -/
def ReferenceClock.perfect (device : Option UInt64) (latched : Option UInt32) : ReferenceClock :=
  ⟨device, 0, 0, false, latched, true, true⟩

def referenceClock (m : SimulatedMaster) : ReferenceClock :=
  ⟨m.reference, m.offset, m.drift, m.slaved, m.latched, m.linkUp, m.referenceAvailable⟩

/-- A fresh bus without offset and drift that was given a reference device and activated. -/
def freshPerfect (t : Topology) (size : Nat) (device : UInt64) : SimulatedMaster :=
  (MasterSession.activate
    (MasterSession.selectReference device (ofDomainSize t size 0 0)).2).2

theorem referenceClock_freshPerfect {t : Topology} {device : UInt64} (h : device.toNat < t.size)
    (size : Nat) : (freshPerfect t size device).referenceClock = .perfect (some device) none := by
  have hselect : (MasterSession.selectReference device (ofDomainSize t size 0 0)).2 =
      { ofDomainSize t size 0 0 with reference := some device } := by
    show (if t.size ≤ device.toNat then _ else _ : Except MasterFault Unit × SimulatedMaster).2 = _
    rw [if_neg (Nat.not_le_of_lt h)]
  rw [freshPerfect, hselect]
  rfl

theorem referenceClock_exchange (m : SimulatedMaster) :
    m.exchange.referenceClock = m.referenceClock := by
  unfold exchange
  dsimp only
  split <;> rfl

/-- A reference clock that runs on its own shows the hardware clock with its drift and offset. -/
theorem referenceNow_of_not_slaved {m : SimulatedMaster} (h : m.slaved = false) (now : UInt64) :
    m.referenceNow now = .ofInt (now.toNat + m.driftAt now + m.offset.toInt) := by
  rw [referenceNow, h]
  rfl

theorem referenceNow_congr {m m' : SimulatedMaster} (h : m.referenceClock = m'.referenceClock)
    (hslaved : m.slaved = false) (now : UInt64) : m.referenceNow now = m'.referenceNow now := by
  have hslaved' : m'.slaved = false := (congrArg (·.slaved) h).symm.trans hslaved
  have hoffset : m.offset = m'.offset := congrArg (·.offset) h
  have hdrift : m.drift = m'.drift := congrArg (·.drift) h
  rw [referenceNow_of_not_slaved hslaved, referenceNow_of_not_slaved hslaved', driftAt, driftAt,
    hoffset, hdrift]

variable {m : SimulatedMaster} {device : Option UInt64} {latched : Option UInt32}
  (h : m.referenceClock = .perfect device latched)

include h

theorem referenceNow_of_perfect (now : UInt64) : m.referenceNow now = now.toUInt32 := by
  have hslaved : m.slaved = false := congrArg ReferenceClock.slaved h
  have hoffset : m.offset = 0 := congrArg ReferenceClock.offset h
  have hdrift : m.drift = 0 := congrArg ReferenceClock.drift h
  have hclock : (now.toNat : Int) + m.driftAt now + m.offset.toInt = now.toNat := by
    rw [driftAt, hoffset, hdrift]
    show (now.toNat : Int) + ((now.toNat : Int) * 0).tdiv 1000000000 + 0 = now.toNat
    rw [Int.mul_zero, Int.zero_tdiv, Int.add_zero, Int.add_zero]
  rw [referenceNow_of_not_slaved hslaved, hclock, ← UInt32.toNat_inj, UInt64.toNat_toUInt32]
  show (UInt32.ofNat _).toNat = _
  have := now.toNat_lt
  rw [UInt32.toNat_ofNat']
  omega

theorem readReference_of_perfect (now : UInt64) :
    (m.readReference now).toOption = device.map fun _ => latched.getD now.toUInt32 := by
  have hdevice : m.reference = device := congrArg ReferenceClock.device h
  have hlatched : m.latched = latched := congrArg ReferenceClock.latched h
  have hlink : m.linkUp = true := congrArg ReferenceClock.linkUp h
  have havailable : m.referenceAvailable = true := congrArg ReferenceClock.available h
  rw [readReference, hdevice, hlatched, hlink, havailable, referenceNow_of_perfect h]
  cases device <;> rfl

end SimulatedMaster

/-! ## Cycles of a clock in a pipeline -/

namespace Exchange

section Clock

variable {M : Type} [MasterSession M] (x : Exchange M) (cycle : UInt64) (r : Readings)

/-- The clock of a pipeline makes the cycles of a clock. -/
theorem clock_execute : (x.execute cycle r).clock = x.clock.cycle (x.found r) := by
  rw [(noted_execute x cycle r).clock]
  show (x.sent r).clock.update.2 = _
  rw [clock_sent]
  rfl

/-- Of a cycle the trace is told a cut adjustment, if there is one. -/
theorem reports_execute :
    x.shared.trace.Reports
      ((x.clock.synced (x.found r)).update.1.saturations cycle x.clock.params.clamp)
      (x.execute cycle r).shared.trace := by
  have htrace := (noted_execute x cycle r).trace
  rwa [params_plain, trace_plain, clock_sent] at htrace

/-- Cycles in a row, each with its number. -/
def executes (x : Exchange M) (cs : List (UInt64 × Readings)) : Exchange M :=
  cs.foldl (fun x c => x.execute c.1 c.2) x

theorem executes_append (cs cs' : List (UInt64 × Readings)) :
    x.executes (cs ++ cs') = (x.executes cs).executes cs' := List.foldl_append

end Clock

end Exchange

/-! ## Cut adjustments -/

namespace Agrees

open ClockSync

variable {config : CycleConfig} {e : ExactFilter} (valid : config.validate = .ok ())
  (cycle : UInt64) (clamp : Int64)

include valid

/-- The end of a window cuts the adjustment where the exact demand lies beyond the clamp. -/
theorem cut_iff {s : ClockState} (inv : FilterInv config s) (h : Agrees s e) :
    (ClockSync.closed config.driftParams s).adjustment ≠
        ClockSync.unclamped config.driftParams (ClockSync.sampled config.driftParams s) ↔
      config.driftClamp.toNat < ((e.sampled config s.rawDiff.toInt).unclamped config).natAbs := by
  rw [ne_eq, ← Int64.toInt_inj, FilterInv.toInt_closed_adjustment, h.unclamped valid inv]
  omega

/-- A filter step reports a cut adjustment where the exact step cuts one, and nowhere else. -/
theorem saturations_filter {s : ClockState} (inv : FilterInv config s) (h : Agrees s e) :
    (filter config.driftParams s).1.saturations cycle clamp = [] ↔
      ¬ e.Cuts config s.rawDiff.toInt := by
  have hindex := window_le_iff inv
  rw [(h.sampled valid inv).filterIndex] at hindex
  rcases hs : s.started with _ | _
  · have hcuts : ¬ e.Cuts config s.rawDiff.toInt := by
      rintro ⟨hstarted, -⟩
      rw [← h.started, hs] at hstarted
      cases hstarted
    rw [filter_of_not_started hs]
    split <;> exact iff_of_true rfl hcuts
  · rw [filter_of_started hs]
    by_cases hend : config.driftParams.window ≤ (ClockSync.sampled config.driftParams s).filterIndex
    · have hcuts : e.Cuts config s.rawDiff.toInt ↔
          (ClockSync.closed config.driftParams s).adjustment ≠
            ClockSync.unclamped config.driftParams (ClockSync.sampled config.driftParams s) := by
        rw [cut_iff valid inv h]
        exact ⟨fun hcuts => hcuts.2.2, fun hbeyond =>
          ⟨h.started.symm.trans hs, hindex.1 hend, hbeyond⟩⟩
      rw [if_pos hend, hcuts]
      by_cases hcut : (ClockSync.closed config.driftParams s).adjustment ≠
          ClockSync.unclamped config.driftParams (ClockSync.sampled config.driftParams s)
      · simp [hcut, DriftUpdate.saturations]
      · simp [hcut, DriftUpdate.saturations]
    · rw [if_neg hend]
      exact iff_of_true rfl fun hcuts => hend (hindex.2 hcuts.2.1)

theorem saturations_synced {M : Type} [MasterSession M] {c : ClockSync} (inv : ClockInv config c)
    (h : Agrees c.state e) (x : Surroundings M) :
    (c.synced x).update.1.saturations cycle clamp = [] ↔
      ∀ raw, c.rawDiffOf x = some raw → ¬ e.Cuts config raw := by
  have hsynced := inv.synced x
  have hmode := hsynced.mode
  rw [ClockSync.rawDiffOf]
  cases hr : c.readingOf x with
  | none =>
    have hfresh : (c.synced x).fresh = false := by rw [synced_of_failure inv.mode hr]
    rw [update_of_stale hmode hfresh]
    refine iff_of_true rfl ?_
    rintro _ ⟨⟩
  | some reference =>
    have hstate : (c.synced x).state = { c.state with
        appTime := c.timeAt x.hardware
        rawDiff := Clock.lowDiff c.state.appTime reference } := by
      rw [synced_of_reading inv.mode hr]
    have hfresh : (c.synced x).fresh = true := by rw [synced_of_reading inv.mode hr]
    have hfilter := saturations_filter valid cycle clamp
      (inv.filter.observe (c.timeAt x.hardware) (Clock.lowDiff c.state.appTime reference))
      (h.observe _ _)
    rw [Clock.toInt_lowDiff] at hfilter
    rw [update_of_fresh hmode hfresh, hsynced.params, hstate, Option.map_some]
    exact hfilter.trans ⟨fun hcuts _ hraw => Option.some.inj hraw ▸ hcuts, fun h => h _ rfl⟩

end Agrees

/-! ## Recorded events -/

namespace Trace

/-- A handle on a sink that keeps events. `cut` are those kept that report a cut adjustment. -/
def Records (cut : List CycleEvent) (t : Trace) : Prop :=
  ∃ m c l, t = ofSink (.recording m c l) ∧ c.toList.filter CycleEvent.isSaturation = cut

theorem Records.emitCycle {cut : List CycleEvent} {t : Trace} (h : t.Records cut)
    (e : CycleEvent) : (t.emitCycle e).Records (cut ++ [e].filter CycleEvent.isSaturation) := by
  obtain ⟨m, c, l, rfl, rfl⟩ := h
  refine ⟨m.countCycle e, c.push e, l, rfl, ?_⟩
  rw [Array.toList_push, List.filter_append]

theorem Records.reports {cut cut' : List CycleEvent} {t t' : Trace} (h : t.Records cut)
    (h' : t.Reports cut' t') : t'.Records (cut ++ cut') := by
  obtain ⟨es, rfl, rfl⟩ := h'
  induction es generalizing t cut with
  | nil => rwa [List.filter_nil, List.append_nil]
  | cons e es ih =>
    have hrest := ih (h.emitCycle e)
    rwa [List.append_assoc, ← List.filter_append] at hrest

theorem Records.saturations {cut : List CycleEvent} {t : Trace} (h : t.Records cut) :
    t.sink.cycleEvents.toList.filter CycleEvent.isSaturation = cut := by
  obtain ⟨m, c, l, rfl, rfl⟩ := h
  rfl

end Trace

namespace Exchange

/-- What was recorded stays recorded. -/
theorem records_executes {M : Type} [MasterSession M] {x : Exchange M} {cut : List CycleEvent}
    (h : x.shared.trace.Records cut) (cs : List (UInt64 × Readings)) :
    ∃ more, (x.executes cs).shared.trace.Records (cut ++ more) := by
  induction cs generalizing x cut with
  | nil => exact ⟨[], by rwa [List.append_nil]⟩
  | cons c cs ih =>
    obtain ⟨more, hmore⟩ := ih (h.reports (reports_execute x c.1 c.2))
    rw [List.append_assoc] at hmore
    exact ⟨_, hmore⟩

/-! ## A pipeline at rest -/

section Register

variable (x : Exchange SimulatedMaster) (cycle : UInt64) (r : Readings)

theorem referenceClock_prepared :
    (x.prepared r).master.referenceClock = x.master.referenceClock := by
  have hlooked (y : Exchange SimulatedMaster) :
      y.looked.master.referenceClock = y.master.referenceClock := by
    unfold looked
    dsimp only
    split <;> rfl
  show ((x.call MasterSession.receive).call MasterSession.processDomain).looked.master.referenceClock
    = _
  rw [hlooked]
  exact x.master.referenceClock_exchange

/-- A cycle latches a reference clock that runs on its own as it is sent. -/
theorem referenceClock_execute (mode : x.clock.params.mode = .masterFollowsReference)
    (h : x.master.slaved = false) :
    (x.execute cycle r).master.referenceClock =
      { x.master.referenceClock with latched := some (x.master.referenceNow r.sendClock) } := by
  have hsynced : ((x.prepared r).synced r).master =
      { (x.prepared r).master with appTime := (x.prepared r).clock.timeAt r.syncClock } := by
    rw [← clock_prepared x r] at mode
    unfold synced ClockSync.sync
    rw [mode]
    rfl
  have hbus : ((x.prepared r).synced r).master.referenceClock = x.master.referenceClock := by
    rw [hsynced, ← referenceClock_prepared x r]
    rfl
  have hqueued : ((x.prepared r).synced r).master.queued = true := by rw [hsynced]; rfl
  rw [(noted_execute x cycle r).master]
  show (MasterSession.send r.sendClock ((x.prepared r).synced r).master).referenceClock = _
  show SimulatedMaster.referenceClock (if _ then _ else _) = _
  rw [if_pos hqueued, SimulatedMaster.referenceNow_congr hbus.symm h]
  show { ((x.prepared r).synced r).master.referenceClock with
    latched := some (((x.prepared r).synced r).master.referenceNow r.sendClock) } = _
  rw [hbus]

end Register

/-- The clock is not steered. -/
def AtRest {M : Type} (x : Exchange M) : Prop :=
  x.clock.state.timeBase = 0 ∧ x.clock.state.adjustment = 0

/-- The difference that a clock at rest reads off a perfect reference: none after a cycle, but before
the first one the application time is zero. -/
def lag (last : Option UInt64) (now : UInt64) : Int :=
  match last with
  | none => (-(now.toNat : Int)).bmod 4294967296
  | some _ => 0

/-- A pipeline with a perfect reference whose time base is zero. It shows an exact filter, and has
recorded no cut adjustment; `last` is the clock at the last cycle. -/
structure Rested (config : CycleConfig) (device last : Option UInt64) (e : ExactFilter)
    (x : Exchange SimulatedMaster) : Prop where
  clock : ClockInv config x.clock
  agrees : Agrees x.clock.state e
  exact : e.timeBase = 0
  timeBase : x.clock.state.timeBase = 0
  appTime : x.clock.state.appTime = last.getD 0
  bus : x.master.referenceClock = .perfect device (last.map UInt64.toUInt32)
  trace : x.shared.trace.Records []

namespace Rested

variable {config : CycleConfig} {device last : Option UInt64} {e : ExactFilter}
  {x : Exchange SimulatedMaster} (h : Rested config device last e x) {r : Readings}
  (steady : r.Steady)

theorem start (valid : config.validate = .ok ()) (mode : config.syncMode = .masterFollowsReference)
    {m : SimulatedMaster} (perfect : m.referenceClock = .perfect device none) {shared : Shared}
    (recording : shared.trace = .ofSink .newRecording) :
    Rested config device none .zero (Exchange.start m shared config) :=
  ⟨ClockInv.ofParams valid mode, .zero, rfl, rfl, rfl, perfect, _, _, _, recording, rfl⟩

include h

theorem atRest (hadjustment : e.adjustment = 0) : x.AtRest := by
  refine ⟨h.timeBase, ?_⟩
  rw [← Int64.toInt_inj, h.agrees.adjustment, hadjustment]
  rfl

theorem timeAt_eq (hardware : UInt64) : x.clock.timeAt hardware = hardware := by
  have hbase : x.clock.state.timeBase.toInt = 0 := by rw [h.timeBase]; rfl
  have hnonneg : ¬ (hardware.toNat : Int) < 0 := by omega
  unfold ClockSync.timeAt ClockSync.applicationTime
  dsimp only
  rw [hbase, if_neg hnonneg, Int.sub_zero, Int.toNat_natCast, ← UInt64.toNat_inj,
    UInt64.toNat_ofNatClamp_of_lt hardware.toNat_lt]

include steady

theorem rawDiffOf_found :
    x.clock.rawDiffOf (x.found r) = device.map fun _ => lag last r.syncClock := by
  have hbus : (MasterSession.setApplicationTime (x.clock.timeAt r.syncClock)
      (x.prepared r).master).referenceClock = .perfect device (last.map UInt64.toUInt32) :=
    (referenceClock_prepared x r).trans h.bus
  have hread : x.clock.readingOf (x.found r) =
      device.map fun _ => (last.map UInt64.toUInt32).getD r.syncClock.toUInt32 := by
    rw [← steady.2.1]
    exact SimulatedMaster.readReference_of_perfect hbus r.referenceClock
  rw [ClockSync.rawDiffOf, hread, Option.map_map, h.appTime]
  congr 1
  funext _
  cases last with
  | none =>
    show (((0 : UInt64).toNat : Int) - r.syncClock.toUInt32.toNat).bmod 4294967296 = _
    rw [UInt64.toNat_toUInt32, lag, Int.bmod_def, Int.bmod_def]
    have hzero : (0 : UInt64).toNat = 0 := rfl
    split <;> split <;> omega
  | some time =>
    show ((time.toNat : Int) - time.toUInt32.toNat).bmod 4294967296 = 0
    rw [UInt64.toNat_toUInt32, Int.bmod_def]
    split <;> omega

/-- **One more cycle** leaves the clock at rest where the exact filter stays at rest. -/
theorem execute (valid : config.validate = .ok ())
    (hcuts : device.isSome → ¬ e.Cuts config (lag last r.syncClock))
    (hrest : (e.feed config (device.map fun _ => lag last r.syncClock)).timeBase = 0)
    (cycle : UInt64) :
    Rested config device (some r.syncClock)
      (e.feed config (device.map fun _ => lag last r.syncClock)) (x.execute cycle r) := by
  have hraw := h.rawDiffOf_found steady
  have hclock := clock_execute x cycle r
  have hagrees := h.agrees.cycle valid h.clock (x.found r)
  rw [hraw] at hagrees
  -- the word is the exact time base as long as that is one, and it is zero
  have hbase : (x.clock.cycle (x.found r)).state.timeBase.toInt = 0 := by
    have hzero : x.clock.state.timeBase.toInt = e.timeBase := by rw [h.timeBase, h.exact]; rfl
    have hexact := timeBase_cycle valid h.clock h.agrees hzero (x.found r)
    rw [hraw, hrest] at hexact
    exact hexact (by decide)
  have hcut : (x.clock.synced (x.found r)).update.1.saturations cycle x.clock.params.clamp = [] := by
    rw [h.agrees.saturations_synced valid cycle _ h.clock, hraw]
    cases device with
    | none => exact fun _ h => nomatch h
    | some _ => exact fun _ h => Option.some.inj h ▸ hcuts rfl
  have hreports := reports_execute x cycle r
  rw [hcut] at hreports
  refine ⟨?_, ?_, hrest, ?_, ?_, ?_, h.trace.reports hreports⟩
  · rw [hclock]
    exact (h.clock.synced _).update valid
  · rw [hclock]
    exact hagrees
  · rw [hclock, ← Int64.toInt_inj, hbase]
    rfl
  · rw [hclock, ClockSync.appTime_cycle h.clock.mode]
    exact h.timeAt_eq r.syncClock
  · rw [referenceClock_execute x cycle r h.clock.mode (congrArg (·.slaved) h.bus), h.bus,
      SimulatedMaster.referenceNow_of_perfect h.bus, steady.2.2]
    rfl

omit h steady

/-- The exact filter after a first cycle and `k` more that left it at rest. -/
def filterAfter (config : CycleConfig) (device : Option UInt64) (d : Int) (k : Nat) : ExactFilter :=
  match device with
  | none => .zero
  | some _ => .settled config d k

theorem timeBase_filterAfter (d : Int) (k : Nat) : (filterAfter config device d k).timeBase = 0 := by
  cases device <;> rfl

theorem adjustment_filterAfter (d : Int) (k : Nat) :
    (filterAfter config device d k).adjustment = 0 := by
  cases device <;> rfl

include steady

/-- The first cycle leaves every clock at rest. -/
theorem first (valid : config.validate = .ok ()) (h : Rested config device none .zero x)
    (cycle : UInt64) :
    Rested config device (some r.syncClock)
      (filterAfter config device (lag none r.syncClock) 0) (x.execute cycle r) := by
  have hfeed : ExactFilter.feed config .zero (device.map fun _ => lag none r.syncClock) =
      filterAfter config device (lag none r.syncClock) 0 := by
    cases device with
    | none => rfl
    | some _ => exact ExactFilter.step_zero config _
  rw [← hfeed]
  refine h.execute steady valid (fun _ hcuts => nomatch hcuts.1) ?_ cycle
  rw [hfeed, timeBase_filterAfter]

theorem next (valid : config.validate = .ok ()) {time : UInt64} {d : Int} {k : Nat}
    (h : Rested config device (some time) (filterAfter config device d k) x)
    (hrest : device = none ∨ ExactFilter.Rests config d (k + 1)) (cycle : UInt64) :
    Rested config device (some r.syncClock) (filterAfter config device d (k + 1))
      (x.execute cycle r) := by
  have hw := CycleConfig.window_of_validate valid
  have hsteps : device.isSome → ExactFilter.Rests config d (k + 1) := by
    rcases hrest with rfl | hrest
    · exact fun h => nomatch h
    · exact fun _ => hrest
  have hfeed : (filterAfter config device d k).feed config (device.map fun _ => 0) =
      filterAfter config device d (k + 1) := by
    cases device with
    | none => rfl
    | some _ => exact ExactFilter.step_settled hw (hsteps rfl)
  rw [← hfeed]
  refine h.execute steady valid (fun hsome => ?_) ?_ cycle
  · cases device with
    | none => cases hsome
    | some _ => exact ExactFilter.not_cuts_settled hw (hsteps rfl)
  · exact congrArg ExactFilter.timeBase hfeed ▸ timeBase_filterAfter d (k + 1)

/-- The cycle that ends the first window moves the clock, or reports that it would have. -/
theorem moves (valid : config.validate = .ok ()) {selected time : UInt64} {d : Int} {k : Nat}
    (h : Rested config (some selected) (some time) (.settled config d k) x)
    (hstart : d.bmod config.period.toNat ≠ 0)
    (hlarge : config.filterWindow.toNat ≤ 2 * d.natAbs)
    (hlast : k + 1 = config.filterWindow.toNat) (cycle : UInt64) :
    ∃ cut, (x.execute cycle r).shared.trace.Records cut ∧
      (cut ≠ [] ∨ ¬ (x.execute cycle r).AtRest) := by
  have hw := CycleConfig.window_of_validate valid
  have hraw := h.rawDiffOf_found steady
  refine ⟨_, h.trace.reports (reports_execute x cycle r), ?_⟩
  rcases ExactFilter.cuts_or_adjustment_ne_zero hw hstart hlarge hlast with hcuts | hmoved
  · left
    rw [List.nil_append, ne_eq, h.agrees.saturations_synced valid cycle _ h.clock, hraw]
    exact fun hnone => hnone 0 rfl hcuts
  · right
    have hagrees := h.agrees.cycle valid h.clock (x.found r)
    rw [hraw, ← clock_execute x cycle r] at hagrees
    rintro ⟨-, hzero⟩
    refine hmoved ?_
    have hadjustment := hagrees.adjustment
    rw [hzero] at hadjustment
    exact hadjustment.symm

end Rested

/-! ### Every run -/

section Runs

variable {config : CycleConfig} (valid : config.validate = .ok ())
  (mode : config.syncMode = .masterFollowsReference) {m : SimulatedMaster}
  {device : Option UInt64} (perfect : m.referenceClock = .perfect device none) {shared : Shared}
  (recording : shared.trace = .ofSink .newRecording)

include valid mode perfect recording

/-- Cycles that do not reach the end of a first window with much in it leave the clock at rest. -/
theorem rested_executes (first : UInt64 × Readings) (rest : List (UInt64 × Readings))
    (steady : ∀ c ∈ first :: rest, c.2.Steady)
    (h : device = none ∨ ExactFilter.Rests config (lag none first.2.syncClock) rest.length) :
    ∃ time, Rested config device (some time)
      (Rested.filterAfter config device (lag none first.2.syncClock) rest.length)
      ((start m shared config).executes (first :: rest)) := by
  induction rest using List.reverseRecOn with
  | nil =>
    exact ⟨_, (Rested.start valid mode perfect recording).first (steady first List.mem_cons_self)
      valid first.1⟩
  | append_singleton rest c ih =>
    rw [List.length_append, List.length_singleton] at h ⊢
    obtain ⟨time, hrested⟩ := ih
      (fun c' hc => steady c' (List.mem_append_left [c] hc))
      (h.imp_right fun h => h.of_le (Nat.le_succ _))
    have hsteady : c.2.Steady := steady c (by simp)
    rw [← List.cons_append, executes_append]
    exact ⟨_, hrested.next hsteady valid h c.1⟩

/-- Cycles that reach the end of a first window with much in it do not. -/
theorem not_atRest_executes {selected : UInt64} (hdevice : device = some selected)
    {first : UInt64 × Readings} {rest : List (UInt64 × Readings)}
    (steady : ∀ c ∈ first :: rest, c.2.Steady)
    (hmoves : ¬ ExactFilter.Rests config (lag none first.2.syncClock) rest.length) :
    ∃ cs, cs <+: first :: rest ∧ ∃ cut,
      ((start m shared config).executes cs).shared.trace.Records cut ∧
        (cut ≠ [] ∨ ¬ ((start m shared config).executes cs).AtRest) := by
  subst hdevice
  obtain ⟨hstart, hlarge, hlong⟩ : (lag none first.2.syncClock).bmod config.period.toNat ≠ 0 ∧
      config.filterWindow.toNat ≤ 2 * (lag none first.2.syncClock).natAbs ∧
      config.filterWindow.toNat ≤ rest.length := by
    simpa [ExactFilter.Rests] using hmoves
  have hw := CycleConfig.window_of_validate valid
  -- the cycle that ends the first window, and those between it and the first one
  obtain ⟨before, c, after, rfl, hbefore⟩ : ∃ before c after, rest = before ++ c :: after ∧
      before.length + 1 = config.filterWindow.toNat := by
    have hlt : config.filterWindow.toNat - 1 < rest.length := by omega
    refine ⟨rest.take (config.filterWindow.toNat - 1), rest[config.filterWindow.toNat - 1],
      rest.drop (config.filterWindow.toNat - 1 + 1), ?_, ?_⟩
    · rw [← List.drop_eq_getElem_cons hlt, List.take_append_drop]
    · rw [List.length_take]
      omega
  obtain ⟨time, hrested⟩ := rested_executes valid mode perfect recording first before
    (fun c' hc => steady c' (by rw [← List.cons_append]; exact List.mem_append_left _ hc))
    (.inr (.inr (.inr (by omega))))
  have hsteady : c.2.Steady := steady c (by simp)
  obtain ⟨cut, hcut, hmoved⟩ := hrested.moves hsteady valid hstart hlarge hbefore c.1
  refine ⟨(first :: before) ++ [c], ⟨after, by simp⟩, cut, ?_, ?_⟩
  · rw [executes_append]
    exact hcut
  · rw [executes_append]
    exact hmoved

variable (config) in
/-- **When a perfect reference leaves the clock at rest.** The first cycle reads the hardware clock
against an application time of zero. Over any cycles with steady clocks the time base and the
adjustment stay zero, and no cut adjustment is reported, if no reference is selected, if that
difference is a multiple of the period, if it is less than half a nanosecond for each sample of a
window, or if no more cycles run than a window has; and only then. -/
theorem atRest_iff (first : UInt64 × Readings) (rest : List (UInt64 × Readings))
    (steady : ∀ c ∈ first :: rest, c.2.Steady) :
    let x := start m shared config
    let d := (-(first.2.syncClock.toNat : Int)).bmod 4294967296
    ((∀ cs, cs <+: first :: rest → (x.executes cs).AtRest) ∧
      ∀ e ∈ (x.executes (first :: rest)).shared.trace.sink.cycleEvents.toList,
        e.isSaturation = false) ↔
      device = none ∨ d.bmod config.period.toNat = 0 ∨
        2 * d.natAbs < config.filterWindow.toNat ∨ rest.length < config.filterWindow.toNat := by
  intro x d
  have hrest : (d.bmod config.period.toNat = 0 ∨ 2 * d.natAbs < config.filterWindow.toNat ∨
      rest.length < config.filterWindow.toNat) ↔ ExactFilter.Rests config d rest.length := Iff.rfl
  rw [hrest]
  constructor
  · rintro ⟨hquiet, hsilent⟩
    cases hdevice : device with
    | none => exact .inl rfl
    | some selected =>
      right
      by_contra hmoves
      obtain ⟨cs, hcs, cut, hcut, hmoved⟩ :=
        not_atRest_executes valid mode perfect recording hdevice steady hmoves
      rcases hmoved with hmoved | hmoved
      · -- the event that was recorded there is still there at the end
        obtain ⟨later, hlater⟩ := hcs
        obtain ⟨more, hmore⟩ := records_executes hcut later
        rw [← executes_append, hlater] at hmore
        have hnone := List.filter_eq_nil_iff.2 fun e he => Bool.eq_false_iff.1 (hsilent e he)
        rw [hmore.saturations] at hnone
        exact hmoved (List.append_eq_nil_iff.1 hnone).1
      · exact hmoved (hquiet cs hcs)
  · intro h
    obtain ⟨time, hrested⟩ := rested_executes valid mode perfect recording first rest steady h
    refine ⟨fun cs hcs => ?_, fun e he => ?_⟩
    · rcases cs with _ | ⟨c, cs⟩
      · exact ⟨rfl, rfl⟩
      · obtain ⟨rfl, hprefix⟩ := List.cons_prefix_cons.1 hcs
        obtain ⟨_, hearlier⟩ := rested_executes valid mode perfect recording c cs
          (fun c' hc => steady c' (hcs.subset hc)) (h.imp_right fun h => h.of_le hprefix.length_le)
        exact hearlier.atRest (Rested.adjustment_filterAfter _ _)
    · have hnone := List.filter_eq_nil_iff.1 hrested.trace.saturations e he
      exact Bool.eq_false_iff.2 hnone

end Runs

/-- Cycles after a first one at the first nanosecond. -/
def soon : List (UInt64 × Readings) :=
  [(1, .still 1000001), (2, .still 2000001), (3, .still 3000001), (4, .still 4000001)]

/-- A difference of one nanosecond passes through a window of three samples. -/
theorem atRest_iff_of_soon :
    let config := { CycleConfig.unprivileged 1000000 with filterWindow := 3 }
    let x := start (SimulatedMaster.freshPerfect .pair 8 0) (.ofTopology .pair (.ofSink .newRecording)) config
    config.validate = .ok () ∧ config.syncMode = .masterFollowsReference ∧
      (∀ c ∈ (0, .still 1) :: soon, c.2.Steady) ∧
      (∀ cs, cs <+: (0, .still 1) :: soon → (x.executes cs).AtRest) ∧
      (x.executes ((0, .still 1) :: soon)).clock.state.started = true := by
  intro config x
  have hsteady : ∀ c ∈ (0, Readings.still 1) :: soon, c.2.Steady := by
    unfold Readings.Steady
    decide
  have hdevice : (0 : UInt64).toNat < Topology.pair.size := by decide
  have hrecording : (Shared.ofTopology .pair (.ofSink .newRecording)).trace =
      .ofSink .newRecording := rfl
  obtain ⟨hquiet, -⟩ := (atRest_iff config rfl rfl
    (SimulatedMaster.referenceClock_freshPerfect hdevice 8) hrecording (0, .still 1) soon
    hsteady).2 (.inr (.inr (.inl (by decide))))
  exact ⟨rfl, rfl, hsteady, hquiet, by decide +kernel⟩

/-- A perfect reference does not always leave the clock at rest: the first difference, of a thousand
nanoseconds, becomes the adjustment. -/
theorem not_always_atRest : ¬ ∀ (config : CycleConfig) (t : Topology) (size : Nat)
    (device : UInt64) (cs : List (UInt64 × Readings)), config.validate = .ok () →
    config.syncMode = .masterFollowsReference → device.toNat < t.size →
    (∀ c ∈ cs, c.2.Steady) → (cs.map fun c => c.2.syncClock).Pairwise (· ≤ ·) →
    ((start (SimulatedMaster.freshPerfect t size device) (.ofTopology t (.ofSink .newRecording)) config).executes
      cs).AtRest := by
  intro h
  have hquiet := h { CycleConfig.unprivileged 1000000 with filterWindow := 1 } .pair 8 0
    [(0, .still 1000), (1, .still 1001000)] rfl rfl (by decide)
    (by unfold Readings.Steady; decide) (by decide)
  have hadjustment := hquiet.2
  revert hadjustment
  decide +kernel

end Exchange

end CyclicBus
