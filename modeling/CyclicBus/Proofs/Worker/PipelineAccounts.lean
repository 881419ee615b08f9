import CyclicBus.Proofs.Exchange.Tally
import CyclicBus.Proofs.Worker.Accounts
import CyclicBus.Proofs.Worker.Stopping

/-!
# The accounts of a worker on a pipeline

A pipeline counts its cycles and overruns too. `balanced_of_calm`: after a run without panics and
failed sleeps the counts of the worker, of its statistics with all their windows, of its completed
cycles and of the pipeline agree with each other and with the calls that were made.
-/

namespace CyclicBus

/-! ## Counting calls -/

section Calls

variable {C R : Type}

/-- What counts the calls of each lap counts those of all of them. -/
theorem countP_calls {p : Happening C R → Bool} {q : Lap R → Bool}
    (h : ∀ l : Lap R, (l.calls.map Happening.call).countP p = if q l then 1 else 0)
    (laps : List (Lap R)) :
    ((laps.flatMap Lap.calls).map Happening.call).countP p = laps.countP q := by
  induction laps with
  | nil => rfl
  | cons l laps ih =>
    rw [List.flatMap_cons, List.map_append, List.countP_append, ih, h, List.countP_cons,
      Nat.add_comm]

theorem countP_cycle_calls (laps : List (Lap R)) :
    ((laps.flatMap Lap.calls).map Happening.call).countP (Happening.isCycle (C := C)) =
      laps.length := by
  rw [countP_calls (q := fun _ => true) fun l => ?_, List.countP_true]
  unfold Lap.calls BodyCall.settling
  cases l.overrun <;> cases l.drained <;> rfl

theorem countP_overrun_calls (laps : List (Lap R)) :
    ((laps.flatMap Lap.calls).map Happening.call).countP (Happening.isOverrun (C := C)) =
      laps.countP (·.overrun.isSome) := by
  refine countP_calls (fun l => ?_) laps
  unfold Lap.calls BodyCall.settling
  cases l.overrun <;> cases l.drained <;> rfl

/-- What counts calls only need not look at the rest. -/
theorem countP_call? {p : Happening C R → Bool} (h : ∀ change, p (.outside change) = false)
    (hs : List (Happening C R)) :
    ((hs.filterMap Happening.call?).map Happening.call).countP p = hs.countP p := by
  induction hs with
  | nil => rfl
  | cons event hs ih =>
    cases event with
    | call c =>
      show (Happening.call c :: (hs.filterMap Happening.call?).map Happening.call).countP p = _
      rw [List.countP_cons, List.countP_cons, ih]
    | outside change =>
      show ((hs.filterMap Happening.call?).map Happening.call).countP p = _
      rw [ih, List.countP_cons_of_neg (by simp [h])]

variable {hs : List (Happening C R)} {laps : List (Lap R)}

/-- Where the calls are those of some laps, each lap has one cycle. -/
theorem countP_isCycle (h : hs.filterMap Happening.call? = laps.flatMap Lap.calls) :
    hs.countP Happening.isCycle = laps.length := by
  rw [← countP_call? fun _ => rfl, h, countP_cycle_calls]

theorem countP_isOverrun (h : hs.filterMap Happening.call? = laps.flatMap Lap.calls) :
    hs.countP Happening.isOverrun = laps.countP (·.overrun.isSome) := by
  rw [← countP_call? fun _ => rfl, h, countP_overrun_calls]

end Calls

namespace Exchange

variable {M : Type} [MasterSession M]

theorem countP_told_overrun (x : Exchange M) (hs : List (PipelineHappening M)) :
    (x.told hs).countP (·.subject = .overrun) = hs.countP Happening.isOverrun := by
  induction hs generalizing x with
  | nil => rfl
  | cons h hs ih =>
    rw [told, List.countP_append, ih, List.countP_cons, Nat.add_comm]
    congr 1
    cases h with
    | call c =>
      cases c with
      | cycle context r => exact Notebook.countP_events _ _ _ .overrun
      | overrun context exec => rfl
      | window context w => rfl
    | outside i => rfl

/-- A pipeline counts the cycles that it runs and the overruns that it is told of. -/
theorem counters_happenings_eq (x : Exchange M) (hs : List (PipelineHappening M)) :
    (x.happenings hs).shared.counters.cycles =
        x.shared.counters.cycles + .ofNat (hs.countP Happening.isCycle) ∧
      (x.happenings hs).shared.counters.overruns =
        x.shared.counters.overruns + .ofNat (hs.countP Happening.isOverrun) := by
  have hcounters : (x.happenings hs).shared.counters =
      x.shared.counters.plus (x.sights hs) (x.told hs) := x.counters_happenings hs
  rw [hcounters, RunCounters.plus, length_sights, countP_told_overrun]
  exact ⟨rfl, rfl⟩

end Exchange

/-! ## The laps of a run -/

namespace Worker

section Laps

variable {B R : Type} {config : Config} {origin : UInt64} {laps : List (Lap R)}
  {calls : List (BodyCall R)} {w : Worker B}

/-- An ended worker owes no call. -/
theorem Going.calls_eq (h : Going config origin laps calls w) {reason : ExitReason}
    (hp : w.phase = .ended reason) : calls = laps.flatMap Lap.calls := by
  have hstands := h.stands
  rw [hp] at hstands
  exact hstands.2

/-- The laps are numbered from zero, as long as the numbers fit. -/
theorem Going.number_eq (h : Going config origin laps calls w) (room : laps.length < UInt64.size)
    (k : Nat) (l : Lap R) (hl : laps[k]? = some l) : l.context.cycle.toNat = k := by
  obtain ⟨actual, hcontext⟩ := h.contexts k l hl
  have hk := (List.getElem?_eq_some_iff.1 hl).1
  rw [hcontext]
  show (gridAt _ _ k).index.toNat = k
  rw [index_gridAt]
  omega

/-- Without windows no lap drains one. -/
theorem Accounted.drained_eq_none {s : Statistics} {fill : Fill} (h : Accounted 0 laps s fill) :
    ∀ l ∈ laps, l.drained = none := by
  intro l hl
  obtain ⟨k, hk⟩ := List.mem_iff_getElem?.1 hl
  have hiff := (h.drains k l hk).iff_dvd
  rw [Nat.zero_dvd] at hiff
  exact Option.not_isSome_iff_eq_none.1 fun hsome => Nat.succ_ne_zero k (hiff.1 hsome)

end Laps

/-! ## The balance -/

variable {M : Type} [MasterSession M]

/-- After `hs`, which began with the pipeline `x`, a worker with windows of `W` cycles has gone round
`laps`, and all accounts agree with them. -/
structure Balanced (W : Nat) (x : Exchange M) (hs : List (PipelineHappening M))
    (laps : List (Lap Readings)) (completed : UInt64) (exit : Exit (Exchange M)) : Prop where
  body : exit.body = x.happenings hs
  /-- The calls that were made are those of the laps: each has one cycle. -/
  calls : hs.filterMap Happening.call? = laps.flatMap Lap.calls
  numbers : ∀ (k : Nat) (l : Lap Readings), laps[k]? = some l → l.context.cycle.toNat = k
  cycle_calls : laps.length = hs.countP Happening.isCycle
  cycles : exit.statistics.cycles.toNat = hs.countP Happening.isCycle
  completed : completed.toNat = hs.countP Happening.isCycle
  counted_cycles : exit.body.shared.counters.cycles =
    x.shared.counters.cycles + .ofNat (hs.countP Happening.isCycle)
  overruns : exit.statistics.overruns.toNat = hs.countP Happening.isOverrun
  counted_overruns : exit.body.shared.counters.overruns =
    x.shared.counters.overruns + exit.statistics.overruns
  /-- A pipeline that starts to count with the run counts what the worker counts. -/
  fresh : x.shared.counters = .zero →
    exit.body.shared.counters.cycles.toNat = hs.countP Happening.isCycle ∧
      exit.body.shared.counters.overruns = exit.statistics.overruns
  /-- A lap drains a window if its number plus one is a multiple of `W`, and then the window holds
  `W` cycles. -/
  drains : ∀ (k : Nat) (l : Lap Readings), laps[k]? = some l → l.Drains W k
  never : W = 0 → ∀ l ∈ laps, l.drained = none
  undrained : exit.statistics.window.exec.samples.toNat = hs.countP Happening.isCycle % W
  /-- Each overrun is in one window. -/
  shared : ((laps.filterMap (·.drained)).map (·.overruns.toNat)).sum +
    exit.statistics.window.overruns.toNat = exit.statistics.overruns.toNat

omit [MasterSession M] in
/-- A worker gives back what it owns once it has ended. -/
theorem eq_of_join? {w : Worker (Exchange M)} {exit : Exit (Exchange M)} (h : w.join? = .ok exit) :
    w.phase = .ended exit.reason ∧ exit.body = w.body ∧ exit.statistics = w.statistics := by
  unfold join? at h
  cases hp : w.phase with
  | ended reason =>
    rw [hp] at h
    cases h
    exact ⟨rfl, rfl, rfl⟩
  | _ =>
    rw [hp] at h
    cases h

/-- **All accounts agree** after a worker run without panics and failed sleeps, whatever the clock
reads and however long the cycles take. -/
theorem balanced_of_calm (config : Config) (x : Exchange M)
    (ms : List (Move (Intervention M) Readings)) (calm : ∀ m ∈ ms, m.Calm)
    (exit : Exit (Exchange M))
    (joined : ((ready config x).moves Exchange.intervene ms).join? = .ok exit)
    (short : ((ready config x).history Exchange.intervene ms).countP Happening.isCycle <
      UInt64.size) :
    ∃ laps, Balanced config.windowCycles.toNat x ((ready config x).history Exchange.intervene ms)
      laps ((ready config x).moves Exchange.intervene ms).completed exit := by
  let w := (ready config x).moves Exchange.intervene ms
  let hs := (ready config x).history Exchange.intervene ms
  obtain ⟨origin, laps, hgoing⟩ := (Going.ready config 0 x).moves Exchange.intervene calm
  rw [List.nil_append, List.nil_append] at hgoing
  obtain ⟨hended, hexit, hstatistics⟩ := eq_of_join? joined
  have hbody : exit.body = x.happenings hs :=
    hexit.trans (body_moves Exchange.intervene (ready config x) ms)
  have hcalls : hs.filterMap Happening.call? = laps.flatMap Lap.calls := hgoing.calls_eq hended
  have hcycles : hs.countP Happening.isCycle = laps.length := countP_isCycle hcalls
  have hoverruns : hs.countP Happening.isOverrun = laps.countP (·.overrun.isSome) :=
    countP_isOverrun hcalls
  have hroom : laps.length < UInt64.size := hcycles ▸ short
  have haccounts := hgoing.accounted hroom
  obtain ⟨hcounted, hlate⟩ := x.counters_happenings_eq hs
  rw [← hbody] at hcounted hlate
  rw [hoverruns, ← haccounts.overruns, UInt64.ofNat_toNat, ← hstatistics] at hlate
  refine ⟨laps,
    { body := hbody
      calls := hcalls
      numbers := hgoing.number_eq hroom
      cycle_calls := hcycles.symm
      cycles := ?_
      completed := ?_
      counted_cycles := hcounted
      overruns := ?_
      counted_overruns := hlate
      fresh := fun hfresh => ?_
      drains := haccounts.drains
      never := fun hW => (hW ▸ haccounts).drained_eq_none
      undrained := ?_
      shared := ?_ }⟩
  · rw [hstatistics, haccounts.cycles, hcycles]
  · rw [hgoing.completed, hcycles, UInt64.toNat_ofNat_of_lt' hroom]
  · rw [hstatistics, haccounts.overruns, hoverruns]
  · rw [hcounted, hlate, hfresh]
    show (0 + UInt64.ofNat _).toNat = _ ∧ 0 + _ = _
    rw [UInt64.zero_add, UInt64.zero_add, UInt64.toNat_ofNat_of_lt' short]
    exact ⟨rfl, rfl⟩
  · rw [hstatistics, haccounts.holds.exec, hcycles]
  · rw [hstatistics]
    exact haccounts.shared

/-- A step at a clock reading at which nothing fails. -/
def stepAt (now : UInt64) : Move (Intervention ScriptedMaster) Readings :=
  .step ⟨now, true, false, .still now⟩

/-- Three laps, of which the second one is too long, and then a request to stop. -/
def threeLaps : List (Move (Intervention ScriptedMaster) Readings) :=
  [stepAt 0, stepAt 0,
    stepAt 0, stepAt 0, stepAt 1000, stepAt 1010, stepAt 1100,
    stepAt 1100, stepAt 1100, stepAt 2000, stepAt 2010, stepAt 3500,
    stepAt 3500, stepAt 3500, stepAt 3500, stepAt 3510, stepAt 3600,
    .stop, stepAt 3600]

/-- The accounts of three laps in windows of two cycles. -/
theorem balanced_of_calm_of_threeLaps :
    let x := Exchange.start (ScriptedMaster.ofDomainSize 8)
      (.ofTopology .pair (.ofSink .newRecording)) (.unprivileged 1000)
    let config := { Config.ofPeriod 1000 with windowCycles := 2 }
    let w := (ready config x).moves Exchange.intervene threeLaps
    let hs := (ready config x).history Exchange.intervene threeLaps
    (∃ reason laps,
        Balanced config.windowCycles.toNat x hs laps w.completed ⟨w.body, w.statistics, reason⟩) ∧
      hs.countP Happening.isCycle = 3 ∧ hs.countP Happening.isOverrun = 1 ∧
      w.statistics.cycles = 3 ∧ w.statistics.overruns = 1 ∧ w.completed = 3 ∧
      w.body.shared.counters = ⟨3, 0, 1, 0, 0, 0, 1⟩ := by
  intro x config w hs
  have calm : ∀ m ∈ threeLaps, m.Calm := by decide
  have whole : w.hasPanicked = false := by decide +kernel
  have ended : w.finished = true := by decide +kernel
  have short : hs.countP Happening.isCycle < UInt64.size := by decide +kernel
  obtain ⟨-, reason, hjoin⟩ | ⟨hpanicked, -⟩ := join?_of_finished ended
  · obtain ⟨laps, hbalanced⟩ := balanced_of_calm config x threeLaps calm _ hjoin short
    exact ⟨⟨reason, laps, hbalanced⟩, by decide +kernel, by decide +kernel, by decide +kernel,
      by decide +kernel, by decide +kernel, by decide +kernel⟩
  · rw [whole] at hpanicked
    cases hpanicked

end Worker

end CyclicBus
