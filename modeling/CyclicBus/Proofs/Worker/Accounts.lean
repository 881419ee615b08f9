import Mathlib.Algebra.GroupWithZero.Nat
import CyclicBus.Proofs.Worker.Laps

/-!
# The accounts of a worker

A worker keeps the number of its cycles in several places: in its statistics and in their window, in
the fill of that window, and in the count that other threads see. `Accounted` says what each of them
holds after a number of laps, and what the windows held that were drained; `Accounted.settle` keeps it
over one more lap.
-/

namespace CyclicBus

/-- What holds of every member of a list in its place, and of one more behind it. -/
theorem forall_getElem?_concat {α : Type} {P : Nat → α → Prop} {l : List α} {a : α}
    (h : ∀ k b, l[k]? = some b → P k b) (ha : P l.length a) :
    ∀ k b, (l ++ [a])[k]? = some b → P k b := by
  intro k b hb
  rcases Nat.lt_trichotomy k l.length with hk | rfl | hk
  · rw [List.getElem?_append_left hk] at hb
    exact h k b hb
  · rw [List.getElem?_concat_length] at hb
    cases hb
    exact ha
  · rw [List.getElem?_eq_none (by rw [List.length_append, List.length_singleton]; omega)] at hb
    cases hb

/-! ## Windows of a fixed length -/

/-- A window of `W` cycles that has seen `n % W` of them ends with the next cycle or goes on. -/
theorem window_turn (W n : Nat) :
    W ∣ n + 1 ∧ n % W + 1 = W ∧ (n + 1) % W = 0 ∨
      ¬ W ∣ n + 1 ∧ (W ≠ 0 → n % W + 1 < W) ∧ (n + 1) % W = n % W + 1 := by
  rcases Nat.eq_zero_or_pos W with rfl | hW
  · -- a window of no cycles never ends
    refine .inr ⟨fun h => ?_, fun h => absurd rfl h, ?_⟩
    · have := Nat.eq_zero_of_zero_dvd h
      omega
    · rw [Nat.mod_zero, Nat.mod_zero]
  · have hlt := Nat.mod_lt n hW
    have hmod : (n + 1) % W = (n % W + 1) % W := (Nat.mod_add_mod ..).symm
    by_cases hend : n % W + 1 = W
    · rw [hend, Nat.mod_self] at hmod
      exact .inl ⟨Nat.dvd_of_mod_eq_zero hmod, hend, hmod⟩
    · have hgoes : (n % W + 1) % W = n % W + 1 := Nat.mod_eq_of_lt (by omega)
      refine .inr ⟨fun h => ?_, fun _ => by omega, hmod.trans hgoes⟩
      rw [Nat.dvd_iff_mod_eq_zero, hmod, hgoes] at h
      omega

/-- The periods in the open window after `n` cycles. The first cycle of a run ends no period. -/
def openPeriods (W n : Nat) : Nat := if W = 0 ∨ n < W then n - 1 else n % W

theorem openPeriods_le (W n : Nat) : openPeriods W n ≤ n := by
  unfold openPeriods
  split
  · omega
  · exact Nat.mod_le n W

/-- Where a window ends with a cycle, it has all its periods, or all but one if it is the first. -/
theorem openPeriods_of_end {W n : Nat} (hend : n % W + 1 = W) :
    openPeriods W n + (if n = 0 then 0 else 1) = if n + 1 = W then W - 1 else W := by
  unfold openPeriods
  by_cases hfirst : n < W
  · rw [Nat.mod_eq_of_lt hfirst] at hend
    rw [if_pos (.inr hfirst), if_pos hend]
    split <;> omega
  · rw [if_neg (by omega), if_neg (by omega), if_neg (by omega)]
    exact hend

/-- A window that goes on has one more period, unless this was the first cycle. -/
theorem openPeriods_succ {W n : Nat} (hgoes : W ≠ 0 → n % W + 1 < W)
    (hnext : (n + 1) % W = n % W + 1) :
    openPeriods W (n + 1) = openPeriods W n + (if n = 0 then 0 else 1) := by
  unfold openPeriods
  by_cases hfirst : W = 0 ∨ n + 1 < W
  · rw [if_pos hfirst, if_pos (by omega)]
    split <;> omega
  · have hlater : ¬ (W = 0 ∨ n < W) := by
      rintro (hW | hlt)
      · exact hfirst (.inl hW)
      · rw [Nat.mod_eq_of_lt hlt] at hgoes
        omega
    rw [if_neg hfirst, if_neg hlater, if_neg (by omega), hnext]

theorem openPeriods_of_dvd {W n : Nat} (hdvd : W ∣ n + 1) : openPeriods W (n + 1) = 0 := by
  have hle := Nat.le_of_dvd (Nat.succ_pos n) hdvd
  have hpos := Nat.pos_of_dvd_of_pos hdvd (Nat.succ_pos n)
  unfold openPeriods
  rw [if_neg (by omega)]
  exact Nat.mod_eq_zero_of_dvd hdvd

/-- A window has taken in a number of cycles, and of the periods between them. -/
structure Statistics.Window.Holds (cycles periods : Nat) (v : Statistics.Window) : Prop where
  exec : v.exec.samples.toNat = cycles
  latency : v.latency.samples.toNat = cycles
  period : v.period.samples.toNat = periods

/-- Lap `k` drains a window of `W` cycles if it is the last one in it. The first window of a run has
one period less than cycles. -/
structure Lap.Drains {R : Type} (W k : Nat) (l : Lap R) : Prop where
  iff_dvd : l.drained.isSome ↔ W ∣ k + 1
  holds : ∀ v ∈ l.drained, v.Holds W (if k + 1 = W then W - 1 else W)

/-! ## Accounts -/

namespace Worker

variable {B R : Type}

/-- What statistics and fill hold after some laps, for windows of `W` cycles. -/
structure Accounted (W : Nat) (laps : List (Lap R)) (s : Statistics) (fill : Fill) : Prop where
  length : fill.length.toNat = W
  filled : W ≠ 0 → fill.filled.toNat = laps.length % W
  cycles : s.cycles.toNat = laps.length
  overruns : s.overruns.toNat = laps.countP (·.overrun.isSome)
  woken : s.lastWakeup.isSome ↔ laps.length ≠ 0
  holds : s.window.Holds (laps.length % W) (openPeriods W laps.length)
  /-- Each overrun is in one window. -/
  shared : ((laps.filterMap (·.drained)).map (·.overruns.toNat)).sum + s.window.overruns.toNat =
    s.overruns.toNat
  drains : ∀ (k : Nat) (l : Lap R), laps[k]? = some l → l.Drains W k

namespace Accounted

variable {W : Nat} {laps : List (Lap R)} {s : Statistics} {fill : Fill}

theorem fresh (period : UInt64) (capacity : Nat) (length : UInt64) :
    Accounted length.toNat ([] : List (Lap R)) (.fresh period capacity) ⟨length, 0⟩ where
  length := rfl
  filled _ := (Nat.zero_mod _).symm
  cycles := rfl
  overruns := rfl
  woken := ⟨nofun, fun h => absurd rfl h⟩
  holds := by
    refine ⟨(Nat.zero_mod _).symm, (Nat.zero_mod _).symm, ?_⟩
    exact (Nat.le_zero.1 (openPeriods_le _ 0)).symm
  shared := rfl
  drains _ _ h := nomatch h

/-- The cycles that close a window. -/
theorem closes_iff (h : Accounted W laps s fill) : fill.closes = true ↔ W ∣ laps.length + 1 := by
  have hW := h.length
  have hlt := fill.length.toNat_lt_size
  have hzero : fill.length ≠ 0 ↔ W ≠ 0 := by
    rw [← hW, ne_eq, ← UInt64.toNat_inj]
    rfl
  unfold Fill.closes
  rw [Bool.and_eq_true, decide_eq_true_iff, decide_eq_true_iff, hzero, UInt64.le_iff_toNat_le,
    UInt64.toNat_satAdd, hW]
  by_cases hnone : W = 0
  · rw [hnone]
    refine ⟨fun hcloses => absurd rfl hcloses.1, fun hdvd => ?_⟩
    have := Nat.eq_zero_of_zero_dvd hdvd
    omega
  · have hmod := Nat.mod_lt laps.length (Nat.pos_of_ne_zero hnone)
    have hone : (1 : UInt64).toNat = 1 := rfl
    rw [h.filled hnone, hone]
    rcases window_turn W laps.length with ⟨hdvd, hend, -⟩ | ⟨hdvd, hgoes, -⟩
    · simp only [hdvd, hnone, ne_eq, not_false_eq_true, true_and, iff_true]
      omega
    · have := hgoes hnone
      simp only [hdvd, hnone, ne_eq, not_false_eq_true, true_and, iff_false]
      omega

theorem length_tick (fill : Fill) : fill.tick.length = fill.length := by
  unfold Fill.tick
  split
  · rfl
  · split <;> rfl

theorem filled_tick (h : Accounted W laps s fill) (hW : W ≠ 0) :
    fill.tick.filled.toNat = (laps.length + 1) % W := by
  have hlength := h.length
  have hlt := fill.length.toNat_lt_size
  have hne : fill.length ≠ 0 := by
    rintro heq
    rw [heq] at hlength
    exact hW hlength.symm
  unfold Fill.tick
  rw [if_neg hne]
  rcases window_turn W laps.length with ⟨hdvd, -, hend⟩ | ⟨hdvd, hgoes, hnext⟩
  · rw [if_pos (h.closes_iff.2 hdvd), hend]
    rfl
  · rw [if_neg fun hcloses => hdvd (h.closes_iff.1 hcloses), hnext]
    show (fill.filled.satAdd 1).toNat = _
    have := hgoes hW
    rw [UInt64.toNat_satAdd, h.filled hW]
    show min (_ + 1) _ = _
    omega

/-! ### One more lap -/

section Settle

variable {w : Worker B} (h : Accounted W laps w.statistics w.fill)
  (room : laps.length + 1 < UInt64.size) (context : CycleContext) (readings : R)
  (started now : UInt64)

omit h room in
theorem mem_drainedOf {v : Statistics.Window} :
    v ∈ w.drainedOf context started now ↔
      w.fill.closes = true ∧ v = (w.recorded context started now).window := by
  unfold drainedOf
  split <;> rename_i hcloses <;> simp [hcloses, eq_comm]

include h room

theorem cycles_recorded : (w.recorded context started now).cycles.toNat = laps.length + 1 := by
  have hcycles := h.cycles
  show (w.statistics.cycles.satAdd 1).toNat = _
  rw [UInt64.toNat_satAdd_one (by omega), hcycles]

/-- An overrun is counted in the run and in its window. -/
theorem overruns_recorded :
    let late := (w.overrunOf started now).isSome.toNat
    (w.recorded context started now).overruns.toNat = w.statistics.overruns.toNat + late ∧
      (w.recorded context started now).window.overruns.toNat =
        w.statistics.window.overruns.toNat + late := by
  have hshared := h.shared
  have hrun : w.statistics.overruns.toNat ≤ laps.length := h.overruns ▸ List.countP_le_length
  have hwindow : w.statistics.window.overruns.toNat ≤ laps.length := by omega
  have hlate {a : UInt64} (ha : a.toNat ≤ laps.length) :
      (if w.statistics.overran (now.satSub started) then a.satAdd 1 else a).toNat =
        a.toNat + (w.overrunOf started now).isSome.toNat := by
    unfold overrunOf
    split
    · exact UInt64.toNat_satAdd_one (by omega)
    · rfl
  exact ⟨hlate hrun, hlate hwindow⟩

/-- The window with the cycle, before it is drained. -/
theorem holds_recorded :
    (w.recorded context started now).window.Holds (laps.length % W + 1)
      (openPeriods W laps.length + if laps.length = 0 then 0 else 1) := by
  obtain ⟨hexec, hlatency, hperiod⟩ := h.holds
  have hmod : laps.length % W ≤ laps.length := Nat.mod_le _ _
  have hopen : openPeriods W laps.length ≤ laps.length := openPeriods_le _ _
  have hone {a : UInt64} {k : Nat} (ha : a.toNat = k) (hk : k ≤ laps.length) :
      (a.satAdd 1).toNat = k + 1 := by
    rw [UInt64.toNat_satAdd_one (by omega), ha]
  refine ⟨hone hexec hmod, hone hlatency hmod, ?_⟩
  have hwoken := h.woken
  show ((w.statistics.lastWakeup.map _).elim _ _ : Statistics.Range).samples.toNat = _
  cases hlast : w.statistics.lastWakeup with
  | none =>
    rw [hlast] at hwoken
    have hfirst : laps.length = 0 := by simpa using hwoken
    rw [if_pos hfirst]
    exact hperiod
  | some last =>
    rw [hlast] at hwoken
    rw [if_neg (hwoken.1 rfl)]
    exact hone hperiod hopen

/-- The lap drains its window where it should, and the window holds what it should. -/
theorem drains_lapOf : (w.lapOf context readings started now).Drains W laps.length := by
  refine ⟨?_, fun v hv => ?_⟩
  · rw [← h.closes_iff]
    show (w.drainedOf context started now).isSome = true ↔ _
    unfold drainedOf
    split <;> simp_all
  · obtain ⟨hcloses, rfl⟩ := (mem_drainedOf context started now).1 hv
    have hholds := h.holds_recorded room context started now
    rcases window_turn W laps.length with ⟨-, hend, -⟩ | ⟨hdvd, -, -⟩
    · rwa [openPeriods_of_end hend, hend] at hholds
    · exact absurd (h.closes_iff.1 hcloses) hdvd

/-- **One more lap** keeps the accounts. -/
theorem settle :
    Accounted W (laps ++ [w.lapOf context readings started now])
      (if w.fill.closes then (w.recorded context started now).drain
        else w.recorded context started now)
      w.fill.tick := by
  let lap := w.lapOf context readings started now
  let s := w.recorded context started now
  have hcycles := h.cycles_recorded room context started now
  have hholds := h.holds_recorded room context started now
  obtain ⟨hoverruns, hwindow⟩ := h.overruns_recorded room context started now
  have hlength : (laps ++ [lap]).length = laps.length + 1 := by
    rw [List.length_append, List.length_singleton]
  have hcount : s.overruns.toNat = (laps ++ [lap]).countP (·.overrun.isSome) := by
    rw [hoverruns, h.overruns, List.countP_append, List.countP_singleton]
    show _ = _ + if (w.overrunOf started now).isSome then 1 else 0
    cases (w.overrunOf started now).isSome <;> rfl
  have hshared : ((laps.filterMap (·.drained)).map (·.overruns.toNat)).sum +
      s.window.overruns.toNat = s.overruns.toNat := by
    rw [hwindow, hoverruns, ← h.shared, Nat.add_assoc]
  have hwoken : s.lastWakeup.isSome ↔ (laps ++ [lap]).length ≠ 0 := by
    rw [hlength]
    exact ⟨fun _ => Nat.succ_ne_zero _, fun _ => rfl⟩
  have hdrains := forall_getElem?_concat h.drains
    (h.drains_lapOf room context readings started now)
  have hlength_tick : w.fill.tick.length.toNat = W := by rw [length_tick, h.length]
  have hfilled (hW : W ≠ 0) : w.fill.tick.filled.toNat = (laps ++ [lap]).length % W := by
    rw [hlength, h.filled_tick hW]
  rw [← hlength] at hcycles
  by_cases hcloses : w.fill.closes = true
  · -- the window is drained, and the next one is empty
    have hdvd := h.closes_iff.1 hcloses
    have hempty : Statistics.Window.empty.Holds ((laps ++ [lap]).length % W)
        (openPeriods W (laps ++ [lap]).length) := by
      rw [hlength, Nat.mod_eq_zero_of_dvd hdvd, openPeriods_of_dvd hdvd]
      exact ⟨rfl, rfl, rfl⟩
    have hdrained : lap.drained = some s.window := if_pos hcloses
    rw [if_pos hcloses]
    refine ⟨hlength_tick, hfilled, hcycles, hcount, hwoken, hempty, ?_, hdrains⟩
    rw [List.filterMap_append, List.map_append, List.sum_append,
      List.filterMap_cons_some hdrained, List.filterMap_nil, List.map_singleton,
      List.sum_singleton]
    exact hshared
  · -- the window goes on
    have hdrained : lap.drained = none := if_neg hcloses
    rcases window_turn W laps.length with ⟨hdvd, -, -⟩ | ⟨-, hgoes, hnext⟩
    · exact absurd (h.closes_iff.2 hdvd) hcloses
    rw [← openPeriods_succ hgoes hnext, ← hnext, ← hlength] at hholds
    rw [if_neg hcloses]
    refine ⟨hlength_tick, hfilled, hcycles, hcount, hwoken, hholds, ?_, hdrains⟩
    rw [List.filterMap_append, List.filterMap_cons_none hdrained, List.filterMap_nil,
      List.append_nil]
    exact hshared

end Settle

end Accounted

/-! ## Going round -/

/-- A worker that has gone round `laps`, on the grid that starts at `origin`. `calls` are the calls of
its body so far. -/
structure Going (config : Config) (origin : UInt64) (laps : List (Lap R)) (calls : List (BodyCall R))
    (w : Worker B) : Prop where
  config_eq : w.config = config
  stands : w.phase.Stands origin config.period laps calls w.grid
  contexts : ∀ (k : Nat) (l : Lap R), laps[k]? = some l → IsContext origin config.period k l.context
  completed : w.completed = .ofNat laps.length
  accounted : laps.length < UInt64.size →
    Accounted config.windowCycles.toNat laps w.statistics w.fill

namespace Going

variable {config : Config} {origin : UInt64} {laps : List (Lap R)} {calls : List (BodyCall R)}
  {w : Worker B}

theorem ready (config : Config) (origin : UInt64) (body : B) :
    Going config origin ([] : List (Lap R)) [] (Worker.ready config body) where
  config_eq := rfl
  stands := ⟨rfl, rfl⟩
  contexts _ _ hl := nomatch hl
  completed := rfl
  accounted _ := .fresh _ _ _

/-- The phase and the grid may change as the loop changes them. -/
theorem onward (h : Going config origin laps calls w) {w' : Worker B} {origin' : UInt64}
    {calls' : List (BodyCall R)} (hconfig : w'.config = w.config)
    (hstands : w'.phase.Stands origin' config.period laps calls' w'.grid)
    (hcontexts : origin' = origin ∨ laps = []) (hcompleted : w'.completed = w.completed)
    (hstatistics : w'.statistics = w.statistics) (hfill : w'.fill = w.fill) :
    Going config origin' laps calls' w' where
  config_eq := hconfig.trans h.config_eq
  stands := hstands
  contexts k l hl := by
    rcases hcontexts with rfl | rfl
    · exact h.contexts k l hl
    · cases hl
  completed := hcompleted.trans h.completed
  accounted room := by
    rw [hstatistics, hfill]
    exact h.accounted room

/-- What makes no call and ends no lap. -/
theorem silent (h : Going config origin laps calls w) :
    ∃ origin' laps', Going config origin' (laps ++ laps') (calls ++ []) w :=
  ⟨origin, [], by rwa [List.append_nil, List.append_nil]⟩

variable [CycleBody B R]

/-- A cycle that is settled ends a lap. -/
theorem settle (h : Going config origin laps calls w) {context : CycleContext} {started : UInt64}
    (hp : w.phase = .settle context started) (now : UInt64) :
    ∃ lap, Going config origin (laps ++ [lap])
      (calls ++ BodyCall.settling context (w.overrunOf started now)
        (w.drainedOf context started now))
      (w.settle context started now) := by
  have hstands := h.stands
  rw [hp] at hstands
  obtain ⟨hgrid, hcontext, readings, hcalls⟩ := hstands
  have hlength (lap : Lap R) : (laps ++ [lap]).length = laps.length + 1 := by
    rw [List.length_append, List.length_singleton]
  refine ⟨w.lapOf context readings started now, ?_⟩
  rw [settle_eq]
  refine
    { config_eq := h.config_eq
      stands := ⟨?_, ?_⟩
      contexts := forall_getElem?_concat h.contexts hcontext
      completed := ?_
      accounted := fun room => ?_ }
  · rw [hlength]
    exact hgrid
  · rw [hcalls, List.flatMap_append, List.append_assoc, List.flatMap_singleton]
    rfl
  · rw [hlength, UInt64.ofNat_add, ← h.completed]
    rfl
  · rw [hlength] at room
    exact (h.accounted (by omega)).settle room context readings started now

/-- A step without panic and failed sleep goes on, and ends a lap where it settles a cycle. -/
theorem step (h : Going config origin laps calls w) {answer : Answer R} (slept : answer.slept = true)
    (calm : answer.panics = false) :
    ∃ origin' laps', Going config origin' (laps ++ laps') (calls ++ w.calls answer)
      (w.step answer) := by
  have hstands := h.stands
  unfold Worker.step Worker.calls
  cases hp : w.phase with
  | settle context started =>
    obtain ⟨lap, hlap⟩ := h.settle hp answer.now
    exact ⟨origin, [lap], hlap⟩
  | anchor =>
    rw [hp] at hstands
    obtain ⟨rfl, rfl⟩ := hstands
    refine ⟨answer.now, [], h.onward rfl ⟨?_, rfl⟩ (.inr rfl) rfl rfl rfl⟩
    exact congrArg (fun c => WakeupGrid.starting answer.now c.period) h.config_eq
  | sleep =>
    rw [hp] at hstands
    obtain ⟨hgrid, hcalls⟩ := hstands
    dsimp only
    rw [if_pos slept]
    refine silent (h.onward rfl ⟨?_, ?_, hcalls⟩ (.inl rfl) rfl rfl rfl)
    · rw [gridAt_succ, ← hgrid]
    · rw [hgrid]
      exact ⟨answer.now, rfl⟩
  | run context =>
    rw [hp] at hstands
    obtain ⟨hgrid, hcontext, hcalls⟩ := hstands
    refine ⟨origin, [], ?_⟩
    rw [List.append_nil]
    dsimp only
    rw [calm]
    refine h.onward rfl ⟨hgrid, hcontext, answer.readings, ?_⟩ (.inl rfl) rfl rfl rfl
    rw [hcalls]
    rfl
  | panicked =>
    rw [hp] at hstands
    exact hstands.elim
  | bound =>
    rw [hp] at hstands
    exact silent (h.onward rfl hstands (.inl rfl) rfl rfl rfl)
  | check =>
    rw [hp] at hstands
    refine silent (h.onward rfl ?_ (.inl rfl) rfl rfl rfl)
    dsimp only
    split <;> exact hstands
  | limit =>
    rw [hp] at hstands
    refine silent (h.onward rfl ?_ (.inl rfl) rfl rfl rfl)
    dsimp only
    split <;> exact hstands
  | ended reason => exact h.silent

theorem move {C : Type} (h : Going config origin laps calls w) (act : C → B → B)
    {m : Move C R} (calm : m.Calm) :
    ∃ origin' laps', Going config origin' (laps ++ laps')
      (calls ++ (w.happened m).filterMap Happening.call?) (w.move act m) := by
  cases m with
  | step answer =>
    have hcalls : (w.happened (C := C) (.step answer)).filterMap Happening.call? =
        w.calls answer := by
      show ((w.calls answer).map Happening.call).filterMap Happening.call? = _
      rw [List.filterMap_map]
      exact List.filterMap_some
    rw [hcalls]
    exact h.step calm.1 calm.2
  | stop => exact silent (h.onward rfl h.stands (.inl rfl) rfl rfl rfl)
  | outside change => exact silent (h.onward rfl h.stands (.inl rfl) rfl rfl rfl)

/-- **A run without panics and failed sleeps goes round and round.** -/
theorem moves {C : Type} (h : Going config origin laps calls w) (act : C → B → B)
    {ms : List (Move C R)} (calm : ∀ m ∈ ms, m.Calm) :
    ∃ origin' laps', Going config origin' (laps ++ laps')
      (calls ++ (w.history act ms).filterMap Happening.call?) (w.moves act ms) := by
  induction ms generalizing origin laps calls w with
  | nil => exact h.silent
  | cons m ms ih =>
    obtain ⟨origin₁, laps₁, h₁⟩ := h.move act (calm m List.mem_cons_self)
    obtain ⟨origin₂, laps₂, h₂⟩ := ih h₁ fun m' hm => calm m' (List.mem_cons_of_mem m hm)
    refine ⟨origin₂, laps₁ ++ laps₂, ?_⟩
    rw [Worker.history, List.filterMap_append, ← List.append_assoc, ← List.append_assoc]
    exact h₂

end Going

end Worker

end CyclicBus
