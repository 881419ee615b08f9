import CyclicBus.Proofs.Worker.Cycles

/-!
# Wakeups on one grid

The wakeups of a worker lie one period apart, counted from the clock reading at which its loop was
anchored: `toNat_next_gridAt` gives each of them as a plain number. `begun_onGrid`: the cycles of a
run begin in the contexts of these wakeups, one after the other, whatever the clock reads in between
and however long the cycles take.
-/

namespace CyclicBus

/-- The context of cycle `k` on the grid with this origin and this period; a zero period counts as
one. -/
structure CycleContext.OnGrid (origin period : UInt64) (k : Nat) (c : CycleContext) : Prop where
  cycle : c.cycle.toNat = min k (UInt64.size - 1)
  wakeup : c.wakeup.toNat = min (origin.toNat + (k + 1) * max period.toNat 1) (UInt64.size - 1)
  latency : (c.latency.toNat : Int) = max ((c.actual.toNat : Int) - c.wakeup.toNat) 0
  period : c.period.toNat = max period.toNat 1

namespace Worker

variable {B C R : Type}

/-! ## The grid in plain numbers -/

theorem toNat_period_gridAt (origin period : UInt64) (k : Nat) :
    (gridAt origin period k).period.toNat = max period.toNat 1 := by
  induction k with
  | zero =>
    have hone : (1 : UInt64).toNat = 1 := rfl
    show (if period ≤ 1 then 1 else period).toNat = _
    split
    next h =>
      rw [UInt64.le_iff_toNat_le] at h
      omega
    next h =>
      rw [UInt64.le_iff_toNat_le] at h
      omega
  | succ k ih => rw [gridAt_succ, WakeupGrid.period_advance, ih]

/-- The wakeups are equally far apart, up to the largest word. -/
theorem toNat_next_gridAt (origin period : UInt64) (k : Nat) :
    (gridAt origin period k).next.toNat =
      min (origin.toNat + (k + 1) * max period.toNat 1) (UInt64.size - 1) := by
  induction k with
  | zero =>
    have hperiod := toNat_period_gridAt origin period 0
    show (origin.satAdd (gridAt origin period 0).period).toNat = _
    rw [UInt64.toNat_satAdd, hperiod, Nat.zero_add, Nat.one_mul]
  | succ k ih =>
    rw [gridAt_succ, WakeupGrid.next_advance, UInt64.toNat_satAdd, ih, toNat_period_gridAt,
      Nat.succ_mul (k + 1)]
    omega

theorem IsContext.onGrid {origin period : UInt64} {k : Nat} {c : CycleContext}
    (h : IsContext origin period k c) : c.OnGrid origin period k := by
  obtain ⟨actual, rfl⟩ := h
  have hlatency : ((gridAt origin period k).context actual).latency.toNat =
      actual.toNat - (gridAt origin period k).next.toNat := UInt64.toNat_satSub _ _
  exact
    { cycle := index_gridAt origin period k
      wakeup := toNat_next_gridAt origin period k
      latency := by
        rw [hlatency]
        show _ = max ((actual.toNat : Int) - (gridAt origin period k).next.toNat) 0
        omega
      period := toNat_period_gridAt origin period k }

/-! ## Ticking -/

variable [CycleBody B R] (act : C → B → B)

/-- Where the grid of an anchored worker stands after `n` cycles have begun. -/
def Phase.Ticks (origin period : UInt64) (n : Nat) (grid : WakeupGrid) : Phase → Prop
  | .anchor => False
  | .run context => grid = gridAt origin period (n + 1) ∧ IsContext origin period n context
  | .panicked => True
  | _ => grid = gridAt origin period n

/-- An anchored worker, of which `n` cycles have begun. -/
structure Ticking (origin period : UInt64) (n : Nat) (w : Worker B) : Prop where
  period_eq : w.config.period = period
  ticks : w.phase.Ticks origin period n w.grid

namespace Ticking

variable {origin period : UInt64} {n : Nat} {w : Worker B}

theorem anchor (hp : w.phase = .anchor) (answer : Answer R) :
    Ticking answer.now w.config.period 0 (w.step answer) := by
  unfold step
  rw [hp]
  exact ⟨rfl, rfl⟩

omit [CycleBody B R] in
theorem isContext (h : Ticking origin period n w) (m : Move C R) {c : CycleContext}
    (hc : c ∈ w.begins m) : IsContext origin period n c := by
  have hticks := h.ticks
  unfold Worker.begins at hc
  split at hc
  · split at hc
    next context hp =>
      rw [List.mem_singleton] at hc
      rw [hp] at hticks
      exact hc ▸ hticks.2
    next => cases hc
  · cases hc

/-- Every step without a failed sleep consumes a wakeup exactly if the cycle of it begins next. -/
theorem step (h : Ticking origin period n w) {answer : Answer R} (slept : answer.slept = true) :
    Ticking origin period (n + (w.begins (C := C) (.step answer)).length) (w.step answer) := by
  obtain ⟨hperiod, hticks⟩ := h
  unfold Worker.step Worker.begins
  cases hp : w.phase with
  | anchor =>
    rw [hp] at hticks
    exact hticks.elim
  | bound =>
    rw [hp] at hticks
    exact ⟨hperiod, hticks⟩
  | check =>
    rw [hp] at hticks
    refine ⟨hperiod, ?_⟩
    dsimp only
    split <;> exact hticks
  | limit =>
    rw [hp] at hticks
    refine ⟨hperiod, ?_⟩
    dsimp only
    split <;> exact hticks
  | sleep =>
    rw [hp] at hticks
    have hgrid : w.grid = gridAt origin period n := hticks
    dsimp only
    rw [if_pos slept]
    refine ⟨hperiod, ?_, answer.now, ?_⟩
    · rw [List.length_nil, Nat.add_zero, gridAt_succ, hgrid]
    · rw [hgrid]
      rfl
  | run context =>
    rw [hp] at hticks
    dsimp only
    split
    · exact ⟨hperiod, trivial⟩
    · exact ⟨hperiod, hticks.1⟩
  | settle context started =>
    rw [hp] at hticks
    dsimp only
    rw [settle_eq]
    exact ⟨hperiod, hticks⟩
  | ended reason => exact ⟨hperiod, hticks⟩
  | panicked => exact ⟨hperiod, hticks⟩

theorem move (h : Ticking origin period n w) {m : Move C R} (rested : m.Rested) :
    Ticking origin period (n + (w.begins m).length) (w.move act m) := by
  cases m with
  | step answer => exact h.step rested
  | stop => exact ⟨h.period_eq, h.ticks⟩
  | outside change => exact ⟨h.period_eq, h.ticks⟩

/-- The cycles of a run begin in the contexts of the wakeups in turn. -/
theorem begun (h : Ticking origin period n w) {ms : List (Move C R)}
    (rested : ∀ m ∈ ms, m.Rested) (k : Nat) (c : CycleContext)
    (hc : (w.begun act ms)[k]? = some c) : IsContext origin period (n + k) c := by
  induction ms generalizing n w k with
  | nil => cases hc
  | cons m ms ih =>
    have hle := length_begins_le w m
    rw [Worker.begun] at hc
    by_cases hk : k < (w.begins m).length
    · rw [List.getElem?_append_left hk] at hc
      have hzero : k = 0 := by omega
      subst hzero
      exact h.isContext m (List.mem_of_getElem? hc)
    · rw [List.getElem?_append_right (by omega)] at hc
      have hnext := ih (h.move act (rested m List.mem_cons_self))
        (fun m' hm => rested m' (List.mem_cons_of_mem m hm)) _ hc
      rwa [show n + (w.begins m).length + (k - (w.begins m).length) = n + k by omega] at hnext

end Ticking

/-- A worker that is still to be anchored ticks from the clock at its first step. -/
theorem begun_of_anchor {w : Worker B} (hp : w.phase = .anchor) {ms : List (Move C R)}
    (rested : ∀ m ∈ ms, m.Rested) (k : Nat) (c : CycleContext)
    (hc : (w.begun act ms)[k]? = some c) :
    ∃ origin, (ms.filterMap Move.now?).head? = some origin ∧
      IsContext origin w.config.period k c := by
  induction ms generalizing w with
  | nil => cases hc
  | cons m ms ih =>
    have hrest : ∀ m' ∈ ms, m'.Rested := fun m' hm => rested m' (List.mem_cons_of_mem m hm)
    cases m with
    | step answer =>
      have hbegins : w.begins (C := C) (.step answer) = [] := by
        unfold begins
        rw [hp]
      rw [begun, hbegins, List.nil_append] at hc
      have hcontext := (Ticking.anchor hp answer).begun act hrest k c hc
      rw [Nat.zero_add] at hcontext
      exact ⟨answer.now, rfl, hcontext⟩
    | stop => exact ih (w := w.requestStop) hp hrest hc
    | outside change => exact ih (w := { w with body := act change w.body }) hp hrest hc

/-- **All wakeups are on one grid.** The `k`-th wakeup of a grid is numbered `k` and is `k + 1`
periods after its origin; and the cycles of a run without failed sleeps begin in the contexts of
these wakeups, one after the other, from the clock at the first step on. -/
theorem begun_onGrid (config : Config) (body : B) (ms : List (Move C R))
    (rested : ∀ m ∈ ms, m.Rested) :
    (∀ (origin period : UInt64) (k : Nat), k < UInt64.size - 1 →
      (gridAt origin period k).index.toNat = k ∧
      (gridAt origin period k).next.toNat =
        min (origin.toNat + (k + 1) * max period.toNat 1) (UInt64.size - 1)) ∧
    ((ready config body).history act ms).filterMap Happening.cycle? <+:
      (ready config body).begun act ms ∧
    ∀ (k : Nat) (c : CycleContext), ((ready config body).begun act ms)[k]? = some c →
      ∃ origin, (ms.filterMap Move.now?).head? = some origin ∧ c.OnGrid origin config.period k := by
  refine ⟨fun origin period k hk => ⟨?_, toNat_next_gridAt origin period k⟩,
    cycles_history_prefix act _ ms, fun k c hc => ?_⟩
  · rw [index_gridAt]
    omega
  · obtain ⟨origin, horigin, hcontext⟩ := begun_of_anchor act rfl rested k c hc
    exact ⟨origin, horigin, hcontext.onGrid⟩

/-- Three cycles just below the largest word. The first one is late and takes longer than a period,
so that the second one is late too; the third wakeup would be beyond the largest word. -/
def threeLate : List (Move Empty Unit) :=
  [calmAt 18446744073709549116, calmAt 18446744073709549116,
    calmAt 18446744073709549116, calmAt 18446744073709549120, calmAt 18446744073709550126,
    calmAt 18446744073709550130, calmAt 18446744073709551400,
    calmAt 18446744073709551400, calmAt 18446744073709551410, calmAt 18446744073709551416,
    calmAt 18446744073709551420, calmAt 18446744073709551460,
    calmAt 18446744073709551460, calmAt 18446744073709551470, calmAt 18446744073709551615,
    calmAt 18446744073709551615, calmAt 18446744073709551615]

theorem begun_onGrid_of_threeLate :
    let w := ready (.ofPeriod 1000) CallLog.empty
    (∀ m ∈ threeLate, m.Rested) ∧
      (∀ (k : Nat) (c : CycleContext), (w.begun nofun threeLate)[k]? = some c →
        ∃ origin, (threeLate.filterMap Move.now?).head? = some origin ∧ c.OnGrid origin 1000 k) ∧
      w.begun nofun threeLate =
        [⟨0, 18446744073709550116, 18446744073709550126, 10, 1000⟩,
          ⟨1, 18446744073709551116, 18446744073709551416, 300, 1000⟩,
          ⟨2, 18446744073709551615, 18446744073709551615, 0, 1000⟩] := by
  have rested : ∀ m ∈ threeLate, m.Rested := by decide
  exact ⟨rested, (begun_onGrid nofun (.ofPeriod 1000) CallLog.empty threeLate rested).2.2,
    by decide +kernel⟩

end Worker

end CyclicBus
