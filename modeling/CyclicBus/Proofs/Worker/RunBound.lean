import Mathlib.Algebra.Order.Floor.Div
import CyclicBus.Proofs.Worker.Cooperation
import CyclicBus.Proofs.Worker.Wakeups

/-!
# A bounded run ends

The loop of a worker counts nothing. It ends because each wakeup that a sleep has waited for moves
the clock one period on, and the clock comes to the end of the run: `Bounded` ties the clock to the
cycles that have begun, `Bounded.step` keeps it and brings the end nearer (`Phase.toBound`), and
`bounded_run` counts the cycles and the steps that a run can have.
-/

namespace CyclicBus.Worker

variable {B C R : Type}

/-! ## The clock and the bound -/

/-- The most cycles of a run from `origin` to `ends`: one for each period that has begun by then. -/
def cycleBound (origin period ends : UInt64) : Nat :=
  (ends.toNat - origin.toNat) ⌈/⌉ max period.toNat 1

/-- The instant `n` periods after the origin, held at the largest word. -/
def instant (origin period : UInt64) (n : Nat) : Nat :=
  min (origin.toNat + n * max period.toNat 1) (UInt64.size - 1)

theorem toNat_next_eq_instant (origin period : UInt64) (n : Nat) :
    (gridAt origin period n).next.toNat = instant origin period (n + 1) :=
  toNat_next_gridAt origin period n

/-- Before the end there is room for another cycle. -/
theorem lt_cycleBound {origin period ends now : UInt64} {n : Nat}
    (hnow : instant origin period n ≤ now.toNat) (hends : now < ends) :
    n < cycleBound origin period ends := by
  have hperiod : 0 < max period.toNat 1 := by omega
  have hlt := ends.toNat_lt_size
  rw [UInt64.lt_iff_toNat_lt] at hends
  unfold instant at hnow
  unfold cycleBound
  rw [← Nat.not_le, ceilDiv_le_iff_le_mul hperiod, Nat.mul_comm]
  omega

/-! ## The invariant -/

/-- What is known in a phase when `n` cycles have begun and the clock was last read as `now`. -/
def Phase.Within (origin period ends : UInt64) (n : Nat) (now : UInt64) : Phase → Prop
  | .bound => False
  | .check => instant origin period n ≤ now.toNat
  | .limit => instant origin period n ≤ now.toNat
  | .sleep => n < cycleBound origin period ends
  | .run _ => n < cycleBound origin period ends ∧ instant origin period (n + 1) ≤ now.toNat
  | .settle _ _ => instant origin period n ≤ now.toNat
  | _ => True

/-- The steps from a phase to the end of the run, when `n` of at most `most` cycles have begun. -/
def Phase.toBound (most n : Nat) : Phase → Nat
  | .check => 5 * (most - n) + 2
  | .limit => 5 * (most - n) + 1
  | .sleep => 5 * (most - n)
  | .run _ => 5 * (most - n) - 1
  | .settle _ _ => 5 * (most - n) + 3
  | _ => 0

/-! ### One step in each phase -/

/-- A step from one phase to another when `n` cycles had begun before and `n'` after it: the second
phase is as it should be, and nearer to the end. -/
structure Phase.Nears (origin period ends : UInt64) (n n' : Nat) (now : UInt64)
    (before after : Phase) : Prop where
  within : after.Within origin period ends n' now
  toBound_le : after.toBound (cycleBound origin period ends) n' ≤
    before.toBound (cycleBound origin period ends) n - 1

namespace Phase

variable {origin period ends now now' : UInt64} {n : Nat} {context : CycleContext}

theorem nears_of_check (hwithin : Phase.check.Within origin period ends n now)
    (later : now ≤ now') (stopped : Bool) :
    Phase.Nears origin period ends n n now' .check
      (if stopped then .ended .stopped else .limit) := by
  cases stopped with
  | false => exact ⟨Nat.le_trans hwithin (UInt64.le_iff_toNat_le.1 later), Nat.le_refl _⟩
  | true => exact ⟨trivial, Nat.zero_le _⟩

/-- While the end is still ahead, there is room for another cycle. -/
theorem nears_of_limit (hwithin : Phase.limit.Within origin period ends n now)
    (later : now ≤ now') :
    Phase.Nears origin period ends n n now' .limit
      (if decide (ends ≤ now') then .ended .durationElapsed else .sleep) := by
  by_cases hover : ends ≤ now'
  · rw [if_pos (decide_eq_true hover)]
    exact ⟨trivial, Nat.zero_le _⟩
  · rw [if_neg (by simpa using hover)]
    have hreached := Nat.le_trans hwithin (UInt64.le_iff_toNat_le.1 later)
    exact ⟨lt_cycleBound hreached (UInt64.not_le.1 hover), Nat.le_refl _⟩

theorem nears_of_sleep (hwithin : Phase.sleep.Within origin period ends n now)
    (woken : (gridAt origin period n).next ≤ now') :
    Phase.Nears origin period ends n n now' .sleep (.run context) := by
  rw [UInt64.le_iff_toNat_le, toNat_next_eq_instant] at woken
  exact ⟨⟨hwithin, woken⟩, Nat.le_refl _⟩

/-- A cycle begins, and its wakeup is past. -/
theorem nears_of_run (hwithin : (Phase.run context).Within origin period ends n now)
    (later : now ≤ now') (started : UInt64) :
    Phase.Nears origin period ends n (n + 1) now' (.run context) (.settle context started) := by
  obtain ⟨hroom, hreached⟩ := hwithin
  refine ⟨Nat.le_trans hreached (UInt64.le_iff_toNat_le.1 later), ?_⟩
  simp only [toBound]
  omega

theorem nears_of_settle {started : UInt64}
    (hwithin : (Phase.settle context started).Within origin period ends n now)
    (later : now ≤ now') :
    Phase.Nears origin period ends n n now' (.settle context started) .check :=
  ⟨Nat.le_trans hwithin (UInt64.le_iff_toNat_le.1 later), Nat.le_refl _⟩

end Phase

/-! ### Workers -/

/-- A worker whose run ends at `ends`, of which `n` cycles have begun. -/
structure Bounded (origin period ends : UInt64) (n : Nat) (now : UInt64) (w : Worker B) : Prop where
  ticking : Ticking origin period n w
  endsAt : w.endsAt = some ends
  le : n ≤ cycleBound origin period ends
  within : w.phase.Within origin period ends n now

/-- A sleep that succeeds returns when the clock has reached its wakeup. -/
def Sleeps (w : Worker B) : Move C R → Prop
  | .step answer => w.phase = .sleep → answer.slept = true → w.grid.next ≤ answer.now
  | _ => True

instance (w : Worker B) (m : Move C R) : Decidable (w.Sleeps m) :=
  match m with
  | .step _ => inferInstanceAs (Decidable (_ → _ → _))
  | .stop => .isTrue trivial
  | .outside _ => .isTrue trivial

section Run

variable [CycleBody B R] (act : C → B → B)

/-- No sleep of a run returns too early. -/
def Punctual (w : Worker B) : List (Move C R) → Prop
  | [] => True
  | m :: ms => w.Sleeps m ∧ (w.move act m).Punctual ms

instance decidablePunctual (w : Worker B) : (ms : List (Move C R)) → Decidable (w.Punctual act ms)
  | [] => .isTrue trivial
  | m :: ms =>
    have := decidablePunctual (w.move act m) ms
    inferInstanceAs (Decidable (_ ∧ _))

theorem punctual_append {w : Worker B} {ms ms' : List (Move C R)}
    (h : w.Punctual act (ms ++ ms')) :
    w.Punctual act ms ∧ (w.moves act ms).Punctual act ms' := by
  induction ms generalizing w with
  | nil => exact ⟨trivial, h⟩
  | cons m ms ih =>
    obtain ⟨hms, hms'⟩ := ih h.2
    exact ⟨⟨h.1, hms⟩, hms'⟩

namespace Bounded

variable {origin period ends now : UInt64} {n : Nat} {w : Worker B}

/-- A worker that has no steps left has ended. -/
theorem finished_of_toBound (h : Bounded origin period ends n now w)
    (hend : w.phase.toBound (cycleBound origin period ends) n = 0) : w.finished = true := by
  have hticks := h.ticking.ticks
  have hwithin := h.within
  unfold finished
  cases hp : w.phase with
  | anchor =>
    rw [hp] at hticks
    exact hticks.elim
  | bound =>
    rw [hp] at hwithin
    exact hwithin.elim
  | ended reason => rfl
  | panicked => rfl
  | _ =>
    rw [hp] at hwithin hend
    simp only [Phase.Within, Phase.toBound] at hwithin hend
    omega

/-- Once it has a bound, a worker keeps it. -/
theorem endsAt_step (h : Bounded origin period ends n now w) (answer : Answer R) :
    (w.step answer).endsAt = some ends := by
  have hwithin := h.within
  refine Eq.trans ?_ h.endsAt
  unfold Worker.step
  cases hp : w.phase with
  | bound =>
    rw [hp] at hwithin
    exact hwithin.elim
  | sleep => cases answer.slept <;> rfl
  | run context => cases answer.panics <;> rfl
  | settle context started =>
    dsimp only
    rw [settle_eq]
  | _ => rfl

omit [CycleBody B R] in
/-- A cycle only begins where there is room for it. -/
theorem begins_le (h : Bounded origin period ends n now w) (m : Move C R) :
    n + (w.begins m).length ≤ cycleBound origin period ends := by
  have hwithin := h.within
  cases m with
  | step answer =>
    unfold begins
    cases hp : w.phase with
    | run context =>
      rw [hp] at hwithin
      exact hwithin.1
    | _ => exact h.le
  | stop => exact h.le
  | outside change => exact h.le

theorem nears_step (h : Bounded origin period ends n now w) {answer : Answer R}
    (slept : answer.slept = true) (later : now ≤ answer.now)
    (sleeps : w.Sleeps (C := C) (.step answer)) :
    w.phase.Nears origin period ends n (n + (w.begins (C := C) (.step answer)).length) answer.now
      (w.step answer).phase := by
  have hticks := h.ticking.ticks
  have hwithin := h.within
  unfold Worker.step begins
  cases hp : w.phase with
  | anchor =>
    rw [hp] at hticks
    exact hticks.elim
  | bound =>
    rw [hp] at hwithin
    exact hwithin.elim
  | check => exact Phase.nears_of_check (hp ▸ hwithin) later w.stopRequested
  | limit =>
    have hnears := Phase.nears_of_limit (hp ▸ hwithin) later
    rwa [← Option.any_some (p := fun e => decide (e ≤ answer.now)), ← h.endsAt] at hnears
  | sleep =>
    have hgrid : w.grid = gridAt origin period n := by rwa [hp] at hticks
    dsimp only
    rw [if_pos slept]
    exact Phase.nears_of_sleep (hp ▸ hwithin) (hgrid ▸ sleeps hp slept)
  | run context =>
    dsimp only
    cases hpanics : answer.panics with
    | false => exact Phase.nears_of_run (hp ▸ hwithin) later answer.now
    | true => exact ⟨trivial, Nat.zero_le _⟩
  | settle context started =>
    dsimp only
    rw [settle_eq]
    exact Phase.nears_of_settle (hp ▸ hwithin) later
  | ended reason =>
    dsimp only
    rw [hp]
    exact ⟨trivial, Nat.zero_le _⟩
  | panicked =>
    dsimp only
    rw [hp]
    exact ⟨trivial, Nat.zero_le _⟩

/-- **One step** keeps the clock ahead of the cycles, and brings the end nearer. -/
theorem step (h : Bounded origin period ends n now w) {answer : Answer R}
    (slept : answer.slept = true) (later : now ≤ answer.now)
    (sleeps : w.Sleeps (C := C) (.step answer)) :
    Bounded origin period ends (n + (w.begins (C := C) (.step answer)).length) answer.now
        (w.step answer) ∧
      (w.step answer).phase.toBound (cycleBound origin period ends)
          (n + (w.begins (C := C) (.step answer)).length) ≤
        w.phase.toBound (cycleBound origin period ends) n - 1 := by
  obtain ⟨hwithin, htoBound⟩ := h.nears_step slept later sleeps
  exact ⟨⟨h.ticking.step slept, h.endsAt_step answer, h.begins_le _, hwithin⟩, htoBound⟩

theorem move (h : Bounded origin period ends n now w) {m : Move C R} (rested : m.Rested)
    (later : ∀ t ∈ m.now?, now ≤ t) (sleeps : w.Sleeps m) :
    Bounded origin period ends (n + (w.begins m).length) (m.now?.getD now) (w.move act m) ∧
      (w.move act m).phase.toBound (cycleBound origin period ends) (n + (w.begins m).length) ≤
        w.phase.toBound (cycleBound origin period ends) n - m.now?.toList.length := by
  cases m with
  | step answer => exact h.step rested (later _ rfl) sleeps
  | stop => exact ⟨⟨h.ticking.move act rested, h.endsAt, h.le, h.within⟩, Nat.le_refl _⟩
  | outside change => exact ⟨⟨h.ticking.move act rested, h.endsAt, h.le, h.within⟩, Nat.le_refl _⟩

/-- **A run** keeps the clock ahead of the cycles, and each of its steps brings the end nearer. -/
theorem moves (h : Bounded origin period ends n now w) {ms : List (Move C R)}
    (rested : ∀ m ∈ ms, m.Rested) (steady : (now :: ms.filterMap Move.now?).Pairwise (· ≤ ·))
    (punctual : w.Punctual act ms) :
    ∃ now', Bounded origin period ends (n + (w.begun act ms).length) now' (w.moves act ms) ∧
      (w.moves act ms).phase.toBound (cycleBound origin period ends)
          (n + (w.begun act ms).length) ≤
        w.phase.toBound (cycleBound origin period ends) n - (ms.filterMap Move.now?).length := by
  induction ms generalizing n now w with
  | nil => exact ⟨now, h, Nat.le_refl _⟩
  | cons m ms ih =>
    have hrest : ∀ m' ∈ ms, m'.Rested := fun m' hm => rested m' (List.mem_cons_of_mem m hm)
    have hnows : (m :: ms).filterMap Move.now? = m.now?.toList ++ ms.filterMap Move.now? := by
      cases hm : m.now? with
      | none => exact List.filterMap_cons_none hm
      | some t => exact List.filterMap_cons_some hm
    rw [hnows] at steady
    have hlater : ∀ t ∈ m.now?, now ≤ t := by
      intro t ht
      exact List.rel_of_pairwise_cons steady (List.mem_append_left _ (Option.mem_toList.2 ht))
    obtain ⟨hmove, hrank⟩ := h.move act (rested m List.mem_cons_self) hlater punctual.1
    have hsteady : (m.now?.getD now :: ms.filterMap Move.now?).Pairwise (· ≤ ·) := by
      cases hm : m.now? with
      | none => rwa [hm] at steady
      | some t =>
        rw [hm] at steady
        exact (List.pairwise_cons.1 steady).2
    obtain ⟨now', hbounded, hmore⟩ := ih hmove hrest hsteady punctual.2
    refine ⟨now', ?_, ?_⟩
    · rw [begun, List.length_append, ← Nat.add_assoc]
      exact hbounded
    · rw [begun, List.length_append, ← Nat.add_assoc, hnows, List.length_append]
      show ((w.move act m).moves act ms).phase.toBound _ _ ≤ _
      omega

end Bounded

omit [CycleBody B R] in
theorem Move.exists_of_now? {ms : List (Move C R)} {t : UInt64} {ts : List UInt64}
    (h : ms.filterMap Move.now? = t :: ts) :
    ∃ before answer after, ms = before ++ .step answer :: after ∧ (∀ m ∈ before, m.now? = none) ∧
      answer.now = t ∧ after.filterMap Move.now? = ts := by
  obtain ⟨before, m, after, rfl, hbefore, hm, hafter⟩ := List.filterMap_eq_cons_iff.1 h
  cases m with
  | step answer => exact ⟨before, answer, after, rfl, hbefore, Option.some.inj hm, hafter⟩
  | stop => cases hm
  | outside change => cases hm

section Start

variable {w : Worker B} {ms : List (Move C R)} (silent : ∀ m ∈ ms, m.now? = none)
  (answer : Answer R)

include silent

/-- The first step anchors the grid. -/
theorem anchored_moves (hp : w.phase = .anchor) :
    let v := w.moves act (ms ++ [.step answer])
    v.phase = .bound ∧ v.grid = .starting answer.now w.config.period ∧ v.config = w.config ∧
      w.begun act (ms ++ [.step answer]) = [] := by
  obtain ⟨hbegun, stopped, body, hmoves⟩ := moves_of_no_step act w silent
  rw [moves_append, begun_append, hbegun, hmoves]
  simp [moves, move, step, begun, begins, hp]

/-- The second step sets the end of the run. -/
theorem bounded_moves (hp : w.phase = .bound) :
    let v := w.moves act (ms ++ [.step answer])
    v.phase = .check ∧ v.grid = w.grid ∧ v.config = w.config ∧
      v.endsAt = w.config.runDuration.map (fun d => answer.now.satAdd (.ofNatClamp d)) ∧
      w.begun act (ms ++ [.step answer]) = [] := by
  obtain ⟨hbegun, stopped, body, hmoves⟩ := moves_of_no_step act w silent
  rw [moves_append, begun_append, hbegun, hmoves]
  simp [moves, move, step, begun, begins, hp]

end Start

/-- Two steps anchor a worker and set the end of its run, before any cycle begins. -/
theorem exists_bounded (config : Config) (body : B) {duration : Nat}
    (bounded : config.runDuration = some duration) {ms : List (Move C R)}
    {origin start : UInt64} {later : List UInt64}
    (readings : ms.filterMap Move.now? = origin :: start :: later) (steady : origin ≤ start) :
    ∃ before after, ms = before ++ after ∧ after.filterMap Move.now? = later ∧
      (ready config body).begun act before = [] ∧
      ((ready config body).moves act before).phase = .check ∧
      Bounded origin config.period (start.satAdd (.ofNatClamp duration)) 0 start
        ((ready config body).moves act before) := by
  obtain ⟨first, answer, rest, rfl, hfirst, rfl, hrest⟩ := Move.exists_of_now? readings
  obtain ⟨second, answer', after, rfl, hsecond, rfl, hlater⟩ := Move.exists_of_now? hrest
  obtain ⟨hphase, hgrid, hconfig, hbegun⟩ :=
    anchored_moves act hfirst answer (w := ready config body) rfl
  obtain ⟨hphase', hgrid', hconfig', hends, hbegun'⟩ :=
    bounded_moves act hsecond answer' hphase
  refine ⟨(first ++ [.step answer]) ++ (second ++ [.step answer']), after, by simp, hlater, ?_⟩
  rw [begun_append act _ (first ++ [Move.step answer]),
    moves_append act _ (first ++ [Move.step answer]), hbegun, hbegun']
  have hreached : instant answer.now config.period 0 ≤ answer'.now.toNat := by
    have horigin := UInt64.le_iff_toNat_le.1 steady
    unfold instant
    omega
  refine ⟨rfl, hphase', ⟨?_, ?_⟩, ?_, Nat.zero_le _, ?_⟩
  · rw [hconfig', hconfig]
    rfl
  · rw [hphase', hgrid', hgrid]
    rfl
  · rw [hends, hconfig]
    show config.runDuration.map _ = _
    rw [bounded]
    rfl
  · rw [hphase']
    exact hreached

theorem toNat_endsAt (start : UInt64) (duration : Nat) :
    (start.satAdd (.ofNatClamp duration)).toNat =
      min (start.toNat + duration) (UInt64.size - 1) := by
  rw [UInt64.toNat_satAdd, UInt64.toNat_ofNatClamp]
  omega

/-- **A bounded run ends.** If the clock never goes back and no sleep returns before its wakeup, a
worker with a run duration runs no more cycles than periods begin between the anchor of its grid and
the end of its run, whatever else happens. And after so many laps it has ended: with the run
duration, unless it saw its stop flag up before. -/
theorem bounded_run (config : Config) (body : B) {duration : Nat}
    (bounded : config.runDuration = some duration) (ms : List (Move C R))
    (rested : ∀ m ∈ ms, m.Rested) (steady : (ms.filterMap Move.now?).Pairwise (· ≤ ·))
    (punctual : (ready config body).Punctual act ms) {origin start : UInt64} {later : List UInt64}
    (readings : ms.filterMap Move.now? = origin :: start :: later) :
    let ends := min (start.toNat + duration) (UInt64.size - 1)
    let most := (ends - origin.toNat) ⌈/⌉ max config.period.toNat 1
    ((ready config body).begun act ms).length ≤ most ∧
      ((∀ m ∈ ms, m.Calm) → 5 * most + 4 ≤ (ms.filterMap Move.now?).length →
        ((ready config body).moves act ms).phase = .ended .durationElapsed ∨
          ((ready config body).moves act ms).phase = .ended .stopped ∧
            (ready config body).hasSeen act ms = true) := by
  intro ends most
  have hsteady : origin ≤ start := by
    rw [readings] at steady
    exact List.rel_of_pairwise_cons steady List.mem_cons_self
  obtain ⟨before, after, rfl, hafter, hidle, hcheck, hstarted⟩ :=
    exists_bounded act config body bounded readings hsteady
  have hmost : cycleBound origin config.period (start.satAdd (.ofNatClamp duration)) = most := by
    unfold cycleBound
    rw [toNat_endsAt]
  have hpairwise : (start :: after.filterMap Move.now?).Pairwise (· ≤ ·) := by
    rw [readings, List.pairwise_cons] at steady
    rw [hafter]
    exact steady.2
  obtain ⟨now, hbounded, hrank⟩ := hstarted.moves act
    (fun m hm => rested m (List.mem_append_right _ hm)) hpairwise
    (punctual_append act punctual).2
  rw [← moves_append, Nat.zero_add] at hbounded hrank
  rw [hmost] at hrank
  refine ⟨?_, fun calm hsteps => ?_⟩
  · rw [begun_append, hidle, List.nil_append, ← hmost]
    exact hbounded.le
  · have hended : ((ready config body).moves act (before ++ after)).finished = true := by
      apply hbounded.finished_of_toBound
      have hstart : Phase.toBound most 0 .check = 5 * most + 2 := rfl
      rw [hcheck, hstart, hafter] at hrank
      rw [readings, List.length_cons, List.length_cons] at hsteps
      rw [hmost]
      omega
    obtain ⟨reason, hreason⟩ := ended_of_finished hended (hasPanicked_moves act _ calm)
    rw [hreason]
    rcases reason_of_ended act config body rested hreason with ⟨rfl, hseen⟩ | ⟨rfl, -⟩
    · exact .inr ⟨rfl, hseen⟩
    · exact .inl rfl

end Run

/-- A run of 2500 nanoseconds that starts 100 after the anchor, with wakeups 1000 apart. The first
cycle takes so long that the second wakeup is past when it is settled, and the third one comes at
3000. -/
def threePeriods : List (Move Empty Unit) :=
  [calmAt 0, calmAt 100,
    calmAt 100, calmAt 100, calmAt 1000, calmAt 1000, calmAt 2400,
    calmAt 2400, calmAt 2400, calmAt 2400, calmAt 2400, calmAt 2500,
    calmAt 2500, calmAt 2500, calmAt 3000, calmAt 3000, calmAt 3100,
    calmAt 3100, calmAt 3100]

theorem bounded_run_of_threePeriods :
    let w := ready { Config.ofPeriod 1000 with runDuration := some 2500 } CallLog.empty
    ((∀ m ∈ threePeriods, m.Calm) ∧ (threePeriods.filterMap Move.now?).Pairwise (· ≤ ·) ∧
      w.Punctual nofun threePeriods) ∧
      (w.begun nofun threePeriods).length = 3 ∧
      (min (100 + 2500) (UInt64.size - 1) - 0) ⌈/⌉ 1000 = 3 ∧
      (w.begun nofun threePeriods).length ≤ (min (100 + 2500) (UInt64.size - 1) - 0) ⌈/⌉ 1000 ∧
      (w.moves nofun threePeriods).phase = .ended .durationElapsed := by
  have calm : ∀ m ∈ threePeriods, m.Calm := by decide
  have steady : (threePeriods.filterMap Move.now?).Pairwise (· ≤ ·) := by decide +kernel
  have punctual : (ready { Config.ofPeriod 1000 with runDuration := some 2500 }
      CallLog.empty).Punctual nofun threePeriods := by decide +kernel
  obtain ⟨hmost, hends⟩ := bounded_run nofun { Config.ofPeriod 1000 with runDuration := some 2500 }
    CallLog.empty rfl threePeriods (fun m hm => (calm m hm).rested) steady punctual rfl
  refine ⟨⟨calm, steady, punctual⟩, by decide +kernel, by decide +kernel, hmost, ?_⟩
  rcases hends calm (by decide +kernel) with hended | ⟨-, hseen⟩
  · exact hended
  · cases hseen

end CyclicBus.Worker
