import CyclicBus.Proofs.Clock.ExactFilter

/-!
# Rollovers between two readings

The reference shows the low word of its clock, and the application time is compared by its low word
too. So a difference is known up to whole turns of the register, and the filter takes the one within
half a turn of zero: `turns` is what it leaves out. `delta_of_readings`: between two readings in a
row the filter sees the change of the full difference but for the turns that were left out at one
reading and not at the other. The rollovers of the two clocks do not show; the one of their
difference does.
-/

namespace CyclicBus

namespace ClockSync

/-- The whole turns of a 32-bit register in a difference, to the nearest one. -/
def turns (d : Int) : Int := (d + 2147483648) / 4294967296

theorem bmod_eq_sub_turns (d : Int) : d.bmod 4294967296 = d - 4294967296 * turns d := by
  unfold turns
  rw [Int.bmod_def]
  split <;> omega

/-- Differences less than half a turn apart are one turn apart at most. -/
theorem natAbs_turns_sub_le {d d' : Int} (h : (d' - d).natAbs < 2147483648) :
    (turns d' - turns d).natAbs ≤ 1 := by
  unfold turns
  omega

section Readings

variable {M : Type} [MasterSession M] {c : ClockSync}

/-- A cycle reads the low word of a reference clock that stands at `time`. -/
def Reads (c : ClockSync) (x : Surroundings M) (time : Int) : Prop :=
  ∃ reference, c.readingOf x = some reference ∧ time % 4294967296 = reference.toNat

/-- The application time of the last synchronisation minus a reference clock, both in full. -/
def trueDiff (c : ClockSync) (time : Int) : Int := c.state.appTime.toNat - time

theorem prevRawDiff_filter (p : DriftParams) (s : ClockState) :
    (filter p s).2.prevRawDiff = s.rawDiff := by
  rcases hs : s.started with _ | _
  · rw [filter_of_not_started hs]
    split <;> rfl
  · rw [filter_of_started hs]
    split <;> rfl

variable (hm : c.params.mode = .masterFollowsReference)

include hm

/-- A reading shows the true difference but for whole turns. -/
theorem rawDiff_synced {x : Surroundings M} {time : Int} (h : c.Reads x time) :
    (c.synced x).state.rawDiff.toInt =
      c.trueDiff time - 4294967296 * turns (c.trueDiff time) := by
  obtain ⟨reference, hread, htime⟩ := h
  have hlow : ((c.state.appTime.toNat : Int) - reference.toNat) % (4294967296 : Nat) =
      c.trueDiff time % (4294967296 : Nat) := by
    unfold trueDiff
    omega
  rw [synced_of_reading hm hread, ← bmod_eq_sub_turns, Clock.toInt_lowDiff, ← Int.emod_bmod, hlow,
    Int.emod_bmod]

theorem prevRawDiff_synced (x : Surroundings M) :
    (c.synced x).state.prevRawDiff = c.state.prevRawDiff := by
  obtain ⟨appTime, rawDiff, hstate⟩ := state_synced hm x
  rw [hstate]

theorem deltaTotal_synced (x : Surroundings M) :
    (c.synced x).state.deltaTotal = c.state.deltaTotal := by
  obtain ⟨appTime, rawDiff, hstate⟩ := state_synced hm x
  rw [hstate]

/-- A cycle keeps the difference that it reads for the next one. -/
theorem prevRawDiff_cycle_of_reads {x : Surroundings M} {time : Int} (h : c.Reads x time) :
    (c.cycle x).state.prevRawDiff = (c.synced x).state.rawDiff := by
  obtain ⟨reference, hread, -⟩ := h
  rw [state_cycle hm, hread, synced_of_reading hm hread]
  exact prevRawDiff_filter _ _

theorem prevRawDiff_cycles_of_none {ys : List (Surroundings M)}
    (h : ∀ raw ∈ c.rawDiffs ys, raw = none) :
    (c.cycles ys).state.prevRawDiff = c.state.prevRawDiff := by
  induction ys generalizing c with
  | nil => rfl
  | cons y ys ih =>
    have hread : c.readingOf y = none := Option.map_eq_none_iff.1 (h _ List.mem_cons_self)
    have hsame : (c.cycle y).state.prevRawDiff = c.state.prevRawDiff := by
      rw [state_cycle hm, hread]
    have hrest := ih (c := c.cycle y) (by rw [params_cycle]; exact hm)
      fun raw hraw => h raw (List.mem_cons_of_mem _ hraw)
    exact hrest.trans hsame

/-- A sample inside a window is added to the totals. -/
theorem deltaTotal_cycle_of_tracking {y : Surroundings M} {time : Int} (hread : c.Reads y time)
    (h : (c.synced y).update.1 = .tracking) :
    (c.cycle y).state.deltaTotal = (sampled c.params (c.synced y).state).deltaTotal := by
  have hsynced : (c.synced y).params.mode = .masterFollowsReference := by
    rw [params_synced]
    exact hm
  have hfresh : (c.synced y).fresh = true := by
    obtain ⟨reference, hread, -⟩ := hread
    rw [synced_of_reading hm hread]
  unfold cycle
  rw [update_of_fresh hsynced hfresh, params_synced] at h ⊢
  rcases hs : (c.synced y).state.started with _ | _
  · rw [filter_of_not_started hs] at h
    split at h <;> cases h
  · rw [filter_of_started hs] at h ⊢
    split at h
    · cases h
    · rename_i hopen
      rw [if_neg hopen]
      rfl

theorem Telescopes.synced (h : Telescopes c.state) (x : Surroundings M) :
    Telescopes (c.synced x).state := by
  obtain ⟨appTime, rawDiff, hstate⟩ := state_synced hm x
  rw [hstate]
  exact h.observe appTime rawDiff

theorem Telescopes.cycles (h : Telescopes c.state) (xs : List (Surroundings M)) :
    Telescopes (c.cycles xs).state := by
  induction xs generalizing c with
  | nil => exact h
  | cons x xs ih =>
    refine ih (c := c.cycle x) (by rw [params_cycle]; exact hm) ?_
    rw [state_cycle hm]
    split
    · exact (h.observe _ _).filter _
    · exact h.observe _ c.state.rawDiff

end Readings

/-! ## Every run -/

/-- **What the filter sees between two readings in a row**: the change of the true difference, but
for a turn where one of the two lies beyond half a turn and the other one does not. Without such a
turn the change itself is added to the delta total. -/
theorem delta_of_readings {M : Type} [MasterSession M] (params : DriftParams)
    (mode : params.mode = .masterFollowsReference) (xs ys : List (Surroundings M))
    (x y : Surroundings M) (time time' : Int) :
    let c := (ofParams params).cycles xs
    let c' := (c.cycle x).cycles ys
    c.Reads x time → (∀ raw ∈ (c.cycle x).rawDiffs ys, raw = none) → c'.Reads y time' →
    (c'.trueDiff time' - c.trueDiff time).natAbs < 2147483648 →
    let s := (c'.synced y).state
    let change := c'.trueDiff time' - c.trueDiff time
    let turn := turns (c'.trueDiff time') - turns (c.trueDiff time)
    (deltaOf s).toInt = change - 4294967296 * turn ∧ turn.natAbs ≤ 1 ∧
      ((deltaOf s).toInt = change ↔ turn = 0) ∧
      (sampled params s).deltaTotal.toInt = c'.state.deltaTotal.toInt + (deltaOf s).toInt ∧
      ((c'.synced y).update.1 = .tracking →
        (c'.cycle y).state.deltaTotal = (sampled params s).deltaTotal) := by
  intro c c' hread hnone hread' hclose s change turn
  have hc : c.params.mode = .masterFollowsReference := by
    rw [params_cycles]
    exact mode
  have hx : (c.cycle x).params.mode = .masterFollowsReference := by
    rw [params_cycle]
    exact hc
  have hparams : c'.params = params := by rw [params_cycles, params_cycle, params_cycles]; rfl
  have hc' : c'.params.mode = .masterFollowsReference := by
    rw [hparams]
    exact mode
  -- the failed readings in between leave alone the difference that was used last
  have hbefore : s.prevRawDiff.toInt =
      c.trueDiff time - 4294967296 * turns (c.trueDiff time) := by
    rw [prevRawDiff_synced hc', prevRawDiff_cycles_of_none hx hnone,
      prevRawDiff_cycle_of_reads hc hread, rawDiff_synced hc hread]
  have hafter : s.rawDiff.toInt = c'.trueDiff time' - 4294967296 * turns (c'.trueDiff time') :=
    rawDiff_synced hc' hread'
  have hdelta : (deltaOf s).toInt = change - 4294967296 * turn := by
    rw [toInt_deltaOf, hbefore, hafter]
    simp only [change, turn]
    omega
  have htelescopes : Telescopes c'.state :=
    (((Telescopes.zero.cycles mode xs : Telescopes c.state).cycles hc [x]).cycles hx ys)
  refine ⟨hdelta, natAbs_turns_sub_le hclose, ?_, ?_, ?_⟩
  · rw [hdelta]
    omega
  · rw [(htelescopes.synced hc' y).toInt_sampled params, deltaTotal_synced hc']
  · intro htracking
    rw [deltaTotal_cycle_of_tracking hc' hread' htracking, hparams]

def reading (hardware : UInt64) (reference : UInt32) : Surroundings ScriptedMaster :=
  ⟨hardware, hardware, { ScriptedMaster.ofDomainSize 0 with fallback := some reference }⟩

/-- The difference reaches half a turn while a reading fails, and the filter sees a change of one
nanosecond as one of a turn less. -/
theorem delta_of_readings_at_halfTurn :
    let params := (CycleConfig.unprivileged 1000).driftParams
    let c := (ofParams params).cycles [reading 3000000000 0]
    let x := reading 3000001000 852516353
    let y := reading 3000003000 852518352
    let ys := Surroundings.scripted [(3000002000, none)]
    let c' := (c.cycle x).cycles ys
    let s := (c'.synced y).state
    params.mode = .masterFollowsReference ∧ c.Reads x 852516353 ∧
      (∀ raw ∈ (c.cycle x).rawDiffs ys, raw = none) ∧ c'.Reads y 852518352 ∧
      c'.trueDiff 852518352 - c.trueDiff 852516353 = 1 ∧
      turns (c'.trueDiff 852518352) - turns (c.trueDiff 852516353) = 1 ∧
      (deltaOf s).toInt =
        c'.trueDiff 852518352 - c.trueDiff 852516353 -
          4294967296 * (turns (c'.trueDiff 852518352) - turns (c.trueDiff 852516353)) ∧
      (c'.cycle y).state.deltaTotal.toInt = -4294967295 := by
  intro params c x y ys c' s
  have hread : c.Reads x 852516353 := ⟨852516353, by decide +kernel, rfl⟩
  have hnone : ∀ raw ∈ (c.cycle x).rawDiffs ys, raw = none := by decide +kernel
  have hread' : c'.Reads y 852518352 := ⟨852518352, by decide +kernel, rfl⟩
  have hchange : c'.trueDiff 852518352 - c.trueDiff 852516353 = 1 := by decide +kernel
  have hclose : (c'.trueDiff 852518352 - c.trueDiff 852516353).natAbs < 2147483648 := by
    rw [hchange]
    decide
  obtain ⟨hdelta, -⟩ := delta_of_readings params rfl [reading 3000000000 0] ys x y 852516353
    852518352 hread hnone hread' hclose
  exact ⟨rfl, hread, hnone, hread', hchange, by decide +kernel, hdelta, by decide +kernel⟩

/-- The delta is not always the change of the true difference, be it ever so small. -/
theorem not_delta_eq_change : ¬ ∀ (params : DriftParams) (xs ys : List (Surroundings ScriptedMaster))
    (x y : Surroundings ScriptedMaster) (time time' : Int),
    params.mode = .masterFollowsReference →
    let c := (ofParams params).cycles xs
    let c' := (c.cycle x).cycles ys
    c.Reads x time → (∀ raw ∈ (c.cycle x).rawDiffs ys, raw = none) → c'.Reads y time' →
    (c'.trueDiff time' - c.trueDiff time).natAbs < 2147483648 →
    (deltaOf (c'.synced y).state).toInt = c'.trueDiff time' - c.trueDiff time := by
  intro h
  have hdelta := h (CycleConfig.unprivileged 1000).driftParams [reading 3000000000 0] []
    (reading 3000001000 852516353) (reading 3000002000 852517352) 852516353 852517352 rfl
    ⟨852516353, by decide +kernel, rfl⟩ (List.forall_mem_nil _)
    ⟨852517352, by decide +kernel, rfl⟩ (by decide +kernel)
  revert hdelta
  decide +kernel

end ClockSync

end CyclicBus
