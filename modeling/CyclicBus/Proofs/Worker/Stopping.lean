import CyclicBus.Proofs.Exchange.OutputFrame

/-!
# Stopping a worker

`finished_drain`: a worker whose stop flag is raised ends within `stepsToStop` steps, wherever it
stands and whatever its surroundings answer. So a join never finds it alive, and gives back the body
unless the worker panicked (`join?_of_finished`). `follows_steps`: a worker on the exchange only
makes calls of its session.
-/

namespace CyclicBus.Worker

/-- The steps from a phase to the end, where the stop flag is raised and no sleep fails. -/
def Phase.toEnd : Phase → Nat
  | .anchor => 3
  | .bound => 2
  | .check => 1
  | .limit => 5
  | .sleep => 4
  | .run _ => 3
  | .settle _ _ => 2
  | .ended _ => 0
  | .panicked => 0

theorem Phase.toEnd_le (p : Phase) : p.toEnd ≤ stepsToStop := by
  cases p <;> simp [toEnd, stepsToStop]

def hasPanicked {B : Type} (w : Worker B) : Bool := w.phase = .panicked

section Step

variable {B R : Type} [CycleBody B R] (w : Worker B) (answer : Answer R)

theorem finished_iff_toEnd : w.finished = true ↔ w.phase.toEnd = 0 := by
  unfold finished
  cases w.phase <;> simp [Phase.toEnd]

theorem phase_settle (context : CycleContext) (started now : UInt64) :
    (w.settle context started now).phase = .check := by
  unfold settle
  dsimp only
  split <;> rfl

theorem stopRequested_settle (context : CycleContext) (started now : UInt64) :
    (w.settle context started now).stopRequested = w.stopRequested := by
  unfold settle
  dsimp only
  split <;> rfl

theorem stopRequested_step : (w.step answer).stopRequested = w.stopRequested := by
  unfold step
  split
  case h_5 => split <;> rfl
  case h_6 => split <;> rfl
  case h_7 => exact stopRequested_settle w _ _ _
  all_goals rfl

/-- With the stop flag raised, every step brings the end nearer. -/
theorem toEnd_step (h : w.stopRequested = true) :
    (w.step answer).phase.toEnd ≤ w.phase.toEnd - 1 := by
  unfold step
  cases hp : w.phase with
  | anchor => exact Nat.le_refl _
  | bound => exact Nat.le_refl _
  | check => simp [h, Phase.toEnd]
  | limit =>
    dsimp only
    split <;> simp [Phase.toEnd]
  | sleep =>
    dsimp only
    split
    · exact Nat.le_refl _
    · dsimp only
      split <;> simp [Phase.toEnd]
  | run context =>
    dsimp only
    split <;> simp [Phase.toEnd]
  | settle context started =>
    dsimp only
    rw [phase_settle]
    exact Nat.le_refl _
  | ended reason => simp [hp, Phase.toEnd]
  | panicked => simp [hp, Phase.toEnd]

/-- A worker panics only in a cycle, and stays so. -/
theorem hasPanicked_step_iff :
    (w.step answer).hasPanicked = true ↔
      w.hasPanicked = true ∨ answer.panics = true ∧ ∃ context, w.phase = .run context := by
  unfold step hasPanicked
  cases hp : w.phase with
  | check =>
    cases h : w.stopRequested <;> simp
  | limit =>
    cases h : w.endsAt.any (· ≤ answer.now) <;> simp
  | sleep =>
    by_cases hfailed : sleepFailureBound ≤ w.sleepFailures + 1
    · cases answer.slept <;> simp [hfailed]
    · cases answer.slept <;> simp [hfailed]
  | run context => cases answer.panics <;> simp
  | settle context started => simp [phase_settle]
  | _ => simp [hp]

end Step

section Steps

variable {B R : Type} [CycleBody B R] {w : Worker B}

theorem toEnd_steps (h : w.stopRequested = true) (answers : List (Answer R)) :
    (w.steps answers).phase.toEnd ≤ w.phase.toEnd - answers.length := by
  induction answers generalizing w with
  | nil => exact Nat.le_refl _
  | cons a rest ih =>
    have hstep := toEnd_step w a h
    have hrest := ih ((stopRequested_step w a).trans h)
    show ((w.step a).steps rest).phase.toEnd ≤ _
    rw [List.length_cons]
    omega

/-- **A worker that is asked to stop ends.** -/
theorem finished_drain (w : Worker B) (answer : Nat → Answer R) :
    (w.requestStop.drain answer).finished = true := by
  have hsteps := toEnd_steps (w := w.requestStop) rfl ((List.range stepsToStop).map answer)
  have hle := w.requestStop.phase.toEnd_le
  rw [List.length_map, List.length_range] at hsteps
  -- the rank is `stepsToStop` at most, so that many steps use it up
  rw [finished_iff_toEnd]
  show (w.requestStop.steps _).phase.toEnd = 0
  omega

/-- A worker that has ended stays as it is but for the flag. -/
theorem drain_of_finished (h : w.finished = true) (answer : Nat → Answer R) :
    w.requestStop.drain answer = w.requestStop :=
  steps_of_finished (w := w.requestStop) h _

theorem finished_of_hasPanicked (h : w.hasPanicked = true) : w.finished = true := by
  unfold finished
  rw [of_decide_eq_true h]

theorem hasPanicked_drain (h : w.hasPanicked = true) (answer : Nat → Answer R) :
    (w.requestStop.drain answer).hasPanicked = true := by
  rw [drain_of_finished (finished_of_hasPanicked h)]
  exact h

omit [CycleBody B R] in
theorem join?_of_finished (h : w.finished = true) :
    (w.hasPanicked = false ∧ ∃ reason, w.join? = .ok ⟨w.body, w.statistics, reason⟩) ∨
      (w.hasPanicked = true ∧ w.join? = .error .panicked) := by
  unfold finished at h
  unfold hasPanicked join?
  cases hp : w.phase with
  | ended reason => exact .inl ⟨rfl, reason, rfl⟩
  | panicked => exact .inr ⟨rfl, rfl⟩
  | _ => simp [hp] at h

end Steps

/-! ## Workers on the exchange -/

variable {M : Type} [MasterSession M]

theorem master_settle (w : Worker (Exchange M)) (context : CycleContext) (started now : UInt64) :
    (w.settle context started now).body.master = w.body.master := by
  unfold settle
  dsimp only
  split <;> split <;> rfl

theorem follows_step (w : Worker (Exchange M)) (answer : Answer Readings) :
    Follows w.body.master (w.step answer).body.master := by
  unfold step
  split
  case h_5 => split <;> exact .refl _
  case h_6 =>
    split
    · exact .refl _
    · exact w.body.follows_execute _ _
  case h_7 =>
    rw [master_settle]
    exact .refl _
  all_goals exact .refl _

theorem follows_steps (w : Worker (Exchange M)) (answers : List (Answer Readings)) :
    Follows w.body.master (w.steps answers).body.master := by
  induction answers generalizing w with
  | nil => exact .refl _
  | cons a rest ih => exact (follows_step w a).trans (ih (w.step a))

end CyclicBus.Worker
