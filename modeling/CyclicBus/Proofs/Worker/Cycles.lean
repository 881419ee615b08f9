import CyclicBus.Proofs.Worker.Laps
import CyclicBus.Proofs.Worker.Stopping

/-!
# The cycles of a run

`begun` are the contexts of the cycles that begin in a run of a worker. Each of them is called; what
returns is in the history (`Happening.cycle?`), and that is all of them but for a cycle that panics
(`cycles_history_prefix`, `cycles_history_of_calm`).
-/

namespace CyclicBus

/-- The context of a cycle that was called and has returned. -/
def Happening.cycle? {C R : Type} : Happening C R → Option CycleContext
  | call (.cycle context _) => some context
  | _ => none

namespace Worker

variable {B C R : Type}

/-- No sleep fails. -/
def Move.Rested : Move C R → Prop
  | step answer => answer.slept = true
  | stop => True
  | outside _ => True

instance (m : Move C R) : Decidable m.Rested :=
  match m with
  | .step _ => inferInstanceAs (Decidable (_ = _))
  | .stop => .isTrue trivial
  | .outside _ => .isTrue trivial

theorem Move.Calm.rested {m : Move C R} (h : m.Calm) : m.Rested := by
  cases m with
  | step answer => exact h.1
  | stop => trivial
  | outside change => trivial

/-- A step at a clock reading at which nothing fails. -/
def calmAt (now : UInt64) : Move Empty Unit := .step ⟨now, true, false, ()⟩

def Move.now? : Move C R → Option UInt64
  | step answer => some answer.now
  | _ => none

/-- The context of the cycle that a move begins, if it begins one. -/
def begins (w : Worker B) : Move C R → List CycleContext
  | .step _ =>
    match w.phase with
    | .run context => [context]
    | _ => []
  | _ => []

theorem length_begins_le (w : Worker B) (m : Move C R) : (w.begins m).length ≤ 1 := by
  unfold begins
  split
  · split <;> simp
  · simp

theorem begins_of_finished {w : Worker B} (h : w.finished = true) (m : Move C R) :
    w.begins m = [] := by
  unfold finished at h
  unfold begins
  cases hp : w.phase <;> simp [hp] at h ⊢
  all_goals split <;> rfl

theorem cycles_settling (context : CycleContext) (overrun : Option UInt64)
    (drained : Option Statistics.Window) :
    ((BodyCall.settling context overrun drained).map Happening.call).filterMap
      (Happening.cycle? (C := C) (R := R)) = [] := by
  cases overrun <;> cases drained <;> rfl

variable [CycleBody B R] (act : C → B → B)

/-- The contexts of the cycles that begin in a run, in order. -/
def begun (w : Worker B) : List (Move C R) → List CycleContext
  | [] => []
  | m :: ms => w.begins m ++ (w.move act m).begun ms

theorem hasPanicked_step_of_not_panics (w : Worker B) {answer : Answer R}
    (h : answer.panics = false) : (w.step answer).hasPanicked = w.hasPanicked := by
  rw [Bool.eq_iff_iff, hasPanicked_step_iff, h]
  simp

theorem begun_append (w : Worker B) (ms ms' : List (Move C R)) :
    w.begun act (ms ++ ms') = w.begun act ms ++ (w.moves act ms).begun act ms' := by
  induction ms generalizing w with
  | nil => rfl
  | cons m ms ih =>
    rw [List.cons_append, begun, begun, ih, List.append_assoc]
    rfl

/-- Between two of its steps a worker stays where it is, but for the flag and its body. -/
theorem moves_of_no_step (w : Worker B) {ms : List (Move C R)}
    (silent : ∀ m ∈ ms, m.now? = none) :
    w.begun act ms = [] ∧
      ∃ stopped body, w.moves act ms = { w with stopRequested := stopped, body := body } := by
  induction ms generalizing w with
  | nil => exact ⟨rfl, w.stopRequested, w.body, rfl⟩
  | cons m ms ih =>
    obtain ⟨hbegun, stopped, body, hmoves⟩ :=
      ih (w.move act m) fun m' hm => silent m' (List.mem_cons_of_mem m hm)
    rw [begun, hbegun]
    cases m with
    | step answer => cases silent _ List.mem_cons_self
    | stop => exact ⟨rfl, stopped, body, hmoves⟩
    | outside change => exact ⟨rfl, stopped, body, hmoves⟩

theorem finished_move {w : Worker B} (h : w.finished = true) (m : Move C R) :
    (w.move act m).finished = true := by
  cases m with
  | step answer =>
    show (w.step answer).finished = true
    rw [step_of_finished h]
    exact h
  | stop => exact h
  | outside change => exact h

theorem begun_of_finished {w : Worker B} (h : w.finished = true) (ms : List (Move C R)) :
    w.begun act ms = [] := by
  induction ms generalizing w with
  | nil => rfl
  | cons m ms ih => rw [begun, begins_of_finished h, ih (finished_move act h m), List.append_nil]

/-- A cycle that begins returns, or the worker has panicked. -/
theorem cycles_happened (w : Worker B) (m : Move C R) :
    (w.happened m).filterMap Happening.cycle? = w.begins m ∨
      (w.move act m).finished = true ∧ (w.happened m).filterMap Happening.cycle? = [] ∧
        ¬ m.Calm := by
  cases m with
  | stop => exact .inl rfl
  | outside change => exact .inl rfl
  | step answer =>
    show ((w.calls answer).map Happening.call).filterMap Happening.cycle? = _ ∨
      (w.step answer).finished = true ∧
        ((w.calls answer).map Happening.call).filterMap Happening.cycle? = [] ∧ _
    unfold calls begins step
    cases hp : w.phase with
    | settle context started => exact .inl (cycles_settling ..)
    | run context =>
      cases hpanics : answer.panics with
      | false => exact .inl rfl
      | true =>
        refine .inr ⟨rfl, rfl, fun calm => ?_⟩
        rw [calm.2] at hpanics
        cases hpanics
    | _ => exact .inl rfl

theorem cycles_history_prefix (w : Worker B) (ms : List (Move C R)) :
    (w.history act ms).filterMap Happening.cycle? <+: w.begun act ms := by
  induction ms generalizing w with
  | nil => exact List.prefix_rfl
  | cons m ms ih =>
    rw [history, begun, List.filterMap_append]
    rcases cycles_happened act w m with hreturns | ⟨hended, hnone, -⟩
    · rw [hreturns, List.prefix_append_right_inj]
      exact ih _
    · -- nothing begins any more, so nothing returns either
      have hrest := ih (w.move act m)
      rw [begun_of_finished act hended, List.prefix_nil] at hrest
      rw [hnone, hrest]
      exact List.nil_prefix

/-- Without panics every cycle that begins returns. -/
theorem cycles_history_of_calm (w : Worker B) {ms : List (Move C R)} (calm : ∀ m ∈ ms, m.Calm) :
    (w.history act ms).filterMap Happening.cycle? = w.begun act ms := by
  induction ms generalizing w with
  | nil => rfl
  | cons m ms ih =>
    rw [history, begun, List.filterMap_append,
      ih _ fun m' hm => calm m' (List.mem_cons_of_mem m hm)]
    rcases cycles_happened act w m with hreturns | ⟨-, -, hpanics⟩
    · rw [hreturns]
    · exact absurd (calm m List.mem_cons_self) hpanics

end Worker

end CyclicBus
