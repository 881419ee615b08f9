import Mathlib.Logic.Function.Iterate
import CyclicBus.Proofs.Worker.BodyCalls

/-!
# Laps of a worker

A worker takes steps, is asked to stop, and others change its body between its calls; `history` is
what happens to the body in such a run (`body_moves`). A worker that does not panic and whose sleeps
do not fail goes round and round. A `Lap` is one time round: a cycle in the context of the next wakeup
of the grid, and what it was settled with. `Phase.Stands`: the calls of such a run are those of its
laps, but for a cycle that is not settled yet.
-/

namespace CyclicBus

/-- The calls that settle a cycle. -/
def BodyCall.settling {R : Type} (context : CycleContext) (overrun : Option UInt64)
    (drained : Option Statistics.Window) : List (BodyCall R) :=
  (overrun.map (.overrun context)).toList ++ (drained.map (.window context)).toList

/-- One time round the loop of a worker. -/
structure Lap (R : Type) where
  context : CycleContext
  readings : R
  /-- The execution of the cycle, if it was longer than the period. -/
  overrun : Option UInt64
  /-- The window that the cycle closed. -/
  drained : Option Statistics.Window

def Lap.calls {R : Type} (l : Lap R) : List (BodyCall R) :=
  .cycle l.context l.readings :: BodyCall.settling l.context l.overrun l.drained

namespace Worker

variable {B C R : Type}

/-! ## Runs -/

/-- What happens to a worker. -/
inductive Move (C R : Type) where
  | step (answer : Answer R)
  | stop
  | outside (change : C)

/-- No sleep fails and no cycle panics. -/
def Move.Calm : Move C R → Prop
  | step answer => answer.slept = true ∧ answer.panics = false
  | stop => True
  | outside _ => True

instance (m : Move C R) : Decidable m.Calm :=
  match m with
  | .step _ => inferInstanceAs (Decidable (_ ∧ _))
  | .stop => .isTrue trivial
  | .outside _ => .isTrue trivial

/-- The execution of a cycle that is settled now, if it was longer than the period. -/
def overrunOf (w : Worker B) (started now : UInt64) : Option UInt64 :=
  if w.statistics.overran (now.satSub started) then some (now.satSub started) else none

/-- The statistics with a cycle that is settled now. -/
def recorded (w : Worker B) (context : CycleContext) (started now : UInt64) : Statistics :=
  w.statistics.record context.actual context.latency (now.satSub started)

/-- The window that a cycle closes that is settled now. -/
def drainedOf (w : Worker B) (context : CycleContext) (started now : UInt64) :
    Option Statistics.Window :=
  if w.fill.closes then some (w.recorded context started now).window else none

/-- The lap that ends when a cycle is settled. -/
def lapOf (w : Worker B) (context : CycleContext) (readings : R) (started now : UInt64) : Lap R :=
  ⟨context, readings, w.overrunOf started now, w.drainedOf context started now⟩

/-- The calls of the body that a step makes, in order. -/
def calls (w : Worker B) (answer : Answer R) : List (BodyCall R) :=
  match w.phase with
  | .run context => if answer.panics then [] else [.cycle context answer.readings]
  | .settle context started =>
    BodyCall.settling context (w.overrunOf started answer.now)
      (w.drainedOf context started answer.now)
  | _ => []

/-- What happens to the body. -/
def happened (w : Worker B) : Move C R → List (Happening C R)
  | .step answer => (w.calls answer).map .call
  | .stop => []
  | .outside change => [.outside change]

variable [CycleBody B R] (act : C → B → B)

def move (w : Worker B) : Move C R → Worker B
  | .step answer => w.step answer
  | .stop => w.requestStop
  | .outside change => { w with body := act change w.body }

def moves (w : Worker B) (ms : List (Move C R)) : Worker B := ms.foldl (move act) w

/-- What happens to the body in a run, in order. -/
def history (w : Worker B) : List (Move C R) → List (Happening C R)
  | [] => []
  | m :: ms => w.happened m ++ (w.move act m).history ms

theorem settle_eq (w : Worker B) (context : CycleContext) (started now : UInt64) :
    w.settle context started now =
      { w with
        phase := .check
        statistics :=
          if w.fill.closes then (w.recorded context started now).drain
          else w.recorded context started now
        fill := w.fill.tick
        completed := w.completed + 1
        body := (BodyCall.settling context (w.overrunOf started now)
          (w.drainedOf context started now)).foldl BodyCall.on w.body } := by
  unfold settle overrunOf drainedOf recorded
  cases hlate : w.statistics.overran (now.satSub started) <;> cases hcloses : w.fill.closes <;>
    simp [hlate, hcloses, BodyCall.settling, BodyCall.on]

theorem body_step (w : Worker B) (answer : Answer R) :
    (w.step answer).body = (w.calls answer).foldl BodyCall.on w.body := by
  unfold step calls
  cases w.phase with
  | sleep => cases answer.slept <;> rfl
  | run context => cases answer.panics <;> rfl
  | settle context started =>
    show (w.settle context started answer.now).body = _
    rw [settle_eq]
  | _ => rfl

theorem body_move (w : Worker B) (m : Move C R) :
    (w.move act m).body = (w.happened m).foldl (Happening.on act) w.body := by
  cases m with
  | step answer =>
    show (w.step answer).body = ((w.calls answer).map .call).foldl (Happening.on act) w.body
    rw [body_step, List.foldl_map]
    rfl
  | stop => rfl
  | outside change => rfl

/-- The body of a worker is what its history makes of it. -/
theorem body_moves (w : Worker B) (ms : List (Move C R)) :
    (w.moves act ms).body = (w.history act ms).foldl (Happening.on act) w.body := by
  induction ms generalizing w with
  | nil => rfl
  | cons m ms ih =>
    show ((w.move act m).moves act ms).body = _
    rw [ih, body_move, history, List.foldl_append]

/-! ## Laps -/

/-- The grid after `k` wakeups. -/
def gridAt (origin period : UInt64) (k : Nat) : WakeupGrid :=
  WakeupGrid.advance^[k] (.starting origin period)

theorem gridAt_succ (origin period : UInt64) (k : Nat) :
    gridAt origin period (k + 1) = (gridAt origin period k).advance :=
  Function.iterate_succ_apply' _ _ _

/-- The wakeups are numbered. -/
theorem index_gridAt (origin period : UInt64) (k : Nat) :
    (gridAt origin period k).index.toNat = min k (UInt64.size - 1) := by
  induction k with
  | zero => rfl
  | succ k ih =>
    rw [gridAt_succ, WakeupGrid.index_advance, UInt64.toNat_satAdd, ih]
    show min (min k (UInt64.size - 1) + 1) _ = _
    omega

/-- The context of the next cycle after `k` wakeups. -/
def IsContext (origin period : UInt64) (k : Nat) (context : CycleContext) : Prop :=
  ∃ actual, context = (gridAt origin period k).context actual

/-- Where a worker stands that has gone round `laps`, and the calls that it has made so far. -/
def Phase.Stands (origin period : UInt64) (laps : List (Lap R)) (calls : List (BodyCall R))
    (grid : WakeupGrid) : Phase → Prop
  | .anchor => laps = [] ∧ calls = []
  | .run context =>
    grid = gridAt origin period (laps.length + 1) ∧ IsContext origin period laps.length context ∧
      calls = laps.flatMap Lap.calls
  | .settle context _ =>
    grid = gridAt origin period (laps.length + 1) ∧ IsContext origin period laps.length context ∧
      ∃ readings, calls = laps.flatMap Lap.calls ++ [.cycle context readings]
  | .panicked => False
  | _ => grid = gridAt origin period laps.length ∧ calls = laps.flatMap Lap.calls

end Worker

end CyclicBus
