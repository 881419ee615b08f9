import CyclicBus.Timing.Statistics
import CyclicBus.Timing.Ticker
import CyclicBus.Worker.Config

/-!
# Worker machine

The loop of a worker thread as a machine of small steps. Each step reads the clock at most once, so
that a stop request from another thread may fall between any two of them: `step` moves the machine
by one answer of its surroundings, `requestStop` raises the flag.

A turn of the loop looks at the flag, then at the run bound, waits for the next wakeup, runs one
cycle, and settles its statistics. Once `finished` holds the machine stays as it is.
-/

namespace CyclicBus

/-- The work of a cycle. `R` is what a cycle reads of its surroundings while it runs. -/
class CycleBody (B : Type) (R : outParam Type) where
  runCycle : CycleContext → R → B → B
  /-- Called after a cycle that took longer than the period. -/
  onOverrun : CycleContext → (exec : UInt64) → B → B
  /-- Called with a drained window after the cycle that closed it. -/
  onWindow : CycleContext → Statistics.Window → B → B

namespace Worker

inductive ExitReason where
  | stopped
  | durationElapsed
  | setupRejected
  | sleepFailed
  deriving DecidableEq, Repr

def ExitReason.message : ExitReason → String
  | stopped => "stop requested"
  | durationElapsed => "run duration elapsed"
  | setupRejected => "rt setup rejected"
  | sleepFailed => "absolute sleep kept failing"

def ExitReason.name : ExitReason → String
  | stopped => "Stopped"
  | durationElapsed => "DurationElapsed"
  | setupRejected => "SetupRejected"
  | sleepFailed => "SleepFailed"

/-- The failed sleeps in a row after which a worker gives up. -/
def sleepFailureBound : Nat := 16

/-- Cycles counted into the current statistics window of a fixed length. -/
structure Fill where
  length : UInt64
  filled : UInt64
  deriving DecidableEq, Repr

namespace Fill

def closes (f : Fill) : Bool := f.length ≠ 0 && f.length ≤ f.filled.satAdd 1

def tick (f : Fill) : Fill :=
  if f.length = 0 then f
  else if f.closes then { f with filled := 0 } else { f with filled := f.filled.satAdd 1 }

end Fill

/-- Where a worker stands in its loop. -/
inductive Phase where
  /-- Set up; the grid is anchored at the next clock reading. -/
  | anchor
  /-- The run bound is set from the next clock reading. -/
  | bound
  /-- At the top of the loop, before a look at the stop flag. -/
  | check
  /-- Before a look at the run bound. -/
  | limit
  /-- Before the sleep to the next wakeup. -/
  | sleep
  /-- Awake, before the cycle. -/
  | run (context : CycleContext)
  /-- After the cycle, before its time is taken. -/
  | settle (context : CycleContext) (started : UInt64)
  | ended (reason : ExitReason)
  | panicked
  deriving DecidableEq, Repr

/-- What its surroundings answer at one step of a worker. -/
structure Answer (R : Type) where
  now : UInt64
  slept : Bool
  panics : Bool
  readings : R

end Worker

/-- A worker thread: its configuration, its place in the loop, and what it owns. -/
structure Worker (B : Type) where
  config : Worker.Config
  phase : Worker.Phase
  stopRequested : Bool
  grid : WakeupGrid
  endsAt : Option UInt64
  statistics : Statistics
  fill : Worker.Fill
  sleepFailures : Nat
  /-- Cycles completed, as seen from other threads. -/
  completed : UInt64
  body : B

namespace Worker

variable {B R : Type}

/-- A worker whose thread is set up and that has not looked at the clock yet. -/
def ready (config : Config) (body : B) : Worker B where
  config
  phase := .anchor
  stopRequested := false
  grid := .starting 0 config.period
  endsAt := none
  statistics := .fresh config.period config.latencies.toNat
  fill := ⟨config.windowCycles, 0⟩
  sleepFailures := 0
  completed := 0
  body

def requestStop (w : Worker B) : Worker B := { w with stopRequested := true }

def finished (w : Worker B) : Bool :=
  match w.phase with
  | .ended _ => true
  | .panicked => true
  | _ => false

/-- Settle a cycle that started at `started` and whose end is read now: statistics, overrun, window,
count. -/
def settle [CycleBody B R] (context : CycleContext) (started now : UInt64) (w : Worker B) :
    Worker B :=
  match w with
  | ⟨config, _, stopRequested, grid, endsAt, statistics, fill, sleepFailures, completed, body⟩ =>
    let exec := now.satSub started
    let late := statistics.overran exec
    let statistics := statistics.record context.actual context.latency exec
    let body := if late then CycleBody.onOverrun context exec body else body
    let completed := completed + 1
    if fill.closes then
      let window := statistics.window
      ⟨config, .check, stopRequested, grid, endsAt, statistics.drain, fill.tick, sleepFailures,
        completed, CycleBody.onWindow context window body⟩
    else
      ⟨config, .check, stopRequested, grid, endsAt, statistics, fill.tick, sleepFailures,
        completed, body⟩

def step [CycleBody B R] (answer : Answer R) (w : Worker B) : Worker B :=
  match w.phase with
  | .anchor => { w with phase := .bound, grid := .starting answer.now w.config.period }
  | .bound =>
    { w with
      phase := .check
      endsAt := w.config.runDuration.map fun d => answer.now.satAdd (.ofNatClamp d) }
  | .check => { w with phase := if w.stopRequested then .ended .stopped else .limit }
  | .limit =>
    { w with
      phase := if w.endsAt.any (· ≤ answer.now) then .ended .durationElapsed else .sleep }
  | .sleep =>
    if answer.slept then
      { w with
        phase := .run (w.grid.context answer.now)
        grid := w.grid.advance
        sleepFailures := 0 }
    else
      { w with
        phase :=
          if sleepFailureBound ≤ w.sleepFailures + 1 then .ended .sleepFailed else .check
        grid := w.grid.advance
        sleepFailures := w.sleepFailures + 1 }
  | .run context =>
    if answer.panics then { w with phase := .panicked }
    else
      match w with
      | ⟨config, _, stopRequested, grid, endsAt, statistics, fill, sleepFailures, completed,
          body⟩ =>
        ⟨config, .settle context answer.now, stopRequested, grid, endsAt, statistics, fill,
          sleepFailures, completed, CycleBody.runCycle context answer.readings body⟩
  | .settle context started => w.settle context started answer.now
  | .ended _ => w
  | .panicked => w

def steps [CycleBody B R] (answers : List (Answer R)) (w : Worker B) : Worker B :=
  answers.foldl (fun w answer => w.step answer) w

/-- The steps that a worker needs at most to reach the stop flag and end, once it is raised. -/
def stepsToStop : Nat := 5

/-- Let a worker run on until it has had time to see a raised stop flag. -/
def drain [CycleBody B R] (answer : Nat → Answer R) (w : Worker B) : Worker B :=
  w.steps ((List.range stepsToStop).map answer)

/-- A worker that has ended stays as it is. -/
theorem step_of_finished [CycleBody B R] {w : Worker B} (h : w.finished) (answer : Answer R) :
    w.step answer = w := by
  unfold finished at h
  unfold step
  split at h <;> simp_all

@[simp] theorem steps_of_finished [CycleBody B R] {w : Worker B} (h : w.finished)
    (answers : List (Answer R)) : w.steps answers = w := by
  induction answers with
  | nil => rfl
  | cons a rest ih => simpa [steps, step_of_finished h] using ih

@[simp] theorem requestStop_requestStop (w : Worker B) :
    w.requestStop.requestStop = w.requestStop := rfl

/-- What a joined worker hands back. -/
structure Exit (B : Type) where
  body : B
  statistics : Statistics
  reason : ExitReason

/-- Take back what an ended worker owned; a panicked worker gives nothing back. -/
def join? (w : Worker B) : Except WorkerFault (Exit B) :=
  match w.phase with
  | .ended reason => .ok ⟨w.body, w.statistics, reason⟩
  | .panicked => .error .panicked
  | _ => .error .lost

/-- The owner's end of a worker: its thread, until that is joined. -/
structure Handle (B : Type) where
  thread : Option (Worker B)

/-- Take back what the thread owned. The owner waits (`none`) while the thread is alive; a thread
that was joined is gone. -/
def Handle.join? (h : Handle B) : Option (Except WorkerFault (Exit B) × Handle B) :=
  match h.thread with
  | none => some (.error .lost, ⟨none⟩)
  | some w => if w.finished then some (w.join?, ⟨none⟩) else none

def label (w : Worker B) : String :=
  "CycleWorker \x7b " ++
    s!"finished: {w.finished}, stop_requested: {w.stopRequested}, cycles: {w.completed}" ++ " \x7d"

end Worker

end CyclicBus
