import CyclicBus.Bench.ExchangeBench
import CyclicBus.Bench.WorkerBench
import CyclicBus.Controller

/-!
# A controller on a virtual clock

A controller whose worker runs only while something waits for it. A sleep of the worker ends exactly
at its wakeup or at once if that is past, and a cycle takes a short time.
-/

namespace CyclicBus.Bench

/-- A controller with its surroundings. -/
structure ControllerBench (M : Type) where
  controller : Controller M
  now : UInt64
  panicking : Bool
  seen : Option M

namespace ControllerBench

variable {M : Type}

def ofController (controller : Controller M) : ControllerBench M :=
  ⟨controller, WorkerBench.origin, false, none⟩

/-- The master session, wherever it is. -/
def master? (b : ControllerBench M) : Option M :=
  match b.controller.worker? with
  | some w => some w.body.master
  | none => b.controller.master?

def look (b : ControllerBench M) : ControllerBench M :=
  { b with seen := b.master?.orElse fun _ => b.seen }

/-- The clock at the end of the worker's next step: it sleeps, runs a cycle, or takes no time. -/
def later (b : ControllerBench M) : UInt64 :=
  match b.controller.worker? with
  | some w =>
    match w.phase with
    | .sleep => max b.now w.grid.next
    | .settle _ _ => b.now + WorkerBench.pace
    | _ => b.now
  | none => b.now

/-- The answer to a step of the worker at a clock reading. -/
def answerAt (now : UInt64) (b : ControllerBench M) : Worker.Answer Readings :=
  ⟨now, true, b.panicking, .still now⟩

def answers (b : ControllerBench M) (_ : Nat) : Worker.Answer Readings := b.answerAt b.later

/-- Whether the worker is about to sleep. -/
def sleeps (b : ControllerBench M) : Bool :=
  b.controller.worker?.any fun w => w.phase = .sleep

def mapShared (f : Shared → Shared) (b : ControllerBench M) : ControllerBench M :=
  { b with controller := b.controller.mapShared f }

variable [MasterSession M]

def turn (b : ControllerBench M) : ControllerBench M :=
  let now := b.later
  { b with now, controller := b.controller.stepWorker (b.answerAt now) }

/-- Let the worker run until a condition holds. Gives whether it came to hold before the worker
ended and before the steps were used up. -/
def runUntil (holds : ControllerBench M → Bool) :
    (steps : Nat) → ControllerBench M → Bool × ControllerBench M
  | 0, b => (holds b, b)
  | steps + 1, b =>
    if holds b then (true, b)
    else if b.controller.isRunning then runUntil holds steps b.turn
    else (false, b)

/-- Nanoseconds that a wait may take. -/
def patience : UInt64 := 10 * Worker.second

/-- Let the worker run until a condition holds. Gives whether it came to hold in time. -/
def waitFor (holds : ControllerBench M → Bool) (b : ControllerBench M) :
    Bool × ControllerBench M :=
  let limit := b.now + patience
  let b := (b.runUntil (fun b => holds b || limit < b.now) WorkerBench.enough).2
  (holds b, b)

def waitDone (b : ControllerBench M) : ControllerBench M :=
  (b.runUntil (fun b => !b.controller.isRunning) WorkerBench.enough).2

/-- Start a run. Its worker comes as far as its first sleep. -/
def start (host : Host) (config : CycleConfig) (b : ControllerBench M) :
    Except EngineFault Unit × ControllerBench M :=
  let (r, controller) := b.controller.start host b.answers config
  (r, (runUntil sleeps 4 { b with controller }).2)

def stop (b : ControllerBench M) : Except EngineFault (Option RunSummary) × ControllerBench M :=
  let (r, controller) := b.controller.stop b.answers
  (r, { b with controller })

def close (b : ControllerBench M) : ControllerBench M :=
  { b with controller := b.controller.close b.answers }

/-- Receive snapshots as a subscriber and let the worker run while there are none. Gives the cycles
of what was received, the last one first. -/
def receive (index wanted : Nat) :
    (steps : Nat) → (cycles : List UInt64) → ControllerBench M → List UInt64 × ControllerBench M
  | 0, cycles, b => (cycles, b)
  | steps + 1, cycles, b =>
    if cycles.length = wanted then (cycles, b)
    else
      match b.controller.shared.data.receive index with
      | (.snapshot s, data) =>
        receive index wanted steps (s.cycle :: cycles) (b.mapShared fun shared =>
          { shared with data })
      | (.empty, _) =>
        if b.controller.isRunning then receive index wanted steps cycles b.turn else (cycles, b)
      | _ => (cycles, b)

end ControllerBench

end CyclicBus.Bench
