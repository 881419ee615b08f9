import CyclicBus.Node
import CyclicBus.Worker.Machine

/-!
# A worker on a virtual clock

A worker is run without a thread: a sleep ends exactly at its wakeup or at once if that is past, and
a cycle takes a short time, apart from what the incidents say. `Recorder` is a body that remembers
its calls; a `Verdict` compares what it remembers with what the worker reports.
-/

namespace CyclicBus.Bench

/-- A body that remembers what it was called with. -/
structure Recorder where
  cycles : Array UInt64
  wakeups : Array UInt64
  overruns : Array UInt64
  windows : Array (CycleContext × Statistics.Window)

namespace Recorder

def empty : Recorder := ⟨#[], #[], #[], #[]⟩

instance : CycleBody Recorder Unit where
  runCycle c _ r := { r with cycles := r.cycles.push c.cycle, wakeups := r.wakeups.push c.wakeup }
  onOverrun c _ r := { r with overruns := r.overruns.push c.cycle }
  onWindow c w r := { r with windows := r.windows.push (c, w) }

end Recorder

/-- What happens to a worker, each in a given cycle. -/
structure Incidents where
  stopIn : Option UInt64
  panicIn : Option UInt64
  slowIn : Option UInt64

structure WorkerBench where
  worker : Worker Recorder
  now : UInt64

namespace WorkerBench

/-- A clock reading for the start of a bench: one second. -/
def origin : UInt64 := Worker.second

/-- Nanoseconds that a cycle takes. -/
def pace : UInt64 := 200

def turn (i : Incidents) (b : WorkerBench) : WorkerBench :=
  let w := b.worker
  match w.phase with
  | .sleep =>
    let now := max b.now w.grid.next
    ⟨w.step ⟨now, true, false, ()⟩, now⟩
  | .run context =>
    let w := w.step ⟨b.now, true, i.panicIn == some context.cycle, ()⟩
    ⟨if i.stopIn == some context.cycle then w.requestStop else w, b.now⟩
  | .settle context _ =>
    let exec := if i.slowIn == some context.cycle then 2 * context.period + 1 else pace
    let now := b.now + exec
    ⟨w.step ⟨now, true, false, ()⟩, now⟩
  | _ => ⟨w.step ⟨b.now, true, false, ()⟩, b.now⟩

/-- Run a worker to its end, for a number of steps at most. -/
def run (i : Incidents) : (steps : Nat) → WorkerBench → WorkerBench
  | 0, b => b
  | steps + 1, b => if b.worker.finished then b else run i steps (b.turn i)

/-- More steps than any worker of a bench takes. -/
def enough : Nat := 100000000

def begun (i : Incidents) (b : WorkerBench) : Array UInt64 :=
  match b.worker.phase, i.panicIn with
  | .panicked, some cycle => b.worker.body.cycles.push cycle
  | _, _ => b.worker.body.cycles

end WorkerBench

/-- Whether numbers follow one another at a fixed distance. -/
def areSpaced (distance : UInt64) : List UInt64 → Bool
  | a :: b :: rest => b == a + distance && areSpaced distance (b :: rest)
  | _ => true

/-- Whether numbers grow. -/
def areIncreasing : List UInt64 → Bool
  | a :: b :: rest => a < b && areIncreasing (b :: rest)
  | _ => true

/-- What a recorder says about the worker that ran it. -/
structure Verdict where
  onGrid : Bool
  contiguous : Bool
  cyclesAgree : Bool
  overrunsAgree : Bool
  slowOverran : Option Bool

def Verdict.ofExit (i : Incidents) (w : Worker Recorder) (exit : Worker.Exit Recorder) : Verdict :=
  let r := exit.body
  { onGrid := areSpaced w.config.period r.wakeups.toList
    contiguous := r.cycles[0]?.all (· == 0) && areSpaced 1 r.cycles.toList
    cyclesAgree := exit.statistics.cycles == w.completed && w.completed.toNat == r.cycles.size
    overrunsAgree := exit.statistics.overruns.toNat == r.overruns.size
    slowOverran := i.slowIn.map r.overruns.contains }

def Verdict.fields (v : Verdict) : List (String × Node) :=
  [field "grid" v.onGrid, field "contiguous" v.contiguous, field "cycles_match" v.cyclesAgree,
    field "overruns_match" v.overrunsAgree, field "slow_overran" v.slowOverran]

/-- For each drained window the cycle that closed it and its sample counts: periods, execution times
and latencies. -/
def Recorder.windowCounts (r : Recorder) : List (List UInt64) :=
  r.windows.toList.map fun (c, w) =>
    [c.cycle, w.period.samples, w.exec.samples, w.latency.samples]

end CyclicBus.Bench
