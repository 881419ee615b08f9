import CyclicBus.Saturating

/-!
# Cycle statistics

Three durations are followed: the period between two wakeups, the execution of a cycle, and the
latency of a wakeup. Each has a range over the whole run and one over the current window, which its
owner drains. Latencies are also kept in a ring for percentiles.
-/

namespace CyclicBus

/-- Least, greatest and number of some durations; `least` is the largest word while there is
none. -/
structure Statistics.Range where
  least : UInt64
  greatest : UInt64
  samples : UInt64
  deriving DecidableEq, Repr

/-- The ranges of a window, and the overruns in it. -/
structure Statistics.Window where
  period : Statistics.Range
  exec : Statistics.Range
  latency : Statistics.Range
  overruns : UInt64
  deriving DecidableEq, Repr

/-- The last latencies, at most `capacity` of them. `oldest` is the place that the next latency
takes once the ring is full, `scratch` the copy that the last query was answered from. -/
structure Statistics.Ring where
  capacity : Nat
  samples : Array UInt64
  oldest : Nat
  scratch : Array UInt64
  deriving DecidableEq, Repr

/-- The timing of a run so far. -/
structure Statistics where
  period : UInt64
  cycles : UInt64
  overruns : UInt64
  total : Statistics.Window
  window : Statistics.Window
  lastWakeup : Option UInt64
  ring : Statistics.Ring
  deriving DecidableEq, Repr

namespace Statistics

/-! ## Ranges -/

namespace Range

def empty : Range := ⟨.top, 0, 0⟩

def record (r : Range) (d : UInt64) : Range :=
  ⟨min r.least d, max r.greatest d, r.samples.satAdd 1⟩

def isEmpty (r : Range) : Bool := r.samples == 0

/-- Least and greatest, if there is a duration. -/
def bounds? (r : Range) : Option (UInt64 × UInt64) :=
  if r.isEmpty then none else some (r.least, r.greatest)

/-- The distance between least and greatest. -/
def spread (r : Range) : UInt64 :=
  match r.bounds? with
  | some (least, greatest) => greatest.satSub least
  | none => 0

def merge (r s : Range) : Range :=
  ⟨min r.least s.least, max r.greatest s.greatest, r.samples.satAdd s.samples⟩

/-- A range as shown in a report; zeros stand for an empty one. -/
def label (r : Range) : String :=
  let (least, greatest) := r.bounds?.getD (0, 0)
  s!"[{least}, {greatest}]ns"

end Range

/-! ## Windows -/

namespace Window

def empty : Window := ⟨.empty, .empty, .empty, 0⟩

/-- Take in one cycle; the first cycle of a run has no period. -/
def record (w : Window) (period : Option UInt64) (exec latency : UInt64) (overran : Bool) :
    Window where
  period := period.elim w.period w.period.record
  exec := w.exec.record exec
  latency := w.latency.record latency
  overruns := if overran then w.overruns.satAdd 1 else w.overruns

def merge (w v : Window) : Window :=
  ⟨w.period.merge v.period, w.exec.merge v.exec, w.latency.merge v.latency,
    w.overruns.satAdd v.overruns⟩

end Window

/-! ## The ring of latencies -/

namespace Ring

def ofCapacity (capacity : Nat) : Ring := ⟨capacity, #[], 0, #[]⟩

/-- Keep one latency: at the end while there is room, then in place of the oldest. -/
def push (r : Ring) (latency : UInt64) : Ring :=
  match r with
  | ⟨capacity, samples, oldest, scratch⟩ =>
    if capacity = 0 then ⟨capacity, samples, oldest, scratch⟩
    else if samples.size < capacity then ⟨capacity, samples.push latency, oldest, scratch⟩
    else if h : oldest < samples.size then
      ⟨capacity, samples.set oldest latency, (oldest + 1) % capacity, scratch⟩
    else ⟨capacity, samples, oldest, scratch⟩

def sorted (r : Ring) : List UInt64 := r.samples.toList.mergeSort (· ≤ ·)

/-- A fraction held at zero and at one; what is not a number stays so. -/
def held (fraction : Float) : Float :=
  if fraction < 0 then 0 else if 1 < fraction then 1 else fraction

/-- The place in increasing order that a fraction of `count` samples selects: their product in
floating point, cut off at the point, but never beyond the last place. -/
def selected (count : Nat) (fraction : Float) : Nat :=
  min (count.toUInt64.toFloat * held fraction).toUInt64.toNat (count - 1)

/-- The latency below which a fraction of those kept lies; zero if none is kept. It is looked up in
an ordered copy, which stays behind; the latencies themselves keep their places. -/
def query (r : Ring) (fraction : Float) : UInt64 × Ring :=
  if r.samples.isEmpty then (0, r)
  else
    let scratch := r.sorted.toArray
    (scratch.getD (selected scratch.size fraction) 0, { r with scratch })

end Ring

/-! ## Recording -/

/-- The number of latencies kept where nothing is said. -/
def standardCapacity : Nat := 10000

def fresh (period : UInt64) (capacity : Nat) : Statistics :=
  ⟨period, 0, 0, .empty, .empty, none, .ofCapacity capacity⟩

/-- Whether an execution takes longer than the period. -/
def overran (s : Statistics) (exec : UInt64) : Bool := s.period < exec

/-- Take in one cycle by its actual wakeup, its latency and its execution. -/
def record (s : Statistics) (wakeup latency exec : UInt64) : Statistics :=
  match s with
  | ⟨period, cycles, overruns, total, window, last, ring⟩ =>
    let late := decide (period < exec)
    let distance := last.map wakeup.satSub
    { period
      cycles := cycles.satAdd 1
      overruns := if late then overruns.satAdd 1 else overruns
      total := total.record distance exec latency late
      window := window.record distance exec latency late
      lastWakeup := some wakeup
      ring := ring.push latency }

/-- Start a new window; the drained one is `s.window`. -/
def drain (s : Statistics) : Statistics := { s with window := .empty }

def query (s : Statistics) (fraction : Float) : UInt64 × Statistics :=
  let (latency, ring) := s.ring.query fraction
  (latency, { s with ring })

def percentile (s : Statistics) (fraction : Float) : UInt64 := (s.query fraction).1

def percentile99 (s : Statistics) : UInt64 := s.percentile 0.99

/-- The share of cycles that overran. -/
def overrunRate (s : Statistics) : Float :=
  if s.cycles = 0 then 0 else s.overruns.toFloat / s.cycles.toFloat

def report (s : Statistics) : String :=
  s!"cycles={s.cycles} overruns={s.overruns} period={s.total.period.label} " ++
    s!"exec={s.total.exec.label} latency={s.total.latency.label}"

end Statistics

end CyclicBus
